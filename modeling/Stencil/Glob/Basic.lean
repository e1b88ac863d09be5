/-!
# Globs

A glob describes paths by a pattern. `Glob` holds the pieces of a pattern in their order; what they
match is told in `Stencil.Glob.Matching`.
-/

namespace Stencil

/-- A piece of a glob. -/
inductive Glob.Piece where
  | literal (c : Char)
  /-- One byte of a name. -/
  | anyByte
  /-- Any part of a name. -/
  | anyPart
  /-- Any directories at the front of a path. -/
  | leading
  /-- Everything within a directory. -/
  | trailing
  /-- A separator with any directories behind it. -/
  | between
  /-- One byte within ranges, or outside of them. -/
  | set (isNegated : Bool) (ranges : List (Char × Char))
  /-- One of several patterns. -/
  | choice (branches : List (List Glob.Piece))

/-- A description of paths. -/
structure Glob where
  pieces : List Glob.Piece

end Stencil
