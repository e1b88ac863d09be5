import Stencil.TypeScript.Grammar

/-!
# Parsing a module

`parse` reads a source by the TypeScript grammar and puts its comments into the tree. Where the
source does not fit, the furthest place where a token was sought is reported.
-/

namespace Stencil.TypeScript

/-! ### Comments -/

/-- The comments in a text of white space and comments that begins at `start`; `skip` characters
are passed over first. -/
def commentsIn (start : Nat) : (skip : Nat) → List Char → List Tree
  | _, []               => []
  | skip + 1, c :: rest => commentsIn (start + c.utf8Size) skip rest
  | 0, text@(c :: rest) =>
    match comment? text with
    | some n =>
      .node (.kind .comment) none ⟨start, start + Text.size (text.take n)⟩ [] ::
        commentsIn (start + c.utf8Size) (n - 1) rest
    | none   => commentsIn (start + c.utf8Size) 0 rest

/-- The comments of the source from `start` up to `stop`. -/
def commentsBetween (source : List Char) (start stop : Nat) : List Tree :=
  if start + 1 < stop then commentsIn start 0 ((⟨start, stop⟩ : Span).slice source) else []

mutual

/-- Put the comments between the children of every node among them. -/
def Tree.withComments (source : List Char) : Tree → Tree
  | .node symbol role span children =>
    match children with
    | [] => .node symbol role span []
    | children =>
      .node symbol role span (Tree.withCommentsAmong source span.start span.stop children)

/-- Put the comments from `cursor` up to `stop` among these trees. -/
def Tree.withCommentsAmong (source : List Char) (cursor stop : Nat) : List Tree → List Tree
  | []            => commentsBetween source cursor stop
  | tree :: trees =>
    commentsBetween source cursor tree.start ++
      Tree.withComments source tree :: Tree.withCommentsAmong source tree.stop stop trees

end

/-! ### Modules -/

/-- Fuel that suffices for a text of this length. -/
def parsingFuel (length : Nat) : Nat :=
  128 * (length + 8)

/-- The tree of a whole module, with its comments. -/
def wholeModule (source : List Char) (tree : Tree) : Tree :=
  .node tree.symbol tree.role ⟨0, Text.size source⟩
    (Tree.withCommentsAmong source 0 (Text.size source) tree.children)

/-- The syntax tree of a module, or the furthest place where a token was sought. -/
def parse (source : List Char) : Except Nat Tree :=
  match Rule.read grammar (parsingFuel source.length) (.ref .program) [] (Place.first source) with
  | .fits (tree :: _) _ => .ok (wholeModule source tree)
  | .fits [] _          => .error 0
  | .misfits reach      => .error reach
  | .exhausted          => .error (Text.size source)

end Stencil.TypeScript
