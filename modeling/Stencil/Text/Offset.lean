/-!
# Offsets in a text

An offset counts the bytes that the characters before it take in UTF-8, so an offset may lie inside
a character. `cut?` divides a text at an offset and fails where no character begins.
-/

namespace Stencil.Text

/-- The bytes that a text takes. -/
def size : List Char → Nat
  | []        => 0
  | c :: text => c.utf8Size + size text

/-- The characters that end by an offset. -/
def before : List Char → (offset : Nat) → List Char
  | [], _             => []
  | c :: text, offset => if c.utf8Size ≤ offset then c :: before text (offset - c.utf8Size) else []

/-- The characters that begin at an offset or later. -/
def after : List Char → (offset : Nat) → List Char
  | [], _             => []
  | c :: text, offset => if 0 < offset then after text (offset - c.utf8Size) else c :: text

/-- The text before an offset and the text from there on; `none` where the offset lies inside a
character or past the end. -/
def cut? (text : List Char) (offset : Nat) : Option (List Char × List Char) :=
  let first := before text offset
  if size first = offset then some (first, after text offset) else none

end Stencil.Text
