import Stencil.Text.Offset

/-!
# Lines

A line ends at a line feed, and a carriage return right before that belongs to the ending.
-/

namespace Stencil.Text

/-- The first line of a text, without its ending. -/
def firstLine (text : List Char) : List Char :=
  let line := text.takeWhile (· ≠ '\n')
  if line.length < text.length ∧ line.getLast? = some '\r' then line.dropLast else line

/-- The number of line feeds in a text. -/
def countLineFeeds (text : List Char) : Nat :=
  text.count '\n'

/-- The number, from one, of the line that holds the character at `offset`. -/
def lineAt (text : List Char) (offset : Nat) : Nat :=
  countLineFeeds (before text offset) + 1

end Stencil.Text
