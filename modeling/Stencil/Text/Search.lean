/-!
# Search in a text

Whether one text occurs in another.
-/

namespace Stencil.Text

/-- Whether `piece` stands somewhere in the text. -/
def holds (piece : List Char) : List Char → Bool
  | []          => piece.isEmpty
  | text@(_ :: rest) => piece.isPrefixOf text || holds piece rest

end Stencil.Text
