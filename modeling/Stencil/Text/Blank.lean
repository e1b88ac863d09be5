/-!
# Blank characters

The characters with the Unicode property `White_Space`. They are what trimming removes and what
makes a name blank.
-/

namespace Stencil.Text

/-- Whether a character has the Unicode property `White_Space`. -/
def isBlank (c : Char) : Bool :=
  let n := c.toNat
  (0x09 ≤ n && n ≤ 0x0D) || n == 0x20 || n == 0x85 || n == 0xA0 || n == 0x1680 ||
  (0x2000 ≤ n && n ≤ 0x200A) || n == 0x2028 || n == 0x2029 || n == 0x202F || n == 0x205F ||
  n == 0x3000

/-- Remove blank characters from the front. -/
def trimFront (text : List Char) : List Char :=
  text.dropWhile isBlank

/-- Remove blank characters from the end. -/
def trimBack (text : List Char) : List Char :=
  (text.reverse.dropWhile isBlank).reverse

/-- Remove blank characters from both ends. -/
def trimChars (text : List Char) : List Char :=
  trimBack (trimFront text)

/-- Remove blank characters from both ends. -/
def trim (text : String) : String :=
  String.ofList (trimChars text.toList)

end Stencil.Text
