import Stencil.Number.Decimal

/-!
# Faults of JSON texts

Why a JSON text cannot be read as what is wanted, and the wording of each cause. `Place` is the line
and the column that a message ends with.
-/

namespace Stencil.Json

/-! ### What was found -/

/-- A number with a point, so that it is told from an integer. -/
def floatChars (x : Float) : List Char :=
  match Number.decode x with
  | .nan               => "NaN".toList
  | .infinite negative => if negative then "-inf".toList else "inf".toList
  | .finite negative b =>
    let magnitude :=
      if b.significand = 0 then "0.0".toList
      else
        let d := b.shortest
        let digits := Number.digitChars d.digits
        let point := d.leading + 1
        if 0 ≤ d.exponent && point ≤ 16 then
          digits ++ List.replicate d.exponent.toNat '0' ++ ['.', '0']
        else if -5 < point && point ≤ 16 then Number.withPoint digits (-d.exponent).toNat
        else
          let first := match digits with
            | c :: r :: rest => c :: '.' :: r :: rest
            | digits         => digits
          first ++ 'e' :: (if d.leading < 0 then ['-'] else []) ++ Number.digitChars d.leading.natAbs
    if negative then '-' :: magnitude else magnitude

/-- Whether a character is shown by its number: it is invisible, space or a mark on the one before
it. -/
def isInvisible (c : Char) : Bool :=
  let n := c.toNat
  n < 0x20 || (0x7F ≤ n && n ≤ 0xA0) || n = 0xAD || (0x300 ≤ n && n ≤ 0x36F) || n = 0x1680 ||
    (0x2000 ≤ n && n ≤ 0x200F) || (0x2028 ≤ n && n ≤ 0x202F) || (0x205F ≤ n && n ≤ 0x206F) ||
    n = 0x3000 || (0xE000 ≤ n && n ≤ 0xF8FF) || (0xFE00 ≤ n && n ≤ 0xFE0F) || n = 0xFEFF ||
    (0xFFF0 ≤ n && n ≤ 0xFFFB) || 0xE0000 ≤ n

/-- A character as it is shown within quotes. -/
def shownChar (c : Char) : List Char :=
  match c with
  | '\t' => ['\\', 't']
  | '\n' => ['\\', 'n']
  | '\r' => ['\\', 'r']
  | '"'  => ['\\', '"']
  | '\\' => ['\\', '\\']
  | _    =>
    if c.toNat = 0 then ['\\', '0']
    else if isInvisible c then
      "\\u\x7b".toList ++ Nat.toDigits 16 c.toNat ++ ['\x7d']
    else [c]

/-- What a text holds where something else is wanted. -/
inductive Found where
  | null
  | bool (value : Bool)
  | integer (value : Int)
  | float (value : Float)
  | text (value : List Char)
  | list
  | object

def Found.describe : Found → String
  | null      => "null"
  | bool b    => "boolean `" ++ (if b then "true" else "false") ++ "`"
  | integer n => "integer `" ++ toString n ++ "`"
  | float x   => "floating point `" ++ String.ofList (floatChars x) ++ "`"
  | text s    => "string \"" ++ String.ofList (s.flatMap shownChar) ++ "\""
  | list      => "sequence"
  | object    => "map"

/-! ### Faults -/

inductive Fault where
  | endOfList | endOfObject | endOfText | endOfValue
  | noColon | noListEnd | noObjectEnd
  | badWord | noValue | badEscape | badNumber | numberTooLarge
  | controlCharacter | keyNotText | loneSurrogate | halfSurrogate
  | trailingComma | trailingText | tooDeep
  | wrongType (found : Found) (wanted : String)
  | duplicateField (name : String)
  | noVariant (type : String)

/-- The wording of a fault. -/
def Fault.message : Fault → String
  | endOfList              => "EOF while parsing a list"
  | endOfObject            => "EOF while parsing an object"
  | endOfText              => "EOF while parsing a string"
  | endOfValue             => "EOF while parsing a value"
  | noColon                => "expected `:`"
  | noListEnd              => "expected `,` or `]`"
  | noObjectEnd            => "expected `,` or `\x7d`"
  | badWord                => "expected ident"
  | noValue                => "expected value"
  | badEscape              => "invalid escape"
  | badNumber              => "invalid number"
  | numberTooLarge         => "number out of range"
  | controlCharacter       =>
    "control character (\\u0000-\\u001F) found while parsing a string"
  | keyNotText             => "key must be a string"
  | loneSurrogate          => "lone leading surrogate in hex escape"
  | halfSurrogate          => "unexpected end of hex escape"
  | trailingComma          => "trailing comma"
  | trailingText           => "trailing characters"
  | tooDeep                => "recursion limit exceeded"
  | wrongType found wanted => "invalid type: " ++ found.describe ++ ", expected " ++ wanted
  | duplicateField name    => "duplicate field `" ++ name ++ "`"
  | noVariant type         => "data did not match any variant of untagged enum " ++ type

/-- A place in a text: its line and, in bytes, its column. -/
structure Place where
  line : Nat
  column : Nat

/-- The place after some bytes. -/
def Place.after (bytes : List UInt8) : Place :=
  let column := (bytes.reverse.takeWhile (· ≠ 10)).length
  ⟨1 + bytes.count 10, column⟩

/-- The wording of a fault at a place. -/
def Fault.messageAt (fault : Fault) (place : Place) : String :=
  fault.message ++ " at line " ++ toString place.line ++ " column " ++ toString place.column

end Stencil.Json
