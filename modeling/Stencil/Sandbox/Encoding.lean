import Stencil.Script.Utf16
import Stencil.Text.Utf8

/-!
# Encodings of bytes

How texts stand for bytes. `Encoding.encode` gives the bytes of a text and `Encoding.decode` the text
of bytes. Reading digits is lenient: hexadecimal ones end at the first pair that is none, and those
of base 64 may come from either alphabet, with other characters between them. The decoder of base 64
itself is strict, so a text is cleared for it first.
-/

namespace Stencil.Sandbox

inductive Encoding where
  | utf8 | hex | base64 | base64url | latin1 | ascii
  deriving DecidableEq

/-- The encoding of a name in any case of letters. -/
def Encoding.ofName? (name : String) : Option Encoding :=
  match String.ofList (name.toList.map Char.toLower) with
  | "utf8"      => some .utf8
  | "utf-8"     => some .utf8
  | "hex"       => some .hex
  | "base64"    => some .base64
  | "base64url" => some .base64url
  | "latin1"    => some .latin1
  | "binary"    => some .latin1
  | "ascii"     => some .ascii
  | _           => none

/-! ### Hexadecimal digits -/

namespace Hex

/-- The value of a digit in either case, by its byte. -/
def digit? (b : UInt8) : Option UInt8 :=
  if 0x30 ≤ b && b ≤ 0x39 then some (b - 0x30)
  else if 0x61 ≤ b && b ≤ 0x66 then some (b - 0x61 + 10)
  else if 0x41 ≤ b && b ≤ 0x46 then some (b - 0x41 + 10)
  else none

/-- The byte that two digits write. A plus sign before a digit counts as a zero. -/
def pair? (high low : UInt8) : Option UInt8 :=
  match digit? high, digit? low with
  | some a, some b => some (16 * a + b)
  | none, some b   => if high = 0x2B then some b else none
  | _, none        => none

/-- The bytes that pairs of digits write, up to the first pair that is none. -/
def read : List UInt8 → List UInt8
  | high :: low :: rest =>
    match pair? high low with
    | some b => b :: read rest
    | none   => []
  | _ => []

/-- A digit in lower case. -/
def digitChar (b : UInt8) : Char :=
  if b < 10 then Char.ofNat (0x30 + b.toNat) else Char.ofNat (0x61 + (b.toNat - 10))

/-- The digits of bytes. -/
def write (bytes : List UInt8) : List Char :=
  bytes.flatMap fun b => [digitChar (b / 16), digitChar (b % 16)]

end Hex

/-! ### Base 64 -/

namespace Base64

/-- The value of a digit of the common alphabet. -/
def digit? (c : Char) : Option Nat :=
  if 'A' ≤ c && c ≤ 'Z' then some (c.toNat - 'A'.toNat)
  else if 'a' ≤ c && c ≤ 'z' then some (c.toNat - 'a'.toNat + 26)
  else if '0' ≤ c && c ≤ '9' then some (c.toNat - '0'.toNat + 52)
  else if c = '+' then some 62
  else if c = '/' then some 63
  else none

/-- A digit of either alphabet as a digit of the common one. -/
def toCommon? (c : Char) : Option Char :=
  if c = '-' then some '+'
  else if c = '_' then some '/'
  else if c.isAlphanum || c = '+' || c = '/' then some c
  else none

/-- The digits before the first `=` in the common alphabet; other characters do not count. -/
def digits (text : List Char) : List Char :=
  (text.takeWhile (· ≠ '=')).filterMap toCommon?

/-- Digits without one at the end that is alone in its group of four, as that has no whole byte. -/
def withoutLone (digits : List Char) : List Char :=
  if digits.length % 4 = 1 then digits.dropLast else digits

/-- The bytes that digits write, four of them for three bytes. Bits that are left over do not
count. -/
def group : List Nat → List UInt8
  | a :: b :: c :: d :: rest =>
    UInt8.ofNat (4 * a + b / 16) :: UInt8.ofNat (16 * (b % 16) + c / 4) ::
      UInt8.ofNat (64 * (c % 4) + d) :: group rest
  | [a, b, c] => [UInt8.ofNat (4 * a + b / 16), UInt8.ofNat (16 * (b % 16) + c / 4)]
  | [a, b]    => [UInt8.ofNat (4 * a + b / 16)]
  | _         => []

/-- Whether padding may stand behind so many digits. It may always be left out; with the digits of the
last group, which are at least two, it makes up four characters at most. -/
def mayPad (count : Nat) (padding : List Char) : Bool :=
  padding.isEmpty ||
    padding.all (· = '=') && 2 ≤ count % 4 && count % 4 + padding.length ≤ 4

/-- The bytes that digits of the common alphabet write, with padding behind them or without. There are
none if anything else stands in the text or a digit is alone in the last group; what bits are left
over does not matter. -/
def decode? (text : List Char) : Option (List UInt8) := do
  let values ← (text.takeWhile (· ≠ '=')).mapM digit?
  if values.length % 4 = 1 || !mayPad values.length (text.dropWhile (· ≠ '=')) then none
  else some (group values)

/-- The bytes that a text writes, and no bytes if they cannot be decoded. -/
def read (text : List Char) : List UInt8 :=
  (decode? (withoutLone (digits text))).getD []

/-- A digit of the alphabet whose last two digits are given. -/
def digitChar (last : Char × Char) (n : Nat) : Char :=
  if n < 26 then Char.ofNat ('A'.toNat + n)
  else if n < 52 then Char.ofNat ('a'.toNat + (n - 26))
  else if n < 62 then Char.ofNat ('0'.toNat + (n - 52))
  else if n = 62 then last.1
  else last.2

/-- The digits of bytes, four of them for three bytes. Fewer bytes at the end have fewer digits, made
up to four by `=` where that is wanted. -/
def write (last : Char × Char) (pads : Bool) : List UInt8 → List Char
  | a :: b :: c :: rest =>
    digitChar last (a.toNat / 4) :: digitChar last (a.toNat % 4 * 16 + b.toNat / 16) ::
      digitChar last (b.toNat % 16 * 4 + c.toNat / 64) :: digitChar last (c.toNat % 64) ::
      write last pads rest
  | [a, b] =>
    [digitChar last (a.toNat / 4), digitChar last (a.toNat % 4 * 16 + b.toNat / 16),
      digitChar last (b.toNat % 16 * 4)] ++ (if pads then ['='] else [])
  | [a]    =>
    [digitChar last (a.toNat / 4), digitChar last (a.toNat % 4 * 16)] ++
      (if pads then ['=', '='] else [])
  | []     => []

/-- The last two digits of the common alphabet. -/
def common : Char × Char := ('+', '/')

/-- The last two digits of the alphabet for addresses and file names. -/
def forNames : Char × Char := ('-', '_')

end Base64

/-! ### Encodings -/

namespace Encoding

/-- The bytes of a text that is read in an encoding. -/
def encode (encoding : Encoding) (text : List Char) : List UInt8 :=
  match encoding with
  | utf8      => Text.utf8Bytes text
  | hex       => Hex.read (Text.utf8Bytes text)
  | base64    => Base64.read text
  | base64url => Base64.read text
  | latin1    => (Script.Utf16.ofChars text).units.toList.map fun u => UInt8.ofNat u.toNat
  | ascii     => (Script.Utf16.ofChars text).units.toList.map fun u => UInt8.ofNat u.toNat

/-- The text of bytes that are written in an encoding. -/
def decode (encoding : Encoding) (bytes : List UInt8) : List Char :=
  match encoding with
  | utf8      => Text.decodeLossy bytes
  | hex       => Hex.write bytes
  | base64    => Base64.write Base64.common true bytes
  | base64url => Base64.write Base64.forNames false bytes
  | latin1    => bytes.map fun b => Char.ofNat b.toNat
  | ascii     => bytes.map fun b => Char.ofNat (b.toNat % 128)

end Encoding

end Stencil.Sandbox
