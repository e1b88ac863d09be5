import Stencil.Script.Library.Numbers

/-!
# Global functions

The functions that are not members of anything: those on numbers, those that write texts as parts of
addresses and read them back, and `eval`.
-/

namespace Stencil.Script.Library

/-! ### Addresses -/

/-- The two digits of a byte. -/
def hexByte (b : Nat) : List Char :=
  [Utf16.hexDigit (b / 16), Utf16.hexDigit (b % 16)]

/-- The characters that stand for themselves in every part of an address. -/
def isUnreserved (c : Char) : Bool := c.isAlphanum || "-_.!~*'()".contains c

/-- The characters that separate the parts of an address. -/
def isReserved (c : Char) : Bool := ";/?:@&=+$,#".contains c

/-- Writes the bytes of characters as digits after a percent sign, except those that are kept. -/
def encodeAddress (keeps : Char → Bool) (text : Utf16) : Exec Value := do
  let points := text.codePoints
  if points.any Utf16.isSurrogate then throwNew .uriError "invalid character in URI"
  let encoded := points.flatMap fun n =>
    let c := Char.ofNat n
    if keeps c then [c]
    else c.toString.toUTF8.toList.flatMap fun b => '%' :: hexByte b.toNat
  return .text (.ofChars encoded)

/-- The number that two hexadecimal digits write. -/
def hexPair? (a b : Char) : Option Nat := do
  return 16 * (← Number.digitValue? 16 a) + (← Number.digitValue? 16 b)

/-- The number of bytes of a character, by its first byte. -/
def sequenceLength (b : Nat) : Nat :=
  if b < 0x80 then 1
  else if b < 0xC0 then 0
  else if b < 0xE0 then 2
  else if b < 0xF0 then 3
  else if b < 0xF8 then 4
  else 0

/-- So many bytes that are written as digits after percent signs, and what follows. -/
def takeBytes : (count : Nat) → List Char → Option (List UInt8 × List Char)
  | 0, rest                              => some ([], rest)
  | count + 1, '%' :: a :: b :: rest => do
    let (bytes, rest) ← takeBytes count rest
    return (UInt8.ofNat (← hexPair? a b) :: bytes, rest)
  | _ + 1, _                             => none

/-- Reads digits after percent signs as the bytes of characters. Characters that are kept stay as
they are written. `fuel` bounds the number of characters. -/
def decodeChars (keeps : Char → Bool) : (fuel : Nat) → List Char → Option (List Char)
  | 0, _                           => some []
  | _ + 1, []                      => some []
  | fuel + 1, '%' :: rest          => do
    let (first, _) ← takeBytes 1 ('%' :: rest)
    let length := sequenceLength (first.headD 0).toNat
    if length = 0 then none
    else
      let (bytes, after) ← takeBytes length ('%' :: rest)
      let text ← String.fromUTF8? (ByteArray.mk bytes.toArray)
      let others ← decodeChars keeps fuel after
      match text.toList with
      | [c] => if keeps c then some (('%' :: rest.take 2) ++ others) else some (c :: others)
      | _   => none
  | fuel + 1, c :: rest            => do return c :: (← decodeChars keeps fuel rest)

def decodeAddress (keeps : Char → Bool) (text : Utf16) : Exec Value := do
  let chars := text.toChars
  match decodeChars keeps (chars.length + 1) chars with
  | some chars => return .text (.ofChars chars)
  | none       => throwNew .uriError "invalid hexadecimal value"

/-- Writes units as digits, except those of plain characters. -/
def escapeUnits (text : Utf16) : Utf16 :=
  .ofChars (text.units.toList.flatMap fun u =>
    let n := u.toNat
    let c := Char.ofNat n
    if n < 128 && (c.isAlphanum || "@*_+-./".contains c) then [c]
    else if n < 256 then '%' :: hexByte n
    else '%' :: 'u' :: hexByte (n / 256) ++ hexByte (n % 256))

/-- Reads units that are written as digits. -/
def unescapeUnits : List Char → List UInt16
  | '%' :: 'u' :: a :: b :: c :: d :: rest =>
    match hexPair? a b, hexPair? c d with
    | some high, some low => UInt16.ofNat (256 * high + low) :: unescapeUnits rest
    | _, _ => UInt16.ofNat '%'.toNat :: unescapeUnits ('u' :: a :: b :: c :: d :: rest)
  | '%' :: a :: b :: rest                  =>
    match hexPair? a b with
    | some n => UInt16.ofNat n :: unescapeUnits rest
    | none   => UInt16.ofNat '%'.toNat :: unescapeUnits (a :: b :: rest)
  | c :: rest                              => Utf16.unitsOf c.toNat ++ unescapeUnits rest
  | []                                     => []
  termination_by text => text.length

/-! ### The functions -/

/-- Runs the script that a text is. -/
def evalMember : Builtin :=
  method "eval" 1 fun i => do
    match i.arg 0 with
    | .text t => evaluateText t.toChars
    | v       => return v

def globalMembers : List Builtin := [
  parseFloatMember,
  parseIntMember,
  method "isFinite" 1 fun i => do return .bool (isFinite (← toNumber (i.arg 0))),
  method "isNaN" 1 fun i => do return .bool (← toNumber (i.arg 0)).isNaN,
  method "decodeURI" 1 fun i => do decodeAddress isReserved (← toText (i.arg 0)),
  method "decodeURIComponent" 1 fun i => do
    decodeAddress (fun _ => false) (← toText (i.arg 0)),
  method "encodeURI" 1 fun i => do
    encodeAddress (fun c => isUnreserved c || isReserved c) (← toText (i.arg 0)),
  method "encodeURIComponent" 1 fun i => do encodeAddress isUnreserved (← toText (i.arg 0)),
  method "escape" 1 fun i => do return .text (escapeUnits (← toText (i.arg 0))),
  method "unescape" 1 fun i => do
    return .text ⟨(unescapeUnits (← toText (i.arg 0)).toChars).toArray⟩]

end Stencil.Script.Library
