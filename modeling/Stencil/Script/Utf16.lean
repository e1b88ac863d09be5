/-!
# Texts of 16-bit units

The texts that scripts work on are sequences of 16-bit units. A character beyond the first 2^16
takes two units, a surrogate pair; a surrogate may also stand alone, so not every such text can be
written as a `String`.
-/

namespace Stencil.Script

/-- A sequence of 16-bit units. -/
structure Utf16 where
  units : Array UInt16
  deriving DecidableEq, Hashable, Inhabited

namespace Utf16

/-! ### Surrogates -/

/-- Whether a unit begins a surrogate pair. -/
def isLead (u : UInt16) : Bool := 0xD800 ≤ u && u ≤ 0xDBFF

/-- Whether a unit ends a surrogate pair. -/
def isTrail (u : UInt16) : Bool := 0xDC00 ≤ u && u ≤ 0xDFFF

/-- The code point of a surrogate pair. -/
def joinPair (lead trail : UInt16) : Nat :=
  0x10000 + (lead.toNat - 0xD800) * 0x400 + (trail.toNat - 0xDC00)

/-- The units of a code point. -/
def unitsOf (n : Nat) : List UInt16 :=
  if n < 0x10000 then [UInt16.ofNat n]
  else
    let m := n - 0x10000
    [UInt16.ofNat (0xD800 + m / 0x400), UInt16.ofNat (0xDC00 + m % 0x400)]

/-! ### Conversions -/

def empty : Utf16 := ⟨#[]⟩

/-- The text of a list of code points, of which some may be surrogates. -/
def ofCodePoints (points : List Nat) : Utf16 :=
  ⟨(points.flatMap unitsOf).toArray⟩

/-- The text of a list of characters. -/
def ofChars (chars : List Char) : Utf16 :=
  ofCodePoints (chars.map Char.toNat)

/-- The text of a string. -/
def ofString (text : String) : Utf16 :=
  ofChars text.toList

/-- The code points of a list of units; a surrogate that stands alone counts as one. -/
def codePointsOf : List UInt16 → List Nat
  | []          => []
  | u :: v :: rest =>
    if isLead u && isTrail v then joinPair u v :: codePointsOf rest
    else u.toNat :: codePointsOf (v :: rest)
  | [u]         => [u.toNat]

/-- The code points of a text. -/
def codePoints (text : Utf16) : List Nat :=
  codePointsOf text.units.toList

/-- Whether a code point is a surrogate. -/
def isSurrogate (n : Nat) : Bool := 0xD800 ≤ n && n ≤ 0xDFFF

/-- The characters of a text; a surrogate that stands alone becomes the replacement character. -/
def toChars (text : Utf16) : List Char :=
  text.codePoints.map fun n => if isSurrogate n then '\uFFFD' else Char.ofNat n

/-- The text as a string; a surrogate that stands alone becomes the replacement character. -/
def toLossy (text : Utf16) : String :=
  String.ofList text.toChars

/-- A hexadecimal digit in upper case. -/
def hexDigit (n : Nat) : Char :=
  if n < 10 then Char.ofNat (n + 0x30) else Char.ofNat (n - 10 + 0x41)

/-- A unit written in four hexadecimal digits. -/
def hex4 (n : Nat) : List Char :=
  [hexDigit (n / 0x1000 % 16), hexDigit (n / 0x100 % 16), hexDigit (n / 0x10 % 16),
   hexDigit (n % 16)]

/-- The text as a string in which a surrogate that stands alone is written as an escape. -/
def toEscaped (text : Utf16) : String :=
  String.ofList (text.codePoints.flatMap fun n =>
    if isSurrogate n then '\\' :: 'u' :: hex4 n else [Char.ofNat n])

/-! ### Operations -/

def size (text : Utf16) : Nat := text.units.size

def isEmpty (text : Utf16) : Bool := text.units.isEmpty

def append (a b : Utf16) : Utf16 := ⟨a.units ++ b.units⟩

instance : Append Utf16 := ⟨append⟩

/-- The unit at an offset. -/
def at? (text : Utf16) (i : Nat) : Option UInt16 := text.units[i]?

/-- The units from `start` up to `stop`. -/
def slice (text : Utf16) (start stop : Nat) : Utf16 := ⟨text.units.extract start stop⟩

/-- The text of one unit. -/
def ofUnit (u : UInt16) : Utf16 := ⟨#[u]⟩

/-- Texts one after another. -/
def join (texts : List Utf16) : Utf16 :=
  ⟨texts.foldl (fun units text => units ++ text.units) #[]⟩

/-- Texts one after another with a separator between them. -/
def intercalate (separator : Utf16) : List Utf16 → Utf16
  | []            => empty
  | text :: texts => ⟨texts.foldl (fun units t => units ++ separator.units ++ t.units) text.units⟩

/-- Copies of a text one after another. -/
def repeated (text : Utf16) (count : Nat) : Utf16 :=
  join (List.replicate count text)

/-- Whether `piece` stands at offset `i`. -/
def hasAt (text piece : Utf16) (i : Nat) : Bool :=
  i + piece.size ≤ text.size && (text.units.extract i (i + piece.size) == piece.units)

/-- The first offset from `i` on where `piece` stands; `fuel` bounds how many are tried. -/
def find? (text piece : Utf16) : (fuel i : Nat) → Option Nat
  | 0, _        => none
  | fuel + 1, i =>
    if text.hasAt piece i then some i
    else if text.size < i + piece.size then none
    else find? text piece fuel (i + 1)

/-- The first offset from `i` on where `piece` stands. -/
def indexOf? (text piece : Utf16) (i : Nat) : Option Nat :=
  text.find? piece (text.size + 1) i

/-- The last offset up to `i` where `piece` stands. -/
def lastIndexOf? (text piece : Utf16) : (i : Nat) → Option Nat
  | 0     => if text.hasAt piece 0 then some 0 else none
  | i + 1 => if text.hasAt piece (i + 1) then some (i + 1) else lastIndexOf? text piece i

/-- The order of texts by their units. -/
def ltUnits : List UInt16 → List UInt16 → Bool
  | [], []             => false
  | [], _ :: _         => true
  | _ :: _, []         => false
  | a :: as, b :: bs   => if a < b then true else if b < a then false else ltUnits as bs

/-- The order of texts by their units. -/
def lt (a b : Utf16) : Bool := ltUnits a.units.toList b.units.toList

/-- The code point that begins at an offset, and how many units it takes. -/
def codePointAt? (text : Utf16) (i : Nat) : Option (Nat × Nat) :=
  match text.at? i with
  | none   => none
  | some u =>
    match text.at? (i + 1) with
    | some v => if isLead u && isTrail v then some (joinPair u v, 2) else some (u.toNat, 1)
    | none   => some (u.toNat, 1)

/-- Whether every unit is below 2^7 and satisfies a test of characters. -/
def allAscii (holds : Char → Bool) (text : Utf16) : Bool :=
  text.units.all fun u => u < 0x80 && holds (Char.ofNat u.toNat)

end Utf16

end Stencil.Script
