import Stencil.Number.Literal
import Stencil.Script.Token

/-!
# Texts of numbers

How scripts write numbers, and which numbers the texts that scripts read stand for. Numbers are
written with the fewest digits that read back, without an exponent from `10 ^ -6` up to `10 ^ 21`.
-/

namespace Stencil.Script

open Number (Binary Decimal digitChars withPoint)

namespace NumberText

/-! ### Decimal texts -/

/-- An exponent with its sign. -/
def exponentChars (e : Int) : List Char :=
  'e' :: (if e < 0 then '-' else '+') :: digitChars e.natAbs

/-- Digits with a point after the first. -/
def scientificChars (digits : List Char) (e : Int) : List Char :=
  match digits with
  | [d]     => d :: exponentChars e
  | d :: ds => d :: '.' :: ds ++ exponentChars e
  | []      => exponentChars e

/-- The text of a positive number whose digits are known. -/
def decimalChars (d : Decimal) : List Char :=
  let digits := digitChars d.digits
  let point := d.leading + 1
  if -6 < point ∧ point ≤ 21 then
    if 0 ≤ d.exponent then digits ++ List.replicate d.exponent.toNat '0'
    else withPoint digits (-d.exponent).toNat
  else scientificChars digits d.leading

/-- Puts a minus before the text of a negative number. -/
def signed (negative : Bool) (text : List Char) : String :=
  String.ofList (if negative then '-' :: text else text)

/-- The text of a number. -/
def write (x : Float) : String :=
  match Number.decode x with
  | .nan               => "NaN"
  | .infinite negative => if negative then "-Infinity" else "Infinity"
  | .finite negative b =>
    if b.significand = 0 then "0" else signed negative (decimalChars b.shortest)

/-- A fraction rounded to a natural number, halves up. -/
def roundUp (num den : Nat) : Nat := (2 * num + den) / (2 * den)

/-- A finite magnitude times a power of ten, rounded to a natural number, halves up. -/
def scaledRound (b : Binary) (power : Int) : Nat :=
  let (num, den) := b.toRatio
  if 0 ≤ power then roundUp (num * Nat.pow 10 power.toNat) den
  else roundUp num (den * Nat.pow 10 (-power).toNat)

/-- A number with a fixed number of places. -/
def fixed (x : Float) (places : Nat) : String :=
  match Number.decode x with
  | .finite negative b =>
    if (b.toRatio.1 : Nat) ≥ Nat.pow 10 21 * b.toRatio.2 then write x
    else signed (negative && b.significand ≠ 0)
      (withPoint (digitChars (scaledRound b places)) places)
  | _ => write x

/-- The `count` leading digits of a positive magnitude and the exponent of the first. -/
def leadingDigits (b : Binary) (count : Nat) : List Char × Int :=
  if b.significand = 0 then (List.replicate count '0', 0)
  else
    let (num, den) := b.toRatio
    let e := Number.leadingExponent num den
    let digits := digitChars (scaledRound b (count - 1 - e))
    if digits.length > count then (digits.take count, e + 1) else (digits, e)

/-- A number with an exponent, and with a fixed number of places before it if one is given. -/
def exponential (x : Float) (places : Option Nat) : String :=
  match Number.decode x with
  | .finite negative b =>
    let (digits, e) := match places with
      | some places => leadingDigits b (places + 1)
      | none        =>
        if b.significand = 0 then (['0'], 0)
        else (digitChars b.shortest.digits, b.shortest.leading)
    signed (negative && b.significand ≠ 0) (scientificChars digits e)
  | _ => write x

/-- A number with a fixed number of digits. -/
def precise (x : Float) (count : Nat) : String :=
  match Number.decode x with
  | .finite negative b =>
    let (digits, e) := leadingDigits b count
    signed (negative && b.significand ≠ 0)
      (if e < -6 ∨ e ≥ count then scientificChars digits e
       else if 0 ≤ e then withPoint digits (count - 1 - e.toNat)
       else withPoint digits (count - 1 + (-e).toNat))
  | _ => write x

/-! ### Other bases -/

/-- A digit of a base up to 36. -/
def digitOf (n : Nat) : Char :=
  if n < 10 then Char.ofNat (n + 0x30) else Char.ofNat (n - 10 + 0x61)

/-- The digits of a natural number, the last first; `fuel` bounds their number. -/
def digitsBackward (base : Nat) : (fuel n : Nat) → List Nat
  | 0, _        => []
  | fuel + 1, n => if n < base then [n] else n % base :: digitsBackward base fuel (n / base)

/-- The text of an integer in a base. -/
def writeInt (base : Nat) (n : Int) : String :=
  signed (n < 0) ((digitsBackward base (n.natAbs.log2 + 1) n.natAbs).reverse.map digitOf)

/-- One more in the last place of digits that are given backward; `none` when all were the
greatest. -/
def carry (base : Nat) : List Nat → Option (List Nat)
  | []      => none
  | d :: ds => if d + 1 < base then some ((d + 1) :: ds) else carry base ds

/-- The digits of a fraction, the last first, until those read tell it from its neighbours, and
whether it was rounded up to one; `fuel` bounds their number. -/
def fractionDigits (base : Nat) : (fuel : Nat) → (fraction delta : Float) → List Nat →
    List Nat × Bool
  | 0, _, _, digits                  => (digits, false)
  | fuel + 1, fraction, delta, digits =>
    let fraction := fraction * base.toFloat
    let delta := delta * base.toFloat
    let digit := fraction.floor.toUInt64.toNat
    let fraction := fraction - digit.toFloat
    let digits := digit :: digits
    if (fraction > 0.5 || (fraction == 0.5 && digit % 2 == 1)) && fraction + delta > 1 then
      match carry base digits with
      | some digits => (digits, false)
      | none        => ([], true)
    else if fraction ≥ delta then fractionDigits base fuel fraction delta digits
    else (digits, false)

/-- The digits of a whole number, the last first; those beyond its precision are zeros. -/
def wholeDigits (base : Nat) : (fuel : Nat) → Float → List Nat
  | 0, _        => []
  | fuel + 1, x =>
    if x ≥ 9007199254740992 then 0 :: wholeDigits base fuel (x / base.toFloat)
    else digitsBackward base 64 x.floor.toUInt64.toNat

/-- The text of a number in a base. -/
def writeBased (base : Nat) (x : Float) : String :=
  match Number.decode x with
  | .finite negative b =>
    if base = 10 then write x
    else if b.significand = 0 then "0"
    else
      let x := x.abs
      let whole := x.floor
      let fraction := x - whole
      let delta := max (0.5 * (Float.ofBits (x.toBits + 1) - x)) (Float.ofBits 1)
      let (places, up) := if fraction ≥ delta then fractionDigits base 1100 fraction delta []
        else ([], false)
      let whole := (wholeDigits base 1100 (if up then whole + 1 else whole)).reverse.map digitOf
      let places := places.reverse.map digitOf
      signed negative (if places.isEmpty then whole else whole ++ '.' :: places)
  | _ => write x

/-! ### Reading -/

/-- Whether a character counts as space around numbers and texts. -/
def isBlank (c : Char) : Bool := Token.isSpace c || Token.isLineEnd c

/-- A text without the space around it. -/
def trim (text : List Char) : List Char :=
  ((text.dropWhile isBlank).reverse.dropWhile isBlank).reverse

def infinity : Float := Float.ofBits 0x7FF0000000000000

def nan : Float := Float.ofBits 0x7FF8000000000000

/-- Decimal digits at the front of a text, and the rest. -/
def spanDigits (text : List Char) : List Nat × List Char :=
  let digits := text.takeWhile Char.isDigit
  (digits.map fun c => c.toNat - 0x30, text.drop digits.length)

/-- The exponent at the front of a text, if a whole one stands there. -/
def spanExponent (text : List Char) : Int × List Char :=
  match text with
  | e :: rest =>
    if e == 'e' || e == 'E' then
      let (negative, rest) := match rest with
        | '-' :: rest => (true, rest)
        | '+' :: rest => (false, rest)
        | rest        => (false, rest)
      match spanDigits rest with
      | ([], _)        => (0, text)
      | (digits, rest) =>
        let value : Int := Number.ofDigits 10 digits
        (if negative then -value else value, rest)
    else (0, text)
  | []        => (0, [])

/-- The number without a sign at the front of a text, and the rest. -/
def spanMagnitude (text : List Char) : Option (Float × List Char) :=
  if "Infinity".toList.isPrefixOf text then some (infinity, text.drop 8)
  else
    let (whole, rest) := spanDigits text
    let (places, rest) := match rest with
      | '.' :: rest =>
        if whole.isEmpty && (spanDigits rest).1.isEmpty then ([], '.' :: rest) else spanDigits rest
      | rest        => ([], rest)
    if whole.isEmpty && places.isEmpty then none
    else
      let (exponent, rest) := spanExponent rest
      some (Number.ofDecimal ⟨Number.ofDigits 10 (whole ++ places), exponent - places.length⟩, rest)

/-- The number with an optional sign at the front of a text, and the rest. -/
def spanNumber (text : List Char) : Option (Float × List Char) :=
  match text with
  | '-' :: rest => (spanMagnitude rest).map fun (x, rest) => (-x, rest)
  | '+' :: rest => spanMagnitude rest
  | _           => spanMagnitude text

/-- The number that a nonempty text of digits stands for in a base. -/
def readBased (base : Nat) (digits : List Char) : Float :=
  match Number.readNat? base digits with
  | some n => Number.ofRatio n 1
  | none   => nan

/-- The number that a text stands for. -/
def read (text : List Char) : Float :=
  match trim text with
  | []                   => 0
  | '0' :: 'x' :: digits => readBased 16 digits
  | '0' :: 'X' :: digits => readBased 16 digits
  | '0' :: 'o' :: digits => readBased 8 digits
  | '0' :: 'O' :: digits => readBased 8 digits
  | '0' :: 'b' :: digits => readBased 2 digits
  | '0' :: 'B' :: digits => readBased 2 digits
  | text                 =>
    match spanNumber text with
    | some (x, []) => x
    | _            => nan

/-- The number at the front of a text. -/
def readFront (text : List Char) : Float :=
  match spanNumber (text.dropWhile isBlank) with
  | some (x, _) => x
  | none        => nan

/-- The integer at the front of a text, in a base or, when that is zero, in the one its lead
names. -/
def readIntFront (text : List Char) (base : Int) : Float :=
  let text := text.dropWhile isBlank
  let (negative, text) := match text with
    | '-' :: rest => (true, rest)
    | '+' :: rest => (false, rest)
    | text        => (false, text)
  if base ≠ 0 ∧ (base < 2 ∨ 36 < base) then nan
  else
    let (base, text) := match text with
      | '0' :: 'x' :: rest => if base = 0 ∨ base = 16 then (16, rest) else (base.toNat, text)
      | '0' :: 'X' :: rest => if base = 0 ∨ base = 16 then (16, rest) else (base.toNat, text)
      | _                  => (if base = 0 then 10 else base.toNat, text)
    let digits := text.takeWhile fun c => (Number.digitValue? base c).isSome
    match Number.readNat? base digits with
    | some n =>
      let x := Number.ofRatio n 1
      if negative then -x else x
    | none   => nan

/-- The integer that a text stands for. -/
def readInt? (text : List Char) : Option Int :=
  let based (base : Nat) (digits : List Char) : Option Int :=
    (Number.readNat? base digits).map Int.ofNat
  match trim text with
  | []                   => some 0
  | '0' :: 'x' :: digits => based 16 digits
  | '0' :: 'X' :: digits => based 16 digits
  | '0' :: 'o' :: digits => based 8 digits
  | '0' :: 'O' :: digits => based 8 digits
  | '0' :: 'b' :: digits => based 2 digits
  | '0' :: 'B' :: digits => based 2 digits
  | '-' :: digits        => (based 10 digits).map fun n => -n
  | '+' :: digits        => based 10 digits
  | digits               => based 10 digits

end NumberText

end Stencil.Script
