import Stencil.Number.Binary

/-!
# Decimals

`shortest` writes a floating-point number with the fewest digits that read back as the same
number, and of those with the digits nearest to it. `ofDecimal` reads a decimal as the nearest
floating-point number.
-/

namespace Stencil.Number

/-- A decimal without its sign: `digits * 10 ^ exponent`. -/
structure Decimal where
  digits : Nat
  exponent : Int
  deriving DecidableEq

/-- The digits of a natural number, the most significant first. -/
def digitChars (n : Nat) : List Char :=
  Nat.toDigits 10 n

namespace Decimal

/-- The number of digits. -/
def width (d : Decimal) : Nat :=
  (digitChars d.digits).length

/-- The exponent of the leading digit. -/
def leading (d : Decimal) : Int :=
  d.exponent + d.width - 1

/-- Remove trailing zeros; `fuel` bounds their number. -/
def trimmed : (fuel : Nat) → Decimal → Decimal
  | 0, d        => d
  | fuel + 1, d =>
    if d.digits ≠ 0 ∧ d.digits % 10 = 0 then trimmed fuel ⟨d.digits / 10, d.exponent + 1⟩ else d

end Decimal

/-! ### Shortest digits -/

/-- The numbers that read as one floating-point number, on a common scale: all of them are
`x / den` for `x` between `low` and `high`, the ends included or not. -/
structure Interval where
  low : Nat
  value : Nat
  high : Nat
  den : Nat
  closed : Bool

/-- The interval of a positive number. -/
def Binary.interval (b : Binary) : Interval :=
  let narrow := b.significand = 1 <<< 52 ∧ b.exponent > -1074
  let up := if 2 ≤ b.exponent then 1 <<< (b.exponent - 2).toNat else 1
  let den := if 2 ≤ b.exponent then 1 else 1 <<< (2 - b.exponent).toNat
  let m := 4 * b.significand
  { low    := (if narrow then m - 1 else m - 2) * up
    value  := m * up
    high   := (m + 2) * up
    den    := den
    closed := b.significand % 2 = 0 }

/-- Whether a decimal lies in the interval. -/
def Interval.holds (i : Interval) (d : Decimal) : Bool :=
  let scaled := if 0 ≤ d.exponent then d.digits * Nat.pow 10 d.exponent.toNat * i.den
    else d.digits * i.den
  let unit := if 0 ≤ d.exponent then 1 else Nat.pow 10 (-d.exponent).toNat
  if i.closed then i.low * unit ≤ scaled && scaled ≤ i.high * unit
  else i.low * unit < scaled && scaled < i.high * unit

/-- The greatest `k` such that `10 ^ k` is at most the quotient, from a first guess; `fuel`
bounds how far off the guess is. -/
def decimalOrder (num den : Nat) : (fuel : Nat) → (guess : Int) → Int
  | 0, k        => k
  | fuel + 1, k =>
    let atMost (k : Int) : Bool :=
      if 0 ≤ k then Nat.pow 10 k.toNat * den ≤ num else den ≤ num * Nat.pow 10 (-k).toNat
    if !atMost k then decimalOrder num den fuel (k - 1)
    else if atMost (k + 1) then decimalOrder num den fuel (k + 1)
    else k

/-- The exponent of the leading decimal digit of a positive quotient. -/
def leadingExponent (num den : Nat) : Int :=
  decimalOrder num den 8 ((((num.log2 : Int) - den.log2) * 30103) / 100000)

/-- The two neighbours of the value on the grid `10 ^ exponent`, the nearer one first; of two that
are equally near the even one is first. -/
def Interval.neighbours (i : Interval) (exponent : Int) : Decimal × Decimal :=
  let num := if 0 ≤ exponent then i.value else i.value * Nat.pow 10 (-exponent).toNat
  let den := if 0 ≤ exponent then i.den * Nat.pow 10 exponent.toNat else i.den
  let down := num / den
  let rest := num % den
  let upFirst := 2 * rest > den ∨ (2 * rest = den ∧ down % 2 = 1)
  if upFirst then (⟨down + 1, exponent⟩, ⟨down, exponent⟩)
  else (⟨down, exponent⟩, ⟨down + 1, exponent⟩)

/-- The first grid, from `count` digits on, that has a point in the interval. -/
def Interval.shortestFrom (i : Interval) (leading : Int) : (fuel count : Nat) → Decimal
  | 0, count        => (i.neighbours (leading - count + 1)).1
  | fuel + 1, count =>
    let (near, far) := i.neighbours (leading - count + 1)
    if i.holds near then near
    else if i.holds far then far
    else i.shortestFrom leading fuel (count + 1)

/-- The shortest decimal that reads back as this number, without trailing zeros. -/
def Binary.shortest (b : Binary) : Decimal :=
  if b.significand = 0 then ⟨0, 0⟩
  else
    let i := b.interval
    Decimal.trimmed 400 (i.shortestFrom (leadingExponent i.value i.den) 17 1)

/-! ### Places -/

/-- Digits with a point before the last `places` of them, with as many leading zeros as it
takes. -/
def withPoint (digits : List Char) (places : Nat) : List Char :=
  if places = 0 then digits
  else
    let padded := List.replicate (places + 1 - digits.length) '0' ++ digits
    padded.take (padded.length - places) ++ '.' :: padded.drop (padded.length - places)

/-- A decimal written out without an exponent. -/
def Decimal.positional (d : Decimal) : List Char :=
  if 0 ≤ d.exponent then
    if d.digits = 0 then ['0']
    else digitChars d.digits ++ List.replicate d.exponent.toNat '0'
  else withPoint (digitChars d.digits) (-d.exponent).toNat

/-- A number written out without an exponent. -/
def plain (x : Float) : String :=
  match decode x with
  | .nan               => "NaN"
  | .infinite negative => if negative then "-inf" else "inf"
  | .finite negative b =>
    let text := String.ofList b.shortest.positional
    if negative then "-" ++ text else text

/-! ### Reading -/

/-- The floating-point number nearest to a decimal. -/
def ofDecimal (d : Decimal) : Float :=
  if d.digits = 0 then 0
  else if d.leading > 310 then Float.ofBits 0x7FF0000000000000
  else if d.leading < -330 then 0
  else if 0 ≤ d.exponent then ofRatio (d.digits * Nat.pow 10 d.exponent.toNat) 1
  else ofRatio d.digits (Nat.pow 10 (-d.exponent).toNat)

end Stencil.Number
