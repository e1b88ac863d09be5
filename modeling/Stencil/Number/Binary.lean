/-!
# Floating-point numbers as integers times powers of two

A finite `Float` is `significand * 2 ^ exponent` up to its sign. `decode` reads the three parts
off the bits.
-/

namespace Stencil.Number

/-- A finite floating-point number without its sign: `significand * 2 ^ exponent`. -/
structure Binary where
  significand : Nat
  exponent : Int
  deriving DecidableEq

/-- What a floating-point number is. -/
inductive Decoded where
  | nan
  | infinite (negative : Bool)
  | finite (negative : Bool) (magnitude : Binary)
  deriving DecidableEq

/-- Whether the sign bit is set. -/
def isNegative (x : Float) : Bool :=
  x.toBits >>> 63 == 1

/-- The parts of a floating-point number. -/
def decode (x : Float) : Decoded :=
  let bits := x.toBits.toNat
  let negative := isNegative x
  let biased : Nat := (bits >>> 52) % (1 <<< 11)
  let fraction : Nat := bits % (1 <<< 52)
  if biased = 2047 then
    if fraction = 0 then .infinite negative else .nan
  else if biased = 0 then .finite negative ⟨fraction, -1074⟩
  else .finite negative ⟨(1 <<< 52) + fraction, (biased : Int) - 1075⟩

namespace Binary

/-- The magnitude as a fraction of natural numbers. -/
def toRatio (b : Binary) : Nat × Nat :=
  if 0 ≤ b.exponent then (b.significand <<< b.exponent.toNat, 1)
  else (b.significand, 1 <<< (-b.exponent).toNat)

/-- The integral part of the magnitude. -/
def floor (b : Binary) : Nat :=
  b.toRatio.1 / b.toRatio.2

end Binary

/-- The integer that a number is cut off to, toward zero; zero when it is none. -/
def truncate (x : Float) : Int :=
  match decode x with
  | .finite negative magnitude =>
    if negative then -(magnitude.floor : Int) else magnitude.floor
  | _ => 0

/-- Whether a number is finite and has no fractional part. -/
def isIntegral (x : Float) : Bool :=
  match decode x with
  | .finite _ magnitude => magnitude.toRatio.1 % magnitude.toRatio.2 == 0
  | _                   => false

/-! ### Rounding -/

/-- A quotient rounded to a natural number, of two equally near ones to the even one. -/
def roundDiv (num den : Nat) : Nat :=
  let down := num / den
  let rest := num % den
  if 2 * rest > den ∨ (2 * rest = den ∧ down % 2 = 1) then down + 1 else down

/-- The greatest `k` such that `2 ^ k` is at most the quotient of positive numbers. -/
def binaryOrder (num den : Nat) : Int :=
  let k : Int := (num.log2 : Int) - den.log2
  let atMost : Bool := if 0 ≤ k then den <<< k.toNat ≤ num else den ≤ num <<< (-k).toNat
  if atMost then k else k - 1

/-- The bits of infinity. -/
def infinityBits : Nat := 2047 <<< 52

/-- The number nearest to a quotient of natural numbers, of two the even one. -/
def ofRatio (num den : Nat) : Float :=
  if num = 0 ∨ den = 0 then Float.ofBits 0
  else
    let unit := max (-1074) (binaryOrder num den - 52)
    let rounded := if 0 ≤ unit then roundDiv num (den <<< unit.toNat)
      else roundDiv (num <<< (-unit).toNat) den
    let bits := rounded + ((unit + 1074).toNat <<< 52)
    Float.ofBits (UInt64.ofNat (min bits infinityBits))

/-- The number nearest to an integer. -/
def ofInt (n : Int) : Float :=
  if n < 0 then -(ofRatio n.natAbs 1) else ofRatio n.natAbs 1

end Stencil.Number
