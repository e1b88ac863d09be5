import Stencil.Number.Decimal

/-!
# Reading numbers

`readFloat?` reads a decimal with an optional point and exponent, and the names of infinity and
of what is not a number in any case of letters.
-/

namespace Stencil.Number

/-- The number that a list of digits writes in a base, most significant first. -/
def ofDigits (base : Nat) (digits : List Nat) : Nat :=
  digits.foldl (fun n d => base * n + d) 0

/-- The value of a digit in a base up to 36. -/
def digitValue? (base : Nat) (c : Char) : Option Nat :=
  let value :=
    if '0' ≤ c ∧ c ≤ '9' then c.toNat - '0'.toNat
    else if 'a' ≤ c ∧ c ≤ 'z' then c.toNat - 'a'.toNat + 10
    else if 'A' ≤ c ∧ c ≤ 'Z' then c.toNat - 'A'.toNat + 10
    else base
  if value < base then some value else none

/-- The number that a nonempty text of digits writes in a base. -/
def readNat? (base : Nat) (text : List Char) : Option Nat :=
  if text.isEmpty then none
  else (text.mapM (digitValue? base)).map (ofDigits base)

/-- The integer that digits after an optional sign write. -/
def readInt? (text : List Char) : Option Int :=
  match text with
  | '-' :: rest => (readNat? 10 rest).map fun n => -(n : Int)
  | '+' :: rest => (readNat? 10 rest).map fun n => (n : Int)
  | _           => (readNat? 10 text).map fun n => (n : Int)

/-- The exponent that an `e` introduces, zero without one. -/
def readExponent? : List Char → Option Int
  | []       => some 0
  | e :: rest => if e == 'e' || e == 'E' then readInt? rest else none

/-- The decimal that digits with an optional point and exponent write. -/
def readDecimal? (text : List Char) : Option Decimal := do
  let whole := text.takeWhile Char.isDigit
  let rest := text.drop whole.length
  let places := match rest with
    | '.' :: rest => rest.takeWhile Char.isDigit
    | _           => []
  let rest := match rest with
    | '.' :: rest => rest.drop places.length
    | rest        => rest
  let digits ← readNat? 10 (whole ++ places)
  let exponent ← readExponent? rest
  return ⟨digits, exponent - places.length⟩

/-- The number that a text writes, with an optional sign. -/
def readFloat? (text : List Char) : Option Float :=
  match text with
  | '-' :: rest => (magnitude? rest).map fun x => -x
  | '+' :: rest => magnitude? rest
  | _           => magnitude? text
where
  magnitude? (text : List Char) : Option Float :=
    let name := String.ofList (text.map Char.toLower)
    if name == "inf" || name == "infinity" then some (1.0 / 0.0)
    else if name == "nan" then some (0.0 / 0.0)
    else (readDecimal? text).map ofDecimal

end Stencil.Number
