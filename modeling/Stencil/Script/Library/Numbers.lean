import Stencil.Script.Library.Builtin

/-!
# Numbers

The members of numbers and big integers, and `Math`.
-/

namespace Stencil.Script.Library

/-! ### Numbers -/

/-- The number that a value is or holds. -/
def thisNumber (v : Value) : Exec Float := do
  match v with
  | .number x => return x
  | .object r =>
    match ← kindOf r with
    | .number x => return x
    | _         => throwType "value is not a number"
  | _         => throwType "value is not a number"

def makeNumber (i : Invocation) : Exec Value := do
  let x ← match i.arguments with
    | []     => pure 0
    | v :: _ =>
      match ← toNumeric v with
      | .big n    => pure (Number.ofInt n)
      | .number x => pure x
      | _         => pure NumberText.nan
  if i.newTarget.isUndefined then return .number x
  return .object (← allocateFor i.newTarget .number (.number x))

def parseFloatMember : Builtin :=
  method "parseFloat" 1 fun i => do
    return .number (NumberText.readFront (← toText (i.arg 0)).toChars)

def parseIntMember : Builtin :=
  method "parseInt" 2 fun i => do
    let text ← toText (i.arg 0)
    let base := toInt32 (← toNumber (i.arg 1))
    return .number (NumberText.readIntFront text.toChars base)

def isFinite (x : Float) : Bool := !x.isNaN && !x.isInf

def isIntegerValue : Value → Bool
  | .number x => Number.isIntegral x
  | _         => false

def numberStatics : List Builtin := [
  method "isFinite" 1 fun i =>
    match i.arg 0 with
    | .number x => return .bool (isFinite x)
    | _         => return .bool false,
  method "isInteger" 1 fun i => return .bool (isIntegerValue (i.arg 0)),
  method "isNaN" 1 fun i =>
    match i.arg 0 with
    | .number x => return .bool x.isNaN
    | _         => return .bool false,
  method "isSafeInteger" 1 fun i =>
    match i.arg 0 with
    | .number x => return .bool (Number.isIntegral x && x.abs ≤ 9007199254740991)
    | _         => return .bool false,
  parseFloatMember,
  parseIntMember]

/-- A number of digits between bounds. -/
def digitsArg (v : Value) (low high : Nat) : Exec Nat := do
  let x ← toInteger v
  if x < low.toFloat || x > high.toFloat then throwRange "number of digits is out of range"
  return clampLength x

/-- A base between 2 and 36. -/
def baseArg (v : Value) : Exec Nat := do
  match v with
  | .undefined => return 10
  | v          =>
    let x ← toInteger v
    if x < 2 || x > 36 then throwRange "radix must be between 2 and 36"
    return clampLength x

def numberMethods : List Builtin := [
  method "toExponential" 1 fun i => do
    let x ← thisNumber i.this
    let places ← toInteger (i.arg 0)
    if !isFinite x then return .ofString (NumberText.write x)
    if places < 0 || places > 100 then throwRange "number of digits is out of range"
    return .ofString (NumberText.exponential x
      (if (i.arg 0).isUndefined then none else some (clampLength places))),
  method "toFixed" 1 fun i => do
    let x ← thisNumber i.this
    return .ofString (NumberText.fixed x (← digitsArg (i.arg 0) 0 100)),
  method "toLocaleString" 0 fun i => do return .ofString (NumberText.write (← thisNumber i.this)),
  method "toPrecision" 1 fun i => do
    let x ← thisNumber i.this
    if (i.arg 0).isUndefined then return .ofString (NumberText.write x)
    let count ← toInteger (i.arg 0)
    if !isFinite x then return .ofString (NumberText.write x)
    if count < 1 || count > 100 then throwRange "number of digits is out of range"
    return .ofString (NumberText.precise x (clampLength count)),
  method "toString" 1 fun i => do
    let x ← thisNumber i.this
    return .ofString (NumberText.writeBased (← baseArg (i.arg 0)) x),
  method "valueOf" 0 fun i => do return .number (← thisNumber i.this)]

def numberConstants : List (String × Float) := [
  ("EPSILON", Float.ofBits 0x3CB0000000000000),
  ("MAX_SAFE_INTEGER", 9007199254740991),
  ("MAX_VALUE", Float.ofBits 0x7FEFFFFFFFFFFFFF),
  ("MIN_SAFE_INTEGER", -9007199254740991),
  ("MIN_VALUE", Float.ofBits 1),
  ("NaN", NumberText.nan),
  ("NEGATIVE_INFINITY", -NumberText.infinity),
  ("POSITIVE_INFINITY", NumberText.infinity)]

/-! ### Big integers -/

/-- The big integer that a value is or holds. -/
def thisBig (v : Value) : Exec Int := do
  match v with
  | .big n    => return n
  | .object r =>
    match ← kindOf r with
    | .big n => return n
    | _      => throwType "value is not a big integer"
  | _         => throwType "value is not a big integer"

def makeBigInt (i : Invocation) : Exec Value := do
  if !i.newTarget.isUndefined then throwType "big integers have no constructor"
  match ← toPrimitive (i.arg 0) .number with
  | .number x =>
    match exactInt? x with
    | some n => return .big n
    | none   => throwRange "number is not an integer"
  | v         => return .big (← toBig v)

def bigIntStatics : List Builtin := [
  method "asIntN" 2 fun i => do
    let bits ← toIndex (i.arg 0)
    let n ← toBig (i.arg 1)
    if bits = 0 then return .big 0
    return .big (signedResidue bits (n % (1 <<< bits : Nat)).toNat),
  method "asUintN" 2 fun i => do
    let bits ← toIndex (i.arg 0)
    return .big ((← toBig (i.arg 1)) % (1 <<< bits : Nat))]

def bigIntMethods : List Builtin := [
  method "toLocaleString" 0 fun i => do
    return .ofString (NumberText.writeInt 10 (← thisBig i.this)),
  method "toString" 0 fun i => do
    let n ← thisBig i.this
    return .ofString (NumberText.writeInt (← baseArg (i.arg 0)) n),
  method "valueOf" 0 fun i => do return .big (← thisBig i.this)]

/-! ### `Math` -/

/-- A function of one number. -/
def unaryMath (name : String) (f : Float → Float) : Builtin :=
  method name 1 fun i => do return .number (f (← toNumber (i.arg 0)))

def sign (x : Float) : Float := if x > 0 then 1 else if x < 0 then -1 else x

/-- The nearest integer, of two the greater. -/
def round (x : Float) : Float :=
  if !isFinite x || x.abs ≥ 4503599627370496 then x
  else
    let down := x.floor
    let r := if x - down ≥ 0.5 then down + 1 else down
    if r == 0 && (x < 0 || Number.isNegative x) then -0.0 else r

def trunc (x : Float) : Float :=
  if x < 0 then
    let y := x.ceil
    if y == 0 then -0.0 else y
  else x.floor

/-- `e ^ x - 1`, exact also near zero. -/
def expm1 (x : Float) : Float :=
  if x.abs < 1e-5 then x + x * x / 2 + x * x * x / 6
  else x.exp - 1

/-- The logarithm of `1 + x`, exact also near zero. -/
def log1p (x : Float) : Float :=
  let u := 1 + x
  if u == 1 then x
  else if u == NumberText.infinity then u
  else u.log * (x / (u - 1))

/-- The greater of two numbers, of zeros the positive one. -/
def maxNumber (x y : Float) : Float :=
  if x.isNaN || y.isNaN then NumberText.nan
  else if x > y then x
  else if y > x then y
  else if Number.isNegative x then y else x

/-- The lesser of two numbers, of zeros the negative one. -/
def minNumber (x y : Float) : Float :=
  if x.isNaN || y.isNaN then NumberText.nan
  else if x < y then x
  else if y < x then y
  else if Number.isNegative x then x else y

/-- The square root of the sum of squares. -/
def hypot (xs : List Float) : Float :=
  if xs.any fun x => x.isInf then NumberText.infinity
  else
    let greatest := xs.foldl (fun m x => maxNumber m x.abs) 0
    if greatest.isNaN then NumberText.nan
    else if greatest == 0 then 0
    else
      -- the sum is compensated for what each addition loses
      let (sum, _) := xs.foldl (fun (sum, lost) x =>
        let r := x / greatest
        let term := r * r - lost
        let next := sum + term
        (next, (next - sum) - term)) ((0 : Float), (0 : Float))
      sum.sqrt * greatest

/-- The number of leading zero bits of an integer of 32 bits. -/
def leadingZeros (n : Nat) : Nat := if n = 0 then 32 else 31 - n.log2

def mathMembers : List Builtin := [
  unaryMath "abs" Float.abs,
  unaryMath "acos" Float.acos,
  unaryMath "acosh" Float.acosh,
  unaryMath "asin" Float.asin,
  unaryMath "asinh" fun x => if x == 0 then x else x.asinh,
  unaryMath "atan" Float.atan,
  unaryMath "atanh" Float.atanh,
  method "atan2" 2 fun i => do
    let y ← toNumber (i.arg 0)
    let x ← toNumber (i.arg 1)
    return .number (Float.atan2 y x),
  unaryMath "cbrt" Float.cbrt,
  unaryMath "ceil" Float.ceil,
  method "clz32" 1 fun i => do return .ofNat (leadingZeros (toUint32 (← toNumber (i.arg 0)))),
  unaryMath "cos" Float.cos,
  unaryMath "cosh" Float.cosh,
  unaryMath "exp" Float.exp,
  unaryMath "expm1" expm1,
  unaryMath "floor" Float.floor,
  unaryMath "fround" fun x => x.toFloat32.toFloat,
  method "hypot" 2 fun i => do return .number (hypot (← i.arguments.mapM toNumber)),
  method "imul" 2 fun i => do
    let a := toUint32 (← toNumber (i.arg 0))
    let b := toUint32 (← toNumber (i.arg 1))
    return .ofInt (signedResidue 32 (a * b % (1 <<< 32))),
  unaryMath "log" Float.log,
  unaryMath "log1p" log1p,
  unaryMath "log10" Float.log10,
  unaryMath "log2" Float.log2,
  method "max" 2 fun i => do
    return .number ((← i.arguments.mapM toNumber).foldl maxNumber (-NumberText.infinity)),
  method "min" 2 fun i => do
    return .number ((← i.arguments.mapM toNumber).foldl minNumber NumberText.infinity),
  method "pow" 2 fun i => do
    let x ← toNumber (i.arg 0)
    return .number (power x (← toNumber (i.arg 1))),
  -- no two runs may differ, so the sequence of random numbers is constant
  method "random" 0 fun _ => return .number 0.5,
  unaryMath "round" round,
  unaryMath "sign" sign,
  unaryMath "sin" Float.sin,
  unaryMath "sinh" Float.sinh,
  unaryMath "sqrt" Float.sqrt,
  unaryMath "tan" Float.tan,
  unaryMath "tanh" Float.tanh,
  unaryMath "trunc" trunc]

def mathConstants : List (String × Float) := [
  ("E", Float.ofBits 0x4005BF0A8B145769),
  ("LN10", Float.ofBits 0x40026BB1BBB55516),
  ("LN2", Float.ofBits 0x3FE62E42FEFA39EF),
  ("LOG10E", Float.ofBits 0x3FDBCB7B1526E50E),
  ("LOG2E", Float.ofBits 0x3FF71547652B82FE),
  ("PI", Float.ofBits 0x400921FB54442D18),
  ("SQRT1_2", Float.ofBits 0x3FE6A09E667F3BCD),
  ("SQRT2", Float.ofBits 0x3FF6A09E667F3BCD)]

end Stencil.Script.Library
