import Stencil.Script.Lookup

/-!
# Conversions

How values become numbers, texts, keys and objects. Objects are asked for a primitive value first,
through their own methods.
-/

namespace Stencil.Script

/-! ### Primitive values -/

/-- What kind of primitive value an object is asked for. -/
inductive Hint where
  | either | number | text
  deriving DecidableEq

def Hint.name : Hint → String
  | either => "default"
  | number => "number"
  | text   => "string"

/-- The method of a value, if it has one. -/
def methodOf (r : Ref) (key : Key) : Exec (Option Value) := do
  let f ← get r key
  if f.isNullish then return none
  unless ← isCallable f do throwType "not a callable function"
  return some f

/-- The first primitive value that methods of these names answer. -/
def ordinaryPrimitive (r : Ref) : List String → Exec Value
  | []            => throwType "cannot convert object to primitive value"
  | name :: names => do
    let f ← getNamed r name
    if ← isCallable f then
      let answer ← call f (.object r) []
      if !answer.isObject then return answer
    ordinaryPrimitive r names

/-- The primitive value of a value. -/
def toPrimitive (v : Value) (hint : Hint) : Exec Value := do
  match v with
  | .object r =>
    match ← methodOf r (.ofSymbol .toPrimitive) with
    | some f =>
      let answer ← call f v [.ofString hint.name]
      if answer.isObject then throwType "cannot convert object to primitive value"
      return answer
    | none   =>
      ordinaryPrimitive r
        (if hint = .text then ["toString", "valueOf"] else ["valueOf", "toString"])
  | _ => return v

/-! ### Numbers -/

/-- The number of a primitive value. -/
def primitiveNumber (v : Value) : Exec Float := do
  match v with
  | .undefined => return NumberText.nan
  | .null      => return 0
  | .bool b    => return if b then 1 else 0
  | .number x  => return x
  | .text t    => return NumberText.read t.toChars
  | .symbol _  => throwType "cannot convert a symbol to a number"
  | .big _     => throwType "cannot convert a big integer to a number"
  | .object _  => return NumberText.nan
  | .hidden _  => return NumberText.nan

/-- The number of a value. -/
def toNumber (v : Value) : Exec Float := do
  match v with
  | .number x => return x
  | _         => primitiveNumber (← toPrimitive v .number)

/-- A value as a number or a big integer. -/
def toNumeric (v : Value) : Exec Value := do
  match v with
  | .number _ => return v
  | _         =>
    match ← toPrimitive v .number with
    | .big n => return .big n
    | p      => return .number (← primitiveNumber p)

/-- The big integer of a value. -/
def toBig (v : Value) : Exec Int := do
  match ← toPrimitive v .number with
  | .big n    => return n
  | .bool b   => return if b then 1 else 0
  | .text t   =>
    match NumberText.readInt? t.toChars with
    | some n => return n
    | none   => throwNew .syntaxError "cannot convert text to a big integer"
  | _         => throwType "cannot convert value to a big integer"

/-- A number without its fraction; what is no number is zero. -/
def integral (x : Float) : Float :=
  match Number.decode x with
  | .nan        => 0
  | .infinite _ => x
  | .finite _ _ => Number.ofInt (Number.truncate x)

/-- A value as an integer or an infinity. -/
def toInteger (v : Value) : Exec Float := return integral (← toNumber v)

/-- The greatest length of an object. -/
def maxLength : Nat := (1 <<< 53) - 1

/-- An integer within the lengths that objects can have. -/
def clampLength (x : Float) : Nat :=
  match Number.decode x with
  | .nan                       => 0
  | .infinite negative         => if negative then 0 else maxLength
  | .finite negative magnitude => if negative then 0 else min magnitude.floor maxLength

/-- A value as a length. -/
def toLength (v : Value) : Exec Nat := return clampLength (← toInteger v)

/-- A value as an index. -/
def toIndex (v : Value) : Exec Nat := do
  let x ← toInteger v
  if x < 0 || x ≥ 9007199254740992 then throwRange "index is out of range"
  return clampLength x

/-- An offset into something of a size: negative ones count from the end. -/
def relative (x : Float) (size : Nat) : Nat :=
  if x < 0 then clampLength (size.toFloat + x)
  else if x ≥ size.toFloat then size
  else clampLength x

/-- The offset that an argument names, or one that stands for it when it is left out. -/
def relativeArg (v : Value) (size standard : Nat) : Exec Nat := do
  match v with
  | .undefined => return standard
  | _          => return relative (← toInteger v) size

/-! ### Texts -/

/-- The text of a primitive value. -/
def primitiveText (v : Value) : Exec Utf16 := do
  match v with
  | .undefined => return .ofString "undefined"
  | .null      => return .ofString "null"
  | .bool b    => return .ofString (if b then "true" else "false")
  | .number x  => return .ofString (NumberText.write x)
  | .text t    => return t
  | .symbol _  => throwType "cannot convert a symbol to a string"
  | .big n     => return .ofString (NumberText.writeInt 10 n)
  | .object _  => return .empty
  | .hidden _  => return .empty

/-- The text of a value. -/
def toText (v : Value) : Exec Utf16 := do
  match v with
  | .text t => return t
  | _       => primitiveText (← toPrimitive v .text)

/-- The key that a value names. -/
def toKey (v : Value) : Exec Key := do
  match v with
  | .text t    => return .ofText t
  | .symbol id => return .symbol id
  | .hidden id => return .hidden id
  | .number x  =>
    if 0 ≤ x && x < 4294967295 && x.floor == x then return .index x.toUInt64.toNat
    else return .ofText (.ofString (NumberText.write x))
  | _          =>
    match ← toPrimitive v .text with
    | .symbol id => return .symbol id
    | p          => return .ofText (← primitiveText p)

/-! ### Objects -/

/-- The object that a value is or becomes. -/
def toObject (v : Value) : Exec Ref := do
  match v with
  | .object r  => return r
  | .bool b    => allocateKind (.boolean b) .boolean
  | .number x  => allocateKind (.number x) .number
  | .text t    => allocateKind (.text t) .string
  | .symbol id => allocateKind (.symbol id) .symbol
  | .big n     => allocateKind (.big n) .bigInt
  | _          => throwType "cannot convert 'null' or 'undefined' to object"

/-- The object whose properties a primitive value has, without making one. -/
def protoOfPrimitive : Value → Option Standard
  | .bool _   => some .boolean
  | .number _ => some .number
  | .text _   => some .string
  | .symbol _ => some .symbol
  | .big _    => some .bigInt
  | _         => none

/-- A key as a message shows it. -/
def showKey : Key → String
  | .index i  => toString i
  | .text t   => t.toLossy
  | .symbol _ => "Symbol()"
  | .hidden _ => "#"

/-- The property of any value. -/
def getOf (v : Value) (key : Key) : Exec Value := do
  match v with
  | .object r => get r key
  | .text t   =>
    match key with
    | .index i =>
      match t.at? i with
      | some u => return .text (.ofUnit u)
      | none   => getFrom chainLimit Standard.string.proto key v
    | _ =>
      if key == lengthKey then return .ofNat t.size
      else getFrom chainLimit Standard.string.proto key v
  | _         =>
    match protoOfPrimitive v with
    | some s => getFrom chainLimit s.proto key v
    | none   =>
      throwType ("cannot read property '" ++ showKey key ++ "' of " ++
        (if v.isUndefined then "undefined" else "null"))

/-- The method of any value, if it has one. -/
def methodOfValue (v : Value) (key : Key) : Exec (Option Value) := do
  let f ← getOf v key
  if f.isNullish then return none
  unless ← isCallable f do throwType "not a callable function"
  return some f

/-- Calls the method of a value. -/
def invoke (v : Value) (name : String) (arguments : List Value) : Exec Value := do
  call (← getOf v (.ofString name)) v arguments

/-- The length of an object. -/
def lengthOf (r : Ref) : Exec Nat := do
  match ← kindOf r with
  | .array _ length _ => return length
  | _                 => toLength (← get r lengthKey)

/-- The items of an object with a length. -/
def itemsOf (r : Ref) : Exec (List Value) := do itemsFrom r (← lengthOf r) 0

/-- Whether a value is an array, perhaps behind proxies; `fuel` bounds their number. -/
def isArrayAt : (fuel : Nat) → Value → Exec Bool
  | 0, _        => return false
  | fuel + 1, v => do
    match v with
    | .object r =>
      match ← kindOf r with
      | .array _ _ _             => return true
      | .proxy (some target) _ _ _ => isArrayAt fuel (.object target)
      | .proxy none _ _ _        => throwType "proxy was revoked"
      | _                        => return false
    | _         => return false

/-- Whether a value is an array, perhaps behind proxies. -/
def isArray (v : Value) : Exec Bool := isArrayAt 1000 v

/-! ### Operators -/

/-- The word for the type of a value. -/
def typeName (v : Value) : Exec String := do
  match v with
  | .undefined => return "undefined"
  | .null      => return "object"
  | .bool _    => return "boolean"
  | .number _  => return "number"
  | .text _    => return "string"
  | .symbol _  => return "symbol"
  | .big _     => return "bigint"
  | .object _  => return if ← isCallable v then "function" else "object"
  | .hidden _  => return "undefined"

/-- The integer that a finite number without a fraction is. -/
def exactInt? (x : Float) : Option Int :=
  if Number.isIntegral x then some (Number.truncate x) else none

/-- How a big integer compares to a number: `none` when that is none. -/
def compareBig (n : Int) (x : Float) : Option Ordering :=
  if x.isNaN then none
  else if x == NumberText.infinity then some .lt
  else if x == -NumberText.infinity then some .gt
  else
    let whole := Number.truncate x
    if n < whole then some .lt
    else if whole < n then some .gt
    else
      let rest := x - Number.ofInt whole
      some (if rest > 0 then .lt else if rest < 0 then .gt else .eq)

/-- Whether two values are equal after conversions. -/
def looseEq (a b : Value) : Exec Bool := do
  match a, b with
  | .undefined, .null   => return true
  | .null, .undefined   => return true
  | .number _, .text t  => return a.strictEq (.number (NumberText.read t.toChars))
  | .text t, .number _  => return (Value.number (NumberText.read t.toChars)).strictEq b
  | .big n, .text t     => return NumberText.readInt? t.toChars == some n
  | .text t, .big n     => return NumberText.readInt? t.toChars == some n
  | .big n, .number x   => return compareBig n x == some .eq
  | .number x, .big n   => return compareBig n x == some .eq
  | .bool x, _          => looseEqPrimitive (.number (if x then 1 else 0)) b
  | _, .bool y          => looseEqPrimitive a (.number (if y then 1 else 0))
  | .object _, .object _ => return a.strictEq b
  | .object _, _        =>
    if b.isNullish then return false else looseEqPrimitive (← toPrimitive a .either) b
  | _, .object _        =>
    if a.isNullish then return false else looseEqPrimitive a (← toPrimitive b .either)
  | _, _                => return a.strictEq b
where
  /-- The same when at most one side is an object and booleans were replaced once. -/
  looseEqPrimitive (a b : Value) : Exec Bool := do
    let a ← if b.isNullish then pure a else toPrimitive a .either
    let b ← if a.isNullish then pure b else toPrimitive b .either
    let number : Value → Value
      | .bool x => .number (if x then 1 else 0)
      | v       => v
    match number a, number b with
    | .number x, .text t  => return x == NumberText.read t.toChars
    | .text t, .number x  => return NumberText.read t.toChars == x
    | .big n, .text t     => return NumberText.readInt? t.toChars == some n
    | .text t, .big n     => return NumberText.readInt? t.toChars == some n
    | .big n, .number x   => return compareBig n x == some .eq
    | .number x, .big n   => return compareBig n x == some .eq
    | .undefined, .null   => return true
    | .null, .undefined   => return true
    | a, b                => return a.strictEq b

/-- Whether one primitive value is less than another: `none` when they cannot be compared. -/
def lessPrimitive (a b : Value) : Exec (Option Bool) := do
  match a, b with
  | .text s, .text t => return some (s.lt t)
  | .big n, .text t  =>
    return (NumberText.readInt? t.toChars).map fun m => decide (n < m)
  | .text s, .big n  =>
    return (NumberText.readInt? s.toChars).map fun m => decide (m < n)
  | _, _             =>
    let numeric (v : Value) : Exec Value := do
      match v with
      | .big n => return .big n
      | v      => return .number (← primitiveNumber v)
    match ← numeric a, ← numeric b with
    | .big m, .big n       => return some (m < n)
    | .big m, .number x    => return (compareBig m x).map (· == .lt)
    | .number x, .big n    => return (compareBig n x).map (· == .gt)
    | .number x, .number y => return if x.isNaN || y.isNaN then none else some (x < y)
    | _, _                 => return none

/-- Compares two values by an operator. -/
def compare (op : BinaryOp) (a b : Value) : Exec Bool := do
  let a ← toPrimitive a .number
  let b ← toPrimitive b .number
  match op with
  | .lt => return (← lessPrimitive a b).getD false
  | .gt => return (← lessPrimitive b a).getD false
  | .le => return (← lessPrimitive b a) == some false
  | _   => return (← lessPrimitive a b) == some false

/-- The remainder of numbers, with the sign of the first. -/
def remainder (x y : Float) : Float :=
  match Number.decode x, Number.decode y with
  | .finite negative a, .finite _ b =>
    if b.significand = 0 then NumberText.nan
    else
      let (an, ad) := a.toRatio
      let (bn, bd) := b.toRatio
      let r := Number.ofRatio (an * bd % (bn * ad)) (ad * bd)
      if negative then -r else r
  | .finite _ _, .infinite _ => x
  | _, _                     => NumberText.nan

/-- Powers of numbers. -/
def power (x y : Float) : Float :=
  if y.isNaN then NumberText.nan
  else if y == 0 then 1
  else if x.abs == 1 && y.abs == NumberText.infinity then NumberText.nan
  else x.pow y

/-- Shifts an integer by a number of places. -/
def shiftInt (n : Int) (places : Int) : Int :=
  if 0 ≤ places then n * (1 <<< places.toNat : Nat)
  else Int.fdiv n (1 <<< (-places).toNat : Nat)

/-- Bitwise operations on integers as endless sequences of bits. -/
def bitwise (op : Bool → Bool → Bool) (a b : Int) : Int :=
  let size := max a.natAbs.log2 b.natAbs.log2 + 2
  let bit (n : Int) (i : Nat) : Bool := (Int.fdiv n (1 <<< i : Nat)) % 2 == 1
  let n := (List.range size).foldl
    (fun n i => if op (bit a i) (bit b i) then n + (1 <<< i : Nat) else n) 0
  signedResidue size n

/-- An operation on two big integers. -/
def bigArithmetic (op : BinaryOp) (a b : Int) : Exec Value := do
  match op with
  | .add  => return .big (a + b)
  | .sub  => return .big (a - b)
  | .mul  => return .big (a * b)
  | .div  => if b = 0 then throwRange "division by zero" else return .big (Int.tdiv a b)
  | .mod  => if b = 0 then throwRange "division by zero" else return .big (Int.tmod a b)
  | .power =>
    if b < 0 then throwRange "exponent must be positive"
    else if 1000000 < b then throwRange "big integer is too large"
    else return .big (Int.pow a b.toNat)
  | .shiftLeft      => if 1000000 < b then throwRange "big integer is too large" else return .big (shiftInt a b)
  | .shiftRight     => if b < -1000000 then throwRange "big integer is too large" else return .big (shiftInt a (-b))
  | .bitAnd         => return .big (bitwise (· && ·) a b)
  | .bitOr          => return .big (bitwise (· || ·) a b)
  | .bitXor         => return .big (bitwise (· != ·) a b)
  | _               => throwType "big integers have no such operation"

/-- An operation on two numbers. -/
def numberArithmetic (op : BinaryOp) (x y : Float) : Float :=
  let count : Nat := toUint32 y % 32
  match op with
  | .add  => x + y
  | .sub  => x - y
  | .mul  => x * y
  | .div  => x / y
  | .mod  => remainder x y
  | .power => power x y
  | .shiftLeft      => Number.ofInt (signedResidue 32 ((toUint32 x <<< count) % (1 <<< 32)))
  | .shiftRight     => Number.ofInt (Int.fdiv (toInt32 x) (1 <<< count : Nat))
  | .shiftRightZero => Number.ofRatio (toUint32 x >>> count) 1
  | .bitAnd => Number.ofInt (signedResidue 32 (toUint32 x &&& toUint32 y))
  | .bitOr  => Number.ofInt (signedResidue 32 (toUint32 x ||| toUint32 y))
  | .bitXor => Number.ofInt (signedResidue 32 (toUint32 x ^^^ toUint32 y))
  | _       => NumberText.nan

/-- An operation on two values that are both numbers or both big integers. -/
def arithmetic (op : BinaryOp) (a b : Value) : Exec Value := do
  match a, b with
  | .number x, .number y => return .number (numberArithmetic op x y)
  | _, _ =>
    match ← toNumeric a, ← toNumeric b with
    | .big m, .big n       => bigArithmetic op m n
    | .number x, .number y => return .number (numberArithmetic op x y)
    | _, _                 => throwType "cannot mix big integers and other types"

/-- The sum of two values, or their texts one after the other. -/
def addValues (a b : Value) : Exec Value := do
  match a, b with
  | .number x, .number y => return .number (x + y)
  | _, _ =>
    let a ← toPrimitive a .either
    let b ← toPrimitive b .either
    match a, b with
    | .text s, _ => return .text (s ++ (← primitiveText b))
    | _, .text t => return .text ((← primitiveText a) ++ t)
    | _, _       => arithmetic .add a b

end Stencil.Script
