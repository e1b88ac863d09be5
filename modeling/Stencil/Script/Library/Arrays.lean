import Stencil.Script.Library.Builtin

/-!
# Arrays

The members of arrays. They work on any object that has a length.
-/

namespace Stencil.Script.Library

/-! ### Making arrays -/

/-- An array of a length without items. -/
def newArrayOfLength (length : Nat) : Exec Ref := do
  if length ≥ 1 <<< 32 then throwRange "invalid array length"
  allocateKind (.array #[] length true) .array

/-- The constructor that an array asks to be used for arrays made from it, unless it is the
standard one. -/
def arraySpecies (r : Ref) : Exec (Option Value) := do
  if !(← isArray (.object r)) then return none
  let constructor ← getNamed r "constructor"
  let species ← match constructor with
    | .object c => get c (.ofSymbol .species)
    | v         => pure v
  match species with
  | .undefined => return none
  | .null      => if constructor.isObject then return none else throwType "not a constructor"
  | .object s  =>
    if s == Standard.array.constructor then return none
    unless ← isConstructor species do throwType "species is not a constructor"
    return some species
  | _          => throwType "species is not a constructor"

/-- A new array like another. -/
def newArrayLike (r : Ref) (length : Nat) : Exec Ref := do
  match ← arraySpecies r with
  | none         => newArrayOfLength length
  | some species =>
    match ← construct species [.ofNat length] species with
    | .object made => return made
    | _            => throwType "species gave no object"

/-- A new array like another, with these items. -/
def newArrayLikeOf (r : Ref) (items : List Value) : Exec Value := do
  match ← arraySpecies r with
  | none   => newArray items
  | some _ =>
    let made ← newArrayLike r 0
    items.zipIdx.forM fun (v, i) => createProperty made (.ofNat i) v
    setLength made items.length
    return .object made

def makeArray (i : Invocation) : Exec Value := do
  let newTarget := if i.newTarget.isUndefined then .object i.callee else i.newTarget
  let proto ← protoFor newTarget .array
  let make (items : Array (Option Value)) (length : Nat) : Exec Value := do
    return .object (← allocate (.empty (.array items length true) (some proto)))
  match i.arguments with
  | [.number x] =>
    if 0 ≤ x && x < 4294967296 && x.floor == x then make #[] x.toUInt64.toNat
    else throwRange "invalid array length"
  | items       => make (items.map some).toArray items.length

/-- An object to which items are added, made by a constructor if `this` is one. -/
def newCollection (this : Value) (arguments : List Value) : Exec Ref := do
  if ← isConstructor this then
    match ← construct this arguments this with
    | .object r => return r
    | _         => throwType "constructor gave no object"
  else newArrayOfLength 0

def arrayStatics : List Builtin := [
  method "from" 1 fun i => do
    let mapping := i.arg 1
    if !mapping.isUndefined then
      unless ← isCallable mapping do throwType "not a callable function"
    let mapped (v : Value) (n : Nat) : Exec Value :=
      if mapping.isUndefined then return v else call mapping (i.arg 2) [v, .ofNat n]
    match ← methodOfValue (i.arg 0) (.ofSymbol .iterator) with
    | some method =>
      let r ← newCollection i.this []
      let it ← iterationBy (i.arg 0) method
      let count ← it.fold (fun n v => do
        createProperty r (.ofNat n) (← mapped v n)
        return n + 1) turnLimit 0
      setLength r count
      return .object r
    | none        =>
      let source ← toObject (i.arg 0)
      let length ← lengthOf source
      let r ← newCollection i.this [.ofNat length]
      forRange length fun n => do createProperty r (.ofNat n) (← mapped (← get source (.ofNat n)) n)
      setLength r length
      return .object r,
  method "isArray" 1 fun i => do return .bool (← isArray (i.arg 0)),
  method "of" 0 fun i => do
    let r ← newCollection i.this [.ofNat i.arguments.length]
    i.arguments.zipIdx.forM fun (v, n) => createProperty r (.ofNat n) v
    setLength r i.arguments.length
    return .object r,
  speciesGetter]

/-! ### Reading -/

/-- The item of an object at an index, none where there is a gap. -/
def item? (r : Ref) (n : Nat) : Exec (Option Value) := do
  let key := Key.ofNat n
  if ← hasProperty r key then return some (← get r key) else return none

/-- Calls a function for the items in order, skipping gaps, until something is found. -/
def searchItems {α : Type} (i : Invocation) (f : Value → Nat → Value → Exec (Option α)) :
    Exec (Option α) := do
  let r ← toObject i.this
  let length ← lengthOf r
  let callback ← functionArg i 0
  firstInRange (fun n => do
    match ← item? r n with
    | some v => f (← call callback (i.arg 1) [v, .ofNat n, .object r]) n v
    | none   => return none) length 0

/-- The first item, from the front or the back, that a function accepts, with its index. -/
def findItem (i : Invocation) (fromBack : Bool) : Exec (Option (Value × Nat)) := do
  let r ← toObject i.this
  let length ← lengthOf r
  let predicate ← functionArg i 0
  let test (n : Nat) : Exec (Option (Value × Nat)) := do
    let v ← get r (.ofNat n)
    if (← call predicate (i.arg 1) [v, .ofNat n, .object r]).toBool then return some (v, n)
    else return none
  if fromBack then lastInRange test length else firstInRange test length 0

def indexResult (found : Option (Value × Nat)) : Value :=
  match found with
  | some (_, n) => .ofNat n
  | none        => .number (-1)

def valueResult (found : Option (Value × Nat)) : Value :=
  match found with
  | some (v, _) => v
  | none        => .undefined

/-- The texts of the items with a separator between them. -/
def joinItems (r : Ref) (separator : Utf16) (f : Value → Exec Utf16) : Exec Value := do
  let length ← lengthOf r
  let texts ← foldRange (fun texts n => do
    let v ← get r (.ofNat n)
    let text ← if v.isNullish then pure .empty else f v
    return text :: texts) length 0 []
  return .text (Utf16.intercalate separator texts.reverse)

/-- The items of nested arrays down to a depth. -/
def flattenItems : (depth : Nat) → Ref → Exec (List Value)
  | depth, r => do
    let length ← lengthOf r
    let items ← foldRange (fun items n => do
      match ← item? r n with
      | none   => return items
      | some v =>
        match depth with
        | 0         => return v :: items
        | depth + 1 =>
          match v with
          | .object inner =>
            if ← isArray v then return (← flattenItems depth inner).reverse ++ items
            else return v :: items
          | _ => return v :: items) length 0 []
    return items.reverse

/-! ### Sorting -/

/-- Two sorted lists as one. Of equal items those of the first list come first. -/
def mergeSorted (before : Value → Value → Exec Bool) : (fuel : Nat) → List Value → List Value →
    List Value → Exec (List Value)
  | 0, acc, xs, ys               => return acc.reverse ++ xs ++ ys
  | _ + 1, acc, [], ys           => return acc.reverse ++ ys
  | _ + 1, acc, xs, []           => return acc.reverse ++ xs
  | fuel + 1, acc, x :: xs, y :: ys => do
    if ← before y x then mergeSorted before fuel (y :: acc) (x :: xs) ys
    else mergeSorted before fuel (x :: acc) xs (y :: ys)

/-- Sorts a list; `fuel` bounds how often it is halved. -/
def sortList (before : Value → Value → Exec Bool) : (fuel : Nat) → List Value → Exec (List Value)
  | 0, xs        => return xs
  | fuel + 1, xs => do
    if xs.length ≤ 1 then return xs
    let half := xs.length / 2
    let left ← sortList before fuel (xs.take half)
    let right ← sortList before fuel (xs.drop half)
    mergeSorted before xs.length [] left right

/-- Sorts values by a function or by their texts; what is undefined comes last. -/
def sortValues (comparator : Value) (values : List Value) : Exec (List Value) := do
  let defined := values.filter fun v => !v.isUndefined
  let others := values.filter Value.isUndefined
  let sorted ← if comparator.isUndefined then do
      let keyed ← defined.mapM fun v => return (v, ← toText v)
      pure ((keyed.mergeSort fun a b => !(b.2.lt a.2)).map Prod.fst)
    else sortList (fun x y => do
      let order ← toNumber (← call comparator .undefined [x, y])
      return order < 0) 64 defined
  return sorted ++ others

/-- An argument that is a function or left out. -/
def comparatorArg (v : Value) : Exec Unit := do
  if !v.isUndefined then
    unless ← isCallable v do throwType "comparator must be a function or undefined"

/-! ### Changing -/

/-- Moves an item from one index to another, with its gap if it is one. -/
def moveItem (r : Ref) (source target : Nat) : Exec Unit := do
  match ← item? r source with
  | some v => setOrThrow r (.ofNat target) v
  | none   => deleteOrThrow r (.ofNat target)

/-- Adds items at the end. -/
def pushItems (r : Ref) (items : List Value) : Exec Value := do
  let o ← object r
  match o.kind with
  | .array dense length true =>
    if o.isExtensible && dense.size = length then
      modifyObject r fun o => match o.kind with
        | .array dense length w =>
          { o with kind := .array (items.foldl (fun d v => d.push (some v)) dense) (length + items.length) w }
        | _ => o
      return .ofNat (length + items.length)
    else general
  | _ => general
where
  general : Exec Value := do
    let length ← lengthOf r
    items.zipIdx.forM fun (v, n) => setOrThrow r (.ofNat (length + n)) v
    setLength r (length + items.length)
    return .ofNat (length + items.length)

/-- Makes room for or removes items at an index, and puts others there. -/
def spliceItems (i : Invocation) : Exec Value := do
  let r ← toObject i.this
  let length ← lengthOf r
  let start ← relativeArg (i.arg 0) length 0
  let removed ← match i.arguments with
    | []  => pure 0
    | [_] => pure (length - start)
    | _   => do pure (min (clampLength (← toInteger (i.arg 1))) (length - start))
  let new := i.arguments.drop 2
  let result ← newArrayLike r removed
  forRange removed fun n => do
    match ← item? r (start + n) with
    | some v => createProperty result (.ofNat n) v
    | none   => pure ()
  setLength result removed
  let count := new.length
  if count < removed then
    forRange (length - removed - start) fun n => moveItem r (start + removed + n) (start + count + n)
    forRange (removed - count) fun n => deleteOrThrow r (.ofNat (length - 1 - n))
  else if removed < count then
    forRange (length - removed - start) fun n =>
      let n := length - removed - start - 1 - n
      moveItem r (start + removed + n) (start + count + n)
  new.zipIdx.forM fun (v, n) => setOrThrow r (.ofNat (start + n)) v
  setLength r (length - removed + count)
  return .object result

/-- Whether the items of a value are added one by one when it is concatenated. -/
def isSpreadable (v : Value) : Exec Bool := do
  match v with
  | .object r =>
    let flag ← get r (.ofSymbol .isConcatSpreadable)
    if flag.isUndefined then isArray v else return flag.toBool
  | _         => return false

/-- Adds a value, or its items, to an array at an index; the index after them. -/
def concatOne (result : Ref) (n : Nat) (v : Value) : Exec Nat := do
  if ← isSpreadable v then
    let r ← toObject v
    let length ← lengthOf r
    forRange length fun k => do
      match ← item? r k with
      | some item => createProperty result (.ofNat (n + k)) item
      | none      => pure ()
    return n + length
  else
    createProperty result (.ofNat n) v
    return n + 1

/-- Where a search from an argument begins. -/
def fromArg (v : Value) (length : Nat) : Exec Nat := relativeArg v length 0

/-! ### Iterators -/

/-- An iterator over an array. -/
def arrayIterator (keys values : Bool) (i : Invocation) : Exec Value := do
  let r ← toObject i.this
  return .object (← allocateKind (.iterator (.array (.object r) 0 keys values)) .arrayIterator)

/-- The number of items of an array or a typed array. -/
def countOf (v : Value) : Exec Nat := do
  match v with
  | .object r =>
    match ← kindOf r with
    | .typed _ _ _ length => return length
    | _                   => lengthOf r
  | _         => return 0

def arrayIteratorMethods : List Builtin := [
  method "next" 0 fun i => do
    match i.this with
    | .object r =>
      match ← kindOf r with
      | .iterator (.array source n keys values) =>
        if n < (← countOf source) then
          setKind r (.iterator (.array source (n + 1) keys values))
          let value ← if values then getOf source (.ofNat n) else pure .undefined
          let answer ← if keys && values then newArray [.ofNat n, value]
            else pure (if keys then .ofNat n else value)
          newResult answer false
        else
          setKind r (.iterator .finished)
          newResult .undefined true
      | .iterator .finished => newResult .undefined true
      | _ => throwType "value is not an array iterator"
    | _ => throwType "value is not an array iterator"]

/-! ### Members of arrays -/

def arrayMethods : List Builtin := [
  method "at" 1 fun i => do
    let r ← toObject i.this
    let length ← lengthOf r
    let x ← toInteger (i.arg 0)
    let x := if x < 0 then x + length.toFloat else x
    if x < 0 || x ≥ length.toFloat then return .undefined
    get r (.ofNat (clampLength x)),
  method "concat" 1 fun i => do
    let r ← toObject i.this
    let result ← newArrayLike r 0
    let length ← (Value.object r :: i.arguments).foldlM (concatOne result) 0
    setLength result length
    return .object result,
  method "copyWithin" 2 fun i => do
    let r ← toObject i.this
    let length ← lengthOf r
    let target ← relativeArg (i.arg 0) length 0
    let start ← relativeArg (i.arg 1) length 0
    let stop ← relativeArg (i.arg 2) length length
    let count := min (stop - start) (length - target)
    if start < target then
      forRange count fun n => moveItem r (start + count - 1 - n) (target + count - 1 - n)
    else forRange count fun n => moveItem r (start + n) (target + n)
    return .object r,
  method "entries" 0 (arrayIterator true true),
  method "every" 1 fun i => do
    let found ← searchItems i fun answer _ _ => return if answer.toBool then none else some ()
    return .bool found.isNone,
  method "fill" 1 fun i => do
    let r ← toObject i.this
    let length ← lengthOf r
    let start ← relativeArg (i.arg 1) length 0
    let stop ← relativeArg (i.arg 2) length length
    forRange (stop - start) fun n => setOrThrow r (.ofNat (start + n)) (i.arg 0)
    return .object r,
  method "filter" 1 fun i => do
    let r ← toObject i.this
    let length ← lengthOf r
    let predicate ← functionArg i 0
    let kept ← foldRange (fun kept n => do
      match ← item? r n with
      | some v =>
        if (← call predicate (i.arg 1) [v, .ofNat n, .object r]).toBool then return v :: kept
        else return kept
      | none   => return kept) length 0 []
    newArrayLikeOf r kept.reverse,
  method "find" 1 fun i => do return valueResult (← findItem i false),
  method "findIndex" 1 fun i => do return indexResult (← findItem i false),
  method "findLast" 1 fun i => do return valueResult (← findItem i true),
  method "findLastIndex" 1 fun i => do return indexResult (← findItem i true),
  method "flat" 0 fun i => do
    let r ← toObject i.this
    let x ← if (i.arg 0).isUndefined then pure 1 else toInteger (i.arg 0)
    newArrayLikeOf r (← flattenItems (clampLength (min x 1000)) r),
  method "flatMap" 1 fun i => do
    let r ← toObject i.this
    let length ← lengthOf r
    let f ← functionArg i 0
    let items ← foldRange (fun items n => do
      match ← item? r n with
      | some v =>
        match ← call f (i.arg 1) [v, .ofNat n, .object r] with
        | .object inner =>
          if ← isArray (.object inner) then return (← flattenItems 0 inner).reverse ++ items
          else return .object inner :: items
        | v => return v :: items
      | none => return items) length 0 []
    newArrayLikeOf r items.reverse,
  method "forEach" 1 fun i => do
    let _ ← searchItems i fun _ _ _ => return (none : Option Unit)
    return .undefined,
  method "includes" 1 fun i => do
    let r ← toObject i.this
    let length ← lengthOf r
    let start ← fromArg (i.arg 1) length
    let found ← firstInRange (fun n => do
      return if (← get r (.ofNat n)).sameValueZero (i.arg 0) then some () else none)
      (length - start) start
    return .bool found.isSome,
  method "indexOf" 1 fun i => do
    let r ← toObject i.this
    let length ← lengthOf r
    let start ← fromArg (i.arg 1) length
    let found ← firstInRange (fun n => do
      match ← item? r n with
      | some v => return if v.strictEq (i.arg 0) then some (v, n) else none
      | none   => return none) (length - start) start
    return indexResult found,
  method "join" 1 fun i => do
    let r ← toObject i.this
    let separator ← if (i.arg 0).isUndefined then pure (.ofString ",") else toText (i.arg 0)
    joinItems r separator toText,
  method "keys" 0 (arrayIterator true false),
  method "lastIndexOf" 1 fun i => do
    let r ← toObject i.this
    let length ← lengthOf r
    let stop ← if i.arguments.length > 1 then do
        let x ← toInteger (i.arg 1)
        pure (if x < 0 then clampLength (length.toFloat + x + 1)
          else min length (clampLength (x + 1)))
      else pure length
    let found ← lastInRange (fun n => do
      match ← item? r n with
      | some v => return if v.strictEq (i.arg 0) then some (v, n) else none
      | none   => return none) stop
    return indexResult found,
  method "map" 1 fun i => do
    let r ← toObject i.this
    let length ← lengthOf r
    let f ← functionArg i 0
    let result ← newArrayLike r length
    forRange length fun n => do
      match ← item? r n with
      | some v => createProperty result (.ofNat n) (← call f (i.arg 1) [v, .ofNat n, .object r])
      | none   => pure ()
    return .object result,
  method "pop" 0 fun i => do
    let r ← toObject i.this
    let length ← lengthOf r
    if length = 0 then
      setLength r 0
      return .undefined
    let v ← get r (.ofNat (length - 1))
    deleteOrThrow r (.ofNat (length - 1))
    setLength r (length - 1)
    return v,
  method "push" 1 fun i => do pushItems (← toObject i.this) i.arguments,
  method "reduce" 1 fun i => do
    let r ← toObject i.this
    let length ← lengthOf r
    let f ← functionArg i 0
    let first := if i.arguments.length > 1 then some (i.arg 1) else none
    let result ← foldRange (fun sum n => do
      match ← item? r n, sum with
      | some v, some s => return some (← call f .undefined [s, v, .ofNat n, .object r])
      | some v, none   => return some v
      | none, sum      => return sum) length 0 first
    match result with
    | some v => return v
    | none   => throwType "reduce of empty array with no initial value",
  method "reduceRight" 1 fun i => do
    let r ← toObject i.this
    let length ← lengthOf r
    let f ← functionArg i 0
    let first := if i.arguments.length > 1 then some (i.arg 1) else none
    let result ← foldRange (fun sum n => do
      let n := length - 1 - n
      match ← item? r n, sum with
      | some v, some s => return some (← call f .undefined [s, v, .ofNat n, .object r])
      | some v, none   => return some v
      | none, sum      => return sum) length 0 first
    match result with
    | some v => return v
    | none   => throwType "reduce of empty array with no initial value",
  method "reverse" 0 fun i => do
    let r ← toObject i.this
    let length ← lengthOf r
    forRange (length / 2) fun low => do
      let high := length - 1 - low
      let a ← item? r low
      let b ← item? r high
      match b with
      | some v => setOrThrow r (.ofNat low) v
      | none   => if a.isSome then deleteOrThrow r (.ofNat low)
      match a with
      | some v => setOrThrow r (.ofNat high) v
      | none   => if b.isSome then deleteOrThrow r (.ofNat high)
    return .object r,
  method "shift" 0 fun i => do
    let r ← toObject i.this
    let length ← lengthOf r
    if length = 0 then
      setLength r 0
      return .undefined
    let v ← get r (.index 0)
    forRange (length - 1) fun n => moveItem r (n + 1) n
    deleteOrThrow r (.ofNat (length - 1))
    setLength r (length - 1)
    return v,
  method "slice" 2 fun i => do
    let r ← toObject i.this
    let length ← lengthOf r
    let start ← relativeArg (i.arg 0) length 0
    let stop ← relativeArg (i.arg 1) length length
    let result ← newArrayLike r (stop - start)
    forRange (stop - start) fun n => do
      match ← item? r (start + n) with
      | some v => createProperty result (.ofNat n) v
      | none   => pure ()
    setLength result (stop - start)
    return .object result,
  method "some" 1 fun i => do
    let found ← searchItems i fun answer _ _ => return if answer.toBool then some () else none
    return .bool found.isSome,
  method "sort" 1 fun i => do
    comparatorArg (i.arg 0)
    let r ← toObject i.this
    let length ← lengthOf r
    let items ← foldRange (fun items n => do
      match ← item? r n with
      | some v => return v :: items
      | none   => return items) length 0 []
    let sorted ← sortValues (i.arg 0) items.reverse
    sorted.zipIdx.forM fun (v, n) => setOrThrow r (.ofNat n) v
    forRange (length - sorted.length) fun n => deleteOrThrow r (.ofNat (sorted.length + n))
    return .object r,
  method "splice" 2 spliceItems,
  method "toLocaleString" 0 fun i => do
    joinItems (← toObject i.this) (.ofString ",") fun v => do
      toText (← invoke v "toLocaleString" []),
  method "toReversed" 0 fun i => do newArray (← itemsOf (← toObject i.this)).reverse,
  method "toSorted" 1 fun i => do
    comparatorArg (i.arg 0)
    newArray (← sortValues (i.arg 0) (← itemsOf (← toObject i.this))),
  method "toSpliced" 2 fun i => do
    let items ← itemsOf (← toObject i.this)
    let start ← relativeArg (i.arg 0) items.length 0
    let removed ← match i.arguments with
      | []  => pure 0
      | [_] => pure (items.length - start)
      | _   => do pure (min (clampLength (← toInteger (i.arg 1))) (items.length - start))
    newArray (items.take start ++ i.arguments.drop 2 ++ items.drop (start + removed)),
  method "toString" 0 fun i => do
    let r ← toObject i.this
    let f ← getNamed r "join"
    if ← isCallable f then call f (.object r) []
    else
      match ← getNamed Standard.object.proto "toString" with
      | f => call f (.object r) [],
  method "unshift" 1 fun i => do
    let r ← toObject i.this
    let length ← lengthOf r
    let count := i.arguments.length
    if count > 0 then
      forRange length fun n => moveItem r (length - 1 - n) (length - 1 - n + count)
      i.arguments.zipIdx.forM fun (v, n) => setOrThrow r (.ofNat n) v
    setLength r (length + count)
    return .ofNat (length + count),
  method "values" 0 (arrayIterator false true),
  method "with" 2 fun i => do
    let items ← itemsOf (← toObject i.this)
    let x ← toInteger (i.arg 0)
    let x := if x < 0 then x + items.length.toFloat else x
    if x < 0 || x ≥ items.length.toFloat then throwRange "index is out of range"
    newArray (items.set (clampLength x) (i.arg 1))]

/-- The names of members that `with` statements leave aside. -/
def arrayUnscopables : List String :=
  ["at", "copyWithin", "entries", "fill", "find", "findIndex", "findLast", "findLastIndex",
   "flat", "flatMap", "includes", "keys", "toReversed", "toSorted", "toSpliced", "values"]

end Stencil.Script.Library
