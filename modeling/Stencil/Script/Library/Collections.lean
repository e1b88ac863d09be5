import Stencil.Script.Library.Objects

/-!
# Maps and sets

The members of maps and sets. Entries are kept in the order in which they were added; one that is
removed leaves a gap, so that loops over the entries keep their place.
-/

namespace Stencil.Script.Library

/-! ### Entries -/

/-- A value as a key of entries: there is only one zero. -/
def normalKey (v : Value) : Value :=
  match v with
  | .number x => if x == 0 then .number 0 else v
  | v         => v

/-- The place of a key among entries. -/
def entryIndex? (entries : Array (Option (Value × Value))) (key : Value) : Option Nat :=
  entries.findIdx? fun e => match e with
    | some (k, _) => k.sameValueZero key
    | none        => false

/-- The place of a value among the values of a set. -/
def valueIndex? (values : Array (Option Value)) (v : Value) : Option Nat :=
  values.findIdx? fun e => match e with
    | some k => k.sameValueZero v
    | none   => false

def putEntry (entries : Array (Option (Value × Value))) (key v : Value) :
    Array (Option (Value × Value)) :=
  match entryIndex? entries key with
  | some n => entries.setIfInBounds n (some (key, v))
  | none   => entries.push (some (normalKey key, v))

def putValue (values : Array (Option Value)) (v : Value) : Array (Option Value) :=
  match valueIndex? values v with
  | some _ => values
  | none   => values.push (some (normalKey v))

/-! ### Maps -/

/-- The entries of a map. -/
def thisMap (i : Invocation) : Exec (Ref × Array (Option (Value × Value))) := do
  match i.this with
  | .object r =>
    match ← kindOf r with
    | .map entries => return (r, entries)
    | _            => throwType "value is not a map"
  | _         => throwType "value is not a map"

/-- Adds the entries of a value to a new collection by one of its members. -/
def fillBy (r : Ref) (name : String) (items : Value) (f : Value → Exec (List Value)) :
    Exec Unit := do
  if !items.isNullish then
    let adder ← getNamed r name
    unless ← isCallable adder do throwType "not a callable function"
    foldItems items () fun _ item => do
      let _ ← call adder (.object r) (← f item)

/-- The key and the value of an entry. -/
def entryParts (entry : Value) : Exec (List Value) := do
  match entry with
  | .object e => return [← get e (.index 0), ← get e (.index 1)]
  | _         => throwType "entry is not an object"

/-- A new collection of a kind. -/
def makeCollection (standard : Standard) (kind : Kind) (adder : String)
    (parts : Value → Exec (List Value)) (i : Invocation) : Exec Value := do
  if i.newTarget.isUndefined then throwType "constructor needs 'new'"
  let r ← allocateFor i.newTarget standard kind
  fillBy r adder (i.arg 0) parts
  return .object r

/-- An iterator over a map. -/
def mapIterator (keys values : Bool) (i : Invocation) : Exec Value := do
  let (r, _) ← thisMap i
  return .object (← allocateKind (.iterator (.map r 0 keys values)) .mapIterator)

/-- The entries from a place on, as far as a function wants them; `fuel` bounds their number. Those
that are added on the way count too. -/
def forEntries (r : Ref) (f : Value → Value → Exec Unit) : (fuel : Nat) → (n : Nat) → Exec Unit
  | 0, _        => exhaust
  | fuel + 1, n => do
    let next ← match ← kindOf r with
      | .map entries => pure (if n < entries.size then some (entries.getD n none) else none)
      | .set values  =>
        pure (if n < values.size then some ((values.getD n none).map fun v => (v, v)) else none)
      | _            => pure none
    match next with
    | none               => pure ()
    | some none          => forEntries r f fuel (n + 1)
    | some (some (k, v)) =>
      f k v
      forEntries r f fuel (n + 1)

def mapStatics : List Builtin := [
  method "groupBy" 2 fun i => do
    let f ← functionArg i 1
    let (entries, _) ← foldItems (i.arg 0) ((#[], 0) : Array (Value × List Value) × Nat)
      fun (groups, n) v => do
        let key := normalKey (← call f .undefined [v, .ofNat n])
        match groups.findIdx? fun g => g.1.sameValueZero key with
        | some k => return (groups.modify k fun g => (g.1, g.2 ++ [v]), n + 1)
        | none   => return (groups.push (key, [v]), n + 1)
    let entries ← entries.toList.mapM fun (key, items) => do return some (key, ← newArray items)
    return .object (← allocateKind (.map entries.toArray) .map),
  speciesGetter]

def mapMethods : List Builtin := [
  method "clear" 0 fun i => do
    let (r, entries) ← thisMap i
    setKind r (.map (entries.map fun _ => none))
    return .undefined,
  method "delete" 1 fun i => do
    let (r, entries) ← thisMap i
    match entryIndex? entries (i.arg 0) with
    | some n =>
      setKind r (.map (entries.setIfInBounds n none))
      return .bool true
    | none   => return .bool false,
  method "entries" 0 (mapIterator true true),
  method "forEach" 1 fun i => do
    let (r, _) ← thisMap i
    let f ← functionArg i 0
    forEntries r (fun k v => do
      let _ ← call f (i.arg 1) [v, k, i.this]) turnLimit 0
    return .undefined,
  method "get" 1 fun i => do
    let (_, entries) ← thisMap i
    match (entryIndex? entries (i.arg 0)).bind fun n => entries.getD n none with
    | some (_, v) => return v
    | none        => return .undefined,
  method "has" 1 fun i => do
    let (_, entries) ← thisMap i
    return .bool (entryIndex? entries (i.arg 0)).isSome,
  method "keys" 0 (mapIterator true false),
  method "set" 2 fun i => do
    let (r, entries) ← thisMap i
    setKind r (.map (putEntry entries (i.arg 0) (i.arg 1)))
    return i.this,
  getter "size" fun i => do
    let (_, entries) ← thisMap i
    return .ofNat (entries.filter Option.isSome).size,
  method "values" 0 (mapIterator false true)]

/-! ### Sets -/

/-- The values of a set. -/
def thisSet (i : Invocation) : Exec (Ref × Array (Option Value)) := do
  match i.this with
  | .object r =>
    match ← kindOf r with
    | .set values => return (r, values)
    | _           => throwType "value is not a set"
  | _         => throwType "value is not a set"

/-- An iterator over a set. -/
def setIterator (entries : Bool) (i : Invocation) : Exec Value := do
  let (r, _) ← thisSet i
  return .object (← allocateKind (.iterator (.set r 0 entries)) .setIterator)

/-- What a set is compared with: whether it has a value, and its values. -/
structure SetLike where
  size : Float
  has : Value → Exec Bool
  values : Exec (List Value)

/-- The set that an argument stands for. -/
def setLikeArg (v : Value) : Exec SetLike := do
  match v with
  | .object r =>
    let size ← toNumber (← getNamed r "size")
    if size.isNaN then throwType "size is not a number"
    if size < 0 then throwRange "size is negative"
    let has ← getNamed r "has"
    unless ← isCallable has do throwType "not a callable function"
    let keys ← getNamed r "keys"
    unless ← isCallable keys do throwType "not a callable function"
    return {
      size
      has    := fun x => do return (← call has v [x]).toBool
      values := do
        match ← call keys v [] with
        | .object it =>
          let it : Iteration := ⟨.object it, ← getNamed it "next"⟩
          return (← it.fold (fun items item => return item :: items) turnLimit []).reverse
        | _ => throwType "iterator is not an object" }
  | _ => throwType "value is not an object"

def newSet (values : List Value) : Exec Value := do
  let entries := values.foldl putValue #[]
  return .object (← allocateKind (.set entries) .set)

/-- The values of a set that are there. -/
def present (values : Array (Option Value)) : List Value := values.toList.filterMap id

def setStatics : List Builtin := [speciesGetter]

def setMethods : List Builtin := [
  method "add" 1 fun i => do
    let (r, values) ← thisSet i
    setKind r (.set (putValue values (i.arg 0)))
    return i.this,
  method "clear" 0 fun i => do
    let (r, values) ← thisSet i
    setKind r (.set (values.map fun _ => none))
    return .undefined,
  method "delete" 1 fun i => do
    let (r, values) ← thisSet i
    match valueIndex? values (i.arg 0) with
    | some n =>
      setKind r (.set (values.setIfInBounds n none))
      return .bool true
    | none   => return .bool false,
  method "difference" 1 fun i => do
    let (_, values) ← thisSet i
    let other ← setLikeArg (i.arg 0)
    newSet (← (present values).filterM fun v => do return !(← other.has v)),
  method "entries" 0 (setIterator true),
  method "forEach" 1 fun i => do
    let (r, _) ← thisSet i
    let f ← functionArg i 0
    forEntries r (fun k v => do
      let _ ← call f (i.arg 1) [v, k, i.this]) turnLimit 0
    return .undefined,
  method "has" 1 fun i => do
    let (_, values) ← thisSet i
    return .bool (valueIndex? values (i.arg 0)).isSome,
  method "intersection" 1 fun i => do
    let (_, values) ← thisSet i
    let other ← setLikeArg (i.arg 0)
    newSet (← (present values).filterM other.has),
  method "isDisjointFrom" 1 fun i => do
    let (_, values) ← thisSet i
    let other ← setLikeArg (i.arg 0)
    return .bool !(← (present values).anyM other.has),
  method "isSubsetOf" 1 fun i => do
    let (_, values) ← thisSet i
    let other ← setLikeArg (i.arg 0)
    return .bool (← (present values).allM other.has),
  method "isSupersetOf" 1 fun i => do
    let (_, values) ← thisSet i
    let other ← setLikeArg (i.arg 0)
    return .bool ((← other.values).all fun v => (valueIndex? values v).isSome),
  getter "size" fun i => do
    let (_, values) ← thisSet i
    return .ofNat (present values).length,
  method "symmetricDifference" 1 fun i => do
    let (_, values) ← thisSet i
    let others ← (← setLikeArg (i.arg 0)).values
    let own := present values
    let isIn (list : List Value) (v : Value) : Bool := list.any fun x => x.sameValueZero v
    newSet (own.filter (fun v => !isIn others v) ++ others.filter fun v => !isIn own v),
  method "union" 1 fun i => do
    let (_, values) ← thisSet i
    newSet (present values ++ (← (← setLikeArg (i.arg 0)).values)),
  method "values" 0 (setIterator false)]

/-! ### Iterators -/

/-- The next entry of a map or a set from a place on, and the place after it; `fuel` bounds the
gaps. -/
def nextEntry (r : Ref) : (fuel : Nat) → (n : Nat) → Exec (Option ((Value × Value) × Nat))
  | 0, _        => return none
  | fuel + 1, n => do
    let next ← match ← kindOf r with
      | .map entries => pure (if n < entries.size then some (entries.getD n none) else none)
      | .set values  =>
        pure (if n < values.size then some ((values.getD n none).map fun v => (v, v)) else none)
      | _            => pure none
    match next with
    | none          => return none
    | some none     => nextEntry r fuel (n + 1)
    | some (some e) => return some (e, n + 1)

def collectionIteratorMethods : List Builtin := [
  method "next" 0 fun i => do
    match i.this with
    | .object r =>
      match ← kindOf r with
      | .iterator (.map source n keys values) =>
        match ← nextEntry source turnLimit n with
        | some ((k, v), n) =>
          setKind r (.iterator (.map source n keys values))
          let answer ← if keys && values then newArray [k, v] else pure (if keys then k else v)
          newResult answer false
        | none             =>
          setKind r (.iterator .finished)
          newResult .undefined true
      | .iterator (.set source n entries) =>
        match ← nextEntry source turnLimit n with
        | some ((k, v), n) =>
          setKind r (.iterator (.set source n entries))
          newResult (← if entries then newArray [k, v] else pure k) false
        | none             =>
          setKind r (.iterator .finished)
          newResult .undefined true
      | .iterator .finished => newResult .undefined true
      | _ => throwType "value is not an iterator of a collection"
    | _ => throwType "value is not an iterator of a collection"]

/-! ### Weak collections -/

/-- Whether a value can be held weakly. -/
def canBeWeak : Value → Bool
  | .object _ => true
  | .symbol _ => true
  | _         => false

/-- The entries of a weak map. -/
def thisWeakMap (i : Invocation) : Exec (Ref × List (Value × Value)) := do
  match i.this with
  | .object r =>
    match ← kindOf r with
    | .weakMap entries => return (r, entries)
    | _                => throwType "value is not a weak map"
  | _         => throwType "value is not a weak map"

def weakMapMethods : List Builtin := [
  method "delete" 1 fun i => do
    let (r, entries) ← thisWeakMap i
    let found := entries.any fun e => e.1.strictEq (i.arg 0)
    setKind r (.weakMap (entries.filter fun e => !e.1.strictEq (i.arg 0)))
    return .bool found,
  method "get" 1 fun i => do
    let (_, entries) ← thisWeakMap i
    match entries.find? fun e => e.1.strictEq (i.arg 0) with
    | some (_, v) => return v
    | none        => return .undefined,
  method "has" 1 fun i => do
    let (_, entries) ← thisWeakMap i
    return .bool (entries.any fun e => e.1.strictEq (i.arg 0)),
  method "set" 2 fun i => do
    let (r, entries) ← thisWeakMap i
    if !canBeWeak (i.arg 0) then throwType "key of weak map must be an object"
    let others := entries.filter fun e => !e.1.strictEq (i.arg 0)
    setKind r (.weakMap ((i.arg 0, i.arg 1) :: others))
    return i.this]

/-- The values of a weak set. -/
def thisWeakSet (i : Invocation) : Exec (Ref × List Value) := do
  match i.this with
  | .object r =>
    match ← kindOf r with
    | .weakSet values => return (r, values)
    | _               => throwType "value is not a weak set"
  | _         => throwType "value is not a weak set"

def weakSetMethods : List Builtin := [
  method "add" 1 fun i => do
    let (r, values) ← thisWeakSet i
    if !canBeWeak (i.arg 0) then throwType "value of weak set must be an object"
    if !(values.any fun v => v.strictEq (i.arg 0)) then setKind r (.weakSet (i.arg 0 :: values))
    return i.this,
  method "delete" 1 fun i => do
    let (r, values) ← thisWeakSet i
    let found := values.any fun v => v.strictEq (i.arg 0)
    setKind r (.weakSet (values.filter fun v => !v.strictEq (i.arg 0)))
    return .bool found,
  method "has" 1 fun i => do
    let (_, values) ← thisWeakSet i
    return .bool (values.any fun v => v.strictEq (i.arg 0))]

def makeWeakRef (i : Invocation) : Exec Value := do
  if i.newTarget.isUndefined then throwType "constructor needs 'new'"
  if !canBeWeak (i.arg 0) then throwType "target of weak reference must be an object"
  return .object (← allocateFor i.newTarget .weakRef (.weakRef (i.arg 0)))

def weakRefMethods : List Builtin := [
  method "deref" 0 fun i => do
    match i.this with
    | .object r =>
      match ← kindOf r with
      | .weakRef target => return target
      | _               => throwType "value is not a weak reference"
    | _         => throwType "value is not a weak reference"]

end Stencil.Script.Library
