import Stencil.Script.Update

/-!
# Iteration

Going over the items of an object by its iterator, and closing an iterator that is left early.
-/

namespace Stencil.Script

/-- How many turns a loop may take. -/
def turnLimit : Nat := 1 <<< 62

/-- The iterator that a value gives. -/
def iterationBy (v method : Value) : Exec Iteration := do
  match ← call method v [] with
  | .object it => return ⟨.object it, ← getNamed it "next"⟩
  | _          => throwType "iterator is not an object"

/-- The iterator of a value. -/
def iterationOf (v : Value) : Exec Iteration := do
  match ← methodOfValue v (.ofSymbol .iterator) with
  | some method => iterationBy v method
  | none        => throwType "value is not iterable"

/-- The result of a step, which must be an object. -/
def stepResult (v : Value) : Exec Ref := do
  match v with
  | .object r => return r
  | _         => throwType "result of 'next' is not an object"

/-- The value of a step's result, none when the iterator is done. -/
def resultValue? (r : Ref) : Exec (Option Value) := do
  if (← getNamed r "done").toBool then return none
  return some (← getNamed r "value")

/-- The next item, none when there are no more. -/
def Iteration.step (it : Iteration) : Exec (Option Value) := do
  resultValue? (← stepResult (← call it.next it.iterator []))

/-- Closes an iterator because of an error, which goes on. -/
def Iteration.closeQuietly (it : Iteration) : Exec Unit := do
  let _ ← attempt (do
    match ← methodOfValue it.iterator (.ofString "return") with
    | some f =>
      let _ ← call f it.iterator []
    | none   => pure ())

/-- Closes an iterator that is left early. -/
def Iteration.close (it : Iteration) : Exec Unit := do
  match ← methodOfValue it.iterator (.ofString "return") with
  | some f =>
    let answer ← call f it.iterator []
    if !answer.isObject then throwType "result of 'return' is not an object"
  | none   => pure ()

/-- Carries a state through the items; an error closes the iterator. -/
def Iteration.fold {σ : Type} (it : Iteration) (f : σ → Value → Exec σ) : (fuel : Nat) → σ → Exec σ
  | 0, _        => exhaust
  | fuel + 1, s => do
    match ← it.step with
    | none   => return s
    | some v =>
      match ← attempt (f s v) with
      | .ok s        => it.fold f fuel s
      | .error error =>
        it.closeQuietly
        throwValue error

/-- Carries a state through the items of a value. -/
def foldItems {σ : Type} (v : Value) (s : σ) (f : σ → Value → Exec σ) : Exec σ := do
  (← iterationOf v).fold f turnLimit s

/-- The items of a value. -/
def listOf (v : Value) : Exec (List Value) := do
  return (← foldItems v [] fun items item => return item :: items).reverse

/-- The result of a step as an object. -/
def newResult (v : Value) (isDone : Bool) : Exec Value := do
  let r ← allocate {
    kind := .ordinary, proto := some Standard.object.proto, isExtensible := true,
    properties := #[(.ofString "value", .plain v), (.ofString "done", .plain (.bool isDone))] }
  return .object r

/-- The items of an array-like object. -/
def listFromArrayLike (v : Value) : Exec (List Value) := do
  match v with
  | .object r => itemsOf r
  | _         => throwType "arguments must be in an object"

/-! ### Constructors that objects name -/

/-- The constructor that an object asks to be used for new objects like it. -/
def speciesOf (r : Ref) (standard : Value) : Exec Value := do
  match ← getNamed r "constructor" with
  | .undefined => return standard
  | .object c  =>
    let species ← get c (.ofSymbol .species)
    if species.isNullish then return standard
    if ← isConstructor species then return species
    throwType "species is not a constructor"
  | _          => throwType "constructor is not an object"

/-- The prototype that a constructor names for new objects. -/
def protoFor (newTarget : Value) (standard : Standard) : Exec Ref := do
  match newTarget with
  | .object r =>
    match ← getNamed r "prototype" with
    | .object p => return p
    | _         => return standard.proto
  | _         => return standard.proto

/-- A new object of a kind, with the prototype that a constructor names. -/
def allocateFor (newTarget : Value) (standard : Standard) (kind : Kind) : Exec Ref := do
  let proto ← protoFor newTarget standard
  allocate (.empty kind (some proto))

end Stencil.Script
