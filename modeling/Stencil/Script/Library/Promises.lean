import Stencil.Script.Library.Objects

/-!
# Promises and generators

The members of promises, generators and iterators.
-/

namespace Stencil.Script.Library

/-! ### Promises -/

/-- A new promise, whose executor is called with the functions that settle it. -/
def makePromise (i : Invocation) : Exec Value := do
  if i.newTarget.isUndefined then throwType "promise constructor needs 'new'"
  let executor ← functionArg i 0
  let promise ← allocateFor i.newTarget .promise (.promise (.pending []))
  let (resolve, reject) ← settlers promise
  match ← attempt (call executor .undefined [resolve, reject]) with
  | .ok _        => return .object promise
  | .error error =>
    let _ ← call reject .undefined [error]
    return .object promise

/-- What becomes of a promise, when it is settled, by two functions. -/
def promiseThen (this onFulfilled onRejected : Value) : Exec Value := do
  match this with
  | .object promise =>
    match ← kindOf promise with
    | .promise _ =>
      let constructor ← speciesOf promise (.object Standard.promise.constructor)
      let capability ← capabilityOf constructor
      let handler (f : Value) : Exec Value := do
        return if ← isCallable f then f else .undefined
      reactTo promise ⟨some capability, ← handler onFulfilled, ← handler onRejected⟩
      return capability.promise
    | _ => throwType "value is not a promise"
  | _ => throwType "value is not a promise"

/-- Rejects a promise with an error that comes up on the way to it. -/
def orReject (capability : Capability) (p : Exec Value) : Exec Value := do
  match ← attempt p with
  | .ok v        => return v
  | .error error =>
    let _ ← call capability.reject .undefined [error]
    return capability.promise

/-- The values that the gathered promises have given so far. -/
def gathered (holder : Ref) : Exec (Array Value) := do
  match ← kindOf holder with
  | .holder values => return values
  | _              => return #[]

/-- The number of promises that are gathered and not settled stands first among the values. -/
def remaining (values : Array Value) : Float :=
  match values.getD 0 .undefined with
  | .number x => x
  | _         => 0

/-- Changes the number of promises that are not settled. -/
def changeRemaining (holder : Ref) (change : Float) : Exec Float := do
  let values ← gathered holder
  let n := remaining values + change
  setKind holder (.holder (values.setIfInBounds 0 (.number n)))
  return n

/-- Ends the gathering of promises when all are settled. -/
def concludeGathering (gathering : Gathering) (holder : Ref) (capability : Capability) :
    Exec Unit := do
  let items := (← gathered holder).toList.tail
  if gathering = .any then
    let error ← newError .aggregateError "no promise was fulfilled"
    match error with
    | .object r => storeProperty r (.ofString "errors") (.hidden (← newArray items))
    | _         => pure ()
    let _ ← call capability.reject .undefined [error]
  else
    let _ ← call capability.resolve .undefined [← newArray items]

/-- What the settling of one promise adds to the results. -/
def settledEntry (v : Value) (rejects : Bool) : Exec Value := do
  let r ← newObject
  createProperty r (.ofString "status") (.ofString (if rejects then "rejected" else "fulfilled"))
  createProperty r (.ofString (if rejects then "reason" else "value")) v
  return .object r

/-- Takes the result of one of the gathered promises. -/
def runGather (gathering : Gathering) (index : Nat) (holder guard : Ref) (rejects : Bool)
    (capability : Capability) (v : Value) : Exec Value := do
  match ← kindOf guard with
  | .holder #[] =>
    setKind guard (.holder #[.bool true])
    let entry ← if gathering = .allSettled then settledEntry v rejects else pure v
    let values ← gathered holder
    setKind holder (.holder (values.setIfInBounds (index + 1) entry))
    if (← changeRemaining holder (-1)) == 0 then concludeGathering gathering holder capability
    return .undefined
  | _ => return .undefined

/-- Gathers the results of several promises. -/
def gatherPromises (gathering : Gathering) (i : Invocation) : Exec Value := do
  let capability ← capabilityOf i.this
  orReject capability do
    let resolve ← getOf i.this (.ofString "resolve")
    unless ← isCallable resolve do throwType "not a callable function"
    let holder ← allocateKind (.holder #[.number 1]) .object
    let _ ← foldItems (i.arg 0) 0 fun n v => do
      setKind holder (.holder ((← gathered holder).push .undefined))
      let next ← call resolve i.this [v]
      let guard ← allocateKind (.holder #[]) .object
      let done ← newStep (.gather gathering n holder guard false capability) 1
      let failed ← newStep (.gather gathering n holder guard true capability) 1
      let _ ← changeRemaining holder 1
      let _ ← match gathering with
        | .all        => invoke next "then" [done, capability.reject]
        | .allSettled => invoke next "then" [done, failed]
        | .any        => invoke next "then" [capability.resolve, failed]
      return n + 1
    if (← changeRemaining holder (-1)) == 0 then concludeGathering gathering holder capability
    return capability.promise

/-- The first of several promises to be settled. -/
def racePromises (i : Invocation) : Exec Value := do
  let capability ← capabilityOf i.this
  orReject capability do
    let resolve ← getOf i.this (.ofString "resolve")
    unless ← isCallable resolve do throwType "not a callable function"
    foldItems (i.arg 0) () fun _ v => do
      let next ← call resolve i.this [v]
      let _ ← invoke next "then" [capability.resolve, capability.reject]
    return capability.promise

def promiseStatics : List Builtin := [
  method "all" 1 (gatherPromises .all),
  method "allSettled" 1 (gatherPromises .allSettled),
  method "any" 1 (gatherPromises .any),
  method "race" 1 racePromises,
  method "reject" 1 fun i => do
    let capability ← capabilityOf i.this
    let _ ← call capability.reject .undefined [i.arg 0]
    return capability.promise,
  method "resolve" 1 fun i => do
    if !i.this.isObject then throwType "value is not an object"
    promiseFor i.this (i.arg 0),
  method "withResolvers" 0 fun i => do
    let capability ← capabilityOf i.this
    let r ← newObject
    createProperty r (.ofString "promise") capability.promise
    createProperty r (.ofString "resolve") capability.resolve
    createProperty r (.ofString "reject") capability.reject
    return .object r,
  speciesGetter]

/-- Calls the handler of `finally`, and then goes on with what the promise had. -/
def runFinally (handler constructor : Value) (throws : Bool) (v : Value) : Exec Value := do
  let answer ← call handler .undefined []
  let promise ← promiseFor constructor answer
  invoke promise "then" [← newStep (.constant v throws) 0]

def promiseMethods : List Builtin := [
  method "catch" 1 fun i => invoke i.this "then" [.undefined, i.arg 0],
  method "finally" 1 fun i => do
    match i.this with
    | .object r =>
      let constructor ← speciesOf r (.object Standard.promise.constructor)
      if ← isCallable (i.arg 0) then
        invoke i.this "then" [
          ← newStep (.finallyThen (i.arg 0) constructor false) 1,
          ← newStep (.finallyThen (i.arg 0) constructor true) 1]
      else invoke i.this "then" [i.arg 0, i.arg 0]
    | _ => throwType "value is not an object",
  method "then" 2 fun i => promiseThen i.this (i.arg 0) (i.arg 1)]

/-! ### Generators -/

def generatorMethods : List Builtin := [
  method "next" 1 fun i => do
    resumeGenerator (← objectArg i.this) (.next (i.arg 0)),
  method "return" 1 fun i => do
    resumeGenerator (← objectArg i.this) (.gives (i.arg 0)),
  method "throw" 1 fun i => do
    resumeGenerator (← objectArg i.this) (.throws (i.arg 0))]

def asyncGeneratorMethods : List Builtin := [
  method "next" 1 fun i => requestOf i.this (.next (i.arg 0)),
  method "return" 1 fun i => requestOf i.this (.gives (i.arg 0)),
  method "throw" 1 fun i => requestOf i.this (.throws (i.arg 0))]

/-- Objects that are their own iterators. -/
def iteratorMethods : List Builtin := [symbolMethod .iterator 0 fun i => return i.this]

def asyncIteratorMethods : List Builtin := [symbolMethod .asyncIterator 0 fun i => return i.this]

/-! ### Iterators in asynchronous loops -/

/-- The iterator that an asynchronous one wraps. -/
def wrapped (i : Invocation) : Exec Iteration := do
  match i.this with
  | .object r =>
    match ← kindOf r with
    | .wrappedIterator it => return it
    | _                   => throwType "value is not an iterator"
  | _         => throwType "value is not an iterator"

/-- The promise of a step's result, whose value is waited for. -/
def promiseResult (capability : Capability) (answer : Value) : Exec Value := do
  let r ← stepResult answer
  let isDone := (← getNamed r "done").toBool
  let value ← promiseFor (.object Standard.promise.constructor) (← getNamed r "value")
  match value with
  | .object p => reactTo p ⟨some capability, ← newStep (.wrapResult isDone) 1, .undefined⟩
  | _         => pure ()
  return capability.promise

/-- Hands a request on to the wrapped iterator. -/
def wrappedCall (i : Invocation) (name : String) (absent : Value → Exec Value) : Exec Value := do
  let it ← wrapped i
  let capability ← newCapability
  orReject capability do
    match ← methodOfValue it.iterator (.ofString name) with
    | some f => promiseResult capability (← call f it.iterator (i.arguments.take 1))
    | none   =>
      let _ ← call capability.resolve .undefined [← absent (i.arg 0)]
      return capability.promise

def wrappedIteratorMethods : List Builtin := [
  method "next" 1 fun i => do
    let it ← wrapped i
    let capability ← newCapability
    orReject capability do
      promiseResult capability (← call it.next it.iterator (i.arguments.take 1)),
  method "return" 1 fun i => wrappedCall i "return" fun v => newResult v true,
  method "throw" 1 fun i => wrappedCall i "throw" fun _ => throwType "iterator has no 'throw'"]

/-! ### Small functions -/

/-- Keeps the functions that a new promise gives away. -/
def runKeep (holder : Ref) (resolve reject : Value) : Exec Value := do
  match ← kindOf holder with
  | .holder values =>
    if !(values.getD 0 .undefined).isUndefined || !(values.getD 1 .undefined).isUndefined then
      throwType "promise functions were given already"
    setKind holder (.holder #[resolve, reject])
    return .undefined
  | _ => return .undefined

/-- Keeps how a promise was settled: whether it was rejected, and the value. -/
def runRecord (holder : Ref) (rejects : Bool) (v : Value) : Exec Value := do
  let wasRejected ← match ← kindOf holder with
    | .holder values => pure (values.getD 0 .undefined).toBool
    | _              => pure false
  setKind holder (.holder #[.bool (wasRejected || rejects), v])
  return .undefined

/-- What one of the small functions does with its arguments. -/
def runStep (step : Step) (i : Invocation) : Exec Value :=
  match step with
  | .settle promise guard rejects => runSettle promise guard rejects (i.arg 0)
  | .keepCapability holder        => runKeep holder (i.arg 0) (i.arg 1)
  | .takeUp coroutine throws      => takeUpCoroutine coroutine (i.arg 0) throws
  | .finishReturn generator throws => finishReturn generator (i.arg 0) throws
  | .gather gathering index holder guard rejects capability =>
    runGather gathering index holder guard rejects capability (i.arg 0)
  | .finallyThen handler constructor throws => runFinally handler constructor throws (i.arg 0)
  | .constant value throws        => if throws then throwValue value else return value
  | .wrapResult isDone            => newResult (i.arg 0) isDone
  | .revoke proxy                 => revokeProxy proxy
  | .record holder rejects        => runRecord holder rejects (i.arg 0)

end Stencil.Script.Library
