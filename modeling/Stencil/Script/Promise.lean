import Stencil.Script.Iterate

/-!
# Promises

How promises are settled and what waits for them. What waits is run as jobs, after the running
script has ended.
-/

namespace Stencil.Script

/-- A promise that is not settled. -/
def newPromise : Exec Ref := allocateKind (.promise (.pending [])) .promise

/-- Lets a reaction to a settled promise wait. -/
def enqueueReaction (r : Reaction) (argument : Value) (throws : Bool) : Exec Unit :=
  enqueue (.react r.capability (if throws then r.onRejected else r.onFulfilled) argument throws)

/-- Settles a promise, if it is pending. -/
def settlePromise (promise : Ref) (value : Value) (rejects : Bool) : Exec Unit := do
  match ← kindOf promise with
  | .promise (.pending reactions) =>
    setKind promise (.promise (if rejects then .rejected value else .fulfilled value))
    reactions.forM fun r => enqueueReaction r value rejects
  | _ => pure ()

/-- Resolves a promise with a value, which it follows when that has a method `then`. -/
def resolvePromise (promise : Ref) (value : Value) : Exec Unit := do
  match value with
  | .object r =>
    if r == promise then
      settlePromise promise (← newError .typeError "promise cannot be resolved with itself") true
    else
      match ← attempt (getNamed r "then") with
      | .error error => settlePromise promise error true
      | .ok method   =>
        if ← isCallable method then enqueue (.follow promise value method)
        else settlePromise promise value false
  | _ => settlePromise promise value false

/-- The functions that settle a promise, of which the first call counts. -/
def settlers (promise : Ref) : Exec (Value × Value) := do
  let guard ← allocateKind (.holder #[]) .object
  return (← newStep (.settle promise guard false) 1, ← newStep (.settle promise guard true) 1)

/-- What a function that settles a promise does. -/
def runSettle (promise guard : Ref) (rejects : Bool) (value : Value) : Exec Value := do
  match ← kindOf guard with
  | .holder #[] =>
    setKind guard (.holder #[.bool true])
    if rejects then settlePromise promise value true else resolvePromise promise value
    return .undefined
  | _ => return .undefined

/-- A promise of the standard kind with the functions that settle it. -/
def newCapability : Exec Capability := do
  let promise ← newPromise
  let (resolve, reject) ← settlers promise
  return ⟨.object promise, resolve, reject⟩

/-- A promise that a constructor makes, with the functions that settle it. -/
def capabilityOf (constructor : Value) : Exec Capability := do
  match constructor with
  | .object c =>
    if c == Standard.promise.constructor then newCapability
    else
      unless ← isConstructor constructor do throwType "promise constructor is not a constructor"
      let holder ← allocateKind (.holder #[.undefined, .undefined]) .object
      let executor ← newStep (.keepCapability holder) 2
      let promise ← construct constructor [executor] constructor
      match ← kindOf holder with
      | .holder values =>
        let resolve := values.getD 0 .undefined
        let reject := values.getD 1 .undefined
        unless (← isCallable resolve) && (← isCallable reject) do
          throwType "promise constructor gave no functions"
        return ⟨promise, resolve, reject⟩
      | _ => throwType "promise constructor gave no functions"
  | _ => throwType "promise constructor is not an object"

/-- Lets something wait for a promise. -/
def reactTo (promise : Ref) (reaction : Reaction) : Exec Unit := do
  match ← kindOf promise with
  | .promise (.pending reactions)  =>
    setKind promise (.promise (.pending (reactions ++ [reaction])))
  | .promise (.fulfilled value) => enqueueReaction reaction value false
  | .promise (.rejected reason) => enqueueReaction reaction reason true
  | _                           => pure ()

/-- A promise for a value: the value itself if it is a promise of this constructor. -/
def promiseFor (constructor value : Value) : Exec Value := do
  let isOwn ← match value with
    | .object r =>
      match ← kindOf r with
      | .promise _ => pure ((← getNamed r "constructor").strictEq constructor)
      | _          => pure false
    | _         => pure false
  if isOwn then return value
  let capability ← capabilityOf constructor
  let _ ← call capability.resolve .undefined [value]
  return capability.promise

/-- Lets functions wait for a value. -/
def awaitValue (value onFulfilled onRejected : Value) : Exec Unit := do
  match ← promiseFor (.object Standard.promise.constructor) value with
  | .object promise => reactTo promise ⟨none, onFulfilled, onRejected⟩
  | _               => pure ()

/-- Runs a job. -/
def runJob : Job → Exec Unit
  | .react capability handler argument throws => do
    let answer ← if handler.isUndefined then
        pure (if throws then Except.error argument else Except.ok argument)
      else attempt (call handler .undefined [argument])
    match capability, answer with
    | none, _             => pure ()
    | some c, .ok v       =>
      let _ ← call c.resolve .undefined [v]
    | some c, .error v    =>
      let _ ← call c.reject .undefined [v]
  | .follow promise thenable method => do
    let (resolve, reject) ← settlers promise
    match ← attempt (call method thenable [resolve, reject]) with
    | .ok _        => pure ()
    | .error error =>
      let _ ← call reject .undefined [error]

end Stencil.Script
