import Stencil.Contract
import Stencil.Sandbox.Surroundings
import Stencil.Waiting

/-!
# Sandboxes

A sandbox evaluates the scripts of one template. Everything in it is a state of the machine, and
every error that reaches the outside becomes a `Failure` of the template.
-/

namespace Stencil

open Script

/-- A machine with the surroundings of templates, and the template that it belongs to. -/
structure Sandbox where
  machine : Machine
  file : String

namespace Sandbox

/-- A sandbox in which nothing was evaluated. -/
def new (file : String) : Sandbox := ⟨start, file⟩

/-! ### Errors -/

/-- What the outside gets to know of an error. -/
structure Report where
  /-- Empty when the error has no name. -/
  name : String
  text : String
  /-- The module that was to be loaded. -/
  specifier : Option String

/-- A value as a text of the outside, if it is a text. -/
def hostText? : Value → Option String
  | .text t => some t.toEscaped
  | _       => none

/-- Name, text and module of an error. Only those of `require` tell a module; other objects that
have a message tell it, and what else is thrown is shown as on the console. -/
def errorParts (v : Value) : Exec (Value × Value × Value) := do
  match v with
  | .object r =>
    if ← instanceOf v (.object Standard.loadError.constructor) then
      return (← getNamed r "name", ← getNamed r "message", ← getNamed r "specifier")
    let isData := !(← isCallable v)
    if isData && (← hasProperty r (.ofString "message")) then
      let name ← getNamed r "name"
      let name ← shown (if name.isNullish then .ofString "" else name)
      return (name, ← shown (← getNamed r "message"), .null)
    return (.ofString "", ← inspect v, .null)
  | _ => return (.ofString "", ← inspect v, .null)

/-- The text of a value that cannot be shown otherwise. -/
def lastResort (v : Value) : String :=
  match v with
  | .text t => t.toEscaped
  | _       => "[object Object]"

/-- What the outside gets to know of a value that was thrown. -/
def report (v : Value) : Exec Report := do
  match ← attempt (errorParts v) with
  | .ok (name, text, specifier) =>
    return ⟨(hostText? name).getD "", (hostText? text).getD (lastResort v), hostText? specifier⟩
  | .error _                    => return ⟨"", lastResort v, none⟩

/-- The failure of a template, whose error has this report. -/
def Report.toFailure (file : String) (r : Report) : Failure :=
  if r.name = loadErrorName then .moduleLoadDisabled file (r.specifier.getD "")
  else .evaluation file (.thrown r.name r.text)

/-- The report of running out of steps. -/
def exhaustion : Report := ⟨"", "too many steps", none⟩

/-! ### Computations -/

/-- Computes in a sandbox. -/
def attemptIn {α : Type} (p : Exec α) : StateM Sandbox (Except Abrupt α) := fun s =>
  match p host s.machine with
  | .ok a machine        => (.ok a, { s with machine })
  | .error error machine => (.error error, { s with machine })

/-- The report of why a computation stopped. -/
def reportOf (error : Abrupt) : StateM Sandbox Report := do
  match error with
  | .exhausted => return exhaustion
  | .thrown v  =>
    match ← attemptIn (report v) with
    | .ok r    => return r
    | .error _ => return exhaustion

/-- Fails because a computation stopped. -/
def blame {α : Type} (error : Abrupt) : Action Sandbox α := do
  let r ← (reportOf error : StateM Sandbox Report)
  throw (r.toFailure (← get).file)

/-- Computes in a sandbox; what is thrown makes the template fail. -/
def compute {α : Type} (p : Exec α) : Action Sandbox α := do
  match ← (attemptIn p : StateM Sandbox _) with
  | .ok a        => return a
  | .error error => blame error

/-! ### Jobs and timers -/

/-- The machine after the job that has waited longest. Its errors do not count. -/
def job? (m : Machine) : Option Machine :=
  match m.jobs with
  | []          => none
  | job :: jobs =>
    match runJob job host { m with jobs } with
    | .ok _ m    => some m
    | .error _ m => some m

/-- Runs the jobs that wait, and those that they add. -/
def runJobs : StateM Sandbox Unit := fun s =>
  ((), { s with machine := (drainJobs job? turnLimit s.machine).getD s.machine })

/-- Fires the timer that is due first. -/
def timer? (m : Machine) : Option (Except Abrupt Unit × Machine) :=
  match m.clock.fire? with
  | none                => none
  | some (timer, clock) =>
    match runTimer timer.callback host { m with clock } with
    | .ok _ m        => some (.ok (), m)
    | .error error m => some (.error error, m)

/-- How a promise was settled that a record waits for. -/
def settled? (record : Ref) (m : Machine) : Option (Except Abrupt Value) :=
  match m.objects[record]?.map Object.kind with
  | some (.holder values) =>
    match values.toList with
    | [isRejected, v] => some (if isRejected.toBool then .error (.thrown v) else .ok v)
    | _               => none
  | _ => none

/-- What waiting for a record's promise does with the machine. -/
def waiter (record : Ref) : Waiter Machine Abrupt Value := ⟨job?, settled? record, timer?⟩

/-! ### Operations -/

/-- The script of a module as a function that is called at once, so that its names are its own. -/
def wrapped (code : String) : List Char :=
  "(function () \x7b ".toList ++ code.toList ++ "\n\x7d)();".toList

/-- The default export of the module. -/
def defaultExport : Exec Value := do
  match ← getNamed moduleRef "exports" with
  | .object exports => getNamed exports "default"
  | _               => return .undefined

/-- Evaluates a script and what it put off, and gives the default export of its module. -/
def evaluate (code : String) : Action Sandbox Value := do
  let result ← (attemptIn (evaluateText (wrapped code)) : StateM Sandbox _)
  runJobs
  match result with
  | .ok _        => compute defaultExport
  | .error error => blame error

/-- What a call of a function with one argument gives. -/
def produce (function argument : Value) : Exec (Produced Ref Value) := do
  let v ← call function .undefined [argument]
  if ← isInstance v "Promise" then
    let record ← allocateKind (.holder #[]) .object
    let onFulfilled ← newStep (.record record false) 1
    let onRejected ← newStep (.record record true) 1
    let _ ← invoke v "then" [onFulfilled, onRejected]
    return .deferred record
  else return .ready v

/-- Calls a function with one argument. -/
def callProducer (function argument : Value) : Action Sandbox (Produced Ref Value) :=
  compute (produce function argument)

/-- The value that a call gave, which is waited for if need be. -/
def resolve (produced : Produced Ref Value) : Action Sandbox Value := do
  match produced with
  | .ready v         => return v
  | .deferred record =>
    let s ← get
    let (outcome, machine) := (waiter record).wait turnLimit s.machine
    set { s with machine }
    match outcome with
    | .settled (.ok v)        => return v
    | .settled (.error error) => blame error
    | .interrupted error      => blame error
    | .neverSettled           => throw (.evaluation s.file .neverSettled)
    | .exhausted              => blame .exhausted

/-- The elements that are read from a value, if it is an array. -/
def readElements (v : Value) : Exec (Option (List Value)) := do
  match v with
  | .object r =>
    match ← kindOf r with
    | .array _ _ _ => some <$> itemsOf r
    | _            => return none
  | _         => return none

/-- The elements of a value, if it is an array. -/
def elements? (v : Value) : Action Sandbox (Option (List Value)) := compute (readElements v)

/-- What kind of thing a value is. -/
def describe (m : Machine) : Value → String
  | .undefined => "undefined"
  | .null      => "null"
  | .text _    => "a string"
  | .number _  => "a number"
  | .bool _    => "a boolean"
  | .big _     => "a bigint"
  | .symbol _  => "a symbol"
  | .hidden _  => "undefined"
  | .object r  =>
    match (m.objects[r]?.getD default).kind with
    | .array _ length _ => "an array of length " ++ toString length
    | kind              => if kind.isCallable then "a function" else "an object"

/-- The JSON text of a value as a script gets it, indented by a number of spaces or compact. -/
def writeJson (v : Value) (indent : Option Nat) : Exec Value :=
  jsonOf v [.null, match indent with
    | some width => .ofNat width
    | none       => .undefined]

/-- The JSON text of a value. -/
def json (v : Value) (indent : Option Nat) : Action Sandbox String := do
  let result ← (attemptIn (writeJson v indent) : StateM Sandbox _)
  match result with
  | .ok (.text t) => return t.toEscaped
  | .ok _         =>
    let s ← get
    throw (.serialization s.file (.unserializable (describe s.machine v)))
  | .error error  =>
    let r ← (reportOf error : StateM Sandbox Report)
    throw (.serialization (← get).file (.thrown r.text))

end Sandbox

end Stencil
