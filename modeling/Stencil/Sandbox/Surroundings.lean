import Stencil.Sandbox.Buffers

/-!
# The surroundings of templates

What a template finds besides the standard objects: `module` and `exports`, a `require` that always
throws, `console`, an empty `process.env`, timers on a virtual clock, and `Buffer`.

`start` is a machine with all of these, and `host` runs its functions.
-/

namespace Stencil.Sandbox

open Script Script.Library

/-- The object `module`. -/
def moduleRef : Ref := Standard.surroundings.proto

/-- The name of the errors that `require` throws. -/
def loadErrorName : String := "ModuleLoadDisabledError"

/-! ### Modules -/

/-- The error of an attempt to load a module. -/
def makeLoadError (i : Invocation) : Exec Value := do
  if i.newTarget.isUndefined then throwType "class constructor cannot be invoked without 'new'"
  let specifier ← toText (i.arg 0)
  let r ← allocateFor i.newTarget .loadError .error
  let message := Utf16.join
    [.ofString "require('", specifier, .ofString "') is disabled in templates"]
  storeProperty r (.ofString "message") (.hidden (.text message))
  setOrThrow r (.ofString "name") (.ofString loadErrorName)
  setOrThrow r (.ofString "specifier") (i.arg 0)
  return .object r

/-- Loading a module throws an error. -/
def requireModule (i : Invocation) : Exec Value := do
  let constructor := Value.object Standard.loadError.constructor
  throwValue (← construct constructor [← shown (i.arg 0)] constructor)

/-! ### The console -/

/-- The JSON text of a value, as scripts get it. -/
def jsonOf (v : Value) (rest : List Value) : Exec Value := callGlobal "JSON" "stringify" (v :: rest)

/-- The text that tells what kind of thing a value is. -/
def kindText (v : Value) : Exec Value := do
  let proto ← getOf (← globalValue "Object") (.ofString "prototype")
  invoke (← getOf proto (.ofString "toString")) "call" [v]

/-- A value as the console shows it by its JSON text, or the word for its kind. -/
def inspectData (v : Value) : Exec Value := do
  let text : Exec Value := do
    match ← jsonOf v [] with
    | .undefined => shown v
    | text       => return text
  match ← attempt text with
  | .ok text => return text
  | .error _ => kindText v

/-- An error as the console shows it. -/
def inspectError (v : Value) : Exec Value := do
  let stack ← getOf v (.ofString "stack")
  if stack.toBool then return stack
  let name ← toText (← getOf v (.ofString "name"))
  return .text (Utf16.join [name, .ofString ": ", ← toText (← getOf v (.ofString "message"))])

/-- A function as the console shows it. -/
def inspectFunction (r : Ref) : Exec Value := do
  let name ← getNamed r "name"
  let name ← if name.toBool then toText name else pure (.ofString "anonymous")
  return .text (Utf16.join [.ofString "[Function: ", name, .ofString "]"])

/-- A value as the console shows it. -/
def inspect (v : Value) : Exec Value := do
  match v, ← isCallable v with
  | .text _, _      => return v
  | .object r, true => inspectFunction r
  | _, _            =>
    if ← isInstance v "Error" then inspectError v
    else
      match v with
      | .big n     => return .ofString (NumberText.writeInt 10 n ++ "n")
      | .undefined => shown v
      | .symbol _  => shown v
      | _          => inspectData v

/-- Writes a note to the console. -/
def writeNote (level : Level) (text : String) : Exec Unit := fun _ m =>
  .ok () { m with console := m.console.push (level, text) }

/-- A member of the console; `inspector` shows a value. -/
def consoleMember (inspector : Native) (name : String) (level : Level) : Builtin :=
  method name 0 fun i => do
    let shown ← invoke (← newArray i.arguments) "map"
      [← newNative inspector (.ofString "inspect") 1]
    writeNote level (← toText (← invoke shown "join" [.ofString " "])).toEscaped
    return .undefined

def consoleMembers (inspector : Native) : List Builtin := [
  consoleMember inspector "log" .info,
  consoleMember inspector "info" .info,
  consoleMember inspector "warn" .warn,
  consoleMember inspector "error" .error,
  consoleMember inspector "debug" .debug,
  consoleMember inspector "trace" .trace]

/-! ### Timers -/

/-- The delay that an argument asks for. -/
def delayArg (v : Value) : Exec Float := do
  let delay ← numberOf v
  let delay := if delay.toBool then delay else .number 0
  toNumber (← callGlobal "Math" "max" [.number 0, delay])

/-- Sets a timer. Its record is the receiver of the callback. -/
def setTimer (i : Invocation) : Exec Value := do
  unless ← isCallable (i.arg 0) do
    throwNew "TypeError" "The \"callback\" argument must be of type function"
  -- reading the delay may set timers, which are numbered later but set earlier
  let id ← fun _ m =>
    let (id, clock) := m.clock.number
    .ok id { m with clock }
  let delay ← delayArg (i.arg 1)
  let record ← newObject
  let due ← fun _ m =>
    .ok (m.clock.now + delay) { m with clock := m.clock.set id delay record }
  createProperty record (.ofString "due") (.number due)
  createProperty record (.ofString "callback") (i.arg 0)
  createProperty record (.ofString "args") (← newArray (i.arguments.drop 2))
  return .ofNat id

/-- Calls the callback of a timer, by its record. -/
def runTimer (record : Ref) : Exec Unit := do
  let callback ← getNamed record "callback"
  let _ ← call callback (.object record) (← listOf (← getNamed record "args"))

/-- Forgets a timer. -/
def clearTimer (i : Invocation) : Exec Value := fun _ m =>
  match i.arg 0 with
  | .number x =>
    match exactInt? x with
    | some (.ofNat id) => .ok .undefined { m with clock := m.clock.clear id }
    | _                => .ok .undefined m
  | _ => .ok .undefined m

/-! ### The surroundings -/

/-- The functions among the surroundings. -/
def surroundingFunctions : List Builtin := [
  method "require" 1 requireModule,
  method "setTimeout" 2 setTimer,
  method "clearTimeout" 1 clearTimer]

/-- The functions that the surroundings hand to others. -/
def helpers : List Builtin := bufferHelpers ++ [method "inspect" 1 fun i => inspect (i.arg 0)]

/-- One of the functions that the surroundings hand to others. -/
def helper (index : Nat) : Native := .method .surroundings true index

/-- The members of all objects. -/
def membersOf : Standard → (isStatic : Bool) → List Builtin
  | .buffer, false       => bufferMethods
  | .buffer, true        => bufferStatics (helper 0) (helper 1)
  | .console, false      => consoleMembers (helper 2)
  | .surroundings, false => surroundingFunctions
  | .surroundings, true  => helpers
  | standard, isStatic   => Library.membersOf standard isStatic

/-- Runs a function that no script defines. -/
def runNative (native : Native) (i : Invocation) : Exec Value :=
  match native with
  | .constructor .buffer    => makeTyped .uint8 .buffer i
  | .constructor .loadError => makeLoadError i
  | .method owner isStatic index =>
    match (membersOf owner isStatic)[index]? with
    | some member => member.run i
    | none        => return .undefined
  | native => Library.runNative native i

/-- How deeply calls may be nested. -/
def callDepth : Nat := 512

/-- Runs the functions of a machine with these surroundings. -/
def host : Host := hostAt runNative callDepth

/-- Gives an object the constructor and the name of a class. -/
def withClass (m : Machine) (s : Standard) (title : String) (arity : Nat) (parent : Ref) :
    Machine :=
  let own : Array (Key × Property) := #[
    (.ofString "length", .readOnly (.ofNat arity)),
    (.ofString "name", .readOnly (.ofString title)),
    (.ofString "prototype", .fixed (.object s.proto))]
  let objects := m.objects.modify s.constructor fun o =>
    { o with
      kind := .native (.constructor s), proto := some parent, properties := own ++ o.properties }
  { m with objects }.withHidden s.proto "constructor" (.object s.constructor)

/-- Gives an object only properties that loops over keys find. -/
def withPlainProperties (m : Machine) (r : Ref) : Machine :=
  { m with objects := m.objects.modify r fun o => { o with
    properties := o.properties.map fun (key, p) => (key, { p with isEnumerable := true }) } }

/-- Adds the objects and the global names that only templates find. -/
def surrounded (m : Machine) : Machine :=
  let m := withPlainProperties m Standard.console.proto
  let plain (m : Machine) (r : Ref) (name : String) (v : Value) : Machine :=
    m.withProperty r (.ofString name) (.plain v)
  let (exports, m) := m.withObject (.empty .ordinary (some Standard.object.proto))
  let (process, m) := m.withObject (.empty .ordinary (some Standard.object.proto))
  let (environment, m) := m.withObject (.empty .ordinary (some Standard.object.proto))
  let m := plain m process "env" (.object environment)
  -- the functions wait in the place of the module
  let function (name : String) : Value :=
    match m.plainOwn? moduleRef (.ofString name) with
    | some ⟨.data v _, _, _⟩ => v
    | _                      => .undefined
  let globals := [
    ("module", .object moduleRef), ("exports", .object exports), ("require", function "require"),
    ("console", .object Standard.console.proto), ("process", .object process),
    ("setTimeout", function "setTimeout"), ("clearTimeout", function "clearTimeout"),
    ("Buffer", .object Standard.buffer.constructor)]
  let record : Object := .empty .ordinary (some Standard.object.proto)
  let m := { m with objects := m.objects.setIfInBounds moduleRef record }
  let m := plain m moduleRef "exports" (.object exports)
  globals.foldl (fun m (name, v) => plain m globalRef name v) m

/-- A machine in which a template can be evaluated. -/
def start : Machine :=
  let m := Machine.start membersOf
  let m := withClass m .buffer "Buffer" 0 Standard.uint8Array.constructor
  surrounded (withClass m .loadError loadErrorName 1 Standard.error.constructor)

end Stencil.Sandbox
