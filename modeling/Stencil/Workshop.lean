import Stencil.Journal
import Stencil.ModuleLoad
import Stencil.Sandbox.Basic
import Stencil.Transpile

/-!
# The workshop

Where templates are worked on: each is checked for loads of other modules, turned into a script and
evaluated in a sandbox of its own. `Workshop.services` is what generation needs from outside.
-/

namespace Stencil

/-- The state of a run: the sandbox of the present template with the values that were handed out,
what was told so far, and the place for output. -/
structure Workshop (ω : Type) where
  sandbox : Sandbox
  values : Array Script.Value
  journal : Array Event
  output : ω

namespace Workshop

variable {ω : Type}

/-- A workshop where nothing was done. -/
def opened (output : ω) : Workshop ω := ⟨.new "", #[], #[], output⟩

/-- Tells of an event. -/
def tell (event : Event) : StateM (Workshop ω) Unit :=
  modify fun w => { w with journal := w.journal.push event }

/-- Moves what the sandbox wrote to its console to the journal. -/
def collectNotes (w : Workshop ω) : Workshop ω :=
  let notes := w.sandbox.machine.console.map fun (level, text) =>
    Event.console w.sandbox.file level text
  { w with
    sandbox := { w.sandbox with machine := { w.sandbox.machine with console := #[] } }
    journal := w.journal ++ notes }

/-- Does something in the sandbox. -/
def inSandbox {α : Type} (p : Action Sandbox α) : Action (Workshop ω) α := fun w =>
  let sandbox := w.sandbox
  let w := { w with sandbox := .new "" }
  let (result, sandbox) := p.run sandbox
  (result, collectNotes { w with sandbox })

/-! ### Values -/

/-- The value that a reference stands for. -/
def value (ref : ValueRef) : Action (Workshop ω) Script.Value := do
  let w ← get
  match w.values[ref.index]? with
  | some v => return v
  | none   => throw (.evaluation w.sandbox.file (.unknownValue ref.index))

/-- Hands out a value. -/
def keep (v : Script.Value) : Action (Workshop ω) ValueRef := fun w =>
  (.ok ⟨w.values.size⟩, { w with values := w.values.push v })

/-- Whether a value can be called. -/
def isFunction (m : Script.Machine) : Script.Value → Bool
  | .object r => (m.objects[r]?.getD default).kind.isCallable
  | _         => false

/-! ### Services -/

/-- Evaluates a template in a new sandbox and hands out its default export. -/
def instantiate (template : Template) : Action (Workshop ω) ValueRef := do
  demandNoLoads template.source template.path
  let script ← transpile template.source template.path
  modify fun w => { w with sandbox := .new template.path, values := #[] }
  let exported ← inSandbox (Sandbox.evaluate script)
  keep exported

/-- The shape of a value. The elements of an array are handed out. -/
def inspect (ref : ValueRef) : Action (Workshop ω) Shape := do
  let v ← value ref
  match ← inSandbox (Sandbox.elements? v) with
  | some elements => return .array (← elements.mapM keep)
  | none          =>
    let m := (← get).sandbox.machine
    if isFunction m v then return .function
    else if v.isObject then return .object
    else return .primitive (Sandbox.describe m v)

/-- Calls a function and hands out its result once that is there. -/
def call (function argument : ValueRef) : Action (Workshop ω) ValueRef := do
  let f ← value function
  let w ← get
  unless isFunction w.sandbox.machine f do throw (.evaluation w.sandbox.file .notAFunction)
  let argument ← value argument
  let produced ← inSandbox (Sandbox.callProducer f argument)
  keep (← inSandbox (Sandbox.resolve produced))

/-- The text that a value is. -/
def text? (ref : ValueRef) : StateM (Workshop ω) (Option String) := do
  return (← get).values[ref.index]?.bind Sandbox.hostText?

/-- The JSON text of a value. -/
def json (ref : ValueRef) (indent : Option Nat) : Action (Workshop ω) String := do
  let v ← value ref
  inSandbox (Sandbox.json v indent)

/-- What generation needs, with a way to write artifacts. -/
def services (write : Artifact → Action ω Unit) : Services (Workshop ω) where
  instantiate := instantiate
  inspect := inspect
  call := call
  text? := text?
  json := json
  write := fun artifact w =>
    let (result, output) := (write artifact).run w.output
    (result, { w with output })
  note := fun step => tell (.progress step)

end Workshop

end Stencil
