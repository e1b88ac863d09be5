import Stencil.Script.Machine

/-!
# The memory of a machine

Reading and changing objects, making new ones, and throwing errors. The standard objects come
first in the memory, so their references are known.
-/

namespace Stencil.Script

/-! ### Standard objects -/

namespace Standard

/-- The prototype of the instances of a standard constructor; the object itself where there is no
constructor. -/
def proto (s : Standard) : Ref := 2 * s.ctorIdx

/-- A standard constructor. -/
def constructor (s : Standard) : Ref := 2 * s.ctorIdx + 1

def all : List Standard :=
  [object, function, array, string, number, boolean, symbol, bigInt, error, typeError, rangeError,
   syntaxError, referenceError, evalError, uriError, aggregateError, iterator, asyncIterator,
   arrayIterator, stringIterator, mapIterator, setIterator, regexIterator, wrappedIterator,
   generatorFunction, generator, asyncFunction, asyncGeneratorFunction, asyncGenerator, promise,
   map, set, weakMap, weakSet, weakRef, date, regExp, typedArray, int8Array, uint8Array,
   uint8ClampedArray, int16Array, uint16Array, int32Array, uint32Array, bigInt64Array,
   bigUint64Array, float32Array, float64Array, arrayBuffer, dataView, proxy, math, json, reflect,
   global, buffer, loadError, console, surroundings]

end Standard

/-- The object that holds the variables of scripts. -/
def globalRef : Ref := Standard.global.proto

/-- The scope of the variables of scripts, and that of their other names. -/
def globalScope : Nat := 0

def scriptScope : Nat := 1

/-! ### Objects -/

/-- An object without properties. -/
def Object.empty (kind : Kind) (proto : Option Ref) : Object := ⟨kind, proto, true, #[]⟩

/-- An object in the memory. -/
def object (r : Ref) : Exec Object := fun _ m =>
  .ok (m.objects[r]?.getD default) m

/-- Changes an object in the memory. -/
def modifyObject (r : Ref) (f : Object → Object) : Exec Unit := fun _ m =>
  .ok () { m with objects := m.objects.modify r f }

def setKind (r : Ref) (kind : Kind) : Exec Unit :=
  modifyObject r fun o => { o with kind }

def kindOf (r : Ref) : Exec Kind := return (← object r).kind

/-- Puts an object into the memory. -/
def allocate (o : Object) : Exec Ref := fun _ m =>
  .ok m.objects.size { m with objects := m.objects.push o }

/-- A new object of a kind. -/
def allocateKind (kind : Kind) (proto : Standard) : Exec Ref :=
  allocate (.empty kind (some proto.proto))

/-- A new object without properties. -/
def newObject : Exec Ref := allocateKind .ordinary .object

/-- A new array. -/
def newArray (items : List Value) : Exec Value := do
  let items := (items.map some).toArray
  return .object (← allocateKind (.array items items.size true) .array)

/-! ### Errors -/

/-- Stops because of an error. -/
def throwValue {α : Type} (value : Value) : Exec α := fun _ m => .error (.thrown value) m

/-- Stops because more steps were needed than are allowed. -/
def exhaust {α : Type} : Exec α := fun _ m => .error .exhausted m

/-- A new error. -/
def newError (kind : Standard) (message : String) : Exec Value := do
  let r ← allocate {
    kind := .error, proto := some kind.proto, isExtensible := true,
    properties := #[(.ofString "message", .hidden (.ofString message))] }
  return .object r

/-- Stops because of a new error. -/
def throwNew {α : Type} (kind : Standard) (message : String) : Exec α := do
  throwValue (← newError kind message)

def throwType {α : Type} (message : String) : Exec α := throwNew .typeError message

def throwRange {α : Type} (message : String) : Exec α := throwNew .rangeError message

/-- The result of a computation, or the value that it threw. -/
def attempt {α : Type} (p : Exec α) : Exec (Except Value α) := fun h m =>
  match p h m with
  | .ok a m                 => .ok (.ok a) m
  | .error (.thrown value) m => .ok (.error value) m
  | .error .exhausted m     => .error .exhausted m

/-- Runs something one level down. -/
def below {α : Type} (f : Host → Base α) : Exec α := fun h m => f h m

/-- Calls a function. -/
def call (function this : Value) (arguments : List Value) : Exec Value :=
  below fun h => h.call function this arguments

/-- Calls a constructor; `newTarget` is what `new` was applied to. -/
def construct (function : Value) (arguments : List Value) (newTarget : Value) : Exec Value :=
  below fun h => h.construct function arguments newTarget

/-! ### Symbols -/

/-- A new symbol. -/
def newSymbol (description : Option Utf16) : Exec Nat := fun _ m =>
  .ok m.symbols.size { m with symbols := m.symbols.push description }

def descriptionOf (id : Nat) : Exec (Option Utf16) := fun _ m =>
  .ok (m.symbols[id]?.getD none) m

/-! ### Scopes -/

def scope (id : Nat) : Exec Scope := fun _ m => .ok (m.scopes[id]?.getD default) m

def newScope (s : Scope) : Exec Nat := fun _ m =>
  .ok m.scopes.size { m with scopes := m.scopes.push s }

def modifyScope (id : Nat) (f : Scope → Scope) : Exec Unit := fun _ m =>
  .ok () { m with scopes := m.scopes.modify id f }

/-! ### Jobs -/

/-- Lets a job wait. -/
def enqueue (job : Job) : Exec Unit := fun _ m => .ok () { m with jobs := m.jobs ++ [job] }

/-! ### Kinds -/

/-- Whether a kind of object can be called. -/
def Kind.isCallable : Kind → Bool
  | .closure _               => true
  | .native _                => true
  | .bound _ _ _             => true
  | .proxy _ _ isCallable _  => isCallable
  | _                        => false

/-- Whether a value can be called. -/
def isCallable (v : Value) : Exec Bool := do
  match v with
  | .object r => return (← kindOf r).isCallable
  | _         => return false

/-- Whether a function that a script defines can be applied with `new`. -/
def Closure.isConstructor (c : Closure) : Bool :=
  match c.code with
  | .function head _ _ _ =>
    match head.kind with
    | .plain              => !head.isAsync && !head.isGenerator
    | .baseConstructor    => true
    | .derivedConstructor => true
    | _                   => false
  | _ => false

/-- Whether a value can be applied with `new`; `fuel` bounds a chain of bound functions. -/
def isConstructorAt : (fuel : Nat) → Value → Exec Bool
  | 0, _        => return false
  | fuel + 1, v => do
    match v with
    | .object r =>
      match ← kindOf r with
      | .closure c                 => return c.isConstructor
      | .native (.constructor _)   => return true
      | .bound target _ _          => isConstructorAt fuel target
      | .proxy _ _ _ isConstructor => return isConstructor
      | _                          => return false
    | _         => return false

/-- Whether a value can be applied with `new`. -/
def isConstructor (v : Value) : Exec Bool := isConstructorAt 1000 v

/-- Makes a native function. -/
def newNative (native : Native) (name : Utf16) (arity : Nat) : Exec Value := do
  let r ← allocate {
    kind := .native native, proto := some Standard.function.proto, isExtensible := true,
    properties := #[
      (.ofString "length", .readOnly (.ofNat arity)),
      (.ofString "name", .readOnly (.text name))] }
  return .object r

/-- Makes one of the small functions. -/
def newStep (step : Step) (arity : Nat) : Exec Value := newNative (.step step) .empty arity

end Stencil.Script
