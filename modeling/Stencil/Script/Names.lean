import Stencil.Script.Update

/-!
# Names

How names are declared in scopes, and how they are looked up from the innermost scope outward.
-/

namespace Stencil.Script

/-! ### Declaring -/

/-- A binding that waits for its declaration. -/
def Binding.waiting (name : Utf16) (isConstant : Bool) : Binding := ⟨name, none, !isConstant, true⟩

/-- A variable with a value. -/
def Binding.variable (name : Utf16) (value : Value) : Binding := ⟨name, some value, true, true⟩

/-- A scope for the names of a block. -/
def blockScope (parent : Nat) (names : List LexicalName) : Exec Nat :=
  newScope {
    parent := some parent, kind := .block
    bindings := (names.map fun n => Binding.waiting n.name n.isConstant).toArray }

/-- Gives a name of a scope its first value. -/
def initializeName (id : Nat) (name : Utf16) (value : Value) : Exec Unit :=
  modifyScope id fun s =>
    match s.bindings.findIdx? fun b => b.name == name with
    | some i => { s with bindings := s.bindings.modify i fun b => { b with value := some value } }
    | none   => { s with bindings := s.bindings.push (.variable name value) }

/-- Declares a variable in a scope, unless it is there. -/
def declareVariable (id : Nat) (name : Utf16) : Exec Unit := do
  let s ← scope id
  match s.kind with
  | .object r _ =>
    if (← getOwn r (.ofText name)).isNone then
      let _ ← define r (.ofText name) (.data .undefined true true false)
  | _           =>
    if !(s.bindings.any fun b => b.name == name) then
      modifyScope id fun s => { s with bindings := s.bindings.push (.variable name .undefined) }

/-- Declares a function in a scope. -/
def declareFunction (id : Nat) (name : Utf16) (value : Value) : Exec Unit := do
  let s ← scope id
  match s.kind with
  | .object r _ =>
    let _ ← define r (.ofText name) (.data value true true false)
  | _           => initializeName id name value

/-! ### Looking up -/

/-- Whether a `with` statement leaves a name of its object aside. -/
def isUnscopable (r : Ref) (name : Utf16) : Exec Bool := do
  match ← get r (.ofSymbol .unscopables) with
  | .object list => return (← get list (.ofText name)).toBool
  | _            => return false

/-- Where a name is bound. -/
inductive Found where
  | binding (scope : Nat) (binding : Binding)
  | property (object : Ref)
  | nowhere

/-- Where a name is bound, from a scope outward; `fuel` bounds the chain. -/
def findName (name : Utf16) : (fuel : Nat) → Nat → Exec Found
  | 0, _         => exhaust
  | fuel + 1, id => do
    let s ← scope id
    let outer : Exec Found := match s.parent with
      | some parent => findName name fuel parent
      | none        => return .nowhere
    match s.kind with
    | .object r isWith =>
      if ← hasProperty r (.ofText name) then
        if isWith && (← isUnscopable r name) then outer else return .property r
      else outer
    | _ =>
      match s.bindings.find? fun b => b.name == name with
      | some b => return .binding id b
      | none   => outer

def undefinedName {α : Type} (name : Utf16) : Exec α :=
  throwNew .referenceError (name.toLossy ++ " is not defined")

/-- The value of a binding. -/
def Binding.read (b : Binding) : Exec Value :=
  match b.value with
  | some v => return v
  | none   =>
    throwNew .referenceError ("access of uninitialized binding: " ++ b.name.toLossy)

/-- The value of a name, none if it is not bound. -/
def readName? (id : Nat) (name : Utf16) : Exec (Option Value) := do
  match ← findName name chainLimit id with
  | .binding _ b => return some (← b.read)
  | .property r  => return some (← get r (.ofText name))
  | .nowhere     => return none

/-- The value of a name. -/
def readName (id : Nat) (name : Utf16) : Exec Value := do
  match ← readName? id name with
  | some v => return v
  | none   => undefinedName name

/-- Assigns to a name. -/
def writeName (id : Nat) (name : Utf16) (v : Value) (isStrict : Bool) : Exec Unit := do
  match ← findName name chainLimit id with
  | .binding at_ b =>
    let _ ← b.read
    if b.isMutable then initializeName at_ name v
    else if b.isStrict || isStrict then
      throwType ("cannot assign to constant: " ++ name.toLossy)
  | .property r   =>
    let ok ← setProperty r (.ofText name) v
    if !ok && isStrict then throwType ("cannot assign to: " ++ name.toLossy)
  | .nowhere      =>
    if isStrict then undefinedName name
    else
      let _ ← setProperty globalRef (.ofText name) v

/-- The scope where variables are declared. -/
def variableScope : (fuel : Nat) → Nat → Exec Nat
  | 0, _         => exhaust
  | fuel + 1, id => do
    let s ← scope id
    match s.kind, s.parent with
    | .function _, _      => return id
    | .object _ false, _  => return id
    | _, some parent      => variableScope fuel parent
    | _, none             => return id

/-- The scope of the call whose `this` is meant. -/
def callScope : (fuel : Nat) → Nat → Exec (Option (Nat × Call))
  | 0, _         => exhaust
  | fuel + 1, id => do
    let s ← scope id
    match s.kind, s.parent with
    | .function (some c), _ => return some (id, c)
    | _, some parent        => callScope fuel parent
    | _, none               => return none

/-- The value of `this`. -/
def thisValue (id : Nat) : Exec Value := do
  match ← callScope chainLimit id with
  | some (_, c) =>
    match c.this with
    | some v => return v
    | none   => throwNew .referenceError "super constructor was not called"
  | none        => return .object globalRef

/-- What `new` was applied to. -/
def newTargetValue (id : Nat) : Exec Value := do
  match ← callScope chainLimit id with
  | some (_, c) => return c.newTarget
  | none        => return .undefined

/-- The function whose call is meant. -/
def currentFunction (id : Nat) : Exec (Option Ref) := do
  return (← callScope chainLimit id).map fun (_, c) => c.function

/-- The object in which `super` members are looked up. -/
def superHome (id : Nat) : Exec Ref := do
  match ← currentFunction id with
  | some f =>
    match ← kindOf f with
    | .closure c =>
      match c.home with
      | some home =>
        match ← getProto home with
        | some proto => return proto
        | none       => throwType "cannot read property of null"
      | none      => throwNew .syntaxError "super is not available"
    | _          => throwNew .syntaxError "super is not available"
  | none   => throwNew .syntaxError "super is not available"

/-- The private name that a class around the place declares. -/
def privateName (id : Nat) (name : Utf16) : Exec Nat := do
  match ← readName? id name with
  | some (.hidden n) => return n
  | _                => throwNew .syntaxError "undeclared private name"

end Stencil.Script
