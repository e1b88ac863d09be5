import Stencil.Script.Iterate
import Stencil.Script.Names

/-!
# Function objects

How the functions of scripts become objects, and how the scopes of a call are laid out.
-/

namespace Stencil.Script

/-! ### Making functions -/

/-- The standard prototype of a function. -/
def functionStandard (head : FunctionHead) : Standard :=
  match head.isAsync, head.isGenerator with
  | false, false => .function
  | true, false  => .asyncFunction
  | false, true  => .generatorFunction
  | true, true   => .asyncGeneratorFunction

/-- The object under `prototype` that a new function has, if it has one. -/
def newPrototype (head : FunctionHead) (function : Ref) : Exec (Option Property) := do
  if head.isGenerator then
    let standard := if head.isAsync then Standard.asyncGenerator else .generator
    let r ← allocate (.empty .ordinary (some standard.proto))
    return some ⟨.data (.object r) true, false, false⟩
  else if head.kind = .plain && !head.isAsync then
    let r ← allocate {
      kind := .ordinary, proto := some Standard.object.proto, isExtensible := true,
      properties := #[(.ofString "constructor", .hidden (.object function))] }
    return some ⟨.data (.object r) true, false, false⟩
  else return none

/-- A function object for a function that is written in a script. -/
def newFunction (code : Tree) (scope : Nat) (home : Option Ref) (name : Utf16) : Exec Ref := do
  match code with
  | .function head parameters _ _ =>
    let r ← allocate {
      kind         := .closure ⟨code, scope, home, false, [], []⟩
      proto        := some (functionStandard head).proto
      isExtensible := true
      properties   := #[
        (.ofString "length", .readOnly (.ofNat (Tree.expectedCount parameters))),
        (.ofString "name", .readOnly (.text name))] }
    match ← newPrototype head r with
    | some p => storeProperty r (.ofString "prototype") p
    | none   => pure ()
    return r
  | _ => throwType "not a function"

/-- The value of a function expression, which takes a name from its surroundings if it has none. -/
def functionValue (code : Tree) (scope : Nat) (name : Utf16) : Exec Value := do
  match code with
  | .function head _ _ _ =>
    match head.name with
    | some own =>
      let inner ← newScope { parent := some scope, kind := .block, bindings := #[] }
      let r ← newFunction code inner none own
      modifyScope inner fun s =>
        { s with bindings := #[⟨own, some (.object r), false, false⟩] }
      return .object r
    | none     => return .object (← newFunction code scope none name)
  | _ => throwType "not a function"

/-- The functions that a block declares, bound in its scope. -/
def declareFunctions (scope : Nat) (functions : List Tree) : Exec Unit :=
  functions.forM fun code => do
    match code with
    | .function head _ _ _ =>
      match head.name with
      | some name => declareFunction scope name (.object (← newFunction code scope none name))
      | none      => pure ()
    | _ => pure ()

/-- The name of a method: that of its key, with a word before it for accessors. -/
def methodName (key : Key) (kind : MemberKind) : Exec Utf16 := do
  let base ← match key with
    | .symbol id =>
      match ← descriptionOf id with
      | some d => pure (Utf16.ofString "[" ++ d ++ Utf16.ofString "]")
      | none   => pure .empty
    | .hidden id => return (← descriptionOf id).getD .empty
    | .text t    => pure t
    | .index i   => pure (.ofString (toString i))
  match kind with
  | .getter => return Utf16.ofString "get " ++ base
  | .setter => return Utf16.ofString "set " ++ base
  | _       => return base

/-! ### Scopes of calls -/

/-- The object `arguments` of a call. -/
def newArguments (arguments : List Value) : Exec Value := do
  let r ← allocateKind .arguments .object
  let items := (arguments.zipIdx.map fun (v, i) => (Key.ofNat i, Property.plain v)).toArray
  let values ← getNamed Standard.array.proto "values"
  modifyObject r fun o => { o with
    properties := items.push (lengthKey, .hidden (.ofNat arguments.length))
      |>.push (.ofSymbol .iterator, .hidden values) }
  return .object r

/-- The value of `this` in a call. -/
def thisFor (head : FunctionHead) (this : Value) : Exec Value := do
  if head.isStrict then return this
  match this with
  | .undefined => return .object globalRef
  | .null      => return .object globalRef
  | .object _  => return this
  | _          => return .object (← toObject this)

/-- The values of plain parameters. -/
def bindPlain : List Tree → List Value → List Binding
  | .name n :: rest, arguments =>
    .variable n (arguments.headD .undefined) :: bindPlain rest arguments.tail
  | _ :: rest, arguments       => bindPlain rest arguments.tail
  | [], _                      => []

/-- The scope of a call whose parameters are plain names: they come last so that of two parameters
of one name the later counts. -/
def plainScope (head : FunctionHead) (call : Option Call) (outer : Nat) (parameters : List Tree)
    (names : List LexicalName) (arguments : List Value) : Exec Nat := do
  let bound := (bindPlain parameters arguments).reverse
  let taken (name : Utf16) : Bool := bound.any fun b => b.name == name
  let own ← if head.usesArguments && call.isSome && !taken (.ofString "arguments") then
      pure [Binding.variable (.ofString "arguments") (← newArguments arguments)]
    else pure []
  let vars := head.vars.filter fun name =>
    !taken name && !(own.any fun b => b.name == name)
  newScope {
    parent   := some outer
    kind     := .function call
    bindings := (bound ++ own ++ vars.map (Binding.variable · .undefined) ++
      names.map fun n => Binding.waiting n.name n.isConstant).toArray }

/-- The scope of parameters that are to be bound one after another. -/
def parameterScope (head : FunctionHead) (call : Option Call) (outer : Nat)
    (parameters : List Tree) (rest : Tree) (arguments : List Value) : Exec Nat := do
  let names := Tree.boundNamesOf parameters ++ rest.boundNames
  let own ← if head.usesArguments && call.isSome && !names.contains (.ofString "arguments") then
      pure [Binding.variable (.ofString "arguments") (← newArguments arguments)]
    else pure []
  newScope {
    parent   := some outer
    kind     := .function call
    bindings := (own ++ names.map fun n => Binding.waiting n false).toArray }

/-- The scope of a body below the scope of its parameters. -/
def bodyScope (head : FunctionHead) (outer : Nat) (names : List LexicalName) : Exec Nat := do
  let above := (← scope outer).bindings
  let vars := head.vars.map fun name =>
    match above.find? fun b => b.name == name with
    | some b => Binding.variable name (b.value.getD .undefined)
    | none   => Binding.variable name .undefined
  newScope {
    parent   := some outer
    kind     := .function none
    bindings := (vars ++ names.map fun n => Binding.waiting n.name n.isConstant).toArray }

/-! ### Instances -/

/-- Adds the fields of a class, or its private methods, to an object. -/
def addFields (r : Ref) (fields : List ClassField) : Exec Unit := do
  let isMethod (f : ClassField) : Bool := f.kind != .field && f.kind != .staticBlock
  (fields.filter isMethod).forM fun f => do
    match f.key, f.code with
    | .hidden id, some code =>
      let existing := findProperty (← object r).properties f.key
      let function := Value.object code
      match f.kind, existing with
      | .getter, some ⟨.accessor .undefined setter, _, _⟩ =>
        storeProperty r f.key ⟨.accessor function setter, false, false⟩
      | .setter, some ⟨.accessor getter .undefined, _, _⟩ =>
        storeProperty r f.key ⟨.accessor getter function, false, false⟩
      | .getter, _ => addPrivate r id ⟨.accessor function .undefined, false, false⟩
      | .setter, _ => addPrivate r id ⟨.accessor .undefined function, false, false⟩
      | _, _       => addPrivate r id ⟨.data function false, false, false⟩
    | _, _ => pure ()
  (fields.filter fun f => !isMethod f).forM fun f => do
    let value ← match f.code with
      | some code => call (.object code) (.object r) []
      | none      => pure .undefined
    match f.kind, f.key with
    | .staticBlock, _ => pure ()
    | _, .hidden id   => addPrivate r id ⟨.data value true, false, false⟩
    | _, key          => createProperty r key value

/-- Adds the fields of the class of a constructor to an instance. -/
def addInstanceFields (r function : Ref) : Exec Unit := do
  match ← kindOf function with
  | .closure c => addFields r c.fields
  | _          => pure ()

/-! ### Other objects of expressions -/

/-- A regular expression. -/
def newRegex (source flags : Utf16) (proto : Ref) : Exec Value := do
  match Regex.Pattern.read? source flags with
  | some pattern =>
    let r ← allocate {
      kind := .regex pattern source flags, proto := some proto, isExtensible := true,
      properties := #[(.ofString "lastIndex", ⟨.data (.number 0) true, false, false⟩)] }
    return .object r
  | none         => throwNew .syntaxError "invalid regular expression"

/-- Makes the properties of an array unchangeable. -/
def freezeArray (r : Ref) : Exec Unit :=
  modifyObject r fun o =>
    match o.kind with
    | .array items length _ =>
      let fixed := items.toList.zipIdx.filterMap fun (v, i) =>
        v.map fun v => (Key.ofNat i, (⟨.data v false, true, false⟩ : Property))
      { o with
        kind := .array #[] length false
        isExtensible := false
        properties := fixed.toArray ++ o.properties.map fun (key, p) =>
          (key, { p with isConfigurable := false, slot := match p.slot with
            | .data v _ => .data v false
            | slot      => slot }) }
    | _ => o

/-- The texts of a template, as a tag gets them. -/
def newTemplate (cooked : List (Option Utf16)) (raw : List Utf16) : Exec Value := do
  let rawTexts ← newArray (raw.map .text)
  let texts ← newArray (cooked.map fun t => match t with
    | some t => .text t
    | none   => .undefined)
  match rawTexts, texts with
  | .object rawRef, .object r =>
    freezeArray rawRef
    storeProperty r (.ofString "raw") (.fixed rawTexts)
    freezeArray r
    return texts
  | _, _ => return texts

end Stencil.Script
