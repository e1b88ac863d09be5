import Stencil.Script.Library.Objects

/-!
# Functions, errors and symbols

The members of functions, errors, symbols and booleans, and their constructors.
-/

namespace Stencil.Script.Library

/-! ### Functions -/

/-- The text of a function. -/
def functionText (r : Ref) : Exec Utf16 := do
  match ← kindOf r with
  | .closure c =>
    match c.code with
    | .function head _ _ _ => return .ofString head.source
    | _                    => return .empty
  | kind =>
    if kind.isCallable then
      let name ← match findProperty (← object r).properties (.ofString "name") with
        | some ⟨.data (.text t) _, _, _⟩ => pure t
        | _ => pure .empty
      return Utf16.ofString "function " ++ name ++ Utf16.ofString "() \x7b [native code] \x7d"
    else throwType "not a function"

/-- A function with its receiver and first arguments fixed. -/
def bindFunction (i : Invocation) : Exec Value := do
  match i.this with
  | .object target =>
    unless ← isCallable i.this do throwType "not a callable function"
    let proto ← getProto target
    let r ← allocate (.empty (.bound i.this (i.arg 0) (i.arguments.drop 1)) proto)
    let length ← if (← getOwn target lengthKey).isSome then
        match ← get target lengthKey with
        | .number x => pure (max 0 (integral x - (i.arguments.drop 1).length.toFloat))
        | _         => pure 0
      else pure 0
    storeProperty r lengthKey (.readOnly (.number length))
    let name ← match ← getNamed target "name" with
      | .text t => pure t
      | _       => pure .empty
    storeProperty r (.ofString "name") (.readOnly (.text (Utf16.ofString "bound " ++ name)))
    return .object r
  | _ => throwType "not a callable function"

def functionMethods : List Builtin := [
  method "apply" 2 fun i => do
    let arguments ← if (i.arg 1).isNullish then pure [] else listFromArrayLike (i.arg 1)
    call i.this (i.arg 0) arguments,
  method "bind" 1 bindFunction,
  method "call" 1 fun i => call i.this (i.arg 0) (i.arguments.drop 1),
  method "toString" 0 fun i => do
    match i.this with
    | .object r => return .text (← functionText r)
    | _         => throwType "not a function",
  symbolMethod .hasInstance 1 fun i => do
    match i.this with
    | .object r => return .bool (← ordinaryInstance 1000 r (i.arg 0))
    | _         => return .bool false]

/-- A function whose parameters and body are given as texts. -/
def makeFunction (word : String) (i : Invocation) : Exec Value := do
  let texts ← i.arguments.mapM toText
  let parameters := Utf16.intercalate (.ofString ",") texts.dropLast
  let body := texts.getLastD .empty
  let code := Utf16.join [
    .ofString ("(" ++ word ++ " anonymous("), parameters, .ofString "\n) \x7b\n", body,
    .ofString "\n\x7d)"]
  match Syntax.readScript? code.toChars with
  | some script =>
    match script.block with
    | .block _ _ [.expression (.function head parameters rest body)] =>
      let name : Utf16 := .ofString "anonymous"
      return .object (← newFunction (.function head parameters rest body) scriptScope none name)
    | _ => throwNew .syntaxError "invalid function"
  | none        => throwNew .syntaxError "invalid function"

/-! ### Errors -/

/-- Gives an error its message and its cause. -/
def describeError (r : Ref) (message options : Value) : Exec Unit := do
  if !message.isUndefined then
    storeProperty r (.ofString "message") (.hidden (.text (← toText message)))
  match options with
  | .object o =>
    if ← hasProperty o (.ofString "cause") then
      storeProperty r (.ofString "cause") (.hidden (← getNamed o "cause"))
  | _ => pure ()

/-- A new error of a kind. -/
def makeError (kind : Standard) (i : Invocation) : Exec Value := do
  let newTarget := if i.newTarget.isUndefined then .object i.callee else i.newTarget
  let r ← allocateFor newTarget kind .error
  if kind = .aggregateError then
    describeError r (i.arg 1) (i.arg 2)
    storeProperty r (.ofString "errors") (.hidden (← newArray (← listOf (i.arg 0))))
  else describeError r (i.arg 0) (i.arg 1)
  return .object r

def errorMethods : List Builtin := [
  method "toString" 0 fun i => do
    match i.this with
    | .object r =>
      let textOr (v : Value) (standard : String) : Exec Utf16 :=
        if v.isUndefined then return .ofString standard else toText v
      let name ← textOr (← getNamed r "name") "Error"
      let message ← textOr (← getNamed r "message") ""
      if name.isEmpty then return .text message
      if message.isEmpty then return .text name
      return .text (name ++ Utf16.ofString ": " ++ message)
    | _ => throwType "value is not an object"]

/-! ### Symbols -/

/-- The symbol that a value is or holds. -/
def thisSymbol (v : Value) : Exec Nat := do
  match v with
  | .symbol id => return id
  | .object r  =>
    match ← kindOf r with
    | .symbol id => return id
    | _          => throwType "value is not a symbol"
  | _          => throwType "value is not a symbol"

def makeSymbol (i : Invocation) : Exec Value := do
  if !i.newTarget.isUndefined then throwType "symbol is not a constructor"
  let description ← match i.arg 0 with
    | .undefined => pure none
    | v          => some <$> toText v
  return .symbol (← newSymbol description)

/-- The symbol that is shared under a name. -/
def sharedSymbol (name : Utf16) : Exec Nat := do
  let m : Machine ← fun _ m => .ok m m
  match m.registry.lookup name with
  | some id => return id
  | none    =>
    let id ← newSymbol (some name)
    fun _ m => .ok id { m with registry := (name, id) :: m.registry }

def symbolStatics : List Builtin := [
  method "for" 1 fun i => do return .symbol (← sharedSymbol (← toText (i.arg 0))),
  method "keyFor" 1 fun i => do
    let m : Machine ← fun _ m => .ok m m
    match i.arg 0 with
    | .symbol id =>
      match m.registry.find? fun p => p.2 == id with
      | some (name, _) => return .text name
      | none           => return .undefined
    | _          => throwType "value is not a symbol"]

/-- The text that shows a symbol. -/
def symbolText (id : Nat) : Exec Utf16 := do
  let description := (← descriptionOf id).getD .empty
  return Utf16.ofString "Symbol(" ++ description ++ Utf16.ofString ")"

def symbolMethods : List Builtin := [
  getter "description" fun i => do
    match ← descriptionOf (← thisSymbol i.this) with
    | some d => return .text d
    | none   => return .undefined,
  method "toString" 0 fun i => do return .text (← symbolText (← thisSymbol i.this)),
  method "valueOf" 0 fun i => do return .symbol (← thisSymbol i.this),
  symbolMethod .toPrimitive 1 fun i => do return .symbol (← thisSymbol i.this)]

/-! ### Booleans -/

/-- The boolean that a value is or holds. -/
def thisBool (v : Value) : Exec Bool := do
  match v with
  | .bool b   => return b
  | .object r =>
    match ← kindOf r with
    | .boolean b => return b
    | _          => throwType "value is not a boolean"
  | _         => throwType "value is not a boolean"

def makeBoolean (i : Invocation) : Exec Value := do
  let b := (i.arg 0).toBool
  if i.newTarget.isUndefined then return .bool b
  return .object (← allocateFor i.newTarget .boolean (.boolean b))

def booleanMethods : List Builtin := [
  method "toString" 0 fun i => do
    return .ofString (if ← thisBool i.this then "true" else "false"),
  method "valueOf" 0 fun i => do return .bool (← thisBool i.this)]

end Stencil.Script.Library
