import Stencil.Script.Library.Builtin

/-!
# Objects

The members of `Object`, and those that all objects have.
-/

namespace Stencil.Script.Library

/-! ### Listing -/

/-- The own properties of an object that loops find, as `f` shows them. -/
def enumerableOwn (v : Value) (f : Key → Value → Exec Value) : Exec Value := do
  let r ← toObject v
  let keys := (← ownKeys r).filter Key.isText
  let found ← keys.filterMapM fun key => do
    match ← getOwn r key with
    | some p => if p.isEnumerable then some <$> (do f key (← get r key)) else return none
    | none   => return none
  newArray found

/-- The own properties of an object that loops find, without their values. -/
def enumerableOwnKeys (v : Value) : Exec Value := do
  let r ← toObject v
  let keys := (← ownKeys r).filter Key.isText
  let found ← keys.filterMapM fun key => do
    match ← getOwn r key with
    | some p => return if p.isEnumerable then some key.toValue else none
    | none   => return none
  newArray found

/-! ### Integrity -/

/-- Makes all properties of an object permanent, and unchangeable if it is frozen. -/
def harden (r : Ref) (freezes : Bool) : Exec Unit := do
  unless ← preventExtensions r do throwType "cannot prevent extensions"
  (← ownKeys r).forM fun key => do
    match ← getOwn r key with
    | none   => pure ()
    | some p =>
      let d : Descriptor := match p.slot with
        | .data _ _ =>
          if freezes then { isConfigurable := some false, isWritable := some false }
          else { isConfigurable := some false }
        | .accessor _ _ => { isConfigurable := some false }
      defineOrThrow r key d

/-- Whether all properties of an object are permanent, and unchangeable if it is frozen. -/
def isHard (r : Ref) (frozen : Bool) : Exec Bool := do
  if ← isExtensible r then return false
  (← ownKeys r).allM fun key => do
    match ← getOwn r key with
    | none   => return true
    | some p =>
      let isFixed := match p.slot with
        | .data _ isWritable => !frozen || !isWritable
        | .accessor _ _      => true
      return !p.isConfigurable && isFixed

/-- Defines the properties that an object describes. -/
def defineAll (r : Ref) (descriptions : Value) : Exec Unit := do
  let source ← toObject descriptions
  let found ← (← ownKeys source).filterMapM fun key => do
    match ← getOwn source key with
    | some p =>
      if p.isEnumerable then return some (key, ← toDescriptor (← get source key)) else return none
    | none   => return none
  found.forM fun (key, d) => defineOrThrow r key d

/-- An argument that must be an object. -/
def objectArg (v : Value) : Exec Ref := do
  match v with
  | .object r => return r
  | _         => throwType "value is not an object"

/-- The prototype that a value stands for. -/
def protoArg (v : Value) : Exec (Option Ref) := do
  match v with
  | .object r => return some r
  | .null     => return none
  | _         => throwType "prototype must be an object or null"

/-! ### Members of `Object` -/

/-- Copies the properties of a value to an object by assignment. -/
def assignFrom (target : Ref) (source : Value) : Exec Unit := do
  if source.isNullish then return
  let r ← toObject source
  (← ownKeys r).forM fun key => do
    match ← getOwn r key with
    | some p => if p.isEnumerable then setOrThrow target key (← get r key)
    | none   => pure ()

/-- Groups items by the key that a function gives. -/
def groupItems (items callback : Value) : Exec (List (Key × List Value)) := do
  let (groups, _) ← foldItems items (([] : List (Key × List Value)), 0) fun (groups, n) v => do
    let key ← toKey (← call callback .undefined [v, .ofNat n])
    let groups := if groups.any fun g => g.1 == key then
        groups.map fun g => if g.1 == key then (g.1, g.2 ++ [v]) else g
      else groups ++ [(key, [v])]
    return (groups, n + 1)
  return groups

def objectStatics : List Builtin := [
  method "assign" 2 fun i => do
    let target ← toObject (i.arg 0)
    (i.arguments.drop 1).forM (assignFrom target)
    return .object target,
  method "create" 2 fun i => do
    let r ← allocate (.empty .ordinary (← protoArg (i.arg 0)))
    if !(i.arg 1).isUndefined then defineAll r (i.arg 1)
    return .object r,
  method "defineProperty" 3 fun i => do
    let r ← objectArg (i.arg 0)
    let key ← toKey (i.arg 1)
    defineOrThrow r key (← toDescriptor (i.arg 2))
    return i.arg 0,
  method "defineProperties" 2 fun i => do
    defineAll (← objectArg (i.arg 0)) (i.arg 1)
    return i.arg 0,
  method "entries" 1 fun i => enumerableOwn (i.arg 0) fun key v => newArray [key.toValue, v],
  method "freeze" 1 fun i => do
    match i.arg 0 with
    | .object r =>
      harden r true
      return .object r
    | v         => return v,
  method "fromEntries" 1 fun i => do
    if (i.arg 0).isNullish then throwType "cannot convert 'null' or 'undefined' to object"
    let r ← newObject
    foldItems (i.arg 0) () fun _ entry => do
      match entry with
      | .object e => do
        let key ← get e (.index 0)
        let v ← get e (.index 1)
        createProperty r (← toKey key) v
      | _         => throwType "entry is not an object"
    return .object r,
  method "getOwnPropertyDescriptor" 2 fun i => do
    let r ← toObject (i.arg 0)
    fromProperty (← getOwn r (← toKey (i.arg 1))),
  method "getOwnPropertyDescriptors" 1 fun i => do
    let r ← toObject (i.arg 0)
    let found ← newObject
    (← ownKeys r).forM fun key => do
      let d ← fromProperty (← getOwn r key)
      if !d.isUndefined then createProperty found key d
    return .object found,
  method "getOwnPropertyNames" 1 fun i => do
    newArray (((← ownKeys (← toObject (i.arg 0))).filter Key.isText).map Key.toValue),
  method "getOwnPropertySymbols" 1 fun i => do
    newArray (((← ownKeys (← toObject (i.arg 0))).filter Key.isSymbol).map Key.toValue),
  method "getPrototypeOf" 1 fun i => do return .ofRef? (← getProto (← toObject (i.arg 0))),
  method "groupBy" 2 fun i => do
    let groups ← groupItems (i.arg 0) (← functionArg i 1)
    let r ← allocate (.empty .ordinary none)
    groups.forM fun (key, items) => do createProperty r key (← newArray items)
    return .object r,
  method "hasOwn" 2 fun i => do
    let r ← toObject (i.arg 0)
    return .bool (← getOwn r (← toKey (i.arg 1))).isSome,
  method "is" 2 fun i => return .bool ((i.arg 0).sameValue (i.arg 1)),
  method "isExtensible" 1 fun i => do
    match i.arg 0 with
    | .object r => return .bool (← isExtensible r)
    | _         => return .bool false,
  method "isFrozen" 1 fun i => do
    match i.arg 0 with
    | .object r => return .bool (← isHard r true)
    | _         => return .bool true,
  method "isSealed" 1 fun i => do
    match i.arg 0 with
    | .object r => return .bool (← isHard r false)
    | _         => return .bool true,
  method "keys" 1 fun i => enumerableOwnKeys (i.arg 0),
  method "preventExtensions" 1 fun i => do
    match i.arg 0 with
    | .object r =>
      unless ← preventExtensions r do throwType "cannot prevent extensions"
      return .object r
    | v         => return v,
  method "seal" 1 fun i => do
    match i.arg 0 with
    | .object r =>
      harden r false
      return .object r
    | v         => return v,
  method "setPrototypeOf" 2 fun i => do
    if (i.arg 0).isNullish then throwType "cannot convert 'null' or 'undefined' to object"
    let proto ← protoArg (i.arg 1)
    match i.arg 0 with
    | .object r => unless ← setProto r proto do throwType "cannot set prototype"
    | _         => pure ()
    return i.arg 0,
  method "values" 1 fun i => enumerableOwn (i.arg 0) fun _ v => return v]

/-! ### Members of all objects -/

/-- The word that the text of an object begins with, by its kind. -/
def kindTag (r : Ref) : Exec String := do
  if ← isArray (.object r) then return "Array"
  match ← kindOf r with
  | .error       => return "Error"
  | .boolean _   => return "Boolean"
  | .number _    => return "Number"
  | .text _      => return "String"
  | .date _      => return "Date"
  | .regex _ _ _ => return "RegExp"
  | .arguments   => return "Arguments"
  | kind         => return if kind.isCallable then "Function" else "Object"

/-- The text that tells what kind of thing a value is. -/
def objectText (v : Value) : Exec Value := do
  match v with
  | .undefined => return .ofString "[object Undefined]"
  | .null      => return .ofString "[object Null]"
  | v          =>
    let r ← toObject v
    let builtIn ← kindTag r
    let tag ← match ← get r (.ofSymbol .toStringTag) with
      | .text t => pure t
      | _       => pure (Utf16.ofString builtIn)
    return .text (Utf16.ofString "[object " ++ tag ++ Utf16.ofString "]")

/-- An accessor of an object or of its prototypes; `fuel` bounds their number. -/
def lookupAccessor (wantsSetter : Bool) (key : Key) : (fuel : Nat) → Ref → Exec Value
  | 0, _        => return .undefined
  | fuel + 1, r => do
    match ← getOwn r key with
    | some ⟨.accessor get set, _, _⟩ => return if wantsSetter then set else get
    | some _ => return .undefined
    | none   =>
      match ← getProto r with
      | some p => lookupAccessor wantsSetter key fuel p
      | none   => return .undefined

def objectMethods : List Builtin := [
  method "hasOwnProperty" 1 fun i => do
    let key ← toKey (i.arg 0)
    return .bool (← getOwn (← toObject i.this) key).isSome,
  method "isPrototypeOf" 1 fun i => do
    match i.arg 0 with
    | .object r => return .bool (← inheritsFrom (← toObject i.this) chainLimit r)
    | _         => return .bool false,
  method "propertyIsEnumerable" 1 fun i => do
    let key ← toKey (i.arg 0)
    match ← getOwn (← toObject i.this) key with
    | some p => return .bool p.isEnumerable
    | none   => return .bool false,
  method "toLocaleString" 0 fun i => invoke i.this "toString" [],
  method "toString" 0 fun i => objectText i.this,
  method "valueOf" 0 fun i => do return .object (← toObject i.this),
  getter "__proto__" fun i => do return .ofRef? (← getProto (← toObject i.this)),
  setter "__proto__" fun i => do
    if i.this.isNullish then throwType "cannot convert 'null' or 'undefined' to object"
    match i.this, i.arg 0 with
    | .object r, .object p =>
      unless ← setProto r (some p) do throwType "cannot set prototype"
      return .undefined
    | .object r, .null     =>
      unless ← setProto r none do throwType "cannot set prototype"
      return .undefined
    | _, _                 => return .undefined,
  method "__defineGetter__" 2 fun i => do
    let f ← functionArg i 1
    defineOrThrow (← toObject i.this) (← toKey (i.arg 0))
      { get := some f, isEnumerable := some true, isConfigurable := some true }
    return .undefined,
  method "__defineSetter__" 2 fun i => do
    let f ← functionArg i 1
    defineOrThrow (← toObject i.this) (← toKey (i.arg 0))
      { set := some f, isEnumerable := some true, isConfigurable := some true }
    return .undefined,
  method "__lookupGetter__" 1 fun i => do
    lookupAccessor false (← toKey (i.arg 0)) chainLimit (← toObject i.this),
  method "__lookupSetter__" 1 fun i => do
    lookupAccessor true (← toKey (i.arg 0)) chainLimit (← toObject i.this)]

/-- `Object` as a function. -/
def makeObject (i : Invocation) : Exec Value := do
  if !i.newTarget.isUndefined && !i.newTarget.strictEq (.object i.callee) then
    return .object (← allocateFor i.newTarget .object .ordinary)
  if (i.arg 0).isNullish then return .object (← newObject)
  return .object (← toObject (i.arg 0))

/-! ### `Reflect` -/

def reflectMembers : List Builtin := [
  method "apply" 3 fun i => do
    call (← functionArg i 0) (i.arg 1) (← listFromArrayLike (i.arg 2)),
  method "construct" 2 fun i => do
    let target := i.arg 0
    unless ← isConstructor target do throwType "not a constructor"
    let newTarget := if i.arguments.length > 2 then i.arg 2 else target
    unless ← isConstructor newTarget do throwType "not a constructor"
    construct target (← listFromArrayLike (i.arg 1)) newTarget,
  method "defineProperty" 3 fun i => do
    let r ← objectArg (i.arg 0)
    let key ← toKey (i.arg 1)
    return .bool (← define r key (← toDescriptor (i.arg 2))),
  method "deleteProperty" 2 fun i => do
    return .bool (← deleteProperty (← objectArg (i.arg 0)) (← toKey (i.arg 1))),
  method "get" 2 fun i => do
    let r ← objectArg (i.arg 0)
    let receiver := if i.arguments.length > 2 then i.arg 2 else i.arg 0
    getFrom chainLimit r (← toKey (i.arg 1)) receiver,
  method "getOwnPropertyDescriptor" 2 fun i => do
    fromProperty (← getOwn (← objectArg (i.arg 0)) (← toKey (i.arg 1))),
  method "getPrototypeOf" 1 fun i => do return .ofRef? (← getProto (← objectArg (i.arg 0))),
  method "has" 2 fun i => do
    return .bool (← hasProperty (← objectArg (i.arg 0)) (← toKey (i.arg 1))),
  method "isExtensible" 1 fun i => do return .bool (← isExtensible (← objectArg (i.arg 0))),
  method "ownKeys" 1 fun i => do
    newArray ((← ownKeys (← objectArg (i.arg 0))).map Key.toValue),
  method "preventExtensions" 1 fun i => do
    return .bool (← preventExtensions (← objectArg (i.arg 0))),
  method "set" 3 fun i => do
    let r ← objectArg (i.arg 0)
    let receiver := if i.arguments.length > 3 then i.arg 3 else i.arg 0
    return .bool (← setFrom chainLimit r (← toKey (i.arg 1)) (i.arg 2) receiver),
  method "setPrototypeOf" 2 fun i => do
    let r ← objectArg (i.arg 0)
    return .bool (← setProto r (← protoArg (i.arg 1)))]

/-! ### `Proxy` -/

/-- A proxy of an object. -/
def newProxy (target handler : Value) : Exec Ref := do
  match target, handler with
  | .object t, .object h =>
    allocate (.empty (.proxy (some t) (some h) (← isCallable target) (← isConstructor target)) none)
  | _, _ => throwType "proxy needs an object and a handler"

def makeProxy (i : Invocation) : Exec Value := do
  if i.newTarget.isUndefined then throwType "class constructor cannot be invoked without 'new'"
  return .object (← newProxy (i.arg 0) (i.arg 1))

def proxyStatics : List Builtin := [
  method "revocable" 2 fun i => do
    let proxy ← newProxy (i.arg 0) (i.arg 1)
    let result ← newObject
    createProperty result (.ofString "proxy") (.object proxy)
    createProperty result (.ofString "revoke") (← newStep (.revoke proxy) 0)
    return .object result]

/-- Takes a proxy its target and its handler. -/
def revokeProxy (r : Ref) : Exec Value := do
  match ← kindOf r with
  | .proxy _ _ callable constructs => setKind r (.proxy none none callable constructs)
  | _                              => pure ()
  return .undefined

end Stencil.Script.Library
