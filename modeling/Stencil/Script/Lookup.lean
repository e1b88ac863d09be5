import Stencil.Script.Elements
import Stencil.Script.Memory

/-!
# Looking properties up

What an object has, by itself and through its prototypes. Proxies ask their handlers.
-/

namespace Stencil.Script

/-! ### Own properties -/

/-- A property in a list of properties. -/
def findProperty (properties : Array (Key × Property)) (key : Key) : Option Property :=
  (properties.find? fun p => p.1 == key).map Prod.snd

/-- How many characters the chain of prototypes may have; chains are never circular. -/
def chainLimit : Nat := 1000000

def lengthKey : Key := .text (.ofString "length")

/-- The bytes of a buffer. -/
def bytesOf (buffer : Ref) : Exec (Array UInt8) := do
  match ← kindOf buffer with
  | .bytes bytes => return bytes
  | _            => return #[]

/-- An element of a typed array. -/
def elementAt (element : ElementKind) (buffer offset i : Nat) : Exec Value := do
  return element.read (bytesAt (← bytesOf buffer) (offset + i * element.size) element.size)

/-- Whether a text is the text of a number, and so never an ordinary key of a typed array. -/
def isNumericText (t : Utf16) : Bool :=
  t == .ofString "-0" ||
  (t.allAscii (fun _ => true) &&
    (let x := NumberText.read t.toChars
     Utf16.ofString (NumberText.write x) == t))

/-- A property of an object that is no proxy. -/
def ordinaryOwn (o : Object) (key : Key) : Exec (Option Property) := do
  match o.kind, key with
  | .array items _ _, .index i =>
    match items.getD i none with
    | some v => return some (.plain v)
    | none   => return findProperty o.properties key
  | .array _ length isWritable, .text _ =>
    if key == lengthKey then return some ⟨.data (.ofNat length) isWritable, false, false⟩
    else return findProperty o.properties key
  | .text t, .index i =>
    match t.at? i with
    | some u => return some ⟨.data (.text (.ofUnit u)) false, true, false⟩
    | none   => return findProperty o.properties key
  | .text t, .text _ =>
    if key == lengthKey then return some (.fixed (.ofNat t.size))
    else return findProperty o.properties key
  | .typed element buffer offset length, .index i =>
    if i < length then return some (.plain (← elementAt element buffer offset i)) else return none
  | .typed _ _ _ _, .text t =>
    if isNumericText t then return none else return findProperty o.properties key
  | _, _ => return findProperty o.properties key

/-! ### Getting -/

/-- Calls a getter. -/
def callGetter (getter receiver : Value) : Exec Value :=
  match getter with
  | .undefined => return .undefined
  | getter     => call getter receiver []

mutual

/-- What an object answers for a key, on behalf of a receiver. -/
def getFrom : (fuel : Nat) → Ref → Key → (receiver : Value) → Exec Value
  | 0, _, _, _                     => exhaust
  | fuel + 1, r, key, receiver => do
    let o ← object r
    match o.kind with
    | .proxy target handler _ _ => proxyGet fuel target handler key receiver
    | _ =>
      match ← ordinaryOwn o key with
      | some p =>
        match p.slot with
        | .data value _      => return value
        | .accessor getter _ => callGetter getter receiver
      | none   =>
        match o.proto with
        | some proto => getFrom fuel proto key receiver
        | none       => return .undefined

/-- What a proxy answers for a key. -/
def proxyGet : (fuel : Nat) → (target handler : Option Ref) → Key → (receiver : Value) →
    Exec Value
  | 0, _, _, _, _                                => exhaust
  | fuel + 1, target, handler, key, receiver => do
    match target, handler with
    | some target, some handler =>
      let trap ← getFrom fuel handler (.ofString "get") (.object handler)
      if trap.isNullish then below fun h => h.get target key receiver
      else call trap (.object handler) [.object target, key.toValue, receiver]
    | _, _ => throwType "proxy was revoked"

end

/-- The property of an object. -/
def get (r : Ref) (key : Key) : Exec Value := getFrom chainLimit r key (.object r)

/-- The property of an object, by the text of its key. -/
def getNamed (r : Ref) (key : String) : Exec Value := get r (.ofString key)

/-- The handler's function for an operation of a proxy, with its target and handler. -/
def trapOf (target handler : Option Ref) (name : String) : Exec (Ref × Ref × Option Value) := do
  match target, handler with
  | some target, some handler =>
    let trap ← getNamed handler name
    if trap.isNullish then return (target, handler, none)
    unless ← isCallable trap do throwType "proxy trap is not callable"
    return (target, handler, some trap)
  | _, _ => throwType "proxy was revoked"

/-! ### Descriptions of properties -/

/-- A field of an object, if it has it. -/
def field? (r : Ref) (name : String) : Exec (Option Value) := do
  let key := Key.ofString name
  if ← below fun h => h.has r key then return some (← get r key) else return none

/-- The description that an object gives of a property. -/
def toDescriptor (v : Value) : Exec Descriptor := do
  match v with
  | .object r =>
    let isEnumerable := (← field? r "enumerable").map Value.toBool
    let isConfigurable := (← field? r "configurable").map Value.toBool
    let value ← field? r "value"
    let isWritable := (← field? r "writable").map Value.toBool
    let getter ← field? r "get"
    let setter ← field? r "set"
    for f in [getter, setter] do
      match f with
      | some f => unless f.isUndefined || (← isCallable f) do throwType "accessor is not a function"
      | none   => pure ()
    let d : Descriptor := { value, isWritable, get := getter, set := setter, isEnumerable, isConfigurable }
    if d.isAccessor && d.isData then throwType "property has both accessors and a value"
    return d
  | _ => throwType "property description must be an object"

/-- A property as an object that describes it. -/
def fromProperty (p : Option Property) : Exec Value := do
  match p with
  | none   => return .undefined
  | some p =>
    let slot := match p.slot with
      | .data value isWritable => [("value", value), ("writable", .bool isWritable)]
      | .accessor getter setter => [("get", getter), ("set", setter)]
    let fields := slot ++
      [("enumerable", .bool p.isEnumerable), ("configurable", .bool p.isConfigurable)]
    let r ← allocate {
      kind := .ordinary, proto := some Standard.object.proto, isExtensible := true,
      properties := (fields.map fun (name, v) => (Key.ofString name, Property.plain v)).toArray }
    return .object r

/-- A description as an object. -/
def fromDescriptor (d : Descriptor) : Exec Value := do
  let part (name : String) (v : Option Value) : List (Key × Property) :=
    match v with
    | some v => [(.ofString name, .plain v)]
    | none   => []
  let fields := part "value" d.value ++ part "writable" (d.isWritable.map .bool) ++
    part "get" d.get ++ part "set" d.set ++ part "enumerable" (d.isEnumerable.map .bool) ++
    part "configurable" (d.isConfigurable.map .bool)
  let r ← allocate {
    kind := .ordinary, proto := some Standard.object.proto, isExtensible := true,
    properties := fields.toArray }
  return .object r

/-- The own property of an object. -/
def getOwn (r : Ref) (key : Key) : Exec (Option Property) := do
  let o ← object r
  match o.kind with
  | .proxy target handler _ _ =>
    let (target, handler, trap) ← trapOf target handler "getOwnPropertyDescriptor"
    match trap with
    | none      => below fun h => h.getOwn target key
    | some trap =>
      let answer ← call trap (.object handler) [.object target, key.toValue]
      if answer.isUndefined then return none
      return some (← toDescriptor answer).toProperty
  | _ => ordinaryOwn o key

/-! ### Prototypes and keys -/

/-- The prototype of an object. -/
def getProto (r : Ref) : Exec (Option Ref) := do
  let o ← object r
  match o.kind with
  | .proxy target handler _ _ =>
    let (target, handler, trap) ← trapOf target handler "getPrototypeOf"
    match trap with
    | none      => below fun h => h.proto target
    | some trap =>
      match ← call trap (.object handler) [.object target] with
      | .object p => return some p
      | .null     => return none
      | _         => throwType "prototype must be an object or null"
  | _ => return o.proto

/-- Whether an object or one of its prototypes has a property. -/
def hasFrom : (fuel : Nat) → Ref → Key → Exec Bool
  | 0, _, _            => exhaust
  | fuel + 1, r, key => do
    let o ← object r
    match o.kind with
    | .proxy target handler _ _ =>
      let (target, handler, trap) ← trapOf target handler "has"
      match trap with
      | none      => below fun h => h.has target key
      | some trap => return (← call trap (.object handler) [.object target, key.toValue]).toBool
    | _ =>
      if (← ordinaryOwn o key).isSome then return true
      match o.proto with
      | some proto => hasFrom fuel proto key
      | none       => return false

/-- Whether an object has a property. -/
def hasProperty (r : Ref) (key : Key) : Exec Bool := hasFrom chainLimit r key

/-- The own keys of an object that is no proxy: indices in order, texts and symbols as they were
made. -/
def ordinaryKeys (o : Object) : List Key :=
  let indices := o.properties.toList.filterMap fun p => match p.1 with
    | .index i => some i
    | _        => none
  let builtIn := match o.kind with
    | .array items _ _ =>
      (List.range items.size).filter fun i => (items.getD i none).isSome
    | .text t => List.range t.size
    | .typed _ _ _ length => List.range length
    | _ => []
  let all := if indices.isEmpty then builtIn
    else (builtIn ++ indices).mergeSort (· ≤ ·)
  let length := match o.kind with
    | .array _ _ _ => [lengthKey]
    | .text _      => [lengthKey]
    | _            => []
  let texts := o.properties.toList.filterMap fun p => match p.1 with
    | .text _ => some p.1
    | _       => none
  let symbols := o.properties.toList.filterMap fun p => match p.1 with
    | .symbol _ => some p.1
    | _         => none
  all.map .index ++ length ++ texts ++ symbols

/-- The key that a text or a symbol is. -/
def keyOfValue : Value → Option Key
  | .text t    => some (.ofText t)
  | .symbol id => some (.symbol id)
  | _          => none

/-- The items of an object with a length, which is given; `fuel` is how many there are. -/
def itemsFrom (r : Ref) : (fuel : Nat) → (i : Nat) → Exec (List Value)
  | 0, _        => return []
  | fuel + 1, i => do
    let v ← get r (.ofNat i)
    return v :: (← itemsFrom r fuel (i + 1))

/-- The own keys of an object. -/
def ownKeys (r : Ref) : Exec (List Key) := do
  let o ← object r
  match o.kind with
  | .proxy target handler _ _ =>
    let (target, handler, trap) ← trapOf target handler "ownKeys"
    match trap with
    | none      => below fun h => h.keys target
    | some trap =>
      match ← call trap (.object handler) [.object target] with
      | .object list =>
        let length := match ← getNamed list "length" with
          | .number x => residue 53 x
          | _         => 0
        let keys ← (← itemsFrom list length 0).mapM fun v => do
          match keyOfValue v with
          | some key => return key
          | none     => throwType "keys must be texts or symbols"
        if keys.eraseDups.length ≠ keys.length then throwType "keys must be distinct"
        return keys
      | _ => throwType "keys must be in a list"
  | _ => return ordinaryKeys o

/-- Whether new properties can be added to an object. -/
def isExtensible (r : Ref) : Exec Bool := do
  let o ← object r
  match o.kind with
  | .proxy target handler _ _ =>
    let (target, handler, trap) ← trapOf target handler "isExtensible"
    match trap with
    | none      => below fun h => h.isExtensible target
    | some trap => return (← call trap (.object handler) [.object target]).toBool
  | _ => return o.isExtensible

end Stencil.Script
