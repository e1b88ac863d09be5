import Stencil.Script.Convert

/-!
# Changing properties

How properties are defined, set and deleted. Arrays keep their plain items in one sequence, and
their length with them.
-/

namespace Stencil.Script

/-! ### Storing -/

/-- How far beyond its items an array may be extended by one item, with gaps between. -/
def maxGap : Nat := 4096

/-- Puts a property into a list of properties, in place of one with the same key. -/
def putProperty (properties : Array (Key × Property)) (key : Key) (p : Property) :
    Array (Key × Property) :=
  match properties.findIdx? fun q => q.1 == key with
  | some i => properties.setIfInBounds i (key, p)
  | none   => properties.push (key, p)

/-- The value of a property like those that assignments make. -/
def Property.plainValue? (p : Property) : Option Value :=
  match p.slot, p.isEnumerable, p.isConfigurable with
  | .data v true, true, true => some v
  | _, _, _                  => none

/-- The items of an array with one of them replaced; `none` if it lies too far beyond the rest. -/
def putItem (items : Array (Option Value)) (i : Nat) (v : Value) : Option (Array (Option Value)) :=
  if i < items.size then some (items.setIfInBounds i (some v))
  else if i = items.size then some (items.push (some v))
  else if i < items.size + maxGap then
    some ((items ++ Array.replicate (i - items.size) none).push (some v))
  else none

/-- An object that is no proxy and no typed array with a property. -/
def Object.store (o : Object) (key : Key) (p : Property) : Object :=
  match o.kind, key with
  | .array items length isWritable, .index i =>
    let length := max length (i + 1)
    -- a property that is listed by itself stays there
    if o.properties.any fun q => q.1 == key then
      { o with kind := .array items length isWritable, properties := putProperty o.properties key p }
    else
      match p.plainValue? with
      | some v =>
        match putItem items i v with
        | some items => { o with kind := .array items length isWritable }
        | none       =>
          { o with kind := .array items length isWritable, properties := o.properties.push (key, p) }
      | none   =>
        { o with
          kind := .array (items.setIfInBounds i none) length isWritable
          properties := o.properties.push (key, p) }
  | _, _ => { o with properties := putProperty o.properties key p }

/-- An object without a property. -/
def Object.erase (o : Object) (key : Key) : Object :=
  let o := { o with properties := o.properties.filter fun q => q.1 != key }
  match o.kind, key with
  | .array items length isWritable, .index i =>
    { o with kind := .array (items.setIfInBounds i none) length isWritable }
  | _, _ => o

/-- Changes the items of an array in place. -/
def storeProperty (r : Ref) (key : Key) (p : Property) : Exec Unit :=
  modifyObject r fun o => o.store key p

/-- Shortens or lengthens an array. Items that cannot be removed stop it; whether none did. -/
def setArrayLength (r : Ref) (new : Nat) : Exec Bool := do
  let o ← object r
  match o.kind with
  | .array items length isWritable =>
    if new ≥ length then
      setKind r (.array items new isWritable)
      return true
    else
      let stuck := o.properties.toList.filterMap fun q => match q.1 with
        | .index i => if new ≤ i && !q.2.isConfigurable then some (i + 1) else none
        | _        => none
      let least := stuck.foldl max new
      let kept := o.properties.filter fun q => match q.1 with
        | .index i => i < least
        | _        => true
      modifyObject r fun o =>
        { o with kind := .array (items.extract 0 least) least isWritable, properties := kept }
      return stuck.isEmpty
  | _ => return true

/-! ### Defining -/

/-- Whether a description agrees with a property that cannot be redefined. -/
def Descriptor.agrees (d : Descriptor) (p : Property) : Bool :=
  if p.isConfigurable then true
  else
    d.isConfigurable != some true &&
    (d.isEnumerable.getD p.isEnumerable == p.isEnumerable) &&
    (match p.slot with
     | .data value isWritable =>
       !d.isAccessor && (isWritable ||
         (d.isWritable != some true && (d.value.map (Value.sameValue value)).getD true))
     | .accessor get set =>
       !d.isData && (d.get.map (Value.sameValue get)).getD true &&
         (d.set.map (Value.sameValue set)).getD true)

/-- Puts an element into a typed array. -/
def setElement (element : ElementKind) (buffer offset length i : Nat) (value : Value) :
    Exec Unit := do
  let value ← if element.isBig then Value.big <$> toBig value else Value.number <$> toNumber value
  if i < length then
    let bytes ← bytesOf buffer
    setKind buffer (.bytes #[])
    setKind buffer (.bytes (putBytes bytes (offset + i * element.size) (element.write value)))

/-- Defines the length of an array. -/
def defineLength (r : Ref) (isWritable : Bool) (length : Nat) (d : Descriptor) : Exec Bool := do
  let new ← match d.value with
    | none   => pure length
    | some v =>
      let x ← toNumber v
      if !(0 ≤ x && x < 4294967296 && x.floor == x) then throwRange "invalid array length"
      pure x.toUInt64.toNat
  let current : Property := ⟨.data (.ofNat length) isWritable, false, false⟩
  let d := { d with value := d.value.map fun _ => .ofNat new }
  if !d.agrees current then return false
  let complete ← setArrayLength r new
  if d.isWritable == some false then
    modifyObject r fun o => match o.kind with
      | .array items length _ => { o with kind := .array items length false }
      | _                     => o
  return complete

/-- Defines a property of an object that is no proxy. -/
def ordinaryDefine (r : Ref) (key : Key) (d : Descriptor) : Exec Bool := do
  let o ← object r
  match o.kind, key with
  | .typed element buffer offset length, .index i =>
    if length ≤ i || d.isAccessor || d.isWritable == some false || d.isEnumerable == some false ||
        d.isConfigurable == some false then return false
    match d.value with
    | some v =>
      setElement element buffer offset length i v
      return true
    | none   => return true
  | .array _ length isWritable, _ =>
    if key == lengthKey then defineLength r isWritable length d
    else
      match key with
      | .index i =>
        if length ≤ i && !isWritable then return false else general o
      | _        => general o
  | _, _ => general o
where
  general (o : Object) : Exec Bool := do
    match ← ordinaryOwn o key with
    | none   =>
      if !o.isExtensible then return false
      storeProperty r key d.toProperty
      return true
    | some p =>
      if !d.agrees p then return false
      storeProperty r key (d.update p)
      return true

/-- Defines a property. -/
def define (r : Ref) (key : Key) (d : Descriptor) : Exec Bool := do
  match ← kindOf r with
  | .proxy target handler _ _ =>
    let (target, handler, trap) ← trapOf target handler "defineProperty"
    match trap with
    | none      => below fun h => h.define target key d
    | some trap =>
      return (← call trap (.object handler) [.object target, key.toValue, ← fromDescriptor d]).toBool
  | _ => ordinaryDefine r key d

/-- Defines a property, which must succeed. -/
def defineOrThrow (r : Ref) (key : Key) (d : Descriptor) : Exec Unit := do
  unless ← define r key d do throwType ("cannot redefine property: " ++ showKey key)

/-- Makes a property like those that assignments make, which must succeed. -/
def createProperty (r : Ref) (key : Key) (v : Value) : Exec Unit :=
  defineOrThrow r key (.plain v)

/-! ### Setting -/

/-- Sets a property of the receiver, where no setter was found. -/
def setOwn (receiver : Value) (key : Key) (v : Value) : Exec Bool := do
  match receiver with
  | .object r =>
    match ← getOwn r key with
    | none   => define r key (.plain v)
    | some p =>
      match p.slot with
      | .data _ true => define r key { value := some v }
      | _            => return false
  | _ => return false

/-- Sets an element of a typed array, if the object is one and the key an index. -/
def setElement? (r : Ref) (o : Object) (key : Key) (v receiver : Value) : Exec (Option Bool) := do
  match o.kind, key, receiver with
  | .typed element buffer offset length, .index i, .object r' =>
    if r == r' then
      setElement element buffer offset length i v
      return some true
    else if i < length then return some (← setOwn receiver key v)
    else return some true
  | _, _, _ => return none

/-- Sets the value of an own data property, on behalf of a receiver. -/
def setData (r : Ref) (o : Object) (p : Property) (key : Key) (v receiver : Value) :
    Exec Bool := do
  match receiver, o.kind, key with
  | .object r', .array _ _ _, .text _ =>
    if r == r' then define r key { value := some v } else setOwn receiver key v
  | .object r', _, _                  =>
    if r == r' then
      storeProperty r key { p with slot := .data v true }
      return true
    else setOwn receiver key v
  | _, _, _                           => return false

/-- Sets a property of an object, on behalf of a receiver; whether that succeeded. -/
def setFrom : (fuel : Nat) → Ref → Key → Value → (receiver : Value) → Exec Bool
  | 0, _, _, _, _                   => exhaust
  | fuel + 1, r, key, v, receiver => do
    let o ← object r
    match o.kind with
    | .proxy target handler _ _ =>
      let (target, handler, trap) ← trapOf target handler "set"
      match trap with
      | none      => below fun h => h.set target key v receiver
      | some trap =>
        return (← call trap (.object handler) [.object target, key.toValue, v, receiver]).toBool
    | _ =>
      match ← setElement? r o key v receiver with
      | some answer => return answer
      | none        =>
        match ← ordinaryOwn o key with
        | some p =>
          match p.slot with
          | .data _ isWritable     =>
            if isWritable then setData r o p key v receiver else return false
          | .accessor _ .undefined => return false
          | .accessor _ setter     =>
            let _ ← call setter receiver [v]
            return true
        | none   =>
          match o.proto with
          | some proto => setFrom fuel proto key v receiver
          | none       => setOwn receiver key v

/-- Sets a property of an object; whether that succeeded. -/
def setProperty (r : Ref) (key : Key) (v : Value) : Exec Bool :=
  setFrom chainLimit r key v (.object r)

/-- Sets a property of an object, which must succeed. -/
def setOrThrow (r : Ref) (key : Key) (v : Value) : Exec Unit := do
  unless ← setProperty r key v do throwType ("cannot set property: " ++ showKey key)

/-- Sets the length of an object. -/
def setLength (r : Ref) (n : Nat) : Exec Unit := setOrThrow r lengthKey (.ofNat n)

/-- Sets the property of any value; failing is an error in strict code. -/
def setOf (v : Value) (key : Key) (new : Value) (isStrict : Bool) : Exec Unit := do
  let ok ← match v with
    | .object r => setProperty r key new
    | _         =>
      match protoOfPrimitive v with
      | some s => setFrom chainLimit s.proto key new v
      | none   =>
        throwType ("cannot set property '" ++ showKey key ++ "' of " ++
          (if v.isUndefined then "undefined" else "null"))
  if !ok && isStrict then throwType ("cannot set property: " ++ showKey key)

/-! ### Deleting -/

/-- Deletes a property; whether it is gone. -/
def deleteProperty (r : Ref) (key : Key) : Exec Bool := do
  let o ← object r
  match o.kind with
  | .proxy target handler _ _ =>
    let (target, handler, trap) ← trapOf target handler "deleteProperty"
    match trap with
    | none      => below fun h => h.delete target key
    | some trap => return (← call trap (.object handler) [.object target, key.toValue]).toBool
  | _ =>
    match ← ordinaryOwn o key with
    | none   => return true
    | some p =>
      if !p.isConfigurable then return false
      match o.kind with
      | .typed _ _ _ _ =>
        match key with
        | .index _ => return false
        | _        => modifyObject r (·.erase key)
      | _ => modifyObject r (·.erase key)
      return true

/-- Deletes a property, which must succeed. -/
def deleteOrThrow (r : Ref) (key : Key) : Exec Unit := do
  unless ← deleteProperty r key do throwType ("cannot delete property: " ++ showKey key)

/-! ### Prototypes -/

/-- Whether an object is among the prototypes that begin with another; `fuel` bounds the chain. -/
def reaches (r : Ref) : (fuel : Nat) → Option Ref → Exec Bool
  | 0, _             => return true
  | _ + 1, none      => return false
  | fuel + 1, some p => do
    if p == r then return true
    let o ← object p
    match o.kind with
    | .proxy _ _ _ _ => return false
    | _              => reaches r fuel o.proto

/-- Sets the prototype of an object; whether that succeeded. -/
def setProto (r : Ref) (proto : Option Ref) : Exec Bool := do
  let o ← object r
  match o.kind with
  | .proxy target handler _ _ =>
    let (target, handler, trap) ← trapOf target handler "setPrototypeOf"
    match trap with
    | none      => below fun h => h.setProto target proto
    | some trap =>
      return (← call trap (.object handler) [.object target, .ofRef? proto]).toBool
  | _ =>
    if o.proto == proto then return true
    if !o.isExtensible || r == Standard.object.proto then return false
    if ← reaches r chainLimit proto then return false
    modifyObject r fun o => { o with proto }
    return true

/-- Forbids new properties; whether that succeeded. -/
def preventExtensions (r : Ref) : Exec Bool := do
  let o ← object r
  match o.kind with
  | .proxy target handler _ _ =>
    let (target, handler, trap) ← trapOf target handler "preventExtensions"
    match trap with
    | none      => below fun h => h.preventExtensions target
    | some trap => return (← call trap (.object handler) [.object target]).toBool
  | _ =>
    modifyObject r fun o => { o with isExtensible := false }
    return true

/-! ### Private members -/

/-- The private member of an object. -/
def getPrivate (v : Value) (id : Nat) : Exec Value := do
  match v with
  | .object r =>
    match findProperty (← object r).properties (.hidden id) with
    | some p =>
      match p.slot with
      | .data value _           => return value
      | .accessor .undefined _  => throwType "private member has no getter"
      | .accessor getter _      => call getter v []
    | none   => throwType "object has no such private member"
  | _ => throwType "object has no such private member"

/-- Sets the private member of an object. -/
def setPrivate (v : Value) (id : Nat) (new : Value) : Exec Unit := do
  match v with
  | .object r =>
    match findProperty (← object r).properties (.hidden id) with
    | some p =>
      match p.slot with
      | .data _ true           => storeProperty r (.hidden id) { p with slot := .data new true }
      | .data _ false          => throwType "private method cannot be changed"
      | .accessor _ .undefined => throwType "private member has no setter"
      | .accessor _ setter     =>
        let _ ← call setter v [new]
    | none   => throwType "object has no such private member"
  | _ => throwType "object has no such private member"

/-- Adds a private member to an object. -/
def addPrivate (r : Ref) (id : Nat) (p : Property) : Exec Unit := do
  let o ← object r
  if (findProperty o.properties (.hidden id)).isSome then
    throwType "object has the private member already"
  modifyObject r fun o => { o with properties := o.properties.push (.hidden id, p) }

/-- Whether an object has a private member. -/
def hasPrivateMember (r : Ref) (id : Nat) : Exec Bool :=
  return (findProperty (← object r).properties (.hidden id)).isSome

end Stencil.Script
