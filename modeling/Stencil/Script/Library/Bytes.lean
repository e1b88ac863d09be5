import Stencil.Script.Library.Arrays

/-!
# Bytes

Buffers of bytes, the typed arrays that read and write them as numbers, and views that do so at any
place.
-/

namespace Stencil.Script.Library

/-! ### Buffers -/

/-- The greatest number of bytes of a buffer: one and a half GiB. -/
def maxBytes : Nat := 3 <<< 29

/-- A new buffer of bytes that are zero. -/
def newBuffer (newTarget : Value) (size : Nat) : Exec Ref := do
  if size > maxBytes then throwRange "buffer is too large"
  allocateFor newTarget .arrayBuffer (.bytes (Array.replicate size 0))

def makeBuffer (i : Invocation) : Exec Value := do
  if i.newTarget.isUndefined then throwType "class constructor cannot be invoked without 'new'"
  return .object (← newBuffer i.newTarget (← toIndex (i.arg 0)))

/-- The buffer that a value is, with its bytes. -/
def thisBuffer (v : Value) : Exec (Ref × Array UInt8) := do
  match v with
  | .object r =>
    match ← kindOf r with
    | .bytes bytes => return (r, bytes)
    | _            => throwType "value is not a buffer of bytes"
  | _         => throwType "value is not a buffer of bytes"

def bufferStatics : List Builtin := [
  method "isView" 1 fun i => do
    match i.arg 0 with
    | .object r =>
      match ← kindOf r with
      | .typed _ _ _ _ => return .bool true
      | .view _ _ _    => return .bool true
      | _              => return .bool false
    | _         => return .bool false,
  speciesGetter]

def bufferMethods : List Builtin := [
  getter "byteLength" fun i => do return .ofNat (← thisBuffer i.this).2.size,
  method "slice" 2 fun i => do
    let (r, bytes) ← thisBuffer i.this
    let start ← relativeArg (i.arg 0) bytes.size 0
    let stop ← relativeArg (i.arg 1) bytes.size bytes.size
    let species ← speciesOf r (.object Standard.arrayBuffer.constructor)
    let made ← construct species [.ofNat (stop - start)] species
    let (target, old) ← thisBuffer made
    if target == r then throwType "species gave the same buffer"
    if old.size < stop - start then throwType "species gave a smaller buffer"
    setKind target (.bytes (putBytes old 0 (bytesAt bytes start (stop - start))))
    return made]

/-! ### Typed arrays -/

/-- A typed array: how it reads its bytes, its buffer, where it begins and how many elements it
has. -/
structure Typed where
  ref : Ref
  element : ElementKind
  buffer : Ref
  offset : Nat
  length : Nat

/-- The typed array that a value is. -/
def typed? (v : Value) : Exec (Option Typed) := do
  match v with
  | .object r =>
    match ← kindOf r with
    | .typed element buffer offset length => return some ⟨r, element, buffer, offset, length⟩
    | _                                   => return none
  | _         => return none

def thisTyped (v : Value) : Exec Typed := do
  match ← typed? v with
  | some t => return t
  | none   => throwType "value is not a typed array"

def Typed.get (t : Typed) (n : Nat) : Exec Value := elementAt t.element t.buffer t.offset n

def Typed.set (t : Typed) (n : Nat) (v : Value) : Exec Unit :=
  setElement t.element t.buffer t.offset t.length n v

/-- The elements of a typed array. -/
def Typed.items (t : Typed) : Exec (List Value) := (List.range t.length).mapM t.get

/-- A new typed array with a buffer of its own. -/
def newTyped (element : ElementKind) (proto : Ref) (length : Nat) : Exec Ref := do
  if length * element.size > maxBytes then throwRange "array is too large"
  let buffer ← allocateKind (.bytes (Array.replicate (length * element.size) 0)) .arrayBuffer
  allocate (.empty (.typed element buffer 0 length) (some proto))

/-- A new typed array with these elements. -/
def newTypedOf (element : ElementKind) (proto : Ref) (items : List Value) : Exec Value := do
  let r ← newTyped element proto items.length
  let t ← thisTyped (.object r)
  items.zipIdx.forM fun (v, n) => t.set n v
  return .object r

/-- A typed array on an existing buffer. -/
def typedOnBuffer (element : ElementKind) (proto buffer : Ref) (size : Nat)
    (offsetArg lengthArg : Value) : Exec Value := do
  let offset ← toIndex offsetArg
  if offset % element.size ≠ 0 then throwRange "offset is not a multiple of the element size"
  let length ← match lengthArg with
    | .undefined => do
      if size % element.size ≠ 0 then throwRange "buffer size is not a multiple of the element size"
      if size < offset then throwRange "offset is out of range"
      pure ((size - offset) / element.size)
    | v => do
      let length ← toIndex v
      if size < offset + length * element.size then throwRange "length is out of range"
      pure length
  return .object (← allocate (.empty (.typed element buffer offset length) (some proto)))

/-- A typed array of a kind; `standard` is where its prototype comes from. -/
def makeTyped (element : ElementKind) (standard : Standard) (i : Invocation) : Exec Value := do
  if i.newTarget.isUndefined then throwType "class constructor cannot be invoked without 'new'"
  match i.arg 0 with
  | .object source =>
    let proto ← protoFor i.newTarget standard
    match ← kindOf source with
    | .bytes bytes => typedOnBuffer element proto source bytes.size (i.arg 1) (i.arg 2)
    | .typed other buffer offset length =>
      if other.isBig != element.isBig then throwType "elements are of different types"
      newTypedOf element proto (← Typed.items ⟨source, other, buffer, offset, length⟩)
    | _ =>
      match ← methodOfValue (i.arg 0) (.ofSymbol .iterator) with
      | some method =>
        let items ← (← iterationBy (i.arg 0) method).fold (fun items v => return v :: items)
          turnLimit []
        newTypedOf element proto items.reverse
      | none        => newTypedOf element proto (← itemsOf source)
  | v =>
    let length ← toIndex v
    let proto ← protoFor i.newTarget standard
    return .object (← newTyped element proto length)

/-- A typed array that a constructor makes, with at least so many elements. -/
def createTyped (constructor : Value) (arguments : List Value) (length : Nat) : Exec Typed := do
  let t ← thisTyped (← construct constructor arguments constructor)
  if t.length < length then throwType "constructor gave a smaller typed array"
  return t

/-- A typed array made by the constructor that another asks for. -/
def Typed.createLike (t : Typed) (arguments : List Value) (length : Nat) : Exec Typed := do
  let species ← speciesOf t.ref (.object t.element.standard.constructor)
  let made ← createTyped species arguments length
  if made.element.isBig != t.element.isBig then throwType "elements are of different types"
  return made

/-- A typed array of the same kind with these elements. -/
def Typed.copyOf (t : Typed) (items : List Value) : Exec Value :=
  newTypedOf t.element t.element.standard.proto items

/-- A constructor that is the receiver of a call. -/
def constructorArg (v : Value) : Exec Value := do
  unless ← isConstructor v do throwType "not a constructor"
  return v

def typedStatics : List Builtin := [
  method "from" 1 fun i => do
    let constructor ← constructorArg i.this
    let mapping := i.arg 1
    if !mapping.isUndefined then
      unless ← isCallable mapping do throwType "not a callable function"
    let mapped (v : Value) (n : Nat) : Exec Value :=
      if mapping.isUndefined then return v else call mapping (i.arg 2) [v, .ofNat n]
    let items ← match ← methodOfValue (i.arg 0) (.ofSymbol .iterator) with
      | some method => do
        let items ← (← iterationBy (i.arg 0) method).fold (fun items v => return v :: items)
          turnLimit []
        pure items.reverse
      | none        => do itemsOf (← toObject (i.arg 0))
    let t ← createTyped constructor [.ofNat items.length] items.length
    items.zipIdx.forM fun (v, n) => do setOrThrow t.ref (.ofNat n) (← mapped v n)
    return .object t.ref,
  method "of" 0 fun i => do
    let constructor ← constructorArg i.this
    let t ← createTyped constructor [.ofNat i.arguments.length] i.arguments.length
    i.arguments.zipIdx.forM fun (v, n) => setOrThrow t.ref (.ofNat n) v
    return .object t.ref,
  speciesGetter]

/-- The members of arrays that typed arrays share, apart from checking their receiver. -/
def sharedTypedMethods : List Builtin :=
  let shared := ["at", "entries", "every", "find", "findIndex", "findLast", "findLastIndex",
    "forEach", "includes", "indexOf", "join", "keys", "lastIndexOf", "reduce", "reduceRight",
    "reverse", "some", "toLocaleString", "toString", "values"]
  (arrayMethods.filter fun b => match b.name with
    | .text name => shared.contains name
    | .symbol _  => false).map fun b =>
    { b with run := fun i => do
        if b.arity > 0 || b.name matches .text "reverse" then
          let _ ← thisTyped i.this
        b.run i }

/-- Whether an element comes before another when nothing else is said. -/
def elementBefore (a b : Value) : Exec Bool := do
  match a, b with
  | .big m, .big n       => return m < n
  | .number x, .number y =>
    if x.isNaN then return false
    if y.isNaN then return true
    return x < y || (x == y && Number.isNegative x && !Number.isNegative y)
  | _, _                 => return false

/-- Sorts elements by a function or by their size. -/
def sortElements (comparator : Value) (items : List Value) : Exec (List Value) :=
  if comparator.isUndefined then sortList elementBefore 64 items
  else sortList (fun x y => do
    return (← toNumber (← call comparator .undefined [x, y])) < 0) 64 items

/-- A value as an element of a kind. -/
def elementValue (element : ElementKind) (v : Value) : Exec Value :=
  if element.isBig then Value.big <$> toBig v else Value.number <$> toNumber v

/-- Puts the items of a value into a typed array from an offset on. -/
def setItems (t : Typed) (source offsetArg : Value) : Exec Unit := do
  let offset ← toInteger offsetArg
  if offset < 0 then throwRange "offset is out of range"
  let start := clampLength offset
  let items ← match ← typed? source with
    | some other => do
      if other.element.isBig != t.element.isBig then throwType "elements are of different types"
      other.items
    | none       => do itemsOf (← toObject source)
  if offset == NumberText.infinity || t.length < start + items.length then
    throwRange "offset is out of range"
  items.zipIdx.forM fun (v, n) => t.set (start + n) v

def typedMethods : List Builtin := sharedTypedMethods ++ [
  getter "buffer" fun i => do return .object (← thisTyped i.this).buffer,
  getter "byteLength" fun i => do
    let t ← thisTyped i.this
    return .ofNat (t.length * t.element.size),
  getter "byteOffset" fun i => do return .ofNat (← thisTyped i.this).offset,
  method "copyWithin" 2 fun i => do
    let t ← thisTyped i.this
    let target ← relativeArg (i.arg 0) t.length 0
    let start ← relativeArg (i.arg 1) t.length 0
    let stop ← relativeArg (i.arg 2) t.length t.length
    let count := min (stop - start) (t.length - target)
    let items := ((← t.items).drop start).take count
    items.zipIdx.forM fun (v, n) => t.set (target + n) v
    return i.this,
  method "fill" 1 fun i => do
    let t ← thisTyped i.this
    let v ← elementValue t.element (i.arg 0)
    let start ← relativeArg (i.arg 1) t.length 0
    let stop ← relativeArg (i.arg 2) t.length t.length
    forRange (stop - start) fun n => t.set (start + n) v
    return i.this,
  method "filter" 1 fun i => do
    let t ← thisTyped i.this
    let predicate ← functionArg i 0
    let kept ← foldRange (fun kept n => do
      let v ← t.get n
      if (← call predicate (i.arg 1) [v, .ofNat n, i.this]).toBool then return v :: kept
      else return kept) t.length 0 []
    let made ← t.createLike [.ofNat kept.length] kept.length
    kept.reverse.zipIdx.forM fun (v, n) => made.set n v
    return .object made.ref,
  getter "length" fun i => do return .ofNat (← thisTyped i.this).length,
  method "map" 1 fun i => do
    let t ← thisTyped i.this
    let f ← functionArg i 0
    let made ← t.createLike [.ofNat t.length] t.length
    forRange t.length fun n => do
      setOrThrow made.ref (.ofNat n) (← call f (i.arg 1) [← t.get n, .ofNat n, i.this])
    return .object made.ref,
  method "set" 1 fun i => do
    setItems (← thisTyped i.this) (i.arg 0) (i.arg 1)
    return .undefined,
  method "slice" 2 fun i => do
    let t ← thisTyped i.this
    let start ← relativeArg (i.arg 0) t.length 0
    let stop ← relativeArg (i.arg 1) t.length t.length
    let count := stop - start
    let made ← t.createLike [.ofNat count] count
    forRange count fun n => do made.set n (← t.get (start + n))
    return .object made.ref,
  method "sort" 1 fun i => do
    comparatorArg (i.arg 0)
    let t ← thisTyped i.this
    let sorted ← sortElements (i.arg 0) (← t.items)
    sorted.zipIdx.forM fun (v, n) => t.set n v
    return i.this,
  method "subarray" 2 fun i => do
    let t ← thisTyped i.this
    let start ← relativeArg (i.arg 0) t.length 0
    let stop ← relativeArg (i.arg 1) t.length t.length
    let count := stop - start
    let offset := t.offset + start * t.element.size
    let made ← t.createLike [.object t.buffer, .ofNat offset, .ofNat count] 0
    return .object made.ref,
  method "toReversed" 0 fun i => do
    let t ← thisTyped i.this
    t.copyOf (← t.items).reverse,
  method "toSorted" 1 fun i => do
    comparatorArg (i.arg 0)
    let t ← thisTyped i.this
    t.copyOf (← sortElements (i.arg 0) (← t.items)),
  method "with" 2 fun i => do
    let t ← thisTyped i.this
    let x ← toInteger (i.arg 0)
    let x := if x < 0 then x + t.length.toFloat else x
    let v ← elementValue t.element (i.arg 1)
    if x < 0 || x ≥ t.length.toFloat then throwRange "index is out of range"
    t.copyOf ((← t.items).set (clampLength x) v),
  symbolGetter .toStringTag fun i => do
    match ← typed? i.this with
    | some t => return .ofString t.element.name
    | none   => return .undefined]

/-! ### Views -/

def makeView (i : Invocation) : Exec Value := do
  if i.newTarget.isUndefined then throwType "class constructor cannot be invoked without 'new'"
  let (buffer, bytes) ← thisBuffer (i.arg 0)
  let offset ← toIndex (i.arg 1)
  if bytes.size < offset then throwRange "offset is out of range"
  let length ← match i.arg 2 with
    | .undefined => pure (bytes.size - offset)
    | v          => toIndex v
  if bytes.size < offset + length then throwRange "length is out of range"
  return .object (← allocateFor i.newTarget .dataView (.view buffer offset length))

/-- The view that a value is: its buffer, offset and length. -/
def thisView (v : Value) : Exec (Ref × Nat × Nat) := do
  match v with
  | .object r =>
    match ← kindOf r with
    | .view buffer offset length => return (buffer, offset, length)
    | _                          => throwType "value is not a view of bytes"
  | _         => throwType "value is not a view of bytes"

/-- The bytes of an element in the order in which a view reads them. -/
def ordered (isLittle : Bool) (bytes : List UInt8) : List UInt8 :=
  if isLittle then bytes else bytes.reverse

/-- The members of views that read and write elements of a kind. -/
def viewAccess (element : ElementKind) (name : String) : List Builtin := [
  method ("get" ++ name) 1 fun i => do
    let (buffer, offset, length) ← thisView i.this
    let place ← toIndex (i.arg 0)
    let isLittle := (i.arg 1).toBool
    if length < place + element.size then throwRange "offset is out of range"
    return element.read (ordered isLittle (bytesAt (← bytesOf buffer) (offset + place) element.size)),
  method ("set" ++ name) 2 fun i => do
    let (buffer, offset, length) ← thisView i.this
    let place ← toIndex (i.arg 0)
    let v ← elementValue element (i.arg 1)
    let isLittle := (i.arg 2).toBool
    if length < place + element.size then throwRange "offset is out of range"
    setKind buffer
      (.bytes (putBytes (← bytesOf buffer) (offset + place) (ordered isLittle (element.write v))))
    return .undefined]

def viewMethods : List Builtin := [
  getter "buffer" fun i => do return .object (← thisView i.this).1,
  getter "byteLength" fun i => do return .ofNat (← thisView i.this).2.2,
  getter "byteOffset" fun i => do return .ofNat (← thisView i.this).2.1] ++
  viewAccess .int8 "Int8" ++ viewAccess .uint8 "Uint8" ++ viewAccess .int16 "Int16" ++
  viewAccess .uint16 "Uint16" ++ viewAccess .int32 "Int32" ++ viewAccess .uint32 "Uint32" ++
  viewAccess .bigInt64 "BigInt64" ++ viewAccess .bigUint64 "BigUint64" ++
  viewAccess .float32 "Float32" ++ viewAccess .float64 "Float64"

end Stencil.Script.Library
