import Stencil.Sandbox.Encoding
import Stencil.Sandbox.Names

/-!
# Byte buffers of templates

The class `Buffer`, an array of bytes that knows the encodings. `joinBytes` is what `Buffer.concat`
does with the bytes of its arguments.
-/

namespace Stencil.Sandbox

open Script Script.Library

/-! ### Joining -/

/-- The first `room` bytes of chunks one after another, made up to `room` bytes by zeros. The chunk
that does not fit is cut off, and no chunk after it is looked at. -/
def joinBytes : (room : Nat) → List (List UInt8) → List UInt8
  | room, []              => List.replicate room 0
  | room, chunk :: chunks =>
    if room = 0 then []
    else if room < chunk.length then chunk.take room
    else chunk ++ joinBytes (room - chunk.length) chunks

/-- The number of bytes of chunks. -/
def totalLength (chunks : List (List UInt8)) : Nat := chunks.foldl (fun n chunk => n + chunk.length) 0

/-! ### Conversions -/

/-- The encoding that an argument names. -/
def encodingArg (v : Value) : Exec Encoding := do
  if v.isNullish then return .utf8
  let name := (← shownText v).toLossy
  match Encoding.ofName? name with
  | some encoding => return encoding
  | none          => throwType ("Unknown encoding: " ++ name)

/-- The bytes of a text. -/
def bytesOfText (v encoding : Value) : Exec (List UInt8) := do
  let text ← shownText v
  return (← encodingArg encoding).encode text.toChars

/-- The byte of a value that is a number. -/
def byteOf (v : Value) : Exec UInt8 := return UInt8.ofNat (residue 8 (← toNumber v))

/-- A value as a byte. -/
def toByte (v : Value) : Exec UInt8 := do byteOf (← numberOf v)

/-- The bytes of the items of an object with a length. -/
def byteList (v : Value) : Exec (List UInt8) := do
  (← itemsOf (← toObject v)).mapM byteOf

/-- The bytes of the items of a value. -/
def arrayBytes (v : Value) : Exec (List UInt8) := do
  byteList (← callGlobal "Array" "from" [v])

/-- The bytes of the items of a value, which a native function makes. -/
def mappedBytes (toByte : Native) (v : Value) : Exec (List UInt8) := do
  byteList (← callGlobal "Array" "from" [v, ← newNative toByte .empty 1])

/-- A new buffer with these bytes. -/
def newBytes (bytes : List UInt8) : Exec Value := do
  let storage ← allocateKind (.bytes bytes.toArray) .arrayBuffer
  return .object (← allocateKind (.typed .uint8 storage 0 bytes.length) .buffer)

/-- The bytes of a typed array of bytes. -/
def byteItems? (v : Value) : Exec (Option (List UInt8)) := do
  match ← typed? v with
  | some t =>
    match t.element with
    | .uint8        => return some (bytesAt (← bytesOf t.buffer) t.offset t.length)
    | .uint8Clamped => return some (bytesAt (← bytesOf t.buffer) t.offset t.length)
    | _             => return none
  | none   => return none

/-- The bytes of each item of an array, if each is a typed array of bytes. -/
def byteChunks? (v : Value) : Exec (Option (List (List UInt8))) := do
  match v with
  | .object r =>
    match ← kindOf r with
    | .array _ _ _ => return (← (← itemsOf r).mapM byteItems?).mapM id
    | _            => return none
  | _         => return none

/-! ### Making buffers -/

/-- `Buffer.from`. `toByte` makes a value a byte. -/
def bufferFrom (toByte : Native) (i : Invocation) : Exec Value := do
  let source := i.arg 0
  match source with
  | .text _ => newBytes (← bytesOfText source (i.arg 1))
  | _       =>
    if ← isInstance source "ArrayBuffer" then
      let offset := if (i.arg 1).isNullish then .number 0 else i.arg 1
      let length ← if (i.arg 2).isNullish then do
          arithmetic .sub (← getOf source (.ofString "byteLength")) offset
        else pure (i.arg 2)
      let buffer := Value.object Standard.buffer.constructor
      construct buffer [source, offset, length] buffer
    else if (← callGlobal "Array" "isArray" [source]).toBool then
      newBytes (← mappedBytes toByte source)
    else if (← callGlobal "ArrayBuffer" "isView" [source]).toBool then
      newBytes (← mappedBytes toByte source)
    else
      match source with
      | .object r =>
        if ← isWritten r then
          let data ← getNamed r "data"
          newBytes (← byteList (← invoke data "map" [← newNative toByte .empty 1]))
        else unsuitable
      | _ => unsuitable
where
  /-- Whether an object is what the JSON text of a buffer says. -/
  isWritten (r : Ref) : Exec Bool := do
    if (← getNamed r "type").strictEq (.ofString "Buffer") then
      return (← callGlobal "Array" "isArray" [← getNamed r "data"]).toBool
    else return false
  unsuitable : Exec Value :=
    throwNew "TypeError"
      "The first argument must be of type string or an instance of Buffer, ArrayBuffer, or Array"

/-- The number of bytes that an argument asks for. -/
def sizeArg (v : Value) : Exec Nat := do
  let refuse : Exec Nat := do
    throwNew "RangeError" ("The argument 'size' is invalid. Received " ++ (← toText v).toLossy)
  match v with
  | .number x => if x ≥ 0 then toIndex v else refuse
  | _         => refuse

/-- So many bytes of a pattern that is repeated, zeros if it is empty. -/
def repeated (pattern : List UInt8) (size : Nat) : List UInt8 :=
  match pattern with
  | [] => List.replicate size 0
  | _  =>
    let pattern := pattern.toArray
    (List.range size).map fun n => pattern.getD (n % pattern.size) 0

/-- `Buffer.alloc`. -/
def bufferAlloc (i : Invocation) : Exec Value := do
  let size ← sizeArg (i.arg 0)
  if size > maxBytes then throwRange "buffer is too large"
  match i.arg 1 with
  | .text t     => newBytes (repeated (← bytesOfText (.text t) (i.arg 2)) size)
  | .undefined  => newBytes (List.replicate size 0)
  | v           => newBytes (List.replicate size (← toByte v))

/-- Copies the items of a value into a typed array at an offset, as far as there is room; the offset
after them. -/
def copyItem (target : Typed) (offset item : Value) : Exec Value := do
  let room ← arithmetic .sub (.ofNat target.length) offset
  let chunk ← if ← compare .gt (← getOf item (.ofString "length")) room then
      invoke item "subarray" [.number 0, room]
    else pure item
  setItems target chunk offset
  addValues offset (← getOf chunk (.ofString "length"))

/-- Copies the items of what an iterator gives, until there is no more room; `fuel` bounds how often
it is asked. -/
def copyItems (target : Typed) (it : Iteration) : (fuel : Nat) → (offset : Value) → Exec Unit
  | 0, _             => exhaust
  | fuel + 1, offset => do
    match ← it.step with
    | none      => return ()
    | some item =>
      if ← compare .ge offset (.ofNat target.length) then it.close
      else
        match ← attempt (copyItem target offset item) with
        | .ok offset   => copyItems target it fuel offset
        | .error error =>
          it.closeQuietly
          throwValue error

/-- Copies the items of values one after another into a buffer of a size. -/
def concatItems (list : Value) (size : Nat) : Exec Value := do
  let result ← newBytes (List.replicate size 0)
  copyItems (← thisTyped result) (← iterationOf list) turnLimit (.number 0)
  return result

/-- `Buffer.concat`. `adder` adds the length of an item to a sum. -/
def bufferConcat (adder : Native) (i : Invocation) : Exec Value := do
  let list := i.arg 0
  let chunks ← byteChunks? list
  let total ← match i.arg 1, chunks with
    | .undefined, some chunks => pure (.ofNat (totalLength chunks))
    | .null, some chunks      => pure (.ofNat (totalLength chunks))
    | .undefined, none        => reduced list
    | .null, none             => reduced list
    | v, _                    => pure v
  let size ← sizeArg total
  if size > maxBytes then throwRange "buffer is too large"
  match chunks with
  | some chunks => newBytes (joinBytes size chunks)
  | none        => concatItems list size
where
  reduced (list : Value) : Exec Value := do
    invoke list "reduce" [← newNative adder .empty 2, .number 0]

/-! ### Members -/

/-- The functions that members of buffers hand to others: one adds the length of an item to a sum,
one makes a value a byte. -/
def bufferHelpers : List Builtin := [
  method "" 2 fun i => do addValues (i.arg 0) (← getOf (i.arg 1) (.ofString "length")),
  method "" 1 fun i => do return .ofNat (← toByte (i.arg 0)).toNat]

/-- The static members of buffers. -/
def bufferStatics (adder toByte : Native) : List Builtin := [
  method "from" 3 (bufferFrom toByte),
  method "alloc" 3 bufferAlloc,
  method "isBuffer" 1 fun i => do
    return .bool (← instanceOf (i.arg 0) (.object Standard.buffer.constructor)),
  method "byteLength" 2 fun i => do
    match i.arg 0 with
    | .text t => return .ofNat (← bytesOfText (.text t) (i.arg 1)).length
    | v       => getOf v (.ofString "byteLength"),
  method "concat" 2 (bufferConcat adder)]

def bufferMethods : List Builtin := [
  method "toString" 1 fun i => do
    let start := if (i.arg 1).isUndefined then .number 0 else i.arg 1
    let stop ← if (i.arg 2).isUndefined then getOf i.this (.ofString "length") else pure (i.arg 2)
    let bytes ← arrayBytes (← invoke i.this "subarray" [start, stop])
    return .text (.ofChars ((← encodingArg (i.arg 0)).decode bytes)),
  method "toJSON" 0 fun i => do
    let r ← newObject
    createProperty r (.ofString "type") (.ofString "Buffer")
    createProperty r (.ofString "data") (← callGlobal "Array" "from" [i.this])
    return .object r]

end Stencil.Sandbox
