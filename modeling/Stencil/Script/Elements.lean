import Stencil.Script.Machine

/-!
# Numbers in bytes

How the elements of typed arrays lie in their buffer.
-/

namespace Stencil.Script

namespace ElementKind

/-- The number of bytes of an element. -/
def size : ElementKind → Nat
  | int8 | uint8 | uint8Clamped   => 1
  | int16 | uint16                => 2
  | int32 | uint32 | float32      => 4
  | bigInt64 | bigUint64 | float64 => 8

/-- Whether the elements are big integers. -/
def isBig : ElementKind → Bool
  | bigInt64 | bigUint64 => true
  | _                    => false

def standard : ElementKind → Standard
  | int8         => .int8Array
  | uint8        => .uint8Array
  | uint8Clamped => .uint8ClampedArray
  | int16        => .int16Array
  | uint16       => .uint16Array
  | int32        => .int32Array
  | uint32       => .uint32Array
  | bigInt64     => .bigInt64Array
  | bigUint64    => .bigUint64Array
  | float32      => .float32Array
  | float64      => .float64Array

/-- The name of the constructor of arrays with such elements. -/
def name : ElementKind → String
  | int8         => "Int8Array"
  | uint8        => "Uint8Array"
  | uint8Clamped => "Uint8ClampedArray"
  | int16        => "Int16Array"
  | uint16       => "Uint16Array"
  | int32        => "Int32Array"
  | uint32       => "Uint32Array"
  | bigInt64     => "BigInt64Array"
  | bigUint64    => "BigUint64Array"
  | float32      => "Float32Array"
  | float64      => "Float64Array"

def ofStandard? : Standard → Option ElementKind
  | .int8Array         => some int8
  | .uint8Array        => some uint8
  | .uint8ClampedArray => some uint8Clamped
  | .int16Array        => some int16
  | .uint16Array       => some uint16
  | .int32Array        => some int32
  | .uint32Array       => some uint32
  | .bigInt64Array     => some bigInt64
  | .bigUint64Array    => some bigUint64
  | .float32Array      => some float32
  | .float64Array      => some float64
  | _                  => none

end ElementKind

/-- The natural number that bytes write, the lowest first. -/
def natOfBytes (bytes : List UInt8) : Nat :=
  bytes.foldr (fun b n => 256 * n + b.toNat) 0

/-- The `count` lowest bytes of a natural number, the lowest first. -/
def bytesOfNat : (count : Nat) → Nat → List UInt8
  | 0, _         => []
  | count + 1, n => UInt8.ofNat (n % 256) :: bytesOfNat count (n / 256)

/-- A residue modulo `2 ^ bits` as an integer with a sign. -/
def signedResidue (bits n : Nat) : Int :=
  if n < 1 <<< (bits - 1) then n else (n : Int) - (1 <<< bits : Nat)

/-- A number without its fraction, modulo `2 ^ bits`. -/
def residue (bits : Nat) (x : Float) : Nat :=
  (Number.truncate x % (1 <<< bits : Nat)).toNat

/-- A number as an integer of 32 bits with a sign. -/
def toInt32 (x : Float) : Int := signedResidue 32 (residue 32 x)

/-- A number as an integer of 32 bits without a sign. -/
def toUint32 (x : Float) : Nat := residue 32 x

/-- A number between 0 and 255, of two equally near integers the even one. -/
def clampByte (x : Float) : Nat :=
  if x.isNaN || x ≤ 0 then 0
  else if x ≥ 255 then 255
  else
    let down := x.floor.toUInt64.toNat
    let rest := x - x.floor
    if rest > 0.5 || (rest == 0.5 && down % 2 == 1) then down + 1 else down

/-- The value of an element. -/
def ElementKind.read (kind : ElementKind) (bytes : List UInt8) : Value :=
  let n := natOfBytes bytes
  match kind with
  | .int8         => .ofInt (signedResidue 8 n)
  | .int16        => .ofInt (signedResidue 16 n)
  | .int32        => .ofInt (signedResidue 32 n)
  | .bigInt64     => .big (signedResidue 64 n)
  | .bigUint64    => .big n
  | .float32      => .number (Float32.ofBits (UInt32.ofNat n)).toFloat
  | .float64      => .number (Float.ofBits (UInt64.ofNat n))
  | _             => .ofNat n

/-- The bytes of an element, from a number or a big integer. -/
def ElementKind.write (kind : ElementKind) (value : Value) : List UInt8 :=
  match value with
  | .big n    => bytesOfNat kind.size (n % (1 <<< (8 * kind.size) : Nat)).toNat
  | .number x =>
    match kind with
    | .float32      => bytesOfNat 4 x.toFloat32.toBits.toNat
    | .float64      => bytesOfNat 8 x.toBits.toNat
    | .uint8Clamped => bytesOfNat 1 (clampByte x)
    | _             => bytesOfNat kind.size (residue (8 * kind.size) x)
  | _         => bytesOfNat kind.size 0

/-- The bytes from an offset on. -/
def bytesAt (bytes : Array UInt8) (offset count : Nat) : List UInt8 :=
  (List.range count).map fun i => bytes.getD (offset + i) 0

/-- Puts bytes at an offset. -/
def putBytes (bytes : Array UInt8) (offset : Nat) (new : List UInt8) : Array UInt8 :=
  (new.foldl (fun (bytes, i) b => (bytes.setIfInBounds i b, i + 1)) (bytes, offset)).1

end Stencil.Script
