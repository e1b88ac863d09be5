import Stencil.Script.NumberText
import Stencil.Script.Utf16

/-!
# Values

The values that scripts compute with, and the keys and properties of objects. An object is a
reference into the memory of a machine.
-/

namespace Stencil.Script

/-- A reference to an object. -/
abbrev Ref := Nat

inductive Value where
  | undefined
  | null
  | bool (value : Bool)
  | number (value : Float)
  | text (value : Utf16)
  | symbol (id : Nat)
  | big (value : Int)
  | object (ref : Ref)
  /-- A private name of a class. No expression has this value. -/
  | hidden (id : Nat)
  deriving Inhabited

/-- The symbols that the language itself looks for. -/
inductive WellKnown where
  | iterator | asyncIterator | hasInstance | toPrimitive | toStringTag | species
  | isConcatSpreadable | unscopables | matching | matchingAll | replacing | searching | splitting
  deriving DecidableEq

namespace WellKnown

def all : List WellKnown :=
  [iterator, asyncIterator, hasInstance, toPrimitive, toStringTag, species, isConcatSpreadable,
   unscopables, matching, matchingAll, replacing, searching, splitting]

/-- The number of a symbol. -/
def id (w : WellKnown) : Nat := w.ctorIdx

/-- The name under which scripts find a symbol. -/
def name : WellKnown → String
  | iterator           => "iterator"
  | asyncIterator      => "asyncIterator"
  | hasInstance        => "hasInstance"
  | toPrimitive        => "toPrimitive"
  | toStringTag        => "toStringTag"
  | species            => "species"
  | isConcatSpreadable => "isConcatSpreadable"
  | unscopables        => "unscopables"
  | matching           => "match"
  | matchingAll        => "matchAll"
  | replacing          => "replace"
  | searching          => "search"
  | splitting          => "split"

end WellKnown

/-! ### Keys -/

/-- The key of a property. A text that writes a natural number below `2 ^ 32 - 1` is an index. -/
inductive Key where
  | index (i : Nat)
  | text (t : Utf16)
  | symbol (id : Nat)
  | hidden (id : Nat)
  deriving DecidableEq

namespace Key

/-- The natural number that decimal digits write, if they have no leading zero. -/
def indexOf? (text : Utf16) : Option Nat :=
  let units := text.units
  if units.isEmpty || units.size > 10 then none
  else if units.all fun u => 0x30 ≤ u && u ≤ 0x39 then
    if units[0]? == some 0x30 && units.size > 1 then none
    else
      let n := units.foldl (fun n u => 10 * n + (u.toNat - 0x30)) 0
      if n < (1 <<< 32) - 1 then some n else none
  else none

/-- The key that a text is. -/
def ofText (text : Utf16) : Key :=
  match indexOf? text with
  | some i => .index i
  | none   => .text text

/-- The key that a string is. -/
def ofString (text : String) : Key := ofText (.ofString text)

/-- The key of a natural number. -/
def ofNat (n : Nat) : Key :=
  if n < (1 <<< 32) - 1 then .index n else .text (.ofString (toString n))

/-- The key as a value. -/
def toValue : Key → Value
  | .index i   => .text (.ofString (toString i))
  | .text t    => .text t
  | .symbol id => .symbol id
  | .hidden id => .hidden id

def ofSymbol (w : WellKnown) : Key := .symbol w.id

/-- Whether the key is a text, an index included. -/
def isText : Key → Bool
  | .index _ => true
  | .text _  => true
  | _        => false

def isSymbol : Key → Bool
  | .symbol _ => true
  | _         => false

end Key

/-! ### Properties -/

/-- What a property holds. -/
inductive Slot where
  | data (value : Value) (isWritable : Bool)
  | accessor (get set : Value)

structure Property where
  slot : Slot
  isEnumerable : Bool
  isConfigurable : Bool

namespace Property

/-- A property like those that assignments make. -/
def plain (value : Value) : Property := ⟨.data value true, true, true⟩

/-- A property that loops over keys do not find. -/
def hidden (value : Value) : Property := ⟨.data value true, false, true⟩

/-- A property that cannot be changed. -/
def fixed (value : Value) : Property := ⟨.data value false, false, false⟩

/-- A property that can only be redefined. -/
def readOnly (value : Value) : Property := ⟨.data value false, false, true⟩

end Property

/-- What is asked for when a property is defined; parts that are left out stay as they are. -/
structure Descriptor where
  value : Option Value := none
  isWritable : Option Bool := none
  get : Option Value := none
  set : Option Value := none
  isEnumerable : Option Bool := none
  isConfigurable : Option Bool := none

namespace Descriptor

/-- Asks for a data property with all its parts. -/
def data (value : Value) (isWritable isEnumerable isConfigurable : Bool) : Descriptor where
  value := some value
  isWritable := some isWritable
  isEnumerable := some isEnumerable
  isConfigurable := some isConfigurable

/-- Asks for a property like those that assignments make. -/
def plain (value : Value) : Descriptor := data value true true true

/-- Asks for exactly this property. -/
def ofProperty (p : Property) : Descriptor :=
  match p.slot with
  | .data value isWritable => data value isWritable p.isEnumerable p.isConfigurable
  | .accessor get set      => {
      get := some get, set := some set,
      isEnumerable := some p.isEnumerable, isConfigurable := some p.isConfigurable }

def isAccessor (d : Descriptor) : Bool := d.get.isSome || d.set.isSome

def isData (d : Descriptor) : Bool := d.value.isSome || d.isWritable.isSome

/-- The property that a description makes where there was none. -/
def toProperty (d : Descriptor) : Property where
  slot :=
    if d.isAccessor then .accessor (d.get.getD .undefined) (d.set.getD .undefined)
    else .data (d.value.getD .undefined) (d.isWritable.getD false)
  isEnumerable := d.isEnumerable.getD false
  isConfigurable := d.isConfigurable.getD false

/-- What a description makes of a property that may be changed like this. -/
def update (d : Descriptor) (p : Property) : Property where
  slot :=
    if d.isAccessor then
      match p.slot with
      | .accessor get set => .accessor (d.get.getD get) (d.set.getD set)
      | .data _ _         => .accessor (d.get.getD .undefined) (d.set.getD .undefined)
    else if d.isData then
      match p.slot with
      | .data value isWritable => .data (d.value.getD value) (d.isWritable.getD isWritable)
      | .accessor _ _          => .data (d.value.getD .undefined) (d.isWritable.getD false)
    else p.slot
  isEnumerable := d.isEnumerable.getD p.isEnumerable
  isConfigurable := d.isConfigurable.getD p.isConfigurable

end Descriptor

/-! ### Simple observations -/

namespace Value

def ofBool (b : Bool) : Value := .bool b

def ofNat (n : Nat) : Value := .number (Number.ofRatio n 1)

def ofInt (n : Int) : Value := .number (Number.ofInt n)

def ofString (text : String) : Value := .text (.ofString text)

/-- The object that an optional reference leads to, or null. -/
def ofRef? : Option Ref → Value
  | some r => .object r
  | none   => .null

def isUndefined : Value → Bool
  | undefined => true
  | _         => false

/-- Whether a value is `undefined` or `null`. -/
def isNullish : Value → Bool
  | undefined => true
  | null      => true
  | _         => false

def isObject : Value → Bool
  | object _ => true
  | _        => false

/-- The object that a value is. -/
def ref? : Value → Option Ref
  | object r => some r
  | _        => none

/-- Whether a value counts as true. -/
def toBool : Value → Bool
  | undefined => false
  | null      => false
  | bool b    => b
  | number x  => !(x == 0 || x.isNaN)
  | text t    => !t.isEmpty
  | big n     => n != 0
  | _         => true

/-- Whether two values are strictly equal. -/
def strictEq : Value → Value → Bool
  | undefined, undefined => true
  | null, null           => true
  | bool a, bool b       => a == b
  | number x, number y   => x == y
  | text s, text t       => s == t
  | symbol a, symbol b   => a == b
  | big m, big n         => m == n
  | object a, object b   => a == b
  | _, _                 => false

/-- Whether two values are the same, all numbers that are none included. -/
def sameValueZero (a b : Value) : Bool :=
  match a, b with
  | number x, number y => x == y || (x.isNaN && y.isNaN)
  | _, _               => strictEq a b

/-- Whether two values cannot be told apart. -/
def sameValue (a b : Value) : Bool :=
  match a, b with
  | number x, number y =>
    (x.isNaN && y.isNaN) || (x == y && Number.isNegative x == Number.isNegative y)
  | _, _               => strictEq a b

end Value

end Stencil.Script
