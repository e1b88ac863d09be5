import Stencil.Script.Library.Objects

/-!
# JSON

Reading and writing JSON. What is written is a text of units; a surrogate that stands alone is
written as an escape.
-/

namespace Stencil.Script.Library.Json

/-! ### Writing -/

/-- The units of a text between quotes. -/
def quoteUnits : List UInt16 → List UInt16
  | []          => []
  | u :: rest =>
    if u == 0x22 then 0x5C :: 0x22 :: quoteUnits rest
    else if u == 0x5C then 0x5C :: 0x5C :: quoteUnits rest
    else if u == 0x08 then 0x5C :: 0x62 :: quoteUnits rest
    else if u == 0x0C then 0x5C :: 0x66 :: quoteUnits rest
    else if u == 0x0A then 0x5C :: 0x6E :: quoteUnits rest
    else if u == 0x0D then 0x5C :: 0x72 :: quoteUnits rest
    else if u == 0x09 then 0x5C :: 0x74 :: quoteUnits rest
    else if u < 0x20 then escape u ++ quoteUnits rest
    else if Utf16.isLead u then
      match rest with
      | v :: rest =>
        if Utf16.isTrail v then u :: v :: quoteUnits rest else escape u ++ quoteUnits (v :: rest)
      | []        => escape u
    else if Utf16.isTrail u then escape u ++ quoteUnits rest
    else u :: quoteUnits rest
where
  hex (n : Nat) : UInt16 := UInt16.ofNat (if n < 10 then n + 0x30 else n - 10 + 0x61)
  escape (u : UInt16) : List UInt16 :=
    let n := u.toNat
    [0x5C, 0x75, hex (n / 0x1000), hex (n / 0x100 % 16), hex (n / 0x10 % 16), hex (n % 16)]

/-- A text between quotes. -/
def quote (text : Utf16) : Utf16 :=
  ⟨(0x22 :: quoteUnits text.units.toList ++ [0x22]).toArray⟩

/-- How values are written. -/
structure Style where
  /-- A function that replaces values. -/
  replacer : Value
  /-- The only keys that are written. -/
  keys : Option (List Key)
  gap : Utf16

/-- What a value is replaced with before it is written. -/
def prepare (style : Style) (holder : Ref) (key : Key) (v : Value) : Exec Value := do
  let v ← match v with
    | .object _ => withMember v
    | .big _    => withMember v
    | _         => pure v
  let v ← if style.replacer.isUndefined then pure v
    else call style.replacer (.object holder) [key.toValue, v]
  match v with
  | .object r =>
    match ← kindOf r with
    | .number _  => return .number (← toNumber v)
    | .text _    => return .text (← toText v)
    | .boolean b => return .bool b
    | .big n     => return .big n
    | _          => return v
  | _ => return v
where
  withMember (v : Value) : Exec Value := do
    let f ← getOf v (.ofString "toJSON")
    if ← isCallable f then call f v [key.toValue] else return v

/-- The units that brackets put around parts on lines of their own. -/
def enclose (style : Style) (opening closing : String) (indent : Utf16) (parts : List Utf16) :
    Utf16 :=
  if parts.isEmpty then .ofString (opening ++ closing)
  else if style.gap.isEmpty then
    Utf16.join [.ofString opening, Utf16.intercalate (.ofString ",") parts, .ofString closing]
  else
    let inner := indent ++ style.gap
    let separator := Utf16.ofString ",\n" ++ inner
    Utf16.join [.ofString (opening ++ "\n"), inner, Utf16.intercalate separator parts,
      .ofString "\n", indent, .ofString closing]

/-- The text of a property, none if it has no JSON form; `fuel` bounds how deep values lie. -/
def write (style : Style) : (fuel : Nat) → (stack : List Ref) → (indent : Utf16) → (holder : Ref) →
    Key → Value → Exec (Option Utf16)
  | 0, _, _, _, _, _                             => exhaust
  | fuel + 1, stack, indent, holder, key, v => do
    match ← prepare style holder key v with
    | .null     => return some (.ofString "null")
    | .bool b   => return some (.ofString (if b then "true" else "false"))
    | .text t   => return some (quote t)
    | .number x =>
      return some (.ofString (if x.isNaN || x.isInf then "null" else NumberText.write x))
    | .big _    => throwType "cannot serialize bigint to JSON"
    | .object r =>
      if ← isCallable (.object r) then return none
      if stack.contains r then throwType "cyclic object value"
      let stack := r :: stack
      let inner := indent ++ style.gap
      if ← isArray (.object r) then
        let length ← lengthOf r
        let parts ← (List.range length).mapM fun n => do
          let part ← write style fuel stack inner r (.ofNat n) (← get r (.ofNat n))
          return part.getD (.ofString "null")
        return some (enclose style "[" "]" indent parts)
      else
        let keys ← match style.keys with
          | some keys => pure keys
          | none      =>
            (← ownKeys r).filterM fun key => do
              if !key.isText then return false
              match ← getOwn r key with
              | some p => return p.isEnumerable
              | none   => return false
        let parts ← keys.filterMapM fun key => do
          match ← write style fuel stack inner r key (← get r key) with
          | none      => return none
          | some text =>
            let name := match key.toValue with
              | .text t => t
              | _       => .empty
            let colon := if style.gap.isEmpty then ":" else ": "
            return some (Utf16.join [quote name, .ofString colon, text])
        return some (enclose style "\x7b" "\x7d" indent parts)
    | _         => return none

/-- The keys that a list names. -/
def keyList (r : Ref) : Exec (List Key) := do
  let names ← (← itemsOf r).filterMapM fun v => do
    match v with
    | .text t   => return some (Key.ofText t)
    | .number _ => return some (Key.ofText (← toText v))
    | .object o =>
      match ← kindOf o with
      | .text _   => return some (Key.ofText (← toText v))
      | .number _ => return some (Key.ofText (← toText v))
      | _         => return none
    | _         => return none
  return names.eraseDups

/-- The text by which values are indented. -/
def gapOf (v : Value) : Exec Utf16 := do
  let v ← match v with
    | .object r =>
      match ← kindOf r with
      | .number _ => .number <$> toNumber v
      | .text _   => .text <$> toText v
      | _         => pure v
    | _         => pure v
  match v with
  | .number x => return (Utf16.ofString " ").repeated (min 10 (clampLength (integral x)))
  | .text t   => return t.slice 0 10
  | _         => return .empty

/-- How deep values may lie in each other. -/
def depthLimit : Nat := 100000

/-- The JSON text of a value. -/
def stringify (v replacer space : Value) : Exec Value := do
  let (replacer, keys) ← match replacer with
    | .object r =>
      if ← isCallable replacer then pure (replacer, none)
      else if ← isArray replacer then do pure (.undefined, some (← keyList r))
      else pure (.undefined, none)
    | _ => pure (.undefined, none)
  let style : Style := ⟨replacer, keys, ← gapOf space⟩
  let holder ← newObject
  createProperty holder (.text .empty) v
  match ← write style depthLimit [] .empty holder (.text .empty) v with
  | some text => return .text text
  | none      => return .undefined

/-! ### Reading -/

/-- A JSON value that was read. -/
inductive Data where
  | null
  | bool (value : Bool)
  | number (value : Float)
  | text (value : Utf16)
  | array (items : List Data)
  | object (members : List (Utf16 × Data))

def isBlank (u : UInt16) : Bool := u == 0x20 || u == 0x09 || u == 0x0A || u == 0x0D

def skip (text : List UInt16) : List UInt16 := text.dropWhile isBlank

/-- The value of a hexadecimal digit. -/
def hexValue? (u : UInt16) : Option Nat :=
  if u < 0x80 then Number.digitValue? 16 (Char.ofNat u.toNat) else none

/-- A text after its opening quote, the last unit first. -/
def readText : List UInt16 → (found : List UInt16) → Option (Utf16 × List UInt16)
  | 0x22 :: rest, found => some (⟨found.reverse.toArray⟩, rest)
  | 0x5C :: 0x75 :: a :: b :: c :: d :: rest, found => do
    let n := (((← hexValue? a) * 16 + (← hexValue? b)) * 16 + (← hexValue? c)) * 16 + (← hexValue? d)
    readText rest (UInt16.ofNat n :: found)
  | 0x5C :: u :: rest, found =>
    match u with
    | 0x22 => readText rest (0x22 :: found)
    | 0x5C => readText rest (0x5C :: found)
    | 0x2F => readText rest (0x2F :: found)
    | 0x62 => readText rest (0x08 :: found)
    | 0x66 => readText rest (0x0C :: found)
    | 0x6E => readText rest (0x0A :: found)
    | 0x72 => readText rest (0x0D :: found)
    | 0x74 => readText rest (0x09 :: found)
    | _    => none
  | u :: rest, found => if u < 0x20 then none else readText rest (u :: found)
  | [], _ => none

/-- Whether digits have no leading zero. -/
def isWhole (digits : List Char) : Bool :=
  match digits with
  | []       => false
  | ['0']    => true
  | '0' :: _ => false
  | _        => true

/-- A number. -/
def readNumber (text : List UInt16) : Option (Float × List UInt16) :=
  let units := text.takeWhile fun u =>
    u < 0x80 && (u == 0x2B || u == 0x2D || u == 0x2E || u == 0x45 || u == 0x65 ||
      (0x30 ≤ u && u ≤ 0x39))
  let chars := units.map fun u => Char.ofNat u.toNat
  let rest := text.drop units.length
  let (negative, body) := match chars with
    | '-' :: body => (true, body)
    | body        => (false, body)
  let whole := body.takeWhile Char.isDigit
  let after := body.drop whole.length
  let placesOk := match after with
    | '.' :: more => (more.head?.map Char.isDigit).getD false
    | _           => true
  if !isWhole whole || !placesOk then none
  else match NumberText.spanMagnitude body with
    | some (x, []) => some (if negative then -x else x, rest)
    | _            => none

mutual

/-- A value; `fuel` bounds how deep it goes and how many parts it has. -/
def readValue : (fuel : Nat) → List UInt16 → Option (Data × List UInt16)
  | 0, _           => none
  | fuel + 1, text =>
    match skip text with
    | 0x7B :: rest =>
      match skip rest with
      | 0x7D :: rest => some (.object [], rest)
      | rest         => do
        let (members, rest) ← readMembers fuel rest
        return (.object members, rest)
    | 0x5B :: rest =>
      match skip rest with
      | 0x5D :: rest => some (.array [], rest)
      | rest         => do
        let (items, rest) ← readItems fuel rest
        return (.array items, rest)
    | 0x22 :: rest => do
      let (t, rest) ← readText rest []
      return (.text t, rest)
    | 0x74 :: 0x72 :: 0x75 :: 0x65 :: rest => some (.bool true, rest)
    | 0x66 :: 0x61 :: 0x6C :: 0x73 :: 0x65 :: rest => some (.bool false, rest)
    | 0x6E :: 0x75 :: 0x6C :: 0x6C :: rest => some (.null, rest)
    | text         => do
      let (x, rest) ← readNumber text
      return (.number x, rest)

/-- Items up to the closing bracket. -/
def readItems : (fuel : Nat) → List UInt16 → Option (List Data × List UInt16)
  | 0, _           => none
  | fuel + 1, text => do
    let (item, rest) ← readValue fuel text
    match skip rest with
    | 0x2C :: rest =>
      let (items, rest) ← readItems fuel rest
      return (item :: items, rest)
    | 0x5D :: rest => return ([item], rest)
    | _            => none

/-- Members up to the closing brace. -/
def readMembers : (fuel : Nat) → List UInt16 → Option (List (Utf16 × Data) × List UInt16)
  | 0, _           => none
  | fuel + 1, text => do
    match skip text with
    | 0x22 :: rest =>
      let (name, rest) ← readText rest []
      match skip rest with
      | 0x3A :: rest =>
        let (v, rest) ← readValue fuel rest
        match skip rest with
        | 0x2C :: rest =>
          let (members, rest) ← readMembers fuel rest
          return ((name, v) :: members, rest)
        | 0x7D :: rest => return ([(name, v)], rest)
        | _            => none
      | _            => none
    | _            => none

end

/-- The value that a JSON text writes. -/
def read? (text : Utf16) : Option Data :=
  let units := text.units.toList
  match readValue (2 * units.length + 2) units with
  | some (data, rest) => if (skip rest).isEmpty then some data else none
  | none              => none

mutual

/-- The value that was read, as objects of the machine. -/
def Data.toValue : Data → Exec Value
  | .null           => return .null
  | .bool b         => return .bool b
  | .number x       => return .number x
  | .text t         => return .text t
  | .array items    => do newArray (← itemValues items)
  | .object members => do
    let r ← newObject
    memberValues r members
    return .object r

/-- The values of items. -/
def itemValues : List Data → Exec (List Value)
  | []            => return []
  | item :: items => do
    let v ← item.toValue
    return v :: (← itemValues items)

/-- Gives an object its members. -/
def memberValues (r : Ref) : List (Utf16 × Data) → Exec Unit
  | []                  => return ()
  | (name, v) :: members => do
    createProperty r (.ofText name) (← v.toValue)
    memberValues r members

end

/-- Lets a function replace values from the innermost outward; `fuel` bounds how deep they lie. -/
def revive (reviver : Value) : (fuel : Nat) → (holder : Ref) → Key → Exec Value
  | 0, _, _                  => exhaust
  | fuel + 1, holder, key => do
    let v ← get holder key
    match v with
    | .object r =>
      let keys ← if ← isArray v then do pure ((List.range (← lengthOf r)).map Key.ofNat)
        else (← ownKeys r).filterM fun key => do
          if !key.isText then return false
          match ← getOwn r key with
          | some p => return p.isEnumerable
          | none   => return false
      keys.forM fun key => do
        match ← revive reviver fuel r key with
        | .undefined =>
          let _ ← deleteProperty r key
        | new        =>
          let _ ← define r key (.plain new)
    | _ => pure ()
    call reviver (.object holder) [key.toValue, v]

def members : List Builtin := [
  method "parse" 2 fun i => do
    let text ← toText (i.arg 0)
    match read? text with
    | none      => throwNew .syntaxError "invalid JSON"
    | some data =>
      let v ← data.toValue
      if ← isCallable (i.arg 1) then
        let root ← newObject
        createProperty root (.text .empty) v
        revive (i.arg 1) depthLimit root (.text .empty)
      else return v,
  method "stringify" 3 fun i => stringify (i.arg 0) (i.arg 1) (i.arg 2)]

end Stencil.Script.Library.Json
