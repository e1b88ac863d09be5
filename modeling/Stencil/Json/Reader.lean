import Stencil.Json.Fault
import Stencil.Text.Utf8

/-!
# Reading JSON texts

A reader takes bytes from the front of a text. Where a fault lies is told by the number of bytes that
are left there. Faults of meaning, like a value of the wrong type, first have no place; they get
the place where the reader of the value around them stops.
-/

namespace Stencil.Json

/-- A fault, with the number of bytes left at its place if that is known. -/
structure Flaw where
  fault : Fault
  left : Option Nat

/-- A computation on the bytes that are left. They stay known when it fails. -/
abbrev Reader := ExceptT Flaw (StateM (List UInt8))

namespace Reader

/-! ### Bytes and places -/

/-- The next byte. -/
def peek : Reader (Option UInt8) := return (← get).head?

/-- Leaves a byte behind. -/
def advance : Reader Unit := modify List.tail

/-- Takes the next byte. -/
def next : Reader (Option UInt8) := do
  let b ← peek
  advance
  return b

/-- Fails at the place that was reached. -/
def failHere {α : Type} (fault : Fault) : Reader α := do
  throw ⟨fault, some (← get).length⟩

/-- Fails after the next byte, which is the one that does not fit. -/
def failNext {α : Type} (fault : Fault) : Reader α := do
  throw ⟨fault, some ((← get).length - 1)⟩

/-- Fails at a place that is not known yet. -/
def failSomewhere {α : Type} (fault : Fault) : Reader α := throw ⟨fault, none⟩

/-- Gives a fault without a place the place where the reader stopped. -/
def placed {α : Type} (reader : Reader α) : Reader α := fun bytes =>
  match reader.run bytes with
  | (.error ⟨fault, none⟩, rest) => (.error ⟨fault, some rest.length⟩, rest)
  | answer                       => answer

/-- Reads something and then its end, also when the first failed; its fault comes first. -/
def enclosed {α : Type} (body : Reader α) (finish : Reader Unit) : Reader α := fun bytes =>
  let (answer, rest) := body.run bytes
  let (ending, rest) := finish.run rest
  match answer, ending with
  | .ok a, .ok _        => (.ok a, rest)
  | .ok _, .error flaw  => (.error flaw, rest)
  | .error flaw, _      => (.error flaw, rest)

/-! ### Tokens -/

def isSpace (b : UInt8) : Bool := b = 32 || b = 10 || b = 9 || b = 13

def isDigit (b : UInt8) : Bool := 48 ≤ b && b ≤ 57

/-- The byte of a character. -/
def byte (c : Char) : UInt8 := UInt8.ofNat c.toNat

/-- The next byte that is no space. -/
def peekToken : Reader (Option UInt8) := do
  modify (List.dropWhile isSpace)
  peek

/-- Whether the next byte is this character. -/
def sees (c : Char) : Reader Bool := return (← peek) == some (byte c)

/-- Reads the rest of a word. -/
def word : List Char → Reader Unit
  | []      => return ()
  | c :: cs => do
    match ← peek with
    | none   => failHere .endOfValue
    | some b =>
      advance
      if b = byte c then word cs else failHere .badWord

/-- The digits at the front. -/
def digits : Reader (List UInt8) := fun bytes =>
  (.ok (bytes.takeWhile isDigit), bytes.dropWhile isDigit)

/-! ### Texts -/

/-- The value of a hexadecimal digit. -/
def hexValue? (b : UInt8) : Option Nat :=
  if isDigit b then some (b.toNat - 48)
  else if 65 ≤ b && b ≤ 70 then some (b.toNat - 55)
  else if 97 ≤ b && b ≤ 102 then some (b.toNat - 87)
  else none

/-- Four hexadecimal digits. -/
def hexEscape : Reader Nat := do
  match ← get with
  | a :: b :: c :: d :: rest =>
    set rest
    match hexValue? a, hexValue? b, hexValue? c, hexValue? d with
    | some a, some b, some c, some d => return 4096 * a + 256 * b + 16 * c + d
    | _, _, _, _                     => failHere .badEscape
  | _ =>
    set ([] : List UInt8)
    failHere .endOfText

/-- A byte that must follow within a text. -/
def demandByte : Reader UInt8 := do
  match ← peek with
  | some b => return b
  | none   => failHere .endOfText

/-- The character of an escape by its number; surrogates come in pairs. -/
def numberedEscape : Reader Char := do
  let n ← hexEscape
  if 0xDC00 ≤ n && n ≤ 0xDFFF then failHere .loneSurrogate
  if n < 0xD800 || 0xDBFF < n then return Char.ofNat n
  for c in ['\\', 'u'] do
    let b ← demandByte
    advance
    if b ≠ byte c then failHere .halfSurrogate
  let m ← hexEscape
  if m < 0xDC00 || 0xDFFF < m then failHere .loneSurrogate
  return Char.ofNat (0x10000 + (n - 0xD800) * 1024 + (m - 0xDC00))

/-- The character that stands for another after a backslash. -/
def namedEscape? (b : UInt8) : Option Char :=
  match Char.ofNat b.toNat with
  | '"'  => some '"'
  | '\\' => some '\\'
  | '/'  => some '/'
  | 'b'  => some '\x08'
  | 'f'  => some '\x0C'
  | 'n'  => some '\n'
  | 'r'  => some '\r'
  | 't'  => some '\t'
  | _    => none

/-- The bytes of a text up to its closing quote, backward after others; `fuel` bounds their
number. -/
def textBytes : (fuel : Nat) → List UInt8 → Reader (List UInt8)
  | 0, _           => failHere .endOfText
  | fuel + 1, read => do
    let b ← demandByte
    advance
    if b = byte '"' then return read
    else if b = byte '\\' then
      let e ← demandByte
      advance
      match namedEscape? e with
      | some c => textBytes fuel ((String.utf8EncodeChar c).reverse ++ read)
      | none   =>
        if e = byte 'u' then
          let c ← numberedEscape
          textBytes fuel ((String.utf8EncodeChar c).reverse ++ read)
        else failHere .badEscape
    else if b < 32 then failHere .controlCharacter
    else textBytes fuel (b :: read)

/-- A text after its opening quote. -/
def text : Reader (List Char) := do
  let read ← textBytes ((← get).length + 1) []
  return Text.decodeLossy read.reverse

/-- Passes over a text up to its closing quote; `fuel` bounds the number of bytes. -/
def skipTextBytes : (fuel : Nat) → Reader Unit
  | 0        => failHere .endOfText
  | fuel + 1 => do
    let b ← demandByte
    if b = byte '"' then advance
    else if b = byte '\\' then
      advance
      let e ← demandByte
      advance
      if (namedEscape? e).isSome then skipTextBytes fuel
      else if e = byte 'u' then
        let _ ← hexEscape
        skipTextBytes fuel
      else failHere .badEscape
    else if b < 32 then failHere .controlCharacter
    else
      advance
      skipTextBytes fuel

/-- Passes over a text after its opening quote. -/
def skipText : Reader Unit := do skipTextBytes ((← get).length + 1)

/-! ### Numbers -/

/-- The natural number that digits write. -/
def natOfDigits (digits : List UInt8) : Nat :=
  digits.foldl (fun n b => 10 * n + (b.toNat - 48)) 0

/-- The greatest integer that is kept exactly. -/
def maxExact : Nat := (1 <<< 64) - 1

/-- A number with an exponent; those that are too large are a fault. -/
def scaled (negative : Bool) (significand : Nat) (exponent : Int) : Reader Found := do
  -- the power of two that is next to the number tells whether it is far out of range
  let order : Int := significand.log2 + exponent * 3
  let x ←
    if significand = 0 || order < -4000 then pure 0
    else if 4000 < order then failHere .numberTooLarge
    else pure (Number.ofDecimal ⟨significand, exponent⟩)
  if x.isInf then failHere .numberTooLarge
  return .float (if negative then -x else x)

/-- The exponent of a number after its letter. -/
def exponentOf : Reader Int := do
  let isNegative ← sees '-'
  if isNegative || (← sees '+') then advance
  match ← next with
  | none   => failHere .endOfValue
  | some b =>
    if isDigit b then
      let more ← digits
      let n := natOfDigits (b :: more)
      return if isNegative then -n else n
    else failHere .badNumber

/-- A number whose sign was read. -/
def number (negative : Bool) : Reader Found := do
  match ← next with
  | none   => failHere .endOfValue
  | some b =>
    if !isDigit b then failHere .badNumber
    let more ← digits
    if b = 48 && !more.isEmpty then
      -- the place is that of the second digit
      modify (more ++ ·)
      failNext .badNumber
    let whole := natOfDigits (b :: more)
    if ← sees '.' then
      advance
      let fraction ← digits
      if fraction.isEmpty then
        if (← peek).isSome then failNext .badNumber else failNext .endOfValue
      let significand := natOfDigits (b :: more ++ fraction)
      let places : Int := fraction.length
      if (← sees 'e') || (← sees 'E') then
        advance
        scaled negative significand ((← exponentOf) - places)
      else scaled negative significand (-places)
    else if (← sees 'e') || (← sees 'E') then
      advance
      scaled negative whole (← exponentOf)
    else if whole > maxExact then scaled negative whole 0
    else if !negative then return .integer whole
    else if whole = 0 || whole > 1 <<< 63 then scaled true whole 0
    else return .integer (-whole)

/-- Passes over a number whose sign was read. -/
def skipNumber : Reader Unit := do
  match ← peek with
  | none   => failHere .badNumber
  | some b =>
    advance
    if !isDigit b then failHere .badNumber
    if b = 48 then
      match ← peek with
      | some d => if isDigit d then failNext .badNumber
      | none   => pure ()
    let _ ← digits
    if ← sees '.' then
      advance
      let fraction ← digits
      if fraction.isEmpty then failNext .badNumber
    if (← sees 'e') || (← sees 'E') then
      advance
      if (← sees '+') || (← sees '-') then advance
      match ← peek with
      | none   => failHere .badNumber
      | some b =>
        advance
        if !isDigit b then failHere .badNumber
        let _ ← digits

/-! ### Lists and objects -/

/-- Whether another item of a list follows; `isFirst` tells that none came before. -/
def hasItem (isFirst : Bool) : Reader Bool := do
  match ← peekToken with
  | none   => failNext .endOfList
  | some b =>
    if b = byte ']' then return false
    else if isFirst then return true
    else if b = byte ',' then
      advance
      match ← peekToken with
      | none   => failNext .endOfValue
      | some b => if b = byte ']' then failNext .trailingComma else return true
    else failNext .noListEnd

/-- The end of a list. -/
def listEnd : Reader Unit := do
  match ← peekToken with
  | none   => failNext .endOfList
  | some b =>
    if b = byte ']' then advance
    else if b = byte ',' then
      advance
      if (← peekToken) == some (byte ']') then failNext .trailingComma else failNext .trailingText
    else failNext .trailingText

/-- Whether another member of an object follows. -/
def hasMember (isFirst : Bool) : Reader Bool := do
  match ← peekToken with
  | none   => failNext .endOfObject
  | some b =>
    if b = byte '\x7d' then return false
    else if isFirst then
      if b = byte '"' then return true else failNext .keyNotText
    else if b = byte ',' then
      advance
      match ← peekToken with
      | none   => failNext .endOfValue
      | some b =>
        if b = byte '"' then return true
        else if b = byte '\x7d' then failNext .trailingComma
        else failNext .keyNotText
    else failNext .noObjectEnd

/-- The end of an object. -/
def objectEnd : Reader Unit := do
  match ← peekToken with
  | none   => failNext .endOfObject
  | some b =>
    if b = byte '\x7d' then advance
    else if b = byte ',' then failNext .trailingComma
    else failNext .trailingText

/-- The colon after a key. -/
def colon : Reader Unit := do
  match ← peekToken with
  | none   => failNext .endOfObject
  | some b => if b = byte ':' then advance else failNext .noColon

/-- A key and its colon. -/
def key : Reader (List Char) := do
  advance
  text

/-! ### Values that do not count -/

/-- What a value lies in. -/
inductive Frame where
  | list | object
  deriving DecidableEq

mutual

/-- Passes over a value that lies in frames; `fuel` bounds the number of tokens. -/
def skipIn : (fuel : Nat) → List Frame → Reader Unit
  | 0, _             => failHere .endOfValue
  | fuel + 1, frames => do
    match ← peekToken with
    | none   => failNext .endOfValue
    | some b =>
      let c := Char.ofNat b.toNat
      if c = 'n' then
        advance
        word ['u', 'l', 'l']
        skipAfter fuel true frames
      else if c = 't' then
        advance
        word ['r', 'u', 'e']
        skipAfter fuel true frames
      else if c = 'f' then
        advance
        word ['a', 'l', 's', 'e']
        skipAfter fuel true frames
      else if c = '-' then
        advance
        skipNumber
        skipAfter fuel true frames
      else if isDigit b then
        skipNumber
        skipAfter fuel true frames
      else if c = '"' then
        advance
        skipText
        skipAfter fuel true frames
      else if c = '[' then
        advance
        skipAfter fuel false (.list :: frames)
      else if c = '\x7b' then
        advance
        skipAfter fuel false (.object :: frames)
      else failNext .noValue

/-- Passes over what follows a value in its frames, or over the first value of a frame. -/
def skipAfter : (fuel : Nat) → (afterValue : Bool) → List Frame → Reader Unit
  | 0, _, _                                => failHere .endOfValue
  | _ + 1, _, []                           => return ()
  | fuel + 1, afterValue, frame :: outer => do
    match ← peekToken with
    | none   => failNext (if frame = .list then .endOfList else .endOfObject)
    | some b =>
      if b = byte ',' && afterValue then
        advance
        skipMember fuel (frame :: outer)
      else if b = byte (if frame = .list then ']' else '\x7d') then
        advance
        skipAfter fuel true outer
      else if afterValue then failNext (if frame = .list then .noListEnd else .noObjectEnd)
      else skipMember fuel (frame :: outer)

/-- Passes over a value of the innermost frame, with its key if that is an object. -/
def skipMember : (fuel : Nat) → List Frame → Reader Unit
  | 0, _             => failHere .endOfValue
  | fuel + 1, frames => do
    if frames.head? = some .object then
      match ← peekToken with
      | none   => failNext .endOfObject
      | some b =>
        if b ≠ byte '"' then failNext .keyNotText
        advance
        skipText
        colon
    skipIn fuel frames

end

/-- Passes over a value. -/
def skipValue : Reader Unit := do skipIn (3 * (← get).length + 3) []

/-! ### Values -/

/-- What a value is as far as it counts: a text, a list, or something else. -/
inductive Content where
  | text (value : List Char)
  | list (items : List Content)
  | other

/-- How deeply values may lie in each other. -/
def depthLimit : Nat := 128

mutual

/-- Reads a value; `depth` is how deep it may still be, and `fuel` bounds the number of tokens. -/
def contentAt : (fuel depth : Nat) → Reader Content
  | 0, _            => failHere .endOfValue
  | fuel + 1, depth => placed do
    match ← peekToken with
    | none   => failNext .endOfValue
    | some b =>
      let c := Char.ofNat b.toNat
      if c = 'n' then
        advance
        word ['u', 'l', 'l']
        return .other
      else if c = 't' then
        advance
        word ['r', 'u', 'e']
        return .other
      else if c = 'f' then
        advance
        word ['a', 'l', 's', 'e']
        return .other
      else if c = '-' then
        advance
        let _ ← number true
        return .other
      else if isDigit b then
        let _ ← number false
        return .other
      else if c = '"' then
        advance
        return .text (← text)
      else if c = '[' then
        if depth ≤ 1 then failNext .tooDeep
        advance
        return .list (← enclosed (itemsAt fuel (depth - 1) true) listEnd)
      else if c = '\x7b' then
        if depth ≤ 1 then failNext .tooDeep
        advance
        enclosed (membersAt fuel (depth - 1) true) objectEnd
        return .other
      else failNext .noValue

/-- Reads the items of a list. -/
def itemsAt : (fuel depth : Nat) → (isFirst : Bool) → Reader (List Content)
  | 0, _, _                  => failHere .endOfValue
  | fuel + 1, depth, isFirst => do
    if ← hasItem isFirst then
      let item ← contentAt fuel depth
      return item :: (← itemsAt fuel depth false)
    else return []

/-- Reads the members of an object. -/
def membersAt : (fuel depth : Nat) → (isFirst : Bool) → Reader Unit
  | 0, _, _                  => failHere .endOfValue
  | fuel + 1, depth, isFirst => do
    if ← hasMember isFirst then
      let _ ← key
      colon
      let _ ← contentAt fuel depth
      membersAt fuel depth false

end

/-- Reads a value that may be so deep. -/
def content (depth : Nat) : Reader Content := do contentAt (2 * (← get).length + 2) depth

/-- Fails because the next value is not of the type that is wanted. -/
def wrongType {α : Type} (wanted : String) : Reader α := placed do
  let fail (found : Found) : Reader α := failSomewhere (.wrongType found wanted)
  match ← peek with
  | none   => failNext .noValue
  | some b =>
    match Char.ofNat b.toNat with
    | 'n'    =>
      advance
      word ['u', 'l', 'l']
      fail .null
    | 't'    =>
      advance
      word ['r', 'u', 'e']
      fail (.bool true)
    | 'f'    =>
      advance
      word ['a', 'l', 's', 'e']
      fail (.bool false)
    | '-'    =>
      advance
      fail (← number true)
    | '"'    =>
      advance
      fail (.text (← text))
    | '['    => fail .list
    | '\x7b' => fail .object
    | _      => if isDigit b then fail (← number false) else failNext .noValue

/-- Reads the whole of a text. -/
def whole {α : Type} (reader : Reader α) : Reader α := do
  let a ← reader
  match ← peekToken with
  | none   => return a
  | some _ => failNext .trailingText

/-- What a reader makes of a text, or the wording of its fault. -/
def read {α : Type} (reader : Reader α) (text : List Char) : Except String α :=
  let bytes := Text.utf8Bytes text
  match (reader.run bytes).1 with
  | .ok a                => .ok a
  | .error ⟨fault, left⟩ =>
    let count := bytes.length - left.getD 0
    .error (fault.messageAt (.after (bytes.take count)))

end Reader

end Stencil.Json
