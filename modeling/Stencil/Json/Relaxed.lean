import Stencil.Number.Literal
import Stencil.Script.Utf16
import Stencil.Text.Word

/-!
# Relaxed JSON

The form of JSON that people write by hand: comments, keys without quotes, texts in quotes of either
kind, commas at the end, and more forms of numbers. `Relaxed.parse?` gives the value that a text
writes.

First the whole text is read by its grammar, then the values get their meaning; not every number or
escape that the grammar allows has one.
-/

namespace Stencil.Json.Relaxed

/-- A piece of a text in quotes, or of a key without them. -/
inductive Piece where
  | char (c : Char)
  /-- A character by its number in two digits. -/
  | code (n : Nat)
  /-- A unit by its number in four digits. -/
  | unit (n : Nat)

/-- A value as it is written. -/
inductive Document where
  | null
  | bool (value : Bool)
  | number (text : List Char)
  | text (pieces : List Piece)
  | list (items : List Document)
  | object (members : List (List Piece × Document))

/-! ### Characters -/

def isLineEnd (c : Char) : Bool := c = '\n' || c = '\r' || c = '\u2028' || c = '\u2029'

def isSpace (c : Char) : Bool :=
  let n := c.toNat
  isLineEnd c || n = 9 || n = 11 || n = 12 || n = 32 || n = 0xA0 || n = 0x1680 ||
    (0x2000 ≤ n && n ≤ 0x200A) || n = 0x202F || n = 0x205F || n = 0x3000 || n = 0xFEFF

def isKeyStart (c : Char) : Bool :=
  c = '$' || c = '_' || (if c.toNat < 128 then c.isAlpha else Text.isWord c)

def isKeyPart (c : Char) : Bool :=
  isKeyStart c || c.isDigit || c = '\u200C' || c = '\u200D'

/-- The rest of a text after the end of a comment. -/
def afterComment? : List Char → Option (List Char)
  | '*' :: '/' :: rest => some rest
  | _ :: rest          => afterComment? rest
  | []                 => none

theorem length_of_afterComment? {text rest : List Char} (h : afterComment? text = some rest) :
    rest.length < text.length := by
  fun_induction afterComment? text with
  | case1 =>
    cases h
    simp only [List.length_cons]
    omega
  | case2 _ _ _ ih => exact Nat.lt_succ_of_lt (ih h)
  | case3 => simp at h

/-- A text without space and comments at its front. -/
def skip (text : List Char) : List Char :=
  match text with
  | '/' :: '*' :: rest =>
    match _h : afterComment? rest with
    | some after => skip after
    | none       => text
  | '/' :: '/' :: rest => skip (rest.dropWhile fun c => !isLineEnd c)
  | c :: rest          => if isSpace c then skip rest else text
  | []                 => []
  termination_by text.length
  decreasing_by
    · have := length_of_afterComment? ‹_›
      simp only [List.length_cons]; omega
    · have := (List.dropWhile_suffix (fun c => !isLineEnd c) (l := rest)).length_le
      simp only [List.length_cons]; omega
    · simp

/-! ### Tokens -/

/-- A number of exactly so many hexadecimal digits. -/
def hexDigits? : (count : Nat) → (value : Nat) → List Char → Option (Nat × List Char)
  | 0, value, rest              => some (value, rest)
  | count + 1, value, c :: rest =>
    match Number.digitValue? 16 c with
    | some d => hexDigits? count (16 * value + d) rest
    | none   => none
  | _ + 1, _, []                => none

/-- The character that a letter stands for after a backslash. -/
def namedEscape (c : Char) : Char :=
  match c with
  | 'b' => '\x08'
  | 'f' => '\x0C'
  | 'n' => '\n'
  | 'r' => '\r'
  | 't' => '\t'
  | 'v' => '\x0B'
  | c   => c

/-- The piece that an escape writes, after its backslash. -/
def escape? : List Char → Option (Option Piece × List Char)
  | '\r' :: '\n' :: rest => some (none, rest)
  | '0' :: rest          => some (some (.code 0), rest)
  | 'x' :: rest          => (hexDigits? 2 0 rest).map fun (n, rest) => (some (.code n), rest)
  | 'u' :: rest          => (hexDigits? 4 0 rest).map fun (n, rest) => (some (.unit n), rest)
  | c :: rest            =>
    if isLineEnd c then some (none, rest)
    else if c.isDigit then none
    else some (some (.char (namedEscape c)), rest)
  | []                   => none

/-- The pieces of a text up to its closing quote; `fuel` bounds their number. -/
def pieces? (quote : Char) : (fuel : Nat) → List Char → Option (List Piece × List Char)
  | 0, _                     => none
  | _ + 1, []                => none
  | fuel + 1, '\\' :: rest   => do
    let (piece, rest) ← escape? rest
    let (others, rest) ← pieces? quote fuel rest
    return (piece.toList ++ others, rest)
  | fuel + 1, c :: rest      =>
    if c = quote then some ([], rest)
    else if isLineEnd c then none
    else do
      let (others, rest) ← pieces? quote fuel rest
      return (.char c :: others, rest)

/-- The pieces of a key without quotes; `fuel` bounds their number. -/
def bareKey (isStart : Bool) : (fuel : Nat) → List Char → List Piece × List Char
  | 0, text                      => ([], text)
  | _ + 1, []                    => ([], [])
  | fuel + 1, '\\' :: 'u' :: rest =>
    match hexDigits? 4 0 rest with
    | some (n, rest) =>
      let (others, rest) := bareKey false fuel rest
      (.unit n :: others, rest)
    | none           => ([], '\\' :: 'u' :: rest)
  | fuel + 1, c :: rest          =>
    if if isStart then isKeyStart c else isKeyPart c then
      let (others, rest) := bareKey false fuel rest
      (.char c :: others, rest)
    else ([], c :: rest)

/-- The key at the front of a text. -/
def key? (text : List Char) : Option (List Piece × List Char) :=
  match text with
  | '"' :: rest  => pieces? '"' (rest.length + 1) rest
  | '\'' :: rest => pieces? '\'' (rest.length + 1) rest
  | text         =>
    match bareKey true (text.length + 1) text with
    | ([], _) => none
    | found   => some found

/-- The digits at the front, and the rest. -/
def spanDigits (text : List Char) : List Char × List Char :=
  (text.takeWhile Char.isDigit, text.dropWhile Char.isDigit)

/-- The rest of a text after an exponent, if there is one. -/
def afterExponent (text : List Char) : List Char :=
  match text with
  | e :: rest =>
    if e = 'e' || e = 'E' then
      let digits := match rest with
        | '+' :: digits => digits
        | '-' :: digits => digits
        | digits        => digits
      if (spanDigits digits).1.isEmpty then text else (spanDigits digits).2
    else text
  | [] => []

/-- The rest of a text after a number without its sign. -/
def afterMagnitude? (text : List Char) : Option (List Char) :=
  match text with
  | '0' :: x :: d :: rest =>
    if (x = 'x' || x = 'X') && (Number.digitValue? 16 d).isSome then
      some (rest.dropWhile fun c => (Number.digitValue? 16 c).isSome)
    else decimal text
  | 'I' :: 'n' :: 'f' :: 'i' :: 'n' :: 'i' :: 't' :: 'y' :: rest => some rest
  | 'N' :: 'a' :: 'N' :: rest => some rest
  | text => decimal text
where
  decimal (text : List Char) : Option (List Char) :=
    match text with
    | '.' :: rest =>
      if (spanDigits rest).1.isEmpty then none else some (afterExponent (spanDigits rest).2)
    | c :: rest   =>
      if !c.isDigit then none
      else
        let rest := if c = '0' then rest else (spanDigits rest).2
        match rest with
        | '.' :: rest => some (afterExponent (spanDigits rest).2)
        | rest        => some (afterExponent rest)
    | []          => none

/-- The number at the front of a text, as it is written. -/
def number? (text : List Char) : Option (List Char × List Char) :=
  let magnitude := match text with
    | '+' :: rest => rest
    | '-' :: rest => rest
    | rest        => rest
  (afterMagnitude? magnitude).map fun rest => (text.take (text.length - rest.length), rest)

/-! ### Values -/

mutual

/-- The value at the front of a text; `fuel` bounds how deeply values are nested and how many there
are. -/
def value? : (fuel : Nat) → List Char → Option (Document × List Char)
  | 0, _           => none
  | fuel + 1, text =>
    match text with
    | 'n' :: 'u' :: 'l' :: 'l' :: rest        => some (.null, rest)
    | 't' :: 'r' :: 'u' :: 'e' :: rest        => some (.bool true, rest)
    | 'f' :: 'a' :: 'l' :: 's' :: 'e' :: rest => some (.bool false, rest)
    | '"' :: rest    => (pieces? '"' (rest.length + 1) rest).map fun (p, rest) => (.text p, rest)
    | '\'' :: rest   => (pieces? '\'' (rest.length + 1) rest).map fun (p, rest) => (.text p, rest)
    | '[' :: rest    =>
      match skip rest with
      | ']' :: rest => some (.list [], rest)
      | rest        => (items? fuel rest).map fun (items, rest) => (.list items, rest)
    | '\x7b' :: rest =>
      match skip rest with
      | '\x7d' :: rest => some (.object [], rest)
      | rest           => (members? fuel rest).map fun (members, rest) => (.object members, rest)
    | text           => (number? text).map fun (n, rest) => (.number n, rest)

/-- The items of a list and its end, of which there is at least one. -/
def items? : (fuel : Nat) → List Char → Option (List Document × List Char)
  | 0, _           => none
  | fuel + 1, text => do
    let (item, rest) ← value? fuel text
    match skip rest with
    | ']' :: rest => return ([item], rest)
    | ',' :: rest =>
      match skip rest with
      | ']' :: rest => return ([item], rest)
      | rest        =>
        let (items, rest) ← items? fuel rest
        return (item :: items, rest)
    | _ => none

/-- The members of an object and its end, of which there is at least one. -/
def members? : (fuel : Nat) → List Char → Option (List (List Piece × Document) × List Char)
  | 0, _           => none
  | fuel + 1, text => do
    let (key, rest) ← key? text
    match skip rest with
    | ':' :: rest =>
      let (value, rest) ← value? fuel (skip rest)
      match skip rest with
      | '\x7d' :: rest => return ([(key, value)], rest)
      | ',' :: rest    =>
        match skip rest with
        | '\x7d' :: rest => return ([(key, value)], rest)
        | rest           =>
          let (members, rest) ← members? fuel rest
          return ((key, value) :: members, rest)
      | _ => none
    | _ => none

end

/-- The value that a whole text writes. -/
def parse? (text : List Char) : Option Document := do
  let (value, rest) ← value? (2 * text.length + 2) (skip text)
  if (skip rest).isEmpty then some value else none

/-! ### Meaning -/

/-- The characters of pieces; units that are halves of a pair must have their other half. -/
def chars? : List Piece → Option (List Char)
  | []                => some []
  | .char c :: pieces => (chars? pieces).map (c :: ·)
  | .code n :: pieces => (chars? pieces).map (Char.ofNat n :: ·)
  | .unit n :: pieces =>
    if 0xDC00 ≤ n && n ≤ 0xDFFF then none
    else if 0xD800 ≤ n && n ≤ 0xDBFF then
      match pieces with
      | .unit m :: pieces =>
        if 0xDC00 ≤ m && m ≤ 0xDFFF then
          (chars? pieces).map (Char.ofNat (0x10000 + (n - 0xD800) * 1024 + (m - 0xDC00)) :: ·)
        else none
      | _ => none
    else (chars? pieces).map (Char.ofNat n :: ·)

/-- Whether a number as it is written has a meaning: integers must fit into 64 bits, those in base
16 have no sign and fit into 32, and others must not be too large. -/
def isMeaningful (text : List Char) : Bool :=
  match text with
  | '0' :: x :: digits =>
    if x = 'x' || x = 'X' then
      match Number.readNat? 16 digits with
      | some n => n < 1 <<< 32
      | none   => false
    else isDecimal text
  | text => isDecimal text
where
  isDecimal (text : List Char) : Bool :=
    let unsigned := match text with
      | '+' :: rest => rest
      | '-' :: rest => rest
      | rest        => rest
    if unsigned.any (fun c => c = 'x' || c = 'X') then false
    else if unsigned.head? = some 'I' || unsigned.head? = some 'N' then text.head? ≠ some '+'
    else if unsigned.any (fun c => c = '.' || c = 'e' || c = 'E') then
      match Number.readFloat? unsigned with
      | some x => x.isFinite
      | none   => false
    else
      match Number.readNat? 10 unsigned with
      | some n => if text.head? = some '-' then n ≤ 1 <<< 63 else n < 1 <<< 63
      | none   => false

mutual

/-- Whether everything in a value has a meaning. -/
def Document.isSound : Document → Bool
  | .null           => true
  | .bool _         => true
  | .number text    => isMeaningful text
  | .text pieces    => (chars? pieces).isSome
  | .list items     => areSound items
  | .object members => areSoundMembers members

def areSound : List Document → Bool
  | []            => true
  | item :: items => item.isSound && areSound items

def areSoundMembers : List (List Piece × Document) → Bool
  | []                      => true
  | (key, value) :: members => (chars? key).isSome && value.isSound && areSoundMembers members

end

end Stencil.Json.Relaxed
