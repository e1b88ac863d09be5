import Stencil.Number.Literal
import Stencil.Script.Token

/-!
# Regular expressions

The syntax of regular expressions. `Pattern.read?` reads a pattern and its flags.
-/

namespace Stencil.Script.Regex

/-! ### Patterns -/

/-- A class of characters that an escape names. -/
inductive NamedClass where
  | digit | space | word
  deriving DecidableEq

/-- One item of a class in brackets. -/
inductive ClassItem where
  | range (low high : Nat)
  | named (negated : Bool) (name : NamedClass)

inductive Node where
  | empty
  | char (c : Nat)
  | any
  | set (negated : Bool) (items : List ClassItem)
  | both (first second : Node)
  | either (first second : Node)
  | group (index : Nat) (inner : Node)
  /-- The groups from `firstGroup` on, `groups` of them, lie inside and are unset on each turn. -/
  | repeat (least : Nat) (most : Option Nat) (isGreedy : Bool) (firstGroup groups : Nat)
    (inner : Node)
  | start
  | stop
  | boundary (negated : Bool)
  | look (ahead negated : Bool) (inner : Node)
  | back (index : Nat)
  /-- What the group of a name matched. -/
  | backNamed (name : List Nat)

/-- What the letters after a pattern ask for. -/
structure Flags where
  indices : Bool
  global : Bool
  ignoreCase : Bool
  multiline : Bool
  dotAll : Bool
  unicode : Bool
  unicodeSets : Bool
  sticky : Bool

structure Pattern where
  node : Node
  /-- The number of groups, not counting the whole match. -/
  groups : Nat
  names : List (Utf16 × Nat)
  flags : Flags

/-- The flags that letters stand for, each at most once. -/
def Flags.read? (text : Utf16) : Option Flags :=
  let letters := text.toChars
  let isDistinct := letters.all fun c => letters.count c = 1
  if isDistinct && letters.all (fun c => "dgimsuvy".toList.contains c) &&
      !(letters.contains 'u' && letters.contains 'v') then
    some {
      indices     := letters.contains 'd'
      global      := letters.contains 'g'
      ignoreCase  := letters.contains 'i'
      multiline   := letters.contains 'm'
      dotAll      := letters.contains 's'
      unicode     := letters.contains 'u' || letters.contains 'v'
      unicodeSets := letters.contains 'v'
      sticky      := letters.contains 'y' }
  else none

/-! ### Reading -/

/-- What a reader of patterns knows of the whole pattern. -/
structure Scope where
  unicode : Bool
  groups : Nat
  hasNames : Bool

/-- Where a reader of patterns stands. -/
structure Reading where
  rest : List Nat
  /-- How many groups were opened. -/
  opened : Nat
  names : List (List Nat × Nat)
  /-- The names that were referred to. -/
  referred : List (List Nat)

abbrev Reader (α : Type) := Scope → Reading → Option (α × Reading)

def code (c : Char) : Nat := c.toNat

/-- How many groups a pattern opens, and whether any has a name. -/
def countGroups : (inClass : Bool) → List Nat → Nat × Bool
  | _, []              => (0, false)
  | inClass, c :: rest =>
    if c = code '\\' then countGroups inClass (rest.drop 1)
    else if inClass then countGroups (c ≠ code ']') rest
    else if c = code '[' then countGroups true rest
    else if c = code '(' then
      let (n, named) := countGroups false rest
      match rest with
      | 63 :: 60 :: d :: _ =>
        if d = code '=' ∨ d = code '!' then (n, named) else (n + 1, true)
      | 63 :: _            => (n, named)
      | _                  => (n + 1, named)
    else countGroups false rest
termination_by _ rest => rest.length
decreasing_by all_goals simp_wf; try omega

/-- The value of a hexadecimal digit. -/
def hexValue? (n : Nat) : Option Nat :=
  if n < 0x80 then Number.digitValue? 16 (Char.ofNat n) else none

/-- Exactly `count` hexadecimal digits. -/
def readHex? : (count : Nat) → (value : Nat) → List Nat → Option (Nat × List Nat)
  | 0, value, rest             => some (value, rest)
  | count + 1, value, c :: rest =>
    match hexValue? c with
    | some d => readHex? count (16 * value + d) rest
    | none   => none
  | _ + 1, _, []               => none

/-- The digits of a code point up to a closing brace. -/
def readBraced? : (value : Nat) → (any : Bool) → List Nat → Option (Nat × List Nat)
  | value, any, c :: rest =>
    if c = 0x7D then (if any then some (value, rest) else none)
    else match hexValue? c with
      | some d => if 16 * value + d ≤ 0x10FFFF then readBraced? (16 * value + d) true rest else none
      | none   => none
  | _, _, []              => none

/-- A decimal number at the front of a text. -/
def readDecimal? (text : List Nat) : Option (Nat × List Nat) :=
  let digits := text.takeWhile fun c => code '0' ≤ c && c ≤ code '9'
  if digits.isEmpty then none
  else some (Number.ofDigits 10 (digits.map (· - code '0')), text.drop digits.length)

/-- The code point that an escape after `\u` stands for. -/
def readUnicode? (unicode : Bool) (text : List Nat) : Option (Nat × List Nat) :=
  match text with
  | 0x7B :: rest => if unicode then readBraced? 0 false rest else none
  | _            => do
    let (lead, rest) ← readHex? 4 0 text
    if unicode ∧ 0xD800 ≤ lead ∧ lead ≤ 0xDBFF then
      match rest with
      | 0x5C :: 0x75 :: more =>
        match readHex? 4 0 more with
        | some (trail, more) =>
          if 0xDC00 ≤ trail ∧ trail ≤ 0xDFFF then
            some (0x10000 + (lead - 0xD800) * 0x400 + (trail - 0xDC00), more)
          else some (lead, rest)
        | none => some (lead, rest)
      | _ => some (lead, rest)
    else some (lead, rest)

/-- Up to `count` octal digits of a value below 256. -/
def readOctal : (count value : Nat) → List Nat → Nat × List Nat
  | 0, value, rest              => (value, rest)
  | count + 1, value, c :: rest =>
    if code '0' ≤ c ∧ c ≤ code '7' ∧ 8 * value + (c - code '0') < 256 then
      readOctal count (8 * value + (c - code '0')) rest
    else (value, c :: rest)
  | _ + 1, value, []            => (value, [])

/-- The characters that lose their meaning after a backslash. -/
def isSyntaxCharacter (c : Nat) : Bool :=
  c < 0x80 && "^$\\.*+?()[]\x7b\x7d|/".toList.contains (Char.ofNat c)

/-- The character that an escape stands for, in a class or outside. -/
def readCharEscape? (unicode inClass : Bool) (text : List Nat) : Option (Nat × List Nat) :=
  match text with
  | []        => none
  | c :: rest =>
    let ch := if c < 0x80 then Char.ofNat c else '\x00'
    match ch with
    | 't' => some (9, rest)
    | 'n' => some (10, rest)
    | 'v' => some (11, rest)
    | 'f' => some (12, rest)
    | 'r' => some (13, rest)
    | 'c' =>
      match rest with
      | d :: more =>
        if d < 0x80 && (Char.ofNat d).isAlpha then some (d % 32, more)
        else if unicode then none else some (0x5C, text)
      | []        => if unicode then none else some (0x5C, text)
    | 'x' =>
      match readHex? 2 0 rest with
      | some r => some r
      | none   => if unicode then none else some (c, rest)
    | 'u' =>
      match readUnicode? unicode rest with
      | some r => some r
      | none   => if unicode then none else some (c, rest)
    | _   =>
      if code '0' ≤ c ∧ c ≤ code '9' then
        let next := rest.head?.getD 0
        if c = code '0' ∧ ¬(code '0' ≤ next ∧ next ≤ code '9') then some (0, rest)
        else if unicode then none
        else if c ≤ code '7' then some (readOctal 3 0 text)
        else some (c, rest)
      else if unicode then
        if isSyntaxCharacter c || (inClass && c = code '-') then some (c, rest) else none
      else some (c, rest)

/-- The class that a letter after a backslash names. -/
def namedClass? (c : Nat) : Option (Bool × NamedClass) :=
  if c = code 'd' then some (false, .digit) else if c = code 'D' then some (true, .digit)
  else if c = code 's' then some (false, .space) else if c = code 'S' then some (true, .space)
  else if c = code 'w' then some (false, .word) else if c = code 'W' then some (true, .word)
  else none

/-- One end of a range, or a named class. -/
def readClassAtom? (unicode : Bool) (text : List Nat) :
    Option ((Nat ⊕ ClassItem) × List Nat) :=
  match text with
  | 0x5C :: c :: rest =>
    match namedClass? c with
    | some (negated, name) => some (.inr (.named negated name), rest)
    | none =>
      if c = code 'b' then some (.inl 8, rest)
      else (readCharEscape? unicode true (c :: rest)).map fun (n, rest) => (.inl n, rest)
  | [0x5C]            => none
  | c :: rest         => some (.inl c, rest)
  | []                => none

/-- The items of a class up to its bracket; `fuel` bounds their number. -/
def readClass? (unicode : Bool) : (fuel : Nat) → List Nat → Option (List ClassItem × List Nat)
  | 0, _           => none
  | fuel + 1, text =>
    match text with
    | []           => none
    | 0x5D :: rest => some ([], rest)
    | _            => do
      let (first, rest) ← readClassAtom? unicode text
      match rest with
      | 0x2D :: 0x5D :: _ =>
        let (items, rest) ← readClass? unicode fuel rest
        return (single first :: items, rest)
      | 0x2D :: after     =>
        let (last, after) ← readClassAtom? unicode after
        match first, last with
        | .inl low, .inl high =>
          if high < low then none
          let (items, rest) ← readClass? unicode fuel after
          return (.range low high :: items, rest)
        | _, _                =>
          if unicode then none
          let (items, rest) ← readClass? unicode fuel after
          return (single first :: .range 0x2D 0x2D :: single last :: items, rest)
      | _                 =>
        let (items, rest) ← readClass? unicode fuel rest
        return (single first :: items, rest)
where
  single : Nat ⊕ ClassItem → ClassItem
    | .inl c    => .range c c
    | .inr item => item

/-- The bounds that braces write, if they do. -/
def readBounds? (text : List Nat) : Option ((Nat × Option Nat) × List Nat) := do
  let (least, rest) ← readDecimal? text
  match rest with
  | 0x7D :: rest         => return ((least, some least), rest)
  | 0x2C :: 0x7D :: rest => return ((least, none), rest)
  | 0x2C :: rest         =>
    let (most, rest) ← readDecimal? rest
    match rest with
    | 0x7D :: rest => return ((least, some most), rest)
    | _            => none
  | _                    => none

/-- How often an atom is repeated, if a quantifier follows it. -/
def readQuantifier? (unicode : Bool) (text : List Nat) :
    Option (Option (Nat × Option Nat) × List Nat) :=
  match text with
  | 0x2A :: rest => some (some (0, none), rest)
  | 0x2B :: rest => some (some (1, none), rest)
  | 0x3F :: rest => some (some (0, some 1), rest)
  | 0x7B :: rest =>
    match readBounds? rest with
    | some ((least, most), rest) =>
      if (most.map fun m => decide (m < least)).getD false then none
      else some (some (least, most), rest)
    | none                       => if unicode then none else some (none, text)
  | _            => some (none, text)

/-- The name of a group up to its closing angle. -/
def readGroupName? (text : List Nat) : Option (List Nat × List Nat) :=
  let name := text.takeWhile (· ≠ code '>')
  let isName := match name with
    | []      => false
    | c :: cs => Token.isNameStart (Char.ofNat c) && cs.all fun c => Token.isNamePart (Char.ofNat c)
  match text.drop name.length with
  | _ :: rest => if isName then some (name, rest) else none
  | []        => none

/-- A quantifier after an atom that began when `opened` groups were open. -/
def quantified (scope : Scope) (atom : Node) (opened : Nat) (canRepeat : Bool) (r : Reading) :
    Option (Node × Reading) := do
  let (bounds, rest) ← readQuantifier? scope.unicode r.rest
  match bounds with
  | none               => return (atom, r)
  | some (least, most) =>
    if !canRepeat then none
    let (isGreedy, rest) := match rest with
      | 0x3F :: rest => (false, rest)
      | rest         => (true, rest)
    return (.repeat least most isGreedy (opened + 1) (r.opened - opened) atom, { r with rest })

/-- The group that follows a backslash and a digit, and the reference to a name. -/
def readBackslash (scope : Scope) (r : Reading) : Option (Node × Reading) :=
  match r.rest with
  | []        => none
  | c :: rest =>
    match namedClass? c with
    | some (negated, name) => some (.set false [.named negated name], { r with rest })
    | none                 =>
      if c = code 'k' ∧ (scope.unicode ∨ scope.hasNames) then
        match rest with
        | 0x3C :: rest =>
          match readGroupName? rest with
          | some (name, rest) =>
            some (.backNamed name, { r with rest, referred := name :: r.referred })
          | none              => none
        | _            => none
      else if code '1' ≤ c ∧ c ≤ code '9' then
        match readDecimal? r.rest with
        | some (n, after) =>
          if n ≤ scope.groups then some (.back n, { r with rest := after })
          else if scope.unicode then none
          else (readCharEscape? false false r.rest).map fun (n, rest) => (.char n, { r with rest })
        | none            => none
      else (readCharEscape? scope.unicode false r.rest).map fun (n, rest) =>
        (.char n, { r with rest })

mutual

/-- Alternatives with bars between them. -/
def readEither : (fuel : Nat) → Reader Node
  | 0, _, _            => none
  | fuel + 1, scope, r => do
    let (first, r) ← readTerms fuel scope r
    match r.rest with
    | 0x7C :: rest =>
      let (second, r) ← readEither fuel scope { r with rest }
      return (.either first second, r)
    | _            => return (first, r)

/-- Terms one after another. -/
def readTerms : (fuel : Nat) → Reader Node
  | 0, _, _            => none
  | fuel + 1, scope, r =>
    match r.rest with
    | []        => some (.empty, r)
    | 0x7C :: _ => some (.empty, r)
    | 0x29 :: _ => some (.empty, r)
    | _         => do
      let (first, r) ← readTerm fuel scope r
      let (rest, r) ← readTerms fuel scope r
      return (.both first rest, r)

/-- One term with its quantifier. -/
def readTerm : (fuel : Nat) → Reader Node
  | 0, _, _            => none
  | fuel + 1, scope, r =>
    match r.rest with
    | []           => none
    | 0x5E :: rest => some (.start, { r with rest })
    | 0x24 :: rest => some (.stop, { r with rest })
    | 0x28 :: 0x3F :: 0x3D :: rest => look fuel scope r true false (!scope.unicode) rest
    | 0x28 :: 0x3F :: 0x21 :: rest => look fuel scope r true true (!scope.unicode) rest
    | 0x28 :: 0x3F :: 0x3C :: 0x3D :: rest => look fuel scope r false false false rest
    | 0x28 :: 0x3F :: 0x3C :: 0x21 :: rest => look fuel scope r false true false rest
    | 0x28 :: 0x3F :: 0x3A :: rest => do
      let (inner, after) ← readGroup fuel scope { r with rest }
      quantified scope inner r.opened true after
    | 0x28 :: 0x3F :: 0x3C :: rest => do
      let (name, rest) ← readGroupName? rest
      if (r.names.lookup name).isSome then none
      let index := r.opened + 1
      let (inner, after) ← readGroup fuel scope
        { r with rest, opened := index, names := (name, index) :: r.names }
      quantified scope (.group index inner) r.opened true after
    | 0x28 :: 0x3F :: _ => none
    | 0x28 :: rest => do
      let index := r.opened + 1
      let (inner, after) ← readGroup fuel scope { r with rest, opened := index }
      quantified scope (.group index inner) r.opened true after
    | 0x2E :: rest => quantified scope .any r.opened true { r with rest }
    | 0x5B :: 0x5E :: rest => do
      let (items, rest) ← readClass? scope.unicode (rest.length + 1) rest
      quantified scope (.set true items) r.opened true { r with rest }
    | 0x5B :: rest => do
      let (items, rest) ← readClass? scope.unicode (rest.length + 1) rest
      quantified scope (.set false items) r.opened true { r with rest }
    | 0x5C :: 0x62 :: rest => some (.boundary false, { r with rest })
    | 0x5C :: 0x42 :: rest => some (.boundary true, { r with rest })
    | 0x5C :: rest => do
      let (atom, after) ← readBackslash scope { r with rest }
      quantified scope atom r.opened true after
    | c :: rest    =>
      if c = code '*' ∨ c = code '+' ∨ c = code '?' then none
      else if scope.unicode ∧ (c = 0x7B ∨ c = 0x7D ∨ c = code ']') then none
      else if c = 0x7B ∧ (readBounds? rest).isSome then none
      else quantified scope (.char c) r.opened true { r with rest }

/-- The inside of a group and its closing parenthesis. -/
def readGroup : (fuel : Nat) → Reader Node
  | 0, _, _            => none
  | fuel + 1, scope, r => do
    let (inner, r) ← readEither fuel scope r
    match r.rest with
    | 0x29 :: rest => return (inner, { r with rest })
    | _            => none

/-- A look ahead or behind. -/
def look : (fuel : Nat) → (scope : Scope) → (r : Reading) → (ahead negated canRepeat : Bool) →
    List Nat → Option (Node × Reading)
  | 0, _, _, _, _, _, _                                     => none
  | fuel + 1, scope, r, ahead, negated, canRepeat, rest => do
    let (inner, after) ← readGroup fuel scope { r with rest }
    quantified scope (.look ahead negated inner) r.opened canRepeat after

end

/-- Replaces references by name with references by number. -/
def Node.resolve (names : List (List Nat × Nat)) : Node → Node
  | .both a b     => .both (a.resolve names) (b.resolve names)
  | .either a b   => .either (a.resolve names) (b.resolve names)
  | .group i n    => .group i (n.resolve names)
  | .repeat least most isGreedy first count n =>
    .repeat least most isGreedy first count (n.resolve names)
  | .look a neg n => .look a neg (n.resolve names)
  | .backNamed name => .back ((names.lookup name).getD 0)
  | n             => n

/-- The pattern that a text and its flags write. -/
def Pattern.read? (source flags : Utf16) : Option Pattern := do
  let flags ← Flags.read? flags
  let text := if flags.unicode then source.codePoints else source.units.toList.map UInt16.toNat
  let (groups, hasNames) := countGroups false text
  let fuel := 8 * text.length + 16
  let (node, r) ← readEither fuel ⟨flags.unicode, groups, hasNames⟩ ⟨text, 0, [], []⟩
  if !r.rest.isEmpty then none
  if !r.referred.all fun name => (r.names.lookup name).isSome then none
  return {
    node   := node.resolve r.names
    groups := groups
    names  := (r.names.map fun (name, i) => (Utf16.ofCodePoints name, i)).reverse
    flags  := flags }

end Stencil.Script.Regex
