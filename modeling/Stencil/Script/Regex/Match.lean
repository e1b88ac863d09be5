import Stencil.Script.Regex.Pattern
import Stencil.Text.Case

/-!
# Matching regular expressions

`Pattern.matchAt` finds the match of a pattern that begins at an offset, trying the alternatives in
the order in which they are written.
-/

namespace Stencil.Script.Regex

/-- Where a match stands: the offset, and what the groups hold. -/
structure Cursor where
  offset : Nat
  captures : Array (Option (Nat × Nat))

/-- The text and the flags of a match. -/
structure Env where
  text : Utf16
  flags : Flags

/-! ### Characters -/

/-- The character by which letters are compared when their case does not count. -/
def Env.fold (e : Env) (c : Nat) : Nat :=
  if !e.flags.ignoreCase then c
  else if e.flags.unicode then Text.toLowerSimple (Text.toUpperSimple c)
  else
    match Text.toUpper c with
    | [u] => if 0x80 ≤ c ∧ u < 0x80 then c else u
    | _   => c

def isDigit (c : Nat) : Bool := 0x30 ≤ c && c ≤ 0x39

def isWordCharacter (c : Nat) : Bool :=
  isDigit c || (0x41 ≤ c && c ≤ 0x5A) || (0x61 ≤ c && c ≤ 0x7A) || c == 0x5F

def isSpaceCharacter (c : Nat) : Bool :=
  !Utf16.isSurrogate c && (Token.isSpace (Char.ofNat c) || Token.isLineEnd (Char.ofNat c))

def isLineEnd (c : Nat) : Bool :=
  c == 0x0A || c == 0x0D || c == 0x2028 || c == 0x2029

def NamedClass.holds (c : Nat) : NamedClass → Bool
  | .digit => isDigit c
  | .space => isSpaceCharacter c
  | .word  => isWordCharacter c

/-- Whether a class holds a character. -/
def Env.holds (e : Env) (items : List ClassItem) (c : Nat) : Bool :=
  items.any fun item => match item with
    | .range low high     =>
      (low ≤ c && c ≤ high) || (e.flags.ignoreCase && foldsInto low high c)
    | .named negated name => name.holds c != negated
where
  foldsInto (low high c : Nat) : Bool :=
    let f := e.fold c
    (low ≤ f && f ≤ high) ||
    (let lower := Text.toLowerSimple f
     low ≤ lower && lower ≤ high) ||
    (low = high && e.fold low = f)

/-- The character before or after an offset, and the offset beyond it. -/
def Env.next? (e : Env) (isBack : Bool) (i : Nat) : Option (Nat × Nat) :=
  if isBack then
    if i = 0 then none
    else
      match e.text.at? (i - 1) with
      | none   => none
      | some v =>
        match if i < 2 then none else e.text.at? (i - 2) with
        | some u =>
          if e.flags.unicode && Utf16.isLead u && Utf16.isTrail v then some (Utf16.joinPair u v, i - 2)
          else some (v.toNat, i - 1)
        | none   => some (v.toNat, i - 1)
  else if e.flags.unicode then
    (e.text.codePointAt? i).map fun (c, n) => (c, i + n)
  else (e.text.at? i).map fun u => (u.toNat, i + 1)

/-- Whether a word character stands at an offset. -/
def Env.isWordAt (e : Env) (i : Nat) : Bool :=
  match e.text.at? i with
  | some u => isWordCharacter u.toNat
  | none   => false

/-! ### Matching -/

/-- What is left to match after something has. -/
abbrev Continuation := Cursor → Option Cursor

/-- Unsets groups. -/
def Cursor.unset (c : Cursor) (first count : Nat) : Cursor :=
  { c with captures := (List.range count).foldl (fun cs i => cs.setIfInBounds (first + i) none) c.captures }

/-- Repeats a step; `fuel` bounds how often. -/
def repeated (step : Cursor → Continuation → Option Cursor) (isGreedy : Bool)
    (first count : Nat) : (fuel : Nat) → (least : Nat) → (most : Option Nat) → Cursor →
    Continuation → Option Cursor
  | 0, _, _, _, _                  => none
  | fuel + 1, least, most, c, k =>
    if most = some 0 then k c
    else
      let again : Unit → Option Cursor := fun _ =>
        step (c.unset first count) fun after =>
          if least = 0 ∧ after.offset = c.offset then none
          else repeated step isGreedy first count fuel (least - 1) (most.map (· - 1)) after k
      if 0 < least then again ()
      else if isGreedy then
        match again () with
        | some r => some r
        | none   => k c
      else
        match k c with
        | some r => some r
        | none   => again ()

/-- Whether a piece of the text stands again at an offset. -/
def Env.sameAt (e : Env) (from_ size at_ : Nat) : Bool :=
  (List.range size).all fun i =>
    match e.text.at? (from_ + i), e.text.at? (at_ + i) with
    | some a, some b => e.fold a.toNat == e.fold b.toNat
    | _, _           => false

/-- Matches a pattern from a cursor on and then what is left. -/
def Node.run (e : Env) : Node → (isBack : Bool) → Cursor → Continuation → Option Cursor
  | .empty, _, c, k               => k c
  | .char x, isBack, c, k         =>
    match e.next? isBack c.offset with
    | some (y, i) => if e.fold x == e.fold y then k { c with offset := i } else none
    | none        => none
  | .any, isBack, c, k            =>
    match e.next? isBack c.offset with
    | some (y, i) => if e.flags.dotAll || !isLineEnd y then k { c with offset := i } else none
    | none        => none
  | .set negated items, isBack, c, k =>
    match e.next? isBack c.offset with
    | some (y, i) => if e.holds items y != negated then k { c with offset := i } else none
    | none        => none
  | .both a b, isBack, c, k       =>
    if isBack then b.run e isBack c fun c => a.run e isBack c k
    else a.run e isBack c fun c => b.run e isBack c k
  | .either a b, isBack, c, k     =>
    match a.run e isBack c k with
    | some r => some r
    | none   => b.run e isBack c k
  | .group index inner, isBack, c, k =>
    inner.run e isBack c fun after =>
      let span := if isBack then (after.offset, c.offset) else (c.offset, after.offset)
      k { after with captures := after.captures.setIfInBounds index (some span) }
  | .repeat least most isGreedy first count inner, isBack, c, k =>
    repeated (fun c k => inner.run e isBack c k) isGreedy first count (e.text.size + least + 2)
      least most c k
  | .start, _, c, k               =>
    let holds := c.offset = 0 || (e.flags.multiline &&
      ((e.text.at? (c.offset - 1)).map fun u => isLineEnd u.toNat).getD false)
    if holds then k c else none
  | .stop, _, c, k                =>
    let holds := c.offset = e.text.size || (e.flags.multiline &&
      ((e.text.at? c.offset).map fun u => isLineEnd u.toNat).getD false)
    if holds then k c else none
  | .boundary negated, _, c, k    =>
    let before := 0 < c.offset && e.isWordAt (c.offset - 1)
    if (before != e.isWordAt c.offset) != negated then k c else none
  | .look ahead negated inner, _, c, k =>
    match inner.run e (!ahead) c some with
    | some found => if negated then none else k { c with captures := found.captures }
    | none       => if negated then k c else none
  | .backNamed _, _, c, k         => k c
  | .back index, isBack, c, k     =>
    match (c.captures[index]?).getD none with
    | none            => k c
    | some (first, last) =>
      let size := last - first
      if isBack then
        if size ≤ c.offset && e.sameAt first size (c.offset - size) then
          k { c with offset := c.offset - size }
        else none
      else if c.offset + size ≤ e.text.size && e.sameAt first size c.offset then
        k { c with offset := c.offset + size }
      else none

/-- The match of a pattern that begins at an offset: where the whole and each group lie. -/
def Pattern.matchAt (p : Pattern) (text : Utf16) (i : Nat) : Option (Array (Option (Nat × Nat))) :=
  let start : Cursor := ⟨i, Array.replicate (p.groups + 1) none⟩
  (p.node.run ⟨text, p.flags⟩ false start some).map fun c =>
    c.captures.setIfInBounds 0 (some (i, c.offset))

/-- The first match from an offset on; `fuel` bounds how many offsets are tried. -/
def Pattern.search (p : Pattern) (text : Utf16) : (fuel : Nat) → (i : Nat) →
    Option (Array (Option (Nat × Nat)))
  | 0, _        => none
  | fuel + 1, i =>
    if text.size < i then none
    else
      match p.matchAt text i with
      | some m => some m
      | none   => p.search text fuel (i + 1)

end Stencil.Script.Regex
