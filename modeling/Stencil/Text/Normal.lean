import Stencil.Number.Literal
import Stencil.Text.Decomposition

/-!
# Normal forms

Texts in which the same characters are written in the same way: taken apart as far as possible, or
put together again.
-/

namespace Stencil.Text

/-- The normal forms: taken apart or put together, with variants kept or replaced. -/
inductive NormalForm where
  | composed | decomposed | composedPlain | decomposedPlain
  deriving DecidableEq

/-- The name of a form. -/
def NormalForm.ofName? (name : String) : Option NormalForm :=
  match name with
  | "NFC"  => some composed
  | "NFD"  => some decomposed
  | "NFKC" => some composedPlain
  | "NFKD" => some decomposedPlain
  | _      => none

/-! ### Tables -/

/-- An entry of a table: the code points from `first` to `last` are made of `parts`, where a single
part counts up with them. -/
structure Entry where
  first : Nat
  last : Nat
  parts : List Nat
  isFinal : Bool
  deriving Inhabited

/-- A table in order, with the entries of which no two overlap. -/
abbrev Table := Array Entry

def hexOf (text : String) : Nat :=
  (Number.readNat? 16 text.toList).getD 0

/-- The entry that a text writes. -/
def Entry.ofText? (text : String) : Option Entry :=
  match text.splitOn "=" with
  | [codes, parts] =>
    let isFinal := codes.startsWith "!"
    let codes := String.ofList (codes.toList.filter (· ≠ '!'))
    let parts := (parts.splitOn ",").map hexOf
    match codes.splitOn "-" with
    | [code]        => some ⟨hexOf code, hexOf code, parts, isFinal⟩
    | [first, last] => some ⟨hexOf first, hexOf last, parts, isFinal⟩
    | _             => none
  | _ => none

/-- The table that a text writes; its layout does not count. -/
def readTable (text : String) : Table :=
  let plain := String.ofList (text.toList.filter fun c => !c.isWhitespace)
  ((plain.splitOn ";").filterMap Entry.ofText?).toArray

def equals : Table := readTable equalTable
def parts : Table := readTable partsTable
def variants : Table := readTable variantTable
def variantParts : Table := readTable variantPartsTable
def marks : Table := readTable markTable

/-- The entry for a code point, between two places of a table; `fuel` bounds how often the distance
is halved. -/
def Table.findBetween (t : Table) (n : Nat) : (fuel low high : Nat) → Option Entry
  | 0, _, _              => none
  | fuel + 1, low, high =>
    if high ≤ low then none
    else
      let middle := (low + high) / 2
      let e := t.getD middle default
      if n < e.first then t.findBetween n fuel low middle
      else if e.last < n then t.findBetween n fuel (middle + 1) high
      else some e

/-- The entry for a code point. -/
def Table.find? (t : Table) (n : Nat) : Option Entry :=
  t.findBetween n 32 0 t.size

/-- The class of a mark, zero for other characters. -/
def markClass (n : Nat) : Nat :=
  if n < 0x300 then 0
  else match marks.find? n with
    | some e => e.parts.headD 0
    | none   => 0

/-! ### Taking apart -/

/-- The parts of a syllable of Hangul. -/
def syllableParts (n : Nat) : List Nat :=
  let s := n - 0xAC00
  let tail := if s % 28 = 0 then [] else [0x11A7 + s % 28]
  [0x1100 + s / 588, 0x1161 + s % 588 / 28] ++ tail

/-- What a code point is made of in one step. -/
def partsOf? (plain : Bool) (n : Nat) : Option (List Nat) :=
  if n < 0xA0 then none
  else match equals.find? n with
    | some e => some [e.parts.headD 0 + (n - e.first)]
    | none   =>
      match parts.find? n with
      | some e => some e.parts
      | none   =>
        if !plain then none
        else match variants.find? n with
          | some e => some [e.parts.headD 0 + (n - e.first)]
          | none   => (variantParts.find? n).map Entry.parts

/-- What a code point is made of; `fuel` bounds how deep. -/
def decompose (plain : Bool) : (fuel : Nat) → Nat → List Nat
  | 0, n        => [n]
  | fuel + 1, n =>
    if 0xAC00 ≤ n ∧ n ≤ 0xD7A3 then syllableParts n
    else match partsOf? plain n with
      | some list => list.flatMap (decompose plain fuel)
      | none      => [n]

/-- Puts the marks after each other character in order; `pending` are those since the last. -/
def orderMarks (pending : List Nat) : List Nat → List Nat
  | []      => sorted pending
  | n :: ns =>
    if markClass n = 0 then sorted pending ++ n :: orderMarks [] ns
    else orderMarks (pending ++ [n]) ns
where
  sorted (list : List Nat) : List Nat := list.mergeSort fun a b => markClass a ≤ markClass b

/-! ### Putting together -/

/-- The character that two others make. -/
def joined? (a b : Nat) : Option Nat :=
  if 0x1100 ≤ a ∧ a < 0x1113 ∧ 0x1161 ≤ b ∧ b < 0x1176 then
    some (0xAC00 + ((a - 0x1100) * 21 + (b - 0x1161)) * 28)
  else if 0xAC00 ≤ a ∧ a ≤ 0xD7A3 ∧ (a - 0xAC00) % 28 = 0 ∧ 0x11A7 < b ∧ b < 0x11C3 then
    some (a + (b - 0x11A7))
  else if a < 0x3C then none
  else (Array.find? (fun (e : Entry) => !e.isFinal && e.parts == [a, b]) parts).map Entry.first

/-- Puts characters together. `starter` is the last character that is no mark, `passed` the marks
after it that were not joined to it, the last first. -/
def compose : (starter : Option Nat) → (passed : List Nat) → List Nat → List Nat
  | starter, passed, []      => starter.toList ++ passed.reverse
  | none, passed, n :: ns    =>
    if markClass n = 0 then passed.reverse ++ compose (some n) [] ns
    else compose none (n :: passed) ns
  | some s, passed, n :: ns  =>
    let c := markClass n
    let isBlocked := match passed with
      | []     => false
      | p :: _ => markClass p ≥ c
    match if isBlocked then none else joined? s n with
    | some j => compose (some j) passed ns
    | none   =>
      if c = 0 then s :: passed.reverse ++ compose (some n) [] ns
      else compose (some s) (n :: passed) ns

/-- A text in a normal form. -/
def normalize (form : NormalForm) (points : List Nat) : List Nat :=
  if points.all (· < 0xA0) then points
  else
    let plain := form = .composedPlain || form = .decomposedPlain
    let apart := orderMarks [] (points.flatMap (decompose plain 16))
    if form = .composed || form = .composedPlain then compose none [] apart else apart

end Stencil.Text
