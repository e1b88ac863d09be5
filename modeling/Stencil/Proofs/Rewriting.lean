import Mathlib.Data.List.Find
import Mathlib.Data.List.Induction
import Mathlib.Data.List.Pairwise
import Mathlib.Data.List.TakeWhile
import Stencil.Proofs.Edits

/-!
# What edits make of a text

When the ranges of edits are nested or disjoint, one edit decides what becomes of the byte at an
offset (`decidingAt?`): the first of those with the widest range that holds it. At the offsets that
are not inside such a range things may be inserted (`wantedAt`). `weave` puts a text together offset
by offset, out of what is inserted there and what becomes of the character there, and
`applyTo?_eq_weave` says that this is what applying the edits gives, but for some insertions: where
a widest range begins, those that were made before its edit are lost (`lastingAt`). Which ones these
are depends on the order of the edits; the rest of the result does not.

One more edit changes what counts of the edits as it changes what remains of them (`Accounts.push`).
-/

namespace Stencil

open Text

namespace Edit

variable {edit : Edit} {offset : Nat}

/-- Whether the range holds the byte at an offset. -/
def holds (edit : Edit) (offset : Nat) : Bool := edit.start ≤ offset && offset < edit.stop

/-- Whether the edit inserts something at an offset. -/
def insertsAt (edit : Edit) (offset : Nat) : Bool := edit.start == offset && edit.stop == offset

/-- What becomes of a character in the range: a new text stands in the place of the first one. -/
def resultAt (edit : Edit) (offset : Nat) (c : Char) : List Char :=
  match edit.text with
  | some text => if offset = edit.start then text.toList else []
  | none      => [blanked c]

lemma holds_iff : edit.holds offset ↔ edit.start ≤ offset ∧ offset < edit.stop := by
  simp [holds]

lemma insertsAt_iff : edit.insertsAt offset ↔ edit.start = offset ∧ edit.stop = offset := by
  simp [insertsAt]

/-- An edit takes the place of what holds or inserts something in its range, unless this covers
it. -/
lemma supersedes_eq_holds {other : Edit} (hnot : ¬other.covers edit)
    (hnested : edit.NestedOrDisjoint other) (hother : other.holds offset ∨ other.insertsAt offset) :
    edit.supersedes other = edit.holds offset := by
  rw [Bool.eq_iff_iff, supersedes_iff, holds_iff]
  rw [covers_iff] at hnot
  rw [holds_iff, insertsAt_iff] at hother
  unfold NestedOrDisjoint at hnested
  omega

end Edit

open Edit (Apart Forward)

namespace Edits

variable {made : List Edit} {edits : Edits} {edit other : Edit} {offset : Nat}

/-! ### The edits that count -/

/-- Whether no range is wider than that of an edit. -/
def isWidest (made : List Edit) (edit : Edit) : Bool :=
  made.all fun other => !other.covers edit || edit.covers other

/-- The edit that decides what becomes of the byte at an offset: of those with the widest range that
holds it, the first. -/
def decidingAt? (made : List Edit) (offset : Nat) : Option Edit :=
  made.find? fun edit => edit.holds offset && isWidest made edit

/-- The insertions at an offset, in the order in which they were made. -/
def insertionsAt (made : List Edit) (offset : Nat) : List Edit :=
  made.filter fun edit => edit.insertsAt offset

/-- The insertions at an offset that is not inside the widest range there. -/
def wantedAt (made : List Edit) (offset : Nat) : List Edit :=
  match decidingAt? made offset with
  | some edit => if edit.start = offset then insertionsAt made offset else []
  | none      => insertionsAt made offset

/-- Of these, the insertions that are not lost: where the widest range begins, those that were made
after its edit. -/
def lastingAt (made : List Edit) (offset : Nat) : List Edit :=
  match decidingAt? made offset with
  | some edit =>
    if edit.start = offset then insertionsAt (made.dropWhile fun other => other ≠ edit) offset
    else []
  | none      => insertionsAt made offset

lemma insertionsAt_append (made more : List Edit) (offset : Nat) :
    insertionsAt (made ++ more) offset = insertionsAt made offset ++ insertionsAt more offset :=
  List.filter_append ..

lemma isWidest_iff :
    isWidest made edit ↔ ∀ other ∈ made, other.covers edit → edit.covers other := by
  simp [isWidest, or_iff_not_imp_left]

lemma mem_of_decidingAt? (h : decidingAt? made offset = some edit) :
    edit ∈ made ∧ edit.holds offset ∧ isWidest made edit := by
  have hsome := List.find?_some h
  rw [Bool.and_eq_true] at hsome
  exact ⟨List.mem_of_find?_eq_some h, hsome⟩

/-! ### One more edit -/

lemma isWidest_concat :
    isWidest (made ++ [edit]) other ↔
      isWidest made other ∧ (edit.covers other → other.covers edit) := by
  rw [isWidest_iff, isWidest_iff, List.forall_mem_append, List.forall_mem_singleton]

/-- One more edit decides on a byte only if the others leave it to it. -/
lemma decidingAt?_concat
    (hwidest : ∀ other ∈ made, other.holds offset → isWidest made other →
      edit.covers other → other.covers edit) :
    decidingAt? (made ++ [edit]) offset = (decidingAt? made offset).or
      (if edit.holds offset && isWidest (made ++ [edit]) edit then some edit else none) := by
  have hsame : ∀ other ∈ made, (other.holds offset && isWidest (made ++ [edit]) other) =
      (other.holds offset && isWidest made other) := by
    intro other hmem
    rw [Bool.eq_iff_iff, Bool.and_eq_true, Bool.and_eq_true, isWidest_concat]
    exact and_congr_right fun hholds => and_iff_left_of_imp (hwidest other hmem hholds)
  rw [decidingAt?, List.find?_append, List.find?_congr hsame, ← decidingAt?, List.find?_singleton]

/-- An edit that does not hold a byte does not decide on it. -/
lemma decidingAt?_concat_of_not_holds (h : ¬edit.holds offset) :
    decidingAt? (made ++ [edit]) offset = decidingAt? made offset := by
  rw [decidingAt?_concat, if_neg (by simp [h]), Option.or_none]
  intro other _ hother _ hcovers
  rw [Edit.covers_iff] at hcovers
  rw [Edit.holds_iff] at h hother
  omega

/-- An edit that an earlier one covers does not decide on anything. -/
lemma decidingAt?_concat_of_covered (hcovered : ∃ outer ∈ made, outer.covers edit)
    (hdecided : edit.holds offset → (decidingAt? made offset).isSome) :
    decidingAt? (made ++ [edit]) offset = decidingAt? made offset := by
  by_cases hholds : edit.holds offset
  · obtain ⟨outer, houter, hcovers⟩ := hcovered
    rw [decidingAt?_concat, Option.or_of_isSome (hdecided hholds)]
    intro other _ _ hwide hother
    rw [isWidest_iff] at hwide
    exact Edit.covers_trans (hwide outer houter (Edit.covers_trans hcovers hother)) hcovers
  · exact decidingAt?_concat_of_not_holds hholds

/-- An edit that no earlier one covers decides on the bytes of its range. -/
lemma decidingAt?_concat_of_holds (hcovered : ¬∃ outer ∈ made, outer.covers edit)
    (hnested : ∀ other ∈ made, edit.NestedOrDisjoint other) (hholds : edit.holds offset) :
    decidingAt? (made ++ [edit]) offset = some edit := by
  rw [Edit.holds_iff] at hholds
  have hself : edit.covers edit := Edit.covers_self (by omega)
  have hnone : (made.find? fun other => other.holds offset && isWidest (made ++ [edit]) other) =
      none := by
    rw [List.find?_eq_none]
    intro other hmem hother
    rw [Bool.and_eq_true, Edit.holds_iff, isWidest_concat] at hother
    obtain ⟨hother, -, hwide⟩ := hother
    have hnot : ¬other.covers edit := fun hcovers => hcovered ⟨other, hmem, hcovers⟩
    have hinner : ¬edit.covers other := fun hcovers => hnot (hwide hcovers)
    have hnested := hnested other hmem
    rw [Edit.covers_iff] at hnot hinner
    unfold Edit.NestedOrDisjoint at hnested
    omega
  rw [decidingAt?, List.find?_append, hnone, Option.none_or, List.find?_singleton, if_pos]
  rw [Bool.and_eq_true, Edit.holds_iff, isWidest_concat, isWidest_iff]
  exact ⟨hholds, fun other hmem hcovers => absurd ⟨other, hmem, hcovers⟩ hcovered, fun _ => hself⟩

/-- Where the deciding edit stays the same, one more insertion comes last. -/
lemma lastingAt_concat (hsame : decidingAt? (made ++ [edit]) offset = decidingAt? made offset) :
    lastingAt (made ++ [edit]) offset = lastingAt made offset ++
      if (decidingAt? made offset).all (fun other => other.start == offset) then
        insertionsAt [edit] offset
      else [] := by
  unfold lastingAt
  rw [hsame]
  rcases hdeciding : decidingAt? made offset with _ | other
  · exact insertionsAt_append ..
  · dsimp only [Option.all_some]
    by_cases hstart : other.start = offset
    · have hmem : other ∈ made := (mem_of_decidingAt? hdeciding).1
      have hleft : (made.dropWhile fun earlier => earlier ≠ other) ≠ [] := by
        rw [Ne, List.dropWhile_eq_nil_iff]
        exact fun h => absurd (h other hmem) (by simp)
      rw [if_pos hstart, if_pos hstart, if_pos (by simpa using hstart), List.dropWhile_append,
        if_neg (by simpa using hleft), insertionsAt_append]
    · rw [if_neg hstart, if_neg hstart, if_neg (by simpa using hstart), List.append_nil]

/-! ### The edits that remain -/

/-- What remains of the edits in `made` is what counts of them, offset by offset. -/
structure Accounts (made : List Edit) (edits : Edits) : Prop where
  deciding (offset : Nat) :
    edits.items.find? (fun edit => edit.holds offset) = decidingAt? made offset
  lasting (offset : Nat) : insertionsAt edits.items offset = lastingAt made offset

/-- Of ranges that lie apart, only one holds a byte. -/
lemma find?_holds_eq_some {items : List Edit} (hapart : items.Pairwise Apart) :
    items.find? (fun edit => edit.holds offset) = some edit ↔ edit ∈ items ∧ edit.holds offset := by
  constructor
  · intro h
    have hholds := List.find?_some h
    exact ⟨List.mem_of_find?_eq_some h, hholds⟩
  · rintro ⟨hmem, hholds⟩
    have hsome : (items.find? fun edit => edit.holds offset).isSome :=
      List.find?_isSome.mpr ⟨edit, hmem, hholds⟩
    obtain ⟨first, hfirst⟩ := Option.isSome_iff_exists.mp hsome
    rw [hfirst, Option.some_inj]
    by_contra hne
    have hother := List.find?_some hfirst
    have : Std.Symm Apart := ⟨fun _ _ h => h.symm⟩
    have := hapart.forall (List.mem_of_find?_eq_some hfirst) hmem hne
    rw [Edit.holds_iff] at hholds hother
    unfold Apart at this
    omega

lemma insertionsAt_singleton (h : ¬edit.insertsAt offset) : insertionsAt [edit] offset = [] :=
  List.filter_cons_of_neg h

/-- An edit that takes some bytes inserts nothing. -/
lemma insertionsAt_singleton_of_range (h : edit.start < edit.stop) (offset : Nat) :
    insertionsAt [edit] offset = [] :=
  insertionsAt_singleton (by rw [Edit.insertsAt_iff]; omega)

/-- Of the edits that matter at an offset, one more edit takes the place of all or of none. -/
lemma filter_not_supersedes {p : Edit → Bool} {items : List Edit}
    (hp : ∀ other ∈ items, p other → edit.supersedes other = edit.holds offset) :
    (items.filter fun other => !edit.supersedes other).filter p =
      if edit.holds offset then [] else items.filter p := by
  have hsame : (items.filter fun other => !edit.supersedes other).filter p =
      items.filter fun other => !edit.holds offset && p other := by
    rw [List.filter_filter]
    refine List.filter_congr fun other hmem => ?_
    cases hother : p other
    · simp
    · simp [hp other hmem hother]
  rw [hsame]
  cases edit.holds offset <;> simp

/-- Where a new edit decides, all insertions were made before it. -/
lemma lastingAt_concat_of_holds (hrange : edit.start < edit.stop)
    (hcovered : ¬∃ outer ∈ made, outer.covers edit)
    (hnested : ∀ other ∈ made, edit.NestedOrDisjoint other) (hholds : edit.holds offset) :
    lastingAt (made ++ [edit]) offset = [] := by
  have hself : edit ∉ made := fun hmem => hcovered ⟨edit, hmem, Edit.covers_self hrange⟩
  have hrest : ((made ++ [edit]).dropWhile fun other => other ≠ edit) = [edit] := by
    rw [List.dropWhile_append_of_pos
      fun other hmem => by simpa using fun heq : other = edit => hself (heq ▸ hmem)]
    simp
  rw [lastingAt, decidingAt?_concat_of_holds hcovered hnested hholds]
  dsimp only
  rw [hrest, insertionsAt_singleton_of_range hrange, ite_self]

section

variable (h : Outermost made edits) (haccounts : Accounts made edits)
include h haccounts

/-- What remains is around an offset just if the deciding edit does not begin there. -/
lemma any_hasInside_eq (offset : Nat) :
    (edits.items.any fun other => other.hasInside offset) =
      !(decidingAt? made offset).all fun other => other.start == offset := by
  rw [← haccounts.deciding, Bool.eq_iff_iff, List.any_eq_true, Bool.not_eq_true',
    ← Bool.not_eq_true, Option.all_eq_true]
  simp only [find?_holds_eq_some h.apart, Edit.hasInside_iff, Edit.holds_iff, beq_iff_eq]
  constructor
  · rintro ⟨other, hmem, hinside⟩ hall
    have := hall other ⟨hmem, by omega⟩
    omega
  · intro hnot
    push Not at hnot
    obtain ⟨other, ⟨hmem, hholds⟩, hne⟩ := hnot
    exact ⟨other, hmem, by omega⟩

/-- One more insertion is accounted for. -/
lemma Accounts.push_insertion (hempty : edit.start = edit.stop) :
    Accounts (made ++ [edit]) (edits.push edit) := by
  have hholds (offset : Nat) : ¬edit.holds offset := by
    rw [Edit.holds_iff]
    omega
  have hsame (offset : Nat) : decidingAt? (made ++ [edit]) offset = decidingAt? made offset :=
    decidingAt?_concat_of_not_holds (hholds offset)
  have hpush : edits.push edit =
      if (decidingAt? made edit.start).all fun other => other.start == edit.start then
        ⟨edits.items ++ [edit]⟩
      else edits := by
    unfold push
    rw [if_pos (Edit.isInsertion_iff.mpr (Nat.le_of_eq hempty.symm)),
      any_hasInside_eq h haccounts]
    cases (decidingAt? made edit.start).all fun other => other.start == edit.start <;> rfl
  refine ⟨fun offset => ?_, fun offset => ?_⟩
  · rw [hsame, ← haccounts.deciding, hpush]
    split
    · rw [List.find?_append, List.find?_singleton, if_neg (hholds offset), Option.or_none]
    · rfl
  · rw [lastingAt_concat (hsame offset), ← haccounts.lasting, hpush]
    by_cases hat : edit.start = offset
    · rw [hat]
      split
      · exact insertionsAt_append ..
      · exact (List.append_nil _).symm
    · have hnone : insertionsAt [edit] offset = [] :=
        insertionsAt_singleton fun h => hat (Edit.insertsAt_iff.mp h).1
      rw [hnone, ite_self, List.append_nil]
      split
      · rw [insertionsAt_append, hnone, List.append_nil]
      · rfl

/-- An edit that an earlier one covers is accounted for without it. -/
lemma Accounts.concat_of_covered (hrange : edit.start < edit.stop)
    (hcovered : ∃ outer ∈ edits.items, outer.covers edit) : Accounts (made ++ [edit]) edits := by
  obtain ⟨outer, houter, hcovers⟩ := hcovered
  have hsame (offset : Nat) : decidingAt? (made ++ [edit]) offset = decidingAt? made offset := by
    refine decidingAt?_concat_of_covered ⟨outer, h.mem houter, hcovers⟩ fun hholds => ?_
    rw [← haccounts.deciding, List.find?_isSome]
    refine ⟨outer, houter, ?_⟩
    rw [Edit.covers_iff] at hcovers
    rw [Edit.holds_iff] at hholds ⊢
    omega
  refine ⟨fun offset => ?_, fun offset => ?_⟩
  · rw [hsame, haccounts.deciding]
  · rw [lastingAt_concat (hsame offset), insertionsAt_singleton_of_range hrange, ite_self,
      List.append_nil, haccounts.lasting]

/-- An edit that no earlier one covers takes the place of all that holds one of its bytes or inserts
before one. -/
lemma Accounts.supersede (hrange : edit.start < edit.stop)
    (hnested : ∀ other ∈ made, edit.NestedOrDisjoint other)
    (hcovered : ¬∃ outer ∈ edits.items, outer.covers edit) :
    Accounts (made ++ [edit])
      ⟨(edits.items.filter fun other => !edit.supersedes other) ++ [edit]⟩ := by
  have hkept {p : Edit → Bool} {offset : Nat}
      (hp : ∀ other, p other → other.holds offset ∨ other.insertsAt offset) :
      (edits.items.filter fun other => !edit.supersedes other).filter p =
        if edit.holds offset then [] else edits.items.filter p :=
    filter_not_supersedes fun other hmem hother => Edit.supersedes_eq_holds
      (fun hcovers => hcovered ⟨other, hmem, hcovers⟩) (hnested other (h.mem hmem))
      (hp other hother)
  have hcovered : ¬∃ outer ∈ made, outer.covers edit := by
    rintro ⟨outer, houter, hcovers⟩
    obtain ⟨kept, hkept, hkeeps⟩ := h.covered outer houter (Edit.covers_iff.mp hcovers).1
    exact hcovered ⟨kept, hkept, Edit.covers_trans hkeeps hcovers⟩
  refine ⟨fun offset => ?_, fun offset => ?_⟩
  · rw [List.find?_append, ← List.head?_filter, hkept fun _ => .inl, List.find?_singleton]
    by_cases hholds : edit.holds offset
    · rw [if_pos hholds, if_pos hholds, decidingAt?_concat_of_holds hcovered hnested hholds]
      rfl
    · rw [if_neg hholds, if_neg hholds, List.head?_filter, haccounts.deciding, Option.or_none,
        decidingAt?_concat_of_not_holds hholds]
  · have hnone := insertionsAt_singleton_of_range hrange offset
    rw [insertionsAt_append, hnone, List.append_nil, insertionsAt, hkept fun _ => .inr]
    by_cases hholds : edit.holds offset
    · rw [if_pos hholds, lastingAt_concat_of_holds hrange hcovered hnested hholds]
    · rw [if_neg hholds, ← insertionsAt, haccounts.lasting,
        lastingAt_concat (decidingAt?_concat_of_not_holds hholds), hnone, ite_self,
        List.append_nil]

/-- One more edit is accounted for when it is pushed. -/
lemma Accounts.push (hforward : edit.Forward)
    (hnested : ∀ other ∈ made, edit.NestedOrDisjoint other) :
    Accounts (made ++ [edit]) (edits.push edit) := by
  rcases Nat.eq_or_lt_of_le hforward with hempty | hrange
  · exact haccounts.push_insertion h hempty
  · unfold Edits.push
    rw [if_neg (Edit.isInsertion_iff.not.mpr (Nat.not_le.mpr hrange))]
    split
    next hcovered => exact haccounts.concat_of_covered h hrange (List.any_eq_true.mp hcovered)
    next hcovered => exact haccounts.supersede h hrange hnested (List.any_eq_true.not.mp hcovered)

end

/-- After a run of edits what remains is what counts of them. -/
theorem accounts_ofList (hlaminar : Laminar made) : Accounts made (ofList made) := by
  -- the last edit is the one that is pushed onto what remains of the others
  induction made using List.reverseRecOn with
  | nil => exact ⟨fun _ => rfl, fun _ => rfl⟩
  | append_singleton made edit ih =>
    have hfirst : Laminar made :=
      ⟨fun other hother => hlaminar.forward other (by simp [hother]),
        fun a ha b hb => hlaminar.nested a (by simp [ha]) b (by simp [hb])⟩
    rw [ofList, List.foldl_append, ← ofList]
    exact (ih hfirst).push (ofList_outermost hfirst) (hlaminar.forward edit (by simp))
      fun other hother => hlaminar.nested edit (by simp) other (by simp [hother])

/-! ### The order of application -/

/-- Insertions at one offset are applied in the order in which they were made. -/
lemma insertionsAt_ordered (edits : Edits) (offset : Nat) :
    insertionsAt edits.ordered offset = insertionsAt edits.items offset := by
  have hperm := (List.mergeSort_perm edits.items Edit.le).filter fun edit => edit.insertsAt offset
  have hle : (insertionsAt edits.items offset).Pairwise fun a b => a.le b := by
    refine List.pairwise_iff_forall_sublist.mpr fun {a b} hsublist => ?_
    have ha := List.of_mem_filter (hsublist.subset (show a ∈ [a, b] by simp))
    have hb := List.of_mem_filter (hsublist.subset (show b ∈ [a, b] by simp))
    rw [Edit.insertsAt_iff] at ha hb
    rw [Edit.le_iff]
    omega
  have hsublist : (insertionsAt edits.items offset).Sublist edits.ordered :=
    @List.sublist_mergeSort Edit Edit.le _ (fun _ _ _ => Edit.le_trans) Edit.le_total _ hle
      List.filter_sublist
  have hfiltered := hsublist.filter fun edit => edit.insertsAt offset
  rw [insertionsAt, List.filter_filter] at hfiltered
  simp only [Bool.and_self] at hfiltered
  exact (hfiltered.eq_of_length_le hperm.length_eq.le).symm

/-- The deciding edits are those that are applied. -/
lemma find?_ordered (h : Outermost made edits) (offset : Nat) :
    edits.ordered.find? (fun edit => edit.holds offset) =
      edits.items.find? fun edit => edit.holds offset := by
  have hperm := List.mergeSort_perm edits.items Edit.le
  have hapart : edits.ordered.Pairwise Apart := (hperm.pairwise_iff fun h => h.symm).mpr h.apart
  refine Option.ext fun edit => ?_
  rw [find?_holds_eq_some hapart, find?_holds_eq_some h.apart, mem_ordered]

/-! ### The text -/

/-- A text put together offset by offset: the insertions there, and then the character, or what the
deciding edit makes of it. -/
def weave (inserted : Nat → List Edit) (deciding? : Nat → Option Edit) :
    (offset : Nat) → List Char → List Char
  | offset, []        => (inserted offset).flatMap fun edit => edit.result []
  | offset, c :: text =>
    ((inserted offset).flatMap fun edit => edit.result []) ++
      ((deciding? offset).elim [c] fun edit => edit.resultAt offset c) ++
      weave inserted deciding? (offset + c.utf8Size) text

section

variable {inserted inserted' : Nat → List Edit} {deciding? deciding?' : Nat → Option Edit}
  {cursor : Nat} {first old text result : List Char} {list : List Edit}

/-- The text from an offset on depends only on the edits from there on. -/
lemma weave_congr (hinserted : ∀ offset, cursor ≤ offset → inserted offset = inserted' offset)
    (hdeciding : ∀ offset, cursor ≤ offset → deciding? offset = deciding?' offset) :
    weave inserted deciding? cursor text = weave inserted' deciding?' cursor text := by
  induction text generalizing cursor with
  | nil => rw [weave, weave, hinserted cursor le_rfl]
  | cons c text ih =>
    rw [weave, weave, hinserted cursor le_rfl, hdeciding cursor le_rfl,
      ih (fun offset hle => hinserted offset (by omega))
        fun offset hle => hdeciding offset (by omega)]

/-- Where nothing is inserted, each character becomes what is made of it. -/
lemma weave_append {becomes : Char → List Char}
    (hinserted : ∀ offset, cursor ≤ offset → offset < cursor + size first → inserted offset = [])
    (hbecomes : ∀ offset c, cursor ≤ offset → offset < cursor + size first →
      ((deciding? offset).elim [c] fun edit => edit.resultAt offset c) = becomes c) :
    weave inserted deciding? cursor (first ++ text) =
      first.flatMap becomes ++ weave inserted deciding? (cursor + size first) text := by
  induction first generalizing cursor with
  | nil => rfl
  | cons c first ih =>
    have := c.utf8Size_pos
    rw [size_cons, ← Nat.add_assoc] at hinserted hbecomes
    rw [List.cons_append, weave, hinserted cursor le_rfl (by omega),
      hbecomes cursor c le_rfl (by omega),
      ih (fun offset hle hlt => hinserted offset (by omega) hlt)
        fun offset c hle hlt => hbecomes offset c (by omega) hlt, List.flatMap_cons, size_cons,
      ← Nat.add_assoc, List.append_assoc, List.append_assoc, List.flatMap_nil, List.nil_append]

/-- What becomes of the range of an edit. -/
lemma weave_range (hold : edit.start + size old = edit.stop) (hne : old ≠ [])
    (hinserted : ∀ offset, edit.start ≤ offset → offset < edit.stop → inserted offset = [])
    (hdeciding : ∀ offset, edit.start ≤ offset → offset < edit.stop →
      deciding? offset = some edit) :
    weave inserted deciding? edit.start (old ++ text) =
      edit.result old ++ weave inserted deciding? edit.stop text := by
  rw [← hold] at hinserted hdeciding ⊢
  rcases htext : edit.text with _ | new
  · rw [weave_append hinserted fun offset c hle hlt => by
      rw [hdeciding offset hle hlt, Option.elim_some, Edit.resultAt, htext], Edit.result, htext,
      List.map_eq_flatMap]
  · -- the new text stands in the place of the first character, the others give nothing
    obtain ⟨c, rest, rfl⟩ := List.exists_cons_of_ne_nil hne
    have := c.utf8Size_pos
    rw [size_cons, ← Nat.add_assoc] at hinserted hdeciding ⊢
    have hothers (offset : Nat) (d : Char) (hle : edit.start + c.utf8Size ≤ offset)
        (hlt : offset < edit.start + c.utf8Size + size rest) :
        ((deciding? offset).elim [d] fun edit => edit.resultAt offset d) = [] := by
      rw [hdeciding offset (by omega) hlt, Option.elim_some, Edit.resultAt, htext]
      exact if_neg (by omega)
    rw [List.cons_append, weave, hinserted _ le_rfl (by omega), hdeciding _ le_rfl (by omega),
      weave_append (fun offset hle hlt => hinserted offset (by omega) hlt) hothers]
    simp [Edit.resultAt, Edit.result, htext]

/-- A text stays as it is where nothing is inserted and nothing decides. -/
lemma weave_kept
    (hinserted : ∀ offset, cursor ≤ offset → offset < cursor + size first → inserted offset = [])
    (hdeciding : ∀ offset, cursor ≤ offset → offset < cursor + size first →
      deciding? offset = none) :
    weave inserted deciding? cursor (first ++ text) =
      first ++ weave inserted deciding? (cursor + size first) text := by
  rw [weave_append hinserted fun offset c hle hlt => by
    rw [hdeciding offset hle hlt, Option.elim_none], List.flatMap_singleton']

/-- What an insertion adds in front of the rest. -/
lemma weave_insertion (hinserted : inserted cursor = edit :: inserted' cursor)
    (hlater : ∀ offset, cursor < offset → inserted offset = inserted' offset)  :
    weave inserted deciding? cursor text =
      edit.result [] ++ weave inserted' deciding? cursor text := by
  cases text with
  | nil => rw [weave, weave, hinserted, List.flatMap_cons]
  | cons c text =>
    have := c.utf8Size_pos
    rw [weave, weave, hinserted, List.flatMap_cons,
      weave_congr (fun offset hle => hlater offset (by omega)) fun _ _ => rfl]
    simp only [List.append_assoc]

/-- Nothing happens before the first edit. -/
lemma eq_nil_and_eq_none_of_lt (h : ∀ edit ∈ list, offset < edit.start) :
    insertionsAt list offset = [] ∧ (list.find? fun edit => edit.holds offset) = none := by
  rw [insertionsAt, List.filter_eq_nil_iff, List.find?_eq_none]
  refine ⟨fun edit hmem => ?_, fun edit hmem => ?_⟩ <;> have := h edit hmem
  · rw [Edit.insertsAt_iff]
    omega
  · rw [Edit.holds_iff]
    omega

/-- What an edit makes of its range comes in front of what later ones make of the rest. -/
lemma weave_cons (hold : edit.start + size old = edit.stop)
    (hlater : ∀ other ∈ list, edit.stop ≤ other.start) :
    weave (insertionsAt (edit :: list))
        (fun offset => (edit :: list).find? fun other => other.holds offset) edit.start
        (old ++ text) =
      edit.result old ++ weave (insertionsAt list)
        (fun offset => list.find? fun other => other.holds offset) edit.stop text := by
  have hothers (offset : Nat) (hne : ¬edit.insertsAt offset) :
      insertionsAt (edit :: list) offset = insertionsAt list offset :=
    List.filter_cons_of_neg hne
  have hdecided (offset : Nat) (hnot : ¬edit.holds offset) :
      ((edit :: list).find? fun other => other.holds offset) =
        list.find? fun other => other.holds offset :=
    List.find?_cons_of_neg hnot
  simp only [Edit.insertsAt_iff, Edit.holds_iff] at hothers hdecided
  rcases Nat.eq_or_lt_of_le (show edit.start ≤ edit.stop by omega) with hempty | hrange
  · obtain rfl := eq_nil_of_size_eq_zero (show size old = 0 by omega)
    have hinserted : insertionsAt (edit :: list) edit.start =
        edit :: insertionsAt list edit.start :=
      List.filter_cons_of_pos (Edit.insertsAt_iff.mpr ⟨rfl, hempty.symm⟩)
    rw [List.nil_append, weave_insertion hinserted fun offset hlt => hothers offset (by omega),
      ← hempty, weave_congr (fun _ _ => rfl) fun offset _ => hdecided offset (by omega)]
  · have hne : old ≠ [] := by
      rintro rfl
      rw [size_nil] at hold
      omega
    have hinside (offset : Nat) (hlt : offset < edit.stop) : insertionsAt list offset = [] :=
      (eq_nil_and_eq_none_of_lt fun other hmem => Nat.lt_of_lt_of_le hlt (hlater other hmem)).1
    rw [weave_range hold hne
      (fun offset _ hlt => (hothers offset (by omega)).trans (hinside offset hlt))
      fun offset hle hlt => List.find?_cons_of_pos (Edit.holds_iff.mpr ⟨hle, hlt⟩),
      weave_congr (fun offset hle => hothers offset (by omega))
        fun offset hle => hdecided offset (by omega)]

/-- Edits that are applied one after another weave a text. -/
lemma Applied.eq_weave (h : Applied cursor text list result)
    (hpairwise : list.Pairwise fun a b => a.stop ≤ b.start) :
    result = weave (insertionsAt list) (fun offset => list.find? fun edit => edit.holds offset)
      cursor text := by
  induction h with
  | @done cursor text =>
    have := @weave_kept (insertionsAt []) (fun _ => none) cursor text [] (fun _ _ _ => rfl)
      fun _ _ _ => rfl
    rw [List.append_nil, weave] at this
    exact (List.append_nil text).symm.trans this.symm
  | @step cursor edit edits kept old text result hkept hold happlied ih =>
    obtain ⟨hlater, hpairwise⟩ := List.pairwise_cons.mp hpairwise
    have hbefore (offset : Nat) (hlt : offset < edit.start) :=
      @eq_nil_and_eq_none_of_lt offset (edit :: edits) <| List.forall_mem_cons.mpr
        ⟨hlt, fun other hmem => by have := hlater other hmem; omega⟩
    rw [weave_kept (fun offset _ hlt => (hbefore offset (by omega)).1)
      fun offset _ hlt => (hbefore offset (by omega)).2, hkept, weave_cons hold hlater,
      ih hpairwise, List.append_assoc]

end

/-! ### Other orders -/

/-- Whether edits that have one range are in the same order in two lists. -/
def SameOrder (made made' : List Edit) : Prop :=
  ∀ edit : Edit, made.filter (fun other => other.start == edit.start && other.stop == edit.stop) =
    made'.filter fun other => other.start == edit.start && other.stop == edit.stop

/-- Whether besides this the insertions at an offset stand in the same way among the edits of each
range that begins there. -/
def KeepsOrder (made made' : List Edit) : Prop :=
  ∀ edit : Edit, (made.filter fun other => other.start == edit.start &&
      (other.stop == edit.start || other.stop == edit.stop)) =
    made'.filter fun other => other.start == edit.start &&
      (other.stop == edit.start || other.stop == edit.stop)

/-- Whether no range begins at an offset where something was inserted before. -/
def InsertsLate (made : List Edit) : Prop :=
  made.Pairwise fun earlier later =>
    earlier.start = earlier.stop → earlier.start = later.start → later.start = later.stop

lemma KeepsOrder.sameOrder {made' : List Edit} (h : KeepsOrder made made') :
    SameOrder made made' := by
  intro edit
  have hfilter := congrArg
    (List.filter fun other => other.start == edit.start && other.stop == edit.stop) (h edit)
  rw [List.filter_filter, List.filter_filter] at hfilter
  have hsame : (fun other : Edit => (other.start == edit.start && other.stop == edit.stop) &&
      (other.start == edit.start && (other.stop == edit.start || other.stop == edit.stop))) =
      fun other => other.start == edit.start && other.stop == edit.stop := by
    funext other
    cases other.start == edit.start <;> cases other.stop == edit.stop <;> simp
  rwa [hsame] at hfilter

/-- All widest ranges that hold a byte are one and the same. -/
lemma eq_range_of_isWidest (hlaminar : Laminar made) (hedit : edit ∈ made) (hother : other ∈ made)
    (hholds : edit.holds offset) (hholds' : other.holds offset) (hwide : isWidest made edit)
    (hwide' : isWidest made other) : other.start = edit.start ∧ other.stop = edit.stop := by
  have hfirst := isWidest_iff.mp hwide other hother
  have hsecond := isWidest_iff.mp hwide' edit hedit
  have hnested := hlaminar.nested edit hedit other hother
  rw [Edit.covers_iff, Edit.covers_iff] at hfirst hsecond
  rw [Edit.holds_iff] at hholds hholds'
  unfold Edit.NestedOrDisjoint at hnested
  omega

section

variable {made' : List Edit} (h : SameOrder made made')
include h

lemma SameOrder.mem_iff : edit ∈ made ↔ edit ∈ made' := by
  have hself (list : List Edit) : edit ∈ list ↔
      edit ∈ list.filter fun other => other.start == edit.start && other.stop == edit.stop := by
    simp
  rw [hself made, h edit, ← hself made']

lemma SameOrder.laminar (hlaminar : Laminar made) : Laminar made' :=
  ⟨fun edit hmem => hlaminar.forward edit (h.mem_iff.mpr hmem),
    fun a ha b hb => hlaminar.nested a (h.mem_iff.mpr ha) b (h.mem_iff.mpr hb)⟩

lemma SameOrder.insertionsAt_eq (offset : Nat) :
    insertionsAt made offset = insertionsAt made' offset :=
  h ⟨offset, offset, none⟩

/-- The deciding edit is the first of those with its range, which does not depend on the others. -/
lemma SameOrder.decidingAt?_eq (hlaminar : Laminar made) (offset : Nat) :
    decidingAt? made offset = decidingAt? made' offset := by
  have hwidest : isWidest made' = isWidest made := by
    funext edit
    rw [Bool.eq_iff_iff, isWidest_iff, isWidest_iff]
    exact forall_congr' fun other => by rw [h.mem_iff]
  rw [decidingAt?, decidingAt?, hwidest]
  rcases hdeciding : made.find? fun edit => edit.holds offset && isWidest made edit with _ | edit
  · rw [hdeciding, eq_comm, List.find?_eq_none]
    rw [List.find?_eq_none] at hdeciding
    exact fun other hmem => hdeciding other (h.mem_iff.mpr hmem)
  · obtain ⟨hmem, hholds, hwide⟩ := mem_of_decidingAt? hdeciding
    have hfilter {list : List Edit} (hlist : list ⊆ made) :
        (list.find? fun edit => edit.holds offset && isWidest made edit) =
          (list.filter fun other => other.start == edit.start && other.stop == edit.stop).find?
            fun edit => edit.holds offset && isWidest made edit := by
      rw [List.find?_filter]
      refine List.find?_congr fun other hother => ?_
      cases hcase : (other.holds offset && isWidest made other)
      · simp
      · rw [Bool.and_eq_true] at hcase
        obtain ⟨hstart, hstop⟩ := eq_range_of_isWidest hlaminar hmem (hlist hother) hholds hcase.1
          hwide hcase.2
        simp [hstart, hstop]
    rw [hfilter (List.Subset.refl _), hfilter fun other hother => h.mem_iff.mpr hother, h edit]

/-- What is inserted at each offset does not depend on the others either. -/
lemma SameOrder.wantedAt_eq (hlaminar : Laminar made) (offset : Nat) :
    wantedAt made offset = wantedAt made' offset := by
  rw [wantedAt, wantedAt, ← h.decidingAt?_eq hlaminar, h.insertionsAt_eq]

end

/-- What follows an edit can be found in any part of a list that the edit belongs to. -/
lemma filter_dropWhile_filter {p q : Edit → Bool} (hedit : q edit)
    (hpart : ∀ other, p other → q other) (list : List Edit) :
    ((list.filter q).dropWhile fun other => other ≠ edit).filter p =
      (list.dropWhile fun other => other ≠ edit).filter p := by
  induction list with
  | nil => rfl
  | cons first list ih =>
    by_cases heq : first = edit
    · rw [List.filter_cons_of_pos (heq ▸ hedit), List.dropWhile_cons_of_neg (by simpa using heq),
        List.dropWhile_cons_of_neg (by simpa using heq), ← List.filter_cons_of_pos (heq ▸ hedit),
        List.filter_filter]
      refine List.filter_congr fun other _ => ?_
      rw [Bool.eq_iff_iff, Bool.and_eq_true, and_iff_left_of_imp (hpart other)]
    · rw [List.dropWhile_cons_of_pos (by simpa using heq), ← ih]
      by_cases hfirst : q first
      · rw [List.filter_cons_of_pos hfirst, List.dropWhile_cons_of_pos (by simpa using heq)]
      · rw [List.filter_cons_of_neg hfirst]

/-- Which insertions are lost depends only on how they stand among the edits of the ranges that
begin there. -/
lemma KeepsOrder.lastingAt_eq {made' : List Edit} (h : KeepsOrder made made')
    (hlaminar : Laminar made) (offset : Nat) : lastingAt made offset = lastingAt made' offset := by
  unfold lastingAt
  rw [← h.sameOrder.decidingAt?_eq hlaminar]
  rcases decidingAt? made offset with _ | edit
  · exact h.sameOrder.insertionsAt_eq offset
  · dsimp only
    split
    next hstart =>
      have hpart : ∀ other : Edit, other.insertsAt offset →
          other.start == edit.start && (other.stop == edit.start || other.stop == edit.stop) := by
        intro other hother
        rw [Edit.insertsAt_iff] at hother
        simp [hstart, hother]
      rw [insertionsAt, insertionsAt, ← filter_dropWhile_filter (by simp) hpart, h edit,
        filter_dropWhile_filter (by simp) hpart]
    next => rfl

/-- Nothing is lost when no range begins where something was inserted before. -/
lemma InsertsLate.lastingAt_eq (h : InsertsLate made) (offset : Nat) :
    lastingAt made offset = wantedAt made offset := by
  unfold lastingAt wantedAt
  rcases hdeciding : decidingAt? made offset with _ | edit
  · rfl
  · obtain ⟨hmem, hholds, -⟩ := mem_of_decidingAt? hdeciding
    rw [Edit.holds_iff] at hholds
    dsimp only
    split
    next hstart =>
      obtain ⟨before, after, rfl, hbefore⟩ := List.eq_append_cons_of_mem hmem
      have hnone : insertionsAt before offset = [] := by
        rw [insertionsAt, List.filter_eq_nil_iff]
        intro other hother hinserts
        rw [Edit.insertsAt_iff] at hinserts
        have := (List.pairwise_append.mp h).2.2 other hother edit (List.mem_cons_self ..)
        omega
      rw [List.dropWhile_append_of_pos
          fun other hother => by simpa using fun heq : other = edit => hbefore (heq ▸ hother),
        List.dropWhile_cons_of_neg (by simp), insertionsAt_append, hnone, List.nil_append]
    next => rfl

/-! ### The result -/

section

variable {text : List Char} (hlaminar : Laminar made)
  (hboundary : ∀ edit ∈ made, IsBoundary text edit.start ∧ IsBoundary text edit.stop)
include hlaminar hboundary

/-- Edits at boundaries are applied: what they make of the text is woven from the deciding edits and
the insertions that last. -/
lemma applyTo?_eq_some_weave :
    (ofList made).applyTo? text = some (weave (lastingAt made) (decidingAt? made) 0 text) := by
  have houtermost := ofList_outermost hlaminar
  have haccounts := accounts_ofList hlaminar
  have hsome : (ofList made).applyTo? text ≠ none := by
    rw [Ne, applyTo?_eq_none hlaminar]
    rintro ⟨edit, hmem, hnot⟩
    exact hnot (hboundary edit (houtermost.mem hmem))
  obtain ⟨result, hresult⟩ := Option.ne_none_iff_exists'.mp hsome
  rw [hresult, ((applyTo?_eq_some hlaminar).mp hresult).eq_weave
    (houtermost.ordered_pairwise hlaminar)]
  refine congrArg some (weave_congr (fun offset _ => ?_) fun offset _ => ?_)
  · rw [insertionsAt_ordered, haccounts.lasting]
  · rw [find?_ordered houtermost, haccounts.deciding]

/-- Each widest range is edited once, by the first edit that has it, and all else is copied. The
insertions at an offset outside appear in their order, except those that were made where a widest
range begins before its edit: these are lost. So the result is the same for all orders that keep
the order of edits with one range, as long as no range begins where something was inserted before,
or as the insertions at the beginning of a range stand in the same way among its edits. -/
theorem applyTo?_eq_weave :
    (ofList made).applyTo? text = some (weave (lastingAt made) (decidingAt? made) 0 text) ∧
    (InsertsLate made →
      (ofList made).applyTo? text = some (weave (wantedAt made) (decidingAt? made) 0 text)) ∧
    (∀ made', KeepsOrder made made' →
      (ofList made').applyTo? text = (ofList made).applyTo? text) ∧
    ∀ made', SameOrder made made' → InsertsLate made → InsertsLate made' →
      (ofList made').applyTo? text = (ofList made).applyTo? text := by
  have hresult := applyTo?_eq_some_weave hlaminar hboundary
  have hother {made' : List Edit} (h : SameOrder made made') :
      (ofList made').applyTo? text =
        some (weave (lastingAt made') (decidingAt? made) 0 text) := by
    rw [applyTo?_eq_some_weave (h.laminar hlaminar)
      fun edit hmem => hboundary edit (h.mem_iff.mpr hmem), funext (h.decidingAt?_eq hlaminar)]
  refine ⟨hresult, fun hlate => ?_, fun made' hkeeps => ?_, fun made' hsame hlate hlate' => ?_⟩
  · rw [hresult, funext hlate.lastingAt_eq]
  · rw [hresult, hother hkeeps.sameOrder, funext (hkeeps.lastingAt_eq hlaminar)]
  · rw [hresult, hother hsame, funext hlate.lastingAt_eq, funext hlate'.lastingAt_eq,
      funext (hsame.wantedAt_eq hlaminar)]

end

/-- An insertion that is made before the range is blanked that begins there is lost. -/
theorem applyTo?_eq_weave_lost :
    (Laminar [.insert 1 "x", .blank 1 2] ∧ Laminar [.blank 1 2, .insert 1 "x"]) ∧
    (∀ edit ∈ [Edit.insert 1 "x", Edit.blank 1 2],
      IsBoundary "abc".toList edit.start ∧ IsBoundary "abc".toList edit.stop) ∧
    (ofList [.insert 1 "x", .blank 1 2]).applyTo? "abc".toList = some "a c".toList ∧
    (ofList [.blank 1 2, .insert 1 "x"]).applyTo? "abc".toList = some "ax c".toList := by
  have hlaminar : Laminar [.insert 1 "x", .blank 1 2] ∧ Laminar [.blank 1 2, .insert 1 "x"] := by
    constructor <;> constructor <;>
      simp [Edit.insert, Edit.blank, Edit.Forward, Edit.NestedOrDisjoint]
  have hboundary : ∀ edit ∈ [Edit.insert 1 "x", Edit.blank 1 2],
      IsBoundary "abc".toList edit.start ∧ IsBoundary "abc".toList edit.stop := by
    simp only [isBoundary_iff_cut?]
    decide
  have hswapped : ∀ edit ∈ [Edit.blank 1 2, Edit.insert 1 "x"],
      IsBoundary "abc".toList edit.start ∧ IsBoundary "abc".toList edit.stop := by
    intro edit hmem
    exact hboundary edit (by simpa [or_comm] using hmem)
  refine ⟨hlaminar, hboundary, ?_, ?_⟩
  · rw [(applyTo?_eq_weave hlaminar.1 hboundary).1]
    decide
  · have hlate : InsertsLate [.blank 1 2, .insert 1 "x"] := by
      simp [InsertsLate, Edit.insert, Edit.blank]
    rw [(applyTo?_eq_weave hlaminar.2 hswapped).2.1 hlate]
    decide

end Edits

end Stencil
