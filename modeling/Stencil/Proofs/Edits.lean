import Mathlib.Data.List.Basic
import Mathlib.Tactic.Lemma
import Stencil.Edit
import Stencil.Proofs.Offset

/-!
# Edits whose ranges are nested or disjoint

When the ranges of edits are pairwise nested or disjoint, those that remain after all are made are
the outermost ones (`Outermost`): they lie apart from each other, and each range that was edited is
covered by one of theirs. In the order of their ranges they are applied one after another
(`applyTo?_eq_some`), none is passed over, and applying them fails exactly where a range begins or
ends inside a character (`applyTo?_eq_none`).
-/

namespace Stencil

open Text

namespace Edit

variable {a b c : Edit}

/-! ### Ranges -/

/-- Whether the range does not run backwards. -/
def Forward (edit : Edit) : Prop := edit.start ≤ edit.stop

/-- Whether one range lies in the other, or both have no byte in common. -/
def NestedOrDisjoint (a b : Edit) : Prop :=
  a.stop ≤ b.start ∨ b.stop ≤ a.start ∨
  (a.start ≤ b.start ∧ b.stop ≤ a.stop) ∨ (b.start ≤ a.start ∧ a.stop ≤ b.stop)

/-- Whether one range ends before the other begins. -/
def Apart (a b : Edit) : Prop := a.stop ≤ b.start ∨ b.stop ≤ a.start

lemma NestedOrDisjoint.symm (h : a.NestedOrDisjoint b) : b.NestedOrDisjoint a := by
  unfold NestedOrDisjoint at *
  omega

lemma NestedOrDisjoint.refl (a : Edit) : a.NestedOrDisjoint a :=
  .inr (.inr (.inl ⟨Nat.le_refl _, Nat.le_refl _⟩))

/-- An insertion is nested in or disjoint from everything. -/
lemma NestedOrDisjoint.of_insertion (ha : a.start = a.stop) : a.NestedOrDisjoint b := by
  unfold NestedOrDisjoint
  omega

lemma Apart.symm (h : a.Apart b) : b.Apart a := Or.symm h

lemma covers_iff : a.covers b = true ↔ a.start < a.stop ∧ a.start ≤ b.start ∧ b.stop ≤ a.stop := by
  simp [covers, and_assoc]

lemma hasInside_iff {offset : Nat} :
    a.hasInside offset = true ↔ a.start < offset ∧ offset < a.stop := by
  simp [hasInside]

lemma supersedes_iff :
    a.supersedes b = true ↔ a.start ≤ b.start ∧ b.stop ≤ a.stop ∧ b.start < a.stop := by
  simp [supersedes, and_assoc]

lemma isInsertion_iff : a.isInsertion = true ↔ a.stop ≤ a.start := by
  simp [isInsertion]

lemma le_iff : a.le b = true ↔ a.start < b.start ∨ a.start = b.start ∧ a.stop ≤ b.stop := by
  simp [le]

lemma le_trans (hab : a.le b) (hbc : b.le c) : a.le c := by
  rw [le_iff] at *
  omega

lemma le_total (a b : Edit) : a.le b || b.le a := by
  rw [Bool.or_eq_true, le_iff, le_iff]
  omega

lemma covers_trans (hab : a.covers b) (hbc : b.covers c) : a.covers c := by
  rw [covers_iff] at *
  omega

lemma covers_of_supersedes (h : a.supersedes b) : a.covers b := by
  rw [supersedes_iff] at h
  rw [covers_iff]
  omega

lemma covers_self (h : a.start < a.stop) : a.covers a :=
  covers_iff.mpr ⟨h, Nat.le_refl _, Nat.le_refl _⟩

/-- Ranges that lie apart stand one after the other in the order of application. -/
lemma stop_le_start_of_le (hapart : a.Apart b) (hle : a.le b) (hb : b.Forward) :
    a.stop ≤ b.start := by
  rw [le_iff] at hle
  unfold Apart Forward at *
  omega

end Edit

open Edit (NestedOrDisjoint Apart Forward)

/-! ### The edits that remain -/

/-- What remains of the edits in `made`: some of them, in the order in which they were made. Their
ranges lie apart from each other, and they cover all ranges. -/
structure Edits.Outermost (made : List Edit) (edits : Edits) : Prop where
  sublist : edits.items.Sublist made
  apart : edits.items.Pairwise Apart
  covered : ∀ edit ∈ made, edit.start < edit.stop → ∃ other ∈ edits.items, other.covers edit

namespace Edits

variable {made : List Edit} {edits : Edits} {edit : Edit}

lemma Outermost.mem (h : Outermost made edits) (hmem : edit ∈ edits.items) : edit ∈ made :=
  h.sublist.subset hmem

/-- Dropping an edit that is an insertion or covered leaves the outermost ones. -/
lemma Outermost.drop (h : Outermost made edits)
    (hcovered : edit.start < edit.stop → ∃ other ∈ edits.items, other.covers edit) :
    Outermost (made ++ [edit]) edits where
  sublist := h.sublist.trans (List.sublist_append_left made [edit])
  apart := h.apart
  covered := by
    intro other hmem hother
    rcases List.mem_append.mp hmem with hmem | hmem
    · exact h.covered other hmem hother
    · rw [List.mem_singleton.mp hmem] at hother ⊢
      exact hcovered hother

/-- Adding an edit in the place of some that it covers leaves the outermost ones, when it lies
apart from those that are kept. -/
lemma Outermost.add (h : Outermost made edits) (edit : Edit) (keeps : Edit → Bool)
    (hremoved : ∀ other ∈ edits.items, keeps other = false → edit.covers other)
    (hkept : ∀ other ∈ edits.items, keeps other = true → other.Apart edit) :
    Outermost (made ++ [edit]) ⟨edits.items.filter keeps ++ [edit]⟩ where
  sublist := ((List.filter_sublist).trans h.sublist).append (List.Sublist.refl [edit])
  apart := by
    refine List.pairwise_append.mpr ⟨h.apart.filter keeps, List.pairwise_singleton _ _, ?_⟩
    intro other hmem _ hedit
    rw [List.mem_singleton.mp hedit]
    exact hkept other (List.mem_filter.mp hmem).1 (List.mem_filter.mp hmem).2
  covered := by
    intro other hmem hother
    rcases List.mem_append.mp hmem with hmem | hmem
    · obtain ⟨outer, houter, hcovers⟩ := h.covered other hmem hother
      rcases hkeeps : keeps outer with _ | _
      · exact ⟨edit, List.mem_append_right _ (List.mem_singleton_self edit),
          Edit.covers_trans (hremoved outer houter hkeeps) hcovers⟩
      · exact ⟨outer, List.mem_append_left _ (List.mem_filter.mpr ⟨houter, hkeeps⟩), hcovers⟩
    · rw [List.mem_singleton.mp hmem] at hother ⊢
      exact ⟨edit, List.mem_append_right _ (List.mem_singleton_self edit),
        Edit.covers_self hother⟩

lemma Outermost.push (h : Outermost made edits) (hforward : edit.Forward)
    (hnested : ∀ other ∈ made, edit.NestedOrDisjoint other) :
    Outermost (made ++ [edit]) (edits.push edit) := by
  unfold Edits.push
  split
  next hinsertion =>
    rw [Edit.isInsertion_iff] at hinsertion
    split
    next => exact h.drop fun hlt => absurd hlt (Nat.not_lt.mpr hinsertion)
    next hinside =>
      rw [Bool.not_eq_true, List.any_eq_false] at hinside
      have := h.add edit (fun _ => true) (by simp) fun other hmem _ => by
        have := hinside other hmem
        rw [Edit.hasInside_iff] at this
        unfold Apart Forward at *
        omega
      rwa [List.filter_true] at this
  next hrange =>
    rw [Edit.isInsertion_iff, Nat.not_le] at hrange
    split
    next hcovered =>
      obtain ⟨other, hmem, hcovers⟩ := List.any_eq_true.mp hcovered
      exact h.drop fun _ => ⟨other, hmem, hcovers⟩
    next hcovered =>
      rw [Bool.not_eq_true, List.any_eq_false] at hcovered
      refine h.add edit _ ?_ ?_
      · intro other _ hkeeps
        exact Edit.covers_of_supersedes (by simpa using hkeeps)
      · intro other hmem hkeeps
        have hsupersedes : ¬ edit.supersedes other = true := by simpa using hkeeps
        have hcovers := hcovered other hmem
        have := hnested other (h.mem hmem)
        rw [Edit.supersedes_iff] at hsupersedes
        rw [Edit.covers_iff] at hcovers
        unfold Apart NestedOrDisjoint at *
        omega

/-- Whether the ranges of all edits run forward and are pairwise nested or disjoint. -/
structure Laminar (edits : List Edit) : Prop where
  forward : ∀ edit ∈ edits, edit.Forward
  nested : ∀ a ∈ edits, ∀ b ∈ edits, a.NestedOrDisjoint b

lemma Outermost.foldl {edits : Edits} {made more : List Edit} (h : Outermost made edits)
    (hlaminar : Laminar (made ++ more)) :
    Outermost (made ++ more) (more.foldl Edits.push edits) := by
  induction more generalizing made edits with
  | nil => rwa [List.append_nil]
  | cons edit more ih =>
    rw [List.append_cons] at hlaminar ⊢
    have hmem : edit ∈ made ++ [edit] ++ more := by simp
    refine ih (h.push (hlaminar.forward edit hmem) fun other hother => ?_) hlaminar
    exact hlaminar.nested edit hmem other (by simp [hother])

lemma ofList_outermost {made : List Edit} (h : Laminar made) : Outermost made (ofList made) :=
  @Outermost.foldl empty [] made ⟨.slnil, .nil, by simp⟩ h

/-! ### Application -/

/-- The edits in the order in which they are applied. -/
def ordered (edits : Edits) : List Edit := edits.items.mergeSort Edit.le

lemma mem_ordered : edit ∈ edits.ordered ↔ edit ∈ edits.items := List.mem_mergeSort

/-- Outermost edits stand one after another in the order of application. -/
lemma Outermost.ordered_pairwise (h : Outermost made edits) (hlaminar : Laminar made) :
    edits.ordered.Pairwise fun a b => a.stop ≤ b.start := by
  have hle : edits.ordered.Pairwise fun a b => a.le b :=
    @List.pairwise_mergeSort Edit Edit.le (fun _ _ _ => Edit.le_trans) Edit.le_total edits.items
  have hapart : edits.ordered.Pairwise Apart :=
    ((List.mergeSort_perm edits.items Edit.le).pairwise_iff fun h => h.symm).mpr h.apart
  refine (hapart.and hle).imp_of_mem fun {a b} _ hb ⟨hapart, hle⟩ => ?_
  exact Edit.stop_le_start_of_le hapart hle (hlaminar.forward b (h.mem (mem_ordered.mp hb)))

/-- The text from `cursor` on is turned into another one by these edits, one after another. -/
inductive Applied : (cursor : Nat) → (text : List Char) → List Edit → List Char → Prop where
  | done {cursor : Nat} {text : List Char} : Applied cursor text [] text
  | step {cursor : Nat} {edit : Edit} {edits : List Edit} {kept old text result : List Char}
      (hkept : cursor + size kept = edit.start) (hold : edit.start + size old = edit.stop)
      (happlied : Applied edit.stop text edits result) :
      Applied cursor (kept ++ (old ++ text)) (edit :: edits) (kept ++ edit.result old ++ result)

lemma applyFrom?_eq_some {cursor : Nat} {text result : List Char} {edits : List Edit}
    (hpairwise : edits.Pairwise fun a b => a.stop ≤ b.start)
    (hforward : ∀ edit ∈ edits, edit.Forward) (hcursor : ∀ edit ∈ edits, cursor ≤ edit.start) :
    applyFrom? cursor text edits = some result ↔ Applied cursor text edits result := by
  induction edits generalizing cursor text result with
  | nil =>
    constructor
    · intro h
      cases h
      exact .done
    · rintro ⟨⟩
      rfl
  | cons edit edits ih =>
    obtain ⟨hstop, hpairwise⟩ := List.pairwise_cons.mp hpairwise
    have hstart := hcursor edit (List.mem_cons_self ..)
    have hedit : edit.start ≤ edit.stop := hforward edit (List.mem_cons_self ..)
    have ih {text result} := @ih edit.stop text result hpairwise
      (fun other hmem => hforward other (List.mem_cons_of_mem _ hmem)) hstop
    rw [applyFrom?, if_neg (Nat.not_lt.mpr hstart)]
    simp only [Option.bind_eq_bind, Option.bind_eq_some_iff, Prod.exists, Option.pure_def,
      Option.some.injEq, cut?_eq_some, ih]
    constructor
    · rintro ⟨kept, _, ⟨rfl, hkept⟩, old, rest, ⟨rfl, hold⟩, tail, happlied, rfl⟩
      exact .step (by omega) (by omega) happlied
    · rintro ⟨⟩
      next kept old rest tail hkept hold happlied =>
        exact ⟨kept, old ++ rest, ⟨rfl, by omega⟩, old, rest, ⟨rfl, by omega⟩, tail, happlied, rfl⟩

/-- Edits one after another can be applied when their ranges begin and end at boundaries. -/
lemma applyFrom?_ne_none_iff {first text : List Char} {edits : List Edit}
    (hpairwise : edits.Pairwise fun a b => a.stop ≤ b.start)
    (hforward : ∀ edit ∈ edits, edit.Forward)
    (hcursor : ∀ edit ∈ edits, size first ≤ edit.start) :
    applyFrom? (size first) text edits ≠ none ↔
      ∀ edit ∈ edits,
        IsBoundary (first ++ text) edit.start ∧ IsBoundary (first ++ text) edit.stop := by
  induction edits generalizing first text with
  | nil => simp [applyFrom?]
  | cons edit edits ih =>
    obtain ⟨hstop, hpairwise⟩ := List.pairwise_cons.mp hpairwise
    have hstart := hcursor edit (List.mem_cons_self ..)
    have hedit : edit.start ≤ edit.stop := hforward edit (List.mem_cons_self ..)
    have ih (first text : List Char) (hsize : size first = edit.stop) := @ih first text hpairwise
      (fun other hmem => hforward other (List.mem_cons_of_mem _ hmem)) (hsize ▸ hstop)
    rw [applyFrom?, if_neg (Nat.not_lt.mpr hstart), List.forall_mem_cons]
    constructor
    · intro h
      obtain ⟨result, hresult⟩ := Option.ne_none_iff_exists'.mp h
      simp only [Option.bind_eq_bind, Option.bind_eq_some_iff, Prod.exists, Option.pure_def,
        Option.some.injEq, cut?_eq_some] at hresult
      obtain ⟨kept, _, ⟨rfl, hkept⟩, old, rest, ⟨rfl, hold⟩, tail, htail, -⟩ := hresult
      have hsize : size (first ++ kept ++ old) = edit.stop := by
        rw [size_append, size_append]
        omega
      have := (ih _ rest hsize).mp (by rw [hsize, htail]; exact Option.some_ne_none _)
      refine ⟨⟨⟨first ++ kept, old ++ rest, by simp, by rw [size_append]; omega⟩,
        first ++ kept ++ old, rest, by simp, hsize⟩, ?_⟩
      simpa using this
    · rintro ⟨⟨hstart', hstop'⟩, hrest⟩
      obtain ⟨kept, rest, rfl, hkept⟩ := (isBoundary_append_iff hstart).mp hstart'
      rw [← List.append_assoc] at hstop'
      have hsize : size (first ++ kept) = edit.start := by
        rw [size_append]
        omega
      obtain ⟨old, rest, rfl, hold⟩ := (isBoundary_append_iff (by omega)).mp hstop'
      rw [hsize] at hold
      have hsize' : size (first ++ kept ++ old) = edit.stop := by
        rw [size_append]
        omega
      have htail := (ih _ rest hsize').mpr (by simpa using hrest)
      rw [hsize'] at htail
      obtain ⟨tail, htail⟩ := Option.ne_none_iff_exists'.mp htail
      rw [cut?_eq_some.mpr ⟨rfl, hkept⟩]
      simp only [Option.bind_eq_bind, Option.bind_some]
      rw [cut?_eq_some.mpr ⟨rfl, hold⟩]
      simp [htail]

variable (hlaminar : Laminar made) {text result : List Char}
include hlaminar

/-- The outermost of edits that are nested or disjoint are applied one after another. -/
theorem applyTo?_eq_some :
    (ofList made).applyTo? text = some result ↔ Applied 0 text (ofList made).ordered result := by
  have houtermost := ofList_outermost hlaminar
  refine applyFrom?_eq_some (houtermost.ordered_pairwise hlaminar) ?_ fun _ _ => Nat.zero_le _
  intro edit hmem
  exact hlaminar.forward edit (houtermost.mem (mem_ordered.mp hmem))

/-- Applying edits that are nested or disjoint fails when an outermost one begins or ends inside a
character or past the end of the text. -/
theorem applyTo?_eq_none :
    (ofList made).applyTo? text = none ↔
      ∃ edit ∈ (ofList made).items, ¬ (IsBoundary text edit.start ∧ IsBoundary text edit.stop) := by
  have houtermost := ofList_outermost hlaminar
  have h := @applyFrom?_ne_none_iff [] text _
    (houtermost.ordered_pairwise hlaminar)
    (fun edit hmem => hlaminar.forward edit (houtermost.mem (mem_ordered.mp hmem)))
    (fun _ _ => Nat.zero_le _)
  rw [← not_iff_not]
  refine h.trans ?_
  simp [mem_ordered]

end Edits

end Stencil
