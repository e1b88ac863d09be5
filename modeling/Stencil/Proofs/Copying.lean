import Mathlib.Data.List.Perm.Subperm
import Stencil.Proofs.ModuleEdits

/-!
# What is copied of a source

`Copied` relates a source to its script: characters outside some ranges are copied, those in the
ranges are blanked or give way to a generated text, and each generated text is used once. Applying
edits that cover the ranges and nothing else copies a text in this sense (`Applied.copied`).
-/

namespace Stencil

open Text Erasure
open TypeScript (Tree Span)

/-- Whether a byte lies in one of these ranges. -/
def Lies (ranges : List Span) (offset : Nat) : Prop :=
  ∃ range ∈ ranges, range.start ≤ offset ∧ offset < range.stop

instance (ranges : List Span) : DecidablePred (Lies ranges) := fun offset =>
  inferInstanceAs (Decidable (∃ range ∈ ranges, range.start ≤ offset ∧ offset < range.stop))

/-- The text from `cursor` on is copied, but for what lies in the ranges: it is blanked, or replaced
by the texts of the generated edits, which are used one after another. -/
inductive Copied (ranges : List Span) :
    (generated : List Edit) → (cursor : Nat) → (text : List Char) → List Char → Prop where
  | done {cursor : Nat} : Copied ranges [] cursor [] []
  | copy {generated : List Edit} {cursor : Nat} {c : Char} {text result : List Char}
      (houtside : ¬ Lies ranges cursor)
      (hrest : Copied ranges generated (cursor + c.utf8Size) text result) :
      Copied ranges generated cursor (c :: text) (c :: result)
  | blank {generated : List Edit} {cursor : Nat} {c : Char} {text result : List Char}
      (hinside : Lies ranges cursor)
      (hrest : Copied ranges generated (cursor + c.utf8Size) text result) :
      Copied ranges generated cursor (c :: text) (Edit.blanked c :: result)
  | generate {generated : List Edit} {edit : Edit} {new : String} {old text result : List Char}
      (htext : edit.text = some new) (hold : edit.start + size old = edit.stop)
      (hinside : ∀ offset, edit.start ≤ offset → offset < edit.stop → Lies ranges offset)
      (hrest : Copied ranges generated edit.stop text result) :
      Copied ranges (edit :: generated) edit.start (old ++ text) (new.toList ++ result)

namespace Copied

variable {ranges : List Span} {generated : List Edit} {cursor : Nat} {text result : List Char}

/-- What lies outside the ranges is copied. -/
lemma copy_append {kept : List Char}
    (houtside : ∀ offset, cursor ≤ offset → offset < cursor + size kept → ¬ Lies ranges offset)
    (h : Copied ranges generated (cursor + size kept) text result) :
    Copied ranges generated cursor (kept ++ text) (kept ++ result) := by
  induction kept generalizing cursor with
  | nil => exact h
  | cons c kept ih =>
    have := c.utf8Size_pos
    rw [size_cons, ← Nat.add_assoc] at h houtside
    exact .copy (houtside cursor (Nat.le_refl _) (by omega))
      (ih (fun offset hle hlt => houtside offset (by omega) hlt) h)

/-- What lies in the ranges may be blanked. -/
lemma blank_append {old : List Char}
    (hinside : ∀ offset, cursor ≤ offset → offset < cursor + size old → Lies ranges offset)
    (h : Copied ranges generated (cursor + size old) text result) :
    Copied ranges generated cursor (old ++ text) (old.map Edit.blanked ++ result) := by
  induction old generalizing cursor with
  | nil => exact h
  | cons c old ih =>
    have := c.utf8Size_pos
    rw [size_cons, ← Nat.add_assoc] at h hinside
    exact .blank (hinside cursor (Nat.le_refl _) (by omega))
      (ih (fun offset hle hlt => hinside offset (by omega) hlt) h)

/-- A character outside the ranges is in the result. -/
lemma mem (h : Copied ranges generated cursor text result) {first last : List Char} {c : Char}
    (htext : text = first ++ c :: last) (houtside : ¬ Lies ranges (cursor + size first)) :
    c ∈ result := by
  induction h generalizing first with
  | done => simp at htext
  | copy _ _ ih =>
    rcases first with _ | ⟨d, first⟩ <;> obtain ⟨rfl, rfl⟩ := List.cons.inj htext
    · exact List.mem_cons_self
    · exact List.mem_cons_of_mem _ (ih rfl (by simpa [Nat.add_assoc] using houtside))
  | blank hinside _ ih =>
    rcases first with _ | ⟨d, first⟩ <;> obtain ⟨rfl, rfl⟩ := List.cons.inj htext
    · exact absurd hinside houtside
    · exact List.mem_cons_of_mem _ (ih rfl (by simpa [Nat.add_assoc] using houtside))
  | @generate _ edit new old text result _ hold hinside _ ih =>
    rcases List.append_eq_append_iff.mp htext with ⟨middle, rfl, rfl⟩ | ⟨middle, rfl, hmiddle⟩
    · rw [size_append, ← Nat.add_assoc, hold] at houtside
      exact List.mem_append_right _ (ih rfl houtside)
    · rcases middle with _ | ⟨d, middle⟩
      · rw [List.nil_append] at hmiddle
        rw [List.append_nil] at hold
        exact List.mem_append_right _ (@ih [] hmiddle.symm (by simpa [hold] using houtside))
      · have := d.utf8Size_pos
        simp only [size_append, size_cons] at hold
        exact absurd (hinside _ (by omega) (by omega)) houtside

end Copied

namespace Edits

/-- Edits that take out some ranges and nothing else copy a text. -/
lemma Applied.copied {ranges : List Span} {cursor : Nat} {text result : List Char}
    {edits : List Edit} (h : Applied cursor text edits result)
    (hpairwise : edits.Pairwise fun a b => a.stop ≤ b.start)
    (hinside : ∀ edit ∈ edits, ∀ offset, edit.start ≤ offset → offset < edit.stop →
      Lies ranges offset)
    (hcovered : ∀ offset, cursor ≤ offset → Lies ranges offset →
      ∃ edit ∈ edits, edit.start ≤ offset ∧ offset < edit.stop) :
    Copied ranges (edits.filter fun edit => edit.text.isSome) cursor text result := by
  induction h with
  | @done cursor text =>
    have := @Copied.copy_append ranges [] cursor [] [] text ?_ .done
    · simpa using this
    · intro offset hle _ hlies
      obtain ⟨edit, hmem, -⟩ := hcovered offset hle hlies
      cases hmem
  | @step cursor edit edits kept old text result hkept hold happlied ih =>
    obtain ⟨hlater, hpairwise⟩ := List.pairwise_cons.mp hpairwise
    obtain ⟨hedit, hinside⟩ := List.forall_mem_cons.mp hinside
    have hrest := ih hpairwise hinside fun offset hle hlies => by
      obtain ⟨other, hmem, hstart, hstop⟩ := hcovered offset (by omega) hlies
      rcases List.mem_cons.mp hmem with rfl | hmem
      · omega
      · exact ⟨other, hmem, hstart, hstop⟩
    have houtside (offset : Nat) (hle : cursor ≤ offset) (hlt : offset < cursor + size kept) :
        ¬ Lies ranges offset := by
      intro hlies
      obtain ⟨other, hmem, hstart, hstop⟩ := hcovered offset hle hlies
      rcases List.mem_cons.mp hmem with rfl | hmem
      · omega
      · have := hlater other hmem
        omega
    rw [List.append_assoc]
    refine .copy_append houtside ?_
    rw [hkept]
    cases htext : edit.text with
    | some new =>
      rw [List.filter_cons_of_pos (by simp [htext]), Edit.result, htext]
      exact .generate htext hold hedit hrest
    | none =>
      rw [List.filter_cons_of_neg (by simp [htext]), Edit.result, htext]
      rw [← hold] at hedit hrest
      exact .blank_append hedit hrest

/-- What the edits that remain take out is what all of them do. -/
lemma Outermost.lies_iff {made : List Edit} {edits : Edits} (h : Outermost made edits)
    (offset : Nat) :
    Lies (made.map rangeOf) offset ↔
      ∃ edit ∈ edits.ordered, edit.start ≤ offset ∧ offset < edit.stop := by
  constructor
  · rintro ⟨range, hrange, hstart, hstop⟩
    obtain ⟨edit, hedit, rfl⟩ := List.mem_map.mp hrange
    obtain ⟨other, hother, hcovers⟩ := h.covered edit hedit (Nat.lt_of_le_of_lt hstart hstop)
    rw [Edit.covers_iff] at hcovers
    exact ⟨other, mem_ordered.mpr hother, Nat.le_trans hcovers.2.1 hstart,
      Nat.lt_of_lt_of_le hstop hcovers.2.2⟩
  · rintro ⟨edit, hedit, hin⟩
    exact ⟨rangeOf edit, List.mem_map_of_mem (h.mem (mem_ordered.mp hedit)), hin⟩

/-- Applying edits copies what lies outside their ranges. -/
theorem applyTo?_copied_outside {edits : List Edit} {text result : List Char}
    (hlaminar : Laminar edits) (h : (ofList edits).applyTo? text = some result) :
    Copied (edits.map rangeOf) ((ofList edits).ordered.filter fun edit => edit.text.isSome) 0 text
      result := by
  have houtermost := ofList_outermost hlaminar
  have hlies := houtermost.lies_iff
  exact ((applyTo?_eq_some hlaminar).mp h).copied (houtermost.ordered_pairwise hlaminar)
    (fun edit hmem offset hstart hstop => (hlies offset).mpr ⟨edit, hmem, hstart, hstop⟩)
    fun offset _ => (hlies offset).mp

end Edits

end Stencil
