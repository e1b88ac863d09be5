import Mathlib.Tactic.Lemma
import Stencil.TypeScript.Tree

/-!
# Offsets and boundaries

An offset is a boundary of a text when a character begins there or the text ends there. Texts can be
divided at boundaries and nowhere else (`cut?_eq_some`, `isBoundary_iff_cut?`), and the slice of a
span between two boundaries is the text between them (`slice_append`).
-/

namespace Stencil.Text

/-! ### Sizes -/

@[simp] lemma size_nil : size [] = 0 := rfl

@[simp] lemma size_cons (c : Char) (text : List Char) :
    size (c :: text) = c.utf8Size + size text := rfl

@[simp] lemma size_append (first second : List Char) :
    size (first ++ second) = size first + size second := by
  induction first with
  | nil          => simp
  | cons c first ih => simp [ih, Nat.add_assoc]

lemma eq_nil_of_size_eq_zero {text : List Char} (h : size text = 0) : text = [] := by
  match text with
  | []     => rfl
  | c :: _ =>
    have := c.utf8Size_pos
    rw [size_cons] at h
    omega

/-! ### Division of a text -/

@[simp] lemma before_append_size (first second : List Char) :
    before (first ++ second) (size first) = first := by
  induction first with
  | nil =>
    cases second with
    | nil      => rfl
    | cons c _ =>
      have := c.utf8Size_pos
      simp only [List.nil_append, size_nil, before]
      rw [if_neg (by omega)]
  | cons c first ih =>
    rw [List.cons_append, size_cons, before, if_pos (by omega), Nat.add_sub_cancel_left, ih]

@[simp] lemma after_append_size (first second : List Char) :
    after (first ++ second) (size first) = second := by
  induction first with
  | nil => cases second <;> rfl
  | cons c first ih =>
    have := c.utf8Size_pos
    rw [List.cons_append, size_cons, after, if_pos (by omega), Nat.add_sub_cancel_left, ih]

/-- What ends by an offset is at the front of the text, and the rest begins there if it ends
exactly there. -/
lemma before_append_after {text : List Char} {offset : Nat}
    (h : size (before text offset) = offset) :
    before text offset ++ after text offset = text := by
  induction text generalizing offset with
  | nil => rfl
  | cons c text ih =>
    have := c.utf8Size_pos
    rw [before] at h ⊢
    split at h
    · rw [size_cons] at h
      rw [if_pos ‹_›, after, if_pos (by omega), List.cons_append, ih (by omega)]
    · rw [size_nil] at h
      subst h
      rw [if_neg ‹_›, after, if_neg (by omega), List.nil_append]

lemma cut?_eq_some {text : List Char} {offset : Nat} {first second : List Char} :
    cut? text offset = some (first, second) ↔ text = first ++ second ∧ size first = offset := by
  unfold cut?
  dsimp only
  constructor
  · intro h
    split at h
    next hsize =>
      obtain ⟨rfl, rfl⟩ := Prod.mk.inj (Option.some.inj h)
      exact ⟨(before_append_after hsize).symm, hsize⟩
    next => cases h
  · rintro ⟨rfl, rfl⟩
    rw [before_append_size, after_append_size, if_pos rfl]

/-! ### Boundaries -/

/-- Whether a character begins at an offset, or the text ends there. -/
def IsBoundary (text : List Char) (offset : Nat) : Prop :=
  ∃ first second, text = first ++ second ∧ size first = offset

lemma isBoundary_iff_cut? {text : List Char} {offset : Nat} :
    IsBoundary text offset ↔ cut? text offset ≠ none := by
  rw [Option.ne_none_iff_exists']
  constructor
  · rintro ⟨first, second, h⟩
    exact ⟨(first, second), cut?_eq_some.mpr h⟩
  · rintro ⟨⟨first, second⟩, h⟩
    exact ⟨first, second, cut?_eq_some.mp h⟩

lemma isBoundary_zero (text : List Char) : IsBoundary text 0 := ⟨[], text, rfl, rfl⟩

lemma isBoundary_size (text : List Char) : IsBoundary text (size text) :=
  ⟨text, [], (List.append_nil text).symm, rfl⟩

lemma IsBoundary.le {text : List Char} {offset : Nat} (h : IsBoundary text offset) :
    offset ≤ size text := by
  obtain ⟨first, second, rfl, rfl⟩ := h
  rw [size_append]
  omega

/-- Two parts of a text at its front, the shorter of which begins the longer. -/
lemma exists_append_of_size_le {first second first' second' : List Char}
    (h : first ++ second = first' ++ second') (hle : size first ≤ size first') :
    ∃ middle, first' = first ++ middle ∧ second = middle ++ second' := by
  rcases List.append_eq_append_iff.mp h with ⟨middle, rfl, rfl⟩ | ⟨middle, rfl, rfl⟩
  · exact ⟨middle, rfl, rfl⟩
  · rw [size_append] at hle
    obtain rfl := eq_nil_of_size_eq_zero (show size middle = 0 by omega)
    exact ⟨[], by simp, by simp⟩

/-- Of two texts that are divided at the same offset, the parts are the same. -/
lemma append_inj_of_size_eq {first second first' second' : List Char}
    (h : first ++ second = first' ++ second') (hsize : size first = size first') :
    first = first' ∧ second = second' := by
  obtain ⟨middle, rfl, rfl⟩ := exists_append_of_size_le h (Nat.le_of_eq hsize)
  rw [size_append] at hsize
  obtain rfl := eq_nil_of_size_eq_zero (show size middle = 0 by omega)
  exact ⟨(List.append_nil first).symm, rfl⟩

/-- The boundaries after a part of the text are those of the rest. -/
lemma isBoundary_append_iff {first second : List Char} {offset : Nat} (h : size first ≤ offset) :
    IsBoundary (first ++ second) offset ↔ IsBoundary second (offset - size first) := by
  constructor
  · rintro ⟨first', second', happ, rfl⟩
    obtain ⟨middle, rfl, rfl⟩ := exists_append_of_size_le happ h
    exact ⟨middle, second', rfl, by rw [size_append, Nat.add_sub_cancel_left]⟩
  · rintro ⟨middle, rest, rfl, hsize⟩
    exact ⟨first ++ middle, rest, by rw [List.append_assoc], by rw [size_append]; omega⟩

end Stencil.Text

namespace Stencil.TypeScript

open Text

/-! ### Slices -/

lemma Span.slice_append (first middle last : List Char) :
    (⟨size first, size first + size middle⟩ : Span).slice (first ++ (middle ++ last)) = middle := by
  simp only [slice, after_append_size, Nat.add_sub_cancel_left, before_append_size]

/-- Whether a span goes from one boundary of a source to another that is not before it. -/
structure Span.IsSlice (source : List Char) (span : Span) : Prop where
  start : IsBoundary source span.start
  stop : IsBoundary source span.stop
  le : span.start ≤ span.stop

/-- Such a span divides the source in three, and its slice is the part in the middle. -/
lemma Span.IsSlice.slice_eq {source : List Char} {span : Span} (h : span.IsSlice source) :
    ∃ first last, source = first ++ (span.slice source ++ last) ∧ size first = span.start ∧
      size first + size (span.slice source) = span.stop := by
  obtain ⟨start, stop⟩ := span
  obtain ⟨⟨first, rest, rfl, rfl⟩, hstop, hle⟩ := h
  obtain ⟨middle, last, rfl, hsize⟩ := (isBoundary_append_iff hle).mp hstop
  obtain rfl : stop = size first + size middle := by dsimp only at hle hsize; omega
  rw [slice_append]
  exact ⟨first, last, rfl, rfl, rfl⟩

end Stencil.TypeScript
