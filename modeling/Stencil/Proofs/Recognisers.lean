import Mathlib.Tactic.Lemma
import Stencil.ModuleLoad

/-!
# Recognisers of loads

What the recognisers of loads take from a text, and what they demand of it. `Takes` says that a
recogniser may take the middle of three parts of a text; it is closed under sequencing
(`Takes.cons`), and what one of the recognisers takes somewhere is found
(`Takes.statement?_isSome`). Each recogniser demands one of three words, so a text that has none
of them holds nothing to find (`exists_word_of_statement?`).
-/

namespace Stencil

namespace ModuleLoad

/-! ### What recognisers take -/

/-- The place between two parts of a text. -/
def between (first rest : List Char) : Place := ⟨first.getLast?, rest⟩

/-- Whether a recogniser may take the middle one of three parts of a text. -/
def Takes (recogniser : Recogniser) (first middle last : List Char) : Prop :=
  between (first ++ middle) last ∈ recogniser (between first (middle ++ last))

section

variable {holds : Char → Bool} {first middle last : List Char} {c : Char}

lemma between_append_singleton (first rest : List Char) (c : Char) :
    between (first ++ [c]) rest = ⟨some c, rest⟩ := by
  simp [between]

lemma takes_one (h : holds c) : Takes (one holds) first [c] last := by
  simp [Takes, between, one, h]

lemma takes_literal (text : List Char) : Takes (literal text) first text last := by
  induction text generalizing first with
  | nil => simp [Takes, literal]
  | cons c text ih =>
    have := @ih (first ++ [c])
    rw [Takes, between_append_singleton, List.append_assoc, List.singleton_append] at this
    simpa [Takes, between, literal] using this

lemma takes_word (text : String) : Takes (word text) first text.toList last :=
  takes_literal _

lemma takes_any (h : middle.all holds) : Takes (any holds) first middle last := by
  have hstay (before : Option Char) (text : List Char) :
      (⟨before, text⟩ : Place) ∈ anyFrom holds before text := by
    cases text with
    | nil      => exact List.mem_singleton_self _
    | cons c _ =>
      unfold anyFrom
      split <;> exact List.mem_cons_self ..
  unfold Takes any
  induction middle generalizing first with
  | nil =>
    rw [List.append_nil]
    exact hstay _ last
  | cons c middle ih =>
    rw [List.all_cons, Bool.and_eq_true] at h
    have := @ih (first ++ [c]) h.2
    rw [between_append_singleton, List.append_assoc, List.singleton_append] at this
    simp only [between, List.cons_append, anyFrom, h.1, if_true]
    exact List.mem_cons_of_mem _ this

lemma takes_some1 (h : middle.all holds) (hne : middle ≠ []) :
    Takes (some1 holds) first middle last := by
  obtain ⟨c, middle, rfl⟩ := List.exists_cons_of_ne_nil hne
  rw [List.all_cons, Bool.and_eq_true] at h
  have hone := @takes_one holds first (middle ++ last) c h.1
  have hany := @takes_any holds (first ++ [c]) middle last h.2
  rw [Takes, List.append_assoc, List.singleton_append] at hany
  exact List.mem_flatMap.mpr ⟨_, hone, hany⟩

lemma takes_lineStart (h : first.getLast? = none ∨ first.getLast? = some '\n') :
    Takes lineStart first [] last := by
  have hplace : lineStart (between first last) = [between first last] := if_pos h
  rw [Takes, List.append_nil, List.nil_append, hplace]
  exact List.mem_singleton_self _

lemma takes_wordEnd (h : ∀ c ∈ last.head?, Text.isWord c = false) :
    Takes wordEnd first [] last := by
  cases last <;> simp_all [Takes, between, wordEnd]

end

/-- A recogniser that fits somewhere in a text is found in it. -/
lemma find?_isSome {recogniser : Recogniser} {done first rest : List Char}
    (h : recogniser (between (done ++ first) rest) ≠ []) :
    (find? recogniser done.getLast? (first ++ rest)).isSome := by
  induction first generalizing done with
  | nil =>
    rw [List.append_nil] at h
    cases rest with
    | nil      => simpa [find?, between] using h
    | cons c _ =>
      rw [List.nil_append]
      unfold find?
      rw [if_neg (by simpa [between] using h)]
      rfl
  | cons c first ih =>
    rw [List.cons_append]
    unfold find?
    split
    next =>
      have := @ih (done ++ [c]) (by simpa using h)
      rwa [List.getLast?_append, List.getLast?_singleton] at this
    next => rfl

namespace Takes

variable {recogniser other : Recogniser} {recognisers : List Recogniser}
  {first middle second last : List Char}

lemma andThen (h : Takes recogniser first middle (second ++ last))
    (hother : Takes other (first ++ middle) second last) :
    Takes (andThen recogniser other) first (middle ++ second) last := by
  rw [Takes, ← List.append_assoc, List.append_assoc middle]
  exact List.mem_flatMap.mpr ⟨_, h, hother⟩

lemma left (h : Takes recogniser first middle last) :
    Takes (either recogniser other) first middle last :=
  List.mem_append_left _ h

lemma right (h : Takes other first middle last) :
    Takes (either recogniser other) first middle last :=
  List.mem_append_right _ h

lemma maybe (h : Takes recogniser first middle last) :
    Takes (maybe recogniser) first middle last :=
  List.mem_append_left _ h

lemma maybe_none : Takes (ModuleLoad.maybe recogniser) first [] last := by
  refine List.mem_append_right _ ?_
  rw [List.append_nil]
  exact List.mem_singleton_self _

lemma sequence_nil : Takes (sequence []) first [] last := by
  simp [Takes, sequence]

/-- The first of several things, and what the others take after it. -/
lemma cons (h : Takes recogniser first middle (second ++ last))
    (hothers : Takes (sequence recognisers) (first ++ middle) second last) :
    Takes (sequence (recogniser :: recognisers)) first (middle ++ second) last :=
  h.andThen hothers

/-- The last of several things. -/
lemma sequence_singleton (h : Takes recogniser first middle last) :
    Takes (sequence [recogniser]) first middle last := by
  have := @cons recogniser [] first middle [] last h sequence_nil
  rwa [List.append_nil] at this

/-- What one of the recognisers takes somewhere is found. -/
lemma statement?_isSome (h : Takes recogniser first middle last)
    (hmem : recogniser ∈ ModuleLoad.recognisers) :
    (statement? (first ++ (middle ++ last))).isSome := by
  have hfits : recogniser (between ([] ++ first) (middle ++ last)) ≠ [] := List.ne_nil_of_mem h
  have hfound := find?_isSome hfits
  rw [statement?, Option.isSome_map, load?, List.findSome?_isSome_iff]
  exact ⟨recogniser, hmem, hfound⟩

end Takes

/-! ### What recognisers demand -/

/-- Whether a recogniser ends where it begins or later. -/
def Forward (recogniser : Recogniser) : Prop :=
  ∀ place, ∀ later ∈ recogniser place, later.rest <:+ place.rest

/-- Whether a recogniser fits only where some text follows. -/
def Demands (recogniser : Recogniser) (text : List Char) : Prop :=
  ∀ place, ∀ later ∈ recogniser place, text <:+: place.rest

namespace Forward

variable {recogniser other : Recogniser}

lemma of_mem_singleton {place later : Place} (h : later ∈ [place]) : later.rest <:+ place.rest := by
  obtain rfl := List.mem_singleton.mp h
  exact List.suffix_rfl

lemma one (holds : Char → Bool) : Forward (one holds) := by
  intro ⟨before, rest⟩ later hlater
  cases rest with
  | nil => cases hlater
  | cons c rest =>
    simp only [ModuleLoad.one] at hlater
    split at hlater
    · rw [List.mem_singleton.mp hlater]
      exact List.suffix_cons c rest
    · cases hlater

lemma literal (text : List Char) : Forward (literal text) := by
  induction text with
  | nil =>
    intro place later hlater
    exact of_mem_singleton hlater
  | cons c text ih =>
    rintro ⟨before, _ | ⟨d, rest⟩⟩ later hlater
    · cases hlater
    · simp only [ModuleLoad.literal] at hlater
      split at hlater
      · exact (ih _ later hlater).trans (List.suffix_cons d rest)
      · cases hlater

lemma any (holds : Char → Bool) : Forward (any holds) := by
  rintro ⟨before, rest⟩ later hlater
  unfold ModuleLoad.any at hlater
  dsimp only at hlater ⊢
  induction rest generalizing before with
  | nil =>
    exact of_mem_singleton hlater
  | cons c rest ih =>
    unfold anyFrom at hlater
    split at hlater
    · rcases List.mem_cons.mp hlater with rfl | hlater
      · exact List.suffix_refl _
      · exact (ih _ hlater).trans (List.suffix_cons c rest)
    · exact of_mem_singleton hlater

lemma lineStart : Forward lineStart := by
  intro place later hlater
  unfold ModuleLoad.lineStart at hlater
  split at hlater
  · exact of_mem_singleton hlater
  · cases hlater

lemma andThen (h : Forward recogniser) (hother : Forward other) :
    Forward (andThen recogniser other) := by
  intro place later hlater
  obtain ⟨middle, hmiddle, hlater⟩ := List.mem_flatMap.mp hlater
  exact (hother middle later hlater).trans (h place middle hmiddle)

lemma either (h : Forward recogniser) (hother : Forward other) :
    Forward (either recogniser other) :=
  fun place later hlater => (List.mem_append.mp hlater).elim (h place later) (hother place later)

lemma maybe (h : Forward recogniser) : Forward (maybe recogniser) := by
  intro place later hlater
  rcases List.mem_append.mp hlater with hlater | hlater
  · exact h place later hlater
  · exact of_mem_singleton hlater

lemma sequence {recognisers : List Recogniser}
    (h : ∀ recogniser ∈ recognisers, Forward recogniser) : Forward (sequence recognisers) := by
  induction recognisers with
  | nil =>
    intro place later hlater
    exact of_mem_singleton hlater
  | cons recogniser recognisers ih =>
    obtain ⟨hfirst, hothers⟩ := List.forall_mem_cons.mp h
    exact hfirst.andThen (ih hothers)

end Forward

namespace Demands

variable {recogniser other : Recogniser} {recognisers : List Recogniser} {text : List Char}

lemma word (text : String) : Demands (word text) text.toList := by
  have hliteral (text : List Char) (place later : Place) (hlater : later ∈ literal text place) :
      text <+: place.rest := by
    induction text generalizing place with
    | nil => exact List.nil_prefix
    | cons c text ih =>
      obtain ⟨before, _ | ⟨d, rest⟩⟩ := place
      · cases hlater
      · simp only [literal] at hlater
        split at hlater
        next heq =>
          rw [heq]
          exact List.prefix_cons_inj d |>.mpr (ih _ hlater)
        next => cases hlater
  exact fun place later hlater => (hliteral _ place later hlater).isInfix

lemma head (h : Demands recogniser text) : Demands (sequence (recogniser :: recognisers)) text := by
  intro place later hlater
  obtain ⟨middle, hmiddle, -⟩ := List.mem_flatMap.mp hlater
  exact h place middle hmiddle

lemma tail (hforward : Forward recogniser) (h : Demands (sequence recognisers) text) :
    Demands (sequence (recogniser :: recognisers)) text := by
  intro place later hlater
  obtain ⟨middle, hmiddle, hlater⟩ := List.mem_flatMap.mp hlater
  exact (h middle later hlater).trans (hforward place middle hmiddle).isInfix

/-- What a recogniser demands is somewhere in a text in which it finds something. -/
lemma of_find? {before : Option Char} {source : List Char} (h : Demands recogniser text)
    (hfind : (find? recogniser before source).isSome) : text <:+: source := by
  have of_ne {place : Place} (hne : ¬ (recogniser place).isEmpty) : text <:+: place.rest := by
    obtain ⟨later, hlater⟩ := List.exists_mem_of_ne_nil _ (by simpa using hne)
    exact h place later hlater
  induction source generalizing before with
  | nil =>
    unfold find? at hfind
    split at hfind
    next => cases hfind
    next hne => exact of_ne hne
  | cons c source ih =>
    unfold find? at hfind
    split at hfind
    next => exact (ih hfind).trans (List.suffix_cons c source).isInfix
    next hne => exact of_ne hne

end Demands

/-- The words of which each load has one. -/
def loadWords : List String := ["import", "require", "from"]

lemma exists_demands {recogniser : Recogniser} (h : recogniser ∈ recognisers) :
    ∃ text ∈ loadWords, Demands recogniser text.toList := by
  have hcall (name : String) : Demands (call name) name.toList :=
    .tail (.either .lineStart (.one _)) (.head (.word name))
  simp only [recognisers, List.mem_cons, List.not_mem_nil, or_false] at h
  rcases h with rfl | rfl | rfl | rfl
  · exact ⟨"import", by decide, .tail .lineStart (.tail (.any _) (.head (.word _)))⟩
  · exact ⟨"import", by decide, hcall _⟩
  · exact ⟨"require", by decide, hcall _⟩
  · have hsome (holds : Char → Bool) : Forward (some1 holds) := .andThen (.one _) (.any _)
    refine ⟨"from", by decide, ?_⟩
    refine .tail .lineStart (.tail (.any _) (.tail (.literal _) (.tail (hsome _) ?_)))
    refine .tail (.maybe (.andThen (.literal _) (hsome _))) (.tail (.either (.one _) ?_) ?_)
    · refine .sequence ?_
      simp only [List.forall_mem_cons]
      exact ⟨.one _, .any _, .one _, List.forall_mem_nil _⟩
    · refine .tail (.any _) (.tail (.maybe (.sequence ?_)) (.head (.word _)))
      simp only [List.forall_mem_cons]
      exact ⟨.literal _, hsome _, hsome _, .any _, List.forall_mem_nil _⟩

lemma exists_word_of_statement? {source : List Char} (h : (statement? source).isSome) :
    ∃ text ∈ loadWords, text.toList <:+: source := by
  rw [statement?, Option.isSome_map, load?, List.findSome?_isSome_iff] at h
  obtain ⟨recogniser, hmem, hfind⟩ := h
  obtain ⟨text, htext, hdemands⟩ := exists_demands hmem
  exact ⟨text, htext, hdemands.of_find? hfind⟩

end ModuleLoad

end Stencil
