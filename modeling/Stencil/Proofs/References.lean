import Mathlib.Data.List.Infix
import Mathlib.Tactic.Lemma
import Stencil.Path.Reference

/-!
# References to packs

What is left of a reference is its end (`normalizeChars_suffix`), and a text without a lead is left
as it is (`normalizeChars_append_slash`). Each lead is removed once, so what is left can begin with
a slash, and end with one, where the reference has two in a row (`head?_packReference?`,
`getLast?_packReference?`).
-/

namespace Stencil.Path

variable {lead text rest name directory : List Char} {reference : String}

/-! ### Slashes -/

lemma slashed_of_not_mem (h : '\\' ∉ text) : slashed text = text := by
  refine (List.map_congr_left fun c hc => ?_).trans (List.map_id _)
  rw [if_neg fun heq : c = '\\' => h (heq ▸ hc), id]

lemma backslash_not_mem_slashed (text : List Char) : '\\' ∉ slashed text := by
  intro h
  obtain ⟨c, -, hc⟩ := List.mem_map.mp h
  split at hc
  next => revert hc; decide
  next hne => exact hne hc

/-! ### Leads -/

lemma dropLead_append (lead rest : List Char) : dropLead lead (lead ++ rest) = rest := by
  rw [dropLead, if_pos (List.isPrefixOf_iff_prefix.mpr (List.prefix_append ..)), List.drop_left]

lemma dropLead_eq_self (h : ¬lead <+: text) : dropLead lead text = text := by
  rw [dropLead, if_neg (List.isPrefixOf_iff_prefix.not.mpr h)]

lemma dropLead_cases (lead text : List Char) :
    text = lead ++ dropLead lead text ∨ ¬lead <+: text ∧ dropLead lead text = text := by
  by_cases h : lead <+: text
  · obtain ⟨rest, rfl⟩ := h
    rw [dropLead_append]
    exact .inl rfl
  · exact .inr ⟨h, dropLead_eq_self h⟩

lemma dropLead_suffix (lead text : List Char) : dropLead lead text <:+ text := by
  rcases dropLead_cases lead text with h | ⟨-, h⟩
  · exact ⟨lead, h.symm⟩
  · rw [h]

lemma normalizeChars_suffix (text : List Char) : normalizeChars text <:+ slashed text :=
  ((dropLead_suffix ..).trans (dropLead_suffix ..)).trans (dropLead_suffix ..)

/-- The leads that a pattern loses. -/
def leads : List (List Char) := [['.', '/'], ['/'], packsRoot]

/-- Whether what stands in a directory begins with a lead. -/
def IsLed (directory : List Char) : Prop :=
  directory = ['.'] ∨ directory = "packs".toList ∨ ∃ lead ∈ leads, lead <+: directory

instance : Decidable (IsLed directory) := inferInstanceAs (Decidable (_ ∨ _ ∨ _))

/-- A name with a slash behind it is in front of a path if it is in front of the directory or if it
is the directory. -/
lemma prefix_append_slash (hname : '/' ∉ name) :
    name ++ ['/'] <+: directory ++ '/' :: rest ↔
      name ++ ['/'] <+: directory ∨ directory = name := by
  induction name generalizing directory with
  | nil => cases directory <;> simp [List.cons_prefix_cons]
  | cons c name ih =>
    rw [List.mem_cons, not_or] at hname
    cases directory with
    | nil => simp [List.cons_prefix_cons, Ne.symm hname.1]
    | cons d directory =>
      rw [List.cons_append, List.cons_append, List.cons_prefix_cons, List.cons_prefix_cons,
        ih hname.2, List.cons.injEq]
      constructor
      · rintro ⟨rfl, h | rfl⟩ <;> simp_all
      · rintro (⟨rfl, h⟩ | ⟨rfl, rfl⟩) <;> simp_all

/-- What stands in a directory begins with no lead if the directory does not. -/
lemma not_prefix_append_slash (hdirectory : directory ≠ []) (hled : ¬IsLed directory)
    (rest : List Char) : ∀ lead ∈ leads, ¬lead <+: directory ++ '/' :: rest := by
  rw [IsLed, not_or, not_or] at hled
  obtain ⟨hdot, hpacks, hled⟩ := hled
  have hlead (name : List Char) (hname : '/' ∉ name) (hmem : name ++ ['/'] ∈ leads)
      (hne : directory ≠ name) : ¬name ++ ['/'] <+: directory ++ '/' :: rest := by
    rw [prefix_append_slash hname]
    exact fun h => h.elim (fun hprefix => hled ⟨_, hmem, hprefix⟩) hne
  intro lead hmem
  simp only [leads, List.mem_cons, List.not_mem_nil, or_false] at hmem
  rcases hmem with rfl | rfl | rfl
  · exact hlead ['.'] (by decide) (by decide) hdot
  · exact hlead [] (by decide) (by decide) hdirectory
  · exact hlead "packs".toList (by decide) (by decide) hpacks

/-- What stands in a directory is left as it is if there is no lead. -/
lemma normalizeChars_append_slash (hdirectory : directory ≠ []) (hled : ¬IsLed directory)
    (hbackslash : '\\' ∉ directory ++ '/' :: rest) :
    normalizeChars (directory ++ '/' :: rest) = directory ++ '/' :: rest := by
  have hnone := not_prefix_append_slash hdirectory hled rest
  rw [normalizeChars, slashed_of_not_mem hbackslash,
    dropLead_eq_self (hnone ['.', '/'] (by decide)),
    dropLead_eq_self (hnone ['/'] (by decide)),
    dropLead_eq_self (hnone packsRoot (by decide))]

/-! ### References -/

lemma dropTrailingSlash_cases (text : List Char) :
    text = dropTrailingSlash text ++ ['/'] ∨
      text.getLast? ≠ some '/' ∧ dropTrailingSlash text = text := by
  unfold dropTrailingSlash
  split
  next h =>
    obtain ⟨front, rfl⟩ := List.getLast?_eq_some_iff.mp h
    rw [List.dropLast_concat]
    exact .inl rfl
  next h => exact .inr ⟨h, rfl⟩

/-- What stands before a slash that is left, as leads. -/
def slashLeads : List (List Char) :=
  ["/", "packs/", "/packs/", ".//", "./packs/", ".//packs/"].map String.toList

/-- A slash is left in front where a lead with a slash stands before it. -/
lemma normalizeChars_eq_cons_iff :
    normalizeChars text = '/' :: rest ↔
      ∃ lead ∈ slashLeads, slashed text = lead ++ '/' :: rest := by
  constructor
  · intro h
    unfold normalizeChars at h
    generalize slashed text = text at h ⊢
    obtain ⟨dot, hdot, htext⟩ :
        ∃ dot ∈ [[], ['.', '/']], text = dot ++ dropLead ['.', '/'] text := by
      rcases dropLead_cases ['.', '/'] text with heq | ⟨-, heq⟩
      · exact ⟨_, by decide, heq⟩
      · exact ⟨[], by decide, heq.symm⟩
    generalize dropLead ['.', '/'] text = text' at h htext
    have hlead (front : List Char) (hfront : front ∈ [['/'], packsRoot, '/' :: packsRoot])
        (htext' : text' = front ++ '/' :: rest) :
        ∃ lead ∈ slashLeads, text = lead ++ '/' :: rest := by
      have hall : ∀ dot ∈ [[], ['.', '/']], ∀ front ∈ [['/'], packsRoot, '/' :: packsRoot],
          dot ++ front ∈ slashLeads := by
        decide
      exact ⟨dot ++ front, hall dot hdot front hfront, by rw [htext, htext', List.append_assoc]⟩
    have hroot := dropLead_cases packsRoot (dropLead ['/'] text')
    rw [h] at hroot
    rcases dropLead_cases ['/'] text' with hslash | ⟨hslash, heq⟩
    · rcases hroot with hroot | ⟨-, hroot⟩
      · exact hlead ('/' :: packsRoot) (by decide) (by rw [hslash, hroot]; rfl)
      · exact hlead ['/'] (by decide) (by rw [hslash, ← hroot])
    · rw [heq] at hroot
      rcases hroot with hroot | ⟨-, hroot⟩
      · exact hlead packsRoot (by decide) hroot
      · -- there would be a slash to remove
        exact absurd ⟨rest, hroot⟩ hslash
  · rintro ⟨lead, hlead, h⟩
    rw [normalizeChars, h]
    simp only [slashLeads, List.map_cons, List.map_nil, List.mem_cons, List.not_mem_nil,
      or_false] at hlead
    rcases hlead with rfl | rfl | rfl | rfl | rfl | rfl <;> rfl

/-- A pack is named by what is left of the reference to it. -/
lemma packReference?_eq_some_iff {directory : String} :
    packReference? reference = some directory ↔
      directory ≠ "" ∧ dropTrailingSlash (normalizeChars reference.toList) = directory.toList := by
  unfold packReference?
  split
  next h =>
    rw [h, eq_comm (a := []), String.toList_eq_nil_iff]
    simp
  next h =>
    rw [Option.some.injEq, ← String.toList_inj, String.toList_ofList, iff_and_self]
    rintro heq rfl
    exact h heq

section

variable {directory : String} (hpack : packReference? reference = some directory)
include hpack

lemma directory_eq_or_append :
    normalizeChars reference.toList = directory.toList ++ ['/'] ∨
      normalizeChars reference.toList = directory.toList ∧
        directory.toList.getLast? ≠ some '/' := by
  obtain ⟨-, hdirectory⟩ := packReference?_eq_some_iff.mp hpack
  rcases dropTrailingSlash_cases (normalizeChars reference.toList) with h | ⟨hlast, h⟩
  · rw [hdirectory] at h
    exact .inl h
  · rw [hdirectory] at h
    rw [← h] at hlast
    exact .inr ⟨h.symm, hlast⟩

lemma backslash_not_mem_packReference? : '\\' ∉ directory.toList := by
  intro h
  have hleft : '\\' ∈ normalizeChars reference.toList := by
    rcases directory_eq_or_append hpack with heq | ⟨heq, -⟩ <;> rw [heq]
    · exact List.mem_append_left _ h
    · exact h
  exact backslash_not_mem_slashed _ ((normalizeChars_suffix _).subset hleft)

/-- A directory begins with a slash just where a slash is left in front. -/
lemma head?_packReference? : directory.toList.head? = some '/' ↔
    ∃ lead ∈ slashLeads, lead ++ ['/'] <+: slashed reference.toList := by
  obtain ⟨hne, -⟩ := packReference?_eq_some_iff.mp hpack
  have hhead : directory.toList.head? = (normalizeChars reference.toList).head? := by
    rcases directory_eq_or_append hpack with heq | ⟨heq, -⟩
    · rw [heq, List.head?_append_of_ne_nil _ (by simpa using hne)]
    · rw [heq]
  rw [hhead, List.head?_eq_some_iff]
  simp only [normalizeChars_eq_cons_iff, List.prefix_iff_exists_append_eq, List.append_assoc,
    List.singleton_append]
  constructor
  · rintro ⟨rest, lead, hlead, h⟩
    exact ⟨lead, hlead, rest, h.symm⟩
  · rintro ⟨lead, hlead, rest, h⟩
    exact ⟨rest, lead, hlead, h.symm⟩

/-- A directory ends with a slash just where the reference ends with two. -/
lemma getLast?_packReference? : directory.toList.getLast? = some '/' ↔
    ['/', '/'] <:+ slashed reference.toList := by
  obtain ⟨hne, -⟩ := packReference?_eq_some_iff.mp hpack
  have hlength : 1 ≤ directory.toList.length :=
    List.length_pos_iff.mpr (String.toList_eq_nil_iff.not.mpr hne)
  have hsuffix := normalizeChars_suffix reference.toList
  rcases directory_eq_or_append hpack with heq | ⟨heq, hlast⟩ <;> rw [heq] at hsuffix
  · constructor
    · intro h
      obtain ⟨front, hfront⟩ := List.getLast?_eq_some_iff.mp h
      rw [hfront, List.append_assoc] at hsuffix
      exact (List.suffix_append front _).trans hsuffix
    · intro h
      obtain ⟨front, hfront⟩ := List.suffix_of_suffix_length_le h hsuffix (by
        rw [List.length_append]
        exact Nat.succ_le_succ hlength)
      have hpath : front ++ ['/'] ++ ['/'] = directory.toList ++ ['/'] := by
        rw [← hfront, List.append_assoc]
        rfl
      have hdirectory := List.append_cancel_right hpath
      rw [← hdirectory, List.getLast?_concat]
  · -- a slash at the end would have been removed
    refine ⟨fun h => absurd h hlast, fun h => absurd ?_ hlast⟩
    have hslash : ['/'] <:+ directory.toList :=
      List.suffix_of_suffix_length_le ((List.suffix_append ['/'] ['/']).trans h) hsuffix hlength
    obtain ⟨front, hfront⟩ := hslash
    rw [← hfront, List.getLast?_concat]

end

end Stencil.Path
