import Mathlib.Data.List.Forall2
import Stencil.Proofs.References

/-!
# Spellings of a path

A path can be written behind a lead, in the directory of the packs, and with backslashes. All its
spellings are brought to one form and name the same pack (`normalize_spelling`), as long as the path
itself begins with no lead.
-/

namespace Stencil.Path

variable {lead root path rest text trail : List Char}

/-! ### Spellings -/

/-- Whether a text is another one with some of its slashes written as backslashes. -/
def Respells (text path : List Char) : Prop :=
  List.Forall₂ (fun c d => c = d ∨ c = '\\' ∧ d = '/') text path

instance (text path : List Char) : Decidable (Respells text path) :=
  inferInstanceAs (Decidable (List.Forall₂ ..))

/-- What can stand in front of a path and means nothing. -/
def idleLeads : List (List Char) := ["", "./", "/", ".//"].map String.toList

/-- The directories that a path can be written in: none, or that of the packs. -/
def roots : List (List Char) := ["", "packs/"].map String.toList

/-- Whether a text is a way to write a path. -/
def Spells (text path : String) : Prop :=
  ∃ lead ∈ idleLeads, ∃ root ∈ roots, Respells text.toList (lead ++ (root ++ path.toList))

/-- What can stand behind the name of a pack. -/
def trails : List String := ["", "/", "\\"]

lemma slashed_append (first second : List Char) :
    slashed (first ++ second) = slashed first ++ slashed second :=
  List.map_append

lemma slashed_of_respells (h : Respells text path) : slashed text = slashed path := by
  induction h with
  | nil => rfl
  | cons hc _ ih =>
    refine congrArg₂ List.cons ?_ ih
    rcases hc with rfl | ⟨rfl, rfl⟩ <;> rfl

/-- A spelling with slashes only is a lead, a directory and the path. -/
lemma Spells.exists_slashed {text path : String} (h : Spells text path) :
    ∃ lead ∈ idleLeads, ∃ root ∈ roots,
      slashed text.toList = lead ++ (root ++ slashed path.toList) := by
  obtain ⟨lead, hlead, root, hroot, htext⟩ := h
  have hleads : ∀ lead ∈ idleLeads, slashed lead = lead := by decide
  have hroots : ∀ root ∈ roots, slashed root = root := by decide
  refine ⟨lead, hlead, root, hroot, ?_⟩
  rw [slashed_of_respells htext, slashed_append, slashed_append, hleads lead hlead,
    hroots root hroot]

/-! ### Leads -/

/-- An idle lead is removed from what begins with none itself. -/
lemma dropLead_idle (hlead : lead ∈ idleLeads) (hdot : ¬['.', '/'] <+: rest)
    (hslash : ¬['/'] <+: rest) : dropLead ['/'] (dropLead ['.', '/'] (lead ++ rest)) = rest := by
  have hrest : dropLead ['/'] rest = rest := dropLead_eq_self hslash
  simp only [idleLeads, List.map_cons, List.map_nil, List.mem_cons, List.not_mem_nil,
    or_false] at hlead
  rcases hlead with rfl | rfl | rfl | rfl
  · exact (congrArg _ (dropLead_eq_self hdot)).trans hrest
  · exact (congrArg _ (dropLead_append ['.', '/'] rest)).trans hrest
  · have hlead : ¬['.', '/'] <+: '/' :: rest := by simp [List.cons_prefix_cons]
    exact (congrArg _ (dropLead_eq_self hlead)).trans (dropLead_append ['/'] rest)
  · exact (congrArg _ (dropLead_append ['.', '/'] ('/' :: rest))).trans (dropLead_append ['/'] rest)

/-- What is left of a text that begins with an idle lead and perhaps the directory of the packs. -/
lemma normalizeChars_of_slashed (hlead : lead ∈ idleLeads) (hroot : root ∈ roots)
    (hnone : ∀ lead ∈ leads, ¬lead <+: rest) (htext : slashed text = lead ++ (root ++ rest)) :
    normalizeChars text = rest := by
  have hdot := hnone ['.', '/'] (by decide)
  have hslash := hnone ['/'] (by decide)
  have hpacks := hnone packsRoot (by decide)
  rw [normalizeChars, htext]
  simp only [roots, List.map_cons, List.map_nil, List.mem_cons, List.not_mem_nil,
    or_false] at hroot
  rcases hroot with rfl | rfl
  · exact (congrArg _ (dropLead_idle hlead hdot hslash)).trans (dropLead_eq_self hpacks)
  · have hdot : ¬['.', '/'] <+: packsRoot ++ rest := by simp [packsRoot, List.cons_prefix_cons]
    have hslash : ¬['/'] <+: packsRoot ++ rest := by simp [packsRoot, List.cons_prefix_cons]
    exact (congrArg _ (dropLead_idle hlead hdot hslash)).trans (dropLead_append packsRoot rest)

/-! ### References -/

/-- What names the pack in a spelling of a path, with or without a slash behind it. -/
lemma dropTrailingSlash_normalizeChars (hlead : lead ∈ idleLeads) (hroot : root ∈ roots)
    (hpath : ¬IsLed path) (hlast : path.getLast? ≠ some '/') (htrail : trail = [] ∨ trail = ['/'])
    (htext : slashed text = lead ++ (root ++ (path ++ trail))) :
    dropTrailingSlash (normalizeChars text) = path := by
  have hnone : ∀ lead ∈ leads, ¬lead <+: path := fun lead hmem hprefix =>
    hpath (.inr (.inr ⟨lead, hmem, hprefix⟩))
  rcases htrail with rfl | rfl
  · rw [List.append_nil] at htext
    rw [normalizeChars_of_slashed hlead hroot hnone htext, dropTrailingSlash, if_neg hlast]
  · rcases eq_or_ne path [] with rfl | hne
    · -- the slash itself may be what a lead ends with, so there are only these few texts
      have hall : ∀ lead ∈ idleLeads, ∀ root ∈ roots, dropTrailingSlash (dropLead packsRoot
          (dropLead ['/'] (dropLead ['.', '/'] (lead ++ (root ++ ['/']))))) = [] := by
        decide +kernel
      rw [normalizeChars, htext]
      exact hall lead hlead root hroot
    · rw [normalizeChars_of_slashed hlead hroot (not_prefix_append_slash hne hpath []) htext,
        dropTrailingSlash, if_pos List.getLast?_concat, List.dropLast_concat]

lemma packReference?_congr {first second : String}
    (h : normalizeChars first.toList = normalizeChars second.toList) :
    packReference? first = packReference? second := by
  rw [packReference?, packReference?, h]

/-- Every spelling of a path is brought to the path with slashes, and names the same pack as the
path. A slash or backslash behind it does not count, unless the path ends with one itself. -/
theorem normalize_spelling {path text : String} (hpath : ¬IsLed (slashed path.toList))
    (htext : Spells text path) :
    normalize text = String.ofList (slashed path.toList) ∧
    packReference? text = packReference? path ∧
    ∀ trail ∈ trails,
      (path = "" → packReference? (text ++ trail) = none) ∧
      (path ≠ "" → (slashed path.toList).getLast? ≠ some '/' →
        packReference? (text ++ trail) = some (String.ofList (slashed path.toList))) := by
  obtain ⟨lead, hlead, root, hroot, hslashed⟩ := htext.exists_slashed
  have hnone : ∀ lead ∈ leads, ¬lead <+: slashed path.toList := fun lead hmem hprefix =>
    hpath (.inr (.inr ⟨lead, hmem, hprefix⟩))
  have hnormal : normalizeChars text.toList = slashed path.toList :=
    normalizeChars_of_slashed hlead hroot hnone hslashed
  have hself : normalizeChars path.toList = slashed path.toList :=
    @normalizeChars_of_slashed [] [] _ _ (by decide) (by decide) hnone rfl
  refine ⟨by rw [normalize, hnormal], packReference?_congr (hnormal.trans hself.symm),
    fun trail htrail => ?_⟩
  have hname (hlast : (slashed path.toList).getLast? ≠ some '/') :
      dropTrailingSlash (normalizeChars (text ++ trail).toList) = slashed path.toList := by
    have hall : ∀ trail ∈ trails, slashed trail.toList = [] ∨ slashed trail.toList = ['/'] := by
      decide
    refine dropTrailingSlash_normalizeChars hlead hroot hpath hlast (hall trail htrail) ?_
    rw [String.toList_append, slashed_append, hslashed, List.append_assoc, List.append_assoc]
  constructor
  · rintro rfl
    rw [packReference?, hname (by decide)]
    rfl
  · intro hne hlast
    refine packReference?_eq_some_iff.mpr ⟨?_, ?_⟩
    · rw [Ne, ← String.toList_eq_nil_iff, String.toList_ofList, slashed, List.map_eq_nil_iff,
        String.toList_eq_nil_iff]
      exact hne
    · rw [hname hlast, String.toList_ofList]

/-- A path in the directory of the packs, behind a lead and with slashes of both kinds. -/
theorem normalize_spelling_packs :
    ¬IsLed (slashed "my/bp".toList) ∧ Spells ".\\/packs\\my/bp" "my/bp" ∧
    normalize ".\\/packs\\my/bp" = "my/bp" ∧
    packReference? ".\\/packs\\my/bp" = packReference? "my/bp" ∧
    packReference? (".\\/packs\\my/bp" ++ "\\") = some "my/bp" := by
  have hpath : ¬IsLed (slashed "my/bp".toList) := by decide
  have htext : Spells ".\\/packs\\my/bp" "my/bp" :=
    ⟨".//".toList, by decide, "packs/".toList, by decide, by decide⟩
  obtain ⟨hnormal, hsame, htrails⟩ := normalize_spelling hpath htext
  exact ⟨hpath, htext, hnormal, hsame, (htrails "\\" (by decide)).2 (by decide) (by decide)⟩

end Stencil.Path
