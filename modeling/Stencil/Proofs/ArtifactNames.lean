import Stencil.ArtifactName
import Stencil.Proofs.Paths

/-!
# Names of artifacts

A produced name is accepted if it is not blank and cannot lead out of a directory
(`artifactFileName?_eq_ok_iff`). With its extension it is a single part of a path, and wherever it
is put, the last slash of the path stands right before it (`artifactName_stays`).
-/

namespace Stencil

namespace Text

lemma holds_iff (piece text : List Char) : holds piece text ↔ piece <:+: text := by
  induction text with
  | nil => rw [holds, List.isEmpty_iff, List.infix_nil]
  | cons c text ih =>
    rw [holds, Bool.or_eq_true, List.isPrefixOf_iff_prefix, ih, List.infix_cons_iff]

/-- The code points of white space. -/
def whiteSpace : List Nat :=
  [0x09, 0x0A, 0x0B, 0x0C, 0x0D, 0x20, 0x85, 0xA0, 0x1680, 0x2000, 0x2001, 0x2002, 0x2003, 0x2004,
    0x2005, 0x2006, 0x2007, 0x2008, 0x2009, 0x200A, 0x2028, 0x2029, 0x202F, 0x205F, 0x3000]

lemma isBlank_iff (c : Char) : isBlank c ↔ c.toNat ∈ whiteSpace := by
  simp only [isBlank, whiteSpace, Bool.or_eq_true, Bool.and_eq_true, decide_eq_true_eq, beq_iff_eq,
    List.mem_cons, List.not_mem_nil, or_false]
  omega

end Text

/-! ### Accepted names -/

/-- Whether a name can be that of an artifact. -/
structure IsAcceptable (name : String) : Prop where
  visible : ∃ c ∈ name.toList, c.toNat ∉ Text.whiteSpace
  slash_not_mem : '/' ∉ name.toList
  backslash_not_mem : '\\' ∉ name.toList
  nul_not_mem : '\x00' ∉ name.toList
  /-- Two dots in a row stand nowhere in it. -/
  dots_not_infix : ¬['.', '.'] <:+: name.toList
  ne_dot : name ≠ "."

variable {produced : Option String} {name result : String}

lemma isAcceptable_iff :
    IsAcceptable name ↔ name.toList.all Text.isBlank = false ∧ isBaseName name.toList := by
  have hblank : name.toList.all Text.isBlank = false ↔
      ∃ c ∈ name.toList, c.toNat ∉ Text.whiteSpace := by
    simp only [← Text.isBlank_iff, List.all_eq_false]
  have hdot : name.toList = ['.'] ↔ name = "." := by
    rw [← String.toList_inj]
    rfl
  have hdots : Text.holds ['.', '.'] name.toList = false ↔ ¬['.', '.'] <:+: name.toList := by
    rw [← Bool.not_eq_true, Text.holds_iff]
  simp only [hblank, isBaseName, Bool.and_eq_true, Bool.not_eq_true', List.contains_eq_mem,
    decide_eq_false_iff_not, bne_iff_ne, ne_eq, hdot, hdots]
  constructor
  · intro h
    exact ⟨h.visible, ⟨⟨⟨h.slash_not_mem, h.backslash_not_mem⟩, h.nul_not_mem⟩, h.ne_dot⟩,
      h.dots_not_infix⟩
  · rintro ⟨hvisible, ⟨⟨⟨hslash, hbackslash⟩, hnul⟩, hdot⟩, hdots⟩
    exact ⟨hvisible, hslash, hbackslash, hnul, hdots, hdot⟩

/-- The names that are accepted, with the names of their artifacts. -/
lemma artifactFileName?_eq_ok_iff : artifactFileName? produced = .ok result ↔
    ∃ name, produced = some name ∧ IsAcceptable name ∧ withArtifactExtension name = result := by
  rcases produced with _ | name
  · simp [artifactFileName?]
  have hexists : (∃ other, some name = some other ∧ IsAcceptable other ∧
      withArtifactExtension other = result) ↔
        IsAcceptable name ∧ withArtifactExtension name = result := by
    simp only [Option.some.injEq, exists_eq_left']
  rw [hexists, isAcceptable_iff, artifactFileName?]
  split
  next hblank => simp [hblank]
  next hblank =>
    split
    next hbase => simp [hblank, hbase]
    next hbase => simp [hbase]

/-! ### The extension -/

lemma withArtifactExtension_eq (name : String) :
    withArtifactExtension name = name ∨ withArtifactExtension name = name ++ artifactExtension := by
  unfold withArtifactExtension
  split
  next => exact .inl rfl
  next => exact .inr rfl

lemma suffix_withArtifactExtension (name : String) :
    artifactExtension.toList <:+ (withArtifactExtension name).toList := by
  unfold withArtifactExtension
  split
  next h => exact List.isSuffixOf_iff_suffix.mp h
  next =>
    rw [String.toList_append]
    exact List.suffix_append ..

/-- The extension adds no other characters than its own. -/
lemma not_mem_withArtifactExtension {c : Char} (hname : c ∉ name.toList)
    (hextension : c ∉ artifactExtension.toList) :
    c ∉ (withArtifactExtension name).toList := by
  rcases withArtifactExtension_eq name with h | h
  · rwa [h]
  · rw [h, String.toList_append, List.mem_append, not_or]
    exact ⟨hname, hextension⟩

/-- Names with the same artifact are equal, or the extension is left out in one of them. -/
lemma eq_of_withArtifactExtension_eq {other : String}
    (h : withArtifactExtension name = withArtifactExtension other) :
    name = other ∨ other = name ++ artifactExtension ∨ name = other ++ artifactExtension := by
  rcases withArtifactExtension_eq name with hname | hname <;>
    rcases withArtifactExtension_eq other with hother | hother <;> rw [hname, hother] at h
  · exact .inl h
  · exact .inr (.inr h)
  · exact .inr (.inl h.symm)
  · exact .inl ((String.append_left_inj _).mp h)

/-! ### Places of artifacts -/

section

variable (hextension : artifactExtension.toList <:+ result.toList)
include hextension

lemma ne_of_suffix {part : String} (hpart : ¬artifactExtension.toList <:+ part.toList) :
    result ≠ part := fun heq => hpart (heq ▸ hextension)

/-- A text without slashes that ends in the extension is a single part of a path. -/
lemma names_eq_singleton (hslash : '/' ∉ result.toList) : Path.names result = [result] := by
  have hname : result ≠ "" ∧ result ≠ "." ∧ result ≠ ".." :=
    ⟨ne_of_suffix hextension (by decide), ne_of_suffix hextension (by decide),
      ne_of_suffix hextension (by decide)⟩
  rw [Path.names, Path.parts_of_not_mem hslash, List.filter_cons_of_pos (by simpa using hname),
    List.filter_nil]

end

/-- Whether the last slash of a path, if it has one, stands between a directory and a name. -/
def IsBeside (directory name path : String) : Prop :=
  (∀ front back, '/' ∉ back.toList → path = front ++ "/" ++ back →
    front = directory ∧ back = name) ∧
  ('/' ∉ path.toList → directory = "" ∧ path = name)

lemma isBeside_outputPath (template : Template) (hresult : '/' ∉ result.toList) :
    IsBeside template.directory result (template.outputPath result) := by
  have hsplit := template.splitLastSlash_outputPath hresult
  constructor
  · intro front back hback hpath
    have hlist : (template.outputPath result).toList = front.toList ++ '/' :: back.toList := by
      rw [hpath, String.toList_append, String.toList_append, List.append_assoc]
      rfl
    rw [hlist, Template.splitLastSlash_append hback] at hsplit
    obtain ⟨hfront, hback⟩ := Prod.mk.inj hsplit
    exact ⟨String.toList_inj.mp hfront, String.toList_inj.mp hback⟩
  · intro hslash
    rw [Template.splitLastSlash_of_not_mem hslash] at hsplit
    obtain ⟨hdirectory, hpath⟩ := Prod.mk.inj hsplit
    exact ⟨String.toList_inj.mp hdirectory.symm, String.toList_inj.mp hpath⟩

lemma mapError_eq_ok_iff {ε ε' α : Type} {x : Except ε α} {f : ε → ε'} {a : α} :
    x.mapError f = .ok a ↔ x = .ok a := by
  cases x <;> simp [Except.mapError]

/-- Which produced names are accepted for an item of a template, and what becomes of them. The name
of the artifact has the extension and is a single part of a path; wherever the template is, the last
slash of the artifact's path stands right before it. Two names that have the same artifact are equal
up to the extension. -/
theorem artifactName_stays (produced : Option String) (file : String) (index : Nat) :
    ((∃ result, (artifactFileName? produced).mapError (Failure.invalidName file index) =
        .ok result) ↔ ∃ name, produced = some name ∧ IsAcceptable name) ∧
    ∀ result, (artifactFileName? produced).mapError (Failure.invalidName file index) = .ok result →
      (∃ name, produced = some name ∧ (result = name ∨ result = name ++ ".json")) ∧
      ".json".toList <:+ result.toList ∧ '/' ∉ result.toList ∧ '\\' ∉ result.toList ∧
      result ≠ "." ∧ result ≠ ".." ∧ Path.names result = [result] ∧
      (∀ template : Template,
        IsBeside template.directory result (template.outputPath result)) ∧
      ∀ produced' file' index',
        (artifactFileName? produced').mapError (Failure.invalidName file' index') = .ok result →
        ∃ name name', produced = some name ∧ produced' = some name' ∧
          (name = name' ∨ name' = name ++ ".json" ∨ name = name' ++ ".json") := by
  simp only [mapError_eq_ok_iff, artifactFileName?_eq_ok_iff]
  refine ⟨⟨?_, ?_⟩, ?_⟩
  · rintro ⟨_, name, hname, haccepted, -⟩
    exact ⟨name, hname, haccepted⟩
  · rintro ⟨name, hname, haccepted⟩
    exact ⟨_, name, hname, haccepted, rfl⟩
  rintro result ⟨name, hname, haccepted, rfl⟩
  have hextension := suffix_withArtifactExtension name
  have hslash := not_mem_withArtifactExtension haccepted.slash_not_mem (by decide)
  have hbackslash := not_mem_withArtifactExtension haccepted.backslash_not_mem (by decide)
  refine ⟨⟨name, hname, withArtifactExtension_eq name⟩, hextension, hslash, hbackslash,
    ne_of_suffix hextension (by decide), ne_of_suffix hextension (by decide),
    names_eq_singleton hextension hslash, fun template => isBeside_outputPath template hslash, ?_⟩
  rintro produced' - - ⟨name', hname', -, heq⟩
  exact ⟨name, name', hname, hname', eq_of_withArtifactExtension_eq heq.symm⟩

/-- A hidden file in the directory of a template, with its extension and without. -/
theorem artifactName_stays_hidden :
    ((artifactFileName? (some ".a b")).mapError (Failure.invalidName "BP/t.ts" 1) =
      .ok ".a b.json") ∧
    ((artifactFileName? (some ".a b.json")).mapError (Failure.invalidName "BP/t.ts" 2) =
      .ok ".a b.json") ∧
    Path.names ".a b.json" = [".a b.json"] ∧
    IsBeside "BP" ".a b.json" "BP/.a b.json" ∧
    ∃ name name', some ".a b" = some name ∧ some ".a b.json" = some name' ∧
      (name = name' ∨ name' = name ++ ".json" ∨ name = name' ++ ".json") := by
  have hfirst : (artifactFileName? (some ".a b")).mapError (Failure.invalidName "BP/t.ts" 1) =
      .ok ".a b.json" := mapError_eq_ok_iff.mpr rfl
  have hsecond : (artifactFileName? (some ".a b.json")).mapError
      (Failure.invalidName "BP/t.ts" 2) = .ok ".a b.json" :=
    mapError_eq_ok_iff.mpr rfl
  obtain ⟨-, -, -, -, -, -, hnames, hbeside, hother⟩ :=
    (artifactName_stays (some ".a b") "BP/t.ts" 1).2 _ hfirst
  exact ⟨hfirst, hsecond, hnames, hbeside (.ofPath "BP/t.ts" ""), hother _ _ _ hsecond⟩

end Stencil
