import Stencil.Proofs.Changes
import Stencil.Proofs.Effects
import Stencil.Workspace.Templates

/-!
# Directories that can be reached

A path leads to a directory, and legal names lead on from there to another (`Reaches`). What a path
with these names leads to stands in that directory (`Reaches.locate_join`), and an artifact with
such a path is written there (`Reaches.writeArtifact_outcome`).
-/

namespace Stencil.Workspace

open FileTree (Place)
open Path (isIdle proper)

variable {w : Workspace} {outer : Place} {name path : String}

/-! ### Steps of a write -/

/-- What comes of writing an artifact: the directory of its path is made first. -/
lemma outcome_writeArtifact (directory : String) (artifact : Artifact) (w : Workspace) :
    (writeArtifact directory artifact).outcome w =
      match (makePath (Path.parent (Path.join directory artifact.path))).outcome w with
      | (.error fault, v) =>
        (.error (.fileSystem (Path.parent (Path.join directory artifact.path)) fault), v)
      | (.ok _, v)        =>
        let written := (writeFile (Path.join directory artifact.path)
          (Text.utf8Bytes artifact.content.toList)).outcome v
        (written.1.mapError fun fault => .fileSystem artifact.path fault, written.2) := by
  have hattempt (path : String) (change : Change Unit) (w : Workspace) :
      (attempt path change).outcome w =
        ((change.outcome w).1.mapError fun fault => .fileSystem path fault,
          (change.outcome w).2) := rfl
  unfold writeArtifact
  dsimp only
  rw [Action.outcome_bind, hattempt]
  rcases (makePath (Path.parent (Path.join directory artifact.path))).outcome w
    with ⟨fault | _, v⟩ <;> rfl

/-! ### Names -/

/-- Whether a text can be the last part of a path to a file. -/
structure IsPart (name : String) : Prop where
  not_idle : isIdle name = false
  not_parent : name ≠ ".."
  slash_not_mem : '/' ∉ name.toList
  nul_not_mem : '\x00' ∉ name.toList

/-- Whether a text can be the name of an entry. -/
structure IsEntryName (name : String) : Prop extends IsPart name where
  size_le : name.utf8ByteSize ≤ nameLimit

lemma IsEntryName.isName (h : IsEntryName name) : IsName name :=
  ⟨h.not_idle, h.not_parent, h.size_le⟩

/-! ### Directories -/

/-- Names lead to a directory from where a path leads. -/
structure Reaches (w : Workspace) (directory : String) (root : Place) (outer : List String) :
    Prop where
  here : w.tree.face? w.here = some .directory
  located : w.locate directory = .ok root
  names : ∀ name ∈ outer, IsEntryName name
  inside : w.tree.face? (root ++ outer) = some .directory

lemma leads_names {root : Place} (hnames : ∀ name ∈ outer, IsName name)
    (h : w.tree.face? (root ++ outer) = some .directory) (links : Nat) :
    Leads w true links root outer (root ++ outer) := by
  induction outer generalizing root with
  | nil =>
    rw [List.append_nil]
    exact .here
  | cons name outer ih =>
    obtain ⟨hname, hnames⟩ := List.forall_mem_cons.mp hnames
    rw [List.append_cons] at h ⊢
    refine .directory hname ?_ (ih hnames h)
    rcases outer with _ | ⟨next, outer⟩
    · rwa [List.append_nil] at h
    · exact FileTree.face?_of_append (by rw [h]; exact nofun)

namespace Reaches

variable {directory : String} {root : Place} (h : Reaches w directory root outer)
include h

lemma root_directory : w.tree.face? root = some .directory := by
  rcases outer with _ | ⟨name, outer⟩
  · simpa using h.inside
  · exact FileTree.face?_of_append (by rw [h.inside]; exact nofun)

/-- The parts of the directory and then the names lead to the directory that is reached. -/
lemma leads :
    Leads w true linkLimit (w.start directory) (Path.base directory ++ outer) (root ++ outer) := by
  obtain ⟨-, -, hleads⟩ := locate_eq_ok.mp h.located
  have hbase : Leads w true linkLimit (w.start directory) (Path.base directory) root := by
    refine hleads.congr_proper h.root_directory ?_
    rcases Path.parts_eq_base directory with heq | heq <;> rw [heq]
    rw [proper_append]
    exact List.append_nil _
  obtain ⟨left, hleft⟩ := hbase.follow_append h.root_directory
  rw [← follow_eq_ok, hleft, follow_eq_ok]
  exact leads_names (fun name hname => (h.names name hname).isName) h.inside left

lemma directory_ne_empty : directory ≠ "" := (locate_eq_ok.mp h.located).2.1

section

variable (hname : IsPart name) (hpath : path = "/".intercalate (outer ++ [name]))
include hname hpath

omit hpath in
lemma slash_not_mem : ∀ part ∈ outer ++ [name], '/' ∉ part.toList :=
  List.forall_mem_append.mpr ⟨fun part hpart => (h.names part hpart).slash_not_mem,
    List.forall_mem_singleton.mpr hname.slash_not_mem⟩

lemma parts_path : Path.parts path = outer ++ [name] := by
  rw [hpath, Path.parts_intercalate (by simp) (h.slash_not_mem hname)]

lemma not_isAbsolute : Path.isAbsolute path = false := by
  rw [← Bool.not_eq_true, Path.isAbsolute_iff, h.parts_path hname hpath]
  rintro ⟨part, rest, hparts⟩
  rcases outer with _ | ⟨first, outer⟩
  · cases hparts
  · obtain ⟨rfl, -⟩ := List.cons.inj hparts
    exact absurd (h.names "" (List.mem_cons_self ..)).not_idle (by decide)

lemma parts_join :
    Path.parts (Path.join directory path) = Path.base directory ++ outer ++ [name] := by
  rw [Path.parts_join h.directory_ne_empty (h.not_isAbsolute hname hpath),
    h.parts_path hname hpath, List.append_assoc]

lemma start_join : w.start (Path.join directory path) = w.start directory := by
  rw [start, start, Path.isAbsolute_join h.directory_ne_empty (h.not_isAbsolute hname hpath)]

lemma nul_not_mem : '\x00' ∉ (Path.join directory path).toList := by
  intro hnul
  rcases Path.mem_toList_join hnul with hslash | hdirectory | hmem
  · cases hslash
  · exact (locate_eq_ok.mp h.located).1 hdirectory
  · rw [hpath] at hmem
    rcases Path.mem_toList_intercalate hmem with hslash | ⟨part, hpart, hmem⟩
    · cases hslash
    · rcases List.mem_append.mp hpart with hpart | hpart
      · exact (h.names part hpart).nul_not_mem hmem
      · rw [List.mem_singleton.mp hpart] at hmem
        exact hname.nul_not_mem hmem

/-- What a name in the directory that is reached leads to. -/
lemma locate_join :
    w.locate (Path.join directory path) = w.follow true linkLimit (w.start directory)
      (Path.base directory ++ outer ++ [name]) := by
  have hne : Path.join directory path ≠ "" := by
    intro heq
    have hlast := congrArg List.getLast? (h.parts_join hname hpath)
    rw [heq, List.getLast?_concat] at hlast
    obtain rfl : "" = name := Option.some.inj hlast
    exact absurd hname.not_idle (by decide)
  rw [locate, if_neg (by simpa using h.nul_not_mem hname hpath), if_neg (by simpa using hne),
    h.parts_join hname hpath, h.start_join hname hpath]

/-- The way to the directory is there. -/
lemma makePath_parent :
    (makePath (Path.parent (Path.join directory path))).outcome w = (.ok (), w) := by
  have hbase : Path.base directory ++ outer ≠ [] :=
    List.append_ne_nil_of_left_ne_nil (Path.base_ne_nil directory) _
  obtain ⟨hproper, habsolute⟩ :=
    Path.filter_parts_parent (h.parts_join hname hpath) hname.not_idle hbase
  refine makePath_there h.here ?_ ?_ h.inside
  · intro hnul
    rcases Path.mem_toList_parent hnul with hslash | hpoint | hnul
    · cases hslash
    · cases hpoint
    · exact h.nul_not_mem hname hpath hnul
  · have hstart : w.start (Path.parent (Path.join directory path)) = w.start directory := by
      rw [start, start, habsolute,
        Path.isAbsolute_join h.directory_ne_empty (h.not_isAbsolute hname hpath)]
    rw [hstart]
    exact h.leads.congr_proper h.inside hproper.symm

end

/-! ### Artifacts -/

/-- An artifact beside a template is written in the directory of the template, unless its name is
too long or there is a directory of this name. -/
theorem writeArtifact_outcome (hname : IsPart name)
    (hlink : ∀ target, w.tree.face? (root ++ outer ++ [name]) ≠ some (.link target))
    {artifact : Artifact} (hpath : artifact.path = "/".intercalate (outer ++ [name])) :
    (writeArtifact directory artifact).outcome w =
      if nameLimit < name.utf8ByteSize then (.error (.fileSystem artifact.path .nameTooLong), w)
      else if w.tree.face? (root ++ outer ++ [name]) = some .directory then
        (.error (.fileSystem artifact.path .isADirectory), w)
      else
        (.ok (), w.store (root ++ outer ++ [name]) (Text.utf8Bytes artifact.content.toList)) := by
  have hends : ¬EndsInside (Path.join directory artifact.path) := by
    rintro ⟨last, hlast, hinside⟩
    rw [h.parts_join hname hpath, List.getLast?_concat, Option.mem_some] at hlast
    subst hlast
    rcases hinside with hidle | hparent
    · rw [hname.not_idle] at hidle
      cases hidle
    · exact hname.not_parent hparent
  obtain ⟨left, hleft⟩ := h.leads.follow_append h.inside
  rw [outcome_writeArtifact, h.makePath_parent hname hpath]
  dsimp only
  rw [writeFile_outcome _ (h.nul_not_mem hname hpath) hends, h.locate_join hname hpath, hleft]
  by_cases hsize : nameLimit < name.utf8ByteSize
  · rw [if_pos hsize, follow_long hname.not_idle hname.not_parent hsize]
    rfl
  rw [if_neg hsize]
  have hisName : IsName name := ⟨hname.not_idle, hname.not_parent, Nat.not_lt.mp hsize⟩
  by_cases hdirectory : w.tree.face? (root ++ outer ++ [name]) = some .directory
  · rw [if_pos hdirectory, follow_directory hisName hdirectory, follow_nil]
    dsimp only
    rw [if_pos hdirectory]
    rfl
  · rw [if_neg hdirectory, follow_last hisName hdirectory fun _ => hlink]
    dsimp only
    rw [if_neg hdirectory]
    rfl

end Reaches

end Stencil.Workspace
