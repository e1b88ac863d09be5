import Stencil.Proofs.ArtifactNames
import Stencil.Proofs.Finding
import Stencil.Proofs.Sessions

/-!
# Where artifacts are written

A template in a directory that can be reached writes its artifacts as files in this directory, and
nothing else changes (`artifacts_beside`). Which writes are refused is told by the names and the
directories alone, so it is the same in all workspaces that are alike but for artifacts
(`Stored.exists_write`). In a plain tree, of files and directories only, all this holds of each
template (`Plain`).
-/

namespace Stencil

open FileTree (Place)
open Workspace (IsPart IsArtifactPlace)

/-! ### Names of artifacts -/

section

variable {template : Template} {name path source file : String} {outer : List String}

/-- What a produced name can hold is no separator and no NUL. -/
lemma artifactFileName?_eq_ok {produced : Option String}
    (h : artifactFileName? produced = .ok name) :
    artifactExtension.toList <:+ name.toList ∧ '/' ∉ name.toList ∧ '\x00' ∉ name.toList := by
  obtain ⟨produced, -, haccepted, rfl⟩ := artifactFileName?_eq_ok_iff.mp h
  exact ⟨suffix_withArtifactExtension produced,
    not_mem_withArtifactExtension haccepted.slash_not_mem (by decide),
    not_mem_withArtifactExtension haccepted.nul_not_mem (by decide)⟩

lemma Template.Names.suffix (h : template.Names name) :
    artifactExtension.toList <:+ name.toList := by
  cases h with
  | single =>
    rw [String.toList_append]
    exact List.suffix_append ..
  | item h => exact (artifactFileName?_eq_ok h).1

lemma Template.Names.slash_not_mem (h : (Template.ofPath path source).Names name) :
    '/' ∉ name.toList := by
  cases h with
  | single =>
    rw [String.toList_append, List.mem_append, not_or]
    exact ⟨slash_not_mem_baseName path source, by decide⟩
  | item h => exact (artifactFileName?_eq_ok h).2.1

/-- The names of artifacts are names of files. -/
lemma Template.Names.isPart (h : (Template.ofPath path source).Names name)
    (hbackslash : '\\' ∉ path.toList) (hpath : path = "/".intercalate (outer ++ [file]))
    (hfile : IsPart file) : IsPart name := by
  have hsuffix := h.suffix
  refine ⟨?_, ?_, h.slash_not_mem, ?_⟩
  · rw [← Bool.not_eq_true]
    intro hidle
    simp only [Path.isIdle, Bool.or_eq_true, decide_eq_true_eq] at hidle
    rcases hidle with rfl | rfl <;> revert hsuffix <;> decide
  · rintro rfl
    revert hsuffix
    decide
  · cases h with
    | single =>
      rw [String.toList_append, List.mem_append, not_or]
      refine ⟨fun hnul => hfile.nul_not_mem ?_, by decide⟩
      exact baseName_ofPath_subset hbackslash hpath hfile.slash_not_mem hnul
    | item h => exact (artifactFileName?_eq_ok h).2.2

end

namespace Workspace

/-! ### Workspaces that are alike -/

/-- Two workspaces that differ at most in files at places for artifacts. -/
structure Alike (w v : Workspace) : Prop where
  here : v.here = w.here
  directory_iff {place : Place} :
    v.tree.face? place = some .directory ↔ w.tree.face? place = some .directory
  link_iff {place : Place} {target : String} :
    v.tree.face? place = some (.link target) ↔ w.tree.face? place = some (.link target)
  other {place : Place} (h : ¬IsArtifactPlace place) : v.tree.face? place = w.tree.face? place

namespace Alike

variable {w v : Workspace} {directory name : String} {root place : Place} {outer : List String}

@[refl] lemma refl (w : Workspace) : Alike w w := ⟨rfl, Iff.rfl, Iff.rfl, fun _ => rfl⟩

lemma keeps (h : Alike w v) : Keeps w v := ⟨h.here, h.directory_iff.mpr, h.link_iff⟩

lemma reaches (h : Alike w v) (hreaches : Reaches w directory root outer) :
    Reaches v directory root outer where
  here := h.keeps.here_directory hreaches.here
  located := h.keeps.locate hreaches.located
  names := hreaches.names
  inside := h.directory_iff.mpr hreaches.inside

lemma store (h : Alike w v) (hfits : v.tree.Fits place) (hplace : IsArtifactPlace place)
    (hlink : ∀ target, w.tree.face? place ≠ some (.link target)) (content : List UInt8) :
    Alike w (v.store place content) where
  here := h.here
  directory_iff := (hfits.directory_iff content _).trans h.directory_iff
  link_iff := by
    intro place target
    have hkeeps := keeps_store hfits (fun target => mt h.link_iff.mp (hlink target)) content
    exact hkeeps.link_iff.trans h.link_iff
  other hother := by
    rw [Workspace.store, hfits.face?_put, if_neg (by rintro rfl; exact hother hplace),
      h.other hother]

end Alike

/-! ### Stored artifacts -/

/-- The files that artifacts are written to. -/
def artifactFiles (root : Place) (artifacts : List Artifact) : List (Place × List UInt8) :=
  artifacts.map fun artifact =>
    (root ++ Path.parts artifact.path, Text.utf8Bytes artifact.content.toList)

/-- The workspace with artifacts written. -/
def withArtifacts (w : Workspace) (root : Place) (artifacts : List Artifact) : Workspace :=
  { w with tree := w.tree.putFiles (artifactFiles root artifacts) }

/-- What was written so far is all that changed since `first`, and it is of a kind. -/
structure Stored (base first : Workspace) (root : Place) (kind : Place → Prop) (w : Workspace)
    (trace : Trace) : Prop where
  output : w = first.withArtifacts root trace.written
  fits : first.tree.AllFit (artifactFiles root trace.written)
  kind {artifact : Artifact} (h : artifact ∈ trace.written) : kind (Path.parts artifact.path)
  alike : Alike base w

namespace Stored

variable {base first w : Workspace} {root : Place} {kind : Place → Prop} {trace : Trace}
  {directory name : String} {outer : List String}

lemma start (h : Alike base w) : Stored base w root kind w [] :=
  ⟨rfl, fun _ hitem => (List.not_mem_nil hitem).elim, fun h => (List.not_mem_nil h).elim, h⟩

lemma quiet {effect : Effect} (heffect : effect.written? = none)
    (h : Stored base first root kind w trace) :
    Stored base first root kind w (trace ++ [effect]) := by
  have hwritten := Trace.written_concat_of_none heffect trace
  obtain ⟨houtput, hfits, hkind, halike⟩ := h
  refine ⟨?_, ?_, ?_, halike⟩ <;> rw [hwritten] <;> assumption

lemma store {artifact : Artifact} (h : Stored base first root kind w trace)
    (hfits : w.tree.Fits (root ++ Path.parts artifact.path))
    (hplace : IsArtifactPlace (root ++ Path.parts artifact.path))
    (hlink : ∀ target, base.tree.face? (root ++ Path.parts artifact.path) ≠ some (.link target))
    (hkind : kind (Path.parts artifact.path)) :
    Stored base first root kind
      (w.store (root ++ Path.parts artifact.path) (Text.utf8Bytes artifact.content.toList))
      (trace ++ [.write artifact (.ok ())]) := by
  have hwritten := Trace.written_concat_write trace artifact
  have hfiles : artifactFiles root (trace.written ++ [artifact]) =
      artifactFiles root trace.written ++ artifactFiles root [artifact] :=
    List.map_append
  obtain ⟨rfl, hall, hkinds, halike⟩ := h
  refine ⟨?_, ?_, ?_, halike.store hfits hplace hlink _⟩
  · rw [hwritten, withArtifacts, withArtifacts, hfiles, FileTree.putFiles_append]
    rfl
  · rw [hwritten, hfiles]
    exact List.forall_mem_append.mpr ⟨hall, List.forall_mem_singleton.mpr (hall.fits_iff.mp hfits)⟩
  · rw [hwritten]
    intro other hother
    rcases List.mem_append.mp hother with hother | hother
    · exact hkinds hother
    · rwa [List.mem_singleton.mp hother]

lemma hasFile (h : Stored base first root kind w trace) {artifact : Artifact}
    (hartifact : artifact ∈ trace.written) :
    w.tree.HasFile (root ++ Path.parts artifact.path) := by
  rw [h.output]
  exact h.fits.hasFile_of_mem (List.mem_map.mpr ⟨_, List.mem_map_of_mem hartifact, rfl⟩)

lemma face?_eq (h : Stored base first root kind w trace) {place : Place}
    (hplace : ∀ artifact ∈ trace.written, place ≠ root ++ Path.parts artifact.path) :
    w.tree.face? place = first.tree.face? place := by
  rw [h.output]
  refine h.fits.face?_of_not_mem fun hmem => ?_
  rw [artifactFiles, List.map_map] at hmem
  obtain ⟨artifact, hartifact, rfl⟩ := List.mem_map.mp hmem
  exact hplace artifact hartifact rfl

/-- An artifact beside a template is stored, or it is refused in all workspaces that are alike. -/
lemma exists_write (hreaches : Reaches base directory root outer) (hname : IsPart name)
    (hsuffix : artifactExtension.toList <:+ name.toList)
    (hlink : ∀ target, base.tree.face? (root ++ outer ++ [name]) ≠ some (.link target))
    (hkind : kind (outer ++ [name])) {artifact : Artifact}
    (hpath : artifact.path = "/".intercalate (outer ++ [name])) :
    ∃ answer, ∀ first w trace, Stored base first root kind w trace →
      ∃ w', (writeArtifact directory artifact).outcome w = (answer, w') ∧
        Stored base first root kind w' (trace ++ [.write artifact answer]) := by
  have hparts := hreaches.parts_path hname hpath
  have houtcome {w : Workspace} (h : Alike base w) :=
    (h.reaches hreaches).writeArtifact_outcome hname (fun target => mt h.link_iff.mp (hlink target))
      hpath
  by_cases hsize : nameLimit < name.utf8ByteSize
  · refine ⟨.error (.fileSystem artifact.path .nameTooLong), fun first w trace h =>
      ⟨w, ?_, h.quiet rfl⟩⟩
    rw [houtcome h.alike, if_pos hsize]
  by_cases hdirectory : base.tree.face? (root ++ outer ++ [name]) = some .directory
  · refine ⟨.error (.fileSystem artifact.path .isADirectory), fun first w trace h =>
      ⟨w, ?_, h.quiet rfl⟩⟩
    rw [houtcome h.alike, if_neg hsize, if_pos (h.alike.directory_iff.mpr hdirectory)]
  refine ⟨.ok (), fun first w trace h => ⟨_, ?_, h.store ?_ ?_ ?_ (hparts ▸ hkind)⟩⟩
  · rw [houtcome h.alike, if_neg hsize, if_neg (mt h.alike.directory_iff.mp hdirectory), hparts,
      List.append_assoc]
  all_goals rw [hparts, ← List.append_assoc]
  · exact ⟨⟨_, name, rfl, (h.alike.reaches hreaches).inside⟩,
      mt h.alike.directory_iff.mp hdirectory⟩
  · exact ⟨_, name, rfl, hsuffix⟩
  · exact hlink

end Stored

/-- The same artifacts are stored in two workspaces that are alike. -/
def BothStored (base first second : Workspace) (root : Place) (kind : Place → Prop)
    (w v : Workspace) (trace : Trace) : Prop :=
  Stored base first root kind w trace ∧ Stored base second root kind v trace

section

variable {base first second : Workspace} {root : Place} {kind : Place → Prop}
  {directory path file source : String} {outer : List String}

lemma BothStored.quiet {w v : Workspace} {trace : Trace} {effect : Effect}
    (heffect : effect.written? = none) (h : BothStored base first second root kind w v trace) :
    BothStored base first second root kind w v (trace ++ [effect]) :=
  ⟨h.1.quiet heffect, h.2.quiet heffect⟩

lemma quiet_bothStored : Workshop.Quiet (BothStored base first second root kind) :=
  fun _ _ _ effect heffect h => h.quiet (by cases effect <;> first | rfl | cases heffect)

/-- The artifacts of a template in a directory that is reached are stored there. -/
lemma writes_bothStored (hreaches : Reaches base directory root outer) (hfile : IsPart file)
    (hpath : path = "/".intercalate (outer ++ [file])) (hbackslash : '\\' ∉ path.toList)
    (hlink : ∀ name, artifactExtension.toList <:+ name.toList →
      ∀ target, base.tree.face? (root ++ outer ++ [name]) ≠ some (.link target))
    (hkind : ∀ name, artifactExtension.toList <:+ name.toList → kind (outer ++ [name]))
    (name content : String) (hname : (Template.ofPath path source).Names name) :
    Workshop.Writes (writeArtifact directory) (BothStored base first second root kind)
      ⟨(Template.ofPath path source).outputPath name, content⟩ := by
  intro w v trace ⟨hfirst, hsecond⟩
  have houter : ∀ part ∈ outer, part ≠ "" := by
    rintro part hpart rfl
    exact absurd (hreaches.names "" hpart).not_idle (by decide)
  have hartifact : (Template.ofPath path source).outputPath name =
      "/".intercalate (outer ++ [name]) :=
    Template.ofPath_outputPath hbackslash hpath hfile.slash_not_mem houter name
  generalize (Template.ofPath path source).outputPath name = target at hartifact ⊢
  obtain ⟨answer, hwrite⟩ := Stored.exists_write hreaches
    (hname.isPart hbackslash hpath hfile) hname.suffix (hlink name hname.suffix)
    (hkind name hname.suffix) (show (⟨target, content⟩ : Artifact).path = _ from hartifact)
  obtain ⟨w', hw, hfirst⟩ := hwrite first w trace hfirst
  obtain ⟨v', hv, hsecond⟩ := hwrite second v trace hsecond
  exact ⟨answer, w', v', hw, hv, hfirst, hsecond⟩

lemma loadTemplate_eq_ok {w : Workspace} {template : Template}
    (h : w.loadTemplate directory path = .ok template) :
    ∃ source, template = .ofPath path source := by
  unfold loadTemplate at h
  split at h
  next source _ => exact ⟨source, (Except.ok.inj h).symm⟩
  next => cases h

end

end Workspace

/-! ### Plain trees -/

namespace Workspace

/-- A tree of files and directories only, where no name has a backslash. -/
structure Plain (tree : FileTree) : Prop where
  named : FileTree.Named (fun name => IsEntryName name ∧ '\\' ∉ name.toList) tree
  ne_link (place : Place) (target : String) : tree.get? place ≠ some (.link target)

namespace Plain

lemma isEntryName {tree : FileTree} (h : Plain tree) : FileTree.Named IsEntryName tree :=
  fun place entries hplace => ⟨(h.named place entries hplace).1,
    fun name hname => ((h.named place entries hplace).2 name hname).1⟩

lemma file (content : List UInt8) : Plain (.file content) :=
  ⟨FileTree.named_file content, by rintro (_ | ⟨name, place⟩) target hplace <;> cases hplace⟩

lemma directory {entries : List (String × FileTree)} (hnodup : (entries.map Prod.fst).Nodup)
    (hnames : ∀ name ∈ entries.map Prod.fst, IsEntryName name ∧ '\\' ∉ name.toList)
    (hbelow : ∀ item ∈ entries, Plain item.2) : Plain (.directory entries) := by
  refine ⟨FileTree.named_directory hnodup hnames fun item hitem => (hbelow item hitem).named, ?_⟩
  rintro (_ | ⟨name, place⟩) target hplace
  · cases hplace
  · rw [FileTree.get?_directory_cons, Option.bind_eq_some_iff] at hplace
    obtain ⟨entry, hentry, hplace⟩ := hplace
    exact (hbelow _ (FileTree.mem_of_lookup hentry)).ne_link place target hplace

end Plain

end Workspace

open Workspace (IsEntryName BothStored)

/-! ### One template -/

/-- Whether a place is one in a directory. -/
def FileTree.Inside (outer place : Place) : Prop := ∃ name, place = outer ++ [name]

/-- What a template that is found writes are files in the directory that the template is in, and
nothing else in the workspace changes. This takes a path without backslashes, since they count as
slashes, and that no link in this directory has the name of an artifact, since it would be
followed. -/
theorem artifacts_beside {w : Workspace} {directory path : String} {root : Place}
    {entries : List (String × FileTree)} {settings : Settings} {paths : List String}
    {template : Template} (hhere : w.tree.face? w.here = some .directory)
    (hlocate : w.locate directory = .ok root)
    (hentries : w.tree.get? root = some (.directory entries))
    (hnamed : FileTree.Named IsEntryName (.directory entries))
    (hfound : w.templatePaths directory settings.including settings.excluding = .ok paths)
    (hpath : path ∈ paths) (hload : w.loadTemplate directory path = .ok template)
    (hbackslash : '\\' ∉ path.toList)
    (hlink : ∀ name target, artifactExtension.toList <:+ name.toList →
      w.tree.get? (root ++ (Path.parts path).dropLast ++ [name]) ≠ some (.link target)) :
    ∃ outer file content,
      Path.parts path = outer ++ [file] ∧
      w.tree.get? (root ++ outer ++ [file]) = some (.file content) ∧
      ∀ s : Workshop Workspace, s.output = w → ∃ result s' trace,
        ((Workshop.services (Workspace.writeArtifact directory)).generate template
          settings.pretty).outcome s = (result, s') ∧
        ((Workshop.services (Workspace.writeArtifact directory)).recorded.generate template
          settings.pretty).outcome (s, []) = (result, s', trace) ∧
        s'.output = w.withArtifacts root trace.written ∧
        (∀ artifact ∈ trace.written, ∃ name, Path.parts artifact.path = outer ++ [name] ∧
          s'.output.tree.HasFile (root ++ outer ++ [name])) ∧
        ∀ place, (∀ name, place ≠ root ++ outer ++ [name]) →
          s'.output.tree.face? place = w.tree.face? place := by
  obtain ⟨tree, place, content, htree, hmem, hplace, -⟩ :=
    Workspace.exists_of_mem_templatePaths hfound hpath
  rw [Workspace.treeBelow_of_locate hlocate hentries] at htree
  obtain rfl := Except.ok.inj htree
  obtain ⟨outer, file, rfl, hreaches, hfile, hface⟩ :=
    Workspace.reaches_of_mem hhere hlocate hentries hnamed hmem
  obtain ⟨source, rfl⟩ := Workspace.loadTemplate_eq_ok hload
  have hparts := hreaches.parts_path hfile.toIsPart hplace
  rw [hparts, List.dropLast_concat] at hlink
  refine ⟨outer, file, content, hparts, FileTree.face?_eq_file.mp hface, ?_⟩
  rintro s rfl
  have hstart : BothStored s.output s.output s.output root (FileTree.Inside outer) s.output
      s.output [] :=
    ⟨.start (.refl _), .start (.refl _)⟩
  have hwrites (name content : String) (hname : (Template.ofPath path source).Names name) :
      Workshop.Writes (Workspace.writeArtifact directory)
        (BothStored s.output s.output s.output root (FileTree.Inside outer))
        ⟨(Template.ofPath path source).outputPath name, content⟩ :=
    Workspace.writes_bothStored hreaches hfile.toIsPart hplace hbackslash
      (fun name hname target => mt FileTree.face?_eq_link.mp (hlink name target hname))
      (fun name _ => ⟨name, rfl⟩) name content hname
  obtain ⟨result, s', t', trace, hrun, -, hstored, -⟩ :=
    Project.agree_generate Workspace.quiet_bothStored hwrites settings.pretty hstart
  refine ⟨result, s', trace, ((Services.generate_records _ _ _).outcome_eq hrun).1, hrun,
    hstored.output, fun artifact hartifact => ?_, fun place hplace => ?_⟩
  · obtain ⟨name, hname⟩ := hstored.kind hartifact
    refine ⟨name, hname, ?_⟩
    have hwritten := hstored.hasFile hartifact
    rwa [hname, ← List.append_assoc] at hwritten
  · refine hstored.face?_eq fun artifact hartifact => ?_
    obtain ⟨name, hname⟩ := hstored.kind hartifact
    rw [hname, ← List.append_assoc]
    exact hplace name

/-! ### A workspace with one template -/

namespace Workspace

/-- A workspace with a directory that one template is in. -/
def single : Workspace where
  tree := .directory [("BP", .directory
    [("a.ts", .file (Text.utf8Bytes "export default \x7b\x7d;".toList))])]
  here := []

lemma plain_single : Plain single.tree := by
  have hname : IsEntryName "BP" := ⟨⟨by decide, by decide, by decide, by decide⟩, by decide⟩
  have hfile : IsEntryName "a.ts" := ⟨⟨by decide, by decide, by decide, by decide⟩, by decide⟩
  refine .directory (by decide) (List.forall_mem_singleton.mpr ⟨hname, by decide⟩) ?_
  refine List.forall_mem_singleton.mpr (.directory (by decide) ?_ ?_)
  · exact List.forall_mem_singleton.mpr ⟨hfile, by decide⟩
  · exact List.forall_mem_singleton.mpr (.file _)

lemma locate_single : single.locate "." = .ok [] :=
  locate_eq_ok.mpr ⟨by decide, by decide, .idle (by decide) .here⟩

lemma exists_templatePaths_single : ∃ paths, single.templatePaths "."
    (Settings.standard .standard).including (Settings.standard .standard).excluding = .ok paths ∧
    "BP/a.ts" ∈ paths :=
  exists_templatePaths (treeBelow_of_locate locate_single rfl) (by decide +kernel)
    (by decide +kernel)

lemma exists_loadTemplate_single :
    ∃ template, single.loadTemplate "." "BP/a.ts" = .ok template := by
  have hnames {name : String} (hname : name ∈ ["BP", "a.ts"]) : IsEntryName name :=
    plain_single.isEntryName.of_mem (nofun : single.tree.get? ["BP", "a.ts"] ≠ none) hname
  have hreaches : Reaches single "." [] ["BP"] :=
    ⟨rfl, locate_single, fun name hname => hnames (List.mem_append_left ["a.ts"] hname), rfl⟩
  have htext : (textOf? (Text.utf8Bytes "export default \x7b\x7d;".toList)).isSome := by
    decide +kernel
  obtain ⟨text, htext⟩ := Option.isSome_iff_exists.mp htext
  have hfile : IsEntryName "a.ts" := hnames (by decide)
  have hpath : "BP/a.ts" = "/".intercalate (["BP"] ++ ["a.ts"]) := by decide
  have hload := hreaches.loadTemplate_eq hfile hpath rfl
  rw [htext] at hload
  exact ⟨_, hload⟩

end Workspace

/-- The artifacts of the template in `Workspace.single` are beside it. -/
theorem artifacts_beside_single : ∃ paths template outer file content,
    Workspace.single.templatePaths "." (Settings.standard .standard).including
      (Settings.standard .standard).excluding = .ok paths ∧
    "BP/a.ts" ∈ paths ∧ Workspace.single.loadTemplate "." "BP/a.ts" = .ok template ∧
    Path.parts "BP/a.ts" = outer ++ [file] ∧
    Workspace.single.tree.get? (outer ++ [file]) = some (.file content) ∧
    ∀ s : Workshop Workspace, s.output = Workspace.single → ∃ result s' trace,
      ((Workshop.services (Workspace.writeArtifact ".")).recorded.generate template
        true).outcome (s, []) = (result, s', trace) ∧
      ∀ artifact ∈ trace.written, ∃ name, Path.parts artifact.path = outer ++ [name] ∧
        s'.output.tree.HasFile (outer ++ [name]) := by
  obtain ⟨paths, hfound, hpath⟩ := Workspace.exists_templatePaths_single
  obtain ⟨template, hload⟩ := Workspace.exists_loadTemplate_single
  obtain ⟨outer, file, content, hparts, hthere, hrun⟩ := artifacts_beside rfl
    Workspace.locate_single rfl Workspace.plain_single.isEntryName hfound hpath hload (by decide)
    fun name target _ => Workspace.plain_single.ne_link _ target
  refine ⟨paths, template, outer, file, content, hfound, hpath, hload, hparts, hthere, ?_⟩
  intro s hs
  obtain ⟨result, s', trace, -, hrun, -, hwritten, -⟩ := hrun s hs
  exact ⟨result, s', trace, hrun, hwritten⟩

end Stencil
