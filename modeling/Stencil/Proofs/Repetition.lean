import Stencil.Proofs.Globs
import Stencil.Proofs.Placement

/-!
# Running twice

If no pattern asks for artifacts, what a run writes is none of what it reads: a second run finds the
same templates, and each one as it was. So it gives the same answers, is refused where the first run
was, and writes the same artifacts in place of themselves (`generate_again`).
-/

namespace Stencil

namespace Workspace

open FileTree (Place)

variable {w : Workspace} {directory path : String} {root place : Place}
  {entries : List (String × FileTree)} {including excluding paths : List String}

/-! ### Templates of plain trees -/

/-- A template that is found in a plain tree can be reached and is at no place for artifacts. -/
lemma Plain.exists_of_mem (hplain : Plain (.directory entries))
    (hhere : w.tree.face? w.here = some .directory) (hlocate : w.locate directory = .ok root)
    (hentries : w.tree.get? root = some (.directory entries)) (hask : AskForTemplates including)
    (hfound : w.templatePaths directory including excluding = .ok paths) (hpath : path ∈ paths) :
    ∃ outer file content, Reaches w directory root outer ∧ IsEntryName file ∧
      path = "/".intercalate (outer ++ [file]) ∧ '\\' ∉ path.toList ∧
      w.tree.face? (root ++ outer ++ [file]) = some (.file content) ∧
      ¬IsArtifactPlace (root ++ outer ++ [file]) := by
  obtain ⟨tree, place, content, htree, hmem, hplace, htemplate⟩ :=
    exists_of_mem_templatePaths hfound hpath
  rw [treeBelow_of_locate hlocate hentries] at htree
  obtain rfl := Except.ok.inj htree
  obtain ⟨outer, file, rfl, hreaches, hfile, hface⟩ :=
    reaches_of_mem hhere hlocate hentries hplain.isEntryName hmem
  refine ⟨outer, file, content, hreaches, hfile, hplace, fun hbackslash => ?_, hface, ?_⟩
  · rw [hplace] at hbackslash
    rcases Path.mem_toList_intercalate hbackslash with hslash | ⟨name, hname, hbackslash⟩
    · cases hslash
    · have hthere := hplain.named.get?_of_mem hmem
      exact (hplain.named.of_mem (by rw [hthere]; exact nofun) hname).2 hbackslash
  · rintro ⟨_, name, heq, hname⟩
    obtain ⟨-, heq⟩ := List.append_inj' heq rfl
    obtain rfl := List.singleton_inj.mp heq
    exact not_suffix_of_isArtifactPlace ⟨outer, file, rfl, hname⟩ (hplace ▸ htemplate hask)

/-! ### Artifacts that were written -/

lemma withArtifacts_cons (w : Workspace) (root : Place) (artifact : Artifact)
    (artifacts : List Artifact) :
    w.withArtifacts root (artifact :: artifacts) =
      (w.store (root ++ Path.parts artifact.path)
        (Text.utf8Bytes artifact.content.toList)).withArtifacts root artifacts := rfl

/-- Artifacts that were written change nothing of what is found. -/
lemma templatePaths_withArtifacts {artifacts : List Artifact} (hask : AskForTemplates including)
    (hlocate : w.locate directory = .ok root) (hroot : w.tree.face? root = some .directory)
    (hlink : ∀ place target, w.tree.face? (root ++ place) ≠ some (.link target))
    (hfits : w.tree.AllFit (artifactFiles root artifacts))
    (hplaces : ∀ artifact ∈ artifacts, IsArtifactPlace (Path.parts artifact.path)) :
    (w.withArtifacts root artifacts).templatePaths directory including excluding =
      w.templatePaths directory including excluding := by
  induction artifacts generalizing w with
  | nil => rfl
  | cons artifact artifacts ih =>
    obtain ⟨hplace, hplaces⟩ := List.forall_mem_cons.mp hplaces
    have hkeeps := keeps_store hfits.head (hlink _) (Text.utf8Bytes artifact.content.toList)
    rw [withArtifacts_cons,
      ih (hkeeps.locate hlocate) (hkeeps.directory hroot)
        (fun place target => mt hkeeps.link_iff.mp (hlink place target)) hfits.tail hplaces,
      templatePaths_store hask hlocate hroot hplace hfits.head (hlink _)]

/-- To write the same artifacts again changes nothing. -/
lemma withArtifacts_withArtifacts {artifacts : List Artifact}
    (hfits : w.tree.AllFit (artifactFiles root artifacts)) :
    (w.withArtifacts root artifacts).withArtifacts root artifacts =
      w.withArtifacts root artifacts := by
  rw [withArtifacts, withArtifacts, FileTree.putFiles_putFiles hfits]

end Workspace

/-! ### Running twice -/

open Workspace (Plain AskForTemplates BothStored IsArtifactPlace)

/-- Without a directory there are no templates. -/
lemma Workspace.eq_nil_of_templatePaths {w : Workspace} {directory : String}
    {including excluding paths : List String} (hask : AskForTemplates including)
    (hnone : ∀ root entries, w.locate directory = .ok root →
      w.tree.get? root ≠ some (.directory entries))
    (hfound : w.templatePaths directory including excluding = .ok paths) : paths = [] := by
  refine List.eq_nil_iff_forall_not_mem.mpr fun path hpath => ?_
  obtain ⟨tree, place, content, htree, hmem, hplace, htemplate⟩ :=
    exists_of_mem_templatePaths hfound hpath
  rcases treeBelow_cases htree with rfl | ⟨root, hlocate, hroot⟩
  · cases hmem
  cases tree with
  | file _ =>
    -- a single file is at no path that ends like a template
    obtain ⟨rfl, -⟩ := Prod.mk.inj (List.mem_singleton.mp hmem)
    have := htemplate hask
    rw [hplace] at this
    revert this
    decide
  | link _            => cases hmem
  | directory entries => exact hnone root entries hlocate hroot

namespace Project

variable {directory : String} {settings : Settings} {base first second : Workspace}
  {root : FileTree.Place} {entries : List (String × FileTree)}

/-- Runs in two workspaces that differ at most in artifacts write the same. -/
lemma recorded_alike (hhere : base.tree.face? base.here = some .directory)
    (hlocate : base.locate directory = .ok root)
    (hentries : base.tree.get? root = some (.directory entries))
    (hplain : Plain (.directory entries)) (hask : AskForTemplates settings.including)
    (hfirst : base.Alike first) (hsecond : base.Alike second)
    (hfind : ∀ w ∈ [first, second], w.templatePaths directory settings.including
      settings.excluding = base.templatePaths directory settings.including settings.excluding)
    {s t : Workshop Workspace} (hs : s.output = first) (ht : t.output = second) :
    ∃ result s' t' trace,
      (recorded directory settings).outcome (s, []) = (result, s', trace) ∧
      (recorded directory settings).outcome (t, []) = (result, t', trace) ∧
      BothStored base first second root IsArtifactPlace s'.output t'.output trace := by
  have hfindFirst := hfind first (List.mem_cons_self ..)
  have hfindSecond := hfind second (List.mem_cons_of_mem _ (List.mem_cons_self ..))
  refine agree_run Workspace.quiet_bothStored (hfindFirst.trans hfindSecond.symm) ?_
    (BothStored.quiet rfl ⟨.start hfirst, .start hsecond⟩) hs ht
  intro paths hpaths path hpath w v trace hstored
  rw [hfindFirst] at hpaths
  obtain ⟨outer, file, content, hreaches, hfile, hpath, hbackslash, hface, hother⟩ :=
    hplain.exists_of_mem hhere hlocate hentries hask hpaths hpath
  have hload {w : Workspace} (h : base.Alike w) :=
    (h.reaches hreaches).loadTemplate_eq hfile hpath ((h.other hother).trans hface)
  refine ⟨(hload hstored.1.alike).trans (hload hstored.2.alike).symm, hstored.quiet rfl,
    fun template htemplate => ?_⟩
  obtain ⟨source, rfl⟩ := Workspace.loadTemplate_eq_ok htemplate
  refine Workspace.writes_bothStored hreaches hfile.toIsPart hpath hbackslash ?_ ?_
  · intro name _ target hlink
    rw [List.append_assoc, FileTree.face?_eq_link, FileTree.get?_append, hentries] at hlink
    exact hplain.ne_link _ target hlink
  · exact fun name hname => ⟨outer, name, rfl, hname⟩

/-- Runs without templates leave the workspace as it is. -/
lemma recorded_none (hnone : ∀ paths, base.templatePaths directory settings.including
      settings.excluding = .ok paths → paths = [])
    {s t : Workshop Workspace} (hs : s.output = base) (ht : t.output = base) :
    ∃ result s' t' trace,
      (recorded directory settings).outcome (s, []) = (result, s', trace) ∧
      (recorded directory settings).outcome (t, []) = (result, t', trace) ∧
      s'.output = base ∧ t'.output = base := by
  have hquiet : Workshop.Quiet fun w v (_ : Trace) => w = base ∧ v = base :=
    fun _ _ _ _ _ h => h
  refine agree_run hquiet rfl (fun paths hpaths path hpath => ?_) ⟨rfl, rfl⟩ hs ht
  rw [hnone paths hpaths] at hpath
  cases hpath

end Project

/-- Below a directory with files and directories only, and with patterns that ask for templates
only, a second run does what the first one did: it finds, reads and writes the same, ends in the
same way, and leaves the workspace as it was. -/
theorem generate_again {directory : String} {settings : Settings} (s : Workshop Workspace)
    (hhere : s.output.tree.face? s.output.here = some .directory)
    (hplain : ∀ tree, s.output.treeBelow directory = .ok tree → Plain tree)
    (hask : AskForTemplates settings.including) :
    ∃ result s' trace,
      (Project.generate directory settings).outcome s = (result, s') ∧
      (Project.recorded directory settings).outcome (s, []) = (result, s', trace) ∧
      ∀ t : Workshop Workspace, t.output = s'.output → ∃ t',
        (Project.generate directory settings).outcome t = (result, t') ∧
        (Project.recorded directory settings).outcome (t, []) = (result, t', trace) ∧
        t'.output = s'.output := by
  by_cases hroot : ∃ root entries, s.output.locate directory = .ok root ∧
      s.output.tree.get? root = some (.directory entries)
  · obtain ⟨root, entries, hlocate, hentries⟩ := hroot
    have hplain := hplain _ (Workspace.treeBelow_of_locate hlocate hentries)
    obtain ⟨result, s', -, trace, hrun, -, hstored, -⟩ :=
      Project.recorded_alike hhere hlocate hentries hplain hask (.refl _) (.refl _)
        (by simp) (rfl : s.output = _) rfl
    have hagain := Workspace.withArtifacts_withArtifacts hstored.fits
    rw [← hstored.output] at hagain
    have hlink (place : FileTree.Place) (target : String) :
        s.output.tree.face? (root ++ place) ≠ some (.link target) := by
      rw [Ne, FileTree.face?_eq_link, FileTree.get?_append, hentries]
      exact hplain.ne_link place target
    have hfind : s'.output.templatePaths directory settings.including settings.excluding =
        s.output.templatePaths directory settings.including settings.excluding := by
      rw [hstored.output]
      exact Workspace.templatePaths_withArtifacts hask hlocate
        (FileTree.face?_eq_directory.mpr ⟨entries, hentries⟩) hlink hstored.fits
        fun artifact => hstored.kind
    refine ⟨result, s', trace, (Project.outcome_of_recorded hrun).1, hrun, fun t ht => ?_⟩
    obtain ⟨result', s'', t', trace', hrun', hrunAgain, -, hstored'⟩ :=
      Project.recorded_alike hhere hlocate hentries hplain hask (.refl _) hstored.alike
        (by simp [hfind]) (rfl : s.output = _) ht
    cases hrun.symm.trans hrun'
    exact ⟨t', (Project.outcome_of_recorded hrunAgain).1, hrunAgain, hstored'.output.trans hagain⟩
  · have hnone (paths : List String) (hfound : s.output.templatePaths directory settings.including
        settings.excluding = .ok paths) : paths = [] :=
      Workspace.eq_nil_of_templatePaths hask
        (fun root entries hlocate hentries => hroot ⟨root, entries, hlocate, hentries⟩) hfound
    obtain ⟨result, s', -, trace, hrun, -, hs', -⟩ := Project.recorded_none hnone
      (rfl : s.output = _) (rfl : s.output = _)
    refine ⟨result, s', trace, (Project.outcome_of_recorded hrun).1, hrun, fun t ht => ?_⟩
    obtain ⟨result', s'', t', trace', hrun', hrunAgain, -, ht'⟩ :=
      Project.recorded_none hnone (rfl : s.output = _) (ht.trans hs')
    cases hrun.symm.trans hrun'
    exact ⟨t', (Project.outcome_of_recorded hrunAgain).1, hrunAgain, ht'.trans hs'.symm⟩

/-- A run below `Workspace.single` can be done again. -/
theorem generate_again_single : ∃ result s' trace,
    (Project.generate "." (Settings.standard .standard)).outcome (.opened Workspace.single) =
      (result, s') ∧
    (Project.recorded "." (Settings.standard .standard)).outcome
      (.opened Workspace.single, []) = (result, s', trace) ∧
    ∀ t : Workshop Workspace, t.output = s'.output → ∃ t',
      (Project.generate "." (Settings.standard .standard)).outcome t = (result, t') ∧
      (Project.recorded "." (Settings.standard .standard)).outcome (t, []) = (result, t', trace) ∧
      t'.output = s'.output := by
  refine generate_again (.opened Workspace.single) rfl (fun tree htree => ?_)
    Workspace.askForTemplates_standard
  have hbelow : (Workshop.opened Workspace.single).output.treeBelow "." = .ok _ :=
    Workspace.treeBelow_of_locate Workspace.locate_single rfl
  rw [hbelow] at htree
  exact Except.ok.inj htree ▸ Workspace.plain_single

end Stencil
