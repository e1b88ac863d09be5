import Mathlib.Data.List.Dedup
import Stencil.Proofs.Placement

/-!
# Artifacts at one path

Nothing keeps artifacts of a run from having the same path: two items may have the same name, or an
item that of the template. The later one is then written in place of the earlier one
(`Rewritable.writeArtifact`), and each is counted. So after a run a path leads to what was written
there last (`generate_overwrites`).
-/

namespace Stencil

open FileTree (Place)

/-- Whether a write does not fail if there was one at its path. -/
def Effect.Accepts (earlier later : Effect) : Prop :=
  ∀ first second answer, earlier = .write first (.ok ()) → later = .write second answer →
    second.path = first.path → answer = .ok ()

namespace Workspace

variable {w v : Workspace} {directory path : String} {goal : Place} {trace : Trace}
  {artifact : Artifact}

/-! ### Writing again -/

/-- A path leads to a file, which can be written again. -/
structure Rewritable (w : Workspace) (path : String) : Prop where
  nul_not_mem : '\x00' ∉ path.toList
  not_inside : ¬EndsInside path
  parent : ∃ goal, Leads w true linkLimit (w.start (Path.parent path))
    (Path.parts (Path.parent path)) goal ∧ w.tree.face? goal = some .directory
  file : ∃ goal content, w.locate path = .ok goal ∧ w.tree.face? goal = some (.file content)

namespace Rewritable

lemma keeps (h : Rewritable w path) (hkeeps : Keeps w v)
    (hfile : ∀ place content, w.tree.face? place = some (.file content) →
      ∃ content, v.tree.face? place = some (.file content)) : Rewritable v path := by
  obtain ⟨outer, hleads, hdirectory⟩ := h.parent
  obtain ⟨goal, content, hlocate, hgoal⟩ := h.file
  obtain ⟨content, hgoal⟩ := hfile goal content hgoal
  refine ⟨h.nul_not_mem, h.not_inside, ⟨outer, ?_, hkeeps.directory hdirectory⟩,
    goal, content, hkeeps.locate hlocate, hgoal⟩
  rw [hkeeps.start]
  exact hleads.keeps hkeeps

lemma ofExtends (h : Rewritable w path) (hextends : Extends w v) : Rewritable v path :=
  h.keeps hextends.toKeeps fun _ content hfile => ⟨content, hextends.file hfile⟩

lemma store (h : Rewritable w path) (hfits : w.tree.Fits goal)
    (hlink : ∀ target, w.tree.face? goal ≠ some (.link target)) (content : List UInt8) :
    Rewritable (w.store goal content) path := by
  refine h.keeps (keeps_store hfits hlink content) fun place old hfile => ?_
  rw [Workspace.store, hfits.face?_put]
  split
  · exact ⟨content, rfl⟩
  · exact ⟨old, hfile⟩

lemma locate_eq (h : Rewritable w path) (hkeeps : Keeps w v) : v.locate path = w.locate path := by
  obtain ⟨goal, -, hlocate, -⟩ := h.file
  rw [hlocate, hkeeps.locate hlocate]

/-- An artifact whose path leads to a file is written. -/
lemma writeArtifact (h : Rewritable w (Path.join directory artifact.path))
    (hhere : w.tree.face? w.here = some .directory) :
    ∃ w', (Workspace.writeArtifact directory artifact).outcome w = (.ok (), w') := by
  obtain ⟨outer, hleads, hdirectory⟩ := h.parent
  obtain ⟨goal, content, hlocate, hgoal⟩ := h.file
  have hnul : '\x00' ∉ (Path.parent (Path.join directory artifact.path)).toList := by
    intro hmem
    rcases Path.mem_toList_parent hmem with heq | heq | hmem
    · cases heq
    · cases heq
    · exact h.nul_not_mem hmem
  refine ⟨w.store goal (Text.utf8Bytes artifact.content.toList), ?_⟩
  rw [outcome_writeArtifact, makePath_there hhere hnul hleads hdirectory]
  dsimp only
  rw [writeFile_outcome _ h.nul_not_mem h.not_inside, hlocate]
  dsimp only
  rw [hgoal, if_neg nofun]
  rfl

end Rewritable

/-- A write adds directories, and then the artifact is in a file where its path leads, or the write
is refused. -/
lemma writeArtifact_cases (hhere : w.tree.face? w.here = some .directory) (artifact : Artifact)
    (hpath : Path.join directory artifact.path = path) {content : List UInt8}
    (hcontent : Text.utf8Bytes artifact.content.toList = content) :
    ∃ v, Extends w v ∧
      ((∃ failure, (writeArtifact directory artifact).outcome w = (.error failure, v)) ∨
        ∃ goal, v.locate path = .ok goal ∧ v.tree.Fits goal ∧
          (∀ target, v.tree.face? goal ≠ some (.link target)) ∧
          Rewritable (v.store goal content) path ∧
          (writeArtifact directory artifact).outcome w = (.ok (), v.store goal content)) := by
  have hextends := makePath_grows (Path.parent path) w
  rw [outcome_writeArtifact, hpath, hcontent]
  rcases hmake : (makePath (Path.parent path)).outcome w with ⟨fault | _, v⟩ <;>
    rw [hmake] at hextends <;> refine ⟨v, hextends, ?_⟩
  · exact .inl ⟨_, rfl⟩
  have hhere' := hextends.here_directory hhere
  obtain ⟨fault, hwrite⟩ | ⟨goal, hnul, hinside, hlocate, hfits, hlink, hwrite⟩ :=
    writeFile_cases content hhere' <;> dsimp only <;> rw [hwrite]
  · exact .inl ⟨_, rfl⟩
  · obtain ⟨-, outer, hleads, hdirectory⟩ := leads_of_makePath hhere hmake
    have hkeeps := keeps_store hfits hlink content
    have hgoal : (v.store goal content).tree.face? goal = some (.file content) := by
      rw [store, hfits.face?_put, if_pos rfl]
    refine .inr ⟨goal, hlocate, hfits, hlink, ⟨hnul, hinside, ⟨outer, ?_, ?_⟩, goal, content,
      hkeeps.locate hlocate, hgoal⟩, rfl⟩
    · rw [hkeeps.start]
      exact hleads.keeps hkeeps
    · exact hkeeps.directory hdirectory

/-! ### What lasts -/

/-- Whether paths lead to the artifacts that were written there last. -/
def HoldsLast (w : Workspace) (directory : String) (artifacts : List Artifact) : Prop :=
  ∀ before artifact after, artifacts = before ++ artifact :: after →
    (∀ later ∈ after, w.locate (Path.join directory later.path) ≠
      w.locate (Path.join directory artifact.path)) →
    w.find (Path.join directory artifact.path) =
      .ok (.file (Text.utf8Bytes artifact.content.toList))

section

variable {artifacts : List Artifact} {content : List UInt8}

lemma find_eq_file :
    w.find path = .ok (.file content) ↔
      ∃ goal, w.locate path = .ok goal ∧ w.tree.face? goal = some (.file content) := by
  simp only [find_eq_ok, FileTree.face?_eq_file]

variable (h : w.HoldsLast directory artifacts)
  (hrewritable : ∀ artifact ∈ artifacts, w.Rewritable (Path.join directory artifact.path))
include h hrewritable

lemma HoldsLast.ofExtends (hextends : Extends w v) : v.HoldsLast directory artifacts := by
  intro before artifact after heq hafter
  have hmem : artifact ∈ artifacts := by simp [heq]
  have hfind := h before artifact after heq fun later hlater => by
    have hmem' : later ∈ artifacts := by simp [heq, hlater]
    rw [← (hrewritable later hmem').locate_eq hextends.toKeeps,
      ← (hrewritable artifact hmem).locate_eq hextends.toKeeps]
    exact hafter later hlater
  obtain ⟨goal, hlocate, hgoal⟩ := find_eq_file.mp hfind
  exact find_eq_file.mpr ⟨goal, hextends.toKeeps.locate hlocate, hextends.file hgoal⟩

lemma HoldsLast.store (hlocate : w.locate (Path.join directory artifact.path) = .ok goal)
    (hfits : w.tree.Fits goal) (hlink : ∀ target, w.tree.face? goal ≠ some (.link target)) :
    (w.store goal (Text.utf8Bytes artifact.content.toList)).HoldsLast directory
      (artifacts ++ [artifact]) := by
  have hkeeps := keeps_store hfits hlink (Text.utf8Bytes artifact.content.toList)
  intro before first after heq hafter
  rcases after.eq_nil_or_concat with rfl | ⟨after, last, rfl⟩
  · obtain ⟨-, heq⟩ := List.append_inj' heq rfl
    obtain rfl := List.singleton_inj.mp heq
    refine find_eq_file.mpr ⟨goal, hkeeps.locate hlocate, ?_⟩
    rw [Workspace.store, hfits.face?_put, if_pos rfl]
  · -- the file of `first` is another one than the one that is written, which `last` is in
    rw [List.concat_eq_append, ← List.cons_append, ← List.append_assoc] at heq
    obtain ⟨rfl, hlast⟩ := List.append_inj' heq rfl
    obtain rfl := List.singleton_inj.mp hlast
    have hmem : first ∈ before ++ first :: after := by simp
    have hlocate' := (hrewritable first hmem).locate_eq hkeeps
    have hfind := h before first after rfl fun later hlater => by
      have hmem' : later ∈ before ++ first :: after := by simp [hlater]
      rw [← (hrewritable later hmem').locate_eq hkeeps, ← hlocate']
      exact hafter later (by simp [hlater])
    obtain ⟨place, hplace, hface⟩ := find_eq_file.mp hfind
    refine find_eq_file.mpr ⟨place, hkeeps.locate hplace, ?_⟩
    have hne : place ≠ goal := by
      rintro rfl
      refine hafter artifact (by simp) ?_
      rw [hlocate', hplace, hkeeps.locate hlocate]
    rw [Workspace.store, hfits.face?_put, if_neg hne, hface]

end

/-- What holds of a workspace when these effects were all so far. -/
structure Lasting (directory : String) (w : Workspace) (trace : Trace) : Prop where
  here : w.tree.face? w.here = some .directory
  loaded {path : String} {template : Template} (h : .load path (.ok template) ∈ trace) :
    ∃ source, template = .ofPath path source
  rewritable {artifact : Artifact} (h : artifact ∈ trace.written) :
    w.Rewritable (Path.join directory artifact.path)
  holds : w.HoldsLast directory trace.written
  accepts : trace.Pairwise Effect.Accepts

namespace Lasting

lemma start (hhere : w.tree.face? w.here = some .directory)
    (answer : Except Failure (List String)) : Lasting directory w [.discover answer] where
  here := hhere
  loaded h := by simp at h
  rewritable h := (List.not_mem_nil h).elim
  holds _ _ _ heq :=
    (List.append_ne_nil_of_right_ne_nil _ (List.cons_ne_nil _ _) heq.symm).elim
  accepts := List.pairwise_singleton ..

lemma pairwise_accepts_append {effect : Effect} (h : trace.Pairwise Effect.Accepts)
    (heffect : ∀ earlier ∈ trace, Effect.Accepts earlier effect) :
    (trace ++ [effect]).Pairwise Effect.Accepts := by
  refine List.pairwise_append.mpr ⟨h, List.pairwise_singleton .., fun earlier hearlier => ?_⟩
  exact List.forall_mem_singleton.mpr (heffect earlier hearlier)

lemma quiet {effect : Effect} (heffect : ∀ artifact answer, effect ≠ .write artifact answer)
    (hload : ∀ path template, effect = .load path (.ok template) →
      ∃ source, template = .ofPath path source)
    (h : Lasting directory w trace) : Lasting directory w (trace ++ [effect]) := by
  have hnone : effect.written? = none := by
    cases effect with
    | write artifact answer => exact absurd rfl (heffect artifact answer)
    | _                     => rfl
  have hwritten := Trace.written_concat_of_none hnone trace
  refine ⟨h.here, fun hmem => ?_, hwritten ▸ h.rewritable, hwritten ▸ h.holds,
    pairwise_accepts_append h.accepts fun _ _ _ artifact answer _ hwrite =>
      absurd hwrite (heffect artifact answer)⟩
  rcases List.mem_append.mp hmem with hmem | hmem
  · exact h.loaded hmem
  · exact hload _ _ (List.mem_singleton.mp hmem).symm

lemma accepts_write (h : Lasting directory w trace) {answer : Except Failure Unit}
    {w' : Workspace} (hwrite : (writeArtifact directory artifact).outcome w = (answer, w')) :
    (trace ++ [Effect.write artifact answer]).Pairwise Effect.Accepts := by
  refine pairwise_accepts_append h.accepts fun earlier hearlier => ?_
  rintro first second answer' rfl heq hpath
  obtain ⟨rfl, rfl⟩ := Effect.write.inj heq
  have hfirst : first ∈ trace.written := List.mem_filterMap.mpr ⟨_, hearlier, rfl⟩
  have hrewritable := h.rewritable hfirst
  rw [← hpath] at hrewritable
  obtain ⟨w'', hwrite'⟩ := hrewritable.writeArtifact h.here
  exact (Prod.mk.inj (hwrite.symm.trans hwrite')).1

/-- A write keeps what holds. -/
lemma write (h : Lasting directory w trace) (artifact : Artifact) :
    ∃ answer w', (writeArtifact directory artifact).outcome w = (answer, w') ∧
      Lasting directory w' (trace ++ [.write artifact answer]) := by
  have hloaded {answer : Except Failure Unit} {path : String} {template : Template}
      (hmem : .load path (.ok template) ∈ trace ++ [Effect.write artifact answer]) :
      ∃ source, template = .ofPath path source :=
    (List.mem_append.mp hmem).elim h.loaded fun hmem => by simp at hmem
  obtain ⟨v, hextends, ⟨failure, hwrite⟩ | ⟨goal, hlocate, hfits, hlink, hrewritable, hwrite⟩⟩ :=
    writeArtifact_cases h.here artifact rfl rfl
  · have hwritten : Trace.written (trace ++ [.write artifact (.error failure)]) = _ :=
      Trace.written_concat_of_none rfl trace
    refine ⟨_, v, hwrite, hextends.here_directory h.here, hloaded, ?_, ?_,
      h.accepts_write hwrite⟩
    · rw [hwritten]
      exact fun hmem => (h.rewritable hmem).ofExtends hextends
    · rw [hwritten]
      exact h.holds.ofExtends (fun _ => h.rewritable) hextends
  · have hwritten := Trace.written_concat_write trace artifact
    have hkeeps := keeps_store hfits hlink (Text.utf8Bytes artifact.content.toList)
    refine ⟨_, _, hwrite, hkeeps.here_directory (hextends.here_directory h.here), hloaded, ?_, ?_,
      h.accepts_write hwrite⟩
    · intro other hmem
      rw [hwritten] at hmem
      rcases List.mem_append.mp hmem with hmem | hmem
      · exact ((h.rewritable hmem).ofExtends hextends).store hfits hlink _
      · rwa [List.mem_singleton.mp hmem]
    · rw [hwritten]
      refine HoldsLast.store (h.holds.ofExtends (fun _ => h.rewritable) hextends) ?_ hlocate hfits
        hlink
      exact fun _ hmem => (h.rewritable hmem).ofExtends hextends

end Lasting

/-- The same workspace on both sides, and what holds of it. -/
def BothLasting (directory : String) (w v : Workspace) (trace : Trace) : Prop :=
  v = w ∧ Lasting directory w trace

lemma quiet_bothLasting : Workshop.Quiet (BothLasting directory) := by
  rintro w v trace effect heffect ⟨rfl, h⟩
  refine ⟨rfl, h.quiet ?_ ?_⟩
  · rintro artifact answer rfl
    cases heffect
  · rintro path template rfl
    cases heffect

lemma covers_bothLasting (path : String) :
    Project.Covers directory (BothLasting directory) path := by
  rintro w v trace ⟨rfl, h⟩
  refine ⟨rfl, ⟨rfl, h.quiet nofun ?_⟩, fun template _ name content _ => ?_⟩
  · intro path template heffect
    obtain ⟨rfl, hload⟩ := Effect.load.inj heffect
    exact loadTemplate_eq_ok hload
  · rintro w v trace ⟨rfl, h⟩
    obtain ⟨answer, w', hwrite, h'⟩ := h.write ⟨template.outputPath name, content⟩
    exact ⟨answer, w', w', hwrite, hwrite, rfl, h'⟩

end Workspace

/-! ### Runs -/

/-- Artifacts of a run may have the same path. That is no reason to refuse one: where a path was
written, a later write comes through, and what was written last is there after the run. The total
counts the writes, so it is the number of paths just if these are different. -/
theorem generate_overwrites (directory : String) (settings : Settings) (s : Workshop Workspace)
    (hhere : s.output.tree.face? s.output.here = some .directory) :
    ∃ result s' trace,
      (Project.generate directory settings).outcome s = (result, s') ∧
      (Project.recorded directory settings).outcome (s, []) = (result, s', trace) ∧
      (∀ artifact ∈ trace.written, trace.Origin artifact) ∧
      (∀ path template name, Effect.load path (.ok template) ∈ trace → template.Names name →
        ∀ path' template' name', Effect.load path' (.ok template') ∈ trace →
          template'.Names name' →
          (template.outputPath name = template'.outputPath name' ↔
            template.directory = template'.directory ∧ name = name')) ∧
      trace.Pairwise Effect.Accepts ∧
      s'.output.HoldsLast directory trace.written ∧
      ∀ totals, result = .ok totals → totals.artifacts = trace.written.length ∧
        ((trace.written.map Artifact.path).dedup.length = totals.artifacts ↔
          (trace.written.map Artifact.path).Nodup) := by
  obtain ⟨result, s', -, trace, hrun, -, -, hlasting⟩ :=
    Project.agree_run Workspace.quiet_bothLasting rfl
      (fun paths _ path _ => Workspace.covers_bothLasting path) ⟨rfl, .start hhere _⟩
      (rfl : s.output = _) (rfl : s.output = _)
  obtain ⟨hgenerate, haccounted⟩ := Project.outcome_of_recorded hrun
  refine ⟨result, s', trace, hgenerate, hrun, haccounted.origin, ?_, hlasting.accepts,
    hlasting.holds, ?_⟩
  · intro path template name hload hname path' template' name' hload' hname'
    obtain ⟨source, rfl⟩ := hlasting.loaded hload
    obtain ⟨source', rfl⟩ := hlasting.loaded hload'
    exact Template.outputPath_eq_iff hname.slash_not_mem hname'.slash_not_mem
  · rintro totals rfl
    have hcount := haccounted.count rfl
    refine ⟨hcount.symm, ?_⟩
    rw [← hcount, ← List.length_map (f := Artifact.path)]
    exact ⟨fun h => List.dedup_eq_self.mp ((List.dedup_sublist _).eq_of_length h),
      fun h => by rw [List.dedup_eq_self.mpr h]⟩

/-- The run below `Workspace.single`. -/
theorem generate_overwrites_single : ∃ result s' trace,
    (Project.recorded "." (Settings.standard .standard)).outcome
      (.opened Workspace.single, []) = (result, s', trace) ∧
    trace.Pairwise Effect.Accepts ∧ s'.output.HoldsLast "." trace.written := by
  obtain ⟨result, s', trace, -, hrun, -, -, haccepts, hholds, -⟩ :=
    generate_overwrites "." (.standard .standard) (.opened Workspace.single) rfl
  exact ⟨result, s', trace, hrun, haccepts, hholds⟩

/-- Names with the extension of artifacts keep it, so two texts can give the same name. -/
example : artifactFileName? (some "a") = artifactFileName? (some "a.json") := by decide +kernel

/-- What a template with `[(o) => o, (o) => ({ o }), ["a", "a"]]` as its default export answers. -/
def twins : Services Unit where
  instantiate _ := pure ⟨0⟩
  inspect value := pure <|
    if value.index = 0 then .array [⟨1⟩, ⟨2⟩, ⟨3⟩]
    else if value.index = 3 then .array [⟨4⟩, ⟨5⟩]
    else .function
  call _ argument := pure argument
  text? _ := pure (some "a")
  json _ _ := pure "\x7b \"o\": \"a\" \x7d"
  write _ := pure ()
  note _ := pure ()

/-- A discovery of this template. -/
def oneTemplate : Discovery Unit where
  discover := pure ["BP/t.ts"]
  load path := pure <|
    .ofPath path "export default [(o) => o, (o) => (\x7b o \x7d), [\"a\", \"a\"]];"
  noteScanning := pure ()
  noteFound _ := pure ()

/-- Two items with the same name: the run succeeds and counts two artifacts at one path. -/
theorem twins_collide : ∃ totals s' trace,
    (twins.recorded.run oneTemplate.recorded true).outcome ((), []) = (.ok totals, s', trace) ∧
    ¬(trace.written.map Artifact.path).Nodup ∧
    totals.artifacts ≠ (trace.written.map Artifact.path).dedup.length :=
  ⟨⟨1, 2⟩, (), _, rfl, by decide +kernel, by decide +kernel⟩

end Stencil
