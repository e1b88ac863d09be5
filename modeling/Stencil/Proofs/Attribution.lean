import Stencil.Proofs.Logs
import Stencil.Workshop

/-!
# Whom failures blame

A failure that names a template names it in its message, too (`Failure.infix_message`). Each failure
in the work on a template names this template, except for those of the place for output
(`Workshop.generate_blames`): what is done in a sandbox blames the file that the sandbox belongs to,
and generation blames the template that it works on.
-/

namespace Stencil

/-! ### Messages -/

section

variable {text file : String}

lemma infix_append (front text : String) : text.toList <:+: (front ++ text).toList := by
  simp only [String.toList_append]
  exact (List.suffix_append ..).isInfix

lemma infix_append_left (h : file.toList <:+: text.toList) (back : String) :
    file.toList <:+: (text ++ back).toList := by
  simp only [String.toList_append]
  exact h.trans (List.prefix_append ..).isInfix

end

/-- The message of a failure that names a template shows its path. -/
lemma Failure.infix_message {failure : Failure} {file : String} (h : failure.template = some file) :
    file.toList <:+: failure.message.toList := by
  have hshown (front : String) := infix_append front file
  cases failure with
  | discovery _ | settings _ | fileSystem _ _ => cases h
  | moduleLoad _ _         =>
    cases h
    exact infix_append_left (infix_append_left (infix_append_left (hshown _) _) _) _
  | translation _ _ _      =>
    cases h
    exact infix_append_left (infix_append_left (infix_append_left
      (infix_append_left (infix_append_left (hshown _) _) _) _) _) _
  | brokenOff _            =>
    cases h
    exact infix_append_left (hshown _) _
  | moduleLoadDisabled _ _ =>
    cases h
    exact hshown _
  | evaluation _ _ | contract _ _ | invalidName _ _ _ | serialization _ _ =>
    cases h
    exact infix_append_left (infix_append_left (hshown _) _) _
  | unsupported _ _        =>
    cases h
    exact infix_append_left (infix_append_left
      (infix_append_left (infix_append_left (hshown _) _) _) _) _

/-! ### Actions that blame a file -/

namespace Action

variable {σ α β : Type} {fileOf : σ → String} {file : String}

/-- Whether all failures of an action name a file, as long as the state does, which it keeps. -/
def Blames (fileOf : σ → String) (file : String) (action : Action σ α) : Prop :=
  ∀ s, fileOf s = file → fileOf (action.outcome s).2 = file ∧
    ∀ failure, (action.outcome s).1 = .error failure → failure.template = some file

namespace Blames

lemma pure (a : α) : Blames fileOf file (Pure.pure a) := fun _ hs => ⟨hs, nofun⟩

lemma throw {failure : Failure} (h : failure.template = some file) :
    Blames fileOf file (MonadExcept.throw failure : Action σ α) := by
  refine fun s hs => ⟨hs, ?_⟩
  rintro _ ⟨⟩
  exact h

lemma bind {action : Action σ α} {next : α → Action σ β} (h : Blames fileOf file action)
    (hnext : ∀ a, Blames fileOf file (next a)) : Blames fileOf file (action >>= next) := by
  intro s hs
  obtain ⟨hfile, hfail⟩ := h s hs
  rcases houtcome : action.outcome s with ⟨failure | a, s'⟩ <;> rw [houtcome] at hfile hfail
  · rw [outcome_bind_error houtcome]
    exact ⟨hfile, fun _ hfailure => hfail _ (congrArg _ (Except.error.inj hfailure))⟩
  · rw [outcome_bind_ok houtcome]
    exact hnext a s' hfile

/-- An action that cannot fail. -/
lemma lift {p : StateM σ α} (h : ∀ s, fileOf (p.run s).2 = fileOf s) :
    Blames fileOf file (liftM p) :=
  fun s hs => ⟨(h s).trans hs, nofun⟩

/-- What follows a look at the state may use that the state names the file. -/
lemma get_bind {next : σ → Action σ α} (h : ∀ s, fileOf s = file → Blames fileOf file (next s)) :
    Blames fileOf file (get >>= next) :=
  fun s hs => h s hs s hs

lemma set_bind {s : σ} {next : PUnit → Action σ α} (hs : fileOf s = file)
    (h : Blames fileOf file (next ⟨⟩)) : Blames fileOf file (set s >>= next) :=
  fun _ _ => h s hs

lemma mapM {work : α → Action σ β} (h : ∀ a, Blames fileOf file (work a)) (xs : List α) :
    Blames fileOf file (xs.mapM work) := by
  induction xs with
  | nil => exact .pure []
  | cons x xs ih =>
    rw [List.mapM_cons]
    exact (h x).bind fun _ => ih.bind fun _ => .pure _

end Blames

end Action

/-! ### Sandboxes -/

namespace Sandbox

open Script
open Action (Blames)

variable {α : Type} {file : String}

/-- Whether a computation leaves the sandbox to its file. -/
def KeepsFile (p : StateM Sandbox α) : Prop := ∀ s, (p.run s).2.file = s.file

lemma KeepsFile.bind {β : Type} {p : StateM Sandbox α} {next : α → StateM Sandbox β}
    (h : KeepsFile p) (hnext : ∀ a, KeepsFile (next a)) : KeepsFile (p >>= next) :=
  fun s => (hnext _ _).trans (h s)

lemma keepsFile_attemptIn (p : Exec α) : KeepsFile (attemptIn p) := by
  intro s
  change (attemptIn p s).2.file = s.file
  unfold attemptIn
  rcases p host s.machine with _ | _ <;> rfl

lemma keepsFile_reportOf (error : Abrupt) : KeepsFile (reportOf error) := by
  cases error with
  | exhausted => exact fun _ => rfl
  | thrown v  =>
    refine (keepsFile_attemptIn (report v)).bind fun result => ?_
    rcases result with _ | _ <;> exact fun _ => rfl

lemma keepsFile_runJobs : KeepsFile runJobs := fun _ => rfl

/-- The sandbox's file is the one that its failures name. -/
lemma template_toFailure (r : Report) (file : String) :
    (r.toFailure file).template = some file := by
  unfold Report.toFailure
  split <;> rfl

lemma blames_lift {p : StateM Sandbox α} (h : KeepsFile p) :
    Blames Sandbox.file file (liftM p) :=
  .lift h

lemma blames_blame (error : Abrupt) :
    Blames Sandbox.file file (blame error : Action Sandbox α) := by
  unfold blame
  refine (blames_lift (keepsFile_reportOf error)).bind fun r => .get_bind fun s hs => ?_
  rw [hs]
  exact .throw (template_toFailure r file)

lemma blames_compute (p : Exec α) : Blames Sandbox.file file (compute p) := by
  unfold compute
  refine (blames_lift (keepsFile_attemptIn p)).bind fun result => ?_
  rcases result with error | a
  · exact blames_blame error
  · exact .pure a

lemma blames_evaluate (code : String) : Blames Sandbox.file file (evaluate code) := by
  unfold evaluate
  refine (blames_lift (keepsFile_attemptIn _)).bind fun result => ?_
  refine (blames_lift keepsFile_runJobs).bind fun _ => ?_
  rcases result with error | a
  · exact blames_blame error
  · exact blames_compute defaultExport

lemma blames_resolve (produced : Produced Ref Value) :
    Blames Sandbox.file file (resolve produced) := by
  unfold resolve
  cases produced with
  | ready v         => exact .pure v
  | deferred record =>
    refine .get_bind fun s hs => ?_
    refine .set_bind hs ?_
    split
    · exact .pure _
    · exact blames_blame _
    · exact blames_blame _
    · exact .throw (congrArg some hs)
    · exact blames_blame _

lemma blames_json (v : Value) (indent : Option Nat) :
    Blames Sandbox.file file (json v indent) := by
  unfold json
  refine (blames_lift (keepsFile_attemptIn _)).bind fun result => ?_
  split
  · exact .pure _
  · exact .get_bind fun s hs => .throw (congrArg some hs)
  · refine (blames_lift (keepsFile_reportOf _)).bind fun r => ?_
    exact .get_bind fun s hs => .throw (congrArg some hs)

end Sandbox

/-! ### Workshops -/

namespace Workshop

open Action (Blames)

/-- The file of the sandbox that is used. -/
def file {ω : Type} (w : Workshop ω) : String := w.sandbox.file

variable {ω α : Type} {file : String}

lemma blames_inSandbox {p : Action Sandbox α} (h : Blames Sandbox.file file p) :
    Blames (Workshop.file (ω := ω)) file (inSandbox p) :=
  fun w hw => h w.sandbox hw

lemma blames_value (ref : ValueRef) : Blames (Workshop.file (ω := ω)) file (value ref) := by
  refine .get_bind fun w hw => ?_
  split
  · exact .pure _
  · exact .throw (congrArg some hw)

lemma blames_keep (v : Script.Value) : Blames (Workshop.file (ω := ω)) file (keep v) :=
  fun _ hw => ⟨hw, nofun⟩

lemma blames_inspect (ref : ValueRef) : Blames (Workshop.file (ω := ω)) file (inspect ref) := by
  refine (blames_value ref).bind fun v => ?_
  refine (blames_inSandbox (Sandbox.blames_compute _)).bind fun elements => ?_
  cases elements with
  | some elements => exact (Blames.mapM blames_keep elements).bind fun _ => .pure _
  | none          =>
    refine .get_bind fun w _ => ?_
    dsimp only
    split
    · exact .pure _
    split
    · exact .pure _
    · exact .pure _

lemma blames_call (function argument : ValueRef) :
    Blames (Workshop.file (ω := ω)) file (call function argument) := by
  refine (blames_value function).bind fun f => .get_bind fun w hw => ?_
  have hcall : Blames (Workshop.file (ω := ω)) file (do
      let argument ← value argument
      let produced ← inSandbox (Sandbox.callProducer f argument)
      keep (← inSandbox (Sandbox.resolve produced))) :=
    (blames_value argument).bind fun argument =>
      (blames_inSandbox (Sandbox.blames_compute _)).bind fun produced =>
        (blames_inSandbox (Sandbox.blames_resolve produced)).bind blames_keep
  split
  · exact hcall
  · refine .bind (.throw ?_) fun _ => hcall
    exact congrArg some hw

lemma blames_json (ref : ValueRef) (indent : Option Nat) :
    Blames (Workshop.file (ω := ω)) file (json ref indent) :=
  (blames_value ref).bind fun v => blames_inSandbox (Sandbox.blames_json v indent)

lemma template_of_demandNoLoads {source file : String} {failure : Failure}
    (h : demandNoLoads source file = .error failure) : failure.template = some file := by
  unfold demandNoLoads at h
  split at h <;> cases h
  rfl

lemma template_of_transpile {source file : String} {failure : Failure}
    (h : transpile source file = .error failure) : failure.template = some file := by
  unfold transpile at h
  dsimp only at h
  split at h <;> cases h <;> rfl

/-- The workshop with a new sandbox for a template. -/
def renewed (w : Workshop ω) (template : Template) : Workshop ω :=
  { w with sandbox := .new template.path, values := #[] }

/-- A template that is not refused beforehand is evaluated in a sandbox of its own. -/
lemma outcome_instantiate (template : Template) (w : Workshop ω) :
    (∃ failure, (demandNoLoads template.source template.path = .error failure ∨
        transpile template.source template.path = .error failure) ∧
      (instantiate template).outcome w = (.error failure, w)) ∨
    ∃ script, demandNoLoads template.source template.path = .ok () ∧
      transpile template.source template.path = .ok script ∧
      (instantiate template).outcome w =
        (inSandbox (Sandbox.evaluate script) >>= keep).outcome (w.renewed template) := by
  have hlift {β : Type} (answer : Except Failure β) :
      (liftM answer : Action (Workshop ω) β).outcome w = (answer, w) := rfl
  have hrenew : (modify fun w => { w with sandbox := .new template.path, values := #[] } :
      Action (Workshop ω) PUnit).outcome w = (.ok ⟨⟩, w.renewed template) := rfl
  unfold instantiate
  rcases hloads : demandNoLoads template.source template.path with failure | _
  · exact .inl ⟨failure, .inl rfl, Action.outcome_bind_error (hlift _)⟩
  rw [Action.outcome_bind_ok (hlift _)]
  rcases hscript : transpile template.source template.path with failure | script
  · exact .inl ⟨failure, .inr rfl, Action.outcome_bind_error (hlift _)⟩
  rw [Action.outcome_bind_ok (hlift _), Action.outcome_bind_ok hrenew]
  exact .inr ⟨script, rfl, rfl, rfl⟩

/-- To evaluate a template gives it a sandbox of its own, or fails with a failure that names it. -/
lemma instantiate_blames (template : Template) (w : Workshop ω) :
    (∀ exported, ((instantiate template).outcome w).1 = .ok exported →
      Workshop.file ((instantiate template).outcome w).2 = template.path) ∧
    ∀ failure, ((instantiate template).outcome w).1 = .error failure →
      failure.template = some template.path := by
  rcases outcome_instantiate template w with ⟨failure, hrefused, h⟩ | ⟨script, -, -, h⟩ <;> rw [h]
  · refine ⟨nofun, ?_⟩
    rintro _ ⟨⟩
    exact hrefused.elim template_of_demandNoLoads template_of_transpile
  · have hwork : Blames (Workshop.file (ω := ω)) template.path
        (inSandbox (Sandbox.evaluate script) >>= keep) :=
      (blames_inSandbox (Sandbox.blames_evaluate script)).bind blames_keep
    obtain ⟨hfile, hfail⟩ := hwork (w.renewed template) rfl
    exact ⟨fun _ _ => hfile, hfail⟩

/-! ### Generation -/

/-- The sandbox of a template is used until the work on it is over. -/
lemma keeps_file (write : Artifact → Action ω Unit) (template : Template) :
    (services write).Keeps template fun w => Workshop.file w = template.path where
  instantiate w _ h := (instantiate_blames template w).1 _ h
  inspect h value := (blames_inspect value _ h).1
  call h function argument := (blames_call function argument _ h).1
  text h _ := h
  json h value indent := (blames_json value indent _ h).1
  write h _ := h
  note h _ := h

/-- What a question about a template is answered with blames it, unless it is to write. -/
lemma template_of_asks {write : Artifact → Action ω Unit} {template : Template} {w : Workshop ω}
    {effect : Effect} {failure : Failure}
    (h : (services write).Asks template (fun w => Workshop.file w = template.path) w effect)
    (hfailure : effect.failure? = some failure) :
    (∃ artifact, effect = .write artifact (.error failure)) ∨
      failure.template = some template.path := by
  obtain ⟨hanswers, hinside⟩ := h
  cases effect with
  | discover answer | load path answer => exact hanswers.elim
  | text value answer => cases hfailure
  | instantiate other answer =>
    obtain rfl : other = template := hinside
    rcases answer with failure | _ <;> cases hfailure
    exact .inr ((instantiate_blames other w).2 _ hanswers)
  | inspect value answer =>
    rcases answer with failure | _ <;> cases hfailure
    exact .inr ((blames_inspect value w hinside).2 _ hanswers)
  | call function argument answer =>
    rcases answer with failure | _ <;> cases hfailure
    exact .inr ((blames_call function argument w hinside).2 _ hanswers)
  | json value indent answer =>
    rcases answer with failure | _ <;> cases hfailure
    exact .inr ((blames_json value indent w hinside).2 _ hanswers)
  | write artifact answer =>
    rcases answer with failure | _ <;> cases hfailure
    exact .inl ⟨artifact, rfl⟩

/-- Each failure of a template is that of the place for output, or it names the template and shows
its path, whatever the template does and wherever it fails. -/
theorem generate_blames (write : Artifact → Action ω Unit) (template : Template) (pretty : Bool)
    (w : Workshop ω) : ∃ result w' trace,
      ((services write).generate template pretty).outcome w = (result, w') ∧
      ((services write).recorded.generate template pretty).outcome (w, []) = (result, w', trace) ∧
      ∀ failure, result = .error failure →
        (∃ before artifact, trace = before ++ [.write artifact (.error failure)]) ∨
        failure.template = some template.path ∧
          template.path.toList <:+: failure.message.toList := by
  obtain ⟨result, w', log, hrun, hrecorded, -, hasks, -, hcause⟩ :=
    (keeps_file write template).generate_logged pretty w
  refine ⟨result, w', _, hrun, hrecorded, fun failure hfailure => ?_⟩
  rcases hcause failure hfailure with hrefuses | ⟨before, s, effect, rfl, heffect⟩
  · have htemplate : failure.template = some template.path := by cases hrefuses <;> rfl
    exact .inr ⟨htemplate, Failure.infix_message htemplate⟩
  · have hask := hasks (s, effect) (List.mem_append_right _ (List.mem_singleton_self _))
    rcases template_of_asks hask heffect with ⟨artifact, rfl⟩ | htemplate
    · exact .inl ⟨before.map Prod.snd, artifact, List.map_append⟩
    · exact .inr ⟨htemplate, Failure.infix_message htemplate⟩

end Workshop

end Stencil
