import Stencil.Project
import Stencil.Proofs.Origins

/-!
# What templates see

The work on a template is blind to the place for output: from workshops with the same sandbox and
the same values it gives the same answers, and leaves the output as it is (`Blind`). A new template
gets a new sandbox, so two runs differ at most where they find, load or write
(`Project.agree_generate`, `Project.agree_run`).
-/

namespace Stencil

/-- Whether an effect is one of a sandbox. -/
def Effect.isEvaluation : Effect → Bool
  | .instantiate _ _ => true
  | .inspect _ _     => true
  | .call _ _ _      => true
  | .text _ _        => true
  | .json _ _ _      => true
  | _                => false

namespace Workshop

variable {ω α β : Type}

/-! ### The work on a template -/

/-- Two workshops with the same sandbox and the same values, and with these outputs. -/
structure SameWork (w v : ω) (s t : Workshop ω) : Prop where
  sandbox : s.sandbox = t.sandbox
  values : s.values = t.values
  first : s.output = w
  second : t.output = v

/-- Work that neither depends on the output nor changes it. -/
def Blind (work : Action (Workshop ω) α) : Prop :=
  ∀ w v, Action.Agree (SameWork w v) work work fun _ => SameWork w v

namespace Blind

lemma pure (a : α) : Blind (ω := ω) (Pure.pure a) := fun _ _ => .pure fun _ _ => id

lemma throw (failure : Failure) : Blind (MonadExcept.throw failure : Action (Workshop ω) α) :=
  fun _ _ => .throw fun _ _ => id

lemma bind {work : Action (Workshop ω) α} {next : α → Action (Workshop ω) β} (h : Blind work)
    (hnext : ∀ a, Blind (next a)) : Blind (work >>= next) :=
  fun w v => (h w v).seq fun a => hnext a w v

/-- What is seen of a workshop is its sandbox and the values. -/
lemma get_bind {next : Workshop ω → Action (Workshop ω) α}
    (hsame : ∀ s t, s.sandbox = t.sandbox → s.values = t.values → next s = next t)
    (hnext : ∀ s, Blind (next s)) : Blind (get >>= next) := by
  intro w v s t h
  obtain ⟨result, s', t', hs, ht, h'⟩ := hnext s w v s t h
  refine ⟨result, s', t', hs, ?_, h'⟩
  rw [hsame s t h.sandbox h.values] at ht
  exact ht

lemma mapM {work : α → Action (Workshop ω) β} (h : ∀ a, Blind (work a)) (xs : List α) :
    Blind (xs.mapM work) := by
  induction xs with
  | nil => exact .pure []
  | cons x xs ih =>
    rw [List.mapM_cons]
    exact (h x).bind fun _ => ih.bind fun _ => .pure _

end Blind

lemma blind_inSandbox (p : Action Sandbox α) : Blind (ω := ω) (inSandbox p) := by
  intro w v s t h
  refine ⟨(p.run s.sandbox).1, ((inSandbox p).outcome s).2, ((inSandbox p).outcome t).2, rfl, ?_,
    ?_⟩
  · rw [h.sandbox]
    rfl
  · obtain ⟨sandbox, values, journal, output⟩ := s
    obtain ⟨sandbox', values', journal', output'⟩ := t
    obtain ⟨rfl, rfl, rfl, rfl⟩ := h
    exact ⟨rfl, rfl, rfl, rfl⟩

lemma blind_value (ref : ValueRef) : Blind (ω := ω) (value ref) := by
  refine .get_bind (fun s t hsandbox hvalues => ?_) fun s => ?_
  · rw [hsandbox, hvalues]
  · split
    · exact .pure _
    · exact .throw _

lemma blind_keep (v : Script.Value) : Blind (ω := ω) (keep v) := by
  intro w w' s t h
  refine ⟨.ok ⟨s.values.size⟩, _, _, rfl, by rw [h.values]; rfl, ?_⟩
  exact ⟨h.sandbox, congrArg (·.push v) h.values, h.first, h.second⟩

lemma blind_inspect (ref : ValueRef) : Blind (ω := ω) (inspect ref) := by
  refine (blind_value ref).bind fun v => (blind_inSandbox _).bind fun elements => ?_
  cases elements with
  | some elements => exact (Blind.mapM blind_keep elements).bind fun _ => .pure _
  | none          =>
    refine .get_bind (fun s t hsandbox _ => by rw [hsandbox]) fun s => ?_
    dsimp only
    split
    · exact .pure _
    split
    · exact .pure _
    · exact .pure _

lemma blind_call (function argument : ValueRef) : Blind (ω := ω) (call function argument) := by
  refine (blind_value function).bind fun f => ?_
  refine .get_bind (fun s t hsandbox _ => by rw [hsandbox]) fun s => ?_
  have hcall : Blind (ω := ω) (do
      let argument ← value argument
      let produced ← inSandbox (Sandbox.callProducer f argument)
      keep (← inSandbox (Sandbox.resolve produced))) :=
    (blind_value argument).bind fun argument => (blind_inSandbox _).bind fun produced =>
      (blind_inSandbox _).bind blind_keep
  split
  · exact hcall
  · exact (Blind.throw _).bind fun _ => hcall

lemma blind_json (ref : ValueRef) (indent : Option Nat) : Blind (ω := ω) (json ref indent) :=
  (blind_value ref).bind fun _ => blind_inSandbox _

/-! ### Recorded work -/

variable {P : ω → ω → Trace → Prop}

/-- Between templates: `P` holds of the two outputs and the effects so far, which are the same. -/
structure Between (P : ω → ω → Trace → Prop) (s t : Workshop ω × Trace) : Prop where
  trace : s.2 = t.2
  holds : P s.1.output t.1.output s.2

/-- At work on a template: the sandbox and the values are the same, too. -/
structure Working (P : ω → ω → Trace → Prop) (s t : Workshop ω × Trace) : Prop
    extends Between P s t where
  sandbox : s.1.sandbox = t.1.sandbox
  values : s.1.values = t.1.values

/-- Whether what happens in sandboxes does not matter. -/
def Quiet (P : ω → ω → Trace → Prop) : Prop :=
  ∀ w v trace effect, effect.isEvaluation → P w v trace → P w v (trace ++ [effect])

lemma outcome_recording {work : Action (Workshop ω) α} {effect : Except Failure α → Effect}
    {answer : Except Failure α} {s s' : Workshop ω} (h : work.outcome s = (answer, s'))
    (trace : Trace) :
    (Action.recording effect work).outcome (s, trace) = (answer, s', trace ++ [effect answer]) := by
  change ((work.outcome s).1, (work.outcome s).2, trace ++ [effect (work.outcome s).1]) = _
  rw [h]

lemma agree_recording {work : Action (Workshop ω) α} {effect : Except Failure α → Effect}
    (hwork : Blind work) (hP : Quiet P) (heffect : ∀ answer, (effect answer).isEvaluation) :
    Action.Agree (Working P) (.recording effect work) (.recording effect work)
      fun _ => Working P := by
  rintro ⟨s, trace⟩ ⟨t, trace'⟩ ⟨⟨htrace, holds⟩, hsandbox, hvalues⟩
  dsimp only at htrace
  subst htrace
  obtain ⟨answer, s', t', hs, ht, h⟩ :=
    hwork s.output t.output s t ⟨hsandbox, hvalues, rfl, rfl⟩
  refine ⟨answer, _, _, outcome_recording hs trace, outcome_recording ht trace, ⟨rfl, ?_⟩,
    h.sandbox, h.values⟩
  dsimp only
  rw [h.first, h.second]
  exact hP _ _ _ _ (heffect answer) holds

/-- A template is evaluated in a new sandbox, whatever was done before. -/
lemma agree_instantiate (template : Template) (w v : ω) :
    Action.Agree (fun s t => s.output = w ∧ t.output = v) (instantiate template)
      (instantiate template) fun result s t =>
        s.output = w ∧ t.output = v ∧ (result.isOk → SameWork w v s t) := by
  have hlift {α : Type} (answer : Except Failure α) :
      Action.Agree (fun s t : Workshop ω => s.output = w ∧ t.output = v) (liftM answer)
        (liftM answer) fun result s t => result = answer ∧ s.output = w ∧ t.output = v :=
    fun s t h => ⟨answer, s, t, rfl, rfl, rfl, h⟩
  have hrenew : Action.Agree (fun s t : Workshop ω => s.output = w ∧ t.output = v)
      (modify fun w => { w with sandbox := .new template.path, values := #[] })
      (modify fun w => { w with sandbox := .new template.path, values := #[] })
      fun result s t => result = .ok () ∧ SameWork w v s t :=
    fun s t h => ⟨.ok (), _, _, rfl, rfl, rfl, rfl, rfl, h.1, h.2⟩
  have hfail {failure : Failure} {s t : Workshop ω} (h : s.output = w ∧ t.output = v) :
      s.output = w ∧ t.output = v ∧
        ((.error failure : Except Failure ValueRef).isOk → SameWork w v s t) :=
    ⟨h.1, h.2, nofun⟩
  unfold instantiate
  refine (hlift _).bind (fun failure s t h => hfail h.2) fun _ => ?_
  refine Action.Agree.bind (P := fun result s t => s.output = w ∧ t.output = v)
    (fun s t h => (hlift _).mono (fun _ _ _ h => h.2) s t h.2) (fun _ _ _ => hfail) fun script => ?_
  refine hrenew.bind (fun _ _ _ h => nomatch h.1) fun _ s t h => ?_
  have hwork := (blind_inSandbox (Sandbox.evaluate script)).bind blind_keep w v
  exact hwork.mono (fun _ _ _ h => ⟨h.first, h.second, fun _ => h⟩) s t h.2

/-- A write that keeps `P` and is answered in the same way for both outputs. -/
def Writes (write : Artifact → Action ω Unit) (P : ω → ω → Trace → Prop) (artifact : Artifact) :
    Prop :=
  ∀ w v trace, P w v trace → ∃ answer w' v',
    (write artifact).outcome w = (answer, w') ∧ (write artifact).outcome v = (answer, v') ∧
    P w' v' (trace ++ [.write artifact answer])

lemma outcome_write {write : Artifact → Action ω Unit} {artifact : Artifact} {s : Workshop ω}
    {w : ω} {answer : Except Failure Unit}
    (h : (write artifact).outcome s.output = (answer, w)) :
    ((services write).write artifact).outcome s = (answer, { s with output := w }) := by
  change (((write artifact).outcome s.output).1,
    { s with output := ((write artifact).outcome s.output).2 }) = _
  rw [h]

/-- The work on a template agrees if the writes of its artifacts do. -/
lemma agree_services {write : Artifact → Action ω Unit} {template : Template} (hP : Quiet P)
    (hwrite : ∀ name content, template.Names name →
      Writes write P ⟨template.outputPath name, content⟩) :
    Services.Agree (services write).recorded (services write).recorded template (Between P)
      (Working P) where
  weaken h := h.toBetween
  instantiate := by
    rintro ⟨s, trace⟩ ⟨t, trace'⟩ ⟨htrace, holds⟩
    dsimp only at htrace
    subst htrace
    obtain ⟨answer, s', t', hs, ht, hfirst, hsecond, hwork⟩ :=
      agree_instantiate template s.output t.output s t ⟨rfl, rfl⟩
    have holds' : P s'.output t'.output (trace ++ [.instantiate template answer]) := by
      rw [hfirst, hsecond]
      exact hP _ _ _ _ rfl holds
    refine ⟨answer, _, _, outcome_recording hs trace, outcome_recording ht trace, ?_⟩
    cases answer with
    | error failure => exact ⟨rfl, holds'⟩
    | ok exported   => exact ⟨⟨rfl, holds'⟩, (hwork rfl).sandbox, (hwork rfl).values⟩
  inspect value := agree_recording (blind_inspect value) hP fun _ => rfl
  call function argument := agree_recording (blind_call function argument) hP fun _ => rfl
  text value := by
    refine .lift fun ⟨s, trace⟩ ⟨t, trace'⟩ h => ?_
    obtain ⟨⟨htrace, holds⟩, hsandbox, hvalues⟩ := h
    dsimp only at htrace hvalues
    subst htrace
    have htext : ((text? value : StateM (Workshop ω) _).run s).1 = ((text? value).run t).1 := by
      change s.values[value.index]?.bind _ = t.values[value.index]?.bind _
      rw [hvalues]
    refine ⟨htext, ⟨?_, hP _ _ _ (.text value _) rfl holds⟩, hsandbox, hvalues⟩
    exact congrArg (fun text => trace ++ [.text value text]) htext
  json value indent := agree_recording (blind_json value indent) hP fun _ => rfl
  write content hname := by
    rintro ⟨s, trace⟩ ⟨t, trace'⟩ ⟨⟨htrace, holds⟩, hsandbox, hvalues⟩
    dsimp only at htrace
    subst htrace
    obtain ⟨answer, w, v, hs, ht, h⟩ := hwrite _ content hname _ _ _ holds
    exact ⟨answer, _, _, outcome_recording (outcome_write hs) trace,
      outcome_recording (outcome_write ht) trace, ⟨rfl, h⟩, hsandbox, hvalues⟩
  note step := .lift fun _ _ h => ⟨rfl, ⟨h.trace, h.holds⟩, h.sandbox, h.values⟩

end Workshop

namespace Project

open Workshop (Between Quiet Writes outcome_recording)

/-! ### Runs in a workspace -/

variable {P : Workspace → Workspace → Trace → Prop} {directory : String} {settings : Settings}
  {w v : Workspace}

lemma outcome_see {α : Type} (look : Workspace → Except Failure α) (s : Workshop Workspace) :
    (see look).outcome s = (look s.output, s) := by
  have hget : Action.outcome (get : Action (Workshop Workspace) _) s = (.ok s, s) := rfl
  rw [see, Action.outcome_bind_ok hget]
  rcases look s.output with failure | found <;> rfl

lemma outcome_discover (directory : String) (settings : Settings) (s : Workshop Workspace) :
    (discovery directory settings).discover.outcome s =
      (s.output.templatePaths directory settings.including settings.excluding, s) :=
  outcome_see (·.templatePaths directory settings.including settings.excluding) s

lemma outcome_load (directory : String) (settings : Settings) (path : String)
    (s : Workshop Workspace) :
    ((discovery directory settings).load path).outcome s =
      (s.output.loadTemplate directory path, s) :=
  outcome_see (·.loadTemplate directory path) s

/-- The run that writes down its effects. -/
def recorded (directory : String) (settings : Settings) :
    Action (Workshop Workspace × Trace) Totals :=
  (Workshop.services (Workspace.writeArtifact directory)).recorded.run
    (discovery directory settings).recorded settings.pretty

/-- The recorded run does what the run does. -/
lemma outcome_of_recorded {s s' : Workshop Workspace} {result : Except Failure Totals}
    {trace : Trace}
    (h : (recorded directory settings).outcome (s, []) = (result, s', trace)) :
    (generate directory settings).outcome s = (result, s') ∧
      Accounted trace (result.map Totals.artifacts) :=
  (Services.run_records _ _ _).outcome_eq h

/-- Generating from one template agrees if the writes of its artifacts do. -/
theorem agree_generate {template : Template} (hP : Quiet P)
    (hwrite : ∀ name content, template.Names name →
      Writes (Workspace.writeArtifact directory) P ⟨template.outputPath name, content⟩)
    (pretty : Bool) {s t : Workshop Workspace} (h : P s.output t.output []) :
    ∃ result s' t' trace,
      ((Workshop.services (Workspace.writeArtifact directory)).recorded.generate template
        pretty).outcome (s, []) = (result, s', trace) ∧
      ((Workshop.services (Workspace.writeArtifact directory)).recorded.generate template
        pretty).outcome (t, []) = (result, t', trace) ∧
      P s'.output t'.output trace := by
  obtain ⟨result, ⟨s', trace⟩, ⟨t', trace'⟩, hs, ht, htrace, holds⟩ :=
    (Workshop.agree_services hP hwrite).generate pretty (s, []) (t, []) ⟨rfl, h⟩
  dsimp only at htrace
  subst htrace
  exact ⟨result, s', t', trace, hs, ht, holds⟩

/-- What two runs have to do alike with the template at a path: they load the same, and `P` is kept
then and when an artifact of the template is written. -/
def Covers (directory : String) (P : Workspace → Workspace → Trace → Prop) (path : String) : Prop :=
  ∀ w v trace, P w v trace →
    w.loadTemplate directory path = v.loadTemplate directory path ∧
    P w v (trace ++ [.load path (w.loadTemplate directory path)]) ∧
    ∀ template, w.loadTemplate directory path = .ok template →
      ∀ name content, template.Names name →
        Writes (Workspace.writeArtifact directory) P ⟨template.outputPath name, content⟩

lemma Covers.loads {path : String} (hP : Quiet P) (h : Covers directory P path) :
    Services.Loads (Workshop.services (Workspace.writeArtifact directory)).recorded
      (Workshop.services (Workspace.writeArtifact directory)).recorded
      (discovery directory settings).recorded (discovery directory settings).recorded
      (Between P) path := by
  rintro ⟨s, trace⟩ ⟨t, trace'⟩ ⟨htrace, holds⟩
  dsimp only at htrace
  subst htrace
  dsimp only at holds
  obtain ⟨heq, hload, hwrite⟩ := h _ _ _ holds
  have ht := outcome_load directory settings path t
  rw [← heq] at ht
  exact ⟨_, _, _, outcome_recording (outcome_load directory settings path s) trace,
    outcome_recording ht trace, ⟨rfl, hload⟩, fun template htemplate =>
      ⟨_, Workshop.agree_services hP (hwrite template htemplate)⟩⟩

/-- Two runs agree if they find the same templates and do alike with each. -/
theorem agree_run (hP : Quiet P)
    (hfind : w.templatePaths directory settings.including settings.excluding =
      v.templatePaths directory settings.including settings.excluding)
    (hcovers : ∀ paths,
      w.templatePaths directory settings.including settings.excluding = .ok paths →
        ∀ path ∈ paths, Covers directory P path)
    (h : P w v [.discover (w.templatePaths directory settings.including settings.excluding)])
    {s t : Workshop Workspace} (hs : s.output = w) (ht : t.output = v) :
    ∃ result s' t' trace,
      (recorded directory settings).outcome (s, []) = (result, s', trace) ∧
      (recorded directory settings).outcome (t, []) = (result, t', trace) ∧
      P s'.output t'.output trace := by
  have hrun : Action.Agree
      (fun s t : Workshop Workspace × Trace =>
        (s.1.output = w ∧ s.2 = []) ∧ t.1.output = v ∧ t.2 = [])
      (recorded directory settings) (recorded directory settings) fun _ => Between P := by
    refine Services.run_agree settings.pretty ?_ ?_ ?_
    · exact .lift fun s t h => ⟨rfl, rfl, h⟩
    · rintro ⟨s, trace⟩ ⟨t, trace'⟩ ⟨⟨rfl, rfl⟩, rfl, rfl⟩
      dsimp only at hfind hcovers h
      have ht := outcome_discover directory settings t
      rw [← hfind] at ht
      exact ⟨_, _, _, outcome_recording (outcome_discover directory settings s) [],
        outcome_recording ht [], ⟨rfl, h⟩, fun paths hpaths path hpath =>
          (hcovers paths hpaths path hpath).loads hP⟩
    · exact fun count => .lift fun s t h => ⟨rfl, h.trace, h.holds⟩
  obtain ⟨result, ⟨s', trace⟩, ⟨t', trace'⟩, hs', ht', htrace, holds⟩ :=
    hrun (s, []) (t, []) ⟨⟨hs, rfl⟩, ht, rfl⟩
  dsimp only at htrace
  subst htrace
  exact ⟨result, s', t', trace, hs', ht', holds⟩

end Project

end Stencil
