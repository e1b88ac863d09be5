import Stencil.Proofs.Agreement
import Stencil.Proofs.Generation

/-!
# The questions of a generation

`Services.logged` writes down each question with its answer and with the state in which it was
asked. All that generation says of its own is that an export or a name does not fit. Each other
failure is the answer to its last question (`GenerationTrace.causes`), so what holds of the answers
in the states that generation comes through holds of its failures
(`Services.Keeps.generate_logged`).
-/

namespace Stencil

variable {σ α : Type}

/-! ### Failures and their causes -/

/-- The failure that a question was answered with, if it was. -/
def Effect.failure? : Effect → Option Failure
  | .discover (.error failure)      => some failure
  | .load _ (.error failure)        => some failure
  | .instantiate _ (.error failure) => some failure
  | .inspect _ (.error failure)     => some failure
  | .call _ _ (.error failure)      => some failure
  | .json _ _ (.error failure)      => some failure
  | .write _ (.error failure)       => some failure
  | _                               => none

/-- Whether a failure is one that generation states of its own. -/
inductive Template.Refuses (template : Template) : Failure → Prop where
  | contract (member : TripleMember) : Refuses template (.contract template.path member)
  | invalidName (index : Nat) (fault : NameFault) :
      Refuses template (.invalidName template.path index fault)
  | unsupported (found : String) : Refuses template (.unsupported template.path found)

/-- Whether a failure is stated by generation, or is the answer to the last question. -/
def Trace.Causes (template : Template) (trace : Trace) (failure : Failure) : Prop :=
  template.Refuses failure ∨
    ∃ before effect, trace = before ++ [effect] ∧ effect.failure? = some failure

section

variable {template : Template} {pretty : Bool} {trace : Trace} {failure : Failure}

lemma Trace.Causes.append_left (h : trace.Causes template failure) (before : Trace) :
    Trace.Causes template (before ++ trace) failure := by
  refine h.imp_right ?_
  rintro ⟨middle, effect, rfl, heffect⟩
  exact ⟨before ++ middle, effect, (List.append_assoc ..).symm, heffect⟩

lemma Trace.causes_concat {effect : Effect} (h : effect.failure? = some failure) (before : Trace) :
    Trace.Causes template (before ++ [effect]) failure :=
  .inr ⟨before, effect, rfl, h⟩

lemma ItemTrace.causes {naming making item : ValueRef} {index : Nat}
    (h : ItemTrace template pretty naming making index item trace (.error failure)) :
    trace.Causes template failure := by
  cases h with
  | nameRefused _ => exact .inl (.invalidName _ _)
  | namingFails   => exact Trace.causes_concat rfl []
  | makingFails _ => exact Trace.causes_concat rfl [_, _]
  | jsonFails _   => exact Trace.causes_concat rfl [_, _, _]
  | writeFails _  => exact Trace.causes_concat rfl [_, _, _, _]

lemma ExportTrace.causes (h : ExportTrace template trace (.error failure)) :
    trace.Causes template failure := by
  cases h with
  | namingMisplaced _ => exact .inl (.contract _)
  | makingMisplaced _ => exact .inl (.contract _)
  | listMisplaced _   => exact .inl (.contract _)
  | instantiateFails  => exact Trace.causes_concat rfl []
  | inspectFails      => exact Trace.causes_concat rfl [_]
  | namingFails       => exact Trace.causes_concat rfl _
  | makingFails       => exact (Trace.causes_concat rfl [_]).append_left _
  | listFails         => exact (Trace.causes_concat rfl [_, _]).append_left _

/-- A generation fails for a reason of its own or as its last question did. -/
lemma GenerationTrace.causes (h : GenerationTrace template pretty trace (.error failure)) :
    trace.Causes template failure := by
  generalize hresult : Except.error failure = result at h
  cases h with
  | exportFails hexport =>
    cases hresult
    exact hexport.causes
  | unsupported _ =>
    cases hresult
    exact .inl (.unsupported _)
  | jsonFails =>
    cases hresult
    exact Trace.causes_concat rfl _
  | @single _ _ answer =>
    cases answer <;> cases hresult
    exact (Trace.causes_concat rfl [_]).append_left _
  | items hitems =>
    obtain ⟨done, later, finished, last, artifacts, rfl, rfl, -, -, hlast⟩ := hitems
    rcases hlast with ⟨rfl, rfl, rfl⟩ | ⟨_, _, _, _, hitem, rfl⟩ <;> cases hresult
    exact (hitem.causes.append_left _).append_left _

/-- Whether some question was answered with a failure. -/
def Trace.Fails (trace : Trace) (failure : Failure) : Prop :=
  ∃ effect ∈ trace, effect.failure? = some failure

lemma ItemTrace.fails {naming making item : ValueRef} {index : Nat}
    {result : Except Failure Artifact}
    (h : ItemTrace template pretty naming making index item trace result)
    (hfails : trace.Fails failure) : result = .error failure := by
  revert hfails
  cases h <;> simp [Trace.Fails, Effect.failure?]

lemma ExportTrace.fails {result : Except Failure Contract} (h : ExportTrace template trace result)
    (hfails : trace.Fails failure) : result = .error failure := by
  revert hfails
  cases h <;> simp [Trace.Fails, Effect.failure?, objectExport, tripleExport, tripleMembers]

lemma Trace.Fails.append {first second : Trace} (h : Trace.Fails (first ++ second) failure) :
    first.Fails failure ∨ second.Fails failure := by
  obtain ⟨effect, hmem, heffect⟩ := h
  exact (List.mem_append.mp hmem).imp (fun h => ⟨effect, h, heffect⟩) fun h => ⟨effect, h, heffect⟩

lemma FinishedItems.not_fails {naming making : ValueRef} {index : Nat} {items : List ValueRef}
    {artifacts : List Artifact}
    (h : FinishedItems template pretty naming making index items trace artifacts) :
    ¬trace.Fails failure := by
  induction h with
  | nil             => rintro ⟨_, hmem, _⟩; cases hmem
  | cons hitem _ ih =>
    intro hfails
    rcases hfails.append with h | h
    · cases hitem.fails h
    · exact ih h

/-- A failure that a question was answered with is that of the generation. -/
lemma GenerationTrace.fails {result : Except Failure Nat}
    (h : GenerationTrace template pretty trace result) (hfails : trace.Fails failure) :
    result = .error failure := by
  cases h with
  | exportFails hexport => exact congrArg _ (Except.error.inj (hexport.fails hfails))
  | unsupported hexport => cases hexport.fails hfails
  | jsonFails           =>
    revert hfails
    simp [Trace.Fails, Effect.failure?, objectExport]
  | @single _ _ answer  =>
    revert hfails
    cases answer <;> simp [Trace.Fails, Effect.failure?, objectExport, Except.map]
  | items hitems        =>
    obtain ⟨done, later, finished, last, artifacts, rfl, rfl, hdone, -, hlast⟩ := hitems
    rcases hfails.append with hexport | hitems
    · cases ExportTrace.triple.fails hexport
    have hitem := hitems.append.resolve_left hdone.not_fails
    rcases hlast with ⟨rfl, rfl, rfl⟩ | ⟨_, _, _, _, hlast, rfl⟩
    · obtain ⟨_, hmem, _⟩ := hitem
      cases hmem
    · rw [Except.error.inj (hlast.fails hitem)]
      rfl

end

/-! ### Logs -/

/-- Questions with their answers, and the states in which they were asked. -/
abbrev Log (σ : Type) := List (σ × Effect)

/-- Does what `action` does, and writes down the state before it and its answer. -/
def Action.logging (effect : Except Failure α → Effect) (action : Action σ α) :
    Action (σ × Log σ) α := fun (s, log) =>
  let (answer, s') := action.outcome s
  (answer, s', log ++ [(s, effect answer)])

namespace Services

/-- The same services, which write down what they are asked and when. -/
def logged (services : Services σ) : Services (σ × Log σ) where
  instantiate template := .logging (.instantiate template) (services.instantiate template)
  inspect value := .logging (.inspect value) (services.inspect value)
  call function argument := .logging (.call function argument) (services.call function argument)
  text? value := fun (s, log) =>
    let (answer, s') := (services.text? value).run s
    (answer, s', log ++ [(s, .text value answer)])
  json value indent := .logging (.json value indent) (services.json value indent)
  write artifact := .logging (.write artifact) (services.write artifact)
  note step := fun (s, log) => ((), ((services.note step).run s).2, log)

/-- Whether a question is answered like this in a state. -/
def Answers (services : Services σ) (s : σ) : Effect → Prop
  | .discover _                     => False
  | .load _ _                       => False
  | .instantiate template answer    => ((services.instantiate template).outcome s).1 = answer
  | .inspect value answer           => ((services.inspect value).outcome s).1 = answer
  | .call function argument answer  => ((services.call function argument).outcome s).1 = answer
  | .text value answer              => ((services.text? value).run s).1 = answer
  | .json value indent answer       => ((services.json value indent).outcome s).1 = answer
  | .write artifact answer          => ((services.write artifact).outcome s).1 = answer

/-- Whether `I` holds from when the template is evaluated, until the work on it is over. -/
structure Keeps (services : Services σ) (template : Template) (I : σ → Prop) : Prop where
  instantiate (s : σ) {exported : ValueRef}
    (h : ((services.instantiate template).outcome s).1 = .ok exported) :
    I ((services.instantiate template).outcome s).2
  inspect {s : σ} (h : I s) (value : ValueRef) : I ((services.inspect value).outcome s).2
  call {s : σ} (h : I s) (function argument : ValueRef) :
    I ((services.call function argument).outcome s).2
  text {s : σ} (h : I s) (value : ValueRef) : I ((services.text? value).run s).2
  json {s : σ} (h : I s) (value : ValueRef) (indent : Option Nat) :
    I ((services.json value indent).outcome s).2
  write {s : σ} (h : I s) (artifact : Artifact) : I ((services.write artifact).outcome s).2
  note {s : σ} (h : I s) (step : Progress) : I ((services.note step).run s).2

/-- Whether a question of the work on a template was asked and answered like this: it is to evaluate
the template, or was asked when `I` held. -/
structure Asks (services : Services σ) (template : Template) (I : σ → Prop) (s : σ)
    (effect : Effect) : Prop where
  answers : services.Answers s effect
  inside : match effect with
    | .instantiate other _ => other = template
    | _                    => I s

/-- A run that was recorded beside the same run that was logged. -/
structure Paired (services : Services σ) (template : Template) (I : σ → Prop) (s : σ × Trace)
    (t : σ × Log σ) : Prop where
  state : s.1 = t.1
  trace : s.2 = t.2.map Prod.snd
  asks : ∀ entry ∈ t.2, services.Asks template I entry.1 entry.2

variable {services : Services σ} {template : Template} {I : σ → Prop}

namespace Paired

variable {s : σ} {trace : Trace} {log : Log σ}

lemma concat (h : services.Paired template I (s, trace) (s, log)) {effect : Effect}
    (hasks : services.Asks template I s effect) (s' : σ) :
    services.Paired template I (s', trace ++ [effect]) (s', log ++ [(s, effect)]) where
  state := rfl
  trace := by
    rw [List.map_append, ← show trace = _ from h.trace]
    rfl
  asks := List.forall_mem_append.mpr ⟨h.asks, List.forall_mem_singleton.mpr hasks⟩

end Paired

/-- Paired each other in the work on a template. -/
def Within (services : Services σ) (template : Template) (I : σ → Prop) (s : σ × Trace)
    (t : σ × Log σ) : Prop :=
  services.Paired template I s t ∧ I t.1

lemma agree_logging {action : Action σ α} {effect : Except Failure α → Effect}
    (hasks : ∀ s, I s → services.Asks template I s (effect (action.outcome s).1))
    (hI : ∀ s, I s → I (action.outcome s).2) :
    Action.Agree (services.Within template I) (.recording effect action) (.logging effect action)
      fun _ => services.Within template I := by
  rintro ⟨s, trace⟩ ⟨s', log⟩ ⟨h, hs⟩
  obtain rfl : s = s' := h.state
  exact ⟨(action.outcome s).1, _, _, rfl, rfl, h.concat (hasks s hs) _, hI s hs⟩

/-- The recorded run and the logged run do the same. -/
lemma Keeps.agree (h : services.Keeps template I) :
    Services.Agree services.recorded services.logged template (services.Paired template I)
      (services.Within template I) where
  weaken h := h.1
  instantiate := by
    rintro ⟨s, trace⟩ ⟨s', log⟩ hpaired
    obtain rfl : s = s' := hpaired.state
    have hasks : services.Asks template I s
        (.instantiate template ((services.instantiate template).outcome s).1) :=
      ⟨rfl, rfl⟩
    have hnext := hpaired.concat hasks
    refine ⟨((services.instantiate template).outcome s).1, _, _, rfl, rfl, ?_⟩
    rcases hanswer : ((services.instantiate template).outcome s).1 with failure | exported
    · exact hnext _
    · exact ⟨hnext _, h.instantiate s hanswer⟩
  inspect value := agree_logging (fun _ hs => ⟨rfl, hs⟩) fun _ hs => h.inspect hs value
  call function argument :=
    agree_logging (fun _ hs => ⟨rfl, hs⟩) fun _ hs => h.call hs function argument
  text value := by
    refine .lift fun ⟨s, trace⟩ ⟨s', log⟩ ⟨hpaired, hs⟩ => ?_
    obtain rfl : s = s' := hpaired.state
    have hasks : services.Asks template I s (.text value ((services.text? value).run s).1) :=
      ⟨rfl, hs⟩
    exact ⟨rfl, hpaired.concat hasks _, h.text hs value⟩
  json value indent := agree_logging (fun _ hs => ⟨rfl, hs⟩) fun _ hs => h.json hs value indent
  write content _ := agree_logging (fun _ hs => ⟨rfl, hs⟩) fun _ hs => h.write hs _
  note step := by
    refine .lift fun ⟨s, trace⟩ ⟨s', log⟩ ⟨hpaired, hs⟩ => ?_
    obtain rfl : s = s' := hpaired.state
    exact ⟨rfl, ⟨rfl, hpaired.trace, hpaired.asks⟩, h.note hs step⟩

/-- What a generation that was logged tells: each question was asked and answered in its state. A
question that fails makes generation fail, and all other failures are its own. -/
theorem Keeps.generate_logged (h : services.Keeps template I) (pretty : Bool) (s : σ) :
    ∃ result s' log,
      (services.generate template pretty).outcome s = (result, s') ∧
      (services.recorded.generate template pretty).outcome (s, []) =
        (result, s', log.map Prod.snd) ∧
      (services.logged.generate template pretty).outcome (s, []) = (result, s', log) ∧
      (∀ entry ∈ log, services.Asks template I entry.1 entry.2) ∧
      (∀ entry ∈ log, ∀ failure, entry.2.failure? = some failure → result = .error failure) ∧
      ∀ failure, result = .error failure → template.Refuses failure ∨
        ∃ before s effect, log = before ++ [(s, effect)] ∧ effect.failure? = some failure := by
  have hstart : services.Paired template I (s, []) (s, []) := ⟨rfl, rfl, List.forall_mem_nil _⟩
  obtain ⟨result, ⟨s', trace⟩, ⟨t', log⟩, hrecorded, hlogged, hpaired⟩ :=
    h.agree.generate pretty (s, []) (s, []) hstart
  obtain rfl : s' = t' := hpaired.state
  obtain rfl : trace = log.map Prod.snd := hpaired.trace
  obtain ⟨hrun, htrace⟩ := (services.generate_records template pretty).outcome_eq hrecorded
  refine ⟨result, s', log, hrun, hrecorded, hlogged, hpaired.asks, ?_, ?_⟩
  · exact fun entry hentry failure hfailure =>
      htrace.fails ⟨entry.2, List.mem_map_of_mem hentry, hfailure⟩
  rintro failure rfl
  refine htrace.causes.imp_right ?_
  rintro ⟨before, effect, hlog, heffect⟩
  obtain ⟨front, back, rfl, -, hback⟩ := List.map_eq_append_iff.mp hlog
  obtain ⟨⟨s, _⟩, rfl, rfl⟩ := List.map_eq_singleton_iff.mp hback
  exact ⟨front, s, _, rfl, heffect⟩

end Services

end Stencil
