import Mathlib.Tactic.Lemma
import Stencil.Run

/-!
# What a run asks for

A run meets the world through its services and its discovery. `Services.recorded` and
`Discovery.recorded` answer as these do and write down each question with its answer, so that
what a run did, and in which order, can be read off the list of its effects.

`Action.Records` relates an action to the same action over recording services: both give the same
result and leave the same state, and the effects in between are described by a predicate. It is
closed under sequencing (`Records.bind`).
-/

namespace Stencil

variable {σ α β : Type}

/-! ### Outcomes -/

/-- The result of an action and the state that it leaves. -/
def Action.outcome (action : Action σ α) (s : σ) : Except Failure α × σ :=
  action.run s

@[simp] lemma Action.outcome_pure (a : α) (s : σ) :
    Action.outcome (pure a : Action σ α) s = (.ok a, s) := rfl

@[simp] lemma Action.outcome_throw (failure : Failure) (s : σ) :
    Action.outcome (throw failure : Action σ α) s = (.error failure, s) := rfl

lemma Action.outcome_bind (action : Action σ α) (next : α → Action σ β) (s : σ) :
    Action.outcome (action >>= next) s =
      match action.outcome s with
      | (.ok a, s')    => (next a).outcome s'
      | (.error e, s') => (.error e, s') := by
  change ExceptT.bindCont next (action.outcome s).1 (action.outcome s).2 = _
  rcases action.outcome s with ⟨_ | _, _⟩ <;> rfl

lemma Action.outcome_bind_ok {action : Action σ α} {next : α → Action σ β} {s s' : σ} {a : α}
    (h : action.outcome s = (.ok a, s')) :
    Action.outcome (action >>= next) s = (next a).outcome s' := by
  rw [outcome_bind, h]

lemma Action.outcome_bind_error {action : Action σ α} {next : α → Action σ β} {s s' : σ}
    {failure : Failure} (h : action.outcome s = (.error failure, s')) :
    Action.outcome (action >>= next) s = (.error failure, s') := by
  rw [outcome_bind, h]

/-! ### Effects -/

/-- A question to the world and its answer. Notes to the log are not counted. -/
inductive Effect where
  | discover (answer : Except Failure (List String))
  | load (path : String) (answer : Except Failure Template)
  | instantiate (template : Template) (answer : Except Failure ValueRef)
  | inspect (value : ValueRef) (answer : Except Failure Shape)
  | call (function argument : ValueRef) (answer : Except Failure ValueRef)
  | text (value : ValueRef) (answer : Option String)
  | json (value : ValueRef) (indent : Option Nat) (answer : Except Failure String)
  | write (artifact : Artifact) (answer : Except Failure Unit)

namespace Effect

/-- The artifact that was tried to write, if any. -/
def attempted? : Effect → Option Artifact
  | .write artifact _ => some artifact
  | _                 => none

/-- The artifact that was written, if any. -/
def written? : Effect → Option Artifact
  | .write artifact (.ok ()) => some artifact
  | _                        => none

/-- The path that was tried to load, if any. -/
def loaded? : Effect → Option String
  | .load path _ => some path
  | _            => none

/-- Whether templates were searched for. -/
def isDiscover : Effect → Bool
  | .discover _ => true
  | _           => false

/-- Whether the effect is one of the work on a loaded template. -/
def isInner : Effect → Bool
  | .discover _ => false
  | .load _ _   => false
  | _           => true

end Effect

/-- What happened, in order. -/
abbrev Trace := List Effect

namespace Trace

/-- The artifacts that were tried to write, in order. -/
def attempted (trace : Trace) : List Artifact := trace.filterMap Effect.attempted?

/-- The artifacts that were written, in order. -/
def written (trace : Trace) : List Artifact := trace.filterMap Effect.written?

/-- The paths that were tried to load, in order. -/
def loaded (trace : Trace) : List String := trace.filterMap Effect.loaded?

/-- Whether all effects are of the work on a loaded template. -/
def Inner (trace : Trace) : Prop := ∀ effect ∈ trace, effect.isInner

variable {first second trace : Trace}

lemma written_append (first second : Trace) :
    written (first ++ second) = first.written ++ second.written :=
  List.filterMap_append

lemma written_concat_of_none {effect : Effect} (h : effect.written? = none) (trace : Trace) :
    written (trace ++ [effect]) = trace.written := by
  rw [written_append, written, written, List.filterMap_cons_none h, List.filterMap_nil,
    List.append_nil]

lemma written_concat_write (trace : Trace) (artifact : Artifact) :
    written (trace ++ [.write artifact (.ok ())]) = trace.written ++ [artifact] :=
  written_append ..

lemma loaded_append (first second : Trace) :
    loaded (first ++ second) = first.loaded ++ second.loaded :=
  List.filterMap_append

@[simp] lemma written_discover (answer : Except Failure (List String)) (trace : Trace) :
    written (.discover answer :: trace) = trace.written := rfl

@[simp] lemma loaded_discover (answer : Except Failure (List String)) (trace : Trace) :
    loaded (.discover answer :: trace) = trace.loaded := rfl

lemma written_flatten (blocks : List Trace) :
    written blocks.flatten = (blocks.map written).flatten := by
  induction blocks with
  | nil               => rfl
  | cons block _ ih => rw [List.flatten_cons, written_append, ih, List.map_cons, List.flatten_cons]

lemma Inner.append (hfirst : first.Inner) (hsecond : second.Inner) : Inner (first ++ second) :=
  List.forall_mem_append.mpr ⟨hfirst, hsecond⟩

lemma Inner.loaded (h : trace.Inner) : trace.loaded = [] := by
  refine List.filterMap_eq_nil_iff.mpr fun effect hmem => ?_
  have := h effect hmem
  cases effect <;> first | rfl | cases this

lemma Inner.not_isDiscover (h : trace.Inner) : ∀ effect ∈ trace, effect.isDiscover = false := by
  intro effect hmem
  have := h effect hmem
  cases effect <;> first | rfl | cases this

end Trace

/-! ### Recording -/

/-- Does what `action` does, and writes its answer down. -/
def Action.recording (effect : Except Failure α → Effect) (action : Action σ α) :
    Action (σ × Trace) α := fun (s, trace) =>
  let (answer, s) := action.outcome s
  (answer, s, trace ++ [effect answer])

/-- The same services, which write down what they are asked. -/
def Services.recorded (services : Services σ) : Services (σ × Trace) where
  instantiate template := .recording (.instantiate template) (services.instantiate template)
  inspect value := .recording (.inspect value) (services.inspect value)
  call function argument :=
    .recording (.call function argument) (services.call function argument)
  text? value := fun (s, trace) =>
    let (answer, s) := (services.text? value).run s
    (answer, s, trace ++ [.text value answer])
  json value indent := .recording (.json value indent) (services.json value indent)
  write artifact := .recording (.write artifact) (services.write artifact)
  note step := fun (s, trace) => ((), ((services.note step).run s).2, trace)

/-- The same discovery, which writes down what it is asked. -/
def Discovery.recorded (discovery : Discovery σ) : Discovery (σ × Trace) where
  discover := .recording .discover discovery.discover
  load path := .recording (.load path) (discovery.load path)
  noteScanning := fun (s, trace) => ((), (discovery.noteScanning.run s).2, trace)
  noteFound count := fun (s, trace) => ((), ((discovery.noteFound count).run s).2, trace)

/-! ### Recorded actions -/

/-- `recorded` does what `action` does, and the effects that it adds to those before, whatever
these are, satisfy `P` together with the result. -/
def Action.Records (action : Action σ α) (recorded : Action (σ × Trace) α)
    (P : Trace → Except Failure α → Prop) : Prop :=
  ∀ s, ∃ trace,
    (∀ before, recorded.outcome (s, before) =
      ((action.outcome s).1, (action.outcome s).2, before ++ trace)) ∧
    P trace (action.outcome s).1

namespace Action.Records

variable {action : Action σ α} {recorded : Action (σ × Trace) α}
  {P Q : Trace → Except Failure α → Prop}

lemma mono (h : Records action recorded P) (hPQ : ∀ trace result, P trace result → Q trace result) :
    Records action recorded Q := by
  intro s
  obtain ⟨trace, hrun, hP⟩ := h s
  exact ⟨trace, hrun, hPQ _ _ hP⟩

/-- What a run that was recorded from nothing tells of the run. -/
lemma outcome_eq {s s' : σ} {result : Except Failure α} {trace : Trace}
    (h : Records action recorded P) (hrun : recorded.outcome (s, []) = (result, s', trace)) :
    action.outcome s = (result, s') ∧ P trace result := by
  obtain ⟨effects, heffects, hP⟩ := h s
  rcases houtcome : action.outcome s with ⟨result', s''⟩
  rw [houtcome] at heffects hP
  cases hrun.symm.trans (heffects [])
  exact ⟨rfl, hP⟩

/-- Two actions one after another: `R` has to hold of the effects of the first when it fails, and
of those of both otherwise. -/
lemma bind {next : α → Action σ β} {recordedNext : α → Action (σ × Trace) β}
    {R : Trace → Except Failure β → Prop} (h : Records action recorded P)
    (hfail : ∀ trace failure, P trace (.error failure) → R trace (.error failure))
    (hnext : ∀ a first, P first (.ok a) →
      Records (next a) (recordedNext a) fun second result => R (first ++ second) result) :
    Records (action >>= next) (recorded >>= recordedNext) R := by
  intro s
  obtain ⟨first, hrun, hP⟩ := h s
  rcases houtcome : action.outcome s with ⟨failure | a, s'⟩ <;> rw [houtcome] at hrun hP
  · rw [outcome_bind_error houtcome]
    exact ⟨first, fun before => outcome_bind_error (hrun before), hfail first failure hP⟩
  · obtain ⟨second, hrun', hR⟩ := hnext a first hP s'
    rw [outcome_bind_ok houtcome]
    refine ⟨first ++ second, fun before => ?_, hR⟩
    rw [outcome_bind_ok (hrun before), hrun', List.append_assoc]

lemma pure {a : α} (h : P [] (.ok a)) : Records (σ := σ) (Pure.pure a) (Pure.pure a) P :=
  fun _ => ⟨[], by simp, h⟩

lemma throw {failure : Failure} (h : P [] (.error failure)) :
    Records (σ := σ) (MonadExcept.throw failure) (MonadExcept.throw failure) P :=
  fun _ => ⟨[], by simp, h⟩

variable {next : α → Action σ β} {recordedNext : α → Action (σ × Trace) β}
  {R : Trace → Except Failure β → Prop}

lemma pure_bind {a : α} (h : Records (next a) (recordedNext a) R) :
    Records (Pure.pure a >>= next) (Pure.pure a >>= recordedNext) R :=
  bind (P := fun trace result => trace = [] ∧ result = .ok a) (pure ⟨rfl, rfl⟩)
    (by rintro _ _ ⟨_, h⟩; cases h) (by rintro _ _ ⟨rfl, h'⟩; cases h'; exact h)

lemma throw_bind {failure : Failure} (h : R [] (.error failure)) :
    Records (MonadExcept.throw failure >>= next) (MonadExcept.throw failure >>= recordedNext) R :=
  bind (P := fun trace result => trace = [] ∧ result = .error failure) (throw ⟨rfl, rfl⟩)
    (by rintro _ _ ⟨rfl, h'⟩; cases h'; exact h) (by rintro _ _ ⟨_, h⟩; cases h)

/-- A recorded question has one effect, which holds the answer. -/
lemma recording {effect : Except Failure α → Effect} (h : ∀ answer, P [effect answer] answer) :
    Records action (.recording effect action) P :=
  fun _ => ⟨_, fun _ => rfl, h _⟩

lemma recording_bind {effect : Except Failure α → Effect}
    (hfail : ∀ failure, R [effect (.error failure)] (.error failure))
    (hnext : ∀ a, Records (next a) (recordedNext a)
      fun trace result => R (effect (.ok a) :: trace) result) :
    Records (action >>= next) (.recording effect action >>= recordedNext) R :=
  bind (recording (P := fun trace result => trace = [effect result]) fun _ => rfl)
    (by rintro _ failure rfl; exact hfail failure) (by rintro a _ rfl; exact hnext a)

/-- A question that cannot fail is recorded in the same way. -/
lemma text_bind {services : Services σ} {value : ValueRef}
    {next : Option String → Action σ β} {recordedNext : Option String → Action (σ × Trace) β}
    (h : ∀ text, Records (next text) (recordedNext text)
      fun trace result => R (.text value text :: trace) result) :
    Records (liftM (services.text? value) >>= next)
      (liftM (services.recorded.text? value) >>= recordedNext) R :=
  bind (P := fun trace result => ∃ text, trace = [.text value text] ∧ result = .ok text)
    (fun _ => ⟨_, fun _ => rfl, _, rfl, rfl⟩) (by rintro _ _ ⟨_, _, h⟩; cases h)
    (by rintro _ _ ⟨_, rfl, h'⟩; cases h'; exact h _)

/-- Notes leave no effect. -/
lemma note {noting : StateM σ Unit} {recordedNoting : StateM (σ × Trace) Unit}
    {P : Trace → Except Failure Unit → Prop}
    (hnote : ∀ s trace, recordedNoting.run (s, trace) = ((), (noting.run s).2, trace))
    (h : P [] (.ok ())) : Records (σ := σ) (liftM noting) (liftM recordedNoting) P := by
  intro s
  refine ⟨[], fun before => ?_, h⟩
  rw [List.append_nil]
  change (Except.ok (recordedNoting.run (s, before)).1, (recordedNoting.run (s, before)).2) = _
  rw [hnote]
  rfl

lemma note_bind {noting : StateM σ Unit} {recordedNoting : StateM (σ × Trace) Unit}
    {next : Unit → Action σ β} {recordedNext : Unit → Action (σ × Trace) β}
    (hnote : ∀ s trace, recordedNoting.run (s, trace) = ((), (noting.run s).2, trace))
    (h : Records (next ()) (recordedNext ()) R) :
    Records (liftM noting >>= next) (liftM recordedNoting >>= recordedNext) R :=
  bind (P := fun trace result => trace = [] ∧ result = .ok ()) (note hnote ⟨rfl, rfl⟩)
    (by rintro _ _ ⟨_, h⟩; cases h) (by rintro _ _ ⟨rfl, h'⟩; cases h'; exact h)

end Action.Records

end Stencil
