import Mathlib.Data.List.Forall2
import Stencil.Proofs.Generation

/-!
# What a run does

A run visits the templates one after another. `Visits` strings together visits that came through,
each from the state that the one before it left, and `run_effects` states what a run amounts to:
the search, the visits before the first failing one, and that one.
-/

namespace Stencil

open Stencil.Action (Records)

variable {σ : Type}

/-! ### One template -/

/-- Load one template and generate from it. -/
def Services.visit (services : Services σ) (discovery : Discovery σ) (pretty : Bool)
    (path : String) : Action σ Nat := do
  services.generate (← discovery.load path) pretty

lemma Services.generateAll_cons (services : Services σ) (discovery : Discovery σ) (pretty : Bool)
    (path : String) (paths : List String) :
    services.generateAll discovery pretty (path :: paths) = (do
      let count ← services.visit discovery pretty path
      let rest ← services.generateAll discovery pretty paths
      return count + rest) := by
  simp [generateAll, visit]

/-- The effects of one visit: first the template is loaded, and then the rest is the work on it. -/
def VisitTrace (pretty : Bool) (path : String) (trace : Trace) (result : Except Failure Nat) :
    Prop :=
  (∃ failure, trace = [.load path (.error failure)] ∧ result = .error failure) ∨
  ∃ template rest, trace = .load path (.ok template) :: rest ∧
    GenerationTrace template pretty rest result

namespace VisitTrace

variable {pretty : Bool} {path : String} {trace : Trace}

lemma loaded {result : Except Failure Nat} (h : VisitTrace pretty path trace result) :
    trace.loaded = [path] := by
  obtain ⟨_, rfl, _⟩ | ⟨template, rest, rfl, hrest⟩ := h
  · rfl
  · exact congrArg (path :: ·) hrest.inner.loaded

lemma not_isDiscover {result : Except Failure Nat} (h : VisitTrace pretty path trace result) :
    ∀ effect ∈ trace, effect.isDiscover = false := by
  obtain ⟨_, rfl, _⟩ | ⟨template, rest, rfl, hrest⟩ := h
  · simp [Effect.isDiscover]
  · exact List.forall_mem_cons.mpr ⟨rfl, hrest.inner.not_isDiscover⟩

lemma written_length {count : Nat} (h : VisitTrace pretty path trace (.ok count)) :
    trace.written.length = count := by
  obtain ⟨_, _, hresult⟩ | ⟨template, rest, rfl, hrest⟩ := h
  · cases hresult
  · exact hrest.written_length

end VisitTrace

lemma Services.visit_records (services : Services σ) (discovery : Discovery σ) (pretty : Bool)
    (path : String) :
    Records (services.visit discovery pretty path)
      (services.recorded.visit discovery.recorded pretty path) (VisitTrace pretty path) := by
  unfold visit
  refine .recording_bind (fun failure => .inl ⟨failure, rfl, rfl⟩) fun template => ?_
  refine (services.generate_records template pretty).mono fun rest result hrest => ?_
  exact .inr ⟨template, rest, rfl, hrest⟩

/-! ### All templates -/

/-- Visits that all came through: the blocks of their effects and the count of their artifacts,
from the first state to the last. -/
inductive Visits (services : Services σ) (discovery : Discovery σ) (pretty : Bool) :
    σ → List String → List Trace → Nat → σ → Prop where
  | nil {s : σ} : Visits services discovery pretty s [] [] 0 s
  | cons {s s' s'' : σ} {path : String} {paths : List String} {block : Trace}
      {blocks : List Trace} {count total : Nat}
      (hvisit : (services.recorded.visit discovery.recorded pretty path).outcome (s, []) =
        (.ok count, s', block))
      (hvisits : Visits services discovery pretty s' paths blocks total s'') :
      Visits services discovery pretty s (path :: paths) (block :: blocks) (count + total) s''

/-- What a visit that was recorded from nothing does. -/
lemma visitTrace_of_outcome {services : Services σ} {discovery : Discovery σ} {pretty : Bool}
    {path : String} {s s' : σ} {result : Except Failure Nat} {block : Trace}
    (h : (services.recorded.visit discovery.recorded pretty path).outcome (s, []) =
      (result, s', block)) :
    VisitTrace pretty path block result :=
  ((services.visit_records discovery pretty path).outcome_eq h).2

namespace Visits

variable {services : Services σ} {discovery : Discovery σ} {pretty : Bool} {s s' : σ}
  {paths : List String} {blocks : List Trace} {total : Nat}

/-- Each block begins with the load of its path, and nothing else is loaded or searched in it. -/
lemma forall₂ (h : Visits services discovery pretty s paths blocks total s') :
    List.Forall₂ (fun path block => ∃ template, ∃ rest : Trace,
      block = .load path (.ok template) :: rest ∧ rest.Inner) paths blocks := by
  induction h with
  | nil => exact .nil
  | cons hvisit _ ih =>
    obtain ⟨_, _, hresult⟩ | ⟨template, rest, hblock, hrest⟩ := visitTrace_of_outcome hvisit
    · cases hresult
    · exact .cons ⟨template, rest, hblock, hrest.inner⟩ ih

lemma loaded (h : Visits services discovery pretty s paths blocks total s') :
    Trace.loaded blocks.flatten = paths := by
  induction h with
  | nil => rfl
  | cons hvisit _ ih =>
    rw [List.flatten_cons, Trace.loaded_append, (visitTrace_of_outcome hvisit).loaded, ih]
    rfl

lemma not_isDiscover (h : Visits services discovery pretty s paths blocks total s') :
    ∀ effect ∈ blocks.flatten, effect.isDiscover = false := by
  induction h with
  | nil => exact List.forall_mem_nil _
  | cons hvisit _ ih =>
    exact List.forall_mem_append.mpr ⟨(visitTrace_of_outcome hvisit).not_isDiscover, ih⟩

lemma written_length (h : Visits services discovery pretty s paths blocks total s') :
    (Trace.written blocks.flatten).length = total := by
  induction h with
  | nil => rfl
  | cons hvisit _ ih =>
    rw [List.flatten_cons, Trace.written_append, List.length_append,
      (visitTrace_of_outcome hvisit).written_length, ih]

end Visits

/-- Visits one after another from a state: those before the first failing one came through, and
nothing is done after it. -/
def VisitsEnd (services : Services σ) (discovery : Discovery σ) (pretty : Bool) (s : σ)
    (paths : List String) (trace : Trace) (result : Except Failure Nat) (s' : σ) : Prop :=
  ∃ done later blocks last total s'',
    paths = done ++ later ∧ trace = blocks.flatten ++ last ∧
    Visits services discovery pretty s done blocks total s'' ∧
    ((later = [] ∧ last = [] ∧ result = .ok total ∧ s' = s'') ∨
      ∃ path pending failure, later = path :: pending ∧
        (services.recorded.visit discovery.recorded pretty path).outcome (s'', []) =
          (.error failure, s', last) ∧
        result = .error failure)

lemma Services.generateAll_visits (services : Services σ) (discovery : Discovery σ)
    (pretty : Bool) (paths : List String) (s : σ) :
    ∃ result s' trace,
      (services.generateAll discovery pretty paths).outcome s = (result, s') ∧
      (∀ before,
        (services.recorded.generateAll discovery.recorded pretty paths).outcome (s, before) =
          (result, s', before ++ trace)) ∧
      VisitsEnd services discovery pretty s paths trace result s' := by
  induction paths generalizing s with
  | nil =>
    refine ⟨.ok 0, s, [], rfl, fun before => ?_, ?_⟩
    · rw [List.append_nil]
      rfl
    · exact ⟨[], [], [], [], 0, s, rfl, rfl, .nil, .inl ⟨rfl, rfl, rfl, rfl⟩⟩
  | cons path paths ih =>
    obtain ⟨block, hblock, -⟩ := services.visit_records discovery pretty path s
    have hnil := hblock []
    rw [generateAll_cons, generateAll_cons]
    rcases hvisit : (services.visit discovery pretty path).outcome s with ⟨failure | count, s₁⟩ <;>
      rw [hvisit, List.nil_append] at hnil <;> rw [hvisit] at hblock
    · refine ⟨.error failure, s₁, block, Action.outcome_bind_error hvisit,
        fun before => Action.outcome_bind_error (hblock before), ?_⟩
      exact ⟨[], path :: paths, [], block, 0, s, rfl, rfl, .nil,
        .inr ⟨path, paths, failure, rfl, hnil, rfl⟩⟩
    · obtain ⟨result, s', trace, hrun, hrecorded, done, later, blocks, last, total, s'', rfl, rfl,
        hvisits, hlast⟩ := ih s₁
      refine ⟨result.map (count + ·), s', block ++ (blocks.flatten ++ last), ?_, fun before => ?_,
        path :: done, later, block :: blocks, last, count + total, s'', rfl, ?_,
        .cons hnil hvisits, ?_⟩
      · rw [Action.outcome_bind_ok hvisit, Action.outcome_bind, hrun]
        cases result <;> rfl
      · rw [Action.outcome_bind_ok (hblock before), Action.outcome_bind, hrecorded,
          List.append_assoc]
        cases result <;> rfl
      · rw [List.flatten_cons, List.append_assoc]
      · rcases hlast with ⟨rfl, rfl, rfl, rfl⟩ | ⟨path, pending, failure, rfl, hfail, rfl⟩
        · exact .inl ⟨rfl, rfl, rfl, rfl⟩
        · exact .inr ⟨path, pending, failure, rfl, hfail, rfl⟩

/-! ### The run -/

/-- Note that the search begins, discover all templates and note how many there are. -/
def Discovery.search (discovery : Discovery σ) : Action σ (List String) := do
  discovery.noteScanning
  let paths ← discovery.discover
  discovery.noteFound paths.length
  return paths

lemma Services.run_eq (services : Services σ) (discovery : Discovery σ) (pretty : Bool) :
    services.run discovery pretty = (do
      let paths ← discovery.search
      let artifacts ← services.generateAll discovery pretty paths
      return { templates := paths.length, artifacts }) := by
  simp [run, Discovery.search]

lemma Discovery.search_records (discovery : Discovery σ) :
    Records discovery.search discovery.recorded.search
      fun trace result => trace = [.discover result] := by
  unfold search
  refine .note_bind (fun _ _ => rfl) ?_
  refine .recording_bind (fun failure => rfl) fun paths => ?_
  exact .note_bind (fun _ _ => rfl) (.pure rfl)

/-- A run searches for templates once, first of all. When that fails, nothing else is done.
Otherwise the templates are visited in order, each from the state that the visit before it left.
Either all of them come through, and the totals are the number of paths and the number of written
artifacts, or the run ends with the first failing visit and its failure, and what was written by
then stays. -/
theorem run_effects (services : Services σ) (discovery : Discovery σ) (pretty : Bool) (s : σ) :
    ∃ result s' trace,
      (services.run discovery pretty).outcome s = (result, s') ∧
      (services.recorded.run discovery.recorded pretty).outcome (s, []) = (result, s', trace) ∧
      ((∃ failure, trace = [.discover (.error failure)] ∧ result = .error failure) ∨
        ∃ (paths done later : List String) (blocks : List Trace) (last : Trace) (total : Nat)
            (s₀ s'' : σ),
          discovery.search.outcome s = (.ok paths, s₀) ∧
          trace = .discover (.ok paths) :: (blocks.flatten ++ last) ∧
          (∀ effect ∈ blocks.flatten ++ last, effect.isDiscover = false) ∧
          (paths = [] → trace = [.discover (.ok [])]) ∧
          paths = done ++ later ∧
          Visits services discovery pretty s₀ done blocks total s'' ∧
          List.Forall₂ (fun path block => ∃ template, ∃ rest : Trace,
            block = .load path (.ok template) :: rest ∧ rest.Inner) done blocks ∧
          trace.written = (blocks.map Trace.written).flatten ++ last.written ∧
          ((later = [] ∧ last = [] ∧ s' = s'' ∧ trace.loaded = paths ∧
              result = .ok { templates := paths.length, artifacts := trace.written.length }) ∨
            ∃ path pending failure, later = path :: pending ∧
              (services.recorded.visit discovery.recorded pretty path).outcome (s'', []) =
                (.error failure, s', last) ∧
              trace.loaded = done ++ [path] ∧
              result = .error failure)) := by
  obtain ⟨search, hsearch, hfound⟩ := discovery.search_records s
  rw [services.run_eq, services.recorded.run_eq]
  rcases houtcome : discovery.search.outcome s with ⟨failure | paths, s₀⟩ <;>
    rw [houtcome] at hsearch hfound <;> dsimp only at hfound <;> subst hfound
  · exact ⟨.error failure, s₀, _, Action.outcome_bind_error houtcome,
      Action.outcome_bind_error (hsearch []), .inl ⟨failure, rfl, rfl⟩⟩
  obtain ⟨count, s', trace, hrun, hrecorded, done, later, blocks, last, total, s'', rfl, rfl,
    hvisits, hlast⟩ := services.generateAll_visits discovery pretty paths s₀
  refine ⟨count.map fun artifacts => { templates := (done ++ later).length, artifacts }, s',
    .discover (.ok (done ++ later)) :: (blocks.flatten ++ last), ?_, ?_,
    .inr ⟨done ++ later, done, later, blocks, last, total, s₀, s'', rfl, rfl, ?_, ?_, rfl, hvisits,
      hvisits.forall₂, ?_, ?_⟩⟩
  · rw [Action.outcome_bind_ok houtcome, Action.outcome_bind, hrun]
    cases count <;> rfl
  · rw [Action.outcome_bind_ok (hsearch []), Action.outcome_bind, hrecorded]
    cases count <;> rfl
  · refine List.forall_mem_append.mpr ⟨hvisits.not_isDiscover, ?_⟩
    rcases hlast with ⟨_, rfl, _⟩ | ⟨_, _, _, _, hfail, _⟩
    · exact List.forall_mem_nil _
    · exact (visitTrace_of_outcome hfail).not_isDiscover
  · intro hpaths
    obtain ⟨rfl, rfl⟩ := List.append_eq_nil_iff.mp hpaths
    cases hvisits
    rcases hlast with ⟨_, rfl, _⟩ | ⟨_, _, _, hlater, _⟩
    · rfl
    · cases hlater
  · rw [Trace.written_discover, Trace.written_append, Trace.written_flatten]
  · rcases hlast with ⟨rfl, rfl, rfl, rfl⟩ | ⟨path, pending, failure, rfl, hfail, rfl⟩
    · refine .inl ⟨rfl, rfl, rfl, ?_, ?_⟩
      · rw [Trace.loaded_discover, List.append_nil, List.append_nil, hvisits.loaded]
      · rw [Trace.written_discover, List.append_nil, List.append_nil, hvisits.written_length]
        rfl
    · refine .inr ⟨path, pending, failure, rfl, hfail, ?_, rfl⟩
      rw [Trace.loaded_discover, Trace.loaded_append, hvisits.loaded,
        (visitTrace_of_outcome hfail).loaded]

end Stencil
