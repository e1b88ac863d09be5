import Stencil.Proofs.Timers
import Stencil.Proofs.Uncaught

/-!
# What happens while a result is waited for

`Waiter.Reaches` tells how waiting goes on, whatever the jobs and the timers do to the state: all
jobs run, and as long as the result is not settled then, one timer is fired and its callback
returns. `Waiter.Ends` tells where it stops. Waiting with a limit is just that (`wait_eq_iff`).

In a sandbox the timers are those of its clock. A deferred result is waited for like this, and no
timer but those that were fired ceases to wait, except where a job or a callback forgets it
(`Sandbox.resolve_waits`).
-/

namespace Stencil

namespace Waiter

variable {σ ε α : Type}

/-! ### Steps -/

/-- What happens while a result is waited for, with the states before and after it. -/
inductive Step (σ : Type) where
  | job (before after : σ)
  /-- A timer is fired, and its callback returns. -/
  | timer (before after : σ)

namespace Step

def before : Step σ → σ
  | job before _   => before
  | timer before _ => before

def after : Step σ → σ
  | job _ after   => after
  | timer _ after => after

end Step

/-- Steps one after another lead from one state to another. -/
inductive Follows : σ → List (Step σ) → σ → Prop where
  | nil {state : σ} : Follows state [] state
  | cons {step : Step σ} {steps : List (Step σ)} {last : σ} (h : Follows step.after steps last) :
      Follows step.before (step :: steps) last

/-- Jobs run one after another until there is none. -/
inductive Drains (job? : σ → Option σ) : σ → List (Step σ) → σ → Prop where
  | done {state : σ} (h : job? state = none) : Drains job? state [] state
  | job {state next last : σ} {steps : List (Step σ)} (h : job? state = some next)
      (hrest : Drains job? next steps last) : Drains job? state (.job state next :: steps) last

/-- Waiting comes to a state where no job is left, after some timers were fired. There was no job
left when a timer was fired, and the result was not settled. The number of timers, and of jobs
between two of them, is below the limit. -/
inductive Reaches (waiter : Waiter σ ε α) : (limit : Nat) → σ → List (Step σ) → σ → Prop where
  | drained {limit : Nat} {state last : σ} {jobs : List (Step σ)}
      (hjobs : Drains waiter.job? state jobs last) (hlimit : jobs.length < limit) :
      Reaches waiter (limit + 1) state jobs last
  | fired {limit : Nat} {state idle next last : σ} {jobs steps : List (Step σ)}
      (hjobs : Drains waiter.job? state jobs idle) (hlimit : jobs.length < limit)
      (hunsettled : waiter.settled? idle = none) (htimer : waiter.timer? idle = some (.ok (), next))
      (hrest : Reaches waiter limit next steps last) :
      Reaches waiter (limit + 1) state (jobs ++ .timer idle next :: steps) last

/-- How waiting stops in a state where no job is left. -/
inductive Ends (waiter : Waiter σ ε α) (state : σ) : Wait ε α → σ → Prop where
  | settled {result : Except ε α} (h : waiter.settled? state = some result) :
      Ends waiter state (.settled result) state
  | neverSettled (hunsettled : waiter.settled? state = none) (htimer : waiter.timer? state = none) :
      Ends waiter state .neverSettled state
  | interrupted {error : ε} {last : σ} (hunsettled : waiter.settled? state = none)
      (htimer : waiter.timer? state = some (.error error, last)) :
      Ends waiter state (.interrupted error) last

section

variable {waiter : Waiter σ ε α} {job? : σ → Option σ} {limit : Nat} {state last next : σ}
  {steps jobs : List (Step σ)} {outcome : Wait ε α}

lemma drainJobs_eq_some :
    drainJobs job? limit state = some last ↔
      ∃ jobs, Drains job? state jobs last ∧ jobs.length < limit := by
  induction limit generalizing state with
  | zero => simp [drainJobs]
  | succ limit ih =>
    rw [drainJobs]
    rcases hjob : job? state with _ | next
    · constructor
      · rintro ⟨⟩
        exact ⟨[], .done hjob, Nat.succ_pos _⟩
      · rintro ⟨_, hdrains, -⟩
        cases hdrains with
        | done => rfl
        | job h => cases hjob.symm.trans h
    · refine (@ih next).trans ⟨?_, ?_⟩
      · rintro ⟨jobs, hdrains, hlt⟩
        exact ⟨_, .job hjob hdrains, Nat.succ_lt_succ hlt⟩
      · rintro ⟨_, hdrains, hlt⟩
        cases hdrains with
        | done h => cases hjob.symm.trans h
        | job h hrest =>
          cases hjob.symm.trans h
          exact ⟨_, hrest, Nat.lt_of_succ_lt_succ hlt⟩

lemma Drains.job?_last (h : Drains job? state jobs last) : job? last = none := by
  induction h with
  | done h => exact h
  | job _ _ ih => exact ih

/-- There is one way to run all jobs. -/
lemma Drains.last_unique {jobs' : List (Step σ)} {last' : σ} (h : Drains job? state jobs last)
    (h' : Drains job? state jobs' last') : last = last' := by
  induction h generalizing jobs' with
  | done h =>
    cases h' with
    | done => rfl
    | job h' => cases h.symm.trans h'
  | job h _ ih =>
    cases h' with
    | done h' => cases h.symm.trans h'
    | job h' hrest =>
      cases h.symm.trans h'
      exact ih hrest

/-- Waiting with a limit stops where waiting ends within the limit. -/
theorem wait_eq_iff (houtcome : outcome ≠ .exhausted) :
    waiter.wait limit state = (outcome, last) ↔
      ∃ steps idle, waiter.Reaches limit state steps idle ∧ waiter.Ends idle outcome last := by
  induction limit generalizing state with
  | zero =>
    constructor
    · rintro ⟨⟩
      exact absurd rfl houtcome
    · rintro ⟨_, _, ⟨⟩, _⟩
  | succ limit ih =>
    rw [wait]
    rcases hdrain : drainJobs waiter.job? limit state with _ | idle
    · have hnone (jobs : List (Step σ)) (idle : σ) (h : Drains waiter.job? state jobs idle)
          (hlt : jobs.length < limit) : False := by
        rw [drainJobs_eq_some.mpr ⟨jobs, h, hlt⟩] at hdrain
        cases hdrain
      constructor
      · rintro ⟨⟩
        exact absurd rfl houtcome
      · rintro ⟨_, _, ⟨h, hlt⟩ | ⟨h, hlt⟩, _⟩ <;> exact (hnone _ _ h hlt).elim
    obtain ⟨jobs, hjobs, hlimit⟩ := drainJobs_eq_some.mp hdrain
    -- the first timer, if any is fired, is fired in the state after all jobs
    have hreaches : (∃ steps final, waiter.Reaches (limit + 1) state steps final ∧
        waiter.Ends final outcome last) ↔ waiter.Ends idle outcome last ∨
          ∃ next, waiter.settled? idle = none ∧ waiter.timer? idle = some (.ok (), next) ∧
            ∃ steps final, waiter.Reaches limit next steps final ∧
              waiter.Ends final outcome last := by
      constructor
      · rintro ⟨_, _, ⟨h, -⟩ | ⟨h, -, hunsettled, htimer, hrest⟩, hends⟩ <;>
          cases hjobs.last_unique h
        · exact .inl hends
        · exact .inr ⟨_, hunsettled, htimer, _, _, hrest, hends⟩
      · rintro (hends | ⟨next, hunsettled, htimer, steps, final, hrest, hends⟩)
        · exact ⟨_, _, .drained hjobs hlimit, hends⟩
        · exact ⟨_, _, .fired hjobs hlimit hunsettled htimer hrest, hends⟩
    rw [hreaches]
    dsimp only
    rcases hsettled : waiter.settled? idle with _ | result
    · rcases htimer : waiter.timer? idle with _ | ⟨_ | _, next⟩ <;> dsimp only
      · constructor
        · rintro ⟨⟩
          exact .inl (.neverSettled hsettled htimer)
        · rintro (h | ⟨_, -, ⟨⟩, -⟩)
          cases h <;> simp_all
      · constructor
        · rintro ⟨⟩
          exact .inl (.interrupted hsettled htimer)
        · rintro (h | ⟨_, -, ⟨⟩, -⟩)
          cases h <;> simp_all
      · rw [ih]
        constructor
        · exact fun h => .inr ⟨next, rfl, rfl, h⟩
        · rintro (h | ⟨_, -, ⟨⟩, h⟩)
          · cases h <;> simp_all
          · exact h
    · constructor
      · rintro ⟨⟩
        exact .inl (.settled hsettled)
      · rintro (h | ⟨_, ⟨⟩, -⟩)
        cases h <;> simp_all

lemma Ends.ne_exhausted (h : waiter.Ends state outcome last) : outcome ≠ .exhausted := by
  cases h <;> nofun

lemma Reaches.wait_eq {idle : σ} (h : waiter.Reaches limit state steps idle)
    (hends : waiter.Ends idle outcome last) : waiter.wait limit state = (outcome, last) :=
  (wait_eq_iff hends.ne_exhausted).mpr ⟨steps, idle, h, hends⟩

/-! ### What holds on the way -/

lemma Follows.append {steps more : List (Step σ)} {final : σ} (h : Follows state steps last)
    (hmore : Follows last more final) : Follows state (steps ++ more) final := by
  induction h with
  | nil => exact hmore
  | cons _ ih => exact .cons (ih hmore)

/-- What a step of waiting is: a job that runs, or a timer that is fired where no job is left and
the result is not settled. -/
inductive Step.Taken (waiter : Waiter σ ε α) : Step σ → Prop where
  | job {before after : σ} (h : waiter.job? before = some after) : Taken waiter (.job before after)
  | timer {before after : σ} (hjobs : waiter.job? before = none)
      (hunsettled : waiter.settled? before = none)
      (htimer : waiter.timer? before = some (.ok (), after)) : Taken waiter (.timer before after)

lemma Drains.follows (h : Drains job? state jobs last) : Follows state jobs last := by
  induction h with
  | done => exact .nil
  | @job state next _ _ _ _ ih => exact (Follows.cons ih : Follows (Step.job state next).before _ _)

lemma Drains.taken (h : Drains waiter.job? state jobs last) : ∀ step ∈ jobs, step.Taken waiter := by
  induction h with
  | done => exact List.forall_mem_nil _
  | job h _ ih => exact List.forall_mem_cons.mpr ⟨.job h, ih⟩

lemma Reaches.job?_last (h : waiter.Reaches limit state steps last) : waiter.job? last = none := by
  induction h with
  | drained hjobs => exact hjobs.job?_last
  | fired _ _ _ _ _ ih => exact ih

lemma Reaches.follows (h : waiter.Reaches limit state steps last) : Follows state steps last := by
  induction h with
  | drained hjobs => exact hjobs.follows
  | @fired _ _ idle next _ _ _ hjobs _ _ _ _ ih =>
    exact hjobs.follows.append (Follows.cons ih : Follows (Step.timer idle next).before _ _)

lemma Reaches.taken (h : waiter.Reaches limit state steps last) :
    ∀ step ∈ steps, step.Taken waiter := by
  induction h with
  | drained hjobs => exact hjobs.taken
  | fired hjobs _ hunsettled htimer _ ih =>
    refine List.forall_mem_append.mpr ⟨hjobs.taken, List.forall_mem_cons.mpr ⟨?_, ih⟩⟩
    exact .timer hjobs.job?_last hunsettled htimer

end

end Waiter

namespace Sandbox

open Script
open Waiter (Step Follows)

/-! ### Jobs and timers of a sandbox -/

/-- Whether a timer is the one that is fired: it is due first, it waits no longer when its callback
begins, and the clock does not stand before its time. -/
structure Fires (before : Machine) (timer : Timer Float Ref) (start : Machine) : Prop where
  first : Clock.first? before.clock.timers = some timer
  start_eq : start = { before with clock := { before.clock.clear timer.id with
    now := if before.clock.now < timer.due then timer.due else before.clock.now } }

/-- The timer that is fired in a step, if it is not a job. -/
def firedTimer? : Step Machine → Option (Timer Float Ref)
  | .job _ _        => none
  | .timer before _ => Clock.first? before.clock.timers

/-- The timers that are fired in some steps, in order. -/
def firedTimers (steps : List (Step Machine)) : List (Timer Float Ref) :=
  steps.filterMap firedTimer?

/-- Whether what runs in a step, the job or the callback of the timer, does not forget a timer. -/
def KeepsWaiting (other : Timer Float Ref) : Step Machine → Prop
  | .job before after   => other ∈ before.clock.timers → other ∈ after.clock.timers
  | .timer before after => ∀ timer start, Fires before timer start →
      other ∈ start.clock.timers → other ∈ after.clock.timers

section

variable {m last start : Machine} {timer other : Timer Float Ref} {record : Ref}
  {steps : List (Step Machine)}

lemma job?_eq_none : job? m = none ↔ m.jobs = [] := by
  unfold job?
  rcases m.jobs with _ | ⟨job, jobs⟩
  · simp
  · dsimp only
    cases runJob job host { m with jobs } <;> simp

lemma fires_iff :
    Fires m timer start ↔ ∃ clock, m.clock.fire? = some (timer, clock) ∧
      start = { m with clock } := by
  rw [Clock.fire?]
  rcases hfirst : Clock.first? m.clock.timers with _ | first
  · refine ⟨fun h => ?_, by simp⟩
    cases hfirst.symm.trans h.first
  · dsimp only
    constructor
    · intro h
      cases hfirst.symm.trans h.first
      exact ⟨_, rfl, h.start_eq⟩
    · rintro ⟨_, ⟨⟩, rfl⟩
      exact ⟨hfirst, rfl⟩

lemma timer?_eq_none : timer? m = none ↔ m.clock.timers = [] := by
  rw [← Clock.fire?_eq_none, timer?]
  rcases m.clock.fire? with _ | ⟨timer, clock⟩
  · simp
  · dsimp only
    cases runTimer timer.callback host { m with clock } <;> simp

lemma timer?_eq_ok :
    timer? m = some (.ok (), last) ↔
      ∃ timer start, Fires m timer start ∧ runTimer timer.callback host start = .ok () last := by
  simp only [fires_iff, timer?]
  rcases m.clock.fire? with _ | ⟨timer, clock⟩
  · simp
  · dsimp only
    rcases hrun : runTimer timer.callback host { m with clock } with _ | _ <;> simp [hrun]

lemma timer?_eq_error {error : Abrupt} :
    timer? m = some (.error error, last) ↔
      ∃ timer start, Fires m timer start ∧
        runTimer timer.callback host start = .error error last := by
  simp only [fires_iff, timer?]
  rcases m.clock.fire? with _ | ⟨timer, clock⟩
  · simp
  · dsimp only
    rcases hrun : runTimer timer.callback host { m with clock } with _ | _ <;> simp [hrun]

/-- All timers but the one that is fired wait when its callback begins. -/
lemma Fires.mem_timers (h : Fires m timer start) :
    other ∈ start.clock.timers ↔ other ∈ m.clock.timers ∧ other.id ≠ timer.id := by
  rw [h.start_eq]
  simp [Clock.clear]

/-- A timer that is neither fired nor forgotten waits all the time. -/
lemma mem_timers_of_follows (h : Follows m steps last)
    (htaken : ∀ step ∈ steps, step.Taken (waiter record)) (hmem : other ∈ m.clock.timers)
    (hfired : ∀ fired ∈ firedTimers steps, fired.id ≠ other.id)
    (hkeeps : ∀ step ∈ steps, KeepsWaiting other step) : other ∈ last.clock.timers := by
  induction h with
  | nil => exact hmem
  | @cons step steps last _ ih =>
    obtain ⟨htaken, htakenRest⟩ := List.forall_mem_cons.mp htaken
    obtain ⟨hkeeps, hkeepsRest⟩ := List.forall_mem_cons.mp hkeeps
    have hfiredRest (fired : Timer Float Ref) (h : fired ∈ firedTimers steps) :
        fired.id ≠ other.id := by
      obtain ⟨later, hlater, hstep⟩ := List.mem_filterMap.mp h
      exact hfired fired (List.mem_filterMap.mpr ⟨later, List.mem_cons_of_mem _ hlater, hstep⟩)
    refine ih htakenRest ?_ hfiredRest hkeepsRest
    cases htaken with
    | job => exact hkeeps hmem
    | timer _ _ htimer =>
      obtain ⟨timer, start, hfires, -⟩ := timer?_eq_ok.mp htimer
      refine hkeeps timer start hfires (hfires.mem_timers.mpr ⟨hmem, fun heq => ?_⟩)
      exact hfired timer
        (List.mem_filterMap.mpr ⟨_, List.mem_cons_self, hfires.first⟩) heq.symm

end

/-! ### Results -/

/-- What comes of a deferred result, by how waiting for it stops. -/
lemma outcome_resolve (record : Ref) (s : Sandbox) :
    (resolve (.deferred record)).outcome s =
      match (waiter record).wait turnLimit s.machine with
      | (.settled (.ok v), machine)        => (.ok v, { s with machine })
      | (.settled (.error error), machine) => (blame error).outcome { s with machine }
      | (.interrupted error, machine)      => (blame error).outcome { s with machine }
      | (.neverSettled, machine)           =>
        (.error (.evaluation s.file .neverSettled), { s with machine })
      | (.exhausted, machine)              => (blame .exhausted).outcome { s with machine } := by
  unfold resolve
  rw [Action.outcome_bind_ok (show Action.outcome get s = (.ok s, s) from rfl)]
  dsimp only
  rcases (waiter record).wait turnLimit s.machine with ⟨outcome, machine⟩
  rw [Action.outcome_bind]
  rcases outcome with ⟨_ | _⟩ | _ | _ | _ <;> rfl

/-- An error that is blamed is never told as a promise that did not settle. -/
lemma answer_blame_ne {error : Abrupt} {s : Sandbox} {file : String} :
    ((blame error : Action Sandbox Value).outcome s).1 ≠
      .error (.evaluation file .neverSettled) := by
  rw [answer_blame, Report.toFailure]
  split <;> simp

end Sandbox

end Stencil
