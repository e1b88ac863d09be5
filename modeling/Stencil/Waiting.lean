/-!
# Waiting for a result

A result that is not there yet is waited for by running all jobs and firing one timer in turn, until
it is settled. `Waiter.wait` stops as soon as that is so, when a timer's callback throws, or when
there is nothing left that could settle it.

What a state is and what a job or a timer does to it is left open.
-/

namespace Stencil

/-- What waiting may do with a state `σ`. -/
structure Waiter (σ ε α : Type) where
  /-- The state after the job that has waited longest, none if there is no job. -/
  job? : σ → Option σ
  /-- How the result was settled, none as long as it was not. -/
  settled? : σ → Option (Except ε α)
  /-- Fires the timer that is due first, none if there is no timer. -/
  timer? : σ → Option (Except ε Unit × σ)

/-- How waiting ends. -/
inductive Wait (ε α : Type) where
  | settled (result : Except ε α)
  /-- The callback of a timer threw an error. -/
  | interrupted (error : ε)
  | neverSettled
  /-- More steps were needed than are allowed. -/
  | exhausted

/-- Run jobs until there are none; `fuel` bounds their number. -/
def drainJobs {σ : Type} (job? : σ → Option σ) : (fuel : Nat) → σ → Option σ
  | 0, _            => none
  | fuel + 1, state =>
    match job? state with
    | none       => some state
    | some state => drainJobs job? fuel state

namespace Waiter

variable {σ ε α : Type}

/-- Wait for the result; `fuel` bounds the number of timers, and of jobs between two of them. -/
def wait (waiter : Waiter σ ε α) : (fuel : Nat) → σ → Wait ε α × σ
  | 0, state        => (.exhausted, state)
  | fuel + 1, state =>
    match drainJobs waiter.job? fuel state with
    | none       => (.exhausted, state)
    | some state =>
      match waiter.settled? state with
      | some result => (.settled result, state)
      | none        =>
        match waiter.timer? state with
        | none                       => (.neverSettled, state)
        | some (.error error, state) => (.interrupted error, state)
        | some (.ok (), state)       => waiter.wait fuel state

end Waiter

/-- What a call gave: a value, or something that stands for a value to be waited for. -/
inductive Produced (β α : Type) where
  | ready (value : α)
  | deferred (record : β)

end Stencil
