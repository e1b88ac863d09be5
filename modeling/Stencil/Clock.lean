/-!
# A virtual clock

Timers that are due at some time on a clock that only moves when a timer fires. `Clock.fire?` takes
the timer that is due first, of several the one that was set first, and moves the clock to its time.

Times may be of any ordered type with an addition.
-/

namespace Stencil

/-- A timer that has not fired. -/
structure Timer (τ α : Type) where
  id : Nat
  due : τ
  callback : α

/-- A clock with its pending timers, in the order in which they were set. -/
structure Clock (τ α : Type) where
  now : τ
  nextId : Nat
  timers : List (Timer τ α)

namespace Clock

variable {τ α : Type}

/-- A clock without timers. -/
def starting (now : τ) : Clock τ α := ⟨now, 1, []⟩

/-- Take the number of the next timer. -/
def number (clock : Clock τ α) : Nat × Clock τ α :=
  (clock.nextId, { clock with nextId := clock.nextId + 1 })

/-- Set the timer of a number, which is due after a delay. -/
def set [Add τ] (clock : Clock τ α) (id : Nat) (delay : τ) (callback : α) : Clock τ α :=
  { clock with timers := clock.timers ++ [⟨id, clock.now + delay, callback⟩] }

/-- Forget a timer. -/
def clear (clock : Clock τ α) (id : Nat) : Clock τ α :=
  { clock with timers := clock.timers.filter fun timer => timer.id ≠ id }

/-- The timer that is due first; of several that are due at once, the first of the list. -/
def first? [LT τ] [DecidableLT τ] : List (Timer τ α) → Option (Timer τ α)
  | []              => none
  | timer :: timers =>
    match first? timers with
    | none       => some timer
    | some other => if other.due < timer.due then some other else some timer

/-- The timer that is due first, and the clock once it fires: without it, and not before its
time. -/
def fire? [LT τ] [DecidableLT τ] (clock : Clock τ α) : Option (Timer τ α × Clock τ α) :=
  match first? clock.timers with
  | none       => none
  | some timer =>
    let now := if clock.now < timer.due then timer.due else clock.now
    some (timer, { clock.clear timer.id with now })

end Clock

end Stencil
