import Stencil.Script.Calls

/-!
# Members of standard objects

How the members of standard objects are written down.
-/

namespace Stencil.Script.Library

def method (name : String) (arity : Nat) (run : Invocation → Exec Value) : Builtin :=
  ⟨.text name, .method, arity, run⟩

def getter (name : String) (run : Invocation → Exec Value) : Builtin :=
  ⟨.text name, .getter, 0, run⟩

def setter (name : String) (run : Invocation → Exec Value) : Builtin :=
  ⟨.text name, .setter, 1, run⟩

def symbolMethod (symbol : WellKnown) (arity : Nat) (run : Invocation → Exec Value) : Builtin :=
  ⟨.symbol symbol, .method, arity, run⟩

def symbolGetter (symbol : WellKnown) (run : Invocation → Exec Value) : Builtin :=
  ⟨.symbol symbol, .getter, 0, run⟩

/-- The constructor itself, which is used for new objects like its instances. -/
def speciesGetter : Builtin := symbolGetter .species fun i => return i.this

/-- An argument that must be a function. -/
def functionArg (i : Invocation) (n : Nat) : Exec Value := do
  let f := i.arg n
  unless ← isCallable f do throwType "not a callable function"
  return f

/-- Carries a state through natural numbers from `i` on. -/
def foldRange {σ : Type} (f : σ → Nat → Exec σ) : (count : Nat) → (i : Nat) → σ → Exec σ
  | 0, _, s         => return s
  | count + 1, i, s => do foldRange f count (i + 1) (← f s i)

/-- Does something for each natural number below `n`. -/
def forRange (n : Nat) (f : Nat → Exec Unit) : Exec Unit :=
  foldRange (fun _ i => f i) n 0 ()

/-- The first natural number below a bound for which something is found. -/
def firstInRange {α : Type} (f : Nat → Exec (Option α)) : (count : Nat) → (i : Nat) →
    Exec (Option α)
  | 0, _         => return none
  | count + 1, i => do
    match ← f i with
    | some a => return some a
    | none   => firstInRange f count (i + 1)

/-- The first natural number below a bound, from the greatest down, for which something is
found. -/
def lastInRange {α : Type} (f : Nat → Exec (Option α)) : (count : Nat) → Exec (Option α)
  | 0         => return none
  | count + 1 => do
    match ← f count with
    | some a => return some a
    | none   => lastInRange f count

end Stencil.Script.Library
