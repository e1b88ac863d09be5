import Stencil.Failure

/-!
# The contract of a default export

A template's default export is either an object, which becomes one artifact, or a triple of a
naming function, a data function and the items, which becomes one artifact per item. `classify`
reads it off through an `Inspector`, which may change its state and may fail at any call.
-/

namespace Stencil

/-- A reference to a value that an evaluated template holds. -/
structure ValueRef where
  index : Nat
  deriving DecidableEq

/-- The shape of a value. -/
inductive Shape where
  | array (elements : List ValueRef)
  | function
  /-- Any other object. -/
  | object
  /-- Not an object; the text says what it is. -/
  | primitive (description : String)
  deriving DecidableEq

/-- What a value of this shape is called. -/
def Shape.describe : Shape → String
  | .array elements         => "an array of length " ++ toString elements.length
  | .function               => "a function"
  | .object                 => "an object"
  | .primitive description  => description

/-- A computation on a state `σ` that may fail; the state outlives the failure. -/
abbrev Action (σ : Type) := ExceptT Failure (StateM σ)

/-- What the default export of a template describes. -/
inductive Contract where
  | single (data : ValueRef)
  | multiple (nameFunction dataFunction : ValueRef) (items : List ValueRef)
  /-- Neither form; the text says what was found. -/
  | invalid (found : String)
  deriving DecidableEq

namespace Contract

/-- Fail unless a member of the triple is a function. -/
def demandFunction {σ : Type} (file : String) (member : TripleMember) (shape : Shape) :
    Action σ Unit :=
  match shape with
  | .function => pure ()
  | _         => throw (.contract file member)

/-- The items of the triple. -/
def demandItems {σ : Type} (file : String) (shape : Shape) : Action σ (List ValueRef) :=
  match shape with
  | .array items => pure items
  | _            => throw (.contract file .items)

/-- What the value `value` describes, as the default export of `file`. -/
def classify {σ : Type} (inspect : ValueRef → Action σ Shape) (file : String)
    (value : ValueRef) : Action σ Contract := do
  match ← inspect value with
  | .object => return .single value
  | .array [name, data, items] =>
    demandFunction file .nameFunction (← inspect name)
    demandFunction file .dataFunction (← inspect data)
    let items ← demandItems file (← inspect items)
    return .multiple name data items
  | shape => return .invalid shape.describe

end Contract

end Stencil
