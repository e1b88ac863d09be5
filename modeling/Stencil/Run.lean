import Stencil.Generation

/-!
# A run over all templates

`Services.run` discovers the templates and generates from them in order, loading each one only
after the one before it is finished, and stops at the first failure. What was written stays.
-/

namespace Stencil

/-- How templates are found and read. -/
structure Discovery (σ : Type) where
  /-- The paths of all templates. -/
  discover : Action σ (List String)
  load : String → Action σ Template
  /-- A note that the search for templates begins. -/
  noteScanning : StateM σ Unit
  /-- A note of how many templates were found. -/
  noteFound : Nat → StateM σ Unit

/-- What a successful run did. -/
structure Totals where
  templates : Nat
  artifacts : Nat
  deriving DecidableEq

namespace Services

variable {σ : Type}

/-- Generate from each of the paths in turn and count the artifacts. -/
def generateAll (services : Services σ) (discovery : Discovery σ) (pretty : Bool) :
    List String → Action σ Nat
  | []            => pure 0
  | path :: paths => do
    let template ← discovery.load path
    let count ← services.generate template pretty
    let rest ← services.generateAll discovery pretty paths
    return count + rest

/-- Discover all templates and generate from them. -/
def run (services : Services σ) (discovery : Discovery σ) (pretty : Bool) : Action σ Totals := do
  discovery.noteScanning
  let paths ← discovery.discover
  discovery.noteFound paths.length
  let artifacts ← services.generateAll discovery pretty paths
  return { templates := paths.length, artifacts }

end Services

end Stencil
