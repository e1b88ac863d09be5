import Stencil.ArtifactName
import Stencil.Contract

/-!
# Generation

`generate` turns one template into artifacts: it evaluates the template, reads the contract of its
default export and writes what that describes. Items are handled one after another, and nothing is
undone when one of them fails.

Everything outside (the evaluated template, the place for output, the log) is a `Services`, whose
operations share a state and may fail at any call.
-/

namespace Stencil

/-- A note about the progress of generation. -/
inductive Progress where
  | wroteSingle (template artifact : String)
  | wroteItem (template : String) (index total : Nat) (artifact : String)
  deriving DecidableEq

/-- What generation needs from outside. -/
structure Services (σ : Type) where
  /-- Evaluate a template and refer to its default export. -/
  instantiate : Template → Action σ ValueRef
  inspect : ValueRef → Action σ Shape
  /-- Call a function with one argument and wait for its result. -/
  call : ValueRef → ValueRef → Action σ ValueRef
  /-- The value as a text, when it is one. -/
  text? : ValueRef → StateM σ (Option String)
  /-- The JSON text of a value, indented by some width or compact. -/
  json : ValueRef → Option Nat → Action σ String
  write : Artifact → Action σ Unit
  note : Progress → StateM σ Unit

/-- Indentation of the one artifact of a template. -/
def singleIndent : Nat := 4

/-- Indentation of each of several artifacts of a template. -/
def itemIndent : Nat := 2

/-- The indentation to write with, none in compact output. -/
def indentFor (pretty : Bool) (width : Nat) : Option Nat :=
  if pretty then some width else none

namespace Services

variable {σ : Type}

/-- Write the one artifact of a template. -/
def generateSingle (services : Services σ) (template : Template) (pretty : Bool)
    (data : ValueRef) : Action σ Nat := do
  let content ← services.json data (indentFor pretty singleIndent)
  let artifact := { path := template.singleOutputPath, content : Artifact }
  services.write artifact
  services.note (.wroteSingle template.path artifact.path)
  return 1

/-- Write the artifact of one item, the `index`-th of `total`. -/
def generateItem (services : Services σ) (template : Template) (pretty : Bool)
    (nameFunction dataFunction : ValueRef) (index total : Nat) (item : ValueRef) :
    Action σ Unit := do
  let name ← services.call nameFunction item
  let fileName ← match artifactFileName? (← services.text? name) with
    | .ok fileName => pure fileName
    | .error fault => throw (.invalidName template.path index fault)
  let data ← services.call dataFunction item
  let content ← services.json data (indentFor pretty itemIndent)
  let artifact := { path := template.outputPath fileName, content : Artifact }
  services.write artifact
  services.note (.wroteItem template.path index total artifact.path)

/-- Write the artifacts of the items from the `index`-th on. -/
def generateItems (services : Services σ) (template : Template) (pretty : Bool)
    (nameFunction dataFunction : ValueRef) (total : Nat) :
    (index : Nat) → (items : List ValueRef) → Action σ Unit
  | _, []             => pure ()
  | index, item :: items => do
    services.generateItem template pretty nameFunction dataFunction index total item
    services.generateItems template pretty nameFunction dataFunction total (index + 1) items

/-- Write all artifacts of a template and count them. -/
def generate (services : Services σ) (template : Template) (pretty : Bool) : Action σ Nat := do
  let exported ← services.instantiate template
  match ← Contract.classify services.inspect template.path exported with
  | .single data => services.generateSingle template pretty data
  | .multiple nameFunction dataFunction items =>
    services.generateItems template pretty nameFunction dataFunction items.length 1 items
    return items.length
  | .invalid found => throw (.unsupported template.path found)

end Services

end Stencil
