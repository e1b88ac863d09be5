import Stencil.Json.Relaxed
import Stencil.Layout

/-!
# The configuration of a project

A project may tell its packs in a document of relaxed JSON. `Layout.ofConfiguration?` reads such a
document; it has no answer for one that has another form.

An object may also be given as the list of its members' values. A member that matters may stand
only once, and others must only be well written.
-/

namespace Stencil.Layout

open Json.Relaxed

/-- The text that pieces write, if they write one. -/
def textOf? (pieces : List Piece) : Option String :=
  (chars? pieces).map String.ofList

/-- The value of a member that may be left out. The outer option tells whether the members are in
order: the other ones are well written, and this one stands at most once. -/
def memberNamed? (name : String) : List (List Piece × Document) → Option (Option Document)
  | []                      => some none
  | (key, value) :: members => do
    let key ← textOf? key
    let later ← memberNamed? name members
    if key ≠ name then if value.isSound then some later else none
    else if later.isSome then none
    else some (some value)

/-- The reference to a pack that a value writes, if it is a text. -/
def reference? : Option Document → Option (Option String)
  | some (.text pieces) => (textOf? pieces).map some
  | some value          => if value.isSound then some none else none
  | none                => some none

/-- The references to the two packs that the section of the packs tells. -/
def referencesOfPacks? : Option Document → Option (Option String × Option String)
  | none                   => some (none, none)
  | some .null             => some (none, none)
  | some (.list items)     => do
    return (← reference? items[0]?, ← reference? items[1]?)
  | some (.object members) => do
    let behavior ← memberNamed? "behaviorPack" members
    let resource ← memberNamed? "resourcePack" members
    return (← reference? behavior, ← reference? resource)
  | some _                 => none

/-- The references to the two packs that a document tells. -/
def referencesOfDocument? : Document → Option (Option String × Option String)
  | .list items     => referencesOfPacks? items[0]?
  | .object members => do referencesOfPacks? (← memberNamed? "packs" members)
  | _               => none

/-- The references to the two packs that the text of a configuration tells. -/
def references? (text : String) : Option (Option String × Option String) := do
  referencesOfDocument? (← parse? text.toList)

/-- The layout that the text of a configuration tells. -/
def ofConfiguration? (text : String) : Option Layout := do
  let (behavior, resource) ← references? text
  return ofReferences behavior resource

end Stencil.Layout
