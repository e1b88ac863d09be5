import Stencil.Path.Reference

/-!
# The layout of a project

A project has two trees of contents, the behavior pack and the resource pack. `Layout` tells the
directories that hold them where generation runs.
-/

namespace Stencil

/-- The directories of the two packs. -/
structure Layout where
  behavior : String
  resource : String
  deriving DecidableEq

namespace Layout

/-- The layout of a project that does not tell another. -/
def standard : Layout := ⟨"BP", "RP"⟩

/-- The directory that a reference to a pack names, or the standard one if it names none. -/
def packDirectory (reference : Option String) (standard : String) : String :=
  (reference.bind Path.packReference?).getD standard

/-- The layout that references to the packs tell. -/
def ofReferences (behavior resource : Option String) : Layout :=
  ⟨packDirectory behavior standard.behavior, packDirectory resource standard.resource⟩

end Layout

end Stencil
