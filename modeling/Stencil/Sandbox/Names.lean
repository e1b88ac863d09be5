import Stencil.Script.Realm

/-!
# Global names in use

The surroundings find the standard functions that they use by their global names, at the time of use,
so a template that replaces one changes them too.
-/

namespace Stencil.Sandbox

open Script

/-- The value of a global name. -/
def globalValue (name : String) : Exec Value := readName scriptScope (.ofString name)

/-- Calls a member of a global object, like `JSON.stringify`. -/
def callGlobal (object name : String) (arguments : List Value) : Exec Value := do
  let holder ← globalValue object
  call (← getOf holder (.ofString name)) holder arguments

/-- A value as `String` shows it. -/
def shown (v : Value) : Exec Value := do call (← globalValue "String") .undefined [v]

/-- The text of a value as `String` shows it. -/
def shownText (v : Value) : Exec Utf16 := do toText (← shown v)

/-- The number that `Number` makes of a value. -/
def numberOf (v : Value) : Exec Value := do call (← globalValue "Number") .undefined [v]

/-- Whether a value is an instance of a global class. -/
def isInstance (v : Value) (name : String) : Exec Bool := do instanceOf v (← globalValue name)

/-- Throws a new error of a global class. -/
def throwNew {α : Type} (name message : String) : Exec α := do
  let constructor ← globalValue name
  unless ← isConstructor constructor do throwType "not a constructor"
  throwValue (← construct constructor [.ofString message] constructor)

end Stencil.Sandbox
