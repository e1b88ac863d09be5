import Stencil.Layout
import Stencil.Failure
import Stencil.Json.Reader
import Stencil.Text.Blank

/-!
# Settings of a run

Which files are templates, and how artifacts are written. `Wishes` are the settings as a user gives
them, which may leave any out; `Settings.resolve` completes them from the layout of the project and
brings all patterns to the form in which paths are matched.
-/

namespace Stencil

/-- Settings as they are given; none is a setting that is left out. -/
structure Wishes where
  including : Option (List String)
  excluding : Option (List String)
  pretty : Option Bool

namespace Wishes

/-- No wishes. -/
def empty : Wishes := ⟨none, none, none⟩

/-! ### Reading -/

/-- Wishes as far as they were read: the outer option tells whether a field was read. -/
structure Draft where
  including : Option (Option (List String)) := none
  excluding : Option (Option (List String)) := none
  pretty : Option (Option Bool) := none

def Draft.wishes (d : Draft) : Wishes := ⟨d.including.join, d.excluding.join, d.pretty.join⟩

open Json Reader

/-- How deeply the fields may be nested. -/
def fieldDepth : Nat := depthLimit - 1

/-- Whether the next value is null; it is taken then. -/
def takesNull : Reader Bool := do
  if (← peekToken) == some (byte 'n') then
    advance
    word ['u', 'l', 'l']
    return true
  else return false

/-- The texts of contents, if all are texts. -/
def textsOf : List Content → Option (List String)
  | []              => some []
  | .text t :: rest => (textsOf rest).map (String.ofList t :: ·)
  | _ :: _          => none

/-- One pattern or a list of patterns, or null. -/
def readPatterns : Reader (Option (List String)) := do
  if ← takesNull then return none
  let patterns := match ← content fieldDepth with
    | .text t     => some [String.ofList t]
    | .list items => textsOf items
    | .other      => none
  match patterns with
  | some patterns => return some patterns
  | none          => failSomewhere (.noVariant "PatternList")

/-- A truth value or null. -/
def readFlag : Reader (Option Bool) := do
  if ← takesNull then return none
  match ← peekToken with
  | none   => failNext .endOfValue
  | some b =>
    if b = byte 't' then
      advance
      word ['r', 'u', 'e']
      return some true
    else if b = byte 'f' then
      advance
      word ['a', 'l', 's', 'e']
      return some false
    else wrongType "a boolean"

/-- Reads fields one after another, in their order. -/
def readItems : Reader Draft := do
  if !(← hasItem true) then return {}
  let including ← readPatterns
  if !(← hasItem false) then return { including := some including }
  let excluding ← readPatterns
  if !(← hasItem false) then return { including := some including, excluding := some excluding }
  return ⟨some including, some excluding, some (← readFlag)⟩

/-- Reads a field that may be given once. -/
def readOnce {α : Type} (name : String) (old : Option α) (reader : Reader α) : Reader α := do
  if old.isSome then failSomewhere (.duplicateField name)
  colon
  reader

/-- Reads the members of an object; those with other names do not count. `fuel` bounds their
number. -/
def readMembers : (fuel : Nat) → (isFirst : Bool) → Draft → Reader Draft
  | 0, _, draft              => return draft
  | fuel + 1, isFirst, draft => do
    if ← hasMember isFirst then
      let draft ← match String.ofList (← key) with
        | "include" => do
          pure { draft with including := ← readOnce "include" draft.including readPatterns }
        | "exclude" => do
          pure { draft with excluding := ← readOnce "exclude" draft.excluding readPatterns }
        | "pretty"  => do
          pure { draft with pretty := ← readOnce "pretty" draft.pretty readFlag }
        | _         => do
          colon
          skipValue
          pure draft
      readMembers fuel false draft
    else return draft

/-- Reads wishes as an object, or as a list of its fields. -/
def readDraft : Reader Draft := placed do
  match ← peekToken with
  | none   => failNext .endOfValue
  | some b =>
    if b = byte '[' then
      advance
      enclosed readItems listEnd
    else if b = byte '\x7b' then
      advance
      enclosed (do readMembers ((← get).length + 1) true {}) objectEnd
    else wrongType "struct SettingsInput"

/-- The wishes that a text tells; one that is left out or blank tells none. -/
def ofText (text : Option String) : Except Failure Wishes :=
  let chars := Text.trimChars ((text.getD "").toList)
  if chars.isEmpty then .ok .empty
  else
    match Reader.read (whole readDraft) chars with
    | .ok draft      => .ok draft.wishes
    | .error message => .error (.settings (message ++ ": " ++ String.ofList chars))

end Wishes

/-- The settings of a run. -/
structure Settings where
  including : List String
  excluding : List String
  pretty : Bool
  deriving DecidableEq

namespace Settings

/-- A directory of the layout as it stands in patterns. -/
def directory (name : String) : String := String.ofList (Path.slashed name.toList)

/-- The settings of a project without wishes. -/
def standard (layout : Layout) : Settings where
  including :=
    [directory layout.behavior ++ "/**/*.ts", directory layout.resource ++ "/**/*.ts"]
  excluding := [directory layout.behavior ++ "/scripts/**", "**/*.d.ts"]
  pretty := true

/-- The settings that fulfil wishes; what they leave out is standard. -/
def resolve (wishes : Wishes) (layout : Layout) : Settings :=
  let s := standard layout
  { including := (wishes.including.getD s.including).map Path.normalize
    excluding := (wishes.excluding.getD s.excluding).map Path.normalize
    pretty    := wishes.pretty.getD s.pretty }

end Settings

end Stencil
