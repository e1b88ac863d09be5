import Stencil.Layout.Configuration
import Stencil.Run
import Stencil.Settings
import Stencil.Workshop
import Stencil.Workspace.Templates

/-!
# A run in a workspace

How a run reads the configuration of a project, and how it finds templates below a directory of the
workspace and writes artifacts there.
-/

namespace Stencil.Project

open Workshop (tell)

/-- A run whose output is a workspace. -/
abbrev Session := Action (Workshop Workspace)

/-- Something seen in the workspace. -/
def see {α : Type} (look : Workspace → Except Failure α) : Session α := do
  match look (← get).output with
  | .ok found      => return found
  | .error failure => throw failure

/-- Tells of an event. -/
def note (event : Event) : Session Unit := liftM (tell event : StateM (Workshop Workspace) Unit)

/-! ### Configuration -/

/-- The name of the file in the root of a project that configures it. -/
def configurationName : String := "config.json"

/-- Why a configuration cannot be used. -/
inductive ConfigurationFault where
  | missing
  | unreadable (path : String) (fault : FileFault)
  | malformed (path : String)
  deriving DecidableEq

/-- The wording of a fault. -/
def ConfigurationFault.message : ConfigurationFault → String
  | .missing               => configurationName ++ " not found in project root"
  | .unreadable path fault => "Failed to read " ++ path ++ ": " ++ fault.message
  | .malformed path        => "Failed to parse " ++ path ++ ": not a project configuration"

/-- The layout that the configuration of a project tells. -/
def readLayout (w : Workspace) (root : String) : Except ConfigurationFault Layout :=
  let path := Path.join root configurationName
  match w.find path with
  | .error _ => .error .missing
  | .ok _    =>
    match w.readText path with
    | .error fault => .error (.unreadable path fault)
    | .ok text     =>
      match Layout.ofConfiguration? text with
      | some layout => .ok layout
      | none        => .error (.malformed path)

/-- The layout of a project. If the configuration cannot be used, that is told and the layout is the
standard one. -/
def findLayout (root : String) : Session Layout := do
  match readLayout (← get).output root with
  | .ok layout      => return layout
  | .error .missing => do
    note .noConfiguration
    return .standard
  | .error fault    => do
    note (.badConfiguration fault.message)
    return .standard

/-! ### Generation -/

/-- How templates are found below a directory of the workspace. -/
def discovery (directory : String) (settings : Settings) : Discovery (Workshop Workspace) where
  discover := see (·.templatePaths directory settings.including settings.excluding)
  load := fun path => see (·.loadTemplate directory path)
  noteScanning := tell .scanning
  noteFound := fun count => tell (.found count)

/-- Generates from all templates below a directory of the workspace. -/
def generate (directory : String) (settings : Settings) : Session Totals :=
  (Workshop.services (Workspace.writeArtifact directory)).run (discovery directory settings)
    settings.pretty

end Stencil.Project
