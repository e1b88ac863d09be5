import Stencil.Command.Arguments
import Stencil.Journal.Filter
import Stencil.Project

/-!
# The command

`Command.run` is the whole command: it takes arguments, an environment and a workspace, and gives
the lines of the log, the workspace as it is afterwards, and a code that tells how it went.
-/

namespace Stencil.Command

open Project (Session note)

/-- What a run of the command leaves behind. -/
structure Outcome where
  /-- Zero if all went well. -/
  code : Nat
  lines : List String
  workspace : Workspace

/-! ### The environment -/

/-- The values of variables by their names. -/
abbrev Environment := List (String × String)

/-- The value of a variable; the last one given counts. -/
def Environment.value? (environment : Environment) (name : String) : Option String :=
  environment.reverse.lookup name

/-- The variable for the root of the project. -/
def rootVariable : String := "ROOT_DIR"

/-- The variable for the filter of the log. -/
def filterVariable : String := "RUST_LOG"

/-- The filter that the environment tells; one that is not well written does not count. -/
def filterOf (environment : Environment) : Journal.Filter :=
  ((environment.value? filterVariable).bind Journal.Filter.ofText?).getD .standard

/-! ### Texts about the command -/

def versionLines : List String := ["packgen 0.1.0"]

def helpLines (environment : Environment) : List String :=
  ["Generate Bedrock add-on JSON artifacts from small TypeScript templates",
   "",
   "Usage: packgen [OPTIONS] [SETTINGS]",
   "",
   "Arguments:",
   "  [SETTINGS]  Settings as a JSON object, e.g. '\x7b\"include\": \"BP/**/*.ts\", " ++
     "\"pretty\": false\x7d'",
   "",
   "Options:",
   "      --root-dir <ROOT_DIR>        Project root containing config.json [env: ROOT_DIR=" ++
     (environment.value? rootVariable).getD "" ++ "]",
   "      --working-dir <WORKING_DIR>  Directory to scan for templates and write artifacts into " ++
     "(defaults to the current directory)",
   "  -h, --help                       Print help",
   "  -V, --version                    Print version"]

/-! ### Runs -/

/-- Why a run of the command stops. -/
inductive Stop where
  | noProjectRoot
  | failure (cause : Failure)
  deriving DecidableEq

/-- The wording of the reason. -/
def Stop.message : Stop → String
  | .noProjectRoot => "ROOT_DIR environment variable not set"
  | .failure cause => cause.fullMessage

/-- Generates in a directory for a project. -/
def generateIn (directory projectRoot : String) (settings : Option String) : Session Totals := do
  note .started
  note (.projectRoot projectRoot)
  note (.workingDirectory directory)
  let wishes ← match Wishes.ofText settings with
    | .ok wishes     => pure wishes
    | .error failure => throw failure
  let layout ← Project.findLayout projectRoot
  note (.packs layout.behavior layout.resource)
  Project.generate directory (Settings.resolve wishes layout)

/-- Generates as arguments tell, from a directory on. -/
def generate (a : Arguments) : Workshop Workspace → Except Stop Totals × Workshop Workspace :=
  fun w =>
    let here := "/" ++ "/".intercalate w.output.here
    match a.projectRoot with
    | none      => (.error .noProjectRoot, w)
    | some root =>
      let (result, w) := (generateIn (a.directory.getD here) root a.settings).run w
      (result.mapError .failure, w)

/-- The last event of a run, if there is something to tell. A run that breaks off tells nothing. -/
def lastEvent? : Except Stop Totals → Option Event
  | .error (.failure (.brokenOff _)) => none
  | .error stop => some (.failed stop.message)
  | .ok totals  => if totals.templates > 0 then some (.generated totals.artifacts) else none

/-- The code that tells how a run went. -/
def codeOf : Except Stop Totals → Nat
  | .ok _                            => 0
  | .error (.failure (.brokenOff _)) => 101
  | .error _                         => 1

/-- Runs the command. -/
def run (arguments : List String) (environment : Environment) (workspace : Workspace) : Outcome :=
  match Request.ofArguments (environment.value? rootVariable) arguments with
  | .misuse     => ⟨2, [], workspace⟩
  | .help       => ⟨0, helpLines environment, workspace⟩
  | .version    => ⟨0, versionLines, workspace⟩
  | .generate a =>
    let (result, w) := generate a (.opened workspace)
    let events := w.journal.toList ++ (lastEvent? result).toList
    ⟨codeOf result, (filterOf environment).lines events, w.output⟩

end Stencil.Command
