import Stencil.Contract
import Stencil.Glob.Matching
import Stencil.Glob.Reader
import Stencil.Template
import Stencil.Workspace.Basic

/-!
# Templates and artifacts of a workspace

`templatePaths` are the paths of the templates below a directory: those of the files that some of the
including globs match and none of the excluding ones, except hidden ones. They are in the order of
their bytes. `loadTemplate` and `writeArtifact` read and write below the directory.
-/

namespace Stencil.Workspace

/-! ### Finding -/

/-- Names with a point in front are hidden. -/
def isHidden (name : String) : Bool := name.toList.head? = some '.'

/-- The globs that patterns write. -/
def readGlobs : List String → Except Failure (List Glob)
  | []                  => .ok []
  | pattern :: patterns =>
    match Glob.ofText pattern with
    | .error fault => .error (.discovery (.badPattern pattern fault))
    | .ok glob     => (readGlobs patterns).map (glob :: ·)

/-- The tree below a directory. A link there is followed, but not to a single file. -/
def treeBelow (w : Workspace) (directory : String) : Except FileFault FileTree := do
  match ← w.find directory false with
  | .link _ =>
    match ← w.find directory with
    | .directory entries => return .directory entries
    | _                  => return .empty
  | entry   => return entry

/-- The paths of the files of a tree that may be templates. -/
def visiblePaths (tree : FileTree) : List String :=
  (tree.filesThrough fun name => !isHidden name).map fun (place, _) => "/".intercalate place

/-- Whether globs select a path. -/
def selects (including excluding : List Glob) (path : String) : Bool :=
  including.any (·.matchesPath path) && !excluding.any (·.matchesPath path)

/-- Texts in their order, each one once. -/
def sortPaths (paths : List String) : List String :=
  (paths.mergeSort fun p q => p ≤ q).eraseDups

/-- The paths of the templates below a directory. -/
def templatePaths (w : Workspace) (directory : String) (including excluding : List String) :
    Except Failure (List String) := do
  let including ← readGlobs including
  let excluding ← readGlobs excluding
  match w.treeBelow directory with
  | .error fault => throw (.discovery (.noEntry directory fault))
  | .ok tree     => return sortPaths ((visiblePaths tree).filter (selects including excluding))

/-! ### Reading and writing -/

/-- The template at a path below a directory. -/
def loadTemplate (w : Workspace) (directory path : String) : Except Failure Template :=
  match w.readText (Path.join directory path) with
  | .ok source   => .ok (.ofPath path source)
  | .error fault => .error (.fileSystem path fault)

/-- Changes the workspace; what is refused there is a failure at a path. -/
def attempt (path : String) (change : Change Unit) : Action Workspace Unit :=
  change.adapt fun fault => .fileSystem path fault

/-- Writes an artifact below a directory. -/
def writeArtifact (directory : String) (artifact : Artifact) : Action Workspace Unit := do
  let path := Path.join directory artifact.path
  attempt (Path.parent path) (makePath (Path.parent path))
  attempt artifact.path (writeFile path (Text.utf8Bytes artifact.content.toList))

end Stencil.Workspace
