import Stencil.Failure
import Stencil.FileTree
import Stencil.Path.Parts
import Stencil.Text.Utf8

/-!
# The workspace

A file tree as it is seen from one of its directories. Paths are followed from there, or from the
top of the tree if they are absolute, through links wherever these lead.

An operation gives what it finds or why it is refused. A `Change` goes step by step, and the steps
before a refusal stay done.
-/

namespace Stencil

open FileTree (Place)

/-- A file tree and the directory in it from which paths start. -/
structure Workspace where
  tree : FileTree
  here : Place

namespace Workspace

/-! ### Following paths -/

/-- How many links a path may lead through. -/
def linkLimit : Nat := 40

/-- How many bytes a name may have. -/
def nameLimit : Nat := 255

/-- The place where a path starts. -/
def start (w : Workspace) (path : String) : Place := if Path.isAbsolute path then [] else w.here

/-- The place that parts of a path lead to from a directory. There need not be anything, but the
directory of the place is there. `links` bounds the number of links on the way, and `throughLast`
tells whether a link at the end is followed. -/
def follow (w : Workspace) (throughLast : Bool) (links : Nat) (place : Place)
    (parts : List String) : Except FileFault Place :=
  match parts with
  | []           => .ok place
  | part :: rest =>
    if Path.isIdle part then follow w throughLast links place rest
    else if part = ".." then follow w throughLast links place.dropLast rest
    else if part.utf8ByteSize > nameLimit then .error .nameTooLong
    else
      let next := place ++ [part]
      match w.tree.get? next with
      | some (.directory _) => follow w throughLast links next rest
      | some (.file _)      => if rest.isEmpty then .ok next else .error .notADirectory
      | some (.link target) =>
        if rest.isEmpty && !throughLast then .ok next
        else
          match links with
          | 0         => .error .tooManyLinks
          | links + 1 =>
            let place := if Path.isAbsolute target then [] else place
            follow w throughLast links place (Path.parts target ++ rest)
      | none                => if rest.isEmpty then .ok next else .error .notFound
  termination_by (links, parts.length)

/-- The place that a path leads to. -/
def locate (w : Workspace) (path : String) (throughLast : Bool := true) : Except FileFault Place :=
  if path.toList.contains '\x00' then .error .nulInName
  else if path.isEmpty then .error .notFound
  else follow w throughLast linkLimit (w.start path) (Path.parts path)

/-- The entry that a path leads to. -/
def find (w : Workspace) (path : String) (throughLast : Bool := true) :
    Except FileFault FileTree := do
  match w.tree.get? (← w.locate path throughLast) with
  | some entry => return entry
  | none       => throw .notFound

/-- Whether a path leads to a directory. -/
def isDirectory (w : Workspace) (path : String) : Bool :=
  match w.find path with
  | .ok entry => entry.isDirectory
  | .error _  => false

/-! ### Reading -/

/-- The text that bytes write, if they write one. -/
def textOf? (bytes : List UInt8) : Option String :=
  let text := Text.decodeLossy bytes
  if Text.utf8Bytes text = bytes then some (String.ofList text) else none

/-- The text of a file. -/
def readText (w : Workspace) (path : String) : Except FileFault String := do
  match ← w.find path with
  | .file content =>
    match textOf? content with
    | some text => return text
    | none      => throw .notText
  | .directory _  => throw .isADirectory
  | .link _       => throw .notFound

/-- The place of the directory that parts lead to from a directory. -/
def directoryAt (w : Workspace) (place : Place) (parts : List String) : Except FileFault Place := do
  let place ← w.follow true linkLimit place parts
  match w.tree.get? place with
  | some (.directory _) => return place
  | some _              => throw .notADirectory
  | none                => throw .notFound

/-- Whether parts lead to a directory. -/
def isDirectoryAt (w : Workspace) (place : Place) (parts : List String) : Bool :=
  match w.directoryAt place parts with
  | .ok _    => true
  | .error _ => false

/-! ### Changes -/

/-- A change of a workspace that may be refused on the way. -/
abbrev Change := ExceptT FileFault (StateM Workspace)

/-- Something seen in the present workspace. -/
def Change.see {α : Type} (look : Workspace → Except FileFault α) : Change α := do
  match look (← get) with
  | .ok found    => return found
  | .error fault => throw fault

/-- Puts an entry at a place. -/
def Change.put (place : Place) (entry : FileTree) : Change Unit :=
  modify fun w => { w with tree := w.tree.put place entry }

open Change (see)

/-- Makes a directory of this name within the one that parts lead to. -/
def makeDirectory (place : Place) (parts : List String) (name : String) : Change Unit := do
  let outer ← see (·.directoryAt place parts)
  if name = ".." then throw .exists
  if name.utf8ByteSize > nameLimit then throw .nameTooLong
  if ((← get).tree.get? (outer ++ [name])).isSome then throw .exists
  Change.put (outer ++ [name]) .empty

/-- Makes the directory that parts lead to, unless it is there, and before it those on the way to
it. The parts are given last one first. -/
def makeDirectories (place : Place) : List String → Change Unit
  | []            => pure ()
  | name :: outer =>
    if Path.isIdle name then makeDirectories place outer
    else
      let unlessThere (fault : FileFault) : Change Unit := do
        if !(← get).isDirectoryAt place (outer.reverse ++ [name]) then throw fault
      tryCatch (makeDirectory place outer.reverse name) fun fault =>
        if fault = .notFound then do
          makeDirectories place outer
          tryCatch (makeDirectory place outer.reverse name) unlessThere
        else unlessThere fault

/-- Refuses a path that no entry can have. -/
def demandName (path : String) : Change Unit :=
  if path.toList.contains '\x00' then throw .nulInName else pure ()

/-- Makes the directory that a path leads to, and those on the way to it. -/
def makePath (path : String) : Change Unit := do
  demandName path
  makeDirectories ((← get).start path) (Path.parts path).reverse

/-- Writes a file, in place of the one that was there. A path that ends in a separator or in dots
leads to a directory whatever is there. -/
def writeFile (path : String) (content : List UInt8) : Change Unit := do
  demandName path
  let ends := (Path.parts path).reverse.dropWhile (· = "")
  if (Path.parts path).getLast?.any fun name => Path.isIdle name || name = ".." then
    let _ ← see fun w => w.directoryAt (w.start path) ends.tail.reverse
    throw .isADirectory
  let place ← see (·.locate path)
  if ((← get).tree.get? place).any (·.isDirectory) then throw .isADirectory
  Change.put place (.file content)

/-- Makes a link; there must not be anything of its name. -/
def makeLink (path target : String) : Change Unit := do
  let place ← see (·.locate path false)
  if ((← get).tree.get? place).isSome then throw .exists
  Change.put place (.link target)

end Workspace

end Stencil
