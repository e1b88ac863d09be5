/-!
# File trees

A file tree holds files, links and directories. An entry is reached by the names on the way to it
from the top of the tree, its place. `get?` and `put` are the view of a tree and the one change of
it; `files` are the places and contents of all files.
-/

namespace Stencil

inductive FileTree where
  | file (content : List UInt8)
  /-- A link to a path, which need not lead anywhere. -/
  | link (target : String)
  | directory (entries : List (String × FileTree))

namespace FileTree

/-- The names on the way from the top to an entry. -/
abbrev Place := List String

/-- A directory without entries. -/
def empty : FileTree := .directory []

def isDirectory : FileTree → Bool
  | .directory _ => true
  | _            => false

/-! ### Entries -/

/-- The entry at a place. -/
def get? : FileTree → Place → Option FileTree
  | tree, []                          => some tree
  | .directory entries, name :: place => (entries.lookup name).bind (get? · place)
  | _, _ :: _                         => none

/-- Entries with one of them changed. -/
def setEntry (name : String) (new : FileTree) : List (String × FileTree) → List (String × FileTree)
  | []                      => []
  | (other, entry) :: entries =>
    if other = name then (name, new) :: entries else (other, entry) :: setEntry name new entries

/-- The tree with something else at a place. The directory of the place has to be there, or the
tree stays as it is. -/
def put : FileTree → Place → (new : FileTree) → FileTree
  | _, [], new                             => new
  | .directory entries, name :: place, new =>
    match entries.lookup name with
    | some old => .directory (setEntry name (old.put place new) entries)
    | none     => .directory (if place.isEmpty then entries ++ [(name, new)] else entries)
  | tree, _ :: _, _                        => tree

/-! ### Files -/

mutual

/-- The places and the contents of the files that are reached through names that count. -/
def filesThrough (counts : String → Bool) : FileTree → List (Place × List UInt8)
  | .file content      => [([], content)]
  | .link _            => []
  | .directory entries => filesAmong counts entries

def filesAmong (counts : String → Bool) : List (String × FileTree) → List (Place × List UInt8)
  | []                       => []
  | (name, entry) :: entries =>
    let files := if counts name then filesThrough counts entry else []
    files.map (fun (place, content) => (name :: place, content)) ++ filesAmong counts entries

end

/-- The places and the contents of all files. -/
def files (tree : FileTree) : List (Place × List UInt8) := filesThrough (fun _ => true) tree

end FileTree

end Stencil
