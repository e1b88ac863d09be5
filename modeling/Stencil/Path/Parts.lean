/-!
# Parts of a path

A path is cut at its slashes. `parts` are all the pieces, and `names` those that name something:
empty pieces and `.` name nothing, and `..` only points back.
-/

namespace Stencil.Path

/-- Cut a list at every element equal to `mark`; there is always at least one piece. -/
def splitAt {α : Type} [DecidableEq α] (mark : α) : List α → List (List α)
  | []      => [[]]
  | a :: as =>
    match splitAt mark as with
    | []              => [[a]]
    | piece :: pieces => if a = mark then [] :: piece :: pieces else (a :: piece) :: pieces

/-- The pieces of a path between its slashes. -/
def parts (path : String) : List String :=
  (splitAt '/' path.toList).map String.ofList

/-- The pieces of a path that name an entry. -/
def names (path : String) : List String :=
  (parts path).filter fun part => part ≠ "" ∧ part ≠ "." ∧ part ≠ ".."

/-- A path written with single slashes between its names. -/
def slashForm (path : String) : String :=
  "/".intercalate (names path)

/-- Whether a path starts at the root of the file system. -/
def isAbsolute (path : String) : Bool :=
  path.toList.head? = some '/'

/-- The path reached by following `path` from the directory `base`. -/
def join (base path : String) : String :=
  if isAbsolute path then path
  else if base.isEmpty ∨ base.toList.getLast? = some '/' then base ++ path
  else base ++ "/" ++ path

/-- Whether a part of a path stands for the directory that it is in. -/
def isIdle (part : String) : Bool := part = "" || part = "."

/-- The path of what holds the entry that a path leads to, empty if nothing is known of that. -/
def parent (path : String) : String :=
  let outer := ((parts path).reverse.dropWhile isIdle).tail
  match outer.dropWhile isIdle with
  | []    =>
    match outer.getLast? with
    | some "" => "/"
    | some _  => "."
    | none    => ""
  | outer => "/".intercalate outer.reverse

end Stencil.Path
