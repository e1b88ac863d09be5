import Stencil.Failure
import Stencil.Glob.Basic

/-!
# Reading globs

`Glob.ofText` reads a pattern. Two stars stand for any directories only where they are a whole
component of the path: at the front, at the end or between separators. Elsewhere they are two single
stars. A backslash takes the character behind it literally.
-/

namespace Stencil.Glob

/-! ### Sets -/

/-- The ranges of a set, last one first, and the number of characters up to its closing bracket.
`isFirst` tells whether nothing of the set was read, and `isOpen` whether a dash waits for the end
of the last range. -/
def readRanges (isFirst isOpen : Bool) (found : List (Char × Char)) (used : Nat) :
    List Char → Except GlobFault (List (Char × Char) × Nat)
  | []        => .error .unclosedSet
  | c :: rest =>
    if c = ']' ∧ !isFirst then
      .ok (if isOpen then ('-', '-') :: found else found, used + 1)
    else if c = '-' ∧ !isFirst ∧ !isOpen then
      readRanges false true found (used + 1) rest
    else
      match isOpen, found with
      | true, (first, _) :: others =>
        if c < first then .error (.invalidRange first c)
        else readRanges false false ((first, c) :: others) (used + 1) rest
      | _, found => readRanges false false ((c, c) :: found) (used + 1) rest

/-- The set behind an opening bracket and the number of its characters. -/
def readSet : List Char → Except GlobFault (Piece × Nat)
  | []        => .error .unclosedSet
  | c :: rest =>
    if c = '!' ∨ c = '^' then
      (readRanges true false [] 1 rest).map fun (ranges, used) => (.set true ranges.reverse, used)
    else
      (readRanges true false [] 0 (c :: rest)).map fun (ranges, used) =>
        (.set false ranges.reverse, used)

/-! ### Patterns -/

/-- A group of patterns that is not closed yet. -/
structure Group where
  /-- The patterns before the present one. -/
  branches : List (List Piece)
  /-- The pieces before the group, last one first. -/
  outer : List Piece

/-- What was read of a pattern. -/
structure Draft where
  /-- The pieces of the present branch, last one first. -/
  pieces : List Piece
  /-- The groups that are open, innermost first. -/
  groups : List Group

namespace Draft

def push (d : Draft) (piece : Piece) : Draft := { d with pieces := piece :: d.pieces }

/-- Two stars that are not a component of the path. -/
def pushStars (d : Draft) : Draft := (d.push .anyPart).push .anyPart

/-- Two stars that are a component take the place of the separator before them; behind others of
their kind they add nothing. -/
def pushComponent (d : Draft) (piece : Piece) : Draft :=
  match d.pieces with
  | .leading :: _    => d
  | .trailing :: _   => d
  | _ :: pieces      => { d with pieces := piece :: pieces }
  | []               => d.push piece

def openGroup (d : Draft) : Draft := ⟨[], ⟨[], d.pieces⟩ :: d.groups⟩

/-- A comma begins the next branch of a group; outside of groups it is a character. -/
def comma (d : Draft) : Draft :=
  match d.groups with
  | []              => d.push (.literal ',')
  | group :: groups => ⟨[], ⟨group.branches ++ [d.pieces.reverse], group.outer⟩ :: groups⟩

def closeGroup (d : Draft) : Except GlobFault Draft :=
  match d.groups with
  | []              => .error .unopenedGroup
  | group :: groups =>
    .ok ⟨.choice (group.branches ++ [d.pieces.reverse]) :: group.outer, groups⟩

/-- Whether two stars behind a character may be a component of the path. -/
def mayBeginComponent (d : Draft) (previous : Option Char) : Bool :=
  previous = some '/' || (!d.groups.isEmpty && (previous = some ',' || previous = some '\x7b'))

/-- Whether a branch of a group ends before a character. -/
def endsBefore (d : Draft) (c : Char) : Bool :=
  !d.groups.isEmpty && (c = ',' || c = '\x7d')

end Draft

/-- The draft with two stars before some text, and how many characters of that text belong to
them. -/
def readStars (d : Draft) (previous : Option Char) (text : List Char) : Draft × Nat :=
  if d.pieces.isEmpty then
    match text with
    | []       => (d.push .leading, 0)
    | '/' :: _ => (d.push .leading, 1)
    | _        => (d.pushStars, 0)
  else if !d.mayBeginComponent previous then (d.pushStars, 0)
  else
    match text with
    | []       => (d.pushComponent .trailing, 0)
    | '/' :: _ => (d.pushComponent .between, 1)
    | c :: _   => if d.endsBefore c then (d.pushComponent .trailing, 0) else (d.pushStars, 0)

/-- The pieces of a pattern behind a draft; `previous` is the character before. -/
def readPieces (d : Draft) (previous : Option Char) (text : List Char) :
    Except GlobFault (List Piece) :=
  match text with
  | []                 => if d.groups.isEmpty then .ok d.pieces.reverse else .error .unclosedGroup
  | '*' :: '*' :: rest =>
    let (d, used) := readStars d previous rest
    readPieces d (some (if used = 0 then '*' else '/')) (rest.drop used)
  | '*' :: rest        => readPieces (d.push .anyPart) (some '*') rest
  | '?' :: rest        => readPieces (d.push .anyByte) (some '?') rest
  | '[' :: rest        =>
    match readSet rest with
    | .error fault       => .error fault
    | .ok (piece, used)  => readPieces (d.push piece) (some ']') (rest.drop used)
  | '\x7b' :: rest     => readPieces d.openGroup (some '\x7b') rest
  | '\x7d' :: rest     =>
    match d.closeGroup with
    | .error fault => .error fault
    | .ok d        => readPieces d (some '\x7d') rest
  | ',' :: rest        => readPieces d.comma (some ',') rest
  | ['\\']             => .error .danglingEscape
  | '\\' :: c :: rest  => readPieces (d.push (.literal c)) (some c) rest
  | c :: rest          => readPieces (d.push (.literal c)) (some c) rest
  termination_by text.length
  decreasing_by all_goals simp only [List.length_cons, List.length_drop]; omega

/-- The glob that a pattern writes. -/
def ofText (pattern : String) : Except GlobFault Glob :=
  (readPieces ⟨[], []⟩ none pattern.toList).map Glob.mk

end Stencil.Glob
