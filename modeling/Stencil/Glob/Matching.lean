import Stencil.Glob.Basic
import Stencil.Text.Utf8

/-!
# What globs match

A glob is matched against the bytes of a path. `Glob.advance` tells what may be left of texts after
a piece has matched at their front; a glob matches if nothing may be left in the end.
-/

namespace Stencil.Glob

/-- The bytes of a path, or some of them from its end. -/
abbrev Bytes := List UInt8

/-- The byte of the separator. -/
def separator : UInt8 := 47

/-! ### Single pieces -/

/-- What is left of a text after a prefix. -/
def dropBytes? (front text : Bytes) : Option Bytes :=
  if front.isPrefixOf text then some (text.drop front.length) else none

/-- A text with all texts that it ends with. -/
def tailsOf : Bytes → List Bytes
  | []          => [[]]
  | text@(_ :: rest) => text :: tailsOf rest

/-- What may be left of a text after a part of a name. -/
def afterPart : Bytes → List Bytes
  | []          => [[]]
  | text@(b :: rest) => if b = separator then [text] else text :: afterPart rest

/-- What follows the separators of a text. -/
def afterSeparators : Bytes → List Bytes
  | []        => []
  | b :: rest => if b = separator then rest :: afterSeparators rest else afterSeparators rest

/-- The bytes of a range. The bytes of a character stand one by one, and only between the last byte
of the first character and the first byte of the last one there is a range. -/
def byteRanges (first last : Char) : List (UInt8 × UInt8) :=
  let front := Text.utf8Bytes [first]
  let back := Text.utf8Bytes [last]
  if first = last then front.map fun b => (b, b)
  else
    front.dropLast.map (fun b => (b, b)) ++
      [(front.getLastD 0, back.headD 0)] ++ back.tail.map (fun b => (b, b))

/-- Whether a byte lies in some of the ranges. -/
def isWithin (ranges : List (Char × Char)) (b : UInt8) : Bool :=
  ranges.any fun (first, last) => (byteRanges first last).any fun (low, high) => low ≤ b && b ≤ high

/-! ### Patterns -/

mutual

/-- Whether a piece is a choice between nothing. -/
def Piece.isVoid : Piece → Bool
  | .choice branches => areVoidBranches branches
  | _                => false

def areVoid : List Piece → Bool
  | []              => true
  | piece :: pieces => piece.isVoid && areVoid pieces

def areVoidBranches : List (List Piece) → Bool
  | []                 => true
  | branch :: branches => areVoid branch && areVoidBranches branches

end

mutual

/-- What may be left of texts after a piece. A branch of a choice that is empty is no choice, unless
there is no other. -/
def Piece.advance : Piece → List Bytes → List Bytes
  | .literal c, texts            => texts.filterMap (dropBytes? (Text.utf8Bytes [c]))
  | .anyByte, texts              => texts.filterMap fun
    | []        => none
    | b :: rest => if b = separator then none else some rest
  | .anyPart, texts              => texts.flatMap afterPart
  | .leading, texts              => texts.flatMap fun text => text :: afterSeparators text
  | .trailing, texts             => (texts.filterMap (dropBytes? [separator])).flatMap tailsOf
  | .between, texts              =>
    (texts.filterMap (dropBytes? [separator])).flatMap fun text => text :: afterSeparators text
  | .set isNegated ranges, texts => texts.filterMap fun
    | []        => none
    | b :: rest => if isWithin ranges b ≠ isNegated then some rest else none
  | .choice branches, texts      =>
    if areVoidBranches branches then texts else advanceBranches branches texts

/-- What may be left of texts after pieces, one behind another. -/
def advance : List Piece → List Bytes → List Bytes
  | [], texts              => texts
  | piece :: pieces, texts => advance pieces (piece.advance texts).eraseDups

/-- What may be left of texts after one of the branches that are not empty. -/
def advanceBranches : List (List Piece) → List Bytes → List Bytes
  | [], _                     => []
  | branch :: branches, texts =>
    (if areVoid branch then [] else advance branch texts) ++ advanceBranches branches texts

end

/-- Whether a piece is one character. -/
def Piece.isLiteral : Piece → Bool
  | .literal _ => true
  | _          => false

/-- Whether a piece is this character. -/
def Piece.isChar (c : Char) : Piece → Bool
  | .literal d => c = d
  | _          => false

/-- Whether a glob describes names by an extension that is only a point. No name has such an
extension. Globs of characters alone describe no extension but a path or its end. -/
def asksBareExtension (glob : Glob) : Bool :=
  let isPath := glob.pieces.all Piece.isLiteral
  let isPathEnd := match glob.pieces with
    | .leading :: pieces => pieces.all Piece.isLiteral && pieces.any (Piece.isChar '/')
    | _                  => false
  (glob.pieces.getLast?.any (Piece.isChar '.')) && !isPath && !isPathEnd

/-- Whether a glob matches a path. -/
def matchesPath (glob : Glob) (path : String) : Bool :=
  match glob.pieces with
  | [.leading] => true
  | pieces     =>
    !glob.asksBareExtension && (advance pieces [Text.utf8Bytes path.toList]).any List.isEmpty

end Stencil.Glob
