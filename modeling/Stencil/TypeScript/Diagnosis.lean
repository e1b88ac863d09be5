import Stencil.Failure
import Stencil.Text.Blank
import Stencil.Text.Line
import Stencil.TypeScript.Parse

/-!
# Diagnosis of a source that does not parse

A source that does not fit the grammar is blamed on the least repair that makes it fit: a closing
token that is put in, or tokens that are taken out. Putting one in has a fixed cost; taking some
out costs more the more of them there are and the longer they are.
-/

namespace Stencil.TypeScript

/-! ### Pieces -/

/-- Length of the piece of text that is taken out at once. A quote that nothing closes takes the
rest of its line with it, and the start of a comment all of the rest. -/
def pieceLength (text : List Char) : Nat :=
  match name? text, number? text, string? text with
  | some n, _, _     => n
  | _, some n, _     => n
  | _, _, some n     => n
  | none, none, none =>
    match text with
    | '/' :: '*' :: _ => text.length
    | '"' :: _  => (text.takeWhile fun c => !isLineBreak c).length
    | '\'' :: _ => (text.takeWhile fun c => !isLineBreak c).length
    | _         => (longestMark text).length

/-- The pieces of a text without the white space and comments between them; `fuel` bounds their
number. -/
def pieces : (fuel start : Nat) → List Char → List Span
  | 0, _, _              => []
  | fuel + 1, start, text =>
    let blank := gap text
    let rest := text.drop blank
    if rest.isEmpty then []
    else
      let n := max 1 (pieceLength rest)
      let first := start + Text.size (text.take blank)
      let last := first + Text.size (rest.take n)
      ⟨first, last⟩ :: pieces fuel last (rest.drop n)

/-! ### Repairs -/

/-- A repair of a source. -/
inductive Repair where
  /-- Put a token in at an offset. -/
  | insertion (offset : Nat) (token : String)
  /-- Take the characters of a span out. -/
  | removal (span : Span)

/-- The source after a repair. -/
def Repair.applyTo (source : List Char) : Repair → List Char
  | .insertion offset token =>
    Text.before source offset ++ token.toList ++ Text.after source offset
  | .removal span           =>
    Text.before source span.start ++ ' ' :: Text.after source span.stop

/-- Whether a source parses. -/
def parses (source : List Char) : Bool :=
  match parse source with
  | .ok _    => true
  | .error _ => false

/-- The cost of putting a token in. -/
def insertionCost : Nat := 610

/-- The cost of taking out `count` pieces of the source in a span. -/
def removalCost (source : List Char) (span : Span) (count : Nat) : Nat :=
  500 + 100 * count + (span.stop - span.start) +
    30 * Text.countLineFeeds (span.slice source)

/-- The tokens that are put in. -/
def closingTokens : List String := [")", "]", "\x7d"]

/-- The end of the last of these pieces before `offset`. -/
def endBefore (spans : List Span) (offset : Nat) : Nat :=
  ((spans.filter fun span => span.stop ≤ offset).getLast?.map Span.stop).getD 0

/-- The closing token whose absence explains why nothing fits at `reach`. -/
def missingToken? (source : List Char) (spans : List Span) (reach : Nat) : Option Repair :=
  let offset := endBefore spans reach
  let atEnd := spans.all fun span => span.stop ≤ reach
  let found := closingTokens.find? fun token =>
    parses (Repair.applyTo source (.insertion offset token)) &&
      (!atEnd || parses (Repair.applyTo source (.insertion offset (token ++ " x"))))
  found.map (.insertion offset)

/-- Whether no statement is cut short when what follows these characters is taken out. -/
def endsStatement (before : List Char) : Bool :=
  match (Text.trimBack before).getLast? with
  | none   => true
  | some c => c == ';' || c == '\x7b' || c == '\x7d'

/-- How many pieces a removal may begin before the place where nothing fits. -/
def searchWidth : Nat := 24

/-- The removals around `reach`, each with its cost. -/
def removals (source : List Char) (spans : List Span) (reach : Nat) : List (Nat × Span) :=
  let before := spans.filter fun span => span.start ≤ reach
  let firsts := before.reverse.take searchWidth
  firsts.zipIdx.flatMap fun (first, back) =>
    let rest := spans.drop (before.length - 1)
    (rest.take 6).zipIdx.map fun (last, further) =>
      let span : Span := ⟨first.start, last.stop⟩
      (removalCost source span (back + further + 1), span)

/-- Whether a removal leaves a source that parses, without ending a statement in the middle. -/
def isRepair (source : List Char) (span : Span) : Bool :=
  let rest := (Text.after source span.stop).dropWhile isSpace
  let closed := rest.isEmpty || rest.head? == some '\x7d'
  (!closed || endsStatement (Text.before source span.start)) &&
    parses (Repair.applyTo source (.removal span))

/-- The cheapest of these removals that repairs the source. -/
def cheapestRemoval? (source : List Char) (candidates : List (Nat × Span)) :
    Option (Nat × Span) :=
  (candidates.mergeSort fun a b => a.1 ≤ b.1).find? fun candidate => isRepair source candidate.2

/-- The least repair of a source in which nothing fits at `reach`; at worst all of it is taken
out. -/
def leastRepair (source : List Char) (reach : Nat) : Repair :=
  let spans := pieces source.length 0 source
  let removal := cheapestRemoval? source (removals source spans reach)
  match missingToken? source spans reach, removal with
  | some insertion, some (cost, span) =>
    if insertionCost ≤ cost then insertion else .removal span
  | some insertion, none              => insertion
  | none, some (_, span)              => .removal span
  | none, none                        =>
    .removal ⟨(spans.head?.map Span.start).getD 0, (spans.getLast?.map Span.stop).getD 0⟩

/-! ### Faults -/

/-- What is wrong where a repair has to be made. -/
def Repair.fault (source : List Char) : Repair → TranslationFault
  | .insertion _ token => .expected token
  | .removal span      =>
    let found := Text.firstLine (span.slice source)
    if found.all Text.isBlank then .unexpectedEnd else .unexpected (String.ofList found)

/-- Where a repair has to be made. -/
def Repair.offset : Repair → Nat
  | .insertion offset _ => offset
  | .removal span       => span.start

/-- What is wrong with a source in which nothing fits at `reach`, and where. -/
def diagnose (source : List Char) (reach : Nat) : TranslationFault × Nat :=
  let repair := leastRepair source reach
  (repair.fault source, repair.offset)

end Stencil.TypeScript
