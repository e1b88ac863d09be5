import Stencil.Text.Offset

/-!
# Edits of a text

Edits replace ranges of a text, all at once. Ranges are counted in bytes, so applying edits fails
where a range begins or ends inside a character. An edit that covers earlier ones takes their
place, and one inside an earlier edit is dropped, so only the outermost are applied.
-/

namespace Stencil

/-- An edit of the bytes from `start` up to `stop`; an insertion has an empty range. -/
structure Edit where
  start : Nat
  stop : Nat
  /-- What takes the place of the range; `none` blanks it with spaces and keeps its line
  breaks. -/
  text : Option String
  deriving DecidableEq

namespace Edit

/-- Blank a range. -/
def blank (start stop : Nat) : Edit := ⟨start, stop, none⟩

/-- Put a text in the place of a range. -/
def replace (start stop : Nat) (text : String) : Edit := ⟨start, stop, some text⟩

/-- Put a text in at an offset. -/
def insert (offset : Nat) (text : String) : Edit := ⟨offset, offset, some text⟩

/-- Whether the range is empty. -/
def isInsertion (edit : Edit) : Bool := edit.stop ≤ edit.start

/-- Whether the range of `outer` is not empty and holds that of `inner`. -/
def covers (outer inner : Edit) : Bool :=
  outer.start < outer.stop && outer.start ≤ inner.start && inner.stop ≤ outer.stop

/-- Whether an offset lies strictly inside the range. -/
def hasInside (edit : Edit) (offset : Nat) : Bool :=
  edit.start < offset && offset < edit.stop

/-- Whether `edit` takes the place of an earlier one: it covers it, and the earlier one does not
insert at its end. -/
def supersedes (edit earlier : Edit) : Bool :=
  edit.start ≤ earlier.start && earlier.stop ≤ edit.stop && earlier.start < edit.stop

/-- The order in which edits are applied. -/
def le (a b : Edit) : Bool :=
  a.start < b.start || (a.start == b.start && a.stop ≤ b.stop)

/-- A character of a blanked range. -/
def blanked (c : Char) : Char :=
  if c == '\n' || c == '\r' then c else ' '

/-- What takes the place of the range of `edit`, which holds the characters `old`. -/
def result (edit : Edit) (old : List Char) : List Char :=
  match edit.text with
  | some text => text.toList
  | none      => old.map blanked

end Edit

/-- The edits that are still to be applied, in the order they were made. -/
structure Edits where
  items : List Edit

namespace Edits

def empty : Edits := ⟨[]⟩

/-- Add an edit. -/
def push (edits : Edits) (edit : Edit) : Edits :=
  if edit.isInsertion then
    if edits.items.any fun other => other.hasInside edit.start then edits
    else ⟨edits.items ++ [edit]⟩
  else if edits.items.any fun other => other.covers edit then edits
  else ⟨(edits.items.filter fun other => !edit.supersedes other) ++ [edit]⟩

/-- The edits that remain of edits made one after another. -/
def ofList (edits : List Edit) : Edits :=
  edits.foldl push empty

/-- Apply edits in the order of their ranges to the text from `cursor` on; `none` where a range
cuts a character or leaves the text. -/
def applyFrom? : (cursor : Nat) → (text : List Char) → List Edit → Option (List Char)
  | _, text, []                 => some text
  | cursor, text, edit :: edits =>
    if edit.start < cursor then applyFrom? cursor text edits
    else do
      let (kept, text) ← Text.cut? text (edit.start - cursor)
      let (old, text) ← Text.cut? text (edit.stop - edit.start)
      let rest ← applyFrom? edit.stop text edits
      return kept ++ edit.result old ++ rest

/-- Apply all edits to a text. -/
def applyTo? (edits : Edits) (text : List Char) : Option (List Char) :=
  applyFrom? 0 text (edits.items.mergeSort Edit.le)

end Edits

end Stencil
