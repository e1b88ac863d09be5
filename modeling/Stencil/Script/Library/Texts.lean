import Stencil.Script.Library.Builtin
import Stencil.Text.Case
import Stencil.Text.Normal

/-!
# Texts

The members of texts. Those that search by a regular expression leave the work to its members.
-/

namespace Stencil.Script.Library

/-- The text of a receiver. -/
def thisText (i : Invocation) : Exec Utf16 := do
  if i.this.isNullish then throwType "cannot convert 'null' or 'undefined' to text"
  toText i.this

/-- The text that a value is or holds. -/
def ownText (v : Value) : Exec Utf16 := do
  match v with
  | .text t   => return t
  | .object r =>
    match ← kindOf r with
    | .text t => return t
    | _       => throwType "value is not a text"
  | _         => throwType "value is not a text"

def makeText (i : Invocation) : Exec Value := do
  let text ← match i.arguments with
    | []             => pure .empty
    | .symbol id :: _ =>
      if i.newTarget.isUndefined then
        pure (Utf16.ofString "Symbol(" ++ (← descriptionOf id).getD .empty ++ Utf16.ofString ")")
      else toText (.symbol id)
    | v :: _         => toText v
  if i.newTarget.isUndefined then return .text text
  return .object (← allocateFor i.newTarget .string (.text text))

/-! ### Substitutions in replacements -/

/-- What a match gives to a replacement. -/
structure Replacement where
  matched : Utf16
  text : Utf16
  position : Nat
  captures : List Value
  groups : Value

/-- The capture of a number, from 1 on. -/
def Replacement.capture? (r : Replacement) (n : Nat) : Option Value :=
  if n = 0 then none else r.captures[n - 1]?

/-- The text of a capture. -/
def captureText (v : Value) : Exec Utf16 := if v.isUndefined then return .empty else toText v

/-- The value of a decimal digit. -/
def unitDigit? (u : Option UInt16) : Option Nat :=
  match u with
  | some u => if 0x30 ≤ u && u ≤ 0x39 then some (u.toNat - 0x30) else none
  | none   => none

/-- A replacement with what stands after its dollar signs put in; `fuel` bounds its length. -/
def Replacement.expand (r : Replacement) (template : Utf16) : (fuel i : Nat) → List Utf16 →
    Exec Utf16
  | 0, _, pieces        => return Utf16.join pieces.reverse
  | fuel + 1, i, pieces => do
    match template.at? i with
    | none   => return Utf16.join pieces.reverse
    | some u =>
      if u != 0x24 then r.expand template fuel (i + 1) (.ofUnit u :: pieces)
      else
        match template.at? (i + 1) with
        | some 0x24 => r.expand template fuel (i + 2) (.ofUnit 0x24 :: pieces)
        | some 0x26 => r.expand template fuel (i + 2) (r.matched :: pieces)
        | some 0x60 => r.expand template fuel (i + 2) (r.text.slice 0 r.position :: pieces)
        | some 0x27 =>
          r.expand template fuel (i + 2)
            (r.text.slice (r.position + r.matched.size) r.text.size :: pieces)
        | some 0x3C =>
          match template.indexOf? (.ofString ">") (i + 2) with
          | some stop =>
            if r.groups.isUndefined then r.expand template fuel (i + 1) (.ofUnit u :: pieces)
            else
              let name := template.slice (i + 2) stop
              let v ← getOf r.groups (.ofText name)
              r.expand template fuel (stop + 1) ((← captureText v) :: pieces)
          | none      => r.expand template fuel (i + 1) (.ofUnit u :: pieces)
        | next      =>
          match unitDigit? next with
          | none   => r.expand template fuel (i + 1) (.ofUnit u :: pieces)
          | some a =>
            let two := (unitDigit? (template.at? (i + 2))).map fun b => 10 * a + b
            match two.bind r.capture?, r.capture? a with
            | some v, _    => r.expand template fuel (i + 3) ((← captureText v) :: pieces)
            | none, some v => r.expand template fuel (i + 2) ((← captureText v) :: pieces)
            | none, none   => r.expand template fuel (i + 1) (.ofUnit u :: pieces)

/-- What replaces a match: the answer of a function, or a text with its substitutions. -/
def Replacement.result (r : Replacement) (replacement : Value) : Exec Utf16 := do
  if ← isCallable replacement then
    let groups := if r.groups.isUndefined then [] else [r.groups]
    toText (← call replacement .undefined
      (.text r.matched :: r.captures ++ [.ofNat r.position, .text r.text] ++ groups))
  else
    let template ← toText replacement
    r.expand template (template.size + 1) 0 []

/-! ### Searching -/

/-- The offsets where a piece stands, none overlapping another; `fuel` bounds their number. -/
def occurrences (text piece : Utf16) : (fuel i : Nat) → List Nat
  | 0, _        => []
  | fuel + 1, i =>
    match text.indexOf? piece i with
    | some at_ => at_ :: occurrences text piece fuel (at_ + max 1 piece.size)
    | none     => []

/-- Replaces the occurrences of a piece. -/
def replacePieces (text piece : Utf16) (replacement : Value) (places : List Nat) : Exec Value := do
  let (pieces, stop) ← places.foldlM (fun (pieces, from_) at_ => do
    let new ← Replacement.result ⟨piece, text, at_, [], .undefined⟩ replacement
    return (new :: text.slice from_ at_ :: pieces, at_ + piece.size)) (([] : List Utf16), 0)
  return .text (Utf16.join (text.slice stop text.size :: pieces).reverse)

/-- A text, which must not be a regular expression. -/
def plainPiece (v : Value) : Exec Utf16 := do
  match v with
  | .object r =>
    let flag ← get r (.ofSymbol .matching)
    let isRegex ← if flag.isUndefined then
        match ← kindOf r with
        | .regex _ _ _ => pure true
        | _            => pure false
      else pure flag.toBool
    if isRegex then throwType "argument must not be a regular expression"
  | _ => pure ()
  toText v

/-- The member of an argument for a symbol, if the argument is not nothing. -/
def symbolMember (v : Value) (symbol : WellKnown) : Exec (Option Value) := do
  match v with
  | .object _ => methodOfValue v (.ofSymbol symbol)
  | _         => return none

/-- Leaves a search to a regular expression that is made from an argument. -/
def delegateToRegex (i : Invocation) (symbol : WellKnown) (flags : String) : Exec Value := do
  if i.this.isNullish then throwType "cannot convert 'null' or 'undefined' to text"
  match ← symbolMember (i.arg 0) symbol with
  | some f => call f (i.arg 0) [i.this]
  | none   =>
    let text ← toText i.this
    let source ← if (i.arg 0).isUndefined then pure .empty else toText (i.arg 0)
    let regex ← newRegex source (.ofString flags) Standard.regExp.proto
    call (← getOf regex (.ofSymbol symbol)) regex [.text text]

/-! ### Parts -/

/-- A text between two offsets in either order. -/
def between (text : Utf16) (a b : Nat) : Value := .text (text.slice (min a b) (max a b))

/-- A text lengthened to a size by copies of another. -/
def padding (i : Invocation) (atStart : Bool) : Exec Value := do
  let text ← thisText i
  let size ← toLength (i.arg 0)
  let filler ← if (i.arg 1).isUndefined then pure (.ofString " ") else toText (i.arg 1)
  if size ≤ text.size || filler.isEmpty then return .text text
  let missing := size - text.size
  if missing > 1 <<< 29 then throwRange "text is too long"
  let pad := (filler.repeated (missing / filler.size + 1)).slice 0 missing
  return .text (if atStart then pad ++ text else text ++ pad)

/-- Whether a unit is space around texts. -/
def isSpaceUnit (u : UInt16) : Bool :=
  !(0xD800 ≤ u && u ≤ 0xDFFF) && NumberText.isBlank (Char.ofNat u.toNat)

/-- A text without the space at its start or its end. -/
def trimUnits (text : Utf16) (atStart atEnd : Bool) : Utf16 :=
  let units := text.units.toList
  let units := if atStart then units.dropWhile isSpaceUnit else units
  let units := if atEnd then (units.reverse.dropWhile isSpaceUnit).reverse else units
  ⟨units.toArray⟩

/-- The text with its surrogates that stand alone replaced. -/
def wellFormed (text : Utf16) : Utf16 :=
  .ofCodePoints (text.codePoints.map fun n => if Utf16.isSurrogate n then 0xFFFD else n)

/-- A text within an element of markup. -/
def markup (name element field : String) : Builtin :=
  method name (if field.isEmpty then 0 else 1) fun i => do
    let text ← thisText i
    let quote : Utf16 := .ofString "\""
    let start ← if field.isEmpty then pure (Utf16.ofString ("<" ++ element))
      else do
        let value ← toText (i.arg 0)
        let escaped ← replacePieces value quote (.ofString "&quot;")
          (occurrences value quote (value.size + 1) 0)
        let escaped ← toText escaped
        pure (Utf16.ofString ("<" ++ element ++ " " ++ field ++ "=\"") ++ escaped ++ quote)
    return .text (Utf16.join [start, .ofString ">", text, .ofString ("</" ++ element ++ ">")])

def textStatics : List Builtin := [
  method "fromCharCode" 1 fun i => do
    let units ← i.arguments.mapM fun v => do
      return UInt16.ofNat (residue 16 (← toNumber v))
    return .text ⟨units.toArray⟩,
  method "fromCodePoint" 1 fun i => do
    let points ← i.arguments.mapM fun v => do
      let x ← toNumber v
      if !(0 ≤ x && x ≤ 1114111 && x.floor == x) then throwRange "invalid code point"
      return x.toUInt64.toNat
    return .text (.ofCodePoints points),
  method "raw" 1 fun i => do
    let raw ← toObject (← getOf (.object (← toObject (i.arg 0))) (.ofString "raw"))
    let length ← lengthOf raw
    let pieces ← foldRange (fun pieces n => do
      let piece ← toText (← get raw (.ofNat n))
      let value ← if n + 1 < length && n + 1 < i.arguments.length then toText (i.arg (n + 1))
        else pure .empty
      return value :: piece :: pieces) length 0 []
    return .text (Utf16.join pieces.reverse)]

/-- The pieces of a text between separators. -/
def splitText (text separator : Utf16) (limit : Nat) : List Utf16 :=
  if separator.isEmpty then
    (text.units.toList.take limit).map Utf16.ofUnit
  else
    let places := occurrences text separator (text.size + 1) 0
    let starts := 0 :: places.map (· + separator.size)
    ((starts.zip (places ++ [text.size])).map fun (a, b) => text.slice a b).take limit

/-- The greatest number of pieces that an argument allows. -/
def limitArg (v : Value) : Exec Nat := do
  if v.isUndefined then return (1 <<< 32) - 1
  return toUint32 (← toNumber v)

def textMethods : List Builtin := [
  method "at" 1 fun i => do
    let text ← thisText i
    let x ← toInteger (i.arg 0)
    let x := if x < 0 then x + text.size.toFloat else x
    if x < 0 then return .undefined
    match text.at? (clampLength x) with
    | some u => return .text (.ofUnit u)
    | none   => return .undefined,
  method "charAt" 1 fun i => do
    let text ← thisText i
    let x ← toInteger (i.arg 0)
    if x < 0 then return .text .empty
    match text.at? (clampLength x) with
    | some u => return .text (.ofUnit u)
    | none   => return .text .empty,
  method "charCodeAt" 1 fun i => do
    let text ← thisText i
    let x ← toInteger (i.arg 0)
    if x < 0 then return .number NumberText.nan
    match text.at? (clampLength x) with
    | some u => return .ofNat u.toNat
    | none   => return .number NumberText.nan,
  method "codePointAt" 1 fun i => do
    let text ← thisText i
    let x ← toInteger (i.arg 0)
    if x < 0 then return .undefined
    match text.codePointAt? (clampLength x) with
    | some (n, _) => return .ofNat n
    | none        => return .undefined,
  method "concat" 1 fun i => do
    let text ← thisText i
    return .text (Utf16.join (text :: (← i.arguments.mapM toText))),
  method "endsWith" 1 fun i => do
    let text ← thisText i
    let piece ← plainPiece (i.arg 0)
    let stop ← if (i.arg 1).isUndefined then pure text.size
      else do pure (min text.size (clampLength (← toInteger (i.arg 1))))
    return .bool (piece.size ≤ stop && text.hasAt piece (stop - piece.size)),
  method "includes" 1 fun i => do
    let text ← thisText i
    let piece ← plainPiece (i.arg 0)
    let start := clampLength (← toInteger (i.arg 1))
    return .bool (text.indexOf? piece (min start text.size)).isSome,
  method "indexOf" 1 fun i => do
    let text ← thisText i
    let piece ← toText (i.arg 0)
    let start := min text.size (clampLength (← toInteger (i.arg 1)))
    match text.indexOf? piece start with
    | some n => return .ofNat n
    | none   => return .number (-1),
  method "isWellFormed" 0 fun i => do
    return .bool ((← thisText i).codePoints.all fun n => !Utf16.isSurrogate n),
  method "lastIndexOf" 1 fun i => do
    let text ← thisText i
    let piece ← toText (i.arg 0)
    let x ← toNumber (i.arg 1)
    let start := if x.isNaN then text.size else min text.size (clampLength (integral x))
    if text.size < piece.size then return .number (-1)
    match text.lastIndexOf? piece (min start (text.size - piece.size)) with
    | some n => return .ofNat n
    | none   => return .number (-1),
  method "localeCompare" 1 fun i => do
    let a ← thisText i
    let b ← toText (i.arg 0)
    return .number (if a.lt b then -1 else if b.lt a then 1 else 0),
  method "match" 1 fun i => delegateToRegex i .matching "",
  method "matchAll" 1 fun i => do
    match i.arg 0 with
    | .object r =>
      match ← kindOf r with
      | .regex _ _ _ =>
        let flags ← toText (← getNamed r "flags")
        if (flags.indexOf? (.ofString "g") 0).isNone then
          throwType "matchAll needs a global regular expression"
      | _ => pure ()
    | _ => pure ()
    delegateToRegex i .matchingAll "g",
  method "normalize" 0 fun i => do
    let text ← thisText i
    let form ← if (i.arg 0).isUndefined then pure "NFC" else do pure (← toText (i.arg 0)).toLossy
    match Text.NormalForm.ofName? form with
    | some form => return .text (.ofCodePoints (Text.normalize form text.codePoints))
    | none      => throwRange "invalid normalization form",
  method "padEnd" 2 fun i => padding i false,
  method "padStart" 2 fun i => padding i true,
  method "repeat" 1 fun i => do
    let text ← thisText i
    let x ← toInteger (i.arg 0)
    if x < 0 || x == NumberText.infinity then throwRange "count is out of range"
    if text.size.toFloat * x > 536870912 then throwRange "text is too long"
    return .text (text.repeated (if text.isEmpty then 0 else clampLength x)),
  method "replace" 2 fun i => do
    if i.this.isNullish then throwType "cannot convert 'null' or 'undefined' to text"
    match ← symbolMember (i.arg 0) .replacing with
    | some f => call f (i.arg 0) [i.this, i.arg 1]
    | none   =>
      let text ← toText i.this
      let piece ← toText (i.arg 0)
      let replacement ← if ← isCallable (i.arg 1) then pure (i.arg 1)
        else .text <$> toText (i.arg 1)
      match text.indexOf? piece 0 with
      | some at_ => replacePieces text piece replacement [at_]
      | none     => return .text text,
  method "replaceAll" 2 fun i => do
    if i.this.isNullish then throwType "cannot convert 'null' or 'undefined' to text"
    match i.arg 0 with
    | .object r =>
      match ← kindOf r with
      | .regex _ _ _ =>
        let flags ← toText (← getNamed r "flags")
        if (flags.indexOf? (.ofString "g") 0).isNone then
          throwType "replaceAll needs a global regular expression"
      | _ => pure ()
    | _ => pure ()
    match ← symbolMember (i.arg 0) .replacing with
    | some f => call f (i.arg 0) [i.this, i.arg 1]
    | none   =>
      let text ← toText i.this
      let piece ← toText (i.arg 0)
      let replacement ← if ← isCallable (i.arg 1) then pure (i.arg 1)
        else .text <$> toText (i.arg 1)
      replacePieces text piece replacement (occurrences text piece (text.size + 2) 0),
  method "search" 1 fun i => delegateToRegex i .searching "",
  method "slice" 2 fun i => do
    let text ← thisText i
    let start ← relativeArg (i.arg 0) text.size 0
    let stop ← relativeArg (i.arg 1) text.size text.size
    return .text (text.slice start stop),
  method "split" 2 fun i => do
    if i.this.isNullish then throwType "cannot convert 'null' or 'undefined' to text"
    match ← symbolMember (i.arg 0) .splitting with
    | some f => call f (i.arg 0) [i.this, i.arg 1]
    | none   =>
      let text ← toText i.this
      let limit ← limitArg (i.arg 1)
      let separator ← toText (i.arg 0)
      if limit = 0 then newArray []
      else if (i.arg 0).isUndefined then newArray [.text text]
      else newArray ((splitText text separator limit).map .text),
  method "startsWith" 1 fun i => do
    let text ← thisText i
    let piece ← plainPiece (i.arg 0)
    let start := min text.size (clampLength (← toInteger (i.arg 1)))
    return .bool (text.hasAt piece start),
  method "substr" 2 fun i => do
    let text ← thisText i
    let start ← relativeArg (i.arg 0) text.size 0
    let length ← if (i.arg 1).isUndefined then pure (text.size - start)
      else do pure (clampLength (← toInteger (i.arg 1)))
    return .text (text.slice start (min text.size (start + length))),
  method "substring" 2 fun i => do
    let text ← thisText i
    let start := min text.size (clampLength (← toInteger (i.arg 0)))
    let stop ← if (i.arg 1).isUndefined then pure text.size
      else do pure (min text.size (clampLength (← toInteger (i.arg 1))))
    return between text start stop,
  method "toLocaleLowerCase" 0 fun i => do
    return .text (.ofCodePoints (Text.lowerCase (← thisText i).codePoints)),
  method "toLocaleUpperCase" 0 fun i => do
    return .text (.ofCodePoints (Text.upperCase (← thisText i).codePoints)),
  method "toLowerCase" 0 fun i => do
    return .text (.ofCodePoints (Text.lowerCase (← thisText i).codePoints)),
  method "toString" 0 fun i => do return .text (← ownText i.this),
  method "toUpperCase" 0 fun i => do
    return .text (.ofCodePoints (Text.upperCase (← thisText i).codePoints)),
  method "toWellFormed" 0 fun i => do return .text (wellFormed (← thisText i)),
  method "trim" 0 fun i => do return .text (trimUnits (← thisText i) true true),
  method "trimEnd" 0 fun i => do return .text (trimUnits (← thisText i) false true),
  method "trimStart" 0 fun i => do return .text (trimUnits (← thisText i) true false),
  method "valueOf" 0 fun i => do return .text (← ownText i.this),
  symbolMethod .iterator 0 fun i => do
    let text ← thisText i
    return .object (← allocateKind (.iterator (.text text 0)) .stringIterator),
  markup "anchor" "a" "name",
  markup "big" "big" "",
  markup "blink" "blink" "",
  markup "bold" "b" "",
  markup "fixed" "tt" "",
  markup "fontcolor" "font" "color",
  markup "fontsize" "font" "size",
  markup "italics" "i" "",
  markup "link" "a" "href",
  markup "small" "small" "",
  markup "strike" "strike" "",
  markup "sub" "sub" "",
  markup "sup" "sup" ""]

def stringIteratorMethods : List Builtin := [
  method "next" 0 fun i => do
    match i.this with
    | .object r =>
      match ← kindOf r with
      | .iterator (.text text n) =>
        match text.codePointAt? n with
        | some (_, size) =>
          setKind r (.iterator (.text text (n + size)))
          newResult (.text (text.slice n (n + size))) false
        | none           =>
          setKind r (.iterator .finished)
          newResult .undefined true
      | .iterator .finished => newResult .undefined true
      | _ => throwType "value is not a text iterator"
    | _ => throwType "value is not a text iterator"]

end Stencil.Script.Library
