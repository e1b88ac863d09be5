import Stencil.Script.Library.Objects
import Stencil.Script.Library.Texts
import Stencil.Script.Regex.Match

/-!
# Regular expressions

The members of regular expressions.
-/

namespace Stencil.Script.Library

/-- The pattern, the source and the flags of a regular expression. -/
def thisRegex (v : Value) : Exec (Ref × Regex.Pattern × Utf16 × Utf16) := do
  match v with
  | .object r =>
    match ← kindOf r with
    | .regex pattern source flags => return (r, pattern, source, flags)
    | _                           => throwType "value is not a regular expression"
  | _         => throwType "value is not a regular expression"

def makeRegex (i : Invocation) : Exec Value := do
  let pattern := i.arg 0
  let isRegex ← match pattern with
    | .object r =>
      let flag ← get r (.ofSymbol .matching)
      if flag.isUndefined then
        match ← kindOf r with
        | .regex _ _ _ => pure true
        | _            => pure false
      else pure flag.toBool
    | _ => pure false
  if i.newTarget.isUndefined && isRegex && (i.arg 1).isUndefined then
    if (← getOf pattern (.ofString "constructor")).strictEq (.object i.callee) then return pattern
  let (source, flags) ← if isRegex then do
      pure (← getOf pattern (.ofString "source"), ← getOf pattern (.ofString "flags"))
    else pure (pattern, .undefined)
  let flags := if (i.arg 1).isUndefined then flags else i.arg 1
  let text (v : Value) : Exec Utf16 := if v.isUndefined then return .empty else toText v
  let newTarget := if i.newTarget.isUndefined then .object i.callee else i.newTarget
  let proto ← protoFor newTarget .regExp
  newRegex (← text source) (← text flags) proto

/-! ### Matches -/

/-- What a group holds, as a value. -/
def captureValue (text : Utf16) (span : Option (Nat × Nat)) : Value :=
  match span with
  | some (a, b) => .text (text.slice a b)
  | none        => .undefined

/-- The object that holds named groups, if there are any. -/
def groupsObject (names : List (Utf16 × Nat)) (f : Nat → Exec Value) : Exec Value := do
  if names.isEmpty then return .undefined
  let r ← allocate (.empty .ordinary none)
  names.forM fun (name, n) => do createProperty r (.ofText name) (← f n)
  return .object r

/-- The result of a match as an array with its place and its groups. -/
def matchResult (pattern : Regex.Pattern) (text : Utf16) (spans : Array (Option (Nat × Nat))) :
    Exec Value := do
  let result ← newArray (spans.toList.map (captureValue text))
  match result with
  | .object r =>
    let start := match spans.getD 0 none with
      | some (a, _) => a
      | none        => 0
    createProperty r (.ofString "index") (.ofNat start)
    createProperty r (.ofString "input") (.text text)
    let groups ← groupsObject pattern.names fun n => return captureValue text (spans.getD n none)
    createProperty r (.ofString "groups") groups
    if pattern.flags.indices then
      let pair (span : Option (Nat × Nat)) : Exec Value :=
        match span with
        | some (a, b) => newArray [.ofNat a, .ofNat b]
        | none        => return .undefined
      let indices ← newArray (← spans.toList.mapM pair)
      match indices with
      | .object list =>
        createProperty list (.ofString "groups")
          (← groupsObject pattern.names fun n => pair (spans.getD n none))
      | _ => pure ()
      createProperty r (.ofString "indices") indices
    return result
  | _ => return result

/-- Matches a regular expression from where it stands on. -/
def execPlain (v : Value) (text : Utf16) : Exec Value := do
  let (r, pattern, _, _) ← thisRegex v
  let last ← toLength (← getNamed r "lastIndex")
  let keepsPlace := pattern.flags.global || pattern.flags.sticky
  let start := if keepsPlace then last else 0
  let found := if text.size < start then none
    else if pattern.flags.sticky then pattern.matchAt text start
    else pattern.search text (text.size + 1) start
  match found with
  | none       =>
    if keepsPlace then setOrThrow r (.ofString "lastIndex") (.number 0)
    return .null
  | some spans =>
    if keepsPlace then
      let stop := match spans.getD 0 none with
        | some (_, b) => b
        | none        => 0
      setOrThrow r (.ofString "lastIndex") (.ofNat stop)
    matchResult pattern text spans

/-- Matches by the member `exec` of an object. -/
def execOf (v : Value) (text : Utf16) : Exec Value := do
  let f ← getOf v (.ofString "exec")
  if ← isCallable f then
    let answer ← call f v [.text text]
    match answer with
    | .object _ => return answer
    | .null     => return answer
    | _         => throwType "result of 'exec' must be an object or null"
  else execPlain v text

/-- The offset after one character. -/
def advance (text : Utf16) (n : Nat) (isUnicode : Bool) : Nat :=
  if isUnicode then
    match text.codePointAt? n with
    | some (_, size) => n + size
    | none           => n + 1
  else n + 1

/-- Whether a text of flags has a letter. -/
def hasFlag (flags : Utf16) (letter : String) : Bool := (flags.indexOf? (.ofString letter) 0).isSome

/-- Moves a regular expression on after an empty match. -/
def advanceLast (r : Ref) (text matched : Utf16) (isUnicode : Bool) : Exec Unit := do
  if matched.isEmpty then
    let last ← toLength (← getNamed r "lastIndex")
    setOrThrow r (.ofString "lastIndex") (.ofNat (advance text last isUnicode))

/-- All matches of a regular expression from where it stands on, the last first; `fuel` bounds
their number. -/
def allMatches (r : Ref) (text : Utf16) (isUnicode : Bool) : (fuel : Nat) → List Ref →
    Exec (List Ref)
  | 0, _            => exhaust
  | fuel + 1, found => do
    match ← execOf (.object r) text with
    | .object m =>
      let matched ← toText (← get m (.index 0))
      advanceLast r text matched isUnicode
      allMatches r text isUnicode fuel (m :: found)
    | _ => return found

/-- Replaces the matches of a regular expression. -/
def replaceMatches (i : Invocation) : Exec Value := do
  let r ← objectArg i.this
  let text ← toText (i.arg 0)
  let replacement ← if ← isCallable (i.arg 1) then pure (i.arg 1) else .text <$> toText (i.arg 1)
  let flags ← toText (← getNamed r "flags")
  let isGlobal := hasFlag flags "g"
  let isUnicode := hasFlag flags "u" || hasFlag flags "v"
  let found ← if isGlobal then do
      setOrThrow r (.ofString "lastIndex") (.number 0)
      pure (← allMatches r text isUnicode turnLimit []).reverse
    else do
      match ← execOf i.this text with
      | .object m => pure [m]
      | _         => pure []
  let (pieces, stop) ← found.foldlM (fun (pieces, stop) m => do
    let count ← lengthOf m
    let matched ← toText (← get m (.index 0))
    let position := min text.size (clampLength (← toInteger (← getNamed m "index")))
    let captures ← (List.range (count - 1)).mapM fun n => do
      let v ← get m (.ofNat (n + 1))
      if v.isUndefined then return v else .text <$> toText v
    let groups ← getNamed m "groups"
    let new ← Replacement.result ⟨matched, text, position, captures, groups⟩ replacement
    if stop ≤ position then
      return (new :: text.slice stop position :: pieces, position + matched.size)
    else return (pieces, stop)) (([] : List Utf16), 0)
  return .text (Utf16.join (text.slice stop text.size :: pieces).reverse)

/-- The pieces of a text between the matches of a sticky regular expression, the last first; `fuel`
bounds how many offsets are tried. -/
def splitAtMatches (splitter : Value) (r : Ref) (text : Utf16) (isUnicode : Bool) (limit : Nat) :
    (fuel start at_ : Nat) → List Value → Exec (List Value)
  | 0, _, _, _                      => exhaust
  | fuel + 1, start, at_, pieces => do
    if text.size ≤ at_ then return .text (text.slice start text.size) :: pieces
    setOrThrow r (.ofString "lastIndex") (.ofNat at_)
    match ← execOf splitter text with
    | .object m =>
      let stop := min text.size (← toLength (← getNamed r "lastIndex"))
      if stop = start then
        splitAtMatches splitter r text isUnicode limit fuel start (advance text at_ isUnicode) pieces
      else
        let count ← lengthOf m
        let captures ← (List.range (count - 1)).mapM fun n => get m (.ofNat (n + 1))
        let pieces := captures.reverse ++ .text (text.slice start at_) :: pieces
        if limit ≤ pieces.length then return pieces
        splitAtMatches splitter r text isUnicode limit fuel stop stop pieces
    | _ => splitAtMatches splitter r text isUnicode limit fuel start (advance text at_ isUnicode) pieces

/-- Splits a text at the matches of a regular expression. -/
def splitByRegex (i : Invocation) : Exec Value := do
  let r ← objectArg i.this
  let text ← toText (i.arg 0)
  let constructor ← speciesOf r (.object Standard.regExp.constructor)
  let flags ← toText (← getNamed r "flags")
  let isUnicode := hasFlag flags "u" || hasFlag flags "v"
  let sticky := if hasFlag flags "y" then flags else flags ++ Utf16.ofString "y"
  let splitter ← construct constructor [i.this, .text sticky] constructor
  let limit ← limitArg (i.arg 1)
  if limit = 0 then newArray []
  else if text.isEmpty then
    match ← execOf splitter text with
    | .null => newArray [.text text]
    | _     => newArray []
  else
    let pieces ← splitAtMatches splitter (← objectArg splitter) text isUnicode limit turnLimit 0 0 []
    newArray (pieces.reverse.take limit)

/-! ### Members -/

/-- A flag of a regular expression. -/
def flagGetter (name : String) (flag : Regex.Flags → Bool) : Builtin :=
  getter name fun i => do
    match i.this with
    | .object r =>
      match ← kindOf r with
      | .regex pattern _ _ => return .bool (flag pattern.flags)
      | _                  =>
        if r == Standard.regExp.proto then return .undefined
        else throwType "value is not a regular expression"
    | _ => throwType "value is not a regular expression"

/-- The source of a pattern as it is written between slashes. -/
def escapeSource (source : Utf16) : Utf16 :=
  if source.isEmpty then .ofString "(?:)"
  else .ofCodePoints (escape false source.codePoints)
where
  escape (inClass : Bool) : List Nat → List Nat
    | 0x5C :: c :: rest => 0x5C :: c :: escape inClass rest
    | 0x0A :: rest      => 0x5C :: 0x6E :: escape inClass rest
    | 0x0D :: rest      => 0x5C :: 0x72 :: escape inClass rest
    | 0x2F :: rest      => if inClass then 0x2F :: escape inClass rest else 0x5C :: 0x2F :: escape inClass rest
    | 0x5B :: rest      => 0x5B :: escape true rest
    | 0x5D :: rest      => 0x5D :: escape false rest
    | c :: rest         => c :: escape inClass rest
    | []                => []

/-- The letters of the flags that an object has. -/
def flagLetters : List (String × String) :=
  [("hasIndices", "d"), ("global", "g"), ("ignoreCase", "i"), ("multiline", "m"), ("dotAll", "s"),
   ("unicode", "u"), ("unicodeSets", "v"), ("sticky", "y")]

def regexMethods : List Builtin := [
  method "exec" 1 fun i => do execPlain i.this (← toText (i.arg 0)),
  flagGetter "dotAll" (·.dotAll),
  getter "flags" fun i => do
    let r ← objectArg i.this
    let letters ← flagLetters.filterM fun (name, _) => do return (← getNamed r name).toBool
    return .ofString (String.join (letters.map Prod.snd)),
  flagGetter "global" (·.global),
  flagGetter "hasIndices" (·.indices),
  flagGetter "ignoreCase" (·.ignoreCase),
  flagGetter "multiline" (·.multiline),
  getter "source" fun i => do
    match i.this with
    | .object r =>
      match ← kindOf r with
      | .regex _ source _ => return .text (escapeSource source)
      | _                 =>
        if r == Standard.regExp.proto then return .ofString "(?:)"
        else throwType "value is not a regular expression"
    | _ => throwType "value is not a regular expression",
  flagGetter "sticky" (·.sticky),
  method "test" 1 fun i => do
    match ← execOf i.this (← toText (i.arg 0)) with
    | .null => return .bool false
    | _     => return .bool true,
  method "toString" 0 fun i => do
    let r ← objectArg i.this
    let source ← toText (← getNamed r "source")
    let flags ← toText (← getNamed r "flags")
    return .text (Utf16.join [.ofString "/", source, .ofString "/", flags]),
  flagGetter "unicode" (·.unicode),
  flagGetter "unicodeSets" (·.unicodeSets),
  method "compile" 2 fun i => do
    let (r, _, _, _) ← thisRegex i.this
    let text (v : Value) : Exec Utf16 := if v.isUndefined then return .empty else toText v
    let source ← text (i.arg 0)
    let flags ← text (i.arg 1)
    match Regex.Pattern.read? source flags with
    | some pattern =>
      setKind r (.regex pattern source flags)
      setOrThrow r (.ofString "lastIndex") (.number 0)
      return i.this
    | none         => throwNew .syntaxError "invalid regular expression",
  symbolMethod .matching 1 fun i => do
    let r ← objectArg i.this
    let text ← toText (i.arg 0)
    let flags ← toText (← getNamed r "flags")
    if hasFlag flags "g" then
      setOrThrow r (.ofString "lastIndex") (.number 0)
      let isUnicode := hasFlag flags "u" || hasFlag flags "v"
      let found := (← allMatches r text isUnicode turnLimit []).reverse
      if found.isEmpty then return .null
      newArray (← found.mapM fun m => do return .text (← toText (← get m (.index 0))))
    else execOf i.this text,
  symbolMethod .matchingAll 1 fun i => do
    let r ← objectArg i.this
    let text ← toText (i.arg 0)
    let constructor ← speciesOf r (.object Standard.regExp.constructor)
    let flags ← toText (← getNamed r "flags")
    let matcher ← construct constructor [i.this, .text flags] constructor
    let last ← toLength (← getNamed r "lastIndex")
    setOrThrow (← objectArg matcher) (.ofString "lastIndex") (.ofNat last)
    let cursor : Cursor :=
      .matches matcher text (hasFlag flags "g") (hasFlag flags "u" || hasFlag flags "v")
    return .object (← allocateKind (.iterator cursor) .regexIterator),
  symbolMethod .replacing 2 replaceMatches,
  symbolMethod .searching 1 fun i => do
    let r ← objectArg i.this
    let text ← toText (i.arg 0)
    let before ← getNamed r "lastIndex"
    if !before.sameValue (.number 0) then setOrThrow r (.ofString "lastIndex") (.number 0)
    let answer ← execOf i.this text
    let after ← getNamed r "lastIndex"
    if !after.sameValue before then setOrThrow r (.ofString "lastIndex") before
    match answer with
    | .object m => getNamed m "index"
    | _         => return .number (-1),
  symbolMethod .splitting 2 splitByRegex]

def regexStatics : List Builtin := [speciesGetter]

def regexIteratorMethods : List Builtin := [
  method "next" 0 fun i => do
    let r ← objectArg i.this
    match ← kindOf r with
    | .iterator (.matches regex text isGlobal isUnicode) =>
      match ← execOf regex text with
      | .object m =>
        if isGlobal then
          let matched ← toText (← get m (.index 0))
          advanceLast (← objectArg regex) text matched isUnicode
        else setKind r (.iterator .finished)
        newResult (.object m) false
      | _ =>
        setKind r (.iterator .finished)
        newResult .undefined true
    | .iterator .finished => newResult .undefined true
    | _ => throwType "value is not an iterator over matches"]

end Stencil.Script.Library
