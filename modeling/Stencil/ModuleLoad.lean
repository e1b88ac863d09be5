import Stencil.Failure
import Stencil.Text.Blank
import Stencil.Text.Line
import Stencil.Text.Word

/-!
# Loads of other modules

A template stands alone, so it must not load other modules. `moduleLoad?` finds the places where a
source seems to do so, from its text alone and before it is parsed: import statements, calls of
`import` and `require`, and exports of what another module gives.

A `Recogniser` yields all the places where what it recognises may end; it fails with none.
-/

namespace Stencil

namespace ModuleLoad

/-! ### Recognisers -/

/-- A place in a text. -/
structure Place where
  /-- The character before it, none at the start of the text. -/
  before : Option Char
  rest : List Char
  deriving DecidableEq

/-- All the places where something that begins at a place may end. -/
abbrev Recogniser := Place → List Place

/-- One character of a class. -/
def one (holds : Char → Bool) : Recogniser := fun place =>
  match place.rest with
  | c :: rest => if holds c then [⟨some c, rest⟩] else []
  | []        => []

/-- These characters. -/
def literal : List Char → Recogniser
  | [], place      => [place]
  | c :: cs, place =>
    match place.rest with
    | d :: rest => if c = d then literal cs ⟨some d, rest⟩ else []
    | []        => []

/-- Any number of characters of a class. -/
def anyFrom (holds : Char → Bool) (before : Option Char) : List Char → List Place
  | []        => [⟨before, []⟩]
  | c :: rest =>
    if holds c then ⟨before, c :: rest⟩ :: anyFrom holds (some c) rest else [⟨before, c :: rest⟩]

/-- Any number of characters of a class. -/
def any (holds : Char → Bool) : Recogniser := fun place =>
  anyFrom holds place.before place.rest

/-- One thing after another. -/
def andThen (first second : Recogniser) : Recogniser := fun place =>
  (first place).flatMap second

/-- One of two things. -/
def either (first second : Recogniser) : Recogniser := fun place =>
  first place ++ second place

/-- A thing or nothing. -/
def maybe (recogniser : Recogniser) : Recogniser := fun place =>
  recogniser place ++ [place]

/-- Things one after another. -/
def sequence : List Recogniser → Recogniser
  | []                => fun place => [place]
  | first :: others => andThen first (sequence others)

/-- One or more characters of a class. -/
def some1 (holds : Char → Bool) : Recogniser :=
  andThen (one holds) (any holds)

/-- The start of a line. -/
def lineStart : Recogniser := fun place =>
  if place.before = none ∨ place.before = some '\n' then [place] else []

/-- The end of a word. -/
def wordEnd : Recogniser := fun place =>
  if (place.rest.head?.map Text.isWord).getD false then [] else [place]

/-- A word as it is written. -/
def word (text : String) : Recogniser := literal text.toList

/-! ### Loads -/

/-- Whether a character belongs to an identifier. -/
def isIdentifierPart (c : Char) : Bool :=
  Text.isWord c || c == '$'

def isTabOrSpace (c : Char) : Bool :=
  c == ' ' || c == '\t'

/-- Whether a character may stand before a called name that is no member. -/
def isFree (c : Char) : Bool :=
  !isIdentifierPart c && c != '.'

/-- An import statement at the start of a line. -/
def importStatement : Recogniser :=
  sequence
    [lineStart, any isTabOrSpace, word "import", any Text.isBlank,
     one fun c => isIdentifierPart c || c == '*' || c == '\x7b' || c == '"' || c == '\'']

/-- A call of a name that is no member. -/
def call (name : String) : Recogniser :=
  sequence [either lineStart (one isFree), word name, any Text.isBlank, one (· == '(')]

/-- An export of what another module gives, at the start of a line. -/
def reExport : Recogniser :=
  sequence
    [lineStart, any isTabOrSpace, word "export", some1 Text.isBlank,
     maybe (andThen (word "type") (some1 Text.isBlank)),
     either (one (· == '*'))
      (sequence [one (· == '\x7b'), any (· != '\x7d'), one (· == '\x7d')]),
     any Text.isBlank,
     maybe (sequence
      [word "as", some1 Text.isBlank, some1 isIdentifierPart, any Text.isBlank]),
     word "from", wordEnd]

/-- What is looked for, one after another. -/
def recognisers : List Recogniser :=
  [importStatement, call "import", call "require", reExport]

/-! ### Search -/

/-- The text from the first place on that a recogniser fits. -/
def find? (recogniser : Recogniser) (before : Option Char) : List Char → Option (List Char)
  | []        => if (recogniser ⟨before, []⟩).isEmpty then none else some []
  | c :: rest =>
    if (recogniser ⟨before, c :: rest⟩).isEmpty then find? recogniser (some c) rest
    else some (c :: rest)

/-- The text from the first load on, of the first kind that there is one of. -/
def load? (source : List Char) : Option (List Char) :=
  recognisers.findSome? fun recogniser => find? recogniser none source

/-- The line of the first load from where it begins, trimmed. -/
def statement? (source : List Char) : Option (List Char) :=
  (load? source).map fun text => Text.trimChars (Text.firstLine text)

end ModuleLoad

/-- Fail when the source of the template `file` loads another module. -/
def demandNoLoads (source file : String) : Except Failure Unit :=
  match ModuleLoad.statement? source.toList with
  | some statement => .error (.moduleLoad file (String.ofList statement))
  | none           => .ok ()

end Stencil
