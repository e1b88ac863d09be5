import Stencil.Script.Token
import Stencil.Script.Tree

/-!
# Reading scripts

The state of a reader of scripts, which always has the next token at hand, and the small readers
that the grammar is written in. A reader that fails leaves no trace, so an alternative may start
again from the state before it.
-/

namespace Stencil.Script.Syntax

/-! ### State and context -/

/-- What surrounds the place that is read. -/
structure Context where
  isStrict : Bool
  inAsync : Bool
  inGenerator : Bool
  inFunction : Bool
  /-- Whether `in` is no operator here. -/
  noIn : Bool
  superCall : Bool
  superMember : Bool
  newTarget : Bool
  inLoop : Bool
  inSwitch : Bool
  /-- The labels around the place, and whether each names a loop. -/
  labels : List (String × Bool)
  /-- Whether a class surrounds the place. -/
  inClass : Bool
  /-- How many tokens there are at most. -/
  limit : Nat

/-- Where a reader stands, and what it has met in the function that it reads. -/
structure State where
  token : Token
  /-- Whether a line ended before the token. -/
  newline : Bool
  /-- The text from the token on. -/
  start : List Char
  /-- The text after the token. -/
  rest : List Char
  /-- The text after the token before. -/
  behind : List Char
  /-- How many tokens were taken. -/
  index : Nat
  /-- The tokens of the last expression in parentheses. -/
  group : Nat × Nat
  /-- Whether a name with a default stands in an object literal that is no pattern so far. -/
  hasCover : Bool
  /-- The names declared with `var`, the last first. -/
  vars : List Utf16
  /-- The names that the block declares, the last first. -/
  lexicals : List LexicalName
  /-- The function declarations of the block, the last first. -/
  functions : List Tree
  /-- The functions of inner blocks that are variables of the whole function too. -/
  hoisted : List Utf16
  /-- Whether `arguments` was named. -/
  usesArguments : Bool
  /-- The private names in use that no class has declared so far. -/
  privates : List Utf16

/-- Whether the expression since a token is one in parentheses, and no more. -/
def State.isGroupSince (s : State) (index : Nat) : Bool := s.group == (index, s.index)

/-- A reader of scripts. -/
abbrev Reader (α : Type) := Context → State → Option (α × State)

namespace Reader

def pure {α : Type} (a : α) : Reader α := fun _ s => some (a, s)

def bind {α β : Type} (p : Reader α) (f : α → Reader β) : Reader β := fun c s =>
  match p c s with
  | some (a, s) => f a c s
  | none        => none

instance : Monad Reader where
  pure := Reader.pure
  bind := Reader.bind

end Reader

/-! ### Elementary readers -/

/-- No script goes on like this. -/
def fail {α : Type} : Reader α := fun _ _ => none

def context : Reader Context := fun c s => some (c, s)

def state : Reader State := fun _ s => some (s, s)

def modify (f : State → State) : Reader Unit := fun _ s => some ((), f s)

/-- Reads something in another context. -/
def within {α : Type} (f : Context → Context) (p : Reader α) : Reader α := fun c s => p (f c) s

/-- Fails unless a condition holds. -/
def require (condition : Bool) : Reader Unit := if condition then pure () else fail

/-- Reads one thing, or another if it fails. -/
def orElse {α : Type} (p q : Reader α) : Reader α := fun c s =>
  match p c s with
  | some r => some r
  | none   => q c s

/-- The result of a reader, which leaves the state as it is. -/
def ahead {α : Type} (p : Reader α) : Reader (Option α) := fun c s =>
  some ((p c s).map Prod.fst, s)

/-- Makes the token at the front of a text the next one. -/
def loadToken (behind : List Char) : Reader Unit := fun _ s =>
  match Token.skipSpace .between false behind with
  | some (start, newline) =>
    match Token.read start with
    | some (token, rest) =>
      some ((), { s with token, newline, start, rest, behind, index := s.index + 1 })
    | none               => none
  | none                  => none

/-- Goes on to the token after the next. -/
def advance : Reader Unit := fun c s => loadToken s.rest c s

def token : Reader Token := fun _ s => some (s.token, s)

/-- Whether the next token is a mark. -/
def atMark (mark : String) : Reader Bool := fun _ s => some (s.token == .mark mark, s)

/-- Whether the next token is a word. -/
def atWord (word : String) : Reader Bool := fun _ s => some (s.token == .name word false, s)

/-- Takes the next token if it is this mark. -/
def takeMark? (mark : String) : Reader Bool := do
  if ← atMark mark then
    advance
    return true
  else return false

/-- Takes the next token if it is this word. -/
def takeWord? (word : String) : Reader Bool := do
  if ← atWord word then
    advance
    return true
  else return false

def takeMark (mark : String) : Reader Unit := do require (← takeMark? mark)

def takeWord (word : String) : Reader Unit := do require (← takeWord? word)

/-- The end of a statement: a semicolon, or a place where one may be left out. -/
def endStatement : Reader Unit := do
  let s ← state
  match s.token with
  | .mark ";"    => advance
  | .mark "\x7d" => pure ()
  | .ended       => pure ()
  | _            => require s.newline

/-- Reads `p` as often as `goesOn` says, at most `fuel` times. -/
def many {α : Type} (goesOn : Reader Bool) (p : Reader α) : (fuel : Nat) → Reader (List α)
  | 0        => fail
  | fuel + 1 => do
    if ← goesOn then
      let a ← p
      return a :: (← many goesOn p fuel)
    else return []

/-- How many tokens there are at most. -/
def tokenLimit : Reader Nat := fun c s => some (c.limit, s)

/-- Items with a mark between them, up to a closing mark, before which one more may stand. -/
def separated {α : Type} (mark close : String) (p : Reader α) : (fuel : Nat) → Reader (List α)
  | 0        => fail
  | fuel + 1 => do
    if ← takeMark? close then return []
    let a ← p
    if ← takeMark? mark then return a :: (← separated mark close p fuel)
    takeMark close
    return [a]

/-! ### Names -/

/-- The words that are never names. -/
def reservedWords : List String :=
  ["break", "case", "catch", "class", "const", "continue", "debugger", "default", "delete", "do",
   "else", "enum", "export", "extends", "false", "finally", "for", "function", "if", "import",
   "in", "instanceof", "new", "null", "return", "super", "switch", "this", "throw", "true", "try",
   "typeof", "var", "void", "while", "with"]

/-- The words that strict code does not take for names. -/
def strictWords : List String :=
  ["implements", "interface", "let", "package", "private", "protected", "public", "static",
   "yield"]

/-- Whether a word may name a variable. -/
def isVariableName (c : Context) (word : String) : Bool :=
  !reservedWords.contains word && !(c.isStrict && strictWords.contains word) &&
  !(c.inGenerator && word == "yield") && !(c.inAsync && word == "await")

/-- The name of a variable. -/
def variableName : Reader String := do
  match ← token with
  | .name word _ =>
    require (isVariableName (← context) word)
    advance
    return word
  | _            => fail

/-- Whether a name may be bound: strict code keeps `eval` and `arguments`. -/
def mayBind (c : Context) (word : String) : Bool :=
  !(c.isStrict && (word == "eval" || word == "arguments"))

/-- The name of a variable that is bound. -/
def boundName : Reader Utf16 := do
  let word ← variableName
  require (mayBind (← context) word)
  return .ofString word

/-- Whether the next token names a variable. -/
def atVariable : Reader Bool := do
  match ← token with
  | .name word _ => return isVariableName (← context) word
  | _            => return false

/-! ### Declarations -/

def argumentsName : Utf16 := .ofString "arguments"

/-- Notes names that a function declares with `var`. -/
def declareVariables (names : List Utf16) : Reader Unit :=
  modify fun s => { s with vars := names.reverse ++ s.vars }

/-- Notes names that a block declares. -/
def declareLexicals (isConstant : Bool) (names : List Utf16) : Reader Unit := do
  require (!names.contains (.ofString "let"))
  modify fun s =>
    { s with lexicals := (names.map fun name => ⟨name, isConstant⟩).reverse ++ s.lexicals }

/-- Whether a list names nothing twice. -/
def isDistinct (names : List Utf16) : Bool :=
  match names with
  | []           => true
  | name :: rest => !rest.contains name && isDistinct rest

/-- The name of the function of a declaration. -/
def functionName : Tree → Option Utf16
  | .function head _ _ _ => head.name
  | _                    => none

/-- Whether a declared function is neither asynchronous nor a generator. -/
def isPlainFunction : Tree → Bool
  | .function head _ _ _ => !head.isAsync && !head.isGenerator
  | _                    => false

/-- What a block was found to hold. -/
structure Scoped where
  names : List LexicalName
  functions : List Tree
  inner : Tree

/-- Reads a block with names of its own. Its names must differ from each other, from the variables
declared inside it, and from the names that `outer` already binds there. -/
def enclosed (outer : List Utf16) (p : Reader Tree) : Reader Scoped := do
  let before ← state
  modify fun s => { s with lexicals := [], functions := [], hoisted := [] }
  let inner ← p
  let after ← state
  let c ← context
  let functionNames := after.functions.filterMap functionName
  let lexicalNames := after.lexicals.map (·.name)
  let newVariables := after.vars.take (after.vars.length - before.vars.length)
  require (isDistinct lexicalNames)
  require (lexicalNames.all fun name => !functionNames.contains name && !newVariables.contains name
    && !outer.contains name)
  require (functionNames.all fun name => !newVariables.contains name)
  require ((!c.isStrict && after.functions.all isPlainFunction) || isDistinct functionNames)
  let own := if c.isStrict then []
    else (after.functions.filter isPlainFunction).filterMap functionName
  let inherited := after.hoisted.filter fun name => !lexicalNames.contains name
  modify fun s => { s with
    lexicals := before.lexicals, functions := before.functions,
    hoisted := own ++ inherited ++ before.hoisted }
  return ⟨after.lexicals.reverse, after.functions.reverse, inner⟩

/-- The context of the body of a function, which cannot leave the loops around it. -/
def Context.enterFunction (c : Context) : Context :=
  { c with inFunction := true, inLoop := false, inSwitch := false, labels := [], noIn := false }

/-- The text from where a reader began up to the last token it took. -/
def textSince (start : List Char) : Reader String := fun _ s =>
  some (String.ofList (start.take (start.length - s.behind.length)), s)

end Stencil.Script.Syntax
