import Stencil.Script.Syntax.Expression

/-!
# Statements and scripts

`readScript?` reads a whole script. `Tree.block` holds its statements, with the names they declare.
-/

namespace Stencil.Script.Syntax

variable (parts : Parts)

/-! ### Declarations -/

/-- A declared pattern with its value, which patterns and constants must have. -/
def declarator (needsValue : Bool) : Reader Tree := do
  let pattern ← parts .binding
  if ← takeMark? "=" then return .declarator pattern (← parts .assignment)
  match pattern with
  | .name _ =>
    require !needsValue
    return .declarator pattern .absent
  | _       => fail

/-- Declared patterns with commas between them. -/
def declarators (needsValue : Bool) : Reader (List Tree) := do
  let first ← declarator parts needsValue
  let others ← many (takeMark? ",") (declarator parts needsValue) (← tokenLimit)
  return first :: others

/-- The words that declare names of a block. -/
inductive LexicalWord where
  | letWord | constWord

/-- The word that declares names of a block here, if one does. -/
def lexicalWord? : Reader (Option LexicalWord) := do
  match ← token with
  | .name "const" false => return some .constWord
  | .name "let" false   =>
    let declares ← ahead (do
      advance
      match ← token with
      | .mark "["    => return true
      | .mark "\x7b" => return true
      | .name word _ =>
        return !(reservedWords.contains word) && word != "instanceof" && word != "in"
      | _            => return false)
    return if declares == some true then some .letWord else none
  | _                   => return none

/-- Notes the names of patterns that a block declares. -/
def declarePatterns (word : LexicalWord) (patterns : List Tree) : Reader Unit :=
  declareLexicals (match word with | .constWord => true | .letWord => false)
    (Tree.boundNamesOf patterns)

/-- A declaration of names of a block. -/
def lexicalDeclaration (word : LexicalWord) : Reader Tree := do
  advance
  let vars ← declarators parts (match word with | .constWord => true | .letWord => false)
  declarePatterns word vars
  endStatement
  return .lexicalDeclaration vars

/-- A declaration of variables. -/
def varDeclaration : Reader Tree := do
  takeWord "var"
  let vars ← declarators parts false
  declareVariables (Tree.boundNamesOf vars)
  endStatement
  return .varDeclaration vars

/-- The declaration of a function. -/
def functionDeclaration (start : List Char) (isAsync : Bool) : Reader Tree := do
  let code ← functionAtKeyword parts start isAsync true
  modify fun s => { s with functions := code :: s.functions }
  return .functionDeclaration code

/-- The declaration of a class. -/
def classDeclaration : Reader Tree := do
  let definition ← classAtKeyword parts true
  match definition with
  | .classValue (some name) _ _ _ _ =>
    declareLexicals false [name]
    return .classDeclaration definition
  | _                               => fail

/-! ### Blocks -/

/-- Statements in braces. -/
def block (outer : List Utf16) : Reader Tree := do
  takeMark "\x7b"
  let inner ← enclosed outer (do return .block [] [] (← statementsToBrace parts))
  match inner.inner with
  | .block _ _ statements => return .block inner.names inner.functions statements
  | _                     => fail

/-- A condition in parentheses. -/
def condition : Reader Tree := do
  takeMark "("
  let test ← freeExpression parts
  takeMark ")"
  return test

/-- A statement that is repeated. -/
def loopBody : Reader Tree :=
  within (fun c => { c with inLoop := true }) (parts .statement)

/-! ### Loops -/

/-- The rest of a `for` statement after its first part. -/
def forRest (start : Tree) : Reader Tree := do
  takeMark ";"
  let test ← if ← atMark ";" then pure .absent else freeExpression parts
  takeMark ";"
  let update ← if ← atMark ")" then pure .absent else freeExpression parts
  takeMark ")"
  return .forLoop [] start test update (← loopBody parts)

/-- The rest of a `for` statement that goes over members of an object. -/
def overRest (isAwait : Bool) (head : Tree) : Reader Tree := do
  if ← takeWord? "of" then
    let object ← freeAssignment parts
    takeMark ")"
    return .forOf isAwait head object (← loopBody parts)
  require !isAwait
  takeWord "in"
  let object ← freeExpression parts
  takeMark ")"
  return .forIn head object (← loopBody parts)

/-- Whether a loop goes over members of an object from here. -/
def atOver : Reader Bool := do return (← atWord "of") || (← atWord "in")

/-- A `for` statement that declares variables. -/
def forVar (isAwait : Bool) : Reader Tree := do
  takeWord "var"
  let first ← within (fun c => { c with noIn := true }) (parts .binding)
  if ← atOver then
    declareVariables first.boundNames
    overRest parts isAwait (.loopNames [] (.varDeclaration [first]))
  else
    let value ← if ← takeMark? "=" then within (fun c => { c with noIn := true }) (parts .assignment)
      else pure .absent
    let others ← within (fun c => { c with noIn := true })
      (many (takeMark? ",") (declarator parts false) (← tokenLimit))
    let vars := .declarator first value :: others
    declareVariables (Tree.boundNamesOf vars)
    require !isAwait
    forRest parts (.varDeclaration vars)

/-- A `for` statement that declares names of its own. -/
def forLexical (isAwait : Bool) (word : LexicalWord) : Reader Tree := do
  let loop ← enclosed [] (do
    advance
    let first ← within (fun c => { c with noIn := true }) (parts .binding)
    if ← atOver then
      declarePatterns word [first]
      overRest parts isAwait (.loopNames [] first)
    else
      let needsValue := match word, first with
        | .letWord, .name _ => false
        | _, _              => true
      let value ← if ← takeMark? "=" then
          within (fun c => { c with noIn := true }) (parts .assignment)
        else
          require !needsValue
          pure .absent
      let others ← within (fun c => { c with noIn := true })
        (many (takeMark? ",")
          (declarator parts (match word with | .constWord => true | .letWord => false))
          (← tokenLimit))
      let vars := .declarator first value :: others
      declarePatterns word vars
      require !isAwait
      forRest parts (.lexicalDeclaration vars))
  match loop.inner with
  | .forLoop _ start test update body => return .forLoop loop.names start test update body
  | .forIn (.loopNames _ pattern) object body =>
    return .forIn (.loopNames loop.names pattern) object body
  | .forOf isAwait (.loopNames _ pattern) object body =>
    return .forOf isAwait (.loopNames loop.names pattern) object body
  | _ => fail

/-- A `for` statement that declares nothing. -/
def forPlain (isAwait : Bool) : Reader Tree := do
  if ← atMark ";" then
    require !isAwait
    forRest parts .absent
  else
    let s ← state
    modify fun s => { s with hasCover := false }
    let found ← ahead (do
      let _ ← within (fun c => { c with noIn := true }) (parts .unary)
      require (← atOver))
    if found.isSome then
      let left ← within (fun c => { c with noIn := true }) (parts .unary)
      let target ← assigned s.index s.hasCover left
      overRest parts isAwait (.loopNames [] (.assign target .absent))
    else
      require !isAwait
      let start ← within (fun c => { c with noIn := true }) (expression parts)
      modify fun now => { now with hasCover := s.hasCover || now.hasCover }
      forRest parts (.expression start)

/-- A `for` statement. -/
def forStatement : Reader Tree := do
  takeWord "for"
  let isAwait ← if (← context).inAsync then takeWord? "await" else pure false
  takeMark "("
  if ← atWord "var" then forVar parts isAwait
  else
    match ← lexicalWord? with
    | some word => forLexical parts isAwait word
    | none      => forPlain parts isAwait

/-! ### Other statements -/

/-- The label of a `break` or a `continue`. -/
def jumpLabel : Reader (Option String) := do
  if (← state).newline then return none
  match ← token with
  | .name word _ =>
    if reservedWords.contains word then return none
    advance
    return some word
  | _            => return none

def breakStatement : Reader Tree := do
  advance
  let label ← jumpLabel
  endStatement
  let c ← context
  match label with
  | none      =>
    require (c.inLoop || c.inSwitch)
    return .breakTo none
  | some word =>
    require (c.labels.any fun l => l.1 == word)
    return .breakTo (some (.ofString word))

def continueStatement : Reader Tree := do
  advance
  let label ← jumpLabel
  endStatement
  let c ← context
  require c.inLoop
  match label with
  | none      => return .continueTo none
  | some word =>
    require (c.labels.any fun l => l.1 == word && l.2)
    return .continueTo (some (.ofString word))

def returnStatement : Reader Tree := do
  require (← context).inFunction
  advance
  let s ← state
  let isBare := s.newline || s.token == .mark ";" || s.token == .mark "\x7d" || s.token == .ended
  let value ← if isBare then pure .absent else freeExpression parts
  endStatement
  return .giveBack value

def throwStatement : Reader Tree := do
  advance
  require !(← state).newline
  let value ← freeExpression parts
  endStatement
  return .throwing value

/-- The handler of a `try` statement: its parameter and its block. -/
def handler : Reader (Tree × Tree) := do
  if ← takeMark? "(" then
    let parameter ← parts .binding
    takeMark ")"
    require (isDistinct parameter.boundNames)
    -- a variable may have the name of a plain parameter
    let outer := match parameter with
      | .name _ => []
      | _       => parameter.boundNames
    let body ← block parts outer
    match body with
    | .block names _ _ =>
      require (names.all fun name => !parameter.boundNames.contains name.name)
      return (parameter, body)
    | _                => fail
  else return (.absent, ← block parts [])

def tryStatement : Reader Tree := do
  advance
  let body ← block parts []
  let (parameter, handler) ← if ← takeWord? "catch" then handler parts else pure (.absent, .absent)
  let finalizer ← if ← takeWord? "finally" then block parts [] else pure .absent
  require (!handler.isAbsent || !finalizer.isAbsent)
  return .trying body parameter handler finalizer

/-- The cases of a `switch` statement up to its brace. -/
def switchCases : (fuel : Nat) → Reader (List Tree)
  | 0        => fail
  | fuel + 1 => do
    if ← takeMark? "\x7d" then return []
    let test ← if ← takeWord? "default" then pure .absent
      else
        takeWord "case"
        freeExpression parts
    takeMark ":"
    let goesOn : Reader Bool := do
      return !((← atWord "case") || (← atWord "default") || (← atMark "\x7d"))
    let statements ← many goesOn (parts .item) (← tokenLimit)
    return .case test statements :: (← switchCases fuel)

def switchStatement : Reader Tree := do
  advance
  let value ← condition parts
  takeMark "\x7b"
  let inner ← enclosed [] (within (fun c => { c with inSwitch := true }) do
    return .array (← switchCases parts (← tokenLimit)))
  match inner.inner with
  | .array cases =>
    let defaults := cases.filter fun tree => match tree with
      | .case .absent _ => true
      | _               => false
    require (defaults.length ≤ 1)
    return .switch value inner.names inner.functions cases
  | _            => fail

/-- Whether a label stands here. -/
def atLabel : Reader Bool := do
  if !(← atVariable) then return false
  return (← ahead (do
    advance
    require (← atMark ":"))).isSome

/-- Whether a loop stands here, perhaps after labels; `fuel` bounds their number. -/
def loopFollows : (fuel : Nat) → Reader Bool
  | 0        => fail
  | fuel + 1 => do
    if ← atLabel then
      advance
      takeMark ":"
      loopFollows fuel
    else return (← atWord "for") || (← atWord "while") || (← atWord "do")

/-- A statement after a label. -/
def labeledStatement (word : String) : Reader Tree := do
  advance
  takeMark ":"
  let c ← context
  require !(c.labels.any fun l => l.1 == word)
  let limit ← tokenLimit
  let isLoop := (← ahead (loopFollows limit)).getD false
  let body ← within (fun c => { c with labels := (word, isLoop) :: c.labels })
    (if ← atWord "function" then parts .item else parts .statement)
  return .labeled (.ofString word) body

def expressionStatement : Reader Tree := do
  let value ← freeExpression parts
  endStatement
  return .expression value

/-- A statement that begins with a word. -/
def wordStatement (word : String) : Reader Tree := do
  match word with
  | "var"      => varDeclaration parts
  | "if"       =>
    advance
    let test ← condition parts
    let yes ← parts .statement
    let no ← if ← takeWord? "else" then parts .statement else pure .absent
    return .branch test yes no
  | "for"      => forStatement parts
  | "while"    =>
    advance
    let test ← condition parts
    return .whileLoop test (← loopBody parts)
  | "do"       =>
    advance
    let body ← loopBody parts
    takeWord "while"
    let test ← condition parts
    let _ ← takeMark? ";"
    return .doWhile body test
  | "return"   => returnStatement parts
  | "break"    => breakStatement
  | "continue" => continueStatement
  | "throw"    => throwStatement parts
  | "try"      => tryStatement parts
  | "switch"   => switchStatement parts
  | "with"     =>
    require !(← context).isStrict
    advance
    let object ← condition parts
    return .withObject object (← parts .statement)
  | "debugger" =>
    advance
    endStatement
    return .block [] [] []
  | "function" => fail
  | "class"    => fail
  | _          =>
    if ← atLabel then labeledStatement parts word
    else
      if (← lexicalWord?).isSome then fail
      expressionStatement parts

/-- A statement where no declaration may stand. Code that is not strict may have a function there. -/
def statement : Reader Tree := do
  match ← token with
  | .mark "\x7b"            => block parts []
  | .mark ";"               =>
    advance
    return .block [] [] []
  | .name "function" false  =>
    require !(← context).isStrict
    let start := (← state).start
    let inner ← enclosed [] (functionDeclaration parts start false)
    return .block inner.names inner.functions [inner.inner]
  | .name word false        => wordStatement parts word
  | _                       => expressionStatement parts

/-- A statement or a declaration. -/
def item : Reader Tree := do
  match ← token with
  | .name "function" false => functionDeclaration parts (← state).start false
  | .name "class" false    => classDeclaration parts
  | .name "async" false    =>
    let start := (← state).start
    let isFunction ← ahead (do
      advance
      require !(← state).newline
      takeWord "function")
    if isFunction.isSome then
      advance
      functionDeclaration parts start true
    else statement parts
  | _                      =>
    match ← lexicalWord? with
    | some word => lexicalDeclaration parts word
    | none      => statement parts

/-! ### Scripts -/

/-- The reader of a part, which may refer to all parts in turn; `fuel` bounds how deep. -/
def read : (fuel : Nat) → Parts
  | 0, _           => fail
  | fuel + 1, part => fun c s =>
    match part with
    | .assignment => assignment (read fuel) c s
    | .unary      => unary (read fuel) c s
    | .binding    => binding (read fuel) c s
    | .item       => item (read fuel) c s
    | .statement  => statement (read fuel) c s

/-- The state before the first token. -/
def State.initial (text : List Char) : State where
  token := .ended
  newline := false
  start := text
  rest := text
  behind := []
  index := 0
  group := (0, 0)
  hasCover := false
  vars := []
  lexicals := []
  functions := []
  hoisted := []
  usesArguments := false
  privates := []

/-- The surroundings of a script of some length. -/
def Context.initial (length : Nat) : Context where
  isStrict := false
  inAsync := false
  inGenerator := false
  inFunction := false
  noIn := false
  superCall := false
  superMember := false
  newTarget := false
  inLoop := false
  inSwitch := false
  labels := []
  inClass := false
  limit := length + 2

/-- A script: its block, the variables that it declares, and whether it is strict. -/
structure Script where
  block : Tree
  vars : List Utf16
  isStrict : Bool

/-- A whole script. -/
def script : Reader Script := do
  advance
  let limit ← tokenLimit
  let isStrict := (← context).isStrict || (← ahead (strictDirective limit)).getD false
  let inner ← within (fun c => { c with isStrict }) <| enclosed [] (do
    let items ← many (do return (← token) != .ended) (read (4 * limit) .item) limit
    return .block [] [] items)
  let s ← state
  require (!s.hasCover && s.privates.isEmpty)
  match inner.inner with
  | .block _ _ statements =>
    return {
      block     := .block inner.names inner.functions statements
      vars := variablesOf s.vars s.hoisted inner.functions (inner.names.map (·.name))
      isStrict  := isStrict }
  | _                     => fail

/-- The script that a text is, in a given context. -/
def readScriptIn? (adjust : Context → Context) (text : List Char) : Option Script :=
  (script (adjust (Context.initial text.length)) (State.initial text)).map Prod.fst

/-- The script that a text is. -/
def readScript? (text : List Char) : Option Script :=
  readScriptIn? id text

end Stencil.Script.Syntax
