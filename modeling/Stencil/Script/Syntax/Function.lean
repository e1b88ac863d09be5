import Stencil.Script.Syntax.Pattern

/-!
# Functions and classes

The parts that functions, methods and classes are made of.
-/

namespace Stencil.Script.Syntax

variable (parts : Parts)

/-! ### Functions -/

/-- What is known of a function before its parameters. -/
structure Shape where
  kind : FunctionKind
  name : Option Utf16 := none
  isAsync : Bool := false
  isGenerator : Bool := false

/-- Whether a kind of function has `super` members. -/
def hasSuper : FunctionKind → Bool
  | .plain => false
  | .arrow => false
  | _      => true

/-- The context inside a function. -/
def Shape.inside (shape : Shape) (c : Context) : Context :=
  let c := { c with
    inFunction := true, inLoop := false, inSwitch := false, labels := [], noIn := false,
    inAsync := shape.isAsync, inGenerator := shape.isGenerator }
  if shape.kind = .arrow then c
  else { c with
    superCall := shape.kind = .derivedConstructor, superMember := hasSuper shape.kind,
    newTarget := true }

/-- Whether a directive for strict code is among those that begin here. -/
def strictDirective : (fuel : Nat) → Reader Bool
  | 0        => fail
  | fuel + 1 => do
    match (← state).token with
    | .text value _ =>
      let start := (← state).start
      advance
      let written ← textSince start
      let s ← state
      let ends := s.newline || s.token == .mark ";" || s.token == .mark "\x7d" || s.token == .ended
      if !ends then return false
      if value == .ofString "use strict" && written.length = 12 then return true
      let _ ← takeMark? ";"
      strictDirective fuel
    | _             => return false

/-- Whether the body whose brace is next is strict by a directive of its own. -/
def bodyIsStrict : Reader Bool := do
  let limit ← tokenLimit
  return (← ahead (do
    takeMark "\x7b"
    strictDirective limit)).getD false

/-- The statements up to a closing brace. -/
def statementsToBrace : Reader (List Tree) := do
  let items ← many (do return !(← atMark "\x7d")) (parts .item) (← tokenLimit)
  takeMark "\x7d"
  return items

/-- The parameters of a function up to their closing parenthesis. -/
def parameters : (fuel : Nat) → Reader (List Tree × Tree)
  | 0        => fail
  | fuel + 1 => do
    if ← takeMark? ")" then return ([], .absent)
    if ← takeMark? "..." then
      let rest ← parts .binding
      takeMark ")"
      return ([], rest)
    let parameter ← bindingElement parts
    if ← takeMark? ")" then return ([parameter], .absent)
    takeMark ","
    let (others, rest) ← parameters fuel
    return (parameter :: others, rest)

/-- The parameters of a function with their parentheses. -/
def parameterList : Reader (List Tree × Tree) := do
  takeMark "("
  parameters parts (← tokenLimit)

/-- Names once each, in order. -/
def distinct (names : List Utf16) : List Utf16 :=
  (names.foldl (fun found name => if found.contains name then found else name :: found) []).reverse

/-- The names that a function declares as variables. -/
def variablesOf (declared : List Utf16) (hoisted : List Utf16) (functions : List Tree)
    (taken : List Utf16) : List Utf16 :=
  distinct (declared.reverse ++ functions.filterMap functionName ++
    hoisted.filter fun name => !taken.contains name)

/-- Whether the number of parameters suits the kind of function. -/
def countSuits (kind : FunctionKind) (parameters : List Tree) (rest : Tree) : Bool :=
  match kind with
  | .getter => parameters.isEmpty && rest.isAbsent
  | .setter => parameters.length = 1 && rest.isAbsent
  | _       => true

/-- A function from its parameters on. An arrow function may have an expression for its body. -/
def functionFrom (start : List Char) (shape : Shape) (readParameters : Reader (List Tree × Tree)) :
    Reader Tree := do
  let before ← state
  let surroundings ← context
  modify fun s => { s with
    vars := [], lexicals := [], functions := [], hoisted := [], usesArguments := false }
  let (parameters, rest) ← within shape.inside readParameters
  require (countSuits shape.kind parameters rest)
  let isArrow := shape.kind = .arrow
  if isArrow then
    require !(← state).newline
    takeMark "=>"
  let hasBlock ← atMark "\x7b"
  require (hasBlock || isArrow)
  let declaresStrict ← if hasBlock then bodyIsStrict else pure false
  let isSimple := Tree.areSimple parameters rest
  require (!declaresStrict || isSimple)
  let isStrict := surroundings.isStrict || declaresStrict
  let names := Tree.boundNamesOf parameters ++ rest.boundNames
  require (names.all (mayBind { surroundings with isStrict }))
  require ((!isStrict && isSimple && shape.kind = .plain) || isDistinct names)
  let body ← within (fun c => { shape.inside c with isStrict }) <| enclosed names <| do
    if hasBlock then
      takeMark "\x7b"
      return .block [] [] (← statementsToBrace parts)
    else
      let value ← within (fun c => { c with noIn := surroundings.noIn }) (parts .assignment)
      return .block [] [] [.giveBack value]
  let after ← state
  let source ← textSince start
  let taken := names ++ body.names.map (·.name)
  let head : FunctionHead := {
    name          := shape.name
    kind          := shape.kind
    isAsync       := shape.isAsync
    isGenerator   := shape.isGenerator
    isStrict      := isStrict
    usesArguments := after.usesArguments
    vars          := variablesOf after.vars after.hoisted body.functions taken
    source        := source }
  modify fun s => { s with
    vars := before.vars, lexicals := before.lexicals, functions := before.functions,
    hoisted := before.hoisted,
    usesArguments := before.usesArguments || (isArrow && after.usesArguments) }
  match body.inner with
  | .block _ _ statements =>
    return .function head parameters rest (.block body.names body.functions statements)
  | _                     => fail
where
  /-- Whether a name may be bound, for parameters. -/
  mayBind (c : Context) (name : Utf16) : Bool := Syntax.mayBind c name.toLossy

/-- A function whose keyword `function` is next, with its name if it has one. -/
def functionAtKeyword (start : List Char) (isAsync : Bool) (isDeclaration : Bool) :
    Reader Tree := do
  takeWord "function"
  let isGenerator ← takeMark? "*"
  let name ← if isDeclaration then (some <$> boundName) else do
    if ← atMark "(" then pure none
    else some <$> within (fun c => { c with inAsync := isAsync, inGenerator := isGenerator }) boundName
  functionFrom parts start { kind := .plain, name, isAsync, isGenerator } (parameterList parts)

/-- An arrow function, if one stands here. -/
def arrowFunction : Reader Tree := do
  let start := (← state).start
  functionFrom parts start { kind := .arrow } (parameterList parts)

/-- An arrow function with one plain parameter. -/
def shortArrowFunction : Reader Tree := do
  let start := (← state).start
  functionFrom parts start { kind := .arrow } (do return ([.name (← boundName)], .absent))

/-- An asynchronous arrow function, if one stands here. -/
def asyncArrowFunction : Reader Tree := do
  let start := (← state).start
  takeWord "async"
  require !(← state).newline
  functionFrom parts start { kind := .arrow, isAsync := true } (do
    if ← atMark "(" then parameterList parts
    else return ([.name (← boundName)], .absent))

/-! ### Methods -/

/-- What stands before the key of a member. -/
structure Marks where
  isAsync : Bool := false
  isGenerator : Bool := false
  kind : MemberKind := .field

/-- Whether a key can begin here. -/
def atKey : Reader Bool := do
  match ← token with
  | .name _ _      => return true
  | .text _ _      => return true
  | .number _ _    => return true
  | .big _         => return true
  | .privateName _ => return true
  | .mark "["      => return true
  | _              => return false

/-- Takes a word that stands before a key. -/
def takeBeforeKey (word : String) (allows : Reader Bool) : Reader Bool := do
  if ← atWord word then
    let goesOn ← ahead (do
      advance
      require (← allows))
    if goesOn.isSome then
      advance
      return true
    else return false
  else return false

/-- What stands before the key of a member. -/
def marks : Reader Marks := do
  if ← takeBeforeKey "get" atKey then return { kind := .getter }
  if ← takeBeforeKey "set" atKey then return { kind := .setter }
  let isAsync ← takeBeforeKey "async" (do
    return !(← state).newline && ((← atKey) || (← atMark "*")))
  let isGenerator ← takeMark? "*"
  return { isAsync, isGenerator, kind := if isAsync || isGenerator then .method else .field }

/-- The function of a member. -/
def memberFunction (start : List Char) (marks : Marks) : Reader Tree :=
  let kind : FunctionKind := match marks.kind with
    | .getter => .getter
    | .setter => .setter
    | _       => .method
  functionFrom parts start
    { kind, isAsync := marks.isAsync, isGenerator := marks.isGenerator } (parameterList parts)

/-! ### Classes -/

/-- A member of a class. -/
inductive ClassPart where
  | build (code : Tree)
  | member (member : Tree)
  | none

/-- The value of a field, or a static block, as a function of its own. -/
def initializer (start : List Char) (readBody : Reader Tree) : Reader Tree := do
  let before ← state
  modify fun s => { s with
    vars := [], lexicals := [], functions := [], hoisted := [], usesArguments := false }
  let body ← within (Shape.inside { kind := .initializer }) (enclosed [] readBody)
  let after ← state
  require !after.usesArguments
  let source ← textSince start
  modify fun s => { s with
    vars := before.vars, lexicals := before.lexicals, functions := before.functions,
    hoisted := before.hoisted, usesArguments := before.usesArguments }
  let head : FunctionHead := {
    name          := none
    kind          := .initializer
    isAsync       := false
    isGenerator   := false
    isStrict      := true
    usesArguments := false
    vars          := variablesOf after.vars [] body.functions []
    source        := source }
  match body.inner with
  | .block _ _ statements =>
    return .function head [] .absent (.block body.names body.functions statements)
  | _                     => fail

/-- The value of a field. -/
def fieldValue : Reader Tree := do
  let start := (← state).start
  initializer start (do
    let value ← within (fun c => { c with inFunction := false }) (parts .assignment)
    return .block [] [] [.giveBack value])

/-- A static block. -/
def staticBlock : Reader Tree := do
  let start := (← state).start
  initializer start (within (fun c => { c with inFunction := false }) do
    takeMark "\x7b"
    return .block [] [] (← statementsToBrace parts))

/-- Whether a key is this plain name. -/
def isNamed (key : Tree) (name : String) : Bool :=
  match key with
  | .named n       => n == .ofString name
  | .privateName n => n == .ofString ("#" ++ name)
  | _              => false

def isPrivate : Tree → Bool
  | .privateName _ => true
  | _              => false

/-- One member of a class. -/
def classPart (isDerived : Bool) : Reader ClassPart := do
  if ← takeMark? ";" then return .none
  let start := (← state).start
  let isStatic ← takeBeforeKey "static" (do
    return (← atKey) || (← atMark "*") || (← atMark "\x7b"))
  if isStatic && (← atMark "\x7b") then
    return .member (.classMember .staticBlock true .absent (← staticBlock parts))
  let here := (← state).start
  let start := if isStatic then here else start
  let marks ← marks
  let key ← propertyKey parts
  require !(isPrivate key && isNamed key "constructor")
  let isBuild := !isStatic && isNamed key "constructor" && !isPrivate key
  if ← atMark "(" then
    require !(isStatic && isNamed key "prototype" && !isPrivate key)
    if isBuild then
      require (marks.kind = .field)
      let kind : FunctionKind := if isDerived then .derivedConstructor else .baseConstructor
      return .build (← functionFrom parts start { kind } (parameterList parts))
    let code ← memberFunction parts start marks
    let kind := if marks.kind = .field then .method else marks.kind
    return .member (.classMember kind isStatic key code)
  require (marks.kind = .field && !isBuild && !(isNamed key "constructor" && !isPrivate key))
  require !(isStatic && isNamed key "prototype" && !isPrivate key)
  let value ← if ← takeMark? "=" then fieldValue parts else pure .absent
  endStatement
  return .member (.classMember .field isStatic key value)

/-- The private names that class members declare; a getter and a setter may share one. -/
def privateNames : List Tree → Option (List Utf16)
  | []             => some []
  | member :: rest => do
    let others ← privateNames rest
    match member with
    | .classMember kind isStatic (.privateName name) _ =>
      if others.contains name then
        let isPair := rest.any fun other => match other with
          | .classMember otherKind otherStatic (.privateName otherName) _ =>
            otherName == name && otherStatic == isStatic &&
            ((kind == .getter && otherKind == .setter) || (kind == .setter && otherKind == .getter))
          | _ => false
        let count := (others.filter (· == name)).length
        if isPair && count = 1 then some (name :: others) else none
      else some (name :: others)
    | _ => some others

/-- A class whose keyword is next. -/
def classAtKeyword (needsName : Bool) : Reader Tree := do
  let start := (← state).start
  let outer ← context
  let before ← state
  takeWord "class"
  within (fun c => { c with isStrict := true, noIn := false }) do
    let hasName := match ← token with
      | .name word _ => word != "extends"
      | _            => false
    let name ← if hasName then some <$> boundName else pure none
    require (name.isSome || !needsName)
    let parent ← if ← takeWord? "extends" then parts .unary else pure .absent
    modify fun s => { s with privates := [] }
    takeMark "\x7b"
    let found ← within (fun c => { c with inClass := true }) do
      let limit ← tokenLimit
      let found ← many (do return !(← atMark "\x7d")) (classPart parts !parent.isAbsent) limit
      return found
    takeMark "\x7d"
    let builds := found.filterMap fun part => match part with
      | .build code => some code
      | _           => none
    let members := found.filterMap fun part => match part with
      | .member member => some member
      | _              => none
    require (builds.length ≤ 1)
    let source ← textSince start
    match privateNames members with
    | none       => fail
    | some names =>
      let unknown := (← state).privates.filter fun name => !names.contains name
      require (outer.inClass || unknown.isEmpty)
      modify fun s => { s with privates := unknown ++ before.privates }
      return .classValue name source parent (builds.head?.getD .absent) members

end Stencil.Script.Syntax
