import Stencil.Script.Syntax.Function

/-!
# Expressions

Expressions by precedence. Where a parenthesis may begin the parameters of an arrow function, that
is tried first.
-/

namespace Stencil.Script.Syntax

variable (parts : Parts)

/-! ### Literals -/

/-- Expressions with commas between them. -/
def expression : Reader Tree := do
  let first ← parts .assignment
  let others ← many (takeMark? ",") (parts .assignment) (← tokenLimit)
  return others.foldl .sequence first

/-- An expression in which `in` is an operator. -/
def freeExpression : Reader Tree :=
  within (fun c => { c with noIn := false }) (expression parts)

/-- An assigned expression in which `in` is an operator. -/
def freeAssignment : Reader Tree :=
  within (fun c => { c with noIn := false }) (parts .assignment)

/-- The items of an array literal after its bracket. -/
def arrayItems : (fuel : Nat) → Reader (List Tree)
  | 0        => fail
  | fuel + 1 => do
    if ← takeMark? "]" then return []
    if ← takeMark? "," then return .absent :: (← arrayItems fuel)
    let item ← if ← takeMark? "..." then Tree.spread <$> freeAssignment parts
      else freeAssignment parts
    if ← takeMark? "]" then return [item]
    takeMark ","
    return item :: (← arrayItems fuel)

/-- Whether the object literal may be written with this key and a value. -/
def dataMember (key value : Tree) : Tree :=
  match key with
  | .named name => if name == .ofString "__proto__" then .proto value else .property key value
  | _           => .property key value

/-- One member of an object literal. -/
def objectMember : Reader Tree := do
  if ← takeMark? "..." then return .spread (← freeAssignment parts)
  let start := (← state).start
  let marks ← marks
  let isName ← atVariable
  let word ← token
  let key ← propertyKey parts
  require !(isPrivate key)
  if ← atMark "(" then
    let code ← memberFunction parts start marks
    return .method (if marks.kind = .field then .method else marks.kind) key code
  require (marks.kind = .field)
  if ← takeMark? ":" then return dataMember key (← freeAssignment parts)
  require isName
  match word with
  | .name word _ =>
    let name : Utf16 := .ofString word
    if name == argumentsName then modify fun s => { s with usesArguments := true }
    if ← takeMark? "=" then
      let standard ← freeAssignment parts
      modify fun s => { s with hasCover := true }
      return .cover name standard
    return .property key (.name name)
  | _            => fail

/-- An object literal. -/
def objectLiteral : Reader Tree := do
  takeMark "\x7b"
  let members ← separated "," "\x7d" (objectMember parts) (← tokenLimit)
  return .object members

/-- Reads the brace that is next as the end of a substitution in a template. -/
def resumeTemplate : Reader Unit := fun _ s =>
  match s.start with
  | '\x7d' :: text =>
    match Token.readTemplate (text.length + 1) (some []) [] text with
    | some (token, rest) => some ((), { s with token, rest })
    | none               => none
  | _              => none

/-- A template: its texts, as they are meant and as they are written, and its values. -/
def templateParts : (fuel : Nat) → Reader (List (Option Utf16) × List Utf16 × List Tree)
  | 0        => fail
  | fuel + 1 => do
    match ← token with
    | .template cooked raw isLast =>
      advance
      if isLast then return ([cooked], [raw], [])
      let value ← freeExpression parts
      resumeTemplate
      let (cookeds, raws, values) ← templateParts fuel
      return (cooked :: cookeds, raw :: raws, value :: values)
    | _                           => fail

/-- A template that stands alone. -/
def templateLiteral : Reader Tree := do
  let (cooked, _, values) ← templateParts parts (← tokenLimit)
  match cooked.mapM id with
  | some texts => return .template texts values
  | none       => fail

/-- A template after a tag. -/
def taggedTemplate (tag : Tree) : Reader Tree := do
  let (cooked, raw, values) ← templateParts parts (← tokenLimit)
  return .tagged tag cooked raw values

/-- Reads the slash that is next as the start of a regular expression. -/
def resumeRegex : Reader Unit := fun _ s =>
  match s.start with
  | '/' :: text =>
    match Token.readRegex false [] text with
    | some (token, rest) => some ((), { s with token, rest })
    | none               => none
  | _           => none

/-- A regular expression. -/
def regexLiteral : Reader Tree := do
  resumeRegex
  match ← token with
  | .regex source flags =>
    advance
    return .regex source flags
  | _                   => fail

/-! ### Primary expressions -/

/-- An expression in parentheses. -/
def grouped : Reader Tree := do
  let start := (← state).index
  takeMark "("
  let value ← freeExpression parts
  takeMark ")"
  modify fun s => { s with group := (start, s.index) }
  return value

/-- A variable that is named. -/
def namedVariable : Reader Tree := do
  let word ← variableName
  let name : Utf16 := .ofString word
  if name == argumentsName || word == "eval" then
    modify fun s => { s with usesArguments := true }
  return .name name

/-- Takes the next token as the value of a literal. -/
def literal (value : Literal) : Reader Tree := do
  advance
  return .literal value

/-- An expression that begins with a word. -/
def wordExpression (word : String) (escaped : Bool) : Reader Tree := do
  if escaped then namedVariable else
  match word with
  | "this"     =>
    advance
    return .this
  | "null"     => literal .null
  | "true"     => literal (.bool true)
  | "false"    => literal (.bool false)
  | "function" => functionAtKeyword parts (← state).start false false
  | "class"    => classAtKeyword parts false
  | "async"    =>
    let start := (← state).start
    let isFunction ← ahead (do
      advance
      require !(← state).newline
      takeWord "function")
    if isFunction.isSome then
      advance
      functionAtKeyword parts start true false
    else namedVariable
  | _          => namedVariable

/-- The simplest expressions. -/
def primary : Reader Tree := do
  match ← token with
  | .name word escaped      => wordExpression parts word escaped
  | .number value isLegacy  =>
    require !(isLegacy && (← context).isStrict)
    literal (.number value)
  | .big value              => literal (.big value)
  | .text value hasOctal    =>
    require !(hasOctal && (← context).isStrict)
    literal (.text value)
  | .template _ _ _         => templateLiteral parts
  | .mark "("               => grouped parts
  | .mark "["               =>
    advance
    return .array (← arrayItems parts (← tokenLimit))
  | .mark "\x7b"            => objectLiteral parts
  | .mark "/"               => regexLiteral
  | .mark "/="              => regexLiteral
  | _                       => fail

/-! ### Members and calls -/

/-- The arguments of a call. -/
def argumentList : Reader (List Tree) := do
  takeMark "("
  separated "," ")" (do
    if ← takeMark? "..." then return .spread (← freeAssignment parts)
    freeAssignment parts) (← tokenLimit)

/-- The name after a point. -/
def memberName : Reader Tree := do
  match ← token with
  | .name word _      =>
    advance
    return .named (.ofString word)
  | .privateName word =>
    require (← context).inClass
    advance
    let name : Utf16 := .ofString ("#" ++ word)
    modify fun s => { s with privates := name :: s.privates }
    return .privateName name
  | _                 => fail

/-- An expression in brackets. -/
def bracketKey : Reader Tree := do
  takeMark "["
  let key ← freeExpression parts
  takeMark "]"
  return .computed key

/-- The members and the calls that follow a value; `inChain` says whether a `?.` came before. -/
def memberTail (allowsCalls : Bool) : (fuel : Nat) → (inChain : Bool) → Tree → Reader Tree
  | 0, _, _                => fail
  | fuel + 1, inChain, tree => do
    let finish : Reader Tree := pure (if inChain then .chain tree else tree)
    match ← token with
    | .mark "."          =>
      advance
      let key ← memberName
      memberTail allowsCalls fuel inChain (.member tree key false)
    | .mark "?."         =>
      if !allowsCalls then fail else
      advance
      match ← token with
      | .mark "("          =>
        let arguments ← argumentList parts
        memberTail allowsCalls fuel true (.call tree arguments true)
      | .mark "["          =>
        let key ← bracketKey parts
        memberTail allowsCalls fuel true (.member tree key true)
      | .template _ _ _    => fail
      | _                  =>
        let key ← memberName
        memberTail allowsCalls fuel true (.member tree key true)
    | .mark "["          =>
      let key ← bracketKey parts
      memberTail allowsCalls fuel inChain (.member tree key false)
    | .mark "("          =>
      if allowsCalls then
        let arguments ← argumentList parts
        memberTail allowsCalls fuel inChain (.call tree arguments false)
      else finish
    | .template _ _ _    =>
      require !inChain
      memberTail allowsCalls fuel inChain (← taggedTemplate parts tree)
    | _                  => finish

/-- What follows the word `super`. -/
def superTail : Reader Tree := do
  let c ← context
  match ← token with
  | .mark "(" =>
    require c.superCall
    return .superCall (← argumentList parts)
  | .mark "." =>
    require c.superMember
    advance
    match ← memberName with
    | .named name => return .superMember (.named name)
    | _           => fail
  | .mark "[" =>
    require c.superMember
    return .superMember (← bracketKey parts)
  | _         => fail

/-- What follows the word `new`; `fuel` bounds how often it is repeated. -/
def newTail : (fuel : Nat) → Reader Tree
  | 0        => fail
  | fuel + 1 => do
    let limit ← tokenLimit
    if ← takeMark? "." then
      takeWord "target"
      require (← context).newTarget
      return .newTarget
    let callee ← if ← takeWord? "new" then newTail fuel
      else if ← takeWord? "super" then superTail parts
      else primary parts
    let callee ← memberTail parts false limit false callee
    if ← atMark "(" then return .new callee (← argumentList parts)
    return .new callee []

/-- A value with its members and calls. -/
def leftHandSide : Reader Tree := do
  let limit ← tokenLimit
  let first ← if ← takeWord? "new" then newTail parts limit
    else if ← takeWord? "super" then superTail parts
    else primary parts
  memberTail parts true limit false first

/-! ### Operators -/

/-- What a value can be assigned to by an operator: a variable or a member. -/
def simpleTarget (tree : Tree) : Reader Tree := do
  match tree with
  | .name _          =>
    match target? (← context).isStrict tree with
    | some target => return target
    | none        => fail
  | .member _ _ false => return tree
  | .superMember _   => return tree
  | _                => fail

/-- The operators that stand before their operand. -/
def unaryOp? : Token → Option UnaryOp
  | .mark "-"            => some .minus
  | .mark "+"            => some .plus
  | .mark "!"            => some .not
  | .mark "~"            => some .complement
  | .name "typeof" false => some .typeOf
  | .name "void" false   => some .void
  | _                    => none

/-- What `delete` may be applied to. -/
def deleted (isStrict : Bool) : Tree → Option Tree
  | .name name                    => if isStrict then none else some (.delete (.name name))
  | .member _ (.privateName _) _  => none
  | tree                          => some (.delete tree)

/-- A value after operators that stand before it. -/
def unary : Reader Tree := do
  let c ← context
  let t ← token
  match unaryOp? t with
  | some op =>
    advance
    return .unary op (← parts .unary)
  | none    =>
    match t with
    | .name "delete" false =>
      advance
      match deleted c.isStrict (← parts .unary) with
      | some tree => return tree
      | none      => fail
    | .name "await" false  =>
      if c.inAsync then
        advance
        return .await (← parts .unary)
      else leftSide c
    | .mark "++"           =>
      advance
      return .update 1 false (← simpleTarget (← parts .unary))
    | .mark "--"           =>
      advance
      return .update (-1) false (← simpleTarget (← parts .unary))
    | .privateName word    =>
      require c.inClass
      advance
      let name : Utf16 := .ofString ("#" ++ word)
      modify fun s => { s with privates := name :: s.privates }
      require (← atWord "in")
      return .privateName name
    | _                    => leftSide c
where
  leftSide (_ : Context) : Reader Tree := do
    let tree ← leftHandSide parts
    if (← state).newline then return tree
    if ← takeMark? "++" then return .update 1 true (← simpleTarget tree)
    if ← takeMark? "--" then return .update (-1) true (← simpleTarget tree)
    return tree

/-- An operator between two operands. -/
inductive Infix where
  | binary (op : BinaryOp)
  | logical (op : LogicalOp)

/-- The operator that a token stands for, and how tightly it binds. -/
def infixOp? (noIn : Bool) : Token → Option (Infix × Nat)
  | .mark mark =>
    match mark with
    | "??"  => some (.logical .coalesce, 1)
    | "||"  => some (.logical .or, 2)
    | "&&"  => some (.logical .and, 3)
    | "|"   => some (.binary .bitOr, 4)
    | "^"   => some (.binary .bitXor, 5)
    | "&"   => some (.binary .bitAnd, 6)
    | "=="  => some (.binary .looseEq, 7)
    | "!="  => some (.binary .looseNe, 7)
    | "===" => some (.binary .strictEq, 7)
    | "!==" => some (.binary .strictNe, 7)
    | "<"   => some (.binary .lt, 8)
    | ">"   => some (.binary .gt, 8)
    | "<="  => some (.binary .le, 8)
    | ">="  => some (.binary .ge, 8)
    | "<<"  => some (.binary .shiftLeft, 9)
    | ">>"  => some (.binary .shiftRight, 9)
    | ">>>" => some (.binary .shiftRightZero, 9)
    | "+"   => some (.binary .add, 10)
    | "-"   => some (.binary .sub, 10)
    | "*"   => some (.binary .mul, 11)
    | "/"   => some (.binary .div, 11)
    | "%"   => some (.binary .mod, 11)
    | "**"  => some (.binary .power, 12)
    | _     => none
  | .name "instanceof" false => some (.binary .instanceOf, 8)
  | .name "in" false         => if noIn then none else some (.binary .inObject, 8)
  | _ => none

/-- Whether an operand may stand beside an operator without parentheses. -/
def standsBeside (op : Infix) (operand : Tree) : Bool :=
  match op, operand with
  | .logical .coalesce, .logical .and _ _      => false
  | .logical .coalesce, .logical .or _ _       => false
  | .logical .and, .logical .coalesce _ _      => false
  | .logical .or, .logical .coalesce _ _       => false
  | _, _                                       => true

/-- Whether a value may be raised to a power without parentheses. -/
def isPowerBase : Tree → Bool
  | .unary _ _ => false
  | .delete _  => false
  | .await _   => false
  | _          => true

/-- An operation on two values. -/
def combine (op : Infix) (left right : Tree) : Reader Tree :=
  match op, left with
  | .binary .inObject, .privateName name => pure (.hasPrivate name right)
  | _, .privateName _                    => fail
  | .binary op, _                        => pure (.binary op left right)
  | .logical op, _                       => pure (.logical op left right)

/-- The operators from a strength on that follow a value, which began at a token. -/
def climb : (fuel : Nat) → (least : Nat) → (start : Nat) → Tree → Reader Tree
  | 0, _, _, _                      => fail
  | fuel + 1, least, start, left => do
    match infixOp? (← context).noIn (← token) with
    | some (op, strength) =>
      if strength < least then return left
      let isGroup := (← state).isGroupSince start
      require (isGroup || standsBeside op left)
      require (strength ≠ 12 || isGroup || isPowerBase left)
      advance
      let startRight := (← state).index
      let right ← parts .unary
      let right ← climb fuel (if strength = 12 then 12 else strength + 1) startRight right
      let isGroup := (← state).isGroupSince startRight
      require (isGroup || standsBeside op right)
      let whole ← combine op left right
      climb fuel least start whole
    | none                =>
      match left with
      | .privateName _ => fail
      | _              => return left

/-- A value, or a choice between two. -/
def conditional : Reader Tree := do
  let start := (← state).index
  let left ← parts .unary
  let test ← climb parts (← tokenLimit) 0 start left
  if ← takeMark? "?" then
    let yes ← freeAssignment parts
    takeMark ":"
    let no ← parts .assignment
    return .conditional test yes no
  return test

/-! ### Assignments -/

/-- The operator of an assignment that computes. -/
inductive AssignOp where
  | plain
  | binary (op : BinaryOp)
  | logical (op : LogicalOp)

/-- The operator that a token assigns with. -/
def assignOp? : Token → Option AssignOp
  | .mark mark =>
    match mark with
    | "="    => some .plain
    | "+="   => some (.binary .add)
    | "-="   => some (.binary .sub)
    | "*="   => some (.binary .mul)
    | "/="   => some (.binary .div)
    | "%="   => some (.binary .mod)
    | "**="  => some (.binary .power)
    | "<<="  => some (.binary .shiftLeft)
    | ">>="  => some (.binary .shiftRight)
    | ">>>=" => some (.binary .shiftRightZero)
    | "&="   => some (.binary .bitAnd)
    | "|="   => some (.binary .bitOr)
    | "^="   => some (.binary .bitXor)
    | "&&="  => some (.logical .and)
    | "||="  => some (.logical .or)
    | "??="  => some (.logical .coalesce)
    | _      => none
  | _ => none

/-- The target of an assignment that was read as an expression from a token on. -/
def assigned (start : Nat) (hadCover : Bool) (tree : Tree) : Reader Tree := do
  if isLiteralPattern tree then
    require !(← state).isGroupSince start
    match target? (← context).isStrict tree with
    | some target =>
      modify fun s => { s with hasCover := hadCover }
      return target
    | none        => fail
  else simpleTarget tree

/-- A `yield` and its operand. -/
def yieldExpression : Reader Tree := do
  takeWord "yield"
  if (← state).newline then return .yield .absent
  if ← takeMark? "*" then return .yieldAll (← parts .assignment)
  match ← token with
  | .mark ")"    => return .yield .absent
  | .mark "]"    => return .yield .absent
  | .mark "\x7d" => return .yield .absent
  | .mark ","    => return .yield .absent
  | .mark ";"    => return .yield .absent
  | .mark ":"    => return .yield .absent
  | .name "in" false => return .yield .absent
  | .name "of" false => return .yield .absent
  | .ended       => return .yield .absent
  | _            => return .yield (← parts .assignment)

/-- An expression without a comma that is no arrow function with parentheses. -/
def plainAssignment : Reader Tree := do
  let s ← state
  modify fun s => { s with hasCover := false }
  let left ← conditional parts
  let after ← state
  match left, after.token with
  | .name _, .mark "=>" =>
    require (after.index = s.index + 1 && !after.newline)
    -- the name is a parameter: read it again as one
    modify fun _ => s
    shortArrowFunction parts
  | _, t =>
    match assignOp? t with
    | some op =>
      let target ← match op with
        | .plain => assigned s.index false left
        | _      => simpleTarget left
      advance
      let value ← parts .assignment
      modify fun now => { now with hasCover := s.hasCover || now.hasCover }
      match op with
      | .plain      => return .assign target value
      | .binary op  => return .assignBinary op target value
      | .logical op => return .assignLogical op target value
    | none    =>
      modify fun now => { now with hasCover := s.hasCover || now.hasCover }
      return left

/-- An expression without a comma. -/
def assignment : Reader Tree := do
  match ← token with
  | .mark "("           => orElse (arrowFunction parts) (plainAssignment parts)
  | .name "async" false => orElse (asyncArrowFunction parts) (plainAssignment parts)
  | .name "yield" false =>
    if (← context).inGenerator then yieldExpression parts else plainAssignment parts
  | _                   => plainAssignment parts

end Stencil.Script.Syntax
