import Stencil.Script.Utf16

/-!
# Script trees

The abstract syntax of scripts. One type holds expressions, patterns and statements; which of them
a tree is, its constructor says. Where a part may be left out, `absent` stands for it.

A block carries the names it declares, so that a block, a function or a script can be entered
without another look at its statements.
-/

namespace Stencil.Script

/-! ### Operators -/

inductive BinaryOp where
  | add | sub | mul | div | mod | power
  | shiftLeft | shiftRight | shiftRightZero
  | bitAnd | bitOr | bitXor
  | looseEq | looseNe | strictEq | strictNe
  | lt | le | gt | ge
  | instanceOf | inObject
  deriving DecidableEq

inductive LogicalOp where
  | and | or | coalesce
  deriving DecidableEq

inductive UnaryOp where
  | minus | plus | not | complement | typeOf | void
  deriving DecidableEq

/-! ### Functions and classes -/

/-- What a function is written as. -/
inductive FunctionKind where
  | plain
  | arrow
  | method
  | getter
  | setter
  | baseConstructor
  | derivedConstructor
  /-- The value of a field, or a static block. -/
  | initializer
  deriving DecidableEq

/-- What is known of a function without its parameters and its body. -/
structure FunctionHead where
  name : Option Utf16
  kind : FunctionKind
  isAsync : Bool
  isGenerator : Bool
  isStrict : Bool
  /-- Whether the body names `arguments`. -/
  usesArguments : Bool
  /-- The names that are declared with `var` in the body, those of functions included. -/
  vars : List Utf16
  /-- The text of the function as it is written. -/
  source : String

/-- A name that a block declares. -/
structure LexicalName where
  name : Utf16
  isConstant : Bool
  deriving DecidableEq

/-- What a class member is. -/
inductive MemberKind where
  | method | getter | setter | field | staticBlock
  deriving DecidableEq

/-! ### Trees -/

inductive Literal where
  | null
  | bool (value : Bool)
  | number (value : Float)
  | text (value : Utf16)
  | big (value : Int)

inductive Tree where
  /-- A part that is left out. -/
  | absent
  -- expressions
  | literal (value : Literal)
  | name (name : Utf16)
  | this
  | newTarget
  | regex (source flags : Utf16)
  | template (texts : List Utf16) (values : List Tree)
  | tagged (tag : Tree) (cooked : List (Option Utf16)) (raw : List Utf16) (values : List Tree)
  | array (items : List Tree)
  | spread (value : Tree)
  | object (members : List Tree)
  | unary (op : UnaryOp) (operand : Tree)
  | delete (operand : Tree)
  | update (step : Int) (givesOld : Bool) (target : Tree)
  | binary (op : BinaryOp) (left right : Tree)
  | hasPrivate (name : Utf16) (object : Tree)
  | logical (op : LogicalOp) (left right : Tree)
  | assign (target value : Tree)
  | assignBinary (op : BinaryOp) (target value : Tree)
  | assignLogical (op : LogicalOp) (target value : Tree)
  | conditional (test yes no : Tree)
  | call (callee : Tree) (arguments : List Tree) (isOptional : Bool)
  | new (callee : Tree) (arguments : List Tree)
  | member (object key : Tree) (isOptional : Bool)
  /-- Where an optional chain that meets nothing ends. -/
  | chain (inner : Tree)
  | superMember (key : Tree)
  | superCall (arguments : List Tree)
  | sequence (first second : Tree)
  | yield (value : Tree)
  | yieldAll (value : Tree)
  | await (value : Tree)
  -- keys of properties
  | named (name : Utf16)
  | computed (value : Tree)
  | privateName (name : Utf16)
  -- members of object literals
  | property (key value : Tree)
  | method (kind : MemberKind) (key code : Tree)
  | proto (value : Tree)
  /-- A name with a default, which only a pattern may hold. -/
  | cover (name : Utf16) (standard : Tree)
  -- patterns, of which names and members are also expressions
  | arrayPattern (elements : List Tree) (rest : Tree)
  | objectPattern (properties : List Tree) (rest : Tree)
  | bindProperty (key pattern : Tree)
  | withDefault (pattern standard : Tree)
  -- functions and classes
  | function (head : FunctionHead) (parameters : List Tree) (rest body : Tree)
  | classValue (name : Option Utf16) (source : String) (parent build : Tree)
    (members : List Tree)
  | classMember (kind : MemberKind) (isStatic : Bool) (key code : Tree)
  -- statements
  | expression (value : Tree)
  | varDeclaration (vars : List Tree)
  | lexicalDeclaration (vars : List Tree)
  | declarator (pattern value : Tree)
  | functionDeclaration (code : Tree)
  | classDeclaration (definition : Tree)
  | block (names : List LexicalName) (functions statements : List Tree)
  | branch (test yes no : Tree)
  | forLoop (names : List LexicalName) (start test update body : Tree)
  | forIn (head object body : Tree)
  | forOf (isAwait : Bool) (head object body : Tree)
  /-- The head of a loop over members: names that each turn declares anew, and what is bound. -/
  | loopNames (names : List LexicalName) (pattern : Tree)
  | whileLoop (test body : Tree)
  | doWhile (body test : Tree)
  | giveBack (value : Tree)
  | breakTo (label : Option Utf16)
  | continueTo (label : Option Utf16)
  | throwing (value : Tree)
  | trying (block parameter handler finalizer : Tree)
  | switch (value : Tree) (names : List LexicalName) (functions cases : List Tree)
  | case (test : Tree) (statements : List Tree)
  | labeled (label : Utf16) (body : Tree)
  | withObject (object body : Tree)

instance : Inhabited Tree := ⟨.absent⟩

namespace Tree

/-- Whether a part is left out. -/
def isAbsent : Tree → Bool
  | absent => true
  | _      => false

/-! ### Names that a pattern binds -/

mutual

/-- The names that a pattern binds, in order. -/
def boundNames : Tree → List Utf16
  | name n                         => [n]
  | arrayPattern elements rest     => boundNamesOf elements ++ rest.boundNames
  | objectPattern properties rest  => boundNamesOf properties ++ rest.boundNames
  | bindProperty _ pattern         => pattern.boundNames
  | withDefault pattern _          => pattern.boundNames
  | declarator pattern _           => pattern.boundNames
  | _                              => []

/-- The names that these patterns bind. -/
def boundNamesOf : List Tree → List Utf16
  | []            => []
  | tree :: trees => tree.boundNames ++ boundNamesOf trees

end

/-! ### Parts of functions -/

/-- How many parameters come before the first with a default. -/
def expectedCount (parameters : List Tree) : Nat :=
  (parameters.takeWhile fun parameter => match parameter with
    | withDefault _ _ => false
    | _               => true).length

/-- Whether all parameters are plain names. -/
def areSimple (parameters : List Tree) (rest : Tree) : Bool :=
  rest.isAbsent && parameters.all fun parameter => match parameter with
    | name _ => true
    | _      => false

/-- Whether a tree is a function without a name, which takes the name of what it is bound to. -/
def isAnonymousFunction : Tree → Bool
  | function head _ _ _         => head.name.isNone
  | classValue none _ _ _ _     => true
  | _                           => false

end Tree

end Stencil.Script
