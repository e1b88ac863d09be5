import Stencil.Text.Offset

/-!
# Syntax trees

The concrete syntax tree of a TypeScript module. Every token of the source is a leaf: words and
marks that only structure the text are *tokens*, and what carries meaning of its own is a node of
some *kind*. A child may play a *role* in its parent, such as its name or its value.

Places are counted in bytes. A comment stands in the innermost node around it.
-/

namespace Stencil.TypeScript

/-! ### Symbols -/

/-- The kinds of nodes. -/
inductive Kind where
  -- the module and its statements
  | program | comment | hashBangLine
  | exportStatement | exportClause | exportSpecifier | namespaceExport
  | importStatement | importClause | importAlias | importRequire
  | expressionStatement | statementBlock | emptyStatement | debuggerStatement
  | ifStatement | elseClause | switchStatement | switchBody | switchCase | switchDefault
  | forStatement | forInStatement | whileStatement | doStatement
  | tryStatement | catchClause | finallyClause | withStatement
  | breakStatement | continueStatement | returnStatement | throwStatement | labeledStatement
  -- declarations
  | functionDeclaration | generatorFunctionDeclaration | functionSignature
  | classDeclaration | abstractClassDeclaration
  | lexicalDeclaration | variableDeclaration | variableDeclarator
  | moduleDeclaration | internalModule
  | typeAliasDeclaration | interfaceDeclaration | ambientDeclaration
  | enumDeclaration | enumBody | enumAssignment
  -- classes
  | classBody | classHeritage | extendsClause | implementsClause | decorator
  | methodDefinition | methodSignature | abstractMethodSignature
  | publicFieldDefinition | classStaticBlock
  | accessibilityModifier | overrideModifier
  -- parameters and patterns
  | formalParameters | requiredParameter | optionalParameter
  | objectPattern | arrayPattern | restPattern | pairPattern
  | assignmentPattern | objectAssignmentPattern | shorthandPropertyIdentifierPattern
  -- names and literals
  | identifier | propertyIdentifier | privatePropertyIdentifier | shorthandPropertyIdentifier
  | statementIdentifier | typeIdentifier | nestedIdentifier | nestedTypeIdentifier
  | computedPropertyName
  | number | string | regex | templateString | stringFragment | templateSubstitution
  | thisValue | superValue | trueValue | falseValue | nullValue | undefinedValue | importValue
  -- expressions
  | object | pair | spreadElement | array
  | functionExpression | generatorFunction | arrowFunction | classExpression
  | parenthesizedExpression | sequenceExpression | callExpression | arguments | newExpression
  | memberExpression | subscriptExpression | optionalChain | metaProperty
  | awaitExpression | yieldExpression | unaryExpression | updateExpression | binaryExpression
  | ternaryExpression | assignmentExpression | augmentedAssignmentExpression
  | asExpression | satisfiesExpression | instantiationExpression | typeAssertion
  | nonNullExpression
  -- types
  | typeAscription | typePredicateAscription | assertsAscription
  | optingTypeAscription | omittingTypeAscription | addingTypeAscription
  | typeParameters | typeParameter | constraint | defaultType | typeArguments
  | typePredicate | asserts | predefinedType | literalType | templateLiteralType | templateType
  | objectType | propertySignature | callSignature | constructSignature | indexSignature
  | mappedTypeClause | arrayType | tupleType | optionalType | restType
  | parenthesizedType | functionType | constructorType | unionType | intersectionType
  | conditionalType | inferType | typeQuery | indexTypeQuery | lookupType | readonlyType
  | genericType | thisType | existentialType
  deriving DecidableEq

/-- What stands at a place of the tree. -/
inductive Symbol where
  | kind (kind : Kind)
  /-- A word or a mark that structures the text. -/
  | token (text : String)
  deriving DecidableEq

/-- The roles of children. -/
inductive Role where
  | name | value | body | declaration | source | alias | parameters | returnType | pattern
  | function | left
  deriving DecidableEq

/-! ### Trees -/

/-- The bytes from `start` up to, not including, `stop`. -/
structure Span where
  start : Nat
  stop : Nat
  deriving DecidableEq

/-- A syntax tree. -/
inductive Tree where
  | node (symbol : Symbol) (role : Option Role) (span : Span) (children : List Tree)

namespace Tree

def symbol : Tree → Symbol
  | node symbol _ _ _ => symbol

def role : Tree → Option Role
  | node _ role _ _ => role

def span : Tree → Span
  | node _ _ span _ => span

def children : Tree → List Tree
  | node _ _ _ children => children

def start (tree : Tree) : Nat := tree.span.start

def stop (tree : Tree) : Nat := tree.span.stop

/-- Give a tree a role in the node it is put into. -/
def withRole (role : Role) : Tree → Tree
  | node symbol _ span children => node symbol (some role) span children

/-- Whether the tree is a node of this kind. -/
def isKind (kind : Kind) (tree : Tree) : Bool :=
  tree.symbol == .kind kind

/-- Whether the tree is this token. -/
def isToken (text : String) (tree : Tree) : Bool :=
  tree.symbol == .token text

/-- Whether the tree is a node of some kind other than a comment. -/
def isNamed (tree : Tree) : Bool :=
  match tree.symbol with
  | .kind .comment => false
  | .kind _        => true
  | .token _       => false

/-- The children that are nodes, without comments. -/
def namedChildren (tree : Tree) : List Tree :=
  tree.children.filter isNamed

/-- The first child with a role. -/
def child? (role : Role) (tree : Tree) : Option Tree :=
  tree.children.find? fun child => child.role == some role

/-- The first child that is this token. -/
def token? (text : String) (tree : Tree) : Option Tree :=
  tree.children.find? (isToken text)

/-- Whether a child is this token. -/
def hasToken (text : String) (tree : Tree) : Bool :=
  (tree.token? text).isSome

end Tree

/-! ### Sources -/

/-- The characters of a source in a span. -/
def Span.slice (span : Span) (source : List Char) : List Char :=
  Text.before (Text.after source span.start) (span.stop - span.start)

/-- The characters that a tree covers. -/
def Tree.chars (source : List Char) (tree : Tree) : List Char :=
  tree.span.slice source

/-- The text that a tree covers. -/
def Tree.text (source : List Char) (tree : Tree) : String :=
  String.ofList (tree.chars source)

end Stencil.TypeScript
