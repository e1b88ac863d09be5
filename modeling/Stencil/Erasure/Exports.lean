import Stencil.Edit
import Stencil.Failure
import Stencil.TypeScript.Tree

/-!
# What a module exports

`ExportForm.classify` reads off what an export statement gives: nothing but types, the names of a
declaration, a list of names, or the default. `Exports` collects what the statements of a module
give and writes the header that defines it.
-/

namespace Stencil.Erasure

open TypeScript (Tree Kind)

/-- A fault and the offset where it was found. -/
structure Flaw where
  fault : TranslationFault
  offset : Nat
  deriving DecidableEq

/-- Fail at a tree. -/
def failAt {α : Type} (tree : Tree) (fault : TranslationFault) : Except Flaw α :=
  .error ⟨fault, tree.start⟩

/-- An exported name, written as a string literal, and the local name behind it. -/
structure Binding where
  literal : String
  localName : String
  deriving DecidableEq

/-- A name written as a string literal. -/
def quoted (name : String) : String := "\"" ++ name ++ "\""

/-- A name that is exported as it is. -/
def Binding.same (name : String) : Binding := ⟨quoted name, name⟩

/-! ### Names that a declaration binds -/

/-- Whether a declaration only declares types. -/
def isTypeOnly (declaration : Tree) : Bool :=
  declaration.isKind .typeAliasDeclaration || declaration.isKind .interfaceDeclaration ||
  declaration.isKind .ambientDeclaration || declaration.isKind .functionSignature

mutual

/-- The names that a pattern binds, in order. -/
def patternNames (source : List Char) : Tree → Except Flaw (List String)
  | tree@(.node symbol _ _ children) =>
    match symbol with
    | .kind .identifier => .ok [tree.text source]
    | .kind .shorthandPropertyIdentifierPattern => .ok [tree.text source]
    | .kind .pairPattern => patternNamesOf source .value children
    | .kind .objectAssignmentPattern => patternNamesOf source .left children
    | .kind .assignmentPattern => patternNamesOf source .left children
    | .kind .objectPattern => patternNamesAmong source children
    | .kind .arrayPattern => patternNamesAmong source children
    | .kind .restPattern => patternNamesAmong source children
    | _ => failAt tree .notABindingName

/-- The names that the first of these trees with a role binds. -/
def patternNamesOf (source : List Char) (role : TypeScript.Role) :
    List Tree → Except Flaw (List String)
  | []            => .ok []
  | tree :: trees =>
    if tree.role = some role then patternNames source tree
    else patternNamesOf source role trees

/-- The names that these trees bind, tokens and comments left out. -/
def patternNamesAmong (source : List Char) : List Tree → Except Flaw (List String)
  | []            => .ok []
  | tree :: trees =>
    if tree.isNamed then do
      let names ← patternNames source tree
      let more ← patternNamesAmong source trees
      return names ++ more
    else patternNamesAmong source trees

end

/-- The names that the declarators of a declaration bind. -/
def declaratorNames (source : List Char) : List Tree → Except Flaw (List String)
  | []            => .ok []
  | tree :: trees => do
    let names ← match tree.child? .name with
      | some pattern => patternNames source pattern
      | none         => .ok []
    let more ← declaratorNames source trees
    return names ++ more

/-- The names that a declaration binds. -/
def declaredNames (source : List Char) (declaration : Tree) : Except Flaw (List String) :=
  if declaration.isKind .lexicalDeclaration || declaration.isKind .variableDeclaration then
    declaratorNames source declaration.namedChildren
  else
    match declaration.child? .name with
    | some name =>
      if name.isKind .identifier || name.isKind .typeIdentifier then .ok [name.text source]
      else failAt declaration .namelessDeclaration
    | none      => failAt declaration .namelessDeclaration

/-! ### Export statements -/

/-- What one export statement gives. -/
inductive ExportForm where
  /-- Only types. -/
  | typeOnly
  /-- The names of a declaration, which stays. -/
  | declaration (names : List String)
  /-- A list of names. -/
  | list (bindings : List Binding)
  /-- The default, declared under a name. -/
  | defaultDeclaration (name : String)
  /-- The default, as a value. -/
  | defaultValue
  deriving DecidableEq

/-- The kinds of defaults that declare their name. -/
def declaringKinds : List Kind :=
  [.functionDeclaration, .generatorFunctionDeclaration, .classDeclaration,
   .abstractClassDeclaration, .functionExpression, .generatorFunction, .classExpression]

/-- The bindings of the specifiers of an export list, those of types left out. -/
def specifierBindings (source : List Char) : List Tree → Except Flaw (List Binding)
  | []                      => .ok []
  | specifier :: specifiers =>
    if specifier.hasToken "type" then specifierBindings source specifiers
    else
      match specifier.child? .name with
      | none      => failAt specifier .namelessSpecifier
      | some name => do
        let localName := name.text source
        let literal := match specifier.child? .alias with
          | some given =>
            if given.isKind .string then given.text source else quoted (given.text source)
          | none       => quoted localName
        let bindings ← specifierBindings source specifiers
        return ⟨literal, localName⟩ :: bindings

namespace ExportForm

/-- What the default of an export statement gives. -/
def ofDefault (source : List Char) (statement : Tree) : ExportForm :=
  match (statement.child? .declaration).or (statement.child? .value) with
  | none          => .defaultValue
  | some exported =>
    if isTypeOnly exported then .typeOnly
    else
      match exported.child? .name with
      | some name =>
        if declaringKinds.any fun kind => exported.isKind kind then
          .defaultDeclaration (name.text source)
        else .defaultValue
      | none      => .defaultValue

/-- What an export statement gives. -/
def classify (source : List Char) (statement : Tree) : Except Flaw ExportForm :=
  if (statement.child? .source).isSome then failAt statement .reExport
  else if statement.hasToken "=" then failAt statement .exportAssignment
  else if statement.hasToken "type" then .ok .typeOnly
  else if statement.hasToken "default" then .ok (ofDefault source statement)
  else
    match statement.child? .declaration with
    | some declared =>
      if isTypeOnly declared then .ok .typeOnly
      else (declaredNames source declared).map .declaration
    | none          =>
      match statement.namedChildren.find? (Tree.isKind .exportClause) with
      | some clause => (specifierBindings source clause.namedChildren).map .list
      | none        => failAt statement .unsupportedExport

end ExportForm

/-- Blank the export keyword of a statement. -/
def blankExport (statement : Tree) : List Edit :=
  match statement.token? "export" with
  | some token => [.blank token.start token.stop]
  | none       => []

/-- Where the default keyword of a statement ends. -/
def defaultEnd (statement : Tree) : Nat :=
  match statement.token? "default" with
  | some token => token.stop
  | none       => statement.start

/-! ### The exports of a module -/

/-- What the statements of a module export. -/
structure Exports where
  bindings : List Binding
  /-- The name of the default, when it is declared under one. -/
  defaultName : Option String
  hasDefault : Bool
  deriving DecidableEq

namespace Exports

def empty : Exports := ⟨[], none, false⟩

/-- Add what a statement gives. -/
def add (exports : Exports) : ExportForm → Exports
  | .typeOnly                => exports
  | .declaration names       => { exports with bindings := exports.bindings ++ names.map .same }
  | .list bindings           => { exports with bindings := exports.bindings ++ bindings }
  | .defaultDeclaration name => { exports with defaultName := some name, hasDefault := true }
  | .defaultValue            => { exports with hasDefault := true }

/-- The edits that an export statement of a module needs. -/
def edits (statement : Tree) : ExportForm → List Edit
  | .typeOnly             => [.blank statement.start statement.stop]
  | .declaration _        => blankExport statement
  | .list _               => [.blank statement.start statement.stop]
  | .defaultDeclaration _ => [.blank statement.start (defaultEnd statement)]
  | .defaultValue         => [.replace statement.start (defaultEnd statement) "exports.default ="]

/-- Whether a form gives the default. -/
def givesDefault : ExportForm → Bool
  | .defaultDeclaration _ => true
  | .defaultValue         => true
  | _                     => false

/-- The exports of these statements after those before, and the edits that they need. -/
def collect (source : List Char) (exports : Exports) :
    List Tree → Except Flaw (Exports × List Edit)
  | []                      => .ok (exports, [])
  | statement :: statements =>
    if statement.isKind .exportStatement then do
      let form ← ExportForm.classify source statement
      if givesDefault form && exports.hasDefault then failAt statement .duplicateDefault
      else
        let (exports, more) ← collect source (exports.add form) statements
        return (exports, edits statement form ++ more)
    else collect source exports statements

/-- The bindings without those whose name came before. -/
def distinct (seen : List String) : List Binding → List Binding
  | []                  => []
  | binding :: bindings =>
    if seen.contains binding.literal then distinct seen bindings
    else binding :: distinct (binding.literal :: seen) bindings

/-- The mark of a module. -/
def marker : String :=
  "Object.defineProperty(exports, \"__esModule\", \x7b value: true \x7d);"

/-- The definition of an exported name. -/
def getter (binding : Binding) : String :=
  " Object.defineProperty(exports, " ++ binding.literal ++
    ", \x7b enumerable: true, get: function () \x7b return " ++ binding.localName ++ "; \x7d \x7d);"

/-- The line that defines what a module exports. -/
def header (exports : Exports) : String :=
  marker ++ String.join ((distinct [] exports.bindings).map getter)

/-- The assignment of a default that is declared under a name. -/
def footer (exports : Exports) : String :=
  match exports.defaultName with
  | some name => "\nexports.default = " ++ name ++ ";\n"
  | none      => ""

end Exports

end Stencil.Erasure
