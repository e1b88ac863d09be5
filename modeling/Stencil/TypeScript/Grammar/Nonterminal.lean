import Stencil.TypeScript.Rule

/-!
# Nonterminals of the TypeScript grammar

What the rules of the grammar refer to. Some depend on what is around them: an expression, for
instance, on whether a statement may end after it.

The modules beside this one hold the rules, one for each part of the language, and
`Stencil.TypeScript.Grammar` puts them together.
-/

namespace Stencil.TypeScript

/-- What is around an expression. -/
structure Setting where
  /-- A statement may end after the expression. -/
  ending : Bool
  /-- `in` is no operator here. -/
  noIn : Bool
  /-- An arrow function has no return type here, where a colon has another use. -/
  noReturnType : Bool
  deriving DecidableEq

/-- An expression inside brackets. -/
def Setting.enclosed : Setting := ⟨false, false, false⟩

/-- An expression that a statement may end after. -/
def Setting.open : Setting := ⟨true, false, false⟩

inductive Nonterminal where
  -- statements
  | program
  | statement (inSwitch : Bool)
  | declaration
  | statementBlock
  | enumDeclaration
  | internalModule
  | ambientDeclaration
  -- classes and functions
  | classBody
  | classHead
  | methodDefinition (ending : Bool)
  | callSignature
  | formalParameters
  | propertyName
  | decorator
  -- patterns
  | pattern
  | bindingTarget
  | destructuring
  -- expressions
  | expressions (setting : Setting)
  | expression (setting : Setting)
  | binary (setting : Setting)
  | unary (setting : Setting)
  | chain (setting : Setting)
  | primary (setting : Setting)
  | arrowFunction (setting : Setting)
  | newExpression (setting : Setting)
  | parenthesized
  | arguments
  | object
  | templateString
  -- types
  | type (ending : Bool)
  | unionType (ending : Bool)
  | intersectionType (ending : Bool)
  | operatorType (ending : Bool)
  | primaryType
  | objectType
  | typeParameters
  | typeArguments
  | typeAscription (ending : Bool)
  | returnAscription (ending : Bool)
  | indexSignature (ending : Bool)
  deriving DecidableEq

/-- A rule of the TypeScript grammar. -/
abbrev GrammarRule := Rule Nonterminal

namespace Rule

/-- A semicolon, or the end of a statement without one. -/
def semicolon (position : Position) : GrammarRule :=
  .choice (.mark ";") (.ending position)

/-- The end of a declaration, which may have ended in an expression or not. -/
def declarationEnd : GrammarRule :=
  oneOf [.mark ";", .ending .afterOther, .seq (.ending .afterExpression) (.ahead (.mark "\x7d"))]

/-- Nothing, unless the statement ends here. -/
def goesOn (ending : Bool) (position : Position) : GrammarRule :=
  if ending then .unless (.ending position) else .empty

/-- Any name, as a node of some kind. -/
def name (kind : Kind) : GrammarRule :=
  .leaf .name kind

/-- Items with commas between them, of which the last may be followed by one; there may be none. -/
def commaList (item : GrammarRule) : GrammarRule :=
  optional (.seq (separated item (.mark ",")) (optional (.mark ",")))

/-- Items with commas between them, each of which may be left out. -/
def sparseList (item : GrammarRule) : GrammarRule :=
  .seq (optional item) (.many (.seq (.mark ",") (optional item)))

end Rule

end Stencil.TypeScript
