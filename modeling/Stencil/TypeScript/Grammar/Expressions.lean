import Stencil.TypeScript.Grammar.Types

/-!
# Expressions and patterns

The rules for values, for the patterns that take them apart, and for functions as values.

Binary operations grow to the left whatever their operators are: the tree records which syntax
stands where, and not in which order operations are carried out.
-/

namespace Stencil.TypeScript.Grammar

open Rule

/-! ### Names -/

/-- The words that begin an expression and so name no value there. -/
def valueWords : List String :=
  ["this", "super", "true", "false", "null", "undefined", "import", "function", "class",
   "typeof", "void", "delete", "await", "yield"]

/-- The words that go on with an expression after a name. -/
def operatorWords : List String :=
  ["as", "satisfies", "in", "instanceof"]

/-- The name of a property, in a literal, a class or a type. -/
def propertyName : GrammarRule :=
  oneOf
    [name .propertyIdentifier,
     .leaf .privateName .privatePropertyIdentifier,
     .leaf .string .string,
     .leaf .number .number,
     nodeOf .computedPropertyName [.mark "[", .ref (.expressions .enclosed), .mark "]"]]

def decorator : GrammarRule :=
  nodeOf .decorator
    [.mark "@",
      .grow (.choice (.ref .parenthesized) (name .identifier))
        (oneOf
          [adoptOf .memberExpression [.mark ".", name .propertyIdentifier],
           adoptOf .callExpression [optional (.ref .typeArguments), .ref .arguments]])]

/-! ### Patterns -/

/-- The kinds of expressions that can be assigned to. -/
def assignable : List Kind :=
  [.identifier, .memberExpression, .subscriptExpression, .nonNullExpression]

/-- A default value. -/
def initializer (setting : Setting) : GrammarRule :=
  sequence [.operator ["="], .role .value (.ref (.expression setting))]

/-- A pattern or a pattern with a default value. -/
def patternWithDefault : GrammarRule :=
  .grow (.ref .pattern)
    (adoptOfLeft .assignmentPattern [.operator ["="], .ref (.expression .enclosed)])
where
  adoptOfLeft (kind : Kind) (rules : List GrammarRule) : GrammarRule :=
    .adopt kind (some .left) (sequence rules)

def restPattern : GrammarRule :=
  nodeOf .restPattern [.mark "...", .ref .pattern]

/-- The parts that take a member of the value before. -/
def memberTail : GrammarRule :=
  oneOf
    [adoptOf .memberExpression
      [.operator ["."],
       .choice (.leaf .privateName .privatePropertyIdentifier) (name .propertyIdentifier)],
     adoptOf .subscriptExpression [.mark "[", .ref (.expressions .enclosed), .mark "]"]]

/-- What a pattern binds: a destructuring pattern, or something that can be assigned to. -/
def pattern : GrammarRule :=
  oneOf
    [.ref .destructuring,
     restPattern,
     .only assignable
      (.grow
        (oneOf
          [.leaf (.nameAmong ["this"]) .thisValue,
           .leaf (.nameAmong ["super"]) .superValue,
           .leaf (.nameExcept valueWords) .identifier])
        (.choice memberTail (adoptOf .nonNullExpression [.operator ["!"]])))]

/-- What a declaration binds: a name or a destructuring pattern. -/
def bindingTarget : GrammarRule :=
  .choice (.ref .destructuring) (name .identifier)

/-- A member of an object pattern. -/
def objectPatternMember : GrammarRule :=
  oneOf
    [nodeOf .pairPattern
      [.ref .propertyName, .mark ":", .role .value patternWithDefault],
     restPattern,
     nodeOf .objectAssignmentPattern
      [.role .left
        (.choice (name .shorthandPropertyIdentifierPattern) (.ref .destructuring)),
       .operator ["="], .ref (.expression .enclosed)],
     name .shorthandPropertyIdentifierPattern]

def destructuring : GrammarRule :=
  .choice
    (nodeOf .objectPattern [.mark "\x7b", sparseList objectPatternMember, .mark "\x7d"])
    (nodeOf .arrayPattern [.mark "[", sparseList patternWithDefault, .mark "]"])

/-! ### Functions -/

/-- The modifiers of a parameter and what it binds. -/
def parameterTarget : GrammarRule :=
  .seq (.many (.ref .decorator))
    (oneOf
      [sequence
        [optional (modified accessibility),
         optional (modified (.leaf (.nameAmong ["override"]) .overrideModifier)),
         optional (modified (.seq (.word "readonly") (.unless (.mark "[")))),
         bound],
       bound])
where
  /-- A modifier, where the target of the parameter follows. -/
  modified (rule : GrammarRule) : GrammarRule :=
    .seq rule (.ahead (oneOf
      [name .identifier, .mark "\x7b", .mark "[", .mark "..."]))
  /-- What the parameter binds. -/
  bound : GrammarRule :=
    .role .pattern (.choice (.leaf (.nameAmong ["this"]) .thisValue) (.ref .pattern))

def parameter : GrammarRule :=
  .choice
    (nodeOf .requiredParameter
      [parameterTarget, .unless (.mark "?"), optional (.ref (.typeAscription false)),
       optional (initializer .enclosed)])
    (nodeOf .optionalParameter
      [parameterTarget, .mark "?", optional (.ref (.typeAscription false)),
       optional (initializer .enclosed)])

def formalParameters : GrammarRule :=
  nodeOf .formalParameters [.mark "(", commaList parameter, .mark ")"]

/-- The type parameters, the parameters and the return type of a function. -/
def callSignature : GrammarRule :=
  signature (.ref (.returnAscription true))
where
  signature (returned : GrammarRule) : GrammarRule :=
    sequence
      [optional (.ref .typeParameters), .role .parameters (.ref .formalParameters),
       optional (.role .returnType returned)]

/-- A function that an arrow makes. -/
def arrowFunction (setting : Setting) : GrammarRule :=
  nodeOf .arrowFunction
    [.choice (.seq asyncWord parameters) parameters,
     .operator ["=>"],
     .role .body (.choice (.ref .statementBlock) (.ref (.expression setting)))]
where
  asyncWord : GrammarRule :=
    .seq (.word "async") (goesOn setting.ending .afterExpression)
  parameters : GrammarRule :=
    .choice
      (sequence
        [optional (.ref .typeParameters), .role .parameters (.ref .formalParameters),
         if setting.noReturnType then .empty
         else optional (.role .returnType (.ref (.returnAscription false)))])
      (.leaf (.nameExcept valueWords) .identifier)

/-- A function as a value. -/
def functionExpression (setting : Setting) : GrammarRule :=
  .choice
    (nodeOf .generatorFunction
      [asyncWord, .word "function", .mark "*", optional (.role .name (name .identifier)),
       .ref .callSignature, .role .body (.ref .statementBlock)])
    (nodeOf .functionExpression
      [asyncWord, .word "function", optional (.role .name (name .identifier)),
       .ref .callSignature, .role .body (.ref .statementBlock)])
where
  asyncWord : GrammarRule :=
    optional (.seq (.word "async") (goesOn setting.ending .afterExpression))

/-! ### Literals -/

/-- A method of an object or a class, with its body. -/
def methodDefinition (ending : Bool) : GrammarRule :=
  nodeOf .methodDefinition
    [methodHead ending, .ref .callSignature, .role .body (.ref .statementBlock)]

def spreadElement : GrammarRule :=
  nodeOf .spreadElement [.mark "...", .ref (.expression .enclosed)]

def object : GrammarRule :=
  nodeOf .object
    [.mark "\x7b",
     sparseList (oneOf
      [.ref (.methodDefinition false),
       nodeOf .pair
        [.ref .propertyName, .mark ":", .role .value (.ref (.expression .enclosed))],
       spreadElement,
       name .shorthandPropertyIdentifier]),
     .mark "\x7d"]

def array : GrammarRule :=
  nodeOf .array
    [.mark "[", sparseList (.choice spreadElement (.ref (.expression .enclosed))), .mark "]"]

def arguments : GrammarRule :=
  nodeOf .arguments
    [.mark "(", sparseList (.choice spreadElement (.ref (.expression .enclosed))), .mark ")"]

def templateString : GrammarRule :=
  nodeOf .templateString
    [.mark "`", .templateText,
      .many (sequence
        [nodeOf .templateSubstitution
          [.glued "$\x7b", .ref (.expressions .enclosed), .mark "\x7d"],
         .templateText]),
      .glued "`"]

def parenthesized : GrammarRule :=
  nodeOf .parenthesizedExpression
    [.mark "(", .ref (.expressions .enclosed), optional (.ref (.typeAscription false)),
     .mark ")"]

/-! ### Chains -/

/-- Where type arguments stand alone: what follows them begins no operand. -/
def noOperand (setting : Setting) : GrammarRule :=
  .choice
    (if setting.ending then .ahead (.ending .afterExpression) else .unless .empty)
    (.unless (oneOf
      [.leaf (.nameExcept operatorWords) .identifier, .leaf .number .number,
       .leaf .string .string, .mark "(", .mark "[", .mark "\x7b", .mark "`", .mark "/",
       .mark "+", .mark "-", .mark "<", .mark ">", .mark "~", .mark "@", .mark "#"]))

/-- The parts that go on a chain of members and calls. -/
def chainTail (setting : Setting) : GrammarRule :=
  .seq (goesOn setting.ending .afterExpression)
    (oneOf
      [memberTail,
       .adopt .callExpression (some .function) (.ref .arguments),
       .adopt .callExpression (some .function) (.ref .templateString),
       adoptOf .nonNullExpression [.operator ["!"]],
       adoptOf .memberExpression
        [optionalChain,
         .choice (.leaf .privateName .privatePropertyIdentifier) (name .propertyIdentifier)],
       adoptOf .subscriptExpression
        [optionalChain, .mark "[", .ref (.expressions .enclosed), .mark "]"],
       .adopt .callExpression (some .function)
        (sequence [optionalChain, optional (.ref .typeArguments), .ref .arguments]),
       .adopt .callExpression (some .function) (.seq (.ref .typeArguments) (.ref .arguments)),
       adoptOf .instantiationExpression [.ref .typeArguments, noOperand setting]])
where
  optionalChain : GrammarRule :=
    .node .optionalChain (.operator ["?."])

def chain (setting : Setting) : GrammarRule :=
  .grow (.ref (.primary setting)) (chainTail setting)

def newExpression (setting : Setting) : GrammarRule :=
  nodeOf .newExpression
    [.word "new",
     .grow (.choice (.ref (.newExpression setting)) (.ref (.primary setting)))
      (.seq (goesOn setting.ending .afterExpression)
        (.choice memberTail (adoptOf .nonNullExpression [.operator ["!"]]))),
     optional (.seq (.ref .typeArguments) (.choice (.ahead (.mark "(")) (noOperand setting))),
     optional (.seq (goesOn setting.ending .afterExpression) (.ref .arguments))]

/-- A value that no other operator splits. -/
def primary (setting : Setting) : GrammarRule :=
  oneOf
    [.ref (.arrowFunction setting),
     functionExpression setting,
     .ref .parenthesized,
     .ref .object,
     array,
     .leaf .number .number,
     .leaf .string .string,
     .ref .templateString,
     .leaf .regex .regex,
     .leaf (.nameAmong ["this"]) .thisValue,
     .leaf (.nameAmong ["super"]) .superValue,
     .leaf (.nameAmong ["true"]) .trueValue,
     .leaf (.nameAmong ["false"]) .falseValue,
     .leaf (.nameAmong ["null"]) .nullValue,
     .leaf (.nameAmong ["undefined"]) .undefinedValue,
     nodeOf .metaProperty [.word "import", .mark ".", .word "meta"],
     .leaf (.nameAmong ["import"]) .importValue,
     nodeOf .metaProperty [.word "new", .mark ".", .word "target"],
     .ref (.newExpression setting),
     nodeOf .classExpression
      [.many (.ref .decorator), .word "class", .ref .classHead, .role .body (.ref .classBody)],
     .leaf .privateName .privatePropertyIdentifier,
     .leaf (.nameExcept valueWords) .identifier]

/-! ### Operations -/

/-- An operand: a chain, a step by one, or an operation on one operand. -/
def unary (setting : Setting) : GrammarRule :=
  oneOf
    [nodeOf .unaryExpression [.operator ["!", "~", "-", "+"], .ref (.unary setting)],
     nodeOf .unaryExpression
      [.choice (.word "typeof") (.choice (.word "void") (.word "delete")), .ref (.unary setting)],
     nodeOf .awaitExpression [.word "await", .ref (.unary setting)],
     nodeOf .updateExpression [.operator ["++", "--"], .ref (.unary setting)],
     .grow (.ref (.chain setting))
      (.seq (goesOn setting.ending .afterExpression)
        (adoptOf .updateExpression [.operator ["++", "--"]])),
     nodeOf .typeAssertion [.ref .typeArguments, .ref (.unary setting)]]

/-- The marks of operations on two operands. -/
def binaryMarks : List String :=
  ["+", "-", "*", "/", "%", "**", "<<", ">>", ">>>", "&", "|", "^", "&&", "||", "??",
   "<", "<=", ">", ">=", "==", "!=", "===", "!=="]

/-- Operations on two operands, and the type operations that bind like them. -/
def binary (setting : Setting) : GrammarRule :=
  .grow (.ref (.unary setting))
    (.seq (goesOn setting.ending .afterExpression)
      (oneOf
        [adoptOf .binaryExpression [.operator binaryMarks, .ref (.unary setting)],
         adoptOf .binaryExpression
          [if setting.noIn then .word "instanceof"
           else .choice (.word "in") (.word "instanceof"),
           .ref (.unary setting)],
         adoptOf .asExpression
          [.word "as",
           .choice (.seq (.word "const") (.unless (.mark "."))) (.ref (.type setting.ending))],
         adoptOf .satisfiesExpression [.word "satisfies", .ref (.type setting.ending)]]))

/-- The marks that assign the result of an operation. -/
def augmentedMarks : List String :=
  ["*=", "/=", "%=", "+=", "-=", "<<=", ">>=", ">>>=", "&=", "^=", "|=", "**=", "&&=", "||=",
   "??="]

/-- An expression without commas outside brackets. -/
def expression (setting : Setting) : GrammarRule :=
  oneOf
    [nodeOf .yieldExpression
      [.word "yield",
       .choice (.seq (.operator ["*"]) (.ref (.expression setting)))
        (optional (.seq (goesOn setting.ending .afterExpression) (.ref (.expression setting))))],
     .only [.assignmentExpression]
      (.grow (.ref .destructuring)
        (adoptOf .assignmentExpression [.operator ["="], .ref (.expression setting)])),
     .grow (.ref (.binary setting))
      (.seq (goesOn setting.ending .afterExpression)
        (oneOf
          [adoptOf .ternaryExpression
            [.operator ["?"], .ref (.expression .enclosed), .mark ":",
             .ref (.expression setting)],
           adoptOf .ternaryExpression
            [.operator ["?"], .ref (.expression ⟨false, false, true⟩), .mark ":",
             .ref (.expression setting)],
           .seq (.after (.parenthesizedExpression :: assignable))
            (adoptOf .assignmentExpression [.operator ["="], .ref (.expression setting)]),
           .seq (.after (.parenthesizedExpression :: assignable))
            (adoptOf .augmentedAssignmentExpression
              [.operator augmentedMarks, .ref (.expression setting)])]))]

/-- Expressions with commas between them. -/
def expressions (setting : Setting) : GrammarRule :=
  .grow (.ref (.expression setting))
    (.seq (goesOn setting.ending .afterExpression)
      (adoptOf .sequenceExpression [.mark ",", .ref (.expression setting)]))

end Stencil.TypeScript.Grammar
