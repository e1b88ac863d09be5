import Stencil.TypeScript.Grammar.Nonterminal

/-!
# Types

The rules for types, their parameters and arguments, and the annotations that hold them.
-/

namespace Stencil.TypeScript.Grammar

open Rule

/-! ### Operators -/

/-- A type: a union, or a condition on one. -/
def type (ending : Bool) : GrammarRule :=
  .grow (.ref (.unionType ending))
    (adoptOf .conditionalType
      [goesOn ending .afterOther, .word "extends", .ref (.unionType false), .mark "?",
        .ref (.type false), .mark ":", .ref (.type ending)])

def unionType (ending : Bool) : GrammarRule :=
  .grow
    (.choice (nodeOf .unionType [.operator ["|"], .ref (.intersectionType ending)])
      (.ref (.intersectionType ending)))
    (adoptOf .unionType [.operator ["|"], .ref (.intersectionType ending)])

def intersectionType (ending : Bool) : GrammarRule :=
  .grow
    (.choice (nodeOf .intersectionType [.operator ["&"], .ref (.operatorType ending)])
      (.ref (.operatorType ending)))
    (adoptOf .intersectionType [.operator ["&"], .ref (.operatorType ending)])

/-- What a function type gives back. -/
def functionResult (ending : Bool) : GrammarRule :=
  oneOf
    [nodeOf .asserts
      [.word "asserts", name .identifier,
        optional (.seq (.word "is") (.ref (.type ending)))],
     nodeOf .typePredicate [name .identifier, .word "is", .ref (.type ending)],
     .ref (.type ending)]

/-- A type that an operator word begins, or a chain of array and lookup types. -/
def operatorType (ending : Bool) : GrammarRule :=
  oneOf
    [nodeOf .functionType
      [optional (.ref .typeParameters), .ref .formalParameters, .mark "=>", functionResult ending],
     nodeOf .constructorType
      [optional (.word "abstract"), .word "new", optional (.ref .typeParameters),
        .ref .formalParameters, .mark "=>", .ref (.type ending)],
     nodeOf .inferType
      [.word "infer", name .typeIdentifier,
        optional (nodeOf .constraint [.word "extends", .ref (.unionType ending)])],
     nodeOf .readonlyType [.word "readonly", .ref (.operatorType ending)],
     nodeOf .indexTypeQuery [.word "keyof", .ref (.operatorType ending)],
     .grow (.ref .primaryType)
      (.seq (goesOn ending .afterOther)
        (.choice
          (adoptOf .arrayType [.mark "[", .mark "]"])
          (adoptOf .lookupType [.mark "[", .ref (.type false), .mark "]"])))]

/-! ### Primary types -/

/-- The words that name built-in types. -/
def predefinedTypes : List String :=
  ["any", "number", "boolean", "string", "symbol", "void", "unknown", "never", "object"]

/-- The words that begin a type and so name none. -/
def typeWords : List String :=
  ["typeof", "keyof", "new", "import", "infer", "function", "class", "this"]

/-- A name, with the modules before it. -/
def typeName : GrammarRule :=
  .choice
    (nodeOf .nestedTypeIdentifier
      [.leaf (.nameExcept typeWords) .identifier,
        .many (sequence [.mark ".", name .propertyIdentifier, .ahead (.mark ".")]),
        .mark ".", name .typeIdentifier])
    (.leaf (.nameExcept typeWords) .typeIdentifier)

/-- The value whose type is asked for. -/
def queriedValue : GrammarRule :=
  .grow
    (oneOf
      [.seq (.leaf (.nameAmong ["import"]) .importValue) (.ref .arguments),
       .leaf (.nameAmong ["this"]) .thisValue,
       name .identifier])
    (oneOf
      [adoptOf .memberExpression
        [.operator [".", "?."], .choice (.leaf .privateName .privatePropertyIdentifier)
          (name .propertyIdentifier)],
       adoptOf .subscriptExpression
        [.mark "[", .choice (.leaf .string .string) (.leaf .number .number), .mark "]"]])

def templateLiteralType : GrammarRule :=
  nodeOf .templateLiteralType
    [.mark "`", .templateText,
      .many (sequence
        [nodeOf .templateType [.glued "$\x7b", .ref (.type false), .mark "\x7d"], .templateText]),
      .glued "`"]

/-- A member of a tuple. -/
def tupleMember : GrammarRule :=
  oneOf
    [nodeOf .requiredParameter [name .identifier, .ref (.typeAscription false)],
     nodeOf .requiredParameter
      [nodeOf .restPattern [.mark "...", name .identifier], .ref (.typeAscription false)],
     nodeOf .optionalParameter [name .identifier, .mark "?", .ref (.typeAscription false)],
     nodeOf .restType [.mark "...", .ref (.type false)],
     .grow (.ref (.type false)) (adoptOf .optionalType [.mark "?"])]

def primaryType : GrammarRule :=
  oneOf
    [nodeOf .parenthesizedType [.mark "(", .ref (.type false), .mark ")"],
     nodeOf .predefinedType [.word "unique", .word "symbol"],
     .leaf (.nameAmong predefinedTypes) .predefinedType,
     nodeOf .typeQuery [.word "typeof", queriedValue, optional (.ref .typeArguments)],
     .leaf (.nameAmong ["this"]) .thisType,
     .grow (.seq (.leaf (.nameAmong ["import"]) .importValue) (.ref .arguments))
      (oneOf
        [adoptOf .memberExpression [.mark ".", name .propertyIdentifier],
         adoptOf .genericType [.ref .typeArguments]]),
     .leaf .string .literalType,
     nodeOf .literalType [.operator ["-", "+"], .leaf .number .number],
     .leaf .number .literalType,
     .leaf (.nameAmong ["true", "false", "null", "undefined"]) .literalType,
     templateLiteralType,
     .ref .objectType,
     nodeOf .tupleType [.mark "[", commaList tupleMember, .mark "]"],
     .leaf (.mark "*") .existentialType,
     .grow typeName (adoptOf .genericType [.ref .typeArguments])]

/-! ### Object types -/

/-- A word that modifies a member, where the name of the member follows. -/
def modifier (ending : Bool) (rule : GrammarRule) : GrammarRule :=
  sequence
    [rule, goesOn ending .afterOther,
      .ahead (oneOf
        [name .identifier, .leaf .privateName .identifier, .leaf .string .string,
         .leaf .number .number, .mark "[", .mark "*"])]

/-- A modifier that is a token. -/
def modifierWord (ending : Bool) (text : String) : GrammarRule :=
  modifier ending (.word text)

def accessibility : GrammarRule :=
  .leaf (.nameAmong ["public", "private", "protected"]) .accessibilityModifier

/-- The modifiers and the name of a method. -/
def methodHead (ending : Bool) : GrammarRule :=
  sequence
    [optional (modifier ending accessibility),
     optional (modifierWord ending "static"),
     optional (modifier ending (.leaf (.nameAmong ["override"]) .overrideModifier)),
     optional (modifierWord ending "readonly"),
     optional (modifierWord ending "async"),
     optional (oneOf [modifierWord ending "get", modifierWord ending "set", .mark "*"]),
     .role .name (.ref .propertyName),
     optional (.mark "?"),
     goesOn ending .afterOther]

def methodSignature : GrammarRule :=
  nodeOf .methodSignature [methodHead true, .ref .callSignature]

/-- A property of an object type. -/
def propertySignature : GrammarRule :=
  nodeOf .propertySignature
    [optional (modifier true accessibility),
     optional (modifierWord true "static"),
     optional (modifier true (.leaf (.nameAmong ["override"]) .overrideModifier)),
     optional (modifierWord true "readonly"),
     .role .name (.ref .propertyName),
     optional (.mark "?"),
     optional (.ref (.typeAscription true))]

def objectMember : GrammarRule :=
  oneOf
    [.ref (.indexSignature true),
     nodeOf .constructSignature
      [optional (.word "abstract"), .word "new", optional (.ref .typeParameters),
        .ref .formalParameters, optional (.ref (.typeAscription true))],
     nodeOf .callSignature [.ref .callSignature],
     methodSignature,
     propertySignature]

/-- What separates two members of an object type. -/
def memberSeparator : GrammarRule :=
  oneOf [.mark ",", .mark ";", .ending .afterOther]

def objectType : GrammarRule :=
  nodeOf .objectType
    [.mark "\x7b", optional (.choice (.mark ",") (.mark ";")),
      optional (sequence
        [objectMember, .many (.seq memberSeparator objectMember), optional memberSeparator]),
      .mark "\x7d"]

/-- The types of the members that an object has under further keys. -/
def indexSignature (ending : Bool) : GrammarRule :=
  nodeOf .indexSignature
    [optional (.seq (optional (.choice (.mark "-") (.mark "+"))) (.word "readonly")),
      .mark "[",
      .choice
        (sequence [name .identifier, .mark ":", .ref (.type false)])
        (nodeOf .mappedTypeClause
          [name .typeIdentifier, .word "in", .ref (.type false),
            optional (.seq (.word "as") (.ref (.type false)))]),
      .mark "]",
      oneOf
        [.ref (.typeAscription ending),
         nodeOf .omittingTypeAscription [.mark "-?:", .ref (.type ending)],
         nodeOf .addingTypeAscription [.mark "+?:", .ref (.type ending)],
         nodeOf .optingTypeAscription [.mark "?:", .ref (.type ending)]]]

/-! ### Parameters, arguments and annotations -/

def typeParameters : GrammarRule :=
  nodeOf .typeParameters
    [.mark "<",
      separated
        (nodeOf .typeParameter
          [.many (sequence
            [oneOf [.word "const", .word "in", .word "out"], .ahead (name .typeIdentifier),
              .unless (.word "extends")]),
           name .typeIdentifier,
           optional (nodeOf .constraint
            [.choice (.word "extends") (.mark ":"), .ref (.type false)]),
           optional (nodeOf .defaultType [.mark "=", .ref (.type false)])])
        (.mark ","),
      optional (.mark ","), .mark ">"]

def typeArguments : GrammarRule :=
  nodeOf .typeArguments
    [.mark "<", separated (.ref (.type false)) (.mark ","), optional (.mark ","), .mark ">"]

def typeAscription (ending : Bool) : GrammarRule :=
  nodeOf .typeAscription [.mark ":", .ref (.type ending)]

/-- The annotation of what a function gives back. -/
def returnAscription (ending : Bool) : GrammarRule :=
  oneOf
    [nodeOf .assertsAscription
      [.mark ":", nodeOf .asserts
        [.word "asserts", name .identifier,
          optional (.seq (.word "is") (.ref (.type ending)))]],
     nodeOf .typePredicateAscription
      [.mark ":", nodeOf .typePredicate [name .identifier, .word "is", .ref (.type ending)]],
     .ref (.typeAscription ending)]

end Stencil.TypeScript.Grammar
