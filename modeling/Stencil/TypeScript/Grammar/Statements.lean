import Stencil.TypeScript.Grammar.Expressions

/-!
# Statements and declarations

The rules for classes, the declarations of a module, and statements.
-/

namespace Stencil.TypeScript.Grammar

open Rule

/-! ### Classes -/

/-- The name of a class, its type parameters and what it extends and implements. -/
def classHead : GrammarRule :=
  sequence
    [optional (.role .name (.leaf (.nameExcept ["extends", "implements"]) .typeIdentifier)),
     optional (.ref .typeParameters),
     optional (.node .classHeritage
      (.choice (.seq extended (optional implemented)) implemented))]
where
  extended : GrammarRule :=
    nodeOf .extendsClause
      [.word "extends",
       separated (.seq (.role .value (.ref (.chain .enclosed))) (optional (.ref .typeArguments)))
        (.mark ",")]
  implemented : GrammarRule :=
    nodeOf .implementsClause [.word "implements", separated (.ref (.type false)) (.mark ",")]

/-- A declared class, which has a name. -/
def classDeclarationHead : GrammarRule :=
  .seq (.ahead (.leaf (.nameExcept ["extends", "implements"]) .typeIdentifier)) (.ref .classHead)

/-- The modifiers of a field. -/
def fieldModifiers : GrammarRule :=
  sequence
    [.many (.ref .decorator),
     optional (oneOf
      [.seq (modifierWord true "declare") (optional (modifier true accessibility)),
       .seq (modifier true accessibility) (optional (modifierWord true "declare"))]),
     optional (oneOf
      [sequence
        [modifierWord true "static", optional override, optional (modifierWord true "readonly")],
       .seq override (optional (modifierWord true "readonly")),
       .seq (modifierWord true "abstract") (optional (modifierWord true "readonly")),
       .seq (modifierWord true "readonly") (optional (modifierWord true "abstract")),
       modifierWord true "accessor"])]
where
  override : GrammarRule :=
    modifier true (.leaf (.nameAmong ["override"]) .overrideModifier)

/-- A field up to its value. -/
def fieldHead : GrammarRule :=
  sequence
    [fieldModifiers, .role .name (.ref .propertyName),
     optional (.choice (.mark "?") (.mark "!")), optional (.ref (.typeAscription true))]

/-- A field with what separates it from the next member. -/
def field : GrammarRule :=
  .choice
    (.seq (nodeOf .publicFieldDefinition [fieldHead, initializer .open])
      (separator .afterExpression))
    (.seq (.node .publicFieldDefinition fieldHead) (separator .afterOther))
where
  separator (position : Position) : GrammarRule :=
    oneOf [.mark ",", .mark ";", .ending position]

def abstractMethodSignature : GrammarRule :=
  nodeOf .abstractMethodSignature
    [optional (modifier true accessibility), modifierWord true "abstract",
     optional (modifier true (.leaf (.nameAmong ["override"]) .overrideModifier)),
     optional (oneOf [modifierWord true "get", modifierWord true "set", .mark "*"]),
     .role .name (.ref .propertyName), optional (.mark "?"), .ref .callSignature]

/-- A member of a class with what separates it from the next. -/
def classMember : GrammarRule :=
  oneOf
    [sequence
      [.many (.ref .decorator), .ref (.methodDefinition true),
       optional (semicolon .afterOther)],
     .seq
      (nodeOf .classStaticBlock [.word "static", .role .body (.ref .statementBlock)])
      (optional (.mark ";")),
     .seq (oneOf [.ref (.indexSignature true), abstractMethodSignature])
      (oneOf [.mark ",", .mark ";", .ending .afterOther]),
     .seq (.many (.ref .decorator)) (.seq methodSignature
      (oneOf [.mark ",", .mark ";", .ending .afterSignature])),
     field,
     .mark ";"]

def classBody : GrammarRule :=
  nodeOf .classBody [.mark "\x7b", .many classMember, .mark "\x7d"]

/-! ### Declarations -/

/-- A block; an end of a statement right after it belongs to it. -/
def statementBlock : GrammarRule :=
  nodeOf .statementBlock
    [.mark "\x7b", .many (.ref (.statement false)), .mark "\x7d",
     optional (.ending .afterOther)]

/-- A variable with its value. -/
def variableDeclarator (setting : Setting) (target : GrammarRule) : GrammarRule :=
  .choice
    (nodeOf .variableDeclarator
      [.role .name target, optional (.ref (.typeAscription setting.ending)),
       .unless (.operator ["!"]), optional (initializer setting)])
    (nodeOf .variableDeclarator
      [.role .name (name .identifier), .mark "!", .ref (.typeAscription setting.ending)])

/-- Variables of a kind. -/
def vars (setting : Setting) : GrammarRule :=
  oneOf
    [nodeOf .lexicalDeclaration
      [.word "let", goesOn true .afterExpression,
       list (.choice (.ref .destructuring) (.leaf (.nameExcept operatorWords) .identifier)),
       declarationEnd],
     nodeOf .lexicalDeclaration
      [.word "const",
       list (.choice (.ref .destructuring) (.leaf (.nameExcept ["enum"]) .identifier)),
       declarationEnd],
     nodeOf .variableDeclaration [.word "var", list (.ref .bindingTarget), declarationEnd]]
where
  list (target : GrammarRule) : GrammarRule :=
    separated (variableDeclarator setting target) (.mark ",")

/-- A function that a statement declares. -/
def functionDeclaration : GrammarRule :=
  oneOf
    [nodeOf .generatorFunctionDeclaration
      [asyncWord, .word "function", .mark "*", .role .name (name .identifier),
       .ref .callSignature, .role .body (.ref .statementBlock), optional (.ending .afterOther)],
     nodeOf .functionDeclaration
      [asyncWord, .word "function", .role .name (name .identifier),
       .ref .callSignature, .role .body (.ref .statementBlock), optional (.ending .afterOther)],
     nodeOf .functionSignature
      [asyncWord, .word "function", .role .name (name .identifier), .ref .callSignature,
       semicolon .afterSignature]]
where
  asyncWord : GrammarRule :=
    optional (.seq (.word "async") (goesOn true .afterExpression))

def classDeclaration : GrammarRule :=
  .choice
    (nodeOf .abstractClassDeclaration
      [.many (.ref .decorator), .word "abstract", .word "class", classDeclarationHead,
       .role .body (.ref .classBody)])
    (nodeOf .classDeclaration
      [.many (.ref .decorator), .word "class", classDeclarationHead,
       .role .body (.ref .classBody), optional (.ending .afterOther)])

def enumDeclaration : GrammarRule :=
  nodeOf .enumDeclaration
    [optional (.word "const"), .word "enum", .role .name (name .identifier),
     .role .body (nodeOf .enumBody [.mark "\x7b", commaList member, .mark "\x7d"])]
where
  member : GrammarRule :=
    .choice
      (nodeOf .enumAssignment
        [.role .name (.ref .propertyName), initializer .enclosed])
      (.role .name (.ref .propertyName))

/-- The name of a module, which may be a path of names or a string. -/
def moduleName : GrammarRule :=
  .role .name (oneOf
    [.leaf .string .string,
     .grow (.leaf (.nameExcept operatorWords) .identifier)
      (adoptOf .nestedIdentifier [.mark ".", name .propertyIdentifier])])

/-- A namespace; `body` is whatever may stand between its name and its body. -/
def internalModule (body : GrammarRule) : GrammarRule :=
  nodeOf .internalModule
    [.word "namespace", goesOn true .afterExpression, moduleName,
     optional (.seq body (.role .body (.ref .statementBlock)))]

def moduleDeclaration : GrammarRule :=
  nodeOf .moduleDeclaration
    [.word "module", goesOn true .afterExpression, moduleName,
     optional (.role .body (.ref .statementBlock))]

def typeAliasDeclaration : GrammarRule :=
  nodeOf .typeAliasDeclaration
    [.word "type", goesOn true .afterExpression,
     .role .name (.leaf (.nameExcept operatorWords) .typeIdentifier),
     optional (.ref .typeParameters), .operator ["="], .ref (.type true), semicolon .afterOther]

def interfaceDeclaration : GrammarRule :=
  nodeOf .interfaceDeclaration
    [.word "interface", .role .name (name .typeIdentifier), optional (.ref .typeParameters),
     optional (.seq (.word "extends") (separated (.ref (.type false)) (.mark ","))),
     .role .body (.ref .objectType)]

def importAlias : GrammarRule :=
  nodeOf .importAlias
    [.word "import", name .identifier, .operator ["="],
     .grow (name .identifier) (adoptOf .nestedIdentifier [.mark ".", name .propertyIdentifier]),
     semicolon .afterOther]

/-- A declaration of something that exists elsewhere. -/
def ambientDeclaration : GrammarRule :=
  nodeOf .ambientDeclaration
    [.word "declare", goesOn true .afterExpression,
     oneOf
      [.seq (.word "global") (.ref .statementBlock),
       sequence
        [.word "module", .mark ".", name .propertyIdentifier, .mark ":", .ref (.type true),
         semicolon .afterOther],
       .ref .declaration]]

/-- A declaration that another statement may follow at once. -/
def declaration : GrammarRule :=
  oneOf
    [functionDeclaration,
     classDeclaration,
     .ref .enumDeclaration,
     vars .open,
     typeAliasDeclaration,
     interfaceDeclaration,
     .ref .ambientDeclaration,
     internalModule .empty,
     moduleDeclaration,
     importAlias]

/-! ### Imports and exports -/

/-- The name under which a module gives or takes something. -/
def moduleExportName : GrammarRule :=
  .choice (.leaf .string .string) (name .identifier)

def fromClause : GrammarRule :=
  sequence
    [.word "from", .role .source (.leaf .string .string),
     optional (.seq (.choice (.word "with") (.word "assert")) (.ref .object))]

def exportSpecifier : GrammarRule :=
  .choice
    (nodeOf .exportSpecifier
      [.choice (.word "type") (.word "typeof"), .role .name moduleExportName, newName])
    (nodeOf .exportSpecifier [.role .name moduleExportName, newName])
where
  newName : GrammarRule :=
    .seq (optional (.seq (.word "as") (.role .alias moduleExportName)))
      (.ahead (.choice (.mark ",") (.mark "\x7d")))

def exportClause : GrammarRule :=
  nodeOf .exportClause [.mark "\x7b", commaList exportSpecifier, .mark "\x7d"]

def exportStatement : GrammarRule :=
  nodeOf .exportStatement
    [.many (.ref .decorator), .word "export", goesOn true .afterExpression,
     oneOf
      [sequence [.mark "*", fromClause, semicolon .afterOther],
       sequence
        [nodeOf .namespaceExport [.mark "*", .word "as", moduleExportName], fromClause,
         semicolon .afterOther],
       sequence [exportClause, fromClause, semicolon .afterOther],
       sequence [exportClause, semicolon .afterOther],
       sequence
        [.word "type", exportClause, optional fromClause, semicolon .afterOther],
       sequence
        [.operator ["="], .ref (.expression .open), semicolon .afterExpression],
       sequence
        [.word "as", .word "namespace", name .identifier, semicolon .afterOther],
       .role .declaration (.ref .declaration),
       .seq (.word "default")
        (.choice (.role .declaration (.ref .declaration))
          (.seq (.role .value (.ref (.expression .open))) (semicolon .afterExpression)))]]

def importStatement : GrammarRule :=
  nodeOf .importStatement
    [.word "import",
     .choice (body (optional (.seq (.choice (.word "type") (.word "typeof")) (.unless (.word "from")))))
      (body .empty),
     semicolon .afterOther]
where
  specifier : GrammarRule :=
    sequence
      [optional (.seq (.choice (.word "type") (.word "typeof")) (.ahead (name .identifier))),
       moduleExportName, optional (.seq (.word "as") (name .identifier))]
  named : GrammarRule :=
    sequence [.mark "\x7b", commaList specifier, .mark "\x7d"]
  all : GrammarRule :=
    sequence [.mark "*", .word "as", name .identifier]
  clause : GrammarRule :=
    oneOf
      [named, all,
       sequence [name .identifier, optional (.seq (.mark ",") (.choice named all))]]
  body (lead : GrammarRule) : GrammarRule :=
    .seq lead (oneOf
      [.seq (.node .importClause clause) fromClause,
       nodeOf .importRequire
        [name .identifier, .operator ["="], .word "require", .mark "(", .leaf .string .string,
         .mark ")"],
       .seq (.role .source (.leaf .string .string))
        (optional (.seq (.choice (.word "with") (.word "assert")) (.ref .object)))])

/-! ### Statements -/

/-- The words that begin a statement and so name no value there. -/
def statementWords : List String :=
  ["if", "for", "while", "do", "try", "with", "break", "continue", "debugger", "return",
   "throw", "switch", "var", "const", "interface", "enum", "abstract"]

/-- The head of a loop over the members of a value. -/
def loopHead : GrammarRule :=
  sequence
    [.word "for", optional (.word "await"), .mark "(",
     .choice
      (.seq (.choice (.word "let") (.choice (.word "const") (.word "var")))
        (.seq (.role .left (.ref .bindingTarget))
          (optional (initializer ⟨false, true, false⟩))))
      (.role .left (.ref .pattern)),
     .choice (.word "in") (.word "of"),
     .ref (.expressions .enclosed), .mark ")"]

def forStatement : GrammarRule :=
  nodeOf .forStatement
    [.word "for", .mark "(",
     oneOf
      [vars ⟨true, true, false⟩,
       nodeOf .expressionStatement
        [.ref (.expressions ⟨true, true, false⟩), semicolon .afterExpression],
       .node .emptyStatement (.mark ";")],
     .choice
      (nodeOf .expressionStatement [.ref (.expressions .open), semicolon .afterExpression])
      (.node .emptyStatement (.mark ";")),
     optional (.ref (.expressions .enclosed)), .mark ")", .ref (.statement false)]

def switchStatement : GrammarRule :=
  nodeOf .switchStatement
    [.word "switch", .ref .parenthesized,
     nodeOf .switchBody
      [.mark "\x7b",
       .many (.choice
        (nodeOf .switchCase
          [.word "case",
           .choice (.seq (.ref (.expressions .enclosed)) (.mark ":"))
            (.seq (.ref (.expressions ⟨false, false, true⟩)) (.mark ":")),
           .many (.ref (.statement true))])
        (nodeOf .switchDefault
          [.word "default", .mark ":", .many (.ref (.statement true))])),
       .mark "\x7d"]]

def tryStatement : GrammarRule :=
  nodeOf .tryStatement
    [.word "try", .role .body (.ref .statementBlock),
     oneOf
      [.seq handler (optional finalizer),
       finalizer,
       .empty]]
where
  handler : GrammarRule :=
    nodeOf .catchClause
      [.word "catch",
       optional (sequence
        [.mark "(", .ref .bindingTarget, optional (.ref (.typeAscription false)), .mark ")"]),
       .role .body (.ref .statementBlock)]
  finalizer : GrammarRule :=
    nodeOf .finallyClause [.word "finally", .role .body (.ref .statementBlock)]

/-- A statement that leaves its surroundings, with the name of where it goes. -/
def jump (kind : Kind) (text : String) : GrammarRule :=
  nodeOf kind
    [.word text,
     oneOf
      [semicolon .afterOther, .seq (name .statementIdentifier) (semicolon .afterOther)]]

/-- A statement; in a switch, `case` and `default` begin none. -/
def statement (inSwitch : Bool) : GrammarRule :=
  .seq (if inSwitch then .unless (.leaf (.nameAmong ["case", "default"]) .identifier) else .empty)
    (oneOf
    [exportStatement,
     importStatement,
     .ref .statementBlock,
     nodeOf .ifStatement
      [.word "if", .ref .parenthesized, .ref (.statement inSwitch),
       optional (nodeOf .elseClause [.word "else", .ref (.statement inSwitch)])],
     switchStatement,
     nodeOf .forInStatement [loopHead, .role .body (.ref (.statement inSwitch))],
     forStatement,
     nodeOf .whileStatement
      [.word "while", .ref .parenthesized, .role .body (.ref (.statement inSwitch))],
     nodeOf .doStatement
      [.word "do", .role .body (.ref (.statement false)), .word "while", .ref .parenthesized,
       optional (semicolon .afterOther)],
     tryStatement,
     nodeOf .withStatement
      [.word "with", .ref .parenthesized, .role .body (.ref (.statement inSwitch))],
     jump .breakStatement "break",
     jump .continueStatement "continue",
     nodeOf .debuggerStatement [.word "debugger", semicolon .afterOther],
     nodeOf .returnStatement
      [.word "return",
       .choice (semicolon .afterOther)
        (.seq (.ref (.expressions .open)) (semicolon .afterExpression))],
     nodeOf .throwStatement
      [.word "throw", .ref (.expressions .open), semicolon .afterExpression],
     .node .emptyStatement (.mark ";"),
     functionDeclaration,
     classDeclaration,
     .ref .enumDeclaration,
     vars .open,
     typeAliasDeclaration,
     interfaceDeclaration,
     .ref .ambientDeclaration,
     moduleDeclaration,
     importAlias,
     nodeOf .expressionStatement
      [.ref .internalModule, semicolon .afterExpression],
     .ref .internalModule,
     nodeOf .labeledStatement
      [.leaf (.nameExcept (valueWords ++ statementWords)) .statementIdentifier, .mark ":",
       .ref (.statement inSwitch)],
     nodeOf .expressionStatement
      [.unless (.leaf (.nameAmong statementWords) .identifier), .ref (.expressions .open),
       semicolon .afterExpression]])

/-- A module. -/
def program : GrammarRule :=
  nodeOf .program
    [optional (.leaf .hashBang .hashBangLine), .many (.ref (.statement false)), .done]

end Stencil.TypeScript.Grammar
