import Stencil.Erasure.Enum

/-!
# Erasing types

`erase` lists the edits that take the type syntax out of a module: nodes that only exist for types
are blanked, enums and namespaces become the objects they stand for, and parameters that declare
properties get their assignments. Everything else is left where it is.
-/

namespace Stencil.Erasure

open TypeScript (Tree Kind Symbol)

/-! ### What is blanked -/

/-- The kinds that are blanked with everything in them. -/
def typeKinds : List Kind :=
  [.typeAscription, .typePredicateAscription, .assertsAscription, .optingTypeAscription,
   .omittingTypeAscription, .addingTypeAscription, .typeParameters, .typeArguments,
   .implementsClause, .accessibilityModifier, .overrideModifier, .typeAliasDeclaration,
   .interfaceDeclaration, .ambientDeclaration, .functionSignature, .abstractMethodSignature,
   .indexSignature, .methodSignature]

/-- Whether a tree is blanked with everything in it. -/
def isTypeSyntax (tree : Tree) : Bool :=
  typeKinds.any fun kind => tree.isKind kind

/-- Blank a tree. -/
def blankTree (tree : Tree) : Edit :=
  .blank tree.start tree.stop

/-- Blank the children that are one of these tokens. -/
def blankTokens (texts : List String) (children : List Tree) : List Edit :=
  (children.filter fun child => texts.any fun text => child.isToken text).map blankTree

/-- Blank a tree, and the separator right after it when it is a member of a class. -/
def blankMember (inClass : Bool) (next : Option Tree) (tree : Tree) : List Edit :=
  match next with
  | some separator =>
    if inClass && (separator.isToken ";" || separator.isToken ",") then
      [blankTree tree, blankTree separator]
    else [blankTree tree]
  | none => [blankTree tree]

/-- Whether an export statement gives nothing but types. -/
def isTypeExport (statement : Tree) : Bool :=
  statement.hasToken "type" || ((statement.child? .declaration).map isTypeOnly).getD false

/-! ### Functions -/

/-- Whether a tree is the parameter `this`. -/
def isThisParameter (tree : Tree) : Bool :=
  (tree.isKind .requiredParameter || tree.isKind .optionalParameter) &&
    ((tree.child? .pattern).map (Tree.isKind .thisValue)).getD false

/-- Blank `this` parameters, each with the comma right after it. -/
def blankThis : List Tree → List Edit
  | []            => []
  | tree :: trees =>
    let rest := blankThis trees
    if isThisParameter tree then
      let stop := match trees with
        | next :: _ => if next.isToken "," then next.stop else tree.stop
        | []        => tree.stop
      .blank tree.start stop :: rest
    else rest

/-- The line feeds of a return type are put behind the arrow, which has to stand on the line of
the parameters. -/
def moveReturnType (source : List Char) (arrow : Tree) : List Edit :=
  match arrow.child? .returnType, arrow.token? "=>" with
  | some type, some token =>
    let feeds := lineFeeds (type.chars source)
    if feeds.isEmpty then []
    else [.replace type.start type.stop " ", .insert token.stop feeds]
  | _, _ => []

/-- Whether a parameter declares a property. -/
def declaresProperty (parameter : Tree) : Bool :=
  parameter.children.any fun child =>
    child.isKind .accessibilityModifier || child.isKind .overrideModifier ||
    child.isToken "readonly"

/-- The assignments of the parameters that declare properties. -/
def propertyAssignments (source : List Char) : List Tree → Except Flaw String
  | []                      => .ok ""
  | parameter :: parameters =>
    if declaresProperty parameter then
      match (parameter.child? .pattern).filter (Tree.isKind .identifier) with
      | none      => failAt parameter .patternProperty
      | some name => do
        let name := name.text source
        let rest ← propertyAssignments source parameters
        return " this." ++ name ++ " = " ++ name ++ ";" ++ rest
    else propertyAssignments source parameters

/-- Whether a statement only calls the constructor of the base class. -/
def isSuperCall (statement : Tree) : Bool :=
  statement.isKind .expressionStatement &&
    match statement.namedChildren with
    | call :: _ => call.isKind .callExpression &&
        ((call.child? .function).map (Tree.isKind .superValue)).getD false
    | []        => false

/-- Assign the properties that the parameters of a constructor declare, after the call of the base
constructor if there is one. -/
def parameterProperties (source : List Char) (method : Tree) : Except Flaw (List Edit) :=
  match method.child? .parameters, method.child? .body with
  | some parameters, some body =>
    if ((method.child? .name).map fun name => name.text source == "constructor").getD false then do
      let text ← propertyAssignments source parameters.namedChildren
      if text.isEmpty then return []
      else
        let offset := match body.namedChildren.find? isSuperCall with
          | some call => call.stop
          | none      => body.start + 1
        return [.insert offset text]
    else .ok []
  | _, _ => .ok []

/-! ### Namespaces -/

/-- The edits that make a namespace of this name the body of a function. -/
def namespaceFrame (source : List Char) (tree body : Tree) (name : String) : List Edit :=
  let opening := body.start + 1
  let feeds := lineFeeds ((⟨tree.start, opening⟩ : TypeScript.Span).slice source)
  [.replace tree.start opening
    ("var " ++ name ++ "; (function (" ++ name ++ ") \x7b" ++ feeds),
   .replace (body.stop - 1) body.stop
    ("\x7d)(" ++ name ++ " || (" ++ name ++ " = \x7b\x7d));")]

/-- The assignment of an exported name to a namespace. -/
def namespaceAssignment (owner : String) (binding : Binding) : String :=
  " " ++ owner ++ "[" ++ binding.literal ++ "] = " ++ binding.localName ++ ";"

/-- The edits that an export statement in a namespace needs. -/
def namespaceExport (source : List Char) (owner : String) (statement : Tree) :
    Except Flaw (List Edit) := do
  match ← ExportForm.classify source statement with
  | .typeOnly => return [blankTree statement]
  | .declaration names =>
    return blankExport statement ++ [assign (names.map .same)]
  | .list bindings =>
    return [blankTree statement, assign bindings]
  | .defaultDeclaration _ => failAt statement .defaultInNamespace
  | .defaultValue => failAt statement .defaultInNamespace
where
  assign (bindings : List Binding) : Edit :=
    .insert statement.stop (String.join (bindings.map (namespaceAssignment owner)))

/-- What becomes of a namespace: its name and body when it has both, and is blanked without a
body. -/
inductive NamespaceForm where
  | absent
  | present (name : String) (body : Tree)

/-- What becomes of a namespace. -/
def NamespaceForm.ofTree (source : List Char) (tree : Tree) : Except Flaw NamespaceForm :=
  match tree.child? .name with
  | none      => .ok .absent
  | some name =>
    if !name.isKind .identifier then failAt name .qualifiedNamespace
    else
      match tree.child? .body with
      | none      => .ok .absent
      | some body => .ok (.present (name.text source) body)

/-! ### The walk -/

/-- The edits that a tree needs by itself, apart from what its children need; `none` when nothing
in it needs any. -/
def ownEdits (source : List Char) (tree : Tree) : Except Flaw (List Edit) :=
  match tree.symbol with
  | .kind .nonNullExpression        => .ok (blankTokens ["!"] tree.children)
  | .kind .variableDeclarator       => .ok (blankTokens ["!"] tree.children)
  | .kind .requiredParameter        => .ok (blankTokens ["?", "readonly"] tree.children)
  | .kind .optionalParameter        => .ok (blankTokens ["?", "readonly"] tree.children)
  | .kind .formalParameters         => .ok (blankThis tree.children)
  | .kind .publicFieldDefinition    => .ok (blankTokens ["?", "!", "readonly"] tree.children)
  | .kind .methodDefinition         => do
    let properties ← parameterProperties source tree
    return blankTokens ["?"] tree.children ++ properties
  | .kind .abstractClassDeclaration => .ok (blankTokens ["abstract"] tree.children)
  | .kind .arrowFunction            => .ok (moveReturnType source tree)
  | _                               => .ok []

/-- Whether the whole tree is blanked as a member: type syntax, and fields without a place at run
time. -/
def isErasedMember (tree : Tree) : Bool :=
  isTypeSyntax tree ||
  (tree.isKind .publicFieldDefinition && (tree.hasToken "declare" || tree.hasToken "abstract"))

/-- Whether the whole tree is blanked, wherever it stands. -/
def isErased (tree : Tree) : Bool :=
  tree.isKind .hashBangLine || (tree.isKind .exportStatement && isTypeExport tree)

/-- Whether a tree asserts a type of its first part. -/
def isAssertion (tree : Tree) : Bool :=
  tree.isKind .asExpression || tree.isKind .satisfiesExpression

/-- Whether a tree is a namespace or a module. -/
def isNamespace (tree : Tree) : Bool :=
  tree.isKind .internalModule || tree.isKind .moduleDeclaration

mutual

/-- The edits that a tree needs, as a child of a class body or not, with the child after it. -/
def erase (source : List Char) (inClass : Bool) (next : Option Tree) :
    Tree → Except Flaw (List Edit)
  | tree@(.node symbol _ _ children) => do
    if isErasedMember tree then return blankMember inClass next tree
    else if isErased tree then return [blankTree tree]
    else if tree.isKind .enumDeclaration then return [← enumEdit source tree]
    else if isNamespace tree then
      match ← NamespaceForm.ofTree source tree with
      | .absent            => return [blankTree tree]
      | .present name body =>
        let inner ← eraseNamespace source name children
        return namespaceFrame source tree body name ++ inner
    else if isAssertion tree && !tree.namedChildren.isEmpty then
      let inner ← eraseAssertion source tree.stop children
      return inner
    else do
      let own ← ownEdits source tree
      let inner ← eraseAmong source (symbol == .kind .classBody) children
      return own ++ inner

/-- The edits that these children need one after another. -/
def eraseAmong (source : List Char) (inClass : Bool) : List Tree → Except Flaw (List Edit)
  | []            => .ok []
  | tree :: trees => do
    let first ← erase source inClass trees.head? tree
    let rest ← eraseAmong source inClass trees
    return first ++ rest

/-- The edits that an assertion needs, whose parts are these and which ends at `stop`: all after
the asserted value is blanked. -/
def eraseAssertion (source : List Char) (stop : Nat) : List Tree → Except Flaw (List Edit)
  | []            => .ok []
  | tree :: trees => do
    if tree.isNamed then
      let inner ← erase source false trees.head? tree
      return .blank tree.stop stop :: inner
    else eraseAssertion source stop trees

/-- The edits that the body of a namespace needs, among the parts of its declaration. -/
def eraseNamespace (source : List Char) (owner : String) : List Tree → Except Flaw (List Edit)
  | []                                       => .ok []
  | .node _ role _ children :: trees =>
    if role = some .body then eraseStatements source owner children
    else eraseNamespace source owner trees

/-- The edits that the statements of a namespace need. -/
def eraseStatements (source : List Char) (owner : String) : List Tree → Except Flaw (List Edit)
  | []            => .ok []
  | tree :: trees => do
    let exported ← if tree.isKind .exportStatement then namespaceExport source owner tree
      else pure []
    let inner ← erase source false trees.head? tree
    let rest ← eraseStatements source owner trees
    return exported ++ inner ++ rest

end

end Stencil.Erasure
