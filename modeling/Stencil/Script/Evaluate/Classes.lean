import Stencil.Script.Evaluate.Expressions

/-!
# Evaluating classes

A class is its constructor, which lies on the stack while the members are added.
-/

namespace Stencil.Script

/-- The constructor of a class that writes none. -/
def standardBuild (hasParent : Bool) (source : String) : Tree :=
  let arguments : Utf16 := .ofString "args"
  let head : FunctionHead := {
    name          := none
    kind          := if hasParent then .derivedConstructor else .baseConstructor
    isAsync       := false
    isGenerator   := false
    isStrict      := true
    usesArguments := false
    vars          := []
    source        := source }
  if hasParent then
    .function head [] (.name arguments)
      (.block [] [] [.expression (.superCall [.spread (.name arguments)])])
  else .function head [] .absent (.block [] [] [])

/-- The constructor of a class, with the text of the class. -/
def classBuild (hasParent : Bool) (source : String) : Tree → Tree
  | .function head parameters rest body => .function { head with source } parameters rest body
  | _                                   => standardBuild hasParent source

/-- The prototypes of the instances and of the constructor, from the parent of a class. -/
def classParents (hasParent : Bool) (parent : Value) : Exec (Option Ref × Ref) := do
  if !hasParent then return (some Standard.object.proto, Standard.function.proto)
  match parent with
  | .null     => return (none, Standard.function.proto)
  | .object r =>
    unless ← isConstructor parent do throwType "superclass must be a constructor"
    match ← getNamed r "prototype" with
    | .object p => return (some p, r)
    | .null     => return (none, r)
    | _         => throwType "superclass prototype must be an object or null"
  | _         => throwType "superclass must be a constructor"

/-- The tasks of a member, for the class on top of the stack. -/
def classMemberTasks : Tree → List Task
  | .classMember .staticBlock isStatic _ code =>
    [.push .undefined, .classMember .staticBlock isStatic code]
  | .classMember kind isStatic key code => keyTasks key ++ [.classMember kind isStatic code]
  | _                                   => []

/-- Makes the constructor of a class, whose parent is on top of the stack. -/
def makeClass (a : Activation) (name : Option Utf16) (source : String) (hasParent : Bool)
    (build : Tree) (members : List Tree) : Exec Move := do
  let (protoParent, functionParent) ← classParents hasParent a.top
  let a := a.drop 1
  let proto ← allocate (.empty .ordinary protoParent)
  let code := classBuild hasParent source build
  let f ← newFunction code a.scope (some proto) (name.getD .empty)
  modifyObject f fun o => { o with
    kind  := .closure ⟨code, a.scope, some proto, true, [], []⟩
    proto := some functionParent }
  storeProperty f (.ofString "prototype") (.fixed (.object proto))
  storeProperty proto (.ofString "constructor") (.hidden (.object f))
  goOn (a.push (.object f)) (members.flatMap classMemberTasks)

/-- Adds a member to the class on top of the stack; its key lies above. -/
def addClassMember (a : Activation) (kind : MemberKind) (isStatic : Bool) (code : Tree) :
    Exec Move := do
  let key ← toKey a.top
  let a := a.drop 1
  match a.top with
  | .object f =>
    match ← kindOf f with
    | .closure c =>
      let proto := c.home.getD f
      let home := if isStatic then f else proto
      let isField := kind = .field || kind = .staticBlock
      let isHidden := match key with
        | .hidden _ => true
        | _         => false
      if isField || isHidden then
        let function ← match code with
          | .absent => pure none
          | code    =>
            let name ← if isField then pure .empty else methodName key kind
            some <$> newFunction code a.scope (some home) name
        let field : ClassField := ⟨key, kind, function⟩
        let c := if isStatic then { c with staticFields := c.staticFields ++ [field] }
          else { c with fields := c.fields ++ [field] }
        setKind f (.closure c)
      else defineMethodOf home home key kind code a.scope false
      return .go a
    | _ => return .go a
  | _ => return .go a

/-- Names the class on top of the stack in its scope and adds its static fields. -/
def endClass (a : Activation) (name : Option Utf16) (scope : Nat) : Exec Move := do
  match name with
  | some n => initializeName a.scope n a.top
  | none   => pure ()
  match a.top with
  | .object f =>
    match ← kindOf f with
    | .closure c => addFields f c.staticFields
    | _          => pure ()
  | _ => pure ()
  return .go { a with scope }

end Stencil.Script
