import Stencil.Script.Functions
import Stencil.Script.Promise
import Stencil.Script.Syntax.Statement

/-!
# Evaluating expressions

How the tasks of expressions change an activation. An expression leaves its value on the stack.
-/

namespace Stencil.Script

/-! ### Moves -/

/-- Why an activation is put aside. -/
inductive Pause.Reason where
  | await (value : Value)
  /-- The value may be the whole result of a step already. -/
  | yield (value : Value) (isResult : Bool)

/-- What comes of a task. -/
inductive Move where
  | go (activation : Activation)
  | raise (completion : Completion) (activation : Activation)
  | pause (reason : Pause.Reason) (activation : Activation)

namespace Activation

/-- Plans tasks before all others. -/
def plan (a : Activation) (tasks : List Task) : Activation := { a with tasks := tasks ++ a.tasks }

/-- Leaves a value on the stack. -/
def push (a : Activation) (v : Value) : Activation := { a with stack := v :: a.stack }

/-- The value on top of the stack. -/
def top (a : Activation) : Value := a.stack.headD .undefined

/-- The value below the top of the stack. -/
def second (a : Activation) : Value := a.stack.tail.headD .undefined

/-- The stack without its topmost values. -/
def drop (a : Activation) (n : Nat) : Activation := { a with stack := a.stack.drop n }

/-- What the activation can go back to. -/
def mark (a : Activation) : Mark := ⟨a.stack, a.scope⟩

end Activation

/-- Goes on with an activation that has further tasks. -/
def goOn (a : Activation) (tasks : List Task) : Exec Move := return .go (a.plan tasks)

/-- Goes on with a value on the stack. -/
def give (a : Activation) (v : Value) : Exec Move := return .go (a.push v)

/-! ### Members and places -/

/-- The member of a value for a key that was evaluated. -/
def loadMember (base key : Value) : Exec Value := do
  match key with
  | .hidden id => getPrivate base id
  | _          =>
    if base.isNullish then
      throwType ("cannot read property of " ++ (if base.isUndefined then "undefined" else "null"))
    getOf base (← toKey key)

/-- Stores a value in the member of a value. -/
def storeMember (base key v : Value) (isStrict : Bool) : Exec Unit := do
  match key with
  | .hidden id => setPrivate base id v
  | _          =>
    if base.isNullish then
      throwType ("cannot set property of " ++ (if base.isUndefined then "undefined" else "null"))
    setOf base (← toKey key) v isStrict

/-- The place that a target stands for, and the tasks that evaluate its operands. -/
def placeOf : Tree → Place × List Task
  | .name n              => (.variable n, [])
  | .member object key _ => (.member, [.evaluate object, .evaluate key, .toKey])
  | .superMember key     => (.superMember, [.evaluate key, .toKey])
  | _                    => (.member, [])

/-- How many operands a place has on the stack. -/
def Place.operands : Place → Nat
  | .variable _  => 0
  | .member      => 2
  | .superMember => 1

/-- The value at a place whose operands are on top of the stack. -/
def Place.load (place : Place) (a : Activation) : Exec Value :=
  match place with
  | .variable n  => readName a.scope n
  | .member      => loadMember a.second a.top
  | .superMember => do
    let this ← thisValue a.scope
    getFrom chainLimit (← superHome a.scope) (← toKey a.top) this

/-- Stores a value at a place whose operands are on top of the stack. -/
def Place.store (place : Place) (a : Activation) (v : Value) : Exec Unit :=
  match place with
  | .variable n  => writeName a.scope n v a.isStrict
  | .member      => storeMember a.second a.top v a.isStrict
  | .superMember => do
    let this ← thisValue a.scope
    let ok ← setFrom chainLimit (← superHome a.scope) (← toKey a.top) v this
    if !ok && a.isStrict then throwType "cannot set property of super"

/-! ### Literals -/

def Literal.toValue : Literal → Value
  | .null     => .null
  | .bool b   => .bool b
  | .number x => .number x
  | .text t   => .text t
  | .big n    => .big n

/-- The tasks that evaluate something and name it if it is a function without a name. -/
def evaluateNamed (name : Utf16) (tree : Tree) : List Task :=
  if tree.isAnonymousFunction then [.evaluate tree, .nameAs name] else [.evaluate tree]

/-- The tasks of an item of an array literal, which is added to the array on top. -/
def itemTasks : Tree → List Task
  | .absent       => [.appendHole]
  | .spread value => [.evaluate value, .appendAll]
  | value         => [.evaluate value, .append]

/-- The tasks that leave the key of a member on the stack. -/
def keyTasks (key : Tree) : List Task := [.evaluate key, .toKey]

/-- The tasks of a member of an object literal, which is added to the object on top. -/
def memberTasks : Tree → List Task
  | .property key value =>
    let naming := if value.isAnonymousFunction then [Task.nameByKey] else []
    keyTasks key ++ [.evaluate value] ++ naming ++ [.defineMember]
  | .method kind key code => keyTasks key ++ [.defineMethod kind code]
  | .proto value        => [.evaluate value, .defineProto]
  | .spread value       => [.evaluate value, .copyMembers]
  | _                   => []

/-- Whether a list of arguments holds one that is spread. -/
def hasSpread (arguments : List Tree) : Bool :=
  arguments.any fun argument => match argument with
    | .spread _ => true
    | _         => false

/-- The tasks that evaluate arguments and then call something with them. -/
def argumentTasks (arguments : List Tree) (plain : Nat → Task) (listed : Task) : Exec (List Task) := do
  if hasSpread arguments then
    return .push (← newArray []) :: arguments.flatMap itemTasks ++ [listed]
  else return arguments.map .evaluate ++ [plain arguments.length]

/-- Adds an item to the array below the top. -/
def appendItem (array : Value) (item : Option Value) : Exec Unit := do
  match array with
  | .object r =>
    modifyObject r fun o => match o.kind with
      | .array items length isWritable =>
        { o with kind := .array (items.push item) (length + 1) isWritable }
      | _ => o
  | _ => pure ()

/-- Gives a function without a name one. -/
def nameFunction (v : Value) (name : Utf16) : Exec Unit := do
  match v with
  | .object r =>
    let o ← object r
    match findProperty o.properties (.ofString "name") with
    | some ⟨.data (.text t) false, _, _⟩ =>
      if t.isEmpty then storeProperty r (.ofString "name") (.readOnly (.text name))
    | _ => pure ()
  | _ => pure ()

/-- Copies the own properties of a value that loops find, but for some keys, to an object. -/
def copyProperties (target : Ref) (source : Value) (except : List Key) : Exec Unit := do
  if source.isNullish then return
  let r ← toObject source
  (← ownKeys r).forM fun key => do
    if !except.contains key then
      match ← getOwn r key with
      | some p => if p.isEnumerable then createProperty target key (← get r key)
      | none   => pure ()

/-- Defines a method or an accessor of an object. -/
def defineMethodOf (r home : Ref) (key : Key) (kind : MemberKind) (code : Tree) (scope : Nat)
    (isEnumerable : Bool) : Exec Unit := do
  let function ← newFunction code scope (some home) (← methodName key kind)
  let f : Value := .object function
  match kind with
  | .getter =>
    defineOrThrow r key
      { get := some f, isEnumerable := some isEnumerable, isConfigurable := some true }
  | .setter =>
    defineOrThrow r key
      { set := some f, isEnumerable := some isEnumerable, isConfigurable := some true }
  | _       => defineOrThrow r key (.data f true isEnumerable true)

/-! ### Operators -/

/-- The result of an operator before its operand. -/
def unaryResult (op : UnaryOp) (v : Value) : Exec Value := do
  match op with
  | .typeOf => return .ofString (← typeName v)
  | .void   => return .undefined
  | .not    => return .bool !v.toBool
  | .plus   => return .number (← toNumber v)
  | .minus  =>
    match ← toNumeric v with
    | .big n    => return .big (-n)
    | .number x => return .number (-x)
    | v         => return v
  | .complement =>
    match ← toNumeric v with
    | .big n    => return .big (-n - 1)
    | .number x => return .number (Number.ofInt (-(toInt32 x) - 1))
    | v         => return v

/-- Whether one of the prototypes that begin with an object is this one; `fuel` bounds them. -/
def inheritsFrom (proto : Ref) : (fuel : Nat) → Ref → Exec Bool
  | 0, _        => return false
  | fuel + 1, r => do
    match ← getProto r with
    | some p => if p == proto then return true else inheritsFrom proto fuel p
    | none   => return false

/-- Whether a value is an instance of a function, by the prototype that it has; `fuel` bounds a
chain of bound functions. -/
def ordinaryInstance : (fuel : Nat) → (function : Ref) → Value → Exec Bool
  | 0, _, _               => return false
  | fuel + 1, function, v => do
    match ← kindOf function with
    | .bound (.object target) _ _ => ordinaryInstance fuel target v
    | kind =>
      if !kind.isCallable then return false
      match v with
      | .object r =>
        match ← getNamed function "prototype" with
        | .object proto => inheritsFrom proto chainLimit r
        | _             => throwType "prototype of function is not an object"
      | _ => return false

/-- Whether a value is an instance of another. -/
def instanceOf (v target : Value) : Exec Bool := do
  match target with
  | .object r =>
    match ← methodOf r (.ofSymbol .hasInstance) with
    | some f => return (← call f target [v]).toBool
    | none   =>
      unless ← isCallable target do throwType "right-hand side of 'instanceof' is not callable"
      ordinaryInstance 1000 r v
  | _ => throwType "right-hand side of 'instanceof' should be an object"

/-- The result of an operator between two values. -/
def binaryResult (op : BinaryOp) (a b : Value) : Exec Value := do
  match op with
  | .add        => addValues a b
  | .strictEq   => return .bool (a.strictEq b)
  | .strictNe   => return .bool !(a.strictEq b)
  | .looseEq    => return .bool (← looseEq a b)
  | .looseNe    => return .bool !(← looseEq a b)
  | .lt         => return .bool (← compare .lt a b)
  | .le         => return .bool (← compare .le a b)
  | .gt         => return .bool (← compare .gt a b)
  | .ge         => return .bool (← compare .ge a b)
  | .instanceOf => return .bool (← instanceOf a b)
  | .inObject   =>
    match b with
    | .object r => return .bool (← hasProperty r (← toKey a))
    | _         => throwType "right-hand side of 'in' should be an object"
  | op          => arithmetic op a b

/-- Whether a logical operator keeps its left value. -/
def LogicalOp.keeps (op : LogicalOp) (v : Value) : Bool :=
  match op with
  | .and      => !v.toBool
  | .or       => v.toBool
  | .coalesce => !v.isNullish

/-! ### Evaluation -/

/-- Begins the evaluation of a class. -/
def beginClass (a : Activation) (name : Option Utf16) (source : String) (parent build : Tree)
    (members : List Tree) : Exec Move := do
  let own := match name with
    | some n => [⟨n, true⟩]
    | none   => []
  let scope ← blockScope a.scope own
  members.forM fun member => do
    match member with
    | .classMember _ _ (.privateName n) _ =>
      let s ← Script.scope scope
      if !(s.bindings.any fun b => b.name == n) then
        initializeName scope n (.hidden (← newSymbol (some n)))
    | _ => pure ()
  let body : Task := .classBody name source (!parent.isAbsent) build members
  let tasks := if parent.isAbsent then [.push .undefined, body] else [.evaluate parent, body]
  return .go { a.plan (tasks ++ [.classEnd name a.scope]) with scope }

/-- The tasks that call what a tree stands for, from the receiver on. -/
def calleeMove (a : Activation) (tree : Tree) : Exec Move := do
  match tree with
  | .name n =>
    match ← findName n chainLimit a.scope with
    | .binding _ b => return .go ((a.push .undefined).push (← b.read))
    | .property r  =>
      let f ← get r (.ofText n)
      return .go ((a.push (if r == globalRef then .undefined else .object r)).push f)
    | .nowhere     => undefinedName n
  | .member object key isOptional =>
    let test := if isOptional then [Task.optional] else []
    goOn a (.evaluate object :: test ++ [.evaluate key, .memberCallee])
  | .superMember key => goOn a [.evaluate key, .superCallee]
  | .chain inner     => goOn a [.callee inner, .chained [.undefined, .undefined] a.mark]
  | _                => goOn a [.push .undefined, .evaluate tree]

/-- Whether a tree is the name `eval`. -/
def isEvalName : Tree → Bool
  | .name n => n == .ofString "eval"
  | _       => false

/-- Begins the evaluation of an expression. -/
def evaluateTree (a : Activation) (tree : Tree) : Exec Move := do
  match tree with
  | .literal l           => give a l.toValue
  | .name n              => give a (← readName a.scope n)
  | .this                => give a (← thisValue a.scope)
  | .newTarget           => give a (← newTargetValue a.scope)
  | .regex source flags  => give a (← newRegex source flags Standard.regExp.proto)
  | .template texts values =>
    goOn a (values.flatMap (fun v => [.evaluate v, .toText]) ++ [.joinTexts texts])
  | .tagged tag cooked raw values =>
    let texts ← newTemplate cooked raw
    goOn a ([.callee tag, .push texts] ++ values.map .evaluate ++ [.call (values.length + 1) false])
  | .array items         => goOn (a.push (← newArray [])) (items.flatMap itemTasks)
  | .object members      => goOn (a.push (.object (← newObject))) (members.flatMap memberTasks)
  | .unary .typeOf (.name n) =>
    match ← readName? a.scope n with
    | some v => give a (.ofString (← typeName v))
    | none   => give a (.ofString "undefined")
  | .unary op operand    => goOn a [.evaluate operand, .unary op]
  | .delete (.member object key isOptional) =>
    let test := if isOptional then [Task.optional] else []
    goOn a (.evaluate object :: test ++ [.evaluate key, .deleteMember])
  | .delete (.chain inner) => goOn a [.evaluate (.delete inner), .chained [.bool true] a.mark]
  | .delete (.name n)    =>
    match ← findName n chainLimit a.scope with
    | .binding _ _ => give a (.bool false)
    | .property r  => give a (.bool (← deleteProperty r (.ofText n)))
    | .nowhere     => give a (.bool true)
  | .delete (.superMember _) => throwNew .referenceError "cannot delete a super property"
  | .delete operand      => goOn a [.evaluate operand, .drop, .push (.bool true)]
  | .update step givesOld target =>
    let (place, operands) := placeOf target
    goOn a (operands ++ [.load place, .update step givesOld place])
  | .binary op left right => goOn a [.evaluate left, .evaluate right, .binary op]
  | .hasPrivate name object => goOn a [.evaluate object, .hasPrivate name]
  | .logical op left right => goOn a [.evaluate left, .logical op right]
  | .assign target value =>
    match target with
    | .name n              => goOn a (evaluateNamed n value ++ [.store (.variable n)])
    | .member _ _ _        =>
      let (place, operands) := placeOf target
      goOn a (operands ++ [.evaluate value, .store place])
    | .superMember _       =>
      let (place, operands) := placeOf target
      goOn a (operands ++ [.evaluate value, .store place])
    | pattern              => goOn a [.evaluate value, .duplicate, .bind .assign pattern]
  | .assignBinary op target value =>
    let (place, operands) := placeOf target
    goOn a (operands ++ [.load place, .evaluate value, .binary op, .store place])
  | .assignLogical op target value =>
    let (place, operands) := placeOf target
    goOn a (operands ++ [.load place, .logicalStore op place value])
  | .conditional test yes no => goOn a [.evaluate test, .choose yes no]
  | .call callee arguments isOptional =>
    let test := if isOptional then [Task.optional] else []
    let arguments ← argumentTasks arguments (.call · (isEvalName callee)) .callList
    goOn a (.callee callee :: test ++ arguments)
  | .new callee arguments =>
    goOn a (.evaluate callee :: (← argumentTasks arguments .construct .constructList))
  | .member object key isOptional =>
    let test := if isOptional then [Task.optional] else []
    goOn a (.evaluate object :: test ++ [.evaluate key, .getMember])
  | .chain inner         => goOn a [.evaluate inner, .chained [.undefined] a.mark]
  | .superMember key     => goOn a [.evaluate key, .getSuper]
  | .superCall arguments =>
    match ← currentFunction a.scope with
    | some f =>
      let parent := Value.ofRef? (← getProto f)
      let list ← newArray []
      goOn a (.push parent :: .push list :: arguments.flatMap itemTasks ++ [.superConstruct])
    | none   => throwNew .syntaxError "super is not available"
  | .sequence first second => goOn a [.evaluate first, .drop, .evaluate second]
  | .yield value         =>
    let operand := if value.isAbsent then Task.push .undefined else .evaluate value
    goOn a (if a.isAsync then [operand, .await, .yield] else [operand, .yield])
  | .yieldAll value      => goOn a [.evaluate value, .delegateTo]
  | .await value         => goOn a [.evaluate value, .await]
  | .named n             => give a (.text n)
  | .computed value      => goOn a [.evaluate value]
  | .privateName n       => give a (.hidden (← privateName a.scope n))
  | .function head _ _ _ => give a (← functionValue tree a.scope (head.name.getD .empty))
  | .classValue name source parent build members => beginClass a name source parent build members
  | .spread value        => goOn a [.evaluate value]
  | _                    => throwNew .syntaxError "not an expression"

/-- Ends the optional chain that is evaluated. -/
def endChain (a : Activation) : Exec Move :=
  match a.tasks.dropWhile (fun t => match t with | .chained _ _ => false | _ => true) with
  | .chained results mark :: tasks =>
    return .go { a with tasks, stack := results ++ mark.stack, scope := mark.scope }
  | _ => return .go a

/-- The code of `eval` in the scope of its call. -/
def directEval (a : Activation) (code : Utf16) : Exec Move := do
  let call ← callScope chainLimit a.scope
  let hasHome ← match call with
    | some (_, c) =>
      match ← kindOf c.function with
      | .closure closure => pure closure.home.isSome
      | _                => pure false
    | none        => pure false
  let adjust (c : Syntax.Context) : Syntax.Context :=
    { c with isStrict := a.isStrict, newTarget := call.isSome, superMember := hasHome }
  match Syntax.readScriptIn? adjust code.toChars with
  | none        => throwNew .syntaxError "invalid script"
  | some script =>
    match script.block with
    | .block names functions statements =>
      let vars ← if script.isStrict then
          newScope { parent := some a.scope, kind := .function none, bindings := #[] }
        else variableScope chainLimit a.scope
      script.vars.forM (declareVariable vars)
      let scope ← blockScope (if script.isStrict then vars else a.scope) names
      functions.forM fun f => do
        match f with
        | .function head _ _ _ =>
          match head.name with
          | some name => declareFunction vars name (.object (← newFunction f scope none name))
          | none      => pure ()
        | _ => pure ()
      let tasks := statements.map (Task.execute []) ++ [.endEval a.scope a.isStrict a.result]
      return .go { a.plan tasks with scope, isStrict := script.isStrict, result := .undefined }
    | _ => throwNew .syntaxError "invalid script"

/-- Calls what lies below its arguments on the stack. -/
def callMove (a : Activation) (count : Nat) (isEval : Bool) : Exec Move := do
  let arguments := (a.stack.take count).reverse
  let a := a.drop count
  let function := a.top
  let this := a.second
  let a := a.drop 2
  if isEval && function.strictEq (.object Standard.global.constructor) then
    match arguments with
    | .text code :: _ => directEval a code
    | v :: _          => give a v
    | []              => give a .undefined
  else give a (← call function this arguments)

/-- Applies `new`. -/
def constructChecked (function : Value) (arguments : List Value) : Exec Value := do
  unless ← isConstructor function do throwType "not a constructor"
  construct function arguments function

/-- Goes on after the constructor of the parent class made an object. -/
def superConstructMove (a : Activation) : Exec Move := do
  let arguments ← match a.top with
    | .object list => itemsOf list
    | _            => pure []
  let parent := a.second
  let a := a.drop 2
  unless ← isConstructor parent do throwType "super constructor is not a constructor"
  match ← callScope chainLimit a.scope with
  | none        => throwNew .syntaxError "super is not available"
  | some (_, c) =>
    let made ← construct parent arguments c.newTarget
    match ← callScope chainLimit a.scope with
    | some (id, now) =>
      if now.this.isSome then throwNew .referenceError "super constructor was called twice"
      modifyScope id fun s => { s with kind := .function (some { now with this := some made }) }
      match made with
      | .object r => addInstanceFields r c.function
      | _         => pure ()
      give a made
    | none           => give a made

/-- One more or one less than a value. -/
def stepped (v : Value) (step : Int) : Value :=
  match v with
  | .big n    => .big (n + step)
  | .number x => .number (x + Number.ofInt step)
  | v         => v

/-- The array on top of the stack with the items of a value added. -/
def appendAllMove (a : Activation) : Exec Move := do
  let array := a.second
  foldItems a.top () fun _ item => appendItem array (some item)
  return .go (a.drop 1)

end Stencil.Script
