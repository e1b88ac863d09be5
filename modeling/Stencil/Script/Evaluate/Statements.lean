import Stencil.Script.Evaluate.Patterns

/-!
# Executing statements

How the tasks of statements change an activation. A loop plans one turn at a time; what a `break`,
a `continue` or an error goes back to is marked among the tasks.
-/

namespace Stencil.Script

/-! ### Declarations -/

/-- The tasks of a declared pattern. -/
def declaratorTasks (mode : BindMode) : Tree → List Task
  | .declarator pattern .absent =>
    if mode = .declare then [.push .undefined, .bind mode pattern] else []
  | .declarator (.name n) value => evaluateNamed n value ++ [.bind mode (.name n)]
  | .declarator pattern value   => [.evaluate value, .bind mode pattern]
  | _                           => []

/-- Makes the function of an inner block a variable of the whole function, when it is one. -/
def hoistFunction (a : Activation) (name : Utf16) : Exec Unit := do
  let vars ← variableScope chainLimit a.scope
  if vars != a.scope then
    match (← scope a.scope).kind with
    | .block =>
      let v ← readName a.scope name
      let s ← scope vars
      match s.kind with
      | .object r _ => if (← getOwn r (.ofText name)).isSome then setOrThrow r (.ofText name) v
      | _           =>
        if s.bindings.any fun b => b.name == name && b.isMutable then initializeName vars name v
    | _ => pure ()

/-- Enters a block: its names and functions are declared in a scope of their own. -/
def enterBlock (a : Activation) (names : List LexicalName) (functions : List Tree) :
    Exec Activation := do
  if names.isEmpty && functions.isEmpty then return a
  let scope ← blockScope a.scope names
  declareFunctions scope functions
  return { a with scope }

/-! ### Loops -/

/-- The labels that a jump to a loop may name. -/
def loopLabels (labels : List Utf16) : List (Option Utf16) := none :: labels.map some

/-- One turn of a loop that tests first. -/
def whileTurn (a : Activation) (test body : Tree) (labels : List Utf16) : Exec Move := do
  let isTrue := a.top.toBool
  let a := a.drop 1
  if isTrue then
    goOn a [.execute [] body, .continuable (loopLabels labels) a.mark, .evaluate test,
      .whileTurn test body labels]
  else return .go a

/-- One turn of a loop that tests last. -/
def doTurn (a : Activation) (test body : Tree) (labels : List Utf16) : Exec Move := do
  let isTrue := a.top.toBool
  let a := a.drop 1
  if isTrue then
    goOn a [.execute [] body, .continuable (loopLabels labels) a.mark, .evaluate test,
      .doTurn test body labels]
  else return .go a

/-- Tests whether a `for` loop takes another turn. -/
def forTest (a : Activation) (names : List Utf16) (test update body : Tree)
    (labels : List Utf16) : Exec Move :=
  let condition : Task := if test.isAbsent then .push (.bool true) else .evaluate test
  goOn a [condition, .forTurn names test update body labels]

/-- One turn of a `for` loop. -/
def forTurn (a : Activation) (names : List Utf16) (test update body : Tree)
    (labels : List Utf16) : Exec Move := do
  let isTrue := a.top.toBool
  let a := a.drop 1
  if isTrue then
    let copy := if names.isEmpty then [] else [Task.forNames]
    let step := if update.isAbsent then [] else [.evaluate update, .drop]
    goOn a ([.execute [] body, .continuable (loopLabels labels) a.mark] ++ copy ++ step ++
      [.forTest names test update body labels])
  else return .go a

/-- Gives the next turn of a `for` loop variables of its own. -/
def forNames (a : Activation) : Exec Move := do
  let s ← scope a.scope
  return .go { a with scope := ← newScope s }

/-- The tasks that bind what a loop over members has found on its turn. -/
def headTasks (a : Activation) (loop : Loop) (v : Value) : Exec (Activation × List Task) := do
  match loop.head with
  | .loopNames names pattern =>
    match pattern with
    | .varDeclaration [p] => return (a, [.push v, .bind .assign p])
    | .assign target _    => return (a, [.push v, .bind .assign target])
    | _                   =>
      let scope ← blockScope a.scope names
      return ({ a with scope }, [.push v, .bind .declare pattern])
  | _ => return (a, [.push v, .drop])

/-- The names of the properties that a loop over keys finds; `fuel` bounds the prototypes. -/
def enumerableKeys : (fuel : Nat) → Ref → (seen : List Key) → Exec (List Key)
  | 0, _, _           => return []
  | fuel + 1, r, seen => do
    let keys := (← ownKeys r).filter Key.isText
    let fresh := keys.filter fun key => !seen.contains key
    let found ← fresh.filterM fun key => do
      match ← getOwn r key with
      | some p => return p.isEnumerable
      | none   => return false
    match ← getProto r with
    | some proto => return found ++ (← enumerableKeys fuel proto (seen ++ fresh))
    | none       => return found

/-- Begins a loop over the keys of the value on top of the stack. -/
def overKeys (a : Activation) (loop : Loop) : Exec Move := do
  let v := a.top
  let a := a.drop 1
  if v.isNullish then return .go a
  let r ← toObject v
  goOn a [.keysTurn loop r (← enumerableKeys chainLimit r [])]

/-- Whether an object still has the property that a loop over keys comes to. -/
def isStillThere (r : Ref) (key : Key) : Exec Bool := do
  match ← getOwn r key with
  | some _ => return true
  | none   => hasProperty r key

/-- One turn of a loop over keys. -/
def keysTurn (a : Activation) (loop : Loop) (r : Ref) (keys : List Key) : Exec Move := do
  match keys with
  | []          => return .go a
  | key :: keys =>
    if ← isStillThere r key then
      let (inner, tasks) ← headTasks a loop key.toValue
      goOn inner (tasks ++ [.execute [] loop.body, .continuable (loopLabels loop.labels) a.mark,
        .keysTurn loop r keys])
    else goOn a [.keysTurn loop r keys]

/-- The asynchronous iterator of a value. -/
def asyncIterationOf (v : Value) : Exec Iteration := do
  match ← methodOfValue v (.ofSymbol .asyncIterator) with
  | some method => iterationBy v method
  | none        =>
    let it ← iterationOf v
    let r ← allocateKind (.wrappedIterator it) .wrappedIterator
    return ⟨.object r, ← getNamed r "next"⟩

/-- Begins a loop over the items of the value on top of the stack. -/
def overItems (a : Activation) (loop : Loop) (isAsync : Bool) : Exec Move := do
  let it ← if isAsync then asyncIterationOf a.top else iterationOf a.top
  goOn (a.drop 1) [.itemsTurn loop it isAsync]

/-- The rest of a turn over an item. -/
def itemTurn (a : Activation) (loop : Loop) (it : Iteration) (isAsync : Bool) (v : Value) :
    Exec Move := do
  let (inner, tasks) ← headTasks a loop v
  goOn inner (tasks ++ [.execute [] loop.body, .continuable (loopLabels loop.labels) a.mark,
    .closing it isAsync a.mark, .itemsTurn loop it isAsync])

/-- One turn of a loop over items. -/
def itemsTurn (a : Activation) (loop : Loop) (it : Iteration) (isAsync : Bool) : Exec Move := do
  if isAsync then
    let answer ← call it.next it.iterator []
    goOn (a.push answer) [.await, .itemReady loop it]
  else
    match ← it.step with
    | none   => return .go a
    | some v => itemTurn a loop it false v

/-- Goes on with the item that was waited for. -/
def itemReady (a : Activation) (loop : Loop) (it : Iteration) : Exec Move := do
  let answer ← stepResult a.top
  let a := a.drop 1
  match ← resultValue? answer with
  | none   => return .go a
  | some v => itemTurn a loop it true v

/-! ### Choices -/

/-- The statements from a list of cases on. -/
def caseTasks (cases : List Tree) : List Task :=
  cases.flatMap fun tree => match tree with
    | .case _ statements => statements.map (Task.execute [])
    | _                  => []

/-- Looks for the case of a `switch` statement that matches. -/
def switchTest (a : Activation) (tests cases : List Tree) (v : Value) : Exec Move :=
  match tests with
  | .case .absent _ :: rest => switchTest a rest cases v
  | .case test _ :: _       => goOn a [.evaluate test, .switchMatch tests cases v]
  | _ :: rest               => switchTest a rest cases v
  | []                      =>
    let fromDefault := cases.dropWhile fun tree => match tree with
      | .case .absent _ => false
      | _               => true
    goOn a (caseTasks fromDefault)

/-- Goes on with a case whose test was evaluated. -/
def switchMatch (a : Activation) (tests cases : List Tree) (v : Value) : Exec Move := do
  let holds := v.strictEq a.top
  let a := a.drop 1
  if holds then goOn a (caseTasks tests) else switchTest a tests.tail cases v

/-! ### Execution -/

/-- Whether a statement is a loop, which handles its labels by itself. -/
def isLoop : Tree → Bool
  | .forLoop _ _ _ _ _ => true
  | .forIn _ _ _       => true
  | .forOf _ _ _ _     => true
  | .whileLoop _ _     => true
  | .doWhile _ _       => true
  | .labeled _ body    => isLoop body
  | _                  => false

/-- Begins the execution of a statement. -/
def executeTree (a : Activation) (labels : List Utf16) (tree : Tree) : Exec Move := do
  let leaveLoop : Task := .breakable (loopLabels labels) a.mark
  match tree with
  | .absent                => return .go a
  | .expression value      => goOn a [.evaluate value, .keepResult]
  | .varDeclaration list   => goOn a (list.flatMap (declaratorTasks .assign))
  | .lexicalDeclaration list => goOn a (list.flatMap (declaratorTasks .declare))
  | .functionDeclaration code =>
    match code with
    | .function head _ _ _ =>
      match head.name with
      | some name =>
        if !a.isStrict && !head.isAsync && !head.isGenerator then hoistFunction a name
        return .go a
      | none      => return .go a
    | _ => return .go a
  | .classDeclaration definition =>
    match definition with
    | .classValue (some name) _ _ _ _ =>
      goOn a [.evaluate definition, .bind .declare (.name name)]
    | _ => return .go a
  | .block names functions statements =>
    let inner ← enterBlock a names functions
    let leave := if inner.scope == a.scope then [] else [Task.leave a.scope]
    goOn inner (statements.map (Task.execute []) ++ leave)
  | .branch test yes no    => goOn a [.evaluate test, .branch yes no]
  | .forLoop names start test update body =>
    let inner ← enterBlock a names []
    let own := (names.filter fun n => !n.isConstant).map (·.name)
    let copy := if own.isEmpty then [] else [Task.forNames]
    let begin := match start with
      | .expression value => [.evaluate value, .drop]
      | start             => [Task.execute [] start]
    goOn inner (begin ++ copy ++ [.forTest own test update body labels, .leave a.scope, leaveLoop])
  | .forIn head object body =>
    goOn a [.evaluate object, .overKeys ⟨head, body, labels⟩, leaveLoop]
  | .forOf isAwait head object body =>
    goOn a [.evaluate object, .overItems ⟨head, body, labels⟩ isAwait, leaveLoop]
  | .whileLoop test body   => goOn a [.evaluate test, .whileTurn test body labels, leaveLoop]
  | .doWhile body test     => goOn a [.push (.bool true), .doTurn test body labels, leaveLoop]
  | .giveBack value        =>
    let operand := if value.isAbsent then Task.push .undefined else .evaluate value
    goOn a (if a.isAsync && a.isGenerator then [operand, .await, .giveBack] else [operand, .giveBack])
  | .breakTo label         => return .raise (.breaks label) a
  | .continueTo label      => return .raise (.continues label) a
  | .throwing value        => goOn a [.evaluate value, .raiseThrow]
  | .trying block parameter handler finalizer =>
    let catching := if handler.isAbsent then [] else [Task.catching parameter handler a.mark]
    let finalizing := if finalizer.isAbsent then [] else [Task.finalizing finalizer a.mark]
    goOn a (.execute [] block :: catching ++ finalizing)
  | .switch value names functions cases =>
    let inner ← enterBlock a names functions
    -- the value is evaluated in the scope outside
    goOn a [.evaluate value, .leave inner.scope, .switchOn cases, .leave a.scope, leaveLoop]
  | .labeled label body    =>
    if isLoop body then goOn a [.execute (label :: labels) body]
    else goOn a [.execute (label :: labels) body, .breakable ((label :: labels).map some) a.mark]
  | .withObject object body => goOn a [.evaluate object, .withScope body, .leave a.scope]
  | _                      => throwNew .syntaxError "not a statement"

/-- Enters the scope of the object on top of the stack. -/
def enterWith (a : Activation) (body : Tree) : Exec Move := do
  let r ← toObject a.top
  let scope ← newScope { parent := some a.scope, kind := .object r true, bindings := #[] }
  goOn { a.drop 1 with scope } [.execute [] body]

end Stencil.Script
