import Stencil.Script.Evaluate.Classes
import Stencil.Script.Evaluate.Statements

/-!
# Steps

`step` does one task, `unwind` looks for the task that handles an abrupt completion, and `run` goes
on until an activation ends or is put aside.
-/

namespace Stencil.Script

/-! ### Delegation -/

/-- Hands what a generator was taken up with on to the iterator that it delegates to. -/
def delegateStep (a : Activation) (it : Iteration) (received : Received) : Exec Move := do
  let hand (answer : Value) : Exec Move := do
    if a.isAsync then goOn (a.push answer) [.await, .delegated it received]
    else goOn (a.push answer) [.delegated it received]
  match received with
  | .next v   => hand (← call it.next it.iterator [v])
  | .throws v =>
    match ← methodOfValue it.iterator (.ofString "throw") with
    | some f => hand (← call f it.iterator [v])
    | none   =>
      it.close
      throwType "iterator has no method 'throw'"
  | .gives v  =>
    match ← methodOfValue it.iterator (.ofString "return") with
    | some f => hand (← call f it.iterator [v])
    | none   => return .raise (.gives v) a

/-- Goes on with the answer of the iterator that a generator delegates to. -/
def delegatedStep (a : Activation) (it : Iteration) (received : Received) : Exec Move := do
  let answer := a.top
  let a := a.drop 1
  let r ← stepResult answer
  if (← getNamed r "done").toBool then
    let v ← getNamed r "value"
    match received with
    | .gives _ => return .raise (.gives v) a
    | _        => give a v
  else if a.isAsync then
    return .pause (.yield (← getNamed r "value") false) (a.plan [.delegating it])
  else return .pause (.yield answer true) (a.plan [.delegating it])

/-! ### Steps -/

/-- Does a task. -/
def step (a : Activation) (task : Task) : Exec Move := do
  match task with
  | .evaluate tree       => evaluateTree a tree
  | .push v              => give a v
  | .drop                => return .go (a.drop 1)
  | .duplicate           => give a a.top
  | .nameAs name         =>
    nameFunction a.top name
    return .go a
  | .nameByKey           =>
    nameFunction a.top (← methodName (← toKey a.second) .method)
    return .go a
  | .unary op            => give (a.drop 1) (← unaryResult op a.top)
  | .binary op           => give (a.drop 2) (← binaryResult op a.second a.top)
  | .logical op right    =>
    if op.keeps a.top then return .go a else goOn (a.drop 1) [.evaluate right]
  | .choose yes no       => goOn (a.drop 1) [.evaluate (if a.top.toBool then yes else no)]
  | .deleteMember        =>
    let r ← toObject a.second
    let ok ← deleteProperty r (← toKey a.top)
    if !ok && a.isStrict then throwType "cannot delete property"
    give (a.drop 2) (.bool ok)
  | .hasPrivate name     =>
    match a.top with
    | .object r => give (a.drop 1) (.bool (← hasPrivateMember r (← privateName a.scope name)))
    | _         => throwType "right-hand side of 'in' should be an object"
  | .toText              => give (a.drop 1) (.text (← toText a.top))
  | .toKey               =>
    match a.top with
    | .text _   => return .go a
    | .hidden _ => return .go a
    | .object _ => give (a.drop 1) (← toKey a.top).toValue
    | _         => return .go a
  | .joinTexts texts     =>
    let count := texts.length - 1
    let values := (a.stack.take count).reverse.map fun v => match v with
      | .text t => t
      | _       => .empty
    let pieces := texts.zipIdx.flatMap fun (t, i) => [t, values.getD i .empty]
    give (a.drop count) (.text (Utf16.join pieces))
  | .append              =>
    appendItem a.second (some a.top)
    return .go (a.drop 1)
  | .appendHole          =>
    appendItem a.top none
    return .go a
  | .appendAll           => appendAllMove a
  | .defineMember        =>
    match (a.stack.drop 2).headD .undefined with
    | .object r =>
      createProperty r (← toKey a.second) a.top
      return .go (a.drop 2)
    | _         => return .go (a.drop 2)
  | .defineMethod kind code =>
    match a.second with
    | .object r =>
      defineMethodOf r r (← toKey a.top) kind code a.scope true
      return .go (a.drop 1)
    | _         => return .go (a.drop 1)
  | .defineProto         =>
    match a.second, a.top with
    | .object r, .object p =>
      let _ ← setProto r (some p)
      return .go (a.drop 1)
    | .object r, .null     =>
      let _ ← setProto r none
      return .go (a.drop 1)
    | _, _                 => return .go (a.drop 1)
  | .copyMembers         =>
    match a.second with
    | .object r =>
      copyProperties r a.top []
      return .go (a.drop 1)
    | _         => return .go (a.drop 1)
  | .load place          => give a (← place.load a)
  | .store place         =>
    let v := a.top
    let a := a.drop 1
    place.store a v
    give (a.drop place.operands) v
  | .storeValue place v  =>
    place.store a v
    return .go (a.drop place.operands)
  | .getMember           => give (a.drop 2) (← loadMember a.second a.top)
  | .getSuper            => give (a.drop 1) (← Place.superMember.load a)
  | .logicalStore op place value =>
    if op.keeps a.top then
      let v := a.top
      give (a.drop (1 + place.operands)) v
    else
      let tasks := match place with
        | .variable name => evaluateNamed name value
        | _              => [.evaluate value]
      goOn (a.drop 1) (tasks ++ [.store place])
  | .update step givesOld place =>
    let old ← toNumeric a.top
    let new := stepped old step
    let a := a.drop 1
    place.store a new
    give (a.drop place.operands) (if givesOld then old else new)
  | .callee tree         => calleeMove a tree
  | .memberCallee        =>
    let f ← loadMember a.second a.top
    give (a.drop 1) f
  | .superCallee         =>
    let f ← Place.superMember.load a
    return .go (((a.drop 1).push (← thisValue a.scope)).push f)
  | .call count isEval   => callMove a count isEval
  | .callList            =>
    let arguments ← match a.top with
      | .object list => itemsOf list
      | _            => pure []
    let a := a.drop 1
    give (a.drop 2) (← call a.top a.second arguments)
  | .construct count     =>
    let arguments := (a.stack.take count).reverse
    let a := a.drop count
    give (a.drop 1) (← constructChecked a.top arguments)
  | .constructList       =>
    let arguments ← match a.top with
      | .object list => itemsOf list
      | _            => pure []
    give (a.drop 2) (← constructChecked a.second arguments)
  | .superConstruct      => superConstructMove a
  | .optional            => if a.top.isNullish then endChain a else return .go a
  | .chained _ _         => return .go a
  | .endEval scope isStrict result =>
    give { a with scope, isStrict, result } a.result
  | .bind mode pattern   => bindPattern (a.drop 1) mode pattern a.top
  | .elements mode patterns rest it isDone => bindElements a mode patterns rest it isDone
  | .properties mode patterns rest object seen => bindProperties a mode patterns rest object seen
  | .propertyAt mode pattern patterns rest object seen =>
    bindPropertyAt a mode pattern patterns rest object seen
  | .closing _ _ _       => return .go a
  | .classBody name source hasParent build members => makeClass a name source hasParent build members
  | .classMember kind isStatic code => addClassMember a kind isStatic code
  | .classEnd name scope => endClass a name scope
  | .execute labels tree => executeTree a labels tree
  | .leave scope         => return .go { a with scope }
  | .keepResult          => return .go { a.drop 1 with result := a.top }
  | .branch yes no       => goOn (a.drop 1) [.execute [] (if a.top.toBool then yes else no)]
  | .whileTurn test body labels => whileTurn a test body labels
  | .doTurn test body labels => doTurn a test body labels
  | .forTest names test update body labels => forTest a names test update body labels
  | .forTurn names test update body labels => forTurn a names test update body labels
  | .forNames            => forNames a
  | .overKeys loop       => overKeys a loop
  | .keysTurn loop r keys => keysTurn a loop r keys
  | .overItems loop isAsync => overItems a loop isAsync
  | .itemsTurn loop it isAsync => itemsTurn a loop it isAsync
  | .itemReady loop it   => itemReady a loop it
  | .breakable _ mark    => return .go { a with scope := mark.scope }
  | .continuable _ mark  => return .go { a with scope := mark.scope }
  | .giveBack            => return .raise (.gives a.top) (a.drop 1)
  | .raiseThrow          => return .raise (.throws a.top) (a.drop 1)
  | .catching _ _ _      => return .go a
  | .finalizing block _  => goOn a [.execute [] block]
  | .resume completion   => return .raise completion a
  | .closed completion   =>
    match completion, a.top with
    | .throws _, _ => return .raise completion a
    | _, .object _ => return .raise completion (a.drop 1)
    | _, _         => throwType "result of 'return' is not an object"
  | .switchOn cases      => switchTest (a.drop 1) cases cases a.top
  | .switchMatch tests cases v => switchMatch a tests cases v
  | .withScope body      => enterWith a body
  | .await               => return .pause (.await a.top) (a.drop 1)
  | .yield               => return .pause (.yield a.top false) ((a.drop 1).plan [.received])
  | .received            => return .go a
  | .delegateTo          =>
    let it ← if a.isAsync then asyncIterationOf a.top else iterationOf a.top
    goOn (a.drop 1) [.delegate it (.next .undefined)]
  | .delegate it received => delegateStep a it received
  | .delegating it       => delegateStep a it (.next .undefined)
  | .delegated it received => delegatedStep a it received

/-! ### Abrupt completions -/

/-- The activation that handles an error in a `catch` clause. -/
def enterHandler (a : Activation) (parameter handler : Tree) (mark : Mark) (v : Value) :
    Exec Activation := do
  let a := { a with stack := mark.stack, scope := mark.scope }
  match parameter with
  | .absent => return a.plan [.execute [] handler]
  | _       =>
    let names := parameter.boundNames.map fun n => (⟨n, false⟩ : LexicalName)
    let scope ← blockScope a.scope names
    return { a.plan [.push v, .bind .declare parameter, .execute [] handler, .leave a.scope]
      with scope }

/-- Closes an asynchronous iterator that is left early, if it wants to be closed. -/
def closeAsync (it : Iteration) (c : Completion) : Exec (Except Value (Option Value)) := do
  let answer ← attempt (do
    match ← methodOfValue it.iterator (.ofString "return") with
    | some f => some <$> call f it.iterator []
    | none   => return none)
  match answer, c with
  | .error _, .throws _ => return .ok none
  | answer, _           => return answer

/-- The activation that handles a completion, or the completion when nothing does. -/
def unwind (a : Activation) : Completion → List Task → Exec (Activation ⊕ Completion)
  | c, []            => return .inr c
  | c, task :: tasks => do
    let back (mark : Mark) (first : List Task) : Activation :=
      { a with tasks := first ++ tasks, stack := mark.stack, scope := mark.scope }
    match task, c with
    | .catching parameter handler mark, .throws v =>
      return .inl (← enterHandler { a with tasks } parameter handler mark v)
    | .finalizing block mark, c     => return .inl (back mark [.execute [] block, .resume c])
    | .breakable labels mark, .breaks label =>
      if labels.contains label then return .inl (back mark []) else unwind a c tasks
    | .continuable labels mark, .continues label =>
      if labels.contains label then return .inl (back mark []) else unwind a c tasks
    | .closing it true mark, c      =>
      match ← closeAsync it c with
      | .ok none          => unwind a c tasks
      | .ok (some answer) => return .inl ((back mark [.await, .closed c]).push answer)
      | .error v          => unwind a (.throws v) tasks
    | .closing it false _, .throws v =>
      it.closeQuietly
      unwind a (.throws v) tasks
    | .closing it false _, c        =>
      match ← attempt it.close with
      | .ok _    => unwind a c tasks
      | .error v => unwind a (.throws v) tasks
    | .endEval _ isStrict _, c      => unwind { a with isStrict } c tasks
    | _, c                          => unwind a c tasks

/-! ### Runs -/

/-- What comes of running an activation. -/
inductive Outcome where
  /-- All tasks are done; the value is that of the last expression statement. -/
  | ended (result : Value)
  | completed (completion : Completion)
  | paused (reason : Pause.Reason) (activation : Activation)

/-- Runs an activation until it ends or is put aside; `fuel` bounds the number of steps. -/
def run : (fuel : Nat) → Activation → Exec Outcome
  | 0, _        => exhaust
  | fuel + 1, a => do
    match a.tasks with
    | []            => return .ended a.result
    | task :: tasks =>
      let a := { a with tasks }
      let move ← attempt (step a task)
      match move with
      | .ok (.go a)          => run fuel a
      | .ok (.pause reason a) => return .paused reason a
      | .ok (.raise c after) =>
        match ← unwind after c after.tasks with
        | .inl a => run fuel a
        | .inr c => return .completed c
      | .error v             =>
        match ← unwind a (.throws v) a.tasks with
        | .inl a => run fuel a
        | .inr c => return .completed c

/-- Takes up an activation that was put aside. -/
def takeUp (a : Activation) (received : Received) : Exec Outcome := do
  match a.tasks, received with
  | .delegating it :: tasks, _ => run turnLimit { a with tasks := .delegate it received :: tasks }
  | _, .next v                 => run turnLimit (a.push v)
  | .received :: tasks, .gives v =>
    if a.isAsync then run turnLimit (({ a with tasks }.push v).plan [.await, .giveBack])
    else raised (.gives v)
  | _, .gives v                => raised (.gives v)
  | _, .throws v               => raised (.throws v)
where
  raised (c : Completion) : Exec Outcome := do
    match ← unwind a c a.tasks with
    | .inl a => run turnLimit a
    | .inr c => return .completed c

end Stencil.Script
