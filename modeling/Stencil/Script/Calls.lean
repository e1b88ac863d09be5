import Stencil.Script.Evaluate.Step

/-!
# Calls

How functions are called and constructed, and how generators and asynchronous functions are taken
up. `hostAt` ties the knot: what calls what is bounded by a number of levels.
-/

namespace Stencil.Script

/-! ### Preparing -/

/-- The activation that begins with some tasks. -/
def Activation.start (head : FunctionHead) (scope : Nat) (tasks : List Task) : Activation where
  tasks := tasks
  stack := []
  scope := scope
  isStrict := head.isStrict
  isAsync := head.isAsync
  isGenerator := head.isGenerator
  result := .undefined

/-- Tasks that bind parameters to arguments. -/
def parameterTasks : List Tree → (rest : Tree) → List Value → Exec (List Task)
  | [], .absent, _              => return []
  | [], rest, arguments         => return [.push (← newArray arguments), .bind .declare rest]
  | p :: ps, rest, arguments    => do
    return .push (arguments.headD .undefined) :: .bind .declare p ::
      (← parameterTasks ps rest arguments.tail)

/-- The activation of a call, whose parameters are bound. -/
def prepare (f : Ref) (c : Closure) (this : Option Value) (arguments : List Value)
    (newTarget : Value) : Exec Activation := do
  match c.code with
  | .function head parameters rest (.block names functions statements) =>
    let frame : Option Call := if head.kind = .arrow then none else some ⟨this, f, newTarget⟩
    let body := statements.map (Task.execute [])
    if Tree.areSimple parameters rest then
      let scope ← plainScope head frame c.scope parameters names arguments
      declareFunctions scope functions
      return .start head scope body
    else
      let outer ← parameterScope head frame c.scope parameters rest arguments
      let binding ← parameterTasks parameters rest arguments
      match ← run turnLimit (.start { head with isAsync := false, isGenerator := false } outer binding) with
      | .completed (.throws v) => throwValue v
      | _                      =>
        let scope ← bodyScope head outer names
        declareFunctions scope functions
        return .start head scope body
  | _ => throwType "not a function"

/-- The value that a finished run gives. -/
def finish (outcome : Outcome) : Exec Value := do
  match outcome with
  | .completed (.gives v)  => return v
  | .completed (.throws v) => throwValue v
  | _                      => return .undefined

/-! ### Asynchronous functions -/

/-- Lets a coroutine wait for a value. -/
def awaitFor (coroutine : Ref) (v : Value) : Exec Unit := do
  let next ← newStep (.takeUp coroutine false) 1
  let throws ← newStep (.takeUp coroutine true) 1
  match ← attempt (awaitValue v next throws) with
  | .ok _        => pure ()
  | .error error =>
    let promise ← newPromise
    settlePromise promise error true
    reactTo promise ⟨none, next, throws⟩

/-- Goes on after a run of an asynchronous function. -/
def advanceAsync (coroutine : Ref) (capability : Capability) (outcome : Outcome) : Exec Unit := do
  match outcome with
  | .paused (.await v) a   =>
    setKind coroutine (.asyncFunction (.awaiting a) capability)
    awaitFor coroutine v
  | .completed (.throws v) =>
    setKind coroutine (.asyncFunction .finished capability)
    let _ ← call capability.reject .undefined [v]
  | outcome                =>
    setKind coroutine (.asyncFunction .finished capability)
    let _ ← call capability.resolve .undefined [← finish outcome]

/-! ### Generators -/

/-- Takes up a generator. -/
def resumeGenerator (r : Ref) (received : Received) : Exec Value := do
  let goOn (a : Activation) (resume : Activation → Exec Outcome) : Exec Value := do
    setKind r (.generator .running)
    match ← resume a with
    | .paused (.yield v isResult) a =>
      setKind r (.generator (.suspended a))
      if isResult then return v else newResult v false
    | outcome =>
      setKind r (.generator .finished)
      newResult (← finish outcome) true
  let conclude : Exec Value := do
    setKind r (.generator .finished)
    match received with
    | .next _   => newResult .undefined true
    | .throws v => throwValue v
    | .gives v  => newResult v true
  match ← kindOf r with
  | .generator (.fresh a)     =>
    match received with
    | .next _ => goOn a (run turnLimit)
    | _       => conclude
  | .generator (.suspended a) => goOn a fun a => takeUp a received
  | .generator .finished      => conclude
  | .generator _              => throwType "generator is already running"
  | _                         => throwType "not a generator"

/-! ### Asynchronous generators -/

/-- Answers the request of an asynchronous generator that has waited longest. -/
def answerRequest (r : Ref) (pause : Pause) (requests : List Request) (v : Value)
    (result : Option Bool) : Exec Unit := do
  setKind r (.asyncGenerator pause requests.tail)
  match requests.head?, result with
  | some request, some isDone =>
    let _ ← call request.capability.resolve .undefined [← newResult v isDone]
  | some request, none        =>
    let _ ← call request.capability.reject .undefined [v]
  | none, _                   => pure ()

/-- The requests that an asynchronous generator has not answered. -/
def requestsOf (r : Ref) : Exec (List Request) := do
  match ← kindOf r with
  | .asyncGenerator _ requests => return requests
  | _                          => return []

/-- Goes on after a run of an asynchronous generator. -/
def advanceGenerator (r : Ref) (outcome : Outcome) : Exec Unit := do
  let requests ← requestsOf r
  match outcome with
  | .paused (.await v) a   =>
    setKind r (.asyncGenerator (.awaiting a) requests)
    awaitFor r v
  | .paused (.yield v _) a => answerRequest r (.suspended a) requests v (some false)
  | .completed (.throws v) => answerRequest r .finished requests v none
  | outcome                => answerRequest r .finished requests (← finish outcome) (some true)

/-- Lets an asynchronous generator answer its requests as far as it can; `fuel` bounds their
number. -/
def serveRequests (r : Ref) : (fuel : Nat) → Exec Unit
  | 0        => exhaust
  | fuel + 1 => do
    match ← kindOf r with
    | .asyncGenerator pause (request :: requests) =>
      let all := request :: requests
      match pause, request.received with
      | .running, _         => pure ()
      | .awaiting _, _      => pure ()
      | .suspended a, received =>
        setKind r (.asyncGenerator .running all)
        advanceGenerator r (← takeUp a received)
        serveRequests r fuel
      | .fresh a, .next _   =>
        setKind r (.asyncGenerator .running all)
        advanceGenerator r (← run turnLimit a)
        serveRequests r fuel
      | _, .next _          =>
        answerRequest r .finished all .undefined (some true)
        serveRequests r fuel
      | _, .throws v        =>
        answerRequest r .finished all v none
        serveRequests r fuel
      | _, .gives v         =>
        setKind r (.asyncGenerator .running all)
        let next ← newStep (.finishReturn r false) 1
        let throws ← newStep (.finishReturn r true) 1
        match ← attempt (awaitValue v next throws) with
        | .ok _        => pure ()
        | .error error =>
          answerRequest r .finished all error none
          serveRequests r fuel
    | _ => pure ()

/-- Asks an asynchronous generator for something. -/
def requestOf (this : Value) (received : Received) : Exec Value := do
  let capability ← newCapability
  match this with
  | .object r =>
    match ← kindOf r with
    | .asyncGenerator pause requests =>
      setKind r (.asyncGenerator pause (requests ++ [⟨received, capability⟩]))
      serveRequests r turnLimit
      return capability.promise
    | _ =>
      let _ ← call capability.reject .undefined [← newError .typeError "not an async generator"]
      return capability.promise
  | _ =>
    let _ ← call capability.reject .undefined [← newError .typeError "not an async generator"]
    return capability.promise

/-- Takes up a coroutine that waited for a promise. -/
def takeUpCoroutine (r : Ref) (v : Value) (throws : Bool) : Exec Value := do
  let received : Received := if throws then .throws v else .next v
  match ← kindOf r with
  | .asyncFunction (.awaiting a) capability =>
    setKind r (.asyncFunction .running capability)
    advanceAsync r capability (← takeUp a received)
  | .asyncGenerator (.awaiting a) requests =>
    setKind r (.asyncGenerator .running requests)
    advanceGenerator r (← takeUp a received)
    serveRequests r turnLimit
  | _ => pure ()
  return .undefined

/-- Ends an asynchronous generator that was told to return. -/
def finishReturn (r : Ref) (v : Value) (throws : Bool) : Exec Value := do
  answerRequest r .finished (← requestsOf r) v (if throws then none else some true)
  serveRequests r turnLimit
  return .undefined

/-! ### Calling -/

/-- Calls a function that a script defines. -/
def callClosure (f : Ref) (c : Closure) (this : Value) (arguments : List Value) : Exec Value := do
  match c.code with
  | .function head _ _ _ =>
    if head.kind = .baseConstructor || head.kind = .derivedConstructor then
      throwType "class constructor cannot be invoked without 'new'"
    let this ← if head.kind = .arrow then pure none else some <$> thisFor head this
    let start := prepare f c this arguments .undefined
    match head.isAsync, head.isGenerator with
    | false, false => finish (← run turnLimit (← start))
    | false, true  =>
      let a ← start
      return .object (← allocateFor (.object f) .generator (.generator (.fresh a)))
    | true, true   =>
      let a ← start
      return .object (← allocateFor (.object f) .asyncGenerator (.asyncGenerator (.fresh a) []))
    | true, false  =>
      let capability ← newCapability
      match ← attempt start with
      | .error v =>
        let _ ← call capability.reject .undefined [v]
        return capability.promise
      | .ok a    =>
        let coroutine ← allocateKind (.asyncFunction .running capability) .object
        advanceAsync coroutine capability (← run turnLimit a)
        return capability.promise
  | _ => throwType "not a function"

/-- Constructs with a function that a script defines. -/
def constructClosure (f : Ref) (c : Closure) (arguments : List Value) (newTarget : Value) :
    Exec Value := do
  let isDerived : Bool := match c.code with
    | .function head _ _ _ => head.kind = .derivedConstructor
    | _                    => false
  if isDerived then
    let a ← prepare f c none arguments newTarget
    match ← finish (← run turnLimit a) with
    | .object r   => return .object r
    | .undefined  => thisValue a.scope
    | _           => throwType "derived constructor can only return an object or undefined"
  else
    let r ← allocateFor newTarget .object .ordinary
    addFields r c.fields
    let a ← prepare f c (some (.object r)) arguments newTarget
    match ← finish (← run turnLimit a) with
    | .object other => return .object other
    | _             => return .object r

variable (natives : Native → Invocation → Exec Value)

/-- Calls a value. -/
def callValue (function this : Value) (arguments : List Value) : Exec Value := do
  match function with
  | .object r =>
    match ← kindOf r with
    | .closure c => callClosure r c this arguments
    | .native n  => natives n { this, arguments, newTarget := .undefined, callee := r }
    | .bound target bound first => call target bound (first ++ arguments)
    | .proxy target handler true _ =>
      let (target, handler, trap) ← trapOf target handler "apply"
      match trap with
      | none      => call (.object target) this arguments
      | some trap =>
        call trap (.object handler) [.object target, this, ← newArray arguments]
    | _ => throwType "not a callable function"
  | _ => throwType "not a callable function"

/-- Constructs with a value. -/
def constructValue (function : Value) (arguments : List Value) (newTarget : Value) :
    Exec Value := do
  match function with
  | .object r =>
    match ← kindOf r with
    | .closure c => constructClosure r c arguments newTarget
    | .native n  => natives n { this := .undefined, arguments, newTarget, callee := r }
    | .bound target _ first =>
      construct target (first ++ arguments)
        (if newTarget.strictEq function then target else newTarget)
    | .proxy target handler _ true =>
      let (target, handler, trap) ← trapOf target handler "construct"
      match trap with
      | none      => construct (.object target) arguments newTarget
      | some trap =>
        let made ← call trap (.object handler) [.object target, ← newArray arguments, newTarget]
        unless made.isObject do throwType "proxy constructor must return an object"
        return made
    | _ => throwType "not a constructor"
  | _ => throwType "not a constructor"

/-! ### Levels -/

/-- The host in which nothing can be called. -/
def silentHost : Host where
  call := fun _ _ _ => overflow
  construct := fun _ _ _ => overflow
  getOwn := fun _ _ => overflow
  define := fun _ _ _ => overflow
  has := fun _ _ => overflow
  get := fun _ _ _ => overflow
  set := fun _ _ _ _ => overflow
  delete := fun _ _ => overflow
  keys := fun _ => overflow
  proto := fun _ => overflow
  setProto := fun _ _ => overflow
  isExtensible := fun _ => overflow
  preventExtensions := fun _ => overflow
where
  overflow {α : Type} : Base α := fun m =>
    let error : Object := {
      kind := .error, proto := some Standard.rangeError.proto, isExtensible := true,
      properties := #[(.ofString "message", .hidden (.ofString "maximum call depth exceeded"))] }
    .error (.thrown (.object m.objects.size)) { m with objects := m.objects.push error }

/-- The host in which calls may be nested in each other at most so many times. -/
def hostAt : (depth : Nat) → Host
  | 0         => silentHost
  | depth + 1 => {
      call := fun f this arguments m => callValue natives f this arguments (hostAt depth) m
      construct := fun f arguments target m =>
        constructValue natives f arguments target (hostAt depth) m
      getOwn := fun r key m => getOwn r key (hostAt depth) m
      define := fun r key d m => define r key d (hostAt depth) m
      has := fun r key m => hasProperty r key (hostAt depth) m
      get := fun r key receiver m => getFrom chainLimit r key receiver (hostAt depth) m
      set := fun r key v receiver m => setFrom chainLimit r key v receiver (hostAt depth) m
      delete := fun r key m => deleteProperty r key (hostAt depth) m
      keys := fun r m => ownKeys r (hostAt depth) m
      proto := fun r m => getProto r (hostAt depth) m
      setProto := fun r proto m => setProto r proto (hostAt depth) m
      isExtensible := fun r m => isExtensible r (hostAt depth) m
      preventExtensions := fun r m => preventExtensions r (hostAt depth) m }

/-! ### Scripts -/

/-- Runs a script in the global scope. -/
def runScript (script : Syntax.Script) : Exec Value := do
  match script.block with
  | .block names functions statements =>
    script.vars.forM (declareVariable globalScope)
    modifyScope scriptScope fun s => { s with
      bindings := s.bindings ++ (names.map fun n => Binding.waiting n.name n.isConstant).toArray }
    functions.forM fun f => do
      match f with
      | .function head _ _ _ =>
        match head.name with
        | some name =>
          declareFunction globalScope name (.object (← newFunction f scriptScope none name))
        | none      => pure ()
      | _ => pure ()
    let a : Activation := {
      tasks := statements.map (Task.execute []), stack := [], scope := scriptScope,
      isStrict := script.isStrict, isAsync := false, isGenerator := false, result := .undefined }
    match ← run turnLimit a with
    | .ended v               => return v
    | .completed (.throws v) => throwValue v
    | _                      => return .undefined
  | _ => throwNew .syntaxError "invalid script"

/-- Runs the script that a text is. -/
def evaluateText (code : List Char) : Exec Value := do
  match Syntax.readScript? code with
  | some script => runScript script
  | none        => throwNew .syntaxError "invalid script"

end Stencil.Script
