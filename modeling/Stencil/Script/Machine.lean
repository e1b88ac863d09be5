import Stencil.Clock
import Stencil.Script.Regex.Pattern
import Stencil.Script.Tree
import Stencil.Script.Value

/-!
# The machine

What a machine remembers while scripts run: objects, scopes, symbols, and the jobs and timers that
wait. The running of one function is an `Activation`: a list of tasks, the operands that they left
behind, and a scope. An activation can be put aside and taken up again, which is how generators and
asynchronous functions pause.
-/

namespace Stencil.Script

/-! ### Activations -/

/-- How a statement or a function ends other than by going on. -/
inductive Completion where
  | throws (value : Value)
  | gives (value : Value)
  | breaks (label : Option Utf16)
  | continues (label : Option Utf16)

/-- What a paused activation is taken up with. -/
inductive Received where
  | next (value : Value)
  | throws (value : Value)
  | gives (value : Value)

/-- An iterator and its method `next`. -/
structure Iteration where
  iterator : Value
  next : Value

/-- What an activation goes back to: its operands and its scope. -/
structure Mark where
  stack : List Value
  scope : Nat

/-- Where a value is stored: in a variable, or in a member of the object below its key. -/
inductive Place where
  | variable (name : Utf16)
  | member
  | superMember

/-- How a pattern binds its names. -/
inductive BindMode where
  | assign
  /-- Names of a block get their first value. -/
  | declare
  deriving DecidableEq

/-- A loop over members: what is bound on each turn, what is done, and the labels of the loop. -/
structure Loop where
  head : Tree
  body : Tree
  labels : List Utf16

inductive Task where
  -- values
  | evaluate (tree : Tree)
  | push (value : Value)
  | drop
  | duplicate
  /-- Names the function on top, if it has no name. -/
  | nameAs (name : Utf16)
  /-- Names the function on top after the key below it. -/
  | nameByKey
  | unary (op : UnaryOp)
  | binary (op : BinaryOp)
  | logical (op : LogicalOp) (right : Tree)
  | choose (yes no : Tree)
  | deleteMember
  | hasPrivate (name : Utf16)
  | toText
  | toKey
  | joinTexts (texts : List Utf16)
  | append
  | appendHole
  | appendAll
  | defineMember
  | defineMethod (kind : MemberKind) (code : Tree)
  | defineProto
  | copyMembers
  -- places
  | load (place : Place)
  | store (place : Place)
  | storeValue (place : Place) (value : Value)
  | getMember
  | getSuper
  | logicalStore (op : LogicalOp) (place : Place) (value : Tree)
  | update (step : Int) (givesOld : Bool) (place : Place)
  -- calls
  | callee (tree : Tree)
  | memberCallee
  | superCallee
  | call (count : Nat) (isEval : Bool)
  | callList
  | construct (count : Nat)
  | constructList
  | superConstruct
  /-- Ends the optional chain if what is on top is nothing. -/
  | optional
  | chained (results : List Value) (mark : Mark)
  | endEval (scope : Nat) (isStrict : Bool) (result : Value)
  -- patterns
  | bind (mode : BindMode) (pattern : Tree)
  | elements (mode : BindMode) (patterns : List Tree) (rest : Tree) (iteration : Iteration)
    (isDone : Bool)
  | properties (mode : BindMode) (patterns : List Tree) (rest : Tree) (object : Value)
    (seen : List Key)
  | propertyAt (mode : BindMode) (pattern : Tree) (patterns : List Tree) (rest : Tree)
    (object : Value) (seen : List Key)
  /-- Closes the iterator when it is left early. -/
  | closing (iteration : Iteration) (isAsync : Bool) (mark : Mark)
  -- classes
  | classBody (name : Option Utf16) (source : String) (hasParent : Bool) (build : Tree)
    (members : List Tree)
  | classMember (kind : MemberKind) (isStatic : Bool) (code : Tree)
  | classEnd (name : Option Utf16) (scope : Nat)
  -- statements
  | execute (labels : List Utf16) (tree : Tree)
  | leave (scope : Nat)
  | keepResult
  | branch (yes no : Tree)
  | whileTurn (test body : Tree) (labels : List Utf16)
  | doTurn (test body : Tree) (labels : List Utf16)
  | forTest (names : List Utf16) (test update body : Tree) (labels : List Utf16)
  | forTurn (names : List Utf16) (test update body : Tree) (labels : List Utf16)
  | forNames
  | overKeys (loop : Loop)
  | keysTurn (loop : Loop) (object : Ref) (keys : List Key)
  | overItems (loop : Loop) (isAsync : Bool)
  | itemsTurn (loop : Loop) (iteration : Iteration) (isAsync : Bool)
  | itemReady (loop : Loop) (iteration : Iteration)
  | breakable (labels : List (Option Utf16)) (mark : Mark)
  | continuable (labels : List (Option Utf16)) (mark : Mark)
  | giveBack
  | raiseThrow
  | catching (parameter handler : Tree) (mark : Mark)
  | finalizing (block : Tree) (mark : Mark)
  /-- Goes on with what a finalizer interrupted. -/
  | resume (completion : Completion)
  /-- Goes on after an asynchronous iterator was closed. -/
  | closed (completion : Completion)
  | switchOn (cases : List Tree)
  | switchMatch (tests cases : List Tree) (value : Value)
  | withScope (body : Tree)
  -- pauses
  | await
  | yield
  /-- Takes up a generator after a `yield`. -/
  | received
  | delegateTo
  | delegate (iteration : Iteration) (received : Received)
  /-- Takes up a generator that hands on what another yields. -/
  | delegating (iteration : Iteration)
  | delegated (iteration : Iteration) (received : Received)

/-- The running of one function. -/
structure Activation where
  tasks : List Task
  stack : List Value
  scope : Nat
  isStrict : Bool
  isAsync : Bool
  isGenerator : Bool
  /-- The value of the last expression statement. -/
  result : Value

/-! ### Objects -/

/-- The objects that are there from the start, each with a prototype, a constructor or both. -/
inductive Standard where
  | object | function | array | string | number | boolean | symbol | bigInt
  | error | typeError | rangeError | syntaxError | referenceError | evalError | uriError
  | aggregateError
  | iterator | asyncIterator | arrayIterator | stringIterator | mapIterator | setIterator
  | regexIterator | wrappedIterator
  | generatorFunction | generator | asyncFunction | asyncGeneratorFunction | asyncGenerator
  | promise | map | set | weakMap | weakSet | weakRef | date | regExp
  | typedArray | int8Array | uint8Array | uint8ClampedArray | int16Array | uint16Array
  | int32Array | uint32Array | bigInt64Array | bigUint64Array | float32Array | float64Array
  | arrayBuffer | dataView | proxy | math | json | reflect | global
  -- what the surroundings of a script provide
  | buffer | loadError | console | surroundings
  deriving DecidableEq

/-- A class field, or a private method, of the instances of a class or of the class itself. -/
structure ClassField where
  key : Key
  kind : MemberKind
  code : Option Ref

/-- A function that a script defines. -/
structure Closure where
  code : Tree
  scope : Nat
  /-- The object in whose prototype `super` members are looked up. -/
  home : Option Ref
  isClass : Bool
  fields : List ClassField
  staticFields : List ClassField

/-- The parts of a promise that its maker keeps. -/
structure Capability where
  promise : Value
  resolve : Value
  reject : Value

/-- What waits for a promise. -/
structure Reaction where
  capability : Option Capability
  onFulfilled : Value
  onRejected : Value

inductive PromiseState where
  | pending (reactions : List Reaction)
  | fulfilled (value : Value)
  | rejected (reason : Value)

/-- How `Promise` gathers the results of several promises. -/
inductive Gathering where
  | all | allSettled | any
  deriving DecidableEq

/-- The small functions that the machine makes as it goes, with what they remember. -/
inductive Step where
  /-- Settles a promise, once; `guard` remembers whether that was done. -/
  | settle (promise guard : Ref) (rejects : Bool)
  /-- Keeps the functions that a new promise gives away. -/
  | keepCapability (holder : Ref)
  /-- Takes up a coroutine that waited. -/
  | takeUp (coroutine : Ref) (throws : Bool)
  /-- Takes up an asynchronous generator that was told to return while it did not run. -/
  | finishReturn (generator : Ref) (throws : Bool)
  /-- One of several promises is settled. -/
  | gather (gathering : Gathering) (index : Nat) (holder guard : Ref) (rejects : Bool)
    (capability : Capability)
  | finallyThen (handler constructor : Value) (throws : Bool)
  | constant (value : Value) (throws : Bool)
  | wrapResult (isDone : Bool)
  | revoke (proxy : Ref)
  /-- Keeps how a promise was settled. -/
  | record (holder : Ref) (rejects : Bool)

/-- A function that no script defines. -/
inductive Native where
  | method (owner : Standard) (isStatic : Bool) (index : Nat)
  | constructor (owner : Standard)
  | step (step : Step)

/-- The kinds of numbers that an array of bytes can hold. -/
inductive ElementKind where
  | int8 | uint8 | uint8Clamped | int16 | uint16 | int32 | uint32 | bigInt64 | bigUint64
  | float32 | float64
  deriving DecidableEq

/-- What a coroutine does next. -/
inductive Pause where
  | fresh (activation : Activation)
  | suspended (activation : Activation)
  /-- Waits for a promise. -/
  | awaiting (activation : Activation)
  | running
  | finished

/-- A request to an asynchronous generator that it has not answered. -/
structure Request where
  received : Received
  capability : Capability

/-- What an iterator goes over. -/
inductive Cursor where
  | array (object : Value) (index : Nat) (keys values : Bool)
  | text (text : Utf16) (index : Nat)
  | map (object : Ref) (index : Nat) (keys values : Bool)
  | set (object : Ref) (index : Nat) (keys : Bool)
  | matches (regex : Value) (text : Utf16) (isGlobal isUnicode : Bool)
  | finished

/-- What an object is besides its properties. -/
inductive Kind where
  | ordinary
  /-- The first items of an array, as far as they are plain properties, and its length. -/
  | array (items : Array (Option Value)) (length : Nat) (isLengthWritable : Bool)
  | closure (closure : Closure)
  | native (native : Native)
  | bound (target this : Value) (arguments : List Value)
  | proxy (target handler : Option Ref) (isCallable isConstructor : Bool)
  | error
  | arguments
  | boolean (value : Bool)
  | number (value : Float)
  | text (value : Utf16)
  | symbol (id : Nat)
  | big (value : Int)
  | date (time : Float)
  | regex (pattern : Regex.Pattern) (source flags : Utf16)
  /-- The entries in order; those that were removed leave a gap. -/
  | map (entries : Array (Option (Value × Value)))
  | set (entries : Array (Option Value))
  | weakMap (entries : List (Value × Value))
  | weakSet (entries : List Value)
  | weakRef (target : Value)
  | promise (state : PromiseState)
  | generator (pause : Pause)
  | asyncFunction (pause : Pause) (capability : Capability)
  | asyncGenerator (pause : Pause) (requests : List Request)
  | iterator (cursor : Cursor)
  | wrappedIterator (iteration : Iteration)
  | bytes (bytes : Array UInt8)
  | typed (element : ElementKind) (buffer offset length : Nat)
  | view (buffer offset length : Nat)
  /-- Values that steps share. -/
  | holder (values : Array Value)

instance : Inhabited Kind := ⟨.ordinary⟩

structure Object where
  kind : Kind
  proto : Option Ref
  isExtensible : Bool
  properties : Array (Key × Property)
  deriving Inhabited

/-! ### Scopes -/

structure Binding where
  name : Utf16
  /-- Missing until the declaration is reached. -/
  value : Option Value
  isMutable : Bool
  /-- Whether an assignment to an immutable binding is an error. -/
  isStrict : Bool

/-- What a function was called with. -/
structure Call where
  /-- Missing until `super` was called. -/
  this : Option Value
  function : Ref
  newTarget : Value

inductive ScopeKind where
  | block
  /-- Where variables are declared, with the call if it is not that of an arrow function. -/
  | function (call : Option Call)
  | object (ref : Ref) (isWith : Bool)

instance : Inhabited ScopeKind := ⟨.block⟩

structure Scope where
  parent : Option Nat
  kind : ScopeKind
  bindings : Array Binding
  deriving Inhabited

/-! ### The machine -/

/-- A job that waits for the running script to end. -/
inductive Job where
  | react (capability : Option Capability) (handler argument : Value) (throws : Bool)
  /-- Calls the method `then` of what a promise was resolved with. -/
  | follow (promise : Ref) (thenable method : Value)

/-- How important a note to the console is. -/
inductive Level where
  | info | warn | error | debug | trace
  deriving DecidableEq

structure Machine where
  objects : Array Object
  scopes : Array Scope
  /-- The descriptions of the symbols. -/
  symbols : Array (Option Utf16)
  /-- The symbols that are shared by their name. -/
  registry : List (Utf16 × Nat)
  jobs : List Job
  /-- The timers, with the objects that tell what they call. -/
  clock : Clock Float Ref
  /-- What was written to the console. -/
  console : Array (Level × String)

/-! ### Computations -/

/-- Why a computation stops. -/
inductive Abrupt where
  | thrown (value : Value)
  /-- More steps were needed than are allowed. -/
  | exhausted

/-- Computations that do not call functions by themselves. -/
abbrev Base := EStateM Abrupt Machine

/-- How functions are called, and what proxies and their targets answer, one level down. -/
structure Host where
  call : Value → Value → List Value → Base Value
  construct : Value → List Value → Value → Base Value
  getOwn : Ref → Key → Base (Option Property)
  define : Ref → Key → Descriptor → Base Bool
  has : Ref → Key → Base Bool
  get : Ref → Key → Value → Base Value
  set : Ref → Key → Value → Value → Base Bool
  delete : Ref → Key → Base Bool
  keys : Ref → Base (List Key)
  proto : Ref → Base (Option Ref)
  setProto : Ref → Option Ref → Base Bool
  isExtensible : Ref → Base Bool
  preventExtensions : Ref → Base Bool

/-- Computations of a machine. -/
abbrev Exec := ReaderT Host Base

/-- A call of a native function. -/
structure Invocation where
  this : Value
  arguments : List Value
  /-- What `new` was applied to, or undefined in a plain call. -/
  newTarget : Value
  callee : Ref

/-- An argument, undefined if it is left out. -/
def Invocation.arg (i : Invocation) (n : Nat) : Value := i.arguments.getD n .undefined

/-- The name of a native member. -/
inductive MemberName where
  | text (name : String)
  | symbol (symbol : WellKnown)

/-- What a native member is. -/
inductive MemberRole where
  | method | getter | setter
  deriving DecidableEq

/-- A native member of a standard object. -/
structure Builtin where
  name : MemberName
  role : MemberRole
  arity : Nat
  run : Invocation → Exec Value

end Stencil.Script
