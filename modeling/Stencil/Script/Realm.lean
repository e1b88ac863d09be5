import Stencil.Script.Library.Members

/-!
# The realm of a new machine

How the standard objects are laid out before any script runs: their prototypes and constructors, the
members that `Library.membersOf` lists, constants, and the global names.
-/

namespace Stencil.Script

namespace Standard

/-! ### What standard objects are -/

/-- The name of the constructor. -/
def title? : Standard → Option String
  | object                 => some "Object"
  | function               => some "Function"
  | array                  => some "Array"
  | string                 => some "String"
  | number                 => some "Number"
  | boolean                => some "Boolean"
  | symbol                 => some "Symbol"
  | bigInt                 => some "BigInt"
  | error                  => some "Error"
  | typeError              => some "TypeError"
  | rangeError             => some "RangeError"
  | syntaxError            => some "SyntaxError"
  | referenceError         => some "ReferenceError"
  | evalError              => some "EvalError"
  | uriError               => some "URIError"
  | aggregateError         => some "AggregateError"
  | generatorFunction      => some "GeneratorFunction"
  | asyncFunction          => some "AsyncFunction"
  | asyncGeneratorFunction => some "AsyncGeneratorFunction"
  | promise                => some "Promise"
  | map                    => some "Map"
  | set                    => some "Set"
  | weakMap                => some "WeakMap"
  | weakSet                => some "WeakSet"
  | weakRef                => some "WeakRef"
  | date                   => some "Date"
  | regExp                 => some "RegExp"
  | typedArray             => some "TypedArray"
  | arrayBuffer            => some "ArrayBuffer"
  | dataView               => some "DataView"
  | proxy                  => some "Proxy"
  | standard               => (ElementKind.ofStandard? standard).map ElementKind.name

/-- How many arguments the constructor expects. -/
def arity : Standard → Nat
  | symbol | map | set | weakMap | weakSet | typedArray => 0
  | date                                               => 7
  | regExp | proxy | aggregateError                    => 2
  | standard => if (ElementKind.ofStandard? standard).isSome then 3 else 1

/-- Whether a constructor is found under its name. -/
def isNamed (s : Standard) : Bool :=
  s.title?.isSome &&
    !([generatorFunction, asyncFunction, asyncGeneratorFunction, typedArray].contains s)

/-- The names of the objects that only hold members. -/
def holders : List (String × Standard) :=
  [("Math", math), ("JSON", json), ("Reflect", reflect)]

/-- Whether a kind of error is a special one. -/
def isSpecialError : Standard → Bool
  | typeError | rangeError | syntaxError | referenceError | evalError | uriError | aggregateError
  | loadError => true
  | _         => false

/-- The standard object from whose members those of another are inherited. -/
def parent? : Standard → Option Standard
  | object                                                   => none
  | arrayIterator | stringIterator | mapIterator | setIterator | regexIterator
  | generator                                                => some iterator
  | asyncGenerator | wrappedIterator                         => some asyncIterator
  | generatorFunction | asyncFunction | asyncGeneratorFunction => some function
  | buffer                                                   => some uint8Array
  | standard                                                 =>
    if standard.isSpecialError then some error
    else if (ElementKind.ofStandard? standard).isSome then some typedArray
    else some object

/-- The object that a constructor inherits from. -/
def constructorParent (s : Standard) : Ref :=
  match s.parent? with
  | some .object => function.proto
  | some parent  => if parent.title?.isSome then parent.constructor else function.proto
  | none         => function.proto

/-- The word for the objects in their texts. -/
def tag? : Standard → Option String
  | symbol                 => some "Symbol"
  | bigInt                 => some "BigInt"
  | arrayIterator          => some "Array Iterator"
  | stringIterator         => some "String Iterator"
  | mapIterator            => some "Map Iterator"
  | setIterator            => some "Set Iterator"
  | regexIterator          => some "RegExp String Iterator"
  | generatorFunction      => some "GeneratorFunction"
  | generator              => some "Generator"
  | asyncFunction          => some "AsyncFunction"
  | asyncGeneratorFunction => some "AsyncGeneratorFunction"
  | asyncGenerator         => some "AsyncGenerator"
  | promise                => some "Promise"
  | map                    => some "Map"
  | set                    => some "Set"
  | weakMap                => some "WeakMap"
  | weakSet                => some "WeakSet"
  | weakRef                => some "WeakRef"
  | arrayBuffer            => some "ArrayBuffer"
  | dataView               => some "DataView"
  | math                   => some "Math"
  | json                   => some "JSON"
  | reflect                => some "Reflect"
  | _                      => none

/-- What the prototype is besides its properties. -/
def protoKind : Standard → Kind
  | function => .native (.method .function false 1000)
  | array    => .array #[] 0 true
  | string   => .text .empty
  | number   => .number 0
  | boolean  => .boolean false
  | _        => .ordinary

/-- The prototype without its members. -/
def bareProto (s : Standard) : Object := .empty s.protoKind (s.parent?.map proto)

/-- The constructor without its members. -/
def bareConstructor (s : Standard) : Object :=
  match s.title? with
  | some title => {
      kind         := .native (.constructor s)
      proto        := some s.constructorParent
      isExtensible := true
      properties   := #[
        (.ofString "length", .readOnly (.ofNat s.arity)),
        (.ofString "name", .readOnly (.ofString title))] }
  | none       => .empty .ordinary (some object.proto)

/-- The object that has the members of a standard object, or its static ones. -/
def holder (s : Standard) (isStatic : Bool) : Ref := if isStatic then s.constructor else s.proto

end Standard

/-! ### Building -/

namespace Machine

/-- Adds a property to an object. -/
def withProperty (m : Machine) (r : Ref) (key : Key) (p : Property) : Machine :=
  { m with objects := m.objects.modify r fun o =>
      { o with properties := putProperty o.properties key p } }

/-- Adds a value that loops over keys do not find. -/
def withHidden (m : Machine) (r : Ref) (name : String) (v : Value) : Machine :=
  m.withProperty r (.ofString name) (.hidden v)

/-- Adds constants to an object. -/
def withConstants (m : Machine) (r : Ref) (constants : List (String × Float)) : Machine :=
  constants.foldl (fun m (name, x) => m.withProperty r (.ofString name) (.fixed (.number x))) m

/-- Adds an object; its reference comes with it. -/
def withObject (m : Machine) (o : Object) : Ref × Machine :=
  (m.objects.size, { m with objects := m.objects.push o })

/-- Adds a native function; its reference comes with it. -/
def withNative (m : Machine) (native : Native) (name : Utf16) (arity : Nat) : Ref × Machine :=
  m.withObject {
    kind := .native native, proto := some Standard.function.proto, isExtensible := true,
    properties := #[
      (.ofString "length", .readOnly (.ofNat arity)),
      (.ofString "name", .readOnly (.text name))] }

/-- The own property of an object of which nothing needs to be computed. -/
def plainOwn? (m : Machine) (r : Ref) (key : Key) : Option Property :=
  m.objects[r]?.bind fun o => findProperty o.properties key

/-- Makes an object have the same property under another key. -/
def withAlias (m : Machine) (r : Ref) (key : Key) (original : String) : Machine :=
  match m.plainOwn? r (.ofString original) with
  | some p => m.withProperty r key p
  | none   => m

/-- Adds a native member to an object. -/
def withMember (m : Machine) (r : Ref) (native : Native) (b : Builtin) : Machine :=
  let (key, name) : Key × Utf16 := match b.name with
    | .text name => (.ofString name, .ofString name)
    | .symbol w  => (.ofSymbol w, .ofString ("[Symbol." ++ w.name ++ "]"))
  let word : Utf16 := match b.role with
    | .method => .empty
    | .getter => .ofString "get "
    | .setter => .ofString "set "
  let (f, m) := m.withNative native (word ++ name) b.arity
  let accessors : Value × Value := match (m.plainOwn? r key).map Property.slot with
    | some (.accessor get set) => (get, set)
    | _                        => (.undefined, .undefined)
  m.withProperty r key (match b.role with
    | .method => .hidden (.object f)
    | .getter => ⟨.accessor (.object f) accessors.2, false, true⟩
    | .setter => ⟨.accessor accessors.1 (.object f), false, true⟩)

/-- Adds the members of a prototype or of a constructor, of which a table tells the list. -/
def withTable (members : Standard → Bool → List Builtin) (m : Machine) (s : Standard)
    (isStatic : Bool) : Machine :=
  (members s isStatic).zipIdx.foldl
    (fun m (b, i) => m.withMember (s.holder isStatic) (.method s isStatic i) b) m

/-- Adds the members of a standard object. -/
def withMembers (members : Standard → Bool → List Builtin) (m : Machine) (s : Standard) :
    Machine :=
  let m := m.withTable members s false
  if s = .global then m else m.withTable members s true

/-- Links a constructor and its prototype. -/
def linked (m : Machine) (s : Standard) : Machine :=
  if s.title?.isSome && s != .proxy then
    let m := m.withProperty s.constructor (.ofString "prototype") (.fixed (.object s.proto))
    m.withHidden s.proto "constructor" (.object s.constructor)
  else m

/-- Adds the word for the objects in their texts. -/
def tagged (m : Machine) (s : Standard) : Machine :=
  match s.tag? with
  | some tag => m.withProperty s.proto (.ofSymbol .toStringTag) (.readOnly (.ofString tag))
  | none     => m

/-- Adds what only errors have. -/
def withErrorTexts (m : Machine) (s : Standard) : Machine :=
  match s.title? with
  | some title =>
    if s = .error || s.isSpecialError then
      (m.withHidden s.proto "name" (.ofString title)).withHidden s.proto "message" (.ofString "")
    else m
  | none       => m

/-- Links the prototypes of generator functions to those of generators. -/
def withGenerators (m : Machine) : Machine :=
  [(Standard.generatorFunction, Standard.generator),
   (Standard.asyncGeneratorFunction, Standard.asyncGenerator)].foldl (fun m (f, g) =>
      let m := m.withProperty f.proto (.ofString "prototype") (.readOnly (.object g.proto))
      m.withProperty g.proto (.ofString "constructor") (.readOnly (.object f.proto))) m

/-- Adds the sizes of elements to typed arrays. -/
def withElementSizes (m : Machine) (s : Standard) : Machine :=
  match ElementKind.ofStandard? s with
  | some element =>
    let size : Property := .fixed (.ofNat element.size)
    let key := Key.ofString "BYTES_PER_ELEMENT"
    (m.withProperty s.constructor key size).withProperty s.proto key size
  | none         => m

/-- Adds the members that are the same under two keys. -/
def withAliases (m : Machine) : Machine :=
  let m := m.withAlias Standard.array.proto (.ofSymbol .iterator) "values"
  let m := m.withAlias Standard.typedArray.proto (.ofSymbol .iterator) "values"
  let m := m.withAlias Standard.map.proto (.ofSymbol .iterator) "entries"
  let m := m.withAlias Standard.set.proto (.ofSymbol .iterator) "values"
  m.withAlias Standard.set.proto (.ofString "keys") "values"

/-- Adds the list of names that `with` statements leave aside. -/
def withUnscopables (m : Machine) : Machine :=
  let (r, m) := m.withObject {
    kind := .ordinary, proto := none, isExtensible := true,
    properties := (Library.arrayUnscopables.map fun name =>
      (Key.ofString name, Property.plain (.bool true))).toArray }
  m.withProperty Standard.array.proto (.ofSymbol .unscopables) (.readOnly (.object r))

/-- Adds the symbols that the language looks for. -/
def withSymbols (m : Machine) : Machine :=
  WellKnown.all.foldl (fun m w =>
    m.withProperty Standard.symbol.constructor (.ofString w.name) (.fixed (.symbol w.id))) m

/-- Adds `eval`, which stands in a known place so that direct calls of it can be told. -/
def withEval (m : Machine) : Machine :=
  let r := Standard.global.constructor
  let m := { m with objects := m.objects.modify r fun o =>
    { o with
      kind := .native (.method .global true 0), proto := some Standard.function.proto,
      properties := #[
        (.ofString "length", .readOnly (.ofNat 1)),
        (.ofString "name", .readOnly (.ofString "eval"))] } }
  m.withHidden globalRef "eval" (.object r)

/-- Makes a global function a member of numbers, too. -/
def withShared (m : Machine) (name : String) : Machine :=
  match m.plainOwn? globalRef (.ofString name) with
  | some p => m.withProperty Standard.number.constructor (.ofString name) p
  | none   => m

/-- Adds the global names. -/
def withGlobals (m : Machine) : Machine :=
  let m := m.withHidden globalRef "globalThis" (.object globalRef)
  let m := m.withConstants globalRef [("NaN", NumberText.nan), ("Infinity", NumberText.infinity)]
  let m := m.withProperty globalRef (.ofString "undefined") (.fixed .undefined)
  let m := m.withEval
  let m := (Standard.all.filter Standard.isNamed).foldl
    (fun m s => m.withHidden globalRef (s.title?.getD "") (.object s.constructor)) m
  let m := Standard.holders.foldl
    (fun m (name, s) => m.withHidden globalRef name (.object s.proto)) m
  (m.withShared "parseFloat").withShared "parseInt"

/-- A machine whose standard objects have no members. -/
def bare : Machine where
  objects := (Standard.all.flatMap fun s => [s.bareProto, s.bareConstructor]).toArray
  scopes := #[
    { parent := none, kind := .object globalRef false, bindings := #[] },
    { parent := some globalScope, kind := .block, bindings := #[] }]
  symbols := (WellKnown.all.map fun w => some (Utf16.ofString ("Symbol." ++ w.name))).toArray
  registry := []
  jobs := []
  clock := .starting 0
  console := #[]

/-- Adds what standard objects have besides members, links and the texts of errors. -/
def finished (m : Machine) : Machine :=
  let m := Standard.all.foldl withElementSizes m
  let m := m.withGenerators.withAliases.withUnscopables.withSymbols
  let m := m.withHidden Standard.function.proto "name" (.ofString "")
  let m := m.withHidden Standard.function.proto "length" (.ofNat 0)
  let m := m.withConstants Standard.number.constructor Library.numberConstants
  let m := m.withConstants Standard.math.proto Library.mathConstants
  m.withGlobals

/-- A machine that has run nothing, whose standard objects have the members of a table. -/
def start (members : Standard → Bool → List Builtin) : Machine :=
  let m := Standard.all.foldl (withMembers members) bare
  let m := Standard.all.foldl linked m
  let m := Standard.all.foldl tagged m
  let m := Standard.all.foldl withErrorTexts m
  m.finished

end Machine

end Stencil.Script
