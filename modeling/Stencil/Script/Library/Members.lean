import Stencil.Script.Library.Bytes
import Stencil.Script.Library.Collections
import Stencil.Script.Library.Dates
import Stencil.Script.Library.Functions
import Stencil.Script.Library.Globals
import Stencil.Script.Library.Json
import Stencil.Script.Library.Promises
import Stencil.Script.Library.Regexes
import Stencil.Script.Library.Texts

/-!
# The members of all standard objects

Which members each standard object has and what its constructor does. `runNative` runs a function
that no script defines.
-/

namespace Stencil.Script.Library

/-- The members of a standard object: of the constructor itself if they are static, else of its
prototype. -/
def membersOf : Standard → (isStatic : Bool) → List Builtin
  | .object, false          => objectMethods
  | .object, true           => objectStatics
  | .function, false        => functionMethods
  | .array, false           => arrayMethods
  | .array, true            => arrayStatics
  | .string, false          => textMethods
  | .string, true           => textStatics
  | .number, false          => numberMethods
  | .number, true           => numberStatics
  | .boolean, false         => booleanMethods
  | .symbol, false          => symbolMethods
  | .symbol, true           => symbolStatics
  | .bigInt, false          => bigIntMethods
  | .bigInt, true           => bigIntStatics
  | .error, false           => errorMethods
  | .iterator, false        => iteratorMethods
  | .asyncIterator, false   => asyncIteratorMethods
  | .arrayIterator, false   => arrayIteratorMethods
  | .stringIterator, false  => stringIteratorMethods
  | .mapIterator, false     => collectionIteratorMethods
  | .setIterator, false     => collectionIteratorMethods
  | .regexIterator, false   => regexIteratorMethods
  | .wrappedIterator, false => wrappedIteratorMethods
  | .generator, false       => generatorMethods
  | .asyncGenerator, false  => asyncGeneratorMethods
  | .promise, false         => promiseMethods
  | .promise, true          => promiseStatics
  | .map, false             => mapMethods
  | .map, true              => mapStatics
  | .set, false             => setMethods
  | .set, true              => setStatics
  | .weakMap, false         => weakMapMethods
  | .weakSet, false         => weakSetMethods
  | .weakRef, false         => weakRefMethods
  | .date, false            => dateMethods
  | .date, true             => dateStatics
  | .regExp, false          => regexMethods
  | .regExp, true           => regexStatics
  | .typedArray, false      => typedMethods
  | .typedArray, true       => typedStatics
  | .arrayBuffer, false     => bufferMethods
  | .arrayBuffer, true      => bufferStatics
  | .dataView, false        => viewMethods
  | .proxy, true            => proxyStatics
  | .math, false            => mathMembers
  | .json, false            => Json.members
  | .reflect, false         => reflectMembers
  | .global, false          => globalMembers
  | .global, true           => [evalMember]
  | _, _                    => []

/-- What a standard constructor does. -/
def runConstructor (standard : Standard) (i : Invocation) : Exec Value :=
  match standard with
  | .object                 => makeObject i
  | .function               => makeFunction "function" i
  | .generatorFunction      => makeFunction "function*" i
  | .asyncFunction          => makeFunction "async function" i
  | .asyncGeneratorFunction => makeFunction "async function*" i
  | .array                  => makeArray i
  | .string                 => makeText i
  | .number                 => makeNumber i
  | .boolean                => makeBoolean i
  | .symbol                 => makeSymbol i
  | .bigInt                 => makeBigInt i
  | .promise                => makePromise i
  | .map                    => makeCollection .map (.map #[]) "set" entryParts i
  | .set                    => makeCollection .set (.set #[]) "add" (fun v => return [v]) i
  | .weakMap                => makeCollection .weakMap (.weakMap []) "set" entryParts i
  | .weakSet                => makeCollection .weakSet (.weakSet []) "add" (fun v => return [v]) i
  | .weakRef                => makeWeakRef i
  | .date                   => makeDate i
  | .regExp                 => makeRegex i
  | .arrayBuffer            => makeBuffer i
  | .dataView               => makeView i
  | .proxy                  => makeProxy i
  | standard                =>
    match ElementKind.ofStandard? standard with
    | some element => makeTyped element standard i
    | none         =>
      if errorKinds.contains standard then makeError standard i else throwType "not a constructor"
where
  errorKinds : List Standard :=
    [.error, .typeError, .rangeError, .syntaxError, .referenceError, .evalError, .uriError,
     .aggregateError]

/-- Runs a function that no script defines. Members that are not there do nothing. -/
def runNative (native : Native) (i : Invocation) : Exec Value :=
  match native with
  | .method owner isStatic index =>
    match (membersOf owner isStatic)[index]? with
    | some member => member.run i
    | none        => return .undefined
  | .constructor standard        => runConstructor standard i
  | .step step                   => runStep step i

end Stencil.Script.Library
