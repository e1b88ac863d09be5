import Stencil.Script.Evaluate.Expressions

/-!
# Evaluating patterns

How a pattern takes a value apart and binds its names.
-/

namespace Stencil.Script

/-- Binds a value to a pattern. -/
def bindPattern (a : Activation) (mode : BindMode) (pattern : Tree) (v : Value) : Exec Move := do
  match pattern with
  | .absent             => return .go a
  | .name n             =>
    if mode = .declare then initializeName a.scope n v else writeName a.scope n v a.isStrict
    return .go a
  | .withDefault inner standard =>
    if v.isUndefined then
      let value := match inner with
        | .name n => evaluateNamed n standard
        | _       => [.evaluate standard]
      goOn a (value ++ [.bind mode inner])
    else goOn a [.push v, .bind mode inner]
  | .arrayPattern patterns rest =>
    goOn a [.elements mode patterns rest (← iterationOf v) false]
  | .objectPattern patterns rest =>
    if v.isNullish then throwType "cannot convert 'null' or 'undefined' to object"
    goOn a [.properties mode patterns rest v []]
  | .member _ _ _       =>
    let (place, operands) := placeOf pattern
    goOn a (operands ++ [.storeValue place v])
  | .superMember _      =>
    let (place, operands) := placeOf pattern
    goOn a (operands ++ [.storeValue place v])
  | _                   => throwNew .syntaxError "not a pattern"

/-- The remaining items of an iterator; `fuel` bounds their number. -/
def remainingItems (it : Iteration) : (fuel : Nat) → List Value → Exec (List Value)
  | 0, _          => exhaust
  | fuel + 1, items => do
    match ← it.step with
    | some v => remainingItems it fuel (v :: items)
    | none   => return items.reverse

/-- Binds the next of the patterns in an array pattern. -/
def bindElements (a : Activation) (mode : BindMode) (patterns : List Tree) (rest : Tree)
    (it : Iteration) (isDone : Bool) : Exec Move := do
  match patterns with
  | pattern :: patterns =>
    let item ← if isDone then pure none else it.step
    match item with
    | some v =>
      goOn a [.push v, .bind mode pattern, .closing it false a.mark,
        .elements mode patterns rest it false]
    | none   =>
      goOn a [.push .undefined, .bind mode pattern, .elements mode patterns rest it true]
  | [] =>
    match rest with
    | .absent =>
      if !isDone then it.close
      return .go a
    | rest    =>
      let items ← if isDone then pure [] else remainingItems it turnLimit []
      goOn a [.push (← newArray items), .bind mode rest]

/-- Binds the next of the patterns in an object pattern. -/
def bindProperties (a : Activation) (mode : BindMode) (patterns : List Tree) (rest : Tree)
    (object : Value) (seen : List Key) : Exec Move := do
  match patterns with
  | .bindProperty key pattern :: patterns =>
    goOn a [.evaluate key, .propertyAt mode pattern patterns rest object seen]
  | _ :: patterns => goOn a [.properties mode patterns rest object seen]
  | [] =>
    match rest with
    | .absent => return .go a
    | rest    =>
      let others ← newObject
      copyProperties others object seen
      goOn a [.push (.object others), .bind mode rest]

/-- Binds one property, whose key is on top of the stack. -/
def bindPropertyAt (a : Activation) (mode : BindMode) (pattern : Tree) (patterns : List Tree)
    (rest : Tree) (object : Value) (seen : List Key) : Exec Move := do
  let key ← toKey a.top
  let a := a.drop 1
  goOn a [.push (← getOf object key), .bind mode pattern,
    .properties mode patterns rest object (key :: seen)]

end Stencil.Script
