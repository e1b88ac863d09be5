import Stencil.Script.Syntax.Reader
import Stencil.Script.NumberText

/-!
# Patterns and keys

What may stand to the left of an assignment, the patterns of declarations, and the keys of
properties. An array or an object literal that turns out to be assigned to is taken apart again.
-/

namespace Stencil.Script.Syntax

/-- The kinds of trees that the grammar refers to before it defines them. -/
inductive Part where
  | assignment
  | unary
  | binding
  /-- A statement or a declaration. -/
  | item
  /-- A statement where no declaration may stand. -/
  | statement

/-- The reader of each part. -/
abbrev Parts := Part → Reader Tree

/-! ### Assigned trees -/

mutual

/-- What an expression stands for as the target of an assignment. -/
def target? (isStrict : Bool) : Tree → Option Tree
  | .name n               =>
    if isStrict && (n == .ofString "eval" || n == argumentsName) then none else some (.name n)
  | .member object key isOptional =>
    if isOptional then none else some (.member object key false)
  | .superMember key      => some (.superMember key)
  | .array items          => do
    let (elements, rest) ← elements? isStrict items
    return .arrayPattern elements rest
  | .object members       => do
    let (properties, rest) ← properties? isStrict members
    return .objectPattern properties rest
  | .arrayPattern elements rest => some (.arrayPattern elements rest)
  | .objectPattern properties rest => some (.objectPattern properties rest)
  | _                     => none

/-- A target with an optional default. -/
def element? (isStrict : Bool) : Tree → Option Tree
  | .absent              => some .absent
  | .assign pattern value => some (.withDefault pattern value)
  | tree                 => target? isStrict tree

/-- The elements of an array pattern and its rest. -/
def elements? (isStrict : Bool) : List Tree → Option (List Tree × Tree)
  | []               => some ([], .absent)
  | [.spread value]  => (target? isStrict value).map fun rest => ([], rest)
  | item :: items    => do
    let element ← element? isStrict item
    let (elements, rest) ← elements? isStrict items
    return (element :: elements, rest)

/-- The properties of an object pattern and its rest. -/
def properties? (isStrict : Bool) : List Tree → Option (List Tree × Tree)
  | []                          => some ([], .absent)
  | [.spread value]             => (target? isStrict value).map fun rest => ([], rest)
  | .property key value :: rest => do
    let value ← element? isStrict value
    let (properties, rest) ← properties? isStrict rest
    return (.bindProperty key value :: properties, rest)
  | .proto value :: rest        => do
    let value ← element? isStrict value
    let (properties, rest) ← properties? isStrict rest
    return (.bindProperty (.named (.ofString "__proto__")) value :: properties, rest)
  | .cover n standard :: rest   => do
    let target ← target? isStrict (.name n)
    let (properties, rest) ← properties? isStrict rest
    return (.bindProperty (.named n) (.withDefault target standard) :: properties, rest)
  | _                           => none

end

/-- Whether a tree is an array or object literal, which an assignment takes apart. -/
def isLiteralPattern : Tree → Bool
  | .array _  => true
  | .object _ => true
  | _         => false

variable (parts : Parts)

/-! ### Keys -/

/-- The key of a property. -/
def propertyKey : Reader Tree := do
  match ← token with
  | .name word _      =>
    advance
    return .named (.ofString word)
  | .text value _     =>
    advance
    return .named value
  | .number value _   =>
    advance
    return .named (.ofString (NumberText.write value))
  | .big value        =>
    advance
    return .named (.ofString (NumberText.writeInt 10 value))
  | .privateName word =>
    require (← context).inClass
    advance
    return .privateName (.ofString ("#" ++ word))
  | .mark "["         =>
    advance
    let key ← within (fun c => { c with noIn := false }) (parts .assignment)
    takeMark "]"
    return .computed key
  | _                 => fail

/-! ### Declared patterns -/

/-- A pattern with an optional default. -/
def bindingElement : Reader Tree := do
  let pattern ← parts .binding
  if ← takeMark? "=" then
    return .withDefault pattern (← within (fun c => { c with noIn := false }) (parts .assignment))
  return pattern

/-- The elements of an array pattern after its bracket. -/
def bindingElements : (fuel : Nat) → Reader (List Tree × Tree)
  | 0        => fail
  | fuel + 1 => do
    if ← takeMark? "]" then return ([], .absent)
    if ← takeMark? "," then
      let (elements, rest) ← bindingElements fuel
      return (.absent :: elements, rest)
    if ← takeMark? "..." then
      let rest ← parts .binding
      takeMark "]"
      return ([], rest)
    let element ← bindingElement parts
    if ← takeMark? "]" then return ([element], .absent)
    takeMark ","
    let (elements, rest) ← bindingElements fuel
    return (element :: elements, rest)

/-- One property of an object pattern. -/
def bindingProperty : Reader Tree := do
  let isName ← atVariable
  let key ← propertyKey parts
  if ← takeMark? ":" then return .bindProperty key (← bindingElement parts)
  match key, isName with
  | .named name, true =>
    require (mayBind (← context) name.toLossy)
    if ← takeMark? "=" then
      let standard ← within (fun c => { c with noIn := false }) (parts .assignment)
      return .bindProperty key (.withDefault (.name name) standard)
    return .bindProperty key (.name name)
  | _, _              => fail

/-- The properties of an object pattern after its brace. -/
def bindingProperties : (fuel : Nat) → Reader (List Tree × Tree)
  | 0        => fail
  | fuel + 1 => do
    if ← takeMark? "\x7d" then return ([], .absent)
    if ← takeMark? "..." then
      let rest ← boundName
      takeMark "\x7d"
      return ([], .name rest)
    let property ← bindingProperty parts
    if ← takeMark? "\x7d" then return ([property], .absent)
    takeMark ","
    let (properties, rest) ← bindingProperties fuel
    return (property :: properties, rest)

/-- A pattern of a declaration. -/
def binding : Reader Tree := do
  let limit ← tokenLimit
  if ← takeMark? "[" then
    let (elements, rest) ← bindingElements parts limit
    return .arrayPattern elements rest
  if ← takeMark? "\x7b" then
    let (properties, rest) ← bindingProperties parts limit
    return .objectPattern properties rest
  return .name (← boundName)

end Stencil.Script.Syntax
