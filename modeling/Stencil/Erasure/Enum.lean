import Stencil.Erasure.Exports
import Stencil.Number.Literal
import Stencil.Text.Blank
import Stencil.Text.Line

/-!
# Enums

An enum becomes an object that an immediately called function fills. A member without a value gets
the value before plus one: as a number while the values are number literals, and as an expression
on the member before otherwise. A member with a string literal has no successor.
-/

namespace Stencil.Erasure

open TypeScript (Tree Kind)

/-! ### Number literals -/

/-- The number that a hexadecimal literal writes, when it fits 64 bits with a sign. -/
def readHex? (digits : List Char) : Option Float :=
  match Number.readNat? 16 (digits.filter (· ≠ '_')) with
  | some n => if n < 1 <<< 63 then some (Number.ofRatio n 1) else none
  | none   => none

/-- The number that a literal writes, with an optional minus. -/
def numericLiteral? (text : List Char) : Option Float :=
  match Text.trimChars text with
  | '-' :: rest => (unsigned? (Text.trimFront rest)).map fun x => -x
  | text        => unsigned? text
where
  unsigned? : List Char → Option Float
    | '0' :: 'x' :: digits => readHex? digits
    | '0' :: 'X' :: digits => readHex? digits
    | digits               => Number.readFloat? (digits.filter (· ≠ '_'))

/-- A number as it is written into the object: an integer below `10 ^ 15` as such. -/
def writeNumber (x : Float) : String :=
  if Number.isIntegral x && x.abs < 1e15 then toString (Number.truncate x) else Number.plain x

/-! ### Members -/

/-- The name and the value of a member. -/
structure Member where
  /-- The name as a text. -/
  name : String
  /-- The name as a string literal. -/
  key : String
  value : Option Tree

/-- The value of a member without an initializer. -/
inductive Successor where
  | number (x : Float)
  /-- The member with this key plus one. -/
  | after (key : String)
  | unavailable

/-- Whether a value is a string literal. -/
def isStringLiteral (value : Tree) : Bool :=
  value.isKind .string ||
  (value.isKind .templateString && !value.namedChildren.any (Tree.isKind .templateSubstitution))

mutual

/-- The places where a value refers to one of these members. -/
def references (source : List Char) (members : List String) : Tree → List Tree
  | tree@(.node symbol _ _ children) =>
    if symbol = .kind .identifier && members.contains (tree.text source) then [tree]
    else referencesAmong source members children

/-- The places where these trees refer to one of the members. -/
def referencesAmong (source : List Char) (members : List String) : List Tree → List Tree
  | []            => []
  | tree :: trees => references source members tree ++ referencesAmong source members trees

end

/-- The characters from `cursor` up to `stop` with `owner.` put before each reference. -/
def qualify (source : List Char) (owner : List Char) (stop : Nat) :
    (cursor : Nat) → List Tree → List Char
  | cursor, []            => (⟨cursor, stop⟩ : TypeScript.Span).slice source
  | cursor, tree :: trees =>
    (⟨cursor, tree.start⟩ : TypeScript.Span).slice source ++ owner ++ '.' :: tree.chars source ++
      qualify source owner stop tree.stop trees

/-- The text of an initializer: references to earlier members are qualified by the enum, and it
stands on one line. -/
def initializerChars (source : List Char) (owner : String) (members : List String)
    (value : Tree) : List Char :=
  (qualify source owner.toList value.stop value.start (references source members value)).map
    fun c => if c == '\n' then ' ' else c

/-- The name and the value of a member. -/
def Member.ofTree (source : List Char) (tree : Tree) : Except Flaw Member :=
  let (key, value) :=
    if tree.isKind .enumAssignment then
      ((tree.child? .name).getD tree, tree.child? .value)
    else (tree, none)
  let raw := key.chars source
  if key.isKind .propertyIdentifier || key.isKind .identifier then
    .ok ⟨String.ofList raw, quoted (String.ofList raw), value⟩
  else if key.isKind .string then
    .ok ⟨String.ofList ((raw.drop 1).dropLast), String.ofList raw, value⟩
  else failAt key .enumMemberName

/-! ### The object -/

/-- The assignment of a value that has no entry of its own. -/
def assignForward (owner key value : String) : String :=
  owner ++ "[" ++ key ++ "] = " ++ value ++ "; "

/-- The assignment of a value together with the entry that leads back to the key. -/
def assignBoth (owner key value : String) : String :=
  owner ++ "[" ++ owner ++ "[" ++ key ++ "] = " ++ value ++ "] = " ++ key ++ "; "

/-- The assignment of a member, and the value of the next. -/
def Member.assignment (source : List Char) (owner : String) (earlier : List String)
    (successor : Successor) (offset : Nat) (member : Member) :
    Except Flaw (String × Successor) :=
  match member.value with
  | some value =>
    let initializer := initializerChars source owner earlier value
    let text := String.ofList initializer
    if isStringLiteral value then .ok (assignForward owner member.key text, .unavailable)
    else
      let next := match numericLiteral? initializer with
        | some x => .number (x + 1)
        | none   => .after member.key
      .ok (assignBoth owner member.key text, next)
  | none =>
    match successor with
    | .number x     => .ok (assignBoth owner member.key (writeNumber x), .number (x + 1))
    | .after key    =>
      .ok (assignBoth owner member.key (owner ++ "[" ++ key ++ "] + 1"), .after member.key)
    | .unavailable  => .error ⟨.enumInitializer member.name, offset⟩

/-- The assignments of these members, after some earlier ones. -/
def assignments (source : List Char) (owner : String) :
    (earlier : List String) → Successor → List Tree → Except Flaw String
  | _, _, []                          => .ok ""
  | earlier, successor, tree :: trees => do
    let member ← Member.ofTree source tree
    let (text, next) ← member.assignment source owner earlier successor tree.start
    let rest ← assignments source owner (earlier ++ [member.name]) next trees
    return text ++ rest

/-- As many line feeds as a text holds. -/
def lineFeeds (text : List Char) : String :=
  String.ofList (List.replicate (Text.countLineFeeds text) '\n')

/-- The edit that makes an object of an enum. -/
def enumEdit (source : List Char) (tree : Tree) : Except Flaw Edit :=
  match tree.child? .name, tree.child? .body with
  | some name, some body => do
    let owner := name.text source
    let filled ← assignments source owner [] (.number 0) body.namedChildren
    return .replace tree.start tree.stop
      ("var " ++ owner ++ "; (function (" ++ owner ++ ") \x7b " ++ filled ++ "\x7d)(" ++ owner ++
        " || (" ++ owner ++ " = \x7b\x7d));" ++ lineFeeds (tree.chars source))
  | _, _ => failAt tree .malformedEnum

end Stencil.Erasure
