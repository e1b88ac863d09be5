import Stencil.TypeScript.StatementEnd
import Stencil.TypeScript.Tree

/-!
# Grammar rules

A grammar is data: a `Rule` for every nonterminal. `Rule.read` reads a text by a rule and returns
the trees it builds. Choices are ordered, and a repetition takes as much as it can.

Chains such as calls and binary operations grow to the left: `grow base tail` reads a base and
then tails as long as one fits, and a tail takes the tree before it as its first child by `adopt`.

Reading costs fuel, one unit for each rule entered, so that `read` is total; running out of it is
kept apart from a text that does not fit.
-/

namespace Stencil.TypeScript

/-! ### Rules -/

/-- The classes of lexemes. -/
inductive Lexeme where
  /-- Any name. -/
  | name
  /-- A name that is none of these words. -/
  | nameExcept (words : List String)
  /-- A name that is one of these words. -/
  | nameAmong (words : List String)
  | privateName
  | number
  | string
  | regex
  | hashBang
  /-- A mark, which structures the text but stands for a node of its own. -/
  | mark (text : String)
  deriving DecidableEq

/-- A rule of a grammar whose nonterminals are `ν`. -/
inductive Rule (ν : Type) where
  | empty
  /-- A lexeme that is a node. -/
  | leaf (lexeme : Lexeme) (kind : Kind)
  /-- A word that structures the text. -/
  | word (text : String)
  /-- A mark that structures the text, whatever follows it. -/
  | mark (text : String)
  /-- The longest mark that stands here, when it is one of these. -/
  | operator (texts : List String)
  /-- A mark right after the last token. -/
  | glued (text : String)
  /-- The text of a template right after the last token. -/
  | templateText
  | seq (first second : Rule ν)
  | choice (first second : Rule ν)
  | many (rule : Rule ν)
  /-- A node around what the rule builds. -/
  | node (kind : Kind) (rule : Rule ν)
  /-- Give a role to what the rule builds. -/
  | role (role : Role) (rule : Rule ν)
  | ref (nonterminal : ν)
  | grow (base tail : Rule ν)
  /-- The tails of a chain whose first part is read. -/
  | tails (tail : Rule ν)
  /-- A node around the tree before and what the rule builds. -/
  | adopt (kind : Kind) (role : Option Role) (rule : Rule ν)
  /-- Nothing, if the tree before is of one of these kinds. -/
  | after (kinds : List Kind)
  /-- The rule, if it builds one tree of one of these kinds. -/
  | only (kinds : List Kind) (rule : Rule ν)
  /-- Nothing, if the rule fits here. -/
  | ahead (rule : Rule ν)
  /-- Nothing, if the rule does not fit here. -/
  | unless (rule : Rule ν)
  /-- The end of a statement without a semicolon. -/
  | ending (position : Position)
  /-- The end of the text. -/
  | done

namespace Rule

variable {ν : Type}

/-- Rules one after another. -/
def sequence : List (Rule ν) → Rule ν
  | []      => .empty
  | [r]     => r
  | r :: rs => .seq r (sequence rs)

/-- The first of several rules that fits; none of them never fits. -/
def oneOf : List (Rule ν) → Rule ν
  | []      => .unless .empty
  | [r]     => r
  | r :: rs => .choice r (oneOf rs)

/-- A rule or nothing. -/
def optional (rule : Rule ν) : Rule ν :=
  .choice rule .empty

/-- One or more items with a separator between them. -/
def separated (item separator : Rule ν) : Rule ν :=
  .seq item (.many (.seq separator item))

/-- A node around several rules. -/
def nodeOf (kind : Kind) (rules : List (Rule ν)) : Rule ν :=
  .node kind (sequence rules)

/-- A tail of a chain: a node around the tree before and several rules. -/
def adoptOf (kind : Kind) (rules : List (Rule ν)) : Rule ν :=
  .adopt kind none (sequence rules)

end Rule

/-! ### Reading -/

/-- Where reading stands. -/
structure Place where
  /-- Where the last token ends. -/
  position : Nat
  /-- The text right after the last token. -/
  rest : List Char
  /-- Where the next token starts, after white space and comments. -/
  start : Nat
  /-- The text at the next token. -/
  next : List Char
  /-- The furthest place where a token was sought. -/
  reach : Nat

/-- The place after a token of `n` characters that begins at `start` with the text `text`. -/
def Place.ahead (reach start : Nat) (text : List Char) (n : Nat) : Place :=
  let position := start + Text.size (text.take n)
  let rest := text.drop n
  let blank := gap rest
  { position, rest, start := position + Text.size (rest.take blank), next := rest.drop blank,
    reach }

/-- The place at the start of a text. -/
def Place.first (text : List Char) : Place :=
  Place.ahead 0 0 text 0

/-- The outcome of reading by a rule. -/
inductive Reading where
  | fits (trees : List Tree) (place : Place)
  /-- The text does not fit; the furthest place where a token was sought is kept. -/
  | misfits (reach : Nat)
  | exhausted

namespace Reading

/-- A token of `n` characters right after the last one. -/
def gluedToken (symbol : Symbol) (place : Place) (n : Nat) : Reading :=
  let later := Place.ahead place.reach place.position place.rest n
  .fits [.node symbol none ⟨place.position, later.position⟩ []] later

/-- The next token, of `n` characters. -/
def token (symbol : Symbol) (place : Place) : Option Nat → Reading
  | some n =>
    let later := Place.ahead place.reach place.start place.next n
    .fits [.node symbol none ⟨place.start, later.position⟩ []] later
  | none   => .misfits (max place.reach place.start)

end Reading

/-- Length of a lexeme of a class at the front of a text. -/
def Lexeme.length? (lexeme : Lexeme) (text : List Char) : Option Nat :=
  match lexeme with
  | .name             => name? text
  | .nameExcept words =>
    match name? text with
    | some n => if words.contains (String.ofList (text.take n)) then none else some n
    | none   => none
  | .nameAmong words  =>
    match name? text with
    | some n => if words.contains (String.ofList (text.take n)) then some n else none
    | none   => none
  | .privateName      => privateName? text
  | .number           => number? text
  | .string           => string? text
  | .regex            => regex? text
  | .hashBang         => hashBang? text
  | .mark sign        => if sign.toList.isPrefixOf text then some sign.length else none

/-- Length of a word at the front of a text, where no longer name stands. -/
def wordLength? (word : String) (text : List Char) : Option Nat :=
  if word.toList.isPrefixOf text then
    match text.drop word.length with
    | []     => some word.length
    | c :: _ => if isNamePart c || c == '\\' then none else some word.length
  else none

/-- Read a text by a rule. The trees before it in a chain are `left`. -/
def Rule.read {ν : Type} (grammar : ν → Rule ν) :
    (fuel : Nat) → Rule ν → (left : List Tree) → Place → Reading
  | 0, _, _, _ => .exhausted
  | fuel + 1, rule, left, place =>
    match rule with
    | .empty           => .fits [] place
    | .leaf lexeme kind => .token (.kind kind) place (lexeme.length? place.next)
    | .word text       => .token (.token text) place (wordLength? text place.next)
    | .mark text       =>
      .token (.token text) place
        (if text.toList.isPrefixOf place.next then some text.length else none)
    | .operator texts  =>
      let found := longestMark place.next
      .token (.token found) place (if texts.contains found then some found.length else none)
    | .glued text      =>
      if text.toList.isPrefixOf place.rest then .gluedToken (.token text) place text.length
      else .misfits (max place.reach place.position)
    | .templateText    =>
      match templateText? 0 place.rest with
      | some n => .gluedToken (.kind .stringFragment) place n
      | none   => .misfits (max place.reach place.position)
    | .seq first second =>
      match read grammar fuel first left place with
      | .fits trees place =>
        match read grammar fuel second left place with
        | .fits more place => .fits (trees ++ more) place
        | .misfits reach   => .misfits reach
        | .exhausted       => .exhausted
      | .misfits reach    => .misfits reach
      | .exhausted        => .exhausted
    | .choice first second =>
      match read grammar fuel first left place with
      | .fits trees place => .fits trees place
      | .misfits reach    => read grammar fuel second left { place with reach }
      | .exhausted        => .exhausted
    | .many rule       =>
      match read grammar fuel rule left place with
      | .fits trees later =>
        if later.position = place.position then .fits trees later
        else
          match read grammar fuel (.many rule) left later with
          | .fits more place => .fits (trees ++ more) place
          | .misfits reach   => .misfits reach
          | .exhausted       => .exhausted
      | .misfits reach    => .fits [] { place with reach }
      | .exhausted        => .exhausted
    | .node kind rule  =>
      match read grammar fuel rule [] place with
      | .fits trees later =>
        .fits [.node (.kind kind) none ⟨place.start, max place.start later.position⟩ trees] later
      | .misfits reach    => .misfits reach
      | .exhausted        => .exhausted
    | .role given rule =>
      match read grammar fuel rule left place with
      | .fits trees later => .fits (trees.map (Tree.withRole given)) later
      | .misfits reach    => .misfits reach
      | .exhausted        => .exhausted
    | .ref nonterminal => read grammar fuel (grammar nonterminal) left place
    | .grow base tail  =>
      match read grammar fuel base [] place with
      | .fits trees place => read grammar fuel (.tails tail) trees place
      | .misfits reach    => .misfits reach
      | .exhausted        => .exhausted
    | .tails tail      =>
      match read grammar fuel tail left place with
      | .fits trees place => read grammar fuel (.tails tail) trees place
      | .misfits reach    => .fits left { place with reach }
      | .exhausted        => .exhausted
    | .adopt kind given rule =>
      match read grammar fuel rule [] place with
      | .fits trees later =>
        let first := left.map fun tree => match given with
          | some given => tree.withRole given
          | none      => tree
        let start := (left.head?.map Tree.start).getD place.start
        .fits [.node (.kind kind) none ⟨start, max start later.position⟩ (first ++ trees)] later
      | .misfits reach    => .misfits reach
      | .exhausted        => .exhausted
    | .after kinds     =>
      if left.any fun tree => kinds.any fun kind => tree.isKind kind then .fits [] place
      else .misfits place.reach
    | .only kinds rule =>
      match read grammar fuel rule left place with
      | .fits [tree] later =>
        if kinds.any fun kind => tree.isKind kind then .fits [tree] later
        else .misfits later.reach
      | .fits _ later  => .misfits later.reach
      | .misfits reach => .misfits reach
      | .exhausted     => .exhausted
    | .ahead rule      =>
      match read grammar fuel rule left place with
      | .fits _ later  => .fits [] { place with reach := later.reach }
      | .misfits reach => .misfits reach
      | .exhausted     => .exhausted
    | .unless rule     =>
      match read grammar fuel rule left place with
      | .fits _ later  => .misfits later.reach
      | .misfits reach => .fits [] { place with reach }
      | .exhausted     => .exhausted
    | .ending position =>
      match statementEnd? position place.rest with
      | some 0 => .fits [] place
      | some n => .fits [] (Place.ahead place.reach place.position place.rest n)
      | none   => .misfits (max place.reach place.start)
    | .done            =>
      if place.next.isEmpty then .fits [] place else .misfits (max place.reach place.start)

end Stencil.TypeScript
