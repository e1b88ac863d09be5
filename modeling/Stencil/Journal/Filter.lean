import Stencil.Journal
import Stencil.Path.Parts
import Stencil.Text.Blank

/-!
# Filters of the journal

A filter tells which events a log shows. It is a list of rules, and the rule for the longest part
of an event's target decides. Rules for the work on templates only ever let more through.
-/

namespace Stencil.Journal

/-- Which events are let through: those of some targets, and those up to some rank of level. -/
structure Rule where
  /-- How the targets begin that the rule is for. -/
  target : String
  /-- Whether the rule is for the work on templates, and perhaps for that under some name. -/
  work : Option String
  rank : Nat
  deriving DecidableEq

/-- The rules of a log. -/
abbrev Filter := List Rule

/-! ### Reading -/

/-- The rank up to which a word lets events through. -/
def rankOf? (word : String) : Option Nat :=
  match String.ofList (word.toList.map Char.toLower) with
  | "off"   => some 0
  | "error" => some 1
  | "warn"  => some 2
  | "info"  => some 3
  | "debug" => some 4
  | "trace" => some 5
  | digits  =>
    match digits.toList with
    | [c] => if '0' ≤ c ∧ c ≤ '5' then some (c.toNat - '0'.toNat) else none
    | _   => none

/-- The rank that a rule gives behind its equals sign; without one it lets everything through. -/
def rankBehind? : List Char → Option Nat
  | []            => some 5
  | ['=']         => some 5
  | '=' :: level  => rankOf? (String.ofList level)
  | _             => none

/-- Whether a target may begin with a character. -/
def beginsTarget (c : Char) : Bool := c.isAlphanum || c = '-' || c = ':' || c = '_'

/-- The rule that a text writes: a level, a target, or a target with a level; a name in brackets
is that of the work. -/
def ruleOf? (text : List Char) : Option Rule :=
  let target := text.takeWhile fun c => c ≠ '=' ∧ c ≠ '['
  if !(text.head?.any fun c => beginsTarget c || c = '[') then none
  else
    match text.drop target.length with
    | []        =>
      match rankOf? (String.ofList target) with
      | some rank => some ⟨"", none, rank⟩
      | none      => some ⟨String.ofList target, none, 5⟩
    | '[' :: rest =>
      let name := rest.takeWhile (· ≠ ']')
      match rest.drop name.length with
      | ']' :: level =>
        (rankBehind? level).map fun rank =>
          ⟨String.ofList target, some (String.ofList name), rank⟩
      | _            => none
    | level     => (rankBehind? level).map fun rank => ⟨String.ofList target, none, rank⟩

/-- Whether a rule is for events of a target. -/
def Rule.covers (rule : Rule) (target : String) : Bool :=
  rule.target.toList.isPrefixOf target.toList

/-- Whether a rule is for the work on templates. -/
def Rule.coversWork (rule : Rule) : Bool :=
  match rule.work with
  | some name => (name.isEmpty || name = workName) && rule.covers workTarget
  | none      => false

namespace Filter

/-- The filter of a log that nobody set: everything but details. -/
def standard : Filter := [⟨"", none, Script.Level.info.rank⟩]

/-- The filter that rules between commas write, if all are well written. Without any, errors alone
are let through. -/
def ofText? (text : String) : Option Filter :=
  let rules := (Path.splitAt ',' text.toList).filter (!·.isEmpty)
  if rules.isEmpty then some [⟨"", none, Script.Level.error.rank⟩]
  else rules.mapM fun rule => ruleOf? (Text.trimChars rule)

/-! ### Use -/

/-- The rank that the rules for a target let through; of several for the same target the last one
counts. -/
def rankFor (filter : Filter) (target : String) : Nat :=
  let rules := filter.filter fun rule => rule.work.isNone && rule.covers target
  let best := rules.foldl (fun (best : Option Rule) rule =>
    match best with
    | some old => if old.target.length ≤ rule.target.length then some rule else best
    | none     => some rule) none
  (best.map Rule.rank).getD 0

/-- Whether lines tell the template that is worked on. -/
def showsWork (filter : Filter) : Bool :=
  Script.Level.info.rank ≤ filter.rankFor workTarget || filter.any Rule.coversWork

/-- Whether an event is let through. -/
def allows (filter : Filter) (event : Event) : Bool :=
  event.level.rank ≤ filter.rankFor event.target ||
    (event.template?.isSome &&
      filter.any fun rule => rule.coversWork && event.level.rank ≤ rule.rank)

/-- The lines of the events that are let through. -/
def lines (filter : Filter) (events : List Event) : List String :=
  (events.filter filter.allows).map (·.line filter.showsWork)

end Filter

end Stencil.Journal
