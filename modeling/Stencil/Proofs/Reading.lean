import Stencil.Proofs.Tree
import Stencil.TypeScript.Rule

/-!
# What a rule reads

`Reads` lists the ways in which a rule can fit: one constructor for each kind of rule and each way
in which its parts fit. Whatever `Rule.read` gives comes about in one of these ways (`read_reads`),
so a property of all readings needs one case for each of them and no fuel.

A place is valid in a source when it agrees with the text there; reading goes from valid places to
valid places further on (`Reads.valid`).
-/

namespace Stencil.TypeScript

open Text

/-! ### Places -/

/-- The place after the next token, of `n` characters. -/
def Place.pass (place : Place) (n : Nat) : Place :=
  .ahead place.reach place.start place.next n

/-- The place after a token of `n` characters right after the last one. -/
def Place.passGlued (place : Place) (n : Nat) : Place :=
  .ahead place.reach place.position place.rest n

/-- Whether a place agrees with the source. -/
structure Place.Valid (source : List Char) (place : Place) : Prop where
  rest : ∃ first, source = first ++ place.rest ∧ size first = place.position
  start : place.start = place.position + size (place.rest.take (gap place.rest))
  next : place.next = place.rest.drop (gap place.rest)

namespace Place

variable {source : List Char} {place : Place}

lemma ahead_valid {first text : List Char} (hsource : source = first ++ text) (reach n : Nat) :
    (Place.ahead reach (size first) text n).Valid source where
  rest := ⟨first ++ text.take n, by simp [hsource, ahead], by simp [ahead]⟩
  start := rfl
  next := rfl

lemma first_valid (source : List Char) : (Place.first source).Valid source :=
  ahead_valid (List.nil_append source).symm 0 0

namespace Valid

lemma withReach (h : place.Valid source) (reach : Nat) : { place with reach }.Valid source :=
  ⟨h.rest, h.start, h.next⟩

lemma position_le_start (h : place.Valid source) : place.position ≤ place.start := by
  have := h.start
  omega

lemma isBoundary_position (h : place.Valid source) : IsBoundary source place.position := by
  obtain ⟨first, hsource, hsize⟩ := h.rest
  exact ⟨first, place.rest, hsource, hsize⟩

/-- The text at the next token begins where that starts. -/
lemma next_eq (h : place.Valid source) :
    ∃ first, source = first ++ place.next ∧ size first = place.start := by
  obtain ⟨first, hsource, hsize⟩ := h.rest
  refine ⟨first ++ place.rest.take (gap place.rest), ?_, ?_⟩
  · rw [hsource, h.next, List.append_assoc, List.take_append_drop]
  · rw [size_append, hsize, h.start]

lemma isBoundary_start (h : place.Valid source) : IsBoundary source place.start := by
  obtain ⟨first, hsource, hsize⟩ := h.next_eq
  exact ⟨first, place.next, hsource, hsize⟩

lemma pass (h : place.Valid source) (n : Nat) : (place.pass n).Valid source := by
  obtain ⟨first, hsource, hsize⟩ := h.next_eq
  rw [Place.pass, ← hsize]
  exact ahead_valid hsource _ n

lemma passGlued (h : place.Valid source) (n : Nat) : (place.passGlued n).Valid source := by
  obtain ⟨first, hsource, hsize⟩ := h.rest
  rw [Place.passGlued, ← hsize]
  exact ahead_valid hsource _ n

end Valid

lemma position_pass (place : Place) (n : Nat) :
    (place.pass n).position = place.start + size (place.next.take n) := rfl

lemma position_passGlued (place : Place) (n : Nat) :
    (place.passGlued n).position = place.position + size (place.rest.take n) := rfl

end Place

/-! ### Readings -/

/-- A token from `start` on, up to a place. -/
def tokenTree (symbol : Symbol) (start : Nat) (later : Place) : Tree :=
  .node symbol none ⟨start, later.position⟩ []

/-- The trees before in a chain, in the role that a tail gives them. -/
def adopted (role : Option Role) (left : List Tree) : List Tree :=
  left.map fun tree => match role with
    | some role => tree.withRole role
    | none      => tree

/-- Where a node begins that a tail puts around the trees before. -/
def adoptedStart (left : List Tree) (place : Place) : Nat :=
  (left.head?.map Tree.start).getD place.start

/-- The ways in which a rule fits at a place, after the trees `left` in a chain: the trees that it
builds and the place after them. -/
inductive Reads {ν : Type} (grammar : ν → Rule ν) :
    Rule ν → (left : List Tree) → Place → List Tree → Place → Prop where
  | empty {left : List Tree} {place : Place} : Reads grammar .empty left place [] place
  | leaf {lexeme : Lexeme} {kind : Kind} {left : List Tree} {place : Place} {n : Nat}
      (h : lexeme.length? place.next = some n) :
      Reads grammar (.leaf lexeme kind) left place
        [tokenTree (.kind kind) place.start (place.pass n)] (place.pass n)
  | word {text : String} {left : List Tree} {place : Place} {n : Nat}
      (h : wordLength? text place.next = some n) :
      Reads grammar (.word text) left place
        [tokenTree (.token text) place.start (place.pass n)] (place.pass n)
  | mark {text : String} {left : List Tree} {place : Place}
      (h : text.toList.isPrefixOf place.next) :
      Reads grammar (.mark text) left place
        [tokenTree (.token text) place.start (place.pass text.length)] (place.pass text.length)
  | operator {texts : List String} {left : List Tree} {place : Place}
      (h : texts.contains (longestMark place.next)) :
      Reads grammar (.operator texts) left place
        [tokenTree (.token (longestMark place.next)) place.start
          (place.pass (longestMark place.next).length)]
        (place.pass (longestMark place.next).length)
  | glued {text : String} {left : List Tree} {place : Place}
      (h : text.toList.isPrefixOf place.rest) :
      Reads grammar (.glued text) left place
        [tokenTree (.token text) place.position (place.passGlued text.length)]
        (place.passGlued text.length)
  | templateText {left : List Tree} {place : Place} {n : Nat}
      (h : templateText? 0 place.rest = some n) :
      Reads grammar .templateText left place
        [tokenTree (.kind .stringFragment) place.position (place.passGlued n)] (place.passGlued n)
  | seq {first second : Rule ν} {left trees more : List Tree} {place middle later : Place}
      (hfirst : Reads grammar first left place trees middle)
      (hsecond : Reads grammar second left middle more later) :
      Reads grammar (.seq first second) left place (trees ++ more) later
  | first {first second : Rule ν} {left trees : List Tree} {place later : Place}
      (h : Reads grammar first left place trees later) :
      Reads grammar (.choice first second) left place trees later
  | second {first second : Rule ν} {left trees : List Tree} {place later : Place} {reach : Nat}
      (h : Reads grammar second left { place with reach } trees later) :
      Reads grammar (.choice first second) left place trees later
  | manyNone {rule : Rule ν} {left : List Tree} {place : Place} {reach : Nat} :
      Reads grammar (.many rule) left place [] { place with reach }
  | manyLast {rule : Rule ν} {left trees : List Tree} {place later : Place}
      (h : Reads grammar rule left place trees later) (hstays : later.position = place.position) :
      Reads grammar (.many rule) left place trees later
  | manyMore {rule : Rule ν} {left trees more : List Tree} {place middle later : Place}
      (h : Reads grammar rule left place trees middle)
      (hmore : Reads grammar (.many rule) left middle more later) :
      Reads grammar (.many rule) left place (trees ++ more) later
  | node {kind : Kind} {rule : Rule ν} {left trees : List Tree} {place later : Place}
      (h : Reads grammar rule [] place trees later) :
      Reads grammar (.node kind rule) left place
        [.node (.kind kind) none ⟨place.start, max place.start later.position⟩ trees] later
  | role {role : Role} {rule : Rule ν} {left trees : List Tree} {place later : Place}
      (h : Reads grammar rule left place trees later) :
      Reads grammar (.role role rule) left place (trees.map (Tree.withRole role)) later
  | ref {nonterminal : ν} {left trees : List Tree} {place later : Place}
      (h : Reads grammar (grammar nonterminal) left place trees later) :
      Reads grammar (.ref nonterminal) left place trees later
  | grow {base tail : Rule ν} {left trees more : List Tree} {place middle later : Place}
      (hbase : Reads grammar base [] place trees middle)
      (htails : Reads grammar (.tails tail) trees middle more later) :
      Reads grammar (.grow base tail) left place more later
  | tailsNone {tail : Rule ν} {left : List Tree} {place : Place} {reach : Nat} :
      Reads grammar (.tails tail) left place left { place with reach }
  | tailsMore {tail : Rule ν} {left trees more : List Tree} {place middle later : Place}
      (h : Reads grammar tail left place trees middle)
      (hmore : Reads grammar (.tails tail) trees middle more later) :
      Reads grammar (.tails tail) left place more later
  | adopt {kind : Kind} {role : Option Role} {rule : Rule ν} {left trees : List Tree}
      {place later : Place} (h : Reads grammar rule [] place trees later) :
      Reads grammar (.adopt kind role rule) left place
        [.node (.kind kind) none
          ⟨adoptedStart left place, max (adoptedStart left place) later.position⟩
          (adopted role left ++ trees)] later
  | after {kinds : List Kind} {left : List Tree} {place : Place} :
      Reads grammar (.after kinds) left place [] place
  | only {kinds : List Kind} {rule : Rule ν} {left : List Tree} {tree : Tree}
      {place later : Place} (h : Reads grammar rule left place [tree] later) :
      Reads grammar (.only kinds rule) left place [tree] later
  | ahead {rule : Rule ν} {left : List Tree} {place : Place} {reach : Nat} :
      Reads grammar (.ahead rule) left place [] { place with reach }
  | notAhead {rule : Rule ν} {left : List Tree} {place : Place} {reach : Nat} :
      Reads grammar (.unless rule) left place [] { place with reach }
  | endingHere {position : Position} {left : List Tree} {place : Place} :
      Reads grammar (.ending position) left place [] place
  | endingLater {position : Position} {left : List Tree} {place : Place} {n : Nat}
      (h : statementEnd? position place.rest = some n) :
      Reads grammar (.ending position) left place [] (place.passGlued n)
  | done {left : List Tree} {place : Place} : Reads grammar .done left place [] place

variable {ν : Type} {grammar : ν → Rule ν}

/-- What `Rule.read` gives is read in one of these ways. -/
theorem read_reads {fuel : Nat} {rule : Rule ν} {left trees : List Tree} {place later : Place}
    (h : rule.read grammar fuel left place = .fits trees later) :
    Reads grammar rule left place trees later := by
  induction fuel generalizing rule left trees place later with
  | zero => cases h
  | succ fuel ih =>
    cases rule with
    | empty =>
      cases h
      exact .empty
    | leaf lexeme kind =>
      simp only [Rule.read] at h
      rcases hn : lexeme.length? place.next with _ | n <;> rw [hn] at h <;> cases h
      exact .leaf hn
    | word text =>
      simp only [Rule.read] at h
      rcases hn : wordLength? text place.next with _ | n <;> rw [hn] at h <;> cases h
      exact .word hn
    | mark text =>
      simp only [Rule.read] at h
      split at h <;> cases h
      exact .mark ‹_›
    | operator texts =>
      simp only [Rule.read] at h
      split at h <;> cases h
      exact .operator ‹_›
    | glued text =>
      simp only [Rule.read] at h
      split at h <;> cases h
      exact .glued ‹_›
    | templateText =>
      simp only [Rule.read] at h
      split at h <;> cases h
      exact .templateText ‹_›
    | seq first second =>
      simp only [Rule.read] at h
      split at h
      next hfirst =>
        split at h <;> cases h
        exact .seq (ih hfirst) (ih ‹_›)
      all_goals cases h
    | choice first second =>
      simp only [Rule.read] at h
      split at h
      next hfirst =>
        cases h
        exact .first (ih hfirst)
      next => exact .second (ih h)
      next => cases h
    | many rule =>
      simp only [Rule.read] at h
      split at h
      next hfirst =>
        split at h
        next hstays =>
          cases h
          exact .manyLast (ih hfirst) hstays
        next =>
          split at h <;> cases h
          exact .manyMore (ih hfirst) (ih ‹_›)
      next =>
        cases h
        exact .manyNone
      next => cases h
    | node kind rule =>
      simp only [Rule.read] at h
      split at h <;> cases h
      exact .node (ih ‹_›)
    | role role rule =>
      simp only [Rule.read] at h
      split at h <;> cases h
      exact .role (ih ‹_›)
    | ref nonterminal =>
      simp only [Rule.read] at h
      exact .ref (ih h)
    | grow base tail =>
      simp only [Rule.read] at h
      split at h
      next hbase => exact .grow (ih hbase) (ih h)
      all_goals cases h
    | tails tail =>
      simp only [Rule.read] at h
      split at h
      next hfirst => exact .tailsMore (ih hfirst) (ih h)
      next =>
        cases h
        exact .tailsNone
      next => cases h
    | adopt kind role rule =>
      simp only [Rule.read] at h
      split at h <;> cases h
      cases role <;> exact .adopt (ih ‹_›)
    | after kinds =>
      simp only [Rule.read] at h
      split at h <;> cases h
      exact .after
    | only kinds rule =>
      simp only [Rule.read] at h
      split at h
      next hfirst =>
        split at h <;> cases h
        exact .only (ih hfirst)
      all_goals cases h
    | ahead rule =>
      simp only [Rule.read] at h
      split at h <;> cases h
      exact .ahead
    | «unless» rule =>
      simp only [Rule.read] at h
      split at h <;> cases h
      exact .notAhead
    | ending position =>
      simp only [Rule.read] at h
      split at h <;> cases h
      · exact .endingHere
      · exact .endingLater ‹_›
    | done =>
      simp only [Rule.read] at h
      split at h <;> cases h
      exact .done

/-! ### Progress -/

variable {source : List Char} {rule : Rule ν} {left trees : List Tree} {place later : Place}

lemma Place.Valid.position_le_pass (h : place.Valid source) (n : Nat) :
    place.position ≤ (place.pass n).position := by
  have := h.position_le_start
  rw [Place.position_pass]
  omega

/-- Reading goes from a valid place to a valid place that is not before it. -/
theorem Reads.valid (h : Reads grammar rule left place trees later) (hplace : place.Valid source) :
    later.Valid source ∧ place.position ≤ later.position := by
  induction h with
  | empty | after | done | endingHere           => exact ⟨hplace, Nat.le_refl _⟩
  | manyNone | tailsNone | ahead | notAhead     => exact ⟨hplace.withReach _, Nat.le_refl _⟩
  | leaf | word | mark | operator               =>
    exact ⟨hplace.pass _, hplace.position_le_pass _⟩
  | glued | templateText | endingLater          =>
    exact ⟨hplace.passGlued _, by rw [Place.position_passGlued]; omega⟩
  | first _ ih | manyLast _ _ ih | node _ ih | role _ ih | ref _ ih | adopt _ ih | only _ ih =>
    exact ih hplace
  | second _ ih => exact ih (hplace.withReach _)
  | seq _ _ ihfirst ihsecond | manyMore _ _ ihfirst ihsecond | grow _ _ ihfirst ihsecond
  | tailsMore _ _ ihfirst ihsecond =>
    obtain ⟨hmiddle, hle⟩ := ihfirst hplace
    obtain ⟨hlater, hle'⟩ := ihsecond hmiddle
    exact ⟨hlater, Nat.le_trans hle hle'⟩

end Stencil.TypeScript
