import Stencil.Proofs.Reading
import Stencil.TypeScript.Grammar

/-!
# The trees that the grammar builds

Simple checks on rules tell how reading by them goes on: whether a token is read (`passes`), and
whether what is built starts where the next token does (`leads`). All rules of the grammar pass
these checks, and so every tree that is read by them is nested (`Reads.inOrder`).
-/

namespace Stencil.TypeScript

open Text

/-! ### Checks on rules -/

namespace Rule

/-- Whether no white space or comment begins like this text. -/
def isGlue (text : String) : Bool :=
  match text.toList with
  | c :: _ => !isSpace c && c != '/'
  | []     => false

mutual

/-- Whether the next token is read whenever the rule fits. -/
def passes : GrammarRule → Bool
  | .leaf _ _ | .word _ | .mark _ | .operator _                => true
  | .glued text                                                => isGlue text
  | .seq first second                                          =>
    passes first || (steady first && passes second)
  | .choice first second                                       => passes first && passes second
  | .node _ rule | .role _ rule | .adopt _ _ rule | .only _ rule => passes rule
  | .ref nonterminal => nonterminal != .classHead && nonterminal != .program
  | .grow base _                                               => passes base
  | _                                                          => false

/-- Whether the next token is read or nothing is. -/
def steady : GrammarRule → Bool
  | .leaf _ _ | .word _ | .mark _ | .operator _                => true
  | .empty | .after _ | .ahead _ | .unless _ | .done           => true
  | .glued text                                                => isGlue text
  | .seq first second                                          =>
    passes first || (steady first && steady second)
  | .choice first second                                       => steady first && steady second
  | .many rule                                                 => steady rule
  | .node _ rule | .role _ rule | .adopt _ _ rule | .only _ rule => steady rule
  | .ref nonterminal                                           => nonterminal != .program
  | .grow base _                                               => passes base
  | _                                                          => false

end

/-- Whether what the rule builds starts where the next token does, or later. -/
def leads : GrammarRule → Bool
  | .glued text                => isGlue text
  | .seq first second          =>
    leads first && (passes first || (steady first && leads second))
  | .choice first second       => leads first && leads second
  | .many rule                 => leads rule && steady rule
  | .role _ rule | .only _ rule => leads rule
  | .ref nonterminal           => nonterminal != .program
  | .grow base _               => leads base
  | .templateText | .tails _ | .adopt _ _ _ => false
  | _                          => true

/-- Whether the rule builds nothing. -/
def isSilent : GrammarRule → Bool
  | .empty | .after _ | .ahead _ | .unless _ | .ending _ | .done => true
  | _                                                            => false

mutual

/-- Whether the rule builds its trees afresh, whatever stands before it in a chain. -/
def isFresh : GrammarRule → Bool
  | .seq first second | .choice first second => isFresh first && isFresh second
  | .many rule | .role _ rule | .only _ rule => isFresh rule
  | .node _ rule                             => isFresh rule && leads rule && passes rule
  | .ref nonterminal                         => nonterminal != .program
  | .grow base tail                          => isFresh base && passes base && isTail tail
  | .tails _ | .adopt _ _ _                  => false
  | _                                        => true

/-- Whether the rule builds one node around all that stands before it in a chain. -/
def isTail : GrammarRule → Bool
  | .seq first second    => isSilent first && isTail second
  | .choice first second => isTail first && isTail second
  | .adopt _ _ rule      => isFresh rule && leads rule && passes rule
  | .tails tail          => isTail tail
  | _                    => false

end

/-- Whether the rule builds its trees afresh, and starts and goes on with a token if any. -/
def isSound (rule : GrammarRule) : Bool := isFresh rule && leads rule && steady rule

end Rule

/-- All rules of the grammar but that of a whole module build nested trees. -/
lemma isSound_grammar {nonterminal : Nonterminal} (h : nonterminal ≠ .program) :
    (grammar nonterminal).isSound := by
  cases nonterminal with
  | program => exact absurd rfl h
  | statement flag | methodDefinition flag | type flag | unionType flag | intersectionType flag
  | operatorType flag | typeAscription flag | returnAscription flag | indexSignature flag =>
    cases flag <;> rfl
  | expressions setting | expression setting | binary setting | unary setting | chain setting
  | primary setting | arrowFunction setting | newExpression setting =>
    rcases setting with ⟨_ | _, _ | _, _ | _⟩ <;> rfl
  | _ => rfl

/-- The head of a class may be empty; all else reads a token. -/
lemma passes_grammar {nonterminal : Nonterminal} (hhead : nonterminal ≠ .classHead)
    (hprogram : nonterminal ≠ .program) : (grammar nonterminal).passes := by
  cases nonterminal with
  | classHead => exact absurd rfl hhead
  | program => exact absurd rfl hprogram
  | statement flag | methodDefinition flag | type flag | unionType flag | intersectionType flag
  | operatorType flag | typeAscription flag | returnAscription flag | indexSignature flag =>
    cases flag <;> rfl
  | expressions setting | expression setting | binary setting | unary setting | chain setting
  | primary setting | arrowFunction setting | newExpression setting =>
    rcases setting with ⟨_ | _, _ | _, _ | _⟩ <;> rfl
  | _ => rfl

/-! ### Progress -/

/-- Whether reading has gone on to the next token or has not gone on at all. -/
def Place.Follows (place later : Place) : Prop :=
  place.start ≤ later.position ∨ (later.position = place.position ∧ later.start = place.start)

namespace Place.Follows

variable {place middle later : Place}

lemma refl (place : Place) : place.Follows place := .inr ⟨rfl, rfl⟩

lemma trans (hfirst : place.Follows middle) (hsecond : middle.Follows later)
    (hle : middle.position ≤ later.position) : place.Follows later := by
  unfold Follows at *
  omega

end Place.Follows

lemma gap_of_isGlue {text : String} {rest : List Char} (hglue : Rule.isGlue text)
    (hglued : text.toList.isPrefixOf rest) : gap rest = 0 := by
  obtain ⟨more, rfl⟩ := List.isPrefixOf_iff_prefix.mp hglued
  unfold Rule.isGlue at hglue
  split at hglue
  next c text htext =>
    simp only [Bool.and_eq_true, Bool.not_eq_true', bne_iff_ne] at hglue
    rw [htext, List.cons_append, gap]
    unfold gap?
    split <;> simp_all
  next => cases hglue

/-- Whether trees stand in order between two places and all their nodes are nested. -/
structure InOrder (source : List Char) (lo hi : Nat) (trees : List Tree) : Prop where
  ordered : Tree.Ordered lo hi trees
  nested : ∀ tree ∈ trees, tree.Every (Tree.Nested source)

namespace InOrder

variable {source : List Char} {lo mid hi : Nat} {first second trees : List Tree}

lemma nil (h : lo ≤ hi) : InOrder source lo hi [] := ⟨h, nofun⟩

lemma append (hfirst : InOrder source lo mid first) (hsecond : InOrder source mid hi second) :
    InOrder source lo hi (first ++ second) :=
  ⟨hfirst.ordered.append hsecond.ordered,
    List.forall_mem_append.mpr ⟨hfirst.nested, hsecond.nested⟩⟩

lemma weaken {lo' hi' : Nat} (h : InOrder source lo hi trees) (hlo : lo' ≤ lo) (hhi : hi ≤ hi') :
    InOrder source lo' hi' trees :=
  ⟨h.ordered.weaken hlo hhi, h.nested⟩

/-- Trees that start at a place or later stand in order from there on. -/
lemma startingAt (h : InOrder source lo hi trees) {lo' : Nat} (hle : lo' ≤ hi)
    (hstart : ∀ tree ∈ trees, lo' ≤ tree.start) : InOrder source lo' hi trees := by
  refine ⟨?_, h.nested⟩
  cases trees with
  | nil          => exact hle
  | cons tree _ => exact ⟨hstart tree (List.mem_cons_self ..), h.ordered.2⟩

lemma map_withRole (h : InOrder source lo hi trees) (role : Role) :
    InOrder source lo hi (trees.map (Tree.withRole role)) := by
  refine ⟨Tree.ordered_map_withRole.mpr h.ordered, List.forall_mem_map.mpr fun tree hmem => ?_⟩
  exact (Tree.every_withRole Tree.nested_withRole).mpr (h.nested tree hmem)

/-- A node around trees in order. -/
lemma node {start stop : Nat} {symbol : Symbol} {role : Option Role}
    (h : InOrder source start stop trees) (hstart : IsBoundary source start)
    (hstop : IsBoundary source stop) (hlo : lo ≤ start) (hhi : stop ≤ hi) :
    InOrder source lo hi [.node symbol role ⟨start, stop⟩ trees] := by
  refine ⟨⟨hlo, h.ordered.le, hhi⟩, ?_⟩
  rw [List.forall_mem_singleton, Tree.every_iff]
  exact ⟨⟨hstart, hstop, h.ordered⟩, h.nested⟩

end InOrder

namespace Reads

open Rule

variable {source : List Char} {rule : GrammarRule} {left trees : List Tree} {place later : Place}

lemma start_eq_of_isGlue {text : String} (hplace : place.Valid source) (hglue : isGlue text)
    (hglued : text.toList.isPrefixOf place.rest) : place.start = place.position := by
  rw [hplace.start, gap_of_isGlue hglue hglued, List.take_zero, size_nil, Nat.add_zero]

/-- Rules that pass the checks go on with the next token. -/
theorem follows (h : Reads grammar rule left place trees later) (hplace : place.Valid source) :
    (passes rule → place.start ≤ later.position) ∧ (steady rule → place.Follows later) := by
  have of_passes {place later : Place} {first second : Prop} (h : place.start ≤ later.position) :
      (first → place.start ≤ later.position) ∧ (second → place.Follows later) :=
    ⟨fun _ => h, fun _ => .inl h⟩
  induction h with
  | leaf | word | mark | operator =>
    exact of_passes (by rw [Place.position_pass]; omega)
  | empty | after | done => exact ⟨nofun, fun _ => .refl _⟩
  | ahead | notAhead     => exact ⟨nofun, fun _ => .inr ⟨rfl, rfl⟩⟩
  | templateText | endingHere | endingLater | tailsNone | tailsMore => exact ⟨nofun, nofun⟩
  | glued hglued =>
    have := Place.position_passGlued ‹Place› ‹String›.length
    refine ⟨fun hglue => ?_, fun hglue => .inl ?_⟩ <;>
      rw [start_eq_of_isGlue hplace hglue hglued, this] <;> omega
  | seq hfirst hsecond ihfirst ihsecond =>
    have hmiddle := (hfirst.valid hplace).1
    have hle := (hsecond.valid hmiddle).2
    obtain ⟨hpasses, hsteady⟩ := ihfirst hplace
    obtain ⟨hpasses', hsteady'⟩ := ihsecond hmiddle
    simp only [passes, steady, Bool.or_eq_true, Bool.and_eq_true]
    constructor
    · rintro (h | ⟨h, h'⟩)
      · exact Nat.le_trans (hpasses h) hle
      · rcases hsteady h with hstart | ⟨-, hstart⟩
        · exact Nat.le_trans hstart hle
        · exact hstart ▸ hpasses' h'
    · rintro (h | ⟨h, h'⟩)
      · exact .inl (Nat.le_trans (hpasses h) hle)
      · exact (hsteady h).trans (hsteady' h') hle
  | first _ ih =>
    obtain ⟨hpasses, hsteady⟩ := ih hplace
    simp only [passes, steady, Bool.and_eq_true]
    exact ⟨fun h => hpasses h.1, fun h => hsteady h.1⟩
  | second _ ih =>
    obtain ⟨hpasses, hsteady⟩ := ih (hplace.withReach _)
    simp only [passes, steady, Bool.and_eq_true]
    exact ⟨fun h => hpasses h.2, fun h => hsteady h.2⟩
  | manyNone => exact ⟨nofun, fun _ => .inr ⟨rfl, rfl⟩⟩
  | manyLast _ _ ih => exact ⟨nofun, (ih hplace).2⟩
  | manyMore hfirst hmore ihfirst ihmore =>
    have hmiddle := (hfirst.valid hplace).1
    have hle := (hmore.valid hmiddle).2
    exact ⟨nofun, fun h => ((ihfirst hplace).2 h).trans ((ihmore hmiddle).2 h) hle⟩
  | node _ ih | role _ ih | adopt _ ih | only _ ih => exact ih hplace
  | @ref nonterminal _ _ _ _ _ ih =>
    obtain ⟨hpasses, hsteady⟩ := ih hplace
    simp only [passes, steady, Bool.and_eq_true, bne_iff_ne]
    refine ⟨fun h => hpasses (passes_grammar h.1 h.2), fun h => hsteady ?_⟩
    have := isSound_grammar h
    simp only [isSound, Bool.and_eq_true] at this
    exact this.2
  | grow hbase htails ih _ =>
    have hmiddle := (hbase.valid hplace).1
    have hle := (htails.valid hmiddle).2
    have hpasses := (ih hplace).1
    exact ⟨fun h => Nat.le_trans (hpasses h) hle, fun h => .inl (Nat.le_trans (hpasses h) hle)⟩

/-! ### Nesting -/

lemma eq_nil_of_isSilent (h : Reads grammar rule left place trees later) (hsilent : isSilent rule) :
    trees = [] := by
  cases h <;> first | rfl | cases hsilent

lemma inOrder_token (hplace : place.Valid source) (symbol : Symbol) (n : Nat) :
    InOrder source place.position (place.pass n).position
      [tokenTree symbol place.start (place.pass n)] :=
  .node (.nil (by rw [Place.position_pass]; omega)) hplace.isBoundary_start
    (hplace.pass n).isBoundary_position hplace.position_le_start (Nat.le_refl _)

lemma inOrder_gluedToken (hplace : place.Valid source) (symbol : Symbol) (n : Nat) :
    InOrder source place.position (place.passGlued n).position
      [tokenTree symbol place.position (place.passGlued n)] :=
  .node (.nil (by rw [Place.position_passGlued]; omega)) hplace.isBoundary_position
    (hplace.passGlued n).isBoundary_position (Nat.le_refl _) (Nat.le_refl _)

/-- A tail builds a node around the trees before, and what it reads comes after them. -/
lemma inOrder_adopt {lo : Nat} {kind : Kind} {role : Option Role} (hplace : place.Valid source)
    (hlater : later.Valid source) (hlo : lo ≤ place.position)
    (hstart : place.start ≤ later.position)
    (hleft : InOrder source lo place.position left)
    (htrees : InOrder source place.position later.position trees)
    (hleads : ∀ tree ∈ trees, place.start ≤ tree.start) :
    InOrder source lo later.position
      [.node (.kind kind) none
        ⟨adoptedStart left place, max (adoptedStart left place) later.position⟩
        (adopted role left ++ trees)] := by
  have hposition := hplace.position_le_start
  match left with
  | [] =>
    simp only [adoptedStart, adopted, List.head?_nil, Option.map_none, Option.getD_none,
      List.map_nil, List.nil_append, Nat.max_eq_right hstart]
    exact .node (htrees.startingAt hstart hleads) hplace.isBoundary_start hlater.isBoundary_position
      (Nat.le_trans hlo hposition) (Nat.le_refl _)
  | tree :: left =>
    have htree := hleft.ordered.mem (List.mem_cons_self ..)
    have hnested := (hleft.nested tree (List.mem_cons_self ..)).self
    have hmax : max tree.start later.position = later.position := by omega
    have hadopted : InOrder source tree.start place.position (adopted role (tree :: left)) := by
      have hleft : InOrder source tree.start place.position (tree :: left) :=
        ⟨⟨Nat.le_refl _, hleft.ordered.2⟩, hleft.nested⟩
      cases role with
      | none      => simpa [adopted] using hleft
      | some role => exact hleft.map_withRole role
    simp only [adoptedStart, List.head?_cons, Option.map_some, Option.getD_some, hmax]
    exact .node (hadopted.append htrees) hnested.start hlater.isBoundary_position htree.1
      (Nat.le_refl _)

/-- What a rule of the grammar builds stands in order between the place where reading begins and the
place where it ends, or, in a chain, after the start of what stands before. -/
theorem inOrder (h : Reads grammar rule left place trees later) (hplace : place.Valid source) :
    (isFresh rule → InOrder source place.position later.position trees ∧
      (leads rule → ∀ tree ∈ trees, place.start ≤ tree.start)) ∧
    (isTail rule → ∀ lo ≤ place.position, InOrder source lo place.position left →
      InOrder source lo later.position trees) := by
  induction h with
  | leaf | word | mark | operator =>
    exact ⟨fun _ => ⟨inOrder_token hplace _ _, fun _ => by simp [tokenTree]⟩, nofun⟩
  | empty | after | done | ahead | notAhead | endingHere | manyNone =>
    exact ⟨fun _ => ⟨.nil (Nat.le_refl _), fun _ => nofun⟩, nofun⟩
  | endingLater =>
    refine ⟨fun _ => ⟨.nil ?_, fun _ => nofun⟩, nofun⟩
    rw [Place.position_passGlued]
    omega
  | templateText => exact ⟨fun _ => ⟨inOrder_gluedToken hplace _ _, nofun⟩, nofun⟩
  | glued hglued =>
    refine ⟨fun _ => ⟨inOrder_gluedToken hplace _ _, fun hglue => ?_⟩, nofun⟩
    rw [start_eq_of_isGlue hplace hglue hglued]
    simp [tokenTree]
  | seq hfirst hsecond ihfirst ihsecond =>
    obtain ⟨hmiddle, hle⟩ := hfirst.valid hplace
    have hle' := (hsecond.valid hmiddle).2
    have hfollows := hfirst.follows hplace
    simp only [isFresh, isTail, leads, Bool.and_eq_true, Bool.or_eq_true]
    constructor
    · rintro ⟨hfresh, hfresh'⟩
      obtain ⟨hinorder, hleads⟩ := (ihfirst hplace).1 hfresh
      obtain ⟨hinorder', hleads'⟩ := (ihsecond hmiddle).1 hfresh'
      refine ⟨hinorder.append hinorder', ?_⟩
      rintro ⟨h, h'⟩
      refine List.forall_mem_append.mpr ⟨hleads h, fun tree hmem => ?_⟩
      have htree := (hinorder'.ordered.mem hmem).1
      rcases h' with h' | ⟨h', h''⟩
      · exact Nat.le_trans (hfollows.1 h') htree
      · rcases hfollows.2 h' with hstart | ⟨-, hstart⟩
        · exact Nat.le_trans hstart htree
        · exact hstart ▸ hleads' h'' tree hmem
    · rintro ⟨hsilent, htail⟩ lo hlo hleft
      obtain rfl := hfirst.eq_nil_of_isSilent hsilent
      exact (ihsecond hmiddle).2 htail lo (Nat.le_trans hlo hle) (hleft.weaken (Nat.le_refl _) hle)
  | first _ ih =>
    simp only [isFresh, isTail, leads, Bool.and_eq_true]
    exact ⟨fun h => ⟨((ih hplace).1 h.1).1, fun h' => ((ih hplace).1 h.1).2 h'.1⟩,
      fun h => (ih hplace).2 h.1⟩
  | second _ ih =>
    simp only [isFresh, isTail, leads, Bool.and_eq_true]
    have ih := ih (hplace.withReach _)
    exact ⟨fun h => ⟨(ih.1 h.2).1, fun h' => (ih.1 h.2).2 h'.2⟩, fun h => ih.2 h.2⟩
  | manyLast _ _ ih =>
    simp only [isFresh, leads, Bool.and_eq_true]
    exact ⟨fun h => ⟨((ih hplace).1 h).1, fun h' => ((ih hplace).1 h).2 h'.1⟩, nofun⟩
  | manyMore hfirst hmore ihfirst ihmore =>
    obtain ⟨hmiddle, hle⟩ := hfirst.valid hplace
    have hfollows := hfirst.follows hplace
    refine ⟨fun hfresh => ?_, nofun⟩
    obtain ⟨hinorder, hleads⟩ := (ihfirst hplace).1 hfresh
    obtain ⟨hinorder', hleads'⟩ := (ihmore hmiddle).1 hfresh
    refine ⟨hinorder.append hinorder', fun h => ?_⟩
    have hleads' := hleads' h
    simp only [leads, Bool.and_eq_true] at h
    refine List.forall_mem_append.mpr ⟨hleads h.1, fun tree hmem => ?_⟩
    rcases hfollows.2 h.2 with hstart | ⟨-, hstart⟩
    · exact Nat.le_trans hstart (hinorder'.ordered.mem hmem).1
    · exact hstart ▸ hleads' tree hmem
  | node hread ih =>
    simp only [isFresh, Bool.and_eq_true]
    refine ⟨fun ⟨⟨hfresh, hleads⟩, hpasses⟩ => ?_, nofun⟩
    have hstart := (hread.follows hplace).1 hpasses
    obtain ⟨hinorder, hstarts⟩ := (ih hplace).1 hfresh
    rw [Nat.max_eq_right hstart]
    refine ⟨?_, fun _ => by simp⟩
    exact .node (hinorder.startingAt hstart (hstarts hleads)) hplace.isBoundary_start
      (hread.valid hplace).1.isBoundary_position hplace.position_le_start (Nat.le_refl _)
  | role _ ih =>
    refine ⟨fun hfresh => ?_, nofun⟩
    obtain ⟨hinorder, hleads⟩ := (ih hplace).1 hfresh
    refine ⟨hinorder.map_withRole _, fun h => List.forall_mem_map.mpr fun tree hmem => ?_⟩
    rw [Tree.start_withRole]
    exact hleads h tree hmem
  | ref _ ih =>
    refine ⟨fun hfresh => ?_, nofun⟩
    have hsound := isSound_grammar (by simpa [isFresh] using hfresh)
    simp only [isSound, Bool.and_eq_true] at hsound
    obtain ⟨hinorder, hleads⟩ := (ih hplace).1 hsound.1.1
    exact ⟨hinorder, fun _ => hleads hsound.1.2⟩
  | grow hbase htails ihbase ihtails =>
    obtain ⟨hmiddle, hle⟩ := hbase.valid hplace
    simp only [isFresh, Bool.and_eq_true]
    refine ⟨fun ⟨⟨hfresh, hpasses⟩, htail⟩ => ?_, nofun⟩
    obtain ⟨hinorder, hleads⟩ := (ihbase hplace).1 hfresh
    have hstart := (hbase.follows hplace).1 hpasses
    have htails := (ihtails hmiddle).2 htail
    refine ⟨htails _ hle hinorder, fun h tree hmem => ?_⟩
    exact ((htails _ hstart (hinorder.startingAt hstart (hleads h))).ordered.mem hmem).1
  | tailsNone => exact ⟨nofun, fun _ lo _ hleft => hleft⟩
  | tailsMore hfirst hmore ihfirst ihmore =>
    obtain ⟨hmiddle, hle⟩ := hfirst.valid hplace
    refine ⟨nofun, fun htail lo hlo hleft => ?_⟩
    exact (ihmore hmiddle).2 htail lo (Nat.le_trans hlo hle) ((ihfirst hplace).2 htail lo hlo hleft)
  | adopt hread ih =>
    simp only [isTail, Bool.and_eq_true]
    refine ⟨nofun, fun ⟨⟨hfresh, hleads⟩, hpasses⟩ lo hlo hleft => ?_⟩
    obtain ⟨hinorder, hstarts⟩ := (ih hplace).1 hfresh
    exact inOrder_adopt hplace (hread.valid hplace).1 hlo ((hread.follows hplace).1 hpasses) hleft
      hinorder (hstarts hleads)
  | only _ ih => exact ⟨(ih hplace).1, nofun⟩

end Reads

end Stencil.TypeScript
