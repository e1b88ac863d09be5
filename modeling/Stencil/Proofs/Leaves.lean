import Stencil.Proofs.Tokens

/-!
# What stands between tokens

A node of a parsed module is its tokens, one after another, with nothing before, between and after
them but white space and comments (`parse_tokens`). The grammar reads nothing else, and the comments
that are put into a tree are no tokens of it.
-/

namespace Stencil.TypeScript

open Text

/-! ### White space and comments -/

/-- Whether passing over white space and comments leads from a text to a later part of it. -/
inductive Skips : List Char → List Char → Prop
  | refl {text : List Char} : Skips text text
  | space {c : Char} {text rest : List Char} (hc : isSpace c) (h : Skips text rest) :
      Skips (c :: text) rest
  | comment {text rest : List Char} {n : Nat} (hn : comment? text = some n)
      (h : Skips (text.drop n) rest) : Skips text rest

lemma comment?_cons {c : Char} {text : List Char} {n : Nat} (h : comment? (c :: text) = some n) :
    c = '/' ∧ 0 < n := by
  unfold comment? at h
  split at h
  next heq =>
    cases heq
    cases h
    exact ⟨rfl, by omega⟩
  next heq =>
    cases heq
    obtain ⟨m, -, rfl⟩ := Option.map_eq_some_iff.mp h
    exact ⟨rfl, by omega⟩
  next => cases h

namespace Skips

variable {text middle rest : List Char}

lemma trans (h : Skips text middle) (h' : Skips middle rest) : Skips text rest := by
  induction h with
  | refl          => exact h'
  | space hc _ ih => exact .space hc (ih h')
  | comment hn _ ih => exact .comment hn (ih h')

lemma length_le (h : Skips text rest) : rest.length ≤ text.length := by
  induction h with
  | refl => exact Nat.le_refl _
  | space _ _ ih =>
    rw [List.length_cons]
    omega
  | comment _ _ ih =>
    rw [List.length_drop] at ih
    omega

/-- Of two places that are come to from the same text, the one further on is come to from the
other. -/
lemma of_length_le (h : Skips text middle) (h' : Skips text rest)
    (hle : rest.length ≤ middle.length) : Skips middle rest := by
  induction h with
  | refl => exact h'
  | space hc h ih =>
    cases h' with
    | refl =>
      have := h.length_le
      rw [List.length_cons] at hle
      omega
    | space _ h'      => exact ih h' hle
    | comment hn h'   =>
      obtain ⟨rfl, -⟩ := comment?_cons hn
      cases hc
  | @comment text _ n hn h ih =>
    obtain ⟨c, text, rfl⟩ : ∃ c rest, text = c :: rest := by
      cases text with
      | nil      => cases hn
      | cons c _ => exact ⟨c, _, rfl⟩
    obtain ⟨rfl, hpos⟩ := comment?_cons hn
    cases h' with
    | refl =>
      have := h.length_le
      rw [List.length_drop] at this
      rw [List.length_cons] at *
      omega
    | space hc _     => cases hc
    | comment hn' h' =>
      rw [hn, Option.some.injEq] at hn'
      subst hn'
      exact ih h' hle

/-- White space at the front of a text is passed over. -/
lemma takeWhile (text : List Char) : Skips text (text.drop (text.takeWhile isSpace).length) := by
  induction text with
  | nil => exact .refl
  | cons c text ih =>
    rw [List.takeWhile_cons]
    split
    next hc => exact .space hc ih
    next => exact .refl

end Skips

lemma isSpace_of_isLineBreak {c : Char} (h : isLineBreak c) : isSpace c := by
  simp only [isLineBreak, isSpace, Bool.or_eq_true, beq_iff_eq, Bool.and_eq_true,
    decide_eq_true_eq] at h ⊢
  rcases h with ((rfl | rfl) | h) | h
  · exact .inl (by decide)
  · exact .inl (by decide)
  · omega
  · omega

/-- Whether passing over white space and comments leads from one text to another, where the first
is in white space or in a comment. -/
def Gap.Skips : Gap → List Char → List Char → Prop
  | .space, text, rest        => TypeScript.Skips text rest
  | .lineComment, text, rest  =>
    TypeScript.Skips (text.drop (text.takeWhile fun c => !isLineBreak c).length) rest
  | .blockComment, text, rest =>
    ∃ n, blockComment? text = some n ∧ TypeScript.Skips (text.drop n) rest

/-- What a walk over space passes is white space and comments. -/
lemma skips_of_gap? (mode : Gap) (text : List Char) {n : Nat} (h : gap? mode text = some n) :
    mode.Skips text (text.drop n) := by
  fun_induction gap? mode text generalizing n with
  | case1 => cases h
  | case2 rest ih =>
    obtain ⟨m, hm, rfl⟩ := Option.map_eq_some_iff.mp h
    exact ⟨2, rfl, ih hm⟩
  | case3 c rest hclosing ih =>
    obtain ⟨m, hm, rfl⟩ := Option.map_eq_some_iff.mp h
    obtain ⟨k, hk, hskips⟩ := ih hm
    exact ⟨k + 1, by rw [blockComment?, hk, Option.map_some]; exact hclosing, hskips⟩
  | case4 mode hmode =>
    cases h
    cases mode with
    | blockComment => exact absurd rfl hmode
    | _            => exact .refl
  | case5 c rest ih =>
    obtain ⟨m, hm, rfl⟩ := Option.map_eq_some_iff.mp h
    have ih := ih hm
    rw [Gap.Skips, List.takeWhile_cons]
    by_cases hbreak : isLineBreak c
    · rw [if_pos hbreak] at ih
      rw [if_neg (by simp [hbreak])]
      exact .space (isSpace_of_isLineBreak hbreak) ih
    · rw [if_neg hbreak] at ih
      rw [if_pos (by simp [hbreak])]
      exact ih
  | case6 rest ih =>
    obtain ⟨m, hm, rfl⟩ := Option.map_eq_some_iff.mp h
    refine .comment (by rw [comment?]) ?_
    rw [Nat.add_comm 2]
    exact ih hm
  | case7 rest m hm ih =>
    cases h
    obtain ⟨k, hk, hskips⟩ := ih hm
    exact .comment (by rw [comment?, hk, Option.map_some]) hskips
  | case9 c rest _ _ hc ih =>
    obtain ⟨m, hm, rfl⟩ := Option.map_eq_some_iff.mp h
    exact .space hc (ih hm)
  | case8 | case10 =>
    cases h
    exact .refl

lemma skips_gap (text : List Char) : Skips text (text.drop (gap text)) := by
  unfold gap
  rcases h : gap? .space text with _ | n
  · exact .refl
  · exact skips_of_gap? .space text h

lemma skips_of_leadingComment? {text : List Char} {n : Nat} (h : leadingComment? text = some n) :
    Skips text (text.drop n) := by
  obtain ⟨m, hm, rfl⟩ := Option.map_eq_some_iff.mp h
  refine (Skips.takeWhile text).trans (.comment hm ?_)
  rw [List.drop_drop]
  exact .refl

/-- What stands between the last token of a statement and its end is white space and comments. -/
lemma skips_of_statementEnd? {position : Position} {text : List Char} {n : Nat}
    (h : statementEnd? position text = some n) : Skips text (text.drop n) := by
  have hwithin (fuel : Nat) {text : List Char} {n : Nat}
      (h : statementEndWithin? position fuel text = some n) : Skips text (text.drop n) := by
    induction fuel generalizing text n with
    | zero =>
      unfold statementEndWithin? at h
      split at h <;> cases h
      exact .refl
    | succ fuel ih =>
      unfold statementEndWithin? at h
      split at h
      · cases h
        exact .refl
      · split at h
        next n hn =>
          obtain ⟨m, hm, rfl⟩ := Option.map_eq_some_iff.mp h
          rw [← List.drop_drop]
          exact (skips_of_leadingComment? hn).trans (ih hm)
        next => cases h
  unfold statementEnd? at h
  split at h
  · cases h
    exact .refl
  · split at h
    next n hn =>
      obtain ⟨m, hm, rfl⟩ := Option.map_eq_some_iff.mp h
      rw [← List.drop_drop]
      exact (skips_of_leadingComment? hn).trans (hwithin _ hm)
    next => cases h

/-! ### Between trees -/

/-- Whether nothing but white space and comments stands between two boundaries of a source. -/
structure Skipped (source : List Char) (lo hi : Nat) : Prop where
  start : IsBoundary source lo
  stop : IsBoundary source hi
  le : lo ≤ hi
  skips : Skips (after source lo) (after source hi)

variable {source : List Char} {lo mid hi : Nat}

namespace Skipped

lemma refl (h : IsBoundary source lo) : Skipped source lo lo := ⟨h, h, Nat.le_refl _, .refl⟩

lemma trans (h : Skipped source lo mid) (h' : Skipped source mid hi) : Skipped source lo hi :=
  ⟨h.start, h'.stop, Nat.le_trans h.le h'.le, h.skips.trans h'.skips⟩

/-- What is left of a gap behind a part of it. -/
lemma of_le (h : Skipped source lo hi) (h' : Skipped source lo mid) (hle : mid ≤ hi) :
    Skipped source mid hi := by
  refine ⟨h'.stop, h.stop, hle, h'.skips.of_length_le h.skips ?_⟩
  obtain ⟨first, rest, heq, rfl⟩ := h'.stop
  obtain ⟨first', rest', heq', rfl⟩ := h.stop
  obtain ⟨middle, -, rfl⟩ := exists_append_of_size_le (heq.symm.trans heq') hle
  rw [heq', after_append_size, ← heq', heq, after_append_size, List.length_append]
  omega

end Skipped

section

variable {place : Place} (hplace : place.Valid source)
include hplace

lemma Place.Valid.skipped_start : Skipped source place.position place.start := by
  refine ⟨hplace.isBoundary_position, hplace.isBoundary_start, hplace.position_le_start, ?_⟩
  rw [hplace.after_position, hplace.after_start, hplace.next]
  exact skips_gap _

lemma Place.Valid.skipped_ending {position : Position} {n : Nat}
    (h : statementEnd? position place.rest = some n) :
    Skipped source place.position (place.passGlued n).position := by
  have hlater := hplace.passGlued n
  refine ⟨hplace.isBoundary_position, hlater.isBoundary_position, ?_, ?_⟩
  · rw [Place.position_passGlued]
    omega
  · rw [hplace.after_position, hlater.after_position]
    exact skips_of_statementEnd? h

end

/-- Whether trees stand one after another between two places with nothing else but white space and
comments there. -/
def Tree.Filled (source : List Char) : (lo hi : Nat) → List Tree → Prop
  | lo, hi, []            => Skipped source lo hi
  | lo, hi, tree :: trees =>
    Skipped source lo tree.start ∧ tree.start ≤ tree.stop ∧ Tree.Filled source tree.stop hi trees

/-- Whether a node is its children with nothing else but white space and comments. -/
def Tree.Dense (source : List Char) (tree : Tree) : Prop :=
  tree.children ≠ [] → Tree.Filled source tree.start tree.stop tree.children

namespace Tree

variable {tree : Tree} {first second trees : List Tree}

namespace Filled

lemma le (h : Filled source lo hi trees) : lo ≤ hi := by
  induction trees generalizing lo with
  | nil => exact Skipped.le h
  | cons tree trees ih =>
    obtain ⟨hskipped, hle, hrest⟩ := h
    exact Nat.le_trans hskipped.le (Nat.le_trans hle (ih hrest))

lemma isBoundary_start (h : Filled source lo hi trees) : IsBoundary source lo := by
  cases trees with
  | nil      => exact Skipped.start h
  | cons _ _ => exact h.1.start

lemma isBoundary_stop (h : Filled source lo hi trees) : IsBoundary source hi := by
  induction trees generalizing lo with
  | nil             => exact Skipped.stop h
  | cons _ _ ih => exact ih h.2.2

lemma of_skipped (h : Skipped source lo mid) (htrees : Filled source mid hi trees) :
    Filled source lo hi trees := by
  cases trees with
  | nil      => exact h.trans htrees
  | cons _ _ => exact ⟨h.trans htrees.1, htrees.2⟩

lemma append (hfirst : Filled source lo mid first) (hsecond : Filled source mid hi second) :
    Filled source lo hi (first ++ second) := by
  induction first generalizing lo with
  | nil               => exact hsecond.of_skipped hfirst
  | cons tree first ih => exact ⟨hfirst.1, hfirst.2.1, ih hfirst.2.2⟩

lemma startingAt (h : Filled source lo hi trees) (hskipped : Skipped source lo mid) (hle : mid ≤ hi)
    (hstart : ∀ tree ∈ trees, mid ≤ tree.start) : Filled source mid hi trees := by
  cases trees with
  | nil => exact Skipped.of_le h hskipped hle
  | cons tree _ =>
    exact ⟨h.1.of_le hskipped (hstart tree (List.mem_cons_self ..)), h.2⟩

end Filled

lemma filled_map_withRole {role : Role} :
    Filled source lo hi (trees.map (withRole role)) ↔ Filled source lo hi trees := by
  induction trees generalizing lo with
  | nil                => rfl
  | cons tree trees ih => simp [Filled, ih]

lemma dense_withRole {role : Role} : (tree.withRole role).Dense source ↔ tree.Dense source := by
  simp [Dense]

end Tree

/-- Whether trees stand between two places with nothing else but white space and comments, and so
do the children of all their nodes. -/
structure Fills (source : List Char) (lo hi : Nat) (trees : List Tree) : Prop where
  filled : Tree.Filled source lo hi trees
  dense : ∀ tree ∈ trees, tree.Every (Tree.Dense source)

namespace Fills

variable {first second trees : List Tree}

lemma nil (h : Skipped source lo hi) : Fills source lo hi [] := ⟨h, List.forall_mem_nil _⟩

lemma append (hfirst : Fills source lo mid first) (hsecond : Fills source mid hi second) :
    Fills source lo hi (first ++ second) :=
  ⟨hfirst.filled.append hsecond.filled, List.forall_mem_append.mpr ⟨hfirst.dense, hsecond.dense⟩⟩

lemma of_skipped (h : Skipped source lo mid) (htrees : Fills source mid hi trees) :
    Fills source lo hi trees :=
  ⟨htrees.filled.of_skipped h, htrees.dense⟩

lemma startingAt (h : Fills source lo hi trees) (hskipped : Skipped source lo mid) (hle : mid ≤ hi)
    (hstart : ∀ tree ∈ trees, mid ≤ tree.start) : Fills source mid hi trees :=
  ⟨h.filled.startingAt hskipped hle hstart, h.dense⟩

lemma map_withRole (h : Fills source lo hi trees) (role : Role) :
    Fills source lo hi (trees.map (Tree.withRole role)) := by
  refine ⟨Tree.filled_map_withRole.mpr h.filled, List.forall_mem_map.mpr fun tree hmem => ?_⟩
  exact (Tree.every_withRole Tree.dense_withRole).mpr (h.dense tree hmem)

/-- A node around trees. -/
lemma node {symbol : Symbol} {role : Option Role} (h : Fills source lo hi trees) :
    Fills source lo hi [.node symbol role ⟨lo, hi⟩ trees] := by
  refine ⟨⟨.refl h.filled.isBoundary_start, h.filled.le, .refl h.filled.isBoundary_stop⟩, ?_⟩
  rw [List.forall_mem_singleton, Tree.every_iff]
  exact ⟨fun _ => h.filled, h.dense⟩

end Fills

namespace Reads

open Rule

variable {rule : GrammarRule} {left trees : List Tree} {place later : Place}

lemma isFresh_of_isSilent (h : isSilent rule) : isFresh rule := by
  cases rule <;> first | rfl | cases h

lemma fills_token (hplace : place.Valid source) (symbol : Symbol) (n : Nat) :
    Fills source place.position (place.pass n).position
      [tokenTree symbol place.start (place.pass n)] := by
  have hlater := (hplace.pass n).isBoundary_position
  refine .of_skipped hplace.skipped_start ⟨⟨.refl hplace.isBoundary_start, ?_, .refl hlater⟩, ?_⟩
  · exact Nat.le_add_right _ _
  · rw [List.forall_mem_singleton, Tree.every_iff]
    exact ⟨fun h => absurd rfl h, List.forall_mem_nil _⟩

lemma fills_gluedToken (hplace : place.Valid source) (symbol : Symbol) (n : Nat) :
    Fills source place.position (place.passGlued n).position
      [tokenTree symbol place.position (place.passGlued n)] := by
  have hlater := (hplace.passGlued n).isBoundary_position
  refine ⟨⟨.refl hplace.isBoundary_position, ?_, .refl hlater⟩, ?_⟩
  · exact Nat.le_add_right _ _
  · rw [List.forall_mem_singleton, Tree.every_iff]
    exact ⟨fun h => absurd rfl h, List.forall_mem_nil _⟩

/-- A tail builds a node around the trees before and what it reads after them. -/
lemma fills_adopt {kind : Kind} {role : Option Role} (hplace : place.Valid source)
    (hstart : place.start ≤ later.position) (hleft : Fills source lo place.position left)
    (htrees : Fills source place.position later.position trees)
    (hleads : ∀ tree ∈ trees, place.start ≤ tree.start) :
    Fills source lo later.position
      [.node (.kind kind) none
        ⟨adoptedStart left place, max (adoptedStart left place) later.position⟩
        (adopted role left ++ trees)] := by
  match left with
  | [] =>
    simp only [adoptedStart, adopted, List.head?_nil, Option.map_none, Option.getD_none,
      List.map_nil, List.nil_append, Nat.max_eq_right hstart]
    exact .of_skipped (.trans hleft.filled hplace.skipped_start)
      (htrees.startingAt hplace.skipped_start hstart hleads).node
  | tree :: left =>
    obtain ⟨⟨hskipped, hle, hrest⟩, hdense⟩ := hleft
    have hmax : max tree.start later.position = later.position :=
      Nat.max_eq_right (Nat.le_trans hle (Nat.le_trans hrest.le htrees.filled.le))
    have hadopted : Fills source tree.start place.position (adopted role (tree :: left)) := by
      have hleft : Fills source tree.start place.position (tree :: left) :=
        ⟨⟨.refl hskipped.stop, hle, hrest⟩, hdense⟩
      cases role with
      | none      => simpa [adopted] using hleft
      | some role => exact hleft.map_withRole role
    simp only [adoptedStart, List.head?_cons, Option.map_some, Option.getD_some, hmax]
    exact .of_skipped hskipped (hadopted.append htrees).node

/-- What a rule of the grammar reads is the trees that it builds and nothing else but white space
and comments. -/
theorem fills (h : Reads grammar rule left place trees later) (hplace : place.Valid source) :
    (isFresh rule → Fills source place.position later.position trees) ∧
    (isTail rule → ∀ lo, Fills source lo place.position left →
      Fills source lo later.position trees) := by
  induction h with
  | leaf | word | mark | operator =>
    exact ⟨fun _ => fills_token hplace _ _, Bool.false_ne_true.elim⟩
  | glued | templateText =>
    exact ⟨fun _ => fills_gluedToken hplace _ _, Bool.false_ne_true.elim⟩
  | empty | after | done | ahead | notAhead | endingHere | manyNone =>
    exact ⟨fun _ => .nil (.refl hplace.isBoundary_position), Bool.false_ne_true.elim⟩
  | endingLater hending =>
    exact ⟨fun _ => .nil (hplace.skipped_ending hending), Bool.false_ne_true.elim⟩
  | seq hfirst hsecond ihfirst ihsecond =>
    have hmiddle := (hfirst.valid hplace).1
    simp only [isFresh, isTail, Bool.and_eq_true]
    constructor
    · rintro ⟨hfresh, hfresh'⟩
      exact ((ihfirst hplace).1 hfresh).append ((ihsecond hmiddle).1 hfresh')
    · rintro ⟨hsilent, htail⟩ lo hleft
      obtain rfl := hfirst.eq_nil_of_isSilent hsilent
      have hleft := hleft.append ((ihfirst hplace).1 (isFresh_of_isSilent hsilent))
      rw [List.append_nil] at hleft
      exact (ihsecond hmiddle).2 htail lo hleft
  | first _ ih =>
    simp only [isFresh, isTail, Bool.and_eq_true]
    exact ⟨fun h => (ih hplace).1 h.1, fun h => (ih hplace).2 h.1⟩
  | second _ ih =>
    simp only [isFresh, isTail, Bool.and_eq_true]
    have ih := ih (hplace.withReach _)
    exact ⟨fun h => ih.1 h.2, fun h => ih.2 h.2⟩
  | manyLast _ _ ih => exact ⟨(ih hplace).1, Bool.false_ne_true.elim⟩
  | manyMore hfirst hmore ihfirst ihmore =>
    have hmiddle := (hfirst.valid hplace).1
    exact ⟨fun h => ((ihfirst hplace).1 h).append ((ihmore hmiddle).1 h),
      Bool.false_ne_true.elim⟩
  | node hread ih =>
    simp only [isFresh, Bool.and_eq_true]
    refine ⟨fun hall => ?_, Bool.false_ne_true.elim⟩
    obtain ⟨⟨hfresh, hleads⟩, hpasses⟩ := hall
    have hstart := (hread.follows hplace).1 hpasses
    have hstarts := ((hread.inOrder hplace).1 hfresh).2 hleads
    rw [Nat.max_eq_right hstart]
    exact .of_skipped hplace.skipped_start
      (((ih hplace).1 hfresh).startingAt hplace.skipped_start hstart hstarts).node
  | role _ ih =>
    exact ⟨fun hfresh => ((ih hplace).1 hfresh).map_withRole _, Bool.false_ne_true.elim⟩
  | ref _ ih =>
    refine ⟨fun hfresh => ?_, Bool.false_ne_true.elim⟩
    have hsound := isSound_grammar (by simpa [isFresh] using hfresh)
    simp only [isSound, Bool.and_eq_true] at hsound
    exact (ih hplace).1 hsound.1.1
  | grow hbase htails ihbase ihtails =>
    have hmiddle := (hbase.valid hplace).1
    simp only [isFresh, Bool.and_eq_true]
    refine ⟨fun hall => ?_, Bool.false_ne_true.elim⟩
    obtain ⟨⟨hfresh, -⟩, htail⟩ := hall
    exact (ihtails hmiddle).2 htail _ ((ihbase hplace).1 hfresh)
  | tailsNone => exact ⟨Bool.false_ne_true.elim, fun _ lo hleft => hleft⟩
  | tailsMore hfirst hmore ihfirst ihmore =>
    have hmiddle := (hfirst.valid hplace).1
    exact ⟨Bool.false_ne_true.elim, fun htail lo hleft =>
      (ihmore hmiddle).2 htail lo ((ihfirst hplace).2 htail lo hleft)⟩
  | adopt hread ih =>
    simp only [isTail, Bool.and_eq_true]
    refine ⟨Bool.false_ne_true.elim, fun hall lo hleft => ?_⟩
    obtain ⟨⟨hfresh, hleads⟩, hpasses⟩ := hall
    exact fills_adopt hplace ((hread.follows hplace).1 hpasses) hleft ((ih hplace).1 hfresh)
      (((hread.inOrder hplace).1 hfresh).2 hleads)
  | only _ ih => exact ⟨(ih hplace).1, Bool.false_ne_true.elim⟩

end Reads

/-! ### Tokens -/

mutual

/-- The tokens in a tree: what holds nothing else, comments apart. -/
def Tree.tokens : Tree → List Tree
  | tree@(.node symbol _ _ children) =>
    if children.isEmpty then if symbol = .kind .comment then [] else [tree]
    else Tree.tokensAmong children

/-- The tokens in these trees. -/
def Tree.tokensAmong : List Tree → List Tree
  | []            => []
  | tree :: trees => tree.tokens ++ Tree.tokensAmong trees

end

namespace Tree

variable {tree child : Tree} {trees : List Tree}

lemma tokensAmong_eq (trees : List Tree) : tokensAmong trees = trees.flatMap tokens := by
  induction trees with
  | nil                => rw [tokensAmong, List.flatMap_nil]
  | cons tree trees ih => rw [tokensAmong, ih, List.flatMap_cons]

lemma tokens_eq_singleton (hchildren : tree.children = []) (hcomment : tree.isKind .comment = false) :
    tree.tokens = [tree] := by
  obtain ⟨symbol, role, span, children⟩ := tree
  cases hchildren
  rw [tokens, if_pos List.isEmpty_nil, if_neg (by simpa [isKind] using hcomment)]

lemma tokens_eq_nil (hchildren : tree.children = []) (hcomment : tree.isKind .comment) :
    tree.tokens = [] := by
  obtain ⟨symbol, role, span, children⟩ := tree
  cases hchildren
  obtain rfl : symbol = .kind .comment := isKind_iff.mp hcomment
  rw [tokens, if_pos List.isEmpty_nil, if_pos rfl]

lemma tokens_eq_flatMap (hchildren : tree.children ≠ []) :
    tree.tokens = tree.children.flatMap tokens := by
  obtain ⟨symbol, role, span, children⟩ := tree
  rw [tokens, if_neg (by simpa using hchildren), tokensAmong_eq, children_node]

/-- Tokens are nodes. -/
lemma mem_nodes_of_mem_tokens {token : Tree} (h : token ∈ tree.tokens) : token ∈ tree.nodes := by
  induction tree using ofChildren with
  | h tree ih =>
    by_cases hchildren : tree.children = []
    · rcases hcomment : tree.isKind .comment with _ | _
      · rw [tokens_eq_singleton hchildren hcomment, List.mem_singleton] at h
        exact h ▸ mem_nodes_self tree
      · rw [tokens_eq_nil hchildren hcomment] at h
        cases h
    · rw [tokens_eq_flatMap hchildren] at h
      obtain ⟨child, hchild, h⟩ := List.mem_flatMap.mp h
      exact mem_nodes_iff.mpr (.inr ⟨child, hchild, ih child hchild h⟩)

/-- The comments that are put among trees are no tokens. -/
lemma flatMap_tokens_withCommentsAmong {cursor stop : Nat}
    (h : ∀ tree ∈ trees, (tree.withComments source).tokens = tree.tokens) :
    (withCommentsAmong source cursor stop trees).flatMap tokens = trees.flatMap tokens := by
  have hcomments (start stop : Nat) : (commentsBetween source start stop).flatMap tokens = [] := by
    rw [List.flatMap_eq_nil_iff]
    intro comment hmem
    have hcomment := isComment_of_mem_commentsBetween comment hmem
    exact tokens_eq_nil hcomment.2.2 hcomment.isKind
  induction trees generalizing cursor with
  | nil => rw [withCommentsAmong, hcomments, List.flatMap_nil]
  | cons tree trees ih =>
    obtain ⟨htree, htrees⟩ := List.forall_mem_cons.mp h
    rw [withCommentsAmong, List.flatMap_append, hcomments, List.nil_append, List.flatMap_cons,
      htree, ih htrees, List.flatMap_cons]

@[simp] lemma tokens_withComments (tree : Tree) :
    (tree.withComments source).tokens = tree.tokens := by
  induction tree using ofChildren with
  | h tree ih =>
    rcases hchildren : tree.children with _ | ⟨child, children⟩
    · rw [withComments_eq_self hchildren]
    · have hne : tree.children ≠ [] := by simp [hchildren]
      rw [withComments_eq hne, tokens_eq_flatMap hne, tokens_eq_flatMap, children_node,
        flatMap_tokens_withCommentsAmong ih]
      rw [children_node, hchildren, withCommentsAmong]
      simp

/-- What fills each of some trees fills them together. -/
lemma filled_flatMap {f : Tree → List Tree} (h : Filled source lo hi trees)
    (hf : ∀ tree ∈ trees, IsBoundary source tree.start → IsBoundary source tree.stop →
      tree.start ≤ tree.stop → Filled source tree.start tree.stop (f tree)) :
    Filled source lo hi (trees.flatMap f) := by
  induction trees generalizing lo with
  | nil => exact h
  | cons tree trees ih =>
    obtain ⟨hskipped, hle, hrest⟩ := h
    obtain ⟨htree, htrees⟩ := List.forall_mem_cons.mp hf
    rw [List.flatMap_cons]
    exact ((htree hskipped.stop hrest.isBoundary_start hle).of_skipped hskipped).append
      (ih hrest htrees)

/-- A node is filled by its tokens. -/
lemma filled_tokens (hdense : tree.Every (Dense source)) (hbuilt : tree.Every (Built source))
    (hstart : IsBoundary source tree.start) (hstop : IsBoundary source tree.stop)
    (hle : tree.start ≤ tree.stop) : Filled source tree.start tree.stop tree.tokens := by
  induction tree using ofChildren with
  | h tree ih =>
    by_cases hchildren : tree.children = []
    · rw [tokens_eq_singleton hchildren hbuilt.self.not_isComment]
      exact ⟨.refl hstart, hle, .refl hstop⟩
    · rw [tokens_eq_flatMap hchildren]
      exact filled_flatMap (hdense.self hchildren) fun child hchild =>
        ih child hchild (hdense.of_child hchild) (hbuilt.of_child hchild)

lemma IsComment.eq_of_mem_nodes {node : Tree} (h : tree.IsComment) (hnode : node ∈ tree.nodes) :
    node = tree := by
  rw [mem_nodes_iff, h.2.2] at hnode
  exact hnode.resolve_right fun ⟨_, hmem, _⟩ => nomatch hmem

/-- The nodes of a tree with comments are comments and those of the tree without them. -/
lemma mem_nodes_withComments {node : Tree} (h : node ∈ (tree.withComments source).nodes) :
    node.IsComment ∨ ∃ bare ∈ tree.nodes, node = bare.withComments source := by
  induction tree using ofChildren with
  | h tree ih =>
    rcases mem_nodes_iff.mp h with rfl | ⟨child, hchild, hnode⟩
    · exact .inr ⟨tree, mem_nodes_self tree, rfl⟩
    rcases hchildren : tree.children with _ | _
    · rw [withComments_eq_self hchildren, hchildren] at hchild
      cases hchild
    rw [withComments_eq (by simp [hchildren]), children_node] at hchild
    rcases mem_withCommentsAmong hchild with hcomment | ⟨other, hother, rfl⟩
    · obtain rfl := hcomment.eq_of_mem_nodes hnode
      exact .inl hcomment
    · refine (ih other hother hnode).imp_right ?_
      rintro ⟨bare, hbare, rfl⟩
      exact ⟨bare, mem_nodes_iff.mpr (.inr ⟨other, hother, hbare⟩), rfl⟩

/-- A name holds nothing else. -/
lemma Parsed.children_eq_nil {kind : Kind} (h : tree.Parsed source) (hkind : kind ∈ nameKinds)
    (htree : tree.isKind kind) : tree.children = [] := by
  rcases h with hcomment | ⟨bare, hbare, rfl⟩
  · exact hcomment.2.2
  have hcheck : allRules fun rule => rule.makers.all fun part => match part with
      | .node given _ | .adopt given _ _ => !nameKinds.contains given
      | _                                => true := by
    decide +kernel
  rw [isKind, symbol_withComments] at htree
  have hnone : bare.children = [] := by
    cases hbare.self with
    | token | leaf | fragment => rfl
    | node _ hrule _ | adopt _ hrule _ =>
      have := hrule.check hcheck
      simp_all
  rw [withComments_eq_self hnone, hnone]

end Tree

/-- A node of a parsed module is its tokens and nothing else but white space and comments. -/
theorem parse_tokens {tree child node : Tree} (h : parse source = .ok tree)
    (hchild : child ∈ tree.children) (hnode : node ∈ child.nodes)
    (hcomment : node.isKind .comment = false) :
    Tree.Filled source node.start node.stop node.tokens := by
  have hnested := ((parse_wellFormed h).nested.of_child hchild).of_mem hnode
  unfold parse at h
  split at h
  next root rest later hread =>
    cases h
    have hplace := Place.first_valid source
    have hbuilt := (read_reads hread).built hplace (List.forall_mem_nil _) (List.forall_mem_nil _)
      root (List.mem_cons_self ..)
    cases read_reads hread with | ref hprogram =>
    cases hprogram with | node hrules =>
    have hdense := ((hrules.fills hplace).1 rfl).dense
    have hnot : ¬ node.IsComment := fun h => by simp [h.isKind] at hcomment
    rcases Tree.mem_withCommentsAmong hchild with hcomment' | ⟨other, hother, rfl⟩
    · obtain rfl := hcomment'.eq_of_mem_nodes hnode
      exact absurd hcomment' hnot
    rcases Tree.mem_nodes_withComments hnode with hcomment' | ⟨bare, hbare, rfl⟩
    · exact absurd hcomment' hnot
    rw [Tree.tokens_withComments, Tree.start_withComments, Tree.stop_withComments]
    have hself := hnested.self
    have hstart := hself.start
    have hstop := hself.stop
    have hle := hself.le
    rw [Tree.start_withComments] at hstart hle
    rw [Tree.stop_withComments] at hstop hle
    exact Tree.filled_tokens ((hdense other hother).of_mem hbare)
      ((hbuilt.of_child hother).of_mem hbare) hstart hstop hle
  all_goals cases h

end Stencil.TypeScript
