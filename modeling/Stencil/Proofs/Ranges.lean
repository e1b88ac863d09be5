import Stencil.Proofs.Edits
import Stencil.Proofs.Parse
import Stencil.Transpile

/-!
# The ranges that erasing takes out

`ownRanges` lists the ranges of a source that a node takes out by itself, `exportRanges` those of an
export statement of a module or a namespace. Some of them do not follow the nodes of the tree, such
as the rest of an assertion after its value or the head of a namespace. Still, the ranges of all
nodes of a sound tree are pairwise nested or disjoint (`moduleRanges_nestedOrDisjoint`).
-/

namespace Stencil.Erasure

open Text
open TypeScript (Tree Kind Span)

/-! ### Ranges -/

/-- The words and marks among the children of a node that are blanked. -/
def keywords : Kind → List String
  | .nonNullExpression | .variableDeclarator    => ["!"]
  | .requiredParameter | .optionalParameter     => ["?", "readonly"]
  | .publicFieldDefinition                      => ["?", "!", "readonly"]
  | .methodDefinition                           => ["?"]
  | .abstractClassDeclaration                   => ["abstract"]
  | _                                           => []

/-- The ranges of the children that are one of these tokens. -/
def keywordRanges (texts : List String) (children : List Tree) : List Span :=
  (children.filter fun child => texts.any fun text => child.isToken text).map Tree.span

/-- The ranges of `this` parameters, each with the comma right after it. -/
def thisRanges : List Tree → List Span
  | []            => []
  | tree :: trees =>
    if isThisParameter tree then
      ⟨tree.start, ((trees.head?.filter (Tree.isToken ",")).getD tree).stop⟩ :: thisRanges trees
    else thisRanges trees

/-- Whether a tree separates the members of a class. -/
def isSeparator (tree : Tree) : Bool := tree.isToken ";" || tree.isToken ","

/-- The ranges of the separators right after the members that are dropped. -/
def separatorRanges (dropped : Tree → Bool) : List Tree → List Span
  | []            => []
  | tree :: trees =>
    if dropped tree then
      ((trees.head?.filter isSeparator).toList.map Tree.span) ++ separatorRanges dropped trees
    else separatorRanges dropped trees

/-- The range of a return type whose line feeds are put behind the arrow. -/
def returnTypeRanges (source : List Char) (arrow : Tree) : List Span :=
  match arrow.child? .returnType, arrow.token? "=>" with
  | some type, some _ => if (lineFeeds (type.chars source)).isEmpty then [] else [type.span]
  | _, _              => []

/-- The range after the first part of an assertion. -/
def assertionRanges (tree : Tree) : List Span :=
  tree.namedChildren.head?.toList.map fun value => ⟨value.stop, tree.stop⟩

/-- The range that an export statement of a module or a namespace takes out. -/
def exportRanges (source : List Char) (statement : Tree) : List Span :=
  if statement.isKind .exportStatement then
    match ExportForm.classify source statement with
    | .ok .typeOnly               => [statement.span]
    | .ok (.list _)               => [statement.span]
    | .ok (.declaration _)        => (statement.token? "export").toList.map Tree.span
    | .ok (.defaultDeclaration _) => [⟨statement.start, defaultEnd statement⟩]
    | .ok .defaultValue           => [⟨statement.start, defaultEnd statement⟩]
    | .error _                    => []
  else []

/-- The range that a part of the body of a namespace takes out: the closing brace, and what an
export statement takes out. -/
def blockRanges (source : List Char) (tree : Tree) : List Span :=
  if tree.isToken "\x7d" then [tree.span] else exportRanges source tree

/-- The ranges of a namespace: its head with the opening brace and those of its body, or all of it
when it has no body. -/
def namespaceRanges (source : List Char) (tree : Tree) : List Span :=
  match tree.child? .name, tree.child? .body with
  | some _, some body =>
    ⟨tree.start, body.start + 1⟩ :: body.children.flatMap (blockRanges source)
  | _, _ => [tree.span]

/-- The ranges of a node that is kept but for some words and marks. -/
def markRanges (source : List Char) (tree : Tree) : List Span :=
  match tree.symbol with
  | .kind .classBody        => separatorRanges isErasedMember tree.children
  | .kind .formalParameters => thisRanges tree.children
  | .kind .arrowFunction    => returnTypeRanges source tree
  | .kind kind              => keywordRanges (keywords kind) tree.children
  | .token _                => []

/-- The ranges that a node takes out by itself. -/
def ownRanges (source : List Char) (tree : Tree) : List Span :=
  if isErasedMember tree || isErased tree || tree.isKind .enumDeclaration then [tree.span]
  else if isNamespace tree then namespaceRanges source tree
  else if isAssertion tree then assertionRanges tree
  else markRanges source tree

/-- The ranges that are taken out of a module. -/
def moduleRanges (source : List Char) (tree : Tree) : List Span :=
  tree.nodes.flatMap (ownRanges source) ++ tree.children.flatMap (exportRanges source)

/-! ### Ranges in a tree -/

/-- Whether one range lies in the other, or both have no byte in common. -/
def NestedOrDisjoint (a b : Span) : Prop :=
  (Edit.blank a.start a.stop).NestedOrDisjoint (.blank b.start b.stop)

lemma nestedOrDisjoint_iff {a b : Span} :
    NestedOrDisjoint a b ↔ a.stop ≤ b.start ∨ b.stop ≤ a.start ∨
      (a.start ≤ b.start ∧ b.stop ≤ a.stop) ∨ (b.start ≤ a.start ∧ a.stop ≤ b.stop) := Iff.rfl

lemma NestedOrDisjoint.symm {a b : Span} (h : NestedOrDisjoint a b) : NestedOrDisjoint b a :=
  Edit.NestedOrDisjoint.symm h

lemma NestedOrDisjoint.refl (a : Span) : NestedOrDisjoint a a := Edit.NestedOrDisjoint.refl _

/-- The range of one byte is nested in or disjoint from every range. -/
lemma NestedOrDisjoint.of_last_byte (stop : Nat) (b : Span) :
    NestedOrDisjoint ⟨stop - 1, stop⟩ b := by
  rw [nestedOrDisjoint_iff]
  dsimp only
  omega

/-- Whether ranges are pairwise nested or disjoint. -/
def Laminar (ranges : List Span) : Prop := ∀ a ∈ ranges, ∀ b ∈ ranges, NestedOrDisjoint a b

lemma Laminar.nil : Laminar [] := nofun

lemma Laminar.singleton (range : Span) : Laminar [range] := by
  intro a ha b hb
  rw [List.mem_singleton.mp ha, List.mem_singleton.mp hb]
  exact .refl range

lemma Laminar.of_option (range? : Option Tree) (f : Tree → Span) :
    Laminar (range?.toList.map f) := by
  cases range? with
  | none      => exact .nil
  | some tree => exact .singleton (f tree)

lemma Laminar.of_pairwise {ranges : List Span} (h : ranges.Pairwise NestedOrDisjoint) :
    Laminar ranges :=
  fun _ ha _ hb => h.forall_of_forall_of_flip (fun a _ => .refl a) (h.imp .symm) ha hb

/-- Whether a range lies in a tree and does not run backwards. -/
structure Within (tree : Tree) (range : Span) : Prop where
  start : tree.start ≤ range.start
  le : range.start ≤ range.stop
  stop : range.stop ≤ tree.stop

/-- The offsets where a tree or one of its children begins or ends. -/
inductive IsCut (tree : Tree) : Nat → Prop where
  | start : IsCut tree tree.start
  | stop : IsCut tree tree.stop
  | childStart {child : Tree} (h : child ∈ tree.children) : IsCut tree child.start
  | childStop {child : Tree} (h : child ∈ tree.children) : IsCut tree child.stop

/-- Whether a range begins and ends at cuts of a tree. -/
structure Aligned (tree : Tree) (range : Span) : Prop where
  start : IsCut tree range.start
  le : range.start ≤ range.stop
  stop : IsCut tree range.stop

variable {lo hi : Nat} {trees : List Tree} {tree child : Tree} {range other : Span}

lemma Within.span (h : tree.start ≤ tree.stop) : Within tree tree.span :=
  ⟨Nat.le_refl _, h, Nat.le_refl _⟩

section Nested

variable {source : List Char} (htree : tree.Nested source)
include htree

lemma IsCut.bounds {offset : Nat} (h : IsCut tree offset) :
    tree.start ≤ offset ∧ offset ≤ tree.stop := by
  have := htree.le
  cases h with
  | start => omega
  | stop => omega
  | childStart hmem | childStop hmem =>
    have := htree.ordered.mem hmem
    omega

/-- A cut lies inside no child. -/
lemma IsCut.outside {offset : Nat} (h : IsCut tree offset) (hchild : child ∈ tree.children) :
    offset ≤ child.start ∨ child.stop ≤ offset := by
  have hspan := htree.ordered.mem hchild
  cases h with
  | start => exact .inl hspan.1
  | stop => exact .inr hspan.2.2
  | childStart hmem | childStop hmem =>
    have := htree.ordered.mem hmem
    rcases htree.ordered.apart hmem hchild with rfl | hle | hle <;> omega

lemma Aligned.within (h : Aligned tree range) : Within tree range :=
  ⟨(h.start.bounds htree).1, h.le, (h.stop.bounds htree).2⟩

lemma Aligned.span : Aligned tree tree.span := ⟨.start, htree.le, .stop⟩

lemma Aligned.of_child (h : child ∈ tree.children) : Aligned tree child.span :=
  ⟨.childStart h, (htree.ordered.mem h).2.1, .childStop h⟩

/-- A range between cuts is nested in or disjoint from those in a child. -/
lemma Aligned.nestedOrDisjoint (h : Aligned tree range) (hchild : child ∈ tree.children)
    (hother : Within child other) : NestedOrDisjoint range other := by
  have := h.start.outside htree hchild
  have := h.stop.outside htree hchild
  obtain ⟨_, _, _⟩ := hother
  rw [nestedOrDisjoint_iff]
  omega

end Nested

/-- Ranges in two children are nested or disjoint, unless they are in the same child. -/
lemma NestedOrDisjoint.of_ordered (h : Tree.Ordered lo hi trees) {a b : Tree} (ha : a ∈ trees)
    (hb : b ∈ trees) (hrange : Within a range) (hother : Within b other) :
    a = b ∨ NestedOrDisjoint range other := by
  refine (h.apart ha hb).imp_right fun hapart => ?_
  obtain ⟨_, _, _⟩ := hrange
  obtain ⟨_, _, _⟩ := hother
  rw [nestedOrDisjoint_iff]
  omega

/-! ### Lists of children -/

lemma mem_keywordRanges {texts : List String} :
    range ∈ keywordRanges texts trees ↔
      ∃ child ∈ trees, (∃ text ∈ texts, child.isToken text) ∧ child.span = range := by
  simp [keywordRanges, and_assoc]

/-- A separator is taken out when it comes right after a member that is dropped. -/
lemma exists_of_mem_separatorRanges {dropped : Tree → Bool}
    (h : range ∈ separatorRanges dropped trees) :
    ∃ first member separator last, trees = first ++ member :: separator :: last ∧
      dropped member ∧ isSeparator separator ∧ separator.span = range := by
  induction trees with
  | nil => cases h
  | cons tree trees ih =>
    have hlater (h : range ∈ separatorRanges dropped trees) : ∃ first member separator last,
        tree :: trees = first ++ member :: separator :: last ∧ dropped member ∧
          isSeparator separator ∧ separator.span = range := by
      obtain ⟨first, member, separator, last, rfl, hrest⟩ := ih h
      exact ⟨tree :: first, member, separator, last, rfl, hrest⟩
    rw [separatorRanges] at h
    split at h
    next hdropped =>
      rcases List.mem_append.mp h with h | h
      · obtain ⟨separator, hseparator, heq⟩ := List.mem_map.mp h
        obtain ⟨hhead, hsome⟩ := Option.filter_eq_some_iff.mp (Option.mem_toList.mp hseparator)
        obtain ⟨last, rfl⟩ := List.head?_eq_some_iff.mp hhead
        exact ⟨[], tree, separator, last, rfl, hdropped, hsome, heq⟩
      · exact hlater h
    next => exact hlater h

lemma mem_separatorRanges {dropped : Tree → Bool} (h : range ∈ separatorRanges dropped trees) :
    ∃ child ∈ trees, child.span = range := by
  obtain ⟨first, member, separator, last, rfl, -, -, heq⟩ := exists_of_mem_separatorRanges h
  exact ⟨separator, by simp, heq⟩

/-- The ranges of `this` parameters begin and end at parameters or commas. -/
lemma thisRanges_isCut (hsub : trees ⊆ tree.children) (h : range ∈ thisRanges trees) :
    IsCut tree range.start ∧ IsCut tree range.stop := by
  induction trees with
  | nil => cases h
  | cons parameter trees ih =>
    obtain ⟨hparameter, htrees⟩ := List.cons_subset.mp hsub
    rw [thisRanges] at h
    split at h
    · rcases List.mem_cons.mp h with rfl | h
      · refine ⟨.childStart hparameter, ?_⟩
        rcases hnext : trees.head?.filter (Tree.isToken ",") with _ | next
        · exact .childStop hparameter
        · have hhead := (Option.filter_eq_some_iff.mp hnext).1
          exact .childStop (htrees (List.mem_of_head? hhead))
      · exact ih htrees h
    · exact ih htrees h

lemma isThisParameter_token {text : String} (h : tree.isToken text) :
    isThisParameter tree = false := by
  rw [Tree.isToken_iff] at h
  simp [isThisParameter, Tree.isKind, h]

lemma thisRanges_bounds (h : Tree.Ordered lo hi trees) (hrange : range ∈ thisRanges trees) :
    lo ≤ range.start ∧ range.start ≤ range.stop ∧ range.stop ≤ hi := by
  induction trees generalizing lo with
  | nil => cases hrange
  | cons tree trees ih =>
    obtain ⟨hstart, hspan, htrees⟩ := h
    have ih (hrange : range ∈ thisRanges trees) := ih htrees hrange
    rw [thisRanges] at hrange
    split at hrange
    · rcases List.mem_cons.mp hrange with rfl | hrange
      · rcases hnext : trees.head?.filter (Tree.isToken ",") with _ | next
        · exact ⟨hstart, hspan, htrees.le⟩
        · have := htrees.mem (List.mem_of_head? (Option.filter_eq_some_iff.mp hnext).1)
          exact ⟨hstart, Nat.le_trans hspan (Nat.le_trans this.1 this.2.1), this.2.2⟩
      · exact ⟨by have := ih hrange; omega, (ih hrange).2⟩
    · exact ⟨by have := ih hrange; omega, (ih hrange).2⟩

/-- The ranges of `this` parameters stand one after another. -/
lemma thisRanges_pairwise (h : Tree.Ordered lo hi trees) :
    (thisRanges trees).Pairwise fun a b => a.stop ≤ b.start := by
  induction trees generalizing lo with
  | nil => exact .nil
  | cons tree trees ih =>
    rw [thisRanges]
    split
    · refine List.pairwise_cons.mpr ⟨fun other hother => ?_, ih h.2.2⟩
      rcases hnext : trees.head?.filter (Tree.isToken ",") with _ | next
      · exact (thisRanges_bounds h.2.2 hother).1
      · obtain ⟨hhead, hcomma⟩ := Option.filter_eq_some_iff.mp hnext
        obtain ⟨more, rfl⟩ := List.head?_eq_some_iff.mp hhead
        rw [thisRanges, if_neg (by simp [isThisParameter_token hcomma])] at hother
        exact (thisRanges_bounds h.2.2.2.2 hother).1
    · exact ih h.2.2

/-! ### The ranges of a node -/

variable {source : List Char}

/-- The ranges of a node other than a namespace begin and end at its cuts. -/
lemma ownRanges_aligned (htree : tree.Nested source) (hnamespace : isNamespace tree = false)
    (h : range ∈ ownRanges source tree) : Aligned tree range := by
  unfold ownRanges at h
  split at h
  · exact List.mem_singleton.mp h ▸ .span htree
  rw [hnamespace, if_neg Bool.false_ne_true] at h
  split at h
  · obtain ⟨value, hvalue, rfl⟩ := List.mem_map.mp h
    have hmem : value ∈ tree.children :=
      Tree.mem_children_of_mem_namedChildren (List.mem_of_head? (Option.mem_toList.mp hvalue))
    exact ⟨.childStop hmem, (htree.ordered.mem hmem).2.2, .stop⟩
  unfold markRanges at h
  split at h
  · obtain ⟨child, hmem, rfl⟩ := mem_separatorRanges h
    exact .of_child htree hmem
  · obtain ⟨hstart, hstop⟩ := thisRanges_isCut (List.Subset.refl _) h
    exact ⟨hstart, (thisRanges_bounds htree.ordered h).2.1, hstop⟩
  · unfold returnTypeRanges at h
    split at h
    · split at h
      · cases h
      · exact List.mem_singleton.mp h ▸ .of_child htree (Tree.mem_of_child? ‹_›)
    · cases h
  · obtain ⟨child, hmem, -, rfl⟩ := mem_keywordRanges.mp h
    exact .of_child htree hmem
  · cases h

/-- The range of an export statement begins and ends at its cuts. -/
lemma exportRanges_aligned (htree : tree.Nested source) (h : range ∈ exportRanges source tree) :
    Aligned tree range := by
  have hdefault : Aligned tree ⟨tree.start, defaultEnd tree⟩ := by
    unfold defaultEnd
    split
    · have hmem := Tree.mem_of_token? ‹_›
      have := htree.ordered.mem hmem
      exact ⟨.start, by dsimp only; omega, .childStop hmem⟩
    · exact ⟨.start, Nat.le_refl _, .start⟩
  unfold exportRanges at h
  split at h
  · split at h
    · exact List.mem_singleton.mp h ▸ .span htree
    · exact List.mem_singleton.mp h ▸ .span htree
    · obtain ⟨token, htoken, rfl⟩ := List.mem_map.mp h
      exact .of_child htree (Tree.mem_of_token? (Option.mem_toList.mp htoken))
    · exact List.mem_singleton.mp h ▸ hdefault
    · exact List.mem_singleton.mp h ▸ hdefault
    · cases h
  · cases h

lemma exportRanges_laminar (source : List Char) (tree : Tree) :
    Laminar (exportRanges source tree) := by
  unfold exportRanges
  split
  · split
    · exact .singleton _
    · exact .singleton _
    · exact .of_option _ _
    · exact .singleton _
    · exact .singleton _
    · exact .nil
  · exact .nil

/-- The ranges of a node other than a namespace are nested or disjoint. -/
lemma ownRanges_laminar (htree : tree.Nested source) (hnamespace : isNamespace tree = false) :
    Laminar (ownRanges source tree) := by
  have hordered := htree.ordered
  have hchildren {ranges : List Span}
      (h : ∀ range ∈ ranges, ∃ child ∈ tree.children, child.span = range) : Laminar ranges := by
    have hwithin {child : Tree} (hmem : child ∈ tree.children) : Within child child.span :=
      .span (hordered.mem hmem).2.1
    intro a ha b hb
    obtain ⟨child, hchild, rfl⟩ := h a ha
    obtain ⟨other, hother, rfl⟩ := h b hb
    rcases NestedOrDisjoint.of_ordered hordered hchild hother (hwithin hchild) (hwithin hother) with
      rfl | h
    · exact .refl _
    · exact h
  unfold ownRanges
  rw [hnamespace, if_neg Bool.false_ne_true]
  split
  · exact .singleton _
  split
  · exact .of_option _ _
  unfold markRanges
  split
  · exact hchildren fun _ => mem_separatorRanges
  · exact .of_pairwise ((thisRanges_pairwise hordered).imp .inl)
  · unfold returnTypeRanges
    split
    · split
      · exact .nil
      · exact .singleton _
    · exact .nil
  · refine hchildren fun range hrange => ?_
    obtain ⟨child, hchild, -, heq⟩ := mem_keywordRanges.mp hrange
    exact ⟨child, hchild, heq⟩
  · exact .nil

/-! ### Namespaces -/

lemma Within.trans {node : Tree} (h : Within tree node.span) (hrange : Within node range) :
    Within tree range :=
  ⟨Nat.le_trans h.start hrange.start, hrange.le, Nat.le_trans hrange.stop h.stop⟩

/-- Every node of a nested tree lies in it. -/
lemma Within.of_mem_nodes (h : tree.Every (Tree.Nested source)) {node : Tree}
    (hnode : node ∈ tree.nodes) : Within tree node.span := by
  induction tree using Tree.ofChildren with
  | h tree ih =>
    rcases Tree.mem_nodes_iff.mp hnode with rfl | ⟨child, hchild, hnode⟩
    · exact .span h.self.le
    · have := h.self.ordered.mem hchild
      exact Within.trans ⟨this.1, this.2.1, this.2.2⟩ (ih child hchild (h.of_child hchild) hnode)

lemma isNamespace_iff : isNamespace tree ↔
    tree.symbol = .kind .internalModule ∨ tree.symbol = .kind .moduleDeclaration := by
  rw [isNamespace, Bool.or_eq_true, Tree.isKind_iff, Tree.isKind_iff]

lemma isAssertion_iff : isAssertion tree ↔
    tree.symbol = .kind .asExpression ∨ tree.symbol = .kind .satisfiesExpression := by
  rw [isAssertion, Bool.or_eq_true, Tree.isKind_iff, Tree.isKind_iff]

/-- Namespaces are neither erased as a whole nor replaced. -/
lemma not_isErased_of_isNamespace (h : isNamespace tree) :
    (isErasedMember tree || isErased tree || tree.isKind .enumDeclaration) = false := by
  rcases isNamespace_iff.mp h with h | h <;>
    simp [isErasedMember, isTypeSyntax, typeKinds, isErased, Tree.isKind, h]

lemma not_isArrow_of_isNamespace (h : isNamespace tree) : ¬ tree.isKind .arrowFunction := by
  rcases isNamespace_iff.mp h with h | h <;> simp [Tree.isKind, h]

lemma not_isNamespace_of_isAssertion (h : isAssertion tree) : isNamespace tree = false := by
  rcases isAssertion_iff.mp h with h | h <;> simp [isNamespace, Tree.isKind, h]

lemma ownRanges_of_isNamespace (h : isNamespace tree) :
    ownRanges source tree = namespaceRanges source tree := by
  rw [ownRanges, not_isErased_of_isNamespace h, if_neg Bool.false_ne_true, if_pos h]

lemma ownRanges_eq_assertionRanges (h : isAssertion tree) :
    ownRanges source tree = assertionRanges tree := by
  unfold ownRanges
  rw [if_neg, if_neg, if_pos h]
  · simp [not_isNamespace_of_isAssertion h]
  · rcases isAssertion_iff.mp h with h | h <;>
      simp [isErasedMember, isTypeSyntax, typeKinds, isErased, Tree.isKind, h]

/-- The kinds of nodes that may take out more than words and marks. -/
def takingKinds : List Kind :=
  typeKinds ++ [.publicFieldDefinition, .hashBangLine, .exportStatement, .enumDeclaration,
    .internalModule, .moduleDeclaration, .asExpression, .satisfiesExpression]

lemma ownRanges_eq_markRanges (h : ∀ kind ∈ takingKinds, tree.isKind kind = false) :
    ownRanges source tree = markRanges source tree := by
  simp only [takingKinds, List.forall_mem_append, List.forall_mem_cons] at h
  obtain ⟨htypes, hfield, hhash, hexport, henum, hinternal, hmodule, has, hsatisfies, -⟩ := h
  have htype : isTypeSyntax tree = false := List.any_eq_false.mpr fun kind hkind => by
    simp [htypes kind hkind]
  simp [ownRanges, isErasedMember, isErased, isNamespace, isAssertion, *]

/-- Modules, blocks and comments take nothing out by themselves. -/
lemma ownRanges_eq_nil {kind : Kind} (hkind : kind ∈ [.program, .statementBlock, .comment])
    (h : tree.isKind kind) : ownRanges source tree = [] := by
  rw [Tree.isKind_iff] at h
  simp only [List.mem_cons, List.not_mem_nil, or_false] at hkind
  rw [ownRanges_eq_markRanges] <;> rcases hkind with rfl | rfl | rfl <;>
    simp [takingKinds, typeKinds, markRanges, Tree.isKind, h, keywords, keywordRanges]

lemma ownRanges_exportStatement (h : tree.isKind .exportStatement) :
    ∀ range ∈ ownRanges source tree, range = tree.span := by
  rw [Tree.isKind_iff] at h
  unfold ownRanges
  split
  · simp
  · simp [isNamespace, isAssertion, markRanges, Tree.isKind, h, keywords, keywordRanges]

lemma ownRanges_token {text : String} (h : tree.isToken text) : ownRanges source tree = [] := by
  rw [Tree.isToken_iff] at h
  rw [ownRanges_eq_markRanges (by simp [Tree.isKind, h]), markRanges, h]

lemma isKind_of_mem_exportRanges (h : range ∈ exportRanges source tree) :
    tree.isKind .exportStatement := by
  unfold exportRanges at h
  split at h
  · assumption
  · cases h

lemma exportRanges_subset : exportRanges source tree ⊆ blockRanges source tree := by
  intro range h
  have hkind := isKind_of_mem_exportRanges h
  rw [Tree.isKind_iff] at hkind
  rwa [blockRanges, if_neg (by simp [Tree.isToken, hkind])]

lemma blockRanges_opening (h : tree.isToken "\x7b") : blockRanges source tree = [] := by
  rw [Tree.isToken_iff] at h
  simp [blockRanges, exportRanges, Tree.isToken, Tree.isKind, h]

lemma blockRanges_aligned (htree : tree.Nested source) (h : range ∈ blockRanges source tree) :
    Aligned tree range := by
  unfold blockRanges at h
  split at h
  · exact List.mem_singleton.mp h ▸ .span htree
  · exact exportRanges_aligned htree h

lemma blockRanges_laminar (source : List Char) (tree : Tree) :
    Laminar (blockRanges source tree) := by
  unfold blockRanges
  split
  · exact .singleton _
  · exact exportRanges_laminar source tree

/-- The ranges of a namespace: all of it, its head or what the parts of its body take out. -/
lemma mem_namespaceRanges (h : range ∈ namespaceRanges source tree) :
    range = tree.span ∨ ∃ body, tree.child? .body = some body ∧
      (range = ⟨tree.start, body.start + 1⟩ ∨
        ∃ child ∈ body.children, range ∈ blockRanges source child) := by
  unfold namespaceRanges at h
  split at h
  · simp only [List.mem_cons, List.mem_flatMap] at h
    exact .inr ⟨_, ‹_›, h⟩
  · exact .inl (List.mem_singleton.mp h)

lemma exists_endingKind (h : isNamespace tree) :
    ∃ kind ∈ TypeScript.endingKinds, tree.isKind kind := by
  rw [isNamespace, Bool.or_eq_true] at h
  rcases h with h | h
  · exact ⟨.internalModule, by simp [TypeScript.endingKinds], h⟩
  · exact ⟨.moduleDeclaration, by simp [TypeScript.endingKinds], h⟩

section Sound

variable (htree : tree.Sound source)
include htree

lemma blockRanges_within (hchild : child ∈ tree.children)
    (h : range ∈ blockRanges source child) : Within child range :=
  have hnested := (htree.of_child hchild).nested.self
  (blockRanges_aligned hnested h).within hnested

lemma ownRanges_within (h : range ∈ ownRanges source tree) : Within tree range := by
  rcases hnamespace : isNamespace tree with _ | _
  · exact (ownRanges_aligned htree.nested.self hnamespace h).within htree.nested.self
  rw [ownRanges_of_isNamespace hnamespace] at h
  rcases mem_namespaceRanges h with rfl | ⟨body, hbody, h⟩
  · exact .span htree.nested.self.le
  have hmem := Tree.mem_of_child? hbody
  have hin := htree.ordered.mem hmem
  obtain ⟨-, opening, rest, -, -, -, hrest⟩ :=
    htree.block_of_child? (exists_endingKind hnamespace) hbody
  have := hrest.le
  rcases h with rfl | ⟨part, hpart, h⟩
  · constructor <;> dsimp only <;> omega
  · have hbody := (htree.of_child hmem).ordered.mem hpart
    have := blockRanges_within (htree.of_child hmem) hpart h
    exact ⟨by have := this.start; omega, this.le, by have := this.stop; omega⟩

end Sound

/-- The ranges of all nodes of a sound tree lie in it. -/
lemma Within.of_mem_ownRanges (htree : tree.Sound source) {node : Tree} (hnode : node ∈ tree.nodes)
    (h : range ∈ ownRanges source node) : Within tree range :=
  .trans (.of_mem_nodes htree.nested hnode) (ownRanges_within (htree.of_mem hnode) h)

lemma le_of_mem_moduleRanges (htree : tree.Sound source) (h : range ∈ moduleRanges source tree) :
    range.start ≤ range.stop := by
  rcases List.mem_append.mp h with h | h
  · obtain ⟨node, hnode, h⟩ := List.mem_flatMap.mp h
    exact (ownRanges_within (htree.of_mem hnode) h).le
  · obtain ⟨statement, hstatement, h⟩ := List.mem_flatMap.mp h
    exact (blockRanges_within htree hstatement (exportRanges_subset h)).le

/-- What a part of a body takes out is nested in or disjoint from what its nodes take out. -/
lemma blockRanges_below (htree : tree.Sound source) (hrange : range ∈ blockRanges source tree)
    {node : Tree} (hnode : node ∈ tree.nodes) (hother : other ∈ ownRanges source node) :
    NestedOrDisjoint range other := by
  have haligned := blockRanges_aligned htree.nested.self hrange
  rcases Tree.mem_nodes_iff.mp hnode with rfl | ⟨child, hchild, hnode⟩
  · unfold blockRanges at hrange
    split at hrange
    next htoken =>
      rw [ownRanges_token htoken] at hother
      cases hother
    next =>
      rw [ownRanges_exportStatement (isKind_of_mem_exportRanges hrange) other hother]
      have hwithin := haligned.within htree.nested.self
      exact .inr (.inr (.inr ⟨hwithin.start, hwithin.stop⟩))
  · exact haligned.nestedOrDisjoint htree.nested.self hchild
      (.of_mem_ownRanges (htree.of_child hchild) hnode hother)

/-- What a part of a body takes out is nested in or disjoint from what the nodes in the body take
out. -/
lemma blockRanges_beside (htree : tree.Sound source) {part : Tree} (hpart : part ∈ tree.children)
    (hrange : range ∈ blockRanges source part) (hchild : child ∈ tree.children) {node : Tree}
    (hnode : node ∈ child.nodes) (hother : other ∈ ownRanges source node) :
    NestedOrDisjoint range other := by
  rcases NestedOrDisjoint.of_ordered htree.ordered hpart hchild
    (blockRanges_within htree hpart hrange)
    (.of_mem_ownRanges (htree.of_child hchild) hnode hother) with rfl | h
  · exact blockRanges_below (htree.of_child hpart) hrange hnode hother
  · exact h

/-- What a namespace takes out is nested in or disjoint from what the nodes in it take out. -/
lemma namespaceRanges_below (htree : tree.Sound source) (hnamespace : isNamespace tree)
    (hrange : range ∈ namespaceRanges source tree) (hchild : child ∈ tree.children) {node : Tree}
    (hnode : node ∈ child.nodes) (hother : other ∈ ownRanges source node) :
    NestedOrDisjoint range other := by
  have hin : Within child other := .of_mem_ownRanges (htree.of_child hchild) hnode hother
  have hspan := htree.ordered.mem hchild
  rcases mem_namespaceRanges hrange with rfl | ⟨body, hbody, h⟩
  · exact (Aligned.span htree.nested.self).nestedOrDisjoint htree.nested.self hchild hin
  have hmem := Tree.mem_of_child? hbody
  have hsound := htree.of_child hmem
  obtain ⟨hblock, opening, rest, hchildren, -, hopening, hrest⟩ :=
    htree.block_of_child? (exists_endingKind hnamespace) hbody
  have hle := hrest.le
  -- the ranges in the body are found in one of its children, as a block takes nothing out
  have hinner (h : child = body) : ∃ inner ∈ body.children, node ∈ inner.nodes ∧
      Within inner other := by
    subst h
    rcases Tree.mem_nodes_iff.mp hnode with rfl | ⟨inner, hinner, hnode⟩
    · rw [ownRanges_eq_nil (by simp) hblock] at hother
      cases hother
    · exact ⟨inner, hinner, hnode, .of_mem_ownRanges (hsound.of_child hinner) hnode hother⟩
  rcases h with rfl | ⟨part, hpart, hrange⟩
  · have houtside : other.stop ≤ body.start + 1 ∨ body.start + 1 ≤ other.start := by
      have := hin.start
      have := hin.stop
      rcases htree.ordered.apart hchild hmem with heq | h | h
      · obtain ⟨inner, hinner, -, hwithin⟩ := hinner heq
        rw [hchildren] at hinner
        rcases List.mem_cons.mp hinner with rfl | hinner
        · exact .inl (by simpa [Tree.stop, hopening] using hwithin.stop)
        · exact .inr (Nat.le_trans (hrest.mem hinner).1 hwithin.start)
      · exact .inl (by omega)
      · exact .inr (by omega)
    have := hin.start
    rw [nestedOrDisjoint_iff]
    dsimp only
    omega
  · have hwithin : Within body range :=
      .trans (.of_mem_nodes hsound.nested (Tree.mem_nodes_of_mem_children hpart))
        (blockRanges_within hsound hpart hrange)
    rcases NestedOrDisjoint.of_ordered htree.ordered hmem hchild hwithin hin with rfl | h
    · obtain ⟨inner, hinner, hnode, -⟩ := hinner rfl
      exact blockRanges_beside hsound hpart hrange hinner hnode hother
    · exact h

/-! ### All ranges of a module -/

lemma blockRanges_flatMap_laminar (htree : tree.Sound source) :
    Laminar (tree.children.flatMap (blockRanges source)) := by
  intro a ha b hb
  obtain ⟨part, hpart, ha⟩ := List.mem_flatMap.mp ha
  obtain ⟨other, hother, hb⟩ := List.mem_flatMap.mp hb
  rcases NestedOrDisjoint.of_ordered htree.ordered hpart hother
    (blockRanges_within htree hpart ha) (blockRanges_within htree hother hb) with rfl | h
  · exact blockRanges_laminar source part a ha b hb
  · exact h

lemma namespaceRanges_laminar (htree : tree.Sound source) (hnamespace : isNamespace tree) :
    Laminar (namespaceRanges source tree) := by
  unfold namespaceRanges
  split
  next name body _ hbody =>
    obtain ⟨-, opening, rest, hchildren, htoken, hopening, hrest⟩ :=
      htree.block_of_child? (exists_endingKind hnamespace) hbody
    have hsound := htree.of_child (Tree.mem_of_child? hbody)
    have hopen {range : Span} (h : range ∈ body.children.flatMap (blockRanges source)) :
        body.start + 1 ≤ range.start := by
      obtain ⟨part, hpart, h⟩ := List.mem_flatMap.mp h
      have hwithin := blockRanges_within hsound hpart h
      rw [hchildren] at hpart
      rcases List.mem_cons.mp hpart with rfl | hpart
      · rw [blockRanges_opening htoken] at h
        cases h
      · exact Nat.le_trans (hrest.mem hpart).1 hwithin.start
    intro a ha b hb
    rcases List.mem_cons.mp ha with rfl | ha <;> rcases List.mem_cons.mp hb with rfl | hb
    · exact .refl _
    · exact .inl (hopen hb)
    · exact .inr (.inl (hopen ha))
    · exact blockRanges_flatMap_laminar hsound a ha b hb
  next => exact .singleton _

lemma mem_nodes_flatMap_iff {f : Tree → List Span} :
    range ∈ tree.nodes.flatMap f ↔
      range ∈ f tree ∨ ∃ child ∈ tree.children, ∃ node ∈ child.nodes, range ∈ f node := by
  rw [List.mem_flatMap]
  constructor
  · rintro ⟨node, hnode, hrange⟩
    rcases Tree.mem_nodes_iff.mp hnode with rfl | ⟨child, hchild, hnode⟩
    · exact .inl hrange
    · exact .inr ⟨child, hchild, node, hnode, hrange⟩
  · rintro (hrange | ⟨child, hchild, node, hnode, hrange⟩)
    · exact ⟨tree, Tree.mem_nodes_self tree, hrange⟩
    · exact ⟨node, Tree.mem_nodes_iff.mpr (.inr ⟨child, hchild, hnode⟩), hrange⟩

/-- The ranges that a node and those in it take out are pairwise nested or disjoint. -/
theorem ownRanges_nestedOrDisjoint (htree : tree.Sound source) :
    Laminar (tree.nodes.flatMap (ownRanges source)) := by
  induction tree using Tree.ofChildren with
  | h tree ih =>
    have hself : Laminar (ownRanges source tree) := by
      rcases hnamespace : isNamespace tree with _ | _
      · exact ownRanges_laminar htree.nested.self hnamespace
      · rw [ownRanges_of_isNamespace hnamespace]
        exact namespaceRanges_laminar htree hnamespace
    have hbelow {range : Span} (hrange : range ∈ ownRanges source tree) {child : Tree}
        (hchild : child ∈ tree.children) {node : Tree} (hnode : node ∈ child.nodes) {other : Span}
        (hother : other ∈ ownRanges source node) : NestedOrDisjoint range other := by
      rcases hnamespace : isNamespace tree with _ | _
      · exact (ownRanges_aligned htree.nested.self hnamespace hrange).nestedOrDisjoint
          htree.nested.self hchild (.of_mem_ownRanges (htree.of_child hchild) hnode hother)
      · rw [ownRanges_of_isNamespace hnamespace] at hrange
        exact namespaceRanges_below htree hnamespace hrange hchild hnode hother
    intro a ha b hb
    rcases mem_nodes_flatMap_iff.mp ha with ha | ⟨child, hchild, node, hnode, ha⟩ <;>
      rcases mem_nodes_flatMap_iff.mp hb with hb | ⟨child', hchild', other, hother, hb⟩
    · exact hself a ha b hb
    · exact hbelow ha hchild' hother hb
    · exact (hbelow hb hchild hnode ha).symm
    · have hin := htree.of_child hchild
      have hin' := htree.of_child hchild'
      rcases NestedOrDisjoint.of_ordered htree.ordered hchild hchild'
        (.of_mem_ownRanges hin hnode ha) (.of_mem_ownRanges hin' hother hb) with rfl | h
      · exact ih child hchild hin a (List.mem_flatMap.mpr ⟨node, hnode, ha⟩) b
          (List.mem_flatMap.mpr ⟨other, hother, hb⟩)
      · exact h

/-- The ranges that are taken out of a module are pairwise nested or disjoint. -/
theorem moduleRanges_nestedOrDisjoint (htree : tree.WellFormed source) :
    Laminar (moduleRanges source tree) := by
  have hsound := htree.toSound
  have hbeside {a b : Span} (ha : a ∈ tree.children.flatMap (exportRanges source))
      (hb : b ∈ tree.nodes.flatMap (ownRanges source)) : NestedOrDisjoint a b := by
    obtain ⟨statement, hstatement, ha⟩ := List.mem_flatMap.mp ha
    rcases mem_nodes_flatMap_iff.mp hb with hb | ⟨child, hchild, node, hnode, hb⟩
    · rw [ownRanges_eq_nil (by simp) htree.isProgram] at hb
      cases hb
    · exact blockRanges_beside hsound hstatement (exportRanges_subset ha) hchild hnode hb
  have hblock {a : Span} (ha : a ∈ tree.children.flatMap (exportRanges source)) :
      a ∈ tree.children.flatMap (blockRanges source) := by
    obtain ⟨statement, hstatement, ha⟩ := List.mem_flatMap.mp ha
    exact List.mem_flatMap.mpr ⟨statement, hstatement, exportRanges_subset ha⟩
  intro a ha b hb
  rcases List.mem_append.mp ha with ha | ha <;> rcases List.mem_append.mp hb with hb | hb
  · exact ownRanges_nestedOrDisjoint hsound a ha b hb
  · exact (hbeside hb ha).symm
  · exact hbeside ha hb
  · exact blockRanges_flatMap_laminar hsound a (hblock ha) b (hblock hb)

/-! ### Boundaries -/

lemma IsCut.isBoundary (htree : tree.Sound source) {offset : Nat} (h : IsCut tree offset) :
    IsBoundary source offset := by
  cases h with
  | start          => exact htree.nested.self.start
  | stop           => exact htree.nested.self.stop
  | childStart hmem => exact (htree.of_child hmem).nested.self.start
  | childStop hmem  => exact (htree.of_child hmem).nested.self.stop

/-- The ranges of a module begin and end where characters do. -/
theorem isBoundary_of_mem_moduleRanges (htree : tree.Sound source)
    (h : range ∈ moduleRanges source tree) :
    IsBoundary source range.start ∧ IsBoundary source range.stop := by
  have haligned {node : Tree} (hnode : node.Sound source) (h : Aligned node range) :
      IsBoundary source range.start ∧ IsBoundary source range.stop :=
    ⟨h.start.isBoundary hnode, h.stop.isBoundary hnode⟩
  rcases List.mem_append.mp h with h | h <;> obtain ⟨node, hnode, h⟩ := List.mem_flatMap.mp h
  · have hsound := htree.of_mem hnode
    rcases hnamespace : isNamespace node with _ | _
    · exact haligned hsound (ownRanges_aligned hsound.nested.self hnamespace h)
    rw [ownRanges_of_isNamespace hnamespace] at h
    rcases mem_namespaceRanges h with rfl | ⟨body, hbody, rfl | ⟨part, hpart, h⟩⟩
    · exact ⟨hsound.nested.self.start, hsound.nested.self.stop⟩
    · exact ⟨hsound.nested.self.start,
        hsound.isBoundary_of_child? (exists_endingKind hnamespace) hbody⟩
    · have hpartSound := (hsound.of_child (Tree.mem_of_child? hbody)).of_child hpart
      exact haligned hpartSound (blockRanges_aligned hpartSound.nested.self h)
  · have hsound := htree.of_child hnode
    exact haligned hsound (exportRanges_aligned hsound.nested.self h)

end Stencil.Erasure
