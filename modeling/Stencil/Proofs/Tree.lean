import Stencil.Proofs.Offset

/-!
# Nodes of syntax trees

`Tree.nodes` lists a tree and everything in it. A node is nested when its children stand in order
inside its span and the span begins and ends at boundaries of the source; `Tree.Every` states such a
property for all nodes of a tree.
-/

namespace Stencil.TypeScript

open Text

/-! ### Nodes -/

mutual

/-- A tree and everything in it. -/
def Tree.nodes : Tree → List Tree
  | tree@(.node _ _ _ children) => tree :: Tree.nodesAmong children

/-- These trees and everything in them. -/
def Tree.nodesAmong : List Tree → List Tree
  | []            => []
  | tree :: trees => tree.nodes ++ Tree.nodesAmong trees

end

/-- Whether all nodes of a tree have a property. -/
def Tree.Every (P : Tree → Prop) (tree : Tree) : Prop := ∀ node ∈ tree.nodes, P node

instance (P : Tree → Prop) [DecidablePred P] : DecidablePred (Tree.Every P) :=
  fun tree => inferInstanceAs (Decidable (∀ node ∈ tree.nodes, P node))

namespace Tree

variable {P : Tree → Prop} {tree child node : Tree}

@[simp] lemma symbol_node (symbol : Symbol) (role : Option Role) (span : Span)
    (children : List Tree) : (Tree.node symbol role span children).symbol = symbol := rfl

@[simp] lemma children_node (symbol : Symbol) (role : Option Role) (span : Span)
    (children : List Tree) : (Tree.node symbol role span children).children = children := rfl

@[simp] lemma start_node (symbol : Symbol) (role : Option Role) (span : Span)
    (children : List Tree) : (Tree.node symbol role span children).start = span.start := rfl

@[simp] lemma stop_node (symbol : Symbol) (role : Option Role) (span : Span)
    (children : List Tree) : (Tree.node symbol role span children).stop = span.stop := rfl

lemma mem_nodesAmong {trees : List Tree} :
    node ∈ nodesAmong trees ↔ ∃ tree ∈ trees, node ∈ tree.nodes := by
  induction trees with
  | nil               => simp [nodesAmong]
  | cons tree trees ih => simp [nodesAmong, ih]

lemma mem_nodes_iff :
    node ∈ tree.nodes ↔ node = tree ∨ ∃ child ∈ tree.children, node ∈ child.nodes := by
  cases tree
  simp [nodes, mem_nodesAmong]

lemma mem_nodes_self (tree : Tree) : tree ∈ tree.nodes :=
  mem_nodes_iff.mpr (.inl rfl)

lemma every_iff : tree.Every P ↔ P tree ∧ ∀ child ∈ tree.children, child.Every P := by
  constructor
  · intro h
    refine ⟨h tree (mem_nodes_self tree), fun child hchild node hnode => ?_⟩
    exact h node (mem_nodes_iff.mpr (.inr ⟨child, hchild, hnode⟩))
  · rintro ⟨htree, hchildren⟩ node hnode
    rcases mem_nodes_iff.mp hnode with rfl | ⟨child, hchild, hnode⟩
    · exact htree
    · exact hchildren child hchild node hnode

lemma Every.self (h : tree.Every P) : P tree := (every_iff.mp h).1

lemma Every.of_child (h : tree.Every P) (hchild : child ∈ tree.children) : child.Every P :=
  (every_iff.mp h).2 child hchild

/-- Induction on a tree: what holds of a tree when it holds of its children holds of all trees. -/
@[elab_as_elim]
lemma ofChildren {motive : Tree → Prop}
    (h : ∀ tree, (∀ child ∈ tree.children, motive child) → motive tree) (tree : Tree) :
    motive tree := by
  refine h tree fun child hchild => ?_
  have : sizeOf child < sizeOf tree := by
    cases tree
    have := List.sizeOf_lt_of_mem hchild
    simp only [Tree.node.sizeOf_spec, children_node] at *
    omega
  exact ofChildren h child
termination_by sizeOf tree

/-- Induction on a tree where the statement is used for everything in it. -/
@[elab_as_elim]
lemma ofNodes {motive : Tree → Prop}
    (h : ∀ tree, (∀ child ∈ tree.children, ∀ node ∈ child.nodes, motive node) → motive tree)
    (tree : Tree) : motive tree := by
  have hnodes (tree : Tree) : ∀ node ∈ tree.nodes, motive node := by
    induction tree using ofChildren with
    | h tree ih =>
      intro node hnode
      rcases mem_nodes_iff.mp hnode with rfl | ⟨child, hchild, hnode⟩
      · exact h node ih
      · exact ih child hchild node hnode
  exact hnodes tree tree (mem_nodes_self tree)

/-- The nodes of a node are nodes of the whole tree. -/
lemma nodes_subset (hnode : node ∈ tree.nodes) : node.nodes ⊆ tree.nodes := by
  induction tree using ofChildren with
  | h tree ih =>
    rcases mem_nodes_iff.mp hnode with rfl | ⟨child, hchild, hnode⟩
    · exact fun _ h => h
    · exact fun other hother =>
        mem_nodes_iff.mpr (.inr ⟨child, hchild, ih child hchild hnode hother⟩)

lemma Every.of_mem (h : tree.Every P) (hnode : node ∈ tree.nodes) : node.Every P :=
  fun other hother => h other (nodes_subset hnode hother)

lemma mem_nodes_of_mem_children (hchild : child ∈ tree.children) : child ∈ tree.nodes :=
  mem_nodes_iff.mpr (.inr ⟨child, hchild, mem_nodes_self child⟩)

/-- No tree is in one of its children. -/
lemma not_mem_nodes_of_mem_children (hchild : child ∈ tree.children) : tree ∉ child.nodes := by
  induction child using ofChildren generalizing tree with
  | h child ih =>
    intro hmem
    rcases mem_nodes_iff.mp hmem with rfl | ⟨inner, hinner, hmem⟩
    · exact ih tree hchild hchild hmem
    · exact ih inner hinner hinner (nodes_subset hmem (mem_nodes_of_mem_children hchild))

/-! ### Children -/

lemma mem_of_child? {role : Role} (h : tree.child? role = some child) : child ∈ tree.children :=
  List.mem_of_find?_eq_some h

lemma role_of_child? {role : Role} (h : tree.child? role = some child) :
    child.role = some role := by
  simpa using List.find?_some h

lemma mem_of_token? {text : String} (h : tree.token? text = some child) : child ∈ tree.children :=
  List.mem_of_find?_eq_some h

lemma mem_children_of_mem_namedChildren (h : child ∈ tree.namedChildren) : child ∈ tree.children :=
  (List.mem_filter.mp h).1

lemma isKind_iff {kind : Kind} : tree.isKind kind = true ↔ tree.symbol = .kind kind := by
  simp [isKind]

lemma isToken_iff {text : String} : tree.isToken text = true ↔ tree.symbol = .token text := by
  simp [isToken]

/-- Comments and tokens are the nodes without a place of their own among the parts of a node. -/
lemma isNamed_eq_false_iff :
    tree.isNamed = false ↔ tree.isKind .comment ∨ ∃ text, tree.isToken text := by
  unfold isNamed
  split
  next h => simp [isKind, h]
  next h hsymbol => simpa [isKind, isToken, hsymbol] using h
  next h => simp [isToken, h]

lemma not_isComment_of_isNamed (h : tree.isNamed) : tree.isKind .comment = false := by
  refine Bool.eq_false_iff.mpr fun hcomment => ?_
  rw [isNamed_eq_false_iff.mpr (.inl hcomment)] at h
  cases h

/-! ### Order -/

/-- Whether trees stand one after another between two places. -/
def Ordered : (lo hi : Nat) → List Tree → Prop
  | lo, hi, []            => lo ≤ hi
  | lo, hi, tree :: trees => lo ≤ tree.start ∧ tree.start ≤ tree.stop ∧ Ordered tree.stop hi trees

namespace Ordered

variable {lo mid hi : Nat} {first second trees : List Tree}

lemma le (h : Ordered lo hi trees) : lo ≤ hi := by
  induction trees generalizing lo with
  | nil => exact h
  | cons tree trees ih =>
    obtain ⟨hstart, hspan, hrest⟩ := h
    exact Nat.le_trans hstart (Nat.le_trans hspan (ih hrest))

lemma append (hfirst : Ordered lo mid first) (hsecond : Ordered mid hi second) :
    Ordered lo hi (first ++ second) := by
  induction first generalizing lo with
  | nil =>
    cases second with
    | nil      => exact Nat.le_trans hfirst hsecond
    | cons _ _ => exact ⟨Nat.le_trans hfirst hsecond.1, hsecond.2⟩
  | cons tree first ih => exact ⟨hfirst.1, hfirst.2.1, ih hfirst.2.2⟩

lemma weaken {lo' hi' : Nat} (h : Ordered lo hi trees) (hlo : lo' ≤ lo) (hhi : hi ≤ hi') :
    Ordered lo' hi' trees := by
  induction trees generalizing lo lo' with
  | nil => exact Nat.le_trans hlo (Nat.le_trans h hhi)
  | cons tree trees ih => exact ⟨Nat.le_trans hlo h.1, h.2.1, ih h.2.2 (Nat.le_refl _)⟩

lemma of_append (h : Ordered lo hi (first ++ second)) :
    ∃ mid, Ordered lo mid first ∧ Ordered mid hi second := by
  induction first generalizing lo with
  | nil => exact ⟨lo, Nat.le_refl lo, h⟩
  | cons tree first ih =>
    obtain ⟨mid, hfirst, hsecond⟩ := ih h.2.2
    exact ⟨mid, ⟨h.1, h.2.1, hfirst⟩, hsecond⟩

lemma sublist (h : Ordered lo hi trees) (hsub : first.Sublist trees) : Ordered lo hi first := by
  induction hsub generalizing lo with
  | slnil => exact h
  | cons tree _ ih => exact ih (h.2.2.weaken (Nat.le_trans h.1 h.2.1) (Nat.le_refl _))
  | cons_cons tree _ ih => exact ⟨h.1, h.2.1, ih h.2.2⟩

lemma mem (h : Ordered lo hi trees) (hmem : child ∈ trees) :
    lo ≤ child.start ∧ child.start ≤ child.stop ∧ child.stop ≤ hi := by
  induction trees generalizing lo with
  | nil => cases hmem
  | cons tree trees ih =>
    rcases List.mem_cons.mp hmem with rfl | hmem
    · exact ⟨h.1, h.2.1, h.2.2.le⟩
    · have := ih h.2.2 hmem
      exact ⟨Nat.le_trans h.1 (Nat.le_trans h.2.1 this.1), this.2⟩

/-- Of two of the trees, one ends before the other begins, unless they are the same. -/
lemma apart (h : Ordered lo hi trees) {a b : Tree} (ha : a ∈ trees) (hb : b ∈ trees) :
    a = b ∨ a.stop ≤ b.start ∨ b.stop ≤ a.start := by
  induction trees generalizing lo with
  | nil => cases ha
  | cons tree trees ih =>
    rcases List.mem_cons.mp ha with rfl | ha' <;> rcases List.mem_cons.mp hb with rfl | hb'
    · exact .inl rfl
    · exact .inr (.inl (h.2.2.mem hb').1)
    · exact .inr (.inr (h.2.2.mem ha').1)
    · exact ih h.2.2 ha' hb'

end Ordered

/-- Whether the children of a tree stand in order inside its span, and the span begins and ends at
boundaries of the source. -/
structure Nested (source : List Char) (tree : Tree) : Prop where
  start : IsBoundary source tree.start
  stop : IsBoundary source tree.stop
  ordered : Ordered tree.start tree.stop tree.children

lemma Nested.le {source : List Char} (h : tree.Nested source) : tree.start ≤ tree.stop :=
  h.ordered.le

/-! ### Roles -/

section Roles

variable {role : Role}

@[simp] lemma symbol_withRole : (tree.withRole role).symbol = tree.symbol := by cases tree; rfl

@[simp] lemma start_withRole : (tree.withRole role).start = tree.start := by cases tree; rfl

@[simp] lemma stop_withRole : (tree.withRole role).stop = tree.stop := by cases tree; rfl

@[simp] lemma children_withRole : (tree.withRole role).children = tree.children := by
  cases tree; rfl

@[simp] lemma role_withRole : (tree.withRole role).role = some role := by cases tree; rfl

lemma ordered_map_withRole {lo hi : Nat} {trees : List Tree} :
    Ordered lo hi (trees.map (withRole role)) ↔ Ordered lo hi trees := by
  induction trees generalizing lo with
  | nil                => rfl
  | cons tree trees ih => simp [Ordered, ih]

lemma every_withRole (hP : P (tree.withRole role) ↔ P tree) :
    (tree.withRole role).Every P ↔ tree.Every P := by
  rw [every_iff, every_iff, hP, children_withRole]

lemma nested_withRole {source : List Char} :
    (tree.withRole role).Nested source ↔ tree.Nested source := by
  constructor
  · rintro ⟨hstart, hstop, hordered⟩
    simp only [start_withRole, stop_withRole, children_withRole] at *
    exact ⟨hstart, hstop, hordered⟩
  · rintro ⟨hstart, hstop, hordered⟩
    constructor <;> simpa

end Roles

end Tree

end Stencil.TypeScript
