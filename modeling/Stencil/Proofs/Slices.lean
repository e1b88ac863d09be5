import Stencil.Proofs.Ranges

/-!
# Slices

The texts that the edits of a module are made of are slices of its source: nodes, the keys of enums
without their quotes, the heads of namespaces, and what stands between the references in the value
of a member. `Sliced` lists their spans, and all of them go from a boundary to a later one
(`Sliced.isSlice`).
-/

namespace Stencil.Erasure

open Text
open TypeScript (Tree Span)

variable {source : List Char} {tree : Tree} {trees : List Tree} {span : Span}

/-! ### References -/

lemma referencesAmong_eq (source : List Char) (members : List String) (trees : List Tree) :
    referencesAmong source members trees = trees.flatMap (references source members) := by
  induction trees with
  | nil               => rw [referencesAmong, List.flatMap_nil]
  | cons tree trees ih => rw [referencesAmong, ih, List.flatMap_cons]

lemma references_eq (source : List Char) (members : List String) (tree : Tree) :
    references source members tree = [tree] ∨
    references source members tree = tree.children.flatMap (references source members) := by
  obtain ⟨symbol, role, span, children⟩ := tree
  rw [references]
  split
  · exact .inl rfl
  · exact .inr (referencesAmong_eq source members children)

/-- What is found in each of some trees in order is in order. -/
lemma ordered_flatMap {f : Tree → List Tree} {lo hi : Nat} (h : Tree.Ordered lo hi trees)
    (hf : ∀ tree ∈ trees, Tree.Ordered tree.start tree.stop (f tree)) :
    Tree.Ordered lo hi (trees.flatMap f) := by
  induction trees generalizing lo with
  | nil => exact h
  | cons tree trees ih =>
    obtain ⟨hstart, -, hrest⟩ := h
    obtain ⟨htree, htrees⟩ := List.forall_mem_cons.mp hf
    rw [List.flatMap_cons]
    exact (htree.weaken hstart (Nat.le_refl _)).append (ih hrest htrees)

/-- References stand in order in a tree, and are nodes of it. -/
lemma references_ordered {members : List String} (h : tree.Every (Tree.Nested source)) :
    Tree.Ordered tree.start tree.stop (references source members tree) ∧
    ∀ node ∈ references source members tree, node ∈ tree.nodes := by
  induction tree using Tree.ofChildren with
  | h tree ih =>
    have ih (child : Tree) (hchild : child ∈ tree.children) :=
      ih child hchild (h.of_child hchild)
    rcases references_eq source members tree with heq | heq <;> rw [heq]
    · exact ⟨⟨Nat.le_refl _, h.self.le, Nat.le_refl _⟩,
        List.forall_mem_singleton.mpr (Tree.mem_nodes_self tree)⟩
    · refine ⟨ordered_flatMap h.self.ordered fun child hchild => (ih child hchild).1, ?_⟩
      intro node hnode
      obtain ⟨child, hchild, hnode⟩ := List.mem_flatMap.mp hnode
      exact Tree.mem_nodes_iff.mpr (.inr ⟨child, hchild, (ih child hchild).2 node hnode⟩)

/-- The spans before, between and after trees, from `cursor` to `stop`. -/
def gaps (stop : Nat) : (cursor : Nat) → List Tree → List Span
  | cursor, []            => [⟨cursor, stop⟩]
  | cursor, tree :: trees => ⟨cursor, tree.start⟩ :: gaps stop tree.stop trees

lemma isSlice_of_mem_gaps {cursor stop : Nat} (hcursor : IsBoundary source cursor)
    (hstop : IsBoundary source stop) (hordered : Tree.Ordered cursor stop trees)
    (hnested : ∀ tree ∈ trees, tree.Nested source) (hspan : span ∈ gaps stop cursor trees) :
    span.IsSlice source := by
  induction trees generalizing cursor with
  | nil =>
    rw [gaps, List.mem_singleton] at hspan
    rw [hspan]
    exact ⟨hcursor, hstop, hordered⟩
  | cons tree trees ih =>
    obtain ⟨hle, -, hrest⟩ := hordered
    obtain ⟨htree, hnested⟩ := List.forall_mem_cons.mp hnested
    rw [gaps, List.mem_cons] at hspan
    rcases hspan with rfl | hspan
    · exact ⟨hcursor, htree.start, hle⟩
    · exact ih htree.stop hrest hnested hspan

/-! ### Spans of slices -/

/-- The spans in the source that the texts of edits are taken from. -/
inductive Sliced (source : List Char) (tree : Tree) : Span → Prop where
  | node {node : Tree} (hnode : node ∈ tree.nodes) : Sliced source tree node.span
  | content {node : Tree} (hnode : node ∈ tree.nodes) (hkind : node.isKind .string) :
      Sliced source tree node.content
  | head {node body : Tree} (hnode : node ∈ tree.nodes) (hnamespace : isNamespace node)
      (hbody : node.child? .body = some body) : Sliced source tree ⟨node.start, body.start + 1⟩
  | gap {node : Tree} {members : List String} {span : Span} (hnode : node ∈ tree.nodes)
      (hspan : span ∈ gaps node.stop node.start (references source members node)) :
      Sliced source tree span

/-- All slices of the source of a sound tree go from a boundary to a later one. -/
theorem Sliced.isSlice (htree : tree.Sound source) (h : Sliced source tree span) :
    span.IsSlice source := by
  cases h with
  | node hnode =>
    have hnested := (htree.of_mem hnode).nested.self
    exact ⟨hnested.start, hnested.stop, hnested.le⟩
  | content hnode hkind => exact (htree.of_mem hnode).regular.self.string hkind
  | @head node body hnode hnamespace hbody =>
    have hsound := htree.of_mem hnode
    have hmem := hsound.ordered.mem (Tree.mem_of_child? hbody)
    exact ⟨hsound.nested.self.start,
      hsound.isBoundary_of_child? (exists_endingKind hnamespace) hbody,
      Nat.le_trans hmem.1 (Nat.le_succ _)⟩
  | gap hnode hspan =>
    have hnested := (htree.of_mem hnode).nested
    obtain ⟨hordered, hmem⟩ := references_ordered hnested
    exact isSlice_of_mem_gaps hnested.self.start hnested.self.stop hordered
      (fun tree htree => (hnested tree (hmem tree htree))) hspan

end Stencil.Erasure
