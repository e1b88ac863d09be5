import Stencil.Proofs.Coverage

/-!
# The edits of a module

The edits of a module blank its ranges or bring a text that it calls for (`moduleEdits_made`), they
cover all of its ranges (`moduleEdits_spans`), and they are pairwise nested or disjoint
(`moduleEdits_laminar`). All begin and end where characters do, except for those that close a
namespace: they replace the last byte of its body, which is its closing brace unless a comment comes
after the brace.
-/

namespace Stencil.Erasure

open Text
open TypeScript (Tree Kind Span)

variable {source : List Char} {tree : Tree} {edits : List Edit} {exports : Exports} {edit : Edit}

/-! ### Places of generated texts -/

/-- Whether a range is the last byte of the body of a namespace in a tree. -/
def ClosesNamespace (tree : Tree) (range : Span) : Prop :=
  ∃ node ∈ tree.nodes, isNamespace node ∧ ∃ name body, node.child? .name = some name ∧
    node.child? .body = some body ∧ range = ⟨body.stop - 1, body.stop⟩

/-- A range of one byte is nested in or disjoint from every range. -/
lemma NestedOrDisjoint.of_closing {range : Span} (h : ClosesNamespace tree range) (other : Span) :
    NestedOrDisjoint range other := by
  obtain ⟨_, _, _, _, body, _, _, rfl⟩ := h
  exact .of_last_byte body.stop other

/-- The places of edits: an edit takes out one of these ranges, inserts a text between two
characters, or closes a namespace. -/
inductive Placed (source : List Char) (tree : Tree) (ranges : List Span) (edit : Edit) : Prop where
  | range (h : rangeOf edit ∈ ranges)
  | insertion (hempty : edit.start = edit.stop) (hboundary : IsBoundary source edit.start)
  | closing (h : ClosesNamespace tree (rangeOf edit))

lemma Placed.mono {node : Tree} {ranges ranges' : List Span} (hnode : node ∈ tree.nodes)
    (hsub : ranges ⊆ ranges') (h : Placed source node ranges edit) :
    Placed source tree ranges' edit := by
  cases h with
  | range h => exact .range (hsub h)
  | insertion hempty hboundary => exact .insertion hempty hboundary
  | closing h =>
    obtain ⟨other, hother, h⟩ := h
    exact .closing ⟨other, Tree.nodes_subset hnode hother, h⟩

lemma ownRanges_arrowFunction (h : tree.isKind .arrowFunction) :
    ownRanges source tree = returnTypeRanges source tree := by
  rw [Tree.isKind_iff] at h
  rw [ownRanges_eq_markRanges (by simp [takingKinds, typeKinds, Tree.isKind, h]), markRanges, h]

/-- The assignments of properties are put after a statement or after the opening brace. -/
lemma parameterProperties_placed (htree : tree.Sound source) (hkind : tree.isKind .methodDefinition)
    (h : parameterProperties source tree = .ok edits) (hmem : edit ∈ edits) :
    edit.start = edit.stop ∧ IsBoundary source edit.start := by
  unfold parameterProperties at h
  split at h
  next parameters body hparameters hbody =>
    have hnone (h : edits = []) : edit.start = edit.stop ∧ IsBoundary source edit.start := by
      rw [h] at hmem
      cases hmem
    split at h
    · simp only [bind_eq_ok_iff] at h
      obtain ⟨text, -, h⟩ := h
      split at h
      · exact hnone (pure_eq_ok_iff.mp h).symm
      · rw [pure_eq_ok_iff] at h
        rw [← h, List.mem_singleton] at hmem
        rw [hmem]
        refine ⟨rfl, ?_⟩
        dsimp only [Edit.insert]
        split
        next call hcall =>
          have hsound := htree.of_child (Tree.mem_of_child? hbody)
          have hcall := Tree.mem_children_of_mem_namedChildren (List.mem_of_find?_eq_some hcall)
          exact (hsound.of_child hcall).nested.self.stop
        next =>
          exact htree.isBoundary_of_child?
            ⟨.methodDefinition, by simp [TypeScript.endingKinds], hkind⟩ hbody
    · cases h
      cases hmem
  next =>
    cases h
    cases hmem

/-- A text that a node calls for takes the place of one of its ranges or is inserted. -/
lemma Generates.placed (htree : tree.Sound source) (h : Generates source tree edit) :
    Placed source tree (ownRanges source tree) edit := by
  cases h with
  | enumeration hkind hedit =>
    obtain ⟨hstart, hstop⟩ := enumEdit_range hedit
    refine .range ?_
    rw [rangeOf, hstart, hstop]
    simp only [ownRanges, hkind, Bool.or_true, if_true]
    exact List.mem_singleton_self _
  | frame hnamespace hform hedit =>
    obtain ⟨hname, hbody⟩ := child?_of_present hform
    obtain ⟨name', hname⟩ := Option.isSome_iff_exists.mp hname
    simp only [namespaceFrame, List.mem_cons, List.not_mem_nil, or_false] at hedit
    rcases hedit with rfl | rfl
    · refine .range ?_
      rw [ownRanges_of_present hnamespace hform]
      exact List.mem_cons_self
    · exact .closing ⟨tree, Tree.mem_nodes_self tree, hnamespace, name', _, hname, hbody, rfl⟩
  | assignment hnamespace hform hstatement =>
    have hbody := htree.of_child (Tree.mem_of_child? (child?_of_present hform).2)
    exact .insertion rfl (hbody.of_child hstatement).nested.self.stop
  | returnType hkind hedit =>
    rw [ownRanges_arrowFunction hkind]
    rcases htype : tree.child? .returnType with _ | type
    · simp [moveReturnType, htype] at hedit
    rcases htoken : tree.token? "=>" with _ | token
    · simp [moveReturnType, htype, htoken] at hedit
    simp only [moveReturnType, returnTypeRanges, htype, htoken] at hedit ⊢
    split at hedit
    next => cases hedit
    next hfeeds =>
      rw [if_neg hfeeds]
      simp only [List.mem_cons, List.not_mem_nil, or_false] at hedit
      rcases hedit with rfl | rfl
      · exact .range (List.mem_singleton_self _)
      · exact .insertion rfl (htree.of_child (Tree.mem_of_token? htoken)).nested.self.stop
  | properties hkind hedits hedit =>
    obtain ⟨hempty, hboundary⟩ := parameterProperties_placed htree hkind hedits hedit
    exact .insertion hempty hboundary

/-! ### The edits of a module -/

/-- The edits with a text of their own that a module calls for. -/
inductive ModuleGenerates (source : List Char) (tree : Tree) : Edit → Prop where
  | node {node : Tree} {edit : Edit} (hnode : node ∈ tree.nodes)
      (h : Generates source node edit) : ModuleGenerates source tree edit
  | defaultValue {statement : Tree} (hstatement : statement ∈ tree.children)
      (hkind : statement.isKind .exportStatement)
      (hform : ExportForm.classify source statement = .ok .defaultValue) :
      ModuleGenerates source tree
        (.replace statement.start (defaultEnd statement) "exports.default =")

lemma mem_moduleRanges_of_node {node : Tree} (hnode : node ∈ tree.nodes) :
    ownRanges source node ⊆ moduleRanges source tree :=
  fun _ h => List.mem_append_left _ (List.mem_flatMap.mpr ⟨node, hnode, h⟩)

lemma mem_moduleRanges_of_export {statement : Tree} (hstatement : statement ∈ tree.children) :
    exportRanges source statement ⊆ moduleRanges source tree :=
  fun _ h => List.mem_append_right _ (List.mem_flatMap.mpr ⟨statement, hstatement, h⟩)

section Module

variable (htree : tree.WellFormed source) (hedits : moduleEdits source tree = .ok (edits, exports))

lemma ModuleGenerates.placed (htree : tree.WellFormed source)
    (h : ModuleGenerates source tree edit) :
    Placed source tree (moduleRanges source tree) edit := by
  cases h with
  | node hnode h =>
    exact (h.placed (htree.toSound.of_mem hnode)).mono hnode (mem_moduleRanges_of_node hnode)
  | defaultValue hstatement hkind hform =>
    exact .range (mem_moduleRanges_of_export hstatement
      (by simp [exportRanges, hkind, hform, rangeOf, Edit.replace]))

include hedits

lemma exists_of_moduleEdits : ∃ erasing exporting, erase source false none tree = .ok erasing ∧
    Walks (exportStatement source) tree.namedChildren exporting ∧ edits = erasing ++ exporting := by
  simp only [moduleEdits, bind_eq_ok_iff, pure_eq_ok_iff, Prod.exists, Prod.mk.injEq] at hedits
  obtain ⟨erasing, herasing, _, exporting, hexporting, rfl, -⟩ := hedits
  exact ⟨erasing, exporting, herasing, walks_of_collect hexporting, rfl⟩

/-- Every edit of a module blanks one of its ranges or brings a text that it calls for. -/
theorem moduleEdits_made (hmem : edit ∈ edits) :
    (∃ range ∈ moduleRanges source tree, edit = blankRange range) ∨
      ModuleGenerates source tree edit := by
  obtain ⟨erasing, exporting, herasing, hexporting, rfl⟩ := exists_of_moduleEdits hedits
  rcases List.mem_append.mp hmem with hmem | hmem
  · rcases erase_made herasing hmem with ⟨node, hnode, ⟨range, hrange, rfl⟩ | h⟩ | ⟨hfalse, -⟩
    · exact .inl ⟨range, mem_moduleRanges_of_node hnode hrange, rfl⟩
    · exact .inr (.node hnode h)
    · cases hfalse
  · obtain ⟨first, statement, last, own, hchildren, hown, hmem⟩ := hexporting.exists_of_mem hmem
    have hstatement : statement ∈ tree.children :=
      Tree.mem_children_of_mem_namedChildren (by simp [hchildren])
    rcases hkind : statement.isKind .exportStatement with _ | _
    · rw [exportStatement, hkind] at hown
      cases hown
      cases hmem
    obtain ⟨form, hform, rfl⟩ := exportStatement_ok hown hkind
    have hrange : rangeOf edit ∈ moduleRanges source tree := by
      refine mem_moduleRanges_of_export hstatement ?_
      rw [exportRanges_eq_map hkind hform]
      exact List.mem_map_of_mem hmem
    cases form with
    | defaultValue =>
      rw [List.mem_singleton.mp hmem]
      exact .inr (.defaultValue hstatement hkind hform)
    | declaration names =>
      rw [Exports.edits, exportRanges_of_blankExport hkind hform] at hmem
      obtain ⟨range, -, rfl⟩ := List.mem_map.mp hmem
      exact .inl ⟨range, hrange, rfl⟩
    | _ => exact .inl ⟨rangeOf edit, hrange, by rw [List.mem_singleton.mp hmem]; rfl⟩

include htree

lemma moduleEdits_placed (hmem : edit ∈ edits) :
    Placed source tree (moduleRanges source tree) edit := by
  rcases moduleEdits_made hedits hmem with ⟨range, hrange, rfl⟩ | h
  · exact .range hrange
  · exact h.placed htree

/-- An edit that takes something out has one of the ranges of a module or closes a namespace. -/
lemma moduleEdits_rangeOf (hmem : edit ∈ edits) (hrange : edit.start < edit.stop) :
    rangeOf edit ∈ moduleRanges source tree ∨ ClosesNamespace tree (rangeOf edit) := by
  cases moduleEdits_placed htree hedits hmem with
  | insertion hempty _ => exact absurd hempty (Nat.ne_of_lt hrange)
  | range hrange => exact .inl hrange
  | closing hclosing => exact .inr hclosing

omit htree in
/-- What an export statement of a module takes out is covered by an edit. -/
lemma exportRanges_spans {statement : Tree} (hstatement : statement ∈ tree.children) {range : Span}
    (hrange : range ∈ exportRanges source statement) : ∃ edit ∈ edits, Spans edit range := by
  obtain ⟨erasing, exporting, -, hexporting, rfl⟩ := exists_of_moduleEdits hedits
  have hkind := isKind_of_mem_exportRanges hrange
  have hnamed : statement ∈ tree.namedChildren := by
    rw [Tree.isKind_iff] at hkind
    exact List.mem_filter.mpr ⟨hstatement, by simp [Tree.isNamed, hkind]⟩
  obtain ⟨first, last, hchildren⟩ := List.append_of_mem hnamed
  rw [hchildren] at hexporting
  obtain ⟨own, hown, hsub⟩ := hexporting.exists_sublist
  obtain ⟨form, hform, rfl⟩ := exportStatement_ok hown hkind
  rw [exportRanges_eq_map hkind hform] at hrange
  obtain ⟨edit, hedit, rfl⟩ := List.mem_map.mp hrange
  exact ⟨edit, List.mem_append_right _ (hsub.subset hedit), Nat.le_refl _, Nat.le_refl _⟩

/-- Every range of a module is covered by one of its edits, when namespaces end in their closing
braces. -/
theorem moduleEdits_spans (hclosed : tree.Every ClosedByBrace) {range : Span}
    (hrange : range ∈ moduleRanges source tree) : ∃ edit ∈ edits, Spans edit range := by
  rcases List.mem_append.mp hrange with hrange | hrange
  · obtain ⟨erasing, exporting, herasing, -, rfl⟩ := exists_of_moduleEdits hedits
    obtain ⟨edit, hedit, hspans⟩ := erase_spans htree.toSound hclosed herasing hrange
    exact ⟨edit, List.mem_append_left _ hedit, hspans⟩
  · obtain ⟨statement, hstatement, hrange⟩ := List.mem_flatMap.mp hrange
    exact exportRanges_spans hedits hstatement hrange

/-- The edits of a module are pairwise nested or disjoint. -/
theorem moduleEdits_laminar : Edits.Laminar edits where
  forward := by
    intro edit hmem
    cases moduleEdits_placed htree hedits hmem with
    | range h => exact le_of_mem_moduleRanges htree.toSound h
    | insertion hempty _ => exact Nat.le_of_eq hempty
    | closing h =>
      obtain ⟨_, _, _, _, body, _, _, heq⟩ := h
      obtain ⟨hstart, hstop⟩ := Span.mk.inj heq
      unfold Edit.Forward
      omega
  nested := by
    intro a ha b hb
    cases moduleEdits_placed htree hedits ha with
    | insertion hempty _ => exact .of_insertion hempty
    | closing h => exact NestedOrDisjoint.of_closing h (rangeOf b)
    | range hrange =>
      cases moduleEdits_placed htree hedits hb with
      | range hrange' => exact moduleRanges_nestedOrDisjoint htree _ hrange _ hrange'
      | insertion hempty _ => exact (Edit.NestedOrDisjoint.of_insertion hempty).symm
      | closing h => exact (NestedOrDisjoint.of_closing h (rangeOf a)).symm

/-- All edits of a module begin and end where characters do, but for those that take the last byte
of the body of a namespace. -/
theorem moduleEdits_isBoundary (hmem : edit ∈ edits) :
    (IsBoundary source edit.start ∨ ClosesNamespace tree (rangeOf edit)) ∧
      IsBoundary source edit.stop := by
  cases moduleEdits_placed htree hedits hmem with
  | range h =>
    obtain ⟨hstart, hstop⟩ := isBoundary_of_mem_moduleRanges htree.toSound h
    exact ⟨.inl hstart, hstop⟩
  | insertion hempty hboundary => exact ⟨.inl hboundary, hempty ▸ hboundary⟩
  | closing h =>
    refine ⟨.inr h, ?_⟩
    obtain ⟨node, hnode, _, _, body, _, hbody, heq⟩ := h
    rw [(Span.mk.inj heq).2]
    exact ((htree.toSound.of_mem hnode).of_child (Tree.mem_of_child? hbody)).nested.self.stop

end Module

/-- When namespaces end in their closing braces, these are among the ranges of a module. -/
lemma mem_moduleRanges_of_closing (htree : tree.Sound source) (hclosed : tree.Every ClosedByBrace)
    {range : Span} (h : ClosesNamespace tree range) : range ∈ moduleRanges source tree := by
  obtain ⟨node, hnode, hnamespace, name, body, hname, hbody, rfl⟩ := h
  refine mem_moduleRanges_of_node hnode ?_
  have hsound := htree.of_mem hnode
  have hblock := (hsound.block_of_child? (exists_endingKind hnamespace) hbody).1
  obtain ⟨opening, inner, brace, comments, hchildren, -, -, hbrace, -, -⟩ :=
    (hsound.of_child (Tree.mem_of_child? hbody)).regular.self.block hblock
  have hmem : brace ∈ body.children := by simp [hchildren]
  have hspan := hclosed node hnode hnamespace body hbody brace hmem hbrace
  simp only [ownRanges_of_isNamespace hnamespace, namespaceRanges, hname, hbody]
  refine List.mem_cons_of_mem _ (List.mem_flatMap.mpr ⟨brace, hmem, ?_⟩)
  rw [blockRanges, if_pos hbrace, hspan]
  exact List.mem_singleton_self _

end Stencil.Erasure
