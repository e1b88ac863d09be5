import Stencil.Proofs.Erasing

/-!
# What the edits of a tree cover

Every node of a tree is erased in turn, unless an edit takes its place or nothing is erased in it
(`erase_reaches`). So every range that a tree takes out is covered by one of its edits, as long as
namespaces end in their closing braces (`erase_spans`).
-/

namespace Stencil.Erasure

open TypeScript (Tree Kind Span)

variable {source : List Char} {tree : Tree} {trees : List Tree} {edits : List Edit} {edit : Edit}

/-! ### Ranges in edits -/

/-- Whether the range of an edit holds another range. -/
def Spans (edit : Edit) (range : Span) : Prop :=
  edit.start ≤ range.start ∧ range.stop ≤ edit.stop

lemma Spans.of_within {range : Span} (h : Within tree range) (hstart : edit.start = tree.start)
    (hstop : edit.stop = tree.stop) : Spans edit range :=
  ⟨hstart ▸ h.start, hstop ▸ h.stop⟩

lemma Spans.blankRange (range : Span) : Spans (blankRange range) range :=
  ⟨Nat.le_refl _, Nat.le_refl _⟩

lemma enumEdit_range (h : enumEdit source tree = .ok edit) :
    edit.start = tree.start ∧ edit.stop = tree.stop := by
  unfold enumEdit at h
  split at h
  · simp only [bind_eq_ok_iff, pure_eq_ok_iff] at h
    obtain ⟨filled, -, rfl⟩ := h
    exact ⟨rfl, rfl⟩
  · cases h

/-- Tokens and comments take nothing out, and nothing is in them. -/
lemma of_not_isNamed (htree : tree.Sound source) (h : tree.isNamed = false) :
    tree.children = [] ∧ ownRanges source tree = [] := by
  have hregular := htree.regular.self
  rcases Tree.isNamed_eq_false_iff.mp h with hcomment | ⟨text, htoken⟩
  · exact ⟨hregular.comment hcomment, ownRanges_eq_nil (by simp) hcomment⟩
  · exact ⟨hregular.token text htoken, ownRanges_token htoken⟩

/-- The marks of a node other than a class body are covered by what it makes for them. -/
lemma ownEdits_spans (hclass : tree.isKind .classBody = false)
    (h : ownEdits source tree = .ok edits) {range : Span}
    (hrange : range ∈ markRanges source tree) : ∃ edit ∈ edits, Spans edit range := by
  have hblank {ranges : List Span} (hrange : range ∈ ranges) :
      ∃ edit ∈ ranges.map blankRange, Spans edit range :=
    ⟨blankRange range, List.mem_map_of_mem hrange, .blankRange range⟩
  unfold ownEdits at h
  split at h
  case h_5 hkind =>
    cases h
    rw [blankThis_eq]
    exact hblank (by simpa [markRanges, hkind] using hrange)
  case h_7 hkind =>
    simp only [bind_eq_ok_iff, pure_eq_ok_iff] at h
    obtain ⟨properties, -, rfl⟩ := h
    rw [markRanges_of_keywords hkind (by simp)] at hrange
    obtain ⟨edit, hedit, hspans⟩ := hblank hrange
    exact ⟨edit, List.mem_append_left _ (blankTokens_eq .. ▸ hedit), hspans⟩
  case h_9 hkind =>
    cases h
    simp only [markRanges, hkind, returnTypeRanges] at hrange
    split at hrange
    next type token htype htoken =>
      split at hrange
      next => cases hrange
      next hfeeds =>
        rw [List.mem_singleton.mp hrange]
        refine ⟨.replace type.start type.stop " ", ?_, Nat.le_refl _, Nat.le_refl _⟩
        simp only [moveReturnType, htype, htoken, if_neg hfeeds, List.mem_cons_self]
    next => cases hrange
  case h_10 =>
    rw [Tree.isKind] at hclass
    unfold markRanges at hrange
    split at hrange
    case h_4 kind _ _ _ hkind =>
      have hnone : keywords kind = [] := by
        unfold keywords
        split <;> simp_all
      simp [hnone, keywordRanges] at hrange
    all_goals simp_all
  all_goals
    rename_i hkind
    cases h
    rw [blankTokens_eq]
    rw [markRanges_of_keywords hkind (by simp)] at hrange
    exact hblank hrange

/-- What an export statement takes out is covered by what a namespace makes for it. -/
lemma exportInNamespace_spans {owner : String}
    (h : exportInNamespace source owner tree = .ok edits) {range : Span}
    (hrange : range ∈ exportRanges source tree) : ∃ edit ∈ edits, Spans edit range := by
  have hkind := isKind_of_mem_exportRanges hrange
  rw [exportInNamespace, if_pos hkind, namespaceExport, bind_eq_ok_iff] at h
  obtain ⟨form, hform, h⟩ := h
  split at h
  · cases h
    simp only [exportRanges, hkind, hform, if_true, List.mem_singleton] at hrange
    exact ⟨blankTree tree, List.mem_singleton_self _, hrange ▸ .blankRange _⟩
  · cases h
    refine ⟨blankRange range, List.mem_append_left _ ?_, .blankRange _⟩
    rw [exportRanges_of_blankExport hkind hform]
    exact List.mem_map_of_mem hrange
  · cases h
    simp only [exportRanges, hkind, hform, if_true, List.mem_singleton] at hrange
    exact ⟨blankTree tree, List.mem_cons_self, hrange ▸ .blankRange _⟩
  · cases h
  · cases h

lemma erase_of_isErasedMember {inClass : Bool} {next : Option Tree} (h : isErasedMember tree) :
    erase source inClass next tree = .ok (blankMember inClass next tree) := by
  obtain ⟨symbol, role, span, children⟩ := tree
  rw [erase, if_pos h]
  rfl

lemma mem_blankMember_self {inClass : Bool} {next : Option Tree} (tree : Tree) :
    blankTree tree ∈ blankMember inClass next tree := by
  unfold blankMember
  split
  · split <;> exact List.mem_cons_self
  · exact List.mem_singleton_self _

/-- The marks of a node are covered by what it and its children make. -/
lemma markRanges_spans {own inner : List Edit} (hown : ownEdits source tree = .ok own)
    (hinner : eraseAmong source (tree.isKind .classBody) tree.children = .ok inner) {range : Span}
    (hrange : range ∈ markRanges source tree) : ∃ edit ∈ own ++ inner, Spans edit range := by
  rcases hclass : tree.isKind .classBody with _ | _
  · obtain ⟨edit, hedit, hspans⟩ := ownEdits_spans hclass hown hrange
    exact ⟨edit, List.mem_append_left _ hedit, hspans⟩
  rw [markRanges, Tree.isKind_iff.mp hclass] at hrange
  obtain ⟨first, member, separator, last, hchildren, hmember, hseparator, rfl⟩ :=
    exists_of_mem_separatorRanges hrange
  rw [hchildren, hclass] at hinner
  obtain ⟨edits, hedits, hsub⟩ := (walks_of_eraseAmong hinner).exists_sublist
  rw [erase_of_isErasedMember hmember] at hedits
  cases hedits
  refine ⟨blankTree separator, List.mem_append_right _ (hsub.subset ?_), .blankRange _⟩
  have hseparator : (separator.isToken ";" || separator.isToken ",") = true := hseparator
  simp [blankMember, hseparator]

/-! ### Children -/

/-- A child of a namespace is its body or stands before it, unless it is a comment. -/
lemma namespace_child {name : String} {body child : Tree} (htree : tree.Sound source)
    (hnamespace : isNamespace tree)
    (hform : NamespaceForm.ofTree source tree = .ok (.present name body))
    (hchild : child ∈ tree.children) :
    child = body ∨ child.stop ≤ body.start ∨ child.isNamed = false := by
  obtain ⟨-, hbody⟩ := child?_of_present hform
  obtain ⟨first, last, hchildren, -⟩ := (List.find?_eq_some_iff_append.mp hbody).2
  have hordered := htree.ordered
  rw [hchildren] at hordered hchild
  rcases List.mem_append.mp hchild with hmem | hmem
  · obtain ⟨mid, hfirst, hrest⟩ := hordered.of_append
    exact .inr (.inl (Nat.le_trans (hfirst.mem hmem).2.2 hrest.1))
  rcases List.mem_cons.mp hmem with rfl | hmem
  · exact .inl rfl
  obtain ⟨kind, hending, hkind⟩ := exists_endingKind hnamespace
  have hlast := (htree.regular.self.body kind hending hkind).last
  rw [hchildren] at hlast
  have hcomment := (List.pairwise_cons.mp (List.pairwise_append.mp hlast).2.1).1 child hmem
    (Tree.role_of_child? hbody)
  exact .inr (.inr (Tree.isNamed_eq_false_iff.mpr (.inl hcomment)))

/-- A child of an assertion is its value or stands after it, unless it is a token or a comment. -/
lemma assertion_child {first last : List Tree} {value child : Tree} (htree : tree.Sound source)
    (hchildren : tree.children = first ++ value :: last)
    (hfirst : ∀ child ∈ first, child.isNamed = false) (hchild : child ∈ tree.children) :
    child = value ∨ value.stop ≤ child.start ∨ child.isNamed = false := by
  have hordered := htree.ordered
  rw [hchildren] at hordered hchild
  rcases List.mem_append.mp hchild with hmem | hmem
  · exact .inr (.inr (hfirst child hmem))
  rcases List.mem_cons.mp hmem with rfl | hmem
  · exact .inl rfl
  · obtain ⟨_, -, hlast⟩ := hordered.of_append
    exact .inr (.inl (hlast.2.2.mem hmem).1)

lemma exists_of_eraseAmong {inClass : Bool} {child : Tree}
    (h : eraseAmong source inClass trees = .ok edits) (hchild : child ∈ trees) :
    ∃ next own, erase source inClass next child = .ok own ∧ own.Sublist edits := by
  obtain ⟨first, last, rfl⟩ := List.append_of_mem hchild
  exact ⟨_, (walks_of_eraseAmong h).exists_sublist⟩

lemma exists_of_eraseStatements {owner : String} {statement : Tree}
    (h : eraseStatements source owner trees = .ok edits) (hstatement : statement ∈ trees) :
    ∃ exported next inner, exportInNamespace source owner statement = .ok exported ∧
      erase source false next statement = .ok inner ∧ (exported ++ inner).Sublist edits := by
  obtain ⟨first, last, rfl⟩ := List.append_of_mem hstatement
  obtain ⟨own, hown, hsub⟩ := (walks_of_eraseStatements h).exists_sublist
  obtain ⟨exported, hexported, inner, hinner, rfl⟩ := eraseStatement_ok.mp hown
  exact ⟨exported, _, inner, hexported, hinner, hsub⟩

/-! ### Nodes that are reached -/

/-- Whether a node is erased on the way, lies in the range of an edit, or is a node where nothing is
erased: a token, a comment or a block. -/
def Reached (source : List Char) (edits : List Edit) (node : Tree) : Prop :=
  (∃ inClass next own, erase source inClass next node = .ok own ∧ own.Sublist edits) ∨
    (∃ edit ∈ edits, Spans edit node.span) ∨ node.isNamed = false ∨ node.isKind .statementBlock

lemma Reached.mono {more : List Edit} {node : Tree} (h : Reached source edits node)
    (hsub : edits.Sublist more) : Reached source more node := by
  rcases h with ⟨inClass, next, own, hown, hown'⟩ | ⟨edit, hedit, hspans⟩ | h
  · exact .inl ⟨inClass, next, own, hown, hown'.trans hsub⟩
  · exact .inr (.inl ⟨edit, hsub.subset hedit, hspans⟩)
  · exact .inr (.inr h)

/-- Every node of a tree is reached. -/
theorem erase_reaches {inClass : Bool} {next : Option Tree} {node : Tree}
    (htree : tree.Sound source) (h : erase source inClass next tree = .ok edits)
    (hnode : node ∈ tree.nodes) : Reached source edits node := by
  induction tree using Tree.ofNodes generalizing inClass next edits with
  | h tree ih =>
    have hwithin := Within.of_mem_nodes htree.nested hnode
    rcases Tree.mem_nodes_iff.mp hnode with rfl | ⟨child, hchild, hnode⟩
    · exact .inl ⟨inClass, next, edits, h, List.Sublist.refl _⟩
    have hsound := htree.of_child hchild
    have hin := Within.of_mem_nodes hsound.nested hnode
    have hwhole (hmem : blankTree tree ∈ edits) : Reached source edits node :=
      .inr (.inl ⟨blankTree tree, hmem, .of_within hwithin rfl rfl⟩)
    have hunnamed (h : child.isNamed = false) : Reached source edits node := by
      rcases Tree.mem_nodes_iff.mp hnode with rfl | ⟨_, hmem, -⟩
      · exact .inr (.inr (.inl h))
      · rw [(of_not_isNamed hsound h).1] at hmem
        cases hmem
    cases erase_erases h with
    | member => exact hwhole (mem_blankMember_self tree)
    | whole | absent => exact hwhole (List.mem_singleton_self _)
    | enumeration hkind hedit =>
      obtain ⟨hstart, hstop⟩ := enumEdit_range hedit
      exact .inr (.inl ⟨_, List.mem_singleton_self _, .of_within hwithin hstart hstop⟩)
    | present hnamespace hform hinner =>
      rename_i name body inner
      rcases namespace_child htree hnamespace hform hchild with rfl | hle | hnot
      · have hblock := htree.block_of_child? (exists_endingKind hnamespace)
          (child?_of_present hform).2
        rcases Tree.mem_nodes_iff.mp hnode with rfl | ⟨statement, hmem, hnode⟩
        · exact .inr (.inr (.inr hblock.1))
        obtain ⟨_, next, own, -, hown, hsub⟩ := exists_of_eraseStatements hinner hmem
        exact (ih child hchild statement (Tree.mem_nodes_of_mem_children hmem)
          (hsound.of_child hmem) hown hnode).mono
            ((List.sublist_append_right _ _).trans (hsub.trans (List.sublist_append_right _ _)))
      · refine .inr (.inl ⟨_, List.mem_append_left _ List.mem_cons_self, hwithin.start, ?_⟩)
        exact Nat.le_trans hin.stop (Nat.le_succ_of_le hle)
      · exact hunnamed hnot
    | assertion hassertion hchildren hfirst hvalue hinner =>
      rcases assertion_child htree hchildren hfirst hchild with rfl | hle | hnot
      · exact (ih child hchild child (Tree.mem_nodes_self child) hsound hinner hnode).mono
          (List.sublist_cons_self _ _)
      · exact .inr (.inl ⟨_, List.mem_cons_self, Nat.le_trans hle hin.start, hwithin.stop⟩)
      · exact hunnamed hnot
    | parts hkept hown hinner =>
      obtain ⟨next, own, hown, hsub⟩ := exists_of_eraseAmong hinner hchild
      exact (ih child hchild child (Tree.mem_nodes_self child) hsound hown hnode).mono
        (hsub.trans (List.sublist_append_right _ _))

/-! ### Trees -/

/-- Whether the closing brace of a namespace is the last byte of its body. A comment after the brace
belongs to the body as well, and then it is not. -/
def ClosedByBrace (tree : Tree) : Prop :=
  isNamespace tree → ∀ body, tree.child? .body = some body →
    ∀ brace ∈ body.children, brace.isToken "\x7d" → brace.span = ⟨body.stop - 1, body.stop⟩

instance : DecidablePred ClosedByBrace := fun tree =>
  inferInstanceAs (Decidable (isNamespace tree → ∀ body, tree.child? .body = some body →
    ∀ brace ∈ body.children, brace.isToken "\x7d" → brace.span = ⟨body.stop - 1, body.stop⟩))

/-- The ranges of a namespace are covered by its frame and by what its export statements need. -/
lemma namespaceRanges_spans {name : String} {body : Tree} {inner : List Edit} {range : Span}
    (hclosed : ClosedByBrace tree) (hnamespace : isNamespace tree)
    (hform : NamespaceForm.ofTree source tree = .ok (.present name body))
    (hinner : eraseStatements source name body.children = .ok inner)
    (hrange : range ∈ ownRanges source tree) :
    ∃ edit ∈ namespaceFrame source tree body name ++ inner, Spans edit range := by
  have hbody := (child?_of_present hform).2
  rw [ownRanges_of_present hnamespace hform, List.mem_cons] at hrange
  rcases hrange with rfl | hrange
  · exact ⟨_, List.mem_append_left _ List.mem_cons_self, Nat.le_refl _, Nat.le_refl _⟩
  obtain ⟨part, hpart, hrange⟩ := List.mem_flatMap.mp hrange
  rw [blockRanges] at hrange
  split at hrange
  next hbrace =>
    refine ⟨_, List.mem_append_left _ (List.mem_cons_of_mem _ List.mem_cons_self), ?_⟩
    rw [List.mem_singleton.mp hrange, hclosed hnamespace body hbody part hpart hbrace]
    exact ⟨Nat.le_refl _, Nat.le_refl _⟩
  next =>
    obtain ⟨exported, _, _, hexported, -, hsub⟩ := exists_of_eraseStatements hinner hpart
    obtain ⟨edit, hedit, hspans⟩ := exportInNamespace_spans hexported hrange
    exact ⟨edit, List.mem_append_right _ (hsub.subset (List.mem_append_left _ hedit)), hspans⟩

/-- What a node takes out is covered by what is made for it. -/
lemma ownRanges_spans {inClass : Bool} {next : Option Tree} {range : Span}
    (htree : tree.Sound source) (hclosed : ClosedByBrace tree)
    (h : erase source inClass next tree = .ok edits) (hrange : range ∈ ownRanges source tree) :
    ∃ edit ∈ edits, Spans edit range := by
  have hwithin := ownRanges_within htree hrange
  have hwhole (hmem : blankTree tree ∈ edits) : ∃ edit ∈ edits, Spans edit range :=
    ⟨blankTree tree, hmem, .of_within hwithin rfl rfl⟩
  cases erase_erases h with
  | member => exact hwhole (mem_blankMember_self tree)
  | whole | absent => exact hwhole (List.mem_singleton_self _)
  | enumeration hkind hedit =>
    obtain ⟨hstart, hstop⟩ := enumEdit_range hedit
    exact ⟨_, List.mem_singleton_self _, .of_within hwithin hstart hstop⟩
  | present hnamespace hform hinner =>
    exact namespaceRanges_spans hclosed hnamespace hform hinner hrange
  | assertion hassertion hchildren hfirst hvalue hinner =>
    rw [ownRanges_of_isAssertion hassertion hchildren hfirst hvalue] at hrange
    rw [List.mem_singleton.mp hrange]
    exact ⟨_, List.mem_cons_self, Nat.le_refl _, Nat.le_refl _⟩
  | parts hkept hown hinner => exact markRanges_spans hown hinner (hkept ▸ hrange)

/-- What a node takes out is covered when the node is reached. -/
lemma Reached.spans {node : Tree} {range : Span} (h : Reached source edits node)
    (hnode : node.Sound source) (hclosed : ClosedByBrace node)
    (hrange : range ∈ ownRanges source node) : ∃ edit ∈ edits, Spans edit range := by
  rcases h with ⟨_, _, own, hown, hsub⟩ | ⟨edit, hedit, hstart, hstop⟩ | hnot | hblock
  · obtain ⟨edit, hedit, hspans⟩ := ownRanges_spans hnode hclosed hown hrange
    exact ⟨edit, hsub.subset hedit, hspans⟩
  · have hwithin := ownRanges_within hnode hrange
    exact ⟨edit, hedit, Nat.le_trans hstart hwithin.start, Nat.le_trans hwithin.stop hstop⟩
  · rw [(of_not_isNamed hnode hnot).2] at hrange
    cases hrange
  · rw [ownRanges_eq_nil (by simp) hblock] at hrange
    cases hrange

/-- Every range that is taken out of a tree is covered by an edit, when namespaces end in their
closing braces. -/
theorem erase_spans {inClass : Bool} {next : Option Tree} {range : Span}
    (htree : tree.Sound source) (hclosed : tree.Every ClosedByBrace)
    (h : erase source inClass next tree = .ok edits)
    (hrange : range ∈ tree.nodes.flatMap (ownRanges source)) :
    ∃ edit ∈ edits, Spans edit range := by
  obtain ⟨node, hnode, hrange⟩ := List.mem_flatMap.mp hrange
  exact (erase_reaches htree h hnode).spans (htree.of_mem hnode) (hclosed node hnode) hrange

end Stencil.Erasure
