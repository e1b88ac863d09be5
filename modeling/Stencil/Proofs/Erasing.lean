import Stencil.Proofs.Ranges

/-!
# What erasing does to a tree

`Erases` states in which ways a tree may be erased. Every edit that is made on the way blanks a
range of a node or brings a text that a node calls for, by induction on the tree (`erase_made`).
-/

namespace Stencil.Erasure

open Text
open TypeScript (Tree Kind Span)

variable {source : List Char} {tree : Tree} {trees : List Tree} {edits : List Edit} {edit : Edit}

lemma bind_eq_ok_iff {α β : Type} {first : Except Flaw α} {next : α → Except Flaw β} {b : β} :
    first >>= next = .ok b ↔ ∃ a, first = .ok a ∧ next a = .ok b := by
  cases first <;> simp [bind, Except.bind]

lemma pure_eq_ok_iff {α : Type} {a b : α} : (pure a : Except Flaw α) = .ok b ↔ a = b := by
  simp [pure, Except.pure]

/-! ### Walks along children -/

/-- The edits that a step makes for each of these trees, given the one after it. -/
inductive Walks (step : Option Tree → Tree → Except Flaw (List Edit)) :
    List Tree → List Edit → Prop where
  | nil : Walks step [] []
  | cons {tree : Tree} {trees : List Tree} {own rest : List Edit}
      (hown : step trees.head? tree = .ok own) (hrest : Walks step trees rest) :
      Walks step (tree :: trees) (own ++ rest)

namespace Walks

variable {step : Option Tree → Tree → Except Flaw (List Edit)}

/-- Every edit of a walk is made for one of the trees. -/
lemma exists_of_mem (h : Walks step trees edits) (hmem : edit ∈ edits) :
    ∃ first tree last own, trees = first ++ tree :: last ∧ step last.head? tree = .ok own ∧
      edit ∈ own := by
  induction h with
  | nil => cases hmem
  | @cons tree trees own _ hown _ ih =>
    rcases List.mem_append.mp hmem with hmem | hmem
    · exact ⟨[], tree, trees, own, rfl, hown, hmem⟩
    · obtain ⟨first, other, last, own, rfl, hstep, hmem⟩ := ih hmem
      exact ⟨tree :: first, other, last, own, rfl, hstep, hmem⟩

/-- What is made for one of the trees stands together in a walk: before it is what is made for the
trees before, and after it what is made for those after. -/
lemma cut {first last : List Tree} (h : Walks step (first ++ tree :: last) edits) :
    ∃ before own after, edits = before ++ own ++ after ∧ step last.head? tree = .ok own ∧
      (∀ edit ∈ before, ∃ lower other upper made,
        first ++ tree :: last = lower ++ other :: upper ∧ tree ∈ upper ∧
        step upper.head? other = .ok made ∧ edit ∈ made) ∧
      ∀ edit ∈ after, ∃ lower other upper made,
        first ++ tree :: last = lower ++ other :: upper ∧ tree ∈ lower ∧
        step upper.head? other = .ok made ∧ edit ∈ made := by
  induction first generalizing edits with
  | nil =>
    cases h with | @cons _ _ own rest hown hrest =>
    refine ⟨[], own, rest, rfl, hown, List.forall_mem_nil _, fun edit hedit => ?_⟩
    obtain ⟨lower, other, upper, made, rfl, hmade, hmem⟩ := hrest.exists_of_mem hedit
    exact ⟨tree :: lower, other, upper, made, rfl, List.mem_cons_self, hmade, hmem⟩
  | cons other first ih =>
    cases h with | @cons _ _ made rest hmade hrest =>
    obtain ⟨before, own, after, rfl, hown, hbefore, hafter⟩ := ih hrest
    refine ⟨made ++ before, own, after, by simp, hown, fun edit hedit => ?_, fun edit hedit => ?_⟩
    · rcases List.mem_append.mp hedit with hedit | hedit
      · exact ⟨[], other, first ++ tree :: last, made, rfl, by simp, hmade, hedit⟩
      · obtain ⟨lower, other', upper, made', heq, hmem, hmade', hedit⟩ := hbefore edit hedit
        exact ⟨other :: lower, other', upper, made', by rw [List.cons_append, heq]; rfl, hmem,
          hmade', hedit⟩
    · obtain ⟨lower, other', upper, made', heq, hmem, hmade', hedit⟩ := hafter edit hedit
      exact ⟨other :: lower, other', upper, made', by rw [List.cons_append, heq]; rfl,
        List.mem_cons_of_mem _ hmem, hmade', hedit⟩

/-- What is made for one of the trees is among the edits of the walk. -/
lemma exists_sublist {first last : List Tree} (h : Walks step (first ++ tree :: last) edits) :
    ∃ own, step last.head? tree = .ok own ∧ own.Sublist edits := by
  obtain ⟨before, own, after, rfl, hown, -, -⟩ := h.cut
  exact ⟨own, hown, (List.sublist_append_right _ _).trans (List.sublist_append_left _ _)⟩

end Walks

lemma walks_of_eraseAmong {inClass : Bool} (h : eraseAmong source inClass trees = .ok edits) :
    Walks (erase source inClass) trees edits := by
  induction trees generalizing edits with
  | nil =>
    cases h
    exact .nil
  | cons tree trees ih =>
    simp only [eraseAmong, bind_eq_ok_iff, pure_eq_ok_iff] at h
    obtain ⟨own, hown, rest, hrest, rfl⟩ := h
    exact .cons hown (ih hrest)

/-- The edits that a statement of a namespace needs because it is exported. -/
def exportInNamespace (source : List Char) (owner : String) (tree : Tree) :
    Except Flaw (List Edit) :=
  if tree.isKind .exportStatement then namespaceExport source owner tree else .ok []

/-- The edits that a statement of a namespace needs. -/
def eraseStatement (source : List Char) (owner : String) (next : Option Tree) (tree : Tree) :
    Except Flaw (List Edit) := do
  let exported ← exportInNamespace source owner tree
  let inner ← erase source false next tree
  return exported ++ inner

lemma eraseStatement_ok {owner : String} {next : Option Tree} :
    eraseStatement source owner next tree = .ok edits ↔
      ∃ exported, exportInNamespace source owner tree = .ok exported ∧
        ∃ inner, erase source false next tree = .ok inner ∧ exported ++ inner = edits := by
  simp only [eraseStatement, bind_eq_ok_iff, pure_eq_ok_iff]

lemma walks_of_eraseStatements {owner : String}
    (h : eraseStatements source owner trees = .ok edits) :
    Walks (eraseStatement source owner) trees edits := by
  induction trees generalizing edits with
  | nil =>
    cases h
    exact .nil
  | cons tree trees ih =>
    rw [eraseStatements] at h
    split at h <;> simp only [bind_eq_ok_iff, pure_eq_ok_iff] at h <;>
      obtain ⟨exported, hexported, inner, hinner, rest, hrest, rfl⟩ := h <;>
      exact .cons (eraseStatement_ok.mpr
        ⟨exported, by simp [exportInNamespace, *], inner, hinner, rfl⟩) (ih hrest)

/-- The edits that the export statements of a module need. -/
def exportStatement (source : List Char) (_ : Option Tree) (tree : Tree) :
    Except Flaw (List Edit) :=
  if tree.isKind .exportStatement then (ExportForm.classify source tree).map (Exports.edits tree)
  else .ok []

lemma exportStatement_ok {next : Option Tree} (h : exportStatement source next tree = .ok edits)
    (hkind : tree.isKind .exportStatement) :
    ∃ form, ExportForm.classify source tree = .ok form ∧ edits = Exports.edits tree form := by
  rw [exportStatement, if_pos hkind] at h
  rcases hform : ExportForm.classify source tree with flaw | form <;> rw [hform] at h <;> cases h
  exact ⟨form, rfl, rfl⟩

lemma walks_of_collect {exports exports' : Exports}
    (h : Exports.collect source exports trees = .ok (exports', edits)) :
    Walks (exportStatement source) trees edits := by
  induction trees generalizing exports exports' edits with
  | nil =>
    cases h
    exact .nil
  | cons tree trees ih =>
    rw [Exports.collect] at h
    split at h
    · simp only [bind_eq_ok_iff] at h
      obtain ⟨form, hform, h⟩ := h
      split at h
      · cases h
      · simp only [bind_eq_ok_iff, Prod.exists, pure_eq_ok_iff, Prod.mk.injEq] at h
        obtain ⟨_, more, hmore, rfl, rfl⟩ := h
        exact .cons (by simp [exportStatement, *, Except.map]) (ih hmore)
    · rw [← List.nil_append edits]
      exact .cons (by simp [exportStatement, *]) (ih h)

/-! ### Ways to erase a tree -/

/-- How a tree is erased, by the parts of it that are erased in turn. -/
inductive Erases (source : List Char) (inClass : Bool) (next : Option Tree) (tree : Tree) :
    List Edit → Prop where
  | member (hmember : isErasedMember tree) :
      Erases source inClass next tree (blankMember inClass next tree)
  | whole (herased : isErased tree) : Erases source inClass next tree [blankTree tree]
  | enumeration {edit : Edit} (hkind : tree.isKind .enumDeclaration)
      (hedit : enumEdit source tree = .ok edit) : Erases source inClass next tree [edit]
  | absent (hnamespace : isNamespace tree)
      (hform : NamespaceForm.ofTree source tree = .ok .absent) :
      Erases source inClass next tree [blankTree tree]
  | present {name : String} {body : Tree} {inner : List Edit} (hnamespace : isNamespace tree)
      (hform : NamespaceForm.ofTree source tree = .ok (.present name body))
      (hinner : eraseStatements source name body.children = .ok inner) :
      Erases source inClass next tree (namespaceFrame source tree body name ++ inner)
  | assertion {first last : List Tree} {value : Tree} {inner : List Edit}
      (hassertion : isAssertion tree) (hchildren : tree.children = first ++ value :: last)
      (hfirst : ∀ child ∈ first, child.isNamed = false) (hvalue : value.isNamed)
      (hinner : erase source false last.head? value = .ok inner) :
      Erases source inClass next tree (.blank value.stop tree.stop :: inner)
  | parts {own inner : List Edit} (hkept : ownRanges source tree = markRanges source tree)
      (hown : ownEdits source tree = .ok own)
      (hinner : eraseAmong source (tree.isKind .classBody) tree.children = .ok inner) :
      Erases source inClass next tree (own ++ inner)

lemma eraseAssertion_ok {stop : Nat} (h : eraseAssertion source stop trees = .ok edits)
    (hnamed : trees.filter Tree.isNamed ≠ []) :
    ∃ first value last inner, trees = first ++ value :: last ∧
      (∀ child ∈ first, child.isNamed = false) ∧ value.isNamed ∧
      erase source false last.head? value = .ok inner ∧
      edits = .blank value.stop stop :: inner := by
  induction trees with
  | nil => exact absurd rfl hnamed
  | cons tree trees ih =>
    rw [eraseAssertion] at h
    split at h
    · simp only [bind_eq_ok_iff, pure_eq_ok_iff] at h
      obtain ⟨inner, hinner, rfl⟩ := h
      exact ⟨[], tree, trees, inner, rfl, nofun, ‹_›, hinner, rfl⟩
    next htree =>
      rw [List.filter_cons_of_neg htree] at hnamed
      obtain ⟨first, value, last, inner, rfl, hfirst, hvalue, hinner⟩ := ih h hnamed
      exact ⟨tree :: first, value, last, inner, rfl,
        List.forall_mem_cons.mpr ⟨by simpa using htree, hfirst⟩, hvalue, hinner⟩

/-- The statements of a namespace are those of its body. -/
lemma eraseNamespace_eq {owner : String} {body : Tree}
    (h : trees.find? (fun child => child.role == some .body) = some body) :
    eraseNamespace source owner trees = eraseStatements source owner body.children := by
  induction trees with
  | nil => cases h
  | cons tree trees ih =>
    obtain ⟨symbol, role, span, children⟩ := tree
    rw [eraseNamespace]
    split
    next hrole =>
      rw [List.find?_cons_of_pos (by simp [Tree.role, hrole])] at h
      cases h
      rfl
    next hrole =>
      rw [List.find?_cons_of_neg (by simp [Tree.role, hrole])] at h
      exact ih h

lemma child?_of_present {name : String} {body : Tree}
    (h : NamespaceForm.ofTree source tree = .ok (.present name body)) :
    (tree.child? .name).isSome ∧ tree.child? .body = some body := by
  unfold NamespaceForm.ofTree at h
  split at h
  · cases h
  next hname =>
    split at h
    · cases h
    · split at h
      · cases h
      · cases h
        exact ⟨by simp [hname], ‹_›⟩

lemma child?_of_absent (h : NamespaceForm.ofTree source tree = .ok .absent) :
    tree.child? .name = none ∨ tree.child? .body = none := by
  unfold NamespaceForm.ofTree at h
  split at h
  · exact .inl ‹_›
  · split at h
    · cases h
    · split at h
      · exact .inr ‹_›
      · cases h

/-- A tree is erased in one of these ways. -/
theorem erase_erases {inClass : Bool} {next : Option Tree}
    (h : erase source inClass next tree = .ok edits) : Erases source inClass next tree edits := by
  obtain ⟨symbol, role, span, children⟩ := tree
  simp only [erase] at h
  split at h
  · cases h
    exact .member ‹_›
  next hmember =>
  split at h
  · cases h
    exact .whole ‹_›
  next herased =>
  split at h
  · simp only [bind_eq_ok_iff, pure_eq_ok_iff] at h
    obtain ⟨edit, hedit, rfl⟩ := h
    exact .enumeration ‹_› hedit
  next henum =>
  split at h
  · rw [bind_eq_ok_iff] at h
    obtain ⟨form, hform, h⟩ := h
    split at h
    · cases h
      exact .absent ‹_› hform
    · simp only [bind_eq_ok_iff, pure_eq_ok_iff] at h
      obtain ⟨inner, hinner, rfl⟩ := h
      have hbody : children.find? (fun child => child.role == some .body) = some _ :=
        (child?_of_present hform).2
      rw [eraseNamespace_eq hbody] at hinner
      exact .present ‹_› hform hinner
  next hnamespace =>
  split at h
  next hassertion =>
    simp only [Bool.and_eq_true, Bool.not_eq_true', List.isEmpty_eq_false_iff] at hassertion
    obtain ⟨first, value, last, inner, hchildren, hfirst, hvalue, hinner, rfl⟩ :=
      eraseAssertion_ok h hassertion.2
    exact .assertion hassertion.1 hchildren hfirst hvalue hinner
  next hassertion =>
    simp only [bind_eq_ok_iff, pure_eq_ok_iff] at h
    obtain ⟨own, hown, inner, hinner, rfl⟩ := h
    refine .parts ?_ hown hinner
    unfold ownRanges
    rw [if_neg (by simp [*]), if_neg hnamespace]
    split
    next hkind =>
      -- an assertion without any part of its own
      have hempty : children.filter Tree.isNamed = [] := by
        simpa [hkind, Tree.namedChildren] using hassertion
      rcases isAssertion_iff.mp hkind with hkind | hkind <;>
        simp [assertionRanges, markRanges, Tree.namedChildren, hempty, hkind, keywords,
          keywordRanges]
    · rfl

/-! ### What a node makes -/

/-- The edit that blanks a range. -/
def blankRange (range : Span) : Edit := .blank range.start range.stop

/-- The range of an edit. -/
def rangeOf (edit : Edit) : Span := ⟨edit.start, edit.stop⟩

/-- The edits with a text of their own that a node calls for. -/
inductive Generates (source : List Char) (tree : Tree) : Edit → Prop where
  | enumeration {edit : Edit} (hkind : tree.isKind .enumDeclaration)
      (hedit : enumEdit source tree = .ok edit) : Generates source tree edit
  | frame {name : String} {body : Tree} {edit : Edit} (hnamespace : isNamespace tree)
      (hform : NamespaceForm.ofTree source tree = .ok (.present name body))
      (hedit : edit ∈ namespaceFrame source tree body name) : Generates source tree edit
  | assignment {name : String} {body statement : Tree} {bindings : List Binding}
      (hnamespace : isNamespace tree)
      (hform : NamespaceForm.ofTree source tree = .ok (.present name body))
      (hstatement : statement ∈ body.children) (hkind : statement.isKind .exportStatement)
      (hbindings : (∃ names, ExportForm.classify source statement = .ok (.declaration names) ∧
        bindings = names.map .same) ∨ ExportForm.classify source statement = .ok (.list bindings)) :
      Generates source tree (namespaceExport.assign name statement bindings)
  | returnType {edit : Edit} (hkind : tree.isKind .arrowFunction)
      (hedit : edit ∈ moveReturnType source tree) : Generates source tree edit
  | properties {edits : List Edit} {edit : Edit} (hkind : tree.isKind .methodDefinition)
      (hedits : parameterProperties source tree = .ok edits) (hedit : edit ∈ edits) :
      Generates source tree edit

/-- Whether a node makes an edit by itself: it blanks one of its ranges, or brings its text. -/
def Makes (source : List Char) (tree : Tree) (edit : Edit) : Prop :=
  (∃ range ∈ ownRanges source tree, edit = blankRange range) ∨ Generates source tree edit

lemma blankTokens_eq (texts : List String) (children : List Tree) :
    blankTokens texts children = (keywordRanges texts children).map blankRange := by
  simp only [blankTokens, keywordRanges, List.map_map]
  rfl

lemma blankThis_eq (children : List Tree) :
    blankThis children = (thisRanges children).map blankRange := by
  induction children with
  | nil => rfl
  | cons tree trees ih =>
    simp only [blankThis, thisRanges]
    split
    · rw [List.map_cons, ← ih]
      rcases trees with _ | ⟨next, trees⟩
      · rfl
      · rcases hcomma : next.isToken "," <;> simp [blankRange, Option.filter, hcomma]
    · exact ih

/-- The marks of a node that has none but keywords. -/
lemma markRanges_of_keywords {kind : Kind} (hkind : tree.symbol = .kind kind)
    (hother : kind ∉ [.classBody, .formalParameters, .arrowFunction]) :
    markRanges source tree = keywordRanges (keywords kind) tree.children := by
  unfold markRanges
  split <;> simp_all

/-- What a node makes for its marks. -/
lemma ownEdits_made (hkept : ownRanges source tree = markRanges source tree)
    (h : ownEdits source tree = .ok edits) (hmem : edit ∈ edits) : Makes source tree edit := by
  have hkeywords {kind : Kind} (hkind : tree.symbol = .kind kind)
      (hother : kind ∉ [.classBody, .formalParameters, .arrowFunction])
      (hmem : edit ∈ blankTokens (keywords kind) tree.children) : Makes source tree edit := by
    rw [blankTokens_eq, ← markRanges_of_keywords hkind hother, ← hkept] at hmem
    obtain ⟨range, hrange, rfl⟩ := List.mem_map.mp hmem
    exact .inl ⟨range, hrange, rfl⟩
  unfold ownEdits at h
  split at h
  case h_5 hkind =>
    cases h
    rw [blankThis_eq] at hmem
    obtain ⟨range, hrange, rfl⟩ := List.mem_map.mp hmem
    exact .inl ⟨range, by simpa [hkept, markRanges, hkind] using hrange, rfl⟩
  case h_7 hkind =>
    simp only [bind_eq_ok_iff, pure_eq_ok_iff] at h
    obtain ⟨properties, hproperties, rfl⟩ := h
    rcases List.mem_append.mp hmem with hmem | hmem
    · exact hkeywords hkind (by simp) hmem
    · exact .inr (.properties (Tree.isKind_iff.mpr hkind) hproperties hmem)
  case h_9 hkind =>
    cases h
    exact .inr (.returnType (Tree.isKind_iff.mpr hkind) hmem)
  case h_10 =>
    cases h
    cases hmem
  all_goals
    rename_i hkind
    cases h
    exact hkeywords hkind (by simp) hmem

lemma mem_blankMember {inClass : Bool} {next : Option Tree}
    (h : edit ∈ blankMember inClass next tree) :
    edit = blankTree tree ∨ inClass = true ∧ ∃ separator, next = some separator ∧
      isSeparator separator ∧ edit = blankTree separator := by
  unfold blankMember at h
  split at h
  next separator =>
    split at h
    next hseparator =>
      rw [Bool.and_eq_true] at hseparator
      simp only [List.mem_cons, List.not_mem_nil, or_false] at h
      exact h.imp_right fun h => ⟨hseparator.1, separator, rfl, hseparator.2, h⟩
    next => exact .inl (List.mem_singleton.mp h)
  next => exact .inl (List.mem_singleton.mp h)

lemma exportRanges_of_blankExport {names : List String} (hkind : tree.isKind .exportStatement)
    (hform : ExportForm.classify source tree = .ok (.declaration names)) :
    blankExport tree = (exportRanges source tree).map blankRange := by
  simp only [exportRanges, if_pos hkind, hform, blankExport]
  cases tree.token? "export" <;> rfl

/-- An export statement of a module takes out the ranges of the edits that it needs. -/
lemma exportRanges_eq_map {form : ExportForm} (hkind : tree.isKind .exportStatement)
    (hform : ExportForm.classify source tree = .ok form) :
    exportRanges source tree = (Exports.edits tree form).map rangeOf := by
  simp only [exportRanges, hkind, hform, if_true]
  cases form with
  | declaration names =>
    simp only [Exports.edits, blankExport]
    cases tree.token? "export" <;> rfl
  | _ => rfl

/-- A namespace with a body takes out its head and what the parts of its body take out. -/
lemma ownRanges_of_present {name : String} {body : Tree} (hnamespace : isNamespace tree)
    (hform : NamespaceForm.ofTree source tree = .ok (.present name body)) :
    ownRanges source tree =
      ⟨tree.start, body.start + 1⟩ :: body.children.flatMap (blockRanges source) := by
  obtain ⟨hname, hbody⟩ := child?_of_present hform
  obtain ⟨name, hname⟩ := Option.isSome_iff_exists.mp hname
  simp only [ownRanges_of_isNamespace hnamespace, namespaceRanges, hname, hbody]

/-- What a namespace makes for an export statement in it. -/
lemma namespaceExport_made {owner : String} {body : Tree} (hnamespace : isNamespace tree)
    (hform : NamespaceForm.ofTree source tree = .ok (.present owner body)) {statement : Tree}
    (hstatement : statement ∈ body.children) (hkind : statement.isKind .exportStatement)
    (h : namespaceExport source owner statement = .ok edits) (hmem : edit ∈ edits) :
    Makes source tree edit := by
  have hrange {range : Span} (h : range ∈ exportRanges source statement) :
      range ∈ ownRanges source tree := by
    rw [ownRanges_of_present hnamespace hform]
    exact List.mem_cons_of_mem _
      (List.mem_flatMap.mpr ⟨statement, hstatement, exportRanges_subset h⟩)
  unfold namespaceExport at h
  rw [bind_eq_ok_iff] at h
  obtain ⟨form, hclassify, h⟩ := h
  split at h
  · cases h
    rw [List.mem_singleton.mp hmem]
    exact .inl ⟨statement.span, hrange (by simp [exportRanges, hkind, hclassify]), rfl⟩
  · cases h
    rcases List.mem_append.mp hmem with hmem | hmem
    · rw [exportRanges_of_blankExport hkind hclassify] at hmem
      obtain ⟨range, hexport, rfl⟩ := List.mem_map.mp hmem
      exact .inl ⟨range, hrange hexport, rfl⟩
    · rw [List.mem_singleton.mp hmem]
      exact .inr (.assignment hnamespace hform hstatement hkind (.inl ⟨_, hclassify, rfl⟩))
  · cases h
    simp only [List.mem_cons, List.not_mem_nil, or_false] at hmem
    rcases hmem with rfl | rfl
    · exact .inl ⟨statement.span, hrange (by simp [exportRanges, hkind, hclassify]), rfl⟩
    · exact .inr (.assignment hnamespace hform hstatement hkind (.inr hclassify))
  · cases h
  · cases h

lemma exportInNamespace_made {owner : String} {body : Tree} (hnamespace : isNamespace tree)
    (hform : NamespaceForm.ofTree source tree = .ok (.present owner body)) {statement : Tree}
    (hstatement : statement ∈ body.children)
    (h : exportInNamespace source owner statement = .ok edits) :
    ∀ edit ∈ edits, Makes source tree edit := by
  intro edit hmem
  rw [exportInNamespace] at h
  split at h
  · exact namespaceExport_made hnamespace hform hstatement ‹_› h hmem
  · cases h
    cases hmem

lemma mem_separatorRanges_of_append {first last : List Tree} {separator : Tree}
    (hmember : isErasedMember tree) (hseparator : isSeparator separator) :
    separator.span ∈ separatorRanges isErasedMember (first ++ tree :: separator :: last) := by
  induction first with
  | nil => simp [separatorRanges, hmember, hseparator, Option.filter]
  | cons other first ih =>
    rw [List.cons_append, separatorRanges]
    split
    · exact List.mem_append_right _ ih
    · exact ih

lemma ownRanges_of_isAssertion {first last : List Tree} {value : Tree}
    (hassertion : isAssertion tree) (hchildren : tree.children = first ++ value :: last)
    (hfirst : ∀ child ∈ first, child.isNamed = false) (hvalue : value.isNamed) :
    ownRanges source tree = [⟨value.stop, tree.stop⟩] := by
  have hnone : first.filter Tree.isNamed = [] := by simpa using hfirst
  rw [ownRanges_eq_assertionRanges hassertion]
  simp [assertionRanges, Tree.namedChildren, hchildren, hnone, hvalue]

/-- Every edit of a tree is made by a node in it, but for one that blanks the separator after it. -/
theorem erase_made {inClass : Bool} {next : Option Tree}
    (h : erase source inClass next tree = .ok edits) (hmem : edit ∈ edits) :
    (∃ node ∈ tree.nodes, Makes source node edit) ∨
      inClass = true ∧ isErasedMember tree ∧ ∃ separator, next = some separator ∧
        isSeparator separator ∧ edit = blankTree separator := by
  induction tree using Tree.ofNodes generalizing inClass next edits with
  | h tree ih =>
    have hself {edit : Edit} (h : Makes source tree edit) :
        ∃ node ∈ tree.nodes, Makes source node edit := ⟨tree, Tree.mem_nodes_self tree, h⟩
    have hbelow {child node : Tree} (hchild : child ∈ tree.children) (hnode : node ∈ child.nodes)
        {next : Option Tree} {own : List Edit} (hown : erase source false next node = .ok own)
        (hmem : edit ∈ own) : ∃ node ∈ tree.nodes, Makes source node edit := by
      rcases ih child hchild node hnode hown hmem with ⟨other, hother, hmakes⟩ | ⟨hfalse, -⟩
      · exact ⟨other, Tree.mem_nodes_iff.mpr
          (.inr ⟨child, hchild, Tree.nodes_subset hnode hother⟩), hmakes⟩
      · cases hfalse
    have hwhole (h : ownRanges source tree = [tree.span]) (hedit : edit = blankTree tree) :
        ∃ node ∈ tree.nodes, Makes source node edit :=
      hself (.inl ⟨tree.span, by simp [h], hedit⟩)
    cases erase_erases h with
    | member hmember =>
      rcases mem_blankMember hmem with hedit | ⟨hclass, separator, hnext, hseparator, hedit⟩
      · exact .inl (hwhole (by simp [ownRanges, hmember]) hedit)
      · exact .inr ⟨hclass, hmember, separator, hnext, hseparator, hedit⟩
    | whole herased =>
      exact .inl (hwhole (by simp [ownRanges, herased]) (List.mem_singleton.mp hmem))
    | enumeration hkind hedit =>
      rw [List.mem_singleton.mp hmem]
      exact .inl (hself (.inr (.enumeration hkind hedit)))
    | absent hnamespace hform =>
      refine .inl (hwhole ?_ (List.mem_singleton.mp hmem))
      rw [ownRanges_of_isNamespace hnamespace, namespaceRanges]
      rcases child?_of_absent hform with h | h <;> simp [h]
    | present hnamespace hform hinner =>
      rename_i name body inner
      rcases List.mem_append.mp hmem with hmem | hmem
      · exact .inl (hself (.inr (.frame hnamespace hform hmem)))
      have hbody := Tree.mem_of_child? (child?_of_present hform).2
      obtain ⟨first, statement, last, own, hchildren, hown, hmem⟩ :=
        (walks_of_eraseStatements hinner).exists_of_mem hmem
      have hstatement : statement ∈ body.children := by simp [hchildren]
      obtain ⟨exported, hexported, inner, hinner, rfl⟩ := eraseStatement_ok.mp hown
      rcases List.mem_append.mp hmem with hmem | hmem
      · exact .inl (hself
          (exportInNamespace_made hnamespace hform hstatement hexported _ hmem))
      · exact .inl (hbelow hbody (Tree.mem_nodes_of_mem_children hstatement) hinner hmem)
    | assertion hassertion hchildren hfirst hvalue hinner =>
      rename_i first last value inner
      have hchild : value ∈ tree.children := by simp [hchildren]
      rcases List.mem_cons.mp hmem with rfl | hmem
      · refine .inl (hself (.inl ⟨⟨value.stop, tree.stop⟩, ?_, rfl⟩))
        rw [ownRanges_of_isAssertion hassertion hchildren hfirst hvalue]
        exact List.mem_singleton_self _
      · exact .inl (hbelow hchild (Tree.mem_nodes_self value) hinner hmem)
    | parts hkept hown hinner =>
      rcases List.mem_append.mp hmem with hmem | hmem
      · exact .inl (hself (ownEdits_made hkept hown hmem))
      obtain ⟨first, child, last, own, hchildren, hown, hmem⟩ :=
        (walks_of_eraseAmong hinner).exists_of_mem hmem
      have hchild : child ∈ tree.children := by simp [hchildren]
      rcases ih child hchild child (Tree.mem_nodes_self child) hown hmem with
        ⟨node, hnode, hmakes⟩ | ⟨hclass, hmember, separator, hnext, hseparator, rfl⟩
      · exact .inl ⟨node, Tree.mem_nodes_iff.mpr (.inr ⟨child, hchild, hnode⟩), hmakes⟩
      · obtain ⟨last, rfl⟩ := List.head?_eq_some_iff.mp hnext
        refine .inl (hself (.inl ⟨separator.span, ?_, rfl⟩))
        rw [hkept, markRanges, Tree.isKind_iff.mp hclass, hchildren]
        exact mem_separatorRanges_of_append hmember hseparator

end Stencil.Erasure
