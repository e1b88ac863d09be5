import Stencil.Proofs.ModuleEdits

/-!
# Ranges beside functions and namespaces

A range lies beside a node when it holds all of it or has no byte in common with it. What is taken
out of a module lies beside an arrow function, in one of its parts, or is its return type
(`moduleRanges_arrow`). What is made for a namespace, a method or an arrow function stands together
among the edits of a module, and the others lie beside it (`moduleEdits_isolated`).
-/

namespace Stencil.Erasure

open Text
open TypeScript (Tree Kind Span)

variable {source : List Char} {tree node child : Tree} {range : Span}

/-! ### Two nodes of a tree -/

/-- Of two nodes of a tree, one is in the other, or they have no byte in common. -/
lemma nodes_cases (htree : tree.Every (Tree.Nested source)) {a b : Tree} (ha : a ∈ tree.nodes)
    (hb : b ∈ tree.nodes) :
    a = b ∨ (∃ child ∈ a.children, b ∈ child.nodes) ∨ (∃ child ∈ b.children, a ∈ child.nodes) ∨
      a.stop ≤ b.start ∨ b.stop ≤ a.start := by
  induction tree using Tree.ofChildren with
  | h tree ih =>
    rcases Tree.mem_nodes_iff.mp ha with rfl | ⟨child, hchild, hmem⟩ <;>
      rcases Tree.mem_nodes_iff.mp hb with rfl | ⟨child', hchild', hmem'⟩
    · exact .inl rfl
    · exact .inr (.inl ⟨child', hchild', hmem'⟩)
    · exact .inr (.inr (.inl ⟨child, hchild, hmem⟩))
    · rcases htree.self.ordered.apart hchild hchild' with rfl | hapart
      · exact ih child hchild (htree.of_child hchild) hmem hmem'
      · have hwithin := Within.of_mem_nodes (htree.of_child hchild) hmem
        have hwithin' := Within.of_mem_nodes (htree.of_child hchild') hmem'
        obtain ⟨hstart, -, hstop⟩ := hwithin
        obtain ⟨hstart', -, hstop'⟩ := hwithin'
        simp only [Tree.start, Tree.stop] at *
        omega

/-- A tree with a named node in it is named. -/
lemma isNamed_of_mem_nodes (htree : tree.Sound source) (hnode : node ∈ tree.nodes)
    (hnamed : node.isNamed) : tree.isNamed := by
  rcases Tree.mem_nodes_iff.mp hnode with rfl | ⟨child, hchild, -⟩
  · exact hnamed
  by_contra hnot
  have hregular := htree.regular.self
  have hnone : tree.children = [] := by
    rcases Tree.isNamed_eq_false_iff.mp (Bool.not_eq_true _ ▸ hnot) with hcomment | ⟨text, htoken⟩
    · exact hregular.comment hcomment
    · exact hregular.token text htoken
  rw [hnone] at hchild
  cases hchild

/-! ### Ranges beside a node -/

/-- Whether a range holds a span or has no byte in common with it. -/
def Beside (span range : Span) : Prop :=
  range.stop ≤ span.start ∨ span.stop ≤ range.start ∨
    (range.start ≤ span.start ∧ span.stop ≤ range.stop)

lemma Beside.of_within {span : Span} (h : Beside tree.span range) (hspan : Within tree span) :
    Beside span range := by
  obtain ⟨_, _, _⟩ := hspan
  simp only [Beside, Tree.start, Tree.stop] at *
  omega

/-- What lies in one of two nodes that have no byte in common lies beside the other. -/
lemma Beside.of_apart (h : tree.stop ≤ node.start ∨ node.stop ≤ tree.start)
    (hrange : Within node range) : Beside tree.span range := by
  obtain ⟨_, _, _⟩ := hrange
  simp only [Beside, Tree.start, Tree.stop] at *
  omega

/-- A range between cuts of a tree lies beside its children. -/
lemma Aligned.beside (htree : tree.Nested source) (h : Aligned tree range)
    (hchild : child ∈ tree.children) : Beside child.span range := by
  have := h.start.outside htree hchild
  have := h.stop.outside htree hchild
  have := h.le
  simp only [Beside, Tree.start, Tree.stop] at *
  omega

lemma ClosesNamespace.within (htree : tree.Sound source) (h : ClosesNamespace tree range) :
    Within tree range := by
  obtain ⟨node, hnode, hnamespace, _, body, _, hbody, rfl⟩ := h
  have hsound := htree.of_mem hnode
  obtain ⟨-, opening, rest, -, -, -, hrest⟩ :=
    hsound.block_of_child? (exists_endingKind hnamespace) hbody
  have hle := hrest.le
  have hmem := hsound.ordered.mem (Tree.mem_of_child? hbody)
  refine .trans (.of_mem_nodes htree.nested hnode) ?_
  constructor <;> dsimp only <;> omega

section Namespace

variable {body part : Tree}

/-- What is named in a block stands between its braces. -/
lemma between_braces (hbody : body.Sound source) (hblock : body.isKind .statementBlock) :
    body.start + 2 ≤ body.stop ∧ ∀ part ∈ body.children, part.isNamed →
      body.start + 1 ≤ part.start ∧ part.stop + 1 ≤ body.stop := by
  obtain ⟨opening, inner, closing, comments, hchildren, hopening, hspan, hclosing, hlast,
    hcomments⟩ := hbody.regular.self.block hblock
  have hordered := hbody.ordered
  rw [hchildren] at hordered
  obtain ⟨-, -, hordered⟩ := hordered
  obtain ⟨mid, hfirst, hsecond⟩ := hordered.of_append
  have hopen : opening.stop = body.start + 1 := by rw [Tree.stop, hspan]
  have hmid := hfirst.le
  have hclosingStart := hsecond.1
  have hclosingStop := hsecond.2.2.le
  refine ⟨by omega, fun part hpart hnamed => ?_⟩
  have hother {other : Tree} (h : other.isKind .comment ∨ ∃ text, other.isToken text) :
      part ≠ other := by
    rintro rfl
    rw [Tree.isNamed_eq_false_iff.mpr h] at hnamed
    cases hnamed
  rw [hchildren] at hpart
  simp only [List.mem_cons, List.mem_append] at hpart
  have hinner : part ∈ inner := by
    rcases hpart with h | h | h | h
    · exact absurd h (hother (.inr ⟨_, hopening⟩))
    · exact h
    · exact absurd h (hother (.inr ⟨_, hclosing⟩))
    · exact absurd rfl (hother (.inl (hcomments part h)))
  have := hfirst.mem hinner
  omega

variable (htree : tree.Sound source) (hnamespace : isNamespace tree)
  (hbody : tree.child? .body = some body)
include htree hnamespace hbody

/-- What a namespace puts in the place of its head and of its closing brace lies beside the
statements. -/
lemma frame_beside (hpart : part ∈ body.children) (hnamed : part.isNamed) :
    Beside part.span ⟨tree.start, body.start + 1⟩ ∧
      Beside part.span ⟨body.stop - 1, body.stop⟩ := by
  have hmem := Tree.mem_of_child? hbody
  have hblock := (htree.block_of_child? (exists_endingKind hnamespace) hbody).1
  have := (between_braces (htree.of_child hmem) hblock).2 part hpart hnamed
  simp only [Beside, Tree.start, Tree.stop] at *
  omega

end Namespace

/-! ### Ranges beside a scope -/

/-- Whether a tree is an arrow function, a method or a namespace: as a part of a body it takes
nothing out. -/
def isScope (tree : Tree) : Bool :=
  tree.isKind .arrowFunction || tree.isKind .methodDefinition || isNamespace tree

lemma isScope_iff : isScope tree ↔ tree.symbol = .kind .arrowFunction ∨
    tree.symbol = .kind .methodDefinition ∨ tree.symbol = .kind .internalModule ∨
      tree.symbol = .kind .moduleDeclaration := by
  rw [isScope, Bool.or_eq_true, Bool.or_eq_true, isNamespace_iff, Tree.isKind_iff, Tree.isKind_iff,
    or_assoc]

lemma isScope_of_arrow (h : tree.isKind .arrowFunction) : isScope tree :=
  isScope_iff.mpr (.inl (Tree.isKind_iff.mp h))

lemma isScope_of_method (h : tree.isKind .methodDefinition) : isScope tree :=
  isScope_iff.mpr (.inr (.inl (Tree.isKind_iff.mp h)))

section Scope

variable {scope : Tree} (hscope : isScope scope)
include hscope

lemma isNamed_scope : scope.isNamed := by
  rcases isScope_iff.mp hscope with h | h | h | h <;> simp [Tree.isNamed, h]

/-- What a part of a body takes out lies beside the scopes in the body. -/
lemma blockRanges_scope (htree : tree.Sound source) {part : Tree} (hpart : part ∈ tree.children)
    (hrange : range ∈ blockRanges source part) (hchild : child ∈ tree.children)
    (hnode : scope ∈ child.nodes) : Beside scope.span range := by
  have hsound := htree.of_child hpart
  have hwithin := blockRanges_within htree hpart hrange
  have hnode' := Within.of_mem_nodes (htree.of_child hchild).nested hnode
  rcases htree.ordered.apart hchild hpart with rfl | hapart
  · rcases Tree.mem_nodes_iff.mp hnode with rfl | ⟨inner, hinner, hnode⟩
    · rcases isScope_iff.mp hscope with h | h | h | h <;>
        simp [blockRanges, exportRanges, Tree.isToken, Tree.isKind, h] at hrange
    · have haligned := blockRanges_aligned hsound.nested.self hrange
      exact (haligned.beside hsound.nested.self hinner).of_within
        (.of_mem_nodes (hsound.of_child hinner).nested hnode)
  · exact (Beside.of_apart hapart hwithin).of_within hnode'

/-- A tree with a scope in it is no token and no comment. -/
lemma isNamed_of_scope (htree : tree.Sound source) (hnode : scope ∈ tree.nodes) :
    tree.isNamed := isNamed_of_mem_nodes htree hnode (isNamed_scope hscope)

/-- The ranges of a namespace lie beside the scopes in it, and so does that of the brace that
closes it. -/
lemma namespace_scope (htree : tree.Sound source) (hnamespace : isNamespace tree) {body : Tree}
    (hbody : tree.child? .body = some body)
    (hrange : range = ⟨tree.start, body.start + 1⟩ ∨ range = ⟨body.stop - 1, body.stop⟩ ∨
      ∃ part ∈ body.children, range ∈ blockRanges source part)
    (hchild : child ∈ tree.children) (hnode : scope ∈ child.nodes) : Beside scope.span range := by
  have hmem := Tree.mem_of_child? hbody
  have hsound := htree.of_child hmem
  obtain ⟨hblock, opening, rest, -, -, -, hrest⟩ :=
    htree.block_of_child? (exists_endingKind hnamespace) hbody
  have hle := hrest.le
  have hwithin := Within.of_mem_nodes (htree.of_child hchild).nested hnode
  rcases htree.ordered.apart hchild hmem with rfl | hapart
  · rcases Tree.mem_nodes_iff.mp hnode with rfl | ⟨part, hpart, hnode⟩
    · rw [Tree.isKind_iff] at hblock
      rcases isScope_iff.mp hscope with h | h | h | h <;> simp [h] at hblock
    have hnamed := isNamed_of_scope hscope (hsound.of_child hpart) hnode
    have hwithin := Within.of_mem_nodes (hsound.of_child hpart).nested hnode
    obtain ⟨hhead, hclosing⟩ := frame_beside htree hnamespace hbody hpart hnamed
    rcases hrange with rfl | rfl | ⟨other, hother, hrange⟩
    · exact hhead.of_within hwithin
    · exact hclosing.of_within hwithin
    · exact blockRanges_scope hscope hsound hother hrange hpart hnode
  · refine Beside.of_within ?_ hwithin
    have := htree.ordered.mem hchild
    rcases hrange with rfl | rfl | ⟨other, hother, hrange⟩
    · simp only [Beside, Tree.start, Tree.stop] at *
      omega
    · simp only [Beside, Tree.start, Tree.stop] at *
      omega
    · exact .of_apart hapart (.trans
        (.of_mem_nodes hsound.nested (Tree.mem_nodes_of_mem_children hother))
        (blockRanges_within hsound hother hrange))

/-- What a node takes out lies beside the scopes in its children. -/
lemma ownRanges_scope (htree : tree.Sound source) (hrange : range ∈ ownRanges source tree)
    (hchild : child ∈ tree.children) (hnode : scope ∈ child.nodes) : Beside scope.span range := by
  rcases hnamespace : isNamespace tree with _ | _
  · have haligned := ownRanges_aligned htree.nested.self hnamespace hrange
    exact (haligned.beside htree.nested.self hchild).of_within
      (.of_mem_nodes (htree.of_child hchild).nested hnode)
  · rw [ownRanges_of_isNamespace hnamespace] at hrange
    rcases mem_namespaceRanges hrange with rfl | ⟨body, hbody, h⟩
    · have haligned := Aligned.span htree.nested.self
      exact (haligned.beside htree.nested.self hchild).of_within
        (.of_mem_nodes (htree.of_child hchild).nested hnode)
    · exact namespace_scope hscope htree hnamespace hbody (h.imp_right .inr) hchild hnode

/-- What is taken out of a module, or closes a namespace in it, lies beside a scope unless it is
taken out in the scope. -/
theorem moduleRanges_scope (htree : tree.WellFormed source) (hmem : scope ∈ tree.nodes)
    (hrange : range ∈ moduleRanges source tree ∨ ClosesNamespace tree range) :
    Beside scope.span range ∨ (∃ inner ∈ scope.nodes, range ∈ ownRanges source inner) ∨
      ClosesNamespace scope range := by
  have hsound := htree.toSound
  have hnot : ¬ scope = tree := by
    rintro rfl
    have := htree.isProgram
    rw [Tree.isKind_iff] at this
    rcases isScope_iff.mp hscope with h | h | h | h <;> simp [h] at this
  rw [moduleRanges, List.mem_append, List.mem_flatMap, List.mem_flatMap] at hrange
  rcases hrange with (⟨other, hother, hrange⟩ | ⟨statement, hstatement, hrange⟩) |
    ⟨other, hother, hnamespace, name, body, hname, hbody, rfl⟩
  · have hotherSound := hsound.of_mem hother
    rcases nodes_cases hsound.nested hmem hother with rfl | ⟨child, hchild, hin⟩ |
      ⟨child, hchild, hin⟩ | hapart
    · exact .inr (.inl ⟨scope, Tree.mem_nodes_self scope, hrange⟩)
    · exact .inr (.inl ⟨other, Tree.mem_nodes_iff.mpr (.inr ⟨child, hchild, hin⟩), hrange⟩)
    · exact .inl (ownRanges_scope hscope hotherSound hrange hchild hin)
    · exact .inl (.of_apart hapart (ownRanges_within hotherSound hrange))
  · rcases Tree.mem_nodes_iff.mp hmem with rfl | ⟨child, hchild, hin⟩
    · exact absurd rfl hnot
    · exact .inl (blockRanges_scope hscope hsound hstatement (exportRanges_subset hrange) hchild
        hin)
  · have hotherSound := hsound.of_mem hother
    have hcloses {inner : Tree} (hin : other ∈ inner.nodes) :
        ClosesNamespace inner ⟨body.stop - 1, body.stop⟩ :=
      ⟨other, hin, hnamespace, name, body, hname, hbody, rfl⟩
    rcases nodes_cases hsound.nested hmem hother with rfl | ⟨child, hchild, hin⟩ |
      ⟨child, hchild, hin⟩ | hapart
    · exact .inr (.inr (hcloses (Tree.mem_nodes_self scope)))
    · exact .inr (.inr (hcloses (Tree.mem_nodes_iff.mpr (.inr ⟨child, hchild, hin⟩))))
    · exact .inl (namespace_scope hscope hotherSound hnamespace hbody (.inr (.inl rfl)) hchild hin)
    · exact .inl (.of_apart hapart
        ((hcloses (Tree.mem_nodes_self other)).within hotherSound))

end Scope

/-- What is taken out of a module, or closes a namespace in it, lies beside an arrow function, in
one of its parts, or is its return type. -/
theorem moduleRanges_arrow {arrow : Tree} (hkind : arrow.isKind .arrowFunction)
    (htree : tree.WellFormed source) (harrow : arrow ∈ tree.nodes)
    (hrange : range ∈ moduleRanges source tree ∨ ClosesNamespace tree range) :
    Beside arrow.span range ∨ range ∈ returnTypeRanges source arrow ∨
      ∃ child ∈ arrow.children, Within child range := by
  have hsound := htree.toSound.of_mem harrow
  rcases moduleRanges_scope (isScope_of_arrow hkind) htree harrow hrange with
    hbeside | ⟨inner, hinner, hrange⟩ | ⟨inner, hinner, hnamespace, hcloses⟩
  · exact .inl hbeside
  · rcases Tree.mem_nodes_iff.mp hinner with rfl | ⟨child, hchild, hin⟩
    · exact .inr (.inl (ownRanges_arrowFunction hkind ▸ hrange))
    · exact .inr (.inr ⟨child, hchild, .of_mem_ownRanges (hsound.of_child hchild) hin hrange⟩)
  · rcases Tree.mem_nodes_iff.mp hinner with rfl | ⟨child, hchild, hin⟩
    · exact absurd hkind (not_isArrow_of_isNamespace hnamespace)
    · exact .inr (.inr ⟨child, hchild, ClosesNamespace.within (hsound.of_child hchild)
        ⟨inner, hin, hnamespace, hcloses⟩⟩)

/-! ### Edits beside scopes -/

/-- Whether each of these edits is an insertion or has a range beside the scopes in a tree. -/
def AllBeside (tree : Tree) (edits : List Edit) : Prop :=
  ∀ scope ∈ tree.nodes, isScope scope → ∀ edit ∈ edits,
    edit.start = edit.stop ∨ Beside scope.span (rangeOf edit)

variable {edits more : List Edit} {edit : Edit}

/-- A return type is moved when it holds line feeds: they are inserted behind the arrow. -/
lemma moveReturnType_cases (source : List Char) (arrow : Tree) :
    moveReturnType source arrow = [] ∨ ∃ type token, arrow.child? .returnType = some type ∧
      arrow.token? "=>" = some token ∧ 0 < countLineFeeds (type.chars source) ∧
      moveReturnType source arrow = [.replace type.start type.stop " ",
        .insert token.stop (lineFeeds (type.chars source))] := by
  unfold moveReturnType
  split
  next type token htype htoken =>
    dsimp only
    split
    next => exact .inl rfl
    next hfeeds =>
      refine .inr ⟨type, token, htype, htoken, Nat.pos_of_ne_zero fun hzero => hfeeds ?_, rfl⟩
      rw [lineFeeds, hzero]
      rfl
  next => exact .inl rfl

lemma AllBeside.nil (tree : Tree) : AllBeside tree [] := nofun

lemma AllBeside.append (h : AllBeside tree edits) (hmore : AllBeside tree more) :
    AllBeside tree (edits ++ more) := fun scope hmem hscope =>
  List.forall_mem_append.mpr ⟨h scope hmem hscope, hmore scope hmem hscope⟩

lemma AllBeside.of_mem (h : AllBeside tree edits) (hnode : node ∈ tree.nodes) :
    AllBeside node edits := fun scope hmem => h scope (Tree.nodes_subset hnode hmem)

/-- What a node makes by itself lies beside the scopes in its children. -/
lemma Makes.allBeside (htree : tree.Sound source) (h : ∀ edit ∈ edits, Makes source tree edit)
    (hchild : child ∈ tree.children) : AllBeside child edits := by
  intro scope hmem hscope edit hedit
  rcases h edit hedit with ⟨range, hrange, rfl⟩ | h
  · exact .inr (ownRanges_scope hscope htree hrange hchild hmem)
  cases h with
  | @frame name body _ hnamespace hform hedit =>
    have hbody := (child?_of_present hform).2
    simp only [namespaceFrame, List.mem_cons, List.not_mem_nil, or_false] at hedit
    rcases hedit with rfl | rfl
    · exact .inr (namespace_scope hscope htree hnamespace hbody (.inl rfl) hchild
        hmem)
    · exact .inr (namespace_scope hscope htree hnamespace hbody
        (.inr (.inl rfl)) hchild hmem)
  | enumeration _ hedit =>
    obtain ⟨hstart, hstop⟩ := enumEdit_range hedit
    rw [rangeOf, hstart, hstop]
    exact .inr (((Aligned.span htree.nested.self).beside htree.nested.self hchild).of_within
      (.of_mem_nodes (htree.of_child hchild).nested hmem))
  | assignment => exact .inl rfl
  | returnType _ hedit =>
    rcases moveReturnType_cases source tree with hnone | ⟨type, _, htype, -, -, hpair⟩
    · rw [hnone] at hedit
      cases hedit
    rw [hpair, List.mem_cons, List.mem_singleton] at hedit
    rcases hedit with rfl | rfl
    · have haligned := Aligned.of_child htree.nested.self (Tree.mem_of_child? htype)
      exact .inr ((haligned.beside htree.nested.self hchild).of_within
        (.of_mem_nodes (htree.of_child hchild).nested hmem))
    · exact .inl rfl
  | properties hmethod hedits hedit =>
    exact .inl (parameterProperties_placed htree hmethod hedits hedit).1

/-- What is made for a tree is inserted, lies in the tree or, in a class body, blanks the separator
after it. -/
lemma erase_within {inClass : Bool} {next : Option Tree} (htree : tree.Sound source)
    (h : erase source inClass next tree = .ok edits) (hedit : edit ∈ edits) :
    edit.start = edit.stop ∨ Within tree (rangeOf edit) ∨
      inClass ∧ ∃ separator, next = some separator ∧ rangeOf edit = separator.span := by
  rcases erase_made h hedit with ⟨node, hnode, hmakes⟩ | ⟨hclass, -, separator, hnext, -, rfl⟩
  · have hsound := htree.of_mem hnode
    have hin {range : Span} (h : Within node range) : Within tree range :=
      .trans (.of_mem_nodes htree.nested hnode) h
    rcases hmakes with ⟨range, hrange, rfl⟩ | hmakes
    · exact .inr (.inl (hin (ownRanges_within hsound hrange)))
    · cases hmakes.placed hsound with
      | insertion hempty _ => exact .inl hempty
      | range h => exact .inr (.inl (hin (ownRanges_within hsound h)))
      | closing h => exact .inr (.inl (hin (h.within hsound)))
  · exact .inr (.inr ⟨hclass, separator, hnext, rfl⟩)

/-- What is made for a tree lies beside the scopes in the trees before and after it. -/
lemma erase_allBeside {inClass : Bool} {first last : List Tree} {other : Tree} {lo hi : Nat}
    (hordered : Tree.Ordered lo hi (first ++ tree :: last)) (htree : tree.Sound source)
    (h : erase source inClass last.head? tree = .ok edits) (hother : other ∈ first ++ last)
    (hsound : other.Sound source) : AllBeside other edits := by
  intro scope hmem _ edit hedit
  have hwithin := Within.of_mem_nodes hsound.nested hmem
  obtain ⟨mid, hfirst, hordered⟩ := hordered.of_append
  have hlast := hordered.2.2
  have hapart : tree.stop ≤ other.start ∨ other.stop ≤ tree.start := by
    rcases List.mem_append.mp hother with hother | hother
    · exact .inr (Nat.le_trans (hfirst.mem hother).2.2 hordered.1)
    · exact .inl (hlast.mem hother).1
  rcases erase_within htree h hedit with hempty | hin | ⟨-, separator, hnext, heq⟩
  · exact .inl hempty
  · exact .inr ((Beside.of_apart hapart.symm hin).of_within hwithin)
  · refine .inr (Beside.of_within ?_ hwithin)
    rw [heq]
    have hseparator := List.mem_of_head? hnext
    have hin := hlast.mem hseparator
    rcases List.mem_append.mp hother with hother | hother
    · have hbefore := hfirst.mem hother
      have hstart := hordered.1
      have hle := hordered.2.1
      exact .of_apart (.inl (by omega)) (.span hin.2.1)
    rcases hlast.apart hother hseparator with rfl | hapart
    · exact .inr (.inr ⟨Nat.le_refl _, Nat.le_refl _⟩)
    · exact .of_apart hapart (.span hin.2.1)

/-! ### What is made for a scope -/

section Isolated

variable {scope : Tree}

/-- Whether what is made for a scope stands together among edits of which the rest lies beside
it. -/
def Isolated (source : List Char) (edits : List Edit) (scope : Tree) : Prop :=
  ∃ inClass next before own after, erase source inClass next scope = .ok own ∧
    edits = before ++ own ++ after ∧ AllBeside scope before ∧ AllBeside scope after

lemma Isolated.append {first last : List Edit} (h : Isolated source edits scope)
    (hfirst : AllBeside scope first) (hlast : AllBeside scope last) :
    Isolated source (first ++ edits ++ last) scope := by
  obtain ⟨inClass, next, before, own, after, hown, rfl, hbefore, hafter⟩ := h
  exact ⟨inClass, next, first ++ before, own, after ++ last, hown, by simp only [List.append_assoc],
    hfirst.append hbefore, hafter.append hlast⟩

/-- What is made for a scope stands together in a walk along trees when it does so in what is made
for the tree that holds it, and what is made for the others lies beside it. -/
lemma Walks.isolated {step : Option Tree → Tree → Except Flaw (List Edit)} {trees : List Tree}
    (h : Walks step trees edits) (hchild : child ∈ trees)
    (hstep : ∀ next own, step next child = .ok own → own ⊆ edits → Isolated source own scope)
    (hothers : ∀ lower other upper own, trees = lower ++ other :: upper → child ∈ lower ++ upper →
      step upper.head? other = .ok own → AllBeside scope own) : Isolated source edits scope := by
  obtain ⟨first, last, rfl⟩ := List.append_of_mem hchild
  obtain ⟨before, own, after, rfl, hown, hbefore, hafter⟩ := h.cut
  refine (hstep _ _ hown fun edit hedit => by simp [hedit]).append ?_ ?_
  · intro inner hinner hscope edit hedit
    obtain ⟨lower, other, upper, made, heq, hmem, hmade, hedit⟩ := hbefore edit hedit
    exact hothers lower other upper made heq (List.mem_append_right _ hmem) hmade inner hinner
      hscope edit hedit
  · intro inner hinner hscope edit hedit
    obtain ⟨lower, other, upper, made, heq, hmem, hmade, hedit⟩ := hafter edit hedit
    exact hothers lower other upper made heq (List.mem_append_left _ hmem) hmade inner hinner
      hscope edit hedit

/-- What is made for a scope stands together among what is made for a tree, unless an edit holds
all of the scope. -/
theorem erase_isolated (hscope : isScope scope) {inClass : Bool} {next : Option Tree}
    (htree : tree.Sound source) (h : erase source inClass next tree = .ok edits)
    (hmem : scope ∈ tree.nodes) (hkept : ∀ edit ∈ edits, ¬ Spans edit scope.span) :
    Isolated source edits scope := by
  induction tree using Tree.ofNodes generalizing inClass next edits with
  | h tree ih =>
    have hwithin := Within.of_mem_nodes htree.nested hmem
    rcases Tree.mem_nodes_iff.mp hmem with rfl | ⟨child, hchild, hmem⟩
    · exact ⟨inClass, next, [], edits, [], h, by simp, .nil _, .nil _⟩
    have hsound := htree.of_child hchild
    have hin := Within.of_mem_nodes hsound.nested hmem
    have hnamed := isNamed_of_scope hscope hsound hmem
    have hbeside {own : List Edit} (hmakes : ∀ edit ∈ own, Makes source tree edit) :
        AllBeside scope own := (Makes.allBeside htree hmakes hchild).of_mem hmem
    have hspanned {edit : Edit} (hedit : edit ∈ edits) (hstart : edit.start = tree.start)
        (hstop : edit.stop = tree.stop) : Isolated source edits scope :=
      absurd (.of_within hwithin hstart hstop) (hkept edit hedit)
    cases erase_erases h with
    | member => exact hspanned (mem_blankMember_self tree) rfl rfl
    | whole | absent => exact hspanned (List.mem_singleton_self _) rfl rfl
    | enumeration hkind hedit =>
      obtain ⟨hstart, hstop⟩ := enumEdit_range hedit
      exact hspanned (List.mem_singleton_self _) hstart hstop
    | present hnamespace hform hinner =>
      rename_i name body inner
      have hbody := Tree.mem_of_child? (child?_of_present hform).2
      rcases namespace_child htree hnamespace hform hchild with rfl | hle | hnot
      · rcases Tree.mem_nodes_iff.mp hmem with rfl | ⟨statement, hstatement, hmem⟩
        · have hblock := (htree.block_of_child? (exists_endingKind hnamespace)
            (child?_of_present hform).2).1
          rw [Tree.isKind_iff] at hblock
          rcases isScope_iff.mp hscope with h | h | h | h <;> simp [h] at hblock
        have hexport {statement : Tree} {exported : List Edit}
            (hstatement : statement ∈ child.children)
            (hexported : exportInNamespace source name statement = .ok exported) :
            AllBeside scope exported :=
          hbeside (exportInNamespace_made hnamespace hform hstatement hexported)
        rw [← List.append_nil inner, ← List.append_assoc]
        refine Isolated.append ?_ (hbeside fun edit hedit => .inr (.frame hnamespace hform hedit))
          (.nil _)
        refine (walks_of_eraseStatements hinner).isolated hstatement ?_ ?_
        · intro next own hown hsub
          obtain ⟨exported, hexported, own, herased, rfl⟩ := eraseStatement_ok.mp hown
          rw [← List.append_nil own, ← List.append_assoc]
          refine Isolated.append ?_ (hexport hstatement hexported) (.nil _)
          exact ih child hchild statement (Tree.mem_nodes_of_mem_children hstatement)
            (hsound.of_child hstatement) herased hmem fun edit hedit =>
              hkept edit (List.mem_append_right _ (hsub (List.mem_append_right _ hedit)))
        · intro lower other upper own hchildren hothers hown
          obtain ⟨exported, hexported, own, herased, rfl⟩ := eraseStatement_ok.mp hown
          have hother : other ∈ child.children := by simp [hchildren]
          exact (hexport hother hexported).append
            ((erase_allBeside (hchildren ▸ hsound.ordered) (hsound.of_child hother) herased hothers
              (hsound.of_child hstatement)).of_mem hmem)
      · refine absurd ⟨hwithin.start, ?_⟩ (hkept _ (List.mem_append_left _ List.mem_cons_self))
        exact Nat.le_trans hin.stop (Nat.le_succ_of_le hle)
      · rw [hnamed] at hnot
        cases hnot
    | assertion hassertion hchildren hfirst hvalue hinner =>
      rename_i first last value inner
      rcases assertion_child htree hchildren hfirst hchild with rfl | hle | hnot
      · have hmakes : Makes source tree (.blank child.stop tree.stop) := by
          refine .inl ⟨⟨child.stop, tree.stop⟩, ?_, rfl⟩
          rw [ownRanges_of_isAssertion hassertion hchildren hfirst hvalue]
          exact List.mem_singleton_self _
        rw [← List.append_nil inner]
        exact (ih child hchild child (Tree.mem_nodes_self child) hsound hinner hmem
          fun edit hedit => hkept edit (List.mem_cons_of_mem _ hedit)).append
            (hbeside (List.forall_mem_singleton.mpr hmakes)) (.nil _)
      · exact absurd ⟨Nat.le_trans hle hin.start, hwithin.stop⟩ (hkept _ List.mem_cons_self)
      · rw [hnamed] at hnot
        cases hnot
    | parts hkept' hown hinner =>
      rename_i own inner
      rw [← List.append_nil inner, ← List.append_assoc]
      refine Isolated.append ?_ (hbeside fun edit hedit => ownEdits_made hkept' hown hedit) (.nil _)
      refine (walks_of_eraseAmong hinner).isolated hchild (fun next own hown hsub => ?_) ?_
      · exact ih child hchild child (Tree.mem_nodes_self child) hsound hown hmem fun edit hedit =>
          hkept edit (List.mem_append_right _ (hsub hedit))
      · intro lower other upper own hchildren hothers hown
        have hother : other ∈ tree.children := by simp [hchildren]
        exact (erase_allBeside (hchildren ▸ htree.ordered) (htree.of_child hother) hown hothers
          hsound).of_mem hmem

/-- What is made for a scope stands together among the edits of a module, unless one of them holds
all of the scope. -/
theorem moduleEdits_isolated {exports : Exports} (hscope : isScope scope)
    (htree : tree.WellFormed source) (hedits : moduleEdits source tree = .ok (edits, exports))
    (hmem : scope ∈ tree.nodes) (hkept : ∀ edit ∈ edits, ¬ Spans edit scope.span) :
    Isolated source edits scope := by
  obtain ⟨erasing, exporting, herasing, hexporting, rfl⟩ := exists_of_moduleEdits hedits
  rw [← List.nil_append erasing]
  refine (erase_isolated hscope htree.toSound herasing hmem fun edit hedit =>
    hkept edit (List.mem_append_left _ hedit)).append (.nil _) ?_
  intro inner hinner hscope' edit hedit
  obtain ⟨first, statement, last, own, hchildren, hown, hedit⟩ := hexporting.exists_of_mem hedit
  have hstatement : statement ∈ tree.children :=
    Tree.mem_children_of_mem_namedChildren (by simp [hchildren])
  rcases hkind : statement.isKind .exportStatement with _ | _
  · rw [exportStatement, hkind] at hown
    cases hown
    cases hedit
  obtain ⟨form, hform, rfl⟩ := exportStatement_ok hown hkind
  have hrange : rangeOf edit ∈ exportRanges source statement := by
    rw [exportRanges_eq_map hkind hform]
    exact List.mem_map_of_mem hedit
  rcases Tree.mem_nodes_iff.mp (Tree.nodes_subset hmem hinner) with rfl | ⟨child, hchild, hin⟩
  · have := htree.isProgram
    rw [Tree.isKind_iff] at this
    rcases isScope_iff.mp hscope' with h | h | h | h <;> simp [h] at this
  · exact .inr (blockRanges_scope hscope' htree.toSound hstatement (exportRanges_subset hrange)
      hchild hin)

end Isolated

end Stencil.Erasure
