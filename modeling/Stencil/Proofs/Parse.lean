import Stencil.Proofs.Blocks
import Stencil.TypeScript.Parse

/-!
# The trees of modules

The comments of a source stand where the tree has none of its own tokens, so that putting them in
keeps a tree nested and regular. `parse_wellFormed` states what is known of the tree of any source
that parses.
-/

namespace Stencil.TypeScript

open Text

/-! ### Well-formed trees -/

/-- Whether all nodes of a tree are nested and regular. -/
structure Tree.Sound (source : List Char) (tree : Tree) : Prop where
  nested : tree.Every (Tree.Nested source)
  regular : tree.Every (Tree.Regular source)

namespace Tree.Sound

variable {source : List Char} {tree child : Tree}

lemma of_child (h : tree.Sound source) (hchild : child ∈ tree.children) : child.Sound source :=
  ⟨h.nested.of_child hchild, h.regular.of_child hchild⟩

lemma of_mem (h : tree.Sound source) (hnode : child ∈ tree.nodes) : child.Sound source :=
  ⟨h.nested.of_mem hnode, h.regular.of_mem hnode⟩

lemma ordered (h : tree.Sound source) : Ordered tree.start tree.stop tree.children :=
  h.nested.self.ordered

/-- The body of a namespace or a method is a block that begins with a brace. -/
lemma block_of_child? (h : tree.Sound source) (hkind : ∃ kind ∈ endingKinds, tree.isKind kind)
    {body : Tree} (hbody : tree.child? .body = some body) :
    body.isKind .statementBlock ∧ ∃ opening rest, body.children = opening :: rest ∧
      opening.isToken "\x7b" ∧ opening.span = ⟨body.start, body.start + 1⟩ ∧
      Ordered (body.start + 1) body.stop rest := by
  obtain ⟨kind, hending, hkind⟩ := hkind
  have hmem := mem_of_child? hbody
  have hblock := (h.regular.self.body kind hending hkind).isBlock body hmem (role_of_child? hbody)
  obtain ⟨opening, inner, closing, comments, hchildren, htoken, hspan, -, -, -⟩ :=
    (h.of_child hmem).regular.self.block hblock
  refine ⟨hblock, opening, _, hchildren, htoken, hspan, ?_⟩
  have hordered := (h.of_child hmem).ordered
  rw [hchildren] at hordered
  simpa [stop, hspan] using hordered.2.2

/-- What comes right after the first byte of such a body begins at a boundary. -/
lemma isBoundary_of_child? (h : tree.Sound source)
    (hkind : ∃ kind ∈ endingKinds, tree.isKind kind) {body : Tree}
    (hbody : tree.child? .body = some body) : IsBoundary source (body.start + 1) := by
  obtain ⟨-, opening, rest, hchildren, -, hspan, -⟩ := h.block_of_child? hkind hbody
  have hopening : opening ∈ body.children := by rw [hchildren]; exact List.mem_cons_self ..
  have hstop := ((h.of_child (mem_of_child? hbody)).of_child hopening).nested.self.stop
  rwa [Tree.stop, hspan] at hstop

end Tree.Sound

/-- Whether a tree is that of a whole module. -/
structure Tree.WellFormed (source : List Char) (tree : Tree) : Prop extends tree.Sound source where
  isProgram : tree.isKind .program

/-! ### Comments -/

/-- Whether a tree is a comment without any role. -/
def Tree.IsComment (tree : Tree) : Prop :=
  tree.symbol = .kind .comment ∧ tree.role = none ∧ tree.children = []

namespace Tree.IsComment

variable {tree : Tree}

lemma isKind (h : tree.IsComment) : tree.isKind .comment := isKind_iff.mpr h.1

lemma every_regular {source : List Char} (h : tree.IsComment) :
    tree.Every (Tree.Regular source) := by
  obtain ⟨symbol, role, span, children⟩ := tree
  obtain ⟨rfl, rfl, rfl⟩ := h
  rw [every_iff]
  exact ⟨.of_leaf nofun nofun, List.forall_mem_nil _⟩

end Tree.IsComment

variable {source : List Char}

lemma isComment_of_mem_commentsIn {start skip : Nat} {text : List Char} :
    ∀ tree ∈ commentsIn start skip text, tree.IsComment := by
  induction text generalizing start skip with
  | nil => cases skip <;> exact List.forall_mem_nil _
  | cons c text ih =>
    cases skip with
    | succ skip => exact ih
    | zero =>
      unfold commentsIn
      split
      next => exact List.forall_mem_cons.mpr ⟨⟨rfl, rfl, rfl⟩, ih⟩
      next => exact ih

/-- The comments in a part of the source stand in order there, after what is passed over. -/
lemma commentsIn_inOrder {first text last : List Char} (hsource : source = first ++ (text ++ last))
    (skip : Nat) :
    InOrder source (size first + size (text.take skip)) (size first + size text)
      (commentsIn (size first) skip text) := by
  induction text generalizing first skip with
  | nil => cases skip <;> exact .nil (by simp)
  | cons c text ih =>
    have ih := fun skip => @ih (first ++ [c]) (by simp [hsource]) skip
    simp only [size_append, size_cons, size_nil, Nat.add_zero] at ih ⊢
    match skip with
    | skip + 1 =>
      simp only [commentsIn, List.take_succ_cons, size_cons, ← Nat.add_assoc]
      exact ih skip
    | 0 =>
      simp only [commentsIn, List.take_zero, size_nil, Nat.add_zero, ← Nat.add_assoc]
      split
      next n _ =>
        have hsize : size ((c :: text).take n) ≤ c.utf8Size + size (text.take (n - 1)) := by
          cases n <;> simp
        have hstop : IsBoundary source (size first + size ((c :: text).take n)) := by
          refine ⟨first ++ (c :: text).take n, (c :: text).drop n ++ last, ?_, size_append _ _⟩
          rw [hsource, List.append_assoc, ← List.append_assoc (List.take n _),
            List.take_append_drop]
        have hcomment : InOrder source (size first) (size first + size ((c :: text).take n))
            [.node (.kind .comment) none
              ⟨size first, size first + size ((c :: text).take n)⟩ []] :=
          .node (.nil (by omega)) ⟨first, c :: text ++ last, hsource, rfl⟩ hstop (Nat.le_refl _)
            (Nat.le_refl _)
        exact hcomment.append ((ih (n - 1)).weaken (by omega) (Nat.le_refl _))
      next => exact (ih 0).weaken (by simp) (Nat.le_refl _)

lemma isComment_of_mem_commentsBetween {start stop : Nat} :
    ∀ tree ∈ commentsBetween source start stop, tree.IsComment := by
  unfold commentsBetween
  split
  next => exact isComment_of_mem_commentsIn
  next => exact List.forall_mem_nil _

/-- The comments between two boundaries stand in order there. -/
lemma commentsBetween_inOrder {start stop : Nat} (hstart : IsBoundary source start)
    (hstop : IsBoundary source stop) (hle : start ≤ stop) :
    InOrder source start stop (commentsBetween source start stop) := by
  unfold commentsBetween
  split
  next =>
    have hslice : (⟨start, stop⟩ : Span).IsSlice source := ⟨hstart, hstop, hle⟩
    obtain ⟨first, last, hsource, rfl, hsize⟩ := hslice.slice_eq
    have hcomments := commentsIn_inOrder hsource 0
    rw [hsize] at hcomments
    simpa using hcomments
  next => exact .nil hle

lemma commentsBetween_self (place : Nat) : commentsBetween source place place = [] := by
  rw [commentsBetween, if_neg (by omega)]

/-! ### Trees with their comments -/

namespace Tree

section

variable (source) (tree : Tree)

@[simp] lemma symbol_withComments : (tree.withComments source).symbol = tree.symbol := by
  rcases tree with ⟨_, _, _, _ | _⟩ <;> simp [withComments]

@[simp] lemma role_withComments : (tree.withComments source).role = tree.role := by
  rcases tree with ⟨_, _, _, _ | _⟩ <;> simp [withComments, role]

@[simp] lemma span_withComments : (tree.withComments source).span = tree.span := by
  rcases tree with ⟨_, _, _, _ | _⟩ <;> simp [withComments, span]

@[simp] lemma start_withComments : (tree.withComments source).start = tree.start := by
  simp [start]

@[simp] lemma stop_withComments : (tree.withComments source).stop = tree.stop := by
  simp [stop]

end

variable {tree : Tree}

lemma withComments_eq_self (h : tree.children = []) : tree.withComments source = tree := by
  obtain ⟨symbol, role, span, children⟩ := tree
  cases h
  simp [withComments]

lemma withComments_eq (h : tree.children ≠ []) :
    tree.withComments source = .node tree.symbol tree.role tree.span
      (withCommentsAmong source tree.start tree.stop tree.children) := by
  obtain ⟨symbol, role, span, children⟩ := tree
  rw [withComments]
  · rfl
  · exact h

lemma mem_withCommentsAmong {cursor stop : Nat} {trees : List Tree}
    (h : tree ∈ withCommentsAmong source cursor stop trees) :
    tree.IsComment ∨ ∃ other ∈ trees, tree = other.withComments source := by
  induction trees generalizing cursor with
  | nil =>
    rw [withCommentsAmong] at h
    exact .inl (isComment_of_mem_commentsBetween tree h)
  | cons first trees ih =>
    simp only [withCommentsAmong, List.mem_append, List.mem_cons] at h
    rcases h with h | rfl | h
    · exact .inl (isComment_of_mem_commentsBetween tree h)
    · exact .inr ⟨first, List.mem_cons_self .., rfl⟩
    · refine (ih h).imp_right ?_
      rintro ⟨other, hmem, heq⟩
      exact ⟨other, List.mem_cons_of_mem _ hmem, heq⟩

/-- Among trees with comments put in, what comes after one of them comes after it still. -/
lemma withCommentsAmong_append_cons (cursor stop : Nat) (first : List Tree) (tree : Tree)
    (last : List Tree) :
    ∃ first', withCommentsAmong source cursor stop (first ++ tree :: last) =
      first' ++ tree.withComments source :: withCommentsAmong source tree.stop stop last := by
  induction first generalizing cursor with
  | nil =>
    exact ⟨commentsBetween source cursor tree.start, by rw [List.nil_append, withCommentsAmong]⟩
  | cons other first ih =>
    obtain ⟨first', heq⟩ := ih other.stop
    refine ⟨commentsBetween source cursor other.start ++ other.withComments source :: first', ?_⟩
    rw [List.cons_append, withCommentsAmong, heq, List.append_assoc, List.cons_append]

lemma braced_withCommentsAmong {stop : Nat} {children : List Tree}
    (h : Braced tree.start children) :
    Braced tree.start (withCommentsAmong source tree.start stop children) := by
  obtain ⟨opening, inner, closing, comments, rfl, hopening, hspan, hclosing, hstop, hcomments⟩ := h
  obtain ⟨inner', heq⟩ :=
    @withCommentsAmong_append_cons source opening.stop stop inner closing comments
  have hstart : opening.start = tree.start := by rw [start, hspan]
  refine ⟨opening.withComments source, inner', closing.withComments source,
    withCommentsAmong source closing.stop stop comments, ?_, ?_, ?_, ?_, ?_, ?_⟩
  · rw [withCommentsAmong, hstart, commentsBetween_self, List.nil_append, heq]
  · rwa [isToken, symbol_withComments]
  · rwa [span_withComments]
  · rwa [isToken, symbol_withComments]
  · rwa [stop_withComments, start_withComments]
  · intro other hmem
    rcases mem_withCommentsAmong hmem with hcomment | ⟨comment, hcomment, rfl⟩
    · exact hcomment.isKind
    · rw [isKind, symbol_withComments]
      exact hcomments comment hcomment

lemma endsInBlock_withCommentsAmong {cursor stop : Nat} {children : List Tree}
    (h : EndsInBlock children) : EndsInBlock (withCommentsAmong source cursor stop children) := by
  constructor
  · intro other hmem hrole
    rcases mem_withCommentsAmong hmem with hcomment | ⟨child, hchild, rfl⟩
    · rw [hcomment.2.1] at hrole
      cases hrole
    · rw [role_withComments] at hrole
      rw [isKind, symbol_withComments]
      exact h.isBlock child hchild hrole
  · obtain ⟨-, hlast⟩ := h
    have hcomments (start stop : Nat) :
        ∀ tree ∈ commentsBetween source start stop, tree.role ≠ some .body := by
      intro tree hmem
      simp [(isComment_of_mem_commentsBetween tree hmem).2.1]
    induction children generalizing cursor with
    | nil =>
      rw [withCommentsAmong]
      exact (EndsInBlock.of_noBody (hcomments _ _)).last
    | cons child children ih =>
      obtain ⟨hchild, hlast⟩ := List.pairwise_cons.mp hlast
      rw [withCommentsAmong]
      refine List.pairwise_append.mpr ⟨(EndsInBlock.of_noBody (hcomments _ _)).last,
        List.pairwise_cons.mpr ⟨?_, ih hlast⟩,
        fun tree hmem _ _ hrole => absurd hrole (hcomments _ _ tree hmem)⟩
      intro other hmem hrole
      rw [role_withComments] at hrole
      rcases mem_withCommentsAmong hmem with hcomment | ⟨later, hlater, rfl⟩
      · exact hcomment.isKind
      · rw [isKind, symbol_withComments]
        exact hchild later hlater hrole

/-- A regular node stays one when comments are put among its children. -/
lemma Regular.withComments (h : tree.Regular source) (hchildren : tree.children ≠ []) :
    (Tree.node tree.symbol tree.role tree.span
      (withCommentsAmong source tree.start tree.stop tree.children)).Regular source where
  token text htext := absurd (h.token text htext) hchildren
  comment hcomment := absurd (h.comment hcomment) hchildren
  string := h.string
  block hblock := braced_withCommentsAmong (h.block hblock)
  body kind hkind hbody := endsInBlock_withCommentsAmong (h.body kind hkind hbody)

/-- Trees in order stay so when comments are put among them. -/
lemma inOrder_withCommentsAmong {cursor stop : Nat} {trees : List Tree}
    (hordered : Ordered cursor stop trees) (hcursor : IsBoundary source cursor)
    (hstop : IsBoundary source stop) (hnested : ∀ tree ∈ trees, tree.Nested source)
    (hevery : ∀ tree ∈ trees, (tree.withComments source).Every (Nested source)) :
    InOrder source cursor stop (withCommentsAmong source cursor stop trees) := by
  induction trees generalizing cursor with
  | nil =>
    rw [withCommentsAmong]
    exact commentsBetween_inOrder hcursor hstop hordered
  | cons tree trees ih =>
    obtain ⟨hcursor', hspan, hrest⟩ := hordered
    obtain ⟨htree, hnested⟩ := List.forall_mem_cons.mp hnested
    obtain ⟨htree', hevery⟩ := List.forall_mem_cons.mp hevery
    rw [withCommentsAmong, ← List.singleton_append]
    refine (commentsBetween_inOrder hcursor htree.start hcursor').append (.append ⟨?_, ?_⟩
      (ih hrest htree.stop hnested hevery))
    · rw [← stop_withComments source tree, ← start_withComments source tree]
      exact ⟨Nat.le_refl _, by simpa, Nat.le_refl _⟩
    · exact List.forall_mem_singleton.mpr htree'

/-- A tree stays nested and regular when comments are put into it. -/
lemma every_withComments (hnested : tree.Every (Nested source))
    (hregular : tree.Every (Regular source)) :
    (tree.withComments source).Every (Nested source) ∧
    (tree.withComments source).Every (Regular source) := by
  induction tree using ofChildren with
  | h tree ih =>
    rcases hchildren : tree.children with _ | ⟨child, children⟩
    · rw [withComments_eq_self hchildren]
      exact ⟨hnested, hregular⟩
    · have hne : tree.children ≠ [] := by simp [hchildren]
      have ih (child : Tree) (hchild : child ∈ tree.children) :=
        ih child hchild (hnested.of_child hchild) (hregular.of_child hchild)
      have hself := hnested.self
      have hinorder := inOrder_withCommentsAmong hself.ordered hself.start hself.stop
        (fun child hchild => (hnested.of_child hchild).self) fun child hchild => (ih child hchild).1
      rw [withComments_eq hne, every_iff, every_iff]
      refine ⟨⟨⟨hself.start, hself.stop, hinorder.ordered⟩, hinorder.nested⟩,
        hregular.self.withComments hne, fun other hmem => ?_⟩
      rcases mem_withCommentsAmong hmem with hcomment | ⟨child, hchild, rfl⟩
      · exact hcomment.every_regular
      · exact (ih child hchild).2

end Tree

/-! ### Modules -/

/-- The tree of a source that parses is nested and regular. -/
theorem parse_wellFormed {source : List Char} {tree : Tree} (h : parse source = .ok tree) :
    tree.WellFormed source := by
  unfold parse at h
  split at h
  next root rest later hread =>
    cases h
    cases read_reads hread with | ref hprogram =>
    have hplace := Place.first_valid source
    have hregular :=
      hprogram.regular hplace rfl (List.forall_mem_nil _) root (List.mem_cons_self ..)
    cases hprogram with | node hrules =>
    rename_i trees
    have hinorder := ((hrules.inOrder hplace).1 rfl).1
    have hordered : Tree.Ordered 0 (size source) trees :=
      hinorder.ordered.weaken (Nat.zero_le _) (hrules.valid hplace).1.isBoundary_position.le
    have hevery (tree : Tree) (hmem : tree ∈ trees) :=
      Tree.every_withComments (hinorder.nested tree hmem) (hregular.of_child hmem)
    have hmodule := Tree.inOrder_withCommentsAmong hordered (isBoundary_zero source)
      (isBoundary_size source) (fun tree hmem => (hinorder.nested tree hmem).self)
      fun tree hmem => (hevery tree hmem).1
    refine ⟨⟨Tree.every_iff.mpr ⟨⟨isBoundary_zero source, isBoundary_size source,
      hmodule.ordered⟩, hmodule.nested⟩, Tree.every_iff.mpr
        ⟨.of_node nofun nofun nofun (by simp [endingKinds]), fun tree hmem => ?_⟩⟩, rfl⟩
    rcases Tree.mem_withCommentsAmong hmem with hcomment | ⟨tree, htree, rfl⟩
    · exact hcomment.every_regular
    · exact (hevery tree htree).2
  all_goals cases h

end Stencil.TypeScript
