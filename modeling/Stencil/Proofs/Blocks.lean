import Stencil.Proofs.Grammar

/-!
# Leaves, blocks and bodies

What the grammar promises about the children of some nodes: tokens and comments have none, a block
stands between braces, and the body of a namespace or a method is a block after which only comments
come. All trees that are read by the grammar are regular in this sense (`Reads.regular`).
-/

namespace Stencil.TypeScript

open Text

/-! ### Regular nodes -/

/-- Whether the children of a node at `start` are enclosed in braces, which comments may follow. -/
def Braced (start : Nat) (children : List Tree) : Prop :=
  ∃ opening inner closing comments,
    children = opening :: (inner ++ closing :: comments) ∧
    opening.isToken "\x7b" ∧ opening.span = ⟨start, start + 1⟩ ∧
    closing.isToken "\x7d" ∧ closing.stop = closing.start + 1 ∧
    ∀ tree ∈ comments, tree.isKind .comment

/-- Whether each body among these children is a block, after which only comments come. -/
structure EndsInBlock (children : List Tree) : Prop where
  isBlock : ∀ tree ∈ children, tree.role = some .body → tree.isKind .statementBlock
  last : children.Pairwise fun tree later => tree.role = some .body → later.isKind .comment

/-- The kinds of nodes whose body is a block that stands last. -/
def endingKinds : List Kind := [.internalModule, .moduleDeclaration, .methodDefinition]

/-- What stands between the quotes of a string literal. -/
def Tree.content (tree : Tree) : Span := ⟨tree.start + 1, tree.stop - 1⟩

/-- Whether a node and its children are as the grammar promises. -/
structure Tree.Regular (source : List Char) (tree : Tree) : Prop where
  token : ∀ text, tree.isToken text → tree.children = []
  comment : tree.isKind .comment → tree.children = []
  string : tree.isKind .string → tree.content.IsSlice source
  block : tree.isKind .statementBlock → Braced tree.start tree.children
  body : ∀ kind ∈ endingKinds, tree.isKind kind → EndsInBlock tree.children

namespace Tree.Regular

variable {source : List Char}

lemma of_leaf {symbol : Symbol} {role : Option Role} {span : Span}
    (h : symbol ≠ .kind .statementBlock)
    (hstring : symbol = .kind .string → (⟨span.start + 1, span.stop - 1⟩ : Span).IsSlice source) :
    (Tree.node symbol role span []).Regular source where
  token _ _ := rfl
  comment _ := rfl
  string hkind := hstring (isKind_iff.mp hkind)
  block hkind := absurd (isKind_iff.mp hkind) h
  body _ _ _ := ⟨nofun, .nil⟩

lemma of_node {kind : Kind} {role : Option Role} {span : Span} {children : List Tree}
    (hcomment : kind ≠ .comment) (hstring : kind ≠ .string)
    (hblock : kind = .statementBlock → Braced span.start children)
    (hbody : kind ∈ endingKinds → EndsInBlock children) :
    (Tree.node (.kind kind) role span children).Regular source := by
  constructor <;> simp only [isToken_iff, isKind_iff, symbol_node, Symbol.kind.injEq]
  · nofun
  · exact fun h => absurd h hcomment
  · exact fun h => absurd h hstring
  · exact hblock
  · rintro _ hmem rfl
    exact hbody hmem

lemma withRole_iff {tree : Tree} {role : Role} :
    (tree.withRole role).Regular source ↔ tree.Regular source := by
  constructor <;> rintro ⟨htoken, hcomment, hstring, hblock, hbody⟩ <;>
    simp only [isToken, isKind, content, symbol_withRole, start_withRole, stop_withRole,
      children_withRole] at *
  · exact ⟨htoken, hcomment, hstring, hblock, hbody⟩
  · constructor <;> simp only [isToken, isKind, content, symbol_withRole, start_withRole,
      stop_withRole, children_withRole] <;> assumption

end Tree.Regular

/-! ### Checks on rules -/

namespace Rule

/-- Whether the rule reads the end of a statement, if there is one, and nothing else. -/
def isEnding : GrammarRule → Bool
  | .choice (.ending _) .empty => true
  | _                          => false

/-- Whether the rule reads something between braces and then builds nothing more. -/
def isBlock : GrammarRule → Bool
  | .seq (.mark opening) (.seq _ (.seq (.mark closing) last)) =>
    opening == "\x7b" && closing == "\x7d" && isEnding last
  | _ => false

/-- Whether nothing that the rule builds is a body. -/
def buildsNoBody : GrammarRule → Bool
  | .role given _                             => given != .body
  | .seq first second | .choice first second | .grow first second =>
    buildsNoBody first && buildsNoBody second
  | .many rule | .only _ rule | .tails rule   => buildsNoBody rule
  | _                                         => true

/-- Whether the rule builds no body but a block at its end. -/
def endsInBlock : GrammarRule → Bool
  | .seq first second                  => buildsNoBody first && endsInBlock second
  | .choice first second               => endsInBlock first && endsInBlock second
  | .role .body (.ref .statementBlock) => true
  | .empty                             => true
  | _                                  => false

/-- Whether the node that the rule builds of this kind is regular. -/
def isRegularNode (kind : Kind) (rule : GrammarRule) : Bool :=
  if kind = .statementBlock then isBlock rule
  else if endingKinds.contains kind then endsInBlock rule
  else kind != .comment && kind != .string

/-- Whether all nodes that the rule builds by itself are regular. -/
def isRegular : GrammarRule → Bool
  | .leaf lexeme kind                            =>
    kind != .statementBlock && (kind != .string || lexeme == .string)
  | .node kind rule                              => isRegular rule && isRegularNode kind rule
  | .adopt kind _ rule                           =>
    isRegular rule && !(.statementBlock :: .comment :: .string :: endingKinds).contains kind
  | .seq first second | .choice first second | .grow first second =>
    isRegular first && isRegular second
  | .many rule | .role _ rule | .only _ rule | .tails rule => isRegular rule
  | _                                            => true

/-- Whether all that the rule builds is regular, and no body is among it. -/
def isOrderly (rule : GrammarRule) : Bool := isRegular rule && buildsNoBody rule

end Rule

lemma isOrderly_grammar (nonterminal : Nonterminal) : (grammar nonterminal).isOrderly := by
  cases nonterminal with
  | statement flag | methodDefinition flag | type flag | unionType flag | intersectionType flag
  | operatorType flag | typeAscription flag | returnAscription flag | indexSignature flag =>
    cases flag <;> rfl
  | expressions setting | expression setting | binary setting | unary setting | chain setting
  | primary setting | arrowFunction setting | newExpression setting =>
    rcases setting with ⟨_ | _, _ | _, _ | _⟩ <;> rfl
  | _ => rfl

/-! ### String literals -/

/-- What is read to the end of a string literal ends with the quote. -/
lemma stringRest?_eq_some {quote : Char} {skip n : Nat} {text : List Char}
    (h : stringRest? quote skip text = some n) :
    ∃ inner rest, text = inner ++ quote :: rest ∧ n = inner.length + 1 := by
  induction text generalizing skip n with
  | nil => cases skip <;> cases h
  | cons c text ih =>
    have of_rest {skip : Nat} (h : (stringRest? quote skip text).map (· + 1) = some n) :
        ∃ inner rest, c :: text = inner ++ quote :: rest ∧ n = inner.length + 1 := by
      obtain ⟨m, hrest, rfl⟩ := Option.map_eq_some_iff.mp h
      obtain ⟨inner, rest, rfl, rfl⟩ := ih hrest
      exact ⟨c :: inner, rest, rfl, rfl⟩
    unfold stringRest? at h
    split at h
    next => contradiction
    next heq =>
      cases heq
      exact of_rest h
    next heq =>
      cases heq
      split at h
      · exact of_rest h
      · cases h
    next heq =>
      cases heq
      split at h
      next hquote =>
        cases h
        exact ⟨[], text, by simpa using hquote, rfl⟩
      next =>
        split at h
        · cases h
        · exact of_rest h

lemma string?_eq_some {n : Nat} {text : List Char} (h : string? text = some n) :
    ∃ quote inner rest, text = quote :: (inner ++ quote :: rest) ∧ quote.utf8Size = 1 ∧
      n = inner.length + 2 := by
  unfold string? at h
  split at h
  · obtain ⟨m, hrest, rfl⟩ := Option.map_eq_some_iff.mp h
    obtain ⟨inner, rest, rfl, rfl⟩ := stringRest?_eq_some hrest
    exact ⟨'"', inner, rest, rfl, rfl, rfl⟩
  · obtain ⟨m, hrest, rfl⟩ := Option.map_eq_some_iff.mp h
    obtain ⟨inner, rest, rfl, rfl⟩ := stringRest?_eq_some hrest
    exact ⟨'\'', inner, rest, rfl, rfl, rfl⟩
  · cases h

lemma Place.Valid.isSlice_content {source : List Char} {place : Place} {n : Nat}
    (hplace : place.Valid source) (h : string? place.next = some n) :
    (⟨place.start + 1, (place.pass n).position - 1⟩ : Span).IsSlice source := by
  obtain ⟨quote, inner, rest, hnext, hquote, rfl⟩ := string?_eq_some h
  obtain ⟨first, hsource, hfirst⟩ := hplace.next_eq
  have hposition : (place.pass (inner.length + 2)).position = place.start + (size inner + 2) := by
    rw [position_pass, hnext, List.take_succ_cons, List.take_length_add_append]
    simp [hquote]
    omega
  rw [hnext] at hsource
  rw [hposition]
  refine ⟨⟨first ++ [quote], inner ++ quote :: rest, ?_, ?_⟩,
    ⟨first ++ quote :: inner, quote :: rest, ?_, ?_⟩, ?_⟩
  · simp [hsource]
  · simp [hfirst, hquote]
  · simp [hsource]
  · simp [hfirst, hquote]
    omega
  · dsimp only
    omega

/-! ### What rules build -/

namespace EndsInBlock

variable {tree : Tree} {first second : List Tree}

lemma of_noBody (h : ∀ tree ∈ first, tree.role ≠ some .body) : EndsInBlock first where
  isBlock tree hmem hrole := absurd hrole (h tree hmem)
  last := List.pairwise_iff_forall_sublist.mpr fun {tree _} hsub hrole =>
    absurd hrole (h tree (hsub.subset (List.mem_cons_self ..)))

lemma singleton (h : tree.isKind .statementBlock) : EndsInBlock [tree] :=
  ⟨by simpa using fun _ => h, List.pairwise_singleton _ _⟩

lemma append (hfirst : ∀ tree ∈ first, tree.role ≠ some .body) (hsecond : EndsInBlock second) :
    EndsInBlock (first ++ second) where
  isBlock := List.forall_mem_append.mpr ⟨(of_noBody hfirst).isBlock, hsecond.isBlock⟩
  last := List.pairwise_append.mpr ⟨(of_noBody hfirst).last, hsecond.last,
    fun tree hmem _ _ hrole => absurd hrole (hfirst tree hmem)⟩

end EndsInBlock

namespace Reads

open Rule

variable {source : List Char} {rule : GrammarRule} {left trees : List Tree} {place later : Place}

lemma role_ne_body (h : Reads grammar rule left place trees later) (hrule : buildsNoBody rule)
    (hleft : ∀ tree ∈ left, tree.role ≠ some .body) : ∀ tree ∈ trees, tree.role ≠ some .body := by
  induction h with
  | leaf | word | mark | operator | glued | templateText | node | adopt =>
    simp [tokenTree, Tree.role]
  | empty | after | done | ahead | notAhead | endingHere | endingLater | manyNone =>
    exact List.forall_mem_nil _
  | seq _ _ ihfirst ihsecond =>
    simp only [buildsNoBody, Bool.and_eq_true] at hrule
    exact List.forall_mem_append.mpr ⟨ihfirst hrule.1 hleft, ihsecond hrule.2 hleft⟩
  | first _ ih =>
    simp only [buildsNoBody, Bool.and_eq_true] at hrule
    exact ih hrule.1 hleft
  | second _ ih =>
    simp only [buildsNoBody, Bool.and_eq_true] at hrule
    exact ih hrule.2 hleft
  | manyLast _ _ ih | only _ ih => exact ih hrule hleft
  | manyMore _ _ ih ihmore => exact List.forall_mem_append.mpr ⟨ih hrule hleft, ihmore hrule hleft⟩
  | role =>
    refine List.forall_mem_map.mpr fun tree _ => ?_
    simpa [buildsNoBody] using hrule
  | @ref nonterminal _ _ _ _ _ ih =>
    have hgrammar := isOrderly_grammar nonterminal
    simp only [isOrderly, Bool.and_eq_true] at hgrammar
    exact ih hgrammar.2 hleft
  | grow _ _ ihbase ihtails =>
    simp only [buildsNoBody, Bool.and_eq_true] at hrule
    exact ihtails hrule.2 (ihbase hrule.1 (List.forall_mem_nil _))
  | tailsNone => exact hleft
  | tailsMore _ _ ih ihmore => exact ihmore hrule (ih hrule hleft)

/-- A block is read as one node. -/
lemma eq_block (h : Reads grammar (.ref .statementBlock) left place trees later) :
    ∃ block, trees = [block] ∧ block.isKind .statementBlock := by
  cases h with
  | ref h =>
    cases h
    exact ⟨_, rfl, rfl⟩

lemma endsInBlock (h : Reads grammar rule left place trees later) (hrule : rule.endsInBlock)
    (hleft : left = []) : EndsInBlock trees := by
  induction h with
  | seq hfirst _ _ ihsecond =>
    simp only [Rule.endsInBlock, Bool.and_eq_true] at hrule
    exact .append (hfirst.role_ne_body hrule.1 (by simp [hleft])) (ihsecond hrule.2 hleft)
  | first _ ih =>
    simp only [Rule.endsInBlock, Bool.and_eq_true] at hrule
    exact ih hrule.1 hleft
  | second _ ih =>
    simp only [Rule.endsInBlock, Bool.and_eq_true] at hrule
    exact ih hrule.2 hleft
  | role h _ =>
    unfold Rule.endsInBlock at hrule
    split at hrule
    case h_3 heq =>
      cases heq
      obtain ⟨block, rfl, hblock⟩ := h.eq_block
      refine .singleton ?_
      rwa [Tree.isKind, Tree.symbol_withRole]
    all_goals simp_all
  | empty => exact .of_noBody (List.forall_mem_nil _)
  | _ => cases hrule

lemma size_take_of_isPrefixOf {text : String} {rest : List Char}
    (h : text.toList.isPrefixOf rest) : size (rest.take text.length) = size text.toList := by
  obtain ⟨more, rfl⟩ := List.isPrefixOf_iff_prefix.mp h
  rw [← String.length_toList, List.take_left]

lemma eq_nil_of_isEnding {last : GrammarRule} (h : Reads grammar last left place trees later)
    (hlast : isEnding last) : trees = [] := by
  unfold isEnding at hlast
  split at hlast
  next =>
    cases h with
    | first h | second h => cases h <;> rfl
  next => cases hlast

/-- What is read between braces stands between two tokens of one byte. -/
lemma braced (h : Reads grammar rule left place trees later) (hrule : isBlock rule) :
    Braced place.start trees := by
  unfold isBlock at hrule
  split at hrule
  next opening inner closing last =>
    simp only [Bool.and_eq_true, beq_iff_eq] at hrule
    obtain ⟨⟨rfl, rfl⟩, hlast⟩ := hrule
    cases h with | seq hopening h =>
    cases h with | seq hinner h =>
    cases h with | seq hclosing h =>
    obtain rfl := h.eq_nil_of_isEnding hlast
    cases hopening with | mark hopening =>
    cases hclosing with | mark hclosing =>
    refine ⟨_, _, _, [], rfl, ?_, ?_, ?_, ?_, nofun⟩
    · simp [tokenTree, Tree.isToken]
    · rw [tokenTree, Tree.span, Place.position_pass, size_take_of_isPrefixOf hopening]
      rfl
    · simp [tokenTree, Tree.isToken]
    · rw [tokenTree, Tree.stop_node, Tree.start_node, Place.position_pass,
        size_take_of_isPrefixOf hclosing]
      rfl
  next => cases hrule

lemma regular_node {kind : Kind} {role : Option Role} {stop : Nat}
    (h : Reads grammar rule [] place trees later) (hrule : isRegularNode kind rule) :
    (Tree.node (.kind kind) role ⟨place.start, stop⟩ trees).Regular source := by
  unfold isRegularNode at hrule
  split at hrule
  next hblock =>
    subst hblock
    exact .of_node nofun nofun (fun _ => h.braced hrule) (by simp [endingKinds])
  next hblock =>
    split at hrule
    next hbody =>
      refine .of_node ?_ ?_ (fun h => absurd h hblock) fun _ => h.endsInBlock hrule rfl <;>
      · rintro rfl
        simp [endingKinds] at hbody
    next hbody =>
      simp only [Bool.and_eq_true, bne_iff_ne] at hrule
      exact .of_node hrule.1 hrule.2 (fun h => absurd h hblock)
        fun h => absurd (by simpa using h) hbody

/-- All nodes of what a rule of the grammar builds are regular, when those before it in a chain
are. -/
theorem regular (h : Reads grammar rule left place trees later) (hplace : place.Valid source)
    (hrule : isRegular rule) (hleft : ∀ tree ∈ left, tree.Every (Tree.Regular source)) :
    ∀ tree ∈ trees, tree.Every (Tree.Regular source) := by
  have of_leaf {symbol : Symbol} {start : Nat} {later : Place} (h : symbol ≠ .kind .statementBlock)
      (hstring : symbol = .kind .string →
        (⟨start + 1, later.position - 1⟩ : Span).IsSlice source) :
      ∀ tree ∈ [tokenTree symbol start later], tree.Every (Tree.Regular source) := by
    rw [List.forall_mem_singleton, Tree.every_iff]
    exact ⟨.of_leaf h hstring, List.forall_mem_nil _⟩
  have of_node {symbol : Symbol} {span : Span} {children : List Tree}
      (hnode : (Tree.node symbol none span children).Regular source)
      (hchildren : ∀ tree ∈ children, tree.Every (Tree.Regular source)) :
      ∀ tree ∈ [Tree.node symbol none span children], tree.Every (Tree.Regular source) := by
    rw [List.forall_mem_singleton, Tree.every_iff]
    exact ⟨hnode, hchildren⟩
  induction h with
  | leaf hlexeme =>
    simp only [isRegular, Bool.and_eq_true, Bool.or_eq_true, bne_iff_ne, beq_iff_eq] at hrule
    refine of_leaf (by simpa using hrule.1) fun hkind => ?_
    obtain rfl := hrule.2.resolve_left fun h => h (Symbol.kind.inj hkind)
    exact hplace.isSlice_content hlexeme
  | word | mark | operator | glued | templateText => exact of_leaf nofun nofun
  | empty | after | done | ahead | notAhead | endingHere | endingLater | manyNone =>
    exact List.forall_mem_nil _
  | seq hfirst _ ihfirst ihsecond =>
    simp only [isRegular, Bool.and_eq_true] at hrule
    exact List.forall_mem_append.mpr ⟨ihfirst hplace hrule.1 hleft,
      ihsecond (hfirst.valid hplace).1 hrule.2 hleft⟩
  | first _ ih =>
    simp only [isRegular, Bool.and_eq_true] at hrule
    exact ih hplace hrule.1 hleft
  | second _ ih =>
    simp only [isRegular, Bool.and_eq_true] at hrule
    exact ih (hplace.withReach _) hrule.2 hleft
  | manyLast _ _ ih => exact ih hplace hrule hleft
  | manyMore hfirst _ ih ihmore =>
    exact List.forall_mem_append.mpr ⟨ih hplace hrule hleft,
      ihmore (hfirst.valid hplace).1 hrule hleft⟩
  | node hread ih =>
    simp only [isRegular, Bool.and_eq_true] at hrule
    exact of_node (hread.regular_node hrule.2) (ih hplace hrule.1 (List.forall_mem_nil _))
  | role _ ih =>
    refine List.forall_mem_map.mpr fun tree hmem => ?_
    exact (Tree.every_withRole Tree.Regular.withRole_iff).mpr (ih hplace hrule hleft tree hmem)
  | @ref nonterminal _ _ _ _ _ ih =>
    have hgrammar := isOrderly_grammar nonterminal
    simp only [isOrderly, Bool.and_eq_true] at hgrammar
    exact ih hplace hgrammar.1 hleft
  | grow hbase _ ihbase ihtails =>
    simp only [isRegular, Bool.and_eq_true] at hrule
    exact ihtails (hbase.valid hplace).1 hrule.2 (ihbase hplace hrule.1 (List.forall_mem_nil _))
  | tailsNone => exact hleft
  | tailsMore htail _ ih ihmore =>
    exact ihmore (htail.valid hplace).1 hrule (ih hplace hrule hleft)
  | @adopt kind role _ left _ _ _ _ ih =>
    simp only [isRegular, Bool.and_eq_true] at hrule
    obtain ⟨hrule, hkind⟩ := hrule
    simp only [List.contains_cons, Bool.not_eq_true', Bool.or_eq_false_iff, beq_eq_false_iff_ne]
      at hkind
    refine of_node (.of_node hkind.2.1 hkind.2.2.1 (fun h => absurd h hkind.1) fun h => ?_)
      (List.forall_mem_append.mpr ⟨?_, ih hplace hrule (List.forall_mem_nil _)⟩)
    · exact absurd (List.contains_iff_mem.mpr h) (ne_true_of_eq_false hkind.2.2.2)
    refine List.forall_mem_map.mpr fun tree hmem => ?_
    cases role with
    | none      => exact hleft tree hmem
    | some role => exact (Tree.every_withRole Tree.Regular.withRole_iff).mpr (hleft tree hmem)
  | only _ ih => exact ih hplace hrule hleft

end Reads

end Stencil.TypeScript
