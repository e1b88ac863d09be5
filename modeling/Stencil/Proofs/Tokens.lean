import Stencil.Proofs.Lexemes
import Stencil.Text.Word

/-!
# The texts of tokens

A token of a parsed module stands for its own text: the source reads so where the token is, and
after a word no name goes on (`parse_spelled`). A node of a kind begins with the word or the mark
that all rules for this kind begin with (`Tree.Parsed.begins`).
-/

namespace Stencil.TypeScript

open Text

/-! ### Word characters -/

lemma isWord_of_isMark {c : Char} (h : isMark c) : isWord c = false := by
  rw [isMark, List.contains_iff_mem] at h
  have hmark := (List.all_eq_true (p := fun c => !isWord c)).mp (by decide +kernel) c h
  simpa using hmark

/-- The numbers of the characters, marks apart, that no name holds. -/
def blankNumbers : List Nat :=
  List.range 0x21 ++ (List.range 12).map (0x2000 + ·) ++
    [0x85, 0xA0, 0x1680, 0x2028, 0x2029, 0x202F, 0x205F, 0x2060, 0x3000, 0xFEFF]

/-- A word character may stand in a name. -/
lemma isNamePart_of_isWord {c : Char} (h : isWord c) : isNamePart c := by
  have hblank : ∀ n ∈ blankNumbers, isWord (Char.ofNat n) = false := by decide +kernel
  have hmem : isSpace c ∨ c.toNat ≤ 0x1F → c.toNat ∈ blankNumbers := by
    simp only [isSpace, blankNumbers, Bool.or_eq_true, Bool.and_eq_true, decide_eq_true_eq,
      beq_iff_eq, List.mem_append, List.mem_range, List.mem_map, List.mem_cons, List.not_mem_nil,
      or_false]
    intro hspace
    by_cases hwide : 0x2000 ≤ c.toNat ∧ c.toNat ≤ 0x200B
    · exact .inl (.inr ⟨c.toNat - 0x2000, by omega⟩)
    · omega
  rcases hpart : isNamePart c with _ | _
  · simp only [isNamePart, isNameStart, Bool.or_eq_false_iff, Bool.and_eq_false_iff,
      Bool.not_eq_false', decide_eq_false_iff_not] at hpart
    obtain ⟨hstart, hdigit⟩ := hpart
    by_cases hgap : isSpace c ∨ c.toNat ≤ 0x1F
    · rw [← Char.ofNat_toNat c, hblank _ (hmem hgap)] at h
      cases h
    · rcases hstart with ((hcontrol | hspace) | hdigit') | hmark
      · exact absurd (.inr (by omega)) hgap
      · exact absurd (.inl hspace) hgap
      · rw [hdigit] at hdigit'
        cases hdigit'
      · rw [isWord_of_isMark hmark] at h
        cases h
  · rfl

/-! ### Tokens of the grammar -/

/-- Whether a text is a name, by the characters it has. -/
def isWordText (text : String) : Bool := text.toList.all isNamePart

namespace Rule

/-- The texts of the marks that a rule reads. -/
def marks : GrammarRule → List String
  | .mark text | .glued text => [text]
  | .operator texts          => texts
  | .seq first second | .choice first second | .grow first second => marks first ++ marks second
  | .many rule | .role _ rule | .only _ rule | .tails rule | .node _ rule | .adopt _ _ rule =>
    marks rule
  | _                        => []

/-- Whether a rule begins with this word or mark. -/
def begins (text : String) : GrammarRule → Bool
  | .word other | .mark other => other == text
  | .seq first _              => begins text first
  | _                         => false

end Rule

lemma marks_grammar (nonterminal : Nonterminal) :
    ∀ text ∈ (grammar nonterminal).marks, isWordText text = false := by
  have h : allRules fun rule => rule.marks.all fun text => !isWordText text := by decide +kernel
  intro text hmem
  simpa using List.all_eq_true.mp (check_grammar h nonterminal) text hmem

lemma longestMark_isPrefixOf (text : List Char) : (longestMark text).toList.isPrefixOf text := by
  unfold longestMark
  split
  next mark hmark =>
    have hprefix := List.find?_some hmark
    split
    next hquestion =>
      simp only [Bool.and_eq_true, beq_iff_eq] at hquestion
      rw [hquestion.1] at hprefix
      rw [List.isPrefixOf_iff_prefix] at hprefix ⊢
      exact List.IsPrefix.trans ⟨['.'], rfl⟩ hprefix
    next => exact hprefix
  next =>
    rw [String.toList_ofList, List.isPrefixOf_iff_prefix]
    exact List.take_prefix 1 text

lemma take_of_isPrefixOf {text : String} {rest : List Char} (h : text.toList.isPrefixOf rest) :
    rest.take text.length = text.toList := by
  rw [List.isPrefixOf_iff_prefix] at h
  rw [← String.length_toList]
  exact (List.prefix_iff_eq_take.mp h).symm

/-- Where a word is found, it stands, and no name goes on after it. -/
lemma wordLength?_eq_some {word : String} {text : List Char} {n : Nat}
    (h : wordLength? word text = some n) :
    text.take n = word.toList ∧ ∀ c ∈ (text.drop n).head?, isNamePart c = false := by
  unfold wordLength? at h
  split at h
  next hprefix =>
    split at h
    next hdrop =>
      cases h
      exact ⟨take_of_isPrefixOf hprefix, by simp [hdrop]⟩
    next c rest hdrop =>
      split at h
      next => cases h
      next hend =>
        cases h
        refine ⟨take_of_isPrefixOf hprefix, ?_⟩
        rw [hdrop]
        simp_all
  next => cases h

/-! ### Places -/

namespace Place.Valid

variable {source : List Char} {place : Place}

lemma after_position (h : place.Valid source) : after source place.position = place.rest := by
  obtain ⟨first, hsource, hsize⟩ := h.rest
  rw [hsource, ← hsize, after_append_size]

lemma after_start (h : place.Valid source) : after source place.start = place.next := by
  obtain ⟨first, hsource, hsize⟩ := h.next_eq
  rw [hsource, ← hsize, after_append_size]

lemma slice_passGlued (h : place.Valid source) (n : Nat) :
    (⟨place.position, (place.passGlued n).position⟩ : Span).slice source = place.rest.take n := by
  obtain ⟨first, hsource, hsize⟩ := h.rest
  have := Span.slice_append first (place.rest.take n) (place.rest.drop n)
  rwa [List.take_append_drop, ← hsource, hsize] at this

end Place.Valid

/-! ### Spelling -/

/-- Whether a node, if it is a token, covers its own text and no name goes on after a word. -/
structure Tree.Spelled (source : List Char) (tree : Tree) : Prop where
  chars : ∀ text, tree.symbol = .token text → tree.chars source = text.toList
  ends : ∀ text, tree.symbol = .token text → isWordText text →
    ∀ c ∈ (after source tree.stop).head?, isNamePart c = false

variable {source : List Char} {tree : Tree}

namespace Tree.Spelled

lemma of_kind {kind : Kind} (h : tree.symbol = .kind kind) : tree.Spelled source := by
  refine ⟨fun text htext => ?_, fun text htext => ?_⟩ <;>
  · rw [h] at htext
    cases htext

lemma congr {other : Tree} (h : tree.Spelled source) (hsymbol : other.symbol = tree.symbol)
    (hspan : other.span = tree.span) : other.Spelled source := by
  refine ⟨fun text htext => ?_, fun text htext => ?_⟩
  · rw [Tree.chars, hspan]
    exact h.chars text (hsymbol ▸ htext)
  · rw [Tree.stop, hspan]
    exact h.ends text (hsymbol ▸ htext)

/-- A token that is not empty takes some bytes. -/
lemma start_lt_stop {text : String} (h : tree.Spelled source) (hnested : tree.Nested source)
    (htoken : tree.isToken text) (htext : text ≠ "") : tree.start < tree.stop := by
  obtain ⟨first, last, -, hstart, hstop⟩ :=
    (⟨hnested.start, hnested.stop, hnested.le⟩ : tree.span.IsSlice source).slice_eq
  refine Nat.lt_of_le_of_ne hnested.le fun heq => htext ?_
  have hchars : tree.span.slice source = text.toList := h.chars text (Tree.isToken_iff.mp htoken)
  have hsize : size (tree.span.slice source) = 0 := by
    have : tree.span.start = tree.span.stop := heq
    omega
  rw [hchars] at hsize
  exact String.toList_eq_nil_iff.mp (eq_nil_of_size_eq_zero hsize)

end Tree.Spelled

lemma Tree.every_spelled_withRole (h : tree.Every (Tree.Spelled source)) (role : Role) :
    (tree.withRole role).Every (Tree.Spelled source) := by
  rw [every_iff] at h ⊢
  refine ⟨h.1.congr (symbol_withRole ..) ?_, by simpa using h.2⟩
  cases tree
  rfl

section

variable {place : Place} {text : String} (hplace : place.Valid source)
include hplace

lemma Place.Valid.spelled_word {n : Nat} (h : wordLength? text place.next = some n) :
    (tokenTree (.token text) place.start (place.pass n)).Spelled source := by
  obtain ⟨htake, hend⟩ := wordLength?_eq_some h
  refine ⟨fun other heq => ?_, fun other _ _ => ?_⟩
  · cases heq
    exact (hplace.slice_pass n).trans htake
  · rw [tokenTree, Tree.stop, Tree.span, (hplace.pass n).after_position]
    exact hend

lemma Place.Valid.spelled_mark (hmark : isWordText text = false)
    (h : text.toList.isPrefixOf place.next) :
    (tokenTree (.token text) place.start (place.pass text.length)).Spelled source := by
  refine ⟨fun other heq => ?_, fun other heq hword => ?_⟩
  · cases heq
    exact (hplace.slice_pass _).trans (take_of_isPrefixOf h)
  · cases heq
    rw [hmark] at hword
    cases hword

lemma Place.Valid.spelled_glued (hmark : isWordText text = false)
    (h : text.toList.isPrefixOf place.rest) :
    (tokenTree (.token text) place.position (place.passGlued text.length)).Spelled source := by
  refine ⟨fun other heq => ?_, fun other heq hword => ?_⟩
  · cases heq
    exact (hplace.slice_passGlued _).trans (take_of_isPrefixOf h)
  · cases heq
    rw [hmark] at hword
    cases hword

end

/-- All tokens in what a part of the grammar builds are spelled, when those before it in a chain
are. -/
theorem Reads.spelled {rule : GrammarRule} {left trees : List Tree} {place later : Place}
    (h : Reads grammar rule left place trees later) (hplace : place.Valid source)
    (hrule : ∀ text ∈ rule.marks, isWordText text = false)
    (hleft : ∀ tree ∈ left, tree.Every (Tree.Spelled source)) :
    ∀ tree ∈ trees, tree.Every (Tree.Spelled source) := by
  have of_node {symbol : Symbol} {span : Span} {children : List Tree}
      (hnode : (Tree.node symbol none span children).Spelled source)
      (hchildren : ∀ tree ∈ children, tree.Every (Tree.Spelled source)) :
      ∀ tree ∈ [Tree.node symbol none span children], tree.Every (Tree.Spelled source) := by
    rw [List.forall_mem_singleton, Tree.every_iff]
    exact ⟨hnode, hchildren⟩
  induction h with
  | leaf | templateText => exact of_node (.of_kind rfl) (List.forall_mem_nil _)
  | word hword => exact of_node (hplace.spelled_word hword) (List.forall_mem_nil _)
  | mark hmark =>
    exact of_node (hplace.spelled_mark (hrule _ (List.mem_singleton_self _)) hmark)
      (List.forall_mem_nil _)
  | operator hmem =>
    exact of_node (hplace.spelled_mark (hrule _ (List.contains_iff_mem.mp hmem))
      (longestMark_isPrefixOf _)) (List.forall_mem_nil _)
  | glued hmark =>
    exact of_node (hplace.spelled_glued (hrule _ (List.mem_singleton_self _)) hmark)
      (List.forall_mem_nil _)
  | empty | after | done | ahead | notAhead | endingHere | endingLater | manyNone =>
    exact List.forall_mem_nil _
  | seq hfirst _ ihfirst ihsecond =>
    obtain ⟨hrule, hrule'⟩ := List.forall_mem_append.mp hrule
    exact List.forall_mem_append.mpr ⟨ihfirst hplace hrule hleft,
      ihsecond (hfirst.valid hplace).1 hrule' hleft⟩
  | first _ ih  => exact ih hplace (List.forall_mem_append.mp hrule).1 hleft
  | second _ ih => exact ih (hplace.withReach _) (List.forall_mem_append.mp hrule).2 hleft
  | manyLast _ _ ih | only _ ih => exact ih hplace hrule hleft
  | manyMore hfirst _ ih ihmore =>
    exact List.forall_mem_append.mpr ⟨ih hplace hrule hleft,
      ihmore (hfirst.valid hplace).1 hrule hleft⟩
  | node _ ih => exact of_node (.of_kind rfl) (ih hplace hrule (List.forall_mem_nil _))
  | role _ ih =>
    exact List.forall_mem_map.mpr fun tree hmem =>
      Tree.every_spelled_withRole (ih hplace hrule hleft tree hmem) _
  | @ref nonterminal _ _ _ _ _ ih => exact ih hplace (marks_grammar nonterminal) hleft
  | grow hbase _ ihbase ihtails =>
    obtain ⟨hrule, hrule'⟩ := List.forall_mem_append.mp hrule
    exact ihtails (hbase.valid hplace).1 hrule' (ihbase hplace hrule (List.forall_mem_nil _))
  | tailsNone => exact hleft
  | tailsMore hfirst _ ih ihmore =>
    exact ihmore (hfirst.valid hplace).1 hrule (ih hplace hrule hleft)
  | @adopt kind given _ left _ _ _ _ ih =>
    refine of_node (.of_kind rfl)
      (List.forall_mem_append.mpr ⟨?_, ih hplace hrule (List.forall_mem_nil _)⟩)
    refine List.forall_mem_map.mpr fun tree hmem => ?_
    cases given with
    | none       => exact hleft tree hmem
    | some given => exact Tree.every_spelled_withRole (hleft tree hmem) given

lemma Tree.IsComment.every_spelled (h : tree.IsComment) : tree.Every (Tree.Spelled source) := by
  rw [every_iff, h.2.2]
  exact ⟨.of_kind h.1, List.forall_mem_nil _⟩

lemma Tree.every_spelled_withComments (h : tree.Every (Spelled source)) :
    (tree.withComments source).Every (Spelled source) := by
  induction tree using ofChildren with
  | h tree ih =>
    rcases hchildren : tree.children with _ | ⟨child, children⟩
    · rwa [withComments_eq_self hchildren]
    · rw [every_iff]
      refine ⟨h.self.congr (symbol_withComments ..) (span_withComments ..), fun other hmem => ?_⟩
      rw [withComments_eq (by simp [hchildren]), children_node] at hmem
      rcases mem_withCommentsAmong hmem with hcomment | ⟨child, hchild, rfl⟩
      · exact hcomment.every_spelled
      · exact ih child hchild (h.of_child hchild)

/-- Every token of a parsed module stands for its own text. -/
theorem parse_spelled (h : parse source = .ok tree) : tree.Every (Tree.Spelled source) := by
  have hprogram := (parse_wellFormed h).isProgram
  unfold parse at h
  split at h
  next root rest later hread =>
    cases h
    have hroot := (read_reads hread).spelled (Place.first_valid source) (List.forall_mem_nil _)
      (List.forall_mem_nil _) root (List.mem_cons_self ..)
    rw [Tree.every_iff]
    refine ⟨.of_kind (Tree.isKind_iff.mp hprogram), fun child hchild => ?_⟩
    rcases Tree.mem_withCommentsAmong hchild with hcomment | ⟨other, hother, rfl⟩
    · exact hcomment.every_spelled
    · exact Tree.every_spelled_withComments (hroot.of_child hother)
  all_goals cases h

/-! ### Beginnings of nodes -/

lemma Reads.begins {rule : GrammarRule} {left trees : List Tree} {place later : Place}
    {text : String} (h : Reads grammar rule left place trees later) (hrule : rule.begins text) :
    text.toList <+: place.next := by
  induction h with
  | word hword =>
    obtain rfl := beq_iff_eq.mp hrule
    rw [← (wordLength?_eq_some hword).1]
    exact List.take_prefix _ _
  | mark hmark =>
    obtain rfl := beq_iff_eq.mp hrule
    exact List.isPrefixOf_iff_prefix.mp hmark
  | seq _ _ ihfirst _ => exact ihfirst hrule
  | _ => cases hrule

/-- A node begins with what all rules for its kind begin with. -/
lemma Tree.Parsed.begins {kind : Kind} {text : String} (h : tree.Parsed source)
    (hkind : tree.isKind kind) (hother : kind ∉ [.comment, .stringFragment])
    (hcheck : allRules fun rule => rule.makers.all (Rule.nodesPass kind (Rule.begins text))) :
    text.toList <+: after source tree.start := by
  obtain ⟨rule, trees, place, later, hrule, hplace, hread, -, hspan⟩ :=
    h.exists_rule _ hkind hother hcheck
  rw [Tree.start, hspan, hplace.after_start]
  exact hread.begins hrule

/-- Whether a part of a rule makes no value of the word `import` but from the word itself. -/
def makesImport : GrammarRule → Bool
  | .leaf lexeme kind             => kind != .importValue || lexeme == .nameAmong ["import"]
  | .node kind _ | .adopt kind _ _ => kind != .importValue
  | _                             => true

/-- The word `import` where it stands for a value. -/
lemma Tree.Parsed.chars_importValue (h : tree.Parsed source) (hkind : tree.isKind .importValue) :
    tree.chars source = "import".toList := by
  have hcheck : allRules fun rule => rule.makers.all makesImport := by decide +kernel
  rcases h with hcomment | ⟨bare, hbare, rfl⟩
  · rw [isKind_iff, hcomment.1] at hkind
    cases hkind
  rw [isKind, symbol_withComments] at hkind
  rw [chars, span_withComments]
  cases hbare.self with
  | token | fragment => simp at hkind
  | node _ hrule _ | adopt _ hrule _ =>
    have hnot := hrule.check hcheck
    simp only [symbol_node, beq_iff_eq, Symbol.kind.injEq] at hkind
    subst hkind
    cases hnot
  | @leaf lexeme _ _ place n hplace hlexeme hrule =>
    have hname := hrule.check hcheck
    simp only [symbol_node, beq_iff_eq, Symbol.kind.injEq] at hkind
    subst hkind
    simp only [makesImport, bne_self_eq_false, Bool.false_or, beq_iff_eq] at hname
    subst hname
    rw [span, hplace.slice_pass]
    simp only [Lexeme.length?] at hlexeme
    split at hlexeme
    next =>
      split at hlexeme
      next hcontains =>
        cases hlexeme
        rw [List.contains_iff_mem, List.mem_singleton] at hcontains
        rw [← hcontains, String.toList_ofList]
      next => cases hlexeme
    next => cases hlexeme

end Stencil.TypeScript
