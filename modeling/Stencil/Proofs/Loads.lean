import Stencil.Proofs.Effects
import Stencil.Proofs.Recognisers
import Stencil.Proofs.Tokens
import Stencil.Proofs.Transpile
import Stencil.Workshop

/-!
# Loads of other modules

`demandNoLoads` looks at the text of a template and `parse` at its structure. `isPlainLoad` tells
which of the loads in the tree of a template are written in such a way that the recognisers see
them: an import or an export of what another module gives is the first thing on its line, no dot
stands before a call, and nothing but white space stands between the tokens. A template with such
a load is refused, and nothing is done in the workshop before (`instantiate_plainLoad`).
-/

namespace Stencil

namespace ModuleLoad

open Text
open TypeScript (Tree Span)

/-! ### Loads in plain writing -/

/-- Whether a text ends in tabs and spaces from the start of a line on. -/
def isIndent (text : List Char) : Bool :=
  (text.reverse.dropWhile isTabOrSpace).head?.all (· == '\n')

/-- Whether an import may go on with this character after its first word. -/
def isImportLead (c : Char) : Bool :=
  isIdentifierPart c || c == '*' || c == '\x7b' || c == '"' || c == '\''

/-- Whether a text is a list in braces that holds no other closing brace. -/
def isPlainList : List Char → Bool
  | '\x7b' :: rest => rest.getLast? == some '\x7d' && rest.dropLast.all (· != '\x7d')
  | _              => false

section

variable (source : List Char)

/-- Whether a tree is the first thing on its line. -/
def isIndented (tree : Tree) : Bool := isIndent (before source tree.start)

/-- Whether nothing but white space stands between two trees. -/
def isBlankBetween (left right : Tree) : Bool :=
  ((⟨left.stop, right.start⟩ : Span).slice source).all isBlank

/-- Whether white space and nothing else stands between two trees. -/
def isSpaced (left right : Tree) : Bool :=
  left.stop < right.start && isBlankBetween source left right

/-- Whether an import statement is the first thing on its line and no comment stands after its first
word. -/
def isPlainImport (node : Tree) : Bool :=
  match node.parts with
  | keyword :: next :: _ =>
    keyword.isToken "import" && isIndented source keyword && isBlankBetween source keyword next &&
      (after source next.start).head?.any isImportLead
  | _ => false

/-- Whether something is called that loads a module, by its plain name and with nothing but white
space before the arguments. -/
def isPlainCall (node : Tree) : Bool :=
  match node.parts with
  | function :: arguments :: _ =>
    (function.isKind .importValue ||
        function.isKind .identifier && function.chars source == "require".toList) &&
      arguments.isKind .arguments && (before source function.start).getLast?.all isFree &&
      isBlankBetween source function arguments
  | _ => false

/-- The parts of what is exported of another module, one after another. -/
def exportPieces (tree : Tree) : List Tree :=
  if tree.isKind .namespaceExport then tree.parts else [tree]

/-- The parts of an export after its decorators. -/
def exportParts (node : Tree) : List Tree :=
  (node.parts.dropWhile fun part => part.isKind .decorator).flatMap exportPieces

/-- Whether what comes after the subject of an export is its new name, if any, and `from`. -/
def isPlainOrigin (subject : Tree) : List Tree → Bool
  | []           => false
  | word :: rest =>
    isBlankBetween source subject word &&
      (word.isToken "from" ||
        word.isToken "as" && match rest with
          | name :: origin :: _ =>
            isSpaced source word name && name.start < name.stop &&
              (name.chars source).all isIdentifierPart && isBlankBetween source name origin &&
              origin.isToken "from"
          | _                   => false)

/-- Whether the first of these trees is what another module gives and the others say which. -/
def isPlainSubject : List Tree → Bool
  | []              => false
  | subject :: rest =>
    (subject.isToken "*" ||
        subject.isKind .exportClause && isPlainList (subject.chars source)) &&
      isPlainOrigin source subject rest

/-- Whether these trees, the first of which may say that types are meant, are what another module
gives. -/
def isPlainExported : List Tree → Bool
  | []           => false
  | word :: rest =>
    isPlainSubject source (word :: rest) ||
      word.isToken "type" && match rest with
        | subject :: _ => isSpaced source word subject && isPlainSubject source rest
        | []           => false

/-- Whether an export of what another module gives is the first thing on its line, with no comment
in it up to `from` and no closing brace in its list. -/
def isPlainReExport (node : Tree) : Bool :=
  match exportParts node with
  | keyword :: next :: rest =>
    keyword.isToken "export" && isIndented source keyword && isSpaced source keyword next &&
      isPlainExported source (next :: rest)
  | _ => false

/-- Whether a node loads another module in plain writing. -/
def isPlainLoad (node : Tree) : Bool :=
  node.isKind .importStatement && isPlainImport source node ||
    node.isKind .callExpression && isPlainCall source node ||
    node.isKind .exportStatement && isPlainReExport source node

end

/-! ### Parts of the text -/

variable {source first rest : List Char} {tree left right node : Tree} {trees : List Tree}

lemma exists_indent (h : isIndent first) :
    ∃ line indent, first = line ++ indent ∧ indent.all isTabOrSpace ∧
      (line.getLast? = none ∨ line.getLast? = some '\n') := by
  refine ⟨(first.reverse.dropWhile isTabOrSpace).reverse,
    (first.reverse.takeWhile isTabOrSpace).reverse, ?_, ?_, ?_⟩
  · rw [← List.reverse_append, List.takeWhile_append_dropWhile, List.reverse_reverse]
  · rw [List.all_reverse, List.all_takeWhile]
  · rw [isIndent] at h
    rw [List.getLast?_reverse]
    cases hhead : (first.reverse.dropWhile isTabOrSpace).head? with
    | none   => exact .inl rfl
    | some c =>
      rw [hhead, Option.all_some, beq_iff_eq] at h
      exact .inr (congrArg some h)

lemma before_eq {offset : Nat} (hsource : source = first ++ rest) (hsize : size first = offset) :
    before source offset = first := by
  rw [hsource, ← hsize, before_append_size]

lemma after_eq {offset : Nat} (hsource : source = first ++ rest) (hsize : size first = offset) :
    after source offset = rest := by
  rw [hsource, ← hsize, after_append_size]

lemma exists_slice {span : Span} (h : span.IsSlice source) (hsource : source = first ++ rest)
    (hsize : size first = span.start) :
    ∃ last, rest = span.slice source ++ last ∧ size (first ++ span.slice source) = span.stop := by
  obtain ⟨first', last, hsource', hsize', hstop⟩ := h.slice_eq
  obtain rfl : first = first' := (before_eq hsource hsize).symm.trans (before_eq hsource' hsize')
  refine ⟨last, List.append_cancel_left (hsource.symm.trans hsource'), ?_⟩
  rw [size_append]
  exact hstop

/-- Whether trees that stand one after another agree with the source. -/
structure Row (source : List Char) (trees : List Tree) : Prop where
  ordered : ∃ lo hi, Tree.Ordered lo hi trees
  nested : ∀ tree ∈ trees, tree.Nested source
  spelled : ∀ tree ∈ trees, tree.Spelled source

namespace Row

lemma tail (h : Row source (tree :: trees)) : Row source trees := by
  obtain ⟨lo, hi, -, -, hordered⟩ := h.ordered
  exact ⟨⟨_, _, hordered⟩, (List.forall_mem_cons.mp h.nested).2,
    (List.forall_mem_cons.mp h.spelled).2⟩

lemma chars_token (h : Row source (tree :: trees)) {text : String} (htoken : tree.isToken text) :
    tree.chars source = text.toList :=
  (h.spelled tree (List.mem_cons_self ..)).chars text (Tree.isToken_iff.mp htoken)

/-- The first of the trees in the text. -/
lemma exists_first (h : Row source (tree :: trees)) :
    ∃ first last, source = first ++ (tree.chars source ++ last) ∧
      before source tree.start = first ∧ size (first ++ tree.chars source) = tree.stop := by
  have htree := h.nested tree (List.mem_cons_self ..)
  obtain ⟨first, rest, hsource, hsize⟩ := htree.start
  obtain ⟨last, hrest, hstop⟩ := exists_slice ⟨htree.start, htree.stop, htree.le⟩ hsource hsize
  exact ⟨first, last, hsource.trans (congrArg (first ++ ·) hrest), before_eq hsource hsize, hstop⟩

/-- The next tree in the text, after what stands between. -/
lemma exists_next (h : Row source (left :: right :: trees)) (hsource : source = first ++ rest)
    (hsize : size first = left.stop) :
    ∃ last, rest = (⟨left.stop, right.start⟩ : Span).slice source ++ (right.chars source ++ last) ∧
      after source right.start = right.chars source ++ last ∧
      after source right.stop = last ∧
      size (first ++ (⟨left.stop, right.start⟩ : Span).slice source) = right.start ∧
      size (first ++ (⟨left.stop, right.start⟩ : Span).slice source ++ right.chars source) =
        right.stop := by
  obtain ⟨lo, hi, -, -, hle, -⟩ := h.ordered
  have hleft := h.nested left (List.mem_cons_self ..)
  have hright := h.nested right (List.mem_cons_of_mem _ (List.mem_cons_self ..))
  obtain ⟨middle, hrest, hmiddle⟩ := exists_slice
    (⟨hleft.stop, hright.start, hle⟩ : (⟨left.stop, right.start⟩ : Span).IsSlice source)
    hsource hsize
  rw [hrest, ← List.append_assoc] at hsource
  obtain ⟨last, hlast, hstop⟩ := exists_slice
    (⟨hright.start, hright.stop, hright.le⟩ : right.span.IsSlice source) hsource hmiddle
  refine ⟨last, by rw [hrest, hlast]; rfl, (after_eq hsource hmiddle).trans hlast, ?_, hmiddle,
    hstop⟩
  rw [hlast, ← List.append_assoc] at hsource
  exact after_eq hsource hstop

end Row

lemma slice_ne_nil (span : Span) (hlt : span.start < span.stop)
    (hsize : size first = span.start) (hstop : size (first ++ span.slice source) = span.stop) :
    span.slice source ≠ [] := by
  intro hnil
  rw [hnil, List.append_nil] at hstop
  omega

/-! ### Plain loads are found -/

namespace Takes

variable {recognisers : List Recogniser} {recogniser : Recogniser} {middle last : List Char}

lemma lineStart_cons (hline : first.getLast? = none ∨ first.getLast? = some '\n')
    (h : Takes (sequence recognisers) first middle last) :
    Takes (sequence (lineStart :: recognisers)) first middle last := by
  have := @cons lineStart recognisers first [] middle last (takes_lineStart hline)
    (by rwa [List.append_nil])
  rwa [List.nil_append] at this

lemma isSome (h : Takes recogniser first middle last) (hmem : recogniser ∈ ModuleLoad.recognisers)
    (hsource : source = first ++ middle ++ last) : (statement? source).isSome := by
  rw [hsource, List.append_assoc]
  exact h.statement?_isSome hmem

end Takes

lemma isSome_of_isPlainImport (hrow : Row source node.parts) (h : isPlainImport source node) :
    (statement? source).isSome := by
  unfold isPlainImport at h
  split at h
  next keyword next others hparts =>
    simp only [Bool.and_eq_true] at h
    obtain ⟨⟨⟨hkeyword, hindent⟩, hblank⟩, hlead⟩ := h
    rw [hparts] at hrow
    obtain ⟨first, rest, hsource, hbefore, hstop⟩ := hrow.exists_first
    rw [← List.append_assoc] at hsource
    obtain ⟨last, rfl, hafter, -, -, -⟩ := hrow.exists_next hsource hstop
    rw [isIndented, hbefore] at hindent
    obtain ⟨line, indent, rfl, hindent, hline⟩ := exists_indent hindent
    rw [hafter] at hlead
    rcases hnext : next.chars source ++ last with _ | ⟨c, tail⟩
    · rw [hnext] at hlead
      cases hlead
    rw [hnext, List.head?_cons, Option.any_some] at hlead
    rw [hnext, hrow.chars_token hkeyword] at hsource
    have htakes := Takes.lineStart_cons hline ((takes_any hindent).cons
      ((show Takes (literal "import".toList) _ _ (_ ++ tail) from takes_literal _).cons
        ((takes_any hblank).cons (takes_one hlead).sequence_singleton)))
    refine (show Takes importStatement _ _ _ from htakes).isSome (List.mem_cons_self ..) ?_
    simpa using hsource
  next => cases h

/-- A place where a call may begin, with the character before it. -/
lemma exists_free (h : first.getLast?.all isFree) :
    ∃ front taken, first = front ++ taken ∧
      ∀ last, Takes (either lineStart (one isFree)) front taken last := by
  rcases first.eq_nil_or_concat with rfl | ⟨front, c, rfl⟩
  · exact ⟨[], [], rfl, fun last => .left (takes_lineStart (.inl rfl))⟩
  · rw [List.concat_eq_append, List.getLast?_concat, Option.all_some] at h
    exact ⟨front, [c], List.concat_eq_append, fun last => .right (takes_one h)⟩

lemma isSome_of_isPlainCall (hrow : Row source node.parts)
    (hparsed : ∀ part ∈ node.parts, part.Parsed source) (h : isPlainCall source node) :
    (statement? source).isSome := by
  unfold isPlainCall at h
  split at h
  next function arguments others hparts =>
    simp only [Bool.and_eq_true, Bool.or_eq_true, beq_iff_eq] at h
    obtain ⟨⟨⟨hfunction, harguments⟩, hfree⟩, hblank⟩ := h
    rw [hparts] at hrow hparsed
    obtain ⟨hparsed, hothers⟩ := List.forall_mem_cons.mp hparsed
    have hname : ∃ name, call name ∈ recognisers ∧ function.chars source = name.toList := by
      rcases hfunction with himport | ⟨-, hrequire⟩
      · exact ⟨"import", by simp [recognisers], hparsed.chars_importValue himport⟩
      · exact ⟨"require", by simp [recognisers], hrequire⟩
    obtain ⟨name, hmem, hname⟩ := hname
    have hopens : "(".toList <+: after source arguments.start :=
      (hothers arguments (List.mem_cons_self ..)).begins harguments (by decide) (by decide +kernel)
    obtain ⟨first, rest, hsource, hbefore, hstop⟩ := hrow.exists_first
    rw [← List.append_assoc] at hsource
    obtain ⟨last, rfl, hafter, -, -, -⟩ := hrow.exists_next hsource hstop
    rw [hafter] at hopens
    obtain ⟨tail, htail⟩ := hopens
    rw [← htail, hname] at hsource
    rw [hbefore] at hfree
    obtain ⟨front, taken, rfl, htakes⟩ := exists_free hfree
    have htakes := (htakes _).cons
      ((show Takes (literal name.toList) _ _ (_ ++ tail) from takes_literal _).cons
      ((takes_any hblank).cons
        (show Takes (one (· == '(')) _ ['('] _ from takes_one rfl).sequence_singleton))
    refine (show Takes (call name) _ _ _ from htakes).isSome hmem ?_
    simpa using hsource
  next => cases h

/-- What comes after the subject of an export. -/
def origin : List Recogniser :=
  [any isBlank,
   maybe (sequence [word "as", some1 isBlank, some1 isIdentifierPart, any isBlank]),
   word "from", wordEnd]

/-- No word goes on after `from`. -/
lemma takes_from (hrow : Row source (tree :: trees)) (htoken : tree.isToken "from")
    {last : List Char} (hafter : after source tree.stop = last) :
    Takes (sequence [word "from", wordEnd]) first (tree.chars source) last := by
  have hend (c : Char) (hc : c ∈ last.head?) : isWord c = false := by
    have hpart := (hrow.spelled tree (List.mem_cons_self ..)).ends "from"
      (Tree.isToken_iff.mp htoken) (by decide) c (hafter ▸ hc)
    rcases hword : isWord c with _ | _
    · rfl
    · rw [TypeScript.isNamePart_of_isWord hword] at hpart
      cases hpart
  rw [hrow.chars_token htoken]
  have := (show Takes (word "from") first _ _ from takes_word _).cons
    (takes_wordEnd hend).sequence_singleton
  rwa [List.append_nil] at this

lemma exists_takes_origin (hrow : Row source (left :: trees)) (h : isPlainOrigin source left trees)
    (hsource : source = first ++ rest) (hsize : size first = left.stop) :
    ∃ middle last, rest = middle ++ last ∧ Takes (sequence origin) first middle last := by
  unfold isPlainOrigin at h
  split at h
  next => cases h
  next next others =>
    simp only [Bool.and_eq_true, Bool.or_eq_true] at h
    obtain ⟨hblank, hfrom | ⟨has, hname⟩⟩ := h
    · obtain ⟨last, rfl, -, hafter, -, -⟩ := hrow.exists_next hsource hsize
      have htakes : Takes (sequence origin) first _ last := (takes_any hblank).cons
        (Takes.maybe_none.cons (takes_from hrow.tail hfrom hafter))
      exact ⟨_, last, by simp, htakes⟩
    · split at hname
      next name origin others =>
        simp only [Bool.and_eq_true, isSpaced, decide_eq_true_eq] at hname
        obtain ⟨⟨⟨⟨⟨hlt, hspace⟩, hlt'⟩, hpart⟩, hblank'⟩, hfrom⟩ := hname
        obtain ⟨last, rfl, -, -, -, hstop⟩ := hrow.exists_next hsource hsize
        rw [← List.append_assoc, ← List.append_assoc] at hsource
        obtain ⟨last, rfl, -, -, hstart, hstop'⟩ := hrow.tail.exists_next hsource hstop
        have hgap := slice_ne_nil ⟨next.stop, name.start⟩ hlt hstop hstart
        have hname := slice_ne_nil name.span hlt' hstart hstop'
        rw [← List.append_assoc, ← List.append_assoc] at hsource
        obtain ⟨last, rfl, -, hafter, -, -⟩ := hrow.tail.tail.exists_next hsource hstop'
        rw [hrow.tail.chars_token has]
        have hnew (front : List Char) : Takes
            (sequence [word "as", some1 isBlank, some1 isIdentifierPart, any isBlank]) front
            _ (origin.chars source ++ last) :=
          (takes_word "as").cons ((takes_some1 hspace hgap).cons
            ((takes_some1 hpart hname).cons (takes_any hblank').sequence_singleton))
        have htakes : Takes (sequence ModuleLoad.origin) first _ last := (takes_any hblank).cons
          ((hnew _).maybe.cons (takes_from hrow.tail.tail.tail hfrom hafter))
        exact ⟨_, last, by simp [Tree.chars], htakes⟩
      next => cases hname

/-- The subject of an export. -/
def subject : Recogniser :=
  either (one (· == '*')) (sequence [one (· == '\x7b'), any (· != '\x7d'), one (· == '\x7d')])

lemma takes_list {chars last : List Char} (h : isPlainList chars) :
    Takes (sequence [one (· == '\x7b'), any (· != '\x7d'), one (· == '\x7d')])
      first chars last := by
  unfold isPlainList at h
  split at h
  next rest =>
    simp only [Bool.and_eq_true, beq_iff_eq] at h
    obtain ⟨hlast, hinner⟩ := h
    have hne : rest ≠ [] := by
      rintro rfl
      cases hlast
    have hclosing := Option.some.inj ((List.getLast?_eq_some_getLast hne).symm.trans hlast)
    rw [← List.dropLast_append_getLast hne, hclosing]
    exact (takes_one (c := '\x7b') rfl).cons ((takes_any hinner).cons
      (takes_one (c := '\x7d') rfl).sequence_singleton)
  next => cases h

lemma exists_takes_subject (hrow : Row source (tree :: trees))
    (h : isPlainSubject source (tree :: trees))
    (hsource : source = first ++ (tree.chars source ++ rest))
    (hsize : size (first ++ tree.chars source) = tree.stop) :
    ∃ middle last, tree.chars source ++ rest = middle ++ last ∧
      Takes (sequence (subject :: origin)) first middle last := by
  simp only [isPlainSubject, Bool.and_eq_true, Bool.or_eq_true] at h
  obtain ⟨hsubject, horigin⟩ := h
  have htakes (last : List Char) : Takes subject first (tree.chars source) last := by
    rcases hsubject with hstar | ⟨-, hlist⟩
    · rw [hrow.chars_token hstar]
      exact .left (takes_one (c := '*') rfl)
    · exact .right (takes_list hlist)
  rw [← List.append_assoc] at hsource
  obtain ⟨middle, last, rfl, horigin⟩ := exists_takes_origin hrow horigin hsource hsize
  exact ⟨_, last, by simp, (htakes _).cons horigin⟩

lemma ordered_exportPieces (h : tree.Nested source) :
    Tree.Ordered tree.start tree.stop (exportPieces tree) := by
  unfold exportPieces
  split
  · exact h.ordered.sublist List.filter_sublist
  · exact ⟨Nat.le_refl _, h.le, Nat.le_refl _⟩

/-- What comes after the first words of an export. -/
def exported : List Recogniser :=
  maybe (ModuleLoad.andThen (word "type") (some1 isBlank)) :: subject :: origin

lemma exists_takes_exported (hrow : Row source (tree :: trees))
    (h : isPlainExported source (tree :: trees))
    (hsource : source = first ++ (tree.chars source ++ rest))
    (hsize : size (first ++ tree.chars source) = tree.stop) :
    ∃ middle last, tree.chars source ++ rest = middle ++ last ∧
      Takes (sequence exported) first middle last := by
  unfold isPlainExported at h
  rw [Bool.or_eq_true, Bool.and_eq_true] at h
  rcases h with hsubject | ⟨htype, hsubject⟩
  · obtain ⟨middle, last, heq, htakes⟩ := exists_takes_subject hrow hsubject hsource hsize
    refine ⟨_, last, heq, ?_⟩
    exact Takes.maybe_none.cons (by rwa [List.append_nil])
  · split at hsubject
    next subject others =>
      simp only [isSpaced, Bool.and_eq_true, decide_eq_true_eq] at hsubject
      obtain ⟨⟨hlt, hblank⟩, hsubject⟩ := hsubject
      rw [← List.append_assoc] at hsource
      obtain ⟨last, rfl, -, -, hstart, hstop⟩ := hrow.exists_next hsource hsize
      have hgap := slice_ne_nil ⟨tree.stop, subject.start⟩ hlt hsize hstart
      rw [← List.append_assoc] at hsource
      obtain ⟨middle, last, heq, htakes⟩ :=
        exists_takes_subject hrow.tail hsubject hsource hstop
      rw [hrow.chars_token htype] at htakes ⊢
      refine ⟨_, last, ?_, ((takes_word "type").andThen (takes_some1 hblank hgap)).maybe.cons
        (by rwa [← List.append_assoc])⟩
      rw [heq]
      simp
    next => cases hsubject

lemma isSome_of_isPlainReExport (hrow : Row source (exportParts node))
    (h : isPlainReExport source node) : (statement? source).isSome := by
  unfold isPlainReExport at h
  split at h
  next keyword next others hparts =>
    simp only [Bool.and_eq_true, isSpaced, decide_eq_true_eq] at h
    obtain ⟨⟨⟨hkeyword, hindent⟩, hlt, hblank⟩, hexported⟩ := h
    rw [hparts] at hrow
    obtain ⟨first, rest, hsource, hbefore, hstop⟩ := hrow.exists_first
    rw [isIndented, hbefore] at hindent
    obtain ⟨line, indent, rfl, hindent, hline⟩ := exists_indent hindent
    rw [← List.append_assoc] at hsource
    obtain ⟨last, rfl, -, -, hstart, hstop'⟩ := hrow.exists_next hsource hstop
    have hgap := slice_ne_nil ⟨keyword.stop, next.start⟩ hlt hstop hstart
    rw [← List.append_assoc] at hsource
    obtain ⟨middle, last, heq, htakes⟩ :=
      exists_takes_exported hrow.tail hexported hsource hstop'
    rw [hrow.chars_token hkeyword] at htakes hsource
    have htakes := Takes.lineStart_cons hline ((takes_any hindent).cons
      ((takes_word "export").cons ((takes_some1 hblank hgap).cons htakes)))
    refine (show Takes reExport _ _ _ from htakes).isSome (by simp [recognisers]) ?_
    rw [heq] at hsource
    simpa using hsource
  next => cases h

/-! ### Templates with plain loads -/

lemma row_parts (hsound : node.Sound source) (hspelled : node.Every (Tree.Spelled source)) :
    Row source node.parts where
  ordered := ⟨_, _, hsound.ordered.sublist List.filter_sublist⟩
  nested _ hpart := (hsound.nested.of_child (List.mem_filter.mp hpart).1).self
  spelled _ hpart := (hspelled.of_child (List.mem_filter.mp hpart).1).self

lemma row_exportParts (hsound : node.Sound source) (hspelled : node.Every (Tree.Spelled source)) :
    Row source (exportParts node) := by
  have hsub : (node.parts.dropWhile fun part => part.isKind .decorator).Sublist node.parts :=
    List.dropWhile_sublist _
  have hparts := row_parts hsound hspelled
  have hmem (part : Tree) (hpart : part ∈ exportParts node) : part ∈ node.nodes := by
    obtain ⟨piece, hpiece, hpart⟩ := List.mem_flatMap.mp hpart
    have hpiece := Tree.mem_nodes_of_mem_children (List.mem_filter.mp (hsub.subset hpiece)).1
    unfold exportPieces at hpart
    split at hpart
    · exact Tree.nodes_subset hpiece
        (Tree.mem_nodes_of_mem_children (List.mem_filter.mp hpart).1)
    · rwa [List.mem_singleton.mp hpart]
  obtain ⟨lo, hi, hordered⟩ := hparts.ordered
  exact {
    ordered := ⟨lo, hi, Erasure.ordered_flatMap (hordered.sublist hsub) fun piece hpiece =>
      ordered_exportPieces (hparts.nested piece (hsub.subset hpiece))⟩
    nested := fun part hpart => hsound.nested part (hmem part hpart)
    spelled := fun part hpart => hspelled part (hmem part hpart) }

/-- The recognisers find a load that is written plainly. -/
lemma isSome_of_isPlainLoad (hparse : TypeScript.parse source = .ok tree)
    (hnode : node ∈ tree.nodes) (h : isPlainLoad source node) : (statement? source).isSome := by
  have hsound := (TypeScript.parse_wellFormed hparse).toSound.of_mem hnode
  have hspelled := (TypeScript.parse_spelled hparse).of_mem hnode
  have hchildren := TypeScript.parse_parsed hparse
  have hparsed (part : Tree) (hpart : part ∈ node.parts) : part.Parsed source := by
    have hpart := (List.mem_filter.mp hpart).1
    rcases Tree.mem_nodes_iff.mp hnode with rfl | ⟨child, hchild, hnode⟩
    · exact (hchildren part hpart).self
    · exact (hchildren child hchild node hnode).of_child hpart
  simp only [isPlainLoad, Bool.or_eq_true, Bool.and_eq_true] at h
  rcases h with (⟨-, himport⟩ | ⟨-, hcall⟩) | ⟨-, hexport⟩
  · exact isSome_of_isPlainImport (row_parts hsound hspelled) himport
  · exact isSome_of_isPlainCall (row_parts hsound hspelled) hparsed hcall
  · exact isSome_of_isPlainReExport (row_exportParts hsound hspelled) hexport

end ModuleLoad

open ModuleLoad

lemma demandNoLoads_eq_error {source file : String} {statement : List Char}
    (h : statement? source.toList = some statement) :
    demandNoLoads source file = .error (.moduleLoad file (String.ofList statement)) := by
  rw [demandNoLoads, h]

/-- A template in which another module is loaded in plain writing is refused, and the workshop stays
as it is: the template is neither transpiled nor evaluated. A template without any of the words of
loads is not refused. -/
theorem instantiate_plainLoad {ω : Type} (template : Template) :
    (∀ tree, TypeScript.parse template.source.toList = .ok tree →
      ∀ node ∈ tree.nodes, isPlainLoad template.source.toList node →
        ∃ statement, statement? template.source.toList = some statement ∧
          ∀ w : Workshop ω, (Workshop.instantiate template).outcome w =
            (.error (.moduleLoad template.path (String.ofList statement)), w)) ∧
    ((∀ text ∈ loadWords, ¬ text.toList <:+: template.source.toList) →
      demandNoLoads template.source template.path = .ok ()) := by
  constructor
  · intro tree hparse node hnode hload
    obtain ⟨statement, hstatement⟩ :=
      Option.isSome_iff_exists.mp (isSome_of_isPlainLoad hparse hnode hload)
    refine ⟨statement, hstatement, fun w => ?_⟩
    unfold Workshop.instantiate
    rw [demandNoLoads_eq_error hstatement]
    rfl
  · intro hwords
    rw [demandNoLoads]
    cases hstatement : statement? template.source.toList with
    | none => rfl
    | some statement =>
      obtain ⟨text, hmem, htext⟩ := exists_word_of_statement? (by rw [hstatement]; rfl)
      exact absurd htext (hwords text hmem)

/-- An import on a line of its own in the middle of a template, and a template without loads. -/
theorem instantiate_plainLoad_import :
    (∃ tree, ∃ node ∈ tree.nodes,
      TypeScript.parse "let a;\n\t import b from 'b';".toList = .ok tree ∧
      isPlainLoad "let a;\n\t import b from 'b';".toList node ∧
      ∀ w : Workshop Unit,
        (Workshop.instantiate (.ofPath "BP/t.ts" "let a;\n\t import b from 'b';")).outcome w =
          (.error (.moduleLoad "BP/t.ts" "import b from 'b';"), w)) ∧
    demandNoLoads "export default 1;" "BP/t.ts" = .ok () := by
  have heval : ((TypeScript.parse "let a;\n\t import b from 'b';".toList).toOption.map fun tree =>
      tree.nodes.any (isPlainLoad "let a;\n\t import b from 'b';".toList)) = some true := by
    decide +kernel
  obtain ⟨tree, hparse, heval⟩ := exists_of_parse heval
  obtain ⟨node, hnode, hload⟩ := List.any_eq_true.mp heval
  constructor
  · obtain ⟨statement, hstatement, houtcome⟩ := (instantiate_plainLoad (ω := Unit)
      (.ofPath "BP/t.ts" "let a;\n\t import b from 'b';")).1 tree hparse node hnode hload
    have heq : statement? "let a;\n\t import b from 'b';".toList =
        some "import b from 'b';".toList := by
      decide +kernel
    obtain rfl := Option.some.inj (heq.symm.trans hstatement)
    exact ⟨tree, node, hnode, hparse, hload, houtcome⟩
  · refine (instantiate_plainLoad (ω := Unit) (.ofPath "BP/t.ts" "export default 1;")).2 ?_
    decide +kernel

/-- An import that is not the first thing on its line is overlooked. -/
example : demandNoLoads "let a; import b from 'b';" "BP/t.ts" = .ok () := by decide +kernel

end Stencil
