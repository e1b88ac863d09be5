import Stencil.Proofs.Defaults
import Stencil.Proofs.Initializers
import Stencil.Proofs.Insertions
import Stencil.Proofs.Lines
import Stencil.Proofs.Separation
import Stencil.Proofs.Signatures

/-!
# Heads of arrow functions

Between the closing parenthesis of the parameters of an arrow function and its arrow, a script has
what the source has there, but for the return type: a space takes the place of a return type with
line feeds, and other return types are blanked (`transpile_arrowHeads`). So the arrow stands on the
line of the parenthesis just when no line ends before or after the return type, and the return type
has no carriage return or has a line feed as well.
-/

namespace Stencil

open Text

/-- Whether an edit changes nothing. -/
def Edit.Idle (edit : Edit) : Prop := edit.start = edit.stop ∧ edit.result [] = []

namespace Edits

variable {cursor : Nat} {text first kept last result : List Char} {edits : List Edit}
  {remaining : Edits} {edit other : Edit}

/-! ### Applied edits -/

/-- A text before the first edit is kept. -/
lemma Applied.prepend (h : Applied (cursor + size kept) text edits result) :
    Applied cursor (kept ++ text) edits (kept ++ result) := by
  generalize hcursor : cursor + size kept = place at h
  cases h with
  | done => exact .done
  | @step _ edit edits middle old text result hmiddle hold happlied =>
    have hkept : cursor + size (kept ++ middle) = edit.start := by
      rw [size_append]
      omega
    simpa only [List.append_assoc] using Applied.step hkept hold happlied

/-- Edits that change nothing may be left out. -/
lemma Applied.filter (h : Applied cursor text edits result) (keeps : Edit → Bool)
    (hidle : ∀ edit ∈ edits, keeps edit = false → edit.Idle) :
    Applied cursor text (edits.filter keeps) result := by
  induction h with
  | done => exact .done
  | @step cursor edit edits kept old text result hkept hold _ ih =>
    obtain ⟨hedit, hedits⟩ := List.forall_mem_cons.mp hidle
    rcases hkeeps : keeps edit with _ | _
    · obtain ⟨hempty, hnone⟩ := hedit hkeeps
      obtain rfl := eq_nil_of_size_eq_zero (show size old = 0 by omega)
      rw [List.filter_cons_of_neg (by simp [hkeeps]), hnone, List.nil_append, List.append_nil]
      refine .prepend ?_
      rw [hkept, hempty]
      exact ih hedits
    · rw [List.filter_cons_of_pos hkeeps]
      exact .step hkept hold (ih hedits)

/-- A text behind the last edit is kept. -/
lemma Applied.exists_of_stop_le (h : Applied cursor (first ++ kept) edits result)
    (hstop : ∀ edit ∈ edits, edit.stop ≤ cursor + size first) :
    ∃ first', result = first' ++ kept ∧ Applied cursor first edits first' := by
  generalize htext : first ++ kept = text at h
  induction h generalizing first with
  | done => exact ⟨first, htext.symm, .done⟩
  | @step cursor edit edits before old text result hbefore hold _ ih =>
    obtain ⟨hedit, hedits⟩ := List.forall_mem_cons.mp hstop
    rw [← List.append_assoc] at htext
    obtain ⟨middle, rfl, rfl⟩ := exists_append_of_size_le htext.symm (by
      rw [size_append]
      omega)
    have hsize : cursor + size (before ++ old ++ middle) = edit.stop + size middle := by
      rw [size_append, size_append]
      omega
    obtain ⟨middle', rfl, happlied⟩ := ih (fun other hother => hsize ▸ hedits other hother) rfl
    refine ⟨before ++ edit.result old ++ middle', by simp only [List.append_assoc], ?_⟩
    rw [List.append_assoc]
    exact .step hbefore hold happlied

/-- A text before the first edit is kept. -/
lemma Applied.exists_of_le_start (h : Applied cursor (kept ++ last) edits result)
    (hstart : ∀ edit ∈ edits, cursor + size kept ≤ edit.start) :
    ∃ last', result = kept ++ last' ∧ Applied (cursor + size kept) last edits last' := by
  generalize htext : kept ++ last = text at h
  cases h with
  | done => exact ⟨last, htext.symm, .done⟩
  | @step _ edit edits before old text result hbefore hold happlied =>
    have hedit := hstart edit List.mem_cons_self
    obtain ⟨middle, rfl, rfl⟩ := exists_append_of_size_le htext (by omega)
    refine ⟨middle ++ edit.result old ++ result, by simp only [List.append_assoc],
      .step ?_ hold happlied⟩
    rw [size_append] at hbefore
    omega

/-- Around an edit, texts are kept that no other edit changes anything in. -/
lemma Applied.exists_around {front old kept' : List Char} {lower upper : List Edit}
    (h : Applied 0 (front ++ kept ++ (old ++ (kept' ++ last))) (lower ++ edit :: upper) result)
    (hstart : size (front ++ kept) = edit.start) (hstop : edit.start + size old = edit.stop)
    (hlower : ∀ other ∈ lower, other.Idle ∨ other.stop ≤ size front)
    (hupper : ∀ other ∈ upper, other.Idle ∨ edit.stop + size kept' ≤ other.start) :
    ∃ front' last', result = front' ++ kept ++ (edit.result old ++ (kept' ++ last')) ∧
      Applied 0 front (lower.filter fun other => other.stop ≤ size front) front' ∧
      Applied (edit.stop + size kept') last
        (upper.filter fun other => edit.stop + size kept' ≤ other.start) last' := by
  obtain ⟨before, taken, after, before', after', htext, hbefore, htaken, happlied, happlied',
    rfl⟩ := h.of_append_cons
  obtain ⟨rfl, hrest⟩ := append_inj_of_size_eq htext (by omega)
  obtain ⟨rfl, rfl⟩ := append_inj_of_size_eq hrest (by omega)
  have happlied := happlied.filter (fun other => other.stop ≤ size front)
    fun other hother hnot => (hlower other hother).resolve_right (of_decide_eq_false hnot)
  have happlied' := happlied'.filter (fun other => edit.stop + size kept' ≤ other.start)
    fun other hother hnot => (hupper other hother).resolve_right (of_decide_eq_false hnot)
  obtain ⟨front', rfl, hfront⟩ := happlied.exists_of_stop_le fun other hother => by
    rw [Nat.zero_add]
    exact of_decide_eq_true (List.mem_filter.mp hother).2
  obtain ⟨last', rfl, hlast⟩ := happlied'.exists_of_le_start fun other hother =>
    of_decide_eq_true (List.mem_filter.mp hother).2
  exact ⟨front', last', by simp only [List.append_assoc], hfront, hlast⟩

/-! ### The first of the edits with one range -/

/-- What is covered stays so. -/
lemma exists_covers_push (h : ∃ outer ∈ remaining.items, outer.covers edit) :
    ∃ outer ∈ (remaining.push other).items, outer.covers edit := by
  generalize hresult : remaining.push other = result
  cases hresult ▸ push_pushed remaining other with
  | inside => exact h
  | covered => exact h
  | inserted =>
    obtain ⟨outer, houter, hcovers⟩ := h
    exact ⟨outer, List.mem_append_left _ houter, hcovers⟩
  | added =>
    obtain ⟨outer, houter, hcovers⟩ := h
    by_cases hover : other.supersedes outer
    · exact ⟨other, List.mem_append_right _ List.mem_cons_self,
        Edit.covers_trans (Edit.covers_of_supersedes hover) hcovers⟩
    · exact ⟨outer, List.mem_append_left _ (List.mem_filter.mpr ⟨houter, by simpa using hover⟩),
        hcovers⟩

/-- A range that is covered is not added any more. -/
lemma not_mem_foldl_of_covers (hrange : edit.start < edit.stop)
    (hcovers : ∃ outer ∈ remaining.items, outer.covers edit)
    (hnot : edit ∉ remaining.items) : edit ∉ (edits.foldl push remaining).items := by
  induction edits generalizing remaining with
  | nil => exact hnot
  | cons other edits ih =>
    refine ih (exists_covers_push hcovers) fun hmem => ?_
    rcases mem_push hmem with hmem | ⟨rfl, hnone⟩
    · exact hnot hmem
    · obtain ⟨outer, houter, hcover⟩ := hcovers
      exact hnone hrange outer houter hcover

/-- What is made is covered. -/
lemma exists_covers_push_self (hrange : edit.start < edit.stop) :
    ∃ outer ∈ (remaining.push edit).items, outer.covers edit := by
  generalize hresult : remaining.push edit = result
  cases hresult ▸ push_pushed remaining edit with
  | inside hempty => omega
  | inserted hempty => omega
  | covered _ hcovers => exact hcovers
  | added => exact ⟨edit, List.mem_append_right _ List.mem_cons_self, Edit.covers_self hrange⟩

/-- Of the edits with one range, none but the first remains. -/
lemma eq_of_mem_ofList {before after : List Edit} (hrange : edit.start < edit.stop)
    (hbefore : ∀ earlier ∈ before, ¬ (earlier.start = edit.start ∧ earlier.stop = edit.stop))
    (hmem : other ∈ (ofList (before ++ edit :: after)).items) (hstart : other.start = edit.start)
    (hstop : other.stop = edit.stop) : other = edit := by
  by_contra hne
  rw [ofList, List.foldl_append, List.foldl_cons] at hmem
  refine not_mem_foldl_of_covers (hstart ▸ hstop ▸ hrange) ?_ (fun hmem => ?_) hmem
  · obtain ⟨outer, houter, hcovers⟩ := exists_covers_push_self hrange
    refine ⟨outer, houter, ?_⟩
    rw [Edit.covers_iff] at hcovers ⊢
    omega
  · have hnot : other ∉ before := fun h => hbefore other h ⟨hstart, hstop⟩
    exact absurd (mem_of_mem_foldl hnot (mem_of_mem_push hne hmem)) List.not_mem_nil

end Edits

namespace Erasure

open TypeScript (Tree Kind Span Skipped Trivia IsBehindParameters ascriptionKinds)

variable {source : List Char} {tree arrow parameters type token closing node child : Tree}
  {edits : List Edit} {edit : Edit} {exports : Exports} {range : Span} {offset : Nat}

/-! ### Places of edits -/

/-- What takes something out is named. -/
lemma isNamed_of_mem_ownRanges (h : range ∈ ownRanges source tree) : tree.isNamed := by
  by_contra hnot
  rcases Tree.isNamed_eq_false_iff.mp (Bool.not_eq_true _ ▸ hnot) with hcomment | ⟨text, htoken⟩
  · rw [ownRanges_eq_nil (by simp) hcomment] at h
    cases h
  · rw [ownRanges_token htoken] at h
    cases h

/-- Where an edit of a module stands: it changes nothing or takes some bytes, or it inserts between
two parts of a block or right behind an arrow. -/
inductive Stands (tree : Tree) (edit : Edit) : Prop where
  | idle (h : edit.Idle)
  | range (h : edit.start < edit.stop)
  | block {block : Tree} (hblock : block ∈ tree.nodes) (h : InBlock block edit.start)
      (hempty : edit.start = edit.stop)
  | arrow {arrow type token : Tree} (h : HasReturnType tree arrow type token)
      (hstart : edit.start = token.stop) (hempty : edit.start = edit.stop)

/-- An enum takes some bytes. -/
lemma enumEdit_start_lt_stop (hparsed : tree.Every (TypeScript.Tree.Parsed source))
    (htree : tree.Sound source) (hkind : tree.isKind .enumDeclaration)
    (h : enumEdit source tree = .ok edit) : edit.start < edit.stop := by
  obtain ⟨hstart, hstop⟩ := enumEdit_range h
  unfold enumEdit at h
  split at h
  next name body hname hbody =>
    have hmem := Tree.mem_of_child? hbody
    have hlt := (hparsed.of_child hmem).self.start_lt_stop
      (isKind_enumBody hparsed.self hkind hbody) (by decide) (show "\x7b" ≠ "" by decide)
      (by decide +kernel)
    have := htree.ordered.mem hmem
    omega
  next => cases h

/-- The range of a `this` parameter ends with it or with a comma. -/
lemma exists_of_mem_thisRanges (h : range ∈ thisRanges tree.children) :
    ∃ last ∈ tree.parts, last.isToken ")" = false ∧ range.stop = last.stop := by
  have hrange {trees : List Tree} (hsub : trees ⊆ tree.children) (h : range ∈ thisRanges trees) :
      ∃ last ∈ tree.children, (isThisParameter last ∨ last.isToken ",") ∧
        range.stop = last.stop := by
    induction trees with
    | nil => cases h
    | cons parameter trees ih =>
      obtain ⟨hparameter, htrees⟩ := List.cons_subset.mp hsub
      rw [thisRanges] at h
      split at h
      next hthis =>
        rcases List.mem_cons.mp h with rfl | h
        · rcases hnext : trees.head?.filter (Tree.isToken ",") with _ | next
          · exact ⟨parameter, hparameter, .inl hthis, rfl⟩
          · obtain ⟨hhead, hcomma⟩ := Option.filter_eq_some_iff.mp hnext
            exact ⟨next, htrees (List.mem_of_head? hhead), .inr hcomma, rfl⟩
        · exact ih htrees h
      next => exact ih htrees h
  obtain ⟨last, hlast, hcases, hstop⟩ := hrange (List.Subset.refl _) h
  rcases hcases with hthis | hcomma
  · have hnot : last.isToken ")" = false := by
      by_contra htoken
      rw [isThisParameter_token (Bool.not_eq_false _ ▸ htoken)] at hthis
      cases hthis
    refine ⟨last, Tree.mem_parts hlast ?_, hnot, hstop⟩
    by_contra hcomment
    simp_all [isThisParameter, Tree.isKind]
  · rw [Tree.isToken_iff] at hcomma
    exact ⟨last, Tree.mem_parts hlast (by simp [Tree.isKind, hcomma]),
      by simp [Tree.isToken, hcomma], hstop⟩

section Module

variable (hparse : TypeScript.parse source = .ok tree)
  (hedits : moduleEdits source tree = .ok (edits, exports))
include hparse

lemma Generates.stands (hnode : node ∈ tree.nodes) (h : Generates source node edit) :
    Stands tree edit := by
  have htree := TypeScript.parse_wellFormed hparse
  have hsound := htree.toSound.of_mem hnode
  have hbelow {body : Tree} (hbody : node.child? .body = some body) : body ∈ tree.nodes :=
    Tree.nodes_subset hnode (Tree.mem_nodes_of_mem_children (Tree.mem_of_child? hbody))
  cases h with
  | enumeration hkind hedit =>
    refine .range (enumEdit_start_lt_stop (parsed_of_mem_nodes hparse hnode ?_) hsound hkind hedit)
    rw [Tree.isKind_iff] at hkind
    simp [Tree.isKind, hkind]
  | @frame name body _ hnamespace hform hedit =>
    have hbody := (child?_of_present hform).2
    have hmem := Tree.mem_of_child? hbody
    have hblock := (hsound.block_of_child? (exists_endingKind hnamespace) hbody).1
    have htwo := (between_braces (hsound.of_child hmem) hblock).1
    have hspan := hsound.ordered.mem hmem
    simp only [namespaceFrame, List.mem_cons, List.not_mem_nil, or_false] at hedit
    rcases hedit with rfl | rfl <;> refine .range ?_ <;> dsimp only [Edit.replace] <;> omega
  | @assignment name body statement _ hnamespace hform hstatement hkind =>
    have hbody := (child?_of_present hform).2
    have hblock := (hsound.block_of_child? (exists_endingKind hnamespace) hbody).1
    exact .block (hbelow hbody) (.of_part (hsound.of_child (Tree.mem_of_child? hbody)) hblock
      hstatement (Tree.isNamed_of_isKind hkind (by decide))) rfl
  | returnType hkind hedit =>
    rcases moveReturnType_cases source node with hnone | ⟨type, token, htype, htoken, hfeeds, hpair⟩
    · rw [hnone] at hedit
      cases hedit
    have harrow : HasReturnType tree node type token := ⟨hnode, hkind, htype, htoken⟩
    rw [hpair, List.mem_cons, List.mem_singleton] at hedit
    rcases hedit with rfl | rfl
    · exact .range (harrow.forward htree hfeeds)
    · exact .arrow harrow rfl rfl
  | properties hkind hedits hedit =>
    obtain ⟨block, hbody, hin⟩ := parameterProperties_inBlock hsound hkind hedits hedit
    exact .block (hbelow hbody) hin (parameterProperties_placed hsound hkind hedits hedit).1

include hedits

/-- Where the edits of a module stand. -/
lemma moduleEdits_stands (hmem : edit ∈ edits) : Stands tree edit := by
  have htree := TypeScript.parse_wellFormed hparse
  rcases moduleEdits_made hedits hmem with ⟨range, -, rfl⟩ | h
  · have hle := (moduleEdits_laminar htree hedits).forward _ hmem
    rcases Nat.lt_or_eq_of_le hle with hlt | heq
    · exact .range hlt
    · exact .idle ⟨heq, rfl⟩
  cases h with
  | node hnode h => exact h.stands hparse hnode
  | @defaultValue statement hstatement hkind hform =>
    obtain ⟨keyword, given, hkeywords⟩ := exists_defaultKeywords
      (TypeScript.parse_parsed hparse statement hstatement).self
      (htree.toSound.of_child hstatement) ((TypeScript.parse_spelled hparse).of_child hstatement)
      (givesDefault_eq hkind hform).symm
    have := hkeywords.two_le (htree.toSound.of_child hstatement).ordered
    refine .range ?_
    dsimp only [Edit.replace]
    omega

end Module

/-! ### Heads -/

/-- The head of an arrow function with a return type: the parameters with the parenthesis that
closes them, the return type and the arrow, one after another. -/
structure HasHead (tree arrow parameters closing type token : Tree) : Prop where
  returns : HasReturnType tree arrow type token
  parts : ∃ first last, arrow.parts = first ++ parameters :: type :: token :: last
  formal : parameters.isKind .formalParameters
  closes : ∃ first, parameters.parts = first ++ [closing]
  parenthesis : closing.isToken ")"
  stop : closing.stop = parameters.stop
  ascription : ∃ kind ∈ ascriptionKinds, type.isKind kind
  forward : type.start < type.stop

/-- Whether an edit stands before a parenthesis, after an arrow, or in the return type between
them, but not at one of its ends. -/
def Clears (closing type token : Tree) (edit : Edit) : Prop :=
  edit.stop ≤ closing.start ∨ token.stop ≤ edit.start ∨
    (type.start ≤ edit.start ∧ edit.stop ≤ type.stop ∧
      type.start < edit.stop ∧ edit.start < type.stop)

section Head

variable (hparse : TypeScript.parse source = .ok tree)
include hparse

lemma HasReturnType.parsed (h : HasReturnType tree arrow type token) :
    arrow.Every (TypeScript.Tree.Parsed source) := by
  refine parsed_of_mem_nodes hparse h.mem ?_
  have hkind := Tree.isKind_iff.mp h.kind
  simp [Tree.isKind, hkind]

/-- An arrow function with a return type has a head. -/
lemma HasReturnType.exists_head (h : HasReturnType tree arrow type token) :
    ∃ parameters closing, HasHead tree arrow parameters closing type token := by
  have htree := TypeScript.parse_wellFormed hparse
  have hparsed := h.parsed hparse
  have hsound := htree.toSound.of_mem h.mem
  have hsub : arrow.parts.Sublist arrow.children := List.filter_sublist
  obtain ⟨⟨first, last, hparts⟩, -, -⟩ := h.parts htree (TypeScript.parse_parsed hparse)
  obtain ⟨first', parameters, last', hparts', -, hformal, hascription⟩ :=
    hparsed.self.isBehindParameters h.kind h.type
  have hforward : type.start < type.stop := by
    have hparsed := (hparsed.of_child (Tree.mem_of_child? h.type)).self
    obtain ⟨kind, hkind, hascription⟩ := hascription
    simp only [ascriptionKinds, List.mem_cons, List.not_mem_nil, or_false] at hkind
    rcases hkind with rfl | rfl | rfl <;>
      exact hparsed.start_lt_stop hascription (by decide) (show ":" ≠ "" by decide)
        (by decide +kernel)
  have hordered := hsound.ordered.sublist hsub
  rw [hparts] at hordered
  have heq : first ++ type :: token :: last = first' ++ [parameters] ++ type :: last' := by
    rw [← hparts, hparts']
    simp
  obtain ⟨rfl, rfl⟩ := hordered.append_cons_inj hforward heq
  have hmem : parameters ∈ arrow.children := hsub.subset (by simp [hparts'])
  obtain ⟨first, closing, hclosing, hparenthesis, hstop⟩ :=
    (hparsed.of_child hmem).self.closing hformal
  exact ⟨parameters, closing, h, ⟨first', last, hparts'⟩, hformal, ⟨first, hclosing⟩,
    hparenthesis, hstop, hascription, hforward⟩

namespace HasHead

variable (h : HasHead tree arrow parameters closing type token)
include h

omit hparse in
lemma parameters_mem : parameters ∈ arrow.children := by
  obtain ⟨first, last, hparts⟩ := h.parts
  exact (List.mem_filter.mp (show parameters ∈ arrow.parts by simp [hparts])).1

omit hparse in
lemma closing_mem : closing ∈ parameters.children := by
  obtain ⟨first, hparts⟩ := h.closes
  exact (List.mem_filter.mp (show closing ∈ parameters.parts by simp [hparts])).1

/-- The parts of a head stand in order. -/
lemma ordered : arrow.start ≤ parameters.start ∧ parameters.start ≤ closing.start ∧
    closing.start < closing.stop ∧ closing.stop ≤ type.start ∧ type.stop ≤ token.start ∧
    token.start < token.stop ∧ token.stop < arrow.stop := by
  have htree := TypeScript.parse_wellFormed hparse
  have hsound := htree.toSound.of_mem h.returns.mem
  have hordered := h.returns.ordered htree (TypeScript.parse_parsed hparse)
  have hparameters := hsound.of_child h.parameters_mem
  have hclosing := hparameters.ordered.mem h.closing_mem
  have hspelled := (TypeScript.parse_spelled hparse).of_mem h.returns.mem
  have hlt := ((hspelled.of_child h.parameters_mem).of_child h.closing_mem).self.start_lt_stop
    (hparameters.of_child h.closing_mem).nested.self h.parenthesis (by decide)
  have hsub : arrow.parts.Sublist arrow.children := List.filter_sublist
  obtain ⟨first, last, hparts⟩ := h.parts
  obtain ⟨_, -, hrest⟩ := (hparts ▸ hsound.ordered.sublist hsub).of_append
  have hstop := h.stop
  have hle := hrest.2.2.1
  have hstart := (hsound.ordered.mem h.parameters_mem).1
  omega

/-- What stands in the parameters besides comments comes before the parenthesis. -/
lemma stop_le_closing (hchild : child ∈ parameters.parts) (hnot : child.isToken ")" = false) :
    child.stop ≤ closing.start := by
  have hsound := (TypeScript.parse_wellFormed hparse).toSound.of_mem h.returns.mem
  have hordered := (hsound.of_child h.parameters_mem).ordered
  have hsub : parameters.parts.Sublist parameters.children := List.filter_sublist
  obtain ⟨first, hparts⟩ := h.closes
  obtain ⟨mid, hfirst, hmid, -⟩ := (hparts ▸ hordered.sublist hsub).of_append
  rw [hparts] at hchild
  rcases List.mem_append.mp hchild with hmem | hmem
  · exact Nat.le_trans (hfirst.mem hmem).2.2 hmid
  · rw [List.mem_singleton.mp hmem, h.parenthesis] at hnot
    cases hnot

/-- Where the nodes in an arrow function stand. -/
lemma below (hchild : child ∈ arrow.children) (hnode : node ∈ child.nodes)
    (hnamed : node.isNamed) : node = parameters ∨ node.stop ≤ closing.start ∨
      token.stop ≤ node.start ∨ type.start ≤ node.start ∧ node.stop ≤ type.stop := by
  have hsound := (TypeScript.parse_wellFormed hparse).toSound.of_mem h.returns.mem
  have hsub : arrow.parts.Sublist arrow.children := List.filter_sublist
  have hchildNamed := isNamed_of_mem_nodes (hsound.of_child hchild) hnode hnamed
  have hwithin := Within.of_mem_nodes (hsound.of_child hchild).nested hnode
  obtain ⟨hstart, -, hstop⟩ := hwithin
  have hordered := h.ordered hparse
  obtain ⟨first, last, hparts⟩ := h.parts
  obtain ⟨_, hfirst, hrest⟩ := (hparts ▸ hsound.ordered.sublist hsub).of_append
  have hmem := hparts ▸ Tree.mem_parts_of_isNamed hchild hchildNamed
  simp only [Tree.start, Tree.stop] at *
  rcases List.mem_append.mp hmem with hmem | hmem
  · have := (hfirst.mem hmem).2.2
    have := hrest.1
    simp only [Tree.start, Tree.stop] at *
    omega
  rcases List.mem_cons.mp hmem with rfl | hmem
  · rcases Tree.mem_nodes_iff.mp hnode with rfl | ⟨inner, hinner, hnode⟩
    · exact .inl rfl
    have hinnerSound := (hsound.of_child hchild).of_child hinner
    have hinnerNamed := isNamed_of_mem_nodes hinnerSound hnode hnamed
    have hle := h.stop_le_closing hparse (Tree.mem_parts_of_isNamed hinner hinnerNamed) (by
      rw [← Bool.not_eq_true]
      intro htoken
      rw [Tree.isNamed_eq_false_iff.mpr (.inr ⟨_, htoken⟩)] at hinnerNamed
      cases hinnerNamed)
    obtain ⟨-, -, hinnerStop⟩ := Within.of_mem_nodes hinnerSound.nested hnode
    simp only [Tree.start, Tree.stop] at *
    omega
  rcases List.mem_cons.mp hmem with rfl | hmem
  · exact .inr (.inr (.inr ⟨hstart, hstop⟩))
  rcases List.mem_cons.mp hmem with rfl | hmem
  · have htoken : child.isToken "=>" := List.find?_some h.returns.token
    rw [Tree.isNamed_eq_false_iff.mpr (.inr ⟨_, htoken⟩)] at hchildNamed
    cases hchildNamed
  · have := (hrest.2.2.2.2.2.2.mem hmem).1
    simp only [Tree.start, Tree.stop] at *
    omega

/-- A cut inside a node other than the arrow function and its parameters is not in the head, but for
its return type. -/
lemma cut_cases (hnode : node ∈ tree.nodes) (hnamed : node.isNamed) (harrow : node ≠ arrow)
    (hparameters : node ≠ parameters) (hcut : IsCut node offset) (hstart : node.start < offset)
    (hstop : offset < node.stop) : offset ≤ closing.start ∨ token.stop ≤ offset ∨
      type.start < offset ∧ offset < type.stop := by
  have hsound := (TypeScript.parse_wellFormed hparse).toSound
  have hordered := h.ordered hparse
  rcases nodes_cases hsound.nested h.returns.mem hnode with rfl | ⟨child, hchild, hin⟩ |
    ⟨child, hchild, hin⟩ | hapart
  · exact absurd rfl harrow
  · rcases h.below hparse hchild hin hnamed with rfl | hcases
    · exact absurd rfl hparameters
    · omega
  · have hnodeSound := hsound.of_mem hnode
    obtain ⟨hle, -, hle'⟩ := Within.of_mem_nodes (hnodeSound.of_child hchild).nested hin
    have := hcut.outside hnodeSound.nested.self hchild
    simp only [Tree.start, Tree.stop] at *
    omega
  · omega

/-- What lies in a node of an arrow function other than its parameters is not in the head, but for
its return type. -/
lemma within_clears (hchild : child ∈ arrow.children) (hnode : node ∈ child.nodes)
    (hnamed : node.isNamed) (hparameters : node ≠ parameters) (hrange : edit.start < edit.stop)
    (hwithin : Within node (rangeOf edit)) : Clears closing type token edit := by
  obtain ⟨hstart, -, hstop⟩ := hwithin
  have := (h.below hparse hchild hnode hnamed).resolve_left hparameters
  simp only [Clears, rangeOf] at *
  omega

/-- What a node in an arrow function takes out is not in the head, but for its return type. -/
lemma ownRanges_clears (hchild : child ∈ arrow.children) (hnode : node ∈ child.nodes)
    (hedit : rangeOf edit ∈ ownRanges source node) (hrange : edit.start < edit.stop) :
    Clears closing type token edit := by
  have hsound := (TypeScript.parse_wellFormed hparse).toSound.of_mem h.returns.mem
  have hnodeSound := (hsound.of_child hchild).of_mem hnode
  by_cases hparameters : node = parameters
  · subst hparameters
    have hkind := Tree.isKind_iff.mp h.formal
    rw [ownRanges_eq_markRanges (by simp [takingKinds, typeKinds, Tree.isKind, hkind]), markRanges,
      hkind] at hedit
    obtain ⟨last, hlast, hnot, heq⟩ := exists_of_mem_thisRanges hedit
    have hle := h.stop_le_closing hparse hlast hnot
    have hstop : edit.stop = last.stop := heq
    exact .inl (hstop ▸ hle)
  · exact h.within_clears hparse hchild hnode (isNamed_of_mem_ownRanges hedit) hparameters hrange
      (ownRanges_within hnodeSound hedit)

variable (hedits : moduleEdits source tree = .ok (edits, exports))
  (hkept : ∀ edit ∈ edits, ¬ Spans edit arrow.span)
include hedits hkept

/-- The edits of a module that change something are not in the head, but for its return type. -/
theorem clears (hmem : edit ∈ edits) : edit.Idle ∨ Clears closing type token edit := by
  have htree := TypeScript.parse_wellFormed hparse
  have hsound := htree.toSound.of_mem h.returns.mem
  have hordered := h.ordered hparse
  have hscope := isScope_of_arrow h.returns.kind
  cases moduleEdits_stands hparse hedits hmem with
  | idle hidle => exact .inl hidle
  | range hrange =>
    have hplace := moduleEdits_rangeOf htree hedits hmem hrange
    right
    rcases moduleRanges_scope hscope htree h.returns.mem hplace with
      (hbefore | hafter | hspans) | ⟨inner, hinner, hown⟩ | ⟨inner, hinner, hnamespace, hcloses⟩
    · simp only [Clears, rangeOf, Tree.start, Tree.stop] at *
      omega
    · simp only [Clears, rangeOf, Tree.start, Tree.stop] at *
      omega
    · exact absurd hspans (hkept edit hmem)
    · rcases Tree.mem_nodes_iff.mp hinner with rfl | ⟨child, hchild, hin⟩
      · rw [ownRanges_arrowFunction h.returns.kind, returnTypeRanges, h.returns.type,
          h.returns.token] at hown
        dsimp only at hown
        split at hown
        · cases hown
        have hstart : edit.start = type.start := congrArg Span.start (List.mem_singleton.mp hown)
        have hstop : edit.stop = type.stop := congrArg Span.stop (List.mem_singleton.mp hown)
        have hforward := h.forward
        simp only [Clears]
        omega
      · exact h.ownRanges_clears hparse hchild hin hown hrange
    · rcases Tree.mem_nodes_iff.mp hinner with rfl | ⟨child, hchild, hin⟩
      · exact absurd h.returns.kind (not_isArrow_of_isNamespace hnamespace)
      have hinnerSound := (hsound.of_child hchild).of_mem hin
      refine h.within_clears hparse hchild hin ?_ ?_ hrange
        (ClosesNamespace.within hinnerSound ⟨inner, Tree.mem_nodes_self _, hnamespace, hcloses⟩)
      · rcases isNamespace_iff.mp hnamespace with hkind | hkind <;> simp [Tree.isNamed, hkind]
      · rintro rfl
        have hformal := Tree.isKind_iff.mp h.formal
        rcases isNamespace_iff.mp hnamespace with hkind | hkind <;> simp [hkind] at hformal
  | block hblock hin hempty =>
    have hkind := Tree.isKind_iff.mp hin.isBlock
    have harrow := Tree.isKind_iff.mp h.returns.kind
    have hformal := Tree.isKind_iff.mp h.formal
    have := h.cut_cases hparse hblock (by simp [Tree.isNamed, hkind])
      (by rintro rfl; simp [hkind] at harrow) (by rintro rfl; simp [hkind] at hformal)
      hin.cut hin.start hin.stop
    right
    simp only [Clears]
    omega
  | @arrow arrow' type' token' h' hstart hempty =>
    have hordered' := h'.ordered htree (TypeScript.parse_parsed hparse)
    have hkind := Tree.isKind_iff.mp h'.kind
    have hformal := Tree.isKind_iff.mp h.formal
    right
    by_cases heq : arrow' = arrow
    · subst heq
      cases h.returns.token.symm.trans h'.token
      exact .inr (.inl (Nat.le_of_eq hstart.symm))
    · have := h.cut_cases hparse h'.mem (by simp [Tree.isNamed, hkind]) heq
        (by rintro rfl; simp [hkind] at hformal) (.childStop (Tree.mem_of_token? h'.token))
        (by omega) hordered'.2.2.2.2
      simp only [Clears]
      omega

end HasHead

end Head

/-! ### What takes the place of a return type -/

/-- The edit that takes the place of a return type. -/
def returnTypeEdit (source : List Char) (type : Tree) : Edit :=
  if 0 < countLineFeeds (type.chars source) then .replace type.start type.stop " "
  else blankTree type

lemma returnTypeEdit_start (source : List Char) (type : Tree) :
    (returnTypeEdit source type).start = type.start := by
  unfold returnTypeEdit
  split <;> rfl

lemma returnTypeEdit_stop (source : List Char) (type : Tree) :
    (returnTypeEdit source type).stop = type.stop := by
  unfold returnTypeEdit
  split <;> rfl

/-- A return type is blanked as a whole. -/
lemma erase_ascription {next : Option Tree} (h : ∃ kind ∈ ascriptionKinds, type.isKind kind)
    (hedits : erase source false next type = .ok edits) : edits = [blankTree type] := by
  obtain ⟨kind, hkind, hascription⟩ := h
  have hmember : isErasedMember type := by
    rw [isErasedMember, isTypeSyntax, Bool.or_eq_true]
    refine .inl (List.any_eq_true.mpr ⟨kind, ?_, hascription⟩)
    simp only [ascriptionKinds, List.mem_cons, List.not_mem_nil, or_false] at hkind
    rcases hkind with rfl | rfl | rfl <;> simp [typeKinds]
  rw [erase_of_isErasedMember hmember] at hedits
  cases hedits
  unfold blankMember
  split <;> rfl

section Head

variable (hparse : TypeScript.parse source = .ok tree)
  (h : HasHead tree arrow parameters closing type token)
  (hedits : moduleEdits source tree = .ok (edits, exports))
  (hkept : ∀ edit ∈ edits, ¬ Spans edit arrow.span)
include hparse h hedits hkept

/-- The first edit with the range of a return type. -/
lemma HasHead.exists_returnTypeEdit : ∃ before after,
    edits = before ++ returnTypeEdit source type :: after ∧
      ∀ earlier ∈ before, ¬ (earlier.start = type.start ∧ earlier.stop = type.stop) := by
  have htree := TypeScript.parse_wellFormed hparse
  have hsound := htree.toSound.of_mem h.returns.mem
  have hscope := isScope_of_arrow h.returns.kind
  have hsymbol := Tree.isKind_iff.mp h.returns.kind
  have hordered := h.ordered hparse
  have hforward := h.forward
  obtain ⟨inClass, next, before, own, after, herase, rfl, hbeside, -⟩ :=
    moduleEdits_isolated hscope htree hedits h.returns.mem hkept
  have hbefore : ∀ earlier ∈ before, ¬ (earlier.start = type.start ∧ earlier.stop = type.stop) := by
    rintro earlier hearlier ⟨hstart, hstop⟩
    have := hbeside arrow (Tree.mem_nodes_self arrow) hscope earlier hearlier
    simp only [Beside, rangeOf, Tree.start, Tree.stop] at *
    omega
  cases erase_erases herase with
  | parts _ hown hinner =>
    rw [ownEdits, hsymbol] at hown
    cases hown
    rcases Nat.eq_zero_or_pos (countLineFeeds (type.chars source)) with hzero | hfeeds
    · have hnone : moveReturnType source arrow = [] := by
        rcases moveReturnType_cases source arrow with hnone | ⟨type', _, htype, -, hfeeds, -⟩
        · exact hnone
        · cases h.returns.type.symm.trans htype
          omega
      obtain ⟨first, last, hchildren⟩ := List.append_of_mem (Tree.mem_of_child? h.returns.type)
      have hwalks := walks_of_eraseAmong hinner
      rw [hchildren] at hwalks
      obtain ⟨lower, own, upper, rfl, hown, hlower, -⟩ := hwalks.cut
      have hclass : arrow.isKind .classBody = false := by simp [Tree.isKind, hsymbol]
      obtain rfl := erase_ascription h.ascription (hclass ▸ hown)
      rw [hnone, returnTypeEdit, if_neg (by omega)]
      refine ⟨before ++ lower, upper ++ after, by simp, List.forall_mem_append.mpr ⟨hbefore, ?_⟩⟩
      rintro earlier hearlier ⟨hstart, hstop⟩
      obtain ⟨first', other, last', made, heq, hin, hmade, hmem⟩ := hlower earlier hearlier
      have hother : other ∈ arrow.children := by simp [hchildren, heq]
      have hordered := hsound.ordered
      rw [hchildren, heq] at hordered
      obtain ⟨mid, -, hordered⟩ := hordered.of_append
      have hle := (hordered.2.2.mem hin).1
      rcases erase_within (hsound.of_child hother) hmade hmem with hempty | hwithin | ⟨htrue, -⟩
      · omega
      · have hle' : earlier.stop ≤ other.stop := hwithin.stop
        omega
      · rw [hclass] at htrue
        cases htrue
    · rw [h.returns.moveReturnType_eq hfeeds, returnTypeEdit, if_pos hfeeds]
      exact ⟨before, _, by simp only [List.append_assoc, List.cons_append]; rfl, hbefore⟩
  | _ => simp_all [isErasedMember, isTypeSyntax, typeKinds, isErased, isNamespace, isAssertion,
      Tree.isKind]

/-- No other edit than the first with its range is applied to a return type. -/
lemma HasHead.returnTypeEdit_mem :
    returnTypeEdit source type ∈ (Edits.ofList edits).ordered := by
  have hordered := h.ordered hparse
  have hforward := h.forward
  obtain ⟨before, after, heq, hbefore⟩ := h.exists_returnTypeEdit hparse hedits hkept
  have houtermost :=
    Edits.ofList_outermost (moduleEdits_laminar (TypeScript.parse_wellFormed hparse) hedits)
  have hstart := returnTypeEdit_start source type
  have hstop := returnTypeEdit_stop source type
  obtain ⟨outer, houter, hcovers⟩ :=
    houtermost.covered (returnTypeEdit source type) (by simp [heq]) (by omega)
  obtain ⟨hrange, hle, hle'⟩ := Edit.covers_iff.mp hcovers
  have hspan : outer.start = type.start ∧ outer.stop = type.stop := by
    rcases h.clears hparse hedits hkept (houtermost.mem houter) with ⟨hempty, -⟩ | hclears
    · omega
    · unfold Clears at hclears
      omega
  have hsame : outer = returnTypeEdit source type :=
    Edits.eq_of_mem_ofList (by omega) (by simpa only [hstart, hstop] using hbefore)
      (heq ▸ houter) (by omega) (by omega)
  exact Edits.mem_ordered.mpr (hsame ▸ houter)

/-- The applied edits before the one of a return type and behind it: those that change anything
stand before the parenthesis or behind the arrow. -/
lemma HasHead.exists_split : ∃ lower upper,
    (Edits.ofList edits).ordered = lower ++ returnTypeEdit source type :: upper ∧
      (∀ edit ∈ lower, edit.start ≤ edit.stop ∧ edit.stop ≤ type.start ∧
        (edit.Idle ∨ edit.stop ≤ closing.start)) ∧
      ∀ edit ∈ upper, edit.start ≤ edit.stop ∧ type.stop ≤ edit.start ∧
        (edit.Idle ∨ token.stop ≤ edit.start) := by
  have hlaminar := moduleEdits_laminar (TypeScript.parse_wellFormed hparse) hedits
  have houtermost := Edits.ofList_outermost hlaminar
  have hhead := h.ordered hparse
  have hforward := h.forward
  have hstart := returnTypeEdit_start source type
  have hstop := returnTypeEdit_stop source type
  have hpairwise := houtermost.ordered_pairwise hlaminar
  have hclears : ∀ edit ∈ (Edits.ofList edits).ordered,
      edit.start ≤ edit.stop ∧ (edit.Idle ∨ Clears closing type token edit) := fun edit hmem =>
    have hmem := houtermost.mem (Edits.mem_ordered.mp hmem)
    ⟨hlaminar.forward edit hmem, h.clears hparse hedits hkept hmem⟩
  obtain ⟨lower, upper, hordered⟩ :=
    List.append_of_mem (h.returnTypeEdit_mem hparse hedits hkept)
  rw [hordered] at hclears hpairwise
  obtain ⟨-, hpairwise, hacross⟩ := List.pairwise_append.mp hpairwise
  refine ⟨lower, upper, hordered, fun edit hmem => ?_, fun edit hmem => ?_⟩
  · have hle := hacross edit hmem _ List.mem_cons_self
    obtain ⟨hedit, hcases⟩ := hclears edit (List.mem_append_left _ hmem)
    refine ⟨hedit, by omega, hcases.imp_right fun hclears => ?_⟩
    unfold Clears at hclears
    omega
  · have hle := (List.pairwise_cons.mp hpairwise).1 edit hmem
    obtain ⟨hedit, hcases⟩ := hclears edit (List.mem_append_right _ (List.mem_cons_of_mem _ hmem))
    refine ⟨hedit, by omega, hcases.imp_right fun hclears => ?_⟩
    unfold Clears at hclears
    omega

end Head

/-- What takes the place of a return type. -/
def returnTypeResult (chars : List Char) : List Char :=
  if '\n' ∈ chars then [' '] else chars.map Edit.blanked

lemma result_returnTypeEdit (source : List Char) (type : Tree) (chars : List Char)
    (h : chars = type.chars source) :
    (returnTypeEdit source type).result chars = returnTypeResult chars := by
  have hfeeds : 0 < countLineFeeds chars ↔ '\n' ∈ chars := List.count_pos_iff
  rw [returnTypeEdit, returnTypeResult, ← h]
  split
  next hpos => rw [if_pos (hfeeds.mp hpos)]; rfl
  next hzero => rw [if_neg (mt hfeeds.mpr hzero)]; rfl

/-- A line ends in the place of a return type just when a carriage return stands in it and no line
feed does. -/
lemma isLineEnd_returnTypeResult {chars : List Char} :
    (∀ c ∈ returnTypeResult chars, Script.Token.isLineEnd c = false) ↔
      ('\r' ∈ chars → '\n' ∈ chars) := by
  unfold returnTypeResult
  split
  next hfeed => exact iff_of_true (List.forall_mem_singleton.mpr rfl) fun _ => hfeed
  next hfeed =>
    rw [List.forall_mem_map]
    constructor
    · intro h hreturn
      cases h '\r' hreturn
    · intro h c hc
      have hbreak : ¬ (c == '\n' || c == '\r') = true := by
        rw [Bool.or_eq_true, beq_iff_eq, beq_iff_eq]
        rintro (rfl | rfl)
        · exact hfeed hc
        · exact hfeed (h hc)
      rw [Edit.blanked, if_neg hbreak]
      rfl

/-! ### Heads in a source -/

/-- What stands between the parts of a head is white space and comments. -/
lemma HasHead.exists_slices (hparse : TypeScript.parse source = .ok tree)
    (h : HasHead tree arrow parameters closing type token) :
    ∃ first gap gap' rest, source = first ++ ')' :: gap ++
        (type.chars source ++ (gap' ++ '=' :: '>' :: rest)) ∧
      size first = closing.start ∧ size (first ++ ')' :: gap) = type.start ∧
      size (first ++ ')' :: gap) + size (type.chars source) = type.stop ∧
      type.stop + size (gap' ++ ['=', '>']) = token.stop ∧
      Trivia TypeScript.isSpace true gap ∧ Trivia TypeScript.isSpace true gap' := by
  have hsound := (TypeScript.parse_wellFormed hparse).toSound.of_mem h.returns.mem
  have hspelled := (TypeScript.parse_spelled hparse).of_mem h.returns.mem
  have hordered := h.ordered hparse
  have hforward := h.forward
  have hparameters := hsound.of_child h.parameters_mem
  have hclosing := (hparameters.of_child h.closing_mem).nested.self
  have htype := (hsound.of_child (Tree.mem_of_child? h.returns.type)).nested.self
  have htoken := (hsound.of_child (Tree.mem_of_token? h.returns.token)).nested.self
  have hclosingChars := ((hspelled.of_child h.parameters_mem).of_child h.closing_mem).self.chars ")"
    (Tree.isToken_iff.mp h.parenthesis)
  have htokenChars := (hspelled.of_child (Tree.mem_of_token? h.returns.token)).self.chars "=>"
    (Tree.isToken_iff.mp (List.find?_some h.returns.token))
  obtain ⟨first, last, hparts⟩ := h.parts
  have hskipped : Skipped source closing.stop type.start := by
    rw [h.stop]
    exact (h.returns.parsed hparse).self.skipped h.returns.kind (by decide) (by decide +kernel)
      hparts
  have hskipped' : Skipped source type.stop token.start := by
    rw [List.append_cons] at hparts
    exact (h.returns.parsed hparse).self.skipped h.returns.kind (by decide) (by decide +kernel)
      hparts
  have hsize {lo hi : Nat} (hlo : IsBoundary source lo) (hhi : IsBoundary source hi)
      (hle : lo ≤ hi) : lo + size ((⟨lo, hi⟩ : Span).slice source) = hi := by
    obtain ⟨_, _, -, hstart, hstop⟩ := (⟨hlo, hhi, hle⟩ : (⟨lo, hi⟩ : Span).IsSlice source).slice_eq
    rwa [hstart] at hstop
  have hgap := TypeScript.Span.slice_append_slice hclosing.start hclosing.stop htype.start
    hclosing.le hskipped.le
  have hreturn := TypeScript.Span.slice_append_slice hclosing.start htype.start htype.stop
    (by omega) htype.le
  have hgap' := TypeScript.Span.slice_append_slice hclosing.start htype.stop htoken.start
    (by omega) hskipped'.le
  have harrow := TypeScript.Span.slice_append_slice hclosing.start htoken.start htoken.stop
    (by omega) htoken.le
  have hle : closing.start ≤ token.stop := by omega
  obtain ⟨first, rest, hsource, hfirst, -⟩ :=
    (⟨hclosing.start, htoken.stop, hle⟩ : Span.IsSlice source ⟨closing.start, token.stop⟩).slice_eq
  have hclosingSlice : (⟨closing.start, closing.stop⟩ : Span).slice source = [')'] := hclosingChars
  have htokenSlice : (⟨token.start, token.stop⟩ : Span).slice source = ['=', '>'] := htokenChars
  have htypeSlice : (⟨type.start, type.stop⟩ : Span).slice source = type.chars source := rfl
  have hclosingSize := hsize hclosing.start hclosing.stop hclosing.le
  have hgapSize := hsize hskipped.start hskipped.stop hskipped.le
  have htypeSize : type.start + size (type.chars source) = type.stop :=
    hsize htype.start htype.stop htype.le
  have hgapSize' := hsize hskipped'.start hskipped'.stop hskipped'.le
  have htokenSize := hsize htoken.start htoken.stop htoken.le
  rw [hclosingSlice] at hclosingSize hgap
  rw [htypeSlice] at hreturn
  rw [htokenSlice] at htokenSize harrow
  refine ⟨first, _, _, rest, ?_, hfirst, ?_, ?_, ?_, hskipped.trivia, hskipped'.trivia⟩
  · rw [← harrow, ← hgap', ← hreturn, ← hgap] at hsource
    simpa using hsource
  all_goals
    simp only [size_append, size_cons, size_nil] at *
    omega

/-- What the edits of a module make of a head: the return type gives way, and nothing else in the
head is changed. -/
lemma HasHead.exists_result (hparse : TypeScript.parse source = .ok tree)
    (h : HasHead tree arrow parameters closing type token)
    (hedits : moduleEdits source tree = .ok (edits, exports))
    (hkept : ∀ edit ∈ edits, ¬ Spans edit arrow.span) {body front last : List Char}
    {gap gap' : List Char}
    (hbody : Edits.Applied 0 source (Edits.ofList edits).ordered body)
    (hsource : source = front ++ ')' :: gap ++ (type.chars source ++ (gap' ++ '=' :: '>' :: last)))
    (hfront : size front = closing.start) (htype : size (front ++ ')' :: gap) = type.start)
    (hstop : size (front ++ ')' :: gap) + size (type.chars source) = type.stop)
    (harrow : type.stop + size (gap' ++ ['=', '>']) = token.stop) :
    ∃ front' last',
      body = front' ++ ')' :: gap ++ (returnTypeResult (type.chars source) ++
        (gap' ++ '=' :: '>' :: last')) ∧
      Edits.Applied 0 front
        ((Edits.ofList edits).ordered.filter fun edit => edit.stop ≤ closing.start) front' ∧
      Edits.Applied token.stop last
        ((Edits.ofList edits).ordered.filter fun edit => token.stop ≤ edit.start) last' := by
  have hhead := h.ordered hparse
  have hforward := h.forward
  have hstart' := returnTypeEdit_start source type
  have hstop' := returnTypeEdit_stop source type
  obtain ⟨lower, upper, hordered, hlower, hupper⟩ := h.exists_split hparse hedits hkept
  rw [hordered] at hbody ⊢
  have hbehind (last : List Char) :
      gap' ++ ['=', '>'] ++ last = gap' ++ '=' :: '>' :: last := by simp
  have happlied : Edits.Applied 0 (front ++ ')' :: gap ++ (type.chars source ++
      (gap' ++ ['=', '>'] ++ last))) (lower ++ returnTypeEdit source type :: upper) body := by
    rw [hbehind, ← hsource]
    exact hbody
  obtain ⟨front', last', rfl, hbefore, hafter⟩ := happlied.exists_around (by omega) (by omega)
    (fun edit hmem => hfront ▸ (hlower edit hmem).2.2)
    (fun edit hmem => by rw [hstop', harrow]; exact (hupper edit hmem).2.2)
  rw [hstop', harrow] at hafter
  rw [hfront] at hbefore
  refine ⟨front', last', by rw [result_returnTypeEdit source type _ rfl, hbehind], ?_, ?_⟩
  · have hnone : (returnTypeEdit source type :: upper).filter
        (fun edit => edit.stop ≤ closing.start) = [] := by
      refine List.filter_eq_nil_iff.mpr fun edit hmem => ?_
      rw [decide_eq_true_eq]
      rcases List.mem_cons.mp hmem with rfl | hmem
      · omega
      · have := hupper edit hmem
        omega
    rwa [List.filter_append, hnone, List.append_nil]
  · have hnone : lower.filter (fun edit => token.stop ≤ edit.start) = [] := by
      refine List.filter_eq_nil_iff.mpr fun edit hmem => ?_
      have := hlower edit hmem
      rw [decide_eq_true_eq]
      omega
    rwa [List.filter_append, hnone, List.nil_append, List.filter_cons_of_neg]
    rw [decide_eq_true_eq]
    omega

end Erasure

open Erasure TypeScript

/-- Between the closing parenthesis of the parameters of an arrow function that is not held by an
edit and its arrow, the script has the white space and the comments that the source has there. In
the place of the return type between them stands a space when it holds a line feed, and a blank that
keeps its carriage returns otherwise. So no line ends between the parenthesis and the arrow just
when none ends before or after the return type, and a return type with carriage returns has line
feeds as well. -/
theorem transpile_arrowHeads {source file script : String}
    (h : transpile source file = .ok script) :
    ∃ tree edits exports, parse source.toList = .ok tree ∧
      moduleEdits source.toList tree = .ok (edits, exports) ∧
      ∀ arrow type token, HasReturnType tree arrow type token →
        (∀ edit ∈ edits, ¬ Spans edit arrow.span) →
        ∃ parameters closing, HasHead tree arrow parameters closing type token ∧
          ∃ first gap gap' last first' last',
            source.toList = first ++ ')' :: gap ++
              (type.chars source.toList ++ (gap' ++ '=' :: '>' :: last)) ∧
            size first = closing.start ∧ Trivia isSpace true gap ∧ Trivia isSpace true gap' ∧
            script.toList = exports.header.toList ++ (first' ++ ')' :: gap ++
              (returnTypeResult (type.chars source.toList) ++ (gap' ++ '=' :: '>' :: last'))) ++
              exports.footer.toList ∧
            Edits.Applied 0 first
              ((Edits.ofList edits).ordered.filter fun edit => edit.stop ≤ closing.start) first' ∧
            Edits.Applied token.stop last
              ((Edits.ofList edits).ordered.filter fun edit => token.stop ≤ edit.start) last' ∧
            ((∀ c ∈ gap ++ returnTypeResult (type.chars source.toList) ++ gap',
                Script.Token.isLineEnd c = false) ↔
              (∀ c ∈ gap ++ gap', Script.Token.isLineEnd c = false) ∧
                ('\r' ∈ type.chars source.toList → '\n' ∈ type.chars source.toList)) := by
  obtain ⟨tree, edits, exports, body, hparse, hedits, hbody, rfl⟩ := transpile_ok h
  refine ⟨tree, edits, exports, hparse, hedits, fun arrow type token harrow hkept => ?_⟩
  have hlaminar := moduleEdits_laminar (parse_wellFormed hparse) hedits
  obtain ⟨parameters, closing, hhead⟩ := harrow.exists_head hparse
  obtain ⟨first, gap, gap', last, hsource, hfirst, htype, hstop, htoken, hgap, hgap'⟩ :=
    hhead.exists_slices hparse
  obtain ⟨first', last', rfl, hbefore, hafter⟩ :=
    hhead.exists_result hparse hedits hkept ((Edits.applyTo?_eq_some hlaminar).mp hbody) hsource
      hfirst htype hstop htoken
  refine ⟨parameters, closing, hhead, first, gap, gap', last, first', last', hsource, hfirst, hgap,
    hgap', String.toList_ofList, hbefore, hafter, ?_⟩
  rw [← isLineEnd_returnTypeResult]
  simp only [List.forall_mem_append]
  tauto

/-- A line feed before the colon of a return type stays between the parenthesis and the arrow. -/
theorem transpile_arrowHeads_colon :
    ∃ tree edits arrow type token script parameters closing,
      parse "f=(a)\n:b=>a".toList = .ok tree ∧
      moduleEdits "f=(a)\n:b=>a".toList tree = .ok (edits, .empty) ∧
      HasReturnType tree arrow type token ∧ (∀ edit ∈ edits, ¬ Spans edit arrow.span) ∧
      transpile "f=(a)\n:b=>a" "BP/t.ts" = .ok script ∧
      HasHead tree arrow parameters closing type token ∧
      ∃ gap gap' first' last', '\n' ∈ gap ∧
        script.toList = Exports.empty.header.toList ++ (first' ++ ')' :: gap ++
          ([' ', ' '] ++ (gap' ++ '=' :: '>' :: last'))) := by
  have heval : ((parse "f=(a)\n:b=>a".toList).toOption.map fun tree =>
      ((moduleEdits "f=(a)\n:b=>a".toList tree).toOption,
        decide ((tree.nodes.find? (Tree.isKind .arrowFunction)).map (fun arrow =>
            (arrow.span, (arrow.child? .returnType).map fun type =>
              type.chars "f=(a)\n:b=>a".toList, (arrow.token? "=>").isSome)) =
              some (⟨2, 11⟩, some [':', 'b'], true)) &&
          decide (∀ node ∈ tree.nodes, node.isToken ")" → node.start = 4))) =
      some (some ([.blank 6 8], .empty), true) := by
    decide +kernel
  obtain ⟨tree, hparse, heval⟩ := exists_of_parse heval
  obtain ⟨hedits, hnodes⟩ := Prod.mk.inj heval
  have hedits := toOption_eq_some hedits
  simp only [Bool.and_eq_true, decide_eq_true_eq] at hnodes
  obtain ⟨harrow, hclosing⟩ := hnodes
  obtain ⟨arrow, hfind, harrow⟩ := Option.map_eq_some_iff.mp harrow
  obtain ⟨hspan, harrow⟩ := Prod.mk.inj harrow
  obtain ⟨htype, htoken⟩ := Prod.mk.inj harrow
  obtain ⟨type, htype, hchars⟩ := Option.map_eq_some_iff.mp htype
  obtain ⟨token, htoken⟩ := Option.isSome_iff_exists.mp htoken
  have hreturns : HasReturnType tree arrow type token :=
    ⟨List.mem_of_find?_eq_some hfind, List.find?_some hfind, htype, htoken⟩
  have hkept : ∀ edit ∈ [Edit.blank 6 8], ¬ Spans edit arrow.span := by
    rw [hspan, List.forall_mem_singleton]
    rintro ⟨hstart, -⟩
    exact absurd hstart (by decide)
  have hbody : (Edits.ofList [.blank 6 8]).applyTo? "f=(a)\n:b=>a".toList =
      some "f=(a)\n  =>a".toList := by
    rw [Edits.applyTo?, List.mergeSort_of_pairwise (by decide)]
    decide
  have hscript := transpile_eq "BP/t.ts" hparse hedits hbody
  obtain ⟨tree', edits', exports', hparse', hedits', hheads⟩ := transpile_arrowHeads hscript
  rw [hparse] at hparse'
  cases hparse'
  rw [hedits] at hedits'
  cases hedits'
  obtain ⟨parameters, closing, hhead, first, gap, gap', last, first', last', hsource, hfirst, -, -,
    hheader, -⟩ := hheads arrow type token hreturns hkept
  rw [hchars] at hsource hheader
  refine ⟨tree, _, arrow, type, token, _, parameters, closing, hparse, hedits, hreturns, hkept,
    hscript, hhead, gap, gap', first', last', ?_, ?_⟩
  swap
  · have hfooter : Exports.empty.footer.toList = [] := rfl
    have hblank : returnTypeResult [':', 'b'] = [' ', ' '] := rfl
    rw [hheader, hfooter, hblank, List.append_nil]
  have hmem : closing ∈ tree.nodes := Tree.nodes_subset hreturns.mem (Tree.nodes_subset
    (Tree.mem_nodes_of_mem_children hhead.parameters_mem)
    (Tree.mem_nodes_of_mem_children hhead.closing_mem))
  have hfour := hclosing closing hmem hhead.parenthesis
  have hsplit : "f=(a".toList ++ ")\n:b=>a".toList =
      first ++ (')' :: gap ++ ([':', 'b'] ++ (gap' ++ '=' :: '>' :: last))) := by
    rw [← List.append_assoc, ← hsource]
    rfl
  obtain ⟨-, hrest⟩ := append_inj_of_size_eq hsplit (by rw [hfirst, hfour]; rfl)
  rcases gap with _ | ⟨c, gap⟩
  · cases (List.cons.inj hrest).2
  · obtain ⟨rfl, -⟩ := List.cons.inj (List.cons.inj hrest).2
    exact List.mem_cons_self

end Stencil
