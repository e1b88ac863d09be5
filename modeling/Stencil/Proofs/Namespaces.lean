import Stencil.Proofs.Insertions
import Stencil.Proofs.Separation

/-!
# Names that namespaces export

At the end of each statement of a namespace that exports names, their assignments to the namespace
are inserted. They are in the script, once and right after what becomes of the statement, unless an
edit of the next part of the body begins right there (`mem_ordered_assign_iff`). They begin with a
name, so a statement without a semicolon does not end before them (`endStatement_before_name`).
-/

namespace Stencil.TypeScript

open Text

variable {source : List Char} {tree : Tree}

/-- Whether a lexeme is a name without a leading hash. -/
def Lexeme.isPlainName : Lexeme → Bool
  | .name | .nameExcept _ | .nameAmong _ => true
  | _                                    => false

/-- Whether a name without a leading hash may begin with a character; an escape begins with a
backslash. -/
def BeginsName (c : Char) : Prop := isNameStart c ∨ c = '\\'

lemma exists_beginsName_of_name {text : List Char} {n : Nat} (h : name? text = some n) :
    ∃ c rest, text.take n = c :: rest ∧ BeginsName c := by
  obtain ⟨n, rfl⟩ := Nat.exists_eq_add_one.mpr (name?_pos h)
  unfold name? at h
  split at h
  · cases h
  · exact ⟨'\\', _, rfl, .inr rfl⟩
  next c rest _ =>
    split at h
    next hstart => exact ⟨c, _, rfl, .inl hstart⟩
    next => cases h

lemma Lexeme.exists_beginsName {lexeme : Lexeme} {text : List Char} {n : Nat}
    (hname : lexeme.isPlainName) (h : lexeme.length? text = some n) :
    ∃ c rest, text.take n = c :: rest ∧ BeginsName c := by
  cases lexeme with
  | name => exact exists_beginsName_of_name h
  | nameExcept words | nameAmong words =>
    simp only [length?] at h
    split at h
    next m hm =>
      split at h <;> cases h
      exact exists_beginsName_of_name hm
    next => cases h
  | _ => cases hname

lemma Tree.Parsed.exists_beginsName (h : tree.Parsed source) (hkind : tree.isKind .identifier) :
    ∃ c rest, tree.chars source = c :: rest ∧ BeginsName c := by
  obtain ⟨lexeme, text, n, hname, hlexeme, hchars⟩ :=
    h.exists_lexeme (p := Lexeme.isPlainName) (by decide +kernel) (by decide)
      (show Kind.identifier ∈ [Kind.identifier] from List.mem_cons_self) hkind
  rw [hchars]
  exact Lexeme.exists_beginsName hname hlexeme

end Stencil.TypeScript

namespace Stencil.Script

open TypeScript (BeginsName)

/-! ### Statements before a name -/

namespace Token

variable {c : Char} {rest : List Char}

lemma ne_of_beginsName (h : BeginsName c) {mark : Char}
    (hmark : TypeScript.isNameStart mark = false) (hslash : mark ≠ '\\') : c ≠ mark := by
  rintro rfl
  rcases h with h | h
  · rw [h] at hmark
    cases hmark
  · exact hslash h

/-- Every mark begins with a character that no name begins with. -/
lemma readMark_eq_none (h : BeginsName c) : readMark (c :: rest) = none := by
  have hmarks : ∀ sign ∈ marks, sign.toList.head?.any fun d =>
      !TypeScript.isNameStart d && d != '\\' := by decide
  have hnone : marks.find? (fun sign => sign.toList.isPrefixOf (c :: rest)) = none := by
    refine List.find?_eq_none.mpr fun sign hsign => ?_
    have hhead := hmarks sign hsign
    rcases hlist : sign.toList with _ | ⟨d, ds⟩ <;> rw [hlist] at hhead
    · cases hhead
    · simp only [List.head?_cons, Option.any_some, Bool.and_eq_true, Bool.not_eq_true',
        bne_iff_ne] at hhead
      have hne := ne_of_beginsName h hhead.1 hhead.2
      simp [List.isPrefixOf, hne.symm]
  rw [readMark, hnone]

/-- A text that begins like a name begins with a name token, if with any. -/
lemma read_of_beginsName (h : BeginsName c) {token : Token} {after : List Char}
    (hread : read (c :: rest) = some (token, after)) :
    ∃ text escaped, token = .name text escaped := by
  have hdigit : c.isDigit = false := by
    rcases h with h | rfl
    · simp only [TypeScript.isNameStart, Bool.and_eq_true, Bool.not_eq_true'] at h
      exact h.1.2
    · rfl
  have hdot : (c == '.') = false := by
    simpa using (ne_of_beginsName h (by decide) (by decide) : c ≠ '.')
  unfold read at hread
  split at hread
  · contradiction
  case h_2 heq | h_3 heq | h_4 heq | h_5 heq =>
    obtain ⟨rfl, rfl⟩ := List.cons.inj heq
    exact absurd rfl (ne_of_beginsName h (by decide) (by decide))
  case h_6 heq =>
    obtain ⟨rfl, rfl⟩ := List.cons.inj heq
    split at hread
    · split at hread <;> cases hread
      exact ⟨_, _, rfl⟩
    · rw [hdigit, hdot, readMark_eq_none h] at hread
      cases hread

/-- What separates tokens of a script does so in a module. -/
lemma isSpace_of_separates (h : isLineEnd c ∨ isSpace c) : TypeScript.isSpace c := by
  simp only [isLineEnd, isSpace, Bool.or_eq_true, Bool.and_eq_true, beq_iff_eq, decide_eq_true_eq,
    ← Char.toNat_inj] at h
  simp only [TypeScript.isSpace, Bool.or_eq_true, Bool.and_eq_true, beq_iff_eq, decide_eq_true_eq]
  have hfeed : '\n'.toNat = 10 := rfl
  have hreturn : '\r'.toNat = 13 := rfl
  have hblank : ' '.toNat = 32 := rfl
  have htab : '\t'.toNat = 9 := rfl
  omega

/-- A name is not passed over. -/
lemma skipSpace_of_beginsName (h : BeginsName c) :
    skipSpace .between false (c :: rest) = some (c :: rest, false) := by
  have hslash : c ≠ '/' := ne_of_beginsName h (by decide) (by decide)
  have hspaces : isLineEnd c = false ∧ isSpace c = false := by
    rcases h with h | rfl
    · simp only [TypeScript.isNameStart, Bool.and_eq_true, Bool.not_eq_true'] at h
      exact ⟨Bool.eq_false_iff.mpr fun hline => by simp [isSpace_of_separates (.inl hline)] at h,
        Bool.eq_false_iff.mpr fun hspace => by simp [isSpace_of_separates (.inr hspace)] at h⟩
    · decide
  rw [skipSpace]
  · rw [hspaces.1, hspaces.2]
    rfl
  all_goals
    intro rest heq
    exact absurd heq hslash

end Token

namespace Syntax

/-- A statement does not end before a name on the same line. -/
theorem endStatement_before_name {c : Char} {rest : List Char} (h : BeginsName c)
    {context : Context} {s : State} (hrest : s.rest = ' ' :: c :: rest) :
    (do advance; endStatement) context s = none := by
  simp only [bind, Reader.bind, advance, loadToken, hrest]
  have hskip : Token.skipSpace .between false (' ' :: c :: rest) = some (c :: rest, false) := by
    have := Token.passes_space (c := ' ') rfl rfl false (c :: rest)
    rw [List.singleton_append] at this
    rw [this]
    exact Token.skipSpace_of_beginsName h
  rw [hskip]
  rcases hread : Token.read (c :: rest) with _ | ⟨token, after⟩
  · simp only [hread]
  obtain ⟨text, escaped, rfl⟩ := Token.read_of_beginsName h hread
  simp only [hread]
  rw [endStatement_eq (by simp)]
  rfl

end Syntax

end Stencil.Script

namespace Stencil.Erasure

open Text
open TypeScript (Tree Span BeginsName)
open Script.Syntax

variable {source : List Char} {tree node body statement : Tree} {edits : List Edit}
  {edit : Edit} {exports : Exports} {name text : String} {bindings : List Binding} {offset : Nat}

/-! ### Assignments among the edits of a module -/

/-- The range of the brace that closes a namespace with this body. -/
def closingRange (body : Tree) : Span := ⟨body.stop - 1, body.stop⟩

lemma erase_present {inClass : Bool} {next : Option Tree} (hnamespace : isNamespace tree)
    (hform : NamespaceForm.ofTree source tree = .ok (.present name body))
    (h : erase source inClass next tree = .ok edits) :
    ∃ inner, eraseStatements source name body.children = .ok inner ∧
      edits = namespaceFrame source tree body name ++ inner := by
  have hhead : (⟨tree.start, body.start + 1⟩ : Span) ∈ ownRanges source tree := by
    rw [ownRanges_of_present hnamespace hform]
    exact List.mem_cons_self
  cases erase_erases h with
  | present _ hform' hinner =>
    rw [hform] at hform'
    cases hform'
    exact ⟨_, hinner, rfl⟩
  | absent _ hform' =>
    rw [hform] at hform'
    cases hform'
  | assertion hassertion =>
    rw [not_isNamespace_of_isAssertion hassertion] at hnamespace
    cases hnamespace
  | parts hkept =>
    rw [hkept] at hhead
    rcases isNamespace_iff.mp hnamespace with h | h <;>
      simp [markRanges, keywords, keywordRanges, h] at hhead
  | member hother | whole hother | enumeration hother =>
    rcases isNamespace_iff.mp hnamespace with hkind | hkind <;>
      simp [isErasedMember, isTypeSyntax, typeKinds, isErased, Tree.isKind, hkind] at hother

/-- What is made for a statement of a namespace is inserted or lies in the statement. -/
lemma eraseStatement_within {owner : String} {next : Option Tree} (htree : tree.Sound source)
    (h : eraseStatement source owner next tree = .ok edits) (hmem : edit ∈ edits) :
    edit.start = edit.stop ∨ Within tree (rangeOf edit) := by
  obtain ⟨exported, hexported, inner, hinner, rfl⟩ := eraseStatement_ok.mp h
  rcases List.mem_append.mp hmem with hmem | hmem
  · rcases hkind : tree.isKind .exportStatement with _ | _
    · rw [exportInNamespace, hkind] at hexported
      cases hexported
      cases hmem
    obtain ⟨form, -, ⟨-, rfl⟩ | ⟨-, rfl⟩⟩ := exportInNamespace_cases hkind hexported
    · rw [List.mem_singleton.mp hmem]
      exact .inr (.span htree.nested.self.le)
    · rcases List.mem_append.mp hmem with hmem | hmem
      · obtain ⟨range, hrange, rfl⟩ := List.mem_map.mp hmem
        exact .inr ((exportRanges_aligned htree.nested.self hrange).within htree.nested.self)
      · rw [List.mem_singleton.mp hmem]
        exact .inl rfl
  · exact (erase_within htree hinner hmem).imp_right fun h =>
      h.resolve_right (Bool.false_ne_true ·.1)

/-- Whether an edit holds the byte at an offset. -/
def Holds (offset : Nat) (edit : Edit) : Prop := edit.start ≤ offset ∧ offset < edit.stop

/-- How an assignment stands among the edits of a module: those made before hold the end of the
statement only for the closing brace, and those made after only when they begin there. -/
structure AssignedAt (source : List Char) (edits : List Edit) (name : String)
    (body statement : Tree) (bindings : List Binding) (before after : List Edit) : Prop where
  split : edits = before ++ namespaceExport.assign name statement bindings :: after
  closing : ∃ brace ∈ before, rangeOf brace = closingRange body
  before : ∀ edit ∈ before, Holds statement.stop edit → rangeOf edit = closingRange body
  after : ∀ edit ∈ after, Holds statement.stop edit → edit.start = statement.stop

section Namespace

variable (htree : tree.WellFormed source) (hedits : moduleEdits source tree = .ok (edits, exports))
  (hnode : node ∈ tree.nodes) (hkept : ∀ edit ∈ edits, ¬ Spans edit node.span)
  (hnamespace : isNamespace node)
  (hform : NamespaceForm.ofTree source node = .ok (.present name body))
  (hstatement : statement ∈ body.children) (hkind : statement.isKind .exportStatement)
include htree hedits hnode hkept hnamespace hform hstatement hkind

/-- An export statement of a namespace is blanked when it only gives types; otherwise the names that
it gives are assigned at its end. -/
lemma exists_assignedAt : ∃ form, ExportForm.classify source statement = .ok form ∧
    (form = .typeOnly ∧ blankTree statement ∈ edits ∨
      ∃ before after, AssignedAt source edits name body statement form.bindings before after) := by
  have hscope : isScope node := by rw [isScope, hnamespace, Bool.or_true]
  have hsound := htree.toSound.of_mem hnode
  have hbody := (child?_of_present hform).2
  have hbodySound := hsound.of_child (Tree.mem_of_child? hbody)
  have hblock := (hsound.block_of_child? (exists_endingKind hnamespace) hbody).1
  have hnamed := Tree.isNamed_of_isKind hkind (by decide)
  obtain ⟨-, hbraces⟩ := between_braces hbodySound hblock
  have hbetween := hbraces statement hstatement hnamed
  have hspan := hsound.ordered.mem (Tree.mem_of_child? hbody)
  have hle := (hbodySound.of_child hstatement).nested.self.le
  obtain ⟨inClass, next, outer, own, outer', hown, heq, houter, houter'⟩ :=
    moduleEdits_isolated hscope htree hedits hnode hkept
  obtain ⟨inner, hinner, rfl⟩ := erase_present hnamespace hform hown
  obtain ⟨first, last, hchildren⟩ := List.append_of_mem hstatement
  have hordered := hbodySound.ordered
  have hwalks := walks_of_eraseStatements hinner
  rw [hchildren] at hwalks
  obtain ⟨earlier, made, later, rfl, hmade, hearlier, hlater⟩ := hwalks.cut
  obtain ⟨exported, hexported, rest, hrest, rfl⟩ := eraseStatement_ok.mp hmade
  obtain ⟨form, hclassify, ⟨rfl, rfl⟩ | ⟨-, rfl⟩⟩ := exportInNamespace_cases hkind hexported
  · exact ⟨_, hclassify, .inl ⟨rfl, by simp [heq]⟩⟩
  have hbeside {more : List Edit} (hmore : AllBeside node more) (hsub : more ⊆ edits) :
      ∀ edit ∈ more, ¬ Holds statement.stop edit := by
    rintro edit hedit ⟨hstart, hstop⟩
    have hnot := hkept edit (hsub hedit)
    rcases hmore node (Tree.mem_nodes_self node) hscope edit hedit with hempty | hbeside
    · omega
    · simp only [Beside, Spans, rangeOf, Tree.start, Tree.stop] at *
      omega
  refine ⟨form, hclassify, .inr ⟨outer ++ namespaceFrame source node body name ++ earlier ++
    (exportRanges source statement).map blankRange, rest ++ later ++ outer', ?_, ?_, ?_, ?_⟩⟩
  · rw [heq]
    simp only [List.append_assoc, List.cons_append, List.nil_append]
  · obtain ⟨brace, hbrace, hrange⟩ : ∃ brace ∈ namespaceFrame source node body name,
        rangeOf brace = closingRange body :=
      ⟨_, List.mem_cons_of_mem _ List.mem_cons_self, rfl⟩
    exact ⟨brace, by simp [hbrace], hrange⟩
  · rintro edit hedit hholds
    simp only [List.mem_append, or_assoc] at hedit
    rcases hedit with hedit | hedit | hedit | hedit
    · exact absurd hholds (hbeside houter (by simp [heq]) edit hedit)
    · simp only [namespaceFrame, List.mem_cons, List.not_mem_nil, or_false] at hedit
      obtain ⟨-, hstop⟩ := hholds
      rcases hedit with rfl | rfl
      · simp only [Edit.replace] at hstop
        omega
      · rfl
    · obtain ⟨lower, other, upper, own, heq', hmem, hown, hedit⟩ := hearlier edit hedit
      have hother : other ∈ body.children := by simp [hchildren, heq']
      obtain ⟨hstart, hstop⟩ := hholds
      rw [hchildren, heq'] at hordered
      obtain ⟨_, -, -, -, hupper⟩ := hordered.of_append
      have hafter := hupper.mem hmem
      rcases eraseStatement_within (hbodySound.of_child hother) hown hedit with hempty | hwithin
      · omega
      · obtain ⟨_, _, hend⟩ := hwithin
        simp only [rangeOf] at hend
        omega
    · obtain ⟨range, hrange, rfl⟩ := List.mem_map.mp hedit
      have hsound := (hbodySound.of_child hstatement).nested.self
      have := ((exportRanges_aligned hsound hrange).within hsound).stop
      obtain ⟨-, hstop⟩ := hholds
      simp only [blankRange, Edit.blank] at hstop
      omega
  · rintro edit hedit ⟨hstart, hstop⟩
    simp only [List.mem_append, or_assoc] at hedit
    rcases hedit with hedit | hedit | hedit
    · have hmem : edit ∈ (exportRanges source statement).map blankRange ++
          [namespaceExport.assign name statement form.bindings] ++ rest :=
        List.mem_append_right _ hedit
      rcases eraseStatement_within (hbodySound.of_child hstatement) hmade hmem with
        hempty | ⟨_, _, hend⟩
      · omega
      · simp only [rangeOf] at hend
        omega
    · obtain ⟨lower, other, upper, own, heq', hmem, hown, hedit⟩ := hlater edit hedit
      have hother : other ∈ body.children := by simp [hchildren, heq']
      rw [hchildren, heq'] at hordered
      obtain ⟨_, hlower, hother', -⟩ := hordered.of_append
      have hbefore := hlower.mem hmem
      rcases eraseStatement_within (hbodySound.of_child hother) hown hedit with
        hempty | ⟨hbegin, _, _⟩
      · omega
      · simp only [rangeOf] at hbegin
        omega
    · exact absurd ⟨hstart, hstop⟩ (hbeside houter' (heq ▸ List.subset_append_right _ _) edit hedit)

omit hkind in
/-- What an export statement of a namespace takes out is covered by an edit. -/
lemma namespaceExport_spans {range : Span} (hrange : range ∈ exportRanges source statement) :
    ∃ edit ∈ edits, Spans edit range := by
  have hscope : isScope node := by rw [isScope, hnamespace, Bool.or_true]
  obtain ⟨_, _, _, own, _, hown, rfl, -, -⟩ := moduleEdits_isolated hscope htree hedits hnode hkept
  obtain ⟨inner, hinner, rfl⟩ := erase_present hnamespace hform hown
  obtain ⟨exported, _, _, hexported, -, hsub⟩ := exists_of_eraseStatements hinner hstatement
  obtain ⟨edit, hedit, hspans⟩ := exportInNamespace_spans hexported hrange
  have hmem := hsub.subset (List.mem_append_left _ hedit)
  exact ⟨edit, by simp [hmem], hspans⟩

end Namespace

/-- Whether an edit begins where a statement of a body ends, and is not the one of the closing
brace. -/
def TakesOver (body statement : Tree) (edit : Edit) : Prop :=
  edit.start = statement.stop ∧ statement.stop < edit.stop ∧ rangeOf edit ≠ closingRange body

namespace AssignedAt

variable {before after : List Edit}
  (h : AssignedAt source edits name body statement bindings before after)
include h

/-- What holds the end of the statement begins there. -/
lemma start_eq (hmem : edit ∈ edits) (hholds : Holds statement.stop edit) :
    edit.start = statement.stop := by
  rw [h.split, List.mem_append, List.mem_cons] at hmem
  rcases hmem with hmem | rfl | hmem
  · obtain ⟨hstart, hstop⟩ := Span.mk.inj (h.before edit hmem hholds)
    obtain ⟨hle, hlt⟩ := hholds
    omega
  · rfl
  · exact h.after edit hmem hholds

/-- The assignments stay among the edits unless one of them begins where the statement ends. -/
theorem mem_ordered_iff (hlaminar : Edits.Laminar edits)
    (hcount : edits.count (namespaceExport.assign name statement bindings) ≤ 1) :
    namespaceExport.assign name statement bindings ∈ (Edits.ofList edits).ordered ↔
      ∀ edit ∈ edits, ¬ TakesOver body statement edit := by
  have hlast : namespaceExport.assign name statement bindings ∉ after := by
    intro hmem
    have := List.count_pos_iff.mpr hmem
    rw [h.split, List.count_append, List.count_cons_self] at hcount
    omega
  have hinside : ∀ other ∈ before, ¬ other.hasInside statement.stop := by
    intro other hmem hinside
    obtain ⟨hstart, hstop⟩ := Edit.hasInside_iff.mp hinside
    obtain ⟨hstart', hstop'⟩ := Span.mk.inj (h.before other hmem ⟨Nat.le_of_lt hstart, hstop⟩)
    omega
  rw [Edits.mem_ordered, h.split]
  rw [h.split] at hlaminar
  refine (Edits.mem_ofList_iff_of_insertion hlaminar rfl hinside hlast).trans ⟨?_, ?_⟩
  · rintro hcovered edit hmem ⟨hstart, hstop, hrange⟩
    rw [List.mem_append, List.mem_cons] at hmem
    rcases hmem with hmem | rfl | hmem
    · exact hrange (h.before edit hmem ⟨Nat.le_of_eq hstart, hstop⟩)
    · exact absurd hstop (Nat.lt_irrefl _)
    · obtain ⟨outer, houter, hcovers⟩ := hcovered edit hmem (Nat.le_of_eq hstart) hstop
      obtain ⟨-, hle, hle'⟩ := Edit.covers_iff.mp hcovers
      -- only the closing brace could cover the edit, and it takes one byte
      have hclosing := h.before outer houter ⟨by omega, by omega⟩
      obtain ⟨hstart', hstop'⟩ := Span.mk.inj hclosing
      refine hrange (hclosing ▸ ?_)
      rw [rangeOf, rangeOf, Span.mk.injEq]
      omega
  · intro hnone other hmem hstart hstop
    have hrange : rangeOf other = closingRange body := by
      by_contra hne
      exact hnone other (by simp [hmem]) ⟨h.after other hmem ⟨hstart, hstop⟩, hstop, hne⟩
    obtain ⟨brace, hbrace, hclosing⟩ := h.closing
    refine ⟨brace, hbrace, Edit.covers_iff.mpr ?_⟩
    obtain ⟨hstart', hstop'⟩ := Span.mk.inj (hclosing.trans hrange.symm)
    omega

end AssignedAt

/-! ### Texts of assignments -/

lemma exists_assignments_eq (owner : String) (binding : Binding) (bindings : List Binding) :
    ∃ rest, (String.join ((binding :: bindings).map (namespaceAssignment owner))).toList =
      ' ' :: (owner.toList ++ rest) := by
  refine ⟨("[" ++ binding.literal ++ "] = " ++ binding.localName ++ ";" ++
    String.join (bindings.map (namespaceAssignment owner))).toList, ?_⟩
  rw [List.map_cons, String.join_cons, namespaceAssignment]
  simp only [String.toList_append, List.append_assoc]
  rfl

lemma isSpaced_assignments {owner : String} (hne : bindings ≠ []) :
    IsSpaced (String.join (bindings.map (namespaceAssignment owner))) := by
  obtain ⟨binding, bindings, rfl⟩ := List.exists_cons_of_ne_nil hne
  obtain ⟨rest, heq⟩ := exists_assignments_eq owner binding bindings
  rw [IsSpaced, heq]
  rfl

lemma exists_name_of_present (hform : NamespaceForm.ofTree source tree = .ok (.present name body)) :
    ∃ leaf ∈ tree.children, leaf.isKind .identifier ∧ name = leaf.text source := by
  unfold NamespaceForm.ofTree at hform
  split at hform
  · cases hform
  next leaf hleaf =>
    split at hform
    · cases hform
    next hkind =>
      split at hform <;> cases hform
      exact ⟨leaf, Tree.mem_of_child? hleaf, by simpa using hkind, rfl⟩

/-! ### Nodes of a module -/

/-- A tree that takes some bytes is a child of one node only. -/
lemma eq_of_mem_children (htree : tree.Every (Tree.Nested source)) {a b child : Tree}
    (ha : a ∈ tree.nodes) (hb : b ∈ tree.nodes) (hchild : child ∈ a.children)
    (hchild' : child ∈ b.children) (hlt : child.start < child.stop) : a = b := by
  have hbelow {outer inner : Tree} (houter : outer ∈ tree.nodes) (hchild : child ∈ outer.children)
      (hchild' : child ∈ inner.children) {part : Tree} (hpart : part ∈ outer.children)
      (hinner : inner ∈ part.nodes) : False := by
    have hnested := htree.of_mem houter
    have hin : child ∈ part.nodes :=
      Tree.nodes_subset hinner (Tree.mem_nodes_of_mem_children hchild')
    rcases hnested.self.ordered.apart hchild hpart with rfl | hapart
    · exact Tree.not_mem_nodes_of_mem_children hchild' hinner
    · obtain ⟨hstart, -, hstop⟩ := Within.of_mem_nodes (hnested.of_child hpart) hin
      simp only [Tree.start, Tree.stop] at *
      omega
  rcases nodes_cases htree ha hb with heq | ⟨part, hpart, hin⟩ | ⟨part, hpart, hin⟩ | hapart
  · exact heq
  · exact (hbelow ha hchild hchild' hpart hin).elim
  · exact (hbelow hb hchild' hchild hpart hin).elim
  · have hspan := (htree.of_mem ha).self.ordered.mem hchild
    have hspan' := (htree.of_mem hb).self.ordered.mem hchild'
    omega

/-- A statement that gives more than types is no export of types. -/
lemma isTypeExport_eq_false {form : ExportForm}
    (h : ExportForm.classify source statement = .ok form) (htypes : form ≠ .typeOnly) :
    isTypeExport statement = false := by
  unfold ExportForm.classify at h
  split at h
  · cases h
  split at h
  · cases h
  split at h
  next =>
    cases h
    exact absurd rfl htypes
  next htype =>
  rw [isTypeExport, Bool.eq_false_iff.mpr htype, Bool.false_or]
  rcases hdeclaration : statement.child? .declaration with _ | declaration
  · rfl
  rw [Option.map_some, Option.getD_some, Bool.eq_false_iff]
  intro honly
  split at h
  · cases h
    exact htypes (by simp [ExportForm.ofDefault, hdeclaration, honly])
  · simp only [hdeclaration, honly, if_true] at h
    cases h
    exact htypes rfl

section Module

variable (hparse : TypeScript.parse source = .ok tree)
include hparse

/-- Every node of a module but the module itself is parsed. -/
lemma parsed_of_mem_nodes (hnode : node ∈ tree.nodes) (hother : node.isKind .program = false) :
    node.Every (Tree.Parsed source) := by
  rcases Tree.mem_nodes_iff.mp hnode with rfl | ⟨child, hchild, hnode⟩
  · rw [(TypeScript.parse_wellFormed hparse).isProgram] at hother
    cases hother
  · exact (TypeScript.parse_parsed hparse child hchild).of_mem hnode

lemma every_isForwardExport : tree.Every IsForwardExport := by
  intro statement hmem hkind
  have hparsed := (parsed_of_mem_nodes hparse hmem (by
    rw [Tree.isKind_iff] at hkind
    simp [Tree.isKind, hkind])).self
  have hsound := (TypeScript.parse_wellFormed hparse).toSound.of_mem hmem
  obtain ⟨first, keyword, last, hparts, hkeyword, -, -⟩ := exists_exportKeyword hparsed hkind
  have hchild : keyword ∈ statement.children :=
    (List.mem_filter.mp (show keyword ∈ statement.parts by simp [hparts])).1
  have hlt := ((TypeScript.parse_spelled hparse).of_mem hmem |>.of_child hchild).self.start_lt_stop
    (hsound.of_child hchild).nested.self hkeyword (by decide)
  have hspan := hsound.ordered.mem hchild
  omega

variable (hedits : moduleEdits source tree = .ok (edits, exports))
include hedits

/-- An assignment is inserted at most once in a module. -/
lemma moduleEdits_count_le_one (hspaced : IsSpaced text) :
    edits.count (.insert offset text) ≤ 1 := by
  obtain ⟨erasing, exporting, herasing, hexporting, rfl⟩ := exists_of_moduleEdits hedits
  have hnone : exporting.count (.insert offset text) = 0 := List.count_eq_zero.mpr fun hmem => by
    obtain ⟨first, statement, last, own, -, hown, hmem⟩ := hexporting.exists_of_mem hmem
    rcases hkind : statement.isKind .exportStatement with _ | _
    · rw [exportStatement, hkind] at hown
      cases hown
      cases hmem
    obtain ⟨form, -, rfl⟩ := exportStatement_ok hown hkind
    have htext : ∀ edit ∈ Exports.edits statement form, ∀ text ∈ edit.text, ¬ IsSpaced text := by
      intro edit hedit text htext
      cases form with
      | declaration names =>
        simp only [Exports.edits, blankExport] at hedit
        split at hedit
        · rw [List.mem_singleton.mp hedit] at htext
          cases htext
        · cases hedit
      | defaultValue =>
        rw [List.mem_singleton.mp hedit] at htext
        cases htext
        decide
      | _ =>
        rw [List.mem_singleton.mp hedit] at htext
        cases htext
    exact htext _ hmem text rfl hspaced
  rw [List.count_append, hnone, Nat.add_zero]
  exact erase_count_le_one (TypeScript.parse_wellFormed hparse).toSound
    (every_isForwardExport hparse) hspaced herasing

/-- Between two parts of a block nothing is inserted but what the node calls for whose body it is. -/
lemma generates_of_insertion (hnode : node ∈ tree.nodes) (hbody : node.child? .body = some body)
    (hin : InBlock body offset) (hspaced : IsSpaced text) (hmem : .insert offset text ∈ edits) :
    Generates source node (.insert offset text) := by
  have htree := TypeScript.parse_wellFormed hparse
  rcases moduleEdits_made hedits hmem with ⟨range, -, heq⟩ | hgenerates
  · cases (Edit.mk.inj heq).2.2
  generalize hedit : Edit.insert offset text = edit at hgenerates
  cases hgenerates with
  | defaultValue =>
    obtain ⟨-, -, htext⟩ := Edit.mk.inj hedit
    cases htext
    exact absurd hspaced (by decide)
  | @node other _ hother hgenerates =>
    subst hedit
    obtain ⟨block, hblock, hin', -⟩ := hgenerates.insertion (htree.toSound.of_mem hother) hspaced
    have hblockMem := Tree.mem_of_child? hblock
    have hbodyMem := Tree.mem_of_child? hbody
    obtain rfl := InBlock.unique htree.nested
      (Tree.nodes_subset hother (Tree.mem_nodes_of_mem_children hblockMem))
      (Tree.nodes_subset hnode (Tree.mem_nodes_of_mem_children hbodyMem)) hin' hin
    obtain rfl := eq_of_mem_children htree.nested hother hnode hblockMem hbodyMem
      (Nat.lt_trans hin.start hin.stop)
    exact hgenerates

/-- Between two parts of the body of a namespace nothing is inserted but the assignments of the
names that its statements export. -/
lemma exists_of_insertion (hnode : node ∈ tree.nodes) (hnamespace : isNamespace node)
    (hform : NamespaceForm.ofTree source node = .ok (.present name body))
    (hin : InBlock body offset) (hspaced : IsSpaced text) (hmem : .insert offset text ∈ edits) :
    ∃ statement ∈ body.children, statement.isKind .exportStatement ∧
      isTypeExport statement = false ∧ ∃ bindings, NamedExports source statement bindings ∧
        bindings ≠ [] ∧ .insert offset text = namespaceExport.assign name statement bindings := by
  have htree := TypeScript.parse_wellFormed hparse
  have hbody := (child?_of_present hform).2
  have hbodyMem := Tree.mem_of_child? hbody
  have hgenerates := generates_of_insertion hparse hedits hnode hbody hin hspaced hmem
  obtain ⟨_, -, -, hmethod | ⟨_, statement, bindings, -, hform', hstatement, hkind, hbindings,
    heq⟩⟩ := hgenerates.insertion (htree.toSound.of_mem hnode) hspaced
  · rw [Tree.isKind_iff] at hmethod
    rcases isNamespace_iff.mp hnamespace with h | h <;> simp [h] at hmethod
  rw [hform] at hform'
  cases hform'
  have hparsed := (parsed_of_mem_nodes hparse (Tree.nodes_subset hnode
    (Tree.nodes_subset (Tree.mem_nodes_of_mem_children hbodyMem)
      (Tree.mem_nodes_of_mem_children hstatement))) (by
        rw [Tree.isKind_iff] at hkind
        simp [Tree.isKind, hkind])).self
  obtain ⟨form, hclassify, htypes, rfl⟩ : ∃ form,
      ExportForm.classify source statement = .ok form ∧ form ≠ .typeOnly ∧
        bindings = form.bindings := by
    rcases hbindings with ⟨names, hclassify, rfl⟩ | hclassify
    · exact ⟨_, hclassify, by simp, rfl⟩
    · exact ⟨_, hclassify, by simp, rfl⟩
  refine ⟨statement, hstatement, hkind, isTypeExport_eq_false hclassify htypes, form.bindings, ?_,
    fun hnone => ?_, heq⟩
  · exact classify_namedExports hparsed ((htree.nested.of_mem hnode).of_child hbodyMem |>.of_child
      hstatement) hkind hclassify
  · rw [hnone] at heq
    obtain ⟨-, -, htext⟩ := Edit.mk.inj heq
    cases htext
    rw [List.map_nil] at hspaced
    exact absurd hspaced (by decide)

end Module

/-! ### Scripts -/

/-- Whether a script has the assignments of a statement once, right after what becomes of the text
up to the end of the statement, where a reader of scripts does not take the statement to end. -/
def AssignsOnce (source script : String) (edits : List Edit) (exports : Exports) (edit : Edit) :
    Prop :=
  ∃ first last before after before' after',
    (Edits.ofList edits).ordered = first ++ edit :: last ∧ edit ∉ first ∧ edit ∉ last ∧
    source.toList = before ++ after ∧ size before = edit.start ∧
    Edits.Applied 0 before first before' ∧ Edits.Applied edit.stop after last after' ∧
    script.toList = exports.header.toList ++ before' ++
      (edit.result [] ++ (after' ++ exports.footer.toList)) ∧
    ∀ context s, s.rest = edit.result [] ++ (after' ++ exports.footer.toList) →
      (do advance; endStatement) context s = none

/-- An insertion that is applied once stands in the script right after what becomes of the text
before its place. -/
lemma assignsOnce_of_mem {source : String} {body : List Char}
    (happlied : Edits.Applied 0 source.toList (Edits.ofList edits).ordered body)
    (hcount : (Edits.ofList edits).ordered.count edit ≤ 1) (hempty : edit.start = edit.stop)
    (hmem : edit ∈ (Edits.ofList edits).ordered)
    (hname : ∃ c rest, edit.result [] = ' ' :: c :: rest ∧ BeginsName c) :
    AssignsOnce source
      (String.ofList (exports.header.toList ++ body ++ exports.footer.toList)) edits exports
      edit := by
  obtain ⟨first, last, hordered⟩ := List.append_of_mem hmem
  rw [hordered] at happlied hcount
  obtain ⟨before, old, after, before', after', hsource, hstart, hstop, hbefore, hafter, rfl⟩ :=
    happlied.of_append_cons
  rw [List.count_append, List.count_cons_self] at hcount
  have hold : old = [] := eq_nil_of_size_eq_zero (by omega)
  subst hold
  rw [Nat.zero_add] at hstart
  refine ⟨first, last, before, after, before', after', hordered,
    List.count_eq_zero.mp (by omega), List.count_eq_zero.mp (by omega), hsource, hstart, hbefore,
    hafter, ?_, fun context s hrest => ?_⟩
  · simp only [String.toList_ofList, List.append_assoc]
  · obtain ⟨c, rest, heq, hbegins⟩ := hname
    rw [heq] at hrest
    exact endStatement_before_name hbegins hrest

/-- In every namespace that a script is made from, at any depth, the names that a statement of its
body exports are assigned to it right after the statement, once, unless an edit begins right where
the statement ends, and there is no other assignment in the body. What is copied of the source keeps
none of the `export` keywords of the body. -/
theorem transpile_namespaces {source file script : String}
    (h : transpile source file = .ok script) :
    ∃ tree edits exports generated text, TypeScript.parse source.toList = .ok tree ∧
      moduleEdits source.toList tree = .ok (edits, exports) ∧
      script = exports.header ++ String.ofList text ++ exports.footer ∧
      Copied (edits.map rangeOf) generated 0 source.toList text ∧
      (∀ edit ∈ generated, ModuleGenerates source.toList tree edit) ∧
      ∀ node ∈ tree.nodes, isNamespace node → (∀ edit ∈ edits, ¬ Spans edit node.span) →
        ∀ name body, NamespaceForm.ofTree source.toList node = .ok (.present name body) →
          (∀ statement ∈ body.children, statement.isKind .exportStatement →
            (∃ form, ExportForm.classify source.toList statement = .ok form ∧
              NamedExports source.toList statement form.bindings ∧
              (form.bindings ≠ [] →
                let edit := namespaceExport.assign name statement form.bindings
                (edit ∈ (Edits.ofList edits).ordered ↔
                  ∀ other ∈ edits, ¬ TakesOver body statement other) ∧
                (edit ∈ (Edits.ofList edits).ordered →
                  AssignsOnce source script edits exports edit))) ∧
            ∀ keyword ∈ statement.children, keyword.isToken "export" →
              ∀ offset, keyword.start ≤ offset → offset < keyword.stop →
                Lies (edits.map rangeOf) offset) ∧
          ∀ offset text, InBlock body offset → IsSpaced text → .insert offset text ∈ edits →
            ∃ statement ∈ body.children, statement.isKind .exportStatement ∧
              isTypeExport statement = false ∧ ∃ bindings,
                NamedExports source.toList statement bindings ∧ bindings ≠ [] ∧
                .insert offset text = namespaceExport.assign name statement bindings := by
  obtain ⟨tree, edits, exports, text, hparse, hedits, htext, rfl⟩ := transpile_ok h
  have htree := TypeScript.parse_wellFormed hparse
  have hlaminar := moduleEdits_laminar htree hedits
  have houtermost := Edits.ofList_outermost hlaminar
  refine ⟨tree, edits, exports, _, text, hparse, hedits, ?_,
    Edits.applyTo?_copied_outside hlaminar htext, ?_, ?_⟩
  · simp only [String.ofList_append, String.ofList_toList]
  · intro edit hmem
    obtain ⟨hmem, hsome⟩ := List.mem_filter.mp hmem
    have hmade := houtermost.mem (Edits.mem_ordered.mp hmem)
    rcases moduleEdits_made hedits hmade with ⟨range, -, rfl⟩ | h
    · cases hsome
    · exact h
  intro node hnode hnamespace hkept name body hform
  refine ⟨fun statement hstatement hkind => ?_, fun offset text hin hspaced hmem =>
    exists_of_insertion hparse hedits hnode hnamespace hform hin hspaced hmem⟩
  have hsound := htree.toSound.of_mem hnode
  have hbody := Tree.mem_of_child? (child?_of_present hform).2
  have hnested := ((hsound.of_child hbody).of_child hstatement).nested
  have hparsedNode := parsed_of_mem_nodes hparse hnode (by
    rcases isNamespace_iff.mp hnamespace with h | h <;> simp [Tree.isKind, h])
  have hparsed := ((hparsedNode.of_child hbody).of_child hstatement).self
  obtain ⟨form, hclassify, hform'⟩ :=
    exists_assignedAt htree hedits hnode hkept hnamespace hform hstatement hkind
  refine ⟨⟨form, hclassify, classify_namedExports hparsed hnested hkind hclassify,
    fun hne => ?_⟩, ?_⟩
  · rcases hform' with ⟨rfl, -⟩ | ⟨before, after, hassigned⟩
    · exact absurd rfl hne
    have hspaced : IsSpaced (String.join (form.bindings.map (namespaceAssignment name))) :=
      isSpaced_assignments hne
    have hcount : edits.count (namespaceExport.assign name statement form.bindings) ≤ 1 :=
      moduleEdits_count_le_one hparse hedits hspaced
    refine ⟨hassigned.mem_ordered_iff hlaminar hcount, fun hmem => ?_⟩
    refine assignsOnce_of_mem ((Edits.applyTo?_eq_some hlaminar).mp htext) ?_ rfl hmem ?_
    · rw [Edits.ordered, (List.mergeSort_perm _ _).count_eq]
      exact Nat.le_trans (houtermost.sublist.count_le _) hcount
    · obtain ⟨leaf, hleaf, hidentifier, rfl⟩ := exists_name_of_present hform
      obtain ⟨c, cs, hchars, hbegins⟩ :=
        (hparsedNode.of_child hleaf).self.exists_beginsName hidentifier
      obtain ⟨binding, bindings, hbindings⟩ := List.exists_cons_of_ne_nil hne
      obtain ⟨rest, heq⟩ := exists_assignments_eq (leaf.text source.toList) binding bindings
      refine ⟨c, cs ++ rest, ?_, hbegins⟩
      rw [hbindings]
      refine heq.trans ?_
      rw [Tree.text, String.toList_ofList, hchars, List.cons_append]
  · intro keyword hkeyword htoken offset hstart hstop
    obtain ⟨range, hrange, hle, hle'⟩ := exists_exportRange hparsed hnested.self hkind hclassify
      hkeyword htoken
    obtain ⟨edit, hedit, hspans⟩ := namespaceExport_spans htree hedits hnode hkept hnamespace hform
      hstatement hrange
    exact ⟨rangeOf edit, List.mem_map_of_mem hedit, Nat.le_trans hspans.1 (Nat.le_trans hle hstart),
      Nat.lt_of_lt_of_le hstop (Nat.le_trans hle' hspans.2)⟩

/-- A namespace whose statements stand right behind each other. -/
def adjacentStatements : String := "namespace N\x7bexport let a;export let b;\x7d"

/-- What is made for these statements. -/
def adjacentEdits : List Edit :=
  [.replace 0 12 "var N; (function (N) \x7b", .replace 38 39 "\x7d)(N || (N = \x7b\x7d));",
   .blank 12 18, .insert 25 " N[\"a\"] = a;", .blank 25 31, .insert 38 " N[\"b\"] = b;"]

lemma applyTo?_adjacentEdits : (Edits.ofList adjacentEdits).applyTo? adjacentStatements.toList =
    some ("var N; (function (N) \x7b       let a;       let b; N[\"b\"] = b;" ++
      "\x7d)(N || (N = \x7b\x7d));").toList := by
  have hitems : (Edits.ofList adjacentEdits).items = [.replace 0 12 "var N; (function (N) \x7b",
      .replace 38 39 "\x7d)(N || (N = \x7b\x7d));", .blank 12 18, .blank 25 31,
      .insert 38 " N[\"b\"] = b;"] := by decide
  have hordered : (Edits.ofList adjacentEdits).items.mergeSort Edit.le =
      [.replace 0 12 "var N; (function (N) \x7b", .blank 12 18, .blank 25 31,
        .insert 38 " N[\"b\"] = b;", .replace 38 39 "\x7d)(N || (N = \x7b\x7d));"] := by
    rw [hitems]
    simp [List.mergeSort, Edit.le, Edit.replace, Edit.blank, Edit.insert]
  rw [Edits.applyTo?, hordered]
  decide

/-- Whether a node is the namespace of these statements. -/
def isAdjacentNamespace (node : Tree) : Bool :=
  isNamespace node && node.start == 0 && node.stop == 39 &&
    match NamespaceForm.ofTree adjacentStatements.toList node with
    | .ok (.present name body) => name == "N" && body.stop == 39 &&
      match body.children.filter (Tree.isKind .exportStatement) with
      | [first, second] => first.stop == 25 && second.stop == 38 &&
        (ExportForm.classify adjacentStatements.toList first).toOption ==
          some (.declaration ["a"]) &&
        (ExportForm.classify adjacentStatements.toList second).toOption ==
          some (.declaration ["b"])
      | _ => false
    | _ => false

/-- The names of the first statement are not assigned, those of the second are. -/
theorem transpile_namespaces_adjacent :
    ∃ tree script, ∃ body first second : Tree,
      TypeScript.parse adjacentStatements.toList = .ok tree ∧
      moduleEdits adjacentStatements.toList tree = .ok (adjacentEdits, .empty) ∧
      transpile adjacentStatements "BP/t.ts" = .ok script ∧
      body.children.filter (Tree.isKind .exportStatement) = [first, second] ∧
      namespaceExport.assign "N" first [.same "a"] ∉ (Edits.ofList adjacentEdits).ordered ∧
      AssignsOnce adjacentStatements script adjacentEdits .empty
        (namespaceExport.assign "N" second [.same "b"]) := by
  have heval : ((TypeScript.parse adjacentStatements.toList).toOption.map fun tree =>
      ((moduleEdits adjacentStatements.toList tree).toOption,
        tree.nodes.any isAdjacentNamespace)) = some (some (adjacentEdits, .empty), true) := by
    decide +kernel
  obtain ⟨tree, hparse, heval⟩ := exists_of_parse heval
  obtain ⟨hedits, hnode⟩ := Prod.mk.inj heval
  have hedits := toOption_eq_some hedits
  simp only [List.any_eq_true, isAdjacentNamespace, Bool.and_eq_true, beq_iff_eq] at hnode
  obtain ⟨node, hnode, ⟨⟨hnamespace, hstart⟩, hstop⟩, hform⟩ := hnode
  split at hform
  next name body hpresent =>
    rw [Bool.and_eq_true, Bool.and_eq_true, beq_iff_eq, beq_iff_eq] at hform
    obtain ⟨⟨rfl, hbodyStop⟩, hform⟩ := hform
    split at hform
    next first second hstatements =>
      simp only [Bool.and_eq_true, beq_iff_eq] at hform
      obtain ⟨⟨⟨hfirst, hsecond⟩, hfirstForm⟩, hsecondForm⟩ := hform
      have hscript := transpile_eq "BP/t.ts" hparse hedits applyTo?_adjacentEdits
      obtain ⟨_, _, _, _, _, hparse', hedits', -, -, -, hnamespaces⟩ := transpile_namespaces hscript
      rw [hparse] at hparse'
      cases hparse'
      rw [hedits] at hedits'
      cases hedits'
      have hkept : ∀ edit ∈ adjacentEdits, ¬ Spans edit node.span := by
        have hnone : ∀ edit ∈ adjacentEdits, ¬ (edit.start ≤ 0 ∧ 39 ≤ edit.stop) := by decide
        intro edit hedit hspans
        exact hnone edit hedit (hstart ▸ hstop ▸ hspans)
      obtain ⟨hassigns, -⟩ := hnamespaces node hnode hnamespace hkept "N" body hpresent
      have hchild {statement : Tree} (hmem : statement ∈ [first, second]) :
          statement ∈ body.children ∧ statement.isKind .exportStatement := by
        rw [← hstatements] at hmem
        exact List.mem_filter.mp hmem
      obtain ⟨hfirstMem, hfirstKind⟩ := hchild List.mem_cons_self
      obtain ⟨hsecondMem, hsecondKind⟩ := hchild (List.mem_cons_of_mem _ List.mem_cons_self)
      obtain ⟨⟨form, hclassify, -, hnames⟩, -⟩ := hassigns first hfirstMem hfirstKind
      obtain ⟨⟨form', hclassify', -, hnames'⟩, -⟩ := hassigns second hsecondMem hsecondKind
      rw [toOption_eq_some hfirstForm] at hclassify
      cases hclassify
      rw [toOption_eq_some hsecondForm] at hclassify'
      cases hclassify'
      obtain ⟨hfirstIff, -⟩ := hnames (by decide)
      obtain ⟨hsecondIff, hsecondOnce⟩ := hnames' (by decide)
      refine ⟨tree, _, body, first, second, hparse, hedits, hscript, hstatements, ?_, ?_⟩
      · intro hmem
        refine hfirstIff.mp hmem (.blank 25 31) (by decide) ⟨hfirst.symm, ?_, ?_⟩
        · rw [hfirst]
          decide
        · rw [closingRange, hbodyStop]
          decide
      · refine hsecondOnce (hsecondIff.mpr ?_)
        have hnone : ∀ edit ∈ adjacentEdits, edit.start = 38 → 38 < edit.stop →
            rangeOf edit = ⟨39 - 1, 39⟩ := by
          decide
        rintro edit hedit ⟨hstart, hstop, hrange⟩
        rw [hsecond] at hstart hstop
        rw [closingRange, hbodyStop] at hrange
        exact hrange (hnone edit hedit hstart hstop)
    next => cases hform
  next => cases hform

end Stencil.Erasure
