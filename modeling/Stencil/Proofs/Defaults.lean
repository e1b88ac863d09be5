import Mathlib.Data.List.Dedup
import Stencil.Proofs.Exports
import Stencil.Proofs.Tokens
import Stencil.Script.Token

/-!
# The default of a module

A module gives its default in an export statement with the keyword `default` (`exportsDefault`), or
in an export list under that name (`namesDefault`). A second statement with the keyword is refused,
and the one that is left assigns the default once, in its own place or after the body. Entries of
lists are not looked at for that: they define a getter for each literal that names the default, also
beside the assignment (`transpile_defaults`).
-/

namespace Stencil.Erasure

open Text
open TypeScript (Tree Span)

variable {source : List Char} {tree statement : Tree} {statements : List Tree} {edits : List Edit}
  {edit : Edit} {exports exports' : Exports}

/-! ### Statements that export the default -/

/-- Whether a statement exports a default that is there at run time. -/
def exportsDefault (statement : Tree) : Bool :=
  statement.isKind .exportStatement && statement.hasToken "default" &&
    !statement.hasToken "type" &&
    !(((statement.child? .declaration).or (statement.child? .value)).map isTypeOnly).getD false

lemma givesDefault_ofDefault (source : List Char) (statement : Tree) :
    Exports.givesDefault (ExportForm.ofDefault source statement) =
      !(((statement.child? .declaration).or (statement.child? .value)).map isTypeOnly).getD
        false := by
  unfold ExportForm.ofDefault
  split
  next h => simp [h, Exports.givesDefault]
  next exported h =>
    rcases htypes : isTypeOnly exported with _ | _ <;> simp only [h, Option.map_some, htypes]
    · rw [if_neg Bool.false_ne_true]
      split
      · split <;> rfl
      · rfl
    · rfl

/-- The form of an export statement gives the default just when the statement exports it. -/
lemma givesDefault_eq {form : ExportForm} (hkind : statement.isKind .exportStatement)
    (h : ExportForm.classify source statement = .ok form) :
    Exports.givesDefault form = exportsDefault statement := by
  rw [exportsDefault, hkind, Bool.true_and]
  rcases hdefault : statement.hasToken "default" with _ | _
  · rw [Bool.false_and, Bool.false_and, Bool.eq_false_iff]
    exact fun hgives => ne_true_of_eq_false hdefault (hasToken_of_ofDefault h hgives)
  unfold ExportForm.classify at h
  split at h
  · cases h
  split at h
  · cases h
  split at h
  next htype =>
    cases h
    rw [htype]
    rfl
  next htype =>
    cases h
    rw [givesDefault_ofDefault, Bool.eq_false_iff.mpr htype]
    rfl

/-- The name under which a statement declares the default. -/
def declaredDefault? (source : List Char) (statement : Tree) : Option String :=
  match ExportForm.classify source statement with
  | .ok (.defaultDeclaration name) => some name
  | _                              => none

/-- Whether all export statements among these have a form. -/
def Classified (source : List Char) (statements : List Tree) : Prop :=
  ∀ statement ∈ statements, statement.isKind .exportStatement →
    ∃ form, ExportForm.classify source statement = .ok form

lemma isKind_of_exportsDefault (h : exportsDefault statement) :
    statement.isKind .exportStatement := by
  simp only [exportsDefault, Bool.and_eq_true] at h
  exact h.1.1.1

lemma hasDefault_add (exports : Exports) (form : ExportForm) :
    (exports.add form).hasDefault = (Exports.givesDefault form || exports.hasDefault) := by
  cases form <;> rfl

/-- At most one of the statements of a module exports the default, none if there is one already. -/
lemma collect_defaults (h : Exports.collect source exports statements = .ok (exports', edits)) :
    (statements.filter exportsDefault).length + exports.hasDefault.toNat ≤ 1 ∧
      exports'.defaultName =
        ((statements.filter exportsDefault).head?.bind (declaredDefault? source)).or
          exports.defaultName := by
  induction statements generalizing exports edits with
  | nil =>
    cases h
    exact ⟨by simpa using Bool.toNat_le _, rfl⟩
  | cons statement statements ih =>
    rw [Exports.collect] at h
    split at h
    next hkind =>
      simp only [bind_eq_ok_iff] at h
      obtain ⟨form, hform, h⟩ := h
      split at h
      · cases h
      next hsecond =>
      simp only [bind_eq_ok_iff, Prod.exists, pure_eq_ok_iff, Prod.mk.injEq] at h
      obtain ⟨_, more, hmore, rfl, rfl⟩ := h
      obtain ⟨hcount, hname⟩ := ih hmore
      have hgives := givesDefault_eq hkind hform
      rw [hasDefault_add, hgives] at hcount
      rcases hdefault : exportsDefault statement with _ | _ <;> rw [hdefault] at hgives hcount
      · rw [List.filter_cons_of_neg (by simp [hdefault])]
        cases form with
        | typeOnly | declaration | list => exact ⟨hcount, hname⟩
        | defaultDeclaration | defaultValue => cases hgives
      · rw [List.filter_cons_of_pos hdefault]
        have hnone : statements.filter exportsDefault = [] := by
          rw [Bool.true_or, Bool.toNat_true] at hcount
          exact List.length_eq_zero_iff.mp (by omega)
        have hfirst : exports.hasDefault = false := by simpa [hgives] using hsecond
        refine ⟨by simp [hnone, hfirst], ?_⟩
        rw [hname, hnone]
        cases form with
        | typeOnly | declaration | list => cases hgives
        | defaultDeclaration name | defaultValue => simp [declaredDefault?, hform, Exports.add]
    next hkind =>
      rw [List.filter_cons_of_neg fun hdefault => hkind (isKind_of_exportsDefault hdefault)]
      exact ih h

/-- The second statement that exports the default is refused. -/
lemma collect_duplicate {first last : List Tree} {second : Tree}
    (hcount : (first.filter exportsDefault).length + exports.hasDefault.toNat = 1)
    (hsecond : exportsDefault second) (hforms : Classified source (first ++ [second])) :
    Exports.collect source exports (first ++ second :: last) =
      .error ⟨.duplicateDefault, second.start⟩ := by
  induction first generalizing exports with
  | nil =>
    have hkind := isKind_of_exportsDefault hsecond
    obtain ⟨form, hform⟩ := hforms second (List.mem_singleton_self _) hkind
    have hgives := (givesDefault_eq hkind hform).trans hsecond
    have hdefault : exports.hasDefault = true := by simpa using hcount
    rw [List.nil_append, Exports.collect, if_pos hkind, hform]
    simp [bind, Except.bind, hgives, hdefault, failAt]
  | cons statement first ih =>
    have hforms' : Classified source (first ++ [second]) :=
      fun other hmem => hforms other (List.mem_cons_of_mem _ hmem)
    rw [List.cons_append, Exports.collect]
    split
    next hkind =>
      obtain ⟨form, hform⟩ := hforms statement List.mem_cons_self hkind
      have hgives := givesDefault_eq hkind hform
      have hlater : (first.filter exportsDefault).length + (exports.add form).hasDefault.toNat = 1 ∧
          (Exports.givesDefault form && exports.hasDefault) = false := by
        rw [hasDefault_add, hgives]
        rcases hdefault : exportsDefault statement with _ | _
        · rw [List.filter_cons_of_neg (by simp [hdefault])] at hcount
          exact ⟨hcount, rfl⟩
        · rw [List.filter_cons_of_pos hdefault, List.length_cons] at hcount
          rcases hhas : exports.hasDefault with _ | _ <;> rw [hhas] at hcount
          · exact ⟨by simpa using hcount, rfl⟩
          · rw [Bool.toNat_true] at hcount
            omega
      rw [hform]
      simp only [bind, Except.bind, hlater.2, Bool.false_eq_true, if_false, ih hlater.1 hforms']
    next hkind =>
      rw [List.filter_cons_of_neg fun hdefault => hkind (isKind_of_exportsDefault hdefault)]
        at hcount
      exact ih hcount hforms'

/-! ### The assignment in place -/

/-- The text that takes the place of the keywords before a default value. -/
def assignText : String := "exports.default ="

/-- The assignment of a default value in the place of its keywords. -/
def assignInPlace (statement : Tree) : Edit :=
  .replace statement.start (defaultEnd statement) assignText

/-- Whether a text begins otherwise than the assignment of the default. -/
def BeginsOtherwise (text : String) : Prop := text.toList.head? ≠ some 'e'

instance : DecidablePred BeginsOtherwise := fun text =>
  inferInstanceAs (Decidable (text.toList.head? ≠ some 'e'))

lemma beginsOtherwise_append {first second : String} (hfirst : first ≠ "")
    (h : BeginsOtherwise first) : BeginsOtherwise (first ++ second) := by
  rw [BeginsOtherwise, String.toList_append, List.head?_append]
  rcases hlist : first.toList with _ | ⟨c, cs⟩
  · exact absurd (String.toList_eq_nil_iff.mp hlist) hfirst
  · simpa [BeginsOtherwise, hlist] using h

lemma beginsOtherwise_lineFeeds (text : List Char) : BeginsOtherwise (lineFeeds text) := by
  rw [BeginsOtherwise, lineFeeds, String.toList_ofList]
  cases Text.countLineFeeds text <;> simp [List.replicate_succ]

lemma beginsOtherwise_propertyAssignments {parameters : List Tree} {text : String}
    (h : propertyAssignments source parameters = .ok text) : BeginsOtherwise text := by
  induction parameters with
  | nil =>
    cases h
    decide
  | cons parameter parameters ih =>
    rw [propertyAssignments] at h
    split at h
    · split at h
      · cases h
      · simp only [bind_eq_ok_iff, pure_eq_ok_iff] at h
        obtain ⟨rest, -, rfl⟩ := h
        simp only [String.append_assoc]
        exact beginsOtherwise_append (by decide) (by decide)
    · exact ih h

/-- No text that a node calls for begins like the assignment of the default. -/
lemma Generates.beginsOtherwise (h : Generates source tree edit) :
    ∀ text ∈ edit.text, BeginsOtherwise text := by
  intro text htext
  cases h with
  | enumeration hkind hedit =>
    unfold enumEdit at hedit
    split at hedit
    · simp only [bind_eq_ok_iff, pure_eq_ok_iff] at hedit
      obtain ⟨filled, -, rfl⟩ := hedit
      cases htext
      simp only [String.append_assoc]
      exact beginsOtherwise_append (by decide) (by decide)
    · cases hedit
  | frame hnamespace hform hedit =>
    simp only [namespaceFrame, List.mem_cons, List.not_mem_nil, or_false] at hedit
    rcases hedit with rfl | rfl <;> cases htext <;> simp only [String.append_assoc] <;>
      exact beginsOtherwise_append (by decide) (by decide)
  | @assignment name body statement bindings hnamespace hform hstatement hkind hbindings =>
    cases htext
    rcases bindings with _ | ⟨binding, bindings⟩
    · exact (by decide : BeginsOtherwise "")
    · rw [List.map_cons, String.join_cons, namespaceAssignment]
      simp only [String.append_assoc]
      exact beginsOtherwise_append (by decide) (by decide)
  | returnType hkind hedit =>
    unfold moveReturnType at hedit
    split at hedit
    · dsimp only at hedit
      split at hedit
      · cases hedit
      · simp only [List.mem_cons, List.not_mem_nil, or_false] at hedit
        rcases hedit with rfl | rfl <;> cases htext
        · decide
        · exact beginsOtherwise_lineFeeds _
    · cases hedit
  | properties hkind hedits hedit =>
    unfold parameterProperties at hedits
    split at hedits
    · split at hedits
      · simp only [bind_eq_ok_iff] at hedits
        obtain ⟨assigned, hassigned, hedits⟩ := hedits
        split at hedits <;> rw [pure_eq_ok_iff] at hedits <;> subst hedits
        · cases hedit
        · rw [List.mem_singleton.mp hedit] at htext
          cases htext
          exact beginsOtherwise_propertyAssignments hassigned
      · cases hedits
        cases hedit
    · cases hedits
      cases hedit

/-- The keywords of a statement that exports the default. -/
structure DefaultKeywords (statement keyword given : Tree) : Prop where
  keyword_mem : keyword ∈ statement.children
  given_mem : given ∈ statement.children
  ne : keyword ≠ given
  defaultEnd_eq : defaultEnd statement = given.stop
  keyword_lt : keyword.start < keyword.stop
  given_lt : given.start < given.stop
  le : keyword.stop ≤ given.stop

/-- A statement that exports the default has its keywords one after the other. -/
lemma exists_defaultKeywords (hparsed : statement.Parsed source) (hsound : statement.Sound source)
    (hspelled : statement.Every (Tree.Spelled source)) (h : exportsDefault statement) :
    ∃ keyword given, DefaultKeywords statement keyword given := by
  have hkind := isKind_of_exportsDefault h
  simp only [exportsDefault, Bool.and_eq_true] at h
  obtain ⟨given, hgiven⟩ := Option.isSome_iff_exists.mp h.1.1.2
  obtain ⟨first, keyword, last, hparts, hkeyword, -, -⟩ := exists_exportKeyword hparsed hkind
  have hmem : keyword ∈ statement.children :=
    (List.mem_filter.mp (show keyword ∈ statement.parts by simp [hparts])).1
  have hgivenMem := Tree.mem_of_token? hgiven
  have hgivenToken : given.isToken "default" := List.find?_some hgiven
  have hlt {token : Tree} {text : String} (hmem : token ∈ statement.children)
      (htoken : token.isToken text) (htext : text ≠ "") : token.start < token.stop :=
    (hspelled.of_child hmem).self.start_lt_stop (hsound.of_child hmem).nested.self htoken htext
  refine ⟨keyword, given, hmem, hgivenMem, ?_, by rw [defaultEnd, hgiven],
    hlt hmem hkeyword (by decide), hlt hgivenMem hgivenToken (by decide),
    (exportKeyword_spec hparsed hsound.nested.self hkind hmem hkeyword).2 given hgiven⟩
  rintro rfl
  rw [Tree.isToken_iff] at hkeyword hgivenToken
  simp [hkeyword] at hgivenToken

namespace DefaultKeywords

variable {keyword given child : Tree} {range : Span} (h : DefaultKeywords statement keyword given)
include h

/-- The keywords take more than one byte. -/
lemma two_le (hordered : Tree.Ordered statement.start statement.stop statement.children) :
    statement.start + 2 ≤ defaultEnd statement := by
  obtain ⟨hkeyword, hgiven, hne, hend, hlt, hlt', hle⟩ := h
  have := hordered.mem hkeyword
  rcases hordered.apart hkeyword hgiven with heq | hapart | hapart
  · exact absurd heq hne
  · omega
  · omega

/-- No child holds all keywords. -/
lemma not_within (hordered : Tree.Ordered statement.start statement.stop statement.children)
    (hchild : child ∈ statement.children) (hrange : Within child range) :
    ¬ (range.start ≤ statement.start ∧ defaultEnd statement ≤ range.stop) := by
  rintro ⟨hstart, hstop⟩
  obtain ⟨hkeyword, hgiven, hne, hend, hlt, hlt', hle⟩ := h
  obtain ⟨hchildStart, -, hchildStop⟩ := hrange
  have hin := hordered.mem hkeyword
  have hin' := hordered.mem hgiven
  rcases hordered.apart hchild hkeyword with rfl | hapart | hapart
  · rcases hordered.apart hchild hgiven with heq | hapart | hapart
    · exact hne heq
    all_goals omega
  all_goals omega

end DefaultKeywords

/-- A statement that exports the default takes nothing out as a node. -/
lemma ownRanges_of_exportsDefault (h : exportsDefault statement) :
    ownRanges source statement = [] := by
  have hkind := Tree.isKind_iff.mp (isKind_of_exportsDefault h)
  simp only [exportsDefault, Bool.and_eq_true, Bool.not_eq_true'] at h
  obtain ⟨⟨-, htype⟩, hexported⟩ := h
  have htypes : isTypeExport statement = false := by
    rw [isTypeExport, htype, Bool.false_or]
    rcases hdeclaration : statement.child? .declaration with _ | declaration
    · rfl
    · simpa [hdeclaration] using hexported
  simp [ownRanges, isErasedMember, isTypeSyntax, typeKinds, isErased, isNamespace, isAssertion,
    markRanges, keywords, keywordRanges, Tree.isKind, hkind, htypes]

section Module

variable (hparse : TypeScript.parse source = .ok tree)
  (hedits : moduleEdits source tree = .ok (edits, exports))
include hparse hedits

/-- No other edit holds the range of the assignment in place. -/
lemma eq_assignInPlace (hstatement : statement ∈ tree.children)
    (hform : ExportForm.classify source statement = .ok .defaultValue)
    (hkind : statement.isKind .exportStatement) (hmem : edit ∈ edits)
    (hcovers : edit.covers (assignInPlace statement)) : edit = assignInPlace statement := by
  have htree := TypeScript.parse_wellFormed hparse
  have hsound := htree.toSound.of_child hstatement
  have hordered := hsound.ordered
  have hdefault : exportsDefault statement := (givesDefault_eq hkind hform).symm
  obtain ⟨keyword, given, hkeywords⟩ := exists_defaultKeywords
    (TypeScript.parse_parsed hparse statement hstatement).self hsound
    ((TypeScript.parse_spelled hparse).of_child hstatement) hdefault
  have htwo := hkeywords.two_le hordered
  obtain ⟨hlt, hstart, hstop⟩ := Edit.covers_iff.mp hcovers
  change edit.start ≤ statement.start at hstart
  change defaultEnd statement ≤ edit.stop at hstop
  have houtside {range : Span} {child : Tree} (hchild : child ∈ tree.children)
      (hrange : Within child range) (hspan : rangeOf edit = range) : child = statement := by
    obtain ⟨hchildStart, -, hchildStop⟩ := hrange
    obtain ⟨hrangeStart, hrangeStop⟩ := Span.mk.inj hspan
    have hin := htree.toSound.ordered.mem hstatement
    have hle := hsound.nested.self.ordered.mem hkeywords.given_mem
    have hend := hkeywords.defaultEnd_eq
    rcases htree.toSound.ordered.apart hchild hstatement with heq | hapart | hapart
    · exact heq
    all_goals omega
  obtain ⟨erasing, exporting, herasing, hexporting, rfl⟩ := exists_of_moduleEdits hedits
  rcases List.mem_append.mp hmem with hmem | hmem
  · rcases erase_made herasing hmem with ⟨node, hnode, hmakes⟩ | ⟨hfalse, -⟩
    · have hplaced : Placed source node (ownRanges source node) edit := by
        rcases hmakes with ⟨range, hrange, rfl⟩ | hgenerates
        · exact .range hrange
        · exact hgenerates.placed (htree.toSound.of_mem hnode)
      cases hplaced with
      | insertion hempty _ => omega
      | closing hcloses =>
        obtain ⟨_, -, -, _, body, -, -, hspan⟩ := hcloses
        obtain ⟨hbodyStart, hbodyStop⟩ := Span.mk.inj hspan
        omega
      | range hrange =>
        rcases Tree.mem_nodes_iff.mp hnode with rfl | ⟨child, hchild, hnode⟩
        · rw [ownRanges_eq_nil (by simp) htree.isProgram] at hrange
          cases hrange
        obtain rfl := houtside hchild
          (.of_mem_ownRanges (htree.toSound.of_child hchild) hnode hrange) rfl
        rcases Tree.mem_nodes_iff.mp hnode with rfl | ⟨part, hpart, hnode⟩
        · rw [ownRanges_of_exportsDefault hdefault] at hrange
          cases hrange
        · exact absurd ⟨hstart, hstop⟩ (hkeywords.not_within hordered hpart
            (.of_mem_ownRanges (hsound.of_child hpart) hnode hrange))
    · cases hfalse
  · obtain ⟨first, other, last, own, hchildren, hown, hmem⟩ := hexporting.exists_of_mem hmem
    have hother : other ∈ tree.children :=
      Tree.mem_children_of_mem_namedChildren (by simp [hchildren])
    rcases hotherKind : other.isKind .exportStatement with _ | _
    · rw [exportStatement, hotherKind] at hown
      cases hown
      cases hmem
    obtain ⟨form, hotherForm, rfl⟩ := exportStatement_ok hown hotherKind
    have hrange : rangeOf edit ∈ exportRanges source other := by
      rw [exportRanges_eq_map hotherKind hotherForm]
      exact List.mem_map_of_mem hmem
    obtain rfl := houtside hother
      (blockRanges_within htree.toSound hother (exportRanges_subset hrange)) rfl
    rw [hform] at hotherForm
    cases hotherForm
    exact List.mem_singleton.mp hmem

/-- The assignment in place remains. -/
lemma assignInPlace_mem_ordered (hstatement : statement ∈ tree.children)
    (hform : ExportForm.classify source statement = .ok .defaultValue)
    (hkind : statement.isKind .exportStatement) :
    assignInPlace statement ∈ (Edits.ofList edits).ordered := by
  have htree := TypeScript.parse_wellFormed hparse
  have hsound := htree.toSound.of_child hstatement
  obtain ⟨keyword, given, hkeywords⟩ := exists_defaultKeywords
    (TypeScript.parse_parsed hparse statement hstatement).self hsound
    ((TypeScript.parse_spelled hparse).of_child hstatement) (givesDefault_eq hkind hform).symm
  have htwo := hkeywords.two_le hsound.ordered
  have hmem : assignInPlace statement ∈ edits := by
    obtain ⟨erasing, exporting, -, hexporting, rfl⟩ := exists_of_moduleEdits hedits
    have hnamed : statement ∈ tree.namedChildren :=
      List.mem_filter.mpr ⟨hstatement, Tree.isNamed_of_isKind hkind (by decide)⟩
    obtain ⟨first, last, hchildren⟩ := List.append_of_mem hnamed
    rw [hchildren] at hexporting
    obtain ⟨own, hown, hsub⟩ := hexporting.exists_sublist
    obtain ⟨form, hform', rfl⟩ := exportStatement_ok hown hkind
    rw [hform] at hform'
    cases hform'
    exact List.mem_append_right _ (hsub.subset (List.mem_singleton_self _))
  have houtermost := Edits.ofList_outermost (moduleEdits_laminar htree hedits)
  obtain ⟨other, hother, hcovers⟩ := houtermost.covered _ hmem
    (show statement.start < defaultEnd statement by omega)
  rw [← eq_assignInPlace hparse hedits hstatement hform hkind (houtermost.mem hother) hcovers]
  exact Edits.mem_ordered.mpr hother

omit hparse in
/-- Whatever assigns the default in place does so for a statement that gives it as a value. -/
lemma exists_of_text_eq (hmem : edit ∈ edits) (htext : edit.text = some assignText) :
    ∃ statement ∈ tree.children, statement.isKind .exportStatement ∧
      ExportForm.classify source statement = .ok .defaultValue ∧
      edit = assignInPlace statement := by
  rcases moduleEdits_made hedits hmem with ⟨range, -, rfl⟩ | h
  · cases htext
  · cases h with
    | node hnode h => exact absurd (h.beginsOtherwise assignText htext) (by decide)
    | defaultValue hstatement hkind hform => exact ⟨_, hstatement, hkind, hform, rfl⟩

end Module

/-! ### Counting -/

/-- Those of some edits that assign the default in its place. -/
def inPlace (edits : List Edit) : List Edit := edits.filter fun edit => edit.text == some assignText

lemma eq_singleton_of_pairwise {α : Type} {a : α} {r : α → α → Prop} {l : List α}
    (h : l.Pairwise r) (hirrefl : ¬ r a a) (hall : ∀ b ∈ l, b = a) (hmem : a ∈ l) : l = [a] := by
  rcases l with _ | ⟨b, _ | ⟨c, l⟩⟩
  · cases hmem
  · rw [hall b List.mem_cons_self]
  · have hbc := (List.pairwise_cons.mp h).1 c List.mem_cons_self
    rw [hall b (by simp), hall c (by simp)] at hbc
    exact absurd hbc hirrefl

section Module

variable (hparse : TypeScript.parse source = .ok tree)
  (hedits : moduleEdits source tree = .ok (edits, exports))

lemma collect_of_moduleEdits (hedits : moduleEdits source tree = .ok (edits, exports)) :
    ∃ exporting, Exports.collect source .empty tree.namedChildren = .ok (exports, exporting) := by
  simp only [moduleEdits, bind_eq_ok_iff, pure_eq_ok_iff, Prod.exists, Prod.mk.injEq] at hedits
  obtain ⟨_, -, _, exporting, hcollect, -, rfl⟩ := hedits
  exact ⟨exporting, hcollect⟩

include hparse hedits

lemma exists_of_mem_inPlace (hmem : edit ∈ inPlace (Edits.ofList edits).ordered) :
    ∃ statement ∈ tree.namedChildren.filter exportsDefault,
      ExportForm.classify source statement = .ok .defaultValue ∧
        edit = assignInPlace statement := by
  have houtermost := Edits.ofList_outermost
    (moduleEdits_laminar (TypeScript.parse_wellFormed hparse) hedits)
  obtain ⟨hmem, htext⟩ := List.mem_filter.mp hmem
  obtain ⟨statement, hstatement, hkind, hform, rfl⟩ := exists_of_text_eq hedits
    (houtermost.mem (Edits.mem_ordered.mp hmem)) (by simpa using htext)
  exact ⟨statement, List.mem_filter.mpr ⟨List.mem_filter.mpr
    ⟨hstatement, Tree.isNamed_of_isKind hkind (by decide)⟩, (givesDefault_eq hkind hform).symm⟩,
    hform, rfl⟩

/-- A default value is assigned once. -/
lemma inPlace_eq_singleton (hdefaults : tree.namedChildren.filter exportsDefault = [statement])
    (hform : ExportForm.classify source statement = .ok .defaultValue) :
    inPlace (Edits.ofList edits).ordered = [assignInPlace statement] := by
  have htree := TypeScript.parse_wellFormed hparse
  have hlaminar := moduleEdits_laminar htree hedits
  obtain ⟨hmem, hdefault⟩ := List.mem_filter.mp
    (show statement ∈ tree.namedChildren.filter exportsDefault by simp [hdefaults])
  have hkind := isKind_of_exportsDefault hdefault
  have hstatement := Tree.mem_children_of_mem_namedChildren hmem
  refine eq_singleton_of_pairwise
    (((Edits.ofList_outermost hlaminar).ordered_pairwise hlaminar).filter _) ?_
    (fun edit hmem => ?_) (List.mem_filter.mpr
      ⟨assignInPlace_mem_ordered hparse hedits hstatement hform hkind, beq_self_eq_true _⟩)
  · have hsound := htree.toSound.of_child hstatement
    obtain ⟨keyword, given, hkeywords⟩ := exists_defaultKeywords
      (TypeScript.parse_parsed hparse statement hstatement).self hsound
      ((TypeScript.parse_spelled hparse).of_child hstatement) hdefault
    have htwo := hkeywords.two_le hsound.ordered
    change ¬ defaultEnd statement ≤ statement.start
    omega
  · obtain ⟨other, hother, -, rfl⟩ := exists_of_mem_inPlace hparse hedits hmem
    rw [hdefaults] at hother
    rw [List.mem_singleton.mp hother]

/-- A statement that exports the default assigns it once, in its place or after the body. -/
lemma length_inPlace_add :
    (tree.namedChildren.filter exportsDefault).length ≤ 1 ∧
    (inPlace (Edits.ofList edits).ordered).length + exports.defaultName.toList.length =
      (tree.namedChildren.filter exportsDefault).length := by
  obtain ⟨exporting, hcollect⟩ := collect_of_moduleEdits hedits
  obtain ⟨hcount, hname⟩ := collect_defaults hcollect
  refine ⟨hcount, ?_⟩
  have hnone (h : ∀ statement ∈ tree.namedChildren.filter exportsDefault,
      ExportForm.classify source statement ≠ .ok .defaultValue) :
      inPlace (Edits.ofList edits).ordered = [] := by
    refine List.eq_nil_iff_forall_not_mem.mpr fun edit hmem => ?_
    obtain ⟨statement, hstatement, hform, -⟩ := exists_of_mem_inPlace hparse hedits hmem
    exact h statement hstatement hform
  rcases hdefaults : tree.namedChildren.filter exportsDefault with _ | ⟨statement, others⟩
  · rw [hname, hnone (by simp [hdefaults]), hdefaults]
    rfl
  obtain rfl : others = [] := by simpa [hdefaults, Exports.empty] using hcount
  obtain ⟨hmem, hdefault⟩ := List.mem_filter.mp
    (show statement ∈ tree.namedChildren.filter exportsDefault by simp [hdefaults])
  have hkind := isKind_of_exportsDefault hdefault
  obtain ⟨forms, hforms, -⟩ := collect_ok hcollect
  obtain ⟨form, hform⟩ := exists_of_forall₂ hforms (List.mem_filter.mpr ⟨hmem, hkind⟩)
  have hgives := (givesDefault_eq hkind hform).trans hdefault
  rw [hname, hdefaults]
  cases form with
  | typeOnly | declaration | list => cases hgives
  | defaultDeclaration name =>
    rw [hnone (by simp [hdefaults, hform])]
    simp [declaredDefault?, hform]
  | defaultValue =>
    rw [inPlace_eq_singleton hparse hedits hdefaults hform]
    simp [declaredDefault?, hform, Exports.empty]

end Module

/-! ### Names of lists -/

/-- Whether a string literal names the default. -/
def namesDefault (literal : String) : Bool :=
  match Script.Token.read literal.toList with
  | some (.text value _, []) => value == .ofString "default"
  | _                        => false

/-- The literals that name the default among those of some bindings. -/
def defaultLiterals (bindings : List Binding) : List String :=
  (bindings.map Binding.literal).filter namesDefault

/-- There is one getter for each literal that names the default. -/
lemma FirstOccurrences.length_defaultLiterals {all kept : List Binding}
    (h : FirstOccurrences all kept) :
    (defaultLiterals kept).length = (defaultLiterals all).dedup.length := by
  refine List.Perm.length_eq ?_
  refine (List.perm_ext_iff_of_nodup (h.distinct.filter _) (List.nodup_dedup _)).mpr
    fun literal => ?_
  simp only [List.mem_dedup, defaultLiterals, List.mem_filter]
  refine and_congr_left fun _ => ⟨fun hmem => ?_, fun hmem => ?_⟩
  · exact (h.sublist.map _).subset hmem
  · obtain ⟨binding, hbinding, rfl⟩ := List.mem_map.mp hmem
    obtain ⟨first, hfirst, hfind⟩ := h.first binding hbinding
    exact List.mem_map.mpr ⟨first, hfirst, by simpa using List.find?_some hfind⟩

/-- What the statements of a module name is what it exports. -/
lemma namedExports_of_moduleEdits (hparse : TypeScript.parse source = .ok tree)
    (hedits : moduleEdits source tree = .ok (edits, exports)) :
    ∃ entries, List.Forall₂ (NamedExports source)
        (tree.children.filter (Tree.isKind .exportStatement)) entries ∧
      exports.bindings = entries.flatten := by
  have htree := TypeScript.parse_wellFormed hparse
  have hparsed := TypeScript.parse_parsed hparse
  obtain ⟨forms, hforms, hbindings⟩ := exports_of_moduleEdits hedits
  refine ⟨forms.map ExportForm.bindings, ?_, hbindings⟩
  have hstatements : ∀ statement ∈ tree.children.filter (Tree.isKind .exportStatement),
      statement ∈ tree.children ∧ statement.isKind .exportStatement :=
    fun statement hmem => List.mem_filter.mp hmem
  rw [List.forall₂_map_right_iff]
  refine (List.forall₂_and_left _ _ |>.mpr ⟨hstatements, hforms⟩).imp ?_
  rintro statement form ⟨⟨hmem, hkind⟩, hform⟩
  exact classify_namedExports (hparsed statement hmem).self (htree.nested.of_child hmem) hkind hform

/-! ### Scripts -/

/-- How often a script with these getters, edits of the body and exports binds the default: by a
getter, by the assignment in place and by that after the body. -/
def defaultBindings (getters : List Binding) (ordered : List Edit) (exports : Exports) : Nat :=
  (defaultLiterals getters).length + (inPlace ordered).length + exports.defaultName.toList.length

end Stencil.Erasure
