import Stencil.Proofs.Sealing
import Stencil.Proofs.Transpile

/-!
# What becomes of the syntax of types

All syntax of types is taken out of a module, wherever it stands, but for the word `readonly` before
the name of a method (`transpile_types`). What is not blanked stands in the ranges of generated
texts, of which only those of enums hold more of the source than names: an initializer is taken over
with the types in it.
-/

namespace Stencil.Erasure

open Text
open TypeScript (Tree Kind Span)

variable {source : List Char} {tree node child : Tree} {edits : List Edit} {exports : Exports}

/-! ### Parts of a module -/

/-- The marks that have a use for types only, among the children of a node of this kind. -/
def typeMarks : Kind → List String
  | .requiredParameter | .optionalParameter | .methodDefinition => ["?"]
  | .publicFieldDefinition                                      => ["?", "!"]
  | .variableDeclarator | .nonNullExpression                    => ["!"]
  | _                                                           => []

/-- Whether a node is the word `readonly` before the name of a method. -/
def IsMethodReadonly (tree node : Tree) : Prop :=
  ∃ method ∈ tree.nodes, method.isKind .methodDefinition ∧ node ∈ method.children ∧
    node.isToken "readonly"

lemma IsMethodReadonly.of_child (hchild : child ∈ tree.children) (h : IsMethodReadonly child node) :
    IsMethodReadonly tree node := by
  obtain ⟨method, hmethod, h⟩ := h
  exact ⟨method, Tree.mem_nodes_iff.mpr (.inr ⟨child, hchild, hmethod⟩), h⟩

/-- The ranges of a module that are syntax of types: nodes and words that are wherever they stand,
but for `readonly` before the name of a method, marks of declarations and values, what comes after
the value of an assertion, `this` parameters, and exports of nothing but types. -/
inductive IsTypeRange (tree : Tree) : Span → Prop where
  | symbol {node : Tree} (hnode : node ∈ tree.nodes) (hsymbol : node.symbol.isTypeLevel)
      (hmethod : ¬ IsMethodReadonly tree node) : IsTypeRange tree node.span
  | mark {node mark : Tree} {kind : Kind} {text : String} (hnode : node ∈ tree.nodes)
      (hkind : node.isKind kind) (hmark : mark ∈ node.children) (htext : text ∈ typeMarks kind)
      (htoken : mark.isToken text) : IsTypeRange tree mark.span
  | rest {node value : Tree} (hnode : node ∈ tree.nodes) (hassertion : isAssertion node)
      (hvalue : node.namedChildren.head? = some value) : IsTypeRange tree ⟨value.stop, node.stop⟩
  | this {node parameter : Tree} (hnode : node ∈ tree.nodes) (hkind : node.isKind .formalParameters)
      (hparameter : parameter ∈ node.children) (hthis : isThisParameter parameter) :
      IsTypeRange tree parameter.span
  | exported {statement : Tree} (hstatement : statement ∈ tree.nodes)
      (hkind : statement.isKind .exportStatement) (htypes : isTypeExport statement) :
      IsTypeRange tree statement.span

/-! ### Ranges that are taken out -/

/-- Whether a range lies in one that a node other than a namespace takes out. -/
def TakenBy (source : List Char) (node : Tree) (span : Span) : Prop :=
  isNamespace node = false ∧
    ∃ range ∈ ownRanges source node, range.start ≤ span.start ∧ span.stop ≤ range.stop

/-- Whether a range lies in one that a node of a tree takes out. -/
def TakenOut (source : List Char) (tree : Tree) (span : Span) : Prop :=
  ∃ node ∈ tree.nodes, TakenBy source node span

lemma TakenOut.of_child {span : Span} (hchild : child ∈ tree.children)
    (h : TakenOut source child span) : TakenOut source tree span := by
  obtain ⟨node, hnode, htaken⟩ := h
  exact ⟨node, Tree.mem_nodes_iff.mpr (.inr ⟨child, hchild, hnode⟩), htaken⟩

lemma TakenBy.takenOut {span : Span} (h : TakenBy source tree span) : TakenOut source tree span :=
  ⟨tree, Tree.mem_nodes_self tree, h⟩

/-- What is erased as a whole takes out all that is in it. -/
lemma TakenBy.of_erased {span : Span} (h : isErasedMember tree || isErased tree)
    (hwithin : Within tree span) : TakenBy source tree span := by
  refine ⟨Bool.eq_false_iff.mpr fun hnamespace => ?_, tree.span, ?_, hwithin.start, hwithin.stop⟩
  · have hkept := not_isErased_of_isNamespace hnamespace
    rw [h] at hkept
    cases hkept
  · simp [ownRanges, h]

/-- The words and marks of a node that are blanked are taken out. -/
lemma TakenBy.of_keyword {kind : Kind} {text : String} (htree : tree.Sound source)
    (hkind : tree.isKind kind) (hchild : child ∈ tree.children) (htext : text ∈ keywords kind)
    (htoken : child.isToken text) : TakenBy source tree child.span := by
  rcases herased : isErasedMember tree || isErased tree with _ | _
  · have hsymbol := Tree.isKind_iff.mp hkind
    have hother : tree.isKind .enumDeclaration = false ∧ isNamespace tree = false ∧
        isAssertion tree = false := by
      unfold keywords at htext
      split at htext <;> simp_all [isNamespace, isAssertion, Tree.isKind]
    obtain ⟨henum, hnamespace, hassertion⟩ := hother
    refine ⟨hnamespace, child.span, ?_, Nat.le_refl _, Nat.le_refl _⟩
    have hkept : kind ∉ [.classBody, .formalParameters, .arrowFunction] := by
      rintro hmem
      simp only [List.mem_cons, List.not_mem_nil, or_false] at hmem
      rcases hmem with rfl | rfl | rfl <;> cases htext
    have hown : ownRanges source tree = keywordRanges (keywords kind) tree.children := by
      rw [← @markRanges_of_keywords source _ _ hsymbol hkept]
      simp [ownRanges, herased, henum, hnamespace, hassertion]
    rw [hown]
    exact mem_keywordRanges.mpr ⟨child, hchild, ⟨text, htext, htoken⟩, rfl⟩
  · have hspan := htree.ordered.mem hchild
    exact .of_erased herased ⟨hspan.1, hspan.2.1, hspan.2.2⟩

lemma typeMarks_subset (kind : Kind) : typeMarks kind ⊆ keywords kind := by
  cases kind <;> decide

/-- The rest of an assertion after its value is taken out. -/
lemma TakenBy.of_assertion {value : Tree} (hassertion : isAssertion tree)
    (hvalue : tree.namedChildren.head? = some value) :
    TakenBy source tree ⟨value.stop, tree.stop⟩ := by
  refine ⟨not_isNamespace_of_isAssertion hassertion, ⟨value.stop, tree.stop⟩, ?_, Nat.le_refl _,
    Nat.le_refl _⟩
  simp [ownRanges_eq_assertionRanges hassertion, assertionRanges, hvalue]

lemma exists_thisRange {lo hi : Nat} {trees : List Tree} (h : Tree.Ordered lo hi trees)
    (hchild : child ∈ trees) (hthis : isThisParameter child) :
    ∃ range ∈ thisRanges trees, range.start ≤ child.start ∧ child.stop ≤ range.stop := by
  induction trees generalizing lo with
  | nil => cases hchild
  | cons tree trees ih =>
    rw [thisRanges]
    rcases List.mem_cons.mp hchild with rfl | hchild
    · rw [if_pos hthis]
      refine ⟨_, List.mem_cons_self, Nat.le_refl _, ?_⟩
      rcases hnext : trees.head?.filter (Tree.isToken ",") with _ | next
      · exact Nat.le_refl _
      · have := h.2.2.mem (List.mem_of_head? (Option.filter_eq_some_iff.mp hnext).1)
        exact Nat.le_trans this.1 this.2.1
    · obtain ⟨range, hrange, hspans⟩ := ih h.2.2 hchild
      split
      · exact ⟨range, List.mem_cons_of_mem _ hrange, hspans⟩
      · exact ⟨range, hrange, hspans⟩

/-- `this` parameters are taken out. -/
lemma TakenBy.of_this (htree : tree.Sound source) (hkind : tree.isKind .formalParameters)
    (hchild : child ∈ tree.children) (hthis : isThisParameter child) :
    TakenBy source tree child.span := by
  have hsymbol := Tree.isKind_iff.mp hkind
  refine ⟨by simp [isNamespace, Tree.isKind, hsymbol], ?_⟩
  rw [ownRanges_eq_markRanges (by simp [takingKinds, typeKinds, Tree.isKind, hsymbol]), markRanges,
    hsymbol]
  exact exists_thisRange htree.ordered hchild hthis

/-- The words that modify a declaration are taken out, but for `readonly` in a method. -/
lemma takenBy_of_modifier {text : String} (htree : tree.Sound source)
    (hchild : child ∈ tree.children) (htext : text ∈ tree.symbol.modifiers)
    (htoken : child.isToken text) :
    TakenBy source tree child.span ∨ tree.isKind .methodDefinition ∧ child.isToken "readonly" := by
  have of_keyword {kind : Kind} (hsymbol : tree.symbol = .kind kind)
      (hword : text ∈ keywords kind) : TakenBy source tree child.span :=
    .of_keyword htree (Tree.isKind_iff.mpr hsymbol) hchild hword htoken
  unfold TypeScript.Symbol.modifiers at htext
  split at htext
  next hsymbol => exact .inl (of_keyword hsymbol (by simp_all [keywords]))
  next hsymbol => exact .inl (of_keyword hsymbol (by simp_all [keywords]))
  next hsymbol =>
    rw [List.mem_singleton.mp htext] at htoken
    exact .inr ⟨Tree.isKind_iff.mpr hsymbol, htoken⟩
  next hsymbol =>
    have of_declared (hdeclared : text ∈ ["declare", "abstract"]) :
        TakenBy source tree child.span := by
      have hhas : tree.hasToken text := List.find?_isSome.mpr ⟨child, hchild, htoken⟩
      have hspan := htree.ordered.mem hchild
      refine .of_erased ?_ ⟨hspan.1, hspan.2.1, hspan.2.2⟩
      simp only [List.mem_cons, List.not_mem_nil, or_false] at hdeclared
      rcases hdeclared with rfl | rfl <;> simp [isErasedMember, Tree.isKind, hsymbol, hhas]
    rcases List.mem_append.mp (show text ∈ ["declare", "abstract"] ++ ["readonly"] from htext) with
      htext | htext
    · exact .inl (of_declared htext)
    · exact .inl (of_keyword hsymbol (by simp_all [keywords]))
  next hsymbol => exact .inl (of_keyword hsymbol (by simp_all [keywords]))
  next => cases htext

/-! ### All syntax of types -/

lemma exists_part (htree : tree.Sound source) (hself : tree.symbol.isTypeLevel = false)
    (hnode : node ∈ tree.nodes) (hlevel : node.symbol.isTypeLevel) :
    ∃ part ∈ tree.parts, node ∈ part.nodes := by
  rcases Tree.mem_nodes_iff.mp hnode with rfl | ⟨child, hchild, hnode⟩
  · simp [hself] at hlevel
  refine ⟨child, Tree.mem_parts hchild (Bool.eq_false_iff.mpr fun hcomment => ?_), hnode⟩
  rcases Tree.mem_nodes_iff.mp hnode with rfl | ⟨other, hother, -⟩
  · rw [Tree.isKind_iff.mp hcomment] at hlevel
    cases hlevel
  · rw [(htree.of_child hchild).regular.self.comment hcomment] at hother
    cases hother

/-- In a sealed tree, nodes and words that belong to the syntax of types are taken out, but for the
tree itself when it is one of the words that are allowed, and for `readonly` in methods. -/
lemma takenOut_of_sealed {words : List String} (hsealed : tree.Sealed words)
    (htree : tree.Sound source) (hnode : node ∈ tree.nodes) (hlevel : node.symbol.isTypeLevel) :
    (node = tree ∧ ∃ text ∈ words, tree.isToken text) ∨ TakenOut source tree node.span ∨
      IsMethodReadonly tree node := by
  induction hsealed with
  | whole h =>
    have hwithin := Within.of_mem_nodes htree.nested hnode
    exact .inr (.inl (TakenBy.of_erased (by simp [isErasedMember, h]) hwithin).takenOut)
  | word hword htoken hchildren =>
    rcases Tree.mem_nodes_iff.mp hnode with rfl | ⟨child, hchild, -⟩
    · exact .inl ⟨rfl, _, hword, htoken⟩
    · rw [hchildren] at hchild
      cases hchild
  | @assertion _ tree value rest hassertion hparts hnamed _ ih =>
    have hself : tree.symbol.isTypeLevel = false := by
      rcases isAssertion_iff.mp hassertion with h | h <;> rw [h] <;> rfl
    obtain ⟨part, hpart, hnode⟩ := exists_part htree hself hnode hlevel
    have hchild := (List.mem_filter.mp hpart).1
    have hsound := htree.of_child hchild
    have hordered : Tree.Ordered tree.start tree.stop (value :: rest) :=
      hparts ▸ htree.ordered.sublist List.filter_sublist
    rw [hparts] at hpart
    rcases List.mem_cons.mp hpart with rfl | hpart
    · rcases ih hsound hnode with ⟨-, _, hword, -⟩ | htaken | hreadonly
      · cases hword
      · exact .inr (.inl (htaken.of_child hchild))
      · exact .inr (.inr (hreadonly.of_child hchild))
    · have hvalue : tree.namedChildren.head? = some value := by
        rw [Tree.namedChildren_eq, hparts, List.filter_cons_of_pos hnamed, List.head?_cons]
      have hwithin := Within.of_mem_nodes hsound.nested hnode
      have hafter := hordered.2.2.mem hpart
      obtain ⟨hnamespace, range, hrange, hstart, hstop⟩ :=
        @TakenBy.of_assertion source tree value hassertion hvalue
      refine .inr (.inl (TakenBy.takenOut ⟨hnamespace, range, hrange, ?_, ?_⟩))
      · exact Nat.le_trans hstart (Nat.le_trans hafter.1 hwithin.start)
      · exact Nat.le_trans hwithin.stop (Nat.le_trans hafter.2.2 hstop)
  | @node _ tree hsymbol hparts ih =>
    obtain ⟨part, hpart, hnode⟩ := exists_part htree hsymbol hnode hlevel
    have hchild := (List.mem_filter.mp hpart).1
    rcases ih part hpart (htree.of_child hchild) hnode with
      ⟨rfl, text, htext, htoken⟩ | htaken | hreadonly
    · rcases takenBy_of_modifier htree hchild htext htoken with htaken | ⟨hkind, hreadonly⟩
      · exact .inr (.inl htaken.takenOut)
      · exact .inr (.inr ⟨tree, Tree.mem_nodes_self tree, hkind, hchild, hreadonly⟩)
    · exact .inr (.inl (htaken.of_child hchild))
    · exact .inr (.inr (hreadonly.of_child hchild))

/-- All syntax of types is taken out of a module. -/
lemma IsTypeRange.takenOut (hsealed : tree.Sealed []) (htree : tree.Sound source) {span : Span}
    (h : IsTypeRange tree span) : TakenOut source tree span := by
  cases h with
  | symbol hnode hsymbol hmethod =>
    rcases takenOut_of_sealed hsealed htree hnode hsymbol with
      ⟨-, _, hword, -⟩ | htaken | hreadonly
    · cases hword
    · exact htaken
    · exact absurd hreadonly hmethod
  | @mark node mark kind text hnode hkind hmark htext htoken =>
    exact ⟨node, hnode,
      .of_keyword (htree.of_mem hnode) hkind hmark (typeMarks_subset kind htext) htoken⟩
  | rest hnode hassertion hvalue => exact ⟨_, hnode, .of_assertion hassertion hvalue⟩
  | this hnode hkind hparameter hthis =>
    exact ⟨_, hnode, .of_this (htree.of_mem hnode) hkind hparameter hthis⟩
  | exported hstatement hkind htypes =>
    exact ⟨_, hstatement, .of_erased (by simp [isErased, hkind, htypes])
      (.span (htree.of_mem hstatement).nested.self.le)⟩

/-- What is taken out of a module is covered by an edit. -/
lemma TakenOut.spans {span : Span} (htree : tree.WellFormed source)
    (hedits : moduleEdits source tree = .ok (edits, exports)) (h : TakenOut source tree span) :
    ∃ edit ∈ edits, Spans edit span := by
  obtain ⟨node, hnode, hnamespace, range, hrange, hstart, hstop⟩ := h
  obtain ⟨erasing, exporting, herasing, -, rfl⟩ := exists_of_moduleEdits hedits
  have hclosed : ClosedByBrace node := fun h => by simp [hnamespace] at h
  obtain ⟨edit, hedit, hspans⟩ := (erase_reaches htree.toSound herasing hnode).spans
    (htree.toSound.of_mem hnode) hclosed hrange
  exact ⟨edit, List.mem_append_left _ hedit, Nat.le_trans hspans.1 hstart,
    Nat.le_trans hstop hspans.2⟩

end Stencil.Erasure

namespace Stencil

open Text Erasure
open TypeScript (Tree)

/-- The script of a module is its text between the header and the footer, where all syntax of types
lies in ranges that are not copied: they are blanked, or replaced by texts that the module calls
for. -/
theorem transpile_types {source file script : String} (h : transpile source file = .ok script) :
    ∃ tree edits exports generated body, TypeScript.parse source.toList = .ok tree ∧
      moduleEdits source.toList tree = .ok (edits, exports) ∧
      script = String.ofList (exports.header.toList ++ body ++ exports.footer.toList) ∧
      generated.Subperm edits ∧
      (∀ edit ∈ generated, ModuleGenerates source.toList tree edit) ∧
      Copied (edits.map rangeOf) generated 0 source.toList body ∧
      ∀ range, IsTypeRange tree range → ∀ offset, range.start ≤ offset → offset < range.stop →
        Lies (edits.map rangeOf) offset := by
  obtain ⟨tree, edits, exports, body, hparse, hedits, hbody, rfl⟩ := transpile_ok h
  have htree := TypeScript.parse_wellFormed hparse
  have hlaminar := moduleEdits_laminar htree hedits
  obtain ⟨hsub, hgenerates⟩ := generates_of_moduleEdits htree hedits
  refine ⟨tree, edits, exports, _, body, hparse, hedits, rfl, hsub, hgenerates,
    Edits.applyTo?_copied_outside hlaminar hbody, fun range hrange offset hstart hstop => ?_⟩
  obtain ⟨edit, hedit, hspans⟩ :=
    (hrange.takenOut (TypeScript.parse_sealed hparse) htree.toSound).spans htree hedits
  exact ⟨rangeOf edit, List.mem_map_of_mem hedit, Nat.le_trans hspans.1 hstart,
    Nat.lt_of_lt_of_le hstop hspans.2⟩

/-- An annotation is blanked. The assertion in the initializer of an enum is in the range of the
enum, but the text of the enum takes it over. -/
theorem transpile_types_enum :
    ∃ tree edits generated body,
      transpile "let a:T;enum E\x7bA=1 as T\x7d" "BP/e.ts" =
        .ok (String.ofList (Exports.empty.header.toList ++ body)) ∧
      body = "let a  ;".toList ++ ("var E; (function (E) \x7b E[E[\"A\"] = 1 as T] = \"A\"; " ++
        "\x7d)(E || (E = \x7b\x7d));").toList ∧
      TypeScript.parse "let a:T;enum E\x7bA=1 as T\x7d".toList = .ok tree ∧
      moduleEdits "let a:T;enum E\x7bA=1 as T\x7d".toList tree = .ok (edits, .empty) ∧
      Copied (edits.map rangeOf) generated 0 "let a:T;enum E\x7bA=1 as T\x7d".toList body ∧
      IsTypeRange tree ⟨5, 7⟩ ∧ Lies (edits.map rangeOf) 5 ∧
      IsTypeRange tree ⟨18, 23⟩ ∧ Lies (edits.map rangeOf) 22 := by
  have heval : ((TypeScript.parse "let a:T;enum E\x7bA=1 as T\x7d".toList).toOption.map fun tree =>
      ((moduleEdits "let a:T;enum E\x7bA=1 as T\x7d".toList tree).toOption,
        (tree.nodes.filter (Tree.isKind .typeAscription)).map Tree.span,
        (tree.nodes.filter isAssertion).map fun node =>
          (node.namedChildren.head?.map Tree.stop, node.stop))) =
      some (some ([.blank 5 7, .replace 8 24 ("var E; (function (E) \x7b E[E[\"A\"] = 1 as T] = " ++
        "\"A\"; \x7d)(E || (E = \x7b\x7d));")], .empty), [⟨5, 7⟩], [(some 18, 23)]) := by
    decide +kernel
  obtain ⟨tree, hparse, heval⟩ := exists_of_parse heval
  simp only [Prod.mk.injEq] at heval
  obtain ⟨hedits, hannotations, hassertions⟩ := heval
  have hedits := toOption_eq_some hedits
  have hbody : (Edits.ofList [.blank 5 7, .replace 8 24 ("var E; (function (E) \x7b " ++
      "E[E[\"A\"] = 1 as T] = \"A\"; \x7d)(E || (E = \x7b\x7d));")]).applyTo?
      "let a:T;enum E\x7bA=1 as T\x7d".toList = some ("let a  ;".toList ++
        ("var E; (function (E) \x7b E[E[\"A\"] = 1 as T] = \"A\"; " ++
          "\x7d)(E || (E = \x7b\x7d));").toList) := by
    rw [Edits.applyTo?, List.mergeSort_of_pairwise (by decide)]
    decide
  have hannotation : IsTypeRange tree ⟨5, 7⟩ := by
    obtain ⟨node, hnode, hspan⟩ := List.mem_map.mp
      (hannotations ▸ List.mem_singleton_self (⟨5, 7⟩ : TypeScript.Span))
    obtain ⟨hnode, hkind⟩ := List.mem_filter.mp hnode
    rw [Tree.isKind_iff] at hkind
    rw [← hspan]
    refine .symbol hnode (by rw [hkind]; decide) ?_
    rintro ⟨_, _, _, _, htoken⟩
    simp [Tree.isToken, hkind] at htoken
  have hassertion : IsTypeRange tree ⟨18, 23⟩ := by
    obtain ⟨node, hnode, heq⟩ := List.mem_map.mp
      (hassertions ▸ List.mem_singleton_self (some 18, 23))
    obtain ⟨hnode, hassertion⟩ := List.mem_filter.mp hnode
    obtain ⟨hvalue, hstop⟩ := Prod.mk.inj heq
    obtain ⟨value, hvalue, hstart⟩ := Option.map_eq_some_iff.mp hvalue
    rw [← hstart, ← hstop]
    exact .rest hnode hassertion hvalue
  have hscript := transpile_eq "BP/e.ts" hparse hedits hbody
  obtain ⟨tree', edits', exports', generated, body, hparse', hedits', heq, -, -, hcopied,
    hranges⟩ := transpile_types hscript
  rw [hparse] at hparse'
  cases hparse'
  rw [hedits] at hedits'
  cases hedits'
  rw [heq] at hscript
  have heq := congrArg String.toList heq
  simp only [String.toList_ofList, List.append_cancel_right_eq, List.append_cancel_left_eq] at heq
  refine ⟨tree, _, generated, body, ?_, heq.symm, hparse, hedits, hcopied, hannotation,
    hranges _ hannotation 5 (by decide) (by decide), hassertion,
    hranges _ hassertion 22 (by decide) (by decide)⟩
  rw [hscript]
  simp only [Exports.footer, Exports.empty, String.toList_empty, List.append_nil]

end Stencil
