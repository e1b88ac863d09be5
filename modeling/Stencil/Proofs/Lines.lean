import Stencil.Proofs.ReturnTypes

/-!
# Lines of a module and of its script

Each edit of a module is level or moves the line feeds of a return type behind the arrow, in the
order in which edits are made: before a node is erased, whatever was made lies beside it
(`erase_balanced`). So the characters that are copied keep their lines, but for those between a
return type and the end of the arrow (`transpile_lines`).
-/

namespace Stencil.Erasure

open Text
open TypeScript (Tree Kind Span OneLine)

variable {source : List Char} {tree arrow : Tree} {edits : List Edit} {exports : Exports}

/-! ### Balance -/

/-- A walk along trees is balanced when its steps are, as long as what was made before lies beside
the scopes in the trees. -/
lemma Walks.balanced {step : Option Tree → Tree → Except Flaw (List Edit)}
    {moves : Edit → Edit → Prop} {trees : List Tree} {before edits : List Edit}
    (h : Walks step trees edits)
    (hstep : ∀ tree rest own before, tree :: rest <:+ trees → step rest.head? tree = .ok own →
      AllBeside tree before → Balanced source moves before own)
    (hlater : ∀ tree rest own, tree :: rest <:+ trees → step rest.head? tree = .ok own →
      ∀ other ∈ rest, AllBeside other own)
    (hbefore : ∀ tree ∈ trees, AllBeside tree before) : Balanced source moves before edits := by
  induction h generalizing before with
  | nil => exact .nil
  | @cons tree trees own rest hown _ ih =>
    have hsuffix := List.suffix_cons tree trees
    obtain ⟨htree, htrees⟩ := List.forall_mem_cons.mp hbefore
    refine (hstep tree trees own before (List.suffix_refl _) hown htree).append ?_
    refine ih (fun _ _ _ _ h => hstep _ _ _ _ (h.trans hsuffix))
      (fun _ _ _ h => hlater _ _ _ (h.trans hsuffix)) fun other hother => ?_
    exact (htrees other hother).append
      (hlater tree trees own (List.suffix_refl _) hown other hother)

section Erase

variable (htree : tree.WellFormed source)
  (hparsed : ∀ child ∈ tree.children, child.Every (Tree.Parsed source))
  (hnames : tree.Every (NamesOnOneLine source))
include htree hparsed

/-- What a node makes is level, unless it moves the line feeds of a return type. -/
lemma makes_level {node : Tree} {edit : Edit} (hnames : tree.Every (NamesOnOneLine source))
    (hnode : node ∈ tree.nodes) (h : Makes source node edit) :
    edit.gain source = 0 ∨ node.isKind .arrowFunction ∧ edit ∈ moveReturnType source node := by
  rcases Tree.mem_nodes_iff.mp hnode with rfl | ⟨statement, hstatement, hin⟩
  · have hprogram := Tree.isKind_iff.mp htree.isProgram
    rcases h with ⟨range, -, rfl⟩ | h
    · exact .inl (Edit.gain_of_blank rfl)
    · cases h <;> simp_all [isNamespace, Tree.isKind]
  · exact Makes.level ((hparsed statement hstatement).of_mem hin) (htree.toSound.of_mem hnode)
      (hnames.of_mem hnode) h

/-- What an arrow function makes for its return type moves line feeds. -/
lemma balanced_moveReturnType {before : List Edit} (hmem : arrow ∈ tree.nodes)
    (hkind : arrow.isKind .arrowFunction) (hbefore : AllBeside arrow before) :
    Balanced source (MovesReturnType source tree) before (moveReturnType source arrow) := by
  rcases moveReturnType_cases source arrow with hnone | ⟨type, token, htype, htoken, hfeeds, hpair⟩
  · rw [hnone]
    exact .nil
  have harrow : HasReturnType tree arrow type token := ⟨hmem, hkind, htype, htoken⟩
  have hforward := harrow.forward htree hfeeds
  have hordered := harrow.ordered htree hparsed
  rw [hpair]
  refine .moved (.intro harrow hfeeds) (fun edit hedit heq => ?_) .nil
  obtain ⟨heq, heq'⟩ := Span.mk.inj heq
  have := hbefore arrow (Tree.mem_nodes_self arrow) (isScope_of_arrow hkind) edit hedit
  simp only [Beside, rangeOf, Edit.replace, Tree.start, Tree.stop] at *
  omega

include hnames

/-- What is made for the statements of a namespace is balanced when what is made for each is, as
long as what was made before lies beside the scopes in the body. -/
lemma balanced_statements {node body : Tree} {name : String} {before inner : List Edit}
    (hnode : node ∈ tree.nodes) (hnamespace : isNamespace node)
    (hform : NamespaceForm.ofTree source node = .ok (.present name body))
    (hinner : eraseStatements source name body.children = .ok inner)
    (hstep : ∀ statement ∈ body.children, ∀ {next before own},
      erase source false next statement = .ok own → AllBeside statement before →
      Balanced source (MovesReturnType source tree) before own)
    (hbefore : AllBeside body before) :
    Balanced source (MovesReturnType source tree) before inner := by
  have hsound := htree.toSound.of_mem hnode
  have hbody := Tree.mem_of_child? (child?_of_present hform).2
  have hbodySound := hsound.of_child hbody
  have hbeside {statement other : Tree} {exported : List Edit}
      (hstatement : statement ∈ body.children)
      (hexported : exportInNamespace source name statement = .ok exported)
      (hother : other ∈ body.children) : AllBeside other exported :=
    (Makes.allBeside hsound (exportInNamespace_made hnamespace hform hstatement hexported)
      hbody).of_mem (Tree.mem_nodes_of_mem_children hother)
  refine (walks_of_eraseStatements hinner).balanced ?_ ?_ ?_
  · intro statement rest own before hsuffix hown hbefore
    obtain ⟨exported, hexported, inner, hinner, rfl⟩ := eraseStatement_ok.mp hown
    have hmem := hsuffix.subset List.mem_cons_self
    have hmakes := exportInNamespace_made hnamespace hform hmem hexported
    have hlevel : ∀ edit ∈ exported, edit.gain source = 0 := fun edit hedit =>
      (makes_level htree hparsed hnames hnode (hmakes edit hedit)).resolve_right fun h =>
        not_isArrow_of_isNamespace hnamespace h.1
    exact (Balanced.of_level hlevel).append
      (hstep statement hmem hinner (hbefore.append (hbeside hmem hexported hmem)))
  · intro statement rest own hsuffix hown other hother
    obtain ⟨exported, hexported, inner, hinner, rfl⟩ := eraseStatement_ok.mp hown
    have hmem := hsuffix.subset List.mem_cons_self
    have hmem' := hsuffix.subset (List.mem_cons_of_mem _ hother)
    exact (hbeside hmem hexported hmem').append
      (erase_allBeside (hbodySound.ordered.sublist hsuffix.sublist) (hbodySound.of_child hmem)
        hinner (show other ∈ [] ++ rest from hother) (hbodySound.of_child hmem'))
  · intro statement hstatement
    exact hbefore.of_mem (Tree.mem_nodes_of_mem_children hstatement)

/-- What is made for a node is balanced, as long as what was made before lies beside the scopes
in it. -/
theorem erase_balanced {node : Tree} {inClass : Bool} {next : Option Tree}
    {before edits : List Edit} (hnode : node ∈ tree.nodes)
    (h : erase source inClass next node = .ok edits) (hbefore : AllBeside node before) :
    Balanced source (MovesReturnType source tree) before edits := by
  induction node using Tree.ofNodes generalizing inClass next before edits with
  | h node ih =>
    have hsound := htree.toSound.of_mem hnode
    have hchild {child : Tree} (hchild : child ∈ node.children) : child ∈ tree.nodes :=
      Tree.nodes_subset hnode (Tree.mem_nodes_of_mem_children hchild)
    have hlevel {edit : Edit} (hkind : node.isKind .arrowFunction = false)
        (h : Makes source node edit) : edit.gain source = 0 :=
      (makes_level htree hparsed hnames hnode h).resolve_right fun h => by simp [hkind] at h
    cases erase_erases h with
    | member =>
      refine .of_level fun edit hedit => ?_
      rcases mem_blankMember hedit with rfl | ⟨-, separator, -, -, rfl⟩ <;>
        exact Edit.gain_of_blank rfl
    | whole | absent => exact .level (Edit.gain_of_blank rfl) .nil
    | enumeration hkind hedit =>
      have harrow : node.isKind .arrowFunction = false := by
        rw [Tree.isKind_iff] at hkind
        simp [Tree.isKind, hkind]
      exact .level (hlevel harrow (.inr (.enumeration hkind hedit))) .nil
    | assertion hassertion hchildren hfirst hvalue hinner =>
      rename_i first last value inner
      have hvalue : value ∈ node.children := by simp [hchildren]
      have hmakes : Makes source node (.blank value.stop node.stop) := by
        refine .inl ⟨⟨value.stop, node.stop⟩, ?_, rfl⟩
        rw [ownRanges_of_isAssertion hassertion hchildren hfirst ‹_›]
        exact List.mem_singleton_self _
      refine .level (Edit.gain_of_blank rfl) ?_
      refine ih value hvalue value (Tree.mem_nodes_self value) (hchild hvalue) hinner ?_
      exact (hbefore.of_mem (Tree.mem_nodes_of_mem_children hvalue)).append
        (Makes.allBeside hsound (List.forall_mem_singleton.mpr hmakes) hvalue)
    | present hnamespace hform hinner =>
      rename_i name body inner
      have hbody := Tree.mem_of_child? (child?_of_present hform).2
      have hmakes : ∀ edit ∈ namespaceFrame source node body name, Makes source node edit :=
        fun edit hedit => .inr (.frame hnamespace hform hedit)
      have harrow := Bool.eq_false_iff.mpr (not_isArrow_of_isNamespace hnamespace)
      refine (Balanced.of_level fun edit hedit => hlevel harrow (hmakes edit hedit)).append ?_
      refine balanced_statements htree hparsed hnames hnode hnamespace hform hinner
        (fun statement hstatement _ _ _ hown hbefore => ?_)
        ((hbefore.of_mem (Tree.mem_nodes_of_mem_children hbody)).append
          (Makes.allBeside hsound hmakes hbody))
      have hstatement := Tree.mem_nodes_of_mem_children hstatement
      exact ih body hbody statement hstatement (Tree.nodes_subset (hchild hbody) hstatement) hown
        hbefore
    | parts hkept hown hinner =>
      rename_i own inner
      have hmakes : ∀ edit ∈ own, Makes source node edit :=
        fun edit hedit => ownEdits_made hkept hown hedit
      have hbalanced : Balanced source (MovesReturnType source tree) before own := by
        rcases harrow : node.isKind .arrowFunction with _ | _
        · exact .of_level fun edit hedit => hlevel harrow (hmakes edit hedit)
        · rw [ownEdits, Tree.isKind_iff.mp harrow] at hown
          cases hown
          exact balanced_moveReturnType htree hparsed hnode harrow hbefore
      refine hbalanced.append ((walks_of_eraseAmong hinner).balanced ?_ ?_ ?_)
      · intro child rest own before hsuffix hown hbefore
        have hmem := hsuffix.subset List.mem_cons_self
        exact ih child hmem child (Tree.mem_nodes_self child) (hchild hmem) hown hbefore
      · intro child rest own hsuffix hown other hother
        refine erase_allBeside (hsound.ordered.sublist hsuffix.sublist)
          (hsound.of_child (hsuffix.subset List.mem_cons_self)) hown
          (show other ∈ [] ++ rest from hother)
          (hsound.of_child (hsuffix.subset (List.mem_cons_of_mem _ hother)))
      · intro child hmem
        exact (hbefore.of_mem (Tree.mem_nodes_of_mem_children hmem)).append
          (Makes.allBeside hsound hmakes hmem)

end Erase

/-! ### Lines -/

/-- Whether the keywords before a default that is a value stand on one line. -/
def DefaultOnOneLine (source : List Char) (statement : Tree) : Prop :=
  statement.isKind .exportStatement →
    ExportForm.classify source statement = .ok .defaultValue →
      OneLine ((⟨statement.start, defaultEnd statement⟩ : Span).slice source)

instance (source : List Char) : DecidablePred (DefaultOnOneLine source) := fun statement =>
  inferInstanceAs (Decidable (statement.isKind .exportStatement →
    ExportForm.classify source statement = .ok .defaultValue →
      OneLine ((⟨statement.start, defaultEnd statement⟩ : Span).slice source)))

/-- Whether the edits of a module make up for the line feeds that they take out: names and the
keywords before the default stand on one line, and the line feeds of a return type are not dropped
with what stands right behind the arrow. -/
structure MakesUp (source : List Char) (tree : Tree) (edits : List Edit) : Prop where
  defaults : ∀ statement ∈ tree.children, DefaultOnOneLine source statement
  names : tree.Every (NamesOnOneLine source)
  feeds : tree.Every (KeepsFeeds source edits)

section Module

variable (htree : tree.WellFormed source)
  (hparsed : ∀ child ∈ tree.children, child.Every (Tree.Parsed source))
  (hedits : moduleEdits source tree = .ok (edits, exports)) (hmakes : MakesUp source tree edits)
include htree hparsed hedits hmakes

lemma moduleEdits_allOneLine : exports.AllOneLine := by
  simp only [moduleEdits, bind_eq_ok_iff, pure_eq_ok_iff, Prod.exists, Prod.mk.injEq] at hedits
  obtain ⟨_, -, _, exporting, hcollect, -, rfl⟩ := hedits
  have hempty : Exports.empty.AllOneLine := ⟨List.forall_mem_nil _, by rintro _ ⟨⟩⟩
  refine hempty.collect (fun statement hstatement => ?_) hcollect
  have hmem := Tree.mem_children_of_mem_namedChildren hstatement
  exact ⟨(hparsed statement hmem).self, htree.toSound.nested.of_child hmem,
    hmakes.names.of_child hmem⟩

/-- The edits of a module are level or move the line feeds of return types. -/
theorem moduleEdits_balanced : Balanced source (MovesReturnType source tree) [] edits := by
  obtain ⟨erasing, exporting, herasing, hexporting, rfl⟩ := exists_of_moduleEdits hedits
  refine (erase_balanced htree hparsed hmakes.names (Tree.mem_nodes_self tree) herasing
    (.nil tree)).append (.of_level fun edit hedit => ?_)
  obtain ⟨first, statement, last, own, hchildren, hown, hedit⟩ := hexporting.exists_of_mem hedit
  have hmem : statement ∈ tree.children :=
    Tree.mem_children_of_mem_namedChildren (by simp [hchildren])
  rcases hkind : statement.isKind .exportStatement with _ | _
  · rw [exportStatement, hkind] at hown
    cases hown
    cases hedit
  obtain ⟨form, hform, rfl⟩ := exportStatement_ok hown hkind
  cases form with
  | defaultValue =>
    have hsound := htree.toSound.of_child hmem
    have haligned : Aligned statement ⟨statement.start, defaultEnd statement⟩ :=
      exportRanges_aligned hsound.nested.self (by simp [exportRanges, hkind, hform])
    have hslice : (⟨statement.start, defaultEnd statement⟩ : Span).IsSlice source :=
      ⟨haligned.start.isBoundary hsound, haligned.stop.isBoundary hsound, haligned.le⟩
    rw [List.mem_singleton.mp hedit, Edit.gain_of_text rfl, Edit.taken_of_isSlice hslice]
    rw [countLineFeeds_eq_zero (by decide)]
    have hnone := countLineFeeds_eq_zero (hmakes.defaults statement hmem hkind hform)
    simpa [rangeOf, Edit.replace] using hnone
  | declaration names =>
    rw [Exports.edits, exportRanges_of_blankExport hkind hform] at hedit
    obtain ⟨range, -, rfl⟩ := List.mem_map.mp hedit
    exact Edit.gain_of_blank rfl
  | _ =>
    rw [List.mem_singleton.mp hedit]
    exact Edit.gain_of_blank rfl

omit hparsed hmakes in
/-- The line feeds of a return type are moved, unless the arrow function lies in the range of an
edit. -/
lemma taking_mem_or_spans {type token : Tree} (h : HasReturnType tree arrow type token)
    (hfeeds : 0 < countLineFeeds (type.chars source)) :
    .replace type.start type.stop " " ∈ edits ∨ ∃ edit ∈ edits, Spans edit arrow.span := by
  obtain ⟨erasing, exporting, herasing, -, rfl⟩ := exists_of_moduleEdits hedits
  have hsymbol := Tree.isKind_iff.mp h.kind
  rcases erase_reaches htree.toSound herasing h.mem with ⟨_, _, own, herase, hsub⟩ |
    ⟨edit, hedit, hspans⟩ | hnot | hblock
  · cases erase_erases herase with
    | parts hkept hown hinner =>
      left
      rw [ownEdits, hsymbol, h.moveReturnType_eq hfeeds] at hown
      cases hown
      exact List.mem_append_left _ (hsub.subset (List.mem_append_left _ List.mem_cons_self))
    | _ => simp_all [isErasedMember, isTypeSyntax, typeKinds, isErased, isNamespace, isAssertion,
        Tree.isKind]
  · exact .inr ⟨edit, List.mem_append_left _ hedit, hspans⟩
  · rw [isNamed_scope (isScope_of_arrow h.kind)] at hnot
    cases hnot
  · rw [Tree.isKind_iff, hsymbol] at hblock
    cases hblock

end Module

/-- A script has one line before the text of its module, which has as many line feeds as the source,
and at most the assignment of the default after it. All edits are level, but for those that move the
line feeds of a return type. So a character that no edit takes keeps its line, unless it stands
between the return type of an arrow function and the end of the arrow: there it moves up by the line
feeds of the return type. -/
theorem transpile_lines {source file script : String} (h : transpile source file = .ok script)
    (hmakes : ∀ tree edits exports, TypeScript.parse source.toList = .ok tree →
      moduleEdits source.toList tree = .ok (edits, exports) → MakesUp source.toList tree edits) :
    ∃ tree edits exports body, TypeScript.parse source.toList = .ok tree ∧
      moduleEdits source.toList tree = .ok (edits, exports) ∧
      script = String.ofList (exports.header.toList ++ body ++ exports.footer.toList) ∧
      OneLine exports.header.toList ∧
      (exports.footer = "" ∨ ∃ name, exports.footer = "\nexports.default = " ++ name ++ ";\n" ∧
        OneLine name.toList) ∧
      countLineFeeds body = countLineFeeds source.toList ∧
      (∀ edit ∈ edits, edit.gain source.toList = 0 ∨ ∃ other,
        MovesReturnType source.toList tree edit other ∨
          MovesReturnType source.toList tree other edit) ∧
      (∀ taking putting, MovesReturnType source.toList tree taking putting →
        taking.gain source.toList + putting.gain source.toList = 0) ∧
      ∀ first c last, source.toList = first ++ c :: last → ¬ Lies (edits.map rangeOf) (size first) →
        ∃ first' last', body = first' ++ c :: last' ∧
          Edits.Applied 0 first
            ((Edits.ofList edits).ordered.filter fun edit => edit.stop ≤ size first) first' ∧
          ((∀ arrow type token, HasReturnType tree arrow type token →
              ¬ (type.stop ≤ size first ∧ size first < token.stop)) →
            lineAt script.toList (size (exports.header.toList ++ first')) =
              lineAt source.toList (size first)) ∧
          ∀ arrow type token, HasReturnType tree arrow type token → type.stop ≤ size first →
            size first < token.stop →
            lineAt script.toList (size (exports.header.toList ++ first')) +
                countLineFeeds (type.chars source.toList) =
              lineAt source.toList (size first) := by
  obtain ⟨tree, edits, exports, body, hparse, hedits, hbody, rfl⟩ := transpile_ok h
  have htree := TypeScript.parse_wellFormed hparse
  have hparsed := TypeScript.parse_parsed hparse
  have hmakes := hmakes tree edits exports hparse hedits
  have hnames := moduleEdits_allOneLine htree hparsed hedits hmakes
  have hmoving := moving_moduleEdits htree hedits hparsed hmakes.feeds
  have hbalanced := moduleEdits_balanced htree hparsed hedits hmakes
  refine ⟨tree, edits, exports, body, hparse, hedits, rfl, hnames.header, hnames.footer,
    applyTo?_countLineFeeds hmoving hbalanced hbody, fun edit => hbalanced.level_or_moved,
    fun taking putting hmoves => (hmoving.pair _ _ hmoves).gain, ?_⟩
  intro first c last hsource houtside
  obtain ⟨first', last', rfl, happlied, hlevel, hgap⟩ :=
    applyTo?_lines hmoving hbalanced hbody hsource houtside
  have hsourceLine : lineAt source.toList (size first) = countLineFeeds first + 1 := by
    rw [lineAt, hsource, before_append_size]
  have hscriptLine : lineAt (String.ofList (exports.header.toList ++ (first' ++ c :: last') ++
      exports.footer.toList)).toList (size (exports.header.toList ++ first')) =
      countLineFeeds first' + 1 := by
    rw [lineAt, String.toList_ofList, ← List.append_assoc, List.append_assoc,
      before_append_size, countLineFeeds_append, countLineFeeds_eq_zero hnames.header, Nat.zero_add]
  refine ⟨first', last', rfl, happlied, fun hnone => ?_,
    fun arrow type token harrow hstart hstop => ?_⟩
  · rw [hsourceLine, hscriptLine, hlevel]
    rintro _ _ ⟨harrow, hfeeds⟩ -
    exact hnone _ _ _ harrow
  · rw [hsourceLine, hscriptLine]
    have hordered := harrow.ordered htree hparsed
    rcases Nat.eq_zero_or_pos (countLineFeeds (type.chars source.toList)) with hzero | hfeeds
    · rw [hlevel, hzero]
      rintro _ _ ⟨harrow', hfeeds⟩ - ⟨hstart', hstop'⟩
      obtain rfl := harrow.unique htree hparsed harrow' hstart hstop hstart' hstop'
      cases harrow.type.symm.trans harrow'.type
      omega
    · rcases taking_mem_or_spans htree hedits harrow hfeeds with hmem | ⟨edit, hedit, hspans⟩
      · have := hgap _ _ (.intro harrow hfeeds) hmem hstart hstop
        rw [harrow.gain_taking htree] at this
        omega
      · refine absurd ⟨rangeOf edit, List.mem_map_of_mem hedit, ?_⟩ houtside
        obtain ⟨hle, hle'⟩ := hspans
        simp only [rangeOf, Tree.start, Tree.stop] at *
        omega

theorem transpile_lines_arrow :
    ∃ tree edits, TypeScript.parse "const h = (): \x7b\n a: 1\n\x7d => 1;".toList = .ok tree ∧
      moduleEdits "const h = (): \x7b\n a: 1\n\x7d => 1;".toList tree = .ok (edits, .empty) ∧
      MakesUp "const h = (): \x7b\n a: 1\n\x7d => 1;".toList tree edits ∧
      ∃ script body, transpile "const h = (): \x7b\n a: 1\n\x7d => 1;" "BP/h.ts" = .ok script ∧
        script = String.ofList (Exports.empty.header.toList ++ body ++ []) ∧
        countLineFeeds body = 2 := by
  have heval : ((TypeScript.parse "const h = (): \x7b\n a: 1\n\x7d => 1;".toList).toOption.map
      fun tree => ((moduleEdits "const h = (): \x7b\n a: 1\n\x7d => 1;".toList tree).toOption,
        decide (∀ statement ∈ tree.children,
            DefaultOnOneLine "const h = (): \x7b\n a: 1\n\x7d => 1;".toList statement) &&
          decide (tree.Every (NamesOnOneLine "const h = (): \x7b\n a: 1\n\x7d => 1;".toList)) &&
          decide (tree.Every (KeepsFeeds "const h = (): \x7b\n a: 1\n\x7d => 1;".toList
            [.replace 12 23 " ", .insert 26 "\n\n", .blank 12 23])))) =
      some (some ([.replace 12 23 " ", .insert 26 "\n\n", .blank 12 23], .empty), true) := by
    decide +kernel
  obtain ⟨tree, hparse, heval⟩ := exists_of_parse heval
  obtain ⟨hedits, hmakes⟩ := Prod.mk.inj heval
  have hedits := toOption_eq_some hedits
  simp only [Bool.and_eq_true, decide_eq_true_eq] at hmakes
  obtain ⟨⟨hdefaults, hnames⟩, hfeeds⟩ := hmakes
  have hbody : (Edits.ofList [.replace 12 23 " ", .insert 26 "\n\n", .blank 12 23]).applyTo?
      "const h = (): \x7b\n a: 1\n\x7d => 1;".toList =
      some "const h = ()  =>\n\n 1;".toList := by
    rw [Edits.applyTo?, List.mergeSort_of_pairwise (by decide)]
    decide
  have hscript := transpile_eq "BP/h.ts" hparse hedits hbody
  obtain ⟨tree', edits', exports', body, hparse', hedits', heq, -, -, hcount, -⟩ :=
    transpile_lines hscript fun other edits' exports' hother hedits' => by
      rw [hparse] at hother
      cases hother
      rw [hedits] at hedits'
      cases hedits'
      exact ⟨hdefaults, hnames, hfeeds⟩
  rw [hparse] at hparse'
  cases hparse'
  rw [hedits] at hedits'
  cases hedits'
  exact ⟨tree, _, hparse, hedits, ⟨hdefaults, hnames, hfeeds⟩, _, body, hscript, heq, hcount⟩

/-- The arrow behind a return type of several lines does not keep its line. -/
theorem arrow_not_on_line :
    ∃ tree edits first last first' last',
      TypeScript.parse "const h = (): \x7b\n a: 1\n\x7d => 1;".toList = .ok tree ∧
      moduleEdits "const h = (): \x7b\n a: 1\n\x7d => 1;".toList tree = .ok (edits, .empty) ∧
      "const h = (): \x7b\n a: 1\n\x7d => 1;".toList = first ++ '=' :: last ∧
      ¬ Lies (edits.map rangeOf) (size first) ∧
      transpile "const h = (): \x7b\n a: 1\n\x7d => 1;" "BP/h.ts" =
        .ok (String.ofList (Exports.empty.header.toList ++ (first' ++ '=' :: last'))) ∧
      Edits.Applied 0 first
        ((Edits.ofList edits).ordered.filter fun edit => edit.stop ≤ size first) first' ∧
      lineAt "const h = (): \x7b\n a: 1\n\x7d => 1;".toList (size first) = 3 ∧
      lineAt (Exports.empty.header.toList ++ (first' ++ '=' :: last'))
        (size (Exports.empty.header.toList ++ first')) = 1 := by
  have heval : ((TypeScript.parse "const h = (): \x7b\n a: 1\n\x7d => 1;".toList).toOption.map
      fun tree => (moduleEdits "const h = (): \x7b\n a: 1\n\x7d => 1;".toList tree).toOption) =
      some (some ([.replace 12 23 " ", .insert 26 "\n\n", .blank 12 23], .empty)) := by
    decide +kernel
  obtain ⟨tree, hparse, heval⟩ := exists_of_parse heval
  have hedits := toOption_eq_some heval
  have hordered : (Edits.ofList [.replace 12 23 " ", .insert 26 "\n\n", .blank 12 23]).ordered =
      [.replace 12 23 " ", .insert 26 "\n\n"] := List.mergeSort_of_pairwise (by decide)
  have hbody : (Edits.ofList [.replace 12 23 " ", .insert 26 "\n\n", .blank 12 23]).applyTo?
      "const h = (): \x7b\n a: 1\n\x7d => 1;".toList =
      some ("const h = ()  ".toList ++ '=' :: ">\n\n 1;".toList) := by
    rw [Edits.applyTo?, List.mergeSort_of_pairwise (by decide)]
    decide
  refine ⟨tree, _, "const h = (): \x7b\n a: 1\n\x7d ".toList, "> 1;".toList,
    "const h = ()  ".toList, ">\n\n 1;".toList, hparse, hedits, by decide, by decide, ?_, ?_,
    by decide, ?_⟩
  · rw [transpile_eq "BP/h.ts" hparse hedits hbody]
    simp only [Exports.footer, Exports.empty, String.toList_empty, List.append_nil]
  · rw [hordered]
    exact @Edits.Applied.step _ _ _ "const h = ()".toList ": \x7b\n a: 1\n\x7d".toList _ _
      (by decide) (by decide) .done
  · rw [lineAt, ← List.append_assoc, before_append_size]
    decide +kernel

end Stencil.Erasure
