import Stencil.Proofs.Exports
import Stencil.Proofs.Moves

/-!
# Line feeds of generated texts

Names stand on one line, and so does what is written around them. The only other line feeds in a
generated text are those that make up for its range. So all edits of a module are level, except for
those that move the line feeds of a return type, as long as the string literals that name something
stand on one line (`Makes.level`).
-/

namespace Stencil.Erasure

open Text
open TypeScript (Tree Kind Span OneLine EndsInLine)

variable {source : List Char} {tree statement : Tree}

/-! ### Texts on one line -/

lemma oneLine_append {first second : String} :
    OneLine (first ++ second).toList ↔ OneLine first.toList ∧ OneLine second.toList := by
  rw [String.toList_append]
  exact List.forall_mem_append

lemma oneLine_quoted {name : String} (h : OneLine name.toList) : OneLine (quoted name).toList := by
  simp only [quoted, oneLine_append, h]
  decide

lemma oneLine_join {texts : List String} (h : ∀ text ∈ texts, OneLine text.toList) :
    OneLine (String.join texts).toList := by
  induction texts with
  | nil => exact OneLine.nil
  | cons text texts ih =>
    obtain ⟨htext, htexts⟩ := List.forall_mem_cons.mp h
    rw [String.join_cons]
    exact oneLine_append.mpr ⟨htext, ih htexts⟩

/-- The text of a name stands on one line. -/
lemma oneLine_text (h : tree.Parsed source) {kind : Kind} (hkind : kind ∈ TypeScript.nameKinds)
    (htree : tree.isKind kind) : OneLine (tree.text source).toList := by
  rw [Tree.text, String.toList_ofList]
  exact h.oneLine hkind htree

lemma countLineFeeds_lineFeeds (text : List Char) :
    countLineFeeds (lineFeeds text).toList = countLineFeeds text := by
  rw [lineFeeds, String.toList_ofList, countLineFeeds, List.count_replicate_self]

lemma oneLine_digitChars (n : Nat) : OneLine (Number.digitChars n) := by
  rintro c hc rfl
  have := Nat.isDigit_of_mem_toDigits (by decide) (by decide) hc
  cases this

lemma oneLine_replicate (n : Nat) : OneLine (List.replicate n '0') := by
  intro c hc
  rw [List.eq_of_mem_replicate hc]
  decide

lemma oneLine_withPoint {digits : List Char} (h : OneLine digits) (places : Nat) :
    OneLine (Number.withPoint digits places) := by
  unfold Number.withPoint
  split
  · exact h
  · have hpadded := (oneLine_replicate (places + 1 - digits.length)).append h
    exact OneLine.append (fun c hc => hpadded c (List.mem_of_mem_take hc))
      (.cons (by decide) fun c hc => hpadded c (List.mem_of_mem_drop hc))

lemma oneLine_positional (d : Number.Decimal) : OneLine d.positional := by
  unfold Number.Decimal.positional
  split
  · split
    · decide
    · exact (oneLine_digitChars _).append (oneLine_replicate _)
  · exact oneLine_withPoint (oneLine_digitChars _) _

/-- A number is written on one line. -/
lemma oneLine_writeNumber (x : Float) : OneLine (writeNumber x).toList := by
  have hnat (n : Nat) : OneLine n.repr.toList := by
    rw [Nat.repr_eq_ofList_toDigits, String.toList_ofList]
    exact oneLine_digitChars n
  unfold writeNumber
  split
  · rw [Int.toString_eq_repr]
    unfold Int.repr
    split
    · exact hnat _
    · exact oneLine_append.mpr ⟨by decide, hnat _⟩
  · unfold Number.plain
    split
    · decide
    · split <;> decide
    · split
      · refine oneLine_append.mpr ⟨by decide, ?_⟩
        rw [String.toList_ofList]
        exact oneLine_positional _
      · rw [String.toList_ofList]
        exact oneLine_positional _

/-! ### Names that are exported -/

/-- Whether the string literals that name the members of an enum, or what an export list gives,
stand on one line. -/
def NamesOnOneLine (source : List Char) (tree : Tree) : Prop :=
  (tree.isKind .enumBody ∨ tree.isKind .enumAssignment ∨ tree.isKind .exportSpecifier) →
    ∀ child ∈ tree.children, child.isKind .string → child.role ≠ some .value →
      OneLine (child.chars source)

instance (source : List Char) : DecidablePred (NamesOnOneLine source) := fun _ =>
  inferInstanceAs (Decidable (_ → _))

/-- Whether both names of a binding stand on one line. -/
structure IsOneLine (binding : Binding) : Prop where
  literal : OneLine binding.literal.toList
  localName : OneLine binding.localName.toList

lemma IsOneLine.same {name : String} (h : OneLine name.toList) : IsOneLine (.same name) :=
  ⟨oneLine_quoted h, h⟩

/-- What binds a name in a pattern stands on one line. -/
lemma Binds.oneLine {leaf : Tree} (h : Binds tree leaf) (htree : tree.Parsed source) :
    OneLine (leaf.text source).toList := by
  induction h with
  | name hkind =>
    rcases hkind with hkind | hkind <;> exact oneLine_text htree (by decide) hkind
  | value _ hchild _ ih | target _ hchild _ ih =>
    exact ih (htree.of_child (Tree.mem_of_child? hchild))
  | element _ hmem _ _ ih => exact ih (htree.of_child hmem)

/-- The names that a declaration binds stand on one line. -/
lemma oneLine_declaredNames {names : List String} (htree : tree.Parsed source)
    (hnested : tree.Every (Tree.Nested source)) (h : declaredNames source tree = .ok names) :
    ∀ name ∈ names, OneLine name.toList := by
  unfold declaredNames at h
  split at h
  · obtain ⟨leaves, hleaves, rfl⟩ := declaratorNames_ok
      (hnested.self.ordered.sublist List.filter_sublist)
      (fun child hchild => hnested.of_child (Tree.mem_children_of_mem_namedChildren hchild)) h
    refine List.forall_mem_map.mpr fun leaf hleaf => ?_
    obtain ⟨declarator, hdeclarator, pattern, hpattern, hbinds⟩ := (hleaves.mem_iff leaf).mp hleaf
    have hparsed := htree.of_child (Tree.mem_children_of_mem_namedChildren hdeclarator)
    exact hbinds.oneLine (hparsed.of_child (Tree.mem_of_child? hpattern))
  · split at h
    next name hname =>
      split at h
      next hkind =>
        cases h
        rw [List.forall_mem_singleton]
        have hparsed := htree.of_child (Tree.mem_of_child? hname)
        rw [Bool.or_eq_true] at hkind
        rcases hkind with hkind | hkind <;> exact oneLine_text hparsed (by decide) hkind
      next => cases h
    next => cases h

/-- What an export list names stands on one line. -/
lemma oneLine_exportName (htree : tree.Parsed source) (hkind : tree.isKind .exportSpecifier)
    (hnames : NamesOnOneLine source tree) {role : TypeScript.Role}
    (hrole : role = .name ∨ role = .alias) {name : Tree} (hname : tree.child? role = some name) :
    OneLine (name.text source).toList := by
  have hmem := Tree.mem_of_child? hname
  have hgiven := Tree.role_of_child? hname
  have hparts := htree.mem_parts_of_role hmem hgiven
  obtain ⟨kind, hnameKind, h⟩ : ∃ kind ∈ [Kind.string, .identifier], name.isKind kind := by
    refine Tree.exists_kind_of_isNoneOf ?_
    rcases hrole with rfl | rfl <;>
      exact htree.avoidsAs (fun _ => false) (fun _ => false) _ (TypeScript.Symbol.isNoneOf _) hkind
        (by decide) (by decide +kernel) (by decide +kernel) (by decide +kernel) name hparts hgiven
  simp only [List.mem_cons, List.not_mem_nil, or_false] at hnameKind
  rcases hnameKind with rfl | rfl
  · rw [Tree.text, String.toList_ofList]
    refine hnames (.inr (.inr hkind)) name hmem h ?_
    rcases hrole with rfl | rfl <;> simp [hgiven]
  · exact oneLine_text (htree.of_child hmem) (by decide) h

lemma SpecifierEntry.oneLine {binding : Binding} (h : SpecifierEntry source tree binding)
    (htree : tree.Parsed source) (hkind : tree.isKind .exportSpecifier)
    (hnames : NamesOnOneLine source tree) : IsOneLine binding := by
  cases h with
  | plain hname => exact .same (oneLine_exportName htree hkind hnames (.inl rfl) hname)
  | renamed hname halias =>
    exact ⟨oneLine_quoted (oneLine_exportName htree hkind hnames (.inr rfl) halias),
      oneLine_exportName htree hkind hnames (.inl rfl) hname⟩
  | literal hname halias =>
    exact ⟨oneLine_exportName htree hkind hnames (.inr rfl) halias,
      oneLine_exportName htree hkind hnames (.inl rfl) hname⟩

lemma oneLine_specifierBindings {specifiers : List Tree} {bindings : List Binding}
    (hspecifiers : ∀ specifier ∈ specifiers, specifier.Parsed source ∧
      specifier.isKind .exportSpecifier ∧ NamesOnOneLine source specifier)
    (h : specifierBindings source specifiers = .ok bindings) :
    ∀ binding ∈ bindings, IsOneLine binding := by
  have hentries := specifierBindings_ok h
  have hkept : ∀ specifier ∈ specifiers.filter fun specifier => !specifier.hasToken "type",
      specifier.Parsed source ∧ specifier.isKind .exportSpecifier ∧
        NamesOnOneLine source specifier :=
    fun specifier hmem => hspecifiers specifier (List.mem_filter.mp hmem).1
  clear h hspecifiers
  generalize specifiers.filter (fun specifier => !specifier.hasToken "type") = kept at *
  induction hentries with
  | nil => exact List.forall_mem_nil _
  | cons hentry _ ih =>
    obtain ⟨⟨hparsed, hkind, hnames⟩, hkept⟩ := List.forall_mem_cons.mp hkept
    exact List.forall_mem_cons.mpr ⟨hentry.oneLine hparsed hkind hnames, ih hkept⟩

/-- The names that an export statement gives stand on one line. -/
lemma oneLine_classify {form : ExportForm} (hstatement : statement.Parsed source)
    (hnested : statement.Every (Tree.Nested source))
    (hnames : statement.Every (NamesOnOneLine source))
    (h : ExportForm.classify source statement = .ok form) :
    ∀ binding ∈ form.bindings, IsOneLine binding := by
  unfold ExportForm.classify at h
  split at h
  · cases h
  split at h
  · cases h
  split at h
  · cases h
    exact List.forall_mem_nil _
  split at h
  · cases h
    rw [bindings_ofDefault]
    exact List.forall_mem_nil _
  split at h
  next declaration hdeclaration =>
    split at h
    · cases h
      exact List.forall_mem_nil _
    have hmem := Tree.mem_of_child? hdeclaration
    rcases hdeclared : declaredNames source declaration with flaw | names <;>
      rw [hdeclared] at h <;> cases h
    refine List.forall_mem_map.mpr fun name hname => .same ?_
    exact oneLine_declaredNames (hstatement.of_child hmem) (hnested.of_child hmem) hdeclared name
      hname
  next hdeclaration =>
    split at h
    next clause hclause =>
      have hmem := Tree.mem_children_of_mem_namedChildren (List.mem_of_find?_eq_some hclause)
      have hclauseKind : clause.isKind .exportClause := List.find?_some hclause
      rcases hbindings : specifierBindings source clause.namedChildren with flaw | bindings <;>
        rw [hbindings] at h <;> cases h
      refine oneLine_specifierBindings (fun specifier hspecifier => ?_) hbindings
      have hclause := hstatement.of_child hmem
      have hchild := Tree.mem_children_of_mem_namedChildren hspecifier
      exact ⟨hclause.of_child hchild, isKind_exportSpecifier hclause hclauseKind hspecifier,
        ((hnames.of_child hmem).of_child hchild).self⟩
    next => cases h

/-- The kinds of nodes with a name of their own. -/
def ownNameKinds : List Kind := .enumDeclaration :: declaringKinds

/-- The name of such a node stands on one line. -/
lemma oneLine_ownName {kind : Kind} (hkind : kind ∈ ownNameKinds) (htree : tree.Parsed source)
    (h : tree.isKind kind) {name : Tree} (hname : tree.child? .name = some name) :
    OneLine (name.text source).toList := by
  have hcheck : ownNameKinds.all fun kind => !([Kind.comment, .stringFragment].contains kind) &&
      TypeScript.allRules fun rule => rule.makers.all (TypeScript.Rule.nodesPass kind
        (TypeScript.Rule.avoidsAs (fun _ => true) (fun _ => false) .name
          (TypeScript.Symbol.isNoneOf TypeScript.nameKinds))) := by
    decide +kernel
  have hcheck := List.all_eq_true.mp hcheck kind hkind
  rw [Bool.and_eq_true, Bool.not_eq_true', ← Bool.not_eq_true, List.contains_iff_mem] at hcheck
  have hmem := Tree.mem_of_child? hname
  have hrole := Tree.role_of_child? hname
  obtain ⟨nameKind, hnameKind, h⟩ := Tree.exists_kind_of_isNoneOf
    (htree.avoidsAs _ _ .name _ h hcheck.1 (by decide +kernel) (by decide +kernel) hcheck.2 name
      (htree.mem_parts_of_role hmem hrole) hrole)
  exact oneLine_text (htree.of_child hmem) hnameKind h

/-- The name of a default that declares it stands on one line. -/
lemma oneLine_defaultName {name : String} (hstatement : statement.Parsed source)
    (h : ExportForm.classify source statement = .ok (.defaultDeclaration name)) :
    OneLine name.toList := by
  unfold ExportForm.classify at h
  split at h
  · cases h
  split at h
  · cases h
  split at h
  · cases h
  split at h
  · rw [Except.ok.injEq] at h
    unfold ExportForm.ofDefault at h
    split at h
    · cases h
    next exported hexported =>
      split at h
      · cases h
      split at h
      next given hgiven =>
        split at h
        next hkinds =>
          cases h
          obtain ⟨kind, hkind, hexportedKind⟩ := List.any_eq_true.mp hkinds
          refine oneLine_ownName (List.mem_cons_of_mem _ hkind) (hstatement.of_child ?_)
            hexportedKind hgiven
          rcases Option.or_eq_some_iff.mp hexported with h | ⟨-, h⟩ <;> exact Tree.mem_of_child? h
        next => cases h
      next => cases h
  split at h
  next declaration hdeclaration =>
    split at h
    · cases h
    · cases hdeclared : declaredNames source declaration <;> rw [hdeclared] at h <;> cases h
  next hdeclaration =>
    split at h
    next clause hclause =>
      cases hbindings : specifierBindings source clause.namedChildren <;> rw [hbindings] at h <;>
        cases h
    next => cases h

namespace Exports

/-- Whether the names that a module exports stand on one line. -/
structure AllOneLine (exports : Exports) : Prop where
  bindings : ∀ binding ∈ exports.bindings, IsOneLine binding
  defaultName : ∀ name, exports.defaultName = some name → OneLine name.toList

variable {exports exports' : Exports}

/-- What a statement gives keeps the names on one line. -/
lemma AllOneLine.add {form : ExportForm} (h : exports.AllOneLine)
    (hbindings : ∀ binding ∈ form.bindings, IsOneLine binding)
    (hdefault : ∀ name, form = .defaultDeclaration name → OneLine name.toList) :
    (exports.add form).AllOneLine := by
  cases form with
  | typeOnly => exact h
  | declaration names | list bindings =>
    exact ⟨List.forall_mem_append.mpr ⟨h.bindings, hbindings⟩, h.defaultName⟩
  | defaultDeclaration name =>
    refine ⟨h.bindings, fun other hother => ?_⟩
    cases hother
    exact hdefault name rfl
  | defaultValue => exact ⟨h.bindings, h.defaultName⟩

/-- The names that statements give one after another stand on one line. -/
lemma AllOneLine.collect {statements : List Tree} {edits : List Edit}
    (hexports : exports.AllOneLine)
    (hstatements : ∀ statement ∈ statements, statement.Parsed source ∧
      statement.Every (Tree.Nested source) ∧ statement.Every (NamesOnOneLine source))
    (h : Exports.collect source exports statements = .ok (exports', edits)) :
    exports'.AllOneLine := by
  induction statements generalizing exports exports' edits with
  | nil =>
    cases h
    exact hexports
  | cons statement statements ih =>
    obtain ⟨⟨hparsed, hnested, hnames⟩, hstatements⟩ := List.forall_mem_cons.mp hstatements
    rw [Exports.collect] at h
    split at h
    · simp only [bind_eq_ok_iff] at h
      obtain ⟨form, hform, h⟩ := h
      split at h
      · cases h
      · simp only [bind_eq_ok_iff, Prod.exists, pure_eq_ok_iff, Prod.mk.injEq] at h
        obtain ⟨_, _, hmore, rfl, -⟩ := h
        refine ih (hexports.add (oneLine_classify hparsed hnested hnames hform) ?_) hstatements
          hmore
        rintro name rfl
        exact oneLine_defaultName hparsed hform
    · exact ih hexports hstatements h

lemma oneLine_getter {binding : Binding} (h : IsOneLine binding) :
    OneLine (getter binding).toList := by
  have hfirst : OneLine " Object.defineProperty(exports, ".toList := by decide +kernel
  have hmiddle : OneLine ", \x7b enumerable: true, get: function () \x7b return ".toList := by
    decide +kernel
  have hlast : OneLine "; \x7d \x7d);".toList := by decide +kernel
  unfold getter
  rw [oneLine_append, oneLine_append, oneLine_append, oneLine_append]
  exact ⟨⟨⟨⟨hfirst, h.literal⟩, hmiddle⟩, h.localName⟩, hlast⟩

/-- The header stands on one line. -/
lemma AllOneLine.header (h : exports.AllOneLine) : OneLine exports.header.toList := by
  have hmarker : OneLine marker.toList := by decide +kernel
  rw [Exports.header, oneLine_append]
  exact ⟨hmarker, oneLine_join (List.forall_mem_map.mpr fun binding hmem =>
    oneLine_getter (h.bindings binding ((distinct_sublist [] _).subset hmem)))⟩

/-- The footer is empty or assigns the default between two line feeds. -/
lemma AllOneLine.footer (h : exports.AllOneLine) :
    exports.footer = "" ∨ ∃ name, exports.footer = "\nexports.default = " ++ name ++ ";\n" ∧
      OneLine name.toList := by
  unfold Exports.footer
  split
  next name hname => exact .inr ⟨name, rfl, h.defaultName name hname⟩
  next => exact .inl rfl

end Exports

/-! ### Enums -/

lemma oneLine_initializerChars (owner : String) (members : List String) (value : Tree) :
    OneLine (initializerChars source owner members value) := by
  rw [initializerChars]
  refine List.forall_mem_map.mpr fun c _ => ?_
  split
  · decide
  next h => simpa using h

/-- The key of a member is a name in quotes or a string literal, which is the member itself or
stands before its value. -/
lemma Member.ofTree_ok {member : Member} (h : Member.ofTree source tree = .ok member) :
    ∃ key, (key = tree ∨ tree.isKind .enumAssignment ∧ tree.child? .name = some key) ∧
      (((key.isKind .propertyIdentifier ∨ key.isKind .identifier) ∧
          member.key = quoted (key.text source)) ∨
        (key.isKind .string ∧ member.key = key.text source)) := by
  have hkey {key : Tree} {value : Option Tree}
      (h : (if key.isKind .propertyIdentifier || key.isKind .identifier then
          .ok ⟨String.ofList (key.chars source), quoted (String.ofList (key.chars source)), value⟩
        else if key.isKind .string then
          .ok ⟨String.ofList (((key.chars source).drop 1).dropLast),
            String.ofList (key.chars source), value⟩
        else failAt key .enumMemberName) = Except.ok member) :
      ((key.isKind .propertyIdentifier ∨ key.isKind .identifier) ∧
          member.key = quoted (key.text source)) ∨
        (key.isKind .string ∧ member.key = key.text source) := by
    split at h
    next hname =>
      cases h
      exact .inl ⟨by simpa using hname, rfl⟩
    next =>
      split at h
      next hstring =>
        cases h
        exact .inr ⟨hstring, rfl⟩
      next => cases h
  unfold Member.ofTree at h
  rcases hassignment : tree.isKind .enumAssignment with _ | _
  · rw [hassignment, if_neg Bool.false_ne_true] at h
    exact ⟨tree, .inl rfl, hkey h⟩
  · rw [hassignment, if_pos rfl] at h
    rcases hname : tree.child? .name with _ | name
    · rw [hname] at h
      exact ⟨tree, .inl rfl, hkey h⟩
    · rw [hname] at h
      exact ⟨name, .inr ⟨rfl, rfl⟩, hkey h⟩

/-- The key of a member of an enum stands on one line. -/
lemma oneLine_key {member : Member} (htree : tree.Parsed source)
    (hnames : NamesOnOneLine source tree)
    (hstring : tree.isKind .string → OneLine (tree.chars source))
    (h : Member.ofTree source tree = .ok member) : OneLine member.key.toList := by
  obtain ⟨key, hkey, hcases⟩ := Member.ofTree_ok h
  have hparsed : key.Parsed source := by
    rcases hkey with rfl | ⟨-, hname⟩
    · exact htree
    · exact htree.of_child (Tree.mem_of_child? hname)
  rcases hcases with ⟨hkind, heq⟩ | ⟨hkind, heq⟩ <;> rw [heq]
  · refine oneLine_quoted ?_
    rcases hkind with hkind | hkind <;> exact oneLine_text hparsed (by decide) hkind
  · rw [Tree.text, String.toList_ofList]
    rcases hkey with rfl | ⟨hassignment, hname⟩
    · exact hstring hkind
    · refine hnames (.inr (.inl hassignment)) key (Tree.mem_of_child? hname) hkind ?_
      rw [Tree.role_of_child? hname]
      decide

/-- Whether the value of the next member is written on one line. -/
def Successor.IsOneLine : Successor → Prop
  | .after key => OneLine key.toList
  | _          => True

lemma oneLine_assignForward {owner key value : String} (howner : OneLine owner.toList)
    (hkey : OneLine key.toList) (hvalue : OneLine value.toList) :
    OneLine (assignForward owner key value).toList := by
  simp only [assignForward, oneLine_append, howner, hkey, hvalue]
  decide

lemma oneLine_assignBoth {owner key value : String} (howner : OneLine owner.toList)
    (hkey : OneLine key.toList) (hvalue : OneLine value.toList) :
    OneLine (assignBoth owner key value).toList := by
  simp only [assignBoth, oneLine_append, howner, hkey, hvalue]
  decide

/-- The assignment of a member is written on one line, and so is the value of the next. -/
lemma oneLine_assignment {owner : String} {earlier : List String} {successor next : Successor}
    {offset : Nat} {member : Member} {text : String} (howner : OneLine owner.toList)
    (hkey : OneLine member.key.toList) (hsuccessor : successor.IsOneLine)
    (h : member.assignment source owner earlier successor offset = .ok (text, next)) :
    OneLine text.toList ∧ next.IsOneLine := by
  unfold Member.assignment at h
  split at h
  next value _ =>
    have hvalue : OneLine (String.ofList (initializerChars source owner earlier value)).toList := by
      rw [String.toList_ofList]
      exact oneLine_initializerChars owner earlier value
    dsimp only at h
    split at h
    · cases h
      exact ⟨oneLine_assignForward howner hkey hvalue, trivial⟩
    · cases h
      refine ⟨oneLine_assignBoth howner hkey hvalue, ?_⟩
      split
      · trivial
      · exact hkey
  next =>
    split at h
    · cases h
      exact ⟨oneLine_assignBoth howner hkey (oneLine_writeNumber _), trivial⟩
    · cases h
      refine ⟨oneLine_assignBoth howner hkey ?_, hkey⟩
      have hkey : OneLine (String.toList _) := hsuccessor
      simp only [oneLine_append, howner, hkey]
      decide
    · cases h

/-- The assignments of members whose keys stand on one line are written on one line. -/
lemma oneLine_assignments {owner : String} {earlier : List String} {successor : Successor}
    {members : List Tree} {text : String} (howner : OneLine owner.toList)
    (hkeys : ∀ tree ∈ members, ∀ member, Member.ofTree source tree = .ok member →
      OneLine member.key.toList) (hsuccessor : successor.IsOneLine)
    (h : assignments source owner earlier successor members = .ok text) :
    OneLine text.toList := by
  induction members generalizing earlier successor text with
  | nil =>
    cases h
    exact .nil
  | cons tree members ih =>
    obtain ⟨hkey, hkeys⟩ := List.forall_mem_cons.mp hkeys
    simp only [assignments, bind_eq_ok_iff, pure_eq_ok_iff, Prod.exists] at h
    obtain ⟨member, hmember, own, next, hown, rest, hrest, rfl⟩ := h
    obtain ⟨hown, hnext⟩ := oneLine_assignment howner (hkey member hmember) hsuccessor hown
    exact oneLine_append.mpr ⟨hown, ih hkeys hnext hrest⟩

/-- An insertion takes nothing out. -/
lemma gain_insert (offset : Nat) (text : String) :
    (Edit.insert offset text).gain source = countLineFeeds text.toList := by
  have htaken : (Edit.insert offset text).taken source = [] := by
    rcases Edit.taken_cases source (.insert offset text) with hnil | ⟨_, _, -, -, hsize⟩
    · exact hnil
    · exact eq_nil_of_size_eq_zero (by simpa [Edit.insert] using hsize)
  rw [Edit.gain_of_text rfl, htaken]
  simp [countLineFeeds]

/-- A text on one line with the line feeds of its range is level. -/
lemma gain_replace {start stop : Nat} {text : String}
    (hslice : (⟨start, stop⟩ : Span).IsSlice source) (htext : OneLine text.toList) :
    (Edit.replace start stop
      (text ++ lineFeeds ((⟨start, stop⟩ : Span).slice source))).gain source = 0 := by
  have htaken := @Edit.taken_of_isSlice source (.replace start stop
    (text ++ lineFeeds ((⟨start, stop⟩ : Span).slice source))) hslice
  rw [Edit.gain_of_text rfl, htaken, String.toList_append, countLineFeeds_append,
    countLineFeeds_eq_zero htext, countLineFeeds_lineFeeds]
  simp [rangeOf, Edit.replace]

/-- The body of an enum is the node that holds its members. -/
lemma isKind_enumBody (htree : tree.Parsed source) (hkind : tree.isKind .enumDeclaration)
    {body : Tree} (hbody : tree.child? .body = some body) : body.isKind .enumBody := by
  have hrole := Tree.role_of_child? hbody
  obtain ⟨kind, hmem, h⟩ := Tree.exists_kind_of_isNoneOf
    (htree.avoidsAs (fun _ => false) (fun _ => false) .body
      (TypeScript.Symbol.isNoneOf [.enumBody]) hkind (by decide) (by decide +kernel)
      (by decide +kernel) (by decide +kernel) body
      (htree.mem_parts_of_role (Tree.mem_of_child? hbody) hrole) hrole)
  rwa [List.mem_singleton.mp hmem] at h

/-- The object of an enum has as many line feeds as the enum. -/
lemma gain_enumEdit {edit : Edit} (htree : tree.Parsed source) (hsound : tree.Sound source)
    (hkind : tree.isKind .enumDeclaration) (hnames : tree.Every (NamesOnOneLine source))
    (h : enumEdit source tree = .ok edit) : edit.gain source = 0 := by
  unfold enumEdit at h
  split at h
  next name body hname hbody =>
    simp only [bind_eq_ok_iff, pure_eq_ok_iff] at h
    obtain ⟨filled, hfilled, rfl⟩ := h
    have howner := oneLine_ownName (by simp [ownNameKinds]) htree hkind hname
    have hbodyKind := isKind_enumBody htree hkind hbody
    have hbodyMem := Tree.mem_of_child? hbody
    have hbodyParsed := htree.of_child hbodyMem
    have hbodyNames := hnames.of_child hbodyMem
    have hfilled : OneLine filled.toList := by
      refine oneLine_assignments howner (fun member hmember _ h => ?_) ?_ hfilled
      · have hmem := Tree.mem_children_of_mem_namedChildren hmember
        refine oneLine_key (hbodyParsed.of_child hmem) (hbodyNames.of_child hmem).self
          (fun hstring => hbodyNames.self (.inl hbodyKind) member hmem hstring fun hrole => ?_) h
        cases hbodyParsed.avoidsAs (fun _ => true) (fun _ => false) .value (fun _ => true) hbodyKind
          (by decide) (by decide +kernel) (by decide +kernel) (by decide +kernel) member
          (hbodyParsed.mem_parts_of_role hmem hrole) hrole
      · trivial
    have hnested := hsound.nested.self
    refine gain_replace ⟨hnested.start, hnested.stop, hnested.le⟩ ?_
    simp only [oneLine_append, howner, hfilled]
    decide
  next => cases h

/-! ### Namespaces -/

/-- The last byte of a text that does not end in a line feed holds none. -/
lemma oneLine_taken {edit : Edit} {first last : List Char} (hsource : source = first ++ last)
    (hstop : size first = edit.stop) (hstart : edit.stop ≤ edit.start + 1)
    (hends : EndsInLine first) : OneLine (edit.taken source) := by
  rcases Edit.taken_cases source edit with hnil | ⟨before, after, htaken, hbefore, hsize⟩
  · rw [hnil]
    exact .nil
  generalize edit.taken source = taken at *
  rcases taken with _ | ⟨c, rest⟩
  · exact .nil
  have := c.utf8Size_pos
  rw [size_cons] at hsize
  obtain rfl := eq_nil_of_size_eq_zero (show size rest = 0 by omega)
  rw [← List.append_assoc, hsource] at htaken
  obtain ⟨middle, rfl, -⟩ := exists_append_of_size_le htaken.symm (by
    rw [size_append, size_cons]
    omega)
  rw [size_append, size_append, size_cons] at hstop
  obtain rfl := eq_nil_of_size_eq_zero (show size middle = 0 by omega)
  exact .cons (hends c (by simp)) .nil

/-- The name of a namespace that becomes an object stands on one line. -/
lemma oneLine_namespaceName {name : String} {body : Tree} (htree : tree.Parsed source)
    (hform : NamespaceForm.ofTree source tree = .ok (.present name body)) :
    OneLine name.toList := by
  unfold NamespaceForm.ofTree at hform
  split at hform
  · cases hform
  next given hgiven =>
    split at hform
    · cases hform
    next hidentifier =>
      split at hform
      · cases hform
      · cases hform
        have hkind : given.isKind .identifier := by simpa using hidentifier
        exact oneLine_text (htree.of_child (Tree.mem_of_child? hgiven)) (by decide) hkind

/-- The head of a namespace has as many line feeds as what it takes the place of, and so has its
closing brace. -/
lemma gain_namespaceFrame {name : String} {body : Tree} {edit : Edit} (htree : tree.Parsed source)
    (hsound : tree.Sound source) (hnamespace : isNamespace tree)
    (hform : NamespaceForm.ofTree source tree = .ok (.present name body))
    (h : edit ∈ namespaceFrame source tree body name) : edit.gain source = 0 := by
  have hbody := (child?_of_present hform).2
  have hname := oneLine_namespaceName htree hform
  simp only [namespaceFrame, List.mem_cons, List.not_mem_nil, or_false] at h
  rcases h with rfl | rfl
  · have hmem := hsound.ordered.mem (Tree.mem_of_child? hbody)
    refine gain_replace ⟨hsound.nested.self.start,
      hsound.isBoundary_of_child? (exists_endingKind hnamespace) hbody, ?_⟩ ?_
    · dsimp only
      omega
    · simp only [oneLine_append, hname]
      decide
  · have hblock := (hsound.block_of_child? (exists_endingKind hnamespace) hbody).1
    obtain ⟨first, last, hsource, hsize, hends⟩ :=
      (htree.of_child (Tree.mem_of_child? hbody)).endsInLine_block hblock
    have htext : OneLine
        ("\x7d)(" ++ name ++ " || (" ++ name ++ " = \x7b\x7d));").toList := by
      simp only [oneLine_append, hname]
      decide
    rw [Edit.gain_of_text rfl, countLineFeeds_eq_zero htext, countLineFeeds_eq_zero]
    · rfl
    · exact oneLine_taken hsource hsize (by simp only [Edit.replace]; omega) hends

/-- The assignments of names that stand on one line do so as well. -/
lemma gain_assign {owner : String} {bindings : List Binding} (howner : OneLine owner.toList)
    (hbindings : ∀ binding ∈ bindings, IsOneLine binding) :
    (namespaceExport.assign owner statement bindings).gain source = 0 := by
  rw [namespaceExport.assign, gain_insert, countLineFeeds_eq_zero]
  · rfl
  refine oneLine_join (List.forall_mem_map.mpr fun binding hbinding => ?_)
  obtain ⟨hliteral, hlocal⟩ := hbindings binding hbinding
  simp only [namespaceAssignment, oneLine_append, howner, hliteral, hlocal]
  decide

/-! ### Parameters -/

lemma oneLine_propertyAssignments {parameters : List Tree} {text : String}
    (hparameters : ∀ parameter ∈ parameters, parameter.Parsed source)
    (h : propertyAssignments source parameters = .ok text) : OneLine text.toList := by
  induction parameters generalizing text with
  | nil =>
    cases h
    exact .nil
  | cons parameter parameters ih =>
    obtain ⟨hparameter, hparameters⟩ := List.forall_mem_cons.mp hparameters
    rw [propertyAssignments] at h
    split at h
    · split at h
      · cases h
      next name hname =>
        simp only [bind_eq_ok_iff, pure_eq_ok_iff] at h
        obtain ⟨rest, hrest, rfl⟩ := h
        obtain ⟨hchild, hkind⟩ := Option.filter_eq_some_iff.mp hname
        have hname := oneLine_text (hparameter.of_child (Tree.mem_of_child? hchild)) (by decide)
          hkind
        simp only [oneLine_append, hname, ih hparameters hrest]
        decide
    · exact ih hparameters h

/-- The assignments of properties stand on one line. -/
lemma gain_parameterProperties {edits : List Edit} {edit : Edit} (htree : tree.Parsed source)
    (h : parameterProperties source tree = .ok edits) (hmem : edit ∈ edits) :
    edit.gain source = 0 := by
  unfold parameterProperties at h
  split at h
  next parameters body hparameters _ =>
    split at h
    · simp only [bind_eq_ok_iff] at h
      obtain ⟨text, htext, h⟩ := h
      split at h
      · cases h
        cases hmem
      · cases h
        rw [List.mem_singleton.mp hmem, gain_insert, countLineFeeds_eq_zero]
        · rfl
        have hparsed := htree.of_child (Tree.mem_of_child? hparameters)
        exact oneLine_propertyAssignments (fun parameter hparameter =>
          hparsed.of_child (Tree.mem_children_of_mem_namedChildren hparameter)) htext
    · cases h
      cases hmem
  next =>
    cases h
    cases hmem

/-! ### All edits of a node -/

/-- What a node makes is level, unless it moves the line feeds of a return type. -/
theorem Makes.level {edit : Edit} (htree : tree.Every (Tree.Parsed source))
    (hsound : tree.Sound source) (hnames : tree.Every (NamesOnOneLine source))
    (h : Makes source tree edit) :
    edit.gain source = 0 ∨ tree.isKind .arrowFunction ∧ edit ∈ moveReturnType source tree := by
  rcases h with ⟨range, -, rfl⟩ | h
  · exact .inl (Edit.gain_of_blank rfl)
  cases h with
  | enumeration hkind hedit => exact .inl (gain_enumEdit htree.self hsound hkind hnames hedit)
  | frame hnamespace hform hedit =>
    exact .inl (gain_namespaceFrame htree.self hsound hnamespace hform hedit)
  | @assignment name body statement bindings hnamespace hform hstatement hkind hbindings =>
    have hbody := Tree.mem_of_child? (child?_of_present hform).2
    have hclassify {form : ExportForm} (h : ExportForm.classify source statement = .ok form) :=
      oneLine_classify ((htree.of_child hbody).of_child hstatement).self
        ((hsound.of_child hbody).of_child hstatement).nested
        ((hnames.of_child hbody).of_child hstatement) h
    refine .inl (gain_assign (oneLine_namespaceName htree.self hform) ?_)
    rcases hbindings with ⟨names, hform, rfl⟩ | hform
    · exact hclassify hform
    · exact hclassify hform
  | returnType hkind hedit => exact .inr ⟨hkind, hedit⟩
  | properties _ hedits hedit => exact .inl (gain_parameterProperties htree.self hedits hedit)

end Stencil.Erasure
