import Stencil.Proofs.Shapes
import Stencil.Proofs.Transpile

/-!
# The exports of a module

`NamedExports` states which names an export statement gives, from the tree alone: those that a
declaration binds, through patterns of any depth (`Binds`), or those of a list. The header of a
script defines a getter for each name that the statements of the module give, once and in the order
of the source, and none of their `export` keywords is left in the script (`transpile_exports`).
-/

namespace Stencil.Erasure

open Text
open TypeScript (Tree Kind Span Nonterminal GrammarRule)

variable {source : List Char} {tree statement : Tree}

/-! ### Names in patterns -/

/-- The leaves that bind the names of a pattern. A property key, a default value and a computed key
bind none. -/
inductive Binds : (pattern leaf : Tree) → Prop where
  | name {leaf : Tree}
      (hkind : leaf.isKind .identifier ∨ leaf.isKind .shorthandPropertyIdentifierPattern) :
      Binds leaf leaf
  | value {pattern value leaf : Tree} (hkind : pattern.isKind .pairPattern)
      (hvalue : pattern.child? .value = some value) (h : Binds value leaf) : Binds pattern leaf
  | target {pattern target leaf : Tree}
      (hkind : pattern.isKind .assignmentPattern ∨ pattern.isKind .objectAssignmentPattern)
      (htarget : pattern.child? .left = some target) (h : Binds target leaf) : Binds pattern leaf
  | element {pattern element leaf : Tree}
      (hkind : pattern.isKind .objectPattern ∨ pattern.isKind .arrayPattern ∨
        pattern.isKind .restPattern)
      (hmem : element ∈ pattern.children) (hnamed : element.isNamed) (h : Binds element leaf) :
      Binds pattern leaf

/-- What a tree binds, by its kind. -/
lemma binds_iff {leaf : Tree} :
    Binds tree leaf ↔ match tree.symbol with
      | .kind .identifier | .kind .shorthandPropertyIdentifierPattern => leaf = tree
      | .kind .pairPattern => ∃ value, tree.child? .value = some value ∧ Binds value leaf
      | .kind .assignmentPattern | .kind .objectAssignmentPattern =>
        ∃ target, tree.child? .left = some target ∧ Binds target leaf
      | .kind .objectPattern | .kind .arrayPattern | .kind .restPattern =>
        ∃ element ∈ tree.children, element.isNamed ∧ Binds element leaf
      | _ => False := by
  constructor
  · rintro (hkind | ⟨hkind, hvalue, h⟩ | ⟨hkind, htarget, h⟩ | ⟨hkind, hmem, hnamed, h⟩) <;>
      simp only [Tree.isKind_iff] at hkind
    · rcases hkind with hkind | hkind <;> simp [hkind]
    · simpa [hkind] using ⟨_, hvalue, h⟩
    · rcases hkind with hkind | hkind <;> simpa [hkind] using ⟨_, htarget, h⟩
    · rcases hkind with hkind | hkind | hkind <;> simpa [hkind] using ⟨_, hmem, hnamed, h⟩
  · intro h
    split at h
    case h_1 hkind | h_2 hkind =>
      subst h
      exact .name (by simp [Tree.isKind_iff, hkind])
    case h_3 hkind =>
      obtain ⟨value, hvalue, h⟩ := h
      exact .value (by simp [Tree.isKind_iff, hkind]) hvalue h
    case h_4 hkind | h_5 hkind =>
      obtain ⟨target, htarget, h⟩ := h
      exact .target (by simp [Tree.isKind_iff, hkind]) htarget h
    case h_6 hkind | h_7 hkind | h_8 hkind =>
      obtain ⟨element, hmem, hnamed, h⟩ := h
      exact .element (by simp [Tree.isKind_iff, hkind]) hmem hnamed h
    case h_9 => cases h

/-- The leaves that bind the names of a declaration of variables. -/
def Declares (declaration leaf : Tree) : Prop :=
  ∃ declarator ∈ declaration.children, declarator.isKind .variableDeclarator ∧
    ∃ pattern, declarator.child? .name = some pattern ∧ Binds pattern leaf

/-- Whether these are the leaves with a property, in the order of the source. -/
structure Lists (lo hi : Nat) (p : Tree → Prop) (leaves : List Tree) : Prop where
  mem_iff : ∀ leaf, leaf ∈ leaves ↔ p leaf
  ordered : Tree.Ordered lo hi leaves

namespace Lists

variable {lo hi : Nat} {p q : Tree → Prop} {leaves first rest : List Tree}

lemma congr (h : Lists lo hi p leaves) (hiff : ∀ leaf, p leaf ↔ q leaf) : Lists lo hi q leaves :=
  ⟨fun leaf => (h.mem_iff leaf).trans (hiff leaf), h.ordered⟩

lemma nil (hle : lo ≤ hi) (hnone : ∀ leaf, ¬ p leaf) : Lists lo hi p [] :=
  ⟨fun leaf => by simp [hnone leaf], hle⟩

lemma weaken {lo' hi' : Nat} (h : Lists lo hi p leaves) (hlo : lo' ≤ lo) (hhi : hi ≤ hi') :
    Lists lo' hi' p leaves :=
  ⟨h.mem_iff, h.ordered.weaken hlo hhi⟩

lemma append {mid : Nat} (hfirst : Lists lo mid p first) (hrest : Lists mid hi q rest) :
    Lists lo hi (fun leaf => p leaf ∨ q leaf) (first ++ rest) :=
  ⟨fun leaf => by rw [List.mem_append, hfirst.mem_iff, hrest.mem_iff],
    hfirst.ordered.append hrest.ordered⟩

end Lists

lemma patternNamesOf_eq {role : TypeScript.Role} {trees : List Tree} :
    patternNamesOf source role trees =
      match trees.find? fun child => child.role == some role with
      | some child => patternNames source child
      | none       => .ok [] := by
  induction trees with
  | nil => rfl
  | cons tree trees ih =>
    rw [patternNamesOf]
    split
    next hrole => rw [List.find?_cons_of_pos (by simp [hrole])]
    next hrole => rw [List.find?_cons_of_neg (by simp [hrole]), ih]

/-- The names of patterns one after another are those of the leaves that these bind. -/
lemma patternNamesAmong_ok {lo hi : Nat} {trees : List Tree} {names : List String}
    (hordered : Tree.Ordered lo hi trees) (h : patternNamesAmong source trees = .ok names)
    (hnames : ∀ tree ∈ trees, ∀ names, patternNames source tree = .ok names →
      ∃ leaves, Lists tree.start tree.stop (Binds tree) leaves ∧
        names = leaves.map (Tree.text source)) :
    ∃ leaves, Lists lo hi (fun leaf => ∃ tree ∈ trees, tree.isNamed ∧ Binds tree leaf) leaves ∧
      names = leaves.map (Tree.text source) := by
  induction trees generalizing lo names with
  | nil =>
    cases h
    exact ⟨[], .nil hordered (by simp), rfl⟩
  | cons tree trees ih =>
    obtain ⟨htree, hnames⟩ := List.forall_mem_cons.mp hnames
    obtain ⟨hstart, hspan, hordered⟩ := hordered
    rw [patternNamesAmong] at h
    split at h
    next hnamed =>
      simp only [bind_eq_ok_iff, pure_eq_ok_iff] at h
      obtain ⟨own, hown, more, hmore, rfl⟩ := h
      obtain ⟨first, hfirst, rfl⟩ := htree own hown
      obtain ⟨rest, hrest, rfl⟩ := ih hordered hmore hnames
      refine ⟨first ++ rest, ?_, (List.map_append ..).symm⟩
      refine ((hfirst.weaken hstart (Nat.le_refl _)).append hrest).congr fun leaf => ?_
      simp [hnamed]
    next hnamed =>
      obtain ⟨rest, hrest, rfl⟩ := ih hordered h hnames
      refine ⟨rest, ?_, rfl⟩
      refine (hrest.weaken (Nat.le_trans hstart hspan) (Nat.le_refl _)).congr fun leaf => ?_
      simp [hnamed]

/-- The names of the part of a pattern in a role are those of the leaves that it binds. -/
lemma patternNamesOf_ok {role : TypeScript.Role} {names : List String}
    (htree : tree.Nested source) (h : patternNamesOf source role tree.children = .ok names)
    (hnames : ∀ child ∈ tree.children, ∀ names, patternNames source child = .ok names →
      ∃ leaves, Lists child.start child.stop (Binds child) leaves ∧
        names = leaves.map (Tree.text source)) :
    ∃ leaves, Lists tree.start tree.stop
        (fun leaf => ∃ child, tree.child? role = some child ∧ Binds child leaf) leaves ∧
      names = leaves.map (Tree.text source) := by
  rw [patternNamesOf_eq] at h
  rcases hchild : tree.child? role with _ | child <;> rw [Tree.child?] at hchild <;>
    rw [hchild] at h
  · cases h
    exact ⟨[], .nil htree.le (by simp), rfl⟩
  · have hmem := List.mem_of_find?_eq_some hchild
    obtain ⟨leaves, hleaves, rfl⟩ := hnames child hmem names h
    have hspan := htree.ordered.mem hmem
    exact ⟨leaves, (hleaves.weaken hspan.1 hspan.2.2).congr (by simp), rfl⟩

/-- The names of a pattern are those of the leaves that it binds. -/
theorem patternNames_ok {names : List String} (htree : tree.Every (Tree.Nested source))
    (h : patternNames source tree = .ok names) :
    ∃ leaves, Lists tree.start tree.stop (Binds tree) leaves ∧
      names = leaves.map (Tree.text source) := by
  induction tree using Tree.ofChildren generalizing names with
  | h tree ih =>
    have hnames (child : Tree) (hchild : child ∈ tree.children) (names : List String)
        (hchildNames : patternNames source child = .ok names) :
        ∃ leaves, Lists child.start child.stop (Binds child) leaves ∧
          names = leaves.map (Tree.text source) :=
      ih child hchild (htree.of_child hchild) hchildNames
    have hself (hbinds : ∀ leaf, Binds tree leaf ↔ leaf = tree) :
        Lists tree.start tree.stop (Binds tree) [tree] :=
      ⟨by simp [hbinds], Nat.le_refl _, htree.self.le, Nat.le_refl _⟩
    have hbinds (leaf : Tree) := @binds_iff tree leaf
    have hof (role : TypeScript.Role) {names : List String} :=
      @patternNamesOf_ok source tree role names htree.self
    have hamong {names : List String} :=
      @patternNamesAmong_ok source tree.start tree.stop tree.children names htree.self.ordered
    obtain ⟨symbol, role, span, children⟩ := tree
    simp only [Tree.symbol_node, Tree.children_node] at hbinds hof hamong
    unfold patternNames at h
    split at h
    case h_1 | h_2 =>
      cases h
      exact ⟨[_], hself hbinds, rfl⟩
    case h_3 | h_4 | h_5 =>
      obtain ⟨leaves, hleaves, heq⟩ := hof _ h hnames
      exact ⟨leaves, hleaves.congr fun leaf => (hbinds leaf).symm, heq⟩
    case h_6 | h_7 | h_8 =>
      obtain ⟨leaves, hleaves, heq⟩ := hamong h hnames
      exact ⟨leaves, hleaves.congr fun leaf => (hbinds leaf).symm, heq⟩
    case h_9 => cases h

/-! ### Names of declarations -/

lemma declaratorNames_ok {lo hi : Nat} {trees : List Tree} {names : List String}
    (hordered : Tree.Ordered lo hi trees) (htrees : ∀ tree ∈ trees, tree.Every (Tree.Nested source))
    (h : declaratorNames source trees = .ok names) :
    ∃ leaves, Lists lo hi (fun leaf => ∃ tree ∈ trees, ∃ pattern,
        tree.child? .name = some pattern ∧ Binds pattern leaf) leaves ∧
      names = leaves.map (Tree.text source) := by
  induction trees generalizing lo names with
  | nil =>
    cases h
    exact ⟨[], .nil hordered (by simp), rfl⟩
  | cons tree trees ih =>
    obtain ⟨htree, htrees⟩ := List.forall_mem_cons.mp htrees
    obtain ⟨hstart, hspan, hordered⟩ := hordered
    have hfirst : ∃ own more first, declaratorNames source trees = .ok more ∧
        names = own ++ more ∧ own = first.map (Tree.text source) ∧
        Lists tree.start tree.stop (fun leaf => ∃ pattern,
          tree.child? .name = some pattern ∧ Binds pattern leaf) first := by
      rw [declaratorNames] at h
      split at h <;> simp only [bind_eq_ok_iff, pure_eq_ok_iff] at h <;>
        obtain ⟨own, hown, more, hmore, rfl⟩ := h
      next pattern hpattern =>
        have hmem := Tree.mem_of_child? hpattern
        obtain ⟨leaves, hleaves, rfl⟩ := patternNames_ok (htree.of_child hmem) hown
        have hin := htree.self.ordered.mem hmem
        exact ⟨_, more, leaves, hmore, rfl, rfl,
          (hleaves.weaken hin.1 hin.2.2).congr (by simp [hpattern])⟩
      next hnone =>
        cases hown
        exact ⟨[], more, [], hmore, rfl, rfl, .nil hspan (by simp [hnone])⟩
    obtain ⟨_, more, first, hmore, rfl, rfl, hfirst⟩ := hfirst
    obtain ⟨rest, hrest, rfl⟩ := ih hordered htrees hmore
    refine ⟨first ++ rest, ?_, (List.map_append ..).symm⟩
    refine ((hfirst.weaken hstart (Nat.le_refl _)).append hrest).congr fun leaf => ?_
    rw [List.exists_mem_cons_iff]

/-- The kinds of declarations that declare variables. -/
def variableKinds : List Kind := [.lexicalDeclaration, .variableDeclaration]

/-- The kinds of declarations that declare one name. -/
def namingKinds : List Kind :=
  [.functionDeclaration, .generatorFunctionDeclaration, .classDeclaration,
   .abstractClassDeclaration, .enumDeclaration, .internalModule, .moduleDeclaration]

/-- The kinds of declarations that only declare types. -/
def typeOnlyKinds : List Kind :=
  [.typeAliasDeclaration, .interfaceDeclaration, .ambientDeclaration, .functionSignature]

def declarationKinds : List Kind := variableKinds ++ namingKinds ++ typeOnlyKinds ++ [.importAlias]

/-- The nodes in a declaration of variables are its declarators. -/
lemma isKind_variableDeclarator {kind : Kind} (hkind : kind ∈ variableKinds)
    (htree : tree.Parsed source) (h : tree.isKind kind) {child : Tree}
    (hchild : child ∈ tree.namedChildren) : child.isKind .variableDeclarator := by
  obtain ⟨hmem, hnamed⟩ := List.mem_filter.mp hchild
  have hother : child.symbol.isOther [.variableDeclarator] = false := by
    refine htree.avoids (fun _ => false) _ h ?_ (by decide +kernel) ?_ child
      (Tree.mem_parts_of_isNamed hmem hnamed) <;>
    · simp only [variableKinds, List.mem_cons, List.not_mem_nil, or_false] at hkind
      rcases hkind with rfl | rfl <;> decide +kernel
  simpa using Tree.exists_kind hnamed hother

/-- The nodes in an export list are its specifiers. -/
lemma isKind_exportSpecifier (htree : tree.Parsed source) (h : tree.isKind .exportClause)
    {child : Tree} (hchild : child ∈ tree.namedChildren) : child.isKind .exportSpecifier := by
  obtain ⟨hmem, hnamed⟩ := List.mem_filter.mp hchild
  have hother : child.symbol.isOther [.exportSpecifier] = false :=
    htree.avoids (fun _ => false) _ h (by decide) (by decide +kernel) (by decide +kernel) child
      (Tree.mem_parts_of_isNamed hmem hnamed)
  simpa using Tree.exists_kind hnamed hother

/-- What an export statement declares is a declaration. -/
lemma exists_declarationKind (hstatement : statement.Parsed source)
    (h : statement.isKind .exportStatement) {declaration : Tree}
    (hdeclaration : statement.child? .declaration = some declaration) :
    ∃ kind ∈ declarationKinds, declaration.isKind kind := by
  have hrole := Tree.role_of_child? hdeclaration
  exact Tree.exists_kind_of_isNoneOf (hstatement.avoidsAs (fun _ => true)
    (fun nonterminal => [.declaration, .enumDeclaration, .ambientDeclaration].contains nonterminal)
    .declaration (TypeScript.Symbol.isNoneOf declarationKinds) h (by decide) (by decide +kernel)
    (by decide +kernel) (by decide +kernel) declaration
    (hstatement.mem_parts_of_role (Tree.mem_of_child? hdeclaration) hrole) hrole)

/-- An alias of an import has no name of its own. -/
lemma child?_importAlias (htree : tree.Parsed source) (h : tree.isKind .importAlias) :
    tree.child? .name = none := by
  rcases hname : tree.child? .name with _ | name
  · rfl
  have hrole := Tree.role_of_child? hname
  have := htree.avoidsAs (fun _ => false) (fun _ => false) .name (fun _ => true) h (by decide)
    (by decide +kernel) (by decide +kernel) (by decide +kernel) name
    (htree.mem_parts_of_role (Tree.mem_of_child? hname) hrole) hrole
  cases this

/-! ### Names that a statement exports -/

/-- The entry of a specifier in an export list, under its own name or another one. -/
inductive SpecifierEntry (source : List Char) (specifier : Tree) : Binding → Prop where
  | plain {name : Tree} (hname : specifier.child? .name = some name)
      (halias : specifier.child? .alias = none) :
      SpecifierEntry source specifier (.same (name.text source))
  | renamed {name given : Tree} (hname : specifier.child? .name = some name)
      (halias : specifier.child? .alias = some given) (hkind : given.isKind .string = false) :
      SpecifierEntry source specifier ⟨quoted (given.text source), name.text source⟩
  | literal {name given : Tree} (hname : specifier.child? .name = some name)
      (halias : specifier.child? .alias = some given) (hkind : given.isKind .string) :
      SpecifierEntry source specifier ⟨given.text source, name.text source⟩

/-- The specifiers of an export list that give more than a type. -/
def valueSpecifiers (clause : Tree) : List Tree :=
  clause.children.filter fun child => child.isKind .exportSpecifier && !child.hasToken "type"

/-- The names that an export statement gives, each with the local name behind it. -/
inductive NamedExports (source : List Char) (statement : Tree) : List Binding → Prop where
  | types (htypes : isTypeExport statement) : NamedExports source statement []
  | default (hdefault : statement.hasToken "default") : NamedExports source statement []
  | variables {declaration : Tree} {kind : Kind} {leaves : List Tree}
      (hdefault : statement.hasToken "default" = false)
      (hdeclaration : statement.child? .declaration = some declaration)
      (hkind : kind ∈ variableKinds) (hvariables : declaration.isKind kind)
      (hleaves : Lists declaration.start declaration.stop (Declares declaration) leaves) :
      NamedExports source statement (leaves.map fun leaf => .same (leaf.text source))
  | named {declaration name : Tree} {kind : Kind}
      (hdefault : statement.hasToken "default" = false)
      (hdeclaration : statement.child? .declaration = some declaration)
      (hkind : kind ∈ namingKinds) (hnaming : declaration.isKind kind)
      (hname : declaration.child? .name = some name) :
      NamedExports source statement [.same (name.text source)]
  | list {clause : Tree} {bindings : List Binding} (htype : statement.hasToken "type" = false)
      (hdeclaration : statement.child? .declaration = none)
      (hmem : clause ∈ statement.children) (hkind : clause.isKind .exportClause)
      (hentries : List.Forall₂ (SpecifierEntry source) (valueSpecifiers clause) bindings) :
      NamedExports source statement bindings

/-- The names that a form gives. -/
def ExportForm.bindings : ExportForm → List Binding
  | .declaration names => names.map .same
  | .list bindings     => bindings
  | _                  => []

lemma isTypeOnly_iff : isTypeOnly tree ↔ ∃ kind ∈ typeOnlyKinds, tree.isKind kind := by
  simp [isTypeOnly, typeOnlyKinds, or_assoc]

lemma specifierBindings_ok {specifiers : List Tree} {bindings : List Binding}
    (h : specifierBindings source specifiers = .ok bindings) :
    List.Forall₂ (SpecifierEntry source)
      (specifiers.filter fun specifier => !specifier.hasToken "type") bindings := by
  induction specifiers generalizing bindings with
  | nil =>
    cases h
    exact .nil
  | cons specifier specifiers ih =>
    rw [specifierBindings] at h
    split at h
    next htype =>
      rw [List.filter_cons_of_neg (by simp [htype])]
      exact ih h
    next htype =>
      rw [List.filter_cons_of_pos (by simpa using htype)]
      split at h
      · cases h
      next name hname =>
        simp only [bind_eq_ok_iff, pure_eq_ok_iff] at h
        obtain ⟨more, hmore, rfl⟩ := h
        refine .cons ?_ (ih hmore)
        split
        next given halias =>
          split
          next hkind => exact .literal hname halias hkind
          next hkind => exact .renamed hname halias (by simpa using hkind)
        next halias => exact .plain hname halias

/-- What a declaration in an export statement binds. -/
lemma declaredNames_ok {declaration : Tree} {names : List String}
    (hstatement : statement.Parsed source) (hnested : statement.Every (Tree.Nested source))
    (hkind : statement.isKind .exportStatement)
    (hdefault : statement.hasToken "default" = false)
    (hdeclaration : statement.child? .declaration = some declaration)
    (htypes : isTypeOnly declaration = false)
    (h : declaredNames source declaration = .ok names) :
    NamedExports source statement (names.map .same) := by
  have hmem := Tree.mem_of_child? hdeclaration
  have hparsed := hstatement.of_child hmem
  have hdeclared := hnested.of_child hmem
  rw [declaredNames] at h
  split at h
  next hvariables =>
    rw [Bool.or_eq_true] at hvariables
    obtain ⟨kind, hkind, hvariables⟩ : ∃ kind ∈ variableKinds, declaration.isKind kind := by
      simpa [variableKinds] using hvariables
    obtain ⟨leaves, hleaves, rfl⟩ := declaratorNames_ok
      (hdeclared.self.ordered.sublist List.filter_sublist)
      (fun child hchild => hdeclared.of_child (Tree.mem_children_of_mem_namedChildren hchild)) h
    rw [List.map_map]
    refine .variables hdefault hdeclaration hkind hvariables (hleaves.congr fun leaf => ?_)
    constructor
    · rintro ⟨declarator, hdeclarator, hbinds⟩
      exact ⟨declarator, Tree.mem_children_of_mem_namedChildren hdeclarator,
        isKind_variableDeclarator hkind hparsed hvariables hdeclarator, hbinds⟩
    · rintro ⟨declarator, hdeclarator, hdeclaratorKind, hbinds⟩
      exact ⟨declarator, List.mem_filter.mpr
        ⟨hdeclarator, Tree.isNamed_of_isKind hdeclaratorKind (by decide)⟩, hbinds⟩
  next hvariables =>
    obtain ⟨kind, hkinds, hdeclarationKind⟩ := exists_declarationKind hstatement hkind hdeclaration
    simp only [declarationKinds, List.mem_append] at hkinds
    rcases hkinds with ((hkinds | hkinds) | hkinds) | hkinds
    · refine absurd ?_ hvariables
      simp only [variableKinds, List.mem_cons, List.not_mem_nil, or_false] at hkinds
      rcases hkinds with rfl | rfl <;> simp [hdeclarationKind]
    · split at h
      next name hname =>
        split at h
        · cases h
          exact .named hdefault hdeclaration hkinds hdeclarationKind hname
        · cases h
      next => cases h
    · exact absurd (isTypeOnly_iff.mpr ⟨kind, hkinds, hdeclarationKind⟩) (by simp [htypes])
    · rw [List.mem_singleton.mp hkinds] at hdeclarationKind
      rw [child?_importAlias hparsed hdeclarationKind] at h
      cases h

lemma bindings_ofDefault (source : List Char) (statement : Tree) :
    (ExportForm.ofDefault source statement).bindings = [] := by
  unfold ExportForm.ofDefault
  split
  · rfl
  · split
    · rfl
    · split
      · split <;> rfl
      · rfl

/-- The form of an export statement has the names that the statement gives. -/
theorem classify_namedExports {form : ExportForm} (hstatement : statement.Parsed source)
    (hnested : statement.Every (Tree.Nested source)) (hkind : statement.isKind .exportStatement)
    (h : ExportForm.classify source statement = .ok form) :
    NamedExports source statement form.bindings := by
  unfold ExportForm.classify at h
  split at h
  · cases h
  split at h
  · cases h
  split at h
  next htype =>
    cases h
    exact .types (by simp [isTypeExport, htype])
  next htype =>
  split at h
  next hdefault =>
    cases h
    rw [bindings_ofDefault]
    exact .default hdefault
  next hdefault =>
  rw [Bool.not_eq_true] at htype hdefault
  split at h
  next declaration hdeclaration =>
    split at h
    next htypes =>
      cases h
      exact .types (by simp [isTypeExport, hdeclaration, htypes])
    next htypes =>
      rcases hnames : declaredNames source declaration with flaw | names <;> rw [hnames] at h <;>
        cases h
      exact declaredNames_ok hstatement hnested hkind hdefault hdeclaration (by simpa using htypes)
        hnames
  next hdeclaration =>
    split at h
    next clause hclause =>
      have hmem := Tree.mem_children_of_mem_namedChildren (List.mem_of_find?_eq_some hclause)
      have hclauseKind : clause.isKind .exportClause := List.find?_some hclause
      rcases hbindings : specifierBindings source clause.namedChildren with flaw | bindings <;>
        rw [hbindings] at h <;> cases h
      have hspecifiers : valueSpecifiers clause =
          clause.children.filter fun child => !child.hasToken "type" && child.isNamed := by
        refine List.filter_congr fun child hchild => ?_
        have : child.isKind .exportSpecifier = child.isNamed := Bool.eq_iff_iff.mpr
          ⟨fun h => Tree.isNamed_of_isKind h (by decide), fun hnamed => isKind_exportSpecifier
            (hstatement.of_child hmem) hclauseKind (List.mem_filter.mpr ⟨hchild, hnamed⟩)⟩
        rw [this, Bool.and_comm]
      refine .list htype hdeclaration hmem hclauseKind ?_
      have hentries := specifierBindings_ok hbindings
      rwa [Tree.namedChildren, List.filter_filter, ← hspecifiers] at hentries
    next => cases h

/-! ### The exports of a module -/

/-- The forms of the export statements of a module, and what is added to its exports for them. -/
lemma collect_ok {exports exports' : Exports} {statements : List Tree} {edits : List Edit}
    (h : Exports.collect source exports statements = .ok (exports', edits)) :
    ∃ forms, List.Forall₂ (fun statement form => ExportForm.classify source statement = .ok form)
        (statements.filter (Tree.isKind .exportStatement)) forms ∧
      exports'.bindings = exports.bindings ++ (forms.map ExportForm.bindings).flatten := by
  induction statements generalizing exports exports' edits with
  | nil =>
    cases h
    exact ⟨[], .nil, by simp⟩
  | cons statement statements ih =>
    rw [Exports.collect] at h
    split at h
    next hkind =>
      simp only [bind_eq_ok_iff] at h
      obtain ⟨form, hform, h⟩ := h
      split at h
      · cases h
      simp only [bind_eq_ok_iff, Prod.exists, pure_eq_ok_iff, Prod.mk.injEq] at h
      obtain ⟨_, more, hmore, rfl, rfl⟩ := h
      obtain ⟨forms, hforms, hbindings⟩ := ih hmore
      refine ⟨form :: forms, ?_, ?_⟩
      · rw [List.filter_cons_of_pos hkind]
        exact .cons hform hforms
      · rw [hbindings]
        cases form <;> simp [Exports.add, ExportForm.bindings]
    next hkind =>
      rw [List.filter_cons_of_neg hkind]
      exact ih h

lemma exists_of_forall₂ {α β : Type} {r : α → β → Prop} {as : List α} {bs : List β}
    (h : List.Forall₂ r as bs) {a : α} (hmem : a ∈ as) : ∃ b, r a b := by
  induction h with
  | nil => cases hmem
  | cons hr _ ih =>
    rcases List.mem_cons.mp hmem with rfl | hmem
    · exact ⟨_, hr⟩
    · exact ih hmem

/-- What a module exports is what its export statements give, one after another. -/
lemma exports_of_moduleEdits {edits : List Edit} {exports : Exports}
    (h : moduleEdits source tree = .ok (edits, exports)) :
    ∃ forms, List.Forall₂ (fun statement form => ExportForm.classify source statement = .ok form)
        (tree.children.filter (Tree.isKind .exportStatement)) forms ∧
      exports.bindings = (forms.map ExportForm.bindings).flatten := by
  simp only [moduleEdits, bind_eq_ok_iff, pure_eq_ok_iff, Prod.exists, Prod.mk.injEq] at h
  obtain ⟨_, -, _, exporting, hcollect, -, rfl⟩ := h
  obtain ⟨forms, hforms, hbindings⟩ := collect_ok hcollect
  refine ⟨forms, ?_, by simpa [Exports.empty] using hbindings⟩
  rw [Tree.namedChildren, List.filter_filter] at hforms
  convert hforms using 1
  refine List.filter_congr fun child _ => Bool.eq_iff_iff.mpr ?_
  rw [Bool.and_eq_true]
  exact ⟨fun h => ⟨h, Tree.isNamed_of_isKind h (by decide)⟩, fun h => h.1⟩

/-- Whether these are the first bindings of each name, in their order. -/
structure FirstOccurrences (all kept : List Binding) : Prop where
  sublist : kept.Sublist all
  distinct : (kept.map Binding.literal).Nodup
  first : ∀ binding ∈ all, ∃ kept' ∈ kept,
    all.find? (fun other => other.literal == binding.literal) = some kept'

lemma distinct_sublist (seen : List String) (bindings : List Binding) :
    (Exports.distinct seen bindings).Sublist bindings := by
  induction bindings generalizing seen with
  | nil => exact .slnil
  | cons binding bindings ih =>
    rw [Exports.distinct]
    split
    · exact (ih seen).cons binding
    · exact (ih _).cons_cons binding

lemma not_mem_seen_of_mem_distinct {seen : List String} {binding : Binding}
    {bindings : List Binding} (h : binding ∈ Exports.distinct seen bindings) :
    binding.literal ∉ seen := by
  induction bindings generalizing seen with
  | nil => cases h
  | cons other bindings ih =>
    rw [Exports.distinct] at h
    split at h
    next => exact ih h
    next hseen =>
      rcases List.mem_cons.mp h with rfl | h
      · simpa using hseen
      · exact fun hmem => ih h (List.mem_cons_of_mem _ hmem)

lemma nodup_distinct (seen : List String) (bindings : List Binding) :
    ((Exports.distinct seen bindings).map Binding.literal).Nodup := by
  induction bindings generalizing seen with
  | nil => exact .nil
  | cons binding bindings ih =>
    rw [Exports.distinct]
    split
    · exact ih seen
    · rw [List.map_cons, List.nodup_cons]
      refine ⟨fun h => ?_, ih _⟩
      obtain ⟨other, hother, heq⟩ := List.mem_map.mp h
      exact not_mem_seen_of_mem_distinct hother (heq ▸ List.mem_cons_self)

/-- The first binding of a name that was not seen before is kept. -/
lemma find?_mem_distinct {seen : List String} {binding : Binding} {bindings : List Binding}
    (hmem : binding ∈ bindings) (hseen : binding.literal ∉ seen) :
    ∃ kept ∈ Exports.distinct seen bindings,
      bindings.find? (fun other => other.literal == binding.literal) = some kept := by
  induction bindings generalizing seen with
  | nil => cases hmem
  | cons other bindings ih =>
    rw [Exports.distinct]
    by_cases heq : other.literal = binding.literal
    · rw [List.find?_cons_of_pos (by simpa using heq), if_neg (by simpa [heq] using hseen)]
      exact ⟨other, List.mem_cons_self, rfl⟩
    · have hmem : binding ∈ bindings :=
        (List.mem_cons.mp hmem).resolve_left fun h => heq (h ▸ rfl)
      rw [List.find?_cons_of_neg (by simpa using heq)]
      split
      · exact ih hmem hseen
      · obtain ⟨kept, hkept, hfind⟩ := @ih (other.literal :: seen) hmem
          (by simpa [hseen] using fun h => heq h.symm)
        exact ⟨kept, List.mem_cons_of_mem _ hkept, hfind⟩

lemma distinct_firstOccurrences (bindings : List Binding) :
    FirstOccurrences bindings (Exports.distinct [] bindings) where
  sublist := distinct_sublist [] bindings
  distinct := nodup_distinct [] bindings
  first _ hmem := find?_mem_distinct hmem List.not_mem_nil

/-! ### Export keywords -/

/-- Whether a symbol is the keyword that begins an export. -/
def isExportKeyword (symbol : TypeScript.Symbol) : Bool := symbol == .token "export"

/-- Whether a symbol is a keyword of an export. -/
def isKeyword (symbol : TypeScript.Symbol) : Bool :=
  symbol == .token "export" || symbol == .token "default"

/-- Whether a rule reads the keyword `export` once, and `default` not before it. -/
def readsExport : GrammarRule → Bool
  | .seq first (.seq (.word text) last) =>
    text == "export" && first.avoids (fun _ => true) isKeyword &&
      last.avoids (fun _ => true) isExportKeyword
  | _ => false

/-- An export statement has one keyword `export`, and `default` comes after it. -/
lemma exists_exportKeyword (hstatement : statement.Parsed source)
    (hkind : statement.isKind .exportStatement) :
    ∃ first keyword last, statement.parts = first ++ keyword :: last ∧
      keyword.isToken "export" ∧ (∀ part ∈ first, isKeyword part.symbol = false) ∧
      ∀ part ∈ last, isExportKeyword part.symbol = false := by
  obtain ⟨rule, trees, place, later, hrule, -, hread, hparts, -⟩ :=
    hstatement.exists_rule readsExport hkind (by decide) (by decide +kernel)
  unfold readsExport at hrule
  split at hrule
  next first text last =>
    simp only [Bool.and_eq_true, beq_iff_eq] at hrule
    obtain ⟨⟨rfl, hfirst⟩, hlast⟩ := hrule
    cases hread with | seq hreadFirst hread =>
    cases hread with | seq hword hreadLast =>
    cases hword with | word =>
    have hkeywords {p : TypeScript.Symbol → Bool} {trees : List Tree}
        (h : ∀ tree ∈ trees, p tree.symbol = false) :
        ∀ part ∈ trees.map (Tree.withComments source), p part.symbol = false :=
      List.forall_mem_map.mpr fun tree hmem => by rw [Tree.symbol_withComments, h tree hmem]
    rw [List.map_append, List.map_append] at hparts
    refine ⟨_, _, _, hparts, rfl, ?_, ?_⟩
    · exact hkeywords ((hreadFirst.avoids
        (TypeScript.avoids_of_clears (by decide +kernel))).1 hfirst)
    · exact hkeywords ((hreadLast.avoids
        (TypeScript.avoids_of_clears (by decide +kernel))).1 hlast)
  next => cases hrule

/-- The keyword `export` is found in an export statement, and `default` comes after it. -/
lemma exportKeyword_spec (hstatement : statement.Parsed source) (hnested : statement.Nested source)
    (hkind : statement.isKind .exportStatement) {keyword : Tree}
    (hmem : keyword ∈ statement.children) (hkeyword : keyword.isToken "export") :
    statement.token? "export" = some keyword ∧
    ∀ token, statement.token? "default" = some token → keyword.stop ≤ token.stop := by
  obtain ⟨first, keyword', last, hparts, -, hfirst, hlast⟩ := exists_exportKeyword hstatement hkind
  have hpart {text : String} {part : Tree} (hpart : part ∈ statement.children)
      (htext : part.isToken text) : part ∈ first ∨ part = keyword' ∨ part ∈ last := by
    rw [← List.mem_cons, ← List.mem_append, ← hparts]
    refine Tree.mem_parts hpart ?_
    rw [Tree.isToken_iff] at htext
    simp [Tree.isKind, htext]
  have hunique {part : Tree} (h : part ∈ statement.children) (htext : part.isToken "export") :
      part = keyword' := by
    have hsymbol := Tree.isToken_iff.mp htext
    rcases hpart h htext with h | h | h
    · exact absurd (hfirst part h) (by simp [isKeyword, hsymbol])
    · exact h
    · exact absurd (hlast part h) (by simp [isExportKeyword, hsymbol])
  obtain rfl := hunique hmem hkeyword
  constructor
  · obtain ⟨token, htoken⟩ := Option.isSome_iff_exists.mp
      (List.find?_isSome.mpr ⟨keyword, hmem, hkeyword⟩)
    rw [Tree.token?, htoken, hunique (List.mem_of_find?_eq_some htoken) (List.find?_some htoken)]
  · intro token htoken
    have htext : token.isToken "default" := List.find?_some htoken
    have hsymbol := Tree.isToken_iff.mp htext
    have hordered : Tree.Ordered statement.start statement.stop (first ++ keyword :: last) :=
      hparts ▸ hnested.ordered.sublist List.filter_sublist
    obtain ⟨_, -, -, hspan, hlater⟩ := hordered.of_append
    rcases hpart (Tree.mem_of_token? htoken) htext with h | rfl | h
    · exact absurd (hfirst token h) (by simp [isKeyword, hsymbol])
    · exact Nat.le_refl _
    · have := hlater.mem h
      exact Nat.le_trans this.1 this.2.1

lemma hasToken_of_ofDefault {form : ExportForm}
    (h : ExportForm.classify source statement = .ok form) (hdefault : Exports.givesDefault form) :
    statement.hasToken "default" := by
  unfold ExportForm.classify at h
  split at h
  · cases h
  split at h
  · cases h
  split at h
  · cases h
    cases hdefault
  split at h
  · assumption
  split at h
  next declaration _ =>
    split at h
    · cases h
      cases hdefault
    · rcases hnames : declaredNames source declaration with flaw | names <;> rw [hnames] at h <;>
        cases h
      cases hdefault
  next =>
    split at h
    next clause _ =>
      rcases hbindings : specifierBindings source clause.namedChildren with flaw | bindings <;>
        rw [hbindings] at h <;> cases h
      cases hdefault
    next => cases h

/-- What an export statement takes out holds its keyword `export`. -/
lemma exists_exportRange {form : ExportForm} (hstatement : statement.Parsed source)
    (hnested : statement.Nested source) (hkind : statement.isKind .exportStatement)
    (hform : ExportForm.classify source statement = .ok form) {keyword : Tree}
    (hmem : keyword ∈ statement.children) (hkeyword : keyword.isToken "export") :
    ∃ range ∈ exportRanges source statement,
      range.start ≤ keyword.start ∧ keyword.stop ≤ range.stop := by
  obtain ⟨hfind, hlater⟩ := exportKeyword_spec hstatement hnested hkind hmem hkeyword
  have hin := hnested.ordered.mem hmem
  have hdefault (h : Exports.givesDefault form) : keyword.stop ≤ defaultEnd statement := by
    obtain ⟨token, htoken⟩ := Option.isSome_iff_exists.mp (hasToken_of_ofDefault hform h)
    simpa only [defaultEnd, htoken] using hlater token htoken
  simp only [exportRanges, hkind, hform, if_true]
  cases form with
  | typeOnly | list => exact ⟨_, List.mem_singleton_self _, hin.1, hin.2.2⟩
  | declaration => exact ⟨keyword.span, by simp [hfind], Nat.le_refl _, Nat.le_refl _⟩
  | defaultDeclaration | defaultValue =>
    exact ⟨_, List.mem_singleton_self _, hin.1, hdefault rfl⟩

/-! ### Scripts -/

end Stencil.Erasure
