import Stencil.Proofs.Namespaces
import Stencil.Proofs.Readers

/-!
# Properties that parameters declare

A constructor assigns the properties that its parameters declare in one insertion, behind the first
statement of its body that calls the base constructor, or at the start of the body. The insertion is
in the script, once, unless an edit begins at its place (`mem_ordered_properties_iff`).
-/

namespace Stencil.Erasure

open Text
open TypeScript (Tree Kind Span BeginsName)

variable {source : List Char} {tree method body : Tree} {parameters : List Tree}
  {names : List String} {edits : List Edit} {edit : Edit} {exports : Exports} {offset : Nat}

/-! ### What is assigned -/

/-- Whether a parameter binds a single name. -/
def BindsName (source : List Char) (parameter : Tree) (name : String) : Prop :=
  ∃ leaf, parameter.child? .pattern = some leaf ∧ leaf.isKind .identifier ∧ name = leaf.text source

/-- Whether the parameters that declare properties bind these names, in order. -/
def DeclareProperties (source : List Char) (parameters : List Tree) (names : List String) : Prop :=
  List.Forall₂ (BindsName source) (parameters.filter declaresProperty) names

lemma DeclareProperties.map_eq (h : DeclareProperties source parameters names) :
    ((parameters.filter declaresProperty).map fun parameter =>
      (parameter.child? .pattern).map fun leaf => leaf.text source) = names.map some := by
  rw [DeclareProperties] at h
  generalize parameters.filter declaresProperty = declaring at h ⊢
  induction h with
  | nil => rfl
  | cons hbinds _ ih =>
    obtain ⟨leaf, hleaf, -, rfl⟩ := hbinds
    rw [List.map_cons, List.map_cons, ih, hleaf, Option.map_some]

/-- The assignment of a property. -/
def propertyAssignment (name : String) : String := " this." ++ name ++ " = " ++ name ++ ";"

/-- The assignments of properties are those of the names that their parameters bind, and there are
none when one of them binds a pattern. -/
theorem propertyAssignments_eq_ok_iff {text : String} :
    propertyAssignments source parameters = .ok text ↔
      ∃ names, DeclareProperties source parameters names ∧
        text = String.join (names.map propertyAssignment) := by
  induction parameters generalizing text with
  | nil =>
    rw [propertyAssignments, Except.ok.injEq]
    constructor
    · rintro rfl
      exact ⟨[], .nil, rfl⟩
    · rintro ⟨names, hnames, rfl⟩
      cases hnames
      rfl
  | cons parameter parameters ih =>
    rw [propertyAssignments]
    rcases hproperty : declaresProperty parameter with _ | _
    · have hskip : ¬ declaresProperty parameter = true := by simp [hproperty]
      rw [if_neg (by simp), ih]
      simp only [DeclareProperties, List.filter_cons_of_neg hskip]
    rw [if_pos rfl]
    simp only [DeclareProperties, List.filter_cons_of_pos hproperty, List.forall₂_cons_left_iff]
    rcases hname : (parameter.child? .pattern).filter (Tree.isKind .identifier) with _ | leaf
    · refine iff_of_false nofun ?_
      rintro ⟨_, ⟨name, names, ⟨leaf, hleaf, hkind, -⟩, -, -⟩, -⟩
      simp [hleaf, hkind] at hname
    obtain ⟨hleaf, hkind⟩ := Option.filter_eq_some_iff.mp hname
    have hbinds : ∀ name, BindsName source parameter name ↔ name = leaf.text source := by
      intro name
      constructor
      · rintro ⟨other, hother, -, rfl⟩
        rw [hleaf] at hother
        cases hother
        rfl
      · exact fun h => ⟨leaf, hleaf, hkind, h⟩
    simp only [bind_eq_ok_iff, pure_eq_ok_iff, ih, hbinds]
    constructor
    · rintro ⟨_, ⟨names, hnames, rfl⟩, rfl⟩
      refine ⟨_, ⟨_, names, rfl, hnames, rfl⟩, ?_⟩
      rw [List.map_cons, String.join_cons, propertyAssignment]
    · rintro ⟨_, ⟨_, names, rfl, hnames, rfl⟩, rfl⟩
      refine ⟨_, ⟨names, hnames, rfl⟩, ?_⟩
      rw [List.map_cons, String.join_cons, propertyAssignment]

lemma exists_properties_eq (name : String) (names : List String) :
    ∃ rest, (String.join ((name :: names).map propertyAssignment)).toList = ' ' :: 't' :: rest := by
  refine ⟨("his." ++ name ++ " = " ++ name ++ ";" ++
    String.join (names.map propertyAssignment)).toList, ?_⟩
  rw [List.map_cons, String.join_cons, propertyAssignment]
  simp only [String.toList_append, List.append_assoc]
  rfl

lemma join_propertyAssignment_isEmpty :
    (String.join (names.map propertyAssignment)).isEmpty ↔ names = [] := by
  rcases names with _ | ⟨name, names⟩
  · simp
  · obtain ⟨rest, heq⟩ := exists_properties_eq name names
    rw [String.isEmpty_iff, ← String.toList_eq_nil_iff, heq]
    simp

/-! ### What a script reads -/

section Reading

open Script (Token)
open Script.Token
open Script.Syntax

/-- The statement that assigns a property. -/
def propertyStatement (name : String) : Script.Tree :=
  .expression (.assign (.member .this (.named (.ofString name)) false) (.name (.ofString name)))

/-- Whether a name is read as it is written, and as that of a variable. -/
def IsScriptName (c : Context) (name : String) : Prop :=
  IsNameText name.toList ∧ IsPlainName c name

variable {c : Context} {name : String}

lemma propertyAssignment_append (name : String) (rest : List Char) :
    (propertyAssignment name).toList ++ rest = ' ' :: 't' :: 'h' :: 'i' :: 's' :: '.' ::
      (name.toList ++ ' ' :: '=' :: ' ' :: (name.toList ++ ';' :: rest)) := by
  simp [propertyAssignment]

lemma leads_this (text : List Char) :
    Leads (' ' :: 't' :: 'h' :: 'i' :: 's' :: '.' :: text) false (.name "this" false)
      ('.' :: text) := ⟨_, rfl, rfl⟩

/-- The assignment of a property is read as a statement of its own. -/
lemma writes_propertyAssignment (hname : IsScriptName c name) (hlimit : 1 < c.limit) :
    Writes c (propertyAssignment name).toList [propertyStatement name] := by
  obtain ⟨htext, hplain⟩ := hname
  have hspells := htext.spells
  rw [String.ofList_toList] at hspells
  obtain ⟨d, ds, heq, hd, -⟩ := id htext
  have hpoint (text : List Char) :
      Leads ('.' :: (name.toList ++ text)) false (.mark ".") (name.toList ++ text) := by
    rw [heq]
    exact leads_point hd _
  have hbegins : beginsValue c.allowIn (.name name false) := .inl ⟨name, false, rfl, hplain⟩
  have hlimit' := Nat.lt_of_succ_lt hlimit
  refine writes_singleton (.inr rfl) (fun rest => ?_)
    ⟨4, fun fuel hfuel rest hrest => ?_⟩ <;> rw [propertyAssignment_append]
  · exact ⟨_, _, leads_this _⟩
  obtain ⟨fuel, rfl⟩ := Nat.exists_eq_add_of_le' hfuel
  have hthis := leads_this (name.toList ++ ' ' :: '=' :: ' ' :: (name.toList ++ ';' :: rest))
  have hequals := (leads_equals (name.toList ++ ';' :: rest)).space
  have hvalue := (hspells ';' (by simp) rest).space
  have hsemicolon := leads_semicolon rest
  refine reads_item_assigning hthis (.inr rfl) (hpoint _) (by simp) ?_ hequals hvalue.lexes ?_
    hsemicolon hrest hlimit'
  · exact reads_operand_point hthis (.inr (.inl rfl))
      (reads_primary_this hthis (hpoint _).lexes) (hpoint _) (hspells ' ' (by simp) _) hequals
      (by simp [endsOperand]) hlimit
  · exact reads_assignment_of_unary hvalue (.inl hbegins)
      (reads_operand hvalue hbegins (reads_primary_name hvalue hsemicolon.lexes hplain) hsemicolon
        (by simp [endsOperand]) hlimit')
      rfl hsemicolon (by simp [endsAssignment]) hlimit'

/-- The assignments of properties are read as statements of their own. -/
theorem writes_propertyAssignments (hnames : ∀ name ∈ names, IsScriptName c name)
    (hlimit : 1 < c.limit) :
    Writes c (String.join (names.map propertyAssignment)).toList (names.map propertyStatement) := by
  induction names with
  | nil => exact writes_nil c
  | cons name names ih =>
    obtain ⟨hname, hnames⟩ := List.forall_mem_cons.mp hnames
    rw [List.map_cons, String.join_cons, String.toList_append]
    exact (writes_propertyAssignment hname hlimit).append (ih hnames)

end Reading

/-! ### Where it is assigned -/

/-- The place in the body of a constructor where properties are assigned. -/
inductive PropertyPlace (body : Tree) : Nat → Prop where
  /-- Right behind the first statement that calls the base constructor. -/
  | behind {first last : List Tree} {call : Tree}
      (hbody : body.namedChildren = first ++ call :: last) (hcall : isSuperCall call)
      (hfirst : ∀ statement ∈ first, isSuperCall statement = false) : PropertyPlace body call.stop
  /-- Right behind the opening brace. -/
  | opening (hnone : ∀ statement ∈ body.namedChildren, isSuperCall statement = false) :
      PropertyPlace body (body.start + 1)

/-- Whether a method is named `constructor`. -/
def isConstructor (source : List Char) (method : Tree) : Bool :=
  ((method.child? .name).map fun name => name.text source == "constructor").getD false

/-- The edits of a method that assign properties: none, or a single insertion in a constructor. -/
theorem parameterProperties_eq_ok (h : parameterProperties source method = .ok edits)
    {parameters : Tree} (hparameters : method.child? .parameters = some parameters)
    (hbody : method.child? .body = some body) :
    isConstructor source method = false ∧ edits = [] ∨
      isConstructor source method ∧ ∃ names offset,
        DeclareProperties source parameters.namedChildren names ∧ PropertyPlace body offset ∧
        edits = if names = [] then []
          else [.insert offset (String.join (names.map propertyAssignment))] := by
  simp only [parameterProperties, hparameters, hbody] at h
  rcases hname : isConstructor source method with _ | _ <;> rw [isConstructor] at hname <;>
    simp only [hname, Bool.false_eq_true, if_true, if_false, bind_eq_ok_iff,
      propertyAssignments_eq_ok_iff] at h
  · cases h
    exact .inl ⟨rfl, rfl⟩
  obtain ⟨text, ⟨names, hnames, rfl⟩, h⟩ := h
  obtain ⟨offset, hplace, h⟩ : ∃ offset, PropertyPlace body offset ∧
      (if (String.join (names.map propertyAssignment)).isEmpty then pure []
        else pure [.insert offset (String.join (names.map propertyAssignment))]) =
          Except.ok edits := by
    rcases hcall : body.namedChildren.find? isSuperCall with _ | call <;> rw [hcall] at h
    · exact ⟨_, .opening (by simpa using hcall), h⟩
    · obtain ⟨hsuper, first, last, hchildren, hfirst⟩ := List.find?_eq_some_iff_append.mp hcall
      exact ⟨_, .behind hchildren hsuper (by simpa using hfirst), h⟩
  refine .inr ⟨rfl, names, offset, hnames, hplace, ?_⟩
  by_cases hempty : names = []
  · rw [if_pos (join_propertyAssignment_isEmpty.mpr hempty), pure_eq_ok_iff] at h
    rw [if_pos hempty, h]
  · rw [if_neg (mt join_propertyAssignment_isEmpty.mp hempty), pure_eq_ok_iff] at h
    rw [if_neg hempty]
    exact h.symm

lemma PropertyPlace.inBlock (hsound : body.Sound source) (hblock : body.isKind .statementBlock)
    (h : PropertyPlace body offset) : InBlock body offset := by
  cases h with
  | behind hbody =>
    have hmem : _ ∈ body.namedChildren := hbody ▸ List.mem_append_right _ List.mem_cons_self
    obtain ⟨hchild, hnamed⟩ := List.mem_filter.mp hmem
    exact .of_part hsound hblock hchild hnamed
  | opening => exact .of_opening hsound hblock

/-! ### Assignments among the edits of a module -/

/-- A method and a block are erased by their parts. -/
lemma erase_parts {kind : Kind} {inClass : Bool} {next : Option Tree}
    (hkind : tree.symbol = .kind kind) (hparts : kind ∈ [.methodDefinition, .statementBlock])
    (h : erase source inClass next tree = .ok edits) :
    ∃ own inner, ownEdits source tree = .ok own ∧
      eraseAmong source false tree.children = .ok inner ∧ edits = own ++ inner := by
  simp only [List.mem_cons, List.not_mem_nil, or_false] at hparts
  cases erase_erases h with
  | parts _ hown hinner =>
    refine ⟨_, _, hown, ?_, rfl⟩
    rw [Tree.isKind, hkind] at hinner
    rcases hparts with rfl | rfl <;> exact hinner
  | member hother | whole hother | enumeration hother | absent hother | present hother
  | assertion hother =>
    rcases hparts with rfl | rfl <;>
      simp [isErasedMember, isTypeSyntax, typeKinds, isErased, isNamespace, isAssertion,
        Tree.isKind, hkind] at hother

/-- What is made for a block holds a place between two of its parts only when it begins there. -/
lemma start_eq_of_erase_block {inClass : Bool} {next : Option Tree} (hsound : body.Sound source)
    (h : erase source inClass next body = .ok edits) (hin : InBlock body offset)
    (hmem : edit ∈ edits) (hholds : Holds offset edit) : edit.start = offset := by
  have hkind := Tree.isKind_iff.mp hin.isBlock
  obtain ⟨own, inner, hown, hinner, rfl⟩ := erase_parts hkind (by simp) h
  rw [ownEdits, hkind] at hown
  cases hown
  obtain ⟨first, part, last, own, hchildren, hown, hmem⟩ :=
    (walks_of_eraseAmong hinner).exists_of_mem hmem
  have hpart : part ∈ body.children := by simp [hchildren]
  have houtside := hin.cut.outside hsound.nested.self hpart
  obtain ⟨hstart, hstop⟩ := hholds
  rcases erase_within (hsound.of_child hpart) hown hmem with hempty | hwithin | ⟨hclass, -⟩
  · omega
  · obtain ⟨hbegin, -, hend⟩ := hwithin
    simp only [rangeOf] at hbegin hend
    omega
  · cases hclass

/-- How assignments of properties stand among the edits of a module: those made before do not hold
their place, and those made after only when they begin there. -/
structure PropertiesAt (edits : List Edit) (offset : Nat) (text : String)
    (before after : List Edit) : Prop where
  split : edits = before ++ .insert offset text :: after
  before : ∀ edit ∈ before, ¬ Holds offset edit
  after : ∀ edit ∈ after, Holds offset edit → edit.start = offset

/-- The assignments stay among the edits unless one of them begins at their place. -/
theorem PropertiesAt.mem_ordered_iff {text : String} {before after : List Edit}
    (h : PropertiesAt edits offset text before after) (hlaminar : Edits.Laminar edits)
    (hcount : edits.count (.insert offset text) ≤ 1) :
    .insert offset text ∈ (Edits.ofList edits).ordered ↔
      ∀ edit ∈ edits, edit.start = offset → edit.stop ≤ offset := by
  have hlast : .insert offset text ∉ after := by
    intro hmem
    have := List.count_pos_iff.mpr hmem
    rw [h.split, List.count_append, List.count_cons_self] at hcount
    omega
  have hinside : ∀ other ∈ before, ¬ other.hasInside offset := by
    intro other hmem hinside
    obtain ⟨hstart, hstop⟩ := Edit.hasInside_iff.mp hinside
    exact h.before other hmem ⟨Nat.le_of_lt hstart, hstop⟩
  rw [Edits.mem_ordered, h.split]
  rw [h.split] at hlaminar
  refine (Edits.mem_ofList_iff_of_insertion hlaminar rfl hinside hlast).trans ⟨?_, ?_⟩
  · intro hcovered edit hmem hstart
    by_contra hstop
    rw [Nat.not_le] at hstop
    rw [List.mem_append, List.mem_cons] at hmem
    rcases hmem with hmem | rfl | hmem
    · exact h.before edit hmem ⟨Nat.le_of_eq hstart, hstop⟩
    · exact absurd hstop (Nat.lt_irrefl _)
    · obtain ⟨outer, houter, hcovers⟩ := hcovered edit hmem (Nat.le_of_eq hstart) hstop
      obtain ⟨-, hle, hle'⟩ := Edit.covers_iff.mp hcovers
      exact h.before outer houter ⟨by omega, by omega⟩
  · intro hnone other hmem hstart hstop
    have := hnone other (by simp [hmem]) (h.after other hmem ⟨hstart, hstop⟩)
    exact absurd hstop (Nat.not_lt.mpr this)

section Method

variable (htree : tree.WellFormed source) (hedits : moduleEdits source tree = .ok (edits, exports))
  (hmethod : method ∈ tree.nodes) (hkind : method.isKind .methodDefinition)
  (hkept : ∀ edit ∈ edits, ¬ Spans edit method.span) {parameters : Tree}
  (hparameters : method.child? .parameters = some parameters)
  (hbody : method.child? .body = some body)
include htree hedits hmethod hkind hkept hparameters hbody

/-- A constructor assigns the properties that its parameters declare. -/
lemma exists_propertiesAt (hname : isConstructor source method) :
    ∃ names offset, DeclareProperties source parameters.namedChildren names ∧
      PropertyPlace body offset ∧ InBlock body offset ∧ (names ≠ [] → ∃ before after,
        PropertiesAt edits offset (String.join (names.map propertyAssignment)) before after) := by
  have hscope : isScope method := isScope_of_method hkind
  have hsound := htree.toSound.of_mem hmethod
  have hbodyMem := Tree.mem_of_child? hbody
  have hbodySound := hsound.of_child hbodyMem
  have hblock := (hsound.block_of_child?
    ⟨.methodDefinition, by simp [TypeScript.endingKinds], hkind⟩ hbody).1
  obtain ⟨inClass, next, outer, made, outer', hmade, heq, houter, houter'⟩ :=
    moduleEdits_isolated hscope htree hedits hmethod hkept
  obtain ⟨own, inner, hown, hinner, rfl⟩ :=
    erase_parts (Tree.isKind_iff.mp hkind) List.mem_cons_self hmade
  rw [ownEdits, Tree.isKind_iff.mp hkind] at hown
  simp only [bind_eq_ok_iff, pure_eq_ok_iff] at hown
  obtain ⟨properties, hproperties, rfl⟩ := hown
  obtain ⟨hother, -⟩ | ⟨-, names, offset, hnames, hplace, rfl⟩ :=
    parameterProperties_eq_ok hproperties hparameters hbody
  · rw [hname] at hother
    cases hother
  have hin := hplace.inBlock hbodySound hblock
  have hspan := hsound.ordered.mem hbodyMem
  have hstart := hin.start
  have hstop := hin.stop
  refine ⟨names, offset, hnames, hplace, hin, fun hne => ?_⟩
  rw [if_neg hne] at heq
  have hbeside {more : List Edit} (hmore : AllBeside method more) (hsub : more ⊆ edits) :
      ∀ edit ∈ more, ¬ Holds offset edit := by
    rintro edit hedit ⟨hbegin, hend⟩
    have hnot := hkept edit (hsub hedit)
    rcases hmore method (Tree.mem_nodes_self method) hscope edit hedit with hempty | hbeside
    · omega
    · simp only [Beside, Spans, rangeOf, Tree.start, Tree.stop] at *
      omega
  refine ⟨outer ++ blankTokens ["?"] method.children, inner ++ outer', ?_, ?_, ?_⟩
  · rw [heq]
    simp only [List.append_assoc, List.cons_append, List.nil_append]
  · intro edit hedit hholds
    rcases List.mem_append.mp hedit with hedit | hedit
    · exact hbeside houter (by simp [heq]) edit hedit hholds
    · obtain ⟨token, htoken, rfl⟩ := List.mem_map.mp hedit
      obtain ⟨htoken, hmark⟩ := List.mem_filter.mp htoken
      obtain ⟨hbegin, hend⟩ := hholds
      simp only [blankTree, Edit.blank] at hbegin hend
      rcases hsound.ordered.apart htoken hbodyMem with rfl | hapart
      · rw [Tree.isKind_iff] at hblock
        simp [Tree.isToken, hblock] at hmark
      · omega
  · intro edit hedit hholds
    rcases List.mem_append.mp hedit with hedit | hedit
    · obtain ⟨first, part, last, made, hchildren, hmade, hedit⟩ :=
        (walks_of_eraseAmong hinner).exists_of_mem hedit
      have hpart : part ∈ method.children := by simp [hchildren]
      rcases hsound.ordered.apart hpart hbodyMem with rfl | hapart
      · exact start_eq_of_erase_block hbodySound hmade hin hedit hholds
      obtain ⟨hbegin, hend⟩ := hholds
      rcases erase_within (hsound.of_child hpart) hmade hedit with
        hempty | ⟨hpartStart, -, hpartStop⟩ | ⟨hclass, -⟩
      · omega
      · simp only [rangeOf] at hpartStart hpartStop
        omega
      · cases hclass
    · exact absurd hholds (hbeside houter' (heq ▸ List.subset_append_right _ _) edit hedit)

end Method

/-- A method that is no constructor, or whose parameters declare no property, inserts nothing in its
body, and a constructor nothing but the assignments of the properties. -/
lemma eq_of_property_insertion (hparse : TypeScript.parse source = .ok tree)
    (hedits : moduleEdits source tree = .ok (edits, exports)) (hmethod : method ∈ tree.nodes)
    (hkind : method.isKind .methodDefinition) {parameters : Tree}
    (hparameters : method.child? .parameters = some parameters)
    (hbody : method.child? .body = some body) {place : Nat} {text : String}
    (hin : InBlock body place) (hspaced : IsSpaced text) (hmem : .insert place text ∈ edits) :
    isConstructor source method ∧ ∃ names, DeclareProperties source parameters.namedChildren names ∧
      names ≠ [] ∧ PropertyPlace body place ∧
      text = String.join (names.map propertyAssignment) := by
  have hgenerates := generates_of_insertion hparse hedits hmethod hbody hin hspaced hmem
  generalize hedit : Edit.insert place text = edit at hgenerates
  rw [Tree.isKind_iff] at hkind
  cases hgenerates with
  | properties _ hproperties hproperty =>
    subst hedit
    obtain ⟨-, rfl⟩ | ⟨hname, names, offset, hnames, hplace, rfl⟩ :=
      parameterProperties_eq_ok hproperties hparameters hbody
    · cases hproperty
    split at hproperty
    · cases hproperty
    next hne =>
      obtain ⟨rfl, -, htext⟩ := Edit.mk.inj (List.mem_singleton.mp hproperty)
      exact ⟨hname, names, hnames, hne, hplace, Option.some.inj htext⟩
  | enumeration hother | returnType hother =>
    rw [Tree.isKind_iff, hkind] at hother
    cases hother
  | frame hother | assignment hother =>
    rcases isNamespace_iff.mp hother with h | h <;> rw [hkind] at h <;> cases h

/-! ### Scripts -/

/-- The parameters of a constructor that declare properties bind plain names, and its script assigns
these, in order and right behind the first statement that calls the base constructor or at the start
of the body, unless an edit begins there. They are assigned once, and nothing else is assigned in the
body of a method. A reader of scripts takes the assignments for statements of their own where a
statement may begin, but does not take a statement without a semicolon to end before them. -/
theorem transpile_properties {source file script : String}
    (h : transpile source file = .ok script) :
    ∃ tree edits exports, TypeScript.parse source.toList = .ok tree ∧
      moduleEdits source.toList tree = .ok (edits, exports) ∧
      ∀ method ∈ tree.nodes, method.isKind .methodDefinition →
        (∀ edit ∈ edits, ¬ Spans edit method.span) →
        ∀ parameters body, method.child? .parameters = some parameters →
          method.child? .body = some body →
          (isConstructor source.toList method → ∃ names offset,
            DeclareProperties source.toList parameters.namedChildren names ∧
            PropertyPlace body offset ∧
            (names ≠ [] →
              let edit := .insert offset (String.join (names.map propertyAssignment))
              (edit ∈ (Edits.ofList edits).ordered ↔
                ∀ other ∈ edits, other.start = offset → other.stop ≤ offset) ∧
              (edit ∈ (Edits.ofList edits).ordered →
                AssignsOnce source script edits exports edit)) ∧
            ∀ context, 1 < context.limit → (∀ name ∈ names, IsScriptName context name) →
              Script.Syntax.Writes context (String.join (names.map propertyAssignment)).toList
                (names.map propertyStatement)) ∧
          ∀ place text, InBlock body place → IsSpaced text → .insert place text ∈ edits →
            isConstructor source.toList method ∧ ∃ names,
              DeclareProperties source.toList parameters.namedChildren names ∧ names ≠ [] ∧
              PropertyPlace body place ∧ text = String.join (names.map propertyAssignment) := by
  obtain ⟨tree, edits, exports, text, hparse, hedits, htext, rfl⟩ := transpile_ok h
  have htree := TypeScript.parse_wellFormed hparse
  have hlaminar := moduleEdits_laminar htree hedits
  have houtermost := Edits.ofList_outermost hlaminar
  refine ⟨tree, edits, exports, hparse, hedits,
    fun method hmethod hkind hkept parameters body hparameters hbody => ⟨fun hname => ?_,
      fun place text hin hspaced hmem => eq_of_property_insertion hparse hedits hmethod hkind
        hparameters hbody hin hspaced hmem⟩⟩
  obtain ⟨names, offset, hnames, hplace, -, hassigned⟩ :=
    exists_propertiesAt htree hedits hmethod hkind hkept hparameters hbody hname
  refine ⟨names, offset, hnames, hplace, fun hne => ?_,
    fun context hlimit hscript => writes_propertyAssignments hscript hlimit⟩
  obtain ⟨before, after, hassigned⟩ := hassigned hne
  obtain ⟨first, others, rfl⟩ := List.exists_cons_of_ne_nil hne
  obtain ⟨rest, heq⟩ := exists_properties_eq first others
  have hspaced : IsSpaced (String.join ((first :: others).map propertyAssignment)) := by
    rw [IsSpaced, heq]
    rfl
  have hcount : edits.count
      (.insert offset (String.join ((first :: others).map propertyAssignment))) ≤ 1 :=
    moduleEdits_count_le_one hparse hedits hspaced
  refine ⟨hassigned.mem_ordered_iff hlaminar hcount, fun hmem => ?_⟩
  refine assignsOnce_of_mem ((Edits.applyTo?_eq_some hlaminar).mp htext) ?_ rfl hmem
    ⟨'t', rest, heq, .inl (by decide)⟩
  rw [Edits.ordered, (List.mergeSort_perm _ _).count_eq]
  exact Nat.le_trans (houtermost.sublist.count_le _) hcount

/-- A constructor that calls the base constructor without a semicolon. -/
def derivedConstructor : String :=
  "class A extends B\x7bconstructor(public p,q,readonly r)\x7bsuper()\x7d\x7d"

/-- What is made for it. -/
def derivedEdits : List Edit :=
  [.insert 60 " this.p = p; this.r = r;", .blank 30 36, .blank 41 49]

lemma applyTo?_derivedEdits : (Edits.ofList derivedEdits).applyTo? derivedConstructor.toList =
    some ("class A extends B\x7bconstructor(       p,q,         r)" ++
      "\x7bsuper() this.p = p; this.r = r;\x7d\x7d").toList := by
  have hordered : (Edits.ofList derivedEdits).items.mergeSort Edit.le =
      [.blank 30 36, .blank 41 49, .insert 60 " this.p = p; this.r = r;"] := by
    have hitems : (Edits.ofList derivedEdits).items = derivedEdits := by decide
    rw [hitems]
    simp [derivedEdits, List.mergeSort, Edit.le, Edit.blank, Edit.insert]
  rw [Edits.applyTo?, hordered]
  decide

/-- Whether a node is that constructor. -/
def isDerivedConstructor (node : Tree) : Bool :=
  node.isKind .methodDefinition && isConstructor derivedConstructor.toList node &&
  node.start == 18 && node.stop == 61 &&
    match node.child? .parameters, node.child? .body with
    | some parameters, some body =>
      ((parameters.namedChildren.filter declaresProperty).map fun parameter =>
        (parameter.child? .pattern).map fun leaf => leaf.text derivedConstructor.toList) ==
          [some "p", some "r"] &&
      (body.namedChildren.map fun statement => (isSuperCall statement, statement.stop)) ==
        [(true, 60)]
    | _, _ => false

/-- Two of three parameters declare properties. They are assigned right behind the call, which does
not end before them. -/
theorem transpile_properties_derived :
    ∃ tree script, ∃ method parameters body : Tree,
      TypeScript.parse derivedConstructor.toList = .ok tree ∧
      moduleEdits derivedConstructor.toList tree = .ok (derivedEdits, .empty) ∧
      transpile derivedConstructor "BP/t.ts" = .ok script ∧ method ∈ tree.nodes ∧
      method.child? .parameters = some parameters ∧ method.child? .body = some body ∧
      DeclareProperties derivedConstructor.toList parameters.namedChildren ["p", "r"] ∧
      PropertyPlace body 60 ∧
      AssignsOnce derivedConstructor script derivedEdits .empty
        (.insert 60 " this.p = p; this.r = r;") := by
  have heval : ((TypeScript.parse derivedConstructor.toList).toOption.map fun tree =>
      ((moduleEdits derivedConstructor.toList tree).toOption,
        tree.nodes.any isDerivedConstructor)) = some (some (derivedEdits, .empty), true) := by
    decide +kernel
  obtain ⟨tree, hparse, heval⟩ := exists_of_parse heval
  obtain ⟨hedits, hnode⟩ := Prod.mk.inj heval
  have hedits := toOption_eq_some hedits
  simp only [List.any_eq_true, isDerivedConstructor, Bool.and_eq_true, beq_iff_eq] at hnode
  obtain ⟨method, hmethod, ⟨⟨⟨hkind, hname⟩, hstart⟩, hstop⟩, hparts⟩ := hnode
  split at hparts
  next parameters body hparameters hbody =>
    rw [Bool.and_eq_true, beq_iff_eq, beq_iff_eq] at hparts
    obtain ⟨hpatterns, hstatements⟩ := hparts
    have hscript := transpile_eq "BP/t.ts" hparse hedits applyTo?_derivedEdits
    obtain ⟨_, _, _, hparse', hedits', hmethods⟩ := transpile_properties hscript
    rw [hparse] at hparse'
    cases hparse'
    rw [hedits] at hedits'
    cases hedits'
    have hkept : ∀ edit ∈ derivedEdits, ¬ Spans edit method.span := by
      have hnone : ∀ edit ∈ derivedEdits, ¬ (edit.start ≤ 18 ∧ 61 ≤ edit.stop) := by decide
      intro edit hedit hspans
      exact hnone edit hedit (hstart ▸ hstop ▸ hspans)
    obtain ⟨hconstructor, -⟩ :=
      hmethods method hmethod hkind hkept parameters body hparameters hbody
    obtain ⟨names, offset, hnames, hplace, hassigned, -⟩ := hconstructor hname
    obtain rfl : names = ["p", "r"] := by
      have hmap := hnames.map_eq
      rw [hpatterns] at hmap
      exact (List.map_inj_right fun _ _ => Option.some.inj).mp hmap.symm
    obtain rfl : offset = 60 := by
      cases hplace with
      | behind hchildren =>
        rw [hchildren] at hstatements
        rename_i first last call _ hcall
        cases first with
        | nil =>
          simp only [List.nil_append, List.map_cons, List.cons.injEq, Prod.mk.injEq] at hstatements
          exact hstatements.1.2
        | cons => simp at hstatements
      | opening hnone =>
        have hmem : (true, 60) ∈ body.namedChildren.map fun statement =>
            (isSuperCall statement, statement.stop) := by
          rw [hstatements]
          exact List.mem_cons_self
        obtain ⟨call, hcall, heq⟩ := List.mem_map.mp hmem
        have := hnone call hcall
        rw [(Prod.mk.inj heq).1] at this
        cases this
    obtain ⟨hiff, honce⟩ := hassigned (by decide)
    refine ⟨tree, _, method, parameters, body, hparse, hedits, hscript, hmethod, hparameters, hbody,
      hnames, hplace, honce (hiff.mpr ?_)⟩
    decide
  next => cases hparts

end Stencil.Erasure
