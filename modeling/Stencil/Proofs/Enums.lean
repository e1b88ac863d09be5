import Stencil.Proofs.EnumObjects
import Stencil.Proofs.Properties
import Stencil.Proofs.Reopening

/-!
# What enums are written as

Each member of an enum is written as an assignment, with a text for its value. Here are the texts of
the values, which enums are refused for want of a value (`assignments_eq_error_iff`), and the
statements that a script reads.
-/

namespace Stencil.Erasure

open TypeScript (Tree Kind)

variable {source : List Char} {tree : Tree} {trees : List Tree} {owner key value : String}
  {earlier : List String} {successor next : Successor} {member : Member} {members : List Member}
  {values : List String} {offset : Nat} {flaw : Flaw}

/-! ### Members -/

/-- Whether these are the members that nodes stand for. -/
def AreMembers (source : List Char) (trees : List Tree) (members : List Member) : Prop :=
  List.Forall₂ (fun tree member => Member.ofTree source tree = .ok member) trees members

namespace Member

/-- Whether a member is written with a string literal as its value. -/
def isText (member : Member) : Bool := member.value.any isStringLiteral

/-- What is due for the member behind this one if it has no initializer. -/
def due (member : Member) (initializer : List Char) : Successor :=
  if member.isText then .unavailable
  else match numericLiteral? initializer with
    | some x => .number (x + 1)
    | none   => .after member.key

/-- The text of the value of a member, and what is due for the next one. -/
def text? (source : List Char) (owner : String) (earlier : List String) (successor : Successor)
    (member : Member) : Option (String × Successor) :=
  match member.value, successor with
  | some value, _       =>
    let initializer := initializerChars source owner earlier value
    some (String.ofList initializer, member.due initializer)
  | none, .number x     => some (writeNumber x, .number (x + 1))
  | none, .after key    => some (owner ++ "[" ++ key ++ "] + 1", .after member.key)
  | none, .unavailable  => none

/-- The assignment of a member with the text of its value. -/
def written (owner : String) (member : Member) (value : String) : String :=
  if member.isText then assignForward owner member.key value
  else assignBoth owner member.key value

lemma assignment_eq (member : Member) :
    member.assignment source owner earlier successor offset =
      match member.text? source owner earlier successor with
      | some (value, next) => .ok (member.written owner value, next)
      | none               => .error ⟨.enumInitializer member.name, offset⟩ := by
  rcases hvalue : member.value with _ | value
  · have htext : member.isText = false := by rw [isText, hvalue, Option.any_none]
    cases successor <;> simp [assignment, text?, written, hvalue, htext]
  · have htext : member.isText = isStringLiteral value := by rw [isText, hvalue, Option.any_some]
    simp only [assignment, text?, due, written, hvalue, htext]
    split <;> rfl

lemma text?_eq_none_iff :
    member.text? source owner earlier successor = none ↔
      member.value = none ∧ successor = .unavailable := by
  rcases hvalue : member.value with _ | value <;> cases successor <;> simp [text?, hvalue]

/-- A string literal is written whatever is due. -/
lemma text?_of_isText (htext : member.isText) (other : Successor) :
    member.text? source owner earlier successor = member.text? source owner earlier other := by
  obtain ⟨value, hvalue, -⟩ := (Option.any_eq_true _ _).mp htext
  simp only [text?, hvalue]

/-- Nothing is due right behind a string literal. -/
lemma eq_unavailable_iff (h : member.text? source owner earlier successor = some (value, next)) :
    next = .unavailable ↔ member.isText := by
  rcases hvalue : member.value with _ | initializer
  · have htext : member.isText = false := by rw [isText, hvalue, Option.any_none]
    cases successor <;> simp only [text?, hvalue, Option.some.injEq, Prod.mk.injEq, reduceCtorEq] at h
    all_goals
      obtain ⟨-, rfl⟩ := h
      simp [htext]
  · simp only [text?, hvalue, Option.some.injEq, Prod.mk.injEq] at h
    obtain ⟨-, rfl⟩ := h
    rw [Member.due]
    split
    next htext => simp [htext]
    next htext => split <;> simp [htext]

end Member

/-! ### Texts of values -/

/-- Whether the values of members are written as these texts, after some earlier members and with
this value due for the first. -/
inductive Values (source : List Char) (owner : String) :
    List String → Successor → List Member → List String → Prop
  | nil {earlier : List String} {successor : Successor} : Values source owner earlier successor [] []
  | cons {earlier : List String} {successor next : Successor} {member : Member}
      {members : List Member} {value : String} {values : List String}
      (hvalue : member.text? source owner earlier successor = some (value, next))
      (hvalues : Values source owner (earlier ++ [member.name]) next members values) :
      Values source owner earlier successor (member :: members) (value :: values)

/-- The assignments of members with the texts of their values. -/
def writtenMembers (owner : String) (members : List Member) (values : List String) : String :=
  String.join (List.zipWith (Member.written owner) members values)

lemma writtenMembers_cons (owner : String) (member : Member) (members : List Member)
    (value : String) (values : List String) :
    writtenMembers owner (member :: members) (value :: values) =
      member.written owner value ++ writtenMembers owner members values := by
  rw [writtenMembers, List.zipWith_cons_cons, String.join_cons, writtenMembers]

/-- The first member without an initializer that comes right after a string literal. -/
def refused? : (afterText : Bool) → List Member → Option Member
  | _, []                   => none
  | afterText, member :: members =>
    if afterText && member.value.isNone then some member else refused? member.isText members

/-- Members are written with the texts of their values, and refused when one has none. -/
theorem assignments_eq (hmembers : AreMembers source trees members) {afterText : Bool}
    (hafter : successor = .unavailable ↔ afterText) :
    (∃ values, Values source owner earlier successor members values ∧
        refused? afterText members = none ∧
        assignments source owner earlier successor trees =
          .ok (writtenMembers owner members values)) ∨
      ∃ member offset, refused? afterText members = some member ∧
        assignments source owner earlier successor trees =
          .error ⟨.enumInitializer member.name, offset⟩ := by
  induction hmembers generalizing earlier successor afterText with
  | nil => exact .inl ⟨[], .nil, rfl, rfl⟩
  | @cons tree member trees members hmember _ ih =>
    rw [refused?, assignments, hmember]
    simp only [bind, Except.bind, Member.assignment_eq]
    rcases htext : member.text? source owner earlier successor with _ | ⟨value, next⟩
    · obtain ⟨hvalue, hsuccessor⟩ := Member.text?_eq_none_iff.mp htext
      have htrue : (afterText && member.value.isNone) = true := by
        rw [hafter.mp hsuccessor, hvalue]
        rfl
      rw [if_pos htrue]
      exact .inr ⟨member, tree.start, rfl, rfl⟩
    · have hfalse : ¬ (afterText && member.value.isNone) = true := by
        intro htrue
        rw [Bool.and_eq_true, Option.isNone_iff_eq_none] at htrue
        rw [Member.text?_eq_none_iff.mpr ⟨htrue.2, hafter.mpr htrue.1⟩] at htext
        cases htext
      rw [if_neg hfalse]
      rcases @ih (earlier ++ [member.name]) _ _ (Member.eq_unavailable_iff htext) with
        ⟨values, hvalues, hnone, hok⟩ | ⟨refused, offset, hsome, herror⟩
      · refine .inl ⟨value :: values, .cons htext hvalues, hnone, ?_⟩
        dsimp only
        rw [hok, writtenMembers_cons]
        rfl
      · refine .inr ⟨refused, offset, hsome, ?_⟩
        dsimp only
        rw [herror]

lemma AreMembers.map_eq {α : Type} (hmembers : AreMembers source trees members) (f : Member → α) :
    trees.map (fun tree => (Member.ofTree source tree).toOption.map f) =
      members.map (some ∘ f) := by
  induction hmembers with
  | nil => rfl
  | cons hmember _ ih =>
    rw [List.map_cons, List.map_cons, ih, hmember]
    rfl

lemma exists_areMembers {text : String}
    (h : assignments source owner earlier successor trees = .ok text) :
    ∃ members, AreMembers source trees members := by
  induction trees generalizing earlier successor text with
  | nil => exact ⟨[], .nil⟩
  | cons tree trees ih =>
    simp only [assignments, bind_eq_ok_iff, Prod.exists] at h
    obtain ⟨member, hmember, _, _, -, _, hrest, -⟩ := h
    obtain ⟨members, hmembers⟩ := ih hrest
    exact ⟨member :: members, .cons hmember hmembers⟩

/-- Whether no member without an initializer comes right after a string literal. -/
def EachHasValue (members : List Member) : Prop :=
  members.IsChain fun before member => before.isText → member.value.isSome

lemma refused?_isText_eq_none_iff (before : Member) (members : List Member) :
    refused? before.isText members = none ↔ EachHasValue (before :: members) := by
  induction members generalizing before with
  | nil => simp [refused?, EachHasValue]
  | cons member members ih =>
    rw [EachHasValue, List.isChain_cons_cons, ← EachHasValue, ← ih, refused?]
    rcases before.isText with _ | _ <;> rcases member.value with _ | _ <;> simp

lemma refused?_eq_none_iff (members : List Member) :
    refused? false members = none ↔ EachHasValue members := by
  rcases members with _ | ⟨member, members⟩
  · simp [refused?, EachHasValue]
  · rw [refused?, Bool.false_and, if_neg Bool.false_ne_true, refused?_isText_eq_none_iff]

lemma value_of_refused? {afterText : Bool} (h : refused? afterText members = some member) :
    member ∈ members ∧ member.value = none := by
  induction members generalizing afterText with
  | nil => cases h
  | cons other members ih =>
    rw [refused?] at h
    split at h
    next hnone =>
      cases h
      rw [Bool.and_eq_true, Option.isNone_iff_eq_none] at hnone
      exact ⟨List.mem_cons_self, hnone.2⟩
    next =>
      obtain ⟨hmem, hvalue⟩ := ih h
      exact ⟨List.mem_cons_of_mem _ hmem, hvalue⟩

/-! ### The edit -/

/-- Whether a node is an enum with this name and these members. -/
def IsEnum (source : List Char) (tree : Tree) (owner : String) (members : List Member) : Prop :=
  ∃ name body, tree.child? .name = some name ∧ tree.child? .body = some body ∧
    owner = name.text source ∧ AreMembers source body.namedChildren members

/-- What stands in the place of an enum, with these assignments in the function that is called. -/
def enumText (owner filled : String) : String :=
  "var " ++ owner ++ "; (function (" ++ owner ++ ") \x7b " ++ filled ++ "\x7d)(" ++ owner ++
    " || (" ++ owner ++ " = \x7b\x7d));"

/-- The assignments of the members of an enum stand in the function that is called. -/
lemma enumEdit_eq_map {name body : Tree} (hname : tree.child? .name = some name)
    (hbody : tree.child? .body = some body) :
    enumEdit source tree =
      (assignments source (name.text source) [] (.number 0) body.namedChildren).map fun filled =>
        .replace tree.start tree.stop
          (enumText (name.text source) filled ++ lineFeeds (tree.chars source)) := by
  rw [enumEdit, hname, hbody]
  rfl

/-- An enum is written with the texts of the values of its members, unless one of them has none. -/
theorem enumEdit_eq (henum : IsEnum source tree owner members) :
    (∃ values, Values source owner [] (.number 0) members values ∧ EachHasValue members ∧
        enumEdit source tree = .ok (.replace tree.start tree.stop
          (enumText owner (writtenMembers owner members values) ++ lineFeeds (tree.chars source)))) ∨
      ∃ member ∈ members, ∃ offset, member.value = none ∧ ¬ EachHasValue members ∧
        enumEdit source tree = .error ⟨.enumInitializer member.name, offset⟩ := by
  obtain ⟨name, body, hname, hbody, rfl, hmembers⟩ := henum
  have hstart : (Successor.number 0) = .unavailable ↔ false = true := by simp
  rw [enumEdit_eq_map hname hbody]
  rcases assignments_eq hmembers hstart with
    ⟨values, hvalues, hnone, hok⟩ | ⟨member, offset, hsome, herror⟩
  · exact .inl ⟨values, hvalues, (refused?_eq_none_iff members).mp hnone, by rw [hok]; rfl⟩
  · obtain ⟨hmem, hvalue⟩ := value_of_refused? hsome
    refine .inr ⟨member, hmem, offset, hvalue, fun hall => ?_, by rw [herror]; rfl⟩
    rw [← refused?_eq_none_iff, hsome] at hall
    cases hall

/-- What becomes an object is an enum with members. -/
lemma exists_isEnum {edit : Edit} (h : enumEdit source tree = .ok edit) :
    ∃ owner members, IsEnum source tree owner members := by
  rw [enumEdit] at h
  split at h
  next name body hname hbody =>
    simp only [bind_eq_ok_iff] at h
    obtain ⟨text, htext, -⟩ := h
    obtain ⟨members, hmembers⟩ := exists_areMembers htext
    exact ⟨_, members, name, body, hname, hbody, rfl, hmembers⟩
  next => cases h

/-! ### What a script reads -/

section Reading

open Script (EnumEntry Token Utf16)
open Script.Token
open Script.Syntax

variable {c : Context} {name : Utf16} {e : Script.Tree} {text : List Char}

/-- Whether a string literal is read as this text, wherever it stands. -/
def IsKey (key : String) (name : Utf16) : Prop := Spells key.toList (.text name false)

/-- A name in quotes is read as the name. -/
lemma isKey_quoted {name : String} (hname : IsNameText name.toList) :
    IsKey (quoted name) (.ofString name) := by
  intro d _ rest
  obtain ⟨first, others, heq, hfirst, hothers⟩ := hname
  have hparts : ∀ d ∈ name.toList, isNamePart d := by
    rw [heq]
    exact List.forall_mem_cons.mpr ⟨by simp [isNamePart, hfirst], hothers⟩
  have hplain : ∀ d ∈ name.toList, d ≠ '"' ∧ d ≠ '\\' ∧ d ≠ '\n' ∧ d ≠ '\r' := by
    intro d hd
    have hpart := hparts d hd
    refine ⟨?_, ?_, ?_, ?_⟩ <;> rintro rfl <;> exact absurd hpart (by decide)
  have htext : (quoted name).toList ++ d :: rest = '"' :: (name.toList ++ '"' :: d :: rest) := by
    simp [quoted]
  have hlength : name.toList.length < (name.toList ++ '"' :: d :: rest).length + 1 := by
    rw [List.length_append]
    omega
  rw [htext]
  refine ⟨_, rfl, ?_⟩
  rw [Token.read, readString_append hplain (by decide) hlength]
  rfl

/-- A string literal is an expression. -/
lemma denotes_key (hkey : IsKey key name) (hlimit : 0 < c.limit) :
    Denotes c key.toList (.literal (.text name)) :=
  denotes_of_spells hkey (.inr (.inr (.inl ⟨_, rfl⟩))) (fun _ => reads_primary_text) rfl hlimit

/-- The assignment to a member of the object of an enum is an expression. -/
lemma denotes_assigning {key value : List Char} {k : Script.Tree} (howner : IsScriptName c owner)
    (hkey : Denotes c.allowIn key k) (hvalue : Denotes c.allowIn value e) (hlimit : 1 < c.limit) :
    Denotes c.allowIn (owner.toList ++ '[' :: key ++ ']' :: ' ' :: '=' :: ' ' :: value)
      (.assign (.member (.name (.ofString owner)) (.computed k) false) e) := by
  obtain ⟨hname, hplain⟩ := howner
  obtain ⟨leastKey, hkey⟩ := hkey
  obtain ⟨leastValue, hvalue⟩ := hvalue
  have hspells := hname.spells
  rw [String.ofList_toList] at hspells
  refine ⟨max leastKey leastValue + 2, fun fuel hfuel mark hmark rest => ?_⟩
  obtain ⟨fuel, rfl⟩ := Nat.exists_eq_add_of_le' (Nat.le_trans (Nat.le_add_left 2 _) hfuel)
  obtain ⟨hkeyLexes, hkeyReads⟩ := hkey fuel (by omega) ']' (by simp)
    (' ' :: '=' :: ' ' :: (value ++ mark :: rest))
  obtain ⟨hvalueLexes, hvalueReads⟩ := hvalue (fuel + 1) (by omega) mark hmark rest
  have htext : owner.toList ++ '[' :: key ++ ']' :: ' ' :: '=' :: ' ' :: value ++ mark :: rest =
      owner.toList ++ '[' :: (key ++ ']' :: ' ' :: '=' :: ' ' :: (value ++ mark :: rest)) := by simp
  have hleads := hspells '[' (by simp)
    (key ++ ']' :: ' ' :: '=' :: ' ' :: (value ++ mark :: rest))
  have hbegins : beginsValue c.allowIn (.name owner false) := .inl ⟨owner, false, rfl, hplain⟩
  have hopening := leads_opening (key ++ ']' :: ' ' :: '=' :: ' ' :: (value ++ mark :: rest))
  have hclosing := leads_closing (' ' :: '=' :: ' ' :: (value ++ mark :: rest))
  have hequals := (leads_equals (value ++ mark :: rest)).space
  rw [htext]
  refine ⟨hleads.lexes, reads_assignment_assigning hleads hbegins ?_ hequals hvalueLexes.space
    hvalueReads.space (Nat.lt_of_succ_lt hlimit)⟩
  exact reads_operand_bracket hleads hbegins (reads_primary_name hleads hopening.lexes hplain)
    hopening hkeyLexes hkeyReads hclosing hequals (by simp [endsOperand]) hlimit

lemma spells_one : Spells ['1'] (.number 1 false) := by
  have hone : Number.ofDecimal ⟨1, 0⟩ = 1 := by decide +kernel
  intro d hd rest
  refine ⟨'1' :: d :: rest, rfl, ?_⟩
  rw [← hone]
  simp only [List.mem_cons, List.not_mem_nil, or_false] at hd
  rcases hd with rfl | rfl | rfl | rfl <;> rfl

/-- A member of the object of an enum plus one is an expression. -/
lemma denotes_following {key : List Char} {k : Script.Tree} (howner : IsScriptName c owner)
    (hkey : Denotes c.allowIn key k) (hlimit : 1 < c.limit) :
    Denotes c.allowIn (owner.toList ++ '[' :: key ++ [']', ' ', '+', ' ', '1'])
      (.binary .add (.member (.name (.ofString owner)) (.computed k) false)
        (.literal (.number 1))) := by
  obtain ⟨hname, hplain⟩ := howner
  obtain ⟨least, hkey⟩ := hkey
  have hspells := hname.spells
  rw [String.ofList_toList] at hspells
  refine ⟨least + 2, fun fuel hfuel mark hmark rest => ?_⟩
  obtain ⟨fuel, rfl⟩ := Nat.exists_eq_add_of_le' (Nat.le_trans (Nat.le_add_left 2 _) hfuel)
  obtain ⟨hkeyLexes, hkeyReads⟩ := hkey fuel (by omega) ']' (by simp)
    (' ' :: '+' :: ' ' :: '1' :: mark :: rest)
  obtain ⟨token, hends, hafter⟩ := exists_leads_end hmark rest
  have htext : owner.toList ++ '[' :: key ++ [']', ' ', '+', ' ', '1'] ++ mark :: rest =
      owner.toList ++ '[' :: (key ++ ']' :: ' ' :: '+' :: ' ' :: '1' :: mark :: rest) := by simp
  have hleads := hspells '[' (by simp) (key ++ ']' :: ' ' :: '+' :: ' ' :: '1' :: mark :: rest)
  have hbegins : beginsValue c.allowIn (.name owner false) := .inl ⟨owner, false, rfl, hplain⟩
  have hopening := leads_opening (key ++ ']' :: ' ' :: '+' :: ' ' :: '1' :: mark :: rest)
  have hclosing := leads_closing (' ' :: '+' :: ' ' :: '1' :: mark :: rest)
  have hplus := (leads_plus ('1' :: mark :: rest)).space
  have hmark : mark ∈ [' ', ';', '[', ']'] := by
    simp only [List.mem_cons, List.not_mem_nil, or_false] at hmark ⊢
    tauto
  have hone := (spells_one mark hmark rest).space
  have hoperand := endsOperand_of_endsAssignment hends
  have hleft := reads_operand_bracket hleads hbegins
    (reads_primary_name hleads hopening.lexes hplain) hopening hkeyLexes hkeyReads hclosing hplus
    (by simp [endsOperand]) hlimit
  obtain ⟨limit, hlimit'⟩ : ∃ limit, c.allowIn.limit = limit + 2 :=
    Nat.exists_eq_add_of_le' hlimit
  rw [htext]
  refine ⟨hleads.lexes, reads_assignment_part (reads_assignment hleads (.inl hbegins)
    (reads_plainAssignment (reads_conditional (reads_unary_part hleft) (fun start => ?_) hafter
      hoperand) hafter hends))⟩
  rw [hlimit']
  refine reads_climb_plus hplus hone.lexes (reads_unary_part ?_) hafter hends _ _ rfl rfl
  exact reads_operand hone (.inr (.inr (.inr ⟨_, rfl⟩))) (reads_primary_number hone hafter.lexes)
    hafter hoperand (Nat.lt_of_succ_lt hlimit)

/-- What is assigned to members of the object of an enum makes a statement. -/
lemma writes_expression {text : List Char} (howner : IsScriptName c owner)
    (htext : Denotes c.allowIn (owner.toList ++ '[' :: text) e) (hlimit : 0 < c.limit) :
    Writes c (owner.toList ++ '[' :: text ++ [';', ' ']) [.expression e] := by
  obtain ⟨hname, hplain⟩ := howner
  obtain ⟨least, htext⟩ := htext
  have hspells := hname.spells
  rw [String.ofList_toList] at hspells
  have hleads (rest : List Char) := hspells '[' (by simp) (text ++ ';' :: ' ' :: rest)
  refine writes_singleton (.inl ⟨owner, false, rfl, hplain⟩)
    (fun rest => ⟨false, '[' :: (text ++ ';' :: ' ' :: rest), ?_⟩)
    ⟨least + 1, fun fuel hfuel rest hrest => ?_⟩
  · simpa using hleads rest
  obtain ⟨fuel, rfl⟩ := Nat.exists_eq_add_of_le' (Nat.le_trans (Nat.le_add_left 1 _) hfuel)
  obtain ⟨-, hreads⟩ := htext fuel (by omega) ';' (by simp) (' ' :: rest)
  have heq : owner.toList ++ '[' :: text ++ [';', ' '] ++ rest =
      owner.toList ++ '[' :: text ++ ';' :: ' ' :: rest := by simp
  rw [heq]
  have hleads' : Leads (owner.toList ++ '[' :: text ++ ';' :: ' ' :: rest) false (.name owner false)
      ('[' :: (text ++ ';' :: ' ' :: rest)) := by simpa using hleads rest
  exact (reads_item_part (reads_item hleads' (.inl ⟨owner, false, rfl, hplain⟩) (leads_opening _)
    (by simp) (reads_expressionStatement hreads (leads_semicolon _) hrest.space hlimit))).of_space

/-- Whether a script reads a member with the text of its value as this entry. -/
structure IsEntry (c : Context) (member : Member) (value : String) (entry : EnumEntry) : Prop where
  key : IsKey member.key entry.name
  value : Denotes c.allowIn value.toList entry.value
  isText : entry.isText = member.isText

/-- The assignment of a member is read as the statement of its entry. -/
lemma writes_written {entry : EnumEntry} (howner : IsScriptName c owner)
    (hentry : IsEntry c member value entry) (hlimit : 1 < c.limit) :
    Writes c (member.written owner value).toList [entry.statement (.ofString owner)] := by
  have hlimit' := Nat.lt_of_succ_lt hlimit
  have hkey : Denotes c.allowIn member.key.toList (.literal (.text entry.name)) :=
    denotes_key hentry.key hlimit'
  have hforward := denotes_assigning howner hkey hentry.value hlimit
  rw [Member.written, EnumEntry.statement, hentry.isText]
  split
  · have hwrites := writes_expression howner (by simpa using hforward) hlimit'
    have htext : (assignForward owner member.key value).toList = owner.toList ++ '[' ::
        (member.key.toList ++ ']' :: ' ' :: '=' :: ' ' :: value.toList) ++ [';', ' '] := by
      simp [assignForward]
    rw [htext]
    exact hwrites
  · have hboth := denotes_assigning howner hforward hkey hlimit
    have hwrites := writes_expression howner (by simpa using hboth) hlimit'
    have htext : (assignBoth owner member.key value).toList = owner.toList ++ '[' ::
        (owner.toList ++ '[' :: (member.key.toList ++ ']' :: ' ' :: '=' :: ' ' :: (value.toList ++
          ']' :: ' ' :: '=' :: ' ' :: member.key.toList))) ++ [';', ' '] := by
      simp [assignBoth]
    rw [htext]
    exact hwrites

/-- Whether a script reads members with the texts of their values as these entries. -/
inductive AreEntries (c : Context) : List Member → List String → List EnumEntry → Prop
  | nil : AreEntries c [] [] []
  | cons {member : Member} {value : String} {entry : EnumEntry} {members : List Member}
      {values : List String} {entries : List EnumEntry} (hentry : IsEntry c member value entry)
      (hentries : AreEntries c members values entries) :
      AreEntries c (member :: members) (value :: values) (entry :: entries)

/-- The assignments of members are read as the statements of their entries. -/
theorem writes_writtenMembers {entries : List EnumEntry} (howner : IsScriptName c owner)
    (hentries : AreEntries c members values entries) (hlimit : 1 < c.limit) :
    Writes c (writtenMembers owner members values).toList
      (entries.map (EnumEntry.statement (.ofString owner))) := by
  induction hentries with
  | nil => exact writes_nil c
  | cons hentry _ ih =>
    rw [writtenMembers_cons, String.toList_append, List.map_cons]
    exact (writes_written howner hentry hlimit).append ih

/-! ### The object -/

lemma AreEntries.isText_eq {entries : List EnumEntry} {vs : List Script.Value}
    (hentries : AreEntries c members values entries)
    (hvalues : List.Forall₂ (fun member v => member.isText = !v.isNumber) members vs) :
    List.Forall₂ (fun entry v => entry.isText = !v.isNumber) entries vs := by
  induction hentries generalizing vs with
  | nil =>
    cases hvalues
    exact .nil
  | cons hentry _ ih =>
    cases hvalues with
    | cons hvalue hvalues => exact .cons (hentry.isText.trans hvalue) (ih hvalues)

/-- An enum is replaced by the call of a function with the statements of its members. Called with a
new object, it writes under the name of each member its value, and the name under the value unless
that is written as a string literal; the object has then what was written last under each key. So
just the numbers lead back to their names if each other value is written as a string literal. -/
theorem enumEdit_object {edit : Edit} (h : enumEdit source tree = .ok edit) :
    ∃ owner members values, IsEnum source tree owner members ∧
      Values source owner [] (.number 0) members values ∧
      edit = .replace tree.start tree.stop
        (enumText owner (writtenMembers owner members values) ++ lineFeeds (tree.chars source)) ∧
      ∀ (c : Context) (entries : List EnumEntry), 1 < c.limit → IsScriptName c owner →
        AreEntries c members values entries →
        Writes c (writtenMembers owner members values).toList
          (entries.map (EnumEntry.statement (.ofString owner))) ∧
        ∀ (natives : Script.Native → Script.Invocation → Script.Exec Script.Value) (depth : Nat)
          (head : Script.FunctionHead) (a : Script.Activation) (m : Script.Machine)
          (tasks : List Script.Task), head.IsBare →
          m.Binds a.scope (.ofString owner) (.variable (.ofString owner) .undefined) →
          ∃ r s m₀, m₀.Binds a.scope (.ofString owner) (.variable (.ofString owner) (.object r)) ∧
            m₀.Ready s (.ofString owner) r .fresh [] ∧
            ∀ n vs m', Script.Fills (Script.hostAt natives depth) (.start head s []) r n m₀ entries
                vs m' →
              n < Script.turnLimit → (∀ w ∈ Script.writesOf entries vs, m.Permits w.1) →
              (∃ result, Script.Comes (Script.hostAt natives (depth + 1)) 14
                (a.plan ((Script.namespaceStatements (.ofString owner)
                  (Script.enumFunction head (.ofString owner) entries)).map (.execute []) ++ tasks)) m
                ({ a with result }.plan tasks) m') ∧
              (∀ key, m'.property? r key =
                (Script.lastWrite? (Script.writesOf entries vs) key).map .plain) ∧
              (List.Forall₂ (fun member v => member.isText = !v.isNumber) members vs →
                ∀ key, m'.property? r key = (Script.lastWrite?
                  (Script.writesOfNumbers (entries.map EnumEntry.name) vs) key).map .plain) := by
  obtain ⟨owner, members, henum⟩ := exists_isEnum h
  rcases enumEdit_eq henum with ⟨values, hvalues, -, hok⟩ | ⟨_, _, _, _, _, herror⟩
  · rw [h] at hok
    cases hok
    refine ⟨owner, members, values, henum, hvalues, rfl, fun c entries hlimit howner hentries =>
      ⟨writes_writtenMembers howner hentries hlimit,
        fun natives depth head a m tasks hbare hname => ?_⟩⟩
    obtain ⟨r, s, m₀, howner, hready, hruns⟩ :=
      Script.run_enum depth natives hbare hname entries tasks
    refine ⟨r, s, m₀, howner, hready, fun n vs m' hfills hn hpermits => ?_⟩
    obtain ⟨hcomes, hproperties⟩ := hruns n vs m' hfills hn hpermits
    refine ⟨hcomes, hproperties, fun hvalues key => ?_⟩
    rw [hproperties, Script.writesOf_eq_writesOfNumbers (hentries.isText_eq hvalues)]
  · rw [h] at herror
    cases herror

/-- An enum with a number and a string literal. -/
def mixedEnum : String := "enum E\x7bA=4294967296,B=\"x\"\x7d"

/-- Whether a node is that enum. -/
def isMixedEnum (node : Tree) : Bool :=
  match node.child? .name, node.child? .body with
  | some name, some body =>
    name.text mixedEnum.toList == "E" &&
    (body.namedChildren.map fun child => (Member.ofTree mixedEnum.toList child).toOption.map
      fun member => (member.name, member.key, member.isText,
        (member.text? mixedEnum.toList "E" [] (.number 0)).map Prod.fst,
        (member.text? mixedEnum.toList "E" ["A"] (.number 0)).map Prod.fst)) ==
      [some ("A", "\"A\"", false, some "4294967296", some "4294967296"),
        some ("B", "\"B\"", true, some "\"x\"", some "\"x\"")] &&
    (enumEdit mixedEnum.toList node).toOption.isSome
  | _, _ => false

lemma exists_isMixedEnum : ∃ tree, isMixedEnum tree := by
  have heval : ((TypeScript.parse mixedEnum.toList).toOption.map fun tree =>
      tree.nodes.any isMixedEnum) = some true := by
    decide +kernel
  obtain ⟨tree, -, heval⟩ := exists_of_parse heval
  obtain ⟨node, -, hnode⟩ := List.any_eq_true.mp heval
  exact ⟨node, hnode⟩

/-- The members of that enum as a script reads them. -/
def mixedEntries : List EnumEntry :=
  [⟨.ofString "A", .literal (.number 4294967296), false⟩,
    ⟨.ofString "B", .literal (.text (.ofString "x")), true⟩]

lemma areEntries_mixed (hlimit : 1 < c.limit) (htree : isMixedEnum tree)
    (henum : IsEnum mixedEnum.toList tree owner members)
    (hvalues : Values mixedEnum.toList owner [] (.number 0) members values) :
    owner = "E" ∧ AreEntries c members values mixedEntries := by
  obtain ⟨name, body, hname, hbody, rfl, hmembers⟩ := henum
  simp only [isMixedEnum, hname, hbody, Bool.and_eq_true, beq_iff_eq] at htree
  obtain ⟨⟨howner, hshape⟩, -⟩ := htree
  rw [hmembers.map_eq, List.map_eq_cons_iff] at hshape
  obtain ⟨first, rest, rfl, hfirst, hrest⟩ := hshape
  obtain ⟨second, rest, rfl, hsecond, hrest⟩ := List.map_eq_cons_iff.mp hrest
  obtain rfl := List.map_eq_nil_iff.mp hrest
  simp only [Function.comp_apply, Option.some.injEq, Prod.mk.injEq] at hfirst hsecond
  obtain ⟨hfirstName, hfirstKey, hfirstText, hfirstValue, -⟩ := hfirst
  obtain ⟨-, hsecondKey, hsecondText, -, hsecondValue⟩ := hsecond
  rw [howner] at hvalues ⊢
  cases hvalues with
  | cons hone hvalues =>
  cases hvalues with
  | cons htwo hvalues =>
  cases hvalues
  rw [hone, Option.map_some, Option.some_inj] at hfirstValue
  rw [hfirstName, List.nil_append, second.text?_of_isText hsecondText (.number 0)] at htwo
  rw [htwo, Option.map_some, Option.some_inj] at hsecondValue
  obtain rfl := hfirstValue
  obtain rfl := hsecondValue
  have hnumber : Spells "4294967296".toList (.number 4294967296 false) := by
    have hvalue : Number.ofDecimal ⟨4294967296, 0⟩ = 4294967296 := by decide +kernel
    intro d hd rest
    refine ⟨"4294967296".toList ++ d :: rest, rfl, ?_⟩
    rw [← hvalue]
    simp only [List.mem_cons, List.not_mem_nil, or_false] at hd
    rcases hd with rfl | rfl | rfl | rfl <;> rfl
  have hlimit' := Nat.lt_of_succ_lt hlimit
  have hkey (name : String) (hname : IsNameText name.toList) (key : String)
      (heq : key = quoted name) : IsKey key (.ofString name) := heq ▸ isKey_quoted hname
  refine ⟨rfl, .cons ⟨hkey "A" ⟨'A', [], rfl, by decide, nofun⟩ _ hfirstKey,
    denotes_of_spells hnumber (.inr (.inr (.inr ⟨_, rfl⟩))) (fun _ => reads_primary_number) rfl
      hlimit', hfirstText.symm⟩ (.cons ⟨hkey "B" ⟨'B', [], rfl, by decide, nofun⟩ _ hsecondKey,
    denotes_key (hkey "x" ⟨'x', [], rfl, by decide, nofun⟩ _ rfl) hlimit', hsecondText.symm⟩ .nil)⟩

/-- The number leads back to its name, and the string literal does not. -/
theorem enumEdit_object_mixed :
    ∃ (tree : Tree) (edit : Edit) (m : Script.Machine) (r : Script.Ref),
      enumEdit mixedEnum.toList tree = .ok edit ∧
      m.property? r (.text (.ofString "A")) = some (.plain (.number 4294967296)) ∧
      m.property? r (.text (.ofString "4294967296")) = some (.plain (.text (.ofString "A"))) ∧
      m.property? r (.text (.ofString "B")) = some (.plain (.text (.ofString "x"))) ∧
      m.property? r (.text (.ofString "x")) = none := by
  obtain ⟨tree, htree⟩ := exists_isMixedEnum
  obtain ⟨edit, hedit⟩ : ∃ edit, enumEdit mixedEnum.toList tree = .ok edit := by
    unfold isMixedEnum at htree
    split at htree
    · simp only [Bool.and_eq_true, Option.isSome_iff_exists] at htree
      obtain ⟨-, edit, hedit⟩ := htree
      exact ⟨edit, toOption_eq_some hedit⟩
    · cases htree
  obtain ⟨owner, members, values, henum, hvalues, -, hobject⟩ := enumEdit_object hedit
  let c : Context := {
    isStrict := false, inAsync := false, inGenerator := false, inFunction := true, noIn := false,
    superCall := false, superMember := false, newTarget := true, inLoop := false,
    inSwitch := false, labels := [], inClass := false, limit := 2 }
  obtain ⟨rfl, hentries⟩ := areEntries_mixed (c := c) (by decide) htree henum hvalues
  have howner : IsScriptName c "E" :=
    ⟨⟨'E', [], rfl, by decide, nofun⟩, by decide, by decide⟩
  obtain ⟨-, hruns⟩ := hobject c mixedEntries (by decide) howner hentries
  have hbinds := Script.binds_within Sandbox.start (.ofString "E")
  have hpermits : ∀ name ∈ [Utf16.ofString "A", .ofString "4294967296", .ofString "B"],
      (Sandbox.start.within (.ofString "E")).Permits (.text name) := by
    intro name hname
    refine Script.Machine.Permits.within ?_ _
    simp only [List.mem_cons, List.not_mem_nil, or_false] at hname
    rcases hname with rfl | rfl | rfl <;>
      exact Script.permits_start (by decide +kernel) (by decide +kernel)
  generalize Sandbox.start.within (.ofString "E") = m₀ at hbinds hpermits
  generalize Sandbox.start.scopes.size = scope at hbinds
  let head := (Script.Frame.ofNames [] []).head
  obtain ⟨r, s, m₁, -, hready, hruns⟩ := hruns Sandbox.runNative 0 head (.start head scope []) m₀ []
    ⟨rfl, rfl, rfl, rfl, rfl⟩ hbinds
  let vs : List Script.Value := [.number 4294967296, .text (.ofString "x")]
  have hwrites : Script.writesOf mixedEntries vs =
      [(.text (.ofString "A"), .number 4294967296),
        (.text (.ofString "4294967296"), .text (.ofString "A")),
        (.text (.ofString "B"), .text (.ofString "x"))] := by
    have hA : Script.Key.ofText (.ofString "A") = .text (.ofString "A") := by decide +kernel
    have hB : Script.Key.ofText (.ofString "B") = .text (.ofString "B") := by decide +kernel
    have hnumber : (Script.Value.number 4294967296).propertyKey =
        .text (.ofString "4294967296") := by decide +kernel
    simp [Script.writesOf, mixedEntries, vs, EnumEntry.writes, hA, hB, hnumber]
  obtain ⟨-, hproperties, -⟩ := hruns _ vs _
    (.cons (Script.computes_literal _) ⟨rfl, rfl, rfl⟩ trivial
      (.cons (Script.computes_literal _) ⟨rfl, rfl, rfl⟩ trivial .nil)) (by decide) (by
        rw [hwrites]
        simpa using hpermits)
  rw [hwrites] at hproperties
  refine ⟨tree, edit, _, r, hedit, (hproperties _).trans ?_, (hproperties _).trans ?_,
    (hproperties _).trans ?_, (hproperties _).trans ?_⟩ <;> rfl

end Reading

end Stencil.Erasure
