import Stencil.Proofs.Operands

/-!
# Members without initializers

A member without an initializer is written with an expression that comes to the value of the member
before plus one (`enumEdit_successors`). While the values are number literals their numbers are
counted on and written out, and otherwise the member before is read from the object.
-/

namespace Stencil.Script

variable {h : Host} {a : Activation} {m m' : Machine} {r : Ref} {o : Object} {n : Nat} {v : Value}
  {entry : EnumEntry} {entries : List EnumEntry} {vs : List Value} {owner : Utf16} {e : Tree}

/-! ### Runs -/

/-- A run of members ends with that of the last one. -/
lemma Fills.exists_last (hfills : Fills h a r n m (entries ++ [entry]) vs m') :
    ∃ before v k m₁ m₂, vs = before ++ [v] ∧ before.length = entries.length ∧
      Computes h k a entry.value m₁ v m₂ := by
  induction entries generalizing n m vs with
  | nil =>
    cases hfills with
    | cons hvalue _ _ hrest =>
      cases hrest
      exact ⟨[], _, _, _, _, rfl, rfl, hvalue⟩
  | cons first entries ih =>
    cases hfills with
    | cons hvalue _ _ hrest =>
      obtain ⟨before, v, k, m₁, m₂, rfl, hlength, hlast⟩ := ih hrest
      exact ⟨_ :: before, v, k, m₁, m₂, rfl, by simp [hlength], hlast⟩

lemma writesOf_append {before after : List Value} {others : List EnumEntry}
    (hlength : before.length = entries.length) :
    writesOf (entries ++ others) (before ++ after) =
      writesOf entries before ++ writesOf others after := by
  induction entries generalizing before with
  | nil =>
    obtain rfl := List.length_eq_zero_iff.mp hlength
    rfl
  | cons entry entries ih =>
    cases before with
    | nil => cases hlength
    | cons v before =>
      rw [List.cons_append, List.cons_append, writesOf, writesOf,
        ih (Nat.succ.inj hlength), List.append_assoc]

/-- The last member stands under its name, unless that is its value. -/
lemma lastWrite?_last {before : List Value} (hlength : before.length = entries.length)
    (hname : v.propertyKey ≠ .ofText entry.name) :
    lastWrite? (writesOf (entries ++ [entry]) (before ++ [v])) (.ofText entry.name) = some v := by
  have hwrites : writesOf [entry] [v] = entry.writes v := List.append_nil _
  rw [writesOf_append hlength, lastWrite?_append, hwrites, EnumEntry.writes, lastWrite?_cons,
    if_pos rfl]
  split
  · rfl
  · rw [lastWrite?_cons, if_neg hname]
    rfl

/-- A number is not under a name that is neither its text nor an index. -/
lemma propertyKey_ne {x : Float} {name : Utf16}
    (htext : Key.ofText (.ofString (NumberText.write x)) ≠ .ofText name)
    (hname : Key.ofText name = .text name) : (Value.number x).propertyKey ≠ .ofText name := by
  rw [Value.propertyKey]
  split
  · rw [hname]
    intro h
    cases h
  · exact htext

/-- Whether a number is due behind members with these values: zero if there are none, else the
number of the last one plus one. The last must not be named like its value. -/
inductive IsDue : List EnumEntry → List Value → Float → Prop
  | zero : IsDue [] [] 0
  | next {entries : List EnumEntry} {entry : EnumEntry} {vs : List Value} {x : Float}
      (hname : (Value.number x).propertyKey ≠ .ofText entry.name) :
      IsDue (entries ++ [entry]) (vs ++ [.number x]) (x + 1)

lemma IsDue.exists_last {before : List Value} {y : Float}
    (hdue : IsDue (entries ++ [entry]) (before ++ [v]) y) :
    ∃ x, v = .number x ∧ y = x + 1 ∧ (Value.number x).propertyKey ≠ .ofText entry.name := by
  generalize hentries : entries ++ [entry] = all at hdue
  generalize hvalues : before ++ [v] = vs at hdue
  cases hdue with
  | zero => simp at hentries
  | next hname =>
    obtain ⟨rfl, rfl⟩ := List.concat_inj.mp (by simpa using hentries)
    obtain ⟨rfl, rfl⟩ := List.concat_inj.mp (by simpa using hvalues)
    exact ⟨_, rfl, rfl, hname⟩

/-- Whether an expression comes to the number that is due behind members once they have been run on
the object of their enum. -/
def Succeeds (owner : Utf16) (entries : List EnumEntry) (e : Tree) : Prop :=
  ∀ (h : Host) (a : Activation) (m m' : Machine) (r : Ref) (o : Object) (n : Nat) (vs : List Value)
    (x : Float), m.Ready a.scope owner r o [] → Fills h a r n m entries vs m' → IsDue entries vs x →
    Computes h 8 a e m' (.number x) m'

/-- The last member plus one comes to the number that is due behind it. -/
theorem succeeds_last (owner : Utf16) (entries : List EnumEntry) (entry : EnumEntry) :
    Succeeds owner (entries ++ [entry])
      (.binary .add (memberOf owner entry.name) (.literal (.number 1))) := by
  intro h a m m' r o n vs y hready hfills hdue
  obtain ⟨before, v, -, -, -, rfl, hlength, -⟩ := hfills.exists_last
  obtain ⟨x, rfl, rfl, hname⟩ := hdue.exists_last
  obtain ⟨o', hready', hproperties⟩ := hfills.written hready
  have hvalue : m'.property? r (.ofText entry.name) = some (.plain (.number x)) := by
    rw [hproperties, lastWrite?_last hlength hname]
    rfl
  have hmember : Computes h 5 a (memberOf owner entry.name) m' (.number x) m' :=
    computes_member hready'.gives (computes_literal (.text entry.name))
      (hready'.holds.loadMember_text hvalue)
  exact computes_add hmember (computes_literal (.number 1))

/-- The number after that of the last member is the one that is due behind it. -/
theorem succeeds_of_computes {x : Float} (he : ∀ h a m, Computes h 8 a e m (.number (x + 1)) m)
    (hentry : ∀ h a m, ∃ n, Computes h n a entry.value m (.number x) m) (owner : Utf16)
    (entries : List EnumEntry) : Succeeds owner (entries ++ [entry]) e := by
  intro h a m m' r o n vs y _ hfills hdue
  obtain ⟨before, v, k, m₁, m₂, rfl, -, hlast⟩ := hfills.exists_last
  obtain ⟨z, rfl, rfl, -⟩ := hdue.exists_last
  obtain ⟨_, hx⟩ := hentry h a m₁
  cases (hlast.unique hx).1
  exact he h a m'

/-- Nothing but zero is due at first. -/
theorem succeeds_zero (he : ∀ h a m, Computes h 8 a e m (.number 0) m) (owner : Utf16) :
    Succeeds owner [] e := by
  intro h a m m' r o n vs y _ _ hdue
  generalize hentries : ([] : List EnumEntry) = entries at hdue
  cases hdue with
  | zero => exact he h a m'
  | next => simp at hentries

end Stencil.Script

namespace Stencil.Erasure

open TypeScript (Tree)
open Number (IsFinite IsOrdinary)
open Script (EnumEntry IsDue Numeral)
open Script.Syntax (Context Denotes)

variable {source : List Char} {tree : Tree} {owner value key : String} {earlier : List String}
  {successor next : Successor} {member prior : Member} {members before after : List Member}
  {values : List String} {c : Context} {entries : List EnumEntry} {x : Float}

/-! ### Texts -/

/-- Whether an initializer that is taken for a number is a numeral of a finite number. -/
def IsNumeral (member : Member) (value : String) : Prop :=
  member.value.isSome → (numericLiteral? value.toList).isSome →
    ∃ signs x, IsFinite x ∧ Numeral signs value.toList x

/-- Whether members with these texts are counted from a numeral: the last initializer among them, if
it is taken for a number. -/
def CountsFromNumeral (members : List Member) (values : List String) : Prop :=
  ∀ (before : List Member) (last : Member) (after : List Member) (value : String),
    members = before ++ last :: after → (∀ member ∈ after, member.value = none) →
    values[before.length]? = some value → IsNumeral last value

/-- What is due behind a member with this text for its value: the number of a numeral plus one, or
the member plus one, or nothing behind a string literal. -/
inductive Continues (member : Member) (value : String) : Successor → Prop
  | number {signs : Nat} {x : Float} (hx : IsFinite x) (h : Numeral signs value.toList x) :
      Continues member value (.number (x + 1))
  | after : Continues member value (.after member.key)
  | unavailable : Continues member value .unavailable

lemma Continues.isOrdinary {successor : Successor} (h : Continues member value successor)
    (hnumber : successor = .number x) : IsOrdinary x := by
  cases h with
  | number hx =>
    cases hnumber
    exact Number.isOrdinary_add_one hx
  | after | unavailable => cases hnumber

/-- What is due for the next member continues this one. -/
lemma Member.continues (hvalue : member.text? source owner earlier successor = some (value, next))
    (hnumeral : IsNumeral member value)
    (hdue : member.value = none → ∀ x, successor = .number x → IsOrdinary x) :
    Continues member value next := by
  rcases hinitializer : member.value with _ | initializer
  · cases successor with
    | number x =>
      simp only [text?, hinitializer, Option.some.injEq, Prod.mk.injEq] at hvalue
      obtain ⟨rfl, rfl⟩ := hvalue
      have hx := hdue hinitializer x rfl
      obtain ⟨signs, -, hnumeral⟩ := Script.numeral_writeNumber hx
      exact .number hx.isFinite hnumeral
    | after key =>
      simp only [text?, hinitializer, Option.some.injEq, Prod.mk.injEq] at hvalue
      obtain ⟨-, rfl⟩ := hvalue
      exact .after
    | unavailable => simp [text?, hinitializer] at hvalue
  · simp only [text?, hinitializer, Option.some.injEq, Prod.mk.injEq] at hvalue
    obtain ⟨rfl, rfl⟩ := hvalue
    rw [due]
    split
    · exact .unavailable
    split
    next x hx =>
      rw [IsNumeral, hinitializer, String.toList_ofList, hx] at hnumeral
      obtain ⟨signs, y, hy, hnumeral⟩ := hnumeral rfl rfl
      obtain rfl := hnumeral.eq_of_numericLiteral? hx
      exact .number hy (by rwa [String.toList_ofList])
    next => exact .after

/-- The text of a member without an initializer is what is due at first, or what continues the
member before it. -/
lemma Values.exists_due (h : Values source owner earlier successor members values)
    (hnumerals : CountsFromNumeral before values)
    (hdue : (∀ first ∈ before, first.value = none) → ∀ x, successor = .number x → IsOrdinary x)
    (hmembers : members = before ++ member :: after) :
    ∃ value, values[before.length]? = some value ∧
      ((before = [] ∧ ∃ earlier next,
          member.text? source owner earlier successor = some (value, next)) ∨
        ∃ others prior text, before = others ++ [prior] ∧ values[others.length]? = some text ∧
          ∃ earlier due next, Continues prior text due ∧
            member.text? source owner earlier due = some (value, next)) := by
  induction before generalizing earlier successor members values with
  | nil =>
    subst hmembers
    cases h with
    | cons hvalue _ => exact ⟨_, rfl, .inl ⟨rfl, _, _, hvalue⟩⟩
  | cons first before ih =>
    subst hmembers
    cases h with
    | @cons _ _ due _ _ text _ hfirst hvalues =>
    have hcontinues (hnone : ∀ other ∈ before, other.value = none) : Continues first text due :=
      Member.continues hfirst (hnumerals [] first before text rfl hnone rfl)
        fun hinitializer => hdue (List.forall_mem_cons.mpr ⟨hinitializer, hnone⟩)
    have hnumerals' : CountsFromNumeral before _ := fun others last rest value heq =>
      hnumerals (first :: others) last rest value (by rw [heq, List.cons_append])
    obtain ⟨value, hvalue, hcases⟩ :=
      ih hvalues hnumerals' (fun hnone x => (hcontinues hnone).isOrdinary) rfl
    refine ⟨value, hvalue, .inr ?_⟩
    rcases hcases with ⟨rfl, earlier, next, htext⟩ | ⟨others, prior, text', rfl, htext', hrest⟩
    · exact ⟨[], first, text, rfl, rfl, earlier, due, next, hcontinues nofun, htext⟩
    · exact ⟨first :: others, prior, text', rfl, htext', hrest⟩

/-! ### Values -/

lemma AreEntries.exists_last {others : List Member} {texts : List String} {text : String}
    (hentries : AreEntries c (others ++ [prior]) texts entries)
    (htext : texts[others.length]? = some text) :
    ∃ before entry, entries = before ++ [entry] ∧ IsEntry c prior text entry := by
  induction others generalizing texts entries with
  | nil =>
    cases hentries with
    | cons hentry hrest =>
      cases hrest
      cases htext
      exact ⟨[], _, rfl, hentry⟩
  | cons first others ih =>
    cases hentries with
    | cons _ hrest =>
      obtain ⟨before, entry, rfl, hentry⟩ := ih hrest htext
      exact ⟨_ :: before, entry, rfl, hentry⟩

/-- A number is written with an expression that comes to it. -/
lemma denotes_writeNumber (hx : IsOrdinary x) (hlimit : 0 < c.limit) :
    ∃ e, Denotes c (writeNumber x).toList e ∧ ∀ h a m, Script.Computes h 8 a e m (.number x) m := by
  obtain ⟨signs, hsigns, hnumeral⟩ := Script.numeral_writeNumber hx
  obtain ⟨e, he, hcomputes⟩ := hnumeral.denotes (c := c) hlimit
  exact ⟨e, he, fun h a m b tasks hlike => (hcomputes h a m b tasks hlike).mono (by omega)⟩

lemma isOrdinary_zero : IsOrdinary 0 := ⟨false, ⟨0, -1074⟩, by decide +kernel, fun _ => rfl⟩

/-- The text of a member without an initializer is that of an expression which comes to the number
that is due behind the members before it. -/
theorem Values.denotes_due (h : Values source owner [] (.number 0) members values)
    (hnumerals : CountsFromNumeral before values)
    (hmembers : members = before ++ member :: after) (hinitializer : member.value = none)
    (howner : IsScriptName c owner) (hlimit : 1 < c.limit)
    (hentries : AreEntries c before (values.take before.length) entries) :
    ∃ value e, values[before.length]? = some value ∧ Denotes c.allowIn value.toList e ∧
      Script.Succeeds (.ofString owner) entries e := by
  have hlimit' : 0 < c.allowIn.limit := Nat.zero_lt_of_lt hlimit
  obtain ⟨value, hvalue, hcases⟩ := h.exists_due hnumerals
    (fun _ x hx => by cases hx; exact isOrdinary_zero) hmembers
  refine ⟨value, ?_⟩
  rcases hcases with ⟨rfl, earlier, next, htext⟩ |
    ⟨others, prior, text, rfl, htext, earlier, due, next, hcontinues, hdue⟩
  · cases hentries
    simp only [Member.text?, hinitializer, Option.some.injEq, Prod.mk.injEq] at htext
    obtain ⟨rfl, -⟩ := htext
    obtain ⟨e, he, hcomputes⟩ := denotes_writeNumber isOrdinary_zero hlimit'
    exact ⟨e, hvalue, he, Script.succeeds_zero hcomputes _⟩
  have htake : (values.take (others ++ [prior]).length)[others.length]? = some text := by
    rw [List.getElem?_take_of_lt (by simp), htext]
  obtain ⟨first, entry, rfl, hentry⟩ := hentries.exists_last htake
  cases hcontinues with
  | number hx hnumeral =>
    simp only [Member.text?, hinitializer, Option.some.injEq, Prod.mk.injEq] at hdue
    obtain ⟨rfl, -⟩ := hdue
    obtain ⟨e, he, hcomputes⟩ := denotes_writeNumber (Number.isOrdinary_add_one hx) hlimit'
    obtain ⟨e', he', hcomputes'⟩ := hnumeral.denotes hlimit'
    obtain rfl := hentry.value.unique he'
    exact ⟨e, hvalue, he,
      Script.succeeds_of_computes hcomputes (fun h a m => ⟨_, hcomputes' h a m⟩) _ _⟩
  | after =>
    simp only [Member.text?, hinitializer, Option.some.injEq, Prod.mk.injEq] at hdue
    obtain ⟨rfl, -⟩ := hdue
    refine ⟨_, hvalue, ?_, Script.succeeds_last _ _ _⟩
    have hfollowing := denotes_following howner (denotes_key (c := c.allowIn) hentry.key hlimit')
      hlimit
    simpa [Script.memberOf] using hfollowing
  | unavailable => simp [Member.text?, hinitializer] at hdue

/-! ### Enums -/

lemma exists_of_refused? (h : refused? prior.isText members = some member) :
    ∃ before last after, prior :: members = before ++ last :: member :: after ∧ last.isText ∧
      member.value = none := by
  induction members generalizing prior with
  | nil => cases h
  | cons other members ih =>
    rw [refused?] at h
    split at h
    next hnone =>
      cases h
      rw [Bool.and_eq_true, Option.isNone_iff_eq_none] at hnone
      exact ⟨[], prior, members, rfl, hnone⟩
    next =>
      obtain ⟨before, last, after, heq, hlast⟩ := ih h
      exact ⟨prior :: before, last, after, by rw [heq, List.cons_append], hlast⟩

/-- An enum is refused for a member without an initializer right behind a string literal. -/
lemma enumEdit_refused (henum : IsEnum source tree owner members) (h : ¬ EachHasValue members) :
    ∃ before prior member after offset, members = before ++ prior :: member :: after ∧
      prior.isText ∧ member.value = none ∧
      enumEdit source tree = .error ⟨.enumInitializer member.name, offset⟩ := by
  obtain ⟨name, body, hname, hbody, rfl, hmembers⟩ := henum
  have hstart : (Successor.number 0) = .unavailable ↔ false = true := by simp
  rw [← refused?_eq_none_iff] at h
  rw [enumEdit_eq_map hname hbody]
  rcases assignments_eq hmembers hstart with ⟨values, -, hnone, -⟩ | ⟨member, offset, hsome, herror⟩
  · exact absurd hnone h
  cases members with
  | nil => cases hsome
  | cons first members =>
    obtain ⟨before, prior, after, heq, hprior, hvalue⟩ := exists_of_refused? hsome
    exact ⟨before, prior, member, after, offset, heq, hprior, hvalue, by rw [herror]; rfl⟩

/-- An enum is refused just when a member without an initializer comes right behind a string
literal, and for such a member. Else each member without an initializer is written with an
expression that comes to the value of the member before plus one, and the first one to zero, if the
last initializer before it, where it is taken for a number, is a numeral of a finite one, and the
member before it is not named like its value. -/
theorem enumEdit_successors (henum : IsEnum source tree owner members) :
    (EachHasValue members ∧ ∃ values, Values source owner [] (.number 0) members values ∧
        enumEdit source tree = .ok (.replace tree.start tree.stop
          (enumText owner (writtenMembers owner members values) ++
            lineFeeds (tree.chars source))) ∧
        ∀ (c : Context) (before after : List Member) (member : Member) (entries : List EnumEntry),
          1 < c.limit → IsScriptName c owner → CountsFromNumeral before values →
          members = before ++ member :: after → member.value = none →
          AreEntries c before (values.take before.length) entries →
          ∃ value e, values[before.length]? = some value ∧ Denotes c.allowIn value.toList e ∧
            Script.Succeeds (.ofString owner) entries e) ∨
      (¬ EachHasValue members ∧ ∃ before prior member after offset,
        members = before ++ prior :: member :: after ∧ prior.isText ∧ member.value = none ∧
        enumEdit source tree = .error ⟨.enumInitializer member.name, offset⟩) := by
  rcases enumEdit_eq henum with ⟨values, hvalues, heach, hok⟩ | ⟨_, _, _, _, hrefused, _⟩
  · refine .inl ⟨heach, values, hvalues, hok, ?_⟩
    intro c before after member entries hlimit howner hnumerals hmembers hinitializer hentries
    exact hvalues.denotes_due hnumerals hmembers hinitializer howner hlimit hentries
  · exact .inr ⟨hrefused, enumEdit_refused henum hrefused⟩

/-- An enum that goes on from a literal and from a value that is no literal. -/
def countedEnum : String := "enum E\x7bA=0x1_0,B,C=+ 4,D\x7d"

/-- The texts of the values of members, after some earlier ones. -/
def texts? (source : List Char) (owner : String) :
    List String → Successor → List Member → Option (List String)
  | _, _, [] => some []
  | earlier, successor, member :: members => do
    let (value, next) ← member.text? source owner earlier successor
    let values ← texts? source owner (earlier ++ [member.name]) next members
    return value :: values

lemma Values.texts?_eq (h : Values source owner earlier successor members values) :
    texts? source owner earlier successor members = some values := by
  induction h with
  | nil => rfl
  | cons hvalue _ ih => simp only [texts?, hvalue, ih, Option.bind_eq_bind, Option.bind_some]; rfl

/-- Whether a node is that enum. -/
def isCountedEnum (node : Tree) : Bool :=
  (enumEdit countedEnum.toList node).toOption.isSome &&
  match node.child? .name, node.child? .body with
  | some name, some body =>
    name.text countedEnum.toList == "E" &&
    ((body.namedChildren.mapM fun child => (Member.ofTree countedEnum.toList child).toOption).any
      fun members =>
        (members.map fun member => (member.key, member.isText, member.value.isSome)) ==
          [("\"A\"", false, true), ("\"B\"", false, false), ("\"C\"", false, true),
            ("\"D\"", false, false)] &&
        texts? countedEnum.toList "E" [] (.number 0) members ==
          some ["0x1_0", "17", "+ 4", "E[\"C\"] + 1"])
  | _, _ => false

lemma exists_isCountedEnum :
    ∃ tree edit, isCountedEnum tree ∧ enumEdit countedEnum.toList tree = .ok edit := by
  have heval : ((TypeScript.parse countedEnum.toList).toOption.map fun tree =>
      tree.nodes.any isCountedEnum) = some true := by
    decide +kernel
  obtain ⟨tree, -, heval⟩ := exists_of_parse heval
  obtain ⟨node, -, hnode⟩ := List.any_eq_true.mp heval
  obtain ⟨edit, hedit⟩ := Option.isSome_iff_exists.mp (Bool.and_eq_true_iff.mp hnode).1
  exact ⟨node, edit, hnode, toOption_eq_some hedit⟩

lemma AreMembers.mapM_eq {trees : List Tree} (h : AreMembers source trees members) :
    (trees.mapM fun tree => (Member.ofTree source tree).toOption) = some members := by
  induction h with
  | nil => rfl
  | cons hmember _ ih =>
    rw [List.mapM_cons, ih, hmember]
    rfl

lemma countsFromNumeral (h : ∀ (i : Nat) (member : Member) (value : String),
    members[i]? = some member → values[i]? = some value → IsNumeral member value) :
    CountsFromNumeral members values := by
  rintro before last after value rfl - hvalue
  exact h before.length last value (by simp) hvalue

lemma isNumeral_of_none (h : member.value = none) : IsNumeral member value := by
  rw [IsNumeral, h]
  exact nofun

/-- The members of that enum, and the texts of their values. -/
lemma exists_members (htree : isCountedEnum tree)
    (henum : IsEnum countedEnum.toList tree owner members)
    (hvalues : Values countedEnum.toList owner [] (.number 0) members values) :
    owner = "E" ∧ values = ["0x1_0", "17", "+ 4", "E[\"C\"] + 1"] ∧
      ∃ a b c d, members = [a, b, c, d] ∧ IsKey a.key (.ofString "A") ∧ a.isText = false ∧
        IsKey b.key (.ofString "B") ∧ b.isText = false ∧ b.value = none ∧
        IsKey c.key (.ofString "C") ∧ c.isText = false ∧ d.value = none := by
  obtain ⟨name, body, hname, hbody, rfl, hmembers⟩ := henum
  simp only [isCountedEnum, hname, hbody, hmembers.mapM_eq, Option.any_some, Bool.and_eq_true,
    beq_iff_eq] at htree
  obtain ⟨-, howner, hshape, htexts⟩ := htree
  rw [howner] at hvalues
  rw [hvalues.texts?_eq, Option.some.injEq] at htexts
  refine ⟨howner, htexts, ?_⟩
  obtain ⟨a, rest, rfl, ha, hrest⟩ := List.map_eq_cons_iff.mp hshape
  obtain ⟨b, rest, rfl, hb, hrest⟩ := List.map_eq_cons_iff.mp hrest
  obtain ⟨c, rest, rfl, hc, hrest⟩ := List.map_eq_cons_iff.mp hrest
  obtain ⟨d, rest, rfl, hd, hrest⟩ := List.map_eq_cons_iff.mp hrest
  obtain rfl := List.map_eq_nil_iff.mp hrest
  simp only [Prod.mk.injEq, Option.isSome_eq_false_iff, Option.isNone_iff_eq_none] at ha hb hc hd
  have hkey (name : String) (hname : Script.Token.IsNameText name.toList) (key : String)
      (heq : key = quoted name) : IsKey key (.ofString name) := heq ▸ isKey_quoted hname
  exact ⟨a, b, c, d, rfl, hkey "A" ⟨'A', [], rfl, by decide, nofun⟩ _ ha.1, ha.2.1,
    hkey "B" ⟨'B', [], rfl, by decide, nofun⟩ _ hb.1, hb.2.1, hb.2.2,
    hkey "C" ⟨'C', [], rfl, by decide, nofun⟩ _ hc.1, hc.2.1, hd.2.2⟩

lemma isLiteral_sixteen : Script.IsLiteral "0x1_0".toList 16 := by
  have hvalue : Number.ofRatio 16 1 = 16 := by decide +kernel
  intro d hd rest
  rw [← hvalue]
  simp only [List.mem_cons, List.not_mem_nil, or_false] at hd
  rcases hd with rfl | rfl | rfl | rfl <;> rfl

lemma numeral_four : Numeral 1 "+ 4".toList 4 := by
  have hvalue : Number.ofDecimal ⟨4, 0⟩ = 4 := by decide +kernel
  have hliteral : Script.IsLiteral ['4'] 4 := hvalue ▸ Script.isLiteral_digitChars 4
  have hblanks : ∀ c ∈ [' '], isScriptSpace c := List.forall_mem_singleton.mpr rfl
  exact .plus (.literal hliteral) hblanks (by decide)

/-- The member behind the literal comes to the number after it, and so does the one behind the value
that is no literal, which is read from the object. -/
theorem enumEdit_successors_counted :
    ∃ (tree : Tree) (members : List Member) (values : List String) (c : Context)
      (second fourth : Script.Tree) (h : Script.Host) (a : Script.Activation)
      (m m' : Script.Machine),
      IsEnum countedEnum.toList tree "E" members ∧
      Values countedEnum.toList "E" [] (.number 0) members values ∧
      values[1]? = some "17" ∧ Denotes c "17".toList second ∧
      Script.Computes h 8 a second m (.number 17) m ∧
      values[3]? = some "E[\"C\"] + 1" ∧ Denotes c "E[\"C\"] + 1".toList fourth ∧
      Script.Computes h 8 a fourth m' (.number 5) m' := by
  obtain ⟨tree, edit, htree, hedit⟩ := exists_isCountedEnum
  obtain ⟨owner, members, henum⟩ := exists_isEnum hedit
  let c : Context := {
    isStrict := false, inAsync := false, inGenerator := false, inFunction := true, noIn := false,
    superCall := false, superMember := false, newTarget := true, inLoop := false,
    inSwitch := false, labels := [], inClass := false, limit := 2 }
  have hlimit : 1 < c.limit := by decide
  rcases enumEdit_successors henum with
    ⟨-, values, hvalues, -, hdue⟩ | ⟨-, _, _, _, _, _, -, -, -, herror⟩
  swap
  · rw [hedit] at herror
    cases herror
  obtain ⟨rfl, rfl, A, B, C, D, rfl, hkeyA, htextA, hkeyB, htextB, hB, hkeyC, htextC, hD⟩ :=
    exists_members htree henum hvalues
  have howner : IsScriptName c "E" := ⟨⟨'E', [], rfl, by decide, nofun⟩, by decide, by decide⟩
  have hsixteen : IsNumeral A "0x1_0" := fun _ _ =>
    ⟨0, 16, ⟨false, ⟨4503599627370496, -48⟩, by decide +kernel⟩, .literal isLiteral_sixteen⟩
  have hfour : IsNumeral C "+ 4" := fun _ _ =>
    ⟨1, 4, ⟨false, ⟨4503599627370496, -50⟩, by decide +kernel⟩, numeral_four⟩
  obtain ⟨first, hfirst, hcomputesFirst⟩ :=
    (Numeral.literal isLiteral_sixteen).denotes (c := c.allowIn) (by decide)
  obtain ⟨third, hthird, hcomputesThird⟩ := numeral_four.denotes (c := c.allowIn) (by decide)
  let entryA : EnumEntry := ⟨.ofString "A", first, false⟩
  have hentryA : IsEntry c A "0x1_0" entryA := ⟨hkeyA, hfirst, htextA.symm⟩
  obtain ⟨_, second, hvalue, hsecond, hcomesB⟩ := hdue c [A] [C, D] B [entryA] hlimit howner
    (countsFromNumeral (by rintro (_ | i) _ _ ⟨⟩ ⟨⟩; exact hsixteen)) rfl hB (.cons hentryA .nil)
  cases hvalue
  let entryB : EnumEntry := ⟨.ofString "B", second, false⟩
  let entryC : EnumEntry := ⟨.ofString "C", third, false⟩
  have hentryB : IsEntry c B "17" entryB := ⟨hkeyB, hsecond, htextB.symm⟩
  have hentryC : IsEntry c C "+ 4" entryC := ⟨hkeyC, hthird, htextC.symm⟩
  obtain ⟨_, fourth, hvalue, hfourth, hcomesD⟩ := hdue c [A, B, C] [] D [entryA, entryB, entryC]
    hlimit howner (countsFromNumeral (by
      rintro (_ | _ | _ | i) _ _ ⟨⟩ ⟨⟩
      exacts [hsixteen, isNumeral_of_none hB, hfour])) rfl hD
    (.cons hentryA (.cons hentryB (.cons hentryC .nil)))
  cases hvalue
  have hbinds := Script.binds_within Sandbox.start (.ofString "E")
  generalize Sandbox.start.within (.ofString "E") = m₀ at hbinds
  generalize Sandbox.start.scopes.size = scope at hbinds
  let head := (Script.Frame.ofNames [] []).head
  obtain ⟨r, s, m, -, hready, -⟩ := Script.run_enum (a := .start head scope []) 0 Sandbox.runNative
    (show head.IsBare from ⟨rfl, rfl, rfl, rfl, rfl⟩) hbinds [] []
  let h := Script.hostAt Sandbox.runNative 0
  let a : Script.Activation := .start head s []
  have hfive : (4 + 1 : Float) = 5 := by decide +kernel
  have hseventeen : (16 + 1 : Float) = 17 := by decide +kernel
  have hnameA : (Script.Value.number 16).propertyKey ≠ .ofText (.ofString "A") :=
    Script.propertyKey_ne (by decide +kernel) (by decide +kernel)
  have hnameC : (Script.Value.number 4).propertyKey ≠ .ofText (.ofString "C") :=
    Script.propertyKey_ne (by decide +kernel) (by decide +kernel)
  have hdueB : IsDue ([] ++ [entryA]) ([] ++ [.number 16]) (16 + 1) := .next hnameA
  have hdueD : IsDue ([entryA, entryB] ++ [entryC])
      ([.number 16, .number 17] ++ [.number 4]) (4 + 1) := .next hnameC
  rw [hseventeen] at hdueB
  rw [hfive] at hdueD
  have hB := hcomesB h a m _ r .fresh _ _ 17 hready
    (.cons (hcomputesFirst h a m) ⟨rfl, rfl, rfl⟩ trivial .nil) hdueB
  have hD := hcomesD h a m _ r .fresh _ _ 5 hready
    (.cons (hcomputesFirst h a m) ⟨rfl, rfl, rfl⟩ trivial (.cons hB ⟨rfl, rfl, rfl⟩ trivial
      (.cons (hcomputesThird h a _) ⟨rfl, rfl, rfl⟩ trivial .nil))) hdueD
  exact ⟨tree, _, _, c.allowIn, second, fourth, h, a, _, _, henum, hvalues, rfl, hsecond, hB, rfl,
    hfourth, hD⟩

end Stencil.Erasure
