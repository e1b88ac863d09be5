import Stencil.Proofs.Spaces
import Stencil.Proofs.Starting

/-!
# Namespaces that are reopened

The statements that declarations of namespaces become are run, at any depth. A namespace is an
object that a name of the surrounding function stands for: a later declaration in the same function
finds the object of an earlier one and adds to it. The function of an outer namespace has names of
its own each time it is called, so in another declaration of the outer namespace an inner one begins
anew, and the object that is exported last is the one that is kept.
-/

namespace Stencil.Script

/-! ### Runs -/

variable {m m₀ : Machine} {r q : Ref} {s depth : Nat} {name : Utf16} {items : List Item}
  {bodies : List (List Item)} {spaces functions exported : List Utf16}
  {receiver : Option (Utf16 × Ref)} {made : Utf16 → List (List Item)} {frozen : Set Ref}
  {natives : Native → Invocation → Exec Value}

/-- The argument of the function of a namespace: its object, which is made if there is none. -/
lemma Standing.exists_argument
    (hstanding : Standing m₀ s receiver spaces functions made exported frozen m)
    (hname : name ∈ spaces) (hfunctions : name ∉ functions)
    (howner : ∀ owner r, receiver = some (owner, r) → owner ≠ name) :
    ∃ q m₁, (∀ (h : Host) (a : Activation) (tasks : List Task), a.scope = s →
        Comes h 6 (a.plan (.evaluate (ownObject name) :: tasks)) m
          ((a.push (.object q)).plan tasks) m₁) ∧
      m.Keeps m₁ ∅ {s} ∧ m₁.Binds s name (.variable name (.object q)) ∧
      Standing m₀ s receiver spaces functions made exported frozen m₁ := by
  rcases hstanding.stands name hname with ⟨hundefined, -⟩ | ⟨q, hq, -⟩
  · refine ⟨m.objects.size, _, fun h a tasks hscope => ?_, ?_, ?_,
      hstanding.make hname hfunctions howner hundefined⟩
    · subst hscope
      exact comes_ownObject_of_undefined hundefined
    · exact keeps_named m .fresh s name
    · exact binds_initialized_self (m := m.withNew .fresh) (w := .undefined) hundefined
  · refine ⟨q, m, fun h a tasks hscope => ?_, .refl m, hq, hstanding⟩
    refine (comes_ownObject_of_gives ?_).mono (by decide)
    rw [hscope]
    exact ⟨_, hq, rfl⟩

/-- A call of the function of a namespace adds what its body exports to the object that it is called
with, once it is known what the statements of the body come to. -/
lemma exists_call {f : Ref} {frame : Frame} {limit : Nat} {frozen₀ : Set Ref}
    (hbare : frame.head.IsBare) (hname : name ∉ frame.names)
    (hvars : ∀ inner ∈ spacesOf items, inner ∈ frame.head.vars ∧ inner ≠ name ∧ inner ∉ frame.names)
    (hf : m.IsFunction f (.function frame.head [.name name] .absent
      (.block frame.lexicals frame.functions (statementsOf (some name) items))) s)
    (hstores : ∀ path, m.Stores frozen₀ path bodies q) (hlt : ∀ x ∈ frozen₀, x < m.objects.size)
    (hq : q ∉ frozen₀) (hlimit : limit < turnLimit)
    (hruns : ∀ (a : Activation) (m₁ : Machine), a.scope = m.scopes.size →
      Standing m m.scopes.size (some (name, q)) (spacesOf items) frame.names (fun _ => []) [] ∅ m₁ →
      ∃ frozen m' result,
        Comes (hostAt natives depth) limit
          (a.plan ((statementsOf (some name) items).map (Task.execute []) ++ [])) m₁
          ({ a with result }.plan []) m' ∧
        Standing m m.scopes.size (some (name, q)) (spacesOf items) frame.names
          (fun name => bodiesOf name items) (exportsOf items) frozen m') :
    ∃ frozen m', (hostAt natives (depth + 1)).call (.object f) .undefined [.object q] m =
        .ok .undefined m' ∧
      m.Keeps m' {q} ∅ ∧ frozen₀ ⊆ frozen ∧
      (∀ x ∈ frozen, x ∈ frozen₀ ∨ m.objects.size ≤ x) ∧ (∀ x ∈ frozen, x < m'.objects.size) ∧
      ∀ path, m'.Stores frozen path (bodies ++ [items]) q := by
  obtain ⟨⟨o, ho⟩, -⟩ := hstores []
  obtain ⟨m₁, hkeeps, howner, hspaces, hdeclared, hcall⟩ :=
    callValue_eq (h := hostAt natives depth) hbare hf hname (.object q)
  have hstart : Standing m m.scopes.size (some (name, q)) (spacesOf items) frame.names
      (fun _ => []) [] ∅ m₁ :=
    .start hkeeps howner.isFunctionScope hdeclared
      (fun inner hinner => by
        obtain ⟨hvar, hne, hnot⟩ := hvars inner hinner
        exact hspaces inner hvar hne hnot)
      fun owner r hreceiver => by
        cases hreceiver
        exact .start hkeeps ho howner
  obtain ⟨frozen₁, m', result, hcomes, hstanding⟩ :=
    hruns (.start frame.head m.scopes.size []) m₁ rfl hstart
  obtain ⟨frozen, hsub, hnew, hlt, hstores⟩ := hstanding.finish hstores hlt hq
  refine ⟨frozen, m', ?_, ?_, hsub, hnew, hlt, hstores⟩
  · refine hcall result m' ?_
    have hrun := hcomes.run_eq_ended rfl hlimit
    rw [List.append_nil] at hrun
    have hplan : (Activation.start frame.head m.scopes.size []).plan
        ((statementsOf (some name) items).map (Task.execute [])) =
      .start frame.head m.scopes.size ((statementsOf (some name) items).map (Task.execute [])) := by
      rw [Activation.plan, Activation.start, List.append_nil]
      rfl
    rw [← hplan]
    exact hrun
  · refine hstanding.keeps.of_new (fun x ⟨_, hx⟩ _ => ?_) fun t ht hlt => ?_
    · cases hx
      rfl
    · exact absurd (Set.mem_singleton_iff.mp ht) (Nat.ne_of_lt hlt)

mutual

/-- The statements of an item run to their end, and its exports are added to the namespace that it
stands in. -/
theorem Item.comes (item : Item) {depth : Nat} {m₀ m : Machine} {s : Nat}
    {receiver : Option (Utf16 × Ref)} {spaces functions exported : List Utf16}
    {made : Utf16 → List (List Item)} {frozen : Set Ref} {a : Activation}
    (natives : Native → Invocation → Exec Value) (tasks : List Task)
    (hstanding : Standing m₀ s receiver spaces functions made exported frozen m)
    (hscope : a.scope = s) (hdepth : item.depth ≤ depth) (hcost : item.cost < turnLimit)
    (hsuits : item.Suits (receiver.map Prod.fst) spaces functions)
    (hpermits : ∀ name ∈ item.names, m₀.Permits (.text name)) :
    ∃ frozen' m' result,
      Comes (hostAt natives depth) item.cost
        (a.plan ((item.statements (receiver.map Prod.fst)).map (Task.execute []) ++ tasks)) m
        ({ a with result }.plan tasks) m' ∧
      Standing m₀ s receiver spaces functions (fun name => made name ++ (item.bodyOf? name).toList)
        (exported ++ item.exports) frozen' m' := by
  cases item with
  | code code exports                 =>
    obtain ⟨hnames, hexports⟩ := hsuits
    have hfunction : m.IsFunctionScope a.scope := by
      rw [hscope]
      exact hstanding.scope
    obtain ⟨m₁, result₁, hcode, hsettles⟩ := code.settles (hostAt natives depth) a m
      ((assignments (receiver.map Prod.fst) exports).map (Task.execute []) ++ tasks) hfunction
    rw [hscope] at hsettles
    have hstanding₁ := hstanding.settles hsettles (fun name hname => (hnames name hname).1) <| by
      rintro owner r rfl hmem
      exact (hnames owner hmem).2 rfl
    obtain ⟨m₂, result₂, hrest, hstanding₂⟩ := hstanding₁.comes_assignments
      (h := hostAt natives depth) (a := { a with result := result₁ }) tasks hscope
      (fun e he => (hexports e he).2.2) (fun e he => hpermits e.1 (List.mem_map_of_mem he))
      fun e he => by
        obtain ⟨hname, hspace, -⟩ := hexports e he
        obtain ⟨v, hv⟩ := hname.elim (hsettles.gives e.2) (hstanding₁.declared e.2)
        exact ⟨v, hv, fun hmem => absurd hmem hspace⟩
    refine ⟨frozen, m₂, result₂, ?_, ?_⟩
    · have hcomes := hcode.trans hrest
      rw [Item.statements, List.map_append, List.append_assoc]
      exact hcomes
    · have hmade : (fun name => made name ++ ((Item.code code exports).bodyOf? name).toList) =
          made := by
        funext name
        exact List.append_nil _
      rw [hmade]
      exact hstanding₂
  | space isExported name frame items =>
    obtain ⟨hspace, howner, hfunctions, hkey, hbare, hname, hvars, hsuit⟩ := hsuits
    obtain ⟨depth, rfl⟩ : ∃ d, depth = d + 1 :=
      Nat.exists_eq_add_of_le' (Nat.le_trans (Nat.le_add_left 1 _) hdepth)
    rw [Item.cost] at hcost
    have hreceiver : ∀ owner r, receiver = some (owner, r) → owner ≠ name := by
      rintro owner r rfl rfl
      exact howner rfl
    let exports := if isExported then [(name, name)] else []
    let rest := (assignments (receiver.map Prod.fst) exports).map (Task.execute []) ++ tasks
    -- the function is made, then the object that it is called with
    obtain ⟨m₁, hkeeps₁, hf₁, hcall⟩ := comes_namespace hbare.1 [.name name] .absent
      (.block frame.lexicals frame.functions (statementsOf (some name) items)) name a rest
      (hostAt natives (depth + 1)) m
    rw [hscope] at hf₁
    have hstanding₁ := hstanding.settles (.of_keeps hkeeps₁ hstanding.scope) nofun nofun
    obtain ⟨q, m₂, hargument, hkeeps₂, hq, hstanding₂⟩ :=
      hstanding₁.exists_argument hspace hfunctions hreceiver
    have hf₂ := hf₁.of_keeps hkeeps₂
    have hspace₂ := hstanding₂.isSpace hspace hq
    -- the call runs the body in a scope of its own
    obtain ⟨frozen', m₃, hcalled, hkeeps₃, hsub, hnew, hlt, hstores⟩ :=
      exists_call hbare hname
        (fun inner hinner => by
          obtain ⟨hne, hnot⟩ := hsuit.apart hinner
          exact ⟨hvars inner hinner, fun heq => hne (heq ▸ rfl), hnot⟩)
        hf₂ hspace₂.stores (fun x hx => (hstanding₂.fresh x hx).2) hspace₂.isNamed (by omega)
        fun b m hb hstart => comes_statementsOf items natives [] hstart hb
          (Nat.le_of_succ_le_succ hdepth) (by omega) hsuit fun inner hinner =>
            hstanding₂.permits (hpermits inner (List.mem_append_right _ hinner))
    have hstanding₃ := hstanding₂.called hspace hq hkeeps₃ hsub hnew hlt hstores
    have hq₃ : m₃.Binds s name (.variable name (.object q)) :=
      (hkeeps₃.binds_iff hstanding₂.scope.lt_size (Set.notMem_empty s)).mpr hq
    have hexported : ∀ e ∈ exports, e = (name, name) := fun e he => by
      cases isExported with
      | true  => exact List.mem_singleton.mp he
      | false => exact absurd he List.not_mem_nil
    have hkeys : ∀ e ∈ exports, Key.ofText e.1 = .text e.1 := fun e he => by
      obtain rfl := hexported e he
      exact hkey
    have hnames : exports.map Prod.fst = if isExported then [name] else [] := by
      cases isExported <;> rfl
    obtain ⟨m₄, result₄, hrest, hstanding₄⟩ := hstanding₃.comes_assignments
      (h := hostAt natives (depth + 1)) (a := { a with result := .undefined }) tasks hscope hkeys
      (fun e he => by
        refine hpermits e.1 (List.mem_append_left _ ?_)
        rw [← hnames]
        exact List.mem_map_of_mem he)
      fun e he => by
        obtain rfl := hexported e he
        exact ⟨_, ⟨_, hq₃, rfl⟩, fun _ => ⟨q, hq₃, rfl⟩⟩
    refine ⟨frozen', m₄, result₄, ?_, ?_⟩
    · have hcomes := (hcall q m₂ m₃ .undefined (fun b tasks hb =>
        hargument _ b tasks (hb.trans hscope)) hcalled).trans hrest
      rw [Item.statements, List.map_append, List.append_assoc]
      have hlength : exports.length = if isExported then 1 else 0 := by
        rw [← List.length_map Prod.fst, hnames]
        split <;> rfl
      refine hcomes.mono ?_
      rw [Item.cost, hlength]
      omega
    · have hbody : (fun other => made other ++ if name = other then [items] else []) =
          fun other => made other ++
            ((Item.space isExported name frame items).bodyOf? other).toList := by
        funext other
        rw [Item.bodyOf?]
        split <;> rfl
      rw [← hbody, Item.exports, ← hnames]
      exact hstanding₄

/-- The statements of a body run to their end. -/
theorem comes_statementsOf (items : List Item) {depth : Nat} {m₀ m : Machine} {s : Nat}
    {receiver : Option (Utf16 × Ref)} {spaces functions exported : List Utf16}
    {made : Utf16 → List (List Item)} {frozen : Set Ref} {a : Activation}
    (natives : Native → Invocation → Exec Value) (tasks : List Task)
    (hstanding : Standing m₀ s receiver spaces functions made exported frozen m)
    (hscope : a.scope = s) (hdepth : depthOf items ≤ depth) (hcost : costOf items < turnLimit)
    (hsuit : Suit (receiver.map Prod.fst) spaces functions items)
    (hpermits : ∀ name ∈ namesOf items, m₀.Permits (.text name)) :
    ∃ frozen' m' result,
      Comes (hostAt natives depth) (costOf items)
        (a.plan ((statementsOf (receiver.map Prod.fst) items).map (Task.execute []) ++ tasks)) m
        ({ a with result }.plan tasks) m' ∧
      Standing m₀ s receiver spaces functions (fun name => made name ++ bodiesOf name items)
        (exported ++ exportsOf items) frozen' m' := by
  cases items with
  | nil             =>
    refine ⟨frozen, m, a.result, .refl _ _ m, ?_⟩
    have hmade : (fun name => made name ++ bodiesOf name []) = made := by
      funext name
      exact List.append_nil _
    rw [hmade, exportsOf, List.flatMap_nil, List.append_nil]
    exact hstanding
  | cons item items =>
    rw [depthOf] at hdepth
    rw [costOf] at hcost
    rw [namesOf] at hpermits
    obtain ⟨hsuits, hsuit⟩ := hsuit
    obtain ⟨frozen₁, m₁, result₁, hfirst, hstanding₁⟩ := item.comes natives
      ((statementsOf (receiver.map Prod.fst) items).map (Task.execute []) ++ tasks) hstanding
      hscope (Nat.le_trans (Nat.le_max_left _ _) hdepth) (by omega) hsuits
      fun name hname => hpermits name (List.mem_append_left _ hname)
    obtain ⟨frozen₂, m₂, result₂, hrest, hstanding₂⟩ := comes_statementsOf items
      (a := { a with result := result₁ }) natives tasks hstanding₁ hscope
      (Nat.le_trans (Nat.le_max_right _ _) hdepth) (by omega) hsuit
      fun name hname => hpermits name (List.mem_append_right _ hname)
    refine ⟨frozen₂, m₂, result₂, ?_, ?_⟩
    · have hcomes := hfirst.trans hrest
      rw [statementsOf, List.map_append, List.append_assoc, costOf]
      exact hcomes
    · have hmade : (fun name => made name ++ bodiesOf name (item :: items)) =
          fun name => made name ++ (item.bodyOf? name).toList ++ bodiesOf name items := by
        funext name
        rw [bodiesOf, bodiesOf, List.append_assoc]
        cases hbody : item.bodyOf? name with
        | none      => rw [List.filterMap_cons_none hbody]; rfl
        | some body => rw [List.filterMap_cons_some hbody]; rfl
      rw [hmade, exportsOf, List.flatMap_cons, ← List.append_assoc]
      exact hstanding₂

end

/-- The frame of a namespace whose body declares nothing but these names. -/
def Frame.ofNames (vars : List Utf16) (lexicals : List LexicalName) : Frame where
  head := {
    name := none, kind := .plain, isAsync := false, isGenerator := false, isStrict := false,
    usesArguments := false, vars, source := "" }
  lexicals := lexicals
  functions := []

/-- A namespace `A` whose namespace `B` exports a name. -/
def nested (name : Utf16) : Item :=
  .space false (.ofString "A") (.ofNames [.ofString "B"] [])
    [.space true (.ofString "B") (.ofNames [] [⟨name, true⟩])
      [.code (.literal name (.text name)) [(name, name)]]]

lemma suits_nested {name : Utf16} (hname : Utf16.ofString "B" ≠ name)
    (hkey : Key.ofText name = .text name) :
    (nested name).Suits none [.ofString "A", .ofString "A"] [] := by
  have hinner : (Item.space true (.ofString "B") (.ofNames [] [⟨name, true⟩])
      [.code (.literal name (.text name)) [(name, name)]]).Suits (some (.ofString "A"))
        [.ofString "B"] [] := by
    refine ⟨List.mem_singleton_self _, by decide, nofun, by decide +kernel,
      ⟨rfl, rfl, rfl, rfl, rfl⟩, nofun, nofun, ⟨?_, ?_⟩, trivial⟩
    · intro n hn
      obtain rfl := List.mem_singleton.mp hn
      exact ⟨nofun, fun heq => hname (Option.some.inj heq)⟩
    · intro e he
      obtain rfl := List.mem_singleton.mp he
      exact ⟨.inl (List.mem_singleton_self _), nofun, hkey⟩
  exact ⟨List.mem_cons_self, nofun, nofun, by decide +kernel, ⟨rfl, rfl, rfl, rfl, rfl⟩, nofun,
    fun inner hinner => hinner, hinner, trivial⟩

/-- The machine in the body of a function that declares a name. -/
def Machine.within (m : Machine) (name : Utf16) : Machine := { m with
  scopes := m.scopes.push ⟨some scriptScope, .function none, #[.variable name .undefined]⟩ }

lemma Machine.Permits.within {m : Machine} {key : Key} (hkey : m.Permits key) (name : Utf16) :
    (m.within name).Permits key := by
  obtain ⟨o, ho, hproto, hslot⟩ := hkey
  exact ⟨o, ⟨ho.there, ho.plain⟩, hproto, hslot⟩

lemma binds_within (m : Machine) (name : Utf16) :
    (m.within name).Binds m.scopes.size name (.variable name .undefined) := by
  refine ⟨_, none, Array.getElem?_push_size, rfl, ?_⟩
  rw [List.find?_toArray, List.find?_cons]
  simp [Binding.variable]

open Sandbox in
/-- When a template starts, members can be assigned that are nothing to the prototype of objects. -/
lemma permits_start {name : Utf16}
    (hmembers : ∀ s ∈ Standard.all, ∀ isStatic, ∀ b ∈ membersOf s isStatic,
      Machine.Unseen Standard.object.proto [.text name] (s.holder isStatic) b.key)
    (hsettled : Settled Standard.object.proto [.text name]) :
    Sandbox.start.Permits (.text name) := by
  have hbare : Machine.bare.Shows Standard.object.proto .ordinary none [(.text name, none)] :=
    ⟨Standard.object.bareProto, Machine.bare_proto .object, rfl, rfl,
      List.forall_mem_singleton.mpr rfl⟩
  obtain ⟨o, ho, -, hproto, hfinds⟩ :=
    listed_of_shows (shows_start_of_members (hbare.membered hmembers) hsettled) trivial
  have hnone : findProperty o.properties (.text name) = none := hfinds _ List.mem_cons_self
  refine ⟨o, ho, hproto, fun p hp => ?_⟩
  rw [hnone] at hp
  cases hp

end Stencil.Script
