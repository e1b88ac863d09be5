import Stencil.Proofs.Bodies
import Stencil.Proofs.Members

/-!
# Objects of namespaces

How a run through the body of a namespace stands: which objects its own namespaces have, what these
store, and what the body has exported. An object that no variable stands for any more is frozen: no
assignment of the body changes it. `Standing` is kept by each thing that a body does, and from its
start to its end the body adds what it exports to one object.
-/

namespace Stencil.Script

/-! ### Objects of namespaces -/

variable {h : Host} {m m' m₁ m₀ : Machine} {r q c : Ref} {bodies : List (List Item)}
  {items : List Item} {path : List Utf16} {name : Utf16} {frozen frozen' : Set Ref}

/-- The own property of an object under a key. -/
def Machine.property? (m : Machine) (r : Ref) (key : Key) : Option Property :=
  m.objects[r]?.bind fun o => findProperty o.properties key

/-- Whether a path of names leads from an object to another. -/
def Machine.Leads (m : Machine) : Ref → List Utf16 → Ref → Prop
  | r, [], q           => r = q
  | r, name :: path, q =>
    ∃ c, m.property? r (.text name) = some (.plain (.object c)) ∧ m.Leads c path q

/-- Whether an object has just the members that some bodies export. -/
def Machine.HasExports (m : Machine) (r : Ref) (bodies : List (List Item)) : Prop :=
  (∃ o, m.Holds r o) ∧ ∀ key, (m.property? r key).isSome ↔
    ∃ items ∈ bodies, ∃ name ∈ exportsOf items, key = .text name

/-- Whether an object has what is kept of some bodies, as far as a path goes. All objects on the
path but the first are frozen: no variable stands for them any more. -/
def Machine.Stores (m : Machine) (frozen : Set Ref) :
    List Utf16 → List (List Item) → Ref → Prop
  | [], bodies, r           => m.HasExports r bodies
  | name :: path, bodies, r => ∀ items, lastBody? name bodies = some items →
    bodiesOf name items ≠ [] →
      ∃ c ∈ frozen, m.property? r (.text name) = some (.plain (.object c)) ∧
        m.Stores frozen path (bodiesOf name items) c

lemma lastBody?_append (name : Utf16) (bodies : List (List Item)) (items : List Item) :
    lastBody? name (bodies ++ [items]) =
      if name ∈ exportsOf items then some items else lastBody? name bodies := by
  rw [lastBody?, List.filter_append, List.getLast?_append]
  by_cases hname : name ∈ exportsOf items
  · rw [if_pos hname, List.filter_cons_of_pos (by simpa using hname)]
    rfl
  · rw [if_neg hname, List.filter_cons_of_neg (by simpa using hname)]
    rfl

namespace Machine

lemma property?_congr (hsame : m'.objects[r]? = m.objects[r]?) (key : Key) :
    m'.property? r key = m.property? r key := by
  rw [property?, property?, hsame]

lemma Holds.property?_eq {o : Object} (hr : m.Holds r o) (key : Key) :
    m.property? r key = findProperty o.properties key := by
  rw [property?, hr.there]
  rfl

lemma Holds.lt_size {o : Object} (hr : m.Holds r o) : r < m.objects.size :=
  hr.listed.lt_size

/-- An object stores the same as long as it and the frozen objects stay as they are. -/
lemma Stores.mono (hstores : m.Stores frozen path bodies r)
    (hsame : m'.objects[r]? = m.objects[r]?)
    (hfrozen : ∀ q ∈ frozen, m'.objects[q]? = m.objects[q]?) (hsub : frozen ⊆ frozen') :
    m'.Stores frozen' path bodies r := by
  induction path generalizing bodies r with
  | nil              =>
    obtain ⟨⟨o, hr⟩, hkeys⟩ := hstores
    refine ⟨⟨o, { hr with there := hsame.trans hr.there }⟩, fun key => ?_⟩
    rw [property?, hsame]
    exact hkeys key
  | cons name path ih =>
    intro items hlast hbodies
    obtain ⟨c, hc, hmember, hinner⟩ := hstores items hlast hbodies
    refine ⟨c, hsub hc, ?_, ih hinner (hfrozen c hc)⟩
    rw [property?, hsame]
    exact hmember

/-- A path that leads to bodies leads to an object that has just their members. -/
lemma Stores.exists_leads (hstores : ∀ path, m.Stores frozen path bodies r)
    (hkept : keptAt bodies path ≠ []) :
    ∃ q, m.Leads r path q ∧ m.HasExports q (keptAt bodies path) := by
  induction path generalizing bodies r with
  | nil              => exact ⟨r, rfl, hstores []⟩
  | cons name path ih =>
    have hempty (path : List Utf16) : keptAt [] path = [] := by
      cases path <;> rfl
    rw [keptAt] at hkept ⊢
    rcases hlast : lastBody? name bodies with _ | items
    · rw [hlast] at hkept
      exact absurd rfl hkept
    rw [hlast] at hkept
    dsimp only at hkept ⊢
    have hbodies : bodiesOf name items ≠ [] := by
      intro hnone
      rw [hnone] at hkept
      exact hkept (hempty path)
    -- the object of the name is the same for all paths
    obtain ⟨c, -, hmember, -⟩ := hstores [name] items hlast hbodies
    have hinner (path : List Utf16) : m.Stores frozen path (bodiesOf name items) c := by
      obtain ⟨c', -, hmember', hinner⟩ := hstores (name :: path) items hlast hbodies
      rw [hmember] at hmember'
      cases hmember'
      exact hinner
    obtain ⟨q, hleads, hexports⟩ := ih hinner hkept
    exact ⟨q, ⟨c, hmember, hleads⟩, hexports⟩

end Machine

/-! ### The run of a body -/

variable {s : Nat} {spaces functions exported : List Utf16} {owner : Utf16}
  {receiver : Option (Utf16 × Ref)} {made : Utf16 → List (List Item)}

lemma Machine.Binds.eq {b b' : Binding} (hb : m.Binds s name b) (hb' : m.Binds s name b') :
    b = b' := by
  obtain ⟨scope, -, hscope, -, hfind⟩ := hb
  obtain ⟨scope', -, hscope', -, hfind'⟩ := hb'
  rw [hscope, Option.some_inj] at hscope'
  subst hscope'
  rw [hfind, Option.some_inj] at hfind'
  exact hfind'

/-- What the object of a namespace has got in the run of its body, which began with the machine
`m₀`: the names exported so far, and under the names of namespaces their objects. -/
structure Receives (m₀ m : Machine) (s : Nat) (spaces exported : List Utf16) (owner : Utf16)
    (r : Ref) : Prop where
  binds : m.Binds s owner (.variable owner (.object r))
  before : ∃ o, m₀.Holds r o
  after : ∃ o, m.Holds r o
  others : ∀ key, (∀ name ∈ exported, key ≠ .text name) → m.property? r key = m₀.property? r key
  given : ∀ name ∈ exported, (m.property? r (.text name)).isSome
  opened : ∀ name ∈ spaces, name ∈ exported → ∃ q,
    m.Binds s name (.variable name (.object q)) ∧
      m.property? r (.text name) = some (.plain (.object q))

/-- The object of a namespace that stays as it is has got the same. -/
lemma Receives.of_same (hreceives : Receives m₀ m s spaces exported owner r)
    (hsame : m'.objects[r]? = m.objects[r]?)
    (howner : m'.Binds s owner (.variable owner (.object r)))
    (hspaces : ∀ name ∈ spaces, ∀ q, m.Binds s name (.variable name (.object q)) →
      m'.Binds s name (.variable name (.object q))) :
    Receives m₀ m' s spaces exported owner r := by
  obtain ⟨o, hafter⟩ := hreceives.after
  refine ⟨howner, hreceives.before, ⟨o, { hafter with there := hsame.trans hafter.there }⟩,
    fun key hkey => ?_, fun name hname => ?_, fun name hname hmem => ?_⟩
  · rw [Machine.property?_congr hsame, hreceives.others key hkey]
  · rw [Machine.property?_congr hsame]
    exact hreceives.given name hname
  · rw [Machine.property?_congr hsame]
    obtain ⟨q, hq, hproperty⟩ := hreceives.opened name hname hmem
    exact ⟨q, hspaces name hname q hq, hproperty⟩

/-- At the start of a body its object is as it was before. -/
lemma Receives.start {o : Object} (hkeeps : m₀.Keeps m ∅ ∅) (hr : m₀.Holds r o)
    (howner : m.Binds s owner (.variable owner (.object r))) :
    Receives m₀ m s spaces [] owner r := by
  have hsame := hkeeps.object r hr.lt_size (Set.notMem_empty r)
  exact ⟨howner, ⟨o, hr⟩, ⟨o, { hr with there := hsame.trans hr.there }⟩,
    fun key _ => Machine.property?_congr hsame key, nofun, nofun⟩

/-- Whether an object is that of a namespace whose body began to run with the machine `m₀` or later,
and stores what is kept of these bodies. -/
structure IsSpace (m₀ m : Machine) (frozen : Set Ref) (bodies : List (List Item)) (q : Ref) :
    Prop where
  isNew : m₀.objects.size ≤ q
  isNamed : q ∉ frozen
  stores : ∀ path, m.Stores frozen path bodies q

lemma IsSpace.lt_size (hq : IsSpace m₀ m frozen bodies q) : q < m.objects.size := by
  obtain ⟨⟨o, ho⟩, -⟩ := hq.stores []
  exact ho.lt_size

lemma IsSpace.of_same (hq : IsSpace m₀ m frozen bodies q)
    (hsame : m'.objects[q]? = m.objects[q]?)
    (hfrozen : ∀ x ∈ frozen, m'.objects[x]? = m.objects[x]?) (hsub : frozen ⊆ frozen')
    (hnot : q ∉ frozen') : IsSpace m₀ m' frozen' bodies q :=
  ⟨hq.isNew, hnot, fun path => (hq.stores path).mono hsame hfrozen hsub⟩

/-- How the run of a body stands, which began with the machine `m₀`: which bodies each of its
namespaces has run, and what was exported. Nothing but the object that the body adds to and the
names of its own scope have changed, and the objects of its namespaces are new. -/
structure Standing (m₀ : Machine) (s : Nat) (receiver : Option (Utf16 × Ref))
    (spaces functions : List Utf16) (made : Utf16 → List (List Item)) (exported : List Utf16)
    (frozen : Set Ref) (m : Machine) : Prop where
  keeps : m₀.Keeps m {r | ∃ owner, receiver = some (owner, r)} {s}
  scope : m.IsFunctionScope s
  fresh : ∀ q ∈ frozen, m₀.objects.size ≤ q ∧ q < m.objects.size
  declared : ∀ name ∈ functions, ∃ v, m.Gives s name v
  stands : ∀ name ∈ spaces, m.Binds s name (.variable name .undefined) ∧ made name = [] ∨
    ∃ q, m.Binds s name (.variable name (.object q)) ∧ IsSpace m₀ m frozen (made name) q
  apart : ∀ name ∈ spaces, ∀ other ∈ spaces, ∀ q, m.Binds s name (.variable name (.object q)) →
    m.Binds s other (.variable other (.object q)) → name = other
  receives : ∀ owner r, receiver = some (owner, r) → Receives m₀ m s spaces exported owner r

lemma not_binds_both (hundefined : m.Binds s name (.variable name .undefined)) :
    ¬ m.Binds s name (.variable name (.object q)) := fun hq => by
  have heq := hundefined.eq hq
  simp [Binding.variable] at heq

namespace Standing

/-- The object of a namespace of the body. -/
lemma isSpace (hstanding : Standing m₀ s receiver spaces functions made exported frozen m)
    (hname : name ∈ spaces) (hq : m.Binds s name (.variable name (.object q))) :
    IsSpace m₀ m frozen (made name) q := by
  rcases hstanding.stands name hname with ⟨hundefined, -⟩ | ⟨q', hq', hspace⟩
  · exact absurd hq (not_binds_both hundefined)
  · have heq := hq.eq hq'
    simp only [Binding.variable, Binding.mk.injEq, Option.some.injEq, Value.object.injEq,
      true_and, and_true] at heq
    exact heq ▸ hspace

/-- Code that does not concern the namespaces of a body. -/
lemma settles {names : List Utf16}
    (hstanding : Standing m₀ s receiver spaces functions made exported frozen m)
    (hsettles : m.Settles m' s names) (hspaces : ∀ name ∈ names, name ∉ spaces)
    (howner : ∀ owner r, receiver = some (owner, r) → owner ∉ names) :
    Standing m₀ s receiver spaces functions made exported frozen m' := by
  have hsame (q : Ref) (hq : q < m.objects.size) : m'.objects[q]? = m.objects[q]? :=
    hsettles.keeps.object q hq (Set.notMem_empty q)
  have hbinds (name : Utf16) (hname : name ∈ spaces) (b : Binding) :
      m'.Binds s name b ↔ m.Binds s name b :=
    hsettles.others name (fun hmem => hspaces name hmem hname) b
  refine {
    keeps    := hstanding.keeps.trans (hsettles.keeps.mono (Set.empty_subset _) subset_rfl)
    scope    := hsettles.scope
    fresh    := fun q hq => ?_
    declared := fun name hname => ?_
    stands   := fun name hname => ?_
    apart    := fun name hname other hother q => ?_
    receives := fun owner r hreceiver => ?_ }
  · obtain ⟨hle, hlt⟩ := hstanding.fresh q hq
    exact ⟨hle, Nat.lt_of_lt_of_le hlt hsettles.keeps.objects_le⟩
  · by_cases hsettled : name ∈ names
    · exact hsettles.gives name hsettled
    · obtain ⟨v, hv⟩ := hstanding.declared name hname
      exact ⟨v, (hsettles.gives_iff hsettled).mpr hv⟩
  · refine (hstanding.stands name hname).imp (fun ⟨hundefined, hnone⟩ => ?_)
      fun ⟨q, hq, hspace⟩ => ?_
    · exact ⟨(hbinds name hname _).mpr hundefined, hnone⟩
    · exact ⟨q, (hbinds name hname _).mpr hq, hspace.of_same (hsame q hspace.lt_size)
        (fun x hx => hsame x (hstanding.fresh x hx).2) subset_rfl hspace.isNamed⟩
  · rw [hbinds name hname, hbinds other hother]
    exact hstanding.apart name hname other hother q
  · have hreceives := hstanding.receives owner r hreceiver
    obtain ⟨o, hr⟩ := hreceives.after
    exact hreceives.of_same (hsame r hr.lt_size)
      ((hsettles.others owner (howner owner r hreceiver) _).mpr hreceives.binds)
      fun name hname q hq => (hbinds name hname _).mpr hq

/-- A new object is made for a namespace of the body. -/
lemma make (hstanding : Standing m₀ s receiver spaces functions made exported frozen m)
    (hname : name ∈ spaces) (hfunctions : name ∉ functions)
    (howner : ∀ owner r, receiver = some (owner, r) → owner ≠ name)
    (hundefined : m.Binds s name (.variable name .undefined)) :
    Standing m₀ s receiver spaces functions made exported frozen
      ((m.withNew .fresh).initialized s name (.object m.objects.size)) := by
  let m' := (m.withNew .fresh).initialized s name (.object m.objects.size)
  have hkeeps : m.Keeps m' ∅ {s} :=
    keeps_named m .fresh s name
  have hsame (q : Ref) (hq : q < m.objects.size) : m'.objects[q]? = m.objects[q]? :=
    hkeeps.object q hq (Set.notMem_empty q)
  have hbinds {other : Utf16} (hne : name ≠ other) (b : Binding) :
      m'.Binds s other b ↔ m.Binds s other b :=
    binds_initialized_of_ne (m := m.withNew .fresh) hne
  have hself : m'.Binds s name (.variable name (.object m.objects.size)) :=
    binds_initialized_self (m := m.withNew .fresh) (w := .undefined) hundefined
  have hholds : m'.Holds m.objects.size .fresh :=
    ⟨Array.getElem?_push_size, rfl, rfl, rfl, fun key p hfind => by cases hfind⟩
  have hspace : IsSpace m₀ m' frozen [] m.objects.size := by
    refine ⟨hstanding.keeps.objects_le,
      fun hmem => Nat.lt_irrefl _ (hstanding.fresh _ hmem).2, fun path => ?_⟩
    cases path with
    | nil      =>
      refine ⟨⟨_, hholds⟩, fun key => ?_⟩
      rw [hholds.property?_eq]
      simp [findProperty, Object.fresh, Object.empty]
    | cons _ _ =>
      intro items hlast
      cases hlast
  -- an object that a name of the body stood for before is older
  have hold {other : Utf16} (hother : other ∈ spaces) {q : Ref}
      (hq : m'.Binds s other (.variable other (.object q))) :
      name = other ∧ q = m.objects.size ∨ name ≠ other ∧ q < m.objects.size := by
    by_cases hne : name = other
    · subst hne
      have heq := hq.eq hself
      simp only [Binding.variable, Binding.mk.injEq, Option.some.injEq, Value.object.injEq,
        true_and, and_true] at heq
      exact .inl ⟨rfl, heq⟩
    · exact .inr ⟨hne, (hstanding.isSpace hother ((hbinds hne _).mp hq)).lt_size⟩
  refine {
    keeps    := hstanding.keeps.trans (hkeeps.mono (Set.empty_subset _) subset_rfl)
    scope    := hself.isFunctionScope
    fresh    := fun q hq => ?_
    declared := fun other hother => ?_
    stands   := fun other hother => ?_
    apart    := fun name₁ hname₁ name₂ hname₂ q hq₁ hq₂ => ?_
    receives := fun owner r hreceiver => ?_ }
  · obtain ⟨hle, hlt⟩ := hstanding.fresh q hq
    exact ⟨hle, Nat.lt_of_lt_of_le hlt hkeeps.objects_le⟩
  · have hne : name ≠ other := fun heq => hfunctions (heq ▸ hother)
    obtain ⟨v, b, hb, hv⟩ := hstanding.declared other hother
    exact ⟨v, b, (hbinds hne b).mpr hb, hv⟩
  · by_cases hne : name = other
    · subst hne
      have hempty : made name = [] := by
        rcases hstanding.stands name hname with ⟨-, hnone⟩ | ⟨q, hq, -⟩
        · exact hnone
        · exact absurd hq (not_binds_both hundefined)
      exact .inr ⟨m.objects.size, hself, hempty ▸ hspace⟩
    · rcases hstanding.stands other hother with ⟨hother, hnone⟩ | ⟨q, hq, hspace⟩
      · exact .inl ⟨(hbinds hne _).mpr hother, hnone⟩
      · exact .inr ⟨q, (hbinds hne _).mpr hq, hspace.of_same (hsame q hspace.lt_size)
          (fun x hx => hsame x (hstanding.fresh x hx).2) subset_rfl hspace.isNamed⟩
  · rcases hold hname₁ hq₁ with ⟨heq₁, hsize₁⟩ | ⟨hne₁, hlt₁⟩ <;>
      rcases hold hname₂ hq₂ with ⟨heq₂, hsize₂⟩ | ⟨hne₂, hlt₂⟩
    · exact heq₁.symm.trans heq₂
    · exact absurd hsize₁ (Nat.ne_of_lt hlt₂)
    · exact absurd hsize₂ (Nat.ne_of_lt hlt₁)
    · exact hstanding.apart name₁ hname₁ name₂ hname₂ q ((hbinds hne₁ _).mp hq₁)
        ((hbinds hne₂ _).mp hq₂)
  · have hreceives := hstanding.receives owner r hreceiver
    have hne := howner owner r hreceiver
    obtain ⟨o, hr⟩ := hreceives.after
    refine hreceives.of_same (hsame r hr.lt_size) ((hbinds hne.symm _).mpr hreceives.binds)
      fun other hother q hq => ?_
    by_cases heq : name = other
    · subst heq
      exact absurd hq (not_binds_both hundefined)
    · exact (hbinds heq _).mpr hq

/-- The function of a namespace of the body has run one more of its bodies. -/
lemma called (hstanding : Standing m₀ s receiver spaces functions made exported frozen m)
    (hname : name ∈ spaces) (hq : m.Binds s name (.variable name (.object q)))
    (hkeeps : m.Keeps m' {q} ∅) (hsub : frozen ⊆ frozen')
    (hnew : ∀ x ∈ frozen', x ∈ frozen ∨ m.objects.size ≤ x)
    (hlt : ∀ x ∈ frozen', x < m'.objects.size)
    (hstores : ∀ path, m'.Stores frozen' path (made name ++ [items]) q) :
    Standing m₀ s receiver spaces functions
      (fun other => made other ++ if name = other then [items] else []) exported frozen' m' := by
  have hspace := hstanding.isSpace hname hq
  have hsame (x : Ref) (hx : x < m.objects.size) (hne : x ≠ q) :
      m'.objects[x]? = m.objects[x]? := hkeeps.object x hx hne
  have hbinds (other : Utf16) (b : Binding) : m'.Binds s other b ↔ m.Binds s other b :=
    hkeeps.binds_iff hstanding.scope.lt_size (Set.notMem_empty s)
  have hnamed {x : Ref} (hx : x < m.objects.size) (hnot : x ∉ frozen) : x ∉ frozen' := fun hmem =>
    (hnew x hmem).elim hnot fun hle => Nat.lt_irrefl _ (Nat.lt_of_lt_of_le hx hle)
  refine {
    keeps    := hstanding.keeps.step hkeeps (fun x hx hold => ?_) nofun
    scope    := (hkeeps.isFunctionScope_iff hstanding.scope.lt_size (Set.notMem_empty s)).mpr
      hstanding.scope
    fresh    := fun x hx => ⟨?_, hlt x hx⟩
    declared := fun other hother => ?_
    stands   := fun other hother => ?_
    apart    := fun name₁ hname₁ name₂ hname₂ x => ?_
    receives := fun owner r hreceiver => ?_ }
  · obtain rfl := Set.mem_singleton_iff.mp hx
    exact absurd hold (Nat.not_lt.mpr hspace.isNew)
  · exact (hnew x hx).elim (fun hmem => (hstanding.fresh x hmem).1)
      (Nat.le_trans hstanding.keeps.objects_le)
  · obtain ⟨v, b, hb, hv⟩ := hstanding.declared other hother
    exact ⟨v, b, (hbinds other b).mpr hb, hv⟩
  · by_cases hne : name = other
    · subst hne
      refine .inr ⟨q, (hbinds name _).mpr hq, hspace.isNew,
        hnamed hspace.lt_size hspace.isNamed, ?_⟩
      rw [if_pos rfl]
      exact hstores
    · rw [if_neg hne, List.append_nil]
      refine (hstanding.stands other hother).imp (fun ⟨hother, hnone⟩ => ?_)
        fun ⟨x, hx, hother'⟩ => ?_
      · exact ⟨(hbinds other _).mpr hother, hnone⟩
      · refine ⟨x, (hbinds other _).mpr hx, hother'.of_same ?_ (fun y hy => ?_) hsub
          (hnamed hother'.lt_size hother'.isNamed)⟩
        · refine hsame x hother'.lt_size fun heq => hne ?_
          exact hstanding.apart name hname other hother q hq (heq ▸ hx)
        · exact hsame y (hstanding.fresh y hy).2 fun heq => hspace.isNamed (heq ▸ hy)
  · rw [hbinds, hbinds]
    exact hstanding.apart name₁ hname₁ name₂ hname₂ x
  · have hreceives := hstanding.receives owner r hreceiver
    obtain ⟨o, hbefore⟩ := hreceives.before
    obtain ⟨o', hafter⟩ := hreceives.after
    refine hreceives.of_same (hsame r hafter.lt_size ?_) ((hbinds owner _).mpr hreceives.binds)
      fun other _ x hx => (hbinds other _).mpr hx
    exact Nat.ne_of_lt (Nat.lt_of_lt_of_le hbefore.lt_size hspace.isNew)

/-- Objects permit under a key what they permitted when the body began to run. -/
lemma permits {key : Key}
    (hstanding : Standing m₀ s receiver spaces functions made exported frozen m)
    (hkey : m₀.Permits key) : m.Permits key := by
  obtain ⟨o, ho, hproto, hslot⟩ := hkey
  refine ⟨o, ⟨?_, ho.plain⟩, hproto, hslot⟩
  rw [hstanding.keeps.object _ ho.lt_size ?_]
  · exact ho.there
  · rintro ⟨owner, hreceiver⟩
    obtain ⟨o', hbefore⟩ := (hstanding.receives owner _ hreceiver).before
    exact hbefore.ne_proto ⟨o, ho, hproto, hslot⟩ rfl

/-- One more name is exported. -/
lemma assign {v : Value} (hstanding : Standing m₀ s (some (owner, r)) spaces functions made exported
      frozen m)
    (hopened : name ∈ spaces → ∃ q, m.Binds s name (.variable name (.object q)) ∧ v = .object q) :
    Standing m₀ s (some (owner, r)) spaces functions made (exported ++ [name]) frozen
      (m.assigned r (.text name) v) := by
  obtain ⟨hbinds, ⟨before, hbefore⟩, ⟨after, hafter⟩, hothers, hgiven, hmade⟩ :=
    hstanding.receives owner r rfl
  have hkeeps : m.Keeps (m.assigned r (.text name) v) {r} ∅ := keeps_modify m r _
  have hsame (x : Ref) (hx : x < m.objects.size) (hne : x ≠ r) :
      (m.assigned r (.text name) v).objects[x]? = m.objects[x]? := hkeeps.object x hx hne
  have hold {x : Ref} (hx : m₀.objects.size ≤ x) : x ≠ r :=
    (Nat.ne_of_lt (Nat.lt_of_lt_of_le hbefore.lt_size hx)).symm
  have hself := hafter.assigned_self (.text name) v
  have hproperty {key : Key} (hne : .text name ≠ key) :
      (m.assigned r (.text name) v).property? r key = m.property? r key := by
    rw [hself.property?_eq, hafter.property?_eq, hafter.find_store_of_ne hne]
  have hnamed : (m.assigned r (.text name) v).property? r (.text name) = some (.plain v) := by
    rw [hself.property?_eq, hafter.find_store_self]
  refine {
    keeps    := ?_
    scope    := hstanding.scope
    fresh    := fun x hx => ?_
    declared := hstanding.declared
    stands   := fun other hother => ?_
    apart    := hstanding.apart
    receives := fun owner' r' hreceiver => ?_ }
  · exact hstanding.keeps.step hkeeps
      (fun x hx _ => ⟨owner, by rw [Set.mem_singleton_iff.mp hx]⟩) nofun
  · obtain ⟨hle, hlt⟩ := hstanding.fresh x hx
    exact ⟨hle, Nat.lt_of_lt_of_le hlt hkeeps.objects_le⟩
  · refine (hstanding.stands other hother).imp id fun ⟨q, hq, hspace⟩ => ⟨q, hq, ?_⟩
    refine hspace.of_same (hsame q hspace.lt_size (hold hspace.isNew)) (fun x hx => ?_) subset_rfl
      hspace.isNamed
    obtain ⟨hle, hlt⟩ := hstanding.fresh x hx
    exact hsame x hlt (hold hle)
  · cases hreceiver
    refine ⟨hbinds, ⟨before, hbefore⟩, ⟨_, hself⟩, fun key hkey => ?_, fun other hother => ?_,
      fun other hother hmem => ?_⟩
    · rw [hproperty (hkey name (by simp)).symm,
        hothers key fun n hn => hkey n (List.mem_append_left _ hn)]
    · by_cases hne : name = other
      · subst hne
        rw [hnamed]
        rfl
      · rw [hproperty fun heq => hne (Key.text.inj heq)]
        refine hgiven other ((List.mem_append.mp hother).resolve_right fun hmem => hne ?_)
        exact (List.mem_singleton.mp hmem).symm
    · by_cases hne : name = other
      · subst hne
        obtain ⟨q, hq, rfl⟩ := hopened hother
        exact ⟨q, hq, hnamed⟩
      · rw [hproperty fun heq => hne (Key.text.inj heq)]
        refine hmade other hother ((List.mem_append.mp hmem).resolve_right fun hmem => hne ?_)
        exact (List.mem_singleton.mp hmem).symm

/-- The assignments of names that have values export them. -/
lemma comes_assignments {a : Activation} {exports : List (Utf16 × Utf16)} (tasks : List Task)
    (hstanding : Standing m₀ s receiver spaces functions made exported frozen m)
    (hscope : a.scope = s) (hkeys : ∀ e ∈ exports, Key.ofText e.1 = .text e.1)
    (hpermits : ∀ e ∈ exports, m₀.Permits (.text e.1))
    (hgives : ∀ e ∈ exports, ∃ v, m.Gives s e.2 v ∧
      (e.1 ∈ spaces → ∃ q, m.Binds s e.1 (.variable e.1 (.object q)) ∧ v = .object q)) :
    ∃ m' result,
      Comes h (9 * exports.length)
        (a.plan ((assignments (receiver.map Prod.fst) exports).map (Task.execute []) ++ tasks)) m
        ({ a with result }.plan tasks) m' ∧
      Standing m₀ s receiver spaces functions made (exported ++ exports.map Prod.fst) frozen
        m' := by
  rcases receiver with _ | ⟨owner, r⟩
  · exact ⟨m, a.result, (Comes.refl h _ m).mono (Nat.zero_le _),
      { hstanding with receives := nofun }⟩
  induction exports generalizing exported m a with
  | nil              =>
    rw [List.map_nil, List.append_nil]
    exact ⟨m, a.result, .refl h _ m, hstanding⟩
  | cons e exports ih =>
    obtain ⟨v, hv, hopened⟩ := hgives e List.mem_cons_self
    have hreceives := hstanding.receives owner r rfl
    obtain ⟨o, hr⟩ := hreceives.after
    have hstore : storeMember (.object r) (.text e.1) v a.isStrict h m =
        .ok () (m.assigned r (.text e.1) v) :=
      hr.storeMember_eq (hkeys e List.mem_cons_self)
        (hstanding.permits (hpermits e List.mem_cons_self)) v a.isStrict
    have howner : m.Gives a.scope owner (.object r) := by
      rw [hscope]
      exact ⟨_, hreceives.binds, rfl⟩
    have hname : m.Gives a.scope e.2 v := by
      rw [hscope]
      exact hv
    have hfirst := comes_assignment howner hname hstore
      ((assignments (some owner) exports).map (Task.execute []) ++ tasks)
    obtain ⟨m', result, hrest, hstanding'⟩ := ih (a := { a with result := v })
      (m := m.assigned r (.text e.1) v) hscope
      (fun e he => hkeys e (List.mem_cons_of_mem _ he))
      (fun e he => hpermits e (List.mem_cons_of_mem _ he))
      (fun e he => hgives e (List.mem_cons_of_mem _ he)) (hstanding.assign hopened)
    refine ⟨m', result, (hfirst.trans hrest).mono ?_, ?_⟩
    · rw [List.length_cons]
      omega
    · rw [List.append_assoc] at hstanding'
      exact hstanding'

/-- A body begins to run with namespaces that have no object. -/
lemma start (hkeeps : m₀.Keeps m ∅ ∅) (hscope : m.IsFunctionScope s)
    (hdeclared : ∀ name ∈ functions, ∃ v, m.Gives s name v)
    (hspaces : ∀ name ∈ spaces, m.Binds s name (.variable name .undefined))
    (hreceives : ∀ owner r, receiver = some (owner, r) → Receives m₀ m s spaces [] owner r) :
    Standing m₀ s receiver spaces functions (fun _ => []) [] ∅ m where
  keeps := hkeeps.mono (Set.empty_subset _) (Set.empty_subset _)
  scope := hscope
  fresh := nofun
  declared := hdeclared
  stands name hname := .inl ⟨hspaces name hname, rfl⟩
  apart name hname _ _ _ hq := absurd hq (not_binds_both (hspaces name hname))
  receives := hreceives

/-- At the end of a body its object stores what is kept with this body, and the objects of its
namespaces are frozen. -/
lemma finish {frozen₀ : Set Ref}
    (hstanding : Standing m₀ s (some (owner, r)) (spacesOf items) functions
      (fun name => bodiesOf name items) (exportsOf items) frozen m)
    (hstores : ∀ path, m₀.Stores frozen₀ path bodies r)
    (hlt : ∀ x ∈ frozen₀, x < m₀.objects.size) (hr : r ∉ frozen₀) :
    ∃ frozen', frozen₀ ⊆ frozen' ∧ (∀ x ∈ frozen', x ∈ frozen₀ ∨ m₀.objects.size ≤ x) ∧
      (∀ x ∈ frozen', x < m.objects.size) ∧
      ∀ path, m.Stores frozen' path (bodies ++ [items]) r := by
  let named : Set Ref := {q | ∃ name ∈ spacesOf items, m.Binds s name (.variable name (.object q))}
  have hreceives := hstanding.receives owner r rfl
  have hsame : ∀ x ∈ frozen₀, m.objects[x]? = m₀.objects[x]? := by
    refine fun x hx => hstanding.keeps.object x (hlt x hx) ?_
    rintro ⟨owner', heq⟩
    cases heq
    exact hr hx
  refine ⟨frozen₀ ∪ frozen ∪ named, fun x hx => .inl (.inl hx), ?_, ?_, fun path => ?_⟩
  · rintro x ((hx | hx) | ⟨name, hname, hx⟩)
    · exact .inl hx
    · exact .inr (hstanding.fresh x hx).1
    · exact .inr (hstanding.isSpace hname hx).isNew
  · rintro x ((hx | hx) | ⟨name, hname, hx⟩)
    · exact Nat.lt_of_lt_of_le (hlt x hx) hstanding.keeps.objects_le
    · exact (hstanding.fresh x hx).2
    · exact (hstanding.isSpace hname hx).lt_size
  cases path with
  | nil            =>
    refine ⟨hreceives.after, fun key => ?_⟩
    obtain ⟨-, hkeys⟩ := hstores []
    by_cases hkey : ∃ name ∈ exportsOf items, key = .text name
    · obtain ⟨name, hname, rfl⟩ := hkey
      exact iff_of_true (hreceives.given name hname)
        ⟨items, List.mem_append_right _ (List.mem_singleton_self _), name, hname, rfl⟩
    · rw [hreceives.others key fun name hname heq => hkey ⟨name, hname, heq⟩, hkeys key]
      refine ⟨fun ⟨body, hbody, h⟩ => ⟨body, List.mem_append_left _ hbody, h⟩,
        fun ⟨body, hbody, h⟩ => ⟨body, ?_, h⟩⟩
      refine (List.mem_append.mp hbody).resolve_right fun hmem => hkey ?_
      exact List.mem_singleton.mp hmem ▸ h
  | cons name path =>
    intro body hlast hbodies
    rw [lastBody?_append] at hlast
    by_cases hname : name ∈ exportsOf items
    · rw [if_pos hname] at hlast
      cases hlast
      have hspace := mem_spacesOf hbodies
      obtain ⟨q, hq, hproperty⟩ := hreceives.opened name hspace hname
      refine ⟨q, .inr ⟨name, hspace, hq⟩, hproperty, ?_⟩
      exact ((hstanding.isSpace hspace hq).stores path).mono rfl (fun _ _ => rfl)
        fun x hx => .inl (.inr hx)
    · rw [if_neg hname] at hlast
      obtain ⟨c, hc, hproperty, hinner⟩ := hstores (name :: path) body hlast hbodies
      refine ⟨c, .inl (.inl hc), ?_, hinner.mono (hsame c hc) hsame fun x hx => .inl (.inl hx)⟩
      rw [hreceives.others (.text name) fun other hother heq => ?_]
      · exact hproperty
      · cases heq
        exact hname hother

end Standing

end Stencil.Script
