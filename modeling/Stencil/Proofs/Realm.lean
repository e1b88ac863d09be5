import Stencil.Proofs.Objects
import Stencil.Script.Realm

/-!
# Objects of a new machine

What is known of an object of a machine, before any script runs, is followed through the building of
the machine: `Machine.Shows` tells the kind of the object, its prototype and what it has under some
keys, and each step keeps this that does not change the object under one of the keys.
-/

namespace Stencil.Script

/-! ### Properties -/

section

variable {key k : Key}

lemma find?_set_of_ne {l : List (Key × Property)} {i : Nat} (hne : k ≠ key)
    (hi : ∀ q, l[i]? = some q → q.1 = k) (p : Property) :
    (l.set i (k, p)).find? (fun q => q.1 == key) = l.find? fun q => q.1 == key := by
  have hfalse : (k == key) = false := beq_eq_false_iff_ne.mpr hne
  induction l generalizing i with
  | nil         => rfl
  | cons q l ih =>
    cases i with
    | zero   =>
      obtain rfl : q.1 = k := hi q rfl
      rw [List.set_cons_zero, List.find?_cons, List.find?_cons, hfalse]
    | succ i =>
      rw [List.set_cons_succ, List.find?_cons, List.find?_cons, ih hi]

lemma findProperty_putProperty_of_ne (hne : k ≠ key) (properties : Array (Key × Property))
    (p : Property) :
    findProperty (putProperty properties k p) key = findProperty properties key := by
  rcases hfind : properties.findIdx? (fun q => q.1 == k) with _ | i <;> rw [putProperty, hfind]
  · exact findProperty_push_of_ne hne properties p
  · obtain ⟨hi, hk, -⟩ := Array.findIdx?_eq_some_iff_getElem.mp hfind
    have hset : ∀ q, properties.toList[i]? = some q → q.1 = k := by
      intro q hq
      rw [Array.getElem?_toList, Array.getElem?_eq_getElem hi, Option.some_inj] at hq
      exact hq ▸ beq_iff_eq.mp hk
    have hlist := find?_set_of_ne hne hset p
    rw [← Array.toList_setIfInBounds, Array.find?_toList, Array.find?_toList] at hlist
    exact congrArg (Option.map Prod.snd) hlist

lemma findProperty_putProperty_self {properties : Array (Key × Property)}
    (hkey : findProperty properties key = none) (p : Property) :
    findProperty (putProperty properties key p) key = some p := by
  rw [putProperty_of_lacks hkey, findProperty_push_self hkey]

end

/-! ### What is known of objects -/

/-- What is known of an object: its kind, its prototype, and what it has under some keys. -/
structure Object.Shows (o : Object) (kind : Kind) (proto : Option Ref)
    (known : List (Key × Option Property)) : Prop where
  kind : o.kind = kind
  proto : o.proto = proto
  finds : ∀ entry ∈ known, findProperty o.properties entry.1 = entry.2

namespace Machine

/-- What is known of an object of a machine. -/
def Shows (m : Machine) (r : Ref) (kind : Kind) (proto : Option Ref)
    (known : List (Key × Option Property)) : Prop :=
  ∃ o, m.objects[r]? = some o ∧ o.Shows kind proto known

/-- Whether a property of one object does not matter to what is known of another under some keys. -/
def Unseen (r : Ref) (keys : List Key) (s : Ref) (key : Key) : Prop := s ≠ r ∨ key ∉ keys

instance {r : Ref} {keys : List Key} {s : Ref} {key : Key} : Decidable (Unseen r keys s key) :=
  inferInstanceAs (Decidable (_ ∨ _))

variable {m : Machine} {r s : Ref} {kind : Kind} {proto : Option Ref}
  {known : List (Key × Option Property)}

lemma ne_of_not_mem {key : Key} {entry : Key × Option Property} (hkey : key ∉ known.map Prod.fst)
    (hentry : entry ∈ known) : key ≠ entry.1 := by
  rintro rfl
  exact hkey (List.mem_map_of_mem hentry)

namespace Shows

lemma modify (h : m.Shows r kind proto known) (f : Object → Object)
    (hf : s ≠ r ∨ ∀ o : Object, o.Shows kind proto known → (f o).Shows kind proto known) :
    Shows { m with objects := m.objects.modify s f } r kind proto known := by
  obtain ⟨o, ho, hshows⟩ := h
  by_cases hs : s = r
  · refine ⟨f o, ?_, hf.resolve_left (not_not_intro hs) o hshows⟩
    rw [Array.getElem?_modify, if_pos hs, ho]
    rfl
  · refine ⟨o, ?_, hshows⟩
    rw [Array.getElem?_modify, if_neg hs]
    exact ho

lemma set (h : m.Shows r kind proto known) (hs : s ≠ r) (o : Object) :
    Shows { m with objects := m.objects.setIfInBounds s o } r kind proto known := by
  obtain ⟨o', ho', hshows⟩ := h
  refine ⟨o', ?_, hshows⟩
  rw [Array.getElem?_setIfInBounds_ne hs]
  exact ho'

lemma withProperty {key : Key} (h : m.Shows r kind proto known)
    (hkey : Unseen r (known.map Prod.fst) s key) (p : Property) :
    (m.withProperty s key p).Shows r kind proto known := by
  refine h.modify _ (hkey.imp_right fun hkey o ho => ⟨ho.kind, ho.proto, fun entry hentry => ?_⟩)
  rw [← ho.finds entry hentry]
  exact findProperty_putProperty_of_ne (ne_of_not_mem hkey hentry) o.properties p

/-- A property that was not there. -/
lemma put {key : Key} (h : m.Shows r kind proto ((key, none) :: known))
    (hkey : key ∉ known.map Prod.fst) (p : Property) :
    (m.withProperty r key p).Shows r kind proto ((key, some p) :: known) := by
  obtain ⟨o, ho, hshows⟩ := h
  refine ⟨{ o with properties := putProperty o.properties key p }, ?_, hshows.kind, hshows.proto,
    List.forall_mem_cons.mpr ⟨?_, fun entry hentry => ?_⟩⟩
  · rw [Machine.withProperty, Array.getElem?_modify, if_pos rfl, ho]
    rfl
  · exact findProperty_putProperty_self (hshows.finds (key, none) List.mem_cons_self) p
  · rw [← hshows.finds entry (List.mem_cons_of_mem _ hentry)]
    exact findProperty_putProperty_of_ne (ne_of_not_mem hkey hentry) o.properties p

lemma withObject (h : m.Shows r kind proto known) (o : Object) :
    (m.withObject o).2.Shows r kind proto known := by
  obtain ⟨o', ho', hshows⟩ := h
  refine ⟨o', ?_, hshows⟩
  have hr := (Array.getElem?_eq_some_iff.mp ho').1
  rw [Machine.withObject, Array.getElem?_push, if_neg (Nat.ne_of_lt hr)]
  exact ho'

lemma lt_size (h : m.Shows r kind proto known) : r < m.objects.size := by
  obtain ⟨o, ho, -⟩ := h
  exact (Array.getElem?_eq_some_iff.mp ho).1

lemma foldl {α : Type} {step : Machine → α → Machine} (h : m.Shows r kind proto known)
    (xs : List α)
    (hstep : ∀ m, m.Shows r kind proto known → ∀ x ∈ xs, (step m x).Shows r kind proto known) :
    (xs.foldl step m).Shows r kind proto known :=
  List.foldlRecOn xs step h hstep

end Shows

end Machine

/-! ### Members -/

/-- The key of a native member. -/
def Builtin.key (b : Builtin) : Key :=
  match b.name with
  | .text name => .ofString name
  | .symbol w  => .ofSymbol w

namespace Machine

variable {m : Machine} {r s : Ref} {kind : Kind} {proto : Option Ref}
  {known : List (Key × Option Property)}

lemma withMembers_eq {s : Standard} (hs : s ≠ .global) (members : Standard → Bool → List Builtin)
    (m : Machine) :
    m.withMembers members s = (m.withTable members s false).withTable members s true :=
  if_neg hs

lemma withTable_concat {members : Standard → Bool → List Builtin} {s : Standard} {isStatic : Bool}
    {first : List (Builtin × Nat)} {b : Builtin} {i : Nat}
    (h : (members s isStatic).zipIdx = first ++ [(b, i)]) (m : Machine) :
    m.withTable members s isStatic =
      (first.foldl (fun m (b, i) => m.withMember (s.holder isStatic) (.method s isStatic i) b)
        m).withMember (s.holder isStatic) (.method s isStatic i) b := by
  rw [withTable, h, List.foldl_append]
  rfl

namespace Shows

lemma withMember {b : Builtin} (h : m.Shows r kind proto known)
    (hkey : Unseen r (known.map Prod.fst) s b.key) (native : Native) :
    (m.withMember s native b).Shows r kind proto known := by
  rcases b with ⟨name | w, role, arity, run⟩
  · exact (h.withObject _).withProperty hkey _
  · exact (h.withObject _).withProperty hkey _

/-- A new method, and the function that it leads to. -/
lemma withMethod {b : Builtin} (h : m.Shows r kind proto [(b.key, none)]) (hrole : b.role = .method)
    (native : Native) :
    (m.withMember r native b).Shows r kind proto
      [(b.key, some (.hidden (.object m.objects.size)))] ∧
    (m.withMember r native b).Shows m.objects.size (.native native) (some Standard.function.proto)
      [] := by
  have hnew (o : Object) : (m.withObject o).2.Shows m.objects.size o.kind o.proto [] :=
    ⟨o, Array.getElem?_push_size, rfl, rfl, List.forall_mem_nil _⟩
  rcases b with ⟨name | w, role, arity, run⟩ <;> cases hrole
  · exact ⟨(h.withObject _).put List.not_mem_nil _, (hnew _).withProperty (.inr List.not_mem_nil) _⟩
  · exact ⟨(h.withObject _).put List.not_mem_nil _, (hnew _).withProperty (.inr List.not_mem_nil) _⟩

variable {members : Standard → Bool → List Builtin} {s : Standard}

lemma withTable (h : m.Shows r kind proto known) (isStatic : Bool)
    (hkeys : ∀ b ∈ members s isStatic, Unseen r (known.map Prod.fst) (s.holder isStatic) b.key) :
    (m.withTable members s isStatic).Shows r kind proto known := by
  refine h.foldl _ fun m hm x hx => hm.withMember (hkeys x.1 ?_) _
  exact List.fst_mem_of_mem_zipIdx hx

lemma withMembers (h : m.Shows r kind proto known)
    (hkeys : ∀ isStatic, ∀ b ∈ members s isStatic,
      Unseen r (known.map Prod.fst) (s.holder isStatic) b.key) :
    (m.withMembers members s).Shows r kind proto known := by
  unfold Machine.withMembers
  dsimp only
  split
  · exact h.withTable false (hkeys false)
  · exact (h.withTable false (hkeys false)).withTable true (hkeys true)

end Shows

/-! ### What is added besides -/

/-- Whether the names and texts of errors do not matter. -/
def SparedByTexts (r : Ref) (keys : List Key) (s : Standard) : Prop :=
  s.title?.isSome → s = .error ∨ s.isSpecialError →
    Unseen r keys s.proto (.ofString "name") ∧ Unseen r keys s.proto (.ofString "message")

instance {r : Ref} {keys : List Key} {s : Standard} : Decidable (SparedByTexts r keys s) :=
  inferInstanceAs (Decidable (_ → _ → _))

namespace Shows

lemma withErrorTexts {s : Standard} (h : m.Shows r kind proto known)
    (hs : SparedByTexts r (known.map Prod.fst) s) :
    (m.withErrorTexts s).Shows r kind proto known := by
  unfold Machine.withErrorTexts
  rcases htitle : s.title? with _ | title
  · exact h
  dsimp only
  split
  · rename_i herror
    have hkeys := hs (by rw [htitle]; rfl) (by simpa using herror)
    exact (h.withProperty hkeys.1 _).withProperty hkeys.2 _
  · exact h

lemma withConstants (h : m.Shows r kind proto known) (hs : s ≠ r)
    (constants : List (String × Float)) :
    (m.withConstants s constants).Shows r kind proto known :=
  h.foldl _ fun _ hm _ _ => hm.withProperty (.inl hs) _

lemma withAlias {key : Key} (h : m.Shows r kind proto known)
    (hkey : Unseen r (known.map Prod.fst) s key) (original : String) :
    (m.withAlias s key original).Shows r kind proto known := by
  unfold Machine.withAlias
  split
  · exact h.withProperty hkey _
  · exact h

end Shows

/-- The keys of what is added besides members. -/
def furnishings : List Key :=
  [.ofString "prototype", .ofString "constructor", .ofSymbol .toStringTag,
    .ofString "BYTES_PER_ELEMENT", .ofSymbol .iterator, .ofString "keys", .ofSymbol .unscopables]

/-- The objects that much is added to. -/
def furnished : List Ref :=
  [Standard.symbol.constructor, Standard.number.constructor, Standard.math.proto, globalRef,
    Standard.global.constructor]

/-- Whether what is added besides members does not matter. -/
structure Spared (r : Ref) (keys : List Key) : Prop where
  other : ∀ key ∈ furnishings, key ∉ keys
  objects : ∀ s ∈ furnished, s ≠ r
  name : Unseen r keys Standard.function.proto (.ofString "name")
  length : Unseen r keys Standard.function.proto (.ofString "length")

instance {r : Ref} {keys : List Key} : Decidable (Spared r keys) :=
  decidable_of_iff
    ((∀ key ∈ furnishings, key ∉ keys) ∧ (∀ s ∈ furnished, s ≠ r) ∧
      Unseen r keys Standard.function.proto (.ofString "name") ∧
      Unseen r keys Standard.function.proto (.ofString "length"))
    ⟨fun h => ⟨h.1, h.2.1, h.2.2.1, h.2.2.2⟩, fun h => ⟨h.other, h.objects, h.name, h.length⟩⟩

namespace Shows

variable (hspared : Spared r (known.map Prod.fst))
include hspared

lemma withFurnishing {key : Key} (h : m.Shows r kind proto known) (hkey : key ∈ furnishings)
    (s : Ref) (p : Property) : (m.withProperty s key p).Shows r kind proto known :=
  h.withProperty (.inr (hspared.other key hkey)) p

lemma linked (h : m.Shows r kind proto known) (s : Standard) :
    (m.linked s).Shows r kind proto known := by
  unfold Machine.linked
  split
  · exact (h.withFurnishing hspared (by simp [furnishings]) _ _).withFurnishing hspared
      (by simp [furnishings]) _ _
  · exact h

lemma tagged (h : m.Shows r kind proto known) (s : Standard) :
    (m.tagged s).Shows r kind proto known := by
  unfold Machine.tagged
  split
  · exact h.withFurnishing hspared (by simp [furnishings]) _ _
  · exact h

lemma withElementSizes (h : m.Shows r kind proto known) (s : Standard) :
    (m.withElementSizes s).Shows r kind proto known := by
  unfold Machine.withElementSizes
  split
  · exact (h.withFurnishing hspared (by simp [furnishings]) _ _).withFurnishing hspared
      (by simp [furnishings]) _ _
  · exact h

lemma withGenerators (h : m.Shows r kind proto known) :
    m.withGenerators.Shows r kind proto known := by
  refine h.foldl _ fun _ hm x _ => ?_
  exact (hm.withFurnishing hspared (by simp [furnishings]) _ _).withFurnishing hspared
    (by simp [furnishings]) _ _

lemma withAliases (h : m.Shows r kind proto known) : m.withAliases.Shows r kind proto known := by
  have hiterator : Key.ofSymbol .iterator ∈ furnishings := by simp [furnishings]
  have hkeys : Key.ofString "keys" ∈ furnishings := by simp [furnishings]
  have halias {m : Machine} {key : Key} (h : m.Shows r kind proto known) (hkey : key ∈ furnishings)
      (s : Ref) (original : String) : (m.withAlias s key original).Shows r kind proto known :=
    h.withAlias (.inr (hspared.other key hkey)) original
  exact halias (halias (halias (halias (halias h hiterator _ _) hiterator _ _) hiterator _ _)
    hiterator _ _) hkeys _ _

lemma withUnscopables (h : m.Shows r kind proto known) :
    m.withUnscopables.Shows r kind proto known :=
  (h.withObject _).withFurnishing hspared (by simp [furnishings]) _ _

lemma withSymbols (h : m.Shows r kind proto known) : m.withSymbols.Shows r kind proto known :=
  h.foldl _ fun _ hm _ _ =>
    hm.withProperty (.inl (hspared.objects _ (by simp [furnished]))) _

lemma withEval (h : m.Shows r kind proto known) : m.withEval.Shows r kind proto known :=
  (h.modify _ (.inl (hspared.objects _ (by simp [furnished])))).withProperty
    (.inl (hspared.objects _ (by simp [furnished]))) _

lemma withShared (h : m.Shows r kind proto known) (name : String) :
    (m.withShared name).Shows r kind proto known := by
  unfold Machine.withShared
  split
  · exact h.withProperty (.inl (hspared.objects _ (by simp [furnished]))) _
  · exact h

lemma withGlobals (h : m.Shows r kind proto known) : m.withGlobals.Shows r kind proto known := by
  have hglobal : globalRef ≠ r := hspared.objects _ (by simp [furnished])
  have hhidden {m : Machine} (h : m.Shows r kind proto known) (name : String) (v : Value) :
      (m.withHidden globalRef name v).Shows r kind proto known :=
    h.withProperty (.inl hglobal) _
  unfold Machine.withGlobals
  refine withShared hspared (withShared hspared ?_ _) _
  refine foldl (foldl (withEval hspared ?_) _ ?_) _ ?_
  · exact ((hhidden h _ _).withConstants hglobal _).withProperty (.inl hglobal) _
  · exact fun _ hm _ _ => hhidden hm _ _
  · exact fun _ hm _ _ => hhidden hm _ _

end Shows

/-! ### The whole machine -/

lemma getElem?_pairs {α β : Type} (f g : α → β) (xs : List α) (i : Nat) :
    (xs.flatMap fun x => [f x, g x])[2 * i]? = xs[i]?.map f ∧
      (xs.flatMap fun x => [f x, g x])[2 * i + 1]? = xs[i]?.map g := by
  induction xs generalizing i with
  | nil          => simp
  | cons x xs ih =>
    cases i with
    | zero   => simp
    | succ i => simpa [Nat.mul_succ] using ih i

lemma getElem?_all (s : Standard) : Standard.all[s.ctorIdx]? = some s := by
  cases s <;> rfl

lemma bare_proto (s : Standard) : bare.objects[s.proto]? = some s.bareProto := by
  have hpairs := (getElem?_pairs Standard.bareProto Standard.bareConstructor Standard.all
    s.ctorIdx).1
  rw [getElem?_all] at hpairs
  rw [bare, List.getElem?_toArray]
  exact hpairs

lemma bare_constructor (s : Standard) : bare.objects[s.constructor]? = some s.bareConstructor := by
  have hpairs := (getElem?_pairs Standard.bareProto Standard.bareConstructor Standard.all
    s.ctorIdx).2
  rw [getElem?_all] at hpairs
  rw [bare, List.getElem?_toArray]
  exact hpairs

namespace Shows

lemma links (hspared : Spared r (known.map Prod.fst)) (h : m.Shows r kind proto known) :
    Shows (Standard.all.foldl Machine.tagged (Standard.all.foldl Machine.linked m)) r kind proto
      known :=
  (h.foldl _ fun _ hm s _ => linked hspared hm s).foldl _ fun _ hm s _ => tagged hspared hm s

lemma finished (hspared : Spared r (known.map Prod.fst)) (h : m.Shows r kind proto known) :
    m.finished.Shows r kind proto known := by
  have hobject {s : Ref} (hs : s ∈ furnished) : s ≠ r := hspared.objects s hs
  unfold Machine.finished
  refine withGlobals hspared (withConstants (withConstants ?_ (hobject ?_) _) (hobject ?_) _)
  · refine withProperty (withProperty (withSymbols hspared (withUnscopables hspared
      (withAliases hspared (withGenerators hspared ?_)))) hspared.name _) hspared.length _
    exact h.foldl _ fun _ hm s _ => withElementSizes hspared hm s
  · simp [furnished]
  · simp [furnished]

variable {members : Standard → Bool → List Builtin}

lemma membered (h : bare.Shows r kind proto known)
    (hkeys : ∀ s ∈ Standard.all, ∀ isStatic, ∀ b ∈ members s isStatic,
      Unseen r (known.map Prod.fst) (s.holder isStatic) b.key) :
    Shows (Standard.all.foldl (Machine.withMembers members) bare) r kind proto known :=
  h.foldl _ fun _ hm s hs => hm.withMembers (hkeys s hs)

/-- What is known of an object that has its members is known of it in the whole machine, if nothing
else that is added matters to it. -/
lemma start (h : Shows (Standard.all.foldl (Machine.withMembers members) bare) r kind proto known)
    (hspared : Spared r (known.map Prod.fst))
    (htexts : ∀ s ∈ Standard.all, SparedByTexts r (known.map Prod.fst) s) :
    (Machine.start members).Shows r kind proto known := by
  unfold Machine.start
  refine finished hspared ((links hspared h).foldl _ fun _ hm s hs => ?_)
  exact hm.withErrorTexts (htexts s hs)

end Shows

end Machine

end Stencil.Script
