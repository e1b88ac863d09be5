import Mathlib.Tactic.Lemma
import Stencil.Script.Update

/-!
# Objects that list their properties

What looking up a property and setting one do with objects that are neither proxies nor have
properties of their own kind. Lookups are computed one object at a time: an object is `Listed` with
its properties, and what it does not list is looked up in its prototype.
-/

namespace Stencil.Script

/-! ### Computations -/

variable {α β : Type} {h : Host} {m m' : Machine}

lemma bind_ok {p : Exec α} {next : α → Exec β} {a : α} (hp : p h m = .ok a m') :
    (p >>= next) h m = next a h m' := by
  change EStateM.bind (p h) (fun a => next a h) m = _
  rw [EStateM.bind, hp]

lemma bind_error {p : Exec α} {next : α → Exec β} {e : Abrupt} (hp : p h m = .error e m') :
    (p >>= next) h m = .error e m' := by
  change EStateM.bind (p h) (fun a => next a h) m = _
  rw [EStateM.bind, hp]

/-! ### Objects that list their properties -/

/-- Whether an object of a kind has no properties but those that it lists. -/
def Kind.IsPlain : Kind → Prop
  | .ordinary => True
  | .error    => True
  | .native _ => True
  | _         => False

lemma Kind.IsPlain.cases {kind : Kind} (h : kind.IsPlain) :
    kind = .ordinary ∨ kind = .error ∨ ∃ native, kind = .native native := by
  cases kind <;> simp_all [Kind.IsPlain]

/-- An object that stands in a machine and has no properties but those that it lists. -/
structure Listed (m : Machine) (r : Ref) (o : Object) : Prop where
  there : m.objects[r]? = some o
  plain : o.kind.IsPlain

/-- Whether an object has a data property of its own. -/
def Owns (o : Object) (key : Key) (v : Value) : Prop :=
  ∃ p isWritable, findProperty o.properties key = some p ∧ p.slot = .data v isWritable

variable {r : Ref} {o : Object} {key : Key} {v : Value}

lemma object_of_there (ho : m.objects[r]? = some o) : object r h m = .ok o m := by
  rw [object, ho]
  rfl

lemma kindOf_of_there (ho : m.objects[r]? = some o) : kindOf r h m = .ok o.kind m := by
  rw [kindOf, bind_ok (object_of_there ho)]
  rfl

lemma Listed.object_eq (hr : Listed m r o) : object r h m = .ok o m := object_of_there hr.there

lemma ordinaryOwn_of_isPlain (ho : o.kind.IsPlain) (key : Key) :
    ordinaryOwn o key = pure (findProperty o.properties key) := by
  unfold ordinaryOwn
  split <;> simp_all [Kind.IsPlain]

lemma getFrom_eq (hr : Listed m r o) (key : Key) (fuel : Nat) (receiver : Value) :
    getFrom (fuel + 1) r key receiver h m =
      (match findProperty o.properties key with
        | some p =>
          match p.slot with
          | .data value _      => pure value
          | .accessor getter _ => callGetter getter receiver
        | none   =>
          match o.proto with
          | some proto => getFrom fuel proto key receiver
          | none       => pure .undefined) h m := by
  rw [getFrom, bind_ok hr.object_eq, ordinaryOwn_of_isPlain hr.plain]
  rcases hr.plain.cases with hkind | hkind | ⟨native, hkind⟩ <;> rw [hkind] <;> rfl

/-- An object answers with its own property. -/
lemma getFrom_of_owns (hr : Listed m r o) (hkey : Owns o key v) (fuel : Nat) (receiver : Value) :
    getFrom (fuel + 1) r key receiver h m = .ok v m := by
  obtain ⟨p, isWritable, hfind, hslot⟩ := hkey
  rw [getFrom_eq hr, hfind]
  dsimp only
  rw [hslot]
  rfl

/-- An object without the property leaves the answer to its prototype. -/
lemma getFrom_of_lacks {proto : Ref} (hr : Listed m r o)
    (hkey : findProperty o.properties key = none) (hproto : o.proto = some proto) (fuel : Nat)
    (receiver : Value) :
    getFrom (fuel + 1) r key receiver h m = getFrom fuel proto key receiver h m := by
  rw [getFrom_eq hr, hkey, hproto]

lemma get_of_owns (hr : Listed m r o) (hkey : Owns o key v) : get r key h m = .ok v m :=
  getFrom_of_owns hr hkey 999999 (.object r)

lemma kindOf_eq (hr : Listed m r o) : kindOf r h m = .ok o.kind m := kindOf_of_there hr.there

lemma getProto_eq (hr : Listed m r o) : getProto r h m = .ok o.proto m := by
  rw [getProto, bind_ok hr.object_eq]
  rcases hr.plain.cases with hkind | hkind | ⟨native, hkind⟩ <;> rw [hkind] <;> rfl

/-! ### Setting -/

lemma putProperty_of_lacks {properties : Array (Key × Property)}
    (hkey : findProperty properties key = none) (p : Property) :
    putProperty properties key p = properties.push (key, p) := by
  have hnone : properties.findIdx? (fun q => q.1 == key) = none := by
    rw [findProperty, Option.map_eq_none_iff] at hkey
    exact Array.findIdx?_eq_none_iff.mpr (by simpa using hkey)
  rw [putProperty, hnone]

/-- A property with another key does not change what is found. -/
lemma findProperty_push_of_ne {k : Key} (hne : k ≠ key) (properties : Array (Key × Property))
    (p : Property) : findProperty (properties.push (k, p)) key = findProperty properties key := by
  have hfalse : (k == key) = false := beq_eq_false_iff_ne.mpr hne
  rw [findProperty, findProperty, Array.find?_push]
  simp only [hfalse]
  simp

lemma findProperty_push_self {properties : Array (Key × Property)}
    (hkey : findProperty properties key = none) (p : Property) :
    findProperty (properties.push (key, p)) key = some p := by
  rw [findProperty, Option.map_eq_none_iff] at hkey
  rw [findProperty, Array.find?_push, hkey]
  simp

lemma setElement?_eq {receiver : Value} (hr : Listed m r o) :
    setElement? r o key v receiver = pure none := by
  unfold setElement?
  rcases hr.plain.cases with hkind | hkind | ⟨native, hkind⟩ <;> rw [hkind]

lemma setFrom_eq (hr : Listed m r o) (key : Key) (v receiver : Value) (fuel : Nat) :
    setFrom (fuel + 1) r key v receiver h m =
      (match findProperty o.properties key with
        | some p =>
          match p.slot with
          | .data _ isWritable     =>
            if isWritable then setData r o p key v receiver else pure false
          | .accessor _ .undefined => pure false
          | .accessor _ setter     => do
            let _ ← call setter receiver [v]
            return true
        | none   =>
          match o.proto with
          | some proto => setFrom fuel proto key v receiver
          | none       => setOwn receiver key v) h m := by
  rw [setFrom, bind_ok hr.object_eq, setElement?_eq hr, ordinaryOwn_of_isPlain hr.plain]
  rcases hr.plain.cases with hkind | hkind | ⟨native, hkind⟩ <;> rw [hkind] <;> rfl

lemma setOwn_eq (hr : Listed m r o) (hkey : findProperty o.properties key = none)
    (hopen : o.isExtensible) (v : Value) :
    setOwn (.object r) key v h m =
      .ok true { m with objects := m.objects.modify r fun o => o.store key (.plain v) } := by
  have hown : getOwn r key h m = .ok none m := by
    rw [getOwn, bind_ok hr.object_eq, ordinaryOwn_of_isPlain hr.plain, hkey]
    rcases hr.plain.cases with hkind | hkind | ⟨native, hkind⟩ <;> rw [hkind] <;> rfl
  have hgeneral : ordinaryDefine.general r key (.plain v) o h m =
      .ok true { m with objects := m.objects.modify r fun o => o.store key (.plain v) } := by
    rw [ordinaryDefine.general, ordinaryOwn_of_isPlain hr.plain, hkey]
    change (if !o.isExtensible then (pure false : Exec Bool) else do
      storeProperty r key (Descriptor.plain v).toProperty
      pure true) h m = _
    rw [hopen]
    rfl
  have hordinary : ordinaryDefine r key (.plain v) h m =
      .ok true { m with objects := m.objects.modify r fun o => o.store key (.plain v) } := by
    rw [ordinaryDefine, bind_ok hr.object_eq, ← hgeneral]
    rcases hr.plain.cases with hkind | hkind | ⟨native, hkind⟩ <;> rw [hkind]
  rw [setOwn, bind_ok hown]
  change define r key (.plain v) h m = _
  rw [define, bind_ok (kindOf_eq hr), ← hordinary]
  rcases hr.plain.cases with hkind | hkind | ⟨native, hkind⟩ <;> rw [hkind]

lemma setData_eq {t : Ref} (hr : Listed m r o) (hne : r ≠ t) (p : Property) (key : Key)
    (v : Value) : setData r o p key v (.object t) = setOwn (.object t) key v := by
  unfold setData
  have hfalse : (r == t) = false := beq_eq_false_iff_ne.mpr hne
  rcases hr.plain.cases with hkind | hkind | ⟨native, hkind⟩ <;> rw [hkind] <;> dsimp only <;>
    rw [hfalse] <;> rfl

/-! ### New objects -/

/-- The machine with one more object. -/
def Machine.withNew (m : Machine) (o : Object) : Machine := { m with objects := m.objects.push o }

lemma Listed.lt_size (hr : Listed m r o) : r < m.objects.size :=
  (Array.getElem?_eq_some_iff.mp hr.there).1

lemma Listed.withNew (hr : Listed m r o) (new : Object) : Listed (m.withNew new) r o := by
  refine ⟨?_, hr.plain⟩
  rw [Machine.withNew, Array.getElem?_push, if_neg (Nat.ne_of_lt hr.lt_size)]
  exact hr.there

lemma listed_withNew (hplain : o.kind.IsPlain) (m : Machine) :
    Listed (m.withNew o) m.objects.size o :=
  ⟨Array.getElem?_push_size, hplain⟩

/-- A change of the last object. -/
lemma modify_withNew (m : Machine) (o : Object) (f : Object → Object) :
    { m.withNew o with objects := (m.withNew o).objects.modify m.objects.size f } =
      m.withNew (f o) := by
  have hobjects : (m.objects.push o).modify m.objects.size f = m.objects.push (f o) := by
    refine Array.ext_getElem? fun i => ?_
    rw [Array.getElem?_modify, Array.getElem?_push, Array.getElem?_push]
    split <;> simp_all [eq_comm]
  rw [Machine.withNew, hobjects]
  rfl

lemma store_of_isPlain (ho : o.kind.IsPlain) (key : Key) (p : Property) :
    o.store key p = { o with properties := putProperty o.properties key p } := by
  unfold Object.store
  rcases ho.cases with hkind | hkind | ⟨native, hkind⟩ <;> rw [hkind]

lemma storeProperty_withNew (hplain : o.kind.IsPlain) (m : Machine) (key : Key) (p : Property) :
    storeProperty m.objects.size key p h (m.withNew o) =
      .ok () (m.withNew { o with properties := putProperty o.properties key p }) := by
  rw [← store_of_isPlain hplain, ← modify_withNew m o fun o => o.store key p]
  rfl

/-- A property that a new object does not have becomes its own. -/
lemma setOwn_withNew (hplain : o.kind.IsPlain) (hkey : findProperty o.properties key = none)
    (hopen : o.isExtensible) (m : Machine) (v : Value) :
    setOwn (.object m.objects.size) key v h (m.withNew o) =
      .ok true (m.withNew { o with properties := putProperty o.properties key (.plain v) }) := by
  rw [setOwn_eq (listed_withNew hplain m) hkey hopen, modify_withNew, store_of_isPlain hplain]

end Stencil.Script
