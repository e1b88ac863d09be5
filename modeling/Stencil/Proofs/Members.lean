import Stencil.Proofs.Progress
import Stencil.Proofs.Realm

/-!
# Members of plain objects

An object that a script makes with braces and then fills by assignments has only members like those
that assignments make. What an assignment does with such an object is computed here, for the keys
under which the prototypes of objects do not interfere.
-/

namespace Stencil.Script

variable {h : Host} {m : Machine} {r : Ref} {o : Object} {key other : Key} {v : Value}

/-! ### Properties -/

lemma find?_set_self {l : List (Key × Property)} {i : Nat}
    (hi : l.findIdx? (fun q => q.1 == key) = some i) (p : Property) :
    (l.set i (key, p)).find? (fun q => q.1 == key) = some (key, p) := by
  induction l generalizing i with
  | nil         => cases hi
  | cons q l ih =>
    rw [List.findIdx?_cons] at hi
    cases hq : q.1 == key with
    | true  =>
      rw [hq] at hi
      cases hi
      rw [List.set_cons_zero, List.find?_cons]
      simp
    | false =>
      rw [hq] at hi
      simp only [Bool.false_eq_true, if_false, Option.map_eq_some_iff] at hi
      obtain ⟨j, hj, rfl⟩ := hi
      rw [List.set_cons_succ, List.find?_cons, hq, ih hj]

/-- What was put under a key is found there. -/
lemma findProperty_putProperty (properties : Array (Key × Property)) (key : Key) (p : Property) :
    findProperty (putProperty properties key p) key = some p := by
  rcases hfind : properties.findIdx? (fun q => q.1 == key) with _ | i
  · refine findProperty_putProperty_self ?_ p
    rw [Array.findIdx?_eq_none_iff] at hfind
    rw [findProperty, Option.map_eq_none_iff, Array.find?_eq_none]
    simpa using hfind
  · have hlist : properties.toList.findIdx? (fun q => q.1 == key) = some i := by
      rw [← hfind, ← List.findIdx?_toArray]
    rw [putProperty, hfind, findProperty, ← Array.find?_toList, Array.toList_setIfInBounds,
      find?_set_self hlist]
    rfl

/-! ### Objects -/

/-- An object of a machine that has nothing but members like those that assignments make. -/
structure Machine.Holds (m : Machine) (r : Ref) (o : Object) : Prop where
  there : m.objects[r]? = some o
  kind : o.kind = .ordinary
  proto : o.proto = some Standard.object.proto
  extensible : o.isExtensible = true
  plain : ∀ key p, findProperty o.properties key = some p → ∃ v, p = .plain v

/-- Whether objects can get a property under a key by an assignment: no prototype of theirs forbids
it or takes the value itself. -/
def Machine.Permits (m : Machine) (key : Key) : Prop :=
  ∃ o, Listed m Standard.object.proto o ∧ o.proto = none ∧
    ∀ p, findProperty o.properties key = some p → ∃ v, p.slot = .data v true

/-- The machine in which an object has got a member. -/
def Machine.assigned (m : Machine) (r : Ref) (key : Key) (v : Value) : Machine :=
  { m with objects := m.objects.modify r fun o => o.store key (.plain v) }

namespace Machine.Holds

lemma listed (hr : m.Holds r o) : Listed m r o :=
  ⟨hr.there, by rw [hr.kind]; trivial⟩

lemma ne_proto (hr : m.Holds r o) (hkey : m.Permits key) : Standard.object.proto ≠ r := by
  obtain ⟨p, hp, hproto, -⟩ := hkey
  rintro rfl
  have hsame := hp.there.symm.trans hr.there
  cases hsame
  rw [hr.proto] at hproto
  cases hproto

/-- An assignment to a member makes it or changes it. -/
lemma setProperty_eq (hr : m.Holds r o) (hkey : m.Permits key) (v : Value) :
    setProperty r key v h m = .ok true (m.assigned r key v) := by
  have hne := hr.ne_proto hkey
  obtain ⟨p, hp, hproto, hslot⟩ := hkey
  change setFrom (999998 + 1 + 1) r key v (.object r) h m = _
  rw [setFrom_eq hr.listed]
  rcases hfind : findProperty o.properties key with _ | own
  · dsimp only
    rw [hr.proto]
    dsimp only
    rw [setFrom_eq hp]
    have hown := setOwn_eq (h := h) hr.listed hfind hr.extensible v
    rcases hfind : findProperty p.properties key with _ | inherited
    · dsimp only
      rw [hproto]
      exact hown
    · obtain ⟨w, hw⟩ := hslot inherited hfind
      dsimp only
      rw [hw]
      dsimp only
      rw [if_pos rfl, setData_eq hp hne]
      exact hown
  · obtain ⟨w, rfl⟩ := hr.plain key own hfind
    dsimp only [Property.plain]
    rw [if_pos rfl]
    have hsame : (r == r) = true := beq_self_eq_true r
    rw [setData, hsame]
    · rfl
    · rw [hr.kind]
      exact nofun

/-- A member that was assigned is there, and the other members are as they were. -/
lemma assigned_self (hr : m.Holds r o) (key : Key) (v : Value) :
    (m.assigned r key v).Holds r (o.store key (.plain v)) where
  there := by
    rw [Machine.assigned, Array.getElem?_modify, if_pos rfl, hr.there]
    rfl
  kind := by rw [store_of_isPlain hr.listed.plain, hr.kind]
  proto := by rw [store_of_isPlain hr.listed.plain, hr.proto]
  extensible := by rw [store_of_isPlain hr.listed.plain, hr.extensible]
  plain other p hfind := by
    rw [store_of_isPlain hr.listed.plain] at hfind
    by_cases hkey : key = other
    · subst hkey
      rw [findProperty_putProperty, Option.some_inj] at hfind
      exact ⟨v, hfind.symm⟩
    · rw [findProperty_putProperty_of_ne hkey] at hfind
      exact hr.plain other p hfind

lemma find_store_self (hr : m.Holds r o) (key : Key) (v : Value) :
    findProperty (o.store key (.plain v)).properties key = some (.plain v) := by
  rw [store_of_isPlain hr.listed.plain]
  exact findProperty_putProperty o.properties key _

lemma find_store_of_ne (hr : m.Holds r o) (hne : key ≠ other) (v : Value) :
    findProperty (o.store key (.plain v)).properties other = findProperty o.properties other := by
  rw [store_of_isPlain hr.listed.plain]
  exact findProperty_putProperty_of_ne hne o.properties _

/-- The assignment of a member by a statement. -/
lemma storeMember_eq {name : Utf16} (hr : m.Holds r o) (hname : Key.ofText name = .text name)
    (hkey : m.Permits (.text name)) (v : Value) (isStrict : Bool) :
    storeMember (.object r) (.text name) v isStrict h m = .ok () (m.assigned r (.text name) v) := by
  have hset : setProperty r (.ofText name) v h m = .ok true (m.assigned r (.text name) v) := by
    rw [hname]
    exact hr.setProperty_eq hkey v
  change (setProperty r (.ofText name) v >>= fun ok =>
    (if !ok && isStrict then throwType ("cannot set property: " ++ showKey (.ofText name))
     else pure () : Exec Unit)) h m = _
  rw [bind_ok hset]
  rfl

end Machine.Holds

end Stencil.Script
