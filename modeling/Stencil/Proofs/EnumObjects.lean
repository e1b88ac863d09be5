import Mathlib.Data.List.Forall2
import Stencil.Proofs.Spaces

/-!
# Objects of enums

The statements that the members of an enum become are run. Each evaluates the value of a member and
assigns it to the object of the enum, and the name of the member under the value unless that is
written as a string literal. What the object has in the end is what was written last under each key.
-/

namespace Stencil.Script

variable {h : Host} {a b : Activation} {m m' m₁ m₂ m₃ : Machine} {r : Ref} {o : Object} {s n k : Nat}
  {key other : Key} {v w base : Value} {owner name : Utf16} {e value : Tree} {tasks : List Task}

/-! ### Keys -/

namespace Value

/-- Whether a value that an expression has is not an object. -/
def IsPrimitive : Value → Prop
  | .object _ | .hidden _ => False
  | _                     => True

/-- The key that a primitive value names. -/
def propertyKey : Value → Key
  | .undefined => .ofString "undefined"
  | .null      => .ofString "null"
  | .bool b    => .ofString (if b then "true" else "false")
  | .number x  =>
    if 0 ≤ x && x < 4294967295 && x.floor == x then .index x.toUInt64.toNat
    else .ofText (.ofString (NumberText.write x))
  | .text t    => .ofText t
  | .symbol id => .symbol id
  | .big n     => .ofText (.ofString (NumberText.writeInt 10 n))
  | .object _  => .hidden 0
  | .hidden id => .hidden id

lemma toKey_eq (hv : v.IsPrimitive) : toKey v h m = .ok v.propertyKey m := by
  cases v with
  | number x =>
    rw [toKey, propertyKey]
    split <;> rfl
  | object | hidden => cases hv
  | _ => rfl

end Value

/-- An assignment to a member whose key is a primitive value. -/
lemma Machine.Holds.storeMember_key (hr : m.Holds r o) (hw : w.IsPrimitive)
    (hkey : m.Permits w.propertyKey) (v : Value) (isStrict : Bool) :
    storeMember (.object r) w v isStrict h m = .ok () (m.assigned r w.propertyKey v) := by
  have hstore : storeMember (.object r) w v isStrict h m =
      (toKey w >>= fun key => setOf (.object r) key v isStrict) h m := by
    cases w with
    | hidden => cases hw
    | _ => rfl
  have hset : setProperty r w.propertyKey v h m = .ok true (m.assigned r w.propertyKey v) :=
    hr.setProperty_eq hkey v
  rw [hstore, bind_ok (Value.toKey_eq hw)]
  change (setProperty r w.propertyKey v >>= fun ok =>
    (if !ok && isStrict then throwType ("cannot set property: " ++ showKey w.propertyKey)
     else pure () : Exec Unit)) h m = _
  rw [bind_ok hset]
  rfl

/-! ### Evaluation -/

/-- Whether two activations are of one call: they differ in what they have on the stack, in what is
planned and in the last result. -/
structure Activation.Like (a b : Activation) : Prop where
  scope : b.scope = a.scope
  isStrict : b.isStrict = a.isStrict
  isAsync : b.isAsync = a.isAsync
  isGenerator : b.isGenerator = a.isGenerator

lemma Activation.Like.refl (a : Activation) : a.Like a := ⟨rfl, rfl, rfl, rfl⟩

lemma Activation.Like.push (h : a.Like b) (v : Value) : a.Like (b.push v) :=
  ⟨h.scope, h.isStrict, h.isAsync, h.isGenerator⟩

/-- Whether an expression comes to a value in some steps, wherever it stands in a call. -/
def Computes (h : Host) (limit : Nat) (a : Activation) (e : Tree) (m : Machine) (v : Value)
    (m' : Machine) : Prop :=
  ∀ b tasks, a.Like b →
    Comes h limit (b.plan (.evaluate e :: tasks)) m ((b.push v).plan tasks) m'

lemma computes_literal (l : Literal) : Computes h 1 a (.literal l) m l.toValue m :=
  fun _ _ _ => comes_step rfl

lemma computes_name (hname : m.Gives a.scope name v) : Computes h 1 a (.name name) m v m := by
  intro b tasks hlike
  rw [← hlike.scope] at hname
  exact comes_name hname

/-- An assignment to a member under a computed key, which is evaluated first. -/
lemma computes_assign {d : Tree} (howner : m.Gives a.scope owner base)
    (hkey : Computes h n a d m w m₁) (hw : w.IsPrimitive) (hvalue : Computes h k a e m₁ v m₂)
    (hstore : storeMember base w v a.isStrict h m₂ = .ok () m₃) :
    Computes h (n + k + 5) a (.assign (.member (.name owner) (.computed d) false) e) m v m₃ := by
  intro b tasks hlike
  have hplace : Comes h 1
      (b.plan (.evaluate (.assign (.member (.name owner) (.computed d) false) e) :: tasks)) m
      (b.plan (.evaluate (.name owner) :: .evaluate (.computed d) :: .toKey :: .evaluate e ::
        .store .member :: tasks)) m := comes_step rfl
  let b₁ := b.push base
  have hcomputed : Comes h 1
      (b₁.plan (.evaluate (.computed d) :: .toKey :: .evaluate e :: .store .member :: tasks)) m
      (b₁.plan (.evaluate d :: .toKey :: .evaluate e :: .store .member :: tasks)) m :=
    comes_step rfl
  let b₂ := b₁.push w
  have htoKey : Comes h 1 (b₂.plan (.toKey :: .evaluate e :: .store .member :: tasks)) m₁
      (b₂.plan (.evaluate e :: .store .member :: tasks)) m₁ := by
    refine comes_step ?_
    cases w with
    | object | hidden => cases hw
    | _ => rfl
  have hstored : Comes h 1 ((b₂.push v).plan (.store .member :: tasks)) m₂
      ((b.push v).plan tasks) m₃ := by
    refine comes_step ?_
    change (storeMember base w v b.isStrict >>= fun _ => give (b.plan tasks) v) h m₂ = _
    rw [hlike.isStrict, bind_ok hstore]
    rfl
  have hcomes := hplace.trans <| (computes_name howner b _ hlike).trans <| hcomputed.trans <|
    (hkey b₁ _ (hlike.push base)).trans <| htoKey.trans <|
    (hvalue b₂ _ ((hlike.push base).push w)).trans hstored
  exact hcomes.mono (by omega)

/-! ### Members of enums -/

/-- The member of an object under a key. -/
def memberOf (owner name : Utf16) : Tree :=
  .member (.name owner) (.computed (.literal (.text name))) false

/-- A member of an enum in a script: its name, the expression of its value and whether that is
written as a string literal. -/
structure EnumEntry where
  name : Utf16
  value : Tree
  isText : Bool

/-- The statement that a member becomes. -/
def EnumEntry.statement (owner : Utf16) (entry : EnumEntry) : Tree :=
  let forward := Tree.assign (memberOf owner entry.name) entry.value
  .expression (if entry.isText then forward
    else .assign (.member (.name owner) (.computed forward) false) (.literal (.text entry.name)))

/-- What a member with a value writes into the object of its enum. -/
def EnumEntry.writes (entry : EnumEntry) (v : Value) : List (Key × Value) :=
  (.ofText entry.name, v) ::
    if entry.isText then [] else [(v.propertyKey, .text entry.name)]

/-- The machine in which values were written under some keys of an object, one after another. -/
def Machine.written (m : Machine) (r : Ref) : List (Key × Value) → Machine
  | []          => m
  | (key, v) :: writes => (m.assigned r key v).written r writes

/-- Whether the name of an enum stands for an object with nothing but members, and members can be
written under some keys. -/
structure Machine.Ready (m : Machine) (s : Nat) (owner : Utf16) (r : Ref) (o : Object)
    (keys : List Key) : Prop where
  gives : m.Gives s owner (.object r)
  holds : m.Holds r o
  permits : ∀ key ∈ keys, m.Permits key

lemma Machine.Ready.assigned {keys : List Key} (hready : m.Ready s owner r o keys) (key : Key)
    (v : Value) : (m.assigned r key v).Ready s owner r (o.store key (.plain v)) keys where
  gives := hready.gives
  holds := hready.holds.assigned_self key v
  permits other hother := by
    obtain ⟨p, hp, hproto, hslot⟩ := hready.permits other hother
    have hne := hready.holds.ne_proto ⟨p, hp, hproto, hslot⟩
    refine ⟨p, ⟨?_, hp.plain⟩, hproto, hslot⟩
    rw [Machine.assigned, Array.getElem?_modify, if_neg hne.symm]
    exact hp.there

/-- The statement of a member evaluates its value and writes it. -/
lemma comes_statement {entry : EnumEntry} {keys : List Key}
    (hready : m.Ready a.scope owner r o keys) (hvalue : Computes h n a entry.value m v m₁)
    (hready₁ : m₁.Ready a.scope owner r o keys) (hv : v.IsPrimitive)
    (hkeys : ∀ w ∈ entry.writes v, w.1 ∈ keys) (hlike : a.Like b) (tasks : List Task) :
    ∃ result, Comes h (n + 14) (b.plan (.execute [] (entry.statement owner) :: tasks)) m
      ({ b with result }.plan tasks) (m₁.written r (entry.writes v)) := by
  have hname := hkeys _ List.mem_cons_self
  have hforward : Computes h (n + 6) a (.assign (memberOf owner entry.name) entry.value) m v
      (m₁.assigned r (.ofText entry.name) v) := by
    have hstore := hready₁.holds.storeMember_key (h := h) (w := .text entry.name) trivial
      (hready₁.permits _ hname) v a.isStrict
    have hassign := computes_assign hready.gives (computes_literal (.text entry.name)) trivial hvalue
      hstore
    exact fun b tasks hb => (hassign b tasks hb).mono (by omega)
  rw [EnumEntry.statement, EnumEntry.writes]
  split
  · exact ⟨v, ((comes_expression _).trans <| (hforward b _ hlike).trans
      (comes_keepResult v)).mono (by omega)⟩
  next htext =>
    have hready₂ := hready₁.assigned (.ofText entry.name) v
    have hback := hkeys (v.propertyKey, .text entry.name) (by simp [EnumEntry.writes, htext])
    have hstore := hready₂.holds.storeMember_key (h := h) hv (hready₂.permits _ hback)
      (.text entry.name) a.isStrict
    have hboth := computes_assign hready.gives hforward hv
      (computes_literal (.text entry.name)) hstore
    exact ⟨_, ((comes_expression _).trans <| (hboth b _ hlike).trans
      (comes_keepResult _)).mono (by omega)⟩

/-! ### What is written -/

/-- What was written last under a key. -/
def lastWrite? (writes : List (Key × Value)) (key : Key) : Option Value :=
  writes.reverse.lookup key

lemma lastWrite?_append (first second : List (Key × Value)) (key : Key) :
    lastWrite? (first ++ second) key = (lastWrite? second key).or (lastWrite? first key) := by
  rw [lastWrite?, List.reverse_append, List.lookup_append, lastWrite?, lastWrite?]

lemma lastWrite?_cons (write : Key × Value) (writes : List (Key × Value)) (key : Key) :
    lastWrite? (write :: writes) key =
      (lastWrite? writes key).or (if write.1 = key then some write.2 else none) := by
  rw [← List.singleton_append, lastWrite?_append]
  congr 1
  rw [lastWrite?, List.reverse_singleton]
  by_cases hkey : write.1 = key
  · rw [List.lookup_cons, hkey, beq_self_eq_true, if_pos rfl]
  · have hne : (key == write.1) = false := beq_eq_false_iff_ne.mpr (Ne.symm hkey)
    rw [List.lookup_cons, hne, if_neg hkey]
    rfl

/-- What the members of an enum write, in order. -/
def writesOf : List EnumEntry → List Value → List (Key × Value)
  | entry :: entries, v :: vs => entry.writes v ++ writesOf entries vs
  | _, _                      => []

/-- Whether a value is a number. -/
def Value.isNumber : Value → Bool
  | .number _ => true
  | _         => false

/-- What members with these names write when a name is written under its value just for numbers. -/
def writesOfNumbers : List Utf16 → List Value → List (Key × Value)
  | name :: names, v :: vs =>
    (.ofText name, v) :: (if v.isNumber then [(v.propertyKey, .text name)] else []) ++
      writesOfNumbers names vs
  | _, _                   => []

/-- A name is written under its value just for numbers when all other values are written as string
literals. -/
lemma writesOf_eq_writesOfNumbers {entries : List EnumEntry} {vs : List Value}
    (hvalues : List.Forall₂ (fun entry v => entry.isText = !v.isNumber) entries vs) :
    writesOf entries vs = writesOfNumbers (entries.map EnumEntry.name) vs := by
  induction hvalues with
  | nil => rfl
  | @cons entry v entries vs hvalue _ ih =>
    rw [writesOf, List.map_cons, writesOfNumbers, EnumEntry.writes, ih, hvalue]
    cases v.isNumber <;> rfl

/-- The properties of an object after writes: those written last, and others as before. -/
lemma Machine.Ready.written {keys : List Key} (hready : m.Ready s owner r o keys)
    (writes : List (Key × Value)) :
    ∃ o', (m.written r writes).Ready s owner r o' keys ∧ ∀ key,
      (m.written r writes).property? r key =
        ((lastWrite? writes key).map Property.plain).or (m.property? r key) := by
  induction writes generalizing m o with
  | nil => exact ⟨o, hready, fun key => by rfl⟩
  | cons write writes ih =>
    obtain ⟨written, v⟩ := write
    have hready' := hready.assigned written v
    obtain ⟨o', hready'', hproperties⟩ := ih hready'
    refine ⟨o', hready'', fun key => ?_⟩
    rw [Machine.written, hproperties, lastWrite?_cons, hready'.holds.property?_eq,
      hready.holds.property?_eq]
    rcases lastWrite? writes key with _ | w
    · by_cases hkey : written = key
      · subst hkey
        rw [hready.holds.find_store_self, if_pos rfl]
        rfl
      · rw [hready.holds.find_store_of_ne hkey, if_neg hkey]
        rfl
    · rfl

/-! ### Runs -/

/-- Whether a machine has left alone what the statements of an enum need: its object, the scope of
its function and the prototype of objects. -/
structure Machine.Spares (m m' : Machine) (s : Nat) (r : Ref) : Prop where
  scope : m'.scopes[s]? = m.scopes[s]?
  object : m'.objects[r]? = m.objects[r]?
  proto : m'.objects[Standard.object.proto]? = m.objects[Standard.object.proto]?

lemma Machine.Ready.of_spares {keys : List Key} (hready : m.Ready s owner r o keys)
    (hspares : m.Spares m' s r) : m'.Ready s owner r o keys where
  gives := by
    obtain ⟨binding, ⟨scope, call, hscope, hkind, hfind⟩, hvalue⟩ := hready.gives
    exact ⟨binding, ⟨scope, call, hspares.scope.trans hscope, hkind, hfind⟩, hvalue⟩
  holds := { hready.holds with there := hspares.object.trans hready.holds.there }
  permits key hkey := by
    obtain ⟨p, hp, hproto, hslot⟩ := hready.permits key hkey
    exact ⟨p, ⟨hspares.proto.trans hp.there, hp.plain⟩, hproto, hslot⟩

lemma Machine.Permits.of_keeps {scopes : Set Nat} (hkey : m.Permits key)
    (hkeeps : m.Keeps m' ∅ scopes) : m'.Permits key := by
  obtain ⟨p, hp, hproto, hslot⟩ := hkey
  have hsame := hkeeps.object _ hp.lt_size (Set.notMem_empty _)
  exact ⟨p, ⟨hsame.trans hp.there, hp.plain⟩, hproto, hslot⟩

/-- Whether the values of the members of an enum come to these in some steps, each after those
before it are written. -/
inductive Fills (h : Host) (a : Activation) (r : Ref) :
    Nat → Machine → List EnumEntry → List Value → Machine → Prop
  | nil {m : Machine} : Fills h a r 0 m [] [] m
  | cons {n k : Nat} {m m₁ m' : Machine} {entry : EnumEntry} {entries : List EnumEntry} {v : Value}
      {vs : List Value} (hvalue : Computes h n a entry.value m v m₁)
      (hspares : m.Spares m₁ a.scope r) (hv : v.IsPrimitive)
      (hrest : Fills h a r k (m₁.written r (entry.writes v)) entries vs m') :
      Fills h a r (n + 14 + k) m (entry :: entries) (v :: vs) m'

/-- What an object has when the values of the members of its enum are written. -/
theorem Fills.written {entries : List EnumEntry} {vs : List Value} {keys : List Key}
    (hfills : Fills h a r n m entries vs m') (hready : m.Ready a.scope owner r o keys) :
    ∃ o', m'.Ready a.scope owner r o' keys ∧ ∀ key,
      m'.property? r key =
        ((lastWrite? (writesOf entries vs) key).map Property.plain).or (m.property? r key) := by
  induction hfills generalizing o with
  | nil => exact ⟨o, hready, fun key => by rfl⟩
  | @cons n k m m₁ m' entry entries v vs hvalue hspares hv _ ih =>
    obtain ⟨o₁, hready₁, hwritten⟩ := (hready.of_spares hspares).written (entry.writes v)
    obtain ⟨o', hready', hproperties⟩ := ih hready₁
    refine ⟨o', hready', fun key => ?_⟩
    rw [hproperties, hwritten, Machine.property?_congr hspares.object, writesOf,
      lastWrite?_append, Option.map_or, Option.or_assoc]

/-- The statements of the members of an enum write the values that they come to. -/
theorem comes_statements {entries : List EnumEntry} {vs : List Value} {keys : List Key}
    (hready : m.Ready a.scope owner r o keys) (hfills : Fills h a r n m entries vs m')
    (hkeys : ∀ w ∈ writesOf entries vs, w.1 ∈ keys) (hlike : a.Like b) (tasks : List Task) :
    ∃ result, Comes h n
        (b.plan ((entries.map (EnumEntry.statement owner)).map (Task.execute []) ++ tasks)) m
        ({ b with result }.plan tasks) m' := by
  induction hfills generalizing o b with
  | nil => exact ⟨b.result, .refl _ _ _⟩
  | @cons n k m m₁ m' entry entries v vs hvalue hspares hv _ ih =>
    have hready₁ := hready.of_spares hspares
    obtain ⟨result, hstatement⟩ := comes_statement hready hvalue hready₁ hv
      (fun w hw => hkeys w (List.mem_append_left _ hw)) hlike
      ((entries.map (EnumEntry.statement owner)).map (Task.execute []) ++ tasks)
    obtain ⟨o₁, hready₂, -⟩ := hready₁.written (entry.writes v)
    obtain ⟨result', hrest⟩ := ih (b := { b with result }) hready₂
      (fun w hw => hkeys w (List.mem_append_right _ hw))
      ⟨hlike.scope, hlike.isStrict, hlike.isAsync, hlike.isGenerator⟩
    exact ⟨result', hstatement.trans hrest⟩

/-- The function of an enum, which has the statements of its members. -/
def enumFunction (head : FunctionHead) (owner : Utf16) (entries : List EnumEntry) : Tree :=
  .function head [.name owner] .absent (.block [] [] (entries.map (EnumEntry.statement owner)))

/-- The statements of an enum call its function with a new object, which gets what the members
write when their values come to something there. -/
theorem run_enum {head : FunctionHead} (depth : Nat)
    (natives : Native → Invocation → Exec Value) (hbare : head.IsBare)
    (hname : m.Binds a.scope owner (.variable owner .undefined))
    (entries : List EnumEntry) (tasks : List Task) :
    ∃ r s m₀, m₀.Binds a.scope owner (.variable owner (.object r)) ∧
      m₀.Ready s owner r .fresh [] ∧
      ∀ n vs m', Fills (hostAt natives depth) (.start head s []) r n m₀ entries vs m' →
        n < turnLimit → (∀ w ∈ writesOf entries vs, m.Permits w.1) →
        (∃ result, Comes (hostAt natives (depth + 1)) 14
          (a.plan ((namespaceStatements owner (enumFunction head owner entries)).map
            (Task.execute []) ++ tasks)) m ({ a with result }.plan tasks) m') ∧
        ∀ key, m'.property? r key = (lastWrite? (writesOf entries vs) key).map Property.plain := by
  -- the function is made, then the object that it is called with
  obtain ⟨m₁, hkeeps₁, hf, hcall⟩ := comes_namespace hbare.1 [.name owner] .absent
    (.block [] [] (entries.map (EnumEntry.statement owner))) owner a tasks
    (hostAt natives (depth + 1)) m
  have hs := hname.isFunctionScope.lt_size
  have hundefined : m₁.Binds a.scope owner (.variable owner .undefined) :=
    (hkeeps₁.binds_iff hs (Set.notMem_empty _)).mpr hname
  let r := m₁.objects.size
  let m₂ := (m₁.withNew .fresh).initialized a.scope owner (.object r)
  have hkeeps₂ : m₁.Keeps m₂ ∅ {a.scope} := keeps_named m₁ .fresh a.scope owner
  have howner : m₂.Binds a.scope owner (.variable owner (.object r)) :=
    binds_initialized_self (m := m₁.withNew .fresh) hundefined
  have hholds : m₂.Holds r .fresh :=
    ⟨Array.getElem?_push_size, rfl, rfl, rfl, fun key p hfind => by cases hfind⟩
  -- the call has a scope of its own, in which the name stands for the object
  obtain ⟨m₃, hkeeps₃, hbinds, -, -, hcalled⟩ :=
    callValue_eq (h := hostAt natives depth) hbare (hf.of_keeps hkeeps₂) nofun (.object r)
  let start : Activation := .start head m₂.scopes.size []
  have hholds₃ : m₃.Holds r .fresh :=
    { hholds with there := (hkeeps₃.object r hholds.lt_size (Set.notMem_empty r)).trans hholds.there }
  have hgives : m₃.Gives start.scope owner (.object r) := ⟨_, hbinds, rfl⟩
  refine ⟨r, m₂.scopes.size, m₃, ?_, ⟨hgives, hholds₃, nofun⟩, fun n vs m' hfills hn hpermits => ?_⟩
  · exact (hkeeps₃.binds_iff howner.isFunctionScope.lt_size (Set.notMem_empty _)).mpr howner
  have hready : m₃.Ready start.scope owner r .fresh ((writesOf entries vs).map Prod.fst) := by
    refine ⟨hgives, hholds₃, fun key hkey => ?_⟩
    obtain ⟨write, hwrite, rfl⟩ := List.mem_map.mp hkey
    exact ((hpermits write hwrite).of_keeps hkeeps₁).of_keeps hkeeps₂ |>.of_keeps hkeeps₃
  obtain ⟨result, hcomes⟩ := comes_statements hready hfills
    (fun w hw => List.mem_map_of_mem hw) (.refl start) []
  obtain ⟨-, -, hproperties⟩ := hfills.written hready
  refine ⟨⟨.undefined, hcall r m₂ m' .undefined (fun b tasks hb => ?_) (hcalled result m' ?_)⟩,
    fun key => ?_⟩
  · change Comes _ 6 _ m₁ _ ((m₁.withNew .fresh).initialized a.scope owner (.object r))
    rw [← hb] at hundefined ⊢
    exact comes_ownObject_of_undefined hundefined
  · have hrun := hcomes.run_eq_ended rfl hn
    have hplan (tasks : List Task) :
        start.plan tasks = .start head m₂.scopes.size tasks := by
      simp [Activation.plan, start, Activation.start]
    rw [List.append_nil, hplan] at hrun
    exact hrun
  · rw [hproperties, hholds₃.property?_eq]
    exact Option.or_none

end Stencil.Script
