import Mathlib.Data.Set.Insert
import Stencil.Proofs.Objects
import Stencil.Script.Calls

/-!
# The progress of a run

`Comes` tells what a run comes to in a bounded number of steps. An activation is written as what it
has on its stack and in its other fields, with the tasks planned before all others, so that one step
takes the first of these tasks away. From there on a statement is followed one task at a time.
-/

namespace Stencil.Script

variable {h : Host} {a b c : Activation} {m m' m₁ m₂ : Machine} {task : Task} {tasks : List Task}
  {n k : Nat}

/-! ### Coming from one state to another -/

/-- Whether a run comes, in at most so many steps, from an activation and a machine to others. -/
def Comes (h : Host) (limit : Nat) (a : Activation) (m : Machine) (b : Activation)
    (m' : Machine) : Prop :=
  ∃ n ≤ limit, ∀ fuel, run (fuel + n) a h m = run fuel b h m'

namespace Comes

lemma refl (h : Host) (a : Activation) (m : Machine) : Comes h 0 a m a m :=
  ⟨0, Nat.le_refl 0, fun _ => rfl⟩

lemma trans (first : Comes h n a m b m₁) (second : Comes h k b m₁ c m₂) :
    Comes h (n + k) a m c m₂ := by
  obtain ⟨i, hi, hfirst⟩ := first
  obtain ⟨j, hj, hsecond⟩ := second
  refine ⟨i + j, Nat.add_le_add hi hj, fun fuel => ?_⟩
  rw [Nat.add_comm i j, ← Nat.add_assoc, hfirst, hsecond]

lemma mono (hcomes : Comes h n a m b m') (hle : n ≤ k) : Comes h k a m b m' := by
  obtain ⟨i, hi, hrun⟩ := hcomes
  exact ⟨i, Nat.le_trans hi hle, hrun⟩

/-- A run that comes to an activation without tasks ends. -/
lemma run_eq_ended (hcomes : Comes h n a m b m') (hdone : b.tasks = []) {fuel : Nat}
    (hfuel : n < fuel) : run fuel a h m = .ok (.ended b.result) m' := by
  obtain ⟨i, hi, hrun⟩ := hcomes
  obtain ⟨rest, rfl⟩ : ∃ rest, fuel = rest + 1 + i := ⟨fuel - 1 - i, by omega⟩
  rw [hrun, run, hdone]
  rfl

end Comes

/-- One step does the first task. -/
lemma comes_step (hstep : step (a.plan tasks) task h m = .ok (.go b) m') :
    Comes h 1 (a.plan (task :: tasks)) m b m' := by
  refine ⟨1, Nat.le_refl 1, fun fuel => ?_⟩
  rw [run]
  change (attempt (step (a.plan tasks) task) >>= _) h m = _
  rw [bind_ok (show attempt (step (a.plan tasks) task) h m = .ok (.ok (.go b)) m' by
    rw [attempt, hstep])]

/-! ### Names -/

section

variable {s t : Nat} {name other : Utf16} {v w : Value} {binding : Binding}

/-- Whether a scope of a machine is that of a function. -/
def Machine.IsFunctionScope (m : Machine) (s : Nat) : Prop :=
  ∃ scope call, m.scopes[s]? = some scope ∧ scope.kind = .function call

/-- Whether a name is bound in the scope of a function itself. -/
def Machine.Binds (m : Machine) (s : Nat) (name : Utf16) (binding : Binding) : Prop :=
  ∃ scope call, m.scopes[s]? = some scope ∧ scope.kind = .function call ∧
    scope.bindings.find? (fun b => b.name == name) = some binding

/-- Whether a name has a value in the scope of a function itself. -/
def Machine.Gives (m : Machine) (s : Nat) (name : Utf16) (v : Value) : Prop :=
  ∃ binding, m.Binds s name binding ∧ binding.value = some v

lemma Machine.Binds.isFunctionScope (hb : m.Binds s name binding) : m.IsFunctionScope s := by
  obtain ⟨scope, call, hscope, hkind, -⟩ := hb
  exact ⟨scope, call, hscope, hkind⟩

lemma findName_of_binds (hb : m.Binds s name binding) :
    findName name chainLimit s h m = .ok (.binding s binding) m := by
  obtain ⟨sc, call, hscope, hkind, hfind⟩ := hb
  have hread : scope s h m = .ok sc m := by rw [scope, hscope]; rfl
  change findName name (999999 + 1) s h m = _
  rw [findName, bind_ok hread, hkind]
  dsimp only
  rw [hfind]
  rfl

lemma readName_of_gives (hv : m.Gives s name v) : readName s name h m = .ok v m := by
  obtain ⟨b, hb, hvalue⟩ := hv
  have hread : b.read h m = .ok v m := by rw [Binding.read, hvalue]; rfl
  have hread? : readName? s name h m = .ok (some v) m := by
    rw [readName?, bind_ok (findName_of_binds hb)]
    dsimp only
    rw [bind_ok hread]
    rfl
  rw [readName, bind_ok hread?]
  rfl

/-! ### Names that get values -/

lemma find?_modify_of_ne {l : List Binding} {i : Nat} {f : Binding → Binding} (hne : name ≠ other)
    (hf : ∀ b, (f b).name = b.name) (hi : ∀ b, l[i]? = some b → b.name = name) :
    (l.modify i f).find? (fun b => b.name == other) = l.find? fun b => b.name == other := by
  have hfalse : (name == other) = false := beq_eq_false_iff_ne.mpr hne
  induction l generalizing i with
  | nil         => rw [List.modify_nil]
  | cons b l ih =>
    cases i with
    | zero   =>
      obtain rfl : b.name = name := hi b rfl
      rw [List.modify_zero_cons, List.find?_cons, List.find?_cons, hf, hfalse]
    | succ i =>
      rw [List.modify_succ_cons, List.find?_cons, List.find?_cons, ih hi]

lemma find?_modify_self {l : List Binding} {i : Nat} {f : Binding → Binding}
    (hf : ∀ b, (f b).name = b.name) (hi : l.findIdx? (fun b => b.name == name) = some i) :
    ∃ b, l.find? (fun b => b.name == name) = some b ∧
      (l.modify i f).find? (fun b => b.name == name) = some (f b) := by
  induction l generalizing i with
  | nil         => cases hi
  | cons b l ih =>
    rw [List.findIdx?_cons] at hi
    cases hb : b.name == name with
    | true  =>
      rw [hb] at hi
      cases hi
      exact ⟨b, by rw [List.find?_cons, hb], by rw [List.modify_zero_cons, List.find?_cons, hf, hb]⟩
    | false =>
      rw [hb] at hi
      simp only [Bool.false_eq_true, if_false, Option.map_eq_some_iff] at hi
      obtain ⟨j, hj, rfl⟩ := hi
      rw [List.modify_succ_cons, List.find?_cons, List.find?_cons, hb]
      exact ih hj

/-- The scope in which a name has got a value. -/
def Scope.initialized (scope : Scope) (name : Utf16) (v : Value) : Scope :=
  match scope.bindings.findIdx? fun b => b.name == name with
  | some i => { scope with
      bindings := scope.bindings.modify i fun b => { b with value := some v } }
  | none   => { scope with bindings := scope.bindings.push (.variable name v) }

namespace Scope

lemma kind_initialized (scope : Scope) : (scope.initialized name v).kind = scope.kind := by
  unfold Scope.initialized
  split <;> rfl

lemma find?_initialized_of_ne (scope : Scope) (hne : name ≠ other) :
    (scope.initialized name v).bindings.find? (fun b => b.name == other) =
      scope.bindings.find? fun b => b.name == other := by
  have hfalse : (name == other) = false := beq_eq_false_iff_ne.mpr hne
  rcases hfind : scope.bindings.findIdx? (fun b => b.name == name) with _ | i <;>
    rw [Scope.initialized, hfind]
  · simp [Array.find?_push, Binding.variable, hfalse]
  · obtain ⟨hi, hname, -⟩ := Array.findIdx?_eq_some_iff_getElem.mp hfind
    rw [← Array.find?_toList, ← Array.find?_toList, Array.toList_modify]
    refine find?_modify_of_ne hne (fun _ => rfl) fun b hb => ?_
    rw [Array.getElem?_toList, Array.getElem?_eq_getElem hi, Option.some_inj] at hb
    exact hb ▸ beq_iff_eq.mp hname

lemma find?_initialized_self (scope : Scope) :
    (scope.initialized name v).bindings.find? (fun b => b.name == name) =
      some (match scope.bindings.find? fun b => b.name == name with
        | some b => { b with value := some v }
        | none   => .variable name v) := by
  rcases hfind : scope.bindings.findIdx? (fun b => b.name == name) with _ | i <;>
    rw [Scope.initialized, hfind]
  · have hnone : scope.bindings.find? (fun b => b.name == name) = none := by
      rw [Array.findIdx?_eq_none_iff] at hfind
      rw [Array.find?_eq_none]
      simpa using hfind
    simp [Array.find?_push, Binding.variable, hnone]
  · have hlist : scope.bindings.toList.findIdx? (fun b => b.name == name) = some i := by
      rw [← hfind, ← List.findIdx?_toArray]
    obtain ⟨b, hb, hmodify⟩ :=
      find?_modify_self (f := fun b => { b with value := some v }) (fun _ => rfl) hlist
    rw [Array.find?_toList] at hb
    rw [← Array.find?_toList, Array.toList_modify, hmodify, hb]

end Scope

/-- The machine in which a name of a scope has got a value. -/
def Machine.initialized (m : Machine) (s : Nat) (name : Utf16) (v : Value) : Machine :=
  { m with scopes := m.scopes.modify s fun scope => scope.initialized name v }

/-- A variable keeps its name and stays a variable. -/
lemma writeName_eq (hb : m.Binds s name (.variable name w)) (isStrict : Bool) :
    writeName s name v isStrict h m = .ok () (m.initialized s name v) := by
  have hread : (Binding.variable name w).read h m = .ok w m := rfl
  rw [writeName, bind_ok (findName_of_binds hb)]
  dsimp only
  rw [bind_ok hread]
  rfl

lemma getElem?_scopes_initialized (hne : s ≠ t) :
    (m.initialized s name v).scopes[t]? = m.scopes[t]? := by
  rw [Machine.initialized, Array.getElem?_modify, if_neg hne]

/-- A name that has got a value has it. -/
lemma gives_initialized (hs : m.IsFunctionScope s) : (m.initialized s name v).Gives s name v := by
  obtain ⟨scope, call, hscope, hkind⟩ := hs
  refine ⟨_, ⟨scope.initialized name v, call, ?_, ?_, scope.find?_initialized_self⟩, ?_⟩
  · rw [Machine.initialized, Array.getElem?_modify, if_pos rfl, hscope]
    rfl
  · rw [scope.kind_initialized, hkind]
  · split <;> rfl

/-- A variable that has got another value is a variable still. -/
lemma binds_initialized_self (hb : m.Binds s name (.variable name w)) :
    (m.initialized s name v).Binds s name (.variable name v) := by
  obtain ⟨scope, call, hscope, hkind, hfind⟩ := hb
  refine ⟨scope.initialized name v, call, ?_, ?_, ?_⟩
  · rw [Machine.initialized, Array.getElem?_modify, if_pos rfl, hscope]
    rfl
  · rw [scope.kind_initialized, hkind]
  · rw [scope.find?_initialized_self, hfind]
    rfl

lemma binds_initialized_of_ne (hne : name ≠ other) :
    (m.initialized s name v).Binds s other binding ↔ m.Binds s other binding := by
  have hself (scope : Option Scope) (hscope : m.scopes[s]? = scope) :
      (m.initialized s name v).scopes[s]? = scope.map fun scope => scope.initialized name v := by
    rw [Machine.initialized, Array.getElem?_modify, if_pos rfl, hscope]
  constructor
  · rintro ⟨scope, call, hscope, hkind, hfind⟩
    rw [hself _ rfl, Option.map_eq_some_iff] at hscope
    obtain ⟨scope, hscope, rfl⟩ := hscope
    rw [scope.kind_initialized] at hkind
    rw [scope.find?_initialized_of_ne hne] at hfind
    exact ⟨scope, call, hscope, hkind, hfind⟩
  · rintro ⟨scope, call, hscope, hkind, hfind⟩
    refine ⟨scope.initialized name v, call, hself _ hscope, ?_, ?_⟩
    · rw [scope.kind_initialized, hkind]
    · rw [scope.find?_initialized_of_ne hne, hfind]

end

/-! ### What a run leaves alone -/

/-- Whether a machine has kept the objects and the scopes of another, apart from some. -/
structure Machine.Keeps (m m' : Machine) (objects : Set Ref) (scopes : Set Nat) : Prop where
  objects_le : m.objects.size ≤ m'.objects.size
  scopes_le : m.scopes.size ≤ m'.scopes.size
  object : ∀ r < m.objects.size, r ∉ objects → m'.objects[r]? = m.objects[r]?
  scope : ∀ s < m.scopes.size, s ∉ scopes → m'.scopes[s]? = m.scopes[s]?

namespace Machine.Keeps

variable {objects objects' : Set Ref} {scopes scopes' : Set Nat} {r : Ref} {s : Nat} {name : Utf16}
  {v : Value} {binding : Binding}

lemma refl (m : Machine) : m.Keeps m objects scopes :=
  ⟨Nat.le_refl _, Nat.le_refl _, fun _ _ _ => rfl, fun _ _ _ => rfl⟩

/-- What is done later to objects and scopes that are new by then does not matter. -/
lemma step (first : m.Keeps m₁ objects scopes) (second : m₁.Keeps m₂ objects' scopes')
    (hobjects : ∀ r ∈ objects', r < m.objects.size → r ∈ objects)
    (hscopes : ∀ s ∈ scopes', s < m.scopes.size → s ∈ scopes) : m.Keeps m₂ objects scopes where
  objects_le := Nat.le_trans first.objects_le second.objects_le
  scopes_le := Nat.le_trans first.scopes_le second.scopes_le
  object r hr hkept := by
    rw [second.object r (Nat.lt_of_lt_of_le hr first.objects_le)
      fun hmem => hkept (hobjects r hmem hr), first.object r hr hkept]
  scope s hs hkept := by
    rw [second.scope s (Nat.lt_of_lt_of_le hs first.scopes_le)
      fun hmem => hkept (hscopes s hmem hs), first.scope s hs hkept]

lemma trans (first : m.Keeps m₁ objects scopes) (second : m₁.Keeps m₂ objects scopes) :
    m.Keeps m₂ objects scopes :=
  first.step second (fun _ h _ => h) fun _ h _ => h

lemma mono (hkeeps : m.Keeps m' objects scopes) (hobjects : objects ⊆ objects')
    (hscopes : scopes ⊆ scopes') : m.Keeps m' objects' scopes' where
  objects_le := hkeeps.objects_le
  scopes_le := hkeeps.scopes_le
  object r hr hkept := hkeeps.object r hr fun hmem => hkept (hobjects hmem)
  scope s hs hkept := hkeeps.scope s hs fun hmem => hkept (hscopes hmem)

/-- What a machine does to new objects and scopes does not matter to the machine before. -/
lemma of_new (hkeeps : m.Keeps m' objects scopes)
    (hobjects : ∀ r ∈ objects, r < m.objects.size → r ∈ objects')
    (hscopes : ∀ s ∈ scopes, s < m.scopes.size → s ∈ scopes') : m.Keeps m' objects' scopes' where
  objects_le := hkeeps.objects_le
  scopes_le := hkeeps.scopes_le
  object r hr hkept := hkeeps.object r hr fun hmem => hkept (hobjects r hmem hr)
  scope s hs hkept := hkeeps.scope s hs fun hmem => hkept (hscopes s hmem hs)

lemma binds_iff (hkeeps : m.Keeps m' objects scopes) (hs : s < m.scopes.size)
    (hkept : s ∉ scopes) : m'.Binds s name binding ↔ m.Binds s name binding := by
  rw [Machine.Binds, Machine.Binds, hkeeps.scope s hs hkept]

lemma isFunctionScope_iff (hkeeps : m.Keeps m' objects scopes) (hs : s < m.scopes.size)
    (hkept : s ∉ scopes) : m'.IsFunctionScope s ↔ m.IsFunctionScope s := by
  rw [Machine.IsFunctionScope, Machine.IsFunctionScope, hkeeps.scope s hs hkept]

end Machine.Keeps

lemma Machine.IsFunctionScope.lt_size {s : Nat} (hs : m.IsFunctionScope s) :
    s < m.scopes.size := by
  obtain ⟨scope, -, hscope, -⟩ := hs
  exact (Array.getElem?_eq_some_iff.mp hscope).1

lemma keeps_withNew (m : Machine) (o : Object) : m.Keeps (m.withNew o) ∅ ∅ where
  objects_le := by
    rw [Machine.withNew, Array.size_push]
    exact Nat.le_succ _
  scopes_le := Nat.le_refl _
  object r hr _ := by
    rw [Machine.withNew, Array.getElem?_push, if_neg (Nat.ne_of_lt hr)]
  scope _ _ _ := rfl

lemma keeps_modify (m : Machine) (r : Ref) (f : Object → Object) :
    m.Keeps { m with objects := m.objects.modify r f } {r} ∅ where
  objects_le := by rw [Array.size_modify]
  scopes_le := Nat.le_refl _
  object q _ hq := by
    rw [Array.getElem?_modify, if_neg fun heq => hq (Set.mem_singleton_iff.mpr heq.symm)]
  scope _ _ _ := rfl

lemma keeps_initialized (m : Machine) (s : Nat) (name : Utf16) (v : Value) :
    m.Keeps (m.initialized s name v) ∅ {s} where
  objects_le := Nat.le_refl _
  scopes_le := by rw [Machine.initialized, Array.size_modify]
  object _ _ _ := rfl
  scope _ _ ht := getElem?_scopes_initialized fun heq => ht (Set.mem_singleton_iff.mpr heq.symm)

/-- A new object that a name gets changes nothing but the scope of the name. -/
lemma keeps_named (m : Machine) (o : Object) (s : Nat) (name : Utf16) :
    m.Keeps ((m.withNew o).initialized s name (.object m.objects.size)) ∅ {s} :=
  ((keeps_withNew m o).mono subset_rfl (Set.empty_subset _)).trans (keeps_initialized _ s name _)

/-! ### Functions -/

/-- Whether an object is the function that code is in a scope. -/
def Machine.IsFunction (m : Machine) (f : Ref) (code : Tree) (s : Nat) : Prop :=
  ∃ o, m.objects[f]? = some o ∧ o.kind = .closure ⟨code, s, none, false, [], []⟩

lemma Machine.IsFunction.of_keeps {f : Ref} {code : Tree} {s : Nat} {scopes : Set Nat}
    (hf : m.IsFunction f code s) (hkeeps : m.Keeps m' ∅ scopes) : m'.IsFunction f code s := by
  obtain ⟨o, hthere, hkind⟩ := hf
  have hlt : f < m.objects.size := (Array.getElem?_eq_some_iff.mp hthere).1
  exact ⟨o, (hkeeps.object f hlt (Set.notMem_empty f)).trans hthere, hkind⟩

variable {head : FunctionHead} {s : Nat} {name : Utf16}

lemma newPrototype_eq (head : FunctionHead) (f : Ref) (h : Host) (m : Machine) :
    ∃ p m', newPrototype head f h m = .ok p m' ∧ m.Keeps m' ∅ ∅ := by
  unfold newPrototype
  split
  · exact ⟨_, _, rfl, keeps_withNew m _⟩
  · split
    · exact ⟨_, _, rfl, keeps_withNew m _⟩
    · exact ⟨_, _, rfl, .refl m⟩

lemma newFunction_eq (head : FunctionHead) (parameters : List Tree) (rest body : Tree) (s : Nat)
    (name : Utf16) (h : Host) (m : Machine) :
    ∃ m', newFunction (.function head parameters rest body) s none name h m =
        .ok m.objects.size m' ∧
      m'.IsFunction m.objects.size (.function head parameters rest body) s ∧ m.Keeps m' ∅ ∅ := by
  let code : Tree := .function head parameters rest body
  let o : Object := {
    kind         := .closure ⟨code, s, none, false, [], []⟩
    proto        := some (functionStandard head).proto
    isExtensible := true
    properties   := #[
      (.ofString "length", .readOnly (.ofNat (Tree.expectedCount parameters))),
      (.ofString "name", .readOnly (.text name))] }
  obtain ⟨p, m₁, hproto, hkeeps⟩ := newPrototype_eq head m.objects.size h (m.withNew o)
  have hthere : m₁.objects[m.objects.size]? = some o := by
    rw [hkeeps.object _ (by simp [Machine.withNew]) (Set.notMem_empty _), Machine.withNew,
      Array.getElem?_push_size]
  have hkept : m.Keeps m₁ ∅ ∅ := (keeps_withNew m o).trans hkeeps
  have hallocate : allocate o h m = .ok m.objects.size (m.withNew o) := rfl
  rw [newFunction, bind_ok hallocate, bind_ok hproto]
  cases p with
  | none   => exact ⟨m₁, rfl, ⟨o, hthere, rfl⟩, hkept⟩
  | some p =>
    refine ⟨_, rfl, ⟨o.store (.ofString "prototype") p, ?_, rfl⟩, ?_⟩
    · rw [Array.getElem?_modify, if_pos rfl, hthere]
      rfl
    · refine hkept.step (keeps_modify m₁ _ _) (fun r hr hlt => ?_) fun _ h _ => h
      exact absurd (Set.mem_singleton_iff.mp hr) (Nat.ne_of_lt hlt)

lemma functionValue_eq (hname : head.name = none) (parameters : List Tree) (rest body : Tree)
    (s : Nat) (name : Utf16) (h : Host) (m : Machine) :
    ∃ m', functionValue (.function head parameters rest body) s name h m =
        .ok (.object m.objects.size) m' ∧
      m'.IsFunction m.objects.size (.function head parameters rest body) s ∧ m.Keeps m' ∅ ∅ := by
  obtain ⟨m', hnew, hf⟩ := newFunction_eq head parameters rest body s name h m
  refine ⟨m', ?_, hf⟩
  rw [functionValue, hname]
  dsimp only
  rw [bind_ok hnew]
  rfl

variable {v : Value} {names others : List Utf16}

/-! ### Names of a scope -/

/-- Whether all that a machine has done to objects and scopes of another is that some names of the
scope of a function have got values. -/
structure Machine.Settles (m m' : Machine) (s : Nat) (names : List Utf16) : Prop where
  keeps : m.Keeps m' ∅ {s}
  scope : m'.IsFunctionScope s
  others : ∀ name ∉ names, ∀ binding, m'.Binds s name binding ↔ m.Binds s name binding
  gives : ∀ name ∈ names, ∃ v, m'.Gives s name v

namespace Machine.Settles

lemma of_keeps (hkeeps : m.Keeps m' ∅ ∅) (hs : m.IsFunctionScope s) : m.Settles m' s [] where
  keeps := hkeeps.mono subset_rfl (Set.empty_subset _)
  scope := (hkeeps.isFunctionScope_iff hs.lt_size (Set.notMem_empty s)).mpr hs
  others _ _ _ := hkeeps.binds_iff hs.lt_size (Set.notMem_empty s)
  gives := nofun

lemma of_initialized (hs : m.IsFunctionScope s) (name : Utf16) (v : Value) :
    m.Settles (m.initialized s name v) s [name] where
  keeps := keeps_initialized m s name v
  scope := by
    obtain ⟨b, hb, -⟩ : (m.initialized s name v).Gives s name v := gives_initialized hs
    exact hb.isFunctionScope
  others other hother _ :=
    binds_initialized_of_ne fun heq => hother (List.mem_singleton.mpr heq.symm)
  gives other hother := by
    obtain rfl := List.mem_singleton.mp hother
    exact ⟨v, gives_initialized hs⟩

lemma gives_iff (hsettles : m.Settles m' s names) (hname : name ∉ names) :
    m'.Gives s name v ↔ m.Gives s name v := by
  simp only [Machine.Gives, hsettles.others name hname]

lemma trans (first : m.Settles m₁ s names) (second : m₁.Settles m₂ s others) :
    m.Settles m₂ s (names ++ others) where
  keeps := first.keeps.trans second.keeps
  scope := second.scope
  others name hname binding := by
    rw [List.mem_append, not_or] at hname
    rw [second.others name hname.2, first.others name hname.1]
  gives name hname := by
    by_cases hother : name ∈ others
    · exact second.gives name hother
    · obtain ⟨v, hv⟩ := first.gives name ((List.mem_append.mp hname).resolve_right hother)
      exact ⟨v, (second.gives_iff hother).mpr hv⟩

end Machine.Settles

lemma declareFunction_eq (hs : m.IsFunctionScope s) (name : Utf16) (v : Value) :
    declareFunction s name v h m = .ok () (m.initialized s name v) := by
  obtain ⟨sc, call, hscope, hkind⟩ := hs
  have hread : Script.scope s h m = .ok sc m := by rw [Script.scope, hscope]; rfl
  rw [declareFunction, bind_ok hread, hkind]
  rfl

/-- A function without a name is not declared. -/
lemma declareFunctions_of_none {code : Tree} (hname : Syntax.functionName code = none)
    (functions : List Tree) :
    declareFunctions s (code :: functions) = declareFunctions s functions := by
  cases code with
  | function head parameters rest body =>
    cases head
    cases hname
    rfl
  | _ => rfl

/-- A function with a name is made, and the name gets it. -/
lemma declareFunctions_of_some (hname : head.name = some name) (parameters : List Tree)
    (rest body : Tree) (functions : List Tree) :
    declareFunctions s (.function head parameters rest body :: functions) =
      (newFunction (.function head parameters rest body) s none name >>= fun f =>
        declareFunction s name (.object f)) >>= fun _ => declareFunctions s functions := by
  cases head
  cases hname
  rfl

/-- The functions of a block get their values before its statements. -/
lemma declareFunctions_settles (functions : List Tree) (hs : m.IsFunctionScope s) :
    ∃ m', declareFunctions s functions h m = .ok () m' ∧
      m.Settles m' s (functions.filterMap Syntax.functionName) := by
  induction functions generalizing m with
  | nil                 => exact ⟨m, rfl, .of_keeps (.refl m) hs⟩
  | cons code functions ih =>
    rcases hname : Syntax.functionName code with _ | name
    · rw [declareFunctions_of_none hname, List.filterMap_cons_none hname]
      exact ih hs
    · rw [List.filterMap_cons_some hname]
      cases code with
      | function head parameters rest body =>
        obtain ⟨m₁, hnew, -, hkeeps⟩ := newFunction_eq head parameters rest body s name h m
        have hmade := Machine.Settles.of_keeps hkeeps hs
        have hfirst := hmade.trans (.of_initialized hmade.scope name (.object m.objects.size))
        obtain ⟨m₂, hrest, hsecond⟩ := ih hfirst.scope
        refine ⟨m₂, ?_, hfirst.trans hsecond⟩
        rw [← hrest, declareFunctions_of_some hname]
        refine bind_ok (a := ()) ?_
        exact (bind_ok hnew).trans (declareFunction_eq hmade.scope name _)
      | _ => cases hname

/-! ### Calls -/

lemma keeps_newScope (m : Machine) (scope : Scope) :
    m.Keeps { m with scopes := m.scopes.push scope } ∅ ∅ where
  objects_le := Nat.le_refl _
  scopes_le := by
    rw [Array.size_push]
    exact Nat.le_succ _
  object _ _ _ := rfl
  scope s hs _ := by rw [Array.getElem?_push, if_neg (Nat.ne_of_lt hs)]

lemma find?_variables {vars : List Utf16} (hname : name ∈ vars) (bindings : List Binding) :
    (vars.map (Binding.variable · .undefined) ++ bindings).find? (fun b => b.name == name) =
      some (.variable name .undefined) := by
  induction vars with
  | nil              => cases hname
  | cons other vars ih =>
    rw [List.map_cons, List.cons_append, List.find?_cons]
    cases hother : (Binding.variable other .undefined).name == name with
    | true  =>
      obtain rfl : other = name := beq_iff_eq.mp hother
      rfl
    | false =>
      refine ih ((List.mem_cons.mp hname).resolve_left ?_)
      rintro rfl
      exact absurd hother (by simp [Binding.variable])

/-- The scope of a call binds its parameter and its variables. -/
lemma plainScope_eq (harguments : head.usesArguments = false) (frame : Option Call) (s : Nat)
    (parameter : Utf16) (names : List LexicalName) (v : Value) (h : Host) (m : Machine) :
    ∃ m', plainScope head frame s [.name parameter] names [v] h m = .ok m.scopes.size m' ∧
      m.Keeps m' ∅ ∅ ∧ m'.Binds m.scopes.size parameter (.variable parameter v) ∧
      ∀ name ∈ head.vars, name ≠ parameter →
        m'.Binds m.scopes.size name (.variable name .undefined) := by
  have htaken : (fun name => !([Binding.variable parameter v].any fun b => b.name == name) &&
      !(([] : List Binding).any fun b => b.name == name)) = fun name => parameter != name := by
    funext name
    simp [Binding.variable, bne]
  have hscope : plainScope head frame s [.name parameter] names [v] h m = .ok m.scopes.size { m with
      scopes := m.scopes.push ⟨some s, .function frame, (Binding.variable parameter v ::
        ((head.vars.filter fun name => parameter != name).map (Binding.variable · .undefined) ++
          names.map fun n => Binding.waiting n.name n.isConstant)).toArray⟩ } := by
    rw [plainScope, harguments, ← htaken]
    rfl
  refine ⟨_, hscope, keeps_newScope m _, ⟨_, frame, Array.getElem?_push_size, rfl, ?_⟩,
    fun name hname hne => ⟨_, frame, Array.getElem?_push_size, rfl, ?_⟩⟩
  · rw [List.find?_toArray, List.find?_cons]
    simp [Binding.variable]
  · have hother : ((Binding.variable parameter v).name == name) = false :=
      beq_eq_false_iff_ne.mpr hne.symm
    rw [List.find?_toArray, List.find?_cons, hother]
    exact find?_variables (List.mem_filter.mpr ⟨hname, by simpa [bne] using hne.symm⟩) _

/-- Whether a function is neither asynchronous nor a generator, has no name and does not ask for its
arguments. -/
def FunctionHead.IsBare (head : FunctionHead) : Prop :=
  head.name = none ∧ head.kind = .plain ∧ head.isAsync = false ∧ head.isGenerator = false ∧
    head.usesArguments = false

variable {f : Ref} {parameter : Utf16} {functions statements : List Tree}
  {lexicals : List LexicalName} {natives : Native → Invocation → Exec Value}

/-- A call of a function with one parameter runs its statements in a new scope, which binds the
parameter, the variables of the function and the functions declared in it. -/
lemma callValue_eq (hbare : head.IsBare)
    (hf : m.IsFunction f (.function head [.name parameter] .absent
      (.block lexicals functions statements)) s)
    (hparameter : parameter ∉ functions.filterMap Syntax.functionName) (v : Value) :
    ∃ m₁, m.Keeps m₁ ∅ ∅ ∧ m₁.Binds m.scopes.size parameter (.variable parameter v) ∧
      (∀ name ∈ head.vars, name ≠ parameter →
        name ∉ functions.filterMap Syntax.functionName →
          m₁.Binds m.scopes.size name (.variable name .undefined)) ∧
      (∀ name ∈ functions.filterMap Syntax.functionName,
        ∃ w, m₁.Gives m.scopes.size name w) ∧
      ∀ result m',
        run turnLimit (.start head m.scopes.size (statements.map (Task.execute []))) h m₁ =
          .ok (.ended result) m' →
        callValue natives (.object f) .undefined [v] h m = .ok .undefined m' := by
  obtain ⟨hname, hkind, hasync, hgenerator, harguments⟩ := hbare
  obtain ⟨o, hthere, hclosure⟩ := hf
  have hthis : ∃ this, thisFor head .undefined h m = .ok this m := by
    unfold thisFor
    split <;> exact ⟨_, rfl⟩
  obtain ⟨this, hthis⟩ := hthis
  obtain ⟨m₁, hscope, hkeeps, hbinds, hvars⟩ := plainScope_eq harguments
    (some ⟨some this, f, .undefined⟩) s parameter lexicals v h m
  obtain ⟨m₂, hfunctions, hsettles⟩ :=
    declareFunctions_settles (h := h) functions hbinds.isFunctionScope
  refine ⟨m₂, ?_, (hsettles.others _ hparameter _).mpr hbinds, fun name hname hne hother => ?_,
    hsettles.gives, fun result m' hrun => ?_⟩
  · exact hkeeps.step hsettles.keeps nofun fun t ht hlt =>
      absurd (Set.mem_singleton_iff.mp ht) (Nat.ne_of_lt hlt)
  · exact (hsettles.others _ hother _).mpr (hvars name hname hne)
  · have hobject : object f h m = .ok o m := by rw [object, hthere]; rfl
    have hkindOf : kindOf f h m = .ok o.kind m := by rw [kindOf, bind_ok hobject]; rfl
    have hthis' : (some <$> thisFor head .undefined) h m = .ok (some this) m := by
      change (thisFor head .undefined >>= fun this => pure (some this)) h m = _
      rw [bind_ok hthis]
      rfl
    have hprepare : prepare f ⟨.function head [.name parameter] .absent
          (.block lexicals functions statements), s, none, false, [], []⟩ (some this) [v]
          .undefined h m =
        .ok (.start head m.scopes.size (statements.map (Task.execute []))) m₂ := by
      have hsimple : Tree.areSimple [.name parameter] .absent = true := rfl
      rw [prepare]
      dsimp only
      rw [hsimple, if_pos rfl, hkind, if_neg (by decide), bind_ok hscope, bind_ok hfunctions]
      rfl
    rw [callValue]
    dsimp only
    rw [bind_ok hkindOf, hclosure]
    dsimp only
    rw [callClosure]
    dsimp only
    rw [hkind, hasync, hgenerator]
    dsimp only
    rw [if_neg (by decide), if_neg (by decide), bind_ok hthis', bind_ok hprepare, bind_ok hrun]
    rfl

variable {owner : Utf16}

/-! ### Statements -/

lemma comes_push (v : Value) : Comes h 1 (a.plan (.push v :: tasks)) m ((a.push v).plan tasks) m :=
  comes_step rfl

lemma comes_expression (e : Tree) :
    Comes h 1 (a.plan (.execute [] (.expression e) :: tasks)) m
      (a.plan (.evaluate e :: .keepResult :: tasks)) m :=
  comes_step rfl

lemma comes_keepResult (v : Value) :
    Comes h 1 ((a.push v).plan (.keepResult :: tasks)) m ({ a with result := v }.plan tasks) m :=
  comes_step rfl

lemma comes_name (hv : m.Gives a.scope name v) :
    Comes h 1 (a.plan (.evaluate (.name name) :: tasks)) m ((a.push v).plan tasks) m := by
  refine comes_step ?_
  change (readName a.scope name >>= fun v => give (a.plan tasks) v) h m = _
  rw [bind_ok (readName_of_gives hv)]
  rfl

/-- A key in brackets that is a text. -/
lemma comes_key (t : Utf16) :
    Comes h 3 (a.plan (.evaluate (.computed (.literal (.text t))) :: .toKey :: tasks)) m
      ((a.push (.text t)).plan tasks) m := by
  have hcomputed : Comes h 1
      (a.plan (.evaluate (.computed (.literal (.text t))) :: .toKey :: tasks)) m
      (a.plan (.evaluate (.literal (.text t)) :: .toKey :: tasks)) m := comes_step rfl
  have hliteral : Comes h 1 (a.plan (.evaluate (.literal (.text t)) :: .toKey :: tasks)) m
      ((a.push (.text t)).plan (.toKey :: tasks)) m := comes_step rfl
  have hkey : Comes h 1 ((a.push (.text t)).plan (.toKey :: tasks)) m
      ((a.push (.text t)).plan tasks) m := comes_step rfl
  exact (hcomputed.trans hliteral).trans hkey

/-- The assignment of a name to a member of an object. -/
def assignment (owner member name : Utf16) : Tree :=
  .expression (.assign (.member (.name owner) (.computed (.literal (.text member))) false)
    (.name name))

lemma comes_assignment {base : Value} {member : Utf16} (howner : m.Gives a.scope owner base)
    (hname : m.Gives a.scope name v)
    (hstore : storeMember base (.text member) v a.isStrict h m = .ok () m') (tasks : List Task) :
    Comes h 9 (a.plan (.execute [] (assignment owner member name) :: tasks)) m
      ({ a with result := v }.plan tasks) m' := by
  have hplace : Comes h 1 (a.plan (.evaluate (.assign (.member (.name owner)
        (.computed (.literal (.text member))) false) (.name name)) :: .keepResult :: tasks)) m
      (a.plan (.evaluate (.name owner) :: .evaluate (.computed (.literal (.text member))) ::
        .toKey :: .evaluate (.name name) :: .store .member :: .keepResult :: tasks)) m :=
    comes_step rfl
  have hstored : Comes h 1 ((((a.push base).push (.text member)).push v).plan
        (.store .member :: .keepResult :: tasks)) m
      ((a.push v).plan (.keepResult :: tasks)) m' := by
    refine comes_step ?_
    change (storeMember base (.text member) v a.isStrict >>= fun _ =>
      give (a.plan (.keepResult :: tasks)) v) h m = _
    rw [bind_ok hstore]
    rfl
  exact (comes_expression _).trans <| hplace.trans <| (comes_name howner).trans <|
    (comes_key member).trans <|
    (comes_name (a := (a.push base).push (.text member)) hname).trans <| hstored.trans <|
    comes_keepResult v

/-! ### Frames -/

/-- What is applied to a function whose parameter is an object that its surroundings know under the
same name, and make if they do not. -/
def ownObject (name : Utf16) : Tree := .logical .or (.name name) (.assign (.name name) (.object []))

/-- The statements that a namespace becomes: the declaration of its name, and the call of a function
that has the statements of the namespace. -/
def namespaceStatements (name : Utf16) (code : Tree) : List Tree :=
  [.varDeclaration [.declarator (.name name) .absent],
   .expression (.call code [ownObject name] false)]

/-- The object that a name has already is applied. -/
lemma comes_ownObject_of_gives {r : Ref} (hname : m.Gives a.scope name (.object r)) :
    Comes h 3 (a.plan (.evaluate (ownObject name) :: tasks)) m
      ((a.push (.object r)).plan tasks) m := by
  have hor : Comes h 1 (a.plan (.evaluate (ownObject name) :: tasks)) m
      (a.plan (.evaluate (.name name) :: .logical .or (.assign (.name name) (.object [])) ::
        tasks)) m := comes_step rfl
  have hkeep : Comes h 1 ((a.push (.object r)).plan
        (.logical .or (.assign (.name name) (.object [])) :: tasks)) m
      ((a.push (.object r)).plan tasks) m := comes_step rfl
  exact (hor.trans (comes_name hname)).trans hkeep

/-- An object without members. -/
def Object.fresh : Object := .empty .ordinary (some Standard.object.proto)

/-- A new object is made for a name that has none. -/
lemma comes_ownObject_of_undefined (hname : m.Binds a.scope name (.variable name .undefined)) :
    Comes h 6 (a.plan (.evaluate (ownObject name) :: tasks)) m
      ((a.push (.object m.objects.size)).plan tasks)
      ((m.withNew .fresh).initialized a.scope name (.object m.objects.size)) := by
  have hor : Comes h 1 (a.plan (.evaluate (ownObject name) :: tasks)) m
      (a.plan (.evaluate (.name name) :: .logical .or (.assign (.name name) (.object [])) ::
        tasks)) m := comes_step rfl
  have hmake : Comes h 1 ((a.push .undefined).plan
        (.logical .or (.assign (.name name) (.object [])) :: tasks)) m
      (a.plan (.evaluate (.assign (.name name) (.object [])) :: tasks)) m := comes_step rfl
  have hassign : Comes h 1 (a.plan (.evaluate (.assign (.name name) (.object [])) :: tasks)) m
      (a.plan (.evaluate (.object []) :: .store (.variable name) :: tasks)) m := comes_step rfl
  have hobject : Comes h 1 (a.plan (.evaluate (.object []) :: .store (.variable name) :: tasks)) m
      ((a.push (.object m.objects.size)).plan (.store (.variable name) :: tasks))
      (m.withNew .fresh) := comes_step rfl
  have hstore : Comes h 1
      ((a.push (.object m.objects.size)).plan (.store (.variable name) :: tasks)) (m.withNew .fresh)
      ((a.push (.object m.objects.size)).plan tasks)
      ((m.withNew .fresh).initialized a.scope name (.object m.objects.size)) := by
    have hnew : (m.withNew .fresh).Binds a.scope name (.variable name .undefined) := hname
    refine comes_step ?_
    change (writeName a.scope name (.object m.objects.size) a.isStrict >>= fun _ =>
      give (a.plan tasks) (.object m.objects.size)) h (m.withNew .fresh) = _
    rw [bind_ok (writeName_eq hnew a.isStrict)]
    rfl
  exact hor.trans <| (comes_name ⟨_, hname, rfl⟩).trans <| hmake.trans <| hassign.trans <|
    hobject.trans hstore

/-- The statements of a namespace call its function with the object that the name stands for. -/
lemma comes_namespace {head : FunctionHead} (hname : head.name = none) (parameters : List Tree)
    (rest body : Tree) (name : Utf16) (a : Activation) (tasks : List Task) (h : Host)
    (m : Machine) :
    ∃ m₁, m.Keeps m₁ ∅ ∅ ∧
      m₁.IsFunction m.objects.size (.function head parameters rest body) a.scope ∧
      ∀ (r : Ref) (m₂ m₃ : Machine) (result : Value),
        (∀ (b : Activation) (tasks : List Task), b.scope = a.scope →
          Comes h 6 (b.plan (.evaluate (ownObject name) :: tasks)) m₁
            ((b.push (.object r)).plan tasks) m₂) →
        h.call (.object m.objects.size) .undefined [.object r] m₂ = .ok result m₃ →
        Comes h 14 (a.plan ((namespaceStatements name (.function head parameters rest body)).map
            (Task.execute []) ++ tasks)) m ({ a with result }.plan tasks) m₃ := by
  obtain ⟨m₁, hfunction, hf, hkeeps⟩ :=
    functionValue_eq hname parameters rest body a.scope (head.name.getD .empty) h m
  refine ⟨m₁, hkeeps, hf, fun r m₂ m₃ result hargument hcall => ?_⟩
  let code : Tree := .function head parameters rest body
  let called := [Task.evaluate (ownObject name), .call 1 false, .keepResult] ++ tasks
  have hdeclaration : Comes h 1
      (a.plan ((namespaceStatements name code).map (Task.execute []) ++ tasks)) m
      (a.plan (.execute [] (.expression (.call code [ownObject name] false)) :: tasks)) m :=
    comes_step rfl
  have hcallee : Comes h 3 (a.plan (.evaluate (.call code [ownObject name] false) ::
      .keepResult :: tasks)) m ((a.push .undefined).plan (.evaluate code :: called)) m := by
    have hcall : Comes h 1 (a.plan (.evaluate (.call code [ownObject name] false) ::
        .keepResult :: tasks)) m (a.plan (.callee code :: called)) m := comes_step rfl
    have hcode : Comes h 1 (a.plan (.callee code :: called)) m
        (a.plan (.push .undefined :: .evaluate code :: called)) m := comes_step rfl
    exact (hcall.trans hcode).trans (comes_push .undefined)
  have hcode : Comes h 1 ((a.push .undefined).plan (.evaluate code :: called)) m
      (((a.push .undefined).push (.object m.objects.size)).plan called) m₁ := by
    refine comes_step ?_
    change (functionValue code a.scope (head.name.getD .empty) >>= fun v =>
      give ((a.push .undefined).plan called) v) h m = _
    rw [bind_ok hfunction]
    rfl
  have hcalled : Comes h 1 ((((a.push .undefined).push (.object m.objects.size)).push
      (.object r)).plan (.call 1 false :: .keepResult :: tasks)) m₂
      ((a.push result).plan (.keepResult :: tasks)) m₃ := by
    refine comes_step ?_
    change (call (.object m.objects.size) .undefined [.object r] >>= fun v =>
      give (a.plan (.keepResult :: tasks)) v) h m₂ = _
    rw [bind_ok (show call (.object m.objects.size) .undefined [.object r] h m₂ = _ from hcall)]
    rfl
  exact hdeclaration.trans <| (comes_expression _).trans <| hcallee.trans <| hcode.trans <|
    (hargument ((a.push .undefined).push (.object m.objects.size)) _ rfl).trans <|
    hcalled.trans (comes_keepResult result)

end Stencil.Script
