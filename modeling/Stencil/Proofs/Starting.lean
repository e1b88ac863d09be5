import Stencil.Proofs.LoadErrors
import Stencil.Proofs.Realm

/-!
# The start of a template

When a template starts, errors of loads can be made and are recognised (`makes_start`): what is
known of the few objects that this takes is followed from the bare machine to the machine that the
template finds.
-/

namespace Stencil.Sandbox

open Script Script.Machine

variable {m : Machine} {r : Ref} {kind : Kind} {proto : Option Ref}
  {known : List (Key × Option Property)}

/-! ### Surroundings -/

lemma shows_withClass {s : Standard} (h : m.Shows r kind proto known) (hs : s.constructor ≠ r)
    (hkey : Unseen r (known.map Prod.fst) s.proto (.ofString "constructor")) (title : String)
    (arity : Nat) (parent : Ref) : (withClass m s title arity parent).Shows r kind proto known :=
  (h.modify _ (.inl hs)).withProperty hkey _

/-- The objects of which the surroundings are made. -/
def surroundings : List Ref := [Standard.console.proto, moduleRef, globalRef]

lemma shows_surrounded (h : m.Shows r kind proto known) (hr : ∀ s ∈ surroundings, s ≠ r)
    (hkey : .ofString "env" ∉ known.map Prod.fst) :
    (surrounded m).Shows r kind proto known := by
  have hconsole : Standard.console.proto ≠ r := hr _ (by simp [surroundings])
  have hmodule : moduleRef ≠ r := hr _ (by simp [surroundings])
  have hglobal : globalRef ≠ r := hr _ (by simp [surroundings])
  have hplain : (withPlainProperties m Standard.console.proto).Shows r kind proto known :=
    h.modify _ (.inl hconsole)
  unfold surrounded
  dsimp only
  refine Shows.foldl ?_ _ fun _ hm _ _ => hm.withProperty (.inl hglobal) _
  refine Shows.withProperty (Shows.set ?_ hmodule _) (.inl hmodule) _
  exact (((hplain.withObject _).withObject _).withObject _).withProperty (.inr hkey) _

/-- What is known of an object before the classes of templates are added. -/
lemma shows_start (h : (Machine.start membersOf).Shows r kind proto known)
    (hclasses : ∀ s ∈ [Standard.buffer, .loadError], s.constructor ≠ r)
    (hr : ∀ s ∈ surroundings, s ≠ r)
    (hkeys : ∀ key ∈ [Key.ofString "constructor", .ofString "env"], key ∉ known.map Prod.fst) :
    start.Shows r kind proto known := by
  have hconstructor := hkeys (.ofString "constructor") (by simp)
  unfold start
  refine shows_surrounded ?_ hr (hkeys (.ofString "env") (by simp))
  exact shows_withClass (shows_withClass h (hclasses .buffer (by simp)) (.inr hconstructor) _ _ _)
    (hclasses .loadError (by simp)) (.inr hconstructor) _ _ _

/-- Whether nothing that is added after the members of standard objects matters to what is known
of an object. -/
structure Settled (r : Ref) (keys : List Key) : Prop extends Spared r keys where
  texts : ∀ s ∈ Standard.all, SparedByTexts r keys s
  classes : ∀ s ∈ [Standard.buffer, .loadError], s.constructor ≠ r
  surroundings : ∀ s ∈ surroundings, s ≠ r
  later : ∀ key ∈ [Key.ofString "constructor", .ofString "env"], key ∉ keys

instance {r : Ref} {keys : List Key} : Decidable (Settled r keys) :=
  decidable_of_iff
    (Spared r keys ∧ (∀ s ∈ Standard.all, SparedByTexts r keys s) ∧
      (∀ s ∈ [Standard.buffer, .loadError], s.constructor ≠ r) ∧ (∀ s ∈ surroundings, s ≠ r) ∧
      ∀ key ∈ [Key.ofString "constructor", .ofString "env"], key ∉ keys)
    ⟨fun h => ⟨h.1, h.2.1, h.2.2.1, h.2.2.2.1, h.2.2.2.2⟩,
      fun h => ⟨h.toSpared, h.texts, h.classes, h.surroundings, h.later⟩⟩

/-- What is known of an object that has its members is known of it at the start. -/
lemma shows_start_of_members
    (h : Shows (Standard.all.foldl (withMembers membersOf) bare) r kind proto known)
    (hsettled : Settled r (known.map Prod.fst)) : start.Shows r kind proto known :=
  shows_start (h.start hsettled.toSpared hsettled.texts) hsettled.classes hsettled.surroundings
    hsettled.later

/-! ### Objects that are as they were -/

/-- The constructor of errors. -/
lemma start_error_constructor :
    start.Shows Standard.error.constructor (.native (.constructor .error))
      (some Standard.function.proto) [(.ofSymbol .hasInstance, none)] := by
  have hbare : bare.Shows Standard.error.constructor (.native (.constructor .error))
      (some Standard.function.proto) [(.ofSymbol .hasInstance, none)] := by
    refine ⟨Standard.error.bareConstructor, bare_constructor .error, rfl, rfl, ?_⟩
    exact List.forall_mem_singleton.mpr (Option.isNone_iff_eq_none.mp (by decide +kernel))
  exact shows_start_of_members (hbare.membered (by decide +kernel)) (by decide +kernel)

/-- The prototype of the errors of loads. -/
lemma start_loadError_proto :
    start.Shows Standard.loadError.proto .ordinary (some Standard.error.proto)
      [(nameKey, none), (specifierKey, none)] := by
  have hbare : bare.Shows Standard.loadError.proto .ordinary (some Standard.error.proto)
      [(nameKey, none), (specifierKey, none)] := by
    refine ⟨Standard.loadError.bareProto, bare_proto .loadError, rfl, rfl, ?_⟩
    exact List.forall_mem_cons.mpr ⟨rfl, List.forall_mem_singleton.mpr rfl⟩
  exact shows_start_of_members (hbare.membered (by decide +kernel)) (by decide +kernel)

/-- The prototype of objects. -/
lemma start_object_proto :
    start.Shows Standard.object.proto .ordinary none [(specifierKey, none)] := by
  have hbare : bare.Shows Standard.object.proto .ordinary none [(specifierKey, none)] :=
    ⟨Standard.object.bareProto, bare_proto .object, rfl, rfl, List.forall_mem_singleton.mpr rfl⟩
  exact shows_start_of_members (hbare.membered (by decide +kernel)) (by decide +kernel)

/-! ### Objects that are changed on the way -/

/-- Errors get their name between those of other kinds. -/
lemma shows_errorTexts
    (h : m.Shows Standard.error.proto kind proto [(nameKey, none), (specifierKey, none)]) :
    Shows (Standard.all.foldl withErrorTexts m) Standard.error.proto kind proto
      [(nameKey, some (.hidden (.ofString "Error"))), (specifierKey, none)] := by
  have hall : Standard.all = Standard.all.take 8 ++ .error :: Standard.all.drop 9 := rfl
  have hbefore : ∀ s ∈ Standard.all.take 8,
      SparedByTexts Standard.error.proto [nameKey, specifierKey] s := by
    decide +kernel
  have hafter : ∀ s ∈ Standard.all.drop 9,
      SparedByTexts Standard.error.proto [nameKey, specifierKey] s := by
    decide +kernel
  rw [hall, List.foldl_append, List.foldl_cons]
  refine Shows.foldl ?_ _ fun _ hm s hs => hm.withErrorTexts (hafter s hs)
  have hunnamed := h.foldl _ fun _ hm s hs => hm.withErrorTexts (hbefore s hs)
  have hnamed := hunnamed.put (by decide +kernel) (.hidden (.ofString "Error"))
  exact hnamed.withProperty (.inr (by decide +kernel)) (.hidden (.ofString ""))

/-- The prototype of errors. -/
lemma start_error_proto :
    start.Shows Standard.error.proto .ordinary (some Standard.object.proto)
      [(nameKey, some (.hidden (.ofString "Error"))), (specifierKey, none)] := by
  have hbare : bare.Shows Standard.error.proto .ordinary (some Standard.object.proto)
      [(nameKey, none), (specifierKey, none)] := by
    refine ⟨Standard.error.bareProto, bare_proto .error, rfl, rfl, ?_⟩
    exact List.forall_mem_cons.mpr ⟨rfl, List.forall_mem_singleton.mpr rfl⟩
  refine shows_start ?_ (by decide) (by decide) (by decide +kernel)
  unfold Machine.start
  exact Shows.finished (by decide +kernel)
    (shows_errorTexts (Shows.links (by decide +kernel) (hbare.membered (by decide +kernel))))

lemma findProperty_append (first second : Array (Key × Property)) (key : Key) :
    findProperty (first ++ second) key =
      (findProperty first key).or (findProperty second key) := by
  rw [findProperty, Array.find?_append, Option.map_or]
  rfl

/-- The properties that the class of the errors of loads gives its constructor. -/
def classProperties : Array (Key × Property) := #[
  (.ofString "length", .readOnly (.ofNat 1)),
  (.ofString "name", .readOnly (.ofString loadErrorName)),
  (.ofString "prototype", .fixed (.object Standard.loadError.proto))]

lemma classProperties_prototype : findProperty classProperties (.ofString "prototype") =
    some (.fixed (.object Standard.loadError.proto)) := by
  have hnone : findProperty #[
      (Key.ofString "length", Property.readOnly (.ofNat 1)),
      (.ofString "name", .readOnly (.ofString loadErrorName))] (.ofString "prototype") = none :=
    Option.isNone_iff_eq_none.mp (by decide +kernel)
  exact findProperty_push_self hnone _

lemma shows_loadErrorClass
    (h : m.Shows Standard.loadError.constructor kind proto [(.ofSymbol .hasInstance, none)]) :
    (withClass m .loadError loadErrorName 1 Standard.error.constructor).Shows
      Standard.loadError.constructor (.native (.constructor .loadError))
      (some Standard.error.constructor)
      [(.ofSymbol .hasInstance, none),
        (.ofString "prototype", some (.fixed (.object Standard.loadError.proto)))] := by
  obtain ⟨o, ho, hshows⟩ := h
  have hnone : findProperty o.properties (.ofSymbol .hasInstance) = none :=
    hshows.finds _ List.mem_cons_self
  have hclass : findProperty classProperties (.ofSymbol .hasInstance) = none :=
    Option.isNone_iff_eq_none.mp (by decide +kernel)
  refine Shows.withProperty ⟨{ o with
    kind := .native (.constructor .loadError)
    proto := some Standard.error.constructor
    properties := classProperties ++ o.properties }, ?_, rfl, rfl, ?_⟩ (.inl (by decide)) _
  · rw [Array.getElem?_modify, if_pos rfl, ho]
    rfl
  · refine List.forall_mem_cons.mpr ⟨?_, List.forall_mem_singleton.mpr ?_⟩
    · rw [findProperty_append, hclass, hnone]
      rfl
    · rw [findProperty_append, classProperties_prototype]
      rfl

/-- The constructor of the errors of loads. -/
lemma start_loadError_constructor :
    start.Shows Standard.loadError.constructor (.native (.constructor .loadError))
      (some Standard.error.constructor)
      [(.ofSymbol .hasInstance, none),
        (.ofString "prototype", some (.fixed (.object Standard.loadError.proto)))] := by
  have hbare : bare.Shows Standard.loadError.constructor .ordinary (some Standard.object.proto)
      [(.ofSymbol .hasInstance, none)] :=
    ⟨Standard.loadError.bareConstructor, bare_constructor .loadError, rfl, rfl,
      List.forall_mem_singleton.mpr rfl⟩
  have hfirst : (Machine.start membersOf).Shows Standard.loadError.constructor .ordinary
      (some Standard.object.proto) [(.ofSymbol .hasInstance, none)] :=
    (hbare.membered (by decide +kernel)).start (by decide +kernel) (by decide +kernel)
  unfold start
  refine shows_surrounded ?_ (by decide) (by decide +kernel)
  exact shows_loadErrorClass
    (shows_withClass hfirst (by decide) (.inr (by decide +kernel)) _ _ _)

/-- Whether no member matters to what is known of an object, the methods of functions apart. -/
def SparedByOthers (r : Ref) (keys : List Key) : Prop :=
  (∀ isStatic, ∀ b ∈ membersOf .object isStatic,
    Unseen r keys (Standard.holder .object isStatic) b.key) ∧
  (∀ b ∈ membersOf .function true, Unseen r keys (Standard.holder .function true) b.key) ∧
  ∀ s ∈ Standard.all.drop 2, ∀ isStatic, ∀ b ∈ membersOf s isStatic,
    Unseen r keys (s.holder isStatic) b.key

instance {r : Ref} {keys : List Key} : Decidable (SparedByOthers r keys) :=
  inferInstanceAs (Decidable (_ ∧ _ ∧ _))

/-- The members of standard objects are added to those of functions. -/
lemma shows_membered (hothers : SparedByOthers r (known.map Prod.fst))
    (h : ((bare.withMembers membersOf .object).withTable membersOf .function false).Shows r kind
      proto known) :
    Shows (Standard.all.foldl (withMembers membersOf) bare) r kind proto known := by
  have hall : Standard.all = .object :: .function :: Standard.all.drop 2 := rfl
  rw [hall, List.foldl_cons, List.foldl_cons, withMembers_eq (s := .function) (by decide)]
  exact (h.withTable true hothers.2.1).foldl _ fun _ hm s hs => hm.withMembers (hothers.2.2 s hs)

lemma sparedByOthers_nil (r : Ref) : SparedByOthers r [] :=
  ⟨fun _ _ _ => .inr List.not_mem_nil, fun _ _ => .inr List.not_mem_nil,
    fun _ _ _ _ _ => .inr List.not_mem_nil⟩

/-- The methods of functions before the last one, by which instances are told. -/
def earlierMethods : List (Builtin × Nat) := (membersOf .function false).zipIdx.take 4

/-- The machine before the function is added by which instances are told. -/
def beforeInstanceTest : Machine :=
  earlierMethods.foldl
    (fun m entry =>
      m.withMember Standard.function.proto (.method .function false entry.2) entry.1)
    (bare.withMembers membersOf .object)

lemma withTable_instanceTest : ∃ b : Builtin, b.key = .ofSymbol .hasInstance ∧ b.role = .method ∧
    (bare.withMembers membersOf .object).withTable membersOf .function false =
      beforeInstanceTest.withMember Standard.function.proto instanceTest b := by
  obtain ⟨b, hmethods, hkey, hrole⟩ : ∃ b,
      (membersOf .function false).zipIdx = earlierMethods ++ [(b, 4)] ∧
        b.key = .ofSymbol .hasInstance ∧ b.role = .method :=
    ⟨_, rfl, rfl, rfl⟩
  exact ⟨b, hkey, hrole, withTable_concat hmethods _⟩

lemma lt_size_beforeInstanceTest {o : Object} (h : bare.objects[r]? = some o) :
    r < beforeInstanceTest.objects.size := by
  have hbare : bare.Shows r o.kind o.proto [] := ⟨o, h, rfl, rfl, List.forall_mem_nil _⟩
  have hmembers : (bare.withMembers membersOf .object).Shows r o.kind o.proto [] :=
    hbare.withMembers (sparedByOthers_nil r).1
  exact (hmembers.foldl _ fun _ hm x _ => hm.withMember (.inr List.not_mem_nil) _).lt_size

lemma sparedByOthers_function :
    SparedByOthers Standard.function.proto [.ofSymbol .hasInstance] := by
  decide +kernel

lemma beforeInstanceTest_function :
    beforeInstanceTest.Shows Standard.function.proto (.native (.method .function false 1000))
      (some Standard.object.proto) [(.ofSymbol .hasInstance, none)] := by
  have hbare : bare.Shows Standard.function.proto (.native (.method .function false 1000))
      (some Standard.object.proto) [(.ofSymbol .hasInstance, none)] :=
    ⟨Standard.function.bareProto, bare_proto .function, rfl, rfl,
      List.forall_mem_singleton.mpr rfl⟩
  have hmethods : ∀ x ∈ earlierMethods, Unseen Standard.function.proto [.ofSymbol .hasInstance]
      Standard.function.proto x.1.key := by
    decide +kernel
  exact (hbare.withMembers sparedByOthers_function.1).foldl _
    fun _ hm x hx => hm.withMember (hmethods x hx) _

/-- The prototype of functions with its members, and the function by which instances are told, which
is not a standard object. -/
lemma exists_membered_instanceTest : ∃ f, (∀ s : Standard, s.proto ≠ f ∧ s.constructor ≠ f) ∧
    Shows (Standard.all.foldl (withMembers membersOf) bare) Standard.function.proto
      (.native (.method .function false 1000)) (some Standard.object.proto)
      [(.ofSymbol .hasInstance, some (.hidden (.object f)))] ∧
    Shows (Standard.all.foldl (withMembers membersOf) bare) f (.native instanceTest)
      (some Standard.function.proto) [] := by
  obtain ⟨b, hkey, hrole, hlast⟩ := withTable_instanceTest
  have hbefore := beforeInstanceTest_function
  rw [← hkey] at hbefore
  obtain ⟨hput, htest⟩ := hbefore.withMethod hrole instanceTest
  rw [hkey] at hput
  rw [← hlast] at hput htest
  refine ⟨beforeInstanceTest.objects.size, fun s => ?_,
    shows_membered sparedByOthers_function hput, shows_membered (sparedByOthers_nil _) htest⟩
  exact ⟨Nat.ne_of_lt (lt_size_beforeInstanceTest (bare_proto s)),
    Nat.ne_of_lt (lt_size_beforeInstanceTest (bare_constructor s))⟩

/-- The prototype of functions, and the function by which instances are told. -/
lemma exists_start_instanceTest : ∃ f,
    start.Shows Standard.function.proto (.native (.method .function false 1000))
      (some Standard.object.proto) [(.ofSymbol .hasInstance, some (.hidden (.object f)))] ∧
    start.Shows f (.native instanceTest) (some Standard.function.proto) [] := by
  obtain ⟨f, hf, hproto, htest⟩ := exists_membered_instanceTest
  have hsettled : Settled Standard.function.proto [.ofSymbol .hasInstance] := by decide +kernel
  refine ⟨f, shows_start_of_members hproto hsettled, shows_start_of_members htest ?_⟩
  exact {
    other := fun _ _ => List.not_mem_nil
    objects := by
      simpa [furnished] using
        ⟨(hf .symbol).2, (hf .number).2, (hf .math).1, (hf .global).1, (hf .global).2⟩
    name := .inr List.not_mem_nil
    length := .inr List.not_mem_nil
    texts := fun _ _ _ _ => ⟨.inr List.not_mem_nil, .inr List.not_mem_nil⟩
    classes := fun s _ => (hf s).2
    surroundings := by
      simpa [surroundings] using ⟨(hf .console).1, (hf .surroundings).1, (hf .global).1⟩
    later := fun _ _ => List.not_mem_nil }

/-! ### The class of the errors of loads -/

lemma listed_of_shows (h : m.Shows r kind proto known) (hkind : kind.IsPlain) :
    ∃ o, Listed m r o ∧ o.kind = kind ∧ o.proto = proto ∧
      ∀ entry ∈ known, findProperty o.properties entry.1 = entry.2 := by
  obtain ⟨o, ho, hshows⟩ := h
  exact ⟨o, ⟨ho, hshows.kind ▸ hkind⟩, hshows.kind, hshows.proto, hshows.finds⟩

/-- Errors of loads can be made and are recognised when a template starts. -/
theorem makes_start : Makes start where
  constructor := by
    obtain ⟨o, ho, hkind, hproto, hfinds⟩ := listed_of_shows start_loadError_constructor trivial
    have hprototype := hfinds _ (List.mem_cons_of_mem _ List.mem_cons_self)
    exact ⟨o, ho, hkind, hfinds _ List.mem_cons_self, ⟨_, false, hprototype, rfl⟩, hproto⟩
  parent := by
    obtain ⟨o, ho, -, hproto, hfinds⟩ := listed_of_shows start_error_constructor trivial
    exact ⟨o, ho, hfinds _ List.mem_cons_self, hproto⟩
  functions := by
    obtain ⟨f, hfunctions, htest⟩ := exists_start_instanceTest
    obtain ⟨o, ho, -, -, hfinds⟩ := listed_of_shows hfunctions trivial
    obtain ⟨test, htest, hkind, -, -⟩ := listed_of_shows htest trivial
    have hinstance := hfinds _ List.mem_cons_self
    exact ⟨o, f, test, ho, ⟨_, true, hinstance, rfl⟩, htest, hkind⟩
  proto := by
    obtain ⟨o, ho, -, hproto, hfinds⟩ := listed_of_shows start_loadError_proto trivial
    have hspecifier := hfinds _ (List.mem_cons_of_mem _ List.mem_cons_self)
    exact ⟨o, ho, hfinds _ List.mem_cons_self, hspecifier, hproto⟩
  name := by
    obtain ⟨o, ho, -, hproto, hfinds⟩ := listed_of_shows start_error_proto trivial
    have hspecifier := hfinds _ (List.mem_cons_of_mem _ List.mem_cons_self)
    exact ⟨o, _, _, ho, hfinds _ List.mem_cons_self, rfl, hspecifier, hproto⟩
  top := by
    obtain ⟨o, ho, -, hproto, hfinds⟩ := listed_of_shows start_object_proto trivial
    exact ⟨o, ho, hfinds _ List.mem_cons_self, hproto⟩

end Stencil.Sandbox
