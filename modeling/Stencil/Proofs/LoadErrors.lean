import Stencil.Proofs.Objects
import Stencil.Sandbox.Basic

/-!
# Errors of loads

What `require` throws, and what the outside gets to know of it. This takes that the template left
the class of these errors as it was: `Recognises` says what is looked up to tell an error of the
class, and `Makes` what is looked up to make one. Both hold when a template starts (`makes_start`).
-/

namespace Stencil.Sandbox

open Script Script.Library

variable {m m' : Machine} {r : Ref}

/-! ### Recognising -/

/-- The function that tells instances of a class unless the class has one of its own. -/
def instanceTest : Native := .method .function false 4

/-- What is looked up to tell whether an object is of the class of the errors of loads: the class,
the class that it extends, and what these inherit from all functions. -/
structure Recognises (m : Machine) : Prop where
  constructor : ∃ o, Listed m Standard.loadError.constructor o ∧
    o.kind = .native (.constructor .loadError) ∧
    findProperty o.properties (.ofSymbol .hasInstance) = none ∧
    Owns o (.ofString "prototype") (.object Standard.loadError.proto) ∧
    o.proto = some Standard.error.constructor
  parent : ∃ o, Listed m Standard.error.constructor o ∧
    findProperty o.properties (.ofSymbol .hasInstance) = none ∧
    o.proto = some Standard.function.proto
  functions : ∃ o f test, Listed m Standard.function.proto o ∧
    Owns o (.ofSymbol .hasInstance) (.object f) ∧ Listed m f test ∧
    test.kind = .native instanceTest

/-- Whether an object is an error of the class, with the specifier of the module. -/
def IsLoadError (m : Machine) (r : Ref) (specifier : Utf16) : Prop :=
  ∃ o message, Listed m r o ∧ o.kind = .error ∧ o.proto = some Standard.loadError.proto ∧
    Owns o (.ofString "name") (.ofString loadErrorName) ∧
    Owns o (.ofString "message") (.text message) ∧
    Owns o (.ofString "specifier") (.text specifier)

/-- Calls are run by the functions of the sandbox. -/
lemma call_host (f this : Value) (arguments : List Value) :
    call f this arguments host m =
      callValue runNative f this arguments (hostAt runNative 511) m := rfl

lemma runNative_instanceTest (i : Invocation) :
    runNative instanceTest i = (do
      match i.this with
      | .object r => return .bool (← ordinaryInstance 1000 r (i.arg 0))
      | _         => return .bool false) := rfl

lemma inheritsFrom_eq {o : Object} {proto : Ref} {h : Host} (hr : Listed m r o)
    (hproto : o.proto = some proto) : inheritsFrom proto chainLimit r h m = .ok true m := by
  have hlimit : chainLimit = 999999 + 1 := rfl
  rw [hlimit, inheritsFrom, bind_ok (getProto_eq hr), hproto]
  dsimp only
  rw [if_pos (beq_self_eq_true proto)]
  rfl

/-- An object with the prototype of the class is an instance of it. -/
lemma instanceOf_loadError {o : Object} (hm : Recognises m) (hr : Listed m r o)
    (hproto' : o.proto = some Standard.loadError.proto) :
    instanceOf (.object r) (.object Standard.loadError.constructor) host m = .ok true m := by
  obtain ⟨c, hc, hckind, hcnone, hcproto, hcparent⟩ := hm.constructor
  obtain ⟨e, he, henone, heparent⟩ := hm.parent
  obtain ⟨p, f, test, hp, hpowns, hf, hfkind⟩ := hm.functions
  have hget : get Standard.loadError.constructor (.ofSymbol .hasInstance) host m =
      .ok (.object f) m := by
    have hlimit : chainLimit = 999997 + 1 + 1 + 1 := rfl
    rw [Script.get, hlimit, getFrom_of_lacks hc hcnone hcparent,
      getFrom_of_lacks he henone heparent]
    exact getFrom_of_owns hp hpowns _ _
  have hcallable : isCallable (.object f) host m = .ok true m := by
    rw [isCallable, bind_ok (kindOf_eq hf), hfkind]
    rfl
  have hmethod : methodOf Standard.loadError.constructor (.ofSymbol .hasInstance) host m =
      .ok (some (.object f)) m := by
    rw [methodOf, bind_ok hget]
    change (isCallable (.object f) >>= _) host m = _
    rw [bind_ok hcallable]
    rfl
  have hproto : getNamed Standard.loadError.constructor "prototype" (hostAt runNative 511) m =
      .ok (.object Standard.loadError.proto) m :=
    get_of_owns hc hcproto
  have hordinary : ordinaryInstance 1000 Standard.loadError.constructor (.object r)
      (hostAt runNative 511) m = .ok true m := by
    rw [ordinaryInstance, bind_ok (kindOf_eq hc), hckind]
    change (getNamed Standard.loadError.constructor "prototype" >>= _) _ m = _
    rw [bind_ok hproto]
    exact inheritsFrom_eq hr hproto'
  have hcall : call (.object f) (.object Standard.loadError.constructor) [.object r] host m =
      .ok (.bool true) m := by
    rw [call_host, callValue, bind_ok (kindOf_eq hf), hfkind]
    change runNative instanceTest _ _ m = _
    rw [runNative_instanceTest]
    change (ordinaryInstance 1000 Standard.loadError.constructor (.object r) >>= _) _ m = _
    rw [bind_ok hordinary]
    rfl
  rw [instanceOf, bind_ok hmethod]
  change (call (.object f) (.object Standard.loadError.constructor) [.object r] >>= _) host m = _
  rw [bind_ok hcall]
  rfl

lemma toEscaped_loadErrorName : (Utf16.ofString loadErrorName).toEscaped = loadErrorName := by
  decide +kernel

/-- What the outside gets to know of an error of the class: its module. -/
lemma report_of_isLoadError {specifier : Utf16} (hm : Recognises m)
    (hr : IsLoadError m r specifier) :
    ∃ text, report (.object r) host m = .ok ⟨loadErrorName, text, some specifier.toEscaped⟩ m := by
  obtain ⟨o, message, ho, -, hproto, hname, hmessage, hspecifier⟩ := hr
  have hinstance := instanceOf_loadError hm ho hproto
  have hparts : errorParts (.object r) host m =
      .ok (.ofString loadErrorName, .text message, .text specifier) m := by
    have hn : getNamed r "name" host m = .ok (.ofString loadErrorName) m := get_of_owns ho hname
    have ht : getNamed r "message" host m = .ok (.text message) m := get_of_owns ho hmessage
    have hs : getNamed r "specifier" host m = .ok (.text specifier) m := get_of_owns ho hspecifier
    rw [errorParts, bind_ok hinstance, if_pos rfl, bind_ok hn, bind_ok ht, bind_ok hs]
    rfl
  have hattempt : attempt (errorParts (.object r)) host m =
      .ok (.ok (.ofString loadErrorName, .text message, .text specifier)) m := by
    rw [attempt, hparts]
  refine ⟨message.toEscaped, ?_⟩
  rw [report, bind_ok hattempt]
  change EStateM.Result.ok (Report.mk (Utf16.ofString loadErrorName).toEscaped _ _) m = _
  rw [toEscaped_loadErrorName]
  rfl

/-! ### Making -/

def nameKey : Key := .ofString "name"

def messageKey : Key := .ofString "message"

def specifierKey : Key := .ofString "specifier"

lemma messageKey_ne_nameKey : messageKey ≠ nameKey := by
  decide +kernel

lemma messageKey_ne_specifierKey : messageKey ≠ specifierKey := by
  decide +kernel

lemma nameKey_ne_specifierKey : nameKey ≠ specifierKey := by
  decide +kernel

/-- What is looked up to make an error of the class: that its name and its specifier can be set on
the error itself. -/
structure Makes (m : Machine) : Prop extends Recognises m where
  proto : ∃ o, Listed m Standard.loadError.proto o ∧ findProperty o.properties nameKey = none ∧
    findProperty o.properties specifierKey = none ∧ o.proto = some Standard.error.proto
  name : ∃ o p v, Listed m Standard.error.proto o ∧ findProperty o.properties nameKey = some p ∧
    p.slot = .data v true ∧ findProperty o.properties specifierKey = none ∧
    o.proto = some Standard.object.proto
  top : ∃ o, Listed m Standard.object.proto o ∧ findProperty o.properties specifierKey = none ∧
    o.proto = none

lemma Recognises.withNew (h : Recognises m) (new : Object) : Recognises (m.withNew new) := by
  obtain ⟨⟨c, hc, hcrest⟩, ⟨e, he, herest⟩, ⟨p, f, test, hp, hpowns, hf, hfkind⟩⟩ := h
  exact ⟨⟨c, hc.withNew new, hcrest⟩, ⟨e, he.withNew new, herest⟩,
    ⟨p, f, test, hp.withNew new, hpowns, hf.withNew new, hfkind⟩⟩

/-- An error of the class with some properties. -/
def errorWith (properties : Array (Key × Property)) : Object where
  kind := .error
  proto := some Standard.loadError.proto
  isExtensible := true
  properties := properties

lemma errorWith_isPlain (properties : Array (Key × Property)) :
    (errorWith properties).kind.IsPlain :=
  trivial

/-- The properties of an error that got its message. -/
def described (message : Utf16) : Array (Key × Property) :=
  #[(messageKey, .hidden (.text message))]

/-- The properties of an error that got its message and its name. -/
def named (message : Utf16) : Array (Key × Property) :=
  (described message).push (nameKey, .plain (.ofString loadErrorName))

/-- The error of an attempt to load a module. -/
def loadError (message specifier : Utf16) : Object :=
  errorWith ((named message).push (specifierKey, .plain (.text specifier)))

lemma described_lacks_name (message : Utf16) : findProperty (described message) nameKey = none :=
  findProperty_push_of_ne messageKey_ne_nameKey #[] _

lemma named_lacks_specifier (message : Utf16) :
    findProperty (named message) specifierKey = none :=
  (findProperty_push_of_ne nameKey_ne_specifierKey _ _).trans
    (findProperty_push_of_ne messageKey_ne_specifierKey #[] _)

/-- A new error of the class is given its name or its specifier. -/
lemma setOrThrow_errorWith {properties : Array (Key × Property)} {h : Host} {key : Key}
    (hm : Makes m) (hkey : findProperty properties key = none)
    (hset : key = nameKey ∨ key = specifierKey) (v : Value) :
    setOrThrow m.objects.size key v h (m.withNew (errorWith properties)) =
      .ok () (m.withNew (errorWith (properties.push (key, .plain v)))) := by
  obtain ⟨p, hp, hpname, hpspecifier, hpproto⟩ := hm.proto
  obtain ⟨e, q, w, he, hename, heslot, hespecifier, heproto⟩ := hm.name
  obtain ⟨t, ht, htspecifier, htproto⟩ := hm.top
  let o := errorWith properties
  have hown : setOwn (.object m.objects.size) key v h (m.withNew o) =
      .ok true (m.withNew (errorWith (properties.push (key, .plain v)))) := by
    rw [← putProperty_of_lacks hkey]
    exact setOwn_withNew (errorWith_isPlain properties) hkey rfl m v
  have hlimit : chainLimit = 999996 + 1 + 1 + 1 + 1 := rfl
  have hfirst : setProperty m.objects.size key v h (m.withNew o) =
      setFrom 999999 Standard.loadError.proto key v (.object m.objects.size) h (m.withNew o) := by
    have hlacks : findProperty o.properties key = none := hkey
    have hproto : o.proto = some Standard.loadError.proto := rfl
    rw [setProperty, hlimit, setFrom_eq (listed_withNew (errorWith_isPlain properties) m), hlacks,
      hproto]
  have hproperty : setProperty m.objects.size key v h (m.withNew o) =
      .ok true (m.withNew (errorWith (properties.push (key, .plain v)))) := by
    rw [hfirst, ← hown, setFrom_eq (hp.withNew o)]
    rcases hset with rfl | rfl
    · rw [hpname, hpproto]
      dsimp only
      rw [setFrom_eq (he.withNew o), hename]
      dsimp only
      rw [heslot]
      dsimp only
      rw [if_pos rfl, setData_eq (he.withNew o) (Nat.ne_of_lt he.lt_size)]
    · rw [hpspecifier, hpproto]
      dsimp only
      rw [setFrom_eq (he.withNew o), hespecifier, heproto]
      dsimp only
      rw [setFrom_eq (ht.withNew o), htspecifier, htproto]
  rw [setOrThrow, bind_ok hproperty]
  rfl

/-- Making an error of the class from the text of a specifier. -/
lemma makeLoadError_eq (hm : Makes m) (h : Host) {i : Invocation} {specifier : Utf16}
    (htarget : i.newTarget = .object Standard.loadError.constructor)
    (harg : i.arg 0 = .text specifier) :
    ∃ message, makeLoadError i h m =
      .ok (.object m.objects.size) (m.withNew (loadError message specifier)) := by
  obtain ⟨c, hc, -, -, hcproto, -⟩ := hm.constructor
  have hproto : getNamed Standard.loadError.constructor "prototype" h m =
      .ok (.object Standard.loadError.proto) m :=
    get_of_owns hc hcproto
  have hfor : protoFor (.object Standard.loadError.constructor) .loadError h m =
      .ok Standard.loadError.proto m := by
    rw [protoFor, bind_ok hproto]
    rfl
  have hallocate : allocateFor (.object Standard.loadError.constructor) .loadError .error h m =
      .ok m.objects.size (m.withNew (errorWith #[])) := by
    rw [allocateFor, bind_ok hfor]
    rfl
  let message : Utf16 := Utf16.join
    [.ofString "require('", specifier, .ofString "') is disabled in templates"]
  have hmessage : storeProperty m.objects.size messageKey (.hidden (.text message)) h
      (m.withNew (errorWith #[])) = .ok () (m.withNew (errorWith (described message))) := by
    have hput : putProperty #[] messageKey (.hidden (.text message)) = described message :=
      putProperty_of_lacks rfl _
    rw [← hput]
    exact storeProperty_withNew (errorWith_isPlain #[]) m _ _
  have hname : setOrThrow m.objects.size nameKey (.ofString loadErrorName) h
      (m.withNew (errorWith (described message))) =
        .ok () (m.withNew (errorWith (named message))) :=
    setOrThrow_errorWith hm (described_lacks_name message) (.inl rfl) _
  have hspecifier : setOrThrow m.objects.size specifierKey (.text specifier) h
      (m.withNew (errorWith (named message))) =
        .ok () (m.withNew (loadError message specifier)) :=
    setOrThrow_errorWith hm (named_lacks_specifier message) (.inr rfl) _
  refine ⟨message, ?_⟩
  rw [makeLoadError, htarget, harg]
  change (allocateFor (.object Standard.loadError.constructor) .loadError .error >>= _) h m = _
  rw [bind_ok hallocate]
  change (storeProperty m.objects.size messageKey (.hidden (.text message)) >>= _) h _ = _
  rw [bind_ok hmessage]
  change (setOrThrow m.objects.size nameKey (.ofString loadErrorName) >>= _) h _ = _
  rw [bind_ok hname]
  change (setOrThrow m.objects.size specifierKey (.text specifier) >>= _) h _ = _
  rw [bind_ok hspecifier]
  rfl

lemma isLoadError_loadError (m : Machine) (message specifier : Utf16) :
    IsLoadError (m.withNew (loadError message specifier)) m.objects.size specifier := by
  have hmessage : findProperty (loadError message specifier).properties messageKey =
      some (.hidden (.text message)) := by
    rw [loadError, errorWith, findProperty_push_of_ne messageKey_ne_specifierKey.symm, named,
      findProperty_push_of_ne messageKey_ne_nameKey.symm]
    have hnone : findProperty #[] messageKey = none := rfl
    exact findProperty_push_self hnone _
  have hname : findProperty (loadError message specifier).properties nameKey =
      some (.plain (.ofString loadErrorName)) := by
    rw [loadError, errorWith, findProperty_push_of_ne nameKey_ne_specifierKey.symm]
    exact findProperty_push_self (described_lacks_name message) _
  have hspecifier : findProperty (loadError message specifier).properties specifierKey =
      some (.plain (.text specifier)) :=
    findProperty_push_self (named_lacks_specifier message) _
  refine ⟨_, message, listed_withNew (errorWith_isPlain _) m, rfl, rfl, ?_, ?_, ?_⟩
  · exact ⟨_, true, hname, rfl⟩
  · exact ⟨_, true, hmessage, rfl⟩
  · exact ⟨_, true, hspecifier, rfl⟩

/-- Whoever calls `require` gets an error of the class thrown, which tells the module. -/
theorem requireModule_throws {m₁ : Machine} {i : Invocation} {specifier : Utf16} {depth : Nat}
    (hm : Makes m₁)
    (hshown : shown (i.arg 0) (hostAt runNative (depth + 1)) m = .ok (.text specifier) m₁) :
    ∃ m₂ error, requireModule i (hostAt runNative (depth + 1)) m =
        .error (.thrown (.object error)) m₂ ∧
      Recognises m₂ ∧ IsLoadError m₂ error specifier := by
  obtain ⟨c, hc, hckind, -⟩ := hm.constructor
  let target := Value.object Standard.loadError.constructor
  let made : Invocation :=
    { this := .undefined, arguments := [.text specifier], newTarget := target,
      callee := Standard.loadError.constructor }
  obtain ⟨message, hmade⟩ := makeLoadError_eq (i := made) hm (hostAt runNative depth) rfl rfl
  have hconstruct : construct target [.text specifier] target (hostAt runNative (depth + 1)) m₁ =
      .ok (.object m₁.objects.size) (m₁.withNew (loadError message specifier)) := by
    change constructValue runNative target [.text specifier] target (hostAt runNative depth) m₁ = _
    rw [constructValue, bind_ok (kindOf_eq hc), hckind]
    exact hmade
  refine ⟨_, _, ?_, hm.toRecognises.withNew _, isLoadError_loadError m₁ message specifier⟩
  rw [requireModule, bind_ok hshown, bind_ok hconstruct]
  rfl

end Stencil.Sandbox
