import Stencil.Proofs.Attribution
import Stencil.Proofs.Starting

/-!
# What templates do not catch

A value that code of a template throws and does not catch leaves the sandbox at one of seven places
(`Workshop.Leaves`), and is turned into the failure of the template. An error of `require` becomes
a failure that tells its module, except when JSON text is made (`Workshop.generate_uncaught`).
-/

namespace Stencil

open Script

/-- Whether a question is to make JSON text. -/
def Effect.isJson : Effect → Bool
  | .json _ _ _ => true
  | _           => false

/-! ### What is told -/

namespace Sandbox

variable {α : Type} {file specifier : String}

/-- What the outside gets to know of a value that leaves the sandbox. -/
def told (s : Sandbox) (v : Value) : Report := ((reportOf (.thrown v)).run s).1

/-- Whether a value that leaves the sandbox has the name of the errors of `require`, and tells this
module. -/
structure Passes (s : Sandbox) (v : Value) (specifier : String) : Prop where
  name : (s.told v).name = loadErrorName
  specifier : (s.told v).specifier.getD "" = specifier

lemma passes_of_isLoadError {s : Sandbox} {r : Ref} {specifier : Utf16}
    (hm : Recognises s.machine) (hr : IsLoadError s.machine r specifier) :
    s.Passes (.object r) specifier.toEscaped := by
  obtain ⟨text, hreport⟩ := report_of_isLoadError hm hr
  have hattempt : (attemptIn (report (.object r))).run s =
      (.ok ⟨loadErrorName, text, some specifier.toEscaped⟩, s) := by
    change attemptIn (report (.object r)) s = _
    rw [attemptIn, hreport]
  have htold : s.told (.object r) = ⟨loadErrorName, text, some specifier.toEscaped⟩ := by
    rw [told, reportOf, StateT.run_bind, hattempt]
    rfl
  constructor <;> rw [htold]
  rfl

lemma toFailure_of_passes {s : Sandbox} {v : Value} (h : s.Passes v specifier) :
    (s.told v).toFailure file = .moduleLoadDisabled file specifier := by
  rw [Report.toFailure, if_pos h.name, h.specifier]

lemma passes_of_toFailure {s : Sandbox} {v : Value} {path : String}
    (h : (s.told v).toFailure path = .moduleLoadDisabled file specifier) :
    s.Passes v specifier := by
  unfold Report.toFailure at h
  split at h <;> cases h
  exact ⟨‹_›, rfl⟩

lemma answer_blame (error : Abrupt) (s : Sandbox) :
    ((blame error : Action Sandbox α).outcome s).1 =
      .error (((reportOf error).run s).1.toFailure s.file) := by
  change Except.error (((reportOf error).run s).1.toFailure ((reportOf error).run s).2.file) = _
  rw [keepsFile_reportOf error s]

end Sandbox

/-! ### Actions that expose values -/

section

variable {σ τ α β : Type} {fileOf : σ → String}

lemma outcome_lift {p : StateM σ α} {a : α} {s s' : σ} (hrun : p.run s = (a, s')) :
    (liftM p : Action σ α).outcome s = (.ok a, s') := by
  change (Except.ok (p.run s).1, (p.run s).2) = _
  rw [hrun]

/-- Whether an action fails if one of the values `U` leaves the sandbox, and tells a module only
then. -/
structure Exposes (fileOf : σ → String) (action : Action σ α) (s : σ)
    (U : Value → Sandbox → Prop) : Prop where
  told {v : Value} {t : Sandbox} (h : U v t) :
    (action.outcome s).1 = .error ((t.told v).toFailure (fileOf s))
  only {path specifier : String}
    (h : (action.outcome s).1 = .error (.moduleLoadDisabled path specifier)) :
    ∃ v t, U v t ∧ t.Passes v specifier

namespace Exposes

variable {action : Action σ α} {s : σ} {U U' : Value → Sandbox → Prop}

lemma congr (h : Exposes fileOf action s U) (hU : ∀ v t, U v t ↔ U' v t) :
    Exposes fileOf action s U' where
  told hv := h.told ((hU _ _).mpr hv)
  only hanswer := by
    obtain ⟨v, t, hv, ht⟩ := h.only hanswer
    exact ⟨v, t, (hU v t).mp hv, ht⟩

lemma succeeds {a : α} (h : (action.outcome s).1 = .ok a) :
    Exposes fileOf action s fun _ _ => False where
  told hv := hv.elim
  only hanswer := nomatch h.symm.trans hanswer

lemma fails {failure : Failure} (h : (action.outcome s).1 = .error failure)
    (hfailure : ∀ path specifier, failure ≠ .moduleLoadDisabled path specifier) :
    Exposes fileOf action s fun _ _ => False where
  told hv := hv.elim
  only hanswer := (hfailure _ _ (Except.error.inj (h.symm.trans hanswer))).elim

/-- An action that answers as another one. -/
lemma transfer {fileOf' : τ → String} {other : Action τ α} {t : τ}
    (h : Exposes fileOf' other t U) (hanswer : (action.outcome s).1 = (other.outcome t).1)
    (hfile : fileOf s = fileOf' t) : Exposes fileOf action s U where
  told hv := by rw [hanswer, hfile, h.told hv]
  only hfail := h.only (hanswer ▸ hfail)

/-- What leaves the sandbox in two actions leaves it in the first, or in the second if the first
succeeds. -/
lemma bind {next : α → Action σ β} {V : α → σ → Value → Sandbox → Prop}
    (h : Exposes fileOf action s U) (hblames : Action.Blames fileOf (fileOf s) action)
    (hnext : ∀ a s', action.outcome s = (.ok a, s') → Exposes fileOf (next a) s' (V a s')) :
    Exposes fileOf (action >>= next) s fun v t =>
      U v t ∨ ∃ a s', action.outcome s = (.ok a, s') ∧ V a s' v t := by
  rcases houtcome : action.outcome s with ⟨failure | a, s'⟩
  · have hbind : (action >>= next).outcome s = (.error failure, s') :=
      Action.outcome_bind_error houtcome
    refine ⟨?_, fun hfail => ?_⟩
    · rintro v t (hv | ⟨_, _, ⟨⟩, -⟩)
      have htold := h.told hv
      rw [houtcome] at htold
      rw [hbind, Except.error.inj htold]
    · rw [hbind] at hfail
      obtain ⟨v, t, hv, ht⟩ := h.only (by rw [houtcome, Except.error.inj hfail])
      exact ⟨v, t, .inl hv, ht⟩
  · have hbind : (action >>= next).outcome s = (next a).outcome s' :=
      Action.outcome_bind_ok houtcome
    have hs' : fileOf s' = fileOf s := by
      have hkeep := (hblames s rfl).1
      rw [houtcome] at hkeep
      exact hkeep
    refine ⟨?_, fun hfail => ?_⟩
    · rintro v t (hv | ⟨a', s'', hok, hV⟩)
      · have htold := h.told hv
        rw [houtcome] at htold
        cases htold
      · cases hok
        rw [hbind, ← hs']
        exact (hnext a s' houtcome).told hV
    · rw [hbind] at hfail
      obtain ⟨v, t, hV, ht⟩ := (hnext a s' houtcome).only hfail
      exact ⟨v, t, .inr ⟨a, s', rfl, hV⟩, ht⟩

/-- What succeeds afterwards exposes nothing more. -/
lemma andThen {next : α → Action σ β} (h : Exposes fileOf action s U)
    (hblames : Action.Blames fileOf (fileOf s) action)
    (hnext : ∀ a s', ∃ b, ((next a).outcome s').1 = .ok b) :
    Exposes fileOf (action >>= next) s U := by
  refine (h.bind hblames fun a s' _ => .succeeds (hnext a s').choose_spec).congr fun v t => ?_
  simp

lemma lift_bind {p : StateM σ α} {next : α → Action σ β} {a : α} {s' : σ}
    (hrun : p.run s = (a, s')) (hfile : fileOf s' = fileOf s)
    (h : Exposes fileOf (next a) s' U) : Exposes fileOf (liftM p >>= next) s U :=
  h.transfer (congrArg Prod.fst (Action.outcome_bind_ok (outcome_lift hrun))) hfile.symm

lemma get_bind {next : σ → Action σ α} (h : Exposes fileOf (next s) s U) :
    Exposes fileOf (get >>= next) s U :=
  h.transfer rfl rfl

lemma set_bind {next : PUnit → Action σ α} {s' : σ} (hfile : fileOf s' = fileOf s)
    (h : Exposes fileOf (next ⟨⟩) s' U) : Exposes fileOf (set s' >>= next) s U :=
  h.transfer rfl hfile.symm

end Exposes

end

/-! ### What leaves sandboxes -/

namespace Sandbox

variable {α : Type}

lemma exposes_blame (error : Abrupt) (s : Sandbox) :
    Exposes Sandbox.file (blame error : Action Sandbox α) s
      fun v t => error = .thrown v ∧ t = s where
  told := by
    rintro v t ⟨rfl, rfl⟩
    exact answer_blame _ _
  only h := by
    rw [answer_blame] at h
    cases error with
    | exhausted => cases h
    | thrown v  => exact ⟨v, s, ⟨rfl, rfl⟩, passes_of_toFailure (Except.error.inj h)⟩

/-- Whether a computation in a sandbox throws a value, and in which state. -/
def Throws (p : StateM Sandbox (Except Abrupt α)) (s : Sandbox) (v : Value) (t : Sandbox) : Prop :=
  p.run s = (.error (.thrown v), t)

variable {p : StateM Sandbox (Except Abrupt α)} {s t t' : Sandbox} {v : Value}

lemma throws_iff_of_error {error : Abrupt} (hrun : p.run s = (.error error, t)) :
    Throws p s v t' ↔ error = .thrown v ∧ t' = t := by
  rw [Throws, hrun]
  constructor
  · rintro ⟨⟩
    exact ⟨rfl, rfl⟩
  · rintro ⟨rfl, rfl⟩
    rfl

lemma not_throws_of_ok {a : α} (hrun : p.run s = (.ok a, t)) : ¬Throws p s v t' :=
  fun h => nomatch hrun.symm.trans h

lemma exposes_compute (p : Exec α) (s : Sandbox) :
    Exposes Sandbox.file (compute p) s (Throws (attemptIn p) s) := by
  rcases hrun : (attemptIn p).run s with ⟨result, t⟩
  have hfile : t.file = s.file := by
    rw [← keepsFile_attemptIn p s, hrun]
  unfold compute
  refine .lift_bind hrun hfile ?_
  cases result with
  | error error => exact (exposes_blame error t).congr fun _ _ => (throws_iff_of_error hrun).symm
  | ok a        =>
    exact (Exposes.succeeds rfl).congr fun _ _ => (iff_false_intro (not_throws_of_ok hrun)).symm

/-- Evaluates a script and what it put off. -/
def settle (code : String) : StateM Sandbox (Except Abrupt Value) := do
  let result ← attemptIn (evaluateText (wrapped code))
  runJobs
  return result

lemma exposes_evaluate (code : String) (s : Sandbox) :
    Exposes Sandbox.file (evaluate code) s fun v t =>
      Throws (settle code) s v t ∨
        ∃ done s', (settle code).run s = (.ok done, s') ∧
          Throws (attemptIn defaultExport) s' v t := by
  rcases hrun : (attemptIn (evaluateText (wrapped code))).run s with ⟨result, s₁⟩
  have hfile : s₁.file = s.file := by
    rw [← keepsFile_attemptIn (evaluateText (wrapped code)) s, hrun]
  have hsettle : (settle code).run s = (result, (runJobs.run s₁).2) := by
    rw [settle, StateT.run_bind, hrun]
    rfl
  unfold evaluate
  refine .lift_bind hrun hfile (.lift_bind rfl (keepsFile_runJobs s₁) ?_)
  cases result with
  | error error =>
    refine (exposes_blame error _).congr fun v t => ?_
    rw [throws_iff_of_error hsettle]
    refine ⟨.inl, fun h => h.resolve_right ?_⟩
    rintro ⟨_, _, hok, -⟩
    cases hsettle.symm.trans hok
  | ok done     =>
    refine (exposes_compute defaultExport _).congr fun v t => ?_
    constructor
    · exact fun h => .inr ⟨done, _, hsettle, h⟩
    · rintro (h | ⟨_, _, hok, h⟩)
      · exact (not_throws_of_ok hsettle h).elim
      · cases hsettle.symm.trans hok
        exact h

/-- Whether a value leaves the sandbox while a promise is waited for: it rejects with the value, or
the callback of a timer throws it. -/
inductive Wakes (record : Ref) (s : Sandbox) (v : Value) : Sandbox → Prop where
  | rejection {machine : Machine}
      (h : (waiter record).wait turnLimit s.machine = (.settled (.error (.thrown v)), machine)) :
      Wakes record s v { s with machine }
  | timer {machine : Machine}
      (h : (waiter record).wait turnLimit s.machine = (.interrupted (.thrown v), machine)) :
      Wakes record s v { s with machine }

lemma wakes_iff {record : Ref} {s t : Sandbox} {v : Value} {outcome : Wait Abrupt Value}
    {machine : Machine} (hwait : (waiter record).wait turnLimit s.machine = (outcome, machine)) :
    Wakes record s v t ↔ (outcome = .settled (.error (.thrown v)) ∨
      outcome = .interrupted (.thrown v)) ∧ t = { s with machine } := by
  constructor
  · rintro (h | h) <;> cases hwait.symm.trans h
    · exact ⟨.inl rfl, rfl⟩
    · exact ⟨.inr rfl, rfl⟩
  · rintro ⟨rfl | rfl, rfl⟩
    · exact .rejection hwait
    · exact .timer hwait

lemma exposes_resolve (record : Ref) (s : Sandbox) :
    Exposes Sandbox.file (resolve (.deferred record)) s (Wakes record s) := by
  unfold resolve
  refine .get_bind ?_
  dsimp only
  rcases hwait : (waiter record).wait turnLimit s.machine with ⟨outcome, machine⟩
  refine .set_bind rfl ?_
  cases outcome with
  | settled result    =>
    cases result with
    | ok value    => exact (Exposes.succeeds rfl).congr (by simp [wakes_iff hwait])
    | error error => exact (exposes_blame error _).congr (by simp [wakes_iff hwait])
  | interrupted error => exact (exposes_blame error _).congr (by simp [wakes_iff hwait])
  | neverSettled      =>
    refine (Exposes.fails rfl ?_).congr (by simp [wakes_iff hwait])
    exact fun _ _ => nofun
  | exhausted         => exact (exposes_blame .exhausted _).congr (by simp [wakes_iff hwait])

/-- No module is told of a value that leaves the sandbox while JSON text is made. -/
lemma answer_json_of_throws {value v : Value} {indent : Option Nat} {s t : Sandbox}
    (h : Throws (attemptIn (writeJson value indent)) s v t) :
    ((json value indent).outcome s).1 =
      .error (.serialization s.file (.thrown (t.told v).text)) := by
  rcases hreport : (reportOf (.thrown v)).run t with ⟨r, t'⟩
  have hfile : t'.file = s.file := by
    rw [← keepsFile_attemptIn (writeJson value indent) s, h, ← keepsFile_reportOf (.thrown v) t,
      hreport]
  have htold : t.told v = r := congrArg Prod.fst hreport
  unfold json
  rw [Action.outcome_bind_ok (outcome_lift h)]
  dsimp only
  rw [Action.outcome_bind_ok (outcome_lift hreport), htold, ← hfile]
  rfl

lemma serialization_of_json {value : Value} {indent : Option Nat} {s : Sandbox} {failure : Failure}
    (h : ((json value indent).outcome s).1 = .error failure) :
    ∃ file fault, failure = .serialization file fault := by
  unfold json at h
  rcases hrun : (attemptIn (writeJson value indent)).run s with ⟨result, t⟩
  rw [Action.outcome_bind_ok (outcome_lift hrun)] at h
  split at h
  · cases h
  · cases h
    exact ⟨_, _, rfl⟩
  · rcases hreport : (reportOf ‹Abrupt›).run t with ⟨r, t'⟩
    rw [Action.outcome_bind_ok (outcome_lift hreport)] at h
    cases h
    exact ⟨_, _, rfl⟩

end Sandbox

/-! ### What leaves workshops -/

namespace Workshop

open Sandbox (Throws Wakes)

variable {ω α β : Type}

/-- The values that leave the sandbox when a question about a template is answered, and the sandbox
that they leave. -/
inductive Leaves (w : Workshop ω) : Effect → Value → Sandbox → Prop where
  /-- The module throws the value. -/
  | module {template : Template} {answer : Except Failure ValueRef} {script : String} {v : Value}
      {s : Sandbox} (hloads : demandNoLoads template.source template.path = .ok ())
      (hscript : transpile template.source template.path = .ok script)
      (h : Throws (Sandbox.settle script) (.new template.path) v s) :
      Leaves w (.instantiate template answer) v s
  /-- A getter throws the value when the default export is read. -/
  | defaultExport {template : Template} {answer : Except Failure ValueRef} {script : String}
      {v done : Value} {s t : Sandbox}
      (hloads : demandNoLoads template.source template.path = .ok ())
      (hscript : transpile template.source template.path = .ok script)
      (hsettle : (Sandbox.settle script).run (.new template.path) = (.ok done, s))
      (h : Throws (Sandbox.attemptIn Sandbox.defaultExport) s v t) :
      Leaves w (.instantiate template answer) v t
  /-- A getter throws the value when the elements of an array are read. -/
  | elements {ref : ValueRef} {answer : Except Failure Shape} {value v : Value} {s : Sandbox}
      (hvalue : w.values[ref.index]? = some value)
      (h : Throws (Sandbox.attemptIn (Sandbox.readElements value)) w.sandbox v s) :
      Leaves w (.inspect ref answer) v s
  /-- A function of the template throws the value. -/
  | producer {function argument : ValueRef} {answer : Except Failure ValueRef} {f x v : Value}
      {s : Sandbox} (hf : w.values[function.index]? = some f)
      (hcallable : isFunction w.sandbox.machine f) (hx : w.values[argument.index]? = some x)
      (h : Throws (Sandbox.attemptIn (Sandbox.produce f x)) w.sandbox v s) :
      Leaves w (.call function argument answer) v s
  /-- The value leaves the sandbox while the promise is waited for that a function gave. -/
  | promise {function argument : ValueRef} {answer : Except Failure ValueRef} {f x v : Value}
      {record : Ref} {w' : Workshop ω} {s : Sandbox} (hf : w.values[function.index]? = some f)
      (hcallable : isFunction w.sandbox.machine f) (hx : w.values[argument.index]? = some x)
      (hcall : (inSandbox (Sandbox.callProducer f x)).outcome w = (.ok (.deferred record), w'))
      (h : Wakes record w'.sandbox v s) :
      Leaves w (.call function argument answer) v s
  /-- A `toJSON` method or a getter throws the value when JSON text is made. -/
  | json {ref : ValueRef} {indent : Option Nat} {answer : Except Failure String} {value v : Value}
      {s : Sandbox} (hvalue : w.values[ref.index]? = some value)
      (h : Throws (Sandbox.attemptIn (Sandbox.writeJson value indent)) w.sandbox v s) :
      Leaves w (.json ref indent answer) v s

lemma exposes_inSandbox {p : Action Sandbox α} {w : Workshop ω} {U : Value → Sandbox → Prop}
    (h : Exposes Sandbox.file p w.sandbox U) : Exposes Workshop.file (inSandbox p) w U :=
  h.transfer rfl rfl

lemma outcome_value (ref : ValueRef) (w : Workshop ω) :
    (value ref).outcome w = match w.values[ref.index]? with
      | some v => (.ok v, w)
      | none   => (.error (.evaluation w.sandbox.file (.unknownValue ref.index)), w) := by
  change Action.outcome (match w.values[ref.index]? with
    | some v => pure v
    | none   => throw (.evaluation w.sandbox.file (.unknownValue ref.index))) w = _
  rcases w.values[ref.index]? with _ | v <;> rfl

/-- What follows a look at a value that was handed out. -/
lemma exposes_value_bind {ref : ValueRef} {next : Value → Action (Workshop ω) α} {w : Workshop ω}
    {U : Value → Value → Sandbox → Prop}
    (h : ∀ value, w.values[ref.index]? = some value →
      Exposes Workshop.file (next value) w (U value)) :
    Exposes Workshop.file (value ref >>= next) w fun v t =>
      ∃ value, w.values[ref.index]? = some value ∧ U value v t := by
  have houtcome := outcome_value ref w
  rcases hvalue : w.values[ref.index]? with _ | x <;> rw [hvalue] at houtcome
  · refine (Exposes.fails (congrArg Prod.fst (Action.outcome_bind_error houtcome)) ?_).congr ?_
    · exact fun _ _ => nofun
    · simp
  · have hnext := (h x hvalue).transfer (congrArg Prod.fst (Action.outcome_bind_ok houtcome)) rfl
    exact hnext.congr (by simp)

/-- Templates that are refused beforehand are not told to load a module. -/
lemma not_disabled_of_refused {source file path specifier : String} {failure : Failure}
    (h : demandNoLoads source file = .error failure ∨ transpile source file = .error failure) :
    failure ≠ .moduleLoadDisabled path specifier := by
  rintro rfl
  rcases h with h | h
  · unfold demandNoLoads at h
    split at h <;> cases h
  · unfold transpile at h
    dsimp only at h
    split at h <;> cases h

lemma exposes_instantiate (template : Template) (w : Workshop ω)
    (answer : Except Failure ValueRef) :
    Exposes (fun _ => template.path) (instantiate template) w
      (w.Leaves (.instantiate template answer)) := by
  rcases outcome_instantiate template w with ⟨failure, hrefused, h⟩ | ⟨script, hloads, hscript, h⟩
  · refine (Exposes.fails (congrArg Prod.fst h) ?_).congr fun v t => ?_
    · exact fun _ _ => not_disabled_of_refused hrefused
    · refine ⟨False.elim, ?_⟩
      rintro (⟨hloads, hscript, -⟩ | ⟨hloads, hscript, -, -⟩) <;>
        rcases hrefused with hrefused | hrefused
      · cases hloads.symm.trans hrefused
      · cases hscript.symm.trans hrefused
      · cases hloads.symm.trans hrefused
      · cases hscript.symm.trans hrefused
  · have hwork := exposes_inSandbox (w := w.renewed template)
      (Sandbox.exposes_evaluate script (.new template.path))
    have hkeep : Exposes Workshop.file (inSandbox (Sandbox.evaluate script) >>= keep)
        (w.renewed template) _ :=
      hwork.andThen (blames_inSandbox (Sandbox.blames_evaluate script))
        fun v w' => ⟨⟨w'.values.size⟩, rfl⟩
    have hall : Exposes (fun _ => template.path) (instantiate template) w _ :=
      hkeep.transfer (by rw [h]) rfl
    refine hall.congr fun v t => ⟨?_, ?_⟩
    · rintro (hthrows | ⟨done, s, hsettle, hthrows⟩)
      · exact .module hloads hscript hthrows
      · exact .defaultExport hloads hscript hsettle hthrows
    · rintro (⟨-, hscript', hthrows⟩ | ⟨-, hscript', hsettle, hthrows⟩) <;>
        cases hscript.symm.trans hscript'
      · exact .inl hthrows
      · exact .inr ⟨_, _, hsettle, hthrows⟩

lemma exists_outcome_mapM_keep (elements : List Value) (w : Workshop ω) :
    ∃ refs w', (elements.mapM keep).outcome w = (.ok refs, w') := by
  induction elements generalizing w with
  | nil => exact ⟨[], w, rfl⟩
  | cons v elements ih =>
    have hkeep : (keep v).outcome w =
        (.ok ⟨w.values.size⟩, { w with values := w.values.push v }) := rfl
    obtain ⟨refs, w', hrest⟩ := ih { w with values := w.values.push v }
    rw [List.mapM_cons, Action.outcome_bind_ok hkeep, Action.outcome_bind_ok hrest]
    exact ⟨_, _, rfl⟩

lemma exposes_inspect (ref : ValueRef) (w : Workshop ω) (answer : Except Failure Shape) :
    Exposes Workshop.file (inspect ref) w (w.Leaves (.inspect ref answer)) := by
  have hread (x : Value) : Exposes Workshop.file (inSandbox (Sandbox.elements? x)) w
      (Throws (Sandbox.attemptIn (Sandbox.readElements x)) w.sandbox) :=
    exposes_inSandbox (Sandbox.exposes_compute _ _)
  refine (exposes_value_bind fun x _ => (hread x).andThen
    (blames_inSandbox (Sandbox.blames_compute _)) ?_).congr fun v t => ⟨?_, fun h => ?_⟩
  · rintro (_ | elements) w'
    · change ∃ shape, (Action.outcome (if isFunction w'.sandbox.machine x then pure Shape.function
        else if x.isObject then pure Shape.object
        else pure (Shape.primitive (Sandbox.describe w'.sandbox.machine x))) w').1 = .ok shape
      split
      · exact ⟨_, rfl⟩
      split
      · exact ⟨_, rfl⟩
      · exact ⟨_, rfl⟩
    · obtain ⟨refs, w'', h⟩ := exists_outcome_mapM_keep elements w'
      exact ⟨.array refs, congrArg Prod.fst (Action.outcome_bind_ok h)⟩
  · rintro ⟨x, hvalue, h⟩
    exact .elements hvalue h
  · cases h with
    | elements hvalue h => exact ⟨_, hvalue, h⟩

/-- What leaves the sandbox when a function is called and its result is waited for. -/
lemma exposes_produce (f x : Value) (w : Workshop ω) :
    Exposes Workshop.file (do
      let produced ← inSandbox (Sandbox.callProducer f x)
      keep (← inSandbox (Sandbox.resolve produced))) w fun v t =>
        Throws (Sandbox.attemptIn (Sandbox.produce f x)) w.sandbox v t ∨
          ∃ record w', (inSandbox (Sandbox.callProducer f x)).outcome w =
            (.ok (.deferred record), w') ∧ Wakes record w'.sandbox v t := by
  have hresolve (produced : Produced Ref Value) (w' : Workshop ω) :
      Exposes Workshop.file (inSandbox (Sandbox.resolve produced) >>= keep) w' fun v t =>
        ∃ record, produced = .deferred record ∧ Wakes record w'.sandbox v t := by
    have hwait : Exposes Sandbox.file (Sandbox.resolve produced) w'.sandbox fun v t =>
        ∃ record, produced = .deferred record ∧ Wakes record w'.sandbox v t := by
      cases produced with
      | ready v         => exact (Exposes.succeeds rfl).congr (by simp)
      | deferred record => exact (Sandbox.exposes_resolve record _).congr (by simp)
    exact (exposes_inSandbox hwait).andThen (blames_inSandbox (Sandbox.blames_resolve produced))
      fun v w'' => ⟨⟨w''.values.size⟩, rfl⟩
  have hcall : Exposes Workshop.file (inSandbox (Sandbox.callProducer f x)) w
      (Throws (Sandbox.attemptIn (Sandbox.produce f x)) w.sandbox) :=
    exposes_inSandbox (Sandbox.exposes_compute _ _)
  refine (hcall.bind (blames_inSandbox (Sandbox.blames_compute _))
    fun produced w' _ => hresolve produced w').congr fun v t => or_congr_right ⟨?_, ?_⟩
  · rintro ⟨_, w', hproduced, record, rfl, h⟩
    exact ⟨record, w', hproduced, h⟩
  · rintro ⟨record, w', hproduced, h⟩
    exact ⟨_, w', hproduced, record, rfl, h⟩

lemma exposes_call (function argument : ValueRef) (w : Workshop ω)
    (answer : Except Failure ValueRef) :
    Exposes Workshop.file (call function argument) w
      (w.Leaves (.call function argument answer)) := by
  refine (exposes_value_bind (U := fun f v t => isFunction w.sandbox.machine f ∧
    ∃ x, w.values[argument.index]? = some x ∧
      (Throws (Sandbox.attemptIn (Sandbox.produce f x)) w.sandbox v t ∨
        ∃ record w', (inSandbox (Sandbox.callProducer f x)).outcome w =
          (.ok (.deferred record), w') ∧ Wakes record w'.sandbox v t))
    fun f _ => .get_bind ?_).congr fun v t => ⟨?_, fun h => ?_⟩
  · dsimp only
    split
    · rename_i hcallable
      exact (exposes_value_bind fun x _ => exposes_produce f x w).congr (by simp [hcallable])
    · rename_i hcallable
      refine (Exposes.fails rfl ?_).congr (by simp [hcallable])
      exact fun _ _ => nofun
  · rintro ⟨f, hf, hcallable, x, hx, h | ⟨record, w', hcall, h⟩⟩
    · exact .producer hf hcallable hx h
    · exact .promise hf hcallable hx hcall h
  · cases h with
    | producer hf hcallable hx h      => exact ⟨_, hf, hcallable, _, hx, .inl h⟩
    | promise hf hcallable hx hcall h => exact ⟨_, hf, hcallable, _, hx, .inr ⟨_, _, hcall, h⟩⟩

/-! ### Questions -/

/-- The failure of a template from which a value leaves the sandbox, in answer to a question. -/
def failureOf (file : String) (r : Sandbox.Report) : Effect → Failure
  | .json _ _ _ => .serialization file (.thrown r.text)
  | _           => r.toFailure file

lemma failureOf_of_passes {s : Sandbox} {v : Value} {file specifier : String} {effect : Effect}
    (h : s.Passes v specifier) :
    failureOf file (s.told v) effect =
      if effect.isJson then .serialization file (.thrown (s.told v).text)
      else .moduleLoadDisabled file specifier := by
  cases effect with
  | json ref indent answer => rfl
  | discover | load | instantiate | inspect | call | text | write =>
    exact Sandbox.toFailure_of_passes h

variable {write : Artifact → Action ω Unit} {template : Template} {w : Workshop ω}
  {effect : Effect} {v : Value} {s : Sandbox}

lemma answer_json (ref : ValueRef) (indent : Option Nat) {x : Value}
    (hvalue : w.values[ref.index]? = some x) :
    ((json ref indent).outcome w).1 = ((Sandbox.json x indent).outcome w.sandbox).1 := by
  have hx := outcome_value ref w
  rw [hvalue] at hx
  exact congrArg Prod.fst (Action.outcome_bind_ok hx)

/-- A value that leaves the sandbox is what a question fails with. -/
lemma failure?_of_leaves
    (hasks : (services write).Asks template (fun w => Workshop.file w = template.path) w effect)
    (h : w.Leaves effect v s) :
    effect.failure? = some (failureOf template.path (s.told v) effect) := by
  obtain ⟨hanswers, hinside⟩ := hasks
  cases effect with
  | discover answer | load path answer | text value answer | write artifact answer => cases h
  | instantiate other answer =>
    obtain rfl : other = template := hinside
    obtain rfl := hanswers.symm.trans ((exposes_instantiate other w answer).told h)
    rfl
  | inspect value answer =>
    obtain rfl := hanswers.symm.trans ((exposes_inspect value w answer).told h)
    exact congrArg (fun file => some (Sandbox.Report.toFailure file _)) hinside
  | call function argument answer =>
    obtain rfl := hanswers.symm.trans ((exposes_call function argument w answer).told h)
    exact congrArg (fun file => some (Sandbox.Report.toFailure file _)) hinside
  | json value indent answer =>
    cases h with
    | json hvalue h =>
      obtain rfl := hanswers.symm.trans
        ((answer_json value indent hvalue).trans (Sandbox.answer_json_of_throws h))
      exact congrArg (fun file => some (Failure.serialization file _)) hinside

/-- A module is told only of values that leave the sandbox, and never when JSON text is made. -/
lemma leaves_of_disabled {path specifier : String}
    (hasks : (services write).Asks template (fun w => Workshop.file w = template.path) w effect)
    (hfailure : effect.failure? = some (.moduleLoadDisabled path specifier)) :
    (∃ artifact, effect = .write artifact (.error (.moduleLoadDisabled path specifier))) ∨
      effect.isJson = false ∧ ∃ v s, w.Leaves effect v s ∧ s.Passes v specifier := by
  obtain ⟨hanswers, hinside⟩ := hasks
  cases effect with
  | discover answer | load path answer => exact hanswers.elim
  | text value answer => cases hfailure
  | instantiate other answer =>
    obtain rfl : other = template := hinside
    rcases answer with failure | _ <;> cases hfailure
    exact .inr ⟨rfl, (exposes_instantiate other w _).only hanswers⟩
  | inspect value answer =>
    rcases answer with failure | _ <;> cases hfailure
    exact .inr ⟨rfl, (exposes_inspect value w _).only hanswers⟩
  | call function argument answer =>
    rcases answer with failure | _ <;> cases hfailure
    exact .inr ⟨rfl, (exposes_call function argument w _).only hanswers⟩
  | json value indent answer =>
    rcases answer with failure | _ <;> cases hfailure
    have hx := outcome_value value w
    rcases hvalue : w.values[value.index]? with _ | x
    · rw [hvalue] at hx
      cases (congrArg Prod.fst (Action.outcome_bind_error hx)).symm.trans hanswers
    · obtain ⟨_, _, h⟩ :=
        Sandbox.serialization_of_json ((answer_json value indent hvalue).symm.trans hanswers)
      cases h
  | write artifact answer =>
    rcases answer with failure | _ <;> cases hfailure
    exact .inl ⟨artifact, rfl⟩

/-- What a template does not catch. Each load of a module throws an error of a class of its own,
which tells the module, and is told by it, as long as the template leaves the class as it was at the
start. If a value that tells a module leaves the sandbox, the generation fails with the failure that
tells the module, except when JSON text is made: then only the text of the error is told. Apart from
the place for output, a module is told only of such values. -/
theorem generate_uncaught (write : Artifact → Action ω Unit) (template : Template) (pretty : Bool)
    (w : Workshop ω) :
    Sandbox.Makes (Sandbox.new template.path).machine ∧
    (∀ (m m₁ : Machine) (i : Invocation) (specifier : Utf16) (depth : Nat), Sandbox.Makes m₁ →
      Sandbox.shown (i.arg 0) (hostAt Sandbox.runNative (depth + 1)) m = .ok (.text specifier) m₁ →
      ∃ m₂ error, Sandbox.requireModule i (hostAt Sandbox.runNative (depth + 1)) m =
          .error (.thrown (.object error)) m₂ ∧
        Sandbox.Recognises m₂ ∧ Sandbox.IsLoadError m₂ error specifier) ∧
    (∀ (s : Sandbox) (error : Ref) (specifier : Utf16), Sandbox.Recognises s.machine →
      Sandbox.IsLoadError s.machine error specifier →
      s.Passes (.object error) specifier.toEscaped) ∧
    ∃ result w' log,
      ((services write).generate template pretty).outcome w = (result, w') ∧
      ((services write).logged.generate template pretty).outcome (w, []) = (result, w', log) ∧
      (∀ before ∈ log, ∀ v s specifier, before.1.Leaves before.2 v s → s.Passes v specifier →
        result = .error (if before.2.isJson then
          .serialization template.path (.thrown (s.told v).text)
        else .moduleLoadDisabled template.path specifier)) ∧
      ∀ path specifier, result = .error (.moduleLoadDisabled path specifier) →
        ∃ front before effect, log = front ++ [(before, effect)] ∧
          ((∃ artifact, effect = .write artifact (.error (.moduleLoadDisabled path specifier))) ∨
          path = template.path ∧ effect.isJson = false ∧
            ∃ v s, before.Leaves effect v s ∧ s.Passes v specifier) := by
  obtain ⟨result, w', log, hrun, -, hlogged, hasks, hfails, hcause⟩ :=
    (keeps_file write template).generate_logged pretty w
  refine ⟨Sandbox.makes_start, fun _ _ _ _ _ => Sandbox.requireModule_throws,
    fun _ _ _ => Sandbox.passes_of_isLoadError, result, w', log, hrun, hlogged, ?_, ?_⟩
  · intro before hbefore v s specifier hleaves hpasses
    have hfailure := failure?_of_leaves (hasks before hbefore) hleaves
    rw [hfails before hbefore _ hfailure, failureOf_of_passes hpasses]
  · intro path specifier hresult
    rcases hcause _ hresult with hrefuses | ⟨front, before, effect, rfl, hfailure⟩
    · cases hrefuses
    have hask := hasks (before, effect) (List.mem_append_right _ (List.mem_singleton_self _))
    refine ⟨front, before, effect, rfl, ?_⟩
    rcases leaves_of_disabled hask hfailure with hwrite | ⟨hjson, v, s, hleaves, hpasses⟩
    · exact .inl hwrite
    have hpath : path = template.path := by
      have hanswer := failure?_of_leaves hask hleaves
      rw [hfailure, failureOf_of_passes hpasses, hjson] at hanswer
      cases hanswer
      rfl
    exact .inr ⟨hpath, hjson, v, s, hleaves, hpasses⟩

end Workshop

end Stencil
