import Stencil.Proofs.Effects

/-!
# Runs that agree

`Action.Agree` relates two actions: from related states they give the same result, and the states
that they leave are related again. It is closed under sequencing (`Agree.bind`). So two runs agree
as soon as their services and their discoveries do, one question at a time
(`Services.Agree.generate`, `Services.run_agree`). With the same actions on both sides this is what
a run keeps.
-/

namespace Stencil

variable {σ τ α β : Type}

/-! ### Actions -/

/-- From states related by `R` both actions give the same result, and `P` relates the states that
they leave. -/
def Action.Agree (R : σ → τ → Prop) (first : Action σ α) (second : Action τ α)
    (P : Except Failure α → σ → τ → Prop) : Prop :=
  ∀ s t, R s t → ∃ result s' t',
    first.outcome s = (result, s') ∧ second.outcome t = (result, t') ∧ P result s' t'

namespace Action.Agree

variable {R S : σ → τ → Prop} {first : Action σ α} {second : Action τ α}
  {P Q : Except Failure α → σ → τ → Prop}

lemma mono (h : Agree R first second P) (hPQ : ∀ result s t, P result s t → Q result s t) :
    Agree R first second Q := by
  intro s t hR
  obtain ⟨result, s', t', hs, ht, hP⟩ := h s t hR
  exact ⟨result, s', t', hs, ht, hPQ _ _ _ hP⟩

lemma pure {a : α} (h : ∀ s t, R s t → P (.ok a) s t) :
    Agree R (Pure.pure a) (Pure.pure a) P :=
  fun s t hR => ⟨.ok a, s, t, rfl, rfl, h s t hR⟩

lemma throw {failure : Failure} (h : ∀ s t, R s t → P (.error failure) s t) :
    Agree R (MonadExcept.throw failure) (MonadExcept.throw failure) P :=
  fun s t hR => ⟨.error failure, s, t, rfl, rfl, h s t hR⟩

/-- Two actions, each one after another: a failure ends both sides. -/
lemma bind {next : α → Action σ β} {next' : α → Action τ β}
    {Q : Except Failure β → σ → τ → Prop} (h : Agree R first second P)
    (hfail : ∀ failure s t, P (.error failure) s t → Q (.error failure) s t)
    (hnext : ∀ a, Agree (P (.ok a)) (next a) (next' a) Q) :
    Agree R (first >>= next) (second >>= next') Q := by
  intro s t hR
  obtain ⟨failure | a, s', t', hs, ht, hP⟩ := h s t hR
  · exact ⟨_, s', t', outcome_bind_error hs, outcome_bind_error ht, hfail _ _ _ hP⟩
  · obtain ⟨result, s'', t'', hs', ht', hQ⟩ := hnext a s' t' hP
    exact ⟨result, s'', t'', (outcome_bind_ok hs).trans hs', (outcome_bind_ok ht).trans ht', hQ⟩

/-- Two actions that keep a relation, each one after another. -/
lemma seq {next : α → Action σ β} {next' : α → Action τ β}
    (h : Agree S first second fun _ => S)
    (hnext : ∀ a, Agree S (next a) (next' a) fun _ => S) :
    Agree S (first >>= next) (second >>= next') fun _ => S :=
  h.bind (fun _ _ _ => id) hnext

lemma pure_bind {a : α} {next : α → Action σ β} {next' : α → Action τ β}
    {Q : Except Failure β → σ → τ → Prop} (h : Agree R (next a) (next' a) Q) :
    Agree R (Pure.pure a >>= next) (Pure.pure a >>= next') Q :=
  h

lemma throw_bind {failure : Failure} {next : α → Action σ β} {next' : α → Action τ β}
    {Q : Except Failure β → σ → τ → Prop} (h : ∀ s t, R s t → Q (.error failure) s t) :
    Agree R (MonadExcept.throw failure >>= next) (MonadExcept.throw failure >>= next') Q :=
  fun s t hR => ⟨.error failure, s, t, rfl, rfl, h s t hR⟩

/-- An action that cannot fail. -/
lemma lift {p : StateM σ α} {q : StateM τ α}
    (h : ∀ s t, R s t → (p.run s).1 = (q.run t).1 ∧ P (.ok (p.run s).1) (p.run s).2 (q.run t).2) :
    Agree R (liftM p) (liftM q) P := by
  intro s t hR
  obtain ⟨hresult, hP⟩ := h s t hR
  refine ⟨.ok (p.run s).1, (p.run s).2, (q.run t).2, rfl, ?_, hP⟩
  rw [hresult]
  rfl

end Action.Agree

/-! ### One template -/

/-- The names under which generation writes artifacts of a template. -/
inductive Template.Names (template : Template) : String → Prop where
  | single : Names template (template.baseName ++ artifactExtension)
  | item {produced : Option String} {name : String} (h : artifactFileName? produced = .ok name) :
      Names template name

/-- The services of both sides give the same answers in the work on a template. Between templates
the states are related by `R`, and from when the template is evaluated by `S`. -/
structure Services.Agree (first : Services σ) (second : Services τ) (template : Template)
    (R S : σ → τ → Prop) : Prop where
  weaken {s : σ} {t : τ} : S s t → R s t
  instantiate : Action.Agree R (first.instantiate template) (second.instantiate template)
    fun result => if result.isOk then S else R
  inspect (value : ValueRef) :
    Action.Agree S (first.inspect value) (second.inspect value) fun _ => S
  call (function argument : ValueRef) :
    Action.Agree S (first.call function argument) (second.call function argument) fun _ => S
  text (value : ValueRef) :
    Action.Agree S (liftM (first.text? value)) (liftM (second.text? value)) fun _ => S
  json (value : ValueRef) (indent : Option Nat) :
    Action.Agree S (first.json value indent) (second.json value indent) fun _ => S
  write {name : String} (content : String) (hname : template.Names name) :
    Action.Agree S (first.write ⟨template.outputPath name, content⟩)
      (second.write ⟨template.outputPath name, content⟩) fun _ => S
  note (step : Progress) :
    Action.Agree S (liftM (first.note step)) (liftM (second.note step)) fun _ => S

namespace Services.Agree

variable {first : Services σ} {second : Services τ} {template : Template} {R S : σ → τ → Prop}
  (h : Services.Agree first second template R S)
include h

open Action (Agree)

lemma classify (exported : ValueRef) :
    Action.Agree S (Contract.classify first.inspect template.path exported)
      (Contract.classify second.inspect template.path exported) fun _ => S := by
  have hdemand (member : TripleMember) (shape : Shape) :
      Action.Agree S (Contract.demandFunction template.path member shape)
        (Contract.demandFunction template.path member shape) fun _ => S := by
    cases shape with
    | function                           => exact .pure fun _ _ => id
    | array _ | object | primitive _     => exact .throw fun _ _ => id
  have hitems (shape : Shape) :
      Action.Agree S (Contract.demandItems template.path shape)
        (Contract.demandItems template.path shape) fun _ => S := by
    cases shape with
    | array items                        => exact .pure fun _ _ => id
    | function | object | primitive _    => exact .throw fun _ _ => id
  unfold Contract.classify
  refine (h.inspect exported).seq fun shape => ?_
  split
  · exact .pure fun _ _ => id
  · refine (h.inspect _).seq fun shape => (hdemand _ shape).seq fun _ => ?_
    refine (h.inspect _).seq fun shape => (hdemand _ shape).seq fun _ => ?_
    refine (h.inspect _).seq fun shape => (hitems shape).seq fun items => ?_
    exact .pure fun _ _ => id
  · exact .pure fun _ _ => id

lemma generateSingle (pretty : Bool) (data : ValueRef) :
    Action.Agree S (first.generateSingle template pretty data)
      (second.generateSingle template pretty data) fun _ => S := by
  unfold Services.generateSingle
  refine (h.json data _).seq fun content => ?_
  refine (h.write content .single).seq fun _ => (h.note _).seq fun _ => ?_
  exact .pure fun _ _ => id

lemma generateItem (pretty : Bool) (naming making : ValueRef) (index total : Nat)
    (item : ValueRef) :
    Action.Agree S (first.generateItem template pretty naming making index total item)
      (second.generateItem template pretty naming making index total item) fun _ => S := by
  unfold Services.generateItem
  refine (h.call naming item).seq fun name => (h.text name).seq fun text => ?_
  rcases hname : artifactFileName? text with fault | fileName
  · exact .throw_bind fun _ _ => id
  · refine .pure_bind ((h.call making item).seq fun data => (h.json data _).seq fun content => ?_)
    exact (h.write content (.item hname)).seq fun _ => h.note _

lemma generateItems (pretty : Bool) (naming making : ValueRef) (total index : Nat)
    (items : List ValueRef) :
    Action.Agree S (first.generateItems template pretty naming making total index items)
      (second.generateItems template pretty naming making total index items) fun _ => S := by
  induction items generalizing index with
  | nil => exact .pure fun _ _ => id
  | cons item items ih =>
    exact (h.generateItem pretty naming making index total item).seq fun _ => ih _

/-- Generating from one template agrees if the services do. -/
theorem generate (pretty : Bool) :
    Action.Agree R (first.generate template pretty) (second.generate template pretty)
      fun _ => R := by
  unfold Services.generate
  refine h.instantiate.bind (fun failure s t => id) fun exported => ?_
  refine Action.Agree.mono (P := fun _ => S) ?_ fun _ _ _ => h.weaken
  refine (h.classify exported).seq fun contract => ?_
  cases contract with
  | single data                 => exact h.generateSingle pretty data
  | multiple naming making items =>
    exact (h.generateItems pretty naming making _ _ items).seq fun _ => .pure fun _ _ => id
  | invalid found               => exact .throw fun _ _ => id

end Services.Agree

/-! ### All templates -/

variable {first : Services σ} {second : Services τ} {discovery : Discovery σ}
  {discovery' : Discovery τ} {R₀ R : σ → τ → Prop}

/-- Both sides load the same template, and agree in the work on it. -/
def Services.Loads (first : Services σ) (second : Services τ) (discovery : Discovery σ)
    (discovery' : Discovery τ) (R : σ → τ → Prop) (path : String) : Prop :=
  Action.Agree R (discovery.load path) (discovery'.load path) fun result s t =>
    R s t ∧ ∀ template, result = .ok template → ∃ S, Services.Agree first second template R S

lemma Services.generateAll_agree (pretty : Bool) {paths : List String}
    (hload : ∀ path ∈ paths, Services.Loads first second discovery discovery' R path) :
    Action.Agree R (first.generateAll discovery pretty paths)
      (second.generateAll discovery' pretty paths) fun _ => R := by
  induction paths with
  | nil => exact .pure fun _ _ => id
  | cons path paths ih =>
    obtain ⟨hpath, hpaths⟩ := List.forall_mem_cons.mp hload
    unfold Services.generateAll
    refine hpath.bind (fun _ _ _ h => h.1) fun template => ?_
    intro s t ⟨hR, hagree⟩
    obtain ⟨S, hagree⟩ := hagree template rfl
    exact ((hagree.generate pretty).seq fun count => (ih hpaths).seq fun rest =>
      .pure fun _ _ => id) s t hR

/-- Two runs agree if they find the same templates and agree in the work on each. -/
theorem Services.run_agree (pretty : Bool)
    (hscanning : Action.Agree R₀ (liftM discovery.noteScanning) (liftM discovery'.noteScanning)
      fun result s t => result.isOk ∧ R₀ s t)
    (hdiscover : Action.Agree R₀ discovery.discover discovery'.discover fun result s t =>
      R s t ∧ ∀ paths, result = .ok paths →
        ∀ path ∈ paths, Services.Loads first second discovery discovery' R path)
    (hfound : ∀ count, Action.Agree R (liftM (discovery.noteFound count))
      (liftM (discovery'.noteFound count)) fun _ => R) :
    Action.Agree R₀ (first.run discovery pretty) (second.run discovery' pretty)
      fun _ => R := by
  unfold Services.run
  refine hscanning.bind (fun _ _ _ h => nomatch h.1) fun _ s t ⟨_, hR⟩ => ?_
  refine (hdiscover.bind (fun _ _ _ h => h.1) fun paths => ?_) s t hR
  intro s t ⟨hR, hload⟩
  exact ((hfound _).seq fun _ => (generateAll_agree pretty (hload paths rfl)).seq fun artifacts =>
    .pure fun _ _ => id) s t hR

end Stencil
