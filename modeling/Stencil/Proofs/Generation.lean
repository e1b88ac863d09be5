import Stencil.Proofs.Effects

/-!
# What generation does

The effects of generating from one template, for all services: what is asked for, in which order,
and what is left undone after the first failure.

`ItemTrace` lists the ways in which the work on one item can go. `FinishedItems` strings together
those of items that came through, and `generate_effects` states the whole: nothing is written
unless the export has one of the two forms, an object gives at most one artifact, and a triple
gives the artifacts of the items before the first failure.
-/

namespace Stencil

open Stencil.Action (Records)

variable {σ : Type}

/-! ### One item -/

/-- The effects of the work on one item, the `index`-th, and what came of it: the artifact that was
written, or the failure of the first step that failed. Each way ends at that step. -/
inductive ItemTrace (template : Template) (pretty : Bool) (naming making : ValueRef)
    (index : Nat) (item : ValueRef) : Trace → Except Failure Artifact → Prop where
  | namingFails {failure : Failure} :
      ItemTrace template pretty naming making index item
        [.call naming item (.error failure)] (.error failure)
  | nameRefused {name : ValueRef} {text : Option String} {fault : NameFault}
      (hname : artifactFileName? text = .error fault) :
      ItemTrace template pretty naming making index item
        [.call naming item (.ok name), .text name text]
        (.error (.invalidName template.path index fault))
  | makingFails {name : ValueRef} {text : Option String} {fileName : String} {failure : Failure}
      (hname : artifactFileName? text = .ok fileName) :
      ItemTrace template pretty naming making index item
        [.call naming item (.ok name), .text name text, .call making item (.error failure)]
        (.error failure)
  | jsonFails {name data : ValueRef} {text : Option String} {fileName : String}
      {failure : Failure} (hname : artifactFileName? text = .ok fileName) :
      ItemTrace template pretty naming making index item
        [.call naming item (.ok name), .text name text, .call making item (.ok data),
         .json data (indentFor pretty itemIndent) (.error failure)]
        (.error failure)
  | writeFails {name data : ValueRef} {text : Option String} {fileName content : String}
      {failure : Failure} (hname : artifactFileName? text = .ok fileName) :
      ItemTrace template pretty naming making index item
        [.call naming item (.ok name), .text name text, .call making item (.ok data),
         .json data (indentFor pretty itemIndent) (.ok content),
         .write ⟨template.outputPath fileName, content⟩ (.error failure)]
        (.error failure)
  | written {name data : ValueRef} {text : Option String} {fileName content : String}
      (hname : artifactFileName? text = .ok fileName) :
      ItemTrace template pretty naming making index item
        [.call naming item (.ok name), .text name text, .call making item (.ok data),
         .json data (indentFor pretty itemIndent) (.ok content),
         .write ⟨template.outputPath fileName, content⟩ (.ok ())]
        (.ok ⟨template.outputPath fileName, content⟩)

namespace ItemTrace

variable {template : Template} {pretty : Bool} {naming making item : ValueRef} {index : Nat}
  {trace : Trace} {artifact : Artifact} {failure : Failure}

lemma inner {result : Except Failure Artifact}
    (h : ItemTrace template pretty naming making index item trace result) : trace.Inner := by
  cases h <;> simp [Trace.Inner, Effect.isInner]

lemma written_ok (h : ItemTrace template pretty naming making index item trace (.ok artifact)) :
    trace.written = [artifact] := by
  cases h
  rfl

lemma written_error
    (h : ItemTrace template pretty naming making index item trace (.error failure)) :
    trace.written = [] := by
  cases h <;> rfl

end ItemTrace

lemma Services.generateItem_records (services : Services σ) (template : Template) (pretty : Bool)
    (naming making : ValueRef) (index total : Nat) (item : ValueRef) :
    Records (services.generateItem template pretty naming making index total item)
      (services.recorded.generateItem template pretty naming making index total item)
      fun trace result => ∃ outcome,
        ItemTrace template pretty naming making index item trace outcome ∧
        result = outcome.map fun _ => () := by
  unfold generateItem
  refine .recording_bind (fun failure => ⟨_, .namingFails, rfl⟩) fun name => ?_
  refine .text_bind fun text => ?_
  rcases hname : artifactFileName? text with fault | fileName <;> dsimp only
  · exact .throw_bind ⟨_, .nameRefused hname, rfl⟩
  refine .pure_bind ?_
  refine .recording_bind (fun failure => ⟨_, .makingFails hname, rfl⟩) fun data => ?_
  refine .recording_bind (fun failure => ⟨_, .jsonFails hname, rfl⟩) fun content => ?_
  refine .recording_bind (fun failure => ⟨_, .writeFails hname, rfl⟩) fun _ => ?_
  exact .note (fun _ _ => rfl) ⟨_, .written hname, rfl⟩

/-! ### All items -/

/-- The effects of items that all came through, from the `index`-th on, and their artifacts. -/
inductive FinishedItems (template : Template) (pretty : Bool) (naming making : ValueRef) :
    Nat → List ValueRef → Trace → List Artifact → Prop where
  | nil {index : Nat} : FinishedItems template pretty naming making index [] [] []
  | cons {index : Nat} {item : ValueRef} {items : List ValueRef} {first rest : Trace}
      {artifact : Artifact} {artifacts : List Artifact}
      (hitem : ItemTrace template pretty naming making index item first (.ok artifact))
      (hitems : FinishedItems template pretty naming making (index + 1) items rest artifacts) :
      FinishedItems template pretty naming making index (item :: items) (first ++ rest)
        (artifact :: artifacts)

namespace FinishedItems

variable {template : Template} {pretty : Bool} {naming making : ValueRef} {index : Nat}
  {items : List ValueRef} {trace : Trace} {artifacts : List Artifact}

lemma inner (h : FinishedItems template pretty naming making index items trace artifacts) :
    trace.Inner := by
  induction h with
  | nil             => exact List.forall_mem_nil _
  | cons hitem _ ih => exact hitem.inner.append ih

lemma length_eq (h : FinishedItems template pretty naming making index items trace artifacts) :
    artifacts.length = items.length := by
  induction h with
  | nil           => rfl
  | cons _ _ ih => rw [List.length_cons, List.length_cons, ih]

end FinishedItems

/-- The effects of items one after another, from the `index`-th on: those before the first failure
came through, and nothing is done after it. -/
def ItemsTrace (template : Template) (pretty : Bool) (naming making : ValueRef) (index : Nat)
    (items : List ValueRef) (trace : Trace) (result : Except Failure Unit) : Prop :=
  ∃ done later finished last artifacts,
    items = done ++ later ∧ trace = finished ++ last ∧
    FinishedItems template pretty naming making index done finished artifacts ∧
    trace.written = artifacts ∧
    ((later = [] ∧ last = [] ∧ result = .ok ()) ∨
      ∃ item pending failure, later = item :: pending ∧
        ItemTrace template pretty naming making (index + done.length) item last
          (.error failure) ∧
        result = .error failure)

lemma ItemsTrace.inner {template : Template} {pretty : Bool} {naming making : ValueRef}
    {index : Nat} {items : List ValueRef} {trace : Trace} {result : Except Failure Unit}
    (h : ItemsTrace template pretty naming making index items trace result) : trace.Inner := by
  obtain ⟨_, _, _, _, _, _, rfl, hdone, _, ⟨_, rfl, _⟩ | ⟨_, _, _, _, hitem, _⟩⟩ := h
  · exact hdone.inner.append (List.forall_mem_nil _)
  · exact hdone.inner.append hitem.inner

lemma Services.generateItems_records (services : Services σ) (template : Template)
    (pretty : Bool) (naming making : ValueRef) (total index : Nat) (items : List ValueRef) :
    Records (services.generateItems template pretty naming making total index items)
      (services.recorded.generateItems template pretty naming making total index items)
      (ItemsTrace template pretty naming making index items) := by
  induction items generalizing index with
  | nil =>
    exact .pure ⟨[], [], [], [], [], rfl, rfl, .nil, rfl, .inl ⟨rfl, rfl, rfl⟩⟩
  | cons item items ih =>
    refine (services.generateItem_records template pretty naming making index total item).bind
      ?_ ?_
    · rintro last failure ⟨_ | _, hitem, h⟩ <;> cases h
      refine ⟨[], item :: items, [], last, [], rfl, rfl, .nil, hitem.written_error, .inr ?_⟩
      exact ⟨item, items, failure, rfl, hitem, rfl⟩
    · rintro _ first ⟨_ | artifact, hitem, h⟩ <;> cases h
      refine (ih (index + 1)).mono ?_
      rintro _ result ⟨done, later, finished, last, artifacts, rfl, rfl, hdone, hwritten, hlast⟩
      refine ⟨item :: done, later, first ++ finished, last, artifact :: artifacts, rfl,
        by rw [List.append_assoc], .cons hitem hdone, ?_, ?_⟩
      · rw [Trace.written_append, hitem.written_ok, hwritten]
        rfl
      · rwa [List.length_cons, Nat.add_comm done.length 1, ← Nat.add_assoc]

/-! ### The export -/

/-- The effects of finding an object as the default export. -/
def objectExport (template : Template) (exported : ValueRef) : Trace :=
  [.instantiate template (.ok exported), .inspect exported (.ok .object)]

/-- The effects of finding a triple as the default export. -/
def tripleExport (template : Template) (exported naming making list : ValueRef) : Trace :=
  [.instantiate template (.ok exported), .inspect exported (.ok (.array [naming, making, list]))]

/-- The effects of finding the members of a triple to be two functions and an array. -/
def tripleMembers (naming making list : ValueRef) (items : List ValueRef) : Trace :=
  [.inspect naming (.ok .function), .inspect making (.ok .function),
   .inspect list (.ok (.array items))]

/-- Whether a shape is that of neither form of an export. -/
def Shape.IsNeither (shape : Shape) : Prop :=
  shape ≠ .object ∧ ∀ naming making list, shape ≠ .array [naming, making, list]

/-- The effects of reading off what the default export describes, and what came of it. -/
inductive ExportTrace (template : Template) : Trace → Except Failure Contract → Prop where
  | instantiateFails {failure : Failure} :
      ExportTrace template [.instantiate template (.error failure)] (.error failure)
  | inspectFails {exported : ValueRef} {failure : Failure} :
      ExportTrace template
        [.instantiate template (.ok exported), .inspect exported (.error failure)]
        (.error failure)
  | neither {exported : ValueRef} {shape : Shape} (hshape : shape.IsNeither) :
      ExportTrace template
        [.instantiate template (.ok exported), .inspect exported (.ok shape)]
        (.ok (.invalid shape.describe))
  | object {exported : ValueRef} :
      ExportTrace template (objectExport template exported) (.ok (.single exported))
  | namingFails {exported naming making list : ValueRef} {failure : Failure} :
      ExportTrace template
        (tripleExport template exported naming making list ++ [.inspect naming (.error failure)])
        (.error failure)
  | namingMisplaced {exported naming making list : ValueRef} {shape : Shape}
      (hshape : shape ≠ .function) :
      ExportTrace template
        (tripleExport template exported naming making list ++ [.inspect naming (.ok shape)])
        (.error (.contract template.path .nameFunction))
  | makingFails {exported naming making list : ValueRef} {failure : Failure} :
      ExportTrace template
        (tripleExport template exported naming making list ++
          [.inspect naming (.ok .function), .inspect making (.error failure)])
        (.error failure)
  | makingMisplaced {exported naming making list : ValueRef} {shape : Shape}
      (hshape : shape ≠ .function) :
      ExportTrace template
        (tripleExport template exported naming making list ++
          [.inspect naming (.ok .function), .inspect making (.ok shape)])
        (.error (.contract template.path .dataFunction))
  | listFails {exported naming making list : ValueRef} {failure : Failure} :
      ExportTrace template
        (tripleExport template exported naming making list ++
          [.inspect naming (.ok .function), .inspect making (.ok .function),
           .inspect list (.error failure)])
        (.error failure)
  | listMisplaced {exported naming making list : ValueRef} {shape : Shape}
      (hshape : ∀ items, shape ≠ .array items) :
      ExportTrace template
        (tripleExport template exported naming making list ++
          [.inspect naming (.ok .function), .inspect making (.ok .function),
           .inspect list (.ok shape)])
        (.error (.contract template.path .items))
  | triple {exported naming making list : ValueRef} {items : List ValueRef} :
      ExportTrace template
        (tripleExport template exported naming making list ++
          tripleMembers naming making list items)
        (.ok (.multiple naming making items))

/-- Nothing is written while the export is read off. -/
lemma ExportTrace.attempted {template : Template} {trace : Trace}
    {result : Except Failure Contract} (h : ExportTrace template trace result) :
    trace.attempted = [] := by
  cases h <;> rfl

lemma ExportTrace.inner {template : Template} {trace : Trace} {result : Except Failure Contract}
    (h : ExportTrace template trace result) : trace.Inner := by
  cases h <;> simp [Trace.Inner, Effect.isInner, objectExport, tripleExport, tripleMembers]

lemma ExportTrace.eq_object {template : Template} {trace : Trace} {data : ValueRef}
    (h : ExportTrace template trace (.ok (.single data))) : trace = objectExport template data := by
  cases h
  rfl

lemma ExportTrace.eq_triple {template : Template} {trace : Trace} {naming making : ValueRef}
    {items : List ValueRef} (h : ExportTrace template trace (.ok (.multiple naming making items))) :
    ∃ exported list, trace =
      tripleExport template exported naming making list ++
        tripleMembers naming making list items := by
  cases h
  exact ⟨_, _, rfl⟩

lemma demandFunction_bind {α : Type} {file : String} {member : TripleMember} {shape : Shape}
    {next : Unit → Action σ α} {recordedNext : Unit → Action (σ × Trace) α}
    {R : Trace → Except Failure α → Prop}
    (hfail : shape ≠ .function → R [] (.error (.contract file member)))
    (hnext : shape = .function → Records (next ()) (recordedNext ()) R) :
    Records (Contract.demandFunction file member shape >>= next)
      (Contract.demandFunction file member shape >>= recordedNext) R := by
  cases shape with
  | function    => exact .pure_bind (hnext rfl)
  | array _     => exact .throw_bind (hfail nofun)
  | object      => exact .throw_bind (hfail nofun)
  | primitive _ => exact .throw_bind (hfail nofun)

lemma demandItems_bind {α : Type} {file : String} {shape : Shape}
    {next : List ValueRef → Action σ α} {recordedNext : List ValueRef → Action (σ × Trace) α}
    {R : Trace → Except Failure α → Prop}
    (hfail : (∀ items, shape ≠ .array items) → R [] (.error (.contract file .items)))
    (hnext : ∀ items, shape = .array items → Records (next items) (recordedNext items) R) :
    Records (Contract.demandItems file shape >>= next)
      (Contract.demandItems file shape >>= recordedNext) R := by
  cases shape with
  | array items => exact .pure_bind (hnext items rfl)
  | function    => exact .throw_bind (hfail nofun)
  | object      => exact .throw_bind (hfail nofun)
  | primitive _ => exact .throw_bind (hfail nofun)

lemma classify_records (services : Services σ) (template : Template) (exported : ValueRef) :
    Records (Contract.classify services.inspect template.path exported)
      (Contract.classify services.recorded.inspect template.path exported)
      fun trace => ExportTrace template (.instantiate template (.ok exported) :: trace) := by
  unfold Contract.classify
  refine .recording_bind (fun failure => .inspectFails) fun shape => ?_
  split
  · exact .pure .object
  · refine .recording_bind (fun failure => .namingFails) fun shape => ?_
    refine demandFunction_bind .namingMisplaced ?_
    rintro rfl
    refine .recording_bind (fun failure => .makingFails) fun shape => ?_
    refine demandFunction_bind .makingMisplaced ?_
    rintro rfl
    refine .recording_bind (fun failure => .listFails) fun shape => ?_
    refine demandItems_bind .listMisplaced ?_
    rintro items rfl
    exact .pure .triple
  · rename_i hobject htriple
    exact .pure (.neither ⟨hobject, htriple⟩)

/-! ### One template -/

/-- The effects of generating from one template, and what came of it: the number of its artifacts,
or the first failure. -/
inductive GenerationTrace (template : Template) (pretty : Bool) :
    Trace → Except Failure Nat → Prop where
  /-- The export cannot be read off. -/
  | exportFails {trace : Trace} {failure : Failure}
      (hexport : ExportTrace template trace (.error failure)) :
      GenerationTrace template pretty trace (.error failure)
  | unsupported {trace : Trace} {found : String}
      (hexport : ExportTrace template trace (.ok (.invalid found))) :
      GenerationTrace template pretty trace (.error (.unsupported template.path found))
  | jsonFails {exported : ValueRef} {failure : Failure} :
      GenerationTrace template pretty
        (objectExport template exported ++
          [.json exported (indentFor pretty singleIndent) (.error failure)])
        (.error failure)
  | single {exported : ValueRef} {content : String} {answer : Except Failure Unit} :
      GenerationTrace template pretty
        (objectExport template exported ++
          [.json exported (indentFor pretty singleIndent) (.ok content),
           .write ⟨template.singleOutputPath, content⟩ answer])
        (answer.map fun _ => 1)
  | items {exported naming making list : ValueRef} {items : List ValueRef} {trace : Trace}
      {result : Except Failure Unit}
      (hitems : ItemsTrace template pretty naming making 1 items trace result) :
      GenerationTrace template pretty
        (tripleExport template exported naming making list ++
          tripleMembers naming making list items ++ trace)
        (result.map fun _ => items.length)

namespace GenerationTrace

variable {template : Template} {pretty : Bool} {trace : Trace}

lemma inner {result : Except Failure Nat} (h : GenerationTrace template pretty trace result) :
    trace.Inner := by
  cases h with
  | exportFails hexport => exact hexport.inner
  | unsupported hexport => exact hexport.inner
  | jsonFails           => simp [Trace.Inner, Effect.isInner, objectExport]
  | single              => simp [Trace.Inner, Effect.isInner, objectExport]
  | items hitems        => exact (ExportTrace.triple.inner).append hitems.inner

/-- The count of a template is the number of its artifacts. -/
lemma written_length {count : Nat} (h : GenerationTrace template pretty trace (.ok count)) :
    trace.written.length = count := by
  generalize hresult : Except.ok count = result at h
  cases h with
  | exportFails _ => cases hresult
  | unsupported _ => cases hresult
  | jsonFails     => cases hresult
  | @single _ _ answer =>
    cases answer <;> cases hresult
    rfl
  | items hitems =>
    obtain ⟨done, _, finished, _, _, rfl, rfl, hdone, hwritten, hlast⟩ := hitems
    rcases hlast with ⟨rfl, rfl, rfl⟩ | ⟨_, _, _, _, _, rfl⟩ <;> cases hresult
    rw [Trace.written_append, hwritten, List.append_nil, ← hdone.length_eq]
    rfl

end GenerationTrace

lemma Services.generateSingle_records (services : Services σ) (template : Template)
    (pretty : Bool) (data : ValueRef) :
    Records (services.generateSingle template pretty data)
      (services.recorded.generateSingle template pretty data) fun trace result =>
        (∃ failure, trace = [.json data (indentFor pretty singleIndent) (.error failure)] ∧
          result = .error failure) ∨
        ∃ content answer,
          trace = [.json data (indentFor pretty singleIndent) (.ok content),
            .write ⟨template.singleOutputPath, content⟩ answer] ∧
          result = answer.map fun _ => 1 := by
  unfold generateSingle
  refine .recording_bind (fun failure => .inl ⟨failure, rfl, rfl⟩) fun content => ?_
  refine .recording_bind (fun failure => .inr ⟨content, .error failure, rfl, rfl⟩) fun _ => ?_
  exact .note_bind (fun _ _ => rfl) (.pure (.inr ⟨content, .ok (), rfl, rfl⟩))

lemma Services.generate_records (services : Services σ) (template : Template) (pretty : Bool) :
    Records (services.generate template pretty) (services.recorded.generate template pretty)
      (GenerationTrace template pretty) := by
  unfold Services.generate
  refine .recording_bind (fun failure => .exportFails .instantiateFails) fun exported => ?_
  refine (classify_records services template exported).bind ?_ ?_
  · intro trace failure hexport
    exact .exportFails hexport
  rintro (data | ⟨naming, making, items⟩ | found) first hexport
  · refine (services.generateSingle_records template pretty data).mono ?_
    rintro second _ (⟨failure, rfl, rfl⟩ | ⟨content, answer, rfl, rfl⟩) <;>
      rw [← List.cons_append, hexport.eq_object]
    · exact .jsonFails
    · exact .single
  · obtain ⟨exported', list, htrace⟩ := hexport.eq_triple
    refine (services.generateItems_records template pretty naming making items.length 1 items).bind
      ?_ ?_
    · intro second failure hitems
      rw [← List.cons_append, htrace]
      exact .items hitems
    · rintro ⟨⟩ second hitems
      refine .pure ?_
      rw [List.append_nil, ← List.cons_append, htrace]
      exact .items hitems
  · refine .throw ?_
    rw [List.append_nil]
    exact .unsupported hexport

/-- Generating from one template, from any state and with any services, does one of four things.
The export cannot be read off, or has neither form: then no artifact is tried. It is an object:
then at most its one artifact is written. Or it is a triple: then the items before the first
failing one came through, their artifacts are all that was written, and the work ends at the
failing step with its failure. -/
theorem generate_effects (services : Services σ) (template : Template) (pretty : Bool) (s : σ) :
    ∃ result s' trace,
      (services.generate template pretty).outcome s = (result, s') ∧
      (services.recorded.generate template pretty).outcome (s, []) = (result, s', trace) ∧
      ((∃ failure, ExportTrace template trace (.error failure) ∧ trace.attempted = [] ∧
          result = .error failure) ∨
        (∃ found, ExportTrace template trace (.ok (.invalid found)) ∧ trace.attempted = [] ∧
          result = .error (.unsupported template.path found)) ∨
        (∃ exported rest, trace = objectExport template exported ++ rest ∧
          ((∃ failure, rest = [.json exported (indentFor pretty singleIndent) (.error failure)] ∧
              result = .error failure) ∨
            ∃ content answer,
              rest = [.json exported (indentFor pretty singleIndent) (.ok content),
                .write ⟨template.singleOutputPath, content⟩ answer] ∧
              result = answer.map fun _ => 1)) ∨
        ∃ exported naming making list items done later finished last artifacts,
          trace = tripleExport template exported naming making list ++
            tripleMembers naming making list items ++ (finished ++ last) ∧
          items = done ++ later ∧
          FinishedItems template pretty naming making 1 done finished artifacts ∧
          trace.written = artifacts ∧
          ((later = [] ∧ last = [] ∧ result = .ok items.length) ∨
            ∃ item pending failure, later = item :: pending ∧
              ItemTrace template pretty naming making (1 + done.length) item last
                (.error failure) ∧
              result = .error failure)) := by
  obtain ⟨trace, hrun, htrace⟩ := services.generate_records template pretty s
  rcases houtcome : (services.generate template pretty).outcome s with ⟨result, s'⟩
  rw [houtcome] at hrun htrace
  refine ⟨result, s', trace, rfl, hrun [], ?_⟩
  dsimp only at htrace
  cases htrace with
  | exportFails hexport => exact .inl ⟨_, hexport, hexport.attempted, rfl⟩
  | unsupported hexport => exact .inr (.inl ⟨_, hexport, hexport.attempted, rfl⟩)
  | jsonFails           => exact .inr (.inr (.inl ⟨_, _, rfl, .inl ⟨_, rfl, rfl⟩⟩))
  | single              => exact .inr (.inr (.inl ⟨_, _, rfl, .inr ⟨_, _, rfl, rfl⟩⟩))
  | items hitems        =>
    obtain ⟨done, later, finished, last, artifacts, rfl, rfl, hdone, hwritten, hlast⟩ := hitems
    refine .inr (.inr (.inr ⟨_, _, _, _, _, done, later, finished, last, artifacts, rfl, rfl, hdone,
      ?_, ?_⟩))
    · rw [Trace.written_append, hwritten]
      rfl
    · rcases hlast with ⟨rfl, rfl, hresult⟩ | ⟨item, pending, failure, rfl, hitem, hresult⟩ <;>
        rw [hresult]
      · exact .inl ⟨rfl, rfl, rfl⟩
      · exact .inr ⟨item, pending, failure, rfl, hitem, rfl⟩

end Stencil
