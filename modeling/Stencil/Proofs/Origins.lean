import Stencil.Proofs.Agreement
import Stencil.Proofs.Run

/-!
# Where written artifacts come from

Each artifact that is written in a run is at a path which a loaded template gives to one of its
names (`Trace.Origin`), and a run that came through counts the artifacts that were written
(`Services.run_records`).
-/

namespace Stencil

open Stencil.Action (Records)

variable {σ : Type} {template : Template} {pretty : Bool} {trace first second : Trace}
  {artifact : Artifact}

/-! ### One template -/

/-- Whether an artifact is at a path that a template gives to one of its names. -/
def Template.Places (template : Template) (artifact : Artifact) : Prop :=
  ∃ name, template.Names name ∧ artifact.path = template.outputPath name

lemma ItemTrace.places {naming making item : ValueRef} {index : Nat}
    (h : ItemTrace template pretty naming making index item trace (.ok artifact)) :
    template.Places artifact := by
  cases h with
  | written hname => exact ⟨_, .item hname, rfl⟩

lemma FinishedItems.places {naming making : ValueRef} {index : Nat} {items : List ValueRef}
    {artifacts : List Artifact}
    (h : FinishedItems template pretty naming making index items trace artifacts) :
    ∀ artifact ∈ artifacts, template.Places artifact := by
  induction h with
  | nil             => exact List.forall_mem_nil _
  | cons hitem _ ih => exact List.forall_mem_cons.mpr ⟨hitem.places, ih⟩

lemma ExportTrace.written {result : Except Failure Contract}
    (h : ExportTrace template trace result) : trace.written = [] := by
  cases h <;> rfl

lemma GenerationTrace.places {result : Except Failure Nat}
    (h : GenerationTrace template pretty trace result) :
    ∀ artifact ∈ trace.written, template.Places artifact := by
  cases h with
  | exportFails hexport | unsupported hexport =>
    rw [hexport.written]
    exact List.forall_mem_nil _
  | jsonFails => exact List.forall_mem_nil _
  | @single _ content answer =>
    rcases answer with failure | _
    · exact List.forall_mem_nil _
    · exact List.forall_mem_singleton.mpr ⟨_, .single, rfl⟩
  | items hitems =>
    obtain ⟨done, later, finished, last, artifacts, rfl, rfl, hdone, hwritten, -⟩ := hitems
    rw [Trace.written_append, hwritten]
    exact hdone.places

/-! ### All templates -/

/-- Whether an artifact is one of a template that was loaded. -/
def Trace.Origin (trace : Trace) (artifact : Artifact) : Prop :=
  ∃ path template, Effect.load path (.ok template) ∈ trace ∧ template.Places artifact

/-- All that was written is of templates that were loaded, and is counted if all came through. -/
structure Accounted (trace : Trace) (result : Except Failure Nat) : Prop where
  origin : ∀ artifact ∈ trace.written, trace.Origin artifact
  count {count : Nat} (h : result = .ok count) : trace.written.length = count

lemma Trace.Origin.append_left (h : first.Origin artifact) (second : Trace) :
    Trace.Origin (first ++ second) artifact := by
  obtain ⟨path, template, hload, hplaces⟩ := h
  exact ⟨path, template, List.mem_append_left _ hload, hplaces⟩

lemma Trace.Origin.append_right (h : second.Origin artifact) (first : Trace) :
    Trace.Origin (first ++ second) artifact := by
  obtain ⟨path, template, hload, hplaces⟩ := h
  exact ⟨path, template, List.mem_append_right _ hload, hplaces⟩

lemma VisitTrace.accounted {path : String} {result : Except Failure Nat}
    (h : VisitTrace pretty path trace result) : Accounted trace result := by
  refine ⟨?_, ?_⟩
  · obtain ⟨failure, rfl, -⟩ | ⟨template, rest, rfl, hrest⟩ := h
    · exact List.forall_mem_nil _
    · exact fun artifact hartifact =>
        ⟨path, template, List.mem_cons_self .., hrest.places artifact hartifact⟩
  · rintro count rfl
    exact h.written_length

lemma Services.generateAll_records (services : Services σ) (discovery : Discovery σ)
    (pretty : Bool) (paths : List String) :
    Records (services.generateAll discovery pretty paths)
      (services.recorded.generateAll discovery.recorded pretty paths) Accounted := by
  induction paths with
  | nil => exact .pure ⟨List.forall_mem_nil _, fun h => Except.ok.inj h⟩
  | cons path paths ih =>
    rw [generateAll_cons, generateAll_cons]
    refine ((services.visit_records discovery pretty path).mono
      fun _ _ => VisitTrace.accounted).bind ?_ ?_
    · exact fun trace failure h => ⟨h.origin, nofun⟩
    intro count first hfirst
    have happend {second : Trace} {result : Except Failure Nat} (h : Accounted second result) :
        ∀ artifact ∈ Trace.written (first ++ second), Trace.Origin (first ++ second) artifact := by
      rw [Trace.written_append]
      exact List.forall_mem_append.mpr
        ⟨fun artifact hartifact => (hfirst.origin artifact hartifact).append_left second,
          fun artifact hartifact => (h.origin artifact hartifact).append_right first⟩
    refine ih.bind ?_ ?_
    · exact fun second failure h => ⟨happend h, nofun⟩
    intro total second hsecond
    refine .pure ⟨?_, ?_⟩
    · rw [List.append_nil]
      exact happend hsecond
    · intro sum hsum
      rw [List.append_nil, Trace.written_append, List.length_append, hfirst.count rfl,
        hsecond.count rfl]
      exact Except.ok.inj hsum

/-- A recorded run does what the run does, and all that was written is accounted for. -/
theorem Services.run_records (services : Services σ) (discovery : Discovery σ) (pretty : Bool) :
    Records (services.run discovery pretty) (services.recorded.run discovery.recorded pretty)
      fun trace result => Accounted trace (result.map Totals.artifacts) := by
  rw [services.run_eq, services.recorded.run_eq]
  refine discovery.search_records.bind ?_ ?_
  · rintro trace failure rfl
    exact ⟨List.forall_mem_nil _, nofun⟩
  rintro paths _ rfl
  refine (services.generateAll_records discovery pretty paths).bind ?_ ?_
  · intro trace failure h
    exact ⟨fun artifact hartifact => (h.origin artifact hartifact).append_right _, nofun⟩
  · intro artifacts trace h
    refine .pure ⟨?_, ?_⟩
    · rw [List.append_nil]
      exact fun artifact hartifact => (h.origin artifact hartifact).append_right _
    · rintro count hcount
      rw [List.append_nil]
      exact h.count hcount

end Stencil
