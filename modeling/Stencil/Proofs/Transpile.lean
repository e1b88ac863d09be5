import Stencil.Proofs.Copying
import Stencil.Proofs.Slices

/-!
# What transpiling does to a module

The edits of a module are nested or disjoint, so the outermost ones are applied one after another
and none is passed over. Applying them fails only where the last byte of the body of a namespace is
not a character of its own (`moduleEdits_applied`): a comment after the closing brace belongs to the
body and may end in a wider character. What is applied leaves the text outside the ranges of the
module as it is (`transpile_copied`).
-/

namespace Stencil

open Text Erasure
open TypeScript (Tree)

/-- Whether an edit that remains of these closes a namespace in the middle of a character. -/
def CutsCharacter (source : List Char) (tree : Tree) (edits : Edits) : Prop :=
  ∃ edit ∈ edits.items, ClosesNamespace tree (rangeOf edit) ∧ ¬ IsBoundary source edit.start

variable {source : List Char} {tree : Tree} {edits : List Edit} {exports : Exports}

section

variable (htree : tree.WellFormed source) (hedits : moduleEdits source tree = .ok (edits, exports))
include htree hedits

lemma applyTo?_eq_none_iff :
    (Edits.ofList edits).applyTo? source = none ↔
      CutsCharacter source tree (Edits.ofList edits) := by
  have hlaminar := moduleEdits_laminar htree hedits
  rw [Edits.applyTo?_eq_none hlaminar]
  constructor
  · rintro ⟨edit, hmem, hcut⟩
    have hmade := (Edits.ofList_outermost hlaminar).mem hmem
    obtain ⟨hstart, hstop⟩ := moduleEdits_isBoundary htree hedits hmade
    rcases hstart with hstart | hcloses
    · exact absurd ⟨hstart, hstop⟩ hcut
    · exact ⟨edit, hmem, hcloses, fun hstart => hcut ⟨hstart, hstop⟩⟩
  · rintro ⟨edit, hmem, -, hcut⟩
    exact ⟨edit, hmem, fun h => hcut h.1⟩

end

lemma scriptOf?_eq (hparse : TypeScript.parse source = .ok tree)
    (hedits : moduleEdits source tree = .ok (edits, exports)) :
    scriptOf? source = .ok (((Edits.ofList edits).applyTo? source).map fun body =>
      exports.header.toList ++ body ++ exports.footer.toList) := by
  rw [scriptOf?, hparse]
  simp only [bind_eq_ok_iff, pure_eq_ok_iff]
  exact ⟨_, hedits, rfl⟩

lemma transpile_eq {source : String} (file : String) {body : List Char}
    (hparse : TypeScript.parse source.toList = .ok tree)
    (hedits : moduleEdits source.toList tree = .ok (edits, exports))
    (hbody : (Edits.ofList edits).applyTo? source.toList = some body) :
    transpile source file =
      .ok (String.ofList (exports.header.toList ++ body ++ exports.footer.toList)) := by
  rw [transpile, scriptOf?_eq hparse hedits, hbody]
  rfl

/-- Evaluation of what is said of the tree of a source. -/
lemma exists_of_parse {α : Type} {source : List Char} {f : Tree → α} {a : α}
    (h : (TypeScript.parse source).toOption.map f = some a) :
    ∃ tree, TypeScript.parse source = .ok tree ∧ f tree = a := by
  rcases hparse : TypeScript.parse source with reach | tree
  · simp [hparse, Except.toOption] at h
  · exact ⟨tree, rfl, by simpa [hparse, Except.toOption] using h⟩

lemma toOption_eq_some {ε α : Type} {result : Except ε α} {a : α} (h : result.toOption = some a) :
    result = .ok a := by
  cases result <;> simp_all [Except.toOption]

/-- The edits of a module whose tree is sound are pairwise nested or disjoint, and their texts are
taken from slices of the source. Those edits that remain are applied one after another, each within
the source and none passed over, and this fails exactly where the last byte of the body of a
namespace lies inside a character. -/
theorem moduleEdits_applied (source : List Char) :
    (∀ tree, TypeScript.parse source = .ok tree → tree.WellFormed source) ∧
    ∀ tree edits exports, tree.WellFormed source →
      moduleEdits source tree = .ok (edits, exports) →
      (∀ a ∈ edits, ∀ b ∈ edits, a.NestedOrDisjoint b) ∧
      (Edits.ofList edits).ordered.Pairwise (fun a b => a.stop ≤ b.start) ∧
      (∀ edit ∈ edits, edit.start ≤ edit.stop ∧ edit.stop ≤ size source ∧
        IsBoundary source edit.stop ∧
        (IsBoundary source edit.start ∨ ClosesNamespace tree (rangeOf edit))) ∧
      (∀ span, Sliced source tree span → span.IsSlice source) ∧
      (∀ body, (Edits.ofList edits).applyTo? source = some body ↔
        Edits.Applied 0 source (Edits.ofList edits).ordered body) ∧
      ((Edits.ofList edits).applyTo? source = none ↔
        CutsCharacter source tree (Edits.ofList edits)) ∧
      (TypeScript.parse source = .ok tree → ∀ file,
        transpile (String.ofList source) file = .error (.brokenOff file) ↔
          CutsCharacter source tree (Edits.ofList edits)) := by
  refine ⟨fun tree => TypeScript.parse_wellFormed, fun tree edits exports htree hedits => ?_⟩
  have hlaminar := moduleEdits_laminar htree hedits
  have houtermost := Edits.ofList_outermost hlaminar
  have hnone := applyTo?_eq_none_iff htree hedits
  refine ⟨hlaminar.nested, houtermost.ordered_pairwise hlaminar, fun edit hmem => ?_,
    fun span hspan => ?_, fun body => Edits.applyTo?_eq_some hlaminar, hnone,
    fun hparse file => ?_⟩
  · obtain ⟨hstart, hstop⟩ := moduleEdits_isBoundary htree hedits hmem
    exact ⟨hlaminar.forward edit hmem, hstop.le, hstop, hstart⟩
  · exact hspan.isSlice htree.toSound
  · rw [← hnone, transpile, String.toList_ofList, scriptOf?_eq hparse hedits]
    cases (Edits.ofList edits).applyTo? source <;> simp

/-- A comment after the closing brace that ends in a wide character breaks transpiling off. -/
theorem moduleEdits_applied_comment :
    ∃ tree edits exports, TypeScript.parse "namespace N\x7b\x7d//é".toList = .ok tree ∧
      tree.WellFormed "namespace N\x7b\x7d//é".toList ∧
      moduleEdits "namespace N\x7b\x7d//é".toList tree = .ok (edits, exports) ∧
      CutsCharacter "namespace N\x7b\x7d//é".toList tree (Edits.ofList edits) ∧
      transpile "namespace N\x7b\x7d//é" "BP/n.ts" = .error (.brokenOff "BP/n.ts") := by
  have heval : ((TypeScript.parse "namespace N\x7b\x7d//é".toList).toOption.map fun tree =>
      (moduleEdits "namespace N\x7b\x7d//é".toList tree).toOption) =
      some (some ([.replace 0 12 "var N; (function (N) \x7b",
        .replace 16 17 "\x7d)(N || (N = \x7b\x7d));"], .empty)) := by
    decide +kernel
  obtain ⟨tree, hparse, heval⟩ := exists_of_parse heval
  have hedits := toOption_eq_some heval
  obtain ⟨hwellFormed, happlied⟩ := moduleEdits_applied "namespace N\x7b\x7d//é".toList
  have htree := hwellFormed tree hparse
  obtain ⟨-, -, -, -, -, hnone, htranspile⟩ := happlied tree _ _ htree hedits
  have hcuts := hnone.mp (by
    rw [Edits.applyTo?, List.mergeSort_of_pairwise (by decide)]
    decide)
  exact ⟨tree, _, _, hparse, htree, hedits, hcuts, (htranspile hparse "BP/n.ts").mpr hcuts⟩

/-! ### What is copied -/

/-- The edits that remain and bring a text of their own are edits that the module calls for. -/
lemma generates_of_moduleEdits (htree : tree.WellFormed source)
    (hedits : moduleEdits source tree = .ok (edits, exports)) :
    ((Edits.ofList edits).ordered.filter fun edit => edit.text.isSome).Subperm edits ∧
    ∀ edit ∈ (Edits.ofList edits).ordered.filter fun edit => edit.text.isSome,
      ModuleGenerates source tree edit := by
  have houtermost := Edits.ofList_outermost (moduleEdits_laminar htree hedits)
  constructor
  · have hperm : (Edits.ofList edits).ordered.Perm (Edits.ofList edits).items :=
      List.mergeSort_perm _ _
    exact List.filter_sublist.subperm.trans (hperm.subperm.trans houtermost.sublist.subperm)
  · intro edit hmem
    obtain ⟨hmem, htext⟩ := List.mem_filter.mp hmem
    rcases moduleEdits_made hedits (houtermost.mem (Edits.mem_ordered.mp hmem)) with
      ⟨range, -, rfl⟩ | h
    · cases htext
    · exact h

section

variable (htree : tree.WellFormed source) (hclosed : tree.Every ClosedByBrace)
  (hedits : moduleEdits source tree = .ok (edits, exports))
include htree hclosed hedits

/-- The bytes that the edits of a module take are those in its ranges. -/
lemma lies_iff_exists_ordered (offset : Nat) :
    Lies (moduleRanges source tree) offset ↔
      ∃ edit ∈ (Edits.ofList edits).ordered, edit.start ≤ offset ∧ offset < edit.stop := by
  have houtermost := Edits.ofList_outermost (moduleEdits_laminar htree hedits)
  constructor
  · rintro ⟨range, hrange, hstart, hstop⟩
    obtain ⟨edit, hedit, hspans⟩ := moduleEdits_spans htree hedits hclosed hrange
    obtain ⟨hleft, hright⟩ := hspans
    obtain ⟨other, hother, hcovers⟩ := houtermost.covered edit hedit (by omega)
    rw [Edit.covers_iff] at hcovers
    exact ⟨other, Edits.mem_ordered.mpr hother, by omega, by omega⟩
  · rintro ⟨edit, hmem, hstart, hstop⟩
    cases moduleEdits_placed htree hedits (houtermost.mem (Edits.mem_ordered.mp hmem)) with
    | range h => exact ⟨rangeOf edit, h, hstart, hstop⟩
    | insertion hempty _ => omega
    | closing h =>
      exact ⟨rangeOf edit, mem_moduleRanges_of_closing htree.toSound hclosed h, hstart, hstop⟩

lemma applyTo?_copied {body : List Char}
    (hbody : (Edits.ofList edits).applyTo? source = some body) :
    ∃ generated, generated.Subperm edits ∧
      (∀ edit ∈ generated, ModuleGenerates source tree edit) ∧
      Copied (moduleRanges source tree) generated 0 source body := by
  have hlaminar := moduleEdits_laminar htree hedits
  have houtermost := Edits.ofList_outermost hlaminar
  have hlies := lies_iff_exists_ordered htree hclosed hedits
  obtain ⟨hsub, hgenerates⟩ := generates_of_moduleEdits htree hedits
  refine ⟨(Edits.ofList edits).ordered.filter fun edit => edit.text.isSome, hsub, hgenerates, ?_⟩
  refine ((Edits.applyTo?_eq_some hlaminar).mp hbody).copied
    (houtermost.ordered_pairwise hlaminar) ?_ fun offset _ => (hlies offset).mp
  exact fun edit hmem offset hstart hstop => (hlies offset).mpr ⟨edit, hmem, hstart, hstop⟩

end

lemma transpile_ok {source file script : String} (h : transpile source file = .ok script) :
    ∃ tree edits exports body, TypeScript.parse source.toList = .ok tree ∧
      moduleEdits source.toList tree = .ok (edits, exports) ∧
      (Edits.ofList edits).applyTo? source.toList = some body ∧
      script = String.ofList (exports.header.toList ++ body ++ exports.footer.toList) := by
  rcases hparse : TypeScript.parse source.toList with reach | tree
  · simp [transpile, scriptOf?, hparse] at h
  rcases hedits : moduleEdits source.toList tree with flaw | ⟨edits, exports⟩
  · simp [transpile, scriptOf?, hparse, hedits, bind, Except.bind] at h
  rw [transpile, scriptOf?_eq hparse hedits] at h
  cases hbody : (Edits.ofList edits).applyTo? source.toList with
  | none => simp [hbody] at h
  | some body =>
    simp only [hbody, Option.map_some, Except.ok.injEq] at h
    exact ⟨tree, edits, exports, body, rfl, hedits, hbody, h.symm⟩

/-- The script of a module is its text between the header and the footer, where characters outside
the ranges of the module are copied, and those in the ranges are blanked or replaced by texts that
the module calls for, each used at most once. -/
theorem transpile_copied {source file script : String} (h : transpile source file = .ok script)
    (hclosed : ∀ tree, TypeScript.parse source.toList = .ok tree → tree.Every ClosedByBrace) :
    ∃ tree edits exports generated body, TypeScript.parse source.toList = .ok tree ∧
      moduleEdits source.toList tree = .ok (edits, exports) ∧
      script = String.ofList (exports.header.toList ++ body ++ exports.footer.toList) ∧
      generated.Subperm edits ∧
      (∀ edit ∈ generated, ModuleGenerates source.toList tree edit) ∧
      Copied (moduleRanges source.toList tree) generated 0 source.toList body := by
  obtain ⟨tree, edits, exports, body, hparse, hedits, hbody, rfl⟩ := transpile_ok h
  obtain ⟨generated, hsub, hgenerates, hcopied⟩ :=
    applyTo?_copied (TypeScript.parse_wellFormed hparse) (hclosed tree hparse) hedits hbody
  exact ⟨tree, edits, exports, generated, body, hparse, hedits, rfl, hsub, hgenerates, hcopied⟩

theorem transpile_copied_namespace :
    ∃ script tree generated body, transpile "namespace N\x7b\x7d" "BP/n.ts" = .ok script ∧
      TypeScript.parse "namespace N\x7b\x7d".toList = .ok tree ∧ tree.Every ClosedByBrace ∧
      Copied (moduleRanges "namespace N\x7b\x7d".toList tree) generated 0
        "namespace N\x7b\x7d".toList body := by
  have heval : ((TypeScript.parse "namespace N\x7b\x7d".toList).toOption.map fun tree =>
      ((moduleEdits "namespace N\x7b\x7d".toList tree).toOption,
        decide (tree.Every ClosedByBrace))) =
      some (some ([.replace 0 12 "var N; (function (N) \x7b",
        .replace 12 13 "\x7d)(N || (N = \x7b\x7d));"], .empty), true) := by
    decide +kernel
  obtain ⟨tree, hparse, heval⟩ := exists_of_parse heval
  obtain ⟨hedits, hclosed⟩ := Prod.mk.inj heval
  have hclosed := of_decide_eq_true hclosed
  have hbody : (Edits.ofList [.replace 0 12 "var N; (function (N) \x7b",
      .replace 12 13 "\x7d)(N || (N = \x7b\x7d));"]).applyTo? "namespace N\x7b\x7d".toList =
      some "var N; (function (N) \x7b\x7d)(N || (N = \x7b\x7d));".toList := by
    rw [Edits.applyTo?, List.mergeSort_of_pairwise (by decide)]
    decide
  have hscript := transpile_eq "BP/n.ts" hparse (toOption_eq_some hedits) hbody
  obtain ⟨tree', _, _, generated, body, hparse', -, -, -, -, hcopied⟩ :=
    transpile_copied hscript fun other hother => by
      rw [hparse] at hother
      cases hother
      exact hclosed
  rw [hparse] at hparse'
  cases hparse'
  exact ⟨_, tree, generated, body, hscript, hparse, hclosed, hcopied⟩

/-- The ranges of a module, if only type syntax took the separators after it along and a namespace
without a body took nothing out. -/
def narrowRanges (source : List Char) (tree : Tree) : List TypeScript.Span :=
  (tree.nodes.flatMap fun node =>
    if node.isKind .classBody then separatorRanges isTypeSyntax node.children
    else if isNamespace node && (node.child? .body).isNone then []
    else ownRanges source node) ++ tree.children.flatMap (exportRanges source)

/-- Neither the separator after a declared field nor a namespace without a body is copied. -/
theorem not_copied_narrow :
    (∃ tree, ∃ exports : Exports, ∃ body,
      TypeScript.parse "class A\x7bdeclare x;\x7d".toList = .ok tree ∧
      transpile "class A\x7bdeclare x;\x7d" "BP/a.ts" =
        .ok (String.ofList (exports.header.toList ++ body ++ exports.footer.toList)) ∧
      ∀ generated, ¬ Copied (narrowRanges "class A\x7bdeclare x;\x7d".toList tree) generated 0
        "class A\x7bdeclare x;\x7d".toList body) ∧
    (∃ tree, ∃ exports : Exports, ∃ body, TypeScript.parse "module a".toList = .ok tree ∧
      transpile "module a" "BP/a.ts" =
        .ok (String.ofList (exports.header.toList ++ body ++ exports.footer.toList)) ∧
      ∀ generated, ¬ Copied (narrowRanges "module a".toList tree) generated 0
        "module a".toList body) := by
  constructor
  · have heval : ((TypeScript.parse "class A\x7bdeclare x;\x7d".toList).toOption.map fun tree =>
        ((moduleEdits "class A\x7bdeclare x;\x7d".toList tree).toOption,
          decide (¬ Lies (narrowRanges "class A\x7bdeclare x;\x7d".toList tree) 17))) =
        some (some ([.blank 8 17, .blank 17 18], .empty), true) := by
      decide +kernel
    obtain ⟨tree, hparse, heval⟩ := exists_of_parse heval
    obtain ⟨hedits, hlies⟩ := Prod.mk.inj heval
    have hbody : (Edits.ofList [.blank 8 17, .blank 17 18]).applyTo?
        "class A\x7bdeclare x;\x7d".toList = some "class A\x7b          \x7d".toList := by
      rw [Edits.applyTo?, List.mergeSort_of_pairwise (by decide)]
      decide
    refine ⟨tree, .empty, _, hparse, transpile_eq _ hparse (toOption_eq_some hedits) hbody, ?_⟩
    intro generated hcopied
    have hmem := @Copied.mem _ _ _ _ _ hcopied "class A\x7bdeclare x".toList ['\x7d'] ';'
      (by decide) (of_decide_eq_true hlies)
    exact absurd hmem (by decide)
  · have heval : ((TypeScript.parse "module a".toList).toOption.map fun tree =>
        ((moduleEdits "module a".toList tree).toOption,
          decide (¬ Lies (narrowRanges "module a".toList tree) 0))) =
        some (some ([.blank 0 8], .empty), true) := by
      decide +kernel
    obtain ⟨tree, hparse, heval⟩ := exists_of_parse heval
    obtain ⟨hedits, hlies⟩ := Prod.mk.inj heval
    have hbody : (Edits.ofList [.blank 0 8]).applyTo? "module a".toList =
        some "        ".toList := by
      rw [Edits.applyTo?, List.mergeSort_of_pairwise (by decide)]
      decide
    refine ⟨tree, .empty, _, hparse, transpile_eq _ hparse (toOption_eq_some hedits) hbody, ?_⟩
    intro generated hcopied
    have hmem := @Copied.mem _ _ _ _ _ hcopied [] "odule a".toList 'm' (by decide)
      (of_decide_eq_true hlies)
    exact absurd hmem (by decide)

end Stencil
