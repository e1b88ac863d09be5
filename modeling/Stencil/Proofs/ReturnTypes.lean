import Stencil.Proofs.Arrows
import Stencil.Proofs.Beside
import Stencil.Proofs.Feeds

/-!
# Return types that are moved

A return type with line feeds gives way to a blank, and its line feeds are put behind the arrow. No
two arrow functions have a byte between their return type and the end of their arrow in common, and
what takes the place of one of the two edits takes the place of both, unless an edit begins right
behind the arrow (`moving_moduleEdits`).
-/

namespace Stencil.Erasure

open Text
open TypeScript (Tree Kind Span)

variable {source : List Char} {tree arrow type token : Tree} {edits : List Edit}
  {exports : Exports}

/-! ### Arrow functions with a return type -/

/-- An arrow function of a tree, with its return type and its arrow. -/
structure HasReturnType (tree arrow type token : Tree) : Prop where
  mem : arrow ∈ tree.nodes
  kind : arrow.isKind .arrowFunction
  type : arrow.child? .returnType = some type
  token : arrow.token? "=>" = some token

namespace HasReturnType

variable (h : HasReturnType tree arrow type token) (htree : tree.WellFormed source)
include h htree

/-- A return type with line feeds is not empty. -/
lemma forward (hfeeds : 0 < countLineFeeds (type.chars source)) : type.start < type.stop := by
  have hsound := htree.toSound.of_mem h.mem
  have hnested := (hsound.of_child (Tree.mem_of_child? h.type)).nested.self
  have hslice : type.span.IsSlice source := ⟨hnested.start, hnested.stop, hnested.le⟩
  obtain ⟨_, _, -, hbefore, hsize⟩ := hslice.slice_eq
  refine Nat.lt_of_le_of_ne hnested.le fun heq => ?_
  have hnil : type.chars source = [] := eq_nil_of_size_eq_zero (by
    simp only [Tree.start, Tree.stop] at heq
    rw [Tree.chars]
    omega)
  rw [hnil] at hfeeds
  cases hfeeds

variable (hparsed : ∀ child ∈ tree.children, child.Every (Tree.Parsed source))
include hparsed

/-- The return type and the arrow stand one after another in the parts of the function. -/
lemma parts : (∃ first last, arrow.parts = first ++ type :: token :: last) ∧
    token.start < token.stop ∧ token.stop < arrow.stop := by
  have hkind := h.kind
  rcases Tree.mem_nodes_iff.mp h.mem with rfl | ⟨statement, hstatement, hmem⟩
  · have hprogram := htree.isProgram
    rw [Tree.isKind_iff] at hkind hprogram
    simp [hkind] at hprogram
  · exact (hparsed statement hstatement arrow hmem).arrow hkind h.type h.token

/-- The parts of an arrow function with a return type stand in order. -/
lemma ordered : arrow.start ≤ type.start ∧ type.start ≤ type.stop ∧ type.stop ≤ token.start ∧
    token.start < token.stop ∧ token.stop < arrow.stop := by
  obtain ⟨⟨first, last, hparts⟩, hstart, hstop⟩ := h.parts htree hparsed
  have hordered := (htree.toSound.of_mem h.mem).ordered
  have hmem := hordered.mem (Tree.mem_of_child? h.type)
  have hsub : arrow.parts.Sublist arrow.children := List.filter_sublist
  obtain ⟨_, -, hrest⟩ := (hparts ▸ hordered.sublist hsub).of_append
  exact ⟨hmem.1, hmem.2.1, hrest.2.2.1, hstart, hstop⟩

/-- Nothing but comments stands between the return type and the arrow. -/
lemma apart {child : Tree} (hchild : child ∈ arrow.children) (hnamed : child.isNamed) :
    child.stop ≤ type.stop ∨ token.stop ≤ child.start := by
  obtain ⟨⟨first, last, hparts⟩, -, -⟩ := h.parts htree hparsed
  have hordered := (htree.toSound.of_mem h.mem).ordered
  have hsub : arrow.parts.Sublist arrow.children := List.filter_sublist
  obtain ⟨_, hfirst, hrest⟩ := (hparts ▸ hordered.sublist hsub).of_append
  have hmem := hparts ▸ Tree.mem_parts_of_isNamed hchild hnamed
  rcases List.mem_append.mp hmem with hmem | hmem
  · have := hfirst.mem hmem
    have := hrest.1
    have := hrest.2.1
    omega
  rcases List.mem_cons.mp hmem with rfl | hmem
  · exact .inl (Nat.le_refl _)
  rcases List.mem_cons.mp hmem with rfl | hmem
  · have htoken : child.isToken "=>" := List.find?_some h.token
    rw [Tree.isNamed_eq_false_iff.mpr (.inr ⟨_, htoken⟩)] at hnamed
    cases hnamed
  · exact .inr (hrest.2.2.2.2.mem hmem).1

/-- An arrow function in another one does not stand between the return type and the end of the
arrow. -/
lemma apart_of_below {child inner : Tree} (hchild : child ∈ arrow.children)
    (hinner : inner ∈ child.nodes) (hkind : inner.isKind .arrowFunction) :
    inner.stop ≤ type.stop ∨ token.stop ≤ inner.start := by
  have hsound := (htree.toSound.of_mem h.mem).of_child hchild
  obtain ⟨hstart, -, hstop⟩ := Within.of_mem_nodes hsound.nested hinner
  have := h.apart htree hparsed hchild (isNamed_of_scope (isScope_of_arrow hkind) hsound hinner)
  simp only [Tree.start, Tree.stop] at *
  omega

/-- No byte stands between the return type and the end of the arrow of two arrow functions. -/
lemma unique {arrow' type' token' : Tree} {offset : Nat}
    (h' : HasReturnType tree arrow' type' token') (hstart : type.stop ≤ offset)
    (hstop : offset < token.stop) (hstart' : type'.stop ≤ offset) (hstop' : offset < token'.stop) :
    arrow = arrow' := by
  have hordered := h.ordered htree hparsed
  have hordered' := h'.ordered htree hparsed
  rcases nodes_cases htree.toSound.nested h.mem h'.mem with heq | ⟨child, hchild, hin⟩ |
    ⟨child, hchild, hin⟩ | hapart
  · exact heq
  · have := h.apart_of_below htree hparsed hchild hin h'.kind
    omega
  · have := h'.apart_of_below htree hparsed hchild hin h.kind
    omega
  · omega

end HasReturnType

/-! ### Line feeds that are moved -/

/-- The two edits that move the line feeds of the return type of an arrow function in a tree. -/
inductive MovesReturnType (source : List Char) (tree : Tree) : Edit → Edit → Prop where
  | intro {arrow type token : Tree} (h : HasReturnType tree arrow type token)
      (hfeeds : 0 < countLineFeeds (type.chars source)) :
      MovesReturnType source tree (.replace type.start type.stop " ")
        (.insert token.stop (lineFeeds (type.chars source)))

/-- Whether no edit of a module begins right behind the arrow to which the line feeds of a return
type are moved. An edit there takes the place of the insertion. -/
def KeepsFeeds (source : List Char) (edits : List Edit) (arrow : Tree) : Prop :=
  arrow.isKind .arrowFunction → ∀ feeds ∈ moveReturnType source arrow, feeds.start = feeds.stop →
    ∀ edit ∈ edits, edit.start < edit.stop → edit.start ≠ feeds.start

instance (source : List Char) (edits : List Edit) : DecidablePred (KeepsFeeds source edits) :=
  fun arrow => inferInstanceAs (Decidable (arrow.isKind .arrowFunction →
    ∀ feeds ∈ moveReturnType source arrow, feeds.start = feeds.stop →
      ∀ edit ∈ edits, edit.start < edit.stop → edit.start ≠ feeds.start))

lemma HasReturnType.moveReturnType_eq (h : HasReturnType tree arrow type token)
    (hfeeds : 0 < countLineFeeds (type.chars source)) : moveReturnType source arrow =
      [.replace type.start type.stop " ", .insert token.stop (lineFeeds (type.chars source))] := by
  simp only [moveReturnType, h.type, h.token]
  refine if_neg fun hempty => ?_
  have heq := countLineFeeds_lineFeeds (type.chars source)
  rw [String.isEmpty_iff.mp hempty] at heq
  rw [← heq] at hfeeds
  cases hfeeds

section Module

variable (h : HasReturnType tree arrow type token) (htree : tree.WellFormed source)
include h htree

/-- In the place of a return type stand no line feeds. -/
lemma HasReturnType.gain_taking : (Edit.replace type.start type.stop " ").gain source =
    -countLineFeeds (type.chars source) := by
  have hsound := htree.toSound.of_mem h.mem
  have hnested := (hsound.of_child (Tree.mem_of_child? h.type)).nested.self
  have htaken : (Edit.replace type.start type.stop " ").taken source = type.chars source :=
    Edit.taken_of_isSlice ⟨hnested.start, hnested.stop, hnested.le⟩
  rw [Edit.gain_of_text rfl, htaken, countLineFeeds_eq_zero (by decide)]
  simp

variable (hedits : moduleEdits source tree = .ok (edits, exports)) {edit : Edit}
include hedits

/-- Where an edit with a range stands, seen from an arrow function. -/
lemma HasReturnType.edit_cases (hedit : edit ∈ edits) (hrange : edit.start < edit.stop) :
    Beside arrow.span (rangeOf edit) ∨ rangeOf edit = type.span ∨
      ∃ child ∈ arrow.children, Within child (rangeOf edit) := by
  have hplace := moduleEdits_rangeOf htree hedits hedit hrange
  refine (moduleRanges_arrow h.kind htree h.mem hplace).imp_right fun hcases =>
    hcases.imp_left fun hreturn => ?_
  simp only [returnTypeRanges, h.type, h.token] at hreturn
  split at hreturn
  · cases hreturn
  · exact List.mem_singleton.mp hreturn

variable (hparsed : ∀ child ∈ tree.children, child.Every (Tree.Parsed source))
include hparsed

/-- What covers the return type has the same range or holds the end of the arrow as well. -/
lemma HasReturnType.covered (hedit : edit ∈ edits) (hforward : type.start < type.stop)
    (hstart : edit.start ≤ type.start) (hstop : type.stop ≤ edit.stop) :
    rangeOf edit = type.span ∨ edit.start < token.stop ∧ token.stop < edit.stop := by
  have hordered := h.ordered htree hparsed
  have hsound := htree.toSound.of_mem h.mem
  rcases h.edit_cases htree hedits hedit (by omega) with hbeside | heq | ⟨child, hchild, hwithin⟩
  · simp only [Beside, rangeOf, Tree.start, Tree.stop] at *
    omega
  · exact .inl heq
  obtain ⟨hin, -, hin'⟩ := hwithin
  rcases hsound.ordered.apart hchild (Tree.mem_of_child? h.type) with rfl | hapart
  · left
    simp only [rangeOf, Tree.start, Tree.stop] at *
    rw [show edit.start = child.span.start by omega, show edit.stop = child.span.stop by omega]
  · simp only [rangeOf] at *
    omega

/-- What holds the end of the arrow, but does not begin there, covers the return type. -/
lemma HasReturnType.covers (hedit : edit ∈ edits) (hstart : edit.start ≤ token.stop)
    (hstop : token.stop < edit.stop) (hne : edit.start ≠ token.stop) :
    edit.start ≤ type.start ∧ type.stop ≤ edit.stop := by
  have hordered := h.ordered htree hparsed
  have hsound := htree.toSound.of_mem h.mem
  rcases h.edit_cases htree hedits hedit (by omega) with hbeside | heq | ⟨child, hchild, hwithin⟩
  · simp only [Beside, rangeOf, Tree.start, Tree.stop] at *
    omega
  · have heq : edit.stop = type.stop := congrArg Span.stop heq
    omega
  obtain ⟨hin, -, hin'⟩ := hwithin
  rcases hsound.ordered.apart hchild (Tree.mem_of_token? h.token) with rfl | hapart <;>
    simp only [rangeOf] at * <;> omega

variable (hkeeps : tree.Every (KeepsFeeds source edits))
include hkeeps

omit h in
/-- The edits of a module move the line feeds of return types. -/
theorem moving_moduleEdits : Moving source (MovesReturnType source tree) edits where
  laminar := moduleEdits_laminar htree hedits
  pair := by
    rintro _ _ ⟨h, hfeeds⟩
    rename_i arrow type token
    have hforward := h.forward htree hfeeds
    have hordered := h.ordered htree hparsed
    have hgain := h.gain_taking htree
    refine ⟨hforward, Nat.lt_of_le_of_lt hordered.2.2.1 hordered.2.2.2.1, rfl, ?_, ?_, ?_, ?_⟩
    · rw [hgain, gain_insert, countLineFeeds_lineFeeds]
      omega
    · rw [hgain]
      omega
    · intro edit hedit hcovers
      obtain ⟨-, hstart, hstop⟩ := Edit.covers_iff.mp hcovers
      rw [Edit.hasInside_iff]
      exact h.covered htree hedits hparsed hedit hforward hstart hstop
    · intro edit hedit hstart hstop
      have hne := hkeeps arrow h.mem h.kind (.insert token.stop (lineFeeds (type.chars source)))
        (by simp [h.moveReturnType_eq hfeeds]) rfl edit hedit (Nat.lt_of_le_of_lt hstart hstop)
      rw [Edit.covers_iff]
      exact ⟨Nat.lt_of_le_of_lt hstart hstop,
        h.covers htree hedits hparsed hedit hstart hstop hne⟩
  alone := by
    rintro _ _ _ _ offset ⟨h, -⟩ ⟨h', -⟩ hstart hstop hstart' hstop'
    obtain rfl := h.unique htree hparsed h' hstart hstop hstart' hstop'
    cases h.type.symm.trans h'.type
    cases h.token.symm.trans h'.token
    exact ⟨rfl, rfl⟩

end Module

end Stencil.Erasure
