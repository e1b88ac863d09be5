import Mathlib.Algebra.BigOperators.Group.List.Basic
import Mathlib.Algebra.Ring.Int.Defs
import Stencil.Proofs.Copying
import Stencil.Proofs.Lexemes

/-!
# Edits that move line feeds

An edit is level when it leaves as many line feeds as its range held. Two edits made one right after
the other move line feeds (`Moves`) when the first takes some out and the second inserts them
further on. When all edits are level or move line feeds in pairs, this is so of those that remain as
well: of a pair both remain or none does (`Remaining.foldl`). So a character that is copied keeps
its line, unless it stands between the two edits of a pair (`applyTo?_lines`).
-/

namespace Stencil

open Text Erasure
open TypeScript (Span OneLine)

/-! ### Line feeds -/

namespace Text

@[simp] lemma countLineFeeds_append (first second : List Char) :
    countLineFeeds (first ++ second) = countLineFeeds first + countLineFeeds second :=
  List.count_append

lemma countLineFeeds_eq_zero {text : List Char} (h : OneLine text) : countLineFeeds text = 0 :=
  List.count_eq_zero.mpr fun hmem => h _ hmem rfl

/-- Blanking keeps the line feeds. -/
lemma countLineFeeds_map_blanked (text : List Char) :
    countLineFeeds (text.map Edit.blanked) = countLineFeeds text := by
  induction text with
  | nil => rfl
  | cons c text ih =>
    have hfeed : Edit.blanked c = '\n' ↔ c = '\n' := by
      unfold Edit.blanked
      split
      · rfl
      next h =>
        simp only [Bool.or_eq_true, beq_iff_eq, not_or] at h
        simpa using h.1
    unfold countLineFeeds at *
    simp only [List.map_cons, List.count_cons, ih, beq_iff_eq, hfeed]

end Text

namespace Edit

/-- The text that an edit takes out of a source, if it begins and ends where characters do. -/
def taken (source : List Char) (edit : Edit) : List Char :=
  match cut? source edit.start with
  | some (_, rest) => ((cut? rest (edit.stop - edit.start)).map Prod.fst).getD []
  | none           => []

/-- The line feeds that an edit adds to a source, less those that it takes out. -/
def gain (source : List Char) (edit : Edit) : Int :=
  countLineFeeds (edit.result (edit.taken source)) - countLineFeeds (edit.taken source)

/-- Whether the first of two edits takes line feeds out and the second inserts them further on, and
each other edit that takes the place of one of the two takes the place of both. -/
structure Moves (source : List Char) (made : List Edit) (taking putting : Edit) : Prop where
  forward : taking.start < taking.stop
  later : taking.stop < putting.start
  insertion : putting.stop = putting.start
  gain : taking.gain source + putting.gain source = 0
  loses : taking.gain source ≠ 0
  covered : ∀ edit ∈ made, edit.covers taking →
    rangeOf edit = rangeOf taking ∨ edit.hasInside putting.start
  whole : ∀ edit ∈ made, edit.start ≤ putting.start → putting.start < edit.stop →
    edit.covers taking

variable {source : List Char} {made : List Edit} {edit taking putting : Edit}

lemma taken_eq {first old last : List Char} (hsource : source = first ++ (old ++ last))
    (hstart : size first = edit.start) (hstop : edit.start + size old = edit.stop) :
    edit.taken source = old := by
  rw [taken, cut?_eq_some.mpr ⟨hsource, hstart⟩]
  dsimp only
  rw [cut?_eq_some.mpr ⟨rfl, by omega⟩]
  rfl

/-- What an edit takes out is the slice of its range, or nothing where it cuts a character. -/
lemma taken_cases (source : List Char) (edit : Edit) :
    edit.taken source = [] ∨ ∃ first last, source = first ++ (edit.taken source ++ last) ∧
      size first = edit.start ∧ size (edit.taken source) = edit.stop - edit.start := by
  unfold taken
  split
  next first rest hfirst =>
    obtain ⟨rfl, hstart⟩ := cut?_eq_some.mp hfirst
    rcases hold : cut? rest (edit.stop - edit.start) with _ | ⟨old, last⟩
    · exact .inl rfl
    · obtain ⟨rfl, hsize⟩ := cut?_eq_some.mp hold
      exact .inr ⟨first, last, rfl, hstart, hsize⟩
  next => exact .inl rfl

lemma taken_of_isSlice (h : (rangeOf edit).IsSlice source) :
    edit.taken source = (rangeOf edit).slice source := by
  obtain ⟨first, last, hsource, hstart, hstop⟩ := h.slice_eq
  rw [hstart] at hstop
  exact taken_eq hsource hstart hstop

/-- Blanking adds no line feed and takes none out. -/
lemma gain_of_blank (h : edit.text = none) : edit.gain source = 0 := by
  rw [gain, result, h]
  simp [countLineFeeds_map_blanked]

lemma gain_of_text {text : String} (h : edit.text = some text) :
    edit.gain source = countLineFeeds text.toList - countLineFeeds (edit.taken source) := by
  rw [gain, result, h]

lemma covers_of_rangeOf_eq (h : rangeOf edit = rangeOf taking)
    (hforward : taking.start < taking.stop) : edit.covers taking ∧ taking.covers edit := by
  obtain ⟨hstart, hstop⟩ := Span.mk.inj h
  rw [covers_iff, covers_iff]
  omega

/-- An edit that the first of two does not cover takes the place of both or of none. -/
lemma Moves.supersedes_eq (h : Moves source made taking putting) (hedit : edit ∈ made)
    (hnew : ¬ taking.covers edit = true) : edit.supersedes taking = edit.supersedes putting := by
  have hforward := h.forward
  have hlater := h.later
  have hinsertion := h.insertion
  rw [Bool.eq_iff_iff, supersedes_iff, supersedes_iff]
  constructor
  · intro hsupersedes
    have hcovers : edit.covers taking = true := by
      rw [covers_iff]
      omega
    rcases h.covered edit hedit hcovers with heq | hinside
    · exact absurd (covers_of_rangeOf_eq heq hforward).2 hnew
    · rw [hasInside_iff] at hinside
      omega
  · rintro ⟨hstart, -, hstop⟩
    have := h.whole edit hedit hstart hstop
    rw [covers_iff] at this
    omega

end Edit

open Edit (Moves Apart Forward NestedOrDisjoint)

/-! ### Balanced edits -/

section

variable (source : List Char) (moves : Edit → Edit → Prop)

/-- Whether edits one after another, made after those `before`, are level or move line feeds in
pairs, the first with a range that no edit had before. -/
inductive Balanced : (before : List Edit) → List Edit → Prop where
  | nil {before : List Edit} : Balanced before []
  | level {before edits : List Edit} {edit : Edit} (hlevel : edit.gain source = 0)
      (hrest : Balanced (before ++ [edit]) edits) : Balanced before (edit :: edits)
  | moved {before edits : List Edit} {taking putting : Edit} (hmoves : moves taking putting)
      (hfirst : ∀ edit ∈ before, rangeOf edit ≠ rangeOf taking)
      (hrest : Balanced (before ++ [taking, putting]) edits) :
      Balanced before (taking :: putting :: edits)

end

namespace Balanced

variable {source : List Char} {moves : Edit → Edit → Prop} {before edits : List Edit}

lemma append {more : List Edit} (h : Balanced source moves before edits)
    (hmore : Balanced source moves (before ++ edits) more) :
    Balanced source moves before (edits ++ more) := by
  induction h with
  | nil => simpa using hmore
  | level hlevel _ ih => exact .level hlevel (ih (by simpa using hmore))
  | moved hmoves hfirst _ ih => exact .moved hmoves hfirst (ih (by simpa using hmore))

lemma of_level (h : ∀ edit ∈ edits, edit.gain source = 0) : Balanced source moves before edits := by
  induction edits generalizing before with
  | nil => exact .nil
  | cons edit edits ih =>
    obtain ⟨hedit, hedits⟩ := List.forall_mem_cons.mp h
    exact .level hedit (ih hedits)

lemma mono {before' : List Edit} (h : Balanced source moves before edits)
    (hsub : before' ⊆ before) : Balanced source moves before' edits := by
  have hmore {before before' : List Edit} (hsub : before' ⊆ before) (more : List Edit) :
      before' ++ more ⊆ before ++ more :=
    List.append_subset.mpr
      ⟨List.subset_append_of_subset_left _ hsub, List.subset_append_right _ _⟩
  induction h generalizing before' with
  | nil => exact .nil
  | level hlevel _ ih => exact .level hlevel (ih (hmore hsub _))
  | moved hmoves hfirst _ ih =>
    exact .moved hmoves (fun edit hmem => hfirst edit (hsub hmem)) (ih (hmore hsub _))

/-- Keeping both or none of each pair leaves the edits balanced. -/
lemma filter {keeps : Edit → Bool} (h : Balanced source moves before edits)
    (hpairs : ∀ taking putting, moves taking putting → taking ∈ edits →
      keeps taking = keeps putting) : Balanced source moves before (edits.filter keeps) := by
  induction h with
  | nil => exact .nil
  | @level before edits edit hlevel _ ih =>
    have ih := ih fun taking putting hmoves hmem =>
      hpairs taking putting hmoves (List.mem_cons_of_mem _ hmem)
    rcases hkeeps : keeps edit with _ | _
    · rw [List.filter_cons_of_neg (by simp [hkeeps])]
      exact ih.mono (List.subset_append_left _ _)
    · rw [List.filter_cons_of_pos hkeeps]
      exact .level hlevel ih
  | @moved before edits taking putting hmoves hfirst _ ih =>
    have ih := ih fun taking putting hmoves hmem =>
      hpairs taking putting hmoves (List.mem_cons_of_mem _ (List.mem_cons_of_mem _ hmem))
    have hpair := hpairs taking putting hmoves List.mem_cons_self
    rcases hkeeps : keeps taking with _ | _ <;> rw [hkeeps] at hpair
    · rw [List.filter_cons_of_neg (by simp [hkeeps]), List.filter_cons_of_neg (by simp [← hpair])]
      exact ih.mono (List.subset_append_left _ _)
    · rw [List.filter_cons_of_pos hkeeps, List.filter_cons_of_pos hpair.symm]
      exact .moved hmoves hfirst ih

lemma level_or_moved {edit : Edit} (h : Balanced source moves before edits) (hmem : edit ∈ edits) :
    edit.gain source = 0 ∨ ∃ other, moves edit other ∨ moves other edit := by
  induction h with
  | nil => cases hmem
  | level hlevel _ ih =>
    rcases List.mem_cons.mp hmem with rfl | hmem
    · exact .inl hlevel
    · exact ih hmem
  | moved hmoves _ _ ih =>
    rcases List.mem_cons.mp hmem with rfl | hmem
    · exact .inr ⟨_, .inl hmoves⟩
    rcases List.mem_cons.mp hmem with rfl | hmem
    · exact .inr ⟨_, .inr hmoves⟩
    · exact ih hmem

/-- Balanced edits leave as many line feeds as there were. -/
lemma sum_gain (h : Balanced source moves before edits)
    (hgain : ∀ taking putting, moves taking putting →
      taking.gain source + putting.gain source = 0) :
    (edits.map (Edit.gain source)).sum = 0 := by
  induction h with
  | nil => rfl
  | level hlevel _ ih => rw [List.map_cons, List.sum_cons, hlevel, ih, Int.zero_add]
  | moved hmoves _ _ ih =>
    have := hgain _ _ hmoves
    rw [List.map_cons, List.sum_cons, List.map_cons, List.sum_cons, ih]
    omega

end Balanced

/-! ### Adding an edit -/

/-- What becomes of the edits that remain when another one is made. -/
inductive Pushed (edits : Edits) (edit : Edit) : Edits → Prop where
  | inside (hempty : edit.stop ≤ edit.start)
      (hinside : ∃ other ∈ edits.items, other.hasInside edit.start) : Pushed edits edit edits
  | covered (hrange : edit.start < edit.stop)
      (hcovers : ∃ other ∈ edits.items, other.covers edit) : Pushed edits edit edits
  | inserted (hempty : edit.stop ≤ edit.start)
      (hnone : ∀ other ∈ edits.items, ¬ other.hasInside edit.start = true) :
      Pushed edits edit ⟨edits.items ++ [edit]⟩
  | added (hrange : edit.start < edit.stop)
      (hnone : ∀ other ∈ edits.items, ¬ other.covers edit = true) :
      Pushed edits edit ⟨(edits.items.filter fun other => !edit.supersedes other) ++ [edit]⟩

lemma push_pushed (edits : Edits) (edit : Edit) : Pushed edits edit (edits.push edit) := by
  unfold Edits.push
  split
  next hempty =>
    rw [Edit.isInsertion_iff] at hempty
    split
    next hany => exact .inside hempty (List.any_eq_true.mp hany)
    next hany => exact .inserted hempty (List.any_eq_false.mp (Bool.not_eq_true _ ▸ hany))
  next hrange =>
    rw [Edit.isInsertion_iff, Nat.not_le] at hrange
    split
    next hany => exact .covered hrange (List.any_eq_true.mp hany)
    next hany => exact .added hrange (List.any_eq_false.mp (Bool.not_eq_true _ ▸ hany))

/-! ### What remains of balanced edits -/

/-- Edits that are made together: their ranges are nested or disjoint, the pairs of a relation move
line feeds, and no offset lies between the edits of two pairs. -/
structure Moving (source : List Char) (moves : Edit → Edit → Prop) (made : List Edit) :
    Prop where
  laminar : Edits.Laminar made
  pair : ∀ taking putting, moves taking putting → Moves source made taking putting
  alone : ∀ taking putting taking' putting' offset, moves taking putting →
    moves taking' putting' → taking.stop ≤ offset → offset < putting.start →
    taking'.stop ≤ offset → offset < putting'.start → taking = taking' ∧ putting = putting'

/-- What remains of the edits made `before`: they are outermost, and the range of an edit that takes
line feeds out belongs to no other. -/
structure Remaining (moves : Edit → Edit → Prop) (before : List Edit) (edits : Edits) : Prop where
  outermost : Edits.Outermost before edits
  first : ∀ taking putting, moves taking putting → taking ∈ before →
    ∀ edit ∈ edits.items, rangeOf edit = rangeOf taking → edit = taking

section

variable {source : List Char} {moves : Edit → Edit → Prop} {made before more : List Edit}
  {edits : Edits} {edit taking putting : Edit} (hmoving : Moving source moves made)
include hmoving

/-- Only the first of two edits that move line feeds has a range. -/
lemma Moving.not_putting {putting' : Edit} (h : moves taking putting) :
    ¬ moves putting putting' := by
  intro h'
  have := (hmoving.pair _ _ h).insertion
  have := (hmoving.pair _ _ h').forward
  omega

lemma Moving.not_level (h : edit.gain source = 0) : ¬ moves edit putting :=
  fun h' => (hmoving.pair _ _ h').loses h

omit hmoving in
/-- An edit that is added has a range of its own. -/
lemma Edits.mem_push {other : Edit}
    (hother : other ∈ (edits.push edit).items) :
    other ∈ edits.items ∨ other = edit ∧
      (edit.start < edit.stop → ∀ other ∈ edits.items, ¬ other.covers edit = true) := by
  revert hother
  generalize hresult : edits.push edit = result
  cases hresult ▸ push_pushed edits edit with
  | inside | covered => exact .inl
  | inserted hempty =>
    intro hother
    refine (List.mem_append.mp hother).imp_right fun hother => ⟨List.mem_singleton.mp hother, ?_⟩
    exact fun hrange => absurd hrange (Nat.not_lt.mpr hempty)
  | added _ hnone =>
    intro hother
    exact (List.mem_append.mp hother).imp (fun hother => (List.mem_filter.mp hother).1)
      fun hother => ⟨List.mem_singleton.mp hother, fun _ => hnone⟩

/-- One more edit is made, which takes no line feeds out or has a range of its own. -/
lemma Remaining.push (h : Remaining moves before edits) (hmade : before ++ [edit] ⊆ made)
    (hfirst : ∀ putting, moves edit putting → ∀ other ∈ before, rangeOf other ≠ rangeOf edit) :
    Remaining moves (before ++ [edit]) (edits.push edit) where
  outermost := by
    have hedit : edit ∈ made := hmade (by simp)
    exact h.outermost.push (hmoving.laminar.forward edit hedit) fun other hother =>
      hmoving.laminar.nested edit hedit other (hmade (by simp [hother]))
  first := by
    intro taking putting hmoves hmem other hother heq
    have hforward := (hmoving.pair _ _ hmoves).forward
    have hcover := (Edit.covers_of_rangeOf_eq heq hforward).2
    rcases List.mem_append.mp hmem with hearlier | hlast
    · rcases Edits.mem_push hother with hother | ⟨rfl, hnone⟩
      · exact h.first taking putting hmoves hearlier other hother heq
      -- the range of the earlier edit is covered, so that nothing with this range is added
      · obtain ⟨outer, houter, hcovers⟩ := h.outermost.covered taking hearlier hforward
        refine absurd (Edit.covers_trans hcovers hcover) (hnone ?_ outer houter)
        obtain ⟨hstart, hstop⟩ := TypeScript.Span.mk.inj heq
        omega
    · obtain rfl := List.mem_singleton.mp hlast
      rcases Edits.mem_push hother with hother | ⟨rfl, -⟩
      · exact absurd heq (hfirst putting hmoves other (h.outermost.mem hother))
      · rfl

/-- Adding a level edit leaves what remains balanced. -/
lemma Balanced.push_level (h : Balanced source moves [] edits.items) (hedit : edit ∈ made)
    (hlevel : edit.gain source = 0) : Balanced source moves [] (edits.push edit).items := by
  have hlast {items : List Edit} : Balanced source moves items [edit] := .level hlevel .nil
  generalize hresult : edits.push edit = result
  cases hresult ▸ push_pushed edits edit with
  | inside | covered => exact h
  | inserted => exact h.append hlast
  | added _ hnone =>
    refine (h.filter fun taking putting hmoves hmem => ?_).append hlast
    rw [(hmoving.pair _ _ hmoves).supersedes_eq hedit (hnone taking hmem)]

/-- Adding two edits that move line feeds leaves what remains balanced. -/
lemma Balanced.push_moved (h : Balanced source moves [] edits.items)
    (hmade : ∀ other ∈ edits.items, other ∈ made) (htaking : taking ∈ made)
    (hmoves : moves taking putting)
    (hfirst : ∀ other ∈ edits.items, rangeOf other ≠ rangeOf taking) :
    Balanced source moves [] ((edits.push taking).push putting).items := by
  have hpair := hmoving.pair _ _ hmoves
  have hforward := hpair.forward
  have hlater := hpair.later
  have hinsertion := hpair.insertion
  generalize hresult : edits.push taking = result
  cases hresult ▸ push_pushed edits taking with
  | inside hempty | inserted hempty => omega
  | covered _ hcovers =>
    -- what covers the first of the two holds the second as well
    obtain ⟨other, hother, hcovers⟩ := hcovers
    have hinside := (hpair.covered other (hmade other hother) hcovers).resolve_left
      (hfirst other hother)
    generalize hresult : edits.push putting = result
    cases hresult ▸ push_pushed edits putting with
    | inside | covered => exact h
    | inserted _ hnone => exact absurd hinside (hnone other hother)
    | added hrange => omega
  | added _ hnone =>
    have hkept : Balanced source moves []
        (edits.items.filter fun other => !taking.supersedes other) :=
      h.filter fun taking' putting' hmoves' hmem => by
        rw [(hmoving.pair _ _ hmoves').supersedes_eq htaking (hnone taking' hmem)]
    generalize hresult : Edits.push _ putting = result
    cases hresult ▸ push_pushed _ putting with
    | inside _ hinside =>
      obtain ⟨other, hother, hinside⟩ := hinside
      rw [Edit.hasInside_iff] at hinside
      rcases List.mem_append.mp hother with hother | hother
      · have hmem := (List.mem_filter.mp hother).1
        exact absurd (hpair.whole other (hmade other hmem) (by omega) (by omega)) (hnone other hmem)
      · rw [List.mem_singleton.mp hother] at hinside
        omega
    | covered hrange | added hrange => omega
    | inserted =>
      rw [List.append_assoc]
      refine hkept.append (.moved hmoves (fun other hother => ?_) .nil)
      exact hfirst other (List.mem_filter.mp hother).1

/-- What remains of balanced edits is balanced. -/
theorem Remaining.foldl (h : Remaining moves before edits)
    (hbalanced : Balanced source moves [] edits.items) (hmore : Balanced source moves before more)
    (hmade : before ++ more ⊆ made) :
    Remaining moves (before ++ more) (more.foldl Edits.push edits) ∧
      Balanced source moves [] (more.foldl Edits.push edits).items := by
  induction hmore generalizing edits with
  | nil => exact ⟨by simpa using h, hbalanced⟩
  | @level before more edit hlevel _ ih =>
    have hedit : edit ∈ made := hmade (by simp)
    rw [List.append_cons] at hmade ⊢
    have hpush := h.push hmoving (List.append_subset.mp hmade).1 fun putting hmoves =>
      absurd hmoves (hmoving.not_level hlevel)
    exact ih hpush (hbalanced.push_level hmoving hedit hlevel) hmade
  | @moved before more taking putting hmoves hfirst _ ih =>
    have htaking : taking ∈ made := hmade (by simp)
    have happend : before ++ taking :: putting :: more =
        before ++ [taking] ++ [putting] ++ more := by
      simp
    rw [happend] at hmade ⊢
    have hboth := (List.append_subset.mp hmade).1
    have htake := h.push hmoving (List.append_subset.mp hboth).1 fun _ _ => hfirst
    have hput := htake.push hmoving hboth fun putting' hmoves' =>
      absurd hmoves' (hmoving.not_putting hmoves)
    have hbefore (other : Edit) (hother : other ∈ edits.items) : other ∈ before :=
      h.outermost.mem hother
    rw [List.append_assoc before] at hput hboth hmade ⊢
    refine ih hput ?_ hmade
    exact hbalanced.push_moved hmoving (fun other hother => hboth (by simp [hbefore other hother]))
      htaking hmoves fun other hother => hfirst other (hbefore other hother)

/-- All edits that remain of balanced edits. -/
lemma remaining_ofList (h : Balanced source moves [] made) :
    Remaining moves made (Edits.ofList made) ∧
      Balanced source moves [] (Edits.ofList made).items := by
  have hempty : Remaining moves [] Edits.empty := ⟨⟨.slnil, .nil, nofun⟩, nofun⟩
  exact hempty.foldl hmoving .nil h (List.Subset.refl _)

/-! ### Line feeds before an offset -/

/-- The line feeds that these edits add before an offset. -/
def gainBefore (source : List Char) (offset : Nat) (edits : List Edit) : Int :=
  ((edits.filter fun edit => edit.stop ≤ offset).map (Edit.gain source)).sum

omit hmoving in
lemma gainBefore_perm {offset : Nat} {edits edits' : List Edit} (h : edits.Perm edits') :
    gainBefore source offset edits = gainBefore source offset edits' :=
  ((h.filter _).map _).sum_eq

/-- Where no line feeds are on the move, as many come before as did. -/
lemma Balanced.gainBefore_eq_zero {offset : Nat} {items : List Edit}
    (h : Balanced source moves before items)
    (hnone : ∀ taking putting, moves taking putting → taking ∈ items →
      ¬ (taking.stop ≤ offset ∧ offset < putting.start)) : gainBefore source offset items = 0 := by
  refine Balanced.sum_gain (h.filter fun taking putting hmoves hmem => ?_) fun _ _ hmoves =>
    (hmoving.pair _ _ hmoves).gain
  have := hnone taking putting hmoves hmem
  have := (hmoving.pair _ _ hmoves).later
  have := (hmoving.pair _ _ hmoves).insertion
  rw [decide_eq_decide]
  omega

/-- Between two edits that move line feeds, those that the first takes out are missing. -/
lemma Balanced.gainBefore_eq_gain {offset : Nat} {items : List Edit}
    (h : Balanced source moves before items) (hapart : items.Pairwise Apart)
    (hmoves : moves taking putting) (hmem : taking ∈ items) (hstart : taking.stop ≤ offset)
    (hstop : offset < putting.start) : gainBefore source offset items = taking.gain source := by
  have hpair := hmoving.pair _ _ hmoves
  induction h with
  | nil => cases hmem
  | @level before items edit hlevel hrest ih =>
    obtain ⟨-, hapart⟩ := List.pairwise_cons.mp hapart
    have hmem : taking ∈ items := (List.mem_cons.mp hmem).resolve_left fun heq =>
      hpair.loses (heq ▸ hlevel)
    rw [← ih hapart hmem, gainBefore, List.filter_cons]
    split
    · rw [List.map_cons, List.sum_cons, hlevel, Int.zero_add, gainBefore]
    · rfl
  | @moved before items taking' putting' hmoves' _ hrest ih =>
    obtain ⟨hone, hapart⟩ := List.pairwise_cons.mp hapart
    obtain ⟨-, hapart⟩ := List.pairwise_cons.mp hapart
    have hpair' := hmoving.pair _ _ hmoves'
    by_cases heq : taking = taking'
    · subst heq
      obtain ⟨-, rfl⟩ := hmoving.alone _ _ _ _ taking.stop hmoves hmoves' (Nat.le_refl _)
        hpair.later (Nat.le_refl _) hpair'.later
      have hzero : gainBefore source offset items = 0 := by
        refine hrest.gainBefore_eq_zero hmoving fun other putting' hother hmem hgap => ?_
        obtain ⟨rfl, -⟩ := hmoving.alone _ _ _ _ offset hmoves hother hstart hstop hgap.1 hgap.2
        have := hone taking (List.mem_cons_of_mem _ hmem)
        have := hpair.forward
        unfold Apart at *
        omega
      have := hpair.insertion
      rw [gainBefore, List.filter_cons_of_pos (by simpa using hstart),
        List.filter_cons_of_neg (by simp; omega), List.map_cons, List.sum_cons]
      rw [gainBefore] at hzero
      omega
    · have hmem : taking ∈ items := by
        have := hpair.forward
        have := hpair'.insertion
        rcases List.mem_cons.mp hmem with rfl | hmem
        · exact absurd rfl heq
        rcases List.mem_cons.mp hmem with rfl | hmem
        · omega
        · exact hmem
      have hgap : ¬ (taking'.stop ≤ offset ∧ offset < putting'.start) := fun hgap =>
        heq (hmoving.alone _ _ _ _ offset hmoves hmoves' hstart hstop hgap.1 hgap.2).1
      have := hpair'.later
      have := hpair'.insertion
      have hgain := hpair'.gain
      rw [← ih hapart hmem, gainBefore, gainBefore, List.filter_cons, List.filter_cons]
      by_cases hle : taking'.stop ≤ offset
      · rw [if_pos (by simpa using hle), if_pos (by simp; omega), List.map_cons, List.map_cons,
          List.sum_cons, List.sum_cons]
        omega
      · rw [if_neg (by simpa using hle), if_neg (by simp; omega)]

end

/-! ### Line feeds of the result -/

namespace Edits

variable {source : List Char}

/-- The line feeds of the result are those of the text and those that the edits add. -/
lemma Applied.feeds {text result : List Char} {cursor : Nat} {edits : List Edit}
    (h : Applied cursor text edits result) (first last : List Char)
    (hsource : source = first ++ (text ++ last)) (hcursor : size first = cursor) :
    (countLineFeeds result : Int) = countLineFeeds text + (edits.map (Edit.gain source)).sum := by
  induction h generalizing first with
  | done => simp
  | @step cursor edit edits kept old text result hkept hold _ ih =>
    have htaken : edit.taken source = old := by
      have hsource : source = first ++ kept ++ (old ++ (text ++ last)) := by simp [hsource]
      refine Edit.taken_eq hsource ?_ hold
      rw [size_append, hcursor, hkept]
    have ih := ih (first ++ kept ++ old) (by simp [hsource]) (by
      rw [size_append, size_append]
      omega)
    have hgain : edit.gain source = countLineFeeds (edit.result old) - countLineFeeds old := by
      rw [Edit.gain, htaken]
    simp only [countLineFeeds_append, List.map_cons, List.sum_cons, Int.natCast_add, ih, hgain]
    omega

/-- Where a character that no edit takes stands in the result: after what the edits make of the text
before it. -/
lemma Applied.split {cursor : Nat} {text result first last : List Char} {c : Char}
    {edits : List Edit} (h : Applied cursor text edits result)
    (hpairwise : edits.Pairwise fun a b => a.stop ≤ b.start)
    (hforward : ∀ edit ∈ edits, edit.Forward) (htext : text = first ++ c :: last)
    (houtside : ∀ edit ∈ edits,
      ¬ (edit.start ≤ cursor + size first ∧ cursor + size first < edit.stop)) :
    ∃ first' last', result = first' ++ c :: last' ∧
      Applied cursor first (edits.filter fun edit => edit.stop ≤ cursor + size first) first' := by
  induction h generalizing first with
  | done => exact ⟨first, last, htext, .done⟩
  | @step cursor edit edits kept old text result hkept hold happlied ih =>
    obtain ⟨hlater, hpairwise⟩ := List.pairwise_cons.mp hpairwise
    obtain ⟨hedit, houtside⟩ := List.forall_mem_cons.mp houtside
    obtain ⟨-, hforward⟩ := List.forall_mem_cons.mp hforward
    by_cases hstop : edit.stop ≤ cursor + size first
    · rw [← List.append_assoc] at htext
      obtain ⟨middle, rfl, hrest⟩ := exists_append_of_size_le htext (by
        rw [size_append]
        omega)
      have hoffset : cursor + size (kept ++ old ++ middle) = edit.stop + size middle := by
        rw [size_append, size_append]
        omega
      rw [hoffset] at houtside hstop ⊢
      obtain ⟨first', last', rfl, hfirst⟩ := ih hpairwise hforward hrest houtside
      rw [List.filter_cons_of_pos (by simp), List.append_assoc kept old]
      exact ⟨kept ++ edit.result old ++ first', last', by simp, .step hkept hold hfirst⟩
    · obtain ⟨middle, rfl, hmiddle⟩ := exists_append_of_size_le htext.symm (by omega)
      have hnone : (edit :: edits).filter (fun edit => edit.stop ≤ cursor + size first) = [] := by
        refine List.filter_eq_nil_iff.mpr fun other hother => ?_
        rcases List.mem_cons.mp hother with rfl | hother
        · simpa using hstop
        · have hle := hlater other hother
          have hother : other.start ≤ other.stop := hforward other hother
          simp only [decide_eq_true_eq]
          omega
      rcases middle with _ | ⟨d, middle⟩
      · rw [List.append_nil] at hkept
        omega
      obtain ⟨rfl, -⟩ := List.cons.inj hmiddle
      exact ⟨first, middle ++ edit.result old ++ result, by simp, hnone ▸ .done⟩

end Edits

/-! ### Lines of the result -/

section

variable {source result : List Char} {moves : Edit → Edit → Prop} {made : List Edit}
  (hmoving : Moving source moves made) (hbalanced : Balanced source moves [] made)
  (h : (Edits.ofList made).applyTo? source = some result)
include hmoving hbalanced h

/-- Applying balanced edits leaves as many line feeds as there were. -/
theorem applyTo?_countLineFeeds : countLineFeeds result = countLineFeeds source := by
  have happlied := (Edits.applyTo?_eq_some hmoving.laminar).mp h
  have hsum := (remaining_ofList hmoving hbalanced).2.sum_gain fun _ _ hmoves =>
    (hmoving.pair _ _ hmoves).gain
  have hperm : (Edits.ofList made).ordered.Perm (Edits.ofList made).items := List.mergeSort_perm _ _
  have := happlied.feeds [] [] (List.append_nil source).symm rfl
  rw [(hperm.map _).sum_eq, hsum] at this
  omega

/-- A character that no edit takes keeps its line, unless it stands between two edits that move line
feeds: then those that the first takes out do not come before it. -/
theorem applyTo?_lines {first last : List Char} {c : Char} (hsource : source = first ++ c :: last)
    (houtside : ¬ Lies (made.map rangeOf) (size first)) :
    ∃ first' last', result = first' ++ c :: last' ∧
      Edits.Applied 0 first
        ((Edits.ofList made).ordered.filter fun edit => edit.stop ≤ size first) first' ∧
      ((∀ taking putting, moves taking putting → taking ∈ made →
          ¬ (taking.stop ≤ size first ∧ size first < putting.start)) →
        countLineFeeds first' = countLineFeeds first) ∧
      ∀ taking putting, moves taking putting → taking ∈ made → taking.stop ≤ size first →
        size first < putting.start →
        (countLineFeeds first' : Int) = countLineFeeds first + taking.gain source := by
  have happlied := (Edits.applyTo?_eq_some hmoving.laminar).mp h
  obtain ⟨hremaining, hbalanced⟩ := remaining_ofList hmoving hbalanced
  have houtermost := hremaining.outermost
  have hlies := (not_congr (houtermost.lies_iff (size first))).mp houtside
  have hperm : (Edits.ofList made).ordered.Perm (Edits.ofList made).items := List.mergeSort_perm _ _
  obtain ⟨first', last', hresult, hfirst⟩ := happlied.split
    (houtermost.ordered_pairwise hmoving.laminar)
    (fun edit hmem => hmoving.laminar.forward edit (houtermost.mem (Edits.mem_ordered.mp hmem)))
    hsource fun edit hmem hin => hlies ⟨edit, hmem, by simpa using hin⟩
  rw [Nat.zero_add] at hfirst
  refine ⟨first', last', hresult, hfirst, ?_⟩
  have hfeeds : (countLineFeeds first' : Int) =
      countLineFeeds first + gainBefore source (size first) (Edits.ofList made).items := by
    rw [hfirst.feeds [] (c :: last) hsource rfl, ← gainBefore_perm hperm]
    rfl
  rw [hfeeds]
  refine ⟨fun hnone => ?_, fun taking putting hmoves hmem hstart hstop => ?_⟩
  · rw [hbalanced.gainBefore_eq_zero hmoving fun taking putting hmoves hmem =>
      hnone taking putting hmoves (houtermost.mem hmem)] at hfeeds
    omega
  -- what covers the first of the two edits has its range, as it does not take the character
  have hpair := hmoving.pair _ _ hmoves
  obtain ⟨other, hother, hcovers⟩ := houtermost.covered taking hmem hpair.forward
  have heq : other = taking := by
    refine hremaining.first taking putting hmoves hmem other hother ?_
    refine (hpair.covered other (houtermost.mem hother) hcovers).resolve_right fun hinside => ?_
    rw [Edit.hasInside_iff] at hinside
    rw [Edit.covers_iff] at hcovers
    have := hpair.forward
    exact hlies ⟨other, Edits.mem_ordered.mpr hother, by omega, by omega⟩
  rw [hbalanced.gainBefore_eq_gain hmoving houtermost.apart hmoves (heq ▸ hother) hstart hstop]

end

end Stencil
