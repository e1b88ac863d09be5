import Stencil.Proofs.Beside
import Stencil.Proofs.Tokens
import Stencil.Proofs.Exports

/-!
# Insertions

An insertion remains unless an edit holds its place or one that is made later begins there
(`mem_ofList_iff_of_insertion`). The assignments that namespaces and constructors need are inserted
in blocks, between two of their parts, and none of them is made twice (`erase_count_le_one`).
-/

namespace Stencil

open Text

namespace Edits

variable {made first last : List Edit} {edits : Edits} {edit other : Edit}

lemma mem_of_mem_push (hne : edit ≠ other) (h : edit ∈ (edits.push other).items) :
    edit ∈ edits.items := by
  have hnot : edit ∉ [other] := by simpa using hne
  unfold push at h
  split at h
  · split at h
    · exact h
    · exact (List.mem_append.mp h).resolve_right hnot
  · split at h
    · exact h
    · exact (List.mem_filter.mp ((List.mem_append.mp h).resolve_right hnot)).1

lemma mem_of_mem_foldl (hlast : edit ∉ last) (h : edit ∈ (last.foldl push edits).items) :
    edit ∈ edits.items := by
  induction last generalizing edits with
  | nil => exact h
  | cons other last ih =>
    obtain ⟨hne, hlast⟩ := not_or.mp (mt List.mem_cons.mpr hlast)
    exact mem_of_mem_push hne (ih hlast h)

/-- What covers an edit that takes the place of an earlier one takes it as well. -/
lemma supersedes_of_covers {earlier : Edit} (hcovers : other.covers edit)
    (h : edit.supersedes earlier) : other.supersedes earlier := by
  rw [Edit.covers_iff] at hcovers
  rw [Edit.supersedes_iff] at h ⊢
  omega

/-- An edit stays beside one that is pushed, unless that one takes its place and is not covered by
an earlier one. -/
lemma Outermost.mem_push_iff (h : Outermost made edits) (hmem : edit ∈ edits.items)
    (hne : edit ≠ other) :
    edit ∈ (edits.push other).items ↔
      (other.supersedes edit → ∃ outer ∈ made, outer.covers other) := by
  have hnot : edit ∉ [other] := by simpa using hne
  unfold Edits.push
  split
  next hinsertion =>
    have hover : ¬ other.supersedes edit := by
      rw [Edit.isInsertion_iff] at hinsertion
      rw [Edit.supersedes_iff]
      omega
    refine iff_of_true ?_ fun h => absurd h hover
    split
    · exact hmem
    · exact List.mem_append_left _ hmem
  split
  next hcovered =>
    obtain ⟨outer, houter, hcovers⟩ := List.any_eq_true.mp hcovered
    exact iff_of_true hmem fun _ => ⟨outer, h.mem houter, hcovers⟩
  next hcovered =>
    rw [List.mem_append, or_iff_left hnot, List.mem_filter, and_iff_right hmem, Bool.not_eq_true',
      Bool.eq_false_iff]
    refine imp_congr_right fun _ => (false_iff _).mpr ?_
    rintro ⟨outer, houter, hcovers⟩
    obtain ⟨kept, hkept, hkeeps⟩ := h.covered outer houter (Edit.covers_iff.mp hcovers).1
    exact hcovered (List.any_eq_true.mpr ⟨kept, hkept, Edit.covers_trans hkeeps hcovers⟩)

/-- An edit stays when those that are pushed later and take its place are covered by earlier ones,
and only then. -/
lemma Outermost.mem_foldl_iff (h : Outermost made edits) (hlaminar : Laminar (made ++ last))
    (hmem : edit ∈ edits.items) (hlast : edit ∉ last) :
    edit ∈ (last.foldl Edits.push edits).items ↔
      ∀ other ∈ last, other.supersedes edit → ∃ outer ∈ made, outer.covers other := by
  induction last generalizing made edits with
  | nil => exact iff_of_true hmem (List.forall_mem_nil _)
  | cons other last ih =>
    obtain ⟨hne, hlast⟩ := not_or.mp (mt List.mem_cons.mpr hlast)
    have hiff := h.mem_push_iff hmem hne
    rw [List.append_cons] at hlaminar
    have hin : other ∈ made ++ [other] ++ last := by simp
    have houtermost := h.push (hlaminar.forward other hin) fun earlier hearlier =>
      hlaminar.nested other hin earlier (by simp [hearlier])
    rw [List.foldl_cons, List.forall_mem_cons, ← hiff]
    by_cases hpush : edit ∈ (edits.push other).items
    · rw [ih houtermost hlaminar hpush hlast, and_iff_right hpush]
      refine forall₂_congr fun later _ => imp_congr_right fun hover => ⟨?_, ?_⟩
      · rintro ⟨outer, houter, hcovers⟩
        rcases List.mem_append.mp houter with houter | houter
        · exact ⟨outer, houter, hcovers⟩
        · -- what covers `later` takes the place of the edit, so it is covered itself
          obtain rfl := List.mem_singleton.mp houter
          obtain ⟨outer, houter, hcovers'⟩ := hiff.mp hpush (supersedes_of_covers hcovers hover)
          exact ⟨outer, houter, Edit.covers_trans hcovers' hcovers⟩
      · rintro ⟨outer, houter, hcovers⟩
        exact ⟨outer, List.mem_append_left _ houter, hcovers⟩
    · exact iff_of_false (fun h => hpush (mem_of_mem_foldl hlast h)) fun h => hpush h.1

/-- An insertion that no earlier edit holds remains just when those made later that hold its place
or begin there are covered by earlier ones. -/
lemma mem_ofList_iff_of_insertion (hlaminar : Laminar (first ++ edit :: last))
    (hempty : edit.start = edit.stop) (hinside : ∀ other ∈ first, ¬ other.hasInside edit.start)
    (hlast : edit ∉ last) :
    edit ∈ (ofList (first ++ edit :: last)).items ↔
      ∀ other ∈ last, other.start ≤ edit.start → edit.start < other.stop →
        ∃ outer ∈ first, outer.covers other := by
  rw [List.append_cons] at hlaminar
  have hfirst : Outermost first (ofList first) := ofList_outermost
    ⟨fun other hother => hlaminar.forward other (by simp [hother]),
      fun a ha b hb => hlaminar.nested a (by simp [ha]) b (by simp [hb])⟩
  have hin : edit ∈ first ++ [edit] ++ last := by simp
  have hpushed : edit ∈ ((ofList first).push edit).items := by
    unfold push
    rw [if_pos (Edit.isInsertion_iff.mpr (Nat.le_of_eq hempty.symm)), if_neg ?_]
    · exact List.mem_append_right _ (List.mem_singleton_self edit)
    · rw [Bool.not_eq_true, List.any_eq_false]
      exact fun other hother => hinside other (hfirst.mem hother)
  have houtermost := hfirst.push (hlaminar.forward edit hin) fun other hother =>
    hlaminar.nested edit hin other (by simp [hother])
  rw [ofList, List.foldl_append, List.foldl_cons]
  refine (houtermost.mem_foldl_iff hlaminar hpushed hlast).trans (forall₂_congr fun other _ => ?_)
  rw [Edit.supersedes_iff, ← hempty]
  constructor
  · intro h hle hlt
    obtain ⟨outer, houter, hcovers⟩ := h ⟨hle, Nat.le_of_lt hlt, hlt⟩
    refine ⟨outer, (List.mem_append.mp houter).resolve_right fun hself => ?_, hcovers⟩
    rw [List.mem_singleton.mp hself, Edit.covers_iff] at hcovers
    omega
  · rintro h ⟨hle, -, hlt⟩
    obtain ⟨outer, houter, hcovers⟩ := h hle hlt
    exact ⟨outer, List.mem_append_left _ houter, hcovers⟩

end Edits

end Stencil

namespace Stencil.Erasure

open Text
open TypeScript (Tree Kind Span)

variable {source : List Char} {tree node child : Tree} {edits : List Edit} {edit : Edit}
  {text : String} {offset : Nat}

/-! ### Where assignments are inserted -/

/-- Whether an offset is between two parts of a block. -/
structure InBlock (block : Tree) (offset : Nat) : Prop where
  isBlock : block.isKind .statementBlock
  cut : IsCut block offset
  start : block.start < offset
  stop : offset < block.stop

/-- Of the blocks in a tree, an offset is between two parts of one only. -/
lemma InBlock.unique (htree : tree.Every (Tree.Nested source)) {a b : Tree} (ha : a ∈ tree.nodes)
    (hb : b ∈ tree.nodes) (hina : InBlock a offset) (hinb : InBlock b offset) : a = b := by
  have hbelow {outer inner child : Tree} (houter : outer ∈ tree.nodes)
      (hchild : child ∈ outer.children) (hinner : inner ∈ child.nodes)
      (hinOuter : InBlock outer offset) (hinInner : InBlock inner offset) : False := by
    have hsound := htree.of_mem houter
    have hwithin := Within.of_mem_nodes (hsound.of_child hchild) hinner
    obtain ⟨hstart, -, hstop⟩ := hwithin
    have := hinOuter.cut.outside hsound.self hchild
    have := hinInner.start
    have := hinInner.stop
    simp only [Tree.start, Tree.stop] at *
    omega
  rcases nodes_cases htree ha hb with heq | ⟨child, hchild, hin⟩ | ⟨child, hchild, hin⟩ | hapart
  · exact heq
  · exact (hbelow ha hchild hin hina hinb).elim
  · exact (hbelow hb hchild hin hinb hina).elim
  · have := hina.start
    have := hina.stop
    have := hinb.start
    have := hinb.stop
    omega

/-- The end of a part that is named is in the block. -/
lemma InBlock.of_part {block part : Tree} (hsound : block.Sound source)
    (hblock : block.isKind .statementBlock) (hpart : part ∈ block.children)
    (hnamed : part.isNamed) : InBlock block part.stop := by
  have hbetween := (between_braces hsound hblock).2 part hpart hnamed
  have hspan := hsound.ordered.mem hpart
  exact ⟨hblock, .childStop hpart, by omega, by omega⟩

/-- What comes right after the opening brace is in the block. -/
lemma InBlock.of_opening {block : Tree} (hsound : block.Sound source)
    (hblock : block.isKind .statementBlock) : InBlock block (block.start + 1) := by
  obtain ⟨opening, inner, closing, comments, hchildren, -, hspan, -, -, -⟩ :=
    hsound.regular.self.block hblock
  have htwo := (between_braces hsound hblock).1
  have hcut : IsCut block opening.stop := .childStop (by simp [hchildren])
  rw [Tree.stop, hspan] at hcut
  exact ⟨hblock, hcut, by omega, by omega⟩

/-- Whether a text begins with a space: those of assignments do. -/
def IsSpaced (text : String) : Prop := text.toList.head? = some ' '

instance : DecidablePred IsSpaced := fun text =>
  inferInstanceAs (Decidable (text.toList.head? = some ' '))

lemma isSpaced_append {first second : String} (hfirst : first ≠ "") :
    IsSpaced (first ++ second) ↔ IsSpaced first := by
  rw [IsSpaced, String.toList_append, List.head?_append]
  rcases hlist : first.toList with _ | ⟨c, cs⟩
  · exact absurd (String.toList_eq_nil_iff.mp hlist) hfirst
  · simp [IsSpaced, hlist]

lemma not_isSpaced_lineFeeds (chars : List Char) : ¬ IsSpaced (lineFeeds chars) := by
  rw [IsSpaced, lineFeeds, String.toList_ofList]
  cases Text.countLineFeeds chars <;> simp [List.replicate_succ]

/-- A return type that is moved takes some bytes. -/
lemma not_insertion_of_returnType (hsound : tree.Sound source)
    (h : .insert offset text ∈ moveReturnType source tree) : ¬ IsSpaced text := by
  rcases moveReturnType_cases source tree with hnone | ⟨type, _, htype, -, hfeeds, hpair⟩
  · rw [hnone] at h
    cases h
  rw [hpair, List.mem_cons, List.mem_singleton] at h
  rcases h with h | h
  · have hnested := (hsound.of_child (Tree.mem_of_child? htype)).nested.self
    obtain ⟨_, _, -, hbefore, hsize⟩ :=
      (⟨hnested.start, hnested.stop, hnested.le⟩ : type.span.IsSlice source).slice_eq
    obtain ⟨hstart, hstop, -⟩ := Edit.mk.inj h
    have hnil : type.chars source = [] := eq_nil_of_size_eq_zero (by
      simp only [Tree.start, Tree.stop] at hstart hstop
      rw [Tree.chars]
      omega)
    rw [hnil] at hfeeds
    cases hfeeds
  · cases h
    exact not_isSpaced_lineFeeds _

lemma not_mem_namespaceFrame {body : Tree} {name : String} (hspaced : IsSpaced text) :
    .insert offset text ∉ namespaceFrame source tree body name := by
  intro hmem
  simp only [namespaceFrame, List.mem_cons, List.not_mem_nil, or_false] at hmem
  rcases hmem with hedit | hedit <;> obtain ⟨-, -, htext⟩ := Edit.mk.inj hedit <;> cases htext <;>
    simp only [String.append_assoc] at hspaced <;> rw [isSpaced_append (by decide)] at hspaced <;>
    exact absurd hspaced (by decide)

/-- The assignments of properties are inserted in the body of the constructor. -/
lemma parameterProperties_inBlock (htree : tree.Sound source)
    (hkind : tree.isKind .methodDefinition) (h : parameterProperties source tree = .ok edits)
    (hmem : edit ∈ edits) :
    ∃ block, tree.child? .body = some block ∧ InBlock block edit.start := by
  unfold parameterProperties at h
  split at h
  next parameters body hparameters hbody =>
    split at h
    · simp only [bind_eq_ok_iff] at h
      obtain ⟨assigned, -, h⟩ := h
      split at h <;> rw [pure_eq_ok_iff] at h <;> subst h
      · cases hmem
      obtain rfl := List.mem_singleton.mp hmem
      have hblock := (htree.block_of_child?
        ⟨.methodDefinition, by simp [TypeScript.endingKinds], hkind⟩ hbody).1
      have hsound := htree.of_child (Tree.mem_of_child? hbody)
      refine ⟨body, hbody, ?_⟩
      dsimp only [Edit.insert]
      split
      next call hcall =>
        have hcall := List.mem_filter.mp (List.mem_of_find?_eq_some hcall)
        exact .of_part hsound hblock hcall.1 hcall.2
      next => exact .of_opening hsound hblock
    · cases h
      cases hmem
  · cases h
    cases hmem

/-- Where an assignment is inserted, by what calls for it: at the end of a statement of a namespace,
or between two parts of the body of a method. -/
lemma Generates.insertion (hsound : tree.Sound source)
    (h : Generates source tree (.insert offset text)) (hspaced : IsSpaced text) :
    ∃ block, tree.child? .body = some block ∧ InBlock block offset ∧
      (tree.isKind .methodDefinition ∨ ∃ name statement bindings, isNamespace tree ∧
        NamespaceForm.ofTree source tree = .ok (.present name block) ∧
        statement ∈ block.children ∧ statement.isKind .exportStatement ∧
        ((∃ names, ExportForm.classify source statement = .ok (.declaration names) ∧
          bindings = names.map .same) ∨
            ExportForm.classify source statement = .ok (.list bindings)) ∧
        .insert offset text = namespaceExport.assign name statement bindings) := by
  generalize hedit : Edit.insert offset text = edit at h
  cases h with
  | enumeration hkind henum =>
    unfold enumEdit at henum
    split at henum
    · simp only [bind_eq_ok_iff, pure_eq_ok_iff] at henum
      obtain ⟨filled, -, rfl⟩ := henum
      obtain ⟨-, -, htext⟩ := Edit.mk.inj hedit
      cases htext
      simp only [String.append_assoc] at hspaced
      rw [isSpaced_append (by decide)] at hspaced
      exact absurd hspaced (by decide)
    · cases henum
  | frame hnamespace hform hframe =>
    rw [← hedit] at hframe
    exact absurd hframe (not_mem_namespaceFrame hspaced)
  | @assignment name body statement bindings hnamespace hform hstatement hkind hbindings =>
    have hbody := (child?_of_present hform).2
    have hblock := (hsound.block_of_child? (exists_endingKind hnamespace) hbody).1
    obtain ⟨hoffset, -, -⟩ := Edit.mk.inj hedit
    refine ⟨body, hbody, ?_, .inr ⟨name, statement, bindings, hnamespace, hform, hstatement, hkind,
      hbindings, rfl⟩⟩
    rw [hoffset]
    exact .of_part (hsound.of_child (Tree.mem_of_child? hbody)) hblock hstatement
      (Tree.isNamed_of_isKind hkind (by decide))
  | returnType hkind hreturn =>
    rw [← hedit] at hreturn
    exact absurd hspaced (not_insertion_of_returnType hsound hreturn)
  | properties hkind hedits hproperty =>
    obtain ⟨block, hbody, hin⟩ := parameterProperties_inBlock hsound hkind hedits hproperty
    subst hedit
    exact ⟨block, hbody, hin, .inl hkind⟩

/-! ### No assignment is inserted twice -/

lemma Generates.inside (hsound : tree.Sound source)
    (h : Generates source tree (.insert offset text)) (hspaced : IsSpaced text) :
    tree.start < offset ∧ offset < tree.stop := by
  obtain ⟨block, hbody, hin, -⟩ := h.insertion hsound hspaced
  have hspan := hsound.ordered.mem (Tree.mem_of_child? hbody)
  have hstart := hin.start
  have hstop := hin.stop
  omega

/-- What is inserted for a tree is called for by a node in it. -/
lemma exists_generates_of_erase {inClass : Bool} {next : Option Tree}
    (h : erase source inClass next tree = .ok edits) (hmem : .insert offset text ∈ edits) :
    ∃ inner ∈ tree.nodes, Generates source inner (.insert offset text) := by
  rcases erase_made h hmem with ⟨inner, hinner, ⟨range, -, heq⟩ | h⟩ | ⟨-, -, _, -, -, heq⟩
  · exact absurd (Edit.mk.inj heq).2.2 nofun
  · exact ⟨inner, hinner, h⟩
  · exact absurd (Edit.mk.inj heq).2.2 nofun

lemma inside_of_mem_erase {inClass : Bool} {next : Option Tree} (htree : tree.Sound source)
    (h : erase source inClass next tree = .ok edits) (hspaced : IsSpaced text)
    (hmem : .insert offset text ∈ edits) : tree.start < offset ∧ offset < tree.stop := by
  obtain ⟨inner, hinner, h⟩ := exists_generates_of_erase h hmem
  have hinside := h.inside (htree.of_mem hinner) hspaced
  obtain ⟨hstart, -, hstop⟩ := Within.of_mem_nodes htree.nested hinner
  simp only [Tree.start, Tree.stop] at *
  omega

/-- Between two parts of a block nothing is inserted for the parts. -/
lemma not_mem_erase_block {block : Tree} {inClass : Bool} {next : Option Tree}
    (hsound : block.Sound source) (h : erase source inClass next block = .ok edits)
    (hspaced : IsSpaced text) (hin : InBlock block offset) : .insert offset text ∉ edits := by
  intro hmem
  obtain ⟨inner, hinner, hgen⟩ := exists_generates_of_erase h hmem
  rcases Tree.mem_nodes_iff.mp hinner with rfl | ⟨part, hpart, hinner⟩
  · have hblock := Tree.isKind_iff.mp hin.isBlock
    obtain ⟨_, -, -, hmethod | ⟨_, _, _, hnamespace, -⟩⟩ := hgen.insertion hsound hspaced
    · simp [Tree.isKind, hblock] at hmethod
    · simp [isNamespace, Tree.isKind, hblock] at hnamespace
  · have hpartSound := hsound.of_child hpart
    have hinside := hgen.inside (hpartSound.of_mem hinner) hspaced
    obtain ⟨hstart, -, hstop⟩ := Within.of_mem_nodes hpartSound.nested hinner
    have houtside := hin.cut.outside hsound.nested.self hpart
    simp only [Tree.start, Tree.stop] at *
    omega

/-- A walk along trees makes an edit at most once when its steps do, each of them in its tree. -/
lemma Walks.count_le_one {step : Option Tree → Tree → Except Flaw (List Edit)} {trees : List Tree}
    {lo hi : Nat} (h : Walks step trees edits) (hordered : Tree.Ordered lo hi trees)
    (hstep : ∀ tree ∈ trees, ∀ next own, step next tree = .ok own → own.count edit ≤ 1 ∧
      (edit ∈ own → tree.start < edit.start ∧ edit.start ≤ tree.stop)) : edits.count edit ≤ 1 := by
  induction h generalizing lo with
  | nil => exact Nat.zero_le _
  | @cons tree trees own rest hown hrest ih =>
    obtain ⟨htree, htrees⟩ := List.forall_mem_cons.mp hstep
    obtain ⟨hcount, hin⟩ := htree _ _ hown
    obtain ⟨-, -, hordered⟩ := hordered
    rw [List.count_append]
    by_cases hmem : edit ∈ own
    · have hnone : rest.count edit = 0 := List.count_eq_zero.mpr fun hlater => by
        obtain ⟨first, other, last, own', rfl, hown', hlater⟩ := hrest.exists_of_mem hlater
        have hin' := (htrees other (by simp) _ _ hown').2 hlater
        have hspan := hordered.mem (show other ∈ first ++ other :: last by simp)
        have := hin hmem
        omega
      rwa [hnone]
    · rw [List.count_eq_zero.mpr hmem, Nat.zero_add]
      exact ih hordered htrees

/-- An export statement of a namespace is blanked, or its ranges are and the names that it gives are
assigned at its end. -/
lemma exportInNamespace_cases {owner : String} (hkind : tree.isKind .exportStatement)
    (h : exportInNamespace source owner tree = .ok edits) :
    ∃ form, ExportForm.classify source tree = .ok form ∧
      (form = .typeOnly ∧ edits = [blankTree tree] ∨
        form ≠ .typeOnly ∧ edits = (exportRanges source tree).map blankRange ++
          [namespaceExport.assign owner tree form.bindings]) := by
  rw [exportInNamespace, if_pos hkind, namespaceExport, bind_eq_ok_iff] at h
  obtain ⟨form, hform, h⟩ := h
  refine ⟨form, hform, ?_⟩
  split at h <;> cases h
  · exact .inl ⟨rfl, rfl⟩
  · rw [exportRanges_of_blankExport hkind hform]
    exact .inr ⟨by simp, rfl⟩
  · simp only [exportRanges, hkind, hform, if_true]
    exact .inr ⟨by simp, rfl⟩

/-- What is inserted for an export statement in a namespace is inserted once, at its end. -/
lemma exportInNamespace_count_le_one {owner : String}
    (h : exportInNamespace source owner tree = .ok edits) :
    edits.count (.insert offset text) ≤ 1 ∧
      (.insert offset text ∈ edits → tree.isKind .exportStatement ∧ offset = tree.stop) := by
  rcases hkind : tree.isKind .exportStatement with _ | _
  · rw [exportInNamespace, hkind] at h
    cases h
    exact ⟨Nat.zero_le _, fun hmem => absurd hmem List.not_mem_nil⟩
  obtain ⟨form, -, ⟨-, rfl⟩ | ⟨-, rfl⟩⟩ := exportInNamespace_cases hkind h
  · refine ⟨List.count_le_length, fun hmem => ?_⟩
    cases (Edit.mk.inj (List.mem_singleton.mp hmem)).2.2
  have hnot : .insert offset text ∉ (exportRanges source tree).map blankRange := fun hmem => by
    obtain ⟨range, -, heq⟩ := List.mem_map.mp hmem
    cases (Edit.mk.inj heq).2.2
  refine ⟨?_, fun hmem => ⟨rfl, ?_⟩⟩
  · rw [List.count_append, List.count_eq_zero.mpr hnot, Nat.zero_add]
    exact List.count_le_length
  · exact (Edit.mk.inj (List.mem_singleton.mp ((List.mem_append.mp hmem).resolve_left hnot))).1

/-- What a node other than an enum or a namespace inserts by itself is inserted once. -/
lemma ownEdits_count_le_one (hsound : tree.Sound source) (hspaced : IsSpaced text)
    (h : ownEdits source tree = .ok edits) : edits.count (.insert offset text) ≤ 1 := by
  have hblank {blanks : List Edit} (hblanks : ∀ blank ∈ blanks, blank.text = none) :
      blanks.count (.insert offset text) = 0 :=
    List.count_eq_zero.mpr fun hmem => absurd (hblanks _ hmem) nofun
  have htokens (texts : List String) : ∀ blank ∈ blankTokens texts tree.children,
      blank.text = none := by
    rw [blankTokens]
    exact List.forall_mem_map.mpr fun _ _ => rfl
  unfold ownEdits at h
  split at h
  case h_5 =>
    cases h
    rw [blankThis_eq, hblank (List.forall_mem_map.mpr fun _ _ => rfl)]
    exact Nat.zero_le _
  case h_7 =>
    simp only [bind_eq_ok_iff, pure_eq_ok_iff] at h
    obtain ⟨properties, hproperties, rfl⟩ := h
    rw [List.count_append, hblank (htokens _), Nat.zero_add]
    have hlength : properties.length ≤ 1 := by
      unfold parameterProperties at hproperties
      split at hproperties
      · split at hproperties
        · simp only [bind_eq_ok_iff] at hproperties
          obtain ⟨assigned, -, hproperties⟩ := hproperties
          split at hproperties <;> rw [pure_eq_ok_iff] at hproperties <;> subst hproperties <;>
            simp
        · cases hproperties
          exact Nat.zero_le _
      · cases hproperties
        exact Nat.zero_le _
    exact Nat.le_trans List.count_le_length hlength
  case h_9 =>
    cases h
    rw [List.count_eq_zero.mpr fun hmem => not_insertion_of_returnType hsound hmem hspaced]
    exact Nat.zero_le _
  case h_10 =>
    cases h
    exact Nat.zero_le _
  all_goals
    cases h
    rw [hblank (htokens _)]
    exact Nat.zero_le _

/-- Whether an export statement takes some bytes. -/
def IsForwardExport (tree : Tree) : Prop := tree.isKind .exportStatement → tree.start < tree.stop

/-- An assignment is inserted at most once for a tree. -/
theorem erase_count_le_one {inClass : Bool} {next : Option Tree} (htree : tree.Sound source)
    (hexports : tree.Every IsForwardExport) (hspaced : IsSpaced text)
    (h : erase source inClass next tree = .ok edits) :
    edits.count (.insert offset text) ≤ 1 := by
  induction tree using Tree.ofNodes generalizing inClass next edits with
  | h tree ih =>
    have hbelow {child inner : Tree} (hchild : child ∈ tree.children) (hinner : inner ∈ child.nodes)
        {inClass : Bool} {next : Option Tree} {own : List Edit}
        (hown : erase source inClass next inner = .ok own) :
        own.count (.insert offset text) ≤ 1 ∧
          (.insert offset text ∈ own → inner.start < offset ∧ offset < inner.stop) := by
      have hsound := (htree.of_child hchild).of_mem hinner
      exact ⟨ih child hchild inner hinner hsound ((hexports.of_child hchild).of_mem hinner) hown,
        inside_of_mem_erase hsound hown hspaced⟩
    cases erase_erases h with
    | member =>
      rw [List.count_eq_zero.mpr fun hmem => ?_]
      · exact Nat.zero_le _
      · rcases mem_blankMember hmem with heq | ⟨-, _, -, -, heq⟩ <;>
          exact absurd (Edit.mk.inj heq).2.2 nofun
    | whole | absent | enumeration => exact List.count_le_length
    | present hnamespace hform hinner =>
      rename_i name body inner
      have hbody := Tree.mem_of_child? (child?_of_present hform).2
      rw [List.count_append, List.count_eq_zero.mpr (not_mem_namespaceFrame hspaced), Nat.zero_add]
      refine (walks_of_eraseStatements hinner).count_le_one (htree.of_child hbody).ordered ?_
      intro statement hstatement next own hown
      obtain ⟨exported, hexported, rest, hrest, rfl⟩ := eraseStatement_ok.mp hown
      obtain ⟨hcount, hend⟩ := @exportInNamespace_count_le_one _ _ _ text offset _ hexported
      obtain ⟨hcount', hin⟩ := hbelow hbody (Tree.mem_nodes_of_mem_children hstatement) hrest
      have hforward : IsForwardExport statement :=
        ((hexports.of_child hbody).of_child hstatement).self
      rw [List.count_append, List.mem_append]
      by_cases hmem : .insert offset text ∈ exported
      · obtain ⟨hkind, hoffset⟩ := hend hmem
        have hlt := hforward hkind
        have hnone : rest.count (.insert offset text) = 0 := List.count_eq_zero.mpr fun hlater => by
          have := hin hlater
          omega
        rw [hnone]
        exact ⟨hcount, fun _ => by simp only [Edit.insert]; omega⟩
      · rw [List.count_eq_zero.mpr hmem, Nat.zero_add]
        refine ⟨hcount', fun h => ?_⟩
        have := hin (h.resolve_left hmem)
        simp only [Edit.insert]
        omega
    | assertion hassertion hchildren hfirst hvalue hinner =>
      rw [List.count_cons_of_ne (by simp [Edit.blank, Edit.insert])]
      exact (hbelow (by simp [hchildren]) (Tree.mem_nodes_self _) hinner).1
    | parts hkept hown hinner =>
      rename_i own inner
      have hwalks := walks_of_eraseAmong hinner
      rw [List.count_append]
      by_cases hmem : .insert offset text ∈ own
      · have hnone : inner.count (.insert offset text) = 0 :=
          List.count_eq_zero.mpr fun hlater => ?_
        · rw [hnone]
          exact ownEdits_count_le_one htree hspaced hown
        have hgenerates : Generates source tree (.insert offset text) := by
          rcases ownEdits_made hkept hown hmem with ⟨_, -, heq⟩ | h
          · exact absurd (Edit.mk.inj heq).2.2 nofun
          · exact h
        obtain ⟨block, hblock, hin, -⟩ := hgenerates.insertion htree hspaced
        obtain ⟨first, child, last, own', hchildren, hown', hlater⟩ := hwalks.exists_of_mem hlater
        have hchild : child ∈ tree.children := by simp [hchildren]
        have hinside := (hbelow hchild (Tree.mem_nodes_self child) hown').2 hlater
        have hstart := hin.start
        have hstop := hin.stop
        rcases htree.ordered.apart hchild (Tree.mem_of_child? hblock) with rfl | hapart
        · exact not_mem_erase_block (htree.of_child hchild) hown' hspaced hin hlater
        · omega
      · rw [List.count_eq_zero.mpr hmem, Nat.zero_add]
        refine hwalks.count_le_one htree.ordered fun child hchild next own hown => ?_
        obtain ⟨hcount, hin⟩ := hbelow hchild (Tree.mem_nodes_self child) hown
        exact ⟨hcount, fun hmem => by have := hin hmem; simp only [Edit.insert]; omega⟩

end Stencil.Erasure
