import Stencil.Proofs.Enums
import Stencil.Proofs.Feeds
import Stencil.Proofs.Leaves

/-!
# The initializers of enums

The value of a member is written on one line, with its tokens as they stand in the source but for
the members before it, which are qualified by the enum (`enumEdit_initializers`). A script reader
passes over what stands between them, white space and block comments, and sees no end of a line in
it. A line comment that ended at the end of its line goes on behind the value.
-/

namespace Stencil.TypeScript

open Text

/-! ### White space and comments as a text -/

/-- Whether a text is such white space, block comments and, if so, line comments. -/
inductive Trivia (space : Char → Bool) (lines : Bool) : List Char → Prop
  | nil : Trivia space lines []
  | space {c : Char} {text : List Char} (hc : space c) (h : Trivia space lines text) :
      Trivia space lines (c :: text)
  | block {inner text : List Char} (hinner : blockComment? inner = some inner.length)
      (h : Trivia space lines text) : Trivia space lines ('/' :: '*' :: (inner ++ text))
  | line {inner text : List Char} (hlines : lines) (hinner : ∀ c ∈ inner, isLineBreak c = false)
      (h : Trivia space lines text) : Trivia space lines ('/' :: '/' :: (inner ++ text))

lemma blockComment?_take {text : List Char} {n : Nat} (h : blockComment? text = some n) :
    blockComment? (text.take n) = some (text.take n).length := by
  fun_induction blockComment? text generalizing n with
  | case1 => cases h
  | case2 rest =>
    cases h
    rfl
  | case3 c rest hclosing ih =>
    obtain ⟨m, hm, rfl⟩ := Option.map_eq_some_iff.mp h
    rw [List.take_succ_cons, blockComment?, ih hm, Option.map_some, List.length_cons]
    rintro other rfl htake
    cases rest with
    | nil => cases hm
    | cons d rest =>
      cases m with
      | zero   => cases htake
      | succ m =>
        obtain ⟨rfl, -⟩ := List.cons.inj htake
        exact hclosing rest rfl rfl

/-- What is passed over is white space and comments. -/
lemma Skips.trivia {text rest : List Char} (h : Skips text rest) :
    ∃ middle, text = middle ++ rest ∧ Trivia isSpace true middle := by
  induction h with
  | refl => exact ⟨[], rfl, .nil⟩
  | @space c _ _ hc _ ih =>
    obtain ⟨middle, rfl, hmiddle⟩ := ih
    exact ⟨c :: middle, rfl, .space hc hmiddle⟩
  | @comment text rest n hn _ ih =>
    obtain ⟨middle, heq, hmiddle⟩ := ih
    unfold comment? at hn
    split at hn
    next other _ =>
      cases hn
      refine ⟨'/' :: '/' :: (other.takeWhile (fun c => !isLineBreak c) ++ middle), ?_,
        .line rfl (fun c hc => ?_) hmiddle⟩
      · have hsplit :=
          List.take_append_drop (other.takeWhile fun c => !isLineBreak c).length other
        rw [Nat.add_comm, List.drop_succ_cons, List.drop_succ_cons] at heq
        rw [take_length_takeWhile, heq] at hsplit
        rw [List.cons_append, List.cons_append, List.append_assoc, hsplit]
      · simpa using List.all_eq_true.mp List.all_takeWhile c hc
    next other _ =>
      obtain ⟨m, hm, rfl⟩ := Option.map_eq_some_iff.mp hn
      refine ⟨'/' :: '*' :: (other.take m ++ middle), ?_, .block (blockComment?_take hm) hmiddle⟩
      rw [List.drop_succ_cons, List.drop_succ_cons] at heq
      rw [List.cons_append, List.cons_append, List.append_assoc, ← heq, List.take_append_drop]
    next => cases hn

lemma Skipped.trivia {source : List Char} {lo hi : Nat} (h : Skipped source lo hi) :
    Trivia isSpace true ((⟨lo, hi⟩ : Span).slice source) := by
  obtain ⟨⟨first, rest, heq, rfl⟩, ⟨first', rest', heq', rfl⟩, hle, hskips⟩ := h
  obtain ⟨middle, rfl, rfl⟩ := exists_append_of_size_le (heq.symm.trans heq') hle
  obtain ⟨gap, hgap, htrivia⟩ := hskips.trivia
  rw [heq, after_append_size, ← heq, heq', after_append_size] at hgap
  rw [heq, size_append, Span.slice_append, List.append_cancel_right hgap]
  exact htrivia

/-- A slice is that of its first part and that of its second. -/
lemma Span.slice_append_slice {source : List Char} {lo mid hi : Nat} (hlo : IsBoundary source lo)
    (hmid : IsBoundary source mid) (hhi : IsBoundary source hi) (hle : lo ≤ mid) (hle' : mid ≤ hi) :
    (⟨lo, mid⟩ : Span).slice source ++ (⟨mid, hi⟩ : Span).slice source =
      (⟨lo, hi⟩ : Span).slice source := by
  obtain ⟨first, rest, rfl, rfl⟩ := hlo
  obtain ⟨second, rest, rfl, hsize⟩ := (isBoundary_append_iff hle).mp hmid
  obtain rfl : mid = size (first ++ second) := by rw [size_append]; omega
  rw [← List.append_assoc] at hhi
  obtain ⟨third, rest, rfl, hsize⟩ := (isBoundary_append_iff hle').mp hhi
  obtain rfl : hi = size (first ++ second) + size third := by omega
  have h := Span.slice_append first second (third ++ rest)
  have h' := Span.slice_append (first ++ second) third rest
  have h'' := Span.slice_append first (second ++ third) rest
  simp only [List.append_assoc, size_append, ← Nat.add_assoc] at h h' h'' ⊢
  rw [h, h', h'']

end Stencil.TypeScript

namespace Stencil.Erasure

open Text
open TypeScript (Tree Kind Span Skipped Trivia OneLine blockComment?)

variable {source : List Char} {tree program value : Tree} {trees : List Tree} {owner : String}
  {earlier : List String} {members : List Member} {member : Member} {lo hi : Nat}

/-! ### Texts with gaps -/

/-- Texts with gaps before, between and after them. -/
def interleave : (gaps parts : List (List Char)) → List Char
  | gap :: gaps, part :: parts => gap ++ part ++ interleave gaps parts
  | gap :: _, []               => gap
  | [], _                      => []

lemma map_interleave (f : Char → Char) (gaps parts : List (List Char)) :
    (interleave gaps parts).map f = interleave (gaps.map (List.map f)) (parts.map (List.map f)) := by
  induction gaps generalizing parts with
  | nil => rfl
  | cons gap gaps ih =>
    cases parts with
    | nil => rfl
    | cons part parts => simp only [interleave, List.map_append, ih, List.map_cons]

/-- The texts before, between and after trees. -/
def gapTexts (source : List Char) (stop cursor : Nat) (trees : List Tree) : List (List Char) :=
  (gaps stop cursor trees).map fun gap => gap.slice source

lemma gapTexts_cons (source : List Char) (stop cursor : Nat) (tree : Tree) (trees : List Tree) :
    gapTexts source stop cursor (tree :: trees) =
      (⟨cursor, tree.start⟩ : Span).slice source :: gapTexts source stop tree.stop trees := rfl

lemma length_gapTexts (source : List Char) (stop cursor : Nat) (trees : List Tree) :
    (gapTexts source stop cursor trees).length = trees.length + 1 := by
  induction trees generalizing cursor with
  | nil                => rfl
  | cons tree trees ih => rw [gapTexts_cons, List.length_cons, ih, List.length_cons]

lemma qualify_eq (source owner : List Char) (stop cursor : Nat) (trees : List Tree) :
    qualify source owner stop cursor trees =
      interleave (gapTexts source stop cursor trees)
        (trees.map fun tree => owner ++ '.' :: tree.chars source) := by
  induction trees generalizing cursor with
  | nil                => rfl
  | cons tree trees ih =>
    rw [qualify, ih, gapTexts_cons, List.map_cons, interleave, List.append_assoc _ owner]

lemma interleave_append (first second : List Char) (gaps parts : List (List Char)) :
    interleave ((first ++ second) :: gaps) parts = first ++ interleave (second :: gaps) parts := by
  cases parts with
  | nil               => rfl
  | cons part parts => simp only [interleave, List.append_assoc]

/-- What begins further to the front has a longer gap before it. -/
lemma slice_append_interleave {stop cursor mid : Nat} {parts : List (List Char)}
    (hcursor : IsBoundary source cursor) (hmid : IsBoundary source mid)
    (hstop : IsBoundary source stop) (hle : cursor ≤ mid) (hle' : mid ≤ stop)
    (htrees : ∀ tree ∈ trees, IsBoundary source tree.start ∧ mid ≤ tree.start) :
    (⟨cursor, mid⟩ : Span).slice source ++ interleave (gapTexts source stop mid trees) parts =
      interleave (gapTexts source stop cursor trees) parts := by
  cases trees with
  | nil =>
    have hslice := Span.slice_append_slice hcursor hmid hstop hle hle'
    simp only [gapTexts, gaps, List.map_cons, List.map_nil, ← hslice, interleave_append]
  | cons tree trees =>
    obtain ⟨hstart, hle'⟩ := htrees tree (List.mem_cons_self ..)
    have hslice := Span.slice_append_slice hcursor hmid hstart hle hle'
    rw [gapTexts_cons, gapTexts_cons, ← hslice, interleave_append]

lemma start_of_mem_filled (h : Tree.Filled source lo hi trees) (htree : tree ∈ trees) :
    IsBoundary source tree.start ∧ lo ≤ tree.start := by
  induction trees generalizing lo with
  | nil => cases htree
  | cons first trees ih =>
    obtain ⟨hskipped, hle, hrest⟩ := h
    rcases List.mem_cons.mp htree with rfl | htree
    · exact ⟨hskipped.stop, hskipped.le⟩
    · obtain ⟨hstart, hle'⟩ := ih hrest htree
      exact ⟨hstart, Nat.le_trans hskipped.le (Nat.le_trans hle hle')⟩

/-- What is put in the place of some trees leaves the others as they are. -/
lemma interleave_filter (p : Tree → Bool) (f : Tree → List Char)
    (h : Tree.Filled source lo hi trees) :
    interleave (gapTexts source hi lo (trees.filter p)) ((trees.filter p).map f) =
      interleave (gapTexts source hi lo trees)
        (trees.map fun tree => if p tree then f tree else tree.chars source) := by
  induction trees generalizing lo with
  | nil => rfl
  | cons tree trees ih =>
    obtain ⟨hskipped, hle, hrest⟩ := h
    rw [gapTexts_cons, List.map_cons, interleave, ← ih hrest]
    rcases hp : p tree with _ | _
    · have hstop := hrest.isBoundary_start
      have hslice := Span.slice_append_slice hskipped.start hskipped.stop hstop hskipped.le hle
      rw [List.filter_cons_of_neg (by simp [hp]), if_neg Bool.false_ne_true, Tree.chars,
        ← slice_append_interleave hskipped.start hstop hrest.isBoundary_stop
          (Nat.le_trans hskipped.le hle) hrest.le
          fun other hmem => start_of_mem_filled hrest (List.mem_of_mem_filter hmem)]
      exact congrArg (· ++ _) hslice.symm
    · rw [List.filter_cons_of_pos hp, if_pos rfl, gapTexts_cons, List.map_cons, interleave]

/-! ### Tokens of a value -/

/-- Whether a token names one of these members. -/
def isReference (source : List Char) (members : List String) (token : Tree) : Bool :=
  token.isKind .identifier && members.contains (token.text source)

/-- The places where a value refers to members are the tokens that name one. -/
lemma references_eq_filter {members : List String} (h : tree.Every (Tree.Parsed source)) :
    references source members tree = tree.tokens.filter (isReference source members) := by
  induction tree using Tree.ofChildren with
  | h tree ih =>
    have hreferences : references source members tree =
        if isReference source members tree then [tree]
        else tree.children.flatMap (references source members) := by
      obtain ⟨symbol, role, span, children⟩ := tree
      rw [references, referencesAmong_eq]
      rfl
    rw [hreferences]
    by_cases hchildren : tree.children = []
    · rw [hchildren, List.flatMap_nil]
      rcases hcomment : tree.isKind .comment with _ | _
      · rw [Tree.tokens_eq_singleton hchildren hcomment, List.filter_singleton]
        cases isReference source members tree <;> rfl
      · have hnot : isReference source members tree = false := by
          simp [isReference, Tree.isKind, Tree.isKind_iff.mp hcomment]
        rw [Tree.tokens_eq_nil hchildren hcomment, hnot]
        rfl
    · have hnot : isReference source members tree = false := by
        refine Bool.eq_false_iff.mpr fun hreference => hchildren ?_
        rw [isReference, Bool.and_eq_true] at hreference
        exact h.self.children_eq_nil (by decide) hreference.1
      rw [hnot, if_neg Bool.false_ne_true, Tree.tokens_eq_flatMap hchildren, List.filter_flatMap]
      exact List.flatMap_congr fun child hchild => ih child hchild (h.of_child hchild)

/-- A text on one line, with spaces in the place of line feeds. -/
def onOneLine (text : List Char) : List Char := text.map fun c => if c == '\n' then ' ' else c

lemma onOneLine_eq_self {text : List Char} (h : OneLine text) : onOneLine text = text := by
  have hself : ∀ c ∈ text, (if c == '\n' then ' ' else c) = id c :=
    fun c hc => if_neg (by simpa using h c hc)
  rw [onOneLine, List.map_congr_left hself, List.map_id]

/-- How a token stands in the value of a member behind these. -/
def respelled (source : List Char) (owner : String) (earlier : List String) (token : Tree) :
    List Char :=
  if isReference source earlier token then owner.toList ++ '.' :: token.chars source
  else onOneLine (token.chars source)

/-- A value is its tokens, and is written with them on one line, qualified where they name members
before it. -/
theorem initializerChars_eq (earlier : List String) (hvalue : value.Every (Tree.Parsed source))
    (howner : OneLine owner.toList)
    (htokens : Tree.Filled source value.start value.stop value.tokens) :
    value.chars source =
        interleave (gapTexts source value.stop value.start value.tokens)
          (value.tokens.map fun token => token.chars source) ∧
    initializerChars source owner earlier value =
        interleave ((gapTexts source value.stop value.start value.tokens).map onOneLine)
          (value.tokens.map (respelled source owner earlier)) := by
  constructor
  · have h := interleave_filter (fun _ => false) (fun _ => []) htokens
    rw [List.filter_false] at h
    exact h
  · rw [initializerChars, qualify_eq, references_eq_filter hvalue,
      interleave_filter _ _ htokens, map_interleave, List.map_map]
    refine congrArg _ (List.map_congr_left fun token htoken => ?_)
    rw [Function.comp_apply, respelled]
    split
    next hreference =>
      rw [isReference, Bool.and_eq_true] at hreference
      have hname : Kind.identifier ∈ TypeScript.nameKinds := by decide
      have hchars :=
        (hvalue token (Tree.mem_nodes_of_mem_tokens htoken)).oneLine hname hreference.1
      exact onOneLine_eq_self (howner.append (.cons (by decide) hchars))
    next => rfl

/-! ### What a script passes over -/

section Passing

open Script.Token (Passes isLineEnd passes_space passes_lineEnd skipSpace)

/-- Whether a script takes a character for white space, within a line or at its end. -/
def isScriptSpace (c : Char) : Bool := Script.Token.isSpace c || isLineEnd c

variable {text inner line : List Char}

lemma passes_onOneLine_singleton {c : Char} (h : isScriptSpace c) :
    Passes (onOneLine [c]) ((onOneLine [c]).any isLineEnd) := by
  rw [onOneLine, List.map_singleton]
  by_cases hfeed : c = '\n'
  · subst hfeed
    exact passes_space rfl rfl
  · rw [if_neg (by simpa using hfeed), List.any_cons, List.any_nil, Bool.or_false]
    rcases hline : isLineEnd c with _ | _
    · rw [isScriptSpace, hline, Bool.or_false] at h
      exact passes_space h hline
    · exact passes_lineEnd hline

/-- The rest of a block comment is passed over, also on one line. -/
lemma skipSpace_block_onOneLine (hinner : blockComment? inner = some inner.length) (before : Bool)
    (rest : List Char) :
    skipSpace .block before (onOneLine inner ++ rest) =
      skipSpace .between (before || (onOneLine inner).any isLineEnd) rest := by
  fun_induction blockComment? inner generalizing before with
  | case1 => cases hinner
  | case2 other =>
    obtain rfl : other = [] := by simpa using hinner
    rw [onOneLine, List.map_cons, List.map_cons, List.map_nil]
    exact congrArg (fun newline => skipSpace .between newline rest) (Bool.or_false before).symm
  | case3 c other hclosing ih =>
    obtain ⟨n, hn, hlength⟩ := Option.map_eq_some_iff.mp hinner
    obtain rfl : n = other.length := by simpa using hlength
    have ih := ih hn
    rw [onOneLine, List.map_cons, ← onOneLine, List.cons_append, skipSpace, ih, List.any_cons,
      Bool.or_assoc]
    have hsame {c d : Char} (h : (if c == '\n' then ' ' else c) = d) (hd : d ≠ ' ') : c = d := by
      split at h
      · exact absurd h.symm hd
      · exact h
    intro more hstar hslash
    cases other with
    | nil => cases hn
    | cons d other =>
      rw [onOneLine, List.map_cons, List.cons_append] at hslash
      exact hclosing other (hsame hstar (by decide))
        (congrArg (· :: other) (hsame (List.cons.inj hslash).1 (by decide)))

/-- White space and block comments are passed over on one line, as far as a script takes the white
space for such. -/
lemma passes_onOneLine (h : Trivia isScriptSpace false text) :
    Passes (onOneLine text) ((onOneLine text).any isLineEnd) := by
  induction h with
  | nil => exact Script.Token.passes_nil
  | @space c text hc _ ih =>
    have hfirst := (passes_onOneLine_singleton hc).append ih
    rwa [← List.any_append] at hfirst
  | @block inner text hinner _ ih =>
    have htext : onOneLine ('/' :: '*' :: (inner ++ text)) =
        '/' :: '*' :: onOneLine inner ++ onOneLine text := by simp [onOneLine]
    have hcomment : Passes ('/' :: '*' :: onOneLine inner)
        (('/' :: '*' :: onOneLine inner).any isLineEnd) := by
      intro before rest
      rw [List.cons_append, List.cons_append, skipSpace, skipSpace_block_onOneLine hinner]
      rfl
    rw [htext, List.any_append]
    exact hcomment.append ih
  | line hlines => cases hlines

/-- A line comment goes on to the end of the line. -/
lemma passes_lineComment (h : ∀ c ∈ line, isLineEnd c = false) :
    Passes ('/' :: '/' :: line ++ ['\n']) true := by
  intro before rest
  have hline : skipSpace .line before (line ++ '\n' :: rest) = skipSpace .between true rest := by
    induction line with
    | nil => rfl
    | cons c line ih =>
      obtain ⟨hc, hline⟩ := List.forall_mem_cons.mp h
      rw [List.cons_append, skipSpace, if_neg (by simp [hc]), ih hline]
  simpa [skipSpace] using hline

end Passing

/-! ### Values of members -/

/-- What a text that is written for a value behind these members has to do with its source. -/
structure Respelling (source : List Char) (owner : String) (earlier : List String) (value : Tree)
    (gaps : List (List Char)) (text : String) : Prop where
  /-- There is a gap before, between and after the tokens. -/
  length_eq : gaps.length = value.tokens.length + 1
  source_eq : value.chars source =
    interleave gaps (value.tokens.map fun token => token.chars source)
  text_eq : text.toList =
    interleave (gaps.map onOneLine) (value.tokens.map (respelled source owner earlier))
  /-- Between the tokens are only white space and comments. -/
  trivia : ∀ gap ∈ gaps, Trivia TypeScript.isSpace true gap
  /-- A script passes over them where no line comment is, and sees none of their line feeds. -/
  passes : ∀ gap ∈ gaps, Trivia isScriptSpace false gap →
    Script.Token.Passes (onOneLine gap) ((onOneLine gap).any Script.Token.isLineEnd)
  /-- From a line comment on, it passes over all that is on the line. -/
  swallows : ∀ gap ∈ gaps, ∀ first rest line, gap = first ++ '/' :: '/' :: rest →
    Trivia isScriptSpace false first → (∀ c ∈ line, Script.Token.isLineEnd c = false) →
    Script.Token.Passes (onOneLine first ++ ('/' :: '/' :: line ++ ['\n'])) true

lemma trivia_of_mem_gapTexts {gap : List Char} (h : Tree.Filled source lo hi trees)
    (hgap : gap ∈ gapTexts source hi lo trees) : Trivia TypeScript.isSpace true gap := by
  induction trees generalizing lo with
  | nil =>
    obtain rfl := List.mem_singleton.mp hgap
    exact Skipped.trivia h
  | cons tree trees ih =>
    rw [gapTexts_cons] at hgap
    rcases List.mem_cons.mp hgap with rfl | hgap
    · exact h.1.trivia
    · exact ih h.2.2 hgap

/-- A value that is filled by its tokens is respelled as it is written. -/
lemma exists_respelling (earlier : List String) (hvalue : value.Every (Tree.Parsed source))
    (howner : OneLine owner.toList)
    (htokens : Tree.Filled source value.start value.stop value.tokens) :
    ∃ gaps, Respelling source owner earlier value gaps
      (String.ofList (initializerChars source owner earlier value)) := by
  obtain ⟨hsource, htext⟩ := initializerChars_eq earlier hvalue howner htokens
  refine ⟨_, length_gapTexts .., hsource, by rw [String.toList_ofList, htext],
    fun gap hgap => trivia_of_mem_gapTexts htokens hgap, fun _ _ htrivia => passes_onOneLine htrivia,
    fun _ _ first _ line _ hfirst hline => ?_⟩
  have h := (passes_onOneLine hfirst).append (passes_lineComment hline)
  rwa [Bool.or_true] at h

/-- The value of a member is the child of its node in that role. -/
lemma Member.value_ofTree (h : Member.ofTree source tree = .ok member)
    (hvalue : member.value = some value) : tree.child? .value = some value := by
  unfold Member.ofTree at h
  rcases hassignment : tree.isKind .enumAssignment with _ | _
  · rw [hassignment, if_neg Bool.false_ne_true] at h
    dsimp only at h
    split at h
    · cases h
      cases hvalue
    · split at h <;> cases h
      cases hvalue
  · rw [hassignment, if_pos rfl] at h
    dsimp only at h
    split at h
    · cases h
      exact hvalue
    · split at h <;> cases h
      exact hvalue

lemma AreMembers.exists_of_mem (h : AreMembers source trees members) (hmember : member ∈ members) :
    ∃ tree ∈ trees, Member.ofTree source tree = .ok member := by
  induction h with
  | nil => cases hmember
  | @cons tree first trees members hfirst _ ih =>
    rcases List.mem_cons.mp hmember with rfl | hmember
    · exact ⟨tree, List.mem_cons_self .., hfirst⟩
    · obtain ⟨tree, htree, hof⟩ := ih hmember
      exact ⟨tree, List.mem_cons_of_mem _ htree, hof⟩

/-- The value of a member is a node of the enum. -/
lemma IsEnum.mem_nodes_value (h : IsEnum source tree owner members) (hmember : member ∈ members)
    (hvalue : member.value = some value) :
    ∃ parent ∈ tree.nodes, parent.child? .value = some value := by
  obtain ⟨name, body, -, hbody, -, hmembers⟩ := h
  obtain ⟨parent, hparent, hof⟩ := hmembers.exists_of_mem hmember
  refine ⟨parent, ?_, Member.value_ofTree hof hvalue⟩
  exact Tree.mem_nodes_iff.mpr (.inr ⟨body, Tree.mem_of_child? hbody,
    Tree.mem_nodes_of_mem_children (Tree.mem_children_of_mem_namedChildren hparent)⟩)

lemma Values.getElem?_eq {successor : Successor} {members before after : List Member}
    {values : List String} (h : Values source owner earlier successor members values)
    (hmembers : members = before ++ member :: after) (hvalue : member.value = some value) :
    values[before.length]? = some (String.ofList
      (initializerChars source owner (earlier ++ before.map Member.name) value)) := by
  induction before generalizing earlier successor members values with
  | nil =>
    subst hmembers
    cases h with
    | cons htext _ =>
      simp only [Member.text?, hvalue, Option.some.injEq, Prod.mk.injEq] at htext
      simp [← htext.1]
  | cons first before ih =>
    subst hmembers
    cases h with
    | cons _ hrest =>
      have ih := ih hrest rfl
      rw [List.append_assoc] at ih
      exact ih

/-- The text of a value is its tokens on one line, those that name earlier members qualified. -/
theorem enumEdit_initializers {edit : Edit} (hparse : TypeScript.parse source = .ok program)
    (htree : tree ∈ program.nodes) (hkind : tree.isKind .enumDeclaration)
    (h : enumEdit source tree = .ok edit) :
    ∃ owner members values, IsEnum source tree owner members ∧
      Values source owner [] (.number 0) members values ∧
      edit = .replace tree.start tree.stop
        (enumText owner (writtenMembers owner members values) ++ lineFeeds (tree.chars source)) ∧
      ∀ before member after value, members = before ++ member :: after →
        member.value = some value →
        ∃ gaps text, values[before.length]? = some text ∧
          Respelling source owner (before.map Member.name) value gaps text := by
  obtain ⟨owner, members, henum⟩ := exists_isEnum h
  rcases enumEdit_eq henum with ⟨values, hvalues, -, hok⟩ | ⟨_, _, _, _, _, herror⟩
  swap
  · rw [h] at herror
    cases herror
  rw [h, Except.ok.injEq] at hok
  refine ⟨owner, members, values, henum, hvalues, hok, ?_⟩
  intro before member after value hmembers hvalue
  obtain ⟨child, hchild, htree⟩ : ∃ child ∈ program.children, tree ∈ child.nodes := by
    rcases Tree.mem_nodes_iff.mp htree with rfl | htree
    · have hprogram := (TypeScript.parse_wellFormed hparse).isProgram
      rw [Tree.isKind_iff] at hkind hprogram
      rw [hkind] at hprogram
      cases hprogram
    · exact htree
  have hparsed := (TypeScript.parse_parsed hparse child hchild).of_mem htree
  have howner : OneLine owner.toList := by
    obtain ⟨name, _, hname, _, rfl, _⟩ := henum
    exact oneLine_ownName (List.mem_cons_self ..) hparsed.self hkind hname
  obtain ⟨parent, hparent, hrole⟩ := henum.mem_nodes_value (hmembers ▸ by simp) hvalue
  have hmem := Tree.mem_of_child? hrole
  have hparts := (hparsed.of_mem hparent).self.mem_parts_of_role hmem (Tree.role_of_child? hrole)
  have hcomment : value.isKind .comment = false := by
    simpa using (List.mem_filter.mp hparts).2
  have hnode : value ∈ child.nodes :=
    Tree.nodes_subset htree (Tree.nodes_subset hparent (Tree.mem_nodes_of_mem_children hmem))
  obtain ⟨gaps, hgaps⟩ := exists_respelling (before.map Member.name)
    ((hparsed.of_mem hparent).of_child hmem) howner
    (TypeScript.parse_tokens hparse hchild hnode hcomment)
  exact ⟨gaps, _, hvalues.getElem?_eq hmembers hvalue, hgaps⟩

/-- An enum with a member that refers to the one before it. -/
def siblingEnum : String := "enum E\x7bA=1,B=A/*c*/+\n1\x7d"

/-- Whether a node is that enum. -/
def isSiblingEnum (node : Tree) : Bool :=
  node.isKind .enumDeclaration && (enumEdit siblingEnum.toList node).toOption.isSome &&
  match node.child? .name, node.child? .body with
  | some name, some body =>
    name.text siblingEnum.toList == "E" &&
    (body.namedChildren.map fun child => (Member.ofTree siblingEnum.toList child).toOption.map
      fun member => (member.name, member.value.map fun value =>
        value.tokens.map (Tree.text siblingEnum.toList))) ==
      [some ("A", some ["1"]), some ("B", some ["A", "+", "1"])]
  | _, _ => false

/-- The reference is qualified, and the comment and the line feed stand between tokens. -/
theorem enumEdit_initializers_sibling :
    ∃ (program tree value : Tree) (edit : Edit) (gaps : List (List Char)) (text : String),
      TypeScript.parse siblingEnum.toList = .ok program ∧ tree ∈ program.nodes ∧
      tree.isKind .enumDeclaration ∧ enumEdit siblingEnum.toList tree = .ok edit ∧
      value.tokens.map (Tree.text siblingEnum.toList) = ["A", "+", "1"] ∧
      Respelling siblingEnum.toList "E" ["A"] value gaps text := by
  have heval : ((TypeScript.parse siblingEnum.toList).toOption.map fun tree =>
      tree.nodes.any isSiblingEnum) = some true := by
    decide +kernel
  obtain ⟨program, hparse, heval⟩ := exists_of_parse heval
  obtain ⟨tree, hnode, hsibling⟩ := List.any_eq_true.mp heval
  simp only [isSiblingEnum, Bool.and_eq_true, Option.isSome_iff_exists] at hsibling
  obtain ⟨⟨hkind, edit, hedit⟩, hshape⟩ := hsibling
  have hedit := toOption_eq_some hedit
  obtain ⟨owner, members, values, henum, -, -, hinitializers⟩ :=
    enumEdit_initializers hparse hnode hkind hedit
  obtain ⟨name, body, hname, hbody, rfl, hmembers⟩ := henum
  simp only [hname, hbody, Bool.and_eq_true, beq_iff_eq] at hshape
  obtain ⟨howner, hshape⟩ := hshape
  rw [hmembers.map_eq, List.map_eq_cons_iff] at hshape
  obtain ⟨first, rest, rfl, hfirst, hrest⟩ := hshape
  obtain ⟨second, rest, rfl, hsecond, hrest⟩ := List.map_eq_cons_iff.mp hrest
  obtain rfl := List.map_eq_nil_iff.mp hrest
  simp only [Function.comp_apply, Option.some.injEq, Prod.mk.injEq, Option.map_eq_some_iff]
    at hfirst hsecond
  obtain ⟨-, value, hvalue, htokens⟩ := hsecond
  obtain ⟨gaps, text, -, hrespelling⟩ := hinitializers [first] second [] value rfl hvalue
  rw [howner, List.map_singleton, hfirst.1] at hrespelling
  exact ⟨program, tree, value, edit, gaps, text, hparse, hnode, hkind, hedit, htokens, hrespelling⟩

end Stencil.Erasure
