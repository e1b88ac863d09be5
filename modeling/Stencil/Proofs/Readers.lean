import Stencil.Proofs.Separation

/-!
# What readers of scripts read

`Reads` states that a reader in front of a text takes a tree from it and stands in front of what
follows. There is a lemma for each way to put readers together and for each part of the grammar that
generated statements are made of; an assignment is read from the parts that stand beside its sign
(`reads_assigning`).
-/

namespace Stencil.Script

/-! ### Tokens in front of texts -/

namespace Token

variable {text rest rest' start : List Char} {token token' : Token} {newline newline' : Bool}

/-- Whether a token is the first of a text, after a line end or not, with a rest behind it. -/
def Leads (text : List Char) (newline : Bool) (token : Token) (rest : List Char) : Prop :=
  ∃ start, skipSpace .between false text = some (start, newline) ∧ read start = some (token, rest)

/-- Whether a text begins with a token. -/
def Lexes (text : List Char) : Prop := ∃ newline token rest, Leads text newline token rest

lemma Leads.lexes (h : Leads text newline token rest) : Lexes text := ⟨newline, token, rest, h⟩

lemma Leads.unique (h : Leads text newline token rest) (h' : Leads text newline' token' rest') :
    newline' = newline ∧ token' = token ∧ rest' = rest := by
  obtain ⟨start, hskip, hread⟩ := h
  obtain ⟨start', hskip', hread'⟩ := h'
  rw [hskip] at hskip'
  obtain ⟨rfl, rfl⟩ := Prod.mk.inj (Option.some.inj hskip')
  rw [hread] at hread'
  obtain ⟨rfl, rfl⟩ := Prod.mk.inj (Option.some.inj hread')
  exact ⟨rfl, rfl, rfl⟩

/-- A space does not matter before a token. -/
lemma Leads.space (h : Leads text newline token rest) :
    Leads (' ' :: text) newline token rest := by
  obtain ⟨start, hskip, hread⟩ := h
  refine ⟨start, ?_, hread⟩
  rw [← List.singleton_append, passes_space rfl rfl]
  exact hskip

lemma Lexes.space (h : Lexes text) : Lexes (' ' :: text) := by
  obtain ⟨newline, token, rest, hleads⟩ := h
  exact hleads.space.lexes

/-- Whether a text spells a token where a space, a semicolon or a bracket comes behind it. -/
def Spells (text : List Char) (token : Token) : Prop :=
  ∀ c ∈ [' ', ';', '[', ']'], ∀ rest, Leads (text ++ c :: rest) false token (c :: rest)

/-- Whether a text is a name that is written without escapes. -/
def IsNameText (text : List Char) : Prop :=
  ∃ c cs, text = c :: cs ∧ isNameStart c ∧ ∀ d ∈ cs, isNamePart d

/-- The code points of what separates tokens. -/
def separatingPoints : List Nat :=
  [0x09, 0x0A, 0x0B, 0x0C, 0x0D, 0x20, 0xA0, 0x1680, 0x2000, 0x2001, 0x2002, 0x2003, 0x2004, 0x2005,
   0x2006, 0x2007, 0x2008, 0x2009, 0x200A, 0x2028, 0x2029, 0x202F, 0x205F, 0x3000, 0xFEFF]

lemma toNat_mem_separatingPoints {c : Char} (h : isSpace c ∨ isLineEnd c) :
    c.toNat ∈ separatingPoints := by
  have hfeed : '\n'.toNat = 10 := rfl
  have hreturn : '\r'.toNat = 13 := rfl
  have hblank : ' '.toNat = 32 := rfl
  have htab : '\t'.toNat = 9 := rfl
  simp only [isSpace, isLineEnd, Bool.or_eq_true, Bool.and_eq_true, beq_iff_eq, decide_eq_true_eq,
    ← Char.toNat_inj] at h
  simp only [separatingPoints, List.mem_cons, List.not_mem_nil, or_false]
  omega

/-- What separates tokens is no part of a name. -/
lemma not_isSpace_of_isNamePart {c : Char} (h : isNamePart c) :
    isSpace c = false ∧ isLineEnd c = false := by
  have hnone : ∀ n ∈ separatingPoints, isNamePart (Char.ofNat n) = false := by
    decide +kernel
  have hother (hspace : isSpace c ∨ isLineEnd c) : False := by
    have := hnone _ (toNat_mem_separatingPoints hspace)
    rw [Char.ofNat_toNat, h] at this
    cases this
  exact ⟨Bool.eq_false_iff.mpr fun h => hother (.inl h),
    Bool.eq_false_iff.mpr fun h => hother (.inr h)⟩

lemma readName_append {c : Char} {points : List Nat} {escaped : Bool} {fuel : Nat}
    (hname : ∀ d ∈ text, isNamePart d) (hc : isNamePart c = false) (hslash : c ≠ '\\')
    (hfuel : text.length < fuel) :
    readName fuel points escaped (text ++ c :: rest) =
      some (points.reverse ++ text.map Char.toNat, escaped, c :: rest) := by
  induction text generalizing points fuel with
  | nil =>
    obtain ⟨fuel, rfl⟩ := Nat.exists_eq_add_of_lt hfuel
    rw [List.nil_append, readName]
    · simp [hc]
    · intro rest heq
      exact absurd heq hslash
  | cons d text ih =>
    obtain ⟨fuel, rfl⟩ := Nat.exists_eq_add_one_of_ne_zero (Nat.ne_of_gt (Nat.zero_lt_of_lt hfuel))
    obtain ⟨hd, hname⟩ := List.forall_mem_cons.mp hname
    have hother : d ≠ '\\' := by
      rintro rfl
      exact absurd hd (by decide)
    rw [List.cons_append, readName, if_pos hd, ih hname (Nat.lt_of_succ_lt_succ hfuel)]
    · simp
    · intro rest heq
      exact absurd heq hother

lemma textOf_toNat (text : List Char) : textOf (text.map Char.toNat) = String.ofList text := by
  simp [textOf, Function.comp_def]

/-- A name that is written without escapes is read as it is written. -/
lemma IsNameText.spells (h : IsNameText text) :
    Spells text (.name (String.ofList text) false) := by
  obtain ⟨c, cs, rfl, hc, hcs⟩ := h
  intro d hd rest
  have hparts : ∀ e ∈ c :: cs, isNamePart e :=
    List.forall_mem_cons.mpr ⟨by simp [isNamePart, hc], hcs⟩
  have hend : isNamePart d = false ∧ d ≠ '\\' := by
    simp only [List.mem_cons, List.not_mem_nil, or_false] at hd
    rcases hd with rfl | rfl | rfl | rfl <;> exact ⟨by decide, by decide⟩
  refine ⟨(c :: cs) ++ d :: rest, ?_, ?_⟩
  · obtain ⟨hspace, hline⟩ := not_isSpace_of_isNamePart (hparts c List.mem_cons_self)
    have hslash : c ≠ '/' := by
      rintro rfl
      exact absurd hc (by decide)
    rw [List.cons_append, skipSpace, if_neg (by simp [hline]), if_neg (by simp [hspace])]
    all_goals
      intro rest heq
      exact absurd heq hslash
  · have hlength : (c :: cs).length < ((c :: cs) ++ d :: rest).length + 1 := by
      rw [List.length_append]
      omega
    rw [List.cons_append, read]
    · rw [if_pos (by simp [hc]), ← List.cons_append,
        readName_append hparts hend.1 hend.2 hlength]
      simp only [List.reverse_nil, List.nil_append, List.map_cons, ← textOf_toNat]
    all_goals
      rintro rfl
      exact absurd hc (by decide)

lemma readString_append {quote : Char} {rest : List Char} {points : List Nat} {fuel : Nat}
    (htext : ∀ d ∈ text, d ≠ quote ∧ d ≠ '\\' ∧ d ≠ '\n' ∧ d ≠ '\r') (hquote : quote ≠ '\\')
    (hfuel : text.length < fuel) :
    readString quote fuel points false (text ++ quote :: rest) =
      some (.text (.ofCodePoints (points.reverse ++ text.map Char.toNat)) false, rest) := by
  induction text generalizing points fuel with
  | nil =>
    obtain ⟨fuel, rfl⟩ := Nat.exists_eq_add_of_lt hfuel
    rw [List.nil_append, readString]
    · simp
    · exact hquote
  | cons d text ih =>
    obtain ⟨fuel, rfl⟩ := Nat.exists_eq_add_one_of_ne_zero (Nat.ne_of_gt (Nat.zero_lt_of_lt hfuel))
    obtain ⟨⟨hend, hslash, hfeed, hreturn⟩, htext⟩ := List.forall_mem_cons.mp htext
    rw [List.cons_append, readString]
    · rw [if_neg (by simpa using hend), if_neg (by simp [hfeed, hreturn]),
        ih htext (Nat.lt_of_succ_lt_succ hfuel)]
      simp
    · exact hslash

lemma isDigit_of_isNameStart {c : Char} (h : isNameStart c) : c.isDigit = false := by
  have hdollar : '$'.toNat = 36 := rfl
  have hline : '_'.toNat = 95 := rfl
  have hdigits : '0'.val.toNat = 48 ∧ '9'.val.toNat = 57 := ⟨rfl, rfl⟩
  have hletters : 'A'.val.toNat = 65 ∧ 'a'.val.toNat = 97 := ⟨rfl, rfl⟩
  have halpha : c.isAlpha = (decide (c.val ≥ 'A'.val ∧ c.val ≤ 'Z'.val) ||
      (decide (c.val ≥ 'a'.val) && decide (c.val ≤ 'z'.val))) := rfl
  rw [Bool.eq_false_iff]
  intro hdigit
  simp only [isNameStart, halpha, Bool.or_eq_true,
    Bool.and_eq_true, decide_eq_true_eq, beq_iff_eq, ← Char.toNat_inj, ge_iff_le,
    UInt32.le_iff_toNat_le] at h
  simp only [Char.isDigit, Bool.and_eq_true, decide_eq_true_eq, ge_iff_le,
    UInt32.le_iff_toNat_le] at hdigit
  simp only [Char.toNat] at *
  omega

/-- A point in front of a name is a mark of its own. -/
lemma leads_point {c : Char} (h : isNameStart c) (rest : List Char) :
    Leads ('.' :: c :: rest) false (.mark ".") (c :: rest) := by
  have hdigit := isDigit_of_isNameStart h
  have hpoint : c ≠ '.' := by
    rintro rfl
    exact absurd h (by decide)
  have hmarks : marks = marks.take 56 ++ "." :: ["@"] := by decide
  have hothers : ∀ sign ∈ marks.take 56, sign.toList.head?.any (· != '.') ∨ sign = "..." := by
    decide
  have hfind : marks.find? (fun sign => sign.toList.isPrefixOf ('.' :: c :: rest)) = some "." := by
    refine List.find?_eq_some_iff_append.mpr ⟨rfl, marks.take 56, ["@"], hmarks, fun sign hsign => ?_⟩
    rcases hothers sign hsign with hhead | rfl
    · rcases hlist : sign.toList with _ | ⟨d, ds⟩ <;> rw [hlist] at hhead
      · cases hhead
      · have hne : d ≠ '.' := by simpa using hhead
        simp [List.isPrefixOf, hne]
    · simp [List.isPrefixOf, hpoint.symm]
  refine ⟨_, rfl, ?_⟩
  rw [read]
  · rw [if_neg (by decide), if_neg (by simp [hdigit])]
    simp only [readMark, hfind]
    rfl
  all_goals decide

lemma leads_semicolon (rest : List Char) : Leads (';' :: rest) false (.mark ";") rest :=
  ⟨_, rfl, rfl⟩

lemma leads_opening (rest : List Char) : Leads ('[' :: rest) false (.mark "[") rest :=
  ⟨_, rfl, rfl⟩

lemma leads_closing (rest : List Char) : Leads (']' :: rest) false (.mark "]") rest :=
  ⟨_, rfl, rfl⟩

lemma leads_equals (rest : List Char) : Leads ('=' :: ' ' :: rest) false (.mark "=") (' ' :: rest) :=
  ⟨_, rfl, rfl⟩

lemma leads_plus (rest : List Char) : Leads ('+' :: ' ' :: rest) false (.mark "+") (' ' :: rest) :=
  ⟨_, rfl, rfl⟩

end Token

namespace Syntax

open Token (Leads Lexes)

variable {α β : Type} {c : Context} {s s' t : State} {text mid rest rest' : List Char}
  {token : Token} {newline : Bool} {parts : Parts} {tree left right key : Tree}

/-! ### States of a reader -/

/-- Whether a reader stands in front of a text. -/
structure State.Before (s : State) (text : List Char) : Prop where
  skips : Token.skipSpace .between false text = some (s.start, s.newline)
  reads : Token.read s.start = some (s.token, s.rest)
  group : s.group.2 ≤ s.index

/-- Whether a reader has gone on, and what it has met of names is the same. -/
structure State.Keeps (s s' : State) : Prop where
  index : s.index ≤ s'.index
  hasCover : s'.hasCover = s.hasCover
  vars : s'.vars = s.vars
  lexicals : s'.lexicals = s.lexicals
  functions : s'.functions = s.functions
  hoisted : s'.hoisted = s.hoisted
  privates : s'.privates = s.privates

lemma State.Keeps.refl (s : State) : s.Keeps s := ⟨Nat.le_refl _, rfl, rfl, rfl, rfl, rfl, rfl⟩

lemma State.Keeps.trans (h : s.Keeps s') (h' : s'.Keeps t) : s.Keeps t where
  index := Nat.le_trans h.index h'.index
  hasCover := h'.hasCover.trans h.hasCover
  vars := h'.vars.trans h.vars
  lexicals := h'.lexicals.trans h.lexicals
  functions := h'.functions.trans h.functions
  hoisted := h'.hoisted.trans h.hoisted
  privates := h'.privates.trans h.privates

/-- In front of a text a reader has its first token at hand. -/
lemma State.Before.leads (h : s.Before text) : Leads text s.newline s.token s.rest :=
  ⟨s.start, h.skips, h.reads⟩

lemma State.Before.of_leads (h : s.Before text) (hleads : Leads text newline token rest) :
    s.newline = newline ∧ s.token = token ∧ s.rest = rest :=
  hleads.unique h.leads

/-- A reader in front of a space is in front of what follows it. -/
lemma before_space : s.Before (' ' :: text) ↔ s.Before text := by
  have hskip : Token.skipSpace .between false (' ' :: text) =
      Token.skipSpace .between false text := by
    rw [← List.singleton_append, Token.passes_space rfl rfl, Bool.or_self]
  constructor
  · rintro ⟨hskips, hreads, hgroup⟩
    exact ⟨hskip ▸ hskips, hreads, hgroup⟩
  · rintro ⟨hskips, hreads, hgroup⟩
    exact ⟨hskip.trans hskips, hreads, hgroup⟩

/-- Whether a reader in front of a text takes something from it and then stands in front of the
rest. -/
def Reads (p : Reader α) (c : Context) (text rest : List Char) (a : α) : Prop :=
  ∀ s, s.Before text → ∃ s', p c s = some (a, s') ∧ s'.Before rest ∧ s.Keeps s'

/-! ### Putting readers together -/

namespace Reads

variable {p : Reader α} {f : α → Reader β} {a : α} {b : β}

protected lemma pure (a : α) : Reads (pure a) c text text a := fun s h => ⟨s, rfl, h, .refl s⟩

protected lemma bind (h : Reads p c text mid a) (hf : Reads (f a) c mid rest b) :
    Reads (p >>= f) c text rest b := by
  intro s hs
  obtain ⟨s', hp, hs', hkeeps⟩ := h s hs
  obtain ⟨t, ht, hafter, hkeeps'⟩ := hf s' hs'
  refine ⟨t, ?_, hafter, hkeeps.trans hkeeps'⟩
  simp only [bind, Reader.bind, hp]
  exact ht

lemma bind_state {g : State → Reader β}
    (h : ∀ s, s.Before text → Reads (g s) c text rest b) : Reads (state >>= g) c text rest b :=
  fun s hs => h s hs s hs

lemma bind_token {g : Token → Reader β} (hleads : Leads text newline token rest')
    (h : Reads (g token) c text rest b) : Reads (Syntax.token >>= g) c text rest b := by
  intro s hs
  obtain ⟨-, rfl, -⟩ := hs.of_leads hleads
  exact h s hs

lemma bind_context {g : Context → Reader β} (h : Reads (g c) c text rest b) :
    Reads (context >>= g) c text rest b := h

lemma bind_limit {g : Nat → Reader β} (h : Reads (g c.limit) c text rest b) :
    Reads (tokenLimit >>= g) c text rest b := h

lemma require {holds : Bool} (h : holds = true) : Reads (Syntax.require holds) c text text () := by
  rw [Syntax.require, if_pos h]
  exact .pure ()

/-- A space before a text does not matter. -/
lemma space (h : Reads p c text rest a) : Reads p c (' ' :: text) rest a :=
  fun s hs => h s (before_space.mp hs)

/-- A space after a text may be left to what reads on. -/
lemma of_space (h : Reads p c text (' ' :: rest) a) : Reads p c text rest a := by
  intro s hs
  obtain ⟨s', hp, hs', hkeeps⟩ := h s hs
  exact ⟨s', hp, before_space.mp hs', hkeeps⟩

/-- What is noted of `arguments` does not matter. -/
lemma noteArguments (uses : Bool) :
    Reads (modify fun s => { s with usesArguments := uses }) c text text () :=
  fun _ h => ⟨_, rfl, ⟨h.skips, h.reads, h.group⟩,
    ⟨Nat.le_refl _, rfl, rfl, rfl, rfl, rfl, rfl⟩⟩

end Reads

/-! ### Tokens -/

lemma reads_advance (hleads : Leads text newline token rest) (hrest : Lexes rest) :
    Reads advance c text rest () := by
  intro s hs
  obtain ⟨newline', token', rest', start, hskip, hread⟩ := hrest
  obtain ⟨-, -, rfl⟩ := hs.of_leads hleads
  refine ⟨{ s with
    token := token', newline := newline', start := start, rest := rest', behind := s.rest,
    index := s.index + 1 }, ?_, ⟨hskip, hread, Nat.le_succ_of_le hs.group⟩,
    ⟨Nat.le_succ _, rfl, rfl, rfl, rfl, rfl, rfl⟩⟩
  simp only [advance, loadToken, hskip, hread]

section Mark

variable {mark : String}

lemma reads_atMark (hleads : Leads text newline token rest) :
    Reads (atMark mark) c text text (token == .mark mark) := by
  intro s hs
  obtain ⟨-, rfl, -⟩ := hs.of_leads hleads
  exact ⟨s, rfl, hs, .refl s⟩

lemma reads_takeMark? (hleads : Leads text newline (.mark mark) rest) (hrest : Lexes rest) :
    Reads (takeMark? mark) c text rest true := by
  have hmark : (Token.mark mark == .mark mark) = true := beq_self_eq_true _
  refine .bind (reads_atMark hleads) ?_
  rw [hmark, if_pos rfl]
  exact .bind (reads_advance hleads hrest) (.pure _)

lemma reads_takeMark?_other (hleads : Leads text newline token rest) (hother : token ≠ .mark mark) :
    Reads (takeMark? mark) c text text false := by
  have hmark : (token == .mark mark) = false := beq_eq_false_iff_ne.mpr hother
  refine .bind (reads_atMark hleads) ?_
  rw [hmark, if_neg Bool.false_ne_true]
  exact .pure _

lemma reads_takeMark (hleads : Leads text newline (.mark mark) rest) (hrest : Lexes rest) :
    Reads (takeMark mark) c text rest () :=
  .bind (reads_takeMark? hleads hrest) (.require rfl)

lemma reads_takeWord?_other {word : String} (hleads : Leads text newline token rest)
    (hother : token ≠ .name word false) : Reads (takeWord? word) c text text false := by
  intro s hs
  obtain ⟨-, rfl, -⟩ := hs.of_leads hleads
  have hword : (s.token == .name word false) = false := beq_eq_false_iff_ne.mpr hother
  refine ⟨s, ?_, hs, .refl s⟩
  simp only [takeWord?, bind, Reader.bind, atWord, hword]
  rfl

end Mark

/-! ### Values -/

/-- Whether a token ends what an operator or an assignment stands beside, and no more than that. -/
def endsOperand (token : Token) : Prop :=
  token ∈ [.mark ";", .mark "]", .mark ")", .mark "=", .mark "+"]

/-- Whether a token ends an expression without a comma. -/
def endsAssignment (token : Token) : Prop := token ∈ [.mark ";", .mark "]", .mark ")"]

lemma endsOperand_of_endsAssignment (h : endsAssignment token) : endsOperand token := by
  simp only [endsAssignment, endsOperand, List.mem_cons, List.not_mem_nil, or_false] at h ⊢
  tauto

/-- A semicolon and a closing bracket end an expression. -/
lemma exists_leads_end {mark : Char} (hmark : mark ∈ [';', ']']) (rest : List Char) :
    ∃ token, endsAssignment token ∧ Leads (mark :: rest) false token rest := by
  simp only [List.mem_cons, List.not_mem_nil, or_false] at hmark
  rcases hmark with rfl | rfl
  · exact ⟨.mark ";", by simp [endsAssignment], Token.leads_semicolon rest⟩
  · exact ⟨.mark "]", by simp [endsAssignment], Token.leads_closing rest⟩

/-- Whether a word names a variable wherever an expression or a statement may begin. -/
def IsPlainName (c : Context) (word : String) : Prop :=
  isVariableName c word ∧ word ∉ ["async", "let", "yield"]

section Name

variable {word : String} {escaped : Bool} (hleads : Leads text newline (.name word escaped) rest)
  (hrest : Lexes rest)
include hleads hrest

lemma reads_variableName (hword : isVariableName c word) :
    Reads variableName c text rest word :=
  .bind_token hleads (.bind_context (.bind (.require hword)
    (.bind (reads_advance hleads hrest) (.pure _))))

lemma reads_namedVariable (hword : isVariableName c word) :
    Reads namedVariable c text rest (.name (.ofString word)) := by
  refine .bind (reads_variableName hleads hrest hword) ?_
  dsimp only
  split
  · exact .bind (.noteArguments _) (.pure _)
  · exact .pure _

lemma reads_primary_name (hword : IsPlainName c word) :
    Reads (primary parts) c text rest (.name (.ofString word)) := by
  refine .bind_token hleads ?_
  obtain ⟨hword, hother⟩ := hword
  have hnamed := reads_namedVariable hleads hrest hword
  simp only [wordExpression]
  split
  · exact hnamed
  split
  case h_7 => exact absurd List.mem_cons_self hother
  case h_8 => exact hnamed
  all_goals exact absurd hword (by simp [isVariableName, reservedWords])

end Name

lemma reads_primary_this (hleads : Leads text newline (.name "this" false) rest)
    (hrest : Lexes rest) : Reads (primary parts) c text rest .this :=
  .bind_token hleads (.bind (reads_advance hleads hrest) (.pure _))

lemma reads_primary_text {value : Utf16} (hleads : Leads text newline (.text value false) rest)
    (hrest : Lexes rest) : Reads (primary parts) c text rest (.literal (.text value)) :=
  .bind_token hleads (.bind_context (.bind (.require rfl)
    (.bind (reads_advance hleads hrest) (.pure _))))

lemma reads_primary_number {value : Float} (hleads : Leads text newline (.number value false) rest)
    (hrest : Lexes rest) : Reads (primary parts) c text rest (.literal (.number value)) :=
  .bind_token hleads (.bind_context (.bind (.require rfl)
    (.bind (reads_advance hleads hrest) (.pure _))))

/-! ### Expressions -/

/-- The context of an expression in brackets or in a statement of its own. -/
def Context.allowIn (c : Context) : Context := { c with noIn := false }

lemma reads_expression (hvalue : Reads (parts .assignment) c text rest tree)
    (hleads : Leads rest newline token rest') (hends : endsAssignment token)
    (hlimit : 0 < c.limit) : Reads (expression parts) c text rest tree := by
  have hcomma : token ≠ .mark "," := by
    rintro rfl
    simp [endsAssignment] at hends
  refine .bind hvalue (.bind_limit ?_)
  obtain ⟨limit, hlimit⟩ := Nat.exists_eq_add_of_lt hlimit
  rw [hlimit]
  exact .bind (.bind (reads_takeMark?_other hleads hcomma) (.pure _)) (.pure _)

lemma reads_freeExpression (hvalue : Reads (parts .assignment) c.allowIn text rest tree)
    (hleads : Leads rest newline token rest') (hends : endsAssignment token)
    (hlimit : 0 < c.limit) : Reads (freeExpression parts) c text rest tree :=
  have hexpression : Reads (expression parts) c.allowIn text rest tree :=
    reads_expression hvalue hleads hends hlimit
  hexpression

/-! ### Members -/

lemma reads_memberTail (hleads : Leads text newline token rest) (hends : endsOperand token)
    (fuel : Nat) (tree : Tree) :
    Reads (memberTail parts true (fuel + 1) false tree) c text text tree := by
  simp only [endsOperand, List.mem_cons, List.not_mem_nil, or_false] at hends
  rcases hends with rfl | rfl | rfl | rfl | rfl <;> exact .bind_token hleads (.pure _)

/-- A key in brackets. -/
lemma reads_memberTail_bracket {fuel : Nat} {newline' : Bool}
    (hleads : Leads text newline (.mark "[") mid) (hmid : Lexes mid)
    (hkey : Reads (parts .assignment) c.allowIn mid rest key)
    (hclosing : Leads rest newline' (.mark "]") rest') (hrest : Lexes rest')
    (hlimit : 0 < c.limit) {after : List Char}
    (htail : Reads (memberTail parts true fuel false (.member tree (.computed key) false)) c rest'
      after right) :
    Reads (memberTail parts true (fuel + 1) false tree) c text after right := by
  refine .bind_token hleads (.bind ?_ htail)
  exact .bind (reads_takeMark hleads hmid)
    (.bind (reads_freeExpression hkey hclosing (by simp [endsAssignment]) hlimit)
      (.bind (reads_takeMark hclosing hrest) (.pure _)))

/-- A name after a point. -/
lemma reads_memberTail_point {fuel : Nat} {newline' : Bool} {word : String} {escaped : Bool}
    (hleads : Leads text newline (.mark ".") mid)
    (hname : Leads mid newline' (.name word escaped) rest) (hrest : Lexes rest) {after : List Char}
    (htail : Reads (memberTail parts true fuel false
      (.member tree (.named (.ofString word)) false)) c rest after right) :
    Reads (memberTail parts true (fuel + 1) false tree) c text after right := by
  refine .bind_token hleads (.bind (reads_advance hleads hname.lexes) (.bind ?_ htail))
  exact .bind_token hname (.bind (reads_advance hname hrest) (.pure _))

/-- Whether a token begins a value that no operator stands before. -/
def beginsValue (c : Context) (token : Token) : Prop :=
  (∃ word escaped, token = .name word escaped ∧ IsPlainName c word) ∨
    token = .name "this" false ∨ (∃ value, token = .text value false) ∨
    ∃ value, token = .number value false

lemma reads_leftHandSide {first : Tree} (hleads : Leads text newline token rest')
    (hbegins : beginsValue c token) (hfirst : Reads (primary parts) c text mid first)
    (htail : Reads (memberTail parts true c.limit false first) c mid rest tree) :
    Reads (leftHandSide parts) c text rest tree := by
  have hother : token ≠ .name "new" false ∧ token ≠ .name "super" false := by
    rcases hbegins with ⟨word, escaped, rfl, hword, -⟩ | rfl | ⟨value, rfl⟩ | ⟨value, rfl⟩
    · constructor <;>
      · rintro ⟨⟩
        simp [isVariableName, reservedWords] at hword
    all_goals exact ⟨nofun, nofun⟩
  refine .bind_limit (.bind (reads_takeWord?_other hleads hother.1)
    (.bind (reads_takeWord?_other hleads hother.2) ?_))
  exact .bind hfirst htail

/-- A value without operators before or after it. -/
lemma reads_unary (hleads : Leads text newline token rest') (hbegins : beginsValue c token)
    (htree : Reads (leftHandSide parts) c text rest tree) {newline' : Bool} {token' : Token}
    {after : List Char} (hafter : Leads rest newline' token' after) (hends : endsOperand token') :
    Reads (unary parts) c text rest tree := by
  have hleft : Reads (unary.leftSide parts c) c text rest tree := by
    have hother : token' ≠ .mark "++" ∧ token' ≠ .mark "--" := by
      simp only [endsOperand, List.mem_cons, List.not_mem_nil, or_false] at hends
      rcases hends with rfl | rfl | rfl | rfl | rfl <;> exact ⟨nofun, nofun⟩
    refine .bind htree (.bind_state fun s hs => ?_)
    split
    · exact .pure _
    · exact .bind (reads_takeMark?_other hafter hother.1)
        (.bind (reads_takeMark?_other hafter hother.2) (.pure _))
  refine .bind_context (.bind_token hleads ?_)
  rcases hbegins with ⟨word, escaped, rfl, hword, -⟩ | rfl | ⟨value, rfl⟩ | ⟨value, rfl⟩
  · have hop : unaryOp? (.name word escaped) = none := by
      unfold unaryOp?
      split <;> simp_all [isVariableName, reservedWords]
    rw [hop]
    dsimp only
    split
    case h_1 => simp_all [isVariableName, reservedWords]
    case h_2 =>
      rw [if_neg]
      · exact hleft
      · simp_all [isVariableName]
    all_goals first
      | exact hleft
      | simp_all
  all_goals exact hleft

section Operand

variable {first : Tree} {newline' : Bool} {token' : Token} {after : List Char}
  (hleads : Leads text newline token rest') (hbegins : beginsValue c token)
  (hfirst : Reads (primary parts) c text mid first)
include hleads hbegins hfirst

lemma reads_operand (hafter : Leads mid newline' token' after) (hends : endsOperand token')
    (hlimit : 0 < c.limit) : Reads (unary parts) c text mid first := by
  obtain ⟨limit, hlimit⟩ := Nat.exists_eq_add_of_lt hlimit
  refine reads_unary hleads hbegins (reads_leftHandSide hleads hbegins hfirst ?_) hafter hends
  rw [hlimit]
  exact reads_memberTail hafter hends _ _

/-- A member that is named by an expression in brackets. -/
lemma reads_operand_bracket {opens closes : Bool} {inner closing : List Char}
    (hopening : Leads mid opens (.mark "[") inner) (hinner : Lexes inner)
    (hkey : Reads (parts .assignment) c.allowIn inner closing key)
    (hclosing : Leads closing closes (.mark "]") rest) (hafter : Leads rest newline' token' after)
    (hends : endsOperand token') (hlimit : 1 < c.limit) :
    Reads (unary parts) c text rest (.member first (.computed key) false) := by
  obtain ⟨limit, hlimit'⟩ := Nat.exists_eq_add_of_le' hlimit
  refine reads_unary hleads hbegins (reads_leftHandSide hleads hbegins hfirst ?_) hafter hends
  rw [hlimit']
  exact reads_memberTail_bracket hopening hinner hkey hclosing hafter.lexes (by omega)
    (reads_memberTail hafter hends _ _)

/-- A member that is named after a point. -/
lemma reads_operand_point {word : String} {escaped points names : Bool} {inner : List Char}
    (hpoint : Leads mid points (.mark ".") inner)
    (hname : Leads inner names (.name word escaped) rest) (hafter : Leads rest newline' token' after)
    (hends : endsOperand token') (hlimit : 1 < c.limit) :
    Reads (unary parts) c text rest (.member first (.named (.ofString word)) false) := by
  obtain ⟨limit, hlimit'⟩ := Nat.exists_eq_add_of_le' hlimit
  refine reads_unary hleads hbegins (reads_leftHandSide hleads hbegins hfirst ?_) hafter hends
  rw [hlimit']
  exact reads_memberTail_point hpoint hname hafter.lexes (reads_memberTail hafter hends _ _)

end Operand

/-! ### Operators and assignments -/

/-- Whether a tree is a value by itself; a private name is one only before `in`. -/
def isValue : Tree → Bool
  | .privateName _ => false
  | _              => true

lemma reads_climb (hleads : Leads text newline token rest) (hends : endsOperand token)
    (hplus : token ≠ .mark "+") (fuel least start : Nat) (htree : isValue tree) :
    Reads (climb parts (fuel + 1) least start tree) c text text tree := by
  have hop : infixOp? c.noIn token = none := by
    simp only [endsOperand, List.mem_cons, List.not_mem_nil, or_false] at hends
    rcases hends with rfl | rfl | rfl | rfl | rfl
    all_goals first
      | rfl
      | exact absurd rfl hplus
  refine .bind_context (.bind_token hleads ?_)
  rw [hop]
  cases tree with
  | privateName => cases htree
  | _ => exact .pure _

/-- A sum of two values. -/
lemma reads_climb_plus {newline' : Bool} {after : List Char}
    (hleads : Leads text newline (.mark "+") mid) (hmid : Lexes mid)
    (hright : Reads (parts .unary) c mid rest right)
    (hafter : Leads rest newline' token after) (hends : endsAssignment token) (fuel start : Nat)
    (hleftValue : isValue left) (hrightValue : isValue right) :
    Reads (climb parts (fuel + 2) 0 start left) c text rest (.binary .add left right) := by
  have hplus : token ≠ .mark "+" := by
    rintro rfl
    simp [endsAssignment] at hends
  have hends := endsOperand_of_endsAssignment hends
  have hcombine : ∀ s : State, s.Before rest →
      Reads (combine (.binary .add) left right) c rest rest (.binary .add left right) := by
    intro s hs
    cases left with
    | privateName => cases hleftValue
    | _ => exact .pure _
  refine .bind_context (.bind_token hleads ?_)
  refine .bind_state fun s hs => ?_
  refine .bind (.require (by simp [standsBeside])) (.bind (.require (by simp)) ?_)
  refine .bind (reads_advance hleads hmid) (.bind_state fun s' hs' => ?_)
  refine .bind hright (.bind (reads_climb hafter hends hplus fuel _ _ hrightValue) ?_)
  refine .bind_state fun s'' hs'' => .bind (.require (by simp [standsBeside])) ?_
  exact .bind (hcombine s'' hs'') (reads_climb hafter hends hplus fuel _ _ rfl)

lemma reads_conditional (hunary : Reads (parts .unary) c text mid left)
    (hclimb : ∀ start, Reads (climb parts c.limit 0 start left) c mid rest tree)
    (hleads : Leads rest newline token rest') (hends : endsOperand token) :
    Reads (conditional parts) c text rest tree := by
  have hother : token ≠ .mark "?" := by
    rintro rfl
    simp [endsOperand] at hends
  refine .bind_state fun s hs => .bind hunary (.bind_limit (.bind (hclimb s.index) ?_))
  exact .bind (reads_takeMark?_other hleads hother) (.pure _)

/-- A value that nothing is assigned to. -/
lemma reads_plainAssignment (hvalue : Reads (conditional parts) c text rest tree)
    (hleads : Leads rest newline token rest') (hends : endsAssignment token) :
    Reads (plainAssignment parts) c text rest tree := by
  intro s hs
  obtain ⟨t, ht, hbefore, hkeeps⟩ := hvalue { s with hasCover := false }
    ⟨hs.skips, hs.reads, hs.group⟩
  refine ⟨{ t with hasCover := s.hasCover || t.hasCover }, ?_,
    ⟨hbefore.skips, hbefore.reads, hbefore.group⟩, ⟨hkeeps.index, ?_, hkeeps.vars,
      hkeeps.lexicals, hkeeps.functions, hkeeps.hoisted, hkeeps.privates⟩⟩
  · obtain ⟨-, htoken, -⟩ := hbefore.of_leads hleads
    simp only [plainAssignment, bind, Reader.bind, state, modify, ht]
    simp only [endsAssignment, List.mem_cons, List.not_mem_nil, or_false] at hends
    cases t
    rcases hends with rfl | rfl | rfl <;> cases htoken <;> cases tree <;> rfl
  · rw [hkeeps.hasCover, Bool.or_false]

/-- An assignment to a member. -/
lemma reads_assigning {object value : Tree}
    (htarget : Reads (conditional parts) c text mid (.member object key false))
    (hleads : Leads mid newline (.mark "=") rest') (hrest' : Lexes rest')
    (hvalue : Reads (parts .assignment) c rest' rest value) :
    Reads (plainAssignment parts) c text rest (.assign (.member object key false) value) := by
  intro s hs
  obtain ⟨t, ht, hbefore, hkeeps⟩ := htarget { s with hasCover := false }
    ⟨hs.skips, hs.reads, hs.group⟩
  obtain ⟨t', ht', hbefore', hkeeps'⟩ := reads_advance (c := c) hleads hrest' t hbefore
  obtain ⟨t'', ht'', hbefore'', hkeeps''⟩ := hvalue t' hbefore'
  have hkeeps := (hkeeps.trans hkeeps').trans hkeeps''
  refine ⟨{ t'' with hasCover := s.hasCover || t''.hasCover }, ?_,
    ⟨hbefore''.skips, hbefore''.reads, hbefore''.group⟩,
    ⟨hkeeps.index, ?_, hkeeps.vars, hkeeps.lexicals, hkeeps.functions, hkeeps.hoisted,
      hkeeps.privates⟩⟩
  · obtain ⟨-, htoken, -⟩ := hbefore.of_leads hleads
    simp only [plainAssignment, bind, Reader.bind, state, modify, ht, htoken, assignOp?, assigned,
      isLiteralPattern, simpleTarget, Bool.false_eq_true, if_false, pure, Reader.pure, ht', ht'']
  · rw [hkeeps.hasCover, Bool.or_false]

/-- Whether a token begins a value or is a sign before one. -/
def beginsSigned (c : Context) (token : Token) : Prop :=
  beginsValue c token ∨ token = .mark "-" ∨ token = .mark "+"

/-- Where no arrow function may begin, an expression without a comma is a plain one. -/
lemma reads_assignment (hleads : Leads text newline token rest') (hbegins : beginsSigned c token)
    (hplain : Reads (plainAssignment parts) c text rest tree) :
    Reads (assignment parts) c text rest tree := by
  refine .bind_token hleads ?_
  split
  case h_4 => exact hplain
  all_goals simp [beginsSigned, beginsValue, IsPlainName] at hbegins

/-! ### Statements -/

lemma reads_endStatement (hleads : Leads text newline (.mark ";") rest) (hrest : Lexes rest) :
    Reads endStatement c text rest () := by
  refine .bind_state fun s hs => ?_
  obtain ⟨-, htoken, -⟩ := hs.of_leads hleads
  rw [htoken]
  exact reads_advance hleads hrest

/-- An expression as a statement, up to its semicolon. -/
lemma reads_expressionStatement (hvalue : Reads (parts .assignment) c.allowIn text mid tree)
    (hleads : Leads mid newline (.mark ";") rest) (hrest : Lexes rest) (hlimit : 0 < c.limit) :
    Reads (expressionStatement parts) c text rest (.expression tree) :=
  .bind (reads_freeExpression hvalue hleads (by simp [endsAssignment]) hlimit)
    (.bind (reads_endStatement hleads hrest) (.pure _))

/-- Whether a token begins a statement that is an expression. -/
def beginsExpression (c : Context) (token : Token) : Prop :=
  (∃ word escaped, token = .name word escaped ∧ IsPlainName c word) ∨ token = .name "this" false

lemma reads_atVariable (hleads : Leads text newline token rest) :
    ∃ b, Reads atVariable c text text b := by
  cases token with
  | name => exact ⟨_, .bind_token hleads (.bind_context (.pure _))⟩
  | _ => exact ⟨_, .bind_token hleads (.pure _)⟩

/-- No label stands before a token other than a colon. -/
lemma reads_atLabel {newline' : Bool} {token' : Token} (hleads : Leads text newline token rest)
    (hafter : Leads rest newline' token' rest') (hcolon : token' ≠ .mark ":") :
    Reads atLabel c text text false := by
  obtain ⟨b, hvariable⟩ := reads_atVariable (c := c) hleads
  refine .bind hvariable ?_
  cases b with
  | false => exact .pure _
  | true =>
    have hahead : Reads (ahead (do advance; require (← atMark ":"))) c text text none := by
      intro s hs
      obtain ⟨t, ht, hbefore, -⟩ := reads_advance (c := c) hleads hafter.lexes s hs
      obtain ⟨-, rfl, -⟩ := hbefore.of_leads hafter
      have hmark : (t.token == .mark ":") = false := beq_eq_false_iff_ne.mpr hcolon
      refine ⟨s, ?_, hs, .refl s⟩
      simp only [ahead, bind, Reader.bind, ht, atMark, hmark, require, Bool.false_eq_true,
        if_false, fail, Option.map_none]
    exact .bind hahead (.pure _)

lemma reads_lexicalWord? (hleads : Leads text newline token rest)
    (hbegins : beginsExpression c token) : Reads lexicalWord? c text text none := by
  refine .bind_token hleads ?_
  rcases hbegins with ⟨word, escaped, rfl, hword, hother⟩ | rfl
  · split
    case h_1 => simp_all [isVariableName, reservedWords]
    case h_2 => simp_all
    case h_3 => exact .pure _
  · exact .pure _

/-- A statement that begins with a variable or with `this`, up to its semicolon. -/
theorem reads_item {newline' : Bool} {token' : Token} {after : List Char}
    (hleads : Leads text newline token rest') (hbegins : beginsExpression c token)
    (hafter : Leads rest' newline' token' after) (hcolon : token' ≠ .mark ":")
    (hstatement : Reads (expressionStatement parts) c text rest tree) :
    Reads (item parts) c text rest tree := by
  have hlexical := reads_lexicalWord? hleads hbegins
  have hword {word : String} (heq : token = .name word false) :
      Reads (wordStatement parts word) c text rest tree := by
    have hreserved : word = "this" ∨ word ∉ reservedWords := by
      rcases hbegins with ⟨_, _, rfl, hname, -⟩ | rfl
      · cases heq
        simp only [isVariableName, Bool.and_eq_true, Bool.not_eq_true', List.contains_eq_mem,
          decide_eq_false_iff_not] at hname
        exact .inr hname.1.1.1
      · exact .inl (Token.name.inj heq).1.symm
    unfold wordStatement
    split
    case h_16 => exact .bind (reads_atLabel hleads hafter hcolon) (.bind hlexical hstatement)
    all_goals exact absurd hreserved (by decide)
  have hitem : Reads (statement parts) c text rest tree := by
    refine .bind_token hleads ?_
    split
    case h_4 => exact hword rfl
    case h_5 => exact hstatement
    all_goals simp_all [beginsExpression, IsPlainName, isVariableName, reservedWords]
  refine .bind_token hleads ?_
  split
  case h_4 => exact .bind hlexical hitem
  all_goals simp_all [beginsExpression, IsPlainName, isVariableName, reservedWords]

/-- The statements of a block, up to its closing brace. -/
def blockItems (parts : Parts) (fuel : Nat) : Reader (List Tree) :=
  many (do return !(← atMark "\x7d")) (parts .item) fuel

/-- Whether a text writes these statements in front of others: a reader takes them one after another
and goes on with what follows as it would without them. -/
def Writes (c : Context) (text : List Char) (trees : List Tree) : Prop :=
  ∃ least, ∀ fuel ≥ least, ∀ limit rest after more, Lexes rest →
    Reads (blockItems (read fuel) limit) c rest after more → Lexes (text ++ rest) ∧
      Reads (blockItems (read fuel) (limit + trees.length)) c (text ++ rest) after (trees ++ more)

lemma writes_nil (c : Context) : Writes c [] [] :=
  ⟨0, fun _ _ _ _ _ _ hrest hmore => ⟨hrest, hmore⟩⟩

lemma Writes.append {trees trees' : List Tree} (h : Writes c text trees)
    (h' : Writes c mid trees') : Writes c (text ++ mid) (trees ++ trees') := by
  obtain ⟨least, h⟩ := h
  obtain ⟨least', h'⟩ := h'
  refine ⟨max least least', fun fuel hfuel limit rest after more hrest hmore => ?_⟩
  obtain ⟨hlexes, hreads⟩ := h' fuel (by omega) limit rest after more hrest hmore
  rw [List.append_assoc, List.append_assoc, List.length_append, Nat.add_comm trees.length,
    ← Nat.add_assoc]
  exact h fuel (by omega) _ _ _ _ hlexes hreads

/-- A statement in front of others is read as one of its own. -/
lemma writes_singleton (hbegins : beginsExpression c token)
    (hleads : ∀ rest, ∃ newline second, Leads (text ++ rest) newline token second)
    (hitem : ∃ least, ∀ fuel ≥ least, ∀ rest, Lexes rest →
      Reads (read fuel .item) c (text ++ rest) rest tree) : Writes c text [tree] := by
  obtain ⟨least, hitem⟩ := hitem
  refine ⟨least, fun fuel hfuel limit rest after more hrest hmore => ?_⟩
  obtain ⟨newline, second, hleads⟩ := hleads rest
  refine ⟨hleads.lexes, ?_⟩
  have hbrace : (token == .mark "\x7d") = false := by
    rcases hbegins with ⟨word, escaped, rfl, -⟩ | rfl <;> rfl
  have hgoes : Reads (do return !(← atMark "\x7d")) c (text ++ rest) (text ++ rest) true := by
    refine .bind (reads_atMark hleads) ?_
    rw [hbrace]
    exact .pure _
  exact .bind hgoes (.bind (hitem fuel hfuel rest hrest) (.bind hmore (.pure _)))

/-! ### Parts of the grammar -/

section Parts

variable {fuel : Nat} {newline' : Bool} {token' : Token} {after : List Char}

lemma reads_assignment_part (h : Reads (assignment (read fuel)) c text rest tree) :
    Reads (read (fuel + 1) .assignment) c text rest tree := h

lemma reads_unary_part (h : Reads (unary (read fuel)) c text rest tree) :
    Reads (read (fuel + 1) .unary) c text rest tree := h

lemma reads_item_part (h : Reads (item (read fuel)) c text rest tree) :
    Reads (read (fuel + 1) .item) c text rest tree := h

/-- A value without operators but signs as an expression of its own. -/
lemma reads_assignment_of_unary (hleads : Leads text newline token rest')
    (hbegins : beginsSigned c token) (hunary : Reads (unary (read fuel)) c text rest tree)
    (htree : isValue tree) (hafter : Leads rest newline' token' after)
    (hends : endsAssignment token') (hlimit : 0 < c.limit) :
    Reads (read (fuel + 2) .assignment) c text rest tree := by
  have hplus : token' ≠ .mark "+" := by
    rintro rfl
    simp [endsAssignment] at hends
  have hoperand := endsOperand_of_endsAssignment hends
  obtain ⟨limit, hlimit⟩ := Nat.exists_eq_add_of_lt hlimit
  refine reads_assignment_part (reads_assignment hleads hbegins (reads_plainAssignment
    (reads_conditional (reads_unary_part hunary) (fun start => ?_) hafter hoperand) hafter hends))
  rw [hlimit]
  exact reads_climb hafter hoperand hplus _ _ _ htree

/-- An assignment to a member as an expression of its own. -/
lemma reads_assignment_assigning {object value : Tree} {second assigned : List Char} {equals : Bool}
    (hleads : Leads text newline token second) (hbegins : beginsValue c token)
    (htarget : Reads (unary (read fuel)) c text mid (.member object key false))
    (hequals : Leads mid equals (.mark "=") assigned) (hassigned : Lexes assigned)
    (hvalue : Reads (read (fuel + 1) .assignment) c assigned rest value) (hlimit : 0 < c.limit) :
    Reads (read (fuel + 2) .assignment) c text rest (.assign (.member object key false) value) := by
  have hoperand : endsOperand (.mark "=") := by simp [endsOperand]
  obtain ⟨limit, hlimit'⟩ := Nat.exists_eq_add_of_le' hlimit
  refine reads_assignment_part (reads_assignment hleads (.inl hbegins)
    (reads_assigning ?_ hequals hassigned hvalue))
  refine reads_conditional (reads_unary_part htarget) (fun start => ?_) hequals hoperand
  rw [hlimit']
  exact reads_climb hequals hoperand nofun _ _ _ rfl

/-- A statement that assigns to a member. -/
theorem reads_item_assigning {object value : Tree} {second assigned : List Char}
    {equals ends : Bool} (hleads : Leads text newline token second)
    (hbegins : beginsExpression c.allowIn token) (hsecond : Leads second newline' token' after)
    (hcolon : token' ≠ .mark ":")
    (htarget : Reads (unary (read fuel)) c.allowIn text mid (.member object key false))
    (hequals : Leads mid equals (.mark "=") assigned) (hassigned : Lexes assigned)
    (hvalue : Reads (read (fuel + 1) .assignment) c.allowIn assigned rest' value)
    (hsemicolon : Leads rest' ends (.mark ";") rest) (hrest : Lexes rest) (hlimit : 0 < c.limit) :
    Reads (read (fuel + 3) .item) c text rest
      (.expression (.assign (.member object key false) value)) := by
  have hvalueBegins : beginsValue c.allowIn token := hbegins.imp_right .inl
  have hassignment := reads_assignment_assigning hleads hvalueBegins htarget hequals hassigned hvalue
    hlimit
  exact reads_item_part (reads_item hleads hbegins hsecond hcolon
    (reads_expressionStatement hassignment hsemicolon hrest hlimit))

/-- Whether a text is that of an expression without a comma, where a semicolon or a closing bracket
comes behind it. -/
def Denotes (c : Context) (text : List Char) (tree : Tree) : Prop :=
  ∃ least, ∀ fuel ≥ least, ∀ mark ∈ [';', ']'], ∀ rest, Lexes (text ++ mark :: rest) ∧
    Reads (read fuel .assignment) c (text ++ mark :: rest) (mark :: rest) tree

/-- A token that is a value by itself is an expression. -/
lemma denotes_of_spells (hspells : Token.Spells text token) (hbegins : beginsValue c token)
    (hprimary : ∀ {text rest newline} parts, Leads text newline token rest → Lexes rest →
      Reads (primary parts) c text rest tree) (htree : isValue tree) (hlimit : 0 < c.limit) :
    Denotes c text tree := by
  refine ⟨2, fun fuel hfuel mark hmark rest => ?_⟩
  obtain ⟨fuel, rfl⟩ := Nat.exists_eq_add_of_le' hfuel
  obtain ⟨token', hends, hafter⟩ := exists_leads_end hmark rest
  have hmark : mark ∈ [' ', ';', '[', ']'] := by
    simp only [List.mem_cons, List.not_mem_nil, or_false] at hmark ⊢
    tauto
  have hleads := hspells mark hmark rest
  exact ⟨hleads.lexes, reads_assignment_of_unary hleads (.inl hbegins)
    (reads_operand hleads hbegins (hprimary _ hleads hafter.lexes) hafter
      (endsOperand_of_endsAssignment hends) hlimit) htree hafter hends hlimit⟩

end Parts

end Syntax

end Stencil.Script
