import Stencil.Proofs.Shapes

/-!
# Lexemes and line feeds

Every lexeme takes at least one character, so that reading a part of the grammar that passes a check
goes on by at least one byte (`Reads.advances`). A name stands on one line (`Tree.Parsed.oneLine`),
and what stands before the end of a statement does not end in a line feed
(`endsInLine_statementEnd`).
-/

namespace Stencil.TypeScript

open Text

/-! ### Lengths of lexemes -/

lemma nameRest_pos {c : Char} {text : List Char} (h : isNamePart c) :
    0 < nameRest 0 (c :: text) := by
  unfold nameRest
  split
  · contradiction
  · contradiction
  next heq =>
    cases heq
    cases h
  next heq =>
    cases heq
    rw [if_pos h]
    omega

lemma name?_pos {text : List Char} {n : Nat} (h : name? text = some n) : 0 < n := by
  unfold name? at h
  split at h
  · cases h
  · split at h
    · cases h
    next hn =>
      cases h
      exact Nat.pos_of_ne_zero hn
  next c rest _ =>
    split at h
    next hstart =>
      cases h
      exact nameRest_pos (by simp [isNamePart, hstart])
    next => cases h

lemma digits?_pos {isDigit : Char → Bool} {text : List Char} {n : Nat} (hmark : isDigit '_' = false)
    (h : digits? isDigit text = some n) : 0 < n := by
  unfold digits? at h
  split at h
  next c rest =>
    split at h
    next hdigit =>
      cases h
      unfold digitRun
      split
      · contradiction
      next heq =>
        cases heq
        rw [hmark] at hdigit
        cases hdigit
      next heq =>
        cases heq
        rw [if_pos hdigit]
        omega
    next => cases h
  next => cases h

lemma le_withBigSuffix (text : List Char) (n : Nat) : n ≤ withBigSuffix text n := by
  unfold withBigSuffix
  split <;> omega

lemma number?_pos {text : List Char} {n : Nat} (h : number? text = some n) : 0 < n := by
  have hdigits {text : List Char} {n : Nat} (h : digits? Char.isDigit text = some n) : 0 < n :=
    digits?_pos (by decide) h
  unfold number? at h
  split at h
  next hbased =>
    cases h
    unfold basedNumber? at hbased
    split at hbased
    next base rest =>
      obtain ⟨m, -, rfl⟩ := Option.map_eq_some_iff.mp hbased
      have := le_withBigSuffix ('0' :: base :: rest) (m + 2)
      omega
    next => cases hbased
  next =>
    unfold decimalNumber? at h
    split at h
    · obtain ⟨m, -, rfl⟩ := Option.map_eq_some_iff.mp h
      omega
    · split at h
      · cases h
      next whole hwhole =>
        have := hdigits hwhole
        split at h
        · cases h
          omega
        · split at h
          · cases h
            exact Nat.lt_of_lt_of_le this (le_withBigSuffix text whole)
          · cases h
            omega

/-- Every lexeme takes at least one character, and so stands at the front of a text. -/
lemma Lexeme.length?_pos {lexeme : Lexeme} {text : List Char} {n : Nat}
    (hmark : lexeme ≠ .mark "") (h : lexeme.length? text = some n) : 0 < n := by
  unfold Lexeme.length? at h
  split at h
  · exact name?_pos h
  · split at h
    next hname =>
      split at h
      · cases h
      · cases h
        exact name?_pos hname
    next => cases h
  · split at h
    next hname =>
      split at h
      · cases h
        exact name?_pos hname
      · cases h
    next => cases h
  · unfold privateName? at h
    split at h
    · obtain ⟨m, -, rfl⟩ := Option.map_eq_some_iff.mp h
      omega
    · cases h
  · exact number?_pos h
  · obtain ⟨_, inner, _, -, -, rfl⟩ := string?_eq_some h
    omega
  · unfold regex? at h
    split at h
    · cases h
    · cases h
    · obtain ⟨m, -, rfl⟩ := Option.map_eq_some_iff.mp h
      omega
    · cases h
  · unfold hashBang? at h
    split at h
    · cases h
      omega
    · cases h
  next sign =>
    split at h
    · cases h
      refine Nat.pos_of_ne_zero fun hzero => hmark ?_
      rw [String.length_eq_zero_iff.mp hzero]
    · cases h

lemma size_take_pos {text : List Char} {n : Nat} (hn : 0 < n) (htext : text ≠ []) :
    0 < size (text.take n) := by
  obtain ⟨c, rest, rfl⟩ := List.exists_cons_of_ne_nil htext
  obtain ⟨m, rfl⟩ : ∃ m, n = m + 1 := ⟨n - 1, by omega⟩
  have := c.utf8Size_pos
  simp only [List.take_succ_cons, size_cons]
  omega

lemma size_take_isPrefixOf_pos {text : String} {rest : List Char} (htext : text ≠ "")
    (h : text.toList.isPrefixOf rest) : 0 < size (rest.take text.length) := by
  refine size_take_pos
    (Nat.pos_of_ne_zero fun hzero => htext (String.length_eq_zero_iff.mp hzero)) ?_
  rintro rfl
  exact htext (String.toList_eq_nil_iff.mp (List.prefix_nil.mp (List.isPrefixOf_iff_prefix.mp h)))

lemma size_take_longestMark_pos {text : List Char} (h : longestMark text ≠ "") :
    0 < size (text.take (longestMark text).length) := by
  refine size_take_pos (Nat.pos_of_ne_zero fun hzero => h (String.length_eq_zero_iff.mp hzero)) ?_
  rintro rfl
  exact h (by decide)

lemma Lexeme.size_take_pos {lexeme : Lexeme} {text : List Char} {n : Nat}
    (hmark : lexeme ≠ .mark "") (h : lexeme.length? text = some n) : 0 < size (text.take n) := by
  refine TypeScript.size_take_pos (length?_pos hmark h) ?_
  rintro rfl
  cases lexeme with
  | mark sign =>
    simp only [Lexeme.length?] at h
    split at h
    next hprefix =>
      have := List.prefix_nil.mp (List.isPrefixOf_iff_prefix.mp hprefix)
      exact hmark (by rw [String.toList_eq_nil_iff.mp this])
    next => cases h
  | _ => cases h

/-! ### Progress by at least one byte -/

namespace Rule

/-- Whether at least one byte is read whenever the rule fits. -/
def advances : GrammarRule → Bool
  | .leaf lexeme _                      => lexeme != .mark ""
  | .word text | .mark text | .glued text => text != ""
  | .operator texts                     => !texts.contains ""
  | .seq first second                   => advances first || advances second
  | .choice first second                => advances first && advances second
  | .node _ rule | .role _ rule | .adopt _ _ rule | .only _ rule => advances rule
  | .ref nonterminal                    => nonterminal != .classHead && nonterminal != .program
  | .grow base _                        => advances base
  | _                                   => false

end Rule

lemma advances_grammar {nonterminal : Nonterminal} (hhead : nonterminal ≠ .classHead)
    (hprogram : nonterminal ≠ .program) : (grammar nonterminal).advances := by
  have hall : nonterminals.all fun nonterminal =>
      nonterminal == .classHead || nonterminal == .program || (grammar nonterminal).advances := by
    decide +kernel
  have := List.all_eq_true.mp hall nonterminal (mem_nonterminals nonterminal)
  simpa [hhead, hprogram] using this

lemma Reads.advances {source : List Char} {rule : GrammarRule} {left trees : List Tree}
    {place later : Place} (h : Reads grammar rule left place trees later)
    (hplace : place.Valid source) (hrule : rule.advances) : place.position < later.position := by
  have htoken {n : Nat} {place : Place} (hplace : place.Valid source)
      (h : 0 < size (place.next.take n)) : place.position < (place.pass n).position := by
    have := hplace.position_le_start
    rw [Place.position_pass]
    omega
  induction h with
  | leaf hlexeme =>
    exact htoken hplace (Lexeme.size_take_pos (by simpa [Rule.advances] using hrule) hlexeme)
  | word hword =>
    refine htoken hplace ?_
    unfold wordLength? at hword
    split at hword
    next hprefix =>
      have := size_take_isPrefixOf_pos (by simpa [Rule.advances] using hrule) hprefix
      split at hword
      · cases hword
        exact this
      · split at hword
        · cases hword
        · cases hword
          exact this
    next => cases hword
  | mark hprefix =>
    exact htoken hplace (size_take_isPrefixOf_pos (by simpa [Rule.advances] using hrule) hprefix)
  | @operator texts _ place hmark =>
    refine htoken hplace (size_take_longestMark_pos fun hempty => ?_)
    rw [hempty] at hmark
    simp only [Rule.advances, hmark, Bool.not_true] at hrule
    cases hrule
  | glued hprefix =>
    have := size_take_isPrefixOf_pos (by simpa [Rule.advances] using hrule) hprefix
    rw [Place.position_passGlued]
    omega
  | seq hfirst hsecond ihfirst ihsecond =>
    obtain ⟨hmiddle, hle⟩ := hfirst.valid hplace
    obtain ⟨-, hle'⟩ := hsecond.valid hmiddle
    simp only [Rule.advances, Bool.or_eq_true] at hrule
    rcases hrule with hrule | hrule
    · exact Nat.lt_of_lt_of_le (ihfirst hplace hrule) hle'
    · exact Nat.lt_of_le_of_lt hle (ihsecond hmiddle hrule)
  | first _ ih =>
    simp only [Rule.advances, Bool.and_eq_true] at hrule
    exact ih hplace hrule.1
  | second _ ih =>
    simp only [Rule.advances, Bool.and_eq_true] at hrule
    exact ih (hplace.withReach _) hrule.2
  | node _ ih | role _ ih | adopt _ ih | only _ ih => exact ih hplace hrule
  | ref _ ih =>
    simp only [Rule.advances, Bool.and_eq_true, bne_iff_ne] at hrule
    exact ih hplace (advances_grammar hrule.1 hrule.2)
  | grow hbase htails ih _ =>
    exact Nat.lt_of_lt_of_le (ih hplace hrule) (htails.valid (hbase.valid hplace).1).2
  | _ => cases hrule

/-! ### Texts without line feeds -/

/-- Whether a text holds no line feed. -/
def OneLine (text : List Char) : Prop := ∀ c ∈ text, c ≠ '\n'

instance : DecidablePred OneLine := fun text => List.decidableBAll (· ≠ '\n') text

namespace OneLine

variable {c : Char} {first second text : List Char}

lemma nil : OneLine [] := List.forall_mem_nil _

lemma cons (hc : c ≠ '\n') (h : OneLine text) : OneLine (c :: text) :=
  List.forall_mem_cons.mpr ⟨hc, h⟩

lemma append (hfirst : OneLine first) (hsecond : OneLine second) : OneLine (first ++ second) :=
  List.forall_mem_append.mpr ⟨hfirst, hsecond⟩

end OneLine

lemma isHexDigit_ne {c : Char} (h : isHexDigit c) : c ≠ '\n' := by
  rintro rfl
  cases h

lemma isNamePart_ne {c : Char} (h : isNamePart c) : c ≠ '\n' := by
  rintro rfl
  cases h

lemma oneLine_bracedHex {text : List Char} {n : Nat} (h : bracedHex? text = some n) :
    OneLine (text.take n) := by
  induction text generalizing n with
  | nil => cases h
  | cons c text ih =>
    unfold bracedHex? at h
    split at h
    next rest heq =>
      cases heq
      split at h
      next hdigit =>
        cases h
        exact .cons (isHexDigit_ne hdigit) (.cons (by decide) .nil)
      next => cases h
    next heq =>
      cases heq
      split at h
      next hdigit =>
        obtain ⟨m, hm, rfl⟩ := Option.map_eq_some_iff.mp h
        exact .cons (isHexDigit_ne hdigit) (ih hm)
      next => cases h
    next => contradiction

lemma oneLine_unicodeDigits {text : List Char} {n : Nat} (h : unicodeDigits? text = some n) :
    OneLine (text.take n) := by
  unfold unicodeDigits? at h
  split at h
  · obtain ⟨m, hm, rfl⟩ := Option.map_eq_some_iff.mp h
    exact .cons (by decide) (oneLine_bracedHex hm)
  · split at h
    next hdigits =>
      cases h
      simp only [Bool.and_eq_true] at hdigits
      obtain ⟨⟨⟨ha, hb⟩, hc⟩, hd⟩ := hdigits
      exact .cons (isHexDigit_ne ha) (.cons (isHexDigit_ne hb) (.cons (isHexDigit_ne hc)
        (.cons (isHexDigit_ne hd) .nil)))
    next => cases h
  · cases h

/-- The rest of a name holds no line feed, if what is passed over does not. -/
lemma oneLine_nameRest {skip : Nat} {text : List Char} (h : OneLine (text.take skip)) :
    OneLine (text.take (nameRest skip text)) := by
  fun_induction nameRest skip text with
  | case1 => exact .nil
  | case2 skip c rest ih =>
    obtain ⟨hc, hrest⟩ := List.forall_mem_cons.mp h
    rw [Nat.add_comm]
    exact .cons hc (ih hrest)
  | case3 rest n hn ih =>
    rw [Nat.add_comm]
    exact .cons (by decide) (.cons (by decide) (ih (oneLine_unicodeDigits hn)))
  | case4 => exact .nil
  | case5 c rest hnot hpart ih =>
    rw [Nat.add_comm]
    exact .cons (isNamePart_ne hpart) (ih .nil)
  | case6 => exact .nil

lemma oneLine_name {text : List Char} {n : Nat} (h : name? text = some n) :
    OneLine (text.take n) := by
  unfold name? at h
  split at h
  · cases h
  · split at h
    · cases h
    · cases h
      exact oneLine_nameRest .nil
  · split at h
    · cases h
      exact oneLine_nameRest .nil
    · cases h

/-- Whether a lexeme is a name. -/
def Lexeme.isName : Lexeme → Bool
  | .name | .nameExcept _ | .nameAmong _ | .privateName => true
  | _                                                   => false

lemma Lexeme.oneLine {lexeme : Lexeme} {text : List Char} {n : Nat} (hname : lexeme.isName)
    (h : lexeme.length? text = some n) : OneLine (text.take n) := by
  cases lexeme with
  | name => exact oneLine_name h
  | nameExcept words | nameAmong words =>
    simp only [length?] at h
    split at h
    next m hm =>
      split at h <;> cases h
      exact oneLine_name hm
    next => cases h
  | privateName =>
    simp only [length?, privateName?] at h
    split at h
    · obtain ⟨m, hm, rfl⟩ := Option.map_eq_some_iff.mp h
      exact .cons (by decide) (oneLine_name hm)
    · cases h
  | _ => cases hname

/-- The kinds of nodes that are names. -/
def nameKinds : List Kind :=
  [.identifier, .propertyIdentifier, .typeIdentifier, .shorthandPropertyIdentifierPattern]

variable {source : List Char} {tree : Tree}

lemma Place.Valid.slice_pass {place : Place} (h : place.Valid source) (n : Nat) :
    (⟨place.start, (place.pass n).position⟩ : Span).slice source = place.next.take n := by
  obtain ⟨first, hsource, hsize⟩ := h.next_eq
  have := Span.slice_append first (place.next.take n) (place.next.drop n)
  rwa [List.take_append_drop, ← hsource, hsize] at this

/-- Whether a rule makes nodes of these kinds of lexemes of some sort only. -/
def makesLexemes (kinds : List Kind) (p : Lexeme → Bool) : GrammarRule → Bool
  | .leaf lexeme given               => !kinds.contains given || p lexeme
  | .node given _ | .adopt given _ _ => !kinds.contains given
  | _                                => true

/-- A node of a kind that is only made of lexemes has the text of one. -/
lemma Tree.Parsed.exists_lexeme (h : tree.Parsed source) {kinds : List Kind} {p : Lexeme → Bool}
    (hcheck : allRules fun rule => rule.makers.all (makesLexemes kinds p))
    (hother : .comment ∉ kinds ∧ .stringFragment ∉ kinds) {kind : Kind}
    (hkind : kind ∈ kinds) (htree : tree.isKind kind) :
    ∃ lexeme text n, p lexeme ∧ lexeme.length? text = some n ∧ tree.chars source = text.take n := by
  have hcontains : kinds.contains kind := List.contains_iff_mem.mpr hkind
  rcases h with hcomment | ⟨bare, hbare, rfl⟩
  · rw [isKind_iff, hcomment.1] at htree
    obtain rfl := Symbol.kind.inj htree
    exact absurd hkind hother.1
  rw [Tree.isKind, Tree.symbol_withComments] at htree
  rw [Tree.chars, Tree.span_withComments]
  cases hbare.self with
  | token => simp at htree
  | fragment =>
    simp only [symbol_node, beq_iff_eq, Symbol.kind.injEq] at htree
    subst htree
    exact absurd hkind hother.2
  | leaf hplace hlexeme hrule =>
    simp only [symbol_node, beq_iff_eq, Symbol.kind.injEq] at htree
    subst htree
    have hname := hrule.check hcheck
    simp only [makesLexemes, hcontains, Bool.not_true, Bool.false_or] at hname
    rw [Tree.span, hplace.slice_pass]
    exact ⟨_, _, _, hname, hlexeme, rfl⟩
  | node _ hrule _ | adopt _ hrule _ =>
    simp only [symbol_node, beq_iff_eq, Symbol.kind.injEq] at htree
    subst htree
    have hname := hrule.check hcheck
    simp only [makesLexemes, hcontains, Bool.not_true] at hname
    cases hname

/-- A name stands on one line. -/
lemma Tree.Parsed.oneLine (h : tree.Parsed source) {kind : Kind} (hkind : kind ∈ nameKinds)
    (htree : tree.isKind kind) : OneLine (tree.chars source) := by
  obtain ⟨lexeme, text, n, hname, hlexeme, hchars⟩ :=
    h.exists_lexeme (p := Lexeme.isName) (by decide +kernel) (by decide) hkind htree
  rw [hchars]
  exact Lexeme.oneLine hname hlexeme

/-! ### Ends of blocks -/

/-- Whether a text does not end in a line feed. -/
def EndsInLine (text : List Char) : Prop := ∀ c, text.getLast? = some c → c ≠ '\n'

namespace EndsInLine

variable {first second text : List Char}

lemma of_oneLine (h : OneLine text) : EndsInLine text :=
  fun c hlast => h c (List.mem_of_getLast? hlast)

lemma append (hfirst : EndsInLine first) (hsecond : EndsInLine second) :
    EndsInLine (first ++ second) := by
  intro c hlast
  rw [List.getLast?_append, Option.or_eq_some_iff] at hlast
  rcases hlast with hlast | ⟨-, hlast⟩
  · exact hsecond c hlast
  · exact hfirst c hlast

/-- What comes last decides. -/
lemma append_right (h : EndsInLine second) (hne : second ≠ []) :
    EndsInLine (first ++ second) := by
  intro c hlast
  rw [List.getLast?_append, List.getLast?_eq_some_getLast hne, Option.some_or,
    ← List.getLast?_eq_some_getLast hne] at hlast
  exact h c hlast

end EndsInLine

lemma blockComment?_eq_some {text : List Char} {n : Nat} (h : blockComment? text = some n) :
    ∃ inner, text.take n = inner ++ ['*', '/'] := by
  induction text generalizing n with
  | nil => cases h
  | cons c text ih =>
    unfold blockComment? at h
    split at h
    next => contradiction
    next rest heq =>
      cases heq
      cases h
      exact ⟨[], rfl⟩
    next heq =>
      cases heq
      obtain ⟨m, hm, rfl⟩ := Option.map_eq_some_iff.mp h
      obtain ⟨inner, hinner⟩ := ih hm
      exact ⟨c :: inner, by rw [List.take_succ_cons, hinner, List.cons_append]⟩

lemma take_length_takeWhile (p : Char → Bool) (text : List Char) :
    text.take (text.takeWhile p).length = text.takeWhile p := by
  have := @List.take_left _ (text.takeWhile p) (text.dropWhile p)
  rwa [List.takeWhile_append_dropWhile] at this

/-- A comment does not end in a line feed. -/
lemma endsInLine_comment {text : List Char} {n : Nat} (h : comment? text = some n) :
    EndsInLine (text.take n) ∧ text.take n ≠ [] := by
  unfold comment? at h
  split at h
  next rest =>
    cases h
    rw [Nat.add_comm, List.take_succ_cons, List.take_succ_cons]
    refine ⟨.of_oneLine (.cons (by decide) (.cons (by decide) fun c hc => ?_)), by simp⟩
    rw [take_length_takeWhile] at hc
    have hbreak := List.all_eq_true.mp List.all_takeWhile c hc
    rintro rfl
    exact absurd hbreak (by decide)
  next rest =>
    obtain ⟨m, hm, rfl⟩ := Option.map_eq_some_iff.mp h
    obtain ⟨inner, hinner⟩ := blockComment?_eq_some hm
    rw [List.take_succ_cons, List.take_succ_cons, hinner]
    exact ⟨fun c hlast => by
      rw [show '/' :: '*' :: (inner ++ ['*', '/']) = ('/' :: '*' :: inner ++ ['*']) ++ ['/'] by
        simp, List.getLast?_concat] at hlast
      cases hlast
      decide, by simp⟩
  next => cases h

lemma endsInLine_leadingComment {text : List Char} {n : Nat} (h : leadingComment? text = some n) :
    EndsInLine (text.take n) := by
  obtain ⟨m, hm, rfl⟩ := Option.map_eq_some_iff.mp h
  obtain ⟨hends, hne⟩ := endsInLine_comment hm
  rw [List.take_add]
  exact hends.append_right hne

/-- What stands between the last token of a statement and its end does not end in a line feed. -/
lemma endsInLine_statementEnd {position : Position} {text : List Char} {n : Nat}
    (h : statementEnd? position text = some n) : EndsInLine (text.take n) := by
  have hwithin (fuel : Nat) {text : List Char} {n : Nat}
      (h : statementEndWithin? position fuel text = some n) : EndsInLine (text.take n) := by
    induction fuel generalizing text n with
    | zero =>
      unfold statementEndWithin? at h
      split at h <;> cases h
      exact .of_oneLine .nil
    | succ fuel ih =>
      unfold statementEndWithin? at h
      split at h
      · cases h
        exact .of_oneLine .nil
      · split at h
        next n hn =>
          obtain ⟨m, hm, rfl⟩ := Option.map_eq_some_iff.mp h
          rw [List.take_add]
          exact (endsInLine_leadingComment hn).append (ih hm)
        next => cases h
  unfold statementEnd? at h
  split at h
  · cases h
    exact .of_oneLine .nil
  · split at h
    next n hn =>
      obtain ⟨m, hm, rfl⟩ := Option.map_eq_some_iff.mp h
      rw [List.take_add]
      exact (endsInLine_leadingComment hn).append (hwithin _ hm)
    next => cases h

/-- The text up to the end of a statement whose last token does not end in a line feed does not end
in one either. -/
lemma Reads.endsInLine_ending {last : GrammarRule} {left trees : List Tree} {place later : Place}
    {first : List Char} (h : Reads grammar last left place trees later) (hlast : last.isEnding)
    (hsource : source = first ++ place.rest) (hsize : size first = place.position)
    (hends : EndsInLine first) :
    ∃ first last, source = first ++ last ∧ size first = later.position ∧ EndsInLine first := by
  unfold Rule.isEnding at hlast
  split at hlast
  next position =>
    cases h with
    | second h =>
      cases h
      exact ⟨first, place.rest, hsource, hsize, hends⟩
    | first h =>
      cases h with
      | endingHere => exact ⟨first, place.rest, hsource, hsize, hends⟩
      | @endingLater _ _ _ n hn =>
        refine ⟨first ++ place.rest.take n, place.rest.drop n, ?_, ?_, ?_⟩
        · rw [List.append_assoc, List.take_append_drop, hsource]
        · rw [size_append, hsize, Place.position_passGlued]
        · exact hends.append (endsInLine_statementEnd hn)
  next => cases hlast

/-- What is read between braces, up to the end of the statement, does not end in a line feed. -/
lemma Reads.endsInLine_block {rule : GrammarRule} {left trees : List Tree} {place later : Place}
    (h : Reads grammar rule left place trees later) (hplace : place.Valid source)
    (hrule : rule.isBlock) :
    place.start ≤ later.position ∧
      ∃ first last, source = first ++ last ∧ size first = later.position ∧ EndsInLine first := by
  unfold Rule.isBlock at hrule
  split at hrule
  next opening inner closing last =>
    simp only [Bool.and_eq_true, beq_iff_eq] at hrule
    obtain ⟨⟨rfl, rfl⟩, hlast⟩ := hrule
    cases h with | seq hopening h =>
    have hmiddle := (hopening.valid hplace).1
    have hle := (h.valid hmiddle).2
    cases h with | seq hinner h =>
    obtain ⟨hclosed, -⟩ := hinner.valid hmiddle
    cases h with | seq hclosing hending =>
    cases hopening with | mark hopening =>
    cases hclosing with | mark hclosing =>
    obtain ⟨first, hsource, hsize⟩ := hclosed.next_eq
    obtain ⟨rest, hnext⟩ := List.isPrefixOf_iff_prefix.mp hclosing
    constructor
    · rw [Place.position_pass] at hle
      omega
    have hbrace : EndsInLine ['\x7d'] := by
      rintro c ⟨⟩
      decide
    have hends : EndsInLine (first ++ ['\x7d']) := hbrace.append_right (List.cons_ne_nil _ _)
    refine hending.endsInLine_ending hlast ?_ ?_ hends
    · rw [hsource, Place.pass, Place.ahead, ← hnext, List.append_assoc]
      rfl
    · rw [size_append, hsize, Place.position_pass, ← hnext]
      rfl
  next => cases hrule

/-- The text up to the end of a block does not end in a line feed. -/
lemma Tree.Parsed.endsInLine_block (h : tree.Parsed source) (hkind : tree.isKind .statementBlock) :
    ∃ first last, source = first ++ last ∧ size first = tree.stop ∧ EndsInLine first := by
  obtain ⟨rule, trees, place, later, hrule, hplace, hread, -, hspan⟩ :=
    h.exists_rule Rule.isBlock hkind (by decide) (by decide +kernel)
  obtain ⟨hle, first, last, hsource, hsize, hends⟩ := hread.endsInLine_block hplace hrule
  refine ⟨first, last, hsource, ?_, hends⟩
  rw [Tree.stop, hspan, hsize]
  exact (Nat.max_eq_right hle).symm

end Stencil.TypeScript
