import Stencil.Proofs.Initializers
import Stencil.Proofs.Shortest

/-!
# Numerals

What scripts take for a number, and what a number is written as. A number literal behind signs is a
numeral. Where the initializer of a member is taken for a number, a numeral writes that number
(`Numeral.eq_of_numericLiteral?`), and each number but infinity is written as one
(`numeral_writeNumber`).
-/

namespace Stencil.Number

variable {base d : Nat} {c : Char} {text rest places : List Char} {digits : List Nat}

/-! ### Digits -/

/-- A digit is a decimal digit or a letter of the alphabet without accents. -/
lemma digitValue?_range (h : digitValue? base c = some d) :
    (48 ≤ c.toNat ∧ c.toNat ≤ 57) ∨ (d = c.toNat - 97 + 10 ∧ 97 ≤ c.toNat ∧ c.toNat ≤ 122) ∨
      (d = c.toNat - 65 + 10 ∧ 65 ≤ c.toNat ∧ c.toNat ≤ 90) := by
  simp only [digitValue?, Option.ite_none_right_eq_some, Option.some.injEq] at h
  obtain ⟨hlt, rfl⟩ := h
  split at hlt
  next hdigit => exact .inl hdigit
  next hdigit =>
    rw [if_neg hdigit]
    split at hlt
    next hletter => exact .inr (.inl ⟨if_pos hletter, hletter⟩)
    next hletter =>
      rw [if_neg hletter]
      split at hlt
      next hcapital => exact .inr (.inr ⟨if_pos hcapital, hcapital⟩)
      next => exact absurd hlt (Nat.lt_irrefl _)

lemma digitValue?_lt (h : digitValue? base c = some d) : d < base := by
  simp only [digitValue?, Option.ite_none_right_eq_some, Option.some.injEq] at h
  obtain ⟨hlt, rfl⟩ := h
  exact hlt

lemma isDigit_of_digitValue? (h : digitValue? 10 c = some d) : c.isDigit := by
  have hlt := digitValue?_lt h
  obtain hdigit | ⟨rfl, -⟩ | ⟨rfl, -⟩ := digitValue?_range h
  · have hdigit : 48 ≤ c.val.toNat ∧ c.val.toNat ≤ 57 := hdigit
    simpa [Char.isDigit, UInt32.le_iff_toNat_le] using hdigit
  · omega
  · omega

/-- A digit is no white space. -/
lemma isBlank_of_digitValue? (h : digitValue? base c = some d) : Text.isBlank c = false := by
  have hrange := digitValue?_range h
  simp only [Text.isBlank, Bool.or_eq_false_iff, Bool.and_eq_false_iff, decide_eq_false_iff_not,
    beq_eq_false_iff_ne]
  omega

/-- Whether a text writes digits of a base, with low lines among them. -/
structure WritesDigits (base : Nat) (text : List Char) (digits : List Nat) : Prop where
  digits : List.Forall₂ (fun c d => digitValue? base c = some d) (text.filter (· ≠ '_')) digits
  plain : ∀ c ∈ text, Text.isBlank c = false

namespace WritesDigits

protected lemma nil (base : Nat) : WritesDigits base [] [] := ⟨.nil, nofun⟩

lemma lowLine (h : WritesDigits base text digits) : WritesDigits base ('_' :: text) digits :=
  ⟨h.digits, List.forall_mem_cons.mpr ⟨rfl, h.plain⟩⟩

lemma digit (hd : digitValue? base c = some d) (h : WritesDigits base text digits) :
    WritesDigits base (c :: text) (d :: digits) := by
  have hc : c ≠ '_' := by
    rintro rfl
    have hrange := digitValue?_range hd
    change (48 ≤ 95 ∧ 95 ≤ 57) ∨ (_ ∧ 97 ≤ 95 ∧ _) ∨ _ ∧ _ ∧ 95 ≤ 90 at hrange
    omega
  refine ⟨?_, List.forall_mem_cons.mpr ⟨isBlank_of_digitValue? hd, h.plain⟩⟩
  rw [List.filter_cons_of_pos (by simpa using hc)]
  exact .cons hd h.digits

lemma append {first second : List Char} {digits' : List Nat}
    (h : WritesDigits base first digits) (h' : WritesDigits base second digits') :
    WritesDigits base (first ++ second) (digits ++ digits') := by
  refine ⟨?_, List.forall_mem_append.mpr ⟨h.plain, h'.plain⟩⟩
  rw [List.filter_append]
  exact List.rel_append h.digits h'.digits

lemma isDigit (h : WritesDigits 10 text digits) : ∀ c ∈ text.filter (· ≠ '_'), c.isDigit := by
  have hdigits := h.digits
  clear h
  generalize text.filter (· ≠ '_') = plain at hdigits
  induction hdigits with
  | nil => exact fun c hc => absurd hc List.not_mem_nil
  | cons hd _ ih => exact List.forall_mem_cons.mpr ⟨isDigit_of_digitValue? hd, ih⟩

lemma exists_head (h : WritesDigits 10 text digits) (hne : digits ≠ []) (rest : List Char) :
    ∃ c ∈ (text.filter (· ≠ '_') ++ rest).head?, c.isDigit := by
  have hlength := h.digits.length_eq
  have hdigits := h.isDigit
  cases hfilter : text.filter (· ≠ '_') with
  | nil =>
    rw [hfilter] at hlength
    exact absurd (List.length_eq_zero_iff.mp hlength.symm) hne
  | cons c plain => exact ⟨c, rfl, hdigits c (hfilter ▸ List.mem_cons_self)⟩

/-- Without the low lines, the digits are read. -/
lemma readNat?_eq (h : WritesDigits base text digits) (hne : digits ≠ []) :
    readNat? base (text.filter (· ≠ '_')) = some (ofDigits base digits) := by
  have hdigits := h.digits
  generalize text.filter (· ≠ '_') = plain at hdigits
  have hmap : plain.mapM (digitValue? base) = some digits := by
    clear h hne
    induction hdigits with
    | nil => rfl
    | cons hd _ ih =>
      rw [List.mapM_cons, hd, ih]
      rfl
  cases hdigits with
  | nil => exact absurd rfl hne
  | cons =>
    rw [readNat?, hmap]
    rfl

end WritesDigits

/-! ### Decimals -/

section Decimals

variable {whole exponent : List Char} (hwhole : ∀ c ∈ whole, c.isDigit)
  (hexponent : ∀ c ∈ exponent.head?, c = 'e' ∨ c = 'E')
include hwhole hexponent

lemma takeWhile_isDigit_append : (whole ++ exponent).takeWhile Char.isDigit = whole := by
  have hnone : exponent.takeWhile Char.isDigit = [] := by
    cases exponent with
    | nil => rfl
    | cons c exponent =>
      refine List.takeWhile_cons_of_neg ?_
      rcases hexponent c rfl with rfl | rfl <;> decide
  rw [List.takeWhile_append_of_pos hwhole, hnone, List.append_nil]

/-- A decimal without a point. -/
lemma readDecimal?_plain : readDecimal? (whole ++ exponent) = do
    let digits ← readNat? 10 whole
    let e ← readExponent? exponent
    return ⟨digits, e⟩ := by
  have hpoint : ∀ rest, exponent ≠ '.' :: rest := by
    rintro rest rfl
    rcases hexponent '.' rfl with heq | heq <;> cases heq
  rw [readDecimal?, takeWhile_isDigit_append hwhole hexponent, List.drop_left]
  cases exponent with
  | nil => simp
  | cons c rest => simp

/-- A decimal with a point. -/
lemma readDecimal?_point {places : List Char} (hplaces : ∀ c ∈ places, c.isDigit) :
    readDecimal? (whole ++ '.' :: (places ++ exponent)) = do
      let digits ← readNat? 10 (whole ++ places)
      let e ← readExponent? exponent
      return ⟨digits, e - places.length⟩ := by
  have htake : (whole ++ '.' :: (places ++ exponent)).takeWhile Char.isDigit = whole := by
    rw [List.takeWhile_append_of_pos hwhole, List.takeWhile_cons_of_neg (by decide),
      List.append_nil]
  rw [readDecimal?, htake, List.drop_left]
  change (do
    let run := (places ++ exponent).takeWhile Char.isDigit
    let digits ← readNat? 10 (whole ++ run)
    let e ← readExponent? ((places ++ exponent).drop run.length)
    return (⟨digits, e - run.length⟩ : Decimal)) = _
  rw [takeWhile_isDigit_append hplaces hexponent]
  dsimp only
  rw [List.drop_left]

end Decimals

end Stencil.Number

namespace Stencil.Script.Token

open Number (digitValue? WritesDigits)

variable {base : Nat} {after : Bool} {input rest : List Char} {digits : List Nat} {c : Char}

/-- What is read as digits writes them. -/
lemma readDigits_eq_some (h : readDigits base after input = some (digits, rest)) :
    ∃ run, input = run ++ rest ∧ WritesDigits base run digits := by
  fun_induction readDigits base after input generalizing digits with
  | case1 c more d hd ih =>
    obtain ⟨⟨ds, _⟩, hread, heq⟩ := Option.map_eq_some_iff.mp h
    obtain ⟨rfl, rfl⟩ := Prod.mk.inj heq
    obtain ⟨run, rfl, hrun⟩ := ih hread
    exact ⟨'_' :: c :: run, rfl, (hrun.digit hd).lowLine⟩
  | case2 => cases h
  | case3 => cases h
  | case4 _ c more _ d hd ih =>
    obtain ⟨⟨ds, _⟩, hread, heq⟩ := Option.map_eq_some_iff.mp h
    obtain ⟨rfl, rfl⟩ := Prod.mk.inj heq
    obtain ⟨run, rfl, hrun⟩ := ih hread
    exact ⟨c :: run, rfl, hrun.digit hd⟩
  | case5 =>
    cases h
    exact ⟨[], rfl, .nil base⟩
  | case6 =>
    cases h
    exact ⟨[], rfl, .nil base⟩

/-- The sign of an integer and its digits are read as the integer. -/
lemma exists_sign {more more' : List Char} {negative : Bool}
    (h : (match more with
      | '-' :: rest => (true, rest)
      | '+' :: rest => (false, rest)
      | rest        => (false, rest)) = (negative, more')) :
    ∃ sign : List Char, more = sign ++ more' ∧ (∀ c ∈ sign, c ≠ '_' ∧ Text.isBlank c = false) ∧
      ∀ text n, (∀ c ∈ text, c.isDigit) → Number.readNat? 10 text = some n →
        Number.readInt? (sign ++ text) = some (if negative then -(n : Int) else n) := by
  split at h
  next =>
    cases h
    refine ⟨['-'], rfl, List.forall_mem_singleton.mpr (by decide), fun text n _ hn => ?_⟩
    rw [List.singleton_append, Number.readInt?, hn]
    rfl
  next =>
    cases h
    refine ⟨['+'], rfl, List.forall_mem_singleton.mpr (by decide), fun text n _ hn => ?_⟩
    rw [List.singleton_append, Number.readInt?, hn]
    rfl
  next =>
    cases h
    refine ⟨[], rfl, List.forall_mem_nil _, fun text n hdigits hn => ?_⟩
    rw [List.nil_append]
    unfold Number.readInt?
    split
    next => exact absurd (hdigits '-' List.mem_cons_self) (by decide)
    next => exact absurd (hdigits '+' List.mem_cons_self) (by decide)
    next =>
      rw [hn]
      rfl

/-- What is read as an exponent is one without the low lines. -/
lemma readExponent_eq_some {e : Int} (h : readExponent input = some (e, rest)) :
    ∃ text, input = text ++ rest ∧ Number.readExponent? (text.filter (· ≠ '_')) = some e ∧
      (∀ c ∈ text, Text.isBlank c = false) ∧
      ∀ c ∈ (text.filter (· ≠ '_')).head?, c = 'e' ∨ c = 'E' := by
  unfold readExponent at h
  split at h
  next mark more =>
    split at h
    next hmark =>
      split at h
      next negative more' hsigned =>
        obtain ⟨sign, rfl, hsign, hread⟩ := exists_sign hsigned
        split at h
        next => cases h
        next digits _ hne hdigits =>
          cases h
          obtain ⟨run, rfl, hrun⟩ := readDigits_eq_some hdigits
          have hletter : mark ≠ '_' ∧ Text.isBlank mark = false ∧ (mark = 'e' ∨ mark = 'E') := by
            rw [Bool.or_eq_true, beq_iff_eq, beq_iff_eq] at hmark
            rcases hmark with rfl | rfl <;> decide
          have hfilter : (mark :: (sign ++ run)).filter (· ≠ '_') =
              mark :: (sign ++ run.filter (· ≠ '_')) := by
            rw [List.filter_cons_of_pos (by simpa using hletter.1), List.filter_append,
              List.filter_eq_self.mpr fun c hc => by simpa using (hsign c hc).1]
          refine ⟨mark :: (sign ++ run), by simp, ?_, List.forall_mem_cons.mpr ⟨hletter.2.1,
            List.forall_mem_append.mpr ⟨fun c hc => (hsign c hc).2, hrun.plain⟩⟩, ?_⟩ <;>
            rw [hfilter]
          · rw [Number.readExponent?, if_pos hmark,
              hread _ _ hrun.isDigit (hrun.readNat?_eq hne)]
          · rintro _ ⟨⟩
            exact hletter.2.2
        next => cases h
    next =>
      cases h
      exact ⟨[], rfl, rfl, nofun, nofun⟩
  next =>
    cases h
    exact ⟨[], rfl, rfl, nofun, nofun⟩

/-- A decimal without the low lines is read as the same number. -/
lemma readDecimal_eq_some {x : Float} {isLegacy : Bool}
    (h : readDecimal input = some (.number x isLegacy, rest)) :
    isLegacy = false ∧ ∃ text d, input = text ++ rest ∧ x = Number.ofDecimal d ∧
      Number.readDecimal? (text.filter (· ≠ '_')) = some d ∧
      (∀ c ∈ text, Text.isBlank c = false) ∧
      ∃ c ∈ (text.filter (· ≠ '_')).head?, c.isDigit ∨ c = '.' := by
  simp only [readDecimal, bind, Option.bind_eq_some_iff, Prod.exists] at h
  obtain ⟨whole, middle, hwhole, h⟩ := h
  obtain ⟨run, rfl, hrun⟩ := readDigits_eq_some hwhole
  split at h
  next => cases h
  next more =>
    simp only [Option.bind_eq_some_iff, Prod.exists] at h
    obtain ⟨places, middle, hplaces, h⟩ := h
    split at h
    next => cases h
    next hne =>
      obtain ⟨⟨e, _⟩, hexponent, h⟩ := Option.bind_eq_some_iff.mp h
      cases h
      obtain ⟨fraction, rfl, hfraction⟩ := readDigits_eq_some hplaces
      obtain ⟨tail, rfl, hread, hplain, hletter⟩ := readExponent_eq_some hexponent
      have hdigits : whole ++ places ≠ [] := by simpa using hne
      have hfilter : (run ++ '.' :: (fraction ++ tail)).filter (· ≠ '_') =
          run.filter (· ≠ '_') ++
            '.' :: (fraction.filter (· ≠ '_') ++ tail.filter (· ≠ '_')) := by simp
      have hall := (hrun.append hfraction).readNat?_eq hdigits
      rw [List.filter_append] at hall
      refine ⟨rfl, run ++ '.' :: (fraction ++ tail), _, by simp, rfl, ?_, ?_, ?_⟩
      · rw [hfilter, Number.readDecimal?_point hrun.isDigit hletter hfraction.isDigit, hall, hread,
          hfraction.digits.length_eq]
        rfl
      · exact List.forall_mem_append.mpr ⟨hrun.plain, List.forall_mem_cons.mpr ⟨by decide,
          List.forall_mem_append.mpr ⟨hfraction.plain, hplain⟩⟩⟩
      · rw [hfilter]
        by_cases hnil : whole = []
        · have hlength := hrun.digits.length_eq
          rw [hnil, List.length_nil, List.length_eq_zero_iff] at hlength
          rw [hlength]
          exact ⟨'.', rfl, .inr rfl⟩
        · obtain ⟨c, hc, hdigit⟩ := hrun.exists_head hnil _
          exact ⟨c, hc, .inl hdigit⟩
  next =>
    split at h
    next => cases h
    next hne =>
      obtain ⟨⟨e, _⟩, hexponent, h⟩ := Option.bind_eq_some_iff.mp h
      cases h
      obtain ⟨tail, rfl, hread, hplain, hletter⟩ := readExponent_eq_some hexponent
      have hdigits : whole ≠ [] := by simpa using hne
      refine ⟨rfl, run ++ tail, _, by simp, rfl, ?_, ?_, ?_⟩
      · rw [List.filter_append, Number.readDecimal?_plain hrun.isDigit hletter,
          hrun.readNat?_eq hdigits, hread]
        rfl
      · exact List.forall_mem_append.mpr ⟨hrun.plain, hplain⟩
      · obtain ⟨c, hc, hdigit⟩ := hrun.exists_head hdigits (tail.filter (· ≠ '_'))
        rw [List.filter_append]
        exact ⟨c, hc, .inl hdigit⟩

/-- A number that is not written in the old way is one of a base that its lead names, or a
decimal. -/
lemma readNumber_eq_some {x : Float} (h : readNumber input = some (.number x false, rest)) :
    (∃ base lead more, input = '0' :: lead :: more ∧ lead ∈ ['x', 'X', 'o', 'O', 'b', 'B'] ∧
        (base = 16 ↔ lead = 'x' ∨ lead = 'X') ∧
        readBased base more = some (.number x false, rest)) ∨
      (∀ more, input ≠ '0' :: 'x' :: more ∧ input ≠ '0' :: 'X' :: more) ∧
        readDecimal input = some (.number x false, rest) := by
  unfold readNumber at h
  split at h
  next more => exact .inl ⟨16, 'x', more, rfl, by decide, by decide, h⟩
  next more => exact .inl ⟨16, 'X', more, rfl, by decide, by decide, h⟩
  next more => exact .inl ⟨8, 'o', more, rfl, by decide, by decide, h⟩
  next more => exact .inl ⟨8, 'O', more, rfl, by decide, by decide, h⟩
  next more => exact .inl ⟨2, 'b', more, rfl, by decide, by decide, h⟩
  next more => exact .inl ⟨2, 'B', more, rfl, by decide, by decide, h⟩
  next d more hx hX _ _ _ _ =>
    have hlead : ∀ other, '0' :: d :: more ≠ '0' :: 'x' :: other ∧
        '0' :: d :: more ≠ '0' :: 'X' :: other :=
      fun other => ⟨fun heq => by cases heq; exact hx rfl, fun heq => by cases heq; exact hX rfl⟩
    split at h
    next =>
      -- digits behind a zero are of the old way
      dsimp only at h
      split at h
      next => cases h
      next =>
        obtain ⟨⟨token, _⟩, -, heq⟩ := Option.map_eq_some_iff.mp h
        cases token <;> cases heq
    next =>
      split at h
      next => cases h
      next => exact .inr ⟨hlead, h⟩
  next hx hX _ _ _ _ _ =>
    exact .inr ⟨fun more => ⟨hx more, hX more⟩, h⟩

lemma readBased_eq_some {x : Float} (h : readBased base input = some (.number x false, rest)) :
    ∃ run digits, input = run ++ rest ∧ WritesDigits base run digits ∧ digits ≠ [] ∧
      x = Number.ofRatio (Number.ofDigits base digits) 1 := by
  unfold readBased at h
  split at h
  next => cases h
  next digits more hne hdigits =>
    dsimp only at h
    split at h
    next => cases h
    next =>
      cases h
      obtain ⟨run, rfl, hrun⟩ := readDigits_eq_some hdigits
      exact ⟨run, digits, rfl, hrun, hne, rfl⟩
  next => cases h

lemma readString_ne_number {quote : Char} {fuel : Nat} {points : List Nat} {hasOctal : Bool}
    {x : Float} {isLegacy : Bool} :
    readString quote fuel points hasOctal input ≠ some (.number x isLegacy, rest) := by
  fun_induction readString quote fuel points hasOctal input <;> simp_all

lemma readTemplate_ne_number {fuel : Nat} {cooked : Option (List Nat)} {raw : List Nat} {x : Float}
    {isLegacy : Bool} : readTemplate fuel cooked raw input ≠ some (.number x isLegacy, rest) := by
  fun_induction readTemplate fuel cooked raw input <;> simp_all [readTemplate.finish]

lemma readMark_ne_number {x : Float} {isLegacy : Bool} :
    readMark input ≠ some (.number x isLegacy, rest) := by
  unfold readMark
  split
  next => split <;> simp
  next => simp
  next => simp

/-- A number token begins with a digit or a point. -/
lemma readNumber_of_read {x : Float} {isLegacy : Bool}
    (h : read input = some (.number x isLegacy, rest)) :
    readNumber input = some (.number x isLegacy, rest) ∧
      ∃ c ∈ input.head?, c.isDigit ∨ c = '.' := by
  unfold read at h
  split at h
  next => cases h
  next => exact absurd h readString_ne_number
  next => exact absurd h readString_ne_number
  next => exact absurd h readTemplate_ne_number
  next =>
    split at h
    next => split at h <;> cases h
    next => cases h
  next =>
    split at h
    next => split at h <;> cases h
    next =>
      split at h
      next hlead =>
        split at h
        next hnumber =>
          split at h
          next => cases h
          next =>
            cases h
            refine ⟨hnumber, _, rfl, ?_⟩
            rw [Bool.or_eq_true, Bool.and_eq_true, beq_iff_eq] at hlead
            exact hlead.imp_right And.left
        next => cases h
      next => exact absurd h readMark_ne_number

end Stencil.Script.Token

namespace Stencil.Script

open Number (WritesDigits)

variable {text more : List Char} {x y : Float} {c : Char}

/-! ### Literals -/

/-- Whether a text is a number literal that is not of the old way, where a space, a semicolon or a
bracket comes behind it. -/
def IsLiteral (text : List Char) (x : Float) : Prop :=
  ∀ d ∈ [' ', ';', '[', ']'], ∀ rest,
    Token.read (text ++ d :: rest) = some (.number x false, d :: rest)

namespace IsLiteral

/-- A literal has the digits of a base that its lead names, or is a decimal without the low
lines. -/
lemma cases (h : IsLiteral text x) :
    (∃ base lead run digits, text = '0' :: lead :: run ∧ lead ∈ ['x', 'X', 'o', 'O', 'b', 'B'] ∧
        (base = 16 ↔ lead = 'x' ∨ lead = 'X') ∧ WritesDigits base run digits ∧ digits ≠ [] ∧
        x = Number.ofRatio (Number.ofDigits base digits) 1) ∨
      (∀ more, text ≠ '0' :: 'x' :: more ∧ text ≠ '0' :: 'X' :: more) ∧
        (∀ c ∈ text, Text.isBlank c = false) ∧
        (∃ c ∈ (text.filter (· ≠ '_')).head?, c.isDigit ∨ c = '.') ∧
        ∃ d, x = Number.ofDecimal d ∧ Number.readDecimal? (text.filter (· ≠ '_')) = some d := by
  obtain ⟨hnumber, -⟩ := Token.readNumber_of_read (h ' ' (by decide) [])
  rcases Token.readNumber_eq_some hnumber with
    ⟨base, lead, more, heq, hlead, hbase, hmore⟩ | ⟨hlead, hdecimal⟩
  · obtain ⟨run, digits, rfl, hrun, hne, hx⟩ := Token.readBased_eq_some hmore
    have heq : text = '0' :: lead :: run := List.append_cancel_right (by simpa using heq)
    exact .inl ⟨base, lead, run, digits, heq, hlead, hbase, hrun, hne, hx⟩
  · obtain ⟨-, run, d, heq, hx, hread, hplain, hhead⟩ := Token.readDecimal_eq_some hdecimal
    obtain rfl := List.append_cancel_right heq
    refine .inr ⟨fun more => ⟨?_, ?_⟩, hplain, hhead, d, hx, hread⟩ <;> rintro rfl
    · exact (hlead (more ++ [' '])).1 rfl
    · exact (hlead (more ++ [' '])).2 rfl

lemma exists_head (h : IsLiteral text x) :
    ∃ c more, text = c :: more ∧ (c.isDigit ∨ c = '.') := by
  obtain ⟨-, c, hc, hhead⟩ := Token.readNumber_of_read (h ' ' (by decide) [])
  cases text with
  | nil =>
    cases hc
    exact absurd hhead (by decide)
  | cons d more =>
    cases hc
    exact ⟨c, more, rfl, hhead⟩

lemma isBlank (h : IsLiteral text x) : ∀ c ∈ text, Text.isBlank c = false := by
  rcases h.cases with ⟨base, lead, run, digits, rfl, hlead, -, hrun, -⟩ | ⟨-, hplain, -⟩
  · have hleads : ['x', 'X', 'o', 'O', 'b', 'B'].all fun c => !Text.isBlank c := by decide
    have hlead := List.all_eq_true.mp hleads lead hlead
    exact List.forall_mem_cons.mpr
      ⟨rfl, List.forall_mem_cons.mpr ⟨by simpa using hlead, hrun.plain⟩⟩
  · exact hplain

end IsLiteral

end Stencil.Script

namespace Stencil.Number

variable {text : List Char} {x y : Float} {c : Char}

/-! ### Magnitudes -/

lemma toLower_ne (h : c.isDigit ∨ c = '.') : c.toLower ≠ 'i' ∧ c.toLower ≠ 'n' := by
  have hsmall : c.toNat < 58 := by
    rcases h with hdigit | rfl
    · simp only [Char.isDigit, ge_iff_le, Bool.and_eq_true, decide_eq_true_eq,
        UInt32.le_iff_toNat_le] at hdigit
      exact Nat.lt_succ_of_le hdigit.2
    · decide
  have hall : ∀ n < 58, (Char.ofNat n).toLower ≠ 'i' ∧ (Char.ofNat n).toLower ≠ 'n' := by
    decide
  rw [← Char.ofNat_toNat c]
  exact hall _ hsmall

/-- No name begins with a digit or a point. -/
lemma magnitude?_of_head (h : ∃ c ∈ text.head?, c.toLower ≠ 'i' ∧ c.toLower ≠ 'n') :
    readFloat?.magnitude? text = (readDecimal? text).map ofDecimal := by
  obtain ⟨c, hc, hi, hn⟩ := h
  obtain ⟨more, rfl⟩ : ∃ more, text = c :: more := by
    cases text with
    | nil => cases hc
    | cons d more =>
      cases hc
      exact ⟨more, rfl⟩
  have hname (name : String) (first : Char) (others : List Char)
      (hlist : name.toList = first :: others) (hne : c.toLower ≠ first) :
      (String.ofList ((c :: more).map Char.toLower) == name) = false := by
    rw [beq_eq_false_iff_ne]
    rintro rfl
    rw [String.toList_ofList, List.map_cons] at hlist
    exact hne (List.cons.inj hlist).1
  rw [readFloat?.magnitude?]
  simp only [hname "inf" 'i' _ rfl hi, hname "infinity" 'i' _ rfl hi, hname "nan" 'n' _ rfl hn,
    Bool.or_self, Bool.false_eq_true, if_false]

/-- The code points of white space and signs. -/
def spacingPoints : List Nat := 43 :: 45 :: 133 :: Script.Token.separatingPoints

lemma magnitude?_eq_none (hc : c.toNat ∈ spacingPoints) :
    readFloat?.magnitude? (c :: text) = none := by
  have hall : ∀ n ∈ spacingPoints, (Char.ofNat n).toLower ≠ 'i' ∧ (Char.ofNat n).toLower ≠ 'n' ∧
      (Char.ofNat n).isDigit = false ∧ Char.ofNat n ≠ '.' := by
    decide
  have hc := hall _ hc
  rw [Char.ofNat_toNat] at hc
  obtain ⟨hi, hn, hdigit, hpoint⟩ := hc
  rw [magnitude?_of_head ⟨c, rfl, hi, hn⟩, readDecimal?,
    List.takeWhile_cons_of_neg (by simp [hdigit])]
  simp [hpoint, readNat?]


/-- No decimal has a letter but an `e` behind its digits. -/
lemma magnitude?_lead {lead : Char} (hlead : lead ∈ ['x', 'X', 'o', 'O', 'b', 'B']) :
    readFloat?.magnitude? ('0' :: lead :: text) = none := by
  rw [magnitude?_of_head ⟨'0', rfl, toLower_ne (.inl (by decide))⟩]
  simp only [List.mem_cons, List.not_mem_nil, or_false] at hlead
  rcases hlead with rfl | rfl | rfl | rfl | rfl | rfl <;> rfl

/-- A literal that is read as a number without the low lines is that number. -/
lemma eq_of_magnitude? (h : Script.IsLiteral text y)
    (hx : readFloat?.magnitude? (text.filter (· ≠ '_')) = some x) : x = y := by
  rcases h.cases with ⟨base, lead, run, digits, rfl, hlead, -⟩ | ⟨-, -, ⟨c, hc, hhead⟩, d, rfl, hd⟩
  · have hline : '_' ∉ ['x', 'X', 'o', 'O', 'b', 'B'] := by decide
    have hline : lead ≠ '_' := fun heq => hline (heq ▸ hlead)
    rw [List.filter_cons_of_pos (by decide), List.filter_cons_of_pos (by simpa using hline),
      magnitude?_lead hlead] at hx
    cases hx
  · rw [magnitude?_of_head ⟨c, hc, toLower_ne hhead⟩, hd] at hx
    exact (Option.some.inj hx).symm

/-- A literal that is taken for a number is that number. -/
lemma eq_of_unsigned? (h : Script.IsLiteral text y)
    (hx : Erasure.numericLiteral?.unsigned? text = some x) : x = y := by
  have hfloat : readFloat? (text.filter (· ≠ '_')) =
      readFloat?.magnitude? (text.filter (· ≠ '_')) := by
    rcases h.cases with ⟨base, lead, run, digits, rfl, -⟩ | ⟨-, -, ⟨c, hc, hhead⟩, -⟩
    · rfl
    · unfold readFloat?
      split
      next heq =>
        rw [heq] at hc
        cases hc
        exact absurd hhead (by decide)
      next heq =>
        rw [heq] at hc
        cases hc
        exact absurd hhead (by decide)
      next => rfl
  unfold Erasure.numericLiteral?.unsigned? at hx
  have hhex {run : List Char} {lead : Char} (heq : text = '0' :: lead :: run)
      (hlead : lead = 'x' ∨ lead = 'X') (hx : Erasure.readHex? run = some x) : x = y := by
    rcases h.cases with ⟨base, lead', run', digits, heq', -, hbase, hrun, hne, rfl⟩ | ⟨hother, -⟩
    · obtain ⟨rfl, rfl⟩ : lead = lead' ∧ run = run' := by simpa using heq.symm.trans heq'
      obtain rfl := hbase.mpr hlead
      rw [Erasure.readHex?, hrun.readNat?_eq hne] at hx
      dsimp only at hx
      split at hx
      · exact (Option.some.inj hx).symm
      · cases hx
    · rcases hlead with rfl | rfl
      · exact absurd heq (hother run).1
      · exact absurd heq (hother run).2
  split at hx
  next => exact hhex rfl (.inl rfl) hx
  next => exact hhex rfl (.inr rfl) hx
  next => exact eq_of_magnitude? h (hfloat ▸ hx)

end Stencil.Number

namespace Stencil.Script

open Erasure (isScriptSpace numericLiteral?)
open Number (readFloat? spacingPoints)

variable {text blanks : List Char} {x y : Float} {c : Char} {n : Nat}

/-! ### Numerals -/

/-- Whether a text is a number literal with this many signs before it. No sign may come right after
the same one, which would be another token. -/
inductive Numeral : (signs : Nat) → List Char → Float → Prop
  | literal {text : List Char} {x : Float} (h : IsLiteral text x) : Numeral 0 text x
  | minus {n : Nat} {blanks text : List Char} {x : Float} (h : Numeral n text x)
      (hblanks : ∀ c ∈ blanks, isScriptSpace c) (hsign : '-' ∉ (blanks ++ text).head?) :
      Numeral (n + 1) ('-' :: (blanks ++ text)) (-x)
  | plus {n : Nat} {blanks text : List Char} {x : Float} (h : Numeral n text x)
      (hblanks : ∀ c ∈ blanks, isScriptSpace c) (hsign : '+' ∉ (blanks ++ text).head?) :
      Numeral (n + 1) ('+' :: (blanks ++ text)) x

lemma toNat_mem_spacingPoints (h : isScriptSpace c) : c.toNat ∈ spacingPoints :=
  List.mem_cons_of_mem _ (List.mem_cons_of_mem _ (List.mem_cons_of_mem _
    (Token.toNat_mem_separatingPoints (by simpa [isScriptSpace] using h))))

namespace Numeral

lemma exists_head (h : Numeral n text x) :
    ∃ c more, text = c :: more ∧ (c.isDigit ∨ c = '.' ∨ c = '-' ∨ c = '+') := by
  cases h with
  | literal h =>
    obtain ⟨c, more, rfl, hhead⟩ := h.exists_head
    exact ⟨c, more, rfl, hhead.imp_right .inl⟩
  | minus => exact ⟨'-', _, rfl, by simp⟩
  | plus  => exact ⟨'+', _, rfl, by simp⟩

/-- No number without a sign is read where white space or a sign stands. -/
lemma eq_of_magnitude? (h : Numeral n text y) (hblanks : ∀ c ∈ blanks, isScriptSpace c)
    (hx : readFloat?.magnitude? ((blanks ++ text).filter (· ≠ '_')) = some x) : x = y := by
  have hnone {c : Char} {more : List Char} (hc : c.toNat ∈ spacingPoints) :
      readFloat?.magnitude? ((c :: more).filter (· ≠ '_')) = none := by
    have hline : 95 ∉ spacingPoints := by decide
    have hline : c ≠ '_' := by
      rintro rfl
      exact hline hc
    rw [List.filter_cons_of_pos (by simpa using hline)]
    exact Number.magnitude?_eq_none hc
  cases blanks with
  | cons b blanks =>
    have hb := toNat_mem_spacingPoints (hblanks b List.mem_cons_self)
    rw [List.cons_append, hnone hb] at hx
    cases hx
  | nil =>
    rw [List.nil_append] at hx
    cases h with
    | literal h => exact Number.eq_of_magnitude? h hx
    | minus | plus =>
      rw [hnone (by decide)] at hx
      cases hx

/-- A numeral that is taken for a number without a sign for the whole is that number. -/
lemma eq_of_unsigned? (h : Numeral n text y) (hx : numericLiteral?.unsigned? text = some x) :
    x = y := by
  cases h with
  | literal h => exact Number.eq_of_unsigned? h hx
  | @minus _ blanks text z h hblanks =>
    have hread : numericLiteral?.unsigned? ('-' :: (blanks ++ text)) =
        (readFloat?.magnitude? ((blanks ++ text).filter (· ≠ '_'))).map (-·) := rfl
    rw [hread] at hx
    obtain ⟨z, hz, rfl⟩ := Option.map_eq_some_iff.mp hx
    rw [h.eq_of_magnitude? hblanks hz]
  | @plus _ blanks text _ h hblanks =>
    have hread : numericLiteral?.unsigned? ('+' :: (blanks ++ text)) =
        readFloat?.magnitude? ((blanks ++ text).filter (· ≠ '_')) := rfl
    exact h.eq_of_magnitude? hblanks (hread ▸ hx)

/-- The code points that a numeral may begin with. -/
lemma range_of_head {c : Char} (h : c.isDigit ∨ c = '.' ∨ c = '-' ∨ c = '+') :
    43 ≤ c.toNat ∧ c.toNat < 58 ∧ c ≠ '/' := by
  rcases h with hdigit | rfl | rfl | rfl
  · have hrange : 48 ≤ c.toNat ∧ c.toNat ≤ 57 := by
      simpa [Char.isDigit, UInt32.le_iff_toNat_le] using hdigit
    refine ⟨by omega, by omega, ?_⟩
    rintro rfl
    exact absurd hdigit (by decide)
  all_goals decide

lemma isBlank_of_head {c : Char} (h : c.isDigit ∨ c = '.' ∨ c = '-' ∨ c = '+') :
    Text.isBlank c = false := by
  have hblank : ∀ n < 58, 43 ≤ n → Text.isBlank (Char.ofNat n) = false := by decide
  obtain ⟨hle, hlt, -⟩ := range_of_head h
  rw [← Char.ofNat_toNat c]
  exact hblank _ hlt hle

lemma isBlank_getLast? (h : Numeral n text x) : ∀ c ∈ text.getLast?, Text.isBlank c = false := by
  induction h with
  | literal h => exact fun c hc => h.isBlank c (List.mem_of_getLast? hc)
  | @minus _ blanks text _ h _ _ ih | @plus _ blanks text _ h _ _ ih =>
    obtain ⟨c, more, rfl, -⟩ := h.exists_head
    intro d hd
    rw [← List.cons_append, List.getLast?_append_of_ne_nil _ (by simp)] at hd
    exact ih d hd

lemma trimChars_eq (h : Numeral n text x) : Text.trimChars text = text := by
  have hlast := h.isBlank_getLast?
  obtain ⟨c, more, rfl, hhead⟩ := h.exists_head
  rw [Text.trimChars, Text.trimFront,
    List.dropWhile_cons_of_neg (by simp [isBlank_of_head hhead]), Text.trimBack]
  rw [← List.head?_reverse] at hlast
  cases hreverse : (c :: more).reverse with
  | nil => simp at hreverse
  | cons d others =>
    rw [hreverse] at hlast
    rw [List.dropWhile_cons_of_neg (by simp [hlast d rfl]), ← hreverse, List.reverse_reverse]

/-- White space that is no white space of the reader keeps it from a number. -/
lemma eq_of_trimFront (h : Numeral n text y) (hblanks : ∀ c ∈ blanks, isScriptSpace c)
    (hx : numericLiteral?.unsigned? (Text.trimFront (blanks ++ text)) = some x) : x = y := by
  induction blanks with
  | nil =>
    obtain ⟨c, more, rfl, hhead⟩ := h.exists_head
    rw [List.nil_append, Text.trimFront,
      List.dropWhile_cons_of_neg (by simp [isBlank_of_head hhead])] at hx
    exact h.eq_of_unsigned? hx
  | cons b blanks ih =>
    have hb := hblanks b List.mem_cons_self
    rw [List.cons_append, Text.trimFront] at hx
    by_cases hblank : Text.isBlank b
    · rw [List.dropWhile_cons_of_pos hblank] at hx
      exact ih (List.forall_mem_cons.mp hblanks).2 hx
    · have hplain : b ≠ '0' ∧ b ≠ '_' ∧ b ≠ '-' ∧ b ≠ '+' := by
        refine ⟨?_, ?_, ?_, ?_⟩ <;> rintro rfl <;> exact absurd hb (by decide)
      have hunsigned : numericLiteral?.unsigned? (b :: (blanks ++ text)) =
          readFloat?.magnitude? ((b :: (blanks ++ text)).filter (· ≠ '_')) := by
        rw [numericLiteral?.unsigned?, List.filter_cons_of_pos (by simpa using hplain.2.1),
          readFloat?]
        all_goals simp [hplain]
      rw [List.dropWhile_cons_of_neg hblank, hunsigned] at hx
      exact h.eq_of_magnitude? hblanks hx

/-- A numeral that is taken for a number is that number. -/
theorem eq_of_numericLiteral? (h : Numeral n text y) (hx : numericLiteral? text = some x) :
    x = y := by
  rw [numericLiteral?, h.trimChars_eq] at hx
  split at hx
  next rest =>
    obtain ⟨z, hz, rfl⟩ := Option.map_eq_some_iff.mp hx
    cases h with
    | literal h =>
      obtain ⟨c, more, heq, hhead⟩ := h.exists_head
      cases heq
      exact absurd hhead (by decide)
    | minus h hblanks => rw [h.eq_of_trimFront hblanks hz]
  next => exact h.eq_of_unsigned? hx

end Numeral

end Stencil.Script
