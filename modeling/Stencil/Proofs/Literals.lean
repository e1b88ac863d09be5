import Stencil.Proofs.Numerals
import Stencil.Proofs.Sums

/-!
# Numbers as literals

The digits of a number, with a point or without, are a literal of the number that the decimal is
read as. A finite number that is written into an object is written as a numeral of itself, unless
it is the negative zero (`numeral_writeNumber`).
-/

namespace Stencil.Script

open Number (Decimal digitChars ofDecimal withPoint)

variable {whole places run rest : List Char} {c d : Char} {n : Nat}

/-! ### Digits -/

lemma digitValue?_of_isDigit (h : c.isDigit) :
    Number.digitValue? 10 c = some (c.toNat - '0'.toNat) := by
  have hrange : 48 ≤ c.toNat ∧ c.toNat ≤ 57 := by
    simpa [Char.isDigit, UInt32.le_iff_toNat_le] using h
  have hdigit : '0' ≤ c ∧ c ≤ '9' := hrange
  have hlt : c.toNat - '0'.toNat < 10 := by
    change c.toNat - 48 < 10
    omega
  rw [Number.digitValue?]
  simp only [if_pos hdigit, if_pos hlt]

/-- Digits are read up to what is none. -/
lemma readDigits_append (hrun : ∀ c ∈ run, c.isDigit)
    (hafter : Number.digitValue? 10 c = none ∧ c ≠ '_') (after : Bool) :
    Token.readDigits 10 after (run ++ c :: rest) =
      some (run.map fun c => c.toNat - '0'.toNat, c :: rest) := by
  induction run generalizing after with
  | nil =>
    rw [List.nil_append, Token.readDigits]
    · simp only [hafter.1, List.map_nil]
    · rintro d more heq -
      exact hafter.2 heq
  | cons d run ih =>
    obtain ⟨hd, hrun⟩ := List.forall_mem_cons.mp hrun
    rw [List.cons_append, Token.readDigits]
    · simp only [digitValue?_of_isDigit hd, ih hrun, Option.map_some, List.map_cons]
    · rintro e more rfl -
      exact absurd hd (by decide)

lemma ofDigits_map (run : List Char) :
    Number.ofDigits 10 (run.map fun c => c.toNat - '0'.toNat) = Nat.ofDigitChars 10 run 0 := by
  rw [Number.ofDigits, List.foldl_map, Nat.ofDigitChars_eq_foldl]

/-! ### Literals -/

/-- Whether digits may stand before a point: only a zero alone begins with zero. -/
structure IsWhole (whole : List Char) : Prop where
  digits : ∀ c ∈ whole, c.isDigit
  ne_nil : whole ≠ []
  zero : whole.head? = some '0' → whole = ['0']

/-- What may come behind a number. -/
lemma plain_of_mem (h : c ∈ [' ', ';', '[', ']']) :
    Token.isNamePart c = false ∧ Number.digitValue? 10 c = none ∧ c ≠ '_' := by
  simp only [List.mem_cons, List.not_mem_nil, or_false] at h
  rcases h with rfl | rfl | rfl | rfl <;> decide

/-- A decimal token is read from its first digit on. -/
lemma IsWhole.read_eq {x : Float} {next : Char} (h : IsWhole whole)
    (hnext : next ∈ ['.', ' ', ';', '[', ']']) (hd : d ∈ [' ', ';', '[', ']'])
    {tail : List Char}
    (hdecimal : Token.readDecimal (whole ++ next :: tail) = some (.number x false, d :: rest)) :
    Token.read (whole ++ next :: tail) = some (.number x false, d :: rest) := by
  obtain ⟨hdigits, hne, hzero⟩ := h
  obtain ⟨c, more, rfl⟩ := List.exists_cons_of_ne_nil hne
  have hc := hdigits c List.mem_cons_self
  have hnumber : Token.readNumber (c :: more ++ next :: tail) =
      some (.number x false, d :: rest) := by
    rw [← hdecimal]
    by_cases hc : c = '0'
    · obtain rfl : more = [] := by simpa [hc] using hzero
      subst hc
      simp only [List.mem_cons, List.not_mem_nil, or_false] at hnext
      rcases hnext with rfl | rfl | rfl | rfl | rfl <;> rfl
    · rw [List.cons_append, Token.readNumber] <;> simp [hc]
  have hstart : Token.isNameStart c = false := by
    rw [Bool.eq_false_iff]
    intro hstart
    rw [Token.isDigit_of_isNameStart hstart] at hc
    cases hc
  have hslash : c ≠ '\\' := by
    rintro rfl
    exact absurd hc (by decide)
  rw [List.cons_append, Token.read, if_neg (by simp [hstart, hslash]), if_pos (by simp [hc]),
    ← List.cons_append, hnumber]
  · simp [plain_of_mem hd]
  all_goals
    rintro rfl
    exact absurd hc (by decide)

/-- Digits are a literal. -/
lemma IsWhole.isLiteral (h : IsWhole whole) :
    IsLiteral whole (ofDecimal ⟨Nat.ofDigitChars 10 whole 0, 0⟩) := by
  intro d hd rest
  obtain ⟨-, hdigit, hline⟩ := plain_of_mem hd
  refine h.read_eq (List.mem_cons_of_mem _ hd) hd ?_
  obtain ⟨c, more, rfl⟩ := List.exists_cons_of_ne_nil h.ne_nil
  rw [Token.readDecimal, readDigits_append h.digits ⟨hdigit, hline⟩, ← ofDigits_map]
  simp only [List.mem_cons, List.not_mem_nil, or_false] at hd
  rcases hd with rfl | rfl | rfl | rfl <;> rfl

/-- Digits with a point between them are a literal. -/
lemma IsWhole.isLiteral_point (h : IsWhole whole) (hplaces : ∀ c ∈ places, c.isDigit) :
    IsLiteral (whole ++ '.' :: places)
      (ofDecimal ⟨Nat.ofDigitChars 10 (whole ++ places) 0, -places.length⟩) := by
  intro d hd rest
  obtain ⟨-, hdigit, hline⟩ := plain_of_mem hd
  rw [List.append_assoc, List.cons_append]
  refine h.read_eq List.mem_cons_self hd ?_
  obtain ⟨c, more, rfl⟩ := List.exists_cons_of_ne_nil h.ne_nil
  rw [Token.readDecimal, readDigits_append h.digits ⟨by decide, by decide⟩, ← ofDigits_map,
    List.map_append]
  simp only [Option.bind_eq_bind, Option.bind_some, readDigits_append hplaces ⟨hdigit, hline⟩]
  have hexponent : Token.readExponent (d :: rest) = some (0, d :: rest) := by
    simp only [List.mem_cons, List.not_mem_nil, or_false] at hd
    rcases hd with rfl | rfl | rfl | rfl <;> rfl
  rw [List.map_cons, List.isEmpty_cons, Bool.false_and, if_neg Bool.false_ne_true, hexponent,
    Option.bind_some, List.length_map, Int.zero_sub]
  rfl

/-! ### Texts of decimals -/

lemma isWhole_digitChars (n : Nat) : IsWhole (digitChars n) where
  digits _ hc := Nat.isDigit_of_mem_toDigits (by decide) (by decide) hc
  ne_nil := Nat.toDigits_ne_nil
  zero := by
    rw [digitChars]
    induction n using Nat.strongRecOn with
    | ind n ih =>
      rw [Nat.toDigits_eq_if (by decide)]
      split
      next => simp
      next hle =>
        intro hhead
        rw [List.head?_append_of_ne_nil _ Nat.toDigits_ne_nil] at hhead
        have hzero := ih (n / 10) (by omega) hhead
        have hvalue := Nat.ofDigitChars_ten_toDigits (n := n / 10)
        rw [hzero] at hvalue
        have : n / 10 = 0 := hvalue.symm
        omega

/-- The digits of an integer are a literal of it. -/
lemma isLiteral_digitChars (n : Nat) : IsLiteral (digitChars n) (ofDecimal ⟨n, 0⟩) := by
  have h := (isWhole_digitChars n).isLiteral
  rwa [digitChars, Nat.ofDigitChars_ten_toDigits] at h

lemma head?_digitChars (hn : 0 < n) : (digitChars n).head? ≠ some '0' := by
  intro hhead
  have hvalue := Nat.ofDigitChars_ten_toDigits (n := n)
  rw [← digitChars, (isWhole_digitChars n).zero hhead] at hvalue
  exact hn.ne hvalue

lemma ofDigitChars_append_zeros (n k : Nat) :
    Nat.ofDigitChars 10 (digitChars n ++ List.replicate k '0') 0 = 10 ^ k * n := by
  rw [Nat.ofDigitChars_append, digitChars, Nat.ofDigitChars_ten_toDigits,
    Nat.ofDigitChars_replicate_zero]

lemma ofDigitChars_zeros_append (n k : Nat) :
    Nat.ofDigitChars 10 (List.replicate k '0' ++ digitChars n) 0 = n := by
  rw [Nat.ofDigitChars_append, Nat.ofDigitChars_replicate_zero, Nat.mul_zero, digitChars,
    Nat.ofDigitChars_ten_toDigits]

/-- Digits with a point before some of them are a literal. -/
lemma isLiteral_withPoint (n : Nat) {k : Nat} (hk : k ≠ 0) :
    IsLiteral (withPoint (digitChars n) k) (ofDecimal ⟨n, -k⟩) := by
  let zeros := k + 1 - (digitChars n).length
  let padded := List.replicate zeros '0' ++ digitChars n
  have hlength : padded.length = zeros + (digitChars n).length := by simp [padded]
  have hlong : k < padded.length := by omega
  have hdigits : ∀ c ∈ padded, c.isDigit := by
    refine List.forall_mem_append.mpr ⟨fun c hc => ?_, (isWhole_digitChars n).digits⟩
    rw [List.eq_of_mem_replicate hc]
    rfl
  have hwhole : IsWhole (padded.take (padded.length - k)) := by
    refine ⟨fun c hc => hdigits c (List.mem_of_mem_take hc), ?_, fun hhead => ?_⟩
    · rw [← List.length_pos_iff, List.length_take]
      omega
    · rcases hzeros : zeros with _ | more
      · -- no zeros are put before the digits, which are more than the places
        have hpadded : padded = digitChars n := by simp [padded, hzeros]
        rw [List.head?_take, if_neg (by omega), hpadded] at hhead
        have hone := congrArg List.length ((isWhole_digitChars n).zero hhead)
        rw [List.length_singleton] at hone
        omega
      · have hpadded : padded = '0' :: (List.replicate more '0' ++ digitChars n) := by
          simp [padded, hzeros, List.replicate_succ]
        have hone : padded.length - k = 1 := by omega
        rw [hone, hpadded, List.take_succ_cons, List.take_zero]
  have h := hwhole.isLiteral_point fun c (hc : c ∈ padded.drop (padded.length - k)) =>
    hdigits c (List.mem_of_mem_drop hc)
  rw [List.take_append_drop, ofDigitChars_zeros_append, List.length_drop,
    Nat.sub_sub_self hlong.le] at h
  rw [withPoint, if_neg hk]
  exact h

/-- A decimal that is written without an exponent is a literal of a decimal with its value. -/
theorem isLiteral_positional (decimal : Decimal) :
    ∃ same : Decimal, same.value = decimal.value ∧
      IsLiteral decimal.positional (ofDecimal same) := by
  obtain ⟨n, e⟩ := decimal
  rw [Decimal.positional]
  split
  next he =>
    obtain ⟨k, rfl⟩ := Int.eq_ofNat_of_zero_le he
    split
    next hn =>
      obtain rfl : n = 0 := hn
      exact ⟨⟨0, 0⟩, by simp [Decimal.value], isLiteral_digitChars 0⟩
    next hn =>
      refine ⟨⟨10 ^ k * n, 0⟩, ?_, ?_⟩
      · simp [Decimal.value, mul_comm]
      · have hwhole : IsWhole (digitChars n ++ List.replicate k '0') := by
          refine ⟨List.forall_mem_append.mpr ⟨(isWhole_digitChars n).digits, fun c hc => ?_⟩,
            List.append_ne_nil_of_left_ne_nil (isWhole_digitChars n).ne_nil _, fun hhead => ?_⟩
          · rw [List.eq_of_mem_replicate hc]
            rfl
          · rw [List.head?_append_of_ne_nil _ (isWhole_digitChars n).ne_nil] at hhead
            exact absurd hhead (head?_digitChars (Nat.pos_of_ne_zero hn))
        rw [← ofDigitChars_append_zeros]
        exact hwhole.isLiteral
  next he =>
    have he : ¬ 0 ≤ e := he
    obtain ⟨k, hk, rfl⟩ : ∃ k : Nat, k ≠ 0 ∧ e = -k := ⟨(-e).toNat, by omega, by omega⟩
    refine ⟨⟨n, -k⟩, rfl, ?_⟩
    rw [neg_neg, Int.toNat_natCast]
    exact isLiteral_withPoint n hk

end Stencil.Script

namespace Stencil.Number

variable {x : Float} {negative : Bool} {b : Binary} {d : Decimal}

/-! ### Numbers -/

/-- A decimal with the value of a number is read as the number. -/
lemma ofDecimal_of_value (hb : b.IsProper) (h : d.value = b.value) :
    ofDecimal d = Float.ofBits (UInt64.ofNat b.bits) := by
  rcases Nat.eq_zero_or_pos b.significand with hzero | hpos
  · have hd : d.digits = 0 := by
      rw [Decimal.value, Binary.value, hzero, Nat.cast_zero, zero_mul, mul_eq_zero] at h
      rcases h with h | h
      · exact_mod_cast h
      · exact absurd h (zpow_ne_zero _ (by norm_num))
    have hbits : b.bits = 0 := by
      have := hb.le_exponent
      have := hb.le_significand
      rw [Binary.bits]
      omega
    rw [ofDecimal, if_pos hd, hbits]
    decide +kernel
  · exact ofDecimal_eq hb hpos (h ▸ b.isNearest_value)

lemma value_eq_toRatio (b : Binary) :
    0 < b.toRatio.2 ∧ b.value = (b.toRatio.1 : ℚ) / b.toRatio.2 := by
  rw [Binary.toRatio, Binary.value]
  split
  next he =>
    obtain ⟨k, hk⟩ := Int.eq_ofNat_of_zero_le he
    refine ⟨Nat.one_pos, ?_⟩
    rw [hk, Int.toNat_natCast, Nat.shiftLeft_eq, zpow_natCast]
    push_cast
    rw [div_one]
  next he =>
    obtain ⟨k, hk⟩ : ∃ k : Nat, b.exponent = -k := ⟨(-b.exponent).toNat, by omega⟩
    rw [hk, neg_neg, Int.toNat_natCast, Nat.one_shiftLeft, zpow_neg, zpow_natCast, div_eq_mul_inv]
    refine ⟨Nat.two_pow_pos k, ?_⟩
    push_cast
    rfl

/-- A number without a fraction is its integral part. -/
lemma value_floor (h : b.toRatio.1 % b.toRatio.2 = 0) :
    (⟨b.floor, 0⟩ : Decimal).value = b.value := by
  obtain ⟨hpos, hvalue⟩ := value_eq_toRatio b
  rw [hvalue, Decimal.value, Binary.floor, Nat.cast_div (Nat.dvd_of_mod_eq_zero h)
    (Nat.cast_ne_zero.mpr hpos.ne'), zpow_zero, mul_one]

lemma floor_pos (hpos : 0 < b.significand) (h : b.toRatio.1 % b.toRatio.2 = 0) : 0 < b.floor := by
  have hvalue : 0 < b.value := mul_pos (Nat.cast_pos.mpr hpos) (zpow_pos two_pos _)
  rw [← value_floor h, Decimal.value, zpow_zero, mul_one] at hvalue
  exact_mod_cast hvalue

lemma value_shortest (hb : b.IsProper) (h : d.value = b.shortest.value) :
    ofDecimal d = Float.ofBits (UInt64.ofNat b.bits) := by
  rcases Nat.eq_zero_or_pos b.significand with hzero | hpos
  · refine ofDecimal_of_value hb (h.trans ?_)
    rw [Binary.shortest, if_pos hzero, Binary.value, hzero]
    simp [Decimal.value]
  · exact ofDecimal_eq hb hpos (h ▸ isNearest_shortest hb hpos)

/-- The text of a number is a literal of its magnitude, behind a minus if it is negative. -/
lemma exists_isLiteral (hdecode : decode x = .finite negative b)
    (hzero : b.significand = 0 → negative = false) :
    ∃ text, Script.IsLiteral text (Float.ofBits (UInt64.ofNat b.bits)) ∧
      (Erasure.writeNumber x).toList = if negative then '-' :: text else text := by
  obtain ⟨hb, -⟩ := decode_eq_finite hdecode
  rw [Erasure.writeNumber]
  split
  next hintegral =>
    simp only [isIntegral, hdecode, Bool.and_eq_true, beq_iff_eq] at hintegral
    have hvalue := value_floor hintegral.1
    refine ⟨digitChars b.floor, ?_, ?_⟩
    · rw [← ofDecimal_of_value hb hvalue]
      exact Script.isLiteral_digitChars _
    · rw [truncate, hdecode]
      dsimp only
      cases negative with
      | false =>
        have htext : toString (b.floor : Int) = toString b.floor := rfl
        rw [if_neg Bool.false_ne_true, if_neg Bool.false_ne_true, htext,
          Nat.toString_eq_ofList_toDigits, String.toList_ofList, digitChars]
      | true =>
        have hpos : 0 < b.significand := Nat.pos_of_ne_zero fun h => by cases hzero h
        obtain ⟨n, hn⟩ := Nat.exists_eq_add_one_of_ne_zero (floor_pos hpos hintegral.1).ne'
        have htext : toString (-((n + 1 : Nat) : Int)) = "-" ++ toString (n + 1) := rfl
        rw [if_pos rfl, if_pos rfl, hn, htext, Nat.toString_eq_ofList_toDigits, digitChars]
        simp
  next =>
    obtain ⟨same, hvalue, hliteral⟩ := Script.isLiteral_positional b.shortest
    refine ⟨b.shortest.positional, ?_, ?_⟩
    · rw [← value_shortest hb hvalue]
      exact hliteral
    · rw [plain, hdecode]
      cases negative <;> simp

end Stencil.Number

namespace Stencil.Script

open Erasure (writeNumber)

variable {x : Float}

/-- A finite number is written as a numeral of it, unless it is the negative zero. -/
theorem numeral_writeNumber (h : Number.IsOrdinary x) :
    ∃ signs ≤ 1, Numeral signs (writeNumber x).toList x := by
  obtain ⟨negative, b, hdecode, hzero⟩ := h
  obtain ⟨text, hliteral, htext⟩ := Number.exists_isLiteral hdecode hzero
  have hx := Number.eq_of_decode hdecode
  rw [htext, hx]
  cases negative with
  | false => exact ⟨0, Nat.zero_le _, .literal hliteral⟩
  | true =>
    obtain ⟨c, more, rfl, hhead⟩ := hliteral.exists_head
    refine ⟨1, Nat.le_refl _, ?_⟩
    refine Numeral.minus (.literal hliteral) (fun c (hc : c ∈ []) => nomatch hc) ?_
    rintro ⟨⟩
    exact absurd hhead (by decide)

end Stencil.Script
