import Stencil.Proofs.Rounding

/-!
# Shortest decimals

The shortest decimal of a floating-point number is closest to that number and to no other
(`isNearest_shortest`), and a decimal is read as the number that it is closest to (`ofDecimal_eq`).
-/

namespace Stencil.Number

variable {n d : Nat} {b : Binary} {i : Interval} {decimal : Decimal}

namespace Decimal

/-- The value of a decimal. -/
def value (d : Decimal) : ℚ := d.digits * 10 ^ d.exponent

lemma value_trimmed (fuel : Nat) (d : Decimal) : (trimmed fuel d).value = d.value := by
  induction fuel generalizing d with
  | zero => rfl
  | succ fuel ih =>
    rw [trimmed]
    split
    next h =>
      obtain ⟨n, hn⟩ := Nat.dvd_of_mod_eq_zero h.2
      rw [ih, value, value, hn, Nat.mul_div_cancel_left _ (by decide), zpow_add_one₀ (by norm_num)]
      push_cast
      ring
    next => rfl

/-- A decimal lies between two powers of ten. -/
lemma value_bounds (h : decimal.digits ≠ 0) :
    (10 : ℚ) ^ decimal.leading ≤ decimal.value ∧ decimal.value < 10 ^ (decimal.leading + 1) := by
  have hten : (0 : ℚ) < 10 ^ decimal.exponent := zpow_pos (by norm_num) _
  have hwidth (k : Nat) (hk : 0 < k) : decimal.width ≤ k ↔ decimal.digits < 10 ^ k :=
    Nat.length_toDigits_le_iff (by decide) hk
  obtain ⟨width, hpred⟩ : ∃ width, decimal.width = width + 1 :=
    Nat.exists_eq_add_one_of_ne_zero (Nat.length_toDigits_pos (b := 10)).ne'
  have hle : 10 ^ width ≤ decimal.digits := by
    rcases Nat.eq_zero_or_pos width with rfl | hpos
    · exact Nat.pos_of_ne_zero h
    · have := hwidth width hpos
      omega
  have hlt : decimal.digits < 10 ^ (width + 1) := (hwidth _ (Nat.succ_pos _)).mp hpred.le
  have hle : (10 : ℚ) ^ width ≤ decimal.digits := by exact_mod_cast hle
  have hlt : (decimal.digits : ℚ) < 10 ^ (width + 1) := by exact_mod_cast hlt
  have hleading : decimal.leading = width + decimal.exponent := by
    rw [leading, hpred]
    push_cast
    ring
  have hleading' : decimal.leading + 1 = (width + 1 : Nat) + decimal.exponent := by
    rw [hleading]
    push_cast
    ring
  rw [hleading', hleading, zpow_add₀ (by norm_num), zpow_add₀ (by norm_num), zpow_natCast,
    zpow_natCast, value]
  exact ⟨mul_le_mul_of_nonneg_right hle hten.le, mul_lt_mul_of_pos_right hlt hten⟩

end Decimal

/-! ### Intervals -/

/-- The ends of the interval of a number are those between which it is the closest one. -/
lemma interval_eq (hpos : 0 < b.significand) :
    0 < b.interval.den ∧ (b.interval.low : ℚ) / b.interval.den = b.low ∧
      (b.interval.value : ℚ) / b.interval.den = b.value ∧
      (b.interval.high : ℚ) / b.interval.den = b.high := by
  have hunit : ((if 2 ≤ b.exponent then 1 <<< (b.exponent - 2).toNat else 1 : Nat) : ℚ) /
      (if 2 ≤ b.exponent then 1 else 1 <<< (2 - b.exponent).toNat : Nat) =
        2 ^ b.exponent / 4 := by
    simp only [Nat.one_shiftLeft]
    split
    next h =>
      obtain ⟨k, hk⟩ := Int.eq_ofNat_of_zero_le (Int.sub_nonneg.mpr h)
      rw [hk, Int.toNat_natCast, Nat.cast_pow, Nat.cast_one, div_one, Nat.cast_ofNat,
        ← zpow_natCast, ← hk, zpow_sub₀ two_ne_zero]
      norm_num
    next h =>
      obtain ⟨k, hk⟩ : ∃ k : Nat, 2 - b.exponent = k := ⟨(2 - b.exponent).toNat, by omega⟩
      rw [hk, Int.toNat_natCast, Nat.cast_pow, Nat.cast_one, Nat.cast_ofNat, ← zpow_natCast, ← hk,
        zpow_sub₀ two_ne_zero]
      norm_num
  have hden : 0 < b.interval.den := by
    simp only [Binary.interval, Nat.one_shiftLeft]
    split
    · exact Nat.one_pos
    · exact Nat.pow_pos Nat.two_pos
  refine ⟨hden, ?_, ?_, ?_⟩
  · have hnarrow : (b.significand = 1 <<< 52 ∧ b.exponent > -1074) ↔
        (b.significand = 2 ^ 52 ∧ -1074 < b.exponent) := Iff.rfl
    rw [Binary.interval, Nat.cast_mul, mul_div_assoc, hunit, Binary.low, Binary.value,
      if_congr hnarrow rfl rfl]
    split
    · rw [Nat.cast_sub (by omega)]
      push_cast
      ring
    · rw [Nat.cast_sub (by omega)]
      push_cast
      ring
  · rw [Binary.interval, Nat.cast_mul, mul_div_assoc, hunit, Binary.value]
    push_cast
    ring
  · rw [Binary.interval, Nat.cast_mul, mul_div_assoc, hunit, Binary.high, Binary.value]
    push_cast
    ring

/-- The value of a decimal on the scale of an interval: as many times a unit as it takes for a
natural number. -/
lemma exists_scaled (i : Interval) (hden : 0 < i.den) (decimal : Decimal) :
    ∃ scaled unit : Nat, 0 < unit ∧ decimal.value = scaled / (i.den * unit) ∧
      i.holds decimal = if i.closed then
          decide (i.low * unit ≤ scaled) && decide (scaled ≤ i.high * unit)
        else decide (i.low * unit < scaled) && decide (scaled < i.high * unit) := by
  have hden : (i.den : ℚ) ≠ 0 := Nat.cast_ne_zero.mpr hden.ne'
  rcases le_or_gt 0 decimal.exponent with hle | hlt
  · obtain ⟨k, hk⟩ := Int.eq_ofNat_of_zero_le hle
    refine ⟨decimal.digits * 10 ^ k * i.den, 1, Nat.one_pos, ?_, ?_⟩
    · rw [Decimal.value, hk, zpow_natCast]
      push_cast
      field_simp
    · rw [Interval.holds, if_pos hle, if_pos hle, hk]
      rfl
  · obtain ⟨k, hk⟩ : ∃ k : Nat, decimal.exponent = -k := ⟨(-decimal.exponent).toNat, by omega⟩
    refine ⟨decimal.digits * i.den, 10 ^ k, Nat.pow_pos (by decide), ?_, ?_⟩
    · rw [Decimal.value, hk, zpow_neg, zpow_natCast]
      push_cast
      field_simp
    · rw [Interval.holds, if_neg hlt.not_ge, if_neg hlt.not_ge, hk, neg_neg]
      rfl

/-- A decimal lies in the interval of a number just when the number is the closest one to it. -/
theorem holds_iff (hpos : 0 < b.significand) :
    b.interval.holds decimal ↔ b.IsNearest decimal.value := by
  obtain ⟨hden, hlow, -, hhigh⟩ := interval_eq hpos
  obtain ⟨scaled, unit, hunit, hvalue, hholds⟩ := exists_scaled b.interval hden decimal
  have hclosed : b.interval.closed = decide (b.significand % 2 = 0) := rfl
  have hden : (0 : ℚ) < b.interval.den := Nat.cast_pos.mpr hden
  have hunit : (0 : ℚ) < unit := Nat.cast_pos.mpr hunit
  have hle (a : Nat) : (a : ℚ) / b.interval.den ≤ decimal.value ↔ a * unit ≤ scaled := by
    rw [hvalue, ← div_div, div_right_comm, div_le_div_iff_of_pos_right hden, le_div_iff₀ hunit]
    exact_mod_cast Iff.rfl
  have hge (a : Nat) : decimal.value ≤ (a : ℚ) / b.interval.den ↔ scaled ≤ a * unit := by
    rw [hvalue, ← div_div, div_right_comm, div_le_div_iff_of_pos_right hden, div_le_iff₀ hunit]
    exact_mod_cast Iff.rfl
  have hlow_le := hle b.interval.low
  have hle_low := hge b.interval.low
  have hle_high := hge b.interval.high
  have hhigh_le := hle b.interval.high
  rw [hlow] at hlow_le hle_low
  rw [hhigh] at hle_high hhigh_le
  rw [hholds, hclosed]
  by_cases heven : b.significand % 2 = 0
  · rw [decide_eq_true heven, if_pos rfl, Bool.and_eq_true, decide_eq_true_iff, decide_eq_true_iff,
      ← hlow_le, ← hle_high]
    exact ⟨fun h => ⟨h.1, h.2, fun _ => heven⟩, fun h => ⟨h.low_le, h.le_high⟩⟩
  · rw [decide_eq_false heven, if_neg Bool.false_ne_true, Bool.and_eq_true, decide_eq_true_iff,
      decide_eq_true_iff, ← not_le, ← hle_low, ← not_le, ← hhigh_le, not_le, not_le]
    refine ⟨fun h => ⟨h.1.le, h.2.le, fun hend => ?_⟩, fun h => ⟨?_, ?_⟩⟩
    · exact (hend.elim h.1.ne' h.2.ne).elim
    · exact lt_of_le_of_ne h.low_le fun hend => heven (h.even (.inl hend.symm))
    · exact lt_of_le_of_ne h.le_high fun hend => heven (h.even (.inr hend))

/-! ### The shortest decimal -/

/-- The point of a grid that is taken first is at most half a step away. -/
lemma abs_neighbours_sub_le (i : Interval) (hden : 0 < i.den) (exponent : Int) :
    |(i.neighbours exponent).1.value - i.value / i.den| ≤ 1 / 2 * 10 ^ exponent := by
  have hten : (0 : ℚ) < 10 ^ exponent := zpow_pos (by norm_num) _
  have hscaled := div_zpow (show 0 < 10 by decide) i.value i.den exponent
  generalize hnum : (if 0 ≤ exponent then i.value
    else i.value * 10 ^ (-exponent).toNat) = num at hscaled
  generalize hdenom : (if 0 ≤ exponent then i.den * 10 ^ exponent.toNat else i.den) = den at hscaled
  have hpos : 0 < den := by
    rw [← hdenom]
    split
    · exact Nat.mul_pos hden (Nat.pow_pos (by decide))
    · exact hden
  have hnear : (i.neighbours exponent).1 = ⟨roundDiv num den, exponent⟩ := by
    simp only [Interval.neighbours, Nat.pow_eq, hnum, hdenom, roundDiv]
    split <;> rfl
  have hround := abs_roundDiv_sub_le num hpos
  have hvalue : (i.value : ℚ) / i.den = num / den * 10 ^ exponent := by
    rw [hscaled, Nat.cast_ofNat, div_mul_cancel₀ _ hten.ne']
  rw [hnear, Decimal.value, hvalue, ← sub_mul, abs_mul, abs_of_pos hten]
  exact mul_le_mul_of_nonneg_right hround hten.le

/-- Going on until a point of a grid lies in the interval, one is found if the nearest one does on
some grid. -/
lemma holds_shortestFrom {leading : Int} {fuel count k : Nat} (hcount : count ≤ k)
    (hk : k ≤ count + fuel) (h : i.holds (i.neighbours (leading - k + 1)).1) :
    i.holds (i.shortestFrom leading fuel count) := by
  induction fuel generalizing count with
  | zero =>
    obtain rfl : count = k := Nat.le_antisymm hcount hk
    exact h
  | succ fuel ih =>
    rw [Interval.shortestFrom]
    dsimp only
    split
    next hnear => exact hnear
    next hnear =>
      split
      next hfar => exact hfar
      next =>
        have hne : count ≠ k := by
          rintro rfl
          exact hnear h
        exact ih (by omega) (by omega)

/-! ### The leading digit -/

/-- Whether a power of ten is at most a quotient. -/
def atMost (num den : Nat) (k : Int) : Bool :=
  if 0 ≤ k then Nat.pow 10 k.toNat * den ≤ num else den ≤ num * Nat.pow 10 (-k).toNat

lemma atMost_iff {num den : Nat} (hden : 0 < den) (k : Int) :
    atMost num den k ↔ (10 : ℚ) ^ k ≤ num / den := by
  have h := zpow_le_div_iff (n := num) (show 0 < 10 by decide) hden k
  rw [Nat.cast_ofNat] at h
  rw [h, atMost, Bool.ite_eq_true_distrib, decide_eq_true_iff, decide_eq_true_iff]
  rfl

lemma atMost_decimalOrder {num den fuel : Nat} {k : Int} (h : atMost num den k) :
    atMost num den (decimalOrder num den fuel k) := by
  induction fuel generalizing k with
  | zero => exact h
  | succ fuel ih =>
    rw [decimalOrder]
    change atMost num den (if !atMost num den k then decimalOrder num den fuel (k - 1)
      else if atMost num den (k + 1) then decimalOrder num den fuel (k + 1) else k)
    rw [h, Bool.not_true, if_neg Bool.false_ne_true]
    split
    next hnext => exact ih hnext
    next => exact h

/-- From a guess that is one too high at most, a power that is at most the quotient is found. -/
lemma atMost_decimalOrder_of_pred {num den fuel : Nat} {k : Int} (h : atMost num den (k - 1)) :
    atMost num den (decimalOrder num den (fuel + 1) k) := by
  by_cases hk : atMost num den k
  · exact atMost_decimalOrder hk
  · rw [decimalOrder]
    change atMost num den (if !atMost num den k then decimalOrder num den fuel (k - 1) else _)
    rw [Bool.eq_false_iff.mpr hk, Bool.not_false, if_pos rfl]
    exact atMost_decimalOrder h

/-- The guess of a power of ten is one too high at most. -/
lemma ten_zpow_le {order : Int} (hlow : -1075 ≤ order) (hhigh : order ≤ 1024) :
    (10 : ℚ) ^ (order * 30103 / 100000 - 1) ≤ 2 ^ (order - 1) := by
  have hall : ∀ n : Nat, n < 2100 → atMost (2 ^ ((n : Int) - 1076).toNat)
      (2 ^ (1076 - (n : Int)).toNat) (((n : Int) - 1075) * 30103 / 100000 - 1) := by
    decide +kernel
  obtain ⟨n, hn⟩ := Int.eq_ofNat_of_zero_le (show 0 ≤ order + 1075 by omega)
  obtain rfl : order = (n : Int) - 1075 := by omega
  have h := (atMost_iff (Nat.pow_pos Nat.two_pos) _).mp (hall n (by omega))
  refine h.trans_eq ?_
  rw [Nat.cast_pow, Nat.cast_pow, Nat.cast_ofNat, ← zpow_natCast, ← zpow_natCast,
    ← zpow_sub₀ two_ne_zero]
  congr 1
  omega

/-- The value of a number lies between the least and the greatest power of two. -/
lemma value_bounds (hb : b.IsProper) (hpos : 0 < b.significand) :
    (2 : ℚ) ^ (-1074 : Int) ≤ b.value ∧ b.value < 2 ^ (1024 : Int) := by
  have hone : (1 : ℚ) ≤ b.significand := by exact_mod_cast hpos
  have hlt : (b.significand : ℚ) < 2 ^ (53 : Int) := by
    have : (b.significand : ℚ) < 2 ^ 53 := by exact_mod_cast hb.significand_lt
    exact_mod_cast this
  have hle : (2 : ℚ) ^ (-1074 : Int) ≤ 2 ^ b.exponent :=
    zpow_le_zpow_right₀ one_le_two hb.le_exponent
  have hge : (2 : ℚ) ^ b.exponent ≤ 2 ^ (971 : Int) :=
    zpow_le_zpow_right₀ one_le_two hb.exponent_le
  have hu : (0 : ℚ) < 2 ^ b.exponent := zpow_pos two_pos _
  constructor
  · calc (2 : ℚ) ^ (-1074 : Int) ≤ 2 ^ b.exponent := hle
      _ ≤ b.value := le_mul_of_one_le_left hu.le hone
  · calc b.value < 2 ^ (53 : Int) * 2 ^ b.exponent := mul_lt_mul_of_pos_right hlt hu
      _ ≤ 2 ^ (53 : Int) * 2 ^ (971 : Int) := mul_le_mul_of_nonneg_left hge (zpow_pos two_pos _).le
      _ = 2 ^ (1024 : Int) := (zpow_add₀ two_ne_zero 53 971).symm

/-- The power of ten of the leading digit is at most the number. -/
lemma ten_zpow_leadingExponent_le (hb : b.IsProper) (hpos : 0 < b.significand) :
    (10 : ℚ) ^ leadingExponent b.interval.value b.interval.den ≤ b.value := by
  obtain ⟨hden, -, hvalue, -⟩ := interval_eq hpos
  obtain ⟨hleast, hgreatest⟩ := value_bounds hb hpos
  have hnum : 0 < b.interval.value := by
    refine Nat.pos_of_ne_zero fun hzero => ?_
    rw [← hvalue, hzero, Nat.cast_zero, zero_div] at hleast
    exact absurd hleast (zpow_pos two_pos _).not_ge
  obtain ⟨hlow, hhigh⟩ := log2_spec hnum hden
  rw [hvalue] at hlow hhigh
  have hbelow := (zpow_lt_zpow_iff_right₀ (one_lt_two (α := ℚ))).mp (hleast.trans_lt hhigh)
  have habove := (zpow_lt_zpow_iff_right₀ (one_lt_two (α := ℚ))).mp (hlow.trans_lt hgreatest)
  have hguess := (ten_zpow_le (by omega) (by omega)).trans hlow
  rw [← hvalue] at hguess ⊢
  rw [← atMost_iff hden] at hguess ⊢
  exact atMost_decimalOrder_of_pred hguess

/-! ### Reading back -/

/-- A decimal with eighteen digits that is nearest to a number is closest to that number. -/
lemma holds_neighbours (hb : b.IsProper) (hpos : 0 < b.significand) :
    b.interval.holds (b.interval.neighbours
      (leadingExponent b.interval.value b.interval.den - (18 : Nat) + 1)).1 := by
  obtain ⟨hden, -, hvalue, -⟩ := interval_eq hpos
  have hleading := ten_zpow_leadingExponent_le hb hpos
  have hnear := abs_neighbours_sub_le b.interval hden
    (leadingExponent b.interval.value b.interval.den - (18 : Nat) + 1)
  generalize leadingExponent b.interval.value b.interval.den = leading at hleading hnear ⊢
  have hu : (0 : ℚ) < 2 ^ b.exponent := zpow_pos two_pos _
  have hsignificand : (b.significand : ℚ) ≤ 2 ^ 53 := by exact_mod_cast hb.significand_lt.le
  have hstep : (10 : ℚ) ^ (leading - (18 : Nat) + 1) = 10 ^ leading * (10 ^ 17)⁻¹ := by
    rw [← zpow_natCast, ← zpow_neg, ← zpow_add₀ (by norm_num)]
    congr 1
    push_cast
    ring
  have hquarter : 1 / 2 * (10 : ℚ) ^ (leading - (18 : Nat) + 1) < 1 / 4 * 2 ^ b.exponent := by
    rw [hstep]
    rw [Binary.value] at hleading
    nlinarith
  rw [hvalue] at hnear
  obtain ⟨hbelow, habove⟩ := abs_lt.mp (hnear.trans_lt hquarter)
  have hlow : b.low ≤ b.value - 1 / 4 * 2 ^ b.exponent := b.low_le
  have hhigh : b.high = b.value + 1 / 2 * 2 ^ b.exponent := rfl
  rw [holds_iff hpos]
  generalize (b.interval.neighbours (leading - (18 : Nat) + 1)).1.value = near at hbelow habove ⊢
  have hlt : b.low < near := by linarith
  have hgt : near < b.high := by linarith
  exact ⟨hlt.le, hgt.le, fun hend => (hend.elim hlt.ne' hgt.ne).elim⟩

/-- The shortest decimal of a number is closest to it. -/
theorem isNearest_shortest (hb : b.IsProper) (hpos : 0 < b.significand) :
    b.IsNearest b.shortest.value := by
  rw [Binary.shortest, if_neg hpos.ne']
  dsimp only
  rw [Decimal.value_trimmed, ← holds_iff hpos]
  exact holds_shortestFrom (k := 18) (by omega) (by omega) (holds_neighbours hb hpos)

/-- What is closest to a number lies between the least and the greatest power of ten that are
read. -/
lemma leading_bounds (hb : b.IsProper) (hpos : 0 < b.significand)
    (h : b.IsNearest decimal.value) :
    decimal.digits ≠ 0 ∧ -330 ≤ decimal.leading ∧ decimal.leading ≤ 310 := by
  obtain ⟨hleast, hgreatest⟩ := value_bounds hb hpos
  have hu : (0 : ℚ) < 2 ^ b.exponent := zpow_pos two_pos _
  have hone : (1 : ℚ) ≤ b.significand := by exact_mod_cast hpos
  have hunit : (2 : ℚ) ^ b.exponent ≤ b.value := le_mul_of_one_le_left hu.le hone
  have hlow : b.value / 2 ≤ decimal.value := by
    have := b.value_sub_le_low.trans h.low_le
    linarith
  have hhigh : decimal.value ≤ 2 * b.value := by
    have := h.le_high
    rw [Binary.high] at this
    linarith
  have hdigits : decimal.digits ≠ 0 := by
    intro hzero
    rw [Decimal.value, hzero, Nat.cast_zero, zero_mul] at hlow
    linarith
  obtain ⟨hle, hlt⟩ := Decimal.value_bounds hdigits
  have hmost : 2 * (2 : ℚ) ^ (1024 : Int) ≤ 10 ^ (311 : Int) := by
    have : 2 * 2 ^ 1024 ≤ 10 ^ 311 := by decide +kernel
    exact_mod_cast this
  have hfewest : (10 : ℚ) ^ (-330 : Int) ≤ 2 ^ (-1074 : Int) / 2 := by
    have : 2 ^ 1074 * 2 ≤ 10 ^ 330 := by decide +kernel
    have : (2 ^ 1074 * 2 : ℚ) ≤ 10 ^ 330 := by exact_mod_cast this
    rw [zpow_neg, zpow_neg, div_eq_mul_inv, ← mul_inv]
    exact inv_anti₀ (by positivity) (by exact_mod_cast this)
  have hbelow : (10 : ℚ) ^ (-330 : Int) < 10 ^ (decimal.leading + 1) :=
    hfewest.trans_lt ((div_le_div_of_nonneg_right hleast two_pos.le).trans_lt (hlow.trans_lt hlt))
  have habove : (10 : ℚ) ^ decimal.leading < 10 ^ (311 : Int) :=
    hle.trans_lt (hhigh.trans_lt ((mul_lt_mul_of_pos_left hgreatest two_pos).trans_le hmost))
  have hten : (1 : ℚ) < 10 := by norm_num
  have := (zpow_lt_zpow_iff_right₀ hten).mp hbelow
  have := (zpow_lt_zpow_iff_right₀ hten).mp habove
  exact ⟨hdigits, by omega, by omega⟩

/-- A decimal is read as the number that it is closest to. -/
theorem ofDecimal_eq (hb : b.IsProper) (hpos : 0 < b.significand)
    (h : b.IsNearest decimal.value) : ofDecimal decimal = Float.ofBits (UInt64.ofNat b.bits) := by
  obtain ⟨hdigits, hleast, hmost⟩ := leading_bounds hb hpos h
  rw [ofDecimal, if_neg hdigits, if_neg (by omega), if_neg (by omega), Nat.pow_eq, Nat.pow_eq]
  split
  next hle =>
    obtain ⟨k, hk⟩ := Int.eq_ofNat_of_zero_le hle
    have hvalue : ((decimal.digits * 10 ^ decimal.exponent.toNat : Nat) : ℚ) / (1 : Nat) =
        decimal.value := by
      rw [Decimal.value, hk, Int.toNat_natCast, zpow_natCast]
      push_cast
      ring
    exact Binary.IsNearest.ofRatio_eq hb hpos (hvalue ▸ h) Nat.one_pos
  next hlt =>
    obtain ⟨k, hk⟩ : ∃ k : Nat, decimal.exponent = -k := ⟨(-decimal.exponent).toNat, by omega⟩
    have hvalue : (decimal.digits : ℚ) / (10 ^ (-decimal.exponent).toNat : Nat) =
        decimal.value := by
      rw [Decimal.value, hk, neg_neg, Int.toNat_natCast, zpow_neg, zpow_natCast, div_eq_mul_inv]
      push_cast
      rfl
    exact Binary.IsNearest.ofRatio_eq hb hpos (hvalue ▸ h) (Nat.pow_pos (by decide))

end Stencil.Number
