import Mathlib
import Stencil.Number.Decimal

/-!
# Rounding

Between two floating-point numbers there are the numbers that are closer to one of them than to the
other. A quotient of natural numbers is rounded to the number that it is closest to (`ofRatio_eq`).
-/

namespace Stencil.Number

open Float.Model (UnpackedFloat Format)
open Float.Model.UnpackedFloat (unpack pack unpackMantissa unpackExponent unpackSign)

variable {num den n d r : Nat} {k : Int} {x : Float} {negative : Bool} {b : Binary} {q : ℚ}

/-! ### The parts of a number -/

namespace Binary

/-- The value of the parts of a number. -/
def value (b : Binary) : ℚ := b.significand * 2 ^ b.exponent

/-- The bits of the number with these parts. -/
def bits (b : Binary) : Nat := b.significand + (b.exponent + 1074).toNat * 2 ^ 52

/-- Whether a floating-point number has these parts: they are the only ones of their value. -/
structure IsProper (b : Binary) : Prop where
  significand_lt : b.significand < 2 ^ 53
  le_exponent : -1074 ≤ b.exponent
  exponent_le : b.exponent ≤ 971
  le_significand : -1074 < b.exponent → 2 ^ 52 ≤ b.significand

lemma IsProper.bits_lt (h : b.IsProper) : b.bits < infinityBits := by
  obtain ⟨hlt, hle, hexponent, -⟩ := h
  rw [bits, infinityBits, Nat.shiftLeft_eq]
  omega

end Binary

/-- The bit of the sign is the first. -/
lemma sign_eq (x : Float) :
    (if isNegative x then 2 ^ 63 else 0) = x.toBits.toNat / 2 ^ 63 * 2 ^ 63 := by
  have hlt := x.toBits.toNat_lt
  have hsign : isNegative x ↔ x.toBits.toNat / 2 ^ 63 = 1 := by
    rw [isNegative, beq_iff_eq, ← UInt64.toNat_inj, UInt64.toNat_shiftRight,
      Nat.shiftRight_eq_div_pow]
    rfl
  rw [if_congr hsign rfl rfl]
  split <;> omega

/-- The parts of a finite number are proper, and its bits are those of the parts behind the bit of
the sign. -/
theorem decode_eq_finite (h : decode x = .finite negative b) :
    b.IsProper ∧ x.toBits.toNat = (if negative then 2 ^ 63 else 0) + b.bits := by
  have hlt := x.toBits.toNat_lt
  have hsign := sign_eq x
  simp only [decode, Nat.shiftRight_eq_div_pow, Nat.shiftLeft_eq, Nat.one_mul] at h
  split_ifs at h with hspecial hfraction hzero
  · cases h
    rw [hsign, Binary.bits]
    refine ⟨⟨?_, ?_, ?_, ?_⟩, ?_⟩ <;> dsimp only <;> omega
  · cases h
    rw [hsign, Binary.bits]
    refine ⟨⟨?_, ?_, ?_, ?_⟩, ?_⟩ <;> dsimp only <;> omega

section Unpacking

variable (v : BitVec Format.binary64.numBits)

lemma toNat_unpackMantissa : (unpackMantissa v).toNat = v.toNat % 2 ^ 52 := by
  rw [UnpackedFloat.unpackMantissa_def, BitVec.extractLsb'_toNat, Nat.shiftRight_zero]

lemma toNat_unpackExponent : (unpackExponent v).toNat = v.toNat / 2 ^ 52 % 2 ^ 11 := by
  rw [UnpackedFloat.unpackExponent_def, BitVec.extractLsb'_toNat, Nat.shiftRight_eq_div_pow]

lemma toNat_unpackSign : (unpackSign v).toNat = v.toNat / 2 ^ 63 % 2 := by
  rw [UnpackedFloat.unpackSign_def, BitVec.extractLsb'_toNat, Nat.shiftRight_eq_div_pow]
  rfl

end Unpacking

/-- The bit of the sign alone tells a number from its opposite. -/
lemma unpack_eq_neg {v w : BitVec Format.binary64.numBits} (h : w.toNat = v.toNat + 2 ^ 63) :
    unpack .binary64 w = (unpack .binary64 v).neg := by
  have hlt : w.toNat < 2 ^ 64 := w.isLt
  have hmantissa : unpackMantissa w = unpackMantissa v := by
    rw [← BitVec.toNat_inj, toNat_unpackMantissa, toNat_unpackMantissa]
    omega
  have hexponent : unpackExponent w = unpackExponent v := by
    rw [← BitVec.toNat_inj, toNat_unpackExponent, toNat_unpackExponent]
    omega
  have hw : unpackSign w = 1#1 := by
    rw [← BitVec.toNat_inj, toNat_unpackSign, BitVec.toNat_one Nat.one_pos]
    omega
  have hv : unpackSign v = 0#1 := by
    rw [← BitVec.toNat_inj, toNat_unpackSign, BitVec.toNat_zero]
    omega
  simp only [unpack, hmantissa, hexponent, hw, hv]
  split_ifs <;> rfl

/-- The bits of a number with these parts are its own. -/
lemma toBits_ofBits {n : Nat} (hn : n < infinityBits) :
    (Float.ofBits (UInt64.ofNat n)).toBits = UInt64.ofNat n := by
  rw [infinityBits, Nat.shiftLeft_eq] at hn
  have htoNat : (UInt64.ofNat n).toNat = n := UInt64.toNat_ofNat_of_lt' (hn.trans (by decide))
  have hnan : @UnpackedFloat.isNaNBits .binary64 (UInt64.ofNat n).toBitVec = false := by
    rw [UnpackedFloat.isNaNBits, decide_eq_false_iff_not, not_and_or]
    left
    rw [← BitVec.toNat_inj, toNat_unpackExponent, UInt64.toNat_toBitVec, htoNat]
    change ¬ n / 2 ^ 52 % 2 ^ 11 = 2047
    omega
  rw [← UInt64.toBitVec_inj]
  change pack .binary64 (unpack .binary64 (UInt64.ofNat n).toBitVec) = _
  rw [UnpackedFloat.pack_unpack _ (by decide), hnan, if_neg Bool.false_ne_true]

/-- A finite number is that of its bits, or the opposite of that if it is negative. -/
theorem eq_of_decode (h : decode x = .finite negative b) :
    x = if negative then -Float.ofBits (UInt64.ofNat b.bits)
      else Float.ofBits (UInt64.ofNat b.bits) := by
  obtain ⟨hb, hbits⟩ := decode_eq_finite h
  have hlt := hb.bits_lt
  have hn : (UInt64.ofNat b.bits).toNat = b.bits := UInt64.toNat_ofNat_of_lt' (by
    rw [infinityBits, Nat.shiftLeft_eq] at hlt
    exact hlt.trans (by decide))
  rw [← Float.toBits_inj, ← UInt64.toNat_inj, hbits]
  cases negative with
  | false =>
    rw [if_neg Bool.false_ne_true, if_neg Bool.false_ne_true, toBits_ofBits hlt, hn, Nat.zero_add]
  | true =>
    have hsign : x.toBits.toBitVec.toNat = (UInt64.ofNat b.bits).toBitVec.toNat + 2 ^ 63 := by
      rw [UInt64.toNat_toBitVec, hbits, if_pos rfl, UInt64.toNat_toBitVec, hn, Nat.add_comm]
    have hvalid : pack .binary64 (unpack .binary64 x.toBits.toBitVec) = x.toBits.toBitVec :=
      UnpackedFloat.pack_unpack_of_valid x.toModel.valid
    have hneg : (-Float.ofBits (UInt64.ofNat b.bits)).toBits.toBitVec =
        pack .binary64 (unpack .binary64
          (Float.ofBits (UInt64.ofNat b.bits)).toBits.toBitVec).neg := rfl
    rw [if_pos rfl, if_pos rfl, ← UInt64.toNat_toBitVec, hneg, toBits_ofBits hlt,
      ← unpack_eq_neg hsign, hvalid,
      UInt64.toNat_toBitVec, hbits, if_pos rfl]

/-! ### Quotients -/

/-- A quotient is rounded to the natural number that it is closest to. -/
lemma roundDiv_eq (hd : 0 < d) (hlow : (r : ℚ) - 1 / 2 ≤ n / d) (hhigh : (n : ℚ) / d ≤ r + 1 / 2)
    (heven : (n : ℚ) / d = r - 1 / 2 ∨ (n : ℚ) / d = r + 1 / 2 → r % 2 = 0) :
    roundDiv n d = r := by
  have hd' : (0 : ℚ) < d := Nat.cast_pos.mpr hd
  have hlow : 2 * d * r ≤ 2 * n + d := by
    rw [le_div_iff₀ hd'] at hlow
    have : (2 * d * r : ℚ) ≤ 2 * n + d := by linarith
    exact_mod_cast this
  have hhigh : 2 * n ≤ 2 * d * r + d := by
    rw [div_le_iff₀ hd'] at hhigh
    have : (2 * n : ℚ) ≤ 2 * d * r + d := by linarith
    exact_mod_cast this
  have heven : 2 * n + d = 2 * d * r ∨ 2 * n = 2 * d * r + d → r % 2 = 0 := by
    refine fun h => heven (h.imp (fun h => ?_) fun h => ?_)
    · have : (2 * n + d : ℚ) = 2 * d * r := by exact_mod_cast h
      rw [div_eq_iff hd'.ne']
      linarith
    · have : (2 * n : ℚ) = 2 * d * r + d := by exact_mod_cast h
      rw [div_eq_iff hd'.ne']
      linarith
  have hdiv := Nat.div_add_mod n d
  have hmod := Nat.mod_lt n hd
  rw [roundDiv]
  generalize n / d = down at *
  generalize n % d = rest at *
  subst hdiv
  have hdown : r ≤ down + 1 := by
    by_contra hlt
    have := Nat.mul_le_mul_left d (show down + 2 ≤ r by omega)
    nlinarith
  have hdown' : down ≤ r := by
    by_contra hlt
    have := Nat.mul_le_mul_left d (show r + 1 ≤ down by omega)
    nlinarith
  obtain rfl | rfl : r = down ∨ r = down + 1 := by omega
  · rw [if_neg]
    rintro (hgt | ⟨heq, hodd⟩)
    · nlinarith
    · have := heven (.inr (by nlinarith))
      omega
  · rw [if_pos]
    by_contra hnot
    rw [not_or, not_and, not_lt] at hnot
    obtain ⟨hle, hodd⟩ := hnot
    have heq : 2 * rest = d := by nlinarith
    have := heven (.inl (by nlinarith))
    have := hodd heq
    omega

/-- A quotient is rounded by a half at most. -/
lemma abs_roundDiv_sub_le (n : Nat) (hd : 0 < d) : |(roundDiv n d : ℚ) - n / d| ≤ 1 / 2 := by
  have hd' : (0 : ℚ) < d := Nat.cast_pos.mpr hd
  have hdiv : (d * (n / d : Nat) + (n % d : Nat) : ℚ) = n := by exact_mod_cast Nat.div_add_mod n d
  have hquotient : (n : ℚ) / d = (n / d : Nat) + (n % d : Nat) / d := by
    rw [← hdiv]
    field_simp
  have hrest : (0 : ℚ) ≤ (n % d : Nat) := Nat.cast_nonneg _
  have hrest' : ((n % d : Nat) : ℚ) < d := by exact_mod_cast Nat.mod_lt n hd
  rw [hquotient, roundDiv, abs_le]
  generalize n / d = down at *
  generalize n % d = rest at *
  have hhalf : ((rest : ℚ) / d ≤ 1 / 2 ↔ 2 * rest ≤ d) := by
    rw [div_le_iff₀ hd', one_div_mul_eq_div, le_div_iff₀ two_pos, mul_comm]
    exact_mod_cast Iff.rfl
  have hhalf' : (1 / 2 ≤ (rest : ℚ) / d ↔ d ≤ 2 * rest) := by
    rw [le_div_iff₀ hd', one_div_mul_eq_div, div_le_iff₀ two_pos, mul_comm]
    exact_mod_cast Iff.rfl
  have hpos : (0 : ℚ) ≤ rest / d := div_nonneg hrest hd'.le
  have hone : (rest : ℚ) / d < 1 := (div_lt_one hd').mpr hrest'
  split
  next hup =>
    have := hhalf'.mpr (by omega)
    push_cast
    constructor <;> linarith
  next hdown =>
    have := hhalf.mpr (by omega)
    constructor <;> linarith

section Scaled

variable {base : Nat}

/-- Powers of a base with any exponent are fractions of natural numbers. -/
lemma div_zpow (hbase : 0 < base) (n d : Nat) (k : Int) :
    ((if 0 ≤ k then n else n * base ^ (-k).toNat : Nat) : ℚ) /
        (if 0 ≤ k then d * base ^ k.toNat else d : Nat) = n / d / (base : ℚ) ^ k := by
  have hbase' : (base : ℚ) ≠ 0 := Nat.cast_ne_zero.mpr hbase.ne'
  split
  next hk =>
    obtain ⟨m, rfl⟩ := Int.eq_ofNat_of_zero_le hk
    rw [Int.toNat_natCast, zpow_natCast, Nat.cast_mul, Nat.cast_pow, div_div]
  next hk =>
    obtain ⟨m, rfl⟩ : ∃ m : Nat, k = -m := ⟨(-k).toNat, by omega⟩
    rw [neg_neg, Int.toNat_natCast, zpow_neg, zpow_natCast, div_inv_eq_mul, Nat.cast_mul,
      Nat.cast_pow, mul_div_right_comm]

/-- Whether a power of a base is at most a quotient. -/
lemma zpow_le_div_iff (hbase : 0 < base) (hd : 0 < d) (k : Int) :
    (base : ℚ) ^ k ≤ n / d ↔
      if 0 ≤ k then base ^ k.toNat * d ≤ n else d ≤ n * base ^ (-k).toNat := by
  have hpos : (0 : ℚ) < (base : ℚ) ^ k := zpow_pos (Nat.cast_pos.mpr hbase) k
  rw [← one_le_div hpos, ← div_zpow hbase n d k]
  split
  next hk =>
    rw [one_le_div (Nat.cast_pos.mpr (Nat.mul_pos hd (Nat.pow_pos hbase))), Nat.cast_le,
      Nat.mul_comm]
  next hk => rw [one_le_div (Nat.cast_pos.mpr hd), Nat.cast_le]

end Scaled

/-- The logarithms of two numbers tell powers of two that their quotient lies between. -/
lemma log2_spec (hnum : 0 < num) (hden : 0 < den) :
    (2 : ℚ) ^ ((num.log2 : Int) - den.log2 - 1) ≤ num / den ∧
      (num : ℚ) / den < 2 ^ ((num.log2 : Int) - den.log2 + 1) := by
  have hnum' := Nat.log2_self_le hnum.ne'
  have hden' := Nat.log2_self_le hden.ne'
  have hnum'' := Nat.lt_log2_self (n := num)
  have hden'' := Nat.lt_log2_self (n := den)
  have hd : (0 : ℚ) < den := Nat.cast_pos.mpr hden
  constructor
  · rw [le_div_iff₀ hd]
    calc (2 : ℚ) ^ ((num.log2 : Int) - den.log2 - 1) * den
        ≤ 2 ^ ((num.log2 : Int) - den.log2 - 1) * (2 ^ (den.log2 + 1) : Nat) := by
          gcongr
      _ = 2 ^ num.log2 := by
          rw [Nat.cast_pow, Nat.cast_ofNat, ← zpow_natCast, ← zpow_natCast,
            ← zpow_add₀ two_ne_zero]
          congr 1
          push_cast
          ring
      _ ≤ num := by exact_mod_cast hnum'
  · rw [div_lt_iff₀ hd]
    calc (num : ℚ) < (2 ^ (num.log2 + 1) : Nat) := by exact_mod_cast hnum''
      _ = 2 ^ ((num.log2 : Int) - den.log2 + 1) * (2 ^ den.log2 : Nat) := by
          rw [Nat.cast_pow, Nat.cast_pow, Nat.cast_ofNat, ← zpow_natCast, ← zpow_natCast,
            ← zpow_add₀ two_ne_zero]
          congr 1
          push_cast
          ring
      _ ≤ 2 ^ ((num.log2 : Int) - den.log2 + 1) * den := by gcongr

/-- The order of a quotient tells the powers of two that it lies between. -/
lemma binaryOrder_spec (hnum : 0 < num) (hden : 0 < den) :
    (2 : ℚ) ^ binaryOrder num den ≤ num / den ∧
      (num : ℚ) / den < 2 ^ (binaryOrder num den + 1) := by
  obtain ⟨hlow, hhigh⟩ := log2_spec hnum hden
  have hatMost : (2 : ℚ) ^ ((num.log2 : Int) - den.log2) ≤ num / den ↔ _ :=
    zpow_le_div_iff Nat.two_pos hden ((num.log2 : Int) - den.log2)
  simp only [binaryOrder, Nat.shiftLeft_eq, Nat.mul_comm den, Bool.ite_eq_true_distrib,
    decide_eq_true_eq, ← hatMost]
  split
  next hle => exact ⟨hle, hhigh⟩
  next hlt =>
    rw [sub_add_cancel]
    exact ⟨hlow, not_le.mp hlt⟩

/-- The order of a quotient between two powers of two. -/
lemma binaryOrder_eq (hnum : 0 < num) (hden : 0 < den) (hlow : (2 : ℚ) ^ k ≤ num / den)
    (hhigh : (num : ℚ) / den < 2 ^ (k + 1)) : binaryOrder num den = k := by
  obtain ⟨hle, hlt⟩ := binaryOrder_spec hnum hden
  have htwo : (1 : ℚ) < 2 := by norm_num
  have := (zpow_lt_zpow_iff_right₀ htwo).mp (hle.trans_lt hhigh)
  have := (zpow_lt_zpow_iff_right₀ htwo).mp (hlow.trans_lt hlt)
  omega

/-! ### The nearest number -/

namespace Binary

/-- Where the numbers begin that are closer to this one than to the one before. Below a power of two
the numbers lie half as far apart as above. -/
def low (b : Binary) : ℚ :=
  b.value - (if b.significand = 2 ^ 52 ∧ -1074 < b.exponent then 1 / 4 else 1 / 2) * 2 ^ b.exponent

/-- Where the numbers end that are closer to this one than to the next. -/
def high (b : Binary) : ℚ := b.value + 1 / 2 * 2 ^ b.exponent

/-- Whether a quotient is closest to a number, which is even if another one is as close. -/
structure IsNearest (b : Binary) (q : ℚ) : Prop where
  low_le : b.low ≤ q
  le_high : q ≤ b.high
  even : q = b.low ∨ q = b.high → b.significand % 2 = 0

lemma value_sub_le_low (b : Binary) : b.value - 1 / 2 * 2 ^ b.exponent ≤ b.low := by
  have hpos : (0 : ℚ) < 2 ^ b.exponent := zpow_pos two_pos _
  rw [low]
  split <;> linarith

lemma low_le (b : Binary) : b.low ≤ b.value - 1 / 4 * 2 ^ b.exponent := by
  have hpos : (0 : ℚ) < 2 ^ b.exponent := zpow_pos two_pos _
  rw [low]
  split <;> linarith

lemma low_lt_value (b : Binary) : b.low < b.value := by
  have hpos : (0 : ℚ) < 2 ^ b.exponent := zpow_pos two_pos _
  rw [low]
  split <;> linarith

lemma value_lt_high (b : Binary) : b.value < b.high := by
  have hpos : (0 : ℚ) < 2 ^ b.exponent := zpow_pos two_pos _
  rw [high]
  linarith

lemma isNearest_value (b : Binary) : b.IsNearest b.value :=
  ⟨b.low_lt_value.le, b.value_lt_high.le,
    fun h => h.elim (fun h => absurd h b.low_lt_value.ne') fun h => absurd h b.value_lt_high.ne⟩

end Binary

/-- The number that has these bits when a quotient is rounded to a whole number of units. -/
lemma ofRatio_eq_of_unit {unit : Int} (hnum : 0 < num) (hden : 0 < den)
    (hunit : unit = max (-1074) (binaryOrder num den - 52))
    (hlow : (r : ℚ) - 1 / 2 ≤ num / den / 2 ^ unit)
    (hhigh : (num : ℚ) / den / 2 ^ unit ≤ r + 1 / 2)
    (heven : (num : ℚ) / den / 2 ^ unit = r - 1 / 2 ∨ (num : ℚ) / den / 2 ^ unit = r + 1 / 2 →
      r % 2 = 0) (hbits : r + (unit + 1074).toNat * 2 ^ 52 = n) (hn : n < infinityBits) :
    ofRatio num den = Float.ofBits (UInt64.ofNat n) := by
  have hscaled := div_zpow Nat.two_pos num den unit
  rw [Nat.cast_ofNat] at hscaled
  rw [← hscaled] at hlow hhigh heven
  have hpos : 0 < if 0 ≤ unit then den * 2 ^ unit.toNat else den := by
    split
    · exact Nat.mul_pos hden (Nat.pow_pos Nat.two_pos)
    · exact hden
  have hround := roundDiv_eq hpos hlow hhigh heven
  have hrounded : (if 0 ≤ unit then roundDiv num (den <<< unit.toNat)
      else roundDiv (num <<< (-unit).toNat) den) = r := by
    rw [← hround]
    simp only [Nat.shiftLeft_eq]
    split <;> rfl
  rw [ofRatio, if_neg (by omega), ← hunit]
  dsimp only
  rw [hrounded, Nat.shiftLeft_eq, hbits, Nat.min_eq_left hn.le]

namespace Binary.IsNearest

variable (hb : b.IsProper) (hpos : 0 < b.significand) (h : b.IsNearest (num / den))
include hpos h

lemma num_pos : 0 < num := by
  have hlow := b.value_sub_le_low.trans h.low_le
  have hone : (1 : ℚ) ≤ b.significand := by exact_mod_cast hpos
  have hu : (0 : ℚ) < 2 ^ b.exponent := zpow_pos two_pos _
  refine Nat.pos_of_ne_zero fun hzero => ?_
  rw [hzero, Nat.cast_zero, zero_div, value] at hlow
  nlinarith

include hb

lemma order_lt (hden : 0 < den) : binaryOrder num den < 53 + b.exponent := by
  have hhigh := h.le_high
  have hu : (0 : ℚ) < 2 ^ b.exponent := zpow_pos two_pos _
  have hmost : (b.significand + 1 : ℚ) ≤ 2 ^ 53 := by exact_mod_cast hb.significand_lt
  have hpower : (2 : ℚ) ^ (53 : Int) = 2 ^ 53 := zpow_natCast 2 53
  rw [high, value] at hhigh
  obtain ⟨horder, -⟩ := binaryOrder_spec (h.num_pos hpos) hden
  refine (zpow_lt_zpow_iff_right₀ one_lt_two).mp (horder.trans_lt ?_)
  rw [zpow_add₀ two_ne_zero, hpower]
  nlinarith

/-- What is closest to a number has its unit, unless it lies below a power of two. -/
lemma ofRatio_eq_of_le (hden : 0 < den)
    (hcase : (2 : ℚ) ^ 52 * 2 ^ b.exponent ≤ num / den ∨ b.exponent = -1074) :
    ofRatio num den = Float.ofBits (UInt64.ofNat b.bits) := by
  obtain ⟨hlow, hhigh, heven⟩ := h
  have hsub := b.value_sub_le_low
  have hu : (0 : ℚ) < 2 ^ b.exponent := zpow_pos two_pos _
  have hnum := num_pos hpos ⟨hlow, hhigh, heven⟩
  have hunder := order_lt hb hpos ⟨hlow, hhigh, heven⟩ hden
  have hunit : b.exponent = max (-1074) (binaryOrder num den - 52) := by
    have hle := hb.le_exponent
    rcases hcase with hcase | hcase
    · obtain ⟨-, horder⟩ := binaryOrder_spec hnum hden
      have hover : 52 + b.exponent < binaryOrder num den + 1 := by
        refine (zpow_lt_zpow_iff_right₀ one_lt_two).mp (lt_of_le_of_lt ?_ horder)
        rw [zpow_add₀ two_ne_zero]
        exact hcase
      omega
    · omega
  rw [value] at hsub
  refine ofRatio_eq_of_unit hnum hden hunit ?_ ?_ (fun htie => heven ?_) rfl hb.bits_lt
  · rw [le_div_iff₀ hu]
    linarith
  · rw [div_le_iff₀ hu]
    rw [high, value] at hhigh
    linarith
  · rw [div_eq_iff hu.ne', div_eq_iff hu.ne'] at htie
    refine htie.imp (fun htie => ?_) fun htie => ?_
    · linarith
    · rw [high, value, htie]
      ring

/-- Below a power of two the unit is half as large. -/
lemma ofRatio_eq_of_lt (hden : 0 < den)
    (hbelow : (num : ℚ) / den < 2 ^ 52 * 2 ^ b.exponent) (hexponent : -1074 < b.exponent) :
    ofRatio num den = Float.ofBits (UInt64.ofNat b.bits) := by
  have hnum := h.num_pos hpos
  have hlow := h.low_le
  have hpower : b.significand = 2 ^ 52 := by
    refine Nat.le_antisymm (not_lt.mp fun hlt => ?_) (hb.le_significand hexponent)
    have hsub := b.value_sub_le_low
    have hu : (0 : ℚ) < 2 ^ b.exponent := zpow_pos two_pos _
    have : (2 ^ 52 + 1 : ℚ) ≤ b.significand := by exact_mod_cast hlt
    rw [value] at hsub
    nlinarith
  have hpower' : (b.significand : ℚ) = 2 ^ 52 := by
    rw [hpower]
    norm_num
  have hhalf : (2 : ℚ) ^ b.exponent = 2 * 2 ^ (b.exponent - 1) := by
    rw [← zpow_one_add₀ two_ne_zero]
    congr 1
    omega
  have hu : (0 : ℚ) < 2 ^ (b.exponent - 1) := zpow_pos two_pos _
  rw [low, if_pos ⟨hpower, hexponent⟩, value, hpower', hhalf] at hlow
  rw [hhalf] at hbelow
  have horder : binaryOrder num den = b.exponent + 51 := by
    refine binaryOrder_eq hnum hden ?_ ?_
    · have hsplit : b.exponent + 51 = 52 + (b.exponent - 1) := by ring
      have : (2 : ℚ) ^ (52 : Int) = 2 ^ 52 := zpow_natCast 2 52
      rw [hsplit, zpow_add₀ two_ne_zero]
      nlinarith
    · have hsplit : b.exponent + 51 + 1 = 53 + (b.exponent - 1) := by ring
      have : (2 : ℚ) ^ (53 : Int) = 2 ^ 53 := zpow_natCast 2 53
      rw [hsplit, zpow_add₀ two_ne_zero]
      nlinarith
  have hunit : b.exponent - 1 = max (-1074) (binaryOrder num den - 52) := by omega
  have hbits : 2 ^ 53 + (b.exponent - 1 + 1074).toNat * 2 ^ 52 = b.bits := by
    rw [bits, hpower]
    omega
  refine ofRatio_eq_of_unit hnum hden hunit ?_ ?_ (fun _ => rfl) hbits hb.bits_lt
  · rw [le_div_iff₀ hu]
    push_cast
    nlinarith
  · rw [div_le_iff₀ hu]
    push_cast
    nlinarith

/-- A quotient is rounded to the number that it is closest to. -/
theorem ofRatio_eq (hden : 0 < den) : ofRatio num den = Float.ofBits (UInt64.ofNat b.bits) := by
  rcases lt_or_ge ((num : ℚ) / den) (2 ^ 52 * 2 ^ b.exponent) with hbelow | habove
  · rcases hb.le_exponent.lt_or_eq with hexponent | hexponent
    · exact h.ofRatio_eq_of_lt hb hpos hden hbelow hexponent
    · exact h.ofRatio_eq_of_le hb hpos hden (.inr hexponent.symm)
  · exact h.ofRatio_eq_of_le hb hpos hden (.inl habove)

end Binary.IsNearest

end Stencil.Number
