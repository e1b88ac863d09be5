import Stencil.Proofs.Literals

/-!
# Natural numbers as floating-point numbers

A number is natural if it has no sign and no fraction; the negative zero is zero (`IsNatural`). Each
natural number below `2 ^ 53` is one exactly (`isNatural_ofRatio`), and numbers are compared by
their values (`lt_iff`).
-/

namespace Stencil.Number

open Float.Model (UnpackedFloat Format)
open Float.Model.UnpackedFloat (Sign unpack unpackMantissa unpackExponent unpackSign)

variable {x y : Float} {a b : Binary} {n : Nat}

/-! ### Comparing -/

/-- Whether a number is unpacked to these parts, without a sign. -/
def UnpacksTo (x : Float) (b : Binary) : Prop :=
  (b.significand = 0 ∧ x.toModel.unpack = .zero .positive) ∨
    ∃ hpos, x.toModel.unpack = .finite .positive b.significand b.exponent hpos

lemma unpacksTo (h : decode x = .finite false b) : UnpacksTo x b := by
  obtain ⟨⟨hlt, hle, hexponent, hsignificand⟩, hbits⟩ := decode_eq_finite h
  rw [if_neg Bool.false_ne_true, Nat.zero_add, Binary.bits] at hbits
  have hm := toNat_unpackMantissa x.toBits.toBitVec
  have he := toNat_unpackExponent x.toBits.toBitVec
  have hs := toNat_unpackSign x.toBits.toBitVec
  rw [UInt64.toNat_toBitVec, hbits] at hm he hs
  have hsign : Sign.ofBitVec (@unpackSign .binary64 x.toBits.toBitVec) = .positive := by
    have hzero : @unpackSign .binary64 x.toBits.toBitVec = 0#1 := by
      rw [← BitVec.toNat_inj, hs]
      change _ = 0
      omega
    rw [hzero]
    rfl
  have hbias : Format.binary64.exponentBias = 1023 := rfl
  unfold UnpacksTo
  change (_ ∧ unpack .binary64 x.toBits.toBitVec = _) ∨
    ∃ hpos, unpack .binary64 x.toBits.toBitVec = _
  fun_cases unpack .binary64 x.toBits.toBitVec
  case case1 hall _ =>
    have hall : (@unpackExponent .binary64 x.toBits.toBitVec).toNat = 2047 := congrArg _ hall
    omega
  case case2 hall _ =>
    have hall : (@unpackExponent .binary64 x.toBits.toBitVec).toNat = 2047 := congrArg _ hall
    omega
  case case3 sign _ hzero hmantissa =>
    have hzero : (@unpackExponent .binary64 x.toBits.toBitVec).toNat = 0 := congrArg _ hzero
    have hmantissa : (@unpackMantissa .binary64 x.toBits.toBitVec).toNat = 0 := congrArg _ hmantissa
    exact .inl ⟨by omega, congrArg _ hsign⟩
  case case4 mantissaVec exponentVec exponent _ sign _ hzero hmantissa =>
    have hzero : exponentVec.toNat = 0 := congrArg _ hzero
    have hmantissa : mantissaVec.toNat ≠ 0 := fun h => hmantissa (BitVec.toNat_inj.mp h)
    have hexponent : exponent = -1075 := by simp [exponent, hzero, hbias]
    change mantissaVec.toNat = _ at hm
    change exponentVec.toNat = _ at he
    refine .inr ⟨by omega, ?_⟩
    rw [UnpackedFloat.finite.injEq]
    exact ⟨hsign, by omega, by omega⟩
  case case5 mantissaVec exponentVec exponent _ sign _ hpositive =>
    have hpositive : exponentVec.toNat ≠ 0 := fun h => hpositive (BitVec.toNat_inj.mp h)
    have hexponent : exponent = exponentVec.toNat - 1075 := by simp [exponent, hbias]
    have hmantissa : (1#1 ++ mantissaVec).toNat = 2 ^ 52 + mantissaVec.toNat := by
      rw [BitVec.toNat_append, ← Nat.shiftLeft_add_eq_or_of_lt mantissaVec.isLt]
      rfl
    change mantissaVec.toNat = _ at hm
    change exponentVec.toNat = _ at he
    refine .inr ⟨by omega, ?_⟩
    rw [UnpackedFloat.finite.injEq]
    exact ⟨hsign, by omega, by omega⟩

/-- The exponent decides which of two numbers is greater, and the significand if they have the same
exponent. -/
lemma compare_value (ha : a.IsProper) (hb : b.IsProper) :
    (compare a.exponent b.exponent).then (compare a.significand b.significand) =
      compare a.value b.value := by
  have hless {a b : Binary} (ha : a.IsProper) (hb : b.IsProper) (h : a.exponent < b.exponent) :
      a.value < b.value := by
    have hsignificand : (2 : ℚ) ^ 52 ≤ b.significand := by
      exact_mod_cast hb.le_significand (ha.le_exponent.trans_lt h)
    have hlt : (a.significand : ℚ) < 2 ^ 53 := by exact_mod_cast ha.significand_lt
    have hunit : (0 : ℚ) < 2 ^ a.exponent := zpow_pos two_pos _
    have htwice : (2 : ℚ) ^ a.exponent * 2 ≤ 2 ^ b.exponent := by
      rw [← zpow_add_one₀ two_ne_zero]
      exact zpow_le_zpow_right₀ one_le_two h
    rw [Binary.value, Binary.value]
    nlinarith
  rcases lt_trichotomy a.exponent b.exponent with h | h | h
  · rw [compare_lt_iff_lt.mpr h, compare_lt_iff_lt.mpr (hless ha hb h)]
    rfl
  · have hunit : (0 : ℚ) < 2 ^ b.exponent := zpow_pos two_pos _
    rw [compare_eq_iff_eq.mpr h, Binary.value, Binary.value, h]
    change compare a.significand b.significand = _
    rcases lt_trichotomy a.significand b.significand with h | h | h
    · rw [compare_lt_iff_lt.mpr h, eq_comm, compare_lt_iff_lt]
      gcongr
    · rw [h, compare_eq_iff_eq.mpr rfl, compare_eq_iff_eq.mpr rfl]
    · rw [compare_gt_iff_gt.mpr h, eq_comm, compare_gt_iff_gt]
      gcongr
  · rw [compare_gt_iff_gt.mpr h, compare_gt_iff_gt.mpr (hless hb ha h)]
    rfl

/-- Numbers without a sign are compared by their values. -/
lemma compare_eq (hx : decode x = .finite false a) (hy : decode y = .finite false b) :
    x.toModel.unpack.compare y.toModel.unpack = some (compare a.value b.value) := by
  have hvalue {b : Binary} (hpos : 0 < b.significand) : 0 < b.value :=
    mul_pos (Nat.cast_pos.mpr hpos) (zpow_pos two_pos _)
  have hzero {b : Binary} (h : b.significand = 0) : b.value = 0 := by
    rw [Binary.value, h, Nat.cast_zero, zero_mul]
  obtain ⟨hx', hx⟩ | ⟨hx', hx⟩ := unpacksTo hx <;> obtain ⟨hy', hy⟩ | ⟨hy', hy⟩ := unpacksTo hy <;>
    rw [hx, hy]
  · rw [hzero hx', hzero hy', compare_eq_iff_eq.mpr rfl]
    rfl
  · rw [hzero hx', compare_lt_iff_lt.mpr (hvalue hy')]
    rfl
  · rw [hzero hy', compare_gt_iff_gt.mpr (hvalue hx')]
    rfl
  · rw [← compare_value (decode_eq_finite ‹_›).1 (decode_eq_finite ‹_›).1]
    rfl

lemma lt_iff (hx : decode x = .finite false a) (hy : decode y = .finite false b) :
    x < y ↔ a.value < b.value := by
  change x.lt y = true ↔ _
  rw [Float.lt, decide_eq_true_iff]
  change (x.toModel.unpack.compare y.toModel.unpack == some .lt) = true ↔ _
  rw [compare_eq hx hy, beq_iff_eq, Option.some_inj, compare_lt_iff_lt]

lemma le_iff (hx : decode x = .finite false a) (hy : decode y = .finite false b) :
    x ≤ y ↔ a.value ≤ b.value := by
  change x.le y = true ↔ _
  rw [Float.le, decide_eq_true_iff]
  change (x.toModel.unpack.compare y.toModel.unpack).any Ordering.isLE = true ↔ _
  rw [compare_eq hx hy, Option.any_some]
  exact Ordering.ne_gt_iff_isLE.symm.trans compare_le_iff_le

/-! ### Natural numbers -/

/-- The parts of the number with these bits. -/
lemma decode_ofBits (hb : b.IsProper) :
    decode (Float.ofBits (UInt64.ofNat b.bits)) = .finite false b := by
  have hlt := hb.bits_lt
  have hbits := toBits_ofBits hlt
  rw [infinityBits, Nat.shiftLeft_eq] at hlt
  have htoNat : (UInt64.ofNat b.bits).toNat = b.bits :=
    UInt64.toNat_ofNat_of_lt' (hlt.trans (by decide))
  have hsign := sign_eq (Float.ofBits (UInt64.ofNat b.bits))
  rw [hbits, htoNat] at hsign
  have hnegative : isNegative (Float.ofBits (UInt64.ofNat b.bits)) = false := by
    rw [← Bool.not_eq_true]
    intro h
    rw [if_pos h] at hsign
    omega
  obtain ⟨significand, exponent⟩ := b
  obtain ⟨hsignificand, hle, hexponent, hnormal⟩ := hb
  dsimp only at *
  simp only [decode, hbits, htoNat, hnegative, Nat.shiftRight_eq_div_pow, Nat.shiftLeft_eq,
    Nat.one_mul, Binary.bits] at *
  split_ifs
  · omega
  · omega
  · rw [Decoded.finite.injEq, Binary.mk.injEq]
    exact ⟨rfl, by omega, by omega⟩
  · rw [Decoded.finite.injEq, Binary.mk.injEq]
    exact ⟨rfl, by omega, by omega⟩

/-- The parts of a number that is a natural number. -/
lemma Binary.value_eq_natCast_iff :
    b.value = n ↔ b.toRatio.1 % b.toRatio.2 = 0 ∧ b.floor = n := by
  obtain ⟨hpos, hvalue⟩ := value_eq_toRatio b
  constructor
  · intro h
    rw [hvalue, div_eq_iff (Nat.cast_ne_zero.mpr hpos.ne')] at h
    have hproduct : b.toRatio.1 = n * b.toRatio.2 := by exact_mod_cast h
    rw [Binary.floor, hproduct]
    exact ⟨Nat.mul_mod_left .., Nat.mul_div_cancel _ hpos⟩
  · rintro ⟨hwhole, rfl⟩
    rw [← value_floor hwhole, Decimal.value, zpow_zero, mul_one]

/-- Only one number has no significand, up to its sign. -/
lemma Binary.IsProper.eq_zero (hb : b.IsProper) (h : b.significand = 0) : b = ⟨0, -1074⟩ := by
  have hexponent : b.exponent = -1074 := by
    have := hb.le_exponent
    have := hb.le_significand
    omega
  rw [← h, ← hexponent]

/-- A natural number that some parts have for their value is the number with these parts. -/
lemma decode_ofRatio (hb : b.IsProper) (hvalue : b.value = n) :
    decode (ofRatio n 1) = .finite false b := by
  rcases Nat.eq_zero_or_pos b.significand with hzero | hpos
  · have hn : n = 0 := by
      rw [Binary.value, hzero, Nat.cast_zero, zero_mul] at hvalue
      exact_mod_cast hvalue.symm
    rw [hn, hb.eq_zero hzero]
    decide +kernel
  · have hnearest : b.IsNearest ((n : ℚ) / (1 : Nat)) := by
      rw [Nat.cast_one, div_one, ← hvalue]
      exact b.isNearest_value
    rw [hnearest.ofRatio_eq hb hpos Nat.one_pos, decode_ofBits hb]

/-- The parts of a natural number that has at most 53 bits. -/
lemma exists_value_eq (hn : n < 2 ^ 53) : ∃ b : Binary, b.IsProper ∧ b.value = n := by
  rcases Nat.eq_zero_or_pos n with rfl | hpos
  · exact ⟨⟨0, -1074⟩, ⟨by decide, by decide, by decide, fun h => absurd h (by decide)⟩,
      by simp [Binary.value]⟩
  · have hlog : n.log2 < 53 := (Nat.log2_lt hpos.ne').mpr hn
    obtain ⟨k, hk⟩ : ∃ k, n.log2 + k = 52 := ⟨52 - n.log2, by omega⟩
    have hpow : 2 ^ n.log2 * 2 ^ k = 2 ^ 52 := by rw [← pow_add, hk]
    refine ⟨⟨n * 2 ^ k, -k⟩, ⟨?_, by dsimp only; omega, by dsimp only; omega, fun _ => ?_⟩, ?_⟩
    · have hlt : n * 2 ^ k < 2 ^ (n.log2 + 1) * 2 ^ k :=
        Nat.mul_lt_mul_of_pos_right Nat.lt_log2_self (Nat.two_pow_pos k)
      rwa [pow_succ, mul_right_comm, hpow, ← pow_succ] at hlt
    · rw [← hpow]
      exact Nat.mul_le_mul_right _ (Nat.log2_self_le hpos.ne')
    · have hunit : (2 : ℚ) ^ k ≠ 0 := pow_ne_zero _ two_ne_zero
      rw [Binary.value, zpow_neg, zpow_natCast]
      push_cast
      rw [mul_assoc, mul_inv_cancel₀ hunit, mul_one]

/-- Whether a number is a natural number; the negative zero is zero. -/
structure IsNatural (x : Float) (n : Nat) : Prop where
  whole : isIntegral x
  truncated : truncate x = n

lemma isNatural_of_decode (h : decode x = .finite false b) (hvalue : b.value = n) :
    IsNatural x n := by
  obtain ⟨hwhole, hfloor⟩ := Binary.value_eq_natCast_iff.mp hvalue
  constructor
  · simp [isIntegral, h, hwhole]
  · simp [truncate, h, hfloor]

lemma IsNatural.cases (h : IsNatural x n) :
    (∃ b, decode x = .finite false b ∧ b.value = n) ∨ (x = -0 ∧ n = 0) := by
  obtain ⟨hintegral, htruncate⟩ := h
  rcases hdecode : decode x with _ | _ | ⟨negative, b⟩
  · simp [isIntegral, hdecode] at hintegral
  · simp [isIntegral, hdecode] at hintegral
  · simp only [isIntegral, truncate, hdecode, beq_iff_eq] at hintegral htruncate
    cases negative with
    | false =>
      rw [if_neg Bool.false_ne_true] at htruncate
      exact .inl ⟨b, rfl, Binary.value_eq_natCast_iff.mpr ⟨hintegral, by exact_mod_cast htruncate⟩⟩
    | true =>
      rw [if_pos rfl] at htruncate
      have hfloor : b.floor = 0 := by omega
      have hsignificand : b.significand = 0 := by
        by_contra hne
        exact (floor_pos (Nat.pos_of_ne_zero hne) hintegral).ne' hfloor
      refine .inr ⟨?_, by omega⟩
      rw [eq_of_decode hdecode, if_pos rfl, (decode_eq_finite hdecode).1.eq_zero hsignificand]
      decide +kernel

lemma isNatural_ofRatio (hn : n < 2 ^ 53) : IsNatural (ofRatio n 1) n := by
  obtain ⟨b, hb, hvalue⟩ := exists_value_eq hn
  exact isNatural_of_decode (decode_ofRatio hb hvalue) hvalue

/-- A natural number is read off its parts. -/
lemma IsNatural.exists_decode (h : IsNatural x n) :
    ∃ b, decode (ofRatio n 1) = .finite false b ∧ b.value = n := by
  obtain ⟨b, hdecode, hvalue⟩ | ⟨-, rfl⟩ := h.cases
  · exact ⟨b, decode_ofRatio (decode_eq_finite hdecode).1 hvalue, hvalue⟩
  · obtain ⟨b, hb, hvalue⟩ := @exists_value_eq 0 (by decide)
    exact ⟨b, decode_ofRatio hb hvalue, hvalue⟩

lemma IsNatural.nonneg (h : IsNatural x n) : 0 ≤ x := by
  obtain ⟨b, hdecode, hvalue⟩ | ⟨rfl, -⟩ := h.cases
  · have hzero : decode 0 = .finite false ⟨0, -1074⟩ := by decide +kernel
    rw [le_iff hzero hdecode, hvalue]
    simp [Binary.value]
  · decide +kernel

end Stencil.Number
