import Stencil.Proofs.Rounding

/-!
# One more

A finite number and one have a finite sum, which is not the negative zero (`isOrdinary_add_one`).
The sum is computed exactly and then rounded. It is never as large as what is rounded to infinity,
and what is not zero is not rounded to zero.
-/

namespace Stencil.Number

open Float.Model (UnpackedFloat Format totalExponent)
open Float.Model.UnpackedFloat (ExtendedMantissa Accuracy Sign unpack pack unpackMantissa
  unpackExponent unpackSign shiftToTargetExponent shiftToExponent decreaseExponent)

variable {x : Float} {b : Binary} {negative : Bool} {m : Nat} {e : Int} {q : ℚ}
  {em : ExtendedMantissa} {sign : Sign}

/-! ### Rounding a mantissa -/

/-- Whether an extended mantissa is at most a number, with a half for its first bit behind the
point. -/
def IsAtMost (em : ExtendedMantissa) (q : ℚ) : Prop :=
  (em.mantissa : ℚ) + (if em.roundBit then 1 / 2 else 0) ≤ q

lemma IsAtMost.shiftRightOne (h : IsAtMost em q) : IsAtMost em.shiftRightOne (q / 2) := by
  have hhalf : ((em.mantissa / 2 : Nat) : ℚ) + (if em.mantissa % 2 != 0 then 1 / 2 else 0) =
      em.mantissa / 2 := by
    have hdiv : (2 * (em.mantissa / 2 : Nat) + (em.mantissa % 2 : Nat) : ℚ) = em.mantissa := by
      exact_mod_cast Nat.div_add_mod em.mantissa 2
    rcases Nat.mod_two_eq_zero_or_one em.mantissa with hbit | hbit
    · rw [hbit] at hdiv ⊢
      push_cast at hdiv
      simp only [bne_self_eq_false, Bool.false_eq_true, if_false]
      linarith
    · rw [hbit] at hdiv ⊢
      push_cast at hdiv
      simp only [Nat.reduceBNe, if_true]
      linarith
  have hle : (em.mantissa : ℚ) ≤ q := by
    refine le_trans (le_add_of_nonneg_right ?_) h
    split <;> norm_num
  rw [IsAtMost, ExtendedMantissa.shiftRightOne]
  dsimp only
  rw [hhalf]
  linarith

lemma IsAtMost.shiftRight (h : IsAtMost em q) (k : Nat) : IsAtMost (em >>> k) (q / 2 ^ k) := by
  induction k with
  | zero => simpa [HShiftRight.hShiftRight, Nat.repeat] using h
  | succ k ih =>
    rw [pow_succ, ← div_div]
    exact ih.shiftRightOne

/-- A mantissa is rounded up by a half at most. -/
lemma IsAtMost.roundedMantissa_le (h : IsAtMost em q) : (em.roundedMantissa : ℚ) ≤ q + 1 / 2 := by
  obtain ⟨mantissa, roundBit, stickyBit⟩ := em
  have hparity : ((mantissa % 2 : Nat) : ℚ) ≤ 1 := by
    exact_mod_cast Nat.le_of_lt_succ (Nat.mod_lt mantissa Nat.two_pos)
  cases roundBit <;> cases stickyBit <;>
    simp only [IsAtMost, ExtendedMantissa.roundedMantissa, ExtendedMantissa.accuracy,
      Accuracy.roundToNearestEven, Bool.false_eq_true, if_false, if_true] at h ⊢
  all_goals
    push_cast
    linarith

lemma le_roundedMantissa (em : ExtendedMantissa) : em.mantissa ≤ em.roundedMantissa := by
  obtain ⟨mantissa, roundBit, stickyBit⟩ := em
  cases roundBit <;> cases stickyBit <;>
    simp [ExtendedMantissa.roundedMantissa, ExtendedMantissa.accuracy, Accuracy.roundToNearestEven]

lemma mantissa_shiftRight (em : ExtendedMantissa) (k : Nat) :
    (em >>> k).mantissa = em.mantissa / 2 ^ k := by
  induction k with
  | zero => simp [HShiftRight.hShiftRight, Nat.repeat]
  | succ k ih =>
    rw [Nat.pow_succ, ← Nat.div_div_eq_div_mul, ← ih]
    rfl

/-! ### Rounding a number -/

/-- The exponent that a number is rounded to. -/
lemma targetExponent_eq (m : Nat) (e : Int) :
    Format.binary64.targetExponent (totalExponent m e) = max (m.log2 + e - 52) (-1074) := by
  rw [Format.targetExponent, totalExponent]
  change max ((m.log2 : Int) + 1 + e - 53) (-1074) = _
  congr 1
  ring

/-- A mantissa that is shifted to another exponent. -/
lemma shiftToTargetExponent_eq (m : Nat) (e : Int) {k : Nat}
    (hk : k = (Format.binary64.targetExponent (totalExponent m e) - e).toNat) :
    shiftToTargetExponent .binary64 m e .exact =
      ((⟨m, false, false⟩ : ExtendedMantissa) >>> k, e + k) := by
  rw [hk]
  rfl

/-- A mantissa that fits is not shifted any more, and that of the next power of two once. -/
lemma shiftToTargetExponent_of_le (hm : m ≤ 2 ^ 53) (hpos : 0 < m) (he : -1074 ≤ e) :
    ∃ final k, shiftToTargetExponent .binary64 m e .exact = (final, k) ∧ 0 < final.mantissa ∧
      final.mantissa < 2 ^ 53 ∧ (k = e ∨ m = 2 ^ 53 ∧ k = e + 1) := by
  rcases hm.lt_or_eq with hlt | rfl
  · have hlog : m.log2 < 53 := (Nat.log2_lt hpos.ne').mpr hlt
    rw [shiftToTargetExponent_eq m e (k := 0) (by rw [targetExponent_eq]; omega)]
    exact ⟨_, _, rfl, hpos, hlt, .inl (add_zero e)⟩
  · have hlog : (2 ^ 53).log2 = 53 := Nat.log2_two_pow
    rw [shiftToTargetExponent_eq (2 ^ 53) e (k := 1) (by rw [targetExponent_eq, hlog]; omega)]
    exact ⟨_, _, rfl, by rw [mantissa_shiftRight]; decide, by rw [mantissa_shiftRight]; decide,
      .inr ⟨rfl, rfl⟩⟩

/-- The mantissa that a number is rounded to, and whether it takes one bit too many. -/
lemma roundedMantissa_bounds (hm : 0 < m) (he : -1074 ≤ e) :
    ∃ first k, shiftToTargetExponent .binary64 m e .exact = (first, k) ∧
      k = max (m.log2 + e - 52) e ∧ 0 < first.roundedMantissa ∧ first.roundedMantissa ≤ 2 ^ 53 ∧
      (first.roundedMantissa : ℚ) * 2 ^ k ≤ m * 2 ^ e + 1 / 2 * 2 ^ k := by
  obtain ⟨k, hk⟩ : ∃ k, k = (Format.binary64.targetExponent (totalExponent m e) - e).toNat :=
    ⟨_, rfl⟩
  have hlow := Nat.log2_self_le hm.ne'
  have hhigh := Nat.lt_log2_self (n := m)
  refine ⟨_, _, shiftToTargetExponent_eq m e hk, ?_⟩
  rw [targetExponent_eq] at hk
  have hatMost : IsAtMost ((⟨m, false, false⟩ : ExtendedMantissa) >>> k) (m / 2 ^ k) :=
    IsAtMost.shiftRight (by simp [IsAtMost]) k
  have hround := hatMost.roundedMantissa_le
  have hfloor := le_roundedMantissa ((⟨m, false, false⟩ : ExtendedMantissa) >>> k)
  rw [mantissa_shiftRight] at hfloor
  dsimp only at hfloor
  generalize ((⟨m, false, false⟩ : ExtendedMantissa) >>> k).roundedMantissa = r at hround hfloor ⊢
  refine ⟨by omega, (Nat.div_pos ?_ (Nat.pow_pos Nat.two_pos)).trans_le hfloor, ?_, ?_⟩
  · exact (Nat.pow_le_pow_right Nat.two_pos (by omega)).trans hlow
  · have hlt : m < 2 ^ 53 * 2 ^ k := by
      rw [← Nat.pow_add]
      exact hhigh.trans_le (Nat.pow_le_pow_right Nat.two_pos (by omega))
    have hquotient : (m : ℚ) / 2 ^ k < 2 ^ 53 := by
      rw [div_lt_iff₀ (pow_pos two_pos k)]
      exact_mod_cast hlt
    have hr : (r : ℚ) < (2 ^ 53 + 1 : Nat) := by
      push_cast
      linarith
    exact Nat.le_of_lt_succ (Nat.cast_lt.mp hr)
  · have hu : (0 : ℚ) < 2 ^ (e + k) := zpow_pos two_pos _
    have hscale : (m : ℚ) / 2 ^ k * 2 ^ (e + k) = m * 2 ^ e := by
      rw [zpow_add₀ two_ne_zero, zpow_natCast]
      field_simp
    rw [← hscale]
    nlinarith

/-- Shifting a mantissa to the left by what is taken off its exponent keeps the value. -/
lemma shiftLeft_mul_zpow (m s : Nat) (e : Int) :
    ((m <<< s : Nat) : ℚ) * 2 ^ (e - s) = m * 2 ^ e := by
  rw [Nat.shiftLeft_eq, zpow_sub₀ two_ne_zero, zpow_natCast]
  push_cast
  field_simp

lemma log2_shiftLeft (hm : 0 < m) (s : Nat) : (m <<< s).log2 = m.log2 + s := by
  have hlow := Nat.mul_le_mul_right (2 ^ s) (Nat.log2_self_le hm.ne')
  have hhigh := Nat.mul_lt_mul_of_pos_right (Nat.lt_log2_self (n := m)) (Nat.two_pow_pos s)
  rw [← Nat.pow_add] at hlow hhigh
  rw [Nat.shiftLeft_eq, Nat.log2_eq_iff (Nat.mul_ne_zero hm.ne' (Nat.two_pow_pos s).ne')]
  exact ⟨hlow, by rwa [Nat.add_right_comm]⟩

lemma log2_add_lt {k : Int} (hm : 0 < m) (h : (m : ℚ) * 2 ^ e < 2 ^ k) :
    (m.log2 : Int) + e < k := by
  have hle : (2 : ℚ) ^ m.log2 ≤ m := by exact_mod_cast Nat.log2_self_le hm.ne'
  have hu : (0 : ℚ) < 2 ^ e := zpow_pos two_pos _
  refine (zpow_lt_zpow_iff_right₀ (one_lt_two (α := ℚ))).mp ?_
  rw [zpow_add₀ two_ne_zero, zpow_natCast]
  exact (mul_le_mul_of_nonneg_right hle hu.le).trans_lt h

/-- A number is rounded to one that fits, as long as it is closer to it than to the next power of
two behind the greatest. -/
lemma exists_round_eq (sign : Sign) (hm : 0 < m) (he : -1074 ≤ e)
    (hmost : (m : ℚ) * 2 ^ e < 2 ^ (1024 : Int) - 2 ^ (970 : Int)) :
    ∃ f k hf, UnpackedFloat.round .binary64 sign m e = .finite sign f k hf ∧ f < 2 ^ 53 ∧
      -1074 ≤ k ∧ k ≤ 971 := by
  obtain ⟨s, hs⟩ : ∃ s, s = (e - Format.binary64.targetExponent (totalExponent m e)).toNat :=
    ⟨_, rfl⟩
  have hlog : (m <<< s).log2 = m.log2 + s := log2_shiftLeft hm s
  have htarget : Format.binary64.targetExponent (totalExponent (m <<< s) (e - s)) =
      Format.binary64.targetExponent (totalExponent m e) := by
    rw [targetExponent_eq, targetExponent_eq, hlog]
    congr 1
    push_cast
    ring
  have hpos : 0 < m <<< s := by
    rw [Nat.shiftLeft_eq]
    exact Nat.mul_pos hm (Nat.pow_pos Nat.two_pos)
  have hbelow : (m.log2 : Int) + e < 1024 :=
    log2_add_lt hm (hmost.trans (sub_lt_self _ (zpow_pos two_pos _)))
  rw [targetExponent_eq] at hs
  obtain ⟨first, t, hfirst, ht, hr, hle, hround⟩ :=
    roundedMantissa_bounds hpos (e := e - s) (by omega)
  rw [hlog] at ht
  rw [shiftLeft_mul_zpow] at hround
  obtain ⟨final, k, hfinal, hf, hlt, hlast⟩ :=
    shiftToTargetExponent_of_le hle hr (e := t) (by omega)
  refine ⟨final.mantissa, k, hf, ?_, hlt, by omega, ?_⟩
  · rw [UnpackedFloat.round, targetExponent_eq]
    dsimp only [decreaseExponent]
    rw [← hs, UnpackedFloat.roundWithAccuracy, hfirst]
    dsimp only
    rw [hfinal]
    exact dif_neg hf.ne'
  · rcases hlast with hlast | ⟨hfull, hlast⟩
    · omega
    -- the greatest exponent leaves no room for rounding up to the next power of two
    · have hless : t ≠ 971 := by
        rintro rfl
        rw [hfull] at hround
        have htwo : (2 : ℚ) ^ (971 : Int) = 2 * 2 ^ (970 : Int) := by
          rw [← zpow_one_add₀ two_ne_zero]
          rfl
        have hpower : ((2 ^ 53 : Nat) : ℚ) * 2 ^ (971 : Int) = 2 ^ (1024 : Int) := by
          rw [Nat.cast_pow, Nat.cast_ofNat, ← zpow_natCast, ← zpow_add₀ two_ne_zero]
          rfl
        rw [hpower, htwo] at hround
        generalize (2 : ℚ) ^ (970 : Int) = gap at hround hmost
        linarith
      omega

/-! ### The sum -/

/-- Whether a number is finite. -/
def IsFinite (x : Float) : Prop := ∃ negative b, decode x = .finite negative b

/-- Whether a number is finite and not the negative zero. -/
def IsOrdinary (x : Float) : Prop :=
  ∃ negative b, decode x = .finite negative b ∧ (b.significand = 0 → negative = false)

lemma IsOrdinary.isFinite (h : IsOrdinary x) : IsFinite x := by
  obtain ⟨negative, b, hdecode, -⟩ := h
  exact ⟨negative, b, hdecode⟩

/-- A number is finite just when the bits of its exponent are not all set. -/
lemma isFinite_iff :
    IsFinite x ↔ @unpackExponent .binary64 x.toBits.toBitVec ≠ -1 := by
  have hfield := toNat_unpackExponent x.toBits.toBitVec
  have hspecial : @unpackExponent .binary64 x.toBits.toBitVec = -1 ↔
      x.toBits.toNat / 2 ^ 52 % 2 ^ 11 = 2047 := by
    rw [← BitVec.toNat_inj, hfield]
    rfl
  rw [Ne, hspecial, IsFinite]
  simp only [decode, Nat.shiftRight_eq_div_pow, Nat.shiftLeft_eq, Nat.one_mul]
  split_ifs with hall <;> simp [hall]

/-- What a finite number is unpacked to. -/
lemma exists_unpack_eq {v : BitVec Format.binary64.numBits} (h : unpackExponent v ≠ -1) :
    ∃ sign, unpack .binary64 v = .zero sign ∨
      ∃ m e hm, unpack .binary64 v = .finite sign m e hm ∧ m < 2 ^ 53 ∧ -1074 ≤ e ∧ e ≤ 971 := by
  have hmantissa : (unpackMantissa v).toNat < 2 ^ 52 := (unpackMantissa v).isLt
  have hfield : (unpackExponent v).toNat < 2 ^ 11 := (unpackExponent v).isLt
  have hspecial : (unpackExponent v).toNat ≠ 2047 := by
    rw [Ne, ← BitVec.toNat_inj] at h
    exact h
  have hbias : Format.binary64.exponentBias = 1023 := rfl
  fun_cases unpack .binary64 v
  case case1 hall _ => exact absurd hall h
  case case2 hall _ => exact absurd hall h
  case case3 sign _ _ _ => exact ⟨sign, .inl rfl⟩
  case case4 exponent _ sign _ hzero _ =>
    have hexponent : exponent = -1075 := by simp [exponent, hzero, hbias]
    exact ⟨sign, .inr ⟨_, _, _, rfl, hmantissa.trans (by decide), by omega, by omega⟩⟩
  case case5 exponentVec exponent _ sign _ hpositive =>
    have hexponent : exponent = (unpackExponent v).toNat - 1075 := by
      simp [exponent, exponentVec, hbias]
    have hpositive : (unpackExponent v).toNat ≠ 0 := by
      rw [← BitVec.toNat_inj] at hpositive
      exact hpositive
    have htoNat : (1#1 ++ unpackMantissa v).toNat < 2 ^ 53 := (1#1 ++ unpackMantissa v).isLt
    exact ⟨sign, .inr ⟨_, _, _, rfl, htoNat, by omega, by omega⟩⟩

/-- A finite number is ordinary if some bit of its exponent or of its fraction is set. -/
lemma isOrdinary_of_ne_zero (h : IsFinite x)
    (hne : @unpackExponent .binary64 x.toBits.toBitVec ≠ 0 ∨
      @unpackMantissa .binary64 x.toBits.toBitVec ≠ 0) : IsOrdinary x := by
  obtain ⟨negative, b, hdecode⟩ := h
  refine ⟨negative, b, hdecode, fun hzero => ?_⟩
  obtain ⟨⟨-, hle, -, hsignificand⟩, hbits⟩ := decode_eq_finite hdecode
  rw [Binary.bits, hzero, Nat.zero_add] at hbits
  rw [Ne, Ne, ← BitVec.toNat_inj, ← BitVec.toNat_inj, toNat_unpackExponent, toNat_unpackMantissa,
    UInt64.toNat_toBitVec, hbits] at hne
  change ¬ _ = 0 ∨ ¬ _ = 0 at hne
  split at hne <;> omega

/-- A number that fits is ordinary when it is packed. -/
lemma isOrdinary_pack {hm : 0 < m} (hlt : m < 2 ^ 53) (hle : -1074 ≤ e) (hge : e ≤ 971)
    (hx : x.toBits.toBitVec = pack .binary64 (.finite sign m e hm)) : IsOrdinary x := by
  have hbias : Format.binary64.exponentBias = 1023 := rfl
  have hbits : 2 ^ Format.binary64.exponentBits = 2048 := rfl
  have hbiased : (e + Format.binary64.exponentBias +
      Format.binary64.mantissaBitsWithoutImplicit).toNat = (e + 1075).toNat := by
    rw [hbias]
    congr 1
    change e + 1023 + 52 = _
    ring
  simp only [pack, hbiased] at hx
  rw [if_neg (by omega)] at hx
  split at hx
  next hnormal =>
    have hexponent : @unpackExponent .binary64 x.toBits.toBitVec =
        BitVec.ofNat _ (e + 1075).toNat := by
      rw [hx, UnpackedFloat.unpackExponent_packComponents]
    have hvalue : (BitVec.ofNat Format.binary64.exponentBits (e + 1075).toNat).toNat =
        (e + 1075).toNat := by
      rw [BitVec.toNat_ofNat, hbits, Nat.mod_eq_of_lt (by omega)]
    refine isOrdinary_of_ne_zero (isFinite_iff.mpr ?_) (.inl ?_) <;>
      rw [hexponent, Ne, ← BitVec.toNat_inj, hvalue]
    · change ¬ _ = 2047
      omega
    · change ¬ _ = 0
      omega
  next hsubnormal =>
    have hexponent : @unpackExponent .binary64 x.toBits.toBitVec = 0 := by
      rw [hx, UnpackedFloat.unpackExponent_packComponents]
      rfl
    have hmantissa : @unpackMantissa .binary64 x.toBits.toBitVec = BitVec.ofNat _ m := by
      rw [hx, UnpackedFloat.unpackMantissa_packComponents]
    have hlog : m.log2 < 52 := by
      have := (Nat.log2_lt hm.ne').mpr hlt
      change ¬ m.log2 + 1 = 53 at hsubnormal
      omega
    refine isOrdinary_of_ne_zero (isFinite_iff.mpr ?_) (.inr ?_)
    · rw [hexponent]
      decide
    · rw [hmantissa, Ne, ← BitVec.toNat_inj, BitVec.toNat_ofNat]
      change ¬ m % 2 ^ 52 = 0
      rw [Nat.mod_eq_of_lt ((Nat.log2_lt hm.ne').mp hlog)]
      exact hm.ne'

/-- A number that is not too large is ordinary when it is rounded, and its zero has no sign. -/
lemma isOrdinary_normalize {m : Int} (he : -1074 ≤ e)
    (hmost : |(m : ℚ)| * 2 ^ e < 2 ^ (1024 : Int) - 2 ^ (970 : Int))
    (hx : x.toBits.toBitVec = pack .binary64 (UnpackedFloat.normalize .binary64 m e .positive)) :
    IsOrdinary x := by
  have hround (sign : Sign) {n : Nat} (hn : 0 < n) (habs : |(m : ℚ)| = n)
      (hx : x.toBits.toBitVec = pack .binary64 (UnpackedFloat.round .binary64 sign n e)) :
      IsOrdinary x := by
    obtain ⟨f, k, hf, heq, hlt, hle, hge⟩ := exists_round_eq sign hn he (habs ▸ hmost)
    rw [heq] at hx
    exact isOrdinary_pack hlt hle hge hx
  rw [UnpackedFloat.normalize] at hx
  rcases lt_trichotomy m 0 with hm | rfl | hm
  · rw [Int.compare_eq_lt.mpr hm] at hx
    refine hround .negative (by omega) ?_ hx
    rw [abs_of_neg (by exact_mod_cast hm)]
    exact_mod_cast (Int.toNat_of_nonneg (by omega)).symm
  · have hzero : x.toBits = 0 := UInt64.toBitVec_inj.mp hx
    refine ⟨false, ⟨0, -1074⟩, ?_, fun _ => rfl⟩
    rw [decode, isNegative, hzero]
    rfl
  · rw [Int.compare_eq_gt.mpr hm] at hx
    refine hround .positive (by omega) ?_ hx
    rw [abs_of_pos (by exact_mod_cast hm)]
    exact_mod_cast (Int.toNat_of_nonneg hm.le).symm

/-- The greatest number plus one is not rounded to infinity. -/
lemma greatest_add_one_lt :
    (2 ^ 53 - 1) * (2 : ℚ) ^ (971 : Int) + 1 < 2 ^ (1024 : Int) - 2 ^ (970 : Int) := by
  have hgap : (1 : ℚ) < 2 ^ (970 : Int) := one_lt_zpow₀ one_lt_two (by decide)
  have htwo : (2 : ℚ) ^ (971 : Int) = 2 * 2 ^ (970 : Int) := zpow_one_add₀ two_ne_zero 970
  have hpower : (2 : ℚ) ^ (1024 : Int) = 2 ^ 54 * 2 ^ (970 : Int) := by
    rw [← zpow_natCast, ← zpow_add₀ two_ne_zero]
    rfl
  rw [htwo, hpower]
  generalize (2 : ℚ) ^ (970 : Int) = gap at hgap
  linarith

/-- A finite number and one have an ordinary sum. -/
theorem isOrdinary_add_one (h : IsFinite x) : IsOrdinary (x + 1) := by
  have hone : unpack .binary64 (1 : Float).toBits.toBitVec =
      .finite .positive (2 ^ 52) (-52) (by decide) := by
    have hbits : (1 : Float).toBits = 0x3FF0000000000000 := by decide +kernel
    rw [hbits]
    rfl
  have hsum : (x + 1).toBits.toBitVec = pack .binary64 (UnpackedFloat.add .binary64
      (unpack .binary64 x.toBits.toBitVec) (unpack .binary64 (1 : Float).toBits.toBitVec)) := rfl
  rw [hone] at hsum
  obtain ⟨sign, hzero | ⟨m, e, hm, hunpack, hlt, hle, hge⟩⟩ := exists_unpack_eq (isFinite_iff.mp h)
  · rw [hzero] at hsum
    exact isOrdinary_pack (by decide) (by decide) (by decide) hsum
  · rw [hunpack, UnpackedFloat.add] at hsum
    refine isOrdinary_normalize (by omega) ?_ hsum
    have hscale (n : Nat) {k : Int} (hk : min e (-52) ≤ k) :
        ((n <<< (k - min e (-52)).toNat : Nat) : ℚ) * 2 ^ min e (-52) = n * 2 ^ k := by
      rw [← shiftLeft_mul_zpow n (k - min e (-52)).toNat k,
        Int.toNat_of_nonneg (Int.sub_nonneg.mpr hk), sub_sub_cancel]
    have hfirst := hscale m (min_le_left e (-52))
    have hsecond := hscale (2 ^ 52) (min_le_right e (-52))
    generalize m <<< (e - min e (-52)).toNat = first at hfirst ⊢
    generalize 2 ^ 52 <<< (-52 - min e (-52)).toNat = second at hsecond ⊢
    have habs : |((sign.apply first + Sign.positive.apply second : Int) : ℚ)| ≤ first + second := by
      have hf : (0 : ℚ) ≤ first := Nat.cast_nonneg _
      have hs : (0 : ℚ) ≤ second := Nat.cast_nonneg _
      rw [abs_le]
      cases sign <;> simp only [Sign.apply] <;> push_cast <;> constructor <;> linarith
    have hunit : (0 : ℚ) < 2 ^ min e (-52) := zpow_pos two_pos _
    have hone : ((2 ^ 52 : Nat) : ℚ) * 2 ^ (-52 : Int) = 1 := by
      rw [Nat.cast_pow, Nat.cast_ofNat, ← zpow_natCast, ← zpow_add₀ two_ne_zero]
      rfl
    have hlargest : (m : ℚ) * 2 ^ e ≤ (2 ^ 53 - 1) * 2 ^ (971 : Int) := by
      have hm : (m : ℚ) ≤ 2 ^ 53 - 1 := by
        have : (m + 1 : ℚ) ≤ 2 ^ 53 := by exact_mod_cast hlt
        linarith
      exact mul_le_mul hm (zpow_le_zpow_right₀ one_le_two hge) (zpow_pos two_pos _).le (by norm_num)
    calc _ ≤ (first + second : ℚ) * 2 ^ min e (-52) := mul_le_mul_of_nonneg_right habs hunit.le
      _ = m * 2 ^ e + 1 := by rw [add_mul, hfirst, hsecond, hone]
      _ < 2 ^ (1024 : Int) - 2 ^ (970 : Int) :=
        lt_of_le_of_lt (add_le_add_left hlargest 1) greatest_add_one_lt

end Stencil.Number
