import Mathlib.Data.List.Forall2
import Stencil.Proofs.Encodings

/-!
# What hexadecimal digits write

The bytes of a text are taken in pairs, and each pair of digits writes a byte; the first pair that
is none ends the reading (`encode_hex`). A plus sign in front of a digit makes a pair as well, so a
text writes the bytes of its digits alone if it has no plus sign.
-/

namespace Stencil.Sandbox

open Text

namespace Hex

/-! ### Pairs -/

/-- Bytes in pairs, without an odd one at the end. -/
def pairs : List UInt8 → List (UInt8 × UInt8)
  | high :: low :: rest => (high, low) :: pairs rest
  | _                   => []

/-- Whether a byte is a digit of a value, in lower or upper case. -/
def HasValue (b : UInt8) (value : Nat) : Prop :=
  (utf8Bytes "0123456789abcdef".toList)[value]? = some b ∨
    (utf8Bytes "0123456789ABCDEF".toList)[value]? = some b

instance (b : UInt8) (value : Nat) : Decidable (HasValue b value) :=
  inferInstanceAs (Decidable (_ ∨ _))

/-- Whether a byte is written by a pair of digits. -/
def IsOfDigits (pair : UInt8 × UInt8) (b : UInt8) : Prop :=
  ∃ high low, HasValue pair.1 high ∧ HasValue pair.2 low ∧ b.toNat = 16 * high + low

/-- Whether a byte is written by a pair, of digits or of a plus sign and a digit. -/
def IsOf (pair : UInt8 × UInt8) (b : UInt8) : Prop :=
  IsOfDigits pair b ∨ pair.1 = 0x2B ∧ HasValue pair.2 b.toNat

variable {high low b d : UInt8} {value : Nat}

lemma HasValue.lt (h : HasValue b value) : value < 16 := by
  rcases h with h | h <;> exact (List.getElem?_eq_some_iff.mp h).1

lemma digit?_eq_some_iff : digit? b = some d ↔ HasValue b d.toNat := by
  constructor
  · intro h
    have hall := forall_byte (p := fun b => (digit? b).all fun d => HasValue b d.toNat)
      (by decide +kernel)
    exact of_decide_eq_true (Option.all_eq_true _ _ |>.mp (hall b) d h)
  · intro h
    have hall : ∀ n < 16,
        ((utf8Bytes "0123456789abcdef".toList)[n]?.all (digit? · = some (UInt8.ofNat n))) ∧
        ((utf8Bytes "0123456789ABCDEF".toList)[n]?.all (digit? · = some (UInt8.ofNat n))) := by
      decide +kernel
    have hd := hall d.toNat h.lt
    rw [UInt8.ofNat_toNat, Option.all_eq_true, Option.all_eq_true] at hd
    exact of_decide_eq_true (h.elim (hd.1 b) (hd.2 b))

/-- The value of a digit as a byte. -/
lemma HasValue.digit? (h : HasValue b value) : digit? b = some (UInt8.ofNat value) := by
  rw [digit?_eq_some_iff, UInt8.toNat_ofNat_of_lt' (h.lt.trans (by decide))]
  exact h

/-- A pair is read as the byte that it writes. -/
lemma pair?_eq_some_iff : pair? high low = some b ↔ IsOf (high, low) b := by
  constructor
  · intro h
    unfold pair? at h
    split at h
    next a d hhigh hlow =>
      obtain rfl := Option.some.inj h
      have hhigh := digit?_eq_some_iff.mp hhigh
      have hlow := digit?_eq_some_iff.mp hlow
      have := hhigh.lt
      have := hlow.lt
      refine .inl ⟨a.toNat, d.toNat, hhigh, hlow, ?_⟩
      rw [UInt8.toNat_add, UInt8.toNat_mul, show UInt8.toNat 16 = 16 from rfl]
      omega
    next d _ hlow =>
      split at h
      next hplus =>
        obtain rfl := Option.some.inj h
        exact .inr ⟨hplus, digit?_eq_some_iff.mp hlow⟩
      next => cases h
    next => cases h
  · rintro (⟨a, d, hhigh, hlow, hb⟩ | ⟨hplus, hlow⟩)
    · have hbyte : b = 16 * UInt8.ofNat a + UInt8.ofNat d := by
        rw [← UInt8.ofNat_toNat (x := b), hb, UInt8.ofNat_add, UInt8.ofNat_mul]
        rfl
      rw [pair?, HasValue.digit? hhigh, HasValue.digit? hlow, hbyte]
    · obtain rfl : high = 0x2B := hplus
      rw [pair?, digit?_eq_some_iff.mpr hlow]
      rfl

/-- Reading goes on to the first pair that writes no byte. -/
lemma exists_read (bytes : List UInt8) :
    ∃ written rest, pairs bytes = written ++ rest ∧ List.Forall₂ IsOf written (read bytes) ∧
      ∀ pair ∈ rest.head?, ∀ b, ¬IsOf pair b := by
  fun_induction read bytes with
  | case1 high low bytes b hpair ih =>
    obtain ⟨written, rest, hpairs, hwrites, hrest⟩ := ih
    exact ⟨(high, low) :: written, rest, by rw [pairs, hpairs, List.cons_append],
      .cons (pair?_eq_some_iff.mp hpair) hwrites, hrest⟩
  | case2 high low bytes hpair =>
    refine ⟨[], (high, low) :: pairs bytes, rfl, .nil, ?_⟩
    rintro pair hmem b hwrites
    cases hmem
    rw [pair?_eq_some_iff.mpr hwrites] at hpair
    cases hpair
  | case3 bytes hshort =>
    have hpairs : pairs bytes = [] := by
      unfold pairs
      split
      next => exact absurd rfl (hshort _ _ _)
      next => rfl
    exact ⟨[], [], hpairs, .nil, by simp⟩

/-! ### Plus signs -/

lemma mem_of_mem_pairs {pair : UInt8 × UInt8} {bytes : List UInt8} (h : pair ∈ pairs bytes) :
    pair.1 ∈ bytes := by
  fun_induction pairs bytes with
  | case1 high low rest ih =>
    rcases List.mem_cons.mp h with rfl | h
    · exact List.mem_cons_self ..
    · exact List.mem_cons_of_mem _ (List.mem_cons_of_mem _ (ih h))
  | case2 => cases h

/-- A plus sign is the only character with its byte. -/
lemma plus_mem_of_mem_utf8Bytes {text : List Char} (h : 0x2B ∈ utf8Bytes text) : '+' ∈ text := by
  obtain ⟨c, hc, hbyte⟩ := List.mem_flatMap.mp h
  have hlt : c.toNat < 128 := by
    by_contra hge
    have := le_of_mem_utf8EncodeChar (Nat.not_lt.mp hge) hbyte
    contradiction
  have hplus := forall_ascii (p := fun c => 0x2B ∈ String.utf8EncodeChar c → c = '+')
    (by decide +kernel) c hlt
  rwa [← hplus hbyte]

end Hex

namespace Encoding

open Hex

/-- The bytes of a text in hexadecimal digits are those that its pairs write, up to the first pair
that writes none. In a text without plus signs all these pairs are of digits. -/
theorem encode_hex (text : List Char) :
    ∃ written rest, pairs (utf8Bytes text) = written ++ rest ∧
      List.Forall₂ IsOf written (hex.encode text) ∧
      (∀ pair ∈ rest.head?, ∀ b, ¬IsOf pair b) ∧
      ('+' ∉ text → List.Forall₂ IsOfDigits written (hex.encode text)) := by
  obtain ⟨written, rest, hpairs, hwritten, hrest⟩ := exists_read (utf8Bytes text)
  refine ⟨written, rest, hpairs, hwritten, hrest, fun hplus => ?_⟩
  have hfirst (pair : UInt8 × UInt8) (h : pair ∈ written) : pair.1 ≠ 0x2B := by
    intro heq
    have hmem : pair ∈ pairs (utf8Bytes text) := hpairs ▸ List.mem_append_left _ h
    exact hplus (plus_mem_of_mem_utf8Bytes (heq ▸ mem_of_mem_pairs hmem))
  refine ((List.forall₂_and_left _ _).mpr ⟨hfirst, hwritten⟩).imp fun pair b hpair => ?_
  exact hpair.2.resolve_right fun h => hpair.1 h.1

/-- Two pairs in a text that ends in a character of two bytes behind a digit. -/
theorem encode_hex_pairs : '+' ∉ "6a6B7é".toList ∧ ∃ written rest,
    pairs (utf8Bytes "6a6B7é".toList) = written ++ rest ∧
      List.Forall₂ IsOfDigits written (hex.encode "6a6B7é".toList) := by
  obtain ⟨written, rest, hpairs, -, -, hdigits⟩ := encode_hex "6a6B7é".toList
  have hplus : '+' ∉ "6a6B7é".toList := by decide
  exact ⟨hplus, written, rest, hpairs, hdigits hplus⟩

/-- A plus sign counts as a zero in front of a digit, and only there. -/
example : hex.encode "+5".toList = [5] ∧ hex.encode "5+".toList = [] := by decide

end Encoding

end Stencil.Sandbox
