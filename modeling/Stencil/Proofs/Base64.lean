import Mathlib.Algebra.Group.Nat.Defs
import Mathlib.Data.List.Forall2
import Mathlib.Data.List.TakeWhile
import Mathlib.Tactic.Lemma
import Stencil.Sandbox.Encoding

/-!
# What digits of base 64 write

Each digit writes six bits, and the bytes of a text are the bits of its digits, cut into groups
of eight; what is left of them at the end does not count (`bitsOf_group`). A text is cleared so far
that the decoder takes whatever is left of it (`decode?_withoutLone`), so each text has all the
bytes that its digits write (`encode_base64`).
-/

namespace Stencil

/-- What holds of the first 2^7 code points holds of their characters. -/
lemma Text.forall_ascii {p : Char → Prop} (h : ∀ n < 128, p (Char.ofNat n)) (c : Char)
    (hc : c.toNat < 128) : p c := by
  have hp := h c.toNat hc
  rwa [Char.ofNat_toNat] at hp

namespace Sandbox

namespace Base64

/-! ### Bits -/

/-- The last binary digits of a number, the greatest first. -/
def bits : (width : Nat) → Nat → List Bool
  | 0, _         => []
  | width + 1, n => bits width (n / 2) ++ [n % 2 == 1]

@[simp] lemma length_bits (width n : Nat) : (bits width n).length = width := by
  induction width generalizing n with
  | zero => rfl
  | succ width ih => rw [bits, List.length_append, ih, List.length_singleton]

/-- The bits of a number in two parts. -/
lemma bits_append {width : Nat} (first n : Nat) {m : Nat} (hm : m < 2 ^ width) :
    bits (first + width) (2 ^ width * n + m) = bits first n ++ bits width m := by
  induction width generalizing m with
  | zero =>
    rw [Nat.pow_zero, Nat.lt_one_iff] at hm
    rw [hm, Nat.pow_zero, Nat.one_mul, Nat.add_zero, Nat.add_zero, bits, List.append_nil]
  | succ width ih =>
    rw [Nat.pow_succ] at hm
    have hhalf : (2 ^ (width + 1) * n + m) / 2 = 2 ^ width * n + m / 2 := by
      rw [Nat.pow_succ, Nat.mul_assoc, Nat.mul_left_comm, Nat.mul_add_div Nat.two_pos]
    have hodd : (2 ^ (width + 1) * n + m) % 2 = m % 2 := by
      rw [Nat.pow_succ, Nat.mul_assoc, Nat.mul_left_comm, Nat.mul_add_mod]
    rw [← Nat.add_assoc, bits, hhalf, hodd, ih (by omega), bits, List.append_assoc]

/-- The bits that bytes consist of. -/
def bitsOf (bytes : List UInt8) : List Bool := bytes.flatMap fun b => bits 8 b.toNat

lemma bitsOf_cons_ofNat {n : Nat} (h : n < 256) (bytes : List UInt8) :
    bitsOf (UInt8.ofNat n :: bytes) = bits 8 n ++ bitsOf bytes := by
  rw [bitsOf, List.flatMap_cons, UInt8.toNat_ofNat_of_lt' h, ← bitsOf]

/-! ### Groups of digits -/

section

variable {a b c d : Nat}

/-- Two digits write a byte and four bits more. -/
lemma bits_two (hb : b < 64) :
    bits 6 a ++ bits 6 b = bits 8 (4 * a + b / 16) ++ bits 4 (b % 16) := by
  rw [← bits_append 6 a (by exact hb), ← bits_append 8 _ (by exact Nat.mod_lt b (by decide))]
  congr 1
  omega

/-- Four bits and a digit write a byte and two bits more. -/
lemma bits_three (hc : c < 64) :
    bits 4 (b % 16) ++ bits 6 c = bits 8 (16 * (b % 16) + c / 4) ++ bits 2 (c % 4) := by
  rw [← bits_append 4 _ (by exact hc), ← bits_append 8 _ (by exact Nat.mod_lt c (by decide))]
  congr 1
  omega

/-- Two bits and a digit write a byte. -/
lemma bits_four (hd : d < 64) :
    bits 2 (c % 4) ++ bits 6 d = bits 8 (64 * (c % 4) + d) :=
  (bits_append 2 _ (by exact hd)).symm

end

/-- Digits write as many bytes as there are in their bits. -/
lemma length_group : (values : List Nat) → (group values).length = 6 * values.length / 8
  | a :: b :: c :: d :: rest => by
    simp only [group, List.length_cons, length_group rest]
    omega
  | [_, _, _] => by simp [group]
  | [_, _]    => by simp [group]
  | [_]       => by simp [group]
  | []        => rfl

/-- The bytes of digits are the whole ones in their bits. -/
lemma bitsOf_group : {values : List Nat} → (∀ n ∈ values, n < 64) →
    bitsOf (group values) = (values.flatMap (bits 6)).take (8 * (6 * values.length / 8))
  | a :: b :: c :: d :: rest, h => by
    simp only [List.forall_mem_cons] at h
    obtain ⟨ha, hb, hc, hd, hrest⟩ := h
    let front := bits 8 (4 * a + b / 16) ++ (bits 8 (16 * (b % 16) + c / 4) ++
      bits 8 (64 * (c % 4) + d))
    have hfront : front.length = 24 := by simp [front]
    have hbits : (a :: b :: c :: d :: rest).flatMap (bits 6) = front ++ rest.flatMap (bits 6) := by
      simp only [List.flatMap_cons, front, ← bits_four hd, List.append_assoc]
      rw [← List.append_assoc, bits_two hb, List.append_assoc, ← List.append_assoc (bits 4 _),
        bits_three hc, List.append_assoc]
    have hlength : 8 * (6 * (a :: b :: c :: d :: rest).length / 8) =
        front.length + 8 * (6 * rest.length / 8) := by
      rw [hfront]
      simp only [List.length_cons]
      omega
    rw [hbits, hlength, List.take_length_add_append, ← bitsOf_group hrest, group,
      bitsOf_cons_ofNat (by omega), bitsOf_cons_ofNat (by omega), bitsOf_cons_ofNat (by omega),
      List.append_assoc, List.append_assoc]
  | [a, b, c], h => by
    simp only [List.forall_mem_cons] at h
    obtain ⟨ha, hb, hc, -⟩ := h
    have hbits : [a, b, c].flatMap (bits 6) =
        (bits 8 (4 * a + b / 16) ++ bits 8 (16 * (b % 16) + c / 4)) ++ bits 2 (c % 4) := by
      rw [List.flatMap_cons, List.flatMap_cons, List.flatMap_singleton, ← List.append_assoc,
        bits_two hb, List.append_assoc, bits_three hc, List.append_assoc]
    rw [hbits, List.take_left' (by simp), group, bitsOf_cons_ofNat (by omega),
      bitsOf_cons_ofNat (by omega), bitsOf, List.flatMap_nil, List.append_nil]
  | [a, b], h => by
    simp only [List.forall_mem_cons] at h
    obtain ⟨ha, hb, -⟩ := h
    have hbits : [a, b].flatMap (bits 6) = bits 8 (4 * a + b / 16) ++ bits 4 (b % 16) := by
      rw [List.flatMap_cons, List.flatMap_singleton, bits_two hb]
    rw [hbits, List.take_left' (by simp), group, bitsOf_cons_ofNat (by omega), bitsOf,
      List.flatMap_nil, List.append_nil]
  | [_], _ => by simp [group, bitsOf]
  | [], _ => rfl

/-- A digit that is alone in its group writes no byte. -/
lemma group_dropLast : {values : List Nat} → values.length % 4 = 1 →
    group values.dropLast = group values
  | a :: b :: c :: d :: rest, h => by
    have hrest : rest.length % 4 = 1 := by
      simp only [List.length_cons] at h
      omega
    have hne : rest ≠ [] := by
      rintro rfl
      cases hrest
    have hdrop : (a :: b :: c :: d :: rest).dropLast = a :: b :: c :: d :: rest.dropLast := by
      rw [List.dropLast_cons_of_ne_nil, List.dropLast_cons_of_ne_nil,
        List.dropLast_cons_of_ne_nil, List.dropLast_cons_of_ne_nil hne] <;>
        exact List.cons_ne_nil _ _
    rw [hdrop, group, group, group_dropLast hrest]
  | [_], _ => rfl

/-! ### Digits -/

/-- The digits of an alphabet in the order of their values. -/
def alphabet (last : Char × Char) : List Char :=
  "ABCDEFGHIJKLMNOPQRSTUVWXYZabcdefghijklmnopqrstuvwxyz0123456789".toList ++ [last.1, last.2]

/-- Whether a character is a digit of one of the alphabets. -/
def isDigit (c : Char) : Bool := c ∈ alphabet common || c ∈ alphabet forNames

/-- Whether a digit has a value in one of the alphabets. -/
def HasValue (c : Char) (value : Nat) : Prop :=
  (alphabet common)[value]? = some c ∨ (alphabet forNames)[value]? = some c

instance (c : Char) (value : Nat) : Decidable (HasValue c value) :=
  inferInstanceAs (Decidable (_ ∨ _))

/-- The value of a digit as the decoder takes it. -/
def valueOf (d : Char) : Nat := (digit? d).getD 0

/-- The values of the digits of a text. -/
def values (text : List Char) : List Nat := (digits text).map valueOf

lemma toCommon?_of_le {c : Char} (h : 128 ≤ c.toNat) : toCommon? c = none := by
  have hne {d : Char} (hd : d.toNat < 128) : c ≠ d := by
    rintro rfl
    omega
  have halphanum : c.isAlphanum = false := by
    unfold Char.isAlphanum Char.isAlpha Char.isUpper Char.isLower Char.isDigit
    simp only [Char.reduceVal, ge_iff_le, UInt32.le_iff_toNat_le, UInt32.reduceToNat,
      Char.toNat_val, Bool.decide_and, Bool.or_eq_false_iff, Bool.and_eq_false_imp,
      decide_eq_true_eq, decide_eq_false_iff_not]
    omega
  rw [toCommon?, if_neg (hne (by decide)), if_neg (hne (by decide)), halphanum,
    decide_eq_false (hne (by decide)), decide_eq_false (hne (by decide))]
  rfl

/-- A character is cleared away, or it is a digit and the decoder takes it at its value. -/
lemma toCommon?_cases (c : Char) :
    isDigit c = false ∧ toCommon? c = none ∨
    isDigit c ∧ ∃ d, toCommon? c = some d ∧ d ≠ '=' ∧ digit? d = some (valueOf d) ∧
      valueOf d < 64 ∧ HasValue c (valueOf d) := by
  rcases Nat.lt_or_ge c.toNat 128 with hlt | hle
  · have hc := Text.forall_ascii (p := fun c => isDigit c = false ∧ toCommon? c = none ∨
      isDigit c ∧ (toCommon? c).any fun d => d ≠ '=' ∧ digit? d = some (valueOf d) ∧
        valueOf d < 64 ∧ HasValue c (valueOf d)) (by decide +kernel) c hlt
    simpa only [Option.any_eq_true, decide_eq_true_eq] using hc
  · have hall : (alphabet common ++ alphabet forNames).all (·.toNat < 128) := by decide +kernel
    refine .inl ⟨?_, toCommon?_of_le hle⟩
    rw [isDigit, Bool.or_eq_false_iff, decide_eq_false_iff_not, decide_eq_false_iff_not, ← not_or,
      ← List.mem_append]
    intro hmem
    have := of_decide_eq_true (List.all_eq_true.mp hall c hmem)
    omega

/-- The decoder takes what is left of a text at its values. -/
lemma digit?_of_mem_digits {text : List Char} {d : Char} (h : d ∈ digits text) :
    d ≠ '=' ∧ digit? d = some (valueOf d) ∧ valueOf d < 64 := by
  obtain ⟨c, -, hc⟩ := List.mem_filterMap.mp h
  rcases toCommon?_cases c with ⟨-, hnone⟩ | ⟨-, d', hd', hne, hvalue, hlt, -⟩
  · rw [hnone] at hc
    cases hc
  · rw [hd'] at hc
    cases hc
    exact ⟨hne, hvalue, hlt⟩

/-- The digits of a text are left, in their order. -/
lemma forall₂_values (text : List Char) :
    List.Forall₂ HasValue ((text.takeWhile (· ≠ '=')).filter isDigit) (values text) := by
  rw [values, digits]
  induction text.takeWhile (· ≠ '=') with
  | nil => exact .nil
  | cons c text ih =>
    rcases toCommon?_cases c with ⟨hdigit, hnone⟩ | ⟨hdigit, d, hd, -, -, -, hvalue⟩
    · rwa [List.filter_cons_of_neg (by simp [hdigit]), List.filterMap_cons_none hnone]
    · rw [List.filter_cons_of_pos hdigit, List.filterMap_cons_some hd, List.map_cons]
      exact .cons hvalue ih

/-! ### Decoding -/

/-- Digits are decoded at their values unless one is alone in its group. -/
lemma decode?_eq {text : List Char}
    (h : ∀ d ∈ text, d ≠ '=' ∧ digit? d = some (valueOf d)) (hlone : text.length % 4 ≠ 1) :
    decode? text = some (group (text.map valueOf)) := by
  have htake : text.takeWhile (· ≠ '=') = text :=
    List.takeWhile_eq_self_iff.mpr fun d hd => decide_eq_true (h d hd).1
  have hdrop : text.dropWhile (· ≠ '=') = [] :=
    List.dropWhile_eq_nil_iff.mpr fun d hd => decide_eq_true (h d hd).1
  have hmapM : text.mapM digit? = some (text.map valueOf) := by
    clear htake hdrop hlone
    induction text with
    | nil => rfl
    | cons d text ih =>
      obtain ⟨hd, htext⟩ := List.forall_mem_cons.mp h
      rw [List.mapM_cons, hd.2, ih htext]
      rfl
  rw [decode?, htake, hdrop, hmapM, Option.bind_eq_bind, Option.bind_some, List.length_map,
    decide_eq_false hlone]
  rfl

/-- The decoder takes whatever is left of a text. -/
lemma decode?_withoutLone (text : List Char) :
    decode? (withoutLone (digits text)) = some (group (values text)) := by
  have hdigits (d : Char) (hd : d ∈ digits text) : d ≠ '=' ∧ digit? d = some (valueOf d) :=
    (digit?_of_mem_digits hd).imp_right And.left
  unfold withoutLone
  split
  next hlone =>
    have hlength : (values text).length % 4 = 1 := by rwa [values, List.length_map]
    have hrest : (digits text).dropLast.length % 4 ≠ 1 := by
      rw [List.length_dropLast]
      omega
    rw [decode?_eq (fun d hd => hdigits d (List.dropLast_subset _ hd)) hrest,
      List.map_dropLast, ← values, group_dropLast hlength]
  next hlone => rw [decode?_eq hdigits hlone, values]

lemma read_eq (text : List Char) : read text = group (values text) := by
  rw [read, decode?_withoutLone, Option.getD_some]

end Base64

namespace Encoding

open Base64

/-- The digits of a text before the first `=`, in either alphabet and whatever stands between them,
write the bytes that their bits make up as far as these are whole. What is left of the text can
always be decoded. -/
theorem encode_base64 (text : List Char) :
    ∃ values : List Nat,
      List.Forall₂ HasValue ((text.takeWhile (· ≠ '=')).filter isDigit) values ∧
      (base64.encode text).length = 6 * values.length / 8 ∧
      bitsOf (base64.encode text) =
        (values.flatMap (bits 6)).take (8 * (6 * values.length / 8)) ∧
      decode? (withoutLone (digits text)) = some (base64.encode text) ∧
      base64url.encode text = base64.encode text := by
  have hlt : ∀ n ∈ values text, n < 64 := by
    intro n hn
    obtain ⟨d, hd, rfl⟩ := List.mem_map.mp hn
    exact (digit?_of_mem_digits hd).2.2
  have hencode : base64.encode text = group (values text) := read_eq text
  rw [hencode]
  exact ⟨values text, forall₂_values text, length_group _, bitsOf_group hlt,
    decode?_withoutLone text, read_eq text⟩

/-- Digits of two alphabets, with a space between them and bits left over. -/
example : base64.encode "+_ 9".toList = [0xFB, 0xFF] := by decide +kernel

end Encoding

end Sandbox

end Stencil
