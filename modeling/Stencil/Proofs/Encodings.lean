import Mathlib.Tactic.IntervalCases
import Mathlib.Tactic.Lemma
import Stencil.Proofs.Base64

/-!
# Bytes as texts and back

Each encoding but UTF-8 writes all bytes, and what it writes is read back as the same bytes (ASCII
keeps seven bits of each). UTF-8 writes all texts, and what it writes is read back as the same text
(`encode_decode`).
-/

namespace Stencil

/-! ### UTF-8 -/

namespace Text

variable {first b : UInt8} {bytes rest : List UInt8} {range : ByteRange} {ranges : List ByteRange}

lemma ByteRange.contains_iff :
    range.contains b ↔ range.least.toNat ≤ b.toNat ∧ b.toNat ≤ range.greatest.toNat := by
  rw [contains, Bool.and_eq_true, decide_eq_true_iff, decide_eq_true_iff, UInt8.le_iff_toNat_le,
    UInt8.le_iff_toNat_le]

/-- A first byte with all that has to follow it is read as a character. -/
lemma decodeLossy_cons (hfirst : followers? first = some ranges)
    (h : takeRanges ranges (bytes ++ rest) = (bytes, true)) :
    decodeLossy (first :: bytes ++ rest) =
      Char.ofNat (codePointOf first bytes) :: decodeLossy rest := by
  rw [List.cons_append, decodeLossy, hfirst]
  dsimp only
  rw [h, List.drop_left, if_pos rfl]

lemma followers?_one {n : Nat} (h : n < 128) : followers? (UInt8.ofNat n) = some [] := by
  interval_cases n <;> rfl

lemma followers?_two {n : Nat} (hle : 2 ≤ n) (hlt : n < 32) :
    followers? (UInt8.ofNat (n + 192)) = some [follower] := by
  interval_cases n <;> rfl

lemma followers?_three {n : Nat} (h : n < 16) :
    followers? (UInt8.ofNat (n + 224)) = some
      [⟨if n = 0 then 0xA0 else 0x80, if n = 13 then 0x9F else 0xBF⟩, follower] := by
  interval_cases n <;> rfl

lemma followers?_four {n : Nat} (h : n < 5) :
    followers? (UInt8.ofNat (n + 240)) = some
      [⟨if n = 0 then 0x90 else 0x80, if n = 4 then 0x8F else 0xBF⟩, follower, follower] := by
  interval_cases n <;> rfl

/-- The bytes of a character are read as that character. -/
lemma decodeLossy_utf8EncodeChar (c : Char) (rest : List UInt8) :
    decodeLossy (String.utf8EncodeChar c ++ rest) = c :: decodeLossy rest := by
  have hvalid : c.toNat < 0xD800 ∨ 0xDFFF < c.toNat ∧ c.toNat < 0x110000 := c.valid
  suffices h : decodeLossy (String.utf8EncodeChar c ++ rest) =
      Char.ofNat c.toNat :: decodeLossy rest by rwa [Char.ofNat_toNat] at h
  rw [String.utf8EncodeChar, ← Char.toNat]
  generalize c.toNat = v at hvalid
  have htoNat {n : Nat} (h : n < 256) : (UInt8.ofNat n).toNat = n := UInt8.toNat_ofNat_of_lt' h
  have hfollower (n : Nat) : follower.contains (UInt8.ofNat (n % 64 + 128)) := by
    rw [ByteRange.contains_iff, htoNat (by omega)]
    exact ⟨Nat.le_add_left _ _, by change _ ≤ 0xBF; omega⟩
  split_ifs with hone htwo hthree
  · rw [decodeLossy_cons (followers?_one (by omega)) rfl]
    change Char.ofNat (UInt8.ofNat v).toNat :: _ = _
    rw [htoNat (by omega)]
  · rw [decodeLossy_cons (followers?_two (by omega) (by omega)) (by
      simp only [List.cons_append, List.nil_append, takeRanges, hfollower, if_true])]
    change Char.ofNat (64 * ((UInt8.ofNat (v / 64 % 32 + 192)).toNat % 32) +
      (UInt8.ofNat (v % 64 + 128)).toNat % 64) :: _ = _
    rw [htoNat (by omega), htoNat (by omega)]
    congr 2
    omega
  · have hsecond : ByteRange.contains ⟨if v / 4096 % 16 = 0 then 0xA0 else 0x80,
        if v / 4096 % 16 = 13 then 0x9F else 0xBF⟩ (UInt8.ofNat (v / 64 % 64 + 128)) := by
      rw [ByteRange.contains_iff, htoNat (by omega)]
      constructor <;> dsimp only <;> split <;> dsimp <;> omega
    rw [decodeLossy_cons (followers?_three (by omega)) (by
      simp only [List.cons_append, List.nil_append, takeRanges, hsecond, hfollower, if_true])]
    change Char.ofNat (64 * (64 * ((UInt8.ofNat (v / 4096 % 16 + 224)).toNat % 16) +
      (UInt8.ofNat (v / 64 % 64 + 128)).toNat % 64) + (UInt8.ofNat (v % 64 + 128)).toNat % 64) ::
        _ = _
    rw [htoNat (by omega), htoNat (by omega), htoNat (by omega)]
    congr 2
    omega
  · have hsecond : ByteRange.contains ⟨if v / 262144 % 8 = 0 then 0x90 else 0x80,
        if v / 262144 % 8 = 4 then 0x8F else 0xBF⟩ (UInt8.ofNat (v / 4096 % 64 + 128)) := by
      rw [ByteRange.contains_iff, htoNat (by omega)]
      constructor <;> dsimp only <;> split <;> dsimp <;> omega
    rw [decodeLossy_cons (followers?_four (by omega)) (by
      simp only [List.cons_append, List.nil_append, takeRanges, hsecond, hfollower, if_true])]
    change Char.ofNat (64 * (64 * (64 * ((UInt8.ofNat (v / 262144 % 8 + 240)).toNat % 8) +
      (UInt8.ofNat (v / 4096 % 64 + 128)).toNat % 64) +
      (UInt8.ofNat (v / 64 % 64 + 128)).toNat % 64) + (UInt8.ofNat (v % 64 + 128)).toNat % 64) ::
        _ = _
    rw [htoNat (by omega), htoNat (by omega), htoNat (by omega), htoNat (by omega)]
    congr 2
    omega

/-- A text is read back from its bytes. -/
theorem decodeLossy_utf8Bytes (text : List Char) : decodeLossy (utf8Bytes text) = text := by
  induction text with
  | nil => rw [utf8Bytes, List.flatMap_nil, decodeLossy]
  | cons c text ih =>
    rw [utf8Bytes, List.flatMap_cons, decodeLossy_utf8EncodeChar, ← utf8Bytes, ih]

end Text

/-! ### Hexadecimal digits -/

namespace Sandbox

open Text

namespace Hex

/-- The byte of a letter in lower case, if it is one of the first 2^7 characters. -/
def lowerByte (b : UInt8) : UInt8 := if 0x41 ≤ b ∧ b ≤ 0x5A then b + 0x20 else b

/-- What holds of all numbers below 2^8 holds of all bytes. -/
lemma forall_byte {p : UInt8 → Prop} (h : ∀ n < 256, p (UInt8.ofNat n)) (b : UInt8) : p b := by
  have hb := h b.toNat b.toNat_lt_size
  rwa [UInt8.ofNat_toNat] at hb

lemma digit?_lowerByte (b : UInt8) : digit? (lowerByte b) = digit? b :=
  forall_byte (p := fun b => digit? (lowerByte b) = digit? b) (by decide +kernel) b

lemma lowerByte_eq_plus_iff (b : UInt8) : lowerByte b = 0x2B ↔ b = 0x2B :=
  forall_byte (p := fun b => lowerByte b = 0x2B ↔ b = 0x2B) (by decide +kernel) b

lemma pair?_lowerByte (high low : UInt8) :
    pair? (lowerByte high) (lowerByte low) = pair? high low := by
  simp only [pair?, digit?_lowerByte, lowerByte_eq_plus_iff]

/-- Digits of either case write the same bytes. -/
lemma read_map_lowerByte (bytes : List UInt8) : read (bytes.map lowerByte) = read bytes := by
  fun_induction read bytes with
  | case1 high low rest b hpair ih =>
    rw [List.map_cons, List.map_cons, read, pair?_lowerByte, hpair]
    dsimp only
    rw [ih]
  | case2 high low rest hpair =>
    rw [List.map_cons, List.map_cons, read, pair?_lowerByte, hpair]
  | case3 bytes hshort =>
    rcases bytes with _ | ⟨_, _ | ⟨high, rest⟩⟩
    · rfl
    · rfl
    · exact absurd rfl (hshort _ _ _)

/-- The bytes of a character beyond the first 2^7 are beyond them too. -/
lemma le_of_mem_utf8EncodeChar {c : Char} {b : UInt8} (hc : 128 ≤ c.toNat)
    (hb : b ∈ String.utf8EncodeChar c) : 128 ≤ b.toNat := by
  have htoNat {n : Nat} (h : n < 256) : (UInt8.ofNat n).toNat = n := UInt8.toNat_ofNat_of_lt' h
  rw [String.utf8EncodeChar, ← Char.toNat, if_neg (by omega)] at hb
  split_ifs at hb
  all_goals
    simp only [List.mem_cons, List.not_mem_nil, or_false] at hb
    rcases hb with rfl | rfl | rfl | rfl
    all_goals
      rw [htoNat (by omega)]
      omega

/-- The bytes of a character in lower case. -/
lemma utf8EncodeChar_toLower (c : Char) :
    String.utf8EncodeChar c.toLower = (String.utf8EncodeChar c).map lowerByte := by
  rcases Nat.lt_or_ge c.toNat 128 with hlt | hle
  · exact forall_ascii (p := fun c => String.utf8EncodeChar c.toLower =
      (String.utf8EncodeChar c).map lowerByte) (by decide +kernel) c hlt
  · have hlower : c.toLower = c := by
      refine dif_neg ?_
      rintro ⟨-, hle'⟩
      exact absurd (UInt32.le_iff_toNat_le.mp hle') (by change ¬ c.toNat ≤ 90; omega)
    have hbytes : ∀ b ∈ String.utf8EncodeChar c, lowerByte b = id b := by
      intro b hb
      have hb := le_of_mem_utf8EncodeChar hle hb
      rw [lowerByte, if_neg, id]
      rintro ⟨-, hle'⟩
      exact absurd (UInt8.le_iff_toNat_le.mp hle') (by change ¬ b.toNat ≤ 90; omega)
    rw [hlower, List.map_congr_left hbytes, List.map_id]

/-- A text and the same text in lower case write the same bytes. -/
lemma read_toLower (text : List Char) :
    read (utf8Bytes (text.map Char.toLower)) = read (utf8Bytes text) := by
  rw [← read_map_lowerByte (utf8Bytes text), utf8Bytes, utf8Bytes, List.flatMap_map,
    List.map_flatMap]
  simp only [utf8EncodeChar_toLower]

/-- Bytes are read back from their digits. -/
lemma read_write (bytes : List UInt8) : read (utf8Bytes (write bytes)) = bytes := by
  have hdigit (n : Nat) (h : n < 16) :
      ∃ d, String.utf8EncodeChar (digitChar (UInt8.ofNat n)) = [d] ∧
        digit? d = some (UInt8.ofNat n) := by
    interval_cases n <;> exact ⟨_, rfl, rfl⟩
  induction bytes with
  | nil => rfl
  | cons b bytes ih =>
    have hb : b.toNat < 256 := b.toNat_lt_size
    have hquotient : (b / 16).toNat = b.toNat / 16 := UInt8.toNat_div b 16
    have hremainder : (b % 16).toNat = b.toNat % 16 := UInt8.toNat_mod b 16
    obtain ⟨high, hhigh, hhigh'⟩ := hdigit (b / 16).toNat (by omega)
    obtain ⟨low, hlow, hlow'⟩ := hdigit (b % 16).toNat (by omega)
    rw [UInt8.ofNat_toNat] at hhigh hhigh' hlow hlow'
    rw [write, List.flatMap_cons, ← write, List.cons_append, List.cons_append, List.nil_append,
      utf8Bytes, List.flatMap_cons, List.flatMap_cons, hhigh, hlow, ← utf8Bytes]
    have hpair : pair? high low = some b := by
      simp only [pair?, hhigh', hlow', Option.some.injEq]
      rw [← UInt8.toNat_inj, UInt8.toNat_add, UInt8.toNat_mul, hquotient, hremainder]
      change (16 * (b.toNat / 16) % 256 + b.toNat % 16) % 256 = b.toNat
      omega
    rw [List.cons_append, List.cons_append, List.nil_append, List.nil_append, read, hpair]
    dsimp only
    rw [ih]

end Hex

/-! ### Base 64 -/

namespace Base64

/-- The numbers of six bits that bytes consist of, four for three bytes. -/
def sextets : List UInt8 → List Nat
  | a :: b :: c :: rest =>
    a.toNat / 4 :: (a.toNat % 4 * 16 + b.toNat / 16) :: (b.toNat % 16 * 4 + c.toNat / 64) ::
      c.toNat % 64 :: sextets rest
  | [a, b] => [a.toNat / 4, a.toNat % 4 * 16 + b.toNat / 16, b.toNat % 16 * 4]
  | [a]    => [a.toNat / 4, a.toNat % 4 * 16]
  | []     => []

lemma sextets_lt (bytes : List UInt8) : ∀ n ∈ sextets bytes, n < 64 := by
  have hlt (b : UInt8) : b.toNat < 256 := b.toNat_lt_size
  fun_induction sextets bytes with
  | case1 a b c rest ih =>
    have := hlt a
    have := hlt b
    have := hlt c
    simp only [List.forall_mem_cons]
    exact ⟨by omega, by omega, by omega, by omega, ih⟩
  | case2 a b =>
    have := hlt a
    have := hlt b
    simp only [List.forall_mem_cons]
    exact ⟨by omega, by omega, by omega, List.forall_mem_nil _⟩
  | case3 a =>
    have := hlt a
    simp only [List.forall_mem_cons]
    exact ⟨by omega, by omega, List.forall_mem_nil _⟩
  | case4 => exact List.forall_mem_nil _

/-- Bytes are put together again from their numbers of six bits. -/
lemma group_sextets (bytes : List UInt8) : group (sextets bytes) = bytes := by
  have hbyte {n : Nat} (b : UInt8) (h : n % 256 = b.toNat) : UInt8.ofNat n = b := by
    rw [← UInt8.toNat_inj]
    exact h
  have hlt (b : UInt8) : b.toNat < 256 := b.toNat_lt_size
  fun_induction sextets bytes with
  | case1 a b c rest ih =>
    have := hlt a
    have := hlt b
    have := hlt c
    rw [group, hbyte a (by omega), hbyte b (by omega), hbyte c (by omega), ih]
  | case2 a b =>
    have := hlt a
    have := hlt b
    rw [group, hbyte a (by omega), hbyte b (by omega)]
  | case3 a =>
    have := hlt a
    rw [group, hbyte a (by omega)]
  | case4 => rfl

/-- Bytes are written with a digit for each of their numbers of six bits, and padding. -/
lemma exists_write_eq (last : Char × Char) (pads : Bool) (bytes : List UInt8) :
    ∃ padding, write last pads bytes =
      (sextets bytes).map (digitChar last) ++ List.replicate padding '=' := by
  fun_induction write last pads bytes with
  | case1 a b c rest ih =>
    obtain ⟨padding, ih⟩ := ih
    exact ⟨padding, by rw [ih]; rfl⟩
  | case2 a b => exact ⟨if pads then 1 else 0, by cases pads <;> rfl⟩
  | case3 a => exact ⟨if pads then 2 else 0, by cases pads <;> rfl⟩
  | case4 => exact ⟨0, rfl⟩

/-- Whether the last two digits of an alphabet can be told from the others. -/
def IsAlphabet (last : Char × Char) : Prop :=
  ∀ n < 64, digitChar last n ≠ '=' ∧ (toCommon? (digitChar last n)).map valueOf = some n

/-- Bytes are read back from their digits in any alphabet, with padding or without. -/
lemma read_write {last : Char × Char} (hlast : IsAlphabet last) (pads : Bool)
    (bytes : List UInt8) : read (write last pads bytes) = bytes := by
  obtain ⟨padding, hwrite⟩ := exists_write_eq last pads bytes
  have hvalues : values (write last pads bytes) = sextets bytes := by
    have hlt := sextets_lt bytes
    rw [hwrite, values, digits]
    generalize sextets bytes = sextets at hlt
    induction sextets with
    | nil => cases padding <;> simp [List.replicate_succ]
    | cons n sextets ih =>
      obtain ⟨hn, hlt⟩ := List.forall_mem_cons.mp hlt
      obtain ⟨hne, hdigit⟩ := hlast n hn
      obtain ⟨d, hd, hvalue⟩ := Option.map_eq_some_iff.mp hdigit
      rw [List.map_cons, List.cons_append,
        List.takeWhile_cons_of_pos (p := (decide <| · ≠ '=')) (decide_eq_true hne),
        List.filterMap_cons_some hd, List.map_cons, hvalue, ih hlt]
  rw [read_eq, hvalues, group_sextets]

end Base64

/-! ### Encodings -/

namespace Encoding

/-- A character of at most eight bits is one unit. -/
lemma units_ofChars (bytes : List UInt8) {f : UInt8 → Nat} (hf : ∀ b, f b < 256) :
    (Script.Utf16.ofChars (bytes.map fun b => Char.ofNat (f b))).units.toList.map
      (fun u => UInt8.ofNat u.toNat) = bytes.map fun b => UInt8.ofNat (f b) := by
  rw [Script.Utf16.ofChars, Script.Utf16.ofCodePoints, List.map_map]
  dsimp only
  induction bytes with
  | nil => rfl
  | cons b bytes ih =>
    have hb := hf b
    have hchar : (Char.ofNat (f b)).toNat = f b := by
      rw [Char.ofNat, dif_pos (.inl (by omega))]
      rfl
    have hunit : (UInt16.ofNat (f b)).toNat = f b := UInt16.toNat_ofNat_of_lt' (by
      change f b < 65536
      omega)
    rw [List.map_cons, List.flatMap_cons, List.map_append, ih, List.map_cons, Function.comp_apply,
      hchar, Script.Utf16.unitsOf, if_pos (by omega), List.map_singleton, hunit]
    rfl

/-- What an encoding writes is read back: all bytes, of which ASCII keeps seven bits, and in UTF-8
all texts. Base 64 is read alike in both alphabets, and hexadecimal digits in both cases. -/
theorem encode_decode (bytes : List UInt8) (text : List Char) :
    (∀ encoding ∈ [hex, base64, base64url, latin1],
      encoding.encode (encoding.decode bytes) = bytes) ∧
    base64url.encode (base64.decode bytes) = bytes ∧
    base64.encode (base64url.decode bytes) = bytes ∧
    ascii.encode (ascii.decode bytes) = bytes.map (· &&& 0x7F) ∧
    (∀ other : List Char, other.map Char.toLower = text.map Char.toLower →
      hex.encode other = hex.encode text) ∧
    utf8.decode (utf8.encode text) = text ∧
    utf8.decode (utf8.encode (utf8.decode bytes)) = utf8.decode bytes := by
  have hcommon : Base64.IsAlphabet Base64.common := by unfold Base64.IsAlphabet; decide +kernel
  have hnames : Base64.IsAlphabet Base64.forNames := by unfold Base64.IsAlphabet; decide +kernel
  have hlatin : latin1.encode (latin1.decode bytes) = bytes := by
    rw [encode, decode, units_ofChars bytes fun b => b.toNat_lt_size]
    simp
  have hascii : ascii.encode (ascii.decode bytes) = bytes.map (· &&& 0x7F) := by
    rw [encode, decode, units_ofChars bytes fun b => by omega]
    refine List.map_congr_left fun b _ =>
      Hex.forall_byte (p := fun b => UInt8.ofNat (b.toNat % 128) = b &&& 0x7F) ?_ b
    decide +kernel
  refine ⟨?_, Base64.read_write hcommon true bytes, Base64.read_write hnames false bytes, hascii,
    fun other hother => ?_, Text.decodeLossy_utf8Bytes text, Text.decodeLossy_utf8Bytes _⟩
  · simp only [List.forall_mem_cons]
    exact ⟨Hex.read_write bytes, Base64.read_write hcommon true bytes,
      Base64.read_write hnames false bytes, hlatin, List.forall_mem_nil _⟩
  · rw [encode, encode, ← Hex.read_toLower, hother, Hex.read_toLower]

/-- The letter of a digit in the other case, behind a byte of all ones. -/
theorem encode_decode_upper :
    hex ∈ [hex, base64, base64url, latin1] ∧ hex.encode (hex.decode [0xFF, 0x5A]) = [0xFF, 0x5A] ∧
    "Ff5A".toList.map Char.toLower = "fF5a".toList.map Char.toLower ∧
    hex.encode "Ff5A".toList = hex.encode "fF5a".toList := by
  obtain ⟨hall, -, -, -, hcase, -⟩ := encode_decode [0xFF, 0x5A] "fF5a".toList
  have hmem : hex ∈ [hex, base64, base64url, latin1] := by decide
  have hlower : "Ff5A".toList.map Char.toLower = "fF5a".toList.map Char.toLower := by decide
  exact ⟨hmem, hall hex hmem, hlower, hcase _ hlower⟩

end Encoding

end Sandbox

end Stencil
