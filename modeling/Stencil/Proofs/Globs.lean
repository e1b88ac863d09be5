import Stencil.Proofs.Finding
import Stencil.Settings

/-!
# What globs ask for

A glob that ends in plain characters matches only paths that end in them (`suffix_of_matchesPath`):
what a piece leaves of a text is an end of it, and a character takes itself off the front. So the
standard patterns ask for templates only (`askForTemplates_standard`).
-/

namespace Stencil

/-! ### Bytes of characters -/

namespace Text

/-- Whether a character is one byte. -/
def IsByte (c : Char) : Prop := c.val.toNat ≤ 127

lemma utf8Bytes_append (first second : List Char) :
    utf8Bytes (first ++ second) = utf8Bytes first ++ utf8Bytes second :=
  List.flatMap_append

lemma utf8EncodeChar_of_isByte {c : Char} (h : IsByte c) :
    String.utf8EncodeChar c = [UInt8.ofNat c.val.toNat] := by
  rw [String.utf8EncodeChar]
  exact if_pos h

/-- The last byte of a character that has several is none that is a character. -/
lemma exists_utf8EncodeChar {c : Char} (h : ¬IsByte c) :
    ∃ front b, String.utf8EncodeChar c = front ++ [b] ∧ 128 ≤ b.toNat := by
  have hlast (v : Nat) : 128 ≤ (UInt8.ofNat (v % 64 + 128)).toNat := by
    rw [UInt8.toNat_ofNat']
    omega
  unfold IsByte at h
  rw [String.utf8EncodeChar, if_neg h]
  split
  · exact ⟨[_], _, rfl, hlast _⟩
  split
  · exact ⟨[_, _], _, rfl, hlast _⟩
  · exact ⟨[_, _, _], _, rfl, hlast _⟩

lemma eq_of_utf8EncodeChar {c d : Char} (hc : IsByte c) {front back : List UInt8}
    (h : front ++ String.utf8EncodeChar d = back ++ [UInt8.ofNat c.val.toNat]) :
    d = c ∧ front = back := by
  by_cases hd : IsByte d
  · rw [utf8EncodeChar_of_isByte hd] at h
    obtain ⟨hfront, hbyte⟩ := List.append_inj' h rfl
    have hvalue := congrArg UInt8.toNat (List.singleton_inj.mp hbyte)
    rw [UInt8.toNat_ofNat', UInt8.toNat_ofNat'] at hvalue
    unfold IsByte at hc hd
    refine ⟨Char.ext (UInt32.toNat_inj.mp ?_), hfront⟩
    omega
  · obtain ⟨front', b, hencode, hb⟩ := exists_utf8EncodeChar hd
    rw [hencode, ← List.append_assoc] at h
    obtain ⟨-, hbyte⟩ := List.append_inj' h rfl
    rw [List.singleton_inj.mp hbyte, UInt8.toNat_ofNat'] at hb
    unfold IsByte at hc
    omega

/-- A text that ends in the bytes of some characters ends in these characters. -/
lemma suffix_of_utf8Bytes {text path : List Char} (htext : ∀ c ∈ text, IsByte c)
    (h : utf8Bytes text <:+ utf8Bytes path) : text <:+ path := by
  induction text using List.reverseRecOn generalizing path with
  | nil => exact List.nil_suffix
  | append_singleton text c ih =>
    obtain ⟨hothers, hc⟩ := List.forall_mem_append.mp htext
    have hc : IsByte c := hc c (List.mem_singleton_self c)
    obtain ⟨front, hfront⟩ := h
    rw [utf8Bytes_append, ← List.append_assoc, utf8Bytes, utf8Bytes, List.flatMap_singleton,
      utf8EncodeChar_of_isByte hc] at hfront
    rcases List.eq_nil_or_concat path with rfl | ⟨path, d, rfl⟩
    · simp [utf8Bytes] at hfront
    · rw [List.concat_eq_append, utf8Bytes_append] at hfront
      have hlast : utf8Bytes [d] = String.utf8EncodeChar d := List.flatMap_singleton ..
      rw [hlast] at hfront
      obtain ⟨rfl, hpath⟩ := eq_of_utf8EncodeChar hc hfront.symm
      obtain ⟨before, rfl⟩ := ih hothers ⟨front, hpath.symm⟩
      rw [List.concat_eq_append, List.append_assoc]
      exact List.suffix_append ..

end Text

namespace Glob

/-! ### What is left of texts -/

variable {text left : Bytes} {texts : List Bytes}

lemma suffix_of_dropBytes? {front : Bytes} (h : dropBytes? front text = some left) :
    text = front ++ left := by
  unfold dropBytes? at h
  split at h
  next hfront =>
    obtain ⟨back, rfl⟩ := List.isPrefixOf_iff_prefix.mp hfront
    rw [List.drop_left, Option.some.injEq] at h
    rw [h]
  next => cases h

lemma suffix_of_mem_tailsOf (h : left ∈ tailsOf text) : left <:+ text := by
  induction text with
  | nil => exact List.mem_singleton.mp h ▸ List.suffix_rfl
  | cons b text ih =>
    rcases List.mem_cons.mp h with rfl | h
    · exact List.suffix_rfl
    · exact (ih h).trans (List.suffix_cons ..)

lemma suffix_of_mem_afterPart (h : left ∈ afterPart text) : left <:+ text := by
  induction text with
  | nil => exact List.mem_singleton.mp h ▸ List.suffix_rfl
  | cons b text ih =>
    rw [afterPart] at h
    split at h
    · exact List.mem_singleton.mp h ▸ List.suffix_rfl
    · rcases List.mem_cons.mp h with rfl | h
      · exact List.suffix_rfl
      · exact (ih h).trans (List.suffix_cons ..)

lemma suffix_of_mem_afterSeparators (h : left ∈ afterSeparators text) : left <:+ text := by
  induction text with
  | nil => cases h
  | cons b text ih =>
    rw [afterSeparators] at h
    split at h
    · rcases List.mem_cons.mp h with rfl | h
      · exact List.suffix_cons ..
      · exact (ih h).trans (List.suffix_cons ..)
    · exact (ih h).trans (List.suffix_cons ..)

/-- Whether texts are ends of some others. -/
def EndsOf (texts found : List Bytes) : Prop := ∀ left ∈ found, ∃ text ∈ texts, left <:+ text

namespace EndsOf

lemma refl (texts : List Bytes) : EndsOf texts texts :=
  fun left hleft => ⟨left, hleft, List.suffix_rfl⟩

lemma trans {found last : List Bytes} (h : EndsOf texts found) (h' : EndsOf found last) :
    EndsOf texts last := by
  intro left hleft
  obtain ⟨middle, hmiddle, hsuffix⟩ := h' left hleft
  obtain ⟨text, htext, hsuffix'⟩ := h middle hmiddle
  exact ⟨text, htext, hsuffix.trans hsuffix'⟩

lemma filterMap {f : Bytes → Option Bytes} (h : ∀ text left, f text = some left → left <:+ text) :
    EndsOf texts (texts.filterMap f) := by
  intro left hleft
  obtain ⟨text, htext, hf⟩ := List.mem_filterMap.mp hleft
  exact ⟨text, htext, h text left hf⟩

lemma flatMap {f : Bytes → List Bytes} (h : ∀ text, ∀ left ∈ f text, left <:+ text) :
    EndsOf texts (texts.flatMap f) := by
  intro left hleft
  obtain ⟨text, htext, hf⟩ := List.mem_flatMap.mp hleft
  exact ⟨text, htext, h text left hf⟩

lemma dropBytes (front : Bytes) : EndsOf texts (texts.filterMap (dropBytes? front)) :=
  filterMap fun _ _ h => suffix_of_dropBytes? h ▸ List.suffix_append ..

end EndsOf

mutual

/-- What a piece leaves of texts are ends of them. -/
lemma Piece.endsOf_advance (piece : Piece) (texts : List Bytes) :
    EndsOf texts (piece.advance texts) := by
  cases piece with
  | literal c => exact .dropBytes _
  | anyByte =>
    refine .filterMap fun text left h => ?_
    split at h
    next => cases h
    next b rest =>
      split at h
      · cases h
      · exact Option.some.inj h ▸ List.suffix_cons ..
  | anyPart => exact .flatMap fun text left h => suffix_of_mem_afterPart h
  | leading =>
    refine .flatMap fun text left h => ?_
    rcases List.mem_cons.mp h with rfl | h
    · exact List.suffix_rfl
    · exact suffix_of_mem_afterSeparators h
  | trailing => exact (EndsOf.dropBytes _).trans (.flatMap fun text left => suffix_of_mem_tailsOf)
  | between =>
    refine (EndsOf.dropBytes _).trans (.flatMap fun text left h => ?_)
    rcases List.mem_cons.mp h with rfl | h
    · exact List.suffix_rfl
    · exact suffix_of_mem_afterSeparators h
  | set isNegated ranges =>
    refine .filterMap fun text left h => ?_
    split at h
    next => cases h
    next b rest =>
      split at h
      · exact Option.some.inj h ▸ List.suffix_cons ..
      · cases h
  | choice branches =>
    rw [Piece.advance]
    split
    · exact .refl texts
    · exact endsOf_advanceBranches branches texts

lemma endsOf_advance (pieces : List Piece) (texts : List Bytes) :
    EndsOf texts (advance pieces texts) := by
  cases pieces with
  | nil => exact .refl texts
  | cons piece pieces =>
    have hpiece := piece.endsOf_advance texts
    refine EndsOf.trans (fun left hleft => ?_) (endsOf_advance pieces _)
    exact hpiece left (List.mem_eraseDups.mp hleft)

lemma endsOf_advanceBranches (branches : List (List Piece)) (texts : List Bytes) :
    EndsOf texts (advanceBranches branches texts) := by
  cases branches with
  | nil => exact fun left hleft => (List.not_mem_nil hleft).elim
  | cons branch branches =>
    intro left hleft
    rcases List.mem_append.mp hleft with hleft | hleft
    · split at hleft
      · cases hleft
      · exact endsOf_advance branch texts left hleft
    · exact endsOf_advanceBranches branches texts left hleft

end

/-! ### Ends of globs -/

/-- Whether pieces are these characters. -/
def areChars : List Char → List Piece → Bool
  | [], []                        => true
  | c :: text, piece :: pieces    => piece.isChar c && areChars text pieces
  | [], _ :: _                    => false
  | _ :: _, []                    => false

/-- Whether a glob ends in these characters, one by one. -/
def endsIn (text : List Char) (glob : Glob) : Bool :=
  areChars text (glob.pieces.drop (glob.pieces.length - text.length))

lemma eq_of_areChars {text : List Char} {pieces : List Piece} (h : areChars text pieces) :
    pieces = text.map .literal := by
  fun_induction areChars text pieces with
  | case1 => rfl
  | case2 c text piece pieces ih =>
    rw [Bool.and_eq_true] at h
    cases piece with
    | literal d =>
      rw [Piece.isChar, decide_eq_true_eq] at h
      rw [ih h.2, h.1, List.map_cons]
    | _ => cases h.1
  | case3 | case4 => cases h

lemma advance_append (front back : List Piece) (texts : List Bytes) :
    advance (front ++ back) texts = advance back (advance front texts) := by
  induction front generalizing texts with
  | nil => rfl
  | cons piece front ih => exact ih _

/-- Characters take themselves off the front. -/
lemma mem_of_mem_advance_literals {chars : List Char}
    (h : left ∈ advance (chars.map .literal) texts) :
    Text.utf8Bytes chars ++ left ∈ texts := by
  induction chars generalizing texts with
  | nil => exact h
  | cons c chars ih =>
    obtain ⟨text, htext, hleft⟩ := List.mem_filterMap.mp (List.mem_eraseDups.mp (ih h))
    rw [suffix_of_dropBytes? hleft, ← List.append_assoc, ← Text.utf8Bytes_append] at htext
    exact htext

/-- A glob that ends in some characters matches only paths that end in them. -/
theorem suffix_of_matchesPath {glob : Glob} {chars : List Char} {path : String}
    (hglob : glob.endsIn chars) (hne : chars ≠ []) (hchars : ∀ c ∈ chars, Text.IsByte c)
    (h : glob.matchesPath path) : chars <:+ path.toList := by
  have hpieces := List.take_append_drop (glob.pieces.length - chars.length) glob.pieces
  rw [eq_of_areChars hglob] at hpieces
  rw [matchesPath] at h
  split at h
  next hleading =>
    -- a glob for all paths does not end in a character
    rw [hleading] at hpieces
    obtain ⟨front, c, rfl⟩ := List.eq_nil_or_concat chars |>.resolve_left hne
    rw [List.concat_eq_append, List.map_append, List.map_singleton, ← List.append_assoc] at hpieces
    have hlast := congrArg List.getLast? hpieces
    rw [List.getLast?_concat] at hlast
    cases hlast
  next =>
    rw [Bool.and_eq_true, List.any_eq_true] at h
    obtain ⟨-, left, hleft, hempty⟩ := h
    rw [List.isEmpty_iff] at hempty
    subst hempty
    rw [← hpieces, advance_append] at hleft
    have hchars' := mem_of_mem_advance_literals hleft
    rw [List.append_nil] at hchars'
    obtain ⟨text, htext, hsuffix⟩ := endsOf_advance _ _ _ hchars'
    rw [List.mem_singleton.mp htext] at hsuffix
    exact Text.suffix_of_utf8Bytes hchars hsuffix

end Glob

namespace Workspace

/-- Patterns that end in the extension of templates ask for templates only. -/
lemma askForTemplates_of_endsIn {patterns : List String}
    (h : (readGlobs patterns).toOption.all fun globs =>
      globs.all (·.endsIn templateExtension.toList)) : AskForTemplates patterns := by
  intro globs hglobs glob hglob path hmatch
  rw [hglobs] at h
  have hbytes : templateExtension.toList.all fun c => c.val.toNat ≤ 127 := by decide
  refine Glob.suffix_of_matchesPath (List.all_eq_true.mp h glob hglob) (by decide)
    (fun c hc => ?_) hmatch
  simpa [Text.IsByte] using List.all_eq_true.mp hbytes c hc

/-- The standard patterns ask for templates only. -/
theorem askForTemplates_standard : AskForTemplates (Settings.standard .standard).including :=
  askForTemplates_of_endsIn (by decide +kernel)

end Workspace

end Stencil
