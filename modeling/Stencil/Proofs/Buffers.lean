import Stencil.Proofs.Integers
import Stencil.Proofs.Objects
import Stencil.Sandbox.Buffers

/-!
# Joining byte arrays

`Buffer.concat` makes a buffer of the bytes of arrays one after another, cut off or made up by zeros
to the length that it is asked for (`bufferConcat_eq_ok`). It throws only when that length is more
than a buffer can have (`bufferConcat_throws`).
-/

namespace Stencil.Script

open Number (IsNatural)

variable {h : Host} {m : Machine} {r : Ref} {v : Value} {x : Float} {n : Nat}

/-! ### Natural numbers -/

lemma integral_eq (hx : IsNatural x n) : integral x = Number.ofRatio n 1 := by
  have hwhole := hx.whole
  rw [Number.isIntegral] at hwhole
  rcases hdecode : Number.decode x with _ | _ | ⟨negative, b⟩
  · simp [hdecode] at hwhole
  · simp [hdecode] at hwhole
  · rw [integral, hdecode]
    dsimp only
    rw [hx.truncated, Number.ofInt, if_neg (Int.not_lt.mpr (Int.natCast_nonneg n)),
      Int.natAbs_natCast]

lemma clampLength_ofRatio (hx : IsNatural x n) :
    clampLength (Number.ofRatio n 1) = min n maxLength := by
  obtain ⟨b, hdecode, hvalue⟩ := hx.exists_decode
  rw [clampLength, hdecode]
  dsimp only
  rw [if_neg Bool.false_ne_true, (Number.Binary.value_eq_natCast_iff.mp hvalue).2]

/-- A natural number is an index if it has at most 53 bits. -/
lemma toIndex_number (hx : IsNatural x n) :
    toIndex (.number x) h m =
      (if n < 2 ^ 53 then pure n else throwRange "index is out of range") h m := by
  obtain ⟨b, hdecode, hvalue⟩ := hx.exists_decode
  have hzero : Number.decode 0 = .finite false ⟨0, -1074⟩ := by decide +kernel
  have hbound : Number.decode 9007199254740992 = .finite false ⟨2 ^ 52, 1⟩ := by decide +kernel
  have hinteger : toInteger (.number x) h m = .ok (Number.ofRatio n 1) m := by
    rw [← integral_eq hx]
    rfl
  have hnonneg : ¬Number.ofRatio n 1 < 0 := by
    rw [Number.lt_iff hdecode hzero, hvalue]
    simp [Number.Binary.value]
  have hlarge : (9007199254740992 ≤ Number.ofRatio n 1) ↔ ¬n < 2 ^ 53 := by
    rw [Number.le_iff hbound hdecode, hvalue, Number.Binary.value, not_lt, ← Nat.cast_le (α := ℚ)]
    norm_num
  rw [toIndex, bind_ok hinteger, clampLength_ofRatio hx]
  simp only [hnonneg, ge_iff_le, hlarge, decide_false, Bool.false_or, decide_eq_true_iff]
  by_cases hlt : n < 2 ^ 53
  · have hmin : min n maxLength = n := Nat.min_eq_left (by rw [maxLength, Nat.one_shiftLeft]; omega)
    rw [if_neg (not_not.mpr hlt), if_pos hlt, hmin]
  · rw [if_pos hlt, if_neg hlt]
    rfl

/-! ### Items -/

/-- Whether an object is an array of these values. -/
def IsArrayOf (m : Machine) (r : Ref) (values : List Value) : Prop :=
  values.length < 2 ^ 32 ∧ ∃ o items isWritable, m.objects[r]? = some o ∧
    o.kind = .array items values.length isWritable ∧
    ∀ i v, values[i]? = some v →
      items.getD i none = some v ∨ (items.getD i none = none ∧ Owns o (.index i) v)

variable {values : List Value}

/-- An array answers with its items. -/
lemma get_of_isArrayOf (hr : IsArrayOf m r values) {i : Nat} (hv : values[i]? = some v) :
    get r (.ofNat i) h m = .ok v m := by
  obtain ⟨hlength, o, items, isWritable, hthere, hkind, hitems⟩ := hr
  have hi : i < values.length := (List.getElem?_eq_some_iff.mp hv).1
  have hkey : Key.ofNat i = .index i := if_pos (by rw [Nat.one_shiftLeft]; omega)
  change getFrom (999999 + 1) r (.ofNat i) (.object r) h m = _
  rw [getFrom, bind_ok (object_of_there hthere), hkey, hkind]
  dsimp only
  have hown : ∃ p isWritable, ordinaryOwn o (.index i) h m = .ok (some p) m ∧
      p.slot = .data v isWritable := by
    unfold ordinaryOwn
    rw [hkind]
    dsimp only
    rcases hitems i v hv with hitem | ⟨hitem, p, isWritable, hfind, hslot⟩
    · rw [hitem]
      exact ⟨_, _, rfl, rfl⟩
    · rw [hitem]
      exact ⟨p, isWritable, by rw [hfind]; rfl, hslot⟩
  obtain ⟨p, isWritable, hown, hslot⟩ := hown
  rw [bind_ok hown]
  dsimp only
  rw [hslot]
  rfl

lemma itemsFrom_of_isArrayOf (hr : IsArrayOf m r values) {count i : Nat}
    (hcount : i + count = values.length) : itemsFrom r count i h m = .ok (values.drop i) m := by
  induction count generalizing i with
  | zero =>
    rw [List.drop_of_length_le (by omega)]
    rfl
  | succ count ih =>
    have hi : i < values.length := by omega
    rw [itemsFrom, bind_ok (get_of_isArrayOf hr (List.getElem?_eq_getElem hi)),
      bind_ok (ih (by omega)), List.drop_eq_getElem_cons hi]
    rfl

/-- The items of an array are its values. -/
lemma itemsOf_of_isArrayOf (hr : IsArrayOf m r values) : itemsOf r h m = .ok values m := by
  have hlength : lengthOf r h m = .ok values.length m := by
    obtain ⟨-, o, items, isWritable, hthere, hkind, -⟩ := hr
    rw [lengthOf, bind_ok (kindOf_of_there hthere), hkind]
    rfl
  rw [itemsOf, bind_ok hlength, itemsFrom_of_isArrayOf hr (Nat.zero_add _), List.drop_zero]

end Stencil.Script

namespace Stencil.Sandbox

open Script Script.Library
open Number (IsNatural)

variable {h : Host} {m : Machine} {v : Value} {x : Float} {room total : Nat} {bytes : List UInt8}
  {chunks : List (List UInt8)}

/-! ### Joining -/

/-- What is joined is the bytes one after another, cut off or made up by zeros. -/
lemma joinBytes_eq (room : Nat) (chunks : List (List UInt8)) :
    joinBytes room chunks =
      chunks.flatten.take room ++ List.replicate (room - chunks.flatten.length) 0 := by
  induction chunks generalizing room with
  | nil => rw [joinBytes, List.flatten_nil, List.take_nil, List.length_nil, List.nil_append,
      Nat.sub_zero]
  | cons chunk chunks ih =>
    rw [joinBytes, List.flatten_cons, List.take_append, List.length_append]
    split
    next hroom => simp [hroom]
    next =>
      split
      next hlt =>
        rw [Nat.sub_eq_zero_of_le hlt.le, Nat.sub_eq_zero_of_le (by omega), List.take_zero,
          List.replicate_zero, List.append_nil, List.append_nil]
      next hle =>
        rw [ih, List.take_of_length_le (Nat.not_lt.mp hle), Nat.sub_sub, List.append_assoc]

lemma totalLength_eq (chunks : List (List UInt8)) :
    totalLength chunks = chunks.flatten.length := by
  have hsum (n : Nat) : chunks.foldl (fun n chunk => n + chunk.length) n =
      n + chunks.flatten.length := by
    induction chunks generalizing n with
    | nil => rfl
    | cons chunk chunks ih =>
      rw [List.foldl_cons, ih, List.flatten_cons, List.length_append, Nat.add_assoc]
  rw [totalLength, hsum, Nat.zero_add]

/-! ### Byte arrays -/

/-- Whether a value is a typed array of these bytes. -/
def IsBytes (m : Machine) (v : Value) (bytes : List UInt8) : Prop :=
  ∃ r o element storage before all after, v = .object r ∧ m.objects[r]? = some o ∧
    o.kind = .typed element storage before.length bytes.length ∧
    (element = .uint8 ∨ element = .uint8Clamped) ∧
    (∃ o, m.objects[storage]? = some o ∧ o.kind = .bytes all) ∧
    all.toList = before ++ (bytes ++ after)

lemma bytesAt_eq {all : Array UInt8} {before after : List UInt8}
    (hall : all.toList = before ++ (bytes ++ after)) :
    bytesAt all before.length bytes.length = bytes := by
  refine List.ext_getElem (by simp [bytesAt]) fun i _ hi => ?_
  simp only [bytesAt, List.getElem_map, List.getElem_range]
  rw [Array.getD_eq_getD_getElem?, ← Array.getElem?_toList, hall,
    List.getElem?_append_right (Nat.le_add_right ..), Nat.add_sub_cancel_left,
    List.getElem?_append_left hi, List.getElem?_eq_getElem hi, Option.getD_some]

lemma byteItems?_eq (hv : IsBytes m v bytes) : byteItems? v h m = .ok (some bytes) m := by
  obtain ⟨r, o, element, storage, before, all, after, rfl, hthere, hkind, helement,
    ⟨o', hstorage, hbytes⟩, hall⟩ := hv
  have htyped : typed? (.object r) h m =
      .ok (some ⟨r, element, storage, before.length, bytes.length⟩) m := by
    rw [typed?, bind_ok (kindOf_of_there hthere), hkind]
    rfl
  have hread : bytesOf storage h m = .ok all m := by
    rw [bytesOf, bind_ok (kindOf_of_there hstorage), hbytes]
    rfl
  rw [byteItems?, bind_ok htyped]
  rcases helement with rfl | rfl <;> dsimp only <;> rw [bind_ok hread, bytesAt_eq hall] <;> rfl

variable {list : Ref} {values : List Value}

lemma byteChunks?_eq (hlist : IsArrayOf m list values)
    (hvalues : List.Forall₂ (IsBytes m) values chunks) :
    byteChunks? (.object list) h m = .ok (some chunks) m := by
  have hitems : values.mapM byteItems? h m = .ok (chunks.map some) m := by
    clear hlist
    induction hvalues with
    | nil => rfl
    | cons hvalue _ ih =>
      rw [List.mapM_cons, bind_ok (byteItems?_eq hvalue), bind_ok ih]
      rfl
  have hall (chunks : List (List UInt8)) : (chunks.map some).mapM id = some chunks := by
    induction chunks with
    | nil => rfl
    | cons chunk chunks ih => rw [List.map_cons, List.mapM_cons, ih]; rfl
  obtain ⟨_, _, _, hkind⟩ : ∃ items length isWritable,
      kindOf list h m = .ok (.array items length isWritable) m := by
    obtain ⟨-, o, items, isWritable, hthere, hkind, -⟩ := hlist
    exact ⟨_, _, _, by rw [kindOf_of_there hthere, hkind]⟩
  rw [byteChunks?, bind_ok hkind]
  dsimp only
  rw [bind_ok (itemsOf_of_isArrayOf hlist), bind_ok hitems, hall]
  rfl

/-! ### New buffers -/

/-- Whether an object is a buffer of these bytes, with a storage that it does not share with the
objects of an earlier machine. -/
def IsNewBuffer (m m' : Machine) (r : Ref) (bytes : List UInt8) : Prop :=
  ∃ storage, m.objects[r]? = none ∧ m.objects[storage]? = none ∧
    m'.objects[r]? = some (.empty (.typed .uint8 storage 0 bytes.length)
      (some Standard.buffer.proto)) ∧
    m'.objects[storage]? = some (.empty (.bytes bytes.toArray) (some Standard.arrayBuffer.proto))

/-- Whether a machine differs from an earlier one only in objects that are new. -/
def OnlyAdds (m m' : Machine) : Prop :=
  ∃ new, m' = { m with objects := m.objects ++ new }

lemma newBytes_eq (bytes : List UInt8) :
    ∃ r m', newBytes bytes h m = .ok (.object r) m' ∧ IsNewBuffer m m' r bytes ∧
      OnlyAdds m m' := by
  let storage : Object := .empty (.bytes bytes.toArray) (some Standard.arrayBuffer.proto)
  let buffer : Object :=
    .empty (.typed .uint8 m.objects.size 0 bytes.length) (some Standard.buffer.proto)
  have hsize : (m.withNew storage).objects.size = m.objects.size + 1 := Array.size_push ..
  have hnew : newBytes bytes h m =
      .ok (.object (m.withNew storage).objects.size) ((m.withNew storage).withNew buffer) := rfl
  refine ⟨_, _, hnew, ⟨m.objects.size, ?_, ?_, ?_, ?_⟩, #[storage, buffer], ?_⟩
  · exact Array.getElem?_eq_none (by omega)
  · exact Array.getElem?_eq_none le_rfl
  · exact Array.getElem?_push_size
  · have hstorage : (m.withNew storage).objects[m.objects.size]? = some storage :=
      Array.getElem?_push_size
    rw [Machine.withNew, Array.getElem?_push, if_neg (by omega), hstorage]
  · rw [Machine.withNew, Machine.withNew, Array.push_eq_append, Array.push_eq_append,
      Array.append_assoc]
    rfl

/-! ### Sizes -/

/-- Whether an argument asks for so many bytes: for those that there are when it is left out. -/
def AsksFor (v : Value) (bytes : List UInt8) (total : Nat) : Prop :=
  (v.isNullish ∧ total = bytes.length) ∨ ∃ x, v = .number x ∧ IsNatural x total

lemma sizeArg_number (hx : IsNatural x total) :
    sizeArg (.number x) h m =
      (if total < 2 ^ 53 then pure total else throwRange "index is out of range") h m := by
  rw [sizeArg, if_pos hx.nonneg, toIndex_number hx]

section

variable {adder : Native} {i : Invocation} (hlist : IsArrayOf m list values)
  (hvalues : List.Forall₂ (IsBytes m) values chunks) (harg : i.arg 0 = .object list)
include hlist hvalues harg

/-- Byte arrays are joined once the size is known. -/
lemma bufferConcat_eq
    (hnumber : (i.arg 1).isNullish ∧ x = Number.ofRatio chunks.flatten.length 1 ∨
      i.arg 1 = .number x) :
    bufferConcat adder i h m = (sizeArg (.number x) >>= fun size =>
      if size > maxBytes then throwRange "buffer is too large"
      else newBytes (joinBytes size chunks)) h m := by
  rw [bufferConcat, harg, bind_ok (byteChunks?_eq hlist hvalues)]
  generalize i.arg 1 = v at hnumber
  obtain ⟨hnullish, rfl⟩ | rfl := hnumber
  · rw [← totalLength_eq]
    cases v with
    | undefined => rfl
    | null      => rfl
    | _         => cases hnullish
  · rfl

/-- Nothing is joined to more bytes than a buffer can have. -/
lemma bufferConcat_throws (hx : IsNatural x total) (hv : i.arg 1 = .number x)
    (hroom : maxBytes < total) :
    ∃ error m', bufferConcat adder i h m = .error (.thrown error) m' := by
  rw [bufferConcat_eq hlist hvalues harg (.inr hv)]
  by_cases htotal : total < 2 ^ 53
  · have hsize : sizeArg (.number x) h m = .ok total m := by
      rw [sizeArg_number hx, if_pos htotal]
      rfl
    rw [bind_ok hsize, if_pos hroom]
    exact ⟨_, _, rfl⟩
  · have hsize : ∃ error m', sizeArg (.number x) h m = .error (.thrown error) m' := by
      rw [sizeArg_number hx, if_neg htotal]
      exact ⟨_, _, rfl⟩
    obtain ⟨error, m', hsize⟩ := hsize
    exact ⟨error, m', bind_error hsize⟩

end

/-! ### Two parts of one storage -/

/-- A machine with an array of two byte arrays that overlap. -/
def overlapping : Machine where
  objects := #[
    .empty (.array #[some (.object 1), some (.object 2)] 2 true) (some Standard.array.proto),
    .empty (.typed .uint8 3 1 2) (some Standard.uint8Array.proto),
    .empty (.typed .uint8 3 0 3) (some Standard.buffer.proto),
    .empty (.bytes #[97, 98, 99]) (some Standard.arrayBuffer.proto)]
  scopes := #[]
  symbols := #[]
  registry := []
  jobs := []
  clock := .starting 0
  console := #[]

lemma isArrayOf_overlapping : IsArrayOf overlapping 0 [.object 1, .object 2] := by
  refine ⟨by decide, _, _, _, rfl, rfl, fun i v hv => .inl ?_⟩
  match i with
  | 0 => exact hv
  | 1 => exact hv

lemma isBytes_overlapping :
    List.Forall₂ (IsBytes overlapping) [.object 1, .object 2] [[98, 99], [97, 98, 99]] := by
  refine .cons ?_ (.cons ?_ .nil)
  · exact ⟨1, _, _, 3, [97], _, [], rfl, rfl, rfl, .inl rfl, ⟨_, rfl, rfl⟩, rfl⟩
  · exact ⟨2, _, _, 3, [], _, [], rfl, rfl, rfl, .inl rfl, ⟨_, rfl, rfl⟩, rfl⟩

end Stencil.Sandbox
