/-!
# Characters as bytes

`utf8Bytes` writes characters as bytes; `decodeLossy` reads any bytes, with one replacement
character for each longest run that begins a character but does not complete it.
-/

namespace Stencil.Text

/-- The bytes of characters. -/
def utf8Bytes (text : List Char) : List UInt8 := text.flatMap String.utf8EncodeChar

/-- The least and the greatest byte that may stand in some place. -/
structure ByteRange where
  least : UInt8
  greatest : UInt8

def ByteRange.contains (range : ByteRange) (b : UInt8) : Bool :=
  range.least ≤ b && b ≤ range.greatest

/-- A byte that goes on with a character. -/
def follower : ByteRange := ⟨0x80, 0xBF⟩

/-- What may follow a byte that begins a character; none if no character begins with it. The second
byte is restricted so that no character has two forms and surrogates have none. -/
def followers? (first : UInt8) : Option (List ByteRange) :=
  if first < 0x80 then some []
  else if first < 0xC2 then none
  else if first < 0xE0 then some [follower]
  else if first = 0xE0 then some [⟨0xA0, 0xBF⟩, follower]
  else if first = 0xED then some [⟨0x80, 0x9F⟩, follower]
  else if first < 0xF0 then some [follower, follower]
  else if first = 0xF0 then some [⟨0x90, 0xBF⟩, follower, follower]
  else if first < 0xF4 then some [follower, follower, follower]
  else if first = 0xF4 then some [⟨0x80, 0x8F⟩, follower, follower]
  else none

/-- The bytes at the front that lie in ranges, one after another, and whether there is one for each
range. -/
def takeRanges : List ByteRange → List UInt8 → List UInt8 × Bool
  | [], _                       => ([], true)
  | _, []                       => ([], false)
  | range :: ranges, b :: bytes =>
    if range.contains b then
      let (taken, complete) := takeRanges ranges bytes
      (b :: taken, complete)
    else ([], false)

/-- The code point that a first byte and its followers write. -/
def codePointOf (first : UInt8) (others : List UInt8) : Nat :=
  let lead := match others.length with
    | 0 => first.toNat
    | 1 => first.toNat % 32
    | 2 => first.toNat % 16
    | _ => first.toNat % 8
  others.foldl (fun n b => 64 * n + b.toNat % 64) lead

/-- The characters that bytes write. -/
def decodeLossy : List UInt8 → List Char
  | []             => []
  | first :: bytes =>
    match followers? first with
    | none        => '\uFFFD' :: decodeLossy bytes
    | some ranges =>
      let (taken, complete) := takeRanges ranges bytes
      (if complete then Char.ofNat (codePointOf first taken) else '\uFFFD') ::
        decodeLossy (bytes.drop taken.length)
  termination_by bytes => bytes.length
  decreasing_by all_goals simp only [List.length_cons, List.length_drop]; omega

end Stencil.Text
