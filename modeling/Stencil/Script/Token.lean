import Stencil.Number.Literal
import Stencil.Script.Utf16
import Stencil.Text.Word

/-!
# Tokens of scripts

`Token.read` reads the token at the front of a text. A slash is read as an operator; where an
operand is due, the parser reads it again as a regular expression with `readRegex`, and after a
substitution it goes on with a template by `readTemplate`.
-/

namespace Stencil.Script

/-- A token of a script. -/
inductive Token where
  /-- A name or a keyword; keywords are not written with escapes. -/
  | name (text : String) (escaped : Bool)
  | privateName (text : String)
  | mark (text : String)
  | number (value : Float) (isLegacy : Bool)
  | big (value : Int)
  | text (value : Utf16) (hasOctal : Bool)
  /-- A stretch of a template, which ends it or is followed by a substitution; the cooked text is
  missing when an escape in it is malformed. -/
  | template (cooked : Option Utf16) (raw : Utf16) (isLast : Bool)
  | regex (source flags : Utf16)
  | ended
  deriving DecidableEq

namespace Token

/-! ### Characters -/

/-- Whether a character separates tokens without ending a line. -/
def isSpace (c : Char) : Bool :=
  c == ' ' || c == '\t' || c.toNat == 0x0B || c.toNat == 0x0C || c.toNat == 0xA0 ||
  c.toNat == 0xFEFF || c.toNat == 0x1680 || (0x2000 ≤ c.toNat && c.toNat ≤ 0x200A) ||
  c.toNat == 0x202F || c.toNat == 0x205F || c.toNat == 0x3000

/-- Whether a character ends a line. -/
def isLineEnd (c : Char) : Bool :=
  c == '\n' || c == '\r' || c.toNat == 0x2028 || c.toNat == 0x2029

/-- Whether a name may begin with a character. -/
def isNameStart (c : Char) : Bool :=
  c.isAlpha || c == '$' || c == '_' || (0x80 ≤ c.toNat && Text.isWord c)

/-- Whether a name may go on with a character. -/
def isNamePart (c : Char) : Bool :=
  isNameStart c || c.isDigit || c.toNat == 0x200C || c.toNat == 0x200D

/-! ### Space -/

/-- Where a walk over space stands. -/
inductive Space where
  | between | line | block
  deriving DecidableEq

/-- The text after white space and comments, and whether a line ended in them; `none` when a
comment is not closed. -/
def skipSpace : Space → (newline : Bool) → List Char → Option (List Char × Bool)
  | .block, _, []                        => none
  | .block, newline, '*' :: '/' :: rest  => skipSpace .between newline rest
  | .block, newline, c :: rest           => skipSpace .block (newline || isLineEnd c) rest
  | _, newline, []                       => some ([], newline)
  | .line, newline, c :: rest            =>
    if isLineEnd c then skipSpace .between true rest else skipSpace .line newline rest
  | .between, newline, '/' :: '/' :: rest => skipSpace .line newline rest
  | .between, newline, '/' :: '*' :: rest => skipSpace .block newline rest
  | .between, newline, c :: rest         =>
    if isLineEnd c then skipSpace .between true rest
    else if isSpace c then skipSpace .between newline rest
    else some (c :: rest, newline)

/-! ### Escapes -/

/-- A code point in braces: its value and the text after the closing brace. -/
def readBraced : (value : Nat) → (any : Bool) → List Char → Option (Nat × List Char)
  | value, true, '}' :: rest => some (value, rest)
  | value, _, c :: rest      =>
    match Number.digitValue? 16 c with
    | some d => if 16 * value + d ≤ 0x10FFFF then readBraced (16 * value + d) true rest else none
    | none   => none
  | _, _, []                 => none

/-- The code point that follows the `u` of an escape, and the text after it. -/
def readUnicode : List Char → Option (Nat × List Char)
  | '{' :: rest             => readBraced 0 false rest
  | a :: b :: c :: d :: rest =>
    match Number.digitValue? 16 a, Number.digitValue? 16 b, Number.digitValue? 16 c,
        Number.digitValue? 16 d with
    | some a, some b, some c, some d => some (((a * 16 + b) * 16 + c) * 16 + d, rest)
    | _, _, _, _                     => none
  | _                       => none

/-- What an escape stands for. -/
structure Escape where
  points : List Nat
  rest : List Char
  isOctal : Bool

/-- Up to `count` octal digits, of a value up to 255. -/
def readOctal : (count value : Nat) → List Char → Nat × List Char
  | 0, value, rest         => (value, rest)
  | count + 1, value, input =>
    match input with
    | c :: rest =>
      match Number.digitValue? 8 c with
      | some d => if 8 * value + d ≤ 255 then readOctal count (8 * value + d) rest else (value, input)
      | none   => (value, input)
    | []        => (value, [])

/-- The escape after a backslash, `none` when it is malformed. -/
def readEscape : List Char → Option Escape
  | 'n' :: rest => some ⟨[0x0A], rest, false⟩
  | 't' :: rest => some ⟨[0x09], rest, false⟩
  | 'r' :: rest => some ⟨[0x0D], rest, false⟩
  | 'b' :: rest => some ⟨[0x08], rest, false⟩
  | 'f' :: rest => some ⟨[0x0C], rest, false⟩
  | 'v' :: rest => some ⟨[0x0B], rest, false⟩
  | '\r' :: '\n' :: rest => some ⟨[], rest, false⟩
  | 'x' :: a :: b :: rest =>
    match Number.digitValue? 16 a, Number.digitValue? 16 b with
    | some a, some b => some ⟨[a * 16 + b], rest, false⟩
    | _, _           => none
  | 'x' :: _    => none
  | 'u' :: rest => (readUnicode rest).map fun (n, rest) => ⟨[n], rest, false⟩
  | c :: rest   =>
    if isLineEnd c then some ⟨[], rest, false⟩
    else if c.isDigit then
      if c == '0' && !((rest.head?.map Char.isDigit).getD false) then some ⟨[0], rest, false⟩
      else if c == '8' || c == '9' then some ⟨[c.toNat], rest, true⟩
      else
        let (value, rest) := readOctal 3 0 (c :: rest)
        some ⟨[value], rest, true⟩
    else some ⟨[c.toNat], rest, false⟩
  | []          => none

/-! ### Texts -/

/-- The rest of a string literal; `fuel` bounds its length. -/
def readString (quote : Char) : (fuel : Nat) → (points : List Nat) → (hasOctal : Bool) →
    List Char → Option (Token × List Char)
  | 0, _, _, _ => none
  | fuel + 1, points, hasOctal, input =>
    match input with
    | []            => none
    | '\\' :: rest =>
      match readEscape rest with
      | some escape =>
        readString quote fuel (escape.points.reverse ++ points) (hasOctal || escape.isOctal)
          escape.rest
      | none        => none
    | c :: rest     =>
      if c == quote then some (.text (.ofCodePoints points.reverse) hasOctal, rest)
      else if c == '\n' || c == '\r' then none
      else readString quote fuel (c.toNat :: points) hasOctal rest

/-- The characters at the front of `text` up to the suffix `rest`, with line ends unified. -/
def rawBetween (input rest : List Char) : List Nat :=
  unify (input.take (input.length - rest.length))
where
  unify : List Char → List Nat
    | '\r' :: '\n' :: rest => 0x0A :: unify rest
    | '\r' :: rest         => 0x0A :: unify rest
    | c :: rest            => c.toNat :: unify rest
    | []                   => []

/-- Whether a malformed escape ends before this text could end a template. -/
def malformedEnd : List Char → List Char
  | c :: rest => if c == '`' || c == '\\' || c == '$' then c :: rest else rest
  | []        => []

/-- The stretch of a template at the front of a text; `fuel` bounds its length. -/
def readTemplate : (fuel : Nat) → (cooked : Option (List Nat)) → (raw : List Nat) →
    List Char → Option (Token × List Char)
  | 0, _, _, _ => none
  | fuel + 1, cooked, raw, input =>
    match input with
    | []                 => none
    | '`' :: rest        => some (finish cooked raw true, rest)
    | '$' :: '{' :: rest => some (finish cooked raw false, rest)
    | '\r' :: '\n' :: rest => readTemplate fuel (cooked.map (0x0A :: ·)) (0x0A :: raw) rest
    | '\r' :: rest       => readTemplate fuel (cooked.map (0x0A :: ·)) (0x0A :: raw) rest
    | '\\' :: rest       =>
      match readEscape rest with
      | some escape =>
        let written := (rawBetween rest escape.rest).reverse ++ (0x5C :: raw)
        let cooked := if escape.isOctal then none
          else cooked.map fun points => escape.points.reverse ++ points
        readTemplate fuel cooked written escape.rest
      | none        =>
        let after := malformedEnd rest
        readTemplate fuel none ((rawBetween rest after).reverse ++ (0x5C :: raw)) after
    | c :: rest          =>
      readTemplate fuel (cooked.map (c.toNat :: ·)) (c.toNat :: raw) rest
where
  finish (cooked : Option (List Nat)) (raw : List Nat) (isLast : Bool) : Token :=
    .template (cooked.map fun points => .ofCodePoints points.reverse) (.ofCodePoints raw.reverse)
      isLast

/-- The regular expression whose opening slash is already read. -/
def readRegex : (inClass : Bool) → (source : List Char) → List Char → Option (Token × List Char)
  | _, _, []                          => none
  | inClass, source, '\\' :: c :: rest =>
    if isLineEnd c then none else readRegex inClass (c :: '\\' :: source) rest
  | inClass, source, c :: rest        =>
    if isLineEnd c then none
    else if c == '/' && !inClass then
      let flags := rest.takeWhile isNamePart
      some (.regex (.ofChars source.reverse) (.ofChars flags), rest.drop flags.length)
    else readRegex (if c == '[' then true else if c == ']' then false else inClass)
      (c :: source) rest

/-! ### Names and numbers -/

/-- The rest of a name; `fuel` bounds its length. -/
def readName : (fuel : Nat) → (points : List Nat) → (escaped : Bool) → List Char →
    Option (List Nat × Bool × List Char)
  | 0, _, _, _ => none
  | fuel + 1, points, escaped, input =>
    match input with
    | '\\' :: 'u' :: rest =>
      match readUnicode rest with
      | some (n, rest) =>
        let c := Char.ofNat n
        if (if points.isEmpty then isNameStart c else isNamePart c) then
          readName fuel (n :: points) true rest
        else none
      | none           => none
    | c :: rest            =>
      if isNamePart c then readName fuel (c.toNat :: points) escaped rest
      else some (points.reverse, escaped, input)
    | []                   => some (points.reverse, escaped, [])

/-- The text of the code points of a name. -/
def textOf (points : List Nat) : String :=
  String.ofList (points.map Char.ofNat)

/-- Digits of a base with single low lines between them: the digits and the text after them. -/
def readDigits (base : Nat) : (after : Bool) → List Char → Option (List Nat × List Char)
  | after, '_' :: c :: rest =>
    match Number.digitValue? base c with
    | some d =>
      if after then (readDigits base true rest).map fun (ds, rest) => (d :: ds, rest) else none
    | none   => none
  | _, c :: rest            =>
    match Number.digitValue? base c with
    | some d => (readDigits base true rest).map fun (ds, rest) => (d :: ds, rest)
    | none   => some ([], c :: rest)
  | _, []                   => some ([], [])

/-- A number whose digits are of a base that its lead names. -/
def readBased (base : Nat) (input : List Char) : Option (Token × List Char) :=
  match readDigits base false input with
  | some ([], _)        => none
  | some (digits, rest) =>
    let value := Number.ofDigits base digits
    match rest with
    | 'n' :: rest => some (.big value, rest)
    | rest        => some (.number (Number.ofRatio value 1) false, rest)
  | none                => none

/-- The exponent at the front of a text: its value and the text after it. -/
def readExponent (input : List Char) : Option (Int × List Char) :=
  match input with
  | e :: rest =>
    if e == 'e' || e == 'E' then
      let (negative, rest) := match rest with
        | '-' :: rest => (true, rest)
        | '+' :: rest => (false, rest)
        | rest        => (false, rest)
      match readDigits 10 false rest with
      | some ([], _)        => none
      | some (digits, rest) =>
        let value : Int := Number.ofDigits 10 digits
        some (if negative then -value else value, rest)
      | none                => none
    else some (0, input)
  | []        => some (0, [])

/-- A decimal number with an optional point and exponent. -/
def readDecimal (input : List Char) : Option (Token × List Char) := do
  let (whole, rest) ← readDigits 10 false input
  match rest, whole with
  | 'n' :: rest, _ :: _ => return (.big (Number.ofDigits 10 whole), rest)
  | '.' :: rest, _ =>
    let (places, rest) ← readDigits 10 false rest
    if whole.isEmpty && places.isEmpty then none
    let (exponent, rest) ← readExponent rest
    return (.number (Number.ofDecimal ⟨Number.ofDigits 10 (whole ++ places),
      exponent - places.length⟩) false, rest)
  | rest, _ =>
    if whole.isEmpty then none
    let (exponent, rest) ← readExponent rest
    return (.number (Number.ofDecimal ⟨Number.ofDigits 10 whole, exponent⟩) false, rest)

/-- A number. -/
def readNumber (input : List Char) : Option (Token × List Char) :=
  match input with
  | '0' :: 'x' :: rest => readBased 16 rest
  | '0' :: 'X' :: rest => readBased 16 rest
  | '0' :: 'o' :: rest => readBased 8 rest
  | '0' :: 'O' :: rest => readBased 8 rest
  | '0' :: 'b' :: rest => readBased 2 rest
  | '0' :: 'B' :: rest => readBased 2 rest
  | '0' :: d :: rest   =>
    if d.isDigit then
      let digits := (d :: rest).takeWhile Char.isDigit
      if digits.all fun c => c < '8' then
        some (.number (Number.ofRatio
            (Number.ofDigits 8 (digits.map fun c => c.toNat - 0x30)) 1) true,
          (d :: rest).drop digits.length)
      else (readDecimal input).map fun (token, rest) =>
        match token with
        | .number value _ => (.number value true, rest)
        | token           => (token, rest)
    else if d == '_' then none
    else readDecimal input
  | _                  => readDecimal input

/-! ### Marks -/

/-- The marks, each before those it begins with. -/
def marks : List String :=
  [">>>=", "...", "===", "!==", "**=", "<<=", ">>=", ">>>", "&&=", "||=", "??=",
   "=>", "==", "!=", "<=", ">=", "&&", "||", "??", "?.", "++", "--",
   "+=", "-=", "*=", "/=", "%=", "&=", "|=", "^=", "<<", ">>", "**",
   "\x7b", "\x7d", "(", ")", "[", "]", ";", ",", "<", ">", "+", "-", "*", "/", "%", "&", "|",
   "^", "!", "~", "?", ":", "=", ".", "@"]

/-- The mark at the front of a text. -/
def readMark (input : List Char) : Option (Token × List Char) :=
  match marks.find? fun sign => sign.toList.isPrefixOf input with
  | some "?." =>
    if ((input.drop 2).head?.map Char.isDigit).getD false then some (.mark "?", input.drop 1)
    else some (.mark "?.", input.drop 2)
  | some sign => some (.mark sign, input.drop sign.length)
  | none      => none

/-- The token at the front of a text and the text after it, `none` when there is none. -/
def read (input : List Char) : Option (Token × List Char) :=
  match input with
  | []            => some (.ended, [])
  | '"' :: rest   => readString '"' (rest.length + 1) [] false rest
  | '\'' :: rest  => readString '\'' (rest.length + 1) [] false rest
  | '`' :: rest   => readTemplate (rest.length + 1) (some []) [] rest
  | '#' :: rest   =>
    match readName (rest.length + 1) [] false rest with
    | some (c :: points, _, rest) =>
      if isNameStart (Char.ofNat c) then some (.privateName (textOf (c :: points)), rest)
      else none
    | _                           => none
  | c :: rest     =>
    if isNameStart c || c == '\\' then
      match readName (input.length + 1) [] false input with
      | some (c :: points, escaped, rest) => some (.name (textOf (c :: points)) escaped, rest)
      | _                                 => none
    else if c.isDigit || (c == '.' && (rest.head?.map Char.isDigit).getD false) then
      match readNumber input with
      | some (token, rest) =>
        if (rest.head?.map isNamePart).getD false then none else some (token, rest)
      | none               => none
    else readMark input

end Token

end Stencil.Script
