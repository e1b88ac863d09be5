/-!
# Lexemes

Where a lexeme ends. Each function looks at the text from some place on and counts the characters
of the lexeme that stands there, `none` when there is none. Which lexemes are sought depends on
the place in the grammar, so a word is a keyword only where a keyword fits.
-/

namespace Stencil.TypeScript

/-! ### Character classes -/

/-- Whether a character is white space between tokens. -/
def isSpace (c : Char) : Bool :=
  let n := c.toNat
  (0x09 ≤ n && n ≤ 0x0D) || n == 0x20 || n == 0x85 || n == 0xA0 || n == 0x1680 ||
  (0x2000 ≤ n && n ≤ 0x200B) || n == 0x2028 || n == 0x2029 || n == 0x202F || n == 0x205F ||
  n == 0x2060 || n == 0x3000 || n == 0xFEFF

/-- Whether a character is white space of the ASCII range. -/
def isAsciiSpace (c : Char) : Bool :=
  c == ' ' || (0x09 ≤ c.toNat && c.toNat ≤ 0x0D)

/-- The marks that no name holds. -/
def isMark (c : Char) : Bool :=
  ":;`\"'@#.,|^&<=>+-*/\\%?!~()[]\x7b\x7d".toList.contains c

/-- Whether a name may begin with this character. -/
def isNameStart (c : Char) : Bool :=
  0x1F < c.toNat && !isSpace c && !c.isDigit && !isMark c

/-- Whether a name may go on with this character. -/
def isNamePart (c : Char) : Bool :=
  isNameStart c || c.isDigit

def isHexDigit (c : Char) : Bool :=
  c.isDigit || ('a' ≤ c && c ≤ 'f') || ('A' ≤ c && c ≤ 'F')

/-- Whether a line ends at this character. -/
def isLineBreak (c : Char) : Bool :=
  c == '\n' || c == '\r' || c.toNat == 0x2028 || c.toNat == 0x2029

/-! ### Names -/

/-- Length of a run of hexadecimal digits that a closing brace ends, brace included. -/
def bracedHex? : List Char → Option Nat
  | c :: '}' :: _ => if isHexDigit c then some 2 else none
  | c :: rest     => if isHexDigit c then (bracedHex? rest).map (· + 1) else none
  | []            => none

/-- Length of what follows the `u` of an escape by code point. -/
def unicodeDigits? : List Char → Option Nat
  | '{' :: rest => (bracedHex? rest).map (· + 1)
  | a :: b :: c :: d :: _ =>
    if isHexDigit a && isHexDigit b && isHexDigit c && isHexDigit d then some 4 else none
  | _ => none

/-- Length of the rest of a name; `skip` characters of an escape are passed over first. -/
def nameRest : (skip : Nat) → List Char → Nat
  | _, []                 => 0
  | skip + 1, _ :: rest   => 1 + nameRest skip rest
  | 0, '\\' :: 'u' :: rest =>
    match unicodeDigits? rest with
    | some n => 2 + nameRest n rest
    | none   => 0
  | 0, c :: rest          => if isNamePart c then 1 + nameRest 0 rest else 0

/-- Length of a name. -/
def name? (text : List Char) : Option Nat :=
  match text with
  | []                => none
  | '\\' :: 'u' :: _ =>
    match nameRest 0 text with
    | 0 => none
    | n => some n
  | c :: _ => if isNameStart c then some (nameRest 0 text) else none

/-- Length of a name with a leading hash. -/
def privateName? : List Char → Option Nat
  | '#' :: rest => (name? rest).map (· + 1)
  | _           => none

/-! ### Numbers -/

/-- Length of a run of digits in which single low lines may stand between two digits. -/
def digitRun (isDigit : Char → Bool) : List Char → Nat
  | []              => 0
  | '_' :: d :: rest => if isDigit d then 2 + digitRun isDigit rest else 0
  | c :: rest       => if isDigit c then 1 + digitRun isDigit rest else 0

/-- Length of a nonempty run of digits. -/
def digits? (isDigit : Char → Bool) (text : List Char) : Option Nat :=
  match text with
  | c :: _ => if isDigit c then some (digitRun isDigit text) else none
  | []     => none

/-- Length of an exponent, zero without one. -/
def exponent (text : List Char) : Nat :=
  match text with
  | e :: rest =>
    if e == 'e' || e == 'E' then
      match rest with
      | sign :: digits =>
        if sign == '+' || sign == '-' then ((digits? Char.isDigit digits).map (· + 2)).getD 0
        else ((digits? Char.isDigit rest).map (· + 1)).getD 0
      | [] => 0
    else 0
  | [] => 0

/-- Length with the suffix of a big integer. -/
def withBigSuffix (text : List Char) (n : Nat) : Nat :=
  if (text.drop n).head? == some 'n' then n + 1 else n

/-- Length of a number written with a base. -/
def basedNumber? : List Char → Option Nat
  | '0' :: base :: rest =>
    let digits :=
      if base == 'x' || base == 'X' then digits? isHexDigit rest
      else if base == 'o' || base == 'O' then digits? (fun c => '0' ≤ c && c ≤ '7') rest
      else if base == 'b' || base == 'B' then digits? (fun c => c == '0' || c == '1') rest
      else none
    digits.map fun n => withBigSuffix ('0' :: base :: rest) (n + 2)
  | _ => none

/-- Length of a decimal number. -/
def decimalNumber? (text : List Char) : Option Nat :=
  match text with
  | '.' :: rest =>
    (digits? Char.isDigit rest).map fun n => 1 + n + exponent (rest.drop n)
  | _ =>
    match digits? Char.isDigit text with
    | none       => none
    | some whole =>
      match text.drop whole with
      | '.' :: rest =>
        let places := (digits? Char.isDigit rest).getD 0
        some (whole + 1 + places + exponent (rest.drop places))
      | rest =>
        match exponent rest with
        | 0 => some (withBigSuffix text whole)
        | n => some (whole + n)

/-- Length of a number. -/
def number? (text : List Char) : Option Nat :=
  match basedNumber? text with
  | some n => some n
  | none   => decimalNumber? text

/-! ### Texts -/

/-- Length of an escape after its backslash. -/
def escape? : List Char → Option Nat
  | 'x' :: a :: b :: _  => if isHexDigit a && isHexDigit b then some 3 else none
  | 'x' :: _            => none
  | 'u' :: rest         => (unicodeDigits? rest).map (· + 1)
  | '\r' :: '\n' :: _   => some 2
  | _ :: _              => some 1
  | []                  => none

/-- Length of the rest of a string literal, its closing quote included; `skip` characters of an
escape are passed over first. -/
def stringRest? (quote : Char) : (skip : Nat) → List Char → Option Nat
  | _, []               => none
  | skip + 1, _ :: rest => (stringRest? quote skip rest).map (· + 1)
  | 0, '\\' :: rest     =>
    match escape? rest with
    | some n => (stringRest? quote n rest).map (· + 1)
    | none   => none
  | 0, c :: rest        =>
    if c == quote then some 1
    else if c == '\n' || c == '\r' then none
    else (stringRest? quote 0 rest).map (· + 1)

/-- Length of a string literal. -/
def string? : List Char → Option Nat
  | '"' :: rest  => (stringRest? '"' 0 rest).map (· + 1)
  | '\'' :: rest => (stringRest? '\'' 0 rest).map (· + 1)
  | _            => none

/-- Length of the text of a template up to its end or its next substitution, `none` when the
template is not closed. -/
def templateText? : (skip : Nat) → List Char → Option Nat
  | _, []               => none
  | skip + 1, _ :: rest => (templateText? skip rest).map (· + 1)
  | 0, '`' :: _         => some 0
  | 0, '$' :: '{' :: _  => some 0
  | 0, '\\' :: rest     =>
    match escape? rest with
    | some n => (templateText? n rest).map (· + 1)
    | none   => none
  | 0, _ :: rest        => (templateText? 0 rest).map (· + 1)

/-- Length of the rest of a regular expression up to and with its closing slash. -/
def regexRest? : (inClass escaped : Bool) → List Char → Option Nat
  | _, _, []                    => none
  | inClass, true, c :: rest    =>
    if isLineBreak c then none else (regexRest? inClass false rest).map (· + 1)
  | inClass, false, c :: rest   =>
    if isLineBreak c then none
    else if c == '\\' then (regexRest? inClass true rest).map (· + 1)
    else if c == '[' then (regexRest? true false rest).map (· + 1)
    else if c == ']' then (regexRest? false false rest).map (· + 1)
    else if c == '/' && !inClass then some 1
    else (regexRest? inClass false rest).map (· + 1)

/-- Length of a regular expression with its flags. -/
def regex? : List Char → Option Nat
  | '/' :: '/' :: _ => none
  | '/' :: '*' :: _ => none
  | '/' :: rest     =>
    (regexRest? false false rest).map fun n =>
      1 + n + ((rest.drop n).takeWhile fun c => 'a' ≤ c && c ≤ 'z').length
  | _               => none

/-- Length of a line that a hash and an exclamation mark begin. -/
def hashBang? : List Char → Option Nat
  | '#' :: '!' :: rest => some (2 + (rest.takeWhile (· ≠ '\n')).length)
  | _                  => none

/-! ### Marks -/

/-- The marks of more than one character, each before those it begins with. -/
def longMarks : List String :=
  [">>>=", "...", "===", "!==", "**=", "<<=", ">>=", ">>>", "&&=", "||=", "??=",
   "=>", "==", "!=", "<=", ">=", "&&", "||", "??", "?.", "++", "--",
   "+=", "-=", "*=", "/=", "%=", "&=", "|=", "^=", "<<", ">>", "**"]

/-- The longest mark at the front of the text. -/
def longestMark (text : List Char) : String :=
  match longMarks.find? fun mark => mark.toList.isPrefixOf text with
  | some mark =>
    if mark == "?." && ((text.drop 2).head?.map Char.isDigit).getD false then "?" else mark
  | none => String.ofList (text.take 1)

/-! ### Space between tokens -/

/-- Where a walk over space stands. -/
inductive Gap where
  | space
  | lineComment
  | blockComment
  deriving DecidableEq

/-- Length of the white space and comments at the front of the text; a block comment that is not
closed is none. -/
def gap? : Gap → List Char → Option Nat
  | .blockComment, []                => none
  | .blockComment, '*' :: '/' :: rest => (gap? .space rest).map (· + 2)
  | .blockComment, _ :: rest         => (gap? .blockComment rest).map (· + 1)
  | _, []                            => some 0
  | .lineComment, c :: rest          =>
    (gap? (if isLineBreak c then .space else .lineComment) rest).map (· + 1)
  | .space, '/' :: '/' :: rest       => (gap? .lineComment rest).map (· + 2)
  | .space, '/' :: '*' :: rest       =>
    match gap? .blockComment rest with
    | some n => some (n + 2)
    | none   => some 0
  | .space, c :: rest                =>
    if isSpace c then (gap? .space rest).map (· + 1) else some 0

/-- Length of the white space and comments at the front of the text. -/
def gap (text : List Char) : Nat :=
  (gap? .space text).getD 0

/-- Length of the rest of a block comment, its end included. -/
def blockComment? : List Char → Option Nat
  | []               => none
  | '*' :: '/' :: _  => some 2
  | _ :: rest        => (blockComment? rest).map (· + 1)

/-- Length of a comment. -/
def comment? : List Char → Option Nat
  | '/' :: '/' :: rest => some (2 + (rest.takeWhile fun c => !isLineBreak c).length)
  | '/' :: '*' :: rest => (blockComment? rest).map (· + 2)
  | _                  => none

end Stencil.TypeScript
