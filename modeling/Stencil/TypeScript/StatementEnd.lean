import Stencil.TypeScript.Lexeme

/-!
# Where a statement ends by itself

A statement may end without a semicolon: at the end of the text, before a closing brace, and where
a line break stands before something that cannot continue it. What can continue it depends on the
place, which `Position` describes.

A comment on the same line belongs to the statement, so the end is sought again after it;
`statementEnd?` gives the distance of the end from the last token.
-/

namespace Stencil.TypeScript

/-- What else could stand where a statement may end. -/
structure Position where
  /-- An operator could continue the statement here. -/
  operator : Bool
  /-- The body of a function could follow here. -/
  signature : Bool
  deriving DecidableEq

/-- After an expression. -/
def Position.afterExpression : Position := ⟨true, false⟩

/-- After something that no operator continues. -/
def Position.afterOther : Position := ⟨false, false⟩

/-- After the head of a function. -/
def Position.afterSignature : Position := ⟨false, true⟩

/-- The text after the white space and comments at its front; `none` at a slash that begins
neither kind of comment. -/
def afterComments? (mode : Gap) (text : List Char) : Option (List Char) :=
  match mode, text with
  | _, []                             => some []
  | .blockComment, '*' :: '/' :: rest => afterComments? .space rest
  | .blockComment, _ :: rest          => afterComments? .blockComment rest
  | .lineComment, '\n' :: rest        => afterComments? .space rest
  | .lineComment, _ :: rest           => afterComments? .lineComment rest
  | .space, '/' :: '/' :: rest        => afterComments? .lineComment rest
  | .space, '/' :: '*' :: rest        => afterComments? .blockComment rest
  | .space, '/' :: _                  => none
  | .space, c :: rest                 => if isAsciiSpace c then afterComments? .space rest else some text

/-- Whether a letter of the ASCII range stands first. -/
def startsWithLetter : List Char → Bool
  | c :: _ => c.isAlpha
  | []     => false

/-- Whether a statement ends at a line break before this text. -/
def endsBefore (position : Position) (next : List Char) : Bool :=
  match next with
  | []                    => true
  | '+' :: rest           => rest.head? == some '+'
  | '-' :: rest           => rest.head? == some '-'
  | '!' :: rest           => rest.head? != some '='
  | 'i' :: 'n' :: rest    =>
    if !startsWithLetter rest then false
    else if "stanceof".toList.isPrefixOf rest then startsWithLetter (rest.drop 8)
    else true
  | c :: _ =>
    if c == '{' then !position.signature
    else if c == '(' || c == '[' then !position.operator
    else !("`,.;*%><=?^|&/:".toList.contains c)

/-- Whether a statement ends right before this text, in which no comment stands before the first
line break. -/
def endsHere (position : Position) : List Char → Bool
  | []          => true
  | '}' :: rest =>
    if (rest.dropWhile isAsciiSpace).head? == some ':' then position.operator else true
  | '\n' :: rest =>
    match afterComments? .space rest with
    | some next => endsBefore position next
    | none      => false
  | c :: rest   => if isAsciiSpace c then endsHere position rest else false

/-- Whether only white space stands before a comment; then the length of both. -/
def leadingComment? (text : List Char) : Option Nat :=
  let blank := (text.takeWhile isSpace).length
  (comment? (text.drop blank)).map (blank + ·)

/-- Distance of the end of a statement, looking past at most `fuel` comments. -/
def statementEndWithin? (position : Position) : (fuel : Nat) → List Char → Option Nat
  | 0, text        => if endsHere position text then some 0 else none
  | fuel + 1, text =>
    if endsHere position text then some 0
    else
      match leadingComment? text with
      | some n => (statementEndWithin? position fuel (text.drop n)).map (n + ·)
      | none   => none

/-- Distance from the last token to the end of the statement, `none` where it does not end. -/
def statementEnd? (position : Position) (text : List Char) : Option Nat :=
  if endsHere position text then some 0
  else
    match leadingComment? text with
    | some n =>
      let rest := text.drop n
      (statementEndWithin? position rest.length rest).map (n + ·)
    | none   => none

end Stencil.TypeScript
