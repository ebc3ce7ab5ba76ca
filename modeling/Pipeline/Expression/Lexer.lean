import Pipeline.Decimal.Reader
import Pipeline.Expression.Token
import Pipeline.Text.Blank
import Pipeline.Text.Letter

/-! From text to tokens. Positions count the bytes of the text in UTF-8. -/

namespace Pipeline.Expression

open Text

/-- Why a text is no row of tokens, or no template. -/
inductive LexCause where
  | singleEquals
  | singleAmpersand
  | singleBar
  | unterminatedText
  | invalidNumber (text : String)
  | unexpectedCharacter (c : Char)
  | unterminatedExpression
  deriving Repr, DecidableEq

/-- The wording of a failure. -/
def LexCause.message : LexCause → String
  | singleEquals => "expected '==', found single '='"
  | singleAmpersand => "expected '&&'"
  | singleBar => "expected '||'"
  | unterminatedText => "unterminated string literal"
  | invalidNumber text => "invalid number '" ++ text ++ "'"
  | unexpectedCharacter c => "unexpected character '" ++ c.toString ++ "'"
  | unterminatedExpression => "unterminated '$\x7b\x7b' expression"

/-- A failure at a byte position. -/
structure LexError where
  cause : LexCause
  position : Nat
  deriving Repr, DecidableEq

/-- The wording of a failure with its place. -/
def LexError.message (e : LexError) : String :=
  "lex error at position " ++ toString e.position ++ ": " ++ e.cause.message

/-- The number of bytes of characters in UTF-8. -/
def byteSize (cs : List Char) : Nat :=
  total (cs.map Char.utf8Size)

/-- The characters of a quoted text after its opening quote, and what follows the closing one. A
quote written twice is one quote of the text. -/
def readText : List Char → Option (List Char × List Char)
  | [] => none
  | '\'' :: '\'' :: rest => (readText rest).map fun (text, rest) => ('\'' :: text, rest)
  | '\'' :: rest => some ([], rest)
  | c :: rest => (readText rest).map fun (text, rest) => (c :: text, rest)

/-- A character that may stand in a number, in base ten or sixteen. -/
def isNumberChar (c : Char) : Bool :=
  c.isDigit || c = '.' || c = 'x' || ('a' ≤ c && c ≤ 'f') || ('A' ≤ c && c ≤ 'F')

/-- A character that may start a name. -/
def isNameStart (c : Char) : Bool :=
  isLetter c || c = '_'

/-- A character that may continue a name. -/
def isNameChar (c : Char) : Bool :=
  isWordChar c || c = '_' || c = '-'

theorem isNameChar_of_isNameStart {c : Char} (h : isNameStart c = true) : isNameChar c = true := by
  simp only [isNameStart, Bool.or_eq_true] at h
  simp only [isNameChar, isWordChar, Bool.or_eq_true]
  exact .inl (h.imp_left .inl)

/-- The greatest number that may be written in base sixteen. -/
def greatestHex : Nat := twoTo 63 - 1

/-- The value of the text of a number. -/
def numberOf? (text : List Char) : Option Double :=
  match text with
  | '0' :: 'x' :: digits =>
    if digits.isEmpty then none
    else
      match digitsValue? 16 digits with
      | some n => if n ≤ greatestHex then some (Double.ofInt n) else none
      | none => none
  | text => Double.parse? (String.ofList text)

/-- The text of a number at the front of `cs`, with its sign. -/
def numberText : List Char → List Char
  | '-' :: rest => '-' :: rest.takeWhile isNumberChar
  | cs => cs.takeWhile isNumberChar

/-- A sign at the front of the text, and what follows it. -/
def readSymbol : List Char → Except LexCause (Symbol × List Char)
  | '.' :: rest => .ok (.dot, rest)
  | ',' :: rest => .ok (.comma, rest)
  | '(' :: rest => .ok (.openParen, rest)
  | ')' :: rest => .ok (.closeParen, rest)
  | '[' :: rest => .ok (.openBracket, rest)
  | ']' :: rest => .ok (.closeBracket, rest)
  | '=' :: '=' :: rest => .ok (.equal, rest)
  | '=' :: _ => .error .singleEquals
  | '!' :: '=' :: rest => .ok (.notEqual, rest)
  | '!' :: rest => .ok (.not, rest)
  | '<' :: '=' :: rest => .ok (.lessEqual, rest)
  | '<' :: rest => .ok (.less, rest)
  | '>' :: '=' :: rest => .ok (.greaterEqual, rest)
  | '>' :: rest => .ok (.greater, rest)
  | '&' :: '&' :: rest => .ok (.and, rest)
  | '&' :: _ => .error .singleAmpersand
  | '|' :: '|' :: rest => .ok (.or, rest)
  | '|' :: _ => .error .singleBar
  | c :: _ => .error (.unexpectedCharacter c)
  | [] => .error (.unexpectedCharacter ' ')

/-- The token at the front of a text that starts with `c`, and what follows it. -/
def readToken (c : Char) (rest : List Char) : Except LexCause (Token × List Char) :=
  if c = '\'' then
    match readText rest with
    | some (text, rest) => .ok (.text (String.ofList text), rest)
    | none => .error .unterminatedText
  else if c = '-' || c.isDigit then
    let text := numberText (c :: rest)
    match numberOf? text with
    | some value => .ok (.number value, (c :: rest).drop text.length)
    | none => .error (.invalidNumber (String.ofList text))
  else if isNameStart c then
    .ok (.ofWord (String.ofList (c :: rest.takeWhile isNameChar)), rest.dropWhile isNameChar)
  else
    match readSymbol (c :: rest) with
    | .ok (symbol, rest) => .ok (.symbol symbol, rest)
    | .error cause => .error cause

/-- The tokens of a text. Each token takes at least one character, so as much fuel as there are
characters is enough. -/
def scan (position : Nat) (cs : List Char) : Nat → Except LexError (List Token)
  | 0 => .ok []
  | fuel + 1 =>
    match cs with
    | [] => .ok []
    | c :: rest =>
      if isBlank c then scan (position + c.utf8Size) rest fuel
      else
        match readToken c rest with
        | .error cause => .error ⟨cause, position⟩
        | .ok (token, after) => do
          let tokens ← scan (position + (byteSize (c :: rest) - byteSize after)) after fuel
          pure (token :: tokens)

/-- The tokens of a text. -/
def tokenize (text : String) : Except LexError (List Token) :=
  scan 0 text.toList text.toList.length

end Pipeline.Expression
