import Pipeline.Decimal.Reader
import Pipeline.Toml.Value

/-! The words of TOML: strings of all four kinds, numbers, and dates. -/

namespace Pipeline.Toml

/-- Blanks inside a line. -/
def isBlank (c : Char) : Bool := c = ' ' || c = '\t'

/-- The text from its first character that is not blank. -/
def skipBlanks (cs : List Char) : List Char := cs.dropWhile isBlank

/-- The text after a line end at its front. -/
def afterLineEnd? : List Char → Option (List Char)
  | '\n' :: rest => some rest
  | '\r' :: '\n' :: rest => some rest
  | _ => none

/-- A character that strings and comments may hold as it is. -/
def isPlain (c : Char) : Bool := c = '\t' || (0x20 ≤ c.toNat && c.toNat ≠ 0x7f)

/-- A digit in base sixteen. -/
def isHexDigit (c : Char) : Bool :=
  c.isDigit || ('a' ≤ c && c ≤ 'f') || ('A' ≤ c && c ≤ 'F')

/-- The value of digits in a base up to sixteen. -/
def valueOf (base : Nat) (digits : List Char) : Nat := (digitsValue? base digits).getD 0

/-- The character whose code has `count` digits at the front of the text. -/
def codePoint? (count : Nat) (cs : List Char) : Option Char :=
  let digits := cs.take count
  if digits.length = count && digits.all isHexDigit then
    let code := valueOf 16 digits
    if code.isValidChar then some (Char.ofNat code) else none
  else none

/-- The character of an escape, and how many characters after the backslash name it. -/
def escape? : List Char → Option (Char × Nat)
  | 'b' :: _ => some (Char.ofNat 8, 1)
  | 't' :: _ => some ('\t', 1)
  | 'n' :: _ => some ('\n', 1)
  | 'f' :: _ => some (Char.ofNat 12, 1)
  | 'r' :: _ => some ('\r', 1)
  | '"' :: _ => some ('"', 1)
  | '\\' :: _ => some ('\\', 1)
  | 'u' :: rest => (codePoint? 4 rest).map (·, 5)
  | 'U' :: rest => (codePoint? 8 rest).map (·, 9)
  | _ => none

/-- Text up to a quotation mark, with escapes, and what follows it. -/
def readQuoted (cs : List Char) : Except ReadError (List Char × List Char) :=
  match cs with
  | [] => .error .unclosedText
  | '"' :: rest => .ok ([], rest)
  | '\\' :: rest =>
    match escape? rest with
    | none => .error .badEscape
    | some (c, size) => do
      let (text, after) ← readQuoted (rest.drop size)
      pure (c :: text, after)
  | c :: rest =>
    if isPlain c then do
      let (text, after) ← readQuoted rest
      pure (c :: text, after)
    else .error .badText
termination_by cs.length
decreasing_by
  · simp only [List.length_drop, List.length_cons]; omega
  · simp

/-- Text up to an apostrophe, taken as it is, and what follows it. -/
def readLiteral : List Char → Except ReadError (List Char × List Char)
  | [] => .error .unclosedText
  | '\'' :: rest => .ok ([], rest)
  | c :: rest =>
    if isPlain c then do
      let (text, after) ← readLiteral rest
      pure (c :: text, after)
    else .error .badText

/-- Does a line end come after nothing but blanks? -/
def endsLine (cs : List Char) : Bool :=
  (afterLineEnd? (skipBlanks cs)).isSome

/-- Text of several lines up to three quotation marks, with escapes, and what follows them. Two
more marks may stand before those. A backslash at the end of a line leaves out all blanks and line
ends after it; `skipping` says that this goes on. -/
def readQuotedLines (skipping : Bool) (cs : List Char) :
    Except ReadError (List Char × List Char) :=
  match cs with
  | [] => .error .unclosedText
  | '"' :: '"' :: '"' :: '"' :: '"' :: rest => .ok (['"', '"'], rest)
  | '"' :: '"' :: '"' :: '"' :: rest => .ok (['"'], rest)
  | '"' :: '"' :: '"' :: rest => .ok ([], rest)
  | '\r' :: '\n' :: rest => do
    let (text, after) ← readQuotedLines skipping rest
    pure (if skipping then text else '\n' :: text, after)
  | '\n' :: rest => do
    let (text, after) ← readQuotedLines skipping rest
    pure (if skipping then text else '\n' :: text, after)
  | '\\' :: rest =>
    if endsLine rest then readQuotedLines true rest
    else
      match escape? rest with
      | none => .error .badEscape
      | some (c, size) => do
        let (text, after) ← readQuotedLines false (rest.drop size)
        pure (c :: text, after)
  | c :: rest =>
    if skipping && isBlank c then readQuotedLines true rest
    else if isPlain c then do
      let (text, after) ← readQuotedLines false rest
      pure (c :: text, after)
    else .error .badText
termination_by cs.length
decreasing_by
  all_goals simp only [List.length_drop, List.length_cons]; omega

/-- Text of several lines up to three apostrophes, taken as it is, and what follows them. -/
def readLiteralLines : List Char → Except ReadError (List Char × List Char)
  | [] => .error .unclosedText
  | '\'' :: '\'' :: '\'' :: '\'' :: '\'' :: rest => .ok (['\'', '\''], rest)
  | '\'' :: '\'' :: '\'' :: '\'' :: rest => .ok (['\''], rest)
  | '\'' :: '\'' :: '\'' :: rest => .ok ([], rest)
  | '\r' :: '\n' :: rest => do
    let (text, after) ← readLiteralLines rest
    pure ('\n' :: text, after)
  | '\n' :: rest => do
    let (text, after) ← readLiteralLines rest
    pure ('\n' :: text, after)
  | c :: rest =>
    if isPlain c then do
      let (text, after) ← readLiteralLines rest
      pure (c :: text, after)
    else .error .badText

/-- The text without a line end at its front. -/
def dropLineEnd (cs : List Char) : List Char := (afterLineEnd? cs).getD cs

/-- The string at the front of the text, if there is one. -/
def readText? (cs : List Char) : Option (Except ReadError (List Char × List Char)) :=
  match cs with
  | '"' :: '"' :: '"' :: rest => some (readQuotedLines false (dropLineEnd rest))
  | '"' :: rest => some (readQuoted rest)
  | '\'' :: '\'' :: '\'' :: rest => some (readLiteralLines (dropLineEnd rest))
  | '\'' :: rest => some (readLiteral rest)
  | _ => none

/-! Numbers -/

/-- The digits without the low lines between them; each of those has digits at both sides. -/
def bareDigits? (isDigit : Char → Bool) : List Char → Option (List Char)
  | [] => none
  | [c] => if isDigit c then some [c] else none
  | c :: '_' :: rest =>
    if isDigit c then (bareDigits? isDigit rest).map (c :: ·) else none
  | c :: rest => if isDigit c then (bareDigits? isDigit rest).map (c :: ·) else none

/-- Digits without a zero that could be left out. -/
def wholeDigits? (cs : List Char) : Option (List Char) :=
  match bareDigits? Char.isDigit cs with
  | some ('0' :: _ :: _) => none
  | digits => digits

/-- Integers have 64 bits. -/
def integer (negative : Bool) (magnitude : Nat) : Except ReadError Value :=
  let value : Int := if negative then -(magnitude : Int) else magnitude
  if -(twoTo 63 : Int) ≤ value && value < (twoTo 63 : Int) then .ok (.integer value)
  else .error .numberTooLarge

/-- The integer that a word writes. -/
def integer? (word : List Char) : Option (Except ReadError Value) :=
  let based (base : Nat) (isDigit : Char → Bool) (digits : List Char) :=
    (bareDigits? isDigit digits).map fun digits => integer false (valueOf base digits)
  match word with
  | '0' :: 'x' :: digits => based 16 isHexDigit digits
  | '0' :: 'o' :: digits => based 8 (fun c => '0' ≤ c && c ≤ '7') digits
  | '0' :: 'b' :: digits => based 2 (fun c => c = '0' || c = '1') digits
  | _ =>
    let (negative, digits) := splitSign word
    (wholeDigits? digits).map fun digits => integer negative (valueOf 10 digits)

/-- The exponent after the letter `e`, if there is one. -/
def exponent? : List Char → Option Int
  | [] => some 0
  | _ :: cs =>
    let (negative, digits) := splitSign cs
    (bareDigits? Char.isDigit digits).map fun digits =>
      if negative then -(valueOf 10 digits : Int) else valueOf 10 digits

/-- The digits after the point, if there is one. -/
def fraction? : List Char → Option (List Char)
  | [] => some []
  | _ :: cs => bareDigits? Char.isDigit cs

/-- The number with a point or an exponent that a word writes. One above all finite numbers is
refused, one below them is not. -/
def decimal? (word : List Char) : Option (Except ReadError Value) := do
  let (negative, magnitude) := splitSign word
  if magnitude = "inf".toList then return .ok (.decimal (.infinite negative))
  if magnitude = "nan".toList then return .ok (.decimal .nan)
  let mantissa := magnitude.takeWhile fun c => c ≠ 'e' && c ≠ 'E'
  let whole ← wholeDigits? (mantissa.takeWhile (· ≠ '.'))
  let fraction ← fraction? (mantissa.dropWhile (· ≠ '.'))
  let exponent ← exponent? (magnitude.drop mantissa.length)
  let value := Double.ofDecimal negative (valueOf 10 (whole ++ fraction))
    (exponent - fraction.length)
  return if value = .infinite false then .error .numberTooLarge else .ok (.decimal value)

/-! Dates -/

/-- The number of two digits. -/
def pair? (a b : Char) : Option Nat :=
  if a.isDigit && b.isDigit then some (valueOf 10 [a, b]) else none

/-- The days of a month. -/
def daysOf (year month : Nat) : Nat :=
  match month with
  | 2 => if year % 4 = 0 && (year % 100 ≠ 0 || year % 400 = 0) then 29 else 28
  | 4 | 6 | 9 | 11 => 30
  | _ => 31

/-- The text after a date at its front. -/
def afterDate? : List Char → Option (List Char)
  | a :: b :: c :: d :: '-' :: e :: f :: '-' :: g :: h :: rest => do
    let century ← pair? a b
    let year ← pair? c d
    let month ← pair? e f
    let day ← pair? g h
    guard (1 ≤ month && month ≤ 12 && 1 ≤ day && day ≤ daysOf (century * 100 + year) month)
    pure rest
  | _ => none

/-- The text after hours and minutes at its front. -/
def afterMinutes? : List Char → Option (List Char)
  | a :: b :: ':' :: c :: d :: rest => do
    let hours ← pair? a b
    let minutes ← pair? c d
    guard (hours ≤ 23 && minutes ≤ 59)
    pure rest
  | _ => none

/-- The text after a time of day at its front. -/
def afterTime? (cs : List Char) : Option (List Char) := do
  match ← afterMinutes? cs with
  | ':' :: a :: b :: rest =>
    let seconds ← pair? a b
    guard (seconds ≤ 60)
    match rest with
    | '.' :: c :: rest => if c.isDigit then pure (rest.dropWhile Char.isDigit) else none
    | rest => pure rest
  | _ => none

/-- Is the text nothing, or a distance from universal time? -/
def isOffset : List Char → Bool
  | [] => true
  | ['Z'] | ['z'] => true
  | '+' :: rest | '-' :: rest => afterMinutes? rest == some []
  | _ => false

/-- Is the text a date, a time of day, or both? -/
def isMoment (cs : List Char) : Bool :=
  match afterDate? cs with
  | some [] => true
  | some (c :: rest) =>
    (c = 'T' || c = 't' || c = ' ') && (afterTime? rest).elim false isOffset
  | none => afterTime? cs == some []

/-- A character of numbers and dates. -/
def isWordChar (c : Char) : Bool :=
  c.isAlphanum || c = '_' || c = '+' || c = '-' || c = '.' || c = ':'

/-- The word at the front of the text, and what follows it. A date and a time of day with one
space between them are one word. -/
def splitWord (cs : List Char) : List Char × List Char :=
  let word := cs.takeWhile isWordChar
  match cs.drop word.length with
  | ' ' :: rest =>
    let time := rest.takeWhile isWordChar
    if afterDate? word == some [] && (afterTime? time).isSome then
      (word ++ ' ' :: time, rest.drop time.length)
    else (word, ' ' :: rest)
  | rest => (word, rest)

/-- The value that a word writes. -/
def wordValue (word : List Char) : Except ReadError Value :=
  if word = "true".toList then .ok (.boolean true)
  else if word = "false".toList then .ok (.boolean false)
  else if isMoment word then .ok (.moment (String.ofList word))
  else
    match integer? word with
    | some value => value
    | none => (decimal? word).getD (.error .badValue)

end Pipeline.Toml
