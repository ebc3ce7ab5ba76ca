import Pipeline.Json.Basic

/-! Reading JSON text. Nesting is limited, a repeated key keeps its last value, and a number with a
fraction or an exponent is rounded in two steps: its digits to a floating-point number, and that
times or over a power of ten. -/

namespace Pipeline.Json

/-- Why a text is no JSON value. -/
inductive ReadError where
  | endOfText
  | expectedValue
  | expectedKey
  | expectedColon
  | expectedSeparator
  | trailingText
  | badNumber
  | numberTooLarge
  | badEscape
  | controlCharacter
  | loneSurrogate
  | nestingTooDeep
  deriving Repr, DecidableEq

/-- The wording of a failure. -/
def ReadError.message : ReadError → String
  | endOfText => "unexpected end of text"
  | expectedValue => "expected a value"
  | expectedKey => "a key must be a string"
  | expectedColon => "expected ':'"
  | expectedSeparator => "expected ',' or the end of the list"
  | trailingText => "unexpected text after the value"
  | badNumber => "invalid number"
  | numberTooLarge => "number out of range"
  | badEscape => "invalid escape"
  | controlCharacter => "control character in a string"
  | loneSurrogate => "lone surrogate in an escape"
  | nestingTooDeep => "nesting limit exceeded"

/-- Text inside JSON may have blanks, tabs and line ends between its tokens. -/
def isSpace (c : Char) : Bool :=
  c = ' ' || c = '\t' || c = '\n' || c = '\r'

/-- The text from its first character that is not space. -/
def skipSpace (cs : List Char) : List Char := cs.dropWhile isSpace

/-- The value of a digit in base sixteen. -/
def hexDigit? (c : Char) : Option Nat :=
  if c.isDigit then some (c.toNat - '0'.toNat)
  else if 'a' ≤ c && c ≤ 'f' then some (c.toNat - 'a'.toNat + 10)
  else if 'A' ≤ c && c ≤ 'F' then some (c.toNat - 'A'.toNat + 10)
  else none

/-- The number written with four digits in base sixteen. -/
def hexQuad? (a b c d : Char) : Option Nat := do
  let a ← hexDigit? a
  let b ← hexDigit? b
  let c ← hexDigit? c
  let d ← hexDigit? d
  pure (((a * 16 + b) * 16 + c) * 16 + d)

/-- The characters up to the closing quotation mark, and the text after it. -/
def readString : List Char → Except ReadError (List Char × List Char)
  | [] => .error .endOfText
  | '"' :: rest => .ok ([], rest)
  | '\\' :: 'u' :: a :: b :: c :: d :: '\\' :: 'u' :: e :: f :: g :: h :: rest =>
    match hexQuad? a b c d with
    | none => .error .badEscape
    | some high =>
      if 0xd800 ≤ high && high < 0xdc00 then
        match hexQuad? e f g h with
        | none => .error .badEscape
        | some low =>
          if 0xdc00 ≤ low && low < 0xe000 then do
            let (text, rest) ← readString rest
            pure (Char.ofNat (0x10000 + (high - 0xd800) * 0x400 + (low - 0xdc00)) :: text, rest)
          else .error .loneSurrogate
      else if 0xdc00 ≤ high && high < 0xe000 then .error .loneSurrogate
      else do
        let (text, rest) ← readString ('\\' :: 'u' :: e :: f :: g :: h :: rest)
        pure (Char.ofNat high :: text, rest)
  | '\\' :: 'u' :: a :: b :: c :: d :: rest =>
    match hexQuad? a b c d with
    | none => .error .badEscape
    | some code =>
      if 0xd800 ≤ code && code < 0xe000 then .error .loneSurrogate
      else do
        let (text, rest) ← readString rest
        pure (Char.ofNat code :: text, rest)
  | '\\' :: c :: rest =>
    let escaped : Option Char :=
      match c with
      | '"' => some '"'
      | '\\' => some '\\'
      | '/' => some '/'
      | 'b' => some (Char.ofNat 8)
      | 'f' => some (Char.ofNat 12)
      | 'n' => some '\n'
      | 'r' => some '\r'
      | 't' => some '\t'
      | _ => none
    match escaped with
    | none => .error .badEscape
    | some c => do
      let (text, rest) ← readString rest
      pure (c :: text, rest)
  | c :: rest =>
    if c.toNat < 0x20 then .error .controlCharacter
    else do
      let (text, rest) ← readString rest
      pure (c :: text, rest)
termination_by cs => cs.length

/-- The greatest whole number. -/
def greatestInt : Nat := twoTo 64 - 1

/-- The number of a row of digits. -/
def digitsValue (digits : List Char) : Nat :=
  digits.foldl (fun n c => n * 10 + (c.toNat - '0'.toNat)) 0

/-- The longest row of digits whose number fits in 64 bits, as that number, and the digits left. -/
def significand (acc : Nat) : List Char → Nat × List Char
  | [] => (acc, [])
  | c :: rest =>
    let next := acc * 10 + (c.toNat - '0'.toNat)
    if next ≤ greatestInt then significand next rest else (acc, c :: rest)

/-- The magnitude `digits * 10 ^ exponent`, rounded after each step. A step takes care of at most
308 decimal places, so the recursion ends when the exponent has come near zero or the number is
zero. -/
def scale (value : Double) (exponent : Int) : Nat → Except ReadError Double
  | 0 => .ok Double.zero
  | fuel + 1 =>
    if exponent.natAbs ≤ 308 then
      let power := Double.ofDecimal false 1 exponent.natAbs
      if exponent ≥ 0 then
        match value.mul power with
        | .infinite _ => .error .numberTooLarge
        | product => .ok product
      else .ok (value.div power)
    else if !value.isNonzero then .ok value
    else if exponent ≥ 0 then .error .numberTooLarge
    else scale (value.div (Double.ofDecimal false 1 308)) (exponent + 308) fuel

/-- The floating-point number `± digits * 10 ^ exponent`. Three steps of 308 places bring every
number of 64 bits to zero. -/
def floatOf (negative : Bool) (digits : Nat) (exponent : Int) : Except ReadError Json := do
  let value ← scale (Double.ofInt digits) exponent 5
  pure (number (.float (if negative then value.neg else value)))

/-- The exponent part of a number, which starts after its letter. -/
def readExponent (negative : Bool) (digits : Nat) (exponent : Int) (cs : List Char) :
    Except ReadError (Json × List Char) := do
  let (down, cs) := match cs with
    | '+' :: rest => (false, rest)
    | '-' :: rest => (true, rest)
    | _ => (false, cs)
  let power := cs.takeWhile Char.isDigit
  let rest := cs.dropWhile Char.isDigit
  if power.isEmpty then throw .badNumber
  let size := digitsValue power
  if size > twoTo 31 - 1 then
    if digits != 0 && !down then throw .numberTooLarge
    let value := if negative then Double.zero.neg else Double.zero
    pure (number (.float value), rest)
  else
    let value ← floatOf negative digits (if down then exponent - size else exponent + size)
    pure (value, rest)

/-- The rest of a number after the digits of its whole part. -/
def readFraction (negative : Bool) (whole : List Char) (cs : List Char) :
    Except ReadError (Json × List Char) := do
  let (digits, unread) := significand 0 whole
  let exponent : Int := unread.length
  match cs with
  | '.' :: cs =>
    let places := cs.takeWhile Char.isDigit
    let rest := cs.dropWhile Char.isDigit
    if places.isEmpty then throw .badNumber
    let (digits, left) := significand digits places
    let exponent := exponent - ((places.length - left.length : Nat) : Int)
    match rest with
    | 'e' :: rest | 'E' :: rest => readExponent negative digits exponent rest
    | _ => pure (← floatOf negative digits exponent, rest)
  | 'e' :: rest | 'E' :: rest => readExponent negative digits exponent rest
  | _ =>
    if !unread.isEmpty then pure (← floatOf negative digits exponent, cs)
    else if !negative then pure (int digits, cs)
    else if digits = 0 || digits > twoTo 63 then
      pure (number (.float (Double.ofInt digits).neg), cs)
    else pure (int (-(digits : Int)), cs)

/-- A number, from its sign or first digit on. -/
def readNumber (cs : List Char) : Except ReadError (Json × List Char) :=
  let (negative, cs) := match cs with
    | '-' :: rest => (true, rest)
    | _ => (false, cs)
  match cs with
  | '0' :: rest =>
    if rest.head?.any Char.isDigit then .error .badNumber
    else readFraction negative ['0'] rest
  | c :: _ =>
    if c.isDigit then
      readFraction negative (cs.takeWhile Char.isDigit) (cs.dropWhile Char.isDigit)
    else .error .badNumber
  | [] => .error .endOfText

/-- The words that stand for values. -/
def readWord? : List Char → Option (Json × List Char)
  | 'n' :: 'u' :: 'l' :: 'l' :: rest => some (null, rest)
  | 't' :: 'r' :: 'u' :: 'e' :: rest => some (bool true, rest)
  | 'f' :: 'a' :: 'l' :: 's' :: 'e' :: rest => some (bool false, rest)
  | _ => none

mutual

/-- A value at the front of the text. The fuel is more than the number of characters and values
that are left to read. -/
def readValue (depth : Nat) (cs : List Char) : Nat → Except ReadError (Json × List Char)
  | 0 => .error .endOfText
  | fuel + 1 =>
    match skipSpace cs with
    | [] => .error .endOfText
    | '"' :: rest => do
      let (text, rest) ← readString rest
      pure (string (String.ofList text), rest)
    | '[' :: rest =>
      match depth with
      | 0 => .error .nestingTooDeep
      | depth + 1 =>
        match skipSpace rest with
        | ']' :: rest => .ok (array [], rest)
        | rest => do
          let (items, rest) ← readItems depth rest fuel
          pure (array items, rest)
    | '\x7b' :: rest =>
      match depth with
      | 0 => .error .nestingTooDeep
      | depth + 1 =>
        match skipSpace rest with
        | '\x7d' :: rest => .ok (object [], rest)
        | rest => do
          let (fields, rest) ← readFields depth rest fuel
          pure (ofFields fields, rest)
    | c :: rest =>
      if c = '-' || c.isDigit then readNumber (c :: rest)
      else
        match readWord? (c :: rest) with
        | some result => .ok result
        | none => .error .expectedValue

/-- The items of an array up to its closing bracket. -/
def readItems (depth : Nat) (cs : List Char) : Nat → Except ReadError (List Json × List Char)
  | 0 => .error .endOfText
  | fuel + 1 => do
    let (item, rest) ← readValue depth cs fuel
    match skipSpace rest with
    | ']' :: rest => pure ([item], rest)
    | ',' :: rest =>
      let (items, rest) ← readItems depth rest fuel
      pure (item :: items, rest)
    | [] => throw .endOfText
    | _ => throw .expectedSeparator

/-- The fields of an object up to its closing brace. -/
def readFields (depth : Nat) (cs : List Char) :
    Nat → Except ReadError (List (String × Json) × List Char)
  | 0 => .error .endOfText
  | fuel + 1 => do
    match skipSpace cs with
    | '"' :: rest =>
      let (key, rest) ← readString rest
      match skipSpace rest with
      | ':' :: rest =>
        let (value, rest) ← readValue depth rest fuel
        match skipSpace rest with
        | '\x7d' :: rest => pure ([(String.ofList key, value)], rest)
        | ',' :: rest =>
          let (fields, rest) ← readFields depth rest fuel
          pure ((String.ofList key, value) :: fields, rest)
        | [] => throw .endOfText
        | _ => throw .expectedSeparator
      | _ => throw .expectedColon
    | _ => throw .expectedKey

end

/-- The deepest nesting of a value that is read. -/
def nestingLimit : Nat := 127

/-- Reads a whole text as one value. -/
def parse (text : String) : Except ReadError Json := do
  let cs := text.toList
  let (value, rest) ← readValue nestingLimit cs (2 * cs.length + 2)
  if (skipSpace rest).isEmpty then pure value else throw .trailingText

end Pipeline.Json
