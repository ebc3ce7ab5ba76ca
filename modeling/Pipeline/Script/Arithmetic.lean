import Pipeline.Double
import Pipeline.Script.Octets

/-! Arithmetic of scripts, on integers of 64 bits: expressions, how they are read, and what their
operators do. The reader of bash knows more operators than the plain one. -/

namespace Pipeline.Script

/-- A variable in an expression, with the text that says which item of it is meant. -/
structure Place where
  name : String
  item : Octets
  deriving Repr, DecidableEq

/-- An arithmetic expression. An operator that can fail keeps the text after it. -/
inductive Arithmetic where
  | number (value : Int)
  | named (place : Place)
  | negative (operand : Arithmetic)
  | complement (operand : Arithmetic)
  | negation (operand : Arithmetic)
  | binary (operator : String) (rest : Octets) (left right : Arithmetic)
  | both (left right : Arithmetic)
  | either (left right : Arithmetic)
  | choice (test yes no : Arithmetic)
  /-- The second value counts. -/
  | next (first second : Arithmetic)
  /-- An assignment, of the value itself or of what an operator makes of the old and the new one. -/
  | assign (place : Place) (operator : Option String) (rest : Octets) (value : Arithmetic)
  /-- A step up or down; the value is the old one or the new one. -/
  | step (place : Place) (change : Int) (old : Bool)

/-- Why an expression has no value. Where it lies is given by the text from there on. -/
inductive ArithmeticFault where
  | noOperand (rest : Octets)
  | noOperator (rest : Octets)
  | notClosed (rest : Octets)
  | noColon (rest : Octets)
  | notAssignable (rest : Octets)
  /-- A digit of a number that its base does not have. -/
  | badDigit (number : Octets)
  | divisionByZero (rest : Octets)
  | negativeExponent (rest : Octets)
  /-- The text of a variable is no number. -/
  | badNumber (text : Octets)
  deriving Repr, DecidableEq

namespace Arithmetic

/-- The integer of 64 bits that is left of any integer. -/
def wrap (n : Int) : Int :=
  (n + twoTo 63) % twoTo 64 - twoTo 63

/-- The binary operators by how tightly they bind, the loosest first. -/
def levels : List (List String) :=
  [["|"], ["^"], ["&"], ["==", "!="], ["<=", ">=", "<", ">"], ["<<", ">>"], ["+", "-"],
    ["*", "/", "%"]]

/-- The operators that can stand before an equals sign. -/
def assignable : List String := ["<<", ">>", "*", "/", "%", "+", "-", "&", "^", "|"]

/-- Is the character a blank between the tokens of an expression? -/
def isBlank (c : Char) : Bool := c = ' ' || c = '\t' || c = '\n'

/-- The text after blanks. -/
def skip (cs : Octets) : Octets := cs.dropWhile isBlank

/-- The value of digits in a base. From base 37 on, the letters in upper case are digits of their
own. -/
def digitsValue? (base : Nat) (digits : Octets) : Option Int :=
  digits.foldlM (fun (n : Int) c =>
    let digit :=
      if c.isDigit then c.toNat - '0'.toNat
      else if c.isLower then c.toNat - 'a'.toNat + 10
      else if c.isUpper then c.toNat - 'A'.toNat + (if base ≤ 36 then 10 else 36)
      else if c = '@' then 62
      else if c = '_' then 63
      else base
    if digit < base then some (n * base + digit) else none) 0

/-- The value of a number: decimal, octal after a zero, in base sixteen after `0x`, or in the base
before a hash sign. -/
def number? (word : Octets) : Option Int :=
  let front := word.takeWhile (· ≠ '#')
  match word with
  | '0' :: 'x' :: digits | '0' :: 'X' :: digits => digitsValue? 16 digits
  | word =>
    if front.length < word.length then
      (String.ofList front).toNat?.bind fun base => digitsValue? base (word.drop (front.length + 1))
    else
      match word with
      | '0' :: d :: digits => digitsValue? 8 (d :: digits)
      | digits => digitsValue? 10 digits

/-- The number at the front of a text, at most the greatest one, as far as its digits fit its base,
and what follows it. -/
def leadingNumber (cs : Octets) : Int × Octets :=
  let take (base : Nat) (cs : Octets) : Int × Octets :=
    let digits := cs.takeWhile fun c => (digitsValue? base [c]).isSome
    (min ((digitsValue? base digits).getD 0) (twoTo 63 - 1), cs.drop digits.length)
  match cs with
  | '0' :: x :: d :: rest =>
    if x = 'x' || x = 'X' then
      if (digitsValue? 16 [d]).isSome then take 16 (d :: rest) else (0, x :: d :: rest)
    else take 8 cs
  | '0' :: _ => take 8 cs
  | cs => take 10 cs

/-- The number at the front of a text whose first character is a digit, and what follows it. -/
def readNumber (isBash : Bool) (cs : Octets) : Except ArithmeticFault (Int × Octets) :=
  if isBash then
    let word := cs.takeWhile fun c => Octets.isNameChar c || c = '#' || c = '@'
    match number? word with
    | some n => .ok (n, cs.drop word.length)
    | none => .error (.badDigit word)
  else .ok (leadingNumber cs)

/-- The operator of a level at the front of the text, and what follows it. An operator that an
equals sign turns into an assignment does not count, nor does half of a longer one. -/
def operator? (isBash : Bool) (level : List String) (cs : Octets) : Option (String × Octets) := do
  let operator ← level.find? fun o => o.toList.isPrefixOf cs
  let rest := cs.drop operator.length
  let next := rest.head?
  let doubled := if isBash then ["|", "&", "<", ">", "*"] else ["|", "&", "<", ">"]
  if assignable.contains operator && next = some '=' then none
  else if doubled.contains operator && next = operator.toList.head? then none
  else some (operator, rest)

/-- The assignment operator at the front of the text: the operator before the equals sign. -/
def assignment? (cs : Octets) : Option (Option String × Octets) :=
  match cs with
  | '=' :: '=' :: _ => none
  | '=' :: rest => some (none, rest)
  | cs => do
    let operator ← assignable.find? fun o => (o ++ "=").toList.isPrefixOf cs
    pure (some operator, cs.drop (operator.length + 1))

/-- The text up to the bracket that closes an item, and what follows it. -/
def splitItem : Nat → Octets → Option (Octets × Octets)
  | _, [] => none
  | depth, c :: rest =>
    if c = ']' && depth = 0 then some ([], rest)
    else
      let depth := if c = '[' then depth + 1 else if c = ']' then depth - 1 else depth
      (splitItem depth rest).map fun (text, rest) => (c :: text, rest)

/-- The variable at the front of the text, and what follows it. -/
def place? (isBash : Bool) (cs : Octets) : Option (Place × Octets) :=
  let word := cs.takeWhile Octets.isNameChar
  let rest := cs.drop word.length
  let name := String.ofList word
  if !Octets.isName word then none
  else
    match rest with
    | '[' :: inner =>
      match if isBash then splitItem 0 inner else none with
      | some (item, rest) => some (⟨name, item⟩, rest)
      | none => some (⟨name, []⟩, rest)
    | rest => some (⟨name, []⟩, rest)

/-- What a reading step gives. -/
abbrev Read := Except ArithmeticFault (Arithmetic × Octets)

mutual

/-- Expressions with commas between them at the front of the text. -/
def readAll (isBash : Bool) : Nat → Octets → Read
  | 0, cs => .error (.noOperand cs)
  | fuel + 1, cs => do
    let (first, rest) ← readTop isBash fuel cs
    match isBash, skip rest with
    | true, ',' :: rest =>
      let (second, rest) ← readAll isBash fuel rest
      pure (.next first second, rest)
    | _, _ => pure (first, rest)

/-- An assignment or a choice at the front of the text. -/
def readTop (isBash : Bool) : Nat → Octets → Read
  | 0, cs => .error (.noOperand cs)
  | fuel + 1, cs =>
    let cs := skip cs
    let assigned := do
      let (place, rest) ← place? isBash cs
      let (operator, rest) ← assignment? (skip rest)
      pure (place, operator, rest)
    match assigned with
    | some (place, operator, rest) => do
      let (value, after) ← readTop isBash fuel rest
      pure (.assign place operator rest value, after)
    | none => do
      let (test, rest) ← readEither isBash fuel cs
      match skip rest with
      | '?' :: rest =>
        let (yes, rest) ← readAll isBash fuel rest
        match skip rest with
        | ':' :: rest =>
          let (no, rest) ← readTop isBash fuel rest
          pure (.choice test yes no, rest)
        | rest => throw (.noColon rest)
      | rest =>
        if isBash && (assignment? rest).isSome then throw (.notAssignable rest)
        else pure (test, rest)

/-- A chain of `||` at the front of the text. -/
def readEither (isBash : Bool) : Nat → Octets → Read
  | 0, cs => .error (.noOperand cs)
  | fuel + 1, cs => do
    let (left, rest) ← readBoth isBash fuel cs
    match skip rest with
    | '|' :: '|' :: rest =>
      let (right, rest) ← readEither isBash fuel rest
      pure (.either left right, rest)
    | rest => pure (left, rest)

/-- A chain of `&&` at the front of the text. -/
def readBoth (isBash : Bool) : Nat → Octets → Read
  | 0, cs => .error (.noOperand cs)
  | fuel + 1, cs => do
    let (left, rest) ← readLevel isBash fuel levels cs
    match skip rest with
    | '&' :: '&' :: rest =>
      let (right, rest) ← readBoth isBash fuel rest
      pure (.both left right, rest)
    | rest => pure (left, rest)

/-- The operators of these levels at the front of the text. -/
def readLevel (isBash : Bool) : Nat → List (List String) → Octets → Read
  | 0, _, cs => .error (.noOperand cs)
  | fuel + 1, [], cs => readPower isBash fuel cs
  | fuel + 1, level :: tighter, cs => do
    let (left, rest) ← readLevel isBash fuel tighter cs
    readLevelAfter isBash fuel level tighter left rest

/-- What follows the left operand at a level. -/
def readLevelAfter (isBash : Bool) :
    Nat → List String → List (List String) → Arithmetic → Octets → Read
  | 0, _, _, _, cs => .error (.noOperand cs)
  | fuel + 1, level, tighter, left, cs =>
    match operator? isBash level (skip cs) with
    | none => .ok (left, cs)
    | some (operator, rest) => do
      let (right, after) ← readLevel isBash fuel tighter rest
      readLevelAfter isBash fuel level tighter (.binary operator rest left right) after

/-- Operands with `**` between them at the front of the text, of which the last two belong
together. -/
def readPower (isBash : Bool) : Nat → Octets → Read
  | 0, cs => .error (.noOperand cs)
  | fuel + 1, cs => do
    let (left, rest) ← readUnary isBash fuel cs
    match isBash, skip rest with
    | true, '*' :: '*' :: rest =>
      let (right, after) ← readPower isBash fuel rest
      pure (.binary "**" rest left right, after)
    | _, _ => pure (left, rest)

/-- A sign, a number, a variable or brackets at the front of the text. -/
def readUnary (isBash : Bool) : Nat → Octets → Read
  | 0, cs => .error (.noOperand cs)
  | fuel + 1, cs =>
    let prefixed (make : Arithmetic → Arithmetic) (rest : Octets) : Read := do
      let (operand, rest) ← readUnary isBash fuel rest
      pure (make operand, rest)
    let stepped (change : Int) (make : Arithmetic → Arithmetic) (sign : Char) (rest : Octets) :
        Read :=
      match if isBash then place? isBash (skip rest) else none with
      | some (place, rest) => .ok (.step place change false, rest)
      | none => prefixed make (sign :: rest)
    match skip cs with
    | '+' :: '+' :: rest => stepped 1 id '+' rest
    | '-' :: '-' :: rest => stepped (-1) .negative '-' rest
    | '+' :: rest => prefixed id rest
    | '-' :: rest => prefixed .negative rest
    | '~' :: rest => prefixed .complement rest
    | '!' :: rest => prefixed .negation rest
    | '(' :: rest => do
      let (inner, rest) ← readAll isBash fuel rest
      match skip rest with
      | ')' :: rest => pure (inner, rest)
      | rest => throw (.notClosed rest)
    | cs =>
      match place? isBash cs with
      | some (place, rest) =>
        match isBash, skip rest with
        | true, '+' :: '+' :: rest => .ok (.step place 1 true, rest)
        | true, '-' :: '-' :: rest => .ok (.step place (-1) true, rest)
        | _, _ => .ok (.named place, rest)
      | none =>
        if cs.head?.any Char.isDigit then do
          let (n, rest) ← readNumber isBash cs
          pure (.number n, rest)
        else .error (.noOperand cs)

end

/-- The expression that a text writes. Nothing at all is zero for bash. -/
def read (isBash : Bool) (text : Octets) : Except ArithmeticFault Arithmetic :=
  if isBash && (skip text).isEmpty then .ok (.number 0)
  else do
    let (expression, rest) ← readAll isBash (16 * text.length + 64) text
    if (skip rest).isEmpty then pure expression else throw (.noOperator (skip rest))

/-- How many octets the token at the front of a text takes up. -/
def tokenLength (cs : Octets) : Nat :=
  let word := cs.takeWhile Octets.isNameChar
  if !word.isEmpty then word.length
  else
    let long := ["<<=", ">>=", "**", "++", "--", "<<", ">>", "<=", ">=", "==", "!=", "&&", "||",
      "*=", "/=", "%=", "+=", "-=", "&=", "^=", "|="]
    ((long.find? fun o => o.toList.isPrefixOf cs).map String.length).getD 1

/-- The text from its last token on. -/
def lastToken : Nat → Octets → Octets
  | 0, cs => cs
  | fuel + 1, cs =>
    let cs := skip cs
    let rest := cs.drop (tokenLength cs)
    if (skip rest).isEmpty then cs else lastToken fuel rest

/-- The number of a truth value. -/
def truth (b : Bool) : Int := if b then 1 else 0

/-- A power, of which the last 64 bits are kept. `steps` are more than the bits of the exponent. -/
def power (a : Int) : Nat → Nat → Int
  | 0, _ => 1
  | steps + 1, n =>
    let half := power a steps (n / 2)
    wrap (half * half * if n % 2 = 1 then a else 1)

/-- What a binary operator makes of two numbers, unless it fails before the text after it. -/
def apply (operator : String) (rest : Octets) (a b : Int) : Except ArithmeticFault Int :=
  let bits (f : Nat → Nat → Nat) : Int :=
    wrap (f (a % twoTo 64).toNat (b % twoTo 64).toNat)
  match operator with
  | "+" => .ok (wrap (a + b))
  | "-" => .ok (wrap (a - b))
  | "*" => .ok (wrap (a * b))
  | "**" =>
    if b < 0 then .error (.negativeExponent rest)
    else .ok (power a 64 b.toNat)
  | "/" => if b = 0 then .error (.divisionByZero rest) else .ok (wrap (a.tdiv b))
  | "%" => if b = 0 then .error (.divisionByZero rest) else .ok (a.tmod b)
  | "<<" => .ok (wrap (a * twoTo (b % 64).toNat))
  | ">>" => .ok (a / twoTo (b % 64).toNat)
  | "&" => .ok (bits (· &&& ·))
  | "|" => .ok (bits (· ||| ·))
  | "^" => .ok (bits (· ^^^ ·))
  | "==" => .ok (truth (a == b))
  | "!=" => .ok (truth (a != b))
  | "<=" => .ok (truth (a ≤ b))
  | ">=" => .ok (truth (a ≥ b))
  | "<" => .ok (truth (a < b))
  | _ => .ok (truth (a > b))

end Arithmetic

namespace ArithmeticFault

/-- The wording of a fault of bash in a text, after the text. -/
def bashMessage (text : Octets) (fault : ArithmeticFault) : String :=
  let near (why : String) (rest : Octets) : String :=
    let rest := if rest.isEmpty then Arithmetic.lastToken (text.length + 1) text else rest
    why ++ " (error token is \"" ++ rest.toText ++ "\")"
  let operators := "=><+-*/%!()&|^~?:,".toList
  match fault with
  | .noOperand rest => near "syntax error: operand expected" rest
  | .noOperator rest =>
    if rest.head?.all fun c => operators.contains c || Octets.isNameChar c then
      near "syntax error in expression" rest
    else near "syntax error: invalid arithmetic operator" rest
  | .notClosed rest => near "missing \x60)'" rest
  | .noColon rest => near "\x60:' expected for conditional expression" rest
  | .notAssignable rest => near "attempted assignment to non-variable" rest
  | .badDigit word => near "value too great for base" word
  | .divisionByZero rest => near "division by 0" (Arithmetic.skip rest)
  | .negativeExponent rest => near "exponent less than 0" (Arithmetic.skip rest)
  | .badNumber text => near "syntax error: invalid arithmetic operator" text

/-- The wording of a fault of the plain shell in a text. -/
def plainMessage (text : Octets) (fault : ArithmeticFault) : String :=
  let wrong (why : String) : String :=
    "arithmetic expression: " ++ why ++ ": \"" ++ text.toText ++ "\""
  match fault with
  | .noOperand _ => wrong "expecting primary"
  | .notClosed _ => wrong "expecting ')'"
  | .noColon _ => wrong "expecting ':'"
  | .divisionByZero _ => wrong "division by zero"
  | .badNumber text => "Illegal number: " ++ text.toText
  | _ => wrong "expecting EOF"

end ArithmeticFault

end Pipeline.Script
