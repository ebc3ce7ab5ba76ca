import Pipeline.Script.Call
import Pipeline.Script.Regex

/-! `expr`: terms whose operators and operands are words. -/

namespace Pipeline.Script.Terms

/-- Why a term has no value. -/
inductive Fault where
  | noArgument (after : Octets)
  | unexpected (word : Octets)
  | notNumber
  | divisionByZero
  deriving Repr, DecidableEq

/-- The wording of a fault. -/
def Fault.message : Fault → String
  | noArgument after => "syntax error: missing argument after '" ++ after.toText ++ "'"
  | unexpected word => "syntax error: unexpected argument '" ++ word.toText ++ "'"
  | notNumber => "non-integer argument"
  | divisionByZero => "division by zero"

/-- What a reading step gives: a value and the words that are left. -/
abbrev Read := Except Fault (Octets × List Octets)

/-- The integer that a word writes. -/
def integer? (word : Octets) : Option Int :=
  match word with
  | '-' :: d :: digits => (String.ofList (d :: digits)).toNat?.map fun (n : Nat) => -(n : Int)
  | digits => (String.ofList digits).toNat?.map fun (n : Nat) => (n : Int)

/-- Does a value count as nothing? -/
def isNothing (value : Octets) : Bool := value.isEmpty || integer? value = some 0

/-- The operators by how tightly they bind, the loosest first. -/
def levels : List (List String) :=
  [["|"], ["&"], ["<", "<=", "=", "==", "!=", ">=", ">"], ["+", "-"], ["*", "/", "%"], [":"]]

/-- What a text fits of an expression that starts at its front: the first group, or the size. -/
def fitting (text pattern : Octets) : Octets :=
  match Regex.read? false pattern with
  | none => ['0']
  | some regex =>
    let hasGroup := (pattern.zip (pattern.drop 1)).contains ('\\', '(')
    match Regex.find? false (.sequence (.edge .lineStart) regex) text with
    | some found => if hasGroup then found.group text 1 else Octets.ofInt found.size
    | none => if hasGroup then [] else ['0']

/-- What an operator makes of two values. -/
def apply (operator : String) (a b : Octets) : Except Fault Octets :=
  let truth (x : Bool) : Octets := if x then ['1'] else ['0']
  let onNumbers (f : Int → Int → Except Fault Octets) : Except Fault Octets :=
    match integer? a, integer? b with
    | some x, some y => f x y
    | _, _ => .error .notNumber
  let ordered (test : Ordering → Bool) : Except Fault Octets :=
    match integer? a, integer? b with
    | some x, some y => .ok (truth (test (compare x y)))
    | _, _ =>
      .ok (truth (test (if a = b then .eq else if Octets.lessOrEqual a b then .lt else .gt)))
  match operator with
  | "|" => .ok (if isNothing a then (if isNothing b then ['0'] else b) else a)
  | "&" => .ok (if isNothing a || isNothing b then ['0'] else a)
  | "<" => ordered (· == .lt)
  | "<=" => ordered (· != .gt)
  | "=" | "==" => ordered (· == .eq)
  | "!=" => ordered (· != .eq)
  | ">=" => ordered (· != .lt)
  | ">" => ordered (· == .gt)
  | "+" => onNumbers fun x y => .ok (Octets.ofInt (x + y))
  | "-" => onNumbers fun x y => .ok (Octets.ofInt (x - y))
  | "*" => onNumbers fun x y => .ok (Octets.ofInt (x * y))
  | "/" => onNumbers fun x y =>
      if y = 0 then .error .divisionByZero else .ok (Octets.ofInt (x.tdiv y))
  | "%" => onNumbers fun x y =>
      if y = 0 then .error .divisionByZero else .ok (Octets.ofInt (x.tmod y))
  | _ => .ok (fitting a b)

mutual

/-- The operators of these levels at the front of the words. -/
def readLevel : Nat → Octets → List (List String) → List Octets → Read
  | 0, before, _, _ => .error (.noArgument before)
  | fuel + 1, before, [], words => readOne fuel before words
  | fuel + 1, before, level :: tighter, words => do
    let (left, rest) ← readLevel fuel before tighter words
    readAfter fuel level tighter left rest

/-- What follows the left operand at a level. -/
def readAfter : Nat → List String → List (List String) → Octets → List Octets → Read
  | 0, _, _, left, words => .ok (left, words)
  | fuel + 1, level, tighter, left, words =>
    match words with
    | word :: rest =>
      if level.contains (String.ofList word) then do
        let (right, rest) ← readLevel fuel word tighter rest
        readAfter fuel level tighter (← apply (String.ofList word) left right) rest
      else .ok (left, words)
    | [] => .ok (left, [])

/-- A word, a function or brackets at the front of the words. -/
def readOne : Nat → Octets → List Octets → Read
  | 0, before, _ => .error (.noArgument before)
  | fuel + 1, before, words =>
    match words with
    | [] => .error (.noArgument before)
    | ['('] :: rest => do
      let (value, rest) ← readLevel fuel ['('] levels rest
      match rest with
      | [')'] :: rest => pure (value, rest)
      | _ => throw (.noArgument value)
    | [')'] :: _ => .error (.unexpected [')'])
    | word :: rest =>
      match String.ofList word, rest with
      | "length", text :: rest => .ok (Octets.ofInt text.length, rest)
      | "match", text :: pattern :: rest => .ok (fitting text pattern, rest)
      | "index", text :: letters :: rest =>
        let place := text.findIdx? letters.contains
        .ok (Octets.ofInt ((place.map (· + 1)).getD 0 : Nat), rest)
      | "substr", text :: first :: size :: rest =>
        match integer? first, integer? size with
        | some x, some n =>
          .ok (if x < 1 || n < 1 then [] else (text.drop (x - 1).toNat).take n.toNat, rest)
        | _, _ => .ok ([], rest)
      | _, rest => .ok (word, rest)

end

/-- The value of the words of a term. -/
def evaluate (words : List Octets) : Except Fault Octets := do
  let (value, rest) ← readLevel (16 * words.length + 16) [] levels words
  match rest with
  | [] => pure value
  | word :: _ => throw (.unexpected word)

end Terms

namespace Tool

/-- `expr`. -/
def term (call : Call) : Effect :=
  if call.arguments.isEmpty then
    ⟨[], Octets.ofText "expr: missing operand\nTry 'expr --help' for more information.\n", 2,
      call.files, call.input⟩
  else
    match Terms.evaluate call.arguments with
    | .error fault => call.fails fault.message 2
    | .ok value =>
      { call.prints (value ++ ['\n']) with status := if Terms.isNothing value then 1 else 0 }

end Tool

end Pipeline.Script
