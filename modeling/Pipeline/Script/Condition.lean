import Pipeline.Files.Tree
import Pipeline.Script.Octets

/-! The conditions of `test`, and of the brackets that stand for it. -/

namespace Pipeline.Script.Condition

/-- Why a condition has no value. -/
inductive Fault where
  | badNumber (text : Octets)
  /-- An operator lacks an operand, or a condition is missing altogether. -/
  | noArgument (operator : Option Octets)
  | noUnary (word : Octets)
  | noBinary (word : Octets)
  /-- Words are left after the condition; the last one of it is shown by some shells. -/
  | excess (last : Octets)
  | notClosed
  deriving Repr, DecidableEq

/-- The wording of a fault, after the name of the command. -/
def Fault.message (isBash : Bool) : Fault → String
  | badNumber text =>
    if isBash then text.toText ++ ": integer expression expected"
    else "Illegal number: " ++ text.toText
  | noArgument operator =>
    match isBash, operator with
    | false, some operator => operator.toText ++ ": argument expected"
    | _, _ => "argument expected"
  | noUnary word => word.toText ++ ": unary operator expected"
  | noBinary word => word.toText ++ ": binary operator expected"
  | excess last => if isBash then "too many arguments" else last.toText ++ ": unexpected operator"
  | notClosed => if isBash then "\x60)' expected" else "closing paren expected"

/-- What a condition depends on. -/
structure Surface where
  isBash : Bool
  files : FileTree
  /-- The places of the files that are programs. -/
  programs : List Location
  /-- Does a variable have a value? -/
  isSet : String → Bool

/-- The integer that a text writes. -/
def number (text : Octets) : Except Fault Int :=
  let isBlank (c : Char) : Bool := c = ' ' || c = '\n' || c = '\t'
  let trimmed := ((text.dropWhile isBlank).reverse.dropWhile isBlank).reverse
  let (negative, digits) := match trimmed with
    | '-' :: digits => (true, digits)
    | '+' :: digits => (false, digits)
    | digits => (false, digits)
  if digits.isEmpty || !digits.all Char.isDigit then .error (.badNumber text)
  else
    let n : Int := (String.ofList digits).toNat?.getD 0
    .ok (if negative then -n else n)

/-- The conditions on one operand. -/
def unary? (surface : Surface) (operator : Octets) : Option (Octets → Bool) :=
  let onPath (holds : FileTree → String → Bool) (operand : Octets) : Bool :=
    holds surface.files operand.toText
  match String.ofList operator with
  | "-n" => some fun operand => !operand.isEmpty
  | "-z" => some List.isEmpty
  | "-e" | "-r" | "-w" | "-O" | "-G" => some (onPath FileTree.holds)
  | "-a" => if surface.isBash then some (onPath FileTree.holds) else none
  | "-f" => some (onPath FileTree.isFile)
  | "-d" => some (onPath FileTree.isDirectory)
  | "-x" => some (onPath fun files path =>
      files.isDirectory path || (files.locate? path).any surface.programs.contains)
  | "-s" => some (onPath fun files path =>
      files.isDirectory path || (files.read? path).any (·.size > 0))
  | "-v" => if surface.isBash then some fun operand => surface.isSet operand.toText else none
  | "-c" => some fun operand => operand = "/dev/null".toList
  | "-h" | "-L" | "-p" | "-S" | "-b" | "-u" | "-g" | "-k" | "-t" => some fun _ => false
  | _ => none

/-- The order of two texts as integers. -/
def compare (test : Int → Int → Bool) (a b : Octets) : Except Fault Bool := do
  return test (← number a) (← number b)

/-- The comparisons of integers. -/
def comparison? (operator : Octets) : Option (Octets → Octets → Except Fault Bool) :=
  match String.ofList operator with
  | "-eq" => some (compare (· == ·))
  | "-ne" => some (compare (· != ·))
  | "-lt" => some (compare (· < ·))
  | "-le" => some (compare (· ≤ ·))
  | "-gt" => some (compare (· > ·))
  | "-ge" => some (compare (· ≥ ·))
  | _ => none

/-- The conditions on two operands. -/
def binary? (surface : Surface) (operator : Octets) :
    Option (Octets → Octets → Except Fault Bool) :=
  match String.ofList operator with
  | "=" => some fun a b => .ok (a == b)
  | "==" => if surface.isBash then some fun a b => .ok (a == b) else none
  | "!=" => some fun a b => .ok (a != b)
  | "<" => some fun a b => .ok (!Octets.lessOrEqual b a)
  | ">" => some fun a b => .ok (!Octets.lessOrEqual a b)
  | "-ef" => some fun a b =>
      let place (o : Octets) := surface.files.locate? o.toText
      .ok ((place a).isSome && place a == place b)
  | "-nt" | "-ot" => some fun _ _ => .ok false
  | _ => comparison? operator

/-- What a reading step gives. -/
abbrev Read := Except Fault (Bool × List Octets)

mutual

/-- A chain of `-o` at the front of the words: its value, and the words that are left. -/
def readEither (surface : Surface) : Nat → List Octets → Read
  | 0, _ => .error (.noArgument none)
  | fuel + 1, words => do
    let (left, rest) ← readBoth surface fuel words
    match rest with
    | ['-', 'o'] :: rest =>
      let (right, rest) ← readEither surface fuel rest
      pure (left || right, rest)
    | rest => pure (left, rest)

/-- A chain of `-a` at the front of the words. -/
def readBoth (surface : Surface) : Nat → List Octets → Read
  | 0, _ => .error (.noArgument none)
  | fuel + 1, words => do
    let (left, rest) ← readOne surface fuel words
    match rest with
    | ['-', 'a'] :: rest =>
      let (right, rest) ← readBoth surface fuel rest
      pure (left && right, rest)
    | rest => pure (left, rest)

/-- One condition at the front of the words. A text alone holds if it is not empty. -/
def readOne (surface : Surface) : Nat → List Octets → Read
  | 0, _ => .error (.noArgument none)
  | fuel + 1, words =>
    let simple : Read :=
      match words with
      | [] => .error (.noArgument none)
      | ['!'] :: word :: rest => do
        let (value, rest) ← readOne surface fuel (word :: rest)
        pure (!value, rest)
      | ['('] :: word :: rest => do
        let (value, rest) ← readEither surface fuel (word :: rest)
        match rest with
        | [')'] :: rest => pure (value, rest)
        | _ => throw .notClosed
      | operator :: operand :: rest =>
        match unary? surface operator with
        | some holds => .ok (holds operand, rest)
        | none =>
          if !surface.isBash && rest.isEmpty && (binary? surface operand).isSome then
            .error (.noArgument (some operand))
          else .ok (!operator.isEmpty, operand :: rest)
      | [word] => .ok (!word.isEmpty, [])
    match words with
    | left :: operator :: right :: rest =>
      match binary? surface operator with
      | some compare => do pure (← compare left right, rest)
      | none => simple
    | _ => simple

end

/-- The value of the words of a condition, whatever their number. -/
def evaluateAll (surface : Surface) (words : List Octets) : Except Fault Bool := do
  let (value, rest) ← readEither surface (4 * words.length + 8) words
  if rest.isEmpty then pure value
  else throw (.excess (words[words.length - rest.length - 1]?.getD []))

/-- The value of the words of a condition; none at all do not hold. For bash, the number of the
words says what they can be. -/
def evaluate (surface : Surface) (words : List Octets) : Except Fault Bool :=
  match surface.isBash, words with
  | _, [] => .ok false
  | true, [['!'], word] => .ok word.isEmpty
  | true, [operator, operand] =>
    match unary? surface operator with
    | some holds => .ok (holds operand)
    | none => .error (.noUnary operator)
  | true, [left, operator, right] =>
    if (binary? surface operator).isSome || operator = ['-', 'a'] || operator = ['-', 'o'] ||
        left = ['!'] || (left = ['('] && right = [')']) then
      evaluateAll surface words
    else .error (.noBinary operator)
  | _, words => evaluateAll surface words

end Pipeline.Script.Condition
