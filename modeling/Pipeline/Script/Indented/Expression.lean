import Pipeline.Script.Indented.Token

/-! Expressions of indented scripts, and how they are read. -/

namespace Pipeline.Script.Indented

/-- An expression. -/
inductive Expression where
  | none
  | boolean (value : Bool)
  | number (value : Int)
  | text (octets : Octets)
  /-- Texts and expressions, one after the other. -/
  | template (parts : List Expression)
  | name (name : String)
  | attribute (object : Expression) (name : String)
  | index (object key : Expression)
  | call (function : Expression) (arguments : List (Option String × Expression))
  | list (items : List Expression)
  | unary (operator : String) (operand : Expression)
  | binary (operator : String) (left right : Expression)
  | choice (test yes no : Expression)
  deriving Inhabited

/-- What a reading step gives. -/
abbrev Read := Option (Expression × List Token)

/-- The binary operators by how tightly they bind, the loosest first. -/
def levels : List (List String) :=
  [["or"], ["and"], ["==", "!=", "<=", ">=", "<", ">", "in", "is"], ["+", "-"],
    ["*", "//", "/", "%"], ["**"]]

/-- The operator of a level at the front of the tokens. -/
def operator? (level : List String) : List Token → Option (String × List Token)
  | .operator o :: rest => if level.contains o then some (o, rest) else none
  | .name "not" :: .name "in" :: rest => if level.contains "in" then some ("not in", rest) else none
  | .name "is" :: .name "not" :: rest => if level.contains "is" then some ("!=", rest) else none
  | .name o :: rest => if level.contains o then some (o, rest) else none
  | _ => none

/-- The texts and the expressions in braces of a template. -/
def splitTemplate : Nat → Octets → Octets → List (Bool × Octets)
  | 0, _, _ => []
  | fuel + 1, text, cs =>
    let done := if text.isEmpty then [] else [(false, text.reverse)]
    match cs with
    | [] => done
    | '\x7b' :: '\x7b' :: rest => splitTemplate fuel ('\x7b' :: text) rest
    | '\x7d' :: '\x7d' :: rest => splitTemplate fuel ('\x7d' :: text) rest
    | '\x7b' :: rest =>
      let inner := rest.takeWhile (· ≠ '\x7d')
      done ++ (true, inner) :: splitTemplate fuel [] (rest.drop (inner.length + 1))
    | c :: rest => splitTemplate fuel (c :: text) rest

mutual

/-- An expression at the front of the tokens. -/
def readExpression : Nat → List Token → Read
  | 0, _ => none
  | fuel + 1, ts => do
    let (value, rest) ← readLevel fuel levels ts
    match rest with
    | .name "if" :: rest =>
      let (test, rest) ← readLevel fuel levels rest
      match rest with
      | .name "else" :: rest =>
        let (no, rest) ← readExpression fuel rest
        pure (.choice test value no, rest)
      | _ => none
    | rest => pure (value, rest)

/-- The operators of these levels at the front of the tokens. -/
def readLevel : Nat → List (List String) → List Token → Read
  | 0, _, _ => none
  | fuel + 1, [], ts => readUnary fuel ts
  | fuel + 1, level :: tighter, ts =>
    match level, ts with
    | ["==", "!=", "<=", ">=", "<", ">", "in", "is"], .name "not" :: rest => do
      let (operand, rest) ← readLevel fuel (level :: tighter) rest
      pure (.unary "not" operand, rest)
    | _, _ => do
      let (left, rest) ← readLevel fuel tighter ts
      readLevelAfter fuel level tighter left rest

/-- What follows the left operand at a level. -/
def readLevelAfter : Nat → List String → List (List String) → Expression → List Token → Read
  | 0, _, _, _, _ => none
  | fuel + 1, level, tighter, left, ts =>
    match operator? level ts with
    | none => some (left, ts)
    | some (operator, rest) => do
      let (right, rest) ← readLevel fuel tighter rest
      readLevelAfter fuel level tighter (.binary operator left right) rest

/-- A sign, or a value with what follows it. -/
def readUnary : Nat → List Token → Read
  | 0, _ => none
  | fuel + 1, ts =>
    match ts with
    | .operator "-" :: rest => do
      let (operand, rest) ← readUnary fuel rest
      pure (.unary "-" operand, rest)
    | .operator "+" :: rest => readUnary fuel rest
    | ts => do
      let (value, rest) ← readValue fuel ts
      readAfter fuel value rest

/-- Attributes, indices and calls after a value. -/
def readAfter : Nat → Expression → List Token → Read
  | 0, _, _ => none
  | fuel + 1, value, ts =>
    match ts with
    | .operator "." :: .name name :: rest => readAfter fuel (.attribute value name) rest
    | .operator "[" :: rest => do
      let (key, rest) ← readExpression fuel rest
      match rest with
      | .operator "]" :: rest => readAfter fuel (.index value key) rest
      | _ => none
    | .operator "(" :: rest => do
      let (arguments, rest) ← readArguments fuel ")" rest
      readAfter fuel (.call value arguments) rest
    | ts => some (value, ts)

/-- Arguments or items up to a closing bracket. -/
def readArguments : Nat → String → List Token →
    Option (List (Option String × Expression) × List Token)
  | 0, _, _ => none
  | fuel + 1, closing, ts =>
    match ts with
    | .operator o :: rest =>
      if o = closing then some ([], rest) else readArgument fuel closing none ts
    | .name name :: .operator "=" :: rest => readArgument fuel closing (some name) rest
    | ts => readArgument fuel closing none ts

/-- One argument and those after it. -/
def readArgument : Nat → String → Option String → List Token →
    Option (List (Option String × Expression) × List Token)
  | 0, _, _, _ => none
  | fuel + 1, closing, name, ts => do
    let (value, rest) ← readExpression fuel ts
    match rest with
    | .operator "," :: rest =>
      let (others, rest) ← readArguments fuel closing rest
      pure ((name, value) :: others, rest)
    | .operator o :: rest => if o = closing then pure ([(name, value)], rest) else none
    | _ => none

/-- A value at the front of the tokens. -/
def readValue : Nat → List Token → Read
  | 0, _ => none
  | fuel + 1, ts =>
    match ts with
    | .name "None" :: rest => some (.none, rest)
    | .name "True" :: rest => some (.boolean true, rest)
    | .name "False" :: rest => some (.boolean false, rest)
    | .name name :: rest => some (.name name, rest)
    | .number n :: rest => some (.number n, rest)
    | .text a :: .text b :: rest => readValue fuel (.text (a ++ b) :: rest)
    | .text octets :: rest => some (.text octets, rest)
    | .template octets :: rest => do
      let parts ← (splitTemplate (octets.length + 1) [] octets).mapM fun (isCode, text) =>
        if isCode then
          (tokens (text.length + 1) 1 1 text).bind fun inner =>
            (readExpression fuel inner).map (·.1)
        else some (.text text)
      pure (.template parts, rest)
    | .operator "(" :: rest => do
      let (items, rest) ← readArguments fuel ")" rest
      match items with
      | [(none, item)] => pure (item, rest)
      | items => pure (.list (items.map (·.2)), rest)
    | .operator "[" :: rest => do
      let (items, rest) ← readArguments fuel "]" rest
      pure (.list (items.map (·.2)), rest)
    | _ => none

end

end Pipeline.Script.Indented
