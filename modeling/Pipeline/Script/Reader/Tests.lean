import Pipeline.Script.Reader.Words

/-! Reading conditions in double brackets. -/

namespace Pipeline.Script.Reader

/-- The operators on one operand. -/
def unaryTests : List String :=
  ["-n", "-z", "-e", "-a", "-f", "-d", "-r", "-w", "-x", "-s", "-v", "-h", "-L", "-p", "-S", "-b",
    "-c", "-u", "-g", "-k", "-t", "-O", "-G", "-N", "-o"]

/-- The operators on two operands. -/
def binaryTests : List String :=
  ["=", "==", "!=", "=~", "-eq", "-ne", "-lt", "-le", "-gt", "-ge", "-nt", "-ot", "-ef"]

/-- Does the closing pair of brackets stand at the front of the text? -/
def closesTest (cs : Octets) : Bool := "]]".toList.isPrefixOf cs && atBreak (cs.drop 2)

/-- The text of the token at the front, for messages. -/
def testToken (cs : Octets) : String :=
  match cs with
  | [] | '\n' :: _ => "newline"
  | c :: _ =>
    let word := cs.takeWhile (!isBreak ·)
    if word.isEmpty then String.singleton c else String.ofList word

/-- A fault at the front of the text. -/
def nearToken (cs : Octets) : SyntaxFault :=
  .badTest ("syntax error near \x60" ++ testToken cs ++ "'")

/-- The text of a regular expression at the front, which ends at a blank outside of brackets and
quotation marks, and what follows it. -/
def splitRegex : Nat → Nat → Octets → Octets × Octets
  | 0, _, cs => ([], cs)
  | _ + 1, _, [] => ([], [])
  | fuel + 1, depth, c :: rest =>
    let put (front rest : Octets) (depth : Nat) : Octets × Octets :=
      let (text, after) := splitRegex fuel depth rest
      (front ++ text, after)
    if c = '\n' || (depth = 0 && (c = ' ' || c = '\t')) then ([], c :: rest)
    else if c = '\\' then put (c :: rest.take 1) (rest.drop 1) depth
    else if c = '"' || c = '\'' then
      let inner := rest.takeWhile (· ≠ c)
      put (c :: inner ++ (rest.drop inner.length).take 1) (rest.drop (inner.length + 1)) depth
    else if c = ')' && depth = 0 then ([], c :: rest)
    else put [c] rest (if c = '(' then depth + 1 else if c = ')' then depth - 1 else depth)

mutual

/-- A chain of `||` at the front of the text. -/
def readEither : Nat → Octets → Except SyntaxFault (Test × Octets)
  | 0, _ => .error (.endOfText none)
  | fuel + 1, cs => do
    let (left, rest) ← readBoth fuel cs
    match skipLines rest.length rest with
    | '|' :: '|' :: rest =>
      let (right, rest) ← readEither fuel rest
      pure (.either left right, rest)
    | rest => pure (left, rest)

/-- A chain of `&&` at the front of the text. -/
def readBoth : Nat → Octets → Except SyntaxFault (Test × Octets)
  | 0, _ => .error (.endOfText none)
  | fuel + 1, cs => do
    let (left, rest) ← readOne fuel (skipLines cs.length cs)
    match skipLines rest.length rest with
    | '&' :: '&' :: rest =>
      let (right, rest) ← readBoth fuel rest
      pure (.both left right, rest)
    | rest => pure (left, rest)

/-- One condition at the front of the text. -/
def readOne : Nat → Octets → Except SyntaxFault (Test × Octets)
  | 0, _ => .error (.endOfText none)
  | fuel + 1, cs => do
    match cs with
    | '(' :: rest =>
      let (inner, rest) ← readEither fuel rest
      match skipLines rest.length rest with
      | ')' :: rest => pure (inner, rest)
      | rest => throw (.badTest ("unexpected token \x60" ++ testToken rest ++ "', expected \x60)'"))
    | cs =>
      if closesTest cs || atBreak cs then throw (nearToken cs)
      let (word, rest) ← readWord fuel cs
      let name := String.ofList (cs.take (cs.length - rest.length))
      let rest := skipBlanks rest.length rest
      if name = "!" then
        let (inner, rest) ← readOne fuel rest
        pure (.negation inner, rest)
      else
        let operator := testToken rest
        let isOrder := operator = "<" || operator = ">"
        if isOrder || binaryTests.contains operator then
          let after := rest.drop operator.length
          let after := skipBlanks after.length after
          if closesTest after || atBreak after && !(operator == "=~" && after.head? = some '(') then
            throw (.badTest ("unexpected argument \x60" ++ testToken after ++
              "' to conditional binary operator"))
          if operator = "=~" then
            let (text, rest) := splitRegex (after.length + 1) 0 after
            pure (.binary operator.toList word (← readWhole text), rest)
          else
            let (right, rest) ← readWord fuel after
            pure (.binary operator.toList word right, rest)
        else if unaryTests.contains name then
          if closesTest rest || atBreak rest then
            throw (.badTest ("unexpected argument \x60" ++ testToken rest ++
              "' to conditional unary operator"))
          let (operand, rest) ← readWord fuel rest
          pure (.unary name.toList operand, rest)
        else if closesTest rest || rest.head?.any fun c => c = '&' || c = '|' || c = ')' then
          pure (.unary ['-', 'n'] word, rest)
        else if atBreak rest then
          throw (.badTest ("unexpected token \x60" ++ operator ++
            "', conditional binary operator expected"))
        else throw (.badTest "conditional binary operator expected")

end

/-- The condition up to its closing brackets, and what follows those. -/
def readTest (fuel : Nat) (cs : Octets) : Except SyntaxFault (Test × Octets) := do
  let (test, rest) ← readEither fuel cs
  let rest := skipLines rest.length rest
  if closesTest rest then pure (test, rest.drop 2) else throw (nearToken rest)

end Pipeline.Script.Reader
