import Pipeline.Script.Indented.Evaluate

/-! Running indented scripts: assignments, conditions, and loops over lists. -/

namespace Pipeline.Script.Indented

/-- Gives a variable a value. -/
def assign (name : String) (value : Value) : Running Unit :=
  modify fun s => { s with store := s.store.insert name value }

/-- More than the depth of any expression of the tokens. -/
def depthOf (ts : List Token) : Nat := 16 * ts.length + 64

/-- The value of the tokens. -/
def evaluateTokens (ts : List Token) : Running Value := do
  match readExpression (depthOf ts) ts with
  | some (expression, []) => evaluate (depthOf ts) expression
  | _ =>
    Steps.emit 2 (Octets.ofText "SyntaxError: invalid syntax\n")
    throw (.exit 1)

/-- Raises the value of the tokens. -/
def raiseTokens (ts : List Token) : Running Unit := do
  match ← evaluateTokens ts with
  | .error "SystemExit" _ (some code) => exitWith (.number code)
  | .error "SystemExit" message none => exitWith (.text message)
  | .error kind message _ => raise kind message.toText
  | _ => raise "TypeError" "exceptions must derive from BaseException"

/-- The names of the modules that an import brings in. -/
def importAll : List Token → Running Unit
  | .name name :: rest => do
    assign name (.part [name])
    importAll rest
  | _ :: rest => importAll rest
  | [] => pure ()

/-- Carries out a statement of one line. -/
def perform (ts : List Token) : Running Unit := do
  match ts with
  | [] | [.name "pass"] => pure ()
  | .name "import" :: names => importAll names
  | .name "from" :: .name module :: .name "import" :: names =>
    for t in names do
      match t with
      | .name name => assign name (.part [module, name])
      | _ => pure ()
  | [.name "raise"] => raise "RuntimeError" "No active exception to reraise"
  | .name "raise" :: value => raiseTokens value
  | .name "assert" :: test => do
    if (← evaluateTokens test).isTrue then pure () else raise "AssertionError" ""
  | .name name :: .operator "=" :: value => do assign name (← evaluateTokens value)
  | .name name :: .operator "+=" :: value => do
    assign name (← apply "+" (← evaluateTokens [.name name]) (← evaluateTokens value))
  | .name name :: .operator "-=" :: value => do
    assign name (← apply "-" (← evaluateTokens [.name name]) (← evaluateTokens value))
  | ts => discard (evaluateTokens ts)

/-- A line: its number, its indentation and its tokens. -/
structure Line where
  number : Nat
  indent : Nat
  tokens : List Token

/-- The lines of the tokens; empty ones are left out. -/
def linesOf (number indent : Nat) (current : List Token) : List Token → List Line
  | [] => if current.isEmpty then [] else [⟨number, indent, current.reverse⟩]
  | .line nextNumber nextIndent :: rest =>
    let others := linesOf nextNumber nextIndent [] rest
    if current.isEmpty then others else ⟨number, indent, current.reverse⟩ :: others
  | t :: rest => linesOf number indent (t :: current) rest

/-- Performs statements with semicolons between them. -/
def performAll : List (List Token) → Running Unit
  | [] => pure ()
  | ts :: rest => do
    perform ts
    performAll rest

/-- The tokens of a compound line before its last colon outside of brackets, and those after it. -/
def splitColon (ts : List Token) : List Token × List Token :=
  let step (state : Nat × Nat × Option Nat) (t : Token) : Nat × Nat × Option Nat :=
    let (place, depth, found) := state
    match t with
    | .operator "(" | .operator "[" => (place + 1, depth + 1, found)
    | .operator ")" | .operator "]" => (place + 1, depth - 1, found)
    | .operator ":" => (place + 1, depth, if depth = 0 && found.isNone then some place else found)
    | _ => (place + 1, depth, found)
  match (ts.foldl step (0, 0, none)).2.2 with
  | some place => (ts.take place, ts.drop (place + 1))
  | none => (ts, [])

/-- Runs lines. `taken` says that a branch of the condition before has run. -/
def runLines : Nat → Bool → List Line → Running Unit
  | 0, _, _ => throw .exhausted
  | _ + 1, _, [] => pure ()
  | fuel + 1, taken, line :: rest => do
    modify fun s => { s with line := line.number }
    let (head, tail) := splitColon line.tokens
    let block := rest.takeWhile (·.indent > line.indent)
    let after := rest.drop block.length
    let body : Running Unit :=
      if tail.isEmpty then runLines fuel false block
      else performAll (tail.splitOn (.operator ";"))
    match head with
    | .name "if" :: test =>
      let holds := (← evaluateTokens test).isTrue
      if holds then body
      runLines fuel holds after
    | .name "elif" :: test =>
      let holds ← if taken then pure false else do pure (← evaluateTokens test).isTrue
      if holds then body
      runLines fuel (taken || holds) after
    | [.name "else"] =>
      if !taken then body
      runLines fuel false after
    | .name "for" :: .name name :: .name "in" :: values =>
      for value in ← itemsOf (← evaluateTokens values) do
        assign name value
        body
      runLines fuel false after
    | .name "with" :: rest =>
      let value := rest.takeWhile (· != .name "as")
      match rest.drop value.length with
      | .name "as" :: .name name :: _ => assign name (← evaluateTokens value)
      | _ => discard (evaluateTokens value)
      body
      runLines fuel false after
    | [.name "try"] =>
      body
      runLines fuel false after
    | _ =>
      performAll (line.tokens.splitOn (.operator ";"))
      runLines fuel false rest

/-- Runs a script. -/
def run (script : Octets) : Steps Unit := do
  match tokens (script.length + 2) 0 1 script with
  | none =>
    Steps.emit 2 (Octets.ofText "  File \"<string>\", line 1\nSyntaxError: invalid syntax\n")
    throw (.exit 1)
  | some ts =>
    let lines := linesOf 1 0 [] ts
    let _ ← (runLines (lines.length + 1) false lines).run ⟨[], 1⟩
    Steps.setStatus 0

end Pipeline.Script.Indented
