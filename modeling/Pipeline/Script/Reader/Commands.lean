import Pipeline.Script.Reader.Simple
import Pipeline.Script.Reader.Tests

/-! Reading the commands of shell scripts. Recursion is bounded by `fuel`, of which a few units for
each octet of the script are enough. -/

namespace Pipeline.Script.Reader

/-- Commands one after the other. -/
def inSequence (first second : Command) : Command :=
  match second with
  | .nothing => first
  | second => .sequence first second

/-- The text after a semicolon, if one stands at its front. -/
def skipSemicolon (cs : Octets) : Octets :=
  match cs with
  | ';' :: rest => rest
  | cs => cs

mutual

/-- The commands up to whatever closes their list. -/
def readList (style : Style) : Nat → Octets → Except SyntaxFault (Command × Octets)
  | 0, _ => .error (.endOfText none)
  | fuel + 1, cs =>
    let cs := skipLines cs.length cs
    if closesList cs then .ok (.nothing, cs)
    else do
      let (first, rest) ← readAndOr style fuel cs
      match skipBlanks rest.length rest with
      | ';' :: ';' :: rest => pure (first, ';' :: ';' :: rest)
      | ';' :: '&' :: rest => pure (first, ';' :: '&' :: rest)
      | ';' :: rest | '\n' :: rest =>
        let (second, rest) ← readList style fuel rest
        pure (inSequence first second, rest)
      | '&' :: rest =>
        let (second, rest) ← readList style fuel rest
        pure (inSequence (.background first) second, rest)
      | rest => pure (first, rest)

/-- A list that has to hold a command; `closing` is what has to follow it. -/
def readBody (style : Style) (closing : String) :
    Nat → Octets → Except SyntaxFault (Command × Octets)
  | 0, _ => .error (.endOfText none)
  | fuel + 1, cs => do
    let start := skipLines cs.length cs
    let (body, rest) ← readList style fuel start
    match body with
    | .nothing => throw (token start (if start.isEmpty then some closing else none))
    | body => pure (body, rest)

/-- Pipelines joined by `&&` and `||`. -/
def readAndOr (style : Style) : Nat → Octets → Except SyntaxFault (Command × Octets)
  | 0, _ => .error (.endOfText none)
  | fuel + 1, cs => do
    let (first, rest) ← readPipeline style fuel cs
    readAndOrAfter style fuel first rest

/-- What is joined to a command by `&&` and `||`. -/
def readAndOrAfter (style : Style) : Nat → Command → Octets → Except SyntaxFault (Command × Octets)
  | 0, _, _ => .error (.endOfText none)
  | fuel + 1, first, cs =>
    match skipBlanks cs.length cs with
    | '&' :: '&' :: rest => do
      let (second, rest) ← readPipeline style fuel (skipLines rest.length rest)
      readAndOrAfter style fuel (.both first second) rest
    | '|' :: '|' :: rest => do
      let (second, rest) ← readPipeline style fuel (skipLines rest.length rest)
      readAndOrAfter style fuel (.either first second) rest
    | cs => .ok (first, cs)

/-- A pipeline, which may be negated. -/
def readPipeline (style : Style) : Nat → Octets → Except SyntaxFault (Command × Octets)
  | 0, _ => .error (.endOfText none)
  | fuel + 1, cs =>
    match keyword? (skipBlanks cs.length cs) with
    | some ("!", rest) => do
      let after := skipBlanks rest.length rest
      if !style.isBash && (keyword? after).any (·.1 = "!") then throw (token after none)
      let (command, rest) ← readPipeline style fuel rest
      pure (.negation command, rest)
    | _ => do
      let (stages, rest) ← readStages style fuel cs
      match stages with
      | [command] => pure (command, rest)
      | stages => pure (.pipeline stages, rest)

/-- The stages of a pipeline. -/
def readStages (style : Style) : Nat → Octets → Except SyntaxFault ((List Command) × Octets)
  | 0, _ => .error (.endOfText none)
  | fuel + 1, cs => do
    let (first, rest) ← readCommand style fuel cs
    let rest := skipBlanks rest.length rest
    match rest with
    | '|' :: '|' :: _ => pure ([first], rest)
    | '|' :: '&' :: rest =>
      if !style.isBash then throw (token ('&' :: rest) none)
      let (stages, rest) ← readStages style fuel (skipLines rest.length rest)
      pure (.redirected 0 first [⟨2, .same, [.text false ['1']]⟩] :: stages, rest)
    | '|' :: rest =>
      let (stages, rest) ← readStages style fuel (skipLines rest.length rest)
      pure (first :: stages, rest)
    | rest => pure ([first], rest)

/-- A command with its redirections. -/
def readCommand (style : Style) : Nat → Octets → Except SyntaxFault (Command × Octets)
  | 0, _ => .error (.endOfText none)
  | fuel + 1, cs =>
    let cs := skipBlanks cs.length cs
    let line := lineAt style.lineFeeds cs
    let compound (read : Except SyntaxFault (Command × Octets)) :
        Except SyntaxFault (Command × Octets) := do
      let (body, rest) ← read
      let (redirections, rest) ← readRedirections style fuel rest
      pure (if redirections.isEmpty then body else .redirected line body redirections, rest)
    match keyword? cs with
    | some ("if", rest) => compound (readChoice style fuel rest)
    | some ("while", rest) => compound (readLoop style fuel true rest)
    | some ("until", rest) => compound (readLoop style fuel false rest)
    | some ("for", rest) => compound (readEach style fuel rest)
    | some ("case", rest) => compound (readSelect style fuel rest)
    | some ("\x7b", rest) => compound do
      let (body, rest) ← readBody style "\x7d" fuel rest
      let rest ← expectKeyword "\x7d" rest
      pure (body, rest)
    | some (name, _) => .error (.unexpected name none)
    | none =>
      match cs with
      | '(' :: rest =>
        match calculation? style rest with
        | some (text, rest) => compound do
          let parts ← readTemplate text
          pure (.calculation line parts, rest)
        | none => compound do
          let (body, rest) ← readBody style ")" fuel rest
          match skipLines rest.length rest with
          | ')' :: rest => pure (.subshell body, rest)
          | rest => throw (token rest (some ")"))
      | cs =>
        if style.isBash && "[[".toList.isPrefixOf cs && atBreak (cs.drop 2) then compound do
          let (test, rest) ← readTest fuel (cs.drop 2)
          pure (.condition line test, rest)
        else
          match (keywordDefinition? style cs).or (definition? cs) with
          | some (name, rest) => do
            if !style.isBash && !Octets.isName name then throw .badFunctionName
            let isCompound := rest.head? = some '(' || (keyword? rest).isSome
            if style.isBash && !isCompound then throw (token rest none)
            let (body, rest) ← readCommand style fuel rest
            pure (.define name.toText body, rest)
          | none => readSimple style line fuel ⟨[], [], [], []⟩ cs

/-- The rest of a choice after `if` or `elif`. -/
def readChoice (style : Style) : Nat → Octets → Except SyntaxFault (Command × Octets)
  | 0, _ => .error (.endOfText none)
  | fuel + 1, cs => do
    let (test, rest) ← readBody style "then" fuel cs
    let rest ← expectKeyword "then" rest
    let (yes, rest) ← readBody style "fi" fuel rest
    let rest := skipLines rest.length rest
    match keyword? rest with
    | some ("elif", rest) =>
      let (no, rest) ← readChoice style fuel rest
      pure (.choice test yes no, rest)
    | some ("else", rest) =>
      let (no, rest) ← readBody style "fi" fuel rest
      let rest ← expectKeyword "fi" rest
      pure (.choice test yes no, rest)
    | _ =>
      let rest ← expectKeyword "fi" rest
      pure (.choice test yes .nothing, rest)

/-- The body of a loop. -/
def readDo (style : Style) : Nat → Octets → Except SyntaxFault (Command × Octets)
  | 0, _ => .error (.endOfText none)
  | fuel + 1, cs => do
    let rest ← expectKeyword "do" cs
    let (body, rest) ← readBody style "done" fuel rest
    let rest ← expectKeyword "done" rest
    pure (body, rest)

/-- The rest of a loop after its first keyword. -/
def readLoop (style : Style) : Nat → Bool → Octets → Except SyntaxFault (Command × Octets)
  | 0, _, _ => .error (.endOfText none)
  | fuel + 1, expected, cs => do
    let (test, rest) ← readBody style "do" fuel cs
    let (body, rest) ← readDo style fuel rest
    pure (.loop expected test body .nothing, rest)

/-- The rest of a loop over words after `for`. -/
def readEach (style : Style) : Nat → Octets → Except SyntaxFault (Command × Octets)
  | 0, _ => .error (.endOfText none)
  | fuel + 1, cs => do
    let line := lineAt style.lineFeeds cs
    let cs := skipBlanks cs.length cs
    match countingParts? style cs with
    | some (parts, rest) =>
      let expressions ← parts.mapM readTemplate
      let idle : Command := .simple line [] [[.text false [':']]] []
      let part (i : Nat) : Command :=
        match parts[i]?.map skipSpaces, expressions[i]? with
        | some (_ :: _), some expression => .calculation line expression
        | _, _ => idle
      let (body, rest) ← readDo style fuel (skipSemicolon (skipLines rest.length rest))
      pure (.sequence (.either (part 0) idle) (.loop true (part 1) body (part 2)), rest)
    | none =>
      let name := cs.takeWhile Octets.isNameChar
      if !Octets.isName name then
        throw (if cs.isEmpty || cs.head? = some '\n' || cs.head? = some ';' then token cs none
          else .badLoopVariable (String.ofList (cs.takeWhile (!isBreak ·))))
      let rest := cs.drop name.length
      let rest := skipLines rest.length rest
      let (words, rest) ←
        match keyword? rest with
        | some ("in", rest) => do
          let (words, rest) ← readWords fuel rest
          pure (some words, rest)
        | _ => pure (none, rest)
      let rest := skipBlanks rest.length rest
      if words.isSome && rest.isEmpty then throw (.endOfText none)
      let (body, rest) ← readDo style fuel (skipSemicolon rest)
      pure (.each (String.ofList name) words body, rest)

/-- The rest of a selection after `case`. -/
def readSelect (style : Style) : Nat → Octets → Except SyntaxFault (Command × Octets)
  | 0, _ => .error (.endOfText none)
  | fuel + 1, cs => do
    let (word, rest) ← readWord fuel (skipBlanks cs.length cs)
    let rest ← expectKeyword "in" rest
    let (branches, rest) ← readBranches style fuel rest
    pure (.select word branches, rest)

/-- The branches of a selection. -/
def readBranches (style : Style) :
    Nat → Octets → Except SyntaxFault ((List (List Word × Command × Bool)) × Octets)
  | 0, _ => .error (.endOfText none)
  | fuel + 1, cs => do
    let cs := skipLines cs.length cs
    match keyword? cs with
    | some ("esac", rest) => pure ([], rest)
    | _ =>
      let cs := match cs with
        | '(' :: rest => rest
        | cs => cs
      let (patterns, rest) ← readPatterns fuel cs
      let (body, rest) ← readList style fuel rest
      let rest := skipLines rest.length rest
      match rest with
      | ';' :: ';' :: rest =>
        let rest := if style.isBash && rest.head? = some '&' then rest.drop 1 else rest
        let (branches, rest) ← readBranches style fuel rest
        pure ((patterns, body, false) :: branches, rest)
      | ';' :: '&' :: rest =>
        if !style.isBash then throw (token ('&' :: rest) none)
        let (branches, rest) ← readBranches style fuel rest
        pure ((patterns, body, true) :: branches, rest)
      | rest =>
        match keyword? rest with
        | some ("esac", rest) => pure ([(patterns, body, false)], rest)
        | _ => throw (token rest (some ";;"))

end

/-- The commands up to the end of a line, and the text after it. -/
def readLine (style : Style) : Nat → Octets → Except SyntaxFault (Command × Octets)
  | 0, _ => .error (.endOfText none)
  | fuel + 1, cs =>
    let cs := skipBlanks cs.length cs
    match cs with
    | [] => .ok (.nothing, [])
    | '\n' :: rest => .ok (.nothing, rest)
    | cs => do
      let (first, rest) ← readAndOr style fuel cs
      match skipBlanks rest.length rest with
      | [] => pure (first, [])
      | '\n' :: rest => pure (first, rest)
      | ';' :: ';' :: rest => .error (token (';' :: ';' :: rest) none)
      | ';' :: rest =>
        let (second, rest) ← readLine style fuel rest
        pure (inSequence first second, rest)
      | '&' :: rest =>
        let (second, rest) ← readLine style fuel rest
        pure (inSequence (.background first) second, rest)
      | rest => .error (token rest none)

end Pipeline.Script.Reader
