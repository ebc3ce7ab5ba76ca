import Pipeline.Script.Builtin
import Pipeline.Script.Reader.Commands

/-! What shells say about scripts that make no sense, and about commands that are not there. -/

namespace Pipeline.Script

open Steps

/-- The wording of a fault in the syntax for bash. -/
def bashSyntaxMessage (fault : SyntaxFault) : String :=
  let near (token : String) : String := "syntax error near unexpected token \x60" ++ token ++ "'"
  let unclosed (mark : String) : String :=
    "unexpected EOF while looking for matching \x60" ++ mark ++ "'"
  match fault with
  | .unexpected token _ | .unexpectedWord token _ | .unexpectedRedirection token => near token
  | .unclosedScript | .unclosedSum => unclosed ")"
  | .endOfText _ => "syntax error: unexpected end of file"
  | .unclosedQuote mark => unclosed (String.singleton mark)
  | .unclosedBrace => unclosed "\x7d"
  | .badLoopVariable word => "\x60" ++ word ++ "': not a valid identifier"
  | .badFunctionName => "syntax error"
  | .badTest message => message

/-- The wording of a fault in the syntax for the plain shell. -/
def plainSyntaxMessage (fault : SyntaxFault) : String :=
  let expecting (expected : Option String) : String :=
    expected.elim "" fun name => " (expecting \"" ++ name ++ "\")"
  "Syntax error: " ++ match fault with
  | .unexpected "newline" expected => "newline unexpected" ++ expecting expected
  | .unexpected token expected => "\"" ++ token ++ "\" unexpected" ++ expecting expected
  | .unexpectedWord _ expected => "word unexpected" ++ expecting expected
  | .unexpectedRedirection _ => "redirection unexpected"
  | .endOfText expected => "end of file unexpected" ++ expecting expected
  | .unclosedScript => "end of file unexpected" ++ expecting (some ")")
  | .unclosedQuote '\x60' => "EOF in backquote substitution"
  | .unclosedQuote _ => "Unterminated quoted string"
  | .unclosedBrace => "Missing '\x7d'"
  | .unclosedSum => "Missing '))'"
  | .badLoopVariable _ => "Bad for loop variable"
  | .badFunctionName => "Bad function name"
  | .badTest message => message

/-- Ends the script with a fault in its syntax before a text. -/
def failSyntax (script : Octets) (fault : SyntaxFault) : Steps Unit := do
  let m ← get
  let isBash := m.shell == .bash
  let line := match fault with
    | .endOfText _ | .unclosedScript => m.line + script.count '\n' + (if isBash then 1 else 0)
    | _ => m.line
  if isBash then
    match fault with
    | .badLoopVariable _ => fail (bashSyntaxMessage fault) 1
    | _ =>
      let front := if m.scene.inline then ": -c: line " else ": line "
      emit 2 (m.scene.name ++ Octets.ofText (front ++ toString line ++ ": " ++
        bashSyntaxMessage fault ++ "\n"))
      throw (.exit 2)
  else
    modify fun m => { m with line := line }
    fail (plainSyntaxMessage fault) 2

/-- The commands that the interpreter carries out itself. -/
def inner : List String :=
  ["eval", ".", "source", "exec", "command", "builtin", "type", "hash", "which", "env", "sh",
    "bash", "dash", "python3", "python", "find", "xargs", "timeout", "nice", "nohup", "chmod",
    "mktemp"]

/-- Those of them that are programs. -/
def isProgram (name : String) : Bool :=
  (["which", "env", "sh", "bash", "dash", "python3", "find", "xargs", "timeout", "nice", "nohup",
    "chmod", "mktemp", "echo", "printf", "test", "[", "pwd", "kill", "sleep", "true",
    "false"].contains name) || (Tool.program? name).isSome

/-- The name of a program without the directories that all programs are in. -/
def programName? (name : String) : Option String :=
  (["/bin/", "/usr/bin/", "/usr/local/bin/"].find? (name.startsWith ·)).map fun front =>
    (name.drop front.length).toString

/-- The file of a name that is a program: at its path, or in a directory for programs. -/
def scriptFile? (m : Machine) (name : String) : Option Location :=
  let isScript (place : Location) : Bool :=
    m.programs.contains place && (m.tree.entry? place).isSome
  if name.contains '/' then (m.files.locate? name).filter isScript
  else
    ((((m.value? "PATH").getD []).toText.splitOn ":").filterMap fun front =>
      m.files.locate? (front ++ "/" ++ name)).find? isScript

/-- Where a command of a name comes from, as shells tell it. -/
inductive Origin where
  | keyword
  | function
  | builtin
  | file (path : String)
  deriving Repr, DecidableEq

/-- Where a command of a name comes from, if there is one. -/
def origin? (m : Machine) (name : String) : Option Origin :=
  let own := ["eval", ".", "exec", "command", "type", "hash"]
  if Reader.keywords.contains name then some .keyword
  else if m.scene.functions.contains name then some .function
  else if (builtin? m.shell name).isSome || own.contains name ||
      (m.shell == .bash && (name = "source" || name = "builtin")) then
    some .builtin
  else
    match scriptFile? m name with
    | some place => some (.file (if name.contains '/' then name else Location.render place))
    | none =>
      if isProgram name then some (.file ("/usr/bin/" ++ name))
      else if (programName? name).any isProgram then some (.file name)
      else none

/-- Complains that there is no command of a name. -/
def notFound (name : String) : Steps Unit := do
  let m ← get
  let isBash := m.shell == .bash
  if name.contains '/' && m.files.isFile name then
    complain (name ++ ": Permission denied")
    setStatus 126
  else if name.contains '/' && m.files.isDirectory name then
    complain (name ++ (if isBash then ": Is a directory" else ": Permission denied"))
    setStatus 126
  else
    complain (name ++ (if isBash then
        if name.contains '/' then ": No such file or directory" else ": command not found"
      else ": not found"))
    setStatus 127

/-- `command -v` and `command -V`. -/
def showOrigin (letter : Char) (name : Octets) : Steps Unit := do
  let m ← get
  let isBash := m.shell == .bash
  let line (text : String) : Steps Unit := do
    emit 1 (Octets.ofText (text ++ "\n"))
    setStatus 0
  let word := name.toText
  match origin? m word with
  | none =>
    if letter = 'V' then
      if isBash then complain ("command: " ++ word ++ ": not found")
      else emit 2 (Octets.ofText (word ++ ": not found\n"))
    setStatus (if isBash then 1 else 127)
  | some origin =>
    if letter = 'v' then
      line (match origin with
        | .file path => path
        | _ => word)
    else
      line (word ++ match origin with
        | .keyword => " is a shell keyword"
        | .function => if isBash then " is a function" else " is a shell function"
        | .builtin => " is a shell builtin"
        | .file path => " is " ++ path)

/-- `type`. -/
def showTypes (arguments : List Octets) : Steps Unit := do
  let isBash ← inBash
  let letters := lettersOf arguments
  let mut failed := false
  for name in arguments.filter (!isOptionWord ·) do
    match origin? (← get) name.toText with
    | none =>
      if !letters.contains 't' then
        if isBash then complain ("type: " ++ name.toText ++ ": not found")
        else emit 1 (Octets.ofText (name.toText ++ ": not found\n"))
      failed := true
    | some origin =>
      if isBash && letters.contains 't' then
        emit 1 (Octets.ofText ((match origin with
          | .keyword => "keyword"
          | .function => "function"
          | .builtin => "builtin"
          | .file _ => "file") ++ "\n"))
      else showOrigin 'V' name
  setStatus (if failed then if isBash then 1 else 127 else 0)

/-- `hash`. -/
def rememberAll (arguments : List Octets) : Steps Unit := do
  setStatus 0
  for name in arguments.filter (!isOptionWord ·) do
    if (origin? (← get) name.toText).isNone then
      complain ("hash: " ++ name.toText ++ ": not found")
      setStatus 1

/-- `which`. -/
def showPaths (arguments : List Octets) : Steps Unit := do
  let m ← get
  let paths := (arguments.filter (!isOptionWord ·)).map fun name =>
    match scriptFile? m name.toText with
    | some place => some (Location.render place)
    | none => if isProgram name.toText then some ("/usr/bin/" ++ name.toText) else none
  emit 1 (Octets.unlines (paths.filterMap fun path => path.map Octets.ofText))
  setStatus (if paths.all Option.isSome then 0 else 1)

/-- `chmod`: files become programs, or cease to be. -/
def changeMode (arguments : List Octets) : Steps Unit := do
  let operands := arguments.filter fun o => o ≠ ['-', 'R'] && o ≠ ['-', 'v'] && o ≠ ['-', 'f']
  let mode := operands.head?.getD []
  let isOn : Bool := match mode with
    | c :: _ => if c.isDigit then
        mode.any fun d => d.isDigit && (d.toNat - '0'.toNat) % 2 = 1
      else mode.contains 'x' && !mode.contains '-'
    | [] => false
  let isOff : Bool := mode.head?.any Char.isDigit || (mode.contains '-' && mode.contains 'x')
  setStatus 0
  for path in (operands.drop 1).map Octets.toText do
    let m ← get
    match m.files.find? path, m.files.locate? path with
    | some _, some place =>
      modify fun m =>
        { m with programs := if isOn then place :: m.programs
                             else if isOff then m.programs.filter (· ≠ place) else m.programs }
    | _, _ =>
      emit 2 (Octets.ofText ("chmod: cannot access '" ++ path ++
        "': No such file or directory\n"))
      setStatus 1

/-- A place for a file or a directory that is not there yet. -/
def freshPlace (tree : FileTree) : Nat → Nat → Location
  | 0, n => ["tmp", "tmp." ++ toString n]
  | fuel + 1, n =>
    let place := ["tmp", "tmp.k3Xq9Lw" ++ toString (n + 100)]
    if (tree.entry? place).isSome then freshPlace tree fuel (n + 1) else place

/-- `mktemp`. -/
def makeTemporary (arguments : List Octets) : Steps Unit := do
  let place := freshPlace (← get).tree 1000 0
  let entry : FileEntry := if (lettersOf arguments).contains 'd' then .directory else .file .empty
  modify fun m => { m with tree := (m.tree.makeDirectories ["tmp"]).put place entry }
  emit 1 (Octets.ofText (Location.render place ++ "\n"))
  setStatus 0

/-- How bash shows a word of a command that it runs. -/
def tracedWord (isBash : Bool) (word : Octets) : Octets :=
  let isSpecial (c : Char) : Bool := " \t\n'\"\\|&;()<>!\x7b\x7d*[]?^$\x60".toList.contains c
  if !isBash then word
  else if word.isEmpty then ['\'', '\'']
  else if word.any isSpecial || word.head? = some '~' || word.head? = some '#' then
    Format.quoteWhole word
  else word

/-- Shows a command that runs, if the script asks for that. -/
def trace (words : List Octets) : Steps Unit := do
  let m ← get
  if m.scene.options.xtrace then
    let shown := words.map (tracedWord (m.shell == .bash))
    emit 2 ((m.value? "PS4").getD [] ++ Format.joinWords shown ++ ['\n'])

end Pipeline.Script
