import Pipeline.Script.Condition
import Pipeline.Script.Format
import Pipeline.Script.Options
import Pipeline.Script.Tools
import Pipeline.Script.Variables

/-! The commands of the shell itself that need nothing but their arguments. -/

namespace Pipeline.Script

open Steps

/-- The status that an argument gives. -/
def statusOf (command : String) (argument : Option Octets) : Steps Nat := do
  match argument with
  | none => return (← get).status
  | some word =>
    let digits := word.dropWhile (· = '-')
    match (String.ofList digits).toNat? with
    | some n =>
      if digits.length = word.length then return n % 256
      else if ← inBash then return (256 - n % 256) % 256
      else fail (command ++ ": Illegal number: " ++ word.toText) 2
    | none =>
      if ← inBash then fail (command ++ ": " ++ word.toText ++ ": numeric argument required") 2
      else fail (command ++ ": Illegal number: " ++ word.toText) 2

/-- `cd`. -/
def changeDirectory (arguments : List Octets) : Steps Unit := do
  let m ← get
  let arguments : List Octets :=
    arguments.filter fun word => word ≠ ['-', 'P'] && word ≠ ['-', 'L']
  let target := match arguments with
    | [] => ((m.value? "HOME").getD []).toText
    | ['-'] :: _ => ((m.value? "OLDPWD").getD []).toText
    | word :: _ => word.toText
  if target.isEmpty then
    if m.shell == .bash && arguments.isEmpty then
      complain "cd: HOME not set"
      setStatus 1
    else setStatus 0
  else if m.files.isDirectory target then
    let place := (m.files.locate? target).getD m.scene.directory
    assign "OLDPWD" (Octets.ofText m.scene.directory.render)
    changeScene fun s => { s with directory := place }
    assign "PWD" (Octets.ofText place.render)
    if arguments.head? = some ['-'] then emit 1 (Octets.ofText (place.render ++ "\n"))
    setStatus 0
  else
    if m.shell == .bash then
      complain ("cd: " ++ target ++ (if m.files.holds target then ": Not a directory"
        else ": No such file or directory"))
      setStatus 1
    else
      complain ("cd: can't cd to " ++ target)
      setStatus 2

/-- The directories to come back to, as `dirs` shows them. -/
def showVisited : Steps Unit := do
  let m ← get
  let paths := (m.scene.directory :: m.scene.visited).map Location.render
  emit 1 (Octets.ofText (" ".intercalate paths ++ "\n"))

/-- `pushd`. -/
def pushDirectory (arguments : List Octets) : Steps Unit := do
  let before := (← get).scene.directory
  let target := (arguments.head?.getD []).toText
  if (← get).files.isDirectory target then
    changeDirectory arguments
    changeScene fun s => { s with visited := before :: s.visited }
    showVisited
  else
    complain ("pushd: " ++ target ++ ": No such file or directory")
    setStatus 1

/-- `popd`. -/
def popDirectory : Steps Unit := do
  match (← get).scene.visited with
  | [] =>
    complain "popd: directory stack empty"
    setStatus 1
  | place :: rest =>
    changeDirectory [Octets.ofText place.render]
    changeScene fun s => { s with visited := rest }
    showVisited

/-- The signals by number. -/
def signals : List (Nat × String) :=
  [(0, "EXIT"), (1, "HUP"), (2, "INT"), (3, "QUIT"), (6, "ABRT"), (9, "KILL"), (10, "USR1"),
    (12, "USR2"), (13, "PIPE"), (14, "ALRM"), (15, "TERM"), (17, "CHLD"), (18, "CONT"),
    (19, "STOP")]

/-- The name of the signal that a word names. -/
def signal? (word : Octets) : Option String :=
  let text := (String.ofList word).toUpper
  let text := if text.startsWith "SIG" then (text.drop 3).toString else text
  match text.toNat? with
  | some n => signals.lookup n
  | none => if signals.any (·.2 = text) then some text else none

/-- `kill`. Only the shell itself can be reached. -/
def kill (arguments : List Octets) : Steps Unit := do
  let m ← get
  let (word, targets) := match arguments with
    | ['-', 's'] :: signal :: rest | ['-', 'n'] :: signal :: rest => (signal, rest)
    | ('-' :: signal) :: rest => (signal, rest)
    | rest => ("TERM".toList, rest)
  let itself := Octets.ofInt Machine.process
  match signal? word with
  | none =>
    complain ("kill: " ++ word.toText ++ ": invalid signal specification")
    setStatus 1
  | some signal =>
    if targets.contains itself || targets.contains ['0'] then
      setStatus 0
      if signal ≠ "EXIT" && signal ≠ "CHLD" && signal ≠ "CONT" then
        match m.scene.traps.get? signal with
        | none => throw .killed
        | some action =>
          if !action.isEmpty then modify fun m => { m with pending := m.pending ++ [signal] }
    else
      complain (if m.shell == .bash then
          "kill: (" ++ (targets.head?.getD []).toText ++ ") - No such process"
        else "kill: No such process\n")
      setStatus 1

/-- The signals and other events for which a script can say what happens. -/
def event? (isBash : Bool) (word : Octets) : Option String :=
  match String.ofList word with
  | "ERR" | "DEBUG" | "RETURN" => if isBash then some (String.ofList word) else none
  | _ => signal? word

/-- `trap`. -/
def setTraps (arguments : List Octets) : Steps Unit := do
  let isBash ← inBash
  setStatus 0
  match if arguments.head? = some ['-', '-'] then arguments.drop 1 else arguments with
  | [] =>
    for (event, action) in (← get).scene.traps do
      emit 1 (Octets.ofText "trap -- '" ++ action ++ Octets.ofText ("' " ++ event ++ "\n"))
  | [event] =>
    match event? isBash event with
    | some event => changeScene fun s => { s with traps := s.traps.erase event }
    | none => pure ()
  | action :: events =>
    for word in events do
      match event? isBash word with
      | none =>
        if isBash then complain ("trap: " ++ word.toText ++ ": invalid signal specification")
        else emit 2 (Octets.ofText ("trap: " ++ word.toText ++ ": bad trap\n"))
        setStatus 1
      | some event =>
        changeScene fun s =>
          { s with traps := if action = ['-'] then s.traps.erase event
                            else s.traps.insert event action }

/-- What conditions depend on. -/
def surface : Steps Condition.Surface := do
  let m ← get
  return ⟨m.shell == .bash, m.files, m.programs, fun word =>
    let (name, item) := nameAndItem word.toList
    (m.valueIn? name (if item.isEmpty then .whole
      else if m.isTable name then .named item
      else .number ((String.ofList item).toNat?.getD 0))).isSome⟩

/-- `test` under its names. -/
def testCommand (name : String) (arguments : List Octets) : Steps Unit := do
  let around ← surface
  let complainAndFail (text : String) : Steps Unit := do
    complain (name ++ ": " ++ text)
    setStatus 2
  let isBracket := name = "["
  let words := if isBracket then arguments.dropLast else arguments
  if isBracket && arguments.getLast? ≠ some [']'] then
    complainAndFail (if around.isBash then "missing \x60]'" else "missing ]")
  else
    match Condition.evaluate around words with
    | .ok value => setStatus (if value then 0 else 1)
    | .error fault => complainAndFail (fault.message around.isBash)

/-- `printf`. -/
def printfCommand (arguments : List Octets) : Steps Unit := do
  let isBash ← inBash
  let shell := (← get).shell
  let (target, arguments) := match isBash, arguments with
    | true, ['-', 'v'] :: name :: rest => (some name.toText, rest)
    | _, rest => (none, rest)
  let arguments := if arguments.head? = some ['-', '-'] then arguments.drop 1 else arguments
  match arguments with
  | [] =>
    if isBash then emit 2 "printf: usage: printf [-v var] format [arguments]\n".toList
    else complain "printf: usage: printf format [arg ...]"
    setStatus 2
  | format :: arguments =>
    match isBash, format with
    | false, '-' :: letter :: _ => fail ("printf: Illegal option -" ++ letter.toString) 2
    | _, _ =>
      let printed := Format.printf shell format (arguments.length + 1) arguments
      for word in printed.bad do
        complain ("printf: " ++ word.toText ++
          (if isBash then ": invalid number" else ": expected numeric value"))
      match target with
      | some name => assign name printed.text
      | none => emit 1 printed.text
      setStatus (if printed.bad.isEmpty then 0 else 1)
      match printed.fault with
      | none => pure ()
      | some directive =>
        if isBash then
          complain ("printf: \x60" ++ (directive.drop (directive.length - 1)).toString ++
            "': invalid format character")
          setStatus 1
        else
          complain ("printf: " ++ directive ++ ": invalid directive")
          setStatus 2

/-- Starts a program. -/
def start (name : String) (program : Call → Effect) (arguments : List Octets) : Steps Unit := do
  let m ← get
  let effect := program ⟨name, arguments, m.input, m.files, m.environment⟩
  modify fun m => { m with tree := { effect.files with current := m.tree.current },
                           input := effect.input }
  emit 1 effect.output
  emit 2 effect.errors
  setStatus effect.status

/-- Waits for a while. -/
def sleep : Steps Unit := do
  if (← get).doomed then throw .waits
  setStatus 0

/-- The number that the first argument writes, or one. -/
def countOf (arguments : List Octets) : Nat :=
  (arguments.head?.bind fun o => o.toText.toNat?).getD 1

/-- `break` and `continue`, which do nothing outside of loops. -/
def leaveLoop (name : String) (stop : Stop) : Steps Unit := do
  let m ← get
  if m.scene.loops > 0 then throw stop
  else
    if m.shell == .bash then
      complain (name ++ ": only meaningful in a \x60for', \x60while', or \x60until' loop")
    setStatus 0

/-- The commands that need nothing but their arguments. -/
def builtin? (shell : Shell) (name : String) : Option (List Octets → Steps Unit) :=
  let ifBash (steps : List Octets → Steps Unit) : Option (List Octets → Steps Unit) :=
    if shell == .bash then some steps else none
  match name with
  | ":" | "true" => some fun _ => setStatus 0
  | "false" => some fun _ => setStatus 1
  | "echo" => some fun arguments => do
      emit 1 (Format.echo shell arguments)
      setStatus 0
  | "printf" => some printfCommand
  | "test" | "[" => some (testCommand name)
  | "cd" => some changeDirectory
  | "pwd" => some fun _ => do
      emit 1 (Octets.ofText ((← get).scene.directory.render ++ "\n"))
      setStatus 0
  | "exit" => some fun arguments => do
      let status ← statusOf "exit" arguments.head?
      if shell == .bash && arguments.length > 1 then
        complain "exit: too many arguments"
        setStatus 1
      else throw (.exit status)
  | "return" => some fun arguments => do
      let m ← get
      if shell == .bash && m.scene.hidden.isEmpty then
        complain "return: can only \x60return' from a function or sourced script"
        setStatus 2
      else throw (.back (← statusOf "return" arguments.head?))
  | "break" => some fun arguments => leaveLoop name (.leave (countOf arguments))
  | "continue" => some fun arguments => leaveLoop name (.skip (countOf arguments))
  | "export" => some fun arguments => do
      exportAll arguments
      setStatus 0
  | "readonly" => some fun arguments => do
      makeConstant arguments
      setStatus 0
  | "local" => some fun arguments => do
      if (← get).scene.hidden.isEmpty then
        if shell == .bash then
          complain "local: can only be used in a function"
          setStatus 1
        else fail "local: not in a function" 2
      else
        declareAll arguments
        setStatus 0
  | "declare" | "typeset" =>
    if shell == .bash then some fun arguments => do
      declareAll arguments
      setStatus 0
    else none
  | "unset" => some unsetAll
  | "set" => some fun arguments => do
      setOptions arguments
      setStatus 0
  | "shift" => some fun arguments => do
      let count := countOf arguments
      if count ≤ (← get).scene.arguments.length then
        changeScene fun s => { s with arguments := s.arguments.drop count }
        setStatus 0
      else if shell == .bash then setStatus 1
      else fail "shift: can't shift that many" 2
  | "read" => some readVariables
  | "kill" => some kill
  | "sleep" => some fun _ => sleep
  | "umask" => some fun arguments => do
      if arguments.isEmpty then emit 1 "0022\n".toList
      setStatus 0
  | "wait" | "ulimit" | "times" | "alias" => some fun _ => setStatus 0
  | "trap" => some setTraps
  | "let" => ifBash fun arguments => do
      if arguments.isEmpty then
        complain "let: expression expected"
        setStatus 1
      for word in arguments do testValue "let: " word
  | "shopt" => ifBash switchOptions
  | "pushd" => ifBash pushDirectory
  | "popd" => ifBash fun _ => popDirectory
  | "dirs" => ifBash fun _ => do
      showVisited
      setStatus 0
  | "mapfile" | "readarray" => ifBash readLines
  | _ => none

end Pipeline.Script
