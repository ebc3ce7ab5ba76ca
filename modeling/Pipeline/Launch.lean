import Pipeline.Command.Basic
import Pipeline.Command.Values
import Pipeline.Script.Indented.Run
import Pipeline.Script.Run

/-! Commands of steps as processes: a shell runs the script in a directory of the tree, and hands on
values in two files of its own. What becomes of a command is said for whatever shells there are; the
program starts those that run scripts here. -/

namespace Pipeline.Launch

open Script

/-- The directory of the files through which processes hand on values. -/
def filesDirectory : Location := ["tmp", "step"]

/-- The file for outputs. -/
def outputFile : Location := filesDirectory ++ ["output"]

/-- The file for environment variables. -/
def envFile : Location := filesDirectory ++ ["env"]

/-! ### Shells -/

/-- What a process leaves behind. -/
structure Traces where
  /-- What it has written to its output stream. -/
  output : Octets
  /-- What it has written to its error stream. -/
  errors : Octets
  /-- A process that was killed has none. -/
  exitCode : Option Int
  tree : FileTree

/-- The shells that commands are given to. -/
structure Shells where
  /-- Can a program be found with these variables? -/
  isFound : Dict String → String → Bool
  /-- What a process leaves behind that runs the script of a request in a directory. If it is
  cancelled from the start, it is killed when it waits for something. -/
  process : Shell → FileTree → Location → Command.Request → Bool → Traces

/-! ### What comes of a process -/

/-- A stream without the carriage returns in front of line feeds. -/
def withoutReturns : Octets → Octets
  | '\r' :: '\n' :: rest => '\n' :: withoutReturns rest
  | c :: rest => c :: withoutReturns rest
  | [] => []

/-- The lines of a stream, up to the first one that is no text. -/
def streamLines (octets : Octets) : List String :=
  (((Octets.lines (withoutReturns octets)).map Octets.toText?).takeWhile Option.isSome).filterMap id

/-- What comes of a process. -/
structure Outcome where
  output : List String
  errors : List String
  result : Command.Result
  tree : FileTree

namespace Outcome

/-- The lines that the process printed, those of the output stream first. -/
def lines (outcome : Outcome) : List Command.Line :=
  outcome.output.map (⟨·, false⟩) ++ outcome.errors.map (⟨·, true⟩)

/-- A process that could not be started. -/
def failure (tree : FileTree) (message : String) : Outcome :=
  ⟨[], [], .failure message, tree⟩

end Outcome

/-- The values in a file; one that is gone or no text holds none. -/
def valuesIn (tree : FileTree) (place : Location) : Dict String :=
  match tree.entry? place with
  | some (.file content) => Command.fileValues ((String.fromUTF8? content).getD "")
  | _ => []

namespace Shells

variable (shells : Shells)

/-- The process that a shell becomes: it finds two empty files for values, and their names in its
environment. -/
def start (shell : Shell) (tree : FileTree) (directory : Location) (request : Command.Request)
    (cancelled : Bool) : Traces :=
  let env := (request.env.insert "GITHUB_OUTPUT" (Location.render outputFile)).insert "GITHUB_ENV"
    (Location.render envFile)
  shells.process shell ((tree.write outputFile .empty).write envFile .empty) directory
    { request with env := env } cancelled

/-- What comes of a script that runs in a directory. The end of a process that is cancelled does not
count. -/
def runScript (shell : Shell) (tree : FileTree) (directory : Location) (request : Command.Request)
    (cancelled : Bool) : Outcome :=
  let traces := shells.start shell tree directory request cancelled
  let output := streamLines traces.output
  let errors := streamLines traces.errors
  let stdout := Command.capture output
  let outputs := (Command.printedOutputs stdout).override (valuesIn traces.tree outputFile)
  let result : Command.Result :=
    ⟨stdout, Command.capture errors, if cancelled then none else traces.exitCode, outputs,
      valuesIn traces.tree envFile, cancelled, none⟩
  ⟨output, errors, result, (traces.tree.remove outputFile).remove envFile⟩

/-- Runs the command of a step with the shell that it names, or the default one. -/
def run (default : Shell) (tree : FileTree) (request : Command.Request) (cancelled : Bool) :
    Outcome :=
  match Shell.choose default request.shell with
  | .error message => .failure tree message
  | .ok shell =>
    let failed := Outcome.failure (tree.makeDirectories filesDirectory)
      ("Failed to spawn shell process '" ++ shell.program ++
        "': No such file or directory (os error 2)")
    if shells.isFound request.env shell.program && tree.isDirectory request.directory then
      match tree.locate? request.directory with
      | some directory => shells.runScript shell tree directory request cancelled
      | none => failed
    else failed

end Shells

/-! ### The shells of the program -/

/-- The directories that hold all programs. -/
def programDirectories : List String := ["/bin", "/usr/bin", "/usr/local/bin"]

/-- The programs that can be started. -/
def programs : List String := ["sh", "bash", "python3"]

/-- Can a program be found with these variables? -/
def isFound (env : Dict String) (program : String) : Bool :=
  programs.contains program &&
    match env.get? "PATH" with
    | none => true
    | some path => (path.splitOn ":").any programDirectories.contains

/-- The variables that a shell starts with. -/
def startVariables (shell : Shell) (env : Dict String) (directory : Location) : Dict Variable :=
  let named := env.filter fun (name, _) => Octets.isName name.toList && name != "IFS"
  let given := Dict.mapValues (fun value => Variable.mk (.text (Octets.ofText value)) true) named
  let given := (Machine.ownVariables shell).override given
  let directoryVariable : Variable := ⟨.text (Octets.ofText directory.render), true⟩
  match shell with
  | .python => given
  | .bash =>
    (given.insert "PWD" directoryVariable).insert "SHLVL" ⟨.text ['0'], true⟩
  | _ => given.insert "PWD" directoryVariable

/-- A shell at the start of a script. -/
def startMachine (shell : Shell) (env : Dict String) (tree : FileTree) (directory : Location)
    (doomed : Bool) : Machine where
  scene :=
    { shell := shell
      name := shell.program.toList
      inline := true
      constants := []
      loops := 0
      store := startVariables shell env directory
      functions := []
      arguments := []
      options := ⟨shell != .python, false, shell == .bash, false, false, false, false⟩
      sinks := Machine.standardSinks
      hidden := []
      callers := []
      traps := []
      directory := directory
      visited := [] }
  tree := tree
  buffers := [[], []]
  input := []
  status := 0
  taken := none
  line := 1
  programs := []
  pending := []
  jobs := []
  doomed := doomed

/-- The exit code at the end of a script. One that was killed has none. -/
def exitCode? (ending : Except Stop Unit) (status : Nat) : Option Int :=
  match ending with
  | .ok () => some status
  | .error (.exit status) | .error (.back status) => some status
  | .error (.leave _) | .error (.skip _) => some status
  | .error .killed | .error .waits | .error .exhausted => none

/-- Runs the script of a request in a directory. -/
def execute (shell : Shell) (tree : FileTree) (directory : Location) (request : Command.Request)
    (cancelled : Bool) : Traces :=
  let script := Octets.ofText request.script
  let steps := match shell with
    | .python => Indented.run script
    | _ => runWhole script
  let (ending, after) := (steps.run).run (startMachine shell request.env tree directory cancelled)
  ⟨after.written 0, after.written 1, exitCode? ending after.status, after.tree⟩

/-- The shells that run scripts here. -/
def ownShells : Shells := ⟨isFound, execute⟩

/-- Runs the command of a step with the shell that it names, or the default one. -/
def run (default : Shell) (tree : FileTree) (request : Command.Request) (cancelled : Bool) :
    Outcome :=
  ownShells.run default tree request cancelled

end Pipeline.Launch
