import Pipeline.CommandLine.Style
import Pipeline.Progress
import Pipeline.Text.Lines

/-! The lines that show how a run goes on. Times are not part of what a run reports, so that all of
them are shown as zero. -/

namespace Pipeline.CommandLine

/-- What has to be remembered of earlier reports. -/
structure Watch where
  /-- The names of the instances. -/
  names : List (Nat × String)
  /-- The depth of the step that each instance started last. -/
  depths : List (Nat × Nat)

namespace Watch

/-- Nothing has been reported. -/
def start : Watch := ⟨[], []⟩

/-- The name of an instance. -/
def nameOf (watch : Watch) (index : Nat) : String :=
  (watch.names.lookup index).getD ("job #" ++ toString index)

/-- The depth of the step that an instance is at. -/
def depthOf (watch : Watch) (index : Nat) : Nat := (watch.depths.lookup index).getD 0

/-- The time that everything takes. -/
def time : String := Style.seconds 0

/-- The sign for the end of a step. -/
def stepSign : StepStatus → String
  | .succeeded => "OK"
  | .failed => "FAIL"
  | .skipped => "SKIP"
  | .cancelled => "CANCELLED"

/-- The sign for the end of an instance. -/
def jobSign : JobStatus → String
  | .succeeded => "OK"
  | .failed => "FAIL"
  | .cancelled => "CANCELLED"
  | _ => "DONE"

/-- The line about the end of a run. -/
def summary : RunStatus → String
  | .succeeded => Style.success ("Run succeeded in " ++ time)
  | .failed => Style.failure ("Run failed after " ++ time)
  | .cancelled => Style.warning ("Run cancelled after " ++ time)

/-- The lines about what happens to a run. -/
def runLines (run : RunId) : RunEvent → List String
  | .started workflow key jobs =>
    let group := key.elim "" fun key => ", group '" ++ key ++ "'"
    ["", Style.header ("Run " ++ run ++ " of '" ++ workflow ++ "' (" ++ toString jobs ++ " jobs" ++
      group ++ ")")]
  | .queued _ key =>
    [Style.info ("Run " ++ run ++ " queued behind concurrency group '" ++ key ++ "'")]
  | .cancelled key newer =>
    [Style.warning ("Run " ++ run ++ " in group '" ++ key ++ "' superseded by " ++ newer)]
  | .completed _ status => ["", summary status]

/-- The line about the end of a step. An exit code is shown if it is not zero. -/
def stepEnd (name : String) (depth : Nat) (status : StepStatus) (exitCode : Option Int) : String :=
  let code := match exitCode with
    | some code => if code = 0 then "" else " (exit code: " ++ toString code ++ ")"
    | none => ""
  let text := name ++ " " ++ stepSign status ++ " (" ++ time ++ ")" ++ code
  Style.outcome (status = .succeeded) (status = .skipped) (Style.indent depth ++ "      " ++ text)

/-- The lines about what happens to an instance. -/
def jobLines (watch : Watch) (index : Nat) : JobEvent → List String
  | .started _ name steps => ["  Job '" ++ name ++ "' (" ++ toString steps ++ " steps)"]
  | .completed _ status =>
    [Style.outcome (status = .succeeded) false
      ("  Job '" ++ watch.nameOf index ++ "' " ++ jobSign status ++ " (" ++ time ++ ")")]
  | .stepStarted name depth =>
    [Style.indent depth ++ "    [" ++ watch.nameOf index ++ "] " ++ name]
  | .stepOutput _ text isError =>
    (Text.lines text).map fun line =>
      if isError then Style.stepError line (watch.depthOf index)
      else Style.stepOutput line (watch.depthOf index)
  | .stepCompleted name depth status exitCode => [stepEnd name depth status exitCode]
  | .stepSkipped name depth reason =>
    [Style.dim (Style.indent depth ++ "      " ++ name ++ " skipped: " ++ reason)]

/-- What is remembered after a report about an instance. -/
def remember (watch : Watch) (index : Nat) : JobEvent → Watch
  | .started _ name _ => { watch with names := (index, name) :: watch.names }
  | .stepStarted _ depth => { watch with depths := (index, depth) :: watch.depths }
  | _ => watch

/-- The line of a message. -/
def logLine (level : LogLevel) (message : String) : String :=
  match level with
  | .error => Style.error message
  | .warning => Style.warning message
  | .info => Style.info message
  | .debug => Style.dim message

/-- The lines of a report, and what is remembered after it. -/
def linesOf (watch : Watch) : Notice → List String × Watch
  | .run run event => (runLines run event, watch)
  | .job _ index event => (jobLines watch index event, watch.remember index event)
  | .log _ level message => ([logLine level message], watch)

/-- The lines of reports. -/
def lines (watch : Watch) : List Notice → List String
  | [] => []
  | notice :: rest =>
    let (front, watch) := watch.linesOf notice
    front ++ lines watch rest

end Watch

end Pipeline.CommandLine
