import Pipeline.Outcome

/-! What runs report while they go on. -/

namespace Pipeline

/-- What happens to a run. -/
inductive RunEvent where
  /-- The run has been admitted, and its instances are about to start. -/
  | started (workflow : String) (key : Option String) (jobs : Nat)
  | queued (workflow key : String)
  /-- A newer run of the group has cancelled the run. -/
  | cancelled (key : String) (newer : RunId)
  | completed (workflow : String) (status : RunStatus)
  deriving Repr, DecidableEq

/-- What happens to a job instance and its steps. Steps inside composite actions are one level below
the step that uses the action. -/
inductive JobEvent where
  | started (jobId name : String) (steps : Nat)
  | completed (jobId : String) (status : JobStatus)
  | stepStarted (name : String) (depth : Nat)
  | stepOutput (name line : String) (isError : Bool)
  | stepCompleted (name : String) (depth : Nat) (status : StepStatus) (exitCode : Option Int)
  | stepSkipped (name : String) (depth : Nat) (reason : String)
  deriving Repr, DecidableEq

/-- How much a message matters. -/
inductive LogLevel where
  | debug
  | info
  | warning
  | error
  deriving Repr, DecidableEq

/-- The name of a level. -/
def LogLevel.render : LogLevel → String
  | debug => "debug"
  | info => "info"
  | warning => "warning"
  | error => "error"

/-- One report. -/
inductive Notice where
  | run (run : RunId) (event : RunEvent)
  | job (run : RunId) (index : Nat) (event : JobEvent)
  | log (run : Option RunId) (level : LogLevel) (message : String)
  deriving Repr, DecidableEq

/-- The run that a report is about. -/
def Notice.runId? : Notice → Option RunId
  | run id _ | job id _ _ => some id
  | log id _ _ => id

end Pipeline
