import Pipeline.Matrix
import Pipeline.Status

/-! How steps, job instances and runs ended. -/

namespace Pipeline

/-- The name of a run among all runs. -/
abbrev RunId := String

/-- How a step ended. -/
structure StepResult where
  name : String
  id : Option String
  status : StepStatus
  /-- The step failed, and the job went on because the step asked for that. -/
  continued : Bool
  exitCode : Option Int
  outputs : Dict String
  error : Option String
  /-- What the step printed. -/
  output : String
  /-- How long the step took, in microseconds. -/
  micros : Nat
  /-- The results of the steps inside a composite action. -/
  steps : List StepResult

namespace StepResult

/-- The result of a step of which only the status is known. -/
def of (name : String) (id : Option String) (status : StepStatus) : StepResult :=
  ⟨name, id, status, false, none, [], none, "", 0, []⟩

instance : Inhabited StepResult := ⟨of "" none .succeeded⟩

/-- The step failed and its job does not go on. -/
def isFailure (result : StepResult) : Bool :=
  result.status = .failed && !result.continued

/-- The status that the job goes on with: a failure that was continued counts as a success. -/
def conclusion (result : StepResult) : String :=
  if result.continued then StepStatus.succeeded.word else result.status.word

end StepResult

/-- How a job instance ended. -/
structure JobResult where
  jobId : String
  name : String
  index : Nat
  matrix : Assignment
  status : JobStatus
  steps : List StepResult
  error : Option String
  /-- How long the instance took, in microseconds. -/
  micros : Nat

namespace JobResult

/-- The first step that failed for good. -/
def failedStep? (result : JobResult) : Option StepResult :=
  result.steps.find? (·.isFailure)

end JobResult

/-- How a run ended. -/
structure RunOutcome where
  runId : RunId
  workflow : String
  /-- The key of the concurrency group, if the workflow has one. -/
  key : Option String
  status : RunStatus
  jobs : List JobResult
  /-- How long the run took, in microseconds. -/
  micros : Nat

namespace RunOutcome

/-- Did all instances succeed? -/
def succeeded (outcome : RunOutcome) : Bool :=
  outcome.status = .succeeded

end RunOutcome

end Pipeline
