import Pipeline.ActionRef
import Pipeline.Matrix
import Pipeline.Trigger

/-! Workflows that have been checked: what runs are made of. -/

namespace Pipeline

/-- What a step does. -/
inductive StepBody where
  | command (script : String) (shell directory : Option String)
  | action (reference : ActionRef)
  deriving Repr, DecidableEq

/-- A step of a job or of a composite action. -/
structure Step where
  name : String
  id : Option String
  body : StepBody
  /-- The inputs as text. -/
  inputs : Dict String
  env : Dict String
  condition : Option String
  continueOnError : Bool
  deriving Repr, DecidableEq

namespace Step

/-- A step with nothing but a body. -/
def of (name : String) (body : StepBody) : Step :=
  ⟨name, none, body, [], [], none, false⟩

/-- The action that a step uses. -/
def reference? (step : Step) : Option ActionRef :=
  match step.body with
  | .action reference => some reference
  | .command .. => none

end Step

/-- A job. -/
structure Job where
  id : String
  name : String
  env : Dict String
  matrix : Matrix
  /-- A failed instance cancels the others. -/
  failFast : Bool
  /-- How many instances may run at a time. -/
  maxParallel : Option Nat
  steps : List Step

/-- The group of runs of which one at a time is active. -/
structure ConcurrencyPolicy where
  /-- The template of the key that the runs of the group share. -/
  template : String
  /-- A new run cancels the active one. -/
  cancelInProgress : Bool
  deriving Repr, DecidableEq

/-- A workflow. -/
structure Workflow where
  name : String
  triggers : List Trigger.Rule
  concurrency : Option ConcurrencyPolicy
  env : Dict String
  jobs : List Job

namespace Workflow

/-- The job of an identifier. -/
def job? (workflow : Workflow) (id : String) : Option Job :=
  workflow.jobs.find? (·.id == id)

end Workflow

/-- An instance of a job: one combination of its matrix. -/
structure Instance where
  /-- The place among all instances of the run. -/
  index : Nat
  jobId : String
  matrix : Assignment

namespace Instance

/-- The name of the job with the values of the combination. -/
def displayName (i : Instance) (jobName : String) : String :=
  if i.matrix.isEmpty then jobName else jobName ++ " (" ++ i.matrix.render ++ ")"

end Instance

/-- The instances of a job, numbered from `first`. -/
def Job.instances (job : Job) (first : Nat) : List Instance :=
  job.matrix.expand.mapIdx fun i matrix => ⟨first + i, job.id, matrix⟩

/-- The instances of all jobs, each job with its own. -/
def expandJobs (first : Nat) : List Job → List (Job × List Instance)
  | [] => []
  | job :: rest =>
    let instances := job.instances first
    (job, instances) :: expandJobs (first + instances.length) rest

/-- The jobs of a workflow with their instances, numbered from zero. -/
def Workflow.expand (workflow : Workflow) : List (Job × List Instance) :=
  expandJobs 0 workflow.jobs

end Pipeline
