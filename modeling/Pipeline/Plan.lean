import Pipeline.Error

/-! What the run of an event would be. -/

namespace Pipeline

/-- An instance that a run would have. -/
structure PlannedJob where
  jobId : String
  name : String
  index : Nat
  matrix : Assignment
  failFast : Bool
  maxParallel : Option Nat

/-- What the run of an event would be. -/
structure Plan where
  workflow : String
  /-- The event starts the workflow. -/
  accepted : Bool
  /-- The key of the concurrency group, if the workflow has one. -/
  key : Option String
  /-- The run would cancel the active one of its group. -/
  cancelInProgress : Bool
  jobs : List PlannedJob

/-- The instance of a job as a plan shows it. -/
def Job.planned (job : Job) (i : Instance) : PlannedJob :=
  ⟨job.id, i.displayName job.name, i.index, i.matrix, job.failFast, job.maxParallel⟩

/-- The instances of a run as a plan shows them. -/
def Workflow.plannedJobs (workflow : Workflow) : List PlannedJob :=
  workflow.expand.flatMap fun (job, instances) => instances.map job.planned

namespace RunInfo

/-- Does the event of the run start its workflow? -/
def accepted (run : RunInfo) : Except Error Bool :=
  match Trigger.accepts run.event run.workflow.triggers with
  | .error e => .error (.config (.trigger e))
  | .ok accepted => .ok accepted

/-- The key of the run's concurrency group, if there is one. -/
def groupKey (run : RunInfo) : Except Error (Option String) :=
  match run.workflow.concurrency with
  | none => .ok none
  | some policy =>
    match ConcurrencyKey.render policy.template run with
    | .error e => .error (.config (.key e))
    | .ok key => .ok (some key)

/-- Would the run cancel the active one of its group? -/
def cancelsActive (run : RunInfo) : Bool :=
  run.workflow.concurrency.any (·.cancelInProgress)

/-- What the run would be. -/
def plan (run : RunInfo) : Except Error Plan := do
  let accepted ← run.accepted
  let key ← run.groupKey
  pure ⟨run.workflow.name, accepted, key, run.cancelsActive, run.workflow.plannedJobs⟩

end RunInfo

end Pipeline
