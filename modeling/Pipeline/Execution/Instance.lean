import Pipeline.Execution.Steps

/-! How a job instance runs, from its slot to its result. -/

namespace Pipeline

/-- The status of an instance from the results of its steps. -/
def jobStatus (steps : List StepResult) : JobStatus :=
  if steps.any (·.status = .cancelled) then .cancelled
  else if steps.any (·.isFailure) then .failed
  else .succeeded

/-- The result of an instance. -/
def Job.resultOf (job : Job) (i : Instance) (status : JobStatus) (steps : List StepResult)
    (error : Option String) : JobResult :=
  ⟨job.id, i.displayName job.name, i.index, i.matrix, status, steps, error, 0⟩

/-- The result of an instance that never ran. -/
def Job.cancelledResult (job : Job) (i : Instance) : JobResult :=
  job.resultOf i .cancelled (job.steps.map (·.resultOf .cancelled)) none

/-- The result of an instance whose work died. -/
def Job.abandonedResult (job : Job) (i : Instance) : JobResult :=
  job.resultOf i .failed [] (some "job task ended abnormally")

/-- The result of an instance that could not start its steps. -/
def Job.unstartedResult (job : Job) (i : Instance) (error : Error) : JobResult :=
  job.resultOf i .failed (job.steps.map (·.resultOf .skipped)) (some error.message)

/-- The result of an instance from those of its steps. -/
def Job.finishedResult (job : Job) (i : Instance) (steps : List StepResult) : JobResult :=
  let error := (steps.find? (·.isFailure)).map fun failed =>
    (Error.stepFailure failed.name (failed.error.getD "step failed")).message
  job.resultOf i (jobStatus steps) steps error

/-- What the steps of an instance start from. -/
def InstanceInfo.prepare (info : InstanceInfo) (job : Job)
    (resolved : Except Error (List ResolvedStep)) : Except Error (List ResolvedStep × Scope) := do
  let steps ← resolved
  match info.rootScope job with
  | .error e => throw (.expression e)
  | .ok scope => pure (steps, scope)

/-- Runs all steps of an instance. -/
def Job.run (job : Job) (run : RunInfo) (hasHost : Bool) (i : Instance) : Work JobResult := do
  if ← Work.cancelled then
    pure (job.cancelledResult i)
  else
    Work.tell (.started job.id (i.displayName job.name) job.steps.length)
    let setting : Setting := ⟨⟨run, i.matrix⟩, hasHost⟩
    let resolved ← Work.lookUp job.steps
    let result ← match setting.info.prepare job resolved with
      | .ok (steps, scope) => do
        let (results, _) ← setting.runSteps 0 scope steps
        pure (job.finishedResult i results)
      | .error e => do
        Work.write .error e.message
        pure (job.unstartedResult i e)
    Work.tell (.completed job.id result.status)
    pure result

/-- The work of an instance among its siblings. It holds a slot while it runs if slots are limited,
and a failure cancels the siblings if the job asks for that. -/
def Job.task (job : Job) (run : RunInfo) (hasHost : Bool) (i : Instance) : Work JobResult := do
  let held ←
    if job.maxParallel.isSome then Work.queueUp (.awaitSlot .done)
    else pure false
  let status : JobStatus := if ← Work.cancelled then .cancelled else .running
  Work.move status (.done ())
  let result ← job.run run hasHost i
  Work.move result.status (.done ())
  if result.status = .failed && job.failFast then Work.cancelSiblings (.done ())
  if held then Work.freeSlot (.done ())
  pure result

end Pipeline
