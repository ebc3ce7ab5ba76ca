import Pipeline.Describe.Workflow
import Pipeline.Outcome.Report
import Pipeline.Progress

/-! Results and progress as JSON. -/

namespace Pipeline

mutual

/-- A step result with what the step printed, and without its duration. -/
def StepResult.describe : StepResult → Json
  | ⟨name, id, status, continued, exitCode, outputs, error, output, micros, steps⟩ =>
    let result : StepResult :=
      ⟨name, id, status, continued, exitCode, outputs, error, output, micros, []⟩
    .object (result.head ++
      fieldWhen (!steps.isEmpty) "steps" (.array (StepResult.describeAll steps)) ++
      [("output", .string output), ("conclusion", .string result.conclusion)])

/-- Step results with what the steps printed. -/
def StepResult.describeAll : List StepResult → List Json
  | [] => []
  | result :: rest => result.describe :: StepResult.describeAll rest

end

/-- The parts of a result of a job instance. -/
def JobResult.describe (j : JobResult) : Json :=
  .object [("job_id", .string j.jobId), ("name", .string j.name), ("index", .int j.index),
    ("matrix", Assignment.describe j.matrix), ("status", .string j.status.render),
    ("error", .ofText? j.error), ("failed_step", .ofText? (j.failedStep?.map (·.name))),
    ("steps", .array (StepResult.describeAll j.steps))]

/-- The parts of an outcome. -/
def RunOutcome.describe (o : RunOutcome) : Json :=
  .object [("run_id", .string o.runId), ("workflow", .string o.workflow), ("key", .ofText? o.key),
    ("status", .string o.status.render), ("succeeded", .bool o.succeeded),
    ("jobs", .array (o.jobs.map JobResult.describe))]

/-- What happens to a run, as a list that starts with a name. -/
def RunEvent.describe : RunEvent → Json
  | .started workflow key jobs =>
    .array [.string "run_started", .string workflow, .ofText? key, .int jobs]
  | .queued workflow key => .ofList ["run_queued", workflow, key]
  | .cancelled key newer => .ofList ["run_cancelled", key, newer]
  | .completed workflow status => .ofList ["run_completed", workflow, status.render]

/-- What happens to an instance, as a list that starts with a name. -/
def JobEvent.describe : JobEvent → Json
  | .started id name steps => .array [.string "job_started", .string id, .string name, .int steps]
  | .completed id status => .ofList ["job_completed", id, status.render]
  | .stepStarted name depth => .array [.string "step_started", .string name, .int depth]
  | .stepOutput name line isError =>
    .array [.string "step_output", .string name, .string line, .bool isError]
  | .stepCompleted name depth status code =>
    .array [.string "step_completed", .string name, .int depth, .string status.render,
      .ofInt? code]
  | .stepSkipped name depth reason =>
    .array [.string "step_skipped", .string name, .int depth, .string reason]

/-- A report, as a list that starts with a name. -/
def Notice.describe : Notice → Json
  | .run _ event => event.describe
  | .job _ _ event => event.describe
  | .log _ level message => .ofList ["log", level.render, message]

end Pipeline
