import Pipeline.Json.Writer
import Pipeline.Outcome

/-! Reports of runs as JSON. Fields stand in the order of the types, and one that says nothing is
left out. -/

namespace Pipeline

/-- Whole milliseconds. -/
def millis (micros : Nat) : Json := .int (micros / 1000)

/-- A field that is left out where there is no value. -/
def optionalField (name : String) (value : Option Json) : List (String × Json) :=
  match value with
  | some value => [(name, value)]
  | none => []

/-- A field that is left out where a condition does not hold. -/
def fieldWhen (condition : Bool) (name : String) (value : Json) : List (String × Json) :=
  if condition then [(name, value)] else []

/-- The fields of a step result that come before its duration. -/
def StepResult.head (result : StepResult) : List (String × Json) :=
  ("name", .string result.name) :: optionalField "id" (result.id.map .string) ++
  ("status", .string result.status.render) ::
  fieldWhen result.continued "continued_on_error" (.bool true) ++
  optionalField "exit_code" (result.exitCode.map .int) ++
  fieldWhen (!result.outputs.isEmpty) "outputs" (.ofTexts result.outputs) ++
  optionalField "error" (result.error.map .string)

mutual

/-- The report of a step. -/
def StepResult.report : StepResult → Json
  | ⟨name, id, status, continued, exitCode, outputs, error, output, micros, steps⟩ =>
    let result : StepResult :=
      ⟨name, id, status, continued, exitCode, outputs, error, output, micros, []⟩
    .object (result.head ++ ("duration_ms", millis micros) ::
      fieldWhen (!steps.isEmpty) "steps" (.array (StepResult.reports steps)))

/-- The reports of steps. -/
def StepResult.reports : List StepResult → List Json
  | [] => []
  | result :: rest => result.report :: StepResult.reports rest

end

/-- The report of a job instance. -/
def JobResult.report (result : JobResult) : Json :=
  .object (
    [("job_id", .string result.jobId), ("name", .string result.name),
      ("index", .int result.index), ("matrix", .object result.matrix),
      ("status", .string result.status.render),
      ("steps", .array (StepResult.reports result.steps))] ++
    optionalField "error" (result.error.map .string) ++
    [("duration_ms", millis result.micros)])

/-- The report of a run. -/
def RunOutcome.report (outcome : RunOutcome) : Json :=
  .object
    [("run_id", .string outcome.runId), ("workflow", .string outcome.workflow),
      ("concurrency_key", (outcome.key.map Json.string).getD .null),
      ("status", .string outcome.status.render),
      ("jobs", .array (outcome.jobs.map (·.report))), ("duration_ms", millis outcome.micros)]

end Pipeline
