import Pipeline.Json.Writer
import Pipeline.Workflow.Definition

/-! Workflows and their parts as JSON. Values that stand in a matrix are given as their JSON text,
so that `1` and `1.0` can be told apart. -/

namespace Pipeline

namespace Json

/-- A text that may be missing. -/
def ofText? (text : Option String) : Json := (text.map string).getD null

/-- A whole number that may be missing. -/
def ofNat? (n : Option Nat) : Json := (n.map fun n => int n).getD null

/-- A whole number that may be missing. -/
def ofInt? (n : Option Int) : Json := (n.map int).getD null

/-- A list of texts. -/
def ofList (texts : List String) : Json := array (texts.map string)

/-- The text of a value, as a value. -/
def quoted (value : Json) : Json := string value.compact

end Json

/-- The values of a combination by key. -/
def Assignment.describe (a : Assignment) : Json :=
  .array (a.map fun (key, value) => .array [.string key, value.quoted])

/-- The parts of a matrix. -/
def Matrix.describe (m : Matrix) : Json :=
  .object
    [("dimensions", .array (m.dimensions.map fun (name, values) =>
        .array [.string name, .array (values.map Json.quoted)])),
      ("include", .array (m.additions.map Assignment.describe)),
      ("exclude", .array (m.exclusions.map Assignment.describe))]

/-- The parts of a reference. -/
def ActionRef.describe : ActionRef → Json
  | .workspace path => .object [("kind", .string "local"), ("path", .string path)]
  | .external owner repo path version =>
    .object [("kind", .string "external"), ("owner", .string owner), ("repo", .string repo),
      ("path", .ofText? path), ("version", .string version)]

/-- What a step does. -/
def StepBody.describe : StepBody → Json
  | .command script shell directory =>
    .object [("run", .string script), ("shell", .ofText? shell),
      ("working_directory", .ofText? directory)]
  | .action reference =>
    .object [("uses", reference.describe), ("display", .string reference.render)]

/-- The parts of a step. -/
def Step.describe (s : Step) : Json :=
  .object [("name", .string s.name), ("id", .ofText? s.id), ("kind", s.body.describe),
    ("with", .ofTexts s.inputs), ("env", .ofTexts s.env), ("if", .ofText? s.condition),
    ("continue_on_error", .bool s.continueOnError)]

/-- The parts of a trigger rule. -/
def Trigger.Rule.describe (r : Trigger.Rule) : Json :=
  .object [("kind", .string r.kind), ("subtypes", .ofList r.subtypes),
    ("branches", .ofList r.branches), ("branches_ignore", .ofList r.branchesIgnore)]

/-- The parts of a job. -/
def Job.describe (j : Job) : Json :=
  .object [("id", .string j.id), ("name", .string j.name), ("env", .ofTexts j.env),
    ("matrix", j.matrix.describe), ("fail_fast", .bool j.failFast),
    ("max_parallel", .ofNat? j.maxParallel), ("steps", .array (j.steps.map Step.describe))]

/-- The parts of a concurrency policy. -/
def ConcurrencyPolicy.describe (c : ConcurrencyPolicy) : Json :=
  .object [("group", .string c.template), ("cancel_in_progress", .bool c.cancelInProgress)]

/-- The parts of a workflow. -/
def Workflow.describe (w : Workflow) : Json :=
  .object [("name", .string w.name), ("triggers", .array (w.triggers.map Trigger.Rule.describe)),
    ("concurrency", (w.concurrency.map ConcurrencyPolicy.describe).getD .null),
    ("env", .ofTexts w.env), ("jobs", .array (w.jobs.map Job.describe))]

end Pipeline
