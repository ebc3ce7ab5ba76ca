import Pipeline.Describe.Workflow
import Pipeline.Plan
import Pipeline.Settings

/-! What is settled before a run, as JSON: the settings, the event, and the plan. -/

namespace Pipeline

/-- The name of a shell in descriptions. -/
def Shell.describe : Shell → Json
  | sh => .string "Sh"
  | bash => .string "Bash"
  | pwsh => .string "Pwsh"
  | powerShell => .string "PowerShell"
  | python => .string "Python"

/-- The settings and the shell that they name. -/
def Settings.describe (s : Settings) : Json :=
  .object [("action-cache-dir", .string s.actionCache),
    ("default-shell", .ofText? s.defaultShell), ("inherit-env", .bool s.inheritEnv),
    ("max-action-depth", .ofNat? (some s.maxActionDepth)),
    ("queue-policy", .string s.queuePolicy.render),
    ("shell", s.shell?.elim .null Shell.describe)]

/-- The parts of an event. -/
def Event.describe (e : Event) : Json :=
  .object [("kind", .string e.kind), ("subtype", .ofText? e.subtype), ("ref", .string e.ref),
    ("head_ref", .ofText? e.headRef), ("base_ref", .ofText? e.baseRef), ("sha", .ofText? e.sha),
    ("actor", .ofText? e.actor)]

/-- An instance of a job with a name. -/
def Instance.describe (i : Instance) (jobName : String) : Json :=
  .object [("index", .int i.index), ("name", .string (i.displayName jobName)),
    ("matrix", Assignment.describe i.matrix), ("len", .int i.matrix.length)]

/-- An instance of a plan, with its combination in a form of its own. -/
def PlannedJob.describe (matrix : Assignment → Json) (j : PlannedJob) : Json :=
  .object [("job_id", .string j.jobId), ("name", .string j.name), ("index", .int j.index),
    ("matrix", matrix j.matrix), ("fail_fast", .bool j.failFast),
    ("max_parallel", .ofNat? j.maxParallel)]

/-- The parts of a plan, with its combinations in a form of their own. -/
def Plan.describe (matrix : Assignment → Json) (p : Plan) : Json :=
  .object [("workflow", .string p.workflow), ("accepted", .bool p.accepted),
    ("concurrency_key", .ofText? p.key), ("cancel_in_progress", .bool p.cancelInProgress),
    ("jobs", .array (p.jobs.map (PlannedJob.describe matrix)))]

end Pipeline
