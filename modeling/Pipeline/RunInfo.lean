import Pipeline.Expression.Eval
import Pipeline.Outcome
import Pipeline.Workflow.Definition

/-! What all job instances of a run know: the event, the workflow and the machine. -/

namespace Pipeline

/-- Facts about the machine that steps run on. -/
structure Machine where
  os : String
  arch : String
  /-- The directory for temporary files. -/
  temp : String

namespace Machine

/-- The machine as the `runner` context. -/
def context (machine : Machine) : Dict Json :=
  Dict.ofList [("os", .string machine.os), ("arch", .string machine.arch),
    ("temp", .string machine.temp)]

/-- A usual machine. -/
def linux : Machine := ⟨"Linux", "x86_64", "/tmp"⟩

end Machine

/-- The facts that all instances of a run share. -/
structure RunInfo where
  id : RunId
  workflow : Workflow
  event : Event
  /-- The directory that the run works in. -/
  workspace : String
  /-- The environment below all others. -/
  baseEnv : Dict String
  machine : Machine

/-- The short name of a branch or a tag. -/
def refName (ref : String) : String :=
  let stem (mark : String) : Option String :=
    if ref.startsWith mark then some (String.ofList (ref.toList.drop mark.length)) else none
  (stem "refs/heads/" <|> stem "refs/tags/").getD ref

namespace RunInfo

/-- The run as the `github` context. -/
def github (run : RunInfo) : Dict Json :=
  let event := run.event
  let text (value : Option String) : Json := .string (value.getD "")
  Dict.ofList
    [("workflow", .string run.workflow.name), ("run_id", .string run.id),
      ("event_name", .string event.kind), ("ref", .string event.ref),
      ("ref_name", .string (refName event.ref)), ("head_ref", text event.headRef),
      ("base_ref", text event.baseRef), ("sha", text event.sha), ("actor", text event.actor),
      ("workspace", .string run.workspace),
      ("event", .object [("action", (event.subtype.map Json.string).getD .null)])]

/-- The contexts of the run where nothing but the run is known. -/
def context (run : RunInfo) : Expression.Context :=
  { Expression.Context.empty with github := run.github }

/-- The variables that every step sees. -/
def defaultEnv (run : RunInfo) : Dict String :=
  let event := run.event
  Dict.ofList
    [("CI", "true"), ("GITHUB_ACTIONS", "true"), ("GITHUB_WORKFLOW", run.workflow.name),
      ("GITHUB_RUN_ID", run.id), ("GITHUB_EVENT_NAME", event.kind), ("GITHUB_REF", event.ref),
      ("GITHUB_REF_NAME", refName event.ref), ("GITHUB_HEAD_REF", event.headRef.getD ""),
      ("GITHUB_BASE_REF", event.baseRef.getD ""), ("GITHUB_SHA", event.sha.getD ""),
      ("GITHUB_ACTOR", event.actor.getD ""), ("GITHUB_WORKSPACE", run.workspace),
      ("RUNNER_OS", run.machine.os), ("RUNNER_TEMP", run.machine.temp)]

end RunInfo

end Pipeline
