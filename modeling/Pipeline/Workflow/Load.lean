import Pipeline.Error

/-! From workflows as they are written, in a text or in a file, to workflows that can run: what a
sound document means. -/

namespace Pipeline

namespace Document

/-- The rule for events of a kind with filters. -/
def Filters.rule (filters : Filters) (kind : String) : Pipeline.Trigger.Rule :=
  ⟨kind, filters.subtypes, filters.branches, filters.branchesIgnore⟩

/-- The rules of a trigger. Those with filters are in the order of their kinds. -/
def Trigger.rules : Trigger → List Pipeline.Trigger.Rule
  | single kind => [.of kind]
  | several kinds => kinds.map .of
  | filtered kinds => kinds.map fun (kind, filters) => (filters.getD .none).rule kind

/-- What a step means where defaults hold. A step needs a body. -/
def Step.compile (defaults : RunDefaults) (step : Step) : Except WorkflowError Pipeline.Step := do
  let body ← match step.run, step.uses with
    | some run, _ =>
      pure (StepBody.command run (step.shell <|> defaults.shell)
        (step.directory <|> defaults.directory))
    | none, some uses =>
      match ActionRef.parse uses with
      | .error e => throw (.reference e)
      | .ok reference => pure (.action reference)
    | none, none => throw (.noBody step.displayName)
  pure ⟨step.displayName, step.id, body, step.inputs.mapValues Expression.toText, step.env,
    step.condition, step.continueOnError⟩

/-- What a job means where defaults hold. -/
def Job.compile (defaults : RunDefaults) (id : String) (job : Job) :
    Except WorkflowError Pipeline.Job := do
  let own := job.defaults.getD .none
  let defaults := ⟨own.shell <|> defaults.shell, own.directory <|> defaults.directory⟩
  let strategy := job.strategy.getD .empty
  let steps ← job.steps.mapM (Step.compile defaults)
  pure ⟨id, job.name.getD id, job.env, strategy.matrix.getD .empty, strategy.failFast,
    strategy.maxParallel, steps⟩

/-- The name of a workflow that has none. -/
def unnamedWorkflow : String := "workflow"

/-- What a workflow means, if nothing is wrong with it. -/
def Workflow.compile (workflow : Workflow) : Except WorkflowError Pipeline.Workflow := do
  workflow.check
  let defaults := workflow.defaults.getD .none
  let jobs ← workflow.jobs.mapM fun (id, job) => job.compile defaults id
  let concurrency := workflow.concurrency.map fun c =>
    ConcurrencyPolicy.mk c.group c.cancelInProgress
  pure ⟨workflow.name.getD unnamedWorkflow, workflow.on.rules, concurrency, workflow.env, jobs⟩

end Document

/-- What a workflow document means. -/
def Document.Workflow.define (document : Document.Workflow) : Except Error Pipeline.Workflow :=
  match document.compile with
  | .error e => .error (.config (.workflow e))
  | .ok workflow => .ok workflow

/-- Reads and checks the text of a workflow. -/
def Workflow.parse (text : String) : Except Error Workflow :=
  match Document.Workflow.parse text with
  | .error e => .error (.yaml e)
  | .ok document => document.define

/-- Reads the workflow document in a file. One that has no name is named for its file. -/
def Document.Workflow.load (tree : FileTree) (path : String) : Except Error Document.Workflow :=
  match tree.readText? path with
  | none => .error (.io "the file cannot be read")
  | some text =>
    match Document.Workflow.parse text with
    | .error e => .error (.yaml e)
    | .ok document => .ok { document with name := document.name <|> Path.stem? path }

/-- Reads and checks the workflow in a file. -/
def Workflow.load (tree : FileTree) (path : String) : Except Error Workflow := do
  (← Document.Workflow.load tree path).define

end Pipeline
