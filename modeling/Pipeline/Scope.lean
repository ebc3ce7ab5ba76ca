import Pipeline.Expression.Template
import Pipeline.RunInfo

/-! What a step sees: the environment, the results of the steps before it and the inputs of the
action around it. -/

namespace Pipeline

/-- What the steps of a job, or of one use of a composite action, see and change. -/
structure Scope where
  env : Dict String
  /-- The finished steps that have an identifier. -/
  steps : Dict Json
  inputs : Dict Json
  status : Expression.JobFlags

namespace Scope

/-- Nothing is set and nothing has happened. -/
def empty : Scope := ⟨[], [], [], .ok⟩

/-- The scope of the steps of a composite action. They see neither the steps nor the failures
outside, but a cancelled job stays cancelled. -/
def child (scope : Scope) (env inputs : Dict String) : Scope :=
  ⟨env, [], inputs.mapValues .string, ⟨false, scope.status.cancelled⟩⟩

/-- A finished step as expressions see it. -/
def stepContext (result : StepResult) : Json :=
  .ofFields [("outputs", .ofTexts result.outputs), ("outcome", .string result.status.word),
    ("conclusion", .string result.conclusion)]

/-- The status of the job after a step. -/
def statusAfter (status : Expression.JobFlags) (result : StepResult) : Expression.JobFlags :=
  match result.status with
  | .failed => if result.continued then status else { status with failed := true }
  | .cancelled => { status with cancelled := true }
  | .succeeded | .skipped => status

/-- The scope after a step. -/
def record (scope : Scope) (result : StepResult) : Scope :=
  { scope with
    steps := match result.id with
      | some id => scope.steps.insert id (stepContext result)
      | none => scope.steps
    status := statusAfter scope.status result }

/-- The scope with variables set by a step. -/
def applyEnv (scope : Scope) (env : Dict String) : Scope :=
  { scope with env := Dict.override scope.env env }

/-- An output of a finished step. -/
def output? (scope : Scope) (id name : String) : Option String :=
  match (scope.steps.get? id).bind (·.field? "outputs") with
  | some outputs =>
    match outputs.field? name with
    | some (.string value) => some value
    | _ => none
  | none => none

end Scope

/-- The texts with their expressions replaced by values. -/
def interpolateAll (context : Expression.Context) :
    Dict String → Except Expression.EvalError (Dict String)
  | [] => .ok []
  | (key, template) :: rest => do
    let value ← Expression.interpolate template context
    pure ((key, value) :: (← interpolateAll context rest))

/-- A job instance with the run that it belongs to. -/
structure InstanceInfo where
  run : RunInfo
  matrix : Assignment

namespace InstanceInfo

/-- The contexts of expressions in a scope where `env` is visible. -/
def context (info : InstanceInfo) (scope : Scope) (env : Dict String) : Expression.Context :=
  ⟨info.run.github, env.mapValues .string, info.matrix.context, scope.steps, scope.inputs,
    info.run.machine.context, scope.status⟩

/-- The environment with a layer above it whose values see what lies below. -/
def addLayer (info : InstanceInfo) (env layer : Dict String) :
    Except Expression.EvalError (Dict String) := do
  let rendered ← interpolateAll (info.context { Scope.empty with env := env } env) layer
  pure (Dict.override env rendered)

/-- The scope of a job: the environments of the machine, the run, the workflow and the job, of
which a later one counts. -/
def rootScope (info : InstanceInfo) (job : Job) : Except Expression.EvalError Scope := do
  let env := Dict.override info.run.baseEnv info.run.defaultEnv
  let env ← info.addLayer env info.run.workflow.env
  let env ← info.addLayer env job.env
  pure { Scope.empty with env := env }

end InstanceInfo

end Pipeline
