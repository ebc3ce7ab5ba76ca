import Pipeline.Execution.Work
import Pipeline.Scope

/-! How steps run: one after the other, each in the scope that those before it leave behind. -/

namespace Pipeline

/-- What the steps of an instance run in. -/
structure Setting where
  info : InstanceInfo
  /-- Somebody carries out external actions. -/
  hasHost : Bool

namespace Step

/-- The result of the step with a status. -/
def resultOf (spec : Step) (status : StepStatus) : StepResult :=
  .of spec.name spec.id status

/-- The result of the step after a failure. -/
def failure (spec : Step) (error : String) : StepResult :=
  { spec.resultOf .failed with error := some error }

/-- The result after the step has ended: a failure is continued where the step asks for it. -/
def settle (spec : Step) (result : StepResult) : StepResult :=
  if result.status = .failed && spec.continueOnError then { result with continued := true }
  else result

section Settle

variable (spec : Step) (result : StepResult)

@[simp] theorem settle_name : (spec.settle result).name = result.name := by
  unfold settle
  split <;> rfl

@[simp] theorem settle_id : (spec.settle result).id = result.id := by
  unfold settle
  split <;> rfl

@[simp] theorem settle_status : (spec.settle result).status = result.status := by
  unfold settle
  split <;> rfl

@[simp] theorem settle_exitCode : (spec.settle result).exitCode = result.exitCode := by
  unfold settle
  split <;> rfl

@[simp] theorem settle_outputs : (spec.settle result).outputs = result.outputs := by
  unfold settle
  split <;> rfl

@[simp] theorem settle_steps : (spec.settle result).steps = result.steps := by
  unfold settle
  split <;> rfl

theorem settle_continued (h : result.continued = false) :
    (spec.settle result).continued =
      (decide (result.status = .failed) && spec.continueOnError) := by
  unfold settle
  split
  · next hcontinued => exact hcontinued.symm
  · next hcontinued => rw [h, Bool.eq_false_iff.mpr hcontinued]

end Settle

/-- Why the step is skipped. -/
def skipReason (spec : Step) : String :=
  match spec.condition with
  | some condition => "condition '" ++ condition ++ "' evaluated to false"
  | none => "a previous step failed"

end Step

/-- The environment and the inputs of a step: above the scope lies the environment of the step, and
above that its inputs. -/
def Setting.stepEnv (setting : Setting) (scope : Scope) (spec : Step) :
    Except Expression.EvalError (Dict String × Dict String) := do
  let own ← interpolateAll (setting.info.context scope scope.env) spec.env
  let env := Dict.override scope.env own
  let inputs ← interpolateAll (setting.info.context scope env) spec.inputs
  pure (Dict.override env inputs, inputs)

/-- The status of a command step. -/
def commandStatus (result : Command.Result) : StepStatus :=
  if result.cancelled then .cancelled else if result.succeeded then .succeeded else .failed

/-- How a failed command ended. -/
def exitReason : Option Int → String
  | some code => "process exited with code " ++ toString code
  | none => "process terminated by signal"

/-- What a command printed, the error stream last. -/
def commandOutput (result : Command.Result) : String :=
  if result.stderr = "" then result.stdout else result.stdout ++ "\n" ++ result.stderr

/-- The result of a command step. -/
def commandResult (spec : Step) (result : Command.Result) : StepResult :=
  let status := commandStatus result
  { spec.resultOf status with
    exitCode := result.exitCode
    outputs := result.outputs
    error := match result.error with
      | some error => some error
      | none => if status = .failed then some (exitReason result.exitCode) else none
    output := commandOutput result }

/-- Runs a command in a scope. What it writes to the environment is seen by the steps after it. -/
def Setting.runScript (setting : Setting) (scope : Scope) (spec : Step) (env : Dict String)
    (script : String) (shell directory : Option String) : Work (StepResult × Scope) :=
  match Expression.interpolate script (setting.info.context scope env) with
  | .error e => pure (spec.failure e.message, scope)
  | .ok script => do
    let workspace := setting.info.run.workspace
    let place := match directory with
      | some directory => Path.join workspace directory
      | none => workspace
    let result ← Work.runCommand spec.name ⟨script, shell, place, env⟩
    pure (commandResult spec result, if result.cancelled then scope else scope.applyEnv result.env)

/-- The inputs of a composite action: those that are given, and the defaults of the others. -/
def CompositeInfo.withDefaults (info : CompositeInfo) (provided : Dict String) : Dict String :=
  Dict.override info.inputDefaults provided

/-- The required inputs that are missing. -/
def CompositeInfo.missing (info : CompositeInfo) (inputs : Dict String) : List String :=
  Dict.keys (info.inputs.filter fun (name, input) => input.required && !Dict.contains inputs name)

/-- The variable that shows an input of a composite action to its steps. -/
def inputVariable (name : String) : String :=
  "INPUT_" ++ Text.upper (String.ofList (name.toList.map fun c => if c = ' ' then '_' else c))

/-- The environment of the steps of a composite action. -/
def compositeEnv (env inputs : Dict String) : Dict String :=
  Dict.override env (inputs.map fun (name, value) => (inputVariable name, value))

/-- The outputs of a composite action in turn, up to the first one that has no value. -/
def renderOutputs (context : Expression.Context) (outputs : Dict String) :
    List (String × String) → Dict String × Option String
  | [] => (outputs, none)
  | (name, template) :: rest =>
    match Expression.interpolate template context with
    | .error e => (outputs, some ("output '" ++ name ++ "': " ++ e.message))
    | .ok value => renderOutputs context (outputs.insert name value) rest

/-- The result of a composite action from those of its steps and the scope after them. -/
def Setting.compositeResult (setting : Setting) (spec : Step) (info : CompositeInfo)
    (steps : List StepResult) (scope : Scope) : StepResult :=
  let result := { spec.resultOf .succeeded with steps := steps }
  if steps.any (·.status = .cancelled) then { result with status := .cancelled }
  else
    match steps.find? (·.isFailure) with
    | some failed =>
      { result with
        status := .failed
        error := some (failed.name ++ ": " ++ failed.error.getD "failed") }
    | none =>
      match renderOutputs (setting.info.context scope scope.env) [] info.outputs with
      | (outputs, none) => { result with outputs := outputs }
      | (outputs, some error) =>
        { result with status := .failed, outputs := outputs, error := some error }

/-- The action that fetches the repository, which the workspace already holds. -/
def ActionRef.isCheckout : ActionRef → Bool
  | .external owner repo _ _ => owner = "actions" && repo = "checkout"
  | .workspace _ => false

/-- Has an external action carried out. Where nobody does that, it is skipped. -/
def Setting.runExternal (setting : Setting) (depth : Nat) (spec : Step) (action : ExternalAction)
    (env inputs : Dict String) : Work StepResult := do
  if setting.hasHost then
    let answer ← Work.callHost action inputs env
    let status : StepStatus :=
      if ← Work.cancelled then .cancelled else if answer.success then .succeeded else .failed
    let error :=
      if status = .failed then
        some (answer.message.getD ("action '" ++ action.identifier ++ "' failed"))
      else none
    pure { spec.resultOf status with outputs := answer.outputs, error := error }
  else if action.reference.isCheckout then pure (spec.resultOf .succeeded)
  else
    let reason := "no action host configured for '" ++ action.identifier ++ "'"
    Work.tell (.stepSkipped spec.name depth reason)
    Work.write .warning reason
    pure (spec.resultOf .skipped)

/-- Runs what a step does, between the report that it starts and the report that it has ended. -/
def Setting.runBody (setting : Setting) (depth : Nat) (scope : Scope) (spec : Step)
    (body : Dict String → Dict String → Work (StepResult × Scope)) : Work (StepResult × Scope) := do
  Work.tell (.stepStarted spec.name depth)
  let (result, scope) ← match setting.stepEnv scope spec with
    | .error e => pure (spec.failure e.message, scope)
    | .ok (env, inputs) => body env inputs
  Work.tell (.stepCompleted spec.name depth result.status result.exitCode)
  pure (spec.settle result, scope)

/-- Runs a step, unless the job is cancelled or the condition of the step does not hold. -/
def Setting.guarded (setting : Setting) (depth : Nat) (scope : Scope) (spec : Step)
    (body : Dict String → Dict String → Work (StepResult × Scope)) : Work (StepResult × Scope) := do
  if ← Work.cancelled then
    pure (spec.resultOf .cancelled, scope)
  else
    match Expression.evaluateCondition spec.condition (setting.info.context scope scope.env) with
    | .error e => pure (spec.settle (spec.failure ("invalid condition: " ++ e.message)), scope)
    | .ok false =>
      Work.tell (.stepSkipped spec.name depth spec.skipReason)
      pure (spec.resultOf .skipped, scope)
    | .ok true => setting.runBody depth scope spec body

mutual

/-- Runs a step in a scope. -/
def Setting.runStep (setting : Setting) (depth : Nat) (scope : Scope) :
    ResolvedStep → Work (StepResult × Scope)
  | .plain spec =>
    setting.guarded depth scope spec fun env _ =>
      match spec.body with
      | .command script shell directory => setting.runScript scope spec env script shell directory
      | .action reference =>
        pure (spec.failure ("action '" ++ reference.render ++ "' was not resolved"), scope)
  | .uses spec action =>
    setting.guarded depth scope spec fun env inputs => do
      let result ← setting.runAction depth spec env inputs action
      pure (result, scope)

/-- Runs an action for a step. -/
def Setting.runAction (setting : Setting) (depth : Nat) (spec : Step) (env inputs : Dict String) :
    ActionUnit → Work StepResult
  | .external action => setting.runExternal depth spec action env inputs
  | .composite info steps =>
    let inputs := info.withDefaults inputs
    let missing := info.missing inputs
    if missing.isEmpty then do
      let inner := Scope.empty.child (compositeEnv env inputs) inputs
      let (results, inner) ← setting.runSteps (depth + 1) inner steps
      pure (setting.compositeResult spec info results inner)
    else
      pure (spec.failure ("action '" ++ info.identifier ++ "' is missing required input(s): " ++
        ", ".intercalate missing))

/-- Runs steps in turn. -/
def Setting.runSteps (setting : Setting) (depth : Nat) (scope : Scope) :
    List ResolvedStep → Work (List StepResult × Scope)
  | [] => pure ([], scope)
  | step :: rest => do
    let (result, scope) ← setting.runStep depth scope step
    let (results, scope) ← setting.runSteps depth (scope.record result) rest
    pure (result :: results, scope)

end

end Pipeline
