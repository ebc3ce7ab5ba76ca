import Pipeline.Expression.Template
import Pipeline.Workflow.Definition
import Pipeline.Workflow.Document

/-! What is wrong with a workflow as it is written. -/

namespace Pipeline

/-- What is wrong with a step. -/
inductive StepFault where
  | noBody
  | twoBodies
  | reference (error : ActionRef.Error)
  | template (error : Expression.EvalError)
  | condition (error : Expression.ParseError)
  deriving Repr, DecidableEq

/-- What is wrong with a workflow. -/
inductive WorkflowError where
  | trigger (error : Trigger.Error)
  | emptyGroup
  | badGroup (error : Expression.EvalError)
  | noJobs
  | noSteps (job : String)
  | emptyDimension (name job : String)
  | emptyEntry (job : String)
  | unknownDimension (job key : String)
  | noParallel (job : String)
  | step (index : Nat) (name owner : String) (fault : StepFault)
  | repeatedStepId (id owner : String)
  | reference (error : ActionRef.Error)
  | noBody (name : String)
  deriving Repr, DecidableEq

namespace WorkflowError

/-- The place of a step in words. -/
def stepPlace (index : Nat) (name owner : String) : String :=
  toString index ++ " '" ++ name ++ "' in " ++ owner

/-- The wording of a mistake. -/
def message : WorkflowError → String
  | trigger error => error.message
  | emptyGroup => "concurrency group must not be empty"
  | badGroup error => "invalid concurrency group: " ++ error.message
  | noJobs => "workflow has no jobs"
  | noSteps job => "Job '" ++ job ++ "' has no steps"
  | emptyDimension name job =>
    "matrix dimension '" ++ name ++ "' in job '" ++ job ++ "' has no values"
  | emptyEntry job => "empty include/exclude entry in matrix of job '" ++ job ++ "'"
  | unknownDimension job key =>
    "matrix exclude in job '" ++ job ++ "' references unknown dimension '" ++ key ++ "'"
  | noParallel job => "Job '" ++ job ++ "' has max-parallel of 0"
  | step index name owner .noBody =>
    "Step " ++ stepPlace index name owner ++ " must have either 'run' or 'uses'"
  | step index name owner .twoBodies =>
    "Step " ++ stepPlace index name owner ++ " cannot have both 'run' and 'uses'"
  | step index name owner (.reference error) =>
    "Step " ++ stepPlace index name owner ++ ": configuration error: " ++ error.message
  | step index name owner (.template error) =>
    "Step " ++ stepPlace index name owner ++ ": " ++ error.message
  | step index name owner (.condition error) =>
    "invalid condition on step " ++ stepPlace index name owner ++ ": " ++ error.message
  | repeatedStepId id owner => "duplicate step id '" ++ id ++ "' in " ++ owner
  | reference error => error.message
  | noBody name => "step '" ++ name ++ "' must have either 'run' or 'uses'"

end WorkflowError

namespace Document

/-- The name shown for a step without one is at most this long. -/
def nameLimit : Nat := 50

/-- The first line of a script, without its line end. -/
def firstLine (script : String) : String :=
  let cs := script.toList
  let line := cs.takeWhile (· != '\n')
  if line.length < cs.length && line.getLast? = some '\r' then String.ofList line.dropLast
  else String.ofList line

/-- The name shown for a step. -/
def Step.displayName (step : Step) : String :=
  match step.name, step.uses, step.run with
  | some name, _, _ => name
  | none, some uses, _ => "Run " ++ uses
  | none, none, some run =>
    let line := firstLine run
    if line.length > nameLimit then
      "Run " ++ String.ofList (line.toList.take (nameLimit - 3)) ++ "..."
    else "Run " ++ line
  | none, none, none => "Unnamed step"

/-- Checks the body of a step: either a command with a sound template or a reference. -/
def Step.checkBody (step : Step) : Except StepFault Unit :=
  match step.run, step.uses with
  | none, none => .error .noBody
  | some _, some _ => .error .twoBodies
  | none, some uses =>
    match ActionRef.parse uses with
    | .error e => .error (.reference e)
    | .ok _ => .ok ()
  | some run, none =>
    match Expression.checkTemplate run with
    | .error e => .error (.template e)
    | .ok () => .ok ()

/-- Checks that the condition of a step parses. -/
def Step.checkCondition (step : Step) : Except StepFault Unit :=
  match step.condition with
  | none => .ok ()
  | some condition =>
    match Expression.parse (Expression.stripWrapper condition) with
    | .error e => .error (.condition e)
    | .ok _ => .ok ()

/-- Checks steps from a place on, after steps that have the identifiers `ids`. -/
def checkStepsFrom (owner : String) (index : Nat) (ids : List String) :
    List Step → Except WorkflowError Unit
  | [] => .ok ()
  | step :: rest => do
    let name := step.name.getD "unnamed"
    match step.checkBody with
    | .error fault => throw (.step index name owner fault)
    | .ok () => pure ()
    let ids ← match step.id with
      | none => pure ids
      | some id => if ids.contains id then throw (.repeatedStepId id owner) else pure (id :: ids)
    match step.checkCondition with
    | .error fault => throw (.step index name owner fault)
    | .ok () => pure ()
    checkStepsFrom owner (index + 1) ids rest

/-- Checks the steps of a job or an action. -/
def checkSteps (owner : String) (steps : List Step) : Except WorkflowError Unit :=
  checkStepsFrom owner 0 [] steps

/-- The event kinds of a trigger. -/
def Trigger.kinds : Trigger → List String
  | single kind => [kind]
  | several kinds => kinds
  | filtered kinds => kinds.keys

/-- Checks a matrix: no dimension and no entry is empty, and exclusions name dimensions only. -/
def checkMatrix (job : String) (matrix : Matrix) : Except WorkflowError Unit :=
  match matrix.dimensions.find? (·.2.isEmpty) with
  | some (name, _) => .error (.emptyDimension name job)
  | none =>
    if (matrix.additions ++ matrix.exclusions).any List.isEmpty then .error (.emptyEntry job)
    else
      match (matrix.exclusions.flatMap fun e => e.map (·.1)).find? (!matrix.isDimension ·) with
      | some key => .error (.unknownDimension job key)
      | none => .ok ()

/-- Checks a job. -/
def checkJob (id : String) (job : Job) : Except WorkflowError Unit := do
  if job.steps.isEmpty then throw (.noSteps id)
  match job.strategy.bind (·.matrix) with
  | some matrix => checkMatrix id matrix
  | none => pure ()
  if job.strategy.bind (·.maxParallel) = some 0 then throw (.noParallel id)
  checkSteps ("job '" ++ id ++ "'") job.steps

/-- Checks a concurrency group. -/
def checkConcurrency (concurrency : Concurrency) : Except WorkflowError Unit :=
  if Text.isAllBlank concurrency.group then .error .emptyGroup
  else
    match Expression.checkTemplate concurrency.group with
    | .error e => .error (.badGroup e)
    | .ok () => .ok ()

/-- Checks the jobs of a workflow in turn. -/
def checkJobs : List (String × Job) → Except WorkflowError Unit
  | [] => .ok ()
  | (id, job) :: rest => do
    checkJob id job
    checkJobs rest

/-- Checks a workflow. -/
def Workflow.check (workflow : Workflow) : Except WorkflowError Unit := do
  match Pipeline.Trigger.checkKinds workflow.on.kinds with
  | .error e => throw (.trigger e)
  | .ok () => pure ()
  match workflow.concurrency with
  | some concurrency => checkConcurrency concurrency
  | none => pure ()
  if workflow.jobs.isEmpty then throw .noJobs
  checkJobs workflow.jobs

end Document

end Pipeline
