import Pipeline.Action.Manifest
import Pipeline.Concurrency.Key
import Pipeline.Workflow.Check

/-! Why something that was asked for failed. -/

namespace Pipeline

/-- Why an action could not be looked up. -/
inductive ActionFault where
  /-- The action uses itself by way of the others. -/
  | cyclic (chain : List String)
  | missing (identifier directory : String)
  | unfetched (reason : String)
  deriving Repr, DecidableEq

namespace ActionFault

/-- The wording of a fault. -/
def message : ActionFault → String
  | cyclic chain => "cyclic action reference: " ++ " -> ".intercalate chain
  | missing identifier directory =>
    "action not found: " ++ identifier ++ " (no action.yml in " ++ directory ++ ")"
  | unfetched reason => "action not found: " ++ reason

end ActionFault

/-- Why a workflow, an action or the settings cannot be used. -/
inductive ConfigError where
  | trigger (error : Trigger.Error)
  | reference (error : ActionRef.Error)
  | workflow (error : WorkflowError)
  | key (error : ConcurrencyKey.Error)
  | queuePolicy (name : String)
  | depth (text : String)
  | settings (path reason : String)
  | noWorkspace (directory : String)
  | noWorkflow (argument directory : String)
  | manifest (identifier : String) (error : Manifest.Error)
  | notComposite (identifier : String)
  | tooDeep (identifier : String) (limit : Nat)
  | unresolved (job : String) (fault : ActionFault)
  deriving Repr, DecidableEq

namespace ConfigError

/-- The wording of a mistake. -/
def message : ConfigError → String
  | trigger error => error.message
  | reference error => error.message
  | workflow error => error.message
  | key error => error.message
  | queuePolicy name => "unknown queue policy '" ++ name ++ "'"
  | depth text => "GANTRY_MAX_ACTION_DEPTH: invalid number '" ++ text ++ "'"
  | settings path reason => path ++ ": " ++ reason
  | noWorkspace directory => "workspace '" ++ directory ++ "' is not a directory"
  | noWorkflow argument directory =>
    "workflow '" ++ argument ++ "' not found (looked in " ++ directory ++ ")"
  | manifest identifier error => "action '" ++ identifier ++ "': " ++ error.message
  | notComposite identifier => "local action '" ++ identifier ++ "' is not a composite action"
  | tooDeep identifier limit =>
    "action '" ++ identifier ++ "' exceeds the maximum nesting depth of " ++ toString limit
  | unresolved job fault => "job '" ++ job ++ "': " ++ fault.message

end ConfigError

/-- Why something that was asked for failed. -/
inductive Error where
  | config (cause : ConfigError)
  | action (fault : ActionFault)
  | stepFailure (step reason : String)
  | expression (error : Expression.EvalError)
  | yaml (error : Yaml.Error)
  | io (reason : String)
  deriving Repr, DecidableEq

namespace Error

/-- The wording of an error. -/
def message : Error → String
  | config cause => "configuration error: " ++ cause.message
  | action fault => fault.message
  | stepFailure step reason => "step '" ++ step ++ "' failed: " ++ reason
  | expression error => "expression error: " ++ error.message
  | yaml error => "YAML error: " ++ error.message
  | io reason => "IO error: " ++ reason

/-- Does the error stop a run before it is admitted? -/
def isFatal : Error → Bool
  | config _ | yaml _ | io _ => true
  | action _ | stepFailure .. | expression _ => false

end Error

end Pipeline
