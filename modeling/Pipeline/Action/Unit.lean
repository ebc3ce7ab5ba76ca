import Pipeline.Action.Manifest
import Pipeline.Workflow.Definition

/-! Actions after their references have been looked up. -/

namespace Pipeline

/-- What a manifest says of a composite action, its steps apart. -/
structure CompositeHead where
  identifier : String
  name : String
  directory : String
  inputs : Dict Manifest.Input
  inputDefaults : Dict String
  /-- The outputs and the templates of their values. -/
  outputs : List (String × String)

/-- What is known of a composite action that has been looked up, its steps apart. -/
structure CompositeInfo extends CompositeHead where
  /-- How many levels of actions it takes up. -/
  height : Nat

/-- An action that something else carries out. -/
structure ExternalAction where
  identifier : String
  reference : ActionRef
  fetchKey : String
  /-- The local copy of the action. -/
  directory : Option String
  /-- The kind that the manifest of the copy names. -/
  kind : Option String

mutual

/-- An action that can be carried out. -/
inductive ActionUnit where
  | composite (info : CompositeInfo) (steps : List ResolvedStep)
  | external (action : ExternalAction)

/-- A step together with the action that it uses. -/
inductive ResolvedStep where
  | plain (spec : Step)
  | uses (spec : Step) (action : ActionUnit)

end

namespace ResolvedStep

/-- The step as it was written. -/
def spec : ResolvedStep → Step
  | plain spec => spec
  | uses spec _ => spec

/-- The action that the step uses. -/
def action? : ResolvedStep → Option ActionUnit
  | plain _ => none
  | uses _ action => some action

end ResolvedStep

/-- The name of an action that tells it from others. -/
def ActionUnit.identifier : ActionUnit → String
  | .composite info _ => info.identifier
  | .external action => action.identifier

/-- How many levels of actions an action takes up. -/
def ActionUnit.height : ActionUnit → Nat
  | .composite info _ => info.height
  | .external _ => 1

@[simp] theorem ActionUnit.height_composite (head : CompositeHead) (height : Nat)
    (steps : List ResolvedStep) :
    (ActionUnit.composite ⟨head, height⟩ steps).height = height := rfl

namespace ResolvedStep

/-- How many levels of actions a step takes up. -/
def height : ResolvedStep → Nat
  | plain _ => 0
  | uses _ action => action.height

/-- How many levels of actions the steps take up at most. -/
def heights : List ResolvedStep → Nat
  | [] => 0
  | step :: rest => max step.height (heights rest)

end ResolvedStep

end Pipeline
