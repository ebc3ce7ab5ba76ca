import Pipeline.Action.Unit
import Pipeline.Describe.Workflow
import Pipeline.Workflow.Check

/-! Manifests and actions as JSON. -/

namespace Pipeline

/-- The declared inputs of an action. -/
def Manifest.describeInputs (inputs : Dict Manifest.Input) : Json :=
  .object (inputs.mapValues fun i =>
    .object [("description", .ofText? i.description), ("required", .bool i.required),
      ("default", .ofText? (i.default.map Json.compact))])

/-- The declared outputs of an action. -/
def Manifest.describeOutputs (outputs : Dict Manifest.Output) : Json :=
  .object (outputs.mapValues fun o =>
    .object [("description", .ofText? o.description), ("value", .ofText? o.value)])

/-- The parts of a manifest. -/
def Manifest.describe (m : Manifest) : Json :=
  .object [("name", .ofText? m.name), ("description", .ofText? m.description),
    ("inputs", describeInputs m.inputs), ("outputs", describeOutputs m.outputs),
    ("using", .string m.runs.kind), ("main", .ofText? m.runs.main),
    ("composite", .bool m.isComposite),
    ("steps", .ofList (m.runs.steps.map Document.Step.displayName)),
    ("input_defaults", .ofTexts m.inputDefaults)]

/-- The parts of an external action. -/
def ExternalAction.describe (a : ExternalAction) : Json :=
  .object [("unit", .string "external"), ("identifier", .string a.identifier),
    ("fetch_key", .string a.fetchKey), ("reference", a.reference.describe),
    ("dir", .ofText? a.directory), ("using", .ofText? a.kind)]

/-- The parts of a composite action, given its steps. -/
def CompositeInfo.describe (info : CompositeInfo) (steps : List Json) : Json :=
  .object [("unit", .string "composite"), ("identifier", .string info.identifier),
    ("name", .string info.name), ("dir", .string info.directory),
    ("inputs", Manifest.describeInputs info.inputs),
    ("input_defaults", .ofTexts info.inputDefaults),
    ("outputs", .array (info.outputs.map fun (name, template) => .ofList [name, template])),
    ("steps", .array steps)]

mutual

/-- The parts of an action. -/
def ActionUnit.describe : ActionUnit → Json
  | .composite info steps => info.describe (ResolvedStep.describeAll steps)
  | .external action => action.describe

/-- A step with the action that it uses. -/
def ResolvedStep.describe : ResolvedStep → Json
  | .plain spec => .object [("spec", spec.describe), ("unit", .null)]
  | .uses spec action => .object [("spec", spec.describe), ("unit", action.describe)]

/-- Steps with the actions that they use. -/
def ResolvedStep.describeAll : List ResolvedStep → List Json
  | [] => []
  | step :: rest => step.describe :: ResolvedStep.describeAll rest

end

end Pipeline
