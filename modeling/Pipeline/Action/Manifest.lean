import Pipeline.Files.Tree
import Pipeline.Workflow.Document

/-! Manifests of actions: what an action takes, gives and does. -/

namespace Pipeline

namespace Manifest

/-- An input that an action declares. -/
structure Input where
  description : Option String
  required : Bool
  default : Option Json

/-- An input about which nothing is written. -/
def Input.empty : Input := ⟨none, false, none⟩

/-- An output that an action declares. -/
structure Output where
  description : Option String
  /-- The template of its value. -/
  value : Option String

/-- An output about which nothing is written. -/
def Output.empty : Output := ⟨none, none⟩

/-- How an action runs. -/
structure Runs where
  /-- The kind of the action, such as `composite` or `node20`. -/
  kind : String
  steps : List Document.Step
  main : Option String

end Manifest

/-- The manifest of an action. -/
structure Manifest where
  name : Option String
  description : Option String
  inputs : Dict Manifest.Input
  outputs : Dict Manifest.Output
  runs : Manifest.Runs

namespace Manifest

/-- Why a directory gives no manifest. -/
inductive Error where
  | unreadable
  | yaml (error : Yaml.Error)
  | noSteps
  | notFound (directory : String)
  deriving Repr, DecidableEq

/-- The wording of a mistake. -/
def Error.message : Error → String
  | unreadable => "Failed to read action manifest: the file is not text"
  | yaml error => "Failed to parse action manifest: " ++ error.message
  | noSteps => "Invalid action manifest: composite action has no steps"
  | notFound directory => "Action manifest not found in: " ++ directory

open Yaml (Decoder Node)

/-- An input. -/
def decodeInput : Decoder Input :=
  Decoder.fields (fun name =>
    match name with
    | "description" => some fun node input => do
      pure { input with description := ← Decoder.optional Decoder.text node }
    | "required" => some fun node input => do
      pure { input with required := ← Decoder.bool node }
    | "default" => some fun node input => do
      pure { input with default := ← Decoder.optional Decoder.json node }
    | _ => none) .empty

/-- An output. -/
def decodeOutput : Decoder Output :=
  Decoder.fields (fun name =>
    match name with
    | "description" => some fun node output => do
      pure { output with description := ← Decoder.optional Decoder.text node }
    | "value" => some fun node output => do
      pure { output with value := ← Decoder.optional Decoder.text node }
    | _ => none) .empty

/-- How an action runs, while the kind may still be missing. -/
structure RunsDraft where
  kind : Option String
  steps : List Document.Step
  main : Option String

/-- How an action runs. -/
def decodeRuns : Decoder Runs := fun node => do
  let draft ← Decoder.fields (fun name =>
    match name with
    | "using" => some fun node (draft : RunsDraft) => do
      pure { draft with kind := some (← Decoder.text node) }
    | "steps" => some fun node draft => do
      pure { draft with steps := ← Decoder.list Document.decodeStep node }
    | "main" => some fun node draft => do
      pure { draft with main := ← Decoder.optional Decoder.text node }
    | _ => none) ⟨none, [], none⟩ node
  match draft.kind with
  | none => throw (.missingField "using")
  | some kind => pure ⟨kind, draft.steps, draft.main⟩

/-- A manifest whose required part may still be missing. -/
structure Draft where
  name : Option String
  description : Option String
  inputs : Dict Input
  outputs : Dict Output
  runs : Option Runs

/-- A manifest. -/
def decodeManifest : Decoder Manifest := fun node => do
  let draft ← Decoder.fields (fun name =>
    match name with
    | "name" => some fun node (draft : Draft) => do
      pure { draft with name := ← Decoder.optional Decoder.text node }
    | "description" => some fun node draft => do
      pure { draft with description := ← Decoder.optional Decoder.text node }
    | "inputs" => some fun node draft => do
      pure { draft with inputs := ← Decoder.dict decodeInput node }
    | "outputs" => some fun node draft => do
      pure { draft with outputs := ← Decoder.dict decodeOutput node }
    | "runs" => some fun node draft => do
      pure { draft with runs := some (← decodeRuns node) }
    | _ => none) ⟨none, none, [], [], none⟩ node
  match draft.runs with
  | none => throw (.missingField "runs")
  | some runs => pure ⟨draft.name, draft.description, draft.inputs, draft.outputs, runs⟩

/-- Does the action consist of steps? -/
def isComposite (manifest : Manifest) : Bool :=
  Text.equalFoldingAscii manifest.runs.kind "composite"

/-- Reads a manifest from its text. A composite action has at least one step. -/
def parse (text : String) : Except Error Manifest :=
  match Yaml.decode decodeManifest text with
  | .error e => .error (.yaml e)
  | .ok manifest =>
    if manifest.isComposite && manifest.runs.steps.isEmpty then .error .noSteps else .ok manifest

/-- The defaults of the inputs that have one, as text. -/
def inputDefaults (manifest : Manifest) : Dict String :=
  manifest.inputs.filterMap fun (name, input) =>
    input.default.map fun value => (name, Expression.toText value)

/-- The outputs that have a value, with its template. -/
def outputTemplates (manifest : Manifest) : List (String × String) :=
  manifest.outputs.filterMap fun (name, output) => output.value.map fun value => (name, value)

/-- The names of manifest files, in order of preference. -/
def fileNames : List String := ["action.yml", "action.yaml"]

/-- The manifest of the action in a directory. -/
def find (tree : FileTree) (directory : String) : Except Error Manifest :=
  match (fileNames.map (Path.join directory)).find? tree.isFile with
  | none => .error (.notFound directory)
  | some path =>
    match tree.readText? path with
    | none => .error .unreadable
    | some text => parse text

end Manifest

end Pipeline
