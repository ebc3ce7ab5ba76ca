import Pipeline.Matrix
import Pipeline.Trigger
import Pipeline.Yaml.Decode

/-! Workflows as they are written, and how they are read from YAML. -/

namespace Pipeline.Document

/-- The filters of an event kind. An empty list does not filter. -/
structure Filters where
  subtypes : List String
  branches : List String
  branchesIgnore : List String

/-- No filters. -/
def Filters.none : Filters := ⟨[], [], []⟩

/-- The events that start a workflow: one kind, several kinds, or kinds with filters. -/
inductive Trigger where
  | single (kind : String)
  | several (kinds : List String)
  | filtered (kinds : Dict (Option Filters))

/-- The shell and directory of command steps that name none. -/
structure RunDefaults where
  shell : Option String
  directory : Option String

/-- No defaults. -/
def RunDefaults.none : RunDefaults := ⟨.none, .none⟩

/-- The group of runs of which one at a time is active. -/
structure Concurrency where
  group : String
  cancelInProgress : Bool

/-- A step of a job or of a composite action. -/
structure Step where
  id : Option String
  name : Option String
  condition : Option String
  run : Option String
  shell : Option String
  directory : Option String
  uses : Option String
  inputs : Dict Json
  env : Dict String
  continueOnError : Bool

/-- A step about which nothing is written. -/
def Step.empty : Step :=
  ⟨none, none, none, none, none, none, none, [], [], false⟩

/-- How the instances of a job are made and run. -/
structure Strategy where
  matrix : Option Matrix
  failFast : Bool
  maxParallel : Option Nat

/-- The strategy about which nothing is written: a failure stops the other instances. -/
def Strategy.empty : Strategy := ⟨none, true, none⟩

/-- A job. -/
structure Job where
  name : Option String
  env : Dict String
  defaults : Option RunDefaults
  strategy : Option Strategy
  steps : List Step

/-- A job about which nothing is written. -/
def Job.empty : Job := ⟨none, [], none, none, []⟩

/-- A workflow. -/
structure Workflow where
  name : Option String
  on : Trigger
  env : Dict String
  defaults : Option RunDefaults
  concurrency : Option Concurrency
  jobs : List (String × Job)

open Yaml (Decoder Node Walk)

/-- The names of the filters of an event kind. -/
def filterNames : List String := ["types", "branches", "branches-ignore"]

/-- Sets a filter. -/
def filterField (name : String) : Option (Node → Filters → Walk Filters) :=
  match name with
  | "types" => some fun node filters => do
    pure { filters with subtypes := ← Decoder.strictTexts node }
  | "branches" => some fun node filters => do
    pure { filters with branches := ← Decoder.strictTexts node }
  | "branches-ignore" => some fun node filters => do
    pure { filters with branchesIgnore := ← Decoder.strictTexts node }
  | _ => none

/-- The filters of an event kind: a mapping, or a sequence of the filters in their order. -/
def decodeFilters : Decoder Filters
  | .mapping entries _ =>
    Decoder.record (Decoder.strictField filterNames) filterField [] .none entries
  | .sequence items _ =>
    if items.length > filterNames.length then throw (.expected "three filters")
    else
      Decoder.record Decoder.text filterField [] .none
        ((filterNames.map fun name => Node.scalar name .plain none).zip items)
  | .broken => throw .brokenOff
  | _ => throw (.expected "filters of an event")

/-- The events that start a workflow. -/
def decodeTrigger : Decoder Trigger := fun node => do
  match ← Decoder.typed node with
  | .sequence items tag => return .several (← Decoder.strictTexts (.sequence items tag))
  | .mapping entries _ =>
    let kinds ← entries.mapM fun (key, value) => do
      let kind ← Decoder.strictText key
      if Decoder.isTypedNull value then pure (kind, none)
      else pure (kind, some (← decodeFilters value))
    pure (.filtered (Dict.ofList kinds))
  | node => pure (.single (← Decoder.strictText node))

/-- The fields of a detailed concurrency group. -/
def concurrencyField (name : String) :
    Option (Node → Option String × Bool → Walk (Option String × Bool)) :=
  match name with
  | "group" => some fun node value => do pure (some (← Decoder.strictText node), value.2)
  | "cancel-in-progress" => some fun node value => do pure (value.1, ← Decoder.strictBool node)
  | _ => none

/-- A concurrency group: its text, or a mapping. -/
def decodeConcurrency : Decoder Concurrency := fun node => do
  match ← Decoder.typed node with
  | .mapping entries _ =>
    let names := ["group", "cancel-in-progress"]
    let field := Decoder.strictField names
    match ← Decoder.record field concurrencyField [] (none, false) entries with
    | (some group, cancel) => pure ⟨group, cancel⟩
    | (none, _) => throw (.missingField "group")
  | node => pure ⟨← Decoder.strictText node, false⟩

/-- The shell and directory of command steps. -/
def decodeRunDefaults : Decoder RunDefaults :=
  Decoder.fields (fun name =>
    match name with
    | "shell" => some fun node value => do
      pure { value with shell := ← Decoder.optional Decoder.text node }
    | "working-directory" => some fun node value => do
      pure { value with directory := ← Decoder.optional Decoder.text node }
    | _ => none) .none

/-- The defaults of a workflow or a job. -/
def decodeDefaults : Decoder RunDefaults := fun node => do
  let run ← Decoder.fields (fun name =>
    match name with
    | "run" => some fun node _ => Decoder.optional decodeRunDefaults node
    | _ => none) none node
  pure (run.getD .none)

/-- An entry of a matrix that extends or removes combinations. -/
def decodeEntry : Decoder Assignment := fun node => do
  pure (Assignment.ofEntries (← Decoder.pairs Decoder.json node))

/-- The keys of a matrix in turn: additions, exclusions and dimensions. -/
def decodeMatrixEntries (matrix : Matrix) : List (Node × Node) → Walk Matrix
  | [] => pure matrix
  | (key, value) :: rest => do
    match ← Decoder.text key with
    | "include" =>
      decodeMatrixEntries { matrix with additions := ← Decoder.list decodeEntry value } rest
    | "exclude" =>
      decodeMatrixEntries { matrix with exclusions := ← Decoder.list decodeEntry value } rest
    | name =>
      let values ← tryCatch (Decoder.list Decoder.json value) fun _ =>
        throw (.dimensionNotList name)
      decodeMatrixEntries
        { matrix with dimensions := matrix.dimensions ++ [(name, values)] } rest

/-- A matrix: every key but `include` and `exclude` is a dimension. -/
def decodeMatrix : Decoder Matrix :=
  Decoder.entries (decodeMatrixEntries .empty)

/-- The strategy of a job. -/
def decodeStrategy : Decoder Strategy :=
  Decoder.fields (fun name =>
    match name with
    | "matrix" => some fun node value => do
      pure { value with matrix := ← Decoder.optional decodeMatrix node }
    | "fail-fast" => some fun node value => do
      pure { value with failFast := ← Decoder.bool node }
    | "max-parallel" => some fun node value => do
      pure { value with maxParallel := ← Decoder.optional Decoder.nat node }
    | _ => none) .empty

/-- The fields of a step. -/
def stepField (name : String) : Option (Node → Step → Walk Step) :=
  let text := Decoder.optional Decoder.text
  match name with
  | "id" => some fun node step => do pure { step with id := ← text node }
  | "name" => some fun node step => do pure { step with name := ← text node }
  | "if" => some fun node step => do pure { step with condition := ← text node }
  | "run" => some fun node step => do pure { step with run := ← text node }
  | "shell" => some fun node step => do pure { step with shell := ← text node }
  | "working-directory" => some fun node step => do pure { step with directory := ← text node }
  | "uses" => some fun node step => do pure { step with uses := ← text node }
  | "with" => some fun node step => do
    pure { step with inputs := ← Decoder.dict Decoder.json node }
  | "env" => some fun node step => do pure { step with env := ← Decoder.dict Decoder.text node }
  | "continue-on-error" => some fun node step => do
    pure { step with continueOnError := ← Decoder.bool node }
  | _ => none

/-- A step. -/
def decodeStep : Decoder Step := Decoder.fields stepField .empty

/-- A job. -/
def decodeJob : Decoder Job :=
  Decoder.fields (fun name =>
    match name with
    | "name" => some fun node job => do
      pure { job with name := ← Decoder.optional Decoder.text node }
    | "env" => some fun node job => do
      pure { job with env := ← Decoder.dict Decoder.text node }
    | "defaults" => some fun node job => do
      pure { job with defaults := ← Decoder.optional decodeDefaults node }
    | "strategy" => some fun node job => do
      pure { job with strategy := ← Decoder.optional decodeStrategy node }
    | "steps" => some fun node job => do
      pure { job with steps := ← Decoder.list decodeStep node }
    | _ => none) .empty

/-- The jobs of a workflow in turn; no two may have one identifier. -/
def decodeJobEntries (jobs : List (String × Job)) :
    List (Node × Node) → Walk (List (String × Job))
  | [] => pure jobs
  | (key, value) :: rest => do
    let id ← Decoder.text key
    let job ← decodeJob value
    if jobs.any (·.1 == id) then throw (.repeatedKey id)
    decodeJobEntries (jobs ++ [(id, job)]) rest

/-- A workflow whose required fields may still be missing. -/
structure Draft where
  name : Option String
  on : Option Trigger
  env : Dict String
  defaults : Option RunDefaults
  concurrency : Option Concurrency
  jobs : Option (List (String × Job))

/-- The fields of a workflow. -/
def workflowField (name : String) : Option (Node → Draft → Walk Draft) :=
  match name with
  | "name" => some fun node draft => do
    pure { draft with name := ← Decoder.optional Decoder.text node }
  | "on" => some fun node draft => do pure { draft with on := some (← decodeTrigger node) }
  | "env" => some fun node draft => do
    pure { draft with env := ← Decoder.dict Decoder.text node }
  | "defaults" => some fun node draft => do
    pure { draft with defaults := ← Decoder.optional decodeDefaults node }
  | "concurrency" => some fun node draft => do
    pure { draft with concurrency := ← Decoder.optional decodeConcurrency node }
  | "jobs" => some fun node draft => do
    pure { draft with jobs := some (← Decoder.entries (decodeJobEntries []) node) }
  | _ => none

/-- A workflow. -/
def decodeWorkflow : Decoder Workflow := fun node => do
  let draft ← Decoder.fields workflowField ⟨none, none, [], none, none, none⟩ node
  match draft.on, draft.jobs with
  | none, _ => throw (.missingField "on")
  | _, none => throw (.missingField "jobs")
  | some on, some jobs =>
    pure ⟨draft.name, on, draft.env, draft.defaults, draft.concurrency, jobs⟩

/-- Reads a workflow from its text. -/
def Workflow.parse (text : String) : Except Yaml.Error Workflow :=
  Yaml.decode decodeWorkflow text

end Pipeline.Document
