import Pipeline.Action.Cache
import Pipeline.Action.Unit
import Pipeline.Workflow.Load

/-! Looking up the actions that steps use. The actions inside composite ones are looked up with
them, to a limited depth, and an action that comes to use itself is refused. -/

namespace Pipeline

/-- What looking up depends on. -/
structure Resolver where
  workspace : String
  /-- How many levels of actions there may be. -/
  maxDepth : Nat

namespace Resolver

/-- How many levels of actions there may be if nothing else is said. -/
def defaultDepth : Nat := 16

/-- What has been looked up so far. -/
structure Memory where
  cache : ActionCache
  units : Dict ActionUnit

/-- A look-up, which remembers what it has found even if it fails. -/
abbrev LookUp (α : Type) := ExceptT Error (StateM Memory) α

/-- The path in the workspace of a local reference. -/
def localPath (path : String) : String :=
  match path.toList with
  | '.' :: '/' :: rest => String.ofList rest
  | cs => String.ofList (cs.dropWhile (· = '.'))

/-- The name of an action that tells it from others. -/
def identifier : ActionRef → String
  | .workspace path => "./" ++ "/".intercalate (Path.downNames (localPath path))
  | .external owner repo path version => (ActionRef.external owner repo path version).render

/-- Refuses an action at too great a depth. -/
def checkDepth (resolver : Resolver) (identifier : String) (depth : Nat) : LookUp Unit :=
  if depth > resolver.maxDepth then throw (.config (.tooDeep identifier resolver.maxDepth))
  else pure ()

/-- The steps of a manifest, checked. -/
def compileSteps (identifier : String) (manifest : Manifest) : Except Error (List Step) :=
  let compiled := do
    Document.checkSteps ("action '" ++ identifier ++ "'") manifest.runs.steps
    manifest.runs.steps.mapM (Document.Step.compile .none)
  match compiled with
  | .error e => .error (.config (.workflow e))
  | .ok steps => .ok steps

/-- Looks up the actions of steps, given how to look up one. -/
def resolveList (resolve : ActionRef → LookUp ActionUnit) : List Step → LookUp (List ResolvedStep)
  | [] => pure []
  | step :: rest => do
    let resolved ← match step.reference? with
      | none => pure (ResolvedStep.plain step)
      | some reference => do
        let action ← resolve reference
        pure (ResolvedStep.uses step action)
    let others ← resolveList resolve rest
    pure (resolved :: others)

/-- The composite action in a directory; another kind of action is none. A local action needs a
manifest. -/
def loadDirectory (tree : FileTree) (resolve : ActionRef → LookUp ActionUnit)
    (identifier directory : String) : LookUp (Option ActionUnit) := do
  match Manifest.find tree directory with
  | .error (.notFound place) =>
    if identifier.startsWith "./" then throw (.action (.missing identifier place)) else pure none
  | .error e => throw (.config (.manifest identifier e))
  | .ok manifest =>
    if !manifest.isComposite then pure none
    else
      let specs ← (compileSteps identifier manifest : Except Error (List Step))
      let steps ← resolveList resolve specs
      let head := ⟨identifier, manifest.name.getD identifier, directory, manifest.inputs,
        manifest.inputDefaults, manifest.outputTemplates⟩
      pure (some (.composite ⟨head, 1 + ResolvedStep.heights steps⟩ steps))

/-- Asks the cache for an external action. -/
def fetch (tree : FileTree) (reference : ActionRef) (key : String) : LookUp (Option String) := do
  let memory ← get
  match memory.cache.fetch tree reference key with
  | (.ok directory, cache) =>
    set { memory with cache := cache }
    pure directory
  | (.error e, cache) =>
    set { memory with cache := cache }
    throw (.action (.unfetched e.message))

/-- The kind that the manifest in a directory names. -/
def kindIn (tree : FileTree) (directory : String) : Option String :=
  match Manifest.find tree directory with
  | .ok manifest => some manifest.runs.kind
  | .error _ => none

/-- Looks up an action that has not been seen before, given how to look up those inside it. -/
def resolveNew (resolver : Resolver) (tree : FileTree) (resolve : ActionRef → LookUp ActionUnit)
    (identifier : String) (reference : ActionRef) : LookUp ActionUnit := do
  match reference with
  | .workspace path =>
    let directory := Path.join resolver.workspace (localPath path)
    match ← loadDirectory tree resolve identifier directory with
    | some action => pure action
    | none => throw (.config (.notComposite identifier))
  | .external .. =>
    let key := reference.fetchKey?.getD identifier
    let directory ← fetch tree reference key
    let loaded ← match directory with
      | some directory => loadDirectory tree resolve identifier directory
      | none => pure none
    pure (loaded.getD
      (.external ⟨identifier, reference, key, directory, directory.bind (kindIn tree)⟩))

/-- Looks up an action inside the actions of `path`, with so many levels left. -/
def resolveAt (resolver : Resolver) (tree : FileTree) (levels : Nat) (path : List String)
    (reference : ActionRef) : LookUp ActionUnit := do
  let identifier := identifier reference
  if path.contains identifier then throw (.action (.cyclic (path ++ [identifier])))
  match (← get).units.get? identifier with
  | some action =>
    resolver.checkDepth identifier (path.length + action.height)
    pure action
  | none =>
    match levels with
    | 0 => throw (.config (.tooDeep identifier resolver.maxDepth))
    | levels + 1 =>
      let action ← resolver.resolveNew tree (resolver.resolveAt tree levels (path ++ [identifier]))
        identifier reference
      modify fun memory => { memory with units := memory.units.insert identifier action }
      pure action

/-- Looks up an action. -/
def resolve (resolver : Resolver) (tree : FileTree) (reference : ActionRef) : LookUp ActionUnit :=
  resolver.resolveAt tree resolver.maxDepth [] reference

/-- Looks up the actions that steps use. -/
def resolveSteps (resolver : Resolver) (tree : FileTree) (steps : List Step) :
    LookUp (List ResolvedStep) :=
  resolveList (resolver.resolve tree) steps

/-- Looks up all actions of jobs without running anything. -/
def preflightJobs (resolver : Resolver) (tree : FileTree) : List Job → LookUp Unit
  | [] => pure ()
  | job :: rest => do
    tryCatch (do let _ ← resolver.resolveSteps tree job.steps) fun e =>
      match e with
      | .action fault => throw (.config (.unresolved job.id fault))
      | e => throw e
    resolver.preflightJobs tree rest

/-- Looks up all actions of a workflow without running anything. -/
def preflight (resolver : Resolver) (tree : FileTree) (workflow : Workflow) : LookUp Unit :=
  resolver.preflightJobs tree workflow.jobs

end Resolver

end Pipeline
