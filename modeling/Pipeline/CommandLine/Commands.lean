import Pipeline.Action.Resolver
import Pipeline.CommandLine.Arguments
import Pipeline.CommandLine.Watch
import Pipeline.Describe.Settings
import Pipeline.Files.Discovery
import Pipeline.Json.Writer
import Pipeline.Launch
import Pipeline.Outcome.Report
import Pipeline.Session.Turns
import Pipeline.Workflow.Load

/-! The commands of the command line, on a tree of files and the variables of an environment. -/

namespace Pipeline.CommandLine

/-- What commands find around them. -/
structure Desk where
  tree : FileTree
  environment : Dict String
  /-- The home directory of a user who has no variable for it. -/
  home : String
  machine : Machine
  /-- The name of the next run. -/
  run : RunId

namespace Desk

/-- The home directory. -/
def homeDirectory (desk : Desk) : String :=
  match desk.environment.get? "HOME" with
  | some home => if home.isEmpty then desk.home else home
  | none => desk.home

/-- The directory of the settings of all programs. -/
def configDirectory (desk : Desk) : String :=
  match desk.environment.get? "XDG_CONFIG_HOME" with
  | some directory =>
    if Path.isAbsolute directory then directory else Path.join desk.homeDirectory ".config"
  | none => Path.join desk.homeDirectory ".config"

/-- The settings file. -/
def settingsPath (desk : Desk) : String := Path.join desk.configDirectory "gantry/config.toml"

/-- The directory of external actions, unless the settings name another one. -/
def actionCache (desk : Desk) : String := Path.join desk.homeDirectory ".gantry/actions"

/-- The shell for steps that name none, if the settings name none either. -/
def detectShell (desk : Desk) : Shell :=
  Shell.detect ((desk.environment.get? "PATH").isSome && Launch.isFound desk.environment "bash")

/-- The settings from the file and the environment. -/
def settings (desk : Desk) : Except Error Settings := do
  let initial := Settings.initial desk.actionCache
  let path := desk.settingsPath
  let settings ←
    if desk.tree.holds path then
      match desk.tree.readText? path with
      | some text => initial.read path text
      | none => .error (.io "the settings file cannot be read")
    else pure initial
  settings.override desk.environment.get?

end Desk

/-- What a command leaves behind. -/
structure Printed where
  /-- The lines of the output stream. -/
  output : List String
  /-- The lines of the error stream. -/
  messages : List String
  tree : FileTree

/-- Steps of a command. What makes it fail as a whole is a text. -/
abbrev Console := ExceptT String (StateM Printed)

namespace Console

/-- Prints a line for the user. -/
def say (line : String) : Console Unit :=
  modify fun p => { p with messages := p.messages ++ [line] }

/-- Prints a line of output. -/
def put (line : String) : Console Unit :=
  modify fun p => { p with output := p.output ++ [line] }

/-- Goes on with a value, or fails with the wording of an error. -/
def need {α : Type} (result : Except Error α) : Console α :=
  match result with
  | .ok value => pure value
  | .error e => throw e.message

end Console

open Console

/-- The settings of a command: those of the desk, changed by its options. -/
def settingsFor (desk : Desk) (options : EngineOptions) : Except Error Settings := do
  let settings ← desk.settings
  let settings ← match options.queuePolicy with
    | none => pure settings
    | some name => do pure { settings with queuePolicy := ← QueuePolicy.parse name }
  pure { settings with
    defaultShell := options.shell.or settings.defaultShell
    actionCache := options.actionCache.getD settings.actionCache
    maxActionDepth := options.maxActionDepth.getD settings.maxActionDepth }

/-- The workspace: the one that is named, or else the repository around the current directory, or
else that directory itself. -/
def workspaceFor (tree : FileTree) : Option String → Except Error Location
  | some directory => Discovery.workspace tree directory
  | none => .ok ((Discovery.repository? tree tree.current.render).getD tree.current)

/-- A workflow that was found, with its file and its workspace. -/
structure Found where
  workspace : String
  path : String
  workflow : Workflow

/-- Finds and reads the workflow of a command. -/
def find (tree : FileTree) (target : Target) : Console Found := do
  let workspace := (← need (workspaceFor tree target.workspace)).render
  let path ← need (Discovery.locate tree target.workflow workspace)
  match Workflow.load tree path with
  | .ok workflow => pure ⟨workspace, path, workflow⟩
  | .error e => throw (path ++ ": " ++ e.message)

/-- The event of a command. -/
def EventOptions.event (options : EventOptions) : Event :=
  ⟨options.kind, options.subtype, options.ref, options.headRef, options.baseRef, options.sha,
    options.actor⟩

/-- The shell for steps that name none. -/
def shellFor (desk : Desk) (settings : Settings) : Except String Shell :=
  match settings.defaultShell with
  | none => .ok desk.detectShell
  | some name =>
    match Shell.ofName? name with
    | some shell => .ok shell
    | none => .error ("configuration error: unsupported default shell '" ++ name ++ "'")

/-- The run of a command. -/
def runInfoFor (desk : Desk) (settings : Settings) (found : Found) (event : Event) : RunInfo :=
  ⟨desk.run, found.workflow, event, found.workspace,
    if settings.inheritEnv then desk.environment else [], desk.machine⟩

/-- What changes while a run goes on. -/
structure Site where
  tree : FileTree
  memory : Resolver.Memory

/-- What the instances of a run find around them. Nobody carries out external actions. -/
def surroundings (resolver : Resolver) (shell : Shell) : Surroundings Site where
  resolve site steps :=
    let (resolved, memory) := ((resolver.resolveSteps site.tree steps).run).run site.memory
    (resolved, { site with memory := memory })
  command site request cancelled :=
    let outcome := Launch.run shell site.tree request cancelled
    (.ends outcome.lines outcome.result, { site with tree := outcome.tree })
  host site _ _ _ := (⟨false, [], none⟩, site)

/-- Carries out a run whose event its workflow accepts: what is reported, the outcome, and the tree
afterwards. -/
def carryOut (settings : Settings) (shell : Shell) (info : RunInfo) (tree : FileTree) :
    List Notice × Option RunOutcome × FileTree :=
  let resolver : Resolver := ⟨info.workspace, settings.maxActionDepth⟩
  let site : Site := ⟨tree, ⟨ActionCache.of settings.actionCache, []⟩⟩
  let turns := (Turns.of (.empty settings.queuePolicy false) site).play
    (surroundings resolver shell) (.start info)
  let notices := turns.session.log.reverse.filterMap fun
    | .notice notice => some notice
    | .started _ => none
  (notices, turns.session.ended.findSome? (·.2), turns.world.tree)

/-- `run`: the value says whether the run succeeded; an event that starts none is no failure. -/
def performRun (desk : Desk) (target : Target) (options : EventOptions) (json : Bool) :
    Console Bool := do
  let settings ← need (settingsFor desk target.engine)
  let found ← find desk.tree target
  say (Style.status "Loaded" found.path)
  say (Style.info ("Workflow '" ++ found.workflow.name ++ "': " ++
    toString found.workflow.jobs.length ++ " jobs, workspace " ++ found.workspace))
  let shell ← shellFor desk settings
  let info := runInfoFor desk settings found options.event
  if ← need info.accepted then
    let _ ← need info.groupKey
    let (notices, outcome, tree) := carryOut settings shell info desk.tree
    modify fun p => { p with messages := p.messages ++ Watch.start.lines notices, tree := tree }
    match outcome with
    | none => pure false
    | some outcome =>
      if json then put outcome.report.pretty
      else
        for job in outcome.jobs do
          match job.error with
          | some error => say (Style.failure (job.name ++ ": " ++ error))
          | none => pure ()
      pure outcome.succeeded
  else
    say (Style.warning ("Workflow does not react to '" ++ options.kind ++ "' on " ++ options.ref))
    pure true

/-- The line about the instance of a plan. -/
def plannedLine (job : PlannedJob) : String :=
  let details := (if job.failFast then [] else ["no fail-fast"]) ++
    (job.maxParallel.map fun n => "max-parallel " ++ toString n).toList
  let detail := if details.isEmpty then "" else " [" ++ ", ".intercalate details ++ "]"
  "    #" ++ toString job.index ++ " " ++ job.name ++ " (" ++ job.jobId ++ ")" ++ detail

/-- The lines about a plan. -/
def planLines (options : EventOptions) (plan : Plan) : List String :=
  let event := "Event '" ++ options.kind ++ "' on " ++ options.ref
  [Style.header ("Plan for '" ++ plan.workflow ++ "'"),
    if plan.accepted then Style.check (event ++ " starts a run")
    else Style.warning (event ++ " is ignored by this workflow"),
    match plan.key with
    | some key =>
      Style.info ("Concurrency group '" ++ key ++ "'" ++
        (if plan.cancelInProgress then " (cancels in-progress runs)" else ""))
    | none => Style.info "No concurrency group",
    Style.info (toString plan.jobs.length ++ " job instances:")] ++ plan.jobs.map plannedLine

/-- `plan`. -/
def performPlan (desk : Desk) (target : Target) (options : EventOptions) (json : Bool) :
    Console Bool := do
  let settings ← need (settingsFor desk target.engine)
  let found ← find desk.tree target
  let _ ← shellFor desk settings
  let plan ← need (runInfoFor desk settings found options.event).plan
  if json then put (plan.describe .object).pretty
  else
    for line in planLines options plan do say line
  pure true

/-- `validate`: the value says whether the workflow is all right. -/
def performValidate (desk : Desk) (target : Target) : Console Bool := do
  let settings ← need (settingsFor desk target.engine)
  let workspace := (← need (workspaceFor desk.tree target.workspace)).render
  let path ← need (Discovery.locate desk.tree target.workflow workspace)
  say (Style.status "Validating" path)
  let refuse (message : String) : Console Bool := do
    say (Style.error message)
    pure false
  match Document.Workflow.load desk.tree path with
  | .error e => refuse ("Parse error: " ++ e.message)
  | .ok document =>
    say (Style.check "YAML syntax valid")
    match document.define with
    | .error e => refuse e.message
    | .ok workflow =>
      let steps := total (workflow.jobs.map (·.steps.length))
      say (Style.check ("Structure: " ++ toString workflow.triggers.length ++ " triggers, " ++
        toString workflow.jobs.length ++ " jobs, " ++ toString steps ++ " steps"))
      say (Style.status "Resolving" "actions...")
      let resolver : Resolver := ⟨workspace, settings.maxActionDepth⟩
      let memory : Resolver.Memory := ⟨ActionCache.of settings.actionCache, []⟩
      match (((resolver.preflight desk.tree workflow).run).run memory).1 with
      | .error e => refuse e.message
      | .ok () =>
        say (Style.check "Actions resolved")
        say ""
        say (Style.success ("Workflow '" ++ workflow.name ++ "' is valid"))
        pure true

/-- What comes of a command line. -/
structure Report where
  exitCode : Nat
  printed : Printed
  /-- Why the command failed as a whole. -/
  failure : Option String

/-- Carries out what is asked for. -/
def perform (desk : Desk) (invocation : Invocation) : Report :=
  let steps : Console Bool := match invocation with
    | .run target event json => performRun desk target event json
    | .validate target => performValidate desk target
    | .plan target event json => performPlan desk target event json
    | .help => do
      put "Usage: gantry [OPTIONS] <run|validate|plan> WORKFLOW"
      pure true
    | .version => do
      put "gantry 0.3.0"
      pure true
  match (steps.run).run ⟨[], [], desk.tree⟩ with
  | (.ok ok, printed) => ⟨if ok then 0 else 1, printed, none⟩
  | (.error failure, printed) => ⟨1, printed, some failure⟩

end Pipeline.CommandLine
