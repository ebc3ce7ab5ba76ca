import Pipeline.Action.Resolver
import Pipeline.Execution.Instance
import Pipeline.Rehearsal.Rule
import Pipeline.Session.Turns

/-! Rehearsals: job instances on their own and whole sessions, with rules that answer commands and
external actions. -/

namespace Pipeline.Rehearsal

/-! ### One job instance -/

/-- An answer to the external actions whose identifier holds a pattern. -/
structure HostRule where
  pattern : String
  answer : HostAnswer
  /-- The action cancels the job that uses it. -/
  cancelsJob : Bool

/-- The answer to actions that no rule answers: they succeed. -/
def HostRule.default : HostRule := ⟨"", ⟨true, [], none⟩, false⟩

/-- A use of an external action. -/
structure HostCall where
  action : ExternalAction
  inputs : Dict String
  env : Dict String

/-- What the answers depend on. -/
structure Stage where
  tree : FileTree
  resolver : Resolver
  rules : List Rule
  hostRules : List HostRule
  run : RunId
  index : Nat

/-- What has happened so far, the latest first. -/
structure Record where
  cancelled : Bool
  memory : Resolver.Memory
  notices : List Notice
  commands : List Command.Request
  calls : List HostCall

/-- The rule that answers an external action: the first one whose pattern its name holds. -/
def hostRuleFor (rules : List HostRule) (identifier : String) : HostRule :=
  (rules.find? fun rule =>
    Expression.containsChars rule.pattern.toList identifier.toList).getD .default

/-- Carries out the work of an instance. There is nobody to wait for, so that a command that would
wait is cancelled, and one that would die ends as if it had been. -/
def perform {α : Type} (stage : Stage) (record : Record) : Work α → α × Record
  | .done value => (value, record)
  | .look resume => perform stage record (resume record.cancelled)
  | .queueUp rest => perform stage record rest
  | .awaitSlot resume => perform stage record (resume true)
  | .freeSlot rest => perform stage record rest
  | .move _ rest => perform stage record rest
  | .cancelSiblings rest => perform stage { record with cancelled := true } rest
  | .report event rest =>
    perform stage { record with notices := .job stage.run stage.index event :: record.notices } rest
  | .log level message rest =>
    perform stage { record with notices := .log stage.run level message :: record.notices } rest
  | .resolve steps resume =>
    let (resolved, memory) := ((stage.resolver.resolveSteps stage.tree steps).run).run record.memory
    perform stage { record with memory := memory } (resume resolved)
  | .start request rest =>
    let rule := ruleFor stage.rules request.script
    perform stage
      { record with
        commands := request :: record.commands
        cancelled := record.cancelled || rule.cancelsJob } rest
  | .await request resume =>
    match (ruleFor stage.rules request.script).reply [] record.cancelled with
    | .ends lines result => perform stage record (resume lines result)
    | .waits | .dies => perform stage record (resume [] ⟨"", "", none, [], [], true, none⟩)
  | .invoke action inputs env resume =>
    let rule := hostRuleFor stage.hostRules action.identifier
    perform stage
      { record with
        calls := ⟨action, inputs, env⟩ :: record.calls
        cancelled := record.cancelled || rule.cancelsJob } (resume rule.answer)

/-! ### Whole sessions -/

/-- What changes while a session is rehearsed. -/
structure World where
  memory : Resolver.Memory
  /-- The gates that are open. -/
  opened : List String

/-- What instances find around them in a rehearsal. -/
def surroundings (tree : FileTree) (resolver : Resolver) (rules : List Rule) :
    Surroundings World where
  resolve world steps :=
    let (resolved, memory) := ((resolver.resolveSteps tree steps).run).run world.memory
    (resolved, { world with memory := memory })
  command world request cancelled :=
    ((ruleFor rules request.script).reply world.opened cancelled, world)
  host world _ _ _ := (HostRule.default.answer, world)

end Pipeline.Rehearsal
