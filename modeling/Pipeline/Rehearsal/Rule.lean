import Pipeline.Command.Basic
import Pipeline.Expression.Function
import Pipeline.Text.Lines

/-! Rules that answer commands without running them. -/

namespace Pipeline.Rehearsal

/-- An answer to the commands whose script holds a pattern. -/
structure Rule where
  pattern : String
  exitCode : Int
  /-- The command is ended by a signal and has no exit code. -/
  signal : Bool
  stdout : String
  stderr : String
  outputs : Dict String
  env : Dict String
  /-- The command cannot be started. -/
  error : Option String
  /-- The command reports that it was cancelled. -/
  cancelled : Bool
  /-- The command cancels its own job when it starts. -/
  cancelsJob : Bool
  /-- The command ends only when it is cancelled. -/
  hangs : Bool
  /-- The command waits until this gate is open. -/
  gate : Option String
  /-- The command waits at its gate even when it is cancelled. -/
  stubborn : Bool
  /-- The whole work of the instance dies when the command starts. -/
  dies : Bool

/-- The rule of commands that no other rule answers: they succeed. -/
def Rule.default : Rule :=
  ⟨"", 0, false, "", "", [], [], none, false, false, false, none, false, false⟩

namespace Rule

/-- The lines that the command prints. -/
def lines (rule : Rule) : List Command.Line :=
  (Text.lines rule.stdout).map (⟨·, false⟩) ++ (Text.lines rule.stderr).map (⟨·, true⟩)

/-- The end of a command that ends by itself. -/
def ending (rule : Rule) : Command.Reply :=
  match rule.error with
  | some error => .ends [] (.failure error)
  | none =>
    .ends rule.lines ⟨rule.stdout, rule.stderr, if rule.signal then none else some rule.exitCode,
      rule.outputs, rule.env, rule.cancelled, none⟩

/-- What comes of the command when the gates `opened` are open. -/
def reply (rule : Rule) (opened : List String) (cancelled : Bool) : Command.Reply :=
  if rule.dies then .dies
  else if rule.hangs then if cancelled then .interrupted else .waits
  else
    match rule.gate with
    | none => rule.ending
    | some gate =>
      if cancelled && !rule.stubborn then .interrupted
      else if opened.contains gate then rule.ending
      else .waits

end Rule

/-- The rule that answers a script: the first one whose pattern it holds. -/
def ruleFor (rules : List Rule) (script : String) : Rule :=
  (rules.find? fun rule =>
    Expression.containsChars rule.pattern.toList script.toList).getD .default

end Pipeline.Rehearsal
