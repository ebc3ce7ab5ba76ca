import Pipeline.Action.Unit
import Pipeline.Command.Basic
import Pipeline.Error
import Pipeline.Progress

/-! The work of a job instance, one action at a time. Work says what it does next, and how it goes
on with whatever comes of that; who carries it out decides on the rest. -/

namespace Pipeline

/-- What came of an external action. -/
structure HostAnswer where
  success : Bool
  outputs : Dict String
  message : Option String

/-- Work that ends in a value. -/
inductive Work (α : Type) where
  | done (value : α)
  /-- Looks whether the work has been cancelled. -/
  | look (resume : Bool → Work α)
  /-- Gets in line for a slot. -/
  | queueUp (rest : Work α)
  /-- Waits for a slot; goes on with the answer whether it got one. -/
  | awaitSlot (resume : Bool → Work α)
  /-- Gives back a slot. -/
  | freeSlot (rest : Work α)
  /-- Moves the instance to a status. -/
  | move (status : JobStatus) (rest : Work α)
  /-- Cancels all instances of the job. -/
  | cancelSiblings (rest : Work α)
  | report (event : JobEvent) (rest : Work α)
  | log (level : LogLevel) (message : String) (rest : Work α)
  /-- Looks up the actions that steps use. -/
  | resolve (steps : List Step) (resume : Except Error (List ResolvedStep) → Work α)
  /-- Starts a command. -/
  | start (request : Command.Request) (rest : Work α)
  /-- Waits for what comes of a command that was started: the lines that it prints, and its
  result. -/
  | await (request : Command.Request) (resume : List Command.Line → Command.Result → Work α)
  /-- Has an external action carried out. -/
  | invoke (action : ExternalAction) (inputs env : Dict String) (resume : HostAnswer → Work α)

namespace Work

/-- Work followed by work that depends on its value. -/
def bind {α β : Type} (work : Work α) (next : α → Work β) : Work β :=
  match work with
  | done value => next value
  | look resume => look fun b => (resume b).bind next
  | queueUp rest => queueUp (rest.bind next)
  | awaitSlot resume => awaitSlot fun b => (resume b).bind next
  | freeSlot rest => freeSlot (rest.bind next)
  | move status rest => move status (rest.bind next)
  | cancelSiblings rest => cancelSiblings (rest.bind next)
  | report event rest => report event (rest.bind next)
  | log level message rest => log level message (rest.bind next)
  | resolve steps resume => resolve steps fun r => (resume r).bind next
  | start request rest => start request (rest.bind next)
  | await request resume => await request fun lines r => (resume lines r).bind next
  | invoke action inputs env resume => invoke action inputs env fun a => (resume a).bind next

instance : Monad Work where
  pure := done
  bind := bind

/-- Has the work been cancelled? -/
def cancelled : Work Bool := look done

/-- Reports what happens. -/
def tell (event : JobEvent) : Work Unit := report event (done ())

/-- Writes a message. -/
def write (level : LogLevel) (message : String) : Work Unit := log level message (done ())

/-- Looks up the actions that steps use. -/
def lookUp (steps : List Step) : Work (Except Error (List ResolvedStep)) := resolve steps done

/-- Reports the lines that the command of a step printed. -/
def tellLines (step : String) : List Command.Line → Work Unit
  | [] => done ()
  | line :: rest => report (.stepOutput step line.text line.isError) (tellLines step rest)

/-- Runs the command of a step and reports the lines that it prints. -/
def runCommand (step : String) (request : Command.Request) : Work Command.Result :=
  start request (await request fun lines result => (tellLines step lines).bind fun _ => done result)

/-- Has an external action carried out. -/
def callHost (action : ExternalAction) (inputs env : Dict String) : Work HostAnswer :=
  invoke action inputs env done

end Work

end Pipeline
