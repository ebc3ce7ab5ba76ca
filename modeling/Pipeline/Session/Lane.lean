import Pipeline.Execution.Instance

/-! The instances of one job in a run. They share a signal that cancels them, and the slots that
limit how many of them run at a time. -/

namespace Pipeline

/-- What happens while runs go on, apart from changes of their state. -/
inductive Entry where
  | notice (notice : Notice)
  | started (request : Command.Request)

/-- An answer to what the work of an instance asks for. -/
inductive Answer where
  /-- The action goes ahead; nothing more is to be known. -/
  | go
  /-- No slot was waited for any longer. -/
  | noSlot
  | resolved (steps : Except Error (List ResolvedStep))
  | ran (lines : List Command.Line) (result : Command.Result)
  | invoked (answer : HostAnswer)
  /-- The work dies. -/
  | death

/-- How far an instance has come. -/
inductive Stage where
  | working (work : Work JobResult)
  | ended (result : JobResult)
  | died

/-- An instance that has been dispatched. -/
structure Task where
  item : Instance
  status : JobStatus
  /-- The instance has a slot. -/
  holdsSlot : Bool
  stage : Stage

namespace Task

/-- Has the work of the instance come to an end? -/
def isOver (task : Task) : Bool :=
  match task.stage with
  | .working _ => false
  | .ended _ | .died => true

/-- The status of the instance once its run is over: one whose work died has failed. -/
def finalStatus (task : Task) : JobStatus :=
  match task.stage with
  | .died => if task.status.isTerminal then task.status else .failed
  | .working _ | .ended _ => task.status

end Task

/-- The instances of one job in a run. -/
structure Lane where
  job : Job
  cancelled : Bool
  /-- The slots that nobody has. -/
  free : Nat
  /-- The instances that wait for a slot, in the order of their arrival. -/
  line : List Nat
  tasks : List Task

namespace Lane

/-- The instances of a job before they start. -/
def of (job : Job) (run : RunInfo) (hasHost : Bool) (instances : List Instance) : Lane :=
  ⟨job, false, job.maxParallel.getD 0, [],
    instances.map fun i => ⟨i, .pending, false, .working (job.task run hasHost i)⟩⟩

/-- The instance of an index. -/
def task? (lane : Lane) (index : Nat) : Option Task :=
  lane.tasks.find? (·.item.index == index)

/-- The lane with the instance of an index changed. -/
def setTask (lane : Lane) (index : Nat) (change : Task → Task) : Lane :=
  { lane with tasks := lane.tasks.map fun task =>
      if task.item.index = index then change task else task }

/-- The lane with the work of an instance set. -/
def setWork (lane : Lane) (index : Nat) (work : Work JobResult) : Lane :=
  lane.setTask index fun task => { task with stage := .working work }

/-- Are all instances over? -/
def isOver (lane : Lane) : Bool :=
  lane.tasks.all (·.isOver)

/-- The result of an instance that is over. -/
def resultOf (lane : Lane) (task : Task) : JobResult :=
  match task.stage with
  | .ended result => result
  | .died | .working _ => lane.job.abandonedResult task.item

/-- The instance of an index dies. It leaves the line and gives its slot back. -/
def die (lane : Lane) (index : Nat) (task : Task) : Lane :=
  { (lane.setTask index fun task => { task with stage := .died, holdsSlot := false }) with
    free := if task.holdsSlot then lane.free + 1 else lane.free
    line := lane.line.erase index }

/-- The instance of an index takes the next step of its work, if the answer fits and the step can be
taken now. -/
def advance (lane : Lane) (run : RunId) (index : Nat) (answer : Answer) :
    Option (Lane × List Entry) :=
  match lane.task? index with
  | none => none
  | some task =>
    match task.stage with
    | .ended _ | .died => none
    | .working work =>
      match work, answer with
      | _, .death => some (lane.die index task, [])
      | .done result, .go =>
        some (lane.setTask index fun task => { task with stage := .ended result }, [])
      | .look resume, .go => some (lane.setWork index (resume lane.cancelled), [])
      | .queueUp rest, .go =>
        some ({ lane.setWork index rest with line := lane.line ++ [index] }, [])
      | .awaitSlot resume, .go =>
        if lane.line.head? = some index && 0 < lane.free then
          let lane := { lane with free := lane.free - 1, line := lane.line.tail }
          some (lane.setTask index fun task =>
            { task with holdsSlot := true, stage := .working (resume true) }, [])
        else none
      | .awaitSlot resume, .noSlot =>
        if lane.cancelled then
          some ({ lane.setWork index (resume false) with line := lane.line.erase index }, [])
        else none
      | .freeSlot rest, .go =>
        let lane := { lane with free := lane.free + 1 }
        some (lane.setTask index fun task =>
          { task with holdsSlot := false, stage := .working rest }, [])
      | .move status rest, .go =>
        some (lane.setTask index fun task =>
          { task with status := task.status.become status, stage := .working rest }, [])
      | .cancelSiblings rest, .go =>
        some ({ lane.setWork index rest with cancelled := true }, [])
      | .report event rest, .go =>
        some (lane.setWork index rest, [.notice (.job run index event)])
      | .log level message rest, .go =>
        some (lane.setWork index rest, [.notice (.log (some run) level message)])
      | .resolve _ resume, .resolved steps => some (lane.setWork index (resume steps), [])
      | .start request rest, .go => some (lane.setWork index rest, [.started request])
      | .await _ resume, .ran lines result => some (lane.setWork index (resume lines result), [])
      | .invoke _ _ _ resume, .invoked answer => some (lane.setWork index (resume answer), [])
      | _, _ => none

end Lane

end Pipeline
