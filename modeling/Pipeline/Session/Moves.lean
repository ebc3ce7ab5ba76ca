import Pipeline.Concurrency.Admission
import Pipeline.Plan
import Pipeline.Session.Lane

/-! Sessions of runs that share their concurrency groups. Everything that can happen is a move, and
moves can follow each other in any order in which each one can be made. -/

namespace Pipeline

/-- How far the call that handles an event has come. -/
inductive Phase where
  /-- The run waits for its group. -/
  | queued
  /-- The run may start. -/
  | granted
  | dispatched (lanes : List Lane)
  /-- The run will not start. -/
  | refused
  | finished (outcome : RunOutcome)
  /-- The call was given up on the way. -/
  | leaving

/-- A call that handles an event. -/
structure Call where
  info : RunInfo
  /-- The key of the concurrency group, if the workflow has one. -/
  key : Option String
  /-- The admission to the group. -/
  number : Option Nat
  /-- The run was cancelled on request. -/
  cancelled : Bool
  phase : Phase

/-- Calls in flight and what they share. -/
structure Session where
  /-- Somebody carries out external actions. -/
  hasHost : Bool
  admission : Admission
  /-- The runs that can be cancelled on request. -/
  registered : List RunId
  calls : List Call
  /-- The calls that are over: with an outcome, or given up on the way. -/
  ended : List (RunId × Option RunOutcome)
  /-- What has happened, the latest first. -/
  log : List Entry

/-- One thing that can happen. -/
inductive Move where
  /-- An accepted event is handled: its run asks for its group. -/
  | start (info : RunInfo)
  /-- A waiting run learns that it may start. -/
  | promote (run : RunId)
  /-- A waiting run learns that a newer one has displaced it. -/
  | displace (run : RunId)
  /-- A waiting run sees that it was cancelled. -/
  | withdraw (run : RunId)
  /-- A run that will not start gives up its group and reports that it is over. -/
  | abandon (run : RunId)
  /-- A run that may start sends out its instances. -/
  | launch (run : RunId)
  /-- The cancellation of a run reaches one of its jobs. -/
  | forward (run : RunId) (lane : Nat)
  /-- An instance takes a step. -/
  | advance (run : RunId) (lane index : Nat) (answer : Answer)
  /-- A run whose instances are all over gives up its group and reports that it is over. -/
  | collect (run : RunId)
  /-- A call that has its outcome, or was given up, ends. -/
  | close (run : RunId)
  /-- Somebody asks for the cancellation of a run. -/
  | cancel (run : RunId)
  /-- A call is given up on the way: it hears no message any more, and has still to end. -/
  | drop (run : RunId)

/-- The run that a move is about. -/
def Move.run : Move → RunId
  | .start info => info.id
  | .promote run | .displace run | .withdraw run | .abandon run | .launch run | .forward run _
  | .advance run _ _ _ | .collect run | .close run | .cancel run | .drop run => run

namespace Session

/-- The session before anything has happened. -/
def empty (policy : QueuePolicy) (hasHost : Bool) : Session :=
  ⟨hasHost, .empty policy, [], [], [], []⟩

/-- The call of a run in flight. -/
def call? (s : Session) (run : RunId) : Option Call :=
  s.calls.find? (·.info.id == run)

/-- Has a run been cancelled, on request or by a newer one? -/
def isCancelled (s : Session) (call : Call) : Bool :=
  call.cancelled || call.number.any s.admission.cancelled.contains

/-- Is the run over or in flight? -/
def knows (s : Session) (run : RunId) : Bool :=
  s.calls.any (·.info.id == run) || s.ended.any (·.1 == run)

/-- The session with the call of a run changed. -/
def setCall (s : Session) (run : RunId) (change : Call → Call) : Session :=
  { s with calls := s.calls.map fun call => if call.info.id = run then change call else call }

/-- The session with the phase of a run set. -/
def setPhase (s : Session) (run : RunId) (phase : Phase) : Session :=
  s.setCall run fun call => { call with phase := phase }

/-- The session after something has happened. -/
def record (s : Session) (entries : List Entry) : Session :=
  { s with log := entries.reverse ++ s.log }

/-- The session after a report on a run. -/
def tell (s : Session) (run : RunId) (event : RunEvent) : Session :=
  s.record [.notice (.run run event)]

/-- The session after a run has given up its group. -/
def release (s : Session) (call : Call) : Session :=
  match call.key with
  | none => s
  | some key => { s with admission := s.admission.release key call.info.id }

/-- The message for a waiting run. -/
def message? (s : Session) (call : Call) : Option Promotion :=
  match call.number.bind s.admission.ticket? with
  | some (.told promotion) => some promotion
  | _ => none

/-- The session after nobody waits for the message of a run any more. -/
def dropTicket (s : Session) (call : Call) : Session :=
  match call.number with
  | none => s
  | some number => { s with admission := s.admission.dropTicket number }

/-- The outcome of a run that never started. -/
def cancelledOutcome (info : RunInfo) (key : Option String) : RunOutcome :=
  ⟨info.id, info.workflow.name, key, .cancelled,
    info.workflow.expand.flatMap fun (job, instances) => instances.map job.cancelledResult, 0⟩

/-- The instances of a run before they start. -/
def lanesOf (info : RunInfo) (hasHost : Bool) : List Lane :=
  info.workflow.expand.map fun (job, instances) => Lane.of job info hasHost instances

/-- The outcome of a run whose instances are over. -/
def outcomeOf (info : RunInfo) (key : Option String) (lanes : List Lane) : RunOutcome :=
  let statuses := lanes.flatMap fun lane => lane.tasks.map (·.finalStatus)
  let results := lanes.flatMap fun lane => lane.tasks.map lane.resultOf
  ⟨info.id, info.workflow.name, key, RunStatus.aggregate statuses, results, 0⟩

/-- The session after a run has become one that can be cancelled on request. -/
def register (s : Session) (run : RunId) : Session :=
  { s with registered := s.registered ++ [run] }

/-- A run asks for the group of a key. -/
def ask (s : Session) (info : RunInfo) (key : String) : Session :=
  let number := s.admission.next
  let (decision, admission) := s.admission.enter key info.id info.cancelsActive
  let add (phase : Phase) : Session :=
    { s with
      admission := admission
      calls := s.calls ++ [⟨info, some key, some number, false, phase⟩] }
  match decision with
  | .start => add .granted
  | .cancelAndStart previous => (add .granted).tell previous (.cancelled key info.id)
  | .queue => (add .queued).tell info.id (.queued info.workflow.name key)

/-- An accepted event is handled. -/
def handle (s : Session) (info : RunInfo) : Option Session :=
  if s.knows info.id then none
  else
    match info.accepted, info.groupKey with
    | .ok true, .ok none =>
      let s := s.register info.id
      some { s with calls := s.calls ++ [⟨info, none, none, false, .granted⟩] }
    | .ok true, .ok (some key) => some ((s.register info.id).ask info key)
    | _, _ => none

/-- The run reports its outcome. -/
def finish (s : Session) (call : Call) (outcome : RunOutcome) : Session :=
  (s.tell call.info.id (.completed outcome.workflow outcome.status)).setPhase call.info.id
    (.finished outcome)

/-- The call of a run ends: its group is given up, whatever has become of it. -/
def close (s : Session) (call : Call) (outcome : Option RunOutcome) : Session :=
  let s := s.release call
  { s with
    registered := s.registered.filter (· != call.info.id)
    calls := s.calls.filter (·.info.id != call.info.id)
    ended := s.ended ++ [(call.info.id, outcome)] }

/-- The run sends out its instances. -/
def launch (s : Session) (call : Call) : Session :=
  let lanes := lanesOf call.info s.hasHost
  let jobs := total (lanes.map (·.tasks.length))
  (s.tell call.info.id (.started call.info.workflow.name call.key jobs)).setPhase call.info.id
    (.dispatched lanes)

/-- The session with a lane of a run set. -/
def setLane (s : Session) (run : RunId) (lanes : List Lane) (place : Nat) (lane : Lane) : Session :=
  s.setPhase run (.dispatched (lanes.set place lane))

/-- A move of a call in flight, if it can be made now. -/
def applyTo (s : Session) (call : Call) (m : Move) : Option Session :=
  let run := call.info.id
  match m, call.phase with
  | .promote _, .queued =>
    if s.message? call = some .start then some (s.setPhase run .granted) else none
  | .displace _, .queued =>
    match s.message? call with
    | some (.superseded _) => some (s.setPhase run .refused)
    | _ => none
  | .withdraw _, .queued =>
    if s.isCancelled call then some ((s.dropTicket call).setPhase run .refused) else none
  | .abandon _, .refused =>
    some ((s.release call).finish call (cancelledOutcome call.info call.key))
  | .launch _, .granted => some (s.launch call)
  | .forward _ place, .dispatched lanes =>
    if s.isCancelled call then
      (lanes[place]?).map fun lane => s.setLane run lanes place { lane with cancelled := true }
    else none
  | .advance _ place index answer, .dispatched lanes =>
    match lanes[place]? with
    | none => none
    | some lane =>
      match lane.advance run index answer with
      | none => none
      | some (lane, entries) => some ((s.record entries).setLane run lanes place lane)
  | .collect _, .dispatched lanes =>
    if lanes.all (·.isOver) then
      some ((s.release call).finish call (outcomeOf call.info call.key lanes))
    else none
  | .close _, .finished outcome => some (s.close call (some outcome))
  | .close _, .leaving => some (s.close call none)
  | .cancel _, _ =>
    if s.registered.contains run then
      some (s.setCall run fun call => { call with cancelled := true })
    else none
  | .drop _, .finished _ | .drop _, .leaving => none
  | .drop _, _ => some ((s.dropTicket call).setPhase run .leaving)
  | _, _ => none

/-- The session after a move, if the move can be made. -/
def apply (s : Session) (m : Move) : Option Session :=
  match m with
  | .start info => s.handle info
  | m =>
    match s.call? m.run with
    | none => none
    | some call => s.applyTo call m

end Session

end Pipeline
