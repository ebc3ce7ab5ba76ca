import Pipeline.Session.Moves

/-! Moves in a fixed order: whoever can go on has its turn, first come first served, and keeps it
until it has to wait. -/

namespace Pipeline

/-- Whoever makes moves in a session. -/
inductive Actor where
  /-- The call that handles the event of a run. -/
  | call (run : RunId)
  /-- Whoever passes the cancellation of a run on to its jobs. -/
  | herald (run : RunId)
  | worker (run : RunId) (lane index : Nat)
  deriving Repr, DecidableEq

/-- What instances find around them: a world that changes as they look up actions and run
commands. -/
structure Surroundings (World : Type) where
  resolve : World → List Step → Except Error (List ResolvedStep) × World
  command : World → Command.Request → Bool → Command.Reply × World
  host : World → ExternalAction → Dict String → Dict String → HostAnswer × World

/-- A session with the order of its actors. -/
structure Turns (World : Type) where
  session : Session
  world : World
  /-- Whose turn it is. -/
  current : Option Actor
  /-- Who can go on, in order. -/
  ready : List Actor
  /-- Who waits, in the order in which they began to. -/
  waiting : List Actor

namespace Turns

variable {World : Type}

/-- Nobody is there. -/
def of (session : Session) (world : World) : Turns World :=
  ⟨session, world, none, [], []⟩

/-- The answer that an instance in a lane gets for its next step, unless it has to wait or is
over. -/
def answer? (around : Surroundings World) (world : World) (lane : Lane) (index : Nat) :
    Work JobResult → Option (Answer × World)
  | .awaitSlot _ =>
    if lane.cancelled then some (.noSlot, world)
    else if lane.line.head? = some index && 0 < lane.free then some (.go, world)
    else none
  | .resolve steps _ =>
    let (resolved, world) := around.resolve world steps
    some (.resolved resolved, world)
  | .await request _ =>
    match around.command world request lane.cancelled with
    | (.waits, _) => none
    | (.dies, world) => some (.death, world)
    | (.ends lines result, world) => some (.ran lines result, world)
  | .invoke action inputs env _ =>
    let (answer, world) := around.host world action inputs env
    some (.invoked answer, world)
  | _ => some (.go, world)

/-- The next move of a call. -/
def callMove? (s : Session) (call : Call) : Option Move :=
  let run := call.info.id
  match call.phase with
  | .queued =>
    match s.message? call with
    | some .start => some (.promote run)
    | some (.superseded _) => some (.displace run)
    | none => if s.isCancelled call then some (.withdraw run) else none
  | .granted => some (.launch run)
  | .dispatched lanes => if lanes.all (·.isOver) then some (.collect run) else none
  | .refused => some (.abandon run)
  | .finished _ | .leaving => some (.close run)

/-- The lanes of a run that has sent out its instances. -/
def lanes (s : Session) (run : RunId) : List Lane :=
  match (s.call? run).map Call.phase with
  | some (.dispatched lanes) => lanes
  | _ => []

/-- The next move of an actor, unless it has to wait or is over. -/
def next? (around : Surroundings World) (s : Session) (world : World) :
    Actor → Option (Move × World)
  | .call run =>
    match s.call? run with
    | none => none
    | some call => (callMove? s call).map fun m => (m, world)
  | .herald run =>
    match s.call? run with
    | none => none
    | some call =>
      if s.isCancelled call then
        ((lanes s run).findIdx? (!·.cancelled)).map fun place => (.forward run place, world)
      else none
  | .worker run place index =>
    match (lanes s run)[place]? with
    | none => none
    | some lane =>
      match (lane.task? index).map Task.stage with
      | some (.working work) =>
        (answer? around world lane index work).map fun (answer, world) =>
          (.advance run place index answer, world)
      | _ => none

/-- Has the actor anything left to do? -/
def isLive (s : Session) : Actor → Bool
  | .call run => (s.call? run).isSome
  | .herald run => !(lanes s run).isEmpty
  | .worker run place index =>
    match (lanes s run)[place]? with
    | none => false
    | some lane => (lane.task? index).any (!·.isOver)

/-- The actors that a move brings in: the call of a run, and its instances and their herald. -/
def newcomers (s : Session) : Move → List Actor
  | .start info => [.call info.id]
  | .launch run =>
    ((lanes s run).mapIdx fun place lane =>
      lane.tasks.map fun task => Actor.worker run place task.item.index).flatten ++ [.herald run]
  | _ => []

/-- Those who waited and can go on get in line. -/
def wake (around : Surroundings World) (t : Turns World) : Turns World :=
  let able (actor : Actor) : Bool := (next? around t.session t.world actor).isSome
  { t with
    ready := t.ready ++ t.waiting.filter able
    waiting := t.waiting.filter (!able ·) }

/-- The order after a move, if that can be made. -/
def make (around : Surroundings World) (t : Turns World) (m : Move) (world : World) :
    Option (Turns World) :=
  (t.session.apply m).map fun session =>
    let ready := t.ready ++ newcomers session m
    wake around { t with session := session, world := world, ready := ready }

/-- The actor whose turn it is waits from now on, unless it is done. -/
def rest (t : Turns World) (actor : Actor) : Turns World :=
  { t with
    current := none
    waiting := if isLive t.session actor then t.waiting ++ [actor] else t.waiting }

/-- One step: the actor whose turn it is moves, or the next one gets its turn. Nothing is left to do
if nobody is ready. -/
def step (around : Surroundings World) (t : Turns World) : Option (Turns World) :=
  match t.current with
  | some actor =>
    match next? around t.session t.world actor with
    | some (m, world) => some ((t.make around m world).getD (t.rest actor))
    | none => some (t.rest actor)
  | none =>
    match t.ready with
    | [] => none
    | actor :: others => some { t with current := some actor, ready := others }

/-- Steps until nobody is ready, at most `limit` of them. -/
def settle (around : Surroundings World) : Nat → Turns World → Turns World
  | 0, t => t
  | limit + 1, t =>
    match t.step around with
    | none => t
    | some t => settle around limit t

/-- More steps than sessions of a reasonable size take. -/
def stepLimit : Nat := 100000000

/-- A move from outside, and whatever follows from it. -/
def play (around : Surroundings World) (t : Turns World) (m : Move) : Turns World :=
  settle around stepLimit ((t.make around m t.world).getD t)

/-- A change of the world, and whatever follows from it. -/
def change (around : Surroundings World) (t : Turns World) (world : World) : Turns World :=
  settle around stepLimit (wake around { t with world := world })

end Turns

end Pipeline
