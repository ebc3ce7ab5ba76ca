import Pipeline.Outcome
import Pipeline.Text.Blank

/-! Admission of runs to concurrency groups. In each group one run at a time is active; others wait
in the order of their arrival, or are displaced by newer ones. -/

namespace Pipeline

/-- What becomes of waiting runs when another one has to wait. -/
inductive QueuePolicy where
  /-- Every run has its turn. -/
  | fifo
  /-- The newest one displaces those before it. -/
  | supersedePending
  deriving Repr, DecidableEq

namespace QueuePolicy

/-- The name of a policy. -/
def render : QueuePolicy → String
  | fifo => "fifo"
  | supersedePending => "supersede-pending"

/-- A policy name without blanks at its ends and in small ASCII letters. -/
def normalise (name : String) : String :=
  String.ofList ((Text.trimChars name.toList).map Char.toLower)

/-- The policy of a name in any case. -/
def ofName? (name : String) : Option QueuePolicy :=
  match normalise name with
  | "fifo" => some fifo
  | "supersede-pending" | "supersede_pending" => some supersedePending
  | _ => none

/-- Those of a queue who are displaced when another one gets in line. -/
def displaced {α : Type} (policy : QueuePolicy) (queue : List α) : List α :=
  match policy with
  | fifo => []
  | supersedePending => queue

/-- Those of a queue who stay when another one gets in line. -/
def staying {α : Type} (policy : QueuePolicy) (queue : List α) : List α :=
  match policy with
  | fifo => queue
  | supersedePending => []

end QueuePolicy

/-- What a waiting run is told. -/
inductive Promotion where
  | start
  | superseded (newer : RunId)
  deriving Repr, DecidableEq

/-- The ticket of a waiting run. -/
inductive Ticket where
  /-- Nothing has been told yet. -/
  | waiting
  | told (promotion : Promotion)
  /-- Nobody waits any more. -/
  | dropped
  deriving Repr, DecidableEq

/-- One admission of a run. Admissions are numbered, so that two of one run differ. -/
structure Admitted where
  run : RunId
  number : Nat
  deriving Repr, DecidableEq

/-- A concurrency group. -/
structure Group where
  active : Option Admitted
  /-- Those who wait, in the order of their arrival. -/
  queue : List Admitted
  deriving Repr, DecidableEq

/-- What an admission is answered. -/
inductive Decision where
  | start
  /-- The run starts, and the active one before it has been cancelled. -/
  | cancelAndStart (previous : RunId)
  | queue
  deriving Repr, DecidableEq

/-- All concurrency groups. -/
structure Admission where
  policy : QueuePolicy
  groups : Dict Group
  /-- The tickets of the admissions that were told to wait. -/
  tickets : List (Nat × Ticket)
  /-- The admissions that were told to stop. -/
  cancelled : List Nat
  /-- The number of the next admission. -/
  next : Nat
  deriving Repr

namespace Admission

/-- No groups. -/
def empty (policy : QueuePolicy) : Admission := ⟨policy, [], [], [], 0⟩

/-- The group of a key; one that nobody has asked for is empty. -/
def group (a : Admission) (key : String) : Group :=
  (a.groups.get? key).getD ⟨none, []⟩

/-- The active run of a key. -/
def activeRun? (a : Admission) (key : String) : Option RunId :=
  (a.group key).active.map (·.run)

/-- How many runs wait for a key. -/
def queued (a : Admission) (key : String) : Nat :=
  (a.group key).queue.length

/-- The number of groups. -/
def groupCount (a : Admission) : Nat := a.groups.length

/-- The ticket of an admission; one that was not told to wait has none. -/
def ticket? (a : Admission) (number : Nat) : Option Ticket :=
  a.tickets.lookup number

/-- Tickets with a message for one of them, unless it was dropped. -/
def tell (number : Nat) (promotion : Promotion) (tickets : List (Nat × Ticket)) :
    List (Nat × Ticket) :=
  tickets.map fun entry =>
    if entry.1 = number && entry.2 = .waiting then (number, .told promotion) else entry

/-- Tickets with one message for several of them. -/
def tellAll (admitted : List Admitted) (promotion : Promotion) (tickets : List (Nat × Ticket)) :
    List (Nat × Ticket) :=
  admitted.foldl (fun tickets w => tell w.number promotion tickets) tickets

/-- A run asks for the group of a key. -/
def enter (a : Admission) (key : String) (run : RunId) (cancelInProgress : Bool) :
    Decision × Admission :=
  let group := a.group key
  let self : Admitted := ⟨run, a.next⟩
  let a := { a with next := a.next + 1 }
  match group.active with
  | none => (.start, { a with groups := a.groups.insert key { group with active := some self } })
  | some previous =>
    if cancelInProgress then
      (.cancelAndStart previous.run,
        { a with
          groups := a.groups.insert key ⟨some self, []⟩
          tickets := tellAll group.queue (.superseded run) a.tickets
          cancelled := previous.number :: a.cancelled })
    else
      (.queue,
        { a with
          groups := a.groups.insert key ⟨group.active, a.policy.staying group.queue ++ [self]⟩
          tickets := tellAll (a.policy.displaced group.queue) (.superseded run) a.tickets ++
            [(self.number, .waiting)] })

/-- The first of the waiting admissions whose ticket is still held, and those behind it. -/
def nextHeld (tickets : List (Nat × Ticket)) : List Admitted → Option (Admitted × List Admitted)
  | [] => none
  | w :: rest =>
    if tickets.lookup w.number = some .waiting then some (w, rest) else nextHeld tickets rest

/-- A run gives up the group of a key; whoever waits first becomes active. A run that is not the
active one gives up nothing. -/
def release (a : Admission) (key : String) (run : RunId) : Admission :=
  match a.groups.get? key with
  | none => a
  | some group =>
    if group.active.map (·.run) = some run then
      match nextHeld a.tickets group.queue with
      | some (w, rest) =>
        { a with
          groups := a.groups.insert key ⟨some w, rest⟩
          tickets := tell w.number .start a.tickets }
      | none => { a with groups := a.groups.erase key }
    else a

/-- Nobody waits with a ticket any more. -/
def dropTicket (a : Admission) (number : Nat) : Admission :=
  { a with tickets := a.tickets.map fun entry =>
      if entry.1 = number then (number, .dropped) else entry }

end Admission

end Pipeline
