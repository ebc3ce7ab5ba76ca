/-! The statuses of steps, job instances and runs. -/

namespace Pipeline

/-- How a step ended. -/
inductive StepStatus where
  | succeeded
  | failed
  | skipped
  | cancelled
  deriving Repr, DecidableEq

namespace StepStatus

/-- The status as reports write it. -/
def render : StepStatus → String
  | succeeded => "succeeded"
  | failed => "failed"
  | skipped => "skipped"
  | cancelled => "cancelled"

/-- The status as expressions see it. -/
def word : StepStatus → String
  | succeeded => "success"
  | failed => "failure"
  | skipped => "skipped"
  | cancelled => "cancelled"

/-- The status of a name. -/
def ofName? (name : String) : Option StepStatus :=
  [succeeded, failed, skipped, cancelled].find? (·.render == name)

end StepStatus

/-- Where a job instance stands. -/
inductive JobStatus where
  | pending
  | running
  | succeeded
  | failed
  | cancelled
  deriving Repr, DecidableEq

namespace JobStatus

/-- The status as reports write it. -/
def render : JobStatus → String
  | pending => "pending"
  | running => "running"
  | succeeded => "succeeded"
  | failed => "failed"
  | cancelled => "cancelled"

/-- The status of a name. -/
def ofName? (name : String) : Option JobStatus :=
  [pending, running, succeeded, failed, cancelled].find? (·.render == name)

/-- Nothing follows a terminal status. -/
def isTerminal : JobStatus → Bool
  | succeeded | failed | cancelled => true
  | pending | running => false

/-- The moves of an instance: it starts or is cancelled, and once it runs it ends in one of three
ways. -/
def canBecome : JobStatus → JobStatus → Bool
  | pending, running | pending, cancelled => true
  | running, succeeded | running, failed | running, cancelled => true
  | _, _ => false

/-- The status after an attempt to move on: a move that is not allowed changes nothing. -/
def become (status next : JobStatus) : JobStatus :=
  if status.canBecome next then next else status

end JobStatus

/-- How a run ended. -/
inductive RunStatus where
  | succeeded
  | failed
  | cancelled
  deriving Repr, DecidableEq

namespace RunStatus

/-- The status as reports write it. -/
def render : RunStatus → String
  | succeeded => "succeeded"
  | failed => "failed"
  | cancelled => "cancelled"

/-- The status of a run from those of its instances: a failure wins, and all must have succeeded for
a success. -/
def aggregate (statuses : List JobStatus) : RunStatus :=
  if statuses.contains .failed then .failed
  else if statuses.all (· == .succeeded) then .succeeded
  else .cancelled

end RunStatus

end Pipeline
