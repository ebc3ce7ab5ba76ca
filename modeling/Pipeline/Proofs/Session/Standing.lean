import Pipeline.Proofs.Execution.Steady
import Pipeline.Session.Lane

/-! Where the instances of a job stand between their first and their last turn, and what one turn
changes: the status and the slot of the instance whose turn it is, and the signal that cancels all
of them. An instance is idle until its start check finds it not cancelled; once its job is cancelled
an idle instance stays idle. -/

namespace Pipeline

namespace Job

variable (job : Job) (run : RunInfo) (hasHost : Bool) (i : Instance)

/-- The end of an instance: it gives back its slot, if it has one. -/
def leave (held : Bool) (result : JobResult) : Work JobResult :=
  if held then .freeSlot (.done result) else .done result

/-- What an instance does with its result. -/
def settle (held : Bool) (result : JobResult) : Work JobResult :=
  .move result.status
    (if result.status = .failed && job.failFast then .cancelSiblings (leave held result)
    else leave held result)

/-- What an instance does once it waits for no slot: the look that decides whether it starts, and
what follows from that. -/
def startCheck (held : Bool) : Work JobResult :=
  .look fun b => .move (if b then .cancelled else .running)
    ((job.run run hasHost i).bind (job.settle held))

theorem task_of_limited (h : job.maxParallel.isSome = true) :
    job.task run hasHost i = .queueUp (.awaitSlot (job.startCheck run hasHost i)) := by
  unfold task
  rw [if_pos h]
  rfl

theorem task_of_unlimited (h : ¬job.maxParallel.isSome = true) :
    job.task run hasHost i = job.startCheck run hasHost i false := by
  unfold task
  rw [if_neg h]
  rfl

end Job

/-- A command is reported cancelled only if the work that it belongs to is. -/
def Answer.Faithful (cancelled : Bool) : Answer → Prop
  | .ran _ result => result.cancelled = true → cancelled = true
  | _ => True

/-- The slots that the instance has. -/
def Task.slots (t : Task) : Nat :=
  if t.holdsSlot then 1 else 0

/-- The result that an instance is left with once its siblings know of it. `cancelled` is the signal
of its job; an idle instance has the result of one that never ran. -/
structure Settled (job : Job) (trusted : Prop) (cancelled : Bool) (i : Instance) (begun : Bool)
    (result : JobResult) : Prop where
  index : result.index = i.index
  terminal : result.status.isTerminal = true
  blamed : trusted → result.status = .cancelled → cancelled = true
  alarmed : result.status = .failed → job.failFast = true → cancelled = true
  idle : begun = false → result.status = .cancelled

/-- Where an instance stands while its job is cancelled or not. The flag `begun` is false for an
idle instance. That a result is cancelled only if the job is holds where commands are trusted to
report a cancellation only then. -/
inductive Standing (job : Job) (run : RunInfo) (hasHost : Bool) (trusted : Prop)
    (cancelled : Bool) : Bool → Task → Prop where
  | outside {i : Instance} (limited : job.maxParallel.isSome = true) :
      Standing job run hasHost trusted cancelled false
        ⟨i, .pending, false, .working (.queueUp (.awaitSlot (job.startCheck run hasHost i)))⟩
  | waiting {i : Instance} (limited : job.maxParallel.isSome = true) :
      Standing job run hasHost trusted cancelled false
        ⟨i, .pending, false, .working (.awaitSlot (job.startCheck run hasHost i))⟩
  | arrived {i : Instance} {held : Bool}
      (slot : job.maxParallel.isSome = true → held = false → cancelled = true) :
      Standing job run hasHost trusted cancelled false
        ⟨i, .pending, held, .working (job.startCheck run hasHost i held)⟩
  | admitted {i : Instance} {held : Bool} (slot : job.maxParallel.isSome = true → held = true) :
      Standing job run hasHost trusted cancelled true
        ⟨i, .pending, held,
          .working (.move .running ((job.run run hasHost i).bind (job.settle held)))⟩
  | refused {i : Instance} {held : Bool} (told : cancelled = true) :
      Standing job run hasHost trusted cancelled false
        ⟨i, .pending, held,
          .working (.move .cancelled ((job.run run hasHost i).bind (job.settle held)))⟩
  | running {i : Instance} {held : Bool} {work : Work JobResult} {seen : Bool}
      (slot : job.maxParallel.isSome = true → held = true)
      (steady : work.Steady (Verdict i) seen)
      (told : trusted → seen = true → cancelled = true) :
      Standing job run hasHost trusted cancelled true
        ⟨i, .running, held, .working (work.bind (job.settle held))⟩
  | stopping {i : Instance} {held : Bool} {work : Work JobResult} (told : cancelled = true)
      (early : work = job.run run hasHost i ∨ work = .done (job.cancelledResult i)) :
      Standing job run hasHost trusted cancelled false
        ⟨i, .cancelled, held, .working (work.bind (job.settle held))⟩
  | alarming {i : Instance} {held : Bool} {result : JobResult} (index : result.index = i.index)
      (failed : result.status = .failed) (failFast : job.failFast = true) :
      Standing job run hasHost trusted cancelled true
        ⟨i, result.status, held, .working (.cancelSiblings (Job.leave held result))⟩
  | leaving {i : Instance} {begun : Bool} {result : JobResult}
      (settled : Settled job trusted cancelled i begun result) :
      Standing job run hasHost trusted cancelled begun
        ⟨i, result.status, true, .working (.freeSlot (.done result))⟩
  | finished {i : Instance} {begun : Bool} {result : JobResult}
      (settled : Settled job trusted cancelled i begun result) :
      Standing job run hasHost trusted cancelled begun
        ⟨i, result.status, false, .working (.done result)⟩
  | ended {i : Instance} {begun : Bool} {result : JobResult}
      (settled : Settled job trusted cancelled i begun result) :
      Standing job run hasHost trusted cancelled begun ⟨i, result.status, false, .ended result⟩
  | died {i : Instance} {begun : Bool} {status : JobStatus}
      (blamed : trusted → status = .cancelled → cancelled = true)
      (idle : begun = false → status = .pending ∨ status = .cancelled) :
      Standing job run hasHost trusted cancelled begun ⟨i, status, false, .died⟩

/-- What one turn of an instance in a lane changes. -/
structure Turn (run : RunInfo) (hasHost : Bool) (trusted : Prop) (answer : Answer)
    (lane lane' : Lane) (t t' : Task) (begun begun' : Bool) (entries : List Entry) : Prop where
  job : lane'.job = lane.job
  item : t'.item = t.item
  /-- The instance stays in its status, or goes on to one that may follow. -/
  status : t'.status = t.status ∨ t.status.canBecome t'.status = true
  /-- A slot that the instance gets was free, and one that it gives up is free. -/
  slots : lane'.free + t'.slots = lane.free + t.slots
  /-- The job is cancelled by nobody but an instance that has failed. -/
  cancelled : lane'.cancelled = lane.cancelled ∨
    lane'.cancelled = true ∧ lane.job.failFast = true ∧ t.status = .failed
  standing : Standing lane.job run hasHost trusted lane'.cancelled begun' t'
  idle : lane.cancelled = true → begun = false → begun' = false ∧ entries = []
  /-- Whoever stops waiting for a slot is idle, and so is its job cancelled. -/
  quits : answer = .noSlot → lane.cancelled = true ∧ begun = false
  obtains : t.holdsSlot = false → t'.holdsSlot = true → begun = false
  /-- Whoever has failed gives back its slot only after it has cancelled the job. -/
  returns : answer ≠ .death → t.holdsSlot = true → t'.holdsSlot = false →
    t'.status = .failed → lane.job.failFast = true → lane'.cancelled = true

namespace Lane

/-- The instances of a lane differ by their indices. -/
def Distinct (lane : Lane) : Prop :=
  (lane.tasks.map (·.item.index)).Nodup

theorem setTask_eq_append {lane : Lane} {index : Nat} {t : Task} (hd : lane.Distinct)
    (ht : lane.task? index = some t) :
    ∃ before after, lane.tasks = before ++ t :: after ∧ t.item.index = index ∧
      ∀ change, (lane.setTask index change).tasks = before ++ change t :: after := by
  obtain ⟨hindex, before, after, heq, hbefore⟩ := List.find?_eq_some_iff_append.mp ht
  replace hindex : t.item.index = index := beq_iff_eq.mp hindex
  refine ⟨before, after, heq, hindex, fun change => ?_⟩
  unfold Distinct at hd
  rw [heq, List.map_append, List.map_cons] at hd
  have hbefore : ∀ x ∈ before, x.item.index ≠ index := fun x hx => by simpa using hbefore x hx
  have hafter : ∀ x ∈ after, x.item.index ≠ index := fun x hx hx' =>
    (List.nodup_cons.mp (List.nodup_append.mp hd).2.1).1
      (List.mem_map.mpr ⟨x, hx, hx'.trans hindex.symm⟩)
  show lane.tasks.map _ = _
  rw [heq, List.map_append, List.map_cons, if_pos hindex,
    List.map_congr_left fun x hx => if_neg (hbefore x hx),
    List.map_congr_left fun x hx => if_neg (hafter x hx), List.map_id', List.map_id']

end Lane

theorem JobStatus.canBecome_of_running {status : JobStatus} (h : status.isTerminal = true) :
    JobStatus.running.canBecome status = true := by
  cases status with
  | pending | running => cases h
  | succeeded | failed | cancelled => rfl

theorem JobStatus.become_of_running {status : JobStatus} (h : status.isTerminal = true) :
    JobStatus.running.become status = status :=
  if_pos (canBecome_of_running h)

namespace Standing

variable {job : Job} {run : RunInfo} {hasHost : Bool} {trusted : Prop} {cancelled begun : Bool}
  {t : Task}

/-- An idle instance never runs. -/
theorem status_of_idle (h : Standing job run hasHost trusted cancelled false t) :
    t.status = .pending ∨ t.status = .cancelled := by
  cases h with
  | outside | waiting | arrived | refused => exact .inl rfl
  | stopping => exact .inr rfl
  | leaving settled | finished settled | ended settled => exact .inr (settled.idle rfl)
  | died _ idle => exact idle rfl

/-- An instance is cancelled only in a job that is. -/
theorem blamed (h : Standing job run hasHost trusted cancelled begun t) (htrusted : trusted)
    (hstatus : t.status = .cancelled) : cancelled = true := by
  cases h with
  | outside | waiting | arrived | admitted | refused | running => cases hstatus
  | stopping told => exact told
  | alarming _ failed => exact absurd (failed.symm.trans hstatus) JobStatus.noConfusion
  | leaving settled | finished settled | ended settled => exact settled.blamed htrusted hstatus
  | died blamed => exact blamed htrusted hstatus

/-- An instance with a result whose siblings know of it gives back its slot, if it has one. -/
theorem of_leave {i : Instance} {held : Bool} {result : JobResult}
    (h : Settled job trusted cancelled i begun result) :
    Standing job run hasHost trusted cancelled begun
      ⟨i, result.status, held, .working (Job.leave held result)⟩ := by
  cases held with
  | true => exact .leaving h
  | false => exact .finished h

/-- An instance with a result cancels its siblings first, if it has failed and is to do so. -/
theorem of_result {i : Instance} {held : Bool} {result : JobResult}
    (index : result.index = i.index) (terminal : result.status.isTerminal = true)
    (blamed : trusted → result.status = .cancelled → cancelled = true)
    (idle : begun = false → result.status = .cancelled) :
    Standing job run hasHost trusted cancelled begun ⟨i, result.status, held,
      .working (if result.status = .failed && job.failFast then
        .cancelSiblings (Job.leave held result) else Job.leave held result)⟩ := by
  split
  · next halarm =>
    rw [Bool.and_eq_true, decide_eq_true_eq] at halarm
    cases begun with
    | true => exact .alarming index halarm.1 halarm.2
    | false => exact absurd ((idle rfl).symm.trans halarm.1) JobStatus.noConfusion
  · next hcalm =>
    refine of_leave ⟨index, terminal, blamed, fun hfailed hfast => absurd ?_ hcalm, idle⟩
    rw [hfailed, hfast]
    rfl

/-- Where an instance stands once its job is cancelled. -/
theorem mono (h : Standing job run hasHost trusted cancelled begun t) {cancelled' : Bool}
    (hc : cancelled = true → cancelled' = true) :
    Standing job run hasHost trusted cancelled' begun t := by
  have hsettled {i : Instance} {begun : Bool} {result : JobResult}
      (h : Settled job trusted cancelled i begun result) :
      Settled job trusted cancelled' i begun result :=
    ⟨h.index, h.terminal, fun ht hs => hc (h.blamed ht hs), fun hf hff => hc (h.alarmed hf hff),
      h.idle⟩
  cases h with
  | outside limited => exact .outside limited
  | waiting limited => exact .waiting limited
  | arrived slot => exact .arrived fun hl hh => hc (slot hl hh)
  | admitted slot => exact .admitted slot
  | refused told => exact .refused (hc told)
  | running slot steady told => exact .running slot steady fun ht hs => hc (told ht hs)
  | stopping told early => exact .stopping (hc told) early
  | alarming index failed failFast => exact .alarming index failed failFast
  | leaving settled => exact .leaving (hsettled settled)
  | finished settled => exact .finished (hsettled settled)
  | ended settled => exact .ended (hsettled settled)
  | died blamed idle => exact .died (fun ht hs => hc (blamed ht hs)) idle

end Standing

/-- A turn of steady work that is not done yet: it goes on, and changes nothing but itself. -/
theorem Work.Steady.advance {α : Type} {P : Bool → α → Prop} {work : Work α} {seen : Bool}
    {next : α → Work JobResult} {lane lane' : Lane} {t : Task} {runId : RunId} {index : Nat}
    {answer : Answer} {entries : List Entry} (h : work.Steady P seen)
    (ht : lane.task? index = some t) (hstage : t.stage = .working (work.bind next))
    (hdone : ∀ value, work ≠ .done value) (hanswer : answer ≠ .death)
    (hm : lane.advance runId index answer = some (lane', entries)) :
    answer ≠ .noSlot ∧ ∃ (work' : Work α) (seen' : Bool),
      lane' = lane.setWork index (work'.bind next) ∧ work'.Steady P seen' ∧
      (answer.Faithful lane.cancelled → seen' = true → seen = true ∨ lane.cancelled = true) := by
  simp only [Lane.advance, ht, hstage] at hm
  cases work with
  | done value => exact absurd rfl (hdone value)
  | queueUp | awaitSlot | freeSlot | move | cancelSiblings => exact h.elim
  | look resume =>
    cases answer <;> cases hm
    · exact ⟨Answer.noConfusion, _, _, rfl, h _, fun _ => Bool.or_eq_true_iff.mp⟩
    · exact absurd rfl hanswer
  | report event rest | log level message rest | start request rest =>
    cases answer <;> cases hm
    · exact ⟨Answer.noConfusion, _, _, rfl, h, fun _ => .inl⟩
    · exact absurd rfl hanswer
  | resolve steps resume | invoke action inputs env resume =>
    cases answer <;> cases hm
    · exact ⟨Answer.noConfusion, _, _, rfl, h _, fun _ => .inl⟩
    · exact absurd rfl hanswer
  | await request resume =>
    cases answer <;> cases hm
    · refine ⟨Answer.noConfusion, _, _, rfl, h _ _, fun hfaithful hseen => ?_⟩
      exact (Bool.or_eq_true_iff.mp hseen).imp_right hfaithful
    · exact absurd rfl hanswer

/-! ### Turns -/

namespace Turn

variable {run : RunInfo} {hasHost : Bool} {trusted : Prop} {answer : Answer}
  {lane lane' : Lane} {before after : List Task} {t : Task} {i : Instance}
  {begun begun' held : Bool} {result : JobResult} {entries : List Entry} {runId : RunId}
  {index : Nat}

/-- A turn that changes nothing but how the instance goes on. -/
theorem of_stage {stage : Stage} (hjob : lane'.job = lane.job)
    (hfree : lane'.free = lane.free) (hcancelled : lane'.cancelled = lane.cancelled)
    (hanswer : answer ≠ .noSlot)
    (hs : Standing lane.job run hasHost trusted lane.cancelled begun' { t with stage := stage })
    (hidle : lane.cancelled = true → begun = false → begun' = false ∧ entries = []) :
    Turn run hasHost trusted answer lane lane' t { t with stage := stage } begun begun'
      entries where
  job := hjob
  item := rfl
  status := .inl rfl
  slots := by rw [hfree]; rfl
  cancelled := .inl hcancelled
  standing := hcancelled ▸ hs
  idle := hidle
  quits := fun h => absurd h hanswer
  obtains := fun h h' => absurd (h.symm.trans h') Bool.false_ne_true
  returns := fun _ h h' => absurd (h'.symm.trans h) Bool.false_ne_true

/-- The turn in which an instance dies. -/
theorem of_death (hs : Standing lane.job run hasHost trusted lane.cancelled begun t) :
    Turn run hasHost trusted .death lane (lane.die index t) t
      { t with stage := .died, holdsSlot := false } begun begun [] where
  job := rfl
  item := rfl
  status := .inl rfl
  slots := by
    show (if t.holdsSlot then lane.free + 1 else lane.free) + 0 = lane.free + t.slots
    unfold Task.slots
    split <;> rfl
  cancelled := .inl rfl
  standing := .died hs.blamed fun hbegun => (hbegun ▸ hs).status_of_idle
  idle := fun _ hbegun => ⟨hbegun, rfl⟩
  quits := Answer.noConfusion
  obtains := fun _ => Bool.noConfusion
  returns := fun h => absurd rfl h

/-- The turn in which an instance sets its status. -/
theorem of_move {status : JobStatus} {rest : Work JobResult}
    (hs : Standing lane.job run hasHost trusted lane.cancelled begun'
      { t with status := t.status.become status, stage := .working rest })
    (hidle : lane.cancelled = true → begun = false → begun' = false) (hjob : lane'.job = lane.job)
    (hfree : lane'.free = lane.free) (hcancelled : lane'.cancelled = lane.cancelled) :
    Turn run hasHost trusted .go lane lane' t
      { t with status := t.status.become status, stage := .working rest } begun begun' [] where
  job := hjob
  item := rfl
  status := by
    show t.status.become status = _ ∨ t.status.canBecome (t.status.become status) = true
    unfold JobStatus.become
    split
    · next h => exact .inr h
    · exact .inl rfl
  slots := by rw [hfree]; rfl
  cancelled := .inl hcancelled
  standing := hcancelled ▸ hs
  idle := fun h hbegun => ⟨hidle h hbegun, rfl⟩
  quits := Answer.noConfusion
  obtains := fun h h' => absurd (h.symm.trans h') Bool.false_ne_true
  returns := fun _ h h' => absurd (h'.symm.trans h) Bool.false_ne_true

end Turn

namespace Lane

variable {run : RunInfo} {hasHost : Bool} {trusted : Prop} {answer : Answer}
  {lane lane' : Lane} {before after : List Task} {t : Task} {i : Instance}
  {begun held : Bool} {entries : List Entry} {runId : RunId} {index : Nat}

theorem advance_death (ht : lane.task? index = some t)
    (hm : lane.advance runId index .death = some (lane', entries)) :
    lane' = lane.die index t ∧ entries = [] := by
  simp only [advance, ht] at hm
  split at hm
  · cases hm
  · cases hm
  · cases hm
    exact ⟨rfl, rfl⟩

/-- An instance takes its turn: its siblings stay as they are. -/
theorem turn_of_advance
    (hset : ∀ change, (lane.setTask index change).tasks = before ++ change t :: after)
    (ht : lane.task? index = some t)
    (hs : Standing lane.job run hasHost trusted lane.cancelled begun t)
    (hfaithful : trusted → answer.Faithful lane.cancelled)
    (hm : lane.advance runId index answer = some (lane', entries)) :
    ∃ t' begun', lane'.tasks = before ++ t' :: after ∧
      Turn run hasHost trusted answer lane lane' t t' begun begun' entries := by
  by_cases hdeath : answer = .death
  · subst hdeath
    obtain ⟨rfl, rfl⟩ := advance_death ht hm
    exact ⟨_, _, hset _, .of_death hs⟩
  cases hs with
  | outside limited =>
    simp only [advance, ht] at hm
    cases answer <;> cases hm
    · exact ⟨_, _, hset _, .of_stage rfl rfl rfl Answer.noConfusion
        (.waiting limited) fun _ _ => ⟨rfl, rfl⟩⟩
    · exact absurd rfl hdeath
  | waiting limited =>
    simp only [advance, ht] at hm
    cases answer <;> simp only [reduceCtorEq] at hm
    · -- it gets a slot
      split at hm
      · next hfree =>
        rw [Bool.and_eq_true, decide_eq_true_eq, decide_eq_true_eq] at hfree
        cases hm
        refine ⟨_, false, hset _, ?_⟩
        constructor
        case standing => exact .arrived fun _ => Bool.noConfusion
        case slots => exact Nat.sub_add_cancel hfree.2
        all_goals simp [setTask]
      · cases hm
    · -- it waits no longer
      split at hm
      · next hcancelled =>
        cases hm
        refine ⟨_, false, hset _, ?_⟩
        constructor
        case standing => exact .arrived fun _ _ => hcancelled
        all_goals simp [setWork, setTask, Task.slots, hcancelled]
      · cases hm
    · exact absurd rfl hdeath
  | @arrived i held slot =>
    simp only [advance, ht, Job.startCheck] at hm
    cases answer <;> cases hm
    · cases hcancelled : lane.cancelled with
      | false =>
        have hheld (hlimited : lane.job.maxParallel.isSome = true) : held = true := by
          cases held with
          | true => rfl
          | false => exact hcancelled.symm.trans (slot hlimited rfl)
        exact ⟨_, _, hset _, .of_stage rfl rfl rfl Answer.noConfusion
          (.admitted hheld) fun h => absurd (h.symm.trans hcancelled) Bool.noConfusion⟩
      | true =>
        exact ⟨_, _, hset _, .of_stage rfl rfl rfl Answer.noConfusion
          (.refused hcancelled) fun _ _ => ⟨rfl, rfl⟩⟩
    · exact absurd rfl hdeath
  | @admitted i held slot =>
    simp only [advance, ht] at hm
    cases answer <;> cases hm
    · refine ⟨_, true, hset _, .of_move ?_ (fun _ => Bool.noConfusion) rfl rfl rfl⟩
      exact .running slot (lane.job.steady_run run hasHost i false) fun _ => Bool.noConfusion
    · exact absurd rfl hdeath
  | refused told =>
    simp only [advance, ht] at hm
    cases answer <;> cases hm
    · refine ⟨_, false, hset _, .of_move ?_ (fun _ _ => rfl) rfl rfl rfl⟩
      exact .stopping told (.inl rfl)
    · exact absurd rfl hdeath
  | @running i held work seen slot steady told =>
    by_cases hdone : ∃ result, work = .done result
    · obtain ⟨result, rfl⟩ := hdone
      simp only [advance, ht, Work.bind, Job.settle] at hm
      cases answer <;> cases hm
      · refine ⟨_, true, hset _, .of_move ?_ (fun _ => Bool.noConfusion) rfl rfl rfl⟩
        show Standing _ _ _ _ _ _ ⟨i, JobStatus.running.become result.status, _, _⟩
        rw [JobStatus.become_of_running steady.terminal]
        exact .of_result steady.index steady.terminal
          (fun htrusted hstop => told htrusted (steady.blamed hstop)) Bool.noConfusion
      · exact absurd rfl hdeath
    · obtain ⟨hquits, work', seen', rfl, hwork', hseen'⟩ :=
        steady.advance ht rfl (fun value hvalue => hdone ⟨value, hvalue⟩) hdeath hm
      refine ⟨_, true, hset _, .of_stage rfl rfl rfl hquits ?_ fun _ => Bool.noConfusion⟩
      exact .running slot hwork' fun htrusted hseen =>
        (hseen' (hfaithful htrusted) hseen).elim (told htrusted) fun h => h
  | @stopping i held work told early =>
    rcases early with rfl | rfl
    · obtain ⟨rest, hrun⟩ := lane.job.run_eq_look run hasHost i
      simp only [advance, ht, hrun, Work.bind, told] at hm
      cases answer <;> cases hm
      · exact ⟨_, _, hset _, .of_stage rfl rfl rfl Answer.noConfusion
          (.stopping told (.inr rfl)) fun _ _ => ⟨rfl, rfl⟩⟩
      · exact absurd rfl hdeath
    · simp only [advance, ht, Work.bind, Job.settle] at hm
      cases answer <;> cases hm
      · refine ⟨_, false, hset _, .of_move ?_ (fun _ _ => rfl) rfl rfl rfl⟩
        have hindex : (lane.job.cancelledResult i).index = i.index := rfl
        exact .of_result hindex rfl (fun _ _ => told) fun _ => rfl
      · exact absurd rfl hdeath
  | alarming hindex failed failFast =>
    simp only [advance, ht] at hm
    cases answer <;> cases hm
    · refine ⟨_, true, hset _, ?_⟩
      constructor
      case standing =>
        exact .of_leave ⟨hindex, by rw [failed]; rfl, fun _ _ => rfl, fun _ _ => rfl,
          Bool.noConfusion⟩
      case cancelled => exact .inr ⟨rfl, failFast, failed⟩
      all_goals simp [setWork, setTask, Task.slots]
    · exact absurd rfl hdeath
  | leaving settled =>
    simp only [advance, ht] at hm
    cases answer <;> cases hm
    · refine ⟨_, begun, hset _, ?_⟩
      constructor
      case standing => exact .finished settled
      case returns => exact fun _ _ _ => settled.alarmed
      all_goals simp [setTask, Task.slots]
    · exact absurd rfl hdeath
  | finished settled =>
    simp only [advance, ht] at hm
    cases answer <;> cases hm
    · exact ⟨_, _, hset _, .of_stage rfl rfl rfl Answer.noConfusion
        (.ended settled) fun _ hbegun => ⟨hbegun, rfl⟩⟩
    · exact absurd rfl hdeath
  | ended =>
    simp only [advance, ht] at hm
    cases hm
  | died =>
    simp only [advance, ht] at hm
    cases hm

end Lane

end Pipeline
