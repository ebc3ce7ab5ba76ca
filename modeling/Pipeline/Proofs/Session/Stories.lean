import Pipeline.Proofs.Execution.Brackets
import Pipeline.Proofs.Session.Report

/-! What the instances of a run tell: each one, whatever the others do meanwhile, a story with a
start, an end and the brackets of its steps, or a part of one if it dies. -/

namespace Pipeline

/-- The move is no turn of an instance. -/
def Move.IsQuiet (m : Move) : Prop :=
  ∀ run place index answer, m ≠ .advance run place index answer

theorem Move.turn_or_isQuiet (m : Move) :
    (∃ run place index answer, m = .advance run place index answer) ∨ m.IsQuiet := by
  cases m with
  | advance run place index answer => exact .inl ⟨run, place, index, answer, rfl⟩
  | _ => exact .inr nofun

/-- The event of an instance that an entry shows. -/
def Entry.event? (run : RunId) (index : Nat) : Entry → Option JobEvent
  | .notice (.job other place event) => if other = run ∧ place = index then some event else none
  | _ => none

/-- What an instance has told so far. -/
def Session.told (s : Session) (run : RunId) (index : Nat) : List JobEvent :=
  s.log.reverse.filterMap (Entry.event? run index)

/-- What is seen of a deed tells what it reports, and only of the instance that it is a deed of. -/
theorem Deed.told_entries (d : Deed) (run other : RunId) (index place : Nat) :
    (d.entries run index).filterMap (Entry.event? other place) =
      if run = other ∧ index = place then reports [d] else [] := by
  cases d with
  | reported event =>
    by_cases hsame : run = other ∧ index = place <;>
      simp [entries, Entry.event?, reports, event?, hsame]
  | _ => split <;> rfl

namespace Job

variable {job : Job} {run : RunInfo} {hasHost : Bool} {i : Instance} {deeds : List Deed}
  {result : JobResult}

theorem reports_leave {held : Bool} {value : JobResult}
    (h : (Job.leave held result).Runs deeds value) : reports deeds = [] := by
  unfold leave at h
  split at h
  · obtain _ | ⟨⟨⟩, h⟩ := h
    rw [reports_cons rfl, (Work.Runs.done h).1]
    rfl
  · rw [h.done.1]
    rfl

theorem reports_settle {held : Bool} {value : JobResult}
    (h : (job.settle held result).Runs deeds value) : reports deeds = [] := by
  obtain _ | ⟨⟨⟩, h⟩ := h
  rw [reports_cons rfl]
  split at h
  · obtain _ | ⟨⟨⟩, h⟩ := h
    rw [reports_cons rfl]
    exact reports_leave h
  · exact reports_leave h

/-- The deeds are those of an instance that has come to the result. What they report is the story of
its run between them: nothing at all where it is cancelled before it starts. -/
def Recounts (job : Job) (run : RunInfo) (hasHost : Bool) (i : Instance) (done : List Deed)
    (result : JobResult) : Prop :=
  (job.task run hasHost i).Runs done result ∧
    ∃ early deeds late, done = early ++ deeds ++ late ∧ reports early = [] ∧ reports late = [] ∧
      (job.run run hasHost i).Runs deeds result ∧
      job.Tells run hasHost i deeds (reports done) result ∧
      (reports done = [] ↔ deeds.head? = some (.looked true))

theorem exists_run_of_startCheck {held : Bool}
    (h : (job.startCheck run hasHost i held).Runs deeds result) :
    ∃ early own late, deeds = early ++ own ++ late ∧ reports early = [] ∧ reports late = [] ∧
      (job.run run hasHost i).Runs own result := by
  obtain @⟨⟩ | ⟨@⟨_, cancelled⟩, @⟨⟩ | ⟨⟨⟩, h⟩⟩ := h
  obtain ⟨own, _, late, rfl, hrun, hsettle⟩ := Work.Runs.bind h
  obtain rfl := runs_settle hsettle
  exact ⟨[.looked cancelled, .moved _], own, late, rfl, rfl, reports_settle hsettle, hrun⟩

/-- An instance tells what its run reports, whether it waits for a slot or not. -/
theorem recounts_of_task (h : (job.task run hasHost i).Runs deeds result) :
    job.Recounts run hasHost i deeds result := by
  have hrun : ∃ early own late, deeds = early ++ own ++ late ∧ reports early = [] ∧
      reports late = [] ∧ (job.run run hasHost i).Runs own result := by
    by_cases hlimited : job.maxParallel.isSome = true
    · rw [task_of_limited _ _ _ _ hlimited] at h
      obtain _ | ⟨⟨⟩, _ | ⟨⟨⟩, h⟩⟩ := h
      obtain ⟨early, own, late, rfl, hearly, hlate, hrun⟩ := exists_run_of_startCheck h
      refine ⟨_ :: _ :: early, own, late, rfl, ?_, hlate, hrun⟩
      rw [reports_cons rfl, reports_cons rfl, hearly]
    · rw [task_of_unlimited _ _ _ _ hlimited] at h
      exact exists_run_of_startCheck h
  obtain ⟨early, own, late, rfl, hearly, hlate, hrun⟩ := hrun
  have hreports : reports (early ++ own ++ late) = reports own := by
    rw [reports_append, reports_append, hearly, hlate, List.append_nil]
    rfl
  refine ⟨h, early, own, late, rfl, hearly, hlate, hrun, ?_⟩
  rw [hreports]
  exact tells_of_runs hrun

end Job

/-- The deeds have taken an instance to where it is. -/
inductive Stage.Follows (job : Job) (info : RunInfo) (hasHost : Bool) (i : Instance)
    (done : List Deed) : Stage → Prop where
  | working {work : Work JobResult} (path : (job.task info hasHost i).Path done work) :
      Follows job info hasHost i done (.working work)
  | ended {result : JobResult} (runs : (job.task info hasHost i).Runs done result) :
      Follows job info hasHost i done (.ended result)
  | died {work : Work JobResult} (path : (job.task info hasHost i).Path done work) :
      Follows job info hasHost i done .died

theorem Stage.Follows.goes {job : Job} {info : RunInfo} {hasHost : Bool} {i : Instance}
    {done : List Deed} {stage stage' : Stage} {answer : Answer} {d? : Option Deed}
    (h : stage.Follows job info hasHost i done) (hgoes : stage.Goes answer d? stage') :
    stage'.Follows job info hasHost i (done ++ d?.toList) := by
  cases hgoes with
  | does does =>
    obtain ⟨path⟩ := h
    exact .working (path.concat does)
  | finish =>
    obtain ⟨path⟩ := h
    rw [Option.toList_none, List.append_nil]
    exact .ended path
  | die =>
    obtain ⟨path⟩ := h
    rw [Option.toList_none, List.append_nil]
    exact .died path

/-- How the result of an instance goes with what it has done: they belong together, unless the run
never sent it out, or it died on the way and got its result from the run. -/
inductive Job.Reported (job : Job) (info : RunInfo) (hasHost : Bool) (i : Instance)
    (done : List Deed) : JobResult → Prop where
  | unsent (idle : done = []) : Reported job info hasHost i done (job.cancelledResult i)
  | told {result : JobResult} (recounts : job.Recounts info hasHost i done result) :
      Reported job info hasHost i done result
  | died {later : List Deed} {result : JobResult}
      (begun : job.Recounts info hasHost i (done ++ later) result) :
      Reported job info hasHost i done (job.abandonedResult i)

theorem Stage.Follows.exists_recounts {job : Job} {info : RunInfo} {hasHost : Bool} {i : Instance}
    {done : List Deed} {stage : Stage} (h : stage.Follows job info hasHost i done) :
    ∃ later result, job.Recounts info hasHost i (done ++ later) result := by
  cases h with
  | working path | ended path | died path =>
    obtain ⟨later, result, hruns⟩ := path.exists_runs
    exact ⟨later, result, Job.recounts_of_task hruns⟩

theorem Stage.Follows.recounts {job : Job} {info : RunInfo} {hasHost : Bool} {i : Instance}
    {done : List Deed} {result : JobResult}
    (h : (Stage.ended result).Follows job info hasHost i done) :
    job.Recounts info hasHost i done result := by
  cases h with
  | ended runs => exact Job.recounts_of_task runs

theorem Task.reported {job : Job} {info : RunInfo} {hasHost : Bool} {t : Task}
    {done : List Deed} (h : t.stage.Follows job info hasHost t.item done)
    (hover : t.isOver = true) :
    job.Reported info hasHost t.item done (t.result job) := by
  obtain ⟨later, other, hbegun⟩ := h.exists_recounts
  unfold isOver at hover
  unfold result
  cases hstage : t.stage with
  | working =>
    rw [hstage] at hover
    cases hover
  | died => exact .died hbegun
  | ended =>
    rw [hstage] at h
    exact .told h.recounts

/-- What the instances of a call have done in each phase of it. -/
def Phase.Records (done : Nat → List Deed) (info : RunInfo) (hasHost : Bool) : Phase → Prop
  | .queued | .granted | .refused => ∀ index, done index = []
  | .dispatched lanes =>
    Dispatched (fun job i stage => stage.Follows job info hasHost i (done i.index)) info lanes
  | .finished outcome =>
    List.Forall₂ (fun e => e.1.Reported info hasHost e.2 (done e.2.index))
      info.workflow.instances outcome.jobs
  | .leaving => True

namespace Session

open Turns (lanes)

variable {policy : QueuePolicy} {hasHost : Bool} {s s' : Session} {m : Move} {run : RunId}
  {call : Call} {done : RunId → Nat → List Deed}

theorem told_of_log {entries : List Entry} (h : s'.log = entries.reverse ++ s.log) (run : RunId)
    (index : Nat) :
    s'.told run index = s.told run index ++ entries.filterMap (Entry.event? run index) := by
  rw [told, h, List.reverse_append, List.reverse_reverse, List.filterMap_append]
  rfl

/-- Nothing is told of an instance: the log is as it was, or says more of a run as a whole. -/
structure Mute (s s' : Session) : Prop where
  log : s'.log = s.log ∨ ∃ run event, s'.log = .notice (.run run event) :: s.log
  hasHost : s'.hasHost = s.hasHost

theorem Mute.told_eq (h : Mute s s') : s'.told = s.told := by
  funext run index
  obtain hlog | ⟨other, event, hlog⟩ := h.log
  · rw [told, hlog]
    rfl
  · rw [@told_of_log s s' [.notice (.run other event)] hlog]
    exact List.append_nil _

@[simp] theorem release_log (s : Session) (call : Call) : (s.release call).log = s.log := by
  unfold release
  split <;> rfl

@[simp] theorem release_hasHost (s : Session) (call : Call) :
    (s.release call).hasHost = s.hasHost := by
  unfold release
  split <;> rfl

@[simp] theorem dropTicket_log (s : Session) (call : Call) : (s.dropTicket call).log = s.log := by
  unfold dropTicket
  split <;> rfl

@[simp] theorem dropTicket_hasHost (s : Session) (call : Call) :
    (s.dropTicket call).hasHost = s.hasHost := by
  unfold dropTicket
  split <;> rfl

theorem Mute.handle {info : RunInfo} (hm : s.handle info = some s') : Mute s s' := by
  unfold Session.handle at hm
  split at hm
  · cases hm
  · split at hm
    · cases hm
      exact ⟨.inl rfl, rfl⟩
    · cases hm
      unfold ask
      generalize (s.register info.id).admission.enter _ info.id info.cancelsActive = answer
      obtain ⟨decision, admission⟩ := answer
      cases decision with
      | start => exact ⟨.inl rfl, rfl⟩
      | cancelAndStart | queue => exact ⟨.inr ⟨_, _, rfl⟩, rfl⟩
    · cases hm

theorem Mute.applyTo (hquiet : m.IsQuiet)
    (hm : s.applyTo call m = some s') : Mute s s' := by
  have hkept {t : Session} (hlog : t.log = s.log) (hhost : t.hasHost = s.hasHost) : Mute s t :=
    ⟨.inl hlog, hhost⟩
  have htells {t : Session} (run : RunId) (event : RunEvent) (phase : Phase) (hlog : t.log = s.log)
      (hhost : t.hasHost = s.hasHost) : Mute s ((t.tell run event).setPhase run phase) :=
    ⟨.inr ⟨run, event, congrArg (Entry.notice (.run run event) :: ·) hlog⟩, hhost⟩
  simp only [Session.applyTo] at hm
  split at hm
  · -- promote
    split at hm <;> cases hm
    exact hkept rfl rfl
  · -- displace
    split at hm <;> cases hm
    exact hkept rfl rfl
  · -- withdraw
    split at hm <;> cases hm
    exact hkept (dropTicket_log s call) (dropTicket_hasHost s call)
  · -- abandon
    cases hm
    exact htells _ _ _ (release_log s call) (release_hasHost s call)
  · -- launch
    cases hm
    exact htells _ _ _ rfl rfl
  · -- forward
    split at hm
    · obtain ⟨lane, -, rfl⟩ := Option.map_eq_some_iff.mp hm
      exact hkept rfl rfl
    · cases hm
  · exact absurd rfl (hquiet _ _ _ _)
  · -- collect
    split at hm <;> cases hm
    exact htells _ _ _ (release_log s call) (release_hasHost s call)
  · -- close, with an outcome
    cases hm
    exact hkept (release_log s call) (release_hasHost s call)
  · -- close, given up on the way
    cases hm
    exact hkept (release_log s call) (release_hasHost s call)
  · -- cancel
    split at hm <;> cases hm
    exact hkept rfl rfl
  · cases hm
  · cases hm
  · -- drop
    cases hm
    exact hkept (dropTicket_log s call) (dropTicket_hasHost s call)
  · cases hm

/-- Whatever is done, an instance tells something only when it takes a turn. -/
theorem Mute.apply (hquiet : m.IsQuiet)
    (hm : s.apply m = some s') : Mute s s' := by
  unfold Session.apply at hm
  split at hm
  · exact .handle hm
  · split at hm
    · cases hm
    · exact .applyTo hquiet hm

/-- A turn changes the lane of its instance, adds what it shows to the log, and leaves the calls of
other runs alone. -/
structure TurnMade (s s' : Session) (call : Call) (lanes : List Lane) (place index : Nat)
    (answer : Answer) (lane lane' : Lane) (entries : List Entry) : Prop where
  before : s.call? call.info.id = some call
  dispatched : call.phase = .dispatched lanes
  found : lanes[place]? = some lane
  turn : lane.advance call.info.id index answer = some (lane', entries)
  log : s'.log = entries.reverse ++ s.log
  hasHost : s'.hasHost = s.hasHost
  after : ∀ run, s'.call? run =
    if run = call.info.id then some { call with phase := .dispatched (lanes.set place lane') }
    else s.call? run

theorem exists_turnMade {place index : Nat} {answer : Answer}
    (hm : s.apply (.advance run place index answer) = some s') :
    ∃ call lanes lane lane' entries, call.info.id = run ∧
      TurnMade s s' call lanes place index answer lane lane' entries := by
  obtain ⟨call, hcall, rfl, hm⟩ := exists_call_of_apply hm fun _ => Move.noConfusion
  cases hphase : call.phase <;> simp only [Session.applyTo, hphase, reduceCtorEq] at hm
  next lanes =>
  split at hm
  · cases hm
  · next lane hlane =>
    split at hm
    · cases hm
    · next lane' entries hturn =>
      cases hm
      refine ⟨call, lanes, lane, lane', entries, rfl, hcall, hphase, hlane, hturn, rfl, rfl, ?_⟩
      intro run
      rw [setLane, call?_setPhase]
      split
      · next hrun =>
        subst hrun
        exact congrArg (Option.map _) hcall
      · rfl

theorem Orderly.exists_turned {place index : Nat} {answer : Answer} (h : Orderly False s)
    (hm : s.apply (.advance run place index answer) = some s') :
    ∃ call lanes lane lane' entries t t' before after, call.info.id = run ∧
      TurnMade s s' call lanes place index answer lane lane' entries ∧
      Lane.Turned lane lane' call.info.id index answer entries t t' before after := by
  obtain ⟨call, ls, lane, lane', entries, rfl, hmade⟩ := exists_turnMade hm
  have hlanes := lanes_of_dispatched hmade.before hmade.dispatched
  obtain ⟨_, _, hsound⟩ := h.sound _ _ (hlanes ▸ List.mem_of_getElem? hmade.found)
  obtain ⟨t, t', before, after, hturned⟩ := Lane.exists_turned hsound.distinct hmade.turn
  exact ⟨call, ls, lane, lane', entries, t, t', before, after, rfl, hmade, hturned⟩

/-! ### The record of a session -/

/-- What an instance does in a move, if the move is a turn of it. -/
def deed? (s : Session) (m : Move) (run : RunId) (index : Nat) : Option Deed :=
  match m with
  | .advance turned place taken answer =>
    if turned = run ∧ taken = index then
      (lanes s run)[place]?.bind fun lane =>
        (lane.task? index).bind fun t => t.stage.deed? lane.cancelled answer
    else none
  | _ => none

/-- A session, with all that the instances of its runs have done on the way to it. -/
inductive Recorded (policy : QueuePolicy) (hasHost : Bool) :
    Session → (RunId → Nat → List Deed) → Prop where
  | empty : Recorded policy hasHost (Session.empty policy hasHost) fun _ _ => []
  | move {s s' : Session} {done : RunId → Nat → List Deed} (m : Move)
      (record : Recorded policy hasHost s done) (made : s.apply m = some s') :
      Recorded policy hasHost s' fun run index => done run index ++ (s.deed? m run index).toList

theorem Recorded.reachable (h : Recorded policy hasHost s done) : Reachable policy hasHost s := by
  induction h with
  | empty => exact .empty
  | move m _ hm ih => exact ih.move m hm

theorem Reachable.exists_recorded (h : Reachable policy hasHost s) :
    ∃ done, Recorded policy hasHost s done := by
  induction h with
  | empty => exact ⟨_, .empty⟩
  | move m _ hm ih =>
    obtain ⟨done, hdone⟩ := ih
    exact ⟨_, hdone.move m hm⟩

theorem deed?_of_isQuiet (hquiet : m.IsQuiet)
    (run : RunId) (index : Nat) : s.deed? m run index = none := by
  unfold deed?
  split
  · exact absurd rfl (hquiet _ _ _ _)
  · rfl

/-- A turn is a deed of the instance that takes it, and of no other. -/
theorem TurnMade.deed?_eq {lanes : List Lane} {place taken : Nat} {answer : Answer}
    {lane lane' : Lane} {entries : List Entry} {t : Task}
    (hmade : TurnMade s s' call lanes place taken answer lane lane' entries)
    (hfound : lane.task? taken = some t) (run : RunId) (index : Nat) :
    s.deed? (.advance call.info.id place taken answer) run index =
      if call.info.id = run ∧ taken = index then t.stage.deed? lane.cancelled answer
      else none := by
  unfold deed?
  dsimp only
  split
  · next hown =>
    obtain ⟨rfl, rfl⟩ := hown
    rw [lanes_of_dispatched hmade.before hmade.dispatched, hmade.found, Option.bind_some, hfound,
      Option.bind_some]
  · rfl

theorem TurnMade.told_eq {lanes : List Lane} {place taken : Nat} {answer : Answer}
    {lane lane' : Lane} {entries : List Entry} {t t' : Task} {before after : List Task}
    (hmade : TurnMade s s' call lanes place taken answer lane lane' entries)
    (hturned : Lane.Turned lane lane' call.info.id taken answer entries t t' before after)
    (run : RunId) (index : Nat) :
    s'.told run index = s.told run index ++
      reports (s.deed? (.advance call.info.id place taken answer) run index).toList := by
  rw [told_of_log hmade.log, hturned.entries, hmade.deed?_eq hturned.found]
  cases t.stage.deed? lane.cancelled answer with
  | none => split <;> rfl
  | some d =>
    rw [Option.toList_some, List.flatMap_singleton, Deed.told_entries]
    split <;> rfl

/-- What an instance has told is what its deeds report. -/
theorem Recorded.told_eq (h : Recorded policy hasHost s done) (run : RunId) (index : Nat) :
    s.told run index = reports (done run index) := by
  induction h with
  | empty => rfl
  | @move s s' done m hs hm ih =>
    rw [reports_append, ← ih]
    obtain ⟨other, place, taken, answer, rfl⟩ | hquiet := m.turn_or_isQuiet
    · obtain ⟨call, _, lane, lane', entries, t, t', _, _, rfl, hmade, hturned⟩ :=
        hs.reachable.orderly.exists_turned hm
      exact hmade.told_eq hturned run index
    · rw [(Mute.apply hquiet hm).told_eq, deed?_of_isQuiet hquiet]
      exact (List.append_nil _).symm

/-! ### Runs and their records -/

/-- What the instances of a run have done goes with how far its call has come. -/
structure Records (s : Session) (done : Nat → List Deed) (run : RunId) : Prop where
  unknown : s.call? run = none →
    (∀ index, done index = []) ∨ ∃ outcome, (run, outcome) ∈ s.ended
  phase : ∀ call, s.call? run = some call → call.phase.Records done call.info s.hasHost

theorem Records.of_call {done : Nat → List Deed} (hcall : s.call? run = some call)
    (hphase : call.phase.Records done call.info s.hasHost) : s.Records done run := by
  constructor
  · intro hnone
    rw [hnone] at hcall
    cases hcall
  · intro call' hcall'
    rw [hcall] at hcall'
    cases hcall'
    exact hphase

theorem Advances.records {phase : Phase} {done : Nat → List Deed}
    (h : call.phase.Records done call.info s.hasHost)
    (hquiet : m.IsQuiet)
    (hstep : Advances s call m phase) : phase.Records done call.info s.hasHost := by
  cases hstep with
  | promote waits | displace waits | withdraw waits =>
    rw [waits] at h
    exact h
  | drop => trivial
  | advance => exact absurd rfl (hquiet _ _ _ _)
  | launch granted =>
    rw [granted] at h
    refine Dispatched.lanesOf fun job i => ?_
    rw [h i.index]
    exact .working (.refl _)
  | abandon refused =>
    rw [refused] at h
    have hjobs : (cancelledOutcome call.info call.key).jobs =
        call.info.workflow.instances.map fun e => e.1.cancelledResult e.2 := by
      unfold Workflow.instances
      rw [List.map_flatMap]
      refine List.flatMap_congr fun e _ => ?_
      rw [List.map_map]
      rfl
    show List.Forall₂ _ _ _
    rw [hjobs, List.forall₂_map_right_iff, List.forall₂_same]
    exact fun e _ => .unsent (h e.2.index)
  | forward dispatched _ found =>
    rw [dispatched] at h
    exact h.forward found
  | collect dispatched complete =>
    rw [dispatched] at h
    show List.Forall₂ _ _ _
    rw [← h.items, jobs_outcomeOf, List.forall₂_map_left_iff, List.forall₂_map_right_iff,
      List.forall₂_same]
    exact fun e he => Task.reported (h.each e he) (isOver_of_mem_members complete he)

theorem Records.turn {place taken : Nat} {answer : Answer}
    (h : ∀ run, s.Records (done run) run) (horderly : Orderly False s) {other : RunId}
    (hm : s.apply (.advance other place taken answer) = some s') (run : RunId) :
    s'.Records (fun index => done run index ++
      (s.deed? (.advance other place taken answer) run index).toList) run := by
  obtain ⟨call, _, lane, lane', entries, t, t', _, _, rfl, hmade, hturned⟩ :=
    horderly.exists_turned hm
  have hdeed := hmade.deed?_eq hturned.found run
  by_cases hrun : call.info.id = run
  · subst hrun
    have hafter := hmade.after call.info.id
    rw [if_pos rfl] at hafter
    refine .of_call hafter ?_
    have hphase := (h call.info.id).phase call hmade.before
    rw [hmade.dispatched] at hphase
    rw [hmade.hasHost]
    have hindex := (Lane.mem_of_task? hturned.found).2
    refine hphase.turn hmade.found hturned (fun job i stage hother hfollows => ?_)
      fun hfollows => ?_
    · dsimp only
      rw [hdeed, if_neg fun hown => hother (hown.2.symm.trans hindex.symm), Option.toList_none,
        List.append_nil]
      exact hfollows
    · dsimp only
      rw [hdeed, if_pos ⟨rfl, hindex.symm⟩]
      exact hfollows.goes hturned.stage
  · have hsame : (fun index => done run index ++
        (s.deed? (.advance call.info.id place taken answer) run index).toList) = done run := by
      funext index
      rw [hdeed, if_neg fun hown => hrun hown.1]
      exact List.append_nil _
    have hafter := hmade.after run
    rw [if_neg fun hown => hrun hown.symm] at hafter
    obtain ⟨hunknown, hphase⟩ := h run
    rw [← hafter] at hunknown hphase
    rw [← hmade.hasHost] at hphase
    rw [hsame]
    exact ⟨fun hnone => (hunknown hnone).imp_right fun ⟨outcome, hmem⟩ =>
      ⟨outcome, (Keeps.apply hm).ended hmem⟩, hphase⟩

theorem Records.apply (h : ∀ run, s.Records (done run) run) (horderly : Orderly False s)
    (hm : s.apply m = some s') (run : RunId) :
    s'.Records (fun index => done run index ++ (s.deed? m run index).toList) run := by
  obtain ⟨other, place, taken, answer, rfl⟩ | hquiet := m.turn_or_isQuiet
  · exact .turn h horderly hm run
  · have hsame : (fun index => done run index ++ (s.deed? m run index).toList) = done run := by
      funext index
      rw [deed?_of_isQuiet hquiet]
      exact List.append_nil _
    rw [hsame]
    obtain ⟨hunknown, hphase⟩ := h run
    have hmute := Mute.apply hquiet hm
    have hended {outcome : Option RunOutcome} (hmem : (run, outcome) ∈ s.ended) :
        (run, outcome) ∈ s'.ended := (Keeps.apply hm).ended hmem
    rw [← hmute.hasHost] at hphase
    cases goes hm run with
    | stay same =>
      rw [← same] at hunknown hphase
      exact ⟨fun hnone => (hunknown hnone).imp_right fun ⟨_, hmem⟩ => ⟨_, hended hmem⟩, hphase⟩
    | start _ before unknown after hstart =>
      refine .of_call after ?_
      have hidle : ∀ index, done run index = [] := by
        obtain hidle | ⟨outcome, hmem⟩ := hunknown before
        · exact hidle
        · rw [knows, Bool.or_eq_false_iff] at unknown
          exact absurd (beq_iff_eq.mpr rfl) (List.any_eq_false.mp unknown.2 _ hmem)
      obtain hstart | hstart := hstart <;> rw [hstart] <;> exact hidle
    | @advance _ call phase before step after =>
      refine .of_call after ?_
      have hbefore := hphase call before
      rw [hmute.hasHost] at hbefore ⊢
      have hstep : phase.Records (done run) call.info s.hasHost := step.records hbefore hquiet
      exact hstep
    | @cancel call before after => exact .of_call after (hphase call before)
    | close outcome _ _ after ended =>
      refine ⟨fun _ => .inr ⟨outcome, ended⟩, fun call hcall => ?_⟩
      rw [after] at hcall
      cases hcall

theorem Recorded.records (h : Recorded policy hasHost s done) (run : RunId) :
    s.Records (done run) run := by
  induction h generalizing run with
  | empty => exact ⟨fun _ => .inl fun _ => rfl, fun _ hcall => by cases hcall⟩
  | move m hs hm ih => exact .apply ih hs.reachable.orderly hm run

theorem hasHost_apply (hm : s.apply m = some s') : s'.hasHost = s.hasHost := by
  obtain ⟨other, place, index, answer, rfl⟩ | hquiet := m.turn_or_isQuiet
  · obtain ⟨_, _, _, _, _, -, hmade⟩ := exists_turnMade hm
    exact hmade.hasHost
  · exact (Mute.apply hquiet hm).hasHost

theorem Reachable.hasHost_eq (h : Reachable policy hasHost s) : s.hasHost = hasHost := by
  induction h with
  | empty => rfl
  | move m _ hm ih => exact (hasHost_apply hm).trans ih

/-- An instance that has come to a result has told all of its story. -/
theorem Recorded.recounts {place index : Nat} {t : Task} {result : JobResult}
    (h : Recorded policy hasHost s done) (ht : s.task? run place index = some t)
    (hstage : t.stage = .ended result) :
    ∃ call job, s.call? run = some call ∧ (job, t.item) ∈ call.info.workflow.instances ∧
      job.Recounts call.info hasHost t.item (done run index) result := by
  obtain ⟨lane, hlane, ht⟩ := Option.bind_eq_some_iff.mp ht
  have hmem := List.mem_of_getElem? hlane
  obtain ⟨call, hcall, hphase⟩ := exists_call_of_lanes (List.ne_nil_of_mem hmem)
  have hrecords := (h.records run).phase call hcall
  rw [hphase] at hrecords
  obtain ⟨hin, hindex⟩ := Lane.mem_of_task? ht
  have hmember : (lane.job, t) ∈ members (lanes s run) :=
    List.mem_flatMap.mpr ⟨lane, hmem, List.mem_map_of_mem hin⟩
  have hfollows := hrecords.each _ hmember
  dsimp only at hfollows
  rw [hstage, hindex, h.reachable.hasHost_eq] at hfollows
  exact ⟨call, lane.job, hcall, hrecords.mem_instances hmember, hfollows.recounts⟩

/-- An instance has done nothing yet, or it is one of the workflow of its run and has done the
beginning of what makes up a story. -/
def Begun (hasHost : Bool) (run : RunId) (index : Nat) (done : List Deed) : Prop :=
  done = [] ∨ ∃ (info : RunInfo) (job : Job) (i : Instance) (later : List Deed)
    (result : JobResult), info.id = run ∧ (job, i) ∈ info.workflow.instances ∧ i.index = index ∧
      job.Recounts info hasHost i (done ++ later) result

theorem Recorded.begun (h : Recorded policy hasHost s done) (run : RunId) (index : Nat) :
    Begun hasHost run index (done run index) := by
  induction h with
  | empty => exact .inl rfl
  | @move s s' done m hs hm ih =>
    dsimp only
    cases hdeed : s.deed? m run index with
    | none =>
      rw [Option.toList_none, List.append_nil]
      exact ih
    | some d =>
      -- The instance has taken a turn, and is in its lane still.
      obtain ⟨other, place, taken, answer, rfl⟩ | hquiet := m.turn_or_isQuiet
      · obtain ⟨call, _, lane, lane', entries, t, t', _, _, rfl, hmade, hturned⟩ :=
          hs.reachable.orderly.exists_turned hm
        have hown := hmade.deed?_eq hturned.found run index
        rw [hdeed] at hown
        split at hown
        · next hsame =>
          obtain ⟨rfl, rfl⟩ := hsame
          have hafter := hmade.after call.info.id
          rw [if_pos rfl] at hafter
          have hrecords := ((hs.move _ hm).records call.info.id).phase _ hafter
          obtain ⟨front, back, -, hmembers⟩ := members_turned hmade.found hturned
          have hmem : (lane.job, t') ∈ members _ := hmembers ▸ List.mem_append_right _ (.head _)
          obtain ⟨later, result, hbegun⟩ := (hrecords.each _ hmem).exists_recounts
          have hindex : t'.item.index = taken := by
            rw [hturned.item]
            exact (Lane.mem_of_task? hturned.found).2
          dsimp only at hbegun
          rw [(hs.reachable.move _ hm).hasHost_eq, hindex, hdeed] at hbegun
          exact .inr ⟨call.info, lane.job, t'.item, later, result, rfl,
            hrecords.mem_instances hmem, hindex, hbegun⟩
        · cases hown
      · rw [deed?_of_isQuiet hquiet] at hdeed
        cases hdeed

/-- In every session, with the record of what each instance has done: an instance has told what its
deeds report. Once a run has its outcome, the deeds of each of its instances go with the result of
it. An instance that has come to its own result has told a whole story, and whatever becomes of an
instance or of its run, it has told the beginning of one. -/
theorem stories_told (h : Reachable policy hasHost s) :
    (∃ done, Recorded policy hasHost s done) ∧ ∀ done, Recorded policy hasHost s done →
      (∀ run index, s.told run index = reports (done run index)) ∧
      (∀ run call outcome, s.call? run = some call → call.phase = .finished outcome →
        List.Forall₂ (fun e => e.1.Reported call.info hasHost e.2 (done run e.2.index))
          call.info.workflow.instances outcome.jobs) ∧
      (∀ run place index t result, s.task? run place index = some t → t.stage = .ended result →
        ∃ call job, s.call? run = some call ∧ (job, t.item) ∈ call.info.workflow.instances ∧
          job.Recounts call.info hasHost t.item (done run index) result) ∧
      ∀ run index, Begun hasHost run index (done run index) := by
  refine ⟨h.exists_recorded, fun done hdone => ⟨hdone.told_eq, fun run call outcome hcall hphase =>
    ?_, fun _ _ _ _ _ => hdone.recounts, hdone.begun⟩⟩
  have hrecords := (hdone.records run).phase call hcall
  rw [hphase, h.hasHost_eq] at hrecords
  exact hrecords

/-- The session after the only instance of a run has come to its command, and the command to what
the answer says. -/
def testedUpTo (answer : Answer) (count : Nat) : Option Session :=
  (Session.empty .fifo false).play ([.start tested, .launch "1"] ++ turns 0 4 ++
    [.advance "1" 0 0 (.resolved (.ok [.plain unitTests]))] ++ turns 0 3 ++
    [.advance "1" 0 0 answer] ++ turns 0 count ++ [.collect "1"])

/-- What is seen of the outcome, and what the instance has told. -/
def testedView (s : Session) : Option (List (JobStatus × Option String)) × List JobEvent :=
  ((s.call? "1").bind fun call =>
    match call.phase with
    | .finished outcome => some (outcome.jobs.map fun r => (r.status, r.error))
    | _ => none, s.told "1" 0)

theorem exists_of_testedView {answer : Answer} {count : Nat}
    {jobs : List (JobStatus × Option String)} {events : List JobEvent}
    (hview : (testedUpTo answer count).map testedView = some (some jobs, events)) :
    ∃ s call outcome, Reachable .fifo false s ∧ s.call? "1" = some call ∧
      call.phase = .finished outcome ∧ outcome.jobs.map (fun r => (r.status, r.error)) = jobs ∧
      s.told "1" 0 = events := by
  obtain ⟨s, hs, hview⟩ := Option.map_eq_some_iff.mp hview
  obtain ⟨hjobs, htold⟩ := Prod.ext_iff.mp hview
  obtain ⟨call, hcall, hphase⟩ := Option.bind_eq_some_iff.mp hjobs
  split at hphase
  · next outcome hfinished =>
    exact ⟨s, call, outcome, Reachable.empty.play hs, hcall, hfinished, Option.some.inj hphase,
      htold⟩
  · cases hphase

/-- The command prints a line and succeeds. -/
theorem stories_told_tested : ∃ s call outcome done, Reachable .fifo false s ∧
    s.call? "1" = some call ∧ call.phase = .finished outcome ∧ Recorded .fifo false s done ∧
    List.Forall₂ (fun e => e.1.Reported call.info false e.2 (done "1" e.2.index))
      call.info.workflow.instances outcome.jobs ∧
    s.told "1" 0 = reports (done "1" 0) ∧
    s.told "1" 0 = [.started "test" "Test" 1, .stepStarted "unit" 0, .stepOutput "unit" "ok" false,
      .stepCompleted "unit" 0 .succeeded (some 0), .completed "test" .succeeded] := by
  let ran : Answer := .ran [⟨"ok", false⟩] ⟨"ok", "", some 0, [], [], false, none⟩
  have hview : (testedUpTo ran 5).map testedView = some (some [(.succeeded, none)],
      [.started "test" "Test" 1, .stepStarted "unit" 0, .stepOutput "unit" "ok" false,
        .stepCompleted "unit" 0 .succeeded (some 0), .completed "test" .succeeded]) := by
    decide +kernel
  obtain ⟨s, call, outcome, h, hcall, hphase, -, htold⟩ := exists_of_testedView hview
  obtain ⟨⟨done, hdone⟩, hall⟩ := stories_told h
  obtain ⟨hreports, hresults, -⟩ := hall done hdone
  exact ⟨s, call, outcome, done, h, hcall, hphase, hdone, hresults "1" call outcome hcall hphase,
    hreports "1" 0, htold⟩

/-- The instance dies while its command runs. It reports neither the end of the step nor its own,
and the run has made a result for it. -/
theorem story_cut_by_death : ∃ s call outcome, Reachable .fifo false s ∧
    s.call? "1" = some call ∧ call.phase = .finished outcome ∧
    outcome.jobs.map (fun r => (r.status, r.error)) =
      [(.failed, some "job task ended abnormally")] ∧
    s.told "1" 0 = [.started "test" "Test" 1, .stepStarted "unit" 0] :=
  exists_of_testedView (by decide +kernel : (testedUpTo .death 0).map testedView =
    some (some [(.failed, some "job task ended abnormally")],
      [.started "test" "Test" 1, .stepStarted "unit" 0]))

end Session

end Pipeline
