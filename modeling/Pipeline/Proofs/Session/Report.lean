import Pipeline.Proofs.Session.Agreement
import Pipeline.Proofs.Session.Courses

/-! The report of a run is complete. It has a result for every instance that the plan shows, in the
same order, and every result has one for every step of its job, whichever way the run has ended. -/

namespace Pipeline

/-! ### Instances and plans -/

theorem Job.map_index_instances (job : Job) (first : Nat) :
    (job.instances first).map (·.index) = List.range' first (job.instances first).length := by
  refine List.ext_getElem (by simp) fun k hk _ => ?_
  simp [instances]

/-- The instances of a run are numbered in turn. -/
theorem map_index_expandJobs (first : Nat) (jobs : List Job) :
    ((expandJobs first jobs).flatMap (·.2)).map (·.index) =
      List.range' first ((expandJobs first jobs).flatMap (·.2)).length := by
  induction jobs generalizing first with
  | nil => rfl
  | cons job rest ih =>
    rw [expandJobs, List.flatMap_cons, List.map_append, job.map_index_instances, ih,
      List.range'_append_1, List.length_append]

theorem RunInfo.plan_eq {info : RunInfo} {accepted : Bool} {key : Option String}
    (haccepted : info.accepted = .ok accepted) (hkey : info.groupKey = .ok key) :
    info.plan =
      .ok ⟨info.workflow.name, accepted, key, info.cancelsActive, info.workflow.plannedJobs⟩ := by
  rw [plan, haccepted, hkey]
  rfl

theorem RunInfo.of_plan {info : RunInfo} {plan : Plan} (h : info.plan = .ok plan) :
    info.accepted = .ok plan.accepted ∧ plan.jobs = info.workflow.plannedJobs := by
  cases haccepted : info.accepted with
  | error e =>
    rw [RunInfo.plan, haccepted] at h
    cases h
  | ok accepted =>
    cases hkey : info.groupKey with
    | error e =>
      rw [RunInfo.plan, haccepted, hkey] at h
      cases h
    | ok key =>
      rw [RunInfo.plan_eq haccepted hkey] at h
      cases h
      exact ⟨rfl, rfl⟩

/-- The instances of a plan are numbered from zero. -/
theorem Workflow.map_index_plannedJobs (workflow : Workflow) :
    workflow.plannedJobs.map (·.index) = List.range workflow.plannedJobs.length := by
  have hjobs : workflow.plannedJobs.map (·.index) =
      (workflow.expand.flatMap (·.2)).map (·.index) := by
    unfold plannedJobs
    rw [List.map_flatMap, List.map_flatMap]
    exact List.flatMap_congr fun e _ => List.map_map
  have hlength := congrArg List.length hjobs
  rw [List.length_map, List.length_map] at hlength
  rw [hjobs, hlength, List.range_eq_range']
  exact map_index_expandJobs 0 workflow.jobs

/-! ### The instances of a run -/

/-- The instances of a workflow in turn, each with its job. -/
def Workflow.instances (workflow : Workflow) : List (Job × Instance) :=
  workflow.expand.flatMap fun e => e.2.map (Prod.mk e.1)

theorem Workflow.nodup_index_instances (workflow : Workflow) :
    (workflow.instances.map (·.2.index)).Nodup := by
  have hindex : workflow.instances.map (·.2.index) =
      (workflow.expand.flatMap (·.2)).map (·.index) := by
    unfold instances
    rw [List.map_flatMap, List.map_flatMap]
    exact List.flatMap_congr fun e _ => List.map_map
  rw [hindex]
  exact map_index_expandJobs 0 workflow.jobs ▸ List.nodup_range'

/-- The instances of lanes in turn, each with its job. -/
def members (lanes : List Lane) : List (Job × Task) :=
  lanes.flatMap fun lane => lane.tasks.map (Prod.mk lane.job)

section Members

variable {lanes : List Lane} {lane lane' : Lane} {place index : Nat} {answer : Answer}
  {run : RunId} {entries : List Entry}

theorem members_lanesOf (info : RunInfo) (hasHost : Bool) :
    members (Session.lanesOf info hasHost) = info.workflow.instances.map fun e =>
      (e.1, ⟨e.2, .pending, false, .working (e.1.task info hasHost e.2)⟩) := by
  unfold members Session.lanesOf Workflow.instances
  rw [List.flatMap_map, List.map_flatMap]
  refine List.flatMap_congr fun e _ => ?_
  rw [List.map_map]
  exact List.map_map

theorem members_split (found : lanes[place]? = some lane) : ∃ front back,
    members lanes = front ++ lane.tasks.map (Prod.mk lane.job) ++ back ∧ ∀ lane',
      members (lanes.set place lane') = front ++ lane'.tasks.map (Prod.mk lane'.job) ++ back := by
  obtain ⟨hplace, rfl⟩ := List.getElem?_eq_some_iff.mp found
  refine ⟨members (lanes.take place), members (lanes.drop (place + 1)), ?_, fun lane' => ?_⟩
  · have hlanes : lanes = lanes.take place ++ lanes[place] :: lanes.drop (place + 1) := by
      rw [List.getElem_cons_drop, List.take_append_drop]
    refine (congrArg members hlanes).trans ?_
    rw [members, List.flatMap_append, List.flatMap_cons, List.append_assoc]
    rfl
  · rw [List.set_eq_take_append_cons_drop, if_pos hplace]
    simp [members]

theorem members_forward (found : lanes[place]? = some lane) :
    members (lanes.set place { lane with cancelled := true }) = members lanes := by
  obtain ⟨front, back, hmembers, hset⟩ := members_split found
  rw [hset, hmembers]

/-- A turn replaces one instance. -/
theorem members_turned {t t' : Task} {before after : List Task} (found : lanes[place]? = some lane)
    (hturned : Lane.Turned lane lane' run index answer entries t t' before after) :
    ∃ front back, members lanes = front ++ (lane.job, t) :: back ∧
      members (lanes.set place lane') = front ++ (lane.job, t') :: back := by
  obtain ⟨front, back, hmembers, hset⟩ := members_split found
  refine ⟨front ++ before.map (Prod.mk lane.job), after.map (Prod.mk lane.job) ++ back, ?_, ?_⟩
  · rw [hmembers, hturned.tasks]
    simp
  · rw [hset, hturned.tasks', hturned.job]
    simp

/-- The result of an instance that is over. -/
def Task.result (job : Job) (t : Task) : JobResult :=
  match t.stage with
  | .ended result => result
  | .died | .working _ => job.abandonedResult t.item

theorem jobs_outcomeOf (info : RunInfo) (key : Option String) (lanes : List Lane) :
    (Session.outcomeOf info key lanes).jobs = (members lanes).map fun e => e.2.result e.1 := by
  unfold members
  rw [List.map_flatMap]
  refine List.flatMap_congr fun lane _ => ?_
  rw [List.map_map]
  rfl

theorem isOver_of_mem_members (h : lanes.all (·.isOver) = true) {e : Job × Task}
    (he : e ∈ members lanes) : e.2.isOver = true := by
  obtain ⟨lane, hlane, ht⟩ := List.mem_flatMap.mp he
  obtain ⟨t, hmem, rfl⟩ := List.mem_map.mp ht
  exact List.all_eq_true.mp (List.all_eq_true.mp h lane hlane) t hmem

end Members

/-- The instances of a run in their order. What is said of each holds as far as it has come. -/
structure Dispatched (Holds : Job → Instance → Stage → Prop) (info : RunInfo)
    (lanes : List Lane) : Prop where
  items : (members lanes).map (fun e => (e.1, e.2.item)) = info.workflow.instances
  each : ∀ e ∈ members lanes, Holds e.1 e.2.item e.2.stage

namespace Dispatched

variable {Holds Holds' : Job → Instance → Stage → Prop} {info : RunInfo} {lanes : List Lane}
  {lane lane' : Lane} {place index : Nat} {answer : Answer}

theorem lanesOf {hasHost : Bool} (h : ∀ job i, Holds job i (.working (job.task info hasHost i))) :
    Dispatched Holds info (Session.lanesOf info hasHost) := by
  constructor
  · rw [members_lanesOf, List.map_map]
    exact List.map_id _
  · rw [members_lanesOf]
    intro e he
    obtain ⟨e, -, rfl⟩ := List.mem_map.mp he
    exact h e.1 e.2

theorem mem_instances (h : Dispatched Holds info lanes) {e : Job × Task} (he : e ∈ members lanes) :
    (e.1, e.2.item) ∈ info.workflow.instances :=
  h.items ▸ List.mem_map_of_mem he

theorem forward (h : Dispatched Holds info lanes) (found : lanes[place]? = some lane) :
    Dispatched Holds info (lanes.set place { lane with cancelled := true }) := by
  obtain ⟨hitems, heach⟩ := h
  rw [← members_forward found] at hitems heach
  exact ⟨hitems, heach⟩

/-- An instance takes a turn. What is said of the others may not depend on its index. -/
theorem turn {run : RunId} {entries : List Entry} {t t' : Task} {before after : List Task}
    (h : Dispatched Holds info lanes) (found : lanes[place]? = some lane)
    (hturned : Lane.Turned lane lane' run index answer entries t t' before after)
    (hothers : ∀ job i stage, i.index ≠ t.item.index → Holds job i stage → Holds' job i stage)
    (hone : Holds lane.job t.item t.stage → Holds' lane.job t.item t'.stage) :
    Dispatched Holds' info (lanes.set place lane') := by
  obtain ⟨hitems, heach⟩ := h
  obtain ⟨front, back, hmembers, hset⟩ := members_turned found hturned
  have hnodup := info.workflow.nodup_index_instances
  rw [← hitems, hmembers, List.map_map, List.map_append, List.map_cons, List.nodup_middle,
    List.nodup_cons, ← List.map_append] at hnodup
  obtain ⟨hfresh, -⟩ := hnodup
  rw [hmembers] at hitems heach
  have hkeep (e : Job × Task) (he : e ∈ front ++ back) : Holds' e.1 e.2.item e.2.stage := by
    have hmem : e ∈ front ++ (lane.job, t) :: back := List.perm_middle.mem_iff.mpr (.tail _ he)
    exact hothers _ _ _ (fun hindex => hfresh (List.mem_map.mpr ⟨e, he, hindex⟩)) (heach e hmem)
  constructor
  · rw [hset, ← hitems, List.map_append, List.map_append, List.map_cons, List.map_cons,
      hturned.item]
  · intro e he
    rw [hset] at he
    cases List.perm_middle.mem_iff.mp he with
    | head =>
      rw [hturned.item]
      exact hone (heach (lane.job, t) (List.mem_append_right _ (.head _)))
    | tail _ he => exact hkeep e he

/-- When all instances are over, their results show their outlines. -/
theorem outlines (h : Dispatched (fun job i stage => stage.Earned job info i) info lanes)
    (key : Option String) (hover : lanes.all (·.isOver) = true) :
    (Session.outcomeOf info key lanes).jobs.map (·.outline) =
      info.workflow.expand.flatMap fun e => e.2.map e.1.outline := by
  have hinstances : info.workflow.instances.map (fun e => e.1.outline e.2) =
      info.workflow.expand.flatMap fun e => e.2.map e.1.outline := by
    unfold Workflow.instances
    rw [List.map_flatMap]
    exact List.flatMap_congr fun e _ => List.map_map
  rw [← hinstances, ← h.items, jobs_outcomeOf, List.map_map, List.map_map]
  refine List.map_congr_left fun e he => ?_
  have hearned := h.each e he
  have hover := isOver_of_mem_members hover he
  show (e.2.result e.1).outline = e.1.outline e.2.item
  unfold Task.result Task.isOver at *
  cases hstage : e.2.stage with
  | working => rw [hstage] at hover; cases hover
  | died => rw [hstage] at hearned; cases hearned
  | ended result =>
    rw [hstage] at hearned
    cases hearned with
    | ended runs honest => exact Job.outline_of_task runs honest

end Dispatched

theorem outlines_of_cancelled (info : RunInfo) (key : Option String) :
    (Session.cancelledOutcome info key).jobs.map (·.outline) =
      info.workflow.expand.flatMap fun e => e.2.map e.1.outline := by
  show List.map _ (List.flatMap _ info.workflow.expand) = _
  rw [List.map_flatMap]
  refine List.flatMap_congr fun e _ => ?_
  rw [List.map_map]
  refine List.map_congr_left fun i _ => ?_
  exact congrArg (Outline.mk _ _ _ _) List.map_map

/-- The outcome has the key, and a result for every instance of the run. -/
structure RunOutcome.Complete (outcome : RunOutcome) (info : RunInfo) (key : Option String) :
    Prop where
  key : outcome.key = key
  outlines : outcome.jobs.map (·.outline) =
    info.workflow.expand.flatMap fun e => e.2.map e.1.outline

/-- What is true of a call in each phase of it. -/
def Phase.Complete (info : RunInfo) (key : Option String) : Phase → Prop
  | .dispatched lanes => Dispatched (fun job i stage => stage.Earned job info i) info lanes
  | .finished outcome => outcome.Complete info key
  | .queued | .granted | .refused | .leaving => True

/-- The event of the call was accepted, and all of it is accounted for. -/
structure Call.Complete (call : Call) : Prop where
  accepted : call.info.accepted = .ok true
  key : call.info.groupKey = .ok call.key
  phase : call.phase.Complete call.info call.key

namespace Session

open Turns (lanes)

variable {policy : QueuePolicy} {hasHost : Bool} {s s' : Session} {m : Move} {run : RunId}
  {call : Call}

/-- The move lets the instances of the run go on, and says what looking up their actions comes
to. -/
def Spares (s : Session) (run : RunId) : Move → Prop
  | .advance other place index answer =>
    other = run → ∀ t, s.task? run place index = some t → answer.Sincere t.stage
  | _ => True

/-- The sessions that moves can lead to while no instance of a run dies. -/
inductive Undisturbed (policy : QueuePolicy) (hasHost : Bool) (run : RunId) : Session → Prop where
  | empty : Undisturbed policy hasHost run (Session.empty policy hasHost)
  | move {s s' : Session} (m : Move) : Undisturbed policy hasHost run s → s.Spares run m →
      s.apply m = some s' → Undisturbed policy hasHost run s'

theorem Undisturbed.reachable (h : Undisturbed policy hasHost run s) :
    Reachable policy hasHost s := by
  induction h with
  | empty => exact .empty
  | move m _ _ hm ih => exact .move m ih hm

theorem complete_of_start {info : RunInfo} (hm : s.handle info = some s')
    (hcall : s'.call? info.id = some call)
    (hphase : call.phase = .queued ∨ call.phase = .granted) : call.Complete := by
  have hcomplete (haccepted : call.info.accepted = .ok true)
      (hkey : call.info.groupKey = .ok call.key) : call.Complete := by
    refine ⟨haccepted, hkey, ?_⟩
    obtain hphase | hphase := hphase <;> rw [hphase] <;> trivial
  unfold handle at hm
  split at hm
  · cases hm
  · next hknows =>
    have hnone := call?_of_unknown (Bool.not_eq_true _ ▸ hknows)
    have hadded {t : Session} {added : Call} (hcalls : t.calls = s.calls ++ [added])
        (hinfo : added.info = info) (ht : t.call? info.id = some call) : call = added := by
      rw [call?_append _ hcalls, hnone, hinfo, if_pos rfl] at ht
      exact (Option.some.inj ht).symm
    split at hm
    · next haccepted hkey =>
      cases hm
      obtain rfl := hadded rfl rfl hcall
      exact hcomplete haccepted hkey
    · next key haccepted hkey =>
      cases hm
      unfold ask at hcall
      generalize (s.register info.id).admission.enter key info.id info.cancelsActive = answer
        at hcall
      obtain ⟨decision, admission⟩ := answer
      cases decision with
      | start | cancelAndStart | queue =>
        obtain rfl := hadded rfl rfl hcall
        exact hcomplete haccepted hkey
    · cases hm

theorem Advances.complete {phase : Phase} (h : call.Complete) (hs : s.call? run = some call)
    (horderly : Orderly False s) (hspares : s.Spares run m) (hstep : Advances s call m phase) :
    phase.Complete call.info call.key := by
  obtain rfl := id_of_call? hs
  cases hstep with
  | promote | displace | withdraw | drop => trivial
  | abandon => exact ⟨rfl, outlines_of_cancelled _ _⟩
  | launch => exact .lanesOf fun _ _ => .working (.refl _) fun _ hd => by cases hd
  | forward dispatched _ found =>
    have hphase := h.phase
    rw [dispatched] at hphase
    exact hphase.forward found
  | advance dispatched found turn =>
    have hlanes := lanes_of_dispatched hs dispatched
    obtain ⟨_, _, hsound⟩ := horderly.sound _ _ (hlanes ▸ List.mem_of_getElem? found)
    obtain ⟨t, t', before, after, hturned⟩ := Lane.exists_turned hsound.distinct turn
    have hphase := h.phase
    rw [dispatched] at hphase
    refine hphase.turn found hturned (fun _ _ _ _ h => h) fun hearned => ?_
    refine hearned.goes hturned.stage (hspares rfl t ?_)
    rw [task?, hlanes, found, Option.bind_some, hturned.found]
  | collect dispatched complete =>
    have hphase := h.phase
    rw [dispatched] at hphase
    exact ⟨rfl, hphase.outlines _ complete⟩

/-- Every move about a call keeps it complete. -/
theorem complete_of_apply (h : ∀ call, s.call? run = some call → call.Complete)
    (horderly : Orderly False s) (hspares : s.Spares run m) (hm : s.apply m = some s')
    (hcall : s'.call? run = some call) : call.Complete := by
  cases goes hm run with
  | stay same => exact h call (same ▸ hcall)
  | start is_run _ _ after phase =>
    subst is_run
    rw [hcall] at after
    cases after
    exact complete_of_start hm hcall phase
  | advance before step after =>
    have hbefore := h _ before
    have hphase := step.complete hbefore before horderly hspares
    rw [hcall] at after
    cases after
    exact ⟨hbefore.accepted, hbefore.key, hphase⟩
  | cancel before after =>
    have hbefore := h _ before
    rw [hcall] at after
    cases after
    exact ⟨hbefore.accepted, hbefore.key, hbefore.phase⟩
  | close _ _ _ after =>
    rw [hcall] at after
    cases after

theorem Undisturbed.complete (h : Undisturbed policy hasHost run s)
    (hcall : s.call? run = some call) : call.Complete := by
  induction h generalizing call with
  | empty => cases hcall
  | move m hs hspares hm ih =>
    exact complete_of_apply (fun _ => ih) hs.reachable.orderly hspares hm hcall

/-- Whatever way a run has ended, as long as none of its instances died: its outcome has one result
for every instance of the plan, in the order of the plan, and every result has one for every step of
its job. -/
theorem report_complete {outcome : RunOutcome} (h : Undisturbed policy hasHost run s)
    (hcall : s.call? run = some call) (hphase : call.phase = .finished outcome) :
    outcome.jobs.map (·.outline) =
        call.info.workflow.expand.flatMap (fun e => e.2.map e.1.outline) ∧
      (∃ plan, call.info.plan = .ok plan ∧ plan.key = outcome.key) ∧
      ∀ id plan, RunInfo.plan { call.info with id := id } = .ok plan →
        plan.accepted = true ∧
        outcome.jobs.map (fun r => (r.jobId, r.name, r.index, r.matrix)) =
          plan.jobs.map (fun p => (p.jobId, p.name, p.index, p.matrix)) ∧
        plan.jobs.map (·.index) = List.range plan.jobs.length := by
  have hcomplete := h.complete hcall
  obtain ⟨hkey, houtlines⟩ : outcome.Complete call.info call.key := by
    have hcomplete := hcomplete.phase
    rwa [hphase] at hcomplete
  refine ⟨houtlines, ?_, fun id plan hplan => ?_⟩
  · refine ⟨_, RunInfo.plan_eq hcomplete.accepted hcomplete.key, hkey.symm⟩
  · obtain ⟨haccepted, hjobs⟩ := RunInfo.of_plan hplan
    refine ⟨Except.ok.inj (haccepted.symm.trans hcomplete.accepted), ?_, ?_⟩
    · have hresults : outcome.jobs.map (fun r => (r.jobId, r.name, r.index, r.matrix)) =
          (outcome.jobs.map (·.outline)).map fun o => (o.jobId, o.name, o.index, o.matrix) := by
        rw [List.map_map]
        rfl
      rw [hresults, houtlines, hjobs, Workflow.plannedJobs, List.map_flatMap, List.map_flatMap]
      refine List.flatMap_congr fun e _ => ?_
      rw [List.map_map, List.map_map]
      rfl
    · rw [hjobs]
      exact Workflow.map_index_plannedJobs _

theorem Undisturbed.play {moves : List Move} (h : Undisturbed policy hasHost run s)
    (hspares : ∀ m ∈ moves, ∀ s : Session, s.Spares run m) (hm : s.play moves = some s') :
    Undisturbed policy hasHost run s' := by
  induction moves generalizing s with
  | nil =>
    cases hm
    exact h
  | cons m moves ih =>
    obtain ⟨next, hnext, hrest⟩ := play_cons hm
    have hnext' := h.move m (hspares m List.mem_cons_self s) hnext
    exact ih hnext' (fun m' hm' => hspares m' (List.mem_cons_of_mem _ hm')) hrest

/-- A step that runs a command. -/
def unitTests : Step := .of "unit" (.command "make test" none none)

/-- A run of one job with that step. -/
def tested : RunInfo :=
  ⟨"1", ⟨"CI", [.of "push"], none, [], [⟨"test", "Test", [], .empty, true, none, [unitTests]⟩]⟩,
    ⟨"push", none, "main", none, none, none, none⟩, "/", [], .linux⟩

/-- The steps whose actions the first instance waits for. -/
def asked (s : Session) : Option (List Step) :=
  (s.task? "1" 0 0).bind fun t =>
    match t.stage with
    | .working (.resolve steps _) => some steps
    | _ => none

theorem spares_resolved {found : Except Error (List ResolvedStep)} {steps : List Step}
    (hasked : s.asked = some steps) (hfinds : Resolver.Finds steps found) :
    s.Spares "1" (.advance "1" 0 0 (.resolved found)) := by
  intro _ t ht
  refine ⟨Answer.noConfusion, fun steps' resume _ hstage hanswer => ?_⟩
  cases hanswer
  rw [asked, ht, Option.bind_some, hstage] at hasked
  cases hasked
  exact hfinds

/-- The step runs, and the outcome shows it. -/
theorem report_complete_tested : ∃ s call outcome plan, Undisturbed .fifo false "1" s ∧
    s.call? "1" = some call ∧ call.phase = .finished outcome ∧ call.info.plan = .ok plan ∧
    plan.key = outcome.key ∧
    outcome.jobs.map (fun r => (r.status, r.steps.map (·.status))) = [(.succeeded, [.succeeded])] ∧
    outcome.jobs.map (fun r => (r.jobId, r.name, r.index, r.matrix)) =
      plan.jobs.map (fun p => (p.jobId, p.name, p.index, p.matrix)) := by
  let found : Except Error (List ResolvedStep) := .ok [.plain unitTests]
  let ran : Answer := .ran [] ⟨"", "", some 0, [], [], false, none⟩
  let early := [.start tested, .launch "1"] ++ turns 0 4
  let late := turns 0 3 ++ [.advance "1" 0 0 ran] ++ turns 0 4
  have hplay : ((Session.empty .fifo false).play early).bind (fun s =>
      (s.apply (.advance "1" 0 0 (.resolved found))).bind fun s' => (s'.play late).bind fun s'' =>
        (s''.apply (.collect "1")).map fun _ => (s.asked, (s''.call? "1").map fun call =>
          (outcomeOf call.info call.key (lanes s'' "1")).jobs.map fun r =>
            (r.status, r.steps.map (·.status)))) =
      some (some [unitTests], some [(.succeeded, [.succeeded])]) := by
    decide +kernel
  have hearly : ∀ m ∈ early, ∀ s : Session, s.Spares "1" m := by
    simp [early, turns, or_imp, forall_and, Spares, Answer.Sincere]
  have hlate : ∀ m ∈ late, ∀ s : Session, s.Spares "1" m := by
    simp [late, ran, turns, or_imp, forall_and, Spares, Answer.Sincere]
  have hfinds : Resolver.Finds [unitTests] found := ⟨⟨"/", 1⟩, .empty, ⟨.of "/", []⟩, rfl⟩
  obtain ⟨s, hs, hplay⟩ := Option.bind_eq_some_iff.mp hplay
  obtain ⟨s', hs', hplay⟩ := Option.bind_eq_some_iff.mp hplay
  obtain ⟨s'', hs'', hplay⟩ := Option.bind_eq_some_iff.mp hplay
  obtain ⟨last, hlast, hplay⟩ := Option.map_eq_some_iff.mp hplay
  obtain ⟨hasked, hseen⟩ := Prod.ext_iff.mp hplay
  have h : Undisturbed .fifo false "1" s := Undisturbed.empty.play hearly hs
  have h' : Undisturbed .fifo false "1" s'' :=
    (h.move _ (spares_resolved hasked hfinds) hs').play hlate hs''
  have hover : Undisturbed .fifo false "1" last := h'.move (.collect "1") trivial hlast
  obtain ⟨call, hcall, -, -, hfinished⟩ := apply_collect hlast
  rw [hcall, Option.map_some] at hseen
  obtain ⟨-, ⟨plan, hplan, hkey⟩, hplans⟩ := report_complete hover hfinished rfl
  obtain ⟨-, hjobs, -⟩ := hplans call.info.id plan hplan
  exact ⟨last, _, _, plan, hover, hfinished, rfl, hplan, hkey, Option.some.inj hseen, hjobs⟩

end Session

end Pipeline
