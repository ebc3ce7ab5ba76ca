import Mathlib.Data.List.Nodup
import Pipeline.Proofs.Session.Calls
import Pipeline.Proofs.Session.Standing
import Pipeline.Session.Turns

/-! What moves do to the instances of a run. A run sends its instances out, the cancellation of the
run reaches their jobs, and the instances take their turns. Through all of this every instance
stands where an instance can, the slots of a job add up, and a job is cancelled for a reason. -/

namespace Pipeline

theorem Job.nodup_instances (job : Job) (first : Nat) :
    ((job.instances first).map (·.index)).Nodup := by
  rw [List.Nodup, List.pairwise_iff_getElem]
  intro i j hi hj hij
  simp only [Job.instances, List.getElem_map, List.getElem_mapIdx]
  omega

theorem mem_expandJobs {first : Nat} {jobs : List Job} {job : Job} {instances : List Instance}
    (h : (job, instances) ∈ expandJobs first jobs) :
    ∃ first', instances = job.instances first' := by
  induction jobs generalizing first with
  | nil => cases h
  | cons j rest ih =>
    rw [expandJobs, List.mem_cons] at h
    obtain heq | hmem := h
    · cases heq
      exact ⟨first, rfl⟩
    · exact ih hmem

/-- Has the work of the instance died? -/
def Task.hasDied (t : Task) : Bool :=
  match t.stage with
  | .died => true
  | .working _ | .ended _ => false

theorem JobStatus.canBecome_of_terminal {status next : JobStatus} (h : status.isTerminal = true) :
    status.canBecome next = false := by
  cases status with
  | pending | running => cases h
  | succeeded | failed | cancelled => rfl

namespace Turn

variable {run : RunInfo} {hasHost : Bool} {trusted : Prop} {answer : Answer} {lane lane' : Lane}
  {before after : List Task} {t t' : Task} {begun begun' : Bool} {entries : List Entry}

theorem status_of_terminal
    (hturn : Turn run hasHost trusted answer lane lane' t t' begun begun' entries)
    (h : t.status.isTerminal = true) : t'.status = t.status := by
  obtain hsame | hnext := hturn.status
  · exact hsame
  · rw [JobStatus.canBecome_of_terminal h] at hnext
    cases hnext

theorem cancelled_of_cancelled
    (hturn : Turn run hasHost trusted answer lane lane' t t' begun begun' entries)
    (h : lane.cancelled = true) : lane'.cancelled = true := by
  obtain hsame | ⟨htrue, -⟩ := hturn.cancelled
  · rw [hsame, h]
  · exact htrue

theorem exists_failed
    (hturn : Turn run hasHost trusted answer lane lane' t t' begun begun' entries)
    (htasks : lane.tasks = before ++ t :: after) (htasks' : lane'.tasks = before ++ t' :: after)
    (h : ∃ x ∈ lane.tasks, x.status = .failed) : ∃ x ∈ lane'.tasks, x.status = .failed := by
  obtain ⟨x, hx, hstatus⟩ := h
  rw [htasks, List.mem_append, List.mem_cons] at hx
  rw [htasks']
  obtain hx | rfl | hx := hx
  · exact ⟨x, List.mem_append_left _ hx, hstatus⟩
  · refine ⟨t', List.mem_append_right _ List.mem_cons_self, ?_⟩
    rw [hturn.status_of_terminal (by rw [hstatus]; rfl), hstatus]
  · exact ⟨x, List.mem_append_right _ (List.mem_cons_of_mem _ hx), hstatus⟩

end Turn

namespace Lane

variable {run : RunInfo} {hasHost : Bool} {trusted : Prop} {answer : Answer} {lane lane' : Lane}
  {before after : List Task} {t t' : Task} {begun begun' : Bool} {entries : List Entry}
  {runId : RunId} {index : Nat}

/-! ### Finding instances -/

theorem task?_of_mem (hd : lane.Distinct) (hmem : t ∈ lane.tasks) :
    lane.task? t.item.index = some t := by
  cases hfind : lane.task? t.item.index with
  | none =>
    have hnone := List.find?_eq_none.mp hfind t hmem
    simp at hnone
  | some other =>
    have hindex := List.find?_some hfind
    have hmem' := List.mem_of_find?_eq_some hfind
    rw [List.inj_on_of_nodup_map hd hmem' hmem (beq_iff_eq.mp hindex)]

theorem mem_of_task? (ht : lane.task? index = some t) : t ∈ lane.tasks ∧ t.item.index = index := by
  have hindex := List.find?_some ht
  exact ⟨List.mem_of_find?_eq_some ht, beq_iff_eq.mp hindex⟩

theorem Distinct.replace (hd : lane.Distinct) (h : lane.tasks = before ++ t :: after)
    (h' : lane'.tasks = before ++ t' :: after) (hitem : t'.item = t.item) : lane'.Distinct := by
  unfold Distinct at hd ⊢
  rw [h, List.map_append, List.map_cons] at hd
  rwa [h', List.map_append, List.map_cons, hitem]

theorem Distinct.task?_replaced (hd : lane.Distinct) (h : lane.tasks = before ++ t :: after)
    (h' : lane'.tasks = before ++ t' :: after) (hitem : t'.item = t.item) :
    lane'.task? t.item.index = some t' := by
  rw [← hitem]
  refine task?_of_mem (hd.replace h h' hitem) ?_
  rw [h']
  exact List.mem_append_right _ List.mem_cons_self

theorem task?_of_replace (h : lane.tasks = before ++ t :: after)
    (h' : lane'.tasks = before ++ t' :: after) (hitem : t'.item = t.item) {other : Nat}
    (hother : t.item.index ≠ other) : lane'.task? other = lane.task? other := by
  unfold task?
  rw [h, h', List.find?_append, List.find?_append,
    List.find?_cons_of_neg (by simpa [hitem] using hother),
    List.find?_cons_of_neg (by simpa using hother)]

theorem exists_task_of_advance (hm : lane.advance runId index answer = some (lane', entries)) :
    ∃ t, lane.task? index = some t := by
  unfold advance at hm
  split at hm
  · cases hm
  · next t ht => exact ⟨t, ht⟩

/-- An instance takes its turn: its siblings stay as they are. -/
theorem Distinct.turn (hd : lane.Distinct) (ht : lane.task? index = some t)
    (hs : Standing lane.job run hasHost trusted lane.cancelled begun t)
    (hfaithful : trusted → answer.Faithful lane.cancelled)
    (hm : lane.advance runId index answer = some (lane', entries)) :
    ∃ before after t' begun', lane.tasks = before ++ t :: after ∧
      lane'.tasks = before ++ t' :: after ∧
      Turn run hasHost trusted answer lane lane' t t' begun begun' entries := by
  obtain ⟨before, after, htasks, -, hset⟩ := setTask_eq_append hd ht
  obtain ⟨t', begun', htasks', hturn⟩ := turn_of_advance hset ht hs hfaithful hm
  exact ⟨before, after, t', begun', htasks, htasks', hturn⟩

/-! ### Sound lanes -/

/-- What is true of the instances of a job in a run. -/
structure Sound (run : RunInfo) (hasHost : Bool) (trusted : Prop) (lane : Lane) : Prop where
  distinct : lane.Distinct
  standing : ∀ t ∈ lane.tasks, ∃ begun,
    Standing lane.job run hasHost trusted lane.cancelled begun t
  /-- Every slot is free or an instance has it. -/
  slots : lane.free + total (lane.tasks.map Task.slots) = lane.job.maxParallel.getD 0

namespace Sound

theorem of {job : Job} {instances : List Instance} (h : (instances.map (·.index)).Nodup) :
    (Lane.of job run hasHost instances).Sound run hasHost trusted := by
  refine ⟨?_, ?_, ?_⟩
  · unfold Distinct Lane.of
    rwa [List.map_map]
  · intro t ht
    obtain ⟨i, -, rfl⟩ := List.mem_map.mp ht
    refine ⟨false, ?_⟩
    show Standing job run hasHost trusted false false _
    by_cases hlimited : job.maxParallel.isSome = true
    · rw [job.task_of_limited run hasHost i hlimited]
      exact .outside hlimited
    · rw [job.task_of_unlimited run hasHost i hlimited]
      exact .arrived fun h => absurd h hlimited
  · have hnone : total (instances.map fun _ => 0) = 0 := by
      induction instances with
      | nil => rfl
      | cons i rest ih => rw [List.map_cons, total_cons, ih (List.nodup_cons.mp h).2]
    unfold Lane.of
    rw [List.map_map]
    exact congrArg (job.maxParallel.getD 0 + ·) hnone

/-- The cancellation of the run reaches the job. -/
theorem forward (h : lane.Sound run hasHost trusted) :
    { lane with cancelled := true }.Sound run hasHost trusted where
  distinct := h.distinct
  standing t ht := by
    obtain ⟨begun, hs⟩ := h.standing t ht
    exact ⟨begun, hs.mono fun _ => rfl⟩
  slots := h.slots

theorem of_turn (h : lane.Sound run hasHost trusted) (htasks : lane.tasks = before ++ t :: after)
    (htasks' : lane'.tasks = before ++ t' :: after)
    (hturn : Turn run hasHost trusted answer lane lane' t t' begun begun' entries) :
    lane'.Sound run hasHost trusted := by
  obtain ⟨hdistinct, hstanding, hslots⟩ := h
  refine ⟨hdistinct.replace htasks htasks' hturn.item, ?_, ?_⟩
  · intro x hx
    rw [htasks', List.mem_append, List.mem_cons] at hx
    rw [hturn.job]
    have hold (hx : x ∈ lane.tasks) :
        ∃ begun, Standing lane.job run hasHost trusted lane'.cancelled begun x := by
      obtain ⟨b, hs⟩ := hstanding x hx
      exact ⟨b, hs.mono hturn.cancelled_of_cancelled⟩
    obtain hx | rfl | hx := hx
    · exact hold (by rw [htasks]; exact List.mem_append_left _ hx)
    · exact ⟨begun', hturn.standing⟩
    · exact hold (by rw [htasks]; exact List.mem_append_right _ (List.mem_cons_of_mem _ hx))
  · have hmoved := hturn.slots
    rw [htasks] at hslots
    rw [htasks', hturn.job, ← hslots]
    simp only [List.map_append, List.map_cons, total_append, total_cons]
    omega

end Sound

end Lane

/-! ### The lanes of a run -/

namespace Session

open Turns (lanes)

variable {s s' : Session} {m : Move} {run : RunId} {call : Call} {lane lane' : Lane}
  {place index : Nat} {answer : Answer} {trusted : Prop}

/-- The instance of an index in a lane of a run. -/
def task? (s : Session) (run : RunId) (place index : Nat) : Option Task :=
  (lanes s run)[place]?.bind (·.task? index)

theorem lanes_of_dispatched {l : List Lane} (hcall : s.call? run = some call)
    (hphase : call.phase = .dispatched l) : lanes s run = l := by
  unfold lanes
  rw [hcall, Option.map_some, hphase]

theorem lanes_of_phase (hcall : s.call? run = some call)
    (hphase : ∀ l, call.phase ≠ .dispatched l) : lanes s run = [] := by
  unfold lanes
  rw [hcall, Option.map_some]
  split
  · next heq => exact absurd (Option.some.inj heq) (hphase _)
  · rfl

theorem lanes_of_none (hcall : s.call? run = none) : lanes s run = [] := by
  unfold lanes
  rw [hcall, Option.map_none]

theorem lanes_setLane (hcall : s.call? call.info.id = some call) (l : List Lane) (place : Nat)
    (lane : Lane) :
    lanes (s.setLane call.info.id l place lane) call.info.id = l.set place lane := by
  have hafter : (s.setLane call.info.id l place lane).call? call.info.id =
      some { call with phase := .dispatched (l.set place lane) } := by
    rw [setLane, call?_setPhase, if_pos rfl, hcall]
    rfl
  exact lanes_of_dispatched hafter rfl

/-- A run with instances has a call that has sent them out. -/
theorem exists_call_of_lanes (h : lanes s run ≠ []) :
    ∃ call, s.call? run = some call ∧ call.phase = .dispatched (lanes s run) := by
  cases hcall : s.call? run with
  | none => exact absurd (lanes_of_none hcall) h
  | some call =>
    by_cases hphase : ∃ l, call.phase = .dispatched l
    · obtain ⟨l, hl⟩ := hphase
      rw [lanes_of_dispatched hcall hl]
      exact ⟨call, rfl, hl⟩
    · exact absurd (lanes_of_phase hcall fun l hl => hphase ⟨l, hl⟩) h

theorem isPast_of_lanes (h : lanes s run ≠ []) : s.IsPast run := by
  obtain ⟨call, hcall, hphase⟩ := exists_call_of_lanes h
  unfold IsPast
  rw [hcall]
  show call.phase ≠ .queued ∧ call.phase ≠ .granted ∧ call.phase ≠ .refused
  rw [hphase]
  exact ⟨Phase.noConfusion, Phase.noConfusion, Phase.noConfusion⟩

/-- What has become of the instances of a run after a move. -/
inductive LanesGo (s s' : Session) (run : RunId) : Move → Prop where
  | stay {m : Move} (same : lanes s' run = lanes s run) : LanesGo s s' run m
  | clear {m : Move} (after : lanes s' run = []) : LanesGo s s' run m
  | launch {info : RunInfo} {hasHost : Bool} (fresh : ¬s.IsPast run)
      (after : lanes s' run = lanesOf info hasHost) : LanesGo s s' run (.launch run)
  | forward {place : Nat} {lane : Lane} (cancelled : s.runCancelled run = true)
      (found : (lanes s run)[place]? = some lane)
      (after : lanes s' run = (lanes s run).set place { lane with cancelled := true }) :
      LanesGo s s' run (.forward run place)
  | advance {place index : Nat} {lane lane' : Lane} {answer : Answer} {entries : List Entry}
      (found : (lanes s run)[place]? = some lane)
      (turn : lane.advance run index answer = some (lane', entries))
      (after : lanes s' run = (lanes s run).set place lane') :
      LanesGo s s' run (.advance run place index answer)

theorem lanesGo (hm : s.apply m = some s') (run : RunId) : LanesGo s s' run m := by
  cases goes hm run with
  | stay same =>
    refine .stay ?_
    unfold lanes
    rw [same]
  | start _ _ _ after phase =>
    refine .clear (lanes_of_phase after fun l hl => ?_)
    rw [hl] at phase
    obtain hphase | hphase := phase <;> cases hphase
  | @advance _ call phase before step after =>
    obtain rfl := id_of_call? before
    cases step with
    | promote | displace | withdraw | abandon | collect | drop =>
      exact .clear (lanes_of_phase after fun _ => Phase.noConfusion)
    | launch granted =>
      refine .launch ?_ (lanes_of_dispatched after rfl)
      unfold IsPast
      rw [before]
      exact fun past => past.2.1 granted
    | forward dispatched cancelled found =>
      have hlanes := lanes_of_dispatched before dispatched
      refine .forward ?_ (hlanes ▸ found) (hlanes ▸ lanes_of_dispatched after rfl)
      rw [runCancelled, before]
      exact cancelled
    | advance dispatched found turn =>
      have hlanes := lanes_of_dispatched before dispatched
      exact .advance (hlanes ▸ found) turn (hlanes ▸ lanes_of_dispatched after rfl)
  | cancel before after =>
    refine .stay ?_
    unfold lanes
    rw [before, after]
    rfl
  | close _ _ _ after => exact .clear (lanes_of_none after)

/-- An instance takes a turn in its lane, and what it reports is added to the log. -/
theorem apply_advance (hm : s.apply (.advance run place index answer) = some s') :
    ∃ lane lane' entries, (lanes s run)[place]? = some lane ∧
      lane.advance run index answer = some (lane', entries) ∧
      lanes s' run = (lanes s run).set place lane' ∧ s'.log = entries.reverse ++ s.log := by
  obtain ⟨call, hcall, rfl, hm⟩ := exists_call_of_apply hm fun _ => Move.noConfusion
  cases hphase : call.phase <;> simp only [applyTo, hphase, reduceCtorEq] at hm
  next l =>
  rw [lanes_of_dispatched hcall hphase]
  split at hm
  · cases hm
  · next lane hlane =>
    split at hm
    · cases hm
    · next lane' entries hturn =>
      cases hm
      have hcall' : (s.record entries).call? call.info.id = some call := hcall
      exact ⟨lane, lane', entries, hlane, hturn, lanes_setLane hcall' l place lane', rfl⟩

/-! ### Orderly sessions -/

/-- An answer that is given with a move reports a cancellation only in a job that is cancelled. -/
def Trusts (s : Session) : Move → Prop
  | .advance run place _ answer =>
    ∀ lane, (lanes s run)[place]? = some lane → answer.Faithful lane.cancelled
  | _ => True

/-- What is true of all instances. -/
structure Orderly (trusted : Prop) (s : Session) : Prop where
  sound : ∀ run, ∀ lane ∈ lanes s run, ∃ info hasHost, lane.Sound info hasHost trusted
  /-- A job is cancelled because its run is, or because one of its instances has failed. -/
  cause : ∀ run, ∀ lane ∈ lanes s run, lane.cancelled = true → s.runCancelled run = true ∨
    lane.job.failFast = true ∧ ∃ t ∈ lane.tasks, t.status = .failed

namespace Orderly

theorem empty (policy : QueuePolicy) (hasHost : Bool) :
    Orderly trusted (Session.empty policy hasHost) := by
  have hnone (run : RunId) : lanes (Session.empty policy hasHost) run = [] := lanes_of_none rfl
  constructor
  all_goals
    intro run lane hlane
    rw [hnone] at hlane
    cases hlane

/-- The turn of an instance in a lane of an orderly session. -/
theorem exists_turn {entries : List Entry} (h : Orderly trusted s)
    (hf : trusted → s.Trusts (.advance run place index answer))
    (found : (lanes s run)[place]? = some lane)
    (turn : lane.advance run index answer = some (lane', entries)) :
    ∃ info hasHost before after t t' begun begun', lane.Sound info hasHost trusted ∧
      lane.task? index = some t ∧ lane.tasks = before ++ t :: after ∧
      lane'.tasks = before ++ t' :: after ∧
      Turn info hasHost trusted answer lane lane' t t' begun begun' entries := by
  obtain ⟨info, hasHost, hs⟩ := h.sound run lane (List.mem_of_getElem? found)
  obtain ⟨t, ht⟩ := Lane.exists_task_of_advance turn
  obtain ⟨begun, hstanding⟩ := hs.standing t (Lane.mem_of_task? ht).1
  obtain ⟨before, after, t', begun', htasks, htasks', hturn⟩ :=
    hs.distinct.turn ht hstanding (fun htrusted => hf htrusted lane found) turn
  exact ⟨info, hasHost, before, after, t, t', begun, begun', hs, ht, htasks, htasks', hturn⟩

theorem sound_apply (h : Orderly trusted s) (hf : trusted → s.Trusts m) (hm : s.apply m = some s')
    (hlane : lane ∈ lanes s' run) : ∃ info hasHost, lane.Sound info hasHost trusted := by
  cases lanesGo hm run with
  | stay same => exact h.sound run lane (same ▸ hlane)
  | clear after => rw [after] at hlane; cases hlane
  | launch _ after =>
    rw [after] at hlane
    obtain ⟨⟨job, instances⟩, hmem, rfl⟩ := List.mem_map.mp hlane
    obtain ⟨first, rfl⟩ := mem_expandJobs hmem
    exact ⟨_, _, .of (job.nodup_instances first)⟩
  | forward _ found after =>
    rw [after] at hlane
    obtain hmem | rfl := List.mem_or_eq_of_mem_set hlane
    · exact h.sound run lane hmem
    · obtain ⟨info, hasHost, hs⟩ := h.sound run _ (List.mem_of_getElem? found)
      exact ⟨info, hasHost, hs.forward⟩
  | advance found turn after =>
    rw [after] at hlane
    obtain hmem | rfl := List.mem_or_eq_of_mem_set hlane
    · exact h.sound run lane hmem
    · obtain ⟨info, hasHost, _, _, _, _, _, _, hs, -, htasks, htasks', hturn⟩ :=
        h.exists_turn hf found turn
      exact ⟨info, hasHost, hs.of_turn htasks htasks' hturn⟩

theorem cause_apply (h : Orderly trusted s) (hf : trusted → s.Trusts m) (hm : s.apply m = some s')
    (hlane : lane ∈ lanes s' run) (hcancelled : lane.cancelled = true) :
    s'.runCancelled run = true ∨
      lane.job.failFast = true ∧ ∃ t ∈ lane.tasks, t.status = .failed := by
  -- a cancelled run stays cancelled as long as its instances are there
  have hkeep (hc : s.runCancelled run = true) : s'.runCancelled run = true := by
    obtain ⟨call, hcall, -⟩ := exists_call_of_lanes (List.ne_nil_of_mem hlane)
    exact runCancelled_apply hc hm hcall
  have hstay (hmem : lane ∈ lanes s run) : s'.runCancelled run = true ∨
      lane.job.failFast = true ∧ ∃ t ∈ lane.tasks, t.status = .failed :=
    (h.cause run lane hmem hcancelled).imp_left hkeep
  cases lanesGo hm run with
  | stay same => exact hstay (same ▸ hlane)
  | clear after => rw [after] at hlane; cases hlane
  | launch _ after =>
    rw [after] at hlane
    obtain ⟨_, -, rfl⟩ := List.mem_map.mp hlane
    cases hcancelled
  | forward cancelled => exact .inl (hkeep cancelled)
  | advance found turn after =>
    obtain hmem | rfl := List.mem_or_eq_of_mem_set (after ▸ hlane)
    · exact hstay hmem
    · obtain ⟨_, _, _, _, t, _, _, _, -, ht, htasks, htasks', hturn⟩ :=
        h.exists_turn hf found turn
      have hfailed := hturn.exists_failed htasks htasks'
      rw [hturn.job]
      obtain hsame | ⟨-, hfast, hstatus⟩ := hturn.cancelled
      · obtain hc | ⟨hfast, hx⟩ := h.cause run _ (List.mem_of_getElem? found) (hsame ▸ hcancelled)
        · exact .inl (hkeep hc)
        · exact .inr ⟨hfast, hfailed hx⟩
      · exact .inr ⟨hfast, hfailed ⟨t, (Lane.mem_of_task? ht).1, hstatus⟩⟩

/-- Every move keeps a session orderly, if its answer can be trusted. -/
theorem apply (h : Orderly trusted s) (hf : trusted → s.Trusts m) (hm : s.apply m = some s') :
    Orderly trusted s' where
  sound _ _ hlane := h.sound_apply hf hm hlane
  cause _ _ hlane hcancelled := h.cause_apply hf hm hlane hcancelled

end Orderly

/-- The result of an instance that is over: it has died and failed, or the result is that of its
status. -/
theorem Orderly.result_of_isOver {t : Task} (h : Orderly trusted s) (hlane : lane ∈ lanes s run)
    (hover : lane.isOver = true) (ht : t ∈ lane.tasks) :
    (t.hasDied = true ∧ (lane.resultOf t).status = .failed) ∨
      ((lane.resultOf t).index = t.item.index ∧ (lane.resultOf t).status = t.status ∧
        t.finalStatus = t.status ∧ t.status.isTerminal = true) := by
  obtain ⟨info, hasHost, hs⟩ := h.sound run lane hlane
  obtain ⟨begun, hstanding⟩ := hs.standing t ht
  have hover := List.all_eq_true.mp hover t ht
  cases hstanding with
  | ended settled => exact .inr ⟨settled.index, rfl, rfl, settled.terminal⟩
  | died => exact .inl ⟨rfl, rfl⟩
  | _ => cases hover

theorem Reachable.orderly {policy : QueuePolicy} {hasHost : Bool} (h : Reachable policy hasHost s) :
    Orderly False s := by
  induction h with
  | empty => exact Orderly.empty policy hasHost
  | move m _ hm ih => exact ih.apply False.elim hm

/-! ### Instances -/

/-- What was of an instance before a move. -/
inductive TaskGoes (trusted : Prop) (s s' : Session) (run : RunId) (place index : Nat) (t' : Task) :
    Move → Prop where
  | stay {m : Move} (same : s.task? run place index = some t') :
      TaskGoes trusted s s' run place index t' m
  | launch (before : lanes s run = []) (pending : t'.status = .pending) :
      TaskGoes trusted s s' run place index t' (.launch run)
  | turn {info : RunInfo} {hasHost : Bool} {lane lane' : Lane} {t : Task} {begun begun' : Bool}
      {answer : Answer} {entries : List Entry} (found : (lanes s run)[place]? = some lane)
      (here : s.task? run place index = some t)
      (turn : Turn info hasHost trusted answer lane lane' t t' begun begun' entries) :
      TaskGoes trusted s s' run place index t' (.advance run place index answer)

theorem Orderly.taskGoes {t' : Task} (h : Orderly trusted s) (hf : trusted → s.Trusts m)
    (hm : s.apply m = some s') (ht' : s'.task? run place index = some t') :
    TaskGoes trusted s s' run place index t' m := by
  obtain ⟨lane₁, hlane₁, ht₁⟩ := Option.bind_eq_some_iff.mp ht'
  cases lanesGo hm run with
  | stay same =>
    refine .stay ?_
    rw [task?, ← same]
    exact ht'
  | clear after => rw [after] at hlane₁; cases hlane₁
  | launch fresh after =>
    refine .launch (Decidable.not_not.mp fun h => fresh (isPast_of_lanes h)) ?_
    rw [after] at hlane₁
    obtain ⟨⟨job, instances⟩, -, rfl⟩ := List.mem_map.mp (List.mem_of_getElem? hlane₁)
    obtain ⟨i, -, rfl⟩ := List.mem_map.mp (Lane.mem_of_task? ht₁).1
    rfl
  | @forward other lane _ found after =>
    refine .stay ?_
    rw [after, List.getElem?_set] at hlane₁
    split at hlane₁
    · next hplace =>
      subst hplace
      rw [task?, found, Option.bind_some]
      split at hlane₁ <;> cases hlane₁
      exact ht₁
    · rw [task?, hlane₁, Option.bind_some, ht₁]
  | @advance other index' lane lane' answer entries found turn after =>
    have hset := hlane₁
    rw [after, List.getElem?_set] at hset
    split at hset
    · next hplace =>
      subst hplace
      split at hset <;> cases hset
      obtain ⟨_, _, _, _, t, t'', _, _, hs, ht, htasks, htasks', hturn⟩ :=
        h.exists_turn hf found turn
      have hitem := (Lane.mem_of_task? ht).2
      by_cases hindex : index' = index
      · subst hindex
        have hfind := hs.distinct.task?_replaced htasks htasks' hturn.item
        rw [hitem, ht₁] at hfind
        cases hfind
        refine .turn found ?_ hturn
        rw [task?, found, Option.bind_some, ht]
      · refine .stay ?_
        rw [task?, found, Option.bind_some, ← ht₁]
        refine (Lane.task?_of_replace htasks htasks' hturn.item ?_).symm
        rwa [hitem]
    · refine .stay ?_
      rw [task?, hset, Option.bind_some, ht₁]

/-! ### A run to look at -/

/-- A run of one job with two instances and no steps. -/
def sharded (failFast : Bool) (maxParallel : Option Nat) : RunInfo :=
  ⟨"1", ⟨"CI", [.of "push"], none, [], [⟨"test", "Test", [],
      ⟨[("shard", [.bool false, .bool true])], [], []⟩, failFast, maxParallel, []⟩]⟩,
    ⟨"push", none, "main", none, none, none, none⟩, "/", [], .linux⟩

/-- An instance of that run takes a number of turns. -/
def turns (index count : Nat) : List Move :=
  List.replicate count (.advance "1" 0 index .go)

end Session

end Pipeline
