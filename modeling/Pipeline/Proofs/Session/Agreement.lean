import Pipeline.Proofs.Session.Lanes

/-! The state that the instances of a run share, their results and the outcome of the run agree.
Every status is set twice and moves that are not allowed are ignored, so this rests on where the
instances stand: whoever has a result has the status of it. -/

namespace Pipeline

/-- What an instance may go on to: it starts or is cancelled, and it ends once it runs. -/
inductive JobStatus.Follows : JobStatus → JobStatus → Prop where
  | start : Follows .pending .running
  | refuse : Follows .pending .cancelled
  | succeed : Follows .running .succeeded
  | fail : Follows .running .failed
  | stop : Follows .running .cancelled

theorem JobStatus.follows_of_canBecome {status next : JobStatus}
    (h : status.canBecome next = true) : status.Follows next := by
  cases status <;> cases next <;> first | constructor | cases h

/-- The outcome of a run in terms of the results of its instances. -/
def RunStatus.ofResults (results : List JobResult) : RunStatus :=
  if ∃ r ∈ results, r.status = .failed then .failed
  else if ∀ r ∈ results, r.status = .succeeded then .succeeded
  else .cancelled

theorem RunStatus.aggregate_map_status (results : List JobResult) :
    RunStatus.aggregate (results.map (·.status)) = RunStatus.ofResults results := by
  simp [RunStatus.aggregate, RunStatus.ofResults]

namespace Session

open Turns (lanes)

variable {policy : QueuePolicy} {hasHost : Bool} {trusted : Prop} {s s' : Session} {m : Move}
  {run : RunId} {lane : Lane} {t : Task}

/-- A run whose instances are all over has its outcome. -/
theorem apply_collect (hm : s.apply (.collect run) = some s') :
    ∃ call, s.call? run = some call ∧ call.phase = .dispatched (lanes s run) ∧
      (∀ lane ∈ lanes s run, lane.isOver = true) ∧
      s'.call? run =
        some { call with phase := .finished (outcomeOf call.info call.key (lanes s run)) } := by
  obtain ⟨call, hcall, rfl, hm⟩ := exists_call_of_apply hm fun _ => Move.noConfusion
  cases hphase : call.phase <;> simp only [applyTo, hphase, reduceCtorEq] at hm
  next l =>
  split at hm
  · next hover =>
    cases hm
    rw [lanes_of_dispatched hcall hphase]
    refine ⟨call, hcall, hphase, List.all_eq_true.mp hover, ?_⟩
    rw [finish, call?_setPhase, if_pos rfl, call?_tell, call?_release, hcall]
    rfl
  · cases hm

theorem Orderly.result_of_alive (h : Orderly trusted s) (hlane : lane ∈ lanes s run)
    (hover : lane.isOver = true) (ht : t ∈ lane.tasks) (halive : t.hasDied = false) :
    (lane.resultOf t).index = t.item.index ∧ (lane.resultOf t).status = t.status ∧
      t.finalStatus = t.status ∧ t.status.isTerminal = true := by
  obtain ⟨hdied, -⟩ | hresult := h.result_of_isOver hlane hover ht
  · rw [halive] at hdied
    cases hdied
  · exact hresult

theorem map_jobs_outcomeOf {β : Type} {f : JobResult → β} {g : Task → β} (info : RunInfo)
    (key : Option String) {l : List Lane}
    (h : ∀ lane ∈ l, ∀ t ∈ lane.tasks, f (lane.resultOf t) = g t) :
    (outcomeOf info key l).jobs.map f = l.flatMap fun lane => lane.tasks.map g := by
  show List.map f (List.flatMap _ l) = _
  rw [List.map_flatMap]
  refine List.flatMap_congr fun lane hlane => ?_
  rw [List.map_map]
  exact List.map_congr_left fun t ht => h lane hlane t ht

/-- The outcome of a run of which no instance has died is made of the statuses of its instances. -/
theorem Orderly.outcome_agrees (h : Orderly trusted s) (info : RunInfo) (key : Option String)
    (hover : ∀ lane ∈ lanes s run, lane.isOver = true)
    (halive : ∀ lane ∈ lanes s run, ∀ t ∈ lane.tasks, t.hasDied = false) :
    (outcomeOf info key (lanes s run)).jobs.map (fun r => (r.index, r.status)) =
        (lanes s run).flatMap (fun lane => lane.tasks.map fun t => (t.item.index, t.status)) ∧
      (outcomeOf info key (lanes s run)).status =
        .ofResults (outcomeOf info key (lanes s run)).jobs := by
  have hresult {lane : Lane} (hlane : lane ∈ lanes s run) {t : Task} (ht : t ∈ lane.tasks) :=
    h.result_of_alive hlane (hover lane hlane) ht (halive lane hlane t ht)
  constructor
  · refine map_jobs_outcomeOf info key fun lane hlane t ht => ?_
    obtain ⟨hindex, hstatus, -⟩ := hresult hlane ht
    rw [hindex, hstatus]
  · have hstatuses : (outcomeOf info key (lanes s run)).jobs.map (·.status) =
        (lanes s run).flatMap fun lane => lane.tasks.map (·.finalStatus) := by
      refine map_jobs_outcomeOf info key fun lane hlane t ht => ?_
      obtain ⟨-, hstatus, hfinal, -⟩ := hresult hlane ht
      rw [hstatus, hfinal]
    rw [← RunStatus.aggregate_map_status, hstatuses]
    rfl

/-- Whatever is done: an instance is pending when its run sends it out, and goes on only as it may
from then on. And when a run of which no instance has died collects its results, the status of every
instance is terminal and that of its result, and the status of the run follows from the results. -/
theorem statuses_agree (h : Reachable policy hasHost s) (hm : s.apply m = some s') :
    (∀ run place index t', s'.task? run place index = some t' →
      (lanes s run = [] ∧ t'.status = .pending) ∨
      ∃ t, s.task? run place index = some t ∧
        (t'.status = t.status ∨ t.status.Follows t'.status)) ∧
    ∀ run, m = .collect run → (∀ lane ∈ lanes s run, ∀ t ∈ lane.tasks, t.hasDied = false) →
      ∃ call outcome, s'.call? run = some call ∧ call.phase = .finished outcome ∧
        (∀ lane ∈ lanes s run, ∀ t ∈ lane.tasks, t.status.isTerminal = true) ∧
        outcome.jobs.map (fun r => (r.index, r.status)) =
          (lanes s run).flatMap (fun lane => lane.tasks.map fun t => (t.item.index, t.status)) ∧
        outcome.status = .ofResults outcome.jobs := by
  refine ⟨fun run place index t' ht' => ?_, ?_⟩
  · cases h.orderly.taskGoes False.elim hm ht' with
    | stay same => exact .inr ⟨t', same, .inl rfl⟩
    | launch before pending => exact .inl ⟨before, pending⟩
    | turn _ here turn =>
      exact .inr ⟨_, here, turn.status.imp_right JobStatus.follows_of_canBecome⟩
  · rintro run rfl halive
    obtain ⟨call, hcall, hphase, hover, hafter⟩ := apply_collect hm
    refine ⟨_, _, hafter, rfl, fun lane hlane t ht => ?_,
      h.orderly.outcome_agrees call.info call.key hover halive⟩
    exact (h.orderly.result_of_alive hlane (hover lane hlane) ht (halive lane hlane t ht)).2.2.2

/-- One instance fails, its failure cancels the other, and the run collects their results. -/
theorem statuses_agree_failFast : ∃ s s' call outcome, Reachable .fifo false s ∧
    s.apply (.collect "1") = some s' ∧ s'.call? "1" = some call ∧ call.phase = .finished outcome ∧
    outcome.jobs.map (fun r => (r.index, r.status)) = [(0, .failed), (1, .cancelled)] ∧
    outcome.status = .ofResults outcome.jobs := by
  let failure : Answer := .resolved (.error (.io "gone"))
  have hplay : ((Session.empty .fifo false).play ([.start (sharded true none), .launch "1"] ++
      turns 0 4 ++ [.advance "1" 0 0 failure] ++ turns 1 2 ++ turns 0 5 ++ turns 1 3)).bind
      (fun s => (s.apply (.collect "1")).map fun _ =>
        (decide (∀ lane ∈ lanes s "1", ∀ t ∈ lane.tasks, t.hasDied = false),
          (lanes s "1").flatMap fun lane => lane.tasks.map fun t => (t.item.index, t.status))) =
      some (true, [(0, .failed), (1, .cancelled)]) := by
    decide +kernel
  obtain ⟨s, hs, hcollect⟩ := Option.bind_eq_some_iff.mp hplay
  obtain ⟨s', hs', hseen⟩ := Option.map_eq_some_iff.mp hcollect
  obtain ⟨halive, hstatuses⟩ := Prod.ext_iff.mp hseen
  have h : Reachable .fifo false s := Reachable.empty.play hs
  obtain ⟨call, outcome, hcall, hphase, -, hjobs, hstatus⟩ :=
    (statuses_agree h hs').2 "1" rfl (of_decide_eq_true halive)
  exact ⟨s, s', call, outcome, h, hs', hcall, hphase, hjobs.trans hstatuses, hstatus⟩

end Session

end Pipeline
