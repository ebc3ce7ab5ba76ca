import Pipeline.Proofs.Session.Dormant

/-! How the cancellation of a run reaches its instances. They look at the signal of their job, which
the cancellation of the run has to reach first. An instance that has not passed its start check by
then never runs; one that has, runs although its run is cancelled. -/

namespace Pipeline

/-- The instance has its start check still before it. -/
def Task.isUnchecked (t : Task) : Bool :=
  match t.status, t.stage with
  | .pending, .working (.move ..) => false
  | .pending, _ => true
  | _, _ => false

theorem Task.status_of_isUnchecked {t : Task} (h : t.isUnchecked = true) : t.status = .pending := by
  unfold isUnchecked at h
  split at h
  · cases h
  · assumption
  · cases h

theorem Standing.idle_of_isUnchecked {job : Job} {run : RunInfo} {hasHost : Bool} {trusted : Prop}
    {cancelled begun : Bool} {t : Task} (h : Standing job run hasHost trusted cancelled begun t)
    (ht : t.isUnchecked = true) : Standing job run hasHost trusted cancelled false t := by
  have hpending := Task.status_of_isUnchecked ht
  have hterminal {result : JobResult} (h : result.status.isTerminal = true)
      (hpending : result.status = .pending) : False := by
    rw [hpending] at h
    cases h
  cases h with
  | outside limited => exact .outside limited
  | waiting limited => exact .waiting limited
  | arrived slot => exact .arrived slot
  | admitted | refused => cases ht
  | running | stopping => cases hpending
  | alarming _ failed => cases failed.symm.trans hpending
  | leaving settled | finished settled | ended settled =>
    exact (hterminal settled.terminal hpending).elim
  | died blamed => exact .died blamed fun _ => .inl hpending

/-- A dormant instance that is over has died or is cancelled. -/
theorem Lane.Dormant.status_of_isOver {lane : Lane} {index : Nat} {t : Task}
    (h : lane.Dormant index) (ht : lane.task? index = some t) (hover : t.isOver = true) :
    t.hasDied = true ∨ t.status = .cancelled := by
  obtain ⟨_, _, t', ht', hstanding⟩ := h.idle
  rw [ht] at ht'
  cases ht'
  cases hstanding with
  | ended settled => exact .inr (settled.idle rfl)
  | died => exact .inl rfl
  | _ => cases hover

namespace Session

open Turns (lanes)

variable {policy : QueuePolicy} {hasHost : Bool} {s s' : Session} {run : RunId}
  {place index : Nat} {t : Task}

/-- A job that cancellation reaches is cancelled, and has the same instances. -/
theorem apply_forward (hm : s.apply (.forward run place) = some s') :
    ∃ lane, (lanes s run)[place]? = some lane ∧
      (lanes s' run)[place]? = some { lane with cancelled := true } := by
  obtain ⟨call, hcall, rfl, hm⟩ := exists_call_of_apply hm fun _ => Move.noConfusion
  cases hphase : call.phase <;> simp only [applyTo, hphase, reduceCtorEq] at hm
  next l =>
  rw [lanes_of_dispatched hcall hphase]
  split at hm
  · obtain ⟨lane, hlane, rfl⟩ := Option.map_eq_some_iff.mp hm
    refine ⟨lane, hlane, ?_⟩
    rw [lanes_setLane hcall, List.getElem?_set_self (List.getElem?_eq_some_iff.mp hlane).1]
  · cases hm

/-- When the cancellation of a run reaches a job, an instance of the job that has its start check
still before it never runs, and ends cancelled unless it dies. -/
theorem unchecked_never_runs (h : Reachable policy hasHost s)
    (hm : s.apply (.forward run place) = some s') (ht : s.task? run place index = some t)
    (hunchecked : t.isUnchecked = true) : s'.NeverRuns run place index ∧
      ∀ moves s₁ t₁, s'.play moves = some s₁ → s₁.task? run place index = some t₁ →
        t₁.isOver = true → t₁.hasDied = true ∨ t₁.status = .cancelled := by
  obtain ⟨lane, hlane, hlane'⟩ := apply_forward hm
  rw [task?, hlane, Option.bind_some] at ht
  obtain ⟨info, hasHost', hs⟩ := h.orderly.sound run lane (List.mem_of_getElem? hlane)
  obtain ⟨begun, hstanding⟩ := hs.standing t (Lane.mem_of_task? ht).1
  have hidle := (hstanding.idle_of_isUnchecked hunchecked).mono fun _ => rfl
  have hlasts : s'.Lasts run place (·.Dormant index) :=
    .inl ⟨_, hlane', rfl, info, hasHost', t, ht, hidle⟩
  have h' := h.move _ hm
  refine ⟨hlasts.neverRuns h', fun moves s₁ t₁ hplay ht₁ hover => ?_⟩
  obtain ⟨lane₁, hlane₁, hdormant⟩ | ⟨-, hnone⟩ :=
    hlasts.play (Lane.kept_dormant index) h' hplay
  · rw [task?, hlane₁, Option.bind_some] at ht₁
    exact hdormant.status_of_isOver ht₁ hover
  · rw [task?, hnone] at ht₁
    cases ht₁

/-- The cancellation of a run reaches its job before its instances look for it, and the first of
them never runs. -/
theorem unchecked_never_runs_cancelled : ∃ s s' t, Reachable .fifo false s ∧
    s.runCancelled "1" = true ∧ s.apply (.forward "1" 0) = some s' ∧ s.task? "1" 0 0 = some t ∧
    s'.NeverRuns "1" 0 0 := by
  have hplay : (((Session.empty .fifo false).play
      [.start (sharded false none), .cancel "1", .launch "1"]).bind fun s =>
      (s.apply (.forward "1" 0)).bind fun _ => (s.task? "1" 0 0).map fun t =>
        (s.runCancelled "1", t.isUnchecked)) = some (true, true) := by
    decide +kernel
  obtain ⟨s, hs, hplay⟩ := Option.bind_eq_some_iff.mp hplay
  obtain ⟨s', hs', hplay⟩ := Option.bind_eq_some_iff.mp hplay
  obtain ⟨t, ht, hplay⟩ := Option.map_eq_some_iff.mp hplay
  simp only [Prod.mk.injEq] at hplay
  have h : Reachable .fifo false s := Reachable.empty.play hs
  exact ⟨s, s', t, h, hplay.1, hs', ht, (unchecked_never_runs h hs' ht hplay.2).1⟩

/-- A run is cancelled before it sends out its instances. One of them passes its start check before
the cancellation reaches its job, and runs and starts its work. -/
theorem cancelled_run_starts : ∃ s s' s₁ t, Reachable .fifo false s ∧
    s.runCancelled "1" = true ∧ s.apply (.launch "1") = some s' ∧
    s'.play (turns 0 4) = some s₁ ∧ s₁.task? "1" 0 0 = some t ∧ t.status = .running ∧
    s₁.log.length = s'.log.length + 1 := by
  have hplay : (((Session.empty .fifo false).play
      [.start (sharded false none), .cancel "1"]).bind fun s =>
      (s.apply (.launch "1")).bind fun s' => (s'.play (turns 0 4)).bind fun s₁ =>
        (s₁.task? "1" 0 0).map fun t =>
          (s.runCancelled "1", t.status, s₁.log.length, s'.log.length)) =
      some (true, .running, 2, 1) := by
    decide +kernel
  obtain ⟨s, hs, hplay⟩ := Option.bind_eq_some_iff.mp hplay
  obtain ⟨s', hs', hplay⟩ := Option.bind_eq_some_iff.mp hplay
  obtain ⟨s₁, hs₁, hplay⟩ := Option.bind_eq_some_iff.mp hplay
  obtain ⟨t, ht, hplay⟩ := Option.map_eq_some_iff.mp hplay
  simp only [Prod.mk.injEq] at hplay
  obtain ⟨hcancelled, hstatus, hafter, hbefore⟩ := hplay
  refine ⟨s, s', s₁, t, Reachable.empty.play hs, hcancelled, hs', hs₁, ht, hstatus, ?_⟩
  rw [hafter, hbefore]

end Session

end Pipeline
