import Pipeline.Proofs.Session.Dormant

/-! How many instances of a job run at a time. Every instance of a limited job that runs has a slot,
whoever goes on without one is dormant, and a failed instance of a job that fails fast gives its
slot back only after it has cancelled the job. -/

namespace Pipeline

theorem countP_le_total_map {α : Type} {p : α → Bool} {f : α → Nat} {l : List α}
    (h : ∀ x ∈ l, p x = true → 1 ≤ f x) : l.countP p ≤ total (l.map f) := by
  induction l with
  | nil => exact Nat.le_refl 0
  | cons x l ih =>
    have hrest := ih fun y hy => h y (List.mem_cons_of_mem x hy)
    have hx := h x List.mem_cons_self
    rw [List.countP_cons, List.map_cons, total_cons]
    split
    · next hp =>
      have := hx hp
      omega
    · omega

/-- A running instance of a limited job has a slot, unless it has died. -/
theorem Standing.one_le_slots {job : Job} {run : RunInfo} {hasHost : Bool} {trusted : Prop}
    {cancelled begun : Bool} {t : Task} (h : Standing job run hasHost trusted cancelled begun t)
    (hlimited : job.maxParallel.isSome = true) (hrunning : t.status = .running)
    (halive : t.hasDied = false) : 1 ≤ t.slots := by
  have hterminal {result : JobResult} (h : result.status.isTerminal = true)
      (hrunning : result.status = .running) : False := by
    rw [hrunning] at h
    cases h
  cases h with
  | outside | waiting | arrived | admitted | refused | stopping => cases hrunning
  | running slot =>
    simp [Task.slots, slot hlimited]
  | alarming _ failed => cases failed.symm.trans hrunning
  | leaving settled | finished settled | ended settled =>
    exact (hterminal settled.terminal hrunning).elim
  | died => cases halive

theorem Lane.Sound.countP_running_le {run : RunInfo} {hasHost : Bool} {trusted : Prop} {lane : Lane}
    {n : Nat} (h : lane.Sound run hasHost trusted) (hn : lane.job.maxParallel = some n) :
    lane.tasks.countP (fun t => t.status = .running && !t.hasDied) ≤ n := by
  have hheld : lane.tasks.countP (fun t => t.status = .running && !t.hasDied) ≤
      total (lane.tasks.map Task.slots) := by
    refine countP_le_total_map fun t ht hcounts => ?_
    rw [Bool.and_eq_true, decide_eq_true_eq, Bool.not_eq_true'] at hcounts
    obtain ⟨begun, hstanding⟩ := h.standing t ht
    exact hstanding.one_le_slots (by rw [hn]; rfl) hcounts.1 hcounts.2
  have hslots := h.slots
  rw [hn, Option.getD_some] at hslots
  omega

namespace Session

open Turns (lanes)

variable {policy : QueuePolicy} {hasHost : Bool} {s s' : Session} {run : RunId}
  {place index : Nat} {answer : Answer} {lane : Lane} {t t' : Task}

/-- An instance takes a turn. -/
structure TakesTurn (s s' : Session) (run : RunId) (place index : Nat) (answer : Answer)
    (t t' : Task) : Prop where
  move : s.apply (.advance run place index answer) = some s'
  before : s.task? run place index = some t
  after : s'.task? run place index = some t'

/-- Whoever waits for no slot any longer never runs. -/
theorem Reachable.neverRuns_of_noSlot (h : Reachable policy hasHost s)
    (hm : s.apply (.advance run place index .noSlot) = some s') : s'.NeverRuns run place index := by
  obtain ⟨_, _, _, lane', _, _, _, _, _, -, hlane', -, -, hturn, hdormant⟩ :=
    h.orderly.turn_of_apply hm
  obtain ⟨hcancelled, hidle⟩ := hturn.quits rfl
  have hlasts : s'.Lasts run place (·.Dormant index) :=
    .inl ⟨lane', hlane', hdormant hcancelled hidle⟩
  exact hlasts.neverRuns (h.move _ hm)

/-- In a job that fails fast, whoever has failed gives back its slot only in a cancelled job. -/
theorem Reachable.cancelled_of_slot_returned (h : Reachable policy hasHost s)
    (hlane : (lanes s run)[place]? = some lane) (hfast : lane.job.failFast = true)
    (hback : s.TakesTurn s' run place index answer t t') (hdeath : answer ≠ .death)
    (hheld : t.holdsSlot = true) (hfree : t'.holdsSlot = false) (hfailed : t'.status = .failed) :
    s'.Lasts run place (·.cancelled = true) := by
  obtain ⟨_, _, lane₀, lane', _, _, _, _, _, hlane₀, hlane', ht, ht', hturn, -⟩ :=
    h.orderly.turn_of_apply hback.move
  rw [hlane] at hlane₀
  rw [hback.before] at ht
  rw [hback.after] at ht'
  cases hlane₀
  cases ht
  cases ht'
  exact .inl ⟨lane', hlane', hturn.returns hdeath hheld hfree hfailed hfast⟩

/-- Whoever gets a slot in a cancelled job never runs. -/
theorem Reachable.neverRuns_of_slot (h : Reachable policy hasHost s)
    (hcancelled : s.Lasts run place (·.cancelled = true))
    (hgets : s.TakesTurn s' run place index answer t t') (hempty : t.holdsSlot = false)
    (hfull : t'.holdsSlot = true) : s'.NeverRuns run place index := by
  obtain ⟨_, _, lane, lane', _, _, _, _, _, hlane, hlane', ht, ht', hturn, hdormant⟩ :=
    h.orderly.turn_of_apply hgets.move
  rw [hgets.before] at ht
  rw [hgets.after] at ht'
  cases ht
  cases ht'
  obtain ⟨lane₀, hlane₀, hcancelled⟩ | ⟨-, hnone⟩ := hcancelled
  · rw [hlane] at hlane₀
    cases hlane₀
    have hlasts : s'.Lasts run place (·.Dormant index) :=
      .inl ⟨lane', hlane', hdormant hcancelled (hturn.obtains hempty hfull)⟩
    exact hlasts.neverRuns (h.move _ hgets.move)
  · rw [hnone] at hlane
    cases hlane

/-- In every session: at most as many instances of a job run as it allows, apart from those that
have died; an instance that waits for no slot any longer, and has none, never runs; and in a job
that fails fast, once an instance that has failed gives back its slot other than by dying, whoever
gets a slot never runs. -/
theorem parallelism_bounded (h : Reachable policy hasHost s) :
    (∀ run, ∀ lane ∈ lanes s run, ∀ n, lane.job.maxParallel = some n →
      lane.tasks.countP (fun t => t.status = .running && !t.hasDied) ≤ n) ∧
    (∀ run place index s', s.apply (.advance run place index .noSlot) = some s' →
      s'.NeverRuns run place index) ∧
    ∀ run place lane, (lanes s run)[place]? = some lane → lane.job.failFast = true →
      ∀ index answer t t' s₁, s.TakesTurn s₁ run place index answer t t' → answer ≠ .death →
        t.holdsSlot = true → t'.holdsSlot = false → t'.status = .failed →
      ∀ moves s₂, s₁.play moves = some s₂ →
      ∀ other answer' u u' s₃, s₂.TakesTurn s₃ run place other answer' u u' →
        u.holdsSlot = false → u'.holdsSlot = true → s₃.NeverRuns run place other := by
  refine ⟨fun run lane hlane n hn => ?_, fun _ _ _ _ hm => h.neverRuns_of_noSlot hm, ?_⟩
  · obtain ⟨_, _, hs⟩ := h.orderly.sound run lane hlane
    exact hs.countP_running_le hn
  · intro run place lane hlane hfast index answer t t' s₁ hback hdeath hheld hfree hfailed moves s₂
      hplay other answer' u u' s₃ hgets hempty hfull
    have h₁ := h.move _ hback.move
    have hcancelled :=
      h.cancelled_of_slot_returned hlane hfast hback hdeath hheld hfree hfailed
    -- the job stays cancelled until somebody gets the slot
    have hstill := hcancelled.play Lane.kept_cancelled h₁ hplay
    exact (h₁.play hplay).neverRuns_of_slot hstill hgets hempty hfull

/-- One of two instances fails and cancels the job, the other one gets its slot, and never runs. -/
theorem parallelism_bounded_failFast : ∃ s s₁ s₂ t t' u u', Reachable .fifo false s ∧
    s.TakesTurn s₁ "1" 0 0 .go t t' ∧ t'.status = .failed ∧ s₁.TakesTurn s₂ "1" 0 1 .go u u' ∧
    u.holdsSlot = false ∧ u'.holdsSlot = true ∧ s₂.NeverRuns "1" 0 1 := by
  let turn (index : Nat) : Move := .advance "1" 0 index .go
  let failure : Answer := .resolved (.error (.io "gone"))
  have hplay : (((Session.empty .fifo false).play ([.start (sharded true (some 1)), .launch "1"] ++
      turns 0 6 ++ [.advance "1" 0 0 failure] ++ turns 0 4 ++ turns 1 1)).bind fun s =>
      (s.apply (turn 0)).bind fun s₁ => (s₁.apply (turn 1)).bind fun s₂ =>
        (lanes s "1")[0]?.bind fun lane => (s.task? "1" 0 0).bind fun t =>
          (s₁.task? "1" 0 0).bind fun t' => (s₁.task? "1" 0 1).bind fun u =>
            (s₂.task? "1" 0 1).map fun u' => (lane.job.failFast, t.holdsSlot, t'.holdsSlot,
              t'.status, u.holdsSlot, u'.holdsSlot)) =
      some (true, true, false, .failed, false, true) := by
    decide +kernel
  obtain ⟨s, hs, hplay⟩ := Option.bind_eq_some_iff.mp hplay
  obtain ⟨s₁, hs₁, hplay⟩ := Option.bind_eq_some_iff.mp hplay
  obtain ⟨s₂, hs₂, hplay⟩ := Option.bind_eq_some_iff.mp hplay
  obtain ⟨lane, hlane, hplay⟩ := Option.bind_eq_some_iff.mp hplay
  obtain ⟨t, ht, hplay⟩ := Option.bind_eq_some_iff.mp hplay
  obtain ⟨t', ht', hplay⟩ := Option.bind_eq_some_iff.mp hplay
  obtain ⟨u, hu, hplay⟩ := Option.bind_eq_some_iff.mp hplay
  obtain ⟨u', hu', hplay⟩ := Option.map_eq_some_iff.mp hplay
  simp only [Prod.mk.injEq] at hplay
  obtain ⟨hfast, hheld, hfree, hfailed, hempty, hfull⟩ := hplay
  have h : Reachable .fifo false s := Reachable.empty.play hs
  have hback : s.TakesTurn s₁ "1" 0 0 .go t t' := ⟨hs₁, ht, ht'⟩
  have hgets : s₁.TakesTurn s₂ "1" 0 1 .go u u' := ⟨hs₂, hu, hu'⟩
  refine ⟨s, s₁, s₂, t, t', u, u', h, hback, hfailed, hgets, hempty, hfull, ?_⟩
  exact (parallelism_bounded h).2.2 "1" 0 lane hlane hfast 0 .go t t' s₁ hback Answer.noConfusion
    hheld hfree hfailed [] s₁ rfl 1 .go u u' s₂ hgets hempty hfull

/-- One of two instances dies, which gives back its slot. The status of the dead instance stays as
it was until its run is over, so that two instances run where one may, and the job that fails fast
is not cancelled by the failure. -/
theorem parallelism_exceeded_by_death : ∃ s lane, Reachable .fifo false s ∧
    (lanes s "1")[0]? = some lane ∧ lane.job.maxParallel = some 1 ∧ lane.job.failFast = true ∧
    lane.tasks.countP (fun t => t.status = .running) = 2 ∧
    lane.tasks.map (fun t => (t.status, t.finalStatus)) =
      [(.running, .failed), (.running, .running)] := by
  have hplay : (((Session.empty .fifo false).play ([.start (sharded true (some 1)), .launch "1"] ++
      turns 0 6 ++ [.advance "1" 0 0 .death] ++ turns 1 4)).bind fun s =>
        (lanes s "1")[0]?.map fun lane => (lane.job.maxParallel, lane.job.failFast,
          lane.tasks.countP (fun t => t.status = .running),
          lane.tasks.map (fun t => (t.status, t.finalStatus)))) =
      some (some 1, true, 2, [(.running, .failed), (.running, .running)]) := by
    decide +kernel
  obtain ⟨s, hs, hplay⟩ := Option.bind_eq_some_iff.mp hplay
  obtain ⟨lane, hlane, hplay⟩ := Option.map_eq_some_iff.mp hplay
  simp only [Prod.mk.injEq] at hplay
  exact ⟨s, lane, Reachable.empty.play hs, hlane, hplay⟩

end Session

end Pipeline
