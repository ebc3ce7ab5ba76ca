import Pipeline.Proofs.Session.Lanes

/-! Why instances are cancelled. Cancellation comes from the run, or from a failed instance of the
same job if the job asks for that, provided that commands report a cancellation only in jobs that
are cancelled. -/

namespace Pipeline

/-- An instance other than that of an index has failed, in a job that cancels its instances then. -/
def Lane.FailedBeside (lane : Lane) (index : Nat) : Prop :=
  lane.job.failFast = true ∧
    ∃ other ∈ lane.tasks, other.item.index ≠ index ∧ other.status = .failed

namespace Session

open Turns (lanes)

variable {policy : QueuePolicy} {hasHost : Bool} {s s' : Session} {run : RunId} {lane : Lane}

/-- The sessions that moves can lead to while commands report a cancellation only in jobs that are
cancelled. -/
inductive Truthful (policy : QueuePolicy) (hasHost : Bool) : Session → Prop where
  | empty : Truthful policy hasHost (Session.empty policy hasHost)
  | move {s s' : Session} (m : Move) : Truthful policy hasHost s → s.Trusts m →
      s.apply m = some s' → Truthful policy hasHost s'

theorem Truthful.orderly (h : Truthful policy hasHost s) : Orderly True s := by
  induction h with
  | empty => exact Orderly.empty policy hasHost
  | move m _ hf hm ih => exact ih.apply (fun _ => hf) hm

theorem Truthful.play {moves : List Move} (h : Truthful policy hasHost s)
    (hf : ∀ m ∈ moves, ∀ s : Session, s.Trusts m) (hm : s.play moves = some s') :
    Truthful policy hasHost s' := by
  induction moves generalizing s with
  | nil =>
    cases hm
    exact h
  | cons m moves ih =>
    obtain ⟨next, hnext, hrest⟩ := play_cons hm
    have hnext' := h.move m (hf m List.mem_cons_self s) hnext
    exact ih hnext' (fun m' hm' => hf m' (List.mem_cons_of_mem _ hm')) hrest

/-- A job is cancelled because its run is, or because of a failure beside any instance that has not
failed. -/
theorem Orderly.cause_beside {trusted : Prop} {t : Task} (h : Orderly trusted s)
    (hlane : lane ∈ lanes s run) (hcancelled : lane.cancelled = true) (ht : t ∈ lane.tasks)
    (hstatus : t.status ≠ .failed) :
    s.runCancelled run = true ∨ lane.FailedBeside t.item.index := by
  refine (h.cause run lane hlane hcancelled).imp_right ?_
  rintro ⟨hfast, other, hother, hfailed⟩
  refine ⟨hfast, other, hother, fun hindex => hstatus ?_, hfailed⟩
  obtain ⟨_, _, hs⟩ := h.sound run lane hlane
  have hsame := Lane.task?_of_mem hs.distinct hother
  rw [hindex, Lane.task?_of_mem hs.distinct ht] at hsame
  rw [Option.some.inj hsame, hfailed]

/-- A turn that cancels an instance has a cause before it. -/
theorem Orderly.cause_of_move {m : Move} {place index : Nat} {t t' : Task} (h : Orderly True s)
    (hf : s.Trusts m) (hm : s.apply m = some s') (ht : s.task? run place index = some t)
    (ht' : s'.task? run place index = some t') (hbefore : t.status ≠ .cancelled)
    (hafter : t'.status = .cancelled) : s.runCancelled run = true ∨
      ∃ lane, (lanes s run)[place]? = some lane ∧ lane.FailedBeside index := by
  cases h.taskGoes (fun _ => hf) hm ht' with
  | stay same =>
    rw [ht] at same
    cases same
    exact absurd hafter hbefore
  | launch before pending => cases pending.symm.trans hafter
  | @turn info hasHost lane lane' t₀ _ _ _ _ found here turn =>
    rw [ht] at here
    cases here
    rw [task?, found, Option.bind_some] at ht
    obtain ⟨hmem, rfl⟩ := Lane.mem_of_task? ht
    have hfailed : t.status ≠ .failed := by
      intro hfailed
      have hsame := turn.status_of_terminal (by rw [hfailed]; rfl)
      rw [hafter, hfailed] at hsame
      cases hsame
    -- the turn itself does not cancel the job, as the instance has not failed
    have hcancelled := turn.standing.blamed trivial hafter
    obtain hsame | ⟨-, -, hstatus⟩ := turn.cancelled
    · refine (h.cause_beside (List.mem_of_getElem? found) (hsame ▸ hcancelled) hmem
        hfailed).imp_right fun hbeside => ⟨lane, found, hbeside⟩
    · exact absurd hstatus hfailed

theorem Orderly.failedBeside {t : Task} (h : Orderly True s) (hlane : lane ∈ lanes s run)
    (hcalm : s.runCancelled run = false) (ht : t ∈ lane.tasks) (hstatus : t.status = .cancelled) :
    lane.FailedBeside t.item.index := by
  obtain ⟨_, _, hs⟩ := h.sound run lane hlane
  obtain ⟨_, hstanding⟩ := hs.standing t ht
  have hcancelled := hstanding.blamed trivial hstatus
  have hfailed : t.status ≠ .failed := by
    rw [hstatus]
    exact JobStatus.noConfusion
  obtain hrun | hbeside := h.cause_beside hlane hcancelled ht hfailed
  · rw [hcalm] at hrun
    cases hrun
  · exact hbeside

/-- Where commands report a cancellation only if there is one: an instance that is cancelled by a
move is so because its run was cancelled before, or because another instance of its job had failed
and the job asks for that. So in a run that is not cancelled no instance is seen cancelled, and none
ends so, without a failure beside it; the instances of a job that does not fail fast end with
success or failure, and a job without a failure has no cancelled instance. -/
theorem cancellation_caused (h : Truthful policy hasHost s) :
    (∀ m s' run place index t t', s.Trusts m → s.apply m = some s' →
      s.task? run place index = some t → s'.task? run place index = some t' →
      t.status ≠ .cancelled → t'.status = .cancelled → s.runCancelled run = true ∨
        ∃ lane, (lanes s run)[place]? = some lane ∧ lane.FailedBeside index) ∧
    ∀ run, ∀ lane ∈ lanes s run, s.runCancelled run = false →
      (∀ t ∈ lane.tasks, t.status = .cancelled → lane.FailedBeside t.item.index) ∧
      (lane.isOver = true →
        (∀ t ∈ lane.tasks, (lane.resultOf t).status = .cancelled →
          lane.FailedBeside t.item.index) ∧
        (lane.job.failFast = false → ∀ t ∈ lane.tasks,
          (lane.resultOf t).status = .succeeded ∨ (lane.resultOf t).status = .failed) ∧
        ((∀ t ∈ lane.tasks, (lane.resultOf t).status ≠ .failed) → ∀ t ∈ lane.tasks,
          (lane.resultOf t).status ≠ .cancelled)) := by
  refine ⟨fun m s' run place index t t' hf hm ht ht' => h.orderly.cause_of_move hf hm ht ht',
    fun run lane hlane hcalm =>
      ⟨fun t ht => h.orderly.failedBeside hlane hcalm ht, fun hover => ?_⟩⟩
  have hbeside (t : Task) (ht : t ∈ lane.tasks)
      (hstatus : (lane.resultOf t).status = .cancelled) : lane.FailedBeside t.item.index := by
    obtain ⟨-, hfailed⟩ | ⟨-, hsame, -⟩ := h.orderly.result_of_isOver hlane hover ht
    · cases hfailed.symm.trans hstatus
    · exact h.orderly.failedBeside hlane hcalm ht (hsame ▸ hstatus)
  refine ⟨hbeside, fun hslow t ht => ?_, fun hnone t ht hstatus => ?_⟩
  · obtain ⟨-, hfailed⟩ | ⟨-, hsame, -, hterminal⟩ := h.orderly.result_of_isOver hlane hover ht
    · exact .inr hfailed
    · cases hstatus : (lane.resultOf t).status with
      | succeeded => exact .inl rfl
      | failed => exact .inr rfl
      | cancelled =>
        have hfast := (hbeside t ht hstatus).1
        rw [hslow] at hfast
        cases hfast
      | pending | running =>
        rw [← hsame, hstatus] at hterminal
        cases hterminal
  · obtain ⟨-, other, hother, -, hfailed⟩ := hbeside t ht hstatus
    obtain ⟨-, hfailed'⟩ | ⟨-, hsame, -⟩ := h.orderly.result_of_isOver hlane hover hother
    · exact hnone other hother hfailed'
    · exact hnone other hother (hsame.trans hfailed)

/-- An instance fails, and the other one is cancelled when it sees that. -/
theorem cancellation_caused_failFast : ∃ s s' t t' lane, Truthful .fifo false s ∧
    s.apply (.advance "1" 0 1 .go) = some s' ∧ s.task? "1" 0 1 = some t ∧
    s'.task? "1" 0 1 = some t' ∧ t.status = .pending ∧ t'.status = .cancelled ∧
    (lanes s "1")[0]? = some lane ∧ lane.FailedBeside 1 := by
  let moves : List Move := [.start (sharded true none), .launch "1"] ++ turns 0 4 ++
    [.advance "1" 0 0 (.resolved (.error (.io "gone")))] ++ turns 0 4 ++ turns 1 1
  have hplay : (((Session.empty .fifo false).play moves).bind fun s =>
      (s.apply (.advance "1" 0 1 .go)).bind fun s' => (s.task? "1" 0 1).bind fun t =>
        (s'.task? "1" 0 1).map fun t' => (t.status, t'.status, s.runCancelled "1")) =
      some (.pending, .cancelled, false) := by
    decide +kernel
  have hf : ∀ m ∈ moves, ∀ s : Session, s.Trusts m := by
    simp [moves, turns, or_imp, forall_and, Trusts, Answer.Faithful]
  obtain ⟨s, hs, hplay⟩ := Option.bind_eq_some_iff.mp hplay
  obtain ⟨s', hs', hplay⟩ := Option.bind_eq_some_iff.mp hplay
  obtain ⟨t, ht, hplay⟩ := Option.bind_eq_some_iff.mp hplay
  obtain ⟨t', ht', hplay⟩ := Option.map_eq_some_iff.mp hplay
  simp only [Prod.mk.injEq] at hplay
  obtain ⟨hbefore, hafter, hcalm⟩ := hplay
  have h : Truthful .fifo false s := Truthful.empty.play hf hs
  obtain hrun | ⟨lane, hlane, hbeside⟩ :=
    (cancellation_caused h).1 (.advance "1" 0 1 .go) s' "1" 0 1 t t' (fun _ _ => trivial) hs' ht ht'
      (by rw [hbefore]; exact JobStatus.noConfusion) hafter
  · rw [hcalm] at hrun
    cases hrun
  · exact ⟨s, s', t, t', lane, h, hs', ht, ht', hbefore, hafter, hlane, hbeside⟩

end Session

end Pipeline
