import Pipeline.Proofs.Session.Lanes

/-! Instances that never run. Once a job is cancelled, an instance that has not passed its start
check is dormant: whatever is done, it stays so, and nothing that it does is noticed. -/

namespace Pipeline

namespace Lane

variable {run : RunInfo} {hasHost : Bool} {answer : Answer} {lane lane' : Lane}
  {before after : List Task} {t t' : Task} {begun begun' : Bool} {entries : List Entry}
  {runId : RunId} {index other : Nat}

/-- The job is cancelled, and the instance of an index has not passed its start check. -/
structure Dormant (lane : Lane) (index : Nat) : Prop where
  cancelled : lane.cancelled = true
  idle : ∃ run hasHost t, lane.task? index = some t ∧
    Standing lane.job run hasHost False lane.cancelled false t

namespace Dormant

/-- A turn by which an instance of a cancelled job does not pass its start check. -/
theorem of_turn (hd : lane.Distinct) (htasks : lane.tasks = before ++ t :: after)
    (htasks' : lane'.tasks = before ++ t' :: after)
    (hturn : Turn run hasHost False answer lane lane' t t' begun begun' entries)
    (hcancelled : lane.cancelled = true) (hbegun : begun = false) :
    lane'.Dormant t.item.index := by
  have hstanding := hturn.standing
  rw [(hturn.idle hcancelled hbegun).1, ← hturn.job] at hstanding
  exact ⟨hturn.cancelled_of_cancelled hcancelled, run, hasHost, t',
    hd.task?_replaced htasks htasks' hturn.item, hstanding⟩

theorem forward (h : lane.Dormant index) : { lane with cancelled := true }.Dormant index := by
  obtain ⟨-, run, hasHost, t, ht, hstanding⟩ := h
  exact ⟨rfl, run, hasHost, t, ht, hstanding.mono fun _ => rfl⟩

/-- A dormant instance stays dormant, and nothing is heard of its own turns. -/
theorem advance (h : lane.Dormant index) (hs : lane.Sound run hasHost False)
    (hm : lane.advance runId other answer = some (lane', entries)) :
    lane'.Dormant index ∧ (other = index → entries = []) := by
  obtain ⟨hcancelled, run', hasHost', t, ht, hstanding⟩ := h
  by_cases hother : other = index
  · subst hother
    obtain ⟨before, after, t', begun', htasks, htasks', hturn⟩ :=
      hs.distinct.turn ht hstanding False.elim hm
    obtain ⟨-, rfl⟩ := mem_of_task? ht
    refine ⟨of_turn hs.distinct htasks htasks' hturn hcancelled rfl, fun _ => ?_⟩
    exact (hturn.idle hcancelled rfl).2
  · obtain ⟨u, hu⟩ := exists_task_of_advance hm
    obtain ⟨hmem, rfl⟩ := mem_of_task? hu
    obtain ⟨begun, hu'⟩ := hs.standing u hmem
    obtain ⟨before, after, u', begun', htasks, htasks', hturn⟩ :=
      hs.distinct.turn hu hu' False.elim hm
    refine ⟨⟨hturn.cancelled_of_cancelled hcancelled, run', hasHost', t, ?_, ?_⟩,
      fun heq => absurd heq hother⟩
    · rw [task?_of_replace htasks htasks' hturn.item hother, ht]
    · rw [hturn.job]
      exact hstanding.mono hturn.cancelled_of_cancelled

end Dormant

/-- A property of lanes that cancellation and turns keep. -/
structure Kept (P : Lane → Prop) : Prop where
  forward {lane : Lane} : P lane → P { lane with cancelled := true }
  turn {run : RunInfo} {hasHost : Bool} {lane lane' : Lane} {runId : RunId} {index : Nat}
    {answer : Answer} {entries : List Entry} : lane.Sound run hasHost False →
      lane.advance runId index answer = some (lane', entries) → P lane → P lane'

theorem kept_dormant (index : Nat) : Kept (·.Dormant index) where
  forward h := h.forward
  turn hs hm h := (h.advance hs hm).1

theorem kept_cancelled : Kept (·.cancelled = true) where
  forward _ := rfl
  turn hs hm h := by
    obtain ⟨t, ht⟩ := exists_task_of_advance hm
    obtain ⟨begun, hstanding⟩ := hs.standing t (mem_of_task? ht).1
    obtain ⟨_, _, _, _, -, -, hturn⟩ := hs.distinct.turn ht hstanding False.elim hm
    exact hturn.cancelled_of_cancelled h

end Lane

namespace Session

open Turns (lanes)

variable {policy : QueuePolicy} {hasHost : Bool} {s s' : Session} {m : Move} {run : RunId}
  {place index : Nat}

/-- The lane at a place has a property, or is gone for good. -/
def Lasts (s : Session) (run : RunId) (place : Nat) (P : Lane → Prop) : Prop :=
  (∃ lane, (lanes s run)[place]? = some lane ∧ P lane) ∨ s.IsPast run ∧ lanes s run = []

theorem Lasts.apply {P : Lane → Prop} (h : s.Lasts run place P) (hkept : Lane.Kept P)
    (hs : Orderly False s) (hm : s.apply m = some s') : s'.Lasts run place P := by
  obtain ⟨lane, hlane, hP⟩ | ⟨hpast, hnone⟩ := h
  · have hmem := List.mem_of_getElem? hlane
    have hpast := isPast_of_lanes (List.ne_nil_of_mem hmem)
    -- the lane itself is replaced, or another one
    have hset {other : Nat} {old new : Lane} (found : (lanes s run)[other]? = some old)
        (hnew : P old → P new) (after : lanes s' run = (lanes s run).set other new) :
        s'.Lasts run place P := by
      refine .inl ?_
      by_cases hother : other = place
      · subst hother
        rw [hlane] at found
        cases found
        refine ⟨new, ?_, hnew hP⟩
        rw [after, List.getElem?_set_self (List.getElem?_eq_some_iff.mp hlane).1]
      · refine ⟨lane, ?_, hP⟩
        rw [after, List.getElem?_set_ne hother, hlane]
    cases lanesGo hm run with
    | stay same => exact .inl ⟨lane, same ▸ hlane, hP⟩
    | clear after => exact .inr ⟨hpast.apply hm, after⟩
    | launch fresh => exact absurd hpast fresh
    | forward _ found after => exact hset found hkept.forward after
    | advance found turn after =>
      obtain ⟨_, _, hsound⟩ := hs.sound run _ (List.mem_of_getElem? found)
      exact hset found (hkept.turn hsound turn) after
  · refine .inr ⟨hpast.apply hm, ?_⟩
    cases lanesGo hm run with
    | stay same => rw [same, hnone]
    | clear after => exact after
    | launch fresh => exact absurd hpast fresh
    | forward _ found | advance found =>
      rw [hnone] at found
      cases found

theorem Lasts.play {P : Lane → Prop} {moves : List Move} (h : s.Lasts run place P)
    (hkept : Lane.Kept P) (hs : Reachable policy hasHost s) (hm : s.play moves = some s') :
    s'.Lasts run place P := by
  induction moves generalizing s with
  | nil =>
    cases hm
    exact h
  | cons m moves ih =>
    obtain ⟨next, hnext, hrest⟩ := play_cons hm
    exact ih (h.apply hkept hs.orderly hnext) (hs.move m hnext) hrest

/-- Whatever is done from now on, an instance does not run, and nothing is heard of its turns. -/
def NeverRuns (s : Session) (run : RunId) (place index : Nat) : Prop :=
  ∀ moves s', s.play moves = some s' →
    (∀ t, s'.task? run place index = some t → t.status ≠ .running) ∧
    ∀ answer s'', s'.apply (.advance run place index answer) = some s'' → s''.log = s'.log

/-- A dormant instance never runs. -/
theorem Lasts.neverRuns (h : s.Lasts run place (·.Dormant index))
    (hs : Reachable policy hasHost s) : s.NeverRuns run place index := by
  intro moves s' hm
  have hs' := (hs.play hm).orderly
  obtain ⟨lane, hlane, hdormant⟩ | ⟨-, hnone⟩ := h.play (Lane.kept_dormant index) hs hm
  · refine ⟨fun t ht hrunning => ?_, fun answer s'' hnext => ?_⟩
    · rw [task?, hlane, Option.bind_some] at ht
      obtain ⟨_, _, t', ht', hstanding⟩ := hdormant.idle
      rw [ht] at ht'
      cases ht'
      have hstatus := hstanding.status_of_idle
      rw [hrunning] at hstatus
      obtain hstatus | hstatus := hstatus <;> cases hstatus
    · obtain ⟨lane₁, lane', entries, hlane₁, hturn, -, hlog⟩ := apply_advance hnext
      rw [hlane] at hlane₁
      cases hlane₁
      obtain ⟨_, _, hsound⟩ := hs'.sound run lane (List.mem_of_getElem? hlane)
      rw [hlog, (hdormant.advance hsound hturn).2 rfl]
      rfl
  · refine ⟨fun t ht => ?_, fun answer s'' hnext => ?_⟩
    · rw [task?, hnone] at ht
      cases ht
    · obtain ⟨_, _, _, hlane, -⟩ := apply_advance hnext
      rw [hnone] at hlane
      cases hlane

/-- The turn of an instance, after which the instance is dormant if it was idle in a cancelled
job. -/
theorem Orderly.turn_of_apply {answer : Answer} (h : Orderly False s)
    (hm : s.apply (.advance run place index answer) = some s') :
    ∃ info hasHost lane lane' t t' begun begun' entries, (lanes s run)[place]? = some lane ∧
      (lanes s' run)[place]? = some lane' ∧ s.task? run place index = some t ∧
      s'.task? run place index = some t' ∧
      Turn info hasHost False answer lane lane' t t' begun begun' entries ∧
      (lane.cancelled = true → begun = false → lane'.Dormant index) := by
  obtain ⟨lane, lane', entries, hlane, hadvance, hlanes, -⟩ := apply_advance hm
  obtain ⟨info, hasHost, before, after, t, t', begun, begun', hs, ht, htasks, htasks', hturn⟩ :=
    h.exists_turn False.elim hlane hadvance
  obtain ⟨-, hindex⟩ := Lane.mem_of_task? ht
  have hlane' : (lanes s' run)[place]? = some lane' := by
    rw [hlanes, List.getElem?_set_self (List.getElem?_eq_some_iff.mp hlane).1]
  have ht' := hs.distinct.task?_replaced htasks htasks' hturn.item
  have hdormant := Lane.Dormant.of_turn hs.distinct htasks htasks' hturn
  rw [hindex] at ht' hdormant
  refine ⟨info, hasHost, lane, lane', t, t', begun, begun', entries, hlane, hlane', ?_, ?_, hturn,
    hdormant⟩
  · rw [task?, hlane, Option.bind_some, ht]
  · rw [task?, hlane', Option.bind_some, ht']

end Session

end Pipeline
