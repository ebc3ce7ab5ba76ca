import Mathlib.Logic.Relation
import Pipeline.Proofs.Session.Slots

/-! What a move does to the call of a run: the call comes in, goes on to another phase, is cancelled
on request, or ends; a move about another run leaves it as it is. -/

namespace Pipeline

/-- The call has nothing left to do but to end. -/
def Phase.Ends : Phase → Prop
  | .finished _ | .leaving => True
  | _ => False

namespace Session

variable {s s' : Session} {m : Move} {run : RunId} {call : Call}

/-- A move takes a call in flight to a phase. -/
inductive Advances (s : Session) (call : Call) : Move → Phase → Prop where
  | promote (waits : call.phase = .queued) (message : s.message? call = some .start) :
      Advances s call (.promote call.info.id) .granted
  | displace {newer : RunId} (waits : call.phase = .queued)
      (message : s.message? call = some (.superseded newer)) :
      Advances s call (.displace call.info.id) .refused
  | withdraw (waits : call.phase = .queued) (cancelled : s.isCancelled call = true) :
      Advances s call (.withdraw call.info.id) .refused
  | abandon (refused : call.phase = .refused) :
      Advances s call (.abandon call.info.id) (.finished (cancelledOutcome call.info call.key))
  | launch (granted : call.phase = .granted) :
      Advances s call (.launch call.info.id) (.dispatched (lanesOf call.info s.hasHost))
  | forward {lanes : List Lane} {place : Nat} {lane : Lane}
      (dispatched : call.phase = .dispatched lanes) (cancelled : s.isCancelled call = true)
      (found : lanes[place]? = some lane) :
      Advances s call (.forward call.info.id place)
        (.dispatched (lanes.set place { lane with cancelled := true }))
  | advance {lanes : List Lane} {place index : Nat} {lane lane' : Lane} {answer : Answer}
      {entries : List Entry} (dispatched : call.phase = .dispatched lanes)
      (found : lanes[place]? = some lane)
      (turn : lane.advance call.info.id index answer = some (lane', entries)) :
      Advances s call (.advance call.info.id place index answer)
        (.dispatched (lanes.set place lane'))
  | collect {lanes : List Lane} (dispatched : call.phase = .dispatched lanes)
      (complete : lanes.all (·.isOver) = true) :
      Advances s call (.collect call.info.id)
        (.finished (outcomeOf call.info call.key lanes))
  | drop (early : ¬call.phase.Ends) : Advances s call (.drop call.info.id) .leaving

/-- What has become of the call of a run after a move. -/
inductive Goes (s s' : Session) (run : RunId) : Move → Prop where
  | stay {m : Move} (same : s'.call? run = s.call? run) : Goes s s' run m
  | start {info : RunInfo} {call : Call} (is_run : info.id = run) (before : s.call? run = none)
      (unknown : s.knows run = false) (after : s'.call? run = some call)
      (phase : call.phase = .queued ∨ call.phase = .granted) : Goes s s' run (.start info)
  | advance {m : Move} {call : Call} {phase : Phase} (before : s.call? run = some call)
      (step : Advances s call m phase) (after : s'.call? run = some { call with phase := phase }) :
      Goes s s' run m
  | cancel {call : Call} (before : s.call? run = some call)
      (after : s'.call? run = some { call with cancelled := true }) : Goes s s' run (.cancel run)
  | close {call : Call} (outcome : Option RunOutcome) (before : s.call? run = some call)
      (ends : call.phase.Ends) (after : s'.call? run = none) (ended : (run, outcome) ∈ s'.ended) :
      Goes s s' run (.close run)

/-! ### Finding calls -/

theorem id_of_call? (h : s.call? run = some call) : call.info.id = run := by
  have hid := List.find?_some h
  exact beq_iff_eq.mp hid

@[simp] theorem call?_tell (s : Session) (other : RunId) (event : RunEvent) :
    (s.tell other event).call? run = s.call? run := rfl

@[simp] theorem call?_release (s : Session) (call : Call) :
    (s.release call).call? run = s.call? run := by
  unfold call?
  rw [release_calls]

@[simp] theorem dropTicket_calls (s : Session) (call : Call) :
    (s.dropTicket call).calls = s.calls := by
  unfold dropTicket
  split <;> rfl

@[simp] theorem call?_dropTicket (s : Session) (call : Call) :
    (s.dropTicket call).call? run = s.call? run := by
  unfold call?
  rw [dropTicket_calls]

theorem call?_setCall (s : Session) (other : RunId) (change : Call → Call)
    (hkeeps : ∀ call, (change call).info = call.info) (run : RunId) :
    (s.setCall other change).call? run =
      if run = other then (s.call? run).map change else s.call? run := by
  have hfind : (s.setCall other change).call? run = (s.call? run).map fun call =>
      if call.info.id = other then change call else call := by
    unfold call? setCall
    rw [List.find?_map]
    congr 2
    funext call
    show ((if call.info.id = other then change call else call).info.id == run) = _
    split
    · rw [hkeeps]
    · rfl
  rw [hfind]
  cases hcall : s.call? run with
  | none => split <;> rfl
  | some call =>
    rw [← id_of_call? hcall, Option.map_some]
    split <;> rfl

theorem call?_setPhase (s : Session) (other : RunId) (phase : Phase) :
    (s.setPhase other phase).call? run =
      if run = other then (s.call? run).map fun call => { call with phase := phase }
      else s.call? run :=
  call?_setCall s other (fun call => { call with phase := phase }) (fun _ => rfl) run

theorem call?_close (s : Session) (call : Call) (outcome : Option RunOutcome) :
    (s.close call outcome).call? run = if run = call.info.id then none else s.call? run := by
  have hcalls : (s.close call outcome).calls = s.calls.filter (·.info.id != call.info.id) := by
    rw [← release_calls s call]
    rfl
  unfold call?
  rw [hcalls, List.find?_filter]
  split
  · next hrun =>
    subst hrun
    rw [List.find?_eq_none]
    intro c _
    simp
  · next hrun =>
    congr 1
    funext c
    by_cases hc : c.info.id = run
    · rw [hc]
      simp [hrun]
    · simp [hc]

theorem call?_append {added : Call} (run : RunId) (h : s'.calls = s.calls ++ [added]) :
    s'.call? run = (s.call? run).or (if added.info.id = run then some added else none) := by
  unfold call?
  rw [h, List.find?_append, List.find?_singleton]
  simp only [beq_iff_eq]

theorem call?_of_unknown (h : s.knows run = false) : s.call? run = none := by
  rw [knows, Bool.or_eq_false_iff] at h
  exact List.find?_eq_none.mpr fun c hc => List.any_eq_false.mp h.1 c hc

/-! ### Moves -/

/-- A call that goes on to a phase, in a session whose calls are those of `s`. -/
theorem Goes.of_setPhase {t : Session} {phase : Phase} (hcall : s.call? call.info.id = some call)
    (ht : ∀ run, t.call? run = s.call? run) (step : Advances s call m phase) :
    Goes s (t.setPhase call.info.id phase) run m := by
  by_cases hrun : run = call.info.id
  · subst hrun
    refine .advance hcall step ?_
    rw [call?_setPhase, if_pos rfl, ht, hcall]
    rfl
  · refine .stay ?_
    rw [call?_setPhase, if_neg hrun, ht]

theorem goes_close (hcall : s.call? call.info.id = some call) (ends : call.phase.Ends)
    (outcome : Option RunOutcome) :
    Goes s (s.close call outcome) run (.close call.info.id) := by
  by_cases hrun : run = call.info.id
  · subst hrun
    refine .close outcome hcall ends ?_ ?_
    · rw [call?_close, if_pos rfl]
    · exact List.mem_append_right _ (List.mem_singleton_self _)
  · refine .stay ?_
    rw [call?_close, if_neg hrun]

theorem goes_applyTo (hcall : s.call? call.info.id = some call) (hrun : m.run = call.info.id)
    (hm : s.applyTo call m = some s') : Goes s s' run m := by
  cases m with
  | start info => simp [applyTo] at hm
  | promote r =>
    obtain rfl : r = call.info.id := hrun
    cases hphase : call.phase <;> simp only [applyTo, hphase, reduceCtorEq] at hm
    split at hm
    · next hmessage =>
      cases hm
      exact .of_setPhase hcall (fun _ => rfl) (.promote hphase hmessage)
    · cases hm
  | displace r =>
    obtain rfl : r = call.info.id := hrun
    cases hphase : call.phase <;> simp only [applyTo, hphase, reduceCtorEq] at hm
    split at hm
    · next newer hmessage =>
      cases hm
      exact .of_setPhase hcall (fun _ => rfl) (.displace hphase hmessage)
    · cases hm
  | withdraw r =>
    obtain rfl : r = call.info.id := hrun
    cases hphase : call.phase <;> simp only [applyTo, hphase, reduceCtorEq] at hm
    split at hm
    · next hcancelled =>
      cases hm
      exact .of_setPhase hcall (fun _ => call?_dropTicket s call) (.withdraw hphase hcancelled)
    · cases hm
  | abandon r =>
    obtain rfl : r = call.info.id := hrun
    cases hphase : call.phase <;> simp only [applyTo, hphase, reduceCtorEq] at hm
    cases hm
    exact .of_setPhase hcall (fun _ => call?_release s call) (.abandon hphase)
  | launch r =>
    obtain rfl : r = call.info.id := hrun
    cases hphase : call.phase <;> simp only [applyTo, hphase, reduceCtorEq] at hm
    cases hm
    exact .of_setPhase hcall (fun _ => rfl) (.launch hphase)
  | forward r place =>
    obtain rfl : r = call.info.id := hrun
    cases hphase : call.phase <;> simp only [applyTo, hphase, reduceCtorEq] at hm
    split at hm
    · next hcancelled =>
      obtain ⟨lane, hlane, rfl⟩ := Option.map_eq_some_iff.mp hm
      exact .of_setPhase hcall (fun _ => rfl) (.forward hphase hcancelled hlane)
    · cases hm
  | advance r place index answer =>
    obtain rfl : r = call.info.id := hrun
    cases hphase : call.phase <;> simp only [applyTo, hphase, reduceCtorEq] at hm
    split at hm
    · cases hm
    · next lane hlane =>
      split at hm
      · cases hm
      · next lane' entries hturn =>
        cases hm
        exact .of_setPhase hcall (fun _ => rfl) (.advance hphase hlane hturn)
  | collect r =>
    obtain rfl : r = call.info.id := hrun
    cases hphase : call.phase <;> simp only [applyTo, hphase, reduceCtorEq] at hm
    split at hm
    · next hover =>
      cases hm
      exact .of_setPhase hcall (fun _ => call?_release s call) (.collect hphase hover)
    · cases hm
  | close r =>
    obtain rfl : r = call.info.id := hrun
    cases hphase : call.phase <;> simp only [applyTo, hphase, reduceCtorEq] at hm
    · cases hm
      exact goes_close hcall (by rw [hphase]; trivial) _
    · cases hm
      exact goes_close hcall (by rw [hphase]; trivial) _
  | cancel r =>
    obtain rfl : r = call.info.id := hrun
    simp only [applyTo] at hm
    split at hm
    · cases hm
      have hcalls := call?_setCall s call.info.id (fun call => { call with cancelled := true })
        (fun _ => rfl) run
      by_cases hrun : run = call.info.id
      · subst hrun
        rw [if_pos rfl, hcall] at hcalls
        exact .cancel hcall hcalls
      · rw [if_neg hrun] at hcalls
        exact .stay hcalls
    · cases hm
  | drop r =>
    obtain rfl : r = call.info.id := hrun
    cases hphase : call.phase <;> simp only [applyTo, hphase, reduceCtorEq] at hm
    all_goals
      cases hm
      refine .of_setPhase hcall (fun _ => call?_dropTicket s call) (.drop ?_)
      rw [hphase]
      exact id

theorem goes_start {info : RunInfo} (hm : s.handle info = some s') :
    Goes s s' run (.start info) := by
  unfold handle at hm
  split at hm
  · cases hm
  · next hknows =>
    rw [Bool.not_eq_true] at hknows
    have hadd {t : Session} (call : Call) (hcalls : t.calls = s.calls ++ [call])
        (hinfo : call.info = info) (hphase : call.phase = .queued ∨ call.phase = .granted) :
        Goes s t run (.start info) := by
      have hcall := call?_append run hcalls
      rw [hinfo] at hcall
      by_cases hrun : info.id = run
      · subst hrun
        have hnone := call?_of_unknown hknows
        rw [hnone, Option.none_or, if_pos rfl] at hcall
        exact .start rfl hnone hknows hcall hphase
      · rw [if_neg hrun, Option.or_none] at hcall
        exact .stay hcall
    split at hm
    · cases hm
      exact hadd ⟨info, none, none, false, .granted⟩ rfl rfl (.inr rfl)
    · next key _ _ =>
      cases hm
      unfold ask
      generalize (s.register info.id).admission.enter key info.id info.cancelsActive = answer
      obtain ⟨decision, admission⟩ := answer
      cases decision with
      | start | cancelAndStart =>
        exact hadd ⟨info, some key, some s.admission.next, false, .granted⟩ rfl rfl (.inr rfl)
      | queue =>
        exact hadd ⟨info, some key, some s.admission.next, false, .queued⟩ rfl rfl (.inl rfl)
    · cases hm

/-- Every move but the first of a run is one of its call in flight. -/
theorem exists_call_of_apply (hm : s.apply m = some s') (hstart : ∀ info, m ≠ .start info) :
    ∃ call, s.call? call.info.id = some call ∧ m.run = call.info.id ∧
      s.applyTo call m = some s' := by
  unfold apply at hm
  split at hm
  · next info => exact absurd rfl (hstart info)
  · split at hm
    · cases hm
    · next call hcall =>
      have hid := id_of_call? hcall
      exact ⟨call, hid ▸ hcall, hid.symm, hm⟩

/-- Whatever is done, the call of every run goes on as a call can. -/
theorem goes (hm : s.apply m = some s') (run : RunId) : Goes s s' run m := by
  by_cases hstart : ∃ info, m = .start info
  · obtain ⟨info, rfl⟩ := hstart
    exact goes_start hm
  · obtain ⟨call, hcall, hrun, hm⟩ :=
      exists_call_of_apply hm fun info hinfo => hstart ⟨info, hinfo⟩
    exact goes_applyTo hcall hrun hm

/-! ### What is kept -/

/-- What is over stays over, and who was told to stop stays told. -/
structure Keeps (s s' : Session) : Prop where
  ended : s.ended ⊆ s'.ended
  cancelled : s.admission.cancelled ⊆ s'.admission.cancelled

namespace Keeps

theorem refl (s : Session) : Keeps s s :=
  ⟨List.Subset.refl _, List.Subset.refl _⟩

theorem trans {t : Session} (h : Keeps s t) (h' : Keeps t s') : Keeps s s' :=
  ⟨List.Subset.trans h.ended h'.ended, List.Subset.trans h.cancelled h'.cancelled⟩

theorem congr {t : Session} (h : Keeps s t) (hended : s'.ended = t.ended)
    (hadmission : s'.admission = t.admission) : Keeps s s' :=
  ⟨hended ▸ h.ended, hadmission ▸ h.cancelled⟩

theorem release (s : Session) (call : Call) : Keeps s (s.release call) := by
  unfold Session.release
  split
  · exact refl s
  · exact ⟨List.Subset.refl _, (Admission.effect_release _ _ _).cancelled_subset⟩

theorem dropTicket (s : Session) (call : Call) : Keeps s (s.dropTicket call) := by
  unfold Session.dropTicket
  split
  · exact refl s
  · next number _ =>
    exact ⟨List.Subset.refl _, (Admission.effect s.admission (.drop number)).cancelled_subset⟩

theorem close (s : Session) (call : Call) (outcome : Option RunOutcome) :
    Keeps s (s.close call outcome) := by
  refine (release s call).trans ⟨?_, List.Subset.refl _⟩
  exact List.subset_append_left _ _

theorem handle {info : RunInfo} (hm : s.handle info = some s') : Keeps s s' := by
  unfold Session.handle at hm
  split at hm
  · cases hm
  · split at hm
    · cases hm
      exact ⟨List.Subset.refl _, List.Subset.refl _⟩
    · next key _ _ =>
      cases hm
      have e := Admission.effect_enter s.admission key info.id info.cancelsActive
      rcases henter : s.admission.enter key info.id info.cancelsActive with ⟨decision, admission⟩
      have hask : (s.register info.id).admission.enter key info.id info.cancelsActive =
          (decision, admission) := henter
      rw [henter] at e
      unfold ask
      rw [hask]
      cases decision <;> exact ⟨List.Subset.refl _, e.cancelled_subset⟩
    · cases hm

theorem applyTo (hm : s.applyTo call m = some s') : Keeps s s' := by
  simp only [Session.applyTo] at hm
  split at hm
  · -- promote
    split at hm <;> cases hm
    exact (refl s).congr rfl rfl
  · -- displace
    split at hm <;> cases hm
    exact (refl s).congr rfl rfl
  · -- withdraw
    split at hm <;> cases hm
    exact (dropTicket s call).congr rfl rfl
  · -- abandon
    cases hm
    exact (release s call).congr rfl rfl
  · -- launch
    cases hm
    exact (refl s).congr rfl rfl
  · -- forward
    split at hm
    · obtain ⟨lane, -, rfl⟩ := Option.map_eq_some_iff.mp hm
      exact (refl s).congr rfl rfl
    · cases hm
  · -- advance
    split at hm
    · cases hm
    · split at hm <;> cases hm
      exact (refl s).congr rfl rfl
  · -- collect
    split at hm <;> cases hm
    exact (release s call).congr rfl rfl
  · -- close, with an outcome
    cases hm
    exact close s call _
  · -- close, given up on the way
    cases hm
    exact close s call _
  · -- cancel
    split at hm <;> cases hm
    exact (refl s).congr rfl rfl
  · cases hm
  · cases hm
  · -- drop
    cases hm
    exact (dropTicket s call).congr rfl rfl
  · cases hm

theorem apply (hm : s.apply m = some s') : Keeps s s' := by
  unfold Session.apply at hm
  split at hm
  · exact handle hm
  · split at hm
    · cases hm
    · exact applyTo hm

end Keeps

/-- The run is beyond the point at which it sends out its instances. -/
def IsPast (s : Session) (run : RunId) : Prop :=
  match s.call? run with
  | some call => call.phase ≠ .queued ∧ call.phase ≠ .granted ∧ call.phase ≠ .refused
  | none => ∃ outcome, (run, outcome) ∈ s.ended

/-- A run sends out its instances once. -/
theorem IsPast.apply (h : s.IsPast run) (hm : s.apply m = some s') : s'.IsPast run := by
  unfold IsPast at h ⊢
  cases goes hm run with
  | stay same =>
    rw [same]
    split at h
    · exact h
    · obtain ⟨outcome, hmem⟩ := h
      exact ⟨outcome, (Keeps.apply hm).ended hmem⟩
  | start _ before unknown =>
    rw [before] at h
    obtain ⟨outcome, hmem⟩ := h
    rw [knows, Bool.or_eq_false_iff] at unknown
    exact absurd (beq_iff_eq.mpr rfl) (List.any_eq_false.mp unknown.2 _ hmem)
  | advance before step after =>
    rw [before] at h
    rw [after]
    obtain ⟨hqueued, hgranted, hrefused⟩ := h
    cases step with
    | promote waits | displace waits | withdraw waits => exact absurd waits hqueued
    | abandon refused => exact absurd refused hrefused
    | launch granted => exact absurd granted hgranted
    | forward | advance | collect | drop =>
      exact ⟨Phase.noConfusion, Phase.noConfusion, Phase.noConfusion⟩
  | cancel before after =>
    rw [before] at h
    rw [after]
    exact h
  | close outcome _ _ after ended =>
    rw [after]
    exact ⟨outcome, ended⟩

/-- The run has been cancelled, on request or by a newer one. -/
def runCancelled (s : Session) (run : RunId) : Bool :=
  (s.call? run).any s.isCancelled

/-- A cancelled run stays cancelled while its call is in flight. -/
theorem runCancelled_apply {call' : Call} (h : s.runCancelled run = true)
    (hm : s.apply m = some s') (hcall : s'.call? run = some call') :
    s'.runCancelled run = true := by
  obtain ⟨call, hbefore, hcancelled⟩ := (Option.any_eq_true _ _).mp h
  have hmono {c : Call} (hc : call.cancelled = true → c.cancelled = true)
      (hn : c.number = call.number) : s'.isCancelled c = true := by
    rw [isCancelled, Bool.or_eq_true] at hcancelled ⊢
    refine hcancelled.imp hc fun hnumber => ?_
    obtain ⟨n, hsome, hmem⟩ := (Option.any_eq_true _ _).mp hnumber
    rw [List.contains_iff_mem] at hmem
    refine (Option.any_eq_true _ _).mpr ⟨n, hn.trans hsome, ?_⟩
    exact List.contains_iff_mem.mpr ((Keeps.apply hm).cancelled hmem)
  refine (Option.any_eq_true _ _).mpr ⟨call', hcall, ?_⟩
  cases goes hm run with
  | stay same =>
    rw [same, hbefore] at hcall
    cases hcall
    exact hmono id rfl
  | start _ before =>
    rw [before] at hbefore
    cases hbefore
  | advance before _ after =>
    rw [before] at hbefore
    rw [after] at hcall
    cases hbefore
    cases hcall
    exact hmono id rfl
  | cancel before after =>
    rw [before] at hbefore
    rw [after] at hcall
    cases hbefore
    cases hcall
    exact hmono (fun _ => rfl) rfl
  | close _ _ _ after =>
    rw [after] at hcall
    cases hcall

end Session

end Pipeline
