import Pipeline.Proofs.Session.Accounts

/-! No concurrency group is lost to a run that is over. A session keeps an invariant under every
move, whatever the order of the moves: every group belongs to a call in flight that has yet to give
it up, and the runs that can be cancelled on request are those of the calls in flight. -/

namespace Pipeline.Session

variable {s s' : Session} {call : Call} {policy : QueuePolicy} {hasHost : Bool}

/-- The sessions that moves can lead to. -/
inductive Reachable (policy : QueuePolicy) (hasHost : Bool) : Session → Prop where
  | empty : Reachable policy hasHost (Session.empty policy hasHost)
  | move {s s' : Session} (m : Move) : Reachable policy hasHost s → s.apply m = some s' →
      Reachable policy hasHost s'

/-- The calls of a session differ by their runs, and are those that can be cancelled on request and
are not over. -/
structure Tidy (s : Session) : Prop where
  unique : ∀ c ∈ s.calls, ∀ other ∈ s.calls, other.info.id = c.info.id → other = c
  registered : s.registered = s.calls.map (·.info.id)
  apart : ∀ c ∈ s.calls, ∀ outcome, (c.info.id, outcome) ∉ s.ended

/-- The session after moves one after another, if they can be made. -/
def play (s : Session) (moves : List Move) : Option Session :=
  moves.foldlM apply s

theorem play_cons {m : Move} {moves : List Move} (hm : s.play (m :: moves) = some s') :
    ∃ next, s.apply m = some next ∧ next.play moves = some s' := by
  rw [play, List.foldlM_cons] at hm
  exact Option.bind_eq_some_iff.mp hm

theorem Reachable.play {moves : List Move} (h : Reachable policy hasHost s)
    (hm : s.play moves = some s') : Reachable policy hasHost s' := by
  induction moves generalizing s with
  | nil =>
    cases hm
    exact h
  | cons m moves ih =>
    obtain ⟨next, hnext, hrest⟩ := play_cons hm
    exact ih (h.move m hnext) hrest

/-- What is true of a session however it has come about. -/
structure Sound (s : Session) : Prop where
  wellFormed : s.admission.WellFormed
  accounted : Accounted s.admission s.calls
  tidy : Tidy s

/-! ### Giving up a group -/

@[simp] theorem release_calls (s : Session) (call : Call) : (s.release call).calls = s.calls := by
  unfold release
  split <;> rfl

@[simp] theorem release_registered (s : Session) (call : Call) :
    (s.release call).registered = s.registered := by
  unfold release
  split <;> rfl

@[simp] theorem release_ended (s : Session) (call : Call) : (s.release call).ended = s.ended := by
  unfold release
  split <;> rfl

/-- What is left of a session, apart from a call, when the call gives up its group. -/
theorem Sound.release (h : Sound s) (hmem : call ∈ s.calls) (hphase : call.phase ≠ .queued) :
    (s.release call).admission.WellFormed ∧
      Accounted (s.release call).admission (s.calls.filter (·.info.id != call.info.id)) := by
  have hunique := h.tidy.unique call hmem
  unfold Session.release
  split
  · next hkey => exact ⟨h.wellFormed, h.accounted.without_key hunique hkey⟩
  · next key hkey =>
    exact ⟨(Admission.effect_release _ _ _).wellFormed h.wellFormed,
      h.accounted.release h.wellFormed hunique hkey hphase⟩

/-! ### The calls -/

namespace Tidy

theorem release (h : Tidy s) (call : Call) : Tidy (s.release call) where
  unique := by rw [release_calls]; exact h.unique
  registered := by rw [release_calls, release_registered]; exact h.registered
  apart := by rw [release_calls, release_ended]; exact h.apart

theorem setCall (h : Tidy s) (run : RunId) {change : Call → Call}
    (hkeeps : ∀ call, (change call).info = call.info) : Tidy (s.setCall run change) := by
  have hid (c : Call) : (if c.info.id = run then change c else c).info.id = c.info.id := by
    split
    · rw [hkeeps]
    · rfl
  refine ⟨?_, ?_, ?_⟩
  · intro c hc other hother heq
    obtain ⟨c, hmem, rfl⟩ := List.mem_map.mp hc
    obtain ⟨other, hmem', rfl⟩ := List.mem_map.mp hother
    rw [hid, hid] at heq
    rw [h.unique c hmem other hmem' heq]
  · show s.registered = _
    rw [h.registered, Session.setCall, List.map_map]
    exact List.map_congr_left fun c _ => (hid c).symm
  · intro c hc outcome
    obtain ⟨c, hmem, rfl⟩ := List.mem_map.mp hc
    rw [hid]
    exact h.apart c hmem outcome

theorem close (h : Tidy s) (call : Call) (outcome : Option RunOutcome) :
    Tidy (s.close call outcome) := by
  have hcalls : (s.close call outcome).calls = s.calls.filter (·.info.id != call.info.id) := by
    rw [← release_calls s call]
    rfl
  refine ⟨?_, ?_, ?_⟩
  · intro c hc other hother
    rw [hcalls] at hc hother
    exact h.unique c (List.mem_filter.mp hc).1 other (List.mem_filter.mp hother).1
  · show (s.release call).registered.filter (· != call.info.id) = _
    rw [release_registered, h.registered, hcalls, List.filter_map]
    rfl
  · intro c hc outcome'
    rw [hcalls, List.mem_filter, bne_iff_ne] at hc
    show _ ∉ (s.release call).ended ++ [(call.info.id, outcome)]
    rw [release_ended, List.mem_append, List.mem_singleton]
    rintro (hended | hnew)
    · exact h.apart c hc.1 outcome' hended
    · exact hc.2 (congrArg Prod.fst hnew)

/-- The call of a run that is neither in flight nor over is one more call. -/
theorem add (h : Tidy s) (call : Call) (hknows : s.knows call.info.id = false)
    (admission : Admission) :
    Tidy { s.register call.info.id with
      admission := admission
      calls := s.calls ++ [call] } := by
  rw [knows, Bool.or_eq_false_iff, List.any_eq_false, List.any_eq_false] at hknows
  have hcalls (c : Call) (hc : c ∈ s.calls) : c.info.id ≠ call.info.id :=
    fun heq => hknows.1 c hc (beq_iff_eq.mpr heq)
  refine ⟨?_, ?_, ?_⟩
  · intro c hc other hother heq
    rcases List.mem_append.mp hc with hc | hc
    · rcases List.mem_append.mp hother with hother | hother
      · exact h.unique c hc other hother heq
      · rw [List.mem_singleton.mp hother] at heq
        exact absurd heq.symm (hcalls c hc)
    · rcases List.mem_append.mp hother with hother | hother
      · rw [List.mem_singleton.mp hc] at heq
        exact absurd heq (hcalls other hother)
      · rw [List.mem_singleton.mp hc, List.mem_singleton.mp hother]
  · show s.registered ++ [call.info.id] = _
    rw [h.registered, List.map_append]
    rfl
  · intro c hc outcome hended
    rcases List.mem_append.mp hc with hc | hc
    · exact h.apart c hc outcome hended
    · rw [List.mem_singleton.mp hc] at hended
      exact hknows.2 _ hended (beq_iff_eq.mpr rfl)

end Tidy

/-! ### Moves -/

namespace Sound

theorem empty (policy : QueuePolicy) (hasHost : Bool) : Sound (Session.empty policy hasHost) where
  wellFormed := Admission.wellFormed_empty policy
  accounted := Accounted.empty policy
  tidy := {
    unique := fun _ h => by cases h
    registered := rfl
    apart := fun _ h => by cases h }

theorem record (h : Sound s) (entries : List Entry) : Sound (s.record entries) :=
  ⟨h.wellFormed, h.accounted, h.tidy.unique, h.tidy.registered, h.tidy.apart⟩

/-- A call goes on, and stays queued as long as it waits. -/
theorem setPhase (h : Sound s) (hmem : call ∈ s.calls) {phase : Phase} (hover : ¬phase.Over)
    (hqueued : call.phase = .queued → ∀ n, call.number = some n →
      s.admission.ticket? n ≠ some .waiting) :
    Sound (s.setPhase call.info.id phase) := by
  refine ⟨h.wellFormed, ?_, h.tidy.setCall _ fun _ => rfl⟩
  refine h.accounted.setCall _ _ (fun c key w hmade => ⟨hmade.run, hmade.key, hmade.number⟩)
    (fun _ _ _ _ => hover) ?_
  intro c hc hid hphase n hnumber hticket
  obtain rfl := h.tidy.unique call hmem c hc hid
  exact absurd hticket (hqueued hphase n hnumber)

/-- A call that is not queued goes on. -/
theorem goOn (h : Sound s) (hmem : call ∈ s.calls) (hphase : call.phase ≠ .queued) {phase : Phase}
    (hover : ¬phase.Over) : Sound (s.setPhase call.info.id phase) :=
  h.setPhase hmem hover fun hqueued => absurd hqueued hphase

/-- The run of a call is cancelled on request. -/
theorem cancel (h : Sound s) (run : RunId) :
    Sound (s.setCall run fun call => { call with cancelled := true }) := by
  refine ⟨h.wellFormed, ?_, h.tidy.setCall _ fun _ => rfl⟩
  exact h.accounted.setCall _ _ (fun c key w hmade => ⟨hmade.run, hmade.key, hmade.number⟩)
    (fun _ _ _ hover => hover) fun _ _ _ hphase _ _ _ => hphase

theorem dropTicket (h : Sound s) (call : Call) : Sound (s.dropTicket call) := by
  unfold Session.dropTicket
  split
  · exact h
  · next number _ =>
    exact ⟨(Admission.effect s.admission (.drop number)).wellFormed h.wellFormed,
      h.accounted.dropTicket number, h.tidy.unique, h.tidy.registered, h.tidy.apart⟩

/-- A call hears no message any more, and goes on. -/
theorem hangUp (h : Sound s) (hmem : call ∈ s.calls) {phase : Phase} (hover : ¬phase.Over) :
    Sound ((s.dropTicket call).setPhase call.info.id phase) := by
  have hcalls : (s.dropTicket call).calls = s.calls := by
    unfold Session.dropTicket
    split <;> rfl
  refine (h.dropTicket call).setPhase (hcalls ▸ hmem) hover fun _ n hnumber => ?_
  rw [Session.dropTicket, hnumber]
  show (s.admission.dropTicket n).ticket? n ≠ some .waiting
  rw [Admission.ticket?_dropTicket, if_pos rfl]
  intro hticket
  obtain ⟨_, -, heq⟩ := Option.map_eq_some_iff.mp hticket
  cases heq

/-- A call gives up its group and has its outcome. -/
theorem finish (h : Sound s) (hmem : call ∈ s.calls) (hphase : call.phase ≠ .queued)
    (outcome : RunOutcome) : Sound ((s.release call).finish call outcome) := by
  obtain ⟨hwell, haccounted⟩ := h.release hmem hphase
  obtain ⟨hunique, hregistered, hapart⟩ := h.tidy.release call
  have htidy : Tidy ((s.release call).tell call.info.id
      (.completed outcome.workflow outcome.status)) := ⟨hunique, hregistered, hapart⟩
  refine ⟨hwell, haccounted.mono fun c hc => ?_, htidy.setCall _ fun _ => rfl⟩
  rw [List.mem_filter, bne_iff_ne] at hc
  refine List.mem_map.mpr ⟨c, ?_, if_neg hc.2⟩
  show c ∈ (s.release call).calls
  rw [release_calls]
  exact hc.1

/-- A call ends, and gives up its group if it still has one. -/
theorem close (h : Sound s) (hmem : call ∈ s.calls) (hphase : call.phase ≠ .queued)
    (outcome : Option RunOutcome) : Sound (s.close call outcome) := by
  obtain ⟨hwell, haccounted⟩ := h.release hmem hphase
  have hcalls : (s.close call outcome).calls = s.calls.filter (·.info.id != call.info.id) := by
    rw [← release_calls s call]
    rfl
  exact ⟨hwell, hcalls ▸ haccounted, h.tidy.close call outcome⟩

/-- A run asks for the group of a key, and is queued if it is told to wait. -/
theorem ask (h : Sound s) {info : RunInfo} (hknows : s.knows info.id = false) (key : String) :
    Sound ((s.register info.id).ask info key) := by
  have e := Admission.effect_enter s.admission key info.id info.cancelsActive
  have hadd (phase : Phase) (hover : ¬phase.Over)
      (hqueued : (s.admission.enter key info.id info.cancelsActive).1 = .queue →
        phase = .queued) :
      Sound { s.register info.id with
        admission := (s.admission.enter key info.id info.cancelsActive).2
        calls := s.calls ++ [⟨info, some key, some s.admission.next, false, phase⟩] } :=
    ⟨e.wellFormed h.wellFormed, h.accounted.enter h.wellFormed info key _ phase hover hqueued,
      h.tidy.add ⟨info, some key, some s.admission.next, false, phase⟩ hknows _⟩
  rcases henter : s.admission.enter key info.id info.cancelsActive with ⟨decision, admission⟩
  rw [henter] at hadd
  have hask : (s.register info.id).admission.enter key info.id info.cancelsActive =
      (decision, admission) := henter
  rw [Session.ask, hask]
  cases decision with
  | start => exact hadd .granted id Decision.noConfusion
  | cancelAndStart previous => exact (hadd .granted id Decision.noConfusion).record _
  | queue => exact (hadd .queued id fun _ => rfl).record _

/-- An event is handled. -/
theorem handle (h : Sound s) {info : RunInfo} (hm : s.handle info = some s') : Sound s' := by
  unfold Session.handle at hm
  split at hm
  · cases hm
  · next hknows =>
    rw [Bool.not_eq_true] at hknows
    split at hm
    · cases hm
      refine ⟨h.wellFormed, h.accounted.mono (List.subset_append_left _ _), ?_⟩
      exact h.tidy.add ⟨info, none, none, false, .granted⟩ hknows s.admission
    · cases hm
      exact h.ask hknows _
    · cases hm

/-- A message says that the ticket of a call is not waiting any more. -/
theorem ticket?_of_message? {promotion : Promotion} (hmessage : s.message? call = some promotion)
    {n : Nat} (hnumber : call.number = some n) : s.admission.ticket? n ≠ some .waiting := by
  intro hticket
  rw [message?, hnumber, Option.bind_some, hticket] at hmessage
  cases hmessage

/-- A call in flight makes a move. -/
theorem applyTo (h : Sound s) (hmem : call ∈ s.calls) {m : Move}
    (hm : s.applyTo call m = some s') : Sound s' := by
  simp only [Session.applyTo] at hm
  split at hm
  · -- promote
    split at hm
    · next hmessage =>
      cases hm
      exact h.setPhase hmem id fun _ _ => ticket?_of_message? hmessage
    · cases hm
  · -- displace
    split at hm
    · next hmessage =>
      cases hm
      exact h.setPhase hmem id fun _ _ => ticket?_of_message? hmessage
    · cases hm
  · -- withdraw
    split at hm
    · cases hm
      exact h.hangUp hmem id
    · cases hm
  · -- abandon
    next hphase =>
    cases hm
    exact h.finish hmem (by rw [hphase]; exact Phase.noConfusion) _
  · -- launch
    next hphase =>
    cases hm
    exact (h.record _).goOn hmem (by rw [hphase]; exact Phase.noConfusion) id
  · -- forward
    next hphase =>
    split at hm
    · obtain ⟨lane, -, rfl⟩ := Option.map_eq_some_iff.mp hm
      exact h.goOn hmem (by rw [hphase]; exact Phase.noConfusion) id
    · cases hm
  · -- advance
    next hphase =>
    split at hm
    · cases hm
    · split at hm
      · cases hm
      · cases hm
        exact (h.record _).goOn hmem (by rw [hphase]; exact Phase.noConfusion) id
  · -- collect
    next hphase =>
    split at hm
    · cases hm
      exact h.finish hmem (by rw [hphase]; exact Phase.noConfusion) _
    · cases hm
  · -- close, with an outcome
    next hphase =>
    cases hm
    exact h.close hmem (by rw [hphase]; exact Phase.noConfusion) _
  · -- close, given up on the way
    next hphase =>
    cases hm
    exact h.close hmem (by rw [hphase]; exact Phase.noConfusion) _
  · -- cancel
    split at hm
    · cases hm
      exact h.cancel _
    · cases hm
  · cases hm
  · cases hm
  · -- drop
    cases hm
    exact h.hangUp hmem id
  · cases hm

/-- Every move keeps a session sound. -/
theorem apply (h : Sound s) {m : Move} (hm : s.apply m = some s') : Sound s' := by
  unfold Session.apply at hm
  split at hm
  · exact h.handle hm
  · split at hm
    · cases hm
    · next call hfind => exact h.applyTo (List.mem_of_find?_eq_some hfind) hm

end Sound

theorem Reachable.sound (h : Reachable policy hasHost s) : Sound s := by
  induction h with
  | empty => exact Sound.empty policy hasHost
  | move m _ hm ih => exact ih.apply hm

/-- Whoever is active belongs to a call in flight that has yet to give up its group. -/
theorem Sound.call_of_active (h : Sound s) {key : String} {run : RunId}
    (hactive : s.admission.activeRun? key = some run) :
    ∃ call ∈ s.calls, call.info.id = run ∧ call.key = some key ∧ ¬call.phase.Over := by
  obtain ⟨w, hw, rfl⟩ := Option.map_eq_some_iff.mp hactive
  obtain ⟨call, hmem, hmade, hover⟩ := h.accounted.active key w hw
  exact ⟨call, hmem, hmade.run, hmade.key, hover⟩

/-- The end of a call leaves a group alone that another run is active in. -/
theorem active_close {key : String} {w : Admitted}
    (hactive : (s.admission.group key).active = some w) (hrun : w.run ≠ call.info.id)
    (outcome : Option RunOutcome) :
    ((s.close call outcome).admission.group key).active = some w := by
  show ((s.release call).admission.group key).active = some w
  unfold release
  split
  · exact hactive
  · next k _ =>
    show ((s.admission.release k call.info.id).group key).active = some w
    cases Admission.effect_release s.admission k call.info.id with
    | keep _ same => rw [same]; exact hactive
    | promote active _ _ _ groups | clear active _ groups =>
      have hk : key ≠ k := by
        rintro rfl
        rw [Admission.activeRun?, hactive] at active
        exact hrun (Option.some.inj active)
      rw [Admission.group_of_get? groups, if_neg hk]
      exact hactive

/-- The end of a call that has given up its group before gives up nothing. -/
theorem Sound.admission_close (h : Sound s) (hmem : call ∈ s.calls) (hover : call.phase.Over)
    (outcome : Option RunOutcome) : (s.close call outcome).admission = s.admission := by
  show (s.release call).admission = s.admission
  unfold Session.release
  split
  · rfl
  · next key _ =>
    have hidle : s.admission.activeRun? key ≠ some call.info.id := by
      intro hactive
      obtain ⟨other, hmem', hid, -, hphase⟩ := h.call_of_active hactive
      obtain rfl := h.tidy.unique call hmem other hmem' hid
      exact hphase hover
    show s.admission.release key call.info.id = s.admission
    cases Admission.effect_release s.admission key call.info.id with
    | keep _ same => exact same
    | promote active | clear active => exact absurd active hidle

/-- Where no call is in flight there is no group. -/
theorem Sound.groups_of_idle (h : Sound s) (hidle : s.calls = []) : s.admission.groups = [] := by
  refine Dict.eq_nil_of_get? fun key => ?_
  cases hg : s.admission.groups.get? key with
  | none => rfl
  | some g =>
    have hsome : (s.admission.activeRun? key).isSome := by
      rw [← h.wellFormed.isSome_get?_iff, hg]
      rfl
    obtain ⟨run, hactive⟩ := Option.isSome_iff_exists.mp hsome
    obtain ⟨call, hmem, -⟩ := h.call_of_active hactive
    rw [hidle] at hmem
    cases hmem

/-- However the moves of the calls follow each other: the call of an active run has yet to end; when
a call ends that has given up its group before, nothing becomes of any group, and no end of a call
takes a group from another run; and where no call is in flight, there are no groups and nothing can
be cancelled on request. -/
theorem slots_not_leaked (h : Reachable policy hasHost s) :
    (∀ key run, s.admission.activeRun? key = some run →
      (∃ call ∈ s.calls, call.info.id = run ∧ call.key = some key ∧ ¬call.phase.Over) ∧
      ∀ outcome, (run, outcome) ∉ s.ended) ∧
    (∀ call ∈ s.calls, ∀ outcome,
      (call.phase.Over → (s.close call outcome).admission = s.admission) ∧
      ∀ key w, (s.admission.group key).active = some w → w.run ≠ call.info.id →
        ((s.close call outcome).admission.group key).active = some w) ∧
    (s.calls = [] → s.admission.groupCount = 0 ∧ s.registered = []) := by
  have hsound := h.sound
  refine ⟨fun key run hactive => ?_, fun call hmem outcome => ⟨fun hover => ?_, ?_⟩,
    fun hidle => ⟨?_, ?_⟩⟩
  · obtain ⟨call, hmem, rfl, hcall⟩ := hsound.call_of_active hactive
    exact ⟨⟨call, hmem, rfl, hcall⟩, hsound.tidy.apart call hmem⟩
  · exact hsound.admission_close hmem hover outcome
  · exact fun key w hactive hrun => active_close hactive hrun outcome
  · rw [Admission.groupCount, hsound.groups_of_idle hidle]
    rfl
  · rw [hsound.tidy.registered, hidle]
    rfl

/-- A run of a workflow whose runs share one group. -/
def deployment (id : RunId) : RunInfo :=
  ⟨id, ⟨"CI", [.of "push"], some ⟨"deploy", false⟩, [], []⟩,
    ⟨"push", none, "main", none, none, none, none⟩, "/", [], .linux⟩

/-- A second run waits for its group, the call of the first one is given up and ends, and the second
run is active with its call in flight. -/
theorem slots_not_leaked_handover : ∃ s, Reachable .fifo false s ∧
    s.admission.activeRun? "deploy" = some "2" ∧
    (∃ call ∈ s.calls, call.info.id = "2" ∧ call.key = some "deploy" ∧ ¬call.phase.Over) ∧
    ∀ outcome, ("2", outcome) ∉ s.ended := by
  have hplay : (((Session.empty .fifo false).play [.start (deployment "1"), .start (deployment "2"),
      .drop "1", .close "1"]).bind fun s => s.admission.activeRun? "deploy") = some "2" := by
    decide +kernel
  obtain ⟨s, hs, hactive⟩ := Option.bind_eq_some_iff.mp hplay
  have h : Reachable .fifo false s := Reachable.empty.play hs
  exact ⟨s, h, hactive, (slots_not_leaked h).1 "deploy" "2" hactive⟩

end Pipeline.Session
