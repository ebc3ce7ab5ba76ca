import Pipeline.Proofs.Admission.Exclusion
import Pipeline.Session.Moves

/-! The calls that the admissions to the concurrency groups belong to. Whoever is active belongs to
a call that has yet to give up its group, and whoever waits with a ticket belongs to a call that has
yet to hear its message. -/

namespace Pipeline

open Admission

variable {a : Admission} {calls : List Call} {call : Call} {key : String} {w : Admitted}

/-- The call has its outcome, and with it has given up its group. -/
def Phase.Over : Phase → Prop
  | .finished _ => True
  | _ => False

/-- The call has asked for the group of the key and got the admission `w`. -/
structure Call.Made (call : Call) (key : String) (w : Admitted) : Prop where
  run : call.info.id = w.run
  key : call.key = some key
  number : call.number = some w.number

/-- Every active and every waiting admission belongs to one of the calls. -/
structure Accounted (a : Admission) (calls : List Call) : Prop where
  active : ∀ key w, (a.group key).active = some w →
    ∃ call ∈ calls, call.Made key w ∧ ¬call.phase.Over
  waiting : ∀ key, ∀ w ∈ (a.group key).queue, a.ticket? w.number = some .waiting →
    ∃ call ∈ calls, call.Made key w ∧ call.phase = .queued

namespace Accounted

theorem empty (policy : QueuePolicy) : Accounted (Admission.empty policy) [] where
  active := fun _ _ h => by cases h
  waiting := fun _ _ h => by cases h

theorem mono {calls' : List Call} (h : Accounted a calls) (hsub : calls ⊆ calls') :
    Accounted a calls' where
  active := fun key w hw => by
    obtain ⟨call, hmem, hcall⟩ := h.active key w hw
    exact ⟨call, hsub hmem, hcall⟩
  waiting := fun key w hw hticket => by
    obtain ⟨call, hmem, hcall⟩ := h.waiting key w hw hticket
    exact ⟨call, hsub hmem, hcall⟩

/-- A change to the calls of a run that leaves them what they have, and queued while they wait. -/
theorem setCall (h : Accounted a calls) (run : RunId) (change : Call → Call)
    (hmade : ∀ call key w, call.Made key w → (change call).Made key w)
    (hover : ∀ call ∈ calls, call.info.id = run → ¬call.phase.Over → ¬(change call).phase.Over)
    (hqueued : ∀ call ∈ calls, call.info.id = run → call.phase = .queued →
      ∀ n, call.number = some n → a.ticket? n = some .waiting → (change call).phase = .queued) :
    Accounted a (calls.map fun call => if call.info.id = run then change call else call) where
  active := fun key w hw => by
    obtain ⟨call, hmem, hof, hphase⟩ := h.active key w hw
    refine ⟨_, List.mem_map_of_mem hmem, ?_⟩
    by_cases hrun : call.info.id = run
    · rw [if_pos hrun]
      exact ⟨hmade _ _ _ hof, hover call hmem hrun hphase⟩
    · rw [if_neg hrun]
      exact ⟨hof, hphase⟩
  waiting := fun key w hw hticket => by
    obtain ⟨call, hmem, hof, hphase⟩ := h.waiting key w hw hticket
    refine ⟨_, List.mem_map_of_mem hmem, ?_⟩
    by_cases hrun : call.info.id = run
    · rw [if_pos hrun]
      exact ⟨hmade _ _ _ hof, hqueued call hmem hrun hphase _ hof.number hticket⟩
    · rw [if_neg hrun]
      exact ⟨hof, hphase⟩

theorem dropTicket (h : Accounted a calls) (number : Nat) :
    Accounted (a.dropTicket number) calls where
  active := h.active
  waiting := fun key w hw hticket => by
    rw [ticket?_dropTicket] at hticket
    split at hticket
    · obtain ⟨_, -, heq⟩ := Option.map_eq_some_iff.mp hticket
      cases heq
    · exact h.waiting key w hw hticket

/-- A call asks for a group, and is queued if it is told to wait. -/
theorem enter (h : Accounted a calls) (hwell : a.WellFormed) (info : RunInfo) (key : String)
    (c : Bool) (phase : Phase) (hover : ¬phase.Over)
    (hqueued : (a.enter key info.id c).1 = .queue → phase = .queued) :
    Accounted (a.enter key info.id c).2
      (calls ++ [⟨info, some key, some a.next, false, phase⟩]) := by
  have e := effect_enter a key info.id c
  have hbefore := h.mono (List.subset_append_left calls
    [⟨info, some key, some a.next, false, phase⟩])
  have hnew : (⟨info, some key, some a.next, false, phase⟩ : Call) ∈
      calls ++ [⟨info, some key, some a.next, false, phase⟩] :=
    List.mem_append_right _ (List.mem_singleton_self _)
  refine ⟨fun k w hw => ?_, fun k w hw hticket => ?_⟩
  · rcases e.active hw with ⟨hactive, -⟩ | ⟨_, hact, hnext, -⟩ | ⟨hline, hheld, -⟩
    · exact hbefore.active k w hactive
    · obtain ⟨rfl, hrun, -⟩ := Act.enter.inj hact
      exact ⟨_, hnew, ⟨hrun, rfl, congrArg some hnext⟩, hover⟩
    · obtain ⟨call, hmem, hof, hphase⟩ := hbefore.waiting k w hline hheld
      exact ⟨call, hmem, hof, by rw [hphase]; exact id⟩
  · rcases e.mem_queue hw with hline | ⟨run, hact, hanswer, rfl⟩
    · rcases e.ticket_of_stay hwell hline hw with hsame | ⟨hact, -⟩
      · exact hbefore.waiting k w hline (hsame ▸ hticket)
      · cases hact
    · cases hact
      exact ⟨_, hnew, ⟨rfl, rfl, rfl⟩, hqueued hanswer⟩

/-- A call without a group accounts for nobody. -/
theorem without_key (h : Accounted a calls)
    (hunique : ∀ other ∈ calls, other.info.id = call.info.id → other = call)
    (hkey : call.key = none) :
    Accounted a (calls.filter (·.info.id != call.info.id)) := by
  have hother {other : Call} (hmem : other ∈ calls) {key : String} {w : Admitted}
      (hof : other.Made key w) : other ∈ calls.filter (·.info.id != call.info.id) := by
    rw [List.mem_filter, bne_iff_ne]
    refine ⟨hmem, fun hid => ?_⟩
    have hsome := hof.key
    rw [hunique other hmem hid, hkey] at hsome
    cases hsome
  refine ⟨fun key w hw => ?_, fun key w hw hticket => ?_⟩
  · obtain ⟨other, hmem, hof, hphase⟩ := h.active key w hw
    exact ⟨other, hother hmem hof, hof, hphase⟩
  · obtain ⟨other, hmem, hof, hphase⟩ := h.waiting key w hw hticket
    exact ⟨other, hother hmem hof, hof, hphase⟩

/-- A call that is not queued and gives up its group accounts for nobody any more. -/
theorem release (h : Accounted a calls) (hwell : a.WellFormed)
    (hunique : ∀ other ∈ calls, other.info.id = call.info.id → other = call)
    (hkey : call.key = some key) (hphase : call.phase ≠ .queued) :
    Accounted (a.release key call.info.id)
      (calls.filter (·.info.id != call.info.id)) := by
  have e := effect_release a key call.info.id
  have hwaiting {k : String} {w : Admitted} (hline : w ∈ (a.group k).queue)
      (hheld : a.ticket? w.number = some .waiting) :
      ∃ other ∈ calls.filter (·.info.id != call.info.id),
        other.Made k w ∧ other.phase = .queued := by
    obtain ⟨other, hmem, hof, hq⟩ := h.waiting k w hline hheld
    refine ⟨other, ?_, hof, hq⟩
    rw [List.mem_filter, bne_iff_ne]
    refine ⟨hmem, fun hid => hphase ?_⟩
    rw [← hunique other hmem hid, hq]
  refine ⟨fun k w hw => ?_, fun k w hw hticket => ?_⟩
  · rcases e.active hw with ⟨hactive, hrel⟩ | ⟨_, hact, -⟩ | ⟨hline, hheld, -⟩
    · obtain ⟨other, hmem, hof, hover⟩ := h.active k w hactive
      refine ⟨other, ?_, hof, hover⟩
      rw [List.mem_filter, bne_iff_ne]
      refine ⟨hmem, fun hid => hrel ?_⟩
      have hk := hof.key
      rw [hunique other hmem hid, hkey] at hk
      cases hk
      rw [← hof.run, hid]
    · cases hact
    · obtain ⟨other, hmem, hof, hq⟩ := hwaiting hline hheld
      exact ⟨other, hmem, hof, by rw [hq]; exact id⟩
  · rcases e.mem_queue hw with hline | ⟨_, hact, -⟩
    · rcases e.ticket_of_stay hwell hline hw with hsame | ⟨hact, -⟩
      · exact hwaiting hline (hsame ▸ hticket)
      · cases hact
    · cases hact

end Accounted

end Pipeline
