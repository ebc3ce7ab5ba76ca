import Pipeline.Proofs.Admission.Effect

/-! Facts about groups and tickets that every use of the groups keeps: a group in the map has an
active run, those who wait stand in the order of their arrival and have heard nothing, and nobody
waits twice. -/

namespace Pipeline

theorem QueuePolicy.staying_sublist {α : Type} (policy : QueuePolicy) (queue : List α) :
    (policy.staying queue).Sublist queue := by
  cases policy
  · exact List.Sublist.refl _
  · exact List.nil_sublist _

/-- Whoever is displaced does not stay. -/
theorem QueuePolicy.not_mem_staying {α : Type} {policy : QueuePolicy} {queue : List α} {x y : α}
    (hx : x ∈ policy.displaced queue) : y ∉ policy.staying queue := by
  cases policy
  · exact absurd hx List.not_mem_nil
  · exact List.not_mem_nil

theorem QueuePolicy.mem_of_displaced {α : Type} {policy : QueuePolicy} {queue : List α} {x : α}
    (hx : x ∈ policy.displaced queue) : x ∈ queue := by
  cases policy
  · exact absurd hx List.not_mem_nil
  · exact hx

/-- Whoever does not stay is displaced. -/
theorem QueuePolicy.mem_displaced {α : Type} {policy : QueuePolicy} {queue : List α} {x : α}
    (hx : x ∈ queue) (hout : x ∉ policy.staying queue) : x ∈ policy.displaced queue := by
  cases policy
  · exact absurd hx hout
  · exact hx

namespace Admission

variable {a a' : Admission} {act : Act}

/-- What is true of groups and tickets however the groups have been used. -/
structure WellFormed (a : Admission) : Prop where
  active : ∀ key g, a.groups.get? key = some g → g.active ≠ none
  sorted : ∀ key, (a.group key).queue.Pairwise fun v w => v.number < w.number
  unheard : ∀ key, ∀ w ∈ (a.group key).queue,
    a.ticket? w.number = some .waiting ∨ a.ticket? w.number = some .dropped
  separate : ∀ key other, ∀ v ∈ (a.group key).queue, ∀ w ∈ (a.group other).queue,
    v.number = w.number → key = other
  issued : ∀ n t, a.ticket? n = some t → n < a.next

theorem wellFormed_empty (policy : QueuePolicy) : WellFormed (empty policy) where
  active := fun _ _ h => by cases h
  sorted := fun _ => List.Pairwise.nil
  unheard := fun _ _ h => by cases h
  separate := fun _ _ _ h => by cases h
  issued := fun _ _ h => by cases h

/-- Whoever waits was admitted earlier. -/
theorem WellFormed.lt_next (h : WellFormed a) {key : String} {w : Admitted}
    (hw : w ∈ (a.group key).queue) : w.number < a.next := by
  rcases h.unheard key w hw with ht | ht <;> exact h.issued _ _ ht

/-- Nobody waits for a group that nobody is active in. -/
theorem WellFormed.queue_nil (h : WellFormed a) {key : String}
    (hidle : (a.group key).active = none) : (a.group key).queue = [] := by
  cases hg : a.groups.get? key with
  | none => simp [group, hg]
  | some g =>
    have hgroup : a.group key = g := by simp [group, hg]
    exact absurd (hgroup ▸ hidle) (h.active key g hg)

/-- Nobody stands in line twice. -/
theorem WellFormed.nodup (h : WellFormed a) (key : String) : (a.group key).queue.Nodup := by
  refine (h.sorted key).imp ?_
  rintro v w hlt rfl
  exact Nat.lt_irrefl _ hlt

/-- Two who wait for one group with one number are the same. -/
theorem WellFormed.eq_of_number_eq (h : WellFormed a) {key other : String} {v w : Admitted}
    (hv : v ∈ (a.group key).queue) (hw : w ∈ (a.group other).queue) (heq : v.number = w.number) :
    v = w := by
  obtain rfl := h.separate key other v hv w hw heq
  exact List.Pairwise.forall_of_forall_of_flip (R := fun v w => v.number = w.number → v = w)
    (fun _ _ _ => rfl) ((h.sorted key).imp fun hlt heq => by omega)
    ((h.sorted key).imp fun hlt heq => by omega) hv hw heq

/-- A use leaves some of those who waited in line, and at most the run that asks comes behind
them. -/
theorem Effect.queue (e : Effect a a' act) (k : String) :
    ((a'.group k).queue.Sublist (a.group k).queue) ∨
      ∃ run, act = .enter k run false ∧ (a.enter k run false).1 = .queue ∧
        (a'.group k).queue = a.policy.staying (a.group k).queue ++ [⟨run, a.next⟩] := by
  by_cases hk : act.key? = some k
  · cases e with
    | start _ _ groups =>
      cases hk
      refine .inl ?_
      rw [group_of_get? groups, if_pos rfl]
      exact List.Sublist.refl _
    | preempt _ _ groups =>
      cases hk
      refine .inl ?_
      rw [group_of_get? groups, if_pos rfl]
      exact List.nil_sublist _
    | @wait _ run _ _ answer groups =>
      cases hk
      exact .inr ⟨run, rfl, answer, by rw [group_of_get? groups, if_pos rfl]; rfl⟩
    | keep _ same => exact .inl (same ▸ List.Sublist.refl _)
    | @promote _ _ w skipped rest _ queue _ _ groups =>
      cases hk
      refine .inl ?_
      rw [group_of_get? groups, if_pos rfl, queue]
      exact (List.sublist_cons_self w rest).trans (List.sublist_append_right skipped _)
    | clear _ _ groups =>
      cases hk
      refine .inl ?_
      rw [group_of_get? groups, if_pos rfl]
      exact List.nil_sublist _
    | drop => cases hk
  · exact .inl (e.group_eq hk ▸ List.Sublist.refl _)

/-- Whoever waits after a use waited before it, or is the run that has just asked. -/
theorem Effect.mem_queue (e : Effect a a' act) {k : String} {w : Admitted}
    (hw : w ∈ (a'.group k).queue) :
    w ∈ (a.group k).queue ∨ ∃ run, act = .enter k run false ∧
      (a.enter k run false).1 = .queue ∧ w = ⟨run, a.next⟩ := by
  rcases e.queue k with hsub | ⟨run, hact, hanswer, hqueue⟩
  · exact .inl (hsub.subset hw)
  · rw [hqueue, List.mem_append, List.mem_singleton] at hw
    rcases hw with hw | hw
    · exact .inl ((a.policy.staying_sublist _).subset hw)
    · exact .inr ⟨run, hact, hanswer, hw⟩

/-- A use changes nothing about the ticket of somebody who goes on waiting, unless it drops it. -/
theorem Effect.ticket_of_stay (e : Effect a a' act) (h : WellFormed a) {k : String} {w : Admitted}
    (hbefore : w ∈ (a.group k).queue) (hafter : w ∈ (a'.group k).queue) :
    a'.ticket? w.number = a.ticket? w.number ∨
      act = .drop w.number ∧ a'.ticket? w.number = some .dropped := by
  have hne : w.number ≠ a.next := Nat.ne_of_lt (h.lt_next hbefore)
  cases e with
  | start _ _ _ tickets => exact .inl (tickets _)
  | @preempt key _ _ _ _ groups tickets =>
    refine .inl ?_
    rw [tickets, if_neg]
    rintro ⟨⟨v, hv, heq⟩, -⟩
    obtain rfl := h.separate key k v hv w hbefore heq
    rw [group_of_get? groups, if_pos rfl] at hafter
    cases hafter
  | @wait key run _ _ _ groups tickets =>
    refine .inl ?_
    rw [tickets, if_neg, if_neg hne, Option.or_none]
    rintro ⟨⟨v, hv, heq⟩, -⟩
    have hv' := QueuePolicy.mem_of_displaced hv
    obtain rfl := h.separate key k v hv' w hbefore heq
    obtain rfl := h.eq_of_number_eq hv' hbefore heq
    rw [group_of_get? groups, if_pos rfl] at hafter
    simp only [Option.getD_some, List.mem_append, List.mem_singleton] at hafter
    rcases hafter with hstay | rfl
    · exact QueuePolicy.not_mem_staying hv hstay
    · exact hne rfl
  | keep _ same => exact .inl (by rw [same])
  | @promote key _ u skipped rest _ queue _ _ groups tickets =>
    refine .inl ?_
    rw [tickets, if_neg]
    intro heq
    have hu : u ∈ (a.group key).queue := by rw [queue]; simp
    obtain rfl := h.separate key k u hu w hbefore heq.symm
    obtain rfl := h.eq_of_number_eq hu hbefore heq.symm
    rw [group_of_get? groups, if_pos rfl] at hafter
    have hsorted := h.sorted key
    rw [queue, List.pairwise_append] at hsorted
    exact Nat.lt_irrefl _ ((List.pairwise_cons.mp hsorted.2.1).1 u hafter)
  | clear _ _ _ tickets => exact .inl (tickets _)
  | @drop number _ tickets =>
    by_cases hn : w.number = number
    · subst hn
      obtain ⟨t, ht⟩ : ∃ t, a.ticket? w.number = some t := by
        rcases h.unheard k w hbefore with ht | ht <;> exact ⟨_, ht⟩
      exact .inr ⟨rfl, by rw [tickets, if_pos rfl, ht]; rfl⟩
    · exact .inl (by rw [tickets, if_neg hn])

/-- The run that gets in line has a ticket of its own. -/
theorem Effect.ticket_of_wait (e : Effect a a' act) (h : WellFormed a) {key : String} {run : RunId}
    (hact : act = .enter key run false) {w : Admitted} (hw : w ∈ (a'.group key).queue)
    (hnew : w.number = a.next) : a'.ticket? w.number = some .waiting := by
  have hnone : a.ticket? a.next = none := by
    cases ht : a.ticket? a.next with
    | none => rfl
    | some t => exact absurd (h.issued _ t ht) (Nat.lt_irrefl _)
  cases e with
  | start idle _ groups =>
    cases hact
    rw [group_of_get? groups, if_pos rfl] at hw
    exact absurd (h.lt_next hw) (by omega)
  | preempt => cases hact
  | wait _ _ _ tickets =>
    rw [hnew, tickets, hnone, if_neg (fun hold => by cases hold.2), if_pos rfl]
    rfl
  | keep | promote | clear | drop => cases hact

theorem Effect.active_of_get? (e : Effect a a' act) (h : WellFormed a) {k : String} {g : Group}
    (hg : a'.groups.get? k = some g) : g.active ≠ none := by
  cases e with
  | start _ _ groups | preempt _ _ groups | wait _ _ groups | promote _ _ _ _ groups =>
    rw [groups] at hg
    split at hg
    · cases hg
      exact Option.some_ne_none _
    · exact h.active k g hg
  | keep _ same => exact h.active k g (same ▸ hg)
  | clear _ _ groups =>
    rw [groups] at hg
    split at hg
    · cases hg
    · exact h.active k g hg
  | drop groups => exact h.active k g (groups k ▸ hg)

theorem Effect.issued (e : Effect a a' act) (h : WellFormed a) {n : Nat} {t : Ticket}
    (ht : a'.ticket? n = some t) : n < a'.next := by
  cases e with
  | start _ _ _ tickets _ next =>
    rw [tickets] at ht
    have := h.issued n t ht
    omega
  | preempt _ _ _ tickets _ next =>
    rw [tickets] at ht
    split at ht
    · next htold => have := h.issued n _ htold.2; omega
    · have := h.issued n t ht; omega
  | wait _ _ _ tickets _ next =>
    rw [tickets] at ht
    split at ht
    · next htold => have := h.issued n _ htold.2; omega
    · by_cases hn : n = a.next
      · omega
      · rw [if_neg hn, Option.or_none] at ht
        have := h.issued n t ht
        omega
  | keep _ same => exact h.issued n t (same ▸ ht) |> (same ▸ ·)
  | promote _ _ held _ _ tickets _ next =>
    rw [tickets] at ht
    split at ht
    · next hn => have := h.issued _ _ held; omega
    · have := h.issued n t ht; omega
  | clear _ _ _ tickets _ next =>
    rw [tickets] at ht
    have := h.issued n t ht
    omega
  | drop _ tickets _ next =>
    rw [tickets] at ht
    split at ht
    · obtain ⟨t', ht', -⟩ := Option.map_eq_some_iff.mp ht
      have := h.issued n t' ht'
      omega
    · have := h.issued n t ht
      omega

/-- Every use of the groups keeps them well formed. -/
theorem Effect.wellFormed (e : Effect a a' act) (h : WellFormed a) : WellFormed a' where
  active := fun _ _ hg => e.active_of_get? h hg
  sorted := fun key => by
    rcases e.queue key with hsub | ⟨run, -, -, hqueue⟩
    · exact (h.sorted key).sublist hsub
    · have hstay := a.policy.staying_sublist (a.group key).queue
      rw [hqueue, List.pairwise_append]
      refine ⟨(h.sorted key).sublist hstay, List.pairwise_singleton _ _, fun v hv w hw => ?_⟩
      rw [List.mem_singleton] at hw
      rw [hw]
      exact h.lt_next (hstay.subset hv)
  unheard := fun key w hw => by
    rcases e.mem_queue hw with hbefore | ⟨run, hact, -, rfl⟩
    · rcases e.ticket_of_stay h hbefore hw with hsame | ⟨-, hdrop⟩
      · rw [hsame]
        exact h.unheard key w hbefore
      · exact .inr hdrop
    · exact .inl (e.ticket_of_wait h hact hw rfl)
  separate := fun key other v hv w hw heq => by
    rcases e.mem_queue hv with hv | ⟨run, hact, -, rfl⟩
    · rcases e.mem_queue hw with hw | ⟨_, _, -, rfl⟩
      · exact h.separate key other v hv w hw heq
      · exact absurd (h.lt_next hv) (by rw [heq]; exact Nat.lt_irrefl _)
    · rcases e.mem_queue hw with hw | ⟨_, hact', -, rfl⟩
      · exact absurd (h.lt_next hw) (by rw [← heq]; exact Nat.lt_irrefl _)
      · rw [hact] at hact'
        cases hact'
        rfl
  issued := fun _ _ ht => e.issued h ht

end Admission

end Pipeline
