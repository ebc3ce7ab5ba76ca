import Pipeline.Proofs.Admission.History

/-! Mutual exclusion in the concurrency groups. Whoever was told to start and has not given up its
group is the active one or was told to stop, whatever uses came in whatever order. -/

namespace Pipeline.Admission

variable {policy : QueuePolicy} {acts : List Act} {act : Act} {a a' : Admission} {key : String}
  {w : Admitted}

/-! ### One use -/

/-- Whoever is active after a use was active before, has just asked and been told to start, or was
waiting and has been promoted. -/
theorem Effect.active (e : Effect a a' act) (hactive : (a'.group key).active = some w) :
    ((a.group key).active = some w ∧ act ≠ .release key w.run) ∨
    (∃ c, act = .enter key w.run c ∧ a.next = w.number ∧
      (a.enter key w.run c).1 ≠ .queue) ∨
    (w ∈ (a.group key).queue ∧ a.ticket? w.number = some .waiting ∧
      a'.ticket? w.number = some (.told .start)) := by
  by_cases hk : act.key? = some key
  · cases e with
    | @start _ run c _ answer groups =>
      cases hk
      rw [group_of_get? groups, if_pos rfl] at hactive
      cases hactive
      exact .inr (.inl ⟨c, rfl, rfl, by rw [answer]; exact Decision.noConfusion⟩)
    | @preempt _ run _ _ answer groups =>
      cases hk
      rw [group_of_get? groups, if_pos rfl] at hactive
      cases hactive
      exact .inr (.inl ⟨true, rfl, rfl, by rw [answer]; exact Decision.noConfusion⟩)
    | wait active _ groups =>
      cases hk
      rw [group_of_get? groups, if_pos rfl] at hactive
      cases hactive
      exact .inl ⟨active, Act.noConfusion⟩
    | keep other same =>
      cases hk
      subst same
      refine .inl ⟨hactive, fun heq => other ?_⟩
      cases heq
      rw [activeRun?, hactive]
      rfl
    | promote _ queue held _ groups tickets =>
      cases hk
      rw [group_of_get? groups, if_pos rfl] at hactive
      cases hactive
      exact .inr (.inr ⟨by rw [queue]; simp, held, by rw [tickets, if_pos rfl]⟩)
    | clear _ _ groups =>
      cases hk
      rw [group_of_get? groups, if_pos rfl] at hactive
      cases hactive
    | drop => cases hk
  · rw [e.group_eq hk] at hactive
    exact .inl ⟨hactive, fun heq => hk (by rw [heq]; rfl)⟩

/-- Whoever is active stays so, unless it gives up its group or is told to stop. -/
theorem Effect.stays_active (e : Effect a a' act) (hactive : (a.group key).active = some w)
    (hrel : act ≠ .release key w.run) :
    (a'.group key).active = some w ∨ w.number ∈ a'.cancelled := by
  have hrun : a.activeRun? key = some w.run := by rw [activeRun?, hactive]; rfl
  by_cases hk : act.key? = some key
  · cases e with
    | start idle =>
      cases hk
      rw [hactive] at idle
      cases idle
    | preempt active _ _ _ cancelled =>
      cases hk
      rw [hactive] at active
      cases active
      exact .inr (cancelled ▸ List.mem_cons_self)
    | wait active _ groups =>
      cases hk
      rw [group_of_get? groups, if_pos rfl]
      exact .inl (active ▸ hactive)
    | keep _ same => exact .inl (same ▸ hactive)
    | promote active | clear active =>
      cases hk
      rw [hrun] at active
      cases active
      exact absurd rfl hrel
    | drop => cases hk
  · exact .inl (e.group_eq hk ▸ hactive)

/-- Nobody is told to go on after being told to stop. -/
theorem Effect.cancelled_subset (e : Effect a a' act) : a.cancelled ⊆ a'.cancelled := by
  cases e with
  | start _ _ _ _ cancelled | wait _ _ _ _ cancelled => exact cancelled ▸ List.Subset.refl _
  | preempt _ _ _ _ cancelled => exact cancelled ▸ List.subset_cons_self _ _
  | keep _ same => exact same ▸ List.Subset.refl _
  | promote _ _ _ _ _ _ cancelled | clear _ _ _ _ cancelled =>
    exact cancelled ▸ List.Subset.refl _
  | drop _ _ cancelled => exact cancelled ▸ List.Subset.refl _

/-- A run that asks and is not told to wait becomes the active one. -/
theorem Effect.active_of_enter {run : RunId} {c : Bool} (e : Effect a a' (.enter key run c))
    (hanswer : (a.enter key run c).1 ≠ .queue) :
    (a'.group key).active = some ⟨run, a.next⟩ := by
  cases e with
  | start _ _ groups | preempt _ _ groups => rw [group_of_get? groups, if_pos rfl]; rfl
  | wait _ answer => exact absurd answer hanswer

/-- An answer names a cancelled run exactly if the asker would cancel, and that run was active. -/
theorem enter_eq_cancelAndStart (a : Admission) (key : String) (run previous : RunId) (c : Bool) :
    (a.enter key run c).1 = .cancelAndStart previous ↔
      c = true ∧ a.activeRun? key = some previous := by
  unfold activeRun?
  cases effect_enter a key run c with
  | start idle answer =>
    rw [answer, idle]
    exact ⟨Decision.noConfusion, fun h => by cases h.2⟩
  | preempt active answer =>
    rw [answer, active]
    exact ⟨fun h => by cases h; exact ⟨rfl, rfl⟩, fun h => by cases h.2; rfl⟩
  | wait active answer =>
    rw [answer]
    exact ⟨Decision.noConfusion, fun h => by cases h.1⟩

/-- A group is in the map exactly if it has an active run. -/
theorem WellFormed.isSome_get?_iff (h : WellFormed a) (key : String) :
    (a.groups.get? key).isSome ↔ (a.activeRun? key).isSome := by
  cases hg : a.groups.get? key with
  | none => simp [activeRun?, group, hg]
  | some g =>
    have hactive := Option.isSome_iff_ne_none.mpr (h.active key g hg)
    simpa [activeRun?, group, hg] using hactive

/-! ### Histories -/

/-- What a history tells about the active runs and those who wait. -/
structure Exclusive (policy : QueuePolicy) (acts : List Act) : Prop where
  /-- Whoever is active was told to start and has not given up its group. -/
  held : ∀ key w, ((after policy acts).group key).active = some w → Running policy acts key w
  /-- Whoever runs is active or was told to stop. -/
  stopped : ∀ key w, Running policy acts key w →
    ((after policy acts).group key).active = some w ∨ w.number ∈ (after policy acts).cancelled
  /-- Whoever is in line was told to wait. -/
  waited : ∀ key, ∀ w ∈ ((after policy acts).group key).queue,
    ∃ later, Waited policy acts key w later

theorem exclusive_nil (policy : QueuePolicy) : Exclusive policy [] where
  held := fun _ _ h => by cases h
  stopped := fun _ _ h => by
    obtain ⟨before, use, later, hacts, -⟩ := h
    simp at hacts
  waited := fun _ _ h => by cases h

theorem Exclusive.running_of_active (h : Exclusive policy acts)
    (hactive : ((after policy (acts ++ [act])).group key).active = some w) :
    Running policy (acts ++ [act]) key w := by
  rw [after_concat] at hactive
  rcases (effect _ act).active hactive with ⟨hbefore, hrel⟩ | hasked | ⟨hqueue, hheld, htold⟩
  · exact (h.held key w hbefore).concat hrel
  · exact Starts.running (.inl hasked)
  · have hnew : (after policy acts).ticket? w.number ≠ some (.told .start) := by
      rw [hheld]
      exact fun heq => by cases heq
    exact Starts.running (.inr ⟨h.waited key w hqueue, sent_eq_some.mpr ⟨htold, hnew⟩⟩)

theorem Exclusive.active_of_starts (h : Exclusive policy acts)
    (hstart : Starts policy acts act key w) :
    ((after policy (acts ++ [act])).group key).active = some w := by
  rw [after_concat]
  rcases hstart with ⟨c, rfl, hnext, hanswer⟩ | ⟨⟨later, hwaited⟩, hsent⟩
  · have e := effect (after policy acts) (.enter key w.run c)
    rw [e.active_of_enter hanswer, hnext]
  · obtain ⟨htold, hnew⟩ := sent_eq_some.mp hsent
    obtain ⟨k, v, skipped, rest, hnumber, hqueue, hactive, -⟩ :=
      ((effect _ act).of_told htold hnew).2 rfl
    obtain ⟨later', hwaited'⟩ := h.waited k v (by rw [hqueue]; simp)
    obtain ⟨rfl, rfl⟩ := hwaited'.unique hwaited hnumber
    exact hactive

/-- One more use of the groups, whatever it is, keeps the runs apart. -/
theorem Exclusive.concat (h : Exclusive policy acts) (act : Act) :
    Exclusive policy (acts ++ [act]) where
  held := fun _ _ => h.running_of_active
  stopped := fun key w hrun => by
    have e := effect (after policy acts) act
    rcases running_concat hrun with hstart | ⟨hbefore, hrel⟩
    · exact .inl (h.active_of_starts hstart)
    · rw [after_concat]
      rcases h.stopped key w hbefore with hactive | hcancelled
      · exact e.stays_active hactive hrel
      · exact .inr (e.cancelled_subset hcancelled)
  waited := fun key w hw => by
    rw [after_concat] at hw
    rcases (effect _ act).mem_queue hw with hbefore | ⟨run, rfl, hanswer, rfl⟩
    · obtain ⟨later, hwaited⟩ := h.waited key w hbefore
      exact ⟨later ++ [act], hwaited.concat act⟩
    · exact ⟨[], acts, false, rfl, rfl, hanswer⟩

theorem exclusive (policy : QueuePolicy) (acts : List Act) : Exclusive policy acts := by
  induction acts using List.reverseRecOn with
  | nil => exact exclusive_nil policy
  | append_singleton acts act ih => exact ih.concat act

/-- After any uses of the groups: whoever runs and is not the active one was told to stop, whoever
is active runs, an answer that cancels names the run that was active just before, and a group is in
the map exactly if it has an active run, so that nobody waits for a group without one. -/
theorem mutual_exclusion (policy : QueuePolicy) (acts : List Act) :
    (∀ key w, Running policy acts key w →
      ((after policy acts).group key).active ≠ some w → w.number ∈ (after policy acts).cancelled) ∧
    (∀ key run, (after policy acts).activeRun? key = some run → ∃ number,
      ((after policy acts).group key).active = some ⟨run, number⟩ ∧
        Running policy acts key ⟨run, number⟩) ∧
    (∀ before key run c later previous, acts = before ++ .enter key run c :: later →
      (((after policy before).enter key run c).1 = .cancelAndStart previous ↔
        c = true ∧ (after policy before).activeRun? key = some previous)) ∧
    (∀ key, ((after policy acts).groups.get? key).isSome ↔
      ((after policy acts).activeRun? key).isSome) ∧
    (∀ key, (after policy acts).queued key ≠ 0 → ((after policy acts).activeRun? key).isSome) := by
  have h := exclusive policy acts
  have hwell := wellFormed_after policy acts
  refine ⟨fun key w hrun hother => (h.stopped key w hrun).resolve_left hother,
    fun key run hactive => ?_,
    fun before key run c _ previous _ => enter_eq_cancelAndStart (after policy before) key run
      previous c,
    hwell.isSome_get?_iff, fun key hqueued => ?_⟩
  · obtain ⟨⟨run', number⟩, hgroup, hrun⟩ := Option.map_eq_some_iff.mp hactive
    obtain rfl : run' = run := hrun
    exact ⟨number, hgroup, h.held key _ hgroup⟩
  · rw [Option.isSome_iff_ne_none]
    intro hidle
    have hnone : ((after policy acts).group key).active = none := by
      simpa [activeRun?] using hidle
    exact hqueued (by rw [queued, hwell.queue_nil hnone]; rfl)

end Pipeline.Admission
