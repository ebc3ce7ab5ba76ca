import Pipeline.Concurrency.Admission

/-! What each use of the concurrency groups changes. A use asks for the group of a key, gives it up,
or drops a ticket. `Effect` says once what a use can do, and `WellFormed` collects the facts about
groups and tickets that every use keeps. -/

namespace Pipeline.Admission

/-- One use of the concurrency groups. -/
inductive Act where
  /-- A run asks for the group of a key. -/
  | enter (key : String) (run : RunId) (cancelInProgress : Bool)
  /-- A run gives up the group of a key. -/
  | release (key : String) (run : RunId)
  /-- Nobody waits with the ticket of an admission any more. -/
  | drop (number : Nat)
  deriving DecidableEq

/-- The key of the group that a use is about. -/
def Act.key? : Act → Option String
  | .enter key _ _ | .release key _ => some key
  | .drop _ => none

/-- The groups after a use. -/
def apply (a : Admission) : Act → Admission
  | .enter key run cancelInProgress => (a.enter key run cancelInProgress).2
  | .release key run => a.release key run
  | .drop number => a.dropTicket number

/-! ### Tickets -/

/-- A message reaches the one ticket that it is for, and only if nothing has become of that yet. -/
theorem lookup_tell (tickets : List (Nat × Ticket)) (number n : Nat) (promotion : Promotion) :
    (tell number promotion tickets).lookup n =
      if n = number ∧ tickets.lookup n = some .waiting then some (.told promotion)
      else tickets.lookup n := by
  induction tickets with
  | nil => simp [tell]
  | cons entry rest ih =>
    obtain ⟨m, t⟩ := entry
    simp only [tell, List.map_cons, Bool.and_eq_true, decide_eq_true_eq] at ih ⊢
    by_cases hm : n = m
    · subst hm
      by_cases ht : n = number ∧ t = .waiting
      · obtain ⟨rfl, rfl⟩ := ht
        simp
      · rw [if_neg ht]
        simpa using fun hn hw => absurd ⟨hn, hw⟩ ht
    · have hne : (n == m) = false := by simpa using hm
      by_cases ht : m = number ∧ t = .waiting
      · have hne' : (n == number) = false := by simpa [← ht.1] using hm
        rw [if_pos ht, List.lookup_cons, List.lookup_cons, hne, hne']
        exact ih
      · rw [if_neg ht, List.lookup_cons, List.lookup_cons, hne]
        exact ih

theorem lookup_tellAll (ws : List Admitted) (tickets : List (Nat × Ticket)) (n : Nat)
    (promotion : Promotion) :
    (tellAll ws promotion tickets).lookup n =
      if (∃ w ∈ ws, w.number = n) ∧ tickets.lookup n = some .waiting then some (.told promotion)
      else tickets.lookup n := by
  induction ws generalizing tickets with
  | nil => simp [tellAll]
  | cons w ws ih =>
    have hstep : tellAll (w :: ws) promotion tickets =
        tellAll ws promotion (tell w.number promotion tickets) := rfl
    rw [hstep, ih, lookup_tell]
    by_cases hn : n = w.number
    · subst hn
      by_cases hw : tickets.lookup w.number = some .waiting <;> simp [hw]
    · have hne : ¬ w.number = n := fun h => hn h.symm
      simp [hn, hne]

theorem ticket?_dropTicket (a : Admission) (number n : Nat) :
    (a.dropTicket number).ticket? n =
      if n = number then (a.ticket? n).map fun _ => .dropped else a.ticket? n := by
  simp only [ticket?, dropTicket]
  induction a.tickets with
  | nil => simp
  | cons entry rest ih =>
    obtain ⟨m, t⟩ := entry
    simp only [List.map_cons]
    by_cases hm : n = m
    · subst hm
      by_cases hn : n = number <;> simp [hn]
    · have hne : (n == m) = false := by simpa using hm
      by_cases hmn : m = number
      · have hne' : (n == number) = false := by simpa [← hmn] using hm
        rw [if_pos hmn, List.lookup_cons, List.lookup_cons, hne, hne']
        exact ih
      · rw [if_neg hmn, List.lookup_cons, List.lookup_cons, hne]
        exact ih

/-! ### The next one in line -/

/-- The one who is promoted waits with a ticket, and whoever stood before it does not. -/
theorem nextHeld_eq_some {tickets : List (Nat × Ticket)} {queue rest : List Admitted}
    {w : Admitted} (h : nextHeld tickets queue = some (w, rest)) :
    tickets.lookup w.number = some .waiting ∧
      ∃ skipped, queue = skipped ++ w :: rest ∧
        ∀ v ∈ skipped, tickets.lookup v.number ≠ some .waiting := by
  induction queue with
  | nil => cases h
  | cons v queue ih =>
    simp only [nextHeld] at h
    split at h
    · next hv =>
      cases h
      exact ⟨hv, [], rfl, fun _ hmem => by cases hmem⟩
    · next hv =>
      obtain ⟨hw, skipped, rfl, hskip⟩ := ih h
      refine ⟨hw, v :: skipped, rfl, fun u hu => ?_⟩
      rcases List.mem_cons.mp hu with rfl | hu
      · exact hv
      · exact hskip u hu

theorem nextHeld_eq_none {tickets : List (Nat × Ticket)} {queue : List Admitted}
    (h : nextHeld tickets queue = none) :
    ∀ v ∈ queue, tickets.lookup v.number ≠ some .waiting := by
  induction queue with
  | nil => exact fun _ hmem => by cases hmem
  | cons v queue ih =>
    simp only [nextHeld] at h
    split at h
    · cases h
    · next hv =>
      intro u hu
      rcases List.mem_cons.mp hu with rfl | hu
      · exact hv
      · exact ih h u hu

/-! ### Effects -/

/-- The group of every key after a change to the entry of one key. -/
theorem group_of_get? {a a' : Admission} {key : String} {g : Option Group}
    (h : ∀ k, a'.groups.get? k = if k = key then g else a.groups.get? k) (k : String) :
    a'.group k = if k = key then g.getD ⟨none, []⟩ else a.group k := by
  simp only [group, h]
  split <;> rfl

/-- What an act can do, with the groups `a` before it and the groups `a'` after it. -/
inductive Effect (a a' : Admission) : Act → Prop where
  /-- Nobody is active: the run starts. -/
  | start {key : String} {run : RunId} {c : Bool}
      (idle : (a.group key).active = none)
      (answer : (a.enter key run c).1 = .start)
      (groups : ∀ k, a'.groups.get? k =
        if k = key then some ⟨some ⟨run, a.next⟩, (a.group key).queue⟩ else a.groups.get? k)
      (tickets : ∀ n, a'.ticket? n = a.ticket? n)
      (cancelled : a'.cancelled = a.cancelled)
      (next : a'.next = a.next + 1) : Effect a a' (.enter key run c)
  /-- The run takes the place of the active one, and all who wait are displaced. -/
  | preempt {key : String} {run : RunId} {previous : Admitted}
      (active : (a.group key).active = some previous)
      (answer : (a.enter key run true).1 = .cancelAndStart previous.run)
      (groups : ∀ k, a'.groups.get? k =
        if k = key then some ⟨some ⟨run, a.next⟩, []⟩ else a.groups.get? k)
      (tickets : ∀ n, a'.ticket? n =
        if (∃ w ∈ (a.group key).queue, w.number = n) ∧ a.ticket? n = some .waiting
        then some (.told (.superseded run)) else a.ticket? n)
      (cancelled : a'.cancelled = previous.number :: a.cancelled)
      (next : a'.next = a.next + 1) : Effect a a' (.enter key run true)
  /-- The run gets in line; the policy says who of the others stays there. -/
  | wait {key : String} {run : RunId} {previous : Admitted}
      (active : (a.group key).active = some previous)
      (answer : (a.enter key run false).1 = .queue)
      (groups : ∀ k, a'.groups.get? k =
        if k = key then
          some ⟨some previous, a.policy.staying (a.group key).queue ++ [⟨run, a.next⟩]⟩
        else a.groups.get? k)
      (tickets : ∀ n, a'.ticket? n =
        if (∃ w ∈ a.policy.displaced (a.group key).queue, w.number = n) ∧
          a.ticket? n = some .waiting
        then some (.told (.superseded run))
        else (a.ticket? n).or (if n = a.next then some .waiting else none))
      (cancelled : a'.cancelled = a.cancelled)
      (next : a'.next = a.next + 1) : Effect a a' (.enter key run false)
  /-- A run that is not active gives up nothing. -/
  | keep {key : String} {run : RunId}
      (other : a.activeRun? key ≠ some run)
      (same : a' = a) : Effect a a' (.release key run)
  /-- The run gives up its group, and the first one who still waits becomes active. -/
  | promote {key : String} {run : RunId} {w : Admitted} {skipped rest : List Admitted}
      (active : a.activeRun? key = some run)
      (queue : (a.group key).queue = skipped ++ w :: rest)
      (held : a.ticket? w.number = some .waiting)
      (dropped : ∀ v ∈ skipped, a.ticket? v.number ≠ some .waiting)
      (groups : ∀ k, a'.groups.get? k = if k = key then some ⟨some w, rest⟩ else a.groups.get? k)
      (tickets : ∀ n, a'.ticket? n = if n = w.number then some (.told .start) else a.ticket? n)
      (cancelled : a'.cancelled = a.cancelled)
      (next : a'.next = a.next) : Effect a a' (.release key run)
  /-- The run gives up its group and nobody waits for it any more: the group is gone. -/
  | clear {key : String} {run : RunId}
      (active : a.activeRun? key = some run)
      (dropped : ∀ v ∈ (a.group key).queue, a.ticket? v.number ≠ some .waiting)
      (groups : ∀ k, a'.groups.get? k = if k = key then none else a.groups.get? k)
      (tickets : ∀ n, a'.ticket? n = a.ticket? n)
      (cancelled : a'.cancelled = a.cancelled)
      (next : a'.next = a.next) : Effect a a' (.release key run)
  | drop {number : Nat}
      (groups : ∀ k, a'.groups.get? k = a.groups.get? k)
      (tickets : ∀ n, a'.ticket? n =
        if n = number then (a.ticket? n).map fun _ => .dropped else a.ticket? n)
      (cancelled : a'.cancelled = a.cancelled)
      (next : a'.next = a.next) : Effect a a' (.drop number)

/-- A use leaves the groups alone that it is not about. -/
theorem Effect.group_eq {a a' : Admission} {act : Act} {k : String} (e : Effect a a' act)
    (hk : act.key? ≠ some k) : a'.group k = a.group k := by
  cases e with
  | start _ _ groups | preempt _ _ groups | wait _ _ groups | promote _ _ _ _ groups
  | clear _ _ groups =>
    rw [group_of_get? groups, if_neg fun heq => hk (by rw [heq]; rfl)]
  | keep _ same => rw [same]
  | drop groups => rw [group, groups]; rfl

theorem effect_enter (a : Admission) (key : String) (run : RunId) (c : Bool) :
    Effect a (a.enter key run c).2 (.enter key run c) := by
  cases hactive : (a.group key).active with
  | none =>
    exact .start hactive (by simp [enter, hactive])
      (fun k => by simp [enter, hactive, Dict.get?_insert]) (fun n => by simp [enter, hactive, ticket?])
      (by simp [enter, hactive]) (by simp [enter, hactive])
  | some previous =>
    cases c with
    | true =>
      refine .preempt hactive (by simp [enter, hactive])
        (fun k => by simp [enter, hactive, Dict.get?_insert]) (fun n => ?_)
        (by simp [enter, hactive]) (by simp [enter, hactive])
      simp only [enter, hactive, if_true]
      exact lookup_tellAll _ _ _ _
    | false =>
      refine .wait hactive (by simp [enter, hactive])
        (fun k => by simp [enter, hactive, Dict.get?_insert]) (fun n => ?_)
        (by simp [enter, hactive]) (by simp [enter, hactive])
      have htold := lookup_tellAll (a.policy.displaced (a.group key).queue) a.tickets n
        (.superseded run)
      have hnew : [(a.next, Ticket.waiting)].lookup n =
          if n = a.next then some .waiting else none := by
        by_cases hn : n = a.next
        · simp [hn]
        · have hne : (n == a.next) = false := by simpa using hn
          simp [List.lookup_cons, hne, hn]
      have hticket : (a.enter key run false).2.ticket? n =
          ((tellAll (a.policy.displaced (a.group key).queue) (.superseded run) a.tickets).lookup
            n).or (if n = a.next then some .waiting else none) := by
        simp only [enter, hactive, ticket?, Bool.false_eq_true, if_false, List.lookup_append, hnew]
      rw [hticket, htold]
      by_cases h : (∃ w ∈ a.policy.displaced (a.group key).queue, w.number = n) ∧
          a.tickets.lookup n = some .waiting
      · rw [if_pos h]
        exact (if_pos h).symm
      · rw [if_neg h]
        exact (if_neg h).symm

theorem effect_release (a : Admission) (key : String) (run : RunId) :
    Effect a (a.release key run) (.release key run) := by
  by_cases hactive : a.activeRun? key = some run
  · cases hg : a.groups.get? key with
    | none => simp [activeRun?, group, hg] at hactive
    | some g =>
      have hgroup : a.group key = g := by simp [group, hg]
      have hrun : g.active.map (·.run) = some run := by simpa [activeRun?, hgroup] using hactive
      cases hnext : nextHeld a.tickets g.queue with
      | none =>
        have hdrop := nextHeld_eq_none hnext
        rw [← hgroup] at hdrop
        exact .clear hactive hdrop (fun k => by simp [release, hg, hrun, hnext, Dict.get?_erase])
          (fun n => by simp [release, hg, hrun, hnext, ticket?])
          (by simp [release, hg, hrun, hnext]) (by simp [release, hg, hrun, hnext])
      | some found =>
        obtain ⟨w, rest⟩ := found
        obtain ⟨hheld, skipped, hqueue, hskip⟩ := nextHeld_eq_some hnext
        refine .promote hactive (hgroup ▸ hqueue) hheld hskip
          (fun k => by simp [release, hg, hrun, hnext, Dict.get?_insert]) (fun n => ?_)
          (by simp [release, hg, hrun, hnext]) (by simp [release, hg, hrun, hnext])
        simp only [release, hg, hrun, hnext, if_true, ticket?, lookup_tell]
        by_cases hn : n = w.number
        · subst hn
          simp [hheld]
        · simp [hn]
  · refine .keep hactive ?_
    cases hg : a.groups.get? key with
    | none => simp [release, hg]
    | some g =>
      have hgroup : a.group key = g := by simp [group, hg]
      have hrun : g.active.map (·.run) ≠ some run := by simpa [activeRun?, hgroup] using hactive
      simp [release, hg, hrun]

theorem effect (a : Admission) (act : Act) : Effect a (a.apply act) act := by
  cases act with
  | enter key run c => exact effect_enter a key run c
  | release key run => exact effect_release a key run
  | drop number =>
    exact .drop (fun _ => rfl) (fun n => ticket?_dropTicket a number n) rfl rfl

end Pipeline.Admission
