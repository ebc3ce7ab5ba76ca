import Pipeline.Proofs.Admission.History

/-! What becomes of the runs that are told to wait. One that holds its ticket stays in line unheard,
is told once to start, or is told once that a newer run has displaced it. Nobody overtakes another
one who waits for the same group. -/

namespace Pipeline.Admission

variable {policy : QueuePolicy} {acts later : List Act} {act : Act} {a a' : Admission}
  {key : String} {v w : Admitted} {n : Nat} {newer : RunId}

/-! ### One use -/

/-- One use either leaves a run waiting, drops its ticket, tells it to start, or displaces it. -/
theorem Effect.fate (e : Effect a a' act) (h : WellFormed a) (hw : w ∈ (a.group key).queue)
    (hticket : a.ticket? w.number = some .waiting) :
    (w ∈ (a'.group key).queue ∧ a'.ticket? w.number = some .waiting) ∨
    (act = .drop w.number ∧ a'.ticket? w.number = some .dropped) ∨
    (w ∉ (a'.group key).queue ∧ a'.ticket? w.number = some (.told .start)) ∨
    (∃ newer c, act = .enter key newer c ∧ w ∉ (a'.group key).queue ∧
      a'.ticket? w.number = some (.told (.superseded newer))) := by
  have hstay (hafter : w ∈ (a'.group key).queue) :
      (w ∈ (a'.group key).queue ∧ a'.ticket? w.number = some .waiting) ∨
      (act = .drop w.number ∧ a'.ticket? w.number = some .dropped) := by
    rcases e.ticket_of_stay h hw hafter with hsame | hdrop
    · exact .inl ⟨hafter, hsame.trans hticket⟩
    · exact .inr hdrop
  by_cases hk : act.key? = some key
  · cases e with
    | start idle =>
      cases hk
      rw [h.queue_nil idle] at hw
      cases hw
    | @preempt _ run _ _ _ groups tickets =>
      cases hk
      refine .inr (.inr (.inr ⟨run, true, rfl, ?_, ?_⟩))
      · rw [group_of_get? groups, if_pos rfl]
        exact List.not_mem_nil
      · rw [tickets, if_pos ⟨⟨w, hw, rfl⟩, hticket⟩]
    | @wait _ run _ _ _ groups tickets =>
      cases hk
      have hqueue := group_of_get? groups key
      rw [if_pos rfl] at hqueue
      by_cases hs : w ∈ a.policy.staying (a.group key).queue
      · have hafter : w ∈ (a'.group key).queue := by
          rw [hqueue]
          exact List.mem_append_left _ hs
        rcases hstay hafter with hwaits | hdrop
        · exact .inl hwaits
        · exact .inr (.inl hdrop)
      · refine .inr (.inr (.inr ⟨run, false, rfl, ?_, ?_⟩))
        · rw [hqueue]
          simp only [Option.getD_some, List.mem_append, List.mem_singleton, not_or]
          refine ⟨hs, fun heq => ?_⟩
          have hlt := h.lt_next hw
          rw [heq] at hlt
          exact Nat.lt_irrefl _ hlt
        · rw [tickets, if_pos ⟨⟨w, QueuePolicy.mem_displaced hw hs, rfl⟩, hticket⟩]
    | keep _ same => exact .inl ⟨same ▸ hw, same ▸ hticket⟩
    | @promote _ run u skipped rest _ queue held skips groups tickets =>
      cases hk
      have hafter := group_of_get? groups key
      rw [if_pos rfl] at hafter
      have hsorted := h.sorted key
      rw [queue, List.pairwise_append, List.pairwise_cons] at hsorted
      rw [queue, List.mem_append, List.mem_cons] at hw
      rcases hw with hskip | rfl | hrest
      · exact absurd hticket (skips w hskip)
      · refine .inr (.inr (.inl ⟨fun hmem => ?_, by rw [tickets, if_pos rfl]⟩))
        rw [hafter] at hmem
        exact Nat.lt_irrefl _ (hsorted.2.1.1 w hmem)
      · have hlt := hsorted.2.1.1 w hrest
        refine .inl ⟨by rw [hafter]; exact hrest, ?_⟩
        rw [tickets, if_neg (by omega)]
        exact hticket
    | clear _ dropped =>
      cases hk
      exact absurd hticket (dropped w hw)
    | drop => cases hk
  · rcases hstay (e.group_eq hk ▸ hw) with hwaits | hdrop
    · exact .inl hwaits
    · exact .inr (.inl hdrop)

/-- A ticket whose run has heard something changes only by being dropped. -/
theorem Effect.ticket_of_heard (e : Effect a a' act) {t : Ticket} (hticket : a.ticket? n = some t)
    (hheard : t ≠ .waiting) :
    a'.ticket? n = some t ∨ (act = .drop n ∧ a'.ticket? n = some .dropped) := by
  have hne : a.ticket? n ≠ some .waiting := by
    rw [hticket]
    exact fun heq => hheard (by cases heq; rfl)
  cases e with
  | start _ _ _ tickets | clear _ _ _ tickets => exact .inl ((tickets n).trans hticket)
  | preempt _ _ _ tickets =>
    rw [tickets, if_neg fun hw => hne hw.2]
    exact .inl hticket
  | wait _ _ _ tickets =>
    rw [tickets, if_neg fun hw => hne hw.2, hticket]
    exact .inl rfl
  | keep _ same => exact .inl (same ▸ hticket)
  | promote _ _ held _ _ tickets =>
    rw [tickets, if_neg]
    · exact .inl hticket
    · rintro rfl
      exact hne held
  | @drop number _ tickets =>
    rw [tickets]
    by_cases hn : n = number
    · subst hn
      rw [if_pos rfl, hticket]
      exact .inr ⟨rfl, rfl⟩
    · rw [if_neg hn]
      exact .inl hticket

/-- Nobody who was admitted earlier comes back in line. -/
theorem Effect.not_mem_queue (e : Effect a a' act) (hlt : w.number < a.next)
    (hw : w ∉ (a.group key).queue) : w ∉ (a'.group key).queue := by
  intro hafter
  rcases e.mem_queue hafter with hbefore | ⟨run, -, -, rfl⟩
  · exact hw hbefore
  · exact Nat.lt_irrefl _ hlt

/-! ### Messages -/

theorem sent_eq_none {a : Admission} (hbefore : a.ticket? n ≠ some .waiting) :
    a.sent act n = none := by
  cases hsent : a.sent act n with
  | none => rfl
  | some promotion =>
    obtain ⟨htold, hnew⟩ := sent_eq_some.mp hsent
    exact absurd ((effect a act).of_told htold hnew).1 hbefore

theorem sent_eq_none_of_ticket {a : Admission} {t : Ticket}
    (hafter : (a.apply act).ticket? n = some t) (ht : ∀ promotion, t ≠ .told promotion) :
    a.sent act n = none := by
  cases hsent : a.sent act n with
  | none => rfl
  | some promotion =>
    obtain ⟨htold, -⟩ := sent_eq_some.mp hsent
    rw [hafter] at htold
    exact absurd (Option.some.inj htold) (ht promotion)

/-- Nothing is sent to those who have not been admitted yet. -/
theorem messages_eq_nil (policy : QueuePolicy) (acts : List Act)
    (hn : (after policy acts).next ≤ n) : messages policy acts n = [] := by
  induction acts using List.reverseRecOn with
  | nil => rfl
  | append_singleton acts act ih =>
    rw [after_concat] at hn
    have hle := (effect (after policy acts) act).next_le
    have hunissued : (after policy acts).ticket? n ≠ some .waiting := by
      intro hticket
      have := (wellFormed_after policy acts).issued n _ hticket
      omega
    rw [messages_concat, ih (by omega), sent_eq_none hunissued]
    rfl

/-- Nothing more is sent to those who have heard something. -/
theorem messagesFrom_eq_nil {a : Admission} (acts : List Act) {t : Ticket}
    (hticket : a.ticket? n = some t) (hheard : t ≠ .waiting) : messagesFrom n a acts = [] := by
  induction acts generalizing a t with
  | nil => rfl
  | cons act acts ih =>
    have hsent : a.sent act n = none := by
      refine sent_eq_none ?_
      rw [hticket]
      exact fun heq => hheard (Option.some.inj heq)
    rw [messagesFrom, hsent]
    rcases (effect a act).ticket_of_heard hticket hheard with hsame | ⟨-, hdropped⟩
    · exact ih hsame hheard
    · exact ih hdropped Ticket.noConfusion

/-! ### Histories -/

/-- In the history, the run `newer` asks for the group of the key, which displaces the admission
`w` from its queue and tells it so. -/
def Displaced (policy : QueuePolicy) (acts : List Act) (key : String) (w : Admitted)
    (newer : RunId) : Prop :=
  ∃ before c later, acts = before ++ .enter key newer c :: later ∧
    w ∈ ((after policy before).group key).queue ∧
    w ∉ ((after policy (before ++ [.enter key newer c])).group key).queue ∧
    (after policy before).sent (.enter key newer c) w.number = some (.superseded newer)

theorem Displaced.concat (h : Displaced policy acts key w newer) (act : Act) :
    Displaced policy (acts ++ [act]) key w newer := by
  obtain ⟨before, c, later, rfl, hrest⟩ := h
  exact ⟨before, c, later ++ [act], by simp, hrest⟩

/-- What has become of a run that was told to wait; `later` has happened since. -/
inductive Fate (policy : QueuePolicy) (acts : List Act) (key : String) (w : Admitted)
    (later : List Act) : Prop where
  | waiting (ticket : (after policy acts).ticket? w.number = some .waiting)
      (queued : w ∈ ((after policy acts).group key).queue)
      (silent : messages policy acts w.number = [])
  | told (promotion : Promotion)
      (ticket : (after policy acts).ticket? w.number = some (.told promotion))
      (gone : w ∉ ((after policy acts).group key).queue)
      (once : messages policy acts w.number = [promotion])
      (displaced : ∀ newer, promotion = .superseded newer → Displaced policy acts key w newer)
  | dropped (ticket : (after policy acts).ticket? w.number = some .dropped)
      (given : .drop w.number ∈ later)

/-- A run that has just been told to wait stands in line and has heard nothing. -/
theorem fate_of_enter {run : RunId}
    (hanswer : ((after policy acts).enter key run false).1 = .queue) :
    Fate policy (acts ++ [.enter key run false]) key ⟨run, (after policy acts).next⟩ [] := by
  have e := effect (after policy acts) (.enter key run false)
  have hwell := wellFormed_after policy acts
  have hqueued : ⟨run, (after policy acts).next⟩ ∈
      ((after policy (acts ++ [.enter key run false])).group key).queue := by
    rw [after_concat]
    cases e with
    | start _ answer => rw [hanswer] at answer; cases answer
    | wait _ _ groups =>
      rw [group_of_get? groups, if_pos rfl]
      exact List.mem_append_right _ (List.mem_singleton_self _)
  have hticket : (after policy (acts ++ [.enter key run false])).ticket?
      (after policy acts).next = some .waiting := by
    rw [after_concat] at hqueued ⊢
    exact e.ticket_of_wait hwell rfl hqueued rfl
  refine .waiting hticket hqueued ?_
  rw [after_concat] at hticket
  rw [messages_concat, messages_eq_nil policy acts (Nat.le_refl _),
    sent_eq_none_of_ticket hticket fun _ => Ticket.noConfusion]
  rfl

/-- One more use of the groups, whatever it is, accounts for everybody who was told to wait. -/
theorem Fate.concat (hfate : Fate policy acts key w later)
    (hlt : w.number < (after policy acts).next) (act : Act) :
    Fate policy (acts ++ [act]) key w (later ++ [act]) := by
  have e := effect (after policy acts) act
  have hstep : after policy (acts ++ [act]) = (after policy acts).apply act := after_concat acts act
  cases hfate with
  | waiting ticket queued silent =>
    rcases e.fate (wellFormed_after policy acts) queued ticket with
      ⟨hqueued, hwaits⟩ | ⟨rfl, hdropped⟩ | ⟨hgone, hstart⟩ | ⟨newer, c, rfl, hgone, htold⟩
    · refine .waiting (hstep ▸ hwaits) (hstep ▸ hqueued) ?_
      rw [messages_concat, silent, sent_eq_none_of_ticket hwaits fun _ => Ticket.noConfusion]
      rfl
    · exact .dropped (hstep ▸ hdropped) (List.mem_append_right _ (List.mem_singleton_self _))
    · have hsent : (after policy acts).sent act w.number = some .start := by
        rw [sent_eq_some, ticket]
        exact ⟨hstart, fun heq => by cases heq⟩
      refine .told .start (hstep ▸ hstart) (hstep ▸ hgone) ?_ fun _ => Promotion.noConfusion
      rw [messages_concat, silent, hsent]
      rfl
    · have hsent : (after policy acts).sent (.enter key newer c) w.number =
          some (.superseded newer) := by
        rw [sent_eq_some, ticket]
        exact ⟨htold, fun heq => by cases heq⟩
      refine .told (.superseded newer) (hstep ▸ htold) (hstep ▸ hgone) ?_ fun other heq => ?_
      · rw [messages_concat, silent, hsent]
        rfl
      · cases heq
        exact ⟨acts, c, [], rfl, queued, hstep ▸ hgone, hsent⟩
  | told promotion ticket gone once displaced =>
    rcases e.ticket_of_heard ticket Ticket.noConfusion with hsame | ⟨rfl, hdropped⟩
    · have hsent : (after policy acts).sent act w.number = none := by
        refine sent_eq_none ?_
        rw [ticket]
        exact fun heq => by cases heq
      refine .told promotion (hstep ▸ hsame) (hstep ▸ e.not_mem_queue hlt gone) ?_
        fun newer heq => (displaced newer heq).concat act
      rw [messages_concat, once, hsent]
      rfl
    · exact .dropped (hstep ▸ hdropped) (List.mem_append_right _ (List.mem_singleton_self _))
  | dropped ticket given =>
    have hdropped : ((after policy acts).apply act).ticket? w.number = some .dropped := by
      rcases e.ticket_of_heard ticket Ticket.noConfusion with hsame | ⟨-, hdropped⟩
      · exact hsame
      · exact hdropped
    exact .dropped (hstep ▸ hdropped) (List.mem_append_left _ given)

/-- After any uses of the groups, everybody who was told to wait is accounted for. -/
theorem Waited.fate (h : Waited policy acts key w later) : Fate policy acts key w later := by
  induction acts using List.reverseRecOn generalizing later with
  | nil =>
    obtain ⟨before, c, hacts, -⟩ := h
    simp at hacts
  | append_singleton acts act ih =>
    rcases waited_concat h with ⟨rfl, rfl, hnext, hanswer⟩ | ⟨rest, rfl, hwaited⟩
    · obtain ⟨run, number⟩ := w
      obtain rfl : (after policy acts).next = number := hnext
      exact fate_of_enter hanswer
    · exact (ih hwaited).concat hwaited.lt_next act

/-! ### Order -/

/-- Whoever is told to start by a message stands before all who wait with a ticket. -/
theorem Waited.not_waiting_of_sent {since : List Act} (hw : Waited policy acts key w later)
    (hsent : (after policy acts).sent act w.number = some .start)
    (hv : Waited policy acts key v since) (hlt : v.number < w.number) :
    (after policy acts).ticket? v.number ≠ some .waiting := by
  intro hticket
  have hwell := wellFormed_after policy acts
  obtain ⟨htold, hnew⟩ := sent_eq_some.mp hsent
  obtain ⟨hwaits, hfirst⟩ := (effect _ act).of_told htold hnew
  obtain ⟨k, u, skipped, rest, hnumber, hqueue, -, hskipped⟩ := hfirst rfl
  have hqueued {x : Admitted} {lx : List Act} (hx : Waited policy acts key x lx)
      (ht : (after policy acts).ticket? x.number = some .waiting) :
      x ∈ ((after policy acts).group key).queue := by
    cases hx.fate with
    | waiting _ queued => exact queued
    | told _ ticket => rw [ht] at ticket; cases ticket
    | dropped ticket => rw [ht] at ticket; cases ticket
  have hu : u ∈ ((after policy acts).group k).queue := by rw [hqueue]; simp
  obtain rfl := hwell.separate k key u hu w (hqueued hw hwaits) hnumber
  have hmem := hqueued hv hticket
  have hsorted := hwell.sorted k
  rw [hqueue, List.pairwise_append, List.pairwise_cons] at hsorted
  rw [hqueue, List.mem_append, List.mem_cons] at hmem
  rcases hmem with hskip | rfl | hrest
  · exact hskipped v hskip hticket
  · omega
  · have := hsorted.2.1.1 v hrest
    omega

/-- Whoever waits for a group is displaced by a run that asks for it and is not told to wait. -/
theorem displaced_of_enter {run : RunId} {c : Bool}
    (hanswer : ((after policy acts).enter key run c).1 ≠ .queue)
    (hqueued : w ∈ ((after policy acts).group key).queue)
    (hticket : (after policy acts).ticket? w.number = some .waiting) :
    Displaced policy (acts ++ [.enter key run c]) key w run := by
  refine ⟨acts, c, [], rfl, hqueued, ?_⟩
  rw [after_concat, sent_eq_some, hticket]
  cases effect (after policy acts) (.enter key run c) with
  | start idle =>
    rw [(wellFormed_after policy acts).queue_nil idle] at hqueued
    cases hqueued
  | preempt _ _ groups tickets =>
    rw [group_of_get? groups, if_pos rfl, tickets, if_pos ⟨⟨w, hqueued, rfl⟩, hticket⟩]
    exact ⟨List.not_mem_nil, rfl, fun heq => by cases heq⟩
  | wait _ answer => exact absurd answer hanswer

/-- A run that waits is passed over only if it was started before, displaced or dropped. -/
theorem Starts.passes (hstart : Starts policy acts act key w) (hv : Waited policy acts key v later)
    (hlt : v.number < w.number) :
    messages policy acts v.number = [.start] ∨
      (∃ newer, Displaced policy (acts ++ [act]) key v newer) ∨ .drop v.number ∈ later := by
  cases hv.fate with
  | waiting ticket queued =>
    rcases hstart with ⟨c, rfl, -, hanswer⟩ | ⟨⟨_, hw⟩, hsent⟩
    · exact .inr (.inl ⟨w.run, displaced_of_enter hanswer queued ticket⟩)
    · exact absurd ticket (hw.not_waiting_of_sent hsent hv hlt)
  | told promotion _ _ once displaced =>
    cases promotion with
    | start => exact .inl once
    | superseded newer => exact .inr (.inl ⟨newer, (displaced newer rfl).concat act⟩)
  | dropped _ given => exact .inr (.inr given)

/-- A run that is ever sent word to start had it before anybody behind it. -/
theorem Waited.start_mem_messages {before rest since : List Act}
    (hv : Waited policy (before ++ act :: rest) key v since)
    (hw : Waited policy (before ++ act :: rest) key w later) (hlt : v.number < w.number)
    (hsent : (after policy before).sent act w.number = some .start)
    (hstart : .start ∈ messages policy (before ++ act :: rest) v.number) :
    .start ∈ messages policy before v.number := by
  obtain ⟨htold, hnew⟩ := sent_eq_some.mp hsent
  have hnext := (wellFormed_after policy before).issued w.number .waiting
    ((effect _ act).of_told htold hnew).1
  obtain ⟨_, -, hw'⟩ := hw.earlier hnext
  obtain ⟨_, -, hv'⟩ := hv.earlier (Nat.lt_trans hlt hnext)
  rw [messages_append] at hstart
  cases hv'.fate with
  | waiting ticket => exact absurd ticket (hw'.not_waiting_of_sent hsent hv' hlt)
  | told _ ticket =>
    rw [messagesFrom_eq_nil _ ticket Ticket.noConfusion, List.append_nil] at hstart
    exact hstart
  | dropped ticket =>
    rw [messagesFrom_eq_nil _ ticket Ticket.noConfusion, List.append_nil] at hstart
    exact hstart

theorem policy_apply (a : Admission) (act : Act) : (a.apply act).policy = a.policy := by
  cases act with
  | enter key run c =>
    simp only [apply, enter]
    split
    · rfl
    · split <;> rfl
  | release key run =>
    simp only [apply, release]
    split
    · rfl
    · split
      · split <;> rfl
      · rfl
  | drop number => rfl

theorem policy_after (policy : QueuePolicy) (acts : List Act) :
    (after policy acts).policy = policy := by
  induction acts using List.reverseRecOn with
  | nil => rfl
  | append_singleton acts act ih => rw [after_concat, policy_apply, ih]

/-- Where the newest run displaces those before it, at most one waits for a group. -/
theorem queue_length_le_one (acts : List Act) (key : String) :
    ((after .supersedePending acts).group key).queue.length ≤ 1 := by
  induction acts using List.reverseRecOn with
  | nil => exact Nat.zero_le 1
  | append_singleton acts act ih =>
    rw [after_concat]
    rcases (effect (after .supersedePending acts) act).queue key with hsub | ⟨run, -, -, hqueue⟩
    · exact Nat.le_trans hsub.length_le ih
    · rw [hqueue, policy_after]
      exact Nat.le_refl 1

/-- After any uses of the groups: whoever was told to wait and holds its ticket stands once in line
and has heard nothing, or was told once to start, or was told once that a newer run has displaced
it; of two who wait for one group the earlier one is told first to start; whoever is passed over
was displaced or let its ticket drop; and where the newest run displaces those before it, at most
one waits for a group. -/
theorem waiters_kept_in_order (policy : QueuePolicy) (acts : List Act) :
    (∀ key w later, Waited policy acts key w later → .drop w.number ∉ later →
      (messages policy acts w.number = [] ∧ ((after policy acts).group key).queue.count w = 1) ∨
      (messages policy acts w.number = [.start] ∧
        ((after policy acts).group key).queue.count w = 0) ∨
      (∃ newer, messages policy acts w.number = [.superseded newer] ∧
        ((after policy acts).group key).queue.count w = 0 ∧ Displaced policy acts key w newer)) ∧
    (∀ before act rest key v w since later, acts = before ++ act :: rest →
      Waited policy acts key v since → Waited policy acts key w later → v.number < w.number →
      (after policy before).sent act w.number = some .start →
      .start ∈ messages policy acts v.number → .start ∈ messages policy before v.number) ∧
    (∀ before act rest key v w since, acts = before ++ act :: rest →
      Starts policy before act key w → Waited policy before key v since → v.number < w.number →
      messages policy before v.number = [.start] ∨
        (∃ newer, Displaced policy (before ++ [act]) key v newer) ∨ .drop v.number ∈ since) ∧
    (policy = .supersedePending →
      ∀ key, ((after policy acts).group key).queue.length ≤ 1) := by
  refine ⟨fun key w later hw hheld => ?_, ?_, ?_, ?_⟩
  · cases hw.fate with
    | waiting _ queued silent =>
      have hnodup := (wellFormed_after policy acts).nodup key
      exact .inl ⟨silent, by rw [hnodup.count, if_pos queued]⟩
    | told promotion _ gone once displaced =>
      have hcount := List.count_eq_zero_of_not_mem gone
      cases promotion with
      | start => exact .inr (.inl ⟨once, hcount⟩)
      | superseded newer => exact .inr (.inr ⟨newer, once, hcount, displaced newer rfl⟩)
    | dropped _ given => exact absurd given hheld
  · rintro before act rest key v w since later rfl hv hw hlt hsent hstart
    exact hv.start_mem_messages hw hlt hsent hstart
  · intro before act rest key v w since _ hstart hv hlt
    exact hstart.passes hv hlt
  · rintro rfl key
    exact queue_length_le_one acts key

end Pipeline.Admission
