import Mathlib.Data.List.Induction
import Pipeline.Proofs.Admission.WellFormed

/-! Histories of the concurrency groups, which are lists of uses in order. A history says which runs
were told to wait, which messages were sent to them, and which runs were told to start. -/

namespace Pipeline.Admission

variable {policy : QueuePolicy} {acts later later' : List Act} {act : Act} {key other : String}
  {v w : Admitted} {n : Nat}

/-- The groups after a history. -/
def after (policy : QueuePolicy) (acts : List Act) : Admission :=
  acts.foldl apply (empty policy)

/-- The message that a use sends to an admission: one that its ticket did not hold before. -/
def sent (a : Admission) (act : Act) (number : Nat) : Option Promotion :=
  match (a.apply act).ticket? number with
  | some (.told promotion) =>
    if a.ticket? number = some (.told promotion) then none else some promotion
  | _ => none

/-- The messages that uses after `a` send to an admission, in order. -/
def messagesFrom (number : Nat) : Admission → List Act → List Promotion
  | _, [] => []
  | a, act :: rest => (a.sent act number).toList ++ messagesFrom number (a.apply act) rest

/-- The messages that a history sends to an admission, in order. -/
def messages (policy : QueuePolicy) (acts : List Act) (number : Nat) : List Promotion :=
  messagesFrom number (empty policy) acts

/-- In the history, the run of the admission `w` asks for the group of the key and is told to wait;
`later` has happened since. -/
def Waited (policy : QueuePolicy) (acts : List Act) (key : String) (w : Admitted)
    (later : List Act) : Prop :=
  ∃ before c, acts = before ++ .enter key w.run c :: later ∧
    (after policy before).next = w.number ∧ ((after policy before).enter key w.run c).1 = .queue

/-- A use after the history tells the run of the admission `w` for the key to start: either in its
answer, or by a message. -/
def Starts (policy : QueuePolicy) (acts : List Act) (act : Act) (key : String) (w : Admitted) :
    Prop :=
  (∃ c, act = .enter key w.run c ∧ (after policy acts).next = w.number ∧
    ((after policy acts).enter key w.run c).1 ≠ .queue) ∨
  ((∃ later, Waited policy acts key w later) ∧
    (after policy acts).sent act w.number = some .start)

/-- The history told the run of the admission `w` for the key to start, and the run has not given
up the group since. -/
def Running (policy : QueuePolicy) (acts : List Act) (key : String) (w : Admitted) : Prop :=
  ∃ before act later, acts = before ++ act :: later ∧ Starts policy before act key w ∧
    .release key w.run ∉ later

/-- Only a run that waits is told anything. One that is told to start becomes the active one, and
nobody who waits with a ticket stands before it. -/
theorem Effect.of_told {a a' : Admission} {promotion : Promotion} (e : Effect a a' act)
    (htold : a'.ticket? n = some (.told promotion)) (hnew : a.ticket? n ≠ some (.told promotion)) :
    a.ticket? n = some .waiting ∧ (promotion = .start → ∃ k w skipped rest, w.number = n ∧
      (a.group k).queue = skipped ++ w :: rest ∧ (a'.group k).active = some w ∧
      ∀ v ∈ skipped, a.ticket? v.number ≠ some .waiting) := by
  cases e with
  | start _ _ _ tickets | clear _ _ _ tickets => exact absurd (tickets n ▸ htold) hnew
  | preempt _ _ _ tickets =>
    rw [tickets] at htold
    split at htold
    · next hw =>
      cases htold
      exact ⟨hw.2, Promotion.noConfusion⟩
    · exact absurd htold hnew
  | wait _ _ _ tickets =>
    rw [tickets] at htold
    split at htold
    · next hw =>
      cases htold
      exact ⟨hw.2, Promotion.noConfusion⟩
    · cases hticket : a.ticket? n with
      | some t =>
        rw [hticket] at htold hnew
        exact absurd htold hnew
      | none =>
        rw [hticket, Option.none_or] at htold
        split at htold <;> cases htold
  | keep _ same => exact absurd (same ▸ htold) hnew
  | @promote k _ w skipped rest _ queue held dropped groups tickets =>
    rw [tickets] at htold
    split at htold
    · next hn =>
      subst hn
      refine ⟨held, fun _ => ⟨k, w, skipped, rest, rfl, queue, ?_, dropped⟩⟩
      rw [group_of_get? groups, if_pos rfl]
      rfl
    · exact absurd htold hnew
  | drop _ tickets =>
    rw [tickets] at htold
    split at htold
    · obtain ⟨_, -, heq⟩ := Option.map_eq_some_iff.mp htold
      cases heq
    · exact absurd htold hnew

theorem sent_eq_some {a : Admission} {promotion : Promotion} :
    a.sent act n = some promotion ↔ (a.apply act).ticket? n = some (.told promotion) ∧
      a.ticket? n ≠ some (.told promotion) := by
  unfold sent
  constructor
  · intro h
    split at h
    · next p hticket =>
      split at h
      · cases h
      · next hnew =>
        cases h
        exact ⟨hticket, hnew⟩
    · cases h
  · rintro ⟨hticket, hnew⟩
    rw [hticket]
    exact if_neg hnew

/-! ### One more use -/

@[simp] theorem after_append (acts later : List Act) :
    after policy (acts ++ later) = later.foldl apply (after policy acts) :=
  List.foldl_append

theorem after_concat (acts : List Act) (act : Act) :
    after policy (acts ++ [act]) = (after policy acts).apply act := by
  rw [after_append]
  rfl

theorem wellFormed_after (policy : QueuePolicy) (acts : List Act) :
    WellFormed (after policy acts) := by
  induction acts using List.reverseRecOn with
  | nil => exact wellFormed_empty policy
  | append_singleton acts act ih =>
    rw [after_concat]
    exact (effect _ act).wellFormed ih

theorem messagesFrom_append (a : Admission) (acts later : List Act) :
    messagesFrom n a (acts ++ later) =
      messagesFrom n a acts ++ messagesFrom n (acts.foldl apply a) later := by
  induction acts generalizing a with
  | nil => rfl
  | cons act acts ih =>
    rw [List.cons_append, messagesFrom, messagesFrom, ih, List.append_assoc]
    rfl

theorem messages_append (acts later : List Act) :
    messages policy (acts ++ later) n =
      messages policy acts n ++ messagesFrom n (after policy acts) later :=
  messagesFrom_append _ _ _

theorem messages_concat (acts : List Act) (act : Act) :
    messages policy (acts ++ [act]) n =
      messages policy acts n ++ ((after policy acts).sent act n).toList := by
  rw [messages_append, messagesFrom, messagesFrom, List.append_nil]

/-- A use in a history with one more use is the last one or lies in the history before. -/
theorem concat_eq_append_cons {acts before later : List Act} {act use : Act}
    (h : acts ++ [act] = before ++ use :: later) :
    (acts = before ∧ act = use ∧ later = []) ∨
      ∃ rest, later = rest ++ [act] ∧ acts = before ++ use :: rest := by
  rcases List.eq_nil_or_concat later with rfl | ⟨rest, last, rfl⟩
  · obtain ⟨hacts, huse⟩ := List.append_inj' h rfl
    exact .inl ⟨hacts, List.singleton_inj.mp huse, rfl⟩
  · rw [List.concat_eq_append, ← List.cons_append, ← List.append_assoc] at h
    obtain ⟨hacts, hlast⟩ := List.append_inj' h rfl
    rw [List.concat_eq_append, List.singleton_inj.mp hlast]
    exact .inr ⟨rest, rfl, hacts⟩

theorem Waited.concat (h : Waited policy acts key w later) (act : Act) :
    Waited policy (acts ++ [act]) key w (later ++ [act]) := by
  obtain ⟨before, c, rfl, hnext, hqueue⟩ := h
  exact ⟨before, c, by simp, hnext, hqueue⟩

/-- A run that waits after one more use has just asked, or has waited before. -/
theorem waited_concat (h : Waited policy (acts ++ [act]) key w later) :
    (later = [] ∧ act = .enter key w.run false ∧ (after policy acts).next = w.number ∧
        ((after policy acts).enter key w.run false).1 = .queue) ∨
      ∃ rest, later = rest ++ [act] ∧ Waited policy acts key w rest := by
  obtain ⟨before, c, hacts, hnext, hqueue⟩ := h
  rcases concat_eq_append_cons hacts with ⟨rfl, rfl, rfl⟩ | ⟨rest, rfl, rfl⟩
  · cases c with
    | true =>
      exfalso
      cases hactive : ((after policy acts).group key).active <;> simp [enter, hactive] at hqueue
    | false => exact .inl ⟨rfl, rfl, hnext, hqueue⟩
  · exact .inr ⟨rest, rfl, before, c, rfl, hnext, hqueue⟩

/-- The runs that are told to start and have not given up their group after one more use. -/
theorem running_concat (h : Running policy (acts ++ [act]) key w) :
    Starts policy acts act key w ∨
      (Running policy acts key w ∧ act ≠ .release key w.run) := by
  obtain ⟨before, use, later, hacts, hstart, hrel⟩ := h
  rcases concat_eq_append_cons hacts with ⟨rfl, rfl, rfl⟩ | ⟨rest, rfl, rfl⟩
  · exact .inl hstart
  · simp only [List.mem_append, List.mem_singleton, not_or] at hrel
    exact .inr ⟨⟨before, use, rest, rfl, hstart, hrel.1⟩, fun heq => hrel.2 heq.symm⟩

theorem Starts.running (h : Starts policy acts act key w) : Running policy (acts ++ [act]) key w :=
  ⟨acts, act, [], rfl, h, List.not_mem_nil⟩

theorem Running.concat (h : Running policy acts key w) (hrel : act ≠ .release key w.run) :
    Running policy (acts ++ [act]) key w := by
  obtain ⟨before, use, later, rfl, hstart, hlater⟩ := h
  refine ⟨before, use, later ++ [act], by simp, hstart, ?_⟩
  simp only [List.mem_append, List.mem_singleton, not_or]
  exact ⟨hlater, fun heq => hrel heq.symm⟩

/-! ### Numbers -/

theorem Effect.next_le {a a' : Admission} (e : Effect a a' act) : a.next ≤ a'.next := by
  cases e with
  | start _ _ _ _ _ next | preempt _ _ _ _ _ next | wait _ _ _ _ _ next => omega
  | keep _ same => exact same ▸ Nat.le_refl _
  | promote _ _ _ _ _ _ _ next | clear _ _ _ _ _ next => exact Nat.le_of_eq next.symm
  | drop _ _ _ next => exact Nat.le_of_eq next.symm

theorem Effect.next_enter {a a' : Admission} {key : String} {run : RunId} {c : Bool}
    (e : Effect a a' (.enter key run c)) : a'.next = a.next + 1 := by
  cases e with
  | start _ _ _ _ _ next | preempt _ _ _ _ _ next | wait _ _ _ _ _ next => exact next

/-- Numbers only grow along a history. -/
theorem next_le_after (policy : QueuePolicy) (acts later : List Act) :
    (after policy acts).next ≤ (after policy (acts ++ later)).next := by
  induction later using List.reverseRecOn with
  | nil => exact Nat.le_of_eq (by rw [List.append_nil])
  | append_singleton later act ih =>
    rw [← List.append_assoc, after_concat]
    exact Nat.le_trans ih (effect _ act).next_le

theorem Waited.lt_next (h : Waited policy acts key w later) :
    w.number < (after policy acts).next := by
  obtain ⟨before, c, rfl, hnext, -⟩ := h
  have hle := next_le_after policy (before ++ [.enter key w.run c]) later
  rw [List.append_assoc, List.singleton_append] at hle
  have hstep : (after policy (before ++ [.enter key w.run c])).next = w.number + 1 := by
    rw [after_concat, ← hnext]
    exact (effect _ (.enter key w.run c)).next_enter
  omega

/-- A run that was admitted before a use of the groups has waited since before that use. -/
theorem Waited.earlier {before rest : List Act} (h : Waited policy (before ++ rest) key w later)
    (hlt : w.number < (after policy before).next) :
    ∃ since, later = since ++ rest ∧ Waited policy before key w since := by
  induction rest using List.reverseRecOn generalizing later with
  | nil => exact ⟨later, by simp, by simpa using h⟩
  | append_singleton rest act ih =>
    rw [← List.append_assoc] at h
    rcases waited_concat h with ⟨-, -, hnext, -⟩ | ⟨since, rfl, hwaited⟩
    · have hle := next_le_after policy before rest
      omega
    · obtain ⟨first, rfl, hbefore⟩ := ih hwaited
      exact ⟨first, by simp, hbefore⟩

/-- The number of an admission tells its run and its group. -/
theorem Waited.unique (hv : Waited policy acts key v later) (hw : Waited policy acts other w later')
    (heq : v.number = w.number) : key = other ∧ v = w := by
  induction acts using List.reverseRecOn generalizing later later' with
  | nil =>
    obtain ⟨before, c, hacts, -⟩ := hv
    simp at hacts
  | append_singleton acts act ih =>
    rcases waited_concat hv with ⟨-, hact, hnext, -⟩ | ⟨since, -, hv'⟩
    · rcases waited_concat hw with ⟨-, hact', -, -⟩ | ⟨since, -, hw'⟩
      · rw [hact] at hact'
        obtain ⟨vrun, vnumber⟩ := v
        obtain ⟨wrun, wnumber⟩ := w
        cases hact'
        cases heq
        exact ⟨rfl, rfl⟩
      · have := hw'.lt_next
        omega
    · rcases waited_concat hw with ⟨-, -, hnext, -⟩ | ⟨since, -, hw'⟩
      · have := hv'.lt_next
        omega
      · exact ih hv' hw'

end Pipeline.Admission
