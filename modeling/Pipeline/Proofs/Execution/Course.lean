import Pipeline.Execution.Work

/-! The course that work takes: what is done for it, one deed after the other, and the value that it
ends in. Every answer is possible here; what somebody can be relied on for is said of the deeds. -/

namespace Pipeline

/-- One thing that is done for work, with the answer where the work waits for one. -/
inductive Deed where
  | looked (cancelled : Bool)
  | queued
  | waited (got : Bool)
  | freed
  | moved (status : JobStatus)
  | cancelledSiblings
  | reported (event : JobEvent)
  | logged (level : LogLevel) (message : String)
  | lookedUp (steps : List Step) (found : Except Error (List ResolvedStep))
  | started (request : Command.Request)
  | ended (request : Command.Request) (lines : List Command.Line) (result : Command.Result)
  | invoked (action : ExternalAction) (inputs env : Dict String) (answer : HostAnswer)

/-- Does the deed tell that the work is cancelled? A command that was cancelled does. -/
def Deed.tellsCancelled : Deed → Bool
  | looked cancelled => cancelled
  | ended _ _ result => result.cancelled
  | _ => false

namespace Work

variable {α β : Type}

/-- A deed takes work to what is left of it. -/
inductive Does : Work α → Deed → Work α → Prop where
  | look {resume : Bool → Work α} (b : Bool) : (look resume).Does (.looked b) (resume b)
  | queueUp {rest : Work α} : (queueUp rest).Does .queued rest
  | awaitSlot {resume : Bool → Work α} (b : Bool) : (awaitSlot resume).Does (.waited b) (resume b)
  | freeSlot {rest : Work α} : (freeSlot rest).Does .freed rest
  | move {status : JobStatus} {rest : Work α} : (move status rest).Does (.moved status) rest
  | cancelSiblings {rest : Work α} : (cancelSiblings rest).Does .cancelledSiblings rest
  | report {event : JobEvent} {rest : Work α} : (report event rest).Does (.reported event) rest
  | log {level : LogLevel} {message : String} {rest : Work α} :
      (log level message rest).Does (.logged level message) rest
  | resolve {steps : List Step} {resume : Except Error (List ResolvedStep) → Work α}
      (found : Except Error (List ResolvedStep)) :
      (resolve steps resume).Does (.lookedUp steps found) (resume found)
  | start {request : Command.Request} {rest : Work α} :
      (start request rest).Does (.started request) rest
  | await {request : Command.Request} {resume : List Command.Line → Command.Result → Work α}
      (lines : List Command.Line) (result : Command.Result) :
      (await request resume).Does (.ended request lines result) (resume lines result)
  | invoke {action : ExternalAction} {inputs env : Dict String} {resume : HostAnswer → Work α}
      (answer : HostAnswer) :
      (invoke action inputs env resume).Does (.invoked action inputs env answer) (resume answer)

/-- Deeds take work to what is left of it. -/
inductive Path : Work α → List Deed → Work α → Prop where
  | refl (w : Work α) : w.Path [] w
  | step {w next last : Work α} {d : Deed} {deeds : List Deed} (first : w.Does d next)
      (rest : next.Path deeds last) : w.Path (d :: deeds) last

/-- Deeds take work to its end, with a value. -/
def Runs (w : Work α) (deeds : List Deed) (value : α) : Prop :=
  w.Path deeds (done value)

variable {w w' w'' : Work α} {d : Deed} {deeds deeds' : List Deed} {value : α}

theorem Path.trans (h : w.Path deeds w') (h' : w'.Path deeds' w'') :
    w.Path (deeds ++ deeds') w'' := by
  induction h with
  | refl => exact h'
  | step first _ ih => exact .step first (ih h')

/-- One more deed at the end. -/
theorem Path.concat (h : w.Path deeds w') (h' : w'.Does d w'') : w.Path (deeds ++ [d]) w'' :=
  h.trans (.step h' (.refl w''))

/-- Work that has run goes on with the work that follows it. -/
theorem Path.bind {w w' : Work β} {deeds : List Deed} (h : w.Path deeds w')
    (next : β → Work α) : (w.bind next).Path deeds (w'.bind next) := by
  induction h with
  | refl => exact .refl _
  | step first _ ih =>
    refine .step ?_ ih
    cases first <;> constructor

theorem Does.unique (h : w.Does d w') (h' : w.Does d w'') : w' = w'' := by
  cases h <;> cases h' <;> rfl

/-- What is done for work says what is left of it. -/
theorem Path.unique (h : w.Path deeds w') (h' : w.Path deeds w'') : w' = w'' := by
  induction h with
  | refl =>
    cases h'
    rfl
  | step first _ ih =>
    obtain _ | ⟨first', rest'⟩ := h'
    cases first.unique first'
    exact ih rest'

theorem Runs.unique {value' : α} (h : w.Runs deeds value) (h' : w.Runs deeds value') :
    value = value' := by
  cases Path.unique h h'
  rfl

theorem Runs.done {a : α} (h : (done a).Runs deeds value) : deeds = [] ∧ value = a := by
  cases h with
  | refl => exact ⟨rfl, rfl⟩
  | step first => cases first

/-- Work followed by other work first comes to its own end. -/
theorem Runs.bind {w : Work β} {next : β → Work α} (h : (w.bind next).Runs deeds value) :
    ∃ first mid rest, deeds = first ++ rest ∧ w.Runs first mid ∧ (next mid).Runs rest value := by
  induction w generalizing deeds with
  | done mid => exact ⟨[], mid, deeds, rfl, .refl _, h⟩
  | look _ ih | awaitSlot _ ih | resolve _ _ ih | invoke _ _ _ _ ih =>
    obtain _ | ⟨⟨⟩, h⟩ := h
    obtain ⟨first, mid, rest, rfl, hfirst, hrest⟩ := ih _ h
    exact ⟨_, mid, rest, rfl, .step (by constructor) hfirst, hrest⟩
  | await _ _ ih =>
    obtain _ | ⟨⟨⟩, h⟩ := h
    obtain ⟨first, mid, rest, rfl, hfirst, hrest⟩ := ih _ _ h
    exact ⟨_, mid, rest, rfl, .step (by constructor) hfirst, hrest⟩
  | queueUp _ ih | freeSlot _ ih | cancelSiblings _ ih | move _ _ ih | report _ _ ih | log _ _ _ ih
  | start _ _ ih =>
    obtain _ | ⟨⟨⟩, h⟩ := h
    obtain ⟨first, mid, rest, rfl, hfirst, hrest⟩ := ih h
    exact ⟨_, mid, rest, rfl, .step (by constructor) hfirst, hrest⟩

/-! ### What comes after one deed -/

theorem Runs.cancelled {next : Bool → Work α} (h : (Work.cancelled.bind next).Runs deeds value) :
    ∃ b rest, deeds = .looked b :: rest ∧ (next b).Runs rest value := by
  obtain _ | ⟨⟨⟩, h⟩ := h
  exact ⟨_, _, rfl, h⟩

theorem Runs.tell {event : JobEvent} {next : Unit → Work α}
    (h : ((Work.tell event).bind next).Runs deeds value) :
    ∃ rest, deeds = .reported event :: rest ∧ (next ()).Runs rest value := by
  obtain _ | ⟨⟨⟩, h⟩ := h
  exact ⟨_, rfl, h⟩

theorem Runs.write {level : LogLevel} {message : String} {next : Unit → Work α}
    (h : ((Work.write level message).bind next).Runs deeds value) :
    ∃ rest, deeds = .logged level message :: rest ∧ (next ()).Runs rest value := by
  obtain _ | ⟨⟨⟩, h⟩ := h
  exact ⟨_, rfl, h⟩

theorem Runs.lookUp {steps : List Step} {next : Except Error (List ResolvedStep) → Work α}
    (h : ((Work.lookUp steps).bind next).Runs deeds value) :
    ∃ found rest, deeds = .lookedUp steps found :: rest ∧ (next found).Runs rest value := by
  obtain _ | ⟨⟨⟩, h⟩ := h
  exact ⟨_, _, rfl, h⟩

theorem Runs.callHost {action : ExternalAction} {inputs env : Dict String}
    {next : HostAnswer → Work α}
    (h : ((Work.callHost action inputs env).bind next).Runs deeds value) :
    ∃ answer rest, deeds = .invoked action inputs env answer :: rest ∧
      (next answer).Runs rest value := by
  obtain _ | ⟨⟨⟩, h⟩ := h
  exact ⟨_, _, rfl, h⟩

/-- The lines that a command printed are reported in turn. -/
theorem Runs.tellLines {step : String} {lines : List Command.Line} {value : Unit}
    (h : (Work.tellLines step lines).Runs deeds value) :
    deeds = lines.map fun line => .reported (.stepOutput step line.text line.isError) := by
  induction lines generalizing deeds with
  | nil => exact h.done.1
  | cons line rest ih =>
    obtain _ | ⟨⟨⟩, h⟩ := h
    rw [ih h, List.map_cons]

theorem Runs.runCommand {step : String} {request : Command.Request} {next : Command.Result → Work α}
    (h : ((Work.runCommand step request).bind next).Runs deeds value) :
    ∃ lines result rest, deeds = .started request :: .ended request lines result ::
        (lines.map fun line => .reported (.stepOutput step line.text line.isError)) ++ rest ∧
      (next result).Runs rest value := by
  obtain _ | ⟨⟨⟩, _ | ⟨⟨⟩, h⟩⟩ := h
  obtain ⟨told, result, rest, rfl, htold, hrest⟩ := Runs.bind h
  obtain ⟨told, _, _, rfl, hlines, hdone⟩ := htold.bind
  obtain ⟨rfl, rfl⟩ := hdone.done
  rw [hlines.tellLines, List.append_nil]
  exact ⟨_, _, rest, rfl, hrest⟩

/-! ### Work always comes to an end -/

/-- Answers to everything that work waits for. They may depend on what has been done before. -/
structure Replies where
  look : List Deed → Bool
  slot : List Deed → Bool
  find : List Deed → List Step → Except Error (List ResolvedStep)
  command : List Deed → Command.Request → List Command.Line × Command.Result
  host : List Deed → ExternalAction → HostAnswer

/-- Adds a deed in front of those that follow it. -/
def prepend (d : Deed) (course : List Deed × α) : List Deed × α :=
  (d :: course.1, course.2)

/-- What work does after `past`, and the value that it ends in. -/
def follow (replies : Replies) : Work α → List Deed → List Deed × α
  | done value, _ => ([], value)
  | look resume, past =>
    let d := Deed.looked (replies.look past)
    prepend d ((resume (replies.look past)).follow replies (past ++ [d]))
  | queueUp rest, past => prepend .queued (rest.follow replies (past ++ [.queued]))
  | awaitSlot resume, past =>
    let d := Deed.waited (replies.slot past)
    prepend d ((resume (replies.slot past)).follow replies (past ++ [d]))
  | freeSlot rest, past => prepend .freed (rest.follow replies (past ++ [.freed]))
  | move status rest, past =>
    prepend (.moved status) (rest.follow replies (past ++ [.moved status]))
  | cancelSiblings rest, past =>
    prepend .cancelledSiblings (rest.follow replies (past ++ [.cancelledSiblings]))
  | report event rest, past =>
    prepend (.reported event) (rest.follow replies (past ++ [.reported event]))
  | log level message rest, past =>
    prepend (.logged level message) (rest.follow replies (past ++ [.logged level message]))
  | resolve steps resume, past =>
    let d := Deed.lookedUp steps (replies.find past steps)
    prepend d ((resume (replies.find past steps)).follow replies (past ++ [d]))
  | start request rest, past =>
    prepend (.started request) (rest.follow replies (past ++ [.started request]))
  | await request resume, past =>
    let (lines, result) := replies.command past request
    let d := Deed.ended request lines result
    prepend d ((resume lines result).follow replies (past ++ [d]))
  | invoke action inputs env resume, past =>
    let d := Deed.invoked action inputs env (replies.host past action)
    prepend d ((resume (replies.host past action)).follow replies (past ++ [d]))

theorem follow_runs (replies : Replies) (w : Work α) (past : List Deed) :
    w.Runs (w.follow replies past).1 (w.follow replies past).2 := by
  induction w generalizing past with
  | done value => exact .refl _
  | look _ ih | awaitSlot _ ih | resolve _ _ ih | invoke _ _ _ _ ih =>
    exact .step (by constructor) (ih _ _)
  | await _ _ ih => exact .step (by constructor) (ih _ _ _)
  | queueUp _ ih | freeSlot _ ih | cancelSiblings _ ih | move _ _ ih | report _ _ ih | log _ _ _ ih
  | start _ _ ih => exact .step (by constructor) (ih _)

/-- Answers to everything, all of them good. -/
def Replies.calm : Replies where
  look _ := false
  slot _ := true
  find _ _ := .ok []
  command _ _ := ([], ⟨"", "", some 0, [], [], false, none⟩)
  host _ _ := ⟨true, [], none⟩

/-- Work that has come some way can be taken to its end. -/
theorem Path.exists_runs (h : w.Path deeds w') :
    ∃ later value, w.Runs (deeds ++ later) value :=
  ⟨_, _, h.trans (follow_runs .calm w' deeds)⟩

end Work

end Pipeline
