import Pipeline.Execution.Instance

/-! The work of the steps of an instance is steady: it takes no slot and gives none back, sets no
status and cancels nobody. Whatever it is answered, it ends in a result that is cancelled only if
one of the answers was that the work is cancelled. -/

namespace Pipeline

namespace Work

variable {α β : Type} {P Q : Bool → α → Prop} {w : Work α} {seen : Bool}

/-- The work takes part in nothing that the instances of a job share, and its value satisfies `P`
whatever the answers are. The flag says whether an answer so far was that the work is cancelled:
it did when it looked, or a command was. -/
def Steady (P : Bool → α → Prop) : Work α → Bool → Prop
  | done value, seen => P seen value
  | look resume, seen => ∀ b, (resume b).Steady P (seen || b)
  | report _ rest, seen | log _ _ rest, seen | start _ rest, seen => rest.Steady P seen
  | resolve _ resume, seen => ∀ steps, (resume steps).Steady P seen
  | await _ resume, seen =>
    ∀ lines result, (resume lines result).Steady P (seen || result.cancelled)
  | invoke _ _ _ resume, seen => ∀ answer, (resume answer).Steady P seen
  | queueUp _, _ | awaitSlot _, _ | freeSlot _, _ | move _ _, _ | cancelSiblings _, _ => False

namespace Steady

/-- A weaker condition on the value, which may use that what was seen stays seen. -/
theorem imp (h : w.Steady P seen)
    (hPQ : ∀ s value, (seen = true → s = true) → P s value → Q s value) : w.Steady Q seen := by
  induction w generalizing seen with
  | done value => exact hPQ seen value id h
  | look resume ih =>
    exact fun b => ih b (h b) fun s value hs => hPQ s value fun hseen => hs (by rw [hseen]; rfl)
  | report _ rest ih | log _ _ rest ih | start _ rest ih => exact ih h hPQ
  | resolve _ resume ih => exact fun steps => ih steps (h steps) hPQ
  | await _ resume ih =>
    exact fun lines result => ih lines result (h lines result) fun s value hs =>
      hPQ s value fun hseen => hs (by rw [hseen]; rfl)
  | invoke _ _ _ resume ih => exact fun answer => ih answer (h answer) hPQ
  | queueUp | awaitSlot | freeSlot | move | cancelSiblings => exact h.elim

theorem bind {P : Bool → β → Prop} {w : Work β} {next : β → Work α} (h : w.Steady P seen)
    (hnext : ∀ s value, P s value → (next value).Steady Q s) : (w.bind next).Steady Q seen := by
  induction w generalizing seen with
  | done value => exact hnext seen value h
  | look resume ih => exact fun b => ih b (h b)
  | report _ rest ih | log _ _ rest ih | start _ rest ih => exact ih h
  | resolve _ resume ih => exact fun steps => ih steps (h steps)
  | await _ resume ih => exact fun lines result => ih lines result (h lines result)
  | invoke _ _ _ resume ih => exact fun answer => ih answer (h answer)
  | queueUp | awaitSlot | freeSlot | move | cancelSiblings => exact h.elim

/-- Work of which only what comes after it matters. -/
theorem andThen {w : Work β} {next : β → Work α} (h : w.Steady (fun _ _ => True) seen)
    (hnext : ∀ s value, (seen = true → s = true) → (next value).Steady Q s) :
    (w.bind next).Steady Q seen :=
  (h.imp (Q := fun s _ => seen = true → s = true) fun _ _ hs _ => hs).bind hnext

theorem cancelled (seen : Bool) :
    Work.cancelled.Steady (fun s b => (b = true → s = true) ∧ (seen = true → s = true)) seen := by
  intro b
  cases seen <;> cases b <;> exact ⟨by decide, by decide⟩

theorem tell (event : JobEvent) (seen : Bool) :
    (Work.tell event).Steady (fun _ _ => True) seen := trivial

theorem write (level : LogLevel) (message : String) (seen : Bool) :
    (Work.write level message).Steady (fun _ _ => True) seen := trivial

theorem tellLines (step : String) (lines : List Command.Line) (seen : Bool) :
    (Work.tellLines step lines).Steady (fun _ _ => True) seen := by
  induction lines with
  | nil => trivial
  | cons line rest ih => exact ih

theorem runCommand (step : String) (request : Command.Request) (seen : Bool) :
    (Work.runCommand step request).Steady (fun s result => result.cancelled = true → s = true)
      seen := by
  intro lines result
  refine (tellLines step lines _).andThen fun s _ hs hcancelled => hs ?_
  rw [hcancelled, Bool.or_true]

end Steady

end Work

/-- A status that is cancelled only if the work has been seen to be. -/
def Blamed (seen : Bool) (result : StepResult) : Prop :=
  result.status = .cancelled → seen = true

theorem Blamed.mono {seen s : Bool} {result : StepResult} (h : Blamed seen result)
    (hs : seen = true → s = true) : Blamed s result :=
  fun hcancelled => hs (h hcancelled)

theorem commandStatus_eq_cancelled {result : Command.Result}
    (h : commandStatus result = .cancelled) : result.cancelled = true := by
  unfold commandStatus at h
  split at h
  · assumption
  · split at h <;> cases h

namespace Setting

variable (setting : Setting) (depth : Nat) (scope : Scope) (spec : Step) (seen : Bool)

theorem steady_runScript (env : Dict String) (script : String) (shell directory : Option String) :
    (setting.runScript scope spec env script shell directory).Steady
      (fun s r => Blamed s r.1) seen := by
  unfold runScript
  split
  · exact StepStatus.noConfusion
  · exact (Work.Steady.runCommand _ _ seen).bind fun s result hresult hcancelled =>
      hresult (commandStatus_eq_cancelled hcancelled)

theorem blamed_compositeResult {info : CompositeInfo} {results : List StepResult} {inner : Scope}
    (h : ∀ result ∈ results, Blamed seen result) :
    Blamed seen (setting.compositeResult spec info results inner) := by
  unfold compositeResult
  intro hcancelled
  split at hcancelled
  · next hany =>
    obtain ⟨result, hmem, hstatus⟩ := List.any_eq_true.mp hany
    exact h result hmem (of_decide_eq_true hstatus)
  · split at hcancelled
    · cases hcancelled
    · split at hcancelled <;> cases hcancelled

theorem steady_runExternal (action : ExternalAction) (env inputs : Dict String) :
    (setting.runExternal depth spec action env inputs).Steady Blamed seen := by
  unfold runExternal
  split
  · -- the host has answered; its own word does not make the step cancelled
    intro answer
    refine (Work.Steady.cancelled seen).bind fun s b hb hcancelled => hb.1 ?_
    cases b with
    | true => rfl
    | false =>
      exfalso
      revert hcancelled
      show (if answer.success then StepStatus.succeeded else .failed) = .cancelled → False
      split <;> exact StepStatus.noConfusion
  · split
    · exact StepStatus.noConfusion
    · exact (Work.Steady.tell _ seen).andThen fun s _ _ =>
        (Work.Steady.write _ _ s).andThen fun _ _ _ => StepStatus.noConfusion

theorem steady_runBody {body : Dict String → Dict String → Work (StepResult × Scope)}
    (hbody : ∀ env inputs s, (body env inputs).Steady (fun s r => Blamed s r.1) s) :
    (setting.runBody depth scope spec body).Steady (fun s r => Blamed s r.1) seen := by
  have hend (r : StepResult × Scope) (s : Bool) (hr : Blamed s r.1) :
      ((Work.tell (.stepCompleted spec.name depth r.1.status r.1.exitCode)).bind fun _ =>
        .done (spec.settle r.1, r.2)).Steady (fun s r => Blamed s r.1) s := by
    refine (Work.Steady.tell _ s).andThen fun s' _ hs => ?_
    show Blamed s' (spec.settle r.1)
    unfold Blamed
    rw [Step.settle_status]
    exact hr.mono hs
  refine (Work.Steady.tell _ seen).andThen fun s _ _ => ?_
  dsimp only [bind]
  split
  · exact hend _ s StepStatus.noConfusion
  · exact (hbody _ _ s).bind fun s r hr => hend r s hr

theorem steady_guarded {body : Dict String → Dict String → Work (StepResult × Scope)}
    (hbody : ∀ env inputs s, (body env inputs).Steady (fun s r => Blamed s r.1) s) :
    (setting.guarded depth scope spec body).Steady (fun s r => Blamed s r.1) seen := by
  refine (Work.Steady.cancelled seen).bind fun s b hb => ?_
  split
  · next hcancelled => exact fun _ => hb.1 hcancelled
  · split
    · show Blamed s (spec.settle _)
      unfold Blamed
      rw [Step.settle_status]
      exact StepStatus.noConfusion
    · exact (Work.Steady.tell _ s).andThen fun _ _ _ => StepStatus.noConfusion
    · exact setting.steady_runBody depth scope spec s hbody

/-- Steps in turn are steady, and each of their results is cancelled only if the work was. The
induction follows steps into the actions that they use. -/
theorem steady_runSteps (steps : List ResolvedStep) :
    (setting.runSteps depth scope steps).Steady
      (fun s r => ∀ result ∈ r.1, Blamed s result) seen := by
  refine (Setting.runStep.mutual_induct
    (fun depth scope step => ∀ seen,
      (setting.runStep depth scope step).Steady (fun s r => Blamed s r.1) seen)
    (fun depth spec env inputs action => ∀ seen,
      (setting.runAction depth spec env inputs action).Steady Blamed seen)
    (fun depth scope steps => ∀ seen, (setting.runSteps depth scope steps).Steady
      (fun s r => ∀ result ∈ r.1, Blamed s result) seen)
    ?external ?composite ?missing ?plain ?uses ?nil ?cons).2.2 depth scope steps seen
  case external =>
    intro depth spec env inputs action seen
    exact setting.steady_runExternal depth spec seen action env inputs
  case composite =>
    intro depth spec env inputs info steps given missing hnone inner ih seen
    rw [runAction, if_pos hnone]
    exact (ih seen).bind fun s r hr => setting.blamed_compositeResult spec s hr
  case missing =>
    intro depth spec env inputs info steps given missing hsome seen
    rw [runAction, if_neg hsome]
    exact StepStatus.noConfusion
  case plain =>
    intro depth scope spec seen
    refine setting.steady_guarded depth scope spec seen fun env _ s => ?_
    split
    · exact setting.steady_runScript scope spec s _ _ _ _
    · exact StepStatus.noConfusion
  case uses =>
    intro depth scope spec action ih seen
    refine setting.steady_guarded depth scope spec seen fun env inputs s => ?_
    exact (ih env inputs s).bind fun _ _ hr => hr
  case nil =>
    intro depth scope seen result hmem
    cases hmem
  case cons =>
    intro depth scope step rest ihStep ihRest seen
    refine (ihStep seen).bind fun s r hr => ?_
    refine ((ihRest r.1 r.2 s).imp (Q := fun s' rs => Blamed s' r.1 ∧
      ∀ result ∈ rs.1, Blamed s' result) fun s' rs hs hrs => ⟨hr.mono hs, hrs⟩).bind ?_
    intro s' rs hrs result hmem
    rcases List.mem_cons.mp hmem with rfl | hmem
    · exact hrs.1
    · exact hrs.2 result hmem

end Setting

/-! ### Instances -/

/-- The result of the instance `i` has come to an end, and is cancelled only if the work was. -/
structure Verdict (i : Instance) (seen : Bool) (result : JobResult) : Prop where
  index : result.index = i.index
  terminal : result.status.isTerminal = true
  blamed : result.status = .cancelled → seen = true

theorem isTerminal_jobStatus (steps : List StepResult) : (jobStatus steps).isTerminal = true := by
  unfold jobStatus
  split
  · rfl
  · split <;> rfl

theorem exists_cancelled_of_jobStatus {steps : List StepResult}
    (h : jobStatus steps = .cancelled) : ∃ result ∈ steps, result.status = .cancelled := by
  unfold jobStatus at h
  split at h
  · next hany =>
    obtain ⟨result, hmem, hstatus⟩ := List.any_eq_true.mp hany
    exact ⟨result, hmem, of_decide_eq_true hstatus⟩
  · split at h <;> cases h

namespace Job

variable (job : Job) (run : RunInfo) (hasHost : Bool) (i : Instance)

theorem steady_run (seen : Bool) : (job.run run hasHost i).Steady (Verdict i) seen := by
  have hend (result : JobResult) (s : Bool) (h : Verdict i s result) :
      ((Work.tell (.completed job.id result.status)).bind fun _ => .done result).Steady
        (Verdict i) s :=
    (Work.Steady.tell _ s).andThen fun _ _ hs =>
      ⟨h.index, h.terminal, fun hcancelled => hs (h.blamed hcancelled)⟩
  refine (Work.Steady.cancelled seen).bind fun s b hb => ?_
  split
  · next hcancelled => exact ⟨rfl, rfl, fun _ => hb.1 hcancelled⟩
  · refine (Work.Steady.tell _ s).andThen fun s _ _ resolved => ?_
    dsimp only [bind, Work.bind]
    split
    · refine (Setting.steady_runSteps _ _ _ _ _).bind fun s r hr => hend _ s ?_
      refine ⟨rfl, isTerminal_jobStatus _, fun hcancelled => ?_⟩
      obtain ⟨result, hmem, hstatus⟩ := exists_cancelled_of_jobStatus hcancelled
      exact hr result hmem hstatus
    · exact (Work.Steady.write _ _ s).andThen fun s _ _ =>
        hend _ s ⟨rfl, rfl, JobStatus.noConfusion⟩

/-- The first thing that an instance does is to look whether it has been cancelled; one that has is
over at once. -/
theorem run_eq_look : ∃ rest, job.run run hasHost i =
    .look fun b => if b = true then .done (job.cancelledResult i) else rest :=
  ⟨_, rfl⟩

end Job

end Pipeline
