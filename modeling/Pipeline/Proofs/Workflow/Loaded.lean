import Mathlib.Data.List.Forall2
import Pipeline.Proofs.Expression.Conditions
import Pipeline.Workflow.Load

/-! What is sure of workflows and actions that have been loaded: every job has steps, and the
condition of every step can be read. -/

namespace Pipeline.Document

/-- What comes out of a list corresponds to it, in order. -/
theorem forall₂_of_mapM {ε α β : Type} {f : α → Except ε β} {as : List α} {bs : List β}
    (h : as.mapM f = .ok bs) : List.Forall₂ (fun a b => f a = .ok b) as bs := by
  induction as generalizing bs with
  | nil =>
    cases h
    exact .nil
  | cons a rest ih =>
    rw [List.mapM_cons] at h
    simp only [bind, Except.bind] at h
    split at h
    · cases h
    · next first hfirst =>
      split at h
      · cases h
      · next others hothers =>
        cases h
        exact .cons hfirst (ih hothers)

/-- If a list does not go through, something in it does not. -/
theorem error_of_mapM {ε α β : Type} {f : α → Except ε β} {as : List α} {e : ε}
    (h : as.mapM f = .error e) : ∃ a ∈ as, f a = .error e := by
  induction as with
  | nil => cases h
  | cons a rest ih =>
    rw [List.mapM_cons] at h
    cases hfirst : f a with
    | error fault =>
      rw [hfirst] at h
      cases h
      exact ⟨a, .head _, hfirst⟩
    | ok first =>
      cases hothers : rest.mapM f with
      | error fault =>
        rw [hfirst, hothers] at h
        cases h
        obtain ⟨other, hmem, hother⟩ := ih hothers
        exact ⟨other, .tail _ hmem, hother⟩
      | ok others =>
        rw [hfirst, hothers] at h
        cases h

/-- Lists that correspond have a counterpart for everything in them. -/
theorem exists_of_forall₂ {α β : Type} {R : α → β → Prop} {as : List α} {bs : List β}
    (h : List.Forall₂ R as bs) : (∀ a ∈ as, ∃ b ∈ bs, R a b) ∧ ∀ b ∈ bs, ∃ a ∈ as, R a b := by
  induction h with
  | nil => exact ⟨nofun, nofun⟩
  | @cons a b rest others hpair _ ih =>
    refine ⟨List.forall_mem_cons.mpr ⟨⟨b, .head _, hpair⟩, fun a' ha' => ?_⟩,
      List.forall_mem_cons.mpr ⟨⟨a, .head _, hpair⟩, fun b' hb' => ?_⟩⟩
    · obtain ⟨b', hb', hrel⟩ := ih.1 a' ha'
      exact ⟨b', .tail _ hb', hrel⟩
    · obtain ⟨a', ha', hrel⟩ := ih.2 b' hb'
      exact ⟨a', .tail _ ha', hrel⟩

/-- Everything that comes out of a list comes from something in it. -/
theorem mapM_ok {ε α β : Type} {f : α → Except ε β} {as : List α} {bs : List β}
    (h : as.mapM f = .ok bs) : bs.length = as.length ∧ ∀ b ∈ bs, ∃ a ∈ as, f a = .ok b :=
  ⟨(forall₂_of_mapM h).length_eq.symm, (exists_of_forall₂ (forall₂_of_mapM h)).2⟩

/-- A list goes through if everything in it does. -/
theorem exists_mapM_eq_ok {ε α β : Type} {f : α → Except ε β} {R : α → β → Prop} {as : List α}
    (h : ∀ a ∈ as, ∃ b, f a = .ok b ∧ R a b) :
    ∃ bs, as.mapM f = .ok bs ∧ List.Forall₂ R as bs := by
  induction as with
  | nil => exact ⟨[], rfl, .nil⟩
  | cons a rest ih =>
    obtain ⟨⟨b, hb, hrel⟩, hrest⟩ := List.forall_mem_cons.mp h
    obtain ⟨bs, hbs, hrels⟩ := ih hrest
    refine ⟨b :: bs, ?_, .cons hrel hrels⟩
    rw [List.mapM_cons, hb, hbs]
    rfl

theorem isReadable_of_checkCondition {step : Step} (h : step.checkCondition = .ok ()) :
    Expression.IsReadable step.condition := by
  unfold Step.checkCondition at h
  split at h
  · next hnone => exact .inl (by rw [hnone]; rfl)
  · next condition hcondition =>
    split at h
    · cases h
    · next expr hparse => exact .inr ⟨expr, by rw [hcondition]; exact hparse⟩

/-- Every step that has been checked has a sound body and a sound condition. -/
theorem checked_of_checkSteps {owner : String} {steps : List Step} {index : Nat} {ids : List String}
    (h : checkStepsFrom owner index ids steps = .ok ()) :
    ∀ step ∈ steps, step.checkBody = .ok () ∧ step.checkCondition = .ok () := by
  induction steps generalizing index ids with
  | nil => exact fun _ hstep => by cases hstep
  | cons step rest ih =>
    simp only [checkStepsFrom, bind, Except.bind, pure, Except.pure, throw, throwThe,
      MonadExceptOf.throw] at h
    split at h
    · cases h
    · next hbody =>
      cases hcondition : step.checkCondition with
      | error fault =>
        rw [hcondition] at h
        split at h
        · cases h
        · split at h <;> cases h
      | ok =>
        refine List.forall_mem_cons.mpr ⟨⟨hbody, hcondition⟩, ?_⟩
        rw [hcondition] at h
        split at h
        · exact ih h
        · split at h
          · cases h
          · exact ih h

theorem isReadable_of_checkSteps {owner : String} {steps : List Step} {index : Nat}
    {ids : List String} (h : checkStepsFrom owner index ids steps = .ok ()) :
    ∀ step ∈ steps, Expression.IsReadable step.condition :=
  fun step hstep => isReadable_of_checkCondition (checked_of_checkSteps h step hstep).2

theorem condition_of_compile {defaults : RunDefaults} {step : Step} {compiled : Pipeline.Step}
    (h : step.compile defaults = .ok compiled) : compiled.condition = step.condition := by
  simp only [Step.compile, bind, Except.bind, pure, Except.pure, throw, throwThe,
    MonadExceptOf.throw] at h
  split at h
  · cases h
    rfl
  · split at h <;> cases h
    rfl
  · cases h

/-- Steps that have been checked keep their conditions when they are compiled. -/
theorem isReadable_of_compile {owner : String} {steps : List Step} {defaults : RunDefaults}
    {compiled : List Pipeline.Step} (hcheck : checkSteps owner steps = .ok ())
    (h : steps.mapM (Step.compile defaults) = .ok compiled) :
    ∀ step ∈ compiled, Expression.IsReadable step.condition := by
  intro step hstep
  obtain ⟨written, hwritten, hcompiled⟩ := (mapM_ok h).2 step hstep
  rw [condition_of_compile hcompiled]
  exact isReadable_of_checkSteps hcheck written hwritten

/-- What stands under `uses` in a step can be read as this reference. -/
def Step.Mentions (step : Step) (reference : ActionRef) : Prop :=
  ∃ text, step.uses = some text ∧ ActionRef.parse text = .ok reference

theorem reference?_eq_some_iff {defaults : RunDefaults} {step : Step} {compiled : Pipeline.Step}
    {reference : ActionRef} (hbody : step.checkBody = .ok ())
    (h : step.compile defaults = .ok compiled) :
    compiled.reference? = some reference ↔ step.Mentions reference := by
  simp only [Step.compile, bind, Except.bind, pure, Except.pure, throw, throwThe,
    MonadExceptOf.throw] at h
  unfold Step.checkBody at hbody
  unfold Step.Mentions
  cases hrun : step.run with
  | some run =>
    cases huses : step.uses with
    | some uses => simp [hrun, huses] at hbody
    | none =>
      simp only [hrun, huses] at h
      cases h
      simp [Pipeline.Step.reference?]
  | none =>
    cases huses : step.uses with
    | none => simp [hrun, huses] at hbody
    | some uses =>
      cases hparse : ActionRef.parse uses with
      | error e => simp [hrun, huses, hparse] at hbody
      | ok found =>
        simp only [hrun, huses, hparse] at h
        cases h
        simp [Pipeline.Step.reference?, hparse]

/-- A job that has been checked has steps, a sound matrix if any, and room to run. -/
theorem checkJob_ok {id : String} {job : Job} (h : checkJob id job = .ok ()) :
    job.steps ≠ [] ∧
      (∀ matrix, job.strategy.bind (·.matrix) = some matrix → checkMatrix id matrix = .ok ()) ∧
      job.strategy.bind (·.maxParallel) ≠ some 0 ∧
      checkSteps ("job '" ++ id ++ "'") job.steps = .ok () := by
  simp only [checkJob, bind, Except.bind, throw, throwThe, MonadExceptOf.throw] at h
  split at h
  · cases h
  · next hsteps =>
    refine ⟨fun hnil => hsteps (List.isEmpty_iff.mpr hnil), ?_⟩
    cases hmatrix : job.strategy.bind (·.matrix) with
    | none =>
      rw [hmatrix] at h
      dsimp only [pure, Except.pure] at h
      split at h
      · cases h
      · next hparallel => exact ⟨nofun, hparallel, h⟩
    | some matrix =>
      rw [hmatrix] at h
      dsimp only at h
      split at h
      · cases h
      · next hcheck =>
        split at h
        · cases h
        · next hparallel =>
          refine ⟨?_, hparallel, h⟩
          rintro _ ⟨⟩
          exact hcheck

theorem checkJobs_ok {jobs : List (String × Job)} (h : checkJobs jobs = .ok ()) :
    ∀ entry ∈ jobs, checkJob entry.1 entry.2 = .ok () := by
  induction jobs with
  | nil => exact fun _ hentry => by cases hentry
  | cons entry rest ih =>
    obtain ⟨id, job⟩ := entry
    simp only [checkJobs, bind, Except.bind] at h
    split at h
    · cases h
    · next hjob => exact List.forall_mem_cons.mpr ⟨hjob, ih h⟩

/-- A workflow that has been checked has sound triggers, a sound group if any, and sound jobs. -/
theorem check_ok {workflow : Workflow} (h : workflow.check = .ok ()) :
    Pipeline.Trigger.checkKinds workflow.on.kinds = .ok () ∧
      (∀ concurrency, workflow.concurrency = some concurrency →
        checkConcurrency concurrency = .ok ()) ∧
      workflow.jobs ≠ [] ∧ checkJobs workflow.jobs = .ok () := by
  simp only [Workflow.check, bind, Except.bind, throw, throwThe, MonadExceptOf.throw] at h
  split at h
  · cases h
  · next hkinds =>
    refine ⟨hkinds, ?_⟩
    cases hconcurrency : workflow.concurrency with
    | none =>
      rw [hconcurrency] at h
      dsimp only [pure, Except.pure] at h
      split at h
      · cases h
      · next hjobs => exact ⟨nofun, fun hnil => hjobs (List.isEmpty_iff.mpr hnil), h⟩
    | some concurrency =>
      rw [hconcurrency] at h
      dsimp only [pure, Except.pure] at h
      split at h
      · cases h
      · next hcheck =>
        split at h
        · cases h
        · next hjobs =>
          refine ⟨?_, fun hnil => hjobs (List.isEmpty_iff.mpr hnil), h⟩
          rintro _ ⟨⟩
          exact hcheck

theorem steps_of_compile {defaults : RunDefaults} {id : String} {job : Job}
    {compiled : Pipeline.Job} (h : job.compile defaults id = .ok compiled) :
    ∃ defaults, job.steps.mapM (Step.compile defaults) = .ok compiled.steps := by
  simp only [Job.compile, bind, Except.bind] at h
  split at h
  · cases h
  · next steps hsteps =>
    cases h
    exact ⟨_, hsteps⟩

theorem jobs_of_compile {document : Workflow} {workflow : Pipeline.Workflow}
    (h : document.compile = .ok workflow) : document.check = .ok () ∧
      ∃ defaults, (document.jobs.mapM fun entry => entry.2.compile defaults entry.1) =
        .ok workflow.jobs := by
  simp only [Workflow.compile, bind, Except.bind] at h
  split at h
  · cases h
  · next hcheck =>
    split at h
    · cases h
    · next jobs hjobs =>
      cases h
      exact ⟨hcheck, _, hjobs⟩

/-- Every job of a workflow that compiles has steps, and their conditions can be read. -/
theorem sound_of_compile {document : Workflow} {workflow : Pipeline.Workflow}
    (h : document.compile = .ok workflow) {job : Pipeline.Job} (hjob : job ∈ workflow.jobs) :
    job.steps ≠ [] ∧ ∀ step ∈ job.steps, Expression.IsReadable step.condition := by
  obtain ⟨hcheck, defaults, hjobs⟩ := jobs_of_compile h
  obtain ⟨entry, hentry, hcompiled⟩ := (mapM_ok hjobs).2 job hjob
  obtain ⟨-, -, -, hchecked⟩ := check_ok hcheck
  obtain ⟨hne, -, -, hsteps⟩ := checkJob_ok (checkJobs_ok hchecked entry hentry)
  obtain ⟨defaults, hmap⟩ := steps_of_compile hcompiled
  refine ⟨fun hnil => hne ?_, isReadable_of_compile hsteps hmap⟩
  have hlength := (mapM_ok hmap).1
  rw [hnil] at hlength
  exact List.length_eq_zero_iff.mp hlength.symm

end Pipeline.Document
