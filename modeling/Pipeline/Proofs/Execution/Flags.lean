import Pipeline.Proofs.Action.Readable
import Pipeline.Proofs.Execution.Visits

/-! The flags of a scope say what the results of its steps say, wherever the steps run. A step sees
what came of those before it in its row, and the status of a job is what its last step leaves. -/

namespace Pipeline

namespace Expression.JobFlags

/-- The flags that results leave where nothing has happened before them. -/
def ofResults (results : List StepResult) : JobFlags :=
  ⟨results.any (·.isFailure), results.any (·.status = .cancelled)⟩

/-- The status of a job that ends with the flags. A cancellation counts before a failure. -/
def jobStatus (flags : JobFlags) : JobStatus :=
  if flags.cancelled then .cancelled else if flags.failed then .failed else .succeeded

theorem jobStatus_ofResults (results : List StepResult) :
    (ofResults results).jobStatus = Pipeline.jobStatus results := rfl

end Expression.JobFlags

/-- The steps after it in its row run only if they ask for the status. -/
def StepResult.stops (result : StepResult) : Bool :=
  result.isFailure || result.status = .cancelled

theorem Expression.JobFlags.succeeds_ofResults (results : List StepResult) :
    (ofResults results).succeeds = !results.any (·.stops) := by
  induction results with
  | nil => rfl
  | cons result rest ih =>
    simp only [succeeds, ofResults, List.any_cons, StepResult.stops, Bool.not_or] at ih ⊢
    rw [← ih]
    ac_rfl

open Expression (JobFlags)

/-- A result adds its own flags to those before it. -/
theorem Scope.statusAfter_eq (status : JobFlags) (result : StepResult) :
    statusAfter status result =
      ⟨status.failed || result.isFailure,
        status.cancelled || decide (result.status = .cancelled)⟩ := by
  unfold statusAfter StepResult.isFailure
  cases result.status with
  | failed => cases result.continued <;> simp
  | succeeded | skipped | cancelled => simp

namespace Setting

variable {setting : Setting} {row : Row} {visit : Visit}

/-- A row leaves the flags that it started from, and those of its results. -/
theorem Ran.status_eq (h : setting.Ran row) :
    row.after.status =
      ⟨row.scope.status.failed || row.results.any (·.isFailure),
        row.scope.status.cancelled || row.results.any (·.status = .cancelled)⟩ := by
  refine h.induct (P := fun row => row.after.status =
    ⟨row.scope.status.failed || row.results.any (·.isFailure),
      row.scope.status.cancelled || row.results.any (·.status = .cancelled)⟩) ?_ ?_
  · intro _ scope
    simp
  · intro _ scope _ _ _ _ result mid _ _ hstep hrest
    have hmid : mid.status = scope.status := hstep.status_eq
    rw [hrest, Scope.record, Scope.statusAfter_eq, hmid]
    simp [Bool.or_assoc]

theorem Ran.status_of_ok (h : setting.Ran row) (hok : row.scope.status = .ok) :
    row.after.status = .ofResults row.results := by
  rw [h.status_eq, hok]
  rfl

theorem InTurn.status_eq {before : List StepResult} {visits : List Visit}
    (h : setting.InTurn before row visits) (hbefore : row.scope.status = .ofResults before)
    (hvisit : visit ∈ visits) : visit.scope.status = .ofResults visit.before := by
  induction h with
  | nil => cases hvisit
  | cons runs _ ih =>
    cases hvisit with
    | head => exact hbefore
    | tail _ hvisit =>
      refine ih ?_ hvisit
      rw [Scope.record, Scope.statusAfter_eq, (stepGoes runs).status_eq, hbefore]
      simp [JobFlags.ofResults]

/-- Where the row started from nothing, each step finds the flags of the results before it, also
inside composite actions: their steps start from nothing as well. -/
theorem Visits.status_eq (h : setting.Visits row visit) (hok : row.scope.status = .ok) :
    visit.scope.status = .ofResults visit.before := by
  induction h with
  | here turn mem => exact turn.status_eq hok mem
  | inside _ encloses _ _ ih =>
    refine ih ?_
    obtain ⟨_, _, hfresh⟩ := encloses.fresh
    rw [hfresh]
    rfl

/-- A step sees what came of the steps before it in its row, and is entered where its condition
holds with that. After one that stops the row it does nothing, unless its condition asks for the
status. -/
structure Sees (setting : Setting) (visit : Visit) : Prop where
  success : ∀ env, Expression.evaluate "success()" (setting.info.context visit.scope env) =
    .ok (.bool !visit.before.any (·.stops))
  failure : ∀ env, Expression.evaluate "failure()" (setting.info.context visit.scope env) =
    .ok (.bool (visit.before.any (·.isFailure) && !visit.before.any (·.status = .cancelled)))
  continued : visit.result.continued =
    (decide (visit.result.status = .failed) && visit.step.spec.continueOnError)
  entered : .reported (.stepStarted visit.step.spec.name visit.depth) ∈ visit.deeds ↔
    setting.Enters visit
  idle : visit.before.any (·.stops) = true →
    ¬ Expression.AsksStatus visit.step.spec.condition →
    ∀ d ∈ visit.deeds, (∃ b, d = .looked b) ∨
      d = .reported (.stepSkipped visit.step.spec.name visit.depth visit.step.spec.skipReason)
  left : visit.before.any (·.stops) = true →
    ¬ Expression.AsksStatus visit.step.spec.condition →
    Expression.IsReadable visit.step.spec.condition →
    visit.result.status = .skipped ∨ visit.result.status = .cancelled

/-- The report that a step starts is made for the steps that are entered. -/
theorem StepGoes.started_iff {Inner : Row → Prop}
    (h : StepGoes setting Inner visit.depth visit.scope visit.step visit.deeds visit.result
      visit.after) :
    .reported (.stepStarted visit.step.spec.name visit.depth) ∈ visit.deeds ↔
      setting.Enters visit := by
  obtain ⟨depth, before, scope, step, deeds, result, after⟩ := visit
  dsimp only at h ⊢
  refine ⟨fun hstarted => ?_, fun henters => ?_⟩
  · cases h with
    | cancelled | invalid | skipped => simp at hstarted
    | entered condition => exact ⟨rfl, condition⟩
  · obtain ⟨_, _, -, -, hdeeds⟩ := h.exists_body henters.looked henters.condition
    rw [hdeeds]
    exact .tail _ (.head _)

/-- After a failure, a step that does not ask for the status is left alone. -/
theorem StepGoes.of_not_succeeds {Inner : Row → Prop} {depth : Nat} {scope after : Scope}
    {step : ResolvedStep} {deeds : List Deed} {result : StepResult}
    (h : StepGoes setting Inner depth scope step deeds result after)
    (hfailed : scope.status.succeeds = false)
    (hasks : ¬ Expression.AsksStatus step.spec.condition) :
    (∀ d ∈ deeds, (∃ b, d = .looked b) ∨
      d = .reported (.stepSkipped step.spec.name depth step.spec.skipReason)) ∧
    (Expression.IsReadable step.spec.condition →
      result.status = .skipped ∨ result.status = .cancelled) := by
  have hcondition := Expression.evaluateCondition_of_not_succeeds step.spec.condition
    (setting.info.context scope scope.env) hfailed hasks
  cases h with
  | cancelled => exact ⟨by simp, fun _ => .inr rfl⟩
  | skipped condition => exact ⟨by simp, fun _ => .inl rfl⟩
  | invalid condition =>
    refine ⟨by simp, fun hreadable => ?_⟩
    obtain hfalse | ⟨hunreadable, _⟩ := hcondition
    · rw [condition] at hfalse
      cases hfalse
    · exact absurd hreadable hunreadable
  | entered condition =>
    rw [condition] at hcondition
    obtain hfalse | ⟨_, _, herror⟩ := hcondition
    · cases hfalse
    · cases herror

theorem Visits.sees (h : setting.Visits row visit) (hok : row.scope.status = .ok) :
    setting.Sees visit := by
  have hstatus := h.status_eq hok
  have hjob (env : Dict String) :
      (setting.info.context visit.scope env).job = .ofResults visit.before := hstatus
  have hheld (hstops : visit.before.any (·.stops) = true) :
      visit.scope.status.succeeds = false := by
    rw [hstatus, JobFlags.succeeds_ofResults, hstops]
    rfl
  refine ⟨fun env => ?_, fun env => ?_, h.goes.settled.2.2, h.goes.started_iff,
    fun hstops hasks => ?_, fun hstops hasks => ?_⟩
  · rw [Expression.evaluate_success, hjob, JobFlags.succeeds_ofResults]
  · rw [Expression.evaluate_failure, hjob]
    rfl
  · exact (h.goes.of_not_succeeds (hheld hstops) hasks).1
  · exact (h.goes.of_not_succeeds (hheld hstops) hasks).2

end Setting

theorem InstanceInfo.status_of_rootScope {info : InstanceInfo} {job : Job} {scope : Scope}
    (h : info.rootScope job = .ok scope) : scope.status = .ok := by
  simp only [InstanceInfo.rootScope, bind, Except.bind] at h
  split at h
  · cases h
  · split at h
    · cases h
    · cases h
      rfl

/-- The steps of a job start where nothing has happened. -/
theorem InstanceInfo.status_of_prepare {info : InstanceInfo} {job : Job}
    {found : Except Error (List ResolvedStep)} {steps : List ResolvedStep} {scope : Scope}
    (h : info.prepare job found = .ok (steps, scope)) : scope.status = .ok :=
  status_of_rootScope (of_prepare h).2

/-! ### Conditions that can be read -/

namespace Setting

variable {setting : Setting} {row : Row} {visit : Visit}

theorem Visits.isReadable (h : setting.Visits row visit) (hsteps : ∀ s ∈ row.steps, s.Readable) :
    visit.step.Readable := by
  induction h with
  | here turn mem => exact hsteps _ (turn.steps_eq ▸ List.mem_map_of_mem mem)
  | inside _ encloses _ houter hinner =>
    obtain ⟨-, hinside⟩ := houter hsteps
    exact hinner (encloses.inside_eq ▸ hinside)

end Setting

/-- A step of a job that has been loaded is left alone after a failure, unless it asks for the
status: its condition can be read, also inside the actions that have been looked up. -/
theorem Workflow.left_of_compile {document : Document.Workflow} {workflow : Workflow} {job : Job}
    (hcompile : document.compile = .ok workflow) (hjob : job ∈ workflow.jobs)
    {resolver : Resolver} {tree : FileTree} {memory : Resolver.Memory} (hmemory : memory.Readable)
    {setting : Setting} {row : Row} {visit : Visit}
    (hready : setting.info.prepare job ((resolver.resolveSteps tree job.steps).run memory).1 =
      .ok (row.steps, row.scope))
    (hvisit : setting.Visits row visit) (hstops : visit.before.any (·.stops) = true)
    (hasks : ¬ Expression.AsksStatus visit.step.spec.condition) :
    visit.result.status = .skipped ∨ visit.result.status = .cancelled := by
  have hconditions := (Document.sound_of_compile hcompile hjob).2
  have hsteps : ∀ s ∈ row.steps, s.Readable :=
    ((Resolver.keeps_resolveSteps resolver tree hconditions).after memory hmemory).2 _
      (InstanceInfo.of_prepare hready).1
  obtain ⟨own, -⟩ := hvisit.isReadable hsteps
  exact (hvisit.sees (InstanceInfo.status_of_prepare hready)).left hstops hasks own

namespace Job

variable {job : Job} {run : RunInfo} {hasHost : Bool} {i : Instance} {deeds : List Deed}
  {result : JobResult} {found : Except Error (List ResolvedStep)} {steps : List ResolvedStep}
  {scope : Scope}

/-- Where the actions of an instance were found and its environment holds, its steps have run as one
row, between its start and its end. Every step of it at any depth sees what came of the steps before
it in its row, and the status of the instance is what the last of its own steps leaves. -/
theorem status_follows_results (hrun : (job.run run hasHost i).Runs deeds result)
    (hfound : .lookedUp job.steps found ∈ deeds)
    (hready : InstanceInfo.prepare ⟨run, i.matrix⟩ job found = .ok (steps, scope)) :
    let setting : Setting := ⟨⟨run, i.matrix⟩, hasHost⟩
    ∃! row, job.RanAs run hasHost i deeds result row ∧ row.steps = steps ∧ row.scope = scope ∧
      setting.Traced row ∧ result.status = row.after.status.jobStatus ∧
      ∀ visit, setting.Visits row visit → setting.Sees visit := by
  intro setting
  refine existsUnique_ranAs hrun hfound hready ?_
  rintro row hran rfl rfl
  have hok := InstanceInfo.status_of_prepare hready
  refine ⟨hran.ran.traced, ?_, fun _ hvisit => hvisit.sees hok⟩
  rw [hran.result_eq, hran.ran.status_of_ok hok, JobFlags.jobStatus_ofResults]
  rfl

/-- The first command fails, inside of the composite action. -/
theorem status_follows_results_sample :
    let course := Sample.course 2 fun _ => false
    let setting : Setting := ⟨⟨Sample.run, []⟩, false⟩
    (Sample.job.run Sample.run false Sample.only).Runs course.1 course.2 ∧
    .lookedUp Sample.job.steps (.ok Sample.resolved) ∈ course.1 ∧
    course.2.status = .failed ∧
    ∃ scope, InstanceInfo.prepare ⟨Sample.run, []⟩ Sample.job (.ok Sample.resolved) =
        .ok (Sample.resolved, scope) ∧
      ∃! row, Sample.job.RanAs Sample.run false Sample.only course.1 course.2 row ∧
        row.steps = Sample.resolved ∧ row.scope = scope ∧ setting.Traced row ∧
        JobStatus.failed = row.after.status.jobStatus ∧
        ∀ visit, setting.Visits row visit → setting.Sees visit := by
  intro course setting
  have hrun : (Sample.job.run Sample.run false Sample.only).Runs course.1 course.2 :=
    Sample.course_runs ..
  have hstatus : course.2.status = .failed := by decide +kernel
  have hfound : .lookedUp Sample.job.steps (.ok Sample.resolved) ∈ course.1 :=
    .tail _ (.tail _ (.head _))
  have hfollows := status_follows_results hrun hfound rfl
  rw [hstatus] at hfollows
  exact ⟨hrun, hfound, hstatus, _, rfl, hfollows⟩

end Job

end Pipeline
