import Pipeline.Proofs.Execution.Visits

/-! How far a failure goes: up from the step that it starts in, through the composite actions around
it, to the first one that is to continue after errors. -/

namespace Pipeline

/-- A step that has run, and its result. -/
structure Ended where
  step : ResolvedStep
  result : StepResult

namespace Ended

/-- The steps of a row with their results. -/
def row (steps : List ResolvedStep) (results : List StepResult) : List Ended :=
  List.zipWith mk steps results

/-- The steps inside the composite action that a step uses, with their results. -/
def inside (e : Ended) : List Ended :=
  row e.step.inside e.result.steps

/-- The step is to continue after errors. -/
def marked (e : Ended) : Bool :=
  e.step.spec.continueOnError

/-- A failure that no step directly inside of it has brought about. -/
def IsFault (e : Ended) : Prop :=
  e.result.status = .failed ∧ e.result.steps.any (·.isFailure) = false

/-- One step inside the other leads down to a fault. -/
inductive Trail : Ended → List Ended → Prop where
  | fault {e : Ended} (own : e.IsFault) : Trail e []
  | down {e c : Ended} {below : List Ended} (mem : c ∈ e.inside) (rest : c.Trail below) :
      Trail e (c :: below)

/-- The step is one of a row, or inside of one of its steps. -/
inductive Within (tops : List Ended) : Ended → Prop where
  | top {e : Ended} (mem : e ∈ tops) : Within tops e
  | inside {e c : Ended} (outer : Within tops e) (mem : c ∈ e.inside) : Within tops c

/-- What a result that is not cancelled says of its step, and of the results directly inside. -/
structure Fits (e : Ended) : Prop where
  name : e.result.name = e.step.spec.name
  id : e.result.id = e.step.spec.id
  continued : e.result.continued = (decide (e.result.status = .failed) && e.marked)
  complete : ∀ r ∈ e.result.steps, ∃ c ∈ e.inside, c.result = r
  raised : e.result.steps.any (·.isFailure) = true → e.result.status = .failed

/-- A result fits its step, and so do the results inside at every depth. -/
inductive Grown : Ended → Prop where
  | intro {e : Ended} (fits : e.Fits) (inner : ∀ c ∈ e.inside, c.Grown) : Grown e

theorem exists_mem_row {steps : List ResolvedStep} {results : List StepResult}
    (hlength : results.length = steps.length) {r : StepResult} (hr : r ∈ results) :
    ∃ e ∈ row steps results, e.result = r := by
  induction steps generalizing results with
  | nil =>
    rw [List.length_eq_zero_iff.mp hlength] at hr
    cases hr
  | cons step rest ih =>
    cases results with
    | nil => cases hr
    | cons result others =>
      cases hr with
      | head => exact ⟨⟨step, r⟩, .head _, rfl⟩
      | tail _ hr =>
        obtain ⟨e, he, hresult⟩ := ih (Nat.succ.inj hlength) hr
        exact ⟨e, .tail _ he, hresult⟩

theorem result_mem_of_mem_row {steps : List ResolvedStep} {results : List StepResult} {e : Ended}
    (he : e ∈ row steps results) : e.result ∈ results := by
  obtain ⟨k, hk, rfl⟩ := List.getElem_of_mem he
  simp [row]

variable {e : Ended}

theorem Fits.isFailure_iff (h : e.Fits) :
    e.result.isFailure = true ↔ e.result.status = .failed ∧ e.marked = false := by
  rw [StepResult.isFailure, h.continued]
  cases e.marked <;> simp

/-- A step has failed where a fault lies in it and nothing between is marked. -/
theorem Grown.failed_iff (h : e.Grown) :
    e.result.status = .failed ↔ ∃ below, e.Trail below ∧ ∀ x ∈ below, x.marked = false := by
  induction h with
  | @intro e fits inner ih =>
    constructor
    · intro hfailed
      cases hany : e.result.steps.any (·.isFailure) with
      | false => exact ⟨[], .fault ⟨hfailed, hany⟩, fun _ hx => by cases hx⟩
      | true =>
        obtain ⟨r, hr, hfailure⟩ := List.any_eq_true.mp hany
        obtain ⟨c, hc, rfl⟩ := fits.complete r hr
        obtain ⟨hcfits, -⟩ := inner c hc
        obtain ⟨hcfailed, hcmark⟩ := hcfits.isFailure_iff.mp hfailure
        obtain ⟨below, htrail, hbelow⟩ := (ih c hc).mp hcfailed
        exact ⟨c :: below, .down hc htrail, List.forall_mem_cons.mpr ⟨hcmark, hbelow⟩⟩
    · rintro ⟨_, own | ⟨hc, htrail⟩, hbelow⟩
      · exact own.1
      · obtain ⟨hcmark, hrest⟩ := List.forall_mem_cons.mp hbelow
        have hcfailed := (ih _ hc).mpr ⟨_, htrail, hrest⟩
        obtain ⟨hcfits, -⟩ := inner _ hc
        have hcfailure := hcfits.isFailure_iff.mpr ⟨hcfailed, hcmark⟩
        exact fits.raised (List.any_eq_true.mpr ⟨_, result_mem_of_mem_row hc, hcfailure⟩)

/-- The result of a step is that of its own faults and of those inside of it that no mark holds
back. -/
structure Explained (e : Ended) : Prop where
  name : e.result.name = e.step.spec.name
  id : e.result.id = e.step.spec.id
  complete : ∀ r ∈ e.result.steps, ∃ c ∈ e.inside, c.result = r
  failed : e.result.status = .failed ↔ ∃ below, e.Trail below ∧ ∀ x ∈ below, x.marked = false
  continued : e.result.continued = true ↔ e.result.status = .failed ∧ e.marked = true

theorem Grown.explained (h : e.Grown) : e.Explained := by
  obtain ⟨fits, inner⟩ := h
  refine ⟨fits.name, fits.id, fits.complete, (Grown.intro fits inner).failed_iff, ?_⟩
  rw [fits.continued, Bool.and_eq_true, decide_eq_true_iff]

theorem Within.grown {tops : List Ended} (h : Within tops e) (htops : ∀ e ∈ tops, e.Grown) :
    e.Grown := by
  induction h with
  | top mem => exact htops _ mem
  | inside _ mem ih =>
    obtain ⟨-, hinner⟩ := ih
    exact hinner _ mem

end Ended

namespace Setting

open Ended

variable {setting : Setting}

theorem CompositeEnds.failed_of_any {spec : Step} {steps : List StepResult} {result : StepResult}
    (h : CompositeEnds spec steps result) (hcalm : result.status ≠ .cancelled)
    (hany : steps.any (·.isFailure) = true) : result.status = .failed := by
  cases h with
  | cancelled => exact absurd rfl hcalm
  | failed | unrendered => rfl
  | succeeded _ none =>
    obtain ⟨r, hr, hfailure⟩ := List.any_eq_true.mp hany
    exact absurd hfailure (List.find?_eq_none.mp none r hr)

variable {Inner : Row → Prop} {depth : Nat} {scope after : Scope} {step : ResolvedStep}
  {deeds : List Deed} {result : StepResult}

theorem StepGoes.fits (h : StepGoes setting Inner depth scope step deeds result after)
    (hlength : ∀ row, Inner row → row.results.length = row.steps.length)
    (hcalm : result.status ≠ .cancelled) : (Ended.mk step result).Fits := by
  obtain ⟨hname, hid, hcontinued⟩ := h.settled
  refine ⟨hname, hid, hcontinued, fun r hr => ?_, fun hany => ?_⟩
  · obtain ⟨inner, hencloses, hinner⟩ := h.exists_inner (List.ne_nil_of_mem hr)
    refine exists_mem_row ?_ hr
    rw [hencloses.steps_eq, hencloses.inside_eq, hlength inner hinner]
  · obtain ⟨r, hr, _⟩ := List.any_eq_true.mp hany
    obtain ⟨inner, hencloses, -⟩ := h.exists_inner (List.ne_nil_of_mem hr)
    rw [hencloses.steps_eq] at hany
    obtain ⟨own, rfl, hends⟩ := hencloses.ends
    rw [Step.settle_status] at hcalm ⊢
    exact hends.failed_of_any hcalm hany

theorem StepGoes.grown (h : StepGoes setting Inner depth scope step deeds result after)
    (hran : ∀ row, Inner row → setting.Ran row)
    (hinner : ∀ row, Inner row → (∀ d ∈ row.deeds, d.tellsCancelled = false) →
      ∀ e ∈ Ended.row row.steps row.results, e.Grown)
    (hcalm : ∀ d ∈ deeds, d.tellsCancelled = false) : (Ended.mk step result).Grown := by
  refine .intro (h.fits (fun row hrow => (hran row hrow).length_eq) fun hresult => ?_) ?_
  · obtain ⟨d, hd, htells⟩ := h.exists_tellsCancelled
      (fun row hrow _ hr => (hran row hrow).exists_tellsCancelled hr) hresult
    rw [hcalm d hd] at htells
    cases htells
  · intro c hc
    obtain ⟨inner, hencloses, hrow⟩ :=
      h.exists_inner (List.ne_nil_of_mem (result_mem_of_mem_row hc))
    rw [Ended.inside, hencloses.inside_eq, hencloses.steps_eq] at hc
    exact hinner inner hrow (fun d hd => hcalm d (hencloses.deeds_sublist.subset hd)) c hc

/-- Where nothing tells of a cancellation, the results of a row fit its steps at every depth. -/
theorem Ran.grown {row : Row} (h : setting.Ran row)
    (hcalm : ∀ d ∈ row.deeds, d.tellsCancelled = false) :
    ∀ e ∈ Ended.row row.steps row.results, e.Grown := by
  refine h.induct (P := fun row => (∀ d ∈ row.deeds, d.tellsCancelled = false) →
    ∀ e ∈ Ended.row row.steps row.results, e.Grown) ?_ ?_ hcalm
  · intro _ _ _ e he
    cases he
  · intro _ _ step _ first _ result _ _ _ hstep hrest hcalm e he
    obtain ⟨hfirst, hsecond⟩ := List.forall_mem_append.mp hcalm
    cases he with
    | head => exact hstep.grown (fun _ h => h.1) (fun _ h => h.2) hfirst
    | tail _ he => exact hrest hsecond e he

end Setting

namespace Job

variable {job : Job} {run : RunInfo} {hasHost : Bool} {i : Instance} {deeds : List Deed}
  {result : JobResult} {found : Except Error (List ResolvedStep)} {steps : List ResolvedStep}
  {scope : Scope}

/-- Where nothing is cancelled, a step has failed where a fault lies in it that no marked step
between holds back. So it is for an instance, and its error names a step that has failed for
good. -/
theorem failure_reaches_mark (hrun : (job.run run hasHost i).Runs deeds result)
    (hfound : .lookedUp job.steps found ∈ deeds)
    (hready : InstanceInfo.prepare ⟨run, i.matrix⟩ job found = .ok (steps, scope))
    (hcalm : ∀ d ∈ deeds, d.tellsCancelled = false) :
    let tops := Ended.row steps result.steps
    (∀ r ∈ result.steps, ∃ e ∈ tops, e.result = r) ∧
    (∀ e, Ended.Within tops e → e.Explained) ∧
    (result.status = .failed ↔
      ∃ e ∈ tops, ∃ below, e.Trail below ∧ ∀ x ∈ e :: below, x.marked = false) ∧
    (result.status = .failed ↔ result.error ≠ none) ∧
    ∀ message, result.error = some message →
      ∃ e ∈ tops, e.result.status = .failed ∧ e.marked = false ∧ e.result.continued = false ∧
        message =
          (Error.stepFailure e.result.name (e.result.error.getD "step failed")).message := by
  obtain ⟨⟨_, _, steps, inner, results, _⟩, hrow, rfl, rfl⟩ :=
    ranAs_of_lookedUp hrun hfound hready
  have hinner (d : Deed) (hd : d ∈ inner) : d.tellsCancelled = false :=
    hcalm d (hrow.deeds_sublist.subset hd)
  obtain ⟨hran, -, -, rfl⟩ := hrow
  have hgrown := hran.grown hinner
  have hcomplete (r : StepResult) (hr : r ∈ results) :
      ∃ e ∈ Ended.row steps results, e.result = r := Ended.exists_mem_row hran.length_eq hr
  have hfailure {e : Ended} (he : e ∈ Ended.row steps results) :
      e.result.isFailure = true ↔ e.result.status = .failed ∧ e.marked = false := by
    obtain ⟨fits, -⟩ := hgrown e he
    exact fits.isFailure_iff
  have hstatus : jobStatus results = .failed ↔ results.any (·.isFailure) = true := by
    have hnone : results.any (·.status = .cancelled) = false := by
      refine List.any_eq_false.mpr fun r hr hcancelled => ?_
      obtain ⟨d, hd, htells⟩ := hran.exists_tellsCancelled hr (of_decide_eq_true hcancelled)
      rw [hinner d hd] at htells
      cases htells
    rw [jobStatus, if_neg (Bool.eq_false_iff.mp hnone)]
    split <;> simp [*]
  refine ⟨hcomplete, fun e he => (he.grown hgrown).explained, ?_, ?_, ?_⟩
  · show jobStatus results = .failed ↔ _
    rw [hstatus, List.any_eq_true]
    constructor
    · rintro ⟨r, hr, hr'⟩
      obtain ⟨e, he, rfl⟩ := hcomplete r hr
      obtain ⟨hfailed, hmark⟩ := (hfailure he).mp hr'
      obtain ⟨below, htrail, hbelow⟩ := (hgrown e he).failed_iff.mp hfailed
      exact ⟨e, he, below, htrail, List.forall_mem_cons.mpr ⟨hmark, hbelow⟩⟩
    · rintro ⟨e, he, below, htrail, hmarks⟩
      obtain ⟨hmark, hbelow⟩ := List.forall_mem_cons.mp hmarks
      have hfailed := (hgrown e he).failed_iff.mpr ⟨below, htrail, hbelow⟩
      exact ⟨e.result, Ended.result_mem_of_mem_row he, (hfailure he).mpr ⟨hfailed, hmark⟩⟩
  · show jobStatus results = .failed ↔ (results.find? (·.isFailure)).map _ ≠ none
    rw [hstatus, ne_eq, Option.map_eq_none_iff, List.find?_eq_none, ← List.any_eq_false,
      Bool.not_eq_false]
  · intro message hmessage
    obtain ⟨r, hr, rfl⟩ := Option.map_eq_some_iff.mp hmessage
    obtain ⟨e, he, rfl⟩ := hcomplete r (List.mem_of_find?_eq_some hr)
    obtain ⟨hfailed, hmark⟩ := (hfailure he).mp (List.find?_some hr)
    refine ⟨e, he, hfailed, hmark, ?_, rfl⟩
    obtain ⟨fits, -⟩ := hgrown e he
    rw [fits.continued, hmark, Bool.and_false]

/-- Neither step around the command that fails is marked. -/
theorem failure_reaches_mark_sample :
    let course := Sample.course 2 fun _ => false
    let tops := Ended.row Sample.resolved course.2.steps
    (Sample.job.run Sample.run false Sample.only).Runs course.1 course.2 ∧
    (∀ d ∈ course.1, d.tellsCancelled = false) ∧ course.2.status = .failed ∧
    (∀ e, Ended.Within tops e → e.Explained) ∧
    (∃ e ∈ tops, ∃ below, e.Trail below ∧ ∀ x ∈ e :: below, x.marked = false) ∧
    course.2.error = some "step 'build' failed: compile: process exited with code 2" := by
  have hrun := Sample.course_runs 2 fun _ => false
  have hcalm : ∀ d ∈ (Sample.course 2 fun _ => false).1, d.tellsCancelled = false := by
    have hall : ((Sample.course 2 fun _ => false).1.all fun d => !d.tellsCancelled) = true := by
      decide +kernel
    intro d hd
    simpa using List.all_eq_true.mp hall d hd
  have hstatus : (Sample.course 2 fun _ => false).2.status = .failed := by decide +kernel
  have hfound : .lookedUp Sample.job.steps (.ok Sample.resolved) ∈
      (Sample.course 2 fun _ => false).1 := .tail _ (.tail _ (.head _))
  obtain ⟨-, hexplained, hfailed, -, -⟩ := failure_reaches_mark hrun hfound rfl hcalm
  exact ⟨hrun, hcalm, hstatus, hexplained, hfailed.mp hstatus, by decide +kernel⟩

end Job

end Pipeline
