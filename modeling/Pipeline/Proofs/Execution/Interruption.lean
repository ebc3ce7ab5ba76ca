import Pipeline.Proofs.Execution.Visits

/-! What comes after the moment at which a job is cancelled: no step that is reached then starts
anything, and the results from the first cancelled one on are all cancelled. -/

namespace Pipeline

/-- The deed sets something going outside of the work. -/
def Deed.isStart : Deed → Bool
  | started _ | invoked .. => true
  | _ => false

/-- Nothing is started after a look that has found the work cancelled. The flag is the answer of the
last look. -/
def Heeds : Bool → List Deed → Prop
  | _, [] => True
  | _, .looked cancelled :: rest => Heeds cancelled rest
  | cancelled, d :: rest => (d.isStart = true → cancelled = false) ∧ Heeds cancelled rest

theorem Heeds.append {seen : Bool} {deeds deeds' : List Deed} (h : Heeds seen deeds)
    (h' : ∀ seen, Heeds seen deeds') : Heeds seen (deeds ++ deeds') := by
  induction deeds generalizing seen with
  | nil => exact h' seen
  | cons d rest ih =>
    cases d with
    | looked b => exact ih h
    | _ => exact ⟨h.1, ih h.2⟩

/-- Only the last look counts. -/
theorem Heeds.of_append {seen cancelled : Bool} {deeds deeds' : List Deed}
    (h : Heeds seen (deeds ++ .looked cancelled :: deeds')) : Heeds cancelled deeds' := by
  induction deeds generalizing seen with
  | nil => exact h
  | cons d rest ih =>
    cases d with
    | looked b => exact ih h
    | _ => exact ih h.2

theorem heeds_of_idle {seen : Bool} {deeds : List Deed} (h : ∀ d ∈ deeds, d.isStart = false) :
    Heeds seen deeds := by
  induction deeds generalizing seen with
  | nil => trivial
  | cons d rest ih =>
    obtain ⟨hd, hrest⟩ := List.forall_mem_cons.mp h
    cases d with
    | looked b => exact ih hrest
    | _ => exact ⟨fun hstart => absurd hstart (Bool.eq_false_iff.mp hd), ih hrest⟩

/-- Once every look finds the work cancelled, nothing is started. -/
theorem Heeds.idle {deeds : List Deed} (h : Heeds true deeds) (hlooks : .looked false ∉ deeds) :
    ∀ d ∈ deeds, d.isStart = false := by
  induction deeds with
  | nil => exact fun _ hd => by cases hd
  | cons d rest ih =>
    obtain ⟨hd, hrest⟩ := not_or.mp (mt List.mem_cons.mpr hlooks)
    refine List.forall_mem_cons.mpr ?_
    cases d with
    | looked b =>
      cases b with
      | true => exact ⟨rfl, ih h hrest⟩
      | false => exact absurd rfl hd
    | _ => exact ⟨Bool.eq_false_iff.mpr fun hstart => (by cases h.1 hstart), ih h.2 hrest⟩

/-- After `early` the work is cancelled: nobody has told so before, and every look finds it so
afterwards. -/
structure Fires (early late : List Deed) : Prop where
  before : ∀ d ∈ early, d.tellsCancelled = false
  after : .looked false ∉ late

/-- What has been told once is not taken back. -/
def Steadfast (deeds : List Deed) : Prop :=
  deeds.Pairwise fun d d' => d.tellsCancelled = true → d' ≠ .looked false

theorem Fires.steadfast {early late : List Deed} (h : Fires early late) :
    Steadfast (early ++ late) := by
  refine List.pairwise_append.mpr ⟨?_, ?_, ?_⟩
  · refine List.pairwise_of_forall_mem_list fun d hd _ _ htells => ?_
    rw [h.before d hd] at htells
    cases htells
  · refine List.pairwise_of_forall_mem_list fun _ _ _ hd _ => ?_
    rintro rfl
    exact h.after hd
  · intro d hd d' _ htells
    rw [h.before d hd] at htells
    cases htells

/-- The results of a row of steps: of the job, or inside of one of them. -/
inductive ResultRow (results : List StepResult) : List StepResult → Prop where
  | own : ResultRow results results
  | inside {row : List StepResult} {r : StepResult} (outer : ResultRow results row)
      (mem : r ∈ row) : ResultRow results r.steps

/-- From the first cancelled result on all are, and a result with a cancelled one inside of it is
cancelled and has no outputs. -/
structure Halted (row : List StepResult) : Prop where
  onwards : row.Pairwise fun r r' => r.status = .cancelled → r'.status = .cancelled
  upwards : ∀ r ∈ row, (∃ c ∈ r.steps, c.status = .cancelled) →
    r.status = .cancelled ∧ r.outputs = []

theorem Halted.nil : Halted [] := ⟨.nil, fun _ hr => by cases hr⟩

/-- Steps that have not run all came to the same. -/
theorem halted_of_unrun {specs : List Step} {status : StepStatus} {row : List StepResult}
    (h : ResultRow (specs.map (·.resultOf status)) row) : Halted row := by
  have hrow : row = specs.map (·.resultOf status) ∨ row = [] := by
    induction h with
    | own => exact .inl rfl
    | inside _ hr ih =>
      obtain rfl | rfl := ih
      · obtain ⟨spec, -, rfl⟩ := List.mem_map.mp hr
        exact .inr rfl
      · cases hr
  obtain rfl | rfl := hrow
  · refine ⟨List.pairwise_of_forall_mem_list fun r hr r' hr' hcancelled => ?_, fun r hr hany => ?_⟩
    · obtain ⟨spec, -, rfl⟩ := List.mem_map.mp hr
      obtain ⟨spec', -, rfl⟩ := List.mem_map.mp hr'
      exact hcancelled
    · obtain ⟨spec, -, rfl⟩ := List.mem_map.mp hr
      obtain ⟨_, hc, -⟩ := hany
      cases hc
  · exact .nil

namespace Setting

variable {setting : Setting} {Inner : Row → Prop} {depth : Nat} {scope after : Scope}
  {step : ResolvedStep} {deeds : List Deed} {result : StepResult} {row : Row} {visit : Visit}

theorem BodyGoes.heeds (h : BodyGoes setting Inner depth scope step deeds result after)
    (hinner : ∀ row, Inner row → ∀ seen, Heeds seen row.deeds) : Heeds false deeds := by
  cases h with
  | command =>
    refine ⟨fun _ => rfl, nofun, heeds_of_idle fun d hd => ?_⟩
    obtain ⟨line, -, rfl⟩ := List.mem_map.mp hd
    rfl
  | hosted => exact ⟨fun _ => rfl, trivial⟩
  | unhosted => exact heeds_of_idle (by simp [Deed.isStart])
  | composite _ _ _ _ inner => exact hinner _ inner false
  | _ => trivial

theorem StepGoes.heeds (h : StepGoes setting Inner depth scope step deeds result after)
    (hinner : ∀ row, Inner row → ∀ seen, Heeds seen row.deeds) (seen : Bool) :
    Heeds seen deeds := by
  cases h with
  | cancelled | invalid => trivial
  | skipped => exact heeds_of_idle (by simp [Deed.isStart])
  | entered condition body =>
    refine ⟨fun _ => rfl, (body.heeds hinner).append fun _ => heeds_of_idle ?_⟩
    simp [Deed.isStart]

/-- A step starts something only after it has found its job not cancelled. -/
theorem Ran.heeds (h : setting.Ran row) : ∀ seen, Heeds seen row.deeds := by
  refine h.induct (P := fun row => ∀ seen, Heeds seen row.deeds) (fun _ _ _ => trivial) ?_
  intro _ _ _ _ _ _ _ _ _ _ hstep hrest seen
  exact (hstep.heeds (fun _ h => h.2) seen).append hrest

theorem StepGoes.cancelled_of_looks (h : StepGoes setting Inner depth scope step deeds result after)
    (hlooks : .looked false ∉ deeds) : result.status = .cancelled := by
  cases h with
  | cancelled => rfl
  | invalid | skipped | entered => simp at hlooks

/-- Where every look finds the job cancelled, so are all steps of the row. -/
theorem Ran.cancelled_of_looks (h : setting.Ran row) (hlooks : .looked false ∉ row.deeds) :
    ∀ r ∈ row.results, r.status = .cancelled := by
  refine h.induct (P := fun row => .looked false ∉ row.deeds →
    ∀ r ∈ row.results, r.status = .cancelled) ?_ ?_ hlooks
  · intro _ _ _ r hr
    cases hr
  · intro _ _ _ _ _ _ _ _ _ _ hstep hrest hlooks
    rw [List.mem_append, not_or] at hlooks
    exact List.forall_mem_cons.mpr ⟨hstep.cancelled_of_looks hlooks.1, hrest hlooks.2⟩

/-- After a step that is cancelled, every look finds the job cancelled. -/
theorem Ran.onwards (h : setting.Ran row) (hsteadfast : Steadfast row.deeds) :
    row.results.Pairwise fun r r' => r.status = .cancelled → r'.status = .cancelled := by
  obtain ⟨depth, scope, steps, deeds, results, after⟩ := row
  dsimp only at hsteadfast ⊢
  induction steps generalizing scope deeds results with
  | nil =>
    obtain ⟨-, rfl, -⟩ := h.nil
    exact .nil
  | cons step rest ih =>
    obtain ⟨first, second, result, mid, others, rfl, rfl, hfirst, hrest⟩ := h.cons
    obtain ⟨-, hsecond, hcross⟩ := List.pairwise_append.mp hsteadfast
    refine .cons (fun r hr hcancelled => ?_) (ih _ _ _ hrest hsecond)
    obtain ⟨d, hd, htells⟩ := (stepGoes hfirst).exists_tellsCancelled
      (fun _ hrow _ => hrow.exists_tellsCancelled) hcancelled
    exact hrest.cancelled_of_looks (fun hlook => hcross d hd _ hlook htells rfl) r hr

theorem CompositeEnds.upwards {spec : Step} {steps : List StepResult}
    (h : CompositeEnds spec steps result) (hany : ∃ c ∈ steps, c.status = .cancelled) :
    result.status = .cancelled ∧ result.outputs = [] := by
  have hcancelled : steps.any (·.status = .cancelled) = true := by simpa using hany
  cases h with
  | cancelled => exact ⟨rfl, rfl⟩
  | failed calm | unrendered calm | succeeded calm =>
    rw [hcancelled] at calm
    cases calm

theorem StepGoes.upwards (h : StepGoes setting Inner depth scope step deeds result after)
    (hany : ∃ c ∈ result.steps, c.status = .cancelled) :
    result.status = .cancelled ∧ result.outputs = [] := by
  obtain ⟨c, hc, hcancelled⟩ := hany
  obtain ⟨inner, hencloses, -⟩ := h.exists_inner (List.ne_nil_of_mem hc)
  rw [hencloses.steps_eq] at hc
  obtain ⟨own, rfl, hends⟩ := hencloses.ends
  rw [Step.settle_status, Step.settle_outputs]
  exact hends.upwards ⟨c, hc, hcancelled⟩

theorem Ran.halted (h : setting.Ran row) (hsteadfast : Steadfast row.deeds) :
    Halted row.results := by
  refine ⟨h.onwards hsteadfast, fun r hr hany => ?_⟩
  obtain ⟨visit, hvisit, rfl⟩ := h.exists_visit_of_mem hr
  exact hvisit.goes.upwards hany

/-- Every row of results is that of steps that have run as part of the row. -/
theorem Ran.exists_of_resultRow (h : setting.Ran row) {results : List StepResult}
    (hresults : ResultRow row.results results) :
    results = [] ∨ ∃ inner, setting.Ran inner ∧ inner.results = results ∧
      inner.deeds.Sublist row.deeds := by
  induction hresults with
  | own => exact .inr ⟨row, h, rfl, .refl _⟩
  | @inside _ r _ hr ih =>
    obtain rfl | ⟨outer, houter, rfl, hsub⟩ := ih
    · cases hr
    · obtain ⟨visit, hvisit, rfl⟩ := houter.exists_visit_of_mem hr
      by_cases hsteps : visit.result.steps = []
      · exact .inl hsteps
      · obtain ⟨inner, hencloses, hinner⟩ := hvisit.goes.exists_inner hsteps
        exact .inr ⟨inner, hinner, hencloses.steps_eq.symm,
          hencloses.deeds_sublist.trans (hvisit.deeds_sublist.trans hsub)⟩

/-- The step is cancelled, or a command that was run for it is. -/
def Interrupted (deeds : List Deed) (result : StepResult) : Prop :=
  result.status = .cancelled ∨
    ∃ request lines ending, .ended request lines ending ∈ deeds ∧ ending.cancelled = true

theorem BodyGoes.after_eq (h : BodyGoes setting Inner depth scope step deeds result after)
    (hinterrupted : Interrupted deeds result) : after = scope := by
  cases h with
  | @command _ _ _ _ _ _ _ _ ending =>
    refine if_pos ?_
    obtain hcancelled | ⟨_, _, other, hother, hcancelled⟩ := hinterrupted
    · change commandStatus ending = .cancelled at hcancelled
      unfold commandStatus at hcancelled
      split at hcancelled
      · assumption
      · split at hcancelled <;> cases hcancelled
    · simp only [List.mem_cons, List.mem_map, reduceCtorEq, Deed.ended.injEq, and_false,
        exists_false, or_false, false_or] at hother
      obtain ⟨-, -, rfl⟩ := hother
      exact hcancelled
  | _ => rfl

/-- A step that is interrupted leaves its scope as it was. -/
theorem StepGoes.after_eq (h : StepGoes setting Inner depth scope step deeds result after)
    (hinterrupted : Interrupted deeds result) : after = scope := by
  cases h with
  | entered condition body =>
    refine body.after_eq ?_
    unfold Interrupted at hinterrupted ⊢
    simpa using hinterrupted
  | _ => rfl

/-- A step looks for a cancellation before anything else. Where its job is cancelled it does nothing
more, whatever its condition is. Where it is interrupted, the step after it finds the environment
that it has found itself. -/
structure Yields (setting : Setting) (visit : Visit) : Prop where
  looks : ∃ cancelled rest, visit.deeds = .looked cancelled :: rest
  held : visit.deeds.head? = some (.looked true) → visit.deeds = [.looked true] ∧
    visit.result = visit.step.spec.resultOf .cancelled
  unchanged : Interrupted visit.deeds visit.result →
    visit.after = visit.scope ∧ (visit.after.record visit.result).env = visit.scope.env

theorem StepGoes.looks (h : StepGoes setting Inner depth scope step deeds result after) :
    (deeds = [.looked true] ∧ result = step.spec.resultOf .cancelled) ∨
      ∃ rest, deeds = .looked false :: rest := by
  cases h with
  | cancelled => exact .inl ⟨rfl, rfl⟩
  | invalid | skipped | entered => exact .inr ⟨_, rfl⟩

theorem Visits.yields (h : setting.Visits row visit) : setting.Yields visit := by
  refine ⟨?_, fun hlooked => ?_, fun hinterrupted => ?_⟩
  · obtain ⟨hdeeds, -⟩ | ⟨rest, hdeeds⟩ := h.goes.looks <;> exact ⟨_, _, hdeeds⟩
  · obtain hcancelled | ⟨rest, hdeeds⟩ := h.goes.looks
    · exact hcancelled
    · rw [hdeeds] at hlooked
      cases hlooked
  · have hafter := h.goes.after_eq hinterrupted
    exact ⟨hafter, by rw [hafter]; rfl⟩

end Setting

namespace Job

variable {job : Job} {run : RunInfo} {hasHost : Bool} {i : Instance} {deeds early late : List Deed}
  {result : JobResult}

theorem heeds (h : (job.run run hasHost i).Runs deeds result) (seen : Bool) : Heeds seen deeds := by
  cases goes h with
  | cancelled => trivial
  | unstarted => exact heeds_of_idle (by simp [Deed.isStart])
  | finished _ ran =>
    refine ⟨nofun, nofun, (ran.heeds false).append fun _ => heeds_of_idle ?_⟩
    simp [Deed.isStart]

theorem Goes.halted (h : Goes job run hasHost i deeds result) (hsteadfast : Steadfast deeds)
    {row : List StepResult} (hrow : ResultRow result.steps row) : Halted row := by
  cases h with
  | cancelled | unstarted => exact halted_of_unrun hrow
  | finished _ ran =>
    have hinner : Steadfast _ := hsteadfast.sublist
      (((List.sublist_append_left ..).cons _).cons _ |>.cons _)
    obtain rfl | ⟨inner, hran, rfl, hsub⟩ := ran.exists_of_resultRow hrow
    · exact .nil
    · exact hran.halted (hinner.sublist hsub)

/-- A job without steps could be cancelled with nothing in it that is. -/
theorem Goes.status_eq_cancelled_iff (h : Goes job run hasHost i deeds result)
    (hsteps : job.steps ≠ []) :
    result.status = .cancelled ↔ ∃ r ∈ result.steps, r.status = .cancelled := by
  cases h with
  | cancelled =>
    obtain ⟨spec, hspec⟩ := List.exists_mem_of_ne_nil _ hsteps
    exact ⟨fun _ => ⟨_, List.mem_map_of_mem hspec, rfl⟩, fun _ => rfl⟩
  | unstarted =>
    refine ⟨nofun, ?_⟩
    rintro ⟨r, hr, hcancelled⟩
    obtain ⟨spec, -, rfl⟩ := List.mem_map.mp hr
    cases hcancelled
  | @finished _ _ _ _ results _ =>
    show jobStatus results = .cancelled ↔ ∃ r ∈ results, r.status = .cancelled
    have hany : (∃ r ∈ results, r.status = .cancelled) ↔
        results.any (·.status = .cancelled) = true := by simp
    rw [hany, jobStatus]
    split
    · next h => exact ⟨fun _ => h, fun _ => rfl⟩
    · next h => split <;> exact ⟨nofun, fun hcancelled => absurd hcancelled h⟩

/-- Once the job is cancelled, no step that is reached starts anything, whatever its condition, and
from the first cancelled result of a row on all are. -/
theorem nothing_starts_once_cancelled
    (hrun : (job.run run hasHost i).Runs (early ++ late) result) (hfires : Fires early late) :
    let setting : Setting := ⟨⟨run, i.matrix⟩, hasHost⟩
    (∀ before b rest, late = before ++ .looked b :: rest → ∀ d ∈ rest, d.isStart = false) ∧
    (∀ row, ResultRow result.steps row → Halted row) ∧
    (∀ found steps scope, .lookedUp job.steps found ∈ early ++ late →
      InstanceInfo.prepare ⟨run, i.matrix⟩ job found = .ok (steps, scope) →
      ∃! row, job.RanAs run hasHost i (early ++ late) result row ∧ row.steps = steps ∧
        row.scope = scope ∧ setting.Traced row ∧
        ∀ visit, setting.Visits row visit → setting.Yields visit) ∧
    (job.steps ≠ [] →
      (result.status = .cancelled ↔ ∃ r ∈ result.steps, r.status = .cancelled)) := by
  intro setting
  refine ⟨?_, fun row => (goes hrun).halted hfires.steadfast, ?_,
    (goes hrun).status_eq_cancelled_iff⟩
  · rintro before b rest rfl d hd
    have hrest : Heeds b rest := by
      have hall := heeds hrun false
      rw [← List.append_assoc] at hall
      exact hall.of_append
    cases b with
    | false => exact absurd (List.mem_append_right _ (.head _)) hfires.after
    | true =>
      exact hrest.idle (fun hlook => hfires.after (List.mem_append_right _ (.tail _ hlook))) d hd
  · intro found steps scope hfound hready
    exact existsUnique_ranAs hrun hfound hready fun row hran _ _ =>
      ⟨hran.ran.traced, fun _ => Setting.Visits.yields⟩

/-- The job is cancelled while its first command runs. -/
theorem nothing_starts_once_cancelled_sample :
    let course := Sample.course 0 fun past => past.any (·.isStart)
    let setting : Setting := ⟨⟨Sample.run, []⟩, false⟩
    let early := course.1.take 8
    let late := course.1.drop 8
    (Sample.job.run Sample.run false Sample.only).Runs (early ++ late) course.2 ∧
    Fires early late ∧ Sample.job.steps ≠ [] ∧
    (∃ before rest, late = before ++ .looked true :: rest) ∧
    (∀ before b rest, late = before ++ .looked b :: rest → ∀ d ∈ rest, d.isStart = false) ∧
    (∀ row, ResultRow course.2.steps row → Halted row) ∧
    (∃ row, Sample.job.RanAs Sample.run false Sample.only (early ++ late) course.2 row ∧
      row.steps = Sample.resolved ∧ ∀ visit, setting.Visits row visit → setting.Yields visit) ∧
    course.2.status = .cancelled ∧ ∃ r ∈ course.2.steps, r.status = .cancelled := by
  intro course setting early late
  have hrun : (Sample.job.run Sample.run false Sample.only).Runs (early ++ late) course.2 := by
    rw [List.take_append_drop]
    exact Sample.course_runs ..
  have hfires : Fires early late := by
    have hearly : (early.all fun d => !d.tellsCancelled) = true := by decide +kernel
    have hlate : (late.all fun d => match d with | .looked b => b | _ => true) = true := by
      decide +kernel
    refine ⟨fun d hd => by simpa using List.all_eq_true.mp hearly d hd, fun hlook => ?_⟩
    cases List.all_eq_true.mp hlate _ hlook
  have hstatus : course.2.status = .cancelled := by decide +kernel
  have hfound : .lookedUp Sample.job.steps (.ok Sample.resolved) ∈ early ++ late :=
    .tail _ (.tail _ (.head _))
  obtain ⟨hidle, hhalted, hrow, hcancelled⟩ := nothing_starts_once_cancelled hrun hfires
  obtain ⟨row, ⟨hran, hsteps, -, -, hyields⟩, -⟩ := hrow _ _ _ hfound rfl
  have hspecs : Sample.job.steps ≠ [] := nofun
  have hlook : .looked true ∈ late := .tail _ (.tail _ (.head _))
  exact ⟨hrun, hfires, hspecs, List.append_of_mem hlook, hidle, hhalted,
    ⟨row, hran, hsteps, hyields⟩, hstatus, (hcancelled hspecs).mp hstatus⟩

end Job

end Pipeline
