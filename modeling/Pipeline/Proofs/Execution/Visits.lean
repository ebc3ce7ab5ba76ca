import Pipeline.Proofs.Execution.Rows

/-! The steps of a row that has run, each with what came of it: its own, and those inside the
composite actions that they use, at any depth. -/

namespace Pipeline

/-- A step that has run, with the results of the steps before it in its row. -/
structure Visit where
  depth : Nat
  before : List StepResult
  scope : Scope
  step : ResolvedStep
  deeds : List Deed
  result : StepResult
  after : Scope

namespace Setting

variable {setting : Setting} {depth : Nat} {scope after : Scope} {step : ResolvedStep}
  {result : StepResult}

/-- The visits are those of the steps of the row itself, in turn. `before` are the results of the
steps that have run before them. -/
inductive InTurn (setting : Setting) : List StepResult → Row → List Visit → Prop where
  | nil {before : List StepResult} {depth : Nat} {scope : Scope} :
      InTurn setting before ⟨depth, scope, [], [], [], scope⟩ []
  | cons {before others : List StepResult} {depth : Nat} {scope left after : Scope}
      {step : ResolvedStep} {rest : List ResolvedStep} {own second : List Deed}
      {result : StepResult} {visits : List Visit}
      (runs : (setting.runStep depth scope step).Runs own (result, left))
      (later : InTurn setting (before ++ [result])
        ⟨depth, left.record result, rest, second, others, after⟩ visits) :
      InTurn setting before ⟨depth, scope, step :: rest, own ++ second, result :: others, after⟩
        (⟨depth, before, scope, step, own, result, left⟩ :: visits)

section InTurn

variable {before : List StepResult} {row : Row} {visits : List Visit} {visit : Visit}

theorem Ran.exists_inTurn (h : setting.Ran row) (before : List StepResult) :
    ∃ visits, setting.InTurn before row visits := by
  obtain ⟨depth, scope, steps, deeds, results, after⟩ := row
  induction steps generalizing before scope deeds results with
  | nil =>
    obtain ⟨rfl, rfl, rfl⟩ := h.nil
    exact ⟨[], .nil⟩
  | cons step rest ih =>
    obtain ⟨own, second, result, left, others, rfl, rfl, hown, hlater⟩ := h.cons
    obtain ⟨visits, hvisits⟩ := ih (before ++ [result]) _ _ _ hlater
    exact ⟨_, .cons hown hvisits⟩

/-- A visit comes to one of the things that a step can come to. -/
theorem InTurn.goes (h : setting.InTurn before row visits) (hvisit : visit ∈ visits) :
    StepGoes setting setting.Ran visit.depth visit.scope visit.step visit.deeds visit.result
      visit.after := by
  induction h with
  | nil => cases hvisit
  | cons runs _ ih =>
    cases hvisit with
    | head => exact stepGoes runs
    | tail _ hvisit => exact ih hvisit

theorem InTurn.steps_eq (h : setting.InTurn before row visits) :
    row.steps = visits.map (·.step) := by
  induction h with
  | nil => rfl
  | cons _ _ ih => exact congrArg (_ :: ·) ih

theorem InTurn.results_eq (h : setting.InTurn before row visits) :
    row.results = visits.map (·.result) := by
  induction h with
  | nil => rfl
  | cons _ _ ih => exact congrArg (_ :: ·) ih

theorem InTurn.deeds_sublist (h : setting.InTurn before row visits) (hvisit : visit ∈ visits) :
    visit.deeds.Sublist row.deeds := by
  induction h with
  | nil => cases hvisit
  | cons _ _ ih =>
    cases hvisit with
    | head => exact List.sublist_append_left ..
    | tail _ hvisit => exact (ih hvisit).trans (List.sublist_append_right ..)

end InTurn

/-- The step uses a composite action, whose steps have run as the inner row, and its result is made
from theirs. -/
structure Encloses (setting : Setting) (depth : Nat) (step : ResolvedStep) (deeds : List Deed)
    (result : StepResult) (inner : Row) : Prop where
  action : ∃ spec info, step = .uses spec (.composite info inner.steps) ∧
    result = spec.settle (setting.compositeResult spec info inner.results inner.after)
  below : inner.depth = depth + 1
  fresh : ∃ env inputs, inner.scope = Scope.empty.child env inputs
  during : deeds = .looked false :: .reported (.stepStarted step.spec.name depth) :: inner.deeds ++
    [.reported (.stepCompleted step.spec.name depth result.status result.exitCode)]

section Encloses

variable {deeds : List Deed} {inner : Row}

theorem Encloses.inside_eq (h : setting.Encloses depth step deeds result inner) :
    step.inside = inner.steps := by
  obtain ⟨spec, info, rfl, -⟩ := h.action
  rfl

theorem Encloses.ends (h : setting.Encloses depth step deeds result inner) :
    ∃ own, result = step.spec.settle own ∧ CompositeEnds step.spec inner.results own := by
  obtain ⟨spec, info, rfl, hresult⟩ := h.action
  exact ⟨_, hresult, setting.compositeEnds ..⟩

theorem Encloses.steps_eq (h : setting.Encloses depth step deeds result inner) :
    result.steps = inner.results := by
  obtain ⟨own, rfl, hends⟩ := h.ends
  rw [Step.settle_steps, hends.steps_eq]

theorem Encloses.deeds_sublist (h : setting.Encloses depth step deeds result inner) :
    inner.deeds.Sublist deeds := by
  rw [h.during]
  exact ((List.sublist_append_left ..).cons _).cons _

/-- A result that holds others is that of a composite action whose steps have run, from its inputs
on. -/
theorem StepGoes.exists_entered {Inner : Row → Prop}
    (h : StepGoes setting Inner depth scope step deeds result after) (hsteps : result.steps ≠ []) :
    ∃ inner spec info env inputs, step = .uses spec (.composite info inner.steps) ∧
      setting.stepEnv scope spec = .ok (env, inputs) ∧
      inner.scope = Scope.empty.child (compositeEnv env (info.withDefaults inputs))
        (info.withDefaults inputs) ∧
      setting.Encloses depth step deeds result inner ∧ Inner inner := by
  cases h with
  | cancelled | skipped => exact absurd rfl hsteps
  | invalid => exact absurd (Step.settle_steps ..) hsteps
  | entered condition body =>
    rw [Step.settle_steps] at hsteps
    cases body with
    | composite layers none below fresh inner =>
      refine ⟨_, _, _, _, _, rfl, layers, fresh, ⟨⟨_, _, rfl, rfl⟩, below, ⟨_, _, fresh⟩, ?_⟩,
        inner⟩
      rw [Step.settle_status, Step.settle_exitCode]
    | _ => exact absurd rfl hsteps

theorem StepGoes.exists_inner {Inner : Row → Prop}
    (h : StepGoes setting Inner depth scope step deeds result after) (hsteps : result.steps ≠ []) :
    ∃ inner, setting.Encloses depth step deeds result inner ∧ Inner inner := by
  obtain ⟨inner, _, _, _, _, -, -, -, hencloses, hinner⟩ := h.exists_entered hsteps
  exact ⟨inner, hencloses, hinner⟩

end Encloses

/-- The visit is one of a step of the row, or of a step inside of one of its steps. -/
inductive Visits (setting : Setting) : Row → Visit → Prop where
  | here {row : Row} {visits : List Visit} {visit : Visit} (turn : setting.InTurn [] row visits)
      (mem : visit ∈ visits) : Visits setting row visit
  | inside {row inner : Row} {outer visit : Visit} (entered : Visits setting row outer)
      (encloses : setting.Encloses outer.depth outer.step outer.deeds outer.result inner)
      (visits : Visits setting inner visit) : Visits setting row visit

variable {row : Row} {visit : Visit}

/-- The step is reached before its job is cancelled, and its condition holds. -/
structure Enters (setting : Setting) (visit : Visit) : Prop where
  looked : visit.deeds.head? = some (.looked false)
  condition : Expression.evaluateCondition visit.step.spec.condition
    (setting.info.context visit.scope visit.scope.env) = .ok true

/-- A step that is entered comes to what its body comes to. -/
theorem StepGoes.exists_body {Inner : Row → Prop} {deeds : List Deed}
    (h : StepGoes setting Inner depth scope step deeds result after)
    (hlooked : deeds.head? = some (.looked false))
    (hcondition : Expression.evaluateCondition step.spec.condition
      (setting.info.context scope scope.env) = .ok true) :
    ∃ body own, BodyGoes setting Inner depth scope step body own after ∧
      result = step.spec.settle own ∧
      deeds = .looked false :: .reported (.stepStarted step.spec.name depth) :: body ++
        [.reported (.stepCompleted step.spec.name depth own.status own.exitCode)] := by
  cases h with
  | cancelled => cases hlooked
  | invalid condition | skipped condition =>
    rw [condition] at hcondition
    cases hcondition
  | entered condition body => exact ⟨_, _, body, rfl, rfl⟩

theorem Ran.exists_visit_of_mem (h : setting.Ran row) (hr : result ∈ row.results) :
    ∃ visit, setting.Visits row visit ∧ visit.result = result := by
  obtain ⟨visits, hturn⟩ := h.exists_inTurn []
  rw [hturn.results_eq] at hr
  obtain ⟨visit, hvisit, hresult⟩ := List.mem_map.mp hr
  exact ⟨visit, .here hturn hvisit, hresult⟩

theorem Visits.deeds_sublist (h : setting.Visits row visit) : visit.deeds.Sublist row.deeds := by
  induction h with
  | here turn mem => exact turn.deeds_sublist mem
  | inside _ encloses _ houter hinner => exact hinner.trans (encloses.deeds_sublist.trans houter)

theorem Visits.goes (h : setting.Visits row visit) :
    StepGoes setting setting.Ran visit.depth visit.scope visit.step visit.deeds visit.result
      visit.after := by
  induction h with
  | here turn mem => exact turn.goes mem
  | inside _ _ _ _ ih => exact ih

/-- All that was done for a row was done for its steps, one after the other, and so it is inside of
them: the results inside of a result are those of a row that has run meanwhile. -/
structure Traced (setting : Setting) (row : Row) : Prop where
  own : ∃ visits, setting.InTurn [] row visits
  inside : ∀ visit, setting.Visits row visit → visit.result.steps ≠ [] →
    ∃ inner visits, setting.Encloses visit.depth visit.step visit.deeds visit.result inner ∧
      setting.InTurn [] inner visits
  goes : ∀ visit, setting.Visits row visit →
    StepGoes setting setting.Ran visit.depth visit.scope visit.step visit.deeds visit.result
      visit.after

theorem Ran.traced (h : setting.Ran row) : setting.Traced row := by
  refine ⟨h.exists_inTurn [], fun visit hvisit hsteps => ?_, fun _ => Visits.goes⟩
  obtain ⟨inner, hencloses, hran⟩ := hvisit.goes.exists_inner hsteps
  obtain ⟨visits, hturn⟩ := hran.exists_inTurn []
  exact ⟨inner, visits, hencloses, hturn⟩

end Setting

/-! ### A job that uses a composite action -/

namespace Sample

def compile : Step := .of "compile" (.command "make" none none)

def test : Step := .of "test" (.command "make test" none none)

def build : Step := .of "build" (.action (.workspace "./build"))

def notify : Step := .of "notify" (.command "notify" none none)

/-- What the action in `./build` does. -/
def resolved : List ResolvedStep :=
  [.uses build (.composite ⟨⟨"./build", "build", "/build", [], [], []⟩, 1⟩
    [.plain compile, .plain test]), .plain notify]

def job : Job := ⟨"ci", "CI", [], .empty, true, none, [build, notify]⟩

def run : RunInfo :=
  ⟨"1", ⟨"CI", [.of "push"], none, [], [job]⟩, ⟨"push", none, "main", none, none, none, none⟩, "/",
    [], .linux⟩

def only : Instance := ⟨0, "ci", []⟩

/-- Every command ends with the exit code. The job is cancelled once `cancelled` says so. -/
def replies (exitCode : Int) (cancelled : List Deed → Bool) : Work.Replies where
  look := cancelled
  slot _ := true
  find _ _ := .ok resolved
  command past _ := ([], ⟨"", "", some exitCode, [], [], cancelled past, none⟩)
  host _ _ := ⟨true, [], none⟩

/-- The course of the job with these answers. -/
def course (exitCode : Int) (cancelled : List Deed → Bool) : List Deed × JobResult :=
  (job.run run false only).follow (replies exitCode cancelled) []

theorem course_runs (exitCode : Int) (cancelled : List Deed → Bool) :
    (job.run run false only).Runs (course exitCode cancelled).1 (course exitCode cancelled).2 :=
  Work.follow_runs ..

end Sample

end Pipeline
