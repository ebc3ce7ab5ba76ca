import Mathlib.Logic.ExistsUnique
import Pipeline.Execution.Instance
import Pipeline.Proofs.Execution.Course

/-! How rows of steps run: those of a job, and those inside composite actions. What a step can come
to is said once, by cases, whatever it is that is known of the rows inside. -/

namespace Pipeline

/-- A row of steps that has run, from the scope that it started in to the one that it left. -/
structure Row where
  depth : Nat
  scope : Scope
  steps : List ResolvedStep
  deeds : List Deed
  results : List StepResult
  after : Scope

/-- The steps of the composite action that a step uses. -/
def ResolvedStep.inside : ResolvedStep → List ResolvedStep
  | uses _ (.composite _ steps) => steps
  | _ => []

theorem ResolvedStep.sizeOf_inside_lt (step : ResolvedStep) : sizeOf step.inside < sizeOf step := by
  unfold inside
  split
  · simp only [uses.sizeOf_spec, ActionUnit.composite.sizeOf_spec]
    omega
  · cases step with
    | plain spec =>
      have hspec : 0 < sizeOf spec := by cases spec; simp
      simp only [List.nil.sizeOf_spec, plain.sizeOf_spec]
      omega
    | uses spec action =>
      simp only [List.nil.sizeOf_spec, uses.sizeOf_spec]
      have hspec : 0 < sizeOf spec := by cases spec; simp
      omega

/-- The result of an external action from the answer to it, and from whether the job is cancelled
once the answer is there. -/
def Step.hostResult (spec : Step) (action : ExternalAction) (answer : HostAnswer)
    (cancelled : Bool) : StepResult :=
  let status : StepStatus :=
    if cancelled then .cancelled else if answer.success then .succeeded else .failed
  { spec.resultOf status with
    outputs := answer.outputs
    error :=
      if status = .failed then
        some (answer.message.getD ("action '" ++ action.identifier ++ "' failed"))
      else none }

/-- A result that is the step's own, before a failure of it is continued. -/
structure Step.Unsettled (spec : Step) (result : StepResult) : Prop where
  name : result.name = spec.name
  id : result.id = spec.id
  continued : result.continued = false

namespace Setting

variable (setting : Setting)

/-- What the use of a composite action can come to, from the results of its steps. -/
inductive CompositeEnds (spec : Step) (steps : List StepResult) : StepResult → Prop where
  | cancelled (any : steps.any (·.status = .cancelled) = true) :
      CompositeEnds spec steps { spec.resultOf .cancelled with steps := steps }
  | failed {failed : StepResult} (calm : steps.any (·.status = .cancelled) = false)
      (found : steps.find? (·.isFailure) = some failed) :
      CompositeEnds spec steps
        { spec.resultOf .failed with
          steps := steps, error := some (failed.name ++ ": " ++ failed.error.getD "failed") }
  | unrendered {outputs : Dict String} {error : String}
      (calm : steps.any (·.status = .cancelled) = false)
      (none : steps.find? (·.isFailure) = none) :
      CompositeEnds spec steps
        { spec.resultOf .failed with steps := steps, outputs := outputs, error := some error }
  | succeeded {outputs : Dict String} (calm : steps.any (·.status = .cancelled) = false)
      (none : steps.find? (·.isFailure) = none) :
      CompositeEnds spec steps { spec.resultOf .succeeded with steps := steps, outputs := outputs }

theorem compositeEnds (spec : Step) (info : CompositeInfo) (steps : List StepResult)
    (scope : Scope) : CompositeEnds spec steps (setting.compositeResult spec info steps scope) := by
  unfold compositeResult
  dsimp only
  split
  · next any => exact .cancelled any
  · next calm =>
    rw [Bool.not_eq_true] at calm
    split
    · next found => exact .failed calm found
    · next none =>
      split
      · exact .succeeded calm none
      · exact .unrendered calm none

/-- The row of steps has run in this setting. -/
def Ran (row : Row) : Prop :=
  (setting.runSteps row.depth row.scope row.steps).Runs row.deeds (row.results, row.after)

/-- The directory that a command runs in. -/
def place (directory : Option String) : String :=
  match directory with
  | some directory => Path.join setting.info.run.workspace directory
  | none => setting.info.run.workspace

variable (Inner : Row → Prop) (depth : Nat) (scope : Scope)

/-- What a step can come to once it has been entered. `Inner` is what is known of a row of steps
that has run inside. -/
inductive BodyGoes : ResolvedStep → List Deed → StepResult → Scope → Prop where
  | unprepared {step : ResolvedStep} {e : Expression.EvalError}
      (layers : setting.stepEnv scope step.spec = .error e) :
      BodyGoes step [] (step.spec.failure e.message) scope
  | unreadable {spec : Step} {env inputs : Dict String} {script : String}
      {shell directory : Option String} {e : Expression.EvalError}
      (layers : setting.stepEnv scope spec = .ok (env, inputs))
      (body : spec.body = .command script shell directory)
      (template : Expression.interpolate script (setting.info.context scope env) = .error e) :
      BodyGoes (.plain spec) [] (spec.failure e.message) scope
  | command {spec : Step} {env inputs : Dict String} {script text : String}
      {shell directory : Option String} {lines : List Command.Line} {result : Command.Result}
      (layers : setting.stepEnv scope spec = .ok (env, inputs))
      (body : spec.body = .command script shell directory)
      (template : Expression.interpolate script (setting.info.context scope env) = .ok text) :
      BodyGoes (.plain spec)
        (.started ⟨text, shell, setting.place directory, env⟩ ::
          .ended ⟨text, shell, setting.place directory, env⟩ lines result ::
          lines.map fun line => .reported (.stepOutput spec.name line.text line.isError))
        (commandResult spec result) (if result.cancelled then scope else scope.applyEnv result.env)
  | unresolved {spec : Step} {env inputs : Dict String} {reference : ActionRef}
      (layers : setting.stepEnv scope spec = .ok (env, inputs))
      (body : spec.body = .action reference) :
      BodyGoes (.plain spec) []
        (spec.failure ("action '" ++ reference.render ++ "' was not resolved")) scope
  | hosted {spec : Step} {action : ExternalAction} {env inputs : Dict String} {answer : HostAnswer}
      {cancelled : Bool} (layers : setting.stepEnv scope spec = .ok (env, inputs))
      (host : setting.hasHost = true) :
      BodyGoes (.uses spec (.external action))
        [.invoked action inputs env answer, .looked cancelled]
        (spec.hostResult action answer cancelled) scope
  | checkout {spec : Step} {action : ExternalAction} {env inputs : Dict String}
      (layers : setting.stepEnv scope spec = .ok (env, inputs)) (host : setting.hasHost = false)
      (isCheckout : action.reference.isCheckout = true) :
      BodyGoes (.uses spec (.external action)) [] (spec.resultOf .succeeded) scope
  | unhosted {spec : Step} {action : ExternalAction} {env inputs : Dict String}
      (layers : setting.stepEnv scope spec = .ok (env, inputs)) (host : setting.hasHost = false)
      (isCheckout : action.reference.isCheckout = false) :
      BodyGoes (.uses spec (.external action))
        [.reported (.stepSkipped spec.name depth
          ("no action host configured for '" ++ action.identifier ++ "'")),
          .logged .warning ("no action host configured for '" ++ action.identifier ++ "'")]
        (spec.resultOf .skipped) scope
  | missing {spec : Step} {info : CompositeInfo} {steps : List ResolvedStep}
      {env inputs : Dict String} (layers : setting.stepEnv scope spec = .ok (env, inputs))
      (some : (info.missing (info.withDefaults inputs)).isEmpty = false) :
      BodyGoes (.uses spec (.composite info steps)) []
        (spec.failure ("action '" ++ info.identifier ++ "' is missing required input(s): " ++
          ", ".intercalate (info.missing (info.withDefaults inputs)))) scope
  | composite {spec : Step} {info : CompositeInfo} {env inputs : Dict String} {row : Row}
      (layers : setting.stepEnv scope spec = .ok (env, inputs))
      (none : (info.missing (info.withDefaults inputs)).isEmpty = true)
      (below : row.depth = depth + 1)
      (fresh : row.scope = Scope.empty.child (compositeEnv env (info.withDefaults inputs))
        (info.withDefaults inputs)) (inner : Inner row) :
      BodyGoes (.uses spec (.composite info row.steps)) row.deeds
        (setting.compositeResult spec info row.results row.after) scope

/-- What a step can come to. -/
inductive StepGoes : ResolvedStep → List Deed → StepResult → Scope → Prop where
  | cancelled {step : ResolvedStep} :
      StepGoes step [.looked true] (step.spec.resultOf .cancelled) scope
  | invalid {step : ResolvedStep} {e : Expression.EvalError}
      (condition : Expression.evaluateCondition step.spec.condition
        (setting.info.context scope scope.env) = .error e) :
      StepGoes step [.looked false]
        (step.spec.settle (step.spec.failure ("invalid condition: " ++ e.message))) scope
  | skipped {step : ResolvedStep}
      (condition : Expression.evaluateCondition step.spec.condition
        (setting.info.context scope scope.env) = .ok false) :
      StepGoes step
        [.looked false, .reported (.stepSkipped step.spec.name depth step.spec.skipReason)]
        (step.spec.resultOf .skipped) scope
  | entered {step : ResolvedStep} {deeds : List Deed} {result : StepResult} {after : Scope}
      (condition : Expression.evaluateCondition step.spec.condition
        (setting.info.context scope scope.env) = .ok true)
      (body : BodyGoes setting Inner depth scope step deeds result after) :
      StepGoes step
        (.looked false :: .reported (.stepStarted step.spec.name depth) :: deeds ++
          [.reported (.stepCompleted step.spec.name depth result.status result.exitCode)])
        (step.spec.settle result) after

variable {setting Inner depth scope} {Inner' : Row → Prop} {step : ResolvedStep} {spec : Step}
  {deeds : List Deed} {result : StepResult} {after : Scope}

theorem BodyGoes.imp (h : BodyGoes setting Inner depth scope step deeds result after)
    (himp : ∀ row, row.steps = step.inside → Inner row → Inner' row) :
    BodyGoes setting Inner' depth scope step deeds result after := by
  cases h with
  | unprepared layers => exact .unprepared layers
  | unreadable layers body template => exact .unreadable layers body template
  | command layers body template => exact .command layers body template
  | unresolved layers body => exact .unresolved layers body
  | hosted layers host => exact .hosted layers host
  | checkout layers host isCheckout => exact .checkout layers host isCheckout
  | unhosted layers host isCheckout => exact .unhosted layers host isCheckout
  | missing layers some => exact .missing layers some
  | composite layers none below fresh inner =>
    exact .composite layers none below fresh (himp _ rfl inner)

theorem StepGoes.imp (h : StepGoes setting Inner depth scope step deeds result after)
    (himp : ∀ row, row.steps = step.inside → Inner row → Inner' row) :
    StepGoes setting Inner' depth scope step deeds result after := by
  cases h with
  | cancelled => exact .cancelled
  | invalid condition => exact .invalid condition
  | skipped condition => exact .skipped condition
  | entered condition body => exact .entered condition (body.imp himp)

/-! ### What is true of every step -/

theorem CompositeEnds.unsettled {steps : List StepResult} (h : CompositeEnds spec steps result) :
    spec.Unsettled result := by
  cases h <;> exact ⟨rfl, rfl, rfl⟩

theorem CompositeEnds.steps_eq {steps : List StepResult} (h : CompositeEnds spec steps result) :
    result.steps = steps := by
  cases h <;> rfl

theorem CompositeEnds.exists_cancelled {steps : List StepResult}
    (h : CompositeEnds spec steps result) (hresult : result.status = .cancelled) :
    ∃ r ∈ steps, r.status = .cancelled := by
  cases h with
  | cancelled any => simpa using any
  | failed | unrendered | succeeded => cases hresult

theorem BodyGoes.unsettled (h : BodyGoes setting Inner depth scope step deeds result after) :
    step.spec.Unsettled result := by
  cases h with
  | composite => exact (setting.compositeEnds ..).unsettled
  | _ => exact ⟨rfl, rfl, rfl⟩

/-- A result bears the name and the identifier of its step, and it is continued where it is a
failure and the step asks for that. -/
theorem StepGoes.settled (h : StepGoes setting Inner depth scope step deeds result after) :
    result.name = step.spec.name ∧ result.id = step.spec.id ∧
      result.continued = (decide (result.status = .failed) && step.spec.continueOnError) := by
  cases h with
  | cancelled | skipped => exact ⟨rfl, rfl, rfl⟩
  | invalid =>
    refine ⟨Step.settle_name .., Step.settle_id .., ?_⟩
    rw [Step.settle_continued _ _ rfl, Step.settle_status]
  | entered condition body =>
    have hown := body.unsettled
    refine ⟨(Step.settle_name ..).trans hown.name, (Step.settle_id ..).trans hown.id, ?_⟩
    rw [Step.settle_continued _ _ hown.continued, Step.settle_status]

theorem BodyGoes.status_eq (h : BodyGoes setting Inner depth scope step deeds result after) :
    after.status = scope.status := by
  cases h with
  | command => split <;> rfl
  | _ => rfl

/-- A step itself leaves the flags of its scope alone: they change when it is recorded. -/
theorem StepGoes.status_eq (h : StepGoes setting Inner depth scope step deeds result after) :
    after.status = scope.status := by
  cases h with
  | entered condition body => exact body.status_eq
  | _ => rfl

/-! ### What the work of a step amounts to -/

theorem bodyGoes_runScript {env inputs : Dict String} {script : String}
    {shell directory : Option String} (layers : setting.stepEnv scope spec = .ok (env, inputs))
    (body : spec.body = .command script shell directory)
    (h : (setting.runScript scope spec env script shell directory).Runs deeds (result, after)) :
    BodyGoes setting Inner depth scope (.plain spec) deeds result after := by
  unfold runScript at h
  split at h
  · next e template =>
    obtain ⟨rfl, hend⟩ := h.done
    cases hend
    exact .unreadable layers body template
  · next text template =>
    obtain ⟨lines, command, rest, rfl, hran⟩ := Work.Runs.runCommand h
    obtain ⟨rfl, hend⟩ := hran.done
    cases hend
    rw [List.append_nil]
    exact .command layers body template

theorem bodyGoes_runExternal {env inputs : Dict String} {action : ExternalAction}
    (layers : setting.stepEnv scope spec = .ok (env, inputs))
    (h : (setting.runExternal depth spec action env inputs).Runs deeds result) :
    BodyGoes setting Inner depth scope (.uses spec (.external action)) deeds result scope := by
  unfold runExternal at h
  split at h
  · next host =>
    obtain ⟨answer, rest, rfl, hanswered⟩ := Work.Runs.callHost h
    obtain ⟨cancelled, rest, rfl, hlooked⟩ := Work.Runs.cancelled hanswered
    obtain ⟨rfl, rfl⟩ := hlooked.done
    exact .hosted layers host
  · next host =>
    rw [Bool.not_eq_true] at host
    split at h
    · next isCheckout =>
      obtain ⟨rfl, rfl⟩ := h.done
      exact .checkout layers host isCheckout
    · next isCheckout =>
      rw [Bool.not_eq_true] at isCheckout
      obtain ⟨rest, rfl, htold⟩ := Work.Runs.tell h
      obtain ⟨rest, rfl, hwritten⟩ := Work.Runs.write htold
      obtain ⟨rfl, rfl⟩ := hwritten.done
      exact .unhosted layers host isCheckout

theorem bodyGoes_runAction {env inputs : Dict String} {action : ActionUnit}
    (layers : setting.stepEnv scope spec = .ok (env, inputs))
    (h : (setting.runAction depth spec env inputs action).Runs deeds result) :
    BodyGoes setting setting.Ran depth scope (.uses spec action) deeds result scope := by
  cases action with
  | external action =>
    rw [runAction] at h
    exact bodyGoes_runExternal layers h
  | composite info steps =>
    rw [runAction] at h
    split at h
    · next none =>
      obtain ⟨inner, ⟨results, left⟩, rest, rfl, hrow, hend⟩ := h.bind
      obtain ⟨rfl, rfl⟩ := hend.done
      rw [List.append_nil]
      exact @BodyGoes.composite setting setting.Ran depth scope spec info env inputs
        ⟨_, _, steps, inner, results, left⟩ layers none rfl rfl hrow
    · next some =>
      obtain ⟨rfl, rfl⟩ := h.done
      exact .missing layers (Bool.not_eq_true _ ▸ some)

theorem stepGoes_guarded (step : ResolvedStep)
    {body : Dict String → Dict String → Work (StepResult × Scope)}
    (hbody : ∀ {env inputs deeds result after},
      setting.stepEnv scope step.spec = .ok (env, inputs) →
      (body env inputs).Runs deeds (result, after) →
      BodyGoes setting Inner depth scope step deeds result after)
    (h : (setting.guarded depth scope step.spec body).Runs deeds (result, after)) :
    StepGoes setting Inner depth scope step deeds result after := by
  obtain ⟨cancelled, rest, rfl, hlooked⟩ := Work.Runs.cancelled h
  cases cancelled with
  | true =>
    obtain ⟨rfl, hend⟩ := hlooked.done
    cases hend
    exact .cancelled
  | false =>
    rw [if_neg Bool.false_ne_true] at hlooked
    split at hlooked
    · next e condition =>
      obtain ⟨rfl, hend⟩ := hlooked.done
      cases hend
      exact .invalid condition
    · next condition =>
      obtain ⟨rest, rfl, htold⟩ := Work.Runs.tell hlooked
      obtain ⟨rfl, hend⟩ := htold.done
      cases hend
      exact .skipped condition
    · next condition =>
      obtain ⟨rest, rfl, htold⟩ := Work.Runs.tell hlooked
      dsimp only at htold
      split at htold
      · next e layers =>
        obtain ⟨rest, rfl, hclosed⟩ := Work.Runs.tell htold
        obtain ⟨rfl, hend⟩ := hclosed.done
        cases hend
        exact .entered condition (.unprepared layers)
      · next env inputs layers =>
        obtain ⟨inner, ⟨own, left⟩, last, rfl, hinner, hclosing⟩ := Work.Runs.bind htold
        obtain ⟨rest, rfl, hclosed⟩ := Work.Runs.tell hclosing
        obtain ⟨rfl, hend⟩ := hclosed.done
        cases hend
        exact .entered condition (hbody layers hinner)

/-- A step goes in one of the ways that it can go. -/
theorem stepGoes (h : (setting.runStep depth scope step).Runs deeds (result, after)) :
    StepGoes setting setting.Ran depth scope step deeds result after := by
  cases step with
  | plain spec =>
    rw [runStep] at h
    refine stepGoes_guarded (.plain spec) (fun {_ _ _ _ _} layers hbody => ?_) h
    split at hbody
    · next script shell directory body => exact bodyGoes_runScript layers body hbody
    · next reference body =>
      obtain ⟨rfl, hend⟩ := hbody.done
      cases hend
      exact .unresolved layers body
  | uses spec action =>
    rw [runStep] at h
    refine stepGoes_guarded (.uses spec action) (fun {_ _ _ _ _} layers hbody => ?_) h
    obtain ⟨inner, own, rest, rfl, haction, hend⟩ := Work.Runs.bind hbody
    obtain ⟨rfl, hend⟩ := hend.done
    cases hend
    rw [List.append_nil]
    exact bodyGoes_runAction layers haction

/-! ### Rows -/

theorem Ran.nil {results : List StepResult}
    (h : setting.Ran ⟨depth, scope, [], deeds, results, after⟩) :
    deeds = [] ∧ results = [] ∧ after = scope := by
  unfold Ran at h
  rw [runSteps] at h
  obtain ⟨rfl, hend⟩ := h.done
  cases hend
  exact ⟨rfl, rfl, rfl⟩

/-- The first step of a row runs, and what is left of the row sees what came of it. -/
theorem Ran.cons {rest : List ResolvedStep} {results : List StepResult}
    (h : setting.Ran ⟨depth, scope, step :: rest, deeds, results, after⟩) :
    ∃ first second result mid others, deeds = first ++ second ∧ results = result :: others ∧
      (setting.runStep depth scope step).Runs first (result, mid) ∧
      setting.Ran ⟨depth, mid.record result, rest, second, others, after⟩ := by
  unfold Ran at h
  rw [runSteps] at h
  obtain ⟨first, ⟨result, mid⟩, others, rfl, hfirst, hrest⟩ := Work.Runs.bind h
  obtain ⟨second, ⟨results, left⟩, last, rfl, hsecond, hend⟩ := Work.Runs.bind hrest
  obtain ⟨rfl, hend⟩ := hend.done
  cases hend
  exact ⟨first, second, result, mid, results, by rw [List.append_nil], rfl, hfirst, hsecond⟩

/-- What steps keep in turn, where it is true of the rows inside of them, is true of every row that
has run. -/
theorem Ran.induct_runs {P : Row → Prop} (nil : ∀ depth scope, P ⟨depth, scope, [], [], [], scope⟩)
    (cons : ∀ {depth scope step rest first second result mid others after},
      (setting.runStep depth scope step).Runs first (result, mid) →
      StepGoes setting (fun row => setting.Ran row ∧ P row) depth scope step first result mid →
      P ⟨depth, mid.record result, rest, second, others, after⟩ →
      P ⟨depth, scope, step :: rest, first ++ second, result :: others, after⟩)
    {row : Row} (h : setting.Ran row) : P row := by
  induction hsize : sizeOf row.steps using Nat.strongRecOn generalizing row with
  | ind size ih =>
    obtain ⟨depth, scope, steps, deeds, results, after⟩ := row
    subst hsize
    cases steps with
    | nil =>
      obtain ⟨rfl, rfl, rfl⟩ := h.nil
      exact nil depth after
    | cons step rest =>
      obtain ⟨first, second, result, mid, others, rfl, rfl, hfirst, hrest⟩ := h.cons
      have hsize : sizeOf (step :: rest) = 1 + sizeOf step + sizeOf rest := rfl
      refine cons hfirst ((stepGoes hfirst).imp fun inner hsteps hinner => ?_) ?_
      · have hinside := step.sizeOf_inside_lt
        refine ⟨hinner, ih _ ?_ hinner rfl⟩
        rw [hsteps, hsize]
        omega
      · refine ih _ ?_ hrest rfl
        show sizeOf rest < _
        rw [hsize]
        omega

theorem Ran.induct {P : Row → Prop} (nil : ∀ depth scope, P ⟨depth, scope, [], [], [], scope⟩)
    (cons : ∀ {depth scope step rest first second result mid others after},
      StepGoes setting (fun row => setting.Ran row ∧ P row) depth scope step first result mid →
      P ⟨depth, mid.record result, rest, second, others, after⟩ →
      P ⟨depth, scope, step :: rest, first ++ second, result :: others, after⟩)
    {row : Row} (h : setting.Ran row) : P row :=
  h.induct_runs nil fun _ => cons

/-- A row has as many results as it has steps. -/
theorem Ran.length_eq {row : Row} (h : setting.Ran row) : row.results.length = row.steps.length :=
  h.induct (P := fun row => row.results.length = row.steps.length) (fun _ _ => rfl)
    fun _ hrest => congrArg (· + 1) hrest

theorem BodyGoes.exists_tellsCancelled
    (h : BodyGoes setting Inner depth scope step deeds result after)
    (hinner : ∀ row, Inner row → ∀ r ∈ row.results, r.status = .cancelled →
      ∃ d ∈ row.deeds, d.tellsCancelled = true)
    (hresult : result.status = .cancelled) : ∃ d ∈ deeds, d.tellsCancelled = true := by
  cases h with
  | @command _ _ _ _ _ _ _ _ ending =>
    refine ⟨_, .tail _ (.head _), ?_⟩
    show ending.cancelled = true
    change commandStatus ending = .cancelled at hresult
    unfold commandStatus at hresult
    split at hresult
    · assumption
    · split at hresult <;> cases hresult
  | @hosted _ _ _ _ answer cancelled =>
    refine ⟨_, .tail _ (.head _), ?_⟩
    cases cancelled with
    | true => rfl
    | false =>
      change (if answer.success then StepStatus.succeeded else .failed) = .cancelled at hresult
      split at hresult <;> cases hresult
  | composite _ _ _ _ inner =>
    obtain ⟨r, hr, hcancelled⟩ := (setting.compositeEnds ..).exists_cancelled hresult
    exact hinner _ inner r hr hcancelled
  | _ => cases hresult

theorem StepGoes.exists_tellsCancelled
    (h : StepGoes setting Inner depth scope step deeds result after)
    (hinner : ∀ row, Inner row → ∀ r ∈ row.results, r.status = .cancelled →
      ∃ d ∈ row.deeds, d.tellsCancelled = true)
    (hresult : result.status = .cancelled) : ∃ d ∈ deeds, d.tellsCancelled = true := by
  cases h with
  | cancelled => exact ⟨_, .head _, rfl⟩
  | invalid => rw [Step.settle_status] at hresult; cases hresult
  | skipped => cases hresult
  | entered condition body =>
    rw [Step.settle_status] at hresult
    obtain ⟨d, hd, htells⟩ := body.exists_tellsCancelled hinner hresult
    exact ⟨d, .tail _ (.tail _ (List.mem_append_left _ hd)), htells⟩

/-- A step is cancelled only where something has told that the work is. -/
theorem Ran.exists_tellsCancelled {row : Row} (h : setting.Ran row) {r : StepResult}
    (hr : r ∈ row.results) (hcancelled : r.status = .cancelled) :
    ∃ d ∈ row.deeds, d.tellsCancelled = true := by
  refine h.induct (P := fun row => ∀ r ∈ row.results, r.status = .cancelled →
    ∃ d ∈ row.deeds, d.tellsCancelled = true) ?_ ?_ r hr hcancelled
  · intro _ _ r hr
    cases hr
  · intro _ _ _ _ _ _ result _ _ _ hstep hrest r hr hcancelled
    cases hr with
    | head =>
      obtain ⟨d, hd, htells⟩ := hstep.exists_tellsCancelled (fun _ h => h.2) hcancelled
      exact ⟨d, List.mem_append_left _ hd, htells⟩
    | tail _ hr =>
      obtain ⟨d, hd, htells⟩ := hrest r hr hcancelled
      exact ⟨d, List.mem_append_right _ hd, htells⟩

theorem StepGoes.not_mem_lookedUp {steps : List Step} {found : Except Error (List ResolvedStep)}
    (h : StepGoes setting Inner depth scope step deeds result after)
    (hinner : ∀ row, Inner row → .lookedUp steps found ∉ row.deeds) :
    .lookedUp steps found ∉ deeds := by
  cases h with
  | cancelled | invalid | skipped => simp
  | entered condition body => cases body with
    | composite layers none below fresh inner => simp [hinner _ inner]
    | _ => simp

/-- The steps of a row look no actions up: that has been done before the first of them. -/
theorem Ran.not_mem_lookedUp {row : Row} (h : setting.Ran row) (steps : List Step)
    (found : Except Error (List ResolvedStep)) : .lookedUp steps found ∉ row.deeds := by
  refine h.induct (P := fun row => .lookedUp steps found ∉ row.deeds) ?_ ?_
  · exact fun _ _ => List.not_mem_nil
  · intro _ _ _ _ _ _ _ _ _ _ hstep hrest
    rw [List.mem_append, not_or]
    exact ⟨hstep.not_mem_lookedUp fun _ h => h.2, hrest⟩

end Setting

/-- The steps of a job are those that were found, and they start in its own scope. -/
theorem InstanceInfo.of_prepare {info : InstanceInfo} {job : Job}
    {found : Except Error (List ResolvedStep)} {steps : List ResolvedStep} {scope : Scope}
    (h : info.prepare job found = .ok (steps, scope)) :
    found = .ok steps ∧ info.rootScope job = .ok scope := by
  cases found with
  | error => cases h
  | ok resolved =>
    cases hroot : info.rootScope job with
    | error e =>
      simp only [prepare, bind, Except.bind, hroot] at h
      cases h
    | ok root =>
      simp only [prepare, bind, Except.bind, hroot] at h
      cases h
      exact ⟨rfl, rfl⟩

namespace Job

/-- What the run of an instance can come to. -/
inductive Goes (job : Job) (run : RunInfo) (hasHost : Bool) (i : Instance) :
    List Deed → JobResult → Prop where
  | cancelled : Goes job run hasHost i [.looked true] (job.cancelledResult i)
  | unstarted {found : Except Error (List ResolvedStep)} {e : Error}
      (failed : InstanceInfo.prepare ⟨run, i.matrix⟩ job found = .error e) :
      Goes job run hasHost i
        [.looked false, .reported (.started job.id (i.displayName job.name) job.steps.length),
          .lookedUp job.steps found, .logged .error e.message,
          .reported (.completed job.id .failed)]
        (job.unstartedResult i e)
  | finished {found : Except Error (List ResolvedStep)} {steps : List ResolvedStep} {scope : Scope}
      {deeds : List Deed} {results : List StepResult} {after : Scope}
      (ready : InstanceInfo.prepare ⟨run, i.matrix⟩ job found = .ok (steps, scope))
      (ran : Setting.Ran ⟨⟨run, i.matrix⟩, hasHost⟩ ⟨0, scope, steps, deeds, results, after⟩) :
      Goes job run hasHost i
        (.looked false :: .reported (.started job.id (i.displayName job.name) job.steps.length) ::
          .lookedUp job.steps found :: deeds ++ [.reported (.completed job.id (jobStatus results))])
        (job.finishedResult i results)

variable {job : Job} {run : RunInfo} {hasHost : Bool} {i : Instance} {deeds : List Deed}
  {result : JobResult}

theorem goes (h : (job.run run hasHost i).Runs deeds result) :
    Goes job run hasHost i deeds result := by
  obtain ⟨cancelled, rest, rfl, hlooked⟩ := Work.Runs.cancelled h
  cases cancelled with
  | true =>
    obtain ⟨rfl, rfl⟩ := hlooked.done
    exact .cancelled
  | false =>
    rw [if_neg Bool.false_ne_true] at hlooked
    obtain ⟨rest, rfl, htold⟩ := Work.Runs.tell hlooked
    obtain ⟨found, rest, rfl, hfound⟩ := Work.Runs.lookUp htold
    dsimp only at hfound
    split at hfound
    · next steps scope ready =>
      obtain ⟨inner, ⟨results, left⟩, last, rfl, hrow, hend⟩ := Work.Runs.bind hfound
      obtain ⟨rest, rfl, hclosed⟩ := Work.Runs.tell hend
      obtain ⟨rfl, rfl⟩ := hclosed.done
      exact .finished ready hrow
    · next e failed =>
      obtain ⟨rest, rfl, hwritten⟩ := Work.Runs.write hfound
      obtain ⟨rest, rfl, hclosed⟩ := Work.Runs.tell hwritten
      obtain ⟨rfl, rfl⟩ := hclosed.done
      exact .unstarted failed

/-- The steps of an instance have run as the row, between the report that the instance starts and
the report that it has ended. -/
structure RanAs (job : Job) (run : RunInfo) (hasHost : Bool) (i : Instance) (deeds : List Deed)
    (result : JobResult) (row : Row) : Prop where
  ran : Setting.Ran ⟨⟨run, i.matrix⟩, hasHost⟩ row
  top : row.depth = 0
  between : ∃ found, InstanceInfo.prepare ⟨run, i.matrix⟩ job found = .ok (row.steps, row.scope) ∧
    deeds = .looked false ::
      .reported (.started job.id (i.displayName job.name) job.steps.length) ::
      .lookedUp job.steps found :: row.deeds ++ [.reported (.completed job.id result.status)]
  result_eq : result = job.finishedResult i row.results

section RanAs

variable {row row' : Row}

/-- What was done for an instance says all about the row that ran. -/
theorem RanAs.unique (h : job.RanAs run hasHost i deeds result row)
    (h' : job.RanAs run hasHost i deeds result row') : row = row' := by
  obtain ⟨depth, scope, steps, inner, results, after⟩ := row
  obtain ⟨depth', scope', steps', inner', results', after'⟩ := row'
  obtain ⟨ran, top, ⟨found, ready, rfl⟩, -⟩ := h
  obtain ⟨ran', top', ⟨found', ready', hdeeds⟩, -⟩ := h'
  simp only [List.cons_append, List.cons.injEq, Deed.lookedUp.injEq, true_and,
    List.append_cancel_right_eq] at hdeeds
  obtain ⟨rfl, rfl⟩ := hdeeds
  obtain ⟨rfl, rfl⟩ : depth = 0 ∧ depth' = 0 := ⟨top, top'⟩
  cases ready.symm.trans ready'
  cases Work.Runs.unique ran ran'
  rfl

theorem RanAs.deeds_sublist (h : job.RanAs run hasHost i deeds result row) :
    row.deeds.Sublist deeds := by
  obtain ⟨_, -, rfl⟩ := h.between
  exact (((List.sublist_append_left ..).cons _).cons _).cons _

/-- Where the actions of an instance were found and its environment holds, its steps ran. -/
theorem ranAs_of_lookedUp {found : Except Error (List ResolvedStep)} {steps : List ResolvedStep}
    {scope : Scope} (h : (job.run run hasHost i).Runs deeds result)
    (hfound : .lookedUp job.steps found ∈ deeds)
    (hready : InstanceInfo.prepare ⟨run, i.matrix⟩ job found = .ok (steps, scope)) :
    ∃ row, job.RanAs run hasHost i deeds result row ∧ row.steps = steps ∧ row.scope = scope := by
  cases goes h with
  | cancelled => simp at hfound
  | unstarted failed =>
    simp only [List.mem_cons, Deed.lookedUp.injEq, reduceCtorEq, List.not_mem_nil, or_false,
      false_or, true_and] at hfound
    subst hfound
    rw [failed] at hready
    cases hready
  | @finished own _ _ _ _ _ ready ran =>
    have hran : job.RanAs run hasHost i _ _ _ := ⟨ran, rfl, ⟨own, ready, rfl⟩, rfl⟩
    simp only [List.cons_append, List.mem_cons, List.mem_append, Deed.lookedUp.injEq, reduceCtorEq,
      List.not_mem_nil, ran.not_mem_lookedUp, or_false, false_or, true_and] at hfound
    subst hfound
    rw [ready] at hready
    cases hready
    exact ⟨_, hran, rfl, rfl⟩

/-- What is true of every row that the steps can have run as is true of the one that they ran as. -/
theorem existsUnique_ranAs {found : Except Error (List ResolvedStep)} {steps : List ResolvedStep}
    {scope : Scope} {P : Row → Prop} (h : (job.run run hasHost i).Runs deeds result)
    (hfound : .lookedUp job.steps found ∈ deeds)
    (hready : InstanceInfo.prepare ⟨run, i.matrix⟩ job found = .ok (steps, scope))
    (hP : ∀ row, job.RanAs run hasHost i deeds result row → row.steps = steps →
      row.scope = scope → P row) :
    ∃! row, job.RanAs run hasHost i deeds result row ∧ row.steps = steps ∧ row.scope = scope ∧
      P row := by
  obtain ⟨row, hran, hsteps, hscope⟩ := ranAs_of_lookedUp h hfound hready
  exact ⟨row, ⟨hran, hsteps, hscope, hP row hran hsteps hscope⟩,
    fun _ hother => hother.1.unique hran⟩

end RanAs

end Job

end Pipeline
