import Pipeline.Proofs.Action.Lookup
import Pipeline.Proofs.Expression.Rendering
import Pipeline.Proofs.Workflow.Loaded

/-! A workflow that has been checked needs no other check. It compiles, step by step; its triggers
decide on every event; its matrices have values and exclude by their dimensions; and its scripts can
be rendered, except where an expression has no value. The steps of composite actions are like those
of jobs. -/

namespace Pipeline

/-- The script of a command step fails in the value of an expression only. -/
def Step.Renders (step : Step) : Prop :=
  ∀ script shell directory, step.body = .command script shell directory →
    Expression.FailsInEvaluation script

/-- Every dimension has values, and the keys of exclusions are dimensions. -/
structure Matrix.Sound (matrix : Matrix) : Prop where
  dimensions : ∀ dimension ∈ matrix.dimensions, dimension.2 ≠ []
  exclusions : ∀ entry ∈ matrix.exclusions, ∀ pair ∈ entry,
    ∃ dimension ∈ matrix.dimensions, dimension.1 = pair.1

/-- Nothing is wrong with the matrix of the job, and its scripts render. -/
structure Job.Sound (job : Job) : Prop where
  matrix : job.matrix.Sound
  steps : ∀ step ∈ job.steps, step.Renders

namespace Document

/-- What the step says that it does: it has a script or mentions an action, and not both. -/
inductive Step.Says (defaults : RunDefaults) (step : Step) : StepBody → Prop where
  | command {script : String} (run : step.run = some script) (uses : step.uses = none) :
    step.Says defaults
      (.command script (step.shell <|> defaults.shell) (step.directory <|> defaults.directory))
  | action {reference : ActionRef} (run : step.run = none) (uses : step.Mentions reference) :
    step.Says defaults (.action reference)

/-- The compiled step is what the written one says where defaults hold. -/
structure Step.Becomes (defaults : RunDefaults) (step : Step) (compiled : Pipeline.Step) :
    Prop where
  name : compiled.name = step.displayName
  id : compiled.id = step.id
  body : step.Says defaults compiled.body
  inputs : compiled.inputs = step.inputs.mapValues Expression.toText
  env : compiled.env = step.env
  condition : compiled.condition = step.condition
  continueOnError : compiled.continueOnError = step.continueOnError

/-- The defaults of the job, and around them those of the workflow. -/
def Job.runDefaults (job : Job) (outer : RunDefaults) : RunDefaults :=
  let own := job.defaults.getD .none
  ⟨own.shell <|> outer.shell, own.directory <|> outer.directory⟩

/-- The compiled job is what the written one says: its steps are the written ones in order. -/
structure Job.Becomes (outer : RunDefaults) (entry : String × Job) (compiled : Pipeline.Job) :
    Prop where
  id : compiled.id = entry.1
  name : compiled.name = entry.2.name.getD entry.1
  env : compiled.env = entry.2.env
  matrix : compiled.matrix = (entry.2.strategy.getD .empty).matrix.getD .empty
  failFast : compiled.failFast = (entry.2.strategy.getD .empty).failFast
  maxParallel : compiled.maxParallel = (entry.2.strategy.getD .empty).maxParallel
  steps : List.Forall₂ (Step.Becomes (entry.2.runDefaults outer)) entry.2.steps compiled.steps

/-! ### Steps -/

theorem exists_compile_of_checkBody (defaults : RunDefaults) {step : Step}
    (h : step.checkBody = .ok ()) :
    ∃ compiled, step.compile defaults = .ok compiled ∧
      step.Becomes defaults compiled ∧ compiled.Renders := by
  unfold Step.checkBody at h
  unfold Step.compile
  split at h
  · cases h
  · cases h
  · next uses hrun huses =>
    split at h
    · cases h
    · next reference hparse =>
      simp only [hrun, huses, hparse]
      exact ⟨_, rfl, ⟨rfl, rfl, .action hrun ⟨uses, huses, hparse⟩, rfl, rfl, rfl, rfl⟩, nofun⟩
  · next run hrun huses =>
    split at h
    · cases h
    · next htemplate =>
      simp only [hrun]
      refine ⟨_, rfl, ⟨rfl, rfl, .command hrun huses, rfl, rfl, rfl, rfl⟩, ?_⟩
      rintro script shell directory ⟨⟩
      exact Expression.failsInEvaluation_of_checkTemplate htemplate

/-- Steps that have been checked compile, each to what it says. -/
theorem exists_compile_of_checkSteps (defaults : RunDefaults) {owner : String}
    {steps : List Step} (h : checkSteps owner steps = .ok ()) :
    ∃ compiled, steps.mapM (Step.compile defaults) = .ok compiled ∧
      List.Forall₂ (Step.Becomes defaults) steps compiled ∧ ∀ step ∈ compiled, step.Renders := by
  obtain ⟨compiled, hcompiled, hsteps⟩ := exists_mapM_eq_ok fun step hstep =>
    exists_compile_of_checkBody defaults (checked_of_checkSteps h step hstep).1
  refine ⟨compiled, hcompiled, hsteps.imp fun _ _ h => h.1, fun step hstep => ?_⟩
  obtain ⟨_, -, -, hrenders⟩ := (exists_of_forall₂ hsteps).2 step hstep
  exact hrenders

/-! ### Jobs -/

theorem sound_of_checkMatrix {id : String} {matrix : Matrix}
    (h : checkMatrix id matrix = .ok ()) : matrix.Sound := by
  unfold checkMatrix at h
  split at h
  · cases h
  · next hdimensions =>
    split at h
    · cases h
    · split at h
      · cases h
      · next hkeys =>
        rw [List.find?_eq_none] at hdimensions hkeys
        refine ⟨fun dimension hmem hnil => hdimensions dimension hmem (List.isEmpty_iff.mpr hnil),
          fun entry hentry pair hpair => ?_⟩
        have hkey := hkeys pair.1
          (List.mem_flatMap.mpr ⟨entry, hentry, List.mem_map_of_mem hpair⟩)
        simpa [Matrix.isDimension] using hkey

theorem exists_compile_of_checkJob (outer : RunDefaults) {entry : String × Job}
    (h : checkJob entry.1 entry.2 = .ok ()) :
    ∃ compiled, entry.2.compile outer entry.1 = .ok compiled ∧
      Job.Becomes outer entry compiled ∧ compiled.Sound := by
  obtain ⟨-, hmatrix, -, hchecked⟩ := checkJob_ok h
  have hsound : ((entry.2.strategy.getD .empty).matrix.getD .empty).Sound := by
    rcases hstrategy : entry.2.strategy with _ | strategy
    · exact ⟨nofun, nofun⟩
    · rcases hdeclared : strategy.matrix with _ | matrix
      · rw [Option.getD_some, hdeclared]
        exact ⟨nofun, nofun⟩
      · rw [Option.getD_some, hdeclared]
        rw [hstrategy] at hmatrix
        exact sound_of_checkMatrix (hmatrix matrix hdeclared)
  obtain ⟨steps, hcompiled, hsteps, hrenders⟩ :=
    exists_compile_of_checkSteps (entry.2.runDefaults outer) hchecked
  unfold Job.runDefaults at hcompiled
  simp only [Job.compile, hcompiled]
  exact ⟨_, rfl, ⟨rfl, rfl, rfl, rfl, rfl, rfl, hsteps⟩, ⟨hsound, hrenders⟩⟩

/-! ### Workflows -/

/-- A trigger has a rule for each of its kinds. -/
theorem Trigger.kind_of_rules (trigger : Trigger) :
    trigger.rules.map (·.kind) = trigger.kinds := by
  cases trigger with
  | single kind => rfl
  | several kinds =>
    rw [Trigger.rules, List.map_map]
    exact List.map_id kinds
  | filtered kinds =>
    rw [Trigger.rules, List.map_map]
    rfl

/-- The rules of a trigger whose kinds have been checked decide on every event. -/
theorem exists_accepts_of_checkKinds {trigger : Trigger}
    (h : Pipeline.Trigger.checkKinds trigger.kinds = .ok ()) (event : Event) :
    ∃ answer, Pipeline.Trigger.accepts event trigger.rules = .ok answer := by
  rw [Pipeline.Trigger.accepts, trigger.kind_of_rules, h]
  exact ⟨_, rfl⟩

theorem exists_compile_of_check {document : Workflow} (h : document.check = .ok ()) :
    ∃ workflow, document.compile = .ok workflow ∧ workflow.triggers = document.on.rules ∧
      List.Forall₂ (Job.Becomes (document.defaults.getD .none)) document.jobs workflow.jobs ∧
      ∀ job ∈ workflow.jobs, job.Sound := by
  obtain ⟨-, -, -, hchecked⟩ := check_ok h
  obtain ⟨jobs, hcompiled, hjobs⟩ := exists_mapM_eq_ok fun entry hentry =>
    exists_compile_of_checkJob (document.defaults.getD .none) (checkJobs_ok hchecked entry hentry)
  simp only [Workflow.compile, h, hcompiled]
  refine ⟨_, rfl, rfl, hjobs.imp fun _ _ h => h.1, fun job hjob => ?_⟩
  obtain ⟨_, -, -, hsound⟩ := (exists_of_forall₂ hjobs).2 job hjob
  exact hsound

/-! ### Actions -/

theorem becomes_of_compileSteps {identifier : String} {manifest : Manifest}
    {specs : List Pipeline.Step} (h : Resolver.compileSteps identifier manifest = .ok specs) :
    List.Forall₂ (Step.Becomes .none) manifest.runs.steps specs ∧
      ∀ step ∈ specs, step.Renders := by
  obtain ⟨hcheck, hcompiled⟩ := Resolver.compileSteps_ok h
  obtain ⟨compiled, hcompile, hsteps⟩ := exists_compile_of_checkSteps .none hcheck
  cases hcompiled.symm.trans hcompile
  exact hsteps

/-- A workflow that has been checked compiles, with its jobs and their steps in order, and each step
does what it says. Its triggers decide on every event, its matrices have values and exclude by their
dimensions, and where a script cannot be rendered, one of its expressions has no value. The steps of
the composite action that is loaded from a directory are what its manifest says in the same way. -/
theorem check_suffices :
    (∀ document : Workflow, document.check = .ok () →
      ∃ workflow, document.compile = .ok workflow ∧
        List.Forall₂ (Job.Becomes (document.defaults.getD .none)) document.jobs workflow.jobs ∧
        (∀ event, ∃ answer, Pipeline.Trigger.accepts event workflow.triggers = .ok answer) ∧
        ∀ job ∈ workflow.jobs, job.Sound) ∧
    ∀ tree resolve identifier directory memory action memory',
      (Resolver.loadDirectory tree resolve identifier directory).Gives memory (some action)
          memory' →
        ∃ manifest info steps, Manifest.find tree directory = .ok manifest ∧
          manifest.isComposite = true ∧ action = .composite info steps ∧
          List.Forall₂ (Step.Becomes .none) manifest.runs.steps (steps.map (·.spec)) ∧
          ∀ step ∈ steps, step.spec.Renders := by
  constructor
  · intro document h
    obtain ⟨workflow, hcompile, htriggers, hjobs, hsound⟩ := exists_compile_of_check h
    refine ⟨workflow, hcompile, hjobs, fun event => ?_, hsound⟩
    rw [htriggers]
    exact exists_accepts_of_checkKinds (check_ok h).1 event
  · intro tree resolve identifier directory memory action memory' h
    obtain ⟨manifest, info, steps, hfind, hcomposite, hspecs, rfl⟩ :=
      Resolver.loadDirectory_spec h
    obtain ⟨hsteps, hrenders⟩ := becomes_of_compileSteps hspecs
    exact ⟨manifest, info, steps, hfind, hcomposite, rfl, hsteps,
      List.forall_mem_map.mp hrenders⟩

/-- A job with an action and a script, for one of two systems. -/
def Sample.job : Job :=
  let matrix : Matrix :=
    ⟨[("os", [.string "linux", .string "mac"])], [], [[("os", .string "mac")]]⟩
  { Job.empty with
    strategy := some { Strategy.empty with matrix := some matrix }
    steps := [{ Step.empty with uses := some "actions/checkout@v4" },
      { Step.empty with run := some "echo $\x7b\x7b matrix.os \x7d\x7d" }] }

/-- A workflow with that job, which starts on two kinds of events. -/
def Sample.workflow : Workflow :=
  ⟨none, .filtered [("push", some ⟨[], ["main"], []⟩), ("schedule", none)], [],
    some ⟨some "bash", none⟩, none, [("test", Sample.job)]⟩

/-- A file tree with a composite action of one step. -/
def Sample.tree : FileTree :=
  FileTree.empty.write ["w", "a", "action.yml"]
    "runs:\n  using: composite\n  steps:\n    - run: make\n".toUTF8

theorem check_sample : Sample.workflow.check = .ok () := by
  have hparse : Expression.parse "matrix.os" = .ok (.member (.context "matrix") "os") := by
    have htokens : Expression.tokenize "matrix.os" =
        .ok [.name "matrix", .symbol .dot, .name "os"] := by
      decide +kernel
    rw [Expression.parse, htokens]
    simp [Expression.parseTokens, Expression.parseLevel, Expression.parseChain,
      Expression.parseUnary, Expression.parsePrimary, Expression.parseAccess,
      Expression.propertyName?, Expression.Level.tighter?, Expression.afterSymbol?]
  have htemplate :
      Expression.checkTemplate "echo $\x7b\x7b matrix.os \x7d\x7d" = .ok () := by
    have hsplit : Expression.split "echo $\x7b\x7b matrix.os \x7d\x7d" =
        .ok [.literal "echo ", .expression "matrix.os"] := by
      decide +kernel
    rw [Expression.checkTemplate, hsplit]
    simp only [Expression.checkSegments, hparse]
  have huses : Step.checkBody { Step.empty with uses := some "actions/checkout@v4" } = .ok () := by
    decide +kernel
  have hrun : Step.checkBody
      { Step.empty with run := some "echo $\x7b\x7b matrix.os \x7d\x7d" } = .ok () := by
    simp only [Step.checkBody, Step.empty, htemplate]
  have hsteps : checkSteps "job 'test'" Sample.job.steps = .ok () := by
    simp only [checkSteps, Sample.job, checkStepsFrom, huses, hrun]
    rfl
  have hjob : checkJob "test" Sample.job = .ok () := by
    have hmatrix : checkMatrix "test"
        ⟨[("os", [.string "linux", .string "mac"])], [], [[("os", .string "mac")]]⟩ = .ok () := by
      decide +kernel
    rw [checkJob]
    simp only [Sample.job, Option.bind, hmatrix]
    exact hsteps
  have hkinds : Pipeline.Trigger.checkKinds Sample.workflow.on.kinds = .ok () := by
    decide +kernel
  rw [Workflow.check, hkinds]
  show checkJobs [("test", Sample.job)] = .ok ()
  rw [checkJobs, hjob]
  rfl

/-- The workflow compiles, and the composite action is loaded. -/
theorem check_suffices_sample :
    (∃ workflow, Sample.workflow.compile = .ok workflow ∧
      List.Forall₂ (Job.Becomes ⟨some "bash", none⟩) [("test", Sample.job)] workflow.jobs ∧
      (∀ event, ∃ answer, Pipeline.Trigger.accepts event workflow.triggers = .ok answer) ∧
      ∀ job ∈ workflow.jobs, job.Sound) ∧
    ∃ action memory, (Resolver.loadDirectory Sample.tree (Resolver.resolve ⟨"/w", 2⟩ Sample.tree)
        "./a" "/w/a").Gives ⟨.of "/cache", []⟩ (some action) memory ∧
      ∃ info steps, action = .composite info steps ∧ ∀ step ∈ steps, step.spec.Renders := by
  obtain ⟨hworkflows, hactions⟩ := check_suffices
  refine ⟨hworkflows Sample.workflow check_sample, ?_⟩
  let answer := (Resolver.loadDirectory Sample.tree (Resolver.resolve ⟨"/w", 2⟩ Sample.tree)
    "./a" "/w/a").outcome ⟨.of "/cache", []⟩
  have hloaded : (answer.1.toOption.bind id).isSome = true := by decide +kernel
  rcases hanswer : answer with ⟨e | loaded, memory⟩
  · rw [hanswer] at hloaded
    cases hloaded
  · rw [hanswer] at hloaded
    obtain ⟨action, rfl⟩ := Option.isSome_iff_exists.mp hloaded
    obtain ⟨_, info, steps, -, -, hcomposite, -, hrenders⟩ := hactions _ _ _ _ _ _ _ hanswer
    exact ⟨action, memory, hanswer, info, steps, hcomposite, hrenders⟩

end Document

end Pipeline
