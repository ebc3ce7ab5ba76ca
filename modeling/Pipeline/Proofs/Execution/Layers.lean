import Mathlib.Data.List.Nodup
import Pipeline.Proofs.Execution.Visits

/-! The environment of a command, layer by layer: the inputs of its step, the environment of the
step, what commands of the job have written before it, and the environments of the job, the
workflow, the run and the machine. Of the layers that bind a variable, the first one decides. -/

namespace Pipeline

namespace Dict

variable {α : Type}

/-- The value that the first of the layers to bind a key gives it. In a layer that binds the key
more than once the last binding counts. -/
def topmost (layers : List (Dict α)) (key : String) : Option α :=
  layers.findSome? fun layer => (ofList layer).get? key

theorem topmost_append (upper lower : List (Dict α)) (key : String) :
    topmost (upper ++ lower) key = (topmost upper key).or (topmost lower key) :=
  List.findSome?_append

/-- Where layers are put above each other in turn, the last one decides. -/
theorem get?_foldl_override (layers : List (Dict α)) (d : Dict α) (key : String) :
    (layers.foldl override d).get? key = (topmost layers.reverse key).or (d.get? key) := by
  induction layers generalizing d with
  | nil => rfl
  | cons layer rest ih =>
    have hlayer : topmost [layer] key = (ofList layer).get? key := by
      simp [topmost]
    rw [List.foldl_cons, ih, get?_override, List.reverse_cons, topmost_append, hlayer,
      Option.or_assoc]

/-- The same bindings in another order, one for each key. -/
structure Reordered (d e : Dict α) : Prop where
  perm : d.Perm e
  nodup : (keys d).Nodup

theorem Reordered.override_eq {d e : Dict α} (h : Reordered d e) (below : Dict α) :
    override below d = override below e := by
  -- Insertions of different keys commute, and no two entries share a key unless they are one.
  refine h.perm.foldl_eq' (fun pair hpair pair' hpair' below => ?_) below
  by_cases hkeys : pair.1 = pair'.1
  · rw [List.inj_on_of_nodup_map h.nodup hpair hpair' hkeys]
  · exact insert_comm hkeys ..

theorem foldl_override_reordered {layers layers' : List (Dict α)}
    (h : List.Forall₂ Reordered layers layers') (below : Dict α) :
    layers.foldl override below = layers'.foldl override below := by
  induction h generalizing below with
  | nil => rfl
  | cons first _ ih => rw [List.foldl_cons, List.foldl_cons, first.override_eq, ih]

end Dict

/-! ### Rendering a layer -/

section Rendering

variable {context : Expression.Context} {layer layer' rendered : Dict String}

theorem interpolateAll_cons_ok {key template : String}
    (h : interpolateAll context ((key, template) :: layer) = .ok rendered) :
    ∃ value rest, Expression.interpolate template context = .ok value ∧
      interpolateAll context layer = .ok rest ∧ rendered = (key, value) :: rest := by
  simp only [interpolateAll, bind, Except.bind] at h
  split at h
  · cases h
  · next value hvalue =>
    split at h
    · cases h
    · next rest hrest =>
      cases h
      exact ⟨value, rest, hvalue, hrest, rfl⟩

theorem interpolateAll_cons {key template value : String}
    (hvalue : Expression.interpolate template context = .ok value)
    (h : interpolateAll context layer = .ok rendered) :
    interpolateAll context ((key, template) :: layer) = .ok ((key, value) :: rendered) := by
  simp only [interpolateAll, bind, Except.bind, hvalue, h]
  rfl

theorem keys_of_interpolateAll (h : interpolateAll context layer = .ok rendered) :
    Dict.keys rendered = Dict.keys layer := by
  induction layer generalizing rendered with
  | nil =>
    cases h
    rfl
  | cons pair rest ih =>
    obtain ⟨value, others, -, hothers, rfl⟩ := interpolateAll_cons_ok h
    exact congrArg (pair.1 :: ·) (ih hothers)

theorem interpolateAll_perm (h : layer.Perm layer')
    (hrendered : interpolateAll context layer = .ok rendered) :
    ∃ rendered', interpolateAll context layer' = .ok rendered' ∧ rendered.Perm rendered' := by
  induction h generalizing rendered with
  | nil => exact ⟨rendered, hrendered, .refl _⟩
  | cons pair _ ih =>
    obtain ⟨value, rest, hvalue, hrest, rfl⟩ := interpolateAll_cons_ok hrendered
    obtain ⟨rest', hrest', hperm⟩ := ih hrest
    exact ⟨_, interpolateAll_cons hvalue hrest', hperm.cons _⟩
  | swap pair pair' layer =>
    obtain ⟨value, rest, hvalue, hrest, rfl⟩ := interpolateAll_cons_ok hrendered
    obtain ⟨value', others, hvalue', hothers, rfl⟩ := interpolateAll_cons_ok hrest
    exact ⟨_, interpolateAll_cons hvalue' (interpolateAll_cons hvalue hothers), .swap ..⟩
  | trans _ _ ih ih' =>
    obtain ⟨mid, hmid, hfirst⟩ := ih hrendered
    obtain ⟨last, hlast, hsecond⟩ := ih' hmid
    exact ⟨last, hlast, hfirst.trans hsecond⟩

theorem interpolateAll_reordered (h : Dict.Reordered layer layer')
    (hrendered : interpolateAll context layer = .ok rendered) :
    ∃ rendered', interpolateAll context layer' = .ok rendered' ∧
      Dict.Reordered rendered rendered' := by
  obtain ⟨rendered', hrendered', hperm⟩ := interpolateAll_perm h.perm hrendered
  exact ⟨rendered', hrendered', hperm, keys_of_interpolateAll hrendered ▸ h.nodup⟩

end Rendering

/-! ### Layers of a job and of a step -/

namespace InstanceInfo

variable {info : InstanceInfo} {job : Job} {scope : Scope}

/-- The environment of the machine with that of the run above it. -/
def baseLayers (info : InstanceInfo) : Dict String :=
  Dict.override info.run.baseEnv info.run.defaultEnv

/-- What a layer of a job is rendered in. -/
def layerContext (info : InstanceInfo) (env : Dict String) : Expression.Context :=
  info.context { Scope.empty with env := env } env

/-- The environments of the workflow and of the job, each rendered above the layers below it. -/
structure JobLayers (info : InstanceInfo) (job : Job) (workflowEnv jobEnv : Dict String) :
    Prop where
  workflow : interpolateAll (info.layerContext info.baseLayers) info.run.workflow.env =
    .ok workflowEnv
  job : interpolateAll (info.layerContext (Dict.override info.baseLayers workflowEnv)) job.env =
    .ok jobEnv

theorem addLayer_ok {env layer above : Dict String} (h : info.addLayer env layer = .ok above) :
    ∃ rendered, interpolateAll (info.layerContext env) layer = .ok rendered ∧
      above = Dict.override env rendered := by
  simp only [addLayer, bind, Except.bind] at h
  split at h
  · cases h
  · next rendered hrendered =>
    cases h
    exact ⟨rendered, hrendered, rfl⟩

theorem addLayer_of {env layer rendered : Dict String}
    (h : interpolateAll (info.layerContext env) layer = .ok rendered) :
    info.addLayer env layer = .ok (Dict.override env rendered) := by
  unfold layerContext at h
  simp only [addLayer, bind, Except.bind, h]
  rfl

theorem rootScope_ok_iff : info.rootScope job = .ok scope ↔
    ∃ workflowEnv jobEnv, info.JobLayers job workflowEnv jobEnv ∧
      scope = { Scope.empty with
        env := Dict.override (Dict.override info.baseLayers workflowEnv) jobEnv } := by
  constructor
  · intro h
    simp only [rootScope, bind, Except.bind] at h
    split at h
    · cases h
    · next first hfirst =>
      obtain ⟨workflowEnv, hworkflow, rfl⟩ := addLayer_ok hfirst
      split at h
      · cases h
      · next second hsecond =>
        obtain ⟨jobEnv, hjob, rfl⟩ := addLayer_ok hsecond
        cases h
        exact ⟨workflowEnv, jobEnv, ⟨hworkflow, hjob⟩, rfl⟩
  · rintro ⟨workflowEnv, jobEnv, ⟨hworkflow, hjob⟩, rfl⟩
    have hfirst := addLayer_of hworkflow
    have hsecond := addLayer_of hjob
    unfold baseLayers at hfirst hsecond
    simp only [rootScope, bind, Except.bind, hfirst, hsecond]
    rfl

/-- The entries of the environments can be enumerated in any order. -/
theorem rootScope_reordered {run : RunInfo} {matrix : Assignment}
    {base base' workflowEnv jobEnv : Dict String}
    (h : InstanceInfo.rootScope ⟨{ run with baseEnv := Dict.ofList base }, matrix⟩ job = .ok scope)
    (hbase : Dict.Reordered base base') (hworkflow : Dict.Reordered run.workflow.env workflowEnv)
    (hjob : Dict.Reordered job.env jobEnv) :
    InstanceInfo.rootScope
      ⟨{ run with
          baseEnv := Dict.ofList base', workflow := { run.workflow with env := workflowEnv } },
        matrix⟩ { job with env := jobEnv } = .ok scope := by
  have hsameBase : Dict.ofList base = Dict.ofList base' := hbase.override_eq []
  obtain ⟨first, second, ⟨hfirst, hsecond⟩, rfl⟩ := rootScope_ok_iff.mp h
  obtain ⟨first', hfirst', hsame⟩ := interpolateAll_reordered hworkflow hfirst
  obtain ⟨second', hsecond', hsame'⟩ := interpolateAll_reordered hjob hsecond
  rw [hsame.override_eq] at hsecond'
  rw [hsameBase] at hfirst' hsecond' ⊢
  refine rootScope_ok_iff.mpr ⟨first', second', ⟨hfirst', hsecond'⟩, ?_⟩
  rw [hsame'.override_eq, hsame.override_eq]
  rfl

end InstanceInfo

/-! ### What commands write -/

/-- What a command that was not cancelled has written to the environment. -/
def Deed.written? : Deed → Option (Dict String)
  | ended _ _ result => if result.cancelled then none else some result.env
  | _ => none

/-- What a step writes to the environment of its job. Of what the steps of a composite action write,
nothing comes out. -/
def ResolvedStep.written : ResolvedStep → List Deed → List (Dict String)
  | plain _, deeds => deeds.filterMap Deed.written?
  | uses .., _ => []

/-- What a visit writes to the environment of its row. -/
def Visit.written (visit : Visit) : List (Dict String) :=
  visit.step.written visit.deeds

namespace Setting

variable {setting : Setting} {Inner : Row → Prop} {depth : Nat} {scope after : Scope}
  {step : ResolvedStep} {spec : Step} {deeds : List Deed} {result : StepResult} {row : Row}
  {own inputs : Dict String} {before : List StepResult} {visits : List Visit}

/-- The environment and the inputs of a step, each rendered above the layers below it. -/
structure StepLayers (setting : Setting) (scope : Scope) (spec : Step)
    (own inputs : Dict String) : Prop where
  env : interpolateAll (setting.info.context scope scope.env) spec.env = .ok own
  inputs : interpolateAll (setting.info.context scope (Dict.override scope.env own)) spec.inputs =
    .ok inputs

theorem stepEnv_ok_iff {env : Dict String} : setting.stepEnv scope spec = .ok (env, inputs) ↔
    ∃ own, setting.StepLayers scope spec own inputs ∧
      env = Dict.override (Dict.override scope.env own) inputs := by
  constructor
  · intro h
    simp only [stepEnv, bind, Except.bind] at h
    split at h
    · cases h
    · next own hown =>
      split at h
      · cases h
      · next inputs hinputs =>
        cases h
        exact ⟨own, ⟨hown, hinputs⟩, rfl⟩
  · rintro ⟨own, ⟨hown, hinputs⟩, rfl⟩
    simp only [stepEnv, bind, Except.bind, hown, hinputs]
    rfl

theorem StepLayers.stepEnv_eq (h : setting.StepLayers scope spec own inputs) :
    setting.stepEnv scope spec =
      .ok (Dict.override (Dict.override scope.env own) inputs, inputs) :=
  stepEnv_ok_iff.mpr ⟨own, h, rfl⟩

/-- The entries of the environment and of the inputs of a step can be enumerated in any order. -/
theorem stepEnv_reordered {env stepEnv stepInputs : Dict String}
    (h : setting.stepEnv scope spec = .ok (env, inputs))
    (henv : Dict.Reordered spec.env stepEnv) (hinputs : Dict.Reordered spec.inputs stepInputs) :
    ∃ inputs', setting.stepEnv scope { spec with env := stepEnv, inputs := stepInputs } =
      .ok (env, inputs') ∧ Dict.Reordered inputs inputs' := by
  obtain ⟨own, ⟨hown, hrendered⟩, rfl⟩ := stepEnv_ok_iff.mp h
  obtain ⟨own', hown', hsame⟩ := interpolateAll_reordered henv hown
  rw [hsame.override_eq] at hrendered
  obtain ⟨inputs', hinputs', hsame'⟩ := interpolateAll_reordered hinputs hrendered
  refine ⟨inputs', stepEnv_ok_iff.mpr ⟨own', ⟨hown', hinputs'⟩, ?_⟩, hsame'⟩
  rw [hsame.override_eq, hsame'.override_eq]

/-! ### How writing goes on through a row -/

theorem BodyGoes.env_eq (h : BodyGoes setting Inner depth scope step deeds result after) :
    after.env = (step.written deeds).foldl Dict.override scope.env := by
  cases h with
  | @command _ _ _ _ _ _ _ _ ending =>
    cases hending : ending.cancelled <;>
      simp [ResolvedStep.written, List.filterMap_cons, Deed.written?, List.filterMap_map,
        Function.comp_def, Scope.applyEnv, hending]
  | unprepared => cases step <;> rfl
  | _ => rfl

/-- A step changes the environment of its scope by what it writes. -/
theorem StepGoes.env_eq (h : StepGoes setting Inner depth scope step deeds result after) :
    after.env = (step.written deeds).foldl Dict.override scope.env := by
  cases h with
  | cancelled | invalid | skipped => cases step <;> rfl
  | entered condition body =>
    rw [body.env_eq]
    cases step <;> simp [ResolvedStep.written, List.filterMap_cons, Deed.written?]

/-- A step of a row sees what the steps before it have written. -/
theorem InTurn.env_eq (h : setting.InTurn before row visits) {earlier later : List Visit}
    {visit : Visit} (hvisits : visits = earlier ++ visit :: later) :
    visit.scope.env = (earlier.flatMap Visit.written).foldl Dict.override row.scope.env := by
  induction h generalizing earlier with
  | nil => simp at hvisits
  | cons runs _ ih =>
    cases earlier with
    | nil =>
      obtain ⟨rfl, -⟩ := List.cons.inj hvisits
      rfl
    | cons first rest =>
      obtain ⟨rfl, hrest⟩ := List.cons.inj hvisits
      have henv := (stepGoes runs).env_eq
      rw [ih hrest, List.flatMap_cons, List.foldl_append]
      exact congrArg (List.foldl Dict.override · _) henv

/-! ### What a command is given -/

section Command

variable {script : String} {shell directory : Option String}

/-- A command is given the environment of its step with the inputs above it. -/
theorem StepGoes.handed (h : StepGoes setting Inner depth scope (.plain spec) deeds result after)
    (hlayers : setting.StepLayers scope spec own inputs) {request : Command.Request}
    (hrequest : .started request ∈ deeds) :
    request.env = Dict.override (Dict.override scope.env own) inputs := by
  cases h with
  | cancelled | invalid | skipped => simp at hrequest
  | entered condition body =>
    cases body with
    | unprepared | unreadable | unresolved => simp at hrequest
    | command layers =>
      rw [hlayers.stepEnv_eq] at layers
      cases layers
      simp only [List.cons_append, List.mem_cons, List.mem_append, List.mem_map, reduceCtorEq,
        Deed.started.injEq, List.not_mem_nil, and_false, exists_false, or_false, false_or]
        at hrequest
      rw [hrequest]

/-- A command is started once its step is entered and its script renders. -/
theorem StepGoes.exists_started
    (h : StepGoes setting Inner depth scope (.plain spec) deeds result after)
    (hlooked : deeds.head? = some (.looked false))
    (hcondition : Expression.evaluateCondition spec.condition
      (setting.info.context scope scope.env) = .ok true)
    (hlayers : setting.StepLayers scope spec own inputs)
    (hbody : spec.body = .command script shell directory) {text : String}
    (htext : Expression.interpolate script (setting.info.context scope
      (Dict.override (Dict.override scope.env own) inputs)) = .ok text) :
    ∃ request, .started request ∈ deeds := by
  obtain ⟨inner, _, body, -, rfl⟩ := h.exists_body hlooked hcondition
  cases body with
  | unprepared layers => cases layers.symm.trans hlayers.stepEnv_eq
  | unreadable layers body template =>
    cases layers.symm.trans hlayers.stepEnv_eq
    cases body.symm.trans hbody
    cases template.symm.trans htext
  | command => exact ⟨_, .tail _ (.tail _ (.head _))⟩
  | unresolved _ body => cases body.symm.trans hbody

end Command

/-- A step that runs above these layers. In its scope, and in the environment of its command, the
first layer that binds a variable decides. -/
structure Layered (setting : Setting) (below : List (Dict String)) (visit : Visit) : Prop where
  scope : ∀ name, visit.scope.env.get? name =
    (Dict.topmost below name).or (setting.info.run.baseEnv.get? name)
  command : ∀ spec own inputs request, visit.step = .plain spec →
    setting.StepLayers visit.scope spec own inputs → .started request ∈ visit.deeds →
    ∀ name, request.env.get? name =
      (Dict.topmost (inputs :: own :: below) name).or (setting.info.run.baseEnv.get? name)
  starts : ∀ spec script shell directory own inputs text, visit.step = .plain spec →
    spec.body = .command script shell directory → setting.Enters visit →
    setting.StepLayers visit.scope spec own inputs →
    Expression.interpolate script (setting.info.context visit.scope
      (Dict.override (Dict.override visit.scope.env own) inputs)) = .ok text →
    ∃ request, .started request ∈ visit.deeds

/-- Neither the environment that a step makes nor the scope that it leaves behind depends on the
order of the entries of a layer. -/
structure Unordered (setting : Setting) (visit : Visit) : Prop where
  layers : ∀ env inputs stepEnv stepInputs,
    setting.stepEnv visit.scope visit.step.spec = .ok (env, inputs) →
    Dict.Reordered visit.step.spec.env stepEnv →
    Dict.Reordered visit.step.spec.inputs stepInputs →
    ∃ inputs', setting.stepEnv visit.scope
        { visit.step.spec with env := stepEnv, inputs := stepInputs } = .ok (env, inputs') ∧
      Dict.Reordered inputs inputs'
  writes : ∀ writes, List.Forall₂ Dict.Reordered visit.written writes →
    visit.after.env = writes.foldl Dict.override visit.scope.env

theorem StepGoes.layered {visit : Visit} {written : List (Dict String)}
    {workflowEnv jobEnv : Dict String} (h : StepGoes setting Inner visit.depth visit.scope
      visit.step visit.deeds visit.result visit.after)
    (henv : visit.scope.env = written.foldl Dict.override
      (Dict.override (Dict.override setting.info.baseLayers workflowEnv) jobEnv)) :
    setting.Layered
      (written.reverse ++ [jobEnv, workflowEnv, setting.info.run.defaultEnv]) visit := by
  -- The environment of the command is the scope with two more layers, so one fact serves both.
  have hscope (upper : List (Dict String)) (name : String) :
      (upper.foldl Dict.override visit.scope.env).get? name =
        (Dict.topmost (upper.reverse ++ (written.reverse ++
          [jobEnv, workflowEnv, setting.info.run.defaultEnv])) name).or
            (setting.info.run.baseEnv.get? name) := by
    have hlayers : upper.foldl Dict.override visit.scope.env =
        ([setting.info.run.defaultEnv, workflowEnv, jobEnv] ++ written ++ upper).foldl Dict.override
          setting.info.run.baseEnv := by
      rw [List.foldl_append, List.foldl_append, henv]
      rfl
    rw [hlayers, Dict.get?_foldl_override]
    simp only [List.reverse_append, List.reverse_cons, List.nil_append,
      List.cons_append, List.append_assoc]
  refine ⟨hscope [], ?_, ?_⟩
  · intro spec own inputs request hstep hlayers hrequest name
    rw [hstep] at h
    rw [h.handed hlayers hrequest]
    exact hscope [own, inputs] name
  · intro spec script shell directory own inputs text hstep hbody henters hlayers htext
    obtain ⟨hlooked, hcondition⟩ := henters
    rw [hstep] at h hcondition
    exact h.exists_started hlooked hcondition hlayers hbody htext

theorem StepGoes.unordered {visit : Visit} (h : StepGoes setting Inner visit.depth visit.scope
    visit.step visit.deeds visit.result visit.after) : setting.Unordered visit := by
  refine ⟨fun _ _ _ _ => stepEnv_reordered, fun writes hwrites => ?_⟩
  rw [h.env_eq]
  exact Dict.foldl_override_reordered hwrites _

end Setting

namespace Sample

/-- The first step has an environment and an input of its own, and what its command writes is meant
for the second one. -/
def layeredJob : Job :=
  { job with
    env := [("INPUT", "job"), ("OWN", "job"), ("WRITTEN", "job")]
    steps := [{ compile with env := [("OWN", "first")], inputs := [("INPUT", "first")] },
      { test with env := [("LAST", "own")], inputs := [("LAST", "input")] }] }

def layeredRun : RunInfo :=
  { run with
    workflow := { run.workflow with env := [("OWN", "workflow"), ("CI", "workflow")] }
    baseEnv := [("BASE", "base"), ("CI", "base"), ("GITHUB_ACTIONS", "base")] }

def writingReplies : Work.Replies :=
  { replies 0 fun _ => false with
    find _ _ := .ok (layeredJob.steps.map .plain)
    command _ _ := ([], ⟨"", "", some 0, [], [("WRITTEN", "command")], false, none⟩) }

/-- The values of the variables in the environments that the commands are given. -/
def values (names : List String) (deeds : List Deed) : List (List (Option String)) :=
  deeds.filterMap fun
    | .started request => some (names.map request.env.get?)
    | _ => none

end Sample

namespace Job

variable {job : Job} {run : RunInfo} {hasHost : Bool} {i : Instance} {deeds : List Deed}
  {result : JobResult} {found : Except Error (List ResolvedStep)} {steps : List ResolvedStep}
  {scope : Scope}

/-- The environment of a command is made of its own layers, of what the commands of the job have
written before it, and of the layers of the job, and the first one that binds a variable decides.
The order of the entries of a layer says nothing. -/
theorem first_layer_decides (hrun : (job.run run hasHost i).Runs deeds result)
    (hfound : .lookedUp job.steps found ∈ deeds)
    (hready : InstanceInfo.prepare ⟨run, i.matrix⟩ job found = .ok (steps, scope)) :
    let setting : Setting := ⟨⟨run, i.matrix⟩, hasHost⟩
    ∃! row, job.RanAs run hasHost i deeds result row ∧ row.steps = steps ∧ row.scope = scope ∧
      ∃ visits workflowEnv jobEnv, setting.InTurn [] row visits ∧
        setting.info.JobLayers job workflowEnv jobEnv ∧
        (∀ earlier visit later, visits = earlier ++ visit :: later →
          let written := earlier.flatMap Visit.written
          setting.Layered (written.reverse ++ [jobEnv, workflowEnv, run.defaultEnv]) visit ∧
          setting.Unordered visit) ∧
        ∀ base base' workflowEnv' jobEnv', run.baseEnv = Dict.ofList base →
          Dict.Reordered base base' → Dict.Reordered run.workflow.env workflowEnv' →
          Dict.Reordered job.env jobEnv' →
          InstanceInfo.rootScope
            ⟨{ run with
                baseEnv := Dict.ofList base'
                workflow := { run.workflow with env := workflowEnv' } }, i.matrix⟩
            { job with env := jobEnv' } = .ok scope := by
  intro setting
  have hroot := (InstanceInfo.of_prepare hready).2
  refine existsUnique_ranAs hrun hfound hready ?_
  rintro row hran - rfl
  obtain ⟨visits, hturn⟩ := hran.ran.exists_inTurn []
  obtain ⟨workflowEnv, jobEnv, hlayers, hscope⟩ := InstanceInfo.rootScope_ok_iff.mp hroot
  refine ⟨visits, workflowEnv, jobEnv, hturn, hlayers, ?_, ?_⟩
  · intro earlier visit later hvisits
    have hgoes := hturn.goes (hvisits ▸ List.mem_append_right _ (.head _))
    have henv := hturn.env_eq hvisits
    rw [hscope] at henv
    exact ⟨hgoes.layered henv, hgoes.unordered⟩
  · rintro base base' workflowEnv' jobEnv' hbase
    obtain ⟨_, _, _, _, _, _⟩ := run
    cases hbase
    exact InstanceInfo.rootScope_reordered hroot

theorem first_layer_decides_sample :
    let course := (Sample.layeredJob.run Sample.layeredRun false Sample.only).follow
      Sample.writingReplies []
    let setting : Setting := ⟨⟨Sample.layeredRun, []⟩, false⟩
    let steps := Sample.layeredJob.steps.map ResolvedStep.plain
    (Sample.layeredJob.run Sample.layeredRun false Sample.only).Runs course.1 course.2 ∧
    .lookedUp Sample.layeredJob.steps (.ok steps) ∈ course.1 ∧
    (∃ scope, InstanceInfo.prepare ⟨Sample.layeredRun, []⟩ Sample.layeredJob (.ok steps) =
        .ok (steps, scope) ∧
      ∃ row, Sample.layeredJob.RanAs Sample.layeredRun false Sample.only course.1 course.2 row ∧
        row.steps = steps ∧ row.scope = scope ∧
        ∃ visits workflowEnv jobEnv, setting.InTurn [] row visits ∧
          setting.info.JobLayers Sample.layeredJob workflowEnv jobEnv ∧
          ∀ earlier visit later, visits = earlier ++ visit :: later →
            let written := earlier.flatMap Visit.written
            setting.Layered
              (written.reverse ++ [jobEnv, workflowEnv, Sample.layeredRun.defaultEnv]) visit ∧
            setting.Unordered visit) ∧
    Sample.values ["INPUT", "LAST", "OWN", "WRITTEN", "CI", "GITHUB_ACTIONS", "BASE"] course.1 =
      [[some "first", none, some "first", some "job", some "workflow", some "true", some "base"],
        [some "job", some "input", some "job", some "command", some "workflow", some "true",
          some "base"]] := by
  intro course setting steps
  have hrun : (Sample.layeredJob.run Sample.layeredRun false Sample.only).Runs course.1 course.2 :=
    Work.follow_runs ..
  have hfound : .lookedUp Sample.layeredJob.steps (.ok steps) ∈ course.1 :=
    .tail _ (.tail _ (.head _))
  obtain ⟨scope, hready⟩ : ∃ scope, InstanceInfo.prepare ⟨Sample.layeredRun, []⟩ Sample.layeredJob
      (.ok steps) = .ok (steps, scope) := ⟨_, rfl⟩
  obtain ⟨row, ⟨hran, hsteps, hscope, visits, workflowEnv, jobEnv, hturn, hlayers, hvisits, -⟩,
    -⟩ := first_layer_decides hrun hfound hready
  exact ⟨hrun, hfound, ⟨scope, hready, row, hran, hsteps, hscope, visits, workflowEnv, jobEnv,
    hturn, hlayers, hvisits⟩, by decide +kernel⟩

end Job

end Pipeline
