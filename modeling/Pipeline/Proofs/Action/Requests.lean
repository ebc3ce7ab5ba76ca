import Pipeline.Proofs.Action.Recall

/-! Requests to one resolver, one after the other. Whatever was asked before, every answer is the
one that a new resolver with a new cache would give. -/

namespace Pipeline

open Resolver (LookUp Memory attach identifier view)

/-- What a resolver is asked for. -/
inductive Request where
  | resolve (reference : ActionRef)
  | steps (specs : List Step)
  | preflight (workflow : Workflow)

/-- What a resolver answers if nothing is wrong. -/
inductive Reply where
  | action (action : ActionUnit)
  | steps (steps : List ResolvedStep)
  | accepted

def Request.references : Request → List ActionRef
  | resolve reference => [reference]
  | steps specs => specs.filterMap (·.reference?)
  | preflight workflow => workflow.jobs.flatMap fun job => job.steps.filterMap (·.reference?)

/-- An answer, with directories told by their spots. -/
def Spots.reply {tree : FileTree} (spots : Spots tree) : Reply → Reply
  | .action action => .action (spots.unit action)
  | .steps steps => .steps (steps.map spots.step)
  | .accepted => .accepted

theorem Spots.spelled_reply {tree : FileTree} (reply : Reply) :
    (spelled tree).reply reply = reply := by
  cases reply with
  | action action => rw [Spots.reply, spelled_unit]
  | steps steps => rw [Spots.reply, ← steps_eq_map, spelled_steps]
  | accepted => rfl

namespace Catalog

variable (catalog : Catalog)

def serve : Request → LookUp Reply
  | .resolve reference => do
    let action ← catalog.resolver.resolve catalog.tree reference
    pure (.action action)
  | .steps specs => do
    let steps ← catalog.resolver.resolveSteps catalog.tree specs
    pure (.steps steps)
  | .preflight workflow => do
    catalog.resolver.preflight catalog.tree workflow
    pure .accepted

/-- The answers to requests that are served one after the other, and the memory after them. -/
def serveAll (memory : Memory) : List Request → List (Except Error Reply) × Memory
  | [] => ([], memory)
  | request :: rest =>
    let (answer, memory) := (catalog.serve request).outcome memory
    let (answers, memory) := serveAll memory rest
    (answer :: answers, memory)

variable {catalog} {spots : Spots catalog.tree} {used : ActionRef → Prop} {reference : ActionRef}

/-! ### What the walk answers -/

/-- Looks up an action with nothing remembered. -/
def answer (catalog : Catalog) (reference : ActionRef) : Except Error ActionUnit :=
  catalog.walk catalog.resolver.maxDepth [] reference

/-- The error as it is reported before a run. -/
def reported (job : Job) : Error → Error
  | .action fault => .config (.unresolved job.id fault)
  | e => e

/-- Looks up the actions of jobs with nothing remembered. -/
def permit (catalog : Catalog) : List Job → Except Error Unit
  | [] => .ok ()
  | job :: rest =>
    match job.steps.mapM (attach catalog.answer) with
    | .error e => .error (reported job e)
    | .ok _ => catalog.permit rest

/-- What a request is answered with nothing remembered. -/
def reply (catalog : Catalog) : Request → Except Error Reply
  | .resolve reference => (catalog.answer reference).map .action
  | .steps specs => (specs.mapM (attach catalog.answer)).map .steps
  | .preflight workflow => (catalog.permit workflow.jobs).map fun _ => .accepted

theorem agrees_resolve (coherent : catalog.Coherent spots used) (hused : used reference) :
    catalog.Agrees spots used spots.unit (catalog.resolver.resolve catalog.tree reference)
      (view spots.unit (catalog.answer reference)) :=
  agrees_resolveAt coherent hused rfl nofun

theorem agrees_resolveSteps (coherent : catalog.Coherent spots used) {specs : List Step}
    (hused : ∀ reference ∈ specs.filterMap (·.reference?), used reference) :
    catalog.Agrees spots used (List.map spots.step)
      (catalog.resolver.resolveSteps catalog.tree specs)
      (view (List.map spots.step) (specs.mapM (attach catalog.answer))) :=
  agrees_resolveList fun spec hspec _ hreference =>
    agrees_resolve coherent (hused _ (List.mem_filterMap.mpr ⟨spec, hspec, hreference⟩))

theorem anonymous_reported (job : Job) (e : Error) :
    (reported job e).anonymous = reported job e.anonymous := by
  cases e with
  | config cause => cases cause <;> rfl
  | _ => rfl

theorem outcome_preflightJobs (resolver : Resolver) (tree : FileTree) (job : Job) (rest : List Job)
    (memory : Memory) :
    (resolver.preflightJobs tree (job :: rest)).outcome memory =
      match (resolver.resolveSteps tree job.steps).outcome memory with
      | (.error e, mid) => (.error (reported job e), mid)
      | (.ok _, mid) => (resolver.preflightJobs tree rest).outcome mid := by
  rw [Resolver.preflightJobs]
  rcases hanswer : (resolver.resolveSteps tree job.steps).outcome memory with ⟨e | steps, mid⟩
  · refine LookUp.outcome_bind_error ?_
    rw [LookUp.outcome_tryCatch, LookUp.outcome_bind_error hanswer]
    cases e <;> rfl
  · refine LookUp.outcome_bind_ok (a := ()) ?_
    rw [LookUp.outcome_tryCatch, LookUp.outcome_bind_ok hanswer]
    rfl

theorem agrees_preflightJobs (coherent : catalog.Coherent spots used) {jobs : List Job}
    (hused : ∀ reference ∈ jobs.flatMap fun job => job.steps.filterMap (·.reference?),
      used reference) :
    catalog.Agrees spots used id (catalog.resolver.preflightJobs catalog.tree jobs)
      (view id (catalog.permit jobs)) := by
  induction jobs with
  | nil => exact .pure ()
  | cons job rest ih =>
    rw [List.flatMap_cons, List.forall_mem_append] at hused
    intro memory right
    obtain ⟨hview, hright⟩ := agrees_resolveSteps coherent hused.1 memory right
    rw [outcome_preflightJobs, permit]
    rcases hanswer : (catalog.resolver.resolveSteps catalog.tree job.steps).outcome memory with
      ⟨e | steps, mid⟩
    · rw [hanswer] at hview hright
      obtain ⟨fault, hfault, hanonymous⟩ := Resolver.view_eq_error_iff.mp hview.symm
      rw [hfault]
      refine ⟨?_, hright⟩
      -- What is reported of an error depends on no name that a complaint about depth leaves out.
      show Except.error (reported job e).anonymous = .error (reported job fault).anonymous
      rw [anonymous_reported, anonymous_reported, hanonymous]
    · rw [hanswer] at hview hright
      obtain ⟨found, hfound, -⟩ := Resolver.view_eq_ok_iff.mp hview.symm
      rw [hfound]
      exact ih hused.2 mid hright

/-- A request is answered as if nothing had been asked before. -/
theorem agrees_serve (coherent : catalog.Coherent spots used) {request : Request}
    (hused : ∀ reference ∈ request.references, used reference) :
    catalog.Agrees spots used spots.reply (catalog.serve request)
      (view spots.reply (catalog.reply request)) := by
  cases request with
  | resolve reference =>
    have haction (action : ActionUnit) :
        spots.reply (.action action) = .action (spots.unit action) := rfl
    rw [reply, Resolver.view_map haction]
    exact (agrees_resolve coherent (hused reference (.head _))).bind fun action _ =>
      .pure (Reply.action action)
  | steps specs =>
    have hsteps (steps : List ResolvedStep) :
        spots.reply (.steps steps) = .steps (steps.map spots.step) := rfl
    rw [reply, Resolver.view_map hsteps]
    exact (agrees_resolveSteps coherent hused).bind fun steps _ => .pure (Reply.steps steps)
  | preflight workflow =>
    rw [reply, Resolver.view_map (v := id) (g := fun _ => Reply.accepted) fun _ => rfl]
    exact (agrees_preflightJobs coherent hused).bind fun _ _ => .pure Reply.accepted

theorem accepted_iff (coherent : catalog.Coherent spots used) {workflow : Workflow}
    (hused : ∀ reference ∈ (Request.preflight workflow).references, used reference)
    {memory : Memory} (right : catalog.Right spots used memory) :
    ((catalog.serve (.preflight workflow)).outcome memory).1 = .ok .accepted ↔
      catalog.permit workflow.jobs = .ok () := by
  have hview := (agrees_serve coherent hused memory right).1
  rw [reply] at hview
  cases hpermit : catalog.permit workflow.jobs with
  | error e =>
    rw [hpermit] at hview
    obtain ⟨fault, hfault, -⟩ := Resolver.view_eq_error_iff.mp hview
    simp [hfault]
  | ok =>
    rw [hpermit] at hview
    obtain ⟨found, hfound, hreply⟩ := Resolver.view_eq_ok_iff.mp hview
    cases found with
    | accepted => simp [hfound]
    | _ => cases hreply

/-- Requests that are served one after the other are answered one by one. -/
theorem serveAll_spec (coherent : catalog.Coherent spots used) {requests : List Request}
    (hused : ∀ request ∈ requests, ∀ reference ∈ request.references, used reference)
    {memory : Memory} (right : catalog.Right spots used memory) :
    (catalog.serveAll memory requests).1.map (view spots.reply) =
        requests.map (fun request => view spots.reply (catalog.reply request)) ∧
      catalog.Right spots used (catalog.serveAll memory requests).2 := by
  induction requests generalizing memory with
  | nil => exact ⟨rfl, right⟩
  | cons request rest ih =>
    obtain ⟨hrequest, hrest⟩ := List.forall_mem_cons.mp hused
    obtain ⟨hview, hright⟩ := agrees_serve coherent hrequest memory right
    obtain ⟨hviews, hright⟩ := ih hrest hright
    exact ⟨by rw [serveAll, List.map_cons, List.map_cons, hview, hviews], hright⟩

theorem permit_eq_ok_iff (jobs : List Job) :
    catalog.permit jobs = .ok () ↔
      ∀ job ∈ jobs, ∃ steps, job.steps.mapM (attach catalog.answer) = .ok steps := by
  induction jobs with
  | nil => exact ⟨fun _ => nofun, fun _ => rfl⟩
  | cons job rest ih =>
    rw [permit, List.forall_mem_cons, ← ih]
    cases job.steps.mapM (attach catalog.answer) <;> simp

theorem answers_alike (coherent : catalog.Coherent spots used) {requests : List Request}
    (hused : ∀ request ∈ requests, ∀ reference ∈ request.references, used reference) :
    (catalog.serveAll catalog.fresh requests).1.map (view spots.reply) =
      requests.map fun request =>
        view spots.reply ((catalog.serve request).outcome catalog.fresh).1 := by
  rw [(serveAll_spec coherent hused right_fresh).1]
  refine List.map_congr_left fun request hrequest => ?_
  exact (agrees_serve coherent (hused request hrequest) _ right_fresh).1.symm

/-- Where references with the same identifier spell their directory in the same way, what is found
is the same to the letter. -/
theorem answers_same (coherent : catalog.Coherent (.spelled _) used) {requests : List Request}
    (hused : ∀ request ∈ requests, ∀ reference ∈ request.references, used reference) :
    (catalog.serveAll catalog.fresh requests).1.map (view id) =
      requests.map fun request => view id ((catalog.serve request).outcome catalog.fresh).1 := by
  have hreply : (Spots.spelled catalog.tree).reply = id := funext Spots.spelled_reply
  rw [← hreply]
  exact answers_alike coherent hused

/-- Whatever was asked of a resolver before, it answers as a new one with a new cache would: with
the same actions, or the same error. It accepts a workflow before a run exactly if a new one finds
the actions of each of its jobs. -/
theorem caches_invisible (coherent : catalog.Coherent spots used) (requests : List Request)
    (hused : ∀ request ∈ requests, ∀ reference ∈ request.references, used reference) :
    (catalog.serveAll catalog.fresh requests).1.map (view spots.reply) =
        requests.map (fun request =>
          view spots.reply ((catalog.serve request).outcome catalog.fresh).1) ∧
      ∀ workflow, (∀ reference ∈ (Request.preflight workflow).references, used reference) →
        ((((catalog.serve (.preflight workflow)).outcome
            (catalog.serveAll catalog.fresh requests).2).1 = .ok .accepted) ↔
          ∀ job ∈ workflow.jobs, ∃ steps,
            ((catalog.resolver.resolveSteps catalog.tree job.steps).outcome catalog.fresh).1 =
              .ok steps) := by
  refine ⟨answers_alike coherent hused, fun workflow hworkflow => ?_⟩
  have hright := (serveAll_spec coherent hused right_fresh).2
  rw [accepted_iff coherent hworkflow hright, permit_eq_ok_iff]
  refine forall₂_congr fun job hjob => ?_
  have hcold := (agrees_resolveSteps coherent (fun reference hreference =>
    hworkflow reference (List.mem_flatMap.mpr ⟨job, hjob, hreference⟩)) _ right_fresh).1
  exact (Resolver.exists_ok_iff_of_view_eq hcold).symm

/-! ### A workspace with two actions -/

/-- The manifest of a composite action with one step. -/
def Sample.manifest (step : String) : ByteArray :=
  ("runs:\n  using: composite\n  steps:\n    - " ++ step ++ "\n").toUTF8

/-- Two composite actions in a workspace. The first one uses the second one. -/
def sample : Catalog where
  resolver := ⟨"/w", 2⟩
  tree := (FileTree.empty.write ["w", "a", "action.yml"] (Sample.manifest "uses: ./b")).write
    ["w", "b", "action.yml"] (Sample.manifest "run: 'true'")
  fetched := "/cache"

/-- What the steps of a manifest say that they use, if there is a manifest behind the reference. -/
def written? (catalog : Catalog) (reference : ActionRef) : Option (List (Option String)) := do
  let directory ← catalog.directory? reference
  let manifest ← (Manifest.find catalog.tree directory).toOption
  pure (manifest.runs.steps.map (·.uses))

theorem Uses.written {inner : ActionRef} (h : catalog.Uses reference inner) :
    ∃ text, some text ∈ (catalog.written? reference).getD [] ∧
      ActionRef.parse text = .ok inner := by
  obtain ⟨directory, manifest, hdirectory, hfind, -, step, hstep, text, htext, hparse⟩ := h
  have hwritten : catalog.written? reference = some (manifest.runs.steps.map (·.uses)) := by
    rw [written?, hdirectory]
    show (Manifest.find catalog.tree directory).toOption.bind _ = _
    rw [hfind]
    rfl
  exact ⟨text, by rw [hwritten]; exact htext ▸ List.mem_map_of_mem hstep, hparse⟩

/-- The references to the two actions. The first one has two of them, which spell its directory
differently. -/
def Sample.references : List ActionRef :=
  [.workspace "./a", .workspace "././a", .workspace "./b"]

theorem coherent_sample : sample.Coherent (.placed _) (· ∈ Sample.references) where
  parsed {reference} h := by
    have hparse : ∀ reference ∈ Sample.references,
        ActionRef.parse reference.render = .ok reference := by decide +kernel
    exact ⟨reference.render, hparse reference h⟩
  closed {reference inner} h huses := by
    have hwritten : ∀ reference ∈ Sample.references,
        sample.written? reference = some [some "./b"] ∨
          sample.written? reference = some [none] := by decide +kernel
    obtain ⟨text, htext, hparse⟩ := huses.written
    obtain hmanifest | hmanifest := hwritten reference h
    · obtain rfl : text = "./b" := by simpa [hmanifest] using htext
      have hread : ActionRef.parse "./b" = .ok (.workspace "./b") := by decide +kernel
      obtain rfl := Except.ok.inj (hparse.symm.trans hread)
      decide
    · simp [hmanifest] at htext
  same h hother heq := by
    have hplace : ∀ reference ∈ Sample.references, ∀ other ∈ Sample.references,
        identifier reference = identifier other →
          (sample.directory? reference).map sample.tree.place? =
            (sample.directory? other).map sample.tree.place? := by decide +kernel
    exact FileTree.spelling_map_eq (hplace _ h _ hother heq)

/-- The inner action is asked for first, so that it is remembered when the outer one is, and the
outer one under both of its references. -/
def Sample.requests : List Request :=
  [.resolve (.workspace "./b"), .resolve (.workspace "././a"), .resolve (.workspace "./a")]

def Sample.workflow : Workflow :=
  ⟨"w", [], none, [], [⟨"j", "j", [], .empty, true, none, [.of "s" (.action (.workspace "./a"))]⟩]⟩

theorem caches_invisible_sample :
    (sample.serveAll sample.fresh Sample.requests).1.map (view (Spots.placed sample.tree).reply) =
        Sample.requests.map (fun request => view (Spots.placed sample.tree).reply
          ((sample.serve request).outcome sample.fresh).1) ∧
      ((((sample.serve (.preflight Sample.workflow)).outcome
          (sample.serveAll sample.fresh Sample.requests).2).1 = .ok .accepted) ↔
        ∀ job ∈ Sample.workflow.jobs, ∃ steps,
          ((sample.resolver.resolveSteps sample.tree job.steps).outcome sample.fresh).1 =
            .ok steps) := by
  have hall := caches_invisible coherent_sample Sample.requests
    (by decide)
  refine ⟨hall.1, hall.2 Sample.workflow fun reference hreference => ?_⟩
  simp_all [Request.references, Sample.workflow, Sample.references, Step.of, Step.reference?]

end Catalog

end Pipeline
