import Pipeline.Proofs.Action.Lookup
import Pipeline.Proofs.Execution.Rows

/-! The result of an instance shows which one it is, and has a result for every step of its job,
however the instance has ended. -/

namespace Pipeline

/-- The answer to a look-up of actions is what looking them up comes to. -/
def Deed.Honest : Deed → Prop
  | lookedUp steps found => Resolver.Finds steps found
  | _ => True

/-- What a report says of an instance before anything has happened: which one it is, and the names
and identifiers of its steps. -/
structure Outline where
  jobId : String
  name : String
  index : Nat
  matrix : Assignment
  steps : List (String × Option String)

/-- The outline of an instance of a job. -/
def Job.outline (job : Job) (i : Instance) : Outline :=
  ⟨job.id, i.displayName job.name, i.index, i.matrix, job.steps.map fun s => (s.name, s.id)⟩

/-- The outline that a result shows. -/
def JobResult.outline (result : JobResult) : Outline :=
  ⟨result.jobId, result.name, result.index, result.matrix,
    result.steps.map fun r => (r.name, r.id)⟩

/-- The results of a row bear the names and the identifiers of its steps. -/
theorem Setting.Ran.names_eq {setting : Setting} {row : Row} (h : setting.Ran row) :
    row.results.map (fun r => (r.name, r.id)) =
      row.steps.map fun s => (s.spec.name, s.spec.id) := by
  refine h.induct (P := fun row => row.results.map (fun r => (r.name, r.id)) =
    row.steps.map fun s => (s.spec.name, s.spec.id)) (fun _ _ => rfl) ?_
  intro _ _ _ _ _ _ _ _ _ _ hstep hrest
  obtain ⟨hname, hid, -⟩ := hstep.settled
  rw [List.map_cons, List.map_cons, hrest, hname, hid]

namespace Job

variable {job : Job} {run : RunInfo} {hasHost : Bool} {i : Instance} {deeds : List Deed}
  {result : JobResult}

/-- However an instance ends, its result shows the outline of the instance. -/
theorem Goes.outline_eq (h : Goes job run hasHost i deeds result)
    (hhonest : ∀ d ∈ deeds, d.Honest) : result.outline = job.outline i := by
  have hresult (status : JobStatus) (error : Option String) {results : List StepResult}
      (hnames : results.map (fun r => (r.name, r.id)) = job.steps.map fun s => (s.name, s.id)) :
      (job.resultOf i status results error).outline = job.outline i :=
    congrArg (Outline.mk _ _ _ _) hnames
  cases h with
  | cancelled | unstarted => exact hresult _ _ List.map_map
  | @finished _ steps _ _ _ _ ready ran =>
    refine hresult _ _ (ran.names_eq.trans ?_)
    have hfinds : Resolver.Finds job.steps _ := hhonest _ (.tail _ (.tail _ (.head _)))
    rw [(InstanceInfo.of_prepare ready).1] at hfinds
    rw [← hfinds.spec_eq, List.map_map]
    rfl

end Job

end Pipeline
