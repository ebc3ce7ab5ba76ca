import Pipeline.Proofs.Execution.Coverage
import Pipeline.Proofs.Session.Lanes

/-! The instances of a run follow the course of their work: a turn is one deed of it, and whoever
has come to its end shows the outline of its instance. -/

namespace Pipeline

namespace Job

variable {job : Job} {run : RunInfo} {hasHost : Bool} {i : Instance} {deeds : List Deed}
  {result : JobResult}

theorem runs_settle {held : Bool} {value : JobResult}
    (h : (job.settle held result).Runs deeds value) : value = result := by
  obtain _ | ⟨⟨⟩, h⟩ := h
  have hleave {deeds : List Deed} (h : (Job.leave held result).Runs deeds value) :
      value = result := by
    unfold leave at h
    split at h
    · obtain _ | ⟨⟨⟩, h⟩ := h
      exact (Work.Runs.done h).2
    · exact h.done.2
  split at h
  · obtain _ | ⟨⟨⟩, h⟩ := h
    exact hleave h
  · exact hleave h

theorem outline_of_startCheck {held : Bool}
    (h : (job.startCheck run hasHost i held).Runs deeds result)
    (hhonest : ∀ d ∈ deeds, d.Honest) : result.outline = job.outline i := by
  obtain _ | ⟨⟨⟩, _ | ⟨⟨⟩, h⟩⟩ := h
  obtain ⟨first, own, rest, rfl, hrun, hsettle⟩ := Work.Runs.bind h
  obtain rfl := runs_settle hsettle
  refine (goes hrun).outline_eq fun d hd => hhonest d ?_
  exact .tail _ (.tail _ (List.mem_append_left _ hd))

theorem outline_of_task (h : (job.task run hasHost i).Runs deeds result)
    (hhonest : ∀ d ∈ deeds, d.Honest) : result.outline = job.outline i := by
  by_cases hlimited : job.maxParallel.isSome = true
  · rw [task_of_limited _ _ _ _ hlimited] at h
    obtain _ | ⟨⟨⟩, _ | ⟨⟨⟩, h⟩⟩ := h
    exact outline_of_startCheck h fun d hd => hhonest d (.tail _ (.tail _ hd))
  · rw [task_of_unlimited _ _ _ _ hlimited] at h
    exact outline_of_startCheck h hhonest

end Job

/-- A look-up that is done in a turn has the answer of the turn. -/
def Deed.Takes (d : Deed) (answer : Answer) : Prop :=
  match d with
  | .lookedUp _ found => answer = .resolved found
  | _ => True

/-- The deed that work does next with an answer, if the answer fits. What a look sees is given. -/
def Work.deed? {α : Type} (cancelled : Bool) : Work α → Answer → Option Deed
  | _, .death => none
  | look _, .go => some (.looked cancelled)
  | queueUp _, .go => some .queued
  | awaitSlot _, .go => some (.waited true)
  | awaitSlot _, .noSlot => some (.waited false)
  | freeSlot _, .go => some .freed
  | move status _, .go => some (.moved status)
  | cancelSiblings _, .go => some .cancelledSiblings
  | report event _, .go => some (.reported event)
  | log level message _, .go => some (.logged level message)
  | resolve steps _, .resolved found => some (.lookedUp steps found)
  | start request _, .go => some (.started request)
  | await request _, .ran lines result => some (.ended request lines result)
  | invoke action inputs env _, .invoked answer => some (.invoked action inputs env answer)
  | _, _ => none

theorem Work.deed?_death {α : Type} (cancelled : Bool) (work : Work α) :
    work.deed? cancelled .death = none := by
  cases work <;> rfl

/-- The deed that an instance does next with an answer. Neither its end nor its death is one. -/
def Stage.deed? (cancelled : Bool) (answer : Answer) : Stage → Option Deed
  | .working work => work.deed? cancelled answer
  | .ended _ | .died => none

/-- What is seen of a deed of an instance. -/
def Deed.entries (run : RunId) (index : Nat) : Deed → List Entry
  | reported event => [.notice (.job run index event)]
  | logged level message => [.notice (.log (some run) level message)]
  | started request => [.started request]
  | _ => []

/-- A turn takes an instance one deed further, or to its end. -/
inductive Stage.Goes (answer : Answer) : Option Deed → Stage → Stage → Prop where
  | does {work work' : Work JobResult} {d : Deed} (does : work.Does d work')
      (takes : d.Takes answer) : Goes answer (some d) (.working work) (.working work')
  | finish {result : JobResult} : Goes answer none (.working (.done result)) (.ended result)
  | die {work : Work JobResult} (death : answer = .death) :
      Goes answer none (.working work) .died

namespace Lane

variable {lane lane' : Lane} {runId : RunId} {index : Nat} {t : Task} {answer : Answer}
  {entries : List Entry}

/-- The lane after a turn of an instance. -/
structure Turned (lane lane' : Lane) (runId : RunId) (index : Nat) (answer : Answer)
    (entries : List Entry) (t t' : Task) (before after : List Task) : Prop where
  found : lane.task? index = some t
  tasks : lane.tasks = before ++ t :: after
  tasks' : lane'.tasks = before ++ t' :: after
  job : lane'.job = lane.job
  item : t'.item = t.item
  stage : t.stage.Goes answer (t.stage.deed? lane.cancelled answer) t'.stage
  entries : entries =
    (t.stage.deed? lane.cancelled answer).toList.flatMap (Deed.entries runId index)

/-- A turn takes one instance on and leaves the others as they are. -/
theorem exists_turned (hd : lane.Distinct)
    (hm : lane.advance runId index answer = some (lane', entries)) :
    ∃ t t' before after, Turned lane lane' runId index answer entries t t' before after := by
  obtain ⟨t, ht⟩ := exists_task_of_advance hm
  obtain ⟨before, after, htasks, -, hset⟩ := setTask_eq_append hd ht
  cases hstage : t.stage with
  | ended | died => simp [advance, ht, hstage] at hm
  | working work =>
    have hturned (change : Task → Task) {d? : Option Deed}
        (hdeed : work.deed? lane.cancelled answer = d?)
        (hgoes : (Stage.working work).Goes answer d? (change t).stage)
        (htasks' : lane'.tasks = (lane.setTask index change).tasks)
        (hjob : lane'.job = lane.job) (hitem : (change t).item = t.item)
        (hentries : entries = d?.toList.flatMap (Deed.entries runId index)) :
        ∃ t t' before after, Turned lane lane' runId index answer entries t t' before after := by
      have hstage' : t.stage.deed? lane.cancelled answer = d? := hstage ▸ hdeed
      exact ⟨t, change t, before, after, ht, htasks, htasks'.trans (hset change), hjob, hitem,
        hstage' ▸ hstage ▸ hgoes, hstage' ▸ hentries⟩
    have hwork {work' : Work JobResult} {d : Deed} (hd : work.Does d work')
        (htakes : d.Takes answer) (hdeed : work.deed? lane.cancelled answer = some d)
        (htasks' : lane'.tasks = (lane.setWork index work').tasks) (hjob : lane'.job = lane.job)
        (hentries : entries = (some d).toList.flatMap (Deed.entries runId index)) :
        ∃ t t' before after, Turned lane lane' runId index answer entries t t' before after :=
      hturned (fun t => { t with stage := .working work' }) hdeed (.does hd htakes) htasks' hjob rfl
        hentries
    simp only [advance, ht, hstage] at hm
    split at hm
    · cases hm
      exact hturned (fun t => { t with stage := .died, holdsSlot := false })
        (work.deed?_death _) (.die rfl) rfl rfl rfl rfl
    · next result =>
      cases hm
      exact hturned (fun t => { t with stage := .ended result }) rfl .finish rfl rfl rfl rfl
    · cases hm
      exact hwork (.look _) trivial rfl rfl rfl rfl
    · cases hm
      exact hwork .queueUp trivial rfl rfl rfl rfl
    · next resume =>
      split at hm <;> cases hm
      exact hturned (fun t => { t with holdsSlot := true, stage := .working (resume true) })
        rfl (.does (.awaitSlot true) trivial) rfl rfl rfl rfl
    · split at hm <;> cases hm
      exact hwork (.awaitSlot false) trivial rfl rfl rfl rfl
    · next rest =>
      cases hm
      exact hturned (fun t => { t with holdsSlot := false, stage := .working rest })
        rfl (.does .freeSlot trivial) rfl rfl rfl rfl
    · next status rest =>
      cases hm
      exact hturned (fun t => { t with status := t.status.become status, stage := .working rest })
        rfl (.does .move trivial) rfl rfl rfl rfl
    · cases hm
      exact hwork .cancelSiblings trivial rfl rfl rfl rfl
    · cases hm
      exact hwork .report trivial rfl rfl rfl rfl
    · cases hm
      exact hwork .log trivial rfl rfl rfl rfl
    · cases hm
      exact hwork (.resolve _) rfl rfl rfl rfl rfl
    · cases hm
      exact hwork .start trivial rfl rfl rfl rfl
    · cases hm
      exact hwork (.await _ _) trivial rfl rfl rfl rfl
    · cases hm
      exact hwork (.invoke _) trivial rfl rfl rfl rfl
    · cases hm

end Lane

/-- An instance has come to where it is by deeds of its own, and no look-up was answered wrongly. -/
inductive Stage.Earned (job : Job) (info : RunInfo) (i : Instance) : Stage → Prop where
  | working {hasHost : Bool} {deeds : List Deed} {work : Work JobResult}
      (path : (job.task info hasHost i).Path deeds work) (honest : ∀ d ∈ deeds, d.Honest) :
      Earned job info i (.working work)
  | ended {hasHost : Bool} {deeds : List Deed} {result : JobResult}
      (runs : (job.task info hasHost i).Runs deeds result) (honest : ∀ d ∈ deeds, d.Honest) :
      Earned job info i (.ended result)

/-- The answer lets an instance go on, and says what looking up its actions comes to. -/
def Answer.Sincere (answer : Answer) (stage : Stage) : Prop :=
  answer ≠ .death ∧ ∀ steps resume found, stage = .working (.resolve steps resume) →
    answer = .resolved found → Resolver.Finds steps found

theorem Stage.Earned.goes {job : Job} {info : RunInfo} {i : Instance} {stage stage' : Stage}
    {answer : Answer} {d? : Option Deed} (h : stage.Earned job info i)
    (hgoes : stage.Goes answer d? stage')
    (hsincere : answer.Sincere stage) : stage'.Earned job info i := by
  cases hgoes with
  | @does _ _ d does takes =>
    obtain ⟨path, honest⟩ := h
    refine .working (path.concat does) (List.forall_mem_append.mpr ⟨honest, ?_⟩)
    rintro _ (_ | ⟨_, ⟨⟩⟩)
    cases does with
    | resolve found => exact hsincere.2 _ _ _ rfl takes
    | _ => trivial
  | finish =>
    obtain ⟨path, honest⟩ := h
    exact .ended path honest
  | die death => exact absurd death hsincere.1

end Pipeline
