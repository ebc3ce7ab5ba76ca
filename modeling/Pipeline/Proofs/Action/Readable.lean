import Pipeline.Proofs.Action.Lookup
import Pipeline.Proofs.Execution.Rows
import Pipeline.Proofs.Workflow.Loaded

/-! The steps inside of actions have been checked like those of jobs: wherever a step stands, its
condition can be read. -/

namespace Pipeline

/-- The conditions of a step and of those inside of it, at every depth, can be read. -/
inductive ResolvedStep.Readable : ResolvedStep → Prop where
  | intro {step : ResolvedStep} (own : Expression.IsReadable step.spec.condition)
      (inner : ∀ s ∈ step.inside, s.Readable) : Readable step

/-- The conditions of the steps of an action can be read. -/
def ActionUnit.Readable : ActionUnit → Prop
  | composite _ steps => ∀ s ∈ steps, s.Readable
  | external _ => True

theorem ActionUnit.Readable.uses {spec : Step} {action : ActionUnit} (h : action.Readable)
    (hspec : Expression.IsReadable spec.condition) :
    (ResolvedStep.uses spec action).Readable := by
  refine .intro hspec fun s hs => ?_
  cases action with
  | composite info steps => exact h s hs
  | external action => cases hs

namespace Resolver

variable {α β : Type} {P : α → Prop} {Q : β → Prop}

/-- The actions that are remembered are readable. -/
def Memory.Readable (memory : Memory) : Prop :=
  ∀ name action, memory.units.get? name = some action → action.Readable

theorem Memory.Readable.insert {memory : Memory} (h : memory.Readable) (name : String)
    {action : ActionUnit} (haction : action.Readable) :
    Memory.Readable { memory with units := memory.units.insert name action } := by
  intro other found hfound
  rw [Dict.get?_insert] at hfound
  split at hfound
  · cases hfound
    exact haction
  · exact h other found hfound

/-- A look-up remembers readable actions only, and what it gives satisfies `P`. -/
structure LookUp.Keeps (P : α → Prop) (x : LookUp α) : Prop where
  after (memory : Memory) (h : memory.Readable) :
    ((x.run).run memory).2.Readable ∧ ∀ a, ((x.run).run memory).1 = .ok a → P a

namespace LookUp

theorem Keeps.pure {a : α} (h : P a) : Keeps P (Pure.pure a : LookUp α) :=
  ⟨fun _ hmemory => ⟨hmemory, fun _ ha => by cases ha; exact h⟩⟩

theorem Keeps.throw (e : Error) : Keeps P (throw e : LookUp α) :=
  ⟨fun _ hmemory => ⟨hmemory, fun _ ha => by cases ha⟩⟩

theorem Keeps.bind {x : LookUp α} {next : α → LookUp β} (h : Keeps P x)
    (hnext : ∀ a, P a → Keeps Q (next a)) : Keeps Q (x >>= next) := by
  refine ⟨fun memory hmemory => ?_⟩
  obtain ⟨hmid, hvalue⟩ := h.after memory hmemory
  rw [ExceptT.run_bind]
  simp only [StateT.run_bind]
  rcases hx : (x.run).run memory with ⟨_ | a, mid⟩ <;> rw [hx] at hmid hvalue
  · exact ⟨hmid, fun _ hb => by cases hb⟩
  · exact (hnext a (hvalue a rfl)).after mid hmid

theorem keeps_get : Keeps Memory.Readable (get : LookUp Memory) :=
  ⟨fun _ hmemory => ⟨hmemory, fun _ ha => by cases ha; exact hmemory⟩⟩

theorem keeps_set {memory : Memory} (h : memory.Readable) :
    Keeps (fun _ => True) (set memory : LookUp PUnit) :=
  ⟨fun _ _ => ⟨h, fun _ _ => trivial⟩⟩

theorem keeps_modify {change : Memory → Memory}
    (h : ∀ memory, memory.Readable → (change memory).Readable) :
    Keeps (fun _ => True) (modify change : LookUp PUnit) :=
  ⟨fun memory hmemory => ⟨h memory hmemory, fun _ _ => trivial⟩⟩

end LookUp

open LookUp (Keeps)

theorem keeps_resolveList {resolve : ActionRef → LookUp ActionUnit} {steps : List Step}
    (hresolve : ∀ reference, Keeps ActionUnit.Readable (resolve reference))
    (hsteps : ∀ step ∈ steps, Expression.IsReadable step.condition) :
    Keeps (fun resolved => ∀ s ∈ resolved, s.Readable) (resolveList resolve steps) := by
  induction steps with
  | nil => exact .pure fun _ hs => by cases hs
  | cons step rest ih =>
    obtain ⟨hstep, hrest⟩ := List.forall_mem_cons.mp hsteps
    have htail {first : ResolvedStep} (hfirst : first.Readable) :
        Keeps (fun resolved => ∀ s ∈ resolved, s.Readable)
          (do let others ← resolveList resolve rest; pure (first :: others)) :=
      (ih hrest).bind fun _ hothers => .pure (List.forall_mem_cons.mpr ⟨hfirst, hothers⟩)
    rw [resolveList]
    split
    · exact htail (.intro hstep fun _ hs => by cases hs)
    · exact (hresolve _).bind fun action haction => htail (haction.uses hstep)

theorem isReadable_of_compileSteps {identifier : String} {manifest : Manifest} {steps : List Step}
    (h : compileSteps identifier manifest = .ok steps) :
    ∀ step ∈ steps, Expression.IsReadable step.condition :=
  have ⟨hcheck, hcompiled⟩ := compileSteps_ok h
  Document.isReadable_of_compile hcheck hcompiled

theorem keeps_loadDirectory (tree : FileTree) {resolve : ActionRef → LookUp ActionUnit}
    (hresolve : ∀ reference, Keeps ActionUnit.Readable (resolve reference))
    (identifier directory : String) :
    Keeps (fun loaded => ∀ action, loaded = some action → action.Readable)
      (loadDirectory tree resolve identifier directory) := by
  unfold loadDirectory
  split
  · split
    · exact .throw _
    · exact .pure nofun
  · exact .throw _
  · next manifest _ =>
    split
    · exact .pure nofun
    · cases hspecs : compileSteps identifier manifest with
      | error e => exact .throw e
      | ok specs =>
        have hlist := keeps_resolveList hresolve (isReadable_of_compileSteps hspecs)
        refine (Keeps.pure (P := (· = specs)) rfl).bind fun _ hspec => ?_
        rw [hspec]
        refine hlist.bind fun steps hsteps => .pure fun action haction => ?_
        cases haction
        exact hsteps

theorem keeps_fetch (tree : FileTree) (reference : ActionRef) (key : String) :
    Keeps (fun _ => True) (fetch tree reference key) := by
  refine LookUp.keeps_get.bind fun memory hmemory => ?_
  split
  · refine (LookUp.keeps_set ?_).bind fun _ _ => .pure trivial
    exact hmemory
  · refine (LookUp.keeps_set ?_).bind fun _ _ => .throw _
    exact hmemory

theorem keeps_resolveNew (resolver : Resolver) (tree : FileTree)
    {resolve : ActionRef → LookUp ActionUnit}
    (hresolve : ∀ reference, Keeps ActionUnit.Readable (resolve reference))
    (identifier : String) (reference : ActionRef) :
    Keeps ActionUnit.Readable (resolver.resolveNew tree resolve identifier reference) := by
  unfold resolveNew
  split
  · refine (keeps_loadDirectory tree hresolve identifier _).bind fun loaded hloaded => ?_
    split
    · next action => exact .pure (hloaded action rfl)
    · exact .throw _
  · refine (keeps_fetch tree _ _).bind fun directory _ => ?_
    dsimp only
    split
    · refine (keeps_loadDirectory tree hresolve identifier _).bind fun loaded hloaded => .pure ?_
      cases loaded with
      | none => exact trivial
      | some action => exact hloaded action rfl
    · refine Keeps.bind (P := (· = none)) (.pure rfl) fun loaded hloaded => .pure ?_
      rw [hloaded]
      exact trivial

theorem keeps_checkDepth (resolver : Resolver) (identifier : String) (depth : Nat) :
    Keeps (fun _ => True) (resolver.checkDepth identifier depth) := by
  unfold checkDepth
  split
  · exact .throw _
  · exact .pure trivial

/-- Whether it is known or not, an action that is looked up is readable. -/
theorem keeps_resolveAt (resolver : Resolver) (tree : FileTree) (levels : Nat)
    (path : List String) (reference : ActionRef) :
    Keeps ActionUnit.Readable (resolver.resolveAt tree levels path reference) := by
  induction levels using Nat.strongRecOn generalizing path reference with
  | ind levels ih =>
    rw [resolveAt.eq_def]
    dsimp only
    split
    · exact (Keeps.throw (P := fun _ => False) _).bind fun _ h => h.elim
    · refine LookUp.keeps_get.bind fun memory hmemory => ?_
      split
      · next action haction =>
        exact (keeps_checkDepth ..).bind fun _ _ => .pure (hmemory _ _ haction)
      · split
        · exact .throw _
        · next levels =>
          have hnew := keeps_resolveNew resolver tree
            (ih levels (Nat.lt_succ_self levels) (path ++ [identifier reference]))
            (identifier reference) reference
          refine hnew.bind fun action haction => ?_
          refine (LookUp.keeps_modify fun memory hmemory => ?_).bind fun _ _ => .pure haction
          exact hmemory.insert _ haction

/-- The actions of steps that can be read are readable as well. -/
theorem keeps_resolveSteps (resolver : Resolver) (tree : FileTree) {steps : List Step}
    (hsteps : ∀ step ∈ steps, Expression.IsReadable step.condition) :
    Keeps (fun resolved => ∀ s ∈ resolved, s.Readable) (resolver.resolveSteps tree steps) :=
  keeps_resolveList (keeps_resolveAt resolver tree resolver.maxDepth []) hsteps

end Resolver

end Pipeline
