import Pipeline.Action.Resolver

/-! What comes of looking up the actions that steps use: the steps themselves, in their order. -/

namespace Pipeline

namespace Resolver

variable {α β : Type} {memory memory' mid : Memory}

/-! ### One look-up after the other -/

namespace LookUp

/-- What a look-up comes to from a memory: its answer, and the memory after it. -/
def outcome (x : LookUp α) (memory : Memory) : Except Error α × Memory :=
  (x.run).run memory

theorem outcome_bind_ok {x : LookUp α} {next : α → LookUp β} {a : α}
    (h : x.outcome memory = (.ok a, mid)) : (x >>= next).outcome memory = (next a).outcome mid := by
  unfold outcome at h ⊢
  rw [ExceptT.run_bind, StateT.run_bind, h]
  rfl

theorem outcome_bind_error {x : LookUp α} {next : α → LookUp β} {e : Error}
    (h : x.outcome memory = (.error e, mid)) :
    (x >>= next).outcome memory = (.error e, mid) := by
  unfold outcome at h ⊢
  rw [ExceptT.run_bind, StateT.run_bind, h]
  rfl

theorem outcome_get_bind (next : Memory → LookUp α) (memory : Memory) :
    ((get : LookUp Memory) >>= next).outcome memory = (next memory).outcome memory :=
  outcome_bind_ok rfl

theorem outcome_tryCatch (x : LookUp α) (handle : Error → LookUp α) (memory : Memory) :
    (tryCatch x handle).outcome memory =
      match x.outcome memory with
      | (.error e, mid) => (handle e).outcome mid
      | (.ok a, mid) => (.ok a, mid) := by
  rcases h : x.outcome memory with ⟨e | a, mid⟩ <;> unfold outcome at h ⊢ <;>
    show (ExceptT.run (ExceptT.tryCatch x handle)).run memory = _ <;>
    simp only [ExceptT.run, ExceptT.tryCatch, ExceptT.mk] at h ⊢ <;>
    rw [StateT.run_bind, h] <;> rfl

/-- A look-up gives a value, and takes what is remembered along. -/
def Gives (x : LookUp α) (memory : Memory) (value : α) (memory' : Memory) : Prop :=
  (x.run).run memory = (.ok value, memory')

theorem Gives.bind {x : LookUp α} {next : α → LookUp β} {b : β}
    (h : (x >>= next).Gives memory b memory') :
    ∃ a mid, x.Gives memory a mid ∧ (next a).Gives mid b memory' := by
  change (x >>= next).outcome memory = _ at h
  rcases hx : x.outcome memory with ⟨e | a, mid⟩
  · cases (outcome_bind_error hx).symm.trans h
  · exact ⟨a, mid, hx, (outcome_bind_ok hx).symm.trans h⟩

end LookUp

/-! ### Steps -/

theorem resolveList_spec {resolve : ActionRef → LookUp ActionUnit} {steps : List Step}
    {resolved : List ResolvedStep}
    (h : (resolveList resolve steps).Gives memory resolved memory') :
    resolved.map (·.spec) = steps := by
  induction steps generalizing resolved memory with
  | nil =>
    cases h
    rfl
  | cons step rest ih =>
    rw [resolveList] at h
    have hrest {first : ResolvedStep} {mid : Memory} (hspec : first.spec = step)
        (h : (do let others ← resolveList resolve rest; pure (first :: others)).Gives mid resolved
          memory') : resolved.map (·.spec) = step :: rest := by
      obtain ⟨others, last, hothers, hend⟩ := h.bind
      cases hend
      rw [List.map_cons, hspec, ih hothers]
    split at h
    · obtain ⟨first, mid, hplain, htail⟩ := h.bind
      cases hplain
      exact hrest rfl htail
    · obtain ⟨action, mid, -, hused⟩ := h.bind
      obtain ⟨first, mid, huses, htail⟩ := hused.bind
      cases huses
      exact hrest rfl htail

/-- The steps of a manifest have been checked before they are compiled. -/
theorem compileSteps_ok {identifier : String} {manifest : Manifest} {specs : List Step}
    (h : compileSteps identifier manifest = .ok specs) :
    Document.checkSteps ("action '" ++ identifier ++ "'") manifest.runs.steps = .ok () ∧
      manifest.runs.steps.mapM (Document.Step.compile .none) = .ok specs := by
  simp only [compileSteps, bind, Except.bind] at h
  split at h
  · cases h
  · next compiled hcompiled =>
    cases h
    split at hcompiled
    · cases hcompiled
    · next hcheck => exact ⟨hcheck, hcompiled⟩

theorem loadDirectory_gives {tree : FileTree} {resolve : ActionRef → LookUp ActionUnit}
    {identifier directory : String} {action : ActionUnit}
    (h : (loadDirectory tree resolve identifier directory).Gives memory (some action) memory') :
    ∃ manifest info steps, Manifest.find tree directory = .ok manifest ∧
      manifest.isComposite = true ∧
      compileSteps identifier manifest = .ok (steps.map (·.spec)) ∧
      info.directory = directory ∧ action = .composite info steps := by
  unfold loadDirectory at h
  split at h
  · split at h <;> cases h
  · cases h
  · next manifest hfind =>
    split at h
    · cases h
    · next hcomposite =>
      obtain ⟨specs, mid, hspecs, hbody⟩ := h.bind
      obtain ⟨steps, last, hsteps, hend⟩ := hbody.bind
      cases hend
      refine ⟨manifest, _, steps, hfind, by simpa using hcomposite, ?_, rfl, rfl⟩
      rw [resolveList_spec hsteps]
      cases hcompiled : compileSteps identifier manifest with
      | error e =>
        rw [hcompiled] at hspecs
        cases hspecs
      | ok compiled =>
        rw [hcompiled] at hspecs
        cases hspecs
        rfl

/-- The action that a directory gives is the composite one that its manifest describes. -/
theorem loadDirectory_spec {tree : FileTree} {resolve : ActionRef → LookUp ActionUnit}
    {identifier directory : String} {action : ActionUnit}
    (h : (loadDirectory tree resolve identifier directory).Gives memory (some action) memory') :
    ∃ manifest info steps, Manifest.find tree directory = .ok manifest ∧
      manifest.isComposite = true ∧
      compileSteps identifier manifest = .ok (steps.map (·.spec)) ∧
      action = .composite info steps := by
  obtain ⟨manifest, info, steps, hfind, hcomposite, hspecs, -, haction⟩ := loadDirectory_gives h
  exact ⟨manifest, info, steps, hfind, hcomposite, hspecs, haction⟩

/-- The answer is what some look-up of the actions that the steps use comes to. -/
def Finds (steps : List Step) (found : Except Error (List ResolvedStep)) : Prop :=
  ∃ (resolver : Resolver) (tree : FileTree) (memory : Memory),
    (((resolver.resolveSteps tree steps).run).run memory).1 = found

/-- Looking up actions keeps the steps that use them. -/
theorem Finds.spec_eq {steps : List Step} {resolved : List ResolvedStep}
    (h : Finds steps (.ok resolved)) : resolved.map (·.spec) = steps := by
  obtain ⟨resolver, tree, memory, hfound⟩ := h
  exact resolveList_spec (Prod.ext hfound rfl)

end Resolver

end Pipeline
