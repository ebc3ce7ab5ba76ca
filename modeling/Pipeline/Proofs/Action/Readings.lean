import Mathlib.Logic.Relation
import Pipeline.Proofs.Action.Lookup
import Pipeline.Proofs.Action.Places
import Pipeline.Proofs.Action.References
import Pipeline.Proofs.Workflow.Loaded

/-! Looking up an action in two parts: what stands behind its reference, which the files decide
alone, and the actions inside of it. -/

namespace Pipeline

/-! ### Actions up to the spelling of directories -/

namespace Spots

variable {tree : FileTree} (spots : Spots tree)

def head (head : CompositeHead) : CompositeHead :=
  { head with directory := spots.spot head.directory }

def external (action : ExternalAction) : ExternalAction :=
  { action with directory := action.directory.map spots.spot }

mutual

/-- An action, with its directory and those of the actions inside of it told by their spots. -/
def unit : ActionUnit → ActionUnit
  | .composite info inner => .composite ⟨spots.head info.toCompositeHead, info.height⟩ (steps inner)
  | .external action => .external (spots.external action)

def step : ResolvedStep → ResolvedStep
  | .plain spec => .plain spec
  | .uses spec action => .uses spec (unit action)

def steps : List ResolvedStep → List ResolvedStep
  | [] => []
  | first :: rest => step first :: steps rest

end

@[simp] theorem steps_eq_map (steps : List ResolvedStep) :
    spots.steps steps = steps.map spots.step := by
  induction steps with
  | nil => rfl
  | cons step rest ih => rw [Spots.steps, ih, List.map_cons]

@[simp] theorem unit_composite (head : CompositeHead) (height : Nat) (steps : List ResolvedStep) :
    spots.unit (.composite ⟨head, height⟩ steps) =
      .composite ⟨spots.head head, height⟩ (steps.map spots.step) := by
  rw [unit, steps_eq_map]

@[simp] theorem step_uses (spec : Step) (action : ActionUnit) :
    spots.step (.uses spec action) = .uses spec (spots.unit action) := rfl

@[simp] theorem step_spec (step : ResolvedStep) : (spots.step step).spec = step.spec := by
  cases step <;> rfl

@[simp] theorem step_action? (step : ResolvedStep) :
    (spots.step step).action? = step.action?.map spots.unit := by
  cases step <;> rfl

@[simp] theorem unit_height (action : ActionUnit) : (spots.unit action).height = action.height := by
  cases action <;> rfl

@[simp] theorem step_height (step : ResolvedStep) : (spots.step step).height = step.height := by
  cases step with
  | plain spec => rfl
  | uses spec action => exact spots.unit_height action

@[simp] theorem heights_map (steps : List ResolvedStep) :
    ResolvedStep.heights (steps.map spots.step) = ResolvedStep.heights steps := by
  induction steps with
  | nil => rfl
  | cons step rest ih =>
    rw [List.map_cons, ResolvedStep.heights, ResolvedStep.heights, step_height, ih]

mutual

/-- Where directories are told apart by how they are spelled, all of an action is seen. -/
theorem spelled_unit (action : ActionUnit) : (spelled tree).unit action = action := by
  match action with
  | .composite info inner =>
    rw [unit, spelled_steps]
    rfl
  | .external action =>
    have hdirectory : action.directory.map (spelled tree).spot = action.directory := Option.map_id'
    rw [unit, external, hdirectory]

theorem spelled_step (step : ResolvedStep) : (spelled tree).step step = step := by
  match step with
  | .plain spec => rfl
  | .uses spec action => rw [step_uses, spelled_unit]

theorem spelled_steps (steps : List ResolvedStep) : (spelled tree).steps steps = steps := by
  match steps with
  | [] => rfl
  | step :: rest => rw [Spots.steps, spelled_step, spelled_steps]

end

end Spots

/-! ### What stands behind a reference -/

/-- What stands behind a reference, before the actions inside of it are looked up. -/
inductive Reading where
  | external (action : ExternalAction)
  | composite (head : CompositeHead) (specs : List Step)

def Spots.reading {tree : FileTree} (spots : Spots tree) : Reading → Reading
  | .external action => .external (spots.external action)
  | .composite head specs => .composite (spots.head head) specs

/-- Where actions are looked up. -/
structure Catalog where
  resolver : Resolver
  tree : FileTree
  /-- The directory of the actions that were fetched before. -/
  fetched : String

namespace Catalog

open Resolver (identifier)

def headOf (identifier directory : String) (manifest : Manifest) : CompositeHead :=
  ⟨identifier, manifest.name.getD identifier, directory, manifest.inputs, manifest.inputDefaults,
    manifest.outputTemplates⟩

/-- The composite action in a directory and its steps; another kind of action is none. -/
def compositeIn (tree : FileTree) (identifier directory : String) :
    Except Error (Option (CompositeHead × List Step)) :=
  match Manifest.find tree directory with
  | .error (.notFound place) =>
    if identifier.startsWith "./" then .error (.action (.missing identifier place)) else .ok none
  | .error e => .error (.config (.manifest identifier e))
  | .ok manifest =>
    if !manifest.isComposite then .ok none
    else
      match Resolver.compileSteps identifier manifest with
      | .error e => .error e
      | .ok specs => .ok (some (headOf identifier directory manifest, specs))

variable (catalog : Catalog)

/-- The directory of a repository, if it was fetched before. -/
def repository? (owner repo version : String) : Option String :=
  let repository := (ActionCache.of catalog.fetched).repositoryPath owner repo version
  if catalog.tree.isDirectory repository then some repository else none

/-- The directory of an action; an external one has none unless it was fetched before. -/
def directory? : ActionRef → Option String
  | .workspace path => some (Path.join catalog.resolver.workspace (Resolver.localPath path))
  | .external owner repo path version =>
    (catalog.repository? owner repo version).map (ActionCache.subdirectory · path)

/-- The composite action behind a reference and its steps; another kind of action is none. -/
def composite? (reference : ActionRef) : Except Error (Option (CompositeHead × List Step)) :=
  match catalog.directory? reference with
  | none => .ok none
  | some directory => compositeIn catalog.tree (identifier reference) directory

/-- An action that is not composite. -/
def simple (reference : ActionRef) : Except Error Reading :=
  match reference with
  | .workspace _ => .error (.config (.notComposite (identifier reference)))
  | .external .. =>
    let directory := catalog.directory? reference
    .ok (.external ⟨identifier reference, reference,
      reference.fetchKey?.getD (identifier reference), directory,
      directory.bind (Resolver.kindIn catalog.tree)⟩)

def read (reference : ActionRef) : Except Error Reading :=
  match catalog.composite? reference with
  | .error e => .error e
  | .ok none => catalog.simple reference
  | .ok (some (head, specs)) => .ok (.composite head specs)

/-- The manifest of the first action, a composite one, uses the second one. -/
def Uses (reference inner : ActionRef) : Prop :=
  ∃ directory manifest, catalog.directory? reference = some directory ∧
    Manifest.find catalog.tree directory = .ok manifest ∧ manifest.isComposite = true ∧
    ∃ step ∈ manifest.runs.steps, step.Mentions inner

variable {catalog} {reference inner : ActionRef} {head : CompositeHead} {specs : List Step}

theorem compositeIn_ok {tree : FileTree} {identifier directory : String}
    (h : compositeIn tree identifier directory = .ok (some (head, specs))) :
    ∃ manifest, Manifest.find tree directory = .ok manifest ∧ manifest.isComposite = true ∧
      Resolver.compileSteps identifier manifest = .ok specs ∧
      head = headOf identifier directory manifest := by
  unfold compositeIn at h
  split at h
  · split at h <;> cases h
  · cases h
  · next manifest hfind =>
    split at h
    · cases h
    · next hcomposite =>
      split at h
      · cases h
      · next specs hspecs =>
        cases h
        exact ⟨manifest, hfind, by simpa using hcomposite, hspecs, rfl⟩

theorem simple_ne_composite : catalog.simple reference ≠ .ok (.composite head specs) := by
  cases reference <;> nofun

theorem composite?_of_read (h : catalog.read reference = .ok (.composite head specs)) :
    catalog.composite? reference = .ok (some (head, specs)) := by
  unfold read at h
  split at h
  · cases h
  · exact absurd h simple_ne_composite
  · next hcomposite =>
    cases h
    exact hcomposite

theorem composite?_of_read_external {action : ExternalAction}
    (h : catalog.read reference = .ok (.external action)) :
    catalog.composite? reference = .ok none := by
  unfold read at h
  split at h
  · cases h
  · assumption
  · cases h

/-- A composite action has the steps of its manifest, each of them checked and compiled. -/
theorem manifest_of_composite? (h : catalog.composite? reference = .ok (some (head, specs))) :
    ∃ directory manifest, catalog.directory? reference = some directory ∧
      Manifest.find catalog.tree directory = .ok manifest ∧ manifest.isComposite = true ∧
      head = headOf (identifier reference) directory manifest ∧
      (∀ step ∈ manifest.runs.steps, step.checkBody = .ok ()) ∧
      List.Forall₂ (fun step spec => Document.Step.compile .none step = .ok spec)
        manifest.runs.steps specs := by
  unfold composite? at h
  split at h
  · cases h
  · next directory hdirectory =>
    obtain ⟨manifest, hfind, hkind, hspecs, hhead⟩ := compositeIn_ok h
    obtain ⟨hcheck, hmap⟩ := Resolver.compileSteps_ok hspecs
    exact ⟨directory, manifest, hdirectory, hfind, hkind, hhead,
      fun step hstep => (Document.checked_of_checkSteps hcheck step hstep).1,
      Document.forall₂_of_mapM hmap⟩

/-- The actions that a composite action uses are those of its steps. -/
theorem uses_iff (h : catalog.read reference = .ok (.composite head specs)) :
    catalog.Uses reference inner ↔ ∃ spec ∈ specs, spec.reference? = some inner := by
  obtain ⟨directory, manifest, hdirectory, hfind, hkind, -, hbody, hsteps⟩ :=
    manifest_of_composite? (composite?_of_read h)
  constructor
  · rintro ⟨directory', manifest', hdirectory', hfind', -, step, hstep, hmentions⟩
    obtain rfl := Option.some.inj (hdirectory.symm.trans hdirectory')
    obtain rfl := Except.ok.inj (hfind.symm.trans hfind')
    obtain ⟨spec, hspec, hcompile⟩ := (Document.exists_of_forall₂ hsteps).1 step hstep
    exact ⟨spec, hspec, (Document.reference?_eq_some_iff (hbody step hstep) hcompile).mpr hmentions⟩
  · rintro ⟨spec, hspec, hreference⟩
    obtain ⟨step, hstep, hcompile⟩ := (Document.exists_of_forall₂ hsteps).2 spec hspec
    exact ⟨directory, manifest, hdirectory, hfind, hkind, step, hstep,
      (Document.reference?_eq_some_iff (hbody step hstep) hcompile).mp hreference⟩

/-- An action without steps of its own has no composite manifest. -/
theorem not_composite_of_external {action : ExternalAction}
    (h : catalog.read reference = .ok (.external action)) {directory : String} {manifest : Manifest}
    (hdirectory : catalog.directory? reference = some directory)
    (hfind : Manifest.find catalog.tree directory = .ok manifest) :
    manifest.isComposite = false := by
  have hnone := composite?_of_read_external h
  by_contra hkind
  cases hspecs : Resolver.compileSteps (identifier reference) manifest <;>
    simp [composite?, hdirectory, compositeIn, hfind, hkind, hspecs] at hnone

theorem not_uses_of_external {action : ExternalAction}
    (h : catalog.read reference = .ok (.external action)) : ¬ catalog.Uses reference inner := by
  rintro ⟨directory, manifest, hdirectory, hfind, hkind, -⟩
  rw [not_composite_of_external h hdirectory hfind] at hkind
  cases hkind

theorem identifier_of_read_external {action : ExternalAction}
    (h : catalog.read reference = .ok (.external action)) :
    action.identifier = identifier reference := by
  rw [read, composite?_of_read_external h] at h
  cases reference <;> cases h
  rfl

/-! ### One action under several references -/

/-- The references in use can be told apart by their identifiers: where two have the same one, they
name the same directory. -/
structure Coherent (catalog : Catalog) (spots : Spots catalog.tree) (used : ActionRef → Prop) :
    Prop where
  parsed {reference : ActionRef} (h : used reference) :
    ∃ text, ActionRef.parse text = .ok reference
  closed {reference inner : ActionRef} (h : used reference) (huses : catalog.Uses reference inner) :
    used inner
  same {reference other : ActionRef} (h : used reference) (hother : used other)
    (heq : identifier reference = identifier other) :
    (catalog.directory? reference).map spots.spot = (catalog.directory? other).map spots.spot

theorem compositeIn_of_spot_eq {tree : FileTree} {spots : Spots tree}
    {identifier directory directory' : String} (h : spots.spot directory = spots.spot directory')
    (hfound : compositeIn tree identifier directory = .ok (some (head, specs))) :
    ∃ head', compositeIn tree identifier directory' = .ok (some (head', specs)) ∧
      spots.head head' = spots.head head := by
  obtain ⟨manifest, hfind, hkind, hspecs, rfl⟩ := compositeIn_ok hfound
  have hfind' : Manifest.find tree directory' = .ok manifest := by
    rw [spots.find_eq h, hfind]
    rfl
  refine ⟨headOf identifier directory' manifest, ?_, ?_⟩
  · simp [compositeIn, hfind', hkind, hspecs]
  · simp [Spots.head, headOf, h]

variable {spots : Spots catalog.tree} {used : ActionRef → Prop}

namespace Coherent

theorem read_eq (coherent : catalog.Coherent spots used) {other : ActionRef} {reading : Reading}
    (h : used reference) (hother : used other) (heq : identifier reference = identifier other)
    (hread : catalog.read reference = .ok reading) :
    ∃ found, catalog.read other = .ok found ∧ spots.reading found = spots.reading reading := by
  obtain ⟨text, hparse⟩ := coherent.parsed h
  obtain ⟨text', hparse'⟩ := coherent.parsed hother
  have hsound := ActionRef.sound_of_parse hparse
  have hsound' := ActionRef.sound_of_parse hparse'
  -- An external action is read off its identifier. A local one is found at the same spot again,
  -- and its identifier is that of no external action.
  cases reference with
  | external owner repo path version =>
    cases other with
    | external owner' repo' path' version' =>
      rw [← ActionRef.eq_of_render hsound hsound' heq]
      exact ⟨reading, hread, rfl⟩
    | workspace place => exact absurd heq.symm (Resolver.identifier_workspace_ne hsound)
  | workspace place =>
    cases other with
    | external owner' repo' path' version' =>
      exact absurd heq (Resolver.identifier_workspace_ne hsound')
    | workspace place' =>
      cases reading with
      | external action =>
        have hnone := composite?_of_read_external hread
        unfold read at hread
        rw [hnone] at hread
        cases hread
      | composite head specs =>
        have hspot := Option.some.inj (coherent.same h hother heq)
        obtain ⟨head', hfound, hhead⟩ :=
          compositeIn_of_spot_eq hspot (composite?_of_read hread)
        rw [heq] at hfound
        have hother : catalog.composite? (.workspace place') = .ok (some (head', specs)) := hfound
        exact ⟨.composite head' specs, by rw [read, hother], by rw [Spots.reading, hhead]; rfl⟩

theorem used_of_reach (coherent : catalog.Coherent spots used) (h : used reference)
    (hreach : Relation.ReflTransGen catalog.Uses reference inner) : used inner := by
  induction hreach with
  | refl => exact h
  | tail _ huses ih => exact coherent.closed ih huses

end Coherent

end Catalog

end Pipeline
