import Mathlib.Data.List.Nodup
import Pipeline.Proofs.Action.Unfolding

/-! Looking up an action with nothing remembered: the walk goes through everything behind a
reference, and ends at the first mistake. Its answer follows from what the reference unfolds to and
from the number of levels that are left. -/

namespace Pipeline

/-- The error, with the name left out of a complaint about depth. -/
def Error.anonymous : Error → Error
  | .config (.tooDeep _ limit) => .config (.tooDeep "" limit)
  | e => e

namespace Resolver

variable {α β γ δ : Type}

/-- What is seen of an answer: a view of its value, or its error, where a complaint about depth
names no action. -/
def view (f : α → β) : Except Error α → Except Error β
  | .ok a => .ok (f a)
  | .error e => .error e.anonymous

theorem view_eq_ok_iff {f : α → β} {answer : Except Error α} {b : β} :
    view f answer = .ok b ↔ ∃ a, answer = .ok a ∧ f a = b := by
  cases answer <;> simp [view]

theorem view_eq_error_iff {f : α → β} {answer : Except Error α} {e : Error} :
    view f answer = .error e ↔ ∃ fault, answer = .error fault ∧ fault.anonymous = e := by
  cases answer <;> simp [view]

theorem exists_ok_iff_of_view_eq {f : α → γ} {g : β → γ} {first : Except Error α}
    {second : Except Error β} (h : view f first = view g second) :
    (∃ a, first = .ok a) ↔ ∃ b, second = .ok b := by
  cases first <;> cases second <;> simp_all [view]

theorem view_map {f : α → γ} {v : α → β} {w : γ → δ} {g : β → δ}
    (h : ∀ a, w (f a) = g (v a)) (answer : Except Error α) :
    view w (answer.map f) = (view v answer).map g := by
  cases answer with
  | error e => rfl
  | ok a => exact congrArg Except.ok (h a)

theorem view_mapM_cons (f : α → β) (h : γ → Except Error α) (c : γ) (rest : List γ) :
    view (List.map f) ((c :: rest).mapM h) =
      (view f (h c)).bind fun b => (view (List.map f) (rest.mapM h)).map (b :: ·) := by
  rw [List.mapM_cons]
  cases h c with
  | error e => rfl
  | ok a => cases rest.mapM h <;> rfl

/-- A step with the action that it uses, given how to look one up. -/
def attach (resolve : ActionRef → Except Error ActionUnit) (spec : Step) :
    Except Error ResolvedStep :=
  match spec.reference? with
  | none => .ok (.plain spec)
  | some reference => (resolve reference).map (.uses spec)

/-- The action that was read, given how to look up those inside of it. -/
def complete (resolve : ActionRef → Except Error ActionUnit) : Reading → Except Error ActionUnit
  | .external action => .ok (.external action)
  | .composite head specs => (specs.mapM (attach resolve)).map fun steps =>
    .composite ⟨head, 1 + ResolvedStep.heights steps⟩ steps

end Resolver

namespace Catalog

open Resolver

/-- Looks up an action inside the actions of `path`, with so many levels left and nothing
remembered. -/
def walk (catalog : Catalog) : Nat → List String → ActionRef → Except Error ActionUnit
  | 0, path, reference =>
    if path.contains (identifier reference) then
      .error (.action (.cyclic (path ++ [identifier reference])))
    else .error (.config (.tooDeep (identifier reference) catalog.resolver.maxDepth))
  | levels + 1, path, reference =>
    if path.contains (identifier reference) then
      .error (.action (.cyclic (path ++ [identifier reference])))
    else
      catalog.read reference >>=
        complete (catalog.walk levels (path ++ [identifier reference]))

variable {catalog : Catalog} {spots : Spots catalog.tree} {used : ActionRef → Prop}
  {reference inner : ActionRef} {action : ActionUnit} {levels : Nat} {path : List String}

theorem walk_of_mem (h : identifier reference ∈ path) : catalog.walk levels path reference =
    .error (.action (.cyclic (path ++ [identifier reference]))) := by
  cases levels <;> rw [walk, if_pos (by simpa using h)]

theorem walk_zero (h : identifier reference ∉ path) : catalog.walk 0 path reference =
    .error (.config (.tooDeep (identifier reference) catalog.resolver.maxDepth)) := by
  rw [walk, if_neg (by simpa using h)]

theorem walk_succ (h : identifier reference ∉ path) : catalog.walk (levels + 1) path reference =
    catalog.read reference >>= complete (catalog.walk levels (path ++ [identifier reference])) := by
  rw [walk, if_neg (by simpa using h)]

theorem walk_of_read {reading : Reading} (h : identifier reference ∉ path)
    (hread : catalog.read reference = .ok reading) : catalog.walk (levels + 1) path reference =
      complete (catalog.walk levels (path ++ [identifier reference])) reading := by
  rw [walk_succ h, hread]
  rfl

theorem walk_of_read_error {e : Error} (h : identifier reference ∉ path)
    (hread : catalog.read reference = .error e) :
    catalog.walk (levels + 1) path reference = .error e := by
  rw [walk_succ h, hread]
  rfl

/-! ### An action that unfolds -/

section Unfolding

variable {resolve : ActionRef → Except Error ActionUnit} {e : Error}

theorem view_attach {step : ResolvedStep}
    (hkind : step.action?.isSome = step.spec.reference?.isSome)
    (h : ∀ inner action, step.spec.reference? = some inner → step.action? = some action →
      view spots.unit (resolve inner) = if action.height ≤ levels then .ok action else .error e) :
    view spots.step (attach resolve step.spec) =
      if step.height ≤ levels then .ok step else .error e := by
  unfold attach
  cases hreference : step.spec.reference? with
  | none =>
    cases step with
    | plain spec => rfl
    | uses spec action => simp [ResolvedStep.action?, hreference] at hkind
  | some inner =>
    cases step with
    | plain spec => simp [ResolvedStep.action?, hreference] at hkind
    | uses spec action =>
      show view spots.step ((resolve inner).map (.uses spec)) = _
      rw [view_map (spots.step_uses spec), h inner action hreference rfl, ResolvedStep.height]
      split <;> rfl

theorem view_mapM_attach {steps : List ResolvedStep}
    (h : ∀ step ∈ steps, view spots.step (attach resolve step.spec) =
      if step.height ≤ levels then .ok step else .error e) :
    view (List.map spots.step) ((steps.map (·.spec)).mapM (attach resolve)) =
      if ResolvedStep.heights steps ≤ levels then .ok steps else .error e := by
  induction steps with
  | nil => rfl
  | cons step rest ih =>
    obtain ⟨hstep, hrest⟩ := List.forall_mem_cons.mp h
    rw [List.map_cons, view_mapM_cons, hstep, ih hrest, ResolvedStep.heights]
    by_cases hfirst : step.height ≤ levels
    · by_cases hothers : ResolvedStep.heights rest ≤ levels
      · rw [if_pos hfirst, if_pos hothers, if_pos (Nat.max_le.mpr ⟨hfirst, hothers⟩)]
        rfl
      · rw [if_pos hfirst, if_neg hothers, if_neg fun hle => hothers (Nat.max_le.mp hle).2]
        rfl
    · rw [if_neg hfirst, if_neg fun hle => hfirst (Nat.max_le.mp hle).1]
      rfl

end Unfolding

theorem walk_of_unfolds (h : catalog.Unfolds spots reference action)
    (coherent : catalog.Coherent spots used) (hused : used reference)
    (hpath : ∀ inner, Relation.ReflTransGen catalog.Uses reference inner →
      identifier inner ∉ path) :
    view spots.unit (catalog.walk levels path reference) =
      if action.height ≤ levels then .ok action
      else .error (.config (.tooDeep "" catalog.resolver.maxDepth)) := by
  -- On the levels. That nothing behind the reference is on the path carries over to the longer
  -- path: nothing comes to use itself.
  induction levels generalizing reference action path with
  | zero =>
    rw [walk_zero (hpath reference .refl), h.height_eq_nesting,
      if_neg (Nat.not_le.mpr action.nesting_pos)]
    rfl
  | succ levels ih =>
    have hunfolds := h
    cases h with
    | external hread =>
      rw [walk_of_read (hpath reference .refl) hread]
      rfl
    | @composite _ head steps hread kinds inside =>
      have hinner {inner : ActionRef} {below : ActionUnit}
          (huses : catalog.Uses reference inner) (hbelow : catalog.Unfolds spots inner below) :
          view spots.unit (catalog.walk levels (path ++ [identifier reference]) inner) =
            if below.height ≤ levels then .ok below
            else .error (.config (.tooDeep "" catalog.resolver.maxDepth)) := by
        refine ih hbelow (coherent.closed hused huses) fun deeper hreach hmem => ?_
        rcases List.mem_append.mp hmem with hmem | hmem
        · exact hpath deeper (.head huses hreach) hmem
        · exact hunfolds.not_cyclic coherent hused .refl (.head' huses hreach)
            (List.mem_singleton.mp hmem).symm
      have hsteps := view_mapM_attach fun step hstep => view_attach (kinds step hstep)
        fun inner below hreference hbelow => hinner
          ((uses_iff hread).mpr ⟨step.spec, List.mem_map_of_mem hstep, hreference⟩)
          (inside step hstep inner below hreference hbelow)
      rw [walk_of_read (hpath reference .refl) hread, complete,
        view_map (g := fun steps =>
          .composite ⟨spots.head head, 1 + ResolvedStep.heights steps⟩ steps)
          fun steps => by rw [spots.unit_composite, spots.heights_map], hsteps,
        ActionUnit.height_composite]
      by_cases hle : ResolvedStep.heights steps ≤ levels
      · rw [if_pos hle, if_pos (by omega)]
        rfl
      · rw [if_neg hle, if_neg (by omega)]
        rfl

/-! ### What the answer of a walk tells -/

section Answers

variable {resolve : ActionRef → Except Error ActionUnit} {e : Error}

theorem attach_ok {spec : Step} {step : ResolvedStep} (h : attach resolve spec = .ok step) :
    step.spec = spec ∧ step.action?.isSome = spec.reference?.isSome ∧
      ∀ inner action, spec.reference? = some inner → step.action? = some action →
        resolve inner = .ok action := by
  unfold attach at h
  split at h
  · next hreference =>
    cases h
    exact ⟨rfl, by rw [hreference]; rfl, fun _ _ _ haction => by cases haction⟩
  · next inner hreference =>
    cases hresolve : resolve inner with
    | error e =>
      rw [hresolve] at h
      cases h
    | ok action =>
      rw [hresolve] at h
      cases h
      refine ⟨rfl, by rw [hreference]; rfl, fun other found hother hfound => ?_⟩
      obtain rfl := Option.some.inj (hreference.symm.trans hother)
      obtain rfl := Option.some.inj hfound
      exact hresolve

theorem attach_error {spec : Step} (h : attach resolve spec = .error e) :
    ∃ inner, spec.reference? = some inner ∧ resolve inner = .error e := by
  unfold attach at h
  split at h
  · cases h
  · next inner hreference =>
    refine ⟨inner, hreference, ?_⟩
    cases hresolve : resolve inner with
    | error fault =>
      rw [hresolve] at h
      cases h
      rfl
    | ok action =>
      rw [hresolve] at h
      cases h

theorem complete_ok {reading : Reading} (h : complete resolve reading = .ok action) :
    (∃ own, reading = .external own ∧ action = .external own) ∨
      ∃ head steps, reading = .composite head (steps.map (·.spec)) ∧
        action = .composite ⟨head, 1 + ResolvedStep.heights steps⟩ steps ∧ ∀ step ∈ steps,
          step.action?.isSome = step.spec.reference?.isSome ∧
          ∀ inner below, step.spec.reference? = some inner → step.action? = some below →
            resolve inner = .ok below := by
  cases reading with
  | external own =>
    cases h
    exact .inl ⟨own, rfl, rfl⟩
  | composite head specs =>
    rw [complete] at h
    cases hsteps : specs.mapM (attach resolve) with
    | error e =>
      rw [hsteps] at h
      cases h
    | ok steps =>
      rw [hsteps] at h
      cases h
      have hpairs := Document.forall₂_of_mapM hsteps
      have hspecs : specs = steps.map (·.spec) := by
        refine List.ext_getElem (by simpa using hpairs.length_eq) fun place hplace hplace' => ?_
        rw [List.getElem_map]
        exact (attach_ok (hpairs.get hplace (by simpa using hplace'))).1.symm
      refine .inr ⟨head, steps, by rw [hspecs], rfl, fun step hstep => ?_⟩
      obtain ⟨spec, -, hspec⟩ := (Document.exists_of_forall₂ hpairs).2 step hstep
      obtain ⟨rfl, hkind, hinner⟩ := attach_ok hspec
      exact ⟨hkind, hinner⟩

theorem complete_error {reading : Reading} (h : complete resolve reading = .error e) :
    ∃ head specs, reading = .composite head specs ∧
      ∃ spec ∈ specs, ∃ inner, spec.reference? = some inner ∧ resolve inner = .error e := by
  cases reading with
  | external own => cases h
  | composite head specs =>
    rw [complete] at h
    cases hsteps : specs.mapM (attach resolve) with
    | ok steps =>
      rw [hsteps] at h
      cases h
    | error fault =>
      rw [hsteps] at h
      cases h
      obtain ⟨spec, hspec, hattach⟩ := Document.error_of_mapM hsteps
      exact ⟨head, specs, rfl, spec, hspec, attach_error hattach⟩

end Answers

theorem unfolds_of_walk (h : catalog.walk levels path reference = .ok action) :
    catalog.Unfolds spots reference (spots.unit action) ∧ action.height ≤ levels := by
  induction levels generalizing reference action path with
  | zero =>
    by_cases hmem : identifier reference ∈ path
    · rw [walk_of_mem hmem] at h
      cases h
    · rw [walk_zero hmem] at h
      cases h
  | succ levels ih =>
    by_cases hmem : identifier reference ∈ path
    · rw [walk_of_mem hmem] at h
      cases h
    · cases hread : catalog.read reference with
      | error e =>
        rw [walk_of_read_error hmem hread] at h
        cases h
      | ok reading =>
        rw [walk_of_read hmem hread] at h
        obtain ⟨own, rfl, rfl⟩ | ⟨head, steps, rfl, rfl, hsteps⟩ := complete_ok h
        · exact ⟨.external hread, Nat.le_add_left 1 levels⟩
        · constructor
          · rw [Spots.unit_composite, ← spots.heights_map]
            refine .composite (by simpa [List.map_map, Function.comp_def] using hread) ?_ ?_
            · intro step hstep
              obtain ⟨found, hfound, rfl⟩ := List.mem_map.mp hstep
              simpa using (hsteps found hfound).1
            · intro step hstep inner below hreference hbelow
              obtain ⟨found, hfound, rfl⟩ := List.mem_map.mp hstep
              rw [Spots.step_spec] at hreference
              rw [Spots.step_action?] at hbelow
              obtain ⟨own, hown, rfl⟩ := Option.map_eq_some_iff.mp hbelow
              exact (ih ((hsteps found hfound).2 inner own hreference hown)).1
          · -- Each of their actions is one that the walk has found with one level less left.
            rw [ActionUnit.height_composite, Nat.add_comm]
            refine Nat.succ_le_succ (ResolvedStep.heights_le fun step hstep below hbelow => ?_)
            obtain ⟨hkind, hinner⟩ := hsteps step hstep
            rw [hbelow] at hkind
            obtain ⟨inner, hreference⟩ := Option.isSome_iff_exists.mp hkind.symm
            exact (ih (hinner inner below hreference hbelow)).2

theorem compileSteps_error {identifier : String} {manifest : Manifest} {e : Error}
    (h : compileSteps identifier manifest = .error e) : ∃ fault, e = .config (.workflow fault) := by
  unfold compileSteps at h
  dsimp only at h
  split at h
  · next fault _ =>
    cases h
    exact ⟨fault, rfl⟩
  · cases h

theorem read_error {e : Error} (h : catalog.read reference = .error e) :
    (∀ chain, e ≠ .action (.cyclic chain)) ∧ (∀ name limit, e ≠ .config (.tooDeep name limit)) ∧
      ∀ job fault, e ≠ .config (.unresolved job fault) := by
  have hspecs := @compileSteps_error
  unfold read composite? compositeIn simple at h
  grind

/-- A walk fails at the end of a chain of uses: at an action that is being looked up already, or
where no level is left, or at one that cannot be read. -/
theorem walk_error {e : Error} (hpath : path.Nodup)
    (h : catalog.walk levels path reference = .error e) :
    ∃ before last, ChainFrom catalog.Uses reference (before ++ [last]) ∧
      (path ++ before.map identifier).Nodup ∧
      ((identifier last ∈ path ++ before.map identifier ∧
        e = .action (.cyclic (path ++ before.map identifier ++ [identifier last]))) ∨
      (before.length = levels ∧
        e = .config (.tooDeep (identifier last) catalog.resolver.maxDepth)) ∨
      catalog.read last = .error e) := by
  induction levels generalizing reference path with
  | zero =>
    refine ⟨[], reference, .single _, by simpa using hpath, ?_⟩
    by_cases hmem : identifier reference ∈ path
    · rw [walk_of_mem hmem] at h
      cases h
      exact .inl ⟨by simpa using hmem, by simp⟩
    · rw [walk_zero hmem] at h
      cases h
      exact .inr (.inl ⟨rfl, rfl⟩)
  | succ levels ih =>
    by_cases hmem : identifier reference ∈ path
    · rw [walk_of_mem hmem] at h
      cases h
      exact ⟨[], reference, .single _, by simpa using hpath, .inl ⟨by simpa using hmem, by simp⟩⟩
    · cases hread : catalog.read reference with
      | error fault =>
        rw [walk_of_read_error hmem hread] at h
        cases h
        exact ⟨[], reference, .single _, by simpa using hpath, .inr (.inr hread)⟩
      | ok reading =>
        rw [walk_of_read hmem hread] at h
        obtain ⟨head, specs, rfl, spec, hspec, inner, hreference, hinner⟩ := complete_error h
        have hlonger : (path ++ [identifier reference]).Nodup :=
          List.Nodup.append hpath (List.nodup_singleton _) (List.disjoint_singleton.mpr hmem)
        obtain ⟨before, last, hchain, hnodup, hend⟩ := ih hlonger hinner
        have hnames : path ++ [identifier reference] ++ before.map identifier =
            path ++ (reference :: before).map identifier := by simp
        rw [hnames] at hnodup hend
        have huses : catalog.Uses reference inner :=
          (uses_iff hread).mpr ⟨spec, hspec, hreference⟩
        refine ⟨reference :: before, last, .cons huses hchain, hnodup, ?_⟩
        exact hend.imp_right (.imp_left fun ⟨hlength, he⟩ =>
          ⟨by rw [List.length_cons, hlength], he⟩)

end Catalog

end Pipeline
