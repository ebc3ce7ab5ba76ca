import Mathlib.Order.Bounds.Basic
import Pipeline.Proofs.Action.Readings

/-! What a reference unfolds to if nothing limits the depth: the tree of the actions that the files
put behind it. An action on a cycle unfolds to nothing. The others record how deep the actions
inside of them are nested, and that goes down along every use. -/

namespace Pipeline

/-! ### Chains of nested actions -/

/-- The list starts at a point, and leads from each element to the next one. -/
inductive ChainFrom {α : Type} (R : α → α → Prop) : α → List α → Prop where
  | single (a : α) : ChainFrom R a [a]
  | cons {a b : α} {rest : List α} (step : R a b) (tail : ChainFrom R b rest) :
    ChainFrom R a (a :: rest)

/-- The second action is that of a step of the first one. -/
def ActionUnit.Nests : ActionUnit → ActionUnit → Prop
  | .composite _ steps, inner => ∃ step ∈ steps, step.action? = some inner
  | .external _, _ => False

mutual

/-- How deep the actions inside of an action are nested, itself counted in. -/
def ActionUnit.nesting : ActionUnit → Nat
  | .composite _ steps => 1 + ResolvedStep.nestings steps
  | .external _ => 1

def ResolvedStep.nesting : ResolvedStep → Nat
  | .plain _ => 0
  | .uses _ action => action.nesting

def ResolvedStep.nestings : List ResolvedStep → Nat
  | [] => 0
  | step :: rest => max step.nesting (ResolvedStep.nestings rest)

end

namespace Spots

variable {tree : FileTree} (spots : Spots tree)

mutual

@[simp] theorem unit_nesting (action : ActionUnit) :
    (spots.unit action).nesting = action.nesting := by
  match action with
  | .composite info steps => rw [unit, ActionUnit.nesting, ActionUnit.nesting, steps_nestings]
  | .external action => rfl

theorem step_nesting (step : ResolvedStep) : (spots.step step).nesting = step.nesting := by
  match step with
  | .plain spec => rfl
  | .uses spec action => exact unit_nesting action

theorem steps_nestings (steps : List ResolvedStep) :
    ResolvedStep.nestings (spots.steps steps) = ResolvedStep.nestings steps := by
  match steps with
  | [] => rfl
  | step :: rest =>
    rw [Spots.steps, ResolvedStep.nestings, ResolvedStep.nestings, step_nesting, steps_nestings]

end

end Spots

theorem ActionUnit.nesting_pos (action : ActionUnit) : 0 < action.nesting := by
  cases action with
  | composite info steps => rw [nesting]; omega
  | external action => exact Nat.one_pos

theorem ResolvedStep.nesting_of_action? {step : ResolvedStep} {action : ActionUnit}
    (h : step.action? = some action) : step.nesting = action.nesting := by
  cases step with
  | plain spec => cases h
  | uses spec own => cases h; rfl

theorem ResolvedStep.nesting_le_nestings {step : ResolvedStep} {steps : List ResolvedStep}
    (h : step ∈ steps) : step.nesting ≤ nestings steps := by
  induction h with
  | head rest => exact Nat.le_max_left ..
  | tail first _ ih => exact ih.trans (Nat.le_max_right ..)

theorem ResolvedStep.eq_of_spec_of_action? {step other : ResolvedStep}
    (hspec : step.spec = other.spec) (haction : step.action? = other.action?) : step = other := by
  cases step <;> cases other <;> simp_all [spec, action?]

/-- Steps are nested as deep as the action of one of them, unless none uses an action. -/
theorem ResolvedStep.nestings_attained (steps : List ResolvedStep) :
    nestings steps = 0 ∨ ∃ step ∈ steps, ∃ action, step.action? = some action ∧
      action.nesting = nestings steps := by
  induction steps with
  | nil => exact .inl rfl
  | cons first rest ih =>
    rw [nestings]
    rcases Nat.le_total (nestings rest) first.nesting with hle | hle
    · rw [Nat.max_eq_left hle]
      cases first with
      | plain spec => exact .inl rfl
      | uses spec action => exact .inr ⟨_, .head _, action, rfl, rfl⟩
    · rw [Nat.max_eq_right hle]
      exact ih.imp_right fun ⟨step, hstep, hnesting⟩ => ⟨step, .tail _ hstep, hnesting⟩

/-- Where each step has the height of what it uses, so do all of them together. -/
theorem ResolvedStep.heights_eq_nestings {steps : List ResolvedStep}
    (h : ∀ step ∈ steps, ∀ action, step.action? = some action → action.height = action.nesting) :
    heights steps = nestings steps := by
  induction steps with
  | nil => rfl
  | cons step rest ih =>
    obtain ⟨hstep, hrest⟩ := List.forall_mem_cons.mp h
    rw [heights, nestings, ih hrest]
    cases step with
    | plain spec => rfl
    | uses spec action => rw [height, nesting, hstep action rfl]

theorem ResolvedStep.heights_le {steps : List ResolvedStep} {levels : Nat}
    (h : ∀ step ∈ steps, ∀ action, step.action? = some action → action.height ≤ levels) :
    heights steps ≤ levels := by
  induction steps with
  | nil => exact Nat.zero_le _
  | cons step rest ih =>
    obtain ⟨hstep, hrest⟩ := List.forall_mem_cons.mp h
    refine Nat.max_le.mpr ⟨?_, ih hrest⟩
    cases step with
    | plain spec => exact Nat.zero_le _
    | uses spec action => exact hstep action rfl

namespace ActionUnit

variable {action inner : ActionUnit}

theorem Nests.nesting_lt (h : action.Nests inner) : inner.nesting < action.nesting := by
  cases action with
  | external action => exact h.elim
  | composite info steps =>
    obtain ⟨step, hstep, hinner⟩ := h
    have hle := ResolvedStep.nesting_le_nestings hstep
    rw [ResolvedStep.nesting_of_action? hinner] at hle
    rw [nesting]
    omega

/-- An action of more than one level has one inside of it with one level less. -/
theorem exists_nests (h : 1 < action.nesting) :
    ∃ inner, action.Nests inner ∧ action.nesting = inner.nesting + 1 := by
  cases action with
  | external action => exact absurd h (lt_irrefl 1)
  | composite info steps =>
    rw [nesting] at h ⊢
    obtain hzero | ⟨step, hstep, inner, hinner, hnesting⟩ := ResolvedStep.nestings_attained steps
    · omega
    · exact ⟨inner, ⟨step, hstep, hinner⟩, by omega⟩

theorem length_le_nesting {chain : List ActionUnit} (h : ChainFrom Nests action chain) :
    chain.length ≤ action.nesting := by
  induction h with
  | single action => exact action.nesting_pos
  | cons hnests _ ih =>
    rw [List.length_cons]
    exact Nat.lt_of_le_of_lt ih hnests.nesting_lt

theorem exists_chain_of_nesting (levels : Nat) (h : action.nesting = levels + 1) :
    ∃ chain, ChainFrom Nests action chain ∧ chain.length = levels + 1 := by
  induction levels generalizing action with
  | zero => exact ⟨[action], .single action, rfl⟩
  | succ levels ih =>
    obtain ⟨inner, hnests, hnesting⟩ := exists_nests (by omega : 1 < action.nesting)
    obtain ⟨chain, hchain, hlength⟩ := ih (by omega : inner.nesting = levels + 1)
    exact ⟨action :: chain, .cons hnests hchain, by rw [List.length_cons, hlength]⟩

/-- An action is nested as deep as its longest chain of actions. -/
theorem nesting_isGreatest (action : ActionUnit) :
    IsGreatest {length | ∃ chain, ChainFrom Nests action chain ∧ chain.length = length}
      action.nesting := by
  obtain ⟨levels, hnesting⟩ := Nat.exists_eq_succ_of_ne_zero action.nesting_pos.ne'
  refine ⟨?_, ?_⟩
  · rw [hnesting]
    exact exists_chain_of_nesting levels hnesting
  · rintro _ ⟨chain, hchain, rfl⟩
    exact length_le_nesting hchain

end ActionUnit

/-! ### Unfolding -/

namespace Catalog

open Resolver (identifier)

variable {catalog : Catalog} {spots : Spots catalog.tree} {used : ActionRef → Prop}
  {reference inner other : ActionRef} {action action' : ActionUnit}

/-- The action is what the files put behind a reference: its steps are those of the manifest, in
order, and the steps that use an action have the one that their references unfold to. The height
that it records is one more than the greatest one of those. Directories are told by their spots. -/
inductive Unfolds (catalog : Catalog) (spots : Spots catalog.tree) :
    ActionRef → ActionUnit → Prop where
  | external {reference : ActionRef} {action : ExternalAction}
    (read : catalog.read reference = .ok (.external action)) :
    Unfolds catalog spots reference (.external (spots.external action))
  | composite {reference : ActionRef} {head : CompositeHead} {steps : List ResolvedStep}
    (read : catalog.read reference = .ok (.composite head (steps.map (·.spec))))
    (kinds : ∀ step ∈ steps, step.action?.isSome = step.spec.reference?.isSome)
    (inside : ∀ step ∈ steps, ∀ inner action, step.spec.reference? = some inner →
      step.action? = some action → Unfolds catalog spots inner action) :
    Unfolds catalog spots reference
      (.composite ⟨spots.head head, 1 + ResolvedStep.heights steps⟩ steps)

namespace Unfolds

theorem transfer (h : catalog.Unfolds spots reference action)
    (coherent : catalog.Coherent spots used) (hused : used reference) (hother : used other)
    (heq : identifier reference = identifier other) : catalog.Unfolds spots other action := by
  cases h with
  | external hread =>
    obtain ⟨found, hfound, hview⟩ := coherent.read_eq hused hother heq hread
    cases found with
    | composite head specs => cases hview
    | external found =>
      rw [← Reading.external.inj hview]
      exact .external hfound
  | composite hread kinds inside =>
    obtain ⟨found, hfound, hview⟩ := coherent.read_eq hused hother heq hread
    cases found with
    | external found => cases hview
    | composite head specs =>
      obtain ⟨hhead, rfl⟩ := Reading.composite.inj hview
      rw [← hhead]
      exact .composite hfound kinds inside

theorem det (h : catalog.Unfolds spots reference action)
    (h' : catalog.Unfolds spots reference action') : action = action' := by
  induction h generalizing action' with
  | external hread =>
    cases h' with
    | external hread' =>
      cases hread.symm.trans hread'
      rfl
    | composite hread' => cases hread.symm.trans hread'
  | @composite reference head steps hread kinds inside ih =>
    cases h' with
    | external hread' => cases hread.symm.trans hread'
    | @composite _ _ steps' hread' kinds' inside' =>
      obtain ⟨rfl, hspecs⟩ := Reading.composite.inj (Except.ok.inj (hread.symm.trans hread'))
      -- Place by place both have the step of the manifest, and with it the same kind of step.
      suffices hsteps : steps = steps' by rw [hsteps]
      refine (List.ext_getElem (by simpa using congrArg List.length hspecs) ?_)
      intro place hplace hplace'
      have hspec : steps[place].spec = steps'[place].spec := by
        simpa [hplace, hplace'] using congrArg (·[place]?) hspecs
      have hkind := kinds _ (List.getElem_mem hplace)
      have hkind' := kinds' _ (List.getElem_mem hplace')
      refine ResolvedStep.eq_of_spec_of_action? hspec ?_
      cases hreference : steps[place].spec.reference? with
      | none =>
        rw [hreference] at hkind
        rw [← hspec, hreference] at hkind'
        have hnone : steps[place].action? = none := by simpa using hkind
        have hnone' : steps'[place].action? = none := by simpa using hkind'
        rw [hnone, hnone']
      | some inner =>
        rw [hreference] at hkind
        rw [← hspec, hreference] at hkind'
        obtain ⟨action, haction⟩ := Option.isSome_iff_exists.mp hkind
        obtain ⟨action', haction'⟩ := Option.isSome_iff_exists.mp hkind'
        rw [haction, haction', ih _ (List.getElem_mem hplace) inner action hreference haction
          (inside' _ (List.getElem_mem hplace') inner action' (hspec ▸ hreference) haction')]

/-- The height that is recorded is that of the tree. -/
theorem height_eq_nesting (h : catalog.Unfolds spots reference action) :
    action.height = action.nesting := by
  induction h with
  | external => rfl
  | @composite reference head steps hread kinds inside ih =>
    rw [ActionUnit.height_composite, ActionUnit.nesting, ResolvedStep.heights_eq_nestings]
    intro step hstep action haction
    have hkind := kinds step hstep
    rw [haction] at hkind
    obtain ⟨inner, hinner⟩ := Option.isSome_iff_exists.mp hkind.symm
    exact ih step hstep inner action hinner haction

/-- Every action that is used unfolds as well, to an action of fewer levels. -/
theorem of_uses (h : catalog.Unfolds spots reference action)
    (huses : catalog.Uses reference inner) :
    ∃ below, catalog.Unfolds spots inner below ∧ below.nesting < action.nesting := by
  cases h with
  | external hread => exact absurd huses (not_uses_of_external hread)
  | @composite _ head steps hread kinds inside =>
    obtain ⟨spec, hspec, hreference⟩ := (uses_iff hread).mp huses
    obtain ⟨step, hstep, rfl⟩ := List.mem_map.mp hspec
    have hkind := kinds step hstep
    rw [hreference] at hkind
    obtain ⟨below, hbelow⟩ := Option.isSome_iff_exists.mp hkind
    exact ⟨below, inside step hstep inner below hreference hbelow,
      ActionUnit.Nests.nesting_lt ⟨step, hstep, hbelow⟩⟩

theorem of_reach (h : catalog.Unfolds spots reference action)
    (hreach : Relation.ReflTransGen catalog.Uses reference inner) :
    ∃ below, catalog.Unfolds spots inner below ∧ below.nesting ≤ action.nesting := by
  induction hreach with
  | refl => exact ⟨action, h, le_rfl⟩
  | tail _ huses ih =>
    obtain ⟨mid, hmid, hle⟩ := ih
    obtain ⟨below, hbelow, hlt⟩ := hmid.of_uses huses
    exact ⟨below, hbelow, hlt.le.trans hle⟩

/-- No action behind a reference that unfolds comes to use itself, under whatever reference. -/
theorem not_cyclic (h : catalog.Unfolds spots reference action)
    (coherent : catalog.Coherent spots used) (hused : used reference)
    (hreach : Relation.ReflTransGen catalog.Uses reference inner)
    (hreturn : Relation.TransGen catalog.Uses inner other) :
    identifier inner ≠ identifier other := by
  intro heq
  have hinner := coherent.used_of_reach hused hreach
  have hother := coherent.used_of_reach hinner hreturn.to_reflTransGen
  obtain ⟨first, hfirst, -⟩ := h.of_reach hreach
  obtain ⟨next, hnext, htail⟩ := Relation.TransGen.head'_iff.mp hreturn
  obtain ⟨below, hbelow, hlt⟩ := hfirst.of_uses hnext
  obtain ⟨last, hlast, hle⟩ := hbelow.of_reach htail
  -- Under the other reference the action would have to be lower than it is.
  have hsame := (hlast.transfer coherent hother hinner heq.symm).det hfirst
  rw [hsame] at hle
  omega

end Unfolds

end Catalog

end Pipeline
