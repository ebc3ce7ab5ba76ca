import Pipeline.Proofs.Action.Requests

/-! What the answer to a look-up says about the files: an action that is found lies on no cycle and
is as high as its longest chain of actions, and a complaint shows the chain that it is about. -/

namespace Pipeline

open Resolver (LookUp Memory identifier view)

/-! ### The recursion ends -/

namespace Resolver

/-- One turn of looking up an action inside the actions of `path`. Nothing counts the levels that
are left: only the length of the path is checked. -/
def turn (resolver : Resolver) (tree : FileTree)
    (inner : List String → ActionRef → LookUp ActionUnit) (path : List String)
    (reference : ActionRef) : LookUp ActionUnit := do
  let identifier := identifier reference
  if path.contains identifier then throw (.action (.cyclic (path ++ [identifier])))
  match (← get).units.get? identifier with
  | some action =>
    resolver.checkDepth identifier (path.length + action.height)
    pure action
  | none =>
    resolver.checkDepth identifier (path.length + 1)
    let action ← resolver.resolveNew tree (inner (path ++ [identifier])) identifier reference
    modify fun memory => { memory with units := memory.units.insert identifier action }
    pure action

variable (resolver : Resolver) (tree : FileTree)
  {inner inner' : List String → ActionRef → LookUp ActionUnit} {path : List String}
  {reference : ActionRef}

theorem checkDepth_bind_of_lt {α : Type} {name : String} {depth : Nat} {next : Unit → LookUp α}
    (h : resolver.maxDepth < depth) : (resolver.checkDepth name depth >>= next) =
      throw (.config (.tooDeep name resolver.maxDepth)) := by
  unfold checkDepth
  rw [if_pos h]
  rfl

theorem checkDepth_bind_of_le {α : Type} {name : String} {depth : Nat} {next : Unit → LookUp α}
    (h : depth ≤ resolver.maxDepth) : (resolver.checkDepth name depth >>= next) = next () := by
  unfold checkDepth
  rw [if_neg (Nat.not_lt.mpr h)]
  rfl

/-- A turn looks up no action inside of a path that is as long as the limit. -/
theorem turn_congr (h : path.length < resolver.maxDepth →
      inner (path ++ [identifier reference]) = inner' (path ++ [identifier reference])) :
    resolver.turn tree inner path reference = resolver.turn tree inner' path reference := by
  unfold turn
  dsimp only
  by_cases hdepth : path.length < resolver.maxDepth
  · rw [h hdepth]
  · simp only [checkDepth_bind_of_lt resolver (Nat.lt_succ_of_le (Nat.not_lt.mp hdepth))]

/-- Counting the levels that are left stops no look-up that the length of its path would not. -/
theorem resolveAt_eq_turn (path : List String) (reference : ActionRef) :
    resolver.resolveAt tree (resolver.maxDepth - path.length) path reference =
      resolver.turn tree
        (fun path => resolver.resolveAt tree (resolver.maxDepth - path.length) path) path
        reference := by
  rw [Resolver.resolveAt.eq_def, turn]
  dsimp only
  cases hlevels : resolver.maxDepth - path.length with
  | zero =>
    rewrite [checkDepth_bind_of_lt resolver (by omega : _ < path.length + 1)]
    rfl
  | succ levels =>
    have hinner : resolver.maxDepth - (path ++ [identifier reference]).length = levels := by
      rw [List.length_append, List.length_singleton]
      omega
    rewrite [checkDepth_bind_of_le resolver (by omega : path.length + 1 ≤ _), hinner]
    rfl

/-- Looking up an action ends: the recursion has exactly one solution. -/
theorem turn_unique (f : List String → ActionRef → LookUp ActionUnit) :
    (∀ path reference, f path reference = resolver.turn tree f path reference) ↔
      f = fun path => resolver.resolveAt tree (resolver.maxDepth - path.length) path := by
  constructor
  · intro h
    -- The path grows by one at each turn, so the levels that are left go down.
    have hlevels (levels : Nat) : ∀ path, resolver.maxDepth - path.length = levels →
        f path = resolver.resolveAt tree (resolver.maxDepth - path.length) path := by
      induction levels with
      | zero =>
        intro path hpath
        funext reference
        rw [h, resolveAt_eq_turn]
        exact turn_congr resolver tree fun hlt => by omega
      | succ levels ih =>
        intro path hpath
        funext reference
        rw [h, resolveAt_eq_turn]
        refine turn_congr resolver tree fun hlt => ih _ ?_
        rw [List.length_append, List.length_singleton]
        omega
    funext path
    exact hlevels _ path rfl
  · rintro rfl path reference
    exact resolveAt_eq_turn resolver tree path reference

end Resolver

namespace Catalog

variable {catalog : Catalog} {spots : Spots catalog.tree} {used : ActionRef → Prop}
  {reference : ActionRef} {action unit : ActionUnit}

/-! ### The manifests behind an action -/

/-- The steps of an action are those of the manifest behind its reference, one by one and in order,
and so are the steps of the actions inside of it. -/
inductive Mirrors (catalog : Catalog) : ActionRef → ActionUnit → Prop where
  | external {reference : ActionRef} {action : ExternalAction}
    (name : action.identifier = identifier reference)
    (simple : ∀ directory manifest, catalog.directory? reference = some directory →
      Manifest.find catalog.tree directory = .ok manifest → manifest.isComposite = false) :
    Mirrors catalog reference (.external action)
  | composite {reference : ActionRef} {directory : String} {manifest : Manifest}
    {info : CompositeInfo} {steps : List ResolvedStep}
    (name : info.identifier = identifier reference)
    (place : catalog.directory? reference = some directory)
    (found : Manifest.find catalog.tree directory = .ok manifest)
    (kind : manifest.isComposite = true)
    (pairs : List.Forall₂ (fun written step => Document.Step.compile .none written = .ok step.spec)
      manifest.runs.steps steps)
    (kinds : ∀ step ∈ steps, step.action?.isSome = step.spec.reference?.isSome)
    (inside : ∀ step ∈ steps, ∀ inner action, step.spec.reference? = some inner →
      step.action? = some action → Mirrors catalog inner action) :
    Mirrors catalog reference (.composite info steps)

theorem Unfolds.mirrors (h : catalog.Unfolds spots reference unit)
    (hunit : spots.unit action = unit) : catalog.Mirrors reference action := by
  induction h generalizing action with
  | @external reference own hread =>
    cases action with
    | composite info steps => cases hunit
    | external found =>
      have hname : found.identifier = own.identifier := congrArg ActionUnit.identifier hunit
      exact .external (hname.trans (identifier_of_read_external hread)) fun _ _ =>
        not_composite_of_external hread
  | @composite reference head steps hread kinds inside ih =>
    cases action with
    | external found => cases hunit
    | composite own found =>
      have hname := congrArg ActionUnit.identifier hunit
      rw [Spots.unit_composite] at hunit
      obtain ⟨-, rfl⟩ := ActionUnit.composite.inj hunit
      obtain ⟨directory, manifest, hdirectory, hfind, hkind, rfl, -, hpairs⟩ :=
        manifest_of_composite? (composite?_of_read hread)
      rw [List.map_map, List.forall₂_map_right_iff] at hpairs
      simp only [Function.comp_apply, Spots.step_spec] at hpairs
      refine .composite hname hdirectory hfind hkind hpairs (fun step hstep => ?_)
        fun step hstep inner below hreference hbelow => ?_
      · simpa using kinds _ (List.mem_map_of_mem hstep)
      · exact ih _ (List.mem_map_of_mem hstep) inner (spots.unit below) (by simpa using hreference)
          (by simp [hbelow]) rfl

/-! ### What an answer says -/

/-- What is sure of an action that was found. -/
structure Found (catalog : Catalog) (reference : ActionRef) (action : ActionUnit) : Prop where
  /-- Nothing that is used comes to use itself. -/
  acyclic {inner other : ActionRef} (reach : Relation.ReflTransGen catalog.Uses reference inner)
    (back : Relation.TransGen catalog.Uses inner other) : identifier inner ≠ identifier other
  /-- The height that was recorded is that of the tree. -/
  recorded : action.height = action.nesting
  height : IsGreatest {length | ∃ chain, ChainFrom ActionUnit.Nests action chain ∧
    chain.length = length} action.height
  bounded : action.height ≤ catalog.resolver.maxDepth
  mirrors : catalog.Mirrors reference action

theorem eq_of_anonymous_eq_action {e : Error} {fault : ActionFault}
    (h : e.anonymous = .action fault) : e = .action fault := by
  cases e with
  | config cause => cases cause <;> cases h
  | _ => exact h

theorem eq_of_anonymous_eq_tooDeep {e : Error} {name : String} {limit : Nat}
    (h : e.anonymous = .config (.tooDeep name limit)) :
    ∃ name, e = .config (.tooDeep name limit) := by
  cases e with
  | config cause =>
    cases cause <;> cases h
    exact ⟨_, rfl⟩
  | _ => cases h

section Alike

variable {α β γ : Type} {f : α → γ} {g : β → γ} {first : Except Error α} {second : Except Error β}

theorem action_of_view_eq {fault : ActionFault} (hview : view f first = view g second)
    (h : first = .error (.action fault)) : second = .error (.action fault) := by
  rw [h] at hview
  obtain ⟨e, hsecond, hanonymous⟩ := Resolver.view_eq_error_iff.mp hview.symm
  rw [hsecond, eq_of_anonymous_eq_action hanonymous]

theorem tooDeep_of_view_eq {name : String} {limit : Nat} (hview : view f first = view g second)
    (h : first = .error (.config (.tooDeep name limit))) :
    ∃ name, second = .error (.config (.tooDeep name limit)) := by
  rw [h] at hview
  obtain ⟨e, hsecond, hanonymous⟩ := Resolver.view_eq_error_iff.mp hview.symm
  obtain ⟨name, rfl⟩ := eq_of_anonymous_eq_tooDeep hanonymous
  exact ⟨name, hsecond⟩

end Alike

theorem found_of_answer (coherent : catalog.Coherent spots used) (hused : used reference)
    {found : ActionUnit} (h : catalog.answer reference = .ok found)
    (hunit : spots.unit found = spots.unit action) : catalog.Found reference action := by
  have ⟨hunfolds, hheight⟩ : catalog.Unfolds spots reference (spots.unit found) ∧ _ :=
    unfolds_of_walk h
  rw [hunit] at hunfolds
  have hrecorded : action.height = action.nesting := by
    rw [← spots.unit_height, hunfolds.height_eq_nesting, spots.unit_nesting]
  refine ⟨hunfolds.not_cyclic coherent hused, hrecorded, ?_, ?_, hunfolds.mirrors rfl⟩
  · rw [hrecorded]
    exact action.nesting_isGreatest
  · rw [← spots.unit_height action, ← hunit, spots.unit_height]
    exact hheight

theorem chain_of_cyclic {chain : List String}
    (h : catalog.answer reference = .error (.action (.cyclic chain))) :
    ∃ before last, ChainFrom catalog.Uses reference (before ++ [last]) ∧
      chain = before.map identifier ++ [identifier last] ∧
      (before.map identifier).Nodup ∧ identifier last ∈ before.map identifier := by
  obtain ⟨before, last, hchain, hnodup, ⟨hmem, heq⟩ | ⟨-, heq⟩ | hread⟩ :=
    walk_error List.nodup_nil h
  · cases heq
    exact ⟨before, last, hchain, rfl, hnodup, hmem⟩
  · cases heq
  · exact absurd rfl ((read_error hread).1 chain)

theorem chain_of_tooDeep {name : String} {limit : Nat}
    (h : catalog.answer reference = .error (.config (.tooDeep name limit))) :
    ∃ chain, ChainFrom catalog.Uses reference chain ∧ catalog.resolver.maxDepth < chain.length := by
  obtain ⟨before, last, hchain, -, ⟨-, heq⟩ | ⟨hlength, -⟩ | hread⟩ := walk_error List.nodup_nil h
  · cases heq
  · refine ⟨before ++ [last], hchain, ?_⟩
    rw [List.length_append, hlength, List.length_singleton]
    exact Nat.lt_succ_self _
  · exact absurd rfl ((read_error hread).2.1 name limit)

/-- Looking up an action ends, whatever was asked before. An action that is found lies on no cycle,
is as high as its longest chain of actions, which the limit bounds, and has the steps of the
manifests; a complaint about a cycle shows the chain of uses that leads back into itself, and one
about depth is made only where a chain of uses is longer than the limit. -/
theorem resolution_sound (coherent : catalog.Coherent spots used) (requests : List Request)
    (hrequests : ∀ request ∈ requests, ∀ reference ∈ request.references, used reference)
    (hused : used reference) :
    let lookUp := catalog.resolver.resolve catalog.tree reference
    let answer := (lookUp.outcome (catalog.serveAll catalog.fresh requests).2).1
    (∃! f, (∀ path reference, f path reference =
        catalog.resolver.turn catalog.tree f path reference)) ∧
      (∀ f, (∀ path reference, f path reference =
        catalog.resolver.turn catalog.tree f path reference) → f [] reference = lookUp) ∧
      (∀ action, answer = .ok action → catalog.Found reference action) ∧
      (∀ chain, answer = .error (.action (.cyclic chain)) →
        ∃ before last, ChainFrom catalog.Uses reference (before ++ [last]) ∧
          chain = before.map identifier ++ [identifier last] ∧
          (before.map identifier).Nodup ∧ identifier last ∈ before.map identifier) ∧
      (∀ name limit, answer = .error (.config (.tooDeep name limit)) →
        ∃ chain, ChainFrom catalog.Uses reference chain ∧
          catalog.resolver.maxDepth < chain.length) ∧
      ((∃ inner other, Relation.ReflTransGen catalog.Uses reference inner ∧
          Relation.TransGen catalog.Uses inner other ∧ identifier inner = identifier other) →
        ∀ action, answer ≠ .ok action) := by
  obtain ⟨-, hright⟩ := serveAll_spec coherent hrequests right_fresh
  have hview := (agrees_resolve coherent hused _ hright).1
  have hsolution := catalog.resolver.turn_unique catalog.tree
  have hfound : ∀ action, ((catalog.resolver.resolve catalog.tree reference).outcome
      (catalog.serveAll catalog.fresh requests).2).1 = .ok action →
        catalog.Found reference action := by
    intro action h
    rw [h] at hview
    obtain ⟨found, hanswer, hunit⟩ := Resolver.view_eq_ok_iff.mp hview.symm
    exact found_of_answer coherent hused hanswer hunit
  refine ⟨⟨_, (hsolution _).mpr rfl, fun f hf => (hsolution f).mp hf⟩, ?_, hfound, ?_, ?_, ?_⟩
  · intro f hf
    rw [(hsolution f).mp hf]
    rfl
  · intro chain h
    exact chain_of_cyclic (action_of_view_eq hview h)
  · intro name limit h
    obtain ⟨_, hanswer⟩ := tooDeep_of_view_eq hview h
    exact chain_of_tooDeep hanswer
  · rintro ⟨inner, other, hreach, hback, heq⟩ action h
    exact (hfound action h).acyclic hreach hback heq

theorem resolution_sound_sample :
    ∃ action, ((sample.resolver.resolve sample.tree (.workspace "./a")).outcome
        (sample.serveAll sample.fresh Sample.requests).2).1 = .ok action ∧
      sample.Found (.workspace "./a") action := by
  have hused : .workspace "./a" ∈ Sample.references := .head _
  have hall := resolution_sound coherent_sample Sample.requests (by decide) hused
  have hok : (((sample.resolver.resolve sample.tree (.workspace "./a")).outcome
      (sample.serveAll sample.fresh Sample.requests).2).1.toOption).isSome = true := by
    decide +kernel
  cases hanswer : ((sample.resolver.resolve sample.tree (.workspace "./a")).outcome
      (sample.serveAll sample.fresh Sample.requests).2).1 with
  | error e =>
    rw [hanswer] at hok
    cases hok
  | ok action => exact ⟨action, rfl, hall.2.2.1 action hanswer⟩

end Catalog

end Pipeline
