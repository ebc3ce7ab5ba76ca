import Pipeline.Proofs.Action.Walk

/-! What has been looked up before is remembered, and changes no answer: from every memory that is
right, a look-up answers as the walk does, and leaves a memory that is right. -/

namespace Pipeline

open Resolver (Memory LookUp identifier view attach complete)

namespace Catalog

variable {catalog : Catalog} {spots : Spots catalog.tree} {used : ActionRef → Prop}

/-- The memory of someone who has looked up nothing. -/
def fresh (catalog : Catalog) : Memory :=
  ⟨ActionCache.of catalog.fetched, []⟩

/-- What is remembered is right: repositories are where they were found, and every action is what
the references with its identifier unfold to. -/
structure Right (catalog : Catalog) (spots : Spots catalog.tree) (used : ActionRef → Prop)
    (memory : Memory) : Prop where
  directory : memory.cache.directory = catalog.fetched
  known {owner repo version : String} (parted : ActionRef.Parted owner repo version)
    {found : Option String}
    (h : memory.cache.known.get? (owner ++ "/" ++ repo ++ "@" ++ version) = some found) :
    found = catalog.repository? owner repo version
  units {name : String} {action : ActionUnit} (h : memory.units.get? name = some action) :
    ∃ reference, used reference ∧ identifier reference = name ∧
      catalog.Unfolds spots reference (spots.unit action)

theorem right_fresh : catalog.Right spots used catalog.fresh where
  directory := rfl
  known _ _ h := nomatch (show none = some _ from h)
  units h := nomatch (show none = some _ from h)

variable {α β γ δ : Type} {f : α → β} {g : γ → δ} {memory : Memory}

/-- From a memory that is right, the look-up is seen to give what is expected, and leaves a memory
that is right. -/
def Agrees (catalog : Catalog) (spots : Spots catalog.tree) (used : ActionRef → Prop) (f : α → β)
    (x : LookUp α) (expected : Except Error β) : Prop :=
  ∀ memory, catalog.Right spots used memory →
    view f (x.outcome memory).1 = expected ∧ catalog.Right spots used (x.outcome memory).2

namespace Agrees

theorem pure (a : α) : catalog.Agrees spots used f (Pure.pure a) (.ok (f a)) :=
  fun _ right => ⟨rfl, right⟩

theorem throw (e : Error) : catalog.Agrees spots used f (throw e) (.error e.anonymous) :=
  fun _ right => ⟨rfl, right⟩

theorem bind {x : LookUp α} {next : α → LookUp γ} {expected : Except Error β}
    {following : β → Except Error δ} (h : catalog.Agrees spots used f x expected)
    (hnext : ∀ a, expected = .ok (f a) → catalog.Agrees spots used g (next a) (following (f a))) :
    catalog.Agrees spots used g (x >>= next) (expected.bind following) := by
  intro memory right
  obtain ⟨hview, hright⟩ := h memory right
  rcases hx : x.outcome memory with ⟨e | a, mid⟩
  · rw [hx] at hview hright
    rw [LookUp.outcome_bind_error hx, ← hview]
    exact ⟨rfl, hright⟩
  · rw [hx] at hview hright
    rw [LookUp.outcome_bind_ok hx, ← hview]
    exact hnext a hview.symm mid hright

theorem bind_ok {x : LookUp α} {next : α → LookUp γ} {b : β} {expected : Except Error δ}
    (h : catalog.Agrees spots used f x (.ok b))
    (hnext : ∀ a, f a = b → catalog.Agrees spots used g (next a) expected) :
    catalog.Agrees spots used g (x >>= next) expected := by
  show catalog.Agrees spots used g _ ((Except.ok b).bind fun _ => expected)
  exact h.bind fun a ha => hnext a (Except.ok.inj ha).symm

end Agrees

variable {reference : ActionRef} {levels : Nat} {path : List String}

/-! ### The parts of a look-up -/

theorem outcome_fetch (tree : FileTree) (reference : ActionRef) (key : String) (memory : Memory) :
    (Resolver.fetch tree reference key).outcome memory =
      ((memory.cache.fetch tree reference key).1.mapError fun e =>
        .action (.unfetched e.message),
        { memory with cache := (memory.cache.fetch tree reference key).2 }) := by
  rw [Resolver.fetch, LookUp.outcome_get_bind]
  rcases memory.cache.fetch tree reference key with ⟨e | directory, cache⟩ <;> rfl

/-- What is known of a repository is found again; otherwise it is looked up. -/
theorem agrees_fetch {owner repo version : String} {place : Option String}
    (parted : ActionRef.Parted owner repo version) :
    catalog.Agrees spots used id
      (Resolver.fetch catalog.tree (.external owner repo place version)
        (owner ++ "/" ++ repo ++ "@" ++ version))
      (.ok (catalog.directory? (.external owner repo place version))) := by
  intro memory right
  rw [outcome_fetch]
  cases hknown : memory.cache.known.get? (owner ++ "/" ++ repo ++ "@" ++ version) with
  | some found =>
    simp only [ActionCache.fetch, hknown]
    rw [right.known parted hknown]
    exact ⟨rfl, right⟩
  | none =>
    have hpath : memory.cache.repositoryPath owner repo version =
        (ActionCache.of catalog.fetched).repositoryPath owner repo version := by
      rw [ActionCache.repositoryPath, right.directory]
      rfl
    have hfound : (if catalog.tree.isDirectory (memory.cache.repositoryPath owner repo version) then
        some (memory.cache.repositoryPath owner repo version) else none) =
          catalog.repository? owner repo version := by
      rw [hpath]
      rfl
    simp only [ActionCache.fetch, hknown, hfound]
    refine ⟨rfl, ⟨right.directory, fun {owner' repo' version'} parted' found h => ?_, right.units⟩⟩
    rw [Dict.get?_insert] at h
    split at h
    · next hkey =>
      obtain ⟨rfl, rfl, rfl⟩ := ActionRef.eq_of_fetchKey parted' parted hkey
      exact (Option.some.inj h).symm
    · exact right.known parted' h

theorem map_bind (x : Except Error α) (f : α → β) (next : β → Except Error γ) :
    (x.map f).bind next = x.bind fun a => next (f a) := by
  cases x <;> rfl

theorem agrees_resolveList {resolve : ActionRef → LookUp ActionUnit}
    {walk : ActionRef → Except Error ActionUnit} {specs : List Step}
    (h : ∀ spec ∈ specs, ∀ inner, spec.reference? = some inner →
      catalog.Agrees spots used spots.unit (resolve inner) (view spots.unit (walk inner))) :
    catalog.Agrees spots used (List.map spots.step) (Resolver.resolveList resolve specs)
      (view (List.map spots.step) (specs.mapM (attach walk))) := by
  induction specs with
  | nil => exact .pure _
  | cons spec rest ih =>
    obtain ⟨hspec, hrest⟩ := List.forall_mem_cons.mp h
    rw [Resolver.resolveList, Resolver.view_mapM_cons]
    have htail (first : ResolvedStep) : catalog.Agrees spots used (List.map spots.step)
        (do let others ← Resolver.resolveList resolve rest; pure (first :: others))
        ((view (List.map spots.step) (rest.mapM (attach walk))).map (spots.step first :: ·)) :=
      (ih hrest).bind fun others _ => .pure (first :: others)
    cases hreference : spec.reference? with
    | none =>
      have hattach : attach walk spec = .ok (.plain spec) := by rw [attach, hreference]
      rw [hattach]
      exact htail _
    | some inner =>
      have hattach : attach walk spec = (walk inner).map (.uses spec) := by rw [attach, hreference]
      rw [hattach, Resolver.view_map (spots.step_uses spec), map_bind]
      exact (hspec inner hreference).bind fun action _ => htail (.uses spec action)

section Inside

variable {resolve : ActionRef → LookUp ActionUnit} {walk : ActionRef → Except Error ActionUnit}

def loaded (walk : ActionRef → Except Error ActionUnit)
    (found : Except Error (Option (CompositeHead × List Step))) :
    Except Error (Option ActionUnit) :=
  match found with
  | .error e => .error e
  | .ok none => .ok none
  | .ok (some (head, specs)) => (complete walk (.composite head specs)).map some

theorem view_read (walk : ActionRef → Except Error ActionUnit) (reference : ActionRef) :
    view spots.unit (catalog.read reference >>= complete walk) =
      (view (Option.map spots.unit) (loaded walk (catalog.composite? reference))).bind fun
        | none => view spots.unit (catalog.simple reference >>= complete walk)
        | some action => .ok action := by
  rw [read]
  rcases catalog.composite? reference with e | _ | ⟨head, specs⟩
  · rfl
  · rfl
  · show view spots.unit (complete walk (.composite head specs)) = _
    rw [loaded]
    cases complete walk (.composite head specs) <;> rfl

/-- A directory gives the composite action in it. -/
theorem agrees_loadDirectory {identifier directory : String}
    (h : ∀ head specs, compositeIn catalog.tree identifier directory = .ok (some (head, specs)) →
      ∀ spec ∈ specs, ∀ inner, spec.reference? = some inner →
      catalog.Agrees spots used spots.unit (resolve inner) (view spots.unit (walk inner))) :
    catalog.Agrees spots used (Option.map spots.unit)
      (Resolver.loadDirectory catalog.tree resolve identifier directory)
      (view (Option.map spots.unit)
        (loaded walk (compositeIn catalog.tree identifier directory))) := by
  unfold Resolver.loadDirectory
  unfold compositeIn at h ⊢
  cases hfind : Manifest.find catalog.tree directory with
  | error e =>
    cases e with
    | notFound place =>
      dsimp only
      split
      · exact .throw _
      · exact .pure _
    | _ => exact .throw _
  | ok manifest =>
    rw [hfind] at h
    dsimp only at h ⊢
    split
    · exact .pure _
    · next hkind =>
      rw [if_neg hkind] at h
      cases hspecs : Resolver.compileSteps identifier manifest with
      | error e => exact .throw e
      | ok specs =>
        rw [hspecs] at h
        have hview : view (Option.map spots.unit)
            (loaded walk (.ok (some (headOf identifier directory manifest, specs)))) =
              (view (List.map spots.step) (specs.mapM (attach walk))).bind fun steps =>
                .ok (some (.composite ⟨spots.head (headOf identifier directory manifest),
                  1 + ResolvedStep.heights steps⟩ steps)) := by
          rw [loaded, complete]
          cases specs.mapM (attach walk) with
          | error e => rfl
          | ok steps => simp [Except.map, view, Except.bind]
        show catalog.Agrees spots used _ (do
          let steps ← Resolver.resolveList resolve specs
          pure (some (ActionUnit.composite
            ⟨headOf identifier directory manifest, 1 + ResolvedStep.heights steps⟩ steps)))
          (view _ (loaded _ _))
        rw [hview]
        refine (agrees_resolveList (h _ specs rfl)).bind fun steps _ => ?_
        rw [spots.heights_map, ← spots.unit_composite]
        exact .pure _

/-- An action that is not remembered is read, and those inside of it are looked up. -/
theorem agrees_resolveNew (hsound : reference.Sound)
    (h : ∀ inner, catalog.Uses reference inner →
      catalog.Agrees spots used spots.unit (resolve inner) (view spots.unit (walk inner))) :
    catalog.Agrees spots used spots.unit
      (catalog.resolver.resolveNew catalog.tree resolve (identifier reference) reference)
      (view spots.unit (catalog.read reference >>= complete walk)) := by
  have hinner (head : CompositeHead) (specs : List Step)
      (hfound : catalog.composite? reference = .ok (some (head, specs))) :
      ∀ spec ∈ specs, ∀ inner, spec.reference? = some inner →
        catalog.Agrees spots used spots.unit (resolve inner) (view spots.unit (walk inner)) := by
    intro spec hspec inner hreference
    have hread : catalog.read reference = .ok (.composite head specs) := by rw [read, hfound]
    exact h inner ((uses_iff hread).mpr ⟨spec, hspec, hreference⟩)
  rw [view_read]
  cases reference with
  | workspace place =>
    refine (agrees_loadDirectory hinner).bind fun loaded _ => ?_
    cases loaded with
    | none => exact .throw _
    | some action => exact .pure action
  | external owner repo place version =>
    refine (agrees_fetch hsound).bind_ok fun directory hdirectory => ?_
    obtain rfl : directory = catalog.directory? (.external owner repo place version) := hdirectory
    unfold composite? at hinner ⊢
    unfold simple
    dsimp only
    cases hplace : catalog.directory? (.external owner repo place version) with
    | none =>
      refine Agrees.bind (f := Option.map spots.unit) (.pure none) fun loaded hloaded => ?_
      obtain rfl : loaded = none := Option.map_eq_none_iff.mp (Except.ok.inj hloaded).symm
      exact .pure _
    | some directory =>
      rw [hplace] at hinner
      refine (agrees_loadDirectory hinner).bind fun loaded _ => ?_
      cases loaded with
      | none => exact .pure _
      | some action => exact .pure action

end Inside

/-! ### Looking up a reference -/

section ResolveAt

variable (resolver : Resolver) (tree : FileTree)

theorem outcome_of_mem (h : identifier reference ∈ path) :
    (resolver.resolveAt tree levels path reference).outcome memory =
      (.error (.action (.cyclic (path ++ [identifier reference]))), memory) := by
  rw [Resolver.resolveAt.eq_def]
  dsimp only
  rw [if_pos (by simpa using h)]
  rfl

theorem outcome_of_remembered {action : ActionUnit} (h : identifier reference ∉ path)
    (hknown : memory.units.get? (identifier reference) = some action) :
    (resolver.resolveAt tree levels path reference).outcome memory =
      (if path.length + action.height > resolver.maxDepth then
        .error (.config (.tooDeep (identifier reference) resolver.maxDepth)) else .ok action,
        memory) := by
  rw [Resolver.resolveAt.eq_def]
  dsimp only
  rw [if_neg (by simpa using h), LookUp.outcome_get_bind, hknown]
  dsimp only
  unfold Resolver.checkDepth
  split <;> rfl

theorem outcome_zero (h : identifier reference ∉ path)
    (hnew : memory.units.get? (identifier reference) = none) :
    (resolver.resolveAt tree 0 path reference).outcome memory =
      (.error (.config (.tooDeep (identifier reference) resolver.maxDepth)), memory) := by
  rw [Resolver.resolveAt.eq_def]
  dsimp only
  rw [if_neg (by simpa using h), LookUp.outcome_get_bind, hnew]
  rfl

theorem outcome_succ (h : identifier reference ∉ path)
    (hnew : memory.units.get? (identifier reference) = none) :
    (resolver.resolveAt tree (levels + 1) path reference).outcome memory =
      (do
        let action ← resolver.resolveNew tree
          (resolver.resolveAt tree levels (path ++ [identifier reference])) (identifier reference)
          reference
        modify fun memory =>
          { memory with units := memory.units.insert (identifier reference) action }
        pure action : LookUp ActionUnit).outcome memory := by
  rw [Resolver.resolveAt.eq_def]
  dsimp only
  rw [if_neg (by simpa using h), LookUp.outcome_get_bind, hnew]

end ResolveAt

/-- The names on a path are those of actions that come to use the one that is looked up. -/
def Leads (catalog : Catalog) (used : ActionRef → Prop) (path : List String)
    (reference : ActionRef) : Prop :=
  ∀ name ∈ path, ∃ above, used above ∧ identifier above = name ∧
    Relation.TransGen catalog.Uses above reference

theorem Leads.append {inner : ActionRef} (h : catalog.Leads used path reference)
    (hused : used reference) (huses : catalog.Uses reference inner) :
    catalog.Leads used (path ++ [identifier reference]) inner := by
  intro name hname
  rcases List.mem_append.mp hname with hname | hname
  · obtain ⟨above, habove, rfl, hreach⟩ := h name hname
    exact ⟨above, habove, rfl, hreach.tail huses⟩
  · exact ⟨reference, hused, (List.mem_singleton.mp hname).symm, .single huses⟩

/-- Nothing inside of an action that unfolds is still being looked up. -/
theorem Leads.disjoint {action : ActionUnit} (h : catalog.Leads used path reference)
    (coherent : catalog.Coherent spots used) (hused : used reference)
    (hunfolds : catalog.Unfolds spots reference action) {inner : ActionRef}
    (hreach : Relation.ReflTransGen catalog.Uses reference inner) : identifier inner ∉ path := by
  intro hmem
  obtain ⟨above, habove, hname, hleads⟩ := h _ hmem
  obtain ⟨below, hbelow, -⟩ := hunfolds.of_reach hreach
  -- The action above would unfold as the inner one does, and come to use itself.
  have htransfer := hbelow.transfer coherent (coherent.used_of_reach hused hreach) habove hname.symm
  exact htransfer.not_cyclic coherent habove .refl (hleads.trans_left hreach) hname

theorem Right.insert {action : ActionUnit} (right : catalog.Right spots used memory)
    (hused : used reference) (h : catalog.Unfolds spots reference (spots.unit action)) :
    catalog.Right spots used
      { memory with units := memory.units.insert (identifier reference) action } where
  directory := right.directory
  known parted _ hknown := right.known parted hknown
  units {name found} hfound := by
    rw [Dict.get?_insert] at hfound
    split at hfound
    · next hname =>
      cases hfound
      exact ⟨reference, hused, hname.symm, h⟩
    · exact right.units hfound

/-- Remembered or not, an action is found as the walk finds it. -/
theorem agrees_resolveAt (coherent : catalog.Coherent spots used) (hused : used reference)
    (hlevels : levels + path.length = catalog.resolver.maxDepth)
    (hpath : catalog.Leads used path reference) :
    catalog.Agrees spots used spots.unit
      (catalog.resolver.resolveAt catalog.tree levels path reference)
      (view spots.unit (catalog.walk levels path reference)) := by
  -- On the levels. A remembered action is not walked again: nothing inside of it is on the path,
  -- so its height alone says how the walk would end.
  induction levels using Nat.strongRecOn generalizing path reference with
  | ind levels ih =>
    intro memory right
    by_cases hmem : identifier reference ∈ path
    · rw [outcome_of_mem _ _ hmem, walk_of_mem hmem]
      exact ⟨rfl, right⟩
    cases hknown : memory.units.get? (identifier reference) with
    | some action =>
      obtain ⟨other, hother, hname, hunfolds⟩ := right.units hknown
      have hown := hunfolds.transfer coherent hother hused hname
      rw [outcome_of_remembered _ _ hmem hknown, walk_of_unfolds hown coherent hused
        fun inner => hpath.disjoint coherent hused hown, Spots.unit_height]
      refine ⟨?_, right⟩
      by_cases hheight : action.height ≤ levels
      · rw [if_neg (by omega), if_pos hheight]
        rfl
      · rw [if_pos (by omega), if_neg hheight]
        rfl
    | none =>
      cases levels with
      | zero =>
        rw [outcome_zero _ _ hmem hknown, walk_zero hmem]
        exact ⟨rfl, right⟩
      | succ levels =>
        rw [outcome_succ _ _ hmem hknown]
        obtain ⟨text, hparse⟩ := coherent.parsed hused
        have hnew := agrees_resolveNew (ActionRef.sound_of_parse hparse) fun inner huses =>
          ih levels (Nat.lt_succ_self levels) (coherent.closed hused huses)
            (by rw [List.length_append, List.length_singleton]; omega) (hpath.append hused huses)
        rw [← walk_succ hmem] at hnew
        obtain ⟨hview, hright⟩ := hnew memory right
        rcases hanswer : (catalog.resolver.resolveNew catalog.tree
          (catalog.resolver.resolveAt catalog.tree levels (path ++ [identifier reference]))
          (identifier reference) reference).outcome memory with ⟨e | action, mid⟩
        · rw [hanswer] at hview hright
          rw [LookUp.outcome_bind_error hanswer]
          exact ⟨hview, hright⟩
        · rw [hanswer] at hview hright
          rw [LookUp.outcome_bind_ok hanswer]
          obtain ⟨found, hfound, hunit⟩ := Resolver.view_eq_ok_iff.mp hview.symm
          have hunfolds : catalog.Unfolds spots reference (spots.unit found) :=
            (unfolds_of_walk hfound).1
          rw [hunit] at hunfolds
          exact ⟨hview, hright.insert hused hunfolds⟩

end Catalog

end Pipeline
