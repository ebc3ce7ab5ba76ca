import Mathlib.Data.List.TakeWhile
import Pipeline.Action.Resolver

/-! What the names of actions tell: an external action is read off its identifier, and its
repository off the key under which it is fetched. -/

namespace Pipeline

namespace ActionRef

variable {mark : Char} {before after cs : List Char}

theorem splitAtFirst_append (after : List Char) (h : mark ∉ before) :
    splitAtFirst mark (before ++ mark :: after) = (before, some after) := by
  have hne : ∀ c ∈ before, (c != mark) = true := fun c hc => by
    simpa using fun heq : c = mark => h (heq ▸ hc)
  simp [splitAtFirst, List.takeWhile_append_of_pos hne, List.dropWhile_append_of_pos hne]

theorem splitAtFirst_of_notMem (h : mark ∉ before) : splitAtFirst mark before = (before, none) := by
  have hne : ∀ c ∈ before, (c != mark) = true := fun c hc => by
    simpa using fun heq : c = mark => h (heq ▸ hc)
  simp [splitAtFirst, List.takeWhile_eq_self_iff.mpr hne, List.dropWhile_eq_nil_iff.mpr hne]

theorem notMem_takeWhile (mark : Char) (cs : List Char) : mark ∉ cs.takeWhile (· != mark) := by
  intro h
  simpa using List.all_eq_true.mp List.all_takeWhile mark h

/-- The mark stands between the parts before and after its first occurrence. -/
theorem splitAtFirst_eq {rest : Option (List Char)} (h : splitAtFirst mark cs = (before, rest)) :
    mark ∉ before ∧ cs = before ++ rest.elim [] (mark :: ·) := by
  unfold splitAtFirst at h
  have hjoin := List.takeWhile_append_dropWhile (p := (· != mark)) (l := cs)
  dsimp only at h
  split at h
  · next hdrop =>
    cases h
    rw [hdrop] at hjoin
    exact ⟨notMem_takeWhile mark cs, hjoin.symm⟩
  · next c tail hdrop =>
    cases h
    have hmark := List.head?_dropWhile_not (· != mark) cs
    rw [hdrop] at hmark
    have hc : c = mark := by simpa using hmark
    rw [hdrop, hc] at hjoin
    exact ⟨notMem_takeWhile mark cs, hjoin.symm⟩

/-- The last occurrence of a mark is the first one from behind. -/
theorem splitAtLast_eq_splitAtFirst (mark : Char) (cs : List Char) :
    splitAtLast mark cs = (splitAtFirst mark cs.reverse).2.map fun before =>
      (before.reverse, (splitAtFirst mark cs.reverse).1.reverse) := by
  unfold splitAtLast splitAtFirst
  dsimp only
  split <;> rfl

theorem splitAtLast_append (h : mark ∉ after) :
    splitAtLast mark (before ++ mark :: after) = some (before, after) := by
  have hreverse : (before ++ mark :: after).reverse = after.reverse ++ mark :: before.reverse := by
    simp
  have hafter : mark ∉ after.reverse := fun hmem => h (List.mem_reverse.mp hmem)
  simp [splitAtLast_eq_splitAtFirst, hreverse, splitAtFirst_append _ hafter]

theorem splitAtLast_eq (h : splitAtLast mark cs = some (before, after)) :
    mark ∉ after ∧ cs = before ++ mark :: after := by
  rw [splitAtLast_eq_splitAtFirst] at h
  cases hfirst : splitAtFirst mark cs.reverse with
  | mk behind rest =>
    rw [hfirst] at h
    obtain ⟨front, rfl, hparts⟩ := Option.map_eq_some_iff.mp h
    cases hparts
    obtain ⟨hbehind, hjoin⟩ := splitAtFirst_eq hfirst
    refine ⟨fun hmem => hbehind (List.mem_reverse.mp hmem), ?_⟩
    simpa using congrArg List.reverse hjoin

/-- The parts of an external reference can be told apart in its text. -/
structure Parted (owner repo version : String) : Prop where
  owner_ne : owner ≠ "."
  owner_plain : '/' ∉ owner.toList
  repo_plain : '/' ∉ repo.toList
  version_plain : '@' ∉ version.toList

/-- A reference whose parts can be told apart in its text. -/
def Sound : ActionRef → Prop
  | workspace _ => True
  | external owner repo _ version => Parted owner repo version

/-- The path in a repository, without the slashes around it. -/
def innerPath (rest : Option (List Char)) : Option String :=
  let path := dropLastSlashes ((rest.getD []).dropWhile (· = '/'))
  if path.isEmpty then none else some (String.ofList path)

theorem ofLocation_ok {text : String} {location version : List Char} {reference : ActionRef}
    (h : ofLocation text location version = .ok reference) :
    ∃ owner repo rest, location = owner ++ '/' :: (repo ++ rest.elim [] ('/' :: ·)) ∧
      '/' ∉ owner ∧ '/' ∉ repo ∧ owner ≠ [] ∧ repo ≠ [] ∧ version ≠ [] ∧
      reference = .external (String.ofList owner) (String.ofList repo) (innerPath rest)
        (String.ofList version) := by
  unfold ofLocation at h
  split at h
  · cases h
  · next hversion =>
    rcases hfirst : splitAtFirst '/' location with ⟨owner, behind⟩
    rcases hsecond : splitAtFirst '/' (behind.getD []) with ⟨repo, rest⟩
    simp only [hfirst, hsecond] at h
    split at h
    · cases h
    · next hparts =>
      cases h
      rw [Bool.or_eq_true, not_or, List.isEmpty_iff, List.isEmpty_iff] at hparts
      obtain ⟨howner, hlocation⟩ := splitAtFirst_eq hfirst
      obtain ⟨hrepo, hbehind⟩ := splitAtFirst_eq hsecond
      refine ⟨owner, repo, rest, ?_, howner, hrepo, hparts.1, hparts.2, by simpa using hversion,
        rfl⟩
      cases behind with
      | none => exact absurd (List.append_eq_nil_iff.mp hbehind.symm).1 hparts.2
      | some after =>
        rw [Option.getD_some] at hbehind
        rw [hlocation, ← hbehind]
        rfl

/-- A text is read as a place in the workspace, or cut at its last `@`. -/
theorem parse_ok {text : String} {reference : ActionRef} (h : parse text = .ok reference) :
    let cs := Text.trimChars text.toList
    (['.', '/'] <+: cs ∨ cs = ['.']) ∧
        reference = .workspace (String.ofList (dropLastSlashes cs)) ∨
      ¬ ['.', '/'] <+: cs ∧ ∃ location version, '@' ∉ version ∧ cs = location ++ '@' :: version ∧
        ofLocation (String.ofList cs) location version = .ok reference := by
  unfold parse at h
  dsimp only at h
  split at h
  · cases h
  · split at h
    · cases h
    · split at h
      · next hlocal =>
        cases h
        rw [Bool.or_eq_true, List.isPrefixOf_iff_prefix, decide_eq_true_eq] at hlocal
        exact .inl ⟨hlocal, rfl⟩
      · next hlocal =>
        rw [Bool.or_eq_true, not_or, List.isPrefixOf_iff_prefix] at hlocal
        split at h
        · cases h
        · next location version hsplit =>
          obtain ⟨hversion, hjoin⟩ := splitAtLast_eq hsplit
          exact .inr ⟨hlocal.1, location, version, hversion, hjoin, h⟩

/-- A reference that can be read can be told apart from others by its text. -/
theorem sound_of_parse {text : String} {reference : ActionRef} (h : parse text = .ok reference) :
    reference.Sound := by
  obtain ⟨-, rfl⟩ | ⟨hdot, location, version, hversion, htext, hlocation⟩ := parse_ok h
  · trivial
  · obtain ⟨owner, repo, rest, rfl, howner, hrepo, -, -, -, rfl⟩ := ofLocation_ok hlocation
    refine ⟨fun heq => hdot ?_, by simpa using howner, by simpa using hrepo,
      by simpa using hversion⟩
    -- An owner `.` in front of a repository would have made the reference a local one.
    have howner : owner = ['.'] := by simpa using congrArg String.toList heq
    rw [htext, howner]
    exact ⟨_, rfl⟩

/-- Text of the shape `owner/rest@version` has its parts where the first slash and the last `@`
stand. -/
theorem eq_of_spelled {owner rest version owner' rest' version' : String}
    (howner : '/' ∉ owner.toList) (howner' : '/' ∉ owner'.toList)
    (hversion : '@' ∉ version.toList) (hversion' : '@' ∉ version'.toList)
    (h : owner ++ "/" ++ rest ++ "@" ++ version = owner' ++ "/" ++ rest' ++ "@" ++ version') :
    owner = owner' ∧ rest = rest' ∧ version = version' := by
  have hspell (owner rest version : String) : (owner ++ "/" ++ rest ++ "@" ++ version).toList =
      (owner.toList ++ '/' :: rest.toList) ++ '@' :: version.toList := by simp
  -- First the last `@` is found on both sides, then the first slash in front of it.
  have hlast := congrArg (splitAtLast '@' ·.toList) h
  simp only [hspell, splitAtLast_append hversion, splitAtLast_append hversion'] at hlast
  obtain ⟨hname, hend⟩ := Prod.mk.inj (Option.some.inj hlast)
  have hfirst := congrArg (splitAtFirst '/') hname
  rw [splitAtFirst_append _ howner, splitAtFirst_append _ howner'] at hfirst
  obtain ⟨hstart, hrest⟩ := Prod.mk.inj hfirst
  exact ⟨String.toList_inj.mp hstart, String.toList_inj.mp (Option.some.inj hrest),
    String.toList_inj.mp hend⟩

theorem eq_of_fetchKey {owner repo version owner' repo' version' : String}
    (h : Parted owner repo version) (h' : Parted owner' repo' version')
    (heq : owner ++ "/" ++ repo ++ "@" ++ version = owner' ++ "/" ++ repo' ++ "@" ++ version') :
    owner = owner' ∧ repo = repo' ∧ version = version' :=
  eq_of_spelled h.owner_plain h'.owner_plain h.version_plain h'.version_plain heq

/-- A repository, or a place in it. -/
def within (repo : String) : Option String → String
  | none => repo
  | some path => repo ++ "/" ++ path

theorem splitAtFirst_within {repo : String} (path : Option String) (hrepo : '/' ∉ repo.toList) :
    splitAtFirst '/' (within repo path).toList = (repo.toList, path.map String.toList) := by
  cases path with
  | none => exact splitAtFirst_of_notMem hrepo
  | some path => simpa [within] using splitAtFirst_append path.toList hrepo

theorem eq_of_within {repo repo' : String} {path path' : Option String}
    (hrepo : '/' ∉ repo.toList) (hrepo' : '/' ∉ repo'.toList)
    (h : within repo path = within repo' path') : repo = repo' ∧ path = path' := by
  have hparts := congrArg (splitAtFirst '/' ·.toList) h
  simp only [splitAtFirst_within path hrepo, splitAtFirst_within path' hrepo'] at hparts
  obtain ⟨hstart, hrest⟩ := Prod.mk.inj hparts
  refine ⟨String.toList_inj.mp hstart, Option.map_injective (fun _ _ => String.toList_inj.mp) hrest⟩

theorem render_external (owner repo version : String) (path : Option String) :
    (external owner repo path version).render =
      owner ++ "/" ++ within repo path ++ "@" ++ version := by
  cases path <;> simp [render, name, within, String.append_assoc]

theorem eq_of_render {owner repo version owner' repo' version' : String}
    {path path' : Option String} (h : Parted owner repo version) (h' : Parted owner' repo' version')
    (heq : (external owner repo path version).render =
      (external owner' repo' path' version').render) :
    external owner repo path version = external owner' repo' path' version' := by
  rw [render_external, render_external] at heq
  obtain ⟨rfl, hwithin, rfl⟩ :=
    eq_of_spelled h.owner_plain h'.owner_plain h.version_plain h'.version_plain heq
  obtain ⟨rfl, rfl⟩ := eq_of_within h.repo_plain h'.repo_plain hwithin
  rfl

end ActionRef

namespace Resolver

/-- An identifier does not stand for a local action and for an external one. -/
theorem identifier_workspace_ne {place owner repo version : String} {path : Option String}
    (h : ActionRef.Parted owner repo version) :
    identifier (.workspace place) ≠ identifier (.external owner repo path version) := by
  intro heq
  -- In front of the first slash stands a dot, or the owner, who is no dot.
  have hfirst := congrArg (ActionRef.splitAtFirst '/' ·.toList) heq
  have hlocal (names : String) :
      ActionRef.splitAtFirst '/' ("./" ++ names).toList = (['.'], some names.toList) := by
    simpa using ActionRef.splitAtFirst_append names.toList (show '/' ∉ ['.'] by decide)
  have hexternal :
      ActionRef.splitAtFirst '/' (identifier (.external owner repo path version)).toList =
        (owner.toList, some (ActionRef.within repo path ++ "@" ++ version).toList) := by
    have hspell : (identifier (.external owner repo path version)).toList =
        owner.toList ++ '/' :: (ActionRef.within repo path ++ "@" ++ version).toList := by
      simp [identifier, ActionRef.render_external]
    rw [hspell, ActionRef.splitAtFirst_append _ h.owner_plain]
  simp only [hexternal] at hfirst
  rw [identifier, hlocal] at hfirst
  exact h.owner_ne (String.toList_inj.mp (Prod.mk.inj hfirst).1.symm)

end Resolver

end Pipeline
