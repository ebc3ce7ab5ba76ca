import Mathlib.Data.List.DropRight
import Pipeline.Proofs.Action.References
import Pipeline.Proofs.Text.Trimming

/-! The text of a reference is read again as that reference, unless it is the path of a local action
that ends in a blank: in the text that was read first, slashes stood behind the blank. -/

namespace Pipeline.ActionRef

open Text (isBlank trimChars)

variable {place owner repo version text : String} {path : Option String} {cs : List Char}
  {reference : ActionRef}

/-! ### Slashes at the end -/

theorem dropLastSlashes_prefix (cs : List Char) : dropLastSlashes cs <+: cs :=
  List.rdropWhile_prefix _ cs

theorem getLast?_dropLastSlashes (cs : List Char) : (dropLastSlashes cs).getLast? ≠ some '/' := by
  intro h
  have hne : dropLastSlashes cs ≠ [] := by
    intro hnil
    rw [hnil] at h
    cases h
  have hlast : ¬ decide ((dropLastSlashes cs).getLast hne = '/') = true :=
    List.rdropWhile_last_not _ cs hne
  rw [List.getLast?_eq_getLast_of_ne_nil hne] at h
  exact hlast (decide_eq_true (Option.some.inj h))

theorem dropLastSlashes_of_getLast? (h : cs.getLast? ≠ some '/') : dropLastSlashes cs = cs := by
  refine List.rdropWhile_eq_self_iff.mpr fun hne hslash => h ?_
  rw [List.getLast?_eq_getLast_of_ne_nil hne, of_decide_eq_true hslash]

/-! ### Places in the workspace -/

/-- The reference does not end in a blank, which would be cut from its text. -/
def EndsPlain : ActionRef → Prop
  | workspace path => path.toList.getLast?.any isBlank = false
  | external .. => True

instance : DecidablePred EndsPlain
  | workspace _ => inferInstanceAs (Decidable (_ = _))
  | external .. => inferInstanceAs (Decidable True)

/-- The characters are those of a place in the workspace. -/
def IsLocal (cs : List Char) : Prop :=
  ['.', '/'] <+: cs ∨ cs = ['.']

theorem IsLocal.head (h : IsLocal cs) : ∃ rest, cs = '.' :: rest := by
  obtain ⟨rest, rfl⟩ | rfl := h
  · exact ⟨'/' :: rest, rfl⟩
  · exact ⟨[], rfl⟩

theorem parse_of_isLocal (h : IsLocal (trimChars text.toList)) :
    parse text = .ok (.workspace (String.ofList (dropLastSlashes (trimChars text.toList)))) := by
  obtain ⟨rest, hrest⟩ := h.head
  have hlocal : (['.', '/'].isPrefixOf (trimChars text.toList) ||
      decide (trimChars text.toList = ['.'])) = true := by
    rw [Bool.or_eq_true, List.isPrefixOf_iff_prefix, decide_eq_true_eq]
    exact h
  have hcontainer : containerMark.isPrefixOf (trimChars text.toList) = false := by
    rw [hrest]
    rfl
  rw [parse, if_neg (by simp [hrest]), hcontainer, if_neg Bool.false_ne_true, if_pos hlocal]

theorem IsLocal.dropLastSlashes (h : IsLocal cs) : IsLocal (dropLastSlashes cs) := by
  have hprefix := dropLastSlashes_prefix cs
  obtain ⟨rest, hrest⟩ | rfl := h
  · match hpath : ActionRef.dropLastSlashes cs with
    | [] =>
      have hslashes := List.rdropWhile_eq_nil_iff.mp hpath '.' (by simp [← hrest])
      cases hslashes
    | [c] =>
      rw [hpath, ← hrest] at hprefix
      obtain ⟨rfl, -⟩ := List.cons_prefix_cons.mp hprefix
      exact .inr rfl
    | c :: d :: others =>
      rw [hpath, ← hrest] at hprefix
      obtain ⟨rfl, hbehind⟩ := List.cons_prefix_cons.mp hprefix
      obtain ⟨rfl, -⟩ := List.cons_prefix_cons.mp hbehind
      exact .inl ⟨others, rfl⟩
  · exact .inr (by decide)

theorem trimChars_of_eq_dropLastSlashes (h : cs = dropLastSlashes (trimChars cs)) :
    trimChars cs = cs := by
  have hwhole : cs <+: trimChars cs := by
    have hslashes := dropLastSlashes_prefix (trimChars cs)
    rwa [← h] at hslashes
  exact (hwhole.eq_of_length_le (Text.length_trimChars_le cs)).symm

/-- A path that was read is read again unless it ends in a blank. -/
theorem parse_workspace_iff (h : parse text = .ok (.workspace place)) :
    parse place = .ok (.workspace place) ↔ (ActionRef.workspace place).EndsPlain := by
  obtain ⟨hlocal, hplace⟩ | ⟨-, location, version, -, -, hlocation⟩ := parse_ok h
  · have hslash := getLast?_dropLastSlashes (trimChars text.toList)
    have hlocal := IsLocal.dropLastSlashes hlocal
    have hpath : place.toList = dropLastSlashes (trimChars text.toList) := by
      rw [ActionRef.workspace.inj hplace, String.toList_ofList]
    rw [← hpath] at hslash hlocal
    constructor
    · intro hread
      obtain ⟨-, hagain⟩ | ⟨-, location, version, -, -, hlocation⟩ := parse_ok hread
      · have hpath : place.toList = dropLastSlashes (trimChars place.toList) := by
          simpa using congrArg String.toList (ActionRef.workspace.inj hagain)
        have htrim := trimChars_of_eq_dropLastSlashes hpath
        rw [EndsPlain, Option.any_eq_false]
        intro c hc
        rw [← htrim] at hc
        simpa using Text.isBlank_of_getLast?_trimChars hc
      · obtain ⟨owner, repo, rest, -, -, -, -, -, -, heq⟩ := ofLocation_ok hlocation
        cases heq
    · intro hend
      have htrim : trimChars place.toList = place.toList := by
        refine Text.trimChars_of_ends (fun c hc => ?_) fun c hc => ?_
        · obtain ⟨rest, hrest⟩ := hlocal.head
          rw [hrest] at hc
          cases hc
          decide
        · rw [EndsPlain, hc] at hend
          exact hend
      have hagain : parse place = _ := parse_of_isLocal (by rwa [htrim])
      rw [hagain, htrim, dropLastSlashes_of_getLast? hslash, String.ofList_toList]
  · obtain ⟨owner, repo, rest, -, -, -, -, -, -, heq⟩ := ofLocation_ok hlocation
    cases heq

/-! ### Actions of other repositories -/

/-- The parts of a reference to an action of another repository, as they are read. -/
structure Neat (owner repo : String) (path : Option String) (version : String) : Prop
    extends Parted owner repo version where
  owner_nonempty : owner ≠ ""
  repo_nonempty : repo ≠ ""
  version_nonempty : version ≠ ""
  owner_start {c : Char} (h : owner.toList.head? = some c) : isBlank c = false
  version_end {c : Char} (h : version.toList.getLast? = some c) : isBlank c = false
  path_nonempty {place : String} (h : path = some place) : place ≠ ""
  path_start {place : String} (h : path = some place) : place.toList.head? ≠ some '/'
  path_end {place : String} (h : path = some place) : place.toList.getLast? ≠ some '/'

theorem innerPath_eq_some {rest : Option (List Char)} (h : innerPath rest = some place) :
    place ≠ "" ∧ place.toList.head? ≠ some '/' ∧ place.toList.getLast? ≠ some '/' := by
  unfold innerPath at h
  dsimp only at h
  split at h
  · cases h
  · next hne =>
    obtain rfl := Option.some.inj h
    rw [List.isEmpty_iff] at hne
    have hstart := List.head?_dropWhile_not (fun c : Char => decide (c = '/')) (rest.getD [])
    obtain ⟨slashes, hslashes⟩ := dropLastSlashes_prefix ((rest.getD []).dropWhile (· = '/'))
    rw [← hslashes] at hstart
    refine ⟨by simpa using hne, ?_, ?_⟩
    · rw [String.toList_ofList]
      intro hslash
      rw [List.head?_append, hslash] at hstart
      cases hstart
    · rw [String.toList_ofList]
      exact getLast?_dropLastSlashes _

theorem neat_of_parse (h : parse text = .ok (.external owner repo path version)) :
    Neat owner repo path version := by
  have parted : Parted owner repo version := sound_of_parse h
  obtain ⟨-, heq⟩ | ⟨-, location, behind, -, htext, hlocation⟩ := parse_ok h
  · cases heq
  · obtain ⟨first, second, rest, rfl, -, -, howner, hrepo, hversion, heq⟩ := ofLocation_ok hlocation
    obtain ⟨rfl, rfl, rfl, rfl⟩ := ActionRef.external.inj heq
    constructor
    · exact parted
    · simpa using howner
    · simpa using hrepo
    · simpa using hversion
    · intro c hc
      have hhead : (trimChars text.toList).head? = some c := by
        rw [String.toList_ofList] at hc
        simp [htext, hc]
      exact Text.isBlank_of_head?_trimChars hhead
    · intro c hc
      have hlast : (trimChars text.toList).getLast? = some c := by
        rw [String.toList_ofList] at hc
        rw [htext, List.getLast?_append, List.getLast?_cons, hc]
        rfl
      exact Text.isBlank_of_getLast?_trimChars hlast
    · exact fun hpath => (innerPath_eq_some hpath).1
    · exact fun hpath => (innerPath_eq_some hpath).2.1
    · exact fun hpath => (innerPath_eq_some hpath).2.2

theorem Neat.innerPath_eq (h : Neat owner repo path version) :
    innerPath (path.map String.toList) = path := by
  cases path with
  | none => rfl
  | some place =>
    have hdrop : place.toList.dropWhile (· = '/') = place.toList := by
      cases hcs : place.toList with
      | nil => rfl
      | cons c rest =>
        have hstart := h.path_start rfl
        rw [hcs, List.head?_cons] at hstart
        exact List.dropWhile_cons_of_neg (by simpa using hstart)
    have hne : place.toList ≠ [] := by simpa using h.path_nonempty rfl
    simp [innerPath, hdrop, dropLastSlashes_of_getLast? (h.path_end rfl), hne]

theorem Neat.ofLocation_eq (h : Neat owner repo path version) :
    ofLocation text (owner.toList ++ '/' :: (within repo path).toList) version.toList =
      .ok (.external owner repo path version) := by
  have howner : owner.toList ≠ [] := by simpa using h.owner_nonempty
  have hrepo : repo.toList ≠ [] := by simpa using h.repo_nonempty
  rw [ofLocation, if_neg (by simpa using h.version_nonempty), splitAtFirst_append _ h.owner_plain]
  dsimp only
  rw [Option.getD_some, splitAtFirst_within path h.repo_plain]
  dsimp only
  rw [if_neg (by simp [howner, hrepo])]
  show Except.ok (external _ _ (innerPath (path.map String.toList)) _) = _
  rw [h.innerPath_eq, String.ofList_toList, String.ofList_toList, String.ofList_toList]

/-- The text of a reference that was read is read again. -/
theorem Neat.parse_render (h : Neat owner repo path version) :
    parse (external owner repo path version).render = .ok (.external owner repo path version) := by
  have hspell : (external owner repo path version).render.toList =
      (owner.toList ++ '/' :: (within repo path).toList) ++ '@' :: version.toList := by
    simp [render_external]
  have hcut : splitAtFirst '/' (external owner repo path version).render.toList =
      (owner.toList, some ((within repo path).toList ++ '@' :: version.toList)) := by
    rw [hspell, List.append_assoc]
    exact splitAtFirst_append _ h.owner_plain
  have howner : owner.toList ≠ [] := by simpa using h.owner_nonempty
  have hversion : version.toList ≠ [] := by simpa using h.version_nonempty
  have htrim : trimChars (external owner repo path version).render.toList =
      (external owner repo path version).render.toList := by
    refine Text.trimChars_of_ends (fun c hc => h.owner_start ?_) fun c hc => h.version_end ?_
    · rw [hspell, List.append_assoc, List.head?_append_of_ne_nil _ howner] at hc
      exact hc
    · rw [hspell, List.getLast?_append_of_ne_nil _ (List.cons_ne_nil _ _),
        List.getLast?_cons_of_ne_nil hversion] at hc
      exact hc
  have hcontainer : ¬ containerMark <+: (external owner repo path version).render.toList := by
    rintro ⟨rest, hrest⟩
    have hmark : containerMark = "docker:".toList ++ ['/', '/'] := by decide
    have hsame : containerMark ++ rest = "docker:".toList ++ '/' :: '/' :: rest := by
      rw [hmark, List.append_assoc]
      rfl
    rw [← hrest, hsame, splitAtFirst_append _ (by decide)] at hcut
    -- Two slashes in a row would leave no name between them for the repository.
    have hbehind := congrArg List.head? (Option.some.inj (Prod.mk.inj hcut).2)
    have hrepo : repo.toList ≠ [] := by simpa using h.repo_nonempty
    have hwithin : (within repo path).toList.head? = repo.toList.head? := by
      cases path with
      | none => rfl
      | some place => simp [within, List.head?_append_of_ne_nil _ hrepo]
    have hne : (within repo path).toList ≠ [] := by
      intro hnil
      rw [hnil] at hwithin
      exact hrepo (List.head?_eq_none_iff.mp hwithin.symm)
    rw [List.head?_append_of_ne_nil _ hne, hwithin] at hbehind
    exact h.repo_plain (List.mem_of_head? hbehind.symm)
  have hlocal : ¬ IsLocal (external owner repo path version).render.toList := by
    rintro (⟨rest, hrest⟩ | hdot)
    · have hsame : ['.', '/'] ++ rest = ['.'] ++ '/' :: rest := rfl
      rw [← hrest, hsame, splitAtFirst_append _ (by decide)] at hcut
      exact h.owner_ne (String.toList_inj.mp (Prod.mk.inj hcut).1.symm)
    · rw [hdot, splitAtFirst_of_notMem (by decide)] at hcut
      cases (Prod.mk.inj hcut).2
  rw [parse, htrim, if_neg (by simp [hspell]), if_neg (by rwa [List.isPrefixOf_iff_prefix]),
    if_neg (by rwa [Bool.or_eq_true, List.isPrefixOf_iff_prefix, decide_eq_true_eq]), hspell,
    splitAtLast_append h.version_plain]
  exact h.ofLocation_eq

/-! ### All references -/

/-- The text of a reference that was read is read as that reference exactly if it does not end in a
blank, which only the path of a local action can. The key of an external action tells its owner,
its repository and its version. -/
theorem render_read_back (text : String) :
    (∀ reference, parse text = .ok reference →
      (parse reference.render = .ok reference ↔ reference.EndsPlain)) ∧
    ∀ text' owner repo path version owner' repo' path' version',
      parse text = .ok (.external owner repo path version) →
      parse text' = .ok (.external owner' repo' path' version') →
      (external owner repo path version).fetchKey? =
          (external owner' repo' path' version').fetchKey? →
        owner = owner' ∧ repo = repo' ∧ version = version' := by
  refine ⟨fun reference h => ?_, ?_⟩
  · cases reference with
    | workspace place => exact parse_workspace_iff h
    | external owner repo path version =>
      exact iff_of_true (neat_of_parse h).parse_render trivial
  · intro text' owner repo path version owner' repo' path' version' h h' hkey
    have parted : Parted owner repo version := sound_of_parse h
    have parted' : Parted owner' repo' version' := sound_of_parse h'
    exact eq_of_fetchKey parted parted' (Option.some.inj hkey)

/-- Slashes at the end and in the middle, and blanks and marks inside of the parts. -/
theorem render_read_back_sample :
    parse " ./a b//" = .ok (.workspace "./a b") ∧ parse "./a b" = .ok (.workspace "./a b") ∧
      parse "o/r@1//d /@v/1 " = .ok (.external "o" "r@1" (some "d ") "v/1") ∧
      parse "o/r@1/d @v/1" = .ok (.external "o" "r@1" (some "d ") "v/1") ∧
      (external "o" "r@1" (some "d ") "v/1").fetchKey? ≠ (external "o" "r" none "1").fetchKey? := by
  have hlocal : parse " ./a b//" = .ok (.workspace "./a b") := by decide +kernel
  have hinner : parse "o/r@1//d /@v/1 " = .ok (.external "o" "r@1" (some "d ") "v/1") := by
    decide +kernel
  have hwhole : parse "o/r@1" = .ok (.external "o" "r" none "1") := by decide +kernel
  obtain ⟨hread, -⟩ := render_read_back " ./a b//"
  obtain ⟨hinnerRead, hkey⟩ := render_read_back "o/r@1//d /@v/1 "
  refine ⟨hlocal, (hread _ hlocal).mpr (by decide), hinner, (hinnerRead _ hinner).mpr trivial, ?_⟩
  intro heq
  exact absurd (hkey _ _ _ _ _ _ _ _ _ hinner hwhole heq).2.2 (by decide)

/-- What is left of a text without the slashes at its end is read as another reference. -/
theorem render_read_shorter :
    ∃ reference, parse "./a /" = .ok reference ∧ parse reference.render ≠ .ok reference :=
  ⟨.workspace "./a ", by decide +kernel, by decide +kernel⟩

end Pipeline.ActionRef
