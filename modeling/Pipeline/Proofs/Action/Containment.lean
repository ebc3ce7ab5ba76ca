import Pipeline.Proofs.Action.Identifiers
import Pipeline.Proofs.Action.Rereading

/-! Which directories the actions are taken from. The directory of a local action is the workspace
or lies below it, and that of an external one is the directory of its version in the cache or lies
below it, as long as no part of the reference leads out of the directory that it is joined to. -/

namespace Pipeline

namespace Path

variable {root location below place : Location} {list : List String} {name last : String}

/-! ### Ways that stay below their start -/

/-- The place that names lead to below a root, if they never lead above the root on the way. -/
def descend? (below : Location) : List String → Option Location
  | [] => some below
  | name :: rest =>
    if name = ".." then
      if below = [] then none else descend? below.dropLast rest
    else descend? (below ++ [name]) rest

theorem descend?_of_notMem (h : ".." ∉ list) (below : Location) :
    descend? below list = some (below ++ list) := by
  induction list generalizing below with
  | nil => rw [descend?, List.append_nil]
  | cons name rest ih =>
    obtain ⟨hne, hrest⟩ := not_or.mp (List.mem_cons.not.mp h)
    rw [descend?, if_neg (Ne.symm hne), ih hrest, List.append_assoc]
    rfl

theorem foldl_enter_of_descend? (h : descend? below list = some place) (root : Location) :
    list.foldl enter (root ++ below) = root ++ place := by
  induction list generalizing below with
  | nil =>
    cases h
    rfl
  | cons name rest ih =>
    rw [descend?] at h
    split at h
    · next hup =>
      split at h
      · cases h
      · next hne =>
        rw [List.foldl_cons, hup, enter, if_pos rfl, List.dropLast_append_of_ne_nil hne]
        exact ih h
    · next hdown =>
      rw [List.foldl_cons, enter_of_ne hdown, List.append_assoc]
      exact ih h

/-- The last name of the root is none of the names, so that they do not lead into the root from
outside. -/
def Apart (root : Location) (list : List String) : Prop :=
  ∃ last, root.getLast? = some last ∧ last ∉ list

theorem Apart.mono {list' : List String} (h : Apart root list') (hsub : list ⊆ list') :
    Apart root list := by
  obtain ⟨last, hlast, hmem⟩ := h
  exact ⟨last, hlast, fun hlist => hmem (hsub hlist)⟩

theorem not_prefix_foldl_enter (apart : Apart root list) (h : ¬ root <+: location) :
    ¬ root <+: list.foldl enter location := by
  obtain ⟨last, hlast, hmem⟩ := apart
  induction list generalizing location with
  | nil => exact h
  | cons name rest ih =>
    obtain ⟨hne, hrest⟩ := not_or.mp (List.mem_cons.not.mp hmem)
    refine ih (fun hinner => ?_) hrest
    rw [enter] at hinner
    split at hinner
    · exact h (hinner.trans (List.dropLast_prefix location))
    · -- The root could only be entered by its last name.
      obtain hroot | hroot := List.prefix_concat_iff.mp hinner
      · rw [hroot, List.getLast?_concat] at hlast
        exact hne (Option.some.inj hlast).symm
      · exact h hroot

theorem not_prefix_of_descend?_eq_none (apart : Apart root list) (h : descend? below list = none) :
    ¬ root <+: list.foldl enter (root ++ below) := by
  induction list generalizing below with
  | nil => cases h
  | cons name rest ih =>
    have hrest : Apart root rest := apart.mono (List.subset_cons_self name rest)
    rw [descend?] at h
    split at h
    · next hup =>
      split at h
      · next hnil =>
        rw [List.foldl_cons, hup, hnil, List.append_nil]
        refine not_prefix_foldl_enter hrest fun hinner => ?_
        obtain ⟨last, hlast, -⟩ := apart
        have hlength := hinner.length_le
        have hpos := List.length_pos_iff.mpr (List.ne_nil_of_mem (List.mem_of_getLast? hlast))
        rw [length_enter_up] at hlength
        omega
      · next hne =>
        rw [List.foldl_cons, hup, enter, if_pos rfl, List.dropLast_append_of_ne_nil hne]
        exact ih hrest h
    · next hdown =>
      rw [List.foldl_cons, enter_of_ne hdown, List.append_assoc]
      exact ih hrest h

theorem prefix_foldl_enter_iff (apart : Apart root list) (below : Location) :
    root <+: list.foldl enter (root ++ below) ↔ ∃ place, descend? below list = some place := by
  constructor
  · intro hprefix
    cases hplace : descend? below list with
    | none => exact absurd hprefix (not_prefix_of_descend?_eq_none apart hplace)
    | some place => exact ⟨place, rfl⟩
  · rintro ⟨place, hplace⟩
    rw [foldl_enter_of_descend? hplace]
    exact List.prefix_append root place

/-! ### Directories below others -/

variable {here : Location} {directory path : String}

/-- By their spelling, the second path names the place of the first one or one below it. -/
def Within (here : Location) (root path : String) : Prop :=
  settle here root <+: settle here path

instance (here : Location) (root path : String) : Decidable (Within here root path) :=
  inferInstanceAs (Decidable (_ <+: _))

/-- The path starts where it is joined, and never leads above that place. -/
def StaysBelow (path : String) : Prop :=
  isAbsolute path = false ∧ ∃ place, descend? [] (names path) = some place

theorem settle_join_of_isAbsolute (h : isAbsolute path = true) :
    settle here (join directory path) = (names path).foldl enter [] := by
  rw [join, if_pos h, settle, if_pos h]

theorem Apart.not_prefix_nil (apart : Apart root list) : ¬ root <+: [] := by
  obtain ⟨last, hlast, -⟩ := apart
  intro hprefix
  rw [List.prefix_nil.mp hprefix] at hlast
  cases hlast

theorem StaysBelow.within_join (h : StaysBelow path) :
    Within here directory (join directory path) := by
  obtain ⟨hrelative, place, hplace⟩ := h
  have hsettle := foldl_enter_of_descend? hplace (settle here directory)
  rw [List.append_nil] at hsettle
  rw [Within, settle_join here directory hrelative, hsettle]
  exact List.prefix_append _ place

theorem within_join_iff (apart : Apart (settle here directory) (names path)) :
    Within here directory (join directory path) ↔ StaysBelow path := by
  refine ⟨fun hwithin => ?_, StaysBelow.within_join⟩
  cases habsolute : isAbsolute path with
  | true =>
    rw [Within, settle_join_of_isAbsolute habsolute] at hwithin
    exact absurd hwithin (not_prefix_foldl_enter apart apart.not_prefix_nil)
  | false =>
    rw [Within, settle_join here directory habsolute] at hwithin
    have hplace := prefix_foldl_enter_iff apart []
    rw [List.append_nil] at hplace
    exact ⟨habsolute, hplace.mp hwithin⟩

end Path

open Pipeline.Path (Apart Within StaysBelow descend? enter names settle join isAbsolute)

namespace ActionRef

variable {owner repo version text : String} {path : Option String} {reference : ActionRef}
  {here : Location} {root : String}

/-- A version of a repository, as a path below a cache. -/
def versionPath (owner repo version : String) : String :=
  owner ++ "/" ++ repo ++ "/" ++ version

theorem names_versionPath (owner repo version : String) :
    names (versionPath owner repo version) = names owner ++ names repo ++ names version := by
  rw [versionPath, Path.names_append_slash, Path.names_append_slash]

theorem Neat.isAbsolute_versionPath (h : Neat owner repo path version) :
    isAbsolute (versionPath owner repo version) = false := by
  rw [versionPath, String.append_assoc, String.append_assoc, String.append_assoc,
    Path.isAbsolute_append_of_ne h.owner_nonempty]
  exact Path.isAbsolute_of_notMem h.owner_plain

/-- The directories that are joined for a reference lie below each other. For an external action,
its version leads to a place below the cache, and its path from there to one that is not above. -/
def Inward : ActionRef → Prop
  | workspace path => StaysBelow (Resolver.localPath path)
  | external owner repo path version => isAbsolute version = false ∧
      ∃ below place, descend? [] (names (versionPath owner repo version)) = some below ∧
        descend? below (names (path.getD "")) = some place ∧ below <+: place

/-- No part of the reference starts at the root. -/
def IsRelative : ActionRef → Prop
  | workspace path => isAbsolute (Resolver.localPath path) = false
  | external _ _ _ version => isAbsolute version = false

/-- The names of all parts of a reference that are joined to a directory. -/
def allNames : ActionRef → List String
  | workspace path => names (Resolver.localPath path)
  | external owner repo path version =>
    names (versionPath owner repo version) ++ names (path.getD "")

theorem inward_of_notMem (h : reference.IsRelative) (hup : ".." ∉ reference.allNames) :
    reference.Inward := by
  cases reference with
  | workspace path => exact ⟨h, _, Path.descend?_of_notMem hup []⟩
  | external owner repo path version =>
    obtain ⟨hversion, hpath⟩ := not_or.mp (List.mem_append.not.mp hup)
    exact ⟨h, _, _, Path.descend?_of_notMem hversion [], Path.descend?_of_notMem hpath _,
      List.prefix_append _ _⟩

theorem Neat.settle_subdirectory (h : Neat owner repo path version) (here : Location)
    (repository : String) :
    settle here (ActionCache.subdirectory repository path) =
      (names (path.getD "")).foldl enter (settle here repository) := by
  cases path with
  | none => rfl
  | some place =>
    have hrelative : isAbsolute place = false := decide_eq_false_iff_not.mpr (h.path_start rfl)
    exact Path.settle_join here repository hrelative

theorem Neat.settle_repositoryPath (h : Neat owner repo path version)
    (hversion : isAbsolute version = false) (here : Location) (root : String) :
    settle here ((ActionCache.of root).repositoryPath owner repo version) =
      (names (versionPath owner repo version)).foldl enter (settle here root) := by
  rw [ActionCache.repositoryPath, Path.settle_join here _ hversion,
    Path.settle_join here _ (Path.isAbsolute_of_notMem h.repo_plain),
    Path.settle_join here _ (Path.isAbsolute_of_notMem h.owner_plain), names_versionPath,
    List.foldl_append, List.foldl_append]
  rfl

/-- The directory that the parts of a reference are joined to below a cache. -/
def joined (root owner repo : String) (path : Option String) (version : String) : String :=
  ActionCache.subdirectory ((ActionCache.of root).repositoryPath owner repo version) path

/-- The directory of an external action, against that of its version and the cache. -/
structure Cached (here : Location) (root owner repo version directory : String) : Prop where
  version_within : Within here root (join root (versionPath owner repo version))
  within : Within here (join root (versionPath owner repo version)) directory

section Cached

variable (neat : Neat owner repo path version)
include neat

theorem Neat.settle_versionPath (here : Location) (root : String) :
    settle here (join root (versionPath owner repo version)) =
      (names (versionPath owner repo version)).foldl enter (settle here root) :=
  Path.settle_join here root neat.isAbsolute_versionPath

theorem Neat.cached_of_inward (h : (external owner repo path version).Inward) (here : Location)
    (root : String) :
    Cached here root owner repo version (joined root owner repo path version) := by
  obtain ⟨hversion, below, place, hbelow, hplace, hprefix⟩ := h
  have hroot := Path.foldl_enter_of_descend? hbelow (settle here root)
  rw [List.append_nil] at hroot
  constructor
  · rw [Within, neat.settle_versionPath, hroot]
    exact List.prefix_append _ below
  · rw [Within, neat.settle_versionPath, joined, neat.settle_subdirectory,
      neat.settle_repositoryPath hversion, hroot, Path.foldl_enter_of_descend? hplace]
    exact (List.prefix_append_right_inj _).mpr hprefix

theorem Neat.inward_of_cached
    (apart : Apart (settle here root) (external owner repo path version).allNames)
    (h : Cached here root owner repo version (joined root owner repo path version)) :
    (external owner repo path version).Inward := by
  have hversion := h.version_within
  have hwithin := h.within
  have apartVersion : Apart (settle here root) (names (versionPath owner repo version)) :=
    apart.mono (List.subset_append_left _ _)
  have apartPath : Apart (settle here root) (names (path.getD "")) :=
    apart.mono (List.subset_append_right _ _)
  rw [Within, neat.settle_versionPath] at hversion
  rw [Within, neat.settle_versionPath, joined, neat.settle_subdirectory] at hwithin
  cases habsolute : isAbsolute version with
  | true =>
    -- Joining starts at the root again, which is above the cache.
    have hnames : names version ⊆ names (versionPath owner repo version) := by
      rw [names_versionPath]
      exact List.subset_append_right _ _
    rw [ActionCache.repositoryPath, Path.settle_join_of_isAbsolute habsolute] at hwithin
    have hout := Path.not_prefix_foldl_enter (apartVersion.mono hnames) apartVersion.not_prefix_nil
    exact absurd (hversion.trans hwithin) (Path.not_prefix_foldl_enter apartPath hout)
  | false =>
    have hroot := Path.prefix_foldl_enter_iff apartVersion []
    rw [List.append_nil] at hroot
    obtain ⟨below, hbelow⟩ := hroot.mp hversion
    have hplace := Path.foldl_enter_of_descend? hbelow (settle here root)
    rw [List.append_nil] at hplace
    rw [neat.settle_repositoryPath habsolute, hplace] at hwithin
    have hinside := (List.prefix_append (settle here root) below).trans hwithin
    obtain ⟨place, hfound⟩ := (Path.prefix_foldl_enter_iff apartPath below).mp hinside
    rw [Path.foldl_enter_of_descend? hfound] at hwithin
    exact ⟨habsolute, below, place, hbelow, hfound, (List.prefix_append_right_inj _).mp hwithin⟩

end Cached

end ActionRef

/-! ### Fetching one action after the other -/

namespace ActionCache

open ActionRef (Parted parse)

variable {cache : ActionCache} {root : String} {tree : FileTree} {reference : ActionRef}
  {owner repo version directory : String} {path : Option String}

/-- The name under which a reference is fetched. -/
def keyOf (reference : ActionRef) : String :=
  reference.fetchKey?.getD ""

/-- The cache after some fetches, each with the files that are there at its time. -/
def after (cache : ActionCache) (fetches : List (FileTree × ActionRef)) : ActionCache :=
  fetches.foldl (fun cache (tree, reference) => (cache.fetch tree reference (keyOf reference)).2)
    cache

/-- Repositories that were found are known by their own directories. -/
structure Remembers (root : String) (cache : ActionCache) : Prop where
  directory : cache.directory = root
  known {owner repo version found : String} (parted : Parted owner repo version)
    (h : cache.known.get? (owner ++ "/" ++ repo ++ "@" ++ version) = some (some found)) :
    found = (of root).repositoryPath owner repo version

theorem remembers_of (root : String) : Remembers root (of root) where
  directory := rfl
  known _ h := nomatch (show none = some (some _) from h)

theorem Remembers.fetch (remembers : Remembers root cache) (tree : FileTree)
    (sound : reference.Sound) :
    Remembers root (cache.fetch tree reference (keyOf reference)).2 := by
  cases hknown : cache.known.get? (keyOf reference) with
  | some found =>
    simp only [ActionCache.fetch, hknown]
    exact remembers
  | none =>
    cases reference with
    | workspace path =>
      simp only [ActionCache.fetch, hknown]
      exact remembers
    | external owner repo path version =>
      simp only [ActionCache.fetch, hknown]
      refine ⟨remembers.directory, fun {owner' repo' version' found} parted h => ?_⟩
      rw [Dict.get?_insert] at h
      split at h
      · next hkey =>
        obtain ⟨rfl, rfl, rfl⟩ := ActionRef.eq_of_fetchKey parted sound hkey
        split at h
        · rw [← Option.some.inj (Option.some.inj h), repositoryPath, remembers.directory]
          rfl
        · cases h
      · exact remembers.known parted h

theorem Remembers.after (remembers : Remembers root cache) {fetches : List (FileTree × ActionRef)}
    (sound : ∀ fetch ∈ fetches, fetch.2.Sound) : Remembers root (cache.after fetches) := by
  induction fetches generalizing cache with
  | nil => exact remembers
  | cons fetch rest ih =>
    obtain ⟨hfetch, hrest⟩ := List.forall_mem_cons.mp sound
    exact ih (remembers.fetch fetch.1 hfetch) hrest

theorem Remembers.directory_eq (remembers : Remembers root cache)
    (parted : Parted owner repo version)
    (h : (cache.fetch tree (.external owner repo path version)
      (keyOf (.external owner repo path version))).1 = .ok (some directory)) :
    directory = ActionRef.joined root owner repo path version := by
  rw [ActionRef.joined]
  cases hknown : cache.known.get? (keyOf (.external owner repo path version)) with
  | some found =>
    simp only [ActionCache.fetch, hknown] at h
    obtain ⟨repository, rfl, rfl⟩ := Option.map_eq_some_iff.mp (Except.ok.inj h)
    rw [remembers.known parted hknown]
  | none =>
    simp only [ActionCache.fetch, hknown] at h
    obtain ⟨repository, hfound, rfl⟩ := Option.map_eq_some_iff.mp (Except.ok.inj h)
    split at hfound
    · rw [← Option.some.inj hfound, repositoryPath, remembers.directory]
      rfl
    · cases hfound

/-- The cache gives the directory for an external action, whatever was fetched before. -/
def Gives (root : String) (tree : FileTree) (reference : ActionRef) (directory : String) : Prop :=
  ∃ fetches : List (FileTree × ActionRef), (∀ fetch ∈ fetches, ∃ text, parse text = .ok fetch.2) ∧
    (((of root).after fetches).fetch tree reference (keyOf reference)).1 = .ok (some directory)

theorem Gives.directory_eq (h : Gives root tree (.external owner repo path version) directory)
    (parted : Parted owner repo version) :
    directory = ActionRef.joined root owner repo path version := by
  obtain ⟨fetches, hparsed, hfetch⟩ := h
  have sound : ∀ fetch ∈ fetches, fetch.2.Sound := by
    intro fetch hmem
    obtain ⟨text, hparse⟩ := hparsed fetch hmem
    exact ActionRef.sound_of_parse hparse
  exact ((remembers_of root).after sound).directory_eq parted hfetch

end ActionCache

/-! ### Loading a local action -/

/-- The directory that an action was loaded from. -/
def ActionUnit.directory? : ActionUnit → Option String
  | .composite info _ => some info.directory
  | .external action => action.directory

namespace Resolver

variable {resolver : Resolver} {tree : FileTree} {path directory : String}

/-- A local action that has not been looked up before is loaded from the directory. -/
def LoadsFrom (resolver : Resolver) (tree : FileTree) (path directory : String) : Prop :=
  ∃ resolve identifier memory,
    ((resolver.resolveNew tree resolve identifier (.workspace path)).outcome memory).1.toOption.bind
      (·.directory?) = some directory

theorem LoadsFrom.directory_eq (h : resolver.LoadsFrom tree path directory) :
    directory = join resolver.workspace (localPath path) := by
  obtain ⟨resolve, identifier, memory, hanswer⟩ := h
  obtain ⟨action, haction, hdirectory⟩ := Option.bind_eq_some_iff.mp hanswer
  rcases houtcome : (resolver.resolveNew tree resolve identifier (.workspace path)).outcome memory
    with ⟨e | found, after⟩
  · rw [houtcome] at haction
    cases haction
  · rw [houtcome] at haction
    cases haction
    have hgives : (resolver.resolveNew tree resolve identifier (.workspace path)).Gives memory
        action after := houtcome
    obtain ⟨loaded, mid, hloaded, hend⟩ := hgives.bind
    cases loaded with
    | none => cases hend
    | some inner =>
      cases hend
      obtain ⟨manifest, info, steps, -, -, -, hinfo, rfl⟩ := loadDirectory_gives hloaded
      rw [← hinfo]
      exact (Option.some.inj hdirectory).symm

end Resolver

namespace ActionRef

/-- A local action is loaded from the workspace or from a directory below it, and an external action
is given the directory of its version in the cache or one below it, as long as the parts of their
references lead inward, which they do if none is absolute and none has a name `..`. Where the last
name of the workspace, or of the cache, is no name of the reference, no other references do. -/
theorem directories_within (text : String) :
    (∀ path, parse text = .ok (.workspace path) →
      ∀ (resolver : Resolver) tree directory, resolver.LoadsFrom tree path directory →
        ((workspace path).Inward → Within tree.current resolver.workspace directory) ∧
        (Apart (settle tree.current resolver.workspace) (workspace path).allNames →
          Within tree.current resolver.workspace directory → (workspace path).Inward)) ∧
    (∀ owner repo path version, parse text = .ok (.external owner repo path version) →
      ∀ root tree directory,
        ActionCache.Gives root tree (external owner repo path version) directory →
        ((external owner repo path version).Inward →
          Cached tree.current root owner repo version directory) ∧
        (Apart (settle tree.current root) (external owner repo path version).allNames →
          Cached tree.current root owner repo version directory →
            (external owner repo path version).Inward)) ∧
    ∀ reference, parse text = .ok reference → reference.IsRelative → ".." ∉ reference.allNames →
      reference.Inward := by
  refine ⟨?_, ?_, fun reference _ => inward_of_notMem⟩
  · intro path _ resolver tree directory hloads
    rw [hloads.directory_eq]
    exact ⟨StaysBelow.within_join, fun apart => (Path.within_join_iff apart).mp⟩
  · intro owner repo path version hparse root tree directory hgives
    have neat := neat_of_parse hparse
    rw [hgives.directory_eq neat.toParted]
    exact ⟨fun inward => neat.cached_of_inward inward _ root, neat.inward_of_cached⟩

/-- A workspace, a version of a repository beside it, and an action in neither of them. -/
def besides : FileTree :=
  ((FileTree.empty.write ["w", "a", "action.yml"] (Catalog.Sample.manifest "run: 'true'")).write
    ["cache", "o", "r", "v", "b", "action.yml"] (Catalog.Sample.manifest "run: 'true'")).write
      ["etc", "action.yml"] (Catalog.Sample.manifest "run: 'true'")

/-- Paths with names that lead up, though never out of the directory that they are joined to. -/
theorem directories_within_besides :
    parse "./a/../a" = .ok (.workspace "./a/../a") ∧
      (Resolver.mk "/w" 16).LoadsFrom besides "./a/../a" "/w/a/../a" ∧
      Within [] "/w" "/w/a/../a" ∧
      parse "o/r/../v/b@v" = .ok (.external "o" "r" (some "../v/b") "v") ∧
      ActionCache.Gives "/cache" besides (.external "o" "r" (some "../v/b") "v")
        "/cache/o/r/v/../v/b" ∧
      Cached [] "/cache" "o" "r" "v" "/cache/o/r/v/../v/b" := by
  obtain ⟨hlocal, -, -⟩ := directories_within "./a/../a"
  obtain ⟨-, hexternal, -⟩ := directories_within "o/r/../v/b@v"
  have hpath : parse "./a/../a" = .ok (.workspace "./a/../a") := by decide +kernel
  have hloads : (Resolver.mk "/w" 16).LoadsFrom besides "./a/../a" "/w/a/../a" :=
    ⟨(Resolver.mk "/w" 16).resolveAt besides 15 [], "./a/a", ⟨ActionCache.of "/cache", []⟩,
      by decide +kernel⟩
  have hinward : (workspace "./a/../a").Inward :=
    ⟨by decide +kernel, ["a"], by decide +kernel⟩
  have hparse : parse "o/r/../v/b@v" = .ok (.external "o" "r" (some "../v/b") "v") := by
    decide +kernel
  have hgives : ActionCache.Gives "/cache" besides (.external "o" "r" (some "../v/b") "v")
      "/cache/o/r/v/../v/b" := ⟨[], nofun, by decide +kernel⟩
  have hinside : (external "o" "r" (some "../v/b") "v").Inward :=
    ⟨by decide +kernel, ["o", "r", "v"], ["o", "r", "v", "b"], by decide +kernel,
      by decide +kernel, by decide⟩
  exact ⟨hpath, hloads, (hlocal _ hpath _ _ _ hloads).1 hinward, hparse, hgives,
    (hexternal _ _ _ _ hparse _ _ _ hgives).1 hinside⟩

/-- Two slashes after the dot, or one at the front of the version, stand for the root of all files,
and a path inside of a repository may lead to what is above its version. -/
theorem directories_outside :
    parse ".//etc" = .ok (.workspace ".//etc") ∧
      (Resolver.mk "/w" 16).LoadsFrom besides ".//etc" "/etc" ∧ ¬ Within [] "/w" "/etc" ∧
      parse "o/r@/" = .ok (.external "o" "r" none "/") ∧
      ActionCache.Gives "/cache" besides (.external "o" "r" none "/") "/" ∧
      ¬ Within [] "/cache/o/r" "/" ∧
      parse "o/r/..@v" = .ok (.external "o" "r" (some "..") "v") ∧
      ActionCache.Gives "/cache" besides (.external "o" "r" (some "..") "v") "/cache/o/r/v/.." ∧
      ¬ Within [] "/cache/o/r/v" "/cache/o/r/v/.." := by
  have hlocal : (Resolver.mk "/w" 16).LoadsFrom besides ".//etc" "/etc" :=
    ⟨(Resolver.mk "/w" 16).resolveAt besides 15 [], "./etc", ⟨ActionCache.of "/cache", []⟩,
      by decide +kernel⟩
  have hversion : ActionCache.Gives "/cache" besides (.external "o" "r" none "/") "/" :=
    ⟨[], nofun, by decide +kernel⟩
  have hinner : ActionCache.Gives "/cache" besides (.external "o" "r" (some "..") "v")
      "/cache/o/r/v/.." := ⟨[], nofun, by decide +kernel⟩
  refine ⟨by decide +kernel, hlocal, by decide +kernel, by decide +kernel, hversion,
    by decide +kernel, by decide +kernel, hinner, by decide +kernel⟩

end ActionRef

end Pipeline
