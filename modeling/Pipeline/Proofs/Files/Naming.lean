import Pipeline.Files.Discovery
import Pipeline.Proofs.Files.Trees

/-! Which workflow a name selects. The extension that a workflow is looked up by takes the place of
one that the name has already, so that a name with a dot in it may select a workflow of another
name, and may miss the one of its own. -/

namespace Pipeline.Discovery

open Pipeline.Path (IsPlain extend isAbsolute join lastPart names stem)
open FileTree (alone)

variable {tree : FileTree} {argument workspace path : String}

/-- The files of the workflows that have the name. -/
def named (argument workspace : String) : List String :=
  [argument, argument ++ ".yml", argument ++ ".yaml"].map (join (workflowsOf workspace))

/-- A name selects no workflow of another name, and misses none of its own. -/
structure Selects (tree : FileTree) (argument workspace : String) : Prop where
  found {path : String} (h : locate tree argument workspace = .ok path) :
    path ∈ named argument workspace
  missing {e : Error} (h : locate tree argument workspace = .error e) :
    ∀ path ∈ named argument workspace, tree.isFile path = false

theorem named_eq (h : isAbsolute argument = false) (workspace : String) :
    named argument workspace = [join (workflowsOf workspace) argument,
      join (workflowsOf workspace) argument ++ ".yml",
      join (workflowsOf workspace) argument ++ ".yaml"] := by
  have hyml : isAbsolute ".yml" = false := by decide
  have hyaml : isAbsolute ".yaml" = false := by decide
  rw [named, List.map_cons, List.map_cons, List.map_cons, List.map_nil, Path.join_append _ h hyml,
    Path.join_append _ h hyaml]

theorem candidates_of_isPlain (h : isAbsolute argument = false) (hplain : IsPlain argument)
    (workspace : String) : candidates argument workspace = named argument workspace := by
  have hpath : IsPlain (join (workflowsOf workspace) argument) := by
    constructor <;> rw [Path.lastPart_join _ h]
    · exact hplain.ne_nil
    · exact hplain.ne_dot
    · exact hplain.undotted
  rw [named_eq h, candidates, hpath.withExtension, hpath.withExtension, String.append_assoc,
    String.append_assoc]
  rfl

theorem selects_of_isPlain (h : isAbsolute argument = false) (hplain : IsPlain argument)
    (hfile : tree.isFile argument = false) (workspace : String) :
    Selects tree argument workspace := by
  have hlocate :
      locate? tree argument workspace = (named argument workspace).find? tree.isFile := by
    rw [locate?, if_neg (by rw [hfile]; exact Bool.false_ne_true), candidates_of_isPlain h hplain]
  constructor
  · intro path hfound
    rw [locate, hlocate] at hfound
    split at hfound
    · next hsome =>
      cases hfound
      exact List.mem_of_find?_eq_some hsome
    · cases hfound
  · intro e hmissing path hmem
    rw [locate, hlocate] at hmissing
    split at hmissing
    · cases hmissing
    · next hnone => simpa using List.find?_eq_none.mp hnone path hmem

theorem names_candidate (hmem : path ∈ candidates argument workspace) :
    names path = names (join (workflowsOf workspace) argument) ∨
      ∃ outer name, names (join (workflowsOf workspace) argument) = outer ++ [String.ofList name] ∧
        ∃ extension ∈ extensions,
          names path = outer ++ [String.ofList (extend name extension)] := by
  obtain hself | ⟨extension, hextension, rfl⟩ : path = join (workflowsOf workspace) argument ∨
      ∃ extension ∈ extensions,
        path = Path.withExtension (join (workflowsOf workspace) argument) extension := by
    simpa [candidates, extensions] using hmem
  · exact .inl (congrArg names hself)
  · have hspell : ∀ extension ∈ extensions, '/' ∉ extension.toList ∧ extension ≠ "" := by decide
    obtain ⟨hplain, hne⟩ := hspell extension hextension
    obtain hsame | ⟨outer, name, hpath, hnames⟩ := Path.names_withExtension hplain hne
    · exact .inl hsame
    · exact .inr ⟨outer, name, hpath, extension, hextension, hnames⟩

theorem extend_ne {name : List Char} (h : '.' ∈ name.tail) {extension : String}
    (hmem : extension ∈ extensions) : extend name extension ≠ name ++ ".yml".toList := by
  have hundotted : ∀ extension ∈ extensions, '.' ∉ extension.toList := by decide
  obtain ⟨ext, hname⟩ := Path.eq_stem_append h
  intro heq
  have hlong : name ++ ".yml".toList = stem name ++ '.' :: (ext ++ ".yml".toList) := by
    conv_lhs => rw [hname]
    exact List.append_assoc ..
  rw [hlong, extend] at heq
  have htail := List.tail_eq_of_cons_eq (List.append_cancel_left heq)
  refine hundotted extension hmem ?_
  rw [htail]
  exact List.mem_append_right _ (by decide)

theorem names_below (h : isAbsolute argument = false) (workspace : String) : ∃ outer,
    names (join (workflowsOf workspace) argument) =
      outer ++ names (String.ofList (lastPart argument)) ∧
    names (join (workflowsOf workspace) (argument ++ ".yml")) =
      outer ++ [String.ofList (lastPart argument ++ ".yml".toList)] := by
  obtain ⟨front, hfront, hpath⟩ := Path.eq_front_append argument
  have hslash : '/' ∉ lastPart argument ++ ".yml".toList := by
    refine List.mem_append.not.mpr (not_or.mpr ⟨Path.notMem_lastPart argument, by decide⟩)
  have hname : Path.IsName (String.ofList (lastPart argument ++ ".yml".toList)) := by
    refine Path.isName_ofList hslash (by simp) fun heq => ?_
    have hlength := congrArg List.length heq
    simp at hlength
  have hown : argument ++ ".yml" = front ++ String.ofList (lastPart argument ++ ".yml".toList) := by
    conv_lhs => rw [hpath]
    rw [String.append_assoc, String.ofList_append, String.ofList_toList]
  refine ⟨names (workflowsOf workspace) ++ names front, ?_, ?_⟩
  · rw [Path.names_join _ h, List.append_assoc, ← hfront.names_append, ← hpath]
  · rw [Path.names_join _ (Path.isAbsolute_append h (by decide)), hown, hfront.names_append,
      Path.names_of_isName hname, List.append_assoc]

/-- A name that is not plain is not looked up under its own name with the extension. -/
theorem names_candidate_ne (h : isAbsolute argument = false) (hplain : ¬ IsPlain argument)
    (hmem : path ∈ candidates argument workspace) :
    (names path).length ≤ (names (join (workflowsOf workspace) (argument ++ ".yml"))).length ∧
      names path ≠ names (join (workflowsOf workspace) (argument ++ ".yml")) := by
  obtain ⟨outer, hbase, hown⟩ := names_below h workspace
  rw [Path.names_ofList (Path.notMem_lastPart argument)] at hbase
  split at hbase
  · -- The argument ends in no name of its own, so its own file lies deeper than what is looked up.
    have hshort : (names path).length < (outer ++
        [String.ofList (lastPart argument ++ ".yml".toList)]).length := by
      have hlength : (names path).length = outer.length := by
        rw [List.append_nil] at hbase
        obtain hsame | ⟨inner, name, hinner, extension, -, hnames⟩ := names_candidate hmem
        · rw [hsame, hbase]
        · rw [hnames, ← hbase, hinner, List.length_append, List.length_append]
          rfl
      simp [hlength]
    rw [hown]
    exact ⟨hshort.le, fun heq => hshort.ne (congrArg List.length heq)⟩
  · next hname =>
    -- Both are equally deep, and their last names differ: one has a dot more than the other.
    obtain ⟨hnil, hdot⟩ := not_or.mp hname
    have hdotted : '.' ∈ (lastPart argument).tail := by
      by_contra hundotted
      exact hplain ⟨hnil, hdot, hundotted⟩
    obtain ⟨last, hpath, hlast⟩ : ∃ last, names path = outer ++ [String.ofList last] ∧
        last ≠ lastPart argument ++ ".yml".toList := by
      obtain hsame | ⟨inner, name, hinner, extension, hextension, hnames⟩ := names_candidate hmem
      · exact ⟨_, hsame.trans hbase, by simp⟩
      · obtain ⟨rfl, hlast⟩ := List.append_inj' (hinner.symm.trans hbase) rfl
        obtain rfl := String.ofList_injective (List.singleton_inj.mp hlast)
        exact ⟨_, hnames, extend_ne hdotted hextension⟩
    rw [hown, hpath]
    refine ⟨by simp, fun heq => hlast ?_⟩
    exact String.ofList_injective (List.singleton_inj.mp (List.append_cancel_left heq))

theorem length_names_lt (h : isAbsolute argument = false) (workspace : String) :
    (names argument).length < (names (join (workflowsOf workspace) argument)).length := by
  have hdirectory : names (workflowsOf workspace) = names workspace ++ [".github", "workflows"] :=
    Path.names_join workspace (by decide)
  rw [Path.names_join _ h, hdirectory]
  simp
  omega

theorem not_selects (h : isAbsolute argument = false) (hplain : ¬ IsPlain argument)
    (hup : ".." ∉ names (join (workflowsOf workspace) (argument ++ ".yml"))) :
    ∃ tree : FileTree, tree.isFile argument = false ∧ ¬ Selects tree argument workspace := by
  generalize hpath : join (workflowsOf workspace) (argument ++ ".yml") = path at hup
  have hown : path ∈ named argument workspace := by
    rw [← hpath, named]
    simp
  have hfile : (alone (names path)).isFile path = true := by
    obtain ⟨outer, -, hnames⟩ := names_below h workspace
    refine FileTree.isFile_alone ?_ hup ?_
    · rw [← hpath, hnames]
      exact List.concat_ne_nil _ _
    · rw [← hpath, Path.join_append _ h (by decide)]
      simp [FileTree.asksDirectory]
  -- The tree holds nothing but the file that has the name, and the name is looked up elsewhere.
  have hnone : ∀ other ∈ candidates argument workspace,
      (alone (names path)).isFile other = false := by
    intro other hmem
    obtain ⟨hlength, hne⟩ := names_candidate_ne h hplain hmem
    rw [hpath] at hlength hne
    exact FileTree.not_isFile_alone hlength hne
  have hargument : (alone (names path)).isFile argument = false := by
    obtain ⟨hlength, -⟩ := names_candidate_ne h hplain (List.mem_cons_self (l := _))
    rw [hpath] at hlength
    have hshorter : (names argument).length < (names path).length :=
      (length_names_lt h workspace).trans_le hlength
    exact FileTree.not_isFile_alone hshorter.le fun heq => hshorter.ne (congrArg List.length heq)
  refine ⟨alone (names path), hargument, fun selects => ?_⟩
  have hmissing : locate? (alone (names path)) argument workspace = none := by
    rw [locate?, if_neg (by simp [hargument])]
    exact List.find?_eq_none.mpr fun other hmem => by simp [hnone other hmem]
  have hfound := selects.missing (by rw [locate, hmissing]) path hown
  rw [hfile] at hfound
  cases hfound

/-- A relative argument that is no file itself selects a workflow of its own name, if there is one,
and no other, as long as the last name in it has no dot but at its front. Every other argument
misses the workflow of its own name in some tree, if the way to it does not lead up. -/
theorem selects_by_name (argument : String) (h : isAbsolute argument = false) :
    (IsPlain argument → ∀ tree workspace, FileTree.isFile tree argument = false →
      Selects tree argument workspace) ∧
    (¬ IsPlain argument → ∀ workspace,
      ".." ∉ names (join (workflowsOf workspace) (argument ++ ".yml")) →
        ∃ tree, FileTree.isFile tree argument = false ∧ ¬ Selects tree argument workspace) :=
  ⟨fun hplain _ workspace hfile => selects_of_isPlain h hplain hfile workspace,
    fun hplain _ hup => not_selects h hplain hup⟩

/-- A workflow whose name has a dot in it, and another one. -/
def dotted : FileTree :=
  (FileTree.empty.write ["w", ".github", "workflows", "b.x.yml"] .empty).write
    ["w", ".github", "workflows", "v2.d", ".ci.yaml"] .empty

theorem selects_by_name_dotted :
    Selects dotted "v2.d/.ci" "/w" ∧
      locate dotted "v2.d/.ci" "/w" = .ok "/w/.github/workflows/v2.d/.ci.yaml" ∧
      ∃ tree, FileTree.isFile tree "b.x" = false ∧ ¬ Selects tree "b.x" "/w" := by
  obtain ⟨hselects, -⟩ := selects_by_name "v2.d/.ci" (by decide)
  obtain ⟨-, hmisses⟩ := selects_by_name "b.x" (by decide)
  have hplain : IsPlain "v2.d/.ci" := ⟨by decide +kernel, by decide +kernel, by decide +kernel⟩
  have hdot : ¬ IsPlain "b.x" := fun h => absurd h.undotted (by decide +kernel)
  exact ⟨hselects hplain _ _ (by decide +kernel), by decide +kernel,
    hmisses hdot _ (by decide +kernel)⟩

/-- The workflow `b.x` is missed, and the name `b.prod` selects the workflow `b`. -/
theorem selects_another :
    dotted.isFile "b.x" = false ∧ dotted.isFile "/w/.github/workflows/b.x.yml" = true ∧
      "/w/.github/workflows/b.x.yml" ∈ named "b.x" "/w" ∧
      locate dotted "b.x" "/w" =
        .error (.config (.noWorkflow "b.x" "/w/.github/workflows")) ∧
      (dotted.write ["w", ".github", "workflows", "b.yml"] .empty).isFile "b.prod" = false ∧
      locate (dotted.write ["w", ".github", "workflows", "b.yml"] .empty) "b.prod" "/w" =
        .ok "/w/.github/workflows/b.yml" ∧
      "/w/.github/workflows/b.yml" ∉ named "b.prod" "/w" := by
  decide +kernel

end Pipeline.Discovery
