import Pipeline.Proofs.Files.Paths

/-! What stands at the places of a tree after a file is written, and which paths lead there. -/

namespace Pipeline.FileTree

open Pipeline.Path (enter names settle)

variable {tree : FileTree} {here place location : Location} {list : List String} {path : String}

theorem entry_of_ne_nil (h : place ≠ []) (tree : FileTree) :
    tree.entry? place = tree.entries.lookup place :=
  if_neg (by simpa using h)

theorem entry_put (h : place ≠ []) (tree : FileTree) (location : Location) (entry : FileEntry) :
    entry? (tree.put location entry) place =
      if place = location then some entry else tree.entry? place := by
  have hlookup : (tree.entries.filter (·.1 != location)).lookup place =
      if place = location then none else tree.entries.lookup place := by
    induction tree.entries with
    | nil => simp
    | cons first rest ih => grind
  rw [entry_of_ne_nil h, entry_of_ne_nil h, put, List.lookup_cons, hlookup]
  by_cases heq : place = location
  · simp [heq]
  · rw [beq_eq_false_iff_ne.mpr heq, if_neg heq, if_neg heq]

theorem mem_ancestors : place ∈ Location.ancestors location ↔ place <+: location := by
  rw [Location.ancestors, List.mem_map]
  constructor
  · rintro ⟨n, -, rfl⟩
    exact List.take_prefix n location
  · intro h
    have hlength := Nat.lt_succ_of_le h.length_le
    exact ⟨place.length, List.mem_reverse.mpr (List.mem_range.mpr hlength),
      (List.prefix_iff_eq_take.mp h).symm⟩

theorem entry_ensure (tree : FileTree) (location place : Location) :
    entry? (if (tree.entry? location).isSome then tree else tree.put location .directory) place =
      (tree.entry? place).or (if place = location then some .directory else none) := by
  by_cases hnil : place = []
  · rw [hnil]
    rfl
  · by_cases heq : place = location
    · subst heq
      rw [if_pos rfl]
      cases hentry : tree.entry? place with
      | none =>
        rw [if_neg (by simp), entry_put hnil, if_pos rfl]
        rfl
      | some entry =>
        rw [if_pos (by simp), hentry]
        rfl
    · rw [if_neg heq, Option.or_none]
      split
      · rfl
      · rw [entry_put hnil, if_neg heq]

theorem entry_makeDirectories (tree : FileTree) (location place : Location) :
    entry? (tree.makeDirectories location) place =
      (tree.entry? place).or (if place <+: location then some .directory else none) := by
  simp only [makeDirectories, ← mem_ancestors]
  induction location.ancestors with
  | nil => simp
  | cons first rest ih =>
    rw [List.foldr_cons, entry_ensure, ih, Option.or_assoc]
    congr 1
    by_cases hmem : place ∈ rest <;> simp [hmem]

theorem current_makeDirectories (tree : FileTree) (location : Location) :
    (tree.makeDirectories location).current = tree.current := by
  rw [makeDirectories]
  induction location.ancestors with
  | nil => rfl
  | cons first rest ih =>
    rw [List.foldr_cons]
    split
    · exact ih
    · exact ih

theorem isFile_iff : tree.isFile path = true ↔
    ∃ place content, tree.locate? path = some place ∧ tree.entry? place = some (.file content) ∧
      asksDirectory path = false := by
  unfold isFile find?
  cases tree.locate? path with
  | none => simp
  | some place =>
    cases hentry : tree.entry? place with
    | none => simp [hentry]
    | some entry =>
      cases entry with
      | directory => simp [hentry]
      | file content => cases hasks : asksDirectory path <;> simp [hentry]

theorem foldl_enter_of_follow (h : tree.follow here list = some place) :
    list.foldl enter here = place := by
  induction list generalizing here with
  | nil => exact Option.some.inj h
  | cons name rest ih =>
    rw [follow] at h
    split at h
    · rw [List.foldl_cons, enter]
      split at h
      · next hup =>
        rw [if_pos hup]
        exact ih h
      · next hdown =>
        rw [if_neg hdown]
        exact ih h
    · cases h

theorem follow_of_directories (hup : ".." ∉ list)
    (h : ∀ front back, back ≠ [] → front ++ back = here ++ list → tree.isDirectoryAt front = true) :
    tree.follow here list = some (here ++ list) := by
  induction list generalizing here with
  | nil => rw [follow, List.append_nil]
  | cons name rest ih =>
    obtain ⟨hne, hrest⟩ := not_or.mp (List.mem_cons.not.mp hup)
    rw [follow, if_pos (h here (name :: rest) (List.cons_ne_nil _ _) rfl), if_neg (Ne.symm hne)]
    have happend : here ++ name :: rest = here ++ [name] ++ rest := List.append_cons ..
    rw [happend] at h ⊢
    exact ih hrest h

/-- The tree of a single file. -/
def alone (location : Location) : FileTree :=
  empty.write location .empty

theorem current_alone (location : Location) : (alone location).current = [] :=
  current_makeDirectories empty location.dropLast

theorem entry_alone (h : place ≠ []) (location : Location) :
    entry? (alone location) place =
      if place = location then some (.file .empty)
      else if place <+: location.dropLast then some .directory else none := by
  have hnone : empty.entry? place = none := by
    rw [entry_of_ne_nil h]
    rfl
  rw [alone, write, entry_put h, entry_makeDirectories, hnone, Option.none_or]

theorem isDirectoryAt_alone {front back : Location} (h : back ≠ []) :
    (alone (front ++ back)).isDirectoryAt front = true := by
  by_cases hnil : front = []
  · rw [hnil]
    rfl
  · have hne : front ≠ front ++ back := by simpa using h
    have hprefix : front <+: (front ++ back).dropLast := by
      rw [List.dropLast_append_of_ne_nil h]
      exact List.prefix_append _ _
    rw [isDirectoryAt, entry_alone hnil, if_neg hne, if_pos hprefix]

theorem settle_of_isFile_alone (h : (alone location).isFile path = true) :
    settle [] path = location := by
  obtain ⟨place, content, hlocate, hentry, -⟩ := isFile_iff.mp h
  have hplace : place = location := by
    by_cases hnil : place = []
    · rw [hnil] at hentry
      cases hentry
    · rw [entry_alone hnil] at hentry
      split at hentry
      · assumption
      · split at hentry <;> cases hentry
  unfold locate? at hlocate
  split at hlocate
  · cases hlocate
  · rw [current_alone] at hlocate
    rw [settle, ← hplace]
    exact foldl_enter_of_follow hlocate

/-- A path that has no more names than lead to the file has to have all of them. -/
theorem not_isFile_alone (hlength : (names path).length ≤ location.length)
    (hne : names path ≠ location) : (alone location).isFile path = false := by
  by_contra hfile
  have hsettle := settle_of_isFile_alone (eq_true_of_ne_false hfile)
  rw [← hsettle] at hlength hne
  exact hne (Path.settle_eq_names hlength).symm

theorem isFile_alone (hne : names path ≠ []) (hup : ".." ∉ names path)
    (hasks : asksDirectory path = false) : (alone (names path)).isFile path = true := by
  have hpath : path ≠ "" := by
    rintro rfl
    exact hne rfl
  have hfollow : (alone (names path)).follow [] (names path) = some (names path) := by
    refine follow_of_directories hup fun front back hback heq => ?_
    rw [← List.nil_append (names path), ← heq]
    exact isDirectoryAt_alone hback
  refine isFile_iff.mpr ⟨names path, .empty, ?_, by rw [entry_alone hne, if_pos rfl], hasks⟩
  rw [locate?, if_neg hpath, current_alone, ite_self]
  exact hfollow

end Pipeline.FileTree
