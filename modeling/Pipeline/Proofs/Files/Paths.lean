import Mathlib.Data.List.Basic
import Mathlib.Data.List.TakeWhile
import Pipeline.Files.Tree

/-! What the names of a path are, how they lead from one place to another, and what becomes of them
when the extension of the path is replaced. -/

namespace Pipeline.Path

/-! ### Names between slashes -/

theorem splitSlashes_ne_nil (cs : List Char) : splitSlashes cs ≠ [] := by
  cases cs with
  | nil => nofun
  | cons c rest => grind [splitSlashes]

theorem splitSlashes_append (front back : List Char) :
    splitSlashes (front ++ '/' :: back) = splitSlashes front ++ splitSlashes back := by
  induction front with
  | nil =>
    obtain ⟨part, parts, hparts⟩ := List.exists_cons_of_ne_nil (splitSlashes_ne_nil back)
    simp [splitSlashes, hparts]
  | cons c rest ih =>
    obtain ⟨part, parts, hparts⟩ := List.exists_cons_of_ne_nil (splitSlashes_ne_nil rest)
    simp only [List.cons_append, splitSlashes, ih, hparts]
    split <;> rfl

theorem names_append_slash (front back : String) :
    names (front ++ "/" ++ back) = names front ++ names back := by
  simp [names, splitSlashes_append]

theorem names_slash (front : String) : names (front ++ "/") = names front := by
  have hempty : names (front ++ "/" ++ "") = names front ++ [] := names_append_slash front ""
  rwa [String.append_empty, List.append_nil] at hempty

variable {here location : Location} {directory path name : String} {list : List String}

/-- A name that stands for itself in a path. -/
structure IsName (name : String) : Prop where
  ne_empty : name ≠ ""
  ne_dot : name ≠ "."
  plain : '/' ∉ name.toList

theorem notMem_of_mem_splitSlashes {cs part : List Char} (h : part ∈ splitSlashes cs) :
    '/' ∉ part := by
  induction cs generalizing part with
  | nil =>
    rw [List.mem_singleton.mp h]
    exact List.not_mem_nil
  | cons c rest ih =>
    obtain ⟨first, others, hparts⟩ := List.exists_cons_of_ne_nil (splitSlashes_ne_nil rest)
    rw [splitSlashes, hparts] at h
    dsimp only at h
    split at h
    · obtain rfl | h := List.mem_cons.mp h
      · exact List.not_mem_nil
      · exact ih (hparts ▸ h)
    · next hne =>
      obtain rfl | h := List.mem_cons.mp h
      · have hfirst : '/' ∉ first := ih (hparts ▸ List.mem_cons_self)
        exact List.mem_cons.not.mpr (not_or.mpr ⟨Ne.symm hne, hfirst⟩)
      · exact ih (hparts ▸ List.mem_cons_of_mem _ h)

theorem isName_ofList {part : List Char} (hplain : '/' ∉ part) (hne : part ≠ [])
    (hdot : part ≠ ['.']) :
    IsName (String.ofList part) where
  ne_empty heq := hne (by simpa using congrArg String.toList heq)
  ne_dot heq := hdot (by simpa using congrArg String.toList heq)
  plain := by rwa [String.toList_ofList]

theorem isName_of_mem_names (h : name ∈ names path) : IsName name := by
  obtain ⟨part, hpart, rfl⟩ := List.mem_map.mp h
  obtain ⟨hmem, hne⟩ := List.mem_filter.mp hpart
  rw [Bool.and_eq_true, decide_eq_true_eq, decide_eq_true_eq] at hne
  exact isName_ofList (notMem_of_mem_splitSlashes hmem) hne.1 hne.2

theorem splitSlashes_of_notMem {cs : List Char} (h : '/' ∉ cs) : splitSlashes cs = [cs] := by
  induction cs with
  | nil => rfl
  | cons c rest ih =>
    obtain ⟨hne, hrest⟩ := not_or.mp (List.mem_cons.not.mp h)
    rw [splitSlashes, ih hrest]
    exact if_neg (Ne.symm hne)

theorem names_of_isName (h : IsName name) : names name = [name] := by
  have hempty : name.toList ≠ [] := by simpa using h.ne_empty
  have hdot : name.toList ≠ ['.'] := fun heq => h.ne_dot (String.toList_inj.mp heq)
  rw [names, splitSlashes_of_notMem h.plain, List.filter_cons_of_pos (by simp [hempty, hdot])]
  simp

/-- Names with slashes between them are read again. -/
theorem names_intercalate (h : ∀ name ∈ list, IsName name) :
    names ("/".intercalate list) = list := by
  induction list with
  | nil => rfl
  | cons name list ih =>
    obtain ⟨hname, hlist⟩ := List.forall_mem_cons.mp h
    cases list with
    | nil => rw [String.intercalate_singleton, names_of_isName hname]
    | cons next list =>
      rw [String.intercalate_cons_of_ne_nil (List.cons_ne_nil _ _), names_append_slash,
        names_of_isName hname, ih hlist]
      rfl

theorem names_downNames (path : String) :
    names ("/".intercalate (downNames path)) = downNames path :=
  names_intercalate fun _ hname => isName_of_mem_names (List.mem_filter.mp hname).1

theorem downNames_of_notMem (h : ".." ∉ names path) : downNames path = names path := by
  refine List.filter_eq_self.mpr fun name hname => bne_iff_ne.mpr ?_
  rintro rfl
  exact h hname

/-! ### Joined paths -/

theorem isAbsolute_append_of_ne {front : String} (h : front ≠ "") (back : String) :
    isAbsolute (front ++ back) = isAbsolute front := by
  have hne : front.toList ≠ [] := String.toList_eq_nil_iff.not.mpr h
  rw [isAbsolute, String.toList_append, List.head?_append_of_ne_nil _ hne, isAbsolute]

theorem isAbsolute_append {front back : String} (h : isAbsolute front = false)
    (hback : isAbsolute back = false) : isAbsolute (front ++ back) = false := by
  by_cases hnil : front = ""
  · rwa [hnil, String.empty_append]
  · rwa [isAbsolute_append_of_ne hnil]

theorem isAbsolute_of_notMem {path : String} (h : '/' ∉ path.toList) : isAbsolute path = false := by
  rw [isAbsolute, decide_eq_false_iff_not]
  exact fun hhead => h (List.mem_of_head? hhead)

/-- The path of a directory: empty, or with a slash at its end, or without one. -/
theorem join_cases (directory : String) {path : String} (h : isAbsolute path = false) :
    directory = "" ∧ join directory path = path ∨
    (∃ front, directory = front ++ "/" ∧ join directory path = front ++ "/" ++ path) ∨
    directory ≠ "" ∧ join directory path = directory ++ "/" ++ path := by
  unfold join
  rw [h, if_neg (by decide)]
  split
  · next hlast =>
    obtain rfl : directory = "" := by simpa using hlast
    exact .inl ⟨rfl, rfl⟩
  · next hlast =>
    obtain ⟨front, hfront⟩ := List.getLast?_eq_some_iff.mp hlast
    have hdirectory : directory = String.ofList front ++ "/" := by
      rw [← String.toList_inj, hfront]
      simp
    exact .inr (.inl ⟨String.ofList front, hdirectory, by rw [hdirectory]⟩)
  · next hlast =>
    refine .inr (.inr ⟨fun heq => ?_, rfl⟩)
    simp [heq] at hlast

theorem names_join (directory : String) {path : String} (h : isAbsolute path = false) :
    names (join directory path) = names directory ++ names path := by
  obtain ⟨rfl, hjoin⟩ | ⟨front, rfl, hjoin⟩ | ⟨-, hjoin⟩ := join_cases directory h
  · rw [hjoin]
    rfl
  · rw [hjoin, names_append_slash, names_slash]
  · rw [hjoin, names_append_slash]

theorem isAbsolute_join (directory : String) {path : String} (h : isAbsolute path = false) :
    isAbsolute (join directory path) = isAbsolute directory := by
  obtain ⟨rfl, hjoin⟩ | ⟨front, rfl, hjoin⟩ | ⟨hne, hjoin⟩ := join_cases directory h
  · rw [hjoin, h]
    rfl
  · rw [hjoin]
    cases hfront : front.toList <;> simp [isAbsolute, hfront]
  · rw [hjoin, String.append_assoc, isAbsolute_append_of_ne hne]

theorem join_append (directory : String) {path back : String} (h : isAbsolute path = false)
    (hback : isAbsolute back = false) :
    join directory (path ++ back) = join directory path ++ back := by
  rw [join, join, h, isAbsolute_append h hback, if_neg Bool.false_ne_true,
    if_neg Bool.false_ne_true]
  split <;> simp only [String.append_assoc]

/-! ### Places by their spelling -/

/-- The place that a name leads to, whether or not anything stands there. -/
def enter (location : Location) (name : String) : Location :=
  if name = ".." then location.dropLast else location ++ [name]

/-- The place that a path names by its spelling alone. -/
def settle (here : Location) (path : String) : Location :=
  (names path).foldl enter (if isAbsolute path then [] else here)

/-- What of a path decides the place that it names: where it starts, and its names. -/
def course (path : String) : Bool × List String :=
  (isAbsolute path, names path)

theorem length_enter_up (location : Location) :
    (enter location "..").length = location.length - 1 := by
  rw [enter, if_pos rfl, List.length_dropLast]

theorem enter_of_ne (h : name ≠ "..") (location : Location) :
    enter location name = location ++ [name] :=
  if_neg h

theorem settle_join (here : Location) (directory : String) (h : isAbsolute path = false) :
    settle here (join directory path) = (names path).foldl enter (settle here directory) := by
  rw [settle, isAbsolute_join directory h, names_join directory h, List.foldl_append, settle]

theorem foldl_enter_of_notMem (h : ".." ∉ list) (location : Location) :
    list.foldl enter location = location ++ list := by
  induction list generalizing location with
  | nil => exact (List.append_nil location).symm
  | cons name list ih =>
    obtain ⟨hne, hlist⟩ := not_or.mp (List.mem_cons.not.mp h)
    rw [List.foldl_cons, ih hlist, enter_of_ne (Ne.symm hne), List.append_assoc]
    rfl

theorem length_foldl_enter_le (list : List String) (location : Location) :
    (list.foldl enter location).length ≤
      location.length + (list.filter (· != "..")).length := by
  induction list generalizing location with
  | nil => exact Nat.le_refl _
  | cons name list ih =>
    have htail := ih (enter location name)
    rw [List.foldl_cons, List.filter_cons]
    by_cases hup : name = ".."
    · subst hup
      rw [length_enter_up] at htail
      rw [if_neg (by decide)]
      omega
    · rw [enter_of_ne hup, List.length_append, List.length_singleton] at htail
      rw [if_pos (by simpa using hup), List.length_cons, enter_of_ne hup]
      omega

/-- A name that leads up makes the way shorter than the names that lead down are many. -/
theorem length_foldl_enter_lt (h : ".." ∈ list) (hne : location ≠ []) :
    (list.foldl enter location).length <
      location.length + (list.filter (· != "..")).length := by
  induction list generalizing location with
  | nil => cases h
  | cons name list ih =>
    rw [List.foldl_cons, List.filter_cons]
    by_cases hup : name = ".."
    · subst hup
      have htail := length_foldl_enter_le list (enter location "..")
      have hpos := List.length_pos_iff.mpr hne
      rw [length_enter_up] at htail
      rw [if_neg (by decide)]
      omega
    · have hrest : ".." ∈ list := (List.mem_cons.mp h).resolve_left (Ne.symm hup)
      have htail := ih hrest (List.concat_ne_nil name location)
      rw [List.length_append, List.length_singleton] at htail
      rw [if_pos (by simpa using hup), List.length_cons, enter_of_ne hup]
      omega

/-- A path that leads as deep as it has names has no name that leads up. -/
theorem settle_eq_names (hlength : (names path).length ≤ (settle [] path).length) :
    settle [] path = names path := by
  have hstart : settle [] path = (names path).foldl enter [] := by
    rw [settle, ite_self]
  rw [hstart] at hlength ⊢
  have hup : ".." ∉ names path := by
    intro hmem
    have hle := length_foldl_enter_le (names path) []
    have hlt : ((names path).filter (· != "..")).length < (names path).length :=
      List.length_filter_lt_length_iff_exists.mpr ⟨"..", hmem, by decide⟩
    rw [List.length_nil, Nat.zero_add] at hle
    omega
  exact foldl_enter_of_notMem hup []

/-! ### The last part of a path -/

section LastPart

variable {cs : List Char} {path front back extension : String} {name : List Char}

/-- What stands behind the last slash of a path. -/
def lastPart (path : String) : List Char :=
  (path.toList.reverse.takeWhile (· != '/')).reverse

/-- The text ends where a name of a path may start. -/
def IsFront (front : String) : Prop :=
  front = "" ∨ ∃ outer, front = outer ++ "/"

theorem IsFront.names_append (h : IsFront front) (back : String) :
    names (front ++ back) = names front ++ names back := by
  obtain rfl | ⟨outer, rfl⟩ := h
  · rw [String.empty_append]
    rfl
  · rw [names_append_slash, names_slash]

theorem isFront_of_dropWhile (cs : List Char) :
    IsFront (String.ofList (cs.dropWhile (· != '/')).reverse) := by
  cases hrest : cs.dropWhile (· != '/') with
  | nil => exact .inl rfl
  | cons c rest =>
    have hslash : (c != '/') = false := by
      have hhead := List.head?_dropWhile_not (· != '/') cs
      rw [hrest] at hhead
      exact hhead
    obtain rfl : c = '/' := by simpa using hslash
    exact .inr ⟨String.ofList rest.reverse, by rw [List.reverse_cons, String.ofList_append]⟩

theorem notMem_takeWhile (c : Char) (cs : List Char) : c ∉ cs.takeWhile (· != c) := by
  intro h
  have hne := List.mem_takeWhile_imp h
  simp at hne

theorem notMem_lastPart (path : String) : '/' ∉ lastPart path :=
  List.mem_reverse.not.mpr (notMem_takeWhile '/' path.toList.reverse)

theorem ofList_reverse_eq (cs : List Char) :
    String.ofList cs.reverse = String.ofList (cs.dropWhile (· != '/')).reverse ++
      String.ofList (cs.takeWhile (· != '/')).reverse := by
  rw [← String.ofList_append, ← List.reverse_append, List.takeWhile_append_dropWhile]

theorem eq_front_append (path : String) :
    ∃ front, IsFront front ∧ path = front ++ String.ofList (lastPart path) := by
  have hsplit := ofList_reverse_eq path.toList.reverse
  rw [List.reverse_reverse, String.ofList_toList] at hsplit
  exact ⟨_, isFront_of_dropWhile _, hsplit⟩

theorem lastPart_append_slash (front back : String) :
    lastPart (front ++ "/" ++ back) = lastPart back := by
  have hspell : (front ++ "/" ++ back).toList.reverse =
      back.toList.reverse ++ '/' :: front.toList.reverse := by
    simp
  rw [lastPart, hspell, lastPart]
  congr 1
  induction back.toList.reverse with
  | nil => rfl
  | cons c rest ih => simp only [List.cons_append, List.takeWhile_cons, ih]

theorem lastPart_join (directory : String) (h : isAbsolute path = false) :
    lastPart (join directory path) = lastPart path := by
  obtain ⟨-, hjoin⟩ | ⟨front, -, hjoin⟩ | ⟨-, hjoin⟩ := join_cases directory h
  · rw [hjoin]
  · rw [hjoin, lastPart_append_slash]
  · rw [hjoin, lastPart_append_slash]

theorem names_dropIdle (cs : List Char) :
    names (String.ofList (dropIdle cs).reverse) = names (String.ofList cs.reverse) := by
  fun_induction dropIdle cs with
  | case1 rest ih =>
    rw [ih, List.reverse_cons, String.ofList_append]
    exact (names_slash _).symm
  | case2 rest ih =>
    have hidle := names_append_slash (String.ofList rest.reverse) "."
    rw [← String.ofList_append, ← String.ofList_append] at hidle
    rw [ih, List.reverse_cons, List.reverse_cons, hidle]
    exact (List.append_nil _).symm
  | case3 cs => rfl

/-! ### Extensions -/

/-- A name without its extension. -/
def stem (name : List Char) : List Char :=
  (splitExtension name).1

/-- Only a dot behind the first character of a name starts an extension. -/
theorem stem_cases (name : List Char) :
    '.' ∉ name.tail ∧ stem name = name ∨
      stem name ≠ [] ∧ ∃ ext, name = stem name ++ '.' :: ext := by
  have hsplit := List.takeWhile_append_dropWhile (p := (· != '.')) (l := name.reverse)
  have hafter := notMem_takeWhile '.' name.reverse
  unfold stem splitExtension
  dsimp only
  split
  · next hnil =>
    rw [hnil, List.append_nil] at hsplit
    rw [hsplit] at hafter
    exact .inl ⟨fun h => hafter (List.mem_reverse.mpr (List.mem_of_mem_tail h)), rfl⟩
  · next hdot =>
    rw [hdot] at hsplit
    have hname : name = '.' :: (name.reverse.takeWhile (· != '.')).reverse := by
      rw [← List.reverse_concat, hsplit, List.reverse_reverse]
    refine .inl ⟨fun h => hafter ?_, rfl⟩
    rw [hname] at h
    exact List.mem_reverse.mp h
  · next _ c rest hne hrest =>
    obtain rfl : c = '.' := by
      have hhead := List.head?_dropWhile_not (· != '.') name.reverse
      rw [hrest] at hhead
      simpa using hhead
    have hname : name = rest.reverse ++ '.' :: (name.reverse.takeWhile (· != '.')).reverse := by
      rw [hrest] at hsplit
      simpa using congrArg List.reverse hsplit.symm
    exact .inr ⟨fun hnil => hne rfl (List.reverse_eq_nil_iff.mp hnil), _, hname⟩

theorem stem_of_notMem (h : '.' ∉ name.tail) : stem name = name := by
  obtain ⟨-, hstem⟩ | ⟨hne, ext, hname⟩ := stem_cases name
  · exact hstem
  · refine absurd ?_ h
    rw [hname, List.tail_append_of_ne_nil hne]
    exact List.mem_append_right _ List.mem_cons_self

theorem eq_stem_append (h : '.' ∈ name.tail) : ∃ ext, name = stem name ++ '.' :: ext := by
  obtain ⟨hnone, -⟩ | ⟨-, hname⟩ := stem_cases name
  · exact absurd h hnone
  · exact hname

theorem stem_subset (name : List Char) : stem name ⊆ name := by
  obtain ⟨-, hstem⟩ | ⟨-, ext, hname⟩ := stem_cases name
  · rw [hstem]
    exact List.Subset.refl name
  · intro c hmem
    rw [hname]
    exact List.mem_append_left _ hmem

theorem withExtension_of_none (h : splitName? path = none) (extension : String) :
    withExtension path extension = path := by
  rw [withExtension, h]

/-- A name with its extension replaced, or added. -/
def extend (name : List Char) (extension : String) : List Char :=
  stem name ++ '.' :: extension.toList

theorem withExtension_of_some {front : List Char} (h : splitName? path = some (front, name))
    (extension : String) :
    withExtension path extension =
      String.ofList front ++ String.ofList (extend name extension) := by
  rw [withExtension, h]
  simp [stem, extend, ← String.toList_inj]

theorem splitName?_eq_some_iff {front : List Char} :
    splitName? path = some (front, name) ↔
      (name ≠ [] ∧ name ≠ ['.'] ∧ name ≠ ['.', '.']) ∧
        ((dropIdle path.toList.reverse).dropWhile (· != '/')).reverse = front ∧
        ((dropIdle path.toList.reverse).takeWhile (· != '/')).reverse = name := by
  unfold splitName?
  dsimp only
  split
  · next hidle =>
    refine iff_of_false nofun ?_
    rintro ⟨hne, -, rfl⟩
    simp_all
  · next hname =>
    simp only [Bool.or_eq_true, decide_eq_true_eq, not_or, and_assoc] at hname
    rw [Option.some_inj, Prod.mk.injEq]
    refine ⟨fun h => ⟨?_, h⟩, And.right⟩
    rw [← h.2]
    exact hname

theorem names_ofList (h : '/' ∉ name) :
    names (String.ofList name) = if name = [] ∨ name = ['.'] then [] else [String.ofList name] := by
  split
  · next hidle =>
    obtain rfl | rfl := hidle <;> rfl
  · next hname =>
    obtain ⟨hne, hdot⟩ := not_or.mp hname
    exact names_of_isName (isName_ofList h hne hdot)

theorem names_of_splitName? {front : List Char} (h : splitName? path = some (front, name)) :
    IsFront (String.ofList front) ∧ '/' ∉ name ∧
      names path = names (String.ofList front) ++ [String.ofList name] := by
  obtain ⟨⟨hne, hdot, -⟩, rfl, rfl⟩ := splitName?_eq_some_iff.mp h
  have hidle := names_dropIdle path.toList.reverse
  have hplain := List.mem_reverse.not.mpr (notMem_takeWhile '/' (dropIdle path.toList.reverse))
  have hfront := isFront_of_dropWhile (dropIdle path.toList.reverse)
  refine ⟨hfront, hplain, ?_⟩
  rw [List.reverse_reverse, String.ofList_toList] at hidle
  rw [← hidle, ofList_reverse_eq, hfront.names_append,
    names_of_isName (isName_ofList hplain hne hdot)]

theorem isName_extend (hname : '/' ∉ name) (hplain : '/' ∉ extension.toList)
    (hne : extension ≠ "") : IsName (String.ofList (extend name extension)) := by
  refine isName_ofList (fun hmem => ?_) (by simp [extend]) fun heq => ?_
  · obtain hstem | hrest := List.mem_append.mp hmem
    · exact hname (stem_subset name hstem)
    · exact hplain ((List.mem_cons.mp hrest).resolve_left (by decide))
  · have hlength := congrArg List.length heq
    have hpos := List.length_pos_iff.mpr (String.toList_eq_nil_iff.not.mpr hne)
    simp only [extend, List.length_append, List.length_cons, List.length_nil] at hlength
    omega

/-- A path keeps all of its names but the last one when its extension is replaced. -/
theorem names_withExtension (hplain : '/' ∉ extension.toList) (hne : extension ≠ "") :
    names (withExtension path extension) = names path ∨
      ∃ outer name, names path = outer ++ [String.ofList name] ∧
        names (withExtension path extension) =
          outer ++ [String.ofList (extend name extension)] := by
  cases hsplit : splitName? path with
  | none => exact .inl (by rw [withExtension_of_none hsplit])
  | some parts =>
    obtain ⟨front, name⟩ := parts
    obtain ⟨hfront, hslash, hnames⟩ := names_of_splitName? hsplit
    refine .inr ⟨names (String.ofList front), name, hnames, ?_⟩
    rw [withExtension_of_some hsplit, hfront.names_append,
      names_of_isName (isName_extend hslash hplain hne)]

/-! ### Names without a dot -/

/-- The last part of the path is a name, with no dot but at its front. -/
structure IsPlain (path : String) : Prop where
  ne_nil : lastPart path ≠ []
  ne_dot : lastPart path ≠ ['.']
  undotted : '.' ∉ (lastPart path).tail

theorem dropIdle_of_name (hne : cs.takeWhile (· != '/') ≠ [])
    (hdot : cs.takeWhile (· != '/') ≠ ['.']) : dropIdle cs = cs := by
  unfold dropIdle
  split
  · exact absurd rfl hne
  · exact absurd rfl hdot
  · rfl

theorem IsPlain.withExtension (h : IsPlain path) (extension : String) :
    withExtension path extension = path ++ "." ++ extension := by
  have hsplit := ofList_reverse_eq path.toList.reverse
  have hidle : dropIdle path.toList.reverse = path.toList.reverse :=
    dropIdle_of_name (fun hnil => h.ne_nil (by rw [lastPart, hnil]; rfl))
      (fun hdot => h.ne_dot (by rw [lastPart, hdot]; rfl))
  have hup : lastPart path ≠ ['.', '.'] := by
    intro heq
    have hundotted := h.undotted
    rw [heq] at hundotted
    exact hundotted List.mem_cons_self
  have hname : splitName? path =
      some ((path.toList.reverse.dropWhile (· != '/')).reverse, lastPart path) := by
    rw [splitName?_eq_some_iff, hidle]
    exact ⟨⟨h.ne_nil, h.ne_dot, hup⟩, rfl, rfl⟩
  rw [List.reverse_reverse, String.ofList_toList] at hsplit
  rw [withExtension_of_some hname, extend, stem_of_notMem h.undotted, String.ofList_append,
    ← String.append_assoc, lastPart, ← hsplit]
  simp [← String.toList_inj]

end LastPart

end Pipeline.Path
