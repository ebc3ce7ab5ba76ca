import Mathlib.Data.List.Find
import Mathlib.Logic.Function.Basic
import Pipeline.Action.Manifest
import Pipeline.Proofs.Files.Paths

/-! Directories have many spellings. What the manifest in a directory is depends on the place of the
directory alone. -/

namespace Pipeline

namespace FileTree

theorem follow_append (tree : FileTree) (location : Location) (front back : List String) :
    tree.follow location (front ++ back) =
      (tree.follow location front).bind fun reached => tree.follow reached back := by
  induction front generalizing location with
  | nil => rfl
  | cons name rest ih =>
    simp only [List.cons_append, follow]
    split
    · split <;> exact ih _
    · rfl

/-- The place of the directory that a path names. The empty path names the current directory. -/
def place? (tree : FileTree) (directory : String) : Option Location :=
  tree.follow (if Path.isAbsolute directory then [] else tree.current) (Path.names directory)

theorem locate?_join (tree : FileTree) (directory : String) {path : String}
    (h : Path.isAbsolute path = false) (hne : path ≠ "") :
    tree.locate? (Path.join directory path) =
      (tree.place? directory).bind fun place => tree.follow place (Path.names path) := by
  have hjoin : Path.join directory path ≠ "" := by
    obtain ⟨-, hjoin⟩ | ⟨front, -, hjoin⟩ | ⟨-, hjoin⟩ := Path.join_cases directory h <;>
      rw [hjoin] <;> simp [hne]
  rw [locate?, if_neg hjoin, Path.isAbsolute_join directory h, Path.names_join directory h,
    follow_append, place?]

end FileTree

namespace Manifest

/-- The mistake, if another directory had been asked. -/
def Error.moved (directory : String) : Error → Error
  | .notFound _ => .notFound directory
  | e => e

theorem mapError_parse (text directory : String) :
    (parse text).mapError (Error.moved directory) = parse text := by
  unfold parse
  split
  · rfl
  · split <;> rfl

theorem fileNames_plain : ∀ name ∈ fileNames,
    Path.isAbsolute name = false ∧ name.toList.getLast? = some 'l' := by
  decide

/-- What stands under a manifest's name in a directory depends on the directory's place alone. -/
theorem find?_join (tree : FileTree) (directory : String) {name : String} (h : name ∈ fileNames) :
    tree.find? (Path.join directory name) =
      ((tree.place? directory).bind (tree.follow · (Path.names name))).bind tree.entry? := by
  obtain ⟨hrelative, hlast⟩ := fileNames_plain name h
  have hne : name ≠ "" := fun heq => by simp [heq] at hlast
  have hend : (Path.join directory name).toList.getLast? = some 'l' := by
    obtain ⟨-, hjoin⟩ | ⟨front, -, hjoin⟩ | ⟨-, hjoin⟩ := Path.join_cases directory hrelative <;>
      rw [hjoin] <;> simp [List.getLast?_cons, hlast]
  have hasks : FileTree.asksDirectory (Path.join directory name) = false := by
    obtain ⟨front, hfront⟩ := List.getLast?_eq_some_iff.mp hend
    simp [FileTree.asksDirectory, hfront]
  rw [FileTree.find?, FileTree.locate?_join tree directory hrelative hne, hasks]
  cases (tree.place? directory).bind (tree.follow · (Path.names name)) with
  | none => rfl
  | some place => cases h : tree.entry? place <;> grind

/-- A manifest is found again under every spelling of its directory. -/
theorem find_of_place?_eq {tree : FileTree} {directory directory' : String}
    (h : tree.place? directory = tree.place? directory') :
    find tree directory' = (find tree directory).mapError (Error.moved directory') := by
  -- Both searches go through the same names and see the same at each of them.
  have hfind (name : String) (hname : name ∈ fileNames) :
      tree.find? (Path.join directory' name) = tree.find? (Path.join directory name) := by
    rw [find?_join tree directory hname, find?_join tree directory' hname, h]
  have hfile (name : String) (hname : name ∈ fileNames) :
      tree.isFile (Path.join directory' name) = tree.isFile (Path.join directory name) := by
    rw [FileTree.isFile, hfind name hname, FileTree.isFile]
  have htext (name : String) (hname : name ∈ fileNames) :
      tree.readText? (Path.join directory' name) = tree.readText? (Path.join directory name) := by
    rw [FileTree.readText?, FileTree.read?, hfind name hname, FileTree.readText?, FileTree.read?]
  have hname : fileNames.find? (tree.isFile ∘ Path.join directory') =
      fileNames.find? (tree.isFile ∘ Path.join directory) := List.find?_congr hfile
  rw [find, find, List.find?_map, List.find?_map, hname]
  cases hfound : fileNames.find? (tree.isFile ∘ Path.join directory) with
  | none => rfl
  | some name =>
    simp only [Option.map_some, htext name (List.mem_of_find?_eq_some hfound)]
    cases tree.readText? (Path.join directory name) with
    | none => rfl
    | some text => exact (mapError_parse text directory').symm

end Manifest

/-- A way to tell directories apart. Two directories at one spot hold the same manifest. -/
structure Spots (tree : FileTree) where
  spot : String → String
  find_eq {directory directory' : String} (h : spot directory = spot directory') :
    Manifest.find tree directory' =
      (Manifest.find tree directory).mapError (Manifest.Error.moved directory')

namespace FileTree

/-- One spelling for all directories at one place. -/
noncomputable def spelling (tree : FileTree) (directory : String) : String :=
  Function.invFun tree.place? (tree.place? directory)

theorem spelling_eq_iff {tree : FileTree} {directory directory' : String} :
    tree.spelling directory = tree.spelling directory' ↔
      tree.place? directory = tree.place? directory' := by
  have hplace (directory : String) :
      tree.place? (tree.spelling directory) = tree.place? directory :=
    Function.invFun_eq ⟨directory, rfl⟩
  refine ⟨fun h => ?_, fun h => by rw [spelling, h, spelling]⟩
  rw [← hplace directory, h, hplace]

theorem spelling_map_eq {tree : FileTree} {directory directory' : Option String}
    (h : directory.map tree.place? = directory'.map tree.place?) :
    directory.map tree.spelling = directory'.map tree.spelling := by
  have hspelling := congrArg (Option.map (Function.invFun tree.place?)) h
  rwa [Option.map_map, Option.map_map] at hspelling

end FileTree

namespace Spots

/-- Directories told apart by how they are spelled. -/
def spelled (tree : FileTree) : Spots tree where
  spot directory := directory
  find_eq h := by
    subst h
    exact Manifest.find_of_place?_eq rfl

/-- Directories told apart by their places alone. -/
noncomputable def placed (tree : FileTree) : Spots tree where
  spot := tree.spelling
  find_eq h := Manifest.find_of_place?_eq (FileTree.spelling_eq_iff.mp h)

end Spots

end Pipeline
