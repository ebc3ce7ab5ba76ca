import Pipeline.ActionRef
import Pipeline.Dict
import Pipeline.Files.Tree

/-! The directory of actions that were fetched before, laid out as owner, repository and version. -/

namespace Pipeline

/-- The repository of an external action and its version; a place in the workspace has none. -/
def ActionRef.fetchKey? : ActionRef → Option String
  | .workspace _ => none
  | .external owner repo _ version => some (owner ++ "/" ++ repo ++ "@" ++ version)

/-- What has been found out about a cache. -/
structure ActionCache where
  directory : String
  /-- The directories of the repositories looked up so far; those that are missing have none. -/
  known : Dict (Option String)

namespace ActionCache

/-- A cache of which nothing is known yet. -/
def of (directory : String) : ActionCache := ⟨directory, []⟩

/-- Why an action cannot be fetched. -/
inductive Error where
  | notExternal (reference : ActionRef)
  deriving Repr, DecidableEq

/-- The wording of a mistake. -/
def Error.message : Error → String
  | notExternal reference => "Invalid action reference for fetching: " ++ reference.render

/-- The directory of a repository in the cache. -/
def repositoryPath (cache : ActionCache) (owner repo version : String) : String :=
  Path.join (Path.join (Path.join cache.directory owner) repo) version

/-- The directory of an action in that of its repository. -/
def subdirectory (repository : String) : Option String → String
  | some path => Path.join repository path
  | none => repository

/-- The directory of an action, if its repository is in the cache. A repository is looked up
once. -/
def fetch (cache : ActionCache) (tree : FileTree) (reference : ActionRef) (key : String) :
    Except Error (Option String) × ActionCache :=
  let path := match reference with
    | .workspace _ => none
    | .external _ _ path _ => path
  match cache.known.get? key with
  | some found => (.ok (found.map (subdirectory · path)), cache)
  | none =>
    match reference with
    | .workspace _ => (.error (.notExternal reference), cache)
    | .external owner repo path version =>
      let repository := cache.repositoryPath owner repo version
      let found := if tree.isDirectory repository then some repository else none
      (.ok (found.map (subdirectory · path)), { cache with known := cache.known.insert key found })

/-- The directories in a directory, by name. -/
def directoriesIn (tree : FileTree) (location : Location) : List String :=
  (tree.namesAt location).filter fun name => tree.isDirectoryAt (location ++ [name])

/-- The actions in a cache as `owner/repo@version`, in order; nothing if the path is no
directory. -/
def list? (tree : FileTree) (directory : String) : Option (List String) :=
  match tree.find? directory, tree.locate? directory with
  | none, _ => some []
  | some .directory, some location =>
    let actions := (directoriesIn tree location).flatMap fun owner =>
      (directoriesIn tree (location ++ [owner])).flatMap fun repo =>
        (directoriesIn tree (location ++ [owner, repo])).map fun version =>
          owner ++ "/" ++ repo ++ "@" ++ version
    some actions.mergeSort
  | _, _ => none

end ActionCache

end Pipeline
