import Pipeline.Error

/-! Where a workspace keeps its workflows. -/

namespace Pipeline.Discovery

/-- The directory of workflows below a workspace. -/
def workflowsDirectory : String := ".github/workflows"

/-- The directory of workflows of a workspace. -/
def workflowsOf (workspace : String) : String :=
  Path.join workspace workflowsDirectory

/-- The repository that a directory belongs to: the nearest one above it that holds `.git`. -/
def repository? (tree : FileTree) (start : String) : Option Location :=
  match tree.canonical? start with
  | none => none
  | some location =>
    location.ancestors.find? fun place => (tree.entry? (place ++ [".git"])).isSome

/-- The files that a workflow argument may mean, in order of preference. -/
def candidates (argument workspace : String) : List String :=
  let path := Path.join (workflowsOf workspace) argument
  [path, Path.withExtension path "yml", Path.withExtension path "yaml"]

/-- The file that a workflow argument means: an existing file, or one among the workflows. -/
def locate? (tree : FileTree) (argument workspace : String) : Option String :=
  if tree.isFile argument then some argument
  else (candidates argument workspace).find? tree.isFile

/-- The directory that a run is asked to work in. -/
def workspace (tree : FileTree) (directory : String) : Except Error Location :=
  if tree.isDirectory directory then
    match tree.locate? directory with
    | some location => .ok location
    | none => .error (.io "the directory cannot be found")
  else .error (.config (.noWorkspace directory))

/-- The file that a workflow argument means; it is a mistake if there is none. -/
def locate (tree : FileTree) (argument workspace : String) : Except Error String :=
  match locate? tree argument workspace with
  | some path => .ok path
  | none => .error (.config (.noWorkflow argument (workflowsOf workspace)))

/-- The extensions of workflow files. -/
def extensions : List String := ["yml", "yaml"]

/-- The workflow files of a workspace, in the order of their names. -/
def workflows (tree : FileTree) (workspace : String) : List String :=
  let directory := workflowsOf workspace
  if tree.isDirectory directory then
    match tree.locate? directory with
    | none => []
    | some location =>
      ((tree.namesAt location).map (Path.join directory)).filter fun path =>
        tree.isFile path && (Path.extension? path).any extensions.contains
  else []

end Pipeline.Discovery
