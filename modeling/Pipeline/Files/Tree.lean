import Pipeline.Files.Path

/-! Trees of files and directories, as runs see them. -/

namespace Pipeline

/-- A place in a tree: the names that lead to it from the root. -/
abbrev Location := List String

namespace Location

/-- The absolute path of a place. -/
def render (location : Location) : String :=
  "/" ++ "/".intercalate location

/-- The place and all those above it, from the inside out. -/
def ancestors (location : Location) : List Location :=
  (List.range (location.length + 1)).reverse.map location.take

end Location

/-- What stands at a place. -/
inductive FileEntry where
  | file (content : ByteArray)
  | directory

/-- Files and directories by place. The root is always a directory. -/
structure FileTree where
  entries : List (Location × FileEntry)
  /-- Where paths that are not absolute start. -/
  current : Location

namespace FileTree

/-- The tree of nothing. -/
def empty : FileTree := ⟨[], []⟩

/-- What stands at a place. -/
def entry? (tree : FileTree) (location : Location) : Option FileEntry :=
  if location.isEmpty then some .directory else tree.entries.lookup location

/-- Is the place a directory? -/
def isDirectoryAt (tree : FileTree) (location : Location) : Bool :=
  match tree.entry? location with
  | some .directory => true
  | _ => false

/-- Follows names down from a place. All but the last one have to be directories. -/
def follow (tree : FileTree) (location : Location) : List String → Option Location
  | [] => some location
  | name :: rest =>
    if tree.isDirectoryAt location then
      if name = ".." then tree.follow location.dropLast rest
      else tree.follow (location ++ [name]) rest
    else none

/-- Does the path ask for a directory by its end? -/
def asksDirectory (path : String) : Bool :=
  match path.toList.reverse with
  | '/' :: _ => true
  | '.' :: '/' :: _ => true
  | '.' :: '.' :: '/' :: _ => true
  | _ => false

/-- The place of a path, whether or not something stands there. -/
def locate? (tree : FileTree) (path : String) : Option Location :=
  if path = "" then none
  else tree.follow (if Path.isAbsolute path then [] else tree.current) (Path.names path)

/-- What stands at a path. -/
def find? (tree : FileTree) (path : String) : Option FileEntry :=
  match tree.locate? path with
  | none => none
  | some location =>
    match tree.entry? location with
    | some (.file content) => if asksDirectory path then none else some (.file content)
    | entry => entry

/-- Does anything stand at a path? -/
def holds (tree : FileTree) (path : String) : Bool :=
  (tree.find? path).isSome

/-- Is there a file at a path? -/
def isFile (tree : FileTree) (path : String) : Bool :=
  match tree.find? path with
  | some (.file _) => true
  | _ => false

/-- Is there a directory at a path? -/
def isDirectory (tree : FileTree) (path : String) : Bool :=
  match tree.find? path with
  | some .directory => true
  | _ => false

/-- The content of the file at a path. -/
def read? (tree : FileTree) (path : String) : Option ByteArray :=
  match tree.find? path with
  | some (.file content) => some content
  | _ => none

/-- The text of the file at a path, if it is text. -/
def readText? (tree : FileTree) (path : String) : Option String :=
  (tree.read? path).bind String.fromUTF8?

/-- The path of a directory without `.`, `..` and idle slashes. -/
def canonical? (tree : FileTree) (path : String) : Option Location :=
  match tree.find? path with
  | none => none
  | some _ => tree.locate? path

/-- The names in a directory, in order. -/
def namesAt (tree : FileTree) (location : Location) : List String :=
  let names := tree.entries.filterMap fun (place, _) =>
    match place.getLast? with
    | some name => if place.dropLast = location then some name else none
    | none => none
  names.mergeSort

/-- The tree with an entry at a place, whatever was there before. -/
def put (tree : FileTree) (location : Location) (entry : FileEntry) : FileTree :=
  { tree with entries := (location, entry) :: tree.entries.filter (·.1 != location) }

/-- The tree with a directory and those above it; what is there already stays. -/
def makeDirectories (tree : FileTree) (location : Location) : FileTree :=
  location.ancestors.foldr (fun place tree =>
    if (tree.entry? place).isSome then tree else tree.put place .directory) tree

/-- The tree with a file, and the directories above it. -/
def write (tree : FileTree) (location : Location) (content : ByteArray) : FileTree :=
  (tree.makeDirectories location.dropLast).put location (.file content)

/-- The tree without a place and everything below it. -/
def remove (tree : FileTree) (location : Location) : FileTree :=
  { tree with entries := tree.entries.filter fun entry => !location.isPrefixOf entry.1 }

end FileTree

end Pipeline
