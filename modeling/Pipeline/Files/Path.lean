/-! Paths as text: their names, how they are put together, and their last extension. -/

namespace Pipeline.Path

/-- Does the path start at the root? -/
def isAbsolute (path : String) : Bool :=
  path.toList.head? = some '/'

/-- A path below a directory. An absolute one stands for itself. -/
def join (directory path : String) : String :=
  if isAbsolute path then path
  else
    match directory.toList.getLast? with
    | none | some '/' => directory ++ path
    | some _ => directory ++ "/" ++ path

/-- The parts of a text between slashes, empty ones included. -/
def splitSlashes : List Char → List (List Char)
  | [] => [[]]
  | c :: rest =>
    match splitSlashes rest with
    | [] => [[c]]
    | part :: parts => if c = '/' then [] :: part :: parts else (c :: part) :: parts

/-- The names of a path, `..` included and `.` left out. -/
def names (path : String) : List String :=
  ((splitSlashes path.toList).filter fun part => part ≠ [] && part ≠ ['.']).map String.ofList

/-- The names that lead down. -/
def downNames (path : String) : List String :=
  (names path).filter (· != "..")

/-- Reversed characters of a path without the slashes and `.` names at their front. -/
def dropIdle : List Char → List Char
  | '/' :: rest => dropIdle rest
  | '.' :: '/' :: rest => dropIdle rest
  | cs => cs

/-- The path up to its last name, and that name, both as characters; no path ends in `..`. -/
def splitName? (path : String) : Option (List Char × List Char) :=
  let reversed := dropIdle path.toList.reverse
  let name := (reversed.takeWhile (· != '/')).reverse
  if name = [] || name = ['.'] || name = ['.', '.'] then none
  else some ((reversed.dropWhile (· != '/')).reverse, name)

/-- The last name of a path. -/
def fileName? (path : String) : Option String :=
  (splitName? path).map fun (_, name) => String.ofList name

/-- A name before its last dot, and what stands behind it. A dot at the front is part of the
name. -/
def splitExtension (name : List Char) : List Char × Option (List Char) :=
  let after := name.reverse.takeWhile (· != '.')
  match name.reverse.dropWhile (· != '.') with
  | [] | ['.'] => (name, none)
  | _ :: stem => (stem.reverse, some after.reverse)

/-- The extension of the last name. -/
def extension? (path : String) : Option String :=
  match splitName? path with
  | none => none
  | some (_, name) => (splitExtension name).2.map String.ofList

/-- The path with the extension of its last name replaced, or added. -/
def withExtension (path extension : String) : String :=
  match splitName? path with
  | none => path
  | some (front, name) =>
    String.ofList (front ++ (splitExtension name).1) ++ "." ++ extension

/-- The last name of a path without its extension. -/
def stem? (path : String) : Option String :=
  match splitName? path with
  | none => none
  | some (_, name) => some (String.ofList (splitExtension name).1)

end Pipeline.Path
