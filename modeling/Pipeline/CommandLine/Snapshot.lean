import Pipeline.CommandLine.Commands

/-! Desks out of what a system shows of itself, and the changes that a command leaves behind. -/

namespace Pipeline.CommandLine.Snapshot

open Script

/-- Variables by name, from entries of the form `NAME=VALUE` that zero octets end. -/
def environment (octets : ByteArray) : Dict String :=
  Dict.ofList ((Octets.toText (.ofBytes octets)).splitOn "\x00" |>.filterMap fun entry =>
    (Text.splitOnce? ['='] entry.toList).map fun (name, value) =>
      (String.ofList name, String.ofList value))

/-- The name of a run from random octets, in five groups of hexadecimal digits. The marks say that
the name is random. -/
def runId (octets : ByteArray) : RunId :=
  let marked := octets.toList.mapIdx fun i octet =>
    let n := octet.toNat
    if i = 6 then n % 16 + 4 * 16 else if i = 8 then n % 64 + 128 else n
  let digits := marked.flatMap fun n => [Nat.digitChar (n / 16), Nat.digitChar (n % 16)]
  let group (start stop : Nat) := String.ofList ((digits.take stop).drop start)
  "-".intercalate [group 0 8, group 8 12, group 12 16, group 16 20, group 20 32]

/-- The place of a path among directories that lead nowhere else. -/
def placeOf (current : Location) (path : String) : Location :=
  (Path.names path).foldl
    (fun location name => if name = ".." then location.dropLast else location ++ [name])
    (if Path.isAbsolute path then [] else current)

/-- The tree of the files with these paths and contents. -/
def tree (current : Location) (files : List (String × ByteArray)) : FileTree :=
  let start := { FileTree.empty.makeDirectories current with current := current }
  files.foldl (fun tree (path, content) => tree.write (placeOf current path) content) start

/-- A change of a tree. -/
inductive Change where
  | write (location : Location) (content : ByteArray)
  | makeDirectory (location : Location)
  | removeFile (location : Location)

/-- Has something new been written to the place? -/
def change? (before : FileTree) : Location × FileEntry → Option Change
  | (location, .directory) =>
    if before.isDirectoryAt location then none else some (.makeDirectory location)
  | (location, .file content) =>
    match before.entry? location with
    | some (.file old) => if old.data = content.data then none else some (.write location content)
    | _ => some (.write location content)

/-- The files of a tree that another one lacks. -/
def lost (before after : FileTree) : List Change :=
  before.entries.filterMap fun
    | (location, .file _) =>
      if (after.entry? location).isSome then none else some (.removeFile location)
    | (_, .directory) => none

/-- What has to be done so that one tree becomes the other, directories from the outside in. The
files through which processes hand on values are no part of it. -/
def changes (before after : FileTree) : List Change :=
  let entries := after.entries.filter fun (location, _) =>
    !Launch.filesDirectory.isPrefixOf location
  lost before after ++
    (entries.mergeSort fun a b => a.1.length ≤ b.1.length).filterMap (change? before)

end Pipeline.CommandLine.Snapshot
