import Pipeline.Script.Call

/-! Programs that work on files and directories. -/

namespace Pipeline.Script.Tool

/-- `rm`. -/
def remove (call : Call) : Effect :=
  let (options, operands) := call.splitOptions
  let force := options.contains 'f'
  let deep := options.contains 'r' || options.contains 'R'
  if operands.isEmpty && !force then
    let message := "rm: missing operand\nTry 'rm --help' for more information.\n"
    ⟨[], Octets.ofText message, 1, call.files, call.input⟩
  else
    call.forEach operands fun files path =>
      match files.find? path, files.locate? path with
      | some .directory, some place =>
        if deep then .ok (files.remove place)
        else .error ("cannot remove '" ++ path ++ "': Is a directory")
      | some (.file _), some place => .ok (files.remove place)
      | _, _ =>
        .error (if force then "" else "cannot remove '" ++ path ++ "': No such file or directory")

/-- `rmdir`. -/
def removeDirectory (call : Call) : Effect :=
  call.forEach call.splitOptions.2 fun files path =>
    let failed (why : String) := Except.error ("failed to remove '" ++ path ++ "': " ++ why)
    match files.find? path, files.locate? path with
    | some .directory, some place =>
      if (files.namesAt place).isEmpty then .ok (files.remove place)
      else failed "Directory not empty"
    | some (.file _), _ => failed "Not a directory"
    | _, _ => failed "No such file or directory"

/-- `mkdir`. -/
def makeDirectory (call : Call) : Effect :=
  let (options, operands) := call.splitOptions
  call.forEach operands fun files path =>
    let failed (why : String) :=
      Except.error ("cannot create directory '" ++ path ++ "': " ++ why)
    if options.contains 'p' then
      match files.find? path with
      | some .directory => .ok files
      | some (.file _) => failed "File exists"
      | none =>
        .ok (files.makeDirectories
          ((if Path.isAbsolute path then [] else files.current) ++ Path.names path))
    else if files.holds path then failed "File exists"
    else
      match Call.placeFor? files path with
      | some place => .ok (files.put place .directory)
      | none => failed "No such file or directory"

/-- `touch`. -/
def touch (call : Call) : Effect :=
  call.forEach call.splitOptions.2 fun files path =>
    if files.holds path then .ok files
    else
      match Call.placeFor? files path with
      | some place => .ok (files.put place (.file .empty))
      | none => .error ("cannot touch '" ++ path ++ "': No such file or directory")

/-- Where a copy of a file goes: below a directory under its own name, or to the path itself. -/
def destination? (files : FileTree) (source target : String) : Option Location :=
  if files.isDirectory target then
    (files.locate? target).bind fun place =>
      (Path.fileName? source).map fun name => place ++ [name]
  else Call.placeFor? files target

/-- `cp` and `mv`. -/
def copy (move : Bool) (call : Call) : Effect :=
  let (options, operands) := call.splitOptions
  let target := Octets.toText (operands.getLast?.getD [])
  let deep := move || options.contains 'r' || options.contains 'R' || options.contains 'a'
  call.forEach operands.dropLast fun files source =>
    match files.find? source, files.locate? source, destination? files source target with
    | none, _, _ => .error ("cannot stat '" ++ source ++ "': No such file or directory")
    | some _, some origin, some goal =>
      if files.isDirectoryAt origin && !deep then
        .error ("-r not specified; omitting directory '" ++ source ++ "'")
      else
        let moved := files.entries.filterMap fun (place, entry) =>
          if origin.isPrefixOf place then some (goal ++ place.drop origin.length, entry) else none
        let files := if move then files.remove origin else files
        .ok (moved.foldl (fun files (place, entry) => files.put place entry) files)
    | _, _, _ => .error ("cannot create regular file '" ++ target ++ "': No such file or directory")

/-- `ls`. -/
def list (call : Call) : Effect :=
  let (options, operands) := call.splitOptions
  let hidden := options.contains 'a' || options.contains 'A'
  let namesOf (place : Location) : List Octets :=
    let names := (call.files.namesAt place).filter fun name => hidden || !name.startsWith "."
    let names := if options.contains 'a' then "." :: ".." :: names else names
    names.map Octets.ofText
  let targets := if operands.isEmpty then ["."] else Call.paths operands
  let missing := targets.filter fun path => !call.files.holds path
  let plain := targets.filter call.files.isFile
  let directories := targets.filter fun path =>
    call.files.isDirectory path && !options.contains 'd'
  let plain := plain ++ targets.filter fun path =>
    call.files.isDirectory path && options.contains 'd'
  let errors := missing.flatMap fun path =>
    call.message ("cannot access '" ++ path ++ "': No such file or directory")
  let listed := directories.map fun path =>
    let names := Octets.unlines (((call.files.locate? path).map namesOf).getD [])
    if targets.length > 1 then Octets.ofText (path ++ ":\n") ++ names else names
  let front := Octets.unlines (plain.mergeSort.map Octets.ofText)
  let blocks := (if front.isEmpty then [] else [front]) ++ listed
  ⟨['\n'].intercalate blocks, errors, if missing.isEmpty then 0 else 2, call.files, call.input⟩

/-- `basename`. -/
def baseName (call : Call) : Effect :=
  let name := (call.arguments.head?.bind fun o => Path.fileName? o.toText).getD "/"
  let name := Octets.ofText name
  let suffix := call.arguments[1]?.getD []
  let name :=
    if suffix.isSuffixOf name && suffix ≠ name then name.take (name.length - suffix.length)
    else name
  call.prints (name ++ ['\n'])

/-- `dirname`. -/
def directoryName (call : Call) : Effect :=
  let path := (call.arguments.head?.getD []).reverse.dropWhile (· = '/')
  let above := (path.dropWhile (· ≠ '/')).dropWhile (· = '/')
  let isTop := path.contains '/' || (call.arguments.head?.getD []).head? = some '/'
  let result := if above.isEmpty then if isTop then ['/'] else ['.'] else above.reverse
  call.prints (result ++ ['\n'])

/-- `cat`. -/
def concatenate (call : Call) : Effect :=
  let request := call.request [] [("number", 'n'), ("show-ends", 'E')]
  let shown (octets : Octets) : Octets :=
    if !request.has 'n' && !request.has 'A' && !request.has 'E' then octets
    else
      Octets.unlines ((Octets.lines octets).mapIdx fun i line =>
        let digits := (toString (i + 1)).toList
        let front := if request.has 'n' then
          List.replicate (6 - digits.length) ' ' ++ digits ++ ['\t'] else []
        front ++ line ++ (if request.has 'A' || request.has 'E' then ['$'] else []))
  call.filter request.operands shown

/-- `realpath`, and `readlink -f`. -/
def realPath (call : Call) : Effect :=
  let request := call.request [] []
  let found := (Call.paths request.operands).map fun path =>
    (Call.placeFor? call.files path).elim
      (.error (call.message (path ++ ": No such file or directory")))
      (fun place => Except.ok (Octets.ofText (Location.render place)))
  if call.name = "readlink" && !request.has 'f' then call.ends 1
  else
    ⟨Octets.unlines (found.filterMap Except.toOption), found.flatMap fun
      | .ok _ => []
      | .error message => message, if found.all fun
        | .ok _ => true
        | .error _ => false then 0 else 1, call.files, call.input⟩

/-- How many octets stand at a path. -/
def sizeAt (files : FileTree) (path : String) : Nat :=
  match files.find? path with
  | some (.file content) => content.size
  | _ => 4096

/-- `stat`, with a format. -/
def describe (call : Call) : Effect :=
  let request := call.request ['c'] [("format", 'c')]
  let format := (request.value? 'c').getD []
  let rec write (path : String) : Octets → Octets
    | '%' :: 's' :: rest => (toString (sizeAt call.files path)).toList ++ write path rest
    | '%' :: 'n' :: rest => Octets.ofText path ++ write path rest
    | '%' :: 'F' :: rest =>
      (if call.files.isDirectory path then "directory"
        else if sizeAt call.files path = 0 then "regular empty file" else "regular file").toList ++
        write path rest
    | '%' :: 'a' :: rest => (if call.files.isDirectory path then "755" else "644").toList ++
        write path rest
    | c :: rest => c :: write path rest
    | [] => []
  (Call.paths request.operands).foldl (fun effect path =>
    if call.files.holds path then
      { effect with output := effect.output ++ write path format ++ ['\n'] }
    else
      { effect with
        errors := effect.errors ++
          call.message ("cannot statx '" ++ path ++ "': No such file or directory")
        status := 1 }) (call.prints [])

/-- `du`, in octets. -/
def diskUsage (call : Call) : Effect :=
  let request := call.request [] []
  call.prints (Octets.unlines ((Call.paths request.operands).map fun path =>
    Octets.ofText (toString (sizeAt call.files path) ++ "\t" ++ path)))

/-- `tee`. -/
def tee (call : Call) : Effect :=
  let (options, operands) := call.splitOptions
  let effect := call.forEach operands fun files path =>
    match Call.placeFor? files path with
    | some place =>
      let before := if options.contains 'a' then (files.read? path).getD .empty else .empty
      .ok (files.put place (.file (before ++ call.input.toBytes)))
    | none => .error (path ++ ": No such file or directory")
  { effect with output := call.input, input := [] }

/-- The environment, a variable on each line. -/
def showEnvironment (call : Call) : Effect :=
  if call.arguments.isEmpty then
    call.prints (call.environment.flatMap fun (name, value) =>
      Octets.ofText name ++ '=' :: value ++ ['\n'])
  else
    let values := call.arguments.map fun name => call.environment.get? name.toText
    { call.prints (Octets.unlines (values.filterMap id)) with
      status := if values.all Option.isSome then 0 else 1 }

end Pipeline.Script.Tool
