import Pipeline.Script.Call
import Pipeline.Script.Regex

/-! `grep`: the lines in which an expression occurs. -/

namespace Pipeline.Script.Tool

/-- The long names of the options of `grep`. -/
def searchNames : List (String × Char) :=
  [("quiet", 'q'), ("silent", 'q'), ("ignore-case", 'i'), ("invert-match", 'v'), ("count", 'c'),
    ("line-number", 'n'), ("only-matching", 'o'), ("fixed-strings", 'F'), ("extended-regexp", 'E'),
    ("word-regexp", 'w'), ("line-regexp", 'x'), ("recursive", 'r'), ("files-with-matches", 'l'),
    ("files-without-match", 'L'), ("no-filename", 'h'), ("with-filename", 'H'),
    ("max-count", 'm'), ("regexp", 'e'), ("no-messages", 's'), ("perl-regexp", 'P'),
    ("after-context", 'A'), ("before-context", 'B'), ("context", 'C')]

/-- All places in a line where one of some expressions fits, each with the size of the text. -/
def occurrences (fold : Bool) (regexes : List Regex) (line : Octets) :
    Nat → Nat → List (Nat × Nat)
  | 0, _ => []
  | fuel + 1, origin =>
    let found := regexes.filterMap fun r => Regex.findFrom? fold r line origin
    let first := found.foldl (fun (best : Option Regex.Found) next =>
      match best with
      | some b =>
        if next.start < b.start || (next.start = b.start && next.size > b.size) then some next
        else best
      | none => some next) none
    match first with
    | none => []
    | some f =>
      if f.size = 0 then
        if f.start < line.length then occurrences fold regexes line fuel (f.start + 1) else []
      else (f.start, f.size) :: occurrences fold regexes line fuel (f.start + f.size)

/-- The numbers of the lines that are shown around the chosen ones. -/
def withContext (before after total : Nat) (chosen : List Nat) : List Nat :=
  (List.range total).filter fun i => chosen.any fun n => n ≤ i + before && i ≤ n + after

/-- What `grep` does with one text: how many lines are chosen, and what it prints. -/
def searchText (request : Request) (regexes : List Regex) (name : Option String)
    (octets : Octets) : Nat × Octets :=
  let fold := request.has 'i'
  let lines := Octets.lines octets
  let chosen := ((lines.mapIdx fun i line => (i, line)).filter fun (_, line) =>
    (regexes.any fun r => Regex.occurs fold r line) != request.has 'v').map (·.1)
  let chosen := (request.number? 'm').elim chosen chosen.take
  let named := name.isSome && !request.has 'h'
  let front (mark : Char) (i : Nat) : Octets :=
    (if named then Octets.ofText (name.getD "") ++ [mark] else []) ++
      (if request.has 'n' then (toString (i + 1)).toList ++ [mark] else [])
  let context (letter : Char) : Nat :=
    ((request.number? letter).or (request.number? 'C')).getD 0
  let output :=
    if request.has 'q' then []
    else if request.has 'c' then
      (if named then Octets.ofText (name.getD "" ++ ":") else []) ++
        (toString chosen.length).toList ++ ['\n']
    else if request.has 'l' || request.has 'L' then
      if chosen.isEmpty == request.has 'L' then
        Octets.ofText (name.getD "(standard input)" ++ "\n")
      else []
    else if request.has 'o' then
      chosen.flatMap fun i =>
        let line := lines[i]?.getD []
        (occurrences fold regexes line (line.length + 2) 0).flatMap fun (start, size) =>
          front ':' i ++ (line.drop start).take size ++ ['\n']
    else
      let before := context 'B'
      let after := context 'A'
      let shown := withContext before after lines.length chosen
      (shown.zip (none :: shown.map some)).flatMap fun (i, previous) =>
        let isGap := before + after > 0 && previous.any (· + 1 < i)
        (if isGap then "--\n".toList else []) ++
          front (if chosen.contains i then ':' else '-') i ++ lines[i]?.getD [] ++ ['\n']
  (chosen.length, output)

/-- The files below a directory. -/
def filesBelow (files : FileTree) (path : String) : List String :=
  match files.find? path, files.locate? path with
  | some .directory, some place =>
    let front := if path.endsWith "/" then path else path ++ "/"
    ((files.entries.filterMap fun (location, entry) =>
      match entry with
      | .file _ =>
        if place.isPrefixOf location then
          some (front ++ "/".intercalate (location.drop place.length))
        else none
      | .directory => none)).mergeSort
  | _, _ => [path]

/-- `grep`. -/
def search (call : Call) : Effect :=
  let request := call.request ['e', 'f', 'm', 'A', 'B', 'C'] searchNames
  let given := (request.values.filter (·.1 = 'e')).map (·.2)
  let (patterns, operands) :=
    if given.isEmpty then (request.operands.take 1, request.operands.drop 1)
    else (given, request.operands)
  if patterns.isEmpty then
    let usage := "Usage: grep [OPTION]... PATTERNS [FILE]...\nTry 'grep --help' for more " ++
      "information.\n"
    ⟨[], Octets.ofText usage, 2, call.files, call.input⟩
  else
    let extended := request.has 'E' || request.has 'P' || call.name.endsWith "egrep"
    let texts := patterns.flatMap fun p => if p.isEmpty then [[]] else Octets.lines p
    let read (text : Octets) : Option Regex :=
      if request.has 'F' then some (Regex.fixed text) else Regex.read? extended text
    let shaped (regex : Regex) : Regex :=
      let regex := if request.has 'w' then Regex.wholeWords regex else regex
      if request.has 'x' then Regex.wholeLine regex else regex
    match texts.mapM read with
    | none => call.fails "Unmatched ( or \\(" 2
    | some regexes =>
      let regexes := regexes.map shaped
      let deep := request.has 'r' || request.has 'R'
      let paths := Call.paths operands
      let paths :=
        if !deep then paths
        else if paths.isEmpty then
          (filesBelow call.files ".").map fun path => (path.drop 2).toString
        else paths.flatMap (filesBelow call.files)
      let named := paths.length > 1 || deep || request.has 'H'
      let step (state : Effect × Nat) (path : String) : Effect × Nat :=
        let (effect, n) := state
        match call.content path with
        | .ok octets =>
          let name := if named || request.has 'l' || request.has 'L' then some path else none
          let (found, output) := searchText request regexes name octets
          ({ effect with output := effect.output ++ output }, n + found)
        | .error text =>
          let errors := if request.has 's' then effect.errors
            else effect.errors ++ call.message text
          ({ effect with errors := errors, status := 2 }, n)
      if paths.isEmpty then
        let (n, output) := searchText request regexes none call.input
        { call.prints output with input := [], status := if n = 0 then 1 else 0 }
      else
        let (effect, n) := paths.foldl step (call.prints [], 0)
        { effect with
          status := if effect.status = 2 then (if request.has 'q' && n > 0 then 0 else 2)
            else if n = 0 then 1 else 0 }

end Pipeline.Script.Tool
