import Pipeline.Script.Builtin

/-! `find` and `xargs`, which start other commands for files and words. -/

namespace Pipeline.Script

open Steps

namespace Find

/-- What is asked of a file, or done with it. -/
inductive Expression where
  | always (value : Bool)
  /-- The name fits a pattern. -/
  | name (fold : Bool) (pattern : Pattern)
  /-- The path fits a pattern. -/
  | path (pattern : Pattern)
  | kind (letter : Char)
  | empty
  | size (test : Nat → Bool)
  | print (ending : Octets)
  | delete
  | prune
  | execute (words : List Octets)
  /-- The command runs once, for all files together. -/
  | gather (words : List Octets)
  | negation (inner : Expression)
  | both (first second : Expression)
  | either (first second : Expression)

/-- What a search is asked for. -/
structure Query where
  paths : List String
  least : Nat
  most : Option Nat
  deepFirst : Bool
  expression : Expression

/-- The limits that stand among the words of an expression. -/
structure Limits where
  least : Nat
  most : Option Nat
  deepFirst : Bool

/-- What a reading step gives. -/
abbrev Read := Except String (Expression × Limits × List Octets)

/-- The test of a size that a word writes. -/
def sizeTest (word : Octets) : Nat → Bool :=
  let (sign, rest) := match word with
    | '+' :: rest => (1, rest)
    | '-' :: rest => (2, rest)
    | rest => (0, rest)
  let digits := rest.takeWhile Char.isDigit
  let unit := match rest.drop digits.length with
    | ['c'] => 1
    | ['k'] => 1024
    | ['M'] => 1048576
    | _ => 512
  let wanted := (String.ofList digits).toNat?.getD 0
  fun size =>
    let units := (size + unit - 1) / unit
    if sign = 1 then units > wanted else if sign = 2 then units < wanted else units = wanted

mutual

/-- Alternatives at the front of the words. -/
def readEither : Nat → Limits → List Octets → Read
  | 0, _, _ => .error "expression too deep"
  | fuel + 1, limits, words => do
    let (first, limits, rest) ← readBoth fuel limits words
    match rest with
    | ['-', 'o'] :: rest =>
      let (second, limits, rest) ← readEither fuel limits rest
      pure (.either first second, limits, rest)
    | rest => pure (first, limits, rest)

/-- Conditions that all have to hold, at the front of the words. -/
def readBoth : Nat → Limits → List Octets → Read
  | 0, _, _ => .error "expression too deep"
  | fuel + 1, limits, words => do
    let (first, limits, rest) ← readOne fuel limits words
    match rest with
    | [] | [')'] :: _ | ['-', 'o'] :: _ => pure (first, limits, rest)
    | rest =>
      let rest := if rest.head? = some ['-', 'a'] then rest.drop 1 else rest
      let (second, limits, rest) ← readBoth fuel limits rest
      pure (.both first second, limits, rest)

/-- One condition at the front of the words. -/
def readOne : Nat → Limits → List Octets → Read
  | 0, _, _ => .error "expression too deep"
  | fuel + 1, limits, words => do
    match words with
    | [] => pure (.always true, limits, [])
    | ['!'] :: rest =>
      let (inner, limits, rest) ← readOne fuel limits rest
      pure (.negation inner, limits, rest)
    | ['('] :: rest =>
      let (inner, limits, rest) ← readEither fuel limits rest
      pure (inner, limits, rest.drop 1)
    | word :: rest =>
      let pattern (o : Octets) : Pattern := Pattern.of (Marked.of false o)
      let one (expression : Expression) : Read := pure (expression, limits, rest)
      let number (o : Octets) : Nat := o.toText.toNat?.getD 0
      match word.toText, rest with
      | "-name", value :: rest => pure (.name false (pattern value), limits, rest)
      | "-iname", value :: rest =>
        pure (.name true (pattern (value.map Char.toLower)), limits, rest)
      | "-path", value :: rest | "-wholename", value :: rest =>
        pure (.path (pattern value), limits, rest)
      | "-type", [c] :: rest => pure (.kind c, limits, rest)
      | "-size", value :: rest => pure (.size (sizeTest value), limits, rest)
      | "-maxdepth", value :: rest =>
        pure (.always true, { limits with most := some (number value) }, rest)
      | "-mindepth", value :: rest =>
        pure (.always true, { limits with least := number value }, rest)
      | "-mtime", _ :: rest | "-newer", _ :: rest | "-perm", _ :: rest =>
        pure (.always true, limits, rest)
      | "-not", rest =>
        let (inner, limits, rest) ← readOne fuel limits rest
        pure (.negation inner, limits, rest)
      | "-depth", rest => pure (.always true, { limits with deepFirst := true }, rest)
      | "-empty", _ => one .empty
      | "-print", _ => one (.print ['\n'])
      | "-print0", _ => one (.print ['\x00'])
      | "-true", _ => one (.always true)
      | "-false", _ => one (.always false)
      | "-prune", _ => one .prune
      | "-delete", rest => pure (.delete, { limits with deepFirst := true }, rest)
      | "-exec", rest | "-execdir", rest =>
        let command := rest.takeWhile fun o => o ≠ [';'] && o ≠ ['+']
        let after := rest.drop command.length
        let isGather := after.head? = some ['+'] && command.getLast? = some ['\x7b', '\x7d']
        if isGather then pure (.gather command.dropLast, limits, after.drop 1)
        else if after.isEmpty then throw "missing argument to \x60-exec'"
        else pure (.execute command, limits, after.drop 1)
      | option, _ =>
        if option.startsWith "-" then throw ("unknown predicate \x60" ++ option ++ "'")
        else throw ("paths must precede expression: \x60" ++ option ++ "'")

end

/-- Does an expression do anything by itself? -/
def Expression.acts : Expression → Bool
  | .print _ | .delete | .execute _ | .gather _ => true
  | .negation inner => inner.acts
  | .both a b | .either a b => a.acts || b.acts
  | _ => false

/-- The query of arguments. Without anything to do, the paths are printed. -/
def read (arguments : List Octets) : Except String Query := do
  let isPath (o : Octets) : Bool := o.head? ≠ some '-' && o ≠ ['!'] && o ≠ ['(']
  let paths := (arguments.takeWhile isPath).map Octets.toText
  let words := arguments.dropWhile isPath
  let (expression, limits, _) ← readEither (4 * words.length + 8) ⟨0, none, false⟩ words
  let expression := if expression.acts then expression else .both expression (.print ['\n'])
  pure ⟨if paths.isEmpty then ["."] else paths, limits.least, limits.most, limits.deepFirst,
    expression⟩

/-- A file that the search comes to: its path, its name, where it is and how deep. -/
structure Visit where
  path : String
  name : String
  place : Location
  depth : Nat

/-- What a search has done so far: the files for commands that run once, and whether what is below
the current file is left out. -/
structure Progress where
  gathered : List (List Octets × List Octets)
  pruned : Bool

/-- Carries out an expression for a file. -/
def evaluate (execute : List Octets → Steps Unit) (visit : Visit) :
    Expression → StateT Progress Steps Bool
  | .always value => pure value
  | .name fold pattern => do
    let name := Octets.ofText visit.name
    return Pattern.matchesAll pattern (if fold then name.map Char.toLower else name)
  | .path pattern => return Pattern.matchesAll pattern (Octets.ofText visit.path)
  | .kind letter => do
    let m ← (get : Steps Machine)
    return if letter = 'd' then m.tree.isDirectoryAt visit.place
      else letter = 'f' && !m.tree.isDirectoryAt visit.place
  | .empty => do
    match (← (get : Steps Machine)).tree.entry? visit.place with
    | some (.file content) => return content.size = 0
    | _ => return ((← (get : Steps Machine)).tree.namesAt visit.place).isEmpty
  | .size test => do
    match (← (get : Steps Machine)).tree.entry? visit.place with
    | some (.file content) => return test content.size
    | _ => return test 4096
  | .print ending => do
    (emit 1 (Octets.ofText visit.path ++ ending) : Steps Unit)
    pure true
  | .delete => do
    (modify fun m => { m with tree := m.tree.remove visit.place } : Steps Unit)
    pure true
  | .prune => do
    modify fun p => { p with pruned := true }
    pure true
  | .execute words => do
    let path := Octets.ofText visit.path
    let put (word : Octets) : Octets :=
      if word = ['\x7b', '\x7d'] then path
      else Pattern.replace (Pattern.of (Marked.of true ['\x7b', '\x7d'])) path .every
        (word.length + 1) word
    (execute (words.map put) : Steps Unit)
    return (← (get : Steps Machine)).status = 0
  | .gather words => do
    modify fun p =>
      let path := Octets.ofText visit.path
      { p with gathered :=
          match p.gathered.lookup words with
          | some paths =>
            (words, paths ++ [path]) :: p.gathered.filter (·.1 ≠ words)
          | none => (words, [path]) :: p.gathered }
    pure true
  | .negation inner => return !(← evaluate execute visit inner)
  | .both first second => do
    if ← evaluate execute visit first then evaluate execute visit second else pure false
  | .either first second => do
    if ← evaluate execute visit first then pure true else evaluate execute visit second

/-- Visits a file and what is below it. -/
def visitAll (execute : List Octets → Steps Unit) (query : Query) :
    Nat → Visit → StateT Progress Steps Unit
  | 0, _ => pure ()
  | fuel + 1, visit => do
    let here : StateT Progress Steps Unit := do
      if query.least ≤ visit.depth then discard (evaluate execute visit query.expression)
    if !query.deepFirst then here
    let isPruned := (← get).pruned
    modify fun p => { p with pruned := false }
    if !isPruned && query.most.all (visit.depth < ·) then
      for name in (← (get : Steps Machine)).tree.namesAt visit.place do
        let front := if visit.path.endsWith "/" then visit.path else visit.path ++ "/"
        visitAll execute query fuel ⟨front ++ name, name, visit.place ++ [name], visit.depth + 1⟩
    if query.deepFirst then here

/-- `find`. -/
def run (execute : List Octets → Steps Unit) (arguments : List Octets) : Steps Unit := do
  match read arguments with
  | .error why =>
    emit 2 (Octets.ofText ("find: " ++ why ++ "\n"))
    setStatus 1
  | .ok query =>
    let mut failed := false
    for path in query.paths do
      let m ← get
      match m.files.find? path, m.files.locate? path with
      | some _, some place =>
        let name := (Path.fileName? path).getD path
        let (_, progress) ← (visitAll execute query 1000 ⟨path, name, place, 0⟩).run ⟨[], false⟩
        for (words, paths) in progress.gathered.reverse do execute (words ++ paths)
      | _, _ =>
        emit 2 (Octets.ofText ("find: '" ++ path ++ "': No such file or directory\n"))
        failed := true
    setStatus (if failed then 1 else 0)

end Find

namespace Batches

/-- The words of a text: quotation marks and backslashes protect blanks. -/
def splitWords : Nat → Option Octets → Octets → List Octets
  | 0, _, _ => []
  | fuel + 1, current, cs =>
    match cs with
    | [] => (current.map List.reverse).toList
    | '\\' :: c :: rest => splitWords fuel (some (c :: current.getD [])) rest
    | c :: rest =>
      if c = ' ' || c = '\t' || c = '\n' then
        (current.map List.reverse).toList ++ splitWords fuel none rest
      else if c = '"' || c = '\'' then
        let inner := rest.takeWhile (· ≠ c)
        splitWords fuel (some (inner.reverse ++ current.getD [])) (rest.drop (inner.length + 1))
      else splitWords fuel (some (c :: current.getD [])) rest

/-- Groups of at most some size. -/
def groups (size : Nat) : Nat → List Octets → List (List Octets)
  | 0, _ => []
  | fuel + 1, words =>
    if words.isEmpty then [] else words.take size :: groups size fuel (words.drop size)

/-- What the front of the arguments asks for, and the command after it. -/
def split : Nat → List Octets → List (Char × Octets) × List Octets
  | 0, words => ([], words)
  | fuel + 1, words =>
    match words with
    | ('-' :: letter :: value) :: rest =>
      if "nIdLsP".toList.contains letter then
        let (value, rest) := if value.isEmpty then (rest.head?.getD [], rest.drop 1)
          else (value, rest)
        let (options, command) := split fuel rest
        ((letter, value) :: options, command)
      else
        let (options, command) := split fuel rest
        ((letter, []) :: options, command)
    | words => ([], words)

/-- `xargs`. -/
def run (execute : List Octets → Steps Unit) (arguments : List Octets) : Steps Unit := do
  let input := (← get).input
  modify fun m => { m with input := [] }
  let (options, command) := split (arguments.length + 1) arguments
  let command := if command.isEmpty then ["echo".toList] else command
  let lines := (Octets.lines input).filter (!·.isEmpty)
  let marked (mark : Char) : List Octets :=
    ((input.splitOn mark).filter (!·.isEmpty)).map fun o => if o = ['\n'] then [] else o
  let words :=
    match options.lookup '0', options.lookup 'd', options.lookup 'I' with
    | some _, _, _ => marked '\x00'
    | _, some mark, _ => marked (if mark = "\\n".toList then '\n' else mark.head?.getD '\n')
    | _, _, some _ => lines.map fun (line : Octets) => line.dropWhile fun c => c = ' ' || c = '\t'
    | _, _, _ => splitWords (input.length + 1) none input
  let commands : List (List Octets) :=
    match options.lookup 'I' with
    | some mark =>
      words.map fun (word : Octets) => command.map fun (part : Octets) =>
        Pattern.replace (Pattern.of (Marked.of true mark)) word .every (part.length + 1) part
    | none =>
      let size := ((options.lookup 'n').or (options.lookup 'L')).bind fun o => o.toText.toNat?
      if words.isEmpty then if (options.lookup 'r').isSome then [] else [command]
      else
        (groups (max (size.getD words.length) 1) (words.length + 1) words).map (command ++ ·)
  let mut failed := false
  for words in commands do
    execute words
    if (← get).status ≠ 0 then failed := true
  setStatus (if failed then 123 else 0)

end Batches

end Pipeline.Script
