import Pipeline.Script.Find
import Pipeline.Script.Indented.Run
import Pipeline.Script.Messages
import Pipeline.Script.Parameters
import Pipeline.Script.Redirect

/-! Running scripts. Nesting is bounded by `fuel`; loops are bounded on their own. -/

namespace Pipeline.Script

open Steps

/-- How deep commands may be nested. -/
def nestingLimit : Nat := 20000

/-- How often a loop may turn. -/
def turnLimit : Nat := 1000000

/-- Turns a body again and again as long as its test succeeds. The status is that of the last
turn. -/
def turn (test : Steps Bool) (body after : Steps Unit) :
    Nat → Nat → Machine → Except Stop Unit × Machine
  | 0, _, m => (.error .exhausted, m)
  | turns + 1, last, m =>
    match (test.run).run m with
    | (.ok false, m) => (.ok (), { m with status := last })
    | (.error (.leave levels), m) =>
      if levels ≤ 1 then (.ok (), m) else (.error (.leave (levels - 1)), m)
    | (.error stop, m) => (.error stop, m)
    | (.ok true, m) =>
      let ending := (body.run).run m
      match ending with
      | (.error (.leave levels), m) =>
        if levels ≤ 1 then (.ok (), m) else (.error (.leave (levels - 1)), m)
      | (.error (.skip (levels + 2)), m) => (.error (.skip (levels + 1)), m)
      | (.ok (), m) | (.error (.skip _), m) =>
        match (after.run).run m with
        | (.ok (), next) => turn test body after turns m.status next
        | (.error stop, m) => (.error stop, m)
      | (.error stop, m) => (.error stop, m)

/-- Runs a body for each of some words. -/
def forEach (body : Octets → Steps Unit) : List Octets → Steps Unit
  | [] => pure ()
  | word :: rest => fun m =>
    match ((body word).run).run m with
    | (.ok (), m) => (forEach body rest).run m
    | (.error (.leave levels), m) =>
      if levels ≤ 1 then (.ok (), m) else (.error (.leave (levels - 1)), m)
    | (.error (.skip levels), m) =>
      if levels ≤ 1 then (forEach body rest).run m else (.error (.skip (levels - 1)), m)
    | (.error stop, m) => (.error stop, m)

/-- What is left of a scene for a program: the variables that programs see. -/
def onlyExported (s : Scene) : Scene :=
  { s with
    store := s.store.filter (·.2.exported)
    constants := []
    functions := []
    hidden := []
    callers := []
    traps := [] }

/-- The scene of another shell that runs a script. -/
def sceneOf (shell : Shell) (name : Octets) (inline : Bool) (arguments : List Octets) (s : Scene) :
    Scene :=
  { onlyExported s with
    shell := shell
    name := name
    inline := inline
    arguments := arguments
    store := (Machine.ownVariables shell).override (s.store.filter (·.2.exported))
    options := ⟨false, false, false, false, false, false, false⟩ }

/-- The shell that a script asks for in its first line. -/
def shellOf (default : Shell) (content : Octets) : Shell :=
  let line := content.takeWhile (· ≠ '\n')
  if !"#!".toList.isPrefixOf line then default
  else
    let name := ((line.splitOnP fun c => c = '/' || c = ' ').getLast?).getD []
    match String.ofList name with
    | "bash" => .bash
    | "python3" | "python" => .python
    | _ => .sh

/-- Keeps the statuses of the stages of a pipeline for the script. -/
def keepStatuses (statuses : List Nat) : Steps Unit := do
  if ← inBash then
    let row : Variable := ⟨rowOf (statuses.map fun (n : Nat) => Octets.ofInt n), false⟩
    changeScene fun s => { s with store := s.store.insert "PIPESTATUS" row }

/-- The text of a regular expression in which what is quoted stands for itself. -/
def regexText (marked : Marked) : Octets :=
  marked.flatMap fun (c, quoted) =>
    if quoted && !Octets.isNameChar c then ['\\', c] else [c]

/-- Does a text fit a regular expression? What its groups take up is kept for the script. -/
def fitsRegex (text : Octets) (marked : Marked) : Steps Bool := do
  match Regex.read? true (regexText marked) with
  | none => pure false
  | some regex =>
    match Regex.find? false regex text with
    | none =>
      hold "BASH_REMATCH" (.row [])
      pure false
    | some found =>
      let last := (found.groups.map (·.1)).foldl max 0
      hold "BASH_REMATCH" (rowOf ((List.range (last + 1)).map (found.group text)))
      pure true

/-- Are there outputs of scripts to be read like files among the words? -/
def hasStreams (words : List Word) : Bool :=
  words.any fun word => word.any fun
    | .stream _ => true
    | _ => false

/-- The directory of the outputs of scripts that are read like files. -/
def streamDirectory : Location := ["dev", "fd"]

mutual

/-- The pieces of a word. -/
def expandWord : Nat → Word → Steps (List Piece)
  | 0, _ => throw .exhausted
  | _ + 1, [] => pure []
  | fuel + 1, part :: rest => do
    let first ← expandPart fuel part
    let others ← expandWord fuel rest
    pure (first ++ others)

/-- The text of a word. -/
def expandText : Nat → Word → Steps Octets
  | 0, _ => throw .exhausted
  | fuel + 1, word => do return Piece.text (← expandWord fuel word)

/-- The output of a script. -/
def outputOf : Nat → Octets → Steps Octets
  | 0, _ => throw .exhausted
  | fuel + 1, script => do
    let (status, text) ← capture <| inSubshell <| withFarewell fuel do
      if ← inBash then setLetter false 'e'
      runText fuel script
    modify fun m => { m with taken := some status }
    pure text

/-- The pieces of a part of a word. -/
def expandPart : Nat → Part → Steps (List Piece)
  | 0, _ => throw .exhausted
  | fuel + 1, part => do
    let isBash ← inBash
    match part with
    | .text quoted octets => pure [if quoted then .kept octets else .bare octets]
    | .home =>
      match (← get).value? "HOME" with
      | some home => pure [.kept home]
      | none => pure [if isBash then .kept "/root".toList else .bare ['~']]
    | .output quoted script => do
      return [.ofValue quoted (← outputOf fuel script).dropLineFeeds]
    | .stream script => do
      let text ← outputOf fuel script
      let number := 63 - ((← get).tree.namesAt streamDirectory).length
      let place := streamDirectory ++ [toString number]
      modify fun m => { m with tree := m.tree.write place text.toBytes }
      pure [.kept (Octets.ofText (Location.render place))]
    | .escaped octets =>
      if isBash then pure [.kept (Format.pass .bash (octets.length + 1)
        (octets.flatMap fun c => if c = '%' then ['%', '%'] else [c]) []).text]
      else pure [.bare ['$'], .kept octets]
    | .arithmetic quoted expression => do
      let text ← expandText fuel expression
      let text := if isBash then text.filter (· ≠ '"') else text
      pure [.ofValue quoted (Octets.ofInt (← calculate text))]
    | .unknown octets =>
      if isBash then fail ("$\x7b" ++ octets.toText ++ "\x7d: bad substitution") 1
      else fail "Bad substitution" 2
    | .parameter quoted name item use word => expandParameter fuel quoted name item use word

/-- The pieces of a parameter. -/
def expandParameter : Nat → Bool → String → Word → ParameterUse → Word → Steps (List Piece)
  | 0, _, _, _, _, _ => throw .exhausted
  | fuel + 1, quoted, name, item, use, word => do
    if !item.isEmpty then onlyInBash
    let slot ← if item.isEmpty || (isWholeRow item).isSome then pure .whole
      else do slotNamed name (← expandText fuel item)
    let m ← get
    let values := valuesOf m name item slot
    let separators := (m.value? "IFS").getD blankSeparators
    let inner (pieces : List Piece) := if quoted then pieces else pieces.map Piece.loosen
    let shown (values : Values) : List Piece := values.pieces separators quoted
    let pattern : Steps Pattern := do return Pattern.of (Piece.join (← expandWord fuel word))
    match use with
    | .value => do
      checkSet name values
      pure (shown values)
    | .length => do
      checkSet name values
      let size := match values with
        | .one value => (value.getD []).length
        | .many values _ => values.length
      pure [.ofValue quoted (Octets.ofInt size)]
    | .target => do
      onlyInBash
      match isWholeRow item with
      | some together =>
        let keys := ((m.scene.store.get? name).map (Content.keys ·.content)).getD []
        pure (shown (.many keys together))
      | none =>
        match values.all with
        | text :: _ =>
          let (name, item) := nameAndItem text
          let word := if item.isEmpty then [] else [Part.text false item]
          pure (shown (valuesOf (← get) name word (← slotNamed name item)))
        | [] => fail (name ++ ": invalid indirect expansion") 1
    | .default orEmpty =>
      if values.lacks orEmpty then return inner (← expandWord fuel word) else pure (shown values)
    | .assign orEmpty =>
      if values.lacks orEmpty then
        let text ← expandText fuel word
        assignIn name slot text
        pure [.ofValue quoted text]
      else pure (shown values)
    | .demand orEmpty =>
      if values.lacks orEmpty then
        let text ← expandText fuel word
        failUnset name
          (if !word.isEmpty then text.toText
            else if !orEmpty then "parameter not set"
            else if m.shell == .bash then "parameter null or not set"
            else "parameter not set or null")
      else pure (shown values)
    | .alternative orEmpty =>
      if values.lacks orEmpty then pure [.ofValue quoted []]
      else return inner (← expandWord fuel word)
    | .withoutPrefix longest => do
      checkSet name values
      let pattern ← pattern
      pure (shown (values.map (Pattern.cutPrefix pattern longest)))
    | .withoutSuffix longest => do
      checkSet name values
      let pattern ← pattern
      pure (shown (values.map (Pattern.cutSuffix pattern longest)))
    | .replaced occurrence => do
      onlyInBash
      checkSet name values
      let text := Piece.join (← expandWord fuel word)
      let front := text.takeWhile (·.1 ≠ '/')
      let replacement := Marked.octets (text.drop (front.length + 1))
      pure (shown (values.map fun value =>
        if front.isEmpty then value
        else Pattern.replace (Pattern.of front) replacement occurrence (value.length + 1) value))
    | .slice => do
      onlyInBash
      checkSet name values
      let text ← expandText fuel word
      let start := text.takeWhile (· ≠ ':')
      let first ← calculate start
      let size ← if start.length < text.length then
          do pure (some (← calculate (text.drop (start.length + 1))))
        else pure none
      pure (shown (values.slice m name first size))
    | .upper everywhere => do
      onlyInBash
      checkSet name values
      pure (shown (values.map (changeCase everywhere Char.toUpper)))
    | .lower everywhere => do
      onlyInBash
      checkSet name values
      pure (shown (values.map (changeCase everywhere Char.toLower)))
    | .transformed letter => do
      onlyInBash
      checkSet name values
      match values with
      | .one none => pure (shown values)
      | values => pure (shown (values.map (transform letter)))

/-- The words that words of the script stand for. -/
def expandWords : Nat → List Word → Steps (List Octets)
  | 0, _ => throw .exhausted
  | _ + 1, [] => pure []
  | fuel + 1, word :: rest => do
    let choices ← do
      if ← inBash then pure (braceWords word) else pure [word]
    match choices with
    | [word] =>
      let first ← expandFields fuel word
      return first ++ (← expandWords fuel rest)
    | words =>
      let first ← expandChoices fuel words
      return first ++ (← expandWords fuel rest)

/-- The words that words without choices in braces stand for. -/
def expandChoices : Nat → List Word → Steps (List Octets)
  | 0, _ => throw .exhausted
  | _ + 1, [] => pure []
  | fuel + 1, word :: rest => do
    let first ← expandFields fuel word
    return first ++ (← expandChoices fuel rest)

/-- The words that a word without choices in braces stands for. -/
def expandFields : Nat → Word → Steps (List Octets)
  | 0, _ => throw .exhausted
  | fuel + 1, word => do
    let pieces ← expandWord fuel word
    let m ← get
    let separators := (m.value? "IFS").getD blankSeparators
    pure ((Piece.split separators pieces).flatMap (wordsOf m.files m.scene.options))

/-- The items that a row is given: those with places, and those that follow the ones before. -/
def expandItems : Nat → List (Word × Word) → Steps (List (Option Octets × Octets))
  | 0, _ => throw .exhausted
  | _ + 1, [] => pure []
  | fuel + 1, (key, word) :: rest => do
    let first ← if key.isEmpty then do pure ((← expandWords fuel [word]).map (none, ·))
      else do pure [(some (← expandText fuel key), ← expandText fuel word)]
    return first ++ (← expandItems fuel rest)

/-- Carries out an assignment. The value is its text, for those who want to see it. -/
def bind : Nat → Binding → Steps Octets
  | 0, _ => throw .exhausted
  | fuel + 1, binding => do
    match binding.value with
    | .word word => do
      let text ← expandText fuel word
      let slot ← if binding.item.isEmpty then pure .whole
        else do slotNamed binding.name (← expandText fuel binding.item)
      let m ← get
      let before := if binding.appends then (m.valueIn? binding.name slot).getD [] else []
      assignIn binding.name slot (before ++ text)
      pure text
    | .items items => do
      let isTable := (← get).isTable binding.name
      let items ← expandItems fuel items
      let old := ((← get).scene.store.get? binding.name).map Variable.content
      if !binding.appends then hold binding.name (if isTable then .table [] else .row [])
      else if old.isNone then hold binding.name (.row [])
      for (key, value) in items do
        let m ← get
        let slot ← match key with
          | some key => slotNamed binding.name key
          | none =>
            let row := ((m.scene.store.get? binding.name).map (Content.asRow ·.content)).getD []
            pure (.number (Content.size row))
        assignIn binding.name slot value
      pure ['(', ')']

/-- Carries out assignments. -/
def bindAll : Nat → List Binding → Steps Unit
  | 0, _ => throw .exhausted
  | _ + 1, [] => pure ()
  | fuel + 1, binding :: rest => do
    let text ← bind fuel binding
    let m ← get
    if m.scene.options.xtrace then
      let shown := if text = ['(', ')'] then text else tracedWord (m.shell == .bash) text
      let shown := if text.isEmpty then [] else shown
      emit 2 ((m.value? "PS4").getD [] ++ Octets.ofText binding.name ++ '=' :: shown ++ ['\n'])
    bindAll fuel rest

/-- Carries out redirections. The value says whether all of them worked. -/
def redirectAll : Nat → List Redirection → Steps Bool
  | 0, _ => throw .exhausted
  | _ + 1, [] => pure true
  | fuel + 1, r :: rest => do
    let target ← expandText fuel r.target
    if ← redirect r.descriptor r.direction target then redirectAll fuel rest
    else
      setStatus (if ← inBash then 1 else 2)
      pure false

/-- Runs steps under redirections, unless those fail. -/
def redirecting : Nat → List Redirection → Steps Unit → Steps Unit
  | 0, _, _ => throw .exhausted
  | fuel + 1, redirections, steps => do
    let input := (← get).input
    withSinks do
      if ← redirectAll fuel redirections then
        try steps
        finally
          let isInput (r : Redirection) : Bool :=
            r.direction == .read || r.direction == .text || r.direction == .line
          if redirections.any isInput then modify fun m => { m with input := input }

/-- Runs steps to their end, and then what their traps ask for. -/
def withFarewell : Nat → Steps Unit → Steps Unit
  | 0, _ => throw .exhausted
  | fuel + 1, steps => do
    let farewell : Steps Unit := do
      let m ← get
      match m.scene.traps.get? "EXIT" with
      | none => pure ()
      | some action =>
        changeScene fun s => { s with traps := s.traps.erase "EXIT" }
        runText fuel action
        setStatus m.status
    tryCatch steps fun
      | .exit status | .back status => do
        setStatus status
        farewell
        throw (.exit status)
      | .leave _ | .skip _ => pure ()
      | stop => throw stop
    farewell

/-- Runs what the script wants to run when signals come. -/
def runPending : Nat → Steps Unit
  | 0 => throw .exhausted
  | fuel + 1 => do
    let m ← get
    if !m.pending.isEmpty then
      modify fun m => { m with pending := [] }
      for signal in m.pending do
        match m.scene.traps.get? signal with
        | some action => runText fuel action
        | none => pure ()
      setStatus m.status

/-- Ends the script if the last command failed and that counts. -/
def checkFailure : Nat → Bool → Steps Unit
  | 0, _ => throw .exhausted
  | fuel + 1, tested => do
    let m ← get
    if m.status ≠ 0 && !tested then
      match m.scene.traps.get? "ERR", m.scene.hidden.isEmpty with
      | some action, true =>
        changeScene fun s => { s with traps := s.traps.erase "ERR" }
        runText fuel action
        changeScene fun s => { s with traps := s.traps.insert "ERR" action }
        setStatus m.status
      | _, _ => pure ()
      if m.scene.options.errexit then throw (.exit m.status)

/-- Runs a script in another shell. -/
def runShell : Nat → Shell → Octets → Bool → List Octets → Octets → Octets → Steps Unit
  | 0, _, _, _, _, _, _ => throw .exhausted
  | fuel + 1, shell, name, inline, arguments, letters, script => do
    let status ← inSubshell <| withFarewell fuel do
      changeScene (sceneOf shell name inline arguments)
      for letter in letters do setLetter true letter
      match shell with
      | .python => Indented.run script
      | _ => runText fuel script
    setStatus status

/-- Runs a function. -/
def runFunction : Nat → Bool → String → Command → List Octets → Steps Unit
  | 0, _, _, _, _ => throw .exhausted
  | fuel + 1, tested, name, body, arguments => do
    let m ← get
    changeScene fun s =>
      { s with arguments := arguments, hidden := [] :: s.hidden, callers := name :: s.callers }
    if ← inBash then
      hold "FUNCNAME" (rowOf ((← get).scene.callers.map Octets.ofText))
    let leave : Steps Unit := do
      uncover ((← get).scene.hidden.head?.getD [])
      changeScene fun s =>
        { s with arguments := m.scene.arguments, hidden := s.hidden.drop 1,
                 callers := m.scene.callers }
      if ← inBash then
        if m.scene.callers.isEmpty then forget "FUNCNAME"
        else hold "FUNCNAME" (rowOf (m.scene.callers.map Octets.ofText))
    try
      tryCatch (run fuel tested body) fun
        | .back status => setStatus status
        | stop => throw stop
    finally leave

/-- Runs the words of a command. -/
def runWords : Nat → Bool → String → List Octets → Steps Unit
  | 0, _, _, _ => throw .exhausted
  | fuel + 1, tested, name, arguments => do
    let m ← get
    match m.scene.functions.get? name, builtin? m.shell name with
    | some body, _ => runFunction fuel tested name body arguments
    | none, some steps => steps arguments
    | none, none =>
      match scriptFile? m name, programName? name with
      | some place, _ =>
        match m.tree.entry? place with
        | some (.file content) =>
          let script := Octets.ofBytes content
          let path := if name.contains '/' then name else Location.render place
          runShell fuel (shellOf m.shell script) (Octets.ofText path) false arguments [] script
        | _ => notFound name
      | none, some program =>
        if !isProgram program then notFound name
        else
          match builtin? .bash program with
          | some steps => steps arguments
          | none => runInner fuel tested program arguments
      | none, none => runInner fuel tested name arguments

/-- Runs a command that has to do with other commands, or a program. -/
def runInner : Nat → Bool → String → List Octets → Steps Unit
  | 0, _, _, _ => throw .exhausted
  | fuel + 1, tested, name, arguments => do
    let m ← get
    let isBash := m.shell == .bash
    let execute (words : List Octets) : Steps Unit :=
      match words with
      | [] => setStatus 0
      | name :: arguments => runWords fuel tested name.toText arguments
    match name with
    | "eval" =>
      setStatus 0
      runText fuel (Format.joinWords arguments)
    | "source" => if isBash then runWords fuel tested "." arguments else notFound name
    | "." =>
      let path := (arguments.head?.getD []).toText
      match m.files.read? path with
      | some content =>
        changeScene fun s =>
          { s with callers := "source" :: s.callers,
                   arguments := if isBash && arguments.length > 1 then arguments.drop 1
                                else s.arguments }
        try
          tryCatch (runText fuel (Octets.ofBytes content)) fun
            | .back status => setStatus status
            | stop => throw stop
        finally
          changeScene fun s =>
            { s with callers := m.scene.callers,
                     arguments := if isBash && arguments.length > 1 then m.scene.arguments
                                  else s.arguments }
      | none =>
        if isBash then
          complain (path ++ ": No such file or directory")
          setStatus 1
        else fail (".: cannot open " ++ path ++ ": No such file") 2
    | "exec" =>
      match arguments with
      | [] => setStatus 0
      | words =>
        execute words
        throw (.exit (← get).status)
    | "command" =>
      match arguments with
      | ['-', 'v'] :: names =>
        setStatus 0
        for name in names do showOrigin 'v' name
      | ['-', 'V'] :: names =>
        setStatus 0
        for name in names do showOrigin 'V' name
      | words =>
        let words := if words.head? = some ['-', 'p'] then words.drop 1 else words
        let functions := m.scene.functions
        changeScene fun s =>
          { s with functions := s.functions.erase ((words.head?.getD []).toText) }
        try execute words
        finally changeScene fun s => { s with functions := functions }
    | "builtin" => if isBash then execute arguments else notFound name
    | "type" => showTypes arguments
    | "hash" => rememberAll arguments
    | "which" => showPaths arguments
    | "chmod" => changeMode arguments
    | "mktemp" => makeTemporary arguments
    | "find" => Find.run execute arguments
    | "xargs" => Batches.run execute arguments
    | "nice" | "nohup" =>
      execute (arguments.dropWhile fun o => o.head? = some '-' || o.all Char.isDigit)
    | "timeout" =>
      let command := (arguments.dropWhile (·.head? = some '-')).drop 1
      if command.head? = some "sleep".toList then setStatus 124 else execute command
    | "env" =>
      let bindings := arguments.takeWhile fun word => word.contains '=' || word.head? = some '-'
      let status ← inSubshell do
        changeScene onlyExported
        if bindings.contains ['-', 'i'] then changeScene fun s => { s with store := [] }
        for word in bindings.filter (·.head? ≠ some '-') do
          let (name, value, _) := nameAndValue word
          assignExported name (value.getD [])
        match arguments.drop bindings.length with
        | [] => start "env" Tool.showEnvironment []
        | words => execute words
      setStatus status
    | "sh" | "bash" | "dash" =>
      let options := arguments.takeWhile fun word => word.head? = some '-'
      let letters := options.flatMap (·.drop 1)
      let operands := arguments.drop options.length
      let shell : Shell := if name = "bash" then .bash else .sh
      match letters.contains 'c', operands with
      | true, script :: rest =>
        runShell fuel shell (rest.head?.getD name.toList) true (rest.drop 1) letters script
      | _, path :: rest =>
        match m.files.read? path.toText with
        | some content =>
          runShell fuel shell path false rest letters (Octets.ofBytes content)
        | none =>
          emit 2 (Octets.ofText (if shell == .bash then
              name ++ ": " ++ path.toText ++ ": No such file or directory\n"
            else name ++ ": 0: cannot open " ++ path.toText ++ ": No such file\n"))
          setStatus (if shell == .bash then 127 else 2)
      | _, [] =>
        let script := m.input
        modify fun m => { m with input := [] }
        runShell fuel shell name.toList false [] letters script
    | "python3" | "python" =>
      let path := (arguments.head?.getD []).toText
      match arguments with
      | ['-', 'c'] :: script :: _ => runShell fuel .python name.toList true [] [] script
      | [] | [['-']] =>
        modify fun m => { m with input := [] }
        runShell fuel .python name.toList false [] [] m.input
      | _ =>
        match m.files.read? path with
        | some content =>
          runShell fuel .python (Octets.ofText path) false [] [] (Octets.ofBytes content)
        | none =>
          emit 2 (Octets.ofText (name ++ ": can't open file '" ++ path ++
            "': [Errno 2] No such file or directory\n"))
          setStatus 2
    | program =>
      match Tool.program? program with
      | some effect => start program effect arguments
      | none => notFound name

/-- Runs a simple command. -/
def runSimple : Nat → Bool → List Binding → List Word → List Redirection → Steps Unit
  | 0, _, _, _, _ => throw .exhausted
  | fuel + 1, tested, bindings, words, redirections => do
    modify fun m => { m with taken := none }
    let streams := hasStreams (words ++ redirections.map (·.target))
    match ← expandWords fuel words with
    | [] =>
      setStatus 0
      redirecting fuel redirections do
        bindAll fuel bindings
        let m ← get
        if (m.taken).isSome then setStatus (m.taken.getD 0)
    | word :: arguments =>
      let m ← get
      let name := word.toText
      if bindings.isEmpty then trace (word :: arguments)
      if name = "exec" && arguments.isEmpty then
        let _ ← redirectAll fuel redirections
        setStatus 0
      else
        redirecting fuel redirections do
          if bindings.isEmpty then runWords fuel tested name arguments
          else
            let old := bindings.map fun b => (b.name, m.scene.store.get? b.name)
            bindAll fuel bindings
            trace (word :: arguments)
            for b in bindings do setExported true b.name
            try runWords fuel tested name arguments
            finally uncover old
    if streams then modify fun m => { m with tree := m.tree.remove streamDirectory }

/-- Runs the stages of a pipeline, each with the output of the one before as its input. The value
holds the status of each. -/
def runStages : Nat → Bool → List Command → Steps (List Nat)
  | 0, _, _ => throw .exhausted
  | _ + 1, _, [] => pure []
  | fuel + 1, tested, [command] => do
    let status ← inSubshell (withFarewell fuel (run fuel tested command))
    pure [status]
  | fuel + 1, tested, command :: rest => do
    let (status, text) ← capture (inSubshell (withFarewell fuel (run fuel tested command)))
    let others ← withInput text (runStages fuel tested rest)
    pure (status :: others)

/-- Does a condition in double brackets hold? -/
def holdsTest : Nat → Test → Steps Bool
  | 0, _ => throw .exhausted
  | fuel + 1, test => do
    match test with
    | .negation inner => return !(← holdsTest fuel inner)
    | .both left right => do if ← holdsTest fuel left then holdsTest fuel right else pure false
    | .either left right => do if ← holdsTest fuel left then pure true else holdsTest fuel right
    | .unary operator operand => do
      let text ← expandText fuel operand
      match Condition.unary? (← surface) operator with
      | some holds => pure (holds text)
      | none => pure false
    | .binary operator left right => do
      let text ← expandText fuel left
      let marked := Piece.join (← expandWord fuel right)
      let fits := Pattern.matchesAll (Pattern.of marked) text
      match String.ofList operator with
      | "=" | "==" => pure fits
      | "!=" => pure !fits
      | "=~" => fitsRegex text marked
      | _ =>
        match Condition.comparison? operator, Condition.binary? (← surface) operator with
        | some compare, _ =>
          let a ← calculate text
          let b ← calculate marked.octets
          match compare (Octets.ofInt a) (Octets.ofInt b) with
          | .ok value => pure value
          | .error _ => pure false
        | none, some compare =>
          match compare text marked.octets with
          | .ok value => pure value
          | .error _ => pure false
        | none, none => pure false

/-- Runs a command. `tested` says that its failure is looked at, so that it does not end the
script. -/
def run : Nat → Bool → Command → Steps Unit
  | 0, _, _ => throw .exhausted
  | fuel + 1, tested, command => do
    let m ← get
    match command with
    | .nothing => setStatus 0
    | .simple line bindings words redirections => do
      modify fun m => { m with line := line }
      runSimple fuel tested bindings words redirections
      keepStatuses [(← get).status]
      runPending fuel
      checkFailure fuel tested
    | .sequence first second => do
      run fuel tested first
      run fuel tested second
    | .both first second => do
      run fuel true first
      if (← get).status = 0 then run fuel tested second
    | .either first second => do
      run fuel true first
      if (← get).status ≠ 0 then run fuel tested second
    | .negation command => do
      run fuel true command
      setStatus (if (← get).status = 0 then 1 else 0)
    | .pipeline stages => do
      let statuses ← runStages fuel tested stages
      let m ← get
      let last := statuses.getLast?.getD 0
      let failed := (statuses.filter (· ≠ 0)).getLast?.getD 0
      keepStatuses statuses
      setStatus (if m.scene.options.pipefail then failed else last)
      checkFailure fuel tested
    | .background command => do
      let job : Steps Unit := do
        let status ← inSubshell (withFarewell fuel (run fuel true command))
        modify fun m => { m with jobs := m.jobs ++ [status] }
      tryCatch job fun
        | .waits => pure ()
        | stop => throw stop
      setStatus 0
    | .subshell body => do
      let status ← inSubshell (withFarewell fuel (run fuel tested body))
      setStatus status
      checkFailure fuel tested
    | .choice test yes no => do
      run fuel true test
      if (← get).status = 0 then run fuel tested yes else run fuel tested no
    | .loop expected test body after =>
      let holds : Steps Bool := do
        run fuel true test
        return ((← get).status == 0) == expected
      changeScene fun s => { s with loops := s.loops + 1 }
      let loop : Steps Unit := fun m =>
        turn holds (run fuel tested body) (run fuel true after) turnLimit 0 m
      try loop
      finally changeScene fun s => { s with loops := m.scene.loops }
    | .each name words body => do
      let items ← match words with
        | some words => expandWords fuel words
        | none => do pure (← get).scene.arguments
      setStatus 0
      changeScene fun s => { s with loops := s.loops + 1 }
      try
        forEach (fun item => do
          if m.shell == .bash then
            trace (["for".toList, Octets.ofText name, "in".toList] ++ items)
          assign name item
          run fuel tested body) items
      finally changeScene fun s => { s with loops := m.scene.loops }
    | .select word branches => do
      let text ← expandText fuel word
      runBranches fuel tested text false branches
    | .define name body => do
      changeScene fun s => { s with functions := s.functions.insert name body }
      setStatus 0
    | .calculation line expression => do
      modify fun m => { m with line := line }
      testValue "((: " (← expandText fuel expression)
      checkFailure fuel tested
    | .condition line test => do
      modify fun m => { m with line := line }
      setStatus (if ← holdsTest fuel test then 0 else 1)
      checkFailure fuel tested
    | .redirected line body redirections => do
      if line > 0 then modify fun m => { m with line := line }
      redirecting fuel redirections (run fuel tested body)
      if hasStreams (redirections.map (·.target)) then
        modify fun m => { m with tree := m.tree.remove streamDirectory }
      checkFailure fuel tested

/-- Runs the first branch with a pattern that fits a text, and those after it that follow. -/
def runBranches : Nat → Bool → Octets → Bool → List (List Word × Command × Bool) → Steps Unit
  | 0, _, _, _, _ => throw .exhausted
  | _ + 1, _, _, _, [] => setStatus 0
  | fuel + 1, tested, text, follows, (patterns, body, next) :: rest => do
    let isMeant ← if follows then pure true else fitsAny fuel text patterns
    if isMeant then
      run fuel tested body
      if next && !rest.isEmpty then runBranches fuel tested text true rest
    else runBranches fuel tested text false rest

/-- Does one of some patterns fit a text? -/
def fitsAny : Nat → Octets → List Word → Steps Bool
  | 0, _, _ => throw .exhausted
  | _ + 1, _, [] => pure false
  | fuel + 1, text, word :: rest => do
    let pattern := Pattern.of (Piece.join (← expandWord fuel word))
    if Pattern.matchesAll pattern text then pure true else fitsAny fuel text rest

/-- Runs a script. -/
def runText : Nat → Octets → Steps Unit
  | 0, _ => throw .exhausted
  | fuel + 1, script => do
    let isBash ← inBash
    runLines fuel ⟨script.count '\n', isBash⟩ script

/-- Runs a script line by line, so that a mistake stops only what comes after it. -/
def runLines : Nat → Reader.Style → Octets → Steps Unit
  | 0, _, _ => throw .exhausted
  | fuel + 1, style, script =>
    if script.isEmpty then pure ()
    else
      match Reader.readLine style (Reader.fuelFor script) script with
      | .error fault => do
        modify fun m => { m with line := Reader.lineAt style.lineFeeds script }
        failSyntax script fault
      | .ok (.nothing, rest) => runLines fuel style rest
      | .ok (command, rest) => do
        run fuel false command
        runLines fuel style rest

end

/-- Runs a script to its end, and whatever it wants to run then. -/
def runWhole (script : Octets) : Steps Unit :=
  withFarewell nestingLimit (runText (nestingLimit - 1) script)

end Pipeline.Script
