import Pipeline.Script.Call
import Pipeline.Script.Regex

/-! `sed`: a script that is carried out for each line. -/

namespace Pipeline.Script.Edit

/-- Which line an address names. -/
inductive Address where
  | line (number : Nat)
  | last
  | fitting (regex : Regex)
  /-- A line and every so many after it. -/
  | every (first step : Nat)
  /-- So many lines after the first one of a range. -/
  | ahead (count : Nat)

/-- A part of what is put in the place of a match. -/
inductive Replacement where
  | text (octets : Octets)
  /-- What a group has taken up. -/
  | group (number : Nat)

/-- What is done with a line. -/
inductive Action where
  | substitute (regex : Regex) (replacement : List Replacement) (everywhere : Bool) (nth : Nat)
      (prints fold : Bool)
  | translate (pairs : List (Char × Char))
  | print
  | printFirst
  | delete
  | deleteFirst
  | quit (silent : Bool) (status : Nat)
  | showNumber
  | append (text : Octets)
  | insert (text : Octets)
  | change (text : Octets)
  | next
  | appendNext
  | hold (adds : Bool)
  | fetch (adds : Bool)
  | exchange
  /-- Goes on after the end of a block, unless its lines are meant. -/
  | block
  | close
  | label (name : Octets)
  | jump (name : Octets)
  | jumpIfChanged (name : Octets)

/-- An action and the lines for which it is done. -/
structure Instruction where
  first : Option Address
  final : Option Address
  negated : Bool
  action : Action

/-! Reading -/

/-- The text up to a mark without a backslash before it, and what follows it. The mark loses its
backslash, and a line feed may be written with a letter. -/
def splitMark (mark : Char) : Octets → Option (Octets × Octets)
  | [] => none
  | '\\' :: c :: rest => do
    let (text, rest) ← splitMark mark rest
    pure (if c = mark then c :: text else '\\' :: c :: text, rest)
  | c :: rest =>
    if c = mark then some ([], rest)
    else do
      let (text, rest) ← splitMark mark rest
      pure (c :: text, rest)

/-- The parts of what is put in the place of a match. -/
def readReplacement : Octets → List Replacement
  | [] => []
  | '&' :: rest => .group 0 :: readReplacement rest
  | '\\' :: c :: rest =>
    (if c.isDigit then .group (c.toNat - '0'.toNat)
      else if c = 'n' then .text ['\n']
      else if c = 't' then .text ['\t']
      else .text [c]) :: readReplacement rest
  | c :: rest => .text [c] :: readReplacement rest

/-- The number at the front of a text, and what follows it. -/
def splitNumber (cs : Octets) : Nat × Octets :=
  let digits := cs.takeWhile Char.isDigit
  ((String.ofList digits).toNat?.getD 0, cs.drop digits.length)

/-- The address at the front of a text, if there is one, and what follows it. -/
def readAddress (extended : Bool) (cs : Octets) : Except String (Option Address × Octets) :=
  let fitting (mark : Char) (rest : Octets) : Except String (Option Address × Octets) :=
    match splitMark mark rest with
    | some (text, rest) =>
      match Regex.read? extended text with
      | some regex => .ok (some (.fitting regex), rest)
      | none => .error "Unmatched ( or \\("
    | none => .error "unterminated address regex"
  match cs with
  | '$' :: rest => .ok (some .last, rest)
  | '/' :: rest => fitting '/' rest
  | '\\' :: mark :: rest => fitting mark rest
  | '+' :: rest =>
    let (n, rest) := splitNumber rest
    .ok (some (.ahead n), rest)
  | c :: rest =>
    if c.isDigit then
      let (n, rest) := splitNumber (c :: rest)
      match rest with
      | '~' :: rest =>
        let (step, rest) := splitNumber rest
        .ok (some (.every n step), rest)
      | rest => .ok (some (.line n), rest)
    else .ok (none, cs)
  | [] => .ok (none, [])

/-- The text after blanks. -/
def skip (cs : Octets) : Octets := cs.dropWhile fun c => c = ' ' || c = '\t'

/-- The text after blanks and the ends of commands. -/
def skipEnds (cs : Octets) : Octets :=
  cs.dropWhile fun c => c = ' ' || c = '\t' || c = '\n' || c = ';'

/-- The text of a command up to the end of its line, and what follows it. -/
def readText (cs : Octets) : Octets × Octets :=
  let cs := match skip cs with
    | '\\' :: '\n' :: rest => rest
    | '\\' :: rest => rest
    | rest => rest
  let line := cs.takeWhile (· ≠ '\n')
  (line ++ ['\n'], cs.drop (line.length + 1))

/-- The name of a label, and what follows it. -/
def readLabel (cs : Octets) : Octets × Octets :=
  let cs := skip cs
  let name := cs.takeWhile fun c => c ≠ '\n' && c ≠ ';' && c ≠ '\x7d'
  ((name.reverse.dropWhile (· = ' ')).reverse, cs.drop name.length)

/-- The substitution after its letter, and what follows it. -/
def readSubstitution (extended : Bool) (cs : Octets) : Except String (Action × Octets) := do
  let wrong : String := "unterminated \x60s' command"
  match cs with
  | [] => throw wrong
  | mark :: rest =>
    let some (pattern, rest) := splitMark mark rest | throw wrong
    let some (replacement, rest) := splitMark mark rest | throw wrong
    let flags := rest.takeWhile fun c => c.isDigit || "gpiI".toList.contains c
    let rest := rest.drop flags.length
    if rest.head?.any fun c => !"; \n\x7d#".toList.contains c then
      throw "unknown option to \x60s'"
    match Regex.read? extended pattern with
    | none => throw "Unmatched ( or \\("
    | some regex =>
      let digits := flags.filter Char.isDigit
      pure (.substitute regex (readReplacement replacement) (flags.contains 'g')
        ((String.ofList digits).toNat?.getD 1) (flags.contains 'p')
        (flags.contains 'i' || flags.contains 'I'), rest)

/-- The action at the front of a text, and what follows it. -/
def readAction (extended : Bool) (c : Char) (rest : Octets) : Except String (Action × Octets) :=
  match c with
  | 's' => readSubstitution extended rest
  | 'y' =>
    match rest with
    | [] => .error "unterminated \x60y' command"
    | mark :: rest => do
      let some (old, rest) := splitMark mark rest | throw "unterminated \x60y' command"
      let some (new, rest) := splitMark mark rest | throw "unterminated \x60y' command"
      if old.length ≠ new.length then throw "strings for \x60y' command are different lengths"
      pure (.translate (old.zip new), rest)
  | 'p' => .ok (.print, rest)
  | 'P' => .ok (.printFirst, rest)
  | 'd' => .ok (.delete, rest)
  | 'D' => .ok (.deleteFirst, rest)
  | 'q' | 'Q' =>
    let (status, rest) := splitNumber (skip rest)
    .ok (.quit (c = 'Q') status, rest)
  | '=' => .ok (.showNumber, rest)
  | 'a' | 'i' | 'c' =>
    let (text, rest) := readText rest
    .ok (if c = 'a' then .append text else if c = 'i' then .insert text else .change text, rest)
  | 'n' => .ok (.next, rest)
  | 'N' => .ok (.appendNext, rest)
  | 'h' | 'H' => .ok (.hold (c = 'H'), rest)
  | 'g' | 'G' => .ok (.fetch (c = 'G'), rest)
  | 'x' => .ok (.exchange, rest)
  | '\x7b' => .ok (.block, rest)
  | '\x7d' => .ok (.close, rest)
  | ':' =>
    let (name, rest) := readLabel rest
    .ok (.label name, rest)
  | 'b' =>
    let (name, rest) := readLabel rest
    .ok (.jump name, rest)
  | 't' =>
    let (name, rest) := readLabel rest
    .ok (.jumpIfChanged name, rest)
  | c => .error ("unknown command: \x60" ++ String.singleton c ++ "'")

/-- The instructions of a text, or what is wrong and the text after it. -/
def read (extended : Bool) : Nat → Octets → Except (String × Octets) (List Instruction)
  | 0, _ => .ok []
  | fuel + 1, cs => do
    match skipEnds cs with
    | [] => pure []
    | '#' :: rest => read extended fuel (rest.dropWhile (· ≠ '\n'))
    | cs =>
      let lift {α : Type} (rest : Octets) (step : Except String α) :
          Except (String × Octets) α := step.mapError (·, rest)
      let (first, rest) ← lift [] (readAddress extended cs)
      let (final, rest) ← match skip rest with
        | ',' :: rest => lift [] (readAddress extended (skip rest))
        | rest => pure (none, rest)
      let (negated, rest) := match skip rest with
        | '!' :: rest => (true, skip rest)
        | rest => (false, rest)
      match rest with
      | [] => throw ("missing command", [])
      | c :: rest =>
        let isPlain := "pPdDqQ=nNhHgGxs".toList.contains c
        let (action, after) ← lift (if c = 's' || c = 'y' then [] else rest)
          (readAction extended c rest)
        let next := (skip after).head?
        if isPlain && next.any fun d => !";\n\x7d#".toList.contains d then
          throw ("extra characters after command", (skip after).drop 1)
        let others ← read extended fuel after
        pure (⟨first, final, negated, action⟩ :: others)

/-! Carrying out -/

/-- The state of a script between two of its actions. -/
structure State where
  /-- The number of the current line. -/
  number : Nat
  /-- The lines that are still to come. -/
  ahead : List Octets
  space : Octets
  held : Octets
  /-- The lines that have been written, the last one first. -/
  output : List Octets
  /-- What is written after the current line. -/
  queue : List Octets
  /-- The instructions whose ranges are open, and the lines on which those close. -/
  opened : List (Nat × Option Nat)
  changed : Bool
  /-- The script has come to its end, with a status. -/
  ended : Option Nat

/-- Does an address name the current line? -/
def State.isAt (s : State) : Address → Bool
  | .line n => s.number = n
  | .last => s.ahead.isEmpty
  | .fitting regex => Regex.occurs false regex s.space
  | .every first step =>
    if step = 0 then s.number = first else first ≤ s.number && (s.number - first) % step = 0
  | .ahead _ => false

/-- Is the current line meant by an instruction, and what becomes of its range? -/
def State.selects (s : State) (index : Nat) (i : Instruction) : Bool × State :=
  match i.first, i.final with
  | none, _ => (true, s)
  | some first, none => (s.isAt first, s)
  | some first, some final =>
    let close (s : State) : State := { s with opened := s.opened.filter (·.1 ≠ index) }
    match s.opened.lookup index with
    | some limit =>
      let isEnd : Bool := match final, limit with
        | _, some n => s.number ≥ n
        | final, none => s.isAt final
      let isPast := limit.any (s.number > ·)
      if isPast then
        let s := close s
        (s.isAt first, s)
      else (true, if isEnd then close s else s)
    | none =>
      if s.isAt first then
        let limit := match final with
          | .line n => some n
          | .ahead n => some (s.number + n)
          | _ => none
        if limit.any (· ≤ s.number) then (true, s)
        else (true, { s with opened := (index, limit) :: s.opened })
      else (false, s)

/-- What is put in the place of a match. -/
def expand (line : Octets) (found : Regex.Found) (replacement : List Replacement) : Octets :=
  replacement.flatMap fun
    | .text octets => octets
    | .group n => found.group line n

/-- A line with the matches from a certain one on replaced, starting at a place. `count` is the
number of the next match. The value says whether anything has been replaced. -/
def substitute (regex : Regex) (replacement : List Replacement) (everywhere fold : Bool)
    (wanted : Nat) (line : Octets) : Nat → Nat → Nat → Octets × Bool
  | 0, place, _ => (line.drop place, false)
  | fuel + 1, place, count =>
    match Regex.findFrom? fold regex line place with
    | none => (line.drop place, false)
    | some found =>
      let before := (line.drop place).take (found.start - place)
      let isWanted := if everywhere then count ≥ wanted else count = wanted
      let put := if isWanted then expand line found replacement
        else (line.drop found.start).take found.size
      let step := if found.size = 0 then (line.drop found.start).take 1 else []
      let next := found.start + found.size + step.length
      if isWanted && !everywhere then
        (before ++ put ++ line.drop (found.start + found.size), true)
      else if found.size = 0 && step.isEmpty then (before ++ put, isWanted)
      else
        let (rest, changed) := substitute regex replacement everywhere fold wanted line fuel next
          (count + 1)
        (before ++ put ++ step ++ rest, changed || isWanted)

/-- Where the block that starts at an instruction ends. -/
def blockEnd (program : Array Instruction) : Nat → Nat → Nat → Nat
  | 0, _, index => index
  | fuel + 1, depth, index =>
    match program[index]?.map Instruction.action with
    | some .block => blockEnd program fuel (depth + 1) (index + 1)
    | some .close => if depth ≤ 1 then index + 1 else blockEnd program fuel (depth - 1) (index + 1)
    | some _ => blockEnd program fuel depth (index + 1)
    | none => index

/-- Where a label stands; without one, the end of the script. -/
def labelled (program : Array Instruction) (name : Octets) : Nat :=
  if name.isEmpty then program.size
  else
    (program.findIdx? fun i =>
      match i.action with
      | .label other => other = name
      | _ => false).getD program.size

namespace State

/-- Writes a line. -/
def write (s : State) (line : Octets) : State := { s with output := (line ++ ['\n']) :: s.output }

/-- Ends the work on a line. -/
def finish (s : State) (quiet : Bool) : State :=
  let s := if quiet then s else s.write s.space
  { s with output := s.queue.reverse ++ s.output, queue := [] }

end State

/-- Carries out the instructions from one on, for the current line. The value says whether the line
is written at the end. -/
def run (program : Array Instruction) (quiet : Bool) : Nat → Nat → State → Bool × State
  | 0, _, s => (false, { s with ended := some 1 })
  | fuel + 1, index, s =>
    match program[index]? with
    | none => (!quiet, s)
    | some i =>
      let (selected, s) := s.selects index i
      let goOn (s : State) : Bool × State := run program quiet fuel (index + 1) s
      let goTo (index : Nat) (s : State) : Bool × State := run program quiet fuel index s
      if selected == i.negated then
        match i.action with
        | .block => goTo (blockEnd program (program.size + 1) 0 index) s
        | _ => goOn s
      else
        let firstLine := s.space.takeWhile (· ≠ '\n')
        match i.action with
        | .substitute regex replacement everywhere nth prints fold =>
          let (line, changed) := substitute regex replacement everywhere fold nth s.space
            (s.space.length + 2) 0 1
          let s := { s with space := line, changed := s.changed || changed }
          goOn (if changed && prints then s.write line else s)
        | .translate pairs =>
          goOn { s with space := s.space.map fun c => (pairs.lookup c).getD c }
        | .print => goOn (s.write s.space)
        | .printFirst => goOn (s.write firstLine)
        | .delete => (false, s)
        | .deleteFirst =>
          if s.space.contains '\n' then
            goTo 0 { s with space := s.space.drop (firstLine.length + 1) }
          else (false, s)
        | .quit silent status => (!quiet && !silent, { s with ended := some status })
        | .showNumber => goOn (s.write (toString s.number).toList)
        | .append text => goOn { s with queue := s.queue ++ [text] }
        | .insert text => goOn { s with output := text :: s.output }
        | .change text =>
          let isOpen := i.final.isSome && !i.negated && (s.opened.lookup index).isSome
          (false, if isOpen then s else { s with output := text :: s.output })
        | .next =>
          match s.ahead with
          | [] => (!quiet, { s with ended := some 0 })
          | line :: ahead =>
            let s := s.finish quiet
            goOn { s with space := line, ahead := ahead, number := s.number + 1 }
        | .appendNext =>
          match s.ahead with
          | [] => (!quiet, { s with ended := some 0 })
          | line :: ahead =>
            goOn { s with space := s.space ++ '\n' :: line, ahead := ahead,
                          number := s.number + 1 }
        | .hold adds =>
          goOn { s with held := if adds then s.held ++ '\n' :: s.space else s.space }
        | .fetch adds =>
          goOn { s with space := if adds then s.space ++ '\n' :: s.held else s.held }
        | .exchange => goOn { s with space := s.held, held := s.space }
        | .block | .close | .label _ => goOn s
        | .jump name => goTo (labelled program name) s
        | .jumpIfChanged name =>
          if s.changed then goTo (labelled program name) { s with changed := false } else goOn s

/-- How many instructions may be carried out for one line. -/
def stepLimit : Nat := 100000

/-- Carries out a script for all lines. -/
def runAll (program : Array Instruction) (quiet : Bool) : Nat → State → State
  | 0, s => s
  | fuel + 1, s =>
    match s.ended, s.ahead with
    | none, line :: ahead =>
      let (writes, s) := run program quiet stepLimit 0
        { s with space := line, ahead := ahead, number := s.number + 1, changed := false }
      runAll program quiet fuel (s.finish (!writes))
    | _, _ => s

/-- What a script makes of a text, and its status. -/
def edited (program : Array Instruction) (quiet : Bool) (octets : Octets) : Octets × Nat :=
  let lines := Octets.lines octets
  let s := runAll program quiet (lines.length + 1)
    ⟨0, lines, [], [], [], [], [], false, none⟩
  let text := s.output.reverse.flatten
  let isOpen := octets.getLast? ≠ some '\n' && s.ahead.isEmpty && !text.isEmpty
  (if isOpen then text.dropLast else text, s.ended.getD 0)

/-- The long names of the options. -/
def names : List (String × Char) :=
  [("quiet", 'n'), ("silent", 'n'), ("regexp-extended", 'E'), ("expression", 'e'),
    ("in-place", 'i'), ("separate", 's')]

end Edit

namespace Tool

/-- `sed`. -/
def edit (call : Call) : Effect :=
  let arguments := call.arguments.map fun word =>
    if "-i".toList.isPrefixOf word then ['-', 'i'] else word
  let request := Request.ofArguments ['e', 'f'] Edit.names arguments
  let given := (request.values.filter (·.1 = 'e')).map (·.2)
  let (scripts, operands) :=
    if given.isEmpty then (request.operands.take 1, request.operands.drop 1)
    else (given, request.operands)
  let extended := request.has 'E' || request.has 'r'
  let script := ['\n'].intercalate scripts
  if scripts.isEmpty then
    let usage :=
      "Usage: sed [OPTION]... \x7bscript-only-if-no-other-script\x7d [input-file]...\n"
    ⟨[], Octets.ofText usage, 1, call.files, call.input⟩
  else
    match Edit.read extended (script.length + 1) script with
    | .error (why, rest) =>
      call.fails ("-e expression #1, char " ++ toString (script.length - rest.length) ++ ": " ++ why)
        1
    | .ok program =>
      let program := program.toArray
      let quiet := request.has 'n'
      if operands.isEmpty then
        let (text, status) := Edit.edited program quiet call.input
        { call.prints text with input := [], status := status }
      else
        let contents := (Call.paths operands).map fun path => (path, call.content path)
        let errors := contents.flatMap fun (path, content) =>
          match content with
          | .ok _ => []
          | .error text =>
            if text.endsWith "Is a directory" then
              if request.has 'i' then
                call.message ("couldn't edit " ++ path ++ ": not a regular file")
              else call.message ("couldn't read " ++ text)
            else call.message ("can't read " ++ text)
        let failed : Nat := if errors.isEmpty then 0 else 2
        let found := contents.filterMap fun (path, content) => content.toOption.map (path, ·)
        if request.has 'i' then
          let files := found.foldl (fun files (path, octets) =>
            match files.locate? path with
            | some place =>
              files.put place (.file (Edit.edited program quiet octets).1.toBytes)
            | none => files) call.files
          ⟨[], errors, failed, files, call.input⟩
        else
          let (text, status) := Edit.edited program quiet (found.flatMap (·.2))
          ⟨text, errors, if failed = 0 then status else failed, call.files, call.input⟩

end Tool

end Pipeline.Script
