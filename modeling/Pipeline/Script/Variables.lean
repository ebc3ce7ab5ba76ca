import Pipeline.Script.Calculate
import Pipeline.Script.Expand

/-! The commands of the shell that work on its variables. -/

namespace Pipeline.Script

open Steps

/-- Is a word an option? -/
def isOptionWord (word : Octets) : Bool :=
  match word with
  | '-' :: _ :: _ | '+' :: _ :: _ => true
  | _ => false

/-- The letters of options. -/
def lettersOf (arguments : List Octets) : Octets :=
  (arguments.takeWhile isOptionWord).flatMap (·.drop 1)

/-- A name and perhaps a value, in one word, and whether the value is put behind the old one. -/
def nameAndValue (word : Octets) : String × Option Octets × Bool :=
  let name : Octets := word.takeWhile (· ≠ '=')
  let value := if name.length < word.length then some (word.drop (name.length + 1)) else none
  if name.getLast? = some '+' then (Octets.toText name.dropLast, value, true)
  else (name.toText, value, false)

/-- Carries out the assignment that a word asks for. The value is the name of the variable. -/
def assignWord (word : Octets) : Steps String := do
  let (name, value, appends) := nameAndValue word
  match value with
  | some value =>
    let m ← get
    assign name (if appends then (m.value? name).getD [] ++ value else value)
  | none => pure ()
  pure name

/-- Lets programs see a variable, or hides it from them. -/
def setExported (on : Bool) (name : String) : Steps Unit :=
  changeScene fun s =>
    match s.store.get? name with
    | some v => { s with store := s.store.insert name { v with exported := on } }
    | none => s

/-- `export`. -/
def exportAll (words : List Octets) : Steps Unit := do
  let isOn := !(lettersOf words).contains 'n'
  for word in words.filter (!isOptionWord ·) do
    setExported isOn (← assignWord word)

/-- `readonly`. -/
def makeConstant (words : List Octets) : Steps Unit :=
  for word in words.filter (!isOptionWord ·) do
    let name ← assignWord word
    changeScene fun s => { s with constants := name :: s.constants }

/-- Lets a variable come back with its value when the function ends. -/
def hide (name : String) : Steps Unit :=
  changeScene fun s =>
    match s.hidden with
    | frame :: outer => { s with hidden := ((name, s.store.get? name) :: frame) :: outer }
    | [] => s

/-- `local` and `declare`: inside of functions the variables are their own. -/
def declareAll (words : List Octets) : Steps Unit := do
  let letters := lettersOf words
  let inFunction := !(← get).scene.hidden.isEmpty && !letters.contains 'g'
  for word in words.filter (!isOptionWord ·) do
    let (name, value, _) := nameAndValue word
    let isNew := inFunction || ((← get).scene.store.get? name).isNone
    if inFunction then hide name
    if letters.contains 'A' || letters.contains 'a' then
      if isNew then hold name (if letters.contains 'A' then .table [] else .row [])
    else if inFunction && (← inBash) then forget name
    let _ ← assignWord word
    if letters.contains 'i' then
      match value with
      | some text => assign name (Octets.ofInt (← calculate text))
      | none => pure ()
    if letters.contains 'x' then setExported true name
    if letters.contains 'r' then changeScene fun s => { s with constants := name :: s.constants }

/-- Gives the variables back that a function has hidden. -/
def uncover (frame : List (String × Option Variable)) : Steps Unit :=
  for (name, old) in frame do
    match old with
    | some v => changeScene fun s => { s with store := s.store.insert name v }
    | none => forget name

/-- A variable and the item of it that a word names. -/
def nameAndItem (word : Octets) : String × Octets :=
  let name : Octets := word.takeWhile (· ≠ '[')
  (name.toText, (word.drop (name.length + 1)).dropLast)

/-- The part of a variable that the text of an item names. -/
def slotNamed (name : String) (item : Octets) : Steps Slot := do
  let m ← get
  if item.isEmpty then pure .whole
  else if m.isTable name then pure (.named item)
  else return .number (m.rowNumber name (← calculate item))

/-- `unset`. -/
def unsetAll (arguments : List Octets) : Steps Unit := do
  setStatus 0
  let letters := lettersOf arguments
  for word in arguments.filter (!isOptionWord ·) do
    let (name, item) := nameAndItem word
    if letters.contains 'f' then
      changeScene fun s => { s with functions := s.functions.erase name }
    else if (← get).scene.constants.contains name then
      if ← inBash then
        complain ("unset: " ++ name ++ ": cannot unset: readonly variable")
        setStatus 1
      else fail ("unset: " ++ name ++ ": is read only") 2
    else
      let slot ← slotNamed name item
      let content := ((← get).scene.store.get? name).map Variable.content
      match slot, content with
      | .number n, some (.row items) => hold name (.row (items.filter (·.1 ≠ n)))
      | .named key, some (.table items) => hold name (.table (items.filter (·.1 ≠ key)))
      | _, none =>
        if !letters.contains 'v' then
          changeScene fun s => { s with functions := s.functions.erase name }
      | _, _ => forget name

/-- The text at the front of the input up to a mark, and whether the mark was there. Without `raw` a
backslash joins lines and protects. -/
def takeLine (raw : Bool) (mark : Char) : Octets → Marked → Marked × Octets × Bool
  | [], line => (line.reverse, [], false)
  | '\\' :: c :: rest, line =>
    if raw then
      if c = mark then ((('\\', false) :: line).reverse, rest, true)
      else takeLine raw mark (c :: rest) (('\\', false) :: line)
    else if c = '\n' then takeLine raw mark rest line
    else takeLine raw mark rest ((c, true) :: line)
  | c :: rest, line =>
    if c = mark then (line.reverse, rest, true) else takeLine raw mark rest ((c, false) :: line)

/-- Spreads the fields of a line over variables; the last one gets all that is left. -/
def spread (separators : Octets) : List String → Marked → List (String × Octets)
  | [], _ => []
  | [name], line =>
    let isBlank (item : Char × Bool) : Bool :=
      !item.2 && separators.contains item.1 && Arithmetic.isBlank item.1
    let line := line.dropWhile isBlank
    [(name, Marked.octets (line.reverse.dropWhile isBlank).reverse)]
  | name :: names, line =>
    let separates (item : Char × Bool) : Bool := !item.2 && separators.contains item.1
    let isBlank (item : Char × Bool) : Bool := separates item && Arithmetic.isBlank item.1
    let line := line.dropWhile isBlank
    let field := line.takeWhile (!separates ·)
    let rest := (line.drop field.length).dropWhile isBlank
    let rest := if rest.head?.any separates then rest.drop 1 else rest
    (name, Marked.octets field) :: spread separators names rest

/-- The fields of a line, as the items of a row. -/
def fieldsOf (separators : Octets) (line : Marked) : List Octets :=
  let pieces := line.map fun (c, quoted) => if quoted then Piece.kept [c] else .loose [c]
  (Piece.split separators pieces).map Marked.octets

/-- Octets as the items of a row. -/
def rowOf (items : List Octets) : Content := .row ((List.range items.length).zip items)

/-- What `read` is asked for. -/
structure ReadRequest where
  raw : Bool
  /-- The row that takes the fields. -/
  row : Option String
  mark : Char
  /-- How many octets are read at most. -/
  count : Option Nat
  names : List String

/-- The request that the arguments of `read` make. -/
def readRequest : Nat → List Octets → ReadRequest → ReadRequest
  | 0, _, request => request
  | fuel + 1, arguments, request =>
    match arguments with
    | [] => request
    | ('-' :: letters) :: rest =>
      let plain := letters.takeWhile fun c => c = 'r' || c = 's' || c = 'e'
      let request := if plain.contains 'r' then { request with raw := true } else request
      match letters.drop plain.length with
      | [] => readRequest fuel rest request
      | letter :: inner =>
        let (value, rest) := if inner.isEmpty then (rest.head?.getD [], rest.drop 1)
          else (inner, rest)
        let request :=
          match letter with
          | 'a' => { request with row := some value.toText }
          | 'd' => { request with mark := value.head?.getD '\x00' }
          | 'n' | 'N' => { request with count := value.toText.toNat? }
          | _ => request
        readRequest fuel rest request
    | word :: rest => readRequest fuel rest { request with names := request.names ++ [word.toText] }

/-- `read`. -/
def readVariables (arguments : List Octets) : Steps Unit := do
  let m ← get
  let request := readRequest (arguments.length + 1) arguments ⟨false, none, '\n', none, []⟩
  let separators := (m.value? "IFS").getD blankSeparators
  let (line, rest, found) : Marked × Octets × Bool :=
    match request.count with
    | some count =>
      let text := (m.input.take count).takeWhile (· ≠ request.mark)
      (Marked.of false text, m.input.drop text.length, text.length == count)
    | none => takeLine request.raw request.mark m.input []
  modify fun m => { m with input := rest }
  match request.row, request.names with
  | some row, _ => hold row (rowOf (fieldsOf separators line))
  | none, [] =>
    if m.shell == .bash then assign "REPLY" line.octets
    else fail "read: arg count" 2
  | none, names =>
    for (name, value) in spread separators names line do assign name value
  setStatus (if found then 0 else 1)

/-- `mapfile`. -/
def readLines (arguments : List Octets) : Steps Unit := do
  let m ← get
  let letters := lettersOf arguments
  let name := ((arguments.filter (!isOptionWord ·)).head?.map Octets.toText).getD "MAPFILE"
  let lines := Octets.lines m.input
  let isOpen := m.input.getLast? ≠ some '\n'
  let items := if letters.contains 't' then lines
    else lines.mapIdx fun i line =>
      if isOpen && i + 1 = lines.length then line else line ++ ['\n']
  modify fun m => { m with input := [] }
  hold name (rowOf items)
  setStatus 0

end Pipeline.Script
