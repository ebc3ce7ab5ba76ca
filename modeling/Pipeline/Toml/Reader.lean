import Pipeline.Toml.Scalar

/-! Reading TOML documents: lines of bindings below headers. -/

namespace Pipeline.Toml

/-- Lists and tables in braces may be nested this deep. -/
def nestingLimit : Nat := 79

/-- A character of a key that needs no quotation marks. -/
def isKeyChar (c : Char) : Bool := c.isAlphanum || c = '_' || c = '-'

/-- The text from its first character that is neither blank nor part of a comment, inside a line. -/
def skipComment (cs : List Char) : Except ReadError (List Char) :=
  match skipBlanks cs with
  | '#' :: rest =>
    let after := rest.dropWhile isPlain
    match after with
    | [] => .ok []
    | _ => if (afterLineEnd? after).isSome then .ok after else .error .controlCharacter
  | rest => .ok rest

/-- The text after blanks, comments and line ends; `fuel` is the number of lines that are passed. -/
def skipLines : Nat → List Char → Except ReadError (List Char)
  | 0, cs => .ok cs
  | fuel + 1, cs => do
    let cs ← skipComment cs
    match afterLineEnd? cs with
    | none => pure cs
    | some rest => skipLines fuel rest

/-- The part of a key at the front of the text, and what follows it. -/
def readKeyPart (cs : List Char) : Except ReadError (String × List Char) :=
  match cs with
  | '"' :: rest => do
    let (text, after) ← readQuoted rest
    pure (String.ofList text, after)
  | '\'' :: rest => do
    let (text, after) ← readLiteral rest
    pure (String.ofList text, after)
  | _ =>
    let part := cs.takeWhile isKeyChar
    if part.isEmpty then .error .badKey else .ok (String.ofList part, cs.drop part.length)

/-- The key at the front of the text: the parts before the last point, the part after it, and the
text from the first character after blanks. -/
def readKey : Nat → List Char → Except ReadError (List String × String × List Char)
  | 0, _ => .error .nestingTooDeep
  | fuel + 1, cs => do
    let (part, rest) ← readKeyPart (skipBlanks cs)
    match skipBlanks rest with
    | '.' :: rest =>
      let (path, last, rest) ← readKey fuel rest
      pure (part :: path, last, rest)
    | rest => pure ([], part, rest)

/-- The binding at the front of the text, with its value read by `value`. -/
def readBinding (value : List Char → Except ReadError (Value × List Char)) (cs : List Char) :
    Except ReadError ((List String × String × Value) × List Char) := do
  let (path, key, rest) ← readKey (nestingLimit + 1) cs
  match rest with
  | '=' :: rest =>
    let (bound, rest) ← value (skipBlanks rest)
    pure ((path, key, bound), rest)
  | _ => .error .expectedEquals

/-- The items up to a closing bracket, and the text after it. -/
def readItems (value : List Char → Except ReadError (Value × List Char)) :
    Nat → List Char → Except ReadError (List Value × List Char)
  | 0, _ => .error .unclosedList
  | fuel + 1, cs => do
    match ← skipLines (cs.length + 1) cs with
    | ']' :: rest => pure ([], rest)
    | cs =>
      let (item, rest) ← value cs
      match ← skipLines (rest.length + 1) rest with
      | ',' :: rest =>
        let (items, rest) ← readItems value fuel rest
        pure (item :: items, rest)
      | ']' :: rest => pure ([item], rest)
      | _ => .error .unclosedList

/-- The bindings up to a closing brace added to a table, and the text after it. -/
def readEntries (value : List Char → Except ReadError (Value × List Char)) :
    Nat → Table → List Char → Except ReadError (Table × List Char)
  | 0, _, _ => .error .unclosedTable
  | fuel + 1, table, cs => do
    let ((path, key, bound), rest) ← readBinding value cs
    let table ← table.bind path key bound
    match skipBlanks rest with
    | ',' :: rest => readEntries value fuel table rest
    | '\x7d' :: rest => pure (table, rest)
    | _ => .error .unclosedTable

/-- The value at the front of the text, nested at most `depth` deep, and what follows it. -/
def readValue (depth : Nat) (cs : List Char) : Except ReadError (Value × List Char) :=
  match readText? cs with
  | some read => do
    let (text, rest) ← read
    pure (.text (String.ofList text), rest)
  | none =>
    match cs, depth with
    | '[' :: _, 0 => .error .nestingTooDeep
    | '\x7b' :: _, 0 => .error .nestingTooDeep
    | '[' :: rest, depth + 1 => do
      let (items, rest) ← readItems (readValue depth) (rest.length + 1) rest
      pure (.list items, rest)
    | '\x7b' :: rest, depth + 1 =>
      match skipBlanks rest with
      | '\x7d' :: rest => .ok (.table .braces [], rest)
      | rest => do
        let (table, rest) ← readEntries (readValue depth) (rest.length + 1) [] rest
        pure (.table .braces table, rest)
    | cs, _ => do
      let (word, rest) := splitWord cs
      let value ← wordValue word
      pure (value, rest)

/-- A header. -/
structure Header where
  path : List String
  key : String
  /-- The header stands in double brackets. -/
  repeats : Bool
  deriving Repr, DecidableEq

/-- The header at the front of the text, and what follows it. -/
def readHeader (cs : List Char) : Except ReadError (Header × List Char) := do
  let (repeats, cs) := match cs with
    | '[' :: rest => (true, rest)
    | cs => (false, cs)
  let (path, key, rest) ← readKey (nestingLimit + 1) cs
  match repeats, rest with
  | true, ']' :: ']' :: rest | false, ']' :: rest => pure (⟨path, key, repeats⟩, rest)
  | _, _ => .error .badKey

/-- A document up to some line: the tables that are finished, and the one that is being filled. -/
structure Draft where
  finished : Table
  /-- The header of the table that is being filled; the first lines have none. -/
  header : Option Header
  current : Table

namespace Draft

/-- Nothing yet. -/
def start : Draft := ⟨[], none, []⟩

/-- All tables, with the one that was being filled. -/
def close (draft : Draft) : Except ReadError Table :=
  match draft.header with
  | none => .ok draft.current
  | some header =>
    if header.repeats then draft.finished.append header.path header.key draft.current
    else draft.finished.place header.path header.key draft.current

/-- The draft after a header. -/
def enter (draft : Draft) (header : Header) : Except ReadError Draft := do
  let finished ← draft.close
  if header.repeats then
    let _ ← finished.append header.path header.key []
    pure ⟨finished, some header, []⟩
  else
    let contents ← finished.contentsBelow header.path header.key
    pure ⟨finished, some header, contents⟩

end Draft

/-- The text after the end of a line. -/
def readLineEnd (cs : List Char) : Except ReadError (List Char) := do
  match ← skipComment cs with
  | [] => pure []
  | cs => (afterLineEnd? cs).elim (.error .expectedLineEnd) .ok

/-- The draft after the lines of a text; `fuel` is at least their number. -/
def readLines : Nat → Draft → List Char → Except ReadError Draft
  | 0, draft, _ => .ok draft
  | fuel + 1, draft, cs =>
    match skipBlanks cs with
    | [] => .ok draft
    | '#' :: rest => do readLines fuel draft (← readLineEnd ('#' :: rest))
    | '\n' :: rest => readLines fuel draft rest
    | '\r' :: '\n' :: rest => readLines fuel draft rest
    | '[' :: rest => do
      let (header, rest) ← readHeader rest
      readLines fuel (← draft.enter header) (← readLineEnd rest)
    | cs => do
      let ((path, key, value), rest) ← readBinding (readValue nestingLimit) cs
      let rest ← readLineEnd rest
      readLines fuel { draft with current := ← draft.current.bind path key value } rest

/-- The top table of a document. A byte-order mark at its front says nothing. -/
def read (text : String) : Except ReadError Table := do
  let cs := match text.toList with
    | '\ufeff' :: rest => rest
    | cs => cs
  (← readLines (cs.length + 1) .start cs).close

end Pipeline.Toml
