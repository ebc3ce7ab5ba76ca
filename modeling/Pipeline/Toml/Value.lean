import Pipeline.Double

/-! Values of TOML documents. A table remembers how it was opened, because that decides whether
later lines may add to it. -/

namespace Pipeline.Toml

/-- What opened a table. -/
inductive Origin where
  /-- Braces: nothing is added later. -/
  | braces
  /-- A header of its own. -/
  | header
  /-- A longer header that passes through it. -/
  | passage
  /-- A dotted key. -/
  | dotted
  deriving Repr, DecidableEq

/-- A value. -/
inductive Value where
  | text (text : String)
  | integer (value : Int)
  | decimal (value : Double)
  | boolean (value : Bool)
  /-- A date, a time of day, or both, as written. -/
  | moment (text : String)
  | list (items : List Value)
  | table (origin : Origin) (entries : List (String × Value))
  /-- The tables of a header in double brackets. -/
  | tables (elements : List (List (String × Value)))
  deriving Inhabited

/-- The entries of a table, in the order of the document. -/
abbrev Table := List (String × Value)

/-- Why a text is no TOML document. -/
inductive ReadError where
  | badKey
  | badValue
  | badText
  | badEscape
  | unclosedText
  | unclosedList
  | unclosedTable
  | expectedEquals
  | expectedLineEnd
  | controlCharacter
  | numberTooLarge
  | repeatedKey (key : String)
  | notExtensible (key : String)
  | nestingTooDeep
  deriving Repr, DecidableEq

/-- The wording of a failure. -/
def ReadError.message : ReadError → String
  | badKey => "invalid key"
  | badValue => "invalid value"
  | badText => "invalid character in a string"
  | badEscape => "invalid escape in a string"
  | unclosedText => "unclosed string"
  | unclosedList => "unclosed list"
  | unclosedTable => "unclosed table"
  | expectedEquals => "expected '='"
  | expectedLineEnd => "expected the end of the line"
  | controlCharacter => "control character in a comment"
  | numberTooLarge => "number out of range"
  | repeatedKey key => "key '" ++ key ++ "' is given twice"
  | notExtensible key => "key '" ++ key ++ "' cannot be added to"
  | nestingTooDeep => "nesting limit exceeded"

namespace Table

/-- The table with the value of a key replaced, or bound at the end. -/
def put (key : String) (value : Value) : Table → Table
  | [] => [(key, value)]
  | (k, v) :: rest => if k = key then (k, value) :: rest else (k, v) :: put key value rest

/-- Changes the table that is reached by a path. Tables that are missing on the way are opened as
`opened`; by way of a dotted key no table is passed that has a header of its own. -/
def changeBelow (opened : Origin) (change : Origin → Table → Except ReadError Table)
    (origin : Origin) : List String → Table → Except ReadError Table
  | [], table => change origin table
  | key :: path, table =>
    match table.lookup key with
    | none => do
      let inner ← changeBelow opened change opened path []
      pure (put key (.table opened inner) table)
    | some (.table .braces _) => .error (.notExtensible key)
    | some (.table inside entries) =>
      if opened = .dotted && inside = .header then .error (.repeatedKey key)
      else do
        let inner ← changeBelow opened change inside path entries
        pure (put key (.table inside inner) table)
    | some (.tables elements) =>
      match elements.getLast? with
      | none => .error (.notExtensible key)
      | some last => do
        let inner ← changeBelow opened change .header path last
        pure (put key (.tables (elements.dropLast ++ [inner])) table)
    | some _ => .error (.notExtensible key)

/-- Binds a dotted key below a table. The last step may not leave a table that another key form
opened. -/
def bind (table : Table) (path : List String) (key : String) (value : Value) :
    Except ReadError Table :=
  changeBelow .dotted
    (fun origin entries =>
      if (origin == .dotted) == path.isEmpty then .error (.repeatedKey key)
      else
        match entries.lookup key with
        | some _ => .error (.repeatedKey key)
        | none => .ok (entries ++ [(key, value)]))
    .header path table

/-- Opens the table of a header: what it holds so far, or a failure if it has been opened. -/
def contentsBelow (table : Table) (path : List String) (key : String) : Except ReadError Table :=
  match path with
  | [] =>
    match table.lookup key with
    | none => .ok []
    | some (.table .passage entries) => .ok entries
    | some _ => .error (.repeatedKey key)
  | first :: path =>
    match table.lookup first with
    | none => .ok []
    | some (.table .braces _) => .error (.notExtensible first)
    | some (.table _ entries) => contentsBelow entries path key
    | some (.tables elements) => contentsBelow (elements.getLast?.getD []) path key
    | some _ => .error (.notExtensible first)

/-- Puts the contents of a header's table in its place. -/
def place (table : Table) (path : List String) (key : String) (contents : Table) :
    Except ReadError Table :=
  changeBelow .passage (fun _ entries => .ok (put key (.table .header contents) entries)) .header
    path table

/-- Adds one more table to those of a header in double brackets. -/
def append (table : Table) (path : List String) (key : String) (contents : Table) :
    Except ReadError Table :=
  changeBelow .passage
    (fun _ entries =>
      match entries.lookup key with
      | none => .ok (put key (.tables [contents]) entries)
      | some (.tables elements) => .ok (put key (.tables (elements ++ [contents])) entries)
      | some _ => .error (.repeatedKey key))
    .header path table

end Table

end Pipeline.Toml
