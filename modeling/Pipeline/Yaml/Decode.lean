import Pipeline.Yaml.Core

/-! From nodes to values of a given shape. The first mistake in the order of the document counts,
whether it lies in the text or in the shape of a node. -/

namespace Pipeline.Yaml

/-- Why a document does not have the shape asked for. -/
inductive Error where
  | syntactic (error : SyntaxError)
  /-- The tree breaks off before the value is complete. -/
  | brokenOff
  | expected (what : String)
  | missingField (name : String)
  | repeatedField (name : String)
  | repeatedKey (key : String)
  | dimensionNotList (name : String)
  /-- Collections are nested too deep. -/
  | tooDeep
  /-- Aliases are followed too often. -/
  | tooManyAliases
  deriving Repr, DecidableEq

/-- The wording of a mistake. -/
def Error.message : Error → String
  | syntactic error => error.message
  | brokenOff => "the document breaks off"
  | expected what => "expected " ++ what
  | missingField name => "missing field '" ++ name ++ "'"
  | repeatedField name => "duplicate field '" ++ name ++ "'"
  | repeatedKey key => "duplicate key '" ++ key ++ "'"
  | dimensionNotList name => "matrix dimension '" ++ name ++ "' must be a list of values"
  | tooDeep => "collections are nested too deep"
  | tooManyAliases => "aliases are followed too often"

/-- What is known while the nodes of a document are read. -/
structure Surroundings where
  /-- The nodes that anchors mark, by number. -/
  anchored : List (Nat × Node)
  /-- How many more levels of collections may be entered. -/
  depth : Nat
  /-- How often aliases may be followed. -/
  aliasLimit : Nat

/-- A way through the nodes of a document, which counts how often aliases are followed. -/
abbrev Walk := ReaderT Surroundings (StateT Nat (Except Error))

/-- A reader of nodes. -/
abbrev Decoder (α : Type) := Node → Walk α

namespace Decoder

/-- The node itself, or for an alias the node that it names. -/
def follow : Node → Walk Node
  | .alias number => do
    let around ← read
    let followed ← get
    if around.aliasLimit ≤ followed then throw .tooManyAliases
    set (followed + 1)
    match around.anchored.lookup number with
    | some node => pure node
    | none => throw .brokenOff
  | node => pure node

/-- Reads what a collection holds. -/
def inside {α : Type} (walk : Walk α) : Walk α := do
  match (← read).depth with
  | 0 => throw .tooDeep
  | depth + 1 => withReader (fun around => { around with depth }) walk

/-- The text of a scalar, whatever its type. -/
def text : Decoder String := fun node => do
  match ← follow node with
  | .scalar text _ _ => pure text
  | .broken => throw .brokenOff
  | _ => throw (.expected "a string")

/-- Is the node a plain null or nothing at all? -/
def isAbsent (text : String) (style : Style) (tag : Option String) : Except Error Bool :=
  if style != .plain then .ok false
  else
    match tag with
    | none => .ok (text == "" || isNull text)
    | some tag =>
      if tag = coreTagStem ++ "null" then
        if isNull text then .ok true else .error (.expected "null")
      else .ok false

/-- A node that may be null: `none` for a plain null or nothing at all. -/
def optional {α : Type} (decode : Decoder α) : Decoder (Option α) := fun node => do
  match ← follow node with
  | .scalar text style tag =>
    if ← isAbsent text style tag then pure none
    else return some (← decode (.scalar text style tag))
  | .broken => throw .brokenOff
  | node => return some (← decode node)

/-- Reads the items of a sequence; nothing at all is an empty one. -/
def items {α : Type} (decode : List Node → Walk α) : Decoder α := fun node => do
  match ← follow node with
  | .sequence items _ => inside (decode items)
  | .scalar "" .plain _ => decode []
  | .broken => throw .brokenOff
  | _ => throw (.expected "a sequence")

/-- A sequence of values. -/
def list {α : Type} (decode : Decoder α) : Decoder (List α) :=
  items fun nodes => nodes.mapM decode

/-- Reads the entries of a mapping; nothing at all is an empty one. -/
def entries {α : Type} (decode : List (Node × Node) → Walk α) : Decoder α := fun node => do
  match ← follow node with
  | .mapping entries _ => inside (decode entries)
  | .scalar "" .plain _ => decode []
  | .broken => throw .brokenOff
  | _ => throw (.expected "a mapping")

/-- A mapping from texts, in the order of the document and with repeated keys. -/
def pairs {α : Type} (decode : Decoder α) : Decoder (List (String × α)) :=
  entries fun pairs => pairs.mapM fun (key, value) => do
    let key ← text key
    let value ← decode value
    pure (key, value)

/-- A mapping from texts of which the last value of a key counts. -/
def dict {α : Type} (decode : Decoder α) : Decoder (Dict α) := fun node => do
  return Dict.ofList (← pairs decode node)

/-- May the scalar be read as a truth value or a number by its spelling? -/
def isLiteral (kind : String) (style : Style) (tag : Option String) : Bool :=
  style = .plain || (style = .literal && tag = some (coreTagStem ++ kind))

/-- A truth value. -/
def bool : Decoder Bool := fun node => do
  match ← follow node with
  | .scalar text style tag =>
    match if isLiteral "bool" style tag then truth? text else none with
    | some value => pure value
    | none => throw (.expected "a boolean")
  | .broken => throw .brokenOff
  | _ => throw (.expected "a boolean")

/-- A whole number that is not negative. -/
def nat : Decoder Nat := fun node => do
  match ← follow node with
  | .scalar text style tag =>
    match if isLiteral "int" style tag then unsigned? 64 text.toList else none with
    | some n => pure n
    | none => throw (.expected "a number")
  | .broken => throw .brokenOff
  | _ => throw (.expected "a number")

/-- The JSON value of a scalar. -/
def scalarJson (text : String) (style : Style) (tag : Option String) : Except Error Json :=
  match typeScalar text style tag with
  | some .null => .ok .null
  | some (.bool value) => .ok (.bool value)
  | some (.number value) => .ok value
  | some .text => .ok (.string text)
  | some .wide => .error (.expected "a number of 64 bits")
  | none => .error (.expected "a value that fits its tag")

/-- A collection with a tag of its own is no plain value. -/
def checkUntagged (tag : Option String) : Except Error Unit :=
  if tag.all fun tag => tag.front != '!' then .ok ()
  else .error (.expected "a value without a tag")

/-- Any value within some levels of collections, typed by its spelling. -/
def jsonWithin : Nat → Decoder Json
  | 0, _ => throw .tooDeep
  | levels + 1, node => do
    match ← follow node with
    | .scalar text style tag => scalarJson text style tag
    | .sequence items tag => do
      checkUntagged tag
      return .array (← inside (items.mapM (jsonWithin levels)))
    | .mapping entries tag => do
      checkUntagged tag
      return .ofFields (← inside (entries.mapM fun (key, value) => do
        let key ← text key
        let value ← jsonWithin levels value
        pure (key, value)))
    | _ => throw .brokenOff

/-- Any value, typed by its spelling. -/
def json : Decoder Json := fun node => do
  jsonWithin ((← read).depth + 1) node

/-- The node within some levels of collections without aliases, if every scalar inside it can be
typed. -/
def typedWithin : Nat → Decoder Node
  | 0, _ => throw .tooDeep
  | levels + 1, node => do
    match ← follow node with
    | .scalar text style tag => do
      let _ ← scalarJson text style tag
      pure (.scalar text style tag)
    | .sequence items tag => do
      checkUntagged tag
      return .sequence (← inside (items.mapM (typedWithin levels))) tag
    | .mapping entries tag => do
      checkUntagged tag
      return .mapping (← inside (entries.mapM fun (key, value) => do
        let key ← typedWithin levels key
        let value ← typedWithin levels value
        pure (key, value))) tag
    | _ => throw .brokenOff

/-- The node without aliases, if every scalar inside it can be typed. -/
def typed : Decoder Node := fun node => do
  typedWithin ((← read).depth + 1) node

/-- A scalar whose type is text. -/
def strictText : Decoder String
  | .scalar text style tag =>
    match typeScalar text style tag with
    | some .text => pure text
    | _ => throw (.expected "a string")
  | .broken => throw .brokenOff
  | _ => throw (.expected "a string")

/-- A scalar whose type is a truth value. -/
def strictBool : Decoder Bool
  | .scalar text style tag =>
    match typeScalar text style tag with
    | some (.bool value) => pure value
    | _ => throw (.expected "a boolean")
  | .broken => throw .brokenOff
  | _ => throw (.expected "a boolean")

/-- A sequence of texts, each typed as text. -/
def strictTexts : Decoder (List String)
  | .sequence items _ => items.mapM strictText
  | .broken => throw .brokenOff
  | _ => throw (.expected "a sequence")

/-- Is the scalar typed as null? -/
def isTypedNull : Node → Bool
  | .scalar text style tag =>
    match typeScalar text style tag with
    | some .null => true
    | _ => false
  | _ => false

/-- The name of a field of a strictly typed record, given as text or by its number. -/
def strictField (names : List String) : Decoder String
  | .scalar text style tag =>
    match typeScalar text style tag with
    | some .text => pure text
    | some (.number (.number (.int n))) =>
      if n < 0 then throw (.expected "a field name") else pure ((names[n.toNat]?).getD "")
    | _ => throw (.expected "a field name")
  | .broken => throw .brokenOff
  | _ => throw (.expected "a field name")

/-- Reads the fields of a record in the order of the document, each into the record so far. A field
may occur once; unknown ones are passed over. -/
def record {α : Type} (key : Decoder String) (field : String → Option (Node → α → Walk α))
    (seen : List String) (value : α) : List (Node × Node) → Walk α
  | [] => pure value
  | (name, node) :: rest => do
    let name ← key name
    match field name with
    | none =>
      if node.isBroken then throw .brokenOff
      record key field seen value rest
    | some decode =>
      if seen.contains name then throw (.repeatedField name)
      let value ← decode node value
      record key field (name :: seen) value rest

/-- A record from a mapping, starting with a value for the fields that are left out. -/
def fields {α : Type} (field : String → Option (Node → α → Walk α)) (start : α) : Decoder α :=
  entries (record text field [] start)

end Decoder

/-- The deepest nesting of collections that is read. -/
def nestingLimit : Nat := 128

/-- What is known at the root of a document. Aliases may be followed a hundred times as often as the
document has events. -/
def Document.surroundings (document : Document) : Surroundings :=
  ⟨document.anchored, nestingLimit, 100 * document.size⟩

/-- Reads a text as a document of a given shape. -/
def decode {α : Type} (decoder : Decoder α) (text : String) : Except Error α :=
  let document := Document.read text
  match ((decoder document.root).run document.surroundings).run 0 with
  | .error .brokenOff => .error ((document.mistake.map Error.syntactic).getD .brokenOff)
  | .error e => .error e
  | .ok (value, _) =>
    match document.mistake with
    | some mistake => .error (.syntactic mistake)
    | none => .ok value

end Pipeline.Yaml
