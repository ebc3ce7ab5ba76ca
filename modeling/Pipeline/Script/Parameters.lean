import Pipeline.Script.Builtin

/-! The values of parameters, and what scripts make of them. -/

namespace Pipeline.Script

open Steps

/-- What a parameter stands for. -/
inductive Values where
  | one (value : Option Octets)
  /-- Several values, which between quotation marks are one text if they are `together`. -/
  | many (values : List Octets) (together : Bool)
  deriving Repr, DecidableEq

namespace Values

/-- All values. -/
def all : Values → List Octets
  | one value => value.toList
  | many values _ => values

/-- Every value changed; no value at all is an empty one. -/
def map (change : Octets → Octets) : Values → Values
  | one value => one (some (change (value.getD [])))
  | many values together => many (values.map change) together

/-- Is there no value, or an empty one where that counts as none? -/
def lacks (orEmpty : Bool) : Values → Bool
  | one none => true
  | one (some text) => orEmpty && text.isEmpty
  | many values _ => values.isEmpty || (orEmpty && values.all List.isEmpty)

/-- The pieces of values. -/
def pieces (separators : Octets) (quoted : Bool) : Values → List Piece
  | one value => [.ofValue quoted (value.getD [])]
  | many values together =>
    if quoted && together then [.kept ((separators.take 1).intercalate values)]
    else if quoted && values.isEmpty then [.absent]
    else (values.map (Piece.ofValue quoted)).intersperse .border

end Values

/-- The value of a parameter that is no row. -/
def specialValue? (m : Machine) (name : String) : Option Octets :=
  let isBash := m.shell == .bash
  match name with
  | "?" => some (Octets.ofInt m.status)
  | "#" => some (Octets.ofInt m.scene.arguments.length)
  | "$" => some (Octets.ofInt Machine.process)
  | "!" => if m.jobs.isEmpty then none else
      some (Octets.ofInt (Machine.jobProcess (m.jobs.length - 1)))
  | "-" => some (optionLetters m)
  | "0" => some m.scene.name
  | "LINENO" => if isBash then some (Octets.ofInt m.line) else m.value? name
  | "RANDOM" => if isBash then some (Octets.ofInt 17767) else m.value? name
  | "SECONDS" | "BASH_SUBSHELL" => if isBash then some ['0'] else m.value? name
  | "EPOCHSECONDS" => if isBash then some (Octets.ofInt Dates.now) else m.value? name
  | name =>
    match name.toNat? with
    | some n => m.scene.arguments[n - 1]?
    | none => m.value? name

/-- The item that stands for all of them. -/
def isWholeRow (item : Word) : Option Bool :=
  match item with
  | [.text _ ['@']] => some false
  | [.text _ ['*']] => some true
  | _ => none

/-- The values of a parameter whose item, if one is meant, is known. -/
def valuesOf (m : Machine) (name : String) (item : Word) (slot : Slot) : Values :=
  match name, isWholeRow item, item.isEmpty with
  | "@", _, _ => .many m.scene.arguments false
  | "*", _, _ => .many m.scene.arguments true
  | name, some together, _ =>
    .many (((m.scene.store.get? name).map (Content.values ·.content)).getD []) together
  | name, none, true => .one (specialValue? m name)
  | name, none, false => .one (m.valueIn? name slot)

/-- A part of a row, or of a text. -/
def slice {α : Type} (items : List α) (first : Int) (size : Option Int) : List α :=
  let start := if first < 0 then items.length + first else first
  if start < 0 then []
  else
    let rest := items.drop start.toNat
    match size with
    | none => rest
    | some n => if n < 0 then rest.take (rest.length + n).toNat else rest.take n.toNat

/-- A part of the values of a parameter. The arguments are counted from one. -/
def Values.slice (m : Machine) (name : String) (first : Int) (size : Option Int) :
    Values → Values
  | .one value => .one (value.map fun text => Script.slice text first size)
  | .many values together =>
    let values := if name = "@" || name = "*" then m.scene.name :: values else values
    .many (Script.slice values first size) together

/-- A text changed in the way that a letter stands for. -/
def transform (letter : Char) (text : Octets) : Octets :=
  match letter with
  | 'Q' => Format.quoteWhole text
  | 'U' => text.map Char.toUpper
  | 'u' => (text.take 1).map Char.toUpper ++ text.drop 1
  | 'L' => text.map Char.toLower
  | _ => text

/-- A text with its first letter changed, or every one. -/
def changeCase (everywhere : Bool) (change : Char → Char) (text : Octets) : Octets :=
  if everywhere then text.map change else (text.take 1).map change ++ text.drop 1

/-- Ends the script because a parameter has no value. -/
def failUnset {α : Type} (name : String) (why : String) : Steps α := do
  fail (name ++ ": " ++ why) (if ← inBash then 1 else 2)

/-- Ends the script if a parameter without a value is a mistake. -/
def checkSet (name : String) (values : Values) : Steps Unit := do
  let m ← get
  if m.scene.options.nounset && values == .one none then
    failUnset name (if m.shell == .bash then "unbound variable" else "parameter not set")

/-- Ends a script of the plain shell, which has no such substitution. -/
def onlyInBash : Steps Unit := do
  if ← inBash then pure () else fail "Bad substitution" 2

end Pipeline.Script
