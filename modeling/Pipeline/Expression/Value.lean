import Pipeline.Decimal.Reader
import Pipeline.Expression.Syntax
import Pipeline.Json.Writer
import Pipeline.Text.Blank
import Pipeline.Text.Case

/-! How expressions treat values: their text, their truth, their number, equality and order. -/

namespace Pipeline.Expression

/-- A whole number below this magnitude is written as an integer, whatever its kind. -/
def integerTextLimit : Nat := tenTo 15

/-- The text of a number: as an integer where it is whole and not too large. -/
def numberToText (n : Json.Number) : String :=
  match n.toDouble.toInt? with
  | some value => if value.natAbs < integerTextLimit then toString value else n.render
  | none => n.render

/-- The text of a value in templates and environment variables. -/
def toText : Json → String
  | .null => ""
  | .bool value => if value then "true" else "false"
  | .number value => numberToText value
  | .string value => value
  | value => value.compact

/-- The truth of a value: null, false, zero and the empty text are false. -/
def isTruthy : Json → Bool
  | .null => false
  | .bool value => value
  | .number value => value.toDouble.isNonzero
  | .string value => value != ""
  | .array _ | .object _ => true

/-- The number of a value; a text is read as a number and a blank one is zero. -/
def toNumber : Json → Double
  | .null => .zero
  | .bool value => if value then .one else .zero
  | .number value => value.toDouble
  | .string value =>
    let value := Text.trim value
    if value = "" then .zero else (Double.parse? value).getD .nan
  | .array _ | .object _ => .nan

/-- Equality of values: texts are equal up to the case of ASCII letters, lists and objects only to
equal ones, and all else as numbers. -/
def looseEqual : Json → Json → Bool
  | .string a, .string b => Text.equalFoldingAscii a b
  | .null, .null => true
  | .array xs, b => (Json.array xs).equal b
  | .object xs, b => (Json.object xs).equal b
  | a, .array ys => a.equal (.array ys)
  | a, .object ys => a.equal (.object ys)
  | a, b => (toNumber a).equal (toNumber b)

/-- The order of two texts by their small letters. -/
def compareTexts (a b : String) : Ordering :=
  compare (Text.lower a) (Text.lower b)

/-- The order of two values: of texts by their small letters, else by number, if both have one. -/
def compareValues? : Json → Json → Option Ordering
  | .string a, .string b => some (compareTexts a b)
  | a, b => (toNumber a).compare? (toNumber b)

/-- The answer of a comparison. The logical operators are not comparisons. -/
def BinaryOp.holds (op : BinaryOp) (a b : Json) : Bool :=
  match op with
  | .equal => looseEqual a b
  | .notEqual => !looseEqual a b
  | .less => compareValues? a b == some .lt
  | .lessEqual => (compareValues? a b).any (· != .gt)
  | .greater => compareValues? a b == some .gt
  | .greaterEqual => (compareValues? a b).any (· != .lt)
  | .and | .or => false

/-- The value of a property: of the field of that name, or else of the first field whose name
differs only in the case of ASCII letters. -/
def getMember (object : Json) (property : String) : Json :=
  match object with
  | .object fields =>
    match fields.lookup property with
    | some value => value
    | none =>
      match fields.find? fun field => Text.equalFoldingAscii field.1 property with
      | some (_, value) => value
      | none => .null
  | _ => .null

/-- The value at an index: of a list at a number, and else the property of the index's text. -/
def getIndex (object key : Json) : Json :=
  match object, key with
  | .array items, .number n =>
    match n.toDouble.floor? with
    | some place => (items[place]?).getD .null
    | none => .null
  | object, key => getMember object (toText key)

end Pipeline.Expression
