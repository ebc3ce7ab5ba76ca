import Pipeline.Decimal.Shortest
import Pipeline.Dict

/-! JSON values. Whole numbers and floating-point numbers are kept apart: `1` and `1.0` are two
values. -/

namespace Pipeline

namespace Json

/-- A number: a whole one of 64 bits, signed or not, or a finite floating-point one. -/
inductive Number where
  | int (value : Int)
  | float (value : Double)
  deriving Repr, DecidableEq

namespace Number

/-- The floating-point number nearest to a number. -/
def toDouble : Number → Double
  | int value => Double.ofInt value
  | float value => value

/-- Equal in kind and value; the two zeros are equal. -/
def equal : Number → Number → Bool
  | int a, int b => a == b
  | float a, float b => a.equal b
  | _, _ => false

/-- A number stands without an exponent when that of its first digit is from -5 to 15, and a whole
floating-point number ends in `.0`. -/
def layout : Decimal.Layout := ⟨fun lead => -5 ≤ lead ∧ lead ≤ 15, true⟩

/-- The text of a number. -/
def render : Number → String
  | int value => toString value
  | float value => value.render layout

end Number

end Json

/-- A JSON value. Objects made by `Json.ofFields` have their keys in order; a writer keeps the order
that it is given. -/
inductive Json where
  | null
  | bool (value : Bool)
  | number (value : Json.Number)
  | string (value : String)
  | array (items : List Json)
  | object (fields : List (String × Json))

namespace Json

instance : Inhabited Json := ⟨null⟩

/-- A whole number. -/
def int (n : Int) : Json := number (.int n)

/-- A floating-point number; one that is not finite has no JSON form and is null. -/
def float : Double → Json
  | .finite negative mantissa exponent => number (.float (.finite negative mantissa exponent))
  | _ => null

/-- The object with these fields in the order of their keys, of which the last one of a key
counts. -/
def ofFields (fields : List (String × Json)) : Json :=
  object (Dict.ofList fields)

/-- The object of a map of texts. -/
def ofTexts (texts : Dict String) : Json :=
  object (texts.mapValues string)

/-- The value of a field. -/
def field? : Json → String → Option Json
  | object fields, key => fields.lookup key
  | _, _ => none

mutual

/-- Equality of values: numbers are equal in kind and value. -/
def equal : Json → Json → Bool
  | null, null => true
  | bool a, bool b => a == b
  | number a, number b => a.equal b
  | string a, string b => a == b
  | array xs, array ys => equalItems xs ys
  | object xs, object ys => equalFields xs ys
  | _, _ => false

/-- Equality of lists of values. -/
def equalItems : List Json → List Json → Bool
  | [], [] => true
  | x :: xs, y :: ys => equal x y && equalItems xs ys
  | _, _ => false

/-- Equality of lists of fields. -/
def equalFields : List (String × Json) → List (String × Json) → Bool
  | [], [] => true
  | (k, x) :: xs, (l, y) :: ys => k == l && equal x y && equalFields xs ys
  | _, _ => false

end

end Json

end Pipeline
