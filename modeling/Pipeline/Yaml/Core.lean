import Pipeline.Decimal.Reader
import Pipeline.Json.Basic
import Pipeline.Yaml.Node

/-! The types of scalars: which plain scalars are null, truth values and numbers. -/

namespace Pipeline.Yaml

/-- The type of a plain scalar. -/
inductive Typed where
  | null
  | bool (value : Bool)
  | number (value : Json)
  /-- A whole number of more than 64 and up to 128 bits. -/
  | wide
  | text

/-- The spellings of null, besides the empty one. -/
def isNull (text : String) : Bool :=
  ["null", "Null", "NULL", "~"].contains text

/-- The truth value that a text spells. -/
def truth? (text : String) : Option Bool :=
  if ["true", "True", "TRUE"].contains text then some true
  else if ["false", "False", "FALSE"].contains text then some false
  else none

/-- A row of digits with a zero in front is a text. -/
def isPadded (cs : List Char) : Bool :=
  let digits := match cs with
    | '-' :: rest | '+' :: rest => rest
    | cs => cs
  digits.length > 1 && digits.head? == some '0' && digits.all Char.isDigit

/-- The number that a row of digits writes in a base, if it is at most `limit`. -/
def boundedValue? (limit base : Nat) (digits : List Char) : Option Nat :=
  if digits.isEmpty then none
  else
    match digitsValue? base digits with
    | some n => if n ≤ limit then some n else none
    | none => none

/-- The magnitude of a whole number after its sign: in base sixteen, eight or two after a mark, else
in base ten. -/
def magnitude? (limit : Nat) (cs : List Char) : Option Nat :=
  match cs with
  | '0' :: 'x' :: digits => boundedValue? limit 16 digits
  | '0' :: 'o' :: digits => boundedValue? limit 8 digits
  | '0' :: 'b' :: digits => boundedValue? limit 2 digits
  | digits => if isPadded digits then none else boundedValue? limit 10 digits

/-- A whole number that is not negative, after an optional plus sign, of at most so many bits. -/
def unsigned? (bits : Nat) (cs : List Char) : Option Nat :=
  magnitude? (twoTo bits - 1) (match cs with
    | '+' :: rest => rest
    | cs => cs)

/-- A whole number after a minus sign, of at most so many bits with the sign. -/
def negative? (bits : Nat) (cs : List Char) : Option Int :=
  match cs with
  | '-' :: rest => (magnitude? (twoTo (bits - 1)) rest).map fun n => -(n : Int)
  | _ => none

/-- The whole number that a text spells. -/
def whole? (text : String) : Option Typed :=
  let cs := text.toList
  match unsigned? 64 cs with
  | some n => some (.number (Json.int n))
  | none =>
    match negative? 64 cs with
    | some n => some (.number (Json.int n))
    | none =>
      if (unsigned? 128 cs).isSome || (negative? 128 cs).isSome then some .wide else none

/-- The spellings of numbers that are not finite. -/
def isNotFinite (text : String) : Bool :=
  [".inf", ".Inf", ".INF", "+.inf", "+.Inf", "+.INF", "-.inf", "-.Inf", "-.INF", ".nan", ".NaN",
    ".NAN"].contains text

/-- The floating-point number that a text spells. One that is not finite has no JSON form. -/
def float? (text : String) : Option Typed :=
  if isNotFinite text then some (.number .null)
  else
    match Double.parse? text with
    | some (.finite negative mantissa exponent) =>
      some (.number (.float (.finite negative mantissa exponent)))
    | _ => none

/-- The type of a plain scalar by its spelling. -/
def typePlain (text : String) : Typed :=
  if text = "" || isNull text then .null
  else
    match truth? text with
    | some value => .bool value
    | none =>
      match whole? text with
      | some typed => typed
      | none =>
        if isPadded text.toList then .text else (float? text).getD .text

/-- The type that a tag of the core schema asks for, or `none` if the spelling does not fit it. -/
def typeTagged (tag text : String) : Option Typed :=
  if tag = coreTagStem ++ "bool" then (truth? text).map .bool
  else if tag = coreTagStem ++ "int" then whole? text
  else if tag = coreTagStem ++ "float" then float? text
  else if tag = coreTagStem ++ "null" then if isNull text then some .null else none
  else if tag.front = '!' then none
  else some .text

/-- The type of a scalar. -/
def typeScalar (text : String) (style : Style) (tag : Option String) : Option Typed :=
  match tag with
  | some tag => typeTagged tag text
  | none => if style = .plain then some (typePlain text) else some .text

end Pipeline.Yaml
