import Pipeline.Double

/-! Reading numbers in plain text: an optional sign, then digits with an optional point and an
optional exponent, or one of the words for infinity and for no number. -/

namespace Pipeline

/-- The number of a row of digits in a base up to sixteen, or `none` if it holds another
character. -/
def digitsValue? (base : Nat) (digits : List Char) : Option Nat :=
  digits.foldlM (fun n c =>
    let digit :=
      if c.isDigit then c.toNat - '0'.toNat
      else if 'a' ≤ c && c ≤ 'f' then c.toNat - 'a'.toNat + 10
      else if 'A' ≤ c && c ≤ 'F' then c.toNat - 'A'.toNat + 10
      else base
    if digit < base then some (n * base + digit) else none) 0

/-- Splits a sign from the front of a text. -/
def splitSign : List Char → Bool × List Char
  | '-' :: rest => (true, rest)
  | '+' :: rest => (false, rest)
  | cs => (false, cs)

namespace Double

/-- The exponent part of a decimal text: nothing, or a letter, an optional sign and digits. -/
def readExponent? : List Char → Option Int
  | [] => some 0
  | c :: rest =>
    if c = 'e' || c = 'E' then
      let (negative, digits) := splitSign rest
      if digits.isEmpty then none
      else (digitsValue? 10 digits).map fun n => if negative then -(n : Int) else n
    else none

/-- The number that a text writes in decimal, rounded to the nearest. -/
def parse? (text : String) : Option Double :=
  let (negative, cs) := splitSign text.toList
  let word := String.ofList (cs.map Char.toLower)
  if word = "inf" || word = "infinity" then some (.infinite negative)
  else if word = "nan" then some .nan
  else
    let whole := cs.takeWhile Char.isDigit
    let (places, rest) := match cs.dropWhile Char.isDigit with
      | '.' :: rest => (rest.takeWhile Char.isDigit, rest.dropWhile Char.isDigit)
      | rest => ([], rest)
    if whole.isEmpty && places.isEmpty then none
    else do
      let digits ← digitsValue? 10 (whole ++ places)
      let exponent ← readExponent? rest
      pure (ofDecimal negative digits (exponent - places.length))

end Double

end Pipeline
