import Pipeline.Double

/-! The shortest decimal digits that read back as a given floating-point number, and their layout
as text. Among the decimals of the least length the nearest to the number is taken. -/

namespace Pipeline

/-- A decimal number `digits * 10 ^ exponent`. -/
structure Decimal where
  digits : Nat
  exponent : Int
  deriving Repr, DecidableEq

namespace Decimal

/-- The fraction that a decimal stands for. -/
def fraction (d : Decimal) : Nat × Nat :=
  if d.exponent < 0 then (d.digits, tenTo d.exponent.natAbs)
  else (d.digits * tenTo d.exponent.natAbs, 1)

/-- The decimal reads back as the number with this mantissa and exponent. -/
def readsAs (d : Decimal) (mantissa : Nat) (exponent : Int) : Bool :=
  Double.round false d.fraction.1 d.fraction.2 == .finite false mantissa exponent

/-- The decimal exponent of the first digit of `num / den`, looked for upwards from `guess`. -/
def leadingExponent (num den : Nat) (guess : Int) : Nat → Int
  | 0 => guess
  | fuel + 1 =>
    let next := guess + 1
    let reached :=
      if next < 0 then num * tenTo next.natAbs ≥ den else num ≥ den * tenTo next.natAbs
    if reached then leadingExponent num den next fuel else guess

/-- The neighbours of `num / den` on the grid of multiples of `10 ^ exponent`, the nearer first. -/
def neighbours (num den : Nat) (exponent : Int) : List Decimal :=
  let num := if exponent < 0 then num * tenTo exponent.natAbs else num
  let den := if exponent < 0 then den else den * tenTo exponent.natAbs
  let below := num / den
  if 2 * (num % den) ≤ den then [⟨below, exponent⟩, ⟨below + 1, exponent⟩]
  else [⟨below + 1, exponent⟩, ⟨below, exponent⟩]

/-- The first neighbour that reads back, on grids that get finer by one digit at a time. -/
def search (mantissa : Nat) (exponent : Int) (num den : Nat) (grid : Int) : Nat → Decimal
  | 0 => ⟨num / den, 0⟩
  | fuel + 1 =>
    match (neighbours num den grid).find? (·.readsAs mantissa exponent) with
    | some decimal => decimal
    | none => search mantissa exponent num den (grid - 1) fuel

/-- The decimal without zeros at the end of its digits; a decimal of `n` digits has at most `n`. -/
def strip (d : Decimal) : Nat → Decimal
  | 0 => d
  | fuel + 1 =>
    if d.digits % 10 = 0 && d.digits != 0 then strip ⟨d.digits / 10, d.exponent + 1⟩ fuel else d

/-- The shortest decimal that reads back as `mantissa * 2 ^ exponent`, which is not zero. Seventeen
digits always suffice. -/
def shortest (mantissa : Nat) (exponent : Int) : Decimal :=
  let (num, den) := Double.fraction mantissa exponent
  let guess : Int := ((num.log2 : Int) - (den.log2 : Int)) * 3 / 10 - 20
  let lead := leadingExponent num den guess 60
  (search mantissa exponent num den lead 17).strip 20

/-- The number of decimal digits. -/
def length (d : Decimal) : Nat :=
  (Nat.toDigits 10 d.digits).length

/-- How the digits of a number are set out as text. -/
structure Layout where
  /-- The exponents of the first digit for which the number is written without an exponent. -/
  positional : Int → Bool
  /-- A whole number without an exponent ends in `.0`. -/
  pointZero : Bool

/-- `0` repeated. -/
def zeros (n : Nat) : String :=
  String.ofList (List.replicate n '0')

/-- The text of a positive decimal. -/
def render (layout : Layout) (d : Decimal) : String :=
  let digits := Nat.toDigits 10 d.digits
  let count := digits.length
  let lead : Int := d.exponent + count - 1
  if layout.positional lead then
    if d.exponent ≥ 0 then
      String.ofList digits ++ zeros d.exponent.toNat ++ if layout.pointZero then ".0" else ""
    else if lead ≥ 0 then
      let whole := lead.toNat + 1
      String.ofList (digits.take whole) ++ "." ++ String.ofList (digits.drop whole)
    else "0." ++ zeros (-lead - 1).toNat ++ String.ofList digits
  else
    let tail := digits.drop 1
    String.ofList (digits.take 1) ++ (if tail.isEmpty then "" else "." ++ String.ofList tail) ++
      "e" ++ (if lead < 0 then "-" else "+") ++ toString lead.natAbs

end Decimal

/-- The text of a number in a layout; the text of NaN and infinity is for the caller. -/
def Double.render (layout : Decimal.Layout) : Double → String
  | .nan => "NaN"
  | .infinite negative => if negative then "-inf" else "inf"
  | .finite negative mantissa exponent =>
    let sign := if negative then "-" else ""
    if mantissa = 0 then sign ++ "0" ++ if layout.pointZero then ".0" else ""
    else sign ++ (Decimal.shortest mantissa exponent).render layout

end Pipeline
