/-! Powers and sums of natural numbers, and floating-point numbers of 64 bits as exact values:
rounding, order and arithmetic are integer computations, so that every one of them can be reasoned
about. -/

namespace Pipeline

/-- The power of two with an exponent. -/
def twoTo (exponent : Nat) : Nat := Nat.pow 2 exponent

/-- The power of ten with an exponent. -/
def tenTo (exponent : Nat) : Nat := Nat.pow 10 exponent

/-- The sum of some numbers. -/
def total (numbers : List Nat) : Nat := numbers.foldr (fun n sum => n + sum) 0

@[simp] theorem total_cons (n : Nat) (l : List Nat) : total (n :: l) = n + total l := rfl

@[simp] theorem total_append (l l' : List Nat) : total (l ++ l') = total l + total l' := by
  induction l with
  | nil => exact (Nat.zero_add _).symm
  | cons n l ih => rw [List.cons_append, total_cons, total_cons, ih, Nat.add_assoc]

/-- A binary floating-point number of 64 bits. A finite one is `± mantissa * 2 ^ exponent`, with
the mantissa below `2 ^ 53` and the exponent at least `-1074`, and the least exponent of those. -/
inductive Double where
  | nan
  | infinite (negative : Bool)
  | finite (negative : Bool) (mantissa : Nat) (exponent : Int)
  deriving Repr, DecidableEq

namespace Double

/-- The number zero. -/
def zero : Double := .finite false 0 (-1074)

/-- The number one. -/
def one : Double := .finite false (twoTo 52) (-52)

instance : Inhabited Double := ⟨zero⟩

/-- The least exponent of a finite number. -/
def leastExponent : Int := -1074

/-- The greatest exponent of a finite number. -/
def greatestExponent : Int := 971

/-- The whole part of `num / den / 2 ^ exponent`, and whether half a unit more is below, at or
above the quotient. -/
def quotient (num den : Nat) (exponent : Int) : Nat × Ordering :=
  let num := if exponent < 0 then num * twoTo exponent.natAbs else num
  let den := if exponent < 0 then den else den * twoTo exponent.natAbs
  (num / den, compare (2 * (num % den)) den)

/-- The even neighbour at a tie, and else the nearer one. -/
def roundQuotient (q : Nat × Ordering) : Nat :=
  match q.2 with
  | .lt => q.1
  | .gt => q.1 + 1
  | .eq => q.1 + q.1 % 2

/-- The exponent that gives `num / den` a mantissa of 53 binary digits, or the least one. -/
def exponentOf (num den : Nat) : Int :=
  let guess : Int := (num.log2 : Int) - (den.log2 : Int) - 52
  let guess := if (quotient num den guess).1 < twoTo 52 then guess - 1 else guess
  max guess leastExponent

/-- The number nearest to `± num / den`, of two the one with the even mantissa. -/
def round (negative : Bool) (num den : Nat) : Double :=
  if num = 0 then .finite negative 0 leastExponent
  else
    let exponent := exponentOf num den
    let mantissa := roundQuotient (quotient num den exponent)
    let (mantissa, exponent) :=
      if mantissa = twoTo 53 then (twoTo 52, exponent + 1) else (mantissa, exponent)
    if exponent > greatestExponent then .infinite negative
    else .finite negative mantissa exponent

/-- The number nearest to `± digits * 10 ^ exponent`. -/
def ofDecimal (negative : Bool) (digits : Nat) (exponent : Int) : Double :=
  if digits = 0 then .finite negative 0 leastExponent
  else if (digits.log2 : Int) * 3 / 10 + exponent > 400 then .infinite negative
  else if (digits.log2 : Int) / 3 + exponent < -400 then .finite negative 0 leastExponent
  else if exponent < 0 then round negative digits (tenTo exponent.natAbs)
  else round negative (digits * tenTo exponent.natAbs) 1

/-- The number nearest to an integer. -/
def ofInt (n : Int) : Double :=
  round (n < 0) n.natAbs 1

/-- The magnitude of a finite number as a fraction. -/
def fraction (mantissa : Nat) (exponent : Int) : Nat × Nat :=
  if exponent < 0 then (mantissa, twoTo exponent.natAbs) else (mantissa * twoTo exponent.natAbs, 1)

/-- The sign bit. -/
def isNegative : Double → Bool
  | nan => false
  | infinite negative | finite negative _ _ => negative

/-- The number with the other sign. -/
def neg : Double → Double
  | nan => nan
  | infinite negative => infinite !negative
  | finite negative mantissa exponent => finite (!negative) mantissa exponent

/-- The place of a number among all numbers that are not NaN; the two zeros share one. -/
def rank : Double → Option Int
  | nan => none
  | infinite negative => some (if negative then -(twoTo 63 : Int) else twoTo 63)
  | finite negative mantissa exponent =>
    let place := (exponent - leastExponent) * twoTo 52 + mantissa
    some (if negative then -place else place)

/-- The order of two numbers, if neither is NaN. -/
def compare? (x y : Double) : Option Ordering :=
  match x.rank, y.rank with
  | some a, some b => some (compare a b)
  | _, _ => none

/-- Equality of numbers: the zeros are equal and NaN equals nothing. -/
def equal (x y : Double) : Bool :=
  x.compare? y == some .eq

/-- Neither zero nor NaN. -/
def isNonzero (x : Double) : Bool :=
  match x.rank with
  | none => false
  | some place => place != 0

/-- The value of a number that is a whole number. -/
def toInt? : Double → Option Int
  | finite negative mantissa exponent =>
    let (num, den) := fraction mantissa exponent
    if num % den = 0 then
      some (if negative then -(num / den : Nat) else (num / den : Nat))
    else none
  | _ => none

/-- The whole part of a number that is not negative, if it is finite. -/
def floor? : Double → Option Nat
  | finite negative mantissa exponent =>
    let (num, den) := fraction mantissa exponent
    if negative && mantissa != 0 then none else some (num / den)
  | _ => none

/-- The rounded product of two finite numbers; the other cases are not needed. -/
def mul : Double → Double → Double
  | finite s m e, finite s' m' e' =>
    let (a, b) := fraction m e
    let (c, d) := fraction m' e'
    round (s != s') (a * c) (b * d)
  | x, _ => x

/-- The rounded quotient of two finite numbers, the second not zero. -/
def div : Double → Double → Double
  | finite s m e, finite s' m' e' =>
    let (a, b) := fraction m e
    let (c, d) := fraction m' e'
    round (s != s') (a * d) (b * c)
  | x, _ => x

end Double

end Pipeline
