import Markup.Double

/-!
# Shortest decimals

The digits of a number are the fewest that read back as the same double, and among those the
nearest ones. `Decimal.shortest` finds them by trying one digit after another: on the grid of
decimals with a given number of digits only the two neighbours of the number can win, and whether
one reads back is decided by `Magnitude.ofDecimal`, which rounds to nearest. Seventeen digits are
enough; the exact expansion stands behind them, so that every answer reads back.
-/

namespace Markup

/-- The decimal `coefficient · 10^exponent`. -/
structure Decimal where
  /-- The digits, read as a whole number. -/
  coefficient : Nat
  /-- The place of the last digit. -/
  exponent : Int
deriving DecidableEq

/-- Which of two equally near decimals is chosen. -/
inductive Tie
  /-- The larger one. -/
  | up
  /-- The one whose last digit is even. -/
  | even
deriving DecidableEq

namespace Decimal

/-- The numerator of the decimal, written as a quotient of natural numbers. -/
def num (d : Decimal) : Nat :=
  d.coefficient * Nat.pow 10 d.exponent.toNat

/-- The denominator of the decimal, written as a quotient of natural numbers. -/
def den (d : Decimal) : Nat :=
  Nat.pow 10 (-d.exponent).toNat

/-- The decimal digits of the coefficient. -/
def digits (d : Decimal) : List Char :=
  Nat.toDigits 10 d.coefficient

/-- The place of the first digit: the power of ten in scientific form. -/
def leading (d : Decimal) : Int :=
  d.exponent + d.digits.length - 1

/-- Drops up to `bound` zeros at the end of a coefficient and counts them in the exponent. -/
def strip : (bound : Nat) → Decimal → Decimal
  | 0, d => d
  | bound + 1, d =>
    if d.coefficient % 10 = 0 then strip bound ⟨d.coefficient / 10, d.exponent + 1⟩ else d

/-- The same decimal without zeros at the end of its coefficient. -/
def stripped (d : Decimal) : Decimal :=
  strip d.digits.length d

end Decimal

namespace Magnitude

/-- The magnitude nearest to a decimal. -/
def ofDecimal (d : Decimal) : Option Magnitude :=
  ofRatio d.num d.den

/-- Does the decimal read back as the magnitude? -/
def readsBack (x : Magnitude) (d : Decimal) : Bool :=
  ofDecimal d == some x

/-- The magnitude written out exactly, in units of `10^(-1074)`. -/
def exactDecimal (x : Magnitude) : Decimal :=
  ⟨x.units * Nat.pow 5 1074, -1074⟩

/-- The power of ten of the first digit of a positive magnitude, that is, the largest `e` with
`10^e` at most the magnitude. -/
def leadingPlace (x : Magnitude) : Int :=
  if unitsPerOne ≤ x.units then
    (Nat.toDigits 10 (x.units / unitsPerOne)).length - 1
  else
    -(Nat.toDigits 10 ((unitsPerOne - 1) / x.units)).length

/-- The nearest decimal with its last digit at `place` that reads back, if there is one. Only the
two neighbours of the magnitude are tried: if any decimal of that grid reads back, one of them
does. -/
def nearestAt? (tie : Tie) (x : Magnitude) (place : Int) : Option Decimal :=
  let num := x.units * Nat.pow 10 (-place).toNat
  let den := unitsPerOne * Nat.pow 10 place.toNat
  let lower : Decimal := ⟨num / den, place⟩
  let upper : Decimal := ⟨num / den + 1, place⟩
  let twice := 2 * (num % den)
  if x.readsBack lower then
    if x.readsBack upper then
      if twice < den then some lower
      else if den < twice then some upper
      else if tie = .even ∧ lower.coefficient % 2 = 0 then some lower
      else some upper
    else some lower
  else if x.readsBack upper then some upper
  else none

/-- The decimal with the fewest digits that reads back as a positive magnitude; of several, the
nearest. -/
def shortest (tie : Tie) (x : Magnitude) : Decimal :=
  let found := (List.range 17).findSome? fun (further : Nat) =>
    x.nearestAt? tie (x.leadingPlace - further)
  (found.getD x.exactDecimal).stripped

end Magnitude

end Markup
