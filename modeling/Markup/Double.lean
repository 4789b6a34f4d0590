/-!
# Double-precision numbers

A tree holds double-precision numbers. They are kept here as exact data: a finite double is a
sign together with a magnitude `significand · 2^shift` counted in units of `2^(-1074)`, the
smallest positive double. Every double has exactly one such form, so equality of forms is equality
of doubles, and rounding a quotient of natural numbers is a matter of one division with remainder.

* `Magnitude.ofRatio` rounds a quotient to the nearest magnitude, a half to the even neighbour, and
  answers `none` beyond the largest double.
* `Magnitude.mul` and `Magnitude.div` round the exact product and quotient once.
* `Double.ofBits` reads the interchange encoding.
* `Double.numEq` is numeric equality: a NaN differs from itself, and the two zeros agree.
-/

namespace Markup

/-- The quotient `num / den` rounded to the nearest natural number, a half to the even neighbour. -/
def roundHalfEven (num den : Nat) : Nat :=
  let quotient := num / den
  let twice := 2 * (num % den)
  if twice < den then quotient
  else if den < twice then quotient + 1
  else if quotient % 2 = 0 then quotient
  else quotient + 1

/-- The size of a finite double: `significand · 2^shift` units of `2^(-1074)`. -/
structure Magnitude where
  /-- The digits, 53 bits at most. -/
  significand : Nat
  /-- The power of two by which the smallest positive double is scaled. -/
  shift : Nat
  /-- The significand is below `2^53`. -/
  significand_lt : significand < 0x20000000000000
  /-- Larger shifts lie beyond the largest double. -/
  shift_le : shift ≤ 2045
  /-- The significand is at least `2^52` unless the number is subnormal, which makes the form
  unique. -/
  normal : shift = 0 ∨ 0x10000000000000 ≤ significand
deriving DecidableEq

namespace Magnitude

/-- The magnitude as a whole number of units of `2^(-1074)`. -/
def units (x : Magnitude) : Nat :=
  x.significand <<< x.shift

/-- The number of units in one. -/
def unitsPerOne : Nat :=
  1 <<< 1074

/-- The magnitude zero. -/
def zero : Magnitude where
  significand := 0
  shift := 0
  significand_lt := by decide
  shift_le := by decide
  normal := .inl rfl

/-- Is the magnitude zero? -/
def isZero (x : Magnitude) : Bool :=
  x.significand == 0

/-- The magnitude with the given significand and shift, if that is a canonical form. A significand
of exactly `2^53`, which rounding up can give, moves to the next shift. -/
def ofParts? (significand shift : Nat) : Option Magnitude :=
  if h : significand < 0x20000000000000 ∧ shift ≤ 2045 ∧
      (shift = 0 ∨ 0x10000000000000 ≤ significand) then
    some ⟨significand, shift, h.1, h.2.1, h.2.2⟩
  else if h : significand = 0x20000000000000 ∧ shift < 2045 then
    some ⟨0x10000000000000, shift + 1, by decide, h.2, .inr (Nat.le_refl _)⟩
  else none

/-- The magnitude nearest to `num / den`, a tie going to the even significand; `none` if that lies
beyond the largest double. -/
def ofRatio (num den : Nat) : Option Magnitude :=
  let scaled := num * unitsPerOne
  let shift := (scaled / den).log2 - 52
  ofParts? (roundHalfEven scaled (den <<< shift)) shift

/-- The product, rounded once. -/
def mul (x y : Magnitude) : Option Magnitude :=
  ofRatio (x.units * y.units) (unitsPerOne * unitsPerOne)

/-- The quotient, rounded once. -/
def div (x y : Magnitude) : Option Magnitude :=
  ofRatio x.units y.units

end Magnitude

/-- A double-precision number.
Source: the numbers of `Value` (section 10.2) -/
inductive Double
  /-- Not a number. -/
  | nan
  /-- An infinity. -/
  | infinite (negative : Bool)
  /-- A finite number; zero comes with either sign. -/
  | finite (negative : Bool) (magnitude : Magnitude)
deriving DecidableEq

namespace Double

/-- Zero, without a sign. -/
def zero : Double :=
  .finite false .zero

/-- Attaches a sign to a magnitude that may have overflowed. -/
def ofMagnitude? (negative : Bool) : Option Magnitude → Double
  | some magnitude => .finite negative magnitude
  | none => .infinite negative

/-- The double nearest to an integer. Zero gets no sign. -/
def ofInt (n : Int) : Double :=
  ofMagnitude? (decide (n < 0)) (Magnitude.ofRatio n.natAbs 1)

/-- The double with the given 64-bit interchange encoding: sign, 11 bits of exponent, 52 bits of
fraction. -/
def ofBits (bits : Nat) : Double :=
  let negative := (bits >>> 63) % 2 == 1
  let exponent := (bits >>> 52) % 0x800
  let fraction := bits % 0x10000000000000
  if exponent = 2047 then
    if fraction = 0 then .infinite negative else .nan
  else if exponent = 0 then
    ofMagnitude? negative (Magnitude.ofParts? fraction 0)
  else
    ofMagnitude? negative (Magnitude.ofParts? (0x10000000000000 + fraction) (exponent - 1))

/-- Is the number not a number? -/
def isNaN : Double → Bool
  | .nan => true
  | _ => false

/-- Is the number a zero of either sign? -/
def isZero : Double → Bool
  | .finite _ magnitude => magnitude.isZero
  | _ => false

/-- Is the number neither a NaN nor an infinity? -/
def isFinite : Double → Bool
  | .finite _ _ => true
  | _ => false

/-- Numeric equality: a NaN equals nothing, and the two zeros are equal.
Source: `PartialEq` of the numbers of `Value` -/
def numEq : Double → Double → Bool
  | .infinite a, .infinite b => a == b
  | .finite a x, .finite b y => x == y && (a == b || x.isZero)
  | _, _ => false

/-- A number is numerically equal to itself unless it is a NaN. -/
@[simp] theorem numEq_self (x : Double) : x.numEq x = !x.isNaN := by
  cases x <;> simp [numEq, isNaN]

end Double

end Markup
