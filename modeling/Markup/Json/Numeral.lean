import Markup.Json

/-!
# Numerals

A number in JSON text is read digit by digit into a significand of at most 64 bits and a power of
ten. Digits that no longer fit are dropped; those before the point are made up for in the power.
The double is then computed by multiplying or dividing by a power of ten, with a rounding at every
operation, so it is not always the double nearest to the written number.

`Stage.next` is the shape of numbers, and `Numeral` is what has been read of one.
-/

namespace Markup.Json

/-! ### Shape -/

/-- How far a numeral has been read. -/
inductive Stage
  /-- After the minus sign. -/
  | sign
  /-- After a leading zero. -/
  | zero
  /-- Among the digits before the point. -/
  | whole
  /-- After the point. -/
  | point
  /-- Among the digits after the point. -/
  | fraction
  /-- After the exponent mark. -/
  | mark
  /-- After the sign of the exponent. -/
  | exponentSign
  /-- Among the digits of the exponent. -/
  | exponent
deriving DecidableEq

/-- What a character means for a numeral. -/
inductive Continuation
  /-- The numeral goes on with the character. -/
  | goes (stage : Stage)
  /-- The numeral is complete and the character is not part of it. -/
  | ends
  /-- The numeral is malformed. -/
  | fails
deriving DecidableEq

namespace Stage

/-- Can the numeral end here? -/
def isComplete : Stage → Bool
  | .zero | .whole | .fraction | .exponent => true
  | .sign | .point | .mark | .exponentSign => false

/-- Is the character an exponent mark? -/
def isMark (c : Char) : Bool :=
  c == 'e' || c == 'E'

/-- What a character means at a stage. -/
def next (stage : Stage) (c : Char) : Continuation :=
  match stage with
  | .sign => if c = '0' then .goes .zero else if c.isDigit then .goes .whole else .fails
  | .zero =>
    if c.isDigit then .fails
    else if c = '.' then .goes .point
    else if isMark c then .goes .mark
    else .ends
  | .whole =>
    if c.isDigit then .goes .whole
    else if c = '.' then .goes .point
    else if isMark c then .goes .mark
    else .ends
  | .point => if c.isDigit then .goes .fraction else .fails
  | .fraction =>
    if c.isDigit then .goes .fraction else if isMark c then .goes .mark else .ends
  | .mark =>
    if c.isDigit then .goes .exponent
    else if c = '+' ∨ c = '-' then .goes .exponentSign
    else .fails
  | .exponentSign => if c.isDigit then .goes .exponent else .fails
  | .exponent => if c.isDigit then .goes .exponent else .ends

end Stage

/-! ### Value -/

/-- What has been read of a numeral.
Source: the numbers of the JSON reader behind `from_json` -/
structure Numeral where
  /-- Was there a minus sign? -/
  negative : Bool
  /-- The digits kept so far, as a number of at most 64 bits. -/
  significand : Nat
  /-- The power of ten that makes up for dropped digits and for the point. -/
  scale : Int
  /-- Has a digit of the current part been dropped? -/
  full : Bool
  /-- Is there neither a point nor an exponent mark so far? -/
  isWhole : Bool
  /-- Does the exponent have a minus sign? -/
  exponentNegative : Bool
  /-- The exponent so far, without its sign. -/
  exponent : Nat

namespace Numeral

/-- Nothing but the sign has been read. -/
def start (negative : Bool) : Numeral :=
  ⟨negative, 0, 0, false, true, false, 0⟩

/-- The largest significand: it has 64 bits. -/
def maxSignificand : Nat :=
  0xFFFFFFFFFFFFFFFF

/-- The size of the least integer. -/
def maxNegative : Nat :=
  0x8000000000000000

/-- The value of a digit. -/
def digitValue (c : Char) : Nat :=
  c.toNat - '0'.toNat

/-- Takes a digit before or after the point. Once a digit of a part does not fit, the rest of that
part is dropped. -/
def pushDigit (n : Numeral) (afterPoint : Bool) (digit : Nat) : Numeral :=
  let grown := n.significand * 10 + digit
  if n.full ∨ maxSignificand < grown then
    { n with full := true, scale := if afterPoint then n.scale else n.scale + 1 }
  else
    { n with significand := grown, scale := if afterPoint then n.scale - 1 else n.scale }

/-- Takes a character that continues the numeral into the given stage. -/
def push (n : Numeral) (stage : Stage) (c : Char) : Numeral :=
  match stage with
  | .sign => n
  | .zero | .whole => n.pushDigit false (digitValue c)
  | .point => { n with full := false, isWhole := false }
  | .fraction => n.pushDigit true (digitValue c)
  | .mark => { n with isWhole := false }
  | .exponentSign => { n with exponentNegative := c == '-' }
  | .exponent => { n with exponent := n.exponent * 10 + digitValue c }

end Numeral

/-- The largest power of ten that is a double. -/
def maxPower : Nat :=
  308

/-- The double nearest to a power of ten. -/
def powerOfTen (power : Nat) : Option Magnitude :=
  Magnitude.ofRatio (Nat.pow 10 power) 1

/-- Divides by the largest power of ten the given number of times, as long as something is left. -/
def lower : (times : Nat) → Magnitude → Option Magnitude
  | 0, x => some x
  | times + 1, x =>
    if x.isZero then some x
    else do
      let power ← powerOfTen maxPower
      lower times (← x.div power)

/-- Scales by a power of ten, with a rounding at every operation; `none` if the result is beyond
the largest double. -/
def scaleByTen (x : Magnitude) (power : Int) : Option Magnitude :=
  if x.isZero then some x
  else if 0 ≤ power then
    if power ≤ maxPower then do x.mul (← powerOfTen power.toNat) else none
  else do
    let times := ((-power).toNat - 1) / maxPower
    let lowered ← lower times x
    lowered.div (← powerOfTen ((-power).toNat - times * maxPower))

namespace Numeral

/-- The exponent of the whole numeral. -/
def power (n : Numeral) : Int :=
  n.scale + if n.exponentNegative then -(n.exponent : Int) else n.exponent

/-- The double that the numeral stands for; `none` if it is out of range. -/
def real? (n : Numeral) : Option Double := do
  let significand ← Magnitude.ofRatio n.significand 1
  let magnitude ← scaleByTen significand n.power
  return .finite n.negative magnitude

/-- The number that the numeral stands for; `none` if it is out of range. Whole numerals that fit
into 64 bits, signed or unsigned, are integers, except for a negative zero.
Source: the numbers that the JSON reader hands to `visit_i64`, `visit_u64` and `visit_f64` -/
def number? (n : Numeral) : Option Number :=
  if n.isWhole ∧ n.scale = 0 then
    if n.negative then
      if 0 < n.significand ∧ n.significand ≤ maxNegative then some (.integer (-n.significand))
      else n.real?.map .real
    else some (.integer n.significand)
  else n.real?.map .real

end Numeral

end Markup.Json
