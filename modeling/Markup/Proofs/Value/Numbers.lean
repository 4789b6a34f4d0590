import Markup.Proofs.Json.Decimals
import Markup.Proofs.Value.Equality
import Markup.Proofs.Value.Exchange

/-!
# Exchanging numbers

A finite number is written with its shortest digits, and they determine it: their nearest double is
the number. But a reader does not look for the nearest double. It rounds the digits to a double,
and then once more when it scales them by a power of ten, so it may miss the number by a unit in
the last place. `Magnitude.exchanged` is what comes back, and `Value.read_number` says so of the
text. Something always comes back, even near the end of the range (`Magnitude.exists_exchanged`).

The number comes back as it was where the digits are a double themselves and the power of ten is at
most `10^22`. That includes the whole numbers up to `2^54 / 10`; the next one does not come back
(`Value.read_firstLost`), because a whole number is written with a zero after the point, and with
that zero its digits no longer fit into a double.
-/

namespace Markup

namespace Magnitude

/-- The magnitude that comes back when a magnitude is written and read; `none` if the reader finds
it out of range. -/
def exchanged (x : Magnitude) : Option Magnitude :=
  if x.isZero then some x else (x.shortest .even).spelled.computed?

/-- The digits of a magnitude are exact: they are a double as they stand in its text, and so is the
power of ten that scales them. -/
def ExactlySpelled (x : Magnitude) : Prop :=
  ∃ y : Magnitude, y.units = (x.shortest .even).spelled.coefficient * unitsPerOne ∧
    (x.shortest .even).spelled.exponent.natAbs ≤ 22

/-- The digits that are read are those of a number that reads back. -/
theorem ofDecimal_spelled {x : Magnitude} (nonzero : x.isZero = false) :
    ofDecimal (x.shortest .even).spelled = some x := by
  rw [ofDecimal_congr (Decimal.value_spelled _), ofDecimal_shortest .even nonzero]

/-- Spelling a positive decimal out leaves it positive. -/
theorem spelled_coefficient_pos {d : Decimal} (positive : 0 < d.coefficient) :
    0 < d.spelled.coefficient := by
  unfold Decimal.spelled
  split
  · exact Nat.mul_pos positive (Nat.pow_pos (by decide))
  · exact positive

/-- Spelling a decimal out leaves its coefficient within the bound. -/
theorem spelled_coefficient_le {d : Decimal} (positive : 0 < d.coefficient)
    (bounded : d.coefficient ≤ 10 ^ 17) : d.spelled.coefficient ≤ 10 ^ 17 := by
  unfold Decimal.spelled
  split_ifs with positional
  · obtain ⟨-, digits⟩ := Decimal.length_toDigits_bounds positive
    have nonempty : 0 < d.digits.length := Nat.length_toDigits_pos
    have leading : d.leading = d.exponent + d.digits.length - 1 := rfl
    have places : d.digits.length + (d.exponent.toNat + 1) ≤ 17 := by omega
    calc d.coefficient * 10 ^ (d.exponent.toNat + 1)
        ≤ 10 ^ d.digits.length * 10 ^ (d.exponent.toNat + 1) :=
          Nat.mul_le_mul_right _ digits.le
      _ = 10 ^ (d.digits.length + (d.exponent.toNat + 1)) := (Nat.pow_add _ _ _).symm
      _ ≤ 10 ^ 17 := Nat.pow_le_pow_right (by decide) places
  · exact bounded

/-- The three largest magnitudes. -/
def largest (k : Fin 3) : Magnitude :=
  ⟨2 ^ 53 - 1 - k, 2045, by omega, le_rfl, .inr (by omega)⟩

/-- The three largest magnitudes are not out of range when they are read again. -/
theorem isSome_exchanged_largest : ∀ k, (largest k).exchanged.isSome = true := by
  decide +kernel

/-- A magnitude of the last shift with a significand among the last three is one of them. -/
theorem exists_eq_largest {x : Magnitude} (last : x.shift = 2045)
    (large : 2 ^ 53 ≤ x.significand + 3) : ∃ k, x = largest k := by
  have small := x.significand_lt
  refine ⟨⟨2 ^ 53 - 1 - x.significand, by omega⟩, units_inj ?_⟩
  have significand : 2 ^ 53 - 1 - (2 ^ 53 - 1 - x.significand) = x.significand := by omega
  rw [units_eq, units_eq, last]
  simp only [largest, significand]

/-- **Something always comes back**: the reader never finds the text of a magnitude out of range. -/
theorem exists_exchanged (x : Magnitude) : ∃ y, x.exchanged = some y := by
  cases zero : x.isZero with
  | true => exact ⟨x, if_pos zero⟩
  | false =>
    obtain ⟨positive, bounded⟩ := coefficient_shortest_bounds .even zero
    by_cases large : x.shift = 2045 ∧ 2 ^ 53 ≤ x.significand + 3
    · obtain ⟨k, rfl⟩ := exists_eq_largest large.1 large.2
      exact Option.isSome_iff_exists.1 (isSome_exchanged_largest k)
    · have below : x.shift < 2045 ∨ x.significand + 3 < 2 ^ 53 := by
        have := x.shift_le
        omega
      rw [exchanged, if_neg (by simp [zero])]
      exact Decimal.exists_computed? (spelled_coefficient_pos positive)
        (spelled_coefficient_le positive bounded) (ofDecimal_spelled zero) below

/-- A magnitude with exact digits comes back. -/
theorem exchanged_of_exactlySpelled {x : Magnitude} (h : x.ExactlySpelled) :
    x.exchanged = some x := by
  obtain ⟨y, exact, small⟩ := h
  cases zero : x.isZero with
  | true => rw [exchanged, if_pos zero]
  | false =>
    obtain ⟨positive, -⟩ := coefficient_shortest_bounds .even zero
    rw [exchanged, if_neg (by simp [zero]),
      Decimal.computed?_eq_ofDecimal (spelled_coefficient_pos positive) exact small,
      ofDecimal_spelled zero]

/-- A positive whole number up to `2^54 / 10` has exact digits: with a zero at their end they are
even, and half of them has at most 53 bits. -/
theorem exactlySpelled_of_whole {x : Magnitude} {n : Nat} (positive : 0 < n)
    (small : n ≤ 2 ^ 54 / 10) (whole : x.units = n * unitsPerOne) : x.ExactlySpelled := by
  obtain ⟨value, nonneg⟩ := value_shortest_of_whole .even positive (by omega) whole
  have nonzero := isZero_of_whole positive whole
  obtain ⟨digits, -⟩ := coefficient_shortest_bounds .even nonzero
  unfold ExactlySpelled
  generalize x.shortest .even = d at *
  obtain ⟨e, exponent_eq, product⟩ := Decimal.exists_zeros_of_whole value nonneg
  have short : d.leading < 16 := by
    obtain ⟨lower, -⟩ := Decimal.length_toDigits_bounds digits
    have nonempty : 0 < d.digits.length := Nat.length_toDigits_pos
    have power : 10 ^ (d.digits.length - 1 + e) < 10 ^ 16 := by
      have := Nat.mul_le_mul_right (10 ^ e) lower
      rw [product, ← Nat.pow_add] at this
      exact this.trans_lt (by omega)
    have places := (Nat.pow_lt_pow_iff_right (by decide)).1 power
    have leading : d.leading = d.exponent + d.digits.length - 1 := rfl
    omega
  have spelled : d.spelled = ⟨n * 10, -1⟩ := by
    rw [Decimal.spelled, if_pos ⟨nonneg, short⟩, exponent_eq, Int.toNat_natCast, Nat.pow_succ,
      ← Nat.mul_assoc, product]
  have bits : 5 * n < 2 ^ 53 := by omega
  obtain ⟨y, hy⟩ := exists_whole bits (by decide : 1 ≤ 971)
  have doubled : 5 * n * 2 ^ 1 = n * 10 := by omega
  rw [doubled] at hy
  rw [spelled]
  exact ⟨y, hy, by simp⟩

/-- A whole number up to `2^54 / 10` comes back. -/
theorem exchanged_of_whole {x : Magnitude} {n : Nat} (small : n ≤ 2 ^ 54 / 10)
    (whole : x.units = n * unitsPerOne) : x.exchanged = some x := by
  rcases Nat.eq_zero_or_pos n with rfl | positive
  · have zero : x.isZero = true := by
      rw [← Bool.not_eq_false, isZero_eq_false_iff, whole]
      omega
    rw [exchanged, if_pos zero]
  · exact exchanged_of_exactlySpelled (exactlySpelled_of_whole positive small whole)

end Magnitude

namespace Json

/-- **The text of a finite number is a numeral**, and it is read as what comes back. -/
theorem Number.reread_finite (negative : Bool) (x : Magnitude) :
    (Number.real (.finite negative x)).Shaped ∧
      (Number.real (.finite negative x)).reread =
        x.exchanged.map fun y => .real (.finite negative y) := by
  cases zero : x.isZero with
  | true =>
    obtain ⟨sign, eq⟩ := Double.eq_finite_zero_of_isZero (x := .finite negative x) zero
    obtain ⟨rfl, rfl⟩ : negative = sign ∧ x = .zero := by
      simpa using eq
    cases negative <;> exact ⟨by decide +kernel, by decide +kernel⟩
  | false =>
    obtain ⟨positive, bounded⟩ := Magnitude.coefficient_shortest_bounds .even zero
    obtain ⟨stage, n, scanned, complete, spells⟩ :=
      Decimal.scan_text negative positive (bounded.trans (by decide))
    have text : (Number.real (.finite negative x)).text.toList =
        (if negative then "-" else "").toList ++ ((x.shortest .even).text .exchanged).toList := by
      rw [Number.text, Double.text, if_neg (by simp [zero]), String.toList_append]
      rfl
    have whole := scanNumeral_signed negative scanned
    rw [← text] at whole
    refine ⟨⟨stage, n, whole, complete⟩, ?_⟩
    rw [Number.reread, whole, Option.bind_some, Decimal.number?_of_spellsOut spells,
      Magnitude.exchanged, if_neg (by simp [zero])]

end Json

namespace Value

/-- What is read from the text of a finite number. -/
theorem read_compact_number (negative : Bool) {x y : Magnitude}
    (comes_back : x.exchanged = some y) :
    Value.read none (number (.finite negative x)).toJson.compact =
      .ok (.number (.finite negative y)) := by
  obtain ⟨shaped, reread⟩ := Json.Number.reread_finite negative x
  have document : (number (.finite negative x)).toJson =
      .number (.real (.finite negative x)) := rfl
  rw [comes_back, Option.map_some] at reread
  rw [document]
  exact read_compact_of_reads (.number shaped) (Json.reads_number reread)

/-- A finite number survives the exchange exactly if it is what comes back. -/
theorem exists_read_number_iff (negative : Bool) (x : Magnitude) :
    (∃ y, Value.read none (number (.finite negative x)).toJson.compact = .ok (.number y) ∧
      y.numEq (.finite negative x) = true) ↔ x.exchanged = some x := by
  constructor
  · rintro ⟨y, answer, same⟩
    obtain ⟨z, comes_back⟩ := x.exists_exchanged
    rw [read_compact_number negative comes_back] at answer
    obtain rfl : .finite negative z = y := by simpa using answer
    obtain rfl : z = x := by
      simp only [Double.numEq, Bool.and_eq_true, beq_iff_eq] at same
      exact same.1
    exact comes_back
  · intro comes_back
    exact ⟨.finite negative x, read_compact_number negative comes_back, by simp [Double.isNaN]⟩

/-- **A finite number always comes back as a finite number**, and it survives the exchange exactly
if what comes back is the number itself. It does if its digits are exact, and so do all whole
numbers up to `2^54 / 10`. -/
theorem read_number (negative : Bool) (x : Magnitude) :
    (∃ y, x.exchanged = some y ∧ Value.read none (number (.finite negative x)).toJson.compact =
      .ok (.number (.finite negative y))) ∧
    ((∃ y, Value.read none (number (.finite negative x)).toJson.compact = .ok (.number y) ∧
      y.numEq (.finite negative x) = true) ↔ x.exchanged = some x) ∧
    (x.ExactlySpelled → x.exchanged = some x) ∧
    ∀ n ≤ 2 ^ 54 / 10, x.units = n * Magnitude.unitsPerOne → x.exchanged = some x := by
  refine ⟨?_, exists_read_number_iff negative x, Magnitude.exchanged_of_exactlySpelled, ?_⟩
  · obtain ⟨y, comes_back⟩ := x.exists_exchanged
    exact ⟨y, comes_back, read_compact_number negative comes_back⟩
  · intro n small whole
    exact Magnitude.exchanged_of_whole small whole

/-- The largest whole number up to `2^54 / 10`. -/
def lastKept : Magnitude :=
  ⟨7205759403792792, 1072, by decide, by decide, .inr (by decide)⟩

/-- The last of the whole numbers that are known to come back does. -/
theorem read_lastKept : lastKept.units = 1801439850948198 * Magnitude.unitsPerOne ∧
    lastKept.exchanged = some lastKept := by
  have units : lastKept.units = 1801439850948198 * Magnitude.unitsPerOne := by decide +kernel
  exact ⟨units, (read_number false lastKept).2.2.2 1801439850948198 (by decide) units⟩

/-- The next whole number. -/
def firstLost : Magnitude :=
  ⟨7205759403792796, 1072, by decide, by decide, .inr (by decide)⟩

/-- The next whole number does not come back: it is read as a number that is larger by a quarter. -/
theorem read_firstLost : firstLost.units = 1801439850948199 * Magnitude.unitsPerOne ∧
    ¬ ∃ y, Value.read none (number (.finite false firstLost)).toJson.compact = .ok (.number y) ∧
      y.numEq (.finite false firstLost) = true := by
  refine ⟨by decide +kernel, ?_⟩
  rw [exists_read_number_iff]
  decide +kernel

end Value

end Markup
