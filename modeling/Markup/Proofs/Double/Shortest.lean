import Mathlib.Algebra.Order.Field.Power
import Mathlib.Tactic.NormNum
import Mathlib.Tactic.Positivity
import Markup.Proofs.Double.Rounding

/-!
# Shortest decimals read back

`Magnitude.shortest` looks for a decimal on one grid after another, each ten times finer than the
one before. On the grid of seventeen digits the nearer neighbour of a magnitude always reads back,
because a step of that grid is less than the distance between magnitudes
(`Magnitude.nearestAt?_ne_none`). So the search succeeds for every positive magnitude, and its
answer reads back and has at most seventeen digits up to a carry (`Magnitude.ofDecimal_shortest`,
`Magnitude.coefficient_shortest_bounds`).

A whole number stands on the grid of the units, so the search ends there at the latest, and the
digits found are exactly those of the number (`Magnitude.value_shortest_of_whole`).
-/

namespace Markup

namespace Decimal

/-! ### The value of a decimal -/

/-- The number of digits says between which powers of ten a number lies. -/
theorem length_toDigits_bounds {n : Nat} (positive : 0 < n) :
    10 ^ ((Nat.toDigits 10 n).length - 1) ≤ n ∧ n < 10 ^ (Nat.toDigits 10 n).length := by
  have nonempty : 0 < (Nat.toDigits 10 n).length := Nat.length_toDigits_pos
  refine ⟨?_, (Nat.length_toDigits_le_iff (by decide) nonempty).1 le_rfl⟩
  rcases Nat.eq_zero_or_pos ((Nat.toDigits 10 n).length - 1) with one | more
  · rw [one]
    exact positive
  · rw [← not_lt, ← Nat.length_toDigits_le_iff (by decide) more]
    omega

/-- The number that a decimal stands for. -/
def value (d : Decimal) : ℚ :=
  d.coefficient * 10 ^ d.exponent

/-- A whole number is its digits and the zeros behind them. -/
theorem exists_zeros_of_whole {d : Decimal} {n : Nat} (value : d.value = n)
    (whole : 0 ≤ d.exponent) :
    ∃ zeros : Nat, d.exponent = zeros ∧ d.coefficient * 10 ^ zeros = n := by
  obtain ⟨zeros, exponent⟩ := Int.eq_ofNat_of_zero_le whole
  refine ⟨zeros, exponent, ?_⟩
  rw [Decimal.value, exponent, zpow_natCast] at value
  exact_mod_cast value

/-- A power of ten as a quotient of natural numbers. -/
theorem ten_zpow_mul (place : Int) :
    (10 : ℚ) ^ place * 10 ^ (-place).toNat = 10 ^ place.toNat := by
  rw [← zpow_natCast, ← zpow_natCast, ← zpow_add₀ (by norm_num)]
  congr 1
  omega

/-- The denominator of a decimal is positive. -/
theorem den_pos (d : Decimal) : 0 < d.den :=
  Nat.pow_pos (by decide)

/-- A decimal stands for the quotient of its numerator and its denominator. -/
theorem num_eq_value_mul_den (d : Decimal) : (d.num : ℚ) = d.value * d.den := by
  simp only [num, den, value, Nat.pow_eq, Nat.cast_mul, Nat.cast_pow, Nat.cast_ofNat]
  rw [mul_assoc, ten_zpow_mul]

/-- Zeros at the end of the coefficient do not change what a decimal stands for. -/
theorem value_strip (bound : Nat) (d : Decimal) : (strip bound d).value = d.value := by
  induction bound generalizing d with
  | zero => rfl
  | succ bound ih =>
    rw [strip]
    split
    · rename_i zero
      have parts : (d.coefficient : ℚ) = (d.coefficient / 10 : Nat) * 10 := by
        exact_mod_cast (Nat.div_mul_cancel (Nat.dvd_of_mod_eq_zero zero)).symm
      rw [ih, value, value, parts, zpow_add₀ (by norm_num)]
      ring
    · rfl

/-- Without its zeros a coefficient is no larger, and the last place no lower. -/
theorem strip_le (bound : Nat) (d : Decimal) :
    (strip bound d).coefficient ≤ d.coefficient ∧ d.exponent ≤ (strip bound d).exponent := by
  induction bound generalizing d with
  | zero => exact ⟨le_rfl, le_rfl⟩
  | succ bound ih =>
    rw [strip]
    split
    · obtain ⟨coefficient_le, le_exponent⟩ := ih ⟨d.coefficient / 10, d.exponent + 1⟩
      exact ⟨coefficient_le.trans (Nat.div_le_self _ _), by
        have : d.exponent + 1 ≤ _ := le_exponent
        omega⟩
    · exact ⟨le_rfl, le_rfl⟩

/-- A coefficient that is not zero is not stripped to zero. -/
theorem strip_coefficient_pos (bound : Nat) {d : Decimal} (positive : 0 < d.coefficient) :
    0 < (strip bound d).coefficient := by
  induction bound generalizing d with
  | zero => exact positive
  | succ bound ih =>
    rw [strip]
    split
    · apply ih
      change 0 < d.coefficient / 10
      omega
    · exact positive

end Decimal

namespace Magnitude

open Decimal (length_toDigits_bounds ten_zpow_mul)

/-- Decimals that stand for the same number have the same nearest magnitude. -/
theorem ofDecimal_congr {d d' : Decimal} (h : d.value = d'.value) : ofDecimal d = ofDecimal d' := by
  apply ofRatio_congr d.den_pos d'.den_pos
  have crossed : (d.num : ℚ) * d'.den = d'.num * d.den := by
    rw [d.num_eq_value_mul_den, d'.num_eq_value_mul_den, h]
    ring
  exact_mod_cast crossed

/-- A magnitude is zero if it has no units, and only then. -/
theorem isZero_eq_false_iff {x : Magnitude} : x.isZero = false ↔ 0 < x.units := by
  rw [isZero, beq_eq_false_iff_ne, units_eq, Nat.mul_pos_iff_of_pos_right (Nat.two_pow_pos _),
    Nat.pos_iff_ne_zero]

/-- The magnitude of a positive whole number is not zero. -/
theorem isZero_of_whole {x : Magnitude} {n : Nat} (positive : 0 < n)
    (whole : x.units = n * unitsPerOne) : x.isZero = false := by
  rw [isZero_eq_false_iff, whole]
  exact Nat.mul_pos positive unitsPerOne_pos

/-! ### The place of the first digit -/

/-- A positive magnitude lies between the power of ten of its first digit and the next one. -/
theorem leadingPlace_bounds {x : Magnitude} (nonzero : x.isZero = false) :
    (unitsPerOne : ℚ) * 10 ^ x.leadingPlace ≤ x.units ∧
      (x.units : ℚ) < unitsPerOne * 10 ^ (x.leadingPlace + 1) := by
  have unit := unitsPerOne_pos
  have positive := isZero_eq_false_iff.1 nonzero
  unfold leadingPlace
  split
  · rename_i large
    obtain ⟨lower, upper⟩ := length_toDigits_bounds (Nat.div_pos large unit)
    have nonempty : 0 < (Nat.toDigits 10 (x.units / unitsPerOne)).length :=
      Nat.length_toDigits_pos
    generalize (Nat.toDigits 10 (x.units / unitsPerOne)).length = length at lower upper nonempty
    obtain ⟨further, rfl⟩ : ∃ further, length = further + 1 := ⟨length - 1, by omega⟩
    rw [Nat.add_sub_cancel, Nat.le_div_iff_mul_le unit] at lower
    rw [Nat.div_lt_iff_lt_mul unit] at upper
    have place : ((further + 1 : Nat) : Int) - 1 = further := by omega
    rw [place, zpow_natCast, ← Int.natCast_succ, zpow_natCast, mul_comm, mul_comm (unitsPerOne : ℚ)]
    exact ⟨by exact_mod_cast lower, by exact_mod_cast upper⟩
  · rename_i small
    rw [not_le] at small
    obtain ⟨lower, upper⟩ := length_toDigits_bounds
      (Nat.div_pos (Nat.le_sub_one_of_lt small) positive)
    have nonempty : 0 < (Nat.toDigits 10 ((unitsPerOne - 1) / x.units)).length :=
      Nat.length_toDigits_pos
    generalize (Nat.toDigits 10 ((unitsPerOne - 1) / x.units)).length = length
      at lower upper nonempty
    obtain ⟨further, rfl⟩ : ∃ further, length = further + 1 := ⟨length - 1, by omega⟩
    rw [Nat.add_sub_cancel, Nat.le_div_iff_mul_le positive] at lower
    rw [Nat.div_lt_iff_lt_mul positive] at upper
    have place : -((further + 1 : Nat) : Int) + 1 = -(further : Int) := by omega
    rw [place, zpow_neg, zpow_neg, zpow_natCast, zpow_natCast, ← div_eq_mul_inv, ← div_eq_mul_inv,
      div_le_iff₀ (by positivity), lt_div_iff₀ (by positivity), mul_comm (x.units : ℚ),
      mul_comm (x.units : ℚ)]
    have below : unitsPerOne ≤ 10 ^ (further + 1) * x.units := by omega
    have above : 10 ^ further * x.units < unitsPerOne := by omega
    exact ⟨by exact_mod_cast below, by exact_mod_cast above⟩

/-! ### Grids -/

/-- The coefficient of the decimal just below a magnitude, or at it, with its last digit at a
place. -/
def gridFloor (x : Magnitude) (place : Int) : Nat :=
  x.units * 10 ^ (-place).toNat / (unitsPerOne * 10 ^ place.toNat)

/-- With its last digit `further` places behind the first one, a decimal has `further + 1`
digits. -/
theorem gridFloor_bounds {x : Magnitude} (nonzero : x.isZero = false) (further : Nat) :
    10 ^ further ≤ x.gridFloor (x.leadingPlace - further) ∧
      x.gridFloor (x.leadingPlace - further) < 10 ^ (further + 1) := by
  obtain ⟨lower, upper⟩ := leadingPlace_bounds nonzero
  have step : 0 < unitsPerOne * 10 ^ (x.leadingPlace - further).toNat :=
    Nat.mul_pos unitsPerOne_pos (Nat.pow_pos (by decide))
  have scale := ten_zpow_mul (x.leadingPlace - further)
  have leading : (10 : ℚ) ^ x.leadingPlace = 10 ^ further * 10 ^ (x.leadingPlace - further) := by
    rw [← zpow_natCast, ← zpow_add₀ (by norm_num)]
    congr 1
    omega
  have next : (10 : ℚ) ^ (x.leadingPlace + 1) = 10 ^ x.leadingPlace * 10 := by
    rw [zpow_add₀ (by norm_num), zpow_one]
  rw [next, leading] at upper
  rw [leading] at lower
  unfold gridFloor
  generalize x.leadingPlace - further = place at *
  have positive : (0 : ℚ) < 10 ^ (-place).toNat := by positivity
  constructor
  · rw [Nat.le_div_iff_mul_le step]
    have : (10 ^ further * (unitsPerOne * 10 ^ place.toNat) : ℚ) ≤
        x.units * 10 ^ (-place).toNat := by
      rw [← scale]
      calc (10 : ℚ) ^ further * (unitsPerOne * (10 ^ place * 10 ^ (-place).toNat))
          = unitsPerOne * (10 ^ further * 10 ^ place) * 10 ^ (-place).toNat := by ring
        _ ≤ x.units * 10 ^ (-place).toNat := mul_le_mul_of_nonneg_right lower positive.le
    exact_mod_cast this
  · rw [Nat.div_lt_iff_lt_mul step]
    have : (x.units * 10 ^ (-place).toNat : ℚ) <
        10 ^ (further + 1) * (unitsPerOne * 10 ^ place.toNat) := by
      rw [← scale]
      calc (x.units : ℚ) * 10 ^ (-place).toNat
          < unitsPerOne * (10 ^ further * 10 ^ place * 10) * 10 ^ (-place).toNat :=
            mul_lt_mul_of_pos_right upper positive
        _ = 10 ^ (further + 1) * (unitsPerOne * (10 ^ place * 10 ^ (-place).toNat)) := by ring
    exact_mod_cast this

/-- What is found on a grid is a neighbour of the magnitude that reads back. -/
theorem nearestAt?_cases (tie : Tie) (x : Magnitude) (place : Int) :
    (x.nearestAt? tie place = none ∧ ofDecimal ⟨x.gridFloor place, place⟩ ≠ some x ∧
      ofDecimal ⟨x.gridFloor place + 1, place⟩ ≠ some x) ∨
    ∃ coefficient, x.nearestAt? tie place = some ⟨coefficient, place⟩ ∧
      ofDecimal ⟨coefficient, place⟩ = some x ∧
      (coefficient = x.gridFloor place ∨ coefficient = x.gridFloor place + 1) := by
  unfold nearestAt? gridFloor
  generalize unitsPerOne = unit
  simp only [Nat.pow_eq, readsBack, beq_iff_eq]
  generalize unit * 10 ^ place.toNat = den
  generalize x.units * 10 ^ (-place).toNat % den = remainder
  generalize x.units * 10 ^ (-place).toNat / den = c
  split_ifs with below above
  · exact .inr ⟨c, rfl, below, .inl rfl⟩
  · exact .inr ⟨c + 1, rfl, above, .inr rfl⟩
  · exact .inr ⟨c, rfl, below, .inl rfl⟩
  · exact .inr ⟨c + 1, rfl, above, .inr rfl⟩
  · exact .inr ⟨c, rfl, below, .inl rfl⟩
  · rename_i above
    exact .inr ⟨c + 1, rfl, above, .inr rfl⟩
  · rename_i above
    exact .inl ⟨rfl, below, above⟩

/-- On the grid of seventeen digits a step is less than the distance between magnitudes, and less
than half of it below a power of two. -/
theorem gridStep_lt {x : Magnitude} {place : Int} (digits : 10 ^ 16 ≤ x.gridFloor place) :
    unitsPerOne * 10 ^ place.toNat < 2 ^ x.shift * 10 ^ (-place).toNat ∧
      (x.significand = 2 ^ 52 →
        2 * (unitsPerOne * 10 ^ place.toNat) < 2 ^ x.shift * 10 ^ (-place).toNat) := by
  have step : 0 < unitsPerOne * 10 ^ place.toNat :=
    Nat.mul_pos unitsPerOne_pos (Nat.pow_pos (by decide))
  rw [gridFloor, Nat.le_div_iff_mul_le step, units_eq, Nat.mul_assoc] at digits
  have small := x.significand_lt
  generalize unitsPerOne * 10 ^ place.toNat = step at *
  generalize 2 ^ x.shift * 10 ^ (-place).toNat = distance at *
  constructor
  · have : x.significand * distance ≤ (2 ^ 53 - 1) * distance :=
      Nat.mul_le_mul_right distance (by omega)
    omega
  · intro least
    rw [least] at digits
    omega

/-- **Seventeen digits are enough**: on that grid the nearer neighbour of a magnitude reads back. -/
theorem nearestAt?_ne_none (tie : Tie) {x : Magnitude} (nonzero : x.isZero = false) :
    x.nearestAt? tie (x.leadingPlace - (16 : Nat)) ≠ none := by
  intro missing
  obtain ⟨digits, -⟩ := gridFloor_bounds nonzero 16
  rcases nearestAt?_cases tie x (x.leadingPlace - (16 : Nat)) with ⟨-, below, above⟩ | ⟨c, found, -⟩
  · generalize x.leadingPlace - (16 : Nat) = place at *
    obtain ⟨full, half⟩ := gridStep_lt digits
    have positive : 0 < 10 ^ (-place).toNat := Nat.pow_pos (by decide)
    have parts := Nat.div_add_mod (x.units * 10 ^ (-place).toNat)
      (unitsPerOne * 10 ^ place.toNat)
    have remainder := Nat.mod_lt (x.units * 10 ^ (-place).toNat)
      (Nat.mul_pos unitsPerOne_pos (Nat.pow_pos (n := place.toNat) (by decide : 0 < 10)))
    rw [← gridFloor] at parts
    generalize x.units * 10 ^ (-place).toNat % (unitsPerOne * 10 ^ place.toNat) = r
      at parts remainder
    generalize x.gridFloor place = c at parts below above
    have order : ∀ m : Nat, m * 10 ^ place.toNat * unitsPerOne =
        unitsPerOne * 10 ^ place.toNat * m := fun m => by ring
    have wide : ∀ m : Nat, (m * x.units + 2 ^ x.shift) * 10 ^ (-place).toNat =
        m * (x.units * 10 ^ (-place).toNat) + 2 ^ x.shift * 10 ^ (-place).toNat :=
      fun m => by ring
    by_cases near : 2 * r ≤ unitsPerOne * 10 ^ place.toNat
    · apply below
      change ofRatio (c * 10 ^ place.toNat) (10 ^ (-place).toNat) = some x
      apply ofRatio_eq_some_of_near positive
      · rw [order, wide]
        omega
      · rw [order, Nat.mul_assoc]
        omega
      · intro least
        have := half least
        rw [order, Nat.mul_assoc]
        omega
    · apply above
      change ofRatio ((c + 1) * 10 ^ place.toNat) (10 ^ (-place).toNat) = some x
      apply ofRatio_eq_some_of_near positive
      · rw [order, wide, Nat.mul_add]
        omega
      · rw [order, Nat.mul_assoc, Nat.mul_add]
        omega
      · intro least
        rw [order, Nat.mul_assoc, Nat.mul_add]
        omega
  · rw [missing] at found
    cases found

/-! ### The shortest decimal -/

/-- The search ends on the first grid on which something is found, so what it answers is, without
the zeros at its end, a neighbour of the magnitude that reads back. -/
theorem exists_shortest_of_found (tie : Tie) {x : Magnitude} {further : Nat} (early : further ≤ 16)
    (found : x.nearestAt? tie (x.leadingPlace - further) ≠ none) :
    ∃ nearer ≤ further, ∃ c, ofDecimal ⟨c, x.leadingPlace - nearer⟩ = some x ∧
      (c = x.gridFloor (x.leadingPlace - nearer) ∨
        c = x.gridFloor (x.leadingPlace - nearer) + 1) ∧
      x.shortest tie = (⟨c, x.leadingPlace - nearer⟩ : Decimal).stripped := by
  have some_found : ((List.range 17).findSome? fun further : Nat =>
      x.nearestAt? tie (x.leadingPlace - further)).isSome = true := by
    rw [List.findSome?_isSome_iff]
    exact ⟨further, List.mem_range.2 (by omega), Option.isSome_iff_ne_none.2 found⟩
  obtain ⟨d, hd⟩ := Option.isSome_iff_exists.1 some_found
  obtain ⟨earlier, nearer, later, range_eq, answer, before⟩ := List.findSome?_eq_some_iff.1 hd
  refine ⟨nearer, ?_, ?_⟩
  · have ordered := List.pairwise_lt_range (n := 17)
    have tried : further ∈ List.range 17 := List.mem_range.2 (by omega)
    rw [range_eq, List.pairwise_append, List.pairwise_cons] at ordered
    rw [range_eq, List.mem_append, List.mem_cons] at tried
    rcases tried with sooner | rfl | afterwards
    · exact absurd (before further sooner) found
    · exact le_rfl
    · exact (ordered.2.1.1 further afterwards).le
  · rcases nearestAt?_cases tie x (x.leadingPlace - nearer) with ⟨missing, -⟩ | ⟨c, is, back, near⟩
    · simp [missing] at answer
    · refine ⟨c, back, near, ?_⟩
      rw [is] at answer
      rw [shortest, hd, Option.getD_some, ← Option.some.inj answer]

/-- The answer of the search for a positive magnitude. -/
theorem exists_shortest (tie : Tie) {x : Magnitude} (nonzero : x.isZero = false) :
    ∃ further : Nat, further ≤ 16 ∧ ∃ c, ofDecimal ⟨c, x.leadingPlace - further⟩ = some x ∧
      (c = x.gridFloor (x.leadingPlace - further) ∨
        c = x.gridFloor (x.leadingPlace - further) + 1) ∧
      x.shortest tie = (⟨c, x.leadingPlace - further⟩ : Decimal).stripped :=
  exists_shortest_of_found tie le_rfl (nearestAt?_ne_none tie nonzero)

/-- **The shortest decimal reads back**: its nearest magnitude is the one that it was made from. -/
theorem ofDecimal_shortest (tie : Tie) {x : Magnitude} (nonzero : x.isZero = false) :
    ofDecimal (x.shortest tie) = some x := by
  obtain ⟨further, -, c, back, -, shortest⟩ := exists_shortest tie nonzero
  rw [shortest, ← back]
  exact ofDecimal_congr (Decimal.value_strip _ _)

/-- The shortest decimal has at most seventeen digits, up to a power of ten. -/
theorem coefficient_shortest_bounds (tie : Tie) {x : Magnitude} (nonzero : x.isZero = false) :
    0 < (x.shortest tie).coefficient ∧ (x.shortest tie).coefficient ≤ 10 ^ 17 := by
  obtain ⟨further, early, c, -, near, shortest⟩ := exists_shortest tie nonzero
  obtain ⟨lower, upper⟩ := gridFloor_bounds nonzero further
  have power : 10 ^ (further + 1) ≤ 10 ^ 17 := Nat.pow_le_pow_right (by decide) (by omega)
  have one : 0 < 10 ^ further := Nat.pow_pos (by decide)
  have positive : 0 < c := by omega
  have bounded : c ≤ 10 ^ 17 := by omega
  rw [shortest]
  exact ⟨Decimal.strip_coefficient_pos _ positive, (Decimal.strip_le _ _).1.trans bounded⟩

/-! ### Whole numbers -/

/-- The first digit of a whole number stands at the units or before them. -/
theorem leadingPlace_of_whole {x : Magnitude} {n : Nat} (positive : 0 < n)
    (whole : x.units = n * unitsPerOne) :
    ∃ places : Nat, x.leadingPlace = places ∧ 10 ^ places ≤ n := by
  obtain ⟨lower, -⟩ := length_toDigits_bounds positive
  have nonempty : 0 < (Nat.toDigits 10 n).length := Nat.length_toDigits_pos
  refine ⟨(Nat.toDigits 10 n).length - 1, ?_, lower⟩
  have large : unitsPerOne ≤ x.units := by
    rw [whole]
    exact Nat.le_mul_of_pos_left _ positive
  rw [leadingPlace, if_pos large, whole, Nat.mul_div_cancel n unitsPerOne_pos]
  omega

/-- The grid of a whole number at one of its own places. -/
theorem gridFloor_of_whole {x : Magnitude} {n : Nat} (whole : x.units = n * unitsPerOne)
    (place : Nat) : x.gridFloor place = n / 10 ^ place := by
  have none_behind : (-(place : Int)).toNat = 0 := by omega
  rw [gridFloor, none_behind, Int.toNat_natCast, pow_zero, Nat.mul_one, whole,
    Nat.mul_comm n, Nat.mul_div_mul_left _ _ unitsPerOne_pos]

/-- A whole number that is a magnitude is its own nearest magnitude. -/
theorem ofDecimal_of_whole {x : Magnitude} {n : Nat} (whole : x.units = n * unitsPerOne) :
    ofDecimal ⟨n, 0⟩ = some x := by
  apply ofRatio_eq_some_of_exact (Decimal.den_pos _)
  simp [Decimal.num, Decimal.den, whole]

/-- **The shortest decimal of a whole number is the number**, without a digit behind the point, if
it has at most 53 bits. -/
theorem value_shortest_of_whole (tie : Tie) {x : Magnitude} {n : Nat} (positive : 0 < n)
    (small : n < 2 ^ 53) (whole : x.units = n * unitsPerOne) :
    (x.shortest tie).value = n ∧ 0 ≤ (x.shortest tie).exponent := by
  obtain ⟨places, leading, below⟩ := leadingPlace_of_whole positive whole
  -- the grid of the units is among those that are tried
  have few : places < 16 := by
    rw [← Nat.pow_lt_pow_iff_right (a := 10) (by decide)]
    omega
  have units_found : x.nearestAt? tie (x.leadingPlace - places) ≠ none := by
    rw [leading, Int.sub_self]
    have floor : x.gridFloor 0 = n := by
      simpa using gridFloor_of_whole whole 0
    rcases nearestAt?_cases tie x 0 with ⟨-, below, -⟩ | ⟨c, is, -⟩
    · rw [floor, ofDecimal_of_whole whole] at below
      exact absurd rfl below
    · simp [is]
  obtain ⟨nearer, early, c, back, -, shortest⟩ :=
    exists_shortest_of_found tie (by omega) units_found
  obtain ⟨place, place_eq⟩ : ∃ place : Nat, x.leadingPlace - nearer = place :=
    ⟨places - nearer, by omega⟩
  rw [place_eq] at back shortest
  have same : (⟨c, place⟩ : Decimal).value = (⟨c * 10 ^ place, 0⟩ : Decimal).value := by
    simp [Decimal.value]
  rw [ofDecimal_congr same] at back
  -- a number of more bits is not rounded to the given one, so what reads back is a magnitude itself
  have bits : c * 10 ^ place < 2 ^ 53 := by
    by_contra large
    rw [not_lt] at large
    have rounded : ofRatio (c * 10 ^ place) 1 = some x := by
      simpa [ofDecimal, Decimal.num, Decimal.den] using back
    have reached := le_units_of_whole large rounded
    rw [whole] at reached
    have := Nat.le_of_mul_le_mul_right reached unitsPerOne_pos
    omega
  obtain ⟨y, hy⟩ := exists_whole bits (Nat.zero_le _)
  rw [pow_zero, Nat.mul_one] at hy
  rw [ofDecimal_of_whole hy] at back
  obtain rfl : y = x := Option.some.inj back
  have exact : c * 10 ^ place = n := by
    apply Nat.eq_of_mul_eq_mul_right unitsPerOne_pos
    rw [← hy, whole]
  rw [shortest]
  constructor
  · rw [Decimal.stripped, Decimal.value_strip, same, exact]
    simp [Decimal.value]
  · exact (Int.natCast_nonneg place).trans (Decimal.strip_le _ _).2

end Magnitude

end Markup
