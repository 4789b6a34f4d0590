import Mathlib.Tactic.Linarith
import Mathlib.Tactic.Ring
import Markup.Decimal

/-!
# Rounding to the nearest magnitude

`Magnitude.ofRatio` rounds a quotient of natural numbers. What it gives depends on the quotient
alone (`Magnitude.ofRatio_congr`), and it gives a magnitude for every quotient that is closer to it
than half the way to its neighbours (`Magnitude.ofRatio_eq_some_of_near`). Below a power of two the
neighbour is only half as far away as above it, so there the quotient has to be closer.

A magnitude is itself such a quotient, so it is its own nearest magnitude
(`Magnitude.ofRatio_eq_some_of_exact`), and it follows from its units (`Magnitude.units_inj`).
`Magnitude.exists_units` says which whole numbers of units are magnitudes.
-/

namespace Markup

/-! ### Rounding a quotient to a natural number -/

/-- A whole number less than half away from a quotient is the quotient rounded. -/
theorem roundHalfEven_eq_of_near {num den q : Nat} (lower : 2 * q * den < 2 * num + den)
    (upper : 2 * num < (2 * q + 1) * den) : roundHalfEven num den = q := by
  have parts : den * (num / den) + num % den = num := Nat.div_add_mod num den
  have positive : 0 < den := by
    rcases Nat.eq_zero_or_pos den with zero | positive
    · simp [zero] at upper
    · exact positive
  have remainder : num % den < den := Nat.mod_lt num positive
  unfold roundHalfEven
  generalize num / den = c at parts
  generalize num % den = r at parts remainder
  subst parts
  simp only
  split_ifs with below above even
  · -- the remainder is less than half, so the quotient is cut off
    have le : den * (2 * c) < den * (2 * q + 1) := by linarith
    have ge : den * (2 * q) < den * (2 * c + 2) := by linarith
    have := Nat.lt_of_mul_lt_mul_left le
    have := Nat.lt_of_mul_lt_mul_left ge
    omega
  · have lt : den * (2 * c + 1) < den * (2 * q + 1) := by linarith
    have ge : den * (2 * q) < den * (2 * c + 3) := by linarith
    have := Nat.lt_of_mul_lt_mul_left lt
    have := Nat.lt_of_mul_lt_mul_left ge
    omega
  all_goals
    -- no whole number is less than half away from a tie
    have tie : 2 * r = den := by omega
    have lt : den * (2 * c) < den * (2 * q) := by linarith
    have ge : den * (2 * q) < den * (2 * c + 2) := by linarith
    have := Nat.lt_of_mul_lt_mul_left lt
    have := Nat.lt_of_mul_lt_mul_left ge
    omega

/-- Rounding depends on the quotient alone. -/
theorem roundHalfEven_mul_right (num den : Nat) {m : Nat} (positive : 0 < m) :
    roundHalfEven (num * m) (den * m) = roundHalfEven num den := by
  unfold roundHalfEven
  simp only [Nat.mul_div_mul_right num den positive, Nat.mul_mod_mul_right, ← Nat.mul_assoc,
    Nat.mul_lt_mul_right positive]

namespace Magnitude

/-! ### The shift of a quotient -/

/-- The units of a magnitude as a product. -/
theorem units_eq (x : Magnitude) : x.units = x.significand * 2 ^ x.shift := by
  rw [units, Nat.shiftLeft_eq]

/-- Shifting a one gives a power of two. -/
theorem one_shiftLeft_eq (k : Nat) : 1 <<< k = 2 ^ k := by
  rw [Nat.shiftLeft_eq, Nat.one_mul]

/-- One has `2^1074` units. -/
theorem unitsPerOne_eq : unitsPerOne = 2 ^ 1074 :=
  one_shiftLeft_eq 1074

/-- One has units. -/
theorem unitsPerOne_pos : 0 < unitsPerOne := by
  rw [unitsPerOne_eq]
  apply Nat.two_pow_pos

/-- The shift brings a number of units down to 53 bits, and no further. -/
theorem log2_sub_eq {v shift : Nat} (below : v < 2 ^ (53 + shift))
    (above : shift = 0 ∨ 2 ^ (52 + shift) ≤ v) : v.log2 - 52 = shift := by
  rcases Nat.eq_zero_or_pos v with zero | positive
  · rcases above with rfl | above
    · rw [zero]
      rfl
    · have := Nat.two_pow_pos (52 + shift)
      omega
  · have nonzero : v ≠ 0 := by omega
    have upper : v.log2 < 53 + shift := (Nat.log2_lt nonzero).2 below
    rcases above with rfl | above
    · omega
    · have lower : 52 + shift ≤ v.log2 := (Nat.le_log2 nonzero).2 above
      omega

/-- A quotient is rounded at the shift that brings it down to 53 bits. -/
theorem ofRatio_eq_of_shift {num den shift : Nat} (positive : 0 < den)
    (below : num * unitsPerOne < 2 ^ (53 + shift) * den)
    (above : shift = 0 ∨ 2 ^ (52 + shift) * den ≤ num * unitsPerOne) :
    ofRatio num den = ofParts? (roundHalfEven (num * unitsPerOne) (den * 2 ^ shift)) shift := by
  have found : (num * unitsPerOne / den).log2 - 52 = shift := by
    apply log2_sub_eq
    · rwa [Nat.div_lt_iff_lt_mul positive]
    · rcases above with zero | above
      · exact .inl zero
      · exact .inr ((Nat.le_div_iff_mul_le positive).2 above)
  simp only [ofRatio, found, Nat.shiftLeft_eq]

/-- The parts keep their shift, unless they move to the next one. -/
theorem shift_le_of_ofParts? {significand shift : Nat} {x : Magnitude}
    (h : ofParts? significand shift = some x) : shift ≤ x.shift := by
  unfold ofParts? at h
  split_ifs at h
  · obtain rfl := Option.some.inj h
    exact Nat.le_refl shift
  · obtain rfl := Option.some.inj h
    exact Nat.le_succ shift

/-- A large quotient is rounded to a magnitude with a large shift. -/
theorem le_shift_of_ofRatio {num den shift : Nat} {x : Magnitude} (positive : 0 < den)
    (large : 2 ^ (52 + shift) * den ≤ num * unitsPerOne) (h : ofRatio num den = some x) :
    shift ≤ x.shift := by
  have quotient : 2 ^ (52 + shift) ≤ num * unitsPerOne / den :=
    (Nat.le_div_iff_mul_le positive).2 large
  have nonzero : num * unitsPerOne / den ≠ 0 := by
    have := Nat.two_pow_pos (52 + shift)
    omega
  have bits : 52 + shift ≤ (num * unitsPerOne / den).log2 := (Nat.le_log2 nonzero).2 quotient
  have kept := shift_le_of_ofParts? h
  omega

/-- One has 53 bits at the shift 1022. -/
theorem two_pow_shift (k : Nat) : 2 ^ (52 + (1022 + k)) = 2 ^ k * unitsPerOne := by
  rw [unitsPerOne_eq, ← Nat.pow_add]
  congr 1
  omega

/-- A large whole number is rounded to a magnitude with a large shift. -/
theorem le_shift_of_whole {n k : Nat} {x : Magnitude} (large : 2 ^ k ≤ n)
    (h : ofRatio n 1 = some x) : 1022 + k ≤ x.shift := by
  apply le_shift_of_ofRatio Nat.one_pos _ h
  rw [Nat.mul_one, two_pow_shift]
  exact Nat.mul_le_mul_right unitsPerOne large

/-- A whole number is not rounded below a power of two that it reaches. -/
theorem le_units_of_whole {n k : Nat} {x : Magnitude} (large : 2 ^ k ≤ n)
    (h : ofRatio n 1 = some x) : 2 ^ k * unitsPerOne ≤ x.units := by
  have shift := le_shift_of_whole large h
  have digits : 2 ^ 52 ≤ x.significand := x.normal.resolve_left (by omega)
  calc 2 ^ k * unitsPerOne = 2 ^ 52 * 2 ^ (1022 + k) := by rw [← two_pow_shift, Nat.pow_add]
    _ ≤ 2 ^ 52 * 2 ^ x.shift := Nat.mul_le_mul_left _ (Nat.pow_le_pow_right (by decide) shift)
    _ ≤ x.significand * 2 ^ x.shift := Nat.mul_le_mul_right _ digits
    _ = x.units := (units_eq x).symm

/-! ### Nearness -/

/-- The parts of a magnitude make up the magnitude. -/
theorem ofParts?_self (x : Magnitude) : ofParts? x.significand x.shift = some x := by
  unfold ofParts?
  rw [dif_pos ⟨x.significand_lt, x.shift_le, x.normal⟩]

/-- A quotient with as many bits as a magnitude, less than half a step from it, is rounded to it. -/
theorem ofRatio_eq_some_of_near_above {x : Magnitude} {num den : Nat} (positive : 0 < den)
    (upper : 2 * (num * unitsPerOne) < (2 * x.units + 2 ^ x.shift) * den)
    (lower : 2 * x.units * den < 2 * (num * unitsPerOne) + 2 ^ x.shift * den)
    (above : x.shift = 0 ∨ 2 ^ (52 + x.shift) * den ≤ num * unitsPerOne) :
    ofRatio num den = some x := by
  rw [units_eq] at upper lower
  have small := x.significand_lt
  have below : num * unitsPerOne < 2 ^ (53 + x.shift) * den := by
    have step : (2 * x.significand + 1) * (2 ^ x.shift * den) ≤
        2 ^ 54 * (2 ^ x.shift * den) := Nat.mul_le_mul_right _ (by omega)
    have pow : 2 ^ (53 + x.shift) * den * 2 = 2 ^ 54 * (2 ^ x.shift * den) := by ring
    nlinarith
  rw [ofRatio_eq_of_shift positive below above, roundHalfEven_eq_of_near (q := x.significand),
    ofParts?_self]
  · linarith
  · linarith

/-- A quotient just below a power of two, less than a quarter of a step from it, is rounded to
it. -/
theorem ofRatio_eq_some_of_near_below {x : Magnitude} {num den : Nat} (positive : 0 < den)
    (least : x.significand = 2 ^ 52) (shifted : 0 < x.shift)
    (quarter : 4 * x.units * den < 4 * (num * unitsPerOne) + 2 ^ x.shift * den)
    (below : num * unitsPerOne < 2 ^ (52 + x.shift) * den) : ofRatio num den = some x := by
  obtain ⟨shift, shift_eq⟩ : ∃ shift, x.shift = shift + 1 := ⟨x.shift - 1, by omega⟩
  rw [units_eq, least, shift_eq] at quarter
  rw [shift_eq] at below
  have fits := x.shift_le
  have pow : 2 ^ (52 + (shift + 1)) = 2 ^ (53 + shift) := by ring
  rw [pow] at below
  have above : 2 ^ (52 + shift) * den ≤ num * unitsPerOne := by
    have first : 2 ^ (52 + shift) * den = 2 ^ 52 * (2 ^ shift * den) := by ring
    have second : 4 * (2 ^ 52 * 2 ^ (shift + 1)) * den = 2 ^ 55 * (2 ^ shift * den) := by ring
    have third : 2 ^ (shift + 1) * den = 2 * (2 ^ shift * den) := by ring
    have power : 0 < 2 ^ shift * den := Nat.mul_pos (Nat.two_pow_pos shift) positive
    rw [second, third] at quarter
    rw [first]
    omega
  rw [ofRatio_eq_of_shift positive below (.inr above), roundHalfEven_eq_of_near (q := 2 ^ 53)]
  · -- rounding up to `2^53` moves to the next shift
    obtain ⟨significand, xshift, h₁, h₂, h₃⟩ := x
    obtain rfl : significand = 2 ^ 52 := least
    obtain rfl : xshift = shift + 1 := shift_eq
    have notSmall : ¬ (2 ^ 53 < 0x20000000000000 ∧ shift ≤ 2045 ∧
        (shift = 0 ∨ 0x10000000000000 ≤ 2 ^ 53)) := by omega
    have carried : 2 ^ 53 = 0x20000000000000 ∧ shift < 2045 := ⟨rfl, by omega⟩
    rw [ofParts?, dif_neg notSmall, dif_pos carried]
    rfl
  · have first : 2 * 2 ^ 53 * (den * 2 ^ shift) = 2 ^ 54 * (2 ^ shift * den) := by ring
    have second : 4 * (2 ^ 52 * 2 ^ (shift + 1)) * den = 2 ^ 55 * (2 ^ shift * den) := by ring
    have third : 2 ^ (shift + 1) * den = 2 * (2 ^ shift * den) := by ring
    have fourth : den * 2 ^ shift = 2 ^ shift * den := Nat.mul_comm _ _
    rw [second, third] at quarter
    rw [first, fourth]
    omega
  · have first : 2 ^ (53 + shift) * den = 2 ^ 53 * (2 ^ shift * den) := by ring
    have second : (2 * 2 ^ 53 + 1) * (den * 2 ^ shift) =
        2 ^ 54 * (2 ^ shift * den) + 2 ^ shift * den := by ring
    rw [first] at below
    rw [second]
    omega

/-- **A quotient is rounded to the magnitude that it is near to**: less than half a step away, and
if the magnitude is a power of two, less than a quarter of a step below it. -/
theorem ofRatio_eq_some_of_near {x : Magnitude} {num den : Nat} (positive : 0 < den)
    (upper : 2 * (num * unitsPerOne) < (2 * x.units + 2 ^ x.shift) * den)
    (lower : 2 * x.units * den < 2 * (num * unitsPerOne) + 2 ^ x.shift * den)
    (quarter : x.significand = 2 ^ 52 →
      4 * x.units * den < 4 * (num * unitsPerOne) + 2 ^ x.shift * den) :
    ofRatio num den = some x := by
  by_cases above : x.shift = 0 ∨ 2 ^ (52 + x.shift) * den ≤ num * unitsPerOne
  · exact ofRatio_eq_some_of_near_above positive upper lower above
  · obtain ⟨shifted, below⟩ := not_or.1 above
    rw [not_le] at below
    have normal : 2 ^ 52 ≤ x.significand := x.normal.resolve_left shifted
    -- the quotient lies below the power of two, so the magnitude cannot lie above it
    have least : x.significand = 2 ^ 52 := by
      rw [units_eq] at lower
      have first : 2 * (x.significand * 2 ^ x.shift) * den =
          2 ^ x.shift * den * (2 * x.significand) := by ring
      have second : 2 ^ (52 + x.shift) * den = 2 ^ x.shift * den * 2 ^ 52 := by ring
      have close : 2 ^ x.shift * den * (2 * x.significand) <
          2 ^ x.shift * den * (2 * 2 ^ 52 + 1) := by
        rw [first] at lower
        rw [second] at below
        linarith
      have := Nat.lt_of_mul_lt_mul_left close
      omega
    exact ofRatio_eq_some_of_near_below positive least (Nat.pos_of_ne_zero shifted)
      (quarter least) below

/-! ### Exact quotients -/

/-- A quotient that is a magnitude is rounded to it. -/
theorem ofRatio_eq_some_of_exact {x : Magnitude} {num den : Nat} (positive : 0 < den)
    (exact : num * unitsPerOne = x.units * den) : ofRatio num den = some x := by
  have step : 0 < 2 ^ x.shift * den := Nat.mul_pos (Nat.two_pow_pos _) positive
  apply ofRatio_eq_some_of_near positive
  · rw [exact]
    linarith
  · rw [exact]
    linarith
  · intro _
    rw [exact]
    linarith

/-- A magnitude follows from its units. -/
theorem units_inj {x y : Magnitude} (h : x.units = y.units) : x = y := by
  have left : ofRatio x.units unitsPerOne = some x :=
    ofRatio_eq_some_of_exact unitsPerOne_pos rfl
  have right : ofRatio y.units unitsPerOne = some y :=
    ofRatio_eq_some_of_exact unitsPerOne_pos rfl
  rw [h, right] at left
  exact (Option.some.inj left).symm

/-- A common factor of the two sides of a quotient does not matter for its rounding. -/
theorem ofRatio_mul_right (num den : Nat) {m : Nat} (positive : 0 < m) :
    ofRatio (num * m) (den * m) = ofRatio num den := by
  have scaled : num * m * unitsPerOne = num * unitsPerOne * m := by ring
  have shifted : ∀ shift, den * m * 2 ^ shift = den * 2 ^ shift * m := fun shift => by ring
  simp only [ofRatio, scaled, Nat.shiftLeft_eq, Nat.mul_div_mul_right _ _ positive, shifted,
    roundHalfEven_mul_right _ _ positive]

/-- Equal quotients are rounded alike. -/
theorem ofRatio_congr {num den num' den' : Nat} (positive : 0 < den) (positive' : 0 < den')
    (h : num * den' = num' * den) : ofRatio num den = ofRatio num' den' := by
  rw [← ofRatio_mul_right num den positive', ← ofRatio_mul_right num' den' positive, h,
    Nat.mul_comm den den']

/-- The product of two whole numbers is rounded as such. -/
theorem mul_of_whole {x y : Magnitude} {a b : Nat} (hx : x.units = a * unitsPerOne)
    (hy : y.units = b * unitsPerOne) : x.mul y = ofRatio (a * b) 1 := by
  have unit := unitsPerOne_pos
  rw [mul]
  apply ofRatio_congr (Nat.mul_pos unit unit) Nat.one_pos
  rw [hx, hy]
  generalize unitsPerOne = unit
  ring

/-- The quotient of two whole numbers is rounded as such. -/
theorem div_of_whole {x y : Magnitude} {a b : Nat} (positive : 0 < b)
    (hx : x.units = a * unitsPerOne) (hy : y.units = b * unitsPerOne) :
    x.div y = ofRatio a b := by
  rw [div]
  apply ofRatio_congr _ positive
  · rw [hx, hy]
    generalize unitsPerOne = unit
    ring
  · rw [hy]
    exact Nat.mul_pos positive unitsPerOne_pos

/-- A number of at most 53 bits, shifted, is a number of units of a magnitude. -/
theorem exists_units {significand shift : Nat} (small : significand < 2 ^ 53)
    (fits : shift ≤ 2045) : ∃ x : Magnitude, x.units = significand * 2 ^ shift := by
  induction shift generalizing significand with
  | zero =>
    refine ⟨⟨significand, 0, small, by omega, .inl rfl⟩, ?_⟩
    rw [units_eq]
  | succ shift ih =>
    by_cases normal : 2 ^ 52 ≤ significand
    · refine ⟨⟨significand, shift + 1, small, fits, .inr normal⟩, ?_⟩
      rw [units_eq]
    · have doubled : 2 * significand < 2 ^ 53 := by omega
      obtain ⟨x, hx⟩ := ih doubled (by omega)
      refine ⟨x, ?_⟩
      rw [hx]
      ring

/-- A whole number with at most 53 bits, shifted, is a magnitude. -/
theorem exists_whole {significand shift : Nat} (small : significand < 2 ^ 53)
    (fits : shift ≤ 971) : ∃ x : Magnitude, x.units = significand * 2 ^ shift * unitsPerOne := by
  rw [unitsPerOne_eq, Nat.mul_assoc, ← Nat.pow_add]
  exact exists_units small (by omega)

end Magnitude

end Markup
