import Markup.Proofs.Double.Rounding

/-!
# The range of rounding

A quotient is rounded to a magnitude unless it reaches the middle between the largest magnitude and
the power of two behind it (`Magnitude.exists_ofRatio_of_lt`). What it is rounded to is at most
half a step away (`Magnitude.ofRatio_bounds`), and for a quotient that is not subnormal half a step
is at most one part in `2^53` (`Magnitude.units_le_of_ofRatio`).

So a quotient by one or more stays in range (`Magnitude.exists_div`), and so does the product of two
rounded factors if the exact product keeps a distance of three steps from the middle
(`Magnitude.exists_mul`).
-/

namespace Markup

/-- Rounding to a natural number moves by half at most. -/
theorem roundHalfEven_bounds (num : Nat) {den : Nat} (positive : 0 < den) :
    2 * roundHalfEven num den * den ≤ 2 * num + den ∧
      2 * num ≤ (2 * roundHalfEven num den + 1) * den := by
  have parts : den * (num / den) + num % den = num := Nat.div_add_mod num den
  have remainder : num % den < den := Nat.mod_lt num positive
  unfold roundHalfEven
  generalize num / den = c at parts
  generalize num % den = r at parts remainder
  subst parts
  simp only
  split_ifs with below above even
  · constructor <;> linarith
  · constructor <;> linarith
  · constructor <;> linarith
  · constructor <;> linarith

namespace Magnitude

/-- Parts that make up a magnitude are its units. -/
theorem units_of_ofParts? {significand shift : Nat} {x : Magnitude}
    (h : ofParts? significand shift = some x) : x.units = significand * 2 ^ shift := by
  unfold ofParts? at h
  split_ifs at h with canonical carried
  · obtain rfl := Option.some.inj h
    rw [units_eq]
  · obtain rfl := Option.some.inj h
    rw [units_eq]
    change 0x10000000000000 * 2 ^ (shift + 1) = significand * 2 ^ shift
    rw [carried.1, Nat.pow_succ]
    ring

/-- Parts make up a magnitude if the significand has 53 bits, up to a carry, and the shift is in
range. -/
theorem exists_ofParts? {significand shift : Nat} (small : significand ≤ 2 ^ 53)
    (normal : shift = 0 ∨ 2 ^ 52 ≤ significand) (fits : shift ≤ 2045)
    (top : shift = 2045 → significand < 2 ^ 53) : ∃ x, ofParts? significand shift = some x := by
  unfold ofParts?
  split_ifs with canonical carried
  · exact ⟨_, rfl⟩
  · exact ⟨_, rfl⟩
  · omega

/-- Every quotient has a shift that brings it down to 53 bits. -/
theorem exists_shift (num : Nat) {den : Nat} (positive : 0 < den) :
    ∃ shift, num * unitsPerOne < 2 ^ (53 + shift) * den ∧
      (shift = 0 ∨ 2 ^ (52 + shift) * den ≤ num * unitsPerOne) := by
  generalize num * unitsPerOne = v
  refine ⟨(v / den).log2 - 52, ?_, ?_⟩
  · rw [← Nat.div_lt_iff_lt_mul positive]
    rcases Nat.eq_zero_or_pos (v / den) with zero | nonzero
    · rw [zero]
      exact Nat.two_pow_pos _
    · exact Nat.lt_log2_self.trans_le (Nat.pow_le_pow_right (by decide) (by omega))
  · rw [← Nat.le_div_iff_mul_le positive]
    rcases Nat.eq_zero_or_pos ((v / den).log2 - 52) with zero | shifted
    · exact .inl zero
    · right
      have nonzero : v / den ≠ 0 := by
        rintro zero
        simp [zero] at shifted
      exact (Nat.pow_le_pow_right (by decide) (by omega)).trans (Nat.log2_self_le nonzero)

/-- **A quotient is rounded by half a step at most.** The step is that of the quotient, which can be
smaller than that of the magnitude. -/
theorem ofRatio_bounds {num den : Nat} {x : Magnitude} (positive : 0 < den)
    (h : ofRatio num den = some x) :
    ∃ shift ≤ x.shift, (shift = 0 ∨ 2 ^ (52 + shift) * den ≤ num * unitsPerOne) ∧
      2 * x.units * den ≤ 2 * (num * unitsPerOne) + 2 ^ shift * den ∧
      2 * (num * unitsPerOne) ≤ (2 * x.units + 2 ^ shift) * den := by
  obtain ⟨shift, below, above⟩ := exists_shift num positive
  rw [ofRatio_eq_of_shift positive below above] at h
  obtain ⟨lower, upper⟩ := roundHalfEven_bounds (num * unitsPerOne)
    (Nat.mul_pos positive (Nat.two_pow_pos shift))
  refine ⟨shift, shift_le_of_ofParts? h, above, ?_, ?_⟩
  · rw [units_of_ofParts? h]
    linarith
  · rw [units_of_ofParts? h]
    linarith

/-- **A quotient below the middle behind the largest magnitude is rounded to a magnitude.** The
middle is the one behind the largest magnitude of any shift. -/
theorem exists_ofRatio_of_lt {num den top : Nat} (positive : 0 < den) (fits : top ≤ 2045)
    (h : 2 * (num * unitsPerOne) + 2 ^ top * den < 2 ^ 54 * (2 ^ top * den)) :
    ∃ x, ofRatio num den = some x := by
  obtain ⟨shift, below, above⟩ := exists_shift num positive
  rw [ofRatio_eq_of_shift positive below above]
  have step : 0 < den * 2 ^ shift := Nat.mul_pos positive (Nat.two_pow_pos shift)
  obtain ⟨lower, upper⟩ := roundHalfEven_bounds (num * unitsPerOne) step
  have bits : 2 ^ (53 + shift) * den = 2 ^ 53 * (den * 2 ^ shift) := by ring
  have bits' : 2 ^ (52 + shift) * den = 2 ^ 52 * (den * 2 ^ shift) := by ring
  rw [bits] at below
  rw [bits'] at above
  generalize roundHalfEven (num * unitsPerOne) (den * 2 ^ shift) = r at lower upper
  generalize num * unitsPerOne = v at h below above lower upper
  -- a larger shift would put the quotient behind the middle
  have within : shift ≤ top := by
    by_contra far
    rw [not_le] at far
    have large : 2 ^ 52 * (den * 2 ^ shift) ≤ v := above.resolve_left (by omega)
    have power : 2 * 2 ^ top ≤ 2 ^ shift := by
      rw [← Nat.pow_succ']
      exact Nat.pow_le_pow_right (by decide) far
    have further : den * (2 * 2 ^ top) ≤ den * 2 ^ shift := Nat.mul_le_mul_left den power
    linarith
  apply exists_ofParts?
  · have close : 2 * r * (den * 2 ^ shift) < (2 ^ 54 + 1) * (den * 2 ^ shift) := by linarith
    have := Nat.lt_of_mul_lt_mul_right close
    omega
  · rcases above with zero | above
    · exact .inl zero
    · have close : 2 ^ 53 * (den * 2 ^ shift) ≤ (2 * r + 1) * (den * 2 ^ shift) := by linarith
      have := Nat.le_of_mul_le_mul_right close step
      exact .inr (by omega)
  · omega
  · intro last
    obtain rfl : shift = top := by omega
    have close : 2 * r * (den * 2 ^ shift) < 2 ^ 54 * (den * 2 ^ shift) := by linarith
    have := Nat.lt_of_mul_lt_mul_right close
    omega

/-- **Rounding up adds one part in `2^53` at most**, unless the quotient is subnormal. -/
theorem units_le_of_ofRatio {num den : Nat} {x : Magnitude} (positive : 0 < den)
    (normal : 2 ^ 52 * den ≤ num * unitsPerOne) (h : ofRatio num den = some x) :
    2 ^ 53 * (x.units * den) ≤ (2 ^ 53 + 1) * (num * unitsPerOne) := by
  obtain ⟨shift, -, above, close, -⟩ := ofRatio_bounds positive h
  have half : 2 ^ 52 * (2 ^ shift * den) ≤ num * unitsPerOne := by
    rcases above with rfl | above
    · linarith
    · have bits : 2 ^ (52 + shift) * den = 2 ^ 52 * (2 ^ shift * den) := by ring
      linarith
  linarith

/-- A positive whole number that is in range is rounded to a magnitude, which is one at least. -/
theorem exists_ofRatio_whole {n top : Nat} (positive : 0 < n) (fits : top ≤ 2045)
    (inside : 2 * (n * unitsPerOne) + 2 ^ top < 2 ^ 54 * 2 ^ top) :
    ∃ x, ofRatio n 1 = some x ∧ unitsPerOne ≤ x.units ∧
      2 ^ 53 * x.units ≤ (2 ^ 53 + 1) * (n * unitsPerOne) := by
  have range : 2 * (n * unitsPerOne) + 2 ^ top * 1 < 2 ^ 54 * (2 ^ top * 1) := by
    rwa [Nat.mul_one]
  obtain ⟨x, rounded⟩ := exists_ofRatio_of_lt Nat.one_pos fits range
  have normal : 2 ^ 52 * 1 ≤ n * unitsPerOne := by
    have unit : 2 ^ 52 ≤ unitsPerOne := by decide +kernel
    have := Nat.le_mul_of_pos_left unitsPerOne positive
    omega
  have above := units_le_of_ofRatio Nat.one_pos normal rounded
  rw [Nat.mul_one] at above
  refine ⟨x, rounded, ?_, above⟩
  have reached := le_units_of_whole (k := 0) positive rounded
  rwa [pow_zero, Nat.one_mul] at reached

/-- A quotient by one or more is in range. -/
theorem exists_div (x : Magnitude) {y : Magnitude} (h : unitsPerOne ≤ y.units) :
    ∃ z, x.div y = some z := by
  have positive : 0 < y.units := unitsPerOne_pos.trans_le h
  apply exists_ofRatio_of_lt positive x.shift_le
  have bound : x.significand * (2 ^ x.shift * unitsPerOne) ≤
      (2 ^ 53 - 1) * (2 ^ x.shift * y.units) := by
    apply Nat.mul_le_mul
    · have := x.significand_lt
      omega
    · exact Nat.mul_le_mul_left _ h
  have step : 0 < 2 ^ x.shift * y.units := Nat.mul_pos (Nat.two_pow_pos _) positive
  have units : x.units * unitsPerOne = x.significand * (2 ^ x.shift * unitsPerOne) := by
    rw [units_eq, Nat.mul_assoc]
  rw [units]
  omega

/-- A product of two rounded factors is in range if the exact product is three steps away from the
middle behind the largest magnitude. -/
theorem exists_mul {x y : Magnitude} {a b top : Nat} (fits : top ≤ 2045)
    (hx : 2 ^ 53 * x.units ≤ (2 ^ 53 + 1) * (a * unitsPerOne))
    (hy : 2 ^ 53 * y.units ≤ (2 ^ 53 + 1) * (b * unitsPerOne))
    (h : 2 * (a * b * unitsPerOne) + 7 * 2 ^ top ≤ 2 ^ 54 * 2 ^ top) :
    ∃ z, x.mul y = some z := by
  have unit := unitsPerOne_pos
  apply exists_ofRatio_of_lt (Nat.mul_pos unit unit) fits
  have product := Nat.mul_le_mul_right unitsPerOne (Nat.mul_le_mul hx hy)
  have scaled := Nat.mul_le_mul_right (unitsPerOne * unitsPerOne) h
  have step : 0 < 2 ^ top * (unitsPerOne * unitsPerOne) :=
    Nat.mul_pos (Nat.two_pow_pos _) (Nat.mul_pos unit unit)
  generalize unitsPerOne = u at *
  generalize 2 ^ top = t at *
  generalize x.units = v at *
  generalize y.units = w at *
  have left : 2 ^ 53 * v * (2 ^ 53 * w) * u = 2 ^ 106 * (v * w * u) := by ring
  have right : (2 ^ 53 + 1) * (a * u) * ((2 ^ 53 + 1) * (b * u)) * u =
      (2 ^ 53 + 1) ^ 2 * (a * b * u * (u * u)) := by ring
  have first : (2 * (a * b * u) + 7 * t) * (u * u) =
      2 * (a * b * u * (u * u)) + 7 * (t * (u * u)) := by ring
  have second : 2 ^ 54 * t * (u * u) = 2 ^ 54 * (t * (u * u)) := by ring
  rw [left, right] at product
  rw [first, second] at scaled
  omega

end Magnitude

end Markup
