import Mathlib.Tactic.FieldSimp
import Markup.Proofs.Double.Range
import Markup.Proofs.Double.Shortest

/-!
# The nearest magnitude

`Magnitude.ofRatio` is defined by a division with remainder. `Magnitude.IsNearest` says what
rounding to nearest is without any division: no number of 53 bits is nearer, and of two that are
equally near the one with the even significand is taken. The numbers of 53 bits are taken without an
upper end (`Magnitude.Representable`), so that a number beyond the largest magnitude is not rounded
to it just because nothing larger is there.

The two agree (`Magnitude.isNearest_of_ofRatio`). There is only one nearest magnitude
(`Magnitude.IsNearest.unique`), because two neighbours do not both have even significands, and a
larger number has no smaller nearest magnitude (`Magnitude.IsNearest.mono`).
-/

namespace Markup

/-- A quotient is rounded by half at most, and by exactly half only to an even number. -/
theorem abs_sub_roundHalfEven_le (num : Nat) {den : Nat} (positive : 0 < den) :
    |(num / den : ℚ) - roundHalfEven num den| ≤ 1 / 2 ∧
      (|(num / den : ℚ) - roundHalfEven num den| = 1 / 2 → roundHalfEven num den % 2 = 0) := by
  have parts : den * (num / den) + num % den = num := Nat.div_add_mod num den
  have remainder : num % den < den := Nat.mod_lt num positive
  unfold roundHalfEven
  generalize num / den = c at parts
  generalize num % den = r at parts remainder
  subst parts
  have den_pos : (0 : ℚ) < den := by exact_mod_cast positive
  obtain ⟨f, r_eq⟩ : ∃ f : ℚ, (r : ℚ) = f * den := ⟨r / den, by field_simp⟩
  have quotient : ((den * c + r : Nat) / den : ℚ) = c + f := by
    push_cast
    rw [r_eq]
    field_simp
  have below_half : 2 * r < den ↔ 2 * f < 1 := by
    rw [← mul_lt_mul_iff_left₀ den_pos, mul_assoc, ← r_eq, one_mul]
    exact_mod_cast Iff.rfl
  have above_half : den < 2 * r ↔ 1 < 2 * f := by
    rw [← mul_lt_mul_iff_left₀ den_pos, mul_assoc, ← r_eq, one_mul]
    exact_mod_cast Iff.rfl
  have f_nonneg : 0 ≤ f := by
    by_contra negative
    have : f * den < 0 := mul_neg_of_neg_of_pos (not_le.1 negative) den_pos
    have : (0 : ℚ) ≤ r := Nat.cast_nonneg r
    linarith
  have f_lt_one : f < 1 := by
    have : (r : ℚ) < den := by exact_mod_cast remainder
    rwa [r_eq, mul_lt_iff_lt_one_left den_pos] at this
  have down : |(c + f - c : ℚ)| = f := by
    rw [add_sub_cancel_left, abs_of_nonneg f_nonneg]
  have up : |(c + f - (c + 1 : Nat) : ℚ)| = 1 - f := by
    rw [abs_sub_comm, Nat.cast_succ, add_sub_add_left_eq_sub, abs_of_pos (by linarith)]
  rw [quotient]
  simp only [below_half, above_half]
  -- only the last two cases are ties, and there the even neighbour is taken
  split_ifs with below above even
  · rw [down]
    exact ⟨by linarith, fun tie => by linarith⟩
  · rw [up]
    exact ⟨by linarith, fun tie => by linarith⟩
  · rw [down]
    exact ⟨by linarith, fun _ => even⟩
  · rw [up]
    exact ⟨by linarith, fun _ => by omega⟩

namespace Magnitude

/-! ### What rounding to nearest is -/

/-- A number of units that has 53 bits at most, apart from zeros at its end. -/
def Representable (n : Nat) : Prop :=
  ∃ significand shift, significand < 2 ^ 53 ∧ n = significand * 2 ^ shift

/-- How many units a number is away from a number of units. -/
def unitsAway (q : ℚ) (n : Nat) : ℚ :=
  |q * unitsPerOne - n|

/-- The magnitude is the nearest one to a number, and of two equally near ones the even one. -/
structure IsNearest (q : ℚ) (x : Magnitude) : Prop where
  /-- Nothing representable is nearer. -/
  nearest : ∀ n, Representable n → unitsAway q x.units ≤ unitsAway q n
  /-- If something else is equally near, the significand is even. -/
  even : ∀ n, Representable n → n ≠ x.units → unitsAway q n = unitsAway q x.units →
    x.significand % 2 = 0

/-- The units of a magnitude are representable. -/
theorem representable_units (x : Magnitude) : Representable x.units :=
  ⟨x.significand, x.shift, x.significand_lt, units_eq x⟩

/-! ### A rounded quotient is the nearest magnitude -/

/-- Parts with an even significand make up a magnitude with an even significand. -/
theorem even_of_ofParts? {significand shift : Nat} {x : Magnitude}
    (h : ofParts? significand shift = some x) (even : significand % 2 = 0) :
    x.significand % 2 = 0 := by
  unfold ofParts? at h
  split_ifs at h
  · obtain rfl := Option.some.inj h
    exact even
  · obtain rfl := Option.some.inj h
    change 0x10000000000000 % 2 = 0
    decide

/-- A number of 53 bits at most is on the grid of a shift, or lies below the numbers that need that
shift. -/
theorem Representable.grid_or_below {n : Nat} (h : Representable n) (shift : Nat) :
    (∃ t, n = t * 2 ^ shift) ∨ 0 < shift ∧ n < 2 ^ 52 * 2 ^ shift := by
  obtain ⟨significand, k, small, rfl⟩ := h
  by_cases le : shift ≤ k
  · left
    refine ⟨significand * 2 ^ (k - shift), ?_⟩
    rw [Nat.mul_assoc, ← Nat.pow_add]
    congr 2
    omega
  · right
    refine ⟨by omega, ?_⟩
    have power : 2 ^ 53 * 2 ^ k ≤ 2 ^ 52 * 2 ^ shift := by
      rw [← Nat.pow_add, ← Nat.pow_add]
      exact Nat.pow_le_pow_right (by decide) (by omega)
    exact (Nat.mul_lt_mul_of_pos_right small (Nat.two_pow_pos k)).trans_le power

/-- On a grid, what is at most half a step away is nearer than anything else, and only what is
exactly half a step away is not nearer. -/
theorem abs_sub_le_of_grid {r step : ℚ} (positive : 0 < step) {c t : Nat}
    (half : |r - c * step| ≤ step / 2) (other : t ≠ c) :
    |r - c * step| ≤ |r - t * step| ∧
      (|r - t * step| = |r - c * step| → |r - c * step| = step / 2) := by
  have apart : step ≤ |(t : ℚ) * step - c * step| := by
    rw [← sub_mul, abs_mul, abs_of_pos positive]
    have whole : (1 : ℤ) ≤ |(t : ℤ) - c| := Int.one_le_abs (by omega)
    have : (1 : ℚ) ≤ |(t : ℚ) - c| := by exact_mod_cast whole
    nlinarith
  have triangle := abs_sub_le ((t : ℚ) * step) r (c * step)
  rw [abs_sub_comm ((t : ℚ) * step) r] at triangle
  constructor
  · linarith
  · intro tie
    linarith

/-- The same for all representable numbers, if the shift of the grid is no larger than needed: what
is not on the grid lies below the first number that needs the shift, and that one is on the grid. -/
theorem abs_sub_le_of_representable {r : ℚ} {c n shift : Nat}
    (half : |r - c * 2 ^ shift| ≤ 2 ^ shift / 2) (needed : shift = 0 ∨ 2 ^ 52 * 2 ^ shift ≤ r)
    (representable : Representable n) (other : n ≠ c * 2 ^ shift) :
    |r - c * 2 ^ shift| ≤ |r - n| ∧
      (|r - n| = |r - c * 2 ^ shift| → |r - c * 2 ^ shift| = 2 ^ shift / 2) := by
  have positive : (0 : ℚ) < 2 ^ shift := by positivity
  rcases representable.grid_or_below shift with ⟨t, rfl⟩ | ⟨shifted, small⟩
  · push_cast
    apply abs_sub_le_of_grid positive half
    rintro rfl
    exact other rfl
  · have large : 2 ^ 52 * 2 ^ shift ≤ r := needed.resolve_left (by omega)
    have small : (n : ℚ) < 2 ^ 52 * 2 ^ shift := by exact_mod_cast small
    have base : |r - c * 2 ^ shift| ≤ |r - (2 ^ 52 : Nat) * 2 ^ shift| := by
      by_cases same : 2 ^ 52 = c
      · rw [← same]
      · exact (abs_sub_le_of_grid positive half same).1
    rw [Nat.cast_pow, Nat.cast_ofNat, abs_of_nonneg (sub_nonneg.2 large)] at base
    rw [abs_of_pos (by linarith : 0 < r - n)]
    constructor
    · linarith
    · intro tie
      linarith

/-- **A rounded quotient is the nearest magnitude.** -/
theorem isNearest_of_ofRatio {num den : Nat} {x : Magnitude} (positive : 0 < den)
    (h : ofRatio num den = some x) : IsNearest (num / den) x := by
  obtain ⟨shift, below, above⟩ := exists_shift num positive
  rw [ofRatio_eq_of_shift positive below above] at h
  obtain ⟨half, tie⟩ := abs_sub_roundHalfEven_le (num * unitsPerOne)
    (Nat.mul_pos positive (Nat.two_pow_pos shift))
  have units := units_of_ofParts? h
  have even := even_of_ofParts? h
  generalize roundHalfEven (num * unitsPerOne) (den * 2 ^ shift) = c at *
  have den_pos : (0 : ℚ) < den := by exact_mod_cast positive
  have power : (0 : ℚ) < 2 ^ shift := by positivity
  have scaled : |(num / den * unitsPerOne : ℚ) - c * 2 ^ shift| =
      |((num * unitsPerOne : Nat) / (den * 2 ^ shift : Nat) : ℚ) - c| * 2 ^ shift := by
    rw [← abs_of_pos power, ← abs_mul, abs_of_pos power]
    congr 1
    push_cast
    field_simp
  have needed : shift = 0 ∨ (2 ^ 52 * 2 ^ shift : ℚ) ≤ num / den * unitsPerOne := by
    rcases above with zero | above
    · exact .inl zero
    · right
      rw [div_mul_eq_mul_div, le_div_iff₀ den_pos, ← pow_add]
      exact_mod_cast above
  have half : |(num / den * unitsPerOne : ℚ) - c * 2 ^ shift| ≤ 2 ^ shift / 2 := by
    have := mul_le_mul_of_nonneg_right half power.le
    rw [scaled]
    linarith
  have x_units : (x.units : ℚ) = c * 2 ^ shift := by exact_mod_cast units
  constructor
  · intro n representable
    unfold unitsAway
    by_cases same : n = x.units
    · rw [same]
    · rw [x_units]
      exact (abs_sub_le_of_representable half needed representable (units ▸ same)).1
  · intro n representable other same
    unfold unitsAway at same
    rw [x_units] at same
    have exact_half :=
      (abs_sub_le_of_representable half needed representable (units ▸ other)).2 same
    apply even
    apply tie
    apply mul_right_cancel₀ power.ne'
    rw [← scaled, exact_half]
    ring

/-- A decimal is rounded to its nearest magnitude. -/
theorem isNearest_of_ofDecimal {d : Decimal} {x : Magnitude} (h : ofDecimal d = some x) :
    IsNearest d.value x := by
  have nearest := isNearest_of_ofRatio d.den_pos h
  rwa [d.num_eq_value_mul_den, mul_div_cancel_right₀] at nearest
  have := d.den_pos
  positivity

/-- Zero is its own nearest magnitude. -/
theorem isNearest_zero {x : Magnitude} (zero : x.isZero = true) : IsNearest 0 x := by
  have none : x.significand = 0 := by simpa [isZero] using zero
  have units : x.units = 0 := by rw [units_eq, none, Nat.zero_mul]
  constructor
  · intro n _
    simp [unitsAway, units]
  · intro n _ _ _
    rw [none]

/-! ### There is only one -/

/-- What is not farther from the smaller of two numbers lies below their middle. -/
theorem two_mul_le_of_abs_le {r a b : ℚ} (less : a < b) (le : |r - a| ≤ |r - b|) :
    2 * r ≤ a + b := by
  have := le_abs_self (r - a)
  rcases abs_cases (r - b) with ⟨eq, _⟩ | ⟨eq, _⟩ <;> linarith

/-- What is not farther from the larger of two numbers lies above their middle. -/
theorem le_two_mul_of_abs_le {r a b : ℚ} (less : a < b) (le : |r - b| ≤ |r - a|) :
    a + b ≤ 2 * r := by
  have := neg_le_abs (r - b)
  rcases abs_cases (r - a) with ⟨eq, _⟩ | ⟨eq, _⟩ <;> linarith

/-- The next representable number after a magnitude. -/
theorem representable_succ (x : Magnitude) : Representable (x.units + 2 ^ x.shift) := by
  have small := x.significand_lt
  rw [units_eq]
  by_cases last : x.significand + 1 = 2 ^ 53
  · refine ⟨2 ^ 52, x.shift + 1, by decide, ?_⟩
    have : x.significand = 2 ^ 53 - 1 := by omega
    rw [this, Nat.pow_succ]
    ring
  · exact ⟨x.significand + 1, x.shift, by omega, by ring⟩

/-- A larger magnitude is larger by a step at least. -/
theorem units_add_le_of_lt {x y : Magnitude} (h : x.units < y.units) :
    x.units + 2 ^ x.shift ≤ y.units := by
  rcases (representable_units y).grid_or_below x.shift with ⟨t, grid⟩ | ⟨shifted, small⟩
  · rw [grid, units_eq] at h
    rw [grid, units_eq, ← Nat.succ_mul]
    have := Nat.lt_of_mul_lt_mul_right h
    exact Nat.mul_le_mul_right _ this
  · -- below the numbers that need the shift there is nothing larger
    have normal : 2 ^ 52 ≤ x.significand := x.normal.resolve_left (by omega)
    have := Nat.mul_le_mul_right (2 ^ x.shift) normal
    rw [← units_eq] at this
    omega

/-- Of two magnitudes that are nearest to the same number, neither is smaller. The number would be
in their middle, with nothing representable between them, so that their significands would be
neighbours, and both even. -/
theorem not_units_lt_of_isNearest {q : ℚ} {x y : Magnitude} (hx : IsNearest q x)
    (hy : IsNearest q y) : ¬ x.units < y.units := by
  intro less
  have same : unitsAway q x.units = unitsAway q y.units :=
    le_antisymm (hx.nearest _ y.representable_units) (hy.nearest _ x.representable_units)
  have evenX := hx.even _ y.representable_units (by omega) same.symm
  have evenY := hy.even _ x.representable_units (by omega) same
  have less' : (x.units : ℚ) < y.units := by exact_mod_cast less
  have middle := le_two_mul_of_abs_le less' same.ge
  rcases (units_add_le_of_lt less).lt_or_eq with between | next
  · -- the next number after the smaller one would be nearer than both
    have nearer := hx.nearest _ x.representable_succ
    have first : (x.units : ℚ) < (x.units + 2 ^ x.shift : Nat) := by
      exact_mod_cast Nat.lt_add_of_pos_right (Nat.two_pow_pos _)
    have second : ((x.units + 2 ^ x.shift : Nat) : ℚ) < y.units := by exact_mod_cast between
    unfold unitsAway at nearer
    rw [abs_of_pos (by linarith : 0 < q * unitsPerOne - x.units)] at nearer
    rcases le_abs.1 nearer with low | high <;> linarith
  · -- the larger one is the smaller one with one more in its significand, which is odd
    have small := x.significand_lt
    have odd : x.significand + 1 < 0x20000000000000 := by omega
    have y_eq : y = ⟨x.significand + 1, x.shift, odd, x.shift_le,
        x.normal.imp_right fun le => le.trans (Nat.le_succ _)⟩ := by
      apply units_inj
      rw [← next, units_eq, units_eq]
      ring
    have : y.significand = x.significand + 1 := by rw [y_eq]
    omega

/-- **A number has one nearest magnitude only.** -/
theorem IsNearest.unique {q : ℚ} {x y : Magnitude} (hx : IsNearest q x) (hy : IsNearest q y) :
    x = y := by
  apply units_inj
  have := not_units_lt_of_isNearest hx hy
  have := not_units_lt_of_isNearest hy hx
  omega

/-- **A larger number has no smaller nearest magnitude.** -/
theorem IsNearest.mono {q r : ℚ} {x y : Magnitude} (le : q ≤ r) (hx : IsNearest q x)
    (hy : IsNearest r y) : x.units ≤ y.units := by
  by_contra less
  rw [not_le] at less
  have less' : (y.units : ℚ) < x.units := by exact_mod_cast less
  have unit : (0 : ℚ) < unitsPerOne := by exact_mod_cast unitsPerOne_pos
  have scaled : q * unitsPerOne ≤ r * unitsPerOne := mul_le_mul_of_nonneg_right le unit.le
  have nearX := hx.nearest _ y.representable_units
  have nearY := hy.nearest _ x.representable_units
  unfold unitsAway at nearX nearY
  -- both numbers would have to be the middle
  have low := le_two_mul_of_abs_le less' nearX
  have high := two_mul_le_of_abs_le less' nearY
  have same : q * unitsPerOne = r * unitsPerOne := by linarith
  obtain rfl : q = r := mul_right_cancel₀ unit.ne' same
  rw [hx.unique hy] at less
  exact lt_irrefl _ less

end Magnitude

end Markup
