import Markup.Proofs.Double.Nearest
import Markup.Proofs.Json.Decimals
import Markup.Proofs.Json.ReadBack
import Markup.Proofs.Render.Equality

/-!
# Displayed numbers

A displayed number is plain (`NumberText.Plain`) or scientific (`NumberText.Scientific`), and
neither form has a zero that could be left out. `NumberText.value` reads a text as an exact number,
whatever form it has, and the nearest double to that number is the one that was displayed
(`Double.isNearest_value_text`). So numbers are displayed alike only if they are equal
(`Double.text_displayed_eq_iff`).

Which form is taken depends on the place of the first digit of the shortest decimal. That comes to a
comparison of the number itself with a power of ten, rounded as every number is: the shortest
decimal reaches a place exactly if the number reaches the double that is written as the power of ten
of that place (`Magnitude.le_leading_shortest_iff`).
-/

namespace Markup

open Nat (ofDigitChars)

namespace NumberText

/-! ### Reading a number exactly -/

/-- The text before the first occurrence of a mark, and the text behind it. -/
def cut (mark : Char) : List Char → List Char × List Char
  | [] => ([], [])
  | c :: text => if c = mark then ([], text) else (c :: (cut mark text).1, (cut mark text).2)

/-- The number of an exponent, whose sign may be left out. -/
def power : List Char → Int
  | '-' :: digits => -ofDigitChars 10 digits 0
  | '+' :: digits => ofDigitChars 10 digits 0
  | digits => ofDigitChars 10 digits 0

/-- The number of digits with at most one point among them. -/
def pointedValue (text : List Char) : ℚ :=
  let (whole, fraction) := cut '.' text
  ofDigitChars 10 (whole ++ fraction) 0 * 10 ^ (-(fraction.length : Int))

/-- The number of a text without a sign. -/
def unsignedValue (text : List Char) : ℚ :=
  let (mantissa, exponent) := cut 'e' text
  pointedValue mantissa * 10 ^ power exponent

/-- The exact number that a text stands for. -/
def value : List Char → ℚ
  | '-' :: text => -unsignedValue text
  | text => unsignedValue text

/-! ### Forms -/

/-- Digits with a point before the fraction, if there is a fraction. -/
def pointed (whole fraction : List Char) : List Char :=
  if fraction = [] then whole else whole ++ '.' :: fraction

/-- Digits before and behind a point, none of them a zero that could be left out: only a zero that
stands alone begins the whole part, and no zero ends the fraction. -/
structure Trim (whole fraction : List Char) : Prop where
  /-- There are digits on both sides. -/
  isDigit : ∀ c ∈ whole ++ fraction, c.isDigit = true
  /-- At least one stands before the point. -/
  whole_ne : whole ≠ []
  /-- A zero at the beginning stands alone. -/
  head : whole.head? = some '0' → whole = ['0']
  /-- There is no zero at the end. -/
  last : fraction.getLast? ≠ some '0'

/-- Digits only, with a point among them at most. -/
def Plain (text : List Char) : Prop :=
  ∃ whole fraction, text = pointed whole fraction ∧ Trim whole fraction

/-- One digit that is not zero, perhaps a fraction, and an exponent that has a sign and does not
begin with a zero. -/
def Scientific (text : List Char) : Prop :=
  ∃ first fraction sign exponent,
    text = pointed [first] fraction ++ 'e' :: sign :: exponent ∧
    Trim [first] fraction ∧ first ≠ '0' ∧ (sign = '+' ∨ sign = '-') ∧
    (∀ c ∈ exponent, c.isDigit = true) ∧ exponent ≠ [] ∧ exponent.head? ≠ some '0'

/-- A text is cut at the first mark in it. -/
theorem cut_append {mark : Char} {before : List Char} (absent : mark ∉ before)
    (behind : List Char) : cut mark (before ++ mark :: behind) = (before, behind) := by
  induction before with
  | nil => simp [cut]
  | cons c before ih =>
    rw [List.mem_cons, not_or] at absent
    rw [List.cons_append, cut, if_neg (Ne.symm absent.1), ih absent.2]

/-- A text without the mark is not cut. -/
theorem cut_of_not_mem {mark : Char} {text : List Char} (absent : mark ∉ text) :
    cut mark text = (text, []) := by
  induction text with
  | nil => rfl
  | cons c text ih =>
    rw [List.mem_cons, not_or] at absent
    rw [cut, if_neg (Ne.symm absent.1), ih absent.2]

/-- A mark is not among digits. -/
theorem not_mem_of_isDigit {mark : Char} (other : mark.isDigit = false) {digits : List Char}
    (are : ∀ c ∈ digits, c.isDigit = true) : mark ∉ digits := by
  intro mem
  rw [are mark mem] at other
  cases other

/-- The digits before and behind the point count as one number. -/
theorem pointedValue_pointed {whole fraction : List Char}
    (are : ∀ c ∈ whole ++ fraction, c.isDigit = true) :
    pointedValue (pointed whole fraction) =
      ofDigitChars 10 (whole ++ fraction) 0 * 10 ^ (-(fraction.length : Int)) := by
  have absent : '.' ∉ whole := by
    intro mem
    exact not_mem_of_isDigit rfl are (List.mem_append_left fraction mem)
  unfold pointedValue pointed
  split_ifs with none
  · rw [cut_of_not_mem absent, none]
  · rw [cut_append absent]

/-- There is no `e` among digits with a point between them. -/
theorem not_mem_pointed {whole fraction : List Char}
    (are : ∀ c ∈ whole ++ fraction, c.isDigit = true) : 'e' ∉ pointed whole fraction := by
  have absent := @not_mem_of_isDigit 'e' rfl _ are
  rw [List.mem_append, not_or] at absent
  unfold pointed
  split_ifs
  · exact absent.1
  · simp [absent]

/-- The value of digits with a point among them. -/
theorem unsignedValue_pointed {whole fraction : List Char}
    (are : ∀ c ∈ whole ++ fraction, c.isDigit = true) :
    unsignedValue (pointed whole fraction) =
      ofDigitChars 10 (whole ++ fraction) 0 * 10 ^ (-(fraction.length : Int)) := by
  unfold unsignedValue
  rw [cut_of_not_mem (not_mem_pointed are)]
  simp [pointedValue_pointed are, power]

/-- The value of digits with a point among them and a power behind them. -/
theorem unsignedValue_scientific {whole fraction : List Char}
    (are : ∀ c ∈ whole ++ fraction, c.isDigit = true) (exponent : List Char) :
    unsignedValue (pointed whole fraction ++ 'e' :: exponent) =
      ofDigitChars 10 (whole ++ fraction) 0 * 10 ^ (power exponent - fraction.length) := by
  unfold unsignedValue
  rw [cut_append (not_mem_pointed are)]
  simp only [pointedValue_pointed are]
  rw [mul_assoc, ← zpow_add₀ (by norm_num)]
  congr 2
  omega

/-- What begins with a digit has no sign. -/
theorem value_eq_unsignedValue {c : Char} (digit : c.isDigit = true) (text : List Char) :
    value (c :: text) = unsignedValue (c :: text) := by
  unfold value
  split
  · rename_i same
    rw [(List.cons.inj same).1] at digit
    cases digit
  · rfl

/-- Such a text begins with a digit. -/
theorem Trim.exists_pointed_eq_cons {whole fraction : List Char} (trim : Trim whole fraction) :
    ∃ c rest, pointed whole fraction = c :: rest ∧ c.isDigit = true := by
  obtain ⟨c, whole, rfl⟩ := List.exists_cons_of_ne_nil trim.whole_ne
  have digit : c.isDigit = true := trim.isDigit c (by simp)
  unfold pointed
  split_ifs
  · exact ⟨c, _, rfl, digit⟩
  · exact ⟨c, _, rfl, digit⟩

/-- A plain text has no sign that its value would need. -/
theorem Plain.value_eq {text : List Char} (plain : Plain text) :
    value text = unsignedValue text := by
  obtain ⟨whole, fraction, rfl, trim⟩ := plain
  obtain ⟨c, rest, text_eq, digit⟩ := trim.exists_pointed_eq_cons
  rw [text_eq, value_eq_unsignedValue digit]

/-- Neither does a scientific one. -/
theorem Scientific.value_eq {text : List Char} (scientific : Scientific text) :
    value text = unsignedValue text := by
  obtain ⟨first, fraction, sign, exponent, rfl, trim, -⟩ := scientific
  obtain ⟨c, rest, text_eq, digit⟩ := trim.exists_pointed_eq_cons
  rw [text_eq, List.cons_append, value_eq_unsignedValue digit]

end NumberText

namespace Decimal

open NumberText

/-! ### Digits -/

/-- The last digit of a number is its remainder by ten. -/
theorem getLast?_toDigits (n : Nat) :
    (Nat.toDigits 10 n).getLast? = some (Nat.digitChar (n % 10)) := by
  by_cases small : n < 10
  · rw [Nat.toDigits_of_lt_base small, Nat.mod_eq_of_lt small]
    rfl
  · rw [Nat.toDigits_of_base_le (by decide) (by omega), List.getLast?_concat]

/-- The digit of a number other than zero is not a zero. -/
theorem digitChar_ne_zero {n : Nat} (small : n < 10) (nonzero : n ≠ 0) : Nat.digitChar n ≠ '0' := by
  revert n
  decide

/-- A decimal without a factor of ten does not end with a zero. -/
theorem getLast?_digits_ne {d : Decimal} (stripped : d.coefficient % 10 ≠ 0) :
    d.digits.getLast? ≠ some '0' := by
  rw [digits, getLast?_toDigits]
  intro zero
  exact digitChar_ne_zero (Nat.mod_lt _ (by decide)) stripped (Option.some.inj zero)

/-- The digits of a positive number begin with one that is not zero. -/
theorem exists_toDigits_eq_nonzero {n : Nat} (positive : 0 < n) :
    ∃ c digits, Nat.toDigits 10 n = c :: digits ∧ c ≠ '0' := by
  obtain ⟨c, digits, digits_eq, begins⟩ := Json.exists_toDigits_eq_cons positive
  refine ⟨c, digits, digits_eq, ?_⟩
  rintro rfl
  cases begins

/-- Dropping zeros leaves none, if as many may be dropped as there are digits. -/
theorem strip_mod_ne_zero {bound : Nat} {d : Decimal} (positive : 0 < d.coefficient)
    (enough : d.coefficient < 10 ^ bound) : (strip bound d).coefficient % 10 ≠ 0 := by
  induction bound generalizing d with
  | zero =>
    rw [pow_zero] at enough
    omega
  | succ bound ih =>
    rw [strip]
    split
    · rw [pow_succ] at enough
      apply ih
      · change 0 < d.coefficient / 10
        omega
      · change d.coefficient / 10 < 10 ^ bound
        omega
    · assumption

/-- The first digit says between which powers of ten a decimal lies. -/
theorem leading_bounds {d : Decimal} (positive : 0 < d.coefficient) :
    10 ^ d.leading ≤ d.value ∧ d.value < 10 ^ (d.leading + 1) := by
  obtain ⟨lower, upper⟩ := length_toDigits_bounds positive
  have nonempty : 0 < d.digits.length := Nat.length_toDigits_pos
  have first : d.leading = (d.digits.length - 1 : Nat) + d.exponent := by
    unfold leading
    omega
  have next : d.leading + 1 = d.digits.length + d.exponent := by
    unfold leading
    omega
  have place : (0 : ℚ) < 10 ^ d.exponent := by positivity
  rw [next, first, zpow_add₀ (by norm_num), zpow_add₀ (by norm_num), zpow_natCast, zpow_natCast]
  unfold value
  constructor
  · apply mul_le_mul_of_nonneg_right _ place.le
    exact_mod_cast lower
  · apply mul_lt_mul_of_pos_right _ place
    exact_mod_cast upper

/-! ### The two forms -/

section Forms

variable {d : Decimal}

/-- Zeros behind the digits are part of the whole number. -/
theorem trim_digits_replicate (positive : 0 < d.coefficient) (zeros : Nat) :
    Trim (d.digits ++ List.replicate zeros '0') [] := by
  obtain ⟨c, digits, digits_eq, nonzero⟩ := exists_toDigits_eq_nonzero positive
  have digits_eq : d.digits = c :: digits := digits_eq
  constructor
  · intro c mem
    simp only [List.append_nil, List.mem_append, List.mem_replicate] at mem
    rcases mem with mem | ⟨-, rfl⟩
    · exact isDigit_of_mem_digits mem
    · rfl
  · simp [digits_eq]
  · simp [digits_eq, nonzero]
  · simp

/-- The point among the digits, or behind all of them. -/
theorem trim_take_drop (positive : 0 < d.coefficient) (stripped : d.coefficient % 10 ≠ 0)
    (places : Nat) : Trim (d.digits.take (places + 1)) (d.digits.drop (places + 1)) := by
  obtain ⟨c, digits, digits_eq, nonzero⟩ := exists_toDigits_eq_nonzero positive
  have digits_eq : d.digits = c :: digits := digits_eq
  constructor
  · intro c mem
    rw [List.take_append_drop] at mem
    exact isDigit_of_mem_digits mem
  · simp [digits_eq]
  · simp [digits_eq, nonzero]
  · rw [List.getLast?_drop]
    split_ifs
    · simp
    · exact getLast?_digits_ne stripped

/-- Zeros between the point and the digits. -/
theorem trim_zero_replicate (stripped : d.coefficient % 10 ≠ 0) (zeros : Nat) :
    Trim ['0'] (List.replicate zeros '0' ++ d.digits) := by
  constructor
  · intro c mem
    simp only [List.cons_append, List.nil_append, List.mem_cons, List.mem_append,
      List.mem_replicate] at mem
    rcases mem with rfl | ⟨-, rfl⟩ | mem
    · rfl
    · rfl
    · exact isDigit_of_mem_digits mem
  · simp
  · intro _
    rfl
  · have ends := getLast?_digits_ne stripped
    rw [digits, getLast?_toDigits] at ends
    rw [List.getLast?_append, digits, getLast?_toDigits, Option.some_or]
    exact ends

/-- A text with as many digits behind the point as the decimal has stands for the decimal. -/
theorem plain_of_fraction {whole fraction : List Char} (fractional : d.exponent < 0)
    (trim : Trim whole fraction) (behind : (fraction.length : Int) = -d.exponent)
    (number : ofDigitChars 10 (whole ++ fraction) 0 = d.coefficient) :
    Plain (whole ++ '.' :: fraction) ∧ unsignedValue (whole ++ '.' :: fraction) = d.value := by
  have present : fraction ≠ [] := by
    rintro rfl
    rw [List.length_nil] at behind
    omega
  have text : pointed whole fraction = whole ++ '.' :: fraction := if_neg present
  rw [← text, unsignedValue_pointed trim.isDigit, number, behind, neg_neg]
  exact ⟨⟨whole, fraction, rfl, trim⟩, rfl⟩

/-- **A decimal without an exponent is plain, and stands for itself.** -/
theorem plain_positionalText (positive : 0 < d.coefficient) (stripped : d.coefficient % 10 ≠ 0) :
    Plain (d.positionalText "").toList ∧ unsignedValue (d.positionalText "").toList = d.value := by
  have place : d.leading = d.exponent + d.digits.length - 1 := rfl
  unfold positionalText
  split_ifs with isWhole large
  · have trim := trim_digits_replicate positive d.exponent.toNat
    obtain ⟨n, exponent_eq⟩ := Int.eq_ofNat_of_zero_le isWhole
    have text : (String.ofList (d.digits ++ List.replicate d.exponent.toNat '0') ++ "").toList =
        pointed (d.digits ++ List.replicate d.exponent.toNat '0') [] := by
      simp [pointed]
    rw [text, unsignedValue_pointed trim.isDigit]
    refine ⟨⟨_, _, rfl, trim⟩, ?_⟩
    rw [List.append_nil, Nat.ofDigitChars_append, ofDigitChars_digits,
      Nat.ofDigitChars_replicate_zero, value, exponent_eq]
    simp [mul_comm]
  · rw [String.toList_ofList]
    apply plain_of_fraction (by omega) (trim_take_drop positive stripped d.leading.toNat)
    · rw [List.length_drop]
      omega
    · rw [List.take_append_drop, ofDigitChars_digits]
  · rw [String.toList_ofList]
    apply plain_of_fraction (by omega) (trim_zero_replicate stripped (-d.leading - 1).toNat)
    · rw [List.length_append, List.length_replicate]
      omega
    · have zero : ofDigitChars 10 ['0'] 0 = 0 := rfl
      rw [Nat.ofDigitChars_append, zero, Nat.ofDigitChars_append, Nat.ofDigitChars_replicate_zero,
        Nat.mul_zero, ofDigitChars_digits]

/-- **A decimal with an exponent is scientific, and stands for itself**, if the exponent is not
zero. -/
theorem scientific_scientificText (positive : 0 < d.coefficient)
    (stripped : d.coefficient % 10 ≠ 0) (shifted : d.leading ≠ 0) :
    Scientific d.scientificText.toList ∧ unsignedValue d.scientificText.toList = d.value := by
  obtain ⟨c, digits, digits_eq, nonzero⟩ := exists_toDigits_eq_nonzero positive
  obtain ⟨c', exponent, exponent_eq, nonzero'⟩ :=
    exists_toDigits_eq_nonzero (Int.natAbs_pos.2 shifted)
  have digits_eq : d.digits = c :: digits := digits_eq
  have trim : Trim [c] digits := by
    simpa [digits_eq] using trim_take_drop positive stripped 0
  have text : d.scientificText.toList = pointed [c] digits ++
      'e' :: (if d.leading < 0 then '-' else '+') :: Nat.toDigits 10 d.leading.natAbs := by
    rw [scientificText, String.toList_ofList, digits_eq]
    cases digits <;> simp [pointed]
  rw [text, unsignedValue_scientific trim.isDigit]
  constructor
  · refine ⟨c, digits, _, _, rfl, trim, nonzero, ?_, ?_, ?_, ?_⟩
    · split_ifs
      · exact .inr rfl
      · exact .inl rfl
    · intro c mem
      exact Nat.isDigit_of_mem_toDigits (by decide) (by decide) mem
    · simp [exponent_eq]
    · simp [exponent_eq, nonzero']
  · have signed : power ((if d.leading < 0 then '-' else '+') :: Nat.toDigits 10 d.leading.natAbs) =
        d.leading := by
      split_ifs with small
      · rw [power, Nat.ofDigitChars_ten_toDigits]
        omega
      · rw [power, Nat.ofDigitChars_ten_toDigits]
        omega
    have number : ofDigitChars 10 ([c] ++ digits) 0 = d.coefficient := by
      rw [← ofDigitChars_digits, digits_eq]
      rfl
    have place : d.leading - digits.length = d.exponent := by
      unfold leading
      rw [digits_eq, List.length_cons]
      omega
    rw [signed, number, place, value]

end Forms

end Decimal

namespace Magnitude

/-! ### Where the forms change -/

/-- The shortest decimal has no zero at its end. -/
theorem coefficient_shortest_mod (tie : Tie) {x : Magnitude} (nonzero : x.isZero = false) :
    (x.shortest tie).coefficient % 10 ≠ 0 := by
  obtain ⟨further, -, c, -, near, shortest⟩ := exists_shortest tie nonzero
  obtain ⟨lower, -⟩ := gridFloor_bounds nonzero further
  have one : 0 < 10 ^ further := Nat.pow_pos (by decide)
  have positive : 0 < c := by omega
  rw [shortest]
  exact Decimal.strip_mod_ne_zero positive (Decimal.length_toDigits_bounds positive).2

/-- The nearest magnitude to the shortest decimal of a magnitude is that magnitude. -/
theorem isNearest_shortest (tie : Tie) {x : Magnitude} (nonzero : x.isZero = false) :
    IsNearest (x.shortest tie).value x :=
  isNearest_of_ofDecimal (ofDecimal_shortest tie nonzero)

/-- The shortest decimal of a magnitude other than zero is positive. -/
theorem value_shortest_pos (tie : Tie) {x : Magnitude} (nonzero : x.isZero = false) :
    0 < (x.shortest tie).value := by
  have coefficient := (coefficient_shortest_bounds tie nonzero).1
  unfold Decimal.value
  positivity

/-- A magnitude whose shortest decimal is a power of ten is the nearest one to it. -/
theorem isNearest_of_shortest_eq {tie : Tie} {x : Magnitude} {place : Int}
    (nonzero : x.isZero = false) (power : x.shortest tie = ⟨1, place⟩) :
    IsNearest (10 ^ place) x := by
  have nearest := isNearest_shortest tie nonzero
  rwa [power, Decimal.value, Nat.cast_one, one_mul] at nearest

/-- **The shortest decimal reaches a place exactly if the magnitude reaches the one that is written
as the power of ten of that place.** -/
theorem le_leading_shortest_iff {tie : Tie} {x y : Magnitude} {place : Int}
    (nonzero : x.isZero = false) (nonzero' : y.isZero = false)
    (power : y.shortest tie = ⟨1, place⟩) :
    place ≤ (x.shortest tie).leading ↔ y.units ≤ x.units := by
  obtain ⟨lower, upper⟩ :=
    Decimal.leading_bounds (coefficient_shortest_bounds tie nonzero).1
  have nearX := isNearest_shortest tie nonzero
  have nearY := isNearest_of_shortest_eq nonzero' power
  constructor
  · intro reached
    apply nearY.mono _ nearX
    exact (zpow_le_zpow_right₀ (by norm_num) reached).trans lower
  · intro le
    by_contra short
    -- the decimal is smaller than the power of ten, so the magnitude is the one of the power
    have smaller : (x.shortest tie).value < 10 ^ place := by
      apply upper.trans_le
      exact zpow_le_zpow_right₀ (by norm_num) (by omega)
    obtain rfl : x = y := units_inj (le_antisymm (nearX.mono smaller.le nearY) le)
    rw [power, Decimal.value, Nat.cast_one, one_mul] at smaller
    exact lt_irrefl _ smaller

/-- The magnitude that is written as `10^(-6)`. -/
def leastPlain : Magnitude where
  significand := 0x10C6F7A0B5ED8D
  shift := 1002
  significand_lt := by decide
  shift_le := by decide
  normal := .inr (by decide)

/-- The magnitude `10^21`. -/
def leastScientific : Magnitude where
  significand := 7629394531250000
  shift := 1091
  significand_lt := by decide
  shift_le := by decide
  normal := .inr (by decide)

/-- The least magnitude that is written plainly is the one for `10^(-6)`. -/
theorem shortest_leastPlain : leastPlain.shortest .up = ⟨1, -6⟩ := by
  decide +kernel

/-- The least magnitude above the plain ones is the one for `10^21`. -/
theorem shortest_leastScientific : leastScientific.shortest .up = ⟨1, 21⟩ := by
  decide +kernel

/-- A magnitude from `10^(-6)` up to, but not including, `10^21`. -/
def InPlainRange (x : Magnitude) : Prop :=
  leastPlain.units ≤ x.units ∧ x.units < leastScientific.units

/-- Whether a magnitude is in the range can be decided. -/
instance : DecidablePred InPlainRange :=
  fun _ => inferInstanceAs (Decidable (_ ∧ _))

/-- The first digit of the shortest decimal tells whether a magnitude is in the range. -/
theorem positional_displayed_iff {x : Magnitude} (nonzero : x.isZero = false) :
    NumberStyle.displayed.positional (x.shortest .up).leading = true ↔ x.InPlainRange := by
  have low := le_leading_shortest_iff nonzero rfl shortest_leastPlain
  have high := le_leading_shortest_iff nonzero rfl shortest_leastScientific
  simp only [NumberStyle.displayed, decide_eq_true_eq, InPlainRange, low, ← not_le, high]

end Magnitude

namespace Double

open NumberText

/-! ### The text of a number -/

/-- A displayed number is the text of its shortest decimal with the sign before it. -/
theorem toList_text_displayed (negative : Bool) {x : Magnitude} (nonzero : x.isZero = false) :
    ((finite negative x).text .displayed).toList =
      (if negative then ['-'] else []) ++ ((x.shortest .up).text .displayed).toList := by
  have sign : (if negative then "-" else "").toList = if negative then ['-'] else [] := by
    cases negative <;> rfl
  rw [text, nonzero, if_neg Bool.false_ne_true, String.toList_append, sign]
  rfl

/-- **The text of a number that is not zero**: a sign, the form that the size of the number
demands, and in this form the shortest decimal. -/
theorem exists_text_displayed (negative : Bool) {x : Magnitude} (nonzero : x.isZero = false) :
    ∃ text, ((finite negative x).text .displayed).toList =
        (if negative then ['-'] else []) ++ text ∧
      (if x.InPlainRange then Plain text else Scientific text) ∧
      unsignedValue text = (x.shortest .up).value := by
  have positive := (x.coefficient_shortest_bounds .up nonzero).1
  have stripped := x.coefficient_shortest_mod .up nonzero
  have range := Magnitude.positional_displayed_iff nonzero
  refine ⟨_, toList_text_displayed negative nonzero, ?_⟩
  unfold Decimal.text
  by_cases plain : x.InPlainRange
  · rw [if_pos plain, if_pos (range.2 plain)]
    exact Decimal.plain_positionalText positive stripped
  · rw [if_neg plain, if_neg fun positional => plain (range.1 positional)]
    apply Decimal.scientific_scientificText positive stripped
    -- a number whose first digit stands at the units is plain
    intro units
    have positional : NumberStyle.displayed.positional 0 = true := rfl
    rw [← units, range] at positional
    exact plain positional

/-- The text of a zero has no sign and stands for zero. -/
theorem value_text_of_isZero (negative : Bool) {x : Magnitude} (zero : x.isZero = true) :
    value ((finite negative x).text .displayed).toList = 0 := by
  have text_eq : ((finite negative x).text .displayed).toList = pointed ['0'] [] := by
    rw [text, zero, if_pos rfl]
    cases negative <;> rfl
  have digits : ∀ c ∈ ['0'] ++ [], c.isDigit = true := by
    simp
  have digit : ofDigitChars 10 (['0'] ++ []) 0 = 0 := rfl
  have unsigned : value (pointed ['0'] []) = unsignedValue (pointed ['0'] []) := rfl
  rw [text_eq, unsigned, unsignedValue_pointed digits, digit, Nat.cast_zero, zero_mul]

/-- The text of a number that is not zero stands for the shortest decimal, with the sign. -/
theorem value_text_of_not_isZero (negative : Bool) {x : Magnitude} (nonzero : x.isZero = false) :
    value ((finite negative x).text .displayed).toList =
      if negative then -(x.shortest .up).value else (x.shortest .up).value := by
  obtain ⟨text, text_eq, form, number⟩ := exists_text_displayed negative nonzero
  have unsigned : value text = unsignedValue text := by
    split_ifs at form
    · exact form.value_eq
    · exact form.value_eq
  rw [text_eq]
  cases negative with
  | false => rw [if_neg Bool.false_ne_true, if_neg Bool.false_ne_true, List.nil_append, unsigned,
      number]
  | true =>
    rw [if_pos rfl, if_pos rfl, ← number]
    rfl

/-- **The nearest number to what the text of a finite number stands for is that number**, and the
texts of the numbers below zero are those that stand for a number below zero. -/
theorem isNearest_value_text (negative : Bool) (x : Magnitude) :
    Magnitude.IsNearest |value ((finite negative x).text .displayed).toList| x ∧
      (value ((finite negative x).text .displayed).toList < 0 ↔
        negative = true ∧ x.isZero = false) := by
  cases zero : x.isZero with
  | true =>
    rw [value_text_of_isZero negative zero, abs_zero]
    exact ⟨Magnitude.isNearest_zero zero, by simp⟩
  | false =>
    have positive := x.value_shortest_pos .up zero
    have nearest := x.isNearest_shortest .up zero
    rw [value_text_of_not_isZero negative zero]
    cases negative with
    | false =>
      rw [if_neg Bool.false_ne_true, abs_of_pos positive]
      exact ⟨nearest, by simp [positive.le]⟩
    | true =>
      rw [if_pos rfl, abs_neg, abs_of_pos positive]
      exact ⟨nearest, by simp [positive]⟩

/-! ### Numbers that are displayed alike -/

/-- Finite numbers with the same text are equal. -/
theorem numEq_of_text_eq {negative negative' : Bool} {x y : Magnitude}
    (same : (finite negative x).text .displayed = (finite negative' y).text .displayed) :
    (finite negative x).numEq (finite negative' y) = true := by
  obtain ⟨nearX, signX⟩ := isNearest_value_text negative x
  obtain ⟨nearY, signY⟩ := isNearest_value_text negative' y
  rw [same] at nearX signX
  obtain rfl : x = y := nearX.unique nearY
  rw [signX] at signY
  cases zero : x.isZero with
  | true => simp [numEq, zero]
  | false =>
    have signs : negative = negative' := by
      simpa [zero] using signY
    simp [numEq, signs]

/-- No finite number is displayed like an infinity: the letters of its name are in no number. -/
theorem text_finite_ne_infinite (negative negative' : Bool) (x : Magnitude) :
    (finite negative x).text .displayed ≠ (infinite negative').text .displayed := by
  intro same
  have suffix : ∀ c ∈ NumberStyle.displayed.wholeSuffix.toList, Json.inNumeral c = true := by
    intro c mem
    cases mem
  have mem : 'I' ∈ ((infinite negative').text .displayed).toList := by
    cases negative' <;> decide
  rw [← same] at mem
  have member := inNumeral_text_of_isFinite suffix (x := finite negative x) rfl 'I' mem
  cases member

/-- **Numbers are displayed alike exactly if they are equal.** -/
theorem text_displayed_eq_iff {x y : Double} (number : x.isNaN = false)
    (number' : y.isNaN = false) :
    x.text .displayed = y.text .displayed ↔ x.numEq y = true := by
  refine ⟨fun same => ?_, text_displayed_eq_of_numEq⟩
  cases x with
  | nan => cases number
  | infinite negative =>
    cases y with
    | nan => cases number'
    | infinite negative' =>
      revert same
      cases negative <;> cases negative' <;> decide
    | finite negative' y => exact absurd same.symm (text_finite_ne_infinite _ _ _)
  | finite negative x =>
    cases y with
    | nan => cases number'
    | infinite negative' => exact absurd same (text_finite_ne_infinite _ _ _)
    | finite negative' y => exact numEq_of_text_eq same

/-! ### Displayed numbers -/

/-- **A displayed number can be read back exactly.** A finite number that is not zero is displayed
as plain digits from `10^(-6)` up to, but not including, `10^21`, and with an exponent otherwise.
Rounded to nearest, what the text stands for is the number itself. So numbers, the zeros and the
infinities among them, are displayed alike exactly if they are equal. -/
theorem text_displayed_exact :
    (Magnitude.IsNearest (10 ^ (-6 : Int)) Magnitude.leastPlain ∧
      Magnitude.IsNearest (10 ^ (21 : Int)) Magnitude.leastScientific) ∧
    (∀ (negative : Bool) (x : Magnitude), x.isZero = false →
      (∃ text, ((finite negative x).text .displayed).toList =
          (if negative then ['-'] else []) ++ text ∧
        if x.InPlainRange then Plain text else Scientific text) ∧
      Magnitude.IsNearest |value ((finite negative x).text .displayed).toList| x ∧
      (value ((finite negative x).text .displayed).toList < 0 ↔ negative = true)) ∧
    ∀ x y : Double, x.isNaN = false → y.isNaN = false →
      (x.text .displayed = y.text .displayed ↔ x.numEq y = true) := by
  refine ⟨⟨?_, ?_⟩, ?_, ?_⟩
  · exact Magnitude.isNearest_of_shortest_eq rfl Magnitude.shortest_leastPlain
  · exact Magnitude.isNearest_of_shortest_eq rfl Magnitude.shortest_leastScientific
  · intro negative x nonzero
    obtain ⟨text, text_eq, form, -⟩ := exists_text_displayed negative nonzero
    obtain ⟨nearest, sign⟩ := isNearest_value_text negative x
    refine ⟨⟨text, text_eq, form⟩, nearest, ?_⟩
    rw [sign, and_iff_left nonzero]
  · intro x y number number'
    exact text_displayed_eq_iff number number'

/-- The negative of the least magnitude above the plain ones has a scientific text, and not the text
of the negative of the least plain one. -/
theorem text_displayed_exact_leastScientific :
    (∃ text, ((finite true Magnitude.leastScientific).text .displayed).toList = '-' :: text ∧
      Scientific text) ∧
    (finite true Magnitude.leastScientific).text .displayed ≠
      (finite true Magnitude.leastPlain).text .displayed := by
  obtain ⟨-, finite_ones, all⟩ := text_displayed_exact
  obtain ⟨⟨text, text_eq, form⟩, -⟩ := finite_ones true Magnitude.leastScientific rfl
  rw [if_neg fun range => lt_irrefl _ range.2] at form
  refine ⟨⟨text, text_eq, form⟩, ?_⟩
  rw [Ne, all (finite true Magnitude.leastScientific) (finite true Magnitude.leastPlain) rfl rfl]
  decide

example : (finite true Magnitude.leastPlain).text .displayed = "-0.000001" := by
  decide +kernel

example : (finite false Magnitude.leastScientific).text .displayed = "1e+21" := by
  decide +kernel

end Double

end Markup
