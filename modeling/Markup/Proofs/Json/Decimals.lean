import Markup.Proofs.Double.Range
import Markup.Proofs.Double.Shortest
import Markup.Proofs.Json.Integers

/-!
# Decimals as they are read

The text of a decimal is digits with a point among them, or digits with an exponent, and a reader
takes it into a significand and a power of ten. `Decimal.scan_text` says which: those of the
decimal itself, or, where a whole number is written without an exponent, the ones that end in the
zero after the point (`Decimal.spelled`). No digit is dropped, because a shortest decimal has at
most seventeen.

The double is then computed from the significand and the power with a rounding at each step
(`Decimal.computed?`). If the significand is a double and the power is at most `10^22`, both are
exact and only the last operation rounds, so that the result is the nearest double
(`Decimal.computed?_eq_ofDecimal`).
-/

namespace Markup

namespace Json

open Nat (ofDigitChars)

/-! ### Digits -/

/-- Digits only make the number before them larger. -/
theorem le_ofDigitChars (digits : List Char) (n : Nat) : n ≤ ofDigitChars 10 digits n := by
  rw [Nat.ofDigitChars_eq_ofDigitChars_zero]
  have : 1 * n ≤ 10 ^ digits.length * n := Nat.mul_le_mul_right n (Nat.pow_pos (by decide))
  omega

/-- Among which digits a numeral is: those before or those after the point. -/
def Stage.ofPart (afterPoint : Bool) : Stage :=
  if afterPoint then .fraction else .whole

/-- A numeral after more digits, none of which is dropped. -/
def Numeral.withDigits (n : Numeral) (afterPoint : Bool) (digits : List Char) : Numeral :=
  { n with
    significand := ofDigitChars 10 digits n.significand
    scale := if afterPoint then n.scale - digits.length else n.scale }

/-- No digits leave a numeral as it is. -/
@[simp] theorem Numeral.withDigits_nil (n : Numeral) (afterPoint : Bool) :
    n.withDigits afterPoint [] = n := by
  cases afterPoint <;> simp [withDigits]

/-- Among the digits of a part, a digit leads on to the same part. -/
theorem Stage.next_ofPart (afterPoint : Bool) {c : Char} (digit : c.isDigit = true) :
    (ofPart afterPoint).next c = .goes (ofPart afterPoint) := by
  cases afterPoint <;> simp [ofPart, next, digit]

/-- A digit that fits is kept. -/
theorem Numeral.push_ofPart {n : Numeral} (empty : n.full = false) (afterPoint : Bool) {c : Char}
    (fits : ofDigitChars 10 [c] n.significand ≤ maxSignificand) :
    n.push (.ofPart afterPoint) c = n.withDigits afterPoint [c] := by
  have grown : n.significand * 10 + digitValue c = ofDigitChars 10 [c] n.significand := by
    rw [Nat.ofDigitChars_cons, Nat.ofDigitChars_nil, Nat.mul_comm]
    rfl
  cases afterPoint <;> simp [push, Stage.ofPart, pushDigit, empty, grown, fits, withDigits]

/-- Digits that fit are taken one after another. -/
theorem Stage.scan_digits (afterPoint : Bool) {digits : List Char}
    (are : ∀ c ∈ digits, c.isDigit = true) {n : Numeral} (empty : n.full = false)
    (fits : ofDigitChars 10 digits n.significand ≤ Numeral.maxSignificand) :
    (ofPart afterPoint).scan n digits =
      some (ofPart afterPoint, n.withDigits afterPoint digits) := by
  induction digits generalizing n with
  | nil => simp [scan]
  | cons c digits ih =>
    rw [Nat.ofDigitChars_cons] at fits
    have first : ofDigitChars 10 [c] n.significand ≤ Numeral.maxSignificand :=
      (le_ofDigitChars digits _).trans fits
    rw [scan, next_ofPart afterPoint (are c List.mem_cons_self)]
    simp only
    rw [Numeral.push_ofPart empty afterPoint first, ih]
    · cases afterPoint
      · simp [Numeral.withDigits, Nat.ofDigitChars_cons]
      · simp [Numeral.withDigits, Nat.ofDigitChars_cons]
        omega
    · intro c' mem
      exact are c' (List.mem_cons_of_mem c mem)
    · exact empty
    · exact fits

/-- The digits at the beginning of a numeral, if they do not begin with a zero. -/
theorem Stage.scan_firstDigits (negative : Bool) {c : Char} {digits : List Char}
    (begins : Stage.sign.next c = .goes .whole) (are : ∀ c ∈ digits, c.isDigit = true)
    (fits : ofDigitChars 10 (c :: digits) 0 ≤ Numeral.maxSignificand) :
    Stage.sign.scan (.start negative) (c :: digits) =
      some (.whole, (Numeral.start negative).withDigits false (c :: digits)) := by
  have whole : Stage.whole.next c = .goes .whole :=
    next_ofPart false (Reader.isDigit_of_goes begins)
  have same : Stage.sign.scan (.start negative) (c :: digits) =
      Stage.whole.scan (.start negative) (c :: digits) := by
    simp only [scan, begins, whole]
  rw [same]
  apply scan_digits false _ rfl fits
  intro c' mem
  rcases List.mem_cons.1 mem with rfl | mem
  · exact Reader.isDigit_of_goes begins
  · exact are c' mem

/-- The point and the digits after it. -/
theorem Stage.scan_point {stage : Stage} (before : stage = .whole ∨ stage = .zero) {n : Numeral}
    {c : Char} {digits : List Char} (are : ∀ c' ∈ c :: digits, c'.isDigit = true)
    (fits : ofDigitChars 10 (c :: digits) n.significand ≤ Numeral.maxSignificand) :
    stage.scan n ('.' :: c :: digits) =
      some (.fraction,
        { n with full := false, isWhole := false }.withDigits true (c :: digits)) := by
  have digit : c.isDigit = true := are c List.mem_cons_self
  have pointed : stage.next '.' = .goes .point := by
    rcases before with rfl | rfl <;> rfl
  have first : Stage.point.next c = .goes .fraction := by
    simp [next, digit]
  have fraction : Stage.fraction.next c = .goes .fraction := next_ofPart true digit
  have same : stage.scan n ('.' :: c :: digits) =
      Stage.fraction.scan { n with full := false, isWhole := false } (c :: digits) := by
    simp only [scan, pointed, first, fraction, Numeral.push]
  rw [same]
  exact scan_digits true are rfl fits

/-- The digits of an exponent are all kept. -/
theorem Stage.scan_exponentDigits {digits : List Char} (are : ∀ c ∈ digits, c.isDigit = true)
    (n : Numeral) :
    Stage.exponent.scan n digits =
      some (.exponent, { n with exponent := ofDigitChars 10 digits n.exponent }) := by
  induction digits generalizing n with
  | nil => simp [scan]
  | cons c digits ih =>
    have goes : Stage.exponent.next c = .goes .exponent := by
      simp [next, are c List.mem_cons_self]
    rw [scan, goes]
    simp only
    rw [ih, Nat.ofDigitChars_cons]
    · simp [Numeral.push, Numeral.digitValue, Nat.mul_comm]
    · intro c' mem
      exact are c' (List.mem_cons_of_mem c mem)

/-- The exponent of a numeral, with its sign. -/
theorem Stage.scan_mark {stage : Stage} (before : stage = .whole ∨ stage = .fraction) {n : Numeral}
    (none_yet : n.exponent = 0) (negative : Bool) (power : Nat) :
    stage.scan n ('e' :: (if negative then '-' else '+') :: Nat.toDigits 10 power) =
      some (.exponent,
        { n with isWhole := false, exponentNegative := negative, exponent := power }) := by
  have marked : stage.next 'e' = .goes .mark := by
    rcases before with rfl | rfl <;> rfl
  have signed : Stage.mark.next (if negative then '-' else '+') = .goes .exponentSign := by
    cases negative <;> rfl
  have are : ∀ c ∈ Nat.toDigits 10 power, c.isDigit = true :=
    fun c mem => Nat.isDigit_of_mem_toDigits (by decide) (by decide) mem
  obtain ⟨c, digits, digits_eq⟩ :=
    List.exists_cons_of_ne_nil (Nat.toDigits_ne_nil (n := power) (b := 10))
  have first : Stage.exponentSign.next c = .goes .exponent ∧
      Stage.exponent.next c = .goes .exponent := by
    have digit := are c (by simp [digits_eq])
    simp [next, digit]
  have same : ∀ m : Numeral, Stage.exponentSign.scan m (Nat.toDigits 10 power) =
      Stage.exponent.scan m (Nat.toDigits 10 power) := by
    intro m
    simp only [digits_eq, scan, first]
  have sign_read : ((if negative then '-' else '+') == '-') = negative := by
    cases negative <;> rfl
  rw [scan, marked]
  simp only
  rw [scan, signed]
  simp only
  rw [same, scan_exponentDigits are]
  simp [Numeral.push, none_yet, sign_read, Nat.ofDigitChars_ten_toDigits]

/-- Digits with a point among them, the first of them not a zero. -/
theorem Stage.scan_pointed (negative : Bool) {c : Char} {whole fraction : List Char}
    (begins : Stage.sign.next c = .goes .whole) (are : ∀ c ∈ whole ++ fraction, c.isDigit = true)
    (nonempty : fraction ≠ [])
    (fits : ofDigitChars 10 (c :: whole ++ fraction) 0 ≤ Numeral.maxSignificand) :
    Stage.sign.scan (.start negative) (c :: whole ++ '.' :: fraction) =
      some (.fraction, ⟨negative, ofDigitChars 10 (c :: whole ++ fraction) 0, -fraction.length,
        false, false, false, 0⟩) := by
  obtain ⟨c', digits, rfl⟩ := List.exists_cons_of_ne_nil nonempty
  rw [Nat.ofDigitChars_append] at fits ⊢
  have first : ofDigitChars 10 (c :: whole) 0 ≤ Numeral.maxSignificand :=
    (le_ofDigitChars _ _).trans fits
  rw [scan_append, scan_firstDigits negative begins _ first, Option.bind_some,
    scan_point (.inl rfl) _ fits]
  · simp [Numeral.withDigits, Numeral.start]
  · intro c'' mem
    exact are c'' (List.mem_append_right whole mem)
  · intro c'' mem
    exact are c'' (List.mem_append_left _ mem)

/-- A numeral with a point or an exponent whose significand and power are those of a decimal. -/
structure Numeral.SpellsOut (n : Numeral) (negative : Bool) (d : Decimal) : Prop where
  /-- The sign is as said. -/
  negative_eq : n.negative = negative
  /-- There is a point or an exponent. -/
  isWhole_eq : n.isWhole = false
  /-- The significand is the coefficient. -/
  significand_eq : n.significand = d.coefficient
  /-- The power is the exponent. -/
  power_eq : n.power = d.exponent

end Json

namespace Decimal

open Json (Stage Numeral)
open Nat (ofDigitChars)

/-! ### Texts -/

/-- The decimal with the digits that stand in its exchanged text: a whole number that is written
without an exponent has a zero after the point. -/
def spelled (d : Decimal) : Decimal :=
  if 0 ≤ d.exponent ∧ d.leading < 16 then
    ⟨d.coefficient * 10 ^ (d.exponent.toNat + 1), -1⟩
  else d

/-- More zeros at the end do not change what a decimal stands for. -/
theorem value_spelled (d : Decimal) : d.spelled.value = d.value := by
  unfold spelled
  split
  · rename_i whole
    obtain ⟨n, exponent_eq⟩ := Int.eq_ofNat_of_zero_le whole.1
    rw [value, value, exponent_eq, Int.toNat_natCast, zpow_natCast]
    push_cast
    rw [zpow_neg_one, pow_succ]
    ring
  · rfl

/-- The digits of a decimal are digits. -/
theorem isDigit_of_mem_digits {d : Decimal} {c : Char} (mem : c ∈ d.digits) : c.isDigit = true :=
  Nat.isDigit_of_mem_toDigits (by decide) (by decide) mem

/-- The digits of a decimal stand for its coefficient. -/
theorem ofDigitChars_digits (d : Decimal) : ofDigitChars 10 d.digits 0 = d.coefficient :=
  Nat.ofDigitChars_ten_toDigits

/-- A whole number without an exponent. -/
theorem scan_wholeText (negative : Bool) {d : Decimal} (positive : 0 < d.coefficient)
    (whole : 0 ≤ d.exponent) (short : d.leading < 16) :
    ∃ n, Stage.sign.scan (.start negative) (d.positionalText ".0").toList = some (.fraction, n) ∧
      n.SpellsOut negative ⟨d.coefficient * 10 ^ (d.exponent.toNat + 1), -1⟩ := by
  obtain ⟨c, digits, digits_eq, begins⟩ := Json.exists_toDigits_eq_cons positive
  have digits_eq : d.digits = c :: digits := digits_eq
  have number : ofDigitChars 10 (c :: (digits ++ List.replicate d.exponent.toNat '0') ++ ['0']) 0 =
      d.coefficient * 10 ^ (d.exponent.toNat + 1) := by
    rw [← List.cons_append, ← digits_eq, List.append_assoc, ← List.replicate_succ',
      Nat.ofDigitChars_append, ofDigitChars_digits, Nat.ofDigitChars_replicate_zero, Nat.mul_comm]
  have fits : d.coefficient * 10 ^ (d.exponent.toNat + 1) ≤ Numeral.maxSignificand := by
    obtain ⟨-, upper⟩ := length_toDigits_bounds positive
    have places : d.digits.length + (d.exponent.toNat + 1) ≤ 17 := by
      unfold leading at short
      omega
    calc d.coefficient * 10 ^ (d.exponent.toNat + 1)
        ≤ 10 ^ d.digits.length * 10 ^ (d.exponent.toNat + 1) := Nat.mul_le_mul_right _ upper.le
      _ = 10 ^ (d.digits.length + (d.exponent.toNat + 1)) := (Nat.pow_add _ _ _).symm
      _ ≤ 10 ^ 17 := Nat.pow_le_pow_right (by decide) places
      _ ≤ Numeral.maxSignificand := by decide
  have text : (d.positionalText ".0").toList =
      c :: (digits ++ List.replicate d.exponent.toNat '0') ++ '.' :: ['0'] := by
    rw [positionalText, if_pos whole, String.toList_append, String.toList_ofList, digits_eq]
    rfl
  rw [text, Stage.scan_pointed negative begins _ (by simp) (number.trans_le fits)]
  · exact ⟨_, rfl, rfl, rfl, number, rfl⟩
  · intro c' mem
    simp only [List.mem_append, List.mem_replicate, List.mem_singleton] at mem
    rcases mem with (mem | ⟨-, rfl⟩) | rfl
    · apply isDigit_of_mem_digits (d := d)
      rw [digits_eq]
      exact List.mem_cons_of_mem c mem
    · rfl
    · rfl

/-- A number with a fraction, and with digits before the point. -/
theorem scan_mixedText (negative : Bool) {d : Decimal} (positive : 0 < d.coefficient)
    (bounded : d.coefficient ≤ Numeral.maxSignificand) (fractional : d.exponent < 0)
    (large : 0 ≤ d.leading) (suffix : String) :
    ∃ n, Stage.sign.scan (.start negative) (d.positionalText suffix).toList =
        some (.fraction, n) ∧ n.SpellsOut negative d := by
  obtain ⟨c, digits, digits_eq, begins⟩ := Json.exists_toDigits_eq_cons positive
  have digits_eq : d.digits = c :: digits := digits_eq
  have length_eq : d.digits.length = digits.length + 1 := by
    rw [digits_eq, List.length_cons]
  have place : d.leading = d.exponent + digits.length := by
    unfold leading
    omega
  have whole : c :: digits.take d.leading.toNat ++ digits.drop d.leading.toNat = d.digits := by
    rw [List.cons_append, List.take_append_drop, digits_eq]
  have text : (d.positionalText suffix).toList =
      c :: digits.take d.leading.toNat ++ '.' :: digits.drop d.leading.toNat := by
    rw [positionalText, if_neg (by omega), if_pos large, String.toList_ofList, digits_eq]
    rfl
  have number : ofDigitChars 10
      (c :: digits.take d.leading.toNat ++ digits.drop d.leading.toNat) 0 = d.coefficient := by
    rw [whole, ofDigitChars_digits]
  have behind : (digits.drop d.leading.toNat).length = -d.exponent := by
    rw [List.length_drop]
    omega
  rw [text, Stage.scan_pointed negative begins _ _ (number.trans_le bounded)]
  · refine ⟨_, rfl, rfl, rfl, number, ?_⟩
    simp only [Numeral.power, behind]
    simp
  · intro c' mem
    apply isDigit_of_mem_digits (d := d)
    rw [digits_eq, ← List.take_append_drop d.leading.toNat digits]
    exact List.mem_cons_of_mem c mem
  · intro none
    rw [none, List.length_nil] at behind
    omega

/-- A number with a fraction, and with nothing but a zero before the point. -/
theorem scan_smallText (negative : Bool) {d : Decimal}
    (bounded : d.coefficient ≤ Numeral.maxSignificand) (fractional : d.exponent < 0)
    (small : d.leading < 0) (suffix : String) :
    ∃ n, Stage.sign.scan (.start negative) (d.positionalText suffix).toList =
        some (.fraction, n) ∧ n.SpellsOut negative d := by
  have text : (d.positionalText suffix).toList =
      '0' :: '.' :: (List.replicate (-d.leading - 1).toNat '0' ++ d.digits) := by
    rw [positionalText, if_neg (by omega), if_neg (by omega), String.toList_ofList]
  have number : ofDigitChars 10 (List.replicate (-d.leading - 1).toNat '0' ++ d.digits) 0 =
      d.coefficient := by
    rw [Nat.ofDigitChars_append, Nat.ofDigitChars_replicate_zero, Nat.mul_zero,
      ofDigitChars_digits]
  have behind : ((List.replicate (-d.leading - 1).toNat '0' ++ d.digits).length : Int) =
      -d.exponent := by
    rw [List.length_append, List.length_replicate]
    unfold leading at small ⊢
    omega
  have are : ∀ c ∈ List.replicate (-d.leading - 1).toNat '0' ++ d.digits, c.isDigit = true := by
    intro c mem
    rcases List.mem_append.1 mem with mem | mem
    · rw [(List.mem_replicate.1 mem).2]
      rfl
    · exact isDigit_of_mem_digits mem
  rw [text]
  generalize List.replicate (-d.leading - 1).toNat '0' ++ d.digits = digits at number behind are
  obtain ⟨c, rest, rfl⟩ : ∃ c rest, digits = c :: rest := by
    apply List.exists_cons_of_ne_nil
    rintro rfl
    simp at behind
    omega
  have zero : Stage.sign.scan (.start negative) ('0' :: '.' :: c :: rest) =
      Stage.zero.scan (.start negative) ('.' :: c :: rest) := rfl
  rw [zero, Stage.scan_point (.inr rfl) are (number.trans_le bounded)]
  refine ⟨_, rfl, rfl, rfl, number, ?_⟩
  simp only [Numeral.power, Numeral.withDigits, Numeral.start, behind]
  simp

/-- The digits of a number with an exponent: a point follows the first one if there are more. -/
theorem scan_mantissa (negative : Bool) {d : Decimal} (positive : 0 < d.coefficient)
    (bounded : d.coefficient ≤ Numeral.maxSignificand) :
    ∃ (mantissa : List Char) (stage : Stage) (n : Numeral),
      d.scientificText.toList = mantissa ++ 'e' :: (if d.leading < 0 then '-' else '+') ::
        Nat.toDigits 10 d.leading.natAbs ∧
      Stage.sign.scan (.start negative) mantissa = some (stage, n) ∧
      (stage = .whole ∨ stage = .fraction) ∧ n.exponent = 0 ∧ n.negative = negative ∧
      n.significand = d.coefficient ∧ n.scale = 1 - d.digits.length := by
  obtain ⟨c, digits, digits_eq, begins⟩ := Json.exists_toDigits_eq_cons positive
  have digits_eq : d.digits = c :: digits := digits_eq
  have number : ofDigitChars 10 (c :: digits) 0 = d.coefficient := by
    rw [← digits_eq, ofDigitChars_digits]
  have are : ∀ c' ∈ digits, c'.isDigit = true := by
    intro c' mem
    apply isDigit_of_mem_digits (d := d)
    rw [digits_eq]
    exact List.mem_cons_of_mem c mem
  rw [scientificText, String.toList_ofList, digits_eq]
  cases digits with
  | nil =>
    have scanned := Stage.scan_firstDigits negative begins are (number.trans_le bounded)
    refine ⟨[c], .whole, _, rfl, scanned, .inl rfl, rfl, rfl, number, ?_⟩
    simp [Numeral.withDigits, Numeral.start]
  | cons second rest =>
    have scanned := @Stage.scan_pointed negative c [] (second :: rest) begins are (by simp)
      (number.trans_le bounded)
    refine ⟨c :: '.' :: second :: rest, .fraction, _, rfl, scanned, .inr rfl, rfl, rfl, number, ?_⟩
    simp only [List.length_cons]
    omega

/-- A number with an exponent. -/
theorem scan_scientificText (negative : Bool) {d : Decimal} (positive : 0 < d.coefficient)
    (bounded : d.coefficient ≤ Numeral.maxSignificand) :
    ∃ n, Stage.sign.scan (.start negative) d.scientificText.toList = some (.exponent, n) ∧
      n.SpellsOut negative d := by
  obtain ⟨mantissa, stage, n, text, scanned, before, none_yet, negative_eq, significand_eq,
    scale_eq⟩ := scan_mantissa negative positive bounded
  have marked := Stage.scan_mark before none_yet (decide (d.leading < 0)) d.leading.natAbs
  simp only [decide_eq_true_eq] at marked
  rw [text, Stage.scan_append, scanned, Option.bind_some, marked]
  refine ⟨_, rfl, negative_eq, rfl, significand_eq, ?_⟩
  have place : d.leading = d.exponent + d.digits.length - 1 := rfl
  by_cases small : d.leading < 0
  · simp only [Numeral.power, scale_eq, small, decide_true, if_true]
    omega
  · simp only [Numeral.power, scale_eq, small, decide_false, Bool.false_eq_true, if_false]
    omega

/-- **The text of a decimal that is not too long is a numeral that spells it out.** -/
theorem scan_text (negative : Bool) {d : Decimal} (positive : 0 < d.coefficient)
    (bounded : d.coefficient ≤ Numeral.maxSignificand) :
    ∃ stage n, Stage.sign.scan (.start negative) (d.text .exchanged).toList = some (stage, n) ∧
      stage.isComplete = true ∧ n.SpellsOut negative d.spelled := by
  have nonempty : 0 < d.digits.length := Nat.length_toDigits_pos
  have place : d.leading = d.exponent + d.digits.length - 1 := rfl
  unfold text
  by_cases positional : -5 ≤ d.leading ∧ d.leading < 16
  · rw [if_pos (by simpa [NumberStyle.exchanged] using positional)]
    by_cases whole : 0 ≤ d.exponent
    · rw [spelled, if_pos ⟨whole, positional.2⟩]
      obtain ⟨n, scanned, spells⟩ := scan_wholeText negative positive whole positional.2
      exact ⟨.fraction, n, scanned, rfl, spells⟩
    · rw [spelled, if_neg fun h => whole h.1]
      by_cases large : 0 ≤ d.leading
      · obtain ⟨n, scanned, spells⟩ :=
          scan_mixedText negative positive bounded (by omega) large
            NumberStyle.exchanged.wholeSuffix
        exact ⟨.fraction, n, scanned, rfl, spells⟩
      · obtain ⟨n, scanned, spells⟩ :=
          scan_smallText negative bounded (by omega) (by omega) NumberStyle.exchanged.wholeSuffix
        exact ⟨.fraction, n, scanned, rfl, spells⟩
  · rw [if_neg (by simpa [NumberStyle.exchanged] using positional), spelled,
      if_neg (by omega)]
    obtain ⟨n, scanned, spells⟩ := scan_scientificText negative positive bounded
    exact ⟨.exponent, n, scanned, rfl, spells⟩

/-! ### Values -/

/-- The magnitude that is computed from the digits and the power of a numeral, with a rounding at
every operation; `none` if it is out of range. -/
def computed? (d : Decimal) : Option Magnitude :=
  (Magnitude.ofRatio d.coefficient 1).bind (Json.scaleByTen · d.exponent)

/-- A numeral that spells out a decimal denotes what is computed from the decimal. -/
theorem number?_of_spellsOut {n : Numeral} {negative : Bool} {d : Decimal}
    (spells : n.SpellsOut negative d) :
    n.number? = d.computed?.map fun x => .real (.finite negative x) := by
  rw [Numeral.number?, if_neg (by simp [spells.isWhole_eq]), Numeral.real?, computed?,
    spells.significand_eq, spells.power_eq, spells.negative_eq]
  cases Magnitude.ofRatio d.coefficient 1 with
  | none => rfl
  | some x => cases scaled : Json.scaleByTen x d.exponent <;> simp [scaled]

/-- A power of ten up to `10^22` is a double. -/
theorem exists_powerOfTen {power : Nat} (small : power ≤ 22) :
    ∃ y : Magnitude, Json.powerOfTen power = some y ∧
      y.units = 10 ^ power * Magnitude.unitsPerOne := by
  have bits : 5 ^ power < 2 ^ 53 :=
    (Nat.pow_le_pow_right (by decide) small).trans_lt (by decide)
  have shift : power ≤ 971 := by omega
  obtain ⟨y, units_eq⟩ := Magnitude.exists_whole bits shift
  rw [← Nat.mul_pow] at units_eq
  refine ⟨y, ?_, units_eq⟩
  apply Magnitude.ofRatio_eq_some_of_exact Nat.one_pos
  rw [units_eq, Nat.mul_one, Nat.pow_eq]

/-- Scaling up by a power of ten is one multiplication. -/
theorem scaleByTen_up {x y : Magnitude} (nonzero : x.isZero = false) {power : Nat}
    (small : power ≤ Json.maxPower) (found : Json.powerOfTen power = some y) :
    Json.scaleByTen x power = x.mul y := by
  have range : (power : Int) ≤ Json.maxPower := by omega
  rw [Json.scaleByTen, if_neg (by simp [nonzero]), if_pos (Int.natCast_nonneg power),
    if_pos range, Int.toNat_natCast, found, Option.bind_eq_bind, Option.bind_some]

/-- Scaling down by a power of ten that is not too large is one division. -/
theorem scaleByTen_down {x y : Magnitude} (nonzero : x.isZero = false) {power : Nat}
    (positive : 0 < power) (small : power ≤ 22) (found : Json.powerOfTen power = some y) :
    Json.scaleByTen x (-power) = x.div y := by
  have none_before : ((- -(power : Int)).toNat - 1) / Json.maxPower = 0 := by
    unfold Json.maxPower
    omega
  have all : (- -(power : Int)).toNat - 0 * Json.maxPower = power := by
    omega
  rw [Json.scaleByTen, if_neg (by simp [nonzero]), if_neg (by omega), none_before]
  simp only [all, found]
  rw [Json.lower, Option.bind_eq_bind, Option.bind_some, Option.bind_some]

/-- A decimal with a power of ten is rounded as a whole number. -/
theorem ofDecimal_up (c n : Nat) :
    Magnitude.ofDecimal ⟨c, n⟩ = Magnitude.ofRatio (c * 10 ^ n) 1 := by
  have none_below : (-(n : Int)).toNat = 0 := by omega
  simp only [Magnitude.ofDecimal, num, den, Int.toNat_natCast, none_below, Nat.pow_eq, pow_zero]

/-- A decimal with a negative power of ten is rounded as a quotient. -/
theorem ofDecimal_down (c n : Nat) :
    Magnitude.ofDecimal ⟨c, -n⟩ = Magnitude.ofRatio c (10 ^ n) := by
  have none_above : (-(n : Int)).toNat = 0 := by omega
  simp only [Magnitude.ofDecimal, num, den, none_above, Int.neg_neg, Int.toNat_natCast, Nat.pow_eq,
    pow_zero, Nat.mul_one]

/-- **Digits and a power of ten that are both exact give the nearest double**: only the last
operation rounds. -/
theorem computed?_eq_ofDecimal {d : Decimal} {x : Magnitude} (positive : 0 < d.coefficient)
    (exact : x.units = d.coefficient * Magnitude.unitsPerOne) (small : d.exponent.natAbs ≤ 22) :
    d.computed? = Magnitude.ofDecimal d := by
  obtain ⟨c, exponent⟩ := d
  have read : Magnitude.ofRatio c 1 = some x := by
    apply Magnitude.ofRatio_eq_some_of_exact Nat.one_pos
    rw [exact, Nat.mul_one]
  have nonzero := Magnitude.isZero_of_whole positive exact
  obtain ⟨y, found, power⟩ := exists_powerOfTen small
  rw [computed?, read, Option.bind_some]
  simp only at small found power ⊢
  rcases lt_or_ge exponent 0 with down | up
  · have signed : exponent = -(exponent.natAbs : Int) := by omega
    rw [signed, scaleByTen_down nonzero (by omega) small found,
      Magnitude.div_of_whole (Nat.pow_pos (by decide)) exact power, ofDecimal_down]
  · have signed : exponent = (exponent.natAbs : Int) := by omega
    have range : exponent.natAbs ≤ Json.maxPower := small.trans (by decide)
    rw [signed, scaleByTen_up nonzero range found, Magnitude.mul_of_whole exact power,
      ofDecimal_up]

/-! ### Range -/

end Decimal

namespace Json

/-- A power of ten within the bound is at most the largest one. -/
theorem ten_pow_le {power : Nat} (small : power ≤ maxPower) : 10 ^ power ≤ 10 ^ maxPower := by
  generalize maxPower = most at small ⊢
  exact Nat.pow_le_pow_right (by decide) small

/-- A positive whole number up to the largest power of ten is rounded to a magnitude, which is one
at least. -/
theorem exists_ofRatio_of_le_power {n : Nat} (positive : 0 < n) (small : n ≤ 10 ^ maxPower) :
    ∃ x, Magnitude.ofRatio n 1 = some x ∧ Magnitude.unitsPerOne ≤ x.units ∧
      2 ^ 53 * x.units ≤ (2 ^ 53 + 1) * (n * Magnitude.unitsPerOne) := by
  obtain ⟨top, fits, range⟩ : ∃ top ≤ 2045,
      2 * (10 ^ maxPower * Magnitude.unitsPerOne) + 2 ^ top < 2 ^ 54 * 2 ^ top :=
    ⟨2045, le_rfl, by decide +kernel⟩
  apply Magnitude.exists_ofRatio_whole positive fits
  have := Nat.mul_le_mul_right Magnitude.unitsPerOne small
  omega

/-- A power of ten within the bound is rounded to a magnitude, one at least and close to it. -/
theorem exists_powerOfTen_of_le {power : Nat} (small : power ≤ maxPower) :
    ∃ y, powerOfTen power = some y ∧ Magnitude.unitsPerOne ≤ y.units ∧
      2 ^ 53 * y.units ≤ (2 ^ 53 + 1) * (10 ^ power * Magnitude.unitsPerOne) := by
  apply exists_ofRatio_of_le_power (Nat.pow_pos (by decide))
  exact ten_pow_le small

/-- Scaling down never leaves the range. -/
theorem exists_lower (times : Nat) (x : Magnitude) : ∃ y, lower times x = some y := by
  induction times generalizing x with
  | zero => exact ⟨x, rfl⟩
  | succ times ih =>
    rw [lower]
    split_ifs with zero
    · exact ⟨x, rfl⟩
    · obtain ⟨power, found, one, -⟩ := exists_powerOfTen_of_le (le_refl maxPower)
      obtain ⟨quotient, divided⟩ := x.exists_div one
      obtain ⟨y, lowered⟩ := ih quotient
      refine ⟨y, ?_⟩
      rw [found, Option.bind_eq_bind, Option.bind_some, divided, Option.bind_some, lowered]

/-- Scaling down never goes out of range. -/
theorem exists_scaleByTen_of_neg (x : Magnitude) {power : Int} (negative : power < 0) :
    ∃ y, scaleByTen x power = some y := by
  rw [scaleByTen]
  split_ifs with zero up
  · exact ⟨x, rfl⟩
  · omega
  · omega
  · obtain ⟨lowered, isLowered⟩ := exists_lower (((-power).toNat - 1) / maxPower) x
    have last : (-power).toNat - ((-power).toNat - 1) / maxPower * maxPower ≤ maxPower := by
      unfold maxPower
      omega
    obtain ⟨y, found, one, -⟩ := exists_powerOfTen_of_le last
    obtain ⟨z, divided⟩ := lowered.exists_div one
    refine ⟨z, ?_⟩
    simp only [isLowered, found]
    rw [Option.bind_eq_bind, Option.bind_some, Option.bind_some, divided]

end Json

namespace Decimal

/-- **What is computed from digits and a power of ten is in range** if the nearest magnitude is
three steps away from the end of the range. -/
theorem exists_computed? {d : Decimal} {x : Magnitude} (positive : 0 < d.coefficient)
    (bounded : d.coefficient ≤ 10 ^ 17) (back : Magnitude.ofDecimal d = some x)
    (below : x.shift < 2045 ∨ x.significand + 3 < 2 ^ 53) : ∃ y, d.computed? = some y := by
  obtain ⟨c, exponent⟩ := d
  obtain ⟨s, read, one, hs⟩ :=
    Json.exists_ofRatio_of_le_power positive (bounded.trans (Json.ten_pow_le (by decide)))
  simp only at positive read hs
  rw [computed?, read, Option.bind_some]
  simp only
  rcases lt_or_ge exponent 0 with down | up
  · exact Json.exists_scaleByTen_of_neg s down
  · obtain ⟨power, rfl⟩ := Int.eq_ofNat_of_zero_le up
    rw [ofDecimal_up] at back
    obtain ⟨shift, within, -, -, upper⟩ := Magnitude.ofRatio_bounds Nat.one_pos back
    have near : 2 * (c * 10 ^ power * Magnitude.unitsPerOne) ≤
        (2 * x.significand + 1) * 2 ^ x.shift := by
      have step : 2 ^ shift ≤ 2 ^ x.shift := Nat.pow_le_pow_right (by decide) within
      have units := x.units_eq
      linarith
    obtain ⟨top, fits, inside⟩ : ∃ top ≤ 2045,
        2 * (c * 10 ^ power * Magnitude.unitsPerOne) + 7 * 2 ^ top ≤ 2 ^ 54 * 2 ^ top := by
      rcases below with lower | few
      · refine ⟨x.shift + 1, lower, ?_⟩
        have small : (2 * x.significand + 1) * 2 ^ x.shift ≤ 2 ^ 54 * 2 ^ x.shift := by
          apply Nat.mul_le_mul_right
          have := x.significand_lt
          omega
        rw [Nat.pow_succ]
        omega
      · refine ⟨x.shift, x.shift_le, ?_⟩
        have small : (2 * x.significand + 1 + 7) * 2 ^ x.shift ≤ 2 ^ 54 * 2 ^ x.shift := by
          apply Nat.mul_le_mul_right
          omega
        linarith
    have small : power ≤ Json.maxPower := by
      by_contra far
      rw [not_le] at far
      obtain ⟨most, all, outside⟩ : ∃ most, (∀ top ≤ 2045, 2 ^ top ≤ most) ∧
          2 ^ 54 * most < 2 * (10 ^ (Json.maxPower + 1) * Magnitude.unitsPerOne) :=
        ⟨2 ^ 2045, fun top fits => Nat.pow_le_pow_right (by decide) fits, by decide +kernel⟩
      generalize Json.maxPower = least at far outside
      have tens : 10 ^ (least + 1) ≤ c * 10 ^ power :=
        (Nat.pow_le_pow_right (by decide) far).trans (Nat.le_mul_of_pos_left _ positive)
      have units := Nat.mul_le_mul_right Magnitude.unitsPerOne tens
      have cap := all top fits
      omega
    obtain ⟨y, found, -, hy⟩ := Json.exists_powerOfTen_of_le small
    obtain ⟨z, product⟩ := Magnitude.exists_mul fits hs hy inside
    refine ⟨z, ?_⟩
    have nonzero : s.isZero = false := by
      rw [Magnitude.isZero_eq_false_iff]
      exact Magnitude.unitsPerOne_pos.trans_le one
    rw [scaleByTen_up nonzero small found, product]

end Decimal

end Markup
