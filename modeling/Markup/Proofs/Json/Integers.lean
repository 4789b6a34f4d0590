import Markup.Proofs.Json.Feeding

/-!
# Integers read back

An integer is written as its decimal digits, and a reader takes digits into a significand of at most
64 bits. `Stage.scan_toDigits` says that the digits of a number that fits are taken without losing
any of them. So an integer that fits into 64 bits, signed or unsigned, is read as itself
(`Number.reread_of_fits`), and its text is a numeral (`Number.shaped_of_fits`).
-/

namespace Markup.Json

/-- A number that is an integer of 64 bits, signed or unsigned. -/
def Number.Fits : Number → Prop
  | .integer value => -0x8000000000000000 ≤ value ∧ value < 0x10000000000000000
  | .real _ => False

/-- Whether a number is an integer of 64 bits can be decided. -/
instance : DecidablePred Number.Fits
  | .integer value =>
    inferInstanceAs (Decidable (-0x8000000000000000 ≤ value ∧ value < 0x10000000000000000))
  | .real _ => inferInstanceAs (Decidable False)

/-! ### Digits -/

/-- Reading on in a numeral over two texts is reading over one after the other. -/
theorem Stage.scan_append (stage : Stage) (numeral : Numeral) (text text' : List Char) :
    stage.scan numeral (text ++ text') =
      (stage.scan numeral text).bind fun found => found.1.scan found.2 text' := by
  induction text generalizing stage numeral with
  | nil => rfl
  | cons c text ih =>
    simp only [List.cons_append, scan]
    split
    · exact ih _ _
    · rfl

/-- What is known of the character of a digit: it stands for the digit, and continues a whole
number; at the beginning, it begins one unless it is zero. -/
theorem digitChar_facts {d : Nat} (h : d < 10) :
    Numeral.digitValue (Nat.digitChar d) = d ∧
      Stage.whole.next (Nat.digitChar d) = .goes .whole ∧
      (d ≠ 0 → Stage.sign.next (Nat.digitChar d) = .goes .whole) := by
  revert d
  decide

/-- The numeral of a sign and the digits of a number. -/
def Numeral.ofDigits (negative : Bool) (n : Nat) : Numeral :=
  { Numeral.start negative with significand := n }

/-- A digit that still fits is kept. -/
theorem Numeral.push_ofDigits (negative : Bool) {n d : Nat} (digit : d < 10)
    (fits : n * 10 + d ≤ maxSignificand) :
    (ofDigits negative n).push .whole (Nat.digitChar d) = ofDigits negative (n * 10 + d) := by
  have kept : ¬ maxSignificand < n * 10 + d := by omega
  simp only [push, pushDigit, (digitChar_facts digit).1, ofDigits, start, Bool.false_eq_true, kept,
    or_self, if_false]

/-- The digits of a number that fits are taken one after another. -/
theorem Stage.scan_toDigits (negative : Bool) {n : Nat} (positive : 0 < n)
    (fits : n ≤ Numeral.maxSignificand) :
    Stage.sign.scan (.start negative) (Nat.toDigits 10 n) =
      some (.whole, .ofDigits negative n) := by
  induction n using Nat.strongRecOn with
  | ind n ih =>
    by_cases small : n < 10
    · obtain ⟨value, -, begins⟩ := digitChar_facts small
      have pushed := Numeral.push_ofDigits negative (n := 0) small (by omega)
      rw [Nat.toDigits_of_lt_base small, scan, begins (by omega)]
      rw [Nat.zero_mul, Nat.zero_add] at pushed
      exact congrArg (fun numeral => some (Stage.whole, numeral)) pushed
    · -- All digits but the last are those of the quotient by ten.
      have digit : n % 10 < 10 := Nat.mod_lt n (by decide)
      have parts : n / 10 * 10 + n % 10 = n := by omega
      have front := ih (n / 10) (by omega) (by omega) (by omega)
      have pushed := Numeral.push_ofDigits negative (n := n / 10) digit (by omega)
      rw [parts] at pushed
      rw [Nat.toDigits_of_base_le (by decide) (by omega), scan_append, front, Option.bind_some,
        scan, (digitChar_facts digit).2.1]
      exact congrArg (fun numeral => some (Stage.whole, numeral)) pushed

/-- The digits of a positive number do not begin with a zero. -/
theorem exists_toDigits_eq_cons {n : Nat} (positive : 0 < n) :
    ∃ c digits, Nat.toDigits 10 n = c :: digits ∧ Stage.sign.next c = .goes .whole := by
  induction n using Nat.strongRecOn with
  | ind n ih =>
    by_cases small : n < 10
    · have begins := (digitChar_facts small).2.2 (by omega)
      exact ⟨_, [], Nat.toDigits_of_lt_base small, begins⟩
    · obtain ⟨c, digits, front, begins⟩ := ih (n / 10) (by omega) (by omega)
      refine ⟨c, digits ++ [Nat.digitChar (n % 10)], ?_, begins⟩
      rw [Nat.toDigits_of_base_le (by decide) (by omega), front, List.cons_append]

/-- Digits do not begin with a sign. -/
theorem scanNumeral_toDigits (n : Nat) :
    scanNumeral (Nat.toDigits 10 n) = Stage.sign.scan (.start false) (Nat.toDigits 10 n) := by
  unfold scanNumeral
  split
  · rename_i rest digits
    have isDigit : '-'.isDigit = true := by
      apply Nat.isDigit_of_mem_toDigits (n := n) (b := 10) (by decide) (by decide)
      rw [digits]
      exact List.mem_cons_self
    exact absurd isDigit (by decide)
  · rfl

/-- A sign in front of a numeral without one. -/
theorem scanNumeral_signed (negative : Bool) {text : List Char} {found : Stage × Numeral}
    (scanned : Stage.sign.scan (.start negative) text = some found) :
    scanNumeral ((if negative then "-" else "").toList ++ text) = some found := by
  cases negative with
  | true => exact scanned
  | false =>
    change scanNumeral text = some found
    unfold scanNumeral
    split
    · cases scanned
    · exact scanned

/-! ### Integers -/

/-- A natural number that fits is read as itself. -/
theorem scanNumeral_natural {n : Nat} (fits : n ≤ Numeral.maxSignificand) :
    ∃ stage, scanNumeral (Nat.toDigits 10 n) = some (stage, .ofDigits false n) ∧
      stage.isComplete = true := by
  rw [scanNumeral_toDigits]
  by_cases zero : n = 0
  · subst zero
    exact ⟨.zero, rfl, rfl⟩
  · exact ⟨.whole, Stage.scan_toDigits false (by omega) fits, rfl⟩

/-- The text of an integer that fits is a complete numeral that denotes the integer. -/
theorem scanNumeral_of_fits {n : Number} (fits : n.Fits) :
    ∃ stage numeral, scanNumeral n.text.toList = some (stage, numeral) ∧
      stage.isComplete = true ∧ numeral.number? = some n := by
  cases n with
  | real x => exact fits.elim
  | integer value =>
    obtain ⟨lower, upper⟩ := fits
    cases value with
    | ofNat m =>
      have small : m ≤ Numeral.maxSignificand := by
        have upper : (m : Int) < 0x10000000000000000 := upper
        unfold Numeral.maxSignificand
        omega
      obtain ⟨stage, scanned, complete⟩ := scanNumeral_natural small
      refine ⟨stage, .ofDigits false m, ?_, complete, rfl⟩
      rw [← scanned]
      exact congrArg scanNumeral Nat.toList_repr
    | negSucc m =>
      have small : m + 1 ≤ Numeral.maxNegative := by
        unfold Numeral.maxNegative
        omega
      have scanned := Stage.scan_toDigits true (Nat.succ_pos m)
        (Nat.le_trans small (by decide))
      refine ⟨.whole, .ofDigits true (m + 1), ?_, rfl, ?_⟩
      · rw [← scanned, ← Nat.toList_repr]
        change scanNumeral ("-" ++ (m + 1).repr).toList = _
        rw [String.toList_append]
        rfl
      · have range : 0 < m + 1 ∧ m + 1 ≤ Numeral.maxNegative := ⟨Nat.succ_pos m, small⟩
        simp only [Numeral.number?, Numeral.ofDigits, Numeral.start, and_self, if_true, range]
        rfl

/-- The text of an integer that fits is a numeral. -/
theorem Number.shaped_of_fits {n : Number} (fits : n.Fits) : n.Shaped := by
  obtain ⟨stage, numeral, scanned, complete, -⟩ := scanNumeral_of_fits fits
  exact ⟨stage, numeral, scanned, complete⟩

/-- An integer that fits is read as itself. -/
theorem Number.reread_of_fits {n : Number} (fits : n.Fits) : n.reread = some n := by
  obtain ⟨stage, numeral, scanned, -, denotes⟩ := scanNumeral_of_fits fits
  rw [Number.reread, scanned]
  exact denotes

end Markup.Json
