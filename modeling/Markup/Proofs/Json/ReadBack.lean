import Markup.Proofs.Json.Feeding

/-!
# Numbers that read back

The text of a number that can be read alone is a numeral, so it can also be read inside a larger
text. The argument needs little about the text: it is made of digits, points, signs and exponent
marks (`Double.inNumeral_text`), and a reader that begins a number on such a text can only stay in
the number until the text ends (`Json.Reader.scan_of_outcome`).
-/

namespace Markup

/-- Can the character be part of a numeral? -/
def Json.inNumeral (c : Char) : Bool :=
  c.isDigit || ['-', '+', '.', 'e'].contains c

/-! ### The characters of a number -/

/-- Digits can be part of a numeral. -/
theorem Json.inNumeral_of_isDigit {c : Char} (h : c.isDigit = true) : inNumeral c = true := by
  rw [inNumeral, h, Bool.true_or]

namespace Decimal

open Json (inNumeral inNumeral_of_isDigit)

/-- Digits as they are written out can be part of a numeral. -/
theorem inNumeral_of_mem_toDigits {n : Nat} {c : Char} (h : c ∈ Nat.toDigits 10 n) :
    inNumeral c = true :=
  inNumeral_of_isDigit (Nat.isDigit_of_mem_toDigits (by decide) (by decide) h)

/-- The characters of a decimal without an exponent. -/
theorem inNumeral_positionalText {d : Decimal} {suffix : String}
    (hsuffix : ∀ c ∈ suffix.toList, inNumeral c = true) :
    ∀ c ∈ (d.positionalText suffix).toList, inNumeral c = true := by
  have zeros : ∀ n, ∀ c ∈ List.replicate n '0', inNumeral c = true := by
    intro n c h
    rw [List.eq_of_mem_replicate h]
    rfl
  intro c h
  unfold positionalText at h
  split at h
  · simp only [String.toList_append, String.toList_ofList, List.mem_append] at h
    rcases h with (h | h) | h
    · exact inNumeral_of_mem_toDigits h
    · exact zeros _ c h
    · exact hsuffix c h
  · split at h
    · simp only [String.toList_ofList, List.mem_append, List.mem_cons] at h
      rcases h with h | rfl | h
      · exact inNumeral_of_mem_toDigits (List.mem_of_mem_take h)
      · rfl
      · exact inNumeral_of_mem_toDigits (List.mem_of_mem_drop h)
    · simp only [String.toList_ofList, List.mem_cons, List.mem_append] at h
      rcases h with rfl | rfl | h | h
      · rfl
      · rfl
      · exact zeros _ c h
      · exact inNumeral_of_mem_toDigits h

/-- The characters of a decimal in scientific form. -/
theorem inNumeral_scientificText {d : Decimal} :
    ∀ c ∈ d.scientificText.toList, inNumeral c = true := by
  have digit : ∀ c ∈ d.digits, inNumeral c = true := fun c h => inNumeral_of_mem_toDigits h
  intro c h
  unfold scientificText at h
  simp only [String.toList_ofList, List.mem_append, List.mem_cons] at h
  rcases h with h | rfl | rfl | h
  · split at h
    · rename_i first second rest digits
      rw [digits] at digit
      simp only [List.mem_cons] at h digit
      rcases h with rfl | rfl | h
      · exact digit _ (.inl rfl)
      · rfl
      · exact digit _ (.inr h)
    · exact digit c h
  · rfl
  · split <;> rfl
  · exact inNumeral_of_mem_toDigits h

end Decimal

/-- The text of a finite number is made of characters that can be part of a numeral, if what the
style puts behind whole numbers is. -/
theorem Double.inNumeral_text_of_isFinite {style : NumberStyle}
    (suffix : ∀ c ∈ style.wholeSuffix.toList, Json.inNumeral c = true) {x : Double}
    (finite : x.isFinite = true) : ∀ c ∈ (x.text style).toList, Json.inNumeral c = true := by
  cases x with
  | nan | infinite => cases finite
  | finite negative magnitude =>
    intro c h
    rw [Double.text] at h
    split at h <;> rw [String.toList_append, List.mem_append] at h <;> rcases h with h | h
    · have zero : (if negative && style.signedZero then "-0" else "0").toList.all
          Json.inNumeral = true := by
        cases negative <;> cases style.signedZero <;> decide
      exact List.all_eq_true.1 zero c h
    · exact suffix c h
    · have sign : (if negative then "-" else "").toList.all Json.inNumeral = true := by
        cases negative <;> decide
      exact List.all_eq_true.1 sign c h
    · unfold Decimal.text at h
      split at h
      · exact Decimal.inNumeral_positionalText suffix c h
      · exact Decimal.inNumeral_scientificText c h

/-- The text of a finite number in JSON is made of characters that can be part of a numeral. -/
theorem Double.inNumeral_text {x : Double} (finite : x.isFinite = true) :
    ∀ c ∈ (x.text .exchanged).toList, Json.inNumeral c = true :=
  inNumeral_text_of_isFinite (List.all_eq_true.1 (by decide)) finite

/-! ### Reading a number alone -/

namespace Json

namespace Reader

variable {σ : Type} {sink : Sink σ} {limit : Option Nat}

/-- What can be part of a numeral is not blank. -/
theorem isBlank_of_inNumeral {c : Char} (h : inNumeral c = true) : isBlank c = false := by
  rw [inNumeral, Bool.or_eq_true] at h
  rcases h with h | h
  · exact isBlank_of_isDigit h
  · simp only [List.contains_iff_mem, List.mem_cons, List.not_mem_nil, or_false] at h
    rcases h with rfl | rfl | rfl | rfl <;> rfl

/-- A reader in a numeral that gets to the end of such a text stays in the numeral: the text has
nothing that may follow a number. -/
theorem scan_of_outcome {text : List Char} (chars : ∀ c ∈ text, inNumeral c = true) {stage : Stage}
    {numeral : Numeral} {state final : σ}
    (h : (⟨.numeral stage numeral, [], none, state⟩ : Reader σ).outcome sink limit text =
      .ok final) :
    ∃ stage' numeral', stage.scan numeral text = some (stage', numeral') ∧
      stage'.isComplete = true := by
  induction text generalizing stage numeral with
  | nil =>
    refine ⟨stage, numeral, rfl, ?_⟩
    rw [← Bool.not_eq_false]
    intro incomplete
    rw [outcome_nil] at h
    simp only [finish, incomplete, Bool.false_eq_true, ↓reduceIte] at h
    cases h
  | cons c text ih =>
    have visible := isBlank_of_inNumeral (chars c List.mem_cons_self)
    rw [outcome_cons] at h
    simp only [step] at h
    cases next : stage.next c with
    | goes stage' =>
      rw [next] at h
      obtain ⟨stage'', numeral'', scanned, complete⟩ :=
        ih (fun c mem => chars c (List.mem_cons_of_mem _ mem)) h
      refine ⟨stage'', numeral'', ?_, complete⟩
      rw [Stage.scan, next]
      exact scanned
    | fails =>
      rw [next] at h
      cases h
    | ends =>
      rw [next] at h
      -- the number would be complete, but only the end of the text may follow it
      have surplus : ∀ state, (ready .done [] state : Reader σ).takeBetween sink limit .done c =
          .error .trailingCharacters := by
        intro state
        simp only [takeBetween, visible, Bool.false_eq_true, ↓reduceIte]
      have taken : (⟨.numeral stage numeral, [], none, state⟩ : Reader σ).takeNumeral sink numeral =
          _ := takeNumeral_ready .done [] state numeral
      simp only [taken, bind_assoc] at h
      cases number : sink.number numeral.number? state with
      | error fault =>
        rw [number] at h
        cases h
      | ok state' =>
        rw [number] at h
        change (ready .done [] state' : Reader σ).takeBetween sink limit .done c >>= _ = _ at h
        rw [surplus state'] at h
        cases h

/-- A point or a mark does not begin a number. -/
theorem takeFirst_of_not_goes (r : Reader σ) {c : Char} (member : inNumeral c = true)
    (unsigned : c ≠ '-') (h : ∀ stage, Stage.sign.next c ≠ .goes stage) :
    r.takeFirst sink limit c = .error .expectedValue := by
  unfold takeFirst
  split
  case h_7 => exact absurd rfl unsigned
  case h_8 =>
    split
    · rename_i stage next
      exact absurd next (h stage)
    · rfl
  all_goals exact absurd member (by decide)

/-- A text of such characters that can be read is a numeral. -/
theorem scanNumeral_of_outcome {text : List Char} (chars : ∀ c ∈ text, inNumeral c = true)
    {state final : σ} (h : (Reader.start state).outcome sink limit text = .ok final) :
    ∃ stage numeral, scanNumeral text = some (stage, numeral) ∧ stage.isComplete = true := by
  cases text with
  | nil => cases h
  | cons c text =>
    have member := chars c List.mem_cons_self
    have rest : ∀ c ∈ text, inNumeral c = true := fun c mem => chars c (List.mem_cons_of_mem _ mem)
    have first : (Reader.start state).step sink limit c =
        (Reader.start state).takeFirst sink limit c :=
      step_of_takesValue rfl rfl (isBlank_of_inNumeral member) (by rintro rfl; cases member)
    rw [outcome_cons, first] at h
    by_cases minus : c = '-'
    · subst minus
      exact scan_of_outcome rest h
    · have unsigned : scanNumeral (c :: text) = Stage.sign.scan (.start false) (c :: text) := by
        unfold scanNumeral
        split
        · rename_i eq
          cases eq
          exact absurd rfl minus
        · rfl
      rw [unsigned, Stage.scan]
      cases next : Stage.sign.next c with
      | goes stage =>
        rw [takeFirst_of_goes _ next] at h
        exact scan_of_outcome rest h
      | ends | fails =>
        rw [takeFirst_of_not_goes _ member minus (by simp [next])] at h
        cases h

end Reader

end Json

end Markup
