import Markup.Proofs.Json.Integers

/-!
# Spellings of a document

A document has many texts: blank space may stand between any two lexemes, and a character of a
string can be escaped in several ways. `Spells json text` is the relation between a document and
its texts, for documents whose numbers are integers of 64 bits. `WellFormed text` is the grammar
alone: it says that a text is the text of some value, without saying which, and it allows numbers
out of range and surrogates that are not paired.

Both are told without the reader. That the reader takes every string and every numeral of the
grammar is `Quotation.scan_of_spellsText`, `Quotation.scan_of_quotable` and
`scanNumeral_of_isNumeral`.
-/

namespace Markup.Json

/-! ### Blank space -/

/-- Nothing but blank space. -/
def Blank (text : List Char) : Prop :=
  ∀ c ∈ text, Reader.isBlank c = true

/-- Whether a text is blank can be decided. -/
instance : DecidablePred Blank := fun text => List.decidableBAll _ text

/-- The empty text is blank. -/
theorem blank_nil : Blank [] := by
  simp [Blank]

/-- A text with blank space around it. -/
structure Padded where
  /-- The blank space before the text. -/
  before : List Char
  /-- The text. -/
  text : List Char
  /-- The blank space after the text. -/
  after : List Char
  /-- There is nothing but blank space before the text. -/
  blank_before : Blank before
  /-- There is nothing but blank space after the text. -/
  blank_after : Blank after

namespace Padded

/-- The text and the blank space around it. -/
def chars (p : Padded) : List Char :=
  p.before ++ p.text ++ p.after

/-- A text without blank space around it. -/
def bare (text : List Char) : Padded :=
  ⟨[], text, [], blank_nil, blank_nil⟩

end Padded

/-! ### Strings -/

/-- The escapes of a backslash and one character, with the characters that they stand for. -/
def simpleEscapes : List (Char × Char) :=
  [('"', '"'), ('\\', '\\'), ('/', '/'), ('b', '\x08'), ('f', '\x0c'), ('n', '\n'), ('r', '\r'),
    ('t', '\t')]

/-- A character that can stand between quotes as it is. -/
def Unescaped (c : Char) : Prop :=
  c ≠ '"' ∧ c ≠ '\\' ∧ 0x20 ≤ c.toNat

/-- Whether a character needs no escape can be decided. -/
instance : DecidablePred Unescaped := fun c => inferInstanceAs (Decidable (c ≠ '"' ∧ _))

/-- Four hexadecimal digits that stand for a code. -/
inductive SpellsCode : Nat → List Char → Prop
  /-- The digits have the values of the places. -/
  | mk {a b c d : Char} {i j k l : Nat} (ha : Text.hexDigit? a = some i)
    (hb : Text.hexDigit? b = some j) (hc : Text.hexDigit? c = some k)
    (hd : Text.hexDigit? d = some l) :
    SpellsCode (((i * 16 + j) * 16 + k) * 16 + l) [a, b, c, d]

/-- The ways to write a character between quotes. -/
inductive SpellsChar : Char → List Char → Prop
  /-- As it is. -/
  | plain {c : Char} (h : Unescaped c) : SpellsChar c [c]
  /-- By a simple escape. -/
  | escape {mark c : Char} (h : (mark, c) ∈ simpleEscapes) : SpellsChar c ['\\', mark]
  /-- By its code. -/
  | code {c : Char} {digits : List Char} (h : SpellsCode c.toNat digits) :
    SpellsChar c ('\\' :: 'u' :: digits)
  /-- By the codes of two surrogates. -/
  | pair {c : Char} {lead trail : Nat} {digits digits' : List Char} (first : SpellsCode lead digits)
    (second : SpellsCode trail digits') (isLead : 0xD800 ≤ lead ∧ lead ≤ 0xDBFF)
    (isTrail : 0xDC00 ≤ trail ∧ trail ≤ 0xDFFF)
    (combined : c.toNat = 0x10000 + (lead - 0xD800) * 0x400 + (trail - 0xDC00)) :
    SpellsChar c ('\\' :: 'u' :: digits ++ '\\' :: 'u' :: digits')

/-- The ways to write characters between quotes. -/
inductive SpellsText : List Char → List Char → Prop
  /-- No character. -/
  | nil : SpellsText [] []
  /-- One character, and then others. -/
  | cons {c : Char} {text spelled rest : List Char} (first : SpellsChar c spelled)
    (others : SpellsText text rest) : SpellsText (c :: text) (spelled ++ rest)

/-- The ways to write a text as a string. -/
def SpellsString (s : String) (text : List Char) : Prop :=
  ∃ inside, SpellsText s.toList inside ∧ text = '"' :: inside ++ ['"']

/-- Characters that need no escape can be written as they are. -/
theorem SpellsText.of_unescaped {text : List Char} (h : text.all (Unescaped ·) = true) :
    SpellsText text text := by
  induction text with
  | nil => exact .nil
  | cons c text ih =>
    simp only [List.all_cons, Bool.and_eq_true, decide_eq_true_eq] at h
    exact .cons (.plain h.1) (ih h.2)

/-- A text that needs no escape can stand between quotes as it is. -/
theorem SpellsString.of_unescaped {s : String} (h : s.toList.all (Unescaped ·) = true) :
    SpellsString s ('"' :: s.toList ++ ['"']) :=
  ⟨s.toList, .of_unescaped h, rfl⟩

/-- A character of a quoted text is written in one of its ways. -/
theorem spellsChar_escapedChar (c : Char) : SpellsChar c (escapedChar c) := by
  unfold escapedChar
  split
  case h_8 notQuote notBackslash _ _ _ _ _ =>
    split
    · rename_i control
      obtain ⟨high, -⟩ := Quotation.hexDigit?_digitChar (by omega : c.toNat / 16 < 16)
      obtain ⟨low, -⟩ := Quotation.hexDigit?_digitChar (by omega : c.toNat % 16 < 16)
      have zero : Text.hexDigit? '0' = some 0 := rfl
      have digits := SpellsCode.mk zero zero high low
      have code : ((0 * 16 + 0) * 16 + c.toNat / 16) * 16 + c.toNat % 16 = c.toNat := by omega
      rw [code] at digits
      exact .code digits
    · exact .plain ⟨notQuote, notBackslash, by omega⟩
  all_goals exact .escape (by decide)

/-- A quoted text is one of the ways to write the text as a string. -/
theorem spellsString_quoted (s : String) : SpellsString s (quoted s).toList := by
  refine ⟨s.toList.flatMap escapedChar, ?_, ?_⟩
  · induction s.toList with
    | nil => exact .nil
    | cons c text ih => exact .cons (spellsChar_escapedChar c) ih
  · rw [quoted, String.toList_ofList]
    rfl

/-- What can stand between quotes, whether or not it stands for a text. -/
inductive Quotable : List Char → Prop
  /-- Nothing. -/
  | nil : Quotable []
  /-- A character as it is. -/
  | plain {c : Char} {rest : List Char} (h : Unescaped c) (others : Quotable rest) :
    Quotable (c :: rest)
  /-- A simple escape. -/
  | escape {mark c : Char} {rest : List Char} (h : (mark, c) ∈ simpleEscapes)
    (others : Quotable rest) : Quotable ('\\' :: mark :: rest)
  /-- A code, be it the code of a character or of a surrogate. -/
  | code {n : Nat} {digits rest : List Char} (h : SpellsCode n digits) (others : Quotable rest) :
    Quotable ('\\' :: 'u' :: digits ++ rest)

/-- Quotable texts behind each other are quotable. -/
theorem Quotable.append {text text' : List Char} (h : Quotable text) (h' : Quotable text') :
    Quotable (text ++ text') := by
  induction h with
  | nil => exact h'
  | plain visible _ ih => exact .plain visible ih
  | escape known _ ih => exact .escape known ih
  | @code n digits rest spelled _ ih =>
    rw [List.append_assoc]
    exact .code spelled ih

/-- A character that is written in some way can stand between quotes. -/
theorem SpellsChar.quotable {c : Char} {text : List Char} (h : SpellsChar c text) :
    Quotable text := by
  cases h with
  | plain visible => exact .plain visible .nil
  | escape known => exact .escape known .nil
  | code spelled =>
    rw [← List.append_nil ('\\' :: 'u' :: _)]
    exact .code spelled .nil
  | pair first second =>
    refine .code first ?_
    rw [← List.append_nil ('\\' :: 'u' :: _)]
    exact .code second .nil

/-- A text that is written in some way can stand between quotes. -/
theorem SpellsText.quotable {text spelled : List Char} (h : SpellsText text spelled) :
    Quotable spelled := by
  induction h with
  | nil => exact .nil
  | cons first _ ih => exact first.quotable.append ih

namespace Quotation

/-- The simple escapes are those that a quotation knows. -/
theorem escaped?_of_mem {mark c : Char} (h : (mark, c) ∈ simpleEscapes) :
    escaped? mark = some c ∧ mark ≠ 'u' := by
  simp only [simpleEscapes, List.mem_cons, Prod.mk.injEq, List.not_mem_nil, or_false] at h
  rcases h with h | h | h | h | h | h | h | h <;> obtain ⟨rfl, rfl⟩ := h <;> decide

/-- A hexadecimal digit takes one byte. -/
theorem utf8Size_of_hexDigit? {c : Char} {d : Nat} (h : Text.hexDigit? c = some d) :
    c.utf8Size = 1 := by
  have letter : c ≤ 'f' := by
    unfold Text.hexDigit? at h
    split at h
    · exact Char.le_trans (by assumption : _ ∧ _).2 (by decide)
    · split at h
      · exact (by assumption : _ ∧ _).2
      · split at h
        · exact Char.le_trans (by assumption : _ ∧ _).2 (by decide)
        · simp at h
  rw [Char.utf8Size_eq_one_iff]
  exact UInt32.le_trans letter (by decide)

/-- What is done with a code does not depend on how far the quotation was. -/
theorem takeCode_withSpot (q : Quotation) (spot : Spot) (lead : Option Nat) (n : Nat) :
    ({ q with spot }).takeCode lead n = q.takeCode lead n :=
  rfl

/-- Four hexadecimal digits are taken as their code. -/
theorem scan_of_spellsCode {q : Quotation} {lead : Option Nat}
    (spot : q.spot = .code 0 (some 0) lead) {n : Nat} {digits : List Char}
    (h : SpellsCode n digits) : q.scan digits = (q.takeCode lead n).toOption := by
  obtain @⟨a, b, c, d, i, j, k, l, ha, hb, hc, hd⟩ := h
  cases taken : q.takeCode lead (((i * 16 + j) * 16 + k) * 16 + l) <;>
    simp [scan, step, spot, ha, hb, hc, hd, utf8Size_of_hexDigit? ha, utf8Size_of_hexDigit? hb,
      utf8Size_of_hexDigit? hc, utf8Size_of_hexDigit? hd, takeCode_withSpot, taken, Functor.map,
      Except.map, Except.toOption]

/-- The code of a character is not that of a surrogate. -/
theorem not_surrogate (c : Char) : isTrail c.toNat = false ∧ isLead c.toNat = false := by
  have valid : c.toNat < 0xD800 ∨ 0xDFFF < c.toNat ∧ c.toNat < 0x110000 := c.valid
  simp only [isTrail, isLead, Bool.and_eq_false_iff, decide_eq_false_iff_not]
  omega

section

variable {q : Quotation} (plain : q.spot = .plain)
include plain

/-- A character that needs no escape is taken as it is. -/
theorem scan_unescaped {c : Char} (h : Unescaped c) (rest : List Char) :
    q.scan (c :: rest) = (q.push c).scan rest := by
  obtain ⟨notQuote, notBackslash, visible⟩ := h
  have notControl : ¬ c.toNat < 0x20 := by omega
  simp [scan, step, plain, notQuote, notBackslash, notControl]

/-- A simple escape is taken as the character that it stands for. -/
theorem scan_escape {mark c : Char} (known : (mark, c) ∈ simpleEscapes) (rest : List Char) :
    q.scan ('\\' :: mark :: rest) = (q.push c).scan rest := by
  obtain ⟨escaped, notCode⟩ := escaped?_of_mem known
  simp [scan, step, plain, escaped, notCode, push]

/-- An escape by code goes on with its digits. -/
theorem scan_codeMark (rest : List Char) :
    q.scan ('\\' :: 'u' :: rest) =
      ({ q with spot := .code 0 (some 0) none } : Quotation).scan rest := by
  simp [scan, step, plain]

/-- A character that is written in some way is taken as the character. -/
theorem scan_of_spellsChar (strict : q.lax = false) {c : Char} {text : List Char}
    (h : SpellsChar c text) : q.scan text = some (q.push c) := by
  cases h with
  | plain visible =>
    rw [scan_unescaped plain visible]
    rfl
  | escape known =>
    rw [scan_escape plain known]
    rfl
  | code spelled =>
    obtain ⟨notTrail, notLead⟩ := not_surrogate c
    rw [scan_codeMark plain, scan_of_spellsCode rfl spelled, takeCode_withSpot]
    simp [takeCode, strict, notTrail, notLead, Char.ofNat_toNat, Except.toOption]
  | @pair _ lead trail digits digits' first second leads trails combined =>
    have isLead_lead : isLead lead = true := by
      simp [isLead, leads]
    have notTrail : isTrail lead = false := by
      simp only [isTrail, Bool.and_eq_false_iff, decide_eq_false_iff_not]
      omega
    have isTrail_trail : isTrail trail = true := by
      simp [isTrail, trails]
    have taken : q.takeCode none lead = .ok { q with spot := .paired lead } := by
      simp [takeCode, strict, isLead_lead, notTrail]
    have paired : ({ q with spot := .paired lead } : Quotation).scan ('\\' :: 'u' :: digits') =
        ({ q with spot := .code 0 (some 0) (some lead) } : Quotation).scan digits' := by
      simp [scan, step]
    have completed : q.takeCode (some lead) trail = .ok (q.push c) := by
      have point : combine lead trail = c.toNat := combined.symm
      simp [takeCode, strict, isTrail_trail, point, Char.ofNat_toNat]
    rw [List.cons_append, List.cons_append, scan_codeMark plain, scan_append,
      scan_of_spellsCode rfl first, takeCode_withSpot, taken]
    simp only [Except.toOption, Option.bind_some]
    rw [paired, scan_of_spellsCode rfl second, takeCode_withSpot, completed]
    rfl

/-- A text that is written in some way is taken as the text. -/
theorem scan_of_spellsText (strict : q.lax = false) {text spelled : List Char}
    (h : SpellsText text spelled) :
    q.scan spelled = some { q with chars := text.reverse ++ q.chars } := by
  induction h generalizing q with
  | nil => simp [scan]
  | @cons c _ _ _ first _ ih =>
    have others := ih (q := q.push c) rfl strict
    rw [scan_append, scan_of_spellsChar plain strict first, Option.bind_some, others]
    simp [push, plain]

/-- What can stand between quotes is taken by a lax quotation. -/
theorem scan_of_quotable (lax : q.lax = true) {text : List Char} (h : Quotable text) :
    ∃ q', q.scan text = some q' ∧ q'.spot = .plain := by
  induction h generalizing q with
  | nil => exact ⟨q, rfl, plain⟩
  | @plain c _ visible _ ih =>
    rw [scan_unescaped plain visible]
    exact ih (q := q.push c) rfl lax
  | @escape _ c _ known _ ih =>
    rw [scan_escape plain known]
    exact ih (q := q.push c) rfl lax
  | @code n digits rest spelled _ ih =>
    rw [List.cons_append, List.cons_append, scan_codeMark plain, scan_append,
      scan_of_spellsCode rfl spelled, takeCode_withSpot, takeCode, if_pos lax]
    exact ih (q := { q with spot := .plain }) rfl lax

end

end Quotation

/-! ### Numerals -/

/-- One digit or more. -/
def IsDigits (text : List Char) : Prop :=
  text ≠ [] ∧ ∀ c ∈ text, c.isDigit = true

/-- The digits before the point: a zero alone, or digits that do not begin with one. -/
inductive IsWhole : List Char → Prop
  /-- A zero alone. -/
  | zero : IsWhole ['0']
  /-- Digits that do not begin with a zero. -/
  | digits {c : Char} {rest : List Char} (nonzero : c ≠ '0')
    (are : ∀ d ∈ c :: rest, d.isDigit = true) : IsWhole (c :: rest)

/-- The fraction of a number, if there is one. -/
inductive IsFraction : List Char → Prop
  /-- No fraction. -/
  | none : IsFraction []
  /-- A point and digits. -/
  | some {digits : List Char} (h : IsDigits digits) : IsFraction ('.' :: digits)

/-- The exponent of a number, if there is one. -/
inductive IsExponent : List Char → Prop
  /-- No exponent. -/
  | none : IsExponent []
  /-- A mark, maybe a sign, and digits. -/
  | some {mark : Char} {sign digits : List Char} (marks : mark = 'e' ∨ mark = 'E')
    (signs : sign = [] ∨ sign = ['+'] ∨ sign = ['-']) (h : IsDigits digits) :
    IsExponent (mark :: sign ++ digits)

/-- The text of a number, in range or not. -/
inductive IsNumeral : List Char → Prop
  /-- Maybe a sign, digits, maybe a fraction, maybe an exponent. -/
  | mk {sign whole fraction exponent : List Char} (signs : sign = [] ∨ sign = ['-'])
    (hw : IsWhole whole) (hf : IsFraction fraction) (he : IsExponent exponent) :
    IsNumeral (sign ++ whole ++ fraction ++ exponent)

/-- A text leads a numeral from one stage to another, whatever has been read of it. -/
def Stage.Leads (stage : Stage) (text : List Char) (stage' : Stage) : Prop :=
  ∀ n, ∃ n', stage.scan n text = some (stage', n')

namespace Stage

/-- Nothing leads from a stage to itself. -/
theorem leads_nil (stage : Stage) : stage.Leads [] stage := by
  intro n
  exact ⟨n, rfl⟩

/-- A character and then the rest lead on. -/
theorem Leads.cons {stage stage' final : Stage} {c : Char} {text : List Char}
    (first : stage.next c = .goes stage') (others : stage'.Leads text final) :
    stage.Leads (c :: text) final := by
  intro n
  obtain ⟨n', scanned⟩ := others (n.push stage' c)
  refine ⟨n', ?_⟩
  rw [scan, first]
  exact scanned

/-- Two texts behind each other lead on, one after the other. -/
theorem Leads.append {stage stage' final : Stage} {text text' : List Char}
    (first : stage.Leads text stage') (second : stage'.Leads text' final) :
    stage.Leads (text ++ text') final := by
  intro n
  obtain ⟨n', scanned⟩ := first n
  obtain ⟨n'', scanned'⟩ := second n'
  refine ⟨n'', ?_⟩
  rw [scan_append, scanned, Option.bind_some, scanned']

/-- A stage that digits do not change. -/
def Repeats (stage : Stage) : Prop :=
  ∀ c : Char, c.isDigit = true → stage.next c = .goes stage

/-- Digits lead nowhere else. -/
theorem Repeats.leads {stage : Stage} (repeats : stage.Repeats) {digits : List Char}
    (are : ∀ c ∈ digits, c.isDigit = true) : stage.Leads digits stage := by
  induction digits with
  | nil => exact leads_nil stage
  | cons c digits ih =>
    refine .cons (repeats c (are c List.mem_cons_self)) (ih ?_)
    intro d mem
    exact are d (List.mem_cons_of_mem c mem)

/-- Digits lead to a stage that the first of them leads to. -/
theorem Repeats.leads_of_isDigits {before stage : Stage} (repeats : stage.Repeats)
    (enters : ∀ c : Char, c.isDigit = true → before.next c = .goes stage) {digits : List Char}
    (h : IsDigits digits) : before.Leads digits stage := by
  obtain ⟨nonempty, are⟩ := h
  obtain ⟨c, rest, rfl⟩ := List.exists_cons_of_ne_nil nonempty
  refine .cons (enters c (are c List.mem_cons_self)) (repeats.leads ?_)
  intro d mem
  exact are d (List.mem_cons_of_mem c mem)

/-- Digits can be repeated before the point. -/
theorem repeats_whole : Stage.whole.Repeats := by
  intro c digit
  simp [next, digit]

/-- Digits can be repeated after the point. -/
theorem repeats_fraction : Stage.fraction.Repeats := by
  intro c digit
  simp [next, digit]

/-- Digits can be repeated in the exponent. -/
theorem repeats_exponent : Stage.exponent.Repeats := by
  intro c digit
  simp [next, digit]

/-- The digits before the point. -/
theorem leads_of_isWhole {text : List Char} (h : IsWhole text) :
    ∃ stage, (stage = .zero ∨ stage = .whole) ∧ Stage.sign.Leads text stage := by
  cases h with
  | zero => exact ⟨.zero, .inl rfl, .cons rfl (leads_nil _)⟩
  | @digits c rest nonzero are =>
    refine ⟨.whole, .inr rfl, .cons ?_ (repeats_whole.leads ?_)⟩
    · simp [next, nonzero, are c List.mem_cons_self]
    · intro d mem
      exact are d (List.mem_cons_of_mem c mem)

/-- The fraction. -/
theorem leads_of_isFraction {text : List Char} (h : IsFraction text) {before : Stage}
    (whole : before = .zero ∨ before = .whole) :
    ∃ stage, (stage = .zero ∨ stage = .whole ∨ stage = .fraction) ∧ before.Leads text stage := by
  cases h with
  | none =>
    refine ⟨before, ?_, leads_nil before⟩
    rcases whole with rfl | rfl <;> simp
  | some digits =>
    have pointed : before.next '.' = .goes .point := by
      rcases whole with rfl | rfl <;> rfl
    refine ⟨.fraction, by simp, .cons pointed (repeats_fraction.leads_of_isDigits ?_ digits)⟩
    intro c digit
    simp [next, digit]

/-- The exponent. -/
theorem leads_of_isExponent {text : List Char} (h : IsExponent text) {before : Stage}
    (counted : before = .zero ∨ before = .whole ∨ before = .fraction) :
    ∃ stage, stage.isComplete = true ∧ before.Leads text stage := by
  cases h with
  | none =>
    refine ⟨before, ?_, leads_nil before⟩
    rcases counted with rfl | rfl | rfl <;> rfl
  | @some mark sign digits marks signs are =>
    have marked : before.next mark = .goes .mark := by
      rcases counted with rfl | rfl | rfl <;> rcases marks with rfl | rfl <;> rfl
    have counts : ∀ stage : Stage, stage = .mark ∨ stage = .exponentSign →
        stage.Leads digits .exponent := by
      intro stage h
      apply repeats_exponent.leads_of_isDigits _ are
      intro c digit
      rcases h with rfl | rfl <;> simp [next, digit]
    refine ⟨.exponent, rfl, .cons marked ?_⟩
    rcases signs with rfl | rfl | rfl
    · exact counts .mark (.inl rfl)
    · exact .cons rfl (counts .exponentSign (.inr rfl))
    · exact .cons rfl (counts .exponentSign (.inr rfl))

end Stage

/-- The text of a number is taken as a numeral. -/
theorem scanNumeral_of_isNumeral {text : List Char} (h : IsNumeral text) :
    ∃ stage numeral, scanNumeral text = some (stage, numeral) ∧ stage.isComplete = true := by
  obtain @⟨sign, whole, fraction, exponent, signs, hw, hf, he⟩ := h
  obtain ⟨first, isFirst, leads⟩ := Stage.leads_of_isWhole hw
  obtain ⟨second, isSecond, leads'⟩ := Stage.leads_of_isFraction hf isFirst
  obtain ⟨last, complete, leads''⟩ := Stage.leads_of_isExponent he isSecond
  obtain ⟨negative, sign_eq⟩ : ∃ negative : Bool,
      sign = (if negative then "-" else "").toList := by
    rcases signs with rfl | rfl
    · exact ⟨false, rfl⟩
    · exact ⟨true, rfl⟩
  obtain ⟨n, scanned⟩ := ((leads.append leads').append leads'') (.start negative)
  refine ⟨last, n, ?_, complete⟩
  rw [sign_eq, List.append_assoc, List.append_assoc, ← List.append_assoc whole]
  exact scanNumeral_signed negative scanned

/-- The text of a natural number. -/
theorem isWhole_toDigits (n : Nat) : IsWhole (Nat.toDigits 10 n) := by
  rcases Nat.eq_zero_or_pos n with rfl | positive
  · exact .zero
  · obtain ⟨c, digits, digits_eq, begins⟩ := exists_toDigits_eq_cons positive
    have are : ∀ d ∈ c :: digits, d.isDigit = true := by
      rw [← digits_eq]
      exact fun d mem => Nat.isDigit_of_mem_toDigits (by decide) (by decide) mem
    rw [digits_eq]
    refine .digits ?_ are
    rintro rfl
    simp [Stage.next] at begins

/-- The text of an integer is that of a number. -/
theorem isNumeral_repr (n : Int) : IsNumeral n.repr.toList := by
  have plain : ∀ m : Nat, ∀ sign : List Char, sign = [] ∨ sign = ['-'] →
      IsNumeral (sign ++ Nat.toDigits 10 m) := by
    intro m sign signs
    have text := IsNumeral.mk signs (isWhole_toDigits m) .none .none
    rwa [List.append_nil, List.append_nil] at text
  cases n with
  | ofNat m =>
    have natural := plain m [] (.inl rfl)
    rwa [← Nat.toList_repr] at natural
  | negSucc m =>
    have negative := plain (m + 1) ['-'] (.inr rfl)
    rw [← Nat.toList_repr] at negative
    change IsNumeral ("-" ++ (m + 1).repr).toList
    rwa [String.toList_append]

/-! ### Values -/

/-- The character that opens a container. -/
def Bracket.opening : Bracket → Char
  | .list => '['
  | .object => '\x7b'

/-- A container around a text. -/
def Bracket.around (bracket : Bracket) (inside : List Char) : List Char :=
  bracket.opening :: inside ++ [bracket.closing]

/-- The text of a member: its name, a colon and its value. -/
def memberText (member : Padded × Padded) : List Char :=
  member.1.chars ++ ':' :: member.2.chars

/-- The text of a value. -/
inductive WellFormed : List Char → Prop
  /-- A word. -/
  | word {text : List Char} (h : text ∈ ["null".toList, "true".toList, "false".toList]) :
    WellFormed text
  /-- A number, in range or not. -/
  | numeral {text : List Char} (h : IsNumeral text) : WellFormed text
  /-- A string, whether or not it stands for a text. -/
  | string {inside : List Char} (h : Quotable inside) : WellFormed ('"' :: inside ++ ['"'])
  /-- A container with nothing in it. -/
  | empty (bracket : Bracket) {inside : List Char} (h : Blank inside) :
    WellFormed (bracket.around inside)
  /-- A list. -/
  | list {items : List Padded} (nonempty : items ≠ []) (h : ∀ p ∈ items, WellFormed p.text) :
    WellFormed (Bracket.list.around ([','].intercalate (items.map Padded.chars)))
  /-- An object. -/
  | object {members : List (Padded × Padded)} (nonempty : members ≠ [])
    (names : ∀ m ∈ members, ∃ inside, Quotable inside ∧ m.1.text = '"' :: inside ++ ['"'])
    (h : ∀ m ∈ members, WellFormed m.2.text) :
    WellFormed (Bracket.object.around ([','].intercalate (members.map memberText)))

/-- The texts of a document. -/
inductive Spells : Json → List Char → Prop
  /-- The word `null`. -/
  | null : Spells .null "null".toList
  /-- A truth value. -/
  | boolean (value : Bool) : Spells (.boolean value) (if value then "true" else "false").toList
  /-- An integer of 64 bits, signed or unsigned. -/
  | integer {value : Int} (fits : (Number.integer value).Fits) :
    Spells (.number (.integer value)) value.repr.toList
  /-- A text. -/
  | string {s : String} {text : List Char} (h : SpellsString s text) : Spells (.string s) text
  /-- A list without items. -/
  | emptyList {inside : List Char} (h : Blank inside) :
    Spells (.array []) (Bracket.list.around inside)
  /-- An object without members. -/
  | emptyObject {inside : List Char} (h : Blank inside) :
    Spells (.object []) (Bracket.object.around inside)
  /-- A list. -/
  | list {items : List (Padded × Json)} (nonempty : items ≠ [])
    (h : ∀ p ∈ items, Spells p.2 p.1.text) :
    Spells (.array (items.map Prod.snd))
      (Bracket.list.around ([','].intercalate (items.map fun p => p.1.chars)))
  /-- An object. -/
  | object {members : List ((Padded × Padded) × (String × Json))} (nonempty : members ≠ [])
    (names : ∀ m ∈ members, SpellsString m.2.1 m.1.1.text)
    (h : ∀ m ∈ members, Spells m.2.2 m.1.2.text) :
    Spells (.object (members.map Prod.snd))
      (Bracket.object.around ([','].intercalate (members.map fun m => memberText m.1)))

/-- An object without any blank space is written as its members, divided by commas. -/
theorem Spells.bareObject (members : List ((List Char × List Char) × (String × Json)))
    (nonempty : members ≠ []) (names : ∀ m ∈ members, SpellsString m.2.1 m.1.1)
    (h : ∀ m ∈ members, Spells m.2.2 m.1.2) :
    Spells (.object (members.map Prod.snd)) (Bracket.object.around
      ([','].intercalate (members.map fun m => m.1.1 ++ ':' :: m.1.2))) := by
  let padded := members.map fun m => ((Padded.bare m.1.1, Padded.bare m.1.2), m.2)
  have spelled : Spells (.object (padded.map Prod.snd)) (Bracket.object.around
      ([','].intercalate (padded.map fun m => memberText m.1))) := by
    refine .object (by simpa [padded] using nonempty) ?_ ?_
    · intro m mem
      obtain ⟨member, member_mem, rfl⟩ := List.mem_map.1 mem
      exact names member member_mem
    · intro m mem
      obtain ⟨member, member_mem, rfl⟩ := List.mem_map.1 mem
      exact h member member_mem
  simpa [padded, Function.comp_def, memberText, Padded.chars, Padded.bare] using spelled

/-- The text of a document is the text of a value. -/
theorem Spells.wellFormed {json : Json} {text : List Char} (h : Spells json text) :
    WellFormed text := by
  induction h with
  | null => exact .word (by simp)
  | boolean value => exact .word (by cases value <;> simp)
  | integer _ => exact .numeral (isNumeral_repr _)
  | string spelled =>
    obtain ⟨inside, written, rfl⟩ := spelled
    exact .string written.quotable
  | emptyList blank => exact .empty .list blank
  | emptyObject blank => exact .empty .object blank
  | @list items nonempty _ ih =>
    have text : items.map (fun p => p.1.chars) = (items.map Prod.fst).map Padded.chars := by
      rw [List.map_map]
      rfl
    rw [text]
    refine .list (by simpa using nonempty) ?_
    intro p mem
    obtain ⟨item, item_mem, rfl⟩ := List.mem_map.1 mem
    exact ih item item_mem
  | @object members nonempty names _ ih =>
    have text : members.map (fun m => memberText m.1) =
        (members.map Prod.fst).map memberText := by
      rw [List.map_map]
      rfl
    rw [text]
    refine .object (by simpa using nonempty) ?_ ?_
    · intro m mem
      obtain ⟨member, member_mem, rfl⟩ := List.mem_map.1 mem
      obtain ⟨inside, written, name⟩ := names member member_mem
      exact ⟨inside, written.quotable, name⟩
    · intro m mem
      obtain ⟨member, member_mem, rfl⟩ := List.mem_map.1 mem
      exact ih member member_mem

end Markup.Json
