import Markup.Json.Reader

/-!
# Reading words, numerals and quotations

`Reader.outcome` is what becomes of a reader that is given the rest of a text. It goes through the
text one character at a time, so a lexeme in front of the text can be taken off as a whole:

* `Reader.outcome_word`: a word is taken as its scalar.
* `Reader.outcome_numeral`: a numeral is taken as such, where what follows cannot continue it.
* `Reader.outcome_quoted` and `Reader.outcome_quotedName`: a text in its written form is taken as
  the text, whatever characters are in it.
-/

namespace Markup.Json

/-! ### What follows a value -/

/-- The text is at its end, or goes on with blank space, a separator or a closing bracket. -/
def Delimited (rest : List Char) : Prop :=
  ∀ c ∈ rest.head?, Reader.isBlank c = true ∨ c = ',' ∨ c = ']' ∨ c = '\x7d'

/-- The end of a text ends a lexeme. -/
theorem delimited_nil : Delimited [] := by
  intro c h
  cases h

/-- So does a comma or a closing bracket. -/
theorem delimited_cons {c : Char} (h : c = ',' ∨ c = ']' ∨ c = '\x7d') (rest : List Char) :
    Delimited (c :: rest) := by
  intro c' h'
  cases h'
  exact .inr h

/-- Blank space is one of four characters. -/
theorem eq_of_isBlank {c : Char} (blank : Reader.isBlank c = true) :
    c = ' ' ∨ c = '\n' ∨ c = '\t' ∨ c = '\r' := by
  simpa [Reader.isBlank, or_assoc] using blank

/-- What follows a complete numeral does not continue it. -/
theorem Stage.next_of_delimited {stage : Stage} (complete : stage.isComplete = true) {c : Char}
    {rest : List Char} (h : Delimited (c :: rest)) : stage.next c = .ends := by
  have follows : c = ' ' ∨ c = '\n' ∨ c = '\t' ∨ c = '\r' ∨ c = ',' ∨ c = ']' ∨ c = '\x7d' := by
    rcases h c rfl with blank | rest
    · rcases eq_of_isBlank blank with h | h | h | h <;> simp [h]
    · simp [rest]
  cases stage with
  | sign | point | mark | exponentSign => cases complete
  | zero | whole | fraction | exponent =>
    rcases follows with rfl | rfl | rfl | rfl | rfl | rfl | rfl <;> rfl

/-- May a value begin at the place? -/
def Place.takesValue : Place → Bool
  | .value | .item | .first .list => true
  | _ => false

/-! ### Numerals -/

/-- Reads on in a numeral; `none` if a character does not continue it. -/
def Stage.scan : Stage → Numeral → List Char → Option (Stage × Numeral)
  | stage, numeral, [] => some (stage, numeral)
  | stage, numeral, c :: text =>
    match stage.next c with
    | .goes next => next.scan (numeral.push next c) text
    | _ => none

/-- Reads a numeral from its first character on. -/
def scanNumeral : List Char → Option (Stage × Numeral)
  | '-' :: text => Stage.sign.scan (.start true) text
  | text => Stage.sign.scan (.start false) text

/-- A complete numeral begins with a sign, or with a character that goes on from where a sign would
leave off. -/
theorem scanNumeral_cases {text : List Char} {stage : Stage} {numeral : Numeral}
    (scanned : scanNumeral text = some (stage, numeral)) (complete : stage.isComplete = true) :
    (∃ rest, text = '-' :: rest ∧ Stage.sign.scan (.start true) rest = some (stage, numeral)) ∨
      ∃ c rest first, text = c :: rest ∧ Stage.sign.next c = .goes first ∧
        first.scan ((Numeral.start false).push first c) rest = some (stage, numeral) := by
  unfold scanNumeral at scanned
  split at scanned
  · exact .inl ⟨_, rfl, scanned⟩
  · cases text with
    | nil =>
      cases scanned
      cases complete
    | cons c rest =>
      rw [Stage.scan] at scanned
      split at scanned
      · rename_i first continues
        exact .inr ⟨c, rest, first, rfl, continues, scanned⟩
      · cases scanned

/-! ### Quotations -/

namespace Quotation

/-- Reads on in a quotation that the text does not close; `none` if there is a fault. -/
def scan : Quotation → List Char → Option Quotation
  | q, [] => some q
  | q, c :: text =>
    match q.step c with
    | .ok (some next) => next.scan text
    | _ => none

/-- Scanning two texts behind each other is scanning one and then the other. -/
theorem scan_append (q : Quotation) (text text' : List Char) :
    q.scan (text ++ text') = (q.scan text).bind (·.scan text') := by
  induction text generalizing q with
  | nil => rfl
  | cons c text ih =>
    simp only [List.cons_append, scan]
    split
    · exact ih _
    · rfl

/-- A hexadecimal digit is read as what it stands for. -/
theorem hexDigit?_digitChar {d : Nat} (h : d < 16) :
    Text.hexDigit? (Nat.digitChar d) = some d ∧ (Nat.digitChar d).utf8Size = 1 := by
  revert d
  decide

/-- The escape of a control character is read as an escape by code. -/
theorem scan_code {q : Quotation} (plain : q.spot = .plain) {n : Nat} (h : n < 0x20) :
    q.scan ['\\', 'u', '0', '0', Nat.digitChar (n / 16), Nat.digitChar (n % 16)] =
      some (if q.lax then { q with spot := .plain } else q.push (.ofNat n)) := by
  obtain ⟨high, highSize⟩ := hexDigit?_digitChar (d := n / 16) (by omega)
  obtain ⟨low, lowSize⟩ := hexDigit?_digitChar (d := n % 16) (by omega)
  have zero : Text.hexDigit? '0' = some 0 ∧ '0'.utf8Size = 1 := by decide
  have code : n / 16 * 16 + n % 16 = n := by omega
  have notTrail : isTrail n = false := by simp [isTrail]; omega
  have notLead : isLead n = false := by simp [isLead]; omega
  cases hlax : q.lax <;>
    simp [scan, step, plain, high, highSize, low, lowSize, zero, code, takeCode, notTrail, notLead,
      hlax, push, Functor.map, Except.map]

/-- The written form of a character is read as the character. A lax quotation may miss it. -/
theorem scan_escapedChar {q : Quotation} (plain : q.spot = .plain) (c : Char) :
    ∃ q', q.scan (escapedChar c) = some q' ∧ q'.spot = .plain ∧ q'.lax = q.lax ∧
      (q.lax = false → q'.chars = c :: q.chars) := by
  unfold escapedChar
  split
  case h_8 _ notQuote notBackslash _ _ _ _ _ =>
    split
    · rename_i control
      refine ⟨_, scan_code plain control, ?_⟩
      cases hlax : q.lax <;> simp [push, hlax, Char.ofNat_toNat]
    · rename_i visible
      refine ⟨q.push c, ?_, rfl, rfl, fun _ => rfl⟩
      have h : c ≠ '"' ∧ c ≠ '\\' := ⟨notQuote, notBackslash⟩
      simp [scan, step, plain, h, visible]
  all_goals
    refine ⟨q.push _, ?_, rfl, rfl, fun _ => rfl⟩
    simp [scan, step, plain, escaped?, push]

/-- The written form of a text is read as the text. A lax quotation may miss some of it. -/
theorem scan_escaped (text : List Char) {q : Quotation} (plain : q.spot = .plain) :
    ∃ q', q.scan (text.flatMap escapedChar) = some q' ∧ q'.spot = .plain ∧ q'.lax = q.lax ∧
      (q.lax = false → q'.chars = text.reverse ++ q.chars) := by
  induction text generalizing q with
  | nil => exact ⟨q, rfl, plain, rfl, fun _ => rfl⟩
  | cons c text ih =>
    obtain ⟨q₁, scan₁, plain₁, lax₁, chars₁⟩ := scan_escapedChar plain c
    obtain ⟨q₂, scan₂, plain₂, lax₂, chars₂⟩ := ih plain₁
    refine ⟨q₂, ?_, plain₂, lax₂.trans lax₁, fun strict => ?_⟩
    · rw [List.flatMap_cons, scan_append, scan₁, Option.bind_some, scan₂]
    · rw [chars₂ (lax₁.trans strict), chars₁ strict, List.reverse_cons, List.append_assoc]
      rfl

end Quotation

namespace Reader

variable {σ : Type} (sink : Sink σ) (limit : Option Nat)

/-! ### The outcome of the rest of a text -/

/-- What becomes of a reader that is given the rest of a text. -/
def outcome (r : Reader σ) (text : List Char) : Except Fault σ :=
  r.run sink limit text >>= fun r => r.finish sink

/-- Reading a text is the outcome of a fresh reader. -/
theorem read_eq_outcome (state : σ) (text : String) :
    Json.read sink limit state text = (Reader.start state).outcome sink limit text.toList :=
  rfl

/-- At the end of the text, the reader finishes. -/
theorem outcome_nil (r : Reader σ) : r.outcome sink limit [] = r.finish sink :=
  rfl

/-- One character is taken, then the others. -/
theorem outcome_cons (r : Reader σ) (c : Char) (text : List Char) :
    r.outcome sink limit (c :: text) =
      r.step sink limit c >>= fun r => r.outcome sink limit text := by
  unfold outcome run
  rw [List.foldlM_cons, bind_assoc]

variable {sink limit}

/-- A character that is taken without a fault can be taken off the text. -/
theorem outcome_of_step {r r' : Reader σ} {c : Char} (h : r.step sink limit c = .ok r')
    (text : List Char) : r.outcome sink limit (c :: text) = r'.outcome sink limit text := by
  rw [outcome_cons, h]
  rfl

/-- Where a value may begin, a character that is neither blank nor a closing bracket begins one. -/
theorem step_of_takesValue {r : Reader σ} {place : Place} (phase : r.phase = .between place)
    (takes : place.takesValue = true) {c : Char} (visible : isBlank c = false) (open_ : c ≠ ']') :
    r.step sink limit c = r.takeFirst sink limit c := by
  unfold step
  rw [phase]
  unfold takeBetween
  cases place with
  | value | item => simp [visible, open_]
  | first bracket => cases bracket <;> simp_all [Place.takesValue]
  | name | colon | next | surplus | done => cases takes

/-- Taking a scalar ends whatever the reader was in the middle of. -/
theorem takeScalar_withPhase (r : Reader σ) (phase : Phase) (scalar : Scalar) :
    ({ r with phase }).takeScalar sink scalar = r.takeScalar sink scalar :=
  rfl

/-! ### Words -/

/-- The rest of a word is taken as the scalar of the word. -/
theorem outcome_restOfWord (r : Reader σ) (c : Char) (word : List Char) (scalar : Scalar)
    (rest : List Char) :
    ({ r with phase := .word (c :: word) scalar }).outcome sink limit (c :: word ++ rest) =
      r.takeScalar sink scalar >>= fun r => r.outcome sink limit rest := by
  induction word generalizing c with
  | nil =>
    rw [List.singleton_append, outcome_cons, ← takeScalar_withPhase r (.word [c] scalar)]
    simp only [step, ne_eq, not_true_eq_false, ↓reduceIte, List.isEmpty_nil]
  | cons c' word ih =>
    refine (outcome_of_step ?_ _).trans (ih c')
    simp only [step, ne_eq, not_true_eq_false, ↓reduceIte, List.isEmpty_cons, Bool.false_eq_true]

/-- A word is taken as its scalar. -/
theorem outcome_word {r : Reader σ} {place : Place} (phase : r.phase = .between place)
    (takes : place.takesValue = true) (json : Json) {scalar : Scalar}
    (h : (json = .null ∧ scalar = .null) ∨ ∃ b, json = .boolean b ∧ scalar = .boolean b)
    (rest : List Char) :
    r.outcome sink limit (json.compact.toList ++ rest) =
      r.takeScalar sink scalar >>= fun r => r.outcome sink limit rest := by
  rcases h with ⟨rfl, rfl⟩ | ⟨b, rfl, rfl⟩
  · refine (outcome_of_step ?_ _).trans (outcome_restOfWord r 'u' ['l', 'l'] .null rest)
    exact step_of_takesValue phase takes rfl (by decide)
  · cases b with
    | true =>
      refine (outcome_of_step ?_ _).trans (outcome_restOfWord r 'r' ['u', 'e'] (.boolean true) rest)
      exact step_of_takesValue phase takes rfl (by decide)
    | false =>
      refine (outcome_of_step ?_ _).trans
        (outcome_restOfWord r 'a' ['l', 's', 'e'] (.boolean false) rest)
      exact step_of_takesValue phase takes rfl (by decide)

/-! ### Quotations -/

/-- The inside of a quotation is taken, be it a value or a name. -/
theorem outcome_scan {wrap : Quotation → Phase} (h : wrap = .text ∨ wrap = .key) (r : Reader σ)
    {q q' : Quotation} {text : List Char} (scanned : q.scan text = some q') (rest : List Char) :
    ({ r with phase := wrap q }).outcome sink limit (text ++ rest) =
      ({ r with phase := wrap q' }).outcome sink limit rest := by
  induction text generalizing q with
  | nil =>
    cases scanned
    rfl
  | cons c text ih =>
    rw [Quotation.scan] at scanned
    split at scanned
    · rename_i next stepped
      refine (outcome_of_step ?_ _).trans (ih scanned)
      rcases h with rfl | rfl <;> simp only [step, stepped] <;> rfl
    · cases scanned

/-- The outcome of the written form of a text after its opening quote: it comes to the closing
quote, and unless the reader is lax, with the whole text. -/
theorem outcome_quotedRest (sink : Sink σ) (limit : Option Nat) {wrap : Quotation → Phase}
    (h : wrap = .text ∨ wrap = .key) (r : Reader σ) (text : String) (rest : List Char) :
    ∃ q : Quotation, q.step '"' = .ok none ∧ (r.lax = false → q.text = text) ∧
      ({ r with phase := wrap (.start r.lax) }).outcome sink limit
          (text.toList.flatMap escapedChar ++ ['"'] ++ rest) =
        ({ r with phase := wrap q }).outcome sink limit ('"' :: rest) := by
  obtain ⟨q, scanned, plain, -, chars⟩ :=
    Quotation.scan_escaped text.toList (q := .start r.lax) rfl
  refine ⟨q, ?_, fun strict => ?_, ?_⟩
  · simp only [Quotation.step, plain, ↓reduceIte]
  · rw [Quotation.text, chars strict, Quotation.start, List.append_nil, List.reverse_reverse,
      String.ofList_toList]
  · rw [List.append_assoc, outcome_scan h r scanned, List.singleton_append]

/-- A text in its written form is taken as the text. -/
theorem outcome_quoted {r : Reader σ} {place : Place} (phase : r.phase = .between place)
    (takes : place.takesValue = true) (text : String) (rest : List Char) :
    r.outcome sink limit ((quoted text).toList ++ rest) =
      r.takeScalar sink (.string text) >>= fun r => r.outcome sink limit rest := by
  obtain ⟨q, closing, whole, outcome_eq⟩ :=
    outcome_quotedRest sink limit (.inl rfl) r text rest
  have opening : r.step sink limit '"' = .ok { r with phase := .text (.start r.lax) } :=
    step_of_takesValue phase takes rfl (by decide)
  have taken : r.takeScalar sink (.string q.text) = r.takeScalar sink (.string text) := by
    cases hlax : r.lax with
    | true => simp only [takeScalar, hlax, ↓reduceIte]
    | false => rw [whole hlax]
  rw [quoted, String.toList_ofList, List.cons_append, outcome_of_step opening, outcome_eq,
    outcome_cons, ← taken, ← takeScalar_withPhase r (.text q)]
  simp only [step, closing]
  rfl

/-- A name in its written form is taken as the name. -/
theorem outcome_quotedName {r : Reader σ} {place : Place} (phase : r.phase = .between place)
    (takes : place = .name ∨ place = .first .object) (name : String) (rest : List Char) :
    r.outcome sink limit ((quoted name).toList ++ rest) =
      r.takeName sink name >>= fun r => r.outcome sink limit rest := by
  obtain ⟨q, closing, whole, outcome_eq⟩ :=
    outcome_quotedRest sink limit (.inr rfl) r name rest
  have opening : r.step sink limit '"' = .ok { r with phase := .key (.start r.lax) } := by
    rcases takes with rfl | rfl <;> simp [step, phase, takeBetween, isBlank]
  have taken : r.takeName sink q.text = r.takeName sink name := by
    cases hlax : r.lax with
    | true => simp only [takeName, hlax, ↓reduceIte]
    | false => rw [whole hlax]
  have ended : ({ r with phase := .key q }).takeName sink q.text = r.takeName sink q.text := rfl
  rw [quoted, String.toList_ofList, List.cons_append, outcome_of_step opening, outcome_eq,
    outcome_cons, ← taken, ← ended]
  simp only [step, closing]
  rfl

/-! ### Numerals -/

/-- The characters of a numeral are taken one after another. -/
theorem outcome_scanNumeral (r : Reader σ) {text : List Char} {stage stage' : Stage}
    {numeral numeral' : Numeral} (scanned : stage.scan numeral text = some (stage', numeral'))
    (rest : List Char) :
    ({ r with phase := .numeral stage numeral }).outcome sink limit (text ++ rest) =
      ({ r with phase := .numeral stage' numeral' }).outcome sink limit rest := by
  induction text generalizing stage numeral with
  | nil =>
    cases scanned
    rfl
  | cons c text ih =>
    rw [Stage.scan] at scanned
    split at scanned
    · rename_i next continues
      refine (outcome_of_step ?_ _).trans (ih scanned)
      simp only [step, continues]
    · cases scanned

/-- Taking a numeral ends whatever the reader was in the middle of. -/
theorem takeNumeral_withPhase (r : Reader σ) (phase : Phase) (numeral : Numeral) :
    ({ r with phase }).takeNumeral sink numeral = r.takeNumeral sink numeral :=
  rfl

/-- A complete numeral is taken where what follows does not continue it. After it, the reader has
to be where the numeral leaves it. -/
theorem outcome_endOfNumeral (r : Reader σ) {stage : Stage} (complete : stage.isComplete = true)
    (numeral : Numeral)
    (settled : ∀ r', r.takeNumeral sink numeral = .ok r' → r'.phase = .between r'.following)
    {rest : List Char} (delimited : Delimited rest) :
    ({ r with phase := .numeral stage numeral }).outcome sink limit rest =
      r.takeNumeral sink numeral >>= fun r => r.outcome sink limit rest := by
  cases rest with
  | nil =>
    have ends : ({ r with phase := .numeral stage numeral }).outcome sink limit [] =
        r.takeNumeral sink numeral >>= fun r => r.finishBetween r.following := by
      rw [outcome_nil]
      simp only [finish, complete, ↓reduceIte, takeNumeral_withPhase]
    rw [ends]
    cases taken : r.takeNumeral sink numeral with
    | error fault => rfl
    | ok r' =>
      change r'.finishBetween r'.following = r'.finish sink
      simp only [finish, settled r' taken]
  | cons c rest =>
    rw [outcome_cons]
    simp only [step, Stage.next_of_delimited complete delimited, takeNumeral_withPhase, bind_assoc]
    cases taken : r.takeNumeral sink numeral with
    | error fault => rfl
    | ok r' =>
      change r'.takeBetween sink limit r'.following c >>= _ = r'.outcome sink limit (c :: rest)
      rw [outcome_cons]
      simp only [step, settled r' taken]

/-- A character that begins a numeral is a digit. -/
theorem isDigit_of_goes {c : Char} {stage : Stage} (h : Stage.sign.next c = .goes stage) :
    c.isDigit = true := by
  simp only [Stage.next] at h
  split at h
  · rename_i zero
    rw [zero]
    rfl
  · split at h
    · assumption
    · cases h

/-- A digit is not blank. -/
theorem isBlank_of_isDigit {c : Char} (h : c.isDigit = true) : isBlank c = false := by
  rw [← Bool.not_eq_true]
  intro blank
  rcases eq_of_isBlank blank with rfl | rfl | rfl | rfl <;> exact absurd h (by decide)

/-- A character that begins a numeral is neither blank nor closes a list. -/
theorem begins_of_goes {c : Char} {stage : Stage} (h : Stage.sign.next c = .goes stage) :
    isBlank c = false ∧ c ≠ ']' := by
  have digit := isDigit_of_goes h
  refine ⟨isBlank_of_isDigit digit, ?_⟩
  rintro rfl
  exact absurd digit (by decide)

/-- A digit begins a numeral. -/
theorem takeFirst_of_goes (r : Reader σ) {c : Char} {stage : Stage}
    (h : Stage.sign.next c = .goes stage) :
    r.takeFirst sink limit c =
      .ok { r with phase := .numeral stage ((Numeral.start false).push stage c) } := by
  have digit := isDigit_of_goes h
  unfold takeFirst
  split
  case h_8 => rw [h]
  all_goals exact absurd digit (by decide)

/-- A numeral is taken as such. -/
theorem outcome_numeral {r : Reader σ} {place : Place} (phase : r.phase = .between place)
    (takes : place.takesValue = true) {text : List Char} {stage : Stage} {numeral : Numeral}
    (scanned : scanNumeral text = some (stage, numeral)) (complete : stage.isComplete = true)
    (settled : ∀ r', r.takeNumeral sink numeral = .ok r' → r'.phase = .between r'.following)
    {rest : List Char} (delimited : Delimited rest) :
    r.outcome sink limit (text ++ rest) =
      r.takeNumeral sink numeral >>= fun r => r.outcome sink limit rest := by
  rw [← outcome_endOfNumeral r complete numeral settled delimited]
  rcases scanNumeral_cases scanned complete with
    ⟨tail, rfl, scanned⟩ | ⟨c, tail, first, rfl, continues, scanned⟩
  · refine (outcome_of_step ?_ _).trans (outcome_scanNumeral r scanned rest)
    exact step_of_takesValue phase takes rfl (by decide)
  · obtain ⟨visible, begins⟩ := begins_of_goes continues
    refine (outcome_of_step ?_ _).trans (outcome_scanNumeral r scanned rest)
    rw [step_of_takesValue phase takes visible begins, takeFirst_of_goes r continues]

end Reader

end Markup.Json
