import Markup.Proofs.Json.Lexemes

/-!
# The nesting limit of a reader

A text can be read with a limit on the number of containers that are open at once, or without one.
The limit changes nothing else (`Json.read_curbed`): under it, a text is read to the same result or
the same fault, or to the fault that says that the limit was exceeded. Then there is a point of the
text where too many containers are open.

The containers that are open are counted on the text alone, by a machine with two registers that
knows of brackets, quotes and backslashes (`Nesting`, `openContainers`). A reader has much more to
remember, but `Reader.nesting` is the part of its state that the machine keeps, and every step of a
reader without a limit is a step of the machine (`Reader.ensures_step`). A step under a limit is the
same step, or an opening bracket too many (`Reader.step_curbed`).

There is one exception. An escape by code takes four bytes before it looks at them, so a reader that
has met a wrong digit may go on in a quotation that the machine takes to be over. But such a reader
can only fail (`Spot.Doomed`), and not for nesting.
-/

namespace Markup.Json

/-! ### Open containers -/

/-- Where a text stands with regard to its quotations. -/
inductive Quoting
  /-- Not in a quotation. -/
  | outside
  /-- In a quotation. -/
  | inside
  /-- In a quotation, after a backslash. -/
  | escape
deriving DecidableEq

/-- What is counted of a text. -/
structure Nesting where
  /-- The number of containers that are open. -/
  depth : Nat
  /-- Where the text stands. -/
  quoting : Quoting
deriving DecidableEq

namespace Nesting

/-- Before the first character. -/
def start : Nesting :=
  ⟨0, .outside⟩

/-- Counts one character. -/
def step (s : Nesting) (c : Char) : Nesting :=
  match s.quoting with
  | .outside =>
    if c = '[' ∨ c = '\x7b' then { s with depth := s.depth + 1 }
    else if c = ']' ∨ c = '\x7d' then { s with depth := s.depth - 1 }
    else if c = '"' then { s with quoting := .inside }
    else s
  | .inside =>
    if c = '"' then { s with quoting := .outside }
    else if c = '\\' then { s with quoting := .escape }
    else s
  | .escape => { s with quoting := .inside }

end Nesting

/-- The number of lists and objects that are open at the end of a text. -/
def openContainers (text : List Char) : Nat :=
  (text.foldl Nesting.step .start).depth

/-- Brackets in a quotation do not count, and neither does an escaped quote end it. -/
example : openContainers ['[', '\x7b', '"', ']', '\\', '"', '[', '"', ':', '['] = 3 := by decide

/-- The character is a bracket or a quote. -/
def Structural (c : Char) : Prop :=
  c ∈ ['[', '\x7b', ']', '\x7d', '"']

/-- Whether a character is structural can be decided. -/
instance (c : Char) : Decidable (Structural c) :=
  inferInstanceAs (Decidable (c ∈ _))

/-- The five characters. -/
theorem structural_iff {c : Char} :
    Structural c ↔ c = '[' ∨ c = '\x7b' ∨ c = ']' ∨ c = '\x7d' ∨ c = '"' := by
  simp only [Structural, List.mem_cons, List.not_mem_nil, or_false]

/-- Other characters do not count outside of quotations. -/
theorem Nesting.step_of_not_structural {c : Char} (h : ¬ Structural c) (depth : Nat) :
    (⟨depth, .outside⟩ : Nesting).step c = ⟨depth, .outside⟩ := by
  simp only [structural_iff, not_or] at h
  obtain ⟨list, object, listEnd, objectEnd, quote⟩ := h
  simp only [step, list, object, listEnd, objectEnd, quote, or_self, if_false]

/-- Neither a quote nor a backslash: the quotation goes on. -/
theorem Nesting.step_inside {c : Char} (quote : c ≠ '"') (backslash : c ≠ '\\') (depth : Nat) :
    (⟨depth, .inside⟩ : Nesting).step c = ⟨depth, .inside⟩ := by
  simp only [step, quote, backslash, if_false]

/-! ### Computations without a fault of nesting -/

/-- The computation gives a result as described, or a fault that is not one of nesting. -/
def Ensures {α : Type} (P : α → Prop) : Except Fault α → Prop
  | .ok a => P a
  | .error fault => fault ≠ .tooDeep

/-- A result ensures what holds of it. -/
@[simp] theorem ensures_ok {α : Type} {P : α → Prop} {a : α} :
    Ensures P (.ok a) ↔ P a := Iff.rfl

/-- A fault ensures anything, unless it is that of nesting too deep. -/
@[simp] theorem ensures_error {α : Type} {P : α → Prop} {fault : Fault} :
    Ensures P (.error fault) ↔ fault ≠ .tooDeep := Iff.rfl

/-- What two steps ensure, one after the other. -/
theorem Ensures.bind {α β : Type} {P : α → Prop} {Q : β → Prop} {x : Except Fault α}
    {f : α → Except Fault β} (first : Ensures P x) (second : ∀ a, P a → Ensures Q (f a)) :
    Ensures Q (x >>= f) := by
  cases x with
  | error fault => exact first
  | ok a => exact second a first

/-- What is ensured can be weakened. -/
theorem Ensures.mono {α : Type} {P Q : α → Prop} {x : Except Fault α} (h : Ensures P x)
    (imp : ∀ a, P a → Q a) : Ensures Q x := by
  cases x with
  | error fault => exact h
  | ok a => exact imp a h

/-- The first computation is the second one, or it fails because of a limit of `n` containers where
`depth` of them would be open, and that is more. -/
def Curbed {α : Type} (n depth : Nat) (x y : Except Fault α) : Prop :=
  x = y ∨ x = .error .tooDeep ∧ n < depth

/-- The sink does not count containers itself. -/
structure Sink.Unbounded {σ : Type} (sink : Sink σ) : Prop where
  /-- When it is asked for leave. -/
  mayEnter : ∀ state bracket, Ensures (fun _ => True) (sink.mayEnter state bracket)
  /-- When a container begins. -/
  enter : ∀ state bracket, Ensures (fun _ => True) (sink.enter state bracket)
  /-- When a member begins. -/
  key : ∀ state name, Ensures (fun _ => True) (sink.key state name)
  /-- At a scalar. -/
  scalar : ∀ state scalar, Ensures (fun _ => True) (sink.scalar state scalar)
  /-- When a container is complete. -/
  leave : ∀ state, Ensures (fun _ => True) (sink.leave state)

/-! ### Quotations -/

/-- Where the text stands at a spot of a quotation. -/
def Spot.quoting : Spot → Quoting
  | .plain | .code _ _ _ | .paired _ => .inside
  | .escape | .pairedEscape _ => .escape

/-- An escape by code has a wrong digit. -/
def Spot.Doomed : Spot → Prop
  | .code _ none _ => True
  | _ => False

/-- A wrong digit is a fault as soon as the escape is complete. -/
theorem Quotation.ensures_step_of_doomed {q : Quotation} (doomed : q.spot.Doomed) (c : Char) :
    Ensures (fun q' => ∃ next, q' = some next ∧ next.spot.Doomed) (q.step c) := by
  obtain ⟨spot, chars, lax⟩ := q
  match spot, doomed with
  | .code bytes none lead, _ =>
    by_cases more : bytes + c.utf8Size < 4
    · simp only [step, more, if_true]
      exact ⟨_, rfl, trivial⟩
    · simp only [step, more, if_false]
      simp

/-- Hexadecimal digits are neither quotes nor backslashes. -/
theorem ne_of_hexDigit? {c : Char} {d : Nat} (h : Text.hexDigit? c = some d) :
    c ≠ '"' ∧ c ≠ '\\' := by
  constructor <;> rintro rfl <;> cases h

/-- After a complete code, the quotation goes on. -/
theorem Quotation.ensures_takeCode (q : Quotation) (lead : Option Nat) (code : Nat) :
    Ensures (fun next => next.spot.quoting = .inside) (q.takeCode lead code) := by
  unfold takeCode
  split
  · rfl
  · split
    · split
      · rfl
      · simp
    · split
      · simp
      · split <;> rfl

/-- A step in a quotation is counted as such. -/
theorem Quotation.ensures_step {q : Quotation} (sound : ¬ q.spot.Doomed) (c : Char) (depth : Nat) :
    Ensures (fun
      | none => (⟨depth, q.spot.quoting⟩ : Nesting).step c = ⟨depth, .outside⟩
      | some next => next.spot.Doomed ∨
        (⟨depth, q.spot.quoting⟩ : Nesting).step c = ⟨depth, next.spot.quoting⟩) (q.step c) := by
  obtain ⟨spot, chars, lax⟩ := q
  cases spot with
  | plain =>
    by_cases quote : c = '"'
    · subst quote
      rfl
    · by_cases backslash : c = '\\'
      · subst backslash
        exact .inr rfl
      · simp only [step, quote, backslash, if_false]
        split
        · simp
        · exact .inr (Nesting.step_inside quote backslash depth)
  | escape =>
    simp only [step]
    split
    · exact .inr rfl
    · split
      · exact .inr rfl
      · simp
  | code bytes value lead =>
    cases value with
    | none => exact absurd trivial sound
    | some value =>
      cases digit : Text.hexDigit? c with
      | none =>
        simp only [step, digit]
        split
        · exact .inl trivial
        · simp
      | some d =>
        obtain ⟨quote, backslash⟩ := ne_of_hexDigit? digit
        have counted := Nesting.step_inside quote backslash depth
        simp only [step, digit]
        split
        · exact .inr counted
        · refine (ensures_takeCode _ lead _).bind fun next inside => ?_
          exact .inr (counted.trans (by rw [inside]))
  | paired lead =>
    simp only [step]
    split
    · rename_i backslash
      subst backslash
      exact .inr rfl
    · simp
  | pairedEscape lead =>
    simp only [step]
    split
    · exact .inr rfl
    · simp

/-! ### Readers -/

/-- Where the text stands in a phase. -/
def Phase.quoting : Phase → Quoting
  | .text q | .key q => q.spot.quoting
  | _ => .outside

/-- Is the phase that of a number or a quotation? -/
def Phase.isLexeme : Phase → Bool
  | .numeral _ _ | .text _ | .key _ => true
  | .between _ | .word _ _ => false

/-- The reader can only fail. -/
def Phase.Doomed : Phase → Prop
  | .text q | .key q => q.spot.Doomed
  | _ => False

/-- What goes on in a numeral is neither a bracket nor a quote. -/
theorem Stage.not_structural_of_goes {stage stage' : Stage} {c : Char}
    (h : stage.next c = .goes stage') : ¬ Structural c := by
  intro structural
  rcases structural_iff.1 structural with rfl | rfl | rfl | rfl | rfl <;>
    cases stage <;> cases h

namespace Reader

variable {σ : Type} {sink : Sink σ}

/-- Blank space is neither a bracket nor a quote. -/
theorem not_structural_of_isBlank {c : Char} (blank : isBlank c = true) : ¬ Structural c := by
  intro structural
  rcases structural_iff.1 structural with rfl | rfl | rfl | rfl | rfl <;> cases blank

/-- The number of containers that are open, those of a skipped value included. -/
def depth (r : Reader σ) : Nat :=
  r.enclosing.length + (r.skipping.getD []).length

/-- What a reader has counted. -/
def nesting (r : Reader σ) : Nesting :=
  ⟨r.depth, r.phase.quoting⟩

/-- A word has neither brackets nor quotes, and where a member was turned down, its colon or its
value is due. -/
structure Sound (r : Reader σ) : Prop where
  /-- What is left of a word. -/
  word : ∀ rest scalar, r.phase = .word rest scalar → ∀ c ∈ rest, ¬ Structural c
  /-- Where a member was turned down. -/
  begun : r.skipping = some [] → ∀ place, r.phase = .between place → place = .colon ∨ place = .value

/-- The reader has counted right, or it can only fail. -/
def Counts (r : Reader σ) (s : Nesting) : Prop :=
  r.phase.Doomed ∨ r.Sound ∧ r.nesting = s

/-- Between lexemes. -/
theorem counts_awaiting (r : Reader σ) (place : Place)
    (begun : r.skipping = some [] → place = .colon ∨ place = .value) :
    (r.awaiting place).Counts ⟨r.depth, .outside⟩ := by
  refine .inr ⟨⟨?_, ?_⟩, rfl⟩
  · rintro _ _ ⟨⟩
  · rintro skipped _ ⟨⟩
    exact begun skipped

/-- Inside a number or a quotation. -/
theorem counts_lexeme (r : Reader σ) {phase : Phase} (lexeme : phase.isLexeme = true) :
    ({ r with phase } : Reader σ).Counts ⟨r.depth, phase.quoting⟩ := by
  refine .inr ⟨⟨?_, ?_⟩, rfl⟩
  · rintro rest scalar rfl
    cases lexeme
  · rintro _ place rfl
    cases lexeme

/-- Inside a quotation, if its spot has been counted or has a wrong digit. -/
theorem counts_quotation (r : Reader σ) {phase : Phase} {q : Quotation} {s : Nesting}
    (inside : phase = .text q ∨ phase = .key q)
    (counted : q.spot.Doomed ∨ s = ⟨r.depth, q.spot.quoting⟩) :
    ({ r with phase } : Reader σ).Counts s := by
  rcases counted with doomed | rfl
  · rcases inside with rfl | rfl <;> exact .inl doomed
  · rcases inside with rfl | rfl <;> exact r.counts_lexeme rfl

/-- Inside a word. -/
theorem counts_word (r : Reader σ) {rest : List Char} (plain : ∀ c ∈ rest, ¬ Structural c)
    (scalar : Scalar) :
    ({ r with phase := .word rest scalar } : Reader σ).Counts ⟨r.depth, .outside⟩ := by
  refine .inr ⟨⟨?_, ?_⟩, rfl⟩
  · rintro _ _ ⟨⟩
    exact plain
  · rintro _ _ ⟨⟩

/-- After a complete value, as many containers are open as before. -/
theorem depth_completed (r : Reader σ) : r.completed.depth = r.depth := by
  obtain ⟨phase, enclosing, skipping, state⟩ := r
  rcases skipping with _ | _ | _ <;> rfl

/-- After a complete value, no member is turned down any more. -/
theorem skipping_completed (r : Reader σ) : r.completed.skipping ≠ some [] := by
  obtain ⟨phase, enclosing, skipping, state⟩ := r
  rcases skipping with _ | _ | _ <;> rintro ⟨⟩

/-- A complete value is counted. -/
theorem counts_completed (r : Reader σ) : r.completed.Counts ⟨r.depth, .outside⟩ := by
  have counts := r.completed.counts_awaiting r.following
    fun skipped => absurd skipped r.skipping_completed
  rwa [depth_completed] at counts

/-- The second reader is the first one after a complete value that leaves no container open. -/
def Completes (r r' : Reader σ) : Prop :=
  ∃ done : Reader σ, r' = done.completed ∧ done.depth = r.depth

/-- Such a value does not count. -/
theorem Completes.counts {r r' : Reader σ} (h : r.Completes r') :
    r'.Counts ⟨r.depth, .outside⟩ := by
  obtain ⟨done, rfl, same⟩ := h
  rw [← same]
  exact done.counts_completed

/-- A reader that can only fail goes on to fail. -/
theorem ensures_step_of_doomed {r : Reader σ} (doomed : r.phase.Doomed) (c : Char) :
    Ensures (·.phase.Doomed) (r.step sink none c) := by
  obtain ⟨phase, enclosing, skipping, state⟩ := r
  cases phase with
  | between | word | numeral => exact doomed.elim
  | text q | key q =>
    refine (Quotation.ensures_step_of_doomed doomed c).bind ?_
    rintro _ ⟨next, rfl, doomed⟩
    exact doomed

/-- Between lexemes. -/
theorem step_between {r : Reader σ} {place : Place} (phase : r.phase = .between place)
    (limit : Option Nat) (c : Char) :
    r.step sink limit c = r.takeBetween sink limit place c := by
  simp only [step, phase]

section

variable (unbounded : sink.Unbounded)
include unbounded

/-- A scalar completes a value. -/
theorem ensures_takeScalar (r : Reader σ) (scalar : Scalar) :
    Ensures r.Completes (r.takeScalar sink scalar) := by
  unfold takeScalar
  split
  · exact ⟨r, rfl, rfl⟩
  · exact (unbounded.scalar _ _).bind fun state _ => ⟨{ r with state }, rfl, rfl⟩

/-- A number completes a value. -/
theorem ensures_takeNumeral (r : Reader σ) (numeral : Numeral) :
    Ensures r.Completes (r.takeNumeral sink numeral) := by
  unfold takeNumeral
  split
  · exact ⟨r, rfl, rfl⟩
  · split
    · exact ensures_takeScalar unbounded r _
    · simp

/-- A name does not count. -/
theorem ensures_takeName (r : Reader σ) (name : String) :
    Ensures (·.Counts ⟨r.depth, .outside⟩) (r.takeName sink name) := by
  unfold takeName
  split
  · exact r.counts_awaiting .colon fun _ => .inl rfl
  · rename_i strict
    refine (unbounded.key _ _).bind fun known _ => ?_
    cases known with
    | some state => exact ({ r with state } : Reader σ).counts_awaiting .colon fun _ => .inl rfl
    | none =>
      have counts := ({ r with skipping := some [] } : Reader σ).counts_awaiting .colon
        fun _ => .inl rfl
      have same : ({ r with skipping := some [] } : Reader σ).depth = r.depth := by
        have none : r.skipping = none := by simpa [lax] using strict
        simp [depth, none]
      rwa [same] at counts

/-- An opening bracket counts. -/
theorem ensures_takeOpening (r : Reader σ) (bracket : Bracket) :
    Ensures (·.Counts ⟨r.depth + 1, .outside⟩) (r.takeOpening sink none bracket) := by
  unfold takeOpening
  split
  · rename_i brackets skipped
    have deeper : ({ r with skipping := some (bracket :: brackets) } : Reader σ).depth =
        r.depth + 1 := by
      simp only [depth, skipped, Option.getD_some, List.length_cons]
      omega
    rw [← deeper]
    exact counts_awaiting _ (.first bracket) (by rintro ⟨⟩)
  · rename_i strict
    refine (unbounded.mayEnter _ _).bind fun _ _ => ?_
    refine (unbounded.enter _ _).bind fun state _ => ?_
    have deeper : ({ r with state, enclosing := bracket :: r.enclosing } : Reader σ).depth =
        r.depth + 1 := by
      simp only [depth, strict, Option.getD_none, List.length_cons, List.length_nil]
    rw [← deeper]
    exact counts_awaiting _ (.first bracket) (by simp [strict])

/-- A closing bracket counts. -/
theorem ensures_takeClosing (r : Reader σ) (settled : r.skipping ≠ some []) :
    Ensures (·.Counts ⟨r.depth - 1, .outside⟩) (r.takeClosing sink) := by
  unfold takeClosing
  split
  · rename_i brackets skipped
    have shallower : ({ r with skipping := some brackets.tail } : Reader σ).depth =
        r.depth - 1 := by
      have positive : 0 < brackets.length :=
        List.length_pos_iff.2 fun empty => settled (by rw [skipped, empty])
      simp only [depth, skipped, Option.getD_some, List.length_tail]
      omega
    rw [← shallower]
    exact counts_completed _
  · rename_i strict
    refine (unbounded.leave _).bind fun state _ => ?_
    have shallower : ({ r with state, enclosing := r.enclosing.tail } : Reader σ).depth =
        r.depth - 1 := by
      simp only [depth, strict, Option.getD_none, List.length_tail, List.length_nil, Nat.add_zero]
    rw [← shallower]
    exact counts_completed _

/-- The first character of a value is counted. -/
theorem ensures_takeFirst (r : Reader σ) (c : Char) :
    Ensures (·.Counts ((⟨r.depth, .outside⟩ : Nesting).step c)) (r.takeFirst sink none c) := by
  unfold takeFirst
  split
  · exact r.counts_word (by simp [structural_iff]) .null
  · exact r.counts_word (by simp [structural_iff]) (.boolean true)
  · exact r.counts_word (by simp [structural_iff]) (.boolean false)
  · exact r.counts_lexeme rfl
  · exact ensures_takeOpening unbounded r .list
  · exact ensures_takeOpening unbounded r .object
  · exact r.counts_lexeme rfl
  · split
    · rename_i stage continues
      rw [Nesting.step_of_not_structural (Stage.not_structural_of_goes continues)]
      exact r.counts_lexeme rfl
    · simp

/-- A character between lexemes is counted. -/
theorem ensures_takeBetween (r : Reader σ) {place : Place}
    (begun : r.skipping = some [] → place = .colon ∨ place = .value) (c : Char) :
    Ensures (·.Counts ((⟨r.depth, .outside⟩ : Nesting).step c))
      (r.takeBetween sink none place c) := by
  have passes : ¬ Structural c → ∀ place, (r.skipping = some [] → place = .colon ∨ place = .value) →
      (r.awaiting place).Counts ((⟨r.depth, .outside⟩ : Nesting).step c) := by
    intro plain place begun
    rw [Nesting.step_of_not_structural plain]
    exact r.counts_awaiting place begun
  have closes : r.skipping ≠ some [] → c = ']' ∨ c = '\x7d' →
      Ensures (·.Counts ((⟨r.depth, .outside⟩ : Nesting).step c)) (r.takeClosing sink) := by
    rintro settled (rfl | rfl) <;> exact ensures_takeClosing unbounded r settled
  have quotes : c = '"' → ({ r with phase := .key (.start r.lax) } : Reader σ).Counts
      ((⟨r.depth, .outside⟩ : Nesting).step c) := by
    rintro rfl
    exact r.counts_lexeme rfl
  unfold takeBetween
  by_cases blank : isBlank c = true
  · rw [if_pos blank]
    exact passes (not_structural_of_isBlank blank) place begun
  rw [if_neg blank]
  cases place with
  | value => exact ensures_takeFirst unbounded r c
  | item =>
    simp only
    split
    · simp
    · exact ensures_takeFirst unbounded r c
  | name =>
    simp only
    split
    · exact quotes ‹_›
    · split <;> simp
  | colon =>
    by_cases colon : c = ':'
    · rw [colon] at passes ⊢
      exact passes (by decide) .value fun _ => .inr rfl
    · simp only [colon, if_false]
      simp
  | first bracket =>
    -- Neither a colon nor a value is due, so nothing has just been turned down.
    have settled : r.skipping ≠ some [] := by simpa using begun
    cases bracket with
    | list =>
      simp only
      split
      · exact closes settled (.inl ‹_›)
      · exact ensures_takeFirst unbounded r c
    | object =>
      simp only
      split
      · exact closes settled (.inr ‹_›)
      · split
        · exact quotes ‹_›
        · simp
  | next bracket =>
    have settled : r.skipping ≠ some [] := by simpa using begun
    have comma : c = ',' → ∀ place, (r.awaiting place).Counts
        ((⟨r.depth, .outside⟩ : Nesting).step c) := by
      rintro rfl place
      exact passes (by decide) place fun skipped => absurd skipped settled
    cases bracket with
    | list =>
      simp only
      split
      · exact closes settled (.inl ‹_›)
      · split
        · exact comma ‹_› _
        · split <;> simp
    | object =>
      simp only
      split
      · exact closes settled (.inr ‹_›)
      · split
        · exact comma ‹_› _
        · simp
  | surplus =>
    simp only
    split <;> simp
  | done => simp

/-- **Every step of a reader without a limit is a step of counting**, and no step is a fault of
nesting. -/
theorem ensures_step {r : Reader σ} {s : Nesting} (counts : r.Counts s) (c : Char) :
    Ensures (·.Counts (s.step c)) (r.step sink none c) := by
  by_cases doomed : r.phase.Doomed
  · exact (ensures_step_of_doomed doomed c).mono fun _ => .inl
  obtain ⟨sound, rfl⟩ := counts.resolve_left doomed
  unfold nesting
  cases phase : r.phase with
  | between place =>
    rw [step_between phase]
    exact ensures_takeBetween unbounded r (fun skipped => sound.begun skipped place phase) c
  | word rest scalar =>
    cases rest with
    | nil =>
      simp only [step, phase]
      simp
    | cons due rest =>
      have plain := sound.word _ _ phase
      by_cases same : c = due
      · subst same
        have passes := Nesting.step_of_not_structural (plain c List.mem_cons_self) r.depth
        simp only [step, phase, ne_eq, not_true_eq_false, if_false, Phase.quoting, passes]
        split
        · exact (ensures_takeScalar unbounded r scalar).mono fun _ => Completes.counts
        · exact r.counts_word (fun c mem => plain c (List.mem_cons_of_mem _ mem)) scalar
      · simp only [step, phase, same, ne_eq, not_false_eq_true, if_true]
        simp
  | numeral stage numeral =>
    simp only [step, phase, Phase.quoting]
    split
    · rename_i stage' continues
      rw [Nesting.step_of_not_structural (Stage.not_structural_of_goes continues)]
      exact r.counts_lexeme rfl
    · simp
    · refine (ensures_takeNumeral unbounded r numeral).bind ?_
      rintro _ ⟨done, rfl, same⟩
      rw [← same, ← done.depth_completed]
      have settled := done.skipping_completed
      exact ensures_takeBetween unbounded _ (fun skipped => absurd skipped settled) c
  | text q =>
    rw [phase] at doomed
    simp only [step, phase, Phase.quoting]
    refine (Quotation.ensures_step doomed c r.depth).bind fun q' counted => ?_
    cases q' with
    | none =>
      rw [counted]
      exact (ensures_takeScalar unbounded r _).mono fun _ => Completes.counts
    | some next => exact r.counts_quotation (.inl rfl) counted
  | key q =>
    rw [phase] at doomed
    simp only [step, phase, Phase.quoting]
    refine (Quotation.ensures_step doomed c r.depth).bind fun q' counted => ?_
    cases q' with
    | none =>
      rw [counted]
      exact ensures_takeName unbounded r _
    | some next => exact r.counts_quotation (.inr rfl) counted

/-- The end of the text between lexemes is no fault of nesting. -/
theorem ensures_finish (r : Reader σ) : Ensures (fun _ => True) (r.finish sink) := by
  have between : ∀ (r : Reader σ) (place : Place), Ensures (fun _ => True)
      (r.finishBetween place) := by
    intro r place
    unfold finishBetween
    split
    case h_3 => split <;> simp
    case h_10 => exact trivial
    all_goals simp
  unfold finish
  split
  · exact between r _
  · simp
  · split
    · exact (ensures_takeNumeral unbounded r _).bind fun r' _ => between r' _
    · split <;> simp
  · simp
  · simp

end

/-! ### Readers with a limit -/

/-- Under a limit, an opening bracket is taken as without one, or it is one too many. -/
theorem takeOpening_curbed (sink : Sink σ) (n : Nat) (r : Reader σ) (bracket : Bracket) :
    Curbed n (r.depth + 1) (r.takeOpening sink (some n) bracket)
      (r.takeOpening sink none bracket) := by
  unfold takeOpening
  split
  · exact .inl rfl
  · by_cases deep : n ≤ r.enclosing.length
    · have reached : (some n).any (· ≤ r.enclosing.length) = true := decide_eq_true deep
      cases sink.mayEnter r.state bracket with
      | error fault => exact .inl rfl
      | ok _ =>
        refine .inr ⟨?_, Nat.lt_succ_of_le (Nat.le_trans deep (Nat.le_add_right _ _))⟩
        rw [if_pos reached]
        rfl
    · have spared : ¬ (some n).any (· ≤ r.enclosing.length) = true := by simpa using deep
      rw [if_neg spared]
      exact .inl rfl

/-- Under a limit, a value begins as without one, or with an opening bracket too many. -/
theorem takeFirst_curbed (sink : Sink σ) (n : Nat) (r : Reader σ) (c : Char) :
    Curbed n ((⟨r.depth, .outside⟩ : Nesting).step c).depth (r.takeFirst sink (some n) c)
      (r.takeFirst sink none c) := by
  unfold takeFirst
  split
  case h_5 => exact takeOpening_curbed sink n r .list
  case h_6 => exact takeOpening_curbed sink n r .object
  all_goals exact .inl rfl

/-- Under a limit, the same is taken between lexemes, or an opening bracket too many. -/
theorem takeBetween_curbed (sink : Sink σ) (n : Nat) (r : Reader σ) (place : Place) (c : Char) :
    Curbed n ((⟨r.depth, .outside⟩ : Nesting).step c).depth (r.takeBetween sink (some n) place c)
      (r.takeBetween sink none place c) := by
  unfold takeBetween
  split
  · exact .inl rfl
  · split
    case h_1 => exact takeFirst_curbed sink n r c
    case h_2 =>
      split
      · exact .inl rfl
      · exact takeFirst_curbed sink n r c
    case h_5 =>
      split
      · exact .inl rfl
      · exact takeFirst_curbed sink n r c
    all_goals exact .inl rfl

/-- After a complete value, no container begins. -/
theorem takeBetween_following (sink : Sink σ) (limit : Option Nat) (r : Reader σ) (c : Char) :
    r.takeBetween sink limit r.following c = r.takeBetween sink none r.following c := by
  have next : r.following = .done ∨ ∃ bracket, r.following = .next bracket := by
    unfold following
    split
    · exact .inr ⟨_, rfl⟩
    · exact .inr ⟨_, rfl⟩
    · split
      · exact .inr ⟨_, rfl⟩
      · exact .inl rfl
  rcases next with eq | ⟨bracket, eq⟩
  · rw [eq]
    rfl
  · rw [eq]
    cases bracket <;> rfl

/-- Under a limit, every step is as without one, or an opening bracket too many. -/
theorem step_curbed (sink : Sink σ) (n : Nat) {r : Reader σ} {s : Nesting} (counts : r.Counts s)
    (c : Char) : Curbed n (s.step c).depth (r.step sink (some n) c) (r.step sink none c) := by
  cases phase : r.phase with
  | between place =>
    have counted : r.nesting = s := by
      rcases counts with doomed | ⟨-, counted⟩
      · rw [phase] at doomed
        exact doomed.elim
      · exact counted
    rw [step_between phase, step_between phase, ← counted, nesting, phase]
    exact takeBetween_curbed sink n r place c
  | word rest scalar =>
    left
    cases rest <;> simp only [step, phase]
  | numeral stage numeral =>
    left
    simp only [step, phase, takeBetween_following sink (some n)]
  | text q | key q =>
    left
    simp only [step, phase]

/-- Under a limit, a whole text is read as without one, or there is a point in it where too many
containers are open. Without a limit, there is no fault of nesting. -/
theorem outcome_curbed (unbounded : sink.Unbounded) (n : Nat) (text : List Char) {r : Reader σ}
    {s : Nesting} (counts : r.Counts s) :
    Ensures (fun _ => True) (r.outcome sink none text) ∧
      (r.outcome sink (some n) text = r.outcome sink none text ∨
        r.outcome sink (some n) text = .error .tooDeep ∧
          ∃ before, before <+: text ∧ n < (before.foldl Nesting.step s).depth) := by
  induction text generalizing r s with
  | nil => exact ⟨ensures_finish unbounded r, .inl rfl⟩
  | cons c text ih =>
    rw [outcome_cons, outcome_cons]
    have counted := ensures_step unbounded counts c
    rcases step_curbed sink n counts c with same | ⟨deep, exceeded⟩
    · rw [same]
      cases taken : r.step sink none c with
      | error fault =>
        rw [taken] at counted
        exact ⟨counted, .inl rfl⟩
      | ok r' =>
        rw [taken] at counted
        obtain ⟨spared, curbed⟩ := ih counted
        refine ⟨spared, curbed.imp_right ?_⟩
        rintro ⟨deep, before, initial, exceeded⟩
        exact ⟨deep, c :: before, List.prefix_cons_inj c |>.2 initial, exceeded⟩
    · rw [deep]
      refine ⟨counted.bind fun r' counts => (ih counts).1, .inr ⟨rfl, [c], ?_, exceeded⟩⟩
      exact List.prefix_cons_inj c |>.2 List.nil_prefix

end Reader

/-- **A nesting limit changes nothing else**, whatever is made of the text. -/
theorem read_curbed {σ : Type} {sink : Sink σ} (unbounded : sink.Unbounded) (n : Nat) (state : σ)
    (text : String) :
    Ensures (fun _ => True) (Json.read sink none state text) ∧
      (Json.read sink (some n) state text = Json.read sink none state text ∨
        Json.read sink (some n) state text = .error .tooDeep ∧
          ∃ before, before <+: text.toList ∧ n < openContainers before) := by
  have counts : (Reader.start state).Counts .start :=
    (Reader.start state).counts_awaiting .value fun _ => .inr rfl
  exact Reader.outcome_curbed unbounded n text.toList counts

end Markup.Json
