import Markup.Proofs.Json.Decimals
import Markup.Proofs.Json.Lexemes

/-!
# What stays true of a sink

A sink hears of a text in calls: a container begins, a member begins, a scalar has been read, a
container is complete. If a property of its state holds at the beginning and passes through each of
these calls (`Sink.Keeps`), it holds at the end, whatever the text is (`Json.read_yields`).

More is known of scalars than their kind. A number that is out of range is a fault, so every number
that a sink is told of is finite (`Numeral.isFinite_of_number?`). For an integer this rests on the
64 bits of a significand, which no digit exceeds; `Reader.Keeps` carries that bound along with the
property from one character to the next.
-/

namespace Markup.Json

/-! ### Results -/

/-- The result of the computation is as described, if there is one. -/
def Yields {α : Type} (P : α → Prop) : Except Fault α → Prop
  | .ok a => P a
  | .error _ => True

/-- What is known of a first result is known where the computation goes on. -/
theorem Yields.bind {α β : Type} {P : α → Prop} {Q : β → Prop} {x : Except Fault α}
    {f : α → Except Fault β} (first : Yields P x) (second : ∀ a, P a → Yields Q (f a)) :
    Yields Q (x >>= f) := by
  cases x with
  | error fault => trivial
  | ok a => exact second a first

/-- Nothing is known of the first computation. -/
theorem Yields.bind_of_forall {α β : Type} {Q : β → Prop} {x : Except Fault α}
    {f : α → Except Fault β} (second : ∀ a, Yields Q (f a)) : Yields Q (x >>= f) := by
  cases x with
  | error fault => trivial
  | ok a => exact second a

/-! ### Numbers in range -/

/-- A scalar that is a number is a finite one. -/
def Scalar.InRange : Scalar → Prop
  | .number n => n.toDouble.isFinite = true
  | _ => True

/-- The significand of the numeral has at most 64 bits. -/
def Numeral.InRange (n : Numeral) : Prop :=
  n.significand ≤ maxSignificand

/-- A whole number of 64 bits is rounded to a finite number. -/
theorem isFinite_ofInt {n : Int} (small : n.natAbs ≤ Numeral.maxSignificand) :
    (Double.ofInt n).isFinite = true := by
  rcases Nat.eq_zero_or_pos n.natAbs with zero | positive
  · rw [Double.ofInt, zero]
    rfl
  · have power : Numeral.maxSignificand ≤ 10 ^ maxPower := by decide +kernel
    obtain ⟨x, rounded, -⟩ := exists_ofRatio_of_le_power positive (small.trans power)
    rw [Double.ofInt, rounded]
    rfl

namespace Numeral

/-- A digit that does not fit is not taken. -/
theorem InRange.pushDigit {n : Numeral} (h : n.InRange) (afterPoint : Bool) (digit : Nat) :
    (n.pushDigit afterPoint digit).InRange := by
  simp only [Numeral.pushDigit]
  by_cases dropped : n.full = true ∨ maxSignificand < n.significand * 10 + digit
  · rw [if_pos dropped]
    exact h
  · rw [if_neg dropped]
    exact Nat.le_of_not_lt fun exceeds => dropped (.inr exceeds)

/-- No character takes the significand out of its range. -/
theorem InRange.push {n : Numeral} (h : n.InRange) (stage : Stage) (c : Char) :
    (n.push stage c).InRange := by
  cases stage with
  | zero | whole => exact h.pushDigit false _
  | fraction => exact h.pushDigit true _
  | sign | point | mark | exponentSign | exponent => exact h

/-- A numeral without digits is in range. -/
theorem inRange_start (negative : Bool) : (start negative).InRange :=
  Nat.zero_le _

/-- **A numeral that stands for a number stands for a finite one.** -/
theorem isFinite_of_number? {n : Numeral} (h : n.InRange) {number : Number}
    (denotes : n.number? = some number) : number.toDouble.isFinite = true := by
  have real : ∀ {number : Number}, n.real?.map Number.real = some number →
      number.toDouble.isFinite = true := by
    intro number denotes
    obtain ⟨x, scaled, rfl⟩ := Option.map_eq_some_iff.1 denotes
    obtain ⟨significand, -, scaled⟩ := Option.bind_eq_some_iff.1 scaled
    obtain ⟨magnitude, -, finite⟩ := Option.bind_eq_some_iff.1 scaled
    cases finite
    rfl
  unfold number? at denotes
  split at denotes
  · split at denotes
    · split at denotes
      · cases denotes
        exact isFinite_ofInt (by rwa [Int.natAbs_neg, Int.natAbs_natCast])
      · exact real denotes
    · cases denotes
      exact isFinite_ofInt (by rwa [Int.natAbs_natCast])
  · exact real denotes

end Numeral

/-! ### From one character to the next -/

/-- A property of the state of a sink that no call takes away. -/
structure Sink.Keeps {σ : Type} (sink : Sink σ) (P : σ → Prop) : Prop where
  /-- A container begins. -/
  enter : ∀ {state}, P state → ∀ bracket, Yields P (sink.enter state bracket)
  /-- A member begins. -/
  key : ∀ {state}, P state → ∀ name,
    Yields (fun known => ∀ state', known = some state' → P state') (sink.key state name)
  /-- A scalar has been read. -/
  scalar : ∀ {state}, P state → ∀ {scalar : Scalar}, scalar.InRange →
    Yields P (sink.scalar state scalar)
  /-- A container is complete. -/
  leave : ∀ {state}, P state → Yields P (sink.leave state)

/-- The word or the numeral that the reader is in the middle of gives a scalar in range. -/
def Phase.InRange : Phase → Prop
  | .word _ scalar => scalar.InRange
  | .numeral _ n => n.InRange
  | .between _ | .text _ | .key _ => True

namespace Reader

variable {σ : Type} {sink : Sink σ} {P : σ → Prop}

/-- The state of the sink has the property, and the lexeme at hand is in range. -/
structure Keeps (P : σ → Prop) (r : Reader σ) : Prop where
  /-- The property. -/
  state : P r.state
  /-- The lexeme. -/
  phase : r.phase.InRange

/-- Completing a value keeps what holds of the state. -/
theorem keeps_completed {r : Reader σ} (h : P r.state) : r.completed.Keeps P :=
  ⟨h, trivial⟩

section

variable (keeps : sink.Keeps P)
include keeps

/-- A scalar in range is taken. -/
theorem yields_takeScalar {r : Reader σ} (h : P r.state) {scalar : Scalar}
    (range : scalar.InRange) : Yields (Keeps P) (r.takeScalar sink scalar) := by
  unfold takeScalar
  split
  · exact keeps_completed h
  · exact (keeps.scalar h range).bind fun state h => keeps_completed (r := { r with state }) h

/-- A numeral is taken. -/
theorem yields_takeNumeral {r : Reader σ} (h : P r.state) {numeral : Numeral}
    (range : numeral.InRange) : Yields (Keeps P) (r.takeNumeral sink numeral) := by
  unfold takeNumeral
  split
  · exact keeps_completed h
  · split
    · rename_i denotes
      exact yields_takeScalar keeps h (Numeral.isFinite_of_number? range denotes)
    · trivial

/-- A name is taken, or the member is turned down. -/
theorem yields_takeName {r : Reader σ} (h : P r.state) (name : String) :
    Yields (Keeps P) (r.takeName sink name) := by
  unfold takeName
  split
  · exact ⟨h, trivial⟩
  · refine (keeps.key h name).bind fun known kept => ?_
    cases known with
    | none => exact ⟨h, trivial⟩
    | some state => exact ⟨kept state rfl, trivial⟩

/-- An opening bracket is taken. -/
theorem yields_takeOpening (limit : Option Nat) {r : Reader σ} (h : P r.state)
    (bracket : Bracket) : Yields (Keeps P) (r.takeOpening sink limit bracket) := by
  unfold takeOpening
  split
  · exact ⟨h, trivial⟩
  · refine Yields.bind_of_forall fun _ => ?_
    split
    · trivial
    · exact (keeps.enter h bracket).bind fun state h => ⟨h, trivial⟩

/-- A closing bracket is taken. -/
theorem yields_takeClosing {r : Reader σ} (h : P r.state) :
    Yields (Keeps P) (r.takeClosing sink) := by
  unfold takeClosing
  split
  · exact keeps_completed h
  · refine (keeps.leave h).bind fun state h => ?_
    exact keeps_completed (r := { r with state, enclosing := r.enclosing.tail }) h

/-- A value begins. -/
theorem yields_takeFirst (limit : Option Nat) {r : Reader σ} (h : P r.state) (c : Char) :
    Yields (Keeps P) (r.takeFirst sink limit c) := by
  unfold takeFirst
  split
  case h_5 => exact yields_takeOpening keeps limit h .list
  case h_6 => exact yields_takeOpening keeps limit h .object
  case h_7 => exact ⟨h, Numeral.inRange_start true⟩
  case h_8 =>
    split
    · exact ⟨h, (Numeral.inRange_start false).push _ c⟩
    · trivial
  all_goals exact ⟨h, trivial⟩

/-- A character is taken between lexemes. -/
theorem yields_takeBetween (limit : Option Nat) {r : Reader σ} (h : P r.state) (place : Place)
    (c : Char) : Yields (Keeps P) (r.takeBetween sink limit place c) := by
  have first := yields_takeFirst keeps limit h c
  have closing := yields_takeClosing keeps h
  unfold takeBetween
  split
  · exact ⟨h, trivial⟩
  · cases place with
    | value => exact first
    | item =>
      simp only
      split
      · trivial
      · exact first
    | name =>
      simp only
      split
      · exact ⟨h, trivial⟩
      · split <;> trivial
    | colon =>
      simp only
      split
      · exact ⟨h, trivial⟩
      · trivial
    | first bracket =>
      cases bracket with
      | list =>
        simp only
        split
        · exact closing
        · exact first
      | object =>
        simp only
        split
        · exact closing
        · split
          · exact ⟨h, trivial⟩
          · trivial
    | next bracket =>
      cases bracket <;>
      · simp only
        split
        · exact closing
        · split
          · exact ⟨h, trivial⟩
          · trivial
    | surplus | done => trivial

/-- **A property that passes through every call passes through every character.** -/
theorem yields_step (limit : Option Nat) {r : Reader σ} (h : r.Keeps P) (c : Char) :
    Yields (Keeps P) (r.step sink limit c) := by
  obtain ⟨state, range⟩ := h
  cases phase : r.phase with
  | between place =>
    simp only [step, phase]
    exact yields_takeBetween keeps limit state place c
  | word rest scalar =>
    rw [phase] at range
    cases rest with
    | nil =>
      simp only [step, phase]
      trivial
    | cons due rest =>
      simp only [step, phase]
      split
      · trivial
      · split
        · exact yields_takeScalar keeps state range
        · exact ⟨state, range⟩
  | numeral stage n =>
    rw [phase] at range
    have range : n.InRange := range
    simp only [step, phase]
    split
    · exact ⟨state, range.push _ c⟩
    · trivial
    · refine (yields_takeNumeral keeps state range).bind fun r h => ?_
      exact yields_takeBetween keeps limit h.state r.following c
  | text quotation =>
    simp only [step, phase]
    refine Yields.bind_of_forall fun next => ?_
    cases next with
    | some quotation => exact ⟨state, trivial⟩
    | none => exact yields_takeScalar keeps state trivial
  | key quotation =>
    simp only [step, phase]
    refine Yields.bind_of_forall fun next => ?_
    cases next with
    | some quotation => exact ⟨state, trivial⟩
    | none => exact yields_takeName keeps state quotation.text

omit keeps in
/-- At the end of the text, the state is what it is. -/
theorem yields_finishBetween {r : Reader σ} (h : P r.state) (place : Place) :
    Yields P (r.finishBetween place) := by
  unfold finishBetween
  split
  case h_10 => exact h
  all_goals trivial

/-- The end of the text may complete a numeral. -/
theorem yields_finish {r : Reader σ} (h : r.Keeps P) : Yields P (r.finish sink) := by
  obtain ⟨state, range⟩ := h
  cases phase : r.phase with
  | between place =>
    simp only [finish, phase]
    exact yields_finishBetween state place
  | numeral stage n =>
    rw [phase] at range
    simp only [finish, phase]
    split
    · refine (yields_takeNumeral keeps state range).bind fun r h => ?_
      exact yields_finishBetween h.state r.following
    · trivial
  | word | text | key =>
    simp only [finish, phase]
    trivial

/-- A whole text is read one character after another. -/
theorem yields_outcome (limit : Option Nat) (text : List Char) {r : Reader σ} (h : r.Keeps P) :
    Yields P (r.outcome sink limit text) := by
  induction text generalizing r with
  | nil => exact yields_finish keeps h
  | cons c text ih =>
    rw [outcome_cons]
    exact (yields_step keeps limit h c).bind fun r h => ih h

end

end Reader

/-- **What no call takes away from a sink holds when the text has been read**, whatever the text
is. -/
theorem read_yields {σ : Type} {sink : Sink σ} {P : σ → Prop} (keeps : sink.Keeps P)
    (limit : Option Nat) {state : σ} (h : P state) (text : String) :
    Yields P (Json.read sink limit state text) :=
  Reader.yields_outcome keeps limit text.toList ⟨h, trivial⟩

end Markup.Json
