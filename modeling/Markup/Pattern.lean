/-!
# Patterns

A pattern is a text that an engine compiles. How patterns are written and which names they match is
the affair of the engine, and the engine is a parameter of everything that deals with options. All
that is known of an engine is that its answer follows from the text of a pattern: whether the text
compiles, what it then matches, and what is reported if it does not. So two patterns of one engine
with the same text are the same pattern.
-/

namespace Markup

/-- A pattern engine.
Source: the library behind `SingleTag` (section 10.3), with its default settings -/
structure Pattern.Engine where
  /-- Compiles the text of a pattern: to the test whether the pattern matches somewhere in a name,
  or to a report of what is wrong with the text. -/
  compile : String → Except String (String → Bool)

/-- A pattern of an engine: a text that compiles. -/
structure Pattern (engine : Pattern.Engine) where
  /-- The text of the pattern. -/
  source : String
  /-- Does the pattern match somewhere in a name? -/
  occursIn : String → Bool
  /-- The test is the one that the text compiles to. -/
  compiles : engine.compile source = .ok occursIn

namespace Pattern

variable {engine : Engine}

/-- Compiles a pattern; if its text is malformed, the answer is the report of the engine. -/
def compile (source : String) : Except String (Pattern engine) :=
  match h : engine.compile source with
  | .ok occursIn => .ok ⟨source, occursIn, h⟩
  | .error reason => .error reason

/-- Patterns with the same text are equal. -/
@[ext] theorem ext {p q : Pattern engine} (h : p.source = q.source) : p = q := by
  obtain ⟨source, occursIn, compiles⟩ := p
  obtain ⟨source', occursIn', compiles'⟩ := q
  obtain rfl : source = source' := h
  obtain rfl : occursIn = occursIn' := Except.ok.inj (compiles.symm.trans compiles')
  rfl

/-- Compiling the text of a pattern gives the pattern. -/
theorem compile_source (p : Pattern engine) : compile p.source = .ok p := by
  unfold compile
  split
  · exact congrArg Except.ok (Pattern.ext rfl)
  · rename_i malformed
    rw [p.compiles] at malformed
    contradiction

/-- Patterns are compared by their texts.
Source: `PartialEq` of `SingleTag` -/
instance : DecidableEq (Pattern engine) := fun p q =>
  if h : p.source = q.source then .isTrue (ext h) else .isFalse fun e => h (e ▸ rfl)

end Pattern

end Markup
