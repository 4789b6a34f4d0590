import Markup.Pattern
import Markup.Pattern.Grammar

/-!
# The standard engine

An engine that reads the texts of patterns as expressions and carries fronts through them. It is the
engine to run with. The engine behind `SingleTag` knows more; this one is an approximation of it and
leaves out the following:

* Of the properties by name it knows `any`, `ascii`, `alphabetic`, white space and the decimal
  numbers, with their short names. General categories (`\p{L}`, `\pL`, `\p{Lu}`), scripts
  (`\p{Greek}`) and all other properties are refused.
* What is too large is measured on the expression, where a class counts as one character
  (`Expression.size`), and not on the compiled program, so the limit is a rough one.
* All tables, of classes of characters and of case folding, are those of version 15.0 of the
  character standard.
* There is one report for everything that is wrong with a text.

No theorem about reading options or about rendering depends on these choices: they are stated for
every engine.
-/

namespace Markup.Pattern

/-- The engine that reads texts as expressions. -/
def Engine.standard : Engine where
  compile source :=
    match Expression.parse? source with
    | some expression => .ok expression.occursIn
    | none => .error "malformed or too large"

/-- The pattern of a text that can be read as an expression. -/
def standard (source : String) (reads : (Expression.parse? source).isSome = true) :
    Pattern .standard where
  source := source
  occursIn := ((Expression.parse? source).get reads).occursIn
  compiles := by
    obtain ⟨expression, parsed⟩ := Option.isSome_iff_exists.1 reads
    simp only [Engine.standard, parsed, Option.get_some]

end Markup.Pattern
