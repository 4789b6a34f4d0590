import Markup.Text.CaseFolding
import Markup.Text.Classes

/-!
# Sets of characters

The sets that a pattern can name, as data: ranges of code points, closed under the set operations
and under case variants. Membership is decided without ever listing a set.
-/

namespace Markup.Pattern

/-- A set of characters. -/
inductive CharSet
  /-- The characters in the given ranges of code points. -/
  | ranges (ranges : Text.CodeRanges)
  /-- The characters outside a set. -/
  | complement (set : CharSet)
  /-- The characters in either set. -/
  | union (left right : CharSet)
  /-- The characters in both sets. -/
  | inter (left right : CharSet)
  /-- The characters that have a case variant in a set. -/
  | folded (set : CharSet)
  /-- The characters that have a case variant in a set, for the letters `a` to `z` only. -/
  | asciiFolded (set : CharSet)

namespace CharSet

/-- The variants of a character when only the letters `a` to `z` have case. -/
def asciiVariants (c : Char) : List Char :=
  [c, c.toLower, c.toUpper]

/-- Is the character in the set? -/
def mem : CharSet → Char → Bool
  | .ranges codes, c => codes.contains c
  | .complement set, c => !set.mem c
  | .union left right, c => left.mem c || right.mem c
  | .inter left right, c => left.mem c && right.mem c
  | .folded set, c => (Text.variants c).any set.mem
  | .asciiFolded set, c => (asciiVariants c).any set.mem

/-- The set without members. -/
def empty : CharSet :=
  .ranges []

/-- The set of a single character. -/
def single (c : Char) : CharSet :=
  .ranges [(c.toNat, c.toNat)]

/-- The characters from one to another, both included. -/
def span (first last : Char) : CharSet :=
  .ranges [(first.toNat, last.toNat)]

/-- All characters but the given ones. -/
def allBut (chars : List Char) : CharSet :=
  .complement (.ranges (chars.map fun c => (c.toNat, c.toNat)))

/-- The characters of the first set that are not in the second. -/
def diff (left right : CharSet) : CharSet :=
  .inter left (.complement right)

/-- The characters in exactly one of the two sets. -/
def symmDiff (left right : CharSet) : CharSet :=
  .union (left.diff right) (right.diff left)

/-- The set, or its complement. -/
def negatedIf (negated : Bool) (set : CharSet) : CharSet :=
  if negated then .complement set else set

/-! ### Named sets -/

/-- The digits. -/
def digit : CharSet :=
  .ranges Text.digitRanges

/-- The blanks. -/
def blank : CharSet :=
  .ranges Text.blankRanges

/-- The characters of words. -/
def word : CharSet :=
  .union (.ranges Text.letterRanges) (.union digit (.ranges Text.joiningRanges))

/-- The digits of the seven-bit characters. -/
def asciiDigit : CharSet :=
  .ranges [(0x30, 0x39)]

/-- The blanks of the seven-bit characters. -/
def asciiBlank : CharSet :=
  .ranges [(0x09, 0x0D), (0x20, 0x20)]

/-- The word characters of the seven-bit characters. -/
def asciiWord : CharSet :=
  .ranges [(0x30, 0x39), (0x41, 0x5A), (0x5F, 0x5F), (0x61, 0x7A)]

/-- The seven-bit sets that have a name between colons. -/
def ofClassName? : String → Option CharSet
  | "alnum" => some (.ranges [(0x30, 0x39), (0x41, 0x5A), (0x61, 0x7A)])
  | "alpha" => some (.ranges [(0x41, 0x5A), (0x61, 0x7A)])
  | "ascii" => some (.ranges [(0x00, 0x7F)])
  | "blank" => some (.ranges [(0x09, 0x09), (0x20, 0x20)])
  | "cntrl" => some (.ranges [(0x00, 0x1F), (0x7F, 0x7F)])
  | "digit" => some asciiDigit
  | "graph" => some (.ranges [(0x21, 0x7E)])
  | "lower" => some (.ranges [(0x61, 0x7A)])
  | "print" => some (.ranges [(0x20, 0x7E)])
  | "punct" => some (.ranges [(0x21, 0x2F), (0x3A, 0x40), (0x5B, 0x60), (0x7B, 0x7E)])
  | "space" => some asciiBlank
  | "upper" => some (.ranges [(0x41, 0x5A)])
  | "word" => some asciiWord
  | "xdigit" => some (.ranges [(0x30, 0x39), (0x41, 0x46), (0x61, 0x66)])
  | _ => none

/-- The name of a property without what does not count in it: case, blanks, dashes, underscores and
a leading `is`. -/
def plainPropertyName (name : String) : String :=
  let letters := name.toList.filter fun c => !(c == ' ' || c == '_' || c == '-')
  match letters.map Char.toLower with
  | 'i' :: 's' :: rest => String.ofList rest
  | rest => String.ofList rest

/-- The properties of the character standard that are known here: neither general categories other
than the decimal numbers nor scripts are among them. -/
def ofProperty? (name : String) : Option CharSet :=
  match plainPropertyName name with
  | "any" => some (.complement empty)
  | "ascii" => some (.ranges [(0x00, 0x7F)])
  | "alphabetic" | "alpha" => some (.ranges Text.letterRanges)
  | "whitespace" | "wspace" | "space" => some blank
  | "decimalnumber" | "digit" | "nd" => some digit
  | _ => none

end CharSet

end Markup.Pattern
