import Markup.Pattern.Expression
import Markup.Pattern.Flags
import Markup.Text.Hex

/-!
# Escapes in patterns

A backslash in a pattern introduces a literal character, a class of characters or an assertion. The
same escapes are read inside and outside of brackets; which of them make sense there is decided by
the reader of brackets.
-/

namespace Markup.Pattern

/-- The smallest part of a pattern. -/
inductive Primitive
  /-- A character that stands for itself. -/
  | literal (c : Char)
  /-- A class of characters. -/
  | set (chars : CharSet)
  /-- An assertion. -/
  | assertion (condition : Assertion)

/-! ### Ignored text -/

/-- What follows blanks and comments; a comment runs from `#` to the end of the line. -/
def skipIgnored (inComment : Bool) : List Char → List Char
  | [] => []
  | c :: rest =>
    if inComment then skipIgnored (c != '\n') rest
    else if Text.isBlank c then skipIgnored false rest
    else if c = '#' then skipIgnored true rest
    else c :: rest

/-- What follows text that the flags make the pattern ignore. -/
def Flags.skip (flags : Flags) (text : List Char) : List Char :=
  if flags.verbose then skipIgnored false text else text

/-! ### Characters by code -/

/-- The character with the given code point. -/
def char? (code : Nat) : Option Char :=
  if code.isValidChar then some (.ofNat code) else none

/-- Reads the given number of hexadecimal digits. -/
def hexDigits? (flags : Flags) : (count : Nat) → (code : Nat) → List Char → Option (Nat × List Char)
  | 0, code, rest => some (code, rest)
  | _ + 1, _, [] => none
  | count + 1, code, c :: rest => do
    hexDigits? flags count (code * 16 + (← Text.hexDigit? c)) (flags.skip rest)

/-- The text up to a closing brace, without what the flags make the pattern ignore. -/
def bracedText? (flags : Flags) (text : List Char) : Option (List Char × List Char) :=
  let rec go : (inComment : Bool) → List Char → Option (List Char × List Char)
    | _, [] => none
    | inComment, c :: rest =>
      if inComment then go (c != '\n') rest
      else if flags.verbose && Text.isBlank c then go false rest
      else if flags.verbose && c == '#' then go true rest
      else if c = '\x7d' then some ([], rest)
      else do
        let (inside, after) ← go false rest
        return (c :: inside, after)
  go false text

/-- Reads a character by code, after the letter that announces it. -/
def byCode? (flags : Flags) (letter : Char) (text : List Char) : Option (Char × List Char) :=
  match flags.skip text with
  | '\x7b' :: rest => do
    let (inside, after) ← bracedText? flags rest
    if inside.isEmpty then none
    let code ← inside.foldlM (fun code c => do return code * 16 + (← Text.hexDigit? c)) 0
    return (← char? code, flags.skip after)
  | text => do
    let count := if letter = 'x' then 2 else if letter = 'u' then 4 else 8
    let (code, after) ← hexDigits? flags count 0 text
    if !flags.unicode && letter == 'x' && 0x7F < code then none
    return (← char? code, after)

/-! ### Classes -/

/-- The class of an escape letter. Without the classes of all scripts, a class cannot be negated,
because it would match parts of characters. -/
def escapedClass? (flags : Flags) (letter : Char) : Option CharSet := do
  let named (all ascii : CharSet) := if flags.unicode then all else ascii
  let set ←
    match letter.toLower with
    | 'd' => some (named .digit .asciiDigit)
    | 's' => some (named .blank .asciiBlank)
    | 'w' => some (named .word .asciiWord)
    | _ => none
  if letter.isUpper && !flags.unicode then none
  return set.negatedIf letter.isUpper

/-- Reads the name of a property, after the letter that announces it. -/
def property? (flags : Flags) (negated : Bool) (text : List Char) :
    Option (CharSet × List Char) := do
  let (name, after) ←
    match flags.skip text with
    | [] => none
    | '\x7b' :: rest => bracedText? flags rest
    | '\\' :: _ => none
    | c :: rest => some ([c], flags.skip rest)
  if !flags.unicode then none
  let set ← CharSet.ofProperty? (String.ofList name)
  let set := if flags.caseless then .folded set else set
  return (set.negatedIf negated, after)

/-! ### Word boundaries -/

/-- Can the character stand in the name of a word boundary? -/
def isBoundaryLetter (c : Char) : Bool :=
  c.isAlpha || c == '-'

/-- Reads the name of a word boundary in braces; the plain boundary is what an opening brace means
that begins a repetition. -/
def boundary? (flags : Flags) (text : List Char) : Option (Assertion × List Char) :=
  let ascii := !flags.unicode
  match text with
  | '\x7b' :: rest =>
    match flags.skip rest with
    | [] => none
    | c :: _ =>
      if isBoundaryLetter c then do
        let (name, after) ← bracedText? flags rest
        match String.ofList name with
        | "start" => some (.wordStart ascii, after)
        | "end" => some (.wordEnd ascii, after)
        | "start-half" => some (.wordStartHalf ascii, after)
        | "end-half" => some (.wordEndHalf ascii, after)
        | _ => none
      else some (.wordBoundary ascii, text)
  | _ => some (.wordBoundary ascii, text)

/-! ### All escapes -/

/-- The characters with a letter of their own. -/
def escapedControl? : Char → Option Char
  | 'a' => some '\x07'
  | 'f' => some '\x0c'
  | 't' => some '\t'
  | 'n' => some '\n'
  | 'r' => some '\r'
  | 'v' => some '\x0b'
  | _ => none

/-- Does the character stand for itself after a backslash? -/
def isEscapable (c : Char) : Bool :=
  decide (c.toNat < 0x80) && !c.isAlphanum && c != '<' && c != '>'

/-- Reads an escape, after the backslash. -/
def escape? (flags : Flags) : List Char → Option (Primitive × List Char)
  | [] => none
  | c :: rest =>
    let ascii := !flags.unicode
    if c = 'x' ∨ c = 'u' ∨ c = 'U' then do
      let (c, rest) ← byCode? flags c rest
      return (.literal c, rest)
    else if c = 'p' ∨ c = 'P' then do
      let (set, rest) ← property? flags (c == 'P') rest
      return (.set set, rest)
    else if c.toLower = 'd' ∨ c.toLower = 's' ∨ c.toLower = 'w' then do
      return (.set (← escapedClass? flags c), rest)
    else if isEscapable c then some (.literal c, rest)
    else
      match c with
      | 'A' => some (.assertion .textStart, rest)
      | 'z' => some (.assertion .textEnd, rest)
      | 'b' => do
        let (assertion, rest) ← boundary? flags rest
        return (.assertion assertion, rest)
      | 'B' => some (.assertion (.notWordBoundary ascii), rest)
      | '<' => some (.assertion (.wordStart ascii), rest)
      | '>' => some (.assertion (.wordEnd ascii), rest)
      | c => do return (.literal (← escapedControl? c), rest)

end Markup.Pattern
