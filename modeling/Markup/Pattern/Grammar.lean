import Markup.Pattern.Bracket

/-!
# Reading patterns

A pattern is read from left to right. Open groups are kept on a list, each with the flags to return
to, so the reader is a loop over the text; `Expression.parse?` answers `none` for a malformed
pattern. What can be malformed: groups and classes that are not closed or not opened, a repetition
of nothing, a count that is missing, too large or descending, unknown escapes, flags and classes,
group names that are empty, repeated or not names, and every construct that would need a search with
backtracking (back references, looking around).
-/

namespace Markup.Pattern

/-! ### Parts -/

/-- A part of a sequence. -/
inductive Atom
  /-- An expression, and how deep it is nested. -/
  | expression (expression : Expression) (depth : Nat)
  /-- A change of flags, which cannot be repeated. -/
  | flags

/-- The expression of a list of expressions in a row, with the depth of the sequence. -/
def sequenceOf (atoms : List Atom) : Expression × Nat :=
  let parts := atoms.filterMap fun
    | .expression expression _ => some expression
    | .flags => none
  let depth := atoms.foldl (fun depth atom =>
    match atom with
    | .expression _ d => max depth d
    | .flags => depth) 0
  match parts with
  | [] => (.empty, depth + if atoms.length ≤ 1 then 0 else 1)
  | first :: rest => (rest.foldl .sequence first, depth + if atoms.length ≤ 1 then 0 else 1)

/-- The parts of a group that have been read. -/
structure Level where
  /-- The complete alternatives, the last one first, with their depths. -/
  branches : List (Expression × Nat)
  /-- The parts of the current alternative, the last one first. -/
  atoms : List Atom

namespace Level

/-- Nothing has been read. -/
def empty : Level :=
  ⟨[], []⟩

/-- One more part. -/
def push (level : Level) (atom : Atom) : Level :=
  { level with atoms := atom :: level.atoms }

/-- The next alternative begins. -/
def branch (level : Level) : Level :=
  ⟨sequenceOf level.atoms.reverse :: level.branches, []⟩

/-- The expression of the whole group, and how deep it is nested. -/
def expression (level : Level) : Expression × Nat :=
  let last := sequenceOf level.atoms.reverse
  match level.branches with
  | [] => last
  | branches =>
    (branches.foldl (fun right left => .alternative left.1 right) last.1,
      branches.foldl (fun depth branch => max depth branch.2) last.2 + 1)

end Level

/-- The state of reading a pattern. -/
structure PatternState where
  /-- The flags in force. -/
  flags : Flags
  /-- The group that is being read. -/
  level : Level
  /-- The groups around it, the innermost first, with their flags. -/
  outer : List (Level × Flags)
  /-- The group names given so far. -/
  names : List String
  /-- What is left of the pattern. -/
  rest : List Char

namespace PatternState

/-! ### Repetition -/

/-- Repeats the last part. -/
def repeat? (state : PatternState) (least : Nat) (most : Option Nat) (rest : List Char) :
    Option PatternState :=
  match state.level.atoms with
  | .expression body depth :: atoms =>
    some
      { state with
        level :=
          { state.level with
            atoms := .expression (.repetition body least most) (depth + 1) :: atoms }
        rest }
  | _ => none

/-- What follows the mark of a reluctant repetition, if there is one. -/
def dropReluctant : List Char → List Char
  | '?' :: rest => rest
  | rest => rest

/-- The largest count: a count has 32 bits. -/
def maxCount : Nat :=
  0xFFFFFFFF

/-- Takes digits from the beginning of a text, and what the flags make the pattern ignore between
them. -/
def takeDigits (flags : Flags) : (inComment : Bool) → List Char → List Char × List Char
  | _, [] => ([], [])
  | inComment, c :: rest =>
    if inComment then takeDigits flags (c != '\n') rest
    else if c.isDigit then
      let (digits, rest) := takeDigits flags false rest
      (c :: digits, rest)
    else if flags.verbose && Text.isBlank c then takeDigits flags false rest
    else if flags.verbose && c == '#' then takeDigits flags true rest
    else ([], c :: rest)

/-- Reads a count. Blanks may stand around it. -/
def count? (flags : Flags) (text : List Char) : Option Nat × List Char :=
  let (digits, rest) := takeDigits flags false (text.dropWhile Text.isBlank)
  let rest := flags.skip (rest.dropWhile Text.isBlank)
  let count := digits.foldl (fun count c => count * 10 + (c.toNat - '0'.toNat)) 0
  (if digits.isEmpty ∨ maxCount < count then none else some count, rest)

/-- Reads counts in braces, after the opening brace, and repeats the last part. -/
def repeatCounted? (state : PatternState) (text : List Char) : Option PatternState := do
  let flags := state.flags
  let (least, text) := count? flags (flags.skip text)
  let least ← least
  let (most, text) ←
    match text with
    | ',' :: text =>
      match flags.skip text with
      | '\x7d' :: text => some (none, '\x7d' :: text)
      | text => do
        let (most, text) := count? flags text
        let most ← most
        if most < least then none
        some (some most, text)
    | text => some (some least, text)
  match text with
  | '\x7d' :: text => state.repeat? least most (dropReluctant (flags.skip text))
  | _ => none

/-! ### Groups -/

/-- Can the character stand in the name of a group? -/
def isNameChar (first : Bool) (c : Char) : Bool :=
  c == '_' ||
    if first then Text.isLetter c
    else Text.isLetterOrNumber c || c == '.' || c == '[' || c == ']'

/-- Reads the name of a group, up to the closing angle bracket. -/
def groupName? (text : List Char) : Option (String × List Char) :=
  let name := text.takeWhile (· != '>')
  match name, text.dropWhile (· != '>') with
  | first :: others, _ :: rest =>
    if isNameChar true first && others.all (isNameChar false) then
      some (String.ofList name, rest)
    else none
  | _, _ => none

/-- Begins a group. -/
def enter (state : PatternState) (flags : Flags) (rest : List Char) : PatternState :=
  { state with flags, level := .empty, outer := (state.level, state.flags) :: state.outer, rest }

/-- Begins a group with a name. -/
def enterNamed? (state : PatternState) (text : List Char) : Option PatternState := do
  let (name, rest) ← groupName? text
  if state.names.contains name then none
  return { state.enter state.flags rest with names := name :: state.names }

/-- Reads what follows an opening parenthesis. -/
def openGroup? (state : PatternState) (text : List Char) : Option PatternState :=
  match state.flags.skip text with
  | '?' :: '=' :: _ | '?' :: '!' :: _ => none
  | '?' :: '<' :: '=' :: _ | '?' :: '<' :: '!' :: _ => none
  | '?' :: 'P' :: '<' :: rest | '?' :: '<' :: rest => state.enterNamed? rest
  | '?' :: rest => do
    let group ← state.flags.parse? rest
    if group.opensGroup then return state.enter group.flags group.rest
    else if group.isEmpty then none
    else
      return { state with
        flags := group.flags, level := state.level.push .flags, rest := group.rest }
  | rest => some (state.enter state.flags rest)

/-- Reads what follows a closing parenthesis. -/
def closeGroup? (state : PatternState) (rest : List Char) : Option PatternState :=
  match state.outer with
  | [] => none
  | (level, flags) :: outer =>
    let (expression, depth) := state.level.expression
    some { state with flags, outer, rest, level := level.push (.expression expression (depth + 1)) }

/-! ### Single parts -/

/-- The expression of a character that stands for itself. -/
def literal (flags : Flags) (c : Char) : Expression :=
  .set (flags.fold (.single c))

/-- The expression of the smallest parts. -/
def ofPrimitive (flags : Flags) : Primitive → Expression
  | .literal c => literal flags c
  | .set set => .set set
  | .assertion assertion => .assertion assertion

/-- The expression of a dot. Without the classes of all scripts it would match parts of
characters. -/
def dot? (flags : Flags) : Option Expression :=
  if !flags.unicode then none
  else
    some (.set (.allBut
      (if flags.dotAll then [] else if flags.pairs then ['\n', '\r'] else ['\n'])))

/-- The expression of the anchor at the beginning. -/
def startAnchor (flags : Flags) : Expression :=
  .assertion (if flags.lines then .lineStart flags.pairs else .textStart)

/-- The expression of the anchor at the end. -/
def endAnchor (flags : Flags) : Expression :=
  .assertion (if flags.lines then .lineEnd flags.pairs else .textEnd)

/-- One more part. -/
def push (state : PatternState) (expression : Expression) (depth : Nat) (rest : List Char) :
    PatternState :=
  { state with level := state.level.push (.expression expression depth), rest }

/-! ### The loop -/

/-- Reads one part of a pattern. -/
def step? (state : PatternState) (c : Char) (rest : List Char) : Option PatternState :=
  let flags := state.flags
  match c with
  | '(' => state.openGroup? rest
  | ')' => state.closeGroup? rest
  | '|' => some { state with level := state.level.branch, rest }
  | '[' => do
    let (set, depth, rest) ← class? flags rest
    return state.push (.set set) depth rest
  | '?' => state.repeat? 0 (some 1) (dropReluctant rest)
  | '*' => state.repeat? 0 none (dropReluctant rest)
  | '+' => state.repeat? 1 none (dropReluctant rest)
  | '\x7b' => state.repeatCounted? rest
  | '\\' => do
    let (primitive, rest) ← escape? flags rest
    return state.push (ofPrimitive flags primitive) 0 rest
  | '.' => do return state.push (← dot? flags) 0 rest
  | '^' => some (state.push (startAnchor flags) 0 rest)
  | '$' => some (state.push (endAnchor flags) 0 rest)
  | c => some (state.push (literal flags c) 0 rest)

/-- Reads a pattern to its end. Every step takes something from the pattern. -/
def run? (state : PatternState) : Option PatternState :=
  match state.flags.skip state.rest with
  | [] => some state
  | c :: rest =>
    match state.step? c rest with
    | none => none
    | some next => if next.rest.length < state.rest.length then next.run? else none
termination_by state.rest.length

/-- Nothing has been read. -/
def start (text : String) : PatternState :=
  ⟨.initial, .empty, [], [], text.toList⟩

end PatternState

/-- How deep a pattern may be nested. -/
def maxDepth : Nat :=
  250

/-- How large a pattern may be with its repetitions written out. A class counts as one character,
which makes this a rough limit. -/
def maxSize : Nat :=
  327680

/-- Reads a pattern; `none` if it is malformed or too large. -/
def Expression.parse? (text : String) : Option Expression := do
  let state ← (PatternState.start text).run?
  if !state.outer.isEmpty then none
  let (expression, depth) := state.level.expression
  if maxDepth < depth ∨ maxSize < expression.size then none
  return expression

end Markup.Pattern
