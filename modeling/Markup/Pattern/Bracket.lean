import Markup.Pattern.Escape

/-!
# Bracketed classes

A bracketed class lists characters, ranges, escapes and further classes; `&&`, `--` and `~~` stand
for intersection, difference and symmetric difference and group to the left. Directly after the
opening bracket, and after a `^` that negates the class, dashes stand for themselves, and so does a
closing bracket: there is no way to write an empty class.

Nested brackets are kept on a list of what is pending, so the reader is a loop over the text.
-/

namespace Markup.Pattern

/-- An operation between two lists of items. -/
inductive SetOperation
  /-- What both sides have. -/
  | inter
  /-- What only the left side has. -/
  | diff
  /-- What one side alone has. -/
  | symmDiff

/-- Carries out an operation. -/
def SetOperation.apply : SetOperation → CharSet → CharSet → CharSet
  | .inter, left, right => .inter left right
  | .diff, left, right => left.diff right
  | .symmDiff, left, right => left.symmDiff right

/-- Closes a set under case variants if the flags say so. -/
def Flags.fold (flags : Flags) (set : CharSet) : CharSet :=
  if flags.caseless then
    if flags.unicode then .folded set else .asciiFolded set
  else set

/-- The set, closed under case variants and negated as told. Without the classes of all scripts a
class cannot be negated, because it would match parts of characters. -/
def Flags.finish? (flags : Flags) (negated : Bool) (set : CharSet) : Option CharSet :=
  if negated && !flags.unicode then none else some ((flags.fold set).negatedIf negated)

/-- Items listed so far between two operations. -/
structure Items where
  /-- The characters listed. -/
  set : CharSet
  /-- The number of items. -/
  count : Nat
  /-- How deep the items are nested. -/
  depth : Nat

namespace Items

/-- No items. -/
def none : Items :=
  ⟨.empty, 0, 0⟩

/-- One more item. -/
def add (items : Items) (set : CharSet) (depth : Nat) : Items :=
  ⟨.union items.set set, items.count + 1, max items.depth depth⟩

/-- How deep the items are nested as one set. -/
def nesting (items : Items) : Nat :=
  if items.count ≤ 1 then items.depth else items.depth + 1

end Items

/-- What waits for the set that is being read. -/
inductive Pending
  /-- A bracket: the items before it, and whether it is negated. -/
  | bracket (before : Items) (negated : Bool)
  /-- An operation: its left side, and how deep that is nested. -/
  | operation (operation : SetOperation) (left : CharSet) (depth : Nat)

/-- Carries out the operation that waits for its right side, if there is one. -/
def applyPending (flags : Flags) (pending : List Pending) (items : Items) :
    List Pending × CharSet × Nat :=
  match pending with
  | .operation operation left depth :: rest =>
    (rest, operation.apply (flags.fold left) (flags.fold items.set), max depth items.nesting + 1)
  | pending => (pending, items.set, items.nesting)

/-! ### Opening brackets -/

/-- Counts the dashes at the beginning of a text, and answers what follows them. -/
def leadingDashes (flags : Flags) : (inComment : Bool) → List Char → Nat × List Char
  | _, [] => (0, [])
  | inComment, c :: rest =>
    if inComment then leadingDashes flags (c != '\n') rest
    else if flags.verbose && Text.isBlank c then leadingDashes flags false rest
    else if flags.verbose && c == '#' then leadingDashes flags true rest
    else if c = '-' then
      let (count, rest) := leadingDashes flags false rest
      (count + 1, rest)
    else (0, c :: rest)

/-- Reads what follows an opening bracket: whether the class is negated, and the dashes or the
closing bracket that stand for themselves. -/
def openBracket (flags : Flags) (text : List Char) : Bool × Items × List Char :=
  let (negated, text) :=
    match flags.skip text with
    | '^' :: rest => (true, rest)
    | text => (false, text)
  let (dashes, text) := leadingDashes flags false text
  let items : Items := if dashes = 0 then .none else ⟨.single '-', dashes, 0⟩
  match dashes, text with
  | 0, ']' :: rest => (negated, items.add (.single ']') 0, flags.skip rest)
  | _, text => (negated, items, text)

/-! ### Items -/

/-- Divides a text before the first colon. -/
def beforeColon (text : List Char) : List Char × List Char :=
  (text.takeWhile (· != ':'), text.dropWhile (· != ':'))

/-- Reads a class by name, after the opening bracket. -/
def namedClass? (flags : Flags) (text : List Char) : Option (Option CharSet × List Char) :=
  match text with
  | ':' :: rest =>
    let (negated, rest) :=
      match rest with
      | '^' :: rest => (true, rest)
      | rest => (false, rest)
    match beforeColon rest with
    | (name, ':' :: ']' :: rest) => do
      let set ← CharSet.ofClassName? (String.ofList name)
      return (flags.finish? negated set, rest)
    | _ => none
  | _ => none

/-- Reads a single item. -/
def item? (flags : Flags) : List Char → Option (Primitive × List Char)
  | [] => none
  | '\\' :: rest => escape? flags rest
  | c :: rest => some (.literal c, rest)

/-- A literal character of a class. Without the classes of all scripts it must be a seven-bit
one. -/
def classLiteral? (flags : Flags) : Primitive → Option Char
  | .literal c => if flags.unicode || c.toNat < 0x80 then some c else none
  | _ => none

/-- The set that an item stands for. -/
def itemSet? (flags : Flags) : Primitive → Option CharSet
  | .set set => some set
  | .assertion _ => none
  | .literal c => (classLiteral? flags (.literal c)).map .single

/-- Does a range follow, and not a dash that stands for itself or begins an operation? -/
def rangeFollows (flags : Flags) : List Char → Bool
  | '-' :: rest =>
    match flags.skip rest with
    | ']' :: _ | '-' :: _ => false
    | _ => true
  | _ => false

/-- Reads an item or a range of characters. -/
def itemOrRange? (flags : Flags) (text : List Char) : Option (CharSet × List Char) := do
  let (first, rest) ← item? flags text
  let rest := flags.skip rest
  if rangeFollows flags rest then
    let (last, rest) ← item? flags (flags.skip rest.tail)
    let first ← classLiteral? flags first
    let last ← classLiteral? flags last
    if first ≤ last then return (.span first last, rest) else none
  else
    return (← itemSet? flags first, rest)

/-! ### The loop -/

/-- The state of reading a class. -/
structure ClassState where
  /-- What waits for the set that is being read. -/
  pending : List Pending
  /-- The items listed so far. -/
  items : Items
  /-- What is left of the pattern. -/
  rest : List Char

/-- What a step of reading a class leads to. -/
inductive ClassStep
  /-- There is more to read. -/
  | more (state : ClassState)
  /-- The class is complete: its set, how deep it is nested, and what is left of the pattern. -/
  | done (set : CharSet) (depth : Nat) (rest : List Char)

namespace ClassState

/-- An operation begins. -/
def operate (flags : Flags) (state : ClassState) (operation : SetOperation) (rest : List Char) :
    ClassStep :=
  let (pending, set, depth) := applyPending flags state.pending state.items
  .more ⟨.operation operation set depth :: pending, .none, rest⟩

/-- A bracket closes. -/
def close? (flags : Flags) (state : ClassState) (rest : List Char) : Option ClassStep := do
  let (pending, set, depth) := applyPending flags state.pending state.items
  match pending with
  | .bracket before negated :: outer =>
    let set ← flags.finish? negated set
    if outer.isEmpty then return .done set (depth + 1) rest
    else return .more ⟨outer, before.add set (depth + 1), rest⟩
  | _ => none

/-- Reads one part of a class. -/
def step? (flags : Flags) (state : ClassState) : Option ClassStep :=
  match flags.skip state.rest with
  | [] => none
  | '[' :: rest =>
    match namedClass? flags rest with
    | some (set, rest) => do return .more { state with items := state.items.add (← set) 0, rest }
    | none =>
      let (negated, items, rest) := openBracket flags rest
      some (.more ⟨.bracket state.items negated :: state.pending, items, rest⟩)
  | ']' :: rest => state.close? flags rest
  | '&' :: '&' :: rest => some (state.operate flags .inter rest)
  | '-' :: '-' :: rest => some (state.operate flags .diff rest)
  | '~' :: '~' :: rest => some (state.operate flags .symmDiff rest)
  | text => do
    let (set, rest) ← itemOrRange? flags text
    return .more { state with items := state.items.add set 0, rest }

/-- Reads a class to its end. Every step takes something from the pattern. -/
def run? (flags : Flags) (state : ClassState) : Option (CharSet × Nat × List Char) :=
  match state.step? flags with
  | none => none
  | some (.done set depth rest) => some (set, depth, rest)
  | some (.more next) =>
    if next.rest.length < state.rest.length then next.run? flags else none
termination_by state.rest.length

end ClassState

/-- Reads a class, after its opening bracket: its set, how deep it is nested, and what is left of
the pattern. -/
def class? (flags : Flags) (text : List Char) : Option (CharSet × Nat × List Char) :=
  let (negated, items, rest) := openBracket flags text
  ClassState.run? flags ⟨[.bracket .none negated], items, rest⟩

end Markup.Pattern
