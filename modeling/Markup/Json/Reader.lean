import Markup.Json.Numeral
import Markup.Json.Quotation

/-!
# Reading JSON text

JSON text is read in one pass from left to right by a machine that takes a character at a time, so
the first fault is the one reported. The machine knows brackets, separators and lexemes; what the
text means is left to a `Sink`, which is told of every bracket, member name and scalar as it comes
and may refuse it. A fault of meaning is therefore reported as soon as the offending datum begins,
whatever follows.

* A sink can turn a member down. Its value is then skipped: it must be well formed, in a somewhat
  laxer sense, and the sink never hears of it.
* With a nesting limit, opening one container too many is a fault. Skipped values do not count.

`Json.read` runs the machine over a text; it is a fold over the characters.
-/

namespace Markup.Json

/-- The two kinds of containers. -/
inductive Bracket
  /-- A list. -/
  | list
  /-- An object. -/
  | object
deriving DecidableEq

/-- A datum without parts. -/
inductive Scalar
  /-- The word `null`. -/
  | null
  /-- A truth value. -/
  | boolean (value : Bool)
  /-- A number. -/
  | number (value : Number)
  /-- A text. -/
  | string (value : String)
deriving DecidableEq

/-- The kind of a scalar, for a message. -/
def Scalar.found : Scalar → Found
  | .null => .null
  | .boolean value => .boolean value
  | .number (.integer value) => .integer value
  | .number (.real value) => .real value
  | .string value => .string value

/-- The kind of a container, for a message. -/
def Bracket.found : Bracket → Found
  | .list => .sequence
  | .object => .map

/-- What a reader of documents does with the parts of a text as they come.
Source: the interface between the JSON reader and the visitors -/
structure Sink (σ : Type) where
  /-- May a container begin here? Asked before the nesting limit is looked at. -/
  mayEnter : σ → Bracket → Except Fault Unit
  /-- A container begins. -/
  enter : σ → Bracket → Except Fault σ
  /-- A member begins; `none` turns it down. -/
  key : σ → String → Except Fault (Option σ)
  /-- A scalar has been read. -/
  scalar : σ → Scalar → Except Fault σ
  /-- The innermost container is complete. -/
  leave : σ → Except Fault σ
  /-- Has the innermost container as many items as it can take? -/
  full : σ → Bool

/-- What is due between two lexemes. -/
inductive Place
  /-- A value. -/
  | value
  /-- An item of a list, after a comma. -/
  | item
  /-- The name of a member, after a comma. -/
  | name
  /-- The colon after a name. -/
  | colon
  /-- The first part of a container, or its end. -/
  | first (bracket : Bracket)
  /-- A comma or the end of a container. -/
  | next (bracket : Bracket)
  /-- Nothing: a comma stands after the last item that a list can take. -/
  | surplus
  /-- The end of the text. -/
  | done
deriving DecidableEq

/-- What the machine is in the middle of. -/
inductive Phase
  /-- Between two lexemes. -/
  | between (place : Place)
  /-- Inside a word: what is left of it, and the scalar that it stands for. -/
  | word (rest : List Char) (scalar : Scalar)
  /-- Inside a number. -/
  | numeral (stage : Stage) (numeral : Numeral)
  /-- Inside a string that is a value. -/
  | text (quotation : Quotation)
  /-- Inside a string that is the name of a member. -/
  | key (quotation : Quotation)

/-- The machine.
Source: the JSON reader behind `from_json` -/
structure Reader (σ : Type) where
  /-- What the machine is in the middle of. -/
  phase : Phase
  /-- The containers that the sink knows to be open, the innermost first. -/
  enclosing : List Bracket
  /-- The open containers of a value that is being skipped. -/
  skipping : Option (List Bracket)
  /-- The state of the sink. -/
  state : σ

namespace Reader

variable {σ : Type} (sink : Sink σ) (limit : Option Nat)

/-- The machine before the first character. -/
def start (state : σ) : Reader σ :=
  ⟨.between .value, [], none, state⟩

/-- Is a value being skipped? -/
def lax (r : Reader σ) : Bool :=
  r.skipping.isSome

/-- The machine between lexemes, where something is due. -/
def awaiting (r : Reader σ) (place : Place) : Reader σ :=
  { r with phase := .between place }

/-- What is due after a complete value. A value is skipped as a member of an object. -/
def following (r : Reader σ) : Place :=
  match r.skipping with
  | some (bracket :: _) => .next bracket
  | some [] => .next .object
  | none =>
    match r.enclosing with
    | bracket :: _ => .next bracket
    | [] => .done

/-- The machine after a complete value. A skipped value is over when its last container is. -/
def completed (r : Reader σ) : Reader σ :=
  { r with skipping := r.skipping.filter (!·.isEmpty) }.awaiting r.following

/-- Takes a scalar. -/
def takeScalar (r : Reader σ) (scalar : Scalar) : Except Fault (Reader σ) :=
  if r.lax then .ok r.completed
  else do
    let state ← sink.scalar r.state scalar
    return { r with state }.completed

/-- Takes a number. Skipped numbers may be out of range. -/
def takeNumeral (r : Reader σ) (numeral : Numeral) : Except Fault (Reader σ) :=
  if r.lax then .ok r.completed
  else
    match numeral.number? with
    | some value => r.takeScalar sink (.number value)
    | none => .error .numberOutOfRange

/-- Takes the name of a member. -/
def takeName (r : Reader σ) (name : String) : Except Fault (Reader σ) :=
  if r.lax then .ok (r.awaiting .colon)
  else do
    match ← sink.key r.state name with
    | some state => return { r with state }.awaiting .colon
    | none => return { r with skipping := some [] }.awaiting .colon

/-- Takes an opening bracket. -/
def takeOpening (r : Reader σ) (bracket : Bracket) : Except Fault (Reader σ) :=
  match r.skipping with
  | some brackets =>
    .ok ({ r with skipping := some (bracket :: brackets) }.awaiting (.first bracket))
  | none => do
    sink.mayEnter r.state bracket
    if limit.any (· ≤ r.enclosing.length) then .error .tooDeep
    let state ← sink.enter r.state bracket
    return { r with state, enclosing := bracket :: r.enclosing }.awaiting (.first bracket)

/-- Takes a closing bracket. -/
def takeClosing (r : Reader σ) : Except Fault (Reader σ) :=
  match r.skipping with
  | some brackets => .ok { r with skipping := some brackets.tail }.completed
  | none => do
    let state ← sink.leave r.state
    return { r with state, enclosing := r.enclosing.tail }.completed

/-- Takes the first character of a value. -/
def takeFirst (r : Reader σ) (c : Char) : Except Fault (Reader σ) :=
  match c with
  | 'n' => .ok { r with phase := .word ['u', 'l', 'l'] .null }
  | 't' => .ok { r with phase := .word ['r', 'u', 'e'] (.boolean true) }
  | 'f' => .ok { r with phase := .word ['a', 'l', 's', 'e'] (.boolean false) }
  | '"' => .ok { r with phase := .text (.start r.lax) }
  | '[' => r.takeOpening sink limit .list
  | '\x7b' => r.takeOpening sink limit .object
  | '-' => .ok { r with phase := .numeral .sign (.start true) }
  | c =>
    match Stage.sign.next c with
    | .goes stage => .ok { r with phase := .numeral stage ((Numeral.start false).push stage c) }
    | _ => .error .expectedValue

/-- Is the character blank space? -/
def isBlank (c : Char) : Bool :=
  c == ' ' || c == '\n' || c == '\t' || c == '\r'

/-- Takes a character between lexemes. -/
def takeBetween (r : Reader σ) (place : Place) (c : Char) : Except Fault (Reader σ) :=
  if isBlank c then .ok (r.awaiting place)
  else
    match place with
    | .value => r.takeFirst sink limit c
    | .item => if c = ']' ∧ !r.lax then .error .trailingComma else r.takeFirst sink limit c
    | .name =>
      if c = '"' then .ok { r with phase := .key (.start r.lax) }
      else if c = '\x7d' ∧ !r.lax then .error .trailingComma
      else .error .nameNotString
    | .colon => if c = ':' then .ok (r.awaiting .value) else .error .expectedColon
    | .first .list => if c = ']' then r.takeClosing sink else r.takeFirst sink limit c
    | .first .object =>
      if c = '\x7d' then r.takeClosing sink
      else if c = '"' then .ok { r with phase := .key (.start r.lax) }
      else .error .nameNotString
    | .next .list =>
      let full := !r.lax && sink.full r.state
      if c = ']' then r.takeClosing sink
      else if c = ',' then .ok (r.awaiting (if full then .surplus else .item))
      else .error (if full then .trailingCharacters else .expectedListSeparator)
    | .next .object =>
      if c = '\x7d' then r.takeClosing sink
      else if c = ',' then .ok (r.awaiting .name)
      else .error .expectedObjectSeparator
    | .surplus => .error (if c = ']' then .trailingComma else .trailingCharacters)
    | .done => .error .trailingCharacters

/-- Takes a character. -/
def step (r : Reader σ) (c : Char) : Except Fault (Reader σ) :=
  match r.phase with
  | .between place => r.takeBetween sink limit place c
  | .word [] _ => .error .expectedWord
  | .word (due :: rest) scalar =>
    if c ≠ due then .error .expectedWord
    else if rest.isEmpty then r.takeScalar sink scalar
    else .ok { r with phase := .word rest scalar }
  | .numeral stage numeral =>
    match stage.next c with
    | .goes stage => .ok { r with phase := .numeral stage (numeral.push stage c) }
    | .fails => .error .invalidNumber
    | .ends => do
      let r ← r.takeNumeral sink numeral
      r.takeBetween sink limit r.following c
  | .text quotation => do
    match ← quotation.step c with
    | some quotation => return { r with phase := .text quotation }
    | none => r.takeScalar sink (.string quotation.text)
  | .key quotation => do
    match ← quotation.step c with
    | some quotation => return { r with phase := .key quotation }
    | none => r.takeName sink quotation.text

/-- What the end of the text means between lexemes. -/
def finishBetween (r : Reader σ) : Place → Except Fault σ
  | .value | .item => .error .endInValue
  | .name => .error (if r.lax then .endInObject else .endInValue)
  | .colon => .error .endInObject
  | .first .list | .next .list => .error .endInList
  | .first .object | .next .object => .error .endInObject
  | .surplus => .error .trailingCharacters
  | .done => .ok r.state

/-- What the end of the text means. -/
def finish (r : Reader σ) : Except Fault σ :=
  match r.phase with
  | .between place => r.finishBetween place
  | .word _ _ => .error .endInValue
  | .numeral stage numeral =>
    if stage.isComplete then do
      let r ← r.takeNumeral sink numeral
      r.finishBetween r.following
    else .error (if r.lax then .invalidNumber else .endInValue)
  | .text _ | .key _ => .error .endInString

/-- Takes one character after another. -/
def run (r : Reader σ) (text : List Char) : Except Fault (Reader σ) :=
  text.foldlM (step sink limit) r

end Reader

/-- Reads a whole text into a sink, with at most `limit` containers open at once.
Source: `from_json`; `disable_recursion_limit` takes the limit away -/
def read {σ : Type} (sink : Sink σ) (limit : Option Nat) (state : σ) (text : String) :
    Except Fault σ := do
  let r ← (Reader.start state).run sink limit text.toList
  r.finish sink

/-- The number of containers that may be open at once where nesting is limited.
Source: the recursion limit of the JSON reader -/
def nestingLimit : Nat :=
  127

end Markup.Json
