import Markup.Pattern.CharSet

/-!
# Pattern expressions and matching

A pattern expression is matched by carrying a *front* through it: for every boundary between two
characters of the text, whether a match can have come this far. A set of characters moves the front
one character on, an assertion thins it out, a sequence carries it through both parts, and an
alternative joins the fronts of its branches. A repetition carries it through its body again and
again; as a match only ever moves forward, more rounds than there are boundaries change nothing.

`Expression.occursIn` starts at every boundary at once, so it finds a match anywhere in the text.
Which of several matches would be preferred never matters, so greedy and reluctant repetition are
the same thing here.
-/

namespace Markup.Pattern

/-- A condition on a boundary, where `ascii` restricts words to the seven-bit characters. -/
inductive Assertion
  /-- The beginning of the text. -/
  | textStart
  /-- The end of the text. -/
  | textEnd
  /-- The beginning of a line; `pairs` makes carriage returns end lines too. -/
  | lineStart (pairs : Bool)
  /-- The end of a line; `pairs` makes carriage returns end lines too. -/
  | lineEnd (pairs : Bool)
  /-- Between a word character and one that is none. -/
  | wordBoundary (ascii : Bool)
  /-- Not between a word character and one that is none. -/
  | notWordBoundary (ascii : Bool)
  /-- The beginning of a word. -/
  | wordStart (ascii : Bool)
  /-- The end of a word. -/
  | wordEnd (ascii : Bool)
  /-- After a character that is no word character. -/
  | wordStartHalf (ascii : Bool)
  /-- Before a character that is no word character. -/
  | wordEndHalf (ascii : Bool)
deriving DecidableEq

namespace Assertion

/-- Is there a word character? -/
def isWord (ascii : Bool) (c : Option Char) : Bool :=
  c.any (if ascii then CharSet.asciiWord else CharSet.word).mem

/-- Does the assertion hold between two characters, either of which may be missing? -/
def holds (assertion : Assertion) (before after : Option Char) : Bool :=
  match assertion with
  | .textStart => before.isNone
  | .textEnd => after.isNone
  | .lineStart false => before.isNone || before == some '\n'
  | .lineStart true =>
    before.isNone || before == some '\n' || (before == some '\r' && after != some '\n')
  | .lineEnd false => after.isNone || after == some '\n'
  | .lineEnd true =>
    after.isNone || after == some '\r' || (after == some '\n' && before != some '\r')
  | .wordBoundary ascii => isWord ascii before != isWord ascii after
  | .notWordBoundary ascii => isWord ascii before == isWord ascii after
  | .wordStart ascii => !isWord ascii before && isWord ascii after
  | .wordEnd ascii => isWord ascii before && !isWord ascii after
  | .wordStartHalf ascii => !isWord ascii before
  | .wordEndHalf ascii => !isWord ascii after

end Assertion

/-- A pattern expression. -/
inductive Expression
  /-- Matches at every boundary without moving. -/
  | empty
  /-- One character of a set. -/
  | set (chars : CharSet)
  /-- A condition on the boundary. -/
  | assertion (condition : Assertion)
  /-- The first, then the second. -/
  | sequence (first second : Expression)
  /-- Either of the two. -/
  | alternative (left right : Expression)
  /-- The body at least `least` and at most `most` times in a row. -/
  | repetition (body : Expression) (least : Nat) (most : Option Nat)

/-- For every boundary of a text, whether it has been reached. -/
abbrev Front := List Bool

namespace Front

/-- The boundaries in either front. -/
def join (left right : Front) : Front :=
  List.zipWith (· || ·) left right

/-- The front one character on, where the character is in the set. -/
def past (set : CharSet) (text : List Char) (front : Front) : Front :=
  false :: List.zipWith (fun reached c => reached && set.mem c) front text

/-- The boundaries of the front where the assertion holds. -/
def thinned (assertion : Assertion) (text : List Char) (front : Front) : Front :=
  let before := none :: text.map some
  let after := text.map some ++ [none]
  List.zipWith (fun reached (sides : Option Char × Option Char) =>
    reached && assertion.holds sides.1 sides.2) front (before.zip after)

/-- Applies a step again and again. -/
def rounds (step : Front → Front) : Nat → Front → Front
  | 0, front => front
  | more + 1, front => rounds step more (step front)

/-- Applies a step up to the given number of times and joins all fronts on the way. -/
def upTo (step : Front → Front) : Nat → Front → Front
  | 0, front => front
  | more + 1, front => join front (upTo step more (step front))

end Front

namespace Expression

/-- Carries a front through the expression. -/
def advance (text : List Char) : Expression → Front → Front
  | .empty, front => front
  | .set chars, front => front.past chars text
  | .assertion condition, front => front.thinned condition text
  | .sequence first second, front => advance text second (advance text first front)
  | .alternative left right, front => (advance text left front).join (advance text right front)
  | .repetition body least most, front =>
    let bound := text.length + 1
    let first := Front.rounds (advance text body) (min least bound) front
    let more := (most.map (· - least)).getD bound
    Front.upTo (advance text body) (min more bound) first

/-- Does the expression match somewhere in the text? -/
def occursIn (expression : Expression) (text : String) : Bool :=
  let chars := text.toList
  (expression.advance chars (List.replicate (chars.length + 1) true)).any id

/-- A measure of the expression with its repetitions written out. -/
def size : Expression → Nat
  | .empty => 0
  | .set _ | .assertion _ => 1
  | .sequence first second => first.size + second.size
  | .alternative left right => left.size + right.size + 1
  | .repetition body least most => (body.size + 1) * max least (most.getD (least + 1))

end Expression

end Markup.Pattern
