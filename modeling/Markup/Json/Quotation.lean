import Markup.Json.Fault
import Markup.Text.Hex

/-!
# Quotations

A string in JSON text is read character by character. An escape by code takes four hexadecimal
digits, counted in bytes of the text: with fewer than four bytes left the text has ended, and
otherwise they are checked together. Codes beyond the basic plane come as two escapes, a leading and
a trailing surrogate.

A member that is not wanted is read in a lax way that does not pair surrogates.
-/

namespace Markup.Json

/-- Where a quotation has been read to. -/
inductive Spot
  /-- Between characters. -/
  | plain
  /-- After a backslash. -/
  | escape
  /-- Inside an escape by code: the bytes taken, the code if all were digits, and the leading
  surrogate that the code must complete. -/
  | code (bytes : Nat) (value : Option Nat) (lead : Option Nat)
  /-- After a leading surrogate. -/
  | paired (lead : Nat)
  /-- After a leading surrogate and a backslash. -/
  | pairedEscape (lead : Nat)

/-- What has been read of a quotation.
Source: the strings of the JSON reader behind `from_json` -/
structure Quotation where
  /-- Where reading stands. -/
  spot : Spot
  /-- The characters so far, the last one first. -/
  chars : List Char
  /-- Are surrogates left unchecked? -/
  lax : Bool

namespace Quotation

/-- After the opening quote. -/
def start (lax : Bool) : Quotation :=
  ⟨.plain, [], lax⟩

/-- The text that has been read. -/
def text (q : Quotation) : String :=
  String.ofList q.chars.reverse

/-- The quotation with one more character, between characters again. -/
def push (q : Quotation) (c : Char) : Quotation :=
  { q with spot := .plain, chars := c :: q.chars }

/-- Is the code a leading surrogate? -/
def isLead (code : Nat) : Bool :=
  decide (0xD800 ≤ code) && decide (code ≤ 0xDBFF)

/-- Is the code a trailing surrogate? -/
def isTrail (code : Nat) : Bool :=
  decide (0xDC00 ≤ code) && decide (code ≤ 0xDFFF)

/-- The code point of a pair of surrogates. -/
def combine (lead trail : Nat) : Nat :=
  0x10000 + (lead - 0xD800) * 0x400 + (trail - 0xDC00)

/-- Takes a complete code. -/
def takeCode (q : Quotation) (lead : Option Nat) (code : Nat) : Except Fault Quotation :=
  if q.lax then .ok { q with spot := .plain }
  else
    match lead with
    | some lead =>
      if isTrail code then .ok (q.push (.ofNat (combine lead code))) else .error .loneSurrogate
    | none =>
      if isTrail code then .error .loneSurrogate
      else if isLead code then .ok { q with spot := .paired code }
      else .ok (q.push (.ofNat code))

/-- The character that a simple escape stands for. -/
def escaped? (c : Char) : Option Char :=
  match c with
  | '"' => some '"'
  | '\\' => some '\\'
  | '/' => some '/'
  | 'b' => some '\x08'
  | 'f' => some '\x0c'
  | 'n' => some '\n'
  | 'r' => some '\r'
  | 't' => some '\t'
  | _ => none

/-- Takes one character; `none` is the closing quote. -/
def step (q : Quotation) (c : Char) : Except Fault (Option Quotation) :=
  match q.spot with
  | .plain =>
    if c = '"' then .ok none
    else if c = '\\' then .ok (some { q with spot := .escape })
    else if c.toNat < 0x20 then .error .controlCharacter
    else .ok (some (q.push c))
  | .escape =>
    if c = 'u' then .ok (some { q with spot := .code 0 (some 0) none })
    else
      match escaped? c with
      | some c => .ok (some (q.push c))
      | none => .error .invalidEscape
  | .code bytes value lead =>
    let bytes := bytes + c.utf8Size
    let value := do return (← value) * 16 + (← Text.hexDigit? c)
    if bytes < 4 then .ok (some { q with spot := .code bytes value lead })
    else
      match value with
      | some code => some <$> q.takeCode lead code
      | none => .error .invalidEscape
  | .paired lead =>
    if c = '\\' then .ok (some { q with spot := .pairedEscape lead }) else .error .unpairedSurrogate
  | .pairedEscape lead =>
    if c = 'u' then .ok (some { q with spot := .code 0 (some 0) (some lead) })
    else .error .unpairedSurrogate

end Quotation

end Markup.Json
