import Markup.Mismatch

/-!
# Faults of JSON text

Reading stops at the first fault. A `Fault` is its cause; the wording and the class of every cause
are fixed here. The place of the fault is left out: the source ends every message with the line and
the column at which reading stopped, and the messages here end before that.
-/

namespace Markup.Json

/-- Why reading a JSON text fails. -/
inductive Fault
  /-- The text ends where a value is due, or inside a word or a number. -/
  | endInValue
  /-- The text ends inside a list. -/
  | endInList
  /-- The text ends inside an object. -/
  | endInObject
  /-- The text ends inside a string. -/
  | endInString
  /-- Something else stands where a value is due. -/
  | expectedValue
  /-- A word begins like `null`, `true` or `false` and goes on differently. -/
  | expectedWord
  /-- A number is malformed. -/
  | invalidNumber
  /-- A number is beyond the largest double. -/
  | numberOutOfRange
  /-- A string holds a bare control character. -/
  | controlCharacter
  /-- An unknown or malformed escape. -/
  | invalidEscape
  /-- A surrogate code without its partner. -/
  | loneSurrogate
  /-- A leading surrogate code that no second escape follows. -/
  | unpairedSurrogate
  /-- Neither a comma nor the end of the list. -/
  | expectedListSeparator
  /-- Neither a comma nor the end of the object. -/
  | expectedObjectSeparator
  /-- No colon after a member's name. -/
  | expectedColon
  /-- A member's name is not a string. -/
  | nameNotString
  /-- A comma before a closing bracket. -/
  | trailingComma
  /-- Something follows where nothing may. -/
  | trailingCharacters
  /-- Too many lists and objects are open at once. -/
  | tooDeep
  /-- A datum does not belong where it stands. -/
  | mismatch (detail : Mismatch)
  /-- A member that may be given once is given again. -/
  | duplicateMember (name : String)
  /-- A void tag is neither a name nor a pattern. -/
  | notVoidTag
  /-- A closing style is neither a word nor a flag. -/
  | notClosing
  /-- A pattern does not compile; the engine reports the reason. -/
  | invalidPattern (source reason : String)
deriving DecidableEq

/-- The class of a fault.
Source: the categories of the errors of the JSON reader -/
inductive Category
  /-- The text is not JSON. -/
  | grammar
  /-- The text ends too early. -/
  | ending
  /-- The text is JSON so far, but of the wrong content. -/
  | data
deriving DecidableEq

namespace Fault

/-- The class that a fault belongs to. -/
def category : Fault → Category
  | .endInValue | .endInList | .endInObject | .endInString => .ending
  | .mismatch _ | .duplicateMember _ | .notVoidTag | .notClosing | .invalidPattern _ _ => .data
  | _ => .grammar

/-- The message of a fault. -/
def message : Fault → String
  | .endInValue => "EOF while parsing a value"
  | .endInList => "EOF while parsing a list"
  | .endInObject => "EOF while parsing an object"
  | .endInString => "EOF while parsing a string"
  | .expectedValue => "expected value"
  | .expectedWord => "expected ident"
  | .invalidNumber => "invalid number"
  | .numberOutOfRange => "number out of range"
  | .controlCharacter => "control character (\\u0000-\\u001F) found while parsing a string"
  | .invalidEscape => "invalid escape"
  | .loneSurrogate => "lone leading surrogate in hex escape"
  | .unpairedSurrogate => "unexpected end of hex escape"
  | .expectedListSeparator => "expected `,` or `]`"
  | .expectedObjectSeparator => "expected `,` or `\x7d`"
  | .expectedColon => "expected `:`"
  | .nameNotString => "key must be a string"
  | .trailingComma => "trailing comma"
  | .trailingCharacters => "trailing characters"
  | .tooDeep => "recursion limit exceeded"
  | .mismatch detail => detail.message .exchanged
  | .duplicateMember name => "duplicate field `" ++ name ++ "`"
  | .notVoidTag => "data did not match any variant of untagged enum RawSingleTag"
  | .notClosing => "data did not match any variant of untagged enum RawClosingSingleTag"
  | .invalidPattern source reason =>
    "invalid single tag pattern `" ++ source ++ "`: " ++ reason

end Fault

end Markup.Json
