import Markup.NumberText

/-!
# JSON documents

A JSON document as data, and its compact text. Members keep their order and may repeat a name; what
a repeated name means is for the reader of the document to say.

Numbers come in two kinds because a reader can tell them apart: an integer that fits into 64 bits
is exact, and every other number is a double.
-/

namespace Markup

/-- A number of a JSON document. -/
inductive Json.Number
  /-- An integer. -/
  | integer (value : Int)
  /-- A double. -/
  | real (value : Double)
deriving DecidableEq

/-- A JSON document. -/
inductive Json
  /-- The word `null`. -/
  | null
  /-- A truth value. -/
  | boolean (value : Bool)
  /-- A number. -/
  | number (value : Json.Number)
  /-- A text. -/
  | string (value : String)
  /-- A list of documents. -/
  | array (items : List Json)
  /-- Named documents, in order. -/
  | object (members : List (String × Json))

namespace Json

/-- The double that a number denotes. -/
def Number.toDouble : Number → Double
  | .integer value => .ofInt value
  | .real value => value

/-- The text of a number. A real number always shows a fraction or an exponent. -/
def Number.text : Number → String
  | .integer value => value.repr
  | .real value => value.text .exchanged

/-! ### Compact text -/

/-- A character inside a quoted text. Only the quote, the backslash and the controls need an
escape. -/
def escapedChar (c : Char) : List Char :=
  match c with
  | '"' => ['\\', '"']
  | '\\' => ['\\', '\\']
  | '\x08' => ['\\', 'b']
  | '\x0c' => ['\\', 'f']
  | '\n' => ['\\', 'n']
  | '\r' => ['\\', 'r']
  | '\t' => ['\\', 't']
  | c =>
    if c.toNat < 0x20 then
      ['\\', 'u', '0', '0', Nat.digitChar (c.toNat / 16), Nat.digitChar (c.toNat % 16)]
    else [c]

/-- A text between quotes. -/
def quoted (text : String) : String :=
  String.ofList ('"' :: (text.toList.flatMap escapedChar ++ ['"']))

mutual

/-- The text of a document, without any blank.
Source: the writer behind `Serialize` -/
def compact : Json → String
  | .null => "null"
  | .boolean value => if value then "true" else "false"
  | .number value => value.text
  | .string value => quoted value
  | .array items => "[" ++ compactItems items ++ "]"
  | .object members => "\x7b" ++ compactMembers members ++ "\x7d"
termination_by structural json => json

/-- The items of a list, divided by commas. -/
def compactItems : List Json → String
  | [] => ""
  | [item] => item.compact
  | item :: items => item.compact ++ "," ++ compactItems items
termination_by structural items => items

/-- The members of an object, divided by commas. -/
def compactMembers : List (String × Json) → String
  | [] => ""
  | [(name, value)] => quoted name ++ ":" ++ value.compact
  | (name, value) :: members =>
    quoted name ++ ":" ++ value.compact ++ "," ++ compactMembers members
termination_by structural members => members

end

end Json

end Markup
