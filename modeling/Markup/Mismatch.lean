import Markup.NumberText
import Markup.Text.Shown

/-!
# Mismatches

Reading a tree or a configuration can meet a datum of a kind that does not belong where it stands.
A `Mismatch` says what was found and what was expected; its wording is fixed here, once, for data
read from JSON text and for data offered directly. The two differ only in the style of numbers.
-/

namespace Markup

/-- What was found. -/
inductive Found
  /-- The word `null`. -/
  | null
  /-- An optional datum. -/
  | option
  /-- The datum without information. -/
  | unit
  /-- A truth value. -/
  | boolean (value : Bool)
  /-- An integer. -/
  | integer (value : Int)
  /-- A number that is not known to be an integer. -/
  | real (value : Double)
  /-- A text. -/
  | string (value : String)
  /-- Raw bytes. -/
  | bytes
  /-- A list. -/
  | sequence
  /-- A collection of named members. -/
  | map
deriving DecidableEq

/-- What was expected. -/
inductive Expected
  /-- Any tree value. -/
  | value
  /-- A node. -/
  | node
  /-- A tag. -/
  | tag
  /-- An attribute map. -/
  | attributes
  /-- A configuration. -/
  | options
  /-- A list. -/
  | sequence
  /-- A truth value. -/
  | boolean
  /-- A number. -/
  | number
deriving DecidableEq

/-- A datum that does not belong where it stands. -/
inductive Mismatch
  /-- The datum is of another kind than expected. -/
  | kind (found : Found) (expected : Expected)
  /-- The datum is of a kind that may be right, but its value is not. -/
  | value (found : Found) (expected : Expected)
deriving DecidableEq

/-- The words for what was expected.
Source: `expecting` of the visitors -/
def Expected.text : Expected → String
  | .value => "a string, number, boolean, null, array or node"
  | .node => "struct Node"
  | .tag => "a tag name or `false`"
  | .attributes => "a map of attribute names to values"
  | .options => "struct Options"
  | .sequence => "a sequence"
  | .boolean => "a boolean"
  | .number => "f64"

/-- The words for what was found, with real numbers in the given style. -/
def Found.text (style : NumberStyle) : Found → String
  | .null => "null"
  | .option => "Option value"
  | .unit => "unit value"
  | .boolean value => "boolean `" ++ (if value then "true" else "false") ++ "`"
  | .integer value => "integer `" ++ value.repr ++ "`"
  | .real value => "floating point `" ++ value.text style ++ "`"
  | .string value => "string " ++ Text.shown value
  | .bytes => "byte array"
  | .sequence => "sequence"
  | .map => "map"

/-- The message of a mismatch, with real numbers in the given style.
Source: the messages of `invalid_type` and `invalid_value` -/
def Mismatch.message (style : NumberStyle) : Mismatch → String
  | .kind found expected =>
    "invalid type: " ++ found.text style ++ ", expected " ++ expected.text
  | .value found expected =>
    "invalid value: " ++ found.text style ++ ", expected " ++ expected.text

end Markup
