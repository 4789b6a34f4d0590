import Markup.Node
import Markup.NumberText

/-!
# Tree values

A tree is a value: nothing, a truth value, a number, a text, a list of values or a node. The same
type serves for the root of a tree, for the children of a node and for attribute values.

Two tests on values drive the rendering, and they differ on purpose. `Value.isVacuous` holds of the
values that leave no trace in child position; `Value.isTruthy` decides whether an element counts as
having content. The number zero is neither vacuous nor truthy, and the empty list is both.

Here and in the other modules of definitions, a `Source` line names what a definition stands for in
the library that it describes; the sections are those of the specification of that library.
-/

namespace Markup

/-- A tree, a part of one, or an attribute value.
Source: `Value` (section 10.2) -/
inductive Value
  /-- Nothing. -/
  | null
  /-- A truth value. -/
  | boolean (value : Bool)
  /-- A number. -/
  | number (value : Double)
  /-- A text. -/
  | string (value : String)
  /-- Several values in order. -/
  | array (items : List Value)
  /-- A node. -/
  | node (node : Node Value)

namespace Value

/-- Does the value leave no trace where a child stands?
Source: `is_vacuous` (sections 3 and 10.2) -/
def isVacuous : Value → Bool
  | .null => true
  | .boolean value => !value
  | .number value => value.isNaN
  | .string value => value.isEmpty
  | .array items => items.isEmpty
  | .node _ => false

/-- Does the value count as content of an element?
Source: `is_truthy` (section 10.5) -/
def isTruthy : Value → Bool
  | .null => false
  | .boolean value => value
  | .number value => !value.isZero && !value.isNaN
  | .string value => !value.isEmpty
  | .array _ => true
  | .node _ => true

/-- The value as a text. Lists and nodes have no text of their own.
Source: `Display` of `Value` -/
def display : Value → String
  | .null => ""
  | .boolean value => if value then "true" else "false"
  | .number value => value.text .displayed
  | .string value => value
  | .array _ => "[OBJECT]"
  | .node _ => "[OBJECT]"

end Value

/-! ### Equality

Values are compared part by part, numbers numerically: a value that holds a NaN anywhere differs
from itself, and zeros of either sign agree. -/

mutual

/-- Are two values equal, numbers compared numerically?
Source: `PartialEq` of `Value` -/
def Value.eq : Value → Value → Bool
  | .null, .null => true
  | .boolean a, .boolean b => a == b
  | .number a, .number b => a.numEq b
  | .string a, .string b => a == b
  | .array as, .array bs => Value.eqItems as bs
  | .node ⟨tag, attrs, content⟩, .node ⟨tag', attrs', content'⟩ =>
    tag == tag' && Value.eqAttributes attrs attrs' && Value.eqContent content content'
  | _, _ => false
termination_by structural value => value

/-- Are two lists of values equal, item by item? -/
def Value.eqItems : List Value → List Value → Bool
  | [], [] => true
  | a :: as, b :: bs => a.eq b && Value.eqItems as bs
  | _, _ => false
termination_by structural items => items

/-- Are two lists of entries equal, names and values? -/
def Value.eqEntries : List (String × Value) → List (String × Value) → Bool
  | [], [] => true
  | (name, a) :: as, (name', b) :: bs => name == name' && a.eq b && Value.eqEntries as bs
  | _, _ => false
termination_by structural entries => entries

/-- Are two attribute maps equal, order included, or both missing? -/
def Value.eqAttributes : Option (Attributes Value) → Option (Attributes Value) → Bool
  | none, none => true
  | some ⟨as⟩, some ⟨bs⟩ => Value.eqEntries as bs
  | _, _ => false
termination_by structural attrs => attrs

/-- Are two contents equal, or both missing? -/
def Value.eqContent : Option Value → Option Value → Bool
  | none, none => true
  | some a, some b => a.eq b
  | _, _ => false
termination_by structural content => content

end

namespace Node

/-- Does the node count as having content?
Source: `has_content` (section 10.5) -/
def hasContent (node : Node Value) : Bool :=
  node.content.any Value.isTruthy

/-- The content after one more child: a list grows, a single child becomes the first of two. -/
def appended (child : Value) : Option Value → Value
  | some (.array children) => .array (children ++ [child])
  | some single => .array [single, child]
  | none => .array [child]

/-- Adds a child at the end.
Source: `push` of `Node` -/
def push (node : Node Value) (child : Value) : Node Value :=
  { node with content := some (appended child node.content) }

end Node

end Markup
