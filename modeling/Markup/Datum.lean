import Markup.Value.Reading

/-!
# Typed data

A tree can also be built from data that is already typed, without any JSON text. Every kind of datum
is offered to the reader of values, tags or attributes, which takes it or says what it expected.
-/

namespace Markup

/-- A typed datum. -/
inductive Datum
  /-- An optional datum that is absent. -/
  | absent
  /-- An optional text that is present. -/
  | present (text : String)
  /-- The datum without information. -/
  | unit
  /-- A truth value. -/
  | boolean (value : Bool)
  /-- An integer. -/
  | integer (value : Int)
  /-- A double. -/
  | real (value : Double)
  /-- A text. -/
  | text (text : String)
  /-- A single character. -/
  | char (c : Char)
  /-- Raw bytes. -/
  | bytes
  /-- A list of texts. -/
  | list (items : List String)
  /-- Named texts. -/
  | map (members : List (String × String))

namespace Datum

/-- The kind of a datum, for a message. -/
def found : Datum → Found
  | .absent | .present _ => .option
  | .unit => .unit
  | .boolean value => .boolean value
  | .integer value => .integer value
  | .real value => .real value
  | .text s => .string s
  | .char c => .string (String.singleton c)
  | .bytes => .bytes
  | .list _ => .sequence
  | .map _ => .map

/-- The node of named texts. Members that a node does not know are ignored. -/
def toNode (members : List (String × String)) : Except Mismatch (Node Value) :=
  members.foldlM (fun node member =>
    match Node.Field.ofName? member.1 with
    | none => .ok node
    | some .tag => .ok { node with tag := some (.name member.2) }
    | some .attrs => .error (.kind (.string member.2) .attributes)
    | some .content => .ok { node with content := some (.string member.2) }) .empty

/-- The datum as a tree value.
Source: `ValueVisitor` -/
def toValue (datum : Datum) : Except Mismatch Value :=
  match datum with
  | .absent | .unit => .ok .null
  | .present s | .text s => .ok (.string s)
  | .boolean value => .ok (.boolean value)
  | .integer value => .ok (.number (.ofInt value))
  | .real value => .ok (.number value)
  | .char c => .ok (.string (String.singleton c))
  | .bytes => .error (.kind .bytes .value)
  | .list items => .ok (.array (items.map .string))
  | .map members => do return .node (← toNode members)

/-- The datum as a tag.
Source: `TagVisitor` -/
def toTag (datum : Datum) : Except Mismatch Tag :=
  match datum with
  | .text s => .ok (.name s)
  | .char c => .ok (.name (String.singleton c))
  | .boolean false => .ok .transparent
  | .boolean true => .error (.value (.boolean true) .tag)
  | datum => .error (.kind datum.found .tag)

/-- The datum as an attribute map.
Source: `AttributesVisitor` -/
def toAttributes (datum : Datum) : Except Mismatch (Attributes Value) :=
  match datum with
  | .map members => .ok (.ofList (members.map fun member => (member.1, .string member.2)))
  | datum => .error (.kind datum.found .attributes)

end Datum

end Markup
