import Markup.Json
import Markup.Value

/-!
# Trees as documents

A tree is exchanged as a JSON document. A node becomes an object with the members `tag`, `attrs` and
`content`, of which those that are missing in the node are left out; the transparent tag is written
`false`. A number that is not finite has no JSON form and becomes `null`.
-/

namespace Markup

/-- The document of a tag.
Source: `Serialize` for `Tag` -/
def Tag.toJson : Tag → Json
  | .name word => .string word
  | .transparent => .boolean false

/-- The document of a number.
Source: `Serialize` for `Value`, on a number -/
def Double.toJson (x : Double) : Json :=
  if x.isFinite then .number (.real x) else .null

/-- The member of the given name, if there is a document for it. -/
def Json.member? (name : String) (value : Option Json) : List (String × Json) :=
  (value.map (name, ·)).toList

/-- The document of a node, from the documents of its parts.
Source: `Serialize` for `Node` -/
def Json.ofNode (tag attrs content : Option Json) : Json :=
  .object (member? "tag" tag ++ member? "attrs" attrs ++ member? "content" content)

mutual

/-- The document of a tree.
Source: `Serialize` for `Value` (section 10.2) -/
def Value.toJson : Value → Json
  | .null => .null
  | .boolean value => .boolean value
  | .number value => value.toJson
  | .string value => .string value
  | .array items => .array (Value.itemsToJson items)
  | .node ⟨tag, attrs, content⟩ =>
    .ofNode (tag.map Tag.toJson) (Value.attributesToJson attrs) (Value.contentToJson content)
termination_by structural value => value

/-- The documents of the items of a list. -/
def Value.itemsToJson : List Value → List Json
  | [] => []
  | item :: items => item.toJson :: Value.itemsToJson items
termination_by structural items => items

/-- The members for the entries of an attribute map. -/
def Value.entriesToJson : List (String × Value) → List (String × Json)
  | [] => []
  | (name, value) :: entries => (name, value.toJson) :: Value.entriesToJson entries
termination_by structural entries => entries

/-- The document of the attributes of a node. -/
def Value.attributesToJson : Option (Attributes Value) → Option Json
  | none => none
  | some ⟨entries⟩ => some (.object (Value.entriesToJson entries))
termination_by structural attrs => attrs

/-- The document of the content of a node. -/
def Value.contentToJson : Option Value → Option Json
  | none => none
  | some value => some value.toJson
termination_by structural content => content

end

/-- The document of an attribute map.
Source: `Serialize` for `Attributes` -/
def Attributes.toJson (attrs : Attributes Value) : Json :=
  .object (Value.entriesToJson attrs.entries)

/-- The document of a node. -/
def Node.toJson (node : Node Value) : Json :=
  (Value.node node).toJson

end Markup
