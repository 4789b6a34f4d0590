import Markup.Attributes

/-!
# Nodes

A node is a tag, attributes and content, each of which may be missing. A missing field is not the
same as a field that is present and holds nothing of interest: equality and written JSON tell the
two apart, and so does the walk where a void element has content.

The content is a type parameter, because the values of a tree are themselves built from nodes.
-/

namespace Markup

/-- The tag of a node.
Source: `Tag` (section 10.2) -/
inductive Tag
  /-- The node is an element of this name. -/
  | name (name : String)
  /-- The node stands for its content alone. -/
  | transparent
deriving DecidableEq

/-- The name of an element that does not give one.
Source: `DEFAULT_TAG` -/
def Tag.default : String :=
  "view"

/-- A node over values `α`.
Source: `Node` (sections 3 and 10.2) -/
structure Node (α : Type) where
  /-- What the node is. -/
  tag : Option Tag
  /-- Its attributes. -/
  attrs : Option (Attributes α)
  /-- Its content: a list of children or a single child. -/
  content : Option α

namespace Node

variable {α : Type}

/-- The node with nothing in it.
Source: `Default` for `Node` -/
def empty : Node α :=
  ⟨none, none, none⟩

/-- The element of the given name.
Source: `new` of `Node` -/
def named (name : String) : Node α :=
  ⟨some (.name name), none, none⟩

/-- The node that stands for the given content.
Source: `transparent` of `Node` -/
def transparent (content : α) : Node α :=
  ⟨some .transparent, none, some content⟩

/-- The node with the given attributes and nothing else.
Source: the conversion of `Attributes` to `Node` -/
def ofAttributes (attrs : Attributes α) : Node α :=
  ⟨none, some attrs, none⟩

/-- The node with other attributes.
Source: `with_attrs` -/
def withAttributes (node : Node α) (attrs : Attributes α) : Node α :=
  { node with attrs := some attrs }

/-- The node with other content.
Source: `with_content` -/
def withContent (node : Node α) (content : α) : Node α :=
  { node with content := some content }

/-- Does the node stand for its content alone?
Source: `is_transparent` -/
def isTransparent (node : Node α) : Bool :=
  node.tag == some .transparent

/-- The name that the node is written with. A missing or empty name means the default.
Source: `name` of `Node` (section 10.2) -/
def name (node : Node α) : String :=
  match node.tag with
  | some (.name name) => if name.isEmpty then Tag.default else name
  | _ => Tag.default

/-- The value of an attribute.
Source: `attribute` -/
def attribute? (node : Node α) (name : String) : Option α :=
  node.attrs.bind (·.get? name)

/-- Gives an attribute a value, and hands back the value it had.
Source: `set_attribute` -/
def setAttribute (node : Node α) (name : String) (value : α) : Option α × Node α :=
  let (previous, attrs) := (node.attrs.getD .empty).exchange name value
  (previous, { node with attrs := some attrs })

end Node

end Markup
