import Markup.Json.Reader
import Markup.Value

/-!
# Reading trees

A tree is read from JSON text as the text comes: there is no document in between. An object is a
node, with the members `tag`, `attrs` and `content`; each may be given once, `null` means that it is
missing, and any other member is skipped. The members of `attrs` are attributes, and there a
repeated name replaces the value in place.

A `Draft` is a node of which some members have been read, and an `Assembly` is the state of reading:
the containers that are not complete yet, and the value once it is.

* `Value.read` reads a tree, with or without a nesting limit.
* `Node.read`, `Attributes.read` and `Tag.read` read the parts alone. A node may then also be a list
  of up to three members in order.
-/

namespace Markup

/-! ### Parts of a node -/

/-- A member of a node.
Source: the fields of `Node` -/
inductive Node.Field
  /-- The tag. -/
  | tag
  /-- The attributes. -/
  | attrs
  /-- The content. -/
  | content
deriving DecidableEq

namespace Node.Field

/-- The name of a member. -/
def name : Field → String
  | .tag => "tag"
  | .attrs => "attrs"
  | .content => "content"

/-- The member of the given name. -/
def ofName? (name : String) : Option Field :=
  [Field.tag, Field.attrs, Field.content].find? (·.name == name)

end Node.Field

/-- A part of a tree that has been read. -/
inductive Part
  /-- A tree value. -/
  | value (value : Value)
  /-- An attribute map. -/
  | attributes (attrs : Attributes Value)
  /-- A tag. -/
  | tag (tag : Tag)
  /-- The word `null` in place of a member of a node. -/
  | missing

namespace Part

/-- The part as a tag. -/
def tag? : Part → Option Tag
  | .tag t => some t
  | _ => none

/-- The part as an attribute map. -/
def attributes? : Part → Option (Attributes Value)
  | .attributes attrs => some attrs
  | _ => none

/-- The part as a tree value. -/
def value? : Part → Option Value
  | .value v => some v
  | _ => none

/-- The part as a node. -/
def node? : Part → Option (Node Value)
  | .value (.node n) => some n
  | _ => none

end Part

/-- A node of which some members have been read.
Source: `Deserialize` for `Node`, between two members -/
structure Draft where
  /-- The members met so far. -/
  met : List Node.Field
  /-- The node as far as it is known. -/
  node : Node Value

namespace Draft

/-- No member has been read. -/
def empty : Draft :=
  ⟨[], .empty⟩

/-- Fills in a member. -/
def set (draft : Draft) (field : Node.Field) (part : Part) : Draft :=
  { met := field :: draft.met
    node :=
      match field with
      | .tag => { draft.node with tag := part.tag? }
      | .attrs => { draft.node with attrs := part.attributes? }
      | .content => { draft.node with content := part.value? } }

/-- The first member that has not been read, where members come in order. -/
def next? (draft : Draft) : Option Node.Field :=
  [Node.Field.tag, Node.Field.attrs, Node.Field.content].find? (!draft.met.contains ·)

end Draft

/-! ### What may stand where -/

/-- What the next datum is for. -/
inductive Slot
  /-- A tree value. -/
  | value
  /-- A node. -/
  | node
  /-- A tag; may it be `null`? -/
  | tag (optional : Bool)
  /-- An attribute map; may it be `null`? -/
  | attributes (optional : Bool)
  /-- The content of a node. -/
  | content

namespace Slot

/-- What a member of a node is for. -/
def ofField : Node.Field → Slot
  | .tag => .tag true
  | .attrs => .attributes true
  | .content => .content

/-- What is expected in the slot. -/
def expected : Slot → Expected
  | .value | .content => .value
  | .node => .node
  | .tag _ => .tag
  | .attributes _ => .attributes

end Slot

/-- The tree value that is a scalar.
Source: the scalars that `ValueVisitor` takes -/
def Value.ofScalar : Json.Scalar → Value
  | .null => .null
  | .boolean value => .boolean value
  | .number value => .number value.toDouble
  | .string value => .string value

/-- The part that a scalar is in a slot.
Source: `ValueVisitor` and `TagVisitor` -/
def Slot.ofScalar (slot : Slot) (scalar : Json.Scalar) : Except Json.Fault Part :=
  match slot, scalar with
  | .value, scalar => .ok (.value (.ofScalar scalar))
  | .content, .null | .tag true, .null | .attributes true, .null => .ok .missing
  | .content, scalar => .ok (.value (.ofScalar scalar))
  | .tag _, .string name => .ok (.tag (.name name))
  | .tag _, .boolean false => .ok (.tag .transparent)
  | .tag _, .boolean true => .error (.mismatch (.value (.boolean true) .tag))
  | slot, scalar => .error (.mismatch (.kind scalar.found slot.expected))

/-! ### Assembling a tree -/

/-- A container that is not complete yet.
Source: the lists and maps that `ValueVisitor` and `AttributesVisitor` are reading -/
inductive Frame
  /-- A list: its items, the last one first. -/
  | items (read : List Value)
  /-- A node written as an object, and the member that is due. -/
  | members (draft : Draft) (due : Node.Field)
  /-- A node written as a list of members. -/
  | positions (draft : Draft)
  /-- An attribute map, and the name that is due. -/
  | attributes (read : Attributes Value) (due : String)

/-- The state of reading a tree. -/
structure Assembly where
  /-- What the whole text is for. -/
  goal : Slot
  /-- The open containers, the innermost first. -/
  frames : List Frame
  /-- What has been read, once it is complete. -/
  result : Option Part

namespace Assembly

/-- Nothing has been read. -/
def start (goal : Slot) : Assembly :=
  ⟨goal, [], none⟩

/-- What the next datum is for. -/
def due (a : Assembly) : Slot :=
  match a.frames with
  | [] => a.goal
  | .items _ :: _ => .value
  | .members _ field :: _ => .ofField field
  | .positions draft :: _ => (draft.next?.map Slot.ofField).getD .content
  | .attributes _ _ :: _ => .value

/-- The container after one more part. -/
def extend (frame : Frame) (part : Part) : Frame :=
  match frame with
  | .items read => .items (part.value?.toList ++ read)
  | .members draft field => .members (draft.set field part) field
  | .positions draft => .positions (draft.set (draft.next?.getD .content) part)
  | .attributes read name =>
    match part.value? with
    | some value => .attributes (read.insert name value) name
    | none => .attributes read name

/-- Puts a complete part where it belongs. -/
def deliver (a : Assembly) (part : Part) : Assembly :=
  match a.frames with
  | [] => { a with result := some part }
  | frame :: outer => { a with frames := extend frame part :: outer }

/-- A list cannot be an attribute map, and this is known before the nesting limit is looked at. -/
def mayEnter (a : Assembly) (bracket : Json.Bracket) : Except Json.Fault Unit :=
  match a.due, bracket with
  | .attributes _, .list => .error (.mismatch (.kind .sequence .attributes))
  | _, _ => .ok ()

/-- A container begins. -/
def enter (a : Assembly) (bracket : Json.Bracket) : Except Json.Fault Assembly :=
  let inside (frame : Frame) : Except Json.Fault Assembly :=
    .ok { a with frames := frame :: a.frames }
  match a.due, bracket with
  | .value, .list | .content, .list => inside (.items [])
  | .value, .object | .content, .object | .node, .object => inside (.members .empty .tag)
  | .node, .list => inside (.positions .empty)
  | .attributes _, .object => inside (.attributes .empty "")
  | slot, bracket => .error (.mismatch (.kind bracket.found slot.expected))

/-- A member begins. A node turns down the members that it does not know. -/
def key (a : Assembly) (name : String) : Except Json.Fault (Option Assembly) :=
  match a.frames with
  | .members draft _ :: outer =>
    match Node.Field.ofName? name with
    | none => .ok none
    | some field =>
      if draft.met.contains field then .error (.duplicateMember name)
      else .ok (some { a with frames := .members draft field :: outer })
  | .attributes read _ :: outer => .ok (some { a with frames := .attributes read name :: outer })
  | _ => .ok (some a)

/-- A scalar has been read. -/
def scalar (a : Assembly) (scalar : Json.Scalar) : Except Json.Fault Assembly := do
  return a.deliver (← a.due.ofScalar scalar)

/-- What a container is when it is complete. -/
def finished : Frame → Part
  | .items read => .value (.array read.reverse)
  | .members draft _ | .positions draft => .value (.node draft.node)
  | .attributes read _ => .attributes read

/-- The innermost container is complete. -/
def leave (a : Assembly) : Except Json.Fault Assembly :=
  match a.frames with
  | [] => .ok a
  | frame :: outer => .ok ({ a with frames := outer }.deliver (finished frame))

/-- A node written as a list takes three members. -/
def full (a : Assembly) : Bool :=
  match a.frames with
  | .positions draft :: _ => draft.next?.isNone
  | _ => false

/-- How a tree is read.
Source: `ValueVisitor`, `TagVisitor`, `AttributesVisitor` and `Deserialize` for `Node` -/
def sink : Json.Sink Assembly :=
  { mayEnter, enter, key, scalar, leave, full }

/-- Reads a text that is for the given slot, as what the caller wants of it. -/
def read {α : Type} (goal : Slot) (wanted : Part → Option α) (limit : Option Nat) (text : String) :
    Except Json.Fault α := do
  let a ← Json.read sink limit (start goal) text
  match a.result.bind wanted with
  | some part => return part
  | none => throw .endInValue

end Assembly

/-! ### Reading -/

/-- Reads a tree. Without a limit, containers may be nested to any depth.
Source: `from_json` of `Value` (section 10.4) -/
def Value.read (limit : Option Nat) (text : String) : Except Json.Fault Value :=
  Assembly.read .value Part.value? limit text

/-- Reads a node.
Source: `Deserialize` for `Node` (section 10.2) -/
def Node.read (text : String) : Except Json.Fault (Node Value) :=
  Assembly.read .node Part.node? (some Json.nestingLimit) text

/-- Reads an attribute map.
Source: `Deserialize` for `Attributes` (section 10.2) -/
def Attributes.read (text : String) : Except Json.Fault (Attributes Value) :=
  Assembly.read (.attributes false) Part.attributes? (some Json.nestingLimit) text

/-- Reads a tag.
Source: `Deserialize` for `Tag` (section 10.2) -/
def Tag.read (text : String) : Except Json.Fault Tag :=
  Assembly.read (.tag false) Part.tag? (some Json.nestingLimit) text

end Markup
