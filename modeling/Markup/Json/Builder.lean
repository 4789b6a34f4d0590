import Markup.Json.Reader

/-!
# Building documents

Some parts of a configuration are read completely before their meaning is looked at. They go into a
`Builder`, which collects a document of any shape.
-/

namespace Markup.Json

/-- A container of a document that is not complete yet. -/
inductive Builder.Frame
  /-- A list: its items, the last one first. -/
  | items (read : List Json)
  /-- An object: its members, the last one first, and the name of the member that is due. -/
  | members (read : List (String × Json)) (name : String)

/-- A document that is being read.
Source: the buffer that `RawSingleTag` and `RawClosingSingleTag` are read from -/
structure Builder where
  /-- The open containers, the innermost first. -/
  frames : List Builder.Frame
  /-- The document, once it is complete. -/
  result : Option Json

namespace Builder

/-- Nothing has been read. -/
def start : Builder :=
  ⟨[], none⟩

/-- Puts a complete document where it belongs. -/
def deliver (b : Builder) (json : Json) : Builder :=
  match b.frames with
  | [] => { b with result := some json }
  | .items read :: outer => { b with frames := .items (json :: read) :: outer }
  | .members read name :: outer =>
    { b with frames := .members ((name, json) :: read) name :: outer }

/-- A container begins. -/
def enter (b : Builder) : Bracket → Builder
  | .list => { b with frames := .items [] :: b.frames }
  | .object => { b with frames := .members [] "" :: b.frames }

/-- A member begins. -/
def key (b : Builder) (name : String) : Builder :=
  match b.frames with
  | .members read _ :: outer => { b with frames := .members read name :: outer }
  | _ => b

/-- The document that is a scalar. -/
def ofScalar : Scalar → Json
  | .null => .null
  | .boolean value => .boolean value
  | .number value => .number value
  | .string value => .string value

/-- A scalar has been read. -/
def scalar (b : Builder) (scalar : Scalar) : Builder :=
  b.deliver (ofScalar scalar)

/-- The innermost container is complete. -/
def leave (b : Builder) : Builder :=
  match b.frames with
  | [] => b
  | .items read :: outer => { b with frames := outer }.deliver (.array read.reverse)
  | .members read _ :: outer => { b with frames := outer }.deliver (.object read.reverse)

end Builder

end Markup.Json
