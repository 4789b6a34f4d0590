import Markup.Render.AttributeText

/-!
# Elements

How an element is written down, apart from its children. A void element ends with its start tag,
and content that it has all the same comes after it. An element without content is closed as the
options say; if they say nothing, it has an end tag like any other. `Node.outline` is this decision.
-/

namespace Markup

variable {engine : Pattern.Engine}

/-- What a start tag ends with. -/
inductive Ending
  /-- Nothing but the bracket. -/
  | plain
  /-- An end tag that follows at once. -/
  | endTag
  /-- A slash before the bracket. -/
  | slash
deriving DecidableEq

/-- The text of an end tag. -/
def endTagText (name : String) : String :=
  "</" ++ name ++ ">"

/-- The text of an ending, for an element of the given name. Before a slash comes a space, unless
the options remove space.
Source: `close_with_tag`, `close_with_slash` -/
def Ending.text (options : Options engine) (name : String) : Ending → String
  | .plain => ">"
  | .endTag => ">" ++ endTagText name
  | .slash => if options.removeSpace then "/>" else " />"

/-- How an element and its content go together. -/
inductive Outline
  /-- The element is void: its content, if it has any, comes after it. -/
  | void (ending : Ending)
  /-- The element counts as having no content, and none is written. -/
  | closed (ending : Ending)
  /-- The content stands between the start tag and an end tag. -/
  | around
deriving DecidableEq

namespace Options

/-- What the start tag of a void element ends with. -/
def voidEnding (options : Options engine) : Ending :=
  match options.closing with
  | some .tag => .endTag
  | some .slash => .slash
  | some .default | none => .plain

/-- What the start tag of an element without content ends with, if the options close such elements
at once. -/
def emptyEnding? (options : Options engine) : Option Ending :=
  options.closing.map fun
    | .tag => .endTag
    | .slash | .default => .slash

end Options

namespace Node

/-- How the element and its content go together.
Source: the branches of `open_element` (sections 4.3 and 10.5) -/
def outline (options : Options engine) (node : Node Value) : Outline :=
  if options.isVoid node.name then .void options.voidEnding
  else
    match node.hasContent, options.emptyEnding? with
    | false, some ending => .closed ending
    | _, _ => .around

/-- The start tag up to its ending.
Source: the beginning of `open_element` -/
def startText (options : Options engine) (node : Node Value) : String :=
  "<" ++ node.name ++ (node.attrs.map (·.text options)).getD ""

/-- The attributes that are not written. -/
def droppedAttributes (options : Options engine) (node : Node Value) : List (String × Value) :=
  (node.attrs.map (·.dropped options)).getD []

end Node

end Markup
