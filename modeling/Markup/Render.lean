import Markup.Error
import Markup.Options.Reading
import Markup.Render.Walk
import Markup.Value.Reading

/-!
# Rendering JSON

The way from text to text: a tree and options are read from JSON, and the tree is rendered. The tree
is read first, and may be nested to any depth.
-/

namespace Markup

variable {engine : Pattern.Engine}

/-- The void tag that a pattern describes.
Source: `pattern` of `SingleTag` (section 10.4) -/
def VoidTag.ofPattern (source : String) : Except Error (VoidTag engine) :=
  match Pattern.compile source with
  | .ok compiled => .ok (.pattern compiled)
  | .error reason => .error (.pattern source reason)

/-- Options from their JSON text; without a text, the default ones. -/
def Options.readOrDefault : Option String → Except Error (Options engine)
  | some text => (Options.read text).mapError .json
  | none => .ok .default

/-- Renders a tree that is given as JSON text, with options that may be given as JSON text. The
engine is the one that compiles the patterns in the options.
Source: `render_json` (section 10.4) -/
def renderJson (engine : Pattern.Engine) (tree : String) (options : Option String) :
    Except Error String := do
  let tree ← (Value.read none tree).mapError .json
  let options : Options engine ← Options.readOrDefault options
  return tree.render options

end Markup
