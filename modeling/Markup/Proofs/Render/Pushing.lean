import Markup.Pattern.Standard
import Markup.Proofs.Render.FlatForm

/-!
# Adding children

A node gets its children one by one. Whatever its content was, afterwards it is a list: the children
that were there, followed by the new ones (`Node.pushAll_eq`). A list counts as content, so an
element that has been given a child is never closed like one without content. A single child that
did not count, such as the number zero, shows from then on: `Node.render_pushAll` says how a node
renders after any number of children has been added to it, under all options.
-/

namespace Markup

variable {engine : Pattern.Engine}

namespace Node

/-- The node after children have been added at its end, one after another. -/
def pushAll (node : Node Value) (children : List Value) : Node Value :=
  children.foldl push node

/-- One more child comes after the others. -/
theorem push_eq (node : Node Value) (child : Value) :
    node.push child = node.withContent (.array (node.children ++ [child])) := by
  obtain ⟨tag, attrs, content⟩ := node
  rcases content with _ | _ | _ | _ | _ | _ | _ <;> rfl

/-- New children come after the others, in their order. -/
theorem pushAll_eq (node : Node Value) {children : List Value} (nonempty : children ≠ []) :
    node.pushAll children = node.withContent (.array (node.children ++ children)) := by
  induction children generalizing node with
  | nil => exact absurd rfl nonempty
  | cons child children ih =>
    have first : node.pushAll (child :: children) = (node.push child).pushAll children := rfl
    rw [first]
    by_cases last : children = []
    · subst last
      exact push_eq node child
    · have held : (node.push child).children = node.children ++ [child] := by
        rw [push_eq]
        rfl
      rw [ih (node.push child) last, held, push_eq, List.append_assoc]
      rfl

variable (options : Options engine)

/-- The children of a node behind each other are its content. -/
theorem join_map_markup_children (node : Node Value) :
    String.join (node.children.map (Value.markup options)) =
      (node.content.map (Value.markup options)).getD "" := by
  obtain ⟨tag, attrs, content⟩ := node
  have single : ∀ value : Value, String.join ([value].map (Value.markup options)) =
      value.markup options := by
    intro value
    rw [List.map_singleton, String.join_cons, String.join_nil, String.append_empty]
  rcases content with _ | value
  · rfl
  · cases value with
    | array items => exact (Value.markup_array options items).symm
    | null | boolean | number | string | node => exact single _

/-- What a node shows after children have been added: what its content renders to, and what the new
children render to. -/
def grownBody (node : Node Value) (children : List Value) : String :=
  (node.content.map (Value.render options)).getD "" ++
    String.join (children.map (Value.render options))

/-- The old and the new children as one list. -/
theorem markup_children_append (node : Node Value) (children : List Value) :
    (Value.array (node.children ++ children)).markup options = node.grownBody options children := by
  have rendered : Value.render options = Value.markup options :=
    funext (Value.render_eq_markup options)
  rw [grownBody, rendered, Value.markup_array, List.map_append, String.join_append,
    join_map_markup_children]

/-- An element whose content is a list is never closed like one without content. -/
theorem enclose_withContent_array (node : Node Value) (items : List Value) (body : String) :
    (node.withContent (.array items)).enclose options body =
      if options.isVoid node.name then
        "<" ++ node.name ++ (node.attrs.map (·.text options)).getD "" ++
          (match options.closing with
            | some .tag => "></" ++ node.name ++ ">"
            | some .slash => slashText options
            | some .default | none => ">") ++ body
      else
        "<" ++ node.name ++ (node.attrs.map (·.text options)).getD "" ++ ">" ++ body ++
          "</" ++ node.name ++ ">" := by
  have same : (node.withContent (.array items)).name = node.name := rfl
  have counts : (node.withContent (.array items)).content.any Value.isTruthy = true := rfl
  rw [enclose_eq, same, counts, Bool.not_true, Bool.false_and, if_neg Bool.false_ne_true]
  split <;> simp only [String.append_assoc] <;> rfl

/-- **New children are written after the old ones, and from then on the node has content.** Adding
children to a node changes nothing but its content, which becomes the list of the old children and
the new ones. A transparent node then renders as these children, a void element as its start tag and
the children after it, and any other element as the children between a start tag and an end tag,
however the options close elements without content. -/
theorem render_pushAll (node : Node Value) {children : List Value} (nonempty : children ≠ []) :
    (node.pushAll children).tag = node.tag ∧
    (node.pushAll children).attrs = node.attrs ∧
    (node.pushAll children).content = some (.array (node.children ++ children)) ∧
    (Value.node (node.pushAll children)).render options =
      if node.isTransparent then node.grownBody options children
      else if options.isVoid node.name then
        "<" ++ node.name ++ (node.attrs.map (·.text options)).getD "" ++
          (match options.closing with
            | some .tag => "></" ++ node.name ++ ">"
            | some .slash => slashText options
            | some .default | none => ">") ++ node.grownBody options children
      else
        "<" ++ node.name ++ (node.attrs.map (·.text options)).getD "" ++ ">" ++
          node.grownBody options children ++ "</" ++ node.name ++ ">" := by
  rw [pushAll_eq node nonempty]
  refine ⟨rfl, rfl, rfl, ?_⟩
  have body := markup_children_append options node children
  rw [Value.render_eq_markup]
  generalize grown : node.children ++ children = items at body
  have same : (node.withContent (.array items)).isTransparent = node.isTransparent := rfl
  cases transparent : node.isTransparent with
  | true =>
    rw [Value.markup_of_isTransparent options (same.trans transparent), if_pos rfl, ← body]
    rfl
  | false =>
    rw [Value.markup_of_not_isTransparent options (same.trans transparent),
      enclose_withContent_array, if_neg Bool.false_ne_true, ← body]
    rfl

/-- An element whose only child does not count as content. -/
def hiddenZero : Node Value :=
  ⟨some (.name "p"), none, some (.number .zero)⟩

/-- Options that close elements without content by a slash. -/
def slashClosing : Options .standard :=
  { Options.default with closing := some .slash }

/-- The zero does not show before a child is added, and shows before the new children afterwards. -/
theorem render_pushAll_hiddenZero :
    [Value.string "b", .array [.boolean false, .string "c"]] ≠ [] ∧
      (Value.node hiddenZero).render slashClosing = "<p />" ∧
      (Value.node (hiddenZero.pushAll
        [.string "b", .array [.boolean false, .string "c"]])).render slashClosing =
          "<p>0bc</p>" := by
  have rendered : Value.render slashClosing = Value.markup slashClosing :=
    funext (Value.render_eq_markup slashClosing)
  refine ⟨List.cons_ne_nil _ _, ?_, ?_⟩
  · rw [rendered]
    decide +kernel
  · rw [(render_pushAll slashClosing hiddenZero (List.cons_ne_nil _ _)).2.2.2, grownBody, rendered]
    decide +kernel

end Node

end Markup
