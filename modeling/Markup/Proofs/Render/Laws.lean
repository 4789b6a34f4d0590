import Mathlib.Logic.Function.Iterate
import Markup.Proofs.Tree
import Markup.Render.Meaning

/-!
# The laws of rendering

`MarkupLaws` says what a tree renders to, one equation for each kind of value, with the punctuation
of elements spelled out. The laws leave nothing open: `Value.markup` obeys them
(`markupLaws_markup`), and nothing else does (`MarkupLaws.eq_markup`).

The walk is a loop over a list of tasks. `Task.step` is one turn of it, and
`Task.exists_iterate_step` says that from any tasks and any transcript the turns come to an end with
no task left and with the transcript of the walk. What they have written by then is what was written
before, followed by the texts that the tasks stand for, the first task first; for a single tree that
is its markup (`Value.render_eq_markup`).
-/

namespace Markup

variable {engine : Pattern.Engine}

variable (options : Options engine)

/-! ### Markup of the parts of a tree -/

namespace Value

/-- The text of a list is that of its items behind each other. -/
theorem markup_array (items : List Value) :
    (array items).markup options = String.join (items.map (markup options)) := by
  rw [markup]
  induction items with
  | nil => rfl
  | cons item items ih => rw [markupItems, ih, List.map_cons, String.join_cons]

/-- The text of a content is that of the value in it, if there is one. -/
theorem markupContent_eq_getD (content : Option Value) :
    markupContent options content = (content.map (markup options)).getD "" := by
  cases content <;> rfl

/-- The text of a node that stands for its content. -/
theorem markup_of_isTransparent {node : Node Value} (h : node.isTransparent = true) :
    (Value.node node).markup options = (node.content.map (markup options)).getD "" := by
  obtain ⟨tag, attrs, content⟩ := node
  rw [markup, if_pos h, markupContent_eq_getD]

/-- The text of a node that is an element. -/
theorem markup_of_not_isTransparent {node : Node Value} (h : node.isTransparent = false) :
    (Value.node node).markup options =
      node.enclose options ((node.content.map (markup options)).getD "") := by
  obtain ⟨tag, attrs, content⟩ := node
  rw [markup, h, markupContent_eq_getD]
  rfl

/-- A value that leaves no trace has no text. -/
theorem markup_of_isVacuous {value : Value} (h : value.isVacuous = true) :
    value.markup options = "" := by
  cases value with
  | null => rfl
  | boolean value => simp_all [isVacuous, markup]
  | number x => simp_all [isVacuous, markup]
  | string s => simpa [isVacuous, markup] using h
  | array items => simp_all [isVacuous, markup, markupItems]
  | node n => simp [isVacuous] at h

end Value

/-! ### The laws -/

/-- What comes before the bracket of an element that is closed by a slash, and the bracket. -/
def slashText : String :=
  if options.removeSpace then "/>" else " />"

/-- The equations that the text of a tree obeys, kind by kind. -/
structure MarkupLaws (text : Value → String) : Prop where
  /-- What leaves no trace has no text. -/
  vacuous : ∀ value : Value, value.isVacuous = true → text value = ""
  /-- A text is written as it is. -/
  string : ∀ s : String, text (.string s) = s
  /-- A number is written out. -/
  number : ∀ x : Double, x.isNaN = false → text (.number x) = x.text .displayed
  /-- The items of a list come behind each other. -/
  array : ∀ items : List Value, text (.array items) = String.join (items.map text)
  /-- A transparent node is its content. -/
  transparent : ∀ node : Node Value, node.isTransparent = true →
    text (.node node) = (node.content.map text).getD ""
  /-- The value `true` is an element with nothing in it. -/
  truth : text (.boolean true) = text (.node .empty)
  /-- An element is a start tag and what the kind of the element asks for: the content of a void
  element follows it; an element without content is closed at once if the options say how; any other
  has its content before an end tag. -/
  element : ∀ node : Node Value, node.isTransparent = false →
    text (.node node) =
      "<" ++ node.name ++ (node.attrs.map (·.text options)).getD "" ++
        if options.isVoid node.name then
          (match options.closing with
            | some .tag => "></" ++ node.name ++ ">"
            | some .slash => slashText options
            | some .default | none => ">") ++ (node.content.map text).getD ""
        else if !node.content.any Value.isTruthy && options.closing.isSome then
          match options.closing with
            | some .tag => "></" ++ node.name ++ ">"
            | _ => slashText options
        else ">" ++ (node.content.map text).getD "" ++ "</" ++ node.name ++ ">"

/-- The text of an element, with its punctuation spelled out. -/
theorem Node.enclose_eq (node : Node Value) (body : String) :
    node.enclose options body =
      "<" ++ node.name ++ (node.attrs.map (·.text options)).getD "" ++
        if options.isVoid node.name then
          (match options.closing with
            | some .tag => "></" ++ node.name ++ ">"
            | some .slash => slashText options
            | some .default | none => ">") ++ body
        else if !node.content.any Value.isTruthy && options.closing.isSome then
          match options.closing with
            | some .tag => "></" ++ node.name ++ ">"
            | _ => slashText options
        else ">" ++ body ++ "</" ++ node.name ++ ">" := by
  have tagText : ">" ++ ("</" ++ (node.name ++ ">")) = "></" ++ (node.name ++ ">") := by
    rw [← String.append_assoc]
    rfl
  unfold enclose outline startText hasContent
  cases hvoid : options.isVoid node.name with
  | true =>
    rcases hclosing : options.closing with _ | _ | _ | _ <;>
      simp [Options.voidEnding, hclosing, Ending.text, slashText, endTagText, tagText,
        String.append_assoc]
  | false =>
    cases hcontent : node.content.any Value.isTruthy <;>
      rcases hclosing : options.closing with _ | _ | _ | _ <;>
      simp [Options.emptyEnding?, hclosing, Ending.text, slashText, endTagText, tagText,
        String.append_assoc]

/-- The text of an element depends on its name, the text of its attributes, whether it counts as
having content, and the text of its content. -/
theorem Node.enclose_congr {m n : Node Value} (name : m.name = n.name)
    (attrs : m.attrs.map (·.text options) = n.attrs.map (·.text options))
    (content : m.content.any Value.isTruthy = n.content.any Value.isTruthy) (body : String) :
    m.enclose options body = n.enclose options body := by
  rw [enclose_eq, enclose_eq, name, attrs, content]

/-- The markup of a tree obeys the laws. -/
theorem markupLaws_markup : MarkupLaws options (Value.markup options) where
  vacuous _ h := Value.markup_of_isVacuous options h
  string _ := rfl
  number x h := by rw [Value.markup, h]; rfl
  array items := Value.markup_array options items
  transparent _ h := Value.markup_of_isTransparent options h
  truth := rfl
  element node h := by
    rw [Value.markup_of_not_isTransparent options h, Node.enclose_eq]

variable {options}

/-- Only the markup of a tree obeys the laws. -/
theorem MarkupLaws.eq_markup {text : Value → String} (laws : MarkupLaws options text) :
    text = Value.markup options := by
  funext value
  induction value with
  | null => exact laws.vacuous .null rfl
  | boolean value =>
    cases value with
    | false => exact laws.vacuous (.boolean false) rfl
    | true =>
      rw [laws.truth, laws.element .empty rfl, (markupLaws_markup options).truth,
        (markupLaws_markup options).element .empty rfl]
      rfl
  | number x =>
    cases h : x.isNaN with
    | true =>
      rw [laws.vacuous (.number x) h, (markupLaws_markup options).vacuous (.number x) h]
    | false => rw [laws.number x h, (markupLaws_markup options).number x h]
  | string s => exact laws.string s
  | array items ih =>
    rw [laws.array, Value.markup_array, List.map_congr_left ih]
  | node tag attrs content _ ih =>
    have body : content.map text = content.map (Value.markup options) := by
      cases content with
      | none => rfl
      | some value => rw [Option.map_some, Option.map_some, ih value rfl]
    cases h : Node.isTransparent (⟨tag, attrs, content⟩ : Node Value) with
    | true => rw [laws.transparent _ h, (markupLaws_markup options).transparent _ h, body]
    | false => rw [laws.element _ h, (markupLaws_markup options).element _ h, body]

variable (options)

/-! ### The turns of the walk -/

namespace Task

/-- One turn of the walk: the first task is performed, and what it leaves comes in front. Without
tasks, nothing happens. -/
def step : List Task × Transcript → List Task × Transcript
  | ([], transcript) => ([], transcript)
  | (task :: tasks, transcript) =>
    ((task.perform options).tasks ++ tasks,
      (transcript.write (task.perform options).text).report (task.perform options).events)

/-- The turns come to an end: no task is left, and the transcript is that of the walk. -/
theorem exists_iterate_step (tasks : List Task) (transcript : Transcript) :
    ∃ turns, (step options)^[turns] (tasks, transcript) = ([], walk options tasks transcript) := by
  fun_induction walk options tasks transcript with
  | case1 transcript => exact ⟨0, rfl⟩
  | case2 transcript task tasks visit ih =>
    obtain ⟨turns, h⟩ := ih
    exact ⟨turns + 1, by rw [Function.iterate_succ_apply]; exact h⟩

/-- The texts that tasks stand for, as one concatenation. -/
theorem markupAll_eq_join (tasks : List Task) :
    markupAll options tasks = String.join (tasks.map (markup options)) := by
  induction tasks with
  | nil => rfl
  | cons task tasks ih => rw [markupAll, ih, List.map_cons, String.join_cons]

end Task

/-- Rendering a tree gives its markup. -/
theorem Value.render_eq_markup (tree : Value) : tree.render options = tree.markup options := by
  rw [render, transcript, walk_output, Task.markupAll, Task.markupAll, String.append_empty]
  exact String.empty_append

/-- **The walk computes the one text that the laws allow.** From any tasks and any transcript, the
turns of the walk use up all tasks, and what they append is the texts of the tasks in order; for a
single tree, that is the text which `MarkupLaws` determines. -/
theorem walk_obeys_laws :
    MarkupLaws options (Value.markup options) ∧
    (∀ text, MarkupLaws options text → text = Value.markup options) ∧
    (∀ tree : Value, tree.render options = tree.markup options) ∧
    ∀ (tasks : List Task) (transcript : Transcript),
      (∃ turns, (Task.step options)^[turns] (tasks, transcript) =
        ([], walk options tasks transcript)) ∧
      (walk options tasks transcript).output =
        transcript.output ++ String.join (tasks.map (Task.markup options)) := by
  refine ⟨markupLaws_markup options, fun text laws => laws.eq_markup,
    fun tree => tree.render_eq_markup options, fun tasks transcript => ⟨?_, ?_⟩⟩
  · exact Task.exists_iterate_step options tasks transcript
  · rw [walk_output, Task.markupAll_eq_join]

end Markup
