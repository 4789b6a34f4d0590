import Markup.Render.Walk

/-!
# What a tree renders to

The walk of `Markup.Render.Walk` is a loop; here stands what it computes, by recursion on the tree.
`Value.markup` is the text of a tree and `Value.happenings` the events on the way, both in the order
of the tree. The two are tied to the walk for any list of tasks and any transcript so far:

* `walk_output`: the walk appends the texts of its tasks, the first task first.
* `walk_events`: the walk appends the events of its tasks, the first task first.
-/

namespace Markup

variable {engine : Pattern.Engine}

/-! ### By recursion on the tree -/

namespace Node

/-- The text of an element around the text of its content. -/
def enclose (options : Options engine) (node : Node Value) (body : String) : String :=
  node.startText options ++
    match node.outline options with
    | .void ending => ending.text options node.name ++ body
    | .closed ending => ending.text options node.name
    | .around => ">" ++ body ++ endTagText node.name

/-- The events of an element, given those of its content. -/
def happenings (options : Options engine) (node : Node Value) (inside : List Event) : List Event :=
  ((node.droppedAttributes options).map fun entry => .dropsAttribute entry.1 entry.2) ++
    match node.outline options with
    | .void _ => node.content.toList.map (fun _ => .trailingContent node.name) ++ inside
    | .closed _ => []
    | .around => inside

end Node

mutual

/-- The text that a tree renders to. -/
def Value.markup (options : Options engine) : Value → String
  | .null => ""
  | .boolean value => if value then Node.empty.enclose options "" else ""
  | .number value => if value.isNaN then "" else value.text .displayed
  | .string value => value
  | .array items => Value.markupItems options items
  | .node ⟨tag, attrs, content⟩ =>
    let body := Value.markupContent options content
    if Node.isTransparent ⟨tag, attrs, content⟩ then body
    else Node.enclose options ⟨tag, attrs, content⟩ body
termination_by structural value => value

/-- The texts of the items of a list behind each other. -/
def Value.markupItems (options : Options engine) : List Value → String
  | [] => ""
  | item :: items => item.markup options ++ Value.markupItems options items
termination_by structural items => items

/-- The text of the content of a node. -/
def Value.markupContent (options : Options engine) : Option Value → String
  | none => ""
  | some value => value.markup options
termination_by structural content => content

end

mutual

/-- The events of rendering a tree, apart from the first. -/
def Value.happenings (options : Options engine) : Value → List Event
  | .null => []
  | .boolean value => if value then Node.empty.happenings options [] else []
  | .number _ => []
  | .string _ => []
  | .array items => Value.happeningsItems options items
  | .node ⟨tag, attrs, content⟩ =>
    let inside := Value.happeningsContent options content
    if Node.isTransparent ⟨tag, attrs, content⟩ then inside
    else Node.happenings options ⟨tag, attrs, content⟩ inside
termination_by structural value => value

/-- The events of the items of a list behind each other. -/
def Value.happeningsItems (options : Options engine) : List Value → List Event
  | [] => []
  | item :: items => item.happenings options ++ Value.happeningsItems options items
termination_by structural items => items

/-- The events of the content of a node. -/
def Value.happeningsContent (options : Options engine) : Option Value → List Event
  | none => []
  | some value => value.happenings options
termination_by structural content => content

end

/-! ### By tasks -/

namespace Task

/-- The text that a task stands for. -/
def markup (options : Options engine) : Task → String
  | .visit value => value.markup options
  | .close name => endTagText name

/-- The texts that tasks stand for behind each other. -/
def markupAll (options : Options engine) : List Task → String
  | [] => ""
  | task :: tasks => task.markup options ++ markupAll options tasks

/-- The events that a task stands for. -/
def happenings (options : Options engine) : Task → List Event
  | .visit value => value.happenings options
  | .close _ => []

/-- The events that tasks stand for behind each other. -/
def happeningsAll (options : Options engine) : List Task → List Event
  | [] => []
  | task :: tasks => task.happenings options ++ happeningsAll options tasks

variable (options : Options engine)

/-- The texts of tasks behind each other. -/
@[simp] theorem markupAll_append (tasks tasks' : List Task) :
    markupAll options (tasks ++ tasks') = markupAll options tasks ++ markupAll options tasks' := by
  induction tasks with
  | nil => simp [markupAll]
  | cons task tasks ih => simp [markupAll, ih, String.append_assoc]

/-- The events of tasks behind each other. -/
@[simp] theorem happeningsAll_append (tasks tasks' : List Task) :
    happeningsAll options (tasks ++ tasks') =
      happeningsAll options tasks ++ happeningsAll options tasks' := by
  induction tasks with
  | nil => simp [happeningsAll]
  | cons task tasks ih => simp [happeningsAll, ih, List.append_assoc]

end Task

variable (options : Options engine)

/-- The text of a list is that of visits to its items. -/
theorem Value.markupItems_eq (items : List Value) :
    Value.markupItems options items = Task.markupAll options (items.map .visit) := by
  induction items with
  | nil => rfl
  | cons item items ih => rw [Value.markupItems, ih]; rfl

/-- The text of a content is that of a visit to it. -/
theorem Value.markupContent_eq (content : Option Value) :
    Value.markupContent options content =
      Task.markupAll options (content.toList.map .visit) := by
  cases content <;> simp [Value.markupContent, Task.markupAll, Task.markup]

/-- The events of a list are those of visits to its items. -/
theorem Value.happeningsItems_eq (items : List Value) :
    Value.happeningsItems options items = Task.happeningsAll options (items.map .visit) := by
  induction items with
  | nil => rfl
  | cons item items ih => rw [Value.happeningsItems, ih]; rfl

/-- The events of a content are those of a visit to it. -/
theorem Value.happeningsContent_eq (content : Option Value) :
    Value.happeningsContent options content =
      Task.happeningsAll options (content.toList.map .visit) := by
  cases content <;> simp [Value.happeningsContent, Task.happeningsAll, Task.happenings]

/-- A visit to an element writes it, and leaves the rest of it to be done. -/
theorem Node.visit_markup (node : Node Value) :
    (node.visit options).text ++ Task.markupAll options (node.visit options).tasks =
      node.enclose options (Value.markupContent options node.content) := by
  rw [Node.enclose, Node.visit, Value.markupContent_eq]
  split <;> simp_all [Task.markupAll, Task.markup, String.append_assoc]

/-- A visit to an element reports on it, and leaves its content to be reported on. -/
theorem Node.visit_happenings (node : Node Value) :
    (node.visit options).events ++ Task.happeningsAll options (node.visit options).tasks =
      node.happenings options (Value.happeningsContent options node.content) := by
  rw [Node.happenings, Node.visit, Value.happeningsContent_eq]
  split <;> simp_all [Task.happeningsAll, Task.happenings]

/-- A visit to a value writes what it can, and leaves the rest to be done. -/
theorem Value.visit_markup (value : Value) :
    (value.visit options).text ++ Task.markupAll options (value.visit options).tasks =
      value.markup options := by
  unfold Value.visit
  cases value with
  | null => rfl
  | boolean value =>
    cases value
    · rfl
    · exact Node.visit_markup options .empty
  | number x =>
    cases h : x.isNaN <;>
      simp [h, Value.isVacuous, Value.visitVisible, Visit.ofText, Value.markup, Task.markupAll]
  | string s =>
    cases h : s.isEmpty <;>
      simp_all [Value.isVacuous, Value.visitVisible, Visit.ofText, Value.markup, Task.markupAll]
  | array items =>
    cases items <;>
      simp [Value.isVacuous, Value.visitVisible, Visit.ofText, Visit.ofValues, Value.markup,
        Value.markupItems_eq, Task.markupAll]
  | node node =>
    obtain ⟨tag, attrs, content⟩ := node
    rw [Value.markup, if_neg (by simp [Value.isVacuous]), Value.visitVisible]
    split
    · simp [Visit.ofValues, Value.markupContent_eq]
    · exact Node.visit_markup options ⟨tag, attrs, content⟩

/-- A visit to a value reports what it can, and leaves the rest to be reported. -/
theorem Value.visit_happenings (value : Value) :
    (value.visit options).events ++ Task.happeningsAll options (value.visit options).tasks =
      value.happenings options := by
  unfold Value.visit
  cases value with
  | null => rfl
  | boolean value =>
    cases value
    · rfl
    · exact Node.visit_happenings options .empty
  | number x =>
    cases h : x.isNaN <;>
      simp [h, Value.isVacuous, Value.visitVisible, Visit.ofText, Value.happenings,
        Task.happeningsAll]
  | string s =>
    cases h : s.isEmpty <;>
      simp [h, Value.isVacuous, Value.visitVisible, Visit.ofText, Value.happenings,
        Task.happeningsAll]
  | array items =>
    cases items <;>
      simp [Value.isVacuous, Value.visitVisible, Visit.ofText, Visit.ofValues, Value.happenings,
        Value.happeningsItems_eq, Task.happeningsAll]
  | node node =>
    obtain ⟨tag, attrs, content⟩ := node
    rw [Value.happenings, if_neg (by simp [Value.isVacuous]), Value.visitVisible]
    split
    · simp [Visit.ofValues, Value.happeningsContent_eq]
    · exact Node.visit_happenings options ⟨tag, attrs, content⟩

/-- A task writes what it can, and leaves the rest to be done. -/
theorem Task.perform_markup (task : Task) :
    (task.perform options).text ++ markupAll options (task.perform options).tasks =
      task.markup options := by
  cases task with
  | visit value => exact Value.visit_markup options value
  | close name => simp [perform, Visit.ofText, markupAll, markup]

/-- A task reports what it can, and leaves the rest to be reported. -/
theorem Task.perform_happenings (task : Task) :
    (task.perform options).events ++ happeningsAll options (task.perform options).tasks =
      task.happenings options := by
  cases task with
  | visit value => exact Value.visit_happenings options value
  | close name => rfl

/-! ### The walk -/

/-- The walk appends the texts of its tasks. -/
theorem walk_output (tasks : List Task) (transcript : Transcript) :
    (walk options tasks transcript).output =
      transcript.output ++ Task.markupAll options tasks := by
  fun_induction walk options tasks transcript with
  | case1 transcript => simp [Task.markupAll]
  | case2 transcript task tasks visit ih =>
    rw [ih, Task.markupAll_append, Task.markupAll, ← Task.perform_markup options task]
    simp only [Transcript.write, Transcript.report, String.append_assoc, visit]

/-- The walk appends the events of its tasks. -/
theorem walk_events (tasks : List Task) (transcript : Transcript) :
    (walk options tasks transcript).events.toList =
      transcript.events.toList ++ Task.happeningsAll options tasks := by
  fun_induction walk options tasks transcript with
  | case1 transcript => simp [Task.happeningsAll]
  | case2 transcript task tasks visit ih =>
    rw [ih, Task.happeningsAll_append, Task.happeningsAll, ← Task.perform_happenings options task]
    simp [Transcript.write, Transcript.report, visit]

end Markup
