import Markup.Render.Element

/-!
# Rendering a tree

A tree is rendered by a loop over a list of what is still to be done: values to visit and end tags
to write. A visit writes what can be written at once and puts the rest in front of the list, so the
depth of a tree is never a depth of calls. Besides the text, the walk keeps a record of noteworthy
events in the order in which they happen.
-/

namespace Markup

variable {engine : Pattern.Engine}

/-- Something noteworthy that happens while a tree is rendered.
Source: the events that are traced (section 10.9) -/
inductive Event
  /-- Rendering begins: is any pattern configured, and how many names are? -/
  | begins (patterns : Bool) (names : Nat)
  /-- An attribute is not written because of the kind of its value. -/
  | dropsAttribute (name : String) (value : Value)
  /-- A void element has content, which will follow it. -/
  | trailingContent (tag : String)

/-- Something still to be done.
Source: `Step` (section 10.7) -/
inductive Task
  /-- A value to visit. -/
  | visit (value : Value)
  /-- An end tag to write. -/
  | close (name : String)

/-- What has been written and what has happened. -/
structure Transcript where
  /-- The text so far. -/
  output : String
  /-- The events so far, in order. -/
  events : Array Event

namespace Transcript

/-- Nothing has been written. -/
def empty : Transcript :=
  ⟨"", #[]⟩

/-- The transcript with more text. -/
def write (transcript : Transcript) (text : String) : Transcript :=
  { transcript with output := transcript.output ++ text }

/-- The transcript with more events. -/
def report (transcript : Transcript) (events : List Event) : Transcript :=
  { transcript with events := transcript.events ++ events }

end Transcript

/-! ### Visits -/

/-- What a visit writes, reports and leaves to be done. -/
structure Visit where
  /-- The text written at once. -/
  text : String
  /-- The events reported. -/
  events : List Event
  /-- What is to be done next. -/
  tasks : List Task

/-- The visit that writes a text. -/
def Visit.ofText (text : String) : Visit :=
  ⟨text, [], []⟩

/-- The visit that leaves values to be visited. -/
def Visit.ofValues (values : List Value) : Visit :=
  ⟨"", [], values.map .visit⟩

namespace Node

/-- The visit to an element.
Source: `open_element` (sections 4.3 and 4.4) -/
def visit (options : Options engine) (node : Node Value) : Visit :=
  let start := node.startText options
  let dropped := (node.droppedAttributes options).map fun entry => .dropsAttribute entry.1 entry.2
  match node.outline options with
  | .void ending =>
    { text := start ++ ending.text options node.name
      events := dropped ++ node.content.toList.map fun _ => .trailingContent node.name
      tasks := node.content.toList.map .visit }
  | .closed ending => ⟨start ++ ending.text options node.name, dropped, []⟩
  | .around => ⟨start ++ ">", dropped, node.content.toList.map .visit ++ [.close node.name]⟩

end Node

namespace Value

/-- The visit to a value that is not vacuous. -/
def visitVisible (options : Options engine) : Value → Visit
  | .string text => .ofText text
  | .number value => .ofText (value.text .displayed)
  | .array items => .ofValues items
  | .node n =>
    if n.isTransparent then .ofValues n.content.toList else n.visit options
  | .null | .boolean _ => Node.empty.visit options

/-- The visit to a value. A vacuous value leaves no trace, and `true` is an element with nothing in
it.
Source: the branches of the loop in `render` (section 4.2) -/
def visit (options : Options engine) (value : Value) : Visit :=
  if value.isVacuous then .ofText "" else value.visitVisible options

end Value

/-- What a task writes, reports and leaves to be done. -/
def Task.perform (options : Options engine) : Task → Visit
  | .visit value => value.visit options
  | .close name => .ofText (endTagText name)

/-! ### The walk ends -/

/-- A measure of a task: every visit leaves less to be done than it takes away. -/
noncomputable def Task.weight : Task → Nat
  | .visit value => sizeOf value
  | .close _ => 1

/-- A measure of all that is to be done. -/
noncomputable def Task.totalWeight : List Task → Nat
  | [] => 0
  | task :: tasks => task.weight + totalWeight tasks

/-- Nothing to be done weighs nothing. -/
@[simp] theorem Task.totalWeight_nil : totalWeight [] = 0 := rfl

/-- A task weighs in addition to the others. -/
@[simp] theorem Task.totalWeight_cons (task : Task) (tasks : List Task) :
    totalWeight (task :: tasks) = task.weight + totalWeight tasks := rfl

/-- Tasks behind each other weigh what they weigh together. -/
@[simp] theorem Task.totalWeight_append (tasks tasks' : List Task) :
    totalWeight (tasks ++ tasks') = totalWeight tasks + totalWeight tasks' := by
  induction tasks with
  | nil => rw [List.nil_append, totalWeight_nil, Nat.zero_add]
  | cons task tasks ih =>
    rw [List.cons_append, totalWeight_cons, totalWeight_cons, ih, Nat.add_assoc]

/-- Every value weighs something. -/
theorem Value.sizeOf_pos (value : Value) : 0 < sizeOf value := by
  cases value with
  | null => exact Nat.one_pos
  | boolean => rw [Value.boolean.sizeOf_spec]; omega
  | number => rw [Value.number.sizeOf_spec]; omega
  | string => rw [Value.string.sizeOf_spec]; omega
  | array => rw [Value.array.sizeOf_spec]; omega
  | node => rw [Value.node.sizeOf_spec]; omega

/-- Visiting the items of a list weighs no more than the list. -/
theorem Task.totalWeight_items (items : List Value) :
    totalWeight (items.map .visit) < 1 + sizeOf items := by
  induction items with
  | nil => rw [List.map_nil, totalWeight_nil]; omega
  | cons item items ih =>
    rw [List.map_cons, totalWeight_cons, List.cons.sizeOf_spec, weight]
    omega

/-- Visiting the content of a node weighs less than the node, even with an end tag to come. -/
theorem Task.totalWeight_content (node : Node Value) :
    totalWeight (node.content.toList.map .visit) + 1 < 1 + sizeOf node := by
  obtain ⟨tag, attrs, content⟩ := node
  rw [Node.mk.sizeOf_spec]
  cases content with
  | none => rw [Option.toList_none, List.map_nil, totalWeight_nil]; omega
  | some value =>
    rw [Option.toList_some, List.map_cons, totalWeight_cons, List.map_nil, totalWeight_nil, weight,
      Option.some.sizeOf_spec]
    omega

/-- Visiting an element leaves its content and an end tag to be done, or less. -/
theorem Task.totalWeight_visit_node (options : Options engine) (node : Node Value) :
    totalWeight (node.visit options).tasks ≤
      totalWeight (node.content.toList.map .visit) + 1 := by
  have h : totalWeight [Task.close node.name] = 1 := rfl
  unfold Node.visit
  split
  · exact Nat.le_add_right _ _
  · exact Nat.zero_le _
  · exact Nat.le_of_eq (by rw [totalWeight_append, h])

/-- Every task leaves less to be done than it takes away. -/
theorem Task.totalWeight_perform (options : Options engine) (task : Task) :
    totalWeight (task.perform options).tasks < task.weight := by
  match task with
  | .close name => exact Nat.one_pos
  | .visit value =>
    rw [perform, Value.visit, weight]
    split
    · exact value.sizeOf_pos
    · rename_i visible
      match value with
      | .string text => exact Value.sizeOf_pos _
      | .number x => exact Value.sizeOf_pos _
      | .array items =>
        rw [Value.visitVisible, Visit.ofValues, Value.array.sizeOf_spec]
        exact totalWeight_items items
      | .node node =>
        have content := totalWeight_content node
        have element := totalWeight_visit_node options node
        rw [Value.visitVisible, Value.node.sizeOf_spec]
        split
        · simp only [Visit.ofValues]; omega
        · omega
      | .null => exact absurd rfl visible
      | .boolean value =>
        have element := totalWeight_visit_node options .empty
        have content : totalWeight (Node.empty.content.toList.map .visit) = 0 := rfl
        have size : sizeOf value = 1 := by cases value <;> rfl
        rw [Value.visitVisible, Value.boolean.sizeOf_spec]
        omega

/-! ### The walk -/

/-- Performs one task after another.
Source: the loop in `render` (sections 4.1 and 10.7) -/
def walk (options : Options engine) (tasks : List Task) (transcript : Transcript) : Transcript :=
  match tasks with
  | [] => transcript
  | task :: tasks =>
    let visit := task.perform options
    walk options (visit.tasks ++ tasks) ((transcript.write visit.text).report visit.events)
termination_by Task.totalWeight tasks
decreasing_by
  simp only [Task.totalWeight_append, Task.totalWeight_cons]
  have := Task.totalWeight_perform options task
  omega

namespace Value

/-- Renders a tree and records what happens.
Source: `render` (sections 6 and 10.9) -/
def transcript (options : Options engine) (tree : Value) : Transcript :=
  walk options [.visit tree]
    (Transcript.empty.report [.begins options.hasPatterns options.names.length])

/-- Renders a tree.
Source: `render_with_options` (section 10.4) -/
def render (options : Options engine) (tree : Value) : String :=
  (tree.transcript options).output

end Value

end Markup
