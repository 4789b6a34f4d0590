import Markup.Proofs.Tree
import Markup.Render.Meaning

/-!
# The events of rendering

A walk over a tree reports two kinds of events: an attribute that is not written, and content that
follows a void element. They are reported while the work still to be done changes place on a list
of tasks, and yet they come in the order of the tree.

`EventLaws` says which events a tree has, one equation for each kind of value, without regard to the
walk. The laws leave nothing open (`EventLaws.eq_happenings`), and the events of a walk are those of
the laws, after a first event that describes the configuration (`events_obey_laws`).

Some parts of a tree stay silent: the attributes of a transparent node, everything inside an
attribute value, and the content of an element that is closed as having none.
-/

namespace Markup

variable {engine : Pattern.Engine}

/-! ### What is described -/

/-- Is the value of a kind that no attribute is written with? -/
def Value.isUnwritten : Value → Bool
  | .null | .array _ | .node _ => true
  | .boolean value => !value
  | .number _ | .string _ => false

/-- Does the description consist of a pattern? -/
def VoidTag.isPattern : VoidTag engine → Bool
  | .name _ => false
  | .pattern _ => true

/-- Does the description consist of a name? -/
def VoidTag.isName : VoidTag engine → Bool
  | .name _ => true
  | .pattern _ => false

variable (options : Options engine)

/-- An attribute is left out because of the kind of its value alone. -/
theorem Options.isNone_written? (name : String) (value : Value) :
    (options.written? name value).isNone = value.isUnwritten := by
  cases value with
  | boolean value => cases value <;> rfl
  | null | number | string | array | node => rfl

/-- The attributes that are left out, in order. -/
theorem Attributes.dropped_eq (attrs : Attributes Value) :
    attrs.dropped options = attrs.entries.filter fun entry => entry.2.isUnwritten := by
  simp only [Attributes.dropped_eq_filter, Options.isNone_written?]

/-- Some pattern is configured exactly if some description is one. -/
theorem Options.hasPatterns_eq : options.hasPatterns = options.voidTags.any (·.isPattern) := by
  unfold Options.hasPatterns Options.patterns
  induction options.voidTags with
  | nil => rfl
  | cons tag tags ih => cases tag <;> simp_all [VoidTag.isPattern]

/-- The configured names are counted with repetitions. -/
theorem Options.length_names : options.names.length = options.voidTags.countP (·.isName) := by
  unfold Options.names
  induction options.voidTags with
  | nil => rfl
  | cons tag tags ih => cases tag <;> simp_all [VoidTag.isName]

/-! ### The laws -/

/-- The events of the attributes of an element: one for each that is left out, in order. -/
def Node.attributeEvents (node : Node Value) : List Event :=
  (((node.attrs.map (·.entries)).getD []).filter fun entry => entry.2.isUnwritten).map
    fun entry => .dropsAttribute entry.1 entry.2

/-- The equations that the events of a tree obey, kind by kind. -/
structure EventLaws (events : Value → List Event) : Prop where
  /-- What leaves no trace has no events. -/
  vacuous : ∀ value : Value, value.isVacuous = true → events value = []
  /-- A text has no events. -/
  string : ∀ s : String, events (.string s) = []
  /-- A number has no events. -/
  number : ∀ x : Double, events (.number x) = []
  /-- The value `true` has no events. -/
  truth : events (.boolean true) = []
  /-- The events of the items of a list come behind each other. -/
  array : ∀ items : List Value, events (.array items) = items.flatMap events
  /-- A transparent node has the events of its content, and none for its attributes. -/
  transparent : ∀ node : Node Value, node.isTransparent = true →
    events (.node node) = (node.content.map events).getD []
  /-- An element has the events of its attributes, and then what its kind asks for: content of a
  void element is reported and has its own events; the content of an element that is closed at once
  has none; any other content has its own events. -/
  element : ∀ node : Node Value, node.isTransparent = false →
    events (.node node) = node.attributeEvents ++
      if options.isVoid node.name then
        match node.content with
        | none => []
        | some content => .trailingContent node.name :: events content
      else if !node.content.any Value.isTruthy && options.closing.isSome then []
      else (node.content.map events).getD []

/-! ### The recursion on the tree obeys the laws -/

/-- The events of the attributes are those of the attributes that are left out. -/
theorem Node.map_droppedAttributes (node : Node Value) :
    ((node.droppedAttributes options).map fun entry => .dropsAttribute entry.1 entry.2) =
      node.attributeEvents := by
  unfold droppedAttributes attributeEvents
  cases node.attrs with
  | none => rfl
  | some attrs => simp [Attributes.dropped_eq]

namespace Value

/-- The events of a list are those of its items behind each other. -/
theorem happenings_array (items : List Value) :
    (array items).happenings options = items.flatMap (happenings options) := by
  rw [happenings]
  induction items with
  | nil => rfl
  | cons item items ih => rw [happeningsItems, ih, List.flatMap_cons]

/-- The events of a content are those of the value in it, if there is one. -/
theorem happeningsContent_eq_getD (content : Option Value) :
    happeningsContent options content = (content.map (happenings options)).getD [] := by
  cases content <;> rfl

/-- A value that leaves no trace has no events. -/
theorem happenings_of_isVacuous {value : Value} (h : value.isVacuous = true) :
    value.happenings options = [] := by
  cases value with
  | null => rfl
  | boolean value => simp_all [isVacuous, happenings]
  | number x => rfl
  | string s => rfl
  | array items => simp_all [isVacuous, happenings, happeningsItems]
  | node n => simp [isVacuous] at h

end Value

/-- The events of an element, with its kind spelled out. -/
theorem Node.happenings_eq (node : Node Value) (inside : List Event) :
    node.happenings options inside = node.attributeEvents ++
      if options.isVoid node.name then
        node.content.toList.map (fun _ => .trailingContent node.name) ++ inside
      else if !node.content.any Value.isTruthy && options.closing.isSome then []
      else inside := by
  unfold happenings outline hasContent
  rw [map_droppedAttributes]
  congr 1
  cases options.isVoid node.name with
  | true => rfl
  | false =>
    cases node.content.any Value.isTruthy <;>
      rcases hclosing : options.closing with _ | _ | _ | _ <;>
      simp [Options.emptyEnding?, hclosing]

/-- The recursion on the tree obeys the laws. -/
theorem eventLaws_happenings : EventLaws options (Value.happenings options) where
  vacuous _ h := Value.happenings_of_isVacuous options h
  string _ := rfl
  number _ := rfl
  truth := by
    change Node.empty.happenings options [] = []
    rw [Node.happenings_eq]
    simp [Node.empty, Node.attributeEvents]
  array items := Value.happenings_array options items
  transparent node h := by
    obtain ⟨tag, attrs, content⟩ := node
    rw [Value.happenings, if_pos h, Value.happeningsContent_eq_getD]
  element node h := by
    obtain ⟨tag, attrs, content⟩ := node
    rw [Value.happenings, h, Value.happeningsContent_eq_getD]
    change Node.happenings options _ _ = _
    rw [Node.happenings_eq]
    cases content <;> rfl

variable {options}

/-- Only the recursion on the tree obeys the laws. -/
theorem EventLaws.eq_happenings {events : Value → List Event} (laws : EventLaws options events) :
    events = Value.happenings options := by
  have known := eventLaws_happenings options
  funext value
  induction value with
  | null => exact laws.vacuous .null rfl
  | boolean value =>
    cases value with
    | false => exact laws.vacuous (.boolean false) rfl
    | true => rw [laws.truth, known.truth]
  | number x => exact laws.number x
  | string s => exact laws.string s
  | array items ih =>
    rw [laws.array, known.array, List.flatMap_def, List.flatMap_def, List.map_congr_left ih]
  | node tag attrs content _ ih =>
    cases h : Node.isTransparent (⟨tag, attrs, content⟩ : Node Value) with
    | true =>
      rw [laws.transparent _ h, known.transparent _ h]
      cases content with
      | none => rfl
      | some value => simp [ih value rfl]
    | false =>
      rw [laws.element _ h, known.element _ h]
      cases content with
      | none => rfl
      | some value => simp [ih value rfl]

variable (options)

/-! ### The walk -/

/-- The events that tasks stand for come behind each other. -/
theorem Task.happeningsAll_eq_flatMap (tasks : List Task) :
    happeningsAll options tasks = tasks.flatMap (happenings options) := by
  induction tasks with
  | nil => rfl
  | cons task tasks ih => rw [happeningsAll, ih, List.flatMap_cons]

/-- **The events of a walk are those of the laws, in the order of the tree**, after one event that
says whether any pattern is configured and how many names are. From any tasks and any transcript,
the walk adds the events of its tasks, the first task first. -/
theorem events_obey_laws :
    EventLaws options (Value.happenings options) ∧
    (∀ events, EventLaws options events → events = Value.happenings options) ∧
    (∀ tree : Value, (tree.transcript options).events.toList =
      .begins (options.voidTags.any (·.isPattern)) (options.voidTags.countP (·.isName)) ::
        tree.happenings options) ∧
    ∀ (tasks : List Task) (transcript : Transcript),
      (walk options tasks transcript).events.toList =
        transcript.events.toList ++ tasks.flatMap (Task.happenings options) := by
  refine ⟨eventLaws_happenings options, fun events laws => laws.eq_happenings, ?_, ?_⟩
  · intro tree
    rw [Value.transcript, walk_events, Task.happeningsAll_eq_flatMap, Options.hasPatterns_eq,
      Options.length_names]
    simp [Transcript.report, Transcript.empty, Task.happenings]
  · intro tasks transcript
    rw [walk_events, Task.happeningsAll_eq_flatMap]

end Markup
