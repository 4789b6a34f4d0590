import Markup.Proofs.Render.Laws

/-!
# The elements of a tree

The elements of a tree are the nodes that are not transparent, and the empty elements that `true`
stands for, where a child stands (`Value.HasElement`). What is inside an attribute value is no
element of the tree. `Value.elements` lists them in the order of the tree.

Every element has its place in the text. `Value.Stands` says how much text comes before an element
and how much after it, and the text of the tree is so divided (`Value.Stands.markup_eq`). No element
is left out (`Value.hasElement_iff_exists_stands`): the only content that is not written is one that
does not count as content, and such a content has no elements in it.

Whatever tells two renderings of a tree apart, an element does: if the options agree on every
element around one and the same content, they agree on the tree (`Value.markup_congr_of_elements`).
-/

namespace Markup

variable {engine : Pattern.Engine}

/-! ### Elements -/

namespace Value

/-- An element of a tree. -/
inductive HasElement (element : Node Value) : Value → Prop
  /-- The empty element that `true` stands for. -/
  | truth (is_empty : element = .empty) : HasElement element (.boolean true)
  /-- A node that is not transparent. -/
  | node (shown : element.isTransparent = false) : HasElement element (.node element)
  /-- An element of an item of a list. -/
  | item {items : List Value} {value : Value} (mem : value ∈ items)
    (inside : HasElement element value) : HasElement element (.array items)
  /-- An element of the content of a node. -/
  | content {n : Node Value} {value : Value} (has : n.content = some value)
    (inside : HasElement element value) : HasElement element (.node n)

/-- What has an element in it counts as content. -/
theorem HasElement.isTruthy {element : Node Value} {value : Value}
    (h : HasElement element value) : value.isTruthy = true := by
  cases h <;> rfl

/-! ### The elements in order -/

mutual

/-- The elements of a tree, in the order of the tree. -/
def elements : Value → List (Node Value)
  | .null | .number _ | .string _ => []
  | .boolean value => if value then [.empty] else []
  | .array items => elementsOfItems items
  | .node ⟨tag, attrs, content⟩ =>
    let inside := elementsOfContent content
    if Node.isTransparent ⟨tag, attrs, content⟩ then inside else ⟨tag, attrs, content⟩ :: inside
termination_by structural value => value

/-- The elements of the items of a list behind each other. -/
def elementsOfItems : List Value → List (Node Value)
  | [] => []
  | item :: items => item.elements ++ elementsOfItems items
termination_by structural items => items

/-- The elements of the content of a node. -/
def elementsOfContent : Option Value → List (Node Value)
  | none => []
  | some value => value.elements
termination_by structural content => content

end

/-- The elements of a list are those of its items. -/
theorem elementsOfItems_eq_flatMap (items : List Value) :
    elementsOfItems items = items.flatMap elements := by
  induction items with
  | nil => rfl
  | cons item items ih => rw [elementsOfItems, ih, List.flatMap_cons]

/-- The list of the elements of a tree holds the elements of the tree. -/
theorem mem_elements {element : Node Value} {tree : Value} :
    element ∈ tree.elements ↔ HasElement element tree := by
  induction tree with
  | null | number | string => exact iff_of_false List.not_mem_nil nofun
  | boolean value =>
    cases value with
    | false => exact iff_of_false List.not_mem_nil nofun
    | true =>
      constructor
      · intro mem
        exact .truth (List.mem_singleton.1 mem)
      · rintro ⟨is_empty⟩
        exact List.mem_singleton.2 is_empty
  | array items ih =>
    rw [elements, elementsOfItems_eq_flatMap, List.mem_flatMap]
    constructor
    · rintro ⟨item, mem, inside⟩
      exact .item mem ((ih item mem).1 inside)
    · intro h
      cases h with
      | item mem inside => exact ⟨_, mem, (ih _ mem).2 inside⟩
  | node tag attrs content _ ih =>
    have content_iff : element ∈ elementsOfContent content ↔
        ∃ value, content = some value ∧ HasElement element value := by
      cases content with
      | none => exact iff_of_false List.not_mem_nil nofun
      | some value => simpa [elementsOfContent] using ih value rfl
    rw [elements]
    cases shown : Node.isTransparent (⟨tag, attrs, content⟩ : Node Value) with
    | true =>
      rw [if_pos rfl, content_iff]
      constructor
      · rintro ⟨value, has, inside⟩
        exact .content has inside
      · intro h
        cases h with
        | node shown' => simp [shown] at shown'
        | content has inside => exact ⟨_, has, inside⟩
    | false =>
      rw [if_neg Bool.false_ne_true, List.mem_cons, content_iff]
      constructor
      · rintro (rfl | ⟨value, has, inside⟩)
        · exact .node shown
        · exact .content has inside
      · intro h
        cases h with
        | node => exact .inl rfl
        | content has inside => exact .inr ⟨_, has, inside⟩

/-- A property that can be decided of elements can be decided of all elements of a tree. -/
instance {p : Node Value → Prop} [DecidablePred p] {tree : Value} :
    Decidable (∀ element, HasElement element tree → p element) :=
  decidable_of_iff (∀ element ∈ tree.elements, p element)
    (forall_congr' fun _ => imp_congr_left mem_elements)

end Value

/-! ### Their place in the text -/

namespace Outline

/-- What the start tag of an element ends with. -/
def ending : Outline → Ending
  | .void ending => ending
  | .closed ending => ending
  | .around => .plain

end Outline

namespace Node

/-- The text before the content of a node and the text after it; `none` if the content is not
written. -/
def surroundings? (options : Options engine) (n : Node Value) : Option (String × String) :=
  if n.isTransparent then some ("", "")
  else
    match n.outline options with
    | .void ending => some (n.startText options ++ ending.text options n.name, "")
    | .closed _ => none
    | .around => some (n.startText options ++ ">", endTagText n.name)

/-- A content that counts as one is written. -/
theorem exists_surroundings? (options : Options engine) {n : Node Value} {value : Value}
    (has : n.content = some value) (truthy : value.isTruthy = true) :
    ∃ lead trail, n.surroundings? options = some (lead, trail) := by
  have counts : n.hasContent = true := by
    rw [hasContent, has, Option.any_some, truthy]
  unfold surroundings? outline
  rw [counts]
  cases n.isTransparent with
  | true => exact ⟨_, _, rfl⟩
  | false => cases options.isVoid n.name <;> exact ⟨_, _, rfl⟩

/-- The text of an element is its start tag, the ending of that, and the rest. -/
theorem exists_enclose_eq (options : Options engine) (n : Node Value) (body : String) :
    ∃ tail, n.enclose options body =
      n.startText options ++ ((n.outline options).ending.text options n.name ++ tail) := by
  unfold enclose
  cases n.outline options with
  | void ending => exact ⟨body, rfl⟩
  | closed ending => exact ⟨"", by simp [Outline.ending]⟩
  | around => exact ⟨body ++ endTagText n.name, by
      simp [Outline.ending, Ending.text, String.append_assoc]⟩

end Node

namespace Value

/-- The text of a node is that of its content with the text around it. -/
theorem markup_of_surroundings? (options : Options engine) {n : Node Value} {lead trail : String}
    (h : n.surroundings? options = some (lead, trail)) :
    (Value.node n).markup options =
      lead ++ (n.content.map (markup options)).getD "" ++ trail := by
  unfold Node.surroundings? at h
  cases transparent : n.isTransparent with
  | true =>
    rw [transparent] at h
    obtain ⟨rfl, rfl⟩ : "" = lead ∧ "" = trail := by simpa using h
    rw [markup_of_isTransparent options transparent]
    simp
  | false =>
    rw [transparent] at h
    rw [markup_of_not_isTransparent options transparent, Node.enclose]
    cases outline : n.outline options with
    | void ending =>
      obtain ⟨rfl, rfl⟩ : _ = lead ∧ "" = trail := by simpa [outline] using h
      simp [String.append_assoc]
    | closed ending => simp [outline] at h
    | around =>
      obtain ⟨rfl, rfl⟩ : _ = lead ∧ endTagText n.name = trail := by simpa [outline] using h
      simp [String.append_assoc]

/-- The text of a list is divided by any of its items. -/
theorem markup_array_append_cons (options : Options engine) (left : List Value) (value : Value)
    (right : List Value) :
    (array (left ++ value :: right)).markup options =
      (array left).markup options ++ value.markup options ++ (array right).markup options := by
  rw [markup_array, markup_array, markup_array, List.map_append, List.map_cons,
    String.join_append, String.join_cons, String.append_assoc]

/-- An element stands in a tree with this much text before it and this much text after it. -/
inductive Stands (options : Options engine) (element : Node Value) :
    (before after : String) → Value → Prop
  /-- The empty element that `true` stands for. -/
  | truth (is_empty : element = .empty) : Stands options element "" "" (.boolean true)
  /-- A node that is not transparent. -/
  | node (shown : element.isTransparent = false) : Stands options element "" "" (.node element)
  /-- In an item of a list, between the texts of the other items. -/
  | item {left right : List Value} {value : Value} {before after : String}
    (inside : Stands options element before after value) :
    Stands options element ((array left).markup options ++ before)
      (after ++ (array right).markup options) (.array (left ++ value :: right))
  /-- In the content of a node, if that is written. -/
  | content {n : Node Value} {value : Value} {lead trail before after : String}
    (has : n.content = some value) (written : n.surroundings? options = some (lead, trail))
    (inside : Stands options element before after value) :
    Stands options element (lead ++ before) (after ++ trail) (.node n)

variable {options : Options engine} {element : Node Value}

/-- The text of a tree is divided by the text of any element of it. -/
theorem Stands.markup_eq {before after : String} {tree : Value}
    (h : Stands options element before after tree) :
    tree.markup options =
      before ++ element.enclose options ((element.content.map (markup options)).getD "") ++
        after := by
  induction h with
  | truth is_empty =>
    subst is_empty
    have text : (boolean true).markup options = Node.empty.enclose options "" := rfl
    rw [text]
    simp [Node.empty]
  | node shown =>
    rw [markup_of_not_isTransparent options shown]
    simp
  | item inside ih =>
    rw [markup_array_append_cons, ih]
    simp only [String.append_assoc]
  | content has written inside ih =>
    rw [markup_of_surroundings? options written, has, Option.map_some, Option.getD_some, ih]
    simp only [String.append_assoc]

/-- An element has a place in the text. -/
theorem HasElement.exists_stands (options : Options engine) {tree : Value}
    (h : HasElement element tree) : ∃ before after, Stands options element before after tree := by
  induction h with
  | truth is_empty => exact ⟨"", "", .truth is_empty⟩
  | node shown => exact ⟨"", "", .node shown⟩
  | @item items value mem inside ih =>
    obtain ⟨before, after, place⟩ := ih
    obtain ⟨left, right, rfl⟩ := List.append_of_mem mem
    exact ⟨_, _, .item place⟩
  | @content n value has inside ih =>
    obtain ⟨before, after, place⟩ := ih
    obtain ⟨lead, trail, written⟩ := Node.exists_surroundings? options has inside.isTruthy
    exact ⟨_, _, .content has written place⟩

/-- What has a place in the text is an element. -/
theorem Stands.hasElement {before after : String} {tree : Value}
    (h : Stands options element before after tree) : HasElement element tree := by
  induction h with
  | truth is_empty => exact .truth is_empty
  | node shown => exact .node shown
  | item _ ih => exact .item (List.mem_append_right _ List.mem_cons_self) ih
  | content has _ _ ih => exact .content has ih

/-- **The elements of a tree are just what has a place in its text.** -/
theorem hasElement_iff_exists_stands (options : Options engine) {tree : Value} :
    HasElement element tree ↔ ∃ before after, Stands options element before after tree := by
  constructor
  · exact HasElement.exists_stands options
  · rintro ⟨before, after, place⟩
    exact place.hasElement

/-! ### Renderings that agree -/

/-- **Options that agree on every element agree on the tree.** -/
theorem markup_congr_of_elements {o p : Options engine} {tree : Value}
    (h : ∀ element, HasElement element tree →
      element.enclose o ((element.content.map (markup o)).getD "") =
        element.enclose p ((element.content.map (markup o)).getD "")) :
    tree.markup o = tree.markup p := by
  induction tree with
  | null => rfl
  | boolean value =>
    cases value with
    | false => rfl
    | true => exact h .empty (.truth rfl)
  | number x => rfl
  | string s => rfl
  | array items ih =>
    have texts : items.map (markup o) = items.map (markup p) := by
      apply List.map_congr_left
      intro item mem
      exact ih item mem fun element inside => h element (.item mem inside)
    rw [markup_array, markup_array, texts]
  | node tag attrs content _ ih =>
    have body : content.map (markup o) = content.map (markup p) := by
      cases content with
      | none => rfl
      | some value =>
        rw [Option.map_some, Option.map_some,
          ih value rfl fun element inside => h element (.content rfl inside)]
    cases shown : Node.isTransparent (⟨tag, attrs, content⟩ : Node Value) with
    | true => rw [markup_of_isTransparent o shown, markup_of_isTransparent p shown, body]
    | false =>
      rw [markup_of_not_isTransparent o shown, markup_of_not_isTransparent p shown,
        h _ (.node shown), body]

end Value

end Markup
