import Markup.Pattern.Standard
import Markup.Proofs.Render.Elements

/-!
# Invisible trees

A tree can render to nothing without being vacuous itself: a list of nothing but empty texts does,
and so does a transparent node around it. `Value.Invisible` says which trees these are, without
regard to options. `Value.render_eq_empty_iff` says that no other tree renders to nothing, because
every number, every text that is not empty and every element writes at least one character.

An invisible value leaves no trace in any list, wherever that list stands in a tree
(`Value.Inserts.markup_eq`). What is around a list cannot tell that it has grown: a list counts as
content whatever is in it, and an attribute with a list or a node for its value is not written.
-/

namespace Markup

variable {engine : Pattern.Engine}

/-! ### What writes at least one character -/

/-- A decimal has a text in every style. -/
theorem Decimal.text_ne_empty (style : NumberStyle) (d : Decimal) : d.text style ≠ "" := by
  have digits : d.digits ≠ [] := Nat.toDigits_ne_nil
  rw [← String.toList_inj.ne]
  unfold Decimal.text positionalText scientificText
  split
  · split
    · simp [digits]
    · split <;> simp
  · simp

/-- A number that is displayed has a text. -/
theorem Double.text_displayed_ne_empty (x : Double) : x.text .displayed ≠ "" := by
  cases x with
  | nan => decide
  | infinite negative => cases negative <;> decide
  | finite negative magnitude =>
    have digits := (magnitude.shortest NumberStyle.displayed.tie).text_ne_empty .displayed
    rw [text]
    split
    · cases negative <;> decide
    · simp [digits]

/-- An element has a text, whatever its content is. -/
theorem Node.enclose_ne_empty (options : Options engine) (n : Node Value) (body : String) :
    n.enclose options body ≠ "" := by
  simp [enclose, startText]

namespace Value

/-! ### Invisible trees -/

/-- A tree that renders to nothing: one that is vacuous, a list of such trees, or a transparent node
around such a tree or around nothing. -/
inductive Invisible : Value → Prop
  /-- A vacuous value. -/
  | vacuous {value : Value} (vacuous : value.isVacuous = true) : Invisible value
  /-- A list of invisible trees. -/
  | array {items : List Value} (inside : ∀ item ∈ items, Invisible item) : Invisible (.array items)
  /-- A transparent node with an invisible content or with none. -/
  | transparent {n : Node Value} (transparent : n.isTransparent = true)
    (inside : ∀ value, n.content = some value → Invisible value) : Invisible (.node n)

/-- Texts behind each other are empty if each of them is. -/
theorem join_eq_empty_iff {α : Type} (text : α → String) (items : List α) :
    String.join (items.map text) = "" ↔ ∀ item ∈ items, text item = "" := by
  induction items with
  | nil => simp
  | cons item items ih =>
    rw [List.map_cons, String.join_cons, String.append_eq_empty_iff, ih, List.forall_mem_cons]

variable {options : Options engine}

/-- An invisible tree has no text. -/
theorem Invisible.markup_eq {tree : Value} (h : Invisible tree) : tree.markup options = "" := by
  induction h with
  | vacuous vacuous => exact markup_of_isVacuous options vacuous
  | array inside ih =>
    rw [markup_array, join_eq_empty_iff]
    exact ih
  | @transparent n transparent inside ih =>
    rw [markup_of_isTransparent options transparent]
    cases content : n.content with
    | none => rfl
    | some value => exact ih value content

/-- A tree without text is invisible. -/
theorem invisible_of_markup_eq {tree : Value} (h : tree.markup options = "") :
    Invisible tree := by
  induction tree with
  | null => exact .vacuous rfl
  | boolean value =>
    cases value with
    | false => exact .vacuous rfl
    | true => exact absurd h (Node.enclose_ne_empty options .empty "")
  | number x =>
    cases nan : x.isNaN with
    | true => exact .vacuous nan
    | false =>
      rw [markup, nan] at h
      exact absurd h x.text_displayed_ne_empty
  | string s =>
    have empty : s = "" := h
    exact .vacuous (by simp [isVacuous, empty])
  | array items ih =>
    rw [markup_array, join_eq_empty_iff] at h
    exact .array fun item mem => ih item mem (h item mem)
  | node tag attrs content _ ih =>
    cases shown : Node.isTransparent (⟨tag, attrs, content⟩ : Node Value) with
    | true =>
      rw [markup_of_isTransparent options shown] at h
      refine .transparent shown fun value has => ih value has ?_
      obtain rfl : content = some value := has
      exact h
    | false =>
      rw [markup_of_not_isTransparent options shown] at h
      exact absurd h (Node.enclose_ne_empty options _ _)

/-! ### Inserting a value -/

/-- The second tree is the first one with a value inserted in one of its lists, at any place of the
list and at any depth, attribute values included. -/
inductive Inserts (value : Value) : Value → Value → Prop
  /-- In the tree, which is a list. -/
  | here {before after : List Value} :
    Inserts value (.array (before ++ after)) (.array (before ++ value :: after))
  /-- In an item of a list. -/
  | item {before after : List Value} {item item' : Value} (inside : Inserts value item item') :
    Inserts value (.array (before ++ item :: after)) (.array (before ++ item' :: after))
  /-- In an attribute value of a node. -/
  | entry {n : Node Value} {before after : List (String × Value)} {name : String}
    {held held' : Value} (has : n.attrs = some ⟨before ++ (name, held) :: after⟩)
    (inside : Inserts value held held') :
    Inserts value (.node n) (.node (n.withAttributes ⟨before ++ (name, held') :: after⟩))
  /-- In the content of a node. -/
  | content {n : Node Value} {held held' : Value} (has : n.content = some held)
    (inside : Inserts value held held') : Inserts value (.node n) (.node (n.withContent held'))

variable {value tree tree' : Value}

/-- What a value is inserted in is a list or a node, before and after: it counts as content. -/
theorem Inserts.isTruthy (h : Inserts value tree tree') :
    tree.isTruthy = true ∧ tree'.isTruthy = true := by
  cases h <;> exact ⟨rfl, rfl⟩

/-- What a value is inserted in is a list or a node, before and after: no attribute is written with
it. -/
theorem Inserts.written?_eq (h : Inserts value tree tree') (options : Options engine)
    (name : String) :
    options.written? name tree' = options.written? name tree := by
  cases h <;> rfl

/-- The text of a node depends on its tag, the text of its attributes, whether it counts as having
content, and the text of its content. -/
theorem markup_node_congr {m n : Node Value} (tag : m.tag = n.tag)
    (attrs : m.attrs.map (·.text options) = n.attrs.map (·.text options))
    (counts : m.content.any isTruthy = n.content.any isTruthy)
    (body : (m.content.map (markup options)).getD "" =
      (n.content.map (markup options)).getD "") :
    (node m).markup options = (node n).markup options := by
  have shown : m.isTransparent = n.isTransparent := by rw [Node.isTransparent, tag]; rfl
  have name : m.name = n.name := by rw [Node.name, tag]; rfl
  cases transparent : n.isTransparent with
  | true =>
    rw [markup_of_isTransparent options transparent,
      markup_of_isTransparent options (shown.trans transparent), body]
  | false =>
    rw [markup_of_not_isTransparent options transparent,
      markup_of_not_isTransparent options (shown.trans transparent), body]
    exact Node.enclose_congr options name attrs counts _

/-- **Inserting an invisible value does not change the text of a tree.** -/
theorem Inserts.markup_eq (h : Inserts value tree tree') (invisible : value.Invisible) :
    tree'.markup options = tree.markup options := by
  induction h with
  | @here before after =>
    rw [markup_array_append_cons, invisible.markup_eq, String.append_empty, markup_array,
      markup_array, markup_array, List.map_append, String.join_append]
  | item _ ih => rw [markup_array_append_cons, markup_array_append_cons, ih]
  | @entry n before after name held held' has inside ih =>
    -- The attribute is not written, whatever its value renders to elsewhere.
    have written : Attributes.written options ⟨before ++ (name, held') :: after⟩ =
        Attributes.written options ⟨before ++ (name, held) :: after⟩ := by
      simp only [Attributes.written, List.filterMap_append, List.filterMap_cons,
        inside.written?_eq]
    refine markup_node_congr rfl ?_ rfl rfl
    have text : Attributes.text options ⟨before ++ (name, held') :: after⟩ =
        Attributes.text options ⟨before ++ (name, held) :: after⟩ := by
      rw [Attributes.text_eq_layout, Attributes.text_eq_layout, written]
    rw [has]
    exact congrArg some text
  | @content n held held' has inside ih =>
    obtain ⟨counted, counts⟩ := inside.isTruthy
    refine markup_node_congr rfl rfl ?_ ?_
    · rw [has]
      exact counts.trans counted.symm
    · rw [has]
      exact ih

/-- **A tree renders to nothing exactly if it is invisible**, whatever the options are. And an
invisible value can be inserted in any list of any tree, at any place and at any depth, without a
change to what the tree renders to. -/
theorem render_eq_empty_iff (tree : Value) :
    (∀ options : Options engine, tree.render options = "" ↔ tree.Invisible) ∧
    ∀ value tree', value.Invisible → Inserts value tree tree' →
      ∀ options : Options engine, tree'.render options = tree.render options := by
  constructor
  · intro options
    rw [render_eq_markup]
    exact ⟨invisible_of_markup_eq, Invisible.markup_eq⟩
  · intro value tree' invisible inserts options
    rw [render_eq_markup, render_eq_markup]
    exact inserts.markup_eq invisible

/-- A value that is invisible without being vacuous: a transparent node around a NaN and a list of
an empty text. -/
def invisibleValue : Value :=
  .node (.transparent (.array [.number .nan, .array [.string ""]]))

/-- An element with a list for an attribute value, and with another list deep in its content. -/
def deepLists (data children : List Value) : Value :=
  .node ⟨some (.name "p"), some ⟨[("data", .array data)]⟩,
    some (.node (.transparent (.array [.string "a", .array children])))⟩

/-- The sample value renders to nothing, and inserting it in the two lists of the sample element,
one after the other, changes nothing. -/
theorem render_eq_empty_iff_invisibleValue :
    invisibleValue.Invisible ∧ invisibleValue.isVacuous = false ∧
    (∀ options : Options .standard, invisibleValue.render options = "") ∧
    ∀ options : Options .standard, (deepLists [invisibleValue] [invisibleValue]).render options =
      (deepLists [] []).render options := by
  have invisible : invisibleValue.Invisible := by
    refine .transparent rfl ?_
    rintro _ ⟨⟩
    refine .array fun item mem => ?_
    simp only [List.mem_cons, List.not_mem_nil, or_false] at mem
    rcases mem with rfl | rfl
    · exact .vacuous rfl
    · exact .array fun item mem => List.mem_singleton.1 mem ▸ .vacuous rfl
  have inAttribute : Inserts invisibleValue (deepLists [] []) (deepLists [invisibleValue] []) :=
    @Inserts.entry invisibleValue _ [] [] "data" _ _ rfl (@Inserts.here invisibleValue [] [])
  have inContent : Inserts invisibleValue (deepLists [invisibleValue] [])
      (deepLists [invisibleValue] [invisibleValue]) :=
    .content rfl (.content rfl
      (@Inserts.item invisibleValue [.string "a"] [] _ _ (@Inserts.here invisibleValue [] [])))
  refine ⟨invisible, rfl, ?_, ?_⟩
  · intro options
    exact ((render_eq_empty_iff invisibleValue).1 options).2 invisible
  · intro options
    rw [(render_eq_empty_iff _).2 _ _ invisible inContent options,
      (render_eq_empty_iff _).2 _ _ invisible inAttribute options]

end Value

end Markup
