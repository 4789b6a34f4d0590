import Markup.Pattern.Standard
import Markup.Proofs.Render.Laws
import Markup.Proofs.Value.Exchange
import Markup.Render

/-!
# Rendering exchanged trees

A tree comes back from an exchange in normal form, which can differ from the tree: a NaN among the
children is `null` then, and a content that is `null` is missing. Neither shows in the text. The
numbers that do show, and that the exchange would lose, are infinite children and attribute values
that are not finite; a tree without those (`Value.ShowsFinite`) renders like its normal form
(`Value.markup_normal`).

The argument follows the tree. What the text of a node depends on is its name, the text of its
attributes, whether it counts as having content, and the text of that content
(`Node.enclose_congr`); each of the four is the same after an exchange. With the reading of written
trees, rendering the document of a tree is rendering the tree (`renderJson_toJson_compact`).
-/

namespace Markup

variable {engine : Pattern.Engine}

variable (options : Options engine)

/-! ### Trees that show finite numbers -/

namespace Value

/-- The numbers that the text of a tree shows are finite: no child is infinite, and no attribute
value of an element is a number that is not finite. A NaN among the children does not show. -/
structure ShowsFinite (tree : Value) : Prop where
  /-- No child is infinite. -/
  children : ∀ negative, ¬ InChildPosition (.number (.infinite negative)) tree
  /-- Numbers that are attribute values are finite. -/
  attributes : ∀ (n : Node Value) (attrs : Attributes Value) (entry : String × Value) (x : Double),
    InChildPosition (.node n) tree → n.attrs = some attrs → entry ∈ attrs.entries →
      entry.2 = .number x → x.isFinite = true

/-- A number that shows is finite; a NaN does not show. -/
theorem showsFinite_number {x : Double} :
    (number x).ShowsFinite ↔ x.isFinite = true ∨ x.isNaN = true := by
  constructor
  · intro h
    cases x with
    | nan => exact .inr rfl
    | infinite negative => exact absurd .here (h.children negative)
    | finite negative magnitude => exact .inl rfl
  · intro h
    refine ⟨fun negative inside => ?_, fun n attrs entry y inside => nomatch inside⟩
    cases inside
    simp [Double.isFinite, Double.isNaN] at h

/-- A list shows finite numbers if its items do. -/
theorem showsFinite_array {items : List Value} :
    (array items).ShowsFinite ↔ ∀ item ∈ items, item.ShowsFinite := by
  constructor
  · intro h item mem
    exact ⟨fun negative inside => h.children negative (.item mem inside),
      fun n attrs entry x inside => h.attributes n attrs entry x (.item mem inside)⟩
  · intro h
    constructor
    · rintro negative (_ | ⟨mem, inside⟩)
      exact (h _ mem).children negative inside
    · rintro n attrs entry x (_ | ⟨mem, inside⟩)
      exact (h _ mem).attributes n attrs entry x inside

/-- A node shows finite numbers if the numbers among its attribute values are finite and its content
shows finite numbers. -/
theorem showsFinite_node {n : Node Value} :
    (node n).ShowsFinite ↔
      (∀ attrs, n.attrs = some attrs → ∀ entry ∈ attrs.entries, ∀ x,
        entry.2 = .number x → x.isFinite = true) ∧
      ∀ value, n.content = some value → value.ShowsFinite := by
  constructor
  · intro h
    refine ⟨fun attrs has entry mem x => h.attributes n attrs entry x .here has mem, ?_⟩
    intro value has
    exact ⟨fun negative inside => h.children negative (.content has inside),
      fun m attrs entry x inside => h.attributes m attrs entry x (.content has inside)⟩
  · rintro ⟨numbers, content⟩
    constructor
    · rintro negative (_ | _ | ⟨has, inside⟩)
      exact (content _ has).children negative inside
    · rintro m attrs entry x (_ | _ | ⟨has, inside⟩)
      · exact fun has mem => numbers attrs has entry mem x
      · exact (content _ has).attributes m attrs entry x inside

/-! ### What an exchange does not show -/

/-- A finite number comes back as it is. -/
theorem normal_number_of_isFinite {x : Double} (h : x.isFinite = true) :
    (number x).normal = .number x := by
  rw [normal, if_pos h]

/-- A NaN comes back as nothing. -/
theorem normal_number_of_isNaN {x : Double} (h : x.isNaN = true) : (number x).normal = .null := by
  cases x with
  | nan => rfl
  | infinite negative | finite negative magnitude => cases h

/-- An attribute is written in the same way after an exchange, unless its value is a number that is
not finite. -/
theorem written?_normal (name : String) {value : Value}
    (h : ∀ x, value = .number x → x.isFinite = true) :
    options.written? name value.normal = options.written? name value := by
  cases value with
  | null => rfl
  | boolean value => rfl
  | number x => rw [normal_number_of_isFinite (h x rfl)]
  | string value => rfl
  | array items => rw [normal]; rfl
  | node n => rw [normal]; rfl

/-- Attributes have the same text after an exchange, if the numbers among them are finite. -/
theorem text_normalAttributes {attrs : Option (Attributes Value)}
    (h : ∀ map, attrs = some map → ∀ entry ∈ map.entries, ∀ x,
      entry.2 = .number x → x.isFinite = true) :
    ((normalAttributes attrs).map (·.text options)) = attrs.map (·.text options) := by
  rcases attrs with _ | ⟨⟨entries⟩⟩
  · rfl
  · have written : Attributes.written options ⟨normalEntries entries⟩ =
        Attributes.written options ⟨entries⟩ := by
      unfold Attributes.written
      rw [normalEntries_eq_map, List.filterMap_map]
      refine List.filterMap_congr fun entry mem => ?_
      exact written?_normal options entry.1 (h _ rfl entry mem)
    rw [normalAttributes, Option.map_some, Option.map_some, Attributes.text_eq_layout,
      Attributes.text_eq_layout, written]

/-- A content counts as such after an exchange exactly if it did before. -/
theorem any_isTruthy_normalContent {content : Option Value}
    (h : ∀ value, content = some value → value.ShowsFinite) :
    (normalContent content).any isTruthy = content.any isTruthy := by
  rcases content with _ | value
  · rfl
  · rw [normalContent]
    cases value with
    | null => rfl
    | boolean value => rfl
    | number x =>
      rcases showsFinite_number.1 (h _ rfl) with finite | nan
      · rw [normal_number_of_isFinite finite]
        rfl
      · rw [normal_number_of_isNaN nan]
        simp [present?, isTruthy, nan]
    | string value => rfl
    | array items => rw [normal]; rfl
    | node n => rw [normal]; rfl

/-- A value that comes back as a content has the text that it has by itself. -/
theorem markupContent_present? (value : Value) :
    markupContent options value.present? = value.markup options := by
  cases value <;> rfl

end Value

/-! ### Rendering after an exchange -/

/-- A tree that shows finite numbers renders like its normal form. -/
theorem Value.markup_normal {tree : Value} (h : tree.ShowsFinite) :
    tree.normal.markup options = tree.markup options := by
  induction tree with
  | null => rfl
  | boolean value => rfl
  | number x =>
    rcases showsFinite_number.1 h with finite | nan
    · rw [normal_number_of_isFinite finite]
    · have vacuous : (number x).isVacuous = true := nan
      rw [normal_number_of_isNaN nan, markup_of_isVacuous options vacuous]
      rfl
  | string value => rfl
  | array items ih =>
    rw [normal, normalItems_eq_map, markup_array, markup_array, List.map_map]
    refine congrArg String.join (List.map_congr_left fun item mem => ?_)
    exact ih item mem (showsFinite_array.1 h item mem)
  | node tag attrs content _ ihContent =>
    obtain ⟨numbers, shown⟩ := showsFinite_node.1 h
    have body : markupContent options (normalContent content) = markupContent options content := by
      rcases content with _ | value
      · rfl
      · rw [normalContent, markupContent_present?]
        exact ihContent value rfl (shown value rfl)
    have enclosed := fun body => Node.enclose_congr options
      (m := ⟨tag, normalAttributes attrs, normalContent content⟩) (n := ⟨tag, attrs, content⟩) rfl
      (text_normalAttributes options numbers) (any_isTruthy_normalContent shown) body
    rw [normal, markup, markup, body, enclosed]
    rfl

/-- **Exchanging a tree does not change what it renders to.** -/
theorem renderJson_toJson_compact {options : Options engine} {tree : Value} {text : Option String}
    (exchangeable : tree.Exchangeable) (shows : tree.ShowsFinite)
    (read : Options.readOrDefault text = .ok options) :
    renderJson engine tree.toJson.compact text = .ok (tree.render options) := by
  unfold renderJson
  rw [Value.read_compact_toJson exchangeable, read, Value.render_eq_markup options tree,
    ← Value.markup_normal options shows, ← Value.render_eq_markup]
  rfl

namespace Value

/-- A tree with a NaN among its children, and with contents that are lost in an exchange: one of an
element and one of a void element. -/
def shownTree : Value :=
  .array [.number .nan,
    .node ⟨some (.name "p"), some ⟨[("n", .number exchangedOne)]⟩, some .null⟩,
    .node ⟨some (.name "input"), none, some (.number .nan)⟩]

/-- Options that close by a slash. -/
def shownOptions : Options .standard :=
  { Options.default with closing := some .slash }

/-- The sample tree renders to the same text before and after an exchange, with options from a text
and with the default ones. -/
theorem renderJson_shownTree :
    shownTree.Exchangeable ∧ shownTree.ShowsFinite ∧
      renderJson .standard shownTree.toJson.compact
        (some "\x7b\"closingSingleTag\":\"slash\"\x7d") = .ok (shownTree.render shownOptions) ∧
      renderJson .standard shownTree.toJson.compact none =
        .ok (shownTree.render (.default : Options .standard)) := by
  have nan : (number .nan).Exchangeable := exchangeable_number fun finite => nomatch finite
  have exchangeable : shownTree.Exchangeable := by
    refine exchangeable_array fun item mem => ?_
    simp only [List.mem_cons, List.not_mem_nil, or_false] at mem
    rcases mem with rfl | rfl | rfl
    · exact nan
    · refine exchangeable_node ?_ ?_ ?_
      · rintro _ ⟨⟩
        unfold Attributes.Distinct
        decide
      · rintro _ ⟨⟩ entry mem
        rw [List.mem_singleton.1 mem]
        exact exchangeable_number fun _ => readsBack_exchangedOne
      · rintro _ ⟨⟩
        exact exchangeable_null
    · refine exchangeable_node (fun _ has => nomatch has) (fun _ has => nomatch has) ?_
      rintro _ ⟨⟩
      exact nan
  have shows : shownTree.ShowsFinite := by
    refine showsFinite_array.2 fun item mem => ?_
    simp only [List.mem_cons, List.not_mem_nil, or_false] at mem
    rcases mem with rfl | rfl | rfl
    · exact showsFinite_number.2 (.inr rfl)
    · refine showsFinite_node.2 ⟨?_, ?_⟩
      · rintro _ ⟨⟩ entry mem x eq
        rw [List.mem_singleton.1 mem] at eq
        cases eq
        rfl
      · rintro _ ⟨⟩
        constructor
        · rintro _ ⟨⟩
        · rintro _ _ _ _ ⟨⟩
    · refine showsFinite_node.2 ⟨fun _ has => (nomatch has), ?_⟩
      rintro _ ⟨⟩
      exact showsFinite_number.2 (.inr rfl)
  exact ⟨exchangeable, shows, renderJson_toJson_compact exchangeable shows rfl,
    renderJson_toJson_compact exchangeable shows rfl⟩

end Value

end Markup
