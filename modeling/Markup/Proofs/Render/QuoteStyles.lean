import Markup.Pattern.Standard
import Markup.Proofs.Render.AttributeTokens
import Markup.Proofs.Render.Elements

/-!
# The quotes around values

The quote style acts on nothing but the quotes around attribute values. A quote is one character
whatever the style, so all styles render a tree to texts of the same length
(`Value.length_markup_quotedBy`). Everything is at the same place in each of them, and a quote that
is another one shows: two styles render a tree alike exactly if they choose the same quote for every
value between quotes (`Value.markup_quotedBy_eq_iff`).

The smart style and the double style differ on the values with a double quote in them. Where double
quotes are replaced there are no such values, because the quote is chosen after the replacement.
Where they are kept, there are as many as there are texts with a double quote in them among the
attribute values of the elements: such a text needs quotes, and the text of a number has none.
`Value.render_quotedBy` puts this together.
-/

namespace Markup

variable {engine : Pattern.Engine}

/-- The options with another quote style. -/
def Options.quotedBy (options : Options engine) (style : QuoteStyle) : Options engine :=
  { options with quoteStyle := style }

/-- The quote style is the one that was set. -/
@[simp] theorem Options.quoteStyle_quotedBy (options : Options engine) (style : QuoteStyle) :
    (options.quotedBy style).quoteStyle = style := rfl

/-- Texts that begin with texts of the same length are equal part by part. -/
theorem append_eq_iff_of_length {s t : String} (same : s.length = t.length) {x y : String} :
    s ++ x = t ++ y ↔ s = t ∧ x = y := by
  constructor
  · intro h
    have chars : s.toList ++ x.toList = t.toList ++ y.toList := by
      rw [← String.toList_append, ← String.toList_append, h]
    have heads_same : s.toList.length = t.toList.length := by
      rw [String.length_toList, String.length_toList, same]
    obtain ⟨heads, tails⟩ := List.append_inj chars heads_same
    exact ⟨String.toList_inj.1 heads, String.toList_inj.1 tails⟩
  · rintro ⟨rfl, rfl⟩
    rfl

variable (options : Options engine) (style style' : QuoteStyle)

/-! ### Attributes -/

namespace Written

/-- An attribute is as long in one style as in another. -/
theorem length_text (next : Written) : (next.text style).length = (next.text style').length := by
  cases next with
  | marker | bare => rfl
  | quoted name value => simp [text]

/-- Two styles write an attribute alike if it is not quoted, or if they choose the same quote. -/
theorem text_eq_iff (next : Written) :
    next.text style = next.text style' ↔
      ∀ name value, next = .quoted name value → style.quoteFor value = style'.quoteFor value := by
  cases next with
  | marker | bare => simp [text]
  | quoted name value =>
    have quotes : style.quoteFor value = style'.quoteFor value ↔
        String.singleton (style.quoteFor value) = String.singleton (style'.quoteFor value) := by
      rw [← String.toList_inj]
      simp
    constructor
    · rintro h _ _ ⟨⟩
      simp only [text, String.append_assoc, String.append_right_inj] at h
      exact quotes.2 ((append_eq_iff_of_length (by simp)).1 h).1
    · intro h
      rw [text, text, h name value rfl]

/-- Attributes behind each other are as long in one style as in another. -/
theorem length_layout_quotedBy (afterQuoted : Bool) (written : List Written) :
    (layout (options.quotedBy style) afterQuoted written).length =
      (layout (options.quotedBy style') afterQuoted written).length := by
  induction written generalizing afterQuoted with
  | nil => rfl
  | cons next rest ih =>
    simp only [layout, Options.quoteStyle_quotedBy, String.length_append, ih next.isQuoted,
      length_text style style' next]
    rfl

/-- Two styles write attributes behind each other alike if they write each of them alike. -/
theorem layout_quotedBy_eq_iff (afterQuoted : Bool) (written : List Written) :
    layout (options.quotedBy style) afterQuoted written =
        layout (options.quotedBy style') afterQuoted written ↔
      ∀ next ∈ written, next.text style = next.text style' := by
  induction written generalizing afterQuoted with
  | nil => simp [layout]
  | cons next rest ih =>
    have gap : space (options.quotedBy style) afterQuoted next =
        space (options.quotedBy style') afterQuoted next := rfl
    rw [layout, layout, String.append_assoc, String.append_assoc, gap, String.append_right_inj,
      Options.quoteStyle_quotedBy, Options.quoteStyle_quotedBy,
      append_eq_iff_of_length (length_text style style' next), ih, List.forall_mem_cons]

end Written

namespace Node

/-- The attributes that are written in the start tag of a node. -/
def written (n : Node Value) : List Written :=
  (n.attrs.map (·.written options)).getD []

/-- What is written in a start tag is written for the attribute map of the node. -/
theorem mem_written_iff {n : Node Value} {next : Written} :
    next ∈ n.written options ↔ ∃ attrs, n.attrs = some attrs ∧ next ∈ attrs.written options := by
  unfold written
  cases n.attrs <;> simp

/-- A start tag consists of the name and the attributes that are written. -/
theorem startText_eq (n : Node Value) :
    n.startText options =
      "<" ++ n.name ++ Written.layout options false (n.written options) := by
  unfold startText written
  cases n.attrs with
  | none => rfl
  | some attrs => exact congrArg ("<" ++ n.name ++ ·) (attrs.text_eq_layout options)

/-- Which attributes are written, and which of them are quoted, does not depend on the style. -/
theorem written_quotedBy (n : Node Value) :
    n.written (options.quotedBy style) = n.written options := rfl

/-- A start tag is as long in one style as in another. -/
theorem length_startText_quotedBy (n : Node Value) :
    (n.startText (options.quotedBy style)).length =
      (n.startText (options.quotedBy style')).length := by
  simp only [startText_eq, written_quotedBy, String.length_append,
    Written.length_layout_quotedBy options style style']

/-- Two styles begin an element alike if they choose the same quotes. -/
theorem startText_quotedBy_eq_iff (n : Node Value) :
    n.startText (options.quotedBy style) = n.startText (options.quotedBy style') ↔
      ∀ name value, .quoted name value ∈ n.written options →
        style.quoteFor value = style'.quoteFor value := by
  rw [startText_eq, startText_eq, written_quotedBy, written_quotedBy, String.append_right_inj,
    Written.layout_quotedBy_eq_iff]
  simp only [Written.text_eq_iff]
  constructor
  · intro h name value mem
    exact h _ mem name value rfl
  · rintro h _ mem name value rfl
    exact h name value mem

/-- An element is as long in one style as in another, if its content is. -/
theorem length_enclose_quotedBy (n : Node Value) {body body' : String}
    (same : body.length = body'.length) :
    (n.enclose (options.quotedBy style) body).length =
      (n.enclose (options.quotedBy style') body').length := by
  have start := n.length_startText_quotedBy options style style'
  have outline : n.outline (options.quotedBy style) = n.outline (options.quotedBy style') := rfl
  unfold enclose
  rw [outline, String.length_append, String.length_append, start]
  congr 1
  cases n.outline (options.quotedBy style') with
  | void ending =>
    rw [String.length_append, String.length_append, same]
    rfl
  | closed ending => rfl
  | around => simp only [String.length_append, same]

/-- The text before the content of a node is as long in one style as in another. -/
theorem length_surroundings?_quotedBy {n : Node Value} {lead trail lead' trail' : String}
    (h : n.surroundings? (options.quotedBy style) = some (lead, trail))
    (h' : n.surroundings? (options.quotedBy style') = some (lead', trail')) :
    lead.length = lead'.length := by
  have start := n.length_startText_quotedBy options style style'
  have outline : n.outline (options.quotedBy style) = n.outline (options.quotedBy style') := rfl
  unfold surroundings? at h h'
  rw [outline] at h
  cases transparent : n.isTransparent with
  | true =>
    simp only [transparent, if_true, Option.some.injEq, Prod.mk.injEq] at h h'
    rw [← h.1, ← h'.1]
  | false =>
    cases shape : n.outline (options.quotedBy style') with
    | void ending =>
      simp only [transparent, shape, Bool.false_eq_true, if_false, Option.some.injEq,
        Prod.mk.injEq] at h h'
      rw [← h.1, ← h'.1, String.length_append, String.length_append, start]
      rfl
    | closed ending => simp [transparent, shape] at h
    | around =>
      simp only [transparent, shape, Bool.false_eq_true, if_false, Option.some.injEq,
        Prod.mk.injEq] at h h'
      rw [← h.1, ← h'.1, String.length_append, String.length_append, start]

end Node

/-! ### Trees -/

namespace Value

/-- **A tree renders to a text of the same length in every style.** -/
theorem length_markup_quotedBy (tree : Value) :
    (tree.markup (options.quotedBy style)).length =
      (tree.markup (options.quotedBy style')).length := by
  induction tree with
  | null | number | string => rw [markup, markup]
  | boolean value =>
    cases value with
    | false => rw [markup_of_isVacuous _ rfl, markup_of_isVacuous _ rfl]
    | true => exact Node.length_enclose_quotedBy options style style' .empty rfl
  | array items ih =>
    rw [markup_array, markup_array, String.length_join, String.length_join, List.map_map,
      List.map_map]
    exact congrArg List.sum (List.map_congr_left ih)
  | node tag attrs content _ ih =>
    have body : ((content.map (markup (options.quotedBy style))).getD "").length =
        ((content.map (markup (options.quotedBy style'))).getD "").length := by
      cases content with
      | none => rw [Option.map_none, Option.map_none]
      | some value => exact ih value rfl
    cases shown : Node.isTransparent (⟨tag, attrs, content⟩ : Node Value) with
    | true => rwa [markup_of_isTransparent _ shown, markup_of_isTransparent _ shown]
    | false =>
      rw [markup_of_not_isTransparent _ shown, markup_of_not_isTransparent _ shown]
      exact Node.length_enclose_quotedBy options style style' _ body

/-- If two styles render a tree alike, they begin every element of it alike. -/
theorem startText_eq_of_markup_eq {element : Node Value} {tree : Value}
    (inside : HasElement element tree)
    (same : tree.markup (options.quotedBy style) = tree.markup (options.quotedBy style')) :
    element.startText (options.quotedBy style) = element.startText (options.quotedBy style') := by
  -- What comes before the element is equally long in both texts, so both can be cut in front of it.
  have long := length_markup_quotedBy options style style'
  induction inside with
  | truth is_empty =>
    subst is_empty
    rw [Node.startText_quotedBy_eq_iff]
    intro name value mem
    cases mem
  | node shown =>
    rw [markup_of_not_isTransparent _ shown, markup_of_not_isTransparent _ shown, Node.enclose,
      Node.enclose] at same
    exact ((append_eq_iff_of_length
      (element.length_startText_quotedBy options style style')).1 same).1
  | item mem inside ih =>
    obtain ⟨left, right, rfl⟩ := List.append_of_mem mem
    rw [markup_array_append_cons, markup_array_append_cons, String.append_assoc,
      String.append_assoc, append_eq_iff_of_length (long _),
      append_eq_iff_of_length (long _)] at same
    exact ih same.2.1
  | @content n value has inside ih =>
    obtain ⟨lead, trail, around⟩ :=
      n.exists_surroundings? (options.quotedBy style) has inside.isTruthy
    obtain ⟨lead', trail', around'⟩ :=
      n.exists_surroundings? (options.quotedBy style') has inside.isTruthy
    have leads := Node.length_surroundings?_quotedBy options style style' around around'
    rw [markup_of_surroundings? _ around, markup_of_surroundings? _ around', has,
      Option.map_some, Option.map_some, Option.getD_some, Option.getD_some, String.append_assoc,
      String.append_assoc, append_eq_iff_of_length leads,
      append_eq_iff_of_length (long value)] at same
    exact ih same.2.1

/-- **Two styles render a tree alike exactly if they choose the same quotes** for the values between
quotes in all its elements. -/
theorem markup_quotedBy_eq_iff (tree : Value) :
    tree.markup (options.quotedBy style) = tree.markup (options.quotedBy style') ↔
      ∀ element, HasElement element tree → ∀ name value,
        .quoted name value ∈ element.written options →
          style.quoteFor value = style'.quoteFor value := by
  simp only [← Node.startText_quotedBy_eq_iff]
  constructor
  · intro same element inside
    exact startText_eq_of_markup_eq options style style' inside same
  · intro starts
    apply markup_congr_of_elements
    intro element inside
    rw [Node.enclose, Node.enclose, starts element inside]
    rfl

end Value

/-! ### Double quotes in values -/

/-- The smart style chooses the double quote, unless the value has one in it. -/
theorem QuoteStyle.quoteFor_smart_eq_iff (value : String) :
    smart.quoteFor value = double.quoteFor value ↔ '"' ∉ value.toList := by
  simp [quoteFor]

namespace Options

variable {options : Options engine}

/-- Where double quotes are kept, a text with one in it goes between quotes as it is. -/
theorem writtenText_of_mem (keeps : options.replaceQuote = false) (name : String) {text : String}
    (mem : '"' ∈ text.toList) : options.writtenText name text = .quoted name text := by
  have needed : requiresQuotes text = true := List.any_eq_true.2 ⟨'"', mem, by decide⟩
  have nonempty : text ≠ "" := by
    rintro rfl
    cases mem
  simp [writtenText, keeps, needed, nonempty]

/-- Where double quotes are kept, what goes between quotes is a text of the tree as it is. -/
theorem eq_of_writtenText_eq_quoted (keeps : options.replaceQuote = false)
    {name text name' shown : String} (h : options.writtenText name text = .quoted name' shown) :
    shown = text := by
  unfold writtenText at h
  simp only [keeps, Bool.false_eq_true, if_false] at h
  split at h <;> split at h <;> cases h
  rfl

end Options

namespace Attributes

variable {options : Options engine} {attrs : Attributes Value}

/-- Where double quotes are replaced, no value between quotes has one in it. -/
theorem not_mem_of_replaceQuote (replaces : options.replaceQuote = true) {name value : String}
    (mem : .quoted name value ∈ attrs.written options) : '"' ∉ value.toList := by
  have replaces' : (options.quotedBy .double).replaceQuote = true := replaces
  exact quotesClear_of_replaceQuote replaces' (.inr rfl) attrs name value mem

/-- Where double quotes are kept, the values between quotes have none in them exactly if the texts
among the attribute values have none. -/
theorem forall_not_mem_iff (keeps : options.replaceQuote = false) :
    (∀ name value, .quoted name value ∈ attrs.written options → '"' ∉ value.toList) ↔
      ∀ name text, (name, .string text) ∈ attrs.entries → '"' ∉ text.toList := by
  constructor
  · intro clear name text entry mem
    have written : options.written? name (.string text) = some (.quoted name text) :=
      congrArg some (Options.writtenText_of_mem keeps name mem)
    exact clear name text (List.mem_filterMap.2 ⟨_, entry, written⟩) mem
  · intro clear name value mem
    obtain ⟨⟨name', held⟩, entry, written⟩ := exists_entry_of_mem_written mem
    cases held with
    | null | array | node => cases written
    | boolean held => cases held <;> cases written
    | number x =>
      cases written
      exact x.not_mem_text_displayed
    | string text =>
      rw [Options.eq_of_writtenText_eq_quoted keeps (Option.some.inj written)]
      exact clear name' text entry

end Attributes

namespace Value

/-- **Smart quotes are double quotes, unless a double quote is kept in a value.** Where double
quotes are replaced, the two styles render every tree alike. Where double quotes are kept, they
render a tree alike exactly if no text among the attribute values of its elements has one in it. -/
theorem render_quotedBy (options : Options engine) (tree : Value) :
    (options.replaceQuote = true →
      tree.render (options.quotedBy .smart) = tree.render (options.quotedBy .double)) ∧
    (options.replaceQuote = false →
      (tree.render (options.quotedBy .smart) = tree.render (options.quotedBy .double) ↔
        ∀ element, HasElement element tree → ∀ attrs, element.attrs = some attrs →
          ∀ name text, (name, .string text) ∈ attrs.entries → '"' ∉ text.toList)) := by
  simp only [render_eq_markup, markup_quotedBy_eq_iff, QuoteStyle.quoteFor_smart_eq_iff,
    Node.mem_written_iff]
  constructor
  · rintro replaces element - name value ⟨attrs, -, mem⟩
    exact Attributes.not_mem_of_replaceQuote replaces mem
  · intro keeps
    constructor
    · intro clear element inside attrs has
      apply (Attributes.forall_not_mem_iff keeps).1
      intro name value mem
      exact clear element inside name value ⟨attrs, has, mem⟩
    · rintro clear element inside name value ⟨attrs, has, mem⟩
      exact (Attributes.forall_not_mem_iff keeps).2 (clear element inside attrs has) name value mem

/-- A button with a double quote in the value of an attribute. -/
def quotingButton : Node Value :=
  ⟨some (.name "button"),
    some ⟨[("size", .number .zero), ("onclick", .string "say(\"hi\")")]⟩, none⟩

/-- The button behind a paragraph, inside a transparent node. -/
def quotingTree : Value :=
  .node (.transparent (.array [.node (.named "p"), .node quotingButton]))

/-- The default options, with double quotes replaced or kept. -/
def replacingOptions (replaceQuote : Bool) : Options .standard :=
  { Options.default with replaceQuote := replaceQuote }

/-- The sample tree is rendered alike in both styles if its double quote is replaced, and not if it
is kept. The paragraph alone is rendered alike in any case. -/
theorem render_quotedBy_quotingTree :
    quotingTree.render ((replacingOptions true).quotedBy .smart) =
      quotingTree.render ((replacingOptions true).quotedBy .double) ∧
    quotingTree.render ((replacingOptions false).quotedBy .smart) ≠
      quotingTree.render ((replacingOptions false).quotedBy .double) ∧
    (Value.node (.named "p")).render ((replacingOptions false).quotedBy .smart) =
      (Value.node (.named "p")).render ((replacingOptions false).quotedBy .double) := by
  refine ⟨(render_quotedBy (replacingOptions true) quotingTree).1 rfl, ?_, ?_⟩
  · intro same
    have clear := ((render_quotedBy (replacingOptions false) quotingTree).2 rfl).1 same
      quotingButton (.content rfl (.item (List.mem_cons_of_mem _ List.mem_cons_self) (.node rfl)))
      _ rfl "onclick" "say(\"hi\")" (List.mem_cons_of_mem _ List.mem_cons_self)
    exact clear (by decide)
  · refine ((render_quotedBy (replacingOptions false) (.node (.named "p"))).2 rfl).2 ?_
    intro element inside attrs has
    cases inside with
    | node => cases has
    | content has' => cases has'

end Value

end Markup
