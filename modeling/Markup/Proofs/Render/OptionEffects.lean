import Mathlib.Data.List.Basic
import Markup.Pattern.Standard
import Markup.Proofs.Render.Elements
import Markup.Proofs.Render.FlatForm

/-!
# What the options act on

Changing one option leaves most trees as they are, and it is the elements of a tree that say whether
it does.

* How elements without content are closed acts only at void elements and at elements that do not
  count as having content (`Value.render_closedBy`). A zero needs care: it does not count as
  content, and yet it is written unless the element is closed at once.
* The description of void elements acts only through the names that it makes void, and only on the
  names of the elements of the tree (`Value.render_withVoidTags`). Order and repetitions in the
  description do not matter, and if there are patterns, the names in it do not matter either.

Both changes keep the text of attributes, so a start tag changes in its ending at most. If the
outline of an element stays the same, so does its text (`Node.enclose_congr_of_outline`).
-/

namespace Markup

variable {engine : Pattern.Engine}

/-! ### Options that write attributes alike -/

/-- Options that write attributes in the same way. -/
structure Options.WriteAlike (o p : Options engine) : Prop where
  /-- The same values are quoted. -/
  quoteAll : o.quoteAll = p.quoteAll
  /-- Double quotes are replaced by both or by neither. -/
  replaceQuote : o.replaceQuote = p.replaceQuote
  /-- Quotes are chosen in the same way. -/
  quoteStyle : o.quoteStyle = p.quoteStyle
  /-- Space is left out by both or by neither. -/
  removeSpace : o.removeSpace = p.removeSpace

section WriteAlike

variable {o p : Options engine}

/-- Such options lay out attributes in the same way. -/
theorem Written.layout_eq_of_writeAlike (h : o.WriteAlike p) (afterQuoted : Bool)
    (written : List Written) :
    Written.layout o afterQuoted written = Written.layout p afterQuoted written := by
  induction written generalizing afterQuoted with
  | nil => rfl
  | cons next rest ih =>
    rw [Written.layout, Written.layout, Written.space, Written.space, h.removeSpace, h.quoteStyle,
      ih]

/-- Such options write the same attributes of a map. -/
theorem Attributes.written_eq_of_writeAlike (h : o.WriteAlike p) (attrs : Attributes Value) :
    attrs.written o = attrs.written p := by
  apply List.filterMap_congr
  rintro ⟨name, value⟩ -
  cases value with
  | string text =>
    simp only [Options.written?, Options.writtenText, h.quoteAll, h.replaceQuote]
  | boolean value => cases value <;> rfl
  | null | number | array | node => rfl

/-- Such options begin an element in the same way. -/
theorem Node.startText_eq_of_writeAlike (h : o.WriteAlike p) (n : Node Value) :
    n.startText o = n.startText p := by
  have text : ∀ attrs : Attributes Value, attrs.text o = attrs.text p := by
    intro attrs
    rw [Attributes.text_eq_layout, Attributes.text_eq_layout, Attributes.written_eq_of_writeAlike h,
      Written.layout_eq_of_writeAlike h]
  simp only [Node.startText, text]

/-- **If the outline of an element stays the same, so does its text.** -/
theorem Node.enclose_congr_of_outline (h : o.WriteAlike p) {n : Node Value}
    (outline : n.outline o = n.outline p) (body : String) :
    n.enclose o body = n.enclose p body := by
  have ending : ∀ ending : Ending, ending.text o n.name = ending.text p n.name := by
    intro ending
    cases ending with
    | plain | endTag => rfl
    | slash => rw [Ending.text, Ending.text, h.removeSpace]
  simp only [Node.enclose, Node.startText_eq_of_writeAlike h, outline, ending]

/-- Options that give every element of a tree the same outline render the tree alike. -/
theorem Value.render_congr_of_outline (h : o.WriteAlike p) {tree : Value}
    (outline : ∀ element, Value.HasElement element tree → element.outline o = element.outline p) :
    tree.render o = tree.render p := by
  rw [render_eq_markup, render_eq_markup]
  apply markup_congr_of_elements
  intro element inside
  exact Node.enclose_congr_of_outline h (outline element inside) _

end WriteAlike

/-! ### How elements are closed -/

/-- The options with another way to close elements without content. -/
def Options.closedBy (options : Options engine) (closing : Option Closing) :
    Options engine :=
  { options with closing := closing }

section ClosedBy

variable (options : Options engine)

/-- How elements are closed has no part in how attributes are written. -/
theorem Options.writeAlike_closedBy (closing closing' : Option Closing) :
    (options.closedBy closing).WriteAlike (options.closedBy closing') :=
  ⟨rfl, rfl, rfl, rfl⟩

/-- The outline of an element, by the way to close elements without content. -/
theorem Node.outline_closedBy (n : Node Value) (closing : Option Closing) :
    n.outline (options.closedBy closing) =
      if options.isVoid n.name then .void (options.closedBy closing).voidEnding
      else
        match n.hasContent, (options.closedBy closing).emptyEnding? with
        | false, some ending => .closed ending
        | _, _ => .around := rfl

/-- An element that is not void and has content stands around it, however elements are closed. -/
theorem Node.outline_closedBy_of_hasContent {n : Node Value}
    (notVoid : options.isVoid n.name = false) (has : n.hasContent = true)
    (closing : Option Closing) : n.outline (options.closedBy closing) = .around := by
  rw [Node.outline_closedBy, notVoid, has]
  rfl

/-- An end tag at once is an end tag after nothing: an element that is not void and is not around a
zero has the same text with either. -/
theorem Node.enclose_closedBy_tag {n : Node Value} (notVoid : options.isVoid n.name = false)
    (nonzero : n.content.any Value.isZero = false) :
    n.enclose (options.closedBy (some .tag))
        ((n.content.map (Value.markup (options.closedBy (some .tag)))).getD "") =
      n.enclose (options.closedBy none)
        ((n.content.map (Value.markup (options.closedBy (some .tag)))).getD "") := by
  have alike := options.writeAlike_closedBy (some .tag) none
  cases has : n.hasContent with
  | true =>
    apply Node.enclose_congr_of_outline alike
    rw [Node.outline_closedBy_of_hasContent options notVoid has,
      Node.outline_closedBy_of_hasContent options notVoid has]
  | false =>
    -- what does not count as content and is no zero leaves no trace
    have nothing :
        (n.content.map (Value.markup (options.closedBy (some .tag)))).getD "" = "" := by
      rw [Node.hasContent] at has
      cases content : n.content with
      | none => rfl
      | some value =>
        rw [content, Option.any_some] at has nonzero
        exact Value.markup_of_isVacuous _ (Value.isVacuous_of_not_isTruthy has nonzero)
    have closed : n.outline (options.closedBy (some .tag)) = .closed .endTag := by
      rw [Node.outline_closedBy, notVoid, has]
      rfl
    have around : n.outline (options.closedBy none) = .around := by
      rw [Node.outline_closedBy, notVoid, has]
      rfl
    rw [nothing, Node.enclose, Node.enclose, closed, around,
      Node.startText_eq_of_writeAlike alike]
    simp [Ending.text]

end ClosedBy

namespace Value

/-- **How elements without content are closed acts only on void elements and on elements without
content.** If no element is void and none is around a zero, closing by an end tag is no different
from not closing at once. If no element is void, the default is to close by a slash. If every
element is void or has content, the default is not to close at once. If no element is void and every
one has content, all ways are the same. -/
theorem render_closedBy (options : Options engine) (tree : Value) :
    ((∀ element, HasElement element tree →
        options.isVoid element.name = false ∧ element.content.any isZero = false) →
      tree.render (options.closedBy (some .tag)) = tree.render (options.closedBy none)) ∧
    ((∀ element, HasElement element tree → options.isVoid element.name = false) →
      tree.render (options.closedBy (some .slash)) =
        tree.render (options.closedBy (some .default))) ∧
    ((∀ element, HasElement element tree → options.isVoid element.name = false →
        element.content.any isTruthy = true) →
      tree.render (options.closedBy (some .default)) = tree.render (options.closedBy none)) ∧
    ((∀ element, HasElement element tree →
        options.isVoid element.name = false ∧ element.content.any isTruthy = true) →
      ∀ closing closing',
        tree.render (options.closedBy closing) = tree.render (options.closedBy closing')) := by
  refine ⟨?_, ?_, ?_, ?_⟩
  · intro elements
    rw [render_eq_markup, render_eq_markup]
    apply markup_congr_of_elements
    intro element inside
    obtain ⟨notVoid, nonzero⟩ := elements element inside
    exact Node.enclose_closedBy_tag options notVoid nonzero
  · intro notVoid
    apply render_congr_of_outline (options.writeAlike_closedBy _ _)
    intro element inside
    rw [Node.outline_closedBy, Node.outline_closedBy, notVoid element inside]
    rfl
  · intro has
    apply render_congr_of_outline (options.writeAlike_closedBy _ _)
    intro element inside
    cases void : options.isVoid element.name with
    | true =>
      rw [Node.outline_closedBy, Node.outline_closedBy, void]
      rfl
    | false =>
      rw [Node.outline_closedBy_of_hasContent options void (has element inside void),
        Node.outline_closedBy_of_hasContent options void (has element inside void)]
  · intro elements closing closing'
    apply render_congr_of_outline (options.writeAlike_closedBy _ _)
    intro element inside
    obtain ⟨notVoid, has⟩ := elements element inside
    rw [Node.outline_closedBy_of_hasContent options notVoid has,
      Node.outline_closedBy_of_hasContent options notVoid has]

/-- The default options of the standard engine. -/
def usualOptions : Options .standard :=
  .default

/-- A list with elements that have nothing in them, one of them inside another element, and with an
element around an empty text. What else is inside the other element is left open. -/
def sparseTree (inner : Value) : Value :=
  .array [.boolean true,
    .node ⟨some (.name "p"), none, some (.array [.node (.named "q"), inner])⟩,
    .node (.transparent (.node ⟨some (.name "s"), none, some (.string "")⟩))]

/-- A list with elements that all have something in them, one inside another. What else is inside
that one is left open. -/
def filledTree (inner : Value) : Value :=
  .array [.string "a",
    .node ⟨some (.name "p"), none,
      some (.array [inner, .node ⟨some (.name "q"), none, some (.array [])⟩])⟩,
    .node (.transparent (.node ⟨some (.name "s"), none, some (.string "c")⟩))]

/-- A void element around another one. -/
def voidElements : Value :=
  .node ⟨some (.name "input"), none, some (.node (.named "image"))⟩

/-- An element around a zero. -/
def zeroElement : Value :=
  .node ⟨some (.name "z"), none, some (.number .zero)⟩

/-- One case for each of the four parts: elements without content among others; with them an element
around a zero; void elements, one around the other, among elements with content; and elements with
content alone. -/
theorem render_closedBy_mixedTrees :
    (sparseTree zeroElement).elements.map Node.name = ["view", "p", "q", "z", "s"] ∧
    (filledTree voidElements).elements.map Node.name = ["p", "input", "image", "q", "s"] ∧
    (sparseTree (.string "b")).render (usualOptions.closedBy (some .tag)) =
      (sparseTree (.string "b")).render (usualOptions.closedBy none) ∧
    (sparseTree zeroElement).render (usualOptions.closedBy (some .slash)) =
      (sparseTree zeroElement).render (usualOptions.closedBy (some .default)) ∧
    (filledTree voidElements).render (usualOptions.closedBy (some .default)) =
      (filledTree voidElements).render (usualOptions.closedBy none) ∧
    (filledTree (.string "b")).render (usualOptions.closedBy (some .slash)) =
      (filledTree (.string "b")).render (usualOptions.closedBy none) := by
  exact ⟨by decide, by decide, (render_closedBy usualOptions _).1 (by decide),
    (render_closedBy usualOptions _).2.1 (by decide),
    (render_closedBy usualOptions _).2.2.1 (by decide),
    (render_closedBy usualOptions _).2.2.2 (by decide) _ _⟩

end Value

/-! ### Which elements are void -/

namespace Options

/-- The options with another description of void elements. -/
def withVoidTags (options : Options engine) (tags : List (VoidTag engine)) : Options engine :=
  { options with voidTags := tags }

variable (options : Options engine) (tags : List (VoidTag engine))

/-- The patterns are those of the description. -/
theorem mem_patterns {pattern : Pattern engine} :
    pattern ∈ options.patterns ↔ .pattern pattern ∈ options.voidTags := by
  unfold patterns
  rw [List.mem_filterMap]
  constructor
  · rintro ⟨_ | _, mem, eq⟩
    · cases eq
    · rwa [Option.some.inj eq] at mem
  · intro mem
    exact ⟨_, mem, rfl⟩

/-- The names are those of the description. -/
theorem mem_names {name : String} : name ∈ options.names ↔ .name name ∈ options.voidTags := by
  unfold names
  rw [List.mem_filterMap]
  constructor
  · rintro ⟨_ | _, mem, eq⟩
    · rwa [Option.some.inj eq] at mem
    · cases eq
  · intro mem
    exact ⟨_, mem, rfl⟩

/-- With a pattern in the description, a name is void if some pattern matches it. -/
theorem isVoid_iff_of_pattern {pattern : Pattern engine} (has : .pattern pattern ∈ options.voidTags)
    (name : String) :
    options.isVoid name = true ↔
      ∃ other, .pattern other ∈ options.voidTags ∧ other.occursIn name = true := by
  have some_pattern : options.hasPatterns = true := by
    rw [hasPatterns, Bool.not_eq_true', List.isEmpty_eq_false_iff]
    exact List.ne_nil_of_mem (options.mem_patterns.2 has)
  rw [isVoid, if_pos some_pattern, List.any_eq_true]
  simp only [mem_patterns]

/-- Without patterns, a name is void if it is a built-in one or in the description. -/
theorem isVoid_iff_of_no_pattern (none_there : ∀ pattern, .pattern pattern ∉ options.voidTags)
    (name : String) :
    options.isVoid name = true ↔ name ∈ builtinVoidTags ∨ .name name ∈ options.voidTags := by
  have no_pattern : options.hasPatterns = false := by
    rw [hasPatterns, Bool.not_eq_false', List.isEmpty_iff, List.eq_nil_iff_forall_not_mem]
    intro pattern mem
    exact none_there pattern (options.mem_patterns.1 mem)
  rw [isVoid, no_pattern, if_neg Bool.false_ne_true, Bool.or_eq_true, List.contains_iff_mem,
    List.contains_iff_mem, mem_names]

end Options

namespace Value

/-- Descriptions that make the same names of a tree void render it alike. -/
theorem render_congr_of_isVoid {o p : Options engine} (alike : o.WriteAlike p)
    (closing : o.closing = p.closing) {tree : Value}
    (void : ∀ element, HasElement element tree →
      o.isVoid element.name = p.isVoid element.name) : tree.render o = tree.render p := by
  apply render_congr_of_outline alike
  intro element inside
  simp only [Node.outline, void element inside, Options.voidEnding, Options.emptyEnding?, closing]

/-- **The description of void elements acts as a set, and only on the names in the tree.** Two
descriptions with the same patterns, at least one, render every tree alike, whatever names they
hold. So do two descriptions without patterns whose names agree apart from the built-in ones. And so
do any two descriptions that make the same names void among those of the elements of the tree. -/
theorem render_withVoidTags (options : Options engine) (tags tags' : List (VoidTag engine))
    (tree : Value) :
    ((∃ pattern, .pattern pattern ∈ tags) → (∃ pattern, .pattern pattern ∈ tags') →
      (∀ pattern, .pattern pattern ∈ tags ↔ .pattern pattern ∈ tags') →
      tree.render (options.withVoidTags tags) = tree.render (options.withVoidTags tags')) ∧
    ((∀ pattern, .pattern pattern ∉ tags) → (∀ pattern, .pattern pattern ∉ tags') →
      (∀ name, name ∉ Options.builtinVoidTags → (.name name ∈ tags ↔ .name name ∈ tags')) →
      tree.render (options.withVoidTags tags) = tree.render (options.withVoidTags tags')) ∧
    ((∀ name, (∃ element, HasElement element tree ∧ element.name = name) →
        (options.withVoidTags tags).isVoid name = (options.withVoidTags tags').isVoid name) →
      tree.render (options.withVoidTags tags) = tree.render (options.withVoidTags tags')) := by
  have alike : (options.withVoidTags tags).WriteAlike (options.withVoidTags tags') :=
    ⟨rfl, rfl, rfl, rfl⟩
  refine ⟨?_, ?_, ?_⟩
  · rintro ⟨pattern, has⟩ ⟨pattern', has'⟩ same
    apply render_congr_of_isVoid alike rfl
    intro element _
    rw [Bool.eq_iff_iff, Options.isVoid_iff_of_pattern _ has, Options.isVoid_iff_of_pattern _ has']
    exact exists_congr fun other => and_congr_left fun _ => same other
  · intro no_pattern no_pattern' same
    apply render_congr_of_isVoid alike rfl
    intro element _
    rw [Bool.eq_iff_iff, Options.isVoid_iff_of_no_pattern _ no_pattern,
      Options.isVoid_iff_of_no_pattern _ no_pattern']
    by_cases builtin : element.name ∈ Options.builtinVoidTags
    · simp [builtin]
    · exact or_congr_right (same element.name builtin)
  · intro same
    apply render_congr_of_isVoid alike rfl
    intro element inside
    exact same element.name ⟨element, inside, rfl⟩

/-- A pattern that matches the names with an `x` in them. -/
def xPattern : Pattern .standard :=
  .standard "x" (by decide +kernel)

/-- A list of elements that have nothing, others or a text in them, one of them without a name. -/
def boxTree : Value :=
  .array [.node ⟨some (.name "box"), none, some (.string "a")⟩,
    .node ⟨some (.name "p"), none, some (.array [.node (.named "q"), .node (.named "box")])⟩,
    .node (.transparent (.node ⟨some (.name ""), none, some (.boolean true)⟩))]

/-- Under a pattern, another name makes no difference; without patterns, neither does a repetition
or a built-in name; and a pattern is no different from a name if it matches no other name in the
tree. -/
theorem render_withVoidTags_boxTree :
    boxTree.elements.map Node.name = ["box", "p", "q", "box", "view", "view"] ∧
    boxTree.render (usualOptions.withVoidTags [.pattern xPattern]) =
      boxTree.render
        (usualOptions.withVoidTags [.name "p", .pattern xPattern, .pattern xPattern]) ∧
    boxTree.render (usualOptions.withVoidTags [.name "q", .name "box"]) =
      boxTree.render
        (usualOptions.withVoidTags [.name "box", .name "input", .name "q", .name "box"]) ∧
    boxTree.render (usualOptions.withVoidTags [.pattern xPattern]) =
      boxTree.render (usualOptions.withVoidTags [.name "box", .name "r"]) := by
  refine ⟨by decide, (render_withVoidTags usualOptions _ _ _).1 ⟨xPattern, by simp⟩
    ⟨xPattern, by simp⟩ ?_, (render_withVoidTags usualOptions _ _ _).2.1 (by simp) (by simp) ?_,
    (render_withVoidTags usualOptions _ _ _).2.2 ?_⟩
  · intro pattern
    simp
  · intro name custom
    have other : name ≠ "input" := by
      rintro rfl
      exact custom (by decide)
    simp only [List.mem_cons, List.not_mem_nil, or_false, VoidTag.name.injEq]
    tauto
  · rintro name ⟨element, inside, rfl⟩
    revert element inside
    decide +kernel

end Value

end Markup
