import Markup.Pattern.Standard
import Markup.Proofs.Render.AttributeText
import Markup.Proofs.Render.Laws

/-!
# Unambiguous markup

Different trees can render to one text: texts behind each other run together, a text may look like
an element, and a missing content leaves no trace. A canonical list of items (`CanonicalItems`) has
none of that, and two canonical lists that render to the same text are equal
(`render_array_inj_of_canonicalItems`), under any options that replace double quotes in values and
put double quotes around them.

The text of a canonical list is not read back here. Instead, `CanonicalItems.markupItems_append_inj`
compares two of them with anything behind them that begins with an end tag: at every point the next
character says which kind of item comes, and each part of an item determines where it stops.
-/

namespace Markup

variable {engine : Pattern.Engine}

/-! ### Canonical lists -/

/-- The name of an element that can be told from its text. -/
structure PlainName (options : Options engine) (name : String) : Prop where
  /-- The name is not empty. -/
  nonempty : name ≠ ""
  /-- The name has no character that would end it, or begin a tag. -/
  plain : ∀ c ∈ name.toList, c ∉ [' ', '<', '>', '/']
  /-- Elements of the name are not void. -/
  notVoid : options.isVoid name = false

/-- Attributes that can be told from their text: if there are any, the map is not empty. -/
structure PlainAttributes (attrs : Option (Attributes Value)) : Prop where
  /-- A map that is there is not empty. -/
  nonempty : ∀ map, attrs = some map → map.entries ≠ []
  /-- Every attribute can be told from its text. -/
  plain : ∀ map, attrs = some map → ∀ entry ∈ map.entries, PlainAttribute entry

/-- Items that can be told from their text: texts and elements, no two texts behind each other, and
the content of every element again a list of such items. -/
inductive CanonicalItems (options : Options engine) : List Value → Prop
  /-- No items. -/
  | nil : CanonicalItems options []
  /-- A text, and behind it no other text. -/
  | text {s : String} {rest : List Value} (nonempty : s ≠ "") (plain : '<' ∉ s.toList)
    (apart : ∀ t tail, rest ≠ .string t :: tail) (tail : CanonicalItems options rest) :
    CanonicalItems options (.string s :: rest)
  /-- An element. -/
  | element {name : String} {attrs : Option (Attributes Value)} {children rest : List Value}
    (named : PlainName options name) (attributes : PlainAttributes attrs)
    (inside : CanonicalItems options children) (tail : CanonicalItems options rest) :
    CanonicalItems options (.node ⟨some (.name name), attrs, some (.array children)⟩ :: rest)

/-! ### The beginnings of items -/

/-- A text that is over or begins with an end tag. -/
def Closes (rest : List Char) : Prop :=
  rest = [] ∨ ∃ more, rest = '<' :: '/' :: more

/-- A text item has no bracket in it that opens. -/
theorem ne_bracket_of_plain {s : String} (plain : '<' ∉ s.toList) : ∀ c ∈ s.toList, c ≠ '<' := by
  rintro c mem rfl
  exact plain mem

/-- What closes ends a text item. -/
theorem Closes.ends {rest : List Char} (h : Closes rest) : Ends (· ≠ '<') rest := by
  rcases h with rfl | ⟨more, rfl⟩ <;> simp

/-- A text item does not begin like something that ends one. -/
theorem text_append_ne {s : String} (nonempty : s ≠ "") (plain : '<' ∉ s.toList) {x y : List Char}
    (hy : Ends (· ≠ '<') y) : s.toList ++ x ≠ y := by
  rintro rfl
  cases chars : s.toList with
  | nil => exact nonempty (String.toList_eq_nil_iff.1 chars)
  | cons c cs =>
    rw [chars, List.cons_append, ends_cons] at hy
    exact hy (ne_bracket_of_plain plain c (by simp [chars]))

/-- A start tag does not begin like an end tag. -/
theorem PlainName.append_not_closes {options : Options engine} {name : String}
    (h : PlainName options name) (x : List Char) : ¬ Closes ('<' :: (name.toList ++ x)) := by
  rintro (none | ⟨more, eq⟩)
  · cases none
  · cases chars : name.toList with
    | nil => exact h.nonempty (String.toList_eq_nil_iff.1 chars)
    | cons c cs =>
      have plain := h.plain c (by simp [chars])
      rw [chars] at eq
      have slash : c = '/' := (List.cons.inj (List.cons.inj eq).2).1
      exact plain (by simp [slash])

variable {options : Options engine}

/-! ### Taking items apart -/

/-- The text of the attributes of a node. A missing map has the text of an empty one. -/
theorem text_eq_layout (attrs : Option (Attributes Value)) :
    (attrs.map (·.text options)).getD "" =
      Written.layout options false
        (Attributes.written options ⟨(attrs.map Attributes.entries).getD []⟩) := by
  cases attrs with
  | none => rfl
  | some attrs => exact attrs.text_eq_layout options

/-- Attributes up to the bracket of a start tag determine the attributes and what follows. -/
theorem PlainAttributes.text_append_inj (replaces : options.replaceQuote = true)
    (style : options.quoteStyle ≠ .single) {attrs attrs' : Option (Attributes Value)}
    (h : PlainAttributes attrs) (h' : PlainAttributes attrs') {x y : List Char}
    (eq : ((attrs.map (·.text options)).getD "").toList ++ '>' :: x =
      ((attrs'.map (·.text options)).getD "").toList ++ '>' :: y) :
    attrs = attrs' ∧ x = y := by
  have plain : ∀ {attrs : Option (Attributes Value)}, PlainAttributes attrs →
      ∀ entry ∈ (attrs.map Attributes.entries).getD [], PlainAttribute entry := by
    intro attrs h entry mem
    cases attrs with
    | none => cases mem
    | some map => exact h.plain map rfl entry mem
  rw [text_eq_layout, text_eq_layout] at eq
  obtain ⟨entries, rest⟩ := Written.layout_append_inj replaces style (plain h) (plain h') eq
  refine ⟨?_, rest⟩
  -- A missing map is not mistaken for an empty one, since plain maps are not empty.
  cases attrs with
  | none =>
    cases attrs' with
    | none => rfl
    | some map' => exact absurd entries.symm (h'.nonempty map' rfl)
  | some map =>
    cases attrs' with
    | none => exact absurd entries (h.nonempty map rfl)
    | some map' =>
      obtain ⟨list⟩ := map
      obtain ⟨list'⟩ := map'
      rw [show list = list' from entries]

/-- What begins with the name of an element and its attributes determines the name and what follows
it. -/
theorem PlainName.append_inj {name name' : String} (h : PlainName options name)
    (h' : PlainName options name') {attrs attrs' : Option (Attributes Value)} {x y : List Char}
    (eq : name.toList ++ (((attrs.map (·.text options)).getD "").toList ++ '>' :: x) =
      name'.toList ++ (((attrs'.map (·.text options)).getD "").toList ++ '>' :: y)) :
    name = name' ∧ ((attrs.map (·.text options)).getD "").toList ++ '>' :: x =
      ((attrs'.map (·.text options)).getD "").toList ++ '>' :: y := by
  rw [text_eq_layout, text_eq_layout] at eq ⊢
  obtain ⟨names, rest⟩ := append_inj_of_ends h.plain h'.plain
    (Written.ends_layout (by decide) (by decide) _ x)
    (Written.ends_layout (by decide) (by decide) _ y) eq
  exact ⟨String.toList_inj.1 names, rest⟩

/-- The text of an element with a list of children, taken apart. -/
theorem toList_markupItems_element {name : String} (named : PlainName options name)
    (attrs : Option (Attributes Value)) (children rest : List Value) (r : List Char) :
    (Value.markupItems options
        (.node ⟨some (.name name), attrs, some (.array children)⟩ :: rest)).toList ++ r =
      '<' :: (name.toList ++ (((attrs.map (·.text options)).getD "").toList ++
        '>' :: ((Value.markupItems options children).toList ++
          '<' :: '/' :: (name.toList ++
            '>' :: ((Value.markupItems options rest).toList ++ r))))) := by
  have itsName : Node.name (⟨some (.name name), attrs, some (.array children)⟩ : Node Value) =
      name := by
    simp [Node.name, named.nonempty]
  rw [Value.markupItems, Value.markup_of_not_isTransparent options rfl, Node.enclose_eq, itsName,
    named.notVoid]
  simp [Value.isTruthy, Value.markup]

/-- The text of a text item and of what comes behind it. -/
theorem toList_markupItems_text (s : String) (rest : List Value) (r : List Char) :
    (Value.markupItems options (.string s :: rest)).toList ++ r =
      s.toList ++ ((Value.markupItems options rest).toList ++ r) := by
  rw [Value.markupItems, Value.markup, String.toList_append, List.append_assoc]

/-- A canonical list that does not begin with a text, with something behind it that closes, ends a
text item. -/
theorem CanonicalItems.ends {items : List Value} (h : CanonicalItems options items)
    (apart : ∀ t tail, items ≠ .string t :: tail) {r : List Char} (closes : Closes r) :
    Ends (· ≠ '<') ((Value.markupItems options items).toList ++ r) := by
  cases h with
  | nil => exact closes.ends
  | text nonempty plain apart' tail => exact absurd rfl (apart _ _)
  | element named attributes inside tail =>
    rw [toList_markupItems_element named, ends_cons]
    simp

/-- The text of canonical items, with something behind it that closes, determines the items and what
is behind them. -/
theorem CanonicalItems.markupItems_append_inj (replaces : options.replaceQuote = true)
    (style : options.quoteStyle ≠ .single) {items items' : List Value}
    (h : CanonicalItems options items) (h' : CanonicalItems options items') {r r' : List Char}
    (closes : Closes r) (closes' : Closes r')
    (eq : (Value.markupItems options items).toList ++ r =
      (Value.markupItems options items').toList ++ r') :
    items = items' ∧ r = r' := by
  induction h generalizing items' r r' with
  | nil =>
    cases h' with
    | nil => exact ⟨rfl, eq⟩
    | text nonempty plain apart tail =>
      rw [toList_markupItems_text] at eq
      exact absurd eq.symm (text_append_ne nonempty plain closes.ends)
    | element named attributes inside tail =>
      rw [toList_markupItems_element named] at eq
      rw [show r = _ from eq] at closes
      exact absurd closes (named.append_not_closes _)
  | text nonempty plain apart tail ih =>
    rw [toList_markupItems_text] at eq
    cases h' with
    | nil => exact absurd eq (text_append_ne nonempty plain closes'.ends)
    | text nonempty' plain' apart' tail' =>
      -- Both texts stop at the first bracket, since what is behind them is no text.
      rw [toList_markupItems_text] at eq
      obtain ⟨texts, afterText⟩ := append_inj_of_ends (ne_bracket_of_plain plain)
        (ne_bracket_of_plain plain') (tail.ends apart closes) (tail'.ends apart' closes') eq
      obtain ⟨rfl, rest⟩ := ih tail' closes closes' afterText
      rw [String.toList_inj.1 texts]
      exact ⟨rfl, rest⟩
    | element named' attributes' inside' tail' =>
      rw [toList_markupItems_element named'] at eq
      exact absurd eq (text_append_ne nonempty plain (by simp))
  | element named attributes inside tail ihInside ihTail =>
    rw [toList_markupItems_element named] at eq
    cases h' with
    | nil =>
      rw [show r' = _ from eq.symm] at closes'
      exact absurd closes' (named.append_not_closes _)
    | text nonempty' plain' apart' tail' =>
      rw [toList_markupItems_text] at eq
      exact absurd eq.symm (text_append_ne nonempty' plain' (by simp))
    | element named' attributes' inside' tail' =>
      rw [toList_markupItems_element named'] at eq
      obtain ⟨rfl, afterName⟩ := named.append_inj named' (List.cons.inj eq).2
      obtain ⟨rfl, afterAttributes⟩ :=
        attributes.text_append_inj replaces style attributes' afterName
      obtain ⟨rfl, afterChildren⟩ :=
        ihInside inside' (.inr ⟨_, rfl⟩) (.inr ⟨_, rfl⟩) afterAttributes
      -- The end tags agree, because the names do.
      simp only [List.cons.injEq, true_and, List.append_cancel_left_eq] at afterChildren
      obtain ⟨rfl, rest⟩ := ihTail tail' closes closes' afterChildren
      exact ⟨rfl, rest⟩

/-- **Canonical lists that render to the same text are equal.** -/
theorem render_array_inj_of_canonicalItems (replaces : options.replaceQuote = true)
    (style : options.quoteStyle ≠ .single) {items items' : List Value}
    (h : CanonicalItems options items) (h' : CanonicalItems options items') :
    (Value.array items).render options = (Value.array items').render options ↔ items = items' := by
  constructor
  · intro eq
    rw [Value.render_eq_markup, Value.render_eq_markup, Value.markup, Value.markup] at eq
    have texts : (Value.markupItems options items).toList ++ [] =
        (Value.markupItems options items').toList ++ [] := by rw [eq]
    exact (h.markupItems_append_inj replaces style h' (.inl rfl) (.inl rfl) texts).1
  · rintro rfl
    rfl

/-- Options that quote only where it is needed and leave out space where they can. -/
def sampleOptions : Options .standard where
  voidTags := [.name "br"]
  closing := some .slash
  quoteAll := false
  replaceQuote := true
  quoteStyle := .smart
  removeSpace := true

/-- Items with an element inside an element, whose attributes are a bare one and two quoted ones. -/
def sampleItems (title : String) : List Value :=
  [.string "a > b",
    .node ⟨some (.name "p"),
      some ⟨[("n", .string "1"), ("title", .string title), ("lang", .string "= x")]⟩,
      some (.array [.node ⟨some (.name "q"), none, some (.array [])⟩, .string "/c"])⟩]

/-- The sample items are canonical, and render to different texts if only one attribute value in
them is different. -/
theorem render_sampleItems_ne :
    CanonicalItems sampleOptions (sampleItems "\"d\"") ∧
      CanonicalItems sampleOptions (sampleItems "d") ∧
      (Value.array (sampleItems "\"d\"")).render sampleOptions ≠
        (Value.array (sampleItems "d")).render sampleOptions := by
  have inside : CanonicalItems sampleOptions
      [.node ⟨some (.name "q"), none, some (.array [])⟩, .string "/c"] := by
    refine .element ⟨by decide, by simp, by decide⟩ ?_ .nil (.text (by decide) (by decide) ?_ .nil)
    · constructor <;> rintro _ ⟨⟩
    · rintro _ _ ⟨⟩
  have plainAttribute : ∀ name ∈ ["n", "title", "lang"], ∀ value, PlainValue value →
      PlainAttribute (name, .string value) := by
    intro name mem value plain
    have names : ∀ name ∈ ["n", "title", "lang"],
        name ≠ "" ∧ ∀ c ∈ name.toList, c ∉ [' ', '=', '"', '<', '>', '/'] := by simp
    exact ⟨(names name mem).1, (names name mem).2, value, rfl, plain⟩
  have canonical : ∀ title, PlainValue title →
      CanonicalItems sampleOptions (sampleItems title) := by
    intro title plain
    have attributes : PlainAttributes
        (some ⟨[("n", .string "1"), ("title", .string title), ("lang", .string "= x")]⟩) := by
      constructor
      · rintro _ ⟨⟩ ⟨⟩
      · rintro _ ⟨⟩ entry mem
        simp only [List.mem_cons, List.not_mem_nil, or_false] at mem
        rcases mem with rfl | rfl | rfl
        · exact plainAttribute "n" (by decide) "1" ⟨by decide, by decide⟩
        · exact plainAttribute "title" (by decide) title plain
        · exact plainAttribute "lang" (by decide) "= x" ⟨by decide, by decide⟩
    refine .text (by decide) (by decide) ?_ ?_
    · rintro _ _ ⟨⟩
    · exact .element ⟨by decide, by simp, by decide⟩ attributes inside .nil
  have quoted := canonical "\"d\"" ⟨by decide, by decide⟩
  have bare := canonical "d" ⟨by decide, by decide⟩
  refine ⟨quoted, bare, fun eq => ?_⟩
  have items := (render_array_inj_of_canonicalItems rfl (by decide) quoted bare).1 eq
  simp [sampleItems] at items

end Markup
