import Markup.Pattern.Standard
import Markup.Proofs.Render.Laws
import Markup.Proofs.Value.Equality

/-!
# Equal trees render alike

Equality of trees identifies the two zeros, and equality of options goes by the source of a pattern.
Rendering cannot tell apart what is equal: whether a value is vacuous, whether it counts as content,
how it is written as an attribute and what text it has are all the same for equal values, and two
patterns with one source match the same names.

`Value.markup_eq_of_equal` goes down two equal trees in step. `equality_respected` puts equality of
trees, of attribute maps and of options together.
-/

namespace Markup

variable {engine : Pattern.Engine}

/-! ### Equal options -/

/-- Two descriptions of void elements are the same: names by the name, patterns by the source. -/
def VoidTag.Same : VoidTag engine → VoidTag engine → Prop
  | .name word, .name word' => word = word'
  | .pattern p, .pattern p' => p.source = p'.source
  | _, _ => False

/-- Options are the same member by member, patterns by their source. -/
structure Options.Same (o p : Options engine) : Prop where
  /-- The void elements are described in the same way, in order. -/
  voidTags : List.Forall₂ VoidTag.Same o.voidTags p.voidTags
  /-- Elements without content are closed in the same way. -/
  closing : o.closing = p.closing
  /-- The same attribute values are quoted. -/
  quoteAll : o.quoteAll = p.quoteAll
  /-- Double quotes are replaced by both or by neither. -/
  replaceQuote : o.replaceQuote = p.replaceQuote
  /-- Quotes are chosen in the same way. -/
  quoteStyle : o.quoteStyle = p.quoteStyle
  /-- Space is left out by both or by neither. -/
  removeSpace : o.removeSpace = p.removeSpace

/-- Descriptions that are the same are identical: a pattern follows from its source. -/
theorem VoidTag.same_iff {tag tag' : VoidTag engine} : tag.Same tag' ↔ tag = tag' := by
  cases tag <;> cases tag' <;> simp [VoidTag.Same, Pattern.ext_iff]

/-- Options compare as equal exactly if they are the same member by member. -/
theorem Options.beq_iff_same {o p : Options engine} : (o == p) = true ↔ o.Same p := by
  rw [beq_iff_eq]
  constructor
  · rintro rfl
    refine ⟨?_, rfl, rfl, rfl, rfl, rfl⟩
    rw [List.forall₂_same]
    intro tag _
    exact VoidTag.same_iff.2 rfl
  · rintro ⟨voidTags, closing, quoteAll, replaceQuote, quoteStyle, removeSpace⟩
    have tags : o.voidTags = p.voidTags := by
      rw [← List.forall₂_eq_eq_eq]
      exact voidTags.imp fun _ _ => VoidTag.same_iff.1
    cases o
    cases p
    simp_all

/-! ### Equal values -/

/-- Numerically equal numbers have the same text. -/
theorem Double.text_displayed_eq_of_numEq {x y : Double} (h : x.numEq y = true) :
    x.text .displayed = y.text .displayed := by
  rcases eq_or_isZero_of_numEq h with rfl | ⟨hx, hy⟩
  · rfl
  · obtain ⟨a, rfl⟩ := eq_finite_zero_of_isZero hx
    obtain ⟨b, rfl⟩ := eq_finite_zero_of_isZero hy
    have zero : Magnitude.zero.isZero = true := rfl
    simp [Double.text, zero, NumberStyle.displayed]

/-- Numerically equal numbers are zeros together. -/
theorem Double.isZero_eq_of_numEq {x y : Double} (h : x.numEq y = true) : x.isZero = y.isZero := by
  rcases eq_or_isZero_of_numEq h with rfl | ⟨hx, hy⟩
  · rfl
  · rw [hx, hy]

/-- Equal numbers are neither of them a NaN. -/
theorem Double.isNaN_eq_of_numEq {x y : Double} (h : x.numEq y = true) : x.isNaN = y.isNaN := by
  rw [isNaN_of_numEq h, isNaN_of_numEq (numEq_comm x y ▸ h)]

namespace Value

variable (options : Options engine)

/-- Equal values count as content together. -/
theorem isTruthy_eq_of_equal {a b : Value} (h : Equal a b) : a.isTruthy = b.isTruthy := by
  induction h using eq_induction with
  | number x y same =>
    rw [equal_number_iff] at same
    rw [isTruthy, isTruthy, Double.isZero_eq_of_numEq same, Double.isNaN_eq_of_numEq same]
  | null | boolean | string | array | node => rfl

/-- Equal values are written as attributes in the same way. -/
theorem written?_eq_of_equal (name : String) {a b : Value} (h : Equal a b) :
    options.written? name a = options.written? name b := by
  induction h using eq_induction with
  | number x y same =>
    rw [equal_number_iff] at same
    rw [Options.written?, Options.written?, Double.text_displayed_eq_of_numEq same]
  | null | boolean | string | array | node => rfl

end Value

variable (options : Options engine)

/-- Attribute maps with equal entries have the same text. -/
theorem Attributes.text_eq_of_mapRel {map map' : Attributes Value}
    (h : Value.MapRel Value.Equal map map') : map.text options = map'.text options := by
  obtain ⟨entries⟩ := map
  obtain ⟨entries'⟩ := map'
  have written : (⟨entries⟩ : Attributes Value).written options =
      (⟨entries'⟩ : Attributes Value).written options := by
    unfold Attributes.written
    change List.Forall₂ _ entries entries' at h
    induction h with
    | nil => rfl
    | @cons entry entry' entries entries' agree _ ih =>
      obtain ⟨name, value⟩ := entry
      obtain ⟨name', value'⟩ := entry'
      obtain ⟨rfl, same⟩ : name = name' ∧ Value.Equal value value' := agree
      simp only [List.filterMap_cons, Value.written?_eq_of_equal options name same, ih]
  rw [Attributes.text_eq_layout, Attributes.text_eq_layout, written]

/-- Equal trees have the same text. -/
theorem Value.markup_eq_of_equal {a b : Value} (h : Equal a b) :
    a.markup options = b.markup options := by
  induction h using eq_induction with
  | null => rfl
  | boolean value => rfl
  | number x y same =>
    rw [equal_number_iff] at same
    rw [markup, markup, Double.isNaN_eq_of_numEq same, Double.text_displayed_eq_of_numEq same]
  | string value => rfl
  | array as bs _ same =>
    have texts : as.map (markup options) = bs.map (markup options) := by
      rw [← List.forall₂_eq_eq_eq, List.forall₂_map_left_iff, List.forall₂_map_right_iff]
      apply same.imp
      rintro a b ⟨-, text⟩
      exact text
    rw [markup_array, markup_array, texts]
  | node tag attrs attrs' content content' _ sameAttrs sameContent =>
    have body : content.map (markup options) = content'.map (markup options) := by
      cases sameContent with
      | none => rfl
      | some both =>
        obtain ⟨-, text⟩ := both
        rw [Option.map_some, Option.map_some, text]
    have counts : content.any isTruthy = content'.any isTruthy := by
      cases sameContent with
      | none => rfl
      | some both =>
        obtain ⟨same, -⟩ := both
        rw [Option.any_some, Option.any_some, isTruthy_eq_of_equal same]
    have texts : attrs.map (·.text options) = attrs'.map (·.text options) := by
      cases sameAttrs with
      | none => rfl
      | some entries =>
        rw [Option.map_some, Option.map_some, Attributes.text_eq_of_mapRel]
        apply entries.imp
        rintro entry entry' ⟨name, same, -⟩
        exact ⟨name, same⟩
    cases h : Node.isTransparent (⟨tag, attrs, content⟩ : Node Value) with
    | true =>
      have h' : Node.isTransparent (⟨tag, attrs', content'⟩ : Node Value) = true := h
      rw [markup_of_isTransparent options h, markup_of_isTransparent options h', body]
    | false =>
      have h' : Node.isTransparent (⟨tag, attrs', content'⟩ : Node Value) = false := h
      rw [markup_of_not_isTransparent options h, markup_of_not_isTransparent options h', body]
      exact Node.enclose_congr options (m := ⟨tag, attrs, content⟩)
        (n := ⟨tag, attrs', content'⟩) rfl texts counts _

/-- **Equality is a partial equivalence that rendering respects.** It is symmetric and transitive,
and a tree equals itself exactly if it holds no NaN at any depth. Options are equal exactly if they
are the same member by member, patterns by their source. Equal trees render alike under equal
options, and equal attribute maps have the same text. -/
theorem equality_respected :
    (∀ a b : Value, a.eq b = b.eq a) ∧
    (∀ a b c : Value, a.eq b = true → b.eq c = true → a.eq c = true) ∧
    (∀ tree : Value, tree.eq tree = true ↔
      ∀ x : Double, Value.Within (.number x) tree → x.isNaN = false) ∧
    (∀ o p : Options engine, (o == p) = true ↔ o.Same p) ∧
    ∀ o p : Options engine, (o == p) = true →
      (∀ a b : Value, a.eq b = true → a.render o = b.render p) ∧
      ∀ map map' : Attributes Value, Value.eqAttributes (some map) (some map') = true →
        map.text o = map'.text p := by
  refine ⟨Value.eq_comm, fun _ _ _ => Value.Equal.trans, Value.equal_self_iff,
    fun _ _ => Options.beq_iff_same, ?_⟩
  intro o p same
  obtain rfl : o = p := beq_iff_eq.1 same
  refine ⟨?_, ?_⟩
  · intro a b equal
    rw [Value.render_eq_markup, Value.render_eq_markup, Value.markup_eq_of_equal o equal]
  · intro map map' equal
    rw [Value.eqAttributes_iff, Option.rel_some_some] at equal
    exact Attributes.text_eq_of_mapRel o equal

/-- Attributes with a zero of the given sign, once on its own and once inside a list. -/
def signedZeros (negative : Bool) : Attributes Value :=
  ⟨[("a", .number (.finite negative .zero)), ("b", .array [.number (.finite negative .zero)])]⟩

/-- A tree with zeros of the given sign as a child, as a content and in attributes. -/
def signedTree (negative : Bool) : Value :=
  .array [.number (.finite negative .zero),
    .node ⟨some (.name "p"), some (signedZeros negative), some (.number (.finite negative .zero))⟩]

/-- The two trees of zeros are equal but not identical, and render alike; with a NaN in a list in an
attribute, a tree differs from itself. -/
theorem equality_respected_signedTree :
    (signedTree false).eq (signedTree true) = true ∧ signedTree false ≠ signedTree true ∧
      (signedTree false).render (.default : Options .standard) =
        (signedTree true).render (.default : Options .standard) ∧
      (signedZeros false).text (.default : Options .standard) =
        (signedZeros true).text (.default : Options .standard) ∧
      ¬ (Value.node ⟨none, some ⟨[("a", .array [.number .nan])]⟩, none⟩).eq
        (.node ⟨none, some ⟨[("a", .array [.number .nan])]⟩, none⟩) = true := by
  have same := equality_respected.2.2.2.2 (.default : Options .standard) .default
    (beq_self_eq_true _)
  refine ⟨rfl, ?_, same.1 _ _ rfl, same.2 _ _ rfl, ?_⟩
  · intro identical
    simp [signedTree] at identical
  · rw [(@equality_respected .standard).2.2.1]
    intro known
    have nan := known .nan (.entry rfl List.mem_cons_self (.item List.mem_cons_self .here))
    cases nan

end Markup
