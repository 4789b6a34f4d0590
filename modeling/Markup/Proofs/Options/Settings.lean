import Markup.Options.Reading

/-!
# Settings

The options have six fields, and a setting gives one of them a content. What settings made one after
another come to can be told field by field: the last setting of a field decides
(`Options.get_ofSettings_of_last`), and a field that is never set has its default
(`Options.get_ofSettings_of_unset`).
-/

namespace Markup.Options

variable {engine : Pattern.Engine}

/-! ### Fields -/

/-- What a field can hold. -/
def Field.Content (engine : Pattern.Engine) : Field → Type
  | .voidTags => List (VoidTag engine)
  | .closing => Option Closing
  | .quoteAll => Bool
  | .replaceQuote => Bool
  | .quoteStyle => QuoteStyle
  | .removeSpace => Bool

/-- The content of a field. -/
def get (o : Options engine) : (field : Field) → field.Content engine
  | .voidTags => o.voidTags
  | .closing => o.closing
  | .quoteAll => o.quoteAll
  | .replaceQuote => o.replaceQuote
  | .quoteStyle => o.quoteStyle
  | .removeSpace => o.removeSpace

/-- The options with another content of a field. -/
def set (o : Options engine) : (field : Field) → field.Content engine → Options engine
  | .voidTags, tags => { o with voidTags := tags }
  | .closing, closing => { o with closing }
  | .quoteAll, value => { o with quoteAll := value }
  | .replaceQuote, value => { o with replaceQuote := value }
  | .quoteStyle, style => { o with quoteStyle := style }
  | .removeSpace, value => { o with removeSpace := value }

/-- A field that has been set has its new content. -/
@[simp] theorem get_set (o : Options engine) (field : Field) (content : field.Content engine) :
    (o.set field content).get field = content := by
  cases field <;> rfl

/-- The other fields keep their content. -/
theorem get_set_of_ne (o : Options engine) {field other : Field} (h : other ≠ field)
    (content : field.Content engine) : (o.set field content).get other = o.get other := by
  cases field <;> cases other
  all_goals first | exact absurd rfl h | rfl

/-- Options with the same fields are equal. -/
theorem ext_get {o o' : Options engine} (h : ∀ field, o.get field = o'.get field) : o = o' := by
  obtain ⟨tags, closing, quoteAll, replaceQuote, quoteStyle, removeSpace⟩ := o
  obtain rfl : tags = _ := h .voidTags
  obtain rfl : closing = _ := h .closing
  obtain rfl : quoteAll = _ := h .quoteAll
  obtain rfl : replaceQuote = _ := h .replaceQuote
  obtain rfl : quoteStyle = _ := h .quoteStyle
  obtain rfl : removeSpace = _ := h .removeSpace
  rfl

/-! ### Settings made one after another -/

/-- The field of a setting. -/
def Setting.field : Setting engine → Field
  | .voidTags _ => .voidTags
  | .closing _ => .closing
  | .quoteAll _ => .quoteAll
  | .replaceQuote _ => .replaceQuote
  | .quoteStyle _ => .quoteStyle
  | .removeSpace _ => .removeSpace

/-- The content that a setting gives to its field. -/
def Setting.content : (s : Setting engine) → s.field.Content engine
  | .voidTags tags => tags
  | .closing style => some style
  | .quoteAll value => value
  | .replaceQuote value => value
  | .quoteStyle style => style
  | .removeSpace value => value

/-- A setting sets its field, and nothing else. -/
theorem apply_eq_set (o : Options engine) (s : Setting engine) :
    o.apply s = o.set s.field s.content := by
  cases s <;> rfl

/-- Settings of other fields leave a field as it is. -/
theorem get_foldl_apply_of_unset {field : Field} {settings : List (Setting engine)}
    (unset : ∀ s ∈ settings, s.field ≠ field) (o : Options engine) :
    (settings.foldl apply o).get field = o.get field := by
  induction settings generalizing o with
  | nil => rfl
  | cons s settings ih =>
    have other : field ≠ s.field := (unset s List.mem_cons_self).symm
    rw [List.foldl_cons, ih fun s' mem => unset s' (List.mem_cons_of_mem s mem), apply_eq_set,
      get_set_of_ne o other]

/-- A field that is never set has its default. -/
theorem get_ofSettings_of_unset {field : Field} {settings : List (Setting engine)}
    (unset : ∀ s ∈ settings, s.field ≠ field) :
    (ofSettings settings).get field = default.get field :=
  get_foldl_apply_of_unset unset default

/-- The last setting of a field decides. -/
theorem get_ofSettings_of_last (earlier : List (Setting engine)) (s : Setting engine)
    {later : List (Setting engine)}
    (last : ∀ s' ∈ later, s'.field ≠ s.field) :
    (ofSettings (earlier ++ s :: later)).get s.field = s.content := by
  rw [ofSettings, List.foldl_append, List.foldl_cons, get_foldl_apply_of_unset last, apply_eq_set,
    get_set]

end Markup.Options
