import Markup.Pattern.Standard
import Markup.Proofs.Render.AttributeText
import Markup.Proofs.Render.Events

/-!
# The space between attributes

The text of an attribute map is a sequence of pieces, one for each attribute that is written: the
space before the attribute, and the attribute (`Attributes.text_eq_join`). What an attribute looks
like does not depend on its neighbours, and the space before it depends on one of them only, the
attribute written last before it. Attributes of the other kinds have no part in it, wherever they
stand between the two.

`Attributes.text_spacedBy` draws the conclusions. Attributes that are not written can be added and
deleted at will. Leaving out space deletes one space for every two quoted attributes that come right
after each other, and changes nothing else. And the text is empty only if no attribute is written;
otherwise it begins with one space and the first name.
-/

namespace Markup

variable {engine : Pattern.Engine}

/-! ### How an attribute is written -/

/-- The name of a written attribute. -/
def Written.name : Written → String
  | .marker name | .bare name _ | .quoted name _ => name

/-- The text of an attribute begins with its name. -/
theorem Written.exists_text_eq (style : QuoteStyle) (next : Written) :
    ∃ tail, next.text style = next.name ++ tail := by
  cases next with
  | marker name => exact ⟨"", by simp [text, Written.name]⟩
  | bare name value => exact ⟨_, by simp only [text, String.append_assoc]; rfl⟩
  | quoted name value => exact ⟨_, by simp only [text, String.append_assoc]; rfl⟩

namespace Options

variable {options : Options engine}

/-- Is a value written between quotes? Numbers always are, and so are texts, if they are not empty
and if the options or their characters ask for it. -/
def betweenQuotes (options : Options engine) : Value → Bool
  | .number _ => true
  | .string text => !text.isEmpty && options.quotes text
  | _ => false

/-- The text of an attribute, without the space before it. -/
def attributeText (options : Options engine) (entry : String × Value) : String :=
  ((options.written? entry.1 entry.2).map (Written.text options.quoteStyle)).getD ""

/-- A text is written with the name of its attribute. -/
theorem name_writtenText (options : Options engine) (name text : String) :
    (options.writtenText name text).name = name := by
  unfold writtenText
  dsimp only
  generalize (if options.replaceQuote then withoutQuotes text else text) = shown
  split <;> split <;> rfl

/-- A text goes between quotes if it is not empty and quotes are asked for. -/
theorem isQuoted_writtenText (options : Options engine) (name text : String) :
    (options.writtenText name text).isQuoted = (!text.isEmpty && options.quotes text) := by
  unfold writtenText Options.quotes
  by_cases empty : text = ""
  · subst empty
    cases options.replaceQuote <;> simp [withoutQuotes, Written.isQuoted]
  · have replaced : withoutQuotes text ≠ "" := withoutQuotes_ne_empty empty
    cases options.quoteAll || requiresQuotes text <;> cases options.replaceQuote <;>
      simp [empty, replaced, Written.isQuoted]

/-- **What is written of an attribute**: its name, and the value between quotes if the value asks
for it. -/
theorem of_written?_eq_some {name : String} {value : Value} {next : Written}
    (h : options.written? name value = some next) :
    next.name = name ∧ next.isQuoted = options.betweenQuotes value := by
  cases value with
  | null | array | node => cases h
  | boolean value =>
    cases value with
    | false => cases h
    | true =>
      cases h
      exact ⟨rfl, rfl⟩
  | number x =>
    cases h
    exact ⟨rfl, rfl⟩
  | string text =>
    cases h
    exact ⟨name_writtenText options name text, isQuoted_writtenText options name text⟩

/-- An attribute is written if its value is of a kind that is. -/
theorem exists_written? (options : Options engine) {entry : String × Value}
    (kept : entry.2.isUnwritten = false) :
    ∃ next, options.written? entry.1 entry.2 = some next := by
  rw [← Option.isSome_iff_exists, ← Option.not_isNone, isNone_written?, kept]
  rfl

/-- The text of an attribute that is written begins with its name. -/
theorem exists_attributeText_eq (options : Options engine) {entry : String × Value}
    (kept : entry.2.isUnwritten = false) :
    ∃ tail, options.attributeText entry = entry.1 ++ tail := by
  obtain ⟨next, written⟩ := options.exists_written? kept
  obtain ⟨tail, text⟩ := next.exists_text_eq options.quoteStyle
  refine ⟨tail, ?_⟩
  rw [attributeText, written, Option.map_some, Option.getD_some, text,
    (of_written?_eq_some written).1]

end Options

/-! ### The pieces of the text -/

namespace Attributes

/-- The attributes that are written, as the map holds them. -/
def kept (attrs : Attributes Value) : List (String × Value) :=
  attrs.entries.filter fun entry => !entry.2.isUnwritten

/-- The attributes that are written, each with the one written before it, if there is one. -/
def consecutive (attrs : Attributes Value) : List (Option (String × Value) × (String × Value)) :=
  (none :: attrs.kept.map some).zip attrs.kept

end Attributes

namespace Options

/-- Are an attribute and the one before it both quoted? -/
def adjoins (options : Options engine) : Option (String × Value) × (String × Value) → Bool
  | (some previous, next) => options.betweenQuotes previous.2 && options.betweenQuotes next.2
  | (none, _) => false

/-- The piece of text for an attribute: the space before it, and the attribute. -/
def piece (options : Options engine) (pair : Option (String × Value) × (String × Value)) : String :=
  (if options.removeSpace && options.adjoins pair then "" else " ") ++ options.attributeText pair.2

end Options

namespace Written

/-- **One turn**: an attribute that is written adds its piece, and the next one comes after it. -/
theorem layout_written_cons (options : Options engine) (previous : Option (String × Value))
    {entry : String × Value} (kept : entry.2.isUnwritten = false)
    (entries : List (String × Value)) :
    layout options (previous.any fun entry => options.betweenQuotes entry.2)
        (Attributes.written options ⟨entry :: entries⟩) =
      options.piece (previous, entry) ++
        layout options (options.betweenQuotes entry.2) (Attributes.written options ⟨entries⟩) := by
  obtain ⟨next, written⟩ := options.exists_written? kept
  obtain ⟨-, quoted⟩ := Options.of_written?_eq_some written
  have cons : Attributes.written options ⟨entry :: entries⟩ =
      next :: Attributes.written options ⟨entries⟩ := List.filterMap_cons_some written
  have gap : space options (previous.any fun entry => options.betweenQuotes entry.2) next =
      if options.removeSpace && options.adjoins (previous, entry) then "" else " " := by
    rw [space, quoted]
    cases previous with
    | none => simp [Options.adjoins]
    | some previous => rw [Option.any_some, Bool.and_assoc, Options.adjoins]
  rw [cons, layout, gap, quoted, Options.piece, Options.attributeText, written, Option.map_some,
    Option.getD_some]

/-- **All turns**: the pieces come behind each other. What has been written last is carried past the
attributes that are not written. -/
theorem layout_written_eq_join (options : Options engine) (previous : Option (String × Value))
    (entries : List (String × Value)) :
    layout options (previous.any fun entry => options.betweenQuotes entry.2)
        (Attributes.written options ⟨entries⟩) =
      String.join (((previous :: (Attributes.kept ⟨entries⟩).map some).zip
        (Attributes.kept ⟨entries⟩)).map options.piece) := by
  induction entries generalizing previous with
  | nil => rfl
  | cons entry entries ih =>
    cases unwritten : entry.2.isUnwritten with
    | true =>
      -- Neither side sees the attribute, so the one written last stays the same.
      have written : Attributes.written options ⟨entry :: entries⟩ =
          Attributes.written options ⟨entries⟩ := by
        apply List.filterMap_cons_none
        rw [← Option.isNone_iff_eq_none, Options.isNone_written?, unwritten]
      have kept : Attributes.kept ⟨entry :: entries⟩ = Attributes.kept ⟨entries⟩ :=
        List.filter_cons_of_neg (by simp [unwritten])
      rw [written, kept, ih]
    | false =>
      have kept : Attributes.kept ⟨entry :: entries⟩ = entry :: Attributes.kept ⟨entries⟩ :=
        List.filter_cons_of_pos (by simp [unwritten])
      rw [layout_written_cons options previous unwritten, kept, List.map_cons, List.zip_cons_cons,
        List.map_cons, String.join_cons]
      exact congrArg _ (ih (some entry))

end Written

/-- The options with the space between quoted attributes left out or not. -/
def Options.spacedBy (options : Options engine) (removeSpace : Bool) : Options engine :=
  { options with removeSpace := removeSpace }

namespace Attributes

/-- **The text of an attribute map is its pieces behind each other.** -/
theorem text_eq_join (options : Options engine) (attrs : Attributes Value) :
    attrs.text options = String.join (attrs.consecutive.map options.piece) := by
  rw [text_eq_layout]
  exact Written.layout_written_eq_join options none attrs.entries

/-- The text of an attribute map begins with a space and the first name that is written. -/
theorem exists_text_eq (options : Options engine) {attrs : Attributes Value}
    {first : String × Value} {rest : List (String × Value)} (h : attrs.kept = first :: rest) :
    ∃ tail, attrs.text options = " " ++ first.1 ++ tail := by
  have mem : first ∈ attrs.kept := by
    rw [h]
    exact List.mem_cons_self
  have kept : first.2.isUnwritten = false := by simpa using (List.mem_filter.1 mem).2
  obtain ⟨tail, named⟩ := options.exists_attributeText_eq kept
  have alone : options.piece (none, first) = " " ++ (first.1 ++ tail) := by
    rw [Options.piece, Options.adjoins, Bool.and_false, if_neg Bool.false_ne_true, named]
  rw [text_eq_join, consecutive, h, List.zip_cons_cons, List.map_cons, String.join_cons, alone]
  exact ⟨_, by simp only [String.append_assoc]; rfl⟩

/-- An attribute map has no text exactly if no attribute is written. -/
theorem text_eq_empty_iff (options : Options engine) (attrs : Attributes Value) :
    attrs.text options = "" ↔ ∀ entry ∈ attrs.entries, entry.2.isUnwritten = true := by
  have none_kept : attrs.kept = [] ↔ ∀ entry ∈ attrs.entries, entry.2.isUnwritten = true := by
    simp [kept]
  rw [← none_kept]
  cases kept : attrs.kept with
  | nil => simp [text_eq_join, consecutive, kept]
  | cons first rest =>
    obtain ⟨tail, text⟩ := exists_text_eq options kept
    simp [text]

/-! ### Leaving out space -/

/-- Leaving out a space before some of the pieces makes a text shorter by the number of these
pieces, whether characters or bytes are counted. -/
theorem size_join_eq {α : Type} (size : String → Nat) (empty : size "" = 0) (space : size " " = 1)
    (append : ∀ s t, size (s ++ t) = size s + size t) (text : α → String) (without : α → Bool)
    (pieces : List α) :
    size (String.join (pieces.map fun piece => " " ++ text piece)) =
      size (String.join (pieces.map fun piece =>
        (if without piece then "" else " ") ++ text piece)) + pieces.countP without := by
  induction pieces with
  | nil => simp [empty]
  | cons piece pieces ih =>
    rw [List.map_cons, List.map_cons, String.join_cons, String.join_cons, List.countP_cons]
    cases without piece with
    | false =>
      simp only [append, space, ih, Bool.false_eq_true, if_false]
      omega
    | true =>
      simp only [append, space, empty, ih, if_true]
      omega

/-- **Where the spaces between attributes are.** Maps that agree on the attributes that are written,
in their order, have the same text, whatever else they hold. The text without space between quoted
attributes is the text with space, piece by piece, except that the one space before an attribute is
missing where this attribute and the one written before it are both quoted; it is shorter by as many
characters, or bytes, as there are such attributes. And the text is empty exactly if no attribute is
written; if one is, it begins with a space and the name of the first one. -/
theorem text_spacedBy (options : Options engine) (attrs : Attributes Value) :
    (∀ others : Attributes Value, others.kept = attrs.kept →
      others.text options = attrs.text options) ∧
    (attrs.text (options.spacedBy false) =
        String.join (attrs.consecutive.map fun pair => " " ++ options.attributeText pair.2) ∧
      attrs.text (options.spacedBy true) =
        String.join (attrs.consecutive.map fun pair =>
          (if options.adjoins pair then "" else " ") ++ options.attributeText pair.2) ∧
      (attrs.text (options.spacedBy false)).length =
        (attrs.text (options.spacedBy true)).length + attrs.consecutive.countP options.adjoins ∧
      (attrs.text (options.spacedBy false)).utf8ByteSize =
        (attrs.text (options.spacedBy true)).utf8ByteSize +
          attrs.consecutive.countP options.adjoins) ∧
    (attrs.text options = "" ↔ ∀ entry ∈ attrs.entries, entry.2.isUnwritten = true) ∧
    ∀ first rest, attrs.kept = first :: rest →
      ∃ tail, attrs.text options = " " ++ first.1 ++ tail := by
  have spaced : attrs.text (options.spacedBy false) =
      String.join (attrs.consecutive.map fun pair => " " ++ options.attributeText pair.2) :=
    text_eq_join (options.spacedBy false) attrs
  have tight : attrs.text (options.spacedBy true) =
      String.join (attrs.consecutive.map fun pair =>
        (if options.adjoins pair then "" else " ") ++ options.attributeText pair.2) :=
    text_eq_join (options.spacedBy true) attrs
  refine ⟨?_, ⟨spaced, tight, ?_, ?_⟩, text_eq_empty_iff options attrs, ?_⟩
  · intro others same
    rw [text_eq_join, text_eq_join, consecutive, consecutive, same]
  · rw [spaced, tight]
    exact size_join_eq String.length rfl rfl String.length_append _ _ _
  · rw [spaced, tight]
    exact size_join_eq String.utf8ByteSize rfl rfl (fun _ _ => String.utf8ByteSize_append) _ _ _
  · intro first rest kept
    exact exists_text_eq options kept

/-- Attributes of which the first two, and the last two, are quoted. -/
def phoneAttributes : Attributes Value :=
  ⟨[("class", .string "phone"), ("size", .number .zero), ("disabled", .boolean true),
    ("type", .string "a b"), ("name", .string "n")]⟩

/-- The same attributes with others among them that are not written. -/
def crowdedAttributes : Attributes Value :=
  ⟨[("hidden", .boolean false), ("class", .string "phone"), ("list", .array [.string "a"]),
    ("gone", .null), ("size", .number .zero), ("disabled", .boolean true), ("node", .node .empty),
    ("type", .string "a b"), ("name", .string "n"), ("last", .null)]⟩

/-- The default options, with the space between quoted attributes left out. -/
def tightOptions : Options .standard :=
  Options.default.spacedBy true

/-- The attributes that are not written make no difference, two spaces can be left out, and the text
begins with the first name that is written. -/
theorem text_spacedBy_crowdedAttributes :
    crowdedAttributes.kept = phoneAttributes.kept ∧
    crowdedAttributes.text tightOptions = phoneAttributes.text tightOptions ∧
    (crowdedAttributes.text (tightOptions.spacedBy false)).length =
      (crowdedAttributes.text (tightOptions.spacedBy true)).length + 2 ∧
    ∃ tail, crowdedAttributes.text tightOptions = " " ++ "class" ++ tail := by
  have same : crowdedAttributes.kept = phoneAttributes.kept := rfl
  refine ⟨same, ?_, ?_, ?_⟩
  · exact (text_spacedBy tightOptions phoneAttributes).1 crowdedAttributes same
  · exact (text_spacedBy tightOptions crowdedAttributes).2.1.2.2.1
  · exact (text_spacedBy tightOptions crowdedAttributes).2.2.2 _ _ same

end Attributes

end Markup
