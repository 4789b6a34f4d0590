import Markup.Render.AttributeText

/-!
# Taking attribute text apart

Attribute text can be taken apart again if double quotes in values are replaced and the quotes
around values are double. A name goes on to the first `=`, a value between quotes to the next quote,
and a bare value to the first space or bracket; the space before an attribute tells itself apart
from a name.

* `append_inj_of_ends`: two texts that stop at the first character that is not of a kind are equal
  if what begins with them is.
* `withoutQuotes_inj`: replacing quotes loses nothing of a text without `&`.
* `Options.valueText_append_inj`: a written value determines the value and where it stops.
* `Written.layout_append_inj`: attributes up to the bracket of a start tag determine the attributes
  and what follows the bracket.
-/

namespace Markup

variable {engine : Pattern.Engine}

/-! ### Texts that stop -/

/-- A text that is over, or goes on with a character that is not of a kind. -/
def Ends (p : Char → Prop) (rest : List Char) : Prop :=
  ∀ c ∈ rest.head?, ¬ p c

/-- The end of a text ends any run of characters. -/
@[simp] theorem ends_nil (p : Char → Prop) : Ends p [] := by
  simp [Ends]

/-- A character ends a run of characters of another kind. -/
@[simp] theorem ends_cons {p : Char → Prop} {c : Char} {rest : List Char} :
    Ends p (c :: rest) ↔ ¬ p c := by
  simp [Ends]

/-- Where a text of characters of one kind stops is determined by what begins with it. -/
theorem append_inj_of_ends {p : Char → Prop} {s t x y : List Char} (hs : ∀ c ∈ s, p c)
    (ht : ∀ c ∈ t, p c) (hx : Ends p x) (hy : Ends p y) (h : s ++ x = t ++ y) :
    s = t ∧ x = y := by
  induction s generalizing t with
  | nil =>
    cases t with
    | nil => exact ⟨rfl, h⟩
    | cons d t =>
      -- The text that has stopped would go on with a character of the other one.
      rw [List.nil_append, List.cons_append] at h
      rw [h, ends_cons] at hx
      exact absurd (ht d List.mem_cons_self) hx
  | cons c s ih =>
    cases t with
    | nil =>
      rw [List.nil_append, List.cons_append] at h
      rw [← h, ends_cons] at hy
      exact absurd (hs c List.mem_cons_self) hy
    | cons d t =>
      obtain ⟨rfl, tails⟩ := List.cons.inj h
      obtain ⟨rfl, rest⟩ := ih (fun c mem => hs c (List.mem_cons_of_mem _ mem))
        (fun c mem => ht c (List.mem_cons_of_mem _ mem)) tails
      exact ⟨rfl, rest⟩

/-! ### Replaced quotes -/

/-- A text with its quotes replaced has none. -/
theorem not_mem_withoutQuotes (value : String) : '"' ∉ (withoutQuotes value).toList := by
  unfold withoutQuotes
  rw [String.toList_ofList, List.mem_flatMap]
  rintro ⟨c, -, mem⟩
  by_cases hc : c = '"'
  · simp [hc] at mem
  · rw [if_neg hc, List.mem_singleton] at mem
    exact hc mem.symm

/-- A text that is not empty is not empty with its quotes replaced. -/
theorem withoutQuotes_ne_empty {value : String} (h : value ≠ "") : withoutQuotes value ≠ "" := by
  unfold withoutQuotes
  cases chars : value.toList with
  | nil => exact absurd (String.toList_eq_nil_iff.1 chars) h
  | cons c cs =>
    intro empty
    have := congrArg String.toList empty
    by_cases hc : c = '"' <;> simp [hc] at this

/-- Replacing quotes loses nothing of texts without the character that references begin with. -/
theorem withoutQuotes_inj {v w : String} (hv : '&' ∉ v.toList) (hw : '&' ∉ w.toList)
    (h : withoutQuotes v = withoutQuotes w) : v = w := by
  have chars : ∀ s t : List Char, '&' ∉ s → '&' ∉ t →
      (s.flatMap fun c => if c = '"' then ['&', 'q', 'u', 'o', 't', ';'] else [c]) =
        (t.flatMap fun c => if c = '"' then ['&', 'q', 'u', 'o', 't', ';'] else [c]) → s = t := by
    intro s
    induction s with
    | nil =>
      intro t _ _ h
      cases t with
      | nil => rfl
      | cons d t => by_cases hd : d = '"' <;> simp [hd] at h
    | cons c s ih =>
      intro t hs ht h
      cases t with
      | nil => by_cases hc : c = '"' <;> simp [hc] at h
      | cons d t =>
        simp only [List.mem_cons, not_or] at hs ht
        -- A reference begins with a character that neither text has.
        by_cases hc : c = '"' <;> by_cases hd : d = '"' <;>
          simp only [List.flatMap_cons, hc, hd, if_true, if_false, List.cons_append,
            List.nil_append, List.cons.injEq, true_and] at h
        · rw [hc, hd, ih t hs.2 ht.2 h]
        · exact absurd h.1 ht.1
        · exact absurd h.1.symm hs.1
        · rw [h.1, ih t hs.2 ht.2 h.2]
  have flat := congrArg String.toList h
  rw [withoutQuotes, withoutQuotes, String.toList_ofList, String.toList_ofList] at flat
  exact String.toList_inj.1 (chars _ _ hv hw flat)

/-! ### Values -/

/-- A value that can be told from its text: it is not empty and has no reference in it. -/
structure PlainValue (value : String) : Prop where
  /-- The value is not empty. -/
  nonempty : value ≠ ""
  /-- No character of it begins a reference. -/
  noReference : '&' ∉ value.toList

namespace Options

variable {options : Options engine}

/-- Is a value put between quotes? -/
def quotes (options : Options engine) (value : String) : Bool :=
  options.quoteAll || requiresQuotes value

/-- The characters of a value as it is written, with the quotes around it. -/
def valueText (options : Options engine) (value : String) : List Char :=
  if options.quotes value then '"' :: (withoutQuotes value).toList ++ ['"'] else value.toList

/-- A bare value has no character that needs quotes. -/
theorem not_mem_needingQuotes {value : String} (bare : options.quotes value = false) :
    ∀ c ∈ value.toList, c ∉ needingQuotes := by
  unfold quotes requiresQuotes at bare
  intro c mem needs
  simp only [Bool.or_eq_false_iff, List.any_eq_false, List.contains_iff_mem] at bare
  exact bare.2 c mem needs

/-- A value that is not empty is written between quotes or bare. -/
theorem writtenText_of_ne_empty (name : String) {value : String} (h : value ≠ "")
    (replaces : options.replaceQuote = true) :
    options.writtenText name value =
      if options.quotes value then .quoted name (withoutQuotes value) else .bare name value := by
  have replaced : (withoutQuotes value).isEmpty = false := by
    simpa using withoutQuotes_ne_empty h
  have itself : value.isEmpty = false := by simpa using h
  unfold writtenText
  rw [replaces, itself]
  simp only [if_true, replaced, quotes]
  rfl

/-- The text of an attribute with a value that is not empty. -/
theorem toList_text_writtenText (name : String) {value : String} (h : value ≠ "")
    (replaces : options.replaceQuote = true) (style : options.quoteStyle ≠ .single) :
    ((options.writtenText name value).text options.quoteStyle).toList =
      name.toList ++ '=' :: options.valueText value := by
  have double : options.quoteStyle.quoteFor (withoutQuotes value) = '"' := by
    unfold QuoteStyle.quoteFor
    cases h : options.quoteStyle with
    | single => exact absurd h style
    | double => rfl
    | smart => simp [not_mem_withoutQuotes]
  rw [writtenText_of_ne_empty name h replaces, valueText]
  cases options.quotes value with
  | true => simp [Written.text, double]
  | false => simp [Written.text]

/-- A written value determines the value and where it stops. A bare value stops at the first
character that would need quotes. -/
theorem valueText_append_inj {v w : String} (hv : PlainValue v) (hw : PlainValue w)
    {x y : List Char} (hx : options.quotes v = false → Ends (· ∉ needingQuotes) x)
    (hy : options.quotes w = false → Ends (· ∉ needingQuotes) y)
    (h : options.valueText v ++ x = options.valueText w ++ y) : v = w ∧ x = y := by
  -- A bare value does not begin with a quote.
  have bare : ∀ {value : String} {rest rest' : List Char}, PlainValue value →
      options.quotes value = false → value.toList ++ rest ≠ '"' :: rest' := by
    intro value rest rest' plain noQuotes eq
    cases chars : value.toList with
    | nil => exact plain.nonempty (String.toList_eq_nil_iff.1 chars)
    | cons c cs =>
      rw [chars] at eq
      have needs := not_mem_needingQuotes noQuotes c (by simp [chars])
      rw [(List.cons.inj eq).1] at needs
      exact needs (by decide)
  unfold valueText at h
  cases qv : options.quotes v with
  | true =>
    cases qw : options.quotes w with
    | true =>
      simp only [qv, qw, if_true, List.cons_append, List.append_assoc, List.nil_append,
        List.cons.injEq, true_and] at h
      have noQuote : ∀ value, ∀ c ∈ (withoutQuotes value).toList, c ≠ '"' := by
        rintro value c mem rfl
        exact not_mem_withoutQuotes value mem
      obtain ⟨values, rest⟩ := append_inj_of_ends (noQuote v) (noQuote w) (by simp) (by simp) h
      have values := withoutQuotes_inj hv.noReference hw.noReference (String.toList_inj.1 values)
      exact ⟨values, (List.cons.inj rest).2⟩
    | false =>
      simp only [qv, qw, if_true, Bool.false_eq_true, if_false, List.cons_append] at h
      exact absurd h.symm (bare hw qw)
  | false =>
    cases qw : options.quotes w with
    | true =>
      simp only [qv, qw, if_true, Bool.false_eq_true, if_false, List.cons_append] at h
      exact absurd h (bare hv qv)
    | false =>
      simp only [qv, qw, Bool.false_eq_true, if_false] at h
      obtain ⟨values, rest⟩ := append_inj_of_ends (not_mem_needingQuotes qv)
        (not_mem_needingQuotes qw) (hx qv) (hy qw) h
      exact ⟨String.toList_inj.1 values, rest⟩

end Options

/-! ### Attributes behind each other -/

/-- An attribute that can be told from its text. -/
structure PlainAttribute (entry : String × Value) : Prop where
  /-- The name is not empty. -/
  nonempty : entry.1 ≠ ""
  /-- The name has no character that would end it, or the start tag. -/
  name : ∀ c ∈ entry.1.toList, c ∉ [' ', '=', '"', '<', '>', '/']
  /-- The value is a text that can be told from its own text. -/
  value : ∃ s, entry.2 = .string s ∧ PlainValue s

/-- What begins with the name of such an attribute begins with a character of names. -/
theorem PlainAttribute.exists_cons {entry : String × Value} (h : PlainAttribute entry) :
    ∃ c cs, entry.1.toList = c :: cs ∧ c ∉ [' ', '=', '"', '<', '>', '/'] := by
  cases chars : entry.1.toList with
  | nil => exact absurd (String.toList_eq_nil_iff.1 chars) h.nonempty
  | cons c cs => exact ⟨c, cs, rfl, h.name c (by simp [chars])⟩

/-- The name of such an attribute goes up to the first equals sign. -/
theorem PlainAttribute.ne_equals {entry : String × Value} (h : PlainAttribute entry) :
    ∀ c ∈ entry.1.toList, c ≠ '=' := by
  rintro c mem rfl
  exact h.name '=' mem (by decide)

namespace Written

variable {options : Options engine}

/-- There is at most one space before an attribute. -/
theorem toList_space (options : Options engine) (afterQuoted : Bool) (next : Written) :
    (space options afterQuoted next).toList = [] ∨
      (space options afterQuoted next).toList = [' '] := by
  unfold space
  split
  · exact .inl rfl
  · exact .inr rfl

/-- The text of attributes is over, or begins with a space, unless a quote comes before it. -/
theorem ends_layout {p : Char → Prop} (space : ¬ p ' ') (bracket : ¬ p '>') (written : List Written)
    (x : List Char) : Ends p ((layout options false written).toList ++ '>' :: x) := by
  cases written with
  | nil => simpa [layout] using bracket
  | cons next rest => simpa [layout, Written.space] using space

/-- A bare value stops where the text of the attributes after it begins. -/
theorem ends_layout_of_bare {value : String} (written : List Written) (x : List Char)
    (bare : options.quotes value = false) :
    Ends (· ∉ needingQuotes)
      ((layout options (options.quotes value) written).toList ++ '>' :: x) := by
  rw [bare]
  exact ends_layout (by decide) (by decide) written x

/-- The text of attributes, the first of them taken apart. -/
theorem toList_layout_cons (replaces : options.replaceQuote = true)
    (style : options.quoteStyle ≠ .single) (afterQuoted : Bool) (name : String) {value : String}
    (h : value ≠ "") (entries : List (String × Value)) :
    (layout options afterQuoted
        (Attributes.written options ⟨(name, .string value) :: entries⟩)).toList =
      (space options afterQuoted (options.writtenText name value)).toList ++ (name.toList ++
        '=' :: (options.valueText value ++ (layout options (options.quotes value)
          (Attributes.written options ⟨entries⟩)).toList)) := by
  have quoted : (options.writtenText name value).isQuoted = options.quotes value := by
    rw [Options.writtenText_of_ne_empty name h replaces]
    cases options.quotes value <;> rfl
  have cons : Attributes.written options ⟨(name, .string value) :: entries⟩ =
      options.writtenText name value :: Attributes.written options ⟨entries⟩ := rfl
  rw [cons, layout, quoted, String.toList_append, String.toList_append,
    Options.toList_text_writtenText name h replaces style]
  simp

/-- The space before an attribute can be told from its name. -/
theorem space_append_inj {a b : String × Value} (ha : PlainAttribute a) (hb : PlainAttribute b)
    {afterQuoted : Bool} {v w : Written} {x y : List Char}
    (h : (space options afterQuoted v).toList ++ (a.1.toList ++ x) =
      (space options afterQuoted w).toList ++ (b.1.toList ++ y)) :
    a.1.toList ++ x = b.1.toList ++ y := by
  obtain ⟨c, cs, hc, plain⟩ := ha.exists_cons
  obtain ⟨d, ds, hd, plain'⟩ := hb.exists_cons
  rcases toList_space options afterQuoted v with hv | hv <;>
    rcases toList_space options afterQuoted w with hw | hw <;>
    rw [hv, hw] at h
  · exact h
  · rw [hc] at h
    rw [(List.cons.inj h).1] at plain
    exact absurd (by decide) plain
  · rw [hd] at h
    rw [← (List.cons.inj h).1] at plain'
    exact absurd (by decide) plain'
  · exact (List.cons.inj h).2

/-- The text of attributes, if there are any, does not begin with the bracket. -/
theorem layout_cons_append_ne (replaces : options.replaceQuote = true)
    (style : options.quoteStyle ≠ .single) {entry : String × Value} (plain : PlainAttribute entry)
    (entries : List (String × Value)) (afterQuoted : Bool) (x y : List Char) :
    (layout options afterQuoted (Attributes.written options ⟨entry :: entries⟩)).toList ++ x ≠
      '>' :: y := by
  intro h
  obtain ⟨c, cs, hc, plainName⟩ := plain.exists_cons
  obtain ⟨name, value⟩ := entry
  obtain ⟨s, rfl, plainValue⟩ := plain.value
  rw [toList_layout_cons replaces style afterQuoted name plainValue.nonempty] at h
  rcases toList_space options afterQuoted (options.writtenText name s) with none | one
  · rw [none, hc] at h
    rw [(List.cons.inj h).1] at plainName
    exact plainName (by decide)
  · rw [one] at h
    exact absurd (List.cons.inj h).1 (by decide)

/-- Attributes up to the bracket determine the attributes and what follows the bracket. -/
theorem layout_append_inj (replaces : options.replaceQuote = true)
    (style : options.quoteStyle ≠ .single) {entries entries' : List (String × Value)}
    (plain : ∀ entry ∈ entries, PlainAttribute entry)
    (plain' : ∀ entry ∈ entries', PlainAttribute entry) {afterQuoted : Bool} {x y : List Char}
    (h : (layout options afterQuoted (Attributes.written options ⟨entries⟩)).toList ++ '>' :: x =
      (layout options afterQuoted (Attributes.written options ⟨entries'⟩)).toList ++ '>' :: y) :
    entries = entries' ∧ x = y := by
  induction entries generalizing entries' afterQuoted with
  | nil =>
    cases entries' with
    | nil => exact ⟨rfl, (List.cons.inj h).2⟩
    | cons entry' entries' =>
      exact absurd h.symm (layout_cons_append_ne replaces style
        (plain' entry' List.mem_cons_self) entries' afterQuoted _ _)
  | cons entry entries ih =>
    cases entries' with
    | nil =>
      exact absurd h (layout_cons_append_ne replaces style
        (plain entry List.mem_cons_self) entries afterQuoted _ _)
    | cons entry' entries' =>
      have first := plain entry List.mem_cons_self
      have first' := plain' entry' List.mem_cons_self
      obtain ⟨name, value⟩ := entry
      obtain ⟨name', value'⟩ := entry'
      obtain ⟨s, rfl, plainValue⟩ := first.value
      obtain ⟨s', rfl, plainValue'⟩ := first'.value
      rw [toList_layout_cons replaces style afterQuoted name plainValue.nonempty,
        toList_layout_cons replaces style afterQuoted name' plainValue'.nonempty] at h
      simp only [List.append_assoc, List.cons_append] at h
      -- The names go up to the first equals sign, and the values up to where they stop.
      obtain ⟨names, afterNames⟩ := append_inj_of_ends first.ne_equals first'.ne_equals (by simp)
        (by simp) (space_append_inj first first' h)
      obtain ⟨rfl, afterValues⟩ := Options.valueText_append_inj plainValue plainValue'
        (ends_layout_of_bare _ x) (ends_layout_of_bare _ y) (List.cons.inj afterNames).2
      obtain ⟨rfl, rest⟩ := ih (fun entry mem => plain entry (List.mem_cons_of_mem _ mem))
        (fun entry mem => plain' entry (List.mem_cons_of_mem _ mem)) afterValues
      obtain rfl : name = name' := String.toList_inj.1 names
      exact ⟨rfl, rest⟩

end Written

end Markup
