import Mathlib.Tactic.IntervalCases
import Markup.Pattern.Standard
import Markup.Proofs.Double.Rounding
import Markup.Proofs.Json.SpelledText
import Markup.Proofs.Options.Settings

/-!
# Descriptions of options

A text describes options if it is an object whose members give the content of fields: every field
that differs from its default, and maybe others, in any order. Members of other names may stand
among them and may hold anything that is well formed (`Options.Description`). How the content of a
field can be given is told by `Options.Field.Encodes`, without the reader.

Reading a description gives the options that it describes (`Options.Description.read_text`), so
options that were put together by settings can be written in any of these ways
(`Options.settings_described`). The reader knows of the fields that it has met; with that list as
the state, each member has an effect of its own (`Options.outcome_describedMember`), and the order
of the members does not matter.
-/

namespace Markup

variable {engine : Pattern.Engine}

open Json

/-! ### Contents of fields -/

/-- The document of a void tag. -/
def VoidTag.toJson : VoidTag engine → Json
  | .name word => .string word
  | .pattern p => .object [("pattern", .string p.source)]

/-- The documents that stand for a closing style, or for none. -/
inductive Closing.Encodes : Option Closing → Json → Prop
  /-- Nothing leaves the style unset. -/
  | null : Encodes none .null
  /-- So does a refusal. -/
  | no : Encodes none (.boolean false)
  /-- So does the empty word. -/
  | emptyWord : Encodes none (.string "")
  /-- The word for an end tag. -/
  | tag : Encodes (some .tag) (.string "tag")
  /-- The word for a slash. -/
  | slash : Encodes (some .slash) (.string "slash")
  /-- An approval means the default style. -/
  | yes : Encodes (some .default) (.boolean true)
  /-- So does any other word. -/
  | otherWord {word : String} (nonempty : word ≠ "") (notTag : word ≠ "tag")
    (notSlash : word ≠ "slash") : Encodes (some .default) (.string word)

/-- The numbers that stand for a choice of quotes, all of them integers of 64 bits. -/
inductive QuoteStyle.Encodes : QuoteStyle → List Char → Prop
  /-- One stands for single quotes. -/
  | single : Encodes .single "1".toList
  /-- Two stands for double quotes. -/
  | double : Encodes .double "2".toList
  /-- Any other integer leaves the choice to the value. -/
  | smart {n : Int} (fits : (Number.integer n).Fits) (notOne : n ≠ 1) (notTwo : n ≠ 2) :
    Encodes .smart n.repr.toList
  /-- So does a zero with a sign. -/
  | negativeZero : Encodes .smart "-0".toList

/-- The texts that stand for a content of a field. -/
def Options.Field.Encodes : (field : Field) → field.Content engine → List Char → Prop
  | .voidTags, tags, text => Spells (.array (tags.map VoidTag.toJson)) text
  | .closing, style, text => ∃ json, Closing.Encodes style json ∧ Spells json text
  | .quoteStyle, style, text => style.Encodes text
  | .quoteAll, value, text => Spells (.boolean value) text
  | .replaceQuote, value, text => Spells (.boolean value) text
  | .removeSpace, value, text => Spells (.boolean value) text

/-! ### Descriptions -/

/-- Texts with commas between them, or blank space if there are none. -/
def Json.Divided (parts : List (List Char)) (text : List Char) : Prop :=
  if parts = [] then Blank text else text = [','].intercalate parts

namespace Options

/-- A member of a description: it gives the content of a field, or it has a name that no field
has. -/
inductive Describes (o : Options engine) : Option Field → Padded × Padded → Prop
  /-- The name of a field and its content. -/
  | known {field : Field} {member : Padded × Padded}
    (name : SpellsString field.name member.1.text)
    (content : field.Encodes (o.get field) member.2.text) : Describes o (some field) member
  /-- Another name, and any value. -/
  | unknown {word : String} {member : Padded × Padded} (name : SpellsString word member.1.text)
    (other : ∀ field : Field, field.name ≠ word) (value : WellFormed member.2.text) :
    Describes o none member

/-- A text that describes options. -/
structure Description (o : Options engine) where
  /-- The members, and which field each of them is about. -/
  members : List (Option Field × Padded × Padded)
  /-- What stands between the brackets. -/
  inside : List Char
  /-- The object, with blank space around it. -/
  document : Padded
  /-- The members stand between the brackets. -/
  divided : Divided (members.map fun m => memberText m.2) inside
  /-- The document is the object. -/
  isObject : document.text = Bracket.object.around inside
  /-- Every member is one of these options. -/
  describes : ∀ m ∈ members, o.Describes m.1 m.2
  /-- No field is given twice. -/
  once : (members.filterMap Prod.fst).Nodup
  /-- A field that is not given has its default. -/
  complete : ∀ field, field ∈ members.filterMap Prod.fst ∨ o.get field = default.get field

/-- The text of a description. -/
def Description.text {o : Options engine} (d : o.Description) : String :=
  String.ofList d.document.chars

end Options

/-! ### Choices of quotes -/

namespace QuoteStyle

/-- An integer of size four or more is none of the small numbers. -/
theorem numEq_ofInt_of_four_le {n : Int} (large : 4 ≤ n.natAbs) {sign : Bool} {x : Magnitude}
    (small : x.shift < 1024) : (Double.ofInt n).numEq (.finite sign x) = false := by
  unfold Double.ofInt
  cases rounded : Magnitude.ofRatio n.natAbs 1 with
  | none => rfl
  | some y =>
    have shift := Magnitude.le_shift_of_whole (k := 2) large rounded
    have differ : y ≠ x := by
      rintro rfl
      omega
    simp [Double.ofMagnitude?, Double.numEq, differ]

/-- Rounding an integer to a double does not make it one or two. -/
theorem ofNumber_ofInt (n : Int) :
    ofNumber (.ofInt n) = if n = 1 then .single else if n = 2 then .double else .smart := by
  rcases Nat.lt_or_ge n.natAbs 4 with small | large
  · have lower : -4 < n := by omega
    have upper : n < 4 := by omega
    interval_cases n <;> decide +kernel
  · have one : Double.ofInt 1 =
        .finite false ⟨0x10000000000000, 1022, by decide, by decide, by decide⟩ := by
      decide +kernel
    have two : Double.ofInt 2 =
        .finite false ⟨0x10000000000000, 1023, by decide, by decide, by decide⟩ := by
      decide +kernel
    have notOne : n ≠ 1 := by omega
    have notTwo : n ≠ 2 := by omega
    rw [ofNumber, one, two, numEq_ofInt_of_four_le large (by simp),
      numEq_ofInt_of_four_le large (by simp)]
    simp [notOne, notTwo]

end QuoteStyle

/-! ### Reading the content of a field -/

namespace OptionsAssembly

/-- A void tag joins those that have been read. -/
theorem feed_voidTag (tag : VoidTag engine) (draft : OptionsDraft engine)
    (read : List (VoidTag engine)) :
    sink.feed (some nestingLimit) tag.toJson 2 (.tags draft read) =
      .ok (.tags draft (tag :: read)) := by
  cases tag with
  | name word => rfl
  | pattern p =>
    have compiled : VoidTag.ofJson (.object [("pattern", .string p.source)]) =
        .ok (.pattern p) := by
      simp [VoidTag.ofJson, Pattern.compile_source]
    have used : use (.listedTag draft read) (.object [("pattern", .string p.source)]) =
        .ok (.tags draft (.pattern p :: read)) := by
      rw [use, compiled]
      rfl
    exact used

/-- Void tags are read in order. -/
theorem feedItems_voidTags (tags : List (VoidTag engine)) (draft : OptionsDraft engine)
    (read : List (VoidTag engine)) :
    sink.feedItems (some nestingLimit) (tags.map VoidTag.toJson) 2 (.tags draft read) =
      .ok (.tags draft (tags.reverse ++ read)) := by
  induction tags generalizing read with
  | nil => rfl
  | cons tag tags ih =>
    rw [List.map_cons, Sink.feedItems_cons_of_feed (feed_voidTag tag draft read) rfl, ih]
    simp

/-- The list of void tags is read. -/
theorem feed_voidTags (tags : List (VoidTag engine)) {draft : OptionsDraft engine}
    (due : draft.due = .voidTags) :
    sink.feed (some nestingLimit) (.array (tags.map VoidTag.toJson)) 1 (.members draft) =
      .ok (.members (draft.complete { draft.options with voidTags := tags })) := by
  have opens : sink.opening (some nestingLimit) .list 1 (.members draft) =
      .ok (.tags draft []) := by
    obtain ⟨met, options, field, byPosition⟩ := draft
    obtain rfl : field = .voidTags := due
    rfl
  have closes : sink.leave (.tags draft tags.reverse) =
      .ok (.members (draft.complete { draft.options with voidTags := tags })) := by
    change Except.ok (OptionsAssembly.members (draft.complete
      { draft.options with voidTags := tags.reverse.reverse })) = _
    rw [List.reverse_reverse]
  rw [Sink.feed_array_of_opening opens, feedItems_voidTags, List.append_nil]
  exact closes

/-- A closing style is read. -/
theorem feed_closing {closing : Option Closing} {json : Json} (h : Closing.Encodes closing json)
    {draft : OptionsDraft engine} (due : draft.due = .closing) :
    sink.feed (some nestingLimit) json 1 (.members draft) =
      .ok (.members (draft.complete { draft.options with closing })) := by
  obtain ⟨met, options, field, byPosition⟩ := draft
  obtain rfl : field = .closing := due
  cases h with
  | @otherWord word nonempty notTag notSlash =>
    have denotes : Closing.ofJson (.string word) = .ok (some .default) := by
      simp only [Closing.ofJson]
    have used : use (.closing ⟨met, options, .closing, byPosition⟩) (.string word) =
        .ok (.members (OptionsDraft.complete ⟨met, options, .closing, byPosition⟩
          { options with closing := some .default })) := by
      rw [use, denotes]
      rfl
    exact used
  | _ => rfl

/-- A choice of quotes is read. -/
theorem feed_quoteStyle {n : Number} (kept : n.reread = some n) {draft : OptionsDraft engine}
    (due : draft.due = .quoteStyle) :
    sink.feed (some nestingLimit) (.number n) 1 (.members draft) =
      .ok (.members (draft.complete
        { draft.options with quoteStyle := .ofNumber n.toDouble })) := by
  obtain ⟨met, options, field, byPosition⟩ := draft
  obtain rfl : field = .quoteStyle := due
  rw [Sink.feed, kept]
  rfl

/-- A zero with a sign is read as such. -/
theorem feedsText_negativeZero :
    FeedsText (sink : Sink (OptionsAssembly engine)) (some nestingLimit)
      (.number (.real (.finite true .zero))) "-0".toList := by
  obtain ⟨stage, numeral, scanned, complete, denotes⟩ : ∃ stage numeral,
      scanNumeral "-0".toList = some (stage, numeral) ∧ stage.isComplete = true ∧
        numeral.number? = some (.real (.finite true .zero)) :=
    ⟨_, _, rfl, rfl, by decide +kernel⟩
  have kept : (Number.real (.finite true .zero)).reread = some (.real (.finite true .zero)) := by
    decide +kernel
  intro place enclosing state takes rest delimited
  rw [outcome_readyNumeral scanned complete takes enclosing state delimited, denotes, Sink.feed,
    kept]

/-- The text of a choice of quotes is that of a number that stands for the choice. -/
theorem exists_number {style : QuoteStyle} {text : List Char} (h : style.Encodes text) :
    ∃ n : Number, FeedsText (sink : Sink (OptionsAssembly engine)) (some nestingLimit) (.number n)
      text ∧ n.reread = some n ∧ QuoteStyle.ofNumber n.toDouble = style := by
  have integer : ∀ n : Int, (Number.integer n).Fits → ∃ number : Number,
      FeedsText (sink : Sink (OptionsAssembly engine)) (some nestingLimit) (.number number)
        n.repr.toList ∧
        number.reread = some number ∧ QuoteStyle.ofNumber number.toDouble =
          if n = 1 then .single else if n = 2 then .double else .smart := by
    intro n fits
    exact ⟨.integer n, feedsText_integer fits, Number.reread_of_fits fits,
      QuoteStyle.ofNumber_ofInt n⟩
  cases h with
  | single => exact integer 1 (by decide)
  | double => exact integer 2 (by decide)
  | @smart n fits notOne notTwo => simpa [notOne, notTwo] using integer n fits
  | negativeZero =>
    exact ⟨.real (.finite true .zero), feedsText_negativeZero, by decide +kernel,
      by decide +kernel⟩

/-- **A content of a field is read as such**, whichever of its texts is given. -/
theorem exists_feedsText {field : Options.Field} {content : field.Content engine} {text : List Char}
    (h : field.Encodes content text) :
    ∃ json, FeedsText (sink : Sink (OptionsAssembly engine)) (some nestingLimit) json text ∧
      ∀ draft : OptionsDraft engine,
      draft.due = field → sink.feed (some nestingLimit) json 1 (.members draft) =
        .ok (.members (draft.complete (draft.options.set field content))) := by
  cases field with
  | voidTags => exact ⟨_, feedsText_of_spells h, fun _ due => feed_voidTags content due⟩
  | closing =>
    obtain ⟨json, encodes, spelled⟩ := h
    exact ⟨json, feedsText_of_spells spelled, fun _ due => feed_closing encodes due⟩
  | quoteStyle =>
    obtain ⟨n, feeds, kept, rfl⟩ := exists_number h
    exact ⟨.number n, feeds, fun _ due => feed_quoteStyle kept due⟩
  | quoteAll =>
    refine ⟨_, feedsText_of_spells h, ?_⟩
    rintro ⟨met, options, _, byPosition⟩ rfl
    rfl
  | replaceQuote =>
    refine ⟨_, feedsText_of_spells h, ?_⟩
    rintro ⟨met, options, _, byPosition⟩ rfl
    rfl
  | removeSpace =>
    refine ⟨_, feedsText_of_spells h, ?_⟩
    rintro ⟨met, options, _, byPosition⟩ rfl
    rfl

end OptionsAssembly

/-! ### Reading a description -/

namespace Options

/-- A field is found by its name. -/
theorem Field.ofName?_name (field : Field) : ofName? field.name = some field := by
  cases field <;> decide

/-- By any other name no field is found. -/
theorem Field.ofName?_eq_none {word : String} (other : ∀ field : Field, field.name ≠ word) :
    ofName? word = none := by
  simp [ofName?, other]

/-- Some of the fields of options; the others have their defaults. -/
def given (o : Options engine) (met : List Field) : Options engine :=
  met.foldr (fun field known => known.set field (o.get field)) default

/-- A field that is given has its content. -/
theorem get_given_of_mem (o : Options engine) {met : List Field} {field : Field} (h : field ∈ met) :
    (o.given met).get field = o.get field := by
  induction met with
  | nil => contradiction
  | cons first met ih =>
    change ((o.given met).set first (o.get first)).get field = _
    by_cases same : field = first
    · subst same
      rw [get_set]
    · rw [get_set_of_ne _ same]
      exact ih ((List.mem_cons.1 h).resolve_left same)

/-- A field that is not given has its default. -/
theorem get_given_of_not_mem (o : Options engine) {met : List Field} {field : Field}
    (h : field ∉ met) :
    (o.given met).get field = default.get field := by
  induction met with
  | nil => rfl
  | cons first met ih =>
    rw [List.mem_cons, not_or] at h
    obtain ⟨differs, absent⟩ := h
    change ((o.given met).set first (o.get first)).get field = _
    rw [get_set_of_ne _ differs, ih absent]

/-- The fields that differ from their defaults make up the options. -/
theorem given_eq_self {o : Options engine} {met : List Field}
    (complete : ∀ field, field ∈ met ∨ o.get field = default.get field) : o.given met = o := by
  apply ext_get
  intro field
  by_cases mem : field ∈ met
  · exact o.get_given_of_mem mem
  · rw [o.get_given_of_not_mem mem]
    exact ((complete field).resolve_left mem).symm

/-- What a reader knows when it has met some fields of options, the last one first. -/
def draft (o : Options engine) (met : List Field) : OptionsDraft engine :=
  ⟨met, o.given met, met.headD .voidTags, false⟩

/-- The effect of a member on the fields that have been met. -/
def meet (met : List Field) : Option Field → Except Fault (List Field)
  | none => .ok met
  | some field =>
    if met.contains field then .error (.duplicateMember field.name) else .ok (field :: met)

/-- The name of a field is taken if the field has not been met. -/
theorem key_name (draft : OptionsDraft engine) (field : Field) :
    OptionsAssembly.sink.key (.members draft) field.name =
      if draft.met.contains field then .error (.duplicateMember field.name)
      else .ok (some (.members { draft with due := field })) := by
  change OptionsAssembly.key (.members draft) field.name = _
  simp only [OptionsAssembly.key, field.ofName?_name]

/-- Any other name is turned down. -/
theorem key_of_other (draft : OptionsDraft engine) {word : String}
    (other : ∀ field : Field, field.name ≠ word) :
    OptionsAssembly.sink.key (.members draft) word = .ok none := by
  change OptionsAssembly.key (.members draft) word = _
  simp only [OptionsAssembly.key, Field.ofName?_eq_none other]

/-- **A member of a description is read**: its field has been met, if it was not met before. -/
theorem outcome_describedMember {o : Options engine} {field : Option Field}
    {member : Padded × Padded} (h : o.Describes field member) {place : Place}
    (takes : place = .name ∨ place = .first .object) (met : List Field) {rest : List Char}
    (delimited : Delimited rest) :
    (Reader.ready place [.object] (.members (o.draft met))).outcome OptionsAssembly.sink
        (some nestingLimit) (memberText member ++ rest) =
      meet met field >>= fun met =>
        (Reader.ready (.next .object) [.object] (.members (o.draft met))).outcome
          OptionsAssembly.sink (some nestingLimit) rest := by
  rw [memberText, List.append_assoc, List.cons_append]
  cases h with
  | @known field _ name content =>
    obtain ⟨json, feeds, fed⟩ := OptionsAssembly.exists_feedsText content
    rw [outcome_memberName name takes, key_name, meet]
    change (if met.contains field then _ else _) >>= _ = _
    cases met.contains field with
    | true => rfl
    | false =>
      refine (feeds.padded .value [.object] _ rfl rest delimited).trans ?_
      rw [List.length_singleton, fed _ rfl]
      rfl
  | unknown name other value =>
    rw [outcome_memberName name takes, key_of_other _ other]
    exact (passes_of_wellFormed value).padded .value [] [] _ rfl rest delimited

/-- Fields that are given once each are met one after another. -/
theorem foldlM_meet {α : Type} {members : List (Option Field × α)} {met : List Field}
    (once : (members.filterMap Prod.fst).Nodup)
    (fresh : ∀ field ∈ members.filterMap Prod.fst, field ∉ met) :
    members.foldlM (fun met m => meet met m.1) met =
      .ok ((members.filterMap Prod.fst).reverse ++ met) := by
  induction members generalizing met with
  | nil => rfl
  | cons m members ih =>
    obtain ⟨known, value⟩ := m
    cases known with
    | none => exact ih once fresh
    | some field =>
      have names : ((some field, value) :: members).filterMap Prod.fst =
          field :: members.filterMap Prod.fst := rfl
      rw [names] at once fresh ⊢
      obtain ⟨absent, others⟩ := List.nodup_cons.1 once
      have new : meet met (some field) = .ok (field :: met) := by
        simp [meet, fresh field List.mem_cons_self]
      have rest : ∀ other ∈ members.filterMap Prod.fst, other ∉ field :: met := by
        intro other mem
        rw [List.mem_cons, not_or]
        exact ⟨fun same => absent (same ▸ mem), fresh other (List.mem_cons_of_mem field mem)⟩
      rw [List.foldlM_cons, new]
      refine (ih others rest).trans ?_
      simp

namespace Description

variable {o : Options engine} (d : o.Description)

/-- The fields that a description gives, the last one first. -/
def fields : List Field :=
  (d.members.filterMap Prod.fst).reverse

/-- The fields that a description gives make up the options. -/
theorem given_fields : o.given d.fields = o := by
  apply given_eq_self
  intro field
  rw [fields, List.mem_reverse]
  exact d.complete field

/-- The members of a description are met one after another. -/
theorem outcome_members (nonempty : d.members ≠ []) {rest : List Char}
    (delimited : Delimited rest) :
    (Reader.ready (.first .object) [.object] (.members (o.draft []))).outcome OptionsAssembly.sink
        (some nestingLimit) ([','].intercalate (d.members.map fun m => memberText m.2) ++ rest) =
      (Reader.ready (.next .object) [.object] (.members (o.draft d.fields))).outcome
        OptionsAssembly.sink (some nestingLimit) rest := by
  -- each member with its effect on the fields that have been met
  let parts := d.members.map fun m => (memberText m.2, fun met => meet met m.1)
  have acts : ∀ p ∈ parts, ∀ first met rest, Delimited rest →
      (Reader.ready (Bracket.object.due first) [.object] (.members (o.draft met))).outcome
        OptionsAssembly.sink (some nestingLimit) (p.1 ++ rest) = p.2 met >>= fun met =>
          (Reader.ready (.next .object) [.object] (.members (o.draft met))).outcome
            OptionsAssembly.sink (some nestingLimit) rest := by
    intro p mem first met rest delimited
    obtain ⟨m, m_mem, rfl⟩ := List.mem_map.1 mem
    exact outcome_describedMember (d.describes m m_mem) (Bracket.due_object first) met delimited
  have texts : d.members.map (fun m => memberText m.2) = parts.map Prod.fst := by
    simp [parts]
  have effects : parts.foldlM (fun met p => p.2 met) [] = .ok d.fields := by
    rw [List.foldlM_map]
    refine (foldlM_meet d.once ?_).trans ?_
    · simp
    · rw [List.append_nil, fields]
  rw [texts]
  refine (Reader.outcome_separated (fun met rest => Reader.outcome_memberComma _ _ rest) acts
    (by simpa [parts] using nonempty) true [] delimited).trans ?_
  rw [effects]
  rfl

/-- When all fields of a description have been met, the options are complete. -/
theorem outcome_closing {place : Place} (ends : place = .first .object ∨ place = .next .object)
    (rest : List Char) :
    (Reader.ready place [.object] (.members (o.draft d.fields))).outcome OptionsAssembly.sink
        (some nestingLimit) ('\x7d' :: rest) =
      (Reader.ready .done [] (.options o)).outcome OptionsAssembly.sink (some nestingLimit)
        rest := by
  refine (Reader.outcome_closing .object ends [] _ rest).trans ?_
  change (Reader.ready .done [] (OptionsAssembly.options (o.given d.fields))).outcome _ _ rest = _
  rw [given_fields]

/-- What stands between the brackets of a description is read, and then the options are complete. -/
theorem outcome_inside (rest : List Char) :
    (Reader.ready (.first .object) [.object] (.members (o.draft []))).outcome OptionsAssembly.sink
        (some nestingLimit) (d.inside ++ '\x7d' :: rest) =
      (Reader.ready .done [] (.options o)).outcome OptionsAssembly.sink (some nestingLimit)
        rest := by
  have divided := d.divided
  unfold Divided at divided
  split_ifs at divided with empty
  · have none : d.fields = [] := by
      simp [fields, List.map_eq_nil_iff.1 empty]
    rw [Reader.outcome_blank rfl divided, ← d.outcome_closing (.inl rfl), none]
  · have nonempty : d.members ≠ [] := by
      simpa using empty
    rw [divided, d.outcome_members nonempty (delimited_cons (.inr (.inr rfl)) rest)]
    exact d.outcome_closing (.inr rfl) rest

/-- **Reading a description gives the options that it describes.** -/
theorem read_text : Options.read d.text = .ok o := by
  have opens : OptionsAssembly.sink.opening (some nestingLimit) .object 0 (.start .options) =
      .ok (.members (o.draft [])) := rfl
  have whole : OptionsAssembly.read .options d.text = .ok (.options o) := by
    change (Reader.ready .value [] (OptionsAssembly.start .options)).outcome OptionsAssembly.sink
      (some nestingLimit) d.text.toList = _
    rw [text, String.toList_ofList, Padded.chars, d.isObject, Bracket.around, List.append_assoc,
      Reader.outcome_blank rfl d.document.blank_before, List.cons_append, List.cons_append,
      List.append_assoc, outcome_opening .object rfl, List.length_nil, opens]
    refine (d.outcome_inside d.document.after).trans ?_
    rw [← List.append_nil d.document.after, Reader.outcome_blank rfl d.document.blank_after]
    rfl
  rw [Options.read, whole]
  rfl

end Description

/-- **Settings and descriptions agree.** In options that are put together by settings, every field
has the content of its last setting, or its default if it was never set; and every description of
such options is read as the options. -/
theorem settings_described (settings : List (Setting engine)) :
    (∀ earlier s later, settings = earlier ++ s :: later → (∀ s' ∈ later, s'.field ≠ s.field) →
      (ofSettings settings).get s.field = s.content) ∧
    (∀ field, (∀ s ∈ settings, s.field ≠ field) →
      (ofSettings settings).get field = default.get field) ∧
    ∀ d : (ofSettings settings).Description, Options.read d.text = .ok (ofSettings settings) := by
  refine ⟨?_, ?_, Description.read_text⟩
  · rintro earlier s later rfl last
    exact get_ofSettings_of_last earlier s last
  · intro field unset
    exact get_ofSettings_of_unset unset

/-- A pattern for the names that begin with a certain letter. -/
def leadingPattern : Pattern .standard :=
  .standard "^b" (by decide +kernel)

/-- Settings of which one takes back another. -/
def mixedSettings : List (Setting .standard) :=
  [.closing .tag, .voidTags [.name "a", .pattern leadingPattern], .quoteStyle .smart,
    .closing .slash]

/-- The members of a description of these settings, out of order, with a number out of range in a
member that is skipped. -/
def mixedMembers : List (Option Field × Padded × Padded) :=
  [(some .quoteStyle, .bare "\"quoteStyle\"".toList, .bare "-0".toList),
    (none, .bare "\"x\"".toList, ⟨[' '], "[1e999]".toList, ['\n'], by decide, by decide⟩),
    (some .closing, .bare "\"closingSingleTag\"".toList, .bare "\"sl\\u0061sh\"".toList),
    (some .voidTags, .bare "\"singleTags\"".toList,
      .bare "[\"a\",\x7b\"pattern\":\"^b\"\x7d]".toList)]

/-- A list of a number out of range is well formed. -/
theorem wellFormed_outOfRange : WellFormed "[1e999]".toList := by
  have numeral : IsNumeral "1e999".toList :=
    @IsNumeral.mk [] ['1'] [] ['e', '9', '9', '9'] (.inl rfl) (.digits (by simp) (by simp)) .none
      (@IsExponent.some 'e' [] ['9', '9', '9'] (.inl rfl) (.inl rfl) (by simp [IsDigits]))
  exact @WellFormed.list [.bare "1e999".toList] (by simp) (by simpa using .numeral numeral)

/-- A word with an escape that it does not need. -/
theorem spellsString_slash : SpellsString "slash" "\"sl\\u0061sh\"".toList := by
  have code : SpellsCode 'a'.toNat "0061".toList :=
    @SpellsCode.mk '0' '0' '6' '1' 0 0 6 1 rfl rfl rfl rfl
  have letter : SpellsText "ash".toList "\\u0061sh".toList :=
    @SpellsText.cons 'a' "sh".toList "\\u0061".toList "sh".toList (.code code)
      (.of_unescaped (by decide))
  exact ⟨"sl\\u0061sh".toList, .cons (.plain (by decide)) (.cons (.plain (by decide)) letter), rfl⟩

/-- The document of the void tags of these settings. -/
theorem spells_mixedTags :
    Spells (.array ([.name "a", .pattern leadingPattern].map VoidTag.toJson))
      "[\"a\",\x7b\"pattern\":\"^b\"\x7d]".toList := by
  have pattern : Spells (.object [("pattern", .string "^b")])
      "\x7b\"pattern\":\"^b\"\x7d".toList := by
    refine @Spells.object [((.bare "\"pattern\"".toList, .bare "\"^b\"".toList),
      ("pattern", .string "^b"))] (by simp) ?_ ?_
    · simpa using .of_unescaped (by decide)
    · simpa using .string (.of_unescaped (by decide))
  refine @Spells.list [(.bare "\"a\"".toList, .string "a"),
    (.bare "\x7b\"pattern\":\"^b\"\x7d".toList, .object [("pattern", .string "^b")])] (by simp) ?_
  simpa using ⟨.string (.of_unescaped (by decide)), pattern⟩

/-- The members give what the settings set. -/
theorem describes_mixedMembers :
    ∀ m ∈ mixedMembers, (ofSettings mixedSettings).Describes m.1 m.2 := by
  intro m mem
  simp only [mixedMembers, List.mem_cons, List.not_mem_nil, or_false] at mem
  rcases mem with rfl | rfl | rfl | rfl
  · exact .known (.of_unescaped (by decide)) .negativeZero
  · exact .unknown (.of_unescaped (s := "x") (by decide)) (by rintro ⟨⟩ <;> decide)
      wellFormed_outOfRange
  · exact .known (.of_unescaped (by decide)) ⟨_, .slash, .string spellsString_slash⟩
  · exact .known (.of_unescaped (by decide)) spells_mixedTags

/-- A description of the settings. -/
def mixedDescription : (ofSettings mixedSettings).Description where
  members := mixedMembers
  inside := [','].intercalate (mixedMembers.map fun m => memberText m.2)
  document := ⟨[' '], Bracket.object.around
    ([','].intercalate (mixedMembers.map fun m => memberText m.2)), [], by decide, by decide⟩
  divided := by simp [Divided, mixedMembers]
  isObject := rfl
  describes := describes_mixedMembers
  once := by decide
  complete := by rintro ⟨⟩ <;> simp [mixedMembers] <;> rfl

/-- The settings are read from their description. -/
theorem settings_described_mixed :
    mixedDescription.text = " \x7b\"quoteStyle\":-0,\"x\": [1e999]\n," ++
      "\"closingSingleTag\":\"sl\\u0061sh\"," ++
      "\"singleTags\":[\"a\",\x7b\"pattern\":\"^b\"\x7d]\x7d" ∧
    (ofSettings mixedSettings).closing = some .slash ∧
    (ofSettings mixedSettings).quoteAll = true ∧
    Options.read mixedDescription.text = .ok (ofSettings mixedSettings) := by
  obtain ⟨last, unset, described⟩ := settings_described mixedSettings
  refine ⟨by decide +kernel, ?_, ?_, described mixedDescription⟩
  · exact last [.closing .tag, .voidTags [.name "a", .pattern leadingPattern], .quoteStyle .smart]
      (.closing .slash) [] rfl (by simp)
  · exact unset .quoteAll (by simp [mixedSettings, Setting.field])

end Options

end Markup
