import Markup.Pattern.Standard
import Markup.Proofs.Render.AttributeTokens
import Markup.Proofs.Render.Elements

/-!
# Where an unquoted value ends

A tokeniser of markup ends an unquoted attribute value at white space or at the bracket, and at
nothing else. So what is written after the attributes of a start tag matters if the last of them is
unquoted. After a space or a bracket the tokeniser has the value that the tree holds, but a slash it
takes for a part of the value.

`Value.unquotedValue_ends` says of every element of a tree which of the two is the case. The value
ends where it should, except under one combination of options: the element is closed by a slash, and
space is removed, so that no space is left between the value and the slash
(`Node.slashAdjoins`). `Value.unquotedValue_runs_on` is an element for which that is so.
-/

namespace Markup

variable {engine : Pattern.Engine}

/-! ### Reading an unquoted value -/

/-- The characters at which an unquoted value ends: white space and the bracket. -/
def unquotedEnd : List Char :=
  ['\t', '\n', '\x0c', '\r', ' ', '>']

/-- The unquoted value that a text begins with. -/
def takeUnquoted (text : String) : String :=
  String.ofList (text.toList.takeWhile fun c => !unquotedEnd.contains c)

/-- A value that is written without quotes is read as far as it goes, and then on. -/
theorem takeUnquoted_append {options : Options engine} {value : String}
    (bare : options.quotes value = false) (rest : String) :
    takeUnquoted (value ++ rest) = value ++ takeUnquoted rest := by
  have inside : ∀ c ∈ value.toList, (!unquotedEnd.contains c) = true := by
    intro c mem
    have plain := Options.not_mem_needingQuotes bare c mem
    have ends : unquotedEnd.all needingQuotes.contains = true := by decide
    simp only [Bool.not_eq_true', List.contains_eq_mem, decide_eq_false_iff_not]
    intro stops
    exact plain (List.contains_iff_mem.1 (List.all_eq_true.1 ends c stops))
  rw [takeUnquoted, takeUnquoted, String.toList_append, List.takeWhile_append_of_pos inside,
    String.ofList_append, String.ofList_toList]

/-! ### The last attribute -/

namespace Written

/-- An attribute that is not between quotes, written after others, comes after a space. -/
theorem layout_concat (options : Options engine) {last : Written} (bare : last.isQuoted = false)
    (afterQuoted : Bool) (written : List Written) :
    layout options afterQuoted (written ++ [last]) =
      layout options afterQuoted written ++ " " ++ last.text options.quoteStyle := by
  induction written generalizing afterQuoted with
  | nil => simp [layout, space, bare]
  | cons next rest ih =>
    rw [List.cons_append, layout, layout, ih]
    simp only [String.append_assoc]

end Written

namespace Options

/-- Only a text is written without quotes, and only if it needs none. -/
theorem of_written?_eq_bare {options : Options engine} {key : String} {held : Value}
    {name value : String} (h : options.written? key held = some (.bare name value)) :
    key = name ∧ held = .string value ∧ options.quotes value = false := by
  cases held with
  | null | array | node => cases h
  | number x => cases h
  | boolean held => cases held <;> cases h
  | string text =>
    have written : options.writtenText key text = .bare name value := Option.some.inj h
    unfold writtenText at written
    dsimp only at written
    generalize (if options.replaceQuote then withoutQuotes text else text) = shown at written
    split at written
    · split at written <;> cases written
    · rename_i bare
      split at written
      · cases written
      · obtain ⟨rfl, rfl⟩ := Written.bare.inj written
        exact ⟨rfl, rfl, by simpa [Options.quotes] using bare⟩

end Options

namespace Node

/-- The attribute that is written last in the start tag of an element. -/
def lastWritten? (options : Options engine) (n : Node Value) : Option Written :=
  ((n.attrs.map (·.written options)).getD []).getLast?

/-- A last attribute without quotes is a text of the tree, and the start tag ends with it. -/
theorem exists_startText_eq {options : Options engine} {n : Node Value} {name value : String}
    (h : n.lastWritten? options = some (.bare name value)) :
    (name, .string value) ∈ (n.attrs.map (·.entries)).getD [] ∧
      options.quotes value = false ∧
      ∃ lead, n.startText options = lead ++ " " ++ name ++ "=" ++ value := by
  unfold lastWritten? at h
  cases attrs : n.attrs with
  | none => simp [attrs] at h
  | some map =>
    rw [attrs, Option.map_some, Option.getD_some, List.getLast?_eq_some_iff] at h
    obtain ⟨others, written⟩ := h
    have mem : .bare name value ∈ map.written options := by
      rw [written]
      exact List.mem_append_right _ List.mem_cons_self
    obtain ⟨⟨key, held⟩, entry, from_entry⟩ := Attributes.exists_entry_of_mem_written mem
    obtain ⟨rfl, rfl, bare⟩ := Options.of_written?_eq_bare from_entry
    refine ⟨entry, bare, "<" ++ n.name ++ Written.layout options false others, ?_⟩
    rw [startText, attrs, Option.map_some, Option.getD_some, Attributes.text_eq_layout, written,
      Written.layout_concat options rfl, Written.text]
    simp only [String.append_assoc]

end Node

/-! ### What follows the last attribute -/

namespace Node

/-- Is the element closed by a slash? -/
def closesBySlash (options : Options engine) (n : Node Value) : Bool :=
  if options.isVoid n.name then options.closing == some .slash
  else !n.hasContent && (options.closing == some .slash || options.closing == some .default)

/-- Does a slash come right after the attributes? -/
def slashAdjoins (options : Options engine) (n : Node Value) : Bool :=
  options.removeSpace && n.closesBySlash options

/-- What the start tag ends with is a slash exactly if the element is closed by one. -/
theorem ending_outline_eq_slash_iff (options : Options engine) (n : Node Value) :
    (n.outline options).ending = .slash ↔ n.closesBySlash options = true := by
  unfold outline closesBySlash
  cases options.isVoid n.name with
  | true =>
    rcases closing : options.closing with _ | _ | _ | _ <;>
      simp [Options.voidEnding, closing, Outline.ending]
  | false =>
    cases n.hasContent <;> rcases closing : options.closing with _ | _ | _ | _ <;>
      simp [Options.emptyEnding?, closing, Outline.ending]

/-- A start tag goes on with a slash, if one adjoins its attributes, and else with a space or the
bracket. -/
theorem exists_ending_text_eq (options : Options engine) (n : Node Value) :
    ∃ c tail, ((n.outline options).ending.text options n.name).toList = c :: tail ∧
      if n.slashAdjoins options then c = '/' ∧ tail = ['>'] else c = ' ' ∨ c = '>' := by
  have slash := ending_outline_eq_slash_iff options n
  unfold slashAdjoins
  cases ending : (n.outline options).ending with
  | plain =>
    have other : n.closesBySlash options = false := by simpa [ending] using slash
    exact ⟨'>', [], by simp [Ending.text], by simp [other]⟩
  | endTag =>
    have other : n.closesBySlash options = false := by simpa [ending] using slash
    exact ⟨'>', (endTagText n.name).toList, by simp [Ending.text], by simp [other]⟩
  | slash =>
    have this : n.closesBySlash options = true := by simpa [ending] using slash
    cases removes : options.removeSpace with
    | true => exact ⟨'/', ['>'], by simp [Ending.text, removes], by simp [this]⟩
    | false => exact ⟨' ', ['/', '>'], by simp [Ending.text, removes], by simp⟩

/-- A slash that adjoins the attributes comes with the bracket and nothing else. -/
theorem ending_text_of_slashAdjoins {options : Options engine} {n : Node Value}
    (adjoins : n.slashAdjoins options = true) :
    (n.outline options).ending.text options n.name = "/>" := by
  obtain ⟨c, tail, chars, first⟩ := n.exists_ending_text_eq options
  obtain ⟨rfl, rfl⟩ : c = '/' ∧ tail = ['>'] := by simpa [adjoins] using first
  exact String.toList_inj.1 chars

/-- Of what a start tag goes on with, a slash that adjoins the attributes is read as a part of the
value before it, and nothing else is. -/
theorem takeUnquoted_ending (options : Options engine) (n : Node Value) (more : String) :
    takeUnquoted ((n.outline options).ending.text options n.name ++ more) =
      if n.slashAdjoins options then "/" else "" := by
  obtain ⟨c, tail, chars, first⟩ := n.exists_ending_text_eq options
  rw [takeUnquoted, String.toList_append, chars, List.cons_append]
  cases adjoins : n.slashAdjoins options with
  | true =>
    obtain ⟨rfl, rfl⟩ : c = '/' ∧ tail = ['>'] := by simpa [adjoins] using first
    rfl
  | false =>
    rcases (by simpa [adjoins] using first : c = ' ' ∨ c = '>') with rfl | rfl <;> rfl

end Node

namespace Value

/-- **An unquoted value ends where the tree ends it, unless a slash adjoins it.** Every element of
the tree has a place in the text. If its last attribute is unquoted, the value is the one that the
tree holds, and it is followed by a space or the bracket, so that a tokeniser has read just the
value; except that the slash and the bracket come right after the value if the element is closed by
a slash and space is removed, and then the tokeniser reads the slash as a part of the value. -/
theorem unquotedValue_ends (options : Options engine) (tree : Value) :
    (∀ element, HasElement element tree ↔
      ∃ before after, Stands options element before after tree) ∧
    ∀ (element : Node Value) (before after name value : String),
      Stands options element before after tree →
      element.lastWritten? options = some (.bare name value) →
      (name, .string value) ∈ (element.attrs.map (·.entries)).getD [] ∧
      ∃ lead rest, element.startText options = lead ++ " " ++ name ++ "=" ++ value ∧
        tree.render options = before ++ element.startText options ++ rest ∧
        (rest.toList.head? = some ' ' ∨ rest.toList.head? = some '>' ↔
          element.slashAdjoins options = false) ∧
        (takeUnquoted (value ++ rest) = value ↔ element.slashAdjoins options = false) ∧
        (element.slashAdjoins options = true →
          (∃ more, rest = "/>" ++ more) ∧ takeUnquoted (value ++ rest) = value ++ "/") := by
  refine ⟨fun element => hasElement_iff_exists_stands options, ?_⟩
  intro element before after name value stands last
  obtain ⟨entry, bare, lead, start⟩ := Node.exists_startText_eq last
  obtain ⟨tail, enclosed⟩ := element.exists_enclose_eq options
    ((element.content.map (markup options)).getD "")
  obtain ⟨c, more, ending, first⟩ := element.exists_ending_text_eq options
  refine ⟨entry, lead, (element.outline options).ending.text options element.name ++
    (tail ++ after), start, ?_, ?_, ?_, ?_⟩
  · rw [render_eq_markup, stands.markup_eq, enclosed]
    simp only [String.append_assoc]
  · rw [String.toList_append, ending, List.cons_append, List.head?_cons]
    cases adjoins : element.slashAdjoins options with
    | true =>
      obtain ⟨rfl, -⟩ : c = '/' ∧ more = ['>'] := by simpa [adjoins] using first
      simp
    | false => simpa [adjoins] using first
  · rw [takeUnquoted_append bare, Node.takeUnquoted_ending]
    cases element.slashAdjoins options <;> simp
  · intro adjoins
    rw [takeUnquoted_append bare, Node.takeUnquoted_ending, if_pos adjoins,
      Node.ending_text_of_slashAdjoins adjoins]
    exact ⟨⟨tail ++ after, rfl⟩, rfl⟩

/-- Options that quote only where it is needed and close by a slash. -/
def slashOptions (removeSpace : Bool) : Options .standard where
  voidTags := []
  closing := some .slash
  quoteAll := false
  replaceQuote := true
  quoteStyle := .double
  removeSpace := removeSpace

/-- An element without content, with an attribute that needs no quotes. -/
def linkElement : Node Value :=
  ⟨some (.name "a"), some ⟨[("href", .string "/b")]⟩, none⟩

/-- With the space before the slash, the value of the sample element is read as it is. Without the
space, the slash and the bracket follow, and the slash is read too. -/
theorem unquotedValue_ends_linkElement :
    (∀ removeSpace, linkElement.lastWritten? (slashOptions removeSpace) =
      some (.bare "href" "/b")) ∧
    (∃ rest, (node linkElement).render (slashOptions false) =
        linkElement.startText (slashOptions false) ++ rest ∧
      takeUnquoted ("/b" ++ rest) = "/b") ∧
    ∃ rest, (node linkElement).render (slashOptions true) =
        linkElement.startText (slashOptions true) ++ rest ∧
      (∃ more, rest = "/>" ++ more) ∧ takeUnquoted ("/b" ++ rest) = "/b/" := by
  have last : ∀ removeSpace, linkElement.lastWritten? (slashOptions removeSpace) =
      some (.bare "href" "/b") := by decide
  refine ⟨last, ?_, ?_⟩
  · obtain ⟨-, lead, rest, -, text, -, reads, -⟩ :=
      (unquotedValue_ends (slashOptions false) (node linkElement)).2 linkElement "" "" "href" "/b"
        (.node rfl) (last false)
    refine ⟨rest, ?_, reads.2 (by decide)⟩
    simpa using text
  · obtain ⟨-, lead, rest, -, text, -, -, adjoins⟩ :=
      (unquotedValue_ends (slashOptions true) (node linkElement)).2 linkElement "" "" "href" "/b"
        (.node rfl) (last true)
    refine ⟨rest, ?_, adjoins (by decide)⟩
    simpa using text

/-- It is not so that an unquoted value is always followed by a space or the bracket: without the
space, the slash comes right after the value of the sample element, and is read as a part of it. -/
theorem unquotedValue_runs_on :
    ¬ ∀ (options : Options .standard) (tree : Value) (element : Node Value)
      (before after name value rest : String),
      Stands options element before after tree →
      element.lastWritten? options = some (.bare name value) →
      tree.render options = before ++ element.startText options ++ rest →
      (rest.toList.head? = some ' ' ∨ rest.toList.head? = some '>') ∧
        takeUnquoted (value ++ rest) = value := by
  intro always
  have text : (node linkElement).render (slashOptions true) =
      "" ++ linkElement.startText (slashOptions true) ++ "/>" := by
    rw [render_eq_markup]
    decide
  have last : linkElement.lastWritten? (slashOptions true) = some (.bare "href" "/b") := by decide
  obtain ⟨stops, -⟩ := always (slashOptions true) (node linkElement) linkElement "" "" "href" "/b"
    "/>" (.node rfl) last text
  simp at stops

end Value

end Markup
