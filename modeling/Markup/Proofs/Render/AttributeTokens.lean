import Mathlib.Data.List.Basic
import Markup.Pattern.Standard
import Markup.Proofs.Json.ReadBack
import Markup.Proofs.Render.AttributeText

/-!
# Reading attribute text

The text of an attribute map can be read by a simple reader that knows nothing of the options it was
written with. `Token.take?` reads one attribute: it skips spaces, takes a name up to a space or an
equals sign, and after an equals sign takes a value, up to the next quote of the same kind if it
begins with one and up to the next space if it does not. `Token.readAll` reads one attribute after
another.

What the reader finds is told without any text by `Attributes.emitted`, and
`Attributes.readAll_text` says that the two agree, whatever the options. The names must be such as
can be told from what follows them, and a value between quotes must not have the quote in it that
was chosen for it. Where double quotes in values are replaced and the quotes around values are not
single ones, this is always so (`Attributes.quotesClear_of_replaceQuote`).

Leaving out the space between two quoted attributes does no harm, because the quote ends the first
of them (`Token.take?_text`), and a bare value has no space in it, because a space needs quotes.
-/

namespace Markup

variable {engine : Pattern.Engine}

/-! ### The reader -/

/-- An attribute that has been read. -/
inductive Token
  /-- A name alone. -/
  | marker (name : String)
  /-- A name and a value. -/
  | pair (name value : String)
deriving DecidableEq

namespace Token

/-- Does a name go on with the character? -/
def inName (c : Char) : Bool :=
  c != ' ' && c != '='

/-- Is the character a quote? -/
def isQuote (c : Char) : Bool :=
  c == '"' || c == '\''

/-- Reads a value, and hands back what follows it. -/
def takeValue : List Char → List Char × List Char
  | [] => ([], [])
  | c :: rest =>
    if isQuote c then (rest.takeWhile (· != c), (rest.dropWhile (· != c)).tail)
    else ((c :: rest).takeWhile (· != ' '), (c :: rest).dropWhile (· != ' '))

/-- Reads an attribute, its name first, and hands back what follows it. -/
def takeNamed (text : List Char) : Token × List Char :=
  let name := String.ofList (text.takeWhile inName)
  match text.dropWhile inName with
  | '=' :: rest => (.pair name (String.ofList (takeValue rest).1), (takeValue rest).2)
  | rest => (.marker name, rest)

/-- Reads an attribute after any spaces, and hands back what follows it; `none` if there are only
spaces left. -/
def take? (text : List Char) : Option (Token × List Char) :=
  match text.dropWhile (· == ' ') with
  | [] => none
  | c :: rest => some (takeNamed (c :: rest))

/-! ### The reader ends -/

/-- What follows a value is no longer than the text. -/
theorem length_takeValue_le (text : List Char) : (takeValue text).2.length ≤ text.length := by
  unfold takeValue
  split
  · exact Nat.le_refl _
  · rename_i c rest
    split
    · have quoted : (rest.dropWhile (· != c)).length ≤ rest.length :=
        (List.dropWhile_sublist _).length_le
      simp only [List.length_tail, List.length_cons]
      omega
    · exact (List.dropWhile_sublist _).length_le

/-- What follows an attribute is shorter than the text, if that does not begin with a space. -/
theorem length_takeNamed_lt {c : Char} (visible : c ≠ ' ') (rest : List Char) :
    (takeNamed (c :: rest)).2.length < (c :: rest).length := by
  have whole : ((c :: rest).dropWhile inName).length ≤ (c :: rest).length :=
    (List.dropWhile_sublist _).length_le
  unfold takeNamed
  dsimp only
  split
  · rename_i after stop
    have value := length_takeValue_le after
    rw [stop, List.length_cons] at whole
    dsimp only
    omega
  · rename_i noValue
    -- Without an equals sign, the name has at least the first character.
    have named : inName c = true := by
      by_cases equals : c = '='
      · subst equals
        exact (noValue rest (List.dropWhile_cons_of_neg (by decide))).elim
      · simp [inName, visible, equals]
    have shorter : (rest.dropWhile inName).length ≤ rest.length :=
      (List.dropWhile_sublist _).length_le
    rw [List.dropWhile_cons_of_pos named, List.length_cons]
    exact Nat.lt_succ_of_le shorter

/-- What follows an attribute is shorter than the text. -/
theorem length_lt_of_take? {text rest : List Char} {token : Token}
    (h : take? text = some (token, rest)) : rest.length < text.length := by
  have spaces : (text.dropWhile (· == ' ')).length ≤ text.length :=
    (List.dropWhile_sublist _).length_le
  unfold take? at h
  split at h
  · cases h
  · rename_i c tail begins
    have visible : c ≠ ' ' := by
      have := List.head?_dropWhile_not (· == ' ') text
      simpa [begins] using this
    have shorter := length_takeNamed_lt visible tail
    rw [Option.some.inj h] at shorter
    rw [begins] at spaces
    dsimp only at shorter
    omega

/-- Reads one attribute after another. -/
def readAll (text : List Char) : List Token :=
  match h : take? text with
  | none => []
  | some (token, rest) =>
    have := length_lt_of_take? h
    token :: readAll rest
termination_by text.length

/-- Where only spaces are left, there are no more attributes. -/
theorem readAll_of_eq_none {text : List Char} (h : take? text = none) : readAll text = [] := by
  rw [readAll]
  split
  · rfl
  · rename_i eq
    rw [h] at eq
    cases eq

/-- One attribute is read, and then the others. -/
theorem readAll_of_eq_some {text rest : List Char} {token : Token}
    (h : take? text = some (token, rest)) : readAll text = token :: readAll rest := by
  rw [readAll]
  split
  · rename_i eq
    rw [h] at eq
    cases eq
  · rename_i eq
    rw [h] at eq
    cases eq
    rfl

/-! ### Reading what has been written -/

/-- A name that can be told from what follows it. -/
structure ClearName (name : String) : Prop where
  /-- The name is not empty. -/
  nonempty : name ≠ ""
  /-- The name has no character that would end it. -/
  clear : ∀ c ∈ name.toList, c ≠ ' ' ∧ c ≠ '='

/-- A name goes on up to its last character. -/
theorem ClearName.inName {name : String} (h : ClearName name) :
    ∀ c ∈ name.toList, Token.inName c = true := by
  intro c mem
  have clear := h.clear c mem
  simp [Token.inName, clear.1, clear.2]

/-- A run of characters of a kind is taken up to where it ends. -/
theorem takeWhile_append_of_ends {p : Char → Bool} {run rest : List Char}
    (hrun : ∀ c ∈ run, p c = true) (hrest : Ends (p · = true) rest) :
    (run ++ rest).takeWhile p = run ∧ (run ++ rest).dropWhile p = rest := by
  rw [List.takeWhile_append_of_pos hrun, List.dropWhile_append_of_pos hrun]
  cases rest with
  | nil => exact ⟨List.append_nil run, rfl⟩
  | cons c rest =>
    have stops : ¬ p c = true := ends_cons.1 hrest
    rw [List.takeWhile_cons_of_neg stops, List.dropWhile_cons_of_neg stops, List.append_nil]
    exact ⟨rfl, rfl⟩

/-- A name without an equals sign is a marker. -/
theorem takeNamed_marker {name : String} (h : ClearName name) {rest : List Char}
    (stops : Ends (· ≠ ' ') rest) : takeNamed (name.toList ++ rest) = (.marker name, rest) := by
  have ends : Ends (Token.inName · = true) rest := by
    cases rest with
    | nil => exact ends_nil _
    | cons c rest =>
      have space : c = ' ' := by simpa using stops
      simp [Token.inName, space]
  obtain ⟨taken, left⟩ := takeWhile_append_of_ends h.inName ends
  unfold takeNamed
  rw [taken, left, String.ofList_toList]
  split
  · rw [ends_cons] at stops
    exact absurd (by decide) stops
  · rfl

/-- A name before an equals sign comes with a value. -/
theorem takeNamed_pair {name : String} (h : ClearName name) (rest : List Char) :
    takeNamed (name.toList ++ '=' :: rest) =
      (.pair name (String.ofList (takeValue rest).1), (takeValue rest).2) := by
  have ends : Ends (Token.inName · = true) ('=' :: rest) := by simp [Token.inName]
  obtain ⟨taken, left⟩ := takeWhile_append_of_ends h.inName ends
  unfold takeNamed
  rw [taken, left, String.ofList_toList]
  rfl

/-- A value between quotes goes up to the next quote of the same kind. -/
theorem takeValue_quoted {quote : Char} (isQuote : isQuote quote = true) {value : List Char}
    (clear : quote ∉ value) (rest : List Char) :
    takeValue (quote :: (value ++ quote :: rest)) = (value, rest) := by
  have inside : ∀ c ∈ value, (c != quote) = true := by
    intro c mem
    have other : c ≠ quote := fun eq => clear (eq ▸ mem)
    simpa using other
  have ends : Ends (fun c => (c != quote) = true) (quote :: rest) := by simp
  obtain ⟨taken, left⟩ := takeWhile_append_of_ends inside ends
  simp only [takeValue, isQuote, if_true, taken, left, List.tail_cons]

/-- A bare value goes up to the next space. -/
theorem takeValue_bare {value : String} (nonempty : value ≠ "")
    (bare : ∀ c ∈ value.toList, c ∉ needingQuotes) {rest : List Char}
    (stops : Ends (· ≠ ' ') rest) : takeValue (value.toList ++ rest) = (value.toList, rest) := by
  have inside : ∀ c ∈ value.toList, (c != ' ') = true := by
    intro c mem
    have other : c ≠ ' ' := fun eq => bare c mem (by simp [eq, needingQuotes])
    simpa using other
  have ends : Ends (fun c => (c != ' ') = true) rest := by simpa using stops
  obtain ⟨taken, left⟩ := takeWhile_append_of_ends inside ends
  cases chars : value.toList with
  | nil => exact absurd (String.toList_eq_nil_iff.1 chars) nonempty
  | cons c cs =>
    have unquoted : isQuote c = false := by
      have plain := bare c (by simp [chars])
      simp only [needingQuotes, List.mem_cons, not_or] at plain
      simp [isQuote, plain]
    rw [chars, List.cons_append] at taken left
    simp only [List.cons_append, takeValue, unquoted, Bool.false_eq_true, if_false, taken, left]

/-- At most one space before a name is skipped. -/
theorem take?_gap {gap : List Char} (single : gap = [] ∨ gap = [' ']) {name : String}
    (h : ClearName name) (rest : List Char) :
    take? (gap ++ (name.toList ++ rest)) = some (takeNamed (name.toList ++ rest)) := by
  cases chars : name.toList with
  | nil => exact absurd (String.toList_eq_nil_iff.1 chars) h.nonempty
  | cons c cs =>
    have visible : ¬ (c == ' ') = true := by
      have clear := h.clear c (by simp [chars])
      simpa using clear.1
    have skipped : (gap ++ (c :: cs ++ rest)).dropWhile (· == ' ') = c :: cs ++ rest := by
      have stays : (c :: cs ++ rest).dropWhile (· == ' ') = c :: cs ++ rest :=
        List.dropWhile_cons_of_neg visible
      rcases single with rfl | rfl
      · exact stays
      · exact (List.dropWhile_cons_of_pos (by decide)).trans stays
    unfold take?
    rw [skipped]
    rfl

end Token

namespace Written

/-- The written attribute as it is read. -/
def token : Written → Token
  | .marker name => .marker name
  | .bare name value => .pair name value
  | .quoted name value => .pair name value

/-- The written attribute can be read: its name can be told from what follows it, a bare value is
not empty and needs no quotes, and a value between quotes does not have the quote in it. -/
def Readable (style : QuoteStyle) : Written → Prop
  | .marker name => Token.ClearName name
  | .bare name value =>
    Token.ClearName name ∧ value ≠ "" ∧ ∀ c ∈ value.toList, c ∉ needingQuotes
  | .quoted name value => Token.ClearName name ∧ style.quoteFor value ∉ value.toList

/-- The quote around a value is a quote. -/
theorem isQuote_quoteFor (style : QuoteStyle) (value : String) :
    Token.isQuote (style.quoteFor value) = true := by
  cases style with
  | single => rfl
  | double => rfl
  | smart =>
    unfold QuoteStyle.quoteFor
    dsimp only
    split <;> rfl

/-- **One step of reading**: a written attribute is read off the text, where it is over or followed
by a space. After a quote nothing is asked of what follows. -/
theorem take?_text {style : QuoteStyle} {written : Written} (readable : written.Readable style)
    {gap : List Char} (single : gap = [] ∨ gap = [' ']) {rest : List Char}
    (stops : written.isQuoted = false → Ends (· ≠ ' ') rest) :
    Token.take? (gap ++ ((written.text style).toList ++ rest)) = some (written.token, rest) := by
  cases written with
  | marker name =>
    rw [text, Token.take?_gap single readable, Token.takeNamed_marker readable (stops rfl)]
    rfl
  | bare name value =>
    obtain ⟨clear, nonempty, bare⟩ := readable
    have chars : (text style (.bare name value)).toList ++ rest =
        name.toList ++ '=' :: (value.toList ++ rest) := by simp [text]
    rw [chars, Token.take?_gap single clear, Token.takeNamed_pair clear,
      Token.takeValue_bare nonempty bare (stops rfl), String.ofList_toList]
    rfl
  | quoted name value =>
    obtain ⟨clear, unquoted⟩ := readable
    have chars : (text style (.quoted name value)).toList ++ rest =
        name.toList ++ '=' :: (style.quoteFor value :: (value.toList ++
          style.quoteFor value :: rest)) := by simp [text]
    rw [chars, Token.take?_gap single clear, Token.takeNamed_pair clear,
      Token.takeValue_quoted (isQuote_quoteFor style value) unquoted, String.ofList_toList]
    rfl

/-- What follows an attribute that is not quoted is over or begins with a space. -/
theorem ends_layout_of_not_isQuoted (options : Options engine) (written : List Written) :
    Ends (· ≠ ' ') (layout options false written).toList := by
  cases written with
  | nil => exact ends_nil _
  | cons next rest => simp [layout, space]

/-- **Reading what has been laid out** gives the attributes one after another. -/
theorem readAll_layout {options : Options engine} {written : List Written}
    (readable : ∀ next ∈ written, next.Readable options.quoteStyle) (afterQuoted : Bool) :
    Token.readAll (layout options afterQuoted written).toList = written.map token := by
  induction written generalizing afterQuoted with
  | nil => exact Token.readAll_of_eq_none rfl
  | cons next rest ih =>
    have stops : next.isQuoted = false →
        Ends (· ≠ ' ') (layout options next.isQuoted rest).toList := by
      intro bare
      rw [bare]
      exact ends_layout_of_not_isQuoted options rest
    have first := take?_text (readable next List.mem_cons_self)
      (toList_space options afterQuoted next) stops
    rw [layout, String.toList_append, String.toList_append, List.append_assoc,
      Token.readAll_of_eq_some first, List.map_cons,
      ih fun other mem => readable other (List.mem_cons_of_mem _ mem)]

end Written

/-! ### The attributes of a map -/

/-- The text of a number has no double quote in it. -/
theorem Double.not_mem_text_displayed (x : Double) :
    '"' ∉ (x.text .displayed).toList := by
  cases x with
  | nan => decide
  | infinite negative => cases negative <;> decide
  | finite negative magnitude =>
    intro mem
    have suffix : ∀ c ∈ NumberStyle.displayed.wholeSuffix.toList, Json.inNumeral c = true := by
      intro c mem
      cases mem
    exact absurd (Double.inNumeral_text_of_isFinite suffix rfl _ mem) (by decide)

/-- What the text of an attribute tells; `none` if it is not written. A text that goes between
quotes has its double quotes replaced, if the options say so. -/
def Options.emitted? (options : Options engine) (name : String) : Value → Option Token
  | .boolean true => some (.marker name)
  | .number value => some (.pair name (value.text .displayed))
  | .string value =>
    if value = "" then some (.marker name)
    else if (options.quoteAll || requiresQuotes value) && options.replaceQuote then
      some (.pair name (withoutQuotes value))
    else some (.pair name value)
  | _ => none

/-- A text is written as what its text tells. -/
theorem Options.token_writtenText (options : Options engine) (name value : String) :
    some (options.writtenText name value).token = options.emitted? name (.string value) := by
  unfold writtenText emitted?
  dsimp only
  by_cases empty : value = ""
  · subst empty
    cases options.replaceQuote <;> simp [withoutQuotes, Written.token]
  · have replaced : withoutQuotes value ≠ "" := withoutQuotes_ne_empty empty
    cases options.quoteAll || requiresQuotes value <;> cases options.replaceQuote <;>
      simp [empty, replaced, Written.token]

/-- An attribute is written as what its text tells. -/
theorem Options.map_token_written? (options : Options engine) (name : String) (value : Value) :
    (options.written? name value).map Written.token = options.emitted? name value := by
  cases value with
  | null | number | array | node => rfl
  | boolean value => cases value <;> rfl
  | string value => exact options.token_writtenText name value

/-- A text can be read as an attribute value, if it does not have the quote in it that it goes
between. -/
theorem Options.readable_writtenText {options : Options engine} {name value : String}
    (clear : Token.ClearName name)
    (quotes : ∀ shown, options.writtenText name value = .quoted name shown →
      options.quoteStyle.quoteFor shown ∉ shown.toList) :
    (options.writtenText name value).Readable options.quoteStyle := by
  obtain ⟨shown, eq⟩ : ∃ shown, options.writtenText name value =
      if options.quotes value then if shown = "" then .marker name else .quoted name shown
      else if value = "" then .marker name else .bare name value :=
    ⟨if options.replaceQuote then withoutQuotes value else value, by
      simp [writtenText, Options.quotes]⟩
  by_cases between : options.quotes value = true
  · rw [if_pos between] at eq
    by_cases empty : shown = ""
    · rw [eq, if_pos empty]
      exact clear
    · rw [if_neg empty] at eq
      rw [eq]
      exact ⟨clear, quotes shown eq⟩
  · rw [if_neg between] at eq
    by_cases empty : value = ""
    · rw [eq, if_pos empty]
      exact clear
    · rw [eq, if_neg empty]
      exact ⟨clear, empty, not_mem_needingQuotes (by simpa using between)⟩

namespace Attributes

variable {options : Options engine} {attrs : Attributes Value}

/-- What the text of an attribute map tells, in order. -/
def emitted (options : Options engine) (attrs : Attributes Value) : List Token :=
  attrs.entries.filterMap fun entry => options.emitted? entry.1 entry.2

/-- No value that is written between quotes has the quote in it that is chosen for it. -/
def QuotesClear (options : Options engine) (attrs : Attributes Value) : Prop :=
  ∀ name value, .quoted name value ∈ attrs.written options →
    options.quoteStyle.quoteFor value ∉ value.toList

/-- The attributes of a map are written as what their texts tell. -/
theorem map_token_written (options : Options engine) (attrs : Attributes Value) :
    (attrs.written options).map Written.token = attrs.emitted options := by
  unfold written emitted
  rw [List.map_filterMap]
  exact List.filterMap_congr fun entry _ => options.map_token_written? entry.1 entry.2

/-- A written attribute comes from an entry. -/
theorem exists_entry_of_mem_written {next : Written} (mem : next ∈ attrs.written options) :
    ∃ entry ∈ attrs.entries, options.written? entry.1 entry.2 = some next :=
  List.mem_filterMap.1 mem

/-- The attributes of a map can be read. -/
theorem readable_of_mem_written (names : ∀ name ∈ attrs.names, Token.ClearName name)
    (quotes : attrs.QuotesClear options) :
    ∀ next ∈ attrs.written options, next.Readable options.quoteStyle := by
  intro next mem
  obtain ⟨⟨name, value⟩, entryMem, written⟩ := exists_entry_of_mem_written mem
  have clear : Token.ClearName name := names name (List.mem_map.2 ⟨_, entryMem, rfl⟩)
  cases value with
  | null | array | node => cases written
  | boolean value =>
    cases value with
    | false => cases written
    | true =>
      cases written
      exact clear
  | number x =>
    cases written
    exact ⟨clear, quotes _ _ mem⟩
  | string value =>
    have text : options.writtenText name value = next := Option.some.inj written
    rw [← text] at mem ⊢
    refine Options.readable_writtenText clear fun shown between => ?_
    rw [between] at mem
    exact quotes name shown mem

/-- A text that goes between quotes has no double quote in it, if those are replaced. -/
theorem not_mem_of_writtenText_eq_quoted (replaces : options.replaceQuote = true)
    {name value name' shown : String}
    (h : options.writtenText name value = .quoted name' shown) : '"' ∉ shown.toList := by
  unfold Options.writtenText at h
  simp only [replaces, if_true] at h
  split at h <;> split at h <;> cases h
  exact not_mem_withoutQuotes value

/-- If double quotes in values are replaced and the quotes around values are not single ones, no
value has the quote in it that it goes between. -/
theorem quotesClear_of_replaceQuote (replaces : options.replaceQuote = true)
    (style : options.quoteStyle = .smart ∨ options.quoteStyle = .double)
    (attrs : Attributes Value) : attrs.QuotesClear options := by
  intro name value mem
  have unquoted : '"' ∉ value.toList := by
    obtain ⟨⟨name', held⟩, -, written⟩ := exists_entry_of_mem_written mem
    cases held with
    | null | array | node => cases written
    | boolean held => cases held <;> cases written
    | number x =>
      cases written
      exact x.not_mem_text_displayed
    | string text => exact not_mem_of_writtenText_eq_quoted replaces (Option.some.inj written)
  have double : options.quoteStyle.quoteFor value = '"' := by
    unfold QuoteStyle.quoteFor
    rcases style with smart | double
    · simp [smart, unquoted]
    · rw [double]
  rwa [double]

/-- **Attribute text can be read back**, whatever the options: the reader finds what the map gives
to be written, in order. The condition on quotes always holds where double quotes are replaced and
the quotes around values are not single ones. -/
theorem readAll_text (options : Options engine) :
    (∀ attrs : Attributes Value, (∀ name ∈ attrs.names, Token.ClearName name) →
      attrs.QuotesClear options →
      Token.readAll (attrs.text options).toList = attrs.emitted options) ∧
    (options.replaceQuote = true →
      options.quoteStyle = .smart ∨ options.quoteStyle = .double →
      ∀ attrs : Attributes Value, attrs.QuotesClear options) := by
  constructor
  · intro attrs names quotes
    have readable := readable_of_mem_written names quotes
    rw [text_eq_layout, Written.readAll_layout readable, map_token_written]
  · intro replaces style attrs
    exact quotesClear_of_replaceQuote replaces style attrs

/-- Options that quote only where it is needed, choose the quote by the value, and leave out the
space between quoted attributes. -/
def spareOptions (replaceQuote : Bool) : Options .standard where
  voidTags := []
  closing := none
  quoteAll := false
  replaceQuote := replaceQuote
  quoteStyle := .smart
  removeSpace := true

/-- Attributes of all kinds: quoted with either quote, bare, markers, a number, and one that is not
written. -/
def mixedAttributes : Attributes Value :=
  ⟨[("a", .string "x y"), ("b", .string "say \"hi\""), ("hidden", .boolean true),
    ("c", .string "plain"), ("d", .null), ("e", .number (.infinite true)), ("f", .string "")]⟩

/-- The sample attributes are read back, with quotes that are kept and with quotes that are
replaced. -/
theorem readAll_text_mixedAttributes :
    (∀ name ∈ mixedAttributes.names, Token.ClearName name) ∧
    mixedAttributes.QuotesClear (spareOptions false) ∧
    Token.readAll (mixedAttributes.text (spareOptions false)).toList =
      [.pair "a" "x y", .pair "b" "say \"hi\"", .marker "hidden", .pair "c" "plain",
        .pair "e" "-Infinity", .marker "f"] ∧
    Token.readAll (mixedAttributes.text (spareOptions true)).toList =
      [.pair "a" "x y", .pair "b" "say &quot;hi&quot;", .marker "hidden", .pair "c" "plain",
        .pair "e" "-Infinity", .marker "f"] := by
  have names : ∀ name ∈ mixedAttributes.names, Token.ClearName name := by
    have clear : ∀ name : String, (name ≠ "" ∧ name.toList.all fun c => c != ' ' && c != '=') →
        Token.ClearName name := by
      rintro name ⟨nonempty, plain⟩
      exact ⟨nonempty, by simpa using plain⟩
    intro name mem
    simp only [mixedAttributes, names, List.map_cons, List.map_nil, List.mem_cons,
      List.not_mem_nil, or_false] at mem
    rcases mem with rfl | rfl | rfl | rfl | rfl | rfl | rfl <;> exact clear _ (by decide)
  have written : mixedAttributes.written (spareOptions false) =
      [.quoted "a" "x y", .quoted "b" "say \"hi\"", .marker "hidden", .bare "c" "plain",
        .quoted "e" "-Infinity", .marker "f"] := by decide
  have clear : mixedAttributes.QuotesClear (spareOptions false) := by
    intro name value mem
    rw [written] at mem
    simp only [List.mem_cons, List.not_mem_nil, or_false, Written.quoted.injEq, reduceCtorEq,
      false_or] at mem
    rcases mem with ⟨rfl, rfl⟩ | ⟨rfl, rfl⟩ | ⟨rfl, rfl⟩ <;> decide
  have replaced : mixedAttributes.QuotesClear (spareOptions true) :=
    (readAll_text (spareOptions true)).2 rfl (.inl rfl) mixedAttributes
  exact ⟨names, clear, (readAll_text (spareOptions false)).1 mixedAttributes names clear,
    (readAll_text (spareOptions true)).1 mixedAttributes names replaced⟩

end Attributes

end Markup
