import Markup.Options
import Markup.Value

/-!
# Attribute text

The attributes of a map are written one after another, and attributes whose value is of a kind that
is not written are dropped on the way. What an attribute looks like depends on its value alone
(`Options.written?`): the value `true` and the empty text give a mere name, numbers are always
quoted, and texts are quoted if the options or their characters ask for it. The space before an
attribute depends on the attribute written last, which is carried past those that are dropped
(`Attributes.Progress`).

* `Attributes.text_eq_layout`: the text is made of the attributes that are written, each with the
  space that the one before it calls for.
* `Attributes.dropped_eq_filter`: the other attributes are reported, in order.
-/

namespace Markup

variable {engine : Pattern.Engine}

/-- How an attribute is written.
Source: the branches of `write_attributes` (section 4.4) -/
inductive Written
  /-- The name alone. -/
  | marker (name : String)
  /-- The name and the value as it is. -/
  | bare (name value : String)
  /-- The name and the value between quotes. -/
  | quoted (name value : String)
deriving DecidableEq

namespace Written

/-- Is the value between quotes? -/
def isQuoted : Written → Bool
  | .quoted _ _ => true
  | _ => false

/-- The text of an attribute, without the space before it.
Source: `write_bare`, `write_quoted` -/
def text (style : QuoteStyle) : Written → String
  | .marker name => name
  | .bare name value => name ++ "=" ++ value
  | .quoted name value =>
    let quote := String.singleton (style.quoteFor value)
    name ++ "=" ++ quote ++ value ++ quote

/-- The space before an attribute. Between two quoted attributes it can be left out.
Source: `write_quoted` (section 10.6) -/
def space (options : Options engine) (afterQuoted : Bool) (next : Written) : String :=
  if options.removeSpace && afterQuoted && next.isQuoted then "" else " "

/-- The attributes behind each other, each with the space before it. -/
def layout (options : Options engine) : (afterQuoted : Bool) → List Written → String
  | _, [] => ""
  | afterQuoted, next :: rest =>
    space options afterQuoted next ++ next.text options.quoteStyle ++
      layout options next.isQuoted rest

end Written

/-- The characters that make a value need quotes.
Source: `QUOTES_REQUIRED` -/
def needingQuotes : List Char :=
  ['\t', '\n', '\x0c', '\r', ' ', '"', '\'', '`', '=', '<', '>']

/-- Does a value need quotes?
Source: `requires_quotes` (section 4.4) -/
def requiresQuotes (value : String) : Bool :=
  value.toList.any needingQuotes.contains

/-- A text with its double quotes replaced by references. -/
def withoutQuotes (value : String) : String :=
  String.ofList (value.toList.flatMap fun c =>
    if c = '"' then ['&', 'q', 'u', 'o', 't', ';'] else [c])

namespace Options

/-- How a text is written as an attribute value. -/
def writtenText (options : Options engine) (name value : String) : Written :=
  if options.quoteAll || requiresQuotes value then
    let value := if options.replaceQuote then withoutQuotes value else value
    if value.isEmpty then .marker name else .quoted name value
  else if value.isEmpty then .marker name
  else .bare name value

/-- How an attribute is written; `none` if it is not. -/
def written? (options : Options engine) (name : String) : Value → Option Written
  | .boolean true => some (.marker name)
  | .number value => some (.quoted name (value.text .displayed))
  | .string value => some (options.writtenText name value)
  | _ => none

end Options

namespace Attributes

/-! ### The loop -/

/-- How far the writing of an attribute map has come.
Source: the state of the loop in `write_attributes`, with the events that it traces -/
structure Progress where
  /-- The text so far. -/
  output : String
  /-- The attribute written last, if one has been written. -/
  previous : Option Written
  /-- The attributes that were not written, in order. -/
  dropped : List (String × Value)

/-- Writes an attribute, or drops it. An attribute that is dropped leaves no trace in the text, and
the attribute written last stays the same. -/
def Progress.next (options : Options engine) (progress : Progress) (entry : String × Value) :
    Progress :=
  match options.written? entry.1 entry.2 with
  | some written =>
    { progress with
      output := progress.output ++
        Written.space options (progress.previous.any (·.isQuoted)) written ++
        written.text options.quoteStyle
      previous := some written }
  | none => { progress with dropped := progress.dropped ++ [entry] }

/-- Writes the attributes of a map, one after another.
Source: `write_attributes` (section 4.4) -/
def write (options : Options engine) (attrs : Attributes Value) : Progress :=
  attrs.entries.foldl (Progress.next options) ⟨"", none, []⟩

/-- The text that follows the name in a start tag, with the space before every attribute.
Source: `format_attributes` (section 10.4) -/
def text (options : Options engine) (attrs : Attributes Value) : String :=
  (attrs.write options).output

/-- The attributes that are not written, in order. -/
def dropped (options : Options engine) (attrs : Attributes Value) : List (String × Value) :=
  (attrs.write options).dropped

/-! ### What the loop leads to -/

/-- The attributes that are written, in order. -/
def written (options : Options engine) (attrs : Attributes Value) : List Written :=
  attrs.entries.filterMap fun entry => options.written? entry.1 entry.2

variable (options : Options engine)

/-- From any point on, the loop adds the attributes that are written, and the first of them comes
after the one written last before. -/
theorem foldl_next_output (entries : List (String × Value)) (progress : Progress) :
    (entries.foldl (Progress.next options) progress).output =
      progress.output ++ Written.layout options (progress.previous.any (·.isQuoted))
        (written options ⟨entries⟩) := by
  induction entries generalizing progress with
  | nil => simp [written, Written.layout]
  | cons entry entries ih =>
    rw [List.foldl_cons, ih]
    cases next : options.written? entry.1 entry.2 with
    | none => simp [Progress.next, written, next]
    | some first =>
      simp [Progress.next, written, next, Written.layout, String.append_assoc]

/-- From any point on, the loop drops the attributes that are not written. -/
theorem foldl_next_dropped (entries : List (String × Value)) (progress : Progress) :
    (entries.foldl (Progress.next options) progress).dropped =
      progress.dropped ++
        entries.filter fun entry => (options.written? entry.1 entry.2).isNone := by
  induction entries generalizing progress with
  | nil => simp
  | cons entry entries ih =>
    rw [List.foldl_cons, ih]
    cases next : options.written? entry.1 entry.2 with
    | none => simp [Progress.next, next]
    | some first => simp [Progress.next, next]

/-- **The text of an attribute map** is made of the attributes that are written, each with the space
that the one written before it calls for. -/
theorem text_eq_layout (attrs : Attributes Value) :
    attrs.text options = Written.layout options false (attrs.written options) := by
  rw [text, write, foldl_next_output]
  simp

/-- The attributes that are not written are dropped. -/
theorem dropped_eq_filter (attrs : Attributes Value) :
    attrs.dropped options =
      attrs.entries.filter fun entry => (options.written? entry.1 entry.2).isNone := by
  rw [dropped, write, foldl_next_dropped, List.nil_append]

end Attributes

end Markup
