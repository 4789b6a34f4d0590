import Markup.Json.Builder
import Markup.Options

/-!
# Reading options

Options are read from JSON text: an object with up to six members, each given at most once, or a
list of the same members in order. Other members are skipped, and what is not given keeps its
default. A void tag and a closing style are read completely before their meaning is looked at; the
other members are checked as they come.
-/

namespace Markup

variable {engine : Pattern.Engine}

/-! ### Members -/

/-- A member of the options. -/
inductive Options.Field
  /-- The void elements. -/
  | voidTags
  /-- The closing style. -/
  | closing
  /-- Whether all values are quoted. -/
  | quoteAll
  /-- Whether quotes are replaced. -/
  | replaceQuote
  /-- The choice of quotes. -/
  | quoteStyle
  /-- Whether space is left out. -/
  | removeSpace
deriving DecidableEq

namespace Options.Field

/-- The members, in order. -/
def all : List Field :=
  [.voidTags, .closing, .quoteAll, .replaceQuote, .quoteStyle, .removeSpace]

/-- The name of a member. -/
def name : Field → String
  | .voidTags => "singleTags"
  | .closing => "closingSingleTag"
  | .quoteAll => "quoteAllAttributes"
  | .replaceQuote => "replaceQuote"
  | .quoteStyle => "quoteStyle"
  | .removeSpace => "removeSpaceBetweenAttributes"

/-- The member of the given name. -/
def ofName? (name : String) : Option Field :=
  all.find? (·.name == name)

/-- What a datum must be to stand for the member, where this is known from its first character. Any
datum can stand for a closing style until it has been read completely. -/
def expected : Field → Expected
  | .voidTags => .sequence
  | .closing => .value
  | .quoteAll | .replaceQuote | .removeSpace => .boolean
  | .quoteStyle => .number

end Options.Field

/-! ### Members that are read completely first -/

/-- The void tag that a document stands for: a name, or an object with exactly one member
`pattern`, which is a text.
Source: `RawSingleTag` (section 10.3) -/
def VoidTag.ofJson : Json → Except Json.Fault (VoidTag engine)
  | .string word => .ok (.name word)
  | .object members =>
    match members.filter (·.1 == "pattern") with
    | [(_, .string source)] =>
      match Pattern.compile source with
      | .ok compiled => .ok (.pattern compiled)
      | .error reason => .error (.invalidPattern source reason)
    | _ => .error .notVoidTag
  | _ => .error .notVoidTag

/-- The closing style that a document stands for. Nothing, `false` and the empty word leave it
unset; words that are not known mean the default style.
Source: `closing_single_tag`, `RawClosingSingleTag` (section 10.3) -/
def Closing.ofJson : Json → Except Json.Fault (Option Closing)
  | .null => .ok none
  | .boolean false => .ok none
  | .boolean true => .ok (some .default)
  | .string "" => .ok none
  | .string "tag" => .ok (some .tag)
  | .string "slash" => .ok (some .slash)
  | .string _ => .ok (some .default)
  | _ => .error .notClosing

/-! ### Assembling options -/

/-- Options of which some members have been read. -/
structure OptionsDraft (engine : Pattern.Engine) where
  /-- The members met so far. -/
  met : List Options.Field
  /-- The options as far as they are known. -/
  options : Options engine
  /-- The member that is due. -/
  due : Options.Field
  /-- Are members given by position? -/
  byPosition : Bool

namespace OptionsDraft

/-- Nothing has been read. -/
def start (byPosition : Bool) : OptionsDraft engine :=
  ⟨[], .default, .voidTags, byPosition⟩

/-- The first member that has not been read. -/
def next? (draft : OptionsDraft engine) : Option Options.Field :=
  Options.Field.all.find? (!draft.met.contains ·)

/-- The draft with other options, once the member that was due is complete. -/
def complete (draft : OptionsDraft engine) (options : Options engine) : OptionsDraft engine :=
  let draft := { draft with met := draft.due :: draft.met, options }
  if draft.byPosition then { draft with due := draft.next?.getD draft.due } else draft

/-- Takes a scalar for the member that is due. -/
def ofScalar (draft : OptionsDraft engine) (scalar : Json.Scalar) :
    Except Json.Fault (OptionsDraft engine) :=
  match draft.due, scalar with
  | .quoteAll, .boolean value => .ok (draft.complete { draft.options with quoteAll := value })
  | .replaceQuote, .boolean value =>
    .ok (draft.complete { draft.options with replaceQuote := value })
  | .removeSpace, .boolean value => .ok (draft.complete { draft.options with removeSpace := value })
  | .quoteStyle, .number value =>
    .ok (draft.complete { draft.options with quoteStyle := .ofNumber value.toDouble })
  | field, scalar => .error (.mismatch (.kind scalar.found field.expected))

end OptionsDraft

/-- What a text about options is for. -/
inductive OptionsGoal
  /-- All options. -/
  | options
  /-- One void tag. -/
  | voidTag
deriving DecidableEq

/-- What a document that is read completely first is for. -/
inductive Purpose (engine : Pattern.Engine)
  /-- The closing style of the options. -/
  | closing (draft : OptionsDraft engine)
  /-- The next void tag in the list of the options. -/
  | listedTag (draft : OptionsDraft engine) (read : List (VoidTag engine))
  /-- A void tag on its own. -/
  | voidTag

/-- The state of reading options. -/
inductive OptionsAssembly (engine : Pattern.Engine)
  /-- Nothing has been read. -/
  | start (goal : OptionsGoal)
  /-- Among the members. -/
  | members (draft : OptionsDraft engine)
  /-- In the list of void tags; the last one read comes first. -/
  | tags (draft : OptionsDraft engine) (read : List (VoidTag engine))
  /-- Inside a document that is read completely first. -/
  | document (purpose : Purpose engine) (builder : Json.Builder)
  /-- The options are complete. -/
  | options (options : Options engine)
  /-- A void tag is complete. -/
  | voidTag (tag : VoidTag engine)

namespace OptionsAssembly

/-- Uses a document that has been read completely. -/
def use (purpose : Purpose engine) (json : Json) : Except Json.Fault (OptionsAssembly engine) :=
  match purpose with
  | .closing draft => do
    let closing ← Closing.ofJson json
    return .members (draft.complete { draft.options with closing })
  | .listedTag draft read => do return .tags draft ((← VoidTag.ofJson json) :: read)
  | .voidTag => do return .voidTag (← VoidTag.ofJson json)

/-- Goes on with a document, or uses it if it is complete. -/
def resume (purpose : Purpose engine) (builder : Json.Builder) :
    Except Json.Fault (OptionsAssembly engine) :=
  match builder.result with
  | some json => use purpose json
  | none => .ok (.document purpose builder)

/-- What the next datum is for, if it is read completely first. -/
def purpose? : OptionsAssembly engine → Option (Purpose engine × Json.Builder)
  | .start .voidTag => some (.voidTag, .start)
  | .members draft => if draft.due = .closing then some (.closing draft, .start) else none
  | .tags draft read => some (.listedTag draft read, .start)
  | .document purpose builder => some (purpose, builder)
  | _ => none

/-- Members that are truth values or numbers cannot be containers, and the void tags cannot be an
object; this is known before the nesting limit is looked at. -/
def mayEnter (a : OptionsAssembly engine) (bracket : Json.Bracket) : Except Json.Fault Unit :=
  if a.purpose?.isSome then .ok ()
  else
    match a with
    | .members draft =>
      if draft.due = .voidTags ∧ bracket = .list then .ok ()
      else .error (.mismatch (.kind bracket.found draft.due.expected))
    | _ => .ok ()

/-- A container begins. -/
def enter (a : OptionsAssembly engine) (bracket : Json.Bracket) :
    Except Json.Fault (OptionsAssembly engine) :=
  match a.purpose? with
  | some (purpose, builder) => .ok (.document purpose (builder.enter bracket))
  | none =>
    match a with
    | .start .options => .ok (.members (.start (bracket == .list)))
    | .members draft => .ok (.tags draft [])
    | a => .ok a

/-- A member begins. -/
def key (a : OptionsAssembly engine) (name : String) :
    Except Json.Fault (Option (OptionsAssembly engine)) :=
  match a with
  | .document purpose builder => .ok (some (.document purpose (builder.key name)))
  | .members draft =>
    match Options.Field.ofName? name with
    | none => .ok none
    | some field =>
      if draft.met.contains field then .error (.duplicateMember name)
      else .ok (some (.members { draft with due := field }))
  | a => .ok (some a)

/-- A scalar has been read. -/
def scalar (a : OptionsAssembly engine) (scalar : Json.Scalar) :
    Except Json.Fault (OptionsAssembly engine) :=
  match a.purpose? with
  | some (purpose, builder) => resume purpose (builder.scalar scalar)
  | none =>
    match a, scalar with
    | .members draft, scalar => do return .members (← draft.ofScalar scalar)
    | .start _, scalar => .error (.mismatch (.kind scalar.found .options))
    | a, _ => .ok a

/-- The innermost container is complete. -/
def leave (a : OptionsAssembly engine) : Except Json.Fault (OptionsAssembly engine) :=
  match a with
  | .document purpose builder => resume purpose builder.leave
  | .tags draft read =>
    .ok (.members (draft.complete { draft.options with voidTags := read.reverse }))
  | .members draft => .ok (.options draft.options)
  | a => .ok a

/-- Options written as a list take six members. -/
def full : OptionsAssembly engine → Bool
  | .members draft => draft.byPosition && draft.next?.isNone
  | _ => false

/-- How options are read. -/
def sink : Json.Sink (OptionsAssembly engine) :=
  { mayEnter, enter, key, scalar, leave, full }

/-- Reads a text about options. -/
def read (goal : OptionsGoal) (text : String) : Except Json.Fault (OptionsAssembly engine) :=
  Json.read sink (some Json.nestingLimit) (start goal) text

end OptionsAssembly

/-! ### Reading -/

/-- Reads options.
Source: `from_json` of `Options` (section 10.4) -/
def Options.read (text : String) : Except Json.Fault (Options engine) := do
  match ← OptionsAssembly.read .options text with
  | .options options => return options
  | _ => throw .endInValue

/-- Reads a void tag. -/
def VoidTag.read (text : String) : Except Json.Fault (VoidTag engine) := do
  match ← OptionsAssembly.read .voidTag text with
  | .voidTag tag => return tag
  | _ => throw .endInValue

/-- How a choice of quotes is read on its own: it is a number, and nothing else will do. -/
def QuoteStyle.sink : Json.Sink (Option QuoteStyle) where
  mayEnter _ bracket := .error (.mismatch (.kind bracket.found .number))
  enter style _ := .ok style
  key style _ := .ok (some style)
  scalar _ scalar :=
    match scalar with
    | .number value => .ok (some (.ofNumber value.toDouble))
    | scalar => .error (.mismatch (.kind scalar.found .number))
  leave style := .ok style
  full _ := false

/-- Reads a choice of quotes. -/
def QuoteStyle.read (text : String) : Except Json.Fault QuoteStyle := do
  match ← Json.read sink (some Json.nestingLimit) none text with
  | some style => return style
  | none => throw .endInValue

end Markup
