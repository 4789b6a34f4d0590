import Markup.Double
import Markup.Pattern

/-!
# Rendering options

The options say which elements are void, how elements without content are closed, and how
attributes are quoted and spaced.

Void elements are named one by one or described by patterns. The first pattern takes over
completely: from then on neither the configured names nor the built-in list count
(`Options.isVoid`).
-/

namespace Markup

/-- A description of void elements.
Source: `SingleTag` (section 10.3) -/
inductive VoidTag (engine : Pattern.Engine)
  /-- The elements of this name. -/
  | name (name : String)
  /-- The elements whose name the pattern matches. -/
  | pattern (pattern : Pattern engine)
deriving DecidableEq

/-- How elements without content are closed.
Source: `ClosingSingleTag` (section 10.3) -/
inductive Closing
  /-- By an end tag. -/
  | tag
  /-- By a slash in the start tag. -/
  | slash
  /-- As markup does by default. -/
  | default
deriving DecidableEq

/-- How the quote around an attribute value is chosen.
Source: `QuoteStyle` (section 10.3) -/
inductive QuoteStyle
  /-- A double quote, unless the value contains one. -/
  | smart
  /-- Always a single quote. -/
  | single
  /-- Always a double quote. -/
  | double
deriving DecidableEq

namespace QuoteStyle

/-- The style of a number: one and two stand for the fixed quotes.
Source: the conversions of `QuoteStyle` from numbers (section 10.3) -/
def ofNumber (number : Double) : QuoteStyle :=
  if number.numEq (.ofInt 1) then .single
  else if number.numEq (.ofInt 2) then .double
  else .smart

/-- The style of a small code: one and two stand for the fixed quotes. -/
def ofCode : Nat → QuoteStyle
  | 1 => .single
  | 2 => .double
  | _ => .smart

/-- The quote to put around a value.
Source: `quote_for` (section 4.4) -/
def quoteFor (style : QuoteStyle) (value : String) : Char :=
  match style with
  | .single => '\''
  | .double => '"'
  | .smart => if value.toList.contains '"' then '\'' else '"'

end QuoteStyle

/-- How a tree is rendered.
Source: `Options` (sections 3 and 10.3) -/
structure Options (engine : Pattern.Engine) where
  /-- Void elements besides the built-in ones, or instead of them. -/
  voidTags : List (VoidTag engine)
  /-- How elements without content are closed, if the options say so. -/
  closing : Option Closing
  /-- Are all attribute values quoted, or only those that need it? -/
  quoteAll : Bool
  /-- Are double quotes in quoted values replaced by a reference? -/
  replaceQuote : Bool
  /-- How the quote around a value is chosen. -/
  quoteStyle : QuoteStyle
  /-- Is the space between two quoted attributes left out? -/
  removeSpace : Bool
deriving DecidableEq

namespace Options

variable {engine : Pattern.Engine}

/-- The options of a caller that gives none.
Source: `Default` for `Options` -/
def default : Options engine where
  voidTags := []
  closing := none
  quoteAll := true
  replaceQuote := true
  quoteStyle := .double
  removeSpace := false

/-! ### Settings -/

/-- A single setting.
Source: `with_single_tags` and the other builder methods (section 10.3) -/
inductive Setting (engine : Pattern.Engine)
  /-- Replaces the list of void elements. -/
  | voidTags (tags : List (VoidTag engine))
  /-- Sets how elements without content are closed. -/
  | closing (closing : Closing)
  /-- Sets whether all attribute values are quoted. -/
  | quoteAll (value : Bool)
  /-- Sets whether double quotes in values are replaced. -/
  | replaceQuote (value : Bool)
  /-- Sets how the quote is chosen. -/
  | quoteStyle (style : QuoteStyle)
  /-- Sets whether the space between quoted attributes is left out. -/
  | removeSpace (value : Bool)

/-- The options after a setting. -/
def apply (options : Options engine) : Setting engine → Options engine
  | .voidTags tags => { options with voidTags := tags }
  | .closing closing => { options with closing := some closing }
  | .quoteAll value => { options with quoteAll := value }
  | .replaceQuote value => { options with replaceQuote := value }
  | .quoteStyle style => { options with quoteStyle := style }
  | .removeSpace value => { options with removeSpace := value }

/-- The options after settings made one after another. -/
def ofSettings (settings : List (Setting engine)) : Options engine :=
  settings.foldl apply default

/-! ### Void elements -/

/-- The elements that are void unless a pattern is configured.
Source: the built-in list of the policy (section 4.3) -/
def builtinVoidTags : List String :=
  ["wxs", "input", "textarea", "image", "audio", "video", "icon", "progress", "rich-text",
    "checkbox", "radio", "slider", "switch", "live-player", "live-pusher", "voip-room", "canvas",
    "ad", "ad-custom", "official-account", "open-data", "web-view"]

/-- The configured names, in order and with repetitions. -/
def names (options : Options engine) : List String :=
  options.voidTags.filterMap fun
    | .name name => some name
    | .pattern _ => none

/-- The configured patterns, in order. -/
def patterns (options : Options engine) : List (Pattern engine) :=
  options.voidTags.filterMap fun
    | .name _ => none
    | .pattern pattern => some pattern

/-- Is any pattern configured? -/
def hasPatterns (options : Options engine) : Bool :=
  !options.patterns.isEmpty

/-- Is an element of this name void?
Source: `is_single` (section 4.3) -/
def isVoid (options : Options engine) (name : String) : Bool :=
  if options.hasPatterns then options.patterns.any (·.occursIn name)
  else builtinVoidTags.contains name || options.names.contains name

end Options

end Markup
