import Markup.Datum
import Markup.Render
import Markup.Render.Meaning
import Markup.Value.Document
import Markup.Proofs.Render.Laws
import Markup.Proofs.Json.Feeding
import Markup.Proofs.Json.ReadBack
import Markup.Proofs.Value.Assembling
import Markup.Proofs.Attributes
import Markup.Proofs.Value.Exchange
import Markup.Proofs.Render.Exchange
import Markup.Proofs.Render.AttributeText
import Markup.Proofs.Render.AttributeTokens
import Markup.Proofs.Render.Unambiguous
import Markup.Proofs.Render.FlatForm
import Markup.Proofs.Json.Integers
import Markup.Proofs.Value.Acceptance
import Markup.Proofs.Json.Nesting
import Markup.Proofs.Value.Nesting
import Markup.Proofs.Render.Equality
import Markup.Proofs.Render.Events
import Markup.Proofs.Double.Rounding
import Markup.Proofs.Double.Shortest
import Markup.Proofs.Json.Decimals
import Markup.Proofs.Value.Numbers
import Markup.Proofs.Json.Spelling
import Markup.Proofs.Json.SpelledText
import Markup.Proofs.Options.Settings
import Markup.Proofs.Options.Descriptions
import Markup.Proofs.Double.Range
import Markup.Proofs.Render.Elements
import Markup.Proofs.Render.UnquotedValues
import Markup.Proofs.Render.OptionEffects
import Markup.Proofs.Double.Nearest
import Markup.Proofs.Double.Displayed
import Markup.Proofs.Render.Pushing
import Markup.Proofs.Json.StateInvariants
import Markup.Proofs.Value.NormalForm
import Markup.Proofs.Render.Integers
import Markup.Proofs.Value.AttributeMaps
import Markup.Proofs.Render.Separators
import Markup.Proofs.Render.QuoteStyles
import Markup.Proofs.Render.Invisible
