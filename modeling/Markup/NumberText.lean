import Markup.Decimal

/-!
# Number text

A number is written in one of three styles, which differ in a handful of decisions and share the
digits. A `NumberStyle` holds the decisions and `Double.text` carries them out.

* `NumberStyle.displayed`: the text of a number in rendered output.
* `NumberStyle.exchanged`: the text of a number in written JSON, always recognisable as a fraction.
* `NumberStyle.reported`: the text of a number in a message about an unexpected datum.
-/

namespace Markup

/-- How numbers are written. -/
structure NumberStyle where
  /-- Which of two equally near shortest decimals is chosen. -/
  tie : Tie
  /-- Is a number whose first digit stands at this power of ten written without an exponent? -/
  positional : Int → Bool
  /-- The decimals of a whole number in positional form. -/
  wholeSuffix : String
  /-- Is the sign of a negative zero written? -/
  signedZero : Bool
  /-- The text of a NaN. -/
  nan : String
  /-- The texts of the infinities, by sign. -/
  infinite : Bool → String

namespace NumberStyle

/-- Rendered numbers are positional from `10^(-6)` up to, but not including, `10^21`.
Source: `format_number` (section 10.2) -/
def displayed : NumberStyle where
  tie := .up
  positional place := decide (-6 ≤ place ∧ place < 21)
  wholeSuffix := ""
  signedZero := false
  nan := "NaN"
  infinite negative := if negative then "-Infinity" else "Infinity"

/-- Numbers in JSON are positional from `10^(-5)` up to, but not including, `10^16`, and keep at
least one decimal. There is no text for a number that is not finite, so it becomes `null`. -/
def exchanged : NumberStyle where
  tie := .even
  positional place := decide (-5 ≤ place ∧ place < 16)
  wholeSuffix := ".0"
  signedZero := true
  nan := "null"
  infinite _ := "null"

/-- Numbers in messages about a datum never have an exponent. -/
def reported : NumberStyle where
  tie := .up
  positional _ := true
  wholeSuffix := ".0"
  signedZero := true
  nan := "NaN"
  infinite negative := if negative then "-inf" else "inf"

end NumberStyle

namespace Decimal

/-- The decimal without an exponent; a whole number is followed by `wholeSuffix`. -/
def positionalText (wholeSuffix : String) (d : Decimal) : String :=
  if 0 ≤ d.exponent then
    String.ofList (d.digits ++ List.replicate d.exponent.toNat '0') ++ wholeSuffix
  else if 0 ≤ d.leading then
    let whole := d.leading.toNat + 1
    String.ofList (d.digits.take whole ++ '.' :: d.digits.drop whole)
  else
    String.ofList ('0' :: '.' :: (List.replicate (-d.leading - 1).toNat '0' ++ d.digits))

/-- The decimal in scientific form, its exponent always signed. -/
def scientificText (d : Decimal) : String :=
  let mantissa :=
    match d.digits with
    | first :: second :: rest => first :: '.' :: second :: rest
    | digits => digits
  let sign := if d.leading < 0 then '-' else '+'
  String.ofList (mantissa ++ 'e' :: sign :: Nat.toDigits 10 d.leading.natAbs)

/-- The decimal as the style has it. -/
def text (style : NumberStyle) (d : Decimal) : String :=
  if style.positional d.leading then d.positionalText style.wholeSuffix else d.scientificText

end Decimal

/-- The text of a number in the given style. -/
def Double.text (style : NumberStyle) : Double → String
  | .nan => style.nan
  | .infinite negative => style.infinite negative
  | .finite negative magnitude =>
    if magnitude.isZero then
      (if negative && style.signedZero then "-0" else "0") ++ style.wholeSuffix
    else
      (if negative then "-" else "") ++ (magnitude.shortest style.tie).text style

end Markup
