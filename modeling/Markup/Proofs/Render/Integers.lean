import Markup.Pattern.Standard
import Markup.Proofs.Double.Displayed
import Markup.Proofs.Json.SpelledText
import Markup.Proofs.Value.Exchange
import Markup.Render

/-!
# Integers pass through

An integer of at most `2^53` in size is written in a tree by its decimal digits, and the same digits
are rendered (`renderJson_integer`). On the way it becomes a double, which is exact for integers of
this size, and the double is displayed with its shortest digits. These are digits of the integer,
because no other number with as few digits is rounded to it, and the zeros that were left out at
their end are written out again (`Decimal.positionalText_of_whole`).

The last integer, `2^53`, is a case of its own: the next integer is rounded to it as well.
-/

namespace Markup

variable {engine : Pattern.Engine}

/-! ### Displaying a whole number -/

namespace Decimal

/-- Zeros at the end of the digits are factors of ten. -/
theorem toDigits_mul_ten_pow {n : Nat} (positive : 0 < n) (zeros : Nat) :
    Nat.toDigits 10 (n * 10 ^ zeros) = Nat.toDigits 10 n ++ List.replicate zeros '0' := by
  induction zeros with
  | zero => simp
  | succ zeros ih =>
    have factor : 0 < n * 10 ^ zeros := Nat.mul_pos positive (Nat.pow_pos (by decide))
    rw [Nat.pow_succ, ← Nat.mul_assoc, Nat.toDigits_of_base_le (by decide) (by omega),
      Nat.mul_div_cancel _ (by decide), Nat.mul_mod_left, ih, List.replicate_succ',
      List.append_assoc]
    rfl

/-- A decimal that is a whole number is written as the number. -/
theorem positionalText_of_whole {d : Decimal} {n : Nat} (positive : 0 < d.coefficient)
    (value : d.value = n) (whole : 0 ≤ d.exponent) : d.positionalText "" = n.repr := by
  obtain ⟨zeros, exponent, product⟩ := exists_zeros_of_whole value whole
  rw [positionalText, if_pos whole, exponent, Int.toNat_natCast, digits,
    ← toDigits_mul_ten_pow positive, product, String.append_empty]
  rfl

end Decimal

namespace Magnitude

/-- The magnitude `2^53`. -/
def lastWhole : Magnitude :=
  ⟨2 ^ 52, 1075, by omega, by omega, .inr (by omega)⟩

/-- The magnitude of a whole number up to `2^53` is displayed without an exponent. -/
theorem inPlainRange_of_whole {x : Magnitude} {n : Nat} (positive : 0 < n) (small : n ≤ 2 ^ 53)
    (whole : x.units = n * unitsPerOne) : x.InPlainRange := by
  have least : leastPlain.units ≤ unitsPerOne := by decide +kernel
  have most : 2 ^ 53 * unitsPerOne < leastScientific.units := by decide +kernel
  rw [InPlainRange, whole]
  exact ⟨least.trans (Nat.le_mul_of_pos_left _ positive),
    (Nat.mul_le_mul_right _ small).trans_lt most⟩

/-- A whole number up to `2^53` is a magnitude. -/
theorem exists_units_eq {n : Nat} (small : n ≤ 2 ^ 53) :
    ∃ x : Magnitude, x.units = n * unitsPerOne ∧ ofRatio n 1 = some x := by
  obtain ⟨x, units⟩ : ∃ x : Magnitude, x.units = n * unitsPerOne := by
    rcases Nat.lt_or_eq_of_le small with less | rfl
    · simpa using exists_whole less (Nat.zero_le 971)
    · exact ⟨lastWhole, by decide +kernel⟩
  refine ⟨x, units, ofRatio_eq_some_of_exact Nat.one_pos ?_⟩
  rw [units, Nat.mul_one]

/-- **The magnitude of a whole number up to `2^53` is displayed as the number.** -/
theorem text_shortest_of_whole {x : Magnitude} {n : Nat} (positive : 0 < n) (small : n ≤ 2 ^ 53)
    (whole : x.units = n * unitsPerOne) : (x.shortest .up).text .displayed = n.repr := by
  rcases Nat.lt_or_eq_of_le small with less | rfl
  · have nonzero := isZero_of_whole positive whole
    have positional := (positional_displayed_iff nonzero).2
      (inPlainRange_of_whole positive small whole)
    obtain ⟨value, nonneg⟩ := value_shortest_of_whole .up positive less whole
    rw [Decimal.text, if_pos positional]
    exact Decimal.positionalText_of_whole (coefficient_shortest_bounds .up nonzero).1 value nonneg
  · obtain rfl : x = lastWhole := by
      apply units_inj
      rw [whole]
      decide +kernel
    decide +kernel

end Magnitude

/-- **An integer up to `2^53` in size is displayed by its decimal digits.** -/
theorem Double.text_displayed_ofInt {n : Int} (small : n.natAbs ≤ 2 ^ 53) :
    (Double.ofInt n).text .displayed = n.repr := by
  rcases Nat.eq_zero_or_pos n.natAbs with zero | positive
  · obtain rfl := Int.natAbs_eq_zero.1 zero
    decide +kernel
  · obtain ⟨x, units, rounded⟩ := Magnitude.exists_units_eq small
    have nonzero := Magnitude.isZero_of_whole positive units
    have digits := Magnitude.text_shortest_of_whole positive small units
    have text : ((Double.ofInt n).text .displayed) =
        (if decide (n < 0) then "-" else "") ++ n.natAbs.repr := by
      rw [ofInt, rounded, ofMagnitude?, Double.text, nonzero, if_neg Bool.false_ne_true, ← digits]
      rfl
    rw [text]
    cases n with
    | ofNat m =>
      have sign : decide (Int.ofNat m < 0) = false := by simp
      rw [sign, if_neg Bool.false_ne_true]
      exact String.empty_append
    | negSucc m =>
      rw [decide_eq_true (Int.negSucc_lt_zero m), if_pos rfl]
      rfl

/-! ### Reading a document in any of its texts -/

/-- Any text of a document is read as the tree that the document is read as. -/
theorem Value.read_of_spells {json : Json} {tree : Value} {text : String}
    (spells : Json.Spells json text.toList) (reads : json.Reads tree) :
    Value.read none text = .ok tree := by
  have feeds : Json.FeedsText Assembly.sink none json text.toList :=
    Json.feedsText_of_spells spells
  have fed := feeds .value [] (.start .value) rfl [] Json.delimited_nil
  have ready : Json.Reader.start (Assembly.start .value) = .ready .value [] (.start .value) := rfl
  unfold Value.read Assembly.read
  rw [Json.Reader.read_eq_outcome, ready, ← List.append_nil text.toList, fed, List.length_nil,
    reads 0 (.start .value) (.inl rfl)]
  rfl

/-! ### Rendering -/

/-- The document of a paragraph with one attribute, an integer. -/
def Json.attributed (name : String) (n : Int) : Json :=
  .ofNode (some (.string "p")) (some (.object [(name, .number (.integer n))])) none

/-- The paragraph with one attribute, a number. -/
def Node.attributed (name : String) (x : Double) : Node Value :=
  (named "p").withAttributes (.ofList [(name, .number x)])

/-- A text of the document, for any way to write the name of the attribute. -/
theorem Json.spells_attributed {name key : String} (spelled : SpellsString name key.toList)
    {n : Int} (fits : (Number.integer n).Fits) :
    Spells (attributed name n) ("\x7b\"tag\":\"p\",\"attrs\":\x7b" ++ key ++ ":" ++ n.repr ++
      "\x7d\x7d").toList := by
  have attrs := Spells.bareObject [((key.toList, n.repr.toList), (name, .number (.integer n)))]
    (List.cons_ne_nil _ _) (by simpa using spelled) (by simpa using Spells.integer fits)
  have word : ∀ s : String, s.toList.all (Unescaped ·) = true →
      SpellsString s ('"' :: s.toList ++ ['"']) := fun _ => .of_unescaped
  have node := Spells.bareObject
    [(('"' :: "tag".toList ++ ['"'], '"' :: "p".toList ++ ['"']), ("tag", .string "p")),
      (('"' :: "attrs".toList ++ ['"'], _), ("attrs", .object [(name, .number (.integer n))]))]
    (List.cons_ne_nil _ _)
    (by simpa using ⟨word "tag" (by decide), word "attrs" (by decide)⟩)
    (by simpa using ⟨.string (word "p" (by decide)), attrs⟩)
  simpa [attributed, ofNode, member?, Bracket.around, Bracket.opening, Bracket.closing] using node

/-- The document is read as the paragraph. -/
theorem Json.reads_attributed {name : String} {n : Int} (fits : (Number.integer n).Fits) :
    (Json.attributed name n).Reads (.node (.attributed name (.ofInt n))) := by
  have value : (Json.number (.integer n)).Reads (.number (.ofInt n)) :=
    Json.reads_number (Number.reread_of_fits fits)
  exact Json.reads_ofNode (.some (Assembly.fills_tag (.name "p")))
    (.some (Assembly.fills_attrs (.cons ⟨rfl, value⟩ .nil))) .none

/-- How the paragraph renders. -/
theorem Node.markup_attributed (name : String) (x : Double) :
    (Value.node (attributed name x)).markup (.default : Options engine) =
      "<p " ++ name ++ "=\"" ++ x.text .displayed ++ "\"></p>" := by
  have element : (attributed name x).isTransparent = false := rfl
  have ordinary : (Options.default : Options engine).isVoid (attributed name x).name = false := by
    have builtin : Options.builtinVoidTags.contains "p" = false := by decide
    change (Options.builtinVoidTags.contains "p" || false) = false
    rw [builtin, Bool.or_false]
  have text : (attributed name x).attrs.map (·.text (.default : Options engine)) =
      some (" " ++ (name ++ "=" ++ "\"" ++ x.text .displayed ++ "\"") ++ "") :=
    congrArg some (Attributes.text_eq_layout _ _)
  rw [Value.markup_of_not_isTransparent _ element, enclose_eq, ordinary, text,
    ← String.toList_inj]
  simp [attributed, named, withAttributes, Node.name, Options.default]

/-- An integer renders as its double is displayed. -/
theorem Value.markup_ofInt (n : Int) (options : Options engine) :
    (Value.number (.ofInt n)).markup options = (Double.ofInt n).text .displayed := by
  have number : (Double.ofInt n).isNaN = false := by
    rw [Double.ofInt]
    cases Magnitude.ofRatio n.natAbs 1 <;> rfl
  rw [markup, number, if_neg Bool.false_ne_true]

/-- Rendering a text of a document with the default options. -/
theorem renderJson_of_spells {json : Json} {tree : Value} {text : String}
    (spells : Json.Spells json text.toList) (reads : json.Reads tree) :
    renderJson engine text none = .ok (tree.markup (.default : Options engine)) := by
  rw [renderJson, Value.read_of_spells spells reads, ← Value.render_eq_markup]
  rfl

/-- **Integers up to `2^53` in size pass through.** The digits of such an integer render as they
are, and so they do as the value of an attribute, whatever its name is and however the name is
written. -/
theorem renderJson_integer {n : Int} (small : n.natAbs ≤ 2 ^ 53) :
    renderJson engine n.repr none = .ok n.repr ∧
    ∀ name : String, Json.SpellsString name (Json.quoted name).toList ∧
      ∀ key : String, Json.SpellsString name key.toList →
        renderJson engine
          ("\x7b\"tag\":\"p\",\"attrs\":\x7b" ++ key ++ ":" ++ n.repr ++ "\x7d\x7d") none =
          .ok ("<p " ++ name ++ "=\"" ++ n.repr ++ "\"></p>") := by
  have fits : (Json.Number.integer n).Fits := by
    rw [Json.Number.Fits]
    omega
  have digits := Double.text_displayed_ofInt small
  refine ⟨?_, fun name => ⟨Json.spellsString_quoted name, fun key spelled => ?_⟩⟩
  · have reads : (Json.number (.integer n)).Reads (.number (.ofInt n)) :=
      Json.reads_number (Json.Number.reread_of_fits fits)
    rw [renderJson_of_spells (.integer fits) reads, Value.markup_ofInt, digits]
  · rw [renderJson_of_spells (Json.spells_attributed spelled fits) (Json.reads_attributed fits),
      Node.markup_attributed, digits]

/-- The least of these integers, as it is and as the value of an attribute whose name has a quote in
it. -/
theorem renderJson_integer_least :
    (-2 ^ 53 : Int).natAbs ≤ 2 ^ 53 ∧
      renderJson .standard "-9007199254740992" none = .ok "-9007199254740992" ∧
      Json.SpellsString "a\"b" "\"a\\\"b\"".toList ∧
      renderJson .standard
        "\x7b\"tag\":\"p\",\"attrs\":\x7b\"a\\\"b\":-9007199254740992\x7d\x7d" none =
        .ok "<p a\"b=\"-9007199254740992\"></p>" := by
  have small : (-2 ^ 53 : Int).natAbs ≤ 2 ^ 53 := by decide
  have digits : (-2 ^ 53 : Int).repr = "-9007199254740992" := by decide +kernel
  have key : Json.quoted "a\"b" = "\"a\\\"b\"" := by decide +kernel
  obtain ⟨alone, named⟩ := @renderJson_integer .standard _ small
  obtain ⟨spelled, rendered⟩ := named "a\"b"
  rw [key] at spelled
  have element := rendered _ spelled
  rw [digits] at alone element
  exact ⟨small, alone, spelled, element⟩

end Markup
