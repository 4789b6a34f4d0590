import Markup.Proofs.Json.Spelling

/-!
# Reading any spelling of a document

What a reader hands to its sink depends on the document and not on how it is spelled: reading any
text of a document comes to feeding the document (`feedsText_of_spells`). A value that is skipped
only has to be well formed (`passes_of_wellFormed`).

Blank space between lexemes changes nothing (`Reader.outcome_blank`), so the arguments are those
for a text without any. The parts of a container are gone through by one induction,
`Reader.outcome_separated`, whatever is done with them.
-/

namespace Markup.Json

/-- What is due where a part of a container may begin, be it the first one or one after a comma. -/
def Bracket.due : Bracket → Bool → Place
  | bracket, true => .first bracket
  | .list, false => .item
  | .object, false => .name

/-- In a list, a value can come first and after a comma. -/
theorem Bracket.takesValue_due_list (first : Bool) :
    (Bracket.list.due first).takesValue = true := by
  cases first <;> rfl

/-- In an object, a name is due first and after a comma. -/
theorem Bracket.due_object (first : Bool) :
    Bracket.object.due first = .name ∨ Bracket.object.due first = .first .object := by
  cases first <;> simp [due]

namespace Reader

variable {σ : Type} {sink : Sink σ} {limit : Option Nat}

/-! ### Lexemes -/

/-- Blank space between lexemes is passed over. -/
theorem outcome_blank {r : Reader σ} {place : Place} (phase : r.phase = .between place)
    {blank : List Char} (h : Blank blank) (rest : List Char) :
    r.outcome sink limit (blank ++ rest) = r.outcome sink limit rest := by
  induction blank with
  | nil => rfl
  | cons c blank ih =>
    have stays : r.step sink limit c = .ok r := by
      obtain ⟨_, enclosing, skipping, state⟩ := r
      obtain rfl := phase
      simp [step, takeBetween, h c List.mem_cons_self, awaiting]
    rw [List.cons_append, outcome_of_step stays]
    apply ih
    intro c' mem
    exact h c' (List.mem_cons_of_mem c mem)

/-- A string that a quotation takes is taken as what the quotation has read. -/
theorem outcome_stringText {r : Reader σ} {place : Place} (phase : r.phase = .between place)
    (takes : place.takesValue = true) {inside : List Char} {q : Quotation}
    (scanned : (Quotation.start r.lax).scan inside = some q) (plain : q.spot = .plain)
    (rest : List Char) :
    r.outcome sink limit ('"' :: inside ++ ['"'] ++ rest) =
      r.takeScalar sink (.string q.text) >>= fun r => r.outcome sink limit rest := by
  have opening : r.step sink limit '"' = .ok { r with phase := .text (.start r.lax) } :=
    step_of_takesValue phase takes rfl (by decide)
  have closing : q.step '"' = .ok none := by
    simp [Quotation.step, plain]
  rw [List.cons_append, List.cons_append, List.append_assoc, outcome_of_step opening,
    outcome_scan (.inl rfl) r scanned, List.singleton_append, outcome_cons,
    ← takeScalar_withPhase r (.text q)]
  simp only [step, closing]
  rfl

/-- A name that a quotation takes is taken as what the quotation has read. -/
theorem outcome_nameText {r : Reader σ} {place : Place} (phase : r.phase = .between place)
    (takes : place = .name ∨ place = .first .object) {inside : List Char} {q : Quotation}
    (scanned : (Quotation.start r.lax).scan inside = some q) (plain : q.spot = .plain)
    (rest : List Char) :
    r.outcome sink limit ('"' :: inside ++ ['"'] ++ rest) =
      r.takeName sink q.text >>= fun r => r.outcome sink limit rest := by
  have opening : r.step sink limit '"' = .ok { r with phase := .key (.start r.lax) } := by
    rcases takes with rfl | rfl <;> simp [step, phase, takeBetween, isBlank]
  have closing : q.step '"' = .ok none := by
    simp [Quotation.step, plain]
  have ended : ({ r with phase := .key q }).takeName sink q.text = r.takeName sink q.text := rfl
  rw [List.cons_append, List.cons_append, List.append_assoc, outcome_of_step opening,
    outcome_scan (.inr rfl) r scanned, List.singleton_append, outcome_cons, ← ended]
  simp only [step, closing]
  rfl

/-- The quotation of a string that stands for a text. -/
theorem scan_of_spellsString {s : String} {inside : List Char}
    (written : SpellsText s.toList inside) :
    ∃ q, (Quotation.start false).scan inside = some q ∧ q.spot = .plain ∧ q.text = s := by
  have scanned := Quotation.scan_of_spellsText (q := .start false) rfl rfl written
  refine ⟨_, scanned, rfl, ?_⟩
  simp [Quotation.text, Quotation.start]

/-! ### Parts of a container -/

/-- **Parts divided by commas are taken one after another.** The reader is at `due` where a part may
begin, be it the first one or one after a comma, and at `next` after a part; each part has an effect
on what is known. -/
theorem outcome_separated {τ : Type} {due : Bool → τ → Reader σ} {next : τ → Reader σ}
    (comma : ∀ t rest,
      (next t).outcome sink limit (',' :: rest) = (due false t).outcome sink limit rest)
    {parts : List (List Char × (τ → Except Fault τ))}
    (acts : ∀ p ∈ parts, ∀ first t rest, Delimited rest →
      (due first t).outcome sink limit (p.1 ++ rest) =
        p.2 t >>= fun t => (next t).outcome sink limit rest)
    (nonempty : parts ≠ []) (first : Bool) (t : τ) {rest : List Char} (delimited : Delimited rest) :
    (due first t).outcome sink limit ([','].intercalate (parts.map Prod.fst) ++ rest) =
      parts.foldlM (fun t p => p.2 t) t >>= fun t => (next t).outcome sink limit rest := by
  induction parts generalizing first t with
  | nil => exact absurd rfl nonempty
  | cons p parts ih =>
    have here := acts p List.mem_cons_self first t
    rw [List.foldlM_cons, bind_assoc]
    cases parts with
    | nil =>
      rw [List.map_singleton, List.intercalate_singleton, here rest delimited]
      rfl
    | cons p' parts =>
      have others := ih (fun q mem => acts q (List.mem_cons_of_mem p mem)) (List.cons_ne_nil _ _)
        false
      simp only [List.map_cons, List.intercalate_cons_cons, List.append_assoc,
        List.singleton_append] at others ⊢
      rw [List.cons_append, here _ (delimited_cons (.inl rfl) _)]
      refine bind_congr fun t => ?_
      rw [comma]
      exact others t

/-- Parts that have no effect are passed over. -/
theorem outcome_separated_of_passes {due : Bool → Reader σ} {next : Reader σ}
    (comma : ∀ rest, next.outcome sink limit (',' :: rest) = (due false).outcome sink limit rest)
    {parts : List (List Char)}
    (passes : ∀ p ∈ parts, ∀ first rest, Delimited rest →
      (due first).outcome sink limit (p ++ rest) = next.outcome sink limit rest)
    (nonempty : parts ≠ []) (first : Bool) {rest : List Char} (delimited : Delimited rest) :
    (due first).outcome sink limit ([','].intercalate parts ++ rest) =
      next.outcome sink limit rest := by
  have silent : ∀ p ∈ parts.map fun p => (p, (pure : Unit → Except Fault Unit)),
      ∀ first t rest, Delimited rest → (due first).outcome sink limit (p.1 ++ rest) =
        p.2 t >>= fun _ => next.outcome sink limit rest := by
    intro p mem first t rest delimited
    obtain ⟨text, text_mem, rfl⟩ := List.mem_map.1 mem
    exact passes text text_mem first rest delimited
  have all := @outcome_separated σ sink limit Unit (fun first _ => due first) (fun _ => next)
    (fun _ rest => comma rest) _ silent (by simpa using nonempty) first () rest delimited
  rw [List.map_map, List.foldlM_map, List.foldlM_pure] at all
  simpa [Function.comp_def] using all

end Reader

/-! ### Skipping a value -/

section

variable {σ : Type} (sink : Sink σ) (limit : Option Nat)

/-- The text is skipped where a value of a member that is turned down may begin. -/
def Passes (text : List Char) : Prop :=
  ∀ (place : Place) (outer brackets : List Bracket) (state : σ), place.takesValue = true →
    ∀ rest, Delimited rest →
    (Reader.passing place (.object :: outer) brackets state).outcome sink limit (text ++ rest) =
      (Reader.passed (.object :: outer) state brackets).outcome sink limit rest

variable {sink limit}

/-- Blank space before it does not change what ends a lexeme. -/
theorem delimited_blank_append {blank rest : List Char} (h : Blank blank)
    (delimited : Delimited rest) : Delimited (blank ++ rest) := by
  cases blank with
  | nil => exact delimited
  | cons c blank =>
    intro c' first
    obtain rfl : c = c' := by simpa using first
    exact .inl (h c List.mem_cons_self)

/-- Blank space around a value is skipped with it. -/
theorem Passes.padded {p : Padded} (h : Passes sink limit p.text) :
    Passes sink limit p.chars := by
  intro place outer brackets state takes rest delimited
  rw [Padded.chars, List.append_assoc, List.append_assoc, Reader.outcome_blank rfl p.blank_before,
    h place outer brackets state takes _ (delimited_blank_append p.blank_after delimited),
    Reader.outcome_blank (Reader.phase_passed outer brackets state) p.blank_after]

/-- A container begins while a value is skipped. -/
theorem outcome_passingOpening (bracket : Bracket) {place : Place}
    (takes : place.takesValue = true) (enclosing brackets : List Bracket) (state : σ)
    (rest : List Char) :
    (Reader.passing place enclosing brackets state).outcome sink limit (bracket.opening :: rest) =
      (Reader.passing (.first bracket) enclosing (bracket :: brackets) state).outcome sink limit
        rest := by
  apply Reader.outcome_of_step
  cases bracket with
  | list => exact Reader.step_of_takesValue rfl takes rfl (by decide)
  | object => exact Reader.step_of_takesValue rfl takes rfl (by decide)

/-- A string is skipped, whether or not it stands for a text. -/
theorem passes_string {inside : List Char} (h : Quotable inside) :
    Passes sink limit ('"' :: inside ++ ['"']) := by
  intro place outer brackets state takes rest _
  obtain ⟨q, scanned, plain⟩ := Quotation.scan_of_quotable (q := .start true) rfl rfl h
  rw [Reader.outcome_stringText (r := .passing place (.object :: outer) brackets state) rfl takes
    scanned plain, ← Reader.completed_passing place]
  rfl

/-- A name, a colon and a value are skipped. -/
theorem outcome_passingMember {member : Padded × Padded} {inside : List Char}
    (quotable : Quotable inside) (name : member.1.text = '"' :: inside ++ ['"'])
    (value : Passes sink limit member.2.text) {place : Place}
    (takes : place = .name ∨ place = .first .object) (outer brackets : List Bracket) (state : σ)
    {rest : List Char} (delimited : Delimited rest) :
    (Reader.passing place (.object :: outer) (.object :: brackets) state).outcome sink limit
        (memberText member ++ rest) =
      (Reader.passing (.next .object) (.object :: outer) (.object :: brackets) state).outcome sink
        limit rest := by
  obtain ⟨q, scanned, plain⟩ := Quotation.scan_of_quotable (q := .start true) rfl rfl quotable
  have colon : (Reader.passing .colon (.object :: outer) (.object :: brackets) state).step sink
      limit ':' = .ok (.passing .value (.object :: outer) (.object :: brackets) state) := rfl
  have text : memberText member ++ rest = member.1.before ++ ('"' :: inside ++ ['"'] ++
      (member.1.after ++ ':' :: (member.2.chars ++ rest))) := by
    simp [memberText, Padded.chars, name]
  rw [text, Reader.outcome_blank rfl member.1.blank_before,
    Reader.outcome_nameText (r := .passing place (.object :: outer) (.object :: brackets) state)
      rfl takes scanned plain]
  change (Reader.passing .colon (.object :: outer) (.object :: brackets) state).outcome sink limit
    (member.1.after ++ ':' :: (member.2.chars ++ rest)) = _
  rw [Reader.outcome_blank rfl member.1.blank_after, Reader.outcome_of_step colon]
  exact value.padded .value outer (.object :: brackets) state rfl rest delimited

/-- **Whatever is well formed is skipped.** -/
theorem passes_of_wellFormed {text : List Char} (h : WellFormed text) :
    Passes sink limit text := by
  induction h with
  | word h =>
    simp only [List.mem_cons, List.not_mem_nil, or_false] at h
    have null : Passes sink limit Json.null.compact.toList := skips .null
    have yes : Passes sink limit (Json.boolean true).compact.toList := skips (.boolean true)
    have no : Passes sink limit (Json.boolean false).compact.toList := skips (.boolean false)
    simp only [compact, ↓reduceIte, Bool.false_eq_true] at null yes no
    rcases h with rfl | rfl | rfl
    · exact null
    · exact yes
    · exact no
  | numeral h =>
    obtain ⟨stage, numeral, scanned, complete⟩ := scanNumeral_of_isNumeral h
    intro place outer brackets state takes rest delimited
    exact outcome_passingNumeral scanned complete takes outer brackets state delimited
  | string h => exact passes_string h
  | empty bracket blank =>
    intro place outer brackets state takes rest _
    rw [Bracket.around, List.cons_append, List.cons_append, List.append_assoc,
      outcome_passingOpening bracket takes, Reader.outcome_blank rfl blank, List.singleton_append,
      outcome_passingClosing bracket (.inl rfl)]
  | @list items nonempty _ ih =>
    intro place outer brackets state takes rest _
    have passes : ∀ p ∈ items.map Padded.chars, ∀ first rest, Delimited rest →
        (Reader.passing (Bracket.list.due first) (.object :: outer)
          (.list :: brackets) state).outcome sink limit (p ++ rest) =
        (Reader.passing (.next .list) (.object :: outer) (.list :: brackets) state).outcome sink
          limit rest := by
      intro p mem first rest delimited
      obtain ⟨item, item_mem, rfl⟩ := List.mem_map.1 mem
      exact (ih item item_mem).padded _ outer (.list :: brackets) state
        (Bracket.takesValue_due_list first) rest delimited
    rw [Bracket.around, List.cons_append, List.cons_append, List.append_assoc,
      outcome_passingOpening .list takes]
    refine (Reader.outcome_separated_of_passes (fun rest => Reader.outcome_of_step rfl rest) passes
      (by simpa using nonempty) true (delimited_cons (.inr (.inl rfl)) rest)).trans ?_
    exact outcome_passingClosing .list (.inr rfl) _ brackets state rest
  | @object members nonempty names _ ih =>
    intro place outer brackets state takes rest _
    have passes : ∀ p ∈ members.map memberText, ∀ first rest, Delimited rest →
        (Reader.passing (Bracket.object.due first) (.object :: outer)
          (.object :: brackets) state).outcome sink limit (p ++ rest) =
        (Reader.passing (.next .object) (.object :: outer) (.object :: brackets) state).outcome sink
          limit rest := by
      intro p mem first rest delimited
      obtain ⟨member, member_mem, rfl⟩ := List.mem_map.1 mem
      obtain ⟨inside, quotable, name⟩ := names member member_mem
      exact outcome_passingMember quotable name (ih member member_mem) (Bracket.due_object first)
        outer brackets state delimited
    rw [Bracket.around, List.cons_append, List.cons_append, List.append_assoc,
      outcome_passingOpening .object takes]
    refine (Reader.outcome_separated_of_passes (fun rest => Reader.outcome_of_step rfl rest) passes
      (by simpa using nonempty) true (delimited_cons (.inr (.inr rfl)) rest)).trans ?_
    exact outcome_passingClosing .object (.inr rfl) _ brackets state rest

end

/-! ### Feeding a document -/

section

variable {σ : Type} (sink : Sink σ) (limit : Option Nat)

/-- Reading the text comes to feeding the document, wherever a value may begin. -/
def FeedsText (json : Json) (text : List Char) : Prop :=
  ∀ (place : Place) (enclosing : List Bracket) (state : σ), place.takesValue = true →
    ∀ rest, Delimited rest →
    (Reader.ready place enclosing state).outcome sink limit (text ++ rest) =
      sink.feed limit json enclosing.length state >>= fun state =>
        (Reader.ready (.after enclosing) enclosing state).outcome sink limit rest

/-- What a sink does with a member: it takes the value, or turns it down. -/
def Sink.member (name : String) (json : Json) (depth : Nat) (state : σ) : Except Fault σ := do
  match ← sink.key state name with
  | some state => sink.feed limit json depth state
  | none => .ok state

variable {sink limit}

/-- Members are taken one after another. -/
theorem Sink.feedMembers_eq_foldlM (members : List (String × Json)) (depth : Nat) (state : σ) :
    sink.feedMembers limit members depth state =
      members.foldlM (fun state m => sink.member limit m.1 m.2 depth state) state := by
  induction members generalizing state with
  | nil => rfl
  | cons m members ih =>
    rw [feedMembers, List.foldlM_cons, member, bind_assoc]
    refine bind_congr fun known => ?_
    cases known with
    | none => exact ih state
    | some state => exact bind_congr fun state => ih state

/-- Blank space around a value is passed over. -/
theorem FeedsText.padded {json : Json} {p : Padded} (h : FeedsText sink limit json p.text) :
    FeedsText sink limit json p.chars := by
  intro place enclosing state takes rest delimited
  rw [Padded.chars, List.append_assoc, List.append_assoc, Reader.outcome_blank rfl p.blank_before,
    h place enclosing state takes _ (delimited_blank_append p.blank_after delimited)]
  refine bind_congr fun state => ?_
  exact Reader.outcome_blank rfl p.blank_after rest

/-- A name and a colon are handed to the sink. If the name is turned down, the value is skipped. -/
theorem outcome_memberName {name : String} {p : Padded} (spelled : SpellsString name p.text)
    {place : Place} (takes : place = .name ∨ place = .first .object) (enclosing : List Bracket)
    (state : σ) (rest : List Char) :
    (Reader.ready place enclosing state).outcome sink limit (p.chars ++ ':' :: rest) =
      sink.key state name >>= fun
        | some state => (Reader.ready .value enclosing state).outcome sink limit rest
        | none => (Reader.passing .value enclosing [] state).outcome sink limit rest := by
  obtain ⟨inside, written, text⟩ := spelled
  obtain ⟨q, scanned, plain, rfl⟩ := Reader.scan_of_spellsString written
  rw [Padded.chars, text, List.append_assoc, List.append_assoc,
    Reader.outcome_blank rfl p.blank_before,
    Reader.outcome_nameText (r := .ready place enclosing state) rfl takes scanned plain,
    takeName_ready, bind_assoc]
  refine bind_congr fun known => ?_
  cases known with
  | none =>
    refine (Reader.outcome_blank rfl p.blank_after _).trans ?_
    exact Reader.outcome_of_step rfl rest
  | some state =>
    refine (Reader.outcome_blank rfl p.blank_after _).trans ?_
    exact Reader.outcome_of_step rfl rest

/-- A member is handed to the sink. -/
theorem outcome_member {name : String} {json : Json} {member : Padded × Padded}
    (spelled : SpellsString name member.1.text) (feeds : FeedsText sink limit json member.2.text)
    (passes : Passes sink limit member.2.text) {place : Place}
    (takes : place = .name ∨ place = .first .object) (outer : List Bracket) (state : σ)
    {rest : List Char} (delimited : Delimited rest) :
    (Reader.ready place (.object :: outer) state).outcome sink limit (memberText member ++ rest) =
      sink.member limit name json (outer.length + 1) state >>= fun state =>
        (Reader.ready (.next .object) (.object :: outer) state).outcome sink limit rest := by
  rw [memberText, List.append_assoc, List.cons_append, outcome_memberName spelled takes,
    Sink.member, bind_assoc]
  refine bind_congr fun known => ?_
  cases known with
  | none => exact passes.padded .value outer [] state rfl rest delimited
  | some state => exact feeds.padded .value (.object :: outer) state rfl rest delimited

/-- The text of a value begins with a character that is neither blank nor closes a list. -/
theorem exists_cons_of_wellFormed {text : List Char} (h : WellFormed text) :
    ∃ c rest, text = c :: rest ∧ Reader.isBlank c = false ∧ c ≠ ']' := by
  cases h with
  | word h =>
    simp only [List.mem_cons, List.not_mem_nil, or_false] at h
    rcases h with rfl | rfl | rfl <;> exact ⟨_, _, rfl, rfl, by decide⟩
  | numeral h =>
    obtain ⟨stage, numeral, scanned, complete⟩ := scanNumeral_of_isNumeral h
    rcases scanNumeral_cases scanned complete with ⟨rest, rfl, -⟩ | ⟨c, rest, first, rfl, goes, -⟩
    · exact ⟨'-', rest, rfl, rfl, by decide⟩
    · exact ⟨c, rest, rfl, Reader.begins_of_goes goes⟩
  | string => exact ⟨'"', _, rfl, rfl, by decide⟩
  | empty bracket => cases bracket <;> exact ⟨_, _, rfl, rfl, by decide⟩
  | list => exact ⟨'[', _, rfl, rfl, by decide⟩
  | object => exact ⟨'\x7b', _, rfl, rfl, by decide⟩

/-- One item too many is a fault, however it is spelled. -/
theorem outcome_surplusItem {p : Padded} (h : WellFormed p.text) (enclosing : List Bracket)
    (state : σ) (rest : List Char) :
    (Reader.ready .surplus enclosing state).outcome sink limit (p.chars ++ rest) =
      .error .trailingCharacters := by
  obtain ⟨c, text, text_eq, visible, begins⟩ := exists_cons_of_wellFormed h
  rw [Padded.chars, text_eq, List.append_assoc, List.append_assoc,
    Reader.outcome_blank rfl p.blank_before, List.cons_append]
  exact Reader.outcome_surplus sink limit enclosing state visible begins _

/-- The items of a list are handed to the sink, and then the list is closed. -/
theorem outcome_spelledItems {items : List (Padded × Json)} (nonempty : items ≠ [])
    (feeds : ∀ p ∈ items, FeedsText sink limit p.2 p.1.text)
    (wellFormed : ∀ p ∈ items, WellFormed p.1.text) (first : Bool) (outer : List Bracket)
    (state : σ) (rest : List Char) :
    (Reader.ready (Bracket.list.due first) (.list :: outer) state).outcome sink limit
        ([','].intercalate (items.map fun p => p.1.chars) ++ ']' :: rest) =
      sink.feedItems limit (items.map Prod.snd) (outer.length + 1) state >>= fun state =>
      sink.leave state >>= fun state =>
        (Reader.ready (.after outer) outer state).outcome sink limit rest := by
  induction items generalizing first state with
  | nil => exact absurd rfl nonempty
  | cons p items ih =>
    have here := (feeds p List.mem_cons_self).padded _ (.list :: outer) state
      (Bracket.takesValue_due_list first)
    cases items with
    | nil =>
      simp only [List.map_cons, List.map_nil, List.intercalate_singleton]
      rw [here _ (delimited_cons (.inr (.inl rfl)) rest), Sink.feedItems, bind_assoc]
      refine bind_congr fun state => ?_
      exact Reader.outcome_closing .list (.inr rfl) outer state rest
    | cons p' items =>
      have others := ih (List.cons_ne_nil _ _) (fun q mem => feeds q (List.mem_cons_of_mem p mem))
        (fun q mem => wellFormed q (List.mem_cons_of_mem p mem)) false
      obtain ⟨tail, begins⟩ : ∃ tail, [','].intercalate
          (p'.1.chars :: items.map fun p => p.1.chars) = p'.1.chars ++ tail := by
        cases items with
        | nil => exact ⟨[], by simp⟩
        | cons q items => exact ⟨_, by rw [List.map_cons, List.intercalate_cons_cons,
            List.append_assoc]⟩
      simp only [List.map_cons] at others ⊢
      rw [List.intercalate_cons_cons, List.append_assoc, List.append_assoc, List.singleton_append,
        here _ (delimited_cons (.inl rfl) _), Sink.feedItems, bind_assoc]
      refine bind_congr fun state => ?_
      rw [Place.after, Reader.outcome_itemComma]
      cases full : sink.full state with
      | true =>
        have fault : (Reader.ready .surplus (.list :: outer) state).outcome sink limit
            (p'.1.chars ++ (tail ++ ']' :: rest)) = .error .trailingCharacters :=
          outcome_surplusItem (wellFormed p' (by simp)) _ _ _
        simp only [↓reduceIte, List.isEmpty_cons, Bool.not_false, Bool.and_self, begins,
          List.append_assoc, fault]
        rfl
      | false => simpa [full, Bracket.due] using others state

/-- An opening bracket is handed to the sink, if the nesting limit allows it. -/
theorem outcome_opening (bracket : Bracket) {place : Place} (takes : place.takesValue = true)
    (enclosing : List Bracket) (state : σ) (rest : List Char) :
    (Reader.ready place enclosing state).outcome sink limit (bracket.opening :: rest) =
      sink.opening limit bracket enclosing.length state >>= fun state =>
        (Reader.ready (.first bracket) (bracket :: enclosing) state).outcome sink limit rest := by
  have opens : (Reader.ready place enclosing state).step sink limit bracket.opening =
      (Reader.ready place enclosing state).takeOpening sink limit bracket := by
    cases bracket with
    | list => exact Reader.step_of_takesValue rfl takes rfl (by decide)
    | object => exact Reader.step_of_takesValue rfl takes rfl (by decide)
  rw [Reader.outcome_cons, opens, Reader.takeOpening_ready, bind_assoc]
  rfl

/-- A container with nothing in it is opened and closed. -/
theorem outcome_emptyContainer (bracket : Bracket) {inside : List Char} (blank : Blank inside)
    {place : Place} (takes : place.takesValue = true) (enclosing : List Bracket) (state : σ)
    (rest : List Char) :
    (Reader.ready place enclosing state).outcome sink limit (bracket.around inside ++ rest) =
      sink.opening limit bracket enclosing.length state >>= fun state =>
      sink.leave state >>= fun state =>
        (Reader.ready (.after enclosing) enclosing state).outcome sink limit rest := by
  rw [Bracket.around, List.cons_append, List.cons_append, List.append_assoc,
    outcome_opening bracket takes]
  refine bind_congr fun state => ?_
  rw [Reader.outcome_blank rfl blank, List.singleton_append]
  exact Reader.outcome_closing bracket (.inl rfl) enclosing state rest

/-- An integer is handed to the sink as it is. -/
theorem feedsText_integer {value : Int} (fits : (Number.integer value).Fits) :
    FeedsText sink limit (.number (.integer value)) value.repr.toList := by
  intro place enclosing state takes rest delimited
  obtain ⟨stage, numeral, scanned, complete, denotes⟩ := scanNumeral_of_fits fits
  have text : (Number.integer value).text = value.repr := rfl
  rw [text] at scanned
  rw [outcome_readyNumeral scanned complete takes enclosing state delimited, denotes, Sink.feed,
    Number.reread_of_fits fits]

/-- **Reading any text of a document comes to feeding the document.** -/
theorem feedsText_of_spells {json : Json} {text : List Char} (h : Spells json text) :
    FeedsText sink limit json text := by
  induction h with
  | null =>
    have word : FeedsText sink limit .null Json.null.compact.toList := feeds .null
    rwa [compact] at word
  | boolean value =>
    have word : FeedsText sink limit (.boolean value) (Json.boolean value).compact.toList :=
      feeds (.boolean value)
    rwa [compact] at word
  | integer fits => exact feedsText_integer fits
  | string spelled =>
    intro place enclosing state takes rest _
    obtain ⟨inside, written, rfl⟩ := spelled
    obtain ⟨q, scanned, plain, rfl⟩ := Reader.scan_of_spellsString written
    rw [Reader.outcome_stringText (r := .ready place enclosing state) rfl takes scanned plain,
      Reader.takeScalar_ready, bind_assoc]
    rfl
  | emptyList blank =>
    intro place enclosing state takes rest _
    rw [outcome_emptyContainer .list blank takes, Sink.feed, bind_assoc]
    rfl
  | emptyObject blank =>
    intro place enclosing state takes rest _
    rw [outcome_emptyContainer .object blank takes, Sink.feed, bind_assoc]
    rfl
  | @list items nonempty spelled ih =>
    intro place enclosing state takes rest _
    rw [Bracket.around, List.cons_append, List.cons_append, List.append_assoc,
      outcome_opening .list takes, Sink.feed, bind_assoc]
    refine bind_congr fun state => ?_
    rw [bind_assoc]
    exact outcome_spelledItems nonempty ih (fun p mem => (spelled p mem).wellFormed) true enclosing
      state rest
  | @object members nonempty names spelled ih =>
    intro place enclosing state takes rest _
    -- each member with what the sink does with it
    let parts := members.map fun m =>
      (memberText m.1, fun state => sink.member limit m.2.1 m.2.2 (enclosing.length + 1) state)
    have acts : ∀ p ∈ parts, ∀ first state rest, Delimited rest →
        (Reader.ready (Bracket.object.due first) (.object :: enclosing) state).outcome sink limit
          (p.1 ++ rest) = p.2 state >>= fun state =>
            (Reader.ready (.next .object) (.object :: enclosing) state).outcome sink limit
              rest := by
      intro p mem first state rest delimited
      obtain ⟨m, m_mem, rfl⟩ := List.mem_map.1 mem
      exact outcome_member (names m m_mem) (ih m m_mem)
        (passes_of_wellFormed (spelled m m_mem).wellFormed) (Bracket.due_object first) enclosing
        state delimited
    have texts : members.map (fun m => memberText m.1) = parts.map Prod.fst := by
      simp [parts]
    rw [Bracket.around, List.cons_append, List.cons_append, List.append_assoc,
      outcome_opening .object takes, Sink.feed, bind_assoc]
    refine bind_congr fun state => ?_
    rw [texts, Sink.feedMembers_eq_foldlM, List.foldlM_map, bind_assoc]
    refine (Reader.outcome_separated
      (fun state rest => Reader.outcome_memberComma (.object :: enclosing) state rest) acts
      (by simpa [parts] using nonempty) true state (delimited_cons (.inr (.inr rfl)) rest)).trans ?_
    rw [List.foldlM_map]
    refine bind_congr fun state => ?_
    exact Reader.outcome_closing .object (.inr rfl) enclosing state rest

end

end Markup.Json
