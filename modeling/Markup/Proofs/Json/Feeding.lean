import Markup.Proofs.Json.Lexemes

/-!
# Documents and sinks

A sink hears of a text as the text comes. If the text is the compact text of a document, what it
hears can be read off the document: `Sink.feed` hands a document to a sink, part by part, without
any text. `Json.read_compact` says that reading the text comes to the same, with or without a
nesting limit, for every sink and every document whose numbers are written as numerals.

A member that the sink turns down is skipped: `Sink.feed` passes over its value, and so does the
reader (`Json.skips`).
-/

namespace Markup.Json

/-! ### Numbers of a document -/

/-- The number that the text of a number is read as, if that is in range. -/
def Number.reread (n : Number) : Option Number :=
  (scanNumeral n.text.toList).bind fun found => found.2.number?

/-- The text of the number is a numeral. -/
def Number.Shaped (n : Number) : Prop :=
  ∃ stage numeral, scanNumeral n.text.toList = some (stage, numeral) ∧ stage.isComplete = true

/-- Whether the text of a number is a numeral can be decided by scanning it. -/
theorem Number.shaped_iff {n : Number} :
    n.Shaped ↔ ((scanNumeral n.text.toList).any fun found => found.1.isComplete) = true := by
  rw [Option.any_eq_true]
  constructor
  · rintro ⟨stage, numeral, scanned, complete⟩
    exact ⟨(stage, numeral), scanned, complete⟩
  · rintro ⟨⟨stage, numeral⟩, scanned, complete⟩
    exact ⟨stage, numeral, scanned, complete⟩

/-- Whether a number has the shape can be decided. -/
instance (n : Number) : Decidable n.Shaped :=
  decidable_of_iff _ Number.shaped_iff.symm

/-- Every number in a document is as the predicate says. -/
inductive AllNumbers (P : Number → Prop) : Json → Prop
  /-- There is no number in `null`. -/
  | null : AllNumbers P .null
  /-- There is no number in a truth value. -/
  | boolean (value : Bool) : AllNumbers P (.boolean value)
  /-- A number. -/
  | number {n : Number} (h : P n) : AllNumbers P (.number n)
  /-- There is no number in a text. -/
  | string (value : String) : AllNumbers P (.string value)
  /-- The items of a list. -/
  | array {items : List Json} (h : ∀ item ∈ items, AllNumbers P item) : AllNumbers P (.array items)
  /-- The members of an object. -/
  | object {members : List (String × Json)} (h : ∀ m ∈ members, AllNumbers P m.2) :
    AllNumbers P (.object members)

/-! ### Feeding a sink -/

namespace Sink

variable {σ : Type} (sink : Sink σ) (limit : Option Nat)

/-- A container begins inside `depth` others. -/
def opening (bracket : Bracket) (depth : Nat) (state : σ) : Except Fault σ := do
  sink.mayEnter state bracket
  if limit.any (· ≤ depth) then .error .tooDeep else sink.enter state bracket

/-- A number is handed over if it is in range. -/
def number (value : Option Number) (state : σ) : Except Fault σ :=
  match value with
  | some value => sink.scalar state (.number value)
  | none => .error .numberOutOfRange

mutual

/-- Hands a document to a sink, inside `depth` containers. -/
def feed : Json → (depth : Nat) → (state : σ) → Except Fault σ
  | .null, _, state => sink.scalar state .null
  | .boolean value, _, state => sink.scalar state (.boolean value)
  | .number n, _, state => sink.number n.reread state
  | .string value, _, state => sink.scalar state (.string value)
  | .array items, depth, state => do
    let state ← sink.opening limit .list depth state
    sink.leave (← feedItems items (depth + 1) state)
  | .object members, depth, state => do
    let state ← sink.opening limit .object depth state
    sink.leave (← feedMembers members (depth + 1) state)
termination_by structural json => json

/-- Hands the items of a list to a sink. One item too many is a fault. -/
def feedItems : List Json → (depth : Nat) → (state : σ) → Except Fault σ
  | [], _, state => .ok state
  | item :: items, depth, state => do
    let state ← feed item depth state
    if !items.isEmpty && sink.full state then .error .trailingCharacters
    else feedItems items depth state
termination_by structural items => items

/-- Hands the members of an object to a sink. The values of those that it turns down are passed
over. -/
def feedMembers : List (String × Json) → (depth : Nat) → (state : σ) → Except Fault σ
  | [], _, state => .ok state
  | (name, value) :: members, depth, state => do
    match ← sink.key state name with
    | some state => feedMembers members depth (← feed value depth state)
    | none => feedMembers members depth state
termination_by structural members => members

end

variable {sink limit} {depth : Nat} {state state' : σ}

/-- A list that is begun is fed by its items. -/
theorem feed_array_of_opening (h : sink.opening limit .list depth state = .ok state')
    (items : List Json) :
    sink.feed limit (.array items) depth state =
      sink.feedItems limit items (depth + 1) state' >>= sink.leave := by
  rw [feed, h]
  rfl

/-- An object that is begun is fed by its members. -/
theorem feed_object_of_opening (h : sink.opening limit .object depth state = .ok state')
    (members : List (String × Json)) :
    sink.feed limit (.object members) depth state =
      sink.feedMembers limit members (depth + 1) state' >>= sink.leave := by
  rw [feed, h]
  rfl

/-- An item is fed, and then the others, if there is room for them. -/
theorem feedItems_cons_of_feed {item : Json} (h : sink.feed limit item depth state = .ok state')
    (room : sink.full state' = false) (items : List Json) :
    sink.feedItems limit (item :: items) depth state = sink.feedItems limit items depth state' := by
  rw [feedItems, h]
  change (if (!items.isEmpty && sink.full state') = true then _ else _) = _
  rw [room, Bool.and_false, if_neg Bool.false_ne_true]

/-- A member whose name is taken is fed by its value, and then the others. -/
theorem feedMembers_cons_of_key {name : String} (h : sink.key state name = .ok (some state'))
    (value : Json) (members : List (String × Json)) :
    sink.feedMembers limit ((name, value) :: members) depth state =
      sink.feed limit value depth state' >>= sink.feedMembers limit members depth := by
  rw [feedMembers, h]
  rfl

end Sink

/-! ### The text of a document -/

/-- The text of a list is that of its items between brackets. -/
theorem toList_compact_array (items : List Json) :
    (array items).compact.toList = '[' :: ((compactItems items).toList ++ [']']) := by
  rw [compact, String.toList_append, String.toList_append]
  rfl

/-- The text of an object is that of its members between brackets. -/
theorem toList_compact_object (members : List (String × Json)) :
    (object members).compact.toList =
      '\x7b' :: ((compactMembers members).toList ++ ['\x7d']) := by
  rw [compact, String.toList_append, String.toList_append]
  rfl

/-- The first of several items stands before a comma. -/
theorem toList_compactItems_cons (item : Json) {items : List Json} (h : items ≠ []) :
    (compactItems (item :: items)).toList =
      item.compact.toList ++ ',' :: (compactItems items).toList := by
  cases items with
  | nil => exact absurd rfl h
  | cons next items =>
    rw [compactItems, String.toList_append, String.toList_append, List.append_assoc]
    · rfl
    · exact h

/-- The first member stands before the end of the object, or before a comma and further members. -/
theorem toList_compactMembers_cons (name : String) (value : Json) (members : List (String × Json))
    (rest : List Char) :
    ∃ tail, (compactMembers ((name, value) :: members)).toList ++ '\x7d' :: rest =
        (quoted name).toList ++ ':' :: (value.compact.toList ++ tail) ∧ Delimited tail ∧
      (members = [] ∧ tail = '\x7d' :: rest ∨
        members ≠ [] ∧ tail = ',' :: ((compactMembers members).toList ++ '\x7d' :: rest)) := by
  cases members with
  | nil =>
    refine ⟨_, ?_, delimited_cons (.inr (.inr rfl)) rest, .inl ⟨rfl, rfl⟩⟩
    simp only [compactMembers, String.toList_append, List.append_assoc]
    rfl
  | cons member members =>
    refine ⟨_, ?_, delimited_cons (.inl rfl) _, .inr ⟨List.cons_ne_nil _ _, rfl⟩⟩
    rw [compactMembers]
    · simp only [String.toList_append, List.append_assoc]
      rfl
    · exact List.cons_ne_nil _ _

/-- A text that a shaped number has begins with a sign or a digit. -/
theorem Number.Shaped.exists_cons {n : Number} (shaped : n.Shaped) :
    ∃ c text, n.text.toList = c :: text ∧ Reader.isBlank c = false ∧ c ≠ ']' := by
  obtain ⟨stage, numeral, scanned, complete⟩ := shaped
  rcases scanNumeral_cases scanned complete with ⟨text, eq, -⟩ | ⟨c, text, first, eq, continues, -⟩
  · exact ⟨'-', text, eq, rfl, by decide⟩
  · exact ⟨c, text, eq, Reader.begins_of_goes continues⟩

/-- The text of a document begins with a character that is neither blank nor closes a list. -/
theorem exists_cons_of_shaped {json : Json} (shaped : json.AllNumbers Number.Shaped) :
    ∃ c text, json.compact.toList = c :: text ∧ Reader.isBlank c = false ∧ c ≠ ']' := by
  cases shaped with
  | null => exact ⟨_, _, rfl, rfl, by decide⟩
  | boolean value => cases value <;> exact ⟨_, _, rfl, rfl, by decide⟩
  | number shaped => exact shaped.exists_cons
  | string value =>
    exact ⟨'"', _, by rw [compact, quoted, String.toList_ofList], rfl, by decide⟩
  | array => exact ⟨_, _, toList_compact_array _, rfl, by decide⟩
  | object => exact ⟨_, _, toList_compact_object _, rfl, by decide⟩

/-- The text of at least one item begins in the same way. -/
theorem exists_cons_of_shapedItems {items : List Json}
    (shaped : ∀ item ∈ items, item.AllNumbers Number.Shaped) (h : items ≠ []) :
    ∃ c text, (compactItems items).toList = c :: text ∧ Reader.isBlank c = false ∧ c ≠ ']' := by
  cases items with
  | nil => exact absurd rfl h
  | cons item items =>
    obtain ⟨c, text, starts, visible, begins⟩ :=
      exists_cons_of_shaped (shaped item List.mem_cons_self)
    by_cases last : items = []
    · subst last
      exact ⟨c, text, starts, visible, begins⟩
    · refine ⟨c, text ++ ',' :: (compactItems items).toList, ?_, visible, begins⟩
      rw [toList_compactItems_cons item last, starts, List.cons_append]

/-! ### Between lexemes -/

/-- What is due after a complete value, given the open containers. -/
def Place.after : List Bracket → Place
  | bracket :: _ => .next bracket
  | [] => .done

/-- The character that closes a container. -/
def Bracket.closing : Bracket → Char
  | .list => ']'
  | .object => '\x7d'

namespace Reader

variable {σ : Type} {sink : Sink σ} {limit : Option Nat}

/-- The reader between lexemes, where nothing is skipped. -/
def ready (place : Place) (enclosing : List Bracket) (state : σ) : Reader σ :=
  ⟨.between place, enclosing, none, state⟩

/-- After a complete value, the reader is ready for what follows. -/
theorem completed_mk (phase : Phase) (enclosing : List Bracket) (state : σ) :
    (⟨phase, enclosing, none, state⟩ : Reader σ).completed =
      ready (.after enclosing) enclosing state := by
  cases enclosing <;> rfl

/-- A scalar is handed to the sink. -/
theorem takeScalar_ready (place : Place) (enclosing : List Bracket) (state : σ) (scalar : Scalar) :
    (ready place enclosing state).takeScalar sink scalar =
      sink.scalar state scalar >>= fun state => .ok (ready (.after enclosing) enclosing state) := by
  simp only [← completed_mk (.between place)]
  rfl

/-- A number is handed to the sink, if it is in range. -/
theorem takeNumeral_ready (place : Place) (enclosing : List Bracket) (state : σ)
    (numeral : Numeral) :
    (ready place enclosing state).takeNumeral sink numeral =
      sink.number numeral.number? state >>= fun state =>
        .ok (ready (.after enclosing) enclosing state) := by
  change (match numeral.number? with
    | some value => (ready place enclosing state).takeScalar sink (.number value)
    | none => .error .numberOutOfRange) = _
  cases numeral.number? with
  | none => rfl
  | some value => exact takeScalar_ready place enclosing state _

/-- After a numeral, the reader is where the value leaves it. -/
theorem takeNumeral_settled (place : Place) (enclosing : List Bracket) (state : σ)
    (numeral : Numeral) (r : Reader σ)
    (taken : (ready place enclosing state).takeNumeral sink numeral = .ok r) :
    r.phase = .between r.following := by
  rw [takeNumeral_ready] at taken
  cases number : sink.number numeral.number? state with
  | error fault =>
    rw [number] at taken
    cases taken
  | ok state' =>
    rw [number] at taken
    cases taken
    cases enclosing <;> rfl

/-- An opening bracket is handed to the sink, if the nesting limit allows it. -/
theorem takeOpening_ready (place : Place) (enclosing : List Bracket) (state : σ)
    (bracket : Bracket) :
    (ready place enclosing state).takeOpening sink limit bracket =
      sink.opening limit bracket enclosing.length state >>= fun state =>
        .ok (ready (.first bracket) (bracket :: enclosing) state) := by
  unfold ready
  unfold takeOpening Sink.opening
  rw [bind_assoc]
  refine bind_congr fun _ => ?_
  by_cases deep : limit.any (· ≤ enclosing.length) = true
  · rw [if_pos deep, if_pos deep]
    rfl
  · rw [if_neg deep, if_neg deep]
    rfl

/-- A closing bracket is handed to the sink. -/
theorem takeClosing_ready (place : Place) (bracket : Bracket) (outer : List Bracket) (state : σ) :
    (ready place (bracket :: outer) state).takeClosing sink =
      sink.leave state >>= fun state => .ok (ready (.after outer) outer state) := by
  simp only [← completed_mk (.between place)]
  rfl

/-- A container is closed before its first part or after any part. -/
theorem outcome_closing (bracket : Bracket) {place : Place}
    (h : place = .first bracket ∨ place = .next bracket) (outer : List Bracket) (state : σ)
    (rest : List Char) :
    (ready place (bracket :: outer) state).outcome sink limit (bracket.closing :: rest) =
      sink.leave state >>= fun state =>
        (ready (.after outer) outer state).outcome sink limit rest := by
  have closes : (ready place (bracket :: outer) state).step sink limit bracket.closing =
      (ready place (bracket :: outer) state).takeClosing sink := by
    rcases h with rfl | rfl <;> cases bracket <;> rfl
  rw [outcome_cons, closes, takeClosing_ready, bind_assoc]
  rfl

/-- After an item and a comma, another item is due, unless the sink has enough. -/
theorem outcome_itemComma (enclosing : List Bracket) (state : σ) (rest : List Char) :
    (ready (.next .list) enclosing state).outcome sink limit (',' :: rest) =
      (ready (if sink.full state then .surplus else .item) enclosing state).outcome
        sink limit rest :=
  outcome_of_step rfl rest

/-- After a member and a comma, the name of another one is due. -/
theorem outcome_memberComma (enclosing : List Bracket) (state : σ) (rest : List Char) :
    (ready (.next .object) enclosing state).outcome sink limit (',' :: rest) =
      (ready .name enclosing state).outcome sink limit rest :=
  outcome_of_step rfl rest

/-- One item too many is a fault. -/
theorem outcome_surplus (sink : Sink σ) (limit : Option Nat) (enclosing : List Bracket) (state : σ)
    {c : Char} (visible : isBlank c = false) (begins : c ≠ ']') (rest : List Char) :
    (ready .surplus enclosing state).outcome sink limit (c :: rest) =
      .error .trailingCharacters := by
  rw [outcome_cons]
  simp only [step, ready, takeBetween, visible, Bool.false_eq_true, ↓reduceIte, begins]
  rfl

end Reader

/-! ### Skipping a value -/

section

variable {σ : Type} (sink : Sink σ) (limit : Option Nat)

namespace Reader

/-- The reader between lexemes of a value that is being skipped. -/
def passing (place : Place) (enclosing brackets : List Bracket) (state : σ) : Reader σ :=
  ⟨.between place, enclosing, some brackets, state⟩

/-- The reader after a part of a skipped value, or after the whole of it. -/
def passed (enclosing : List Bracket) (state : σ) : List Bracket → Reader σ
  | [] => ready (.next .object) enclosing state
  | bracket :: outer => passing (.next bracket) enclosing (bracket :: outer) state

/-- A value that is being skipped is complete when nothing in it is open. -/
theorem completed_passing (place : Place) (enclosing brackets : List Bracket) (state : σ) :
    (passing place enclosing brackets state).completed = passed enclosing state brackets := by
  cases brackets <;> rfl

/-- What is due after a part of a value in an object that is being skipped. -/
theorem phase_passed (outer brackets : List Bracket) (state : σ) :
    (passed (.object :: outer) state brackets).phase =
      .between (passed (.object :: outer) state brackets).following := by
  cases brackets <;> rfl

end Reader

/-- The text of a document is skipped where a value of a member that is turned down may begin. -/
def Skips (json : Json) : Prop :=
  ∀ (place : Place) (outer brackets : List Bracket) (state : σ), place.takesValue = true →
    ∀ rest, Delimited rest →
    (Reader.passing place (.object :: outer) brackets state).outcome sink limit
        (json.compact.toList ++ rest) =
      (Reader.passed (.object :: outer) state brackets).outcome sink limit rest

variable {sink limit}

/-- A scalar is skipped. -/
theorem skips_of_takeScalar {json : Json} {scalar : Scalar}
    (taken : ∀ (r : Reader σ) (place : Place), r.phase = .between place →
      place.takesValue = true → ∀ rest,
      r.outcome sink limit (json.compact.toList ++ rest) =
        r.takeScalar sink scalar >>= fun r => r.outcome sink limit rest) :
    Skips sink limit json := by
  intro place outer brackets state takes rest _
  rw [taken _ place rfl takes, ← Reader.completed_passing place]
  rfl

/-- A numeral is skipped, in range or not. -/
theorem outcome_passingNumeral {text : List Char} {stage : Stage} {numeral : Numeral}
    (scanned : scanNumeral text = some (stage, numeral)) (complete : stage.isComplete = true)
    {place : Place} (takes : place.takesValue = true) (outer brackets : List Bracket) (state : σ)
    {rest : List Char} (delimited : Delimited rest) :
    (Reader.passing place (.object :: outer) brackets state).outcome sink limit (text ++ rest) =
      (Reader.passed (.object :: outer) state brackets).outcome sink limit rest := by
  have taken : (Reader.passing place (.object :: outer) brackets state).takeNumeral sink numeral =
      .ok (Reader.passed (.object :: outer) state brackets) := by
    rw [← Reader.completed_passing place]
    rfl
  have settled : ∀ r, (Reader.passing place (.object :: outer) brackets state).takeNumeral sink
      numeral = .ok r → r.phase = .between r.following := by
    intro r h
    rw [taken] at h
    cases h
    exact Reader.phase_passed outer brackets state
  rw [Reader.outcome_numeral rfl takes scanned complete settled delimited, taken]
  rfl

/-- A number is skipped, in range or not. -/
theorem skips_number {n : Number} (shaped : n.Shaped) : Skips sink limit (.number n) := by
  obtain ⟨stage, numeral, scanned, complete⟩ := shaped
  intro place outer brackets state takes rest delimited
  rw [compact]
  exact outcome_passingNumeral scanned complete takes outer brackets state delimited

/-- A container is closed while a value is skipped. -/
theorem outcome_passingClosing (bracket : Bracket) {place : Place}
    (h : place = .first bracket ∨ place = .next bracket) (enclosing brackets : List Bracket)
    (state : σ) (rest : List Char) :
    (Reader.passing place enclosing (bracket :: brackets) state).outcome sink limit
        (bracket.closing :: rest) =
      (Reader.passed enclosing state brackets).outcome sink limit rest := by
  rw [← Reader.completed_passing place]
  refine Reader.outcome_of_step ?_ rest
  rcases h with rfl | rfl <;> cases bracket <;> rfl

/-- The items of a list are skipped, and then the list is closed. -/
theorem outcome_passingItems {items : List Json} (skips : ∀ item ∈ items, Skips sink limit item)
    {place : Place} (begins : place = .first .list ∨ items ≠ [] ∧ place = .item)
    (outer brackets : List Bracket) (state : σ) (rest : List Char) :
    (Reader.passing place (.object :: outer) (.list :: brackets) state).outcome sink limit
        ((compactItems items).toList ++ ']' :: rest) =
      (Reader.passed (.object :: outer) state brackets).outcome sink limit rest := by
  induction items generalizing place with
  | nil =>
    rcases begins with rfl | ⟨h, -⟩
    · exact outcome_passingClosing .list (.inl rfl) _ brackets state rest
    · exact absurd rfl h
  | cons item items ih =>
    have takes : place.takesValue = true := by
      rcases begins with rfl | ⟨-, rfl⟩ <;> rfl
    have first := skips item List.mem_cons_self place outer (.list :: brackets) state takes
    by_cases last : items = []
    · subst last
      rw [compactItems, first _ (delimited_cons (.inr (.inl rfl)) rest)]
      exact outcome_passingClosing .list (.inr rfl) _ brackets state rest
    · rw [toList_compactItems_cons item last, List.append_assoc, List.cons_append,
        first _ (delimited_cons (.inl rfl) _)]
      refine (Reader.outcome_of_step ?_ _).trans
        (ih (fun next mem => skips next (List.mem_cons_of_mem _ mem)) (.inr ⟨last, rfl⟩))
      rfl

/-- The members of an object are skipped, and then the object is closed. -/
theorem outcome_passingMembers {members : List (String × Json)}
    (skips : ∀ m ∈ members, Skips sink limit m.2) {place : Place}
    (begins : place = .first .object ∨ members ≠ [] ∧ place = .name)
    (outer brackets : List Bracket) (state : σ) (rest : List Char) :
    (Reader.passing place (.object :: outer) (.object :: brackets) state).outcome sink limit
        ((compactMembers members).toList ++ '\x7d' :: rest) =
      (Reader.passed (.object :: outer) state brackets).outcome sink limit rest := by
  induction members generalizing place with
  | nil =>
    rcases begins with rfl | ⟨h, -⟩
    · exact outcome_passingClosing .object (.inl rfl) _ brackets state rest
    · exact absurd rfl h
  | cons member members ih =>
    obtain ⟨name, value⟩ := member
    obtain ⟨tail, text, delimited, next⟩ := toList_compactMembers_cons name value members rest
    have takes : place = .name ∨ place = .first .object := begins.symm.imp And.right id
    have skipped := skips (name, value) List.mem_cons_self .value outer (.object :: brackets) state
      rfl tail delimited
    rw [text, Reader.outcome_quotedName rfl takes]
    refine (Reader.outcome_of_step rfl _).trans (skipped.trans ?_)
    rcases next with ⟨rfl, rfl⟩ | ⟨more, rfl⟩
    · exact outcome_passingClosing .object (.inr rfl) _ brackets state rest
    · refine (Reader.outcome_of_step ?_ _).trans
        (ih (fun m mem => skips m (List.mem_cons_of_mem _ mem)) (.inr ⟨more, rfl⟩))
      rfl

/-- The text of any document is skipped. -/
theorem skips {json : Json} (shaped : json.AllNumbers Number.Shaped) : Skips sink limit json := by
  induction shaped with
  | null =>
    exact skips_of_takeScalar fun _ _ phase takes rest =>
      Reader.outcome_word phase takes .null (.inl ⟨rfl, rfl⟩) rest
  | boolean value =>
    exact skips_of_takeScalar fun _ _ phase takes rest =>
      Reader.outcome_word phase takes (.boolean value) (.inr ⟨value, rfl, rfl⟩) rest
  | number shaped => exact skips_number shaped
  | string value =>
    exact skips_of_takeScalar fun _ _ phase takes rest =>
      Reader.outcome_quoted phase takes value rest
  | array _ ih =>
    intro place outer brackets state takes rest _
    rw [toList_compact_array, List.cons_append, List.append_assoc, List.singleton_append]
    refine (Reader.outcome_of_step ?_ _).trans
      (outcome_passingItems ih (.inl rfl) outer brackets state rest)
    exact Reader.step_of_takesValue rfl takes rfl (by decide)
  | object _ ih =>
    intro place outer brackets state takes rest _
    rw [toList_compact_object, List.cons_append, List.append_assoc, List.singleton_append]
    refine (Reader.outcome_of_step ?_ _).trans
      (outcome_passingMembers ih (.inl rfl) outer brackets state rest)
    exact Reader.step_of_takesValue rfl takes rfl (by decide)

end

/-! ### Reading what is fed -/

section

variable {σ : Type} (sink : Sink σ) (limit : Option Nat)

/-- Reading the text of a document comes to feeding the document, wherever a value may begin. -/
def Feeds (json : Json) : Prop :=
  ∀ (place : Place) (enclosing : List Bracket) (state : σ), place.takesValue = true →
    ∀ rest, Delimited rest →
    (Reader.ready place enclosing state).outcome sink limit (json.compact.toList ++ rest) =
      sink.feed limit json enclosing.length state >>= fun state =>
        (Reader.ready (.after enclosing) enclosing state).outcome sink limit rest

variable {sink limit}

/-- A scalar is handed to the sink. -/
theorem feeds_of_takeScalar {json : Json} {scalar : Scalar}
    (fed : ∀ depth state, sink.feed limit json depth state = sink.scalar state scalar)
    (taken : ∀ (r : Reader σ) (place : Place), r.phase = .between place →
      place.takesValue = true → ∀ rest,
      r.outcome sink limit (json.compact.toList ++ rest) =
        r.takeScalar sink scalar >>= fun r => r.outcome sink limit rest) :
    Feeds sink limit json := by
  intro place enclosing state takes rest _
  rw [taken _ place rfl takes, fed, Reader.takeScalar_ready, bind_assoc]
  rfl

/-- A numeral is handed to the sink as the number that it stands for. -/
theorem outcome_readyNumeral {text : List Char} {stage : Stage} {numeral : Numeral}
    (scanned : scanNumeral text = some (stage, numeral)) (complete : stage.isComplete = true)
    {place : Place} (takes : place.takesValue = true) (enclosing : List Bracket) (state : σ)
    {rest : List Char} (delimited : Delimited rest) :
    (Reader.ready place enclosing state).outcome sink limit (text ++ rest) =
      sink.number numeral.number? state >>= fun state =>
        (Reader.ready (.after enclosing) enclosing state).outcome sink limit rest := by
  rw [Reader.outcome_numeral rfl takes scanned complete
    (Reader.takeNumeral_settled place enclosing state numeral) delimited,
    Reader.takeNumeral_ready, bind_assoc]
  rfl

/-- A number is handed to the sink as what its text is read as. -/
theorem feeds_number {n : Number} (shaped : n.Shaped) : Feeds sink limit (.number n) := by
  obtain ⟨stage, numeral, scanned, complete⟩ := shaped
  intro place enclosing state takes rest delimited
  have reread : n.reread = numeral.number? := by
    rw [Number.reread, scanned]
    rfl
  rw [compact, Sink.feed, reread]
  exact outcome_readyNumeral scanned complete takes enclosing state delimited

/-- The items of a list are handed to the sink, and then the list is closed. -/
theorem outcome_items {items : List Json} (feeds : ∀ item ∈ items, Feeds sink limit item)
    (shaped : ∀ item ∈ items, item.AllNumbers Number.Shaped) {place : Place}
    (begins : place = .first .list ∨ items ≠ [] ∧ place = .item) (outer : List Bracket) (state : σ)
    (rest : List Char) :
    (Reader.ready place (.list :: outer) state).outcome sink limit
        ((compactItems items).toList ++ ']' :: rest) =
      sink.feedItems limit items (outer.length + 1) state >>= fun state =>
      sink.leave state >>= fun state =>
        (Reader.ready (.after outer) outer state).outcome sink limit rest := by
  induction items generalizing place state with
  | nil =>
    rcases begins with rfl | ⟨h, -⟩
    · exact Reader.outcome_closing .list (.inl rfl) outer state rest
    · exact absurd rfl h
  | cons item items ih =>
    have takes : place.takesValue = true := by
      rcases begins with rfl | ⟨-, rfl⟩ <;> rfl
    have first := feeds item List.mem_cons_self place (.list :: outer) state takes
    by_cases last : items = []
    · subst last
      rw [compactItems, first _ (delimited_cons (.inr (.inl rfl)) rest), Sink.feedItems, bind_assoc]
      refine bind_congr fun state => ?_
      exact Reader.outcome_closing .list (.inr rfl) outer state rest
    · rw [toList_compactItems_cons item last, List.append_assoc, List.cons_append,
        first _ (delimited_cons (.inl rfl) _), Sink.feedItems, bind_assoc]
      refine bind_congr fun state => ?_
      have more : items.isEmpty = false := by rwa [List.isEmpty_eq_false_iff]
      rw [Place.after, Reader.outcome_itemComma]
      cases full : sink.full state with
      | true =>
        obtain ⟨c, text, starts, visible, begins⟩ := exists_cons_of_shapedItems
          (fun next mem => shaped next (List.mem_cons_of_mem _ mem)) last
        have fault := Reader.outcome_surplus sink limit (.list :: outer) state visible begins
          (text ++ ']' :: rest)
        simp only [↓reduceIte, more, Bool.not_false, Bool.and_self, starts, List.cons_append, fault]
        rfl
      | false =>
        have tail := ih (fun next mem => feeds next (List.mem_cons_of_mem _ mem))
          (fun next mem => shaped next (List.mem_cons_of_mem _ mem)) (.inr ⟨last, rfl⟩) state
        simpa [more, full] using tail

/-- A name is handed to the sink. If it is turned down, the value is going to be skipped. -/
theorem takeName_ready (place : Place) (enclosing : List Bracket) (state : σ) (name : String) :
    (Reader.ready place enclosing state).takeName sink name =
      sink.key state name >>= fun
        | some state => .ok (Reader.ready .colon enclosing state)
        | none => .ok (Reader.passing .colon enclosing [] state) := by
  change (sink.key state name >>= fun _ => _) = _
  refine bind_congr fun known => ?_
  cases known <;> rfl

/-- The members of an object are handed to the sink, and then the object is closed. -/
theorem outcome_members {members : List (String × Json)}
    (feeds : ∀ m ∈ members, Feeds sink limit m.2) (skips : ∀ m ∈ members, Skips sink limit m.2)
    {place : Place} (begins : place = .first .object ∨ members ≠ [] ∧ place = .name)
    (outer : List Bracket) (state : σ) (rest : List Char) :
    (Reader.ready place (.object :: outer) state).outcome sink limit
        ((compactMembers members).toList ++ '\x7d' :: rest) =
      sink.feedMembers limit members (outer.length + 1) state >>= fun state =>
      sink.leave state >>= fun state =>
        (Reader.ready (.after outer) outer state).outcome sink limit rest := by
  induction members generalizing place state with
  | nil =>
    rcases begins with rfl | ⟨h, -⟩
    · exact Reader.outcome_closing .object (.inl rfl) outer state rest
    · exact absurd rfl h
  | cons member members ih =>
    obtain ⟨name, value⟩ := member
    obtain ⟨tail, text, delimited, next⟩ := toList_compactMembers_cons name value members rest
    have takes : place = .name ∨ place = .first .object := begins.symm.imp And.right id
    -- what comes after the member, whether it was taken or turned down
    have further : ∀ state, (Reader.ready (.next .object) (.object :: outer) state).outcome sink
        limit tail = sink.feedMembers limit members (outer.length + 1) state >>= fun state =>
          sink.leave state >>= fun state =>
            (Reader.ready (.after outer) outer state).outcome sink limit rest := by
      intro state
      rcases next with ⟨rfl, rfl⟩ | ⟨more, rfl⟩
      · exact Reader.outcome_closing .object (.inr rfl) outer state rest
      · rw [Reader.outcome_memberComma]
        exact ih (fun m mem => feeds m (List.mem_cons_of_mem _ mem))
          (fun m mem => skips m (List.mem_cons_of_mem _ mem)) (.inr ⟨more, rfl⟩) state
    rw [text, Reader.outcome_quotedName rfl takes, takeName_ready, Sink.feedMembers, bind_assoc,
      bind_assoc]
    refine bind_congr fun known => ?_
    cases known with
    | none =>
      refine (Reader.outcome_of_step rfl _).trans ?_
      exact (skips (name, value) List.mem_cons_self .value outer [] state rfl tail delimited).trans
        (further state)
    | some state =>
      refine (Reader.outcome_of_step rfl _).trans ?_
      refine (feeds (name, value) List.mem_cons_self .value (.object :: outer) state rfl tail
        delimited).trans ?_
      simp only [bind_assoc]
      exact bind_congr fun state => further state

/-- Reading the text of a document comes to feeding the document. -/
theorem feeds {json : Json} (shaped : json.AllNumbers Number.Shaped) : Feeds sink limit json := by
  induction shaped with
  | null =>
    exact feeds_of_takeScalar (fun _ _ => rfl) fun _ _ phase takes rest =>
      Reader.outcome_word phase takes .null (.inl ⟨rfl, rfl⟩) rest
  | boolean value =>
    exact feeds_of_takeScalar (fun _ _ => rfl) fun _ _ phase takes rest =>
      Reader.outcome_word phase takes (.boolean value) (.inr ⟨value, rfl, rfl⟩) rest
  | number shaped => exact feeds_number shaped
  | string value =>
    exact feeds_of_takeScalar (fun _ _ => rfl) fun _ _ phase takes rest =>
      Reader.outcome_quoted phase takes value rest
  | array shaped ih =>
    intro place enclosing state takes rest _
    have opens : (Reader.ready place enclosing state).step sink limit '[' = _ :=
      (Reader.step_of_takesValue rfl takes rfl (by decide)).trans
        (Reader.takeOpening_ready place enclosing state .list)
    rw [toList_compact_array, List.cons_append, List.append_assoc, List.singleton_append,
      Reader.outcome_cons, opens, Sink.feed]
    simp only [bind_assoc]
    exact bind_congr fun state => outcome_items ih shaped (.inl rfl) enclosing state rest
  | object shaped ih =>
    intro place enclosing state takes rest _
    have opens : (Reader.ready place enclosing state).step sink limit '\x7b' = _ :=
      (Reader.step_of_takesValue rfl takes rfl (by decide)).trans
        (Reader.takeOpening_ready place enclosing state .object)
    rw [toList_compact_object, List.cons_append, List.append_assoc, List.singleton_append,
      Reader.outcome_cons, opens, Sink.feed]
    simp only [bind_assoc]
    exact bind_congr fun state =>
      outcome_members ih (fun m mem => skips (shaped m mem)) (.inl rfl) enclosing state rest

end

/-- **Reading the text of a document hands the document to the sink**, whatever the sink and the
nesting limit. -/
theorem read_compact {σ : Type} (sink : Sink σ) (limit : Option Nat) (state : σ) {json : Json}
    (shaped : json.AllNumbers Number.Shaped) :
    Json.read sink limit state json.compact = sink.feed limit json 0 state := by
  have fed : Feeds sink limit json := feeds shaped
  have whole := fed .value [] state rfl [] delimited_nil
  rw [List.append_nil] at whole
  rw [Reader.read_eq_outcome]
  refine whole.trans ?_
  cases sink.feed limit json 0 state <;> rfl

end Markup.Json
