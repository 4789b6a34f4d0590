import Markup.Attributes

/-!
# Building attribute maps

Giving a name a value changes nothing else (`Attributes.updates_exchange`): all other values and the
order of the names stay as they are, and a new name goes to the end. So inserting entries one after
another leaves the names in the order in which they first occur, each with the value of its last
occurrence. There is only one map like that (`Attributes.gathers_iff`), and entries with distinct
names are it already (`Attributes.ofList_of_nodup`).
-/

namespace Markup.Attributes

variable {α : Type}

/-! ### What one exchange does -/

/-- A name is looked up in the first entry and then in the others. -/
theorem lookup_entries_cons (name other : String) (held : α) (rest : List (String × α)) :
    ((other, held) :: rest).lookup name = if name = other then some held else rest.lookup name := by
  rw [List.lookup_cons]
  by_cases same : name = other
  · simp [same]
  · rw [beq_false_of_ne same, if_neg same]

/-- An exchange hands back the value that the name had. -/
theorem fst_exchangeEntry (name : String) (value : α) (entries : List (String × α)) :
    (exchangeEntry name value entries).1 = entries.lookup name := by
  induction entries with
  | nil => rfl
  | cons entry rest ih =>
    obtain ⟨other, held⟩ := entry
    rw [lookup_entries_cons]
    by_cases same : other = name
    · simp [exchangeEntry, same]
    · simp [exchangeEntry, same, ih, Ne.symm same]

/-- After an exchange the name has its new value, and every other name the value that it had. -/
theorem lookup_exchangeEntry (name other : String) (value : α) (entries : List (String × α)) :
    (exchangeEntry name value entries).2.lookup other =
      if other = name then some value else entries.lookup other := by
  induction entries with
  | nil => exact lookup_entries_cons other name value []
  | cons entry rest ih =>
    obtain ⟨first, held⟩ := entry
    by_cases here : first = name
    · subst here
      simp only [exchangeEntry, ↓reduceIte, lookup_entries_cons]
      split <;> rfl
    · simp only [exchangeEntry, if_neg here, lookup_entries_cons, ih]
      by_cases same : other = first
      · simp [same, here]
      · simp [same]

/-- A name has a value exactly if it is one of the names. -/
theorem isSome_lookup_iff {entries : List (String × α)} {name : String} :
    (entries.lookup name).isSome = true ↔ name ∈ entries.map Prod.fst := by
  simp [List.lookup_isSome_iff, @eq_comm _ name]

/-- A name that is not there has no value. -/
theorem lookup_eq_none {entries : List (String × α)} {name : String}
    (h : name ∉ entries.map Prod.fst) : entries.lookup name = none :=
  Option.not_isSome_iff_eq_none.1 (mt isSome_lookup_iff.1 h)

/-- What giving a name a value means: the value that the name had is handed back, and afterwards the
name has the new value and all other names have theirs. The names that were there keep their order,
and only a new name makes the map longer. -/
structure Updates (before : Attributes α) (name : String) (value : α) (previous : Option α)
    (after : Attributes α) : Prop where
  /-- The value that the name had is handed back. -/
  previous_eq : previous = before.get? name
  /-- The name has the new value. -/
  get?_self : after.get? name = some value
  /-- Other names have the values that they had. -/
  get?_of_ne : ∀ other, other ≠ name → after.get? other = before.get? other
  /-- A name that is not new leaves the names as they are; a new one comes last. -/
  names_eq : after.names =
    if (before.get? name).isSome then before.names else before.names ++ [name]
  /-- The map grows by one exactly if the name is new. -/
  size_eq : after.size = if (before.get? name).isSome then before.size else before.size + 1

/-- **An exchange gives a name a value.** -/
theorem updates_exchange (attrs : Attributes α) (name : String) (value : α) :
    attrs.Updates name value (attrs.exchange name value).1 (attrs.exchange name value).2 := by
  have values : ∀ other, (attrs.exchange name value).2.get? other =
      if other = name then some value else attrs.get? other :=
    fun other => lookup_exchangeEntry name other value attrs.entries
  have names_eq : (attrs.exchange name value).2.names =
      if (attrs.get? name).isSome then attrs.names else attrs.names ++ [name] := by
    simp only [get?, isSome_lookup_iff]
    exact names_exchangeEntry name value attrs.entries
  have length_names : ∀ map : Attributes α, map.names.length = map.size :=
    fun map => List.length_map _
  refine ⟨fst_exchangeEntry name value attrs.entries, ?_, ?_, names_eq, ?_⟩
  · rw [values, if_pos rfl]
  · intro other ne
    rw [values, if_neg ne]
  · rw [← length_names, names_eq]
    split
    · exact length_names attrs
    · rw [List.length_append, length_names]
      rfl

/-- A new name goes to the end. -/
theorem exchangeEntry_of_not_mem {name : String} (value : α) {entries : List (String × α)}
    (h : name ∉ entries.map Prod.fst) :
    (exchangeEntry name value entries).2 = entries ++ [(name, value)] := by
  induction entries with
  | nil => rfl
  | cons entry rest ih =>
    obtain ⟨other, held⟩ := entry
    rw [List.map_cons, List.mem_cons, not_or] at h
    have other_ne : ¬ other = name := fun eq => h.1 eq.symm
    simp only [exchangeEntry, if_neg other_ne, ih h.2, List.cons_append]

/-- A new name goes to the end of a map. -/
theorem insert_of_not_mem {attrs : Attributes α} {name : String} (value : α)
    (h : name ∉ attrs.names) : attrs.insert name value = ⟨attrs.entries ++ [(name, value)]⟩ := by
  change (⟨(exchangeEntry name value attrs.entries).2⟩ : Attributes α) = _
  rw [exchangeEntry_of_not_mem value h]

/-- What is in a map after an exchange was in it before, or has just been given. -/
theorem mem_entries_exchangeEntry {name : String} {value : α} {entries : List (String × α)}
    {entry : String × α} (mem : entry ∈ (exchangeEntry name value entries).2) :
    entry ∈ entries ∨ entry = (name, value) := by
  induction entries with
  | nil => exact .inr (List.mem_singleton.1 mem)
  | cons first rest ih =>
    obtain ⟨other, held⟩ := first
    by_cases same : other = name
    · simp only [exchangeEntry, if_pos same, List.mem_cons] at mem
      rcases mem with rfl | mem
      · exact .inr (by rw [same])
      · exact .inl (List.mem_cons_of_mem _ mem)
    · simp only [exchangeEntry, if_neg same, List.mem_cons] at mem
      rcases mem with rfl | mem
      · exact .inl List.mem_cons_self
      · exact (ih mem).imp_left (List.mem_cons_of_mem _)

/-! ### What inserting many entries does -/

/-- The map has the names of the entries in the order in which they first occur, each once and with
the value of its last occurrence. -/
structure Gathers (attrs : Attributes α) (entries : List (String × α)) : Prop where
  /-- No name occurs twice. -/
  distinct : attrs.Distinct
  /-- The names come in the order in which they first occur. -/
  names_eq : attrs.names = (entries.map Prod.fst).eraseDups
  /-- A name has the value of its last occurrence. -/
  get?_eq : ∀ name, attrs.get? name = entries.reverse.lookup name

/-- One more name occurs for the first time, or it has occurred before. -/
theorem eraseDups_concat (names : List String) (name : String) :
    (names ++ [name]).eraseDups =
      if name ∈ names then names.eraseDups else names.eraseDups ++ [name] := by
  rw [List.eraseDups_append]
  by_cases mem : name ∈ names
  · simp [List.removeAll, mem]
  · simp [List.removeAll, mem, List.eraseDups_cons]

/-- The map without attributes gathers no entry. -/
theorem gathers_empty : (empty : Attributes α).Gathers [] :=
  ⟨List.nodup_nil, rfl, fun _ => rfl⟩

/-- One more entry is gathered by inserting it. -/
theorem Gathers.insert {attrs : Attributes α} {entries : List (String × α)}
    (h : attrs.Gathers entries) (entry : String × α) :
    (attrs.insert entry.1 entry.2).Gathers (entries ++ [entry]) := by
  obtain ⟨name, value⟩ := entry
  refine ⟨distinct_exchange h.distinct name value, ?_, ?_⟩
  · rw [List.map_append, List.map_singleton, eraseDups_concat]
    refine (names_exchangeEntry name value attrs.entries).trans ?_
    have names : attrs.entries.map Prod.fst = (entries.map Prod.fst).eraseDups := h.names_eq
    simp only [names, List.mem_eraseDups]
  · intro other
    rw [List.reverse_append, List.reverse_singleton, List.singleton_append, lookup_entries_cons,
      ← h.get?_eq]
    exact lookup_exchangeEntry name other value attrs.entries

/-- Inserting more entries gathers them as well. -/
theorem Gathers.foldl {attrs : Attributes α} {entries : List (String × α)}
    (h : attrs.Gathers entries) (more : List (String × α)) :
    (more.foldl (fun map entry => map.insert entry.1 entry.2) attrs).Gathers (entries ++ more) := by
  induction more generalizing attrs entries with
  | nil => rwa [List.append_nil]
  | cons entry more ih =>
    have := ih (h.insert entry)
    rwa [List.append_assoc] at this

/-- Inserting entries one after another gathers them. -/
theorem gathers_ofList (entries : List (String × α)) : (ofList entries).Gathers entries :=
  gathers_empty.foldl entries

/-- A map with distinct names is determined by its names and their values. -/
theorem eq_of_names_eq {attrs attrs' : Attributes α} (distinct : attrs.Distinct)
    (names : attrs.names = attrs'.names) (values : ∀ name, attrs.get? name = attrs'.get? name) :
    attrs = attrs' := by
  obtain ⟨entries⟩ := attrs
  obtain ⟨entries'⟩ := attrs'
  congr 1
  simp only [Distinct, Attributes.names, get?] at distinct names values
  induction entries generalizing entries' with
  | nil =>
    cases entries' with
    | nil => rfl
    | cons => cases names
  | cons entry entries ih =>
    obtain ⟨name, value⟩ := entry
    cases entries' with
    | nil => cases names
    | cons entry' entries' =>
      obtain ⟨name', value'⟩ := entry'
      obtain ⟨rfl, tails⟩ := List.cons.inj names
      obtain ⟨fresh, distinct⟩ := List.nodup_cons.1 distinct
      simp only [lookup_entries_cons] at values
      have first : value = value' := by simpa using values name
      have others : ∀ other, entries.lookup other = entries'.lookup other := by
        intro other
        by_cases same : other = name
        · subst same
          have gone : other ∉ entries'.map Prod.fst := tails ▸ fresh
          rw [lookup_eq_none fresh, lookup_eq_none gone]
        · simpa [same] using values other
      rw [first, ih distinct entries' tails others]

/-- The entries are gathered by one map only. -/
theorem gathers_iff {attrs : Attributes α} {entries : List (String × α)} :
    attrs.Gathers entries ↔ attrs = ofList entries := by
  have gathered := gathers_ofList entries
  constructor
  · intro h
    refine eq_of_names_eq h.distinct ?_ fun name => ?_
    · rw [h.names_eq, gathered.names_eq]
    · rw [h.get?_eq, gathered.get?_eq]
  · rintro rfl
    exact gathered

/-- New names go to the end in their order. -/
theorem foldl_insert_of_nodup {entries : List (String × α)} {attrs : Attributes α}
    (h : (attrs.names ++ entries.map Prod.fst).Nodup) :
    entries.foldl (fun map entry => map.insert entry.1 entry.2) attrs =
      ⟨attrs.entries ++ entries⟩ := by
  induction entries generalizing attrs with
  | nil =>
    rw [List.append_nil]
    rfl
  | cons entry rest ih =>
    obtain ⟨name, value⟩ := entry
    have new : name ∉ attrs.names := by
      intro mem
      exact (List.nodup_append.1 h).2.2 name mem name List.mem_cons_self rfl
    rw [List.foldl_cons, insert_of_not_mem value new, ih]
    · rw [List.append_assoc]
      rfl
    · simpa only [names, List.map_append, List.append_assoc, List.map_cons, List.map_nil,
        List.cons_append, List.nil_append] using h

/-- Entries with distinct names make up a map as they are. -/
theorem ofList_of_nodup {entries : List (String × α)} (h : (entries.map Prod.fst).Nodup) :
    ofList entries = ⟨entries⟩ := by
  have fresh : ((empty : Attributes α).names ++ entries.map Prod.fst).Nodup := h
  exact foldl_insert_of_nodup fresh

/-- A literal is built by inserting its entries, also if it has none. -/
theorem literal_eq (entries : List (String × α)) : literal entries = ofList entries := by
  cases entries <;> rfl

end Markup.Attributes
