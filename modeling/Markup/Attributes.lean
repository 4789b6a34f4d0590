/-!
# Attribute maps

The attributes of a node are a map from names to values that remembers the order in which names
were first given, because that is the order in which attributes are written. Giving a name again
replaces its value and leaves it in its place.

`Attributes.exchange` is the one operation that writes; everything else that builds a map goes
through it, so every map so built has pairwise distinct names (`Attributes.distinct_exchange`).
-/

namespace Markup

/-- Attributes by name, in the order in which the names were first given.
Source: `Attributes` (section 10.2) -/
structure Attributes (α : Type) where
  /-- The names and their values, in order. -/
  entries : List (String × α)
deriving DecidableEq

namespace Attributes

variable {α : Type}

/-- The map without attributes. -/
def empty : Attributes α :=
  ⟨[]⟩

/-- The number of attributes. -/
def size (attrs : Attributes α) : Nat :=
  attrs.entries.length

/-- The names, in order. -/
def names (attrs : Attributes α) : List String :=
  attrs.entries.map Prod.fst

/-- No name occurs twice. -/
def Distinct (attrs : Attributes α) : Prop :=
  attrs.names.Nodup

/-- The value of a name.
Source: `get` of `Attributes` -/
def get? (attrs : Attributes α) (name : String) : Option α :=
  attrs.entries.lookup name

/-- Gives a name a value in a list of entries, and hands back the value it had. -/
def exchangeEntry (name : String) (value : α) : List (String × α) → Option α × List (String × α)
  | [] => (none, [(name, value)])
  | (other, held) :: rest =>
    if other = name then (some held, (other, value) :: rest)
    else
      let (previous, rest) := exchangeEntry name value rest
      (previous, (other, held) :: rest)

/-- Gives a name a value, and hands back the value it had. A new name goes to the end; a known one
stays where it is.
Source: `insert` of `Attributes` (section 10.2) -/
def exchange (attrs : Attributes α) (name : String) (value : α) : Option α × Attributes α :=
  let (previous, entries) := exchangeEntry name value attrs.entries
  (previous, ⟨entries⟩)

/-- Gives a name a value. -/
def insert (attrs : Attributes α) (name : String) (value : α) : Attributes α :=
  (attrs.exchange name value).2

/-- The map obtained by inserting the entries one after another.
Source: `FromIterator` for `Attributes` -/
def ofList (entries : List (String × α)) : Attributes α :=
  entries.foldl (fun attrs entry => attrs.insert entry.1 entry.2) empty

/-- The map that a fixed number of entries is converted to.
Source: the conversion of arrays to `Attributes` -/
def ofVector {n : Nat} (entries : Vector (String × α) n) : Attributes α :=
  ofList entries.toList

/-- The map that is written down as a literal. A literal without entries is a case of its own.
Source: `attrs!` -/
def literal : List (String × α) → Attributes α
  | [] => empty
  | entries => ofList entries

/-! ### What an exchange does to the names -/

/-- A known name leaves the names as they are; a new one comes last. -/
theorem names_exchangeEntry (name : String) (value : α) (entries : List (String × α)) :
    (exchangeEntry name value entries).2.map Prod.fst =
      if name ∈ entries.map Prod.fst then entries.map Prod.fst
      else entries.map Prod.fst ++ [name] := by
  induction entries with
  | nil => simp [exchangeEntry]
  | cons entry rest ih =>
    obtain ⟨other, held⟩ := entry
    by_cases h : other = name
    · simp [exchangeEntry, h]
    · have h' : ¬ name = other := fun e => h e.symm
      simp only [exchangeEntry, h, ↓reduceIte, List.map_cons, ih, List.mem_cons, h', false_or]
      split <;> simp

/-- An exchange keeps the names distinct. -/
theorem distinct_exchange {attrs : Attributes α} (h : attrs.Distinct) (name : String) (value : α) :
    (attrs.exchange name value).2.Distinct := by
  simp only [Distinct, names, exchange] at h ⊢
  rw [names_exchangeEntry]
  split
  · exact h
  · rename_i hmem
    exact List.nodup_append.2
      ⟨h, by simp, fun a ha b hb => by
        obtain rfl := List.mem_singleton.1 hb
        exact fun e => hmem (e ▸ ha)⟩

end Attributes

end Markup
