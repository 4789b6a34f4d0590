import Markup.Proofs.Value.Nesting
import Markup.Proofs.Value.Numbers

/-!
# Attribute maps, however they are built

Entries become an attribute map in several ways: they are inserted one by one, collected, converted
from an array, written down as a literal, given to a node, or read from a document. All of them
give the same map (`Attributes.routes_agree`), with every name in the place of its first occurrence
and with the value of its last one.

A document can say so only of values that it does not change (`Value.Survives`). The document of
any tree is read as some tree (`Json.exists_reads_toJson`), so a value that survives on its own is
read as itself inside any other document (`Value.Survives.reads`).
-/

namespace Markup

/-! ### Giving attributes to a node -/

/-- The node after attributes have been given to it, one after another. -/
def Node.setAttributes {α : Type} (node : Node α) (entries : List (String × α)) : Node α :=
  entries.foldl (fun node entry => (node.setAttribute entry.1 entry.2).2) node

/-- Attributes that are given to a node are inserted into the map that it has, or into a new one. -/
theorem Node.setAttributes_eq {α : Type} (node : Node α) {entries : List (String × α)}
    (nonempty : entries ≠ []) :
    node.setAttributes entries = node.withAttributes
      (entries.foldl (fun map entry => map.insert entry.1 entry.2) (node.attrs.getD .empty)) := by
  induction entries generalizing node with
  | nil => exact absurd rfl nonempty
  | cons entry entries ih =>
    have first : node.setAttributes (entry :: entries) =
        (node.withAttributes ((node.attrs.getD .empty).insert entry.1 entry.2)).setAttributes
          entries := rfl
    rw [first, List.foldl_cons]
    by_cases last : entries = []
    · subst last
      rfl
    · rw [ih _ last]
      rfl

/-! ### Values that survive the exchange -/

/-- The value comes back from its document as it was. -/
def Value.Survives (tree : Value) : Prop :=
  Value.read none tree.toJson.compact = .ok tree

namespace Json

/-- Where everything in a list is related to something, so is the list. -/
theorem exists_forall₂ {α β : Type} {R : α → β → Prop} {as : List α}
    (h : ∀ a ∈ as, ∃ b, R a b) : ∃ bs, List.Forall₂ R as bs := by
  induction as with
  | nil => exact ⟨[], .nil⟩
  | cons a as ih =>
    obtain ⟨b, first⟩ := h a List.mem_cons_self
    obtain ⟨bs, others⟩ := ih fun a mem => h a (List.mem_cons_of_mem _ mem)
    exact ⟨b :: bs, .cons first others⟩

/-- The members for entries are read if the values of the entries are. -/
theorem reads_entriesToJson {entries entries' : List (String × Value)}
    (h : List.Forall₂ (fun entry entry' => entry.1 = entry'.1 ∧ entry.2.toJson.Reads entry'.2)
      entries entries') :
    List.Forall₂ (fun member entry => member.1 = entry.1 ∧ member.2.Reads entry.2)
      (Value.entriesToJson entries) entries' := by
  rw [Value.entriesToJson_eq_map, List.forall₂_map_left_iff]
  exact h

/-- The members for entries are read as some entries if every value is read. -/
theorem exists_reads_entries {entries : List (String × Value)}
    (h : ∀ entry ∈ entries, ∃ back, entry.2.toJson.Reads back) :
    ∃ entries' : List (String × Value),
      List.Forall₂ (fun member entry => member.1 = entry.1 ∧ member.2.Reads entry.2)
        (Value.entriesToJson entries) entries' := by
  have related : ∀ entry ∈ entries, ∃ entry' : String × Value,
      entry.1 = entry'.1 ∧ entry.2.toJson.Reads entry'.2 := by
    intro entry mem
    obtain ⟨back, reads⟩ := h entry mem
    exact ⟨(entry.1, back), rfl, reads⟩
  obtain ⟨entries', reads⟩ := exists_forall₂ related
  exact ⟨entries', reads_entriesToJson reads⟩

/-- The document of any finite number is read as some number, and that of any other as nothing. -/
theorem exists_reads_number (x : Double) : ∃ back, (Value.number x).toJson.Reads back := by
  cases x with
  | finite negative x =>
    obtain ⟨y, comes_back⟩ := x.exists_exchanged
    obtain ⟨-, reread⟩ := Number.reread_finite negative x
    rw [comes_back] at reread
    exact ⟨_, reads_number reread⟩
  | nan | infinite => exact ⟨.null, reads_null⟩

/-- **The document of any tree is read as some tree.** -/
theorem exists_reads_toJson (tree : Value) : ∃ back, tree.toJson.Reads back := by
  induction tree with
  | null => exact ⟨.null, reads_null⟩
  | boolean value => exact ⟨.boolean value, reads_boolean value⟩
  | number x => exact exists_reads_number x
  | string value => exact ⟨.string value, reads_string value⟩
  | array items ih =>
    obtain ⟨trees, reads⟩ := exists_forall₂ ih
    refine ⟨.array trees, ?_⟩
    rw [Value.toJson, Value.itemsToJson_eq_map]
    exact reads_array (List.forall₂_map_left_iff.2 reads)
  | node tag attrs content ihAttrs ihContent =>
    obtain ⟨attrs', attrsRel⟩ : ∃ attrs' : Option (Attributes Value), Option.Rel
        (Assembly.Fills .attrs) (Value.attributesToJson attrs) (attrs'.map .attributes) := by
      rcases attrs with _ | ⟨⟨entries⟩⟩
      · exact ⟨none, .none⟩
      · obtain ⟨entries', reads⟩ := exists_reads_entries (ihAttrs _ rfl)
        exact ⟨some (.ofList entries'), .some (Assembly.fills_attrs reads)⟩
    obtain ⟨content', contentRel⟩ : ∃ content' : Option Value,
        Option.Rel (fun value tree => value.toJson.Reads tree) content content' := by
      cases content with
      | none => exact ⟨none, .none⟩
      | some value =>
        obtain ⟨back, reads⟩ := ihContent value rfl
        exact ⟨some back, .some reads⟩
    exact ⟨_, reads_toJson_node tag attrsRel contentRel⟩

/-- The numbers in the document of any tree are written as numerals. -/
theorem allNumbers_shaped_toJson (tree : Value) : tree.toJson.AllNumbers Number.Shaped := by
  refine Value.allNumbers_toJson fun x _ finite => ?_
  cases x with
  | finite negative x => exact (Number.reread_finite negative x).1
  | nan | infinite => cases finite

end Json

/-- A value that survives the exchange is read as itself in any document. -/
theorem Value.Survives.reads {tree : Value} (h : tree.Survives) : tree.toJson.Reads tree := by
  obtain ⟨back, reads⟩ := Json.exists_reads_toJson tree
  have same : back = tree := by
    have answer := Value.read_compact_of_reads (Json.allNumbers_shaped_toJson tree) reads
    rw [h] at answer
    exact (Except.ok.inj answer).symm
  rwa [same] at reads

namespace Attributes

/-! ### Reading -/

/-- The document of entries, as they are and with the names that they have. -/
def document (entries : List (String × Value)) : Json :=
  .object (Value.entriesToJson entries)

/-- The numbers in it are written as numerals. -/
theorem allNumbers_document (entries : List (String × Value)) :
    (document entries).AllNumbers Json.Number.Shaped := by
  rw [document, Value.entriesToJson_eq_map]
  refine .object fun m mem => ?_
  obtain ⟨entry, -, rfl⟩ := List.mem_map.1 mem
  exact Json.allNumbers_shaped_toJson entry.2

section

variable {entries : List (String × Value)} (survives : ∀ entry ∈ entries, entry.2.Survives)
include survives

/-- The members are read as the entries. -/
theorem reads_of_survives :
    List.Forall₂ (fun member entry => member.1 = entry.1 ∧ member.2.Reads entry.2)
      (Value.entriesToJson entries) entries := by
  refine Json.reads_entriesToJson (List.forall₂_same.2 fun entry mem => ?_)
  exact ⟨rfl, (survives entry mem).reads⟩

/-- As the attributes of a node, the document is read as the map of the entries. -/
theorem read_node_document :
    Value.read none (Json.ofNode none (some (document entries)) none).compact =
      .ok (.node (.ofAttributes (ofList entries))) := by
  have shaped : (Json.ofNode none (some (document entries)) none).AllNumbers
      Json.Number.Shaped := by
    refine Value.allNumbers_ofNode ?_ ?_ ?_
    · exact fun _ eq => nomatch eq
    · rintro _ ⟨⟩
      exact allNumbers_document entries
    · exact fun _ eq => nomatch eq
  have fills := Assembly.fills_attrs (reads_of_survives survives)
  exact Value.read_compact_of_reads shaped (Json.reads_ofNode .none (.some fills) .none)

/-- On its own, the document is read as the map of the entries, unless it is nested too deep. -/
theorem read_document :
    Attributes.read (document entries).compact = .ok (ofList entries) ∨
      Attributes.read (document entries).compact = .error .tooDeep ∧
        ∃ before, before <+: (document entries).compact.toList ∧
          Json.nestingLimit < Json.openContainers before := by
  have unlimited : Json.read Assembly.sink none (.start (.attributes false))
      (document entries).compact = .ok ((Assembly.start (.attributes false)).deliver
        (.attributes (ofList entries))) := by
    rw [Json.read_compact _ _ _ (allNumbers_document entries)]
    exact Assembly.feed_attributes (reads_of_survives survives) false rfl 0
  unfold Attributes.read Assembly.read
  obtain ⟨-, same | ⟨deep, exceeded⟩⟩ := Json.read_curbed Assembly.unbounded_sink
    Json.nestingLimit (.start (.attributes false)) (document entries).compact
  · rw [same, unlimited]
    exact .inl rfl
  · rw [deep]
    exact .inr ⟨rfl, exceeded⟩

end

/-! ### All ways agree -/

/-- **However entries become an attribute map, it is the same map**: the only one that has their
names in the order in which they first occur, each once and with the value of its last occurrence.
And whatever map there is, giving a name a value hands back the value that the name had and changes
nothing else. -/
theorem routes_agree (entries : List (String × Value)) :
    (∀ map : Attributes Value, map.Gathers entries ↔ map = ofList entries) ∧
    entries.foldl (fun map entry => (map.exchange entry.1 entry.2).2) empty = ofList entries ∧
    ofVector entries.toArray.toVector = ofList entries ∧
    literal entries = ofList entries ∧
    (entries ≠ [] → ∀ node : Node Value, node.attrs = none →
      node.setAttributes entries = node.withAttributes (ofList entries)) ∧
    ((∀ entry ∈ entries, entry.2.Survives) →
      Value.read none (Json.ofNode none (some (document entries)) none).compact =
        .ok (.node (.ofAttributes (ofList entries))) ∧
      (Attributes.read (document entries).compact = .ok (ofList entries) ∨
        Attributes.read (document entries).compact = .error .tooDeep ∧
          ∃ before, before <+: (document entries).compact.toList ∧
            Json.nestingLimit < Json.openContainers before)) ∧
    ∀ (map : Attributes Value) (name : String) (value : Value),
      map.Updates name value (map.exchange name value).1 (map.exchange name value).2 := by
  refine ⟨fun _ => gathers_iff, rfl, rfl, literal_eq entries, ?_, ?_, updates_exchange⟩
  · intro nonempty node bare
    rw [Node.setAttributes_eq node nonempty, bare]
    rfl
  · intro survives
    exact ⟨read_node_document survives, read_document survives⟩

/-- Entries of which the last one repeats the name of the first. -/
def repeatedEntries : List (String × Value) :=
  [("a", .string "x"), ("b", .number Value.exchangedOne), ("a", .boolean true)]

/-- The repeated name stays in the first place and has the last value, in a node as in a
document. -/
theorem routes_agree_repeatedEntries :
    repeatedEntries ≠ [] ∧ (∀ entry ∈ repeatedEntries, entry.2.Survives) ∧
      (Node.named "p").setAttributes repeatedEntries = (Node.named "p").withAttributes
        ⟨[("a", .boolean true), ("b", .number Value.exchangedOne)]⟩ ∧
      Value.read none (Json.ofNode none (some (document repeatedEntries)) none).compact =
        .ok (.node (.ofAttributes
          ⟨[("a", .boolean true), ("b", .number Value.exchangedOne)]⟩)) := by
  have nonempty : repeatedEntries ≠ [] := List.cons_ne_nil _ _
  have survives : ∀ entry ∈ repeatedEntries, entry.2.Survives := by
    intro entry mem
    simp only [repeatedEntries, List.mem_cons, List.not_mem_nil, or_false] at mem
    rcases mem with rfl | rfl | rfl
    · exact Value.read_compact_of_reads (.string "x") (Json.reads_string "x")
    · exact Value.readsBack_exchangedOne
    · exact Value.read_compact_of_reads (.boolean true) (Json.reads_boolean true)
  obtain ⟨-, -, -, -, given, read, -⟩ := routes_agree repeatedEntries
  exact ⟨nonempty, survives, given nonempty _ rfl, (read survives).1⟩

end Attributes

end Markup
