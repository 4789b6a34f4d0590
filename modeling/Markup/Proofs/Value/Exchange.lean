import Markup.Proofs.Attributes
import Markup.Proofs.Json.ReadBack
import Markup.Proofs.Tree
import Markup.Proofs.Value.Assembling

/-!
# Exchanging trees as documents

A tree that is written as a document and read again comes back up to one normalisation,
`Value.normal`: a number that is not finite is written as `null`, and a content that comes back as
`null` is missing. Nothing else changes. The tree must have distinct names in every attribute map,
as every map that is built by insertion has, and every finite number in it must be one that reads
back alone (`Value.Exchangeable`).

`Json.reads_toJson` is the heart of it: by induction on the tree, its document is read as its normal
form. With `Json.read_compact` this becomes a statement about text (`Value.read_compact_toJson`).
-/

namespace Markup

/-! ### Normal forms -/

/-- The content that a value comes back as: `null` means that there is none. -/
def Value.present? : Value → Option Value
  | .null => none
  | value => some value

mutual

/-- The tree that comes back from an exchange. -/
def Value.normal : Value → Value
  | .null => .null
  | .boolean value => .boolean value
  | .number value => if value.isFinite then .number value else .null
  | .string value => .string value
  | .array items => .array (Value.normalItems items)
  | .node ⟨tag, attrs, content⟩ =>
    .node ⟨tag, Value.normalAttributes attrs, Value.normalContent content⟩
termination_by structural value => value

/-- The items that come back. -/
def Value.normalItems : List Value → List Value
  | [] => []
  | item :: items => item.normal :: Value.normalItems items
termination_by structural items => items

/-- The entries of an attribute map that come back. -/
def Value.normalEntries : List (String × Value) → List (String × Value)
  | [] => []
  | (name, value) :: entries => (name, value.normal) :: Value.normalEntries entries
termination_by structural entries => entries

/-- The attributes of a node that come back. -/
def Value.normalAttributes : Option (Attributes Value) → Option (Attributes Value)
  | none => none
  | some ⟨entries⟩ => some ⟨Value.normalEntries entries⟩
termination_by structural attrs => attrs

/-- The content of a node that comes back. -/
def Value.normalContent : Option Value → Option Value
  | none => none
  | some value => value.normal.present?
termination_by structural content => content

end

namespace Value

/-- Items come back one by one. -/
theorem normalItems_eq_map (items : List Value) : normalItems items = items.map normal := by
  induction items with
  | nil => rfl
  | cons item items ih => rw [normalItems, ih, List.map_cons]

/-- Entries come back one by one, names and order unchanged. -/
theorem normalEntries_eq_map (entries : List (String × Value)) :
    normalEntries entries = entries.map fun entry => (entry.1, entry.2.normal) := by
  induction entries with
  | nil => rfl
  | cons entry entries ih => rw [normalEntries, ih, List.map_cons]

/-- Items are written one by one. -/
theorem itemsToJson_eq_map (items : List Value) : itemsToJson items = items.map toJson := by
  induction items with
  | nil => rfl
  | cons item items ih => rw [itemsToJson, ih, List.map_cons]

/-- Entries are written one by one. -/
theorem entriesToJson_eq_map (entries : List (String × Value)) :
    entriesToJson entries = entries.map fun entry => (entry.1, entry.2.toJson) := by
  induction entries with
  | nil => rfl
  | cons entry entries ih => rw [entriesToJson, ih, List.map_cons]

/-! ### Trees that can be exchanged -/

/-- Reading the document of a number alone gives the number. -/
def ReadsBack (x : Double) : Prop :=
  Value.read none (Value.number x).toJson.compact = .ok (.number x)

/-- A tree that can be exchanged: names are distinct in every attribute map, and every finite number
reads back alone. -/
structure Exchangeable (tree : Value) : Prop where
  /-- The names of every attribute map are distinct. -/
  distinct : ∀ (n : Node Value) (attrs : Attributes Value), Within (.node n) tree →
    n.attrs = some attrs → attrs.Distinct
  /-- Every finite number reads back. -/
  readsBack : ∀ x : Double, Within (.number x) tree → x.isFinite = true → ReadsBack x

/-- The parts of a tree that can be exchanged can be exchanged. -/
theorem Exchangeable.within {part tree : Value} (h : tree.Exchangeable)
    (inside : Within part tree) : part.Exchangeable where
  distinct n attrs within := h.distinct n attrs (within.trans inside)
  readsBack x within := h.readsBack x (within.trans inside)

/-- A number can be exchanged if it reads back or is not finite. -/
theorem exchangeable_number {x : Double} (back : x.isFinite = true → ReadsBack x) :
    (number x).Exchangeable where
  distinct _ _ within := by cases within
  readsBack y within := by
    cases within
    exact back

/-- A text can be exchanged. -/
theorem exchangeable_string (s : String) : (string s).Exchangeable where
  distinct _ _ within := by cases within
  readsBack _ within := by cases within

/-- Nothing can be exchanged. -/
theorem exchangeable_null : null.Exchangeable where
  distinct _ _ within := by cases within
  readsBack _ within := by cases within

/-- A list can be exchanged if its items can. -/
theorem exchangeable_array {items : List Value} (h : ∀ item ∈ items, item.Exchangeable) :
    (array items).Exchangeable where
  distinct n attrs within has := by
    cases within with
    | item mem inside => exact (h _ mem).distinct n attrs inside has
  readsBack x within finite := by
    cases within with
    | item mem inside => exact (h _ mem).readsBack x inside finite

/-- A node can be exchanged if its attribute names are distinct and its parts can be exchanged. -/
theorem exchangeable_node {n : Node Value}
    (distinct : ∀ attrs, n.attrs = some attrs → attrs.Distinct)
    (attrs : ∀ map, n.attrs = some map → ∀ entry ∈ map.entries, entry.2.Exchangeable)
    (content : ∀ value, n.content = some value → value.Exchangeable) :
    (node n).Exchangeable where
  distinct m map within has := by
    cases within with
    | here => exact distinct map has
    | entry has' mem inside => exact (attrs _ has' _ mem).distinct m map inside has
    | content has' inside => exact (content _ has').distinct m map inside has
  readsBack x within finite := by
    cases within with
    | entry has mem inside => exact (attrs _ has _ mem).readsBack x inside finite
    | content has inside => exact (content _ has).readsBack x inside finite

/-! ### Reading -/

/-- A document that is read as a tree gives the tree when its text is read. -/
theorem read_compact_of_reads {json : Json} {tree : Value}
    (shaped : json.AllNumbers Json.Number.Shaped) (reads : json.Reads tree) :
    Value.read none json.compact = .ok tree := by
  unfold Value.read Assembly.read
  rw [Json.read_compact _ _ _ shaped, reads 0 (.start .value) (.inl rfl)]
  rfl

/-- A finite number is written as a number. -/
theorem toJson_of_isFinite {x : Double} (finite : x.isFinite = true) :
    x.toJson = .number (.real x) := by
  rw [Double.toJson, if_pos finite]

/-- The text of a finite number that reads back alone is a numeral. -/
theorem shaped_of_readsBack {x : Double} (finite : x.isFinite = true) (back : ReadsBack x) :
    (Json.Number.real x).Shaped := by
  unfold ReadsBack Value.read Assembly.read at back
  rw [toJson, toJson_of_isFinite finite, Json.Reader.read_eq_outcome] at back
  cases outcome : (Json.Reader.start (Assembly.start .value)).outcome Assembly.sink none
      (Json.number (.real x)).compact.toList with
  | error fault =>
    rw [outcome] at back
    cases back
  | ok final => exact Json.Reader.scanNumeral_of_outcome (Double.inNumeral_text finite) outcome

/-- A finite number reads back alone exactly if its text is a numeral that denotes it. -/
theorem readsBack_iff {x : Double} (finite : x.isFinite = true) :
    ReadsBack x ↔ (Json.Number.real x).Shaped ∧
      (Json.Number.real x).reread.map Json.Number.toDouble = some x := by
  have whole : (Value.number x).toJson = .number (.real x) := by
    rw [toJson, toJson_of_isFinite finite]
  constructor
  · intro back
    have shaped := shaped_of_readsBack finite back
    refine ⟨shaped, ?_⟩
    unfold ReadsBack at back
    cases reread : (Json.Number.real x).reread with
    | none =>
      unfold Value.read Assembly.read at back
      rw [whole, Json.read_compact _ _ _ (.number shaped), Json.Sink.feed, reread] at back
      cases back
    | some n =>
      have denoted := read_compact_of_reads (.number shaped) (Json.reads_number reread)
      rw [whole, denoted] at back
      cases back
      rfl
  · rintro ⟨shaped, denotes⟩
    obtain ⟨n, reread, rfl⟩ := Option.map_eq_some_iff.1 denotes
    unfold ReadsBack
    rw [whole]
    exact read_compact_of_reads (.number shaped) (Json.reads_number reread)

/-- The significand of the number one is not too large. -/
theorem exchangedOne_significand_lt : 0x10000000000000 < 0x20000000000000 := by decide

/-- The number one. -/
def exchangedOne : Double :=
  .finite false
    ⟨0x10000000000000, 1022, exchangedOne_significand_lt, by decide, .inr (by decide)⟩

/-- The number one reads back. -/
theorem readsBack_exchangedOne : ReadsBack exchangedOne :=
  (readsBack_iff rfl).2 ⟨by decide +kernel, by decide +kernel⟩

/-! ### Writing and reading -/

/-- The numbers of the document of a node are those of its members. -/
theorem allNumbers_ofNode {P : Json.Number → Prop} {tag attrs content : Option Json}
    (htag : ∀ json, tag = some json → json.AllNumbers P)
    (hattrs : ∀ json, attrs = some json → json.AllNumbers P)
    (hcontent : ∀ json, content = some json → json.AllNumbers P) :
    (Json.ofNode tag attrs content).AllNumbers P := by
  have member : ∀ {name : String} {part : Option Json} {m : String × Json},
      m ∈ Json.member? name part → part = some m.2 := by
    intro name part m mem
    cases part with
    | none => cases mem
    | some json => rw [List.mem_singleton.1 mem]
  refine .object fun m mem => ?_
  rcases List.mem_append.1 mem with mem | mem
  · rcases List.mem_append.1 mem with mem | mem
    · exact htag _ (member mem)
    · exact hattrs _ (member mem)
  · exact hcontent _ (member mem)

/-- The numbers of the document of a tree are the finite numbers of the tree. -/
theorem allNumbers_toJson {P : Json.Number → Prop} {tree : Value}
    (h : ∀ x : Double, Within (.number x) tree → x.isFinite = true → P (.real x)) :
    tree.toJson.AllNumbers P := by
  induction tree with
  | null => exact .null
  | boolean value => exact .boolean value
  | number x =>
    rw [toJson, Double.toJson]
    split
    · rename_i finite
      exact .number (h x .here finite)
    · exact .null
  | string value => exact .string value
  | array items ih =>
    rw [toJson, itemsToJson_eq_map]
    refine .array fun json mem => ?_
    obtain ⟨item, itemMem, rfl⟩ := List.mem_map.1 mem
    exact ih item itemMem fun x inside => h x (.item itemMem inside)
  | node tag attrs content ihAttrs ihContent =>
    rw [toJson]
    refine allNumbers_ofNode ?_ ?_ ?_
    · intro json eq
      obtain ⟨tag, -, rfl⟩ := Option.map_eq_some_iff.1 eq
      cases tag with
      | name name => exact .string name
      | transparent => exact .boolean false
    · intro json eq
      rcases attrs with _ | ⟨⟨entries⟩⟩
      · cases eq
      · cases eq
        rw [entriesToJson_eq_map]
        refine .object fun m mem => ?_
        obtain ⟨entry, entryMem, rfl⟩ := List.mem_map.1 mem
        exact ihAttrs ⟨entries⟩ rfl entry entryMem fun x inside => h x (.entry rfl entryMem inside)
    · intro json eq
      rcases content with _ | value
      · cases eq
      · cases eq
        exact ihContent value rfl fun x inside => h x (.content rfl inside)

/-- The document of a tree that can be exchanged has its numbers written as numerals. -/
theorem shaped_toJson {tree : Value} (h : tree.Exchangeable) :
    tree.toJson.AllNumbers Json.Number.Shaped :=
  allNumbers_toJson fun x inside finite => shaped_of_readsBack finite (h.readsBack x inside finite)

end Value

namespace Json

open Assembly (Fills)

/-- What a content is read as, as a part of a node. -/
theorem value?_part_content (tree : Value) : (Slot.content.part tree).value? = tree.present? := by
  cases tree <;> rfl

/-- A number that can be exchanged is read as its normal form. -/
theorem reads_toJson_number {x : Double} (back : x.isFinite = true → Value.ReadsBack x) :
    x.toJson.Reads (Value.number x).normal := by
  rw [Value.normal, Double.toJson]
  split
  · rename_i finite
    obtain ⟨-, denotes⟩ := (Value.readsBack_iff finite).1 (back finite)
    obtain ⟨n, reread, value⟩ := Option.map_eq_some_iff.1 denotes
    have reads := reads_number reread
    rwa [value] at reads
  · exact reads_null

/-- The attributes of a tree that can be exchanged are read as their normal form. -/
theorem fills_attributesToJson {attrs : Option (Attributes Value)}
    (distinct : ∀ map, attrs = some map → map.Distinct)
    (reads : ∀ map, attrs = some map → ∀ entry ∈ map.entries,
      entry.2.toJson.Reads entry.2.normal) :
    Option.Rel (Fills .attrs) (Value.attributesToJson attrs)
      ((Value.normalAttributes attrs).map .attributes) := by
  rcases attrs with _ | ⟨⟨entries⟩⟩
  · exact .none
  · rw [Value.attributesToJson, Value.normalAttributes, Value.entriesToJson_eq_map,
      Value.normalEntries_eq_map]
    have names : ((entries.map fun entry => (entry.1, entry.2.normal)).map Prod.fst).Nodup := by
      rw [List.map_map]
      exact distinct _ rfl
    rw [← Attributes.ofList_of_nodup names]
    refine .some (Assembly.fills_attrs ?_)
    rw [List.forall₂_map_left_iff, List.forall₂_map_right_iff, List.forall₂_same]
    exact fun entry mem => ⟨rfl, reads _ rfl entry mem⟩

/-- The document of a node is read as a node with the same tag, if its attributes and its content
are read. -/
theorem reads_toJson_node (tag : Option Tag) {attrs attrs' : Option (Attributes Value)}
    {content content' : Option Value}
    (attrsRel : Option.Rel (Fills .attrs) (Value.attributesToJson attrs) (attrs'.map .attributes))
    (contentRel : Option.Rel (fun value tree => value.toJson.Reads tree) content content') :
    (Value.node ⟨tag, attrs, content⟩).toJson.Reads
      (.node ⟨tag, attrs', content'.bind Value.present?⟩) := by
  have tagRel : Option.Rel (Fills .tag) (tag.map Tag.toJson) (tag.map .tag) := by
    cases tag with
    | none => exact .none
    | some tag => exact .some (Assembly.fills_tag tag)
  have contentFills : Option.Rel (Fills .content) (Value.contentToJson content)
      (content'.map fun tree => Slot.content.part tree) := by
    cases contentRel with
    | none => exact .none
    | some reads => exact .some (Assembly.fills_content reads)
  have tagBack : (tag.map Part.tag).bind Part.tag? = tag := by cases tag <;> rfl
  have attrsBack : (attrs'.map Part.attributes).bind Part.attributes? = attrs' := by
    cases attrs' <;> rfl
  have contentBack : (content'.map fun tree => Slot.content.part tree).bind Part.value? =
      content'.bind Value.present? := by
    cases content' with
    | none => rfl
    | some tree => exact value?_part_content tree
  have reads := reads_ofNode tagRel attrsRel contentFills
  rw [tagBack, attrsBack, contentBack] at reads
  exact reads

/-- The document of a tree is read as the normal form of the tree. -/
theorem reads_toJson {tree : Value} (h : tree.Exchangeable) : tree.toJson.Reads tree.normal := by
  induction tree with
  | null => exact reads_null
  | boolean value => exact reads_boolean value
  | number x => exact reads_toJson_number (h.readsBack x .here)
  | string value => exact reads_string value
  | array items ih =>
    rw [Value.toJson, Value.normal, Value.itemsToJson_eq_map, Value.normalItems_eq_map]
    refine reads_array ?_
    rw [List.forall₂_map_left_iff, List.forall₂_map_right_iff, List.forall₂_same]
    exact fun item mem => ih item mem (h.within (.item mem .here))
  | node tag attrs content ihAttrs ihContent =>
    have attrsRel := fills_attributesToJson (fun map eq => h.distinct _ map .here eq)
      (fun map eq entry mem => ihAttrs map eq entry mem (h.within (.entry eq mem .here)))
    have contentRel : Option.Rel (fun value tree => value.toJson.Reads tree) content
        (content.map Value.normal) := by
      cases content with
      | none => exact .none
      | some value => exact .some (ihContent value rfl (h.within (.content rfl .here)))
    have contentBack : (content.map Value.normal).bind Value.present? =
        Value.normalContent content := by
      cases content <;> rfl
    rw [Value.normal, ← contentBack]
    exact reads_toJson_node tag attrsRel contentRel

end Json

namespace Value

/-- Reading the text of the document of a tree gives the normal form of the tree. -/
theorem read_compact_toJson {tree : Value} (h : tree.Exchangeable) :
    Value.read none tree.toJson.compact = .ok tree.normal :=
  read_compact_of_reads (shaped_toJson h) (Json.reads_toJson h)

/-- **A tree survives the exchange up to its normal form**, and as it is if it is in normal form. -/
theorem read_written {tree : Value} (h : tree.Exchangeable) :
    Value.read none tree.toJson.compact = .ok tree.normal ∧
      (tree.normal = tree → Value.read none tree.toJson.compact = .ok tree) := by
  refine ⟨read_compact_toJson h, fun normal => ?_⟩
  rw [read_compact_toJson h, normal]

/-- A tree in which the exchange changes an attribute value, a content inside an attribute value, an
item and a content, and leaves the rest as it is. -/
def exchangedTree : Value :=
  .node ⟨some (.name "a"),
    some ⟨[("title", .string "say \"é\"\n"), ("size", .number .nan),
      ("inner", .node ⟨none, none, some .null⟩)]⟩,
    some (.array [.number exchangedOne, .number (.infinite true), .array [],
      .node ⟨some .transparent, none, some (.number .nan)⟩])⟩

/-- The sample tree can be exchanged and comes back changed in four places. -/
theorem read_written_exchangedTree :
    exchangedTree.Exchangeable ∧
      Value.read none exchangedTree.toJson.compact = .ok (.node ⟨some (.name "a"),
        some ⟨[("title", .string "say \"é\"\n"), ("size", .null),
          ("inner", .node ⟨none, none, none⟩)]⟩,
        some (.array [.number exchangedOne, .null, .array [],
          .node ⟨some .transparent, none, none⟩])⟩) := by
  have nan : (number .nan).Exchangeable := exchangeable_number fun finite => nomatch finite
  have single : ∀ {value : Value}, value.Exchangeable →
      ∀ tag, (node ⟨tag, none, some value⟩).Exchangeable := by
    intro value h tag
    refine exchangeable_node (fun _ has => nomatch has) (fun _ has => nomatch has) ?_
    rintro _ ⟨⟩
    exact h
  have exchangeable : exchangedTree.Exchangeable := by
    refine exchangeable_node ?_ ?_ ?_
    · rintro _ ⟨⟩
      unfold Attributes.Distinct
      decide
    · rintro _ ⟨⟩ entry mem
      simp only [List.mem_cons, List.not_mem_nil, or_false] at mem
      rcases mem with rfl | rfl | rfl
      · exact exchangeable_string _
      · exact nan
      · exact single exchangeable_null none
    · rintro _ ⟨⟩
      refine exchangeable_array fun item mem => ?_
      simp only [List.mem_cons, List.not_mem_nil, or_false] at mem
      rcases mem with rfl | rfl | rfl | rfl
      · exact exchangeable_number fun _ => readsBack_exchangedOne
      · exact exchangeable_number fun finite => nomatch finite
      · exact exchangeable_array fun _ mem => absurd mem List.not_mem_nil
      · exact single nan (some .transparent)
  exact ⟨exchangeable, (read_written exchangeable).1⟩

end Value

end Markup
