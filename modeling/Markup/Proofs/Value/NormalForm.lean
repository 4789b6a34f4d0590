import Markup.Proofs.Json.StateInvariants
import Markup.Proofs.Value.Exchange

/-!
# What is read is in normal form

Whatever text a tree is read from, the tree is one that an exchange leaves as it is, apart from the
digits of its numbers (`Value.isNormal_of_read`): its numbers are finite, no node in it has a
content that is present and `null`, and the names of every attribute map are distinct.

The containers that are open while a text is read hold parts of the tree that are in normal form
already (`Assembly.IsNormal`). A complete part is put into the innermost container, and there it
matters what the part is for: as the content of a node, `null` is no part at all
(`Slot.yields_ofScalar`). So every call of the reader keeps the containers in normal form
(`Assembly.keeps_isNormal`), and the reader does the rest.
-/

namespace Markup

open Json (Yields)

/-! ### Normal form -/

namespace Value

/-- A tree as it comes out of an exchange. -/
structure IsNormal (tree : Value) : Prop where
  /-- Every number is finite. -/
  finite : ∀ x : Double, Within (.number x) tree → x.isFinite = true
  /-- No content is present and `null`. -/
  present : ∀ n : Node Value, Within (.node n) tree → n.content ≠ some .null
  /-- The names of every attribute map are distinct. -/
  distinct : ∀ (n : Node Value) (attrs : Attributes Value), Within (.node n) tree →
    n.attrs = some attrs → attrs.Distinct

/-- The parts of a tree in normal form are in normal form. -/
theorem IsNormal.within {part tree : Value} (h : tree.IsNormal) (inside : Within part tree) :
    part.IsNormal where
  finite x within := h.finite x (within.trans inside)
  present n within := h.present n (within.trans inside)
  distinct n attrs within := h.distinct n attrs (within.trans inside)

/-- A scalar in range is in normal form. -/
theorem isNormal_ofScalar {scalar : Json.Scalar} (range : scalar.InRange) :
    (ofScalar scalar).IsNormal where
  finite x within := by
    cases scalar with
    | number n =>
      cases within
      exact range
    | null | boolean | string => cases within
  present n within := by cases scalar <;> cases within
  distinct n attrs within := by cases scalar <;> cases within

/-- A list is in normal form if its items are. -/
theorem isNormal_array {items : List Value} (h : ∀ item ∈ items, item.IsNormal) :
    (array items).IsNormal where
  finite x within := by
    cases within with
    | item mem inside => exact (h _ mem).finite x inside
  present n within := by
    cases within with
    | item mem inside => exact (h _ mem).present n inside
  distinct n attrs within := by
    cases within with
    | item mem inside => exact (h _ mem).distinct n attrs inside

end Value

/-- The names are distinct and the values are in normal form. -/
def Attributes.IsNormal (attrs : Attributes Value) : Prop :=
  attrs.Distinct ∧ ∀ entry ∈ attrs.entries, entry.2.IsNormal

namespace Value

/-- A node is in normal form if its attributes and its content are, and the content is not
`null`. -/
theorem isNormal_node {n : Node Value} (attrs : ∀ map, n.attrs = some map → map.IsNormal)
    (content : ∀ value, n.content = some value → value ≠ .null ∧ value.IsNormal) :
    (node n).IsNormal where
  finite x within := by
    cases within with
    | entry has mem inside => exact ((attrs _ has).2 _ mem).finite x inside
    | content has inside => exact (content _ has).2.finite x inside
  present m within := by
    cases within with
    | here => exact fun null => (content _ null).1 rfl
    | entry has mem inside => exact ((attrs _ has).2 _ mem).present m inside
    | content has inside => exact (content _ has).2.present m inside
  distinct m map within := by
    cases within with
    | here => exact fun has => (attrs _ has).1
    | entry has mem inside => exact ((attrs _ has).2 _ mem).distinct m map inside
    | content has inside => exact (content _ has).2.distinct m map inside

/-- The attributes of a node in normal form. -/
theorem IsNormal.attrs {n : Node Value} (h : (node n).IsNormal) {map : Attributes Value}
    (has : n.attrs = some map) : map.IsNormal :=
  ⟨h.distinct n map .here has, fun _ mem => h.within (.entry has mem .here)⟩

/-- The content of a node in normal form. -/
theorem IsNormal.content {n : Node Value} (h : (node n).IsNormal) {value : Value}
    (has : n.content = some value) : value ≠ .null ∧ value.IsNormal :=
  ⟨fun null => h.present n .here (null ▸ has), h.within (.content has .here)⟩

end Value

/-! ### Parts -/

/-- An attribute map stays in normal form when a value in normal form is inserted. -/
theorem Attributes.IsNormal.insert {attrs : Attributes Value} (h : attrs.IsNormal) (name : String)
    {value : Value} (normal : value.IsNormal) : (attrs.insert name value).IsNormal := by
  refine ⟨distinct_exchange h.1 name value, fun entry mem => ?_⟩
  rcases mem_entries_exchangeEntry mem with mem | rfl
  · exact h.2 entry mem
  · exact normal

/-- The part is in normal form. -/
def Part.IsNormal : Part → Prop
  | .value v => v.IsNormal
  | .attributes attrs => attrs.IsNormal
  | .tag _ | .missing => True

/-- The part is in normal form and may stand in the slot: `null` is not a content. -/
structure Part.Suits (part : Part) (slot : Slot) : Prop where
  /-- The part is in normal form. -/
  normal : part.IsNormal
  /-- As a content, it is not `null`. -/
  present : slot = .content → part.value? ≠ some .null

/-- A scalar in range suits its slot. -/
theorem Slot.yields_ofScalar (slot : Slot) {scalar : Json.Scalar} (range : scalar.InRange) :
    Yields (·.Suits slot) (slot.ofScalar scalar) := by
  have normal := Value.isNormal_ofScalar range
  unfold ofScalar
  split
  case h_1 => exact ⟨normal, nofun⟩
  case h_5 notNull =>
    refine ⟨normal, fun _ => ?_⟩
    cases scalar with
    | null => exact (notNull rfl).elim
    | boolean | number | string => exact nofun
  case h_2 => exact ⟨trivial, fun _ => nofun⟩
  case h_3 => exact ⟨trivial, nofun⟩
  case h_4 => exact ⟨trivial, nofun⟩
  case h_6 => exact ⟨trivial, nofun⟩
  case h_7 => exact ⟨trivial, nofun⟩
  all_goals trivial

/-- A node in normal form stays so when a part that suits a member is filled in. -/
theorem Draft.isNormal_set {draft : Draft} (h : (Value.node draft.node).IsNormal)
    (field : Node.Field) {part : Part} (suits : part.Suits (.ofField field)) :
    (Value.node (draft.set field part).node).IsNormal := by
  cases field with
  | tag => exact Value.isNormal_node (fun _ has => h.attrs has) fun _ has => h.content has
  | attrs =>
    refine Value.isNormal_node (fun map has => ?_) fun _ has => h.content has
    cases part with
    | attributes attrs =>
      cases has
      exact suits.normal
    | value | tag | missing => cases has
  | content =>
    refine Value.isNormal_node (fun _ has => h.attrs has) fun value has => ?_
    cases part with
    | value tree =>
      cases has
      exact ⟨fun null => suits.present rfl (by rw [null]; rfl), suits.normal⟩
    | attributes | tag | missing => cases has

/-! ### Containers -/

/-- What an open container holds so far is in normal form. -/
def Frame.IsNormal : Frame → Prop
  | .items read => ∀ item ∈ read, item.IsNormal
  | .members draft _ | .positions draft => (Value.node draft.node).IsNormal
  | .attributes read _ => read.IsNormal

namespace Assembly

/-- Everything that has been read is in normal form. -/
structure IsNormal (a : Assembly) : Prop where
  /-- The open containers. -/
  frames : ∀ frame ∈ a.frames, frame.IsNormal
  /-- The result, if it is there. -/
  result : ∀ part, a.result = some part → part.IsNormal

/-- The innermost container stays in normal form when a part that is due is put into it. -/
theorem isNormal_extend {a : Assembly} {frame : Frame} {outer : List Frame}
    (innermost : a.frames = frame :: outer) (h : frame.IsNormal) {part : Part}
    (suits : part.Suits a.due) : (extend frame part).IsNormal := by
  unfold due at suits
  rw [innermost] at suits
  cases frame with
  | items read =>
    intro item mem
    rcases List.mem_append.1 mem with new | old
    · cases part with
      | value tree =>
        rw [List.mem_singleton.1 new]
        exact suits.normal
      | attributes | tag | missing => cases new
    · exact h item old
  | members draft field => exact Draft.isNormal_set h field suits
  | positions draft =>
    have slot : (draft.next?.map Slot.ofField).getD .content =
        .ofField (draft.next?.getD .content) := by
      cases draft.next? <;> rfl
    exact Draft.isNormal_set h _ (slot ▸ suits)
  | attributes read name =>
    cases part with
    | value tree => exact h.insert name suits.normal
    | attributes | tag | missing => exact h

/-- The innermost container is changed, and nothing else. -/
theorem IsNormal.replace {a : Assembly} (h : a.IsNormal) {frame new : Frame} {outer : List Frame}
    (innermost : a.frames = frame :: outer) (normal : frame.IsNormal → new.IsNormal) :
    ({ a with frames := new :: outer } : Assembly).IsNormal := by
  have frames := h.frames
  rw [innermost] at frames
  obtain ⟨old, others⟩ := List.forall_mem_cons.1 frames
  exact ⟨List.forall_mem_cons.2 ⟨normal old, others⟩, h.result⟩

/-- A part that is due is put where it belongs. -/
theorem IsNormal.deliver {a : Assembly} (h : a.IsNormal) {part : Part} (suits : part.Suits a.due) :
    (a.deliver part).IsNormal := by
  unfold Assembly.deliver
  split
  · refine ⟨h.frames, fun result eq => ?_⟩
    cases eq
    exact suits.normal
  · rename_i frame outer innermost
    exact h.replace innermost fun normal => isNormal_extend innermost normal suits

/-- A complete container in normal form suits any slot. -/
theorem suits_finished {frame : Frame} (h : frame.IsNormal) (slot : Slot) :
    (finished frame).Suits slot := by
  cases frame with
  | items read =>
    refine ⟨Value.isNormal_array fun item mem => ?_, fun _ => nofun⟩
    exact h item (List.mem_reverse.1 mem)
  | members | positions | attributes => exact ⟨h, fun _ => nofun⟩

/-- **Every call keeps what has been read in normal form.** -/
theorem keeps_isNormal : sink.Keeps IsNormal where
  enter {a} h bracket := by
    have inside : ∀ frame : Frame, frame.IsNormal → (a.inside frame).IsNormal := by
      intro frame normal
      exact ⟨List.forall_mem_cons.2 ⟨normal, h.frames⟩, h.result⟩
    have blank : (Value.node Draft.empty.node).IsNormal := Value.isNormal_node nofun nofun
    change Yields _ (a.enter bracket)
    unfold enter
    split
    case h_1 => exact inside (.items []) (List.forall_mem_nil _)
    case h_2 => exact inside (.items []) (List.forall_mem_nil _)
    case h_3 => exact inside (.members .empty .tag) blank
    case h_4 => exact inside (.members .empty .tag) blank
    case h_5 => exact inside (.members .empty .tag) blank
    case h_6 => exact inside (.positions .empty) blank
    case h_7 =>
      exact inside (.attributes .empty "") ⟨List.nodup_nil, List.forall_mem_nil _⟩
    case h_8 => trivial
  key {a} h name := by
    change Yields _ (a.key name)
    unfold key
    split
    · rename_i draft field outer innermost
      split
      · exact nofun
      · split
        · trivial
        · rintro _ ⟨⟩
          exact h.replace innermost id
    · rename_i read due outer innermost
      rintro _ ⟨⟩
      exact h.replace innermost id
    · rintro _ ⟨⟩
      exact h
  scalar {a} h _ range := by
    refine (a.due.yields_ofScalar range).bind fun part suits => ?_
    exact h.deliver suits
  leave {a} h := by
    change Yields _ a.leave
    unfold leave
    split
    · exact h
    · rename_i frame outer innermost
      have frames := h.frames
      rw [innermost] at frames
      obtain ⟨normal, others⟩ := List.forall_mem_cons.1 frames
      have rest : ({ a with frames := outer } : Assembly).IsNormal := ⟨others, h.result⟩
      exact rest.deliver (suits_finished normal _)

end Assembly

namespace Value

/-- An exchange leaves a tree in normal form as it is. -/
theorem IsNormal.normal_eq {tree : Value} (h : tree.IsNormal) : tree.normal = tree := by
  induction tree with
  | null | boolean | string => rfl
  | number x => rw [normal, if_pos (h.finite x .here)]
  | array items ih =>
    have same : items.map normal = items.map id :=
      List.map_congr_left fun item mem => ih item mem (h.within (.item mem .here))
    rw [normal, normalItems_eq_map, same, List.map_id]
  | node tag attrs content ihAttrs ihContent =>
    have sameAttrs : normalAttributes attrs = attrs := by
      rcases attrs with _ | ⟨⟨entries⟩⟩
      · rfl
      · have same : entries.map (fun entry => (entry.1, entry.2.normal)) = entries.map id := by
          refine List.map_congr_left fun entry mem => ?_
          rw [ihAttrs _ rfl entry mem (h.within (.entry rfl mem .here))]
          rfl
        rw [normalAttributes, normalEntries_eq_map, same, List.map_id]
    have sameContent : normalContent content = content := by
      rcases content with _ | value
      · rfl
      · obtain ⟨notNull, normal⟩ := h.content rfl
        rw [normalContent, ihContent value rfl normal]
        cases value with
        | null => exact absurd rfl notNull
        | boolean | number | string | array | node => rfl
    rw [normal, sameAttrs, sameContent]

/-- **Every tree that is read is in normal form**, with or without a nesting limit: whatever the
text, the numbers of the tree are finite at every depth, no node in it has a content that is present
and `null`, and the names of every attribute map in it are distinct. So it is its own normal
form. -/
theorem isNormal_of_read {limit : Option Nat} {text : String} {tree : Value}
    (read : Value.read limit text = .ok tree) : tree.IsNormal ∧ tree.normal = tree := by
  have start : (Assembly.start .value).IsNormal := ⟨List.forall_mem_nil _, nofun⟩
  have yields : Yields IsNormal (Value.read limit text) := by
    refine (Json.read_yields Assembly.keeps_isNormal limit start text).bind fun a normal => ?_
    cases found : a.result.bind Part.value? with
    | none => trivial
    | some tree =>
      obtain ⟨part, result, value⟩ := Option.bind_eq_some_iff.1 found
      cases part with
      | value other =>
        cases value
        exact normal.result _ result
      | attributes | tag | missing => cases value
  rw [read] at yields
  exact ⟨yields, IsNormal.normal_eq yields⟩

/-- A text with a repeated attribute, a content that is `null` inside an attribute value, and a
number that is out of range where nobody looks. -/
def crowdedText : String :=
  "\x7b\"attrs\":\x7b\"k\":1,\"k\":\x7b\"content\":null\x7d\x7d,\"content\":[25e-1],\"x\":1e999\x7d"

/-- The sample text is read as a tree, and the tree is in normal form. -/
theorem isNormal_of_read_crowdedText :
    ∃ tree, Value.read none crowdedText = .ok tree ∧ tree.IsNormal ∧ tree.normal = tree ∧
      tree.toJson.compact = "\x7b\"attrs\":\x7b\"k\":\x7b\x7d\x7d,\"content\":[2.5]\x7d" := by
  have written : (Value.read none crowdedText).toOption.map (·.toJson.compact) =
      some "\x7b\"attrs\":\x7b\"k\":\x7b\x7d\x7d,\"content\":[2.5]\x7d" := by decide +kernel
  cases read : Value.read none crowdedText with
  | error fault =>
    rw [read] at written
    cases written
  | ok tree =>
    rw [read] at written
    obtain ⟨normal, same⟩ := isNormal_of_read read
    exact ⟨tree, rfl, normal, same, Option.some.inj written⟩

end Value

end Markup
