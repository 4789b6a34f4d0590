import Mathlib.Data.List.Forall2
import Markup.Proofs.Json.Feeding
import Markup.Value.Document
import Markup.Value.Reading

/-!
# Assembling a tree from a document

`Json.Reads` says that a document is read as a tree wherever a tree value is due: a reader that is
fed the document puts the tree where it belongs and changes nothing else. Reading follows the
document: a list is read if its items are (`Json.reads_array`), and an object is read as a node if
its members are read as the parts of the node (`Json.reads_ofNode`).

An assembly that is inside a container has the container as its innermost frame, and the parts that
it is fed change that frame only. So the two facts rest on what happens to one frame:
`Assembly.feedItems_inside`, `Assembly.feedMembers_attributes` and `Assembly.feedMembers_member?`.
-/

namespace Markup

open Json (Sink)

/-- What a value is in a slot: in place of a content, `null` means that there is none. -/
def Slot.part : Slot → Value → Part
  | .content, .null => .missing
  | _, tree => .value tree

/-- The slot is for a tree value, be it the content of a node. -/
def Slot.TakesTree (slot : Slot) : Prop :=
  slot = .value ∨ slot = .content

/-- The draft with a member filled in, if there is a part for it. -/
def Draft.fill (draft : Draft) (field : Node.Field) (part : Option Part) : Draft :=
  part.elim draft (draft.set field)

/-- Filling in a member leaves the others to be met. -/
theorem Draft.not_mem_met_fill {draft : Draft} {field other : Node.Field} (ne : other ≠ field)
    (fresh : other ∉ draft.met) (part : Option Part) : other ∉ (draft.fill field part).met := by
  cases part with
  | none => exact fresh
  | some part =>
    intro mem
    rcases List.mem_cons.1 mem with eq | mem
    · exact ne eq
    · exact fresh mem

namespace Assembly

/-- The assembly inside one more container. -/
def inside (a : Assembly) (frame : Frame) : Assembly :=
  { a with frames := frame :: a.frames }

/-! ### Beginning -/

/-- A scalar where a tree value is due. -/
theorem scalar_of_takesTree {a : Assembly} (due : a.due.TakesTree) (scalar : Json.Scalar) :
    sink.scalar a scalar = .ok (a.deliver (a.due.part (.ofScalar scalar))) := by
  change (a.due.ofScalar scalar >>= fun part => .ok (a.deliver part)) = _
  rcases due with due | due <;> rw [due] <;> cases scalar <;> rfl

/-- A list where a tree value is due. -/
theorem opening_list {a : Assembly} (due : a.due.TakesTree) (depth : Nat) :
    sink.opening none .list depth a = .ok (a.inside (.items [])) := by
  change (a.mayEnter .list >>= fun _ => a.enter .list) = _
  unfold mayEnter enter
  rcases due with due | due <;> rw [due] <;> rfl

/-- A node where a tree value is due. -/
theorem opening_node {a : Assembly} (due : a.due.TakesTree) (depth : Nat) :
    sink.opening none .object depth a = .ok (a.inside (.members .empty .tag)) := by
  change (a.mayEnter .object >>= fun _ => a.enter .object) = _
  unfold mayEnter enter
  rcases due with due | due <;> rw [due] <;> rfl

/-- An attribute map where one is due. -/
theorem opening_attributes {a : Assembly} (optional : Bool) (due : a.due = .attributes optional)
    (depth : Nat) : sink.opening none .object depth a = .ok (a.inside (.attributes .empty "")) := by
  change (a.mayEnter .object >>= fun _ => a.enter .object) = _
  unfold mayEnter enter
  rw [due]
  rfl

end Assembly

/-- The document is read as the tree, wherever a tree value is due. -/
def Json.Reads (json : Json) (tree : Value) : Prop :=
  ∀ (depth : Nat) (a : Assembly), a.due.TakesTree →
    Assembly.sink.feed none json depth a = .ok (a.deliver (a.due.part tree))

namespace Assembly

/-! ### Lists -/

/-- The items of a list join those read so far. -/
theorem feedItems_inside {items : List Json} {trees : List Value}
    (reads : List.Forall₂ Json.Reads items trees) (depth : Nat) (a : Assembly)
    (read : List Value) :
    sink.feedItems none items depth (a.inside (.items read)) =
      .ok (a.inside (.items (trees.reverse ++ read))) := by
  induction reads generalizing read with
  | nil => rfl
  | @cons item tree items trees head _ ih =>
    have first : sink.feed none item depth (a.inside (.items read)) =
        .ok (a.inside (.items (tree :: read))) := head depth _ (.inl rfl)
    rw [Sink.feedItems_cons_of_feed first rfl, ih, List.reverse_cons, List.append_assoc]
    rfl

/-! ### Attribute maps -/

/-- The members of an attribute map are inserted one after another. -/
theorem feedMembers_attributes {members : List (String × Json)} {entries : List (String × Value)}
    (reads : List.Forall₂ (fun m e => m.1 = e.1 ∧ m.2.Reads e.2) members entries)
    (depth : Nat) (a : Assembly) (read : Attributes Value) (due : String) :
    ∃ last, sink.feedMembers none members depth (a.inside (.attributes read due)) =
      .ok (a.inside (.attributes
        (entries.foldl (fun map entry => map.insert entry.1 entry.2) read) last)) := by
  induction reads generalizing read due with
  | nil => exact ⟨due, rfl⟩
  | @cons m e members entries head _ ih =>
    obtain ⟨name, json⟩ := m
    obtain ⟨name', tree⟩ := e
    obtain ⟨rfl, reads⟩ := head
    obtain ⟨last, rest⟩ := ih (read.insert name tree) name
    refine ⟨last, ?_⟩
    have key : sink.key (a.inside (.attributes read due)) name =
        .ok (some (a.inside (.attributes read name))) := rfl
    rw [Sink.feedMembers_cons_of_key key, reads depth _ (.inl rfl)]
    exact rest

/-- An object is read as the map of its members, where a map is due. -/
theorem feed_attributes {members : List (String × Json)} {entries : List (String × Value)}
    (reads : List.Forall₂ (fun m e => m.1 = e.1 ∧ m.2.Reads e.2) members entries) {a : Assembly}
    (optional : Bool) (due : a.due = .attributes optional) (depth : Nat) :
    sink.feed none (.object members) depth a =
      .ok (a.deliver (.attributes (.ofList entries))) := by
  obtain ⟨last, fed⟩ := feedMembers_attributes reads (depth + 1) a .empty ""
  rw [Sink.feed_object_of_opening (opening_attributes optional due depth), fed]
  rfl

/-! ### Nodes -/

/-- A document fills in a member of a node. -/
def Fills (field : Node.Field) (json : Json) (part : Part) : Prop :=
  ∀ (depth : Nat) (a : Assembly), a.due = .ofField field →
    sink.feed none json depth a = .ok (a.deliver part)

/-- A tag, as it is written. -/
theorem fills_tag (tag : Tag) : Fills .tag tag.toJson (.tag tag) := by
  intro depth a due
  cases tag with
  | name name =>
    change (a.due.ofScalar (.string name) >>= fun part => .ok (a.deliver part)) = _
    rw [due]
    rfl
  | transparent =>
    change (a.due.ofScalar (.boolean false) >>= fun part => .ok (a.deliver part)) = _
    rw [due]
    rfl

/-- An attribute map, from the readings of its members. -/
theorem fills_attrs {members : List (String × Json)} {entries : List (String × Value)}
    (reads : List.Forall₂ (fun m e => m.1 = e.1 ∧ m.2.Reads e.2) members entries) :
    Fills .attrs (.object members) (.attributes (.ofList entries)) :=
  fun depth _ due => feed_attributes reads true due depth

/-- The content, from its reading. -/
theorem fills_content {json : Json} {tree : Value} (reads : json.Reads tree) :
    Fills .content json (Slot.content.part tree) := by
  intro depth a due
  rw [reads depth a (.inr due), due]
  rfl

/-- A member is found by its name. -/
theorem ofName?_name (field : Node.Field) : Node.Field.ofName? field.name = some field := by
  cases field <;> rfl

/-- A member that has not been met is filled in; a missing one changes nothing. -/
theorem feedMembers_member? {field : Node.Field} {json : Option Json} {part : Option Part}
    (fills : Option.Rel (Fills field) json part) (draft : Draft) (fresh : field ∉ draft.met)
    (members : List (String × Json)) (depth : Nat) (a : Assembly) (due : Node.Field) :
    ∃ due', sink.feedMembers none (Json.member? field.name json ++ members) depth
        (a.inside (.members draft due)) =
      sink.feedMembers none members depth
        (a.inside (.members (draft.fill field part) due')) := by
  cases fills with
  | none => exact ⟨due, rfl⟩
  | @some json part fills =>
    refine ⟨field, ?_⟩
    have notMet : draft.met.contains field = false := by
      rw [← Bool.not_eq_true, List.contains_iff_mem]
      exact fresh
    have key : sink.key (a.inside (.members draft due)) field.name =
        .ok (some (a.inside (.members draft field))) := by
      change Assembly.key (a.inside (.members draft due)) field.name = _
      simp only [Assembly.key, inside, ofName?_name, notMet, Bool.false_eq_true, ↓reduceIte]
    change sink.feedMembers none ((field.name, json) :: members) depth _ = _
    rw [Sink.feedMembers_cons_of_key key, fills depth _ rfl]
    rfl

end Assembly

/-! ### Readings -/

namespace Json

open Assembly (Fills)

/-- The word `null` is read as nothing. -/
theorem reads_null : null.Reads .null :=
  fun _ _ due => Assembly.scalar_of_takesTree due .null

/-- A truth value is read as such. -/
theorem reads_boolean (value : Bool) : (boolean value).Reads (.boolean value) :=
  fun _ _ due => Assembly.scalar_of_takesTree due (.boolean value)

/-- A text is read as such. -/
theorem reads_string (value : String) : (string value).Reads (.string value) :=
  fun _ _ due => Assembly.scalar_of_takesTree due (.string value)

/-- A number is read as what its numeral denotes. -/
theorem reads_number {number n : Number} (reread : number.reread = some n) :
    (Json.number number).Reads (.number n.toDouble) := by
  intro depth a due
  rw [Sink.feed, reread]
  exact Assembly.scalar_of_takesTree due (.number n)

/-- A list is read item by item. -/
theorem reads_array {items : List Json} {trees : List Value}
    (reads : List.Forall₂ Json.Reads items trees) : (array items).Reads (.array trees) := by
  intro depth a due
  rw [Sink.feed_array_of_opening (Assembly.opening_list due depth),
    Assembly.feedItems_inside reads]
  change Except.ok (a.deliver (.value (.array (trees.reverse ++ []).reverse))) = _
  rw [List.append_nil, List.reverse_reverse]
  rcases due with due | due <;> rw [due] <;> rfl

/-- An object with the members of a node is read as a node. -/
theorem reads_ofNode {tag attrs content : Option Json} {tagPart attrsPart contentPart : Option Part}
    (htag : Option.Rel (Fills .tag) tag tagPart)
    (hattrs : Option.Rel (Fills .attrs) attrs attrsPart)
    (hcontent : Option.Rel (Fills .content) content contentPart) :
    (ofNode tag attrs content).Reads (.node ⟨tagPart.bind Part.tag?,
      attrsPart.bind Part.attributes?, contentPart.bind Part.value?⟩) := by
  intro depth a due
  have freshAttrs : Node.Field.attrs ∉ (Draft.empty.fill .tag tagPart).met :=
    Draft.not_mem_met_fill (by decide) List.not_mem_nil tagPart
  have freshContent : Node.Field.content ∉
      ((Draft.empty.fill .tag tagPart).fill .attrs attrsPart).met :=
    Draft.not_mem_met_fill (by decide)
      (Draft.not_mem_met_fill (by decide) List.not_mem_nil tagPart) attrsPart
  obtain ⟨due₁, fedTag⟩ := Assembly.feedMembers_member? htag .empty List.not_mem_nil
    (member? "attrs" attrs ++ member? "content" content) (depth + 1) a .tag
  obtain ⟨due₂, fedAttrs⟩ := Assembly.feedMembers_member? hattrs _ freshAttrs
    (member? "content" content) (depth + 1) a due₁
  obtain ⟨due₃, fedContent⟩ := Assembly.feedMembers_member? hcontent _ freshContent
    [] (depth + 1) a due₂
  rw [List.append_nil] at fedContent
  have fed : Assembly.sink.feedMembers none
      (member? "tag" tag ++ (member? "attrs" attrs ++ member? "content" content)) (depth + 1)
      (a.inside (.members .empty .tag)) = _ := fedTag.trans (fedAttrs.trans fedContent)
  rw [ofNode, List.append_assoc, Sink.feed_object_of_opening (Assembly.opening_node due depth), fed]
  have node : (((Draft.empty.fill .tag tagPart).fill .attrs attrsPart).fill .content
      contentPart).node = ⟨tagPart.bind Part.tag?, attrsPart.bind Part.attributes?,
      contentPart.bind Part.value?⟩ := by
    cases tagPart <;> cases attrsPart <;> cases contentPart <;> rfl
  rw [← node]
  rcases due with due | due <;> rw [due] <;> rfl

end Json

end Markup
