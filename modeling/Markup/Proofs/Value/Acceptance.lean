import Markup.Proofs.Json.Integers
import Markup.Proofs.Value.Schema

/-!
# Reading accepts the documents that stand for trees

A tree is read in one pass, and its members are checked as they come. `Json.decode` says what the
outcome should be of the document as a whole, and here the two are shown to agree, in both
directions: reading the text of a document succeeds exactly if the document stands for a tree, and
gives that tree (`Value.toOption_read_compact`).

The reader is in one of three situations where it comes upon a document: a tree value is due, or the
tag of a node, or its attributes. `Json.Decodes` and `Json.DecodesAs` say for the situations that
feeding the document comes to decoding it. Inside a node, the state of reading is a draft, and
`Draft.completion` is what the members that are still to come make of it; each member takes one step
(`Draft.completion_fresh`, `Draft.completion_met`).
-/

namespace Markup

/-- A computation in two steps has a result if both steps have. -/
theorem toOption_bind {ε α β : Type} (x : Except ε α) (f : α → Except ε β) :
    (x >>= f).toOption = x.toOption.bind fun a => (f a).toOption := by
  cases x <;> rfl

/-- A computation that has a result succeeds. -/
theorem eq_ok_of_toOption {ε α : Type} {x : Except ε α} {a : α} (h : x.toOption = some a) :
    x = .ok a := by
  cases x with
  | error => cases h
  | ok => cases h; rfl

/-! ### Drafts -/

/-- The part of a node that a document is as the given member. -/
def Node.Field.decode (field : Node.Field) (json : Json) : Option Part :=
  match field with
  | .tag => json.decodeTag.map fun tag => tag.elim .missing .tag
  | .attrs => json.decodeAttributes.map fun attrs => attrs.elim .missing .attributes
  | .content => json.decode.map Slot.content.part

/-- A member that a node does not know has another name. -/
theorem Node.Field.not_isField_of_ofName? {name : String} (h : Node.Field.ofName? name = none) :
    ¬ Json.IsField name := by
  rintro (rfl | rfl | rfl) <;> cases h

/-- A member that a node knows is called by its name. -/
theorem Node.Field.eq_name_of_ofName? {name : String} {field : Node.Field}
    (h : Node.Field.ofName? name = some field) : name = field.name := by
  have found := List.find?_some h
  simpa using (beq_iff_eq.1 found).symm

namespace Draft

variable {draft : Draft}

/-- A member that has not been met is missing. -/
structure Sound (draft : Draft) : Prop where
  /-- The tag. -/
  tag : draft.met.contains .tag = false → draft.node.tag = none
  /-- The attributes. -/
  attrs : draft.met.contains .attrs = false → draft.node.attrs = none
  /-- The content. -/
  content : draft.met.contains .content = false → draft.node.content = none

/-- Nothing has been met, and everything is missing. -/
theorem sound_empty : Draft.empty.Sound :=
  ⟨fun _ => rfl, fun _ => rfl, fun _ => rfl⟩

/-- Filling in a member leaves the others as they are. -/
theorem Sound.set (h : draft.Sound) (field : Node.Field) (part : Part) :
    (draft.set field part).Sound := by
  cases field with
  | tag => exact ⟨by simp [Draft.set], by simpa [Draft.set] using h.attrs,
      by simpa [Draft.set] using h.content⟩
  | attrs => exact ⟨by simpa [Draft.set] using h.tag, by simp [Draft.set],
      by simpa [Draft.set] using h.content⟩
  | content => exact ⟨by simpa [Draft.set] using h.tag, by simpa [Draft.set] using h.attrs,
      by simp [Draft.set]⟩

/-- What has been met of a member. -/
def seen {α : Type} (draft : Draft) (field : Node.Field) (value : Option α) :
    List (Option (Option α)) :=
  if draft.met.contains field then [some value] else []

/-- The node that a draft and the members to come make up. -/
def completion (draft : Draft) (members : List (String × Json)) : Option (Node Value) :=
  Json.decodedNode (draft.seen .tag draft.node.tag ++ Json.given "tag" Json.decodeTag members)
    (draft.seen .attrs draft.node.attrs ++ Json.given "attrs" Json.decodeAttributes members)
    (draft.seen .content draft.node.content ++ Json.given "content" Json.decodeContent members)

section

variable {α : Type} {field : Node.Field} {value : Option α}

/-- A member that has been met has been seen once. -/
theorem seen_of_met (met : draft.met.contains field = true) :
    draft.seen field value = [some value] := if_pos met

/-- A member that has not been met has not been seen. -/
theorem seen_of_fresh (fresh : draft.met.contains field = false) : draft.seen field value = [] :=
  if_neg (Bool.eq_false_iff.1 fresh)

/-- A member that has just been set has been seen. -/
theorem seen_set_self (part : Part) : (draft.set field part).seen field value = [some value] :=
  seen_of_met (by simp [Draft.set])

/-- Setting a member does not change what has been seen of the others. -/
theorem seen_set_of_ne {other : Node.Field} (ne : other ≠ field) (part : Part) :
    (draft.set field part).seen other value = draft.seen other value := by
  simp [seen, Draft.set, ne]

/-- A member that is met once is what it was met as. -/
theorem atMostOnce_seen (h : draft.met.contains field = false → value = none) :
    Json.atMostOnce (draft.seen field value) = some value := by
  cases met : draft.met.contains field with
  | true =>
    rw [seen_of_met met]
    rfl
  | false =>
    rw [seen_of_fresh met, h met]
    rfl

end

/-- Without members to come, the draft is complete. -/
theorem completion_nil (sound : draft.Sound) : draft.completion [] = some draft.node := by
  unfold completion Json.decodedNode
  rw [Json.given_nil, Json.given_nil, Json.given_nil, List.append_nil, List.append_nil,
    List.append_nil, atMostOnce_seen sound.tag, atMostOnce_seen sound.attrs,
    atMostOnce_seen sound.content]
  rfl

/-- A member that a node does not know makes no difference. -/
theorem completion_unknown {name : String} (unknown : ¬ Json.IsField name) (json : Json)
    (members : List (String × Json)) :
    draft.completion ((name, json) :: members) = draft.completion members := by
  obtain ⟨notTag, notAttrs, notContent⟩ := Json.not_isField.1 unknown
  simp only [completion, Json.given_cons_of_ne notTag, Json.given_cons_of_ne notAttrs,
    Json.given_cons_of_ne notContent]

/-- A member that is met again is given too often. -/
theorem completion_met {field : Node.Field} (met : draft.met.contains field = true) (json : Json)
    (members : List (String × Json)) :
    draft.completion ((field.name, json) :: members) = none := by
  unfold completion Json.decodedNode
  cases field <;> simp [seen_of_met met, Node.Field.name, Json.given_cons_self]

/-- A member that is met for the first time is filled in, if it is what it should be. -/
theorem completion_fresh {field : Node.Field} (fresh : draft.met.contains field = false)
    (json : Json) (members : List (String × Json)) :
    draft.completion ((field.name, json) :: members) =
      (field.decode json).bind fun part => (draft.set field part).completion members := by
  unfold completion
  cases field with
  | tag =>
    simp only [Node.Field.name, Json.given_cons_self, seen_of_fresh fresh, seen_set_self,
      Json.given_cons_of_ne (show "tag" ≠ "attrs" by decide), List.nil_append, List.cons_append,
      Json.given_cons_of_ne (show "tag" ≠ "content" by decide), Node.Field.decode,
      seen_set_of_ne (show Node.Field.attrs ≠ .tag by decide),
      seen_set_of_ne (show Node.Field.content ≠ .tag by decide)]
    cases json.decodeTag with
    | none => simp [Json.decodedNode]
    | some tag => cases tag <;> rfl
  | attrs =>
    simp only [Node.Field.name, Json.given_cons_self, seen_of_fresh fresh, seen_set_self,
      Json.given_cons_of_ne (show "attrs" ≠ "tag" by decide), List.nil_append, List.cons_append,
      Json.given_cons_of_ne (show "attrs" ≠ "content" by decide), Node.Field.decode,
      seen_set_of_ne (show Node.Field.tag ≠ .attrs by decide),
      seen_set_of_ne (show Node.Field.content ≠ .attrs by decide)]
    cases json.decodeAttributes with
    | none => simp [Json.decodedNode]
    | some attrs => cases attrs <;> rfl
  | content =>
    simp only [Node.Field.name, Json.given_cons_self, seen_of_fresh fresh, seen_set_self,
      Json.given_cons_of_ne (show "content" ≠ "tag" by decide), List.nil_append, List.cons_append,
      Json.given_cons_of_ne (show "content" ≠ "attrs" by decide), Node.Field.decode,
      seen_set_of_ne (show Node.Field.tag ≠ .content by decide),
      seen_set_of_ne (show Node.Field.attrs ≠ .content by decide), Json.decodeContent]
    cases json.decode with
    | none => simp [Json.decodedNode]
    | some tree => cases tree <;> rfl

end Draft

/-! ### Feeding comes to decoding -/

/-- A scalar is put where it belongs, if it belongs there. -/
theorem Assembly.scalar_eq (a : Assembly) (scalar : Json.Scalar) :
    sink.scalar a scalar = a.due.ofScalar scalar >>= fun part => .ok (a.deliver part) := rfl

/-- Without a nesting limit, a container begins if it may stand here. -/
theorem Assembly.opening_eq (a : Assembly) (bracket : Json.Bracket) (depth : Nat) :
    sink.opening none bracket depth a = a.mayEnter bracket >>= fun _ => a.enter bracket := rfl

namespace Json

open Assembly (inside)

/-- Where a tree value is due, feeding the document comes to decoding it. -/
def Decodes (json : Json) : Prop :=
  ∀ (depth : Nat) (a : Assembly), a.due.TakesTree →
    (Assembly.sink.feed none json depth a).toOption =
      json.decode.map fun tree => a.deliver (a.due.part tree)

/-- Where a member of a node is due, feeding the document comes to decoding it as the member. -/
def DecodesAs (field : Node.Field) (json : Json) : Prop :=
  ∀ (depth : Nat) (a : Assembly), a.due = .ofField field →
    (Assembly.sink.feed none json depth a).toOption = (field.decode json).map a.deliver

/-- Where the content of a node is due, a tree value is. -/
theorem Decodes.decodesAs_content {json : Json} (decodes : json.Decodes) :
    json.DecodesAs .content := by
  intro depth a due
  rw [decodes depth a (.inr due), due, Node.Field.decode, Option.map_map]
  rfl

/-- Scalars stand for themselves. -/
theorem decodes_of_scalar {json : Json} {s : Scalar}
    (fed : ∀ depth a, Assembly.sink.feed none json depth a = Assembly.sink.scalar a s)
    (decoded : json.decode = some (.ofScalar s)) : json.Decodes := by
  intro depth a due
  rw [fed, Assembly.scalar_of_takesTree due, decoded]
  rfl

/-- The items of a list are decoded one after another. -/
theorem toOption_feedItems {items : List Json} (decodes : ∀ item ∈ items, item.Decodes)
    (depth : Nat) (a : Assembly) (read : List Value) :
    (Assembly.sink.feedItems none items depth (a.inside (.items read)) >>=
        Assembly.sink.leave).toOption =
      (decodeItems items).map fun trees =>
        a.deliver (.value (.array (read.reverse ++ trees))) := by
  induction items generalizing read with
  | nil =>
    rw [decodeItems, Option.map_some, List.append_nil]
    rfl
  | cons item items ih =>
    have first := decodes item List.mem_cons_self depth (a.inside (.items read)) (.inl rfl)
    rw [decodeItems]
    cases decoded : item.decode with
    | none =>
      rw [decoded] at first
      rw [Sink.feedItems, bind_assoc, toOption_bind, first]
      rfl
    | some tree =>
      rw [decoded] at first
      have rest := ih (fun item mem => decodes item (List.mem_cons_of_mem _ mem)) (tree :: read)
      rw [Sink.feedItems_cons_of_feed (eq_ok_of_toOption first) rfl]
      refine rest.trans ?_
      cases decodeItems items <;> simp

/-- The members of an attribute map are decoded one after another. -/
theorem toOption_feedMembers_attributes {members : List (String × Json)}
    (decodes : ∀ member ∈ members, member.2.Decodes) (depth : Nat) (a : Assembly)
    (read : Attributes Value) (due : String) :
    (Assembly.sink.feedMembers none members depth (a.inside (.attributes read due)) >>=
        Assembly.sink.leave).toOption =
      (decodeEntries members).map fun entries => a.deliver (.attributes
        (entries.foldl (fun map entry => map.insert entry.1 entry.2) read)) := by
  induction members generalizing read due with
  | nil => rfl
  | cons member members ih =>
    obtain ⟨name, json⟩ := member
    have key : Assembly.sink.key (a.inside (.attributes read due)) name =
        .ok (some (a.inside (.attributes read name))) := rfl
    have first := decodes _ List.mem_cons_self depth (a.inside (.attributes read name)) (.inl rfl)
    rw [Sink.feedMembers_cons_of_key key, bind_assoc, toOption_bind, first, decodeEntries]
    cases json.decode with
    | none => rfl
    | some tree =>
      have rest := ih (fun member mem => decodes member (List.mem_cons_of_mem _ mem))
        (read.insert name tree) name
      refine rest.trans ?_
      cases decodeEntries members <;> rfl

/-- The members of a node complete its draft. -/
theorem toOption_feedMembers_node {members : List (String × Json)}
    (decodes : ∀ member ∈ members, ∀ field, member.2.DecodesAs field) (depth : Nat) (a : Assembly)
    {draft : Draft} (sound : draft.Sound) (due : Node.Field) :
    (Assembly.sink.feedMembers none members depth (a.inside (.members draft due)) >>=
        Assembly.sink.leave).toOption =
      (draft.completion members).map fun node => a.deliver (.value (.node node)) := by
  induction members generalizing draft due with
  | nil =>
    rw [Draft.completion_nil sound]
    rfl
  | cons member members ih =>
    obtain ⟨name, json⟩ := member
    have further := fun member mem => decodes member (List.mem_cons_of_mem _ mem)
    cases known : Node.Field.ofName? name with
    | none =>
      have key : Assembly.sink.key (a.inside (.members draft due)) name = .ok none := by
        change Assembly.key (a.inside (.members draft due)) name = _
        simp only [Assembly.key, inside, known]
      rw [Draft.completion_unknown (Node.Field.not_isField_of_ofName? known),
        ← ih further sound due, Sink.feedMembers, key]
      rfl
    | some field =>
      cases Node.Field.eq_name_of_ofName? known
      cases met : draft.met.contains field with
      | true =>
        have key : Assembly.sink.key (a.inside (.members draft due)) field.name =
            .error (.duplicateMember field.name) := by
          change Assembly.key (a.inside (.members draft due)) field.name = _
          simp only [Assembly.key, inside, known, met, if_true]
        rw [Draft.completion_met met, Sink.feedMembers, key]
        rfl
      | false =>
        have key : Assembly.sink.key (a.inside (.members draft due)) field.name =
            .ok (some (a.inside (.members draft field))) := by
          change Assembly.key (a.inside (.members draft due)) field.name = _
          simp only [Assembly.key, inside, known, met, Bool.false_eq_true, if_false]
        have first := decodes _ List.mem_cons_self field depth (a.inside (.members draft field)) rfl
        rw [Draft.completion_fresh met, Sink.feedMembers_cons_of_key key, bind_assoc,
          toOption_bind, first]
        cases field.decode json with
        | none => rfl
        | some part => exact ih further (sound.set field part) field

/-! ### Documents -/

/-- The members of a document that is an object. -/
def members : Json → List (String × Json)
  | .object members => members
  | _ => []

/-- Any document is a tag or is turned down as one. -/
theorem decodesAs_tag (json : Json) : json.DecodesAs .tag := by
  intro depth a due
  have opening : ∀ bracket, (Assembly.sink.opening none bracket depth a).toOption = none := by
    intro bracket
    rw [Assembly.opening_eq]
    unfold Assembly.mayEnter Assembly.enter
    rw [due]
    cases bracket <;> rfl
  cases json with
  | null => rw [Sink.feed, Assembly.scalar_eq, due]; rfl
  | boolean value => rw [Sink.feed, Assembly.scalar_eq, due]; cases value <;> rfl
  | number n =>
    rw [Sink.feed]
    cases n.reread with
    | none => rfl
    | some n => rw [Sink.number, Assembly.scalar_eq, due]; rfl
  | string value => rw [Sink.feed, Assembly.scalar_eq, due]; rfl
  | array items => rw [Sink.feed, toOption_bind, opening]; rfl
  | object members => rw [Sink.feed, toOption_bind, opening]; rfl

/-- A document is an attribute map if it is an object whose members stand for trees, and is turned
down as one if it is not. -/
theorem decodesAs_attrs {json : Json} (decodes : ∀ member ∈ json.members, member.2.Decodes) :
    json.DecodesAs .attrs := by
  intro depth a due
  cases json with
  | null => rw [Sink.feed, Assembly.scalar_eq, due]; rfl
  | boolean value => rw [Sink.feed, Assembly.scalar_eq, due]; rfl
  | number n =>
    rw [Sink.feed]
    cases n.reread with
    | none => rfl
    | some n => rw [Sink.number, Assembly.scalar_eq, due]; rfl
  | string value => rw [Sink.feed, Assembly.scalar_eq, due]; rfl
  | array items =>
    rw [Sink.feed, Assembly.opening_eq]
    unfold Assembly.mayEnter
    rw [due]
    rfl
  | object members =>
    have decodes : ∀ member ∈ members, member.2.Decodes := decodes
    rw [Sink.feed_object_of_opening (Assembly.opening_attributes true due depth),
      toOption_feedMembers_attributes decodes, Node.Field.decode, decodeAttributes,
      Option.map_map, Option.map_map]
    rfl

/-- A list is decoded by its items. -/
theorem decodes_array {items : List Json} (decodes : ∀ item ∈ items, item.Decodes) :
    (array items).Decodes := by
  intro depth a due
  rw [Sink.feed_array_of_opening (Assembly.opening_list due depth), toOption_feedItems decodes,
    decode, Option.map_map]
  rcases due with due | due <;> rw [due] <;> rfl

/-- An object is decoded as a node, by its members. -/
theorem decodes_object {members : List (String × Json)}
    (decodes : ∀ member ∈ members, ∀ field, member.2.DecodesAs field) :
    (object members).Decodes := by
  intro depth a due
  rw [Sink.feed_object_of_opening (Assembly.opening_node due depth),
    toOption_feedMembers_node decodes _ _ Draft.sound_empty, decode_object, Option.map_map]
  rcases due with due | due <;> rw [due] <;> rfl

/-- Feeding comes to decoding, whatever is due. -/
theorem decodes_and_decodesAs {json : Json}
    (numbers : json.AllNumbers fun n => n.reread = some n) :
    json.Decodes ∧ ∀ field, json.DecodesAs field := by
  have inAllSituations : ∀ {json : Json}, json.Decodes →
      (∀ member ∈ json.members, member.2.Decodes) →
      json.Decodes ∧ ∀ field, json.DecodesAs field := by
    intro json decodes members
    refine ⟨decodes, fun field => ?_⟩
    cases field with
    | tag => exact decodesAs_tag json
    | attrs => exact decodesAs_attrs members
    | content => exact decodes.decodesAs_content
  have noMembers : ∀ member ∈ ([] : List (String × Json)), member.2.Decodes :=
    List.forall_mem_nil _
  induction numbers with
  | null => exact inAllSituations (decodes_of_scalar (fun _ _ => rfl) rfl) noMembers
  | boolean value => exact inAllSituations (decodes_of_scalar (fun _ _ => rfl) rfl) noMembers
  | @number n reread =>
    refine inAllSituations (decodes_of_scalar (s := .number n) (fun _ _ => ?_) rfl) noMembers
    rw [Sink.feed, reread]
    rfl
  | string value => exact inAllSituations (decodes_of_scalar (fun _ _ => rfl) rfl) noMembers
  | array _ ih => exact inAllSituations (decodes_array fun item mem => (ih item mem).1) noMembers
  | object _ ih =>
    exact inAllSituations (decodes_object fun member mem => (ih member mem).2)
      fun member mem => (ih member mem).1

end Json

namespace Value

/-- Reading the text of a document has a result if the document stands for a tree. -/
theorem toOption_read_of_fits {json : Json} (fits : json.AllNumbers Json.Number.Fits) :
    (Value.read none json.compact).toOption = json.decode := by
  have shaped := fits.mono fun _ => Json.Number.shaped_of_fits
  have decodes := (Json.decodes_and_decodesAs (fits.mono fun _ => Json.Number.reread_of_fits)).1
  have fed := decodes 0 (.start .value) (.inl rfl)
  unfold Value.read Assembly.read
  rw [Json.read_compact _ _ _ shaped, toOption_bind, fed]
  cases json.decode <;> rfl

/-- **Reading accepts exactly the documents that stand for a tree**: it has a result exactly if the
document does, and the tree is the one that the document stands for. The order of the members of a
node and the members that it does not know make no difference. -/
theorem toOption_read_compact {json : Json} (fits : json.AllNumbers Json.Number.Fits) :
    (Value.read none json.compact).toOption = json.decode ∧
      ∀ other, json.Rearranges other →
        (Value.read none other.compact).toOption = (Value.read none json.compact).toOption := by
  refine ⟨toOption_read_of_fits fits, fun other rearranged => ?_⟩
  rw [toOption_read_of_fits fits, toOption_read_of_fits (rearranged.allNumbers fits),
    rearranged.decode_eq]

/-- A document with a member that a node does not know, members in an unusual order, a repeated
attribute and a content that is `null`. -/
def shuffledDocument : Json :=
  .object [
    ("content", .array [.null, .object [("content", .null), ("tag", .boolean false)]]),
    ("note", .object [("tag", .number (.integer (-7)))]),
    ("attrs", .object [("a", .number (.integer 1)), ("b", .null), ("a", .boolean true)]),
    ("tag", .string "p")]

/-- The sample document is read as a tree, also without the member that the node does not know, and
a document with a number for a tag is turned down. -/
theorem toOption_read_compact_shuffledDocument :
    shuffledDocument.AllNumbers Json.Number.Fits ∧
      (Value.read none shuffledDocument.compact).toOption = some (.node ⟨some (.name "p"),
        some ⟨[("a", .boolean true), ("b", .null)]⟩,
        some (.array [.null, .node ⟨some .transparent, none, none⟩])⟩) ∧
      (Value.read none (Json.object [
        ("content", .array [.null, .object [("content", .null), ("tag", .boolean false)]]),
        ("attrs", .object [("a", .number (.integer 1)), ("b", .null), ("a", .boolean true)]),
        ("tag", .string "p")]).compact).toOption =
          (Value.read none shuffledDocument.compact).toOption ∧
      (Value.read none (Json.object [("tag", .number (.integer (-7)))]).compact).toOption =
        none := by
  have one : (Json.number (.integer 1)).AllNumbers Json.Number.Fits := .number (by decide)
  have negative : (Json.number (.integer (-7))).AllNumbers Json.Number.Fits := .number (by decide)
  have note : (Json.object [("tag", .number (.integer (-7)))]).AllNumbers Json.Number.Fits := by
    simp [Json.allNumbers_object, negative]
  have fits : shuffledDocument.AllNumbers Json.Number.Fits := by
    simp [shuffledDocument, Json.allNumbers_object, Json.allNumbers_array, one, note,
      Json.AllNumbers.null, Json.AllNumbers.boolean, Json.AllNumbers.string]
  obtain ⟨read, rearranged⟩ := toOption_read_compact fits
  refine ⟨fits, read.trans rfl, ?_, (toOption_read_compact note).1.trans rfl⟩
  exact rearranged _ (@Json.Rearranges.leaveOut [_] _ _ _ (by decide))

end Value

end Markup
