import Markup.Proofs.Value.Exchange

/-!
# Documents that stand for trees

Not every document is the document of a tree, and a tree can be written in many ways: the members of
a node may come in any order, a member may be `null` instead of missing, and members that a node
does not know may stand among the others. `Json.decode` says which documents stand for a tree, and
for which one, without any regard to how a text is read.

* An object is a node. Each of its members `tag`, `attrs` and `content` may be given once
  (`Json.atMostOnce`), and nothing else in it matters.
* The members of `attrs` are attributes, inserted in order, so a repeated name replaces the value in
  place.

`Json.Rearranges` changes the order of the members of a node, or leaves out a member that the node
does not know, at any depth. `Json.Rearranges.decode_eq` says that this makes no difference.
-/

namespace Markup.Json

/-! ### Decoding -/

/-- What a member of a node is, given all its occurrences: it is missing if there are none, and more
than one are too many. -/
def atMostOnce {α : Type} : List (Option (Option α)) → Option (Option α)
  | [] => some none
  | [found] => found
  | _ :: _ :: _ => none

/-- The meanings of the members of a name, in order. -/
def given {α : Type} (name : String) (meaning : Json → α) (members : List (String × Json)) :
    List α :=
  (members.filter (·.1 == name)).map fun member => meaning member.2

/-- A document as the tag of a node; `null` means that there is none. -/
def decodeTag : Json → Option (Option Tag)
  | .null => some none
  | .string name => some (some (.name name))
  | .boolean false => some (some .transparent)
  | _ => none

/-- The node with these occurrences of its members. -/
def decodedNode (tags : List (Option (Option Tag)))
    (maps : List (Option (Option (Attributes Value)))) (contents : List (Option (Option Value))) :
    Option (Node Value) := do
  return ⟨← atMostOnce tags, ← atMostOnce maps, ← atMostOnce contents⟩

mutual

/-- The tree that a document stands for. -/
def decode : Json → Option Value
  | .null => some .null
  | .boolean value => some (.boolean value)
  | .number value => some (.number value.toDouble)
  | .string value => some (.string value)
  | .array items => (decodeItems items).map .array
  | .object members =>
    (decodedNode (given "tag" decodeTag members) (attributesGiven members)
      (contentsGiven members)).map .node
termination_by structural json => json

/-- The trees that the items of a list stand for. -/
def decodeItems : List Json → Option (List Value)
  | [] => some []
  | item :: items => do return (← decode item) :: (← decodeItems items)
termination_by structural items => items

/-- A document as the attributes of a node; `null` means that there are none. -/
def decodeAttributes : Json → Option (Option (Attributes Value))
  | .null => some none
  | .object members => (decodeEntries members).map fun entries => some (.ofList entries)
  | _ => none
termination_by structural json => json

/-- The attributes that the members of an object stand for. -/
def decodeEntries : List (String × Json) → Option (List (String × Value))
  | [] => some []
  | (name, json) :: members => do return (name, ← decode json) :: (← decodeEntries members)
termination_by structural members => members

/-- The meanings of the members that are attributes of a node. -/
def attributesGiven : List (String × Json) → List (Option (Option (Attributes Value)))
  | [] => []
  | (name, json) :: members =>
    if name = "attrs" then decodeAttributes json :: attributesGiven members
    else attributesGiven members
termination_by structural members => members

/-- The meanings of the members that are contents of a node; `null` means that there is none. -/
def contentsGiven : List (String × Json) → List (Option (Option Value))
  | [] => []
  | (name, json) :: members =>
    if name = "content" then (decode json).map Value.present? :: contentsGiven members
    else contentsGiven members
termination_by structural members => members

end

/-- A document as the content of a node; `null` means that there is none. -/
def decodeContent (json : Json) : Option (Option Value) :=
  json.decode.map Value.present?

/-! ### The members of a name -/

section

variable {α : Type} {name : String} {meaning : Json → α}

/-- Among no members nothing is given. -/
@[simp] theorem given_nil : given name meaning [] = [] := rfl

/-- A member of the name counts. -/
theorem given_cons_self (json : Json) (members : List (String × Json)) :
    given name meaning ((name, json) :: members) = meaning json :: given name meaning members := by
  simp [given]

/-- A member of another name does not count. -/
theorem given_cons_of_ne {other : String} (ne : other ≠ name) (json : Json)
    (members : List (String × Json)) :
    given name meaning ((other, json) :: members) = given name meaning members := by
  simp [given, ne]

/-- What members behind each other give comes behind each other. -/
@[simp] theorem given_append (members members' : List (String × Json)) :
    given name meaning (members ++ members') =
      given name meaning members ++ given name meaning members' := by
  simp [given]

/-- The members of a name are in an order of their own. -/
theorem given_perm {members members' : List (String × Json)} (h : members.Perm members') :
    (given name meaning members).Perm (given name meaning members') :=
  (h.filter _).map _

/-- A first occurrence without a meaning leaves the member without one. -/
@[simp] theorem atMostOnce_none_cons (found : List (Option (Option α))) :
    atMostOnce (none :: found) = none := by
  cases found <;> rfl

/-- Two occurrences are too many. -/
@[simp] theorem atMostOnce_cons_cons (one other : Option (Option α))
    (found : List (Option (Option α))) : atMostOnce (one :: other :: found) = none := rfl

/-- Whether a member is given at most once, and as what, does not depend on an order. -/
theorem atMostOnce_of_perm {found found' : List (Option (Option α))} (h : found.Perm found') :
    atMostOnce found = atMostOnce found' := by
  match found, found' with
  | [], _ => rw [h.nil_eq]
  | [one], _ => rw [List.singleton_perm.1 h]
  | _ :: _ :: _, [] => exact absurd h.length_eq (by simp)
  | _ :: _ :: _, [_] => exact absurd h.length_eq (by simp)
  | _ :: _ :: _, _ :: _ :: _ => rfl

end

/-- The occurrences of attributes are the members of that name. -/
theorem attributesGiven_eq (members : List (String × Json)) :
    attributesGiven members = given "attrs" decodeAttributes members := by
  induction members with
  | nil => rfl
  | cons member members ih =>
    obtain ⟨name, json⟩ := member
    rw [attributesGiven, ih]
    by_cases named : name = "attrs"
    · rw [if_pos named, named, given_cons_self]
    · rw [if_neg named, given_cons_of_ne named]

/-- The occurrences of a content are the members of that name. -/
theorem contentsGiven_eq (members : List (String × Json)) :
    contentsGiven members = given "content" decodeContent members := by
  induction members with
  | nil => rfl
  | cons member members ih =>
    obtain ⟨name, json⟩ := member
    rw [contentsGiven, ih]
    by_cases named : name = "content"
    · rw [if_pos named, named, given_cons_self]
      rfl
    · rw [if_neg named, given_cons_of_ne named]

/-- An object stands for the node whose members its members give. -/
theorem decode_object (members : List (String × Json)) :
    decode (.object members) =
      (decodedNode (given "tag" decodeTag members) (given "attrs" decodeAttributes members)
        (given "content" decodeContent members)).map .node := by
  rw [decode, attributesGiven_eq, contentsGiven_eq]

/-! ### What makes no difference -/

/-- The name is that of a member of a node. -/
def IsField (name : String) : Prop :=
  name = "tag" ∨ name = "attrs" ∨ name = "content"

/-- Whether a name is one of the three can be decided. -/
instance (name : String) : Decidable (IsField name) :=
  inferInstanceAs (Decidable (name = "tag" ∨ name = "attrs" ∨ name = "content"))

/-- A member that a node does not know has none of the three names. -/
theorem not_isField {name : String} :
    ¬ IsField name ↔ name ≠ "tag" ∧ name ≠ "attrs" ∧ name ≠ "content" := by
  unfold IsField
  rw [not_or, not_or]

/-- The members of a node come in another order, or one that the node does not know is left out,
anywhere in a document that stands for a tree. -/
inductive Rearranges : Json → Json → Prop
  /-- The members of a node in another order. -/
  | order {members members' : List (String × Json)} (perm : members.Perm members') :
    Rearranges (.object members) (.object members')
  /-- A member that a node does not know is left out. -/
  | leaveOut {before after : List (String × Json)} {name : String} {json : Json}
    (unknown : ¬ IsField name) :
    Rearranges (.object (before ++ (name, json) :: after)) (.object (before ++ after))
  /-- In an item of a list. -/
  | item {before after : List Json} {json json' : Json} (inside : Rearranges json json') :
    Rearranges (.array (before ++ json :: after)) (.array (before ++ json' :: after))
  /-- In the content of a node. -/
  | content {before after : List (String × Json)} {json json' : Json}
    (inside : Rearranges json json') :
    Rearranges (.object (before ++ ("content", json) :: after))
      (.object (before ++ ("content", json') :: after))
  /-- In an attribute of a node. -/
  | entry {before after before' after' : List (String × Json)} {name : String} {json json' : Json}
    (inside : Rearranges json json') :
    Rearranges (.object (before ++ ("attrs", .object (before' ++ (name, json) :: after')) :: after))
      (.object (before ++ ("attrs", .object (before' ++ (name, json') :: after')) :: after))

/-- An item counts by the tree that it stands for. -/
theorem decodeItems_congr {json json' : Json} (h : json.decode = json'.decode)
    (before after : List Json) :
    decodeItems (before ++ json :: after) = decodeItems (before ++ json' :: after) := by
  induction before with
  | nil => rw [List.nil_append, List.nil_append, decodeItems, decodeItems, h]
  | cons item before ih => rw [List.cons_append, List.cons_append, decodeItems, decodeItems, ih]

/-- An attribute counts by the tree that its value stands for. -/
theorem decodeEntries_congr {json json' : Json} (h : json.decode = json'.decode) (name : String)
    (before after : List (String × Json)) :
    decodeEntries (before ++ (name, json) :: after) =
      decodeEntries (before ++ (name, json') :: after) := by
  induction before with
  | nil => rw [List.nil_append, List.nil_append, decodeEntries, decodeEntries, h]
  | cons member before ih =>
    rw [List.cons_append, List.cons_append, decodeEntries, decodeEntries, ih]

/-- What makes no difference leaves the tree as it is. -/
theorem Rearranges.decode_eq {json json' : Json} (h : Rearranges json json') :
    json.decode = json'.decode := by
  induction h with
  | order perm =>
    rw [decode_object, decode_object, decodedNode, decodedNode,
      atMostOnce_of_perm (given_perm perm), atMostOnce_of_perm (given_perm perm),
      atMostOnce_of_perm (given_perm perm)]
  | leaveOut unknown =>
    obtain ⟨notTag, notAttrs, notContent⟩ := not_isField.1 unknown
    simp only [decode_object, given_append, given_cons_of_ne notTag, given_cons_of_ne notAttrs,
      given_cons_of_ne notContent]
  | item _ ih => rw [decode, decode, decodeItems_congr ih]
  | @content before after json json' _ ih =>
    have same : decodeContent json = decodeContent json' := by rw [decodeContent, ih, decodeContent]
    simp only [decode_object, given_append, given_cons_self, same,
      given_cons_of_ne (show "content" ≠ "tag" by decide),
      given_cons_of_ne (show "content" ≠ "attrs" by decide)]
  | @entry before after before' after' name json json' _ ih =>
    have same : decodeAttributes (.object (before' ++ (name, json) :: after')) =
        decodeAttributes (.object (before' ++ (name, json') :: after')) := by
      rw [decodeAttributes, decodeAttributes, decodeEntries_congr ih]
    simp only [decode_object, given_append, given_cons_self, same,
      given_cons_of_ne (show "attrs" ≠ "tag" by decide),
      given_cons_of_ne (show "attrs" ≠ "content" by decide)]

/-- A weaker predicate holds of every number, too. -/
theorem AllNumbers.mono {P Q : Number → Prop} (imp : ∀ n, P n → Q n) {json : Json}
    (numbers : json.AllNumbers P) : json.AllNumbers Q := by
  induction numbers with
  | null => exact .null
  | boolean value => exact .boolean value
  | number h => exact .number (imp _ h)
  | string value => exact .string value
  | array _ ih => exact .array ih
  | object _ ih => exact .object ih

/-- The numbers of a list are those of its items. -/
theorem allNumbers_array {P : Number → Prop} {items : List Json} :
    (array items).AllNumbers P ↔ ∀ item ∈ items, item.AllNumbers P := by
  constructor
  · rintro ⟨⟩
    assumption
  · exact .array

/-- The numbers of an object are those of its members. -/
theorem allNumbers_object {P : Number → Prop} {members : List (String × Json)} :
    (object members).AllNumbers P ↔ ∀ member ∈ members, member.2.AllNumbers P := by
  constructor
  · rintro ⟨⟩
    assumption
  · exact .object

/-- What makes no difference adds no numbers. -/
theorem Rearranges.allNumbers {P : Number → Prop} {json json' : Json} (h : Rearranges json json')
    (numbers : json.AllNumbers P) : json'.AllNumbers P := by
  induction h with
  | order perm =>
    rw [allNumbers_object] at numbers ⊢
    intro member mem
    exact numbers member (perm.mem_iff.2 mem)
  | leaveOut _ =>
    simp only [allNumbers_object, List.forall_mem_append, List.forall_mem_cons] at numbers ⊢
    exact ⟨numbers.1, numbers.2.2⟩
  | item _ ih =>
    simp only [allNumbers_array, List.forall_mem_append, List.forall_mem_cons] at numbers ⊢
    exact ⟨numbers.1, ih numbers.2.1, numbers.2.2⟩
  | content _ ih =>
    simp only [allNumbers_object, List.forall_mem_append, List.forall_mem_cons] at numbers ⊢
    exact ⟨numbers.1, ih numbers.2.1, numbers.2.2⟩
  | entry _ ih =>
    simp only [allNumbers_object, List.forall_mem_append, List.forall_mem_cons] at numbers ⊢
    exact ⟨numbers.1, ⟨numbers.2.1.1, ih numbers.2.1.2.1, numbers.2.1.2.2⟩, numbers.2.2⟩

end Markup.Json
