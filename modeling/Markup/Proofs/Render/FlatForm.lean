import Markup.Pattern.Standard
import Markup.Proofs.Render.Laws

/-!
# Flat forms

Many trees render to one text: lists nest, some values leave no trace, transparent nodes stand for
their content, and the content of a void element comes after it. `Value.flat` brings a tree into a
form without any of that, a list of items.

* `Value.render_array_flat`: the items render to what the tree renders to.
* `Value.flat_array_flat`: the form of the items is the items themselves.
* `Value.flatItem_of_mem_flat`: where a child stands in the items there is no list, nothing that
  leaves no trace, no transparent node and no void element with content (`Value.Settled`).

The content of an element needs care, because an element without content may be closed in another
way. What counts is `Value.isTruthy`, and that differs from leaving a trace: an empty list counts as
content and zero does not. So a content that counts stays a list, be it an empty one, a zero stays
as it is, and any other content leaves no trace and is dropped (`Value.settledContent`).

`Value.Simplifies` is a single step towards the form, taken at any depth. It does not change the
form (`Value.Simplifies.flat_eq`), hence not the text either.
-/

namespace Markup

variable {engine : Pattern.Engine}

/-! ### The form of a tree -/

/-- Is the value a zero of either sign? -/
def Value.isZero : Value → Bool
  | .number value => value.isZero
  | _ => false

/-- The content of an element in flat form, given the items of the content. -/
def Value.settledContent (items : List Value) (content : Value) : Option Value :=
  if content.isTruthy then some (.array items)
  else if content.isZero then some content
  else none

mutual

/-- The items of a tree: values that are visible on their own, in order. -/
def Value.flat (options : Options engine) : Value → List Value
  | .null => []
  | .boolean value => if value then [.boolean true] else []
  | .number value => if value.isNaN then [] else [.number value]
  | .string value => if value.isEmpty then [] else [.string value]
  | .array items => Value.flatItems options items
  | .node ⟨tag, attrs, content⟩ =>
    let inside := Value.flatContent options content
    if Node.isTransparent (⟨tag, attrs, content⟩ : Node Value) then inside
    else if options.isVoid (Node.name (⟨tag, attrs, content⟩ : Node Value)) then
      .node ⟨tag, attrs, none⟩ :: inside
    else [.node ⟨tag, attrs, content.bind (Value.settledContent inside)⟩]
termination_by structural value => value

/-- The items of all items of a list. -/
def Value.flatItems (options : Options engine) : List Value → List Value
  | [] => []
  | item :: items => item.flat options ++ Value.flatItems options items
termination_by structural items => items

/-- The items of the content of a node. -/
def Value.flatContent (options : Options engine) : Option Value → List Value
  | none => []
  | some value => value.flat options
termination_by structural content => content

end

/-- The children of a node: the items of its content if that is a list, and else the content. -/
def Node.children (n : Node Value) : List Value :=
  match n.content with
  | none => []
  | some (.array items) => items
  | some value => [value]

namespace Value

variable (options : Options engine)

/-- The items of a list are those of its items behind each other. -/
theorem flat_array (items : List Value) :
    (array items).flat options = items.flatMap (flat options) := by
  rw [flat]
  induction items with
  | nil => rfl
  | cons item items ih => rw [flatItems, ih, List.flatMap_cons]

/-- The items of a content are those of the value in it, if there is one. -/
theorem flatContent_eq (content : Option Value) :
    flatContent options content = content.toList.flatMap (flat options) := by
  cases content with
  | none => rfl
  | some value => simp [flatContent]

/-- The items of a transparent node are those of its content. -/
theorem flat_of_isTransparent {n : Node Value} (h : n.isTransparent = true) :
    (node n).flat options = n.content.toList.flatMap (flat options) := by
  obtain ⟨tag, attrs, content⟩ := n
  rw [flat, if_pos h, flatContent_eq]

/-- The items of a void element are the element without content and the items of its content. -/
theorem flat_of_isVoid {n : Node Value} (shown : n.isTransparent = false)
    (void : options.isVoid n.name = true) :
    (node n).flat options =
      .node { n with content := none } :: n.content.toList.flatMap (flat options) := by
  obtain ⟨tag, attrs, content⟩ := n
  rw [flat, if_neg (by simpa using shown), if_pos void, flatContent_eq]

/-- The only item of any other element is the element with its content settled. -/
theorem flat_of_not_isVoid {n : Node Value} (shown : n.isTransparent = false)
    (void : options.isVoid n.name = false) :
    (node n).flat options =
      [.node { n with content := n.content.bind fun value =>
        settledContent (value.flat options) value }] := by
  obtain ⟨tag, attrs, content⟩ := n
  rw [flat, if_neg (by simpa using shown), if_neg (by simpa using void)]
  cases content <;> rfl

/-- What leaves no trace has no items. -/
theorem flat_of_isVacuous {value : Value} (h : value.isVacuous = true) :
    value.flat options = [] := by
  cases value with
  | null => rfl
  | boolean value => simp_all [isVacuous, flat]
  | number x => simp_all [isVacuous, flat]
  | string s => simp_all [isVacuous, flat]
  | array items => simp_all [isVacuous, flat, flatItems]
  | node n => simp [isVacuous] at h

/-! ### The text of the form -/

/-- A content that is neither truthy nor a zero leaves no trace. -/
theorem isVacuous_of_not_isTruthy {value : Value} (falsy : value.isTruthy = false)
    (nonzero : value.isZero = false) : value.isVacuous = true := by
  cases value with
  | null => rfl
  | boolean value => simpa [isTruthy, isVacuous] using falsy
  | number x =>
    have nonzero : x.isZero = false := nonzero
    simpa [isTruthy, isVacuous, nonzero] using falsy
  | string s => simpa [isTruthy, isVacuous] using falsy
  | array items => cases falsy
  | node n => cases falsy

/-- A settled content counts as content exactly if the content did. -/
theorem any_isTruthy_settledContent (items : List Value) (value : Value) :
    (settledContent items value).any isTruthy = value.isTruthy := by
  unfold settledContent
  cases truthy : value.isTruthy with
  | true => rfl
  | false =>
    cases zero : value.isZero with
    | true => simpa using truthy
    | false => rfl

/-- The texts of lists behind each other are the text of all their items. -/
theorem join_flatMap (f : Value → List Value) (items : List Value) :
    String.join ((items.flatMap f).map (markup options)) =
      String.join (items.map fun item => String.join ((f item).map (markup options))) := by
  induction items with
  | nil => rfl
  | cons item items ih =>
    rw [List.flatMap_cons, List.map_append, String.join_append, ih, List.map_cons,
      String.join_cons]

/-- A settled content has the text of the content, if the items do. -/
theorem markup_settledContent {items : List Value} {value : Value}
    (h : String.join (items.map (markup options)) = value.markup options) :
    ((settledContent items value).map (markup options)).getD "" = value.markup options := by
  unfold settledContent
  cases truthy : value.isTruthy with
  | true => exact (markup_array options items).trans h
  | false =>
    cases zero : value.isZero with
    | true => rfl
    | false =>
      have vacuous := isVacuous_of_not_isTruthy truthy zero
      exact (markup_of_isVacuous options vacuous).symm

/-- The text of a void element is that of the element without content, followed by that of its
content. -/
theorem markup_of_isVoid {n : Node Value} (shown : n.isTransparent = false)
    (void : options.isVoid n.name = true) :
    (node n).markup options =
      (node { n with content := none }).markup options ++
        (n.content.map (markup options)).getD "" := by
  have without : Node.isTransparent { n with content := none } = false := shown
  have name : Node.name { n with content := none } = n.name := rfl
  rw [markup_of_not_isTransparent options shown, markup_of_not_isTransparent options without,
    Node.enclose_eq, Node.enclose_eq, name, if_pos void, if_pos void]
  simp only [Option.map_none, Option.getD_none, String.append_empty, String.append_assoc]

/-- An element with its content settled has the text of the element, if the items of its content
have the text of the content: it keeps its name, its attributes and whether it counts as having
content. -/
theorem markup_settled {n : Node Value} (shown : n.isTransparent = false)
    (h : ∀ value, n.content = some value →
      String.join ((value.flat options).map (markup options)) = value.markup options) :
    (node { n with content := n.content.bind fun value =>
        settledContent (value.flat options) value }).markup options =
      (node n).markup options := by
  obtain ⟨tag, attrs, content⟩ := n
  have body : ((content.bind fun value => settledContent (value.flat options) value).map
      (markup options)).getD "" = (content.map (markup options)).getD "" := by
    cases content with
    | none => rfl
    | some value => exact markup_settledContent options (h value rfl)
  have counts : (content.bind fun value => settledContent (value.flat options) value).any
      isTruthy = content.any isTruthy := by
    cases content with
    | none => rfl
    | some value => exact any_isTruthy_settledContent (value.flat options) value
  have shown' : Node.isTransparent (⟨tag, attrs, content.bind fun value =>
      settledContent (value.flat options) value⟩ : Node Value) = false := shown
  rw [markup_of_not_isTransparent options shown, markup_of_not_isTransparent options shown', body]
  refine Node.enclose_congr options ?_ ?_ ?_ _
  · rfl
  · rfl
  · exact counts

/-- The items of a tree have the text of the tree. -/
theorem join_map_markup_flat (tree : Value) :
    String.join ((tree.flat options).map (markup options)) = tree.markup options := by
  induction tree with
  | null => rfl
  | boolean value => cases value <;> simp [flat, markup]
  | number x => cases nan : x.isNaN <;> simp [flat, markup, nan]
  | string s =>
    by_cases empty : s = ""
    · simp [flat, markup, empty]
    · simp [flat, markup, empty]
  | array items ih =>
    rw [flat_array, join_flatMap, markup_array, List.map_congr_left ih]
  | node tag attrs content _ ih =>
    have inside : String.join ((content.toList.flatMap (flat options)).map (markup options)) =
        (content.map (markup options)).getD "" := by
      cases content with
      | none => rfl
      | some value => simpa using ih value rfl
    cases transparent : Node.isTransparent (⟨tag, attrs, content⟩ : Node Value) with
    | true =>
      rw [flat_of_isTransparent options transparent, inside,
        markup_of_isTransparent options transparent]
    | false =>
      cases void : options.isVoid (Node.name (⟨tag, attrs, content⟩ : Node Value)) with
      | true =>
        rw [flat_of_isVoid options transparent void, List.map_cons, String.join_cons, inside,
          markup_of_isVoid options transparent void]
      | false =>
        rw [flat_of_not_isVoid options transparent void, List.map_singleton, String.join_cons,
          String.join_nil, String.append_empty]
        exact markup_settled options transparent ih

/-- The items of a tree render to what the tree renders to. -/
theorem render_array_flat (tree : Value) :
    (array (tree.flat options)).render options = tree.render options := by
  rw [render_eq_markup, render_eq_markup, markup_array, join_map_markup_flat]

/-! ### What stands in the form -/

variable {options}

/-- The items of flat forms. -/
inductive FlatItem (options : Options engine) : Value → Prop
  /-- The value `true`. -/
  | truth : FlatItem options (.boolean true)
  /-- A number that shows. -/
  | number {x : Double} (shows : x.isNaN = false) : FlatItem options (.number x)
  /-- A text that shows. -/
  | string {s : String} (shows : s ≠ "") : FlatItem options (.string s)
  /-- An element without content, void or not. -/
  | bare {n : Node Value} (shown : n.isTransparent = false) (has : n.content = none) :
    FlatItem options (.node n)
  /-- An element around a zero. -/
  | zero {n : Node Value} {x : Double} (shown : n.isTransparent = false)
    (void : options.isVoid n.name = false) (has : n.content = some (.number x))
    (zero : x.isZero = true) : FlatItem options (.node n)
  /-- An element around a list of items. -/
  | around {n : Node Value} {items : List Value} (shown : n.isTransparent = false)
    (void : options.isVoid n.name = false) (has : n.content = some (.array items))
    (inside : ∀ item ∈ items, FlatItem options item) : FlatItem options (.node n)

/-- An element with its content settled is an item of flat forms, if the items of the content
are. -/
theorem flatItem_settledContent {n : Node Value} (shown : n.isTransparent = false)
    (void : options.isVoid n.name = false) {items : List Value}
    (inside : ∀ item ∈ items, FlatItem options item) (value : Value) :
    FlatItem options (.node { n with content := settledContent items value }) := by
  unfold settledContent
  cases truthy : value.isTruthy with
  | true => exact .around shown void rfl inside
  | false =>
    cases zero : value.isZero with
    | false => exact .bare shown rfl
    | true =>
      cases value with
      | number x => exact .zero shown void rfl zero
      | null | boolean | string | array | node => cases zero

/-- The items of a tree are items of flat forms. -/
theorem flatItem_of_mem_flat (tree : Value) :
    ∀ item ∈ tree.flat options, FlatItem options item := by
  induction tree with
  | null =>
    intro item mem
    cases mem
  | boolean value =>
    intro item mem
    cases value with
    | false => cases mem
    | true =>
      rw [List.mem_singleton.1 mem]
      exact .truth
  | number x =>
    intro item mem
    rw [flat] at mem
    split at mem
    · cases mem
    · rename_i shows
      rw [List.mem_singleton.1 mem]
      exact .number (by simpa using shows)
  | string s =>
    intro item mem
    rw [flat] at mem
    split at mem
    · cases mem
    · rename_i shows
      rw [List.mem_singleton.1 mem]
      exact .string (by simpa using shows)
  | array items ih =>
    intro item mem
    rw [flat_array] at mem
    obtain ⟨outer, outerMem, mem⟩ := List.mem_flatMap.1 mem
    exact ih outer outerMem item mem
  | node tag attrs content _ ih =>
    have inside : ∀ item ∈ content.toList.flatMap (flat options), FlatItem options item := by
      intro item mem
      obtain ⟨value, valueMem, mem⟩ := List.mem_flatMap.1 mem
      exact ih value (Option.mem_toList.1 valueMem) item mem
    intro item mem
    cases transparent : Node.isTransparent (⟨tag, attrs, content⟩ : Node Value) with
    | true =>
      rw [flat_of_isTransparent options transparent] at mem
      exact inside item mem
    | false =>
      cases void : options.isVoid (Node.name (⟨tag, attrs, content⟩ : Node Value)) with
      | true =>
        rw [flat_of_isVoid options transparent void] at mem
        rcases List.mem_cons.1 mem with rfl | mem
        · exact .bare transparent rfl
        · exact inside item mem
      | false =>
        rw [flat_of_not_isVoid options transparent void] at mem
        rw [List.mem_singleton.1 mem]
        cases content with
        | none => exact .bare transparent rfl
        | some value => exact flatItem_settledContent transparent void (ih value rfl) value

/-- Items that are their own form make up a form. -/
theorem flatMap_flat_of_forall {items : List Value}
    (h : ∀ item ∈ items, item.flat options = [item]) : items.flatMap (flat options) = items := by
  induction items with
  | nil => rfl
  | cons item items ih =>
    rw [List.flatMap_cons, h item List.mem_cons_self,
      ih fun other mem => h other (List.mem_cons_of_mem _ mem)]
    rfl

/-- An item of a flat form is its own form. -/
theorem FlatItem.flat_eq {item : Value} (h : FlatItem options item) :
    item.flat options = [item] := by
  induction h with
  | truth => rfl
  | number shows => simp [flat, shows]
  | string shows => simp [flat, shows]
  | @bare n shown has =>
    have itself : ({ n with content := none } : Node Value) = n := by rw [← has]
    cases void : options.isVoid n.name with
    | true => rw [flat_of_isVoid options shown void, has, itself]; rfl
    | false => rw [flat_of_not_isVoid options shown void, has, Option.bind_none, itself]
  | @zero n x shown void has zero =>
    have settled : settledContent ((Value.number x).flat options) (.number x) = n.content := by
      rw [has]
      simp [settledContent, isTruthy, isZero, zero]
    rw [flat_of_not_isVoid options shown void, has, Option.bind_some, settled]
  | @around n items shown void has inside ih =>
    have settled : settledContent ((Value.array items).flat options) (.array items) =
        n.content := by
      rw [has, flat_array, flatMap_flat_of_forall ih]
      rfl
    rw [flat_of_not_isVoid options shown void, has, Option.bind_some, settled]

variable (options) in
/-- The form of the items of a tree is the items themselves. -/
theorem flat_array_flat (tree : Value) :
    (array (tree.flat options)).flat options = tree.flat options := by
  rw [flat_array]
  exact flatMap_flat_of_forall fun item mem => (flatItem_of_mem_flat tree item mem).flat_eq

/-! ### Where children stand -/

/-- A value is a child somewhere in a list of items: it is one of them, or a child of a node that
is. -/
inductive ChildAmong (items : List Value) : Value → Prop
  /-- One of the items. -/
  | item {value : Value} (mem : value ∈ items) : ChildAmong items value
  /-- A child of a node. -/
  | child {n : Node Value} {value : Value} (outer : ChildAmong items (.node n))
    (mem : value ∈ n.children) : ChildAmong items value

/-- Nothing is left to be done about a child: it is no list, it leaves a trace, it is not
transparent, and if it is an element, it has no content that should stand elsewhere or in another
form. -/
structure Settled (options : Options engine) (child : Value) : Prop where
  /-- The child is no list. -/
  notArray : ∀ items, child ≠ .array items
  /-- The child leaves a trace. -/
  visible : child.isVacuous = false
  /-- The child is no transparent node. -/
  shown : ∀ n, child = .node n → n.isTransparent = false
  /-- A void element has no content. -/
  void : ∀ n, child = .node n → options.isVoid n.name = true → n.content = none
  /-- The content of an element is a list or a zero. -/
  content : ∀ n value, child = .node n → n.content = some value →
    (∃ items, value = .array items) ∨ ∃ x, value = .number x ∧ x.isZero = true

/-- A zero is a number that shows. -/
theorem isNaN_of_isZero {x : Double} (zero : x.isZero = true) : x.isNaN = false := by
  cases x with
  | nan => cases zero
  | infinite | finite => rfl

/-- The children of an item are items. -/
theorem FlatItem.of_mem_children {n : Node Value} (h : FlatItem options (.node n)) {value : Value}
    (mem : value ∈ n.children) : FlatItem options value := by
  unfold Node.children at mem
  cases h with
  | bare shown has =>
    rw [has] at mem
    cases mem
  | zero shown void has zero =>
    rw [has] at mem
    rw [List.mem_singleton.1 mem]
    exact .number (isNaN_of_isZero zero)
  | around shown void has inside =>
    rw [has] at mem
    exact inside value mem

/-- What has to be seen to of an element is its content. -/
theorem settled_node {n : Node Value} (shown : n.isTransparent = false)
    (void : options.isVoid n.name = true → n.content = none)
    (content : ∀ value, n.content = some value →
      (∃ items, value = .array items) ∨ ∃ x, value = .number x ∧ x.isZero = true) :
    Settled options (.node n) := by
  refine ⟨nofun, rfl, ?_, ?_, ?_⟩
  · rintro _ ⟨⟩
    exact shown
  · rintro _ ⟨⟩
    exact void
  · rintro _ value ⟨⟩
    exact content value

/-- About an item of a flat form nothing is left to be done. -/
theorem FlatItem.settled {item : Value} (h : FlatItem options item) : Settled options item := by
  cases h with
  | truth => exact ⟨nofun, rfl, nofun, nofun, nofun⟩
  | number shows => exact ⟨nofun, shows, nofun, nofun, nofun⟩
  | string shows => exact ⟨nofun, by simpa [isVacuous] using shows, nofun, nofun, nofun⟩
  | bare shown has =>
    refine settled_node shown (fun _ => has) fun value present => ?_
    rw [has] at present
    cases present
  | zero shown void has zero =>
    refine settled_node shown (fun isVoid => ?_) fun value present => ?_
    · rw [void] at isVoid
      cases isVoid
    · rw [has] at present
      exact .inr ⟨_, (Option.some.inj present).symm, zero⟩
  | around shown void has inside =>
    refine settled_node shown (fun isVoid => ?_) fun value present => ?_
    · rw [void] at isVoid
      cases isVoid
    · rw [has] at present
      exact .inl ⟨_, (Option.some.inj present).symm⟩

/-- Whatever is a child somewhere in a flat form is an item of flat forms. -/
theorem flatItem_of_childAmong {tree child : Value} (h : ChildAmong (tree.flat options) child) :
    FlatItem options child := by
  induction h with
  | item mem => exact flatItem_of_mem_flat tree _ mem
  | child _ mem ih => exact ih.of_mem_children mem

/-! ### Steps towards the form -/

/-- One step towards the form, at any depth below lists and nodes. -/
inductive Simplifies (options : Options engine) : Value → Value → Prop
  /-- Something that leaves no trace is deleted from a list. -/
  | delete {before after : List Value} {value : Value} (vacuous : value.isVacuous = true) :
    Simplifies options (.array (before ++ value :: after)) (.array (before ++ after))
  /-- The items of a list in a list take its place. -/
  | splice {before inner after : List Value} :
    Simplifies options (.array (before ++ .array inner :: after))
      (.array (before ++ (inner ++ after)))
  /-- The content of a transparent node in a list takes its place. -/
  | unwrap {before after : List Value} {n : Node Value} (transparent : n.isTransparent = true) :
    Simplifies options (.array (before ++ .node n :: after))
      (.array (before ++ (n.content.toList ++ after)))
  /-- The content of a void element in a list comes after it. -/
  | hoist {before after : List Value} {n : Node Value} (shown : n.isTransparent = false)
    (void : options.isVoid n.name = true) :
    Simplifies options (.array (before ++ .node n :: after))
      (.array (before ++ .node { n with content := none } :: (n.content.toList ++ after)))
  /-- A step in an item of a list. -/
  | item {before after : List Value} {value value' : Value}
    (inside : Simplifies options value value') :
    Simplifies options (.array (before ++ value :: after)) (.array (before ++ value' :: after))
  /-- A step in the content of a node. -/
  | content {n : Node Value} {value value' : Value} (has : n.content = some value)
    (inside : Simplifies options value value') :
    Simplifies options (.node n) (.node { n with content := some value' })

/-- A step leads from what counts as content to what counts as content. -/
theorem Simplifies.isTruthy {value value' : Value} (h : Simplifies options value value') :
    value.isTruthy = true ∧ value'.isTruthy = true := by
  cases h <;> exact ⟨rfl, rfl⟩

/-- A step does not change the form. -/
theorem Simplifies.flat_eq {value value' : Value} (h : Simplifies options value value') :
    value.flat options = value'.flat options := by
  induction h with
  | delete vacuous =>
    simp only [flat_array, List.flatMap_append, List.flatMap_cons,
      flat_of_isVacuous options vacuous, List.nil_append]
  | splice => simp only [flat_array, List.flatMap_append, List.flatMap_cons]
  | unwrap transparent =>
    simp only [flat_array, List.flatMap_append, List.flatMap_cons,
      flat_of_isTransparent options transparent]
  | @hoist before after n shown void =>
    have without : (Value.node { n with content := none }).flat options =
        [.node { n with content := none }] := flat_of_isVoid options shown void
    simp only [flat_array, List.flatMap_append, List.flatMap_cons,
      flat_of_isVoid options shown void, without, List.cons_append, List.nil_append]
  | item _ ih => simp only [flat_array, List.flatMap_append, List.flatMap_cons, ih]
  | @content n value value' has inside ih =>
    cases transparent : n.isTransparent with
    | true =>
      have transparent' : Node.isTransparent { n with content := some value' } = true := transparent
      rw [flat_of_isTransparent options transparent,
        flat_of_isTransparent options transparent', has]
      simp [ih]
    | false =>
      have shown' : Node.isTransparent { n with content := some value' } = false := transparent
      cases void : options.isVoid n.name with
      | true =>
        have void' : options.isVoid (Node.name { n with content := some value' }) = true := void
        rw [flat_of_isVoid options transparent void, flat_of_isVoid options shown' void', has]
        simp [ih]
      | false =>
        have void' : options.isVoid (Node.name { n with content := some value' }) = false := void
        obtain ⟨truthy, truthy'⟩ := inside.isTruthy
        rw [flat_of_not_isVoid options transparent void, flat_of_not_isVoid options shown' void',
          has]
        simp [settledContent, truthy, truthy', ih]

/-- **Every tree has a flat form that renders like it.** The form of the form is the form itself, no
child in it is left to be dealt with, and the steps towards it change neither it nor the text. -/
theorem flat_form (options : Options engine) (tree : Value) :
    (array (tree.flat options)).render options = tree.render options ∧
    (array (tree.flat options)).flat options = tree.flat options ∧
    (∀ child, ChildAmong (tree.flat options) child → Settled options child) ∧
    ∀ other, Simplifies options tree other →
      other.flat options = tree.flat options ∧ other.render options = tree.render options := by
  refine ⟨render_array_flat options tree, flat_array_flat options tree, ?_, ?_⟩
  · intro child among
    exact (flatItem_of_childAmong among).settled
  · intro other step
    have same : other.flat options = tree.flat options := step.flat_eq.symm
    refine ⟨same, ?_⟩
    rw [← render_array_flat options other, same, render_array_flat]

/-- A tree with all that a flat form does without, and an element around a zero. What stands for the
void element is left open. -/
def nestedTree (input : List Value) : Value :=
  .array ([.null, .array [.string "a", .boolean false]] ++ (input ++
    [.node ⟨some (.name "p"), none,
        some (.node ⟨some .transparent, none, some (.array [.array [.string "c"]])⟩)⟩,
      .node ⟨some (.name "q"), none, some (.number .zero)⟩,
      .node ⟨some (.name "s"), none, some (.string "")⟩]))

/-- The sample tree in flat form; a child inside an element of the form; and the tree after the
content of its void element has been put behind it. -/
theorem flat_form_nestedTree :
    (nestedTree [.node ⟨some (.name "input"), none, some (.string "b")⟩]).flat
        (.default : Options .standard) =
      [.string "a", .node ⟨some (.name "input"), none, none⟩, .string "b",
        .node ⟨some (.name "p"), none, some (.array [.string "c"])⟩,
        .node ⟨some (.name "q"), none, some (.number .zero)⟩,
        .node ⟨some (.name "s"), none, none⟩] ∧
    Settled (.default : Options .standard) (.string "c") ∧
    (nestedTree [.node ⟨some (.name "input"), none, none⟩, .string "b"]).render
        (.default : Options .standard) =
      (nestedTree [.node ⟨some (.name "input"), none, some (.string "b")⟩]).render
        (.default : Options .standard) := by
  obtain ⟨-, -, settled, steps⟩ := flat_form (.default : Options .standard)
    (nestedTree [.node ⟨some (.name "input"), none, some (.string "b")⟩])
  have form : (nestedTree [.node ⟨some (.name "input"), none, some (.string "b")⟩]).flat
        (.default : Options .standard) =
      [.string "a", .node ⟨some (.name "input"), none, none⟩, .string "b",
        .node ⟨some (.name "p"), none, some (.array [.string "c"])⟩,
        .node ⟨some (.name "q"), none, some (.number .zero)⟩,
        .node ⟨some (.name "s"), none, none⟩] := rfl
  have step : Simplifies (.default : Options .standard)
      (nestedTree [.node ⟨some (.name "input"), none, some (.string "b")⟩])
      (nestedTree [.node ⟨some (.name "input"), none, none⟩, .string "b"]) :=
    .hoist rfl (by decide)
  refine ⟨form, settled (.string "c") ?_, (steps _ step).2⟩
  rw [form]
  exact .child (.item (List.mem_cons_of_mem _ (List.mem_cons_of_mem _ (List.mem_cons_of_mem _
    List.mem_cons_self)))) List.mem_cons_self

end Value

end Markup
