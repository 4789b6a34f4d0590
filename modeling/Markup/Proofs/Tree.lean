import Markup.Value

/-!
# Trees as wholes

A tree nests values in lists, in attribute maps and in the contents of nodes, so a proof about all
trees has several kinds of parts to go through. `Value.inductionOn` goes through them once: a fact
holds of every tree if it passes from the items of a list to the list, and from the attribute values
and the content of a node to the node.

Statements about what stands somewhere in a tree use one of two relations.

* `Value.Within`: at any depth, attribute values included.
* `Value.InChildPosition`: at any depth, but only where a child stands, that is, not inside an
  attribute value.
-/

namespace Markup

namespace Value

/-- Induction over trees: through the items of lists, and through the attribute values and the
content of nodes. -/
@[elab_as_elim, induction_eliminator]
theorem inductionOn {motive : Value → Prop} (null : motive .null)
    (boolean : ∀ value, motive (.boolean value)) (number : ∀ value, motive (.number value))
    (string : ∀ value, motive (.string value))
    (array : ∀ items, (∀ item ∈ items, motive item) → motive (.array items))
    (node : ∀ tag attrs content,
      (∀ map : Attributes Value, attrs = some map → ∀ entry ∈ map.entries, motive entry.2) →
      (∀ value, content = some value → motive value) → motive (.node ⟨tag, attrs, content⟩))
    (value : Value) : motive value :=
  @Value.rec motive
    (fun items => ∀ item ∈ items, motive item)
    (fun n => motive (.node n))
    (fun attrs => ∀ map : Attributes Value, attrs = some map →
      ∀ entry ∈ map.entries, motive entry.2)
    (fun content => ∀ value, content = some value → motive value)
    (fun map => ∀ entry ∈ map.entries, motive entry.2)
    (fun entries => ∀ entry ∈ entries, motive entry.2)
    (fun entry => motive entry.2)
    null boolean number string array (fun _ h => h)
    (fun _ h => absurd h List.not_mem_nil)
    (fun _ _ head tail => List.forall_mem_cons.2 ⟨head, tail⟩)
    node
    (fun _ h => nomatch h)
    (fun _ inside _ h => Option.some.inj h ▸ inside)
    (fun _ h => nomatch h)
    (fun _ inside _ h => Option.some.inj h ▸ inside)
    (fun _ inside => inside)
    (fun _ h => absurd h List.not_mem_nil)
    (fun _ _ head tail => List.forall_mem_cons.2 ⟨head, tail⟩)
    (fun _ _ inside => inside)
    value

/-- A value stands somewhere in a tree, at any depth. -/
inductive Within (part : Value) : Value → Prop
  /-- The tree itself. -/
  | here : Within part part
  /-- In an item of a list. -/
  | item {items : List Value} {value : Value} (mem : value ∈ items) (inside : Within part value) :
    Within part (.array items)
  /-- In an attribute value of a node. -/
  | entry {n : Node Value} {attrs : Attributes Value} {named : String × Value}
    (has : n.attrs = some attrs) (mem : named ∈ attrs.entries) (inside : Within part named.2) :
    Within part (.node n)
  /-- In the content of a node. -/
  | content {n : Node Value} {value : Value} (has : n.content = some value)
    (inside : Within part value) : Within part (.node n)

/-- What stands in a part of a tree stands in the tree. -/
theorem Within.trans {part middle whole : Value} (inner : Within part middle)
    (outer : Within middle whole) : Within part whole := by
  induction outer with
  | here => exact inner
  | item mem _ ih => exact .item mem ih
  | entry has mem _ ih => exact .entry has mem ih
  | content has _ ih => exact .content has ih

/-- A value stands where a child stands: it is the tree, or an item or the content of what stands
where a child stands. -/
inductive InChildPosition (part : Value) : Value → Prop
  /-- The tree itself. -/
  | here : InChildPosition part part
  /-- In an item of a list. -/
  | item {items : List Value} {value : Value} (mem : value ∈ items)
    (inside : InChildPosition part value) : InChildPosition part (.array items)
  /-- In the content of a node. -/
  | content {n : Node Value} {value : Value} (has : n.content = some value)
    (inside : InChildPosition part value) : InChildPosition part (.node n)

end Value

end Markup
