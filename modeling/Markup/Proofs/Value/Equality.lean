import Mathlib.Data.List.Forall2
import Markup.Proofs.Tree

/-!
# Equality of trees

Trees are compared part by part and numbers numerically, so equality is coarser than identity at the
two zeros and finer at a NaN. It is symmetric and transitive (`Value.eq_comm`, `Value.Equal.trans`),
and a tree equals itself exactly if there is no NaN anywhere in it (`Value.equal_self_iff`).

Equal trees have the same shape. `Value.eq_induction` is induction over two equal trees at once: it
goes down both of them in step, and comes to two numbers that are numerically equal.
-/

namespace Markup

/-! ### Numbers -/

namespace Double

/-- Numerical equality is symmetric. -/
theorem numEq_comm (x y : Double) : x.numEq y = y.numEq x := by
  cases x <;> cases y <;> try rfl
  · simp [numEq, BEq.comm]
  · rename_i a x b y
    by_cases h : x = y
    · simp [numEq, h, BEq.comm]
    · have h' : y ≠ x := Ne.symm h
      simp [numEq, beq_eq_false_iff_ne.2 h, beq_eq_false_iff_ne.2 h']

/-- Numerically equal numbers are identical, or both are zeros. -/
theorem eq_or_isZero_of_numEq {x y : Double} (h : x.numEq y = true) :
    x = y ∨ x.isZero = true ∧ y.isZero = true := by
  cases x <;> cases y <;> simp only [numEq, Bool.false_eq_true] at h
  · left
    simpa using h
  · rename_i a x b y
    simp only [Bool.and_eq_true, beq_iff_eq, Bool.or_eq_true] at h
    obtain ⟨rfl, rfl | zero⟩ := h
    · exact .inl rfl
    · exact .inr ⟨zero, zero⟩

/-- A number that equals some number is not a NaN. -/
theorem isNaN_of_numEq {x y : Double} (h : x.numEq y = true) : x.isNaN = false := by
  cases x <;> cases y <;> simp_all [numEq, isNaN]

/-- Zeros have the magnitude zero. -/
theorem eq_finite_zero_of_isZero {x : Double} (h : x.isZero = true) :
    ∃ negative, x = .finite negative .zero := by
  cases x with
  | nan | infinite => cases h
  | finite negative magnitude =>
    obtain ⟨significand, shift, _, _, normal⟩ := magnitude
    have significand_eq : significand = 0 := by simpa [isZero, Magnitude.isZero] using h
    subst significand_eq
    have shift_eq : shift = 0 := by omega
    subst shift_eq
    exact ⟨negative, rfl⟩

/-- Two zeros are equal. -/
theorem numEq_of_isZero {x y : Double} (hx : x.isZero = true) (hy : y.isZero = true) :
    x.numEq y = true := by
  obtain ⟨a, rfl⟩ := eq_finite_zero_of_isZero hx
  obtain ⟨b, rfl⟩ := eq_finite_zero_of_isZero hy
  cases a <;> cases b <;> rfl

/-- Numerical equality is transitive. -/
theorem numEq_trans {x y z : Double} (first : x.numEq y = true) (second : y.numEq z = true) :
    x.numEq z = true := by
  rcases eq_or_isZero_of_numEq first with rfl | ⟨hx, hy⟩
  · exact second
  · rcases eq_or_isZero_of_numEq second with rfl | ⟨-, hz⟩
    · exact first
    · exact numEq_of_isZero hx hz

end Double

/-! ### The parts of equal trees -/

namespace Value

/-- Entries agree if they have the same name and related values. -/
def EntryRel (related : Value → Value → Prop) (entry entry' : String × Value) : Prop :=
  entry.1 = entry'.1 ∧ related entry.2 entry'.2

/-- Attribute maps agree if their entries do, in order. -/
def MapRel (related : Value → Value → Prop) (map map' : Attributes Value) : Prop :=
  List.Forall₂ (EntryRel related) map.entries map'.entries

/-- Equality of trees as a relation. -/
def Equal (a b : Value) : Prop :=
  a.eq b = true

/-- Lists are equal item by item. -/
theorem eqItems_iff {as bs : List Value} :
    eqItems as bs = true ↔ List.Forall₂ Equal as bs := by
  induction as generalizing bs with
  | nil => cases bs <;> simp [eqItems]
  | cons a as ih => cases bs <;> simp [eqItems, Equal, ih]

/-- Lists of attributes are equal entry by entry. -/
theorem eqEntries_iff {as bs : List (String × Value)} :
    eqEntries as bs = true ↔ List.Forall₂ (EntryRel Equal) as bs := by
  induction as generalizing bs with
  | nil => cases bs <;> simp [eqEntries]
  | cons a as ih => cases bs <;> simp [eqEntries, EntryRel, Equal, ih]

/-- Numbers are equal numerically. -/
theorem equal_number_iff {x y : Double} : Equal (.number x) (.number y) ↔ x.numEq y = true := by
  rw [Equal, Value.eq]

/-- Lists are equal item by item. -/
theorem equal_array_iff {as bs : List Value} :
    Equal (.array as) (.array bs) ↔ List.Forall₂ Equal as bs := by
  rw [Equal, Value.eq, eqItems_iff]

/-- Attribute maps are equal if both are missing, or entry by entry. -/
theorem eqAttributes_iff {attrs attrs' : Option (Attributes Value)} :
    eqAttributes attrs attrs' = true ↔ Option.Rel (MapRel Equal) attrs attrs' := by
  rcases attrs with _ | ⟨as⟩ <;> rcases attrs' with _ | ⟨bs⟩ <;>
    simp [eqAttributes, eqEntries_iff, MapRel]

/-- Contents are equal if both are missing, or as values. -/
theorem eqContent_iff {content content' : Option Value} :
    eqContent content content' = true ↔ Option.Rel Equal content content' := by
  cases content <;> cases content' <;> simp [eqContent, Equal]

/-- Nodes are equal member by member. -/
theorem equal_node_iff {tag tag' : Option Tag} {attrs attrs' : Option (Attributes Value)}
    {content content' : Option Value} :
    Equal (.node ⟨tag, attrs, content⟩) (.node ⟨tag', attrs', content'⟩) ↔
      tag = tag' ∧ Option.Rel (MapRel Equal) attrs attrs' ∧ Option.Rel Equal content content' := by
  rw [Equal, Value.eq, Bool.and_eq_true, Bool.and_eq_true, eqAttributes_iff, eqContent_iff,
    beq_iff_eq, and_assoc]

/-! ### Induction over two equal trees -/

/-- Related lists stay related by what follows from the relation for the members of the first. -/
theorem forall₂_imp_of_mem {α β : Type} {related also : α → β → Prop} {as : List α} {bs : List β}
    (h : List.Forall₂ related as bs) (imp : ∀ a ∈ as, ∀ b, related a b → also a b) :
    List.Forall₂ also as bs := by
  induction h with
  | nil => exact .nil
  | cons head _ ih =>
    apply List.Forall₂.cons
    · exact imp _ List.mem_cons_self _ head
    · apply ih
      intro a mem b
      exact imp a (List.mem_cons_of_mem _ mem) b

/-- Induction over two equal trees, down both of them in step. -/
@[elab_as_elim]
theorem eq_induction {motive : (a b : Value) → Equal a b → Prop} (null : motive .null .null rfl)
    (boolean : ∀ value h, motive (.boolean value) (.boolean value) h)
    (number : ∀ x y h, motive (.number x) (.number y) h)
    (string : ∀ value h, motive (.string value) (.string value) h)
    (array : ∀ as bs h, List.Forall₂ (fun a b => ∃ h : Equal a b, motive a b h) as bs →
      motive (.array as) (.array bs) h)
    (node : ∀ tag attrs attrs' content content' h,
      Option.Rel (MapRel fun a b => ∃ h : Equal a b, motive a b h) attrs attrs' →
      Option.Rel (fun a b => ∃ h : Equal a b, motive a b h) content content' →
      motive (.node ⟨tag, attrs, content⟩) (.node ⟨tag, attrs', content'⟩) h)
    {a b : Value} (h : Equal a b) : motive a b h := by
  induction a generalizing b with
  | null => cases b <;> first | exact null | cases h
  | boolean value =>
    cases b <;> try cases h
    obtain rfl : value = _ := by simpa [Equal, Value.eq] using h
    exact boolean value h
  | number x =>
    cases b <;> try cases h
    exact number x _ h
  | string value =>
    cases b <;> try cases h
    obtain rfl : value = _ := by simpa [Equal, Value.eq] using h
    exact string value h
  | array as ih =>
    cases b <;> try cases h
    apply array
    exact forall₂_imp_of_mem (equal_array_iff.1 h) fun a mem b same => ⟨same, ih a mem same⟩
  | node tag attrs content ihAttrs ihContent =>
    cases b <;> try cases h
    rename_i n
    obtain ⟨tag', attrs', content'⟩ := n
    obtain ⟨rfl, sameAttrs, sameContent⟩ := equal_node_iff.1 h
    apply node
    · cases sameAttrs with
      | none => exact .none
      | @some map map' entries =>
        apply Option.Rel.some
        apply forall₂_imp_of_mem entries
        intro entry mem entry' agree
        exact ⟨agree.1, agree.2, ihAttrs map rfl entry mem agree.2⟩
    · cases sameContent with
      | none => exact .none
      | some same => exact .some ⟨same, ihContent _ rfl same⟩

/-! ### Symmetry and transitivity -/

/-- Equality of trees is symmetric. -/
theorem Equal.symm {a b : Value} (h : Equal a b) : Equal b a := by
  induction h using eq_induction with
  | null => rfl
  | boolean value h => exact h
  | number x y same => rwa [equal_number_iff, Double.numEq_comm, ← equal_number_iff]
  | string value h => exact h
  | array as bs _ same =>
    rw [equal_array_iff]
    apply same.flip.imp
    rintro b a ⟨-, back⟩
    exact back
  | node tag attrs attrs' content content' _ sameAttrs sameContent =>
    rw [equal_node_iff]
    refine ⟨rfl, ?_, ?_⟩
    · cases sameAttrs with
      | none => exact .none
      | some entries =>
        apply Option.Rel.some
        apply entries.flip.imp
        rintro entry' entry ⟨name, -, back⟩
        exact ⟨name.symm, back⟩
    · cases sameContent with
      | none => exact .none
      | some both => exact .some both.2

/-- Equality does not depend on the order of its arguments. -/
theorem eq_comm (a b : Value) : a.eq b = b.eq a :=
  Bool.eq_iff_iff.2 ⟨Equal.symm, Equal.symm⟩

/-- Relations that compose along a list. -/
theorem forall₂_trans {α : Type} {first second whole : α → α → Prop} {as bs cs : List α}
    (h : List.Forall₂ first as bs) (h' : List.Forall₂ second bs cs)
    (compose : ∀ a b c, first a b → second b c → whole a c) : List.Forall₂ whole as cs := by
  induction h generalizing cs with
  | nil =>
    cases h'
    exact .nil
  | cons head _ ih =>
    cases h' with
    | cons head' tail' => exact .cons (compose _ _ _ head head') (ih tail')

/-- Equality of trees is transitive. -/
theorem Equal.trans {a b c : Value} (first : Equal a b) (second : Equal b c) : Equal a c := by
  induction first using eq_induction generalizing c with
  | null => exact second
  | boolean value => exact second
  | number x y same =>
    cases c <;> try cases second
    rw [equal_number_iff] at same second ⊢
    exact Double.numEq_trans same second
  | string value => exact second
  | array as bs _ same =>
    cases c <;> try cases second
    rw [equal_array_iff] at second ⊢
    apply forall₂_trans same second
    rintro a b c ⟨-, further⟩ next
    exact further next
  | node tag attrs attrs' content content' _ sameAttrs sameContent =>
    cases c <;> try cases second
    rename_i n
    obtain ⟨tag'', attrs'', content''⟩ := n
    obtain ⟨rfl, nextAttrs, nextContent⟩ := equal_node_iff.1 second
    rw [equal_node_iff]
    refine ⟨rfl, ?_, ?_⟩
    · cases sameAttrs with
      | none =>
        cases nextAttrs
        exact .none
      | some entries =>
        cases nextAttrs with
        | some entries' =>
          apply Option.Rel.some
          apply forall₂_trans entries entries'
          rintro entry entry' entry'' ⟨name, -, further⟩ next
          exact ⟨name.trans next.1, further next.2⟩
    · cases sameContent with
      | none =>
        cases nextContent
        exact .none
      | some both =>
        cases nextContent with
        | some next => exact .some (both.2 next)

/-! ### Trees that equal themselves -/

/-- There is no NaN anywhere in the tree, attribute values included. -/
def FreeOfNaN (tree : Value) : Prop :=
  ∀ x : Double, Within (.number x) tree → x.isNaN = false

/-- A list is free of NaN if its items are. -/
theorem freeOfNaN_array_iff {items : List Value} :
    (array items).FreeOfNaN ↔ ∀ item ∈ items, item.FreeOfNaN := by
  constructor
  · intro free item mem x inside
    exact free x (.item mem inside)
  · intro free x inside
    cases inside with
    | item mem inside => exact free _ mem x inside

/-- A node is free of NaN if its attribute values and its content are. -/
theorem freeOfNaN_node_iff {n : Node Value} :
    (node n).FreeOfNaN ↔
      (∀ map, n.attrs = some map → ∀ entry ∈ map.entries, entry.2.FreeOfNaN) ∧
        ∀ value, n.content = some value → value.FreeOfNaN := by
  constructor
  · intro free
    refine ⟨?_, ?_⟩
    · intro map has entry mem x inside
      exact free x (.entry has mem inside)
    · intro value has x inside
      exact free x (.content has inside)
  · rintro ⟨attrs, content⟩ x inside
    cases inside with
    | entry has mem inside => exact attrs _ has _ mem x inside
    | content has inside => exact content _ has x inside

/-- A tree equals itself exactly if there is no NaN in it. -/
theorem equal_self_iff (tree : Value) : Equal tree tree ↔ tree.FreeOfNaN := by
  induction tree with
  | null =>
    constructor
    · intro _ x inside
      cases inside
    · intro _
      rfl
  | boolean value =>
    constructor
    · intro _ x inside
      cases inside
    · intro _
      simp [Equal, Value.eq]
  | number x =>
    rw [equal_number_iff, Double.numEq_self, Bool.not_eq_true']
    constructor
    · intro known y inside
      cases inside
      exact known
    · intro free
      exact free x .here
  | string value =>
    constructor
    · intro _ x inside
      cases inside
    · intro _
      simp [Equal, Value.eq]
  | array items ih =>
    rw [freeOfNaN_array_iff, equal_array_iff, List.forall₂_same]
    exact forall₂_congr ih
  | node tag attrs content ihAttrs ihContent =>
    rw [freeOfNaN_node_iff, equal_node_iff, eq_self_iff_true, true_and]
    apply and_congr
    · cases attrs with
      | none => simp
      | some map =>
        simp only [Option.rel_some_some, MapRel, List.forall₂_same, Option.some.injEq,
          forall_eq']
        apply forall₂_congr
        intro entry mem
        simp only [EntryRel, true_and]
        exact ihAttrs map rfl entry mem
    · cases content with
      | none => simp
      | some value => simpa using ihContent value rfl

end Value

end Markup
