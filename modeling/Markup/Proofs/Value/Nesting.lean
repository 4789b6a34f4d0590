import Markup.Proofs.Json.Nesting
import Markup.Proofs.Value.Assembling

/-!
# The nesting limit of trees

Trees are read with a nesting limit or without one, and the limit makes no difference unless it is
exceeded (`Value.read_limit`). This holds for readers of any kind (`Json.read_curbed`) that do not
count containers themselves, and assembling a tree does not (`Assembly.unbounded_sink`).

The limit is sharp: `Value.read_nestedLists` says of lists inside one another that a limit of `n` is
kept by `n` of them and exceeded by one more.
-/

namespace Markup

/-- A tree is assembled without regard to how deep it is. -/
theorem Assembly.unbounded_sink : Assembly.sink.Unbounded where
  mayEnter a bracket := by
    change Json.Ensures _ (a.mayEnter bracket)
    unfold Assembly.mayEnter
    split <;> simp
  enter a bracket := by
    change Json.Ensures _ (a.enter bracket)
    unfold Assembly.enter
    split <;> simp
  key a name := by
    change Json.Ensures _ (a.key name)
    unfold Assembly.key
    split
    · split
      · simp
      · split <;> simp
    · simp
    · simp
  scalar a scalar := by
    have part : Json.Ensures (fun _ => True) (a.due.ofScalar scalar) := by
      unfold Slot.ofScalar
      split <;> simp
    exact part.bind fun _ _ => trivial
  leave a := by
    change Json.Ensures _ a.leave
    unfold Assembly.leave
    split <;> simp

namespace Value

/-- **The nesting limit changes nothing else.** A tree is read under it as without it, with the same
result or the same fault, or the limit is exceeded; and the latter only if at some point of the text
at least 128 lists and objects are open. -/
theorem read_limit (text : String) :
    (Value.read (some Json.nestingLimit) text = Value.read none text ∨
        Value.read (some Json.nestingLimit) text = .error .tooDeep) ∧
      (Value.read (some Json.nestingLimit) text = .error .tooDeep →
        ∃ before, before <+: text.toList ∧ 128 ≤ Json.openContainers before) := by
  obtain ⟨spared, same | ⟨deep, exceeded⟩⟩ := Json.read_curbed Assembly.unbounded_sink
    Json.nestingLimit (.start .value) text
  · have equal : Value.read (some Json.nestingLimit) text = Value.read none text := by
      unfold Value.read Assembly.read
      rw [same]
    refine ⟨.inl equal, fun deep => ?_⟩
    -- Without a limit, no fault is one of nesting.
    have free : Json.Ensures (fun _ => True) (Value.read none text) := by
      refine spared.bind fun a _ => ?_
      cases a.result.bind Part.value? with
      | some tree => exact trivial
      | none => exact Json.ensures_error.2 (by simp)
    rw [← equal, deep] at free
    exact absurd rfl free
  · have failed : Value.read (some Json.nestingLimit) text = .error .tooDeep := by
      unfold Value.read Assembly.read
      rw [deep]
      rfl
    exact ⟨.inr failed, fun _ => exceeded⟩

end Value

/-! ### Nested lists -/

/-- An empty list inside as many others. -/
def Json.nestedLists : Nat → Json
  | 0 => .array []
  | k + 1 => .array [nestedLists k]

/-- The tree of an empty list inside as many others. -/
def Value.nestedLists : Nat → Value
  | 0 => .array []
  | k + 1 => .array [nestedLists k]

/-- A list where a tree value is due, if the limit allows it. -/
theorem Assembly.opening_list_limit {a : Assembly} (due : a.due.TakesTree) (n depth : Nat) :
    sink.opening (some n) .list depth a =
      if depth < n then .ok (a.inside (.items [])) else .error .tooDeep := by
  have allowed : a.mayEnter .list = .ok () := by
    unfold mayEnter
    rcases due with due | due <;> rw [due]
  have entered : a.enter .list = .ok (a.inside (.items [])) := by
    unfold enter
    rcases due with due | due <;> rw [due] <;> rfl
  change (a.mayEnter .list >>= fun _ =>
    if decide (n ≤ depth) = true then .error .tooDeep else a.enter .list) = _
  rw [allowed, entered]
  change (if decide (n ≤ depth) = true then _ else _) = _
  by_cases fits : depth < n
  · rw [if_pos fits, if_neg (by simpa using fits)]
  · rw [if_neg fits, if_pos (by simpa using fits)]

/-- Nested lists are taken if the limit allows the innermost one. -/
theorem Json.feed_nestedLists (n k depth : Nat) {a : Assembly} (due : a.due.TakesTree) :
    Assembly.sink.feed (some n) (nestedLists k) depth a =
      if depth + k < n then .ok (a.deliver (.value (.nestedLists k))) else .error .tooDeep := by
  induction k generalizing depth a with
  | zero =>
    rw [nestedLists, Sink.feed, Assembly.opening_list_limit due]
    change _ = if depth < n then _ else _
    split <;> rfl
  | succ k ih =>
    have inner := ih (depth + 1) (a := a.inside (.items [])) (.inl rfl)
    rw [nestedLists, Sink.feed, Assembly.opening_list_limit due]
    by_cases fits : depth < n
    · rw [if_pos fits]
      change (Assembly.sink.feedItems (some n) [nestedLists k] (depth + 1)
        (a.inside (.items [])) >>= Assembly.sink.leave) = _
      rw [Sink.feedItems, inner, show depth + 1 + k = depth + (k + 1) by omega]
      split <;> rfl
    · rw [if_neg fits, if_neg (by omega)]
      rfl

namespace Value

/-- A limit of `n` is kept by `n` lists inside one another, and exceeded by one more. -/
theorem read_nestedLists (n k : Nat) :
    Value.read (some n) (Json.nestedLists k).compact =
      if k < n then .ok (nestedLists k) else .error .tooDeep := by
  have shaped : (Json.nestedLists k).AllNumbers Json.Number.Shaped := by
    induction k with
    | zero => exact .array (List.forall_mem_nil _)
    | succ k ih => exact .array (by simpa using ih)
  unfold Value.read Assembly.read
  rw [Json.read_compact _ _ _ shaped, Json.feed_nestedLists n k 0 (.inl rfl), Nat.zero_add]
  split <;> rfl

/-- Reading 128 lists inside one another exceeds the limit. -/
theorem read_limit_nestedLists :
    Value.read (some Json.nestingLimit) (Json.nestedLists 127).compact = .error .tooDeep ∧
      ∃ before, before <+: (Json.nestedLists 127).compact.toList ∧
        128 ≤ Json.openContainers before := by
  have exceeded := read_nestedLists Json.nestingLimit 127
  exact ⟨exceeded, (read_limit _).2 exceeded⟩

end Value

end Markup
