import Mathlib.Data.List.Rotate

/-!
# Items served in turns

A server with more items than it can serve at once takes a batch of them at a time, from where it
stopped the time before. An item that is so many steps ahead is served, or comes a batch nearer.
-/

namespace PreRunner.Runs

variable {α : Type*}

/-- The items of one turn. -/
def turn (items : List α) (batch offset : ℕ) : List α :=
  (items.drop offset ++ items.take offset).take batch

/-- Where the next turn begins. -/
def nextTurn (items : List α) (batch offset : ℕ) : ℕ :=
  (offset + (turn items batch offset).length) % items.length

/-- An item is some steps ahead of the offset. -/
structure Ahead (items : List α) (offset steps : ℕ) (item : α) : Prop where
  offset_lt : offset < items.length
  steps_lt : steps < items.length
  reached : items[(steps + offset) % items.length]? = some item

theorem length_turn (items : List α) (batch : ℕ) {offset : ℕ} (h : offset ≤ items.length) :
    (turn items batch offset).length = min batch items.length := by
  unfold turn
  rw [List.length_take, List.length_append, List.length_drop, List.length_take]
  omega

theorem Ahead.exists {items : List α} {offset : ℕ} (hOffset : offset < items.length) {item : α}
    (hItem : item ∈ items) : ∃ steps, Ahead items offset steps item := by
  obtain ⟨index, hIndex, rfl⟩ := List.mem_iff_getElem.mp hItem
  have hPositive : 0 < items.length := Nat.zero_lt_of_lt hIndex
  refine ⟨(index + (items.length - offset)) % items.length, hOffset, Nat.mod_lt _ hPositive, ?_⟩
  have hBack : ((index + (items.length - offset)) % items.length + offset) % items.length =
      index := by
    rw [Nat.mod_add_mod, Nat.add_assoc, Nat.sub_add_cancel hOffset.le, Nat.add_mod_right,
      Nat.mod_eq_of_lt hIndex]
  rw [hBack]
  exact List.getElem?_eq_getElem hIndex

/-- What is ahead is served, or comes nearer by a batch. -/
theorem Ahead.turn {items : List α} {offset steps : ℕ} {item : α}
    (h : Ahead items offset steps item) (batch : ℕ) :
    item ∈ turn items batch offset ∨
      batch ≤ steps ∧ Ahead items (nextTurn items batch offset) (steps - batch) item := by
  rcases Nat.lt_or_ge steps batch with hNear | hFar
  · left
    have hRotated : items.drop offset ++ items.take offset = items.rotate offset :=
      (List.rotate_eq_drop_append_take h.offset_lt.le).symm
    unfold Runs.turn
    rw [hRotated]
    refine List.mem_of_getElem? (i := steps) ?_
    rw [List.getElem?_take_of_lt hNear, List.getElem?_rotate h.steps_lt, h.reached]
  · right
    have hSteps := h.steps_lt
    have hBatch : (Runs.turn items batch offset).length = batch := by
      rw [length_turn items batch h.offset_lt.le]
      omega
    refine ⟨hFar, Nat.mod_lt _ (Nat.zero_lt_of_lt hSteps), by omega, ?_⟩
    have hSame : (steps - batch + nextTurn items batch offset) % items.length =
        (steps + offset) % items.length := by
      unfold nextTurn
      rw [hBatch, Nat.add_mod_mod]
      congr 1
      omega
    rw [hSame]
    exact h.reached

end PreRunner.Runs
