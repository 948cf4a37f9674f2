import Mathlib.Logic.Function.Basic
import PreRunner.Runs.Loops

/-!
# Filling the gaps of a sequence

A zero entry of a sequence is a gap. One loop carries the last nonzero entry forward over the
gaps, a second one carries the first nonzero entry back to the gaps at the start. Each entry then
is the last nonzero one up to it or, where there is none, the first nonzero one after it.
-/

namespace PreRunner.Runs

variable {α : Type*} [Zero α] [DecidableEq α]

/-- The last nonzero entry up to an index. -/
def lastNonzero (entries : ℕ → α) (i : ℕ) : Option α :=
  ((List.range (i + 1)).reverse.map entries).find? (· ≠ 0)

/-- The first nonzero entry from an index on. -/
def firstNonzero (count : ℕ) (entries : ℕ → α) (i : ℕ) : Option α :=
  ((List.range' i (count - i)).map entries).find? (· ≠ 0)

/-- The entry that stands at an index once the gaps are filled. -/
def gapFilled (count : ℕ) (entries : ℕ → α) (i : ℕ) : α :=
  ((lastNonzero entries i).or (firstNonzero count entries (i + 1))).getD 0

/-- Fill each gap with the entry before it. -/
def carryForward (count : ℕ) (entries : ℕ → α) : ℕ → α :=
  ascending 1 count (fun i filled =>
    if filled i = 0 then Function.update filled i (filled (i - 1)) else filled) entries

/-- Fill each gap with the entry after it. -/
def carryBackward (count : ℕ) (entries : ℕ → α) : ℕ → α :=
  descending 1 count (fun i filled =>
    if filled (i - 1) = 0 then Function.update filled (i - 1) (filled i) else filled) entries

/-! ## The two loops -/

theorem lastNonzero_zero (entries : ℕ → α) :
    lastNonzero entries 0 = if entries 0 = 0 then none else some (entries 0) := by
  unfold lastNonzero
  by_cases h : entries 0 = 0
  · simp [h]
  · simp [h]

theorem lastNonzero_succ (entries : ℕ → α) (i : ℕ) :
    lastNonzero entries (i + 1) =
      if entries (i + 1) = 0 then lastNonzero entries i else some (entries (i + 1)) := by
  unfold lastNonzero
  rw [List.range_succ, List.reverse_append, List.map_append, List.find?_append]
  by_cases h : entries (i + 1) = 0
  · simp [h]
  · simp [h]

theorem firstNonzero_of_le (entries : ℕ → α) {count i : ℕ} (h : count ≤ i) :
    firstNonzero count entries i = none := by
  unfold firstNonzero
  rw [Nat.sub_eq_zero_of_le h]
  rfl

theorem firstNonzero_of_lt (entries : ℕ → α) {count i : ℕ} (h : i < count) :
    firstNonzero count entries i =
      if entries i = 0 then firstNonzero count entries (i + 1) else some (entries i) := by
  unfold firstNonzero
  obtain ⟨rest, hRest⟩ : ∃ rest, count - i = rest + 1 := ⟨count - i - 1, by omega⟩
  rw [hRest, show count - (i + 1) = rest by omega, List.range'_succ]
  by_cases hZero : entries i = 0
  · simp [hZero]
  · simp [hZero]

theorem lastNonzero_eq_none {entries : ℕ → α} {i : ℕ}
    (hGap : (lastNonzero entries i).getD 0 = 0) : lastNonzero entries i = none := by
  cases hLast : lastNonzero entries i with
  | none => rfl
  | some value =>
    rw [hLast] at hGap
    have hNonzero : value ≠ 0 := by simpa using List.find?_some hLast
    exact absurd hGap hNonzero

theorem carryForward_eq (count : ℕ) (entries : ℕ → α) {i : ℕ} (hi : i < count) :
    carryForward count entries i = (lastNonzero entries i).getD 0 := by
  have hLoop := @ascending_invariant (ℕ → α)
    (fun next filled => (∀ k, k < next → filled k = (lastNonzero entries k).getD 0) ∧
      ∀ k, next ≤ k → filled k = entries k)
    1 count (fun i filled =>
      if filled i = 0 then Function.update filled i (filled (i - 1)) else filled) entries
    (by omega) ?_ ?_
  · exact hLoop.1 i hi
  · refine ⟨fun k hk => ?_, fun k _ => rfl⟩
    obtain rfl : k = 0 := by omega
    rw [lastNonzero_zero]
    split
    · assumption
    · rfl
  · rintro next filled hFirst - ⟨hDone, hRest⟩
    obtain ⟨before, rfl⟩ : ∃ before, next = before + 1 := ⟨next - 1, by omega⟩
    have hHere := hRest (before + 1) le_rfl
    have hBefore := hDone before (Nat.lt_succ_self before)
    rw [hHere, Nat.add_sub_cancel, hBefore]
    by_cases hGap : entries (before + 1) = 0
    · rw [if_pos hGap]
      refine ⟨fun k hk => ?_, fun k hk => ?_⟩
      · by_cases hNext : k = before + 1
        · rw [hNext, Function.update_self, lastNonzero_succ, if_pos hGap]
        · rw [Function.update_of_ne hNext]
          exact hDone k (by omega)
      · rw [Function.update_of_ne (by omega)]
        exact hRest k (by omega)
    · rw [if_neg hGap]
      refine ⟨fun k hk => ?_, fun k hk => hRest k (by omega)⟩
      by_cases hNext : k = before + 1
      · rw [hNext, hHere, lastNonzero_succ, if_neg hGap]
        rfl
      · exact hDone k (by omega)

/-- A gap that is left after the forward loop has no nonzero entry before it. -/
theorem gapFilled_of_gap {count : ℕ} {entries : ℕ → α} {i : ℕ} (hi : i + 1 < count)
    (hGap : (lastNonzero entries i).getD 0 = 0) :
    gapFilled count entries i = gapFilled count entries (i + 1) := by
  have hNone := lastNonzero_eq_none hGap
  unfold gapFilled
  rw [hNone, lastNonzero_succ, hNone, firstNonzero_of_lt entries hi]
  by_cases hNext : entries (i + 1) = 0
  · rw [if_pos hNext, if_pos hNext]
  · rw [if_neg hNext, if_neg hNext]
    rfl

theorem gapFilled_of_filled {count : ℕ} {entries : ℕ → α} {i : ℕ}
    (h : (lastNonzero entries i).getD 0 ≠ 0) :
    gapFilled count entries i = (lastNonzero entries i).getD 0 := by
  unfold gapFilled
  cases hLast : lastNonzero entries i with
  | none =>
    rw [hLast] at h
    exact absurd rfl h
  | some value => rfl

/-- An entry that is no gap stays. -/
theorem gapFilled_of_ne_zero {count : ℕ} {entries : ℕ → α} {i : ℕ} (h : entries i ≠ 0) :
    gapFilled count entries i = entries i := by
  have hLast : lastNonzero entries i = some (entries i) := by
    cases i with
    | zero => rw [lastNonzero_zero, if_neg h]
    | succ i => rw [lastNonzero_succ, if_neg h]
  unfold gapFilled
  rw [hLast]
  rfl

/-- The two loops fill the gaps. -/
theorem carryBackward_carryForward (count : ℕ) (entries : ℕ → α) {i : ℕ} (hi : i < count) :
    carryBackward count (carryForward count entries) i = gapFilled count entries i := by
  set carried := carryForward count entries with hCarried
  have hForward : ∀ k, k < count → carried k = (lastNonzero entries k).getD 0 := fun k hk =>
    carryForward_eq count entries hk
  have hLoop := @descending_invariant (ℕ → α)
    (fun last filled => (∀ k, last ≤ k + 1 → k < count → filled k = gapFilled count entries k) ∧
      ∀ k, k + 1 < last → filled k = carried k)
    1 count (fun i filled =>
      if filled (i - 1) = 0 then Function.update filled (i - 1) (filled i) else filled) carried
    (by omega) ?_ ?_
  · exact hLoop.1 i (by omega) hi
  · refine ⟨fun k hLast hk => ?_, fun k _ => rfl⟩
    rw [hForward k hk]
    by_cases hGap : (lastNonzero entries k).getD 0 = 0
    · unfold gapFilled
      rw [lastNonzero_eq_none hGap, firstNonzero_of_le entries hLast]
      rfl
    · exact (gapFilled_of_filled hGap).symm
  · rintro last filled hFirst hLast ⟨hDone, hRest⟩
    obtain ⟨before, rfl⟩ : ∃ before, last = before + 1 := ⟨last - 1, by omega⟩
    have hHere : filled before = carried before := hRest before (by omega)
    rw [Nat.add_sub_cancel, hHere, hForward before (by omega), hDone (before + 1) (by omega) hLast]
    by_cases hGap : (lastNonzero entries before).getD 0 = 0
    · rw [if_pos hGap, ← gapFilled_of_gap hLast hGap]
      refine ⟨fun k hk hCount => ?_, fun k hk => ?_⟩
      · by_cases hBefore : k = before
        · rw [hBefore, Function.update_self]
        · rw [Function.update_of_ne hBefore]
          exact hDone k (by omega) hCount
      · rw [Function.update_of_ne (by omega)]
        exact hRest k (by omega)
    · rw [if_neg hGap]
      refine ⟨fun k hk hCount => ?_, fun k hk => hRest k (by omega)⟩
      by_cases hBefore : k = before
      · rw [hBefore, hHere, hForward before (by omega), gapFilled_of_filled hGap]
      · exact hDone k (by omega) hCount

/-- What holds of zero and of every entry holds of the filled sequence. -/
theorem gapFilled_of_all {P : α → Prop} {entries : ℕ → α} (hZero : P 0) (h : ∀ i, P (entries i))
    (count i : ℕ) : P (gapFilled count entries i) := by
  have hFound : ∀ (indices : List ℕ) (value : α),
      (indices.map entries).find? (· ≠ 0) = some value → P value := by
    intro indices value hValue
    obtain ⟨index, -, rfl⟩ := List.mem_map.mp (List.mem_of_find?_eq_some hValue)
    exact h index
  unfold gapFilled
  cases hLast : lastNonzero entries i with
  | some value => exact hFound _ value hLast
  | none =>
    rw [Option.none_or]
    cases hFirst : firstNonzero count entries (i + 1) with
    | some value => exact hFound _ value hFirst
    | none => exact hZero

end PreRunner.Runs
