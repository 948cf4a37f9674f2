import Mathlib.Data.List.Range

/-!
# Loops

Counting loops run a body for every index of an interval, upwards or downwards. Their invariants
are indexed by the counter: the index that comes next, or the last one done. A `while` loop is run
for a bounded number of rounds, which is enough when a measure decreases in each.
-/

namespace PreRunner.Runs

variable {S : Type*}

/-! ## Counting loops -/

/-- `for (i = first; i < last; ++i)`. -/
def ascending (first last : ℕ) (body : ℕ → S → S) (s : S) : S :=
  (List.range' first (last - first)).foldl (fun s i => body i s) s

/-- `for (i = last; i-- > first; )`. -/
def descending (first last : ℕ) (body : ℕ → S → S) (s : S) : S :=
  (List.range' first (last - first)).foldr body s

theorem ascending_of_le {first last : ℕ} (h : last ≤ first) (body : ℕ → S → S) (s : S) :
    ascending first last body s = s := by
  unfold ascending
  rw [Nat.sub_eq_zero_of_le h]
  rfl

theorem ascending_succ {first last : ℕ} (h : first ≤ last) (body : ℕ → S → S) (s : S) :
    ascending first (last + 1) body s = body last (ascending first last body s) := by
  unfold ascending
  rw [Nat.succ_sub h, List.range'_concat, List.foldl_append, Nat.one_mul, Nat.add_sub_cancel' h]
  rfl

theorem descending_of_le {first last : ℕ} (h : last ≤ first) (body : ℕ → S → S) (s : S) :
    descending first last body s = s := by
  unfold descending
  rw [Nat.sub_eq_zero_of_le h]
  rfl

theorem descending_succ {first last : ℕ} (h : first ≤ last) (body : ℕ → S → S) (s : S) :
    descending first (last + 1) body s = descending first last body (body last s) := by
  unfold descending
  rw [Nat.succ_sub h, List.range'_concat, List.foldr_append, Nat.one_mul, Nat.add_sub_cancel' h]
  rfl

/-- The lowest index of a loop that counts down comes last. -/
theorem descending_first {first last : ℕ} (h : first < last) (body : ℕ → S → S) (s : S) :
    descending first last body s = body first (descending (first + 1) last body s) := by
  obtain ⟨rounds, rfl⟩ := Nat.exists_eq_add_of_lt h
  unfold descending
  rw [show first + rounds + 1 - first = rounds + 1 by omega,
    show first + rounds + 1 - (first + 1) = rounds by omega, List.range'_succ, List.foldr_cons]

/-- What holds at the first index and passes from each index to the next holds at the end. -/
theorem ascending_invariant {P : ℕ → S → Prop} {first last : ℕ} {body : ℕ → S → S} {s : S}
    (hLe : first ≤ last) (hStart : P first s)
    (hStep : ∀ i s, first ≤ i → i < last → P i s → P (i + 1) (body i s)) :
    P last (ascending first last body s) := by
  induction last, hLe using Nat.le_induction with
  | base => rwa [ascending_of_le le_rfl]
  | succ last hLe ih =>
    rw [ascending_succ hLe]
    refine hStep last _ hLe (Nat.lt_succ_self last) (ih fun i s hFirst hLast => ?_)
    exact hStep i s hFirst (hLast.trans (Nat.lt_succ_self last))

/-- The same for a loop that counts down. -/
theorem descending_invariant {P : ℕ → S → Prop} {first last : ℕ} {body : ℕ → S → S} {s : S}
    (hLe : first ≤ last) (hStart : P last s)
    (hStep : ∀ i s, first ≤ i → i < last → P (i + 1) s → P i (body i s)) :
    P first (descending first last body s) := by
  induction last, hLe using Nat.le_induction generalizing s with
  | base => rwa [descending_of_le le_rfl]
  | succ last hLe ih =>
    rw [descending_succ hLe]
    refine ih (hStep last s hLe (Nat.lt_succ_self last) hStart) fun i s hFirst hLast => ?_
    exact hStep i s hFirst (hLast.trans (Nat.lt_succ_self last))

/-- What every round preserves, the loop preserves. -/
theorem ascending_preserves {P : S → Prop} {first last : ℕ} {body : ℕ → S → S} {s : S}
    (hStart : P s) (hStep : ∀ i s, first ≤ i → i < last → P s → P (body i s)) :
    P (ascending first last body s) := by
  rcases le_total first last with hLe | hLe
  · exact ascending_invariant (P := fun _ => P) hLe hStart hStep
  · rwa [ascending_of_le hLe]

theorem descending_preserves {P : S → Prop} {first last : ℕ} {body : ℕ → S → S} {s : S}
    (hStart : P s) (hStep : ∀ i s, first ≤ i → i < last → P s → P (body i s)) :
    P (descending first last body s) := by
  rcases le_total first last with hLe | hLe
  · exact descending_invariant (P := fun _ => P) hLe hStart hStep
  · rwa [descending_of_le hLe]

/-! ## While loops -/

/-- `while (condition)`, for at most the given number of rounds. -/
def repeatWhile (condition : S → Bool) (body : S → S) : ℕ → S → S
  | 0, s => s
  | rounds + 1, s => if condition s then repeatWhile condition body rounds (body s) else s

theorem repeatWhile_preserves {P : S → Prop} {condition : S → Bool} {body : S → S}
    (hStep : ∀ s, condition s = true → P s → P (body s)) (rounds : ℕ) {s : S} (hStart : P s) :
    P (repeatWhile condition body rounds s) := by
  induction rounds generalizing s with
  | zero => exact hStart
  | succ rounds ih =>
    unfold repeatWhile
    split
    · rename_i hCondition
      exact ih (hStep s hCondition hStart)
    · exact hStart

/-- The loop has ended when its measure allows no further round. -/
theorem repeatWhile_done {P : S → Prop} {measure : S → ℕ} {condition : S → Bool} {body : S → S}
    (hStep : ∀ s, condition s = true → P s → P (body s))
    (hDecreases : ∀ s, condition s = true → P s → measure (body s) < measure s) (rounds : ℕ)
    {s : S} (hStart : P s) (hRounds : measure s ≤ rounds) :
    condition (repeatWhile condition body rounds s) = false := by
  induction rounds generalizing s with
  | zero =>
    unfold repeatWhile
    rw [Bool.eq_false_iff]
    intro hCondition
    have hLess := hDecreases s hCondition hStart
    omega
  | succ rounds ih =>
    unfold repeatWhile
    split
    · rename_i hCondition
      have hLess := hDecreases s hCondition hStart
      exact ih (hStep s hCondition hStart) (by omega)
    · rename_i hCondition
      exact Bool.eq_false_iff.mpr hCondition

end PreRunner.Runs
