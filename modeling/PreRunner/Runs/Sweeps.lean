import Mathlib.Order.Interval.Set.Defs
import Mathlib.Order.MinMax
import Mathlib.Order.Monotone.Defs
import PreRunner.Runs.Loops

/-!
# Sweeps

A sweep runs along a vector and lowers each value to a bound that comes from its neighbour: the
one before it (forward) or the one after it (backward). When both bounds grow with the neighbour
and let a value be held, one sweep in each direction gives a vector that keeps all bounds
(`sweep_feasible`), and no sweep goes below a vector that keeps them (`Feasible.le_iterate`). So the
first two sweeps give the greatest vector below the given one that keeps all bounds, and further
sweeps change nothing (`Feasible.sweep_eq`).
-/

namespace PreRunner.Runs

variable {K : Type*} [LinearOrder K]

/-! ## One sweep -/

/-- Lower each value to a bound from the value before it. -/
def forwardSweep (count : ℕ) (bound : ℕ → K → K) (v : ℕ → K) : ℕ → K :=
  ascending 1 count (fun i v => Function.update v i (min (v i) (bound i (v (i - 1))))) v

/-- Lower each value to a bound from the value after it. -/
def backwardSweep (count : ℕ) (bound : ℕ → K → K) (v : ℕ → K) : ℕ → K :=
  descending 1 count (fun i v => Function.update v (i - 1) (min (v (i - 1)) (bound i (v i)))) v

section Sweep

variable {count : ℕ} {bound : ℕ → K → K} {v w : ℕ → K} {i : ℕ}

/-- The values that a forward sweep has done up to an index. -/
theorem forwardSweep_spec (count : ℕ) (bound : ℕ → K → K) (v : ℕ → K) :
    (∀ i, i = 0 ∨ count ≤ i → forwardSweep count bound v i = v i) ∧
      ∀ i, i + 1 < count → forwardSweep count bound v (i + 1) =
        min (v (i + 1)) (bound (i + 1) (forwardSweep count bound v i)) := by
  unfold forwardSweep
  rcases Nat.eq_zero_or_pos count with rfl | hCount
  · rw [ascending_of_le (Nat.zero_le 1)]
    exact ⟨fun _ _ => rfl, fun i hi => absurd hi (Nat.not_lt_zero _)⟩
  · refine @ascending_invariant _ (fun next w =>
      (∀ i, i = 0 ∨ next ≤ i → w i = v i) ∧
        ∀ i, i + 1 < next → w (i + 1) = min (v (i + 1)) (bound (i + 1) (w i))) 1 count _ v hCount
      ⟨fun _ _ => rfl, fun i hi => absurd hi (by omega)⟩ ?_
    rintro next w hFirst - ⟨hKept, hDone⟩
    refine ⟨fun i hi => ?_, fun i hi => ?_⟩
    · rw [Function.update_of_ne (by omega)]
      exact hKept i (by omega)
    · rw [Function.update_of_ne (show i ≠ next by omega)]
      rcases Nat.eq_or_lt_of_le (show i + 1 ≤ next by omega) with hEq | hLess
      · subst hEq
        rw [Function.update_self, hKept (i + 1) (Or.inr le_rfl), Nat.add_sub_cancel]
      · rw [Function.update_of_ne (by omega)]
        exact hDone i hLess

theorem backwardSweep_spec (count : ℕ) (bound : ℕ → K → K) (v : ℕ → K) :
    (∀ i, count ≤ i + 1 → backwardSweep count bound v i = v i) ∧
      ∀ i, i + 1 < count → backwardSweep count bound v i =
        min (v i) (bound (i + 1) (backwardSweep count bound v (i + 1))) := by
  unfold backwardSweep
  rcases Nat.eq_zero_or_pos count with rfl | hCount
  · rw [descending_of_le (Nat.zero_le 1)]
    exact ⟨fun _ _ => rfl, fun i hi => absurd hi (Nat.not_lt_zero _)⟩
  · have hLoop := @descending_invariant _ (fun next w =>
      (∀ i, i + 1 < next ∨ count ≤ i + 1 → w i = v i) ∧
        ∀ i, next ≤ i + 1 → i + 1 < count → w i = min (v i) (bound (i + 1) (w (i + 1)))) 1 count
      (fun i v => Function.update v (i - 1) (min (v (i - 1)) (bound i (v i)))) v hCount
      ⟨fun _ _ => rfl, fun i hLow hHigh => absurd hLow (by omega)⟩ ?_
    · exact ⟨fun i hi => hLoop.1 i (Or.inr hi), fun i hi => hLoop.2 i (by omega) hi⟩
    · rintro next w hFirst hLast ⟨hKept, hDone⟩
      refine ⟨fun i hi => ?_, fun i hLow hHigh => ?_⟩
      · rw [Function.update_of_ne (by omega)]
        exact hKept i (by omega)
      · rw [Function.update_of_ne (show i + 1 ≠ next - 1 by omega)]
        rcases Nat.eq_or_lt_of_le hLow with hEq | hLess
        · subst hEq
          rw [Nat.add_sub_cancel, Function.update_self, hKept i (Or.inl (Nat.lt_succ_self _))]
        · rw [Function.update_of_ne (by omega)]
          exact hDone i hLess hHigh

theorem forwardSweep_zero : forwardSweep count bound v 0 = v 0 :=
  (forwardSweep_spec count bound v).1 0 (Or.inl rfl)

theorem forwardSweep_out (h : count ≤ i) : forwardSweep count bound v i = v i :=
  (forwardSweep_spec count bound v).1 i (Or.inr h)

theorem forwardSweep_succ (h : i + 1 < count) :
    forwardSweep count bound v (i + 1) =
      min (v (i + 1)) (bound (i + 1) (forwardSweep count bound v i)) :=
  (forwardSweep_spec count bound v).2 i h

theorem backwardSweep_out (h : count ≤ i + 1) : backwardSweep count bound v i = v i :=
  (backwardSweep_spec count bound v).1 i h

theorem backwardSweep_of_lt (h : i + 1 < count) :
    backwardSweep count bound v i =
      min (v i) (bound (i + 1) (backwardSweep count bound v (i + 1))) :=
  (backwardSweep_spec count bound v).2 i h

/-- What holds at the first index and passes to the next one, along a forward sweep. -/
theorem forwardSweep_induction {P : ℕ → K → Prop} (hStart : ∀ i, i = 0 ∨ count ≤ i → P i (v i))
    (hStep : ∀ i u, i + 1 < count → P i u → P (i + 1) (min (v (i + 1)) (bound (i + 1) u))) (i : ℕ) :
    P i (forwardSweep count bound v i) := by
  induction i with
  | zero =>
    rw [forwardSweep_zero]
    exact hStart 0 (Or.inl rfl)
  | succ i ih =>
    rcases Nat.lt_or_ge (i + 1) count with hInside | hOutside
    · rw [forwardSweep_succ hInside]
      exact hStep i _ hInside ih
    · rw [forwardSweep_out hOutside]
      exact hStart (i + 1) (Or.inr hOutside)

/-- The same from the last index on, along a backward sweep. -/
theorem backwardSweep_induction {P : ℕ → K → Prop} (hStart : ∀ i, count ≤ i + 1 → P i (v i))
    (hStep : ∀ i u, i + 1 < count → P (i + 1) u → P i (min (v i) (bound (i + 1) u))) (i : ℕ) :
    P i (backwardSweep count bound v i) := by
  rcases Nat.lt_or_ge (i + 1) count with hInside | hOutside
  · rw [backwardSweep_of_lt hInside]
    exact hStep i _ hInside (backwardSweep_induction hStart hStep (i + 1))
  · rw [backwardSweep_out hOutside]
    exact hStart i hOutside
termination_by count - i

theorem forwardSweep_le (i : ℕ) : forwardSweep count bound v i ≤ v i :=
  forwardSweep_induction (P := fun i u => u ≤ v i) (fun _ _ => le_rfl)
    (fun _ _ _ _ => min_le_left _ _) i

theorem backwardSweep_le (i : ℕ) : backwardSweep count bound v i ≤ v i :=
  backwardSweep_induction (P := fun i u => u ≤ v i) (fun _ _ => le_rfl)
    (fun _ _ _ _ => min_le_left _ _) i

/-- A vector that keeps the bound is not changed. -/
theorem forwardSweep_fixed (h : ∀ i, i + 1 < count → v (i + 1) ≤ bound (i + 1) (v i)) :
    forwardSweep count bound v = v := by
  funext i
  refine forwardSweep_induction (P := fun i u => u = v i) (fun _ _ => rfl) ?_ i
  rintro i - hi rfl
  exact min_eq_left (h i hi)

theorem backwardSweep_fixed (h : ∀ i, i + 1 < count → v i ≤ bound (i + 1) (v (i + 1))) :
    backwardSweep count bound v = v := by
  funext i
  refine backwardSweep_induction (P := fun i u => u = v i) (fun _ _ => rfl) ?_ i
  rintro i - hi rfl
  exact min_eq_left (h i hi)

end Sweep

/-! ## Bounds that let a value be held -/

section Holds

variable [Zero K]

/-- A bound that grows with the value it comes from, lets the value be held as far as a top, and
never exceeds the top. -/
structure Holds (top : K) (bound : ℕ → K → K) : Prop where
  mono : ∀ i, MonotoneOn (bound i) (Set.Ici 0)
  hold : ∀ i u, 0 ≤ u → min u top ≤ bound i u
  le : ∀ i u, 0 ≤ u → bound i u ≤ top

variable {top : K} {count : ℕ} {bound accelerate brake : ℕ → K → K} {v w : ℕ → K}

theorem Holds.nonneg (h : Holds top bound) (hTop : 0 ≤ top) (i : ℕ) {u : K} (hu : 0 ≤ u) :
    0 ≤ bound i u :=
  (le_min hu hTop).trans (h.hold i u hu)

theorem forwardSweep_nonneg (h : Holds top bound) (hTop : 0 ≤ top) (hv : ∀ i, 0 ≤ v i) (i : ℕ) :
    0 ≤ forwardSweep count bound v i :=
  forwardSweep_induction (P := fun _ u => 0 ≤ u) (fun i _ => hv i)
    (fun i _ _ hu => le_min (hv (i + 1)) (h.nonneg hTop _ hu)) i

theorem backwardSweep_nonneg (h : Holds top bound) (hTop : 0 ≤ top) (hv : ∀ i, 0 ≤ v i) (i : ℕ) :
    0 ≤ backwardSweep count bound v i :=
  backwardSweep_induction (P := fun _ u => 0 ≤ u) (fun i _ => hv i)
    (fun i _ _ hu => le_min (hv i) (h.nonneg hTop _ hu)) i

theorem forwardSweep_mono (h : Holds top bound) (hTop : 0 ≤ top) (hv : ∀ i, 0 ≤ v i)
    (hLe : ∀ i, v i ≤ w i) (i : ℕ) :
    forwardSweep count bound v i ≤ forwardSweep count bound w i := by
  induction i with
  | zero =>
    rw [forwardSweep_zero, forwardSweep_zero]
    exact hLe 0
  | succ i ih =>
    rcases Nat.lt_or_ge (i + 1) count with hInside | hOutside
    · rw [forwardSweep_succ hInside, forwardSweep_succ hInside]
      have hNonneg : 0 ≤ forwardSweep count bound v i := forwardSweep_nonneg h hTop hv i
      exact min_le_min (hLe _) (h.mono _ hNonneg (hNonneg.trans ih) ih)
    · rw [forwardSweep_out hOutside, forwardSweep_out hOutside]
      exact hLe _

theorem backwardSweep_mono (h : Holds top bound) (hTop : 0 ≤ top) (hv : ∀ i, 0 ≤ v i)
    (hLe : ∀ i, v i ≤ w i) (i : ℕ) :
    backwardSweep count bound v i ≤ backwardSweep count bound w i := by
  rcases Nat.lt_or_ge (i + 1) count with hInside | hOutside
  · rw [backwardSweep_of_lt hInside, backwardSweep_of_lt hInside]
    have ih := backwardSweep_mono h hTop hv hLe (i + 1)
    have hNonneg : 0 ≤ backwardSweep count bound v (i + 1) :=
      backwardSweep_nonneg h hTop hv (i + 1)
    exact min_le_min (hLe _) (h.mono _ hNonneg (hNonneg.trans ih) ih)
  · rw [backwardSweep_out hOutside, backwardSweep_out hOutside]
    exact hLe _
termination_by count - i

/-! ## Both sweeps -/

/-- A vector that keeps both bounds. -/
structure Feasible (count : ℕ) (accelerate brake : ℕ → K → K) (w : ℕ → K) : Prop where
  nonneg : ∀ i, 0 ≤ w i
  accelerates : ∀ i, i + 1 < count → w (i + 1) ≤ accelerate (i + 1) (w i)
  brakes : ∀ i, i + 1 < count → w i ≤ brake (i + 1) (w (i + 1))

/-- One sweep in each direction. -/
def sweep (count : ℕ) (accelerate brake : ℕ → K → K) (v : ℕ → K) : ℕ → K :=
  backwardSweep count brake (forwardSweep count accelerate v)

/-- The backward sweep keeps the bound of the forward sweep: a value that it lowers is at least
the one after it, which can be held. -/
theorem sweep_feasible (hAccelerate : Holds top accelerate) (hBrake : Holds top brake)
    (hTop : 0 ≤ top) (hv : ∀ i, 0 ≤ v i) :
    Feasible count accelerate brake (sweep count accelerate brake v) := by
  have hForward : ∀ i, 0 ≤ forwardSweep count accelerate v i :=
    forwardSweep_nonneg hAccelerate hTop hv
  have hNonneg : ∀ i, 0 ≤ sweep count accelerate brake v i :=
    backwardSweep_nonneg hBrake hTop hForward
  refine ⟨hNonneg, fun i hi => ?_, fun i hi => ?_⟩
  · have hLower : sweep count accelerate brake v (i + 1) ≤
      forwardSweep count accelerate v (i + 1) :=
      backwardSweep_le (i + 1)
    have hBound : forwardSweep count accelerate v (i + 1) ≤
        accelerate (i + 1) (forwardSweep count accelerate v i) := by
      rw [forwardSweep_succ hi]
      exact min_le_right _ _
    have hTopped := hLower.trans (hBound.trans (hAccelerate.le _ _ (hForward i)))
    have hCases : sweep count accelerate brake v i =
        min (forwardSweep count accelerate v i)
          (brake (i + 1) (sweep count accelerate brake v (i + 1))) := backwardSweep_of_lt hi
    rcases min_choice (forwardSweep count accelerate v i)
      (brake (i + 1) (sweep count accelerate brake v (i + 1))) with hKept | hLowered
    · rw [hCases, hKept]
      exact hLower.trans hBound
    · have hHeld := hBrake.hold (i + 1) _ (hNonneg (i + 1))
      have hAbove : sweep count accelerate brake v (i + 1) ≤ sweep count accelerate brake v i := by
        rw [hCases, hLowered]
        exact (le_min le_rfl hTopped).trans hHeld
      have hReached := hAccelerate.hold (i + 1) _ (hNonneg i)
      exact (le_min hAbove hTopped).trans hReached
  · exact (backwardSweep_of_lt hi).le.trans (min_le_right _ _)

/-- A vector that keeps both bounds is not changed by a further sweep. -/
theorem Feasible.sweep_eq (h : Feasible count accelerate brake w) :
    sweep count accelerate brake w = w := by
  unfold sweep
  rw [forwardSweep_fixed h.accelerates, backwardSweep_fixed h.brakes]

omit [Zero K] in
theorem sweep_le (i : ℕ) : sweep count accelerate brake v i ≤ v i :=
  (backwardSweep_le i).trans (forwardSweep_le i)

theorem sweep_mono (hAccelerate : Holds top accelerate) (hBrake : Holds top brake) (hTop : 0 ≤ top)
    (hv : ∀ i, 0 ≤ v i) (hLe : ∀ i, v i ≤ w i) (i : ℕ) :
    sweep count accelerate brake v i ≤ sweep count accelerate brake w i :=
  backwardSweep_mono hBrake hTop (forwardSweep_nonneg hAccelerate hTop hv)
    (forwardSweep_mono hAccelerate hTop hv hLe) i

/-- Sweeps of a vector above one that keeps both bounds stay above it. -/
theorem Feasible.le_iterate (h : Feasible count accelerate brake w)
    (hAccelerate : Holds top accelerate) (hBrake : Holds top brake) (hTop : 0 ≤ top)
    (hLe : ∀ i, w i ≤ v i) (n : ℕ) :
    (∀ i, w i ≤ (sweep count accelerate brake)^[n] v i) ∧
      ∀ i, (sweep count accelerate brake)^[n] v i ≤ v i := by
  induction n with
  | zero => exact ⟨hLe, fun _ => le_rfl⟩
  | succ n ih =>
    rw [Function.iterate_succ_apply']
    refine ⟨fun i => ?_, fun i => (sweep_le i).trans (ih.2 i)⟩
    rw [← h.sweep_eq]
    exact sweep_mono hAccelerate hBrake hTop h.nonneg ih.1 i

/-! ## Where the values are zero -/

section Zeros

variable {S : Type*} [PartialOrder S] {s : ℕ → S}

theorem min_eq_zero_iff {u w : K} (hu : 0 ≤ u) (hw : 0 ≤ w) : min u w = 0 ↔ u = 0 ∨ w = 0 := by
  constructor
  · intro h
    rcases min_choice u w with hMin | hMin
    · exact Or.inl (hMin.symm.trans h)
    · exact Or.inr (hMin.symm.trans h)
  · rintro (rfl | rfl)
    · exact min_eq_left hw
    · exact min_eq_right hu

/-- A forward sweep carries a zero over places that do not move, and nowhere else. -/
theorem forwardSweep_eq_zero_iff (hMono : ∀ i, s i ≤ s (i + 1)) (hBound : Holds top bound)
    (hTop : 0 ≤ top) (hv : ∀ i, 0 ≤ v i)
    (hZero : ∀ i u, 0 ≤ u → (bound (i + 1) u = 0 ↔ u = 0 ∧ s (i + 1) = s i)) {i : ℕ}
    (hi : i < count) :
    forwardSweep count bound v i = 0 ↔ ∃ j, j ≤ i ∧ v j = 0 ∧ s j = s i := by
  have hLe : ∀ {j k}, j ≤ k → s j ≤ s k := fun h => monotone_nat_of_le_succ hMono h
  induction i with
  | zero =>
    rw [forwardSweep_zero]
    refine ⟨fun h => ⟨0, le_rfl, h, rfl⟩, ?_⟩
    rintro ⟨j, hj, hStop, -⟩
    rwa [Nat.le_zero.mp hj] at hStop
  | succ i ih =>
    have hNonneg : 0 ≤ forwardSweep count bound v i := forwardSweep_nonneg hBound hTop hv i
    have hCases : forwardSweep count bound v (i + 1) = 0 ↔
        v (i + 1) = 0 ∨ bound (i + 1) (forwardSweep count bound v i) = 0 := by
      rw [forwardSweep_succ hi]
      exact min_eq_zero_iff (hv (i + 1)) (hBound.nonneg hTop (i + 1) hNonneg)
    have hBefore : forwardSweep count bound v i = 0 ↔ ∃ j, j ≤ i ∧ v j = 0 ∧ s j = s i :=
      ih (Nat.lt_of_succ_lt hi)
    rw [hCases, hZero i _ hNonneg, hBefore]
    constructor
    · rintro (h | ⟨⟨j, hj, hStop, hSame⟩, hStill⟩)
      · exact ⟨i + 1, le_rfl, h, rfl⟩
      · exact ⟨j, by omega, hStop, hSame.trans hStill.symm⟩
    · rintro ⟨j, hj, hStop, hSame⟩
      rcases Nat.eq_or_lt_of_le hj with rfl | hLess
      · exact Or.inl hStop
      · have hStill : s (i + 1) = s i :=
          le_antisymm (hSame ▸ hLe (Nat.le_of_lt_succ hLess)) (hMono i)
        exact Or.inr ⟨⟨j, Nat.le_of_lt_succ hLess, hStop, hSame.trans hStill⟩, hStill⟩

theorem backwardSweep_eq_zero_iff (hMono : ∀ i, s i ≤ s (i + 1)) (hBound : Holds top bound)
    (hTop : 0 ≤ top) (hv : ∀ i, 0 ≤ v i)
    (hZero : ∀ i u, 0 ≤ u → (bound (i + 1) u = 0 ↔ u = 0 ∧ s (i + 1) = s i)) {i : ℕ}
    (hi : i < count) :
    backwardSweep count bound v i = 0 ↔ ∃ j, i ≤ j ∧ j < count ∧ v j = 0 ∧ s j = s i := by
  have hLe : ∀ {j k}, j ≤ k → s j ≤ s k := fun h => monotone_nat_of_le_succ hMono h
  rcases Nat.lt_or_ge (i + 1) count with hInside | hLast
  · have ih := backwardSweep_eq_zero_iff hMono hBound hTop hv hZero hInside
    have hNonneg : 0 ≤ backwardSweep count bound v (i + 1) :=
      backwardSweep_nonneg hBound hTop hv (i + 1)
    have hCases : backwardSweep count bound v i = 0 ↔
        v i = 0 ∨ bound (i + 1) (backwardSweep count bound v (i + 1)) = 0 := by
      rw [backwardSweep_of_lt hInside]
      exact min_eq_zero_iff (hv i) (hBound.nonneg hTop (i + 1) hNonneg)
    rw [hCases, hZero i _ hNonneg, ih]
    constructor
    · rintro (h | ⟨⟨j, hj, hCount, hStop, hSame⟩, hStill⟩)
      · exact ⟨i, le_rfl, hi, h, rfl⟩
      · exact ⟨j, by omega, hCount, hStop, hSame.trans hStill⟩
    · rintro ⟨j, hj, hCount, hStop, hSame⟩
      rcases Nat.eq_or_lt_of_le hj with rfl | hLess
      · exact Or.inl hStop
      · have hStill : s (i + 1) = s i := le_antisymm (hSame ▸ hLe hLess) (hMono i)
        exact Or.inr ⟨⟨j, hLess, hCount, hStop, hSame.trans hStill.symm⟩, hStill⟩
  · rw [backwardSweep_out hLast]
    refine ⟨fun h => ⟨i, le_rfl, hi, h, rfl⟩, ?_⟩
    rintro ⟨j, hj, hCount, hStop, -⟩
    rwa [show j = i by omega] at hStop
termination_by count - i

/-- The zeros of both sweeps are at the places of the zeros. -/
theorem sweep_eq_zero_iff (hMono : ∀ i, s i ≤ s (i + 1)) (hAccelerate : Holds top accelerate)
    (hBrake : Holds top brake) (hTop : 0 ≤ top) (hv : ∀ i, 0 ≤ v i)
    (hStill : ∀ i u, 0 ≤ u → (accelerate (i + 1) u = 0 ↔ u = 0 ∧ s (i + 1) = s i))
    (hStill' : ∀ i u, 0 ≤ u → (brake (i + 1) u = 0 ↔ u = 0 ∧ s (i + 1) = s i)) {i : ℕ}
    (hi : i < count) :
    sweep count accelerate brake v i = 0 ↔ ∃ j, j < count ∧ v j = 0 ∧ s j = s i := by
  have hForward : ∀ i, 0 ≤ forwardSweep count accelerate v i :=
    forwardSweep_nonneg hAccelerate hTop hv
  unfold sweep
  rw [backwardSweep_eq_zero_iff hMono hBrake hTop hForward hStill' hi]
  constructor
  · rintro ⟨k, -, hk, hStop, hSame⟩
    obtain ⟨j, hj, hZero, hSame'⟩ :=
      (forwardSweep_eq_zero_iff hMono hAccelerate hTop hv hStill hk).mp hStop
    exact ⟨j, by omega, hZero, hSame'.trans hSame⟩
  · rintro ⟨j, hj, hStop, hSame⟩
    rcases le_total i j with hAfter | hBefore
    · refine ⟨j, hAfter, hj, ?_, hSame⟩
      exact (forwardSweep_eq_zero_iff hMono hAccelerate hTop hv hStill hj).mpr
        ⟨j, le_rfl, hStop, rfl⟩
    · refine ⟨i, le_rfl, hi, ?_, rfl⟩
      exact (forwardSweep_eq_zero_iff hMono hAccelerate hTop hv hStill hi).mpr
        ⟨j, hBefore, hStop, hSame⟩

end Zeros

end Holds

end PreRunner.Runs
