import Mathlib.Algebra.Order.Floor.Ring
import Mathlib.Data.Rat.Floor
import Mathlib.Tactic.FieldSimp
import Mathlib.Tactic.GCongr
import Mathlib.Tactic.Linarith

/-!
# Resampling an indexed list

The points of one list are mapped to the places of another one, rounded half up, and every place
keeps the cheapest point that comes to it. Points that are further apart than places lose
nothing; points that are closer together fill every place.
-/

namespace PreRunner.Runs

/-! ## Evenly spread points -/

/-- The place of the `i`-th of `k + 1` points spread over the places `0` to `m`, halves upward. -/
def nearestPlace (m k i : ℕ) : ℤ := ⌊(i * m / k : ℚ) + 1 / 2⌋

section Places

variable {m k i j : ℕ}

theorem nearestPlace_nonneg : 0 ≤ nearestPlace m k i :=
  Int.floor_nonneg.mpr (by positivity)

theorem nearestPlace_le (hk : 0 < k) (hi : i ≤ k) : nearestPlace m k i ≤ m := by
  have hPos : (0 : ℚ) < k := by exact_mod_cast hk
  have hScaled : (i * m / k : ℚ) ≤ m := by
    rw [div_le_iff₀ hPos, mul_comm]
    gcongr
  refine Int.lt_add_one_iff.mp (Int.floor_lt.mpr ?_)
  push_cast
  linarith

theorem nearestPlace_mono (hij : i ≤ j) : nearestPlace m k i ≤ nearestPlace m k j := by
  unfold nearestPlace
  gcongr

/-- Points at least one place apart come to different places. -/
theorem nearestPlace_strictMono (hk : 0 < k) (hkm : k ≤ m) (hij : i < j) :
    nearestPlace m k i < nearestPlace m k j := by
  have hPos : (0 : ℚ) < k := by exact_mod_cast hk
  have hApart : (i * m / k : ℚ) + 1 ≤ j * m / k := by
    rw [← div_self hPos.ne', ← add_div]
    have hNext : (i : ℚ) + 1 ≤ j := by exact_mod_cast hij
    have hWide : (k : ℚ) ≤ m := by exact_mod_cast hkm
    gcongr
    calc (i : ℚ) * m + k ≤ i * m + m := by gcongr
      _ = (i + 1) * m := by ring
      _ ≤ j * m := by gcongr
  have hFloor : nearestPlace m k i + 1 ≤ nearestPlace m k j := by
    unfold nearestPlace
    rw [← Int.floor_add_one]
    exact Int.floor_le_floor (by linarith)
  linarith

theorem nearestPlace_self (hm : 0 < m) : nearestPlace m m i = i := by
  have hPos : (m : ℚ) ≠ 0 := by exact_mod_cast hm.ne'
  rw [nearestPlace, mul_div_cancel_right₀ _ hPos, Int.floor_eq_iff]
  push_cast
  exact ⟨by linarith, by linarith⟩

/-- Points at most one place apart come to every place. -/
theorem exists_nearestPlace_eq (hm : 0 < m) (hmk : m ≤ k) {place : ℕ} (hPlace : place ≤ m) :
    ∃ i ≤ k, nearestPlace m k i = place := by
  have hPosM : (0 : ℚ) < m := by exact_mod_cast hm
  have hPosK : (0 : ℚ) < k := by exact_mod_cast hm.trans_le hmk
  have hWide : (m : ℚ) ≤ k := by exact_mod_cast hmk
  have hBelow : (place : ℚ) ≤ m := by exact_mod_cast hPlace
  -- The first point past the lower edge of the place.
  set edge : ℚ := (place - 1 / 2) * k / m with hEdge
  obtain ⟨i, hi⟩ : ∃ i : ℕ, (i : ℤ) = max 0 ⌈edge⌉ := Int.eq_ofNat_of_zero_le (le_max_left _ _)
    |>.imp fun _ h => h.symm
  have hLow : edge ≤ i := by
    have hCeil : (⌈edge⌉ : ℚ) ≤ ((i : ℤ) : ℚ) := by exact_mod_cast hi ▸ le_max_right _ _
    exact (Int.le_ceil _).trans hCeil
  have hHigh : (i : ℚ) < (place + 1 / 2) * k / m := by
    have hStep : edge + 1 ≤ (place + 1 / 2) * k / m := by
      have hOne : (1 : ℚ) ≤ k / m := (one_le_div hPosM).mpr hWide
      have hSplit : (place + 1 / 2) * k / m = edge + k / m := by
        rw [hEdge]
        ring
      linarith
    rcases le_total ⌈edge⌉ 0 with hNeg | hNonneg
    · have hZero : (i : ℤ) = 0 := hi.trans (max_eq_left hNeg)
      have hCast : (i : ℚ) = 0 := by exact_mod_cast hZero
      rw [hCast]
      positivity
    · have hCeil : (i : ℤ) = ⌈edge⌉ := hi.trans (max_eq_right hNonneg)
      have hCast : (i : ℚ) = (⌈edge⌉ : ℚ) := by exact_mod_cast congrArg (Int.cast (R := ℚ)) hCeil
      rw [hCast]
      exact (Int.ceil_lt_add_one _).trans_le hStep
  refine ⟨i, ?_, ?_⟩
  · have hEdgeLe : edge ≤ k := by
      rw [hEdge, div_le_iff₀ hPosM, mul_comm (k : ℚ)]
      gcongr
      linarith
    have hMax : max 0 ⌈edge⌉ ≤ (k : ℤ) :=
      max_le (Int.natCast_nonneg k) (Int.ceil_le.mpr (by exact_mod_cast hEdgeLe))
    exact_mod_cast hi.trans_le hMax
  · rw [nearestPlace, Int.floor_eq_iff]
    rw [hEdge, div_le_iff₀ hPosM] at hLow
    rw [lt_div_iff₀ hPosM] at hHigh
    push_cast
    constructor
    · rw [← sub_le_iff_le_add, le_div_iff₀ hPosK]
      linarith
    · rw [← lt_sub_iff_add_lt, div_lt_iff₀ hPosK]
      linarith

end Places

/-! ## The cheapest point -/

/-- The largest difference that `math.isclose` overlooks. -/
def closeness (relTol absTol a b : ℚ) : ℚ := max (relTol * max |a| |b|) absTol

/-- `math.isclose`. -/
def isclose (relTol absTol a b : ℚ) : Bool := decide (|a - b| ≤ closeness relTol absTol a b)

/-- The point that a place keeps of the first `count` points: the cheapest one, except that a
point which is hardly cheaper does not replace an earlier one. -/
def keptPoint (relTol absTol : ℚ) (placeOf : ℕ → ℕ) (cost : ℕ → ℚ) (place : ℕ) : ℕ → Option ℕ
  | 0 => none
  | count + 1 =>
    if placeOf count = place then
      match keptPoint relTol absTol placeOf cost place count with
      | none => some count
      | some point =>
        if cost count < cost point && !isclose relTol absTol (cost count) (cost point) then
          some count
        else some point
    else keptPoint relTol absTol placeOf cost place count

section Selection

variable {relTol absTol : ℚ} {placeOf : ℕ → ℕ} {cost : ℕ → ℚ} {place count : ℕ}

/-- A place that a point comes to is not empty. -/
theorem keptPoint_isSome {i : ℕ} (hi : i < count) (h : placeOf i = place) :
    ∃ point, keptPoint relTol absTol placeOf cost place count = some point := by
  induction count with
  | zero => cases hi
  | succ count ih =>
    rw [keptPoint]
    by_cases hHere : placeOf count = place
    · rw [if_pos hHere]
      split
      · exact ⟨_, rfl⟩
      · split
        · exact ⟨_, rfl⟩
        · exact ⟨_, rfl⟩
    · rw [if_neg hHere]
      refine ih (lt_of_le_of_ne (Nat.le_of_lt_succ hi) ?_)
      rintro rfl
      exact hHere h

theorem closeness_nonneg (hAbs : 0 ≤ absTol) (a b : ℚ) : 0 ≤ closeness relTol absTol a b :=
  hAbs.trans (le_max_right _ _)

/-- What a cheaper point saves makes up for what the point before it was overlooked for. -/
theorem replaced_within {held next other : ℚ} (hAbs : 0 ≤ absTol)
    (hNext : 0 ≤ next) (hOther : 0 ≤ other) (hCheaper : next < held)
    (hApart : isclose relTol absTol next held = false)
    (hHeld : held ≤ other + closeness relTol absTol held other) :
    next ≤ other + closeness relTol absTol next other := by
  have hTol := @closeness_nonneg relTol _ hAbs next other
  rcases le_total other held with hLess | hMore
  · have hGap : closeness relTol absTol next held < |next - held| :=
      not_le.mp (of_decide_eq_false hApart)
    rw [abs_sub_comm, abs_of_pos (sub_pos.mpr hCheaper)] at hGap
    have hSame : closeness relTol absTol held other ≤ closeness relTol absTol next held := by
      unfold closeness
      rw [abs_of_nonneg hNext, abs_of_nonneg hOther, abs_of_nonneg (hNext.trans hCheaper.le),
        max_eq_left hLess, max_eq_right hCheaper.le]
    linarith
  · linarith

/-- The point that is kept comes to its place, and no other point there is cheaper by more than
what counts as a tie. -/
theorem keptPoint_spec (hAbs : 0 ≤ absTol) (hCost : ∀ i, 0 ≤ cost i)
    {point : ℕ} (h : keptPoint relTol absTol placeOf cost place count = some point) :
    point < count ∧ placeOf point = place ∧ ∀ i < count, placeOf i = place →
      cost point ≤ cost i + closeness relTol absTol (cost point) (cost i) := by
  induction count generalizing point with
  | zero => cases h
  | succ count ih =>
    have hSelf : cost count ≤ cost count + closeness relTol absTol (cost count) (cost count) :=
      le_add_of_nonneg_right (closeness_nonneg hAbs _ _)
    rw [keptPoint] at h
    by_cases hHere : placeOf count = place
    · rw [if_pos hHere] at h
      cases hBefore : keptPoint relTol absTol placeOf cost place count with
      | none =>
        rw [hBefore] at h
        cases h
        refine ⟨Nat.lt_succ_self _, hHere, fun i hi hPlace => ?_⟩
        rcases Nat.lt_succ_iff_lt_or_eq.mp hi with hEarlier | rfl
        · obtain ⟨other, hOther⟩ := @keptPoint_isSome relTol absTol _ cost _ _ _ hEarlier hPlace
          rw [hBefore] at hOther
          cases hOther
        · exact hSelf
      | some held =>
        obtain ⟨hHeldLt, hHeldPlace, hHeld⟩ := ih hBefore
        rw [hBefore] at h
        dsimp only at h
        split at h
        · rename_i hBetter
          cases h
          rw [Bool.and_eq_true, decide_eq_true_eq, Bool.not_eq_true'] at hBetter
          refine ⟨Nat.lt_succ_self _, hHere, fun i hi hPlace => ?_⟩
          rcases Nat.lt_succ_iff_lt_or_eq.mp hi with hEarlier | rfl
          · exact replaced_within hAbs (hCost _) (hCost _) hBetter.1 hBetter.2
              (hHeld i hEarlier hPlace)
          · exact hSelf
        · rename_i hWorse
          cases h
          refine ⟨hHeldLt.trans (Nat.lt_succ_self _), hHeldPlace, fun i hi hPlace => ?_⟩
          rcases Nat.lt_succ_iff_lt_or_eq.mp hi with hEarlier | rfl
          · exact hHeld i hEarlier hPlace
          · rw [Bool.and_eq_true, decide_eq_true_eq, Bool.not_eq_true', not_and,
              Bool.not_eq_false] at hWorse
            rcases le_or_gt (cost point) (cost i) with hLe | hLt
            · exact hLe.trans (le_add_of_nonneg_right (closeness_nonneg hAbs _ _))
            · have hClose := of_decide_eq_true (hWorse hLt)
              rw [abs_sub_comm, abs_of_pos (sub_pos.mpr hLt)] at hClose
              unfold closeness at hClose ⊢
              rw [max_comm |cost point|]
              linarith
    · rw [if_neg hHere] at h
      obtain ⟨hLt, hPlace, hBest⟩ := ih h
      refine ⟨hLt.trans (Nat.lt_succ_self _), hPlace, fun i hi hAt => ?_⟩
      rcases Nat.lt_succ_iff_lt_or_eq.mp hi with hEarlier | rfl
      · exact hBest i hEarlier hAt
      · exact absurd hAt hHere

end Selection

end PreRunner.Runs
