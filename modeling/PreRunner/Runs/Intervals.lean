import Mathlib.Algebra.BigOperators.Group.List.Basic
import Mathlib.Algebra.Order.Group.Unbundled.Basic
import Mathlib.Algebra.Order.Ring.Rat

/-!
# Intervals in order

Intervals of which each ends before the next one starts, the latest first, do not overlap, and
together they are no longer than the time that they lie in.
-/

namespace PreRunner.Runs

/-- Each interval starts where the earlier ones have ended. -/
def InOrder (intervals : List (ℚ × ℚ)) : Prop :=
  intervals.Pairwise fun later earlier => earlier.2 ≤ later.1

/-- The time that the intervals cover, each counted on its own. -/
def totalLength (intervals : List (ℚ × ℚ)) : ℚ :=
  (intervals.map fun interval => interval.2 - interval.1).sum

theorem totalLength_le {intervals : List (ℚ × ℚ)} (hOrder : InOrder intervals) {low high : ℚ}
    (hBounds : low ≤ high) (hLow : ∀ interval ∈ intervals, low ≤ interval.1)
    (hHigh : ∀ interval ∈ intervals, interval.2 ≤ high) :
    totalLength intervals ≤ high - low := by
  induction intervals generalizing high with
  | nil => exact sub_nonneg.mpr hBounds
  | cons interval intervals ih =>
    obtain ⟨hFirst, hRest⟩ := List.pairwise_cons.mp hOrder
    have hTail : totalLength intervals ≤ interval.1 - low :=
      ih hRest (hLow interval List.mem_cons_self)
        (fun earlier hMem => hLow earlier (List.mem_cons_of_mem interval hMem)) hFirst
    calc totalLength (interval :: intervals)
        = (interval.2 - interval.1) + totalLength intervals := rfl
      _ ≤ (interval.2 - interval.1) + (interval.1 - low) := by gcongr
      _ = interval.2 - low := sub_add_sub_cancel _ _ _
      _ ≤ high - low := sub_le_sub_right (hHigh interval List.mem_cons_self) low

end PreRunner.Runs
