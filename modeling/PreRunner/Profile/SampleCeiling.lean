import Mathlib.Tactic.Linarith
import PreRunner.Profile.PathSpeedProfile

/-!
# Sampling a profile

`sampleCeiling` gives the speed ceiling at an arclength: between two points with positive ceilings
it interpolates, and next to a stop it takes the ceiling of the other point, so that only the stop
itself is at zero. Messages carry doubles; on a profile of finite values the sampler is exact.
-/

namespace PreRunner.Profile

variable {K : Type} [Field K] [LinearOrder K]

/-! ## The sampler -/

/-- `profile.points[i]`. -/
def PathSpeedProfile.point (profile : PathSpeedProfile K) (i : ℕ) : ProfilePoint K :=
  profile.points.getD i ⟨.finite 0, .finite 0, cuspNone⟩

/-- `std::upper_bound` by arclength. -/
def upperBound (points : List (ProfilePoint K)) (arclength : Double K) : ℕ :=
  points.findIdx fun point => arclength.lt point.arclength

/-- The ceiling between two points. -/
def sampleBetween (arclength : Double K) (before after : ProfilePoint K) : Double K :=
  let span := after.arclength.sub before.arclength
  if span.le (.finite 0) then before.speedCeiling.min after.speedCeiling
  else if before.speedCeiling.eq (.finite 0) then
    if arclength.eq before.arclength then .finite 0 else after.speedCeiling
  else if after.speedCeiling.eq (.finite 0) then
    if arclength.eq after.arclength then .finite 0 else before.speedCeiling
  else
    let ratio := (arclength.sub before.arclength).div span
    before.speedCeiling.add (ratio.mul (after.speedCeiling.sub before.speedCeiling))

def sampleCeiling (profile : PathSpeedProfile K) (arclength : Double K) : Double K :=
  if profile.points.isEmpty || !arclength.isFinite then .finite 0
  else
    let arclength := arclength.clamp (.finite 0) profile.goalArclength
    let upper := upperBound profile.points arclength
    if upper = 0 then (profile.point 0).speedCeiling
    else if upper = profile.points.length then (profile.point (upper - 1)).speedCeiling
    else sampleBetween arclength (profile.point (upper - 1)) (profile.point upper)

omit [LinearOrder K] in
theorem PathSpeedProfile.getElem_points (profile : PathSpeedProfile K) {i : ℕ}
    (hi : i < profile.points.length) : profile.points[i] = profile.point i := by
  unfold PathSpeedProfile.point
  rw [List.getD_eq_getElem?_getD, List.getElem?_eq_getElem hi, Option.getD_some]

/-! ## Profiles of finite values -/

section Plotted

/-- A profile shows arclengths that do not decrease, from zero to the goal, and ceilings. -/
structure Plotted (profile : PathSpeedProfile K) (count : ℕ) (s c : ℕ → K) : Prop where
  length : profile.points.length = count
  arclength : ∀ i, i < count → (profile.point i).arclength = .finite (s i)
  ceiling : ∀ i, i < count → (profile.point i).speedCeiling = .finite (c i)
  goal : profile.goalArclength = .finite (s (count - 1))
  mono : ∀ i, s i ≤ s (i + 1)
  start : s 0 = 0

/-- What the sampler computes between two points. -/
def interpolated (x : K) (s c : ℕ → K) (i : ℕ) : K :=
  if c i = 0 then if x = s i then 0 else c (i + 1)
  else if c (i + 1) = 0 then c i
  else c i + (x - s i) / (s (i + 1) - s i) * (c (i + 1) - c i)

variable {profile : PathSpeedProfile K} {count : ℕ} {s c : ℕ → K}

theorem Plotted.mono_le (h : Plotted profile count s c) {i j : ℕ} (hij : i ≤ j) : s i ≤ s j :=
  monotone_nat_of_le_succ h.mono hij

theorem sampleBetween_finite [IsStrictOrderedRing K] (h : Plotted profile count s c) {i : ℕ}
    (hi : i + 1 < count) {x : K} (hBefore : s i ≤ x) (hAfter : x < s (i + 1)) :
    sampleBetween (.finite x) (profile.point i) (profile.point (i + 1)) =
      .finite (interpolated x s c i) := by
  have hSpan : 0 < s (i + 1) - s i := sub_pos.mpr (hBefore.trans_lt hAfter)
  have hOpen : ¬ (Double.sub (.finite (s (i + 1))) (.finite (s i))).le (.finite (0 : K)) = true :=
    fun hClosed => absurd (Double.le_finite.mp hClosed) (not_le.mpr hSpan)
  unfold sampleBetween interpolated
  rw [h.arclength i (by omega), h.arclength (i + 1) hi, h.ceiling i (by omega),
    h.ceiling (i + 1) hi]
  dsimp only
  rw [if_neg hOpen]
  by_cases hHere : c i = 0
  · rw [if_pos (Double.eq_finite.mpr hHere), if_pos hHere]
    by_cases hAt : x = s i
    · rw [if_pos (Double.eq_finite.mpr hAt), if_pos hAt]
    · rw [if_neg (mt Double.eq_finite.mp hAt), if_neg hAt]
  · rw [if_neg (mt Double.eq_finite.mp hHere), if_neg hHere]
    by_cases hNext : c (i + 1) = 0
    · rw [if_pos (Double.eq_finite.mpr hNext), if_pos hNext,
        if_neg (mt Double.eq_finite.mp hAfter.ne)]
    · rw [if_neg (mt Double.eq_finite.mp hNext), if_neg hNext]
      exact congrArg (fun ratio => Double.add (.finite (c i))
        (Double.mul ratio (.finite (c (i + 1) - c i)))) (Double.div_finite hSpan.ne')

/-- The upper bound is the first point beyond the arclength. -/
theorem Plotted.upperBound_between (h : Plotted profile count s c) {i : ℕ} {x : K}
    (hi : i + 1 < count) (hBefore : s i ≤ x) (hAfter : x < s (i + 1)) :
    upperBound profile.points (.finite x) = i + 1 := by
  have hInside : i + 1 < profile.points.length := h.length.symm ▸ hi
  refine (List.findIdx_eq hInside).mpr ⟨?_, fun j hj => ?_⟩
  · rw [profile.getElem_points, h.arclength (i + 1) hi]
    exact Double.lt_finite.mpr hAfter
  · rw [profile.getElem_points, h.arclength j (by omega), Bool.eq_false_iff, Ne,
      Double.lt_finite, not_lt]
    exact (h.mono_le (by omega)).trans hBefore

/-- Beyond the last point there is none. -/
theorem Plotted.upperBound_end (h : Plotted profile count s c) {x : K}
    (hBeyond : s (count - 1) ≤ x) :
    upperBound profile.points (.finite x) = profile.points.length := by
  refine List.findIdx_eq_length_of_false fun point hPoint => ?_
  obtain ⟨j, hj, rfl⟩ := List.getElem_of_mem hPoint
  have hCount : j < count := h.length ▸ hj
  rw [profile.getElem_points, h.arclength j hCount, Bool.eq_false_iff, Ne, Double.lt_finite, not_lt]
  exact (h.mono_le (by omega)).trans hBeyond

variable {x : K}

/-- The sampler on a profile of finite values: the last ceiling at the goal, and in between what it
computes from the two points around the arclength. -/
theorem Plotted.sampleCeiling_cases [IsStrictOrderedRing K] (h : Plotted profile count s c)
    (hCount : 0 < count) (x : K) :
    (clamp x 0 (s (count - 1)) = s (count - 1) ∧
        sampleCeiling profile (.finite x) = .finite (c (count - 1))) ∨
      ∃ i, i + 1 < count ∧ s i ≤ clamp x 0 (s (count - 1)) ∧
        clamp x 0 (s (count - 1)) < s (i + 1) ∧
        sampleCeiling profile (.finite x) =
          .finite (interpolated (clamp x 0 (s (count - 1))) s c i) := by
  have hGoal : 0 ≤ s (count - 1) := h.start ▸ h.mono_le (Nat.zero_le _)
  obtain ⟨hLow, hHigh⟩ := clamp_mem hGoal x
  have hSome : profile.points.isEmpty = false := by
    rw [Bool.eq_false_iff, Ne, List.isEmpty_iff]
    intro hNone
    have hLength := h.length
    rw [hNone] at hLength
    exact hCount.ne hLength
  have hSample : sampleCeiling profile (.finite x) =
      if upperBound profile.points (.finite (clamp x 0 (s (count - 1)))) = 0 then
        (profile.point 0).speedCeiling
      else if upperBound profile.points (.finite (clamp x 0 (s (count - 1)))) =
          profile.points.length then
        (profile.point (upperBound profile.points
          (.finite (clamp x 0 (s (count - 1)))) - 1)).speedCeiling
      else sampleBetween (.finite (clamp x 0 (s (count - 1))))
        (profile.point (upperBound profile.points (.finite (clamp x 0 (s (count - 1)))) - 1))
        (profile.point (upperBound profile.points (.finite (clamp x 0 (s (count - 1)))))) := by
    unfold sampleCeiling
    rw [hSome, h.goal, Double.clamp_finite]
    rfl
  rcases hHigh.eq_or_lt with hEnd | hBefore
  · refine Or.inl ⟨hEnd, ?_⟩
    rw [hSample, h.upperBound_end hEnd.ge, h.length, if_neg hCount.ne', if_pos rfl,
      h.ceiling (count - 1) (by omega)]
  · -- the last point at or before the arclength
    obtain ⟨i, hi, hFrom, hTo⟩ : ∃ i, i + 1 < count ∧ s i ≤ clamp x 0 (s (count - 1)) ∧
        clamp x 0 (s (count - 1)) < s (i + 1) := by
      by_contra hNone
      have hAll : ∀ i, i < count → s i ≤ clamp x 0 (s (count - 1)) := by
        intro i hi
        induction i with
        | zero => exact h.start.trans_le hLow
        | succ i ih => exact not_lt.mp fun hLess => hNone ⟨i, hi, ih (by omega), hLess⟩
      exact absurd hBefore (not_lt.mpr (hAll (count - 1) (by omega)))
    refine Or.inr ⟨i, hi, hFrom, hTo, ?_⟩
    rw [hSample, h.upperBound_between hi hFrom hTo, if_neg (Nat.succ_ne_zero i), h.length,
      if_neg (by omega), Nat.add_sub_cancel, sampleBetween_finite h hi hFrom hTo]

end Plotted

end PreRunner.Profile
