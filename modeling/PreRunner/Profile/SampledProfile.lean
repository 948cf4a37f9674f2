import PreRunner.Profile.Anticipation
import PreRunner.Profile.SampleCeiling
import PreRunner.Profile.SweptCeilings

/-!
# The sampled ceilings of a profile

With exact reachable speeds a ceiling is zero just at the place of a stop or of the goal. The
sampler keeps between the ceilings around an arclength and is zero at these places; in between it
is positive, unless two consecutive points are both at stops.

The profile is built by the passes of the code with the exact speeds in the place of the bisections
(`makeProfileWith`), so the creep floor and the marks are those of the code. `SoundSample` is what
a sample should be; the last section has a direction change next to the goal, between which every
sample is zero.
-/

namespace PreRunner.Profile

open Runs

/-! ## The profile with exact speeds -/

section Build

variable {K : Type} [Field K] [LinearOrder K] [FloorRing K] (lib : MathLibrary K)

/-- `makeProfile` with any ceilings after the passes. -/
def makeProfileWith (passed : ProfileConfig K → K → K → ℕ → K) (path : Path K)
    (clearance : List (Double K)) (presetCeiling : Double K)
    (requestedConfig : ProfileConfig (Double K)) : PathSpeedProfile K :=
  let config := usedConfig requestedConfig
  let preset := usedPreset config presetCeiling
  let creep := clearanceSpeed lib config (.finite 0) preset
  let count := path.poses.length
  let profile : PathSpeedProfile K :=
    { frameId := path.frameId
      committedPathStamp := path.stamp
      pathHash := pathIdentity lib path
      poseCount := UInt32.ofNat count
      goalArclength := .finite 0
      presetCeiling := .finite preset
      creepSpeed := .finite creep
      points := [] }
  if path.poses.isEmpty then profile
  else
    let points := (List.range count).map fun i =>
      { arclength := .finite (arclengths lib path i)
        speedCeiling := .finite (creepFloor creep (passed config preset creep i))
        cuspState := (stopMarks lib config preset creep path clearance).state i : ProfilePoint K }
    { profile with
      goalArclength := .finite (arclengths lib path (count - 1))
      points := points.modify (count - 1) fun point => { point with speedCeiling := .finite 0 } }

/-- The profile of the code has the ceilings of its passes. -/
theorem makeProfile_eq_with (path : Path K) (clearance : List (Double K)) (presetCeiling : Double K)
    (requestedConfig : ProfileConfig (Double K)) :
    makeProfile lib path clearance presetCeiling requestedConfig =
      makeProfileWith lib (fun config preset creep =>
        passedCeiling lib config preset creep path clearance) path clearance presetCeiling
        requestedConfig := rfl

end Build

section Exact

variable (bits : ℝ → UInt64) (path : Path ℝ) (clearance : List (Double ℝ))
  (presetCeiling : Double ℝ) (requestedConfig : ProfileConfig (Double ℝ))

/-- The ceilings of a path with exact reachable speeds, before the creep floor. -/
noncomputable def exactPathCeiling (config : ProfileConfig ℝ) (preset creep : ℝ) : ℕ → ℝ :=
  exactPassed bits config preset path
    (stopMarks (.real bits) config preset creep path clearance).ceiling

/-- `makeProfile` with exact reachable speeds. -/
noncomputable def exactProfile : PathSpeedProfile ℝ :=
  makeProfileWith (.real bits) (exactPathCeiling bits path clearance) path clearance presetCeiling
    requestedConfig

/-- A pose at the arclength of a stop or of the goal. -/
def AtStop (config : ProfileConfig ℝ) (i : ℕ) : Prop :=
  ∃ j, j < path.poses.length ∧
    (ChangesSign (.real bits) config path j ∨ j + 1 = path.poses.length) ∧
    arclengths (.real bits) path j = arclengths (.real bits) path i

variable {path} (config : ProfileConfig ℝ) {preset creep : ℝ} {i : ℕ}

/-- The ceilings that the sweeps start from. -/
theorem anticipated_lowered (hCreep : 0 ≤ creep) (hLe : creep ≤ preset) (hPath : path.poses ≠ []) :
    Lowered (stopMarks (.real bits) config preset creep path clearance).ceiling
      (anticipationPass (arclengths (.real bits) path) path.poses.length config.approachTime preset
        (stopMarks (.real bits) config preset creep path clearance).ceiling) :=
  anticipationPass_lowered _ _ _ _
    (stopMarks_marked (.real bits) config path clearance hCreep hLe hPath).nonneg

variable {config}

theorem exactPathCeiling_feasible (hConfig : config.Valid) (hCreep : 0 ≤ creep)
    (hLe : creep ≤ preset) (hPath : path.poses ≠ []) :
    Feasible path.poses.length (accelerationTo bits config preset path)
      (brakingTo bits config preset path)
      (exactPathCeiling bits path clearance config preset creep) :=
  sweep_feasible (accelerationTo_holds bits hConfig (hCreep.trans hLe))
    (brakingTo_holds bits hConfig (hCreep.trans hLe)) (hCreep.trans hLe)
    fun i => (anticipated_lowered bits clearance config hCreep hLe hPath i).1

theorem exactPathCeiling_le (hCreep : 0 ≤ creep) (hLe : creep ≤ preset) (hPath : path.poses ≠ [])
    (i : ℕ) : exactPathCeiling bits path clearance config preset creep i ≤ preset := by
  have hLowered := anticipated_lowered bits clearance config hCreep hLe hPath
  have hMarked := stopMarks_marked (.real bits) config path clearance hCreep hLe hPath
  unfold exactPathCeiling exactPassed
  rw [exactPasses_eq_sweep]
  exact (sweep_le i).trans ((hLowered i).2.trans (hMarked.le i))

/-- Exact ceilings are zero just at the places of the stops and of the goal. -/
theorem exactPathCeiling_eq_zero_iff (hConfig : config.Valid) (hCreep : 0 < creep)
    (hLe : creep ≤ preset) (hPath : path.poses ≠ []) (hi : i < path.poses.length) :
    exactPathCeiling bits path clearance config preset creep i = 0 ↔
      AtStop bits path config i := by
  have hPreset : 0 < preset := hCreep.trans_le hLe
  have hMarked := stopMarks_marked (.real bits) config path clearance hCreep.le hLe hPath
  have hLowered := anticipated_lowered bits clearance config hCreep.le hLe hPath
  have hZeros := sweep_eq_zero_iff (arclengths_le_succ (.real bits) path)
    (accelerationTo_holds bits hConfig hPreset.le) (brakingTo_holds bits hConfig hPreset.le)
    hPreset.le (fun i => (hLowered i).1)
    (fun i u hu => accelerationTo_eq_zero_iff bits hConfig hPreset i hu)
    (fun i u hu => brakingTo_eq_zero_iff bits hConfig hPreset i hu) hi
  refine hZeros.trans (exists_congr fun j => and_congr_right fun hj => and_congr_left fun _ => ?_)
  constructor
  · intro hZero
    by_contra hOpen
    rw [not_or] at hOpen
    have hRaw := hCreep.trans_le (creep_le_stopMarks (.real bits) config path clearance hLe
      (by omega) hOpen.1)
    exact (anticipationPass_pos _ j hRaw).ne' hZero
  · rintro (hStop | hGoal)
    · exact hLowered.eq_zero (hMarked.zero j hj ((hMarked.stop j hj).mpr hStop))
    · rw [show j = path.poses.length - 1 by omega]
      exact hLowered.eq_zero hMarked.goal

/-- Poses at one place have one ceiling. -/
theorem exactPathCeiling_same (hConfig : config.Valid) (hCreep : 0 ≤ creep) (hLe : creep ≤ preset)
    (hPath : path.poses ≠ []) (hi : i + 1 < path.poses.length)
    (hSame : arclengths (.real bits) path i = arclengths (.real bits) path (i + 1)) :
    exactPathCeiling bits path clearance config preset creep i =
      exactPathCeiling bits path clearance config preset creep (i + 1) := by
  have hFeasible := exactPathCeiling_feasible bits clearance hConfig hCreep hLe hPath
  have hStill : arclengths (.real bits) path (i + 1) - arclengths (.real bits) path i = 0 :=
    sub_eq_zero.mpr hSame.symm
  refine le_antisymm ((hFeasible.brakes i hi).trans ?_) ((hFeasible.accelerates i hi).trans ?_)
  · unfold brakingTo
    rw [Nat.add_sub_cancel, hStill]
    exact exactReachableSpeed_still bits hConfig (hCreep.trans hLe) (hFeasible.nonneg (i + 1))
  · unfold accelerationTo
    rw [Nat.add_sub_cancel, hStill]
    exact exactReachableSpeedByAcceleration_still bits hConfig (hCreep.trans hLe)
      (hFeasible.nonneg i)

end Exact

/-! ## What a sample keeps -/

section Samples

variable {K : Type} [Field K] [LinearOrder K]

def PathSpeedProfile.arclengthAt (profile : PathSpeedProfile K) (i : ℕ) : K :=
  (profile.point i).arclength.finiteOr 0

def PathSpeedProfile.ceilingAt (profile : PathSpeedProfile K) (i : ℕ) : K :=
  (profile.point i).speedCeiling.finiteOr 0

/-- A sample lies between zero and the ceilings around it, below the preset; it is zero at the
stops and at the goal, and positive strictly between two consecutive points. -/
structure SoundSample (profile : PathSpeedProfile K) (x value : K) : Prop where
  nonneg : 0 ≤ value
  bracketed : ∀ i, i + 1 < profile.points.length →
    profile.arclengthAt i ≤ clamp x 0 (profile.goalArclength.finiteOr 0) →
    clamp x 0 (profile.goalArclength.finiteOr 0) ≤ profile.arclengthAt (i + 1) →
    value ≤ max (profile.ceilingAt i) (profile.ceilingAt (i + 1))
  le_preset : value ≤ profile.presetCeiling.finiteOr 0
  stop : ∀ i, i < profile.points.length →
    (profile.point i).cuspState = cuspStop ∨ i + 1 = profile.points.length →
    x = profile.arclengthAt i → value = 0
  between : ∀ i, i + 1 < profile.points.length → profile.arclengthAt i < x →
    x < profile.arclengthAt (i + 1) → 0 < value

variable [IsStrictOrderedRing K] {s c : ℕ → K} {x : K} {i : ℕ}

theorem interpolated_mem (hHere : 0 ≤ c i) (hNext : 0 ≤ c (i + 1)) (hFrom : s i ≤ x)
    (hTo : x < s (i + 1)) :
    0 ≤ interpolated x s c i ∧ interpolated x s c i ≤ max (c i) (c (i + 1)) := by
  have hSpan : 0 < s (i + 1) - s i := sub_pos.mpr (hFrom.trans_lt hTo)
  have hLow : 0 ≤ (x - s i) / (s (i + 1) - s i) := div_nonneg (sub_nonneg.mpr hFrom) hSpan.le
  have hHigh : (x - s i) / (s (i + 1) - s i) ≤ 1 :=
    (div_le_one hSpan).mpr (sub_le_sub_right hTo.le _)
  unfold interpolated
  split
  · split
    · exact ⟨le_rfl, le_max_of_le_left hHere⟩
    · exact ⟨hNext, le_max_right _ _⟩
  · split
    · exact ⟨hHere, le_max_left _ _⟩
    · have hMix : c i + (x - s i) / (s (i + 1) - s i) * (c (i + 1) - c i) =
          (1 - (x - s i) / (s (i + 1) - s i)) * c i +
            (x - s i) / (s (i + 1) - s i) * c (i + 1) := by ring
      rw [hMix]
      refine ⟨add_nonneg (mul_nonneg (sub_nonneg.mpr hHigh) hHere) (mul_nonneg hLow hNext), ?_⟩
      have hFirst := mul_le_mul_of_nonneg_left (le_max_left (c i) (c (i + 1)))
        (sub_nonneg.mpr hHigh)
      have hSecond := mul_le_mul_of_nonneg_left (le_max_right (c i) (c (i + 1))) hLow
      linarith

/-- Strictly between two points the sample is positive if one of their ceilings is. -/
theorem interpolated_pos (hHere : 0 ≤ c i) (hNext : 0 ≤ c (i + 1)) (hFrom : s i < x)
    (hTo : x < s (i + 1)) (hOpen : ¬ (c i = 0 ∧ c (i + 1) = 0)) : 0 < interpolated x s c i := by
  have hSpan : 0 < s (i + 1) - s i := sub_pos.mpr (hFrom.trans hTo)
  unfold interpolated
  by_cases hStop : c i = 0
  · rw [if_pos hStop, if_neg hFrom.ne']
    exact hNext.lt_of_ne' fun h => hOpen ⟨hStop, h⟩
  · have hPos : 0 < c i := hHere.lt_of_ne' hStop
    rw [if_neg hStop]
    by_cases hStop' : c (i + 1) = 0
    · rwa [if_pos hStop']
    · have hPos' : 0 < c (i + 1) := hNext.lt_of_ne' hStop'
      have hHigh : (x - s i) / (s (i + 1) - s i) < 1 :=
        (div_lt_one hSpan).mpr (sub_lt_sub_right hTo _)
      have hLow : 0 < (x - s i) / (s (i + 1) - s i) := div_pos (sub_pos.mpr hFrom) hSpan
      have hFirst := mul_pos (sub_pos.mpr hHigh) hPos
      have hSecond := mul_pos hLow hPos'
      rw [if_neg hStop']
      linarith

omit [IsStrictOrderedRing K] in
/-- At the first of two points the sample is its ceiling. -/
theorem interpolated_start : interpolated (s i) s c i = c i := by
  unfold interpolated
  rw [sub_self, zero_div, zero_mul, add_zero, if_pos rfl, ite_self]
  split
  · rename_i hStop
    exact hStop.symm
  · rfl

variable {profile : PathSpeedProfile K} {count : ℕ}

/-- Strictly between two points the sampler interpolates their ceilings. -/
theorem Plotted.sampleCeiling_between (h : Plotted profile count s c) (hi : i + 1 < count)
    (hAfter : s i < x) (hBefore : x < s (i + 1)) :
    sampleCeiling profile (.finite x) = .finite (interpolated x s c i) := by
  have hInside : clamp x 0 (s (count - 1)) = x := clamp_of_mem
    ((h.start ▸ h.mono_le (Nat.zero_le i)).trans hAfter.le)
    (hBefore.le.trans (h.mono_le (by omega)))
  rcases h.sampleCeiling_cases (by omega) x with ⟨hEnd, -⟩ | ⟨j, -, hFrom, hTo, hSample⟩
  · rw [hInside] at hEnd
    exact absurd (hBefore.trans_le (h.mono_le (by omega))) hEnd.not_lt
  · rw [hInside] at hFrom hTo hSample
    have hSame : j = i := by
      by_contra hOther
      rcases Nat.lt_or_gt_of_ne hOther with hLess | hLess
      · exact absurd (hTo.trans_le (h.mono_le hLess)) hAfter.le.not_gt
      · exact absurd (hBefore.trans_le (h.mono_le hLess)) hFrom.not_gt
    rw [hSample, hSame]

omit [IsStrictOrderedRing K] in
/-- Between two zero ceilings the sampler finds nothing else. -/
theorem interpolated_zero (hHere : c i = 0) (hNext : c (i + 1) = 0) :
    interpolated x s c i = 0 := by
  unfold interpolated
  rw [if_pos hHere, hNext, ite_self]

/-- What makes the samples of a profile sound: ceilings up to the preset that are zero at the stops
and at the goal, equal at one place, and not zero at two consecutive places. -/
structure StopsApart (profile : PathSpeedProfile K) (count : ℕ) (preset : K) (s c : ℕ → K) :
    Prop where
  nonneg : ∀ i, 0 ≤ c i
  le_preset : ∀ i, c i ≤ preset
  stop : ∀ i, i < count → (profile.point i).cuspState = cuspStop ∨ i + 1 = count → c i = 0
  same : ∀ i, i + 1 < count → s i = s (i + 1) → c i = c (i + 1)
  apart : ∀ i, i + 1 < count → s i < s (i + 1) → ¬ (c i = 0 ∧ c (i + 1) = 0)

variable {preset : K}

omit [IsStrictOrderedRing K] in
/-- Points at one place have one ceiling. -/
theorem StopsApart.same_of_le (h : StopsApart profile count preset s c)
    (hPlot : Plotted profile count s c) {i j : ℕ} (hij : i ≤ j) (hj : j < count)
    (hSame : s i = s j) : c i = c j := by
  induction j, hij using Nat.le_induction with
  | base => rfl
  | succ j hij ih =>
    have hBefore : s i = s j :=
      le_antisymm (hPlot.mono_le hij) (hSame.ge.trans' (hPlot.mono j))
    exact (ih (by omega) hBefore).trans (h.same j hj (hBefore.symm.trans hSame))

/-- On such a profile every sample is sound. -/
theorem StopsApart.sound (h : StopsApart profile count preset s c)
    (hPlot : Plotted profile count s c) (hPreset : profile.presetCeiling = .finite preset)
    (hCount : 0 < count) (x : K) :
    ∃ value, sampleCeiling profile (.finite x) = .finite value ∧ SoundSample profile x value := by
  have hArclength : ∀ i, i < count → profile.arclengthAt i = s i := fun i hi => by
    rw [PathSpeedProfile.arclengthAt, hPlot.arclength i hi]
    rfl
  have hCeiling : ∀ i, i < count → profile.ceilingAt i = c i := fun i hi => by
    rw [PathSpeedProfile.ceilingAt, hPlot.ceiling i hi]
    rfl
  have hGoal : profile.goalArclength.finiteOr 0 = s (count - 1) := by
    rw [hPlot.goal]
    rfl
  have hTop : profile.presetCeiling.finiteOr 0 = preset := by
    rw [hPreset]
    rfl
  have hInside : ∀ i, i < count → clamp (s i) 0 (s (count - 1)) = s i := fun i hi =>
    clamp_of_mem (hPlot.start ▸ hPlot.mono_le (Nat.zero_le i)) (hPlot.mono_le (by omega))
  have hBetween : ∀ j, j + 1 < profile.points.length → profile.arclengthAt j < x →
      x < profile.arclengthAt (j + 1) →
      ∀ value, sampleCeiling profile (.finite x) = .finite value → 0 < value := by
    intro j hj hAfter hBefore value hSample
    rw [hPlot.length] at hj
    rw [hArclength j (by omega)] at hAfter
    rw [hArclength (j + 1) hj] at hBefore
    cases (hPlot.sampleCeiling_between hj hAfter hBefore).symm.trans hSample
    exact interpolated_pos (h.nonneg j) (h.nonneg (j + 1)) hAfter hBefore
      (h.apart j hj (hAfter.trans hBefore))
  rcases hPlot.sampleCeiling_cases hCount x with ⟨hEnd, hSample⟩ | ⟨i, hi, hFrom, hTo, hSample⟩
  · have hLast : c (count - 1) = 0 := h.stop (count - 1) (by omega) (Or.inr (by omega))
    refine ⟨_, hSample, (h.nonneg _), fun j hj _ _ => ?_, ?_, fun _ _ _ _ => hLast, ?_⟩
    · rw [hLast]
      rw [hPlot.length] at hj
      exact le_max_of_le_left ((h.nonneg j).trans_eq (hCeiling j (by omega)).symm)
    · rw [hTop]
      exact h.le_preset _
    · exact fun j hj hAfter hBefore => hBetween j hj hAfter hBefore _ hSample
  · obtain ⟨hLow, hHigh⟩ := interpolated_mem (h.nonneg i) (h.nonneg (i + 1)) hFrom hTo
    refine ⟨_, hSample, hLow, fun j hj hAfter hBefore => ?_, ?_, fun j hj hStop hAt => ?_,
      fun j hj hAfter hBefore => ?_⟩
    · rw [hPlot.length] at hj
      rw [hGoal, hArclength j (by omega)] at hAfter
      rw [hGoal, hArclength (j + 1) hj] at hBefore
      rw [hCeiling j (by omega), hCeiling (j + 1) hj]
      have hOrder : j ≤ i := by
        by_contra hLater
        exact absurd (hTo.trans_le (hPlot.mono_le (by omega))) hAfter.not_gt
      rcases hOrder.eq_or_lt with rfl | hLess
      · exact hHigh
      · -- the arclength is that of the point between the two intervals
        have hMeet : s (j + 1) = s i := le_antisymm (hPlot.mono_le hLess) (hFrom.trans hBefore)
        have hAt : clamp x 0 (s (count - 1)) = s i := le_antisymm (hMeet ▸ hBefore) hFrom
        rw [hAt, interpolated_start, ← h.same_of_le hPlot hLess (by omega) hMeet]
        exact le_max_right _ _
    · rw [hTop]
      exact hHigh.trans (max_le (h.le_preset i) (h.le_preset (i + 1)))
    · rw [hPlot.length] at hj hStop
      rw [hArclength j hj] at hAt
      rw [hAt, hInside j hj] at hFrom hTo ⊢
      have hOrder : j ≤ i := by
        by_contra hLater
        exact absurd (hPlot.mono_le (show i + 1 ≤ j by omega)) hTo.not_ge
      have hSame : s j = s i := le_antisymm (hPlot.mono_le hOrder) hFrom
      rw [hSame, interpolated_start, ← h.same_of_le hPlot hOrder (by omega) hSame]
      exact h.stop j hj hStop
    · exact hBetween j hj hAfter hBefore _ hSample

end Samples

/-! ## The samples of a profile with exact speeds -/

section ExactSamples

variable (bits : ℝ → UInt64) (path : Path ℝ) (clearance : List (Double ℝ))
  (presetCeiling : Double ℝ) (requestedConfig : ProfileConfig (Double ℝ))

/-- The ceiling that the exact profile publishes for a pose. -/
noncomputable def exactPublished : ℕ → ℝ :=
  let config := usedConfig requestedConfig
  fun i => creepFloor config.minimumTraversalSpeed
    (exactPathCeiling bits path clearance config (usedPreset config presetCeiling)
      config.minimumTraversalSpeed i)

variable {path}

theorem exactPublished_eq_zero_iff (hPath : path.poses ≠ []) {i : ℕ} (hi : i < path.poses.length) :
    exactPublished bits path clearance presetCeiling requestedConfig i = 0 ↔
      AtStop bits path (usedConfig requestedConfig) i := by
  have hValid := usedConfig_valid requestedConfig
  have hPreset := le_usedPreset (usedConfig requestedConfig) presetCeiling
  have hFeasible := exactPathCeiling_feasible bits clearance hValid hValid.1.le hPreset hPath
  refine Iff.trans ?_ (exactPathCeiling_eq_zero_iff bits clearance hValid hValid.1 hPreset hPath hi)
  refine ⟨fun hZero => ?_, fun hZero => ?_⟩
  · exact le_antisymm ((le_creepFloor _ _).trans_eq hZero) (hFeasible.nonneg i)
  · unfold exactPublished creepFloor
    rw [hZero, if_neg (lt_irrefl _)]

/-- The points of the exact profile. -/
theorem exactProfile_points (hPath : path.poses ≠ []) :
    (exactProfile bits path clearance presetCeiling requestedConfig).points =
      (List.range path.poses.length).map fun i =>
        { arclength := .finite (arclengths (.real bits) path i)
          speedCeiling := .finite
            (exactPublished bits path clearance presetCeiling requestedConfig i)
          cuspState := (stopMarks (.real bits) (usedConfig requestedConfig)
            (usedPreset (usedConfig requestedConfig) presetCeiling)
            (usedConfig requestedConfig).minimumTraversalSpeed path clearance).state i } := by
  have hValid := usedConfig_valid requestedConfig
  have hPreset := le_usedPreset (usedConfig requestedConfig) presetCeiling
  have hPositive : 0 < path.poses.length := List.length_pos_iff.mpr hPath
  have hGoal : exactPublished bits path clearance presetCeiling requestedConfig
      (path.poses.length - 1) = 0 :=
    (exactPublished_eq_zero_iff bits clearance presetCeiling requestedConfig hPath (by omega)).mpr
      ⟨path.poses.length - 1, by omega, Or.inr (by omega), rfl⟩
  unfold exactProfile makeProfileWith
  dsimp only
  rw [if_neg (by rwa [List.isEmpty_iff]), clearanceSpeed_zero _ hValid hPreset]
  refine modify_map_range ?_
  exact congrArg (fun speed => ProfilePoint.mk _ (.finite speed) _) hGoal.symm

theorem exactProfile_point (hPath : path.poses ≠ []) {i : ℕ} (hi : i < path.poses.length) :
    (exactProfile bits path clearance presetCeiling requestedConfig).point i =
      { arclength := .finite (arclengths (.real bits) path i)
        speedCeiling := .finite
          (exactPublished bits path clearance presetCeiling requestedConfig i)
        cuspState := (stopMarks (.real bits) (usedConfig requestedConfig)
          (usedPreset (usedConfig requestedConfig) presetCeiling)
          (usedConfig requestedConfig).minimumTraversalSpeed path clearance).state i } := by
  unfold PathSpeedProfile.point
  rw [exactProfile_points bits clearance presetCeiling requestedConfig hPath,
    List.getD_eq_getElem?_getD, List.getElem?_map, List.getElem?_range hi]
  rfl

theorem exactProfile_plotted (hPath : path.poses ≠ []) :
    Plotted (exactProfile bits path clearance presetCeiling requestedConfig) path.poses.length
      (arclengths (.real bits) path)
      (exactPublished bits path clearance presetCeiling requestedConfig) := by
  have hPoint := fun i hi => exactProfile_point bits clearance presetCeiling requestedConfig hPath
    (i := i) hi
  refine ⟨?_, fun i hi => ?_, fun i hi => ?_, ?_, fun i => arclengths_le_succ _ path i, rfl⟩
  · rw [exactProfile_points bits clearance presetCeiling requestedConfig hPath, List.length_map,
      List.length_range]
  · rw [hPoint i hi]
  · rw [hPoint i hi]
  · unfold exactProfile makeProfileWith
    dsimp only
    rw [if_neg (by rwa [List.isEmpty_iff])]

theorem exactProfile_presetCeiling :
    (exactProfile bits path clearance presetCeiling requestedConfig).presetCeiling =
      .finite (usedPreset (usedConfig requestedConfig) presetCeiling) := by
  unfold exactProfile makeProfileWith
  dsimp only
  split <;> rfl

theorem exactProfile_stopsApart (hPath : path.poses ≠ [])
    (hApart : ∀ i, i + 1 < path.poses.length →
      arclengths (.real bits) path i < arclengths (.real bits) path (i + 1) →
      ¬ (AtStop bits path (usedConfig requestedConfig) i ∧
        AtStop bits path (usedConfig requestedConfig) (i + 1))) :
    StopsApart (exactProfile bits path clearance presetCeiling requestedConfig) path.poses.length
      (usedPreset (usedConfig requestedConfig) presetCeiling) (arclengths (.real bits) path)
      (exactPublished bits path clearance presetCeiling requestedConfig) := by
  have hValid := usedConfig_valid requestedConfig
  have hPreset := le_usedPreset (usedConfig requestedConfig) presetCeiling
  have hFeasible := exactPathCeiling_feasible bits clearance hValid hValid.1.le hPreset hPath
  have hLe := @exactPathCeiling_le bits _ clearance (usedConfig requestedConfig) _ _ hValid.1.le
    hPreset hPath
  have hMarked := stopMarks_marked (.real bits) (usedConfig requestedConfig) path clearance
    hValid.1.le hPreset hPath
  have hZero := fun i hi => exactPublished_eq_zero_iff bits clearance presetCeiling requestedConfig
    hPath (i := i) hi
  refine ⟨fun i => (hFeasible.nonneg i).trans (le_creepFloor _ _), fun i => ?_,
    fun i hi hStop => ?_,
    fun i hi hSame => ?_, fun i hi hSpan hBoth => ?_⟩
  · exact (creepFloor_le _ _).trans (max_le hPreset (hLe i))
  · rw [exactProfile_point bits clearance presetCeiling requestedConfig hPath hi] at hStop
    exact (hZero i hi).mpr ⟨i, hi, hStop.imp_left (hMarked.stop i hi).mp, rfl⟩
  · exact congrArg (creepFloor _)
      (exactPathCeiling_same bits clearance hValid hValid.1.le hPreset hPath hi hSame)
  · exact hApart i hi hSpan ⟨(hZero i (by omega)).mp hBoth.1, (hZero (i + 1) hi).mp hBoth.2⟩

/-- Between two consecutive poses that are both at stops the sampler holds at zero. -/
theorem sampleCeiling_consecutive_stops {i : ℕ} (hi : i + 1 < path.poses.length)
    (hHere : AtStop bits path (usedConfig requestedConfig) i)
    (hNext : AtStop bits path (usedConfig requestedConfig) (i + 1)) {x : ℝ}
    (hAfter : arclengths (.real bits) path i < x)
    (hBefore : x < arclengths (.real bits) path (i + 1)) :
    sampleCeiling (exactProfile bits path clearance presetCeiling requestedConfig) (.finite x) =
      .finite 0 := by
  have hPath : path.poses ≠ [] := List.length_pos_iff.mp (by omega)
  have hZero := fun j hj => exactPublished_eq_zero_iff bits clearance presetCeiling requestedConfig
    hPath (i := j) hj
  rw [(exactProfile_plotted bits clearance presetCeiling requestedConfig
    hPath).sampleCeiling_between
    hi hAfter hBefore,
    interpolated_zero ((hZero i (by omega)).mpr hHere) ((hZero (i + 1) hi).mpr hNext)]

/-- Between two such poses no sample is sound. -/
theorem not_sound_of_consecutive_stops {i : ℕ} (hi : i + 1 < path.poses.length)
    (hHere : AtStop bits path (usedConfig requestedConfig) i)
    (hNext : AtStop bits path (usedConfig requestedConfig) (i + 1)) {x : ℝ}
    (hAfter : arclengths (.real bits) path i < x)
    (hBefore : x < arclengths (.real bits) path (i + 1)) :
    ¬ ∃ value, sampleCeiling (exactProfile bits path clearance presetCeiling requestedConfig)
        (.finite x) = .finite value ∧
      SoundSample (exactProfile bits path clearance presetCeiling requestedConfig) x value := by
  rintro ⟨value, hSample, hValue⟩
  have hPath : path.poses ≠ [] := List.length_pos_iff.mp (by omega)
  have hPlot := exactProfile_plotted bits clearance presetCeiling requestedConfig hPath
  have hStopped := sampleCeiling_consecutive_stops bits clearance presetCeiling requestedConfig hi
    hHere hNext hAfter hBefore
  cases hStopped.symm.trans hSample
  refine absurd (hValue.between i (by rwa [hPlot.length]) ?_ ?_) (lt_irrefl _)
  · rw [PathSpeedProfile.arclengthAt, hPlot.arclength i (by omega)]
    exact hAfter
  · rw [PathSpeedProfile.arclengthAt, hPlot.arclength (i + 1) hi]
    exact hBefore

/-- The profile of an empty path has no points, and its samples are zero. -/
theorem exactProfile_sound_empty (hPath : path.poses = []) (x : ℝ) :
    ∃ value, sampleCeiling (exactProfile bits path clearance presetCeiling requestedConfig)
        (.finite x) = .finite value ∧
      SoundSample (exactProfile bits path clearance presetCeiling requestedConfig) x value := by
  have hValid := usedConfig_valid requestedConfig
  have hPreset := le_usedPreset (usedConfig requestedConfig) presetCeiling
  have hPoints : (exactProfile bits path clearance presetCeiling requestedConfig).points = [] := by
    unfold exactProfile makeProfileWith
    dsimp only
    rw [if_pos (by rwa [List.isEmpty_iff])]
  have hNone : ∀ i, ¬ i < (exactProfile bits path clearance presetCeiling
      requestedConfig).points.length := fun i hi => by
    rw [hPoints] at hi
    exact absurd hi (Nat.not_lt_zero i)
  refine ⟨0, ?_, le_rfl, fun i hi => absurd hi (hNone _), ?_, fun i hi => absurd hi (hNone i),
    fun i hi => absurd hi (hNone _)⟩
  · unfold sampleCeiling
    rw [hPoints]
    rfl
  · rw [exactProfile_presetCeiling]
    exact hValid.1.le.trans hPreset

/-- Every sample of a profile with exact speeds is sound just when no two consecutive poses at
different places are both at a stop or at the goal. Where one end of a span moves the interpolated
ceiling is sound (`StopsApart.sound`); between two consecutive stops every inner sample is wrong
(`not_sound_of_consecutive_stops`). -/
theorem sampleCeiling_sound_iff :
    (∀ x, ∃ value, sampleCeiling (exactProfile bits path clearance presetCeiling requestedConfig)
        (.finite x) = .finite value ∧
      SoundSample (exactProfile bits path clearance presetCeiling requestedConfig) x value) ↔
    ∀ i, i + 1 < path.poses.length →
      arclengths (.real bits) path i < arclengths (.real bits) path (i + 1) →
      ¬ (AtStop bits path (usedConfig requestedConfig) i ∧
        AtStop bits path (usedConfig requestedConfig) (i + 1)) := by
  rcases eq_or_ne path.poses [] with hPath | hPath
  · refine iff_of_true (exactProfile_sound_empty bits clearance presetCeiling requestedConfig hPath)
      fun i hi => ?_
    rw [hPath] at hi
    exact absurd hi (Nat.not_lt_zero _)
  constructor
  · rintro hSound i hi hSpan ⟨hHere, hNext⟩
    obtain ⟨x, hAfter, hBefore⟩ := exists_between hSpan
    exact not_sound_of_consecutive_stops bits clearance presetCeiling requestedConfig hi hHere hNext
      hAfter hBefore (hSound x)
  · exact fun hApart => (exactProfile_stopsApart bits clearance presetCeiling requestedConfig hPath
      hApart).sound (exactProfile_plotted bits clearance presetCeiling requestedConfig hPath)
      (exactProfile_presetCeiling bits clearance presetCeiling requestedConfig)
      (List.length_pos_iff.mpr hPath)

/-! ## A stop next to the goal -/

theorem cuspPath_arclengths :
    arclengths (.real bits) cuspPath 1 = 1 ∧ arclengths (.real bits) cuspPath 2 = 2 := by
  have hFirst : poseDistance (.real bits) (cuspPath.pose 0) (cuspPath.pose 1) = 1 := by
    show Real.sqrt ((1 - 0) ^ 2 + (0 - 0) ^ 2) = 1
    norm_num
  have hSecond : poseDistance (.real bits) (cuspPath.pose 1) (cuspPath.pose 2) = 1 := by
    show Real.sqrt ((0 - 1) ^ 2 + (0 - 0) ^ 2) = 1
    norm_num
  have hOne : arclengths (.real bits) cuspPath 1 = 1 := by
    rw [arclengths, arclengths, hFirst, zero_add]
  exact ⟨hOne, by rw [arclengths, hOne, hSecond]; norm_num⟩

/-- A pose without rotation looks along the x axis. -/
theorem yaw_identity : yaw (.real bits) ⟨0, 0, 0, 1⟩ = 0 := by
  show Complex.arg ⟨1 - 2 * (0 * 0 + 0 * 0), 2 * (1 * 0 + 0 * 0)⟩ = 0
  have hOne : (⟨1 - 2 * (0 * 0 + 0 * 0), 2 * (1 * 0 + 0 * 0)⟩ : ℂ) = 1 := by
    apply Complex.ext <;> norm_num
  rw [hOne, Complex.arg_one]

theorem cuspPath_directions :
    segmentDirection (.real bits) .default cuspPath 0 = 1 ∧
      segmentDirection (.real bits) .default cuspPath 1 = -1 := by
  have hLength : ∀ dx : ℝ, dx = 1 ∨ dx = -1 → (MathLibrary.real bits).hypot dx 0 = 1 := by
    intro dx hdx
    show Real.sqrt (dx ^ 2 + 0 ^ 2) = 1
    rcases hdx with rfl | rfl <;> norm_num
  have hAhead : (MathLibrary.real bits).cos 0 = 1 ∧ (MathLibrary.real bits).sin 0 = 0 :=
    ⟨Real.cos_zero, Real.sin_zero⟩
  constructor
  · unfold segmentDirection
    simp only [Path.pose, cuspPath, List.getD_cons_zero, List.getD_cons_succ, zero_add, sub_zero,
      yaw_identity, hAhead, hLength 1 (Or.inl rfl), ProfileConfig.default]
    norm_num
  · unfold segmentDirection
    simp only [Path.pose, cuspPath, List.getD_cons_zero, List.getD_cons_succ, zero_sub, sub_zero,
      yaw_identity, hAhead, hLength (-1) (Or.inr rfl), ProfileConfig.default]
    norm_num

theorem cuspPath_changesSign : ChangesSign (.real bits) .default cuspPath 1 := by
  obtain ⟨hFirst, hSecond⟩ := cuspPath_directions bits
  refine ⟨Nat.one_pos, by decide, ?_⟩
  unfold travelDirection
  rw [Nat.sub_self, gapFilled_of_ne_zero (by rw [hFirst]; decide),
    gapFilled_of_ne_zero (by rw [hSecond]; decide), hFirst, hSecond]
  decide

/-- Drive ahead by a metre and back again: half-way back the sample is zero. -/
theorem sampleCeiling_held_cuspPath :
    ¬ ∃ value, sampleCeiling (exactProfile (fun _ => 0) cuspPath [] (.finite 1) nanConfig)
        (.finite (3 / 2)) = .finite value ∧
      SoundSample (exactProfile (fun _ => 0) cuspPath [] (.finite 1) nanConfig) (3 / 2) value := by
  obtain ⟨hOne, hTwo⟩ := cuspPath_arclengths fun _ => 0
  refine not_sound_of_consecutive_stops (fun _ => 0) [] (.finite 1) nanConfig
    (show 1 + 1 < cuspPath.poses.length by decide) ?_ ?_ ?_ ?_
  · exact ⟨1, by decide, Or.inl (cuspPath_changesSign _), rfl⟩
  · exact ⟨2, by decide, Or.inr (by decide), rfl⟩
  · rw [hOne]
    norm_num
  · rw [hTwo]
    norm_num

end ExactSamples

end PreRunner.Profile
