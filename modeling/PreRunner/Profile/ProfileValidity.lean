import Mathlib.Algebra.Order.Field.Basic
import Mathlib.Tactic.NormNum
import PreRunner.Profile.SpeedPasses

/-!
# Profiles pass their validator

For every path, clearance vector, preset and configuration, the profile that `makeProfile` builds
is accepted by `validateProfile`, which is written independently of it; its ceilings are zero or
between the creep speed and the preset, and it stops exactly at the goal and where the travel
direction changes. The validator compares a 32-bit pose count, so the path must be shorter than
that for the first part.
-/

namespace PreRunner.Profile

open Runs

variable {K : Type} [Field K] [LinearOrder K] [IsStrictOrderedRing K]

/-! ## The configuration that is used -/

section Config

variable [FloorRing K]

theorem default_valid : (ProfileConfig.default : ProfileConfig K).Valid := by
  unfold ProfileConfig.Valid ProfileConfig.default
  norm_num

theorem usedConfig_valid (requestedConfig : ProfileConfig (Double K)) :
    (usedConfig requestedConfig).Valid := by
  unfold usedConfig
  split
  · exact default_valid
  · rename_i config _
    exact config.2

omit [Field K] [IsStrictOrderedRing K] [FloorRing K] in
theorem le_usedPreset (config : ProfileConfig K) (presetCeiling : Double K) :
    config.minimumTraversalSpeed ≤ usedPreset config presetCeiling := by
  unfold usedPreset
  split
  · exact le_rfl
  · split
    · exact le_rfl
    · rename_i hNot
      exact not_lt.mp hNot

/-- The creep speed, the speed at no clearance, is the minimum traversal speed. -/
theorem clearanceSpeed_zero (lib : MathLibrary K) {config : ProfileConfig K} (h : config.Valid)
    {preset : K} (hPreset : config.minimumTraversalSpeed ≤ preset) :
    clearanceSpeed lib config (.finite 0) preset = config.minimumTraversalSpeed := by
  obtain ⟨hMinimum, hTight, hOpen, -, -, -, hShape, -⟩ := h
  have hRatio : (0 - config.tightClearance) / (config.openClearance - config.tightClearance) ≤ 0 :=
    div_nonpos_of_nonpos_of_nonneg (by linarith) (by linarith)
  have hBottom : clamp config.minimumTraversalSpeed 0 preset = config.minimumTraversalSpeed := by
    unfold clamp
    rw [if_neg (not_lt.mpr hMinimum.le), if_neg (not_lt.mpr hPreset)]
  have hShaped : (if 1 ≤ config.clearanceCurveFamily then
      lib.pow 0 config.clearanceCurveShape else 0) = 0 := by
    rw [lib.pow_zero hShape, ite_self]
  unfold clearanceSpeed Double.finiteOr
  dsimp only
  rw [Double.finite?_finite, Option.getD_some, max_eq_left hPreset, hBottom,
    clamp_of_le hRatio zero_le_one, hShaped, mul_zero, zero_mul, ite_self, mul_zero, add_zero]

end Config

/-! ## The published ceilings -/

section Ceilings

variable (lib : MathLibrary K) (config : ProfileConfig K) {preset creep : K} (path : Path K)
  (clearance : List (Double K))

/-- The direction of travel of each segment, with the gaps filled. -/
def travelDirection (i : ℕ) : ℤ :=
  gapFilled (path.poses.length - 1) (segmentDirection lib config path) i

/-- The gap-filled travel direction changes its sign at a pose inside the path. -/
def ChangesSign (i : ℕ) : Prop :=
  0 < i ∧ i + 1 < path.poses.length ∧
    travelDirection lib config path (i - 1) * travelDirection lib config path i < 0

omit [IsStrictOrderedRing K] in
theorem segmentDirection_cases (i : ℕ) :
    segmentDirection lib config path i = -1 ∨ segmentDirection lib config path i = 0 ∨
      segmentDirection lib config path i = 1 := by
  unfold segmentDirection
  dsimp only
  split
  · exact Or.inr (Or.inl rfl)
  · split
    · split
      · exact Or.inr (Or.inr rfl)
      · exact Or.inl rfl
    · exact Or.inr (Or.inl rfl)

omit [IsStrictOrderedRing K] in
theorem travelDirection_cases (i : ℕ) :
    travelDirection lib config path i = -1 ∨ travelDirection lib config path i = 0 ∨
      travelDirection lib config path i = 1 := by
  refine @gapFilled_of_all ℤ _ _ (fun direction => direction = -1 ∨ direction = 0 ∨ direction = 1)
    _ ?_ (segmentDirection_cases lib config path) _ i
  exact Or.inr (Or.inl rfl)

omit [IsStrictOrderedRing K] in
/-- The stops of the marking loop are the sign changes. -/
theorem turns_iff {i : ℕ} (hi : i + 1 < path.poses.length) :
    Turns (travelDirections (path.poses.length - 1) (segmentDirection lib config path)) i ↔
      ChangesSign lib config path i := by
  have hFilled : ∀ k, k + 1 < path.poses.length →
      travelDirections (path.poses.length - 1) (segmentDirection lib config path) k =
        travelDirection lib config path k :=
    fun k hk => carryBackward_carryForward _ _ (by omega)
  unfold Turns ChangesSign
  rw [hFilled i hi, hFilled (i - 1) (by omega)]
  refine and_congr_right fun _ => ?_
  rcases travelDirection_cases lib config path (i - 1) with hBefore | hBefore | hBefore <;>
    rcases travelDirection_cases lib config path i with hAfter | hAfter | hAfter <;>
    · rw [hBefore, hAfter]
      omega

/-- The marks of a path before the passes. -/
structure StopMarked (marks : Marks K) (preset : K) : Prop where
  nonneg : ∀ i, 0 ≤ marks.ceiling i
  le : ∀ i, marks.ceiling i ≤ preset
  goal : marks.ceiling (path.poses.length - 1) = 0
  stop : ∀ i, i < path.poses.length → (marks.state i = cuspStop ↔ ChangesSign lib config path i)
  zero : ∀ i, i < path.poses.length → marks.state i = cuspStop → marks.ceiling i = 0
  known : ∀ i, marks.state i ≤ cuspDeparture

omit [IsStrictOrderedRing K] in
/-- The marking loop marks the direction changes of the path. -/
theorem markCusps_path (preset creep : K) :
    Marked (travelDirections (path.poses.length - 1) (segmentDirection lib config path))
      (openCeiling lib config preset creep path clearance) (path.poses.length - 1)
      (markCusps path.poses.length
        (travelDirections (path.poses.length - 1) (segmentDirection lib config path))
        { ceiling := openCeiling lib config preset creep path clearance
          state := fun _ => cuspNone }) := by
  rcases Nat.lt_or_ge 1 path.poses.length with hMany | hOne
  · exact markCusps_marked hMany
  · -- A path of one pose has no segment, so the loop does nothing.
    have hLast : ∀ k, ¬ k < path.poses.length - 1 := by omega
    unfold markCusps
    rw [ascending_of_le (by omega)]
    refine ⟨fun k => ⟨fun hStop => ?_, fun hTurn => absurd hTurn.1 (hLast k)⟩,
      fun k hk _ => absurd hk (hLast k), fun k _ => rfl, fun k => ?_⟩
    · exact absurd hStop (show cuspNone ≠ cuspStop by decide)
    · exact show cuspNone ≤ cuspDeparture by decide

omit [IsStrictOrderedRing K] in
theorem stopMarks_marked (hCreep : 0 ≤ creep) (hLe : creep ≤ preset) (hPath : path.poses ≠ []) :
    StopMarked lib config path (stopMarks lib config preset creep path clearance) preset := by
  set count := path.poses.length with hCount
  have hPositive : 0 < count := List.length_pos_iff.mpr hPath
  have hOpen : ∀ i, creep ≤ openCeiling lib config preset creep path clearance i ∧
      openCeiling lib config preset creep path clearance i ≤ preset := fun i => clamp_mem hLe _
  set direction := travelDirections (count - 1) (segmentDirection lib config path) with hDirection
  set marks := markCusps count direction
    { ceiling := openCeiling lib config preset creep path clearance, state := fun _ => cuspNone }
    with hMarks
  have hEq : stopMarks lib config preset creep path clearance =
      { marks with ceiling := Function.update marks.ceiling (count - 1) 0 } := rfl
  have hMarked : Marked direction (openCeiling lib config preset creep path clearance)
      (count - 1) marks := markCusps_path lib config path clearance preset creep
  have hBounds : ∀ i, 0 ≤ marks.ceiling i ∧ marks.ceiling i ≤ preset := by
    intro i
    by_cases hTurn : i < count - 1 ∧ Turns direction i
    · rw [hMarked.zero i hTurn.1 hTurn.2]
      exact ⟨le_rfl, hCreep.trans hLe⟩
    · rw [hMarked.other i hTurn]
      exact ⟨hCreep.trans (hOpen i).1, (hOpen i).2⟩
  have hStopped : ∀ i, 0 ≤ Function.update marks.ceiling (count - 1) 0 i ∧
      Function.update marks.ceiling (count - 1) 0 i ≤ preset := by
    intro i
    by_cases hi : i = count - 1
    · rw [hi, Function.update_self]
      exact ⟨le_rfl, hCreep.trans hLe⟩
    · rw [Function.update_of_ne hi]
      exact hBounds i
  rw [hEq]
  refine ⟨fun i => (hStopped i).1, fun i => (hStopped i).2, ?_, fun i hi => ?_,
    fun i hi hStop => ?_, hMarked.known⟩
  · exact Function.update_self (count - 1) 0 marks.ceiling
  · rw [hMarked.stop i]
    by_cases hLast : i < count - 1
    · rw [← turns_iff lib config path (by omega)]
      exact and_iff_right hLast
    · refine ⟨fun h => absurd h.1 hLast, fun h => absurd h.2.1 ?_⟩
      omega
  · obtain ⟨hLast, hTurn⟩ := (hMarked.stop i).mp hStop
    show Function.update marks.ceiling (count - 1) 0 i = 0
    rw [Function.update_of_ne (by omega)]
    exact hMarked.zero i hLast hTurn

omit [IsStrictOrderedRing K] in
/-- Only the stops and the goal start at zero. -/
theorem creep_le_stopMarks (hLe : creep ≤ preset) {i : ℕ} (hi : i + 1 < path.poses.length)
    (hOpen : ¬ ChangesSign lib config path i) :
    creep ≤ (stopMarks lib config preset creep path clearance).ceiling i := by
  have hMarked := markCusps_path lib config path clearance preset creep
  unfold stopMarks
  dsimp only
  rw [Function.update_of_ne (by omega), hMarked.other i]
  · exact (clamp_mem hLe _).1
  · exact fun hTurn => hOpen ((turns_iff lib config path hi).mp hTurn.2)

variable (preset creep)

/-- The passes only lower the ceilings. -/
theorem passedCeiling_lowered (hPreset : 0 ≤ preset)
    (h : ∀ i, 0 ≤ (stopMarks lib config preset creep path clearance).ceiling i) :
    Lowered (stopMarks lib config preset creep path clearance).ceiling
      (passedCeiling lib config preset creep path clearance) := by
  have hAnticipated := anticipationPass_lowered (arclengths lib path) path.poses.length
    config.approachTime preset h
  have hForward := forwardPass_lowered (arclengths lib path) path.poses.length
    (fun i => (hAnticipated i).1) fun fromSpeed distance hFrom =>
      reachableSpeedByAcceleration_nonneg lib config distance hFrom hPreset
  have hBackward := backwardPass_lowered (arclengths lib path) path.poses.length
    (fun i => (hForward i).1) fun fromSpeed distance _ =>
      reachableSpeed_nonneg lib config fromSpeed distance hPreset
  exact (hAnticipated.trans hForward).trans hBackward

/-- The speed ceiling that is published for a pose. -/
def publishedCeiling (i : ℕ) : K :=
  creepFloor creep (passedCeiling lib config preset creep path clearance i)

variable {preset creep}

omit [IsStrictOrderedRing K] in
theorem creepFloor_cases {ceiling : K} (hNonneg : 0 ≤ ceiling) (hPreset : ceiling ≤ preset)
    (hLe : creep ≤ preset) :
    creepFloor creep ceiling = 0 ∨
      creep ≤ creepFloor creep ceiling ∧ creepFloor creep ceiling ≤ preset := by
  unfold creepFloor
  rcases hNonneg.lt_or_eq with hPositive | hZero
  · rw [if_pos hPositive]
    exact Or.inr ⟨le_max_right _ _, max_le hPreset hLe⟩
  · rw [← hZero, if_neg (lt_irrefl _)]
    exact Or.inl rfl

theorem publishedCeiling_cases (hCreep : 0 ≤ creep) (hLe : creep ≤ preset)
    (hPath : path.poses ≠ []) (i : ℕ) :
    publishedCeiling lib config preset creep path clearance i = 0 ∨
      creep ≤ publishedCeiling lib config preset creep path clearance i ∧
        publishedCeiling lib config preset creep path clearance i ≤ preset := by
  have hMarked := stopMarks_marked lib config path clearance hCreep hLe hPath
  have hLowered := passedCeiling_lowered lib config preset creep path clearance
    (hCreep.trans hLe) hMarked.nonneg
  exact creepFloor_cases (hLowered i).1 ((hLowered i).2.trans (hMarked.le i)) hLe

/-- Where the marked ceiling is zero, the published one is. -/
theorem publishedCeiling_eq_zero (hCreep : 0 ≤ creep) (hLe : creep ≤ preset)
    (hPath : path.poses ≠ []) {i : ℕ}
    (h : (stopMarks lib config preset creep path clearance).ceiling i = 0) :
    publishedCeiling lib config preset creep path clearance i = 0 := by
  have hMarked := stopMarks_marked lib config path clearance hCreep hLe hPath
  have hLowered := passedCeiling_lowered lib config preset creep path clearance
    (hCreep.trans hLe) hMarked.nonneg
  unfold publishedCeiling creepFloor
  rw [hLowered.eq_zero h, if_neg (lt_irrefl _)]

end Ceilings

/-! ## Points -/

section Points

variable (lib : MathLibrary K) (config : ProfileConfig K) {preset creep : K} (path : Path K)
  (clearance : List (Double K))

omit [IsStrictOrderedRing K] in
/-- A profile point shows the published ceiling. -/
theorem profilePoint_speedCeiling (i : ℕ) :
    (profilePoint lib config preset creep path clearance i).speedCeiling =
      .finite (publishedCeiling lib config preset creep path clearance i) := rfl

/-- Changing an entry to what it is changes nothing. -/
theorem modify_map_range {α : Type*} {count i : ℕ} {entry : ℕ → α} {change : α → α}
    (h : change (entry i) = entry i) :
    ((List.range count).map entry).modify i change = (List.range count).map entry := by
  apply List.ext_getElem?
  intro k
  rw [List.getElem?_modify, List.getElem?_map]
  by_cases hRange : k < count
  · rw [List.getElem?_range hRange]
    show some (if i = k then _ else _) = some _
    split
    · rename_i hk
      rw [← hk, h]
    · rfl
  · rw [List.getElem?_eq_none (by rw [List.length_range]; omega)]
    rfl

omit [IsStrictOrderedRing K] in
/-- The points of a profile; the last ceiling is zero already. -/
theorem modify_last_points {count : ℕ}
    (hGoal : publishedCeiling lib config preset creep path clearance (count - 1) = 0) :
    (((List.range count).map (profilePoint lib config preset creep path clearance)).modify
      (count - 1) fun point => { point with speedCeiling := .finite 0 }) =
      (List.range count).map (profilePoint lib config preset creep path clearance) := by
  refine modify_map_range ?_
  rw [profilePoint]
  exact congrArg (fun speed => ProfilePoint.mk _ (.finite speed) _) hGoal.symm

theorem tolerance_pos : 0 < (tolerance : K) := by
  unfold tolerance
  norm_num

/-- The validator accepts each point and goes on from its arclength. -/
theorem checkPoint_profilePoint (hCreep : 0 ≤ creep) (hLe : creep ≤ preset)
    (hPath : path.poses ≠ []) {i : ℕ} (hi : i < path.poses.length) {prior : K}
    (hPrior : prior ≤ arclengths lib path i) :
    checkPoint preset creep prior (arclengths lib path i)
      (profilePoint lib config preset creep path clearance i) = some (arclengths lib path i) := by
  have hMarked := stopMarks_marked lib config path clearance hCreep hLe hPath
  have hTolerance : 0 < (tolerance : K) := tolerance_pos
  have hCases := publishedCeiling_cases lib config path clearance hCreep hLe hPath i
  have hStop : (profilePoint lib config preset creep path clearance i).cuspState = cuspStop →
      publishedCeiling lib config preset creep path clearance i = 0 := fun hState =>
    publishedCeiling_eq_zero lib config path clearance hCreep hLe hPath (hMarked.zero i hi hState)
  unfold checkPoint
  rw [profilePoint_speedCeiling]
  refine if_neg ?_
  rintro (hLess | hFar | hNegative | hOver | ⟨hPositive, hSlow⟩ | hUnknown | ⟨hState, hMoving⟩)
  · exact absurd hPrior (not_le.mpr hLess)
  · rw [sub_self, abs_zero] at hFar
    exact absurd hFar (not_lt.mpr hTolerance.le)
  · rcases hCases with hZero | ⟨hAbove, -⟩
    · exact absurd hZero hNegative.ne
    · exact absurd (hCreep.trans hAbove) (not_le.mpr hNegative)
  · rcases hCases with hZero | ⟨-, hBelow⟩
    · rw [hZero] at hOver
      linarith
    · linarith
  · rcases hCases with hZero | ⟨hAbove, -⟩
    · exact absurd hZero hPositive.ne'
    · linarith
  · exact absurd hUnknown (UInt8.not_lt.mpr (hMarked.known i))
  · exact hMoving (hStop hState)

theorem checkPoints_profilePoints (hCreep : 0 ≤ creep) (hLe : creep ≤ preset)
    (hPath : path.poses ≠ []) (count i : ℕ) (hCount : i + count < path.poses.length) {prior : K}
    (hPrior : prior ≤ arclengths lib path i) :
    checkPoints preset creep (arclengths lib path) i prior
      ((List.range' i (count + 1)).map (profilePoint lib config preset creep path clearance)) =
        some (arclengths lib path (i + count)) := by
  induction count generalizing i prior with
  | zero =>
    have hHere : i < path.poses.length := hCount
    rw [List.range'_one, List.map_singleton]
    unfold checkPoints
    rw [checkPoint_profilePoint lib config path clearance hCreep hLe hPath hHere hPrior]
    rfl
  | succ count ih =>
    rw [List.range'_succ, List.map_cons]
    unfold checkPoints
    rw [checkPoint_profilePoint lib config path clearance hCreep hLe hPath (by omega) hPrior]
    dsimp only
    rw [ih (i + 1) (by omega) (arclengths_le_succ lib path i)]
    exact congrArg (fun k => some (arclengths lib path k)) (by omega)

end Points

/-! ## The profile -/

section Profile

variable [FloorRing K] (lib : MathLibrary K)

/-- What a profile of a path promises about its points. -/
structure SoundProfile (config : ProfileConfig K) (path : Path K)
    (profile : PathSpeedProfile K) : Prop where
  ceilings : ∃ creep preset, profile.creepSpeed = .finite creep ∧
    profile.presetCeiling = .finite preset ∧
    ∀ point ∈ profile.points, ∃ speed, point.speedCeiling = .finite speed ∧
      (speed = 0 ∨ creep ≤ speed ∧ speed ≤ preset)
  goal : profile.points.getLast?.map (·.speedCeiling) = some (.finite 0)
  stops : ∀ point ∈ profile.points, point.cuspState = cuspStop → point.speedCeiling = .finite 0
  length : profile.points.length = path.poses.length
  cusps : ∀ i point, profile.points[i]? = some point →
    (point.cuspState = cuspStop ↔ ChangesSign lib config path i)

variable (path : Path K) (clearance : List (Double K)) (presetCeiling : Double K)
  (requestedConfig : ProfileConfig (Double K))

/-- The profile of a path that is not empty. -/
theorem makeProfile_eq (hPath : path.poses ≠ []) :
    makeProfile lib path clearance presetCeiling requestedConfig =
      let config := usedConfig requestedConfig
      let preset := usedPreset config presetCeiling
      { frameId := path.frameId
        committedPathStamp := path.stamp
        pathHash := pathIdentity lib path
        poseCount := UInt32.ofNat path.poses.length
        goalArclength := .finite (arclengths lib path (path.poses.length - 1))
        presetCeiling := .finite preset
        creepSpeed := .finite config.minimumTraversalSpeed
        points := (List.range path.poses.length).map
          (profilePoint lib config preset config.minimumTraversalSpeed path clearance) } := by
  have hValid := usedConfig_valid requestedConfig
  have hPreset := le_usedPreset (usedConfig requestedConfig) presetCeiling
  have hCreep := clearanceSpeed_zero lib hValid hPreset
  have hMarked := stopMarks_marked lib (usedConfig requestedConfig) path clearance hValid.1.le
    hPreset hPath
  have hGoal := publishedCeiling_eq_zero lib (usedConfig requestedConfig) path clearance
    hValid.1.le hPreset hPath hMarked.goal
  unfold makeProfile
  dsimp only
  rw [if_neg (by rwa [List.isEmpty_iff]), hCreep, modify_last_points lib _ path clearance hGoal]

theorem makeProfile_sound (hPath : path.poses ≠ []) :
    SoundProfile lib (usedConfig requestedConfig) path
      (makeProfile lib path clearance presetCeiling requestedConfig) := by
  have hValid := usedConfig_valid requestedConfig
  have hPreset := le_usedPreset (usedConfig requestedConfig) presetCeiling
  have hMarked := stopMarks_marked lib (usedConfig requestedConfig) path clearance hValid.1.le
    hPreset hPath
  have hPositive : 0 < path.poses.length := List.length_pos_iff.mpr hPath
  rw [makeProfile_eq lib path clearance presetCeiling requestedConfig hPath]
  refine ⟨⟨_, _, rfl, rfl, fun point hPoint => ?_⟩, ?_, fun point hPoint hState => ?_, ?_,
    fun i point hPoint => ?_⟩
  · obtain ⟨i, -, rfl⟩ := List.mem_map.mp hPoint
    exact ⟨_, rfl, publishedCeiling_cases lib _ path clearance hValid.1.le hPreset hPath i⟩
  · obtain ⟨before, hBefore⟩ : ∃ before, path.poses.length = before + 1 :=
      ⟨path.poses.length - 1, by omega⟩
    have hGoal := publishedCeiling_eq_zero lib _ path clearance hValid.1.le hPreset hPath
      hMarked.goal
    rw [hBefore, Nat.add_sub_cancel] at hGoal
    dsimp only
    rw [hBefore, List.range_succ, List.map_append, List.map_singleton, List.getLast?_concat,
      Option.map_some, profilePoint_speedCeiling, hGoal]
  · obtain ⟨i, hRange, rfl⟩ := List.mem_map.mp hPoint
    have hZero := publishedCeiling_eq_zero lib _ path clearance hValid.1.le hPreset hPath
      (hMarked.zero i (List.mem_range.mp hRange) hState)
    rw [profilePoint_speedCeiling, hZero]
  · rw [List.length_map, List.length_range]
  · obtain ⟨k, hIndex, rfl⟩ := Option.map_eq_some_iff.mp
      ((List.getElem?_map ..).symm.trans hPoint)
    obtain ⟨hRange, rfl⟩ := List.getElem?_eq_some_iff.mp hIndex
    rw [List.getElem_range]
    exact hMarked.stop i (by rwa [List.length_range] at hRange)

/-- The validator accepts the profile when its pose count does not overflow. -/
theorem validateProfile_makeProfile (hPath : path.poses ≠ [])
    (hCount : path.poses.length < 2 ^ 32) :
    validateProfile lib (makeProfile lib path clearance presetCeiling requestedConfig) path =
      (true, "matched") := by
  have hValid := usedConfig_valid requestedConfig
  have hPreset := le_usedPreset (usedConfig requestedConfig) presetCeiling
  have hSound := makeProfile_sound lib path clearance presetCeiling requestedConfig hPath
  have hPositive : 0 < path.poses.length := List.length_pos_iff.mpr hPath
  have hPoses : (UInt32.ofNat path.poses.length).toNat = path.poses.length :=
    UInt32.toNat_ofNat_of_lt' hCount
  obtain ⟨rest, hRest⟩ : ∃ rest, path.poses.length = rest + 1 := ⟨path.poses.length - 1, by omega⟩
  have hPoints := checkPoints_profilePoints lib (usedConfig requestedConfig) path clearance
    hValid.1.le hPreset hPath rest 0 (by omega) (show (-1 : K) ≤ arclengths lib path 0 from ?_)
  · rw [makeProfile_eq lib path clearance presetCeiling requestedConfig hPath] at hSound ⊢
    have hLength := hSound.length
    have hGoal := hSound.goal
    dsimp only at hLength hGoal
    rw [Nat.zero_add, ← hRest, ← List.range_eq_range'] at hPoints
    have hHead : ((List.range path.poses.length).map (profilePoint lib (usedConfig requestedConfig)
        (usedPreset (usedConfig requestedConfig) presetCeiling)
        (usedConfig requestedConfig).minimumTraversalSpeed path clearance)).head?.map
          (·.arclength) = some (.finite 0) := by
      rw [hRest, List.range_succ_eq_map, List.map_cons]
      rfl
    have hEnd : path.poses.length - 1 = rest := by omega
    unfold validateProfile
    dsimp only
    rw [if_neg (by rw [hPoses, hLength]; simp), if_neg (by simp), if_neg (by simp)]
    dsimp only [Double.finite?]
    have hBounds : ¬ (((List.range path.poses.length).map
        (profilePoint lib (usedConfig requestedConfig)
        (usedPreset (usedConfig requestedConfig) presetCeiling)
        (usedConfig requestedConfig).minimumTraversalSpeed path clearance)).head?.map
          (·.arclength) ≠ some (.finite 0) ∨ path.frameId ≠ path.frameId ∨
        arclengths lib path (path.poses.length - 1) < 0 ∨
        (usedConfig requestedConfig).minimumTraversalSpeed ≤ 0 ∨
        usedPreset (usedConfig requestedConfig) presetCeiling <
          (usedConfig requestedConfig).minimumTraversalSpeed) := by
      rintro (hFirst | hFrame | hNegative | hCreep | hSmall)
      · exact hFirst hHead
      · exact hFrame rfl
      · exact absurd (arclengths_nonneg lib path _) (not_le.mpr hNegative)
      · exact absurd hValid.1 (not_lt.mpr hCreep)
      · exact absurd hPreset (not_le.mpr hSmall)
    rw [if_neg hBounds, hPoints]
    dsimp only
    rw [hEnd, sub_self, abs_zero]
    refine if_neg ?_
    rintro (hFar | hMoving)
    · exact absurd hFar (not_lt.mpr tolerance_pos.le)
    · exact hMoving hGoal
  · show (-1 : K) ≤ 0
    norm_num

/-- Every profile is sound, and the validator accepts it unless the pose count overflows.
`makeProfile_sound` follows the ceilings through the passes, and `validateProfile_makeProfile`
shows that the validator asks for nothing that a sound profile lacks, if the pose count fits its
word. -/
theorem makeProfile_accepted (hPath : path.poses ≠ []) :
    (path.poses.length < 2 ^ 32 →
      validateProfile lib (makeProfile lib path clearance presetCeiling requestedConfig) path =
        (true, "matched")) ∧
    SoundProfile lib (usedConfig requestedConfig) path
      (makeProfile lib path clearance presetCeiling requestedConfig) :=
  ⟨validateProfile_makeProfile lib path clearance presetCeiling requestedConfig hPath,
    makeProfile_sound lib path clearance presetCeiling requestedConfig hPath⟩

end Profile

/-- Drive ahead by a metre and back again. -/
def cuspPath : Path ℝ where
  frameId := "map"
  stamp := ⟨12, 0⟩
  poses := [⟨⟨0, 0, 0⟩, ⟨0, 0, 0, 1⟩⟩, ⟨⟨1, 0, 0⟩, ⟨0, 0, 0, 1⟩⟩, ⟨⟨0, 0, 0⟩, ⟨0, 0, 0, 1⟩⟩]

/-- A configuration whose values are not numbers. -/
def nanConfig : ProfileConfig (Double ℝ) where
  minimumTraversalSpeed := .nan
  tightClearance := .nan
  openClearance := .nan
  clearanceCurveFamily := .nan
  clearanceCurveShape := .nan
  approachTime := .nan
  curvatureWindow := .nan
  maxLateralAcceleration := .nan
  footprintFront := .nan
  footprintRear := .nan
  footprintHalfWidth := .nan
  brakingLinear := .nan
  brakingConstant := .nan
  reactionTime := .nan
  recoveryAccelerationGain := .nan
  recoveryAccelerationFloor := .nan
  minimumPoseStep := .nan
  directionProjectionThreshold := .nan

theorem makeProfile_accepted_cuspPath :
    validateProfile (MathLibrary.real fun _ => 0)
      (makeProfile (MathLibrary.real fun _ => 0) cuspPath [.nan, .inf true] (.finite (3 / 2))
        nanConfig) cuspPath = (true, "matched") :=
  (makeProfile_accepted (MathLibrary.real fun _ => 0) cuspPath [.nan, .inf true] (.finite (3 / 2))
    nanConfig (List.cons_ne_nil _ _)).1 (by decide)

/-- The pose count of a profile is the length of its path modulo `2 ^ 32`. -/
theorem validateProfile_of_overflow [FloorRing K] (lib : MathLibrary K) {path : Path K}
    (clearance : List (Double K)) (presetCeiling : Double K)
    (requestedConfig : ProfileConfig (Double K)) (hPath : path.poses ≠ [])
    (hCount : 2 ^ 32 ≤ path.poses.length) :
    validateProfile lib (makeProfile lib path clearance presetCeiling requestedConfig) path =
      (false, "pose_count_mismatch") := by
  rw [makeProfile_eq lib path clearance presetCeiling requestedConfig hPath]
  refine if_pos (Or.inl fun hEq => ?_)
  have hLess := (UInt32.ofNat path.poses.length).toNat_lt
  dsimp only at hEq
  omega

/-- A vehicle that stands still for `2 ^ 32` poses. -/
def overlongPath : Path ℝ where
  frameId := "map"
  stamp := ⟨12, 0⟩
  poses := List.replicate (2 ^ 32) ⟨⟨0, 0, 0⟩, ⟨0, 0, 0, 1⟩⟩

theorem overlongPath_rejected :
    overlongPath.poses ≠ [] ∧
    validateProfile (MathLibrary.real fun _ => 0)
      (makeProfile (MathLibrary.real fun _ => 0) overlongPath [] (.finite (3 / 2)) nanConfig)
      overlongPath = (false, "pose_count_mismatch") := by
  have hLength : overlongPath.poses.length = 2 ^ 32 := List.length_replicate
  have hPath : overlongPath.poses ≠ [] := by
    intro hEmpty
    rw [hEmpty, List.length_nil] at hLength
    omega
  exact ⟨hPath, validateProfile_of_overflow _ [] _ nanConfig hPath hLength.ge⟩

end PreRunner.Profile
