import Mathlib.Analysis.SpecialFunctions.Log.Basic
import Mathlib.Topology.Order.Monotone
import PreRunner.Profile.SpeedPasses
import PreRunner.Runs.Sweeps

/-!
# Exact reachable speeds

Both kinematic models integrate `v dv/ds = gain * v + floor`: the distance that belongs to a speed
is a potential, and a speed is reached over a distance when its potential is at most that of the
first speed and the distance. The potential increases strictly and continuously, so there is a
fastest speed that fits, and the bisections of the code come as near to it from below as the halved
interval.
-/

namespace PreRunner.Profile

open Runs

/-! ## The distance that belongs to a speed -/

section Potential

variable {gain floor : ℝ}

/-- The integral of `v dv / (gain * v + floor)` from rest. -/
noncomputable def travelPotential (gain floor speed : ℝ) : ℝ :=
  speed / gain - floor / (gain * gain) * Real.log ((gain * speed + floor) / floor)

theorem travelPotential_zero (hFloor : 0 < floor) : travelPotential gain floor 0 = 0 := by
  unfold travelPotential
  rw [mul_zero, zero_add, div_self hFloor.ne', Real.log_one, mul_zero, zero_div, sub_zero]

/-- Faster by some, the potential grows by the distance of the recovery model. -/
theorem travelPotential_sub (hGain : 0 < gain) (hFloor : 0 < floor) {u w : ℝ} (hu : 0 ≤ u)
    (hw : 0 ≤ w) :
    travelPotential gain floor w - travelPotential gain floor u =
      (w - u) / gain - floor / (gain * gain) *
        Real.log ((gain * w + floor) / (gain * u + floor)) := by
  have hFrom : 0 < gain * u + floor := by positivity
  have hTo : 0 < gain * w + floor := by positivity
  unfold travelPotential
  rw [Real.log_div hTo.ne' hFrom.ne', Real.log_div hTo.ne' hFloor.ne',
    Real.log_div hFrom.ne' hFloor.ne']
  ring

theorem travelPotential_strictMonoOn (hGain : 0 < gain) (hFloor : 0 < floor) :
    StrictMonoOn (travelPotential gain floor) (Set.Ici 0) := by
  intro u hu w hw hLess
  rw [Set.mem_Ici] at hu hw
  have hFrom : 0 < gain * u + floor := by positivity
  have hTo : 0 < gain * w + floor := by positivity
  have hRatio : (gain * w + floor) / (gain * u + floor) - 1 =
      gain * (w - u) / (gain * u + floor) := by
    rw [div_sub_one hFrom.ne']
    ring
  have hGrows : 0 < gain * (w - u) := mul_pos hGain (sub_pos.mpr hLess)
  have hOther : (gain * w + floor) / (gain * u + floor) ≠ 1 := by
    intro hOne
    rw [hOne, sub_self] at hRatio
    exact (div_pos hGrows hFrom).ne hRatio
  have hLog : Real.log ((gain * w + floor) / (gain * u + floor)) < gain * (w - u) / floor :=
    calc Real.log ((gain * w + floor) / (gain * u + floor))
        < (gain * w + floor) / (gain * u + floor) - 1 :=
          Real.log_lt_sub_one_of_pos (div_pos hTo hFrom) hOther
      _ = gain * (w - u) / (gain * u + floor) := hRatio
      _ ≤ gain * (w - u) / floor :=
          div_le_div_of_nonneg_left hGrows.le hFloor (le_add_of_nonneg_left (by positivity))
  have hSaved : floor / (gain * gain) *
      Real.log ((gain * w + floor) / (gain * u + floor)) < (w - u) / gain :=
    calc floor / (gain * gain) * Real.log ((gain * w + floor) / (gain * u + floor))
        < floor / (gain * gain) * (gain * (w - u) / floor) :=
          mul_lt_mul_of_pos_left hLog (by positivity)
      _ = (w - u) / gain := by field_simp
  rw [← sub_pos, travelPotential_sub hGain hFloor hu hw]
  exact sub_pos.mpr hSaved

theorem travelPotential_continuousOn (hGain : 0 < gain) (hFloor : 0 < floor) :
    ContinuousOn (travelPotential gain floor) (Set.Ici 0) := by
  unfold travelPotential
  refine (continuousOn_id.div_const gain).sub (continuousOn_const.mul (ContinuousOn.log ?_ ?_))
  · exact ((continuousOn_const.mul continuousOn_id).add continuousOn_const).div_const floor
  · intro u hu
    rw [Set.mem_Ici] at hu
    have : 0 < (gain * u + floor) / floor := by positivity
    exact this.ne'

end Potential

/-! ## The fastest speed that fits -/

section Fastest

/-- The fastest speed below a top with a potential of at most a target. -/
noncomputable def fastest (potential : ℝ → ℝ) (target top : ℝ) : ℝ :=
  sSup {w | 0 ≤ w ∧ w ≤ top ∧ potential w ≤ target}

/-- What the fastest speeds need of a potential. -/
structure Potential (potential : ℝ → ℝ) : Prop where
  strictMono : StrictMonoOn potential (Set.Ici 0)
  continuous : ContinuousOn potential (Set.Ici 0)

variable {potential : ℝ → ℝ} {target top u w : ℝ}

theorem Potential.isGreatest (h : Potential potential) (hTop : 0 ≤ top)
    (hRest : potential 0 ≤ target) :
    IsGreatest {w | 0 ≤ w ∧ w ≤ top ∧ potential w ≤ target} (fastest potential target top) := by
  have hEq : {w | 0 ≤ w ∧ w ≤ top ∧ potential w ≤ target} =
      Set.Icc 0 top ∩ Set.preimage potential (Set.Iic target) := by
    ext w
    exact and_assoc.symm
  have hClosed : IsClosed {w | 0 ≤ w ∧ w ≤ top ∧ potential w ≤ target} := by
    rw [hEq]
    exact (h.continuous.mono Set.Icc_subset_Ici_self).preimage_isClosed_of_isClosed isClosed_Icc
      isClosed_Iic
  exact hClosed.isGreatest_csSup ⟨0, le_rfl, hTop, hRest⟩ ⟨top, fun _ hw => hw.2.1⟩

theorem Potential.fastest_mono (h : Potential potential) (hTop : 0 ≤ top)
    (hRest : potential 0 ≤ target) {farther : ℝ} (hLe : target ≤ farther) :
    fastest potential target top ≤ fastest potential farther top := by
  obtain ⟨hNonneg, hBelow, hFits⟩ := (h.isGreatest hTop hRest).1
  exact (h.isGreatest hTop (hRest.trans hLe)).2 ⟨hNonneg, hBelow, hFits.trans hLe⟩

theorem Potential.rest_le (h : Potential potential) (hu : 0 ≤ u) : potential 0 ≤ potential u :=
  h.strictMono.monotoneOn (Set.mem_Ici.mpr le_rfl) (Set.mem_Ici.mpr hu) hu

/-- Over no distance a speed is held. -/
theorem Potential.fastest_held (h : Potential potential) (hTop : 0 ≤ top) (hu : 0 ≤ u) :
    fastest potential (potential u) top = min u top := by
  have hGreatest := h.isGreatest hTop (h.rest_le hu)
  refine le_antisymm ?_ (hGreatest.2 ⟨le_min hu hTop, min_le_right _ _, ?_⟩)
  · obtain ⟨hNonneg, hBelow, hFits⟩ := hGreatest.1
    exact le_min ((h.strictMono.le_iff_le hNonneg hu).mp hFits) hBelow
  · exact (h.strictMono.le_iff_le (Set.mem_Ici.mpr (le_min hu hTop)) hu).mpr (min_le_left _ _)

/-- Over some distance a speed is reached from rest. -/
theorem Potential.fastest_pos (h : Potential potential) (hTop : 0 < top)
    (hRest : potential 0 < target) : 0 < fastest potential target top := by
  have hGreatest := h.isGreatest hTop.le hRest.le
  rcases le_or_gt (potential top) target with hFits | hBeyond
  · exact hTop.trans_le (hGreatest.2 ⟨hTop.le, le_rfl, hFits⟩)
  · obtain ⟨w, hw, hReached⟩ := intermediate_value_Ioo hTop.le
      (h.continuous.mono Set.Icc_subset_Ici_self) ⟨hRest, hBeyond⟩
    exact hw.1.trans_le (hGreatest.2 ⟨hw.1.le, hw.2.le, hReached.le⟩)

/-- Only at rest and over no distance nothing is reached. -/
theorem Potential.fastest_eq_zero_iff (h : Potential potential) (hTop : 0 < top) (hu : 0 ≤ u)
    {distance : ℝ} (hDistance : 0 ≤ distance) :
    fastest potential (potential u + distance) top = 0 ↔ u = 0 ∧ distance = 0 := by
  constructor
  · intro hZero
    have hHeld : min u top ≤ 0 := hZero ▸ (h.fastest_held hTop.le hu).symm.trans_le
      (h.fastest_mono hTop.le (h.rest_le hu) (le_add_of_nonneg_right hDistance))
    have hRest : u = 0 :=
      le_antisymm ((min_le_iff.mp hHeld).resolve_right (not_le.mpr hTop)) hu
    refine ⟨hRest, le_antisymm (not_lt.mp fun hMoves => ?_) hDistance⟩
    exact (h.fastest_pos hTop (hRest ▸ lt_add_of_pos_right _ hMoves)).ne' hZero
  · rintro ⟨rfl, rfl⟩
    rw [add_zero, h.fastest_held hTop.le le_rfl, min_eq_left hTop.le]

/-- The fastest speeds along a path are bounds that let a speed be held. -/
theorem Potential.holds (h : Potential potential) (hTop : 0 ≤ top) {distance : ℕ → ℝ}
    (hDistance : ∀ i, 0 ≤ distance i) :
    Holds top fun i u => fastest potential (potential u + distance i) top where
  mono := fun i _ hu _ hw hLe =>
    h.fastest_mono hTop ((h.rest_le hu).trans (le_add_of_nonneg_right (hDistance i)))
      (add_le_add_left (h.strictMono.monotoneOn hu hw hLe) _)
  hold := fun i _ hu => (h.fastest_held hTop hu).symm.trans_le
    (h.fastest_mono hTop (h.rest_le hu) (le_add_of_nonneg_right (hDistance i)))
  le := fun i _ hu =>
    (h.isGreatest hTop ((h.rest_le hu).trans (le_add_of_nonneg_right (hDistance i)))).1.2.1

end Fastest

/-! ## The speeds of the two models -/

section Models

variable (bits : ℝ → UInt64) (config : ProfileConfig ℝ)

/-- The fastest speed from which braking over a distance reaches a speed. -/
noncomputable def exactReachableSpeed (fromSpeed distance ceiling : ℝ) : ℝ :=
  fastest (brakingReachabilityPotential (.real bits) config)
    (brakingReachabilityPotential (.real bits) config fromSpeed + max 0 distance) ceiling

/-- The fastest speed that the recovery model reaches over a distance. -/
noncomputable def exactReachableSpeedByAcceleration (fromSpeed distance ceiling : ℝ) : ℝ :=
  fastest (recoveryDistance (.real bits) config fromSpeed) (max 0 distance) ceiling

variable {config}

theorem ProfileConfig.Valid.kinematics (h : config.Valid) :
    0 < config.brakingLinear ∧ 0 < config.brakingConstant ∧ 0 ≤ config.reactionTime ∧
      0 < config.recoveryAccelerationGain ∧ 0 < config.recoveryAccelerationFloor := by
  obtain ⟨-, -, -, -, -, -, -, -, -, -, -, -, -, hLinear, hConstant, hReaction, hGain, hFloor, -⟩ :=
    h
  exact ⟨hLinear, hConstant, hReaction, hGain, hFloor⟩

theorem stoppingPotential_eq {speed : ℝ} (h : 0 ≤ speed) (hConstant : 0 < config.brakingConstant) :
    stoppingPotential (.real bits) config speed =
      travelPotential config.brakingLinear config.brakingConstant speed := by
  unfold stoppingPotential
  rcases h.eq_or_lt with rfl | hPos
  · rw [if_pos le_rfl, travelPotential_zero hConstant]
  · rw [if_neg (not_le.mpr hPos)]
    rfl

/-- The braking potential increases strictly and continuously. -/
theorem brakingPotential_potential (hConfig : config.Valid) :
    Potential (brakingReachabilityPotential (.real bits) config) := by
  obtain ⟨hLinear, hConstant, hReaction, -⟩ := hConfig.kinematics
  have hEq : Set.EqOn (fun speed => travelPotential config.brakingLinear
    config.brakingConstant speed +
      config.reactionTime * speed) (brakingReachabilityPotential (.real bits) config)
      (Set.Ici 0) := by
    intro speed hSpeed
    unfold brakingReachabilityPotential
    rw [stoppingPotential_eq bits hSpeed hConstant]
  refine ⟨StrictMonoOn.congr ?_ hEq, ContinuousOn.congr ?_ hEq.symm⟩
  · refine (travelPotential_strictMonoOn hLinear hConstant).add_monotone ?_
    exact fun _ _ _ _ hLe => mul_le_mul_of_nonneg_left hLe hReaction
  · exact (travelPotential_continuousOn hLinear hConstant).add
      (continuousOn_const.mul continuousOn_id)

theorem recoveryPotential_potential (hConfig : config.Valid) :
    Potential (travelPotential config.recoveryAccelerationGain
      config.recoveryAccelerationFloor) := by
  obtain ⟨-, -, -, hGain, hFloor⟩ := hConfig.kinematics
  exact ⟨travelPotential_strictMonoOn hGain hFloor, travelPotential_continuousOn hGain hFloor⟩

/-- The recovery distance is the potential that is gained, so it increases strictly. -/
theorem recoveryDistance_eq (hConfig : config.Valid) {u w : ℝ} (hu : 0 ≤ u) (hw : 0 ≤ w) :
    recoveryDistance (.real bits) config u w =
      travelPotential config.recoveryAccelerationGain config.recoveryAccelerationFloor w -
        travelPotential config.recoveryAccelerationGain config.recoveryAccelerationFloor u := by
  obtain ⟨-, -, -, hGain, hFloor⟩ := hConfig.kinematics
  exact (travelPotential_sub hGain hFloor hu hw).symm

theorem exactReachableSpeedByAcceleration_eq (hConfig : config.Valid) {fromSpeed : ℝ}
    (h : 0 ≤ fromSpeed) (distance ceiling : ℝ) :
    exactReachableSpeedByAcceleration bits config fromSpeed distance ceiling =
      fastest (travelPotential config.recoveryAccelerationGain config.recoveryAccelerationFloor)
        (travelPotential config.recoveryAccelerationGain config.recoveryAccelerationFloor
          fromSpeed + max 0 distance) ceiling := by
  unfold exactReachableSpeedByAcceleration fastest
  refine congrArg sSup (Set.ext fun w => and_congr_right fun hw => and_congr_right fun _ => ?_)
  rw [recoveryDistance_eq bits hConfig h hw, sub_le_iff_le_add']

/-- The exact speeds along a path are bounds that let a speed be held. -/
theorem exactReachableSpeed_holds (hConfig : config.Valid) {preset : ℝ} (hPreset : 0 ≤ preset)
    (distance : ℕ → ℝ) :
    Holds preset fun i u => exactReachableSpeed bits config u (distance i) preset :=
  (brakingPotential_potential bits hConfig).holds hPreset fun _ => le_max_left _ _

theorem exactReachableSpeedByAcceleration_holds (hConfig : config.Valid) {preset : ℝ}
    (hPreset : 0 ≤ preset) (distance : ℕ → ℝ) :
    Holds preset fun i u =>
      exactReachableSpeedByAcceleration bits config u (distance i) preset := by
  have hHolds : Holds preset fun i u =>
      fastest (travelPotential config.recoveryAccelerationGain config.recoveryAccelerationFloor)
        (travelPotential config.recoveryAccelerationGain config.recoveryAccelerationFloor u +
          max 0 (distance i)) preset :=
    (recoveryPotential_potential hConfig).holds hPreset fun _ => le_max_left _ _
  have hEq : ∀ i u, 0 ≤ u → exactReachableSpeedByAcceleration bits config u (distance i) preset =
      fastest (travelPotential config.recoveryAccelerationGain config.recoveryAccelerationFloor)
        (travelPotential config.recoveryAccelerationGain config.recoveryAccelerationFloor u +
          max 0 (distance i)) preset :=
    fun i u hu => exactReachableSpeedByAcceleration_eq bits hConfig hu (distance i) preset
  refine ⟨fun i => (hHolds.mono i).congr fun u hu => (hEq i u hu).symm, fun i u hu => ?_,
    fun i u hu => ?_⟩
  · exact (hHolds.hold i u hu).trans_eq (hEq i u hu).symm
  · exact (hEq i u hu).trans_le (hHolds.le i u hu)

section Still

variable {preset fromSpeed distance : ℝ}

/-- Over no distance no model goes faster. -/
theorem exactReachableSpeed_still (hConfig : config.Valid) (hPreset : 0 ≤ preset)
    (hFrom : 0 ≤ fromSpeed) : exactReachableSpeed bits config fromSpeed 0 preset ≤ fromSpeed := by
  unfold exactReachableSpeed
  rw [max_self, add_zero,
    (brakingPotential_potential bits hConfig).fastest_held hPreset hFrom]
  exact min_le_left _ _

theorem exactReachableSpeedByAcceleration_still (hConfig : config.Valid) (hPreset : 0 ≤ preset)
    (hFrom : 0 ≤ fromSpeed) :
    exactReachableSpeedByAcceleration bits config fromSpeed 0 preset ≤ fromSpeed := by
  rw [exactReachableSpeedByAcceleration_eq bits hConfig hFrom, max_self, add_zero,
    (recoveryPotential_potential hConfig).fastest_held hPreset hFrom]
  exact min_le_left _ _

theorem exactReachableSpeed_eq_zero_iff (hConfig : config.Valid) (hPreset : 0 < preset)
    (hFrom : 0 ≤ fromSpeed) (hDistance : 0 ≤ distance) :
    exactReachableSpeed bits config fromSpeed distance preset = 0 ↔
      fromSpeed = 0 ∧ distance = 0 := by
  unfold exactReachableSpeed
  rw [max_eq_right hDistance]
  exact (brakingPotential_potential bits hConfig).fastest_eq_zero_iff hPreset hFrom hDistance

theorem exactReachableSpeedByAcceleration_eq_zero_iff (hConfig : config.Valid)
    (hPreset : 0 < preset) (hFrom : 0 ≤ fromSpeed) (hDistance : 0 ≤ distance) :
    exactReachableSpeedByAcceleration bits config fromSpeed distance preset = 0 ↔
      fromSpeed = 0 ∧ distance = 0 := by
  rw [exactReachableSpeedByAcceleration_eq bits hConfig hFrom, max_eq_right hDistance]
  exact (recoveryPotential_potential hConfig).fastest_eq_zero_iff hPreset hFrom hDistance

end Still

end Models

/-! ## The bisections of the code -/

section Bisection

variable {K : Type} [Field K] [LinearOrder K] [IsStrictOrderedRing K]

/-- The bisection gives a value that fits, as near to every other one as the halved interval. -/
theorem bisect_near {fits : K → Bool} {low high : K} (hLe : low ≤ high) (hLow : fits low = true)
    (hHigh : ∀ w, high ≤ w → fits w = false)
    (hDown : ∀ u w, low ≤ u → u ≤ w → fits w = true → fits u = true) :
    fits (bisect fits low high) = true ∧
      ∀ w, fits w = true → w ≤ bisect fits low high + (high - low) / 2 ^ 48 := by
  have hLoop := @ascending_invariant (K × K) (fun i bounds =>
      low ≤ bounds.1 ∧ bounds.1 ≤ bounds.2 ∧ fits bounds.1 = true ∧
        (∀ w, bounds.2 < w → fits w = false) ∧ bounds.2 - bounds.1 = (high - low) / 2 ^ i) 0 48
    (fun _ bounds =>
      let middle := 1 / 2 * (bounds.1 + bounds.2)
      if fits middle then (middle, bounds.2) else (bounds.1, middle)) (low, high) (Nat.zero_le _)
    ⟨le_rfl, hLe, hLow, fun w hw => hHigh w hw.le, by rw [pow_zero, div_one]⟩ ?_
  · obtain ⟨-, -, hFits, hBeyond, hWidth⟩ := hLoop
    refine ⟨hFits, fun w hw => ?_⟩
    have hBelow : w ≤ (ascending 0 48 (fun _ bounds =>
        let middle := 1 / 2 * (bounds.1 + bounds.2)
        if fits middle then (middle, bounds.2) else (bounds.1, middle)) (low, high)).2 := by
      refine not_lt.mp fun hAbove => ?_
      rw [hBeyond w hAbove] at hw
      exact Bool.false_ne_true hw
    rw [← hWidth]
    exact hBelow.trans_eq (add_sub_cancel _ _).symm
  · rintro i ⟨lower, upper⟩ - - ⟨hAbove, hOrder, hFits, hBeyond, hWidth⟩
    dsimp only at hAbove hOrder hFits hBeyond hWidth ⊢
    have hMiddle : lower ≤ 1 / 2 * (lower + upper) := by linarith
    split
    · rename_i hFitsMiddle
      refine ⟨hAbove.trans hMiddle, by linarith, hFitsMiddle, hBeyond, ?_⟩
      rw [pow_succ, ← div_div, ← hWidth]
      ring
    · rename_i hMisses
      refine ⟨hAbove, hMiddle, hFits, fun w hw => ?_, ?_⟩
      · refine Bool.eq_false_iff.mpr fun hFitsAbove => hMisses ?_
        exact hDown _ w (hAbove.trans hMiddle) hw.le hFitsAbove
      · rw [pow_succ, ← div_div, ← hWidth]
        ring

end Bisection

section Near

/-- What the code searches for a fitting speed comes near to the fastest one from below. -/
theorem Potential.bisect_near {potential : ℝ → ℝ} (h : Potential potential) {fits : ℝ → Bool}
    {low high target : ℝ} (hLow : 0 ≤ low) (hLe : low ≤ high)
    (hFits : ∀ w, 0 ≤ w → (fits w = true ↔ potential w ≤ target)) (hStart : potential low ≤ target)
    (hBeyond : target < potential high) :
    bisect fits low high ≤ fastest potential target high ∧
      fastest potential target high ≤ bisect fits low high + high / 2 ^ 48 := by
  have hHigh : 0 ≤ high := hLow.trans hLe
  have hGreatest := h.isGreatest hHigh ((h.rest_le hLow).trans hStart)
  have hMem := bisect_mem hLe fits
  have hNear : fits (bisect fits low high) = true ∧
      ∀ w, fits w = true → w ≤ bisect fits low high + (high - low) / 2 ^ 48 :=
    Profile.bisect_near hLe ((hFits low hLow).mpr hStart) ?_ ?_
  · have hNonneg : 0 ≤ bisect fits low high := hLow.trans hMem.1
    refine ⟨hGreatest.2 ⟨hNonneg, hMem.2, (hFits _ hNonneg).mp hNear.1⟩, ?_⟩
    refine (hNear.2 _ ((hFits _ hGreatest.1.1).mpr hGreatest.1.2.2)).trans ?_
    exact add_le_add_right (div_le_div_of_nonneg_right (sub_le_self _ hLow) (by positivity)) _
  · intro w hw
    rw [Bool.eq_false_iff, Ne, hFits w (hHigh.trans hw), not_le]
    exact hBeyond.trans_le (h.strictMono.monotoneOn hHigh (hHigh.trans hw) hw)
  · intro u w hu hw
    rw [hFits u (hLow.trans hu), hFits w ((hLow.trans hu).trans hw)]
    exact fun hTarget =>
      (h.strictMono.monotoneOn (hLow.trans hu) ((hLow.trans hu).trans hw) hw).trans hTarget

theorem Potential.fastest_eq_top {potential : ℝ → ℝ} (h : Potential potential) {target top : ℝ}
    (hTop : 0 ≤ top) (hFits : potential top ≤ target) : fastest potential target top = top := by
  have hGreatest := h.isGreatest hTop ((h.rest_le hTop).trans hFits)
  exact le_antisymm hGreatest.1.2.1 (hGreatest.2 ⟨hTop, le_rfl, hFits⟩)

variable (bits : ℝ → UInt64) {config : ProfileConfig ℝ} {fromSpeed ceiling : ℝ}

/-- The speed of the code is at most the exact one, and as near as the bisection comes. -/
theorem reachableSpeed_near (hConfig : config.Valid) (hFrom : 0 ≤ fromSpeed)
    (hCeiling : 0 ≤ ceiling)
    (distance : ℝ) :
    reachableSpeed (.real bits) config fromSpeed distance ceiling ≤
        exactReachableSpeed bits config fromSpeed distance ceiling ∧
      exactReachableSpeed bits config fromSpeed distance ceiling ≤
        reachableSpeed (.real bits) config fromSpeed distance ceiling + ceiling / 2 ^ 48 := by
  have hPotential := brakingPotential_potential bits hConfig
  have hSlack : (0 : ℝ) ≤ ceiling / 2 ^ 48 := by positivity
  unfold exactReachableSpeed reachableSpeed
  dsimp only
  split
  · rename_i hFits
    rw [hPotential.fastest_eq_top hCeiling hFits]
    exact ⟨le_rfl, le_add_of_nonneg_right hSlack⟩
  · rename_i hBeyond
    refine hPotential.bisect_near le_rfl hCeiling (fun w _ => decide_eq_true_iff) ?_
      (not_le.mp hBeyond)
    exact (hPotential.rest_le hFrom).trans (le_add_of_nonneg_right (le_max_left _ _))

theorem reachableSpeedByAcceleration_near (hConfig : config.Valid) (hFrom : 0 ≤ fromSpeed)
    (hCeiling : 0 ≤ ceiling) (distance : ℝ) :
    reachableSpeedByAcceleration (.real bits) config fromSpeed distance ceiling ≤
        exactReachableSpeedByAcceleration bits config fromSpeed distance ceiling ∧
      exactReachableSpeedByAcceleration bits config fromSpeed distance ceiling ≤
        reachableSpeedByAcceleration (.real bits) config fromSpeed distance ceiling +
          ceiling / 2 ^ 48 := by
  have hPotential := recoveryPotential_potential hConfig
  have hSlack : (0 : ℝ) ≤ ceiling / 2 ^ 48 := by positivity
  have hGained : ∀ w, 0 ≤ w → (recoveryDistance (.real bits) config fromSpeed w ≤ distance ↔
      travelPotential config.recoveryAccelerationGain config.recoveryAccelerationFloor w ≤
        travelPotential config.recoveryAccelerationGain config.recoveryAccelerationFloor fromSpeed +
          distance) := by
    intro w hw
    rw [recoveryDistance_eq bits hConfig hFrom hw, sub_le_iff_le_add']
  rw [exactReachableSpeedByAcceleration_eq bits hConfig hFrom]
  unfold reachableSpeedByAcceleration
  rcases le_or_gt distance 0 with hStill | hMoves
  · rw [if_pos hStill, max_eq_left hStill, add_zero, hPotential.fastest_held hCeiling hFrom]
    exact ⟨le_rfl, le_add_of_nonneg_right hSlack⟩
  · rw [if_neg (not_le.mpr hMoves), max_eq_right hMoves.le]
    split
    · rename_i hReached
      rw [hPotential.fastest_eq_top hCeiling ?_]
      · exact ⟨le_rfl, le_add_of_nonneg_right hSlack⟩
      · rcases hReached with hSlower | hFits
        · exact (hPotential.strictMono.monotoneOn hCeiling hFrom hSlower).trans
            (le_add_of_nonneg_right hMoves.le)
        · exact (hGained ceiling hCeiling).mp hFits
    · rename_i hMisses
      rw [not_or, not_le] at hMisses
      refine hPotential.bisect_near hFrom hMisses.1.le
        (fun w hw => decide_eq_true_iff.trans (hGained w hw)) (le_add_of_nonneg_right hMoves.le) ?_
      exact not_le.mp fun hFits => hMisses.2 ((hGained ceiling hCeiling).mpr hFits)

end Near

end PreRunner.Profile
