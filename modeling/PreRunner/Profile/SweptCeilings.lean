import PreRunner.Profile.ExactSpeeds
import PreRunner.Profile.ProfileValidity

/-!
# The ceilings that the passes settle on

With the exact reachable speeds the forward and the backward pass are one sweep in each direction
under bounds that let a speed be held. So the backward pass keeps what the forward pass has
established, and the ceilings are settled after one pass in each direction. The creep floor raises
single ceilings to the creep speed and leaves these bounds in force above it.
-/

namespace PreRunner.Profile

open Runs

/-! ## The creep floor -/

section Floor

variable {K : Type} [Field K] [LinearOrder K] {creep u w : K}

theorem le_creepFloor (creep u : K) : u ≤ creepFloor creep u := by
  unfold creepFloor
  split
  · exact le_max_left _ _
  · exact le_rfl

theorem creepFloor_le (creep u : K) : creepFloor creep u ≤ max creep u := by
  unfold creepFloor
  split
  · exact (max_comm u creep).le
  · exact le_max_right _ _

/-- The floor raises every speed between a speed and its floor alike. -/
theorem creepFloor_between (hLow : u ≤ w) (hHigh : w ≤ creepFloor creep u) (hu : 0 ≤ u) :
    creepFloor creep w = creepFloor creep u := by
  unfold creepFloor at hHigh ⊢
  rcases hu.eq_or_lt with rfl | hPos
  · rw [if_neg (lt_irrefl _)] at hHigh ⊢
    rw [le_antisymm hHigh hLow, if_neg (lt_irrefl _)]
  · rw [if_pos hPos] at hHigh ⊢
    rw [if_pos (hPos.trans_le hLow)]
    exact le_antisymm (max_le hHigh (le_max_right _ _)) (max_le_max hLow le_rfl)

/-- Above the creep speed the floor changes nothing. -/
theorem creepFloor_of_lt (h : creep < creepFloor creep u) : creepFloor creep u = u := by
  unfold creepFloor at h ⊢
  split
  · rename_i hPos
    rw [if_pos hPos] at h
    exact max_eq_left ((lt_max_iff.mp h).resolve_right (lt_irrefl _)).le
  · rfl

variable {count : ℕ} {accelerate brake : ℕ → K → K} {raw passed : ℕ → K} {preset : K}

/-- The published ceilings keep both kinematic bounds above the creep speed, the backward pass has
kept the bound of the forward pass, and the passes have settled. -/
structure Settled (count : ℕ) (creep : K) (accelerate brake : ℕ → K → K)
    (passes : (ℕ → K) → ℕ → K) (raw passed published : ℕ → K) : Prop where
  below : ∀ i, i < count → published i ≤ max creep (raw i)
  brakes : ∀ i, i + 1 < count → published i ≤ max creep (brake (i + 1) (published (i + 1)))
  accelerates : ∀ i, i + 1 < count →
    published (i + 1) ≤ max creep (accelerate (i + 1) (published i))
  backward : ∀ i, i + 1 < count → passed (i + 1) ≤ accelerate (i + 1) (passed i)
  again : ∀ n, passes^[n] passed = passed
  floored : ∀ n i, creepFloor creep (passes^[n] published i) = published i
  above : ∀ n i, creep < published i → passes^[n] published i = published i

/-- A floored bound holds of the floored speeds. -/
theorem creepFloor_bounded {bound : K → K} (hMono : MonotoneOn bound (Set.Ici 0)) (hw : 0 ≤ w)
    (h : u ≤ bound w) : creepFloor creep u ≤ max creep (bound (creepFloor creep w)) := by
  refine (creepFloor_le creep u).trans (max_le_max le_rfl (h.trans ?_))
  exact hMono hw (hw.trans (le_creepFloor creep w)) (le_creepFloor creep w)

/-- One sweep in each direction and the floor settle the ceilings. -/
theorem settled_of_holds (hAccelerate : Holds preset accelerate) (hBrake : Holds preset brake)
    (hPreset : 0 ≤ preset) {anticipated : ℕ → K} (hLowered : Lowered raw anticipated) :
    Settled count creep accelerate brake (sweep count accelerate brake) raw
      (sweep count accelerate brake anticipated)
      (fun i => creepFloor creep (sweep count accelerate brake anticipated i)) := by
  have hFeasible : Feasible count accelerate brake (sweep count accelerate brake anticipated) :=
    sweep_feasible hAccelerate hBrake hPreset fun i => (hLowered i).1
  have hIterate := hFeasible.le_iterate hAccelerate hBrake hPreset fun i =>
    le_creepFloor creep (sweep count accelerate brake anticipated i)
  have hFloored : ∀ n i, creepFloor creep ((sweep count accelerate brake)^[n]
      (fun i => creepFloor creep (sweep count accelerate brake anticipated i)) i) =
        creepFloor creep (sweep count accelerate brake anticipated i) := fun n i =>
    creepFloor_between ((hIterate n).1 i) ((hIterate n).2 i) (hFeasible.nonneg i)
  refine ⟨fun i _ => ?_, fun i hi => ?_, fun i hi => ?_, hFeasible.accelerates, fun n => ?_,
    hFloored, fun n i hAbove => ?_⟩
  · refine (creepFloor_le creep _).trans (max_le_max le_rfl ?_)
    exact (sweep_le i).trans (hLowered i).2
  · exact creepFloor_bounded (hBrake.mono _) (hFeasible.nonneg _) (hFeasible.brakes i hi)
  · exact creepFloor_bounded (hAccelerate.mono _) (hFeasible.nonneg _) (hFeasible.accelerates i hi)
  · exact Function.iterate_fixed hFeasible.sweep_eq n
  · rw [← hFloored n i] at hAbove ⊢
    exact (creepFloor_of_lt hAbove).symm

end Floor

/-! ## The passes with exact speeds -/

section Exact

variable (bits : ℝ → UInt64) (config : ProfileConfig ℝ) (preset creep : ℝ) (path : Path ℝ)
  (raw : ℕ → ℝ)

/-- The fastest speed at a pose that the recovery model reaches from a speed at the pose before. -/
noncomputable def accelerationTo (i : ℕ) (fromSpeed : ℝ) : ℝ :=
  exactReachableSpeedByAcceleration bits config fromSpeed
    (arclengths (.real bits) path i - arclengths (.real bits) path (i - 1)) preset

/-- The fastest speed at the pose before from which braking reaches a speed at a pose. -/
noncomputable def brakingTo (i : ℕ) (fromSpeed : ℝ) : ℝ :=
  exactReachableSpeed bits config fromSpeed
    (arclengths (.real bits) path i - arclengths (.real bits) path (i - 1)) preset

/-- One forward and one backward pass. -/
noncomputable def exactPasses (ceiling : ℕ → ℝ) : ℕ → ℝ :=
  let s := arclengths (.real bits) path
  let count := path.poses.length
  let ceiling := forwardPass s count (fun fromSpeed distance =>
    exactReachableSpeedByAcceleration bits config fromSpeed distance preset) ceiling
  backwardPass s count
    (fun fromSpeed distance => exactReachableSpeed bits config fromSpeed distance preset) ceiling

/-- The ceilings after the passes, from the ceilings of the path. -/
noncomputable def exactPassed : ℕ → ℝ :=
  exactPasses bits config preset path
    (anticipationPass (arclengths (.real bits) path) path.poses.length
      config.approachTime preset raw)

/-- The ceiling that is published for a pose. -/
noncomputable def exactCeiling (i : ℕ) : ℝ :=
  creepFloor creep (exactPassed bits config preset path raw i)

/-- The passes are a sweep in each direction. -/
theorem exactPasses_eq_sweep :
    exactPasses bits config preset path =
      sweep path.poses.length (accelerationTo bits config preset path)
        (brakingTo bits config preset path) := rfl

variable {config preset creep path raw}

theorem accelerationTo_holds (hConfig : config.Valid) (hPreset : 0 ≤ preset) :
    Holds preset (accelerationTo bits config preset path) :=
  exactReachableSpeedByAcceleration_holds bits hConfig hPreset _

theorem brakingTo_holds (hConfig : config.Valid) (hPreset : 0 ≤ preset) :
    Holds preset (brakingTo bits config preset path) :=
  exactReachableSpeed_holds bits hConfig hPreset _

/-- After one forward and one backward pass and the creep floor the ceilings are settled. The
bounds of the two passes let a speed be held (`accelerationTo_holds`, `brakingTo_holds`), and for
such bounds one sweep in each direction is a fixed point (`settled_of_holds`). -/
theorem exactCeiling_settled (hConfig : config.Valid) (hPreset : 0 ≤ preset)
    (hRaw : ∀ i, 0 ≤ raw i) :
    Settled path.poses.length creep (accelerationTo bits config preset path)
      (brakingTo bits config preset path) (exactPasses bits config preset path) raw
      (exactPassed bits config preset path raw)
        (exactCeiling bits config preset creep path raw) := by
  have hAnticipated := anticipationPass_lowered (arclengths (.real bits) path) path.poses.length
    config.approachTime preset hRaw
  exact settled_of_holds (accelerationTo_holds bits hConfig hPreset)
    (brakingTo_holds bits hConfig hPreset) hPreset hAnticipated

/-- Only at rest and over no distance the models reach nothing. -/
theorem accelerationTo_eq_zero_iff (hConfig : config.Valid) (hPreset : 0 < preset) (i : ℕ) {u : ℝ}
    (hu : 0 ≤ u) :
    accelerationTo bits config preset path (i + 1) u = 0 ↔
      u = 0 ∧ arclengths (.real bits) path (i + 1) = arclengths (.real bits) path i := by
  unfold accelerationTo
  rw [Nat.add_sub_cancel, exactReachableSpeedByAcceleration_eq_zero_iff bits hConfig hPreset hu
    (sub_nonneg.mpr (arclengths_le_succ _ path i)), sub_eq_zero]

theorem brakingTo_eq_zero_iff (hConfig : config.Valid) (hPreset : 0 < preset) (i : ℕ) {u : ℝ}
    (hu : 0 ≤ u) :
    brakingTo bits config preset path (i + 1) u = 0 ↔
      u = 0 ∧ arclengths (.real bits) path (i + 1) = arclengths (.real bits) path i := by
  unfold brakingTo
  rw [Nat.add_sub_cancel, exactReachableSpeed_eq_zero_iff bits hConfig hPreset hu
    (sub_nonneg.mpr (arclengths_le_succ _ path i)), sub_eq_zero]

theorem exactCeiling_settled_cuspPath :
    Settled cuspPath.poses.length (1 / 4) (accelerationTo (fun _ => 0) .default 1 cuspPath)
      (brakingTo (fun _ => 0) .default 1 cuspPath) (exactPasses (fun _ => 0) .default 1 cuspPath)
      (fun _ => 1) (exactPassed (fun _ => 0) .default 1 cuspPath fun _ => 1)
      (exactCeiling (fun _ => 0) .default 1 (1 / 4) cuspPath fun _ => 1) :=
  exactCeiling_settled _ default_valid zero_le_one fun _ => zero_le_one

end Exact

end PreRunner.Profile
