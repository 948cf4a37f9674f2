import PreRunner.Profile.PathSpeedProfile

/-!
# The path handler of the controller

`PathHandler` of `nav2_regulated_pure_pursuit_controller/path_handler.cpp` prunes the plan behind
the robot and counts the poses it has passed. A profile with stops divides the plan into segments,
and progress is searched within the current one. What is taken from Nav2 is a parameter.
-/

namespace PreRunner.Profile

open Runs

/-! ## Machine numbers -/

/-- The values of a `std::size_t`. -/
def sizeModulus : ℕ := 2 ^ 64

/-- `a - b` on `std::size_t`. -/
def sizeSub (a b : ℕ) : ℕ := (a + (sizeModulus - b % sizeModulus)) % sizeModulus

/-- `a + b` on `std::size_t`. -/
def sizeAdd (a b : ℕ) : ℕ := (a + b) % sizeModulus

/-! ## Geometry -/

variable {K : Type} [Field K] [LinearOrder K]

/-- The pose of a robot: nothing excludes infinite or undefined coordinates. -/
abbrev RobotPose (K : Type) := Pose (Double K)

/-- A pose of a plan among them. -/
def Pose.toDouble (pose : Pose K) : RobotPose K where
  position := ⟨.finite pose.position.x, .finite pose.position.y, .finite pose.position.z⟩
  orientation := ⟨.finite pose.orientation.x, .finite pose.orientation.y,
    .finite pose.orientation.z, .finite pose.orientation.w⟩

/-- What the handler takes from `nav2_util::geometry_utils` and from `<cmath>`. Iterators are
indices into the plan. -/
structure GeometryUtils (K : Type) where
  euclideanDistance : RobotPose K → RobotPose K → Double K
  /-- The first pose after a travelled distance. -/
  firstAfterIntegratedDistance : List (Pose K) → Double K → ℕ
  /-- The pose with the least value. -/
  minBy : List (Pose K) → (Pose K → Double K) → ℕ
  /-- `std::nextafter(value, infinity)`. -/
  nextUp : Double K → Double K
  /-- An iterator of the range, or its end. -/
  firstAfter_le (poses : List (Pose K)) (distance : Double K) :
    firstAfterIntegratedDistance poses distance ≤ poses.length
  /-- An iterator before the end, unless the range is empty. -/
  minBy_le (poses : List (Pose K)) (value : Pose K → Double K) :
    minBy poses value ≤ poses.length - 1

/-! ## The handler -/

structure PathHandler (K : Type) where
  /-- The poses of the plan that are left. -/
  globalPlan : List (Pose K) := []
  pathOffset : Double K
  globalPathIndex : ℕ := 0
  currentSegment : ℕ := 0
  segmentTerminalIndices : List ℕ := []

inductive PlanError where
  | zeroLength
  | lengthOne
  | robotTransform
  | localTransform
  | noPoses
  /-- An iterator before the first pose. The behaviour is undefined there; the model answers this
  error and goes on with the plan as it was. -/
  | undefined
  deriving DecidableEq

/-- What one call of `transformGlobalPlan` is given, and what it finds. -/
structure TransformCall (K : Type) where
  /-- The robot in the frame of the plan, unless TF fails. -/
  robotPose : Option (RobotPose K)
  maxRobotPoseSearchDist : Double K
  rejectUnitPath : Bool
  maxCostmapExtent : Double K
  /-- A pose of the plan in the frame of the robot, unless TF fails. -/
  toLocal : Pose K → Option (RobotPose K)

namespace PathHandler

variable (utils : GeometryUtils K)

def setPlan (_ : PathHandler K) (poses : List (Pose K)) : PathHandler K :=
  { globalPlan := poses, pathOffset := .finite 0 }

def setSegmentTerminalIndices (h : PathHandler K) (terminals : List ℕ) : PathHandler K :=
  { h with segmentTerminalIndices := terminals, currentSegment := 0 }

/-- `segment_terminal_indices_[current_segment_]`. -/
def terminal (h : PathHandler K) : ℕ := h.segmentTerminalIndices.getD h.currentSegment 0

def atSegmentTerminal (h : PathHandler K) : Bool :=
  h.currentSegment < h.segmentTerminalIndices.length && h.terminal ≤ h.globalPathIndex

/-- `has_active_cusp`. -/
def hasActiveCusp (h : PathHandler K) : Bool :=
  h.currentSegment + 1 < h.segmentTerminalIndices.length

def advanceSegment (h : PathHandler K) : Bool × PathHandler K :=
  if !h.atSegmentTerminal || !h.hasActiveCusp then (false, h)
  else (true, { h with
    -- The cusp belongs to both segments; progress moves just beyond its zero sample.
    pathOffset := utils.nextUp h.pathOffset
    currentSegment := h.currentSegment + 1 })

/-- `min(size, remaining_to_terminal + 1)`. -/
def segmentBound (h : PathHandler K) : ℕ :=
  min h.globalPlan.length (sizeAdd (sizeSub h.terminal h.globalPathIndex) 1)

/-- `closest_pose_upper_bound`. -/
def upperBound (h : PathHandler K) (call : TransformCall K) : ℕ :=
  let upper := utils.firstAfterIntegratedDistance h.globalPlan call.maxRobotPoseSearchDist
  if h.hasActiveCusp then min upper h.segmentBound else upper

/-- `transformation_begin`: the closest pose, but at least two poses without an active cusp. -/
def transformationBegin (h : PathHandler K) (call : TransformCall K) (robot : RobotPose K) :
    Except PlanError ℕ :=
  let upper := h.upperBound utils call
  let closest := utils.minBy (h.globalPlan.take upper) fun pose =>
    utils.euclideanDistance robot pose.toDouble
  if !h.hasActiveCusp && upper ≠ 0 && 1 < h.globalPlan.length && closest + 1 = upper then
    if upper = 1 then .error .undefined else .ok (upper - 2)
  else .ok closest

/-- `transformation_end`: the first pose outside the costmap. -/
def transformationEnd (h : PathHandler K) (call : TransformCall K) (robot : RobotPose K)
    (first : ℕ) : ℕ :=
  let eligible := if h.hasActiveCusp then h.segmentBound else h.globalPlan.length
  first + ((h.globalPlan.take eligible).drop first).findIdx fun pose =>
    call.maxCostmapExtent.lt (utils.euclideanDistance pose.toDouble robot)

/-- The distances between the poses that are pruned. -/
def prunedDistance (offset : Double K) : ℕ → List (Pose K) → Double K
  | count + 1, pose :: next :: rest =>
    prunedDistance (offset.add (utils.euclideanDistance pose.toDouble next.toDouble)) count
      (next :: rest)
  | _, _ => offset

/-- Remove the part of the plan that was passed. -/
def prune (h : PathHandler K) (first : ℕ) : PathHandler K :=
  { h with
    pathOffset := prunedDistance utils h.pathOffset first h.globalPlan
    globalPathIndex := h.globalPathIndex + first
    globalPlan := h.globalPlan.drop first }

/-- `transformGlobalPlan`: the poses near the robot in its own frame. -/
def transformGlobalPlan (h : PathHandler K) (call : TransformCall K) :
    Except PlanError (List (RobotPose K)) × PathHandler K :=
  if h.globalPlan.isEmpty then (.error .zeroLength, h)
  else if call.rejectUnitPath && h.globalPlan.length = 1 then (.error .lengthOne, h)
  else
    match call.robotPose with
    | none => (.error .robotTransform, h)
    | some robot =>
      match h.transformationBegin utils call robot with
      | .error error => (.error error, h)
      | .ok first =>
        let last := h.transformationEnd utils call robot first
        match ((h.globalPlan.take last).drop first).mapM call.toLocal with
        | none => (.error .localTransform, h)
        | some poses =>
          let poses := if poses.length = 1 && h.hasActiveCusp then poses ++ poses else poses
          (if poses.isEmpty then .error .noPoses else .ok poses, h.prune utils first)

/-! ## Progress -/

theorem sizeSub_of_le {a b : ℕ} (hLe : b ≤ a) (ha : a < sizeModulus) : sizeSub a b = a - b := by
  unfold sizeSub
  rw [Nat.mod_eq_of_lt (hLe.trans_lt ha), show a + (sizeModulus - b) = a - b + sizeModulus by omega,
    Nat.add_mod_right, Nat.mod_eq_of_lt (by omega)]

omit [Field K] [LinearOrder K] in
/-- An active cusp bounds the search, as long as progress has not passed it. -/
theorem segmentBound_le {h : PathHandler K} (hLe : h.globalPathIndex ≤ h.terminal)
    (hSize : h.terminal < sizeModulus) :
    h.segmentBound ≤ h.terminal - h.globalPathIndex + 1 := by
  unfold segmentBound
  rw [sizeSub_of_le hLe hSize]
  exact (min_le_right _ _).trans (Nat.mod_le _ _)

/-- A transformation keeps the segments, and progress only grows. -/
theorem transformGlobalPlan_cases (h : PathHandler K) (call : TransformCall K) :
    (h.transformGlobalPlan utils call).2 = h ∨
      ∃ robot first, h.transformationBegin utils call robot = .ok first ∧
        (h.transformGlobalPlan utils call).2 = h.prune utils first := by
  unfold transformGlobalPlan
  split
  · exact Or.inl rfl
  · split
    · exact Or.inl rfl
    · split
      · exact Or.inl rfl
      · rename_i robot hRobot
        split
        · exact Or.inl rfl
        · rename_i first hFirst
          dsimp only
          split
          · exact Or.inl rfl
          · exact Or.inr ⟨robot, first, hFirst, rfl⟩

omit [LinearOrder K] in
/-- Progress does not pass an active cusp that it has not passed. -/
theorem globalPathIndex_prune_le {h : PathHandler K} {call : TransformCall K}
    {robot : RobotPose K} {first : ℕ} (hActive : h.hasActiveCusp = true)
    (hLe : h.globalPathIndex ≤ h.terminal) (hSize : h.terminal < sizeModulus)
    (hFirst : h.transformationBegin utils call robot = .ok first) :
    (h.prune utils first).globalPathIndex ≤ h.terminal := by
  unfold transformationBegin at hFirst
  rw [hActive] at hFirst
  simp only [Bool.not_true, Bool.false_and, Bool.false_eq_true, if_false, Except.ok.injEq]
    at hFirst
  have hUpper : h.upperBound utils call ≤ h.terminal - h.globalPathIndex + 1 := by
    unfold upperBound
    rw [if_pos hActive]
    exact (min_le_right _ _).trans (segmentBound_le hLe hSize)
  have hClosest := utils.minBy_le (h.globalPlan.take (h.upperBound utils call))
    fun pose => utils.euclideanDistance robot pose.toDouble
  rw [hFirst, List.length_take] at hClosest
  show h.globalPathIndex + first ≤ h.terminal
  omega

end PathHandler

end PreRunner.Profile
