import Mathlib.Algebra.Order.Floor.Ring
import Mathlib.Order.WithBot
import PreRunner.Profile.MathLibrary
import PreRunner.Runs.GapFilling

/-!
# The path speed profile

`makeProfile` annotates every pose of a committed path with a speed ceiling: curvature and
clearance bound it, direction changes and the goal force it to zero, and three passes along the
path make it reachable. `validateProfile` checks a profile against a path. This module follows
`runner_path_speed_profile/path_speed_profile.cpp`. A vector is a function on indices, read and
written below its length only.
-/

namespace PreRunner.Profile

open Runs

/-! ## Messages -/

structure Point (K : Type) where
  x : K
  y : K
  z : K
  deriving Repr

structure Quaternion (K : Type) where
  x : K
  y : K
  z : K
  w : K
  deriving Repr

structure Pose (K : Type) where
  position : Point K
  orientation : Quaternion K
  deriving Repr

structure Time where
  sec : ℤ
  nanosec : ℕ
  deriving DecidableEq, Repr

/-- `nav_msgs/Path` with the header fields that are read. -/
structure Path (K : Type) where
  frameId : String
  stamp : Time
  poses : List (Pose K)

/-- `path.poses[i]`. -/
def Path.pose {K : Type} [Zero K] (path : Path K) (i : ℕ) : Pose K :=
  path.poses.getD i ⟨⟨0, 0, 0⟩, ⟨0, 0, 0, 0⟩⟩

def cuspNone : UInt8 := 0
def cuspApproach : UInt8 := 1
def cuspStop : UInt8 := 2
def cuspDeparture : UInt8 := 3

/-- `PathSpeedProfilePoint`. -/
structure ProfilePoint (K : Type) where
  arclength : Double K
  speedCeiling : Double K
  cuspState : UInt8
  deriving DecidableEq

/-- `PathSpeedProfile`. -/
structure PathSpeedProfile (K : Type) where
  frameId : String
  committedPathStamp : Time
  pathHash : UInt64
  poseCount : UInt32
  goalArclength : Double K
  presetCeiling : Double K
  creepSpeed : Double K
  points : List (ProfilePoint K)

/-! ## Configuration -/

structure ProfileConfig (α : Type) where
  minimumTraversalSpeed : α
  tightClearance : α
  openClearance : α
  clearanceCurveFamily : α
  clearanceCurveShape : α
  approachTime : α
  curvatureWindow : α
  maxLateralAcceleration : α
  footprintFront : α
  footprintRear : α
  footprintHalfWidth : α
  brakingLinear : α
  brakingConstant : α
  reactionTime : α
  recoveryAccelerationGain : α
  recoveryAccelerationFloor : α
  minimumPoseStep : α
  directionProjectionThreshold : α

variable {K : Type} [Field K] [LinearOrder K]

namespace ProfileConfig

/-- `ProfileConfig{}`. -/
def default : ProfileConfig K where
  minimumTraversalSpeed := 25 / 100
  tightClearance := 5 / 100
  openClearance := 70 / 100
  clearanceCurveFamily := 2
  clearanceCurveShape := 1
  approachTime := 0
  curvatureWindow := 40 / 100
  maxLateralAcceleration := 35 / 100
  footprintFront := 230 / 1000
  footprintRear := 60 / 1000
  footprintHalfWidth := 825 / 10000
  brakingLinear := 16 / 10
  brakingConstant := 27 / 100
  reactionTime := 40 / 100
  recoveryAccelerationGain := 16 / 10
  recoveryAccelerationFloor := 60 / 100
  minimumPoseStep := 1 / 10000
  directionProjectionThreshold := 1 / 2

/-- The exact values, when all are finite. -/
def finite? (c : ProfileConfig (Double K)) : Option (ProfileConfig K) := do
  return {
    minimumTraversalSpeed := ← c.minimumTraversalSpeed.finite?
    tightClearance := ← c.tightClearance.finite?
    openClearance := ← c.openClearance.finite?
    clearanceCurveFamily := ← c.clearanceCurveFamily.finite?
    clearanceCurveShape := ← c.clearanceCurveShape.finite?
    approachTime := ← c.approachTime.finite?
    curvatureWindow := ← c.curvatureWindow.finite?
    maxLateralAcceleration := ← c.maxLateralAcceleration.finite?
    footprintFront := ← c.footprintFront.finite?
    footprintRear := ← c.footprintRear.finite?
    footprintHalfWidth := ← c.footprintHalfWidth.finite?
    brakingLinear := ← c.brakingLinear.finite?
    brakingConstant := ← c.brakingConstant.finite?
    reactionTime := ← c.reactionTime.finite?
    recoveryAccelerationGain := ← c.recoveryAccelerationGain.finite?
    recoveryAccelerationFloor := ← c.recoveryAccelerationFloor.finite?
    minimumPoseStep := ← c.minimumPoseStep.finite?
    directionProjectionThreshold := ← c.directionProjectionThreshold.finite? }

/-- The bounds of `validConfigImpl`. -/
def Valid [FloorRing K] (c : ProfileConfig K) : Prop :=
  0 < c.minimumTraversalSpeed ∧
  0 ≤ c.tightClearance ∧
  c.tightClearance < c.openClearance ∧
  0 ≤ c.clearanceCurveFamily ∧ c.clearanceCurveFamily ≤ 2 ∧
  (⌊c.clearanceCurveFamily⌋ : K) = c.clearanceCurveFamily ∧
  0 < c.clearanceCurveShape ∧
  0 ≤ c.approachTime ∧
  0 < c.curvatureWindow ∧
  0 < c.maxLateralAcceleration ∧
  0 < c.footprintFront ∧
  0 ≤ c.footprintRear ∧
  0 < c.footprintHalfWidth ∧
  0 < c.brakingLinear ∧
  0 < c.brakingConstant ∧
  0 ≤ c.reactionTime ∧
  0 < c.recoveryAccelerationGain ∧
  0 < c.recoveryAccelerationFloor ∧
  0 < c.minimumPoseStep ∧
  0 < c.directionProjectionThreshold ∧ c.directionProjectionThreshold < 1

instance [FloorRing K] (c : ProfileConfig K) : Decidable c.Valid :=
  inferInstanceAs (Decidable (_ ∧ _))

end ProfileConfig

/-- `validConfigImpl`, with the values of an accepted configuration. -/
def validConfigImpl [FloorRing K] (c : ProfileConfig (Double K)) :
    Option {values : ProfileConfig K // values.Valid} :=
  c.finite?.bind fun values => if h : values.Valid then some ⟨values, h⟩ else none

/-- `validConfig`. -/
def validConfig [FloorRing K] (c : ProfileConfig (Double K)) : Bool :=
  (validConfigImpl c).isSome

/-! ## Identity of a path -/

def kFnvOffset : UInt64 := 14695981039346656037
def kFnvPrime : UInt64 := 1099511628211

def hashBytes (hash : UInt64) (data : List UInt8) : UInt64 :=
  data.foldl (fun hash byte => (hash ^^^ byte.toUInt64) * kFnvPrime) hash

/-- The bytes of a word, the lowest first. -/
def littleEndian (bits : UInt64) : List UInt8 :=
  (List.range 8).map fun i => (bits >>> UInt64.ofNat (8 * i)).toUInt8

section Identity

variable (lib : MathLibrary K)

/-- Both zeros are one value here, as the code makes them. -/
def hashDouble (hash : UInt64) (value : K) : UInt64 :=
  hashBytes hash (littleEndian (lib.bits value))

def pathIdentity (path : Path K) : UInt64 :=
  let hash := hashBytes kFnvOffset path.frameId.toUTF8.toList
  let hash := hashBytes hash (littleEndian (UInt64.ofNat path.poses.length))
  path.poses.foldl (fun hash pose =>
    let p := pose.position
    let q := pose.orientation
    [p.x, p.y, p.z, q.x, q.y, q.z, q.w].foldl (hashDouble lib) hash) hash

end Identity

/-! ## Geometry -/

section Geometry

variable (lib : MathLibrary K)

def poseDistance (a b : Pose K) : K :=
  lib.hypot (b.position.x - a.position.x) (b.position.y - a.position.y)

def yaw (q : Quaternion K) : K :=
  lib.atan2 (2 * (q.w * q.z + q.x * q.y)) (1 - 2 * (q.y * q.y + q.z * q.z))

def angleDifference (a b : K) : K :=
  lib.atan2 (lib.sin (a - b)) (lib.cos (a - b))

/-- The arclength of each pose. -/
def arclengths (path : Path K) : ℕ → K
  | 0 => 0
  | i + 1 => arclengths path i + poseDistance lib (path.pose i) (path.pose (i + 1))

variable (config : ProfileConfig K)

/-- One round of the window around a pose: a span outside the path is infinite. -/
def widen (s : ℕ → K) (count i : ℕ) : ℕ × ℕ → ℕ × ℕ
  | (first, last) =>
    let leftSpan : WithTop K := if 0 < first then ↑(s i - s (first - 1)) else ⊤
    let rightSpan : WithTop K := if last + 1 < count then ↑(s (last + 1) - s i) else ⊤
    if leftSpan ≤ rightSpan then (first - 1, last) else (first, last + 1)

/-- Whether the window is to be widened. -/
def narrow (s : ℕ → K) (count : ℕ) : ℕ × ℕ → Bool
  | (first, last) =>
    s last - s first < config.curvatureWindow && (0 < first || last + 1 < count)

/-- Boundary-aware windows expand to the opposite side near either endpoint. -/
def curvatureWindow (s : ℕ → K) (count i : ℕ) : ℕ × ℕ :=
  repeatWhile (narrow config s count) (widen s count i) count (i, i)

/-- The bound from the curvature around a pose. -/
def curvatureCeiling (path : Path K) (preset : K) (i : ℕ) : K :=
  let s := arclengths lib path
  let (first, last) := curvatureWindow config s path.poses.length i
  let span := s last - s first
  if config.minimumPoseStep ≤ span then
    let curvature := |angleDifference lib (yaw lib (path.pose last).orientation)
      (yaw lib (path.pose first).orientation)| / span
    if 1 / 10 ^ 9 < curvature then min preset (lib.sqrt (config.maxLateralAcceleration / curvature))
    else preset
  else preset

/-- The direction of the segment after a pose: forward, backward or undecided. -/
def segmentDirection (path : Path K) (i : ℕ) : ℤ :=
  let before := path.pose i
  let after := path.pose (i + 1)
  let dx := after.position.x - before.position.x
  let dy := after.position.y - before.position.y
  let length := lib.hypot dx dy
  if length < config.minimumPoseStep then 0
  else
    let projection := (dx * lib.cos (yaw lib before.orientation) +
      dy * lib.sin (yaw lib before.orientation)) / length
    if config.directionProjectionThreshold ≤ |projection| then if 0 < projection then 1 else -1
    else 0

end Geometry

/-! ## Speeds -/

section Speeds

variable (lib : MathLibrary K) (config : ProfileConfig K)

def stoppingPotential (speed : K) : K :=
  if speed ≤ 0 then 0
  else
    let k := config.brakingLinear
    let c := config.brakingConstant
    speed / k - c / (k * k) * lib.log ((k * speed + c) / c)

def brakingReachabilityPotential (speed : K) : K :=
  stoppingPotential lib config speed + config.reactionTime * speed

/-- 48 bisections for the largest value that fits. -/
def bisect (fits : K → Bool) (low high : K) : K :=
  (ascending 0 48 (fun _ (low, high) =>
    let middle := 1 / 2 * (low + high)
    if fits middle then (middle, high) else (low, middle)) (low, high)).1

/-- The speed from which braking over a distance reaches a speed. -/
def reachableSpeed (fromSpeed distance ceiling : K) : K :=
  let target := brakingReachabilityPotential lib config fromSpeed + max 0 distance
  if brakingReachabilityPotential lib config ceiling ≤ target then ceiling
  else bisect (fun middle => brakingReachabilityPotential lib config middle ≤ target) 0 ceiling

/-- The distance over which the recovery model accelerates from a speed to another. -/
def recoveryDistance (fromSpeed speed : K) : K :=
  let gain := config.recoveryAccelerationGain
  let floor := config.recoveryAccelerationFloor
  let fromTerm := gain * fromSpeed + floor
  let speedTerm := gain * speed + floor
  (speed - fromSpeed) / gain - floor / (gain * gain) * lib.log (speedTerm / fromTerm)

/-- The speed that is reached from a speed by accelerating over a distance. -/
def reachableSpeedByAcceleration (fromSpeed distance ceiling : K) : K :=
  if distance ≤ 0 then min fromSpeed ceiling
  else if ceiling ≤ fromSpeed ∨ recoveryDistance lib config fromSpeed ceiling ≤ distance then
    ceiling
  else bisect (fun middle => recoveryDistance lib config fromSpeed middle ≤ distance)
    fromSpeed ceiling

def clearanceSpeed (clearance : Double K) (presetCeiling : K) : K :=
  let preset := max presetCeiling config.minimumTraversalSpeed
  let bottom := clamp config.minimumTraversalSpeed 0 preset
  let measured := clearance.finiteOr 0
  let x := clamp ((measured - config.tightClearance) /
    (config.openClearance - config.tightClearance)) 0 1
  let shaped := if 1 ≤ config.clearanceCurveFamily then lib.pow x config.clearanceCurveShape else x
  let shaped := if config.clearanceCurveFamily = 2 then shaped * shaped * (3 - 2 * shaped)
    else shaped
  bottom + (preset - bottom) * shaped

/-- Per-pose clearance ceiling; a vector of another length counts as no clearance. -/
def clearanceSpeeds (clearance : List (Double K)) (poseCount : ℕ) (presetCeiling : K) (i : ℕ) : K :=
  let measured := if clearance.length = poseCount then clearance.getD i (.finite 0) else .finite 0
  clearanceSpeed lib config measured presetCeiling

end Speeds

/-! ## The passes -/

section Passes

/-- The travel direction of each segment: undecided ones take that of their neighbours. -/
def travelDirections (count : ℕ) (direction : ℕ → ℤ) : ℕ → ℤ :=
  carryBackward count (carryForward count direction)

/-- Ceilings and cusp states. -/
structure Marks (K : Type) where
  ceiling : ℕ → K
  state : ℕ → UInt8

/-- Stop between the segments before and after a pose. -/
def markCusp (count : ℕ) (i : ℕ) (marks : Marks K) : Marks K :=
  let state := Function.update marks.state i cuspStop
  let state := if 0 < i ∧ state (i - 1) = cuspNone then
    Function.update state (i - 1) cuspApproach else state
  let state := if i + 1 < count then Function.update state (i + 1) cuspDeparture else state
  { ceiling := Function.update marks.ceiling i 0, state }

/-- Mark every direction change between two of the `count - 1` segments. -/
def markCusps (count : ℕ) (direction : ℕ → ℤ) (marks : Marks K) : Marks K :=
  ascending 1 (count - 1) (fun i marks =>
    if direction (i - 1) ≠ 0 ∧ direction i ≠ 0 ∧ direction (i - 1) ≠ direction i then
      markCusp count i marks
    else marks) marks

variable (s : ℕ → K) (count : ℕ)

/-- What the anticipation pass carries: the target that is ahead and how far it still reaches. -/
structure Anticipation (K : Type) where
  ceiling : ℕ → K
  target : K
  remaining : K

/-- A decreasing target ahead becomes active for `target * approachTime` metres before it. -/
def anticipate (approachTime preset : K) (i : ℕ) (a : Anticipation K) : Anticipation K :=
  let a := if a.ceiling i < a.target then
      { a with
        target := a.ceiling i
        remaining := max a.remaining (a.ceiling i * approachTime) }
    else a
  let a := if 0 < a.remaining ∧ 0 < a.target then
      { a with
        ceiling := Function.update a.ceiling (i - 1) (min (a.ceiling (i - 1)) a.target)
        remaining := a.remaining - (s i - s (i - 1)) }
    else a
  -- Without an active plateau the next ceiling is compared against the open corridor.
  if a.remaining ≤ 0 then { a with target := preset } else a

def anticipationPass (approachTime preset : K) (ceiling : ℕ → K) : ℕ → K :=
  if 0 < approachTime then
    (descending 1 count (anticipate s approachTime preset)
      { ceiling, target := preset, remaining := 0 }).ceiling
  else ceiling

/-- Lower each ceiling to what is reached by accelerating from the one before. -/
def forwardPass (reachable : K → K → K) (ceiling : ℕ → K) : ℕ → K :=
  ascending 1 count (fun i ceiling =>
    Function.update ceiling i
      (min (ceiling i) (reachable (ceiling (i - 1)) (s i - s (i - 1))))) ceiling

/-- Lower each ceiling to that from which braking reaches the one after. -/
def backwardPass (reachable : K → K → K) (ceiling : ℕ → K) : ℕ → K :=
  descending 1 count (fun i ceiling =>
    Function.update ceiling (i - 1)
      (min (ceiling (i - 1)) (reachable (ceiling i) (s i - s (i - 1))))) ceiling

end Passes

/-! ## The profile -/

section Profile

variable (lib : MathLibrary K)

section Config

variable (config : ProfileConfig K) (preset creep : K) (path : Path K)
  (clearance : List (Double K))

/-- The ceilings from curvature and clearance. -/
def openCeiling (i : ℕ) : K :=
  clamp (min (curvatureCeiling lib config path preset i)
    (clearanceSpeeds lib config clearance path.poses.length preset i)) creep preset

/-- The ceilings with the stops, and the cusp states. -/
def stopMarks : Marks K :=
  let count := path.poses.length
  let direction := travelDirections (count - 1) (segmentDirection lib config path)
  let marks := markCusps count direction
    { ceiling := openCeiling lib config preset creep path clearance, state := fun _ => cuspNone }
  { marks with ceiling := Function.update marks.ceiling (count - 1) 0 }

/-- The ceilings after the three passes. -/
def passedCeiling : ℕ → K :=
  let count := path.poses.length
  let s := arclengths lib path
  let ceiling := (stopMarks lib config preset creep path clearance).ceiling
  let ceiling := anticipationPass s count config.approachTime preset ceiling
  let ceiling := forwardPass s count
    (fun fromSpeed distance => reachableSpeedByAcceleration lib config fromSpeed distance preset)
    ceiling
  backwardPass s count
    (fun fromSpeed distance => reachableSpeed lib config fromSpeed distance preset) ceiling

/-- A positive ceiling is at least the creep speed. -/
def creepFloor (creep ceiling : K) : K :=
  if 0 < ceiling then max ceiling creep else ceiling

def profilePoint (i : ℕ) : ProfilePoint K where
  arclength := .finite (arclengths lib path i)
  speedCeiling :=
    .finite (creepFloor creep (passedCeiling lib config preset creep path clearance i))
  cuspState := (stopMarks lib config preset creep path clearance).state i

end Config

/-- The preset ceiling that is used. -/
def usedPreset (config : ProfileConfig K) (presetCeiling : Double K) : K :=
  match presetCeiling.finite? with
  | none => config.minimumTraversalSpeed
  | some preset =>
    if preset < config.minimumTraversalSpeed then config.minimumTraversalSpeed else preset

/-- The configuration that is used. -/
def usedConfig [FloorRing K] (requestedConfig : ProfileConfig (Double K)) : ProfileConfig K :=
  match validConfigImpl requestedConfig with
  | none => .default
  | some config => config

def makeProfile [FloorRing K] (path : Path K) (clearance : List (Double K))
    (presetCeiling : Double K) (requestedConfig : ProfileConfig (Double K)) :
    PathSpeedProfile K :=
  let config := usedConfig requestedConfig
  let preset := usedPreset config presetCeiling
  let creep := clearanceSpeed lib config (.finite 0) preset
  let count := path.poses.length
  let profile : PathSpeedProfile K :=
    { frameId := path.frameId
      committedPathStamp := path.stamp
      pathHash := pathIdentity lib path
      poseCount := UInt32.ofNat count
      goalArclength := .finite 0
      presetCeiling := .finite preset
      creepSpeed := .finite creep
      points := [] }
  if path.poses.isEmpty then profile
  else
    let points := (List.range count).map (profilePoint lib config preset creep path clearance)
    { profile with
      goalArclength := .finite (arclengths lib path (count - 1))
      points := points.modify (count - 1) fun point => { point with speedCeiling := .finite 0 } }

/-! ## Validation -/

def tolerance : K := 1 / 10 ^ 6

/-- Check one point; a valid one gives its arclength. -/
def checkPoint (preset creep prior expected : K) (point : ProfilePoint K) : Option K :=
  match point.arclength.finite?, point.speedCeiling.finite? with
  | some arclength, some speed =>
    if arclength < prior ∨ tolerance < |arclength - expected| ∨
      speed < 0 ∨ preset + tolerance < speed ∨ (0 < speed ∧ speed + tolerance < creep) ∨
      cuspDeparture < point.cuspState ∨ (point.cuspState = cuspStop ∧ speed ≠ 0) then none
    else some arclength
  | _, _ => none

/-- Check the points from an index on; the last arclength is returned. -/
def checkPoints (preset creep : K) (expected : ℕ → K) :
    ℕ → K → List (ProfilePoint K) → Option K
  | _, prior, [] => some prior
  | i, prior, point :: points =>
    match checkPoint preset creep prior (expected i) point with
    | none => none
    | some arclength => checkPoints preset creep expected (i + 1) arclength points

/-- The verdict and its reason. -/
def validateProfile (profile : PathSpeedProfile K) (path : Path K) : Bool × String :=
  if profile.poseCount.toNat ≠ path.poses.length ∨ profile.points.length ≠ path.poses.length then
    (false, "pose_count_mismatch")
  else if profile.pathHash ≠ pathIdentity lib path then (false, "path_hash_mismatch")
  else if profile.committedPathStamp.sec ≠ path.stamp.sec ∨
      profile.committedPathStamp.nanosec ≠ path.stamp.nanosec then
    (false, "path_stamp_mismatch")
  else
    match profile.goalArclength.finite?, profile.creepSpeed.finite?,
      profile.presetCeiling.finite? with
    | some goal, some creep, some preset =>
      if profile.points.head?.map (·.arclength) ≠ some (.finite 0) ∨
          profile.frameId ≠ path.frameId ∨ goal < 0 ∨ creep ≤ 0 ∨ preset < creep then
        (false, "profile_bounds_invalid")
      else
        match checkPoints preset creep (arclengths lib path) 0 (-1) profile.points with
        | none => (false, "profile_point_invalid")
        | some prior =>
          if tolerance < |prior - goal| ∨
              profile.points.getLast?.map (·.speedCeiling) ≠ some (.finite 0) then
            (false, "profile_goal_invalid")
          else (true, "matched")
    | _, _, _ => (false, "profile_bounds_invalid")

end Profile

end PreRunner.Profile
