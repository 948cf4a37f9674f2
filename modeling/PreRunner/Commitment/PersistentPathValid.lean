import PreRunner.Profile.PathSpeedProfile

/-!
# The persistence of a blockage

`PersistentPathValidCondition` asks at every tick whether the corridor ahead on the committed path
is free, and requests a new plan when the answer has been "blocked" for long enough. This module
follows `commitment_nodes.cpp` and `blockage_persistence.hpp`. What a tick reads (its ports, the
latest execution state, the reply of the validation service) is its input.
-/

namespace PreRunner.Commitment

open Profile

/-! ## Messages -/

section Equality

variable {K : Type} [DecidableEq K]

deriving instance DecidableEq for Profile.Point, Profile.Quaternion, Profile.Pose

end Equality

/-- `geometry_msgs/PoseStamped`. -/
structure PoseStamped (K : Type) where
  stamp : Time
  frameId : String
  pose : Pose K
  deriving DecidableEq

/-- `nav_msgs/Path`, with the headers of its poses. -/
structure PathMessage (K : Type) where
  stamp : Time := ⟨0, 0⟩
  frameId : String := ""
  poses : List (PoseStamped K) := []
  deriving DecidableEq

/-- What the identity of the path reads. -/
def PathMessage.toPath {K : Type} (path : PathMessage K) : Path K :=
  { frameId := path.frameId, stamp := path.stamp, poses := path.poses.map PoseStamped.pose }

/-- The fields of `PathExecutionState` that are read. -/
structure PathExecutionState where
  committedPathStamp : Time
  pathHash : UInt64
  poseCount : UInt32
  globalPathIndex : UInt32
  deriving DecidableEq

/-! ## `BlockagePersistence` -/

/-- `std::max(1u, required_observations)`. -/
def requiredBlocked (requiredObservations : UInt32) : ℕ := max 1 requiredObservations.toNat

/-- The `unsigned int` that counts blocked observations. -/
structure BlockagePersistence where
  blockedObservations : ℕ := 0
  deriving DecidableEq, Repr

/-- `observe`. The sum wraps around before the minimum is taken. -/
def BlockagePersistence.observe (persistence : BlockagePersistence) (pathIsValid : Bool)
    (requiredObservations : UInt32) : BlockagePersistence × Bool :=
  if pathIsValid then (⟨0⟩, false)
  else
    let blocked := min ((persistence.blockedObservations + 1) % 2 ^ 32)
      (requiredBlocked requiredObservations)
    (⟨blocked⟩, requiredBlocked requiredObservations ≤ blocked)

/-! ## The corridor -/

section Corridor

variable {K : Type} [Field K] [LinearOrder K] (lib : MathLibrary K)

/-- `distance`. -/
def distance (lhs rhs : PoseStamped K) : K :=
  lib.hypot (lhs.pose.position.x - rhs.pose.position.x)
    (lhs.pose.position.y - rhs.pose.position.y)

/-- How many poses the loop adds behind the first of these. -/
def corridorPoses (corridorLength : K) (corridorDistance : K) : List (PoseStamped K) → ℕ
  | last :: next :: rest =>
    if corridorDistance < corridorLength then
      corridorPoses corridorLength (corridorDistance + distance lib last next) (next :: rest) + 1
    else 0
  | _ => 0

/-- The execution state is about another path, or beyond its end. -/
def PathExecutionState.mismatches (execution : PathExecutionState) (path : PathMessage K) : Bool :=
  execution.poseCount.toNat ≠ path.poses.length ||
    execution.pathHash ≠ pathIdentity lib path.toPath ||
    execution.committedPathStamp ≠ path.stamp ||
    path.poses.length ≤ execution.globalPathIndex.toNat

/-- `makeForwardCorridor`. -/
def makeForwardCorridor (execution : Option PathExecutionState) (path : PathMessage K)
    (corridorLength : K) : Option (PathMessage K) :=
  match execution with
  | none => none
  | some execution =>
    if execution.mismatches lib path then none
    else
      let ahead := path.poses.drop execution.globalPathIndex.toNat
      some { path with poses := ahead.take (1 + corridorPoses lib corridorLength 0 ahead) }

end Corridor

/-! ## The tick -/

inductive NodeStatus where
  | success
  | failure
  deriving DecidableEq, Repr

/-- What a tick reads: its ports, the latest execution state, if one has been received, and what
the validation service would answer in time. -/
structure CommitmentTick (K : Type) where
  path : PathMessage K
  corridorLength : K
  execution : Option PathExecutionState
  answer : Option Bool

/-- The members of the condition. -/
structure PersistentPathValid (K : Type) where
  committedPath : PathMessage K := {}
  persistence : BlockagePersistence := {}
  validationUnavailableReported : Bool := false

/-- What a tick returns, publishes (events with their reasons), sets and sends. -/
structure TickResult (K : Type) where
  status : NodeStatus
  published : List (String × String) := []
  replanReason : Option String := none
  request : Option (PathMessage K) := none

section Tick

variable {K : Type} [Field K] [LinearOrder K] (lib : MathLibrary K)
  (requiredObservations : UInt32)

/-- Another path is committed. -/
def PersistentPathValid.commit (node : PersistentPathValid K) (path : PathMessage K) :
    PersistentPathValid K :=
  if path ≠ node.committedPath then { committedPath := path } else node

/-- `replan_requested` with its reason. -/
def replanRequested : String × String := ("replan_requested", "persistent_blockage")

/-- The part of the tick after an answer about this corridor. -/
def PersistentPathValid.answered (node : PersistentPathValid K) (corridor : PathMessage K)
    (isValid : Bool) : PersistentPathValid K × TickResult K :=
  let before := node.persistence.blockedObservations
  let (persistence, persistent) := node.persistence.observe isValid requiredObservations
  let next := { node with persistence, validationUnavailableReported := false }
  if isValid then
    (next, {
      status := .success
      published :=
        if 0 < before then [("committed_path_retained", "transient_blockage_cleared")] else []
      request := some corridor })
  else if ¬ persistent then
    (next, {
      status := .success
      published := [("committed_path_retained",
        "transient_blockage_" ++ toString persistence.blockedObservations ++ "_of_" ++
          toString (requiredBlocked requiredObservations))]
      request := some corridor })
  else
    (next, {
      status := .failure
      published := if before < requiredBlocked requiredObservations then [replanRequested] else []
      replanReason := some "persistent_blockage"
      request := some corridor })

/-- Nothing is known about the corridor; this is said once. -/
def PersistentPathValid.unavailable (node : PersistentPathValid K)
    (request : Option (PathMessage K)) (reason : String) :
    PersistentPathValid K × TickResult K :=
  ({ node with validationUnavailableReported := true }, {
    status := .success
    published :=
      if node.validationUnavailableReported then [] else [("committed_path_retained", reason)]
    request })

/-- `tick`. -/
def PersistentPathValid.tick (node : PersistentPathValid K) (input : CommitmentTick K) :
    PersistentPathValid K × TickResult K :=
  if input.path.poses.isEmpty then
    ({ node with committedPath := input.path, persistence := {} }, { status := .failure })
  else
    let node := node.commit input.path
    match makeForwardCorridor lib input.execution input.path input.corridorLength with
    | none => node.unavailable none "progress_pose_unavailable"
    | some corridor =>
      match input.answer with
      | none => node.unavailable (some corridor) "global_validation_unavailable"
      | some isValid => node.answered requiredObservations corridor isValid

end Tick

end PreRunner.Commitment
