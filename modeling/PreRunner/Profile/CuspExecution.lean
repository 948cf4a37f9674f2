import PreRunner.Profile.PathHandler
import PreRunner.Runs.History

/-!
# Following a path with cusps

The regulated pure pursuit controller matches a speed profile to its plan and stops at the cusps
of the profile until the encoder reports a standstill. This module follows `setPlan`,
`receivePathSpeedProfile` and `updateCuspExecution` of
`nav2_regulated_pure_pursuit_controller/regulated_pure_pursuit_controller.cpp`.
-/

namespace PreRunner.Profile

open Runs

variable {K : Type} [Field K] [LinearOrder K]

deriving instance DecidableEq for PathSpeedProfile

/-- A profile as it is sent, with the stamp of its header. -/
structure ProfileMessage (K : Type) extends PathSpeedProfile K where
  stamp : Time
  deriving DecidableEq

/-- A message that nothing was assigned to. -/
def ProfileMessage.empty : ProfileMessage K where
  frameId := ""
  committedPathStamp := ⟨0, 0⟩
  pathHash := 0
  poseCount := 0
  goalArclength := .finite 0
  presetCeiling := .finite 0
  creepSpeed := .finite 0
  points := []
  stamp := ⟨0, 0⟩

/-- The part of the controller that follows a profile. -/
structure CuspController (K : Type) where
  pathHandler : PathHandler K
  currentProfilePath : Path K
  /-- Oldest first. -/
  pathSpeedProfileCache : List (ProfileMessage K) := []
  activePathSpeedProfile : ProfileMessage K
  pathSpeedProfileMatched : Bool := false
  waitingForCuspStationary : Bool := false
  cuspWaitStartSequence : ℕ := 0
  encoderSampleSequence : ℕ := 0
  encoderStationary : Bool := false
  /-- Milliseconds. -/
  encoderStateReceivedAt : ℤ := 0

def CuspController.initial : CuspController K where
  pathHandler := { pathOffset := .finite 0 }
  currentProfilePath := ⟨"", ⟨0, 0⟩, []⟩
  activePathSpeedProfile := .empty

inductive CuspInput (K : Type) where
  | setPlan (path : Path K)
  | profile (message : ProfileMessage K)
  | transform (call : TransformCall K)
  | updateCusp (now : ℤ)
  | encoder (stationary : Bool) (now : ℤ)

/-- The indices of the stops of a profile. -/
def cuspStops (points : List (ProfilePoint K)) : List ℕ :=
  (List.range points.length).filter fun i => points[i]?.any (·.cuspState = cuspStop)

/-- The terminals that `configureExecutionSegmentsLocked` computes. -/
def segmentTerminals (points : List (ProfilePoint K)) : List ℕ :=
  cuspStops points ++ if points.isEmpty then [] else [points.length - 1]

namespace CuspController

variable (lib : MathLibrary K) (utils : GeometryUtils K)

/-- `targets_current_path`. -/
def targets (path : Path K) (profile : ProfileMessage K) : Bool :=
  profile.poseCount.toNat = path.poses.length &&
    profile.pathHash = pathIdentity lib path &&
    profile.committedPathStamp.sec = path.stamp.sec &&
    profile.committedPathStamp.nanosec = path.stamp.nanosec

def configureExecutionSegmentsLocked (c : CuspController K) : CuspController K :=
  { c with
    pathHandler := c.pathHandler.setSegmentTerminalIndices
      (segmentTerminals c.activePathSpeedProfile.points)
    waitingForCuspStationary := false }

/-- No profile is matched, and there are no segments. -/
def unmatch (c : CuspController K) : CuspController K :=
  { c with
    pathSpeedProfileMatched := false
    pathHandler := c.pathHandler.setSegmentTerminalIndices []
    waitingForCuspStationary := false }

/-- The newest profile of the cache that is for the path, if it is valid. -/
def candidate (path : Path K) (cache : List (ProfileMessage K)) : Option (ProfileMessage K) :=
  (cache.reverse.find? (targets lib path)).filter fun profile =>
    (validateProfile lib profile.toPathSpeedProfile path).1

def matchCachedPathSpeedProfileLocked (c : CuspController K) : CuspController K :=
  match candidate lib c.currentProfilePath c.pathSpeedProfileCache with
  | none => c.unmatch
  | some profile => configureExecutionSegmentsLocked
    { c.unmatch with activePathSpeedProfile := profile, pathSpeedProfileMatched := true }

def setPlan (c : CuspController K) (path : Path K) : CuspController K :=
  matchCachedPathSpeedProfileLocked lib
    { c with
      pathHandler := c.pathHandler.setPlan path.poses
      waitingForCuspStationary := false
      currentProfilePath := path }

/-- The cache holds the ten newest profiles. -/
def cacheProfile (c : CuspController K) (profile : ProfileMessage K) : CuspController K :=
  let cache := c.pathSpeedProfileCache ++ [profile]
  { c with pathSpeedProfileCache := if 10 < cache.length then cache.tail else cache }

def receivePathSpeedProfile (c : CuspController K) (profile : ProfileMessage K) :
    CuspController K :=
  let c := c.cacheProfile profile
  if c.currentProfilePath.poses.isEmpty then c
  else if c.pathSpeedProfileMatched then
    let validForCurrent :=
      (validateProfile lib profile.toPathSpeedProfile c.currentProfilePath).1
    if validForCurrent && profile = c.activePathSpeedProfile then c
    else if !targets lib c.currentProfilePath profile then c
    else c.unmatch
  else c.matchCachedPathSpeedProfileLocked lib

/-- `updateCuspExecution`: whether the next segment was begun. -/
def updateCuspExecution (c : CuspController K) (now : ℤ) : Bool × CuspController K :=
  if !c.pathSpeedProfileMatched || !c.pathHandler.atSegmentTerminal then
    (false, { c with waitingForCuspStationary := false })
  else if !c.pathHandler.hasActiveCusp then (false, c)
  else if !c.waitingForCuspStationary then
    (false, { c with
      waitingForCuspStationary := true
      cuspWaitStartSequence := c.encoderSampleSequence })
  else
    let fresh := c.cuspWaitStartSequence < c.encoderSampleSequence &&
      now - c.encoderStateReceivedAt ≤ 250
    let (advanced, pathHandler) := c.pathHandler.advanceSegment utils
    if fresh && c.encoderStationary && advanced then
      (true, { c with pathHandler, waitingForCuspStationary := false })
    else (false, c)

def receiveEncoder (c : CuspController K) (stationary : Bool) (now : ℤ) : CuspController K :=
  { c with
    encoderStationary := stationary
    encoderStateReceivedAt := now
    encoderSampleSequence := c.encoderSampleSequence + 1 }

def step (c : CuspController K) : CuspInput K → CuspController K
  | .setPlan path => c.setPlan lib path
  | .profile message => c.receivePathSpeedProfile lib message
  | .transform call =>
    { c with pathHandler := (c.pathHandler.transformGlobalPlan utils call).2 }
  | .updateCusp now => (c.updateCuspExecution utils now).2
  | .encoder stationary now => c.receiveEncoder stationary now

end CuspController

end PreRunner.Profile
