import PreRunner.PyFloat

/-!
# The mission runtime

`MissionRuntime` is the ROS-free part of the one Nav2 mission owner. It binds validated missions,
numbers every dispatch with an action generation, and drops the callbacks of older generations.
This module follows the class in `runner_bringup/navigation_runtime.py` method by method; a
method that mutates `self` and returns commands becomes a function to the pair of both.
-/

namespace PreRunner.Bringup

/-- What the module takes from the Python and Nav2 libraries. -/
structure NavLibrary where
  hypot : ℚ → ℚ → ℚ
  atan2 : ℚ → ℚ → ℚ
  sin : ℚ → ℚ
  cos : ℚ → ℚ
  radians : ℚ → ℚ
  /-- `text.strip()`. -/
  strip : String → String
  /-- The error constants of the generated Nav2 messages. -/
  nav2ErrorNames : Int → Option String

def redispatchPositionToleranceM : ℚ := 10 / 100

def redispatchYawToleranceRad (lib : NavLibrary) : ℚ := lib.radians 10

/-- Render a symbolic code without discarding Nav2's own detail. -/
def nav2ErrorDetail (lib : NavLibrary) (errorCode : Int) (errorMsg : String) : String :=
  let name := (lib.nav2ErrorNames errorCode).getD "UNKNOWN"
  let summary := name ++ " (" ++ toString errorCode ++ ")"
  let detail := lib.strip errorMsg
  if detail ≠ "" ∧ detail ≠ name ∧ detail ≠ summary then summary ++ ": " ++ detail else summary

def statusAccepted : Int := 1
def statusExecuting : Int := 2
def statusSucceeded : Int := 4
def statusCanceled : Int := 5
def statusAborted : Int := 6

/-- The name of a goal status, or its number. -/
def statusName (status : Int) : String :=
  match status with
  | 0 => "UNKNOWN"
  | 1 => "ACCEPTED"
  | 2 => "EXECUTING"
  | 3 => "CANCELING"
  | 4 => "SUCCEEDED"
  | 5 => "CANCELED"
  | 6 => "ABORTED"
  | _ => toString status

/-- Mirror of the `NavigationState` constants. -/
inductive MissionState where
  | idle
  | dispatching
  | active
  | canceling
  | succeeded
  | failed
  | canceled
  deriving DecidableEq, Repr

def MissionState.name : MissionState → String
  | idle => "IDLE"
  | dispatching => "DISPATCHING"
  | active => "ACTIVE"
  | canceling => "CANCELING"
  | succeeded => "SUCCEEDED"
  | failed => "FAILED"
  | canceled => "CANCELED"

/-- One map-frame pose, independent of any ROS message type. -/
structure MissionPose where
  frameId : String
  position : List PyFloat
  orientation : List PyFloat
  deriving DecidableEq, Repr

namespace MissionPose

/-- The components of a list of floats, when all are finite. -/
def finiteValues (values : List PyFloat) : Option (List ℚ) := values.mapM PyFloat.finite?

/-- Whether every component is finite with a usable rotation. The norm of the rotation is
compared with `1e-6` through its square. -/
def isValid (pose : MissionPose) (expectedFrame : String := "map") : Bool :=
  pose.position.length = 3 && pose.orientation.length = 4 &&
    match finiteValues pose.position, finiteValues pose.orientation with
    | some _, some orientation =>
      ¬ (orientation.map fun value => value * value).sum < 1 / 10 ^ 12 &&
        pose.frameId = expectedFrame
    | _, _ => false

/-- A component of a pose that was validated. -/
def component (values : List PyFloat) (index : Nat) : ℚ :=
  ((values[index]?).bind PyFloat.finite?).getD 0

end MissionPose

/-- An immutable logical mission bound to one runtime epoch and map. -/
structure Mission where
  missionId : String
  revision : Int
  runtimeEpoch : Int
  mapId : String
  missionType : Int
  poses : List MissionPose
  deriving DecidableEq, Repr

/-- Terminal failure signature used to reject an identical redispatch. -/
structure FailedDispatch where
  missionId : String
  robotPose : MissionPose
  errorCode : Int
  reason : String
  deriving DecidableEq, Repr

/-- The commands a call asks the node to carry out. -/
inductive Command where
  | sendGoal (generation : Int) (mission : Mission)
  | cancelActiveGoal (generation : Int)
  | cancelResidualGoals
  deriving DecidableEq, Repr

def yaw (lib : NavLibrary) (orientation : List PyFloat) : ℚ :=
  let x := MissionPose.component orientation 0
  let y := MissionPose.component orientation 1
  let z := MissionPose.component orientation 2
  let w := MissionPose.component orientation 3
  lib.atan2 (2 * (w * z + x * y)) (1 - 2 * (y * y + z * z))

def posesMateriallySame (lib : NavLibrary) (first second : MissionPose) : Bool :=
  if first.frameId ≠ second.frameId then false
  else
    let distance := lib.hypot
      (MissionPose.component first.position 0 - MissionPose.component second.position 0)
      (MissionPose.component first.position 1 - MissionPose.component second.position 1)
    let difference := yaw lib first.orientation - yaw lib second.orientation
    let yawDelta := lib.atan2 (lib.sin difference) (lib.cos difference)
    distance ≤ redispatchPositionToleranceM && |yawDelta| ≤ redispatchYawToleranceRad lib

/-- The fields of `MissionRuntime`. -/
structure MissionRuntime where
  bootId : String
  runtimeEpoch : Int := 0
  mapId : String := ""
  state : MissionState := .idle
  mission : Option Mission := none
  missionValid : Bool := false
  actionGeneration : Int := 0
  goalUuid : String := ""
  nav2Status : Int := -1
  errorCode : Int := 0
  errorMeaning : String := ""
  detail : String := "runtime started"
  inflight : Bool := false
  cancelRequested : Bool := false
  autonomyOk : Option Bool := none
  autonomyKey : Option (Int × String) := none
  maxRevision : Int := 0
  residualCleared : Bool := false
  robotPose : Option MissionPose := none
  failedDispatch : Option FailedDispatch := none
  inflightMissionId : String := ""
  deriving DecidableEq, Repr

/-- The arguments of `select`. -/
structure SelectRequest where
  missionId : String
  missionRevision : Int
  runtimeEpoch : Int
  mapId : String
  missionType : Int
  poses : List MissionPose
  deriving DecidableEq, Repr

/-- The mission a request binds. -/
def SelectRequest.mission (r : SelectRequest) : Mission :=
  { missionId := r.missionId
    revision := r.missionRevision
    runtimeEpoch := r.runtimeEpoch
    mapId := r.mapId
    missionType := r.missionType
    poses := r.poses }

namespace MissionRuntime

/-! ## Helpers -/

def reject (rt : MissionRuntime) (reason : String) : MissionRuntime × List Command :=
  ({ rt with detail := reason }, [])

def beginCancel (rt : MissionRuntime) (reason : String) : MissionRuntime × List Command :=
  ({ rt with
      cancelRequested := true
      state := .canceling
      detail := "canceling: " ++ reason },
    if rt.goalUuid ≠ "" then [.cancelActiveGoal rt.actionGeneration] else [])

/-- The state without an action in flight: what was in progress is idle. -/
def settled (state : MissionState) : MissionState :=
  if state = .dispatching ∨ state = .active ∨ state = .canceling then .idle else state

def invalidate (rt : MissionRuntime) (reason : String) : MissionRuntime × List Command :=
  let rt := { rt with missionValid := false, mission := none, failedDispatch := none }
  let (rt, commands) :=
    if rt.inflight then rt.beginCancel reason else ({ rt with state := settled rt.state }, [])
  ({ rt with detail := "mission invalidated: " ++ reason }, commands)

/-- The prior failure, if mission and observed posture match. -/
def identicalRedispatchFailure (lib : NavLibrary) (rt : MissionRuntime) : Option FailedDispatch :=
  match rt.failedDispatch, rt.mission, rt.robotPose with
  | some failed, some mission, some pose =>
    if failed.missionId ≠ mission.missionId then none
    else if posesMateriallySame lib failed.robotPose pose then some failed
    else none
  | _, _, _ => none

/-! ## Observation -/

/-- Follow the mode state; invalidate on an epoch or map change or on leaving AUTONOMY. -/
def observeRuntime (rt : MissionRuntime) (runtimeEpoch : Int) (mapId : String)
    (autonomyOk : Bool) : MissionRuntime × List Command :=
  let wasOk := rt.autonomyOk
  let rt := { rt with autonomyOk := some autonomyOk }
  if autonomyOk then
    let key := (runtimeEpoch, mapId)
    let (rt, commands) :=
      if rt.autonomyKey ≠ none ∧ rt.autonomyKey ≠ some key then
        rt.invalidate "runtime epoch or map changed"
      else (rt, [])
    ({ rt with autonomyKey := some key, runtimeEpoch := runtimeEpoch, mapId := mapId }, commands)
  else if wasOk = some true then rt.invalidate "runtime left AUTONOMY"
  else (rt, [])

/-! ## Authorized operations -/

/-- The reason `select` rejects a request, in the order of its checks. -/
def selectRejection (rt : MissionRuntime) (r : SelectRequest) : Option String :=
  if r.missionId = "" then some "select rejected: empty mission_id"
  else if r.missionType ≠ 0 ∧ r.missionType ≠ 1 then
    some "select rejected: unknown mission_type"
  else if r.poses = [] ∨ r.poses.all (·.isValid) = false then
    some "select rejected: invalid map-frame pose(s)"
  else if r.missionType = 0 ∧ r.poses.length ≠ 1 then
    some "select rejected: a single goal needs exactly one pose"
  else if rt.autonomyOk ≠ some true then some "select rejected: runtime is not in AUTONOMY"
  else if r.runtimeEpoch ≠ rt.runtimeEpoch then
    some ("select rejected: mission epoch " ++ toString r.runtimeEpoch ++ " != runtime epoch " ++
      toString rt.runtimeEpoch)
  else if rt.mapId ≠ "" ∧ r.mapId ≠ rt.mapId then
    some "select rejected: mission map does not match"
  else if r.missionRevision ≤ rt.maxRevision then some "select rejected: stale mission_revision"
  else none

/-- Bind a new validated logical mission; never dispatches. -/
def select (rt : MissionRuntime) (r : SelectRequest) : MissionRuntime × List Command :=
  match rt.selectRejection r with
  | some reason => rt.reject reason
  | none =>
    let rt := { rt with maxRevision := r.missionRevision }
    let (rt, commands) :=
      if rt.inflight then rt.beginCancel "superseded by a new mission" else (rt, [])
    ({ rt with
        mission := some r.mission
        missionValid := true
        failedDispatch := none
        state := if rt.inflight then rt.state else .idle
        detail := "mission selected and validated" }, commands)

/-- The runtime after a dispatch was accepted. -/
def dispatched (rt : MissionRuntime) (mission : Mission) : MissionRuntime :=
  { rt with
    actionGeneration := rt.actionGeneration + 1
    inflight := true
    inflightMissionId := mission.missionId
    cancelRequested := false
    goalUuid := ""
    nav2Status := -1
    errorCode := 0
    errorMeaning := ""
    state := .dispatching
    detail := "dispatch requested; awaiting Nav2 acceptance"
    residualCleared := true }

/-- Dispatch the currently selected mission to Nav2. -/
def dispatch (lib : NavLibrary) (rt : MissionRuntime) : MissionRuntime × List Command :=
  match (if rt.missionValid then rt.mission else none) with
  | none => rt.reject "dispatch rejected: no validated mission"
  | some mission =>
    if rt.inflight ∨ rt.state = .canceling then
      rt.reject "dispatch rejected: an action is still in flight"
    else if rt.autonomyOk ≠ some true then
      rt.reject "dispatch rejected: runtime is not in AUTONOMY"
    else if mission.runtimeEpoch ≠ rt.runtimeEpoch then
      reject { rt with mission := none, missionValid := false }
        "dispatch rejected: mission epoch superseded"
    else
      match rt.identicalRedispatchFailure lib with
      | some blocked =>
        let reason := "ANTI_REDISPATCH_STORM: identical mission and robot pose after " ++
          blocked.reason ++ "; select a new goal before retrying"
        reject { rt with errorCode := blocked.errorCode, errorMeaning := reason }
          ("dispatch rejected: " ++ reason)
      | none =>
        let next := rt.dispatched mission
        (next, (if rt.residualCleared then [] else [.cancelResidualGoals]) ++
          [.sendGoal next.actionGeneration mission])

/-- Explicit cancel; keeps the logical mission as a continuation candidate. -/
def cancel (rt : MissionRuntime) (reason : String) : MissionRuntime × List Command :=
  if rt.inflight then rt.beginCancel (if reason = "" then "operator cancel" else reason)
  else
    ({ rt with state := settled rt.state, detail := "cancel requested; nothing in flight" }, [])

/-! ## Asynchronous Nav2 callbacks -/

/-- Whether a generation is the live action attempt. -/
def isCurrent (rt : MissionRuntime) (generation : Int) : Bool :=
  generation = rt.actionGeneration && rt.inflight

/-- Reduce a goal-acceptance callback, dropping stale generations. -/
def onGoalResponse (rt : MissionRuntime) (generation : Int) (accepted : Bool)
    (goalUuid : String) : MissionRuntime × List Command :=
  if generation ≠ rt.actionGeneration ∨ rt.inflight = false then (rt, [])
  else if accepted = false then
    ({ rt with
        inflight := false
        inflightMissionId := ""
        state := .failed
        nav2Status := statusAborted
        errorMeaning := "Nav2 rejected the goal"
        detail := "Nav2 rejected the goal" }, [])
  else
    let rt := { rt with goalUuid := goalUuid }
    if rt.cancelRequested then ({ rt with state := .canceling }, [.cancelActiveGoal generation])
    else
      ({ rt with
          state := .active
          nav2Status := statusAccepted
          detail := "Nav2 accepted the goal; executing" }, [])

/-- Note execution feedback for the current generation only. -/
def onFeedback (rt : MissionRuntime) (generation : Int) : MissionRuntime :=
  if generation ≠ rt.actionGeneration ∨ rt.inflight = false then rt
  else
    let rt := { rt with state := if rt.state = .dispatching then .active else rt.state }
    if rt.state = .active then { rt with nav2Status := statusExecuting } else rt

/-- Track the current odom-frame posture. -/
def observeRobotPose (rt : MissionRuntime) (robotPose : MissionPose) : MissionRuntime :=
  if robotPose.isValid "odom" then { rt with robotPose := some robotPose } else rt

/-- Apply a terminal action result, dropping stale generations. -/
def onResult (lib : NavLibrary) (rt : MissionRuntime) (generation status errorCode : Int)
    (errorMeaning : String) : MissionRuntime :=
  if generation ≠ rt.actionGeneration ∨ rt.inflight = false then rt
  else
    let missionId := rt.inflightMissionId
    let reason := nav2ErrorDetail lib errorCode errorMeaning
    let rt := { rt with
      inflight := false
      inflightMissionId := ""
      cancelRequested := false
      goalUuid := ""
      nav2Status := status
      errorCode := errorCode
      errorMeaning := reason }
    let rt :=
      if status = statusSucceeded then { rt with state := .succeeded, failedDispatch := none }
      else if status = statusCanceled then { rt with state := .canceled, failedDispatch := none }
      else
        let meaning := "RECOVERY_EXHAUSTED: " ++ reason
        let failed := match rt.robotPose with
          | some robotPose =>
            if missionId ≠ "" then some { missionId, robotPose, errorCode, reason := meaning }
            else rt.failedDispatch
          | none => rt.failedDispatch
        { rt with state := .failed, errorMeaning := meaning, failedDispatch := failed }
    { rt with
      detail := "action terminal: " ++ rt.state.name ++ " (" ++ statusName status ++ ")" }

/-- Whether a cancel retry is still required for this generation. -/
def onCancelResponse (rt : MissionRuntime) (generation : Int) (goalsCanceling : Bool) :
    MissionRuntime × Bool :=
  if generation ≠ rt.actionGeneration ∨ rt.inflight = false then (rt, false)
  else if goalsCanceling then ({ rt with detail := "cancellation accepted by Nav2" }, false)
  else ({ rt with detail := "cancellation not yet accepted; retrying" }, true)

end MissionRuntime

/-! ## Calls and runs -/

/-- The methods of a mission runtime with their arguments. -/
inductive MissionCall where
  | observeRuntime (runtimeEpoch : Int) (mapId : String) (autonomyOk : Bool)
  | select (request : SelectRequest)
  | dispatch
  | cancel (reason : String)
  | onGoalResponse (generation : Int) (accepted : Bool) (goalUuid : String)
  | onFeedback (generation : Int)
  | onResult (generation status errorCode : Int) (errorMeaning : String)
  | onCancelResponse (generation : Int) (goalsCanceling : Bool)
  | observeRobotPose (robotPose : MissionPose)
  deriving DecidableEq, Repr

namespace MissionRuntime

/-- One call: the next state and the commands it returns. -/
def perform (lib : NavLibrary) (rt : MissionRuntime) : MissionCall → MissionRuntime × List Command
  | .observeRuntime runtimeEpoch mapId autonomyOk => rt.observeRuntime runtimeEpoch mapId autonomyOk
  | .select request => rt.select request
  | .dispatch => rt.dispatch lib
  | .cancel reason => rt.cancel reason
  | .onGoalResponse generation accepted goalUuid => rt.onGoalResponse generation accepted goalUuid
  | .onFeedback generation => (rt.onFeedback generation, [])
  | .onResult generation status errorCode errorMeaning =>
    (rt.onResult lib generation status errorCode errorMeaning, [])
  | .onCancelResponse generation goalsCanceling =>
    ((rt.onCancelResponse generation goalsCanceling).1, [])
  | .observeRobotPose robotPose => (rt.observeRobotPose robotPose, [])

def step (lib : NavLibrary) (rt : MissionRuntime) (call : MissionCall) : MissionRuntime :=
  (rt.perform lib call).1

def commands (lib : NavLibrary) (rt : MissionRuntime) (call : MissionCall) : List Command :=
  (rt.perform lib call).2

end MissionRuntime

end PreRunner.Bringup
