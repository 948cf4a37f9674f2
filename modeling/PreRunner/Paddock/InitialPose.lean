import PreRunner.Paddock.GatewayOutcomes
import PreRunner.Runs.ThreadPool

/-!
# The initial-pose transaction

A browser may seed the localization: STOP is requested, the seed is published when the robot has
stopped, the map pose has to agree with it, and both costmaps are cleared. This module follows
`runner_paddock/ros_state_node.py`, one atomic operation for each region under a lock, each snapshot
of the cache and each update of its `initial_pose` section. The web thread that holds the gateway
lock runs beside the threads of the timer ticks and of the callbacks.

Three fields are bookkeeping of the model: `history` lists the assignments of
`_pending_initial_pose`, `trace` what the node has done or seen, and the `change` of a report is the
length of the history when the report was decided.
-/

namespace PreRunner.Paddock

open Runs

/-! ## What a snapshot of the cache holds -/

structure PoseMode where
  mode : ℤ
  status : ℤ
  ready : Bool
  activeAutonomyMap : String
  runtimeEpoch : ℤ
  deriving DecidableEq, Repr

/-- The applied selection, and the catalog with its complete bundles marked. -/
structure PoseMapState where
  selectedMapApplied : String
  catalog : List (String × Bool)
  deriving DecidableEq, Repr

structure PoseStop where
  stopped : Bool
  locked : Bool
  healthy : Bool
  applied : Bool
  deriving DecidableEq, Repr

/-- The sections of a snapshot that the transaction reads, each missing until it is received. -/
structure PoseSnapshot where
  modeFresh : Bool := false
  mode : Option PoseMode := none
  mapFresh : Bool := false
  mapState : Option PoseMapState := none
  stopFresh : Bool := false
  stopState : Option PoseStop := none
  encoderFresh : Bool := false
  stationary : Option Bool := none
  deriving DecidableEq, Repr

def modeAutonomy : ℤ := 2
def statusStable : ℤ := 0

namespace PoseSnapshot

def selectedMap (s : PoseSnapshot) : String := (s.mapState.map (·.selectedMapApplied)).getD ""

def activeMap (s : PoseSnapshot) : String := (s.mode.map (·.activeAutonomyMap)).getD ""

def runtimeEpoch (s : PoseSnapshot) : ℤ := (s.mode.map (·.runtimeEpoch)).getD 0

def selectionComplete (s : PoseSnapshot) : Bool :=
  ((s.mapState.map (·.catalog)).getD []).any fun entry => entry.1 = s.selectedMap && entry.2

/-- `_initial_pose_rejection`: the first localization-context precondition that fails. -/
def initialPoseRejection (s : PoseSnapshot) : Option String :=
  if s.modeFresh = false then some "runtime state unavailable or stale"
  else if s.mode.map (·.mode) ≠ some modeAutonomy ∨ s.mode.map (·.status) ≠ some statusStable then
    some "initial pose requires stable AUTONOMY localization"
  else if s.mode.map (·.ready) ≠ some true then some "localization is not ready"
  else if s.mapFresh = false ∨ s.selectedMap = "" ∨ s.selectionComplete = false then
    some "a valid selected map is required"
  else if s.activeMap ≠ s.selectedMap then
    some "selected map is not the active localization map"
  else none

/-- `_initial_pose_safety_rejection`: why the robot is not known to have stopped. -/
def initialPoseSafetyRejection (s : PoseSnapshot) : Option String :=
  if s.stopFresh = false then some "STOP state unavailable or stale"
  else if (s.stopState.any fun stop =>
      stop.stopped && stop.locked && stop.healthy && stop.applied) = false then
    some "awaiting healthy applied STOP"
  else if s.encoderFresh = false then some "encoder stationary state unavailable or stale"
  else if s.stationary ≠ some true then some "robot is not stationary"
  else none

end PoseSnapshot

/-! ## The transaction -/

/-- `InitialPoseIntent`. -/
structure PoseIntent where
  x : PyFloat
  y : PyFloat
  yaw : PyFloat
  frame : String
  deriving DecidableEq, Repr

/-- `_initial_pose_status`: the request, and the map and epoch it was made for. -/
structure PoseStatus where
  map : String
  runtimeEpoch : ℤ
  requested : PoseIntent
  deriving DecidableEq, Repr

def PoseSnapshot.initialPoseStatus (s : PoseSnapshot) (intent : PoseIntent) : PoseStatus :=
  { map := s.selectedMap, runtimeEpoch := s.runtimeEpoch, requested := intent }

/-- A pose of the robot in the map frame. -/
structure TfPose where
  x : ℚ
  y : ℚ
  yaw : ℚ
  deriving DecidableEq, Repr

inductive PoseState where
  | stopping
  | localizing
  | clearing
  | applied
  | rejected
  deriving DecidableEq, Repr

/-- The `initial_pose` section of the cache. -/
structure PoseSection where
  status : PoseStatus
  state : PoseState
  detail : String
  observed : Option TfPose := none
  deriving DecidableEq, Repr

inductive PosePhase where
  | waitingStop
  | awaitingPose
  | clearing
  deriving DecidableEq, Repr

inductive DynamicCostmap where
  | globalCostmap
  | localCostmap
  deriving DecidableEq, Repr

def DynamicCostmap.name : DynamicCostmap → String
  | globalCostmap => "global"
  | localCostmap => "local"

/-- The dictionary of one transaction; its `request_id` is its index. -/
structure PoseRecord where
  phase : PosePhase := .waitingStop
  deadline : ℚ := 0
  status : PoseStatus := ⟨"", 0, ⟨.finite 0, .finite 0, .finite 0, ""⟩⟩
  intent : PoseIntent := ⟨.finite 0, .finite 0, .finite 0, ""⟩
  clearPending : List DynamicCostmap := []
  clearErrors : List String := []
  observed : Option TfPose := none
  deriving DecidableEq, Repr

def initialPoseStopTimeoutSec : ℚ := 5
def initialPoseConfirmTimeoutSec : ℚ := 5
def initialPoseClearTimeoutSec : ℚ := 2
def initialPosePositionToleranceM : ℚ := 1 / 4
/-- `math.radians(15.0)`. -/
def initialPoseYawToleranceRad : ℚ := 2617993877991494 / 10 ^ 16

namespace PoseRecord

/-- `_initial_pose_context_changed`. -/
def contextChanged (record : PoseRecord) (s : PoseSnapshot) : Option String :=
  match s.initialPoseRejection with
  | some reason => some ("initial pose context lost: " ++ reason)
  | none =>
    if s.runtimeEpoch ≠ record.status.runtimeEpoch ∨ s.selectedMap ≠ record.status.map ∨
        s.activeMap ≠ record.status.map then
      some "runtime or active map changed during initial pose"
    else none

/-- The two checks in a row. -/
def obstacle (record : PoseRecord) (s : PoseSnapshot) : Option String :=
  match record.contextChanged s with
  | some reason => some reason
  | none => s.initialPoseSafetyRejection

/-- The robot is where the request says; the gateway lets only finite requests pass. -/
def agrees (normalizedYaw : ℚ → ℚ) (record : PoseRecord) (pose : TfPose) : Bool :=
  match record.intent.x.finite?, record.intent.y.finite?, record.intent.yaw.finite? with
  | some x, some y, some yaw =>
    (pose.x - x) ^ 2 + (pose.y - y) ^ 2 ≤ initialPosePositionToleranceM ^ 2 &&
      |normalizedYaw (pose.yaw - yaw)| ≤ initialPoseYawToleranceRad
  | _, _, _ => false

end PoseRecord

/-- Why a phase timed out. -/
def PosePhase.expiry : PosePhase → String
  | waitingStop => "timed out waiting for applied STOP and stationary"
  | awaitingPose =>
    "application unconfirmed: map-frame robot pose did not match the requested initial pose"
  | clearing => "timed out clearing dynamic costmaps"

/-- An assignment of `_pending_initial_pose`. -/
inductive PoseChange where
  /-- A transaction begins with this dictionary. -/
  | accepted (id : ℕ) (record : PoseRecord)
  /-- A request is rejected, and a pending transaction with it. -/
  | refused (outcome : PoseSection)
  | ended (id : ℕ) (outcome : PoseSection)
  deriving DecidableEq, Repr

/-- A value for the `initial_pose` section, and the changes made before it was decided. -/
structure PoseReport where
  change : ℕ
  shown : PoseSection
  deriving DecidableEq, Repr

/-- What the node has done or seen. -/
inductive PoseEffect where
  /-- The seed was published after this snapshot. -/
  | posed (id : ℕ) (snapshot : PoseSnapshot)
  /-- The map pose agreed with the request under this snapshot. -/
  | agreed (id : ℕ) (pose : TfPose) (snapshot : PoseSnapshot)
  | clearRequested (id : ℕ) (costmap : DynamicCostmap)
  | cleared (id : ℕ) (costmap : DynamicCostmap)
  | sent (event : ControlEventIntent)
  deriving DecidableEq, Repr

/-- The fields that the transaction reads and writes. -/
structure PoseNode where
  requestId : ℕ := 0
  records : ℕ → PoseRecord := fun _ => {}
  pending : Option ℕ := none
  /-- The `initial_pose` section of the cache. -/
  initialPose : Option PoseReport := none
  /-- The costmap clears that have not been answered. -/
  inFlight : List (ℕ × DynamicCostmap) := []
  history : List PoseChange := []
  trace : List PoseEffect := []

/-- What the environment decides at one operation. -/
structure PoseEnv where
  now : ℚ := 0
  snapshot : PoseSnapshot := {}
  /-- The subscribers of `/initialpose`. -/
  subscribers : ℕ := 1
  /-- The finite map pose of the robot, if TF has one. -/
  transform : Option TfPose := none
  serviceIsReady : DynamicCostmap → Bool := fun _ => true
  /-- Why `call_async` raised, if it did. -/
  callError : Option String := none
  /-- The result of a request that another part of the node handles. -/
  delegated : GatewayResult := { accepted := true, reason := "" }

namespace PoseNode

def setRecord (node : PoseNode) (id : ℕ) (record : PoseRecord) : PoseNode :=
  { node with records := Function.update node.records id record }

def log (node : PoseNode) (effect : PoseEffect) : PoseNode :=
  { node with trace := effect :: node.trace }

end PoseNode

/-! ## The threads of the executor -/

/-- An operation of a timer tick or of a callback. -/
inductive PoseOp where
  /-- `_expire_initial_pose_confirmation`. -/
  | expire
  | expired (id : ℕ)
  /-- `_fail_initial_pose`. -/
  | fail (id : ℕ) (detail : String) (observed : Option TfPose)
  /-- `_advance_initial_pose_transaction`. -/
  | advance
  | inspect (id change : ℕ)
  | check (id change : ℕ)
  /-- `_publish_initial_pose`. -/
  | publish (id : ℕ) (snapshot : PoseSnapshot)
  | lookup
  /-- `_confirm_initial_pose_from_tf`. -/
  | confirm (pose : TfPose)
  | observe (id : ℕ) (pose : TfPose)
  /-- `_start_initial_pose_clear`. -/
  | startClear (id : ℕ) (pose : TfPose)
  | call (id : ℕ) (costmap : DynamicCostmap)
  /-- `_finish_initial_pose_clear`. -/
  | finish (id : ℕ) (costmap : DynamicCostmap) (error : Option String)
  | verify (id : ℕ) (observed : Option TfPose)
  | complete (id : ℕ) (observed : Option TfPose)
  /-- The update of the cache after a lock was released. -/
  | report (report : PoseReport)
  deriving DecidableEq, Repr

namespace PoseNode

/-- End a transaction that is still the pending one, and owe its outcome. -/
def close (node : PoseNode) (id : ℕ) (state : PoseState) (detail : String)
    (observed : Option TfPose) : PoseNode × List PoseOp :=
  if node.pending ≠ some id then (node, [])
  else
    let outcome : PoseSection :=
      { status := (node.records id).status, state, detail, observed }
    ({ node with pending := none, history := .ended id outcome :: node.history },
      [.report ⟨node.history.length + 1, outcome⟩])

/-- The services that are not available, as the message names them. -/
def unavailable (env : PoseEnv) : List String :=
  ([.globalCostmap, .localCostmap].filter fun costmap => !env.serviceIsReady costmap).map
    DynamicCostmap.name

/-- Run one operation: the next state, and the operations that take its place. -/
def exec (normalizedYaw : ℚ → ℚ) (node : PoseNode) (env : PoseEnv) :
    PoseOp → PoseNode × List PoseOp
  | .expire =>
    match node.pending with
    | none => (node, [])
    | some id => if env.now < (node.records id).deadline then (node, []) else (node, [.expired id])
  | .expired id =>
    (node, [.fail id (node.records id).phase.expiry (node.records id).observed])
  | .fail id detail observed => node.close id .rejected detail observed
  | .advance =>
    match node.pending with
    | none => (node, [])
    | some id => (node, [.inspect id node.history.length])
  | .inspect id change =>
    if (node.records id).phase ≠ .waitingStop then (node, []) else (node, [.check id change])
  | .check id change =>
    match (node.records id).contextChanged env.snapshot with
    | some reason => (node, [.fail id reason none])
    | none =>
      match env.snapshot.initialPoseSafetyRejection with
      | some safety =>
        (node, [.report ⟨change,
          { status := (node.records id).status, state := .stopping, detail := safety }⟩])
      | none =>
        if env.subscribers < 1 then
          (node, [.fail id "slam_toolbox /initialpose subscriber unavailable" none])
        else (node, [.publish id env.snapshot])
  | .publish id snapshot =>
    -- The cache is updated while the lock is held.
    if node.pending ≠ some id ∨ (node.records id).phase ≠ .waitingStop then (node, [])
    else
      ({ (node.setRecord id
          { node.records id with
            phase := .awaitingPose
            deadline := env.now + initialPoseConfirmTimeoutSec }).log (.posed id snapshot) with
          initialPose := some ⟨node.history.length,
            { status := (node.records id).status
              state := .localizing
              detail := "pose published; awaiting slam_toolbox confirmation" }⟩ }, [])
  | .lookup =>
    match env.transform with
    | none => (node, [])
    | some pose => (node, [.confirm pose])
  | .confirm pose =>
    match node.pending with
    | none => (node, [])
    | some id =>
      if (node.records id).phase ≠ .awaitingPose ∨
          (node.records id).agrees normalizedYaw pose = false then (node, [])
      else (node, [.observe id pose])
  | .observe id pose =>
    match (node.records id).obstacle env.snapshot with
    | some reason => (node, [.fail id reason none])
    | none => (node.log (.agreed id pose env.snapshot), [.startClear id pose])
  | .startClear id pose =>
    if unavailable env ≠ [] then
      (node, [.fail id ("Nav2 " ++ " and ".intercalate (unavailable env) ++
        " costmap clear service unavailable after localization confirmation") (some pose)])
    else if node.pending ≠ some id ∨ (node.records id).phase ≠ .awaitingPose then (node, [])
    else
      (node.setRecord id
        { node.records id with
          phase := .clearing
          deadline := env.now + initialPoseClearTimeoutSec
          clearPending := [.globalCostmap, .localCostmap]
          clearErrors := []
          observed := some pose },
        [.report ⟨node.history.length,
            { status := (node.records id).status
              state := .clearing
              detail := "pose confirmed; clearing global and local costmaps"
              observed := some pose }⟩,
          .call id .globalCostmap, .call id .localCostmap])
  | .call id costmap =>
    match env.callError with
    | some error =>
      (node, [.finish id costmap (some (costmap.name ++ " clear failed to start: " ++ error))])
    | none =>
      ({ node.log (.clearRequested id costmap) with
          inFlight := node.inFlight ++ [(id, costmap)] }, [])
  | .finish id costmap error =>
    let record := node.records id
    if node.pending ≠ some id ∨ record.phase ≠ .clearing ∨ costmap ∉ record.clearPending then
      (node, [])
    else
      let record :=
        { record with
          clearPending := record.clearPending.filter (· ≠ costmap)
          clearErrors := record.clearErrors ++ error.toList }
      (node.setRecord id record,
        if record.clearPending ≠ [] then []
        else if record.clearErrors ≠ [] then
          [.fail id ("costmap clear failed: " ++ "; ".intercalate record.clearErrors)
            record.observed]
        else [.verify id record.observed])
  | .verify id observed =>
    match (node.records id).obstacle env.snapshot with
    | some reason =>
      (node, [.fail id ("safety invariant lost before completion: " ++ reason) observed])
    | none => (node, [.complete id observed])
  | .complete id observed =>
    node.close id .applied
      "pose confirmed; global and local costmaps cleared; STOP remains asserted" observed
  | .report report => ({ node with initialPose := some report }, [])

end PoseNode

/-! ## The web thread -/

/-- The next operation of the thread that holds the gateway lock. -/
inductive WebOp where
  /-- `submit`: read whether a transaction is pending. -/
  | guardStop (action : PyValue) (result : GatewayResult)
  | guardMap (action : PyValue) (result : GatewayResult)
  /-- The loop over the intents. -/
  | publish (intents : List Intent) (result : GatewayResult)
  /-- `_set_initial_pose`. -/
  | request (intent : PoseIntent) (role : Role)
  | decide (intent : PoseIntent) (role : Role) (status : PoseStatus) (reason : Option String)
  | report (report : PoseReport) (result : GatewayResult)
  | finish (result : GatewayResult)

/-- `action.get('action') == name`. -/
def actionIs (name : String) : PyValue → Bool
  | .dict action =>
    match PyDict.get? action "action" with
    | some (.str found) => found = name
    | _ => false
  | _ => false

/-- `_autonomy_without_map`. -/
def autonomyWithoutMap (t : PyText) (s : PoseSnapshot) : PyValue → Bool
  | .dict action =>
    actionIs "select_mode" (.dict action) &&
      t.lower (t.strip (PyDict.text t action "mode" "")) = "autonomy" && s.selectedMap = ""
  | _ => false

namespace PoseNode

/-- Run one operation of the web thread: the next state, and its next operation. -/
def webExec (t : PyText) (node : PoseNode) (env : PoseEnv) : WebOp → PoseNode × Option WebOp
  | .guardStop action result =>
    (node, some (.guardMap action (
      if result.accepted && actionIs "clear_stop" action && node.pending.isSome then
        { accepted := false
          reason := "CLEAR STOP blocked during initial pose transaction"
          role := result.role }
      else result)))
  | .guardMap action result =>
    if result.accepted && autonomyWithoutMap t env.snapshot action then
      (node, some (.publish []
        { accepted := false, reason := "select a completed map before AUTONOMY",
          role := result.role }))
    else (node, some (.publish result.intents result))
  | .publish [] result => (node, some (.finish result))
  | .publish (intent :: rest) result =>
    match intent with
    | .initialPose x y yaw frame => (node, some (.request ⟨x, y, yaw, frame⟩ result.role))
    | .clearCostmaps | .obstacleProcessing .. | .autonomyTuning .. | .saveSpeedProfile ..
    | .deleteSpeedProfile .. | .saveSemantics .. => (node, some (.finish env.delegated))
    | .control event => (node.log (.sent event), some (.publish rest result))
    | .modeRequest .. | .mapRequest .. | .configRequest .. | .recordingRequest .. =>
      (node, some (.publish rest result))
  | .request intent role =>
    let reason := match env.snapshot.initialPoseRejection with
      | some reason => some reason
      | none =>
        if env.subscribers < 1 then some "slam_toolbox /initialpose subscriber unavailable"
        else none
    (node, some (.decide intent role (env.snapshot.initialPoseStatus intent) reason))
  | .decide _ role status (some reason) =>
    let outcome : PoseSection := { status, state := .rejected, detail := reason }
    ({ node with pending := none, history := .refused outcome :: node.history },
      some (.report ⟨node.history.length + 1, outcome⟩ { accepted := false, reason, role }))
  | .decide intent role status none =>
    if node.pending.isSome then
      (node, some (.finish
        { accepted := false, reason := "initial pose transaction already in progress", role }))
    else
      let id := node.requestId + 1
      let record : PoseRecord :=
        { deadline := env.now + initialPoseStopTimeoutSec, status, intent }
      ({ node.setRecord id record with
          requestId := id, pending := some id, history := .accepted id record :: node.history },
        some (.report ⟨node.history.length + 1,
            { status, state := .stopping
              detail := "STOP requested; awaiting applied STOP and stationary" }⟩
          { accepted := true, reason := "initial pose accepted; awaiting safe stopped state",
            role }))
  | .report report result => ({ node with initialPose := some report }, some (.finish result))
  | .finish _ => (node, none)

end PoseNode

/-! ## Interleavings -/

/-- The node with the thread that holds the gateway lock, and the threads of the executor. -/
structure PoseSystem where
  gateway : OperatorGateway
  node : PoseNode := {}
  web : Option WebOp := none
  threads : List (List PoseOp) := []

/-- What happens next. -/
inductive PoseInput where
  /-- A web thread takes the gateway lock if it is free, and calls the gateway. -/
  | call (call : GatewayCall)
  /-- The web thread that holds the gateway lock runs its next operation. -/
  | web (env : PoseEnv)
  /-- The pose timer fires. -/
  | tick
  /-- An unanswered costmap clear ends, with an error or without. -/
  | answer (request : ℕ) (error : Option String)
  /-- A thread of the executor runs its next operation. -/
  | run (thread : ℕ) (env : PoseEnv)

namespace PoseSystem

def start (uuidFactory : ℕ → String) : PoseSystem := { gateway := { uuidFactory } }

/-- `submit` and `disconnect`, at the beginning of the region under the gateway lock. An action that
raises gives the lock back. -/
def enter (t : PyText) (s : PoseSystem) (call : GatewayCall) : PoseSystem :=
  match call.outcome t s.gateway with
  | .error _ => s
  | .ok (result, gateway) =>
    match call with
    | .handle _ action => { s with gateway, web := some (.guardStop action result) }
    | .onDisconnect _ => { s with gateway, web := some (.publish result.intents result) }

/-- The callback of a costmap clear begins. -/
def answered (s : PoseSystem) (id : ℕ) (costmap : DynamicCostmap) (error : Option String)
    (inFlight : List (ℕ × DynamicCostmap)) : PoseSystem :=
  let node := { s.node with inFlight }
  match error with
  | none =>
    { s with
      node := node.log (.cleared id costmap)
      threads := s.threads ++ [[.finish id costmap none]] }
  | some error =>
    { s with
      node
      threads := s.threads ++
        [[.finish id costmap (some (costmap.name ++ " clear failed: " ++ error))]] }

def step (t : PyText) (normalizedYaw : ℚ → ℚ) (s : PoseSystem) : PoseInput → PoseSystem
  | .call call => if s.web.isSome then s else s.enter t call
  | .web env =>
    match s.web with
    | none => s
    | some op =>
      { s with node := (s.node.webExec t env op).1, web := (s.node.webExec t env op).2 }
  | .tick => { s with threads := s.threads ++ [[.expire, .advance, .lookup]] }
  | .answer request error =>
    match s.node.inFlight[request]? with
    | none => s
    | some (id, costmap) => s.answered id costmap error (s.node.inFlight.eraseIdx request)
  | .run thread env =>
    { s with
      node := (runThread (PoseNode.exec normalizedYaw) s.node s.threads thread env).1
      threads := (runThread (PoseNode.exec normalizedYaw) s.node s.threads thread env).2 }

end PoseSystem

end PreRunner.Paddock
