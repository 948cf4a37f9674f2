import PreRunner.Paddock.CommandAuthority
import PreRunner.Paddock.ModeRuntime

/-!
# The mode supervisor node

`ModeSupervisorNode` runs the transitions of the mode runtime in one thread, and its evidence
callbacks in another. `ModeRuntime` is a transition as one call; here a transition is a sequence of
steps between which callbacks and other processes may come, and `Point` is where it stands. What
systemd, the graph, the TF buffer and the disk answer, and whether a wait has reached its deadline,
is part of the input, and so are the texts of progress reports and errors. A callback is one step.
-/

namespace PreRunner.Paddock

def scanSlamMaxAgeSec : ℚ := 15 / 10
def scanMaxAgeSec : ℚ := 15 / 10
def mapMaxAgeSec : ℚ := 15

/-- `ModeRequest`. -/
structure ModeRequest where
  requestId : ℤ
  leaseId : String
  requestedMode : ℤ
  autonomyMap : String
  operation : ℤ
  deriving DecidableEq, Repr

/-- Where the running transition stands. -/
inductive Point where
  /-- No transition runs. -/
  | free
  /-- In `_wait_for_quiescence`; `previous` is the state before the request. -/
  | quiescing (previous : RuntimeState)
  /-- In `_stop_all`. -/
  | stopping
  /-- At the validation of the selected map. -/
  | preparing
  /-- Before `systemd.start`. -/
  | starting
  /-- In `_wait_for_readiness`. -/
  | waiting
  /-- Before the last `_fully_ready`. -/
  | confirming
  /-- In the cleanup of `_fail`. -/
  | failing (detail : String)
  /-- Back in `_on_request`. -/
  | returning
  deriving DecidableEq, Repr

def Point.isQuiescing : Point → Bool
  | quiescing _ => true
  | _ => false

/-- The arguments of the running transition, and the session before it. -/
structure TransitionRun where
  requested : Mode := .idle
  autonomyMap : String := ""
  before : String := ""
  deriving DecidableEq, Repr

/-- What a readiness check is told: the answer of `_structural_reason`, and the two transforms. -/
structure ReadinessAnswers where
  structural : Except String String
  odomToBase : Bool
  mapToOdom : Bool

/-- The fields of `ModeSupervisorNode` with its runtime, and the clock. -/
structure ModeSupervisor where
  runtime : RuntimeState
  point : Point := .free
  run : TransitionRun := {}
  leaseActive : Bool := false
  leaseId : String := ""
  scanSlamAt : Option ℚ := none
  scanAt : Option ℚ := none
  mapAt : Option ℚ := none
  sessionStartedAt : Option ℚ := none
  quiescenceStartedAt : Option ℚ := none
  quiescenceRuntimeEpoch : ℕ := 0
  authorityRevokedAt : Option ℚ := none
  encoderAt : Option ℚ := none
  encoderStationary : Bool := false
  now : ℚ := 0

/-- The steps of the node. -/
inductive ModeInput where
  | clock (time : ℚ)
  | lease (active : Bool) (leaseId : String)
  | scanSlam
  | scan
  | map
  | authorityState (message : CommandAuthorityState)
  | encoder (stationary : Bool)
  | refresh (answers : ReadinessAnswers)
  | request (message : ModeRequest)
  /-- The transition publishes a new detail. -/
  | progress (detail : String)
  /-- One iteration of the wait for quiescence or for readiness. -/
  | check (answers : ReadinessAnswers)
  /-- The wait has reached its deadline. -/
  | expire (text : String) (answers : ReadinessAnswers)
  /-- `_stop_all`, the preparation of the unit or `systemd.start` ends. -/
  | done (result : Except String Unit)
  | confirm (answers : ReadinessAnswers) (token : String)
  | cleaned (suffix : String)
  | finish

/-- The callback of the authority states. -/
def ModeInput.isAuthorityState : ModeInput → Bool
  | authorityState _ => true
  | _ => false

/-- `int(mode)`. -/
def Mode.value : Mode → Int
  | idle => 0
  | mapping => 1
  | autonomy => 2

/-- `int(lifecycle)`. -/
def Lifecycle.value : Lifecycle → Int
  | stable => 0
  | transitioning => 1
  | fault => 2

/-- The message of `_publish`. -/
def RuntimeState.message (state : RuntimeState) : ModeState :=
  { mode := state.mode.value
    status := state.lifecycle.value
    activeAutonomyMap := state.activeAutonomyMap
    runtimeEpoch := state.runtimeEpoch
    ready := state.ready }

@[simp] theorem modeOf_value (mode : Mode) : CommandAuthority.modeOf mode.value = some mode := by
  cases mode <;> rfl

namespace ModeSupervisor

/-! ## Evidence -/

/-- Arm the barrier of a NEW MAP. -/
def beginQuiescence (node : ModeSupervisor) : ModeSupervisor :=
  { node with
    quiescenceStartedAt := some node.now
    quiescenceRuntimeEpoch := node.runtime.runtimeEpoch
    authorityRevokedAt := none
    sessionStartedAt := some node.now
    scanSlamAt := none
    mapAt := none }

/-- Whether an authority state counts as the revocation of motion. -/
def revokes (node : ModeSupervisor) (message : CommandAuthorityState) : Bool :=
  (node.quiescenceStartedAt.any fun started => started ≤ node.now) &&
    message.runtimeEpoch = node.quiescenceRuntimeEpoch && message.brakeIntent &&
    message.authority ≠ .paddockManual

def onAuthorityState (node : ModeSupervisor) (message : CommandAuthorityState) : ModeSupervisor :=
  if node.revokes message then { node with authorityRevokedAt := some node.now } else node

/-- `_quiescence_ready`. -/
def quiescenceReady (node : ModeSupervisor) : Bool × String :=
  match node.authorityRevokedAt with
  | none => (false, "revoking browser/manual motion")
  | some revokedAt =>
    if node.encoderAt.all fun encoderAt => encoderAt ≤ revokedAt then
      (false, "waiting for post-revocation encoder evidence")
    else if !node.encoderStationary then (false, "braking; encoder still reports motion")
    else (true, "")

/-- `fresh` of `_capability_ready`. -/
def fresh (now : ℚ) (at? : Option ℚ) (bound : ℚ) : Bool := at?.any fun t => now - t ≤ bound

/-- `_capability_ready`. -/
def capabilityReady (node : ModeSupervisor) (mode : Mode) (answers : ReadinessAnswers) :
    Bool × String :=
  if !answers.odomToBase then (false, "odom->base_link TF unavailable")
  else if !answers.mapToOdom then (false, "map->odom TF unavailable (SLAM not localized)")
  else if mode = .mapping then
    if !fresh node.now node.scanSlamAt scanSlamMaxAgeSec then
      (false, "/scan_slam is stale or missing")
    else if !fresh node.now node.mapAt mapMaxAgeSec then (false, "/map has no recent update")
    else if node.sessionStartedAt.any fun started => node.mapAt.all (· < started) then
      (false, "no current-session map evidence yet")
    else (true, "")
  else if !fresh node.now node.scanAt scanMaxAgeSec then (false, "/scan is stale or missing")
  else if node.mapAt.isNone then (false, "/map not published by map_server")
  else (true, "")

/-- `_fully_ready`. -/
def fullyReady (node : ModeSupervisor) (mode : Mode) (answers : ReadinessAnswers) :
    Except String (Bool × String) :=
  answers.structural.map fun reason =>
    if reason ≠ "" then (false, reason)
    else
      let (ok, capabilityReason) := node.capabilityReady mode answers
      (ok, if ok then "" else if capabilityReason ≠ "" then capabilityReason
        else "capability not ready")

/-! ## Transitions -/

/-- `_set`: change the state and publish it. -/
def set (node : ModeSupervisor) (runtime : RuntimeState) : ModeSupervisor × List RuntimeState :=
  ({ node with runtime }, [runtime])

/-- The part of `transition` from the acceptance to its first wait. -/
def execute (node : ModeSupervisor) (requested : Mode) (requestId : ℤ) (autonomyMap : String)
    (newMap : Bool) : ModeSupervisor × List RuntimeState :=
  let previous := node.runtime
  let detail :=
    if newMap then "starting fresh mapping session" else "transitioning to " ++ requested.name
  let node := if newMap then node.beginQuiescence else node
  { node with
    point := if newMap then .quiescing previous else .stopping
    run := { requested, autonomyMap, before := previous.mappingSessionId } }.set
      { previous with
        lifecycle := .transitioning
        acceptedRequestId := requestId
        detail
        ready := false
        readinessReason := detail
        mappingSessionId := "" }

/-- The beginning of `transition`. -/
def transition (node : ModeSupervisor) (requested : Mode) (requestId : ℤ) (autonomyMap : String)
    (operation : ℤ) : ModeSupervisor × List RuntimeState :=
  let current := node.runtime
  let newMap := operation = opNewMap && requested = .mapping
  let sameSelection := requested ≠ .autonomy || autonomyMap = current.activeAutonomyMap
  if requestId ≤ current.acceptedRequestId then (node, [])
  else if requested = .autonomy ∧ autonomyMap = "" then
    node.set { current with
      acceptedRequestId := requestId
      detail := "AUTONOMY needs a selected map" }
  else if newMap && !ModeRuntime.newMapPossible current then
    node.set { current with
      acceptedRequestId := requestId
      detail := "NEW MAP rejected: requires an active stable MAPPING session" }
  else if !newMap && current.lifecycle = .stable && requested = current.mode && sameSelection then
    node.set { current with acceptedRequestId := requestId }
  else node.execute requested requestId autonomyMap newMap

/-- `_on_request`, once it holds the lock. -/
def onRequest (node : ModeSupervisor) (message : ModeRequest) :
    ModeSupervisor × List RuntimeState :=
  if !node.leaseActive ∨ message.leaseId ≠ node.leaseId then (node, [])
  else
    match CommandAuthority.modeOf message.requestedMode with
    | none => (node, [])
    | some requested =>
      if message.operation = opNewMap ∧ requested ≠ .mapping then (node, [])
      else node.transition requested message.requestId message.autonomyMap message.operation

/-- The refusal of a NEW MAP whose barrier has timed out. An error of systemd escapes. -/
def refuse (node : ModeSupervisor) (previous : RuntimeState) (text : String)
    (answers : ReadinessAnswers) : ModeSupervisor × List RuntimeState :=
  match node.fullyReady .mapping answers with
  | .error _ => ({ node with point := .free }, [])
  | .ok (ok, reason) =>
    { node with point := .returning }.set { node.runtime with
      mode := previous.mode
      lifecycle := .stable
      detail := "NEW MAP rejected: " ++ text
      runtimeEpoch := previous.runtimeEpoch
      mappingSessionId := previous.mappingSessionId
      ready := ok
      readinessReason := reason }

/-- The transition fails and cleans up. -/
def fail (node : ModeSupervisor) (error : String) : ModeSupervisor × List RuntimeState :=
  ({ node with
    point := .failing (node.run.requested.name ++ " transition failed: " ++ error) }, [])

/-- After `_stop_all`. -/
def stopped (node : ModeSupervisor) : ModeSupervisor × List RuntimeState :=
  match node.run.requested with
  | .idle => { node with point := .returning }.set node.runtime.idled
  | .autonomy => ({ node with point := .preparing }, [])
  | .mapping => ({ node with point := .starting }, [])

/-- One iteration of a wait. -/
def onCheck (node : ModeSupervisor) (answers : ReadinessAnswers) :
    ModeSupervisor × List RuntimeState :=
  match node.point with
  | .quiescing _ =>
    if node.quiescenceReady.1 then ({ node with point := .stopping }, []) else (node, [])
  | .waiting =>
    match node.fullyReady node.run.requested answers with
    | .error text => node.fail text
    | .ok (ok, _) => if ok then ({ node with point := .confirming }, []) else (node, [])
  | _ => (node, [])

def onExpire (node : ModeSupervisor) (text : String) (answers : ReadinessAnswers) :
    ModeSupervisor × List RuntimeState :=
  match node.point with
  | .quiescing previous => node.refuse previous text answers
  | .waiting => node.fail text
  | _ => (node, [])

def onDone (node : ModeSupervisor) (result : Except String Unit) :
    ModeSupervisor × List RuntimeState :=
  match node.point, result with
  | .stopping, .ok _ => node.stopped
  | .preparing, .ok _ => ({ node with point := .starting }, [])
  | .starting, .ok _ => ({ node with point := .waiting }, [])
  | .stopping, .error text | .preparing, .error text | .starting, .error text => node.fail text
  | _, _ => (node, [])

/-- The new runtime is published. -/
def onConfirm (node : ModeSupervisor) (answers : ReadinessAnswers) (token : String) :
    ModeSupervisor × List RuntimeState :=
  if node.point = .confirming then
    match node.fullyReady node.run.requested answers with
    | .error text => node.fail text
    | .ok (ok, reason) =>
      let epoch := node.runtime.runtimeEpoch + 1
      { node with point := .returning }.set { node.runtime with
        mode := node.run.requested
        lifecycle := .stable
        detail := ""
        runtimeEpoch := epoch
        mappingSessionId :=
          if node.run.requested = Mode.mapping then toString epoch ++ "-" ++ token else ""
        ready := ok
        readinessReason := reason
        activeAutonomyMap :=
          if node.run.requested = Mode.autonomy then node.run.autonomyMap
          else node.runtime.activeAutonomyMap }
  else (node, [])

def onCleaned (node : ModeSupervisor) (suffix : String) : ModeSupervisor × List RuntimeState :=
  match node.point with
  | .failing detail =>
    { node with point := .returning }.set (node.runtime.faulted (detail ++ suffix) detail)
  | _ => (node, [])

/-- The end of `_on_request`: a new mapping session starts now. -/
def onFinish (node : ModeSupervisor) : ModeSupervisor :=
  if node.point = .returning then
    { node with
      point := .free
      sessionStartedAt :=
        if node.runtime.mode = .mapping ∧ node.runtime.mappingSessionId ≠ node.run.before then
          some node.now
        else node.sessionStartedAt }
  else node

/-- `_transition_progress`, from inside a wait or between two calls. -/
def onProgress (node : ModeSupervisor) (detail : String) : ModeSupervisor × List RuntimeState :=
  match node.point with
  | .quiescing _ | .stopping | .preparing | .starting | .waiting =>
    if detail ≠ node.runtime.detail then
      node.set { node.runtime with detail, readinessReason := detail }
    else (node, [])
  | _ => (node, [])

/-- `refresh` of the runtime, while no transition runs. -/
def refreshed (node : ModeSupervisor) (answers : ReadinessAnswers) :
    Except String (ModeSupervisor × List RuntimeState) :=
  let current := node.runtime
  if current.lifecycle ≠ .stable then
    .ok (if current.ready then node.set { current with ready := false } else (node, []))
  else if current.mode = .idle then
    .ok (if !current.ready ∨ current.readinessReason ≠ "" then
      node.set { current with ready := true, readinessReason := "" } else (node, []))
  else
    (node.fullyReady current.mode answers).map fun (ok, reason) =>
      if ok ≠ current.ready ∨ reason ≠ current.readinessReason then
        node.set { current with ready := ok, readinessReason := reason }
      else (node, [])

/-- `_on_refresh_timer`: the state is published again at every tick. -/
def onRefresh (node : ModeSupervisor) (answers : ReadinessAnswers) :
    ModeSupervisor × List RuntimeState :=
  if node.point = .free then
    match node.refreshed answers with
    | .error _ => (node, [])
    | .ok (node, published) => (node, published ++ [node.runtime])
  else (node, [])

/-- One step, and the states it publishes. -/
def step (node : ModeSupervisor) : ModeInput → ModeSupervisor × List RuntimeState
  | .clock time => ({ node with now := max node.now time }, [])
  | .lease active leaseId =>
    ({ node with leaseActive := active, leaseId := if active then leaseId else "" }, [])
  | .scanSlam => ({ node with scanSlamAt := some node.now }, [])
  | .scan => ({ node with scanAt := some node.now }, [])
  | .map => ({ node with mapAt := some node.now }, [])
  | .authorityState message => (node.onAuthorityState message, [])
  | .encoder stationary =>
    ({ node with encoderAt := some node.now, encoderStationary := stationary }, [])
  | .refresh answers => node.onRefresh answers
  | .request message => if node.point = .free then node.onRequest message else (node, [])
  | .progress detail => node.onProgress detail
  | .check answers => node.onCheck answers
  | .expire text answers => node.onExpire text answers
  | .done result => node.onDone result
  | .confirm answers token => node.onConfirm answers token
  | .cleaned suffix => node.onCleaned suffix
  | .finish => (node.onFinish, [])

/-- The node after its constructor; `runtime` is what `reconcile` has found. -/
def start (runtime : RuntimeState) (now : ℚ) : ModeSupervisor :=
  { runtime, now, sessionStartedAt := if runtime.mode = .mapping then some now else none }

end ModeSupervisor

end PreRunner.Paddock
