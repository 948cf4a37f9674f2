import PreRunner.Interfaces
import PreRunner.Paddock.NavigationSync
import PreRunner.Paddock.StopEnforcer

/-!
# The command authority node

`CommandAuthorityNode` connects the supervisor to its topics: each callback makes one supervisor
call, or two, and `_apply` turns every result into messages. An output gate forwards each
permitted sample once and brakes for a bounded window when a forwarding source is revoked. What a
callback reads from its surroundings (clock readings, a drawn identifier) is part of its input.
-/

namespace PreRunner.Paddock

open Bringup

def statusHeartbeatPeriodSec : ℚ := 2 / 10
def defaultStopStateTimeoutSec : ℚ := 150 / 1000
def defaultNavigationStateTimeoutSec : ℚ := 1
def stopRequestRetrySec : ℚ := 5 / 100

/-! ## Messages -/

def fromTwist (message : Twist) : VelocityCommand :=
  { linearX := message.linearX
    linearY := message.linearY
    linearZ := message.linearZ
    angularX := message.angularX
    angularY := message.angularY
    angularZ := message.angularZ }

def toTwist (command : VelocityCommand) : Twist :=
  { linearX := command.linearX
    linearY := command.linearY
    linearZ := command.linearZ
    angularX := command.angularX
    angularY := command.angularY
    angularZ := command.angularZ }

@[simp] theorem toTwist_fromTwist (message : Twist) : toTwist (fromTwist message) = message := rfl

/-- `LocalControlState`, as far as the authority reads it. -/
structure LocalControlState where
  processEpoch : String
  takeoverEpoch : Int
  active : Bool
  deriving DecidableEq, Repr

/-- `ConfigRequest`. -/
structure ConfigRequest where
  requestId : Int
  leaseId : String
  expectedRevision : Int
  field : String
  value : PyFloat
  deriving DecidableEq, Repr

/-- `ConfigState`; its field is always the manual speed ceiling. -/
structure ConfigState where
  requestId : Int
  revision : Int
  requestedValue : PyFloat
  appliedValue : ℚ
  accepted : Bool
  reason : String
  deriving DecidableEq, Repr

/-- `CommandAuthorityState` without its stamp; an age of `-1` is none. -/
structure CommandAuthorityState where
  runtimeEpoch : Int
  authority : Authority
  clientId : String
  leaseId : String
  dualsenseActive : Bool
  runHeld : Bool
  autonomyPermitted : Bool
  autonomyGoalSelected : Bool
  goalFrame : String
  goalMap : String
  goalX : PyFloat
  goalY : PyFloat
  goalYaw : PyFloat
  autonomyActionActive : Bool
  brakeIntent : Bool
  leaseFresh : Bool
  leaseAgeSec : ℚ
  rawAutonomyFresh : Bool
  rawAutonomyAgeSec : ℚ
  manualInputFresh : Bool
  manualInputAgeSec : ℚ
  manualAppliedSpeedMps : ℚ
  manualAppliedSteering : ℚ
  lastControlSequence : Int
  reason : Reason
  stopStateFresh : Bool
  stopHealthy : Bool
  stopApplied : Bool
  stopClear : Bool
  stopBootId : String
  stopGeneration : Nat
  stopReason : String
  deriving DecidableEq, Repr

/-- `PaddockControlLease` without its stamp. -/
structure PaddockControlLease where
  active : Bool
  clientId : String
  leaseId : String
  generation : Nat
  deriving DecidableEq, Repr

/-- `_status_key`: the status content without the ages. -/
def statusKey (authority : CommandAuthorityState) (lease : PaddockControlLease) :
    CommandAuthorityState × PaddockControlLease :=
  ({ authority with leaseAgeSec := 0, rawAutonomyAgeSec := 0, manualInputAgeSec := 0 }, lease)

/-- What the node publishes. -/
inductive AuthorityOutput where
  | manualDemand (message : ManualDemandMessage)
  | autonomy (command : Twist)
  | manual (command : Twist)
  | navigation (message : NavigationRequest)
  | status (authority : CommandAuthorityState) (lease : PaddockControlLease)
  | config (message : ConfigState)
  | stop (message : StopRequest)
  deriving DecidableEq, Repr

/-! ## The output gate -/

/-- `_AutonomyOutputGate`: one sample is forwarded once, and a revoke edge brakes. -/
structure AutonomyOutputGate where
  brakeWindowSec : ℚ
  wasForwarding : Bool := false
  brakeDeadline : Option ℚ := none
  deriving DecidableEq, Repr

namespace AutonomyOutputGate

/-- One sample to publish, or none when the output must be silent. -/
def update (gate : AutonomyOutputGate) (now : ℚ) (permitted : Bool)
    (command : Option VelocityCommand) : AutonomyOutputGate × Option VelocityCommand :=
  match permitted, command with
  | true, some command =>
    ({ gate with wasForwarding := true, brakeDeadline := none }, some command)
  -- a supervision tick between two samples is not a revoke
  | true, none => ({ gate with brakeDeadline := none }, none)
  | false, _ =>
    let gate :=
      if gate.wasForwarding then
        { gate with wasForwarding := false, brakeDeadline := some (now + gate.brakeWindowSec) }
      else gate
    match gate.brakeDeadline with
    | none => (gate, none)
    | some deadline =>
      if now ≤ deadline then (gate, some {}) else ({ gate with brakeDeadline := none }, none)

end AutonomyOutputGate

/-! ## The node -/

/-- The fields of `CommandAuthorityNode`. -/
structure CommandAuthority where
  supervisor : CommandSupervisor
  localControlTimeout : ℚ
  requesterId : String
  configRevision : Int := 0
  configRequestId : Int := 0
  configRequestedValue : PyFloat
  configAccepted : Bool := true
  configReason : String := "DEFAULT"
  lastLocalControlAt : Option ℚ := none
  localControlIdentity : Option (String × Int) := none
  dualsenseActive : Bool := false
  stopRequestId : Nat := 0
  pendingStopRequest : Option StopRequest := none
  lastStopRequestAt : Option ℚ := none
  stopState : Option StopState := none
  stopStateAt : Option ℚ := none
  runtimeEpoch : Int := 0
  sync : NavigationSync := {}
  navActionActive : Bool := false
  navStateAt : Option ℚ := none
  lastStatusPublishAt : Option ℚ := none
  lastStatusKey : Option (CommandAuthorityState × PaddockControlLease) := none
  autoOutputGate : AutonomyOutputGate
  manualOutputGate : AutonomyOutputGate
  manualDemandAsserted : Bool := false

/-- What `_apply` reads: its clock, that of `_publish_state`, and the mission id it would draw. -/
structure ApplyInput where
  now : ℚ
  stateNow : ℚ
  missionId : Uuid
  deriving DecidableEq, Repr

namespace CommandAuthority

/-- A reading that is present and not older than a bound. -/
def isWithin (time : Option ℚ) (now bound : ℚ) : Bool :=
  match time with
  | none => false
  | some time => now - time ≤ bound

def stopIsFresh (node : CommandAuthority) (now : ℚ) : Bool :=
  node.stopState.isSome && isWithin node.stopStateAt now defaultStopStateTimeoutSec

def stopClear (node : CommandAuthority) (now : ℚ) : Bool :=
  node.stopIsFresh now &&
    node.stopState.any fun stop => stop.healthy && !stop.stopped && !stop.locked

def navigationStateFresh (node : CommandAuthority) (now : ℚ) : Bool :=
  isWithin node.navStateAt now defaultNavigationStateTimeoutSec

/-! ## Applying a result -/

/-- The message of a demand, bound to the lease and the runtime of its moment. -/
def demandMessage (node : CommandAuthority) (snapshot : SupervisorSnapshot)
    (demand : ManualDemand) : ManualDemandMessage :=
  { active := true
    provenance := ⟨demand.sequence, snapshot.state.leaseGeneration, node.runtimeEpoch⟩
    signedSpeedMps := .finite demand.signedSpeedMps
    steeringNormalized := .finite demand.steeringNormalized }

/-- The message that revokes the manual source. -/
def revokeMessage (node : CommandAuthority) (snapshot : SupervisorSnapshot) :
    ManualDemandMessage :=
  { active := false
    provenance := ⟨0, snapshot.state.leaseGeneration, node.runtimeEpoch⟩
    signedSpeedMps := .finite 0
    steeringNormalized := .finite 0 }

/-- The first part of `_apply`: the manual demand or its revocation. -/
def applyDemand (node : CommandAuthority) (result : SupervisorResult) :
    CommandAuthority × List AuthorityOutput :=
  match result.manualDemand with
  | some demand =>
    ({ node with manualDemandAsserted := true },
      [.manualDemand (node.demandMessage result.snapshot demand)])
  | none =>
    if node.manualDemandAsserted ∧ result.snapshot.state.manualActive = false then
      ({ node with manualDemandAsserted := false },
        [.manualDemand (node.revokeMessage result.snapshot)])
    else (node, [])

/-- Autonomous output needs a real Nav2 action that is executing. -/
def autonomyPermitted (node : CommandAuthority) (result : SupervisorResult) (now : ℚ) : Bool :=
  !result.snapshot.brakeIntent && node.stopClear now &&
    (node.navActionActive && node.navigationStateFresh now)

def manualPermitted (node : CommandAuthority) (result : SupervisorResult) (now : ℚ) : Bool :=
  node.stopClear now && result.snapshot.state.authority = .paddockManual &&
    result.snapshot.manualInputFresh

/-- The autonomy output of `_apply`. -/
def applyAutonomy (node : CommandAuthority) (result : SupervisorResult) (now : ℚ) :
    CommandAuthority × List AuthorityOutput :=
  let (gate, output) :=
    node.autoOutputGate.update now (node.autonomyPermitted result now) result.autonomyCommand
  ({ node with autoOutputGate := gate }, (output.map fun c => .autonomy (toTwist c)).toList)

/-- The manual output of `_apply`. -/
def applyManual (node : CommandAuthority) (result : SupervisorResult) (now : ℚ) :
    CommandAuthority × List AuthorityOutput :=
  let (gate, output) :=
    node.manualOutputGate.update now (node.manualPermitted result now) result.manualCommand
  ({ node with manualOutputGate := gate }, (output.map fun c => .manual (toTwist c)).toList)

/-- `_authority_message`. -/
def authorityMessage (node : CommandAuthority) (snapshot : SupervisorSnapshot) (now : ℚ) :
    CommandAuthorityState :=
  let state := snapshot.state
  let stop? := if node.stopIsFresh now then node.stopState else none
  { runtimeEpoch := node.runtimeEpoch
    authority := state.authority
    clientId := state.leaseClientId
    leaseId := state.leaseId
    dualsenseActive := state.dualsenseActive
    runHeld := state.runHeld
    autonomyPermitted := state.autonomyPermitted
    autonomyGoalSelected := state.goal.isSome
    goalFrame := if state.goal.isSome then "map" else ""
    goalMap := (state.goal.map GoalIntent.mapName).getD ""
    goalX := (state.goal.map GoalIntent.x).getD (.finite 0)
    goalY := (state.goal.map GoalIntent.y).getD (.finite 0)
    goalYaw := (state.goal.map GoalIntent.yaw).getD (.finite 0)
    autonomyActionActive := node.navigationStateFresh now && node.navActionActive
    brakeIntent := snapshot.brakeIntent
    leaseFresh := snapshot.leaseFresh
    leaseAgeSec := snapshot.leaseAgeSec.getD (-1)
    rawAutonomyFresh := snapshot.rawAutonomyFresh
    rawAutonomyAgeSec := snapshot.rawAutonomyAgeSec.getD (-1)
    manualInputFresh := snapshot.manualInputFresh
    manualInputAgeSec := snapshot.manualInputAgeSec.getD (-1)
    manualAppliedSpeedMps := snapshot.manualAppliedSpeedMps
    manualAppliedSteering := snapshot.manualAppliedSteering
    lastControlSequence := snapshot.lastControlSequence.getD 0
    reason := snapshot.reason
    stopStateFresh := stop?.isSome
    stopHealthy := stop?.any fun stop => stop.healthy
    stopApplied := stop?.any fun stop => stop.applied
    stopClear := stop?.any fun stop => stop.healthy && !stop.stopped && !stop.locked
    stopBootId := (stop?.map StopState.bootId).getD ""
    stopGeneration := (stop?.map StopState.generation).getD 0
    stopReason := (stop?.map StopState.reason).getD "STOP_STATE_STALE" }

def leaseMessage (state : PaddockState) : PaddockControlLease :=
  { active := state.leaseActive
    clientId := state.leaseClientId
    leaseId := state.leaseId
    generation := state.leaseGeneration }

/-- `_publish_state`: the status is published when it changed, and otherwise as a heartbeat. -/
def publishState (node : CommandAuthority) (result : SupervisorResult) (now : ℚ) :
    CommandAuthority × List AuthorityOutput :=
  let authority := node.authorityMessage result.snapshot now
  let lease := leaseMessage result.snapshot.state
  let due := node.lastStatusPublishAt.all fun time => statusHeartbeatPeriodSec ≤ now - time
  if node.lastStatusKey = some (statusKey authority lease) ∧ !due then (node, [])
  else
    ({ node with
        lastStatusKey := some (statusKey authority lease)
        lastStatusPublishAt := some now },
      [.status authority lease])

/-- `_sync_navigation` on the snapshot of a result. -/
def applyNavigation (lib : NavLibrary) (node : CommandAuthority) (result : SupervisorResult)
    (missionId : Uuid) : CommandAuthority × List AuthorityOutput :=
  let (sync, requests) :=
    node.sync.syncNavigation lib node.runtimeEpoch result.snapshot.state missionId
  ({ node with sync }, requests.map .navigation)

/-- `_apply`. -/
def apply (lib : NavLibrary) (node : CommandAuthority) (result : SupervisorResult)
    (input : ApplyInput) : CommandAuthority × List AuthorityOutput :=
  let (node, demand) := node.applyDemand result
  let (node, autonomy) := node.applyAutonomy result input.now
  let (node, manual) := node.applyManual result input.now
  let (node, navigation) := node.applyNavigation lib result input.missionId
  let (node, status) := node.publishState result input.stateNow
  (node, demand ++ autonomy ++ manual ++ navigation ++ status)

/-- A supervisor call and `_apply` on its result. -/
def supervise (lib : NavLibrary) (node : CommandAuthority) (call : Call) (now : ℚ)
    (input : ApplyInput) : CommandAuthority × List AuthorityOutput :=
  match node.supervisor.perform ⟨call, now⟩ with
  | (supervisor, some result) => { node with supervisor }.apply lib result input
  | (supervisor, none) => ({ node with supervisor }, [])

/-! ## Callbacks -/

/-- The constructor after its parameters were read and checked. -/
def start (lib : NavLibrary) (supervisor : CommandSupervisor) (localControlTimeout : ℚ)
    (autoBrakeWindow : ℚ) (requesterId : String) (now : ℚ) (input : ApplyInput) :
    CommandAuthority × List AuthorityOutput :=
  supervise lib
    { supervisor, localControlTimeout, requesterId
      configRequestedValue := .finite supervisor.manualMaxSpeedMps
      autoOutputGate := { brakeWindowSec := autoBrakeWindow }
      manualOutputGate := { brakeWindowSec := autoBrakeWindow } }
    .restart now input

/-- `_publish_config_state`. -/
def configState (node : CommandAuthority) : ConfigState :=
  { requestId := node.configRequestId
    revision := node.configRevision
    requestedValue := node.configRequestedValue
    appliedValue := node.supervisor.manualMaxSpeedMps
    accepted := node.configAccepted
    reason := node.configReason }

/-- Authorize and apply the one supported operational setting. -/
def onConfigRequest (node : CommandAuthority) (message : ConfigRequest) :
    CommandAuthority × List AuthorityOutput :=
  let state := node.supervisor.state
  let answered (reason : String) : CommandAuthority :=
    { node with
      configRequestId := message.requestId
      configRequestedValue :=
        if message.value.isfinite then message.value
        else .finite node.supervisor.manualMaxSpeedMps
      configAccepted := false
      configReason := reason }
  let next :=
    if state.leaseActive = false ∨ message.leaseId ≠ state.leaseId then
      answered "LEASE_NOT_OWNED"
    else if message.expectedRevision ≠ node.configRevision then answered "STALE_REVISION"
    else if message.field ≠ "manual_max_speed_mps" then answered "UNKNOWN_FIELD"
    else
      match node.supervisor.setManualMaxSpeedMps message.value with
      | none => answered "manual_max_speed_mps must be 0 or within [0.25, 0.40]"
      | some supervisor =>
        { answered "APPLIED" with
          supervisor
          configRevision := node.configRevision + 1
          configAccepted := true }
  (next, [.config next.configState])

/-- `_request_stop` and the first publication of its request. -/
def requestStop (node : CommandAuthority) (stopped : Bool) (now : ℚ) :
    CommandAuthority × List AuthorityOutput :=
  let request : StopRequest :=
    { requesterId := node.requesterId
      requestId := node.stopRequestId + 1
      stopped
      expectedBootId := if stopped then "" else (node.stopState.map StopState.bootId).getD ""
      expectedGeneration :=
        if stopped then 0 else (node.stopState.map StopState.generation).getD 0 }
  ({ node with
      stopRequestId := node.stopRequestId + 1
      pendingStopRequest := some request
      lastStopRequestAt := some now },
    [.stop request])

/-- Whether an accepted control event is passed on to the STOP executor. -/
def stopIntent (node : CommandAuthority) (event : ControlEvent) (accepted : Bool) (now : ℚ) :
    Option Bool :=
  if !accepted then none
  else if event = .stop then some true
  else if event = .clearStop ∧ node.stopIsFresh now ∧
      node.stopState.any (fun stop => stop.healthy && stop.stopped && stop.applied) then
    some false
  else none

/-- `_on_control_event` of a known event. `freshNow` and `requestNow` are the readings of the STOP
branch. -/
def onControlEvent (lib : NavLibrary) (node : CommandAuthority) (message : ControlMessage)
    (now freshNow requestNow : ℚ) (input : ApplyInput) :
    CommandAuthority × List AuthorityOutput :=
  let (supervisor, result) := node.supervisor.handleControlEvent message now
  let node := { node with supervisor }
  let (node, requests) := match node.stopIntent message.event result.accepted freshNow with
    | some stopped => node.requestStop stopped requestNow
    | none => (node, [])
  let (node, outputs) := node.apply lib result input
  (node, requests ++ outputs)

/-- Validate the provenance of a converted manual sample before supervising it. -/
def onRawManual (lib : NavLibrary) (node : CommandAuthority) (message : ConvertedCommand)
    (now : ℚ) (input : ApplyInput) : CommandAuthority × List AuthorityOutput :=
  if message.source ≠ ConvertedCommand.sourcePaddockManual ∨
      message.provenance.runtimeEpoch ≠ node.runtimeEpoch ∨
      message.provenance.leaseGeneration ≠ node.supervisor.state.leaseGeneration then
    (node, [])
  else
    node.supervise lib (.receiveRawManual (fromTwist message.command) message.provenance.sequence)
      now input

/-- `_on_stop_state`: the pending request ends when it is answered. -/
def onStopState (node : CommandAuthority) (message : StopState) (now : ℚ) : CommandAuthority :=
  let node := { node with stopState := some message, stopStateAt := some now }
  match node.pendingStopRequest with
  | none => node
  | some request =>
    if message.lastRequesterId ≠ request.requesterId ∨
        message.lastRequestId ≠ request.requestId then node
    else if !message.lastRequestAccepted then { node with pendingStopRequest := none }
    else if request.stopped ∧ message.applied then { node with pendingStopRequest := none }
    else if !request.stopped ∧ message.healthy ∧ !message.stopped ∧ !message.locked then
      { node with pendingStopRequest := none }
    else node

/-- `Mode(message.mode)`. -/
def modeOf (value : Int) : Option Mode :=
  if value = 0 then some .idle
  else if value = 1 then some .mapping
  else if value = 2 then some .autonomy
  else none

/-- `_on_mode`: a runtime that is stable but not ready is not eligible. -/
def onMode (lib : NavLibrary) (node : CommandAuthority) (message : ModeState) (now : ℚ)
    (input : ApplyInput) : CommandAuthority × List AuthorityOutput :=
  match modeOf message.mode with
  | none => (node, [])
  | some mode =>
    { node with runtimeEpoch := message.runtimeEpoch }.supervise lib
      (.setRuntimeMode mode message.activeAutonomyMap
        (message.status = ModeState.statusStable && message.ready)) now input

/-- `_on_local_control`: an epoch edge revokes remote grants even when it is already over. -/
def onLocalControl (lib : NavLibrary) (node : CommandAuthority) (message : LocalControlState)
    (now : ℚ) (edgeInput input : ApplyInput) : CommandAuthority × List AuthorityOutput :=
  let identity := (message.processEpoch, message.takeoverEpoch)
  let node := { node with lastLocalControlAt := some now }
  let (node, edge) :=
    if node.localControlIdentity = some identity then (node, [])
    else
      let node := { node with localControlIdentity := some identity }
      if node.dualsenseActive then (node, [])
      else
        { node with dualsenseActive := true }.supervise lib (.setDualsenseActive true) now edgeInput
  if message.active = node.dualsenseActive then (node, edge)
  else
    let (node, outputs) :=
      { node with dualsenseActive := message.active }.supervise lib
        (.setDualsenseActive message.active) now input
    (node, edge ++ outputs)

/-- The first part of `_on_supervision_timer`: repeat a pending STOP request. -/
def repeatStopRequest (node : CommandAuthority) (now : ℚ) :
    CommandAuthority × List AuthorityOutput :=
  match node.pendingStopRequest with
  | none => (node, [])
  | some request =>
    if node.lastStopRequestAt.all fun time => stopRequestRetrySec ≤ now - time then
      ({ node with lastStopRequestAt := some now }, [.stop request])
    else (node, [])

/-- Missing local status closes remote grants. -/
def watchLocalControl (lib : NavLibrary) (node : CommandAuthority) (now : ℚ)
    (input : ApplyInput) : CommandAuthority × List AuthorityOutput :=
  if !node.dualsenseActive ∧
      (node.lastLocalControlAt.all fun time => node.localControlTimeout < now - time) then
    { node with dualsenseActive := true }.supervise lib (.setDualsenseActive true) now input
  else (node, [])

/-- `_on_supervision_timer`. -/
def onSupervisionTimer (lib : NavLibrary) (node : CommandAuthority) (now : ℚ)
    (watchInput input : ApplyInput) : CommandAuthority × List AuthorityOutput :=
  let (node, requests) := node.repeatStopRequest now
  let (node, watched) := node.watchLocalControl lib now watchInput
  let (node, outputs) := node.supervise lib .tick now input
  (node, requests ++ watched ++ outputs)

/-- `_on_navigation_state`; the state `2` is ACTIVE. -/
def onNavigationState (node : CommandAuthority) (state : Int) (now : ℚ) : CommandAuthority :=
  { node with navStateAt := some now, navActionActive := state = 2 }

end CommandAuthority

/-- The callbacks of the node with what they read. -/
inductive AuthorityEvent where
  | rawAutonomy (message : Twist) (now : ℚ) (input : ApplyInput)
  | configRequest (message : ConfigRequest)
  | controlEvent (message : ControlMessage) (now freshNow requestNow : ℚ) (input : ApplyInput)
  | rawManual (message : ConvertedCommand) (now : ℚ) (input : ApplyInput)
  | stopState (message : StopState) (now : ℚ)
  | mode (message : ModeState) (now : ℚ) (input : ApplyInput)
  | localControl (message : LocalControlState) (now : ℚ) (edgeInput input : ApplyInput)
  | supervisionTimer (now : ℚ) (watchInput input : ApplyInput)
  | navigationState (state : Int) (now : ℚ)
  deriving DecidableEq, Repr

namespace CommandAuthority

/-- The node after one callback, and what it publishes. -/
def receive (lib : NavLibrary) (node : CommandAuthority) :
    AuthorityEvent → CommandAuthority × List AuthorityOutput
  | .rawAutonomy message now input =>
    node.supervise lib (.receiveRawAutonomy (fromTwist message)) now input
  | .configRequest message => node.onConfigRequest message
  | .controlEvent message now freshNow requestNow input =>
    node.onControlEvent lib message now freshNow requestNow input
  | .rawManual message now input => node.onRawManual lib message now input
  | .stopState message now => (node.onStopState message now, [])
  | .mode message now input => node.onMode lib message now input
  | .localControl message now edgeInput input =>
    node.onLocalControl lib message now edgeInput input
  | .supervisionTimer now watchInput input => node.onSupervisionTimer lib now watchInput input
  | .navigationState state now => (node.onNavigationState state now, [])

end CommandAuthority

end PreRunner.Paddock
