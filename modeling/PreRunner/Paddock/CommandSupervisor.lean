import PreRunner.Runs.History
import PreRunner.Paddock.StateMachine

/-!
# The command supervisor

`CommandSupervisor` owns the Paddock lease, the RUN gate and the freshness of the raw samples.
Its clock is injected: every method takes `now`. This module follows
`runner_paddock/command_supervisor.py` method by method; a method that mutates `self` and
returns a result becomes a function to the pair of both. Times and speeds are exact.
-/

namespace PreRunner.Paddock

def defaultLeaseTimeoutSec : ℚ := 150 / 1000
def defaultControlLivenessSec : ℚ := 3
def defaultRawAutonomyTimeoutSec : ℚ := 150 / 1000
def defaultManualTimeoutSec : ℚ := 250 / 1000
def defaultManualMaxSpeedMps : ℚ := 40 / 100
def maxManualMaxSpeedMps : ℚ := 40 / 100
def defaultMinimumMovingSpeedMps : ℚ := 25 / 100

/-- Values of `runner_interfaces/PaddockControlEvent`. -/
inductive ControlEvent where
  | runPressed
  | runReleased
  | stop
  | manualActive
  | manualInactive
  | goalSelected
  | leaseAcquired
  | leaseReleased
  | leaseLost
  | heartbeat
  | clearStop
  deriving DecidableEq, Repr

/-- One Twist sample. -/
structure VelocityCommand where
  linearX : PyFloat := .finite 0
  linearY : PyFloat := .finite 0
  linearZ : PyFloat := .finite 0
  angularX : PyFloat := .finite 0
  angularY : PyFloat := .finite 0
  angularZ : PyFloat := .finite 0
  deriving DecidableEq, Repr

namespace VelocityCommand

def values (command : VelocityCommand) : List PyFloat :=
  [command.linearX, command.linearY, command.linearZ,
    command.angularX, command.angularY, command.angularZ]

/-- Whether all components are finite. -/
def valid (command : VelocityCommand) : Bool := command.values.all PyFloat.isfinite

end VelocityCommand

/-- One authority-bounded browser manual demand. -/
structure ManualDemand where
  sequence : Int
  signedSpeedMps : ℚ
  steeringNormalized : ℚ
  deriving DecidableEq, Repr

/-- The reason texts of a snapshot. -/
inductive Reason where
  | leaseExpired
  | manualInputStale
  | runtimeMode
  | runtimeNotStable
  | idleBrake
  | dualsenseTakeover
  | noFreshLease
  | rawManualStale
  | manualActive
  | runRearmRequired
  | modeBrake
  | runReleased
  | noGoalIntent
  | controlStale
  | rawAutonomyStale
  | autonomyRun
  | leaseReinstated
  | leaseRejected
  | leaseAcquired
  | nonOwnerEventRejected
  | staleEventRejected
  | eventRejected
  | clearStopRequested
  | goalPoseNotFinite
  | invalidManualDemand
  | manualNotEligible
  | modeAccepted
  | modeRejected
  | invalidRawAutonomy
  | invalidRawManual
  | restartBrake
  deriving DecidableEq, Repr

/-- The published text of a reason. -/
def Reason.text : Reason → String
  | leaseExpired => "LEASE_EXPIRED"
  | manualInputStale => "MANUAL_INPUT_STALE"
  | runtimeMode => "RUNTIME_MODE"
  | runtimeNotStable => "RUNTIME_NOT_STABLE"
  | idleBrake => "IDLE_BRAKE"
  | dualsenseTakeover => "DUALSENSE_TAKEOVER"
  | noFreshLease => "NO_FRESH_LEASE"
  | rawManualStale => "RAW_MANUAL_STALE"
  | manualActive => "MANUAL_ACTIVE"
  | runRearmRequired => "RUN_REARM_REQUIRED"
  | modeBrake => "MODE_BRAKE"
  | runReleased => "RUN_RELEASED"
  | noGoalIntent => "NO_GOAL_INTENT"
  | controlStale => "CONTROL_STALE"
  | rawAutonomyStale => "RAW_AUTONOMY_STALE"
  | autonomyRun => "AUTONOMY_RUN"
  | leaseReinstated => "LEASE_REINSTATED"
  | leaseRejected => "LEASE_REJECTED"
  | leaseAcquired => "LEASE_ACQUIRED"
  | nonOwnerEventRejected => "NON_OWNER_EVENT_REJECTED"
  | staleEventRejected => "STALE_EVENT_REJECTED"
  | eventRejected => "EVENT_REJECTED"
  | clearStopRequested => "CLEAR_STOP_REQUESTED"
  | goalPoseNotFinite => "GOAL_POSE_NOT_FINITE"
  | invalidManualDemand => "INVALID_MANUAL_DEMAND"
  | manualNotEligible => "MANUAL_NOT_ELIGIBLE"
  | modeAccepted => "MODE_ACCEPTED"
  | modeRejected => "MODE_REJECTED"
  | invalidRawAutonomy => "INVALID_RAW_AUTONOMY"
  | invalidRawManual => "INVALID_RAW_MANUAL"
  | restartBrake => "RESTART_BRAKE"

/-- One queryable authority and timing snapshot. -/
structure SupervisorSnapshot where
  state : PaddockState
  brakeIntent : Bool
  leaseFresh : Bool
  leaseAgeSec : Option ℚ
  rawAutonomyFresh : Bool
  rawAutonomyAgeSec : Option ℚ
  manualInputFresh : Bool
  manualInputAgeSec : Option ℚ
  manualAppliedSpeedMps : ℚ
  manualAppliedSteering : ℚ
  lastControlSequence : Option Int
  reason : Reason
  deriving DecidableEq, Repr

/-- Result of one input, including any supervised output. -/
structure SupervisorResult where
  snapshot : SupervisorSnapshot
  autonomyCommand : Option VelocityCommand := none
  manualDemand : Option ManualDemand := none
  manualCommand : Option VelocityCommand := none
  accepted : Bool := true
  deriving DecidableEq, Repr

/-- Serial-number order on the 64-bit sequence numbers. -/
def isNewerSequence (candidate previous : Int) : Bool :=
  let delta := (candidate - previous) % (2 ^ 64)
  0 < delta && delta < 2 ^ 63

/-- The timeouts of a supervisor, as far as its constructor has checked them. -/
structure SupervisorConfig where
  leaseTimeoutSec : ℚ
  rawAutonomyTimeoutSec : ℚ
  controlLivenessSec : ℚ
  manualTimeoutSec : ℚ
  minimumMovingSpeedMps : ℚ
  lease_pos : 0 < leaseTimeoutSec
  raw_pos : 0 < rawAutonomyTimeoutSec
  liveness_ge : leaseTimeoutSec ≤ controlLivenessSec
  manual_pos : 0 < manualTimeoutSec

/-- The fields of `CommandSupervisor`. -/
structure CommandSupervisor where
  config : SupervisorConfig
  manualMaxSpeedMps : ℚ
  state : PaddockState
  lastLeaseReceiveAt : Option ℚ := none
  lastRawAutonomyAt : Option ℚ := none
  lastManualInputAt : Option ℚ := none
  lastRawManualAt : Option ℚ := none
  manualDemand : Option ManualDemand := none
  lastControlSequence : Option Int := none
  /-- Client and lease id of a lease that lapsed the liveness backstop. -/
  lapsedLease : Option (String × String) := none

/-- The keyword arguments of `handle_control_event` except the time. -/
structure ControlMessage where
  event : ControlEvent
  clientId : String
  leaseId : String
  sequence : Int
  goalX : PyFloat := .finite 0
  goalY : PyFloat := .finite 0
  goalYaw : PyFloat := .finite 0
  manualSpeedMps : PyFloat := .finite 0
  manualSteering : PyFloat := .finite 0
  deriving DecidableEq, Repr

/-- Whether a browser-manual ceiling is in the operator range. -/
def manualSpeedCeilingValid (value : PyFloat) (minimumMovingSpeedMps : ℚ) : Bool :=
  match value with
  | .finite v => v = 0 || (minimumMovingSpeedMps ≤ v && v ≤ maxManualMaxSpeedMps)
  | _ => false

namespace CommandSupervisor

/-- The constructor; an error is the text of the `ValueError`. -/
def init (leaseTimeoutSec rawAutonomyTimeoutSec : PyFloat)
    (controlLivenessSec : Option PyFloat) (manualTimeoutSec manualMaxSpeedMps : PyFloat)
    (minimumMovingSpeedMps : ℚ) (activeAutonomyMap : String) :
    Except String CommandSupervisor :=
  match leaseTimeoutSec.finite? with
  | none => .error "lease_timeout_sec must be finite and positive"
  | some lease =>
    if hLease : 0 < lease then
      match rawAutonomyTimeoutSec.finite? with
      | none => .error "raw_autonomy_timeout_sec must be finite and positive"
      | some raw =>
        if hRaw : 0 < raw then
          match (controlLivenessSec.getD leaseTimeoutSec).finite? with
          | none => .error "control_liveness_sec must be finite and >= lease_timeout_sec"
          | some liveness =>
            if hLive : lease ≤ liveness then
              match manualTimeoutSec.finite? with
              | none => .error "manual_timeout_sec must be finite and positive"
              | some manual =>
                if hManual : 0 < manual then
                  if manualSpeedCeilingValid manualMaxSpeedMps minimumMovingSpeedMps then
                    .ok
                      { config :=
                          { leaseTimeoutSec := lease
                            rawAutonomyTimeoutSec := raw
                            controlLivenessSec := liveness
                            manualTimeoutSec := manual
                            minimumMovingSpeedMps := minimumMovingSpeedMps
                            lease_pos := hLease
                            raw_pos := hRaw
                            liveness_ge := hLive
                            manual_pos := hManual }
                        manualMaxSpeedMps := manualMaxSpeedMps.finite?.getD 0
                        state := { activeAutonomyMap := activeAutonomyMap } }
                  else
                    .error ("manual speed ceiling must be zero or within the moving floor " ++
                      "and 0.40 m/s")
                else .error "manual_timeout_sec must be finite and positive"
            else .error "control_liveness_sec must be finite and >= lease_timeout_sec"
        else .error "raw_autonomy_timeout_sec must be finite and positive"
    else .error "lease_timeout_sec must be finite and positive"

/-- The supervisor with the default timeouts. -/
def defaultSupervisor (activeAutonomyMap : String) : CommandSupervisor where
  config :=
    { leaseTimeoutSec := defaultLeaseTimeoutSec
      rawAutonomyTimeoutSec := defaultRawAutonomyTimeoutSec
      controlLivenessSec := defaultControlLivenessSec
      manualTimeoutSec := defaultManualTimeoutSec
      minimumMovingSpeedMps := defaultMinimumMovingSpeedMps
      lease_pos := by decide +kernel
      raw_pos := by decide +kernel
      liveness_ge := by decide +kernel
      manual_pos := by decide +kernel }
  manualMaxSpeedMps := defaultManualMaxSpeedMps
  state := { activeAutonomyMap := activeAutonomyMap }

/-- Apply one operational speed ceiling; `none` is the `ValueError`. -/
def setManualMaxSpeedMps (s : CommandSupervisor) (value : PyFloat) : Option CommandSupervisor :=
  if manualSpeedCeilingValid value s.config.minimumMovingSpeedMps then
    some { s with manualMaxSpeedMps := value.finite?.getD 0 }
  else none

/-! ## Ages and freshness -/

/-- `max(0.0, now - at)` of a time that may be missing. -/
def age (now : ℚ) (received : Option ℚ) : Option ℚ := received.map fun t => max 0 (now - t)

def withinAge (bound : ℚ) : Option ℚ → Bool
  | some age => age ≤ bound
  | none => false

def leaseAge (s : CommandSupervisor) (now : ℚ) : Option ℚ := age now s.lastLeaseReceiveAt

def rawAge (s : CommandSupervisor) (now : ℚ) : Option ℚ := age now s.lastRawAutonomyAt

def manualAge (s : CommandSupervisor) (now : ℚ) : Option ℚ := age now s.lastManualInputAt

/-- RUN and autonomous-motion deadman: the tight bound for permitting motion. -/
def leaseIsFresh (s : CommandSupervisor) (now : ℚ) : Bool :=
  s.state.leaseActive && withinAge s.config.leaseTimeoutSec (s.leaseAge now)

/-- Lease-ownership liveness: the forgiving bound for keeping the lease. -/
def leaseIsLive (s : CommandSupervisor) (now : ℚ) : Bool :=
  s.state.leaseActive && withinAge s.config.controlLivenessSec (s.leaseAge now)

def rawIsFresh (s : CommandSupervisor) (now : ℚ) : Bool :=
  withinAge s.config.rawAutonomyTimeoutSec (s.rawAge now)

def manualIsFresh (s : CommandSupervisor) (now : ℚ) : Bool :=
  withinAge s.config.manualTimeoutSec (s.manualAge now)

def rawManualIsFresh (s : CommandSupervisor) (now : ℚ) : Bool :=
  withinAge s.config.rawAutonomyTimeoutSec (s.lastRawManualAt.map fun t => now - t)

/-! ## Expiry -/

/-- Whether `_expire_manual` expires the manual input now. -/
def manualExpires (s : CommandSupervisor) (now : ℚ) : Bool :=
  s.state.manualActive && !s.manualIsFresh now

def expireManual (s : CommandSupervisor) (now : ℚ) : CommandSupervisor :=
  if s.manualExpires now then
    { s with
      state := (transition s.state .manualInactive { leaseId := s.state.leaseId }).state
      manualDemand := none
      lastManualInputAt := none }
  else s

def clearManualIfInactive (s : CommandSupervisor) : CommandSupervisor :=
  if s.state.manualActive then s
  else { s with manualDemand := none, lastManualInputAt := none }

/-- Whether `_expire_lease` drops the lease now. -/
def leaseExpires (s : CommandSupervisor) (now : ℚ) : Bool :=
  s.state.leaseActive && !s.leaseIsLive now

/-- Only the liveness backstop drops the lease; it stays reinstatable. -/
def expireLease (s : CommandSupervisor) (now : ℚ) : CommandSupervisor :=
  if s.leaseExpires now then
    clearManualIfInactive
      { s with
        state := (transition s.state .loseLease { leaseId := s.state.leaseId }).state
        lastControlSequence := none
        lapsedLease := some (s.state.leaseClientId, s.state.leaseId) }
  else s

/-! ## Snapshots -/

def snapshot (s : CommandSupervisor) (now : ℚ) (reason : Reason) : SupervisorSnapshot :=
  let autonomyOpen := s.state.autonomyPermitted && s.leaseIsFresh now
  let manualOpen :=
    s.state.authority = .paddockManual && s.manualIsFresh now && s.rawManualIsFresh now
  { state := s.state
    brakeIntent := !((autonomyOpen && s.rawIsFresh now) || manualOpen)
    leaseFresh := s.leaseIsLive now
    leaseAgeSec := s.leaseAge now
    rawAutonomyFresh := s.rawIsFresh now
    rawAutonomyAgeSec := s.rawAge now
    manualInputFresh := s.manualIsFresh now
    manualInputAgeSec := s.manualAge now
    manualAppliedSpeedMps := (s.manualDemand.map ManualDemand.signedSpeedMps).getD 0
    manualAppliedSteering := (s.manualDemand.map ManualDemand.steeringNormalized).getD 0
    lastControlSequence := s.lastControlSequence
    reason := reason }

/-- The reason a snapshot gives for the current authority. -/
def reason (s : CommandSupervisor) (now : ℚ) : Reason :=
  if s.state.mode = .idle then .idleBrake
  else if s.state.dualsenseActive then .dualsenseTakeover
  else if !s.leaseIsLive now then .noFreshLease
  else if s.state.manualActive then
    if !s.manualIsFresh now then .manualInputStale
    else if !s.rawManualIsFresh now then .rawManualStale
    else .manualActive
  else if s.state.runBlockedUntilRelease then .runRearmRequired
  else if s.state.mode ≠ .autonomy then .modeBrake
  else if !s.state.runHeld then .runReleased
  else if s.state.goal.isNone then .noGoalIntent
  else if !s.leaseIsFresh now then .controlStale
  else if !s.rawIsFresh now then .rawAutonomyStale
  else .autonomyRun

/-- Expire time-bounded state and produce periodic brake intent. -/
def tick (s : CommandSupervisor) (now : ℚ) : CommandSupervisor × SupervisorResult :=
  let leased := s.expireLease now
  let next := leased.expireManual now
  let reason :=
    if s.leaseExpires now then .leaseExpired
    else if leased.manualExpires now then .manualInputStale
    else next.reason now
  (next, { snapshot := next.snapshot now reason })

/-- Follow the runtime and disarm across every change. -/
def setRuntimeMode (s : CommandSupervisor) (mode : Mode) (activeAutonomyMap : String)
    (now : ℚ) (runtimeStable : Bool) : CommandSupervisor × SupervisorResult :=
  let s := s.expireLease now
  let effectiveMode := if runtimeStable then mode else .idle
  let changed := effectiveMode ≠ s.state.mode ∨
    activeAutonomyMap ≠ s.state.activeAutonomyMap ∨ runtimeStable = false
  let next := clearManualIfInactive
    { s with
      state := { s.state with
        mode := effectiveMode
        activeAutonomyMap := activeAutonomyMap
        runHeld := if changed then false else s.state.runHeld
        runBlockedUntilRelease := if changed then false else s.state.runBlockedUntilRelease
        manualActive := if changed then false else s.state.manualActive
        goal := if changed then none else s.state.goal
        navigationActive := if changed then false else s.state.navigationActive } }
  let reason := if runtimeStable then Reason.runtimeMode else Reason.runtimeNotStable
  (next, { snapshot := next.snapshot now reason })

/-! ## Control events -/

/-- The reducer event of a control event. -/
def eventMap : ControlEvent → Option Event
  | .runPressed => some .runPress
  | .runReleased => some .runRelease
  | .stop => some .stop
  | .manualActive => some .manualActive
  | .manualInactive => some .manualInactive
  | .leaseReleased => some .releaseLease
  | .leaseLost => some .loseLease
  | _ => none

def supported (event : ControlEvent) : Bool :=
  event = .heartbeat || event = .clearStop || event = .goalSelected || (eventMap event).isSome

/-- The assignments shared by `LEASE_ACQUIRED` and a reinstating heartbeat. -/
def grant (s : CommandSupervisor) (granted : PaddockState) (sequence : Int) (now : ℚ) :
    CommandSupervisor :=
  { s with
    state := granted
    lastLeaseReceiveAt := some now
    lastControlSequence := some sequence
    lapsedLease := none }

def reject (s : CommandSupervisor) (now : ℚ) (reason : Reason) :
    CommandSupervisor × SupervisorResult :=
  (s, { snapshot := s.snapshot now reason, accepted := false })

/-- Clamp a manual speed to the ceiling and promote it to the moving floor. -/
def boundManualSpeed (s : CommandSupervisor) (requested : ℚ) : ℚ :=
  let speed := max (-s.manualMaxSpeedMps) (min s.manualMaxSpeedMps requested)
  if 0 < |speed| ∧ |speed| < s.config.minimumMovingSpeedMps then
    if speed < 0 then -|s.config.minimumMovingSpeedMps| else |s.config.minimumMovingSpeedMps|
  else speed

/-- The rest of `MANUAL_ACTIVE`, after the reducer has seen the event. -/
def acceptManual (s : CommandSupervisor) (m : ControlMessage) (now : ℚ) :
    CommandSupervisor × SupervisorResult :=
  match m.manualSpeedMps.finite?, m.manualSteering.finite? with
  | some speed, some steering =>
    if s.state.authority ≠ .paddockManual then s.reject now .manualNotEligible
    else
      let demand : ManualDemand :=
        { sequence := m.sequence
          signedSpeedMps := s.boundManualSpeed speed
          steeringNormalized := max (-1) (min 1 steering) }
      let next := { s with manualDemand := some demand, lastManualInputAt := some now }
      (next, { snapshot := next.snapshot now .manualActive, manualDemand := some demand })
  | _, _ =>
    reject { s with
      state := (transition s.state .manualInactive { leaseId := m.leaseId }).state }
      now .invalidManualDemand

/-- The common end of `handle_control_event`. -/
def finishEvent (s : CommandSupervisor) (now : ℚ) : CommandSupervisor × SupervisorResult :=
  let next := s.clearManualIfInactive
  (next, { snapshot := next.snapshot now (next.reason now) })

/-- An event of the lease owner with a newer sequence number, after the lease was refreshed. -/
def handleOwnedEvent (s : CommandSupervisor) (m : ControlMessage) (now : ℚ) :
    CommandSupervisor × SupervisorResult :=
  let reduce (event : Event) : CommandSupervisor :=
    { s with state := (transition s.state event { leaseId := m.leaseId }).state }
  match m.event with
  | .heartbeat => (s, { snapshot := s.snapshot now (s.reason now) })
  | .clearStop =>
    let next := reduce .stop
    (next, { snapshot := next.snapshot now .clearStopRequested })
  | .goalSelected =>
    if [m.goalX, m.goalY, m.goalYaw].all PyFloat.isfinite then
      let goal : GoalIntent :=
        { mapName := s.state.activeAutonomyMap, x := m.goalX, y := m.goalY, yaw := m.goalYaw }
      finishEvent { s with
        state := (transition s.state .selectGoal
          { leaseId := m.leaseId, goal := some goal }).state }
        now
    else s.reject now .goalPoseNotFinite
  | .runPressed => finishEvent (reduce .runPress) now
  | .runReleased => finishEvent (reduce .runRelease) now
  | .stop => finishEvent (reduce .stop) now
  | .manualActive => acceptManual (reduce .manualActive) m now
  | .manualInactive =>
    finishEvent { reduce .manualInactive with manualDemand := none, lastManualInputAt := none } now
  | .leaseReleased =>
    finishEvent { reduce .releaseLease with
      lastLeaseReceiveAt := none, lastControlSequence := none } now
  | .leaseLost => finishEvent (reduce .loseLease) now
  | .leaseAcquired => s.reject now .eventRejected

/-- Validate ownership and order, refresh the lease, and reduce an event. -/
def handleControlEvent (s : CommandSupervisor) (m : ControlMessage) (now : ℚ) :
    CommandSupervisor × SupervisorResult :=
  let s := s.expireLease now
  let acquired :=
    (transition s.state .acquireLease { clientId := m.clientId, leaseId := m.leaseId }).state
  if m.event = .heartbeat ∧ s.state.leaseActive = false ∧
      s.lapsedLease = some (m.clientId, m.leaseId) ∧ acquired ≠ s.state then
    let next := s.grant acquired m.sequence now
    (next, { snapshot := next.snapshot now .leaseReinstated })
  else if m.event = .leaseAcquired then
    if s.state.leaseActive then s.reject now .leaseRejected
    else if acquired = s.state then s.reject now .leaseRejected
    else
      let next := s.grant acquired m.sequence now
      (next, { snapshot := next.snapshot now .leaseAcquired })
  else if s.state.leaseActive = false ∨ m.clientId ≠ s.state.leaseClientId ∨
      m.leaseId ≠ s.state.leaseId then
    s.reject now .nonOwnerEventRejected
  else if (s.lastControlSequence.map (isNewerSequence m.sequence)).getD true = false then
    s.reject now .staleEventRejected
  else if supported m.event = false then s.reject now .eventRejected
  else
    handleOwnedEvent
      { s with lastLeaseReceiveAt := some now, lastControlSequence := some m.sequence } m now

/-! ## The other inputs -/

/-- Apply a lease-scoped mode request without refreshing its lease. -/
def requestMode (s : CommandSupervisor) (mode : Option Mode) (requestId : Int)
    (leaseId : String) (now : ℚ) : CommandSupervisor × SupervisorResult :=
  let s := s.expireLease now
  let next := { s with
    state := (transition s.state .requestMode { leaseId, mode, requestId }).state }
  let accepted : Bool := next.state ≠ s.state
  let reason := if accepted then Reason.modeAccepted else Reason.modeRejected
  (next, { snapshot := next.snapshot now reason, accepted })

/-- Apply DualSense presence without lease refresh. -/
def setDualsenseActive (s : CommandSupervisor) (active : Bool) (now : ℚ) :
    CommandSupervisor × SupervisorResult :=
  let s := s.expireLease now
  let event := if active then Event.dualsenseActive else Event.dualsenseInactive
  finishEvent { s with state := (transition s.state event).state } now

/-- Forward this autonomy sample only through every current safety gate. -/
def receiveRawAutonomy (s : CommandSupervisor) (command : VelocityCommand) (now : ℚ) :
    CommandSupervisor × SupervisorResult :=
  let s := s.expireLease now
  if command.valid = false then
    reject { s with lastRawAutonomyAt := none } now .invalidRawAutonomy
  else
    let next := { s with lastRawAutonomyAt := some now }
    let snapshot := next.snapshot now (next.reason now)
    if snapshot.state.authority = .paddockAutonomy ∧ next.leaseIsFresh now = true ∧
        snapshot.rawAutonomyFresh = true ∧ snapshot.brakeIntent = false then
      (next, { snapshot, autonomyCommand := some command })
    else (next, { snapshot })

/-- Forward a converted manual sample only for its current demand. -/
def receiveRawManual (s : CommandSupervisor) (command : VelocityCommand) (sequence : Int)
    (now : ℚ) : CommandSupervisor × SupervisorResult :=
  let s := (s.expireLease now).expireManual now
  if command.valid = false ∨ s.manualDemand.map ManualDemand.sequence ≠ some sequence then
    s.reject now .invalidRawManual
  else
    let next := { s with lastRawManualAt := some now }
    let snapshot := next.snapshot now (next.reason now)
    if snapshot.state.authority = .paddockManual ∧ snapshot.manualInputFresh = true ∧
        snapshot.brakeIntent = false then
      (next, { snapshot, manualCommand := some command })
    else (next, { snapshot })

/-- Model a process restart: no lease, RUN, goal or raw sample survives. -/
def restart (s : CommandSupervisor) (now : ℚ) : CommandSupervisor × SupervisorResult :=
  let next : CommandSupervisor :=
    { config := s.config
      manualMaxSpeedMps := s.manualMaxSpeedMps
      state := (transition s.state .restart).state }
  (next, { snapshot := next.snapshot now .restartBrake })

end CommandSupervisor

/-! ## Calls and runs -/

/-- The public methods of a supervisor with their arguments, except the time. -/
inductive Call where
  | handleControlEvent (message : ControlMessage)
  | tick
  | setRuntimeMode (mode : Mode) (activeAutonomyMap : String) (runtimeStable : Bool)
  | requestMode (mode : Option Mode) (requestId : Int) (leaseId : String)
  | setDualsenseActive (active : Bool)
  | receiveRawAutonomy (command : VelocityCommand)
  | receiveRawManual (command : VelocityCommand) (sequence : Int)
  | restart
  | setManualMaxSpeedMps (value : PyFloat)
  deriving DecidableEq, Repr

/-- One call and the time it reads. -/
structure TimedCall where
  call : Call
  now : ℚ
  deriving DecidableEq, Repr

namespace CommandSupervisor

/-- One call: the next state and the result, if the method returns one. -/
def perform (s : CommandSupervisor) (c : TimedCall) :
    CommandSupervisor × Option SupervisorResult :=
  match c.call with
  | .handleControlEvent message => Prod.map id some (s.handleControlEvent message c.now)
  | .tick => Prod.map id some (s.tick c.now)
  | .setRuntimeMode mode map stable => Prod.map id some (s.setRuntimeMode mode map c.now stable)
  | .requestMode mode requestId leaseId =>
    Prod.map id some (s.requestMode mode requestId leaseId c.now)
  | .setDualsenseActive active => Prod.map id some (s.setDualsenseActive active c.now)
  | .receiveRawAutonomy command => Prod.map id some (s.receiveRawAutonomy command c.now)
  | .receiveRawManual command sequence =>
    Prod.map id some (s.receiveRawManual command sequence c.now)
  | .restart => Prod.map id some (s.restart c.now)
  | .setManualMaxSpeedMps value => ((s.setManualMaxSpeedMps value).getD s, none)

/-- The state a call leaves behind. -/
def step (s : CommandSupervisor) (c : TimedCall) : CommandSupervisor := (s.perform c).1

/-- The result a call returns. -/
def result (s : CommandSupervisor) (c : TimedCall) : Option SupervisorResult := (s.perform c).2

end CommandSupervisor

end PreRunner.Paddock
