import Mathlib.Algebra.Order.Field.Rat
import PreRunner.PyValue
import PreRunner.Runs.Program

/-!
# The drive adapter

`DriveAdapter` converts a speed command into a normalized throttle and steering, with a bounded
feedforward plus parallel PI control. One controller serves two sources: a Nav2 command carries a
yaw rate, a manual demand the steering itself. This module follows
`runner_drive_adapter/drive_adapter.py` method by method. Configured values and times are finite
and exact; samples may be any float.
-/

namespace PreRunner.Drive

def minimumExpectedFeedforward : ℚ := 4 / 100
def maxIntegrationDtSec : ℚ := 1 / 2
def selectionAbsTolerance : ℚ := 1 / 10 ^ 9

/-- `AutonomyTuningPolicy`: the absolute ceilings of live tuning. -/
def maximumCommandedSpeedPolicy : ℚ := 2
def maximumOutputAuthorityPolicy : ℚ := 3 / 10

def liveTunableParameters : List String :=
  ["maximum_commanded_speed", "feedforward_effort_per_speed", "feedforward_effort_intercept",
    "output_max", "proportional_gain", "integral_gain"]

/-- What the adapter takes from the `math` module. -/
structure DriveLibrary where
  atan : ℚ → ℚ
  tan : ℚ → ℚ
  pi : ℚ

/-- Why one cycle did not update the integrator. -/
inductive IntegratorFreezeReason where
  | none
  | gainDisabled
  | zeroCommand
  | feedbackStale
  | wheelspin
  | directionUnavailable
  | directionMismatch
  | arbitrationUnavailable
  | outputNotSelected
  | invalidDt
  | antiWindup
  | noCommand
  | invalidCommand
  deriving DecidableEq, Repr

/-- The characterized inverse of the motor driver, in normalized effort. -/
def linearFeedforward (speed effortPerSpeed effortIntercept : ℚ) : ℚ :=
  effortPerSpeed * |speed| + effortIntercept

/-! ## Configuration -/

/-- The scalar parameters of the adapter. -/
structure AdapterFields (α : Type) where
  wheelbase : α
  maxSteeringAngle : α
  feedforwardEffortPerSpeed : α
  feedforwardEffortIntercept : α
  minimumMovingSpeed : α
  maximumCommandedSpeed : α
  proportionalGain : α
  integralGain : α
  integratorBound : α
  outputMin : α
  outputMax : α
  encoderMetresPerEdge : α
  wheelspinSpeedRatio : α
  wheelspinMinSpeedExcess : α
  wheelspinQualificationSec : α
  motionSignalTimeoutSec : α
  encoderStateTimeoutSec : α
  cmdVelNavTimeout : α
  activeModeTimeoutSec : α
  publicationRate : α
  deriving DecidableEq, Repr

/-- A configuration whose scalars are finite. -/
abbrev AdapterConfig := AdapterFields ℚ

namespace AdapterFields

def map {α β : Type} (f : α → β) (fields : AdapterFields α) : AdapterFields β where
  wheelbase := f fields.wheelbase
  maxSteeringAngle := f fields.maxSteeringAngle
  feedforwardEffortPerSpeed := f fields.feedforwardEffortPerSpeed
  feedforwardEffortIntercept := f fields.feedforwardEffortIntercept
  minimumMovingSpeed := f fields.minimumMovingSpeed
  maximumCommandedSpeed := f fields.maximumCommandedSpeed
  proportionalGain := f fields.proportionalGain
  integralGain := f fields.integralGain
  integratorBound := f fields.integratorBound
  outputMin := f fields.outputMin
  outputMax := f fields.outputMax
  encoderMetresPerEdge := f fields.encoderMetresPerEdge
  wheelspinSpeedRatio := f fields.wheelspinSpeedRatio
  wheelspinMinSpeedExcess := f fields.wheelspinMinSpeedExcess
  wheelspinQualificationSec := f fields.wheelspinQualificationSec
  motionSignalTimeoutSec := f fields.motionSignalTimeoutSec
  encoderStateTimeoutSec := f fields.encoderStateTimeoutSec
  cmdVelNavTimeout := f fields.cmdVelNavTimeout
  activeModeTimeoutSec := f fields.activeModeTimeoutSec
  publicationRate := f fields.publicationRate

def values {α : Type} (fields : AdapterFields α) : List α :=
  [fields.wheelbase, fields.maxSteeringAngle, fields.feedforwardEffortPerSpeed,
    fields.feedforwardEffortIntercept, fields.minimumMovingSpeed, fields.maximumCommandedSpeed,
    fields.proportionalGain, fields.integralGain, fields.integratorBound, fields.outputMin,
    fields.outputMax, fields.encoderMetresPerEdge, fields.wheelspinSpeedRatio,
    fields.wheelspinMinSpeedExcess, fields.wheelspinQualificationSec,
    fields.motionSignalTimeoutSec, fields.encoderStateTimeoutSec, fields.cmdVelNavTimeout,
    fields.activeModeTimeoutSec, fields.publicationRate]

/-- Assign one live-tunable field by its parameter name. -/
def assign {α : Type} (fields : AdapterFields α) (name : String) (value : α) : AdapterFields α :=
  match name with
  | "maximum_commanded_speed" => { fields with maximumCommandedSpeed := value }
  | "feedforward_effort_per_speed" => { fields with feedforwardEffortPerSpeed := value }
  | "feedforward_effort_intercept" => { fields with feedforwardEffortIntercept := value }
  | "output_max" => { fields with outputMax := value }
  | "proportional_gain" => { fields with proportionalGain := value }
  | "integral_gain" => { fields with integralGain := value }
  | _ => fields

end AdapterFields

namespace AdapterConfig

/-- The defaults of the dataclass. -/
def default : AdapterConfig where
  wheelbase := 178 / 1000
  maxSteeringAngle := 3614 / 10000
  feedforwardEffortPerSpeed := 1188 / 10000
  feedforwardEffortIntercept := 174 / 10000
  minimumMovingSpeed := 25 / 100
  maximumCommandedSpeed := 60 / 100
  proportionalGain := 5 / 100
  integralGain := 0
  integratorBound := 5 / 1000
  outputMin := 0
  outputMax := 14 / 100
  encoderMetresPerEdge := 10282 / 1000000
  wheelspinSpeedRatio := 150 / 100
  wheelspinMinSpeedExcess := 10 / 100
  wheelspinQualificationSec := 20 / 100
  motionSignalTimeoutSec := 25 / 100
  encoderStateTimeoutSec := 25 / 100
  cmdVelNavTimeout := 25 / 100
  activeModeTimeoutSec := 20 / 100
  publicationRate := 20

/-- The fields that must be greater than zero, in the order they are checked. -/
def positive (config : AdapterConfig) : List (String × ℚ) :=
  [("wheelbase", config.wheelbase), ("max_steering_angle", config.maxSteeringAngle),
    ("feedforward_effort_per_speed", config.feedforwardEffortPerSpeed),
    ("minimum_moving_speed", config.minimumMovingSpeed),
    ("maximum_commanded_speed", config.maximumCommandedSpeed),
    ("proportional_gain", config.proportionalGain),
    ("integrator_bound", config.integratorBound),
    ("encoder_metres_per_edge", config.encoderMetresPerEdge),
    ("wheelspin_speed_ratio", config.wheelspinSpeedRatio),
    ("wheelspin_qualification_sec", config.wheelspinQualificationSec),
    ("motion_signal_timeout_sec", config.motionSignalTimeoutSec),
    ("encoder_state_timeout_sec", config.encoderStateTimeoutSec),
    ("cmd_vel_nav_timeout", config.cmdVelNavTimeout),
    ("active_mode_timeout_sec", config.activeModeTimeoutSec),
    ("publication_rate", config.publicationRate)]

def feedforwardAt (config : AdapterConfig) (speed : ℚ) : ℚ :=
  linearFeedforward speed config.feedforwardEffortPerSpeed config.feedforwardEffortIntercept

/-- The checks of `__post_init__` on finite values; the text is that of the `ValueError`. -/
def error? (lib : DriveLibrary) (config : AdapterConfig) : Option String :=
  match config.positive.find? (·.2 ≤ 0) with
  | some (name, _) => some (name ++ " must be greater than zero")
  | none =>
    if ¬ (0 < config.maxSteeringAngle ∧ config.maxSteeringAngle < lib.pi / 2) then
      some "max_steering_angle must be between zero and pi/2"
    else if config.integralGain < 0 then some "integral_gain must be nonnegative"
    else if config.maximumCommandedSpeed < config.minimumMovingSpeed then
      some "maximum_commanded_speed must reach minimum_moving_speed"
    else if maximumCommandedSpeedPolicy < config.maximumCommandedSpeed then
      some "maximum_commanded_speed must not exceed 2.0"
    else if config.outputMin ≠ 0 then some "output_min magnitude must be zero"
    else if maximumOutputAuthorityPolicy < config.outputMax ∨ config.outputMax ≤ 0 then
      some "output_max must be within the safety authority range (0, 0.3]"
    else if config.feedforwardAt config.maximumCommandedSpeed < 0 then
      some "feedforward must be nonnegative at maximum commanded speed"
    else if config.outputMax < config.feedforwardAt config.maximumCommandedSpeed then
      some "output_max must reach the maximum linear feedforward"
    else if config.wheelspinSpeedRatio ≤ 1 then some "wheelspin_speed_ratio must exceed one"
    else if config.wheelspinMinSpeedExcess < 0 then
      some "wheelspin_min_speed_excess must be nonnegative"
    else if config.feedforwardAt config.minimumMovingSpeed < 0 then
      some "feedforward must be nonnegative at minimum moving speed"
    else none

/-- The constructor `AdapterConfig(**values)`. -/
def validate (lib : DriveLibrary) (fields : AdapterFields PyFloat) : Except String AdapterConfig :=
  if fields.values.all PyFloat.isfinite then
    let config := fields.map fun value => value.finite?.getD 0
    match error? lib config with
    | some text => .error text
    | none => .ok config
  else .error "all scalar parameters must be finite"

/-- `maximum_curvature`. -/
def maximumCurvature (lib : DriveLibrary) (config : AdapterConfig) : ℚ :=
  lib.tan config.maxSteeringAngle / config.wheelbase

end AdapterConfig

/-! ## Decisions -/

inductive DriveMode where
  | forward
  | reverse
  | brake
  | silence
  deriving DecidableEq, Repr

inductive DecisionReason where
  | noCommand
  | staleCommand
  | nonfiniteInput
  | explicitStop
  | closedLoop
  | maximumSpeedClamped
  | floorPromoted
  | encoderStaleFeedforward
  deriving DecidableEq, Repr

inductive Saturation where
  | none
  | upper
  | lower
  deriving DecidableEq, Repr

/-- One timer-cycle output and its diagnostic fields. -/
structure AdapterDecision where
  publishCommand : Bool
  mode : DriveMode
  reason : DecisionReason
  commandedSpeed : PyFloat := .finite 0
  effectiveSpeed : ℚ := 0
  measuredSpeed : ℚ := 0
  speedError : ℚ := 0
  feedforwardThrottle : ℚ := 0
  feedforwardFloorViolation : Bool := false
  proportionalTerm : ℚ := 0
  integratorState : ℚ := 0
  piTerm : ℚ := 0
  integratorEnabled : Bool := false
  saturationState : Saturation := .none
  wheelspinGuard : Bool := false
  finalThrottle : ℚ := 0
  normalizedSteering : ℚ := 0
  steeringSaturated : Bool := false
  integralGain : ℚ := 0
  stallIntegralGainActive : Bool := false
  activeModeReceived : Bool := false
  activeModeFresh : Bool := false
  activeMode : String := ""
  preempted : Bool := false
  integralDecayActive : Bool := false
  integratorFreezeReason : IntegratorFreezeReason := .gainDisabled
  deriving DecidableEq, Repr

/-! ## The adapter -/

/-- The fields of `DriveAdapter`. -/
structure DriveAdapter where
  config : AdapterConfig
  command : Option (PyFloat × PyFloat) := none
  commandTime : Option ℚ := none
  commandUsesDirectSteering : Bool := false
  motionSpeed : PyFloat := .finite 0
  motionTime : Option ℚ := none
  encoderEdgeRate : PyFloat := .finite 0
  encoderTime : Option ℚ := none
  encoderSampleTime : Option PyFloat := none
  previousEncoderSampleTime : Option PyFloat := none
  pendingDirection : Int := 0
  wheelspinSince : Option ℚ := none
  activeMode : Option String := none
  activeModeTime : Option ℚ := none
  adapterOutput : Option (PyFloat × PyFloat) := none
  adapterOutputTime : Option ℚ := none
  muxOutput : Option (PyFloat × PyFloat) := none
  muxOutputTime : Option ℚ := none
  integrator : ℚ := 0
  deriving DecidableEq, Repr

/-- The exceptions of `set_live_parameters`. -/
inductive AdapterError where
  | typeError (text : String)
  | valueError (text : String)
  deriving DecidableEq, Repr

def AdapterError.text : AdapterError → String
  | typeError text | valueError text => text

/-- `isinstance(value, float)` and not a `bool`. -/
def double? : PyValue → Option PyFloat
  | .float value => some value
  | _ => none

/-- A time that is missing or older than a bound. -/
def isOlder (time : Option ℚ) (now bound : ℚ) : Bool :=
  match time with
  | none => true
  | some time => bound < now - time

/-- `max(-1.0, min(1.0, value))`. -/
def clampUnit (value : ℚ) : ℚ := max (-1) (min 1 value)

namespace DriveAdapter

/-- Assign the validated configuration; a new integral gain restarts the integration. -/
def assignConfig (config : AdapterConfig) (restart : Bool) :
    Runs.Program DriveAdapter AdapterError Unit := do
  Runs.Program.modify fun s => { s with config }
  if restart then
    Runs.Program.modify fun s => { s with integrator := 0, previousEncoderSampleTime := none }
  else pure ()

/-- `set_live_parameters`, statement by statement on the fields of the adapter. -/
def applyLiveParameters (lib : DriveLibrary) (updates : List (String × PyValue)) :
    Runs.Program DriveAdapter AdapterError Unit := do
  let s ← Runs.Program.get
  let unsupported := (updates.map (·.1)).filter (· ∉ liveTunableParameters)
  if unsupported ≠ [] then
    Runs.Program.raise (.valueError ("parameters are not live-tunable: " ++
      ", ".intercalate (unsupported.mergeSort fun a b => a ≤ b)))
  else
    match updates.find? fun update => (double? update.2).isNone with
    | some (name, _) => Runs.Program.raise (.typeError (name ++ " must be a double"))
    | none =>
      let candidate := updates.foldl
        (fun fields update => fields.assign update.1 ((double? update.2).getD .nan))
        (s.config.map PyFloat.finite)
      match AdapterConfig.validate lib candidate with
      | .error text => Runs.Program.raise (.valueError text)
      | .ok config => assignConfig config (updates.any (·.1 = "integral_gain"))

/-- Validate and atomically apply live parameters. -/
def setLiveParameters (lib : DriveLibrary) (s : DriveAdapter)
    (updates : List (String × PyValue)) : Except AdapterError DriveAdapter :=
  let unsupported := (updates.map (·.1)).filter (· ∉ liveTunableParameters)
  if unsupported ≠ [] then
    .error (.valueError ("parameters are not live-tunable: " ++
      ", ".intercalate (unsupported.mergeSort fun a b => a ≤ b)))
  else
    match updates.find? fun update => (double? update.2).isNone with
    | some (name, _) => .error (.typeError (name ++ " must be a double"))
    | none =>
      let candidate := updates.foldl
        (fun fields update => fields.assign update.1 ((double? update.2).getD .nan))
        (s.config.map PyFloat.finite)
      match AdapterConfig.validate lib candidate with
      | .error text => .error (.valueError text)
      | .ok config =>
        if updates.any (·.1 = "integral_gain") then
          .ok { s with config, integrator := 0, previousEncoderSampleTime := none }
        else .ok { s with config }

/-- Store the latest Nav2 command. -/
def updateCommand (s : DriveAdapter) (linearSpeed yawRate : PyFloat) (now : ℚ) : DriveAdapter :=
  { s with
    command := some (linearSpeed, yawRate)
    commandTime := some now
    commandUsesDirectSteering := false }

/-- Select a manual demand for conversion. -/
def updateManualCommand (s : DriveAdapter) (signedSpeedMps steeringNormalized : PyFloat)
    (now : ℚ) : DriveAdapter :=
  { s with
    command := some (signedSpeedMps, steeringNormalized)
    commandTime := some now
    commandUsesDirectSteering := true }

/-- Discard the selected source without resetting the PI state. -/
def invalidateCommand (s : DriveAdapter) : DriveAdapter :=
  { s with command := none, commandTime := none }

def updateMotion (s : DriveAdapter) (forwardSpeed : PyFloat) (now : ℚ) : DriveAdapter :=
  { s with motionSpeed := forwardSpeed, motionTime := some now }

def updateActiveMode (s : DriveAdapter) (mode : String) (now : ℚ) : DriveAdapter :=
  { s with activeMode := some mode, activeModeTime := some now }

def updateEncoder (s : DriveAdapter) (edgeRate : PyFloat) (pendingDirection : Int) (now : ℚ)
    (sampleTime : Option PyFloat) : DriveAdapter :=
  { s with
    encoderEdgeRate := edgeRate
    encoderTime := some now
    encoderSampleTime := sampleTime
    pendingDirection }

def updateAdapterOutput (s : DriveAdapter) (linear angular : PyFloat) (now : ℚ) : DriveAdapter :=
  { s with adapterOutput := some (linear, angular), adapterOutputTime := some now }

def updateMuxOutput (s : DriveAdapter) (linear angular : PyFloat) (now : ℚ) : DriveAdapter :=
  { s with muxOutput := some (linear, angular), muxOutputTime := some now }

def activeModeIsFresh (s : DriveAdapter) (now : ℚ) : Bool :=
  !isOlder s.activeModeTime now s.config.activeModeTimeoutSec

/-- Only a fresh mode other than suppression counts as preemption. -/
def isConfirmedPreempted (s : DriveAdapter) (now : ℚ) : Bool :=
  s.activeModeIsFresh now && s.activeMode ≠ some "teleop_suppress"

def motionIsStale (s : DriveAdapter) (now : ℚ) : Bool :=
  !s.motionSpeed.isfinite || isOlder s.motionTime now s.config.motionSignalTimeoutSec

def encoderIsStale (s : DriveAdapter) (now : ℚ) : Bool :=
  !s.encoderEdgeRate.isfinite || isOlder s.encoderTime now s.config.encoderStateTimeoutSec

def resetTransientState (s : DriveAdapter) : DriveAdapter := { s with wheelspinSince := none }

/-- Stop accepting commands without publishing another one. -/
def shutdown (s : DriveAdapter) : DriveAdapter :=
  { s.resetTransientState with command := none, commandTime := none }

/-! ## One control step -/

/-- The remembered sample time, and the interval to integrate over if there is a usable one. -/
def integrationDt (s : DriveAdapter) : DriveAdapter × Option ℚ :=
  let dt := match s.encoderSampleTime, s.previousEncoderSampleTime with
    | some (.finite sampleTime), some (.finite previous) =>
      let dt := sampleTime - previous
      if dt ≤ 0 ∨ maxIntegrationDtSec < dt then none else some dt
    | _, _ => none
  ({ s with previousEncoderSampleTime := s.encoderSampleTime }, dt)

/-- The bound on a sample that may be integrated: three cycles. -/
def integrationTimeout (s : DriveAdapter) : ℚ := 3 / s.config.publicationRate

def arbitrationIsAvailable (s : DriveAdapter) (now : ℚ) : Bool :=
  s.adapterOutput.isSome && s.muxOutput.isSome &&
    !isOlder s.adapterOutputTime now s.integrationTimeout &&
    !isOlder s.muxOutputTime now s.integrationTimeout

/-- `math.isclose` with the absolute tolerance of the selection. -/
def isClose : PyFloat → PyFloat → Bool
  | .finite value, .finite other => |value - other| ≤ selectionAbsTolerance
  | .inf negative, .inf otherNegative => negative = otherNegative
  | _, _ => false

def adapterOutputIsSelected (s : DriveAdapter) : Bool :=
  match s.adapterOutput, s.muxOutput with
  | some (linear, angular), some (muxLinear, muxAngular) =>
    isClose linear muxLinear && isClose angular muxAngular
  | _, _ => false

/-- `_integrator_freeze_reason`. -/
def freezeReason (s : DriveAdapter) (now commandedSpeed : ℚ) (wheelspinGuard : Bool) :
    IntegratorFreezeReason :=
  if commandedSpeed = 0 then .zeroCommand
  else if !s.encoderEdgeRate.isfinite || isOlder s.encoderTime now s.integrationTimeout then
    .feedbackStale
  else if wheelspinGuard then .wheelspin
  else if s.pendingDirection ≠ -1 ∧ s.pendingDirection ≠ 1 then .directionUnavailable
  else if s.pendingDirection ≠ (if 0 < commandedSpeed then 1 else -1) then .directionMismatch
  else if !s.arbitrationIsAvailable now then .arbitrationUnavailable
  else if !s.adapterOutputIsSelected then .outputNotSelected
  else .none

/-- Whether the encoder runs ahead of the measured motion. -/
def spins (s : DriveAdapter) (now encoderSpeed : ℚ) : Bool :=
  !s.encoderIsStale now && !s.motionIsStale now &&
    match s.motionSpeed.finite? with
    | some motion =>
      s.config.wheelspinSpeedRatio * |motion| < encoderSpeed &&
        s.config.wheelspinMinSpeedExcess < encoderSpeed - |motion|
    | none => false

/-- `_wheelspin_guard`: the condition has to last. -/
def wheelspinGuard (s : DriveAdapter) (now encoderSpeed : ℚ) : DriveAdapter × Bool :=
  if !s.spins now encoderSpeed then ({ s with wheelspinSince := none }, false)
  else
    match s.wheelspinSince with
    | none => ({ s with wheelspinSince := some now }, false)
    | some since => (s, s.config.wheelspinQualificationSec ≤ now - since + 1 / 10 ^ 12)

def saturation (s : DriveAdapter) (output : ℚ) : Saturation :=
  if s.config.outputMax < output then .upper
  else if output < s.config.outputMin then .lower
  else .none

/-- Integrate over an interval, unless something freezes the integrator. `base` is the output
without its integral part. -/
def integrate (s : DriveAdapter) (base speedError : ℚ) (dt : Option ℚ)
    (freeze : IntegratorFreezeReason) : DriveAdapter × IntegratorFreezeReason :=
  if freeze ≠ .none then (s, freeze)
  else
    match dt with
    | none => (s, .invalidDt)
    | some dt =>
      let candidate := max (-s.config.integratorBound)
        (min s.config.integratorBound (s.integrator + s.config.integralGain * speedError * dt))
      let saturated := s.saturation (base + candidate)
      if saturated = .upper ∧ 0 < speedError ∨ saturated = .lower ∧ speedError < 0 then
        (s, .antiWindup)
      else ({ s with integrator := candidate }, .none)

/-- The steering and whether it is clamped. -/
def steer (lib : DriveLibrary) (s : DriveAdapter) (speed lateralDemand : ℚ) : ℚ × Bool :=
  if s.commandUsesDirectSteering then (clampUnit lateralDemand, 1 < |lateralDemand|)
  else
    let curvature := lateralDemand / speed
    (clampUnit (lib.atan (s.config.wheelbase * curvature) / s.config.maxSteeringAngle),
      s.config.maximumCurvature lib < |curvature|)

/-- The fields that every decision shows about arbitration. -/
def decision (s : DriveAdapter) (now : ℚ) (publishCommand : Bool) (mode : DriveMode)
    (reason : DecisionReason) : AdapterDecision :=
  { publishCommand, mode, reason
    activeModeReceived := s.activeModeTime.isSome
    activeModeFresh := s.activeModeIsFresh now
    activeMode := s.activeMode.getD ""
    preempted := s.isConfirmedPreempted now }

/-- The decision of a cycle that does not drive, with the controller fields. -/
def idle (s : DriveAdapter) (now : ℚ) (publishCommand : Bool) (mode : DriveMode)
    (reason : DecisionReason) (freeze : IntegratorFreezeReason) (commandedSpeed : PyFloat) :
    AdapterDecision :=
  { s.decision now publishCommand mode reason with
    commandedSpeed
    integratorState := s.integrator
    piTerm := s.integrator
    integralGain := s.config.integralGain
    integratorFreezeReason := freeze }

/-- A cycle that publishes nothing. -/
def silence (s : DriveAdapter) (now : ℚ) (reason : DecisionReason) (commandedSpeed : PyFloat) :
    DriveAdapter × AdapterDecision :=
  (s.resetTransientState, s.idle now false .silence reason .noCommand commandedSpeed)

/-- A cycle that publishes a zero throttle. -/
def brake (s : DriveAdapter) (now : ℚ) (reason : DecisionReason)
    (freeze : IntegratorFreezeReason) (commandedSpeed : PyFloat) (steering : ℚ × Bool) :
    DriveAdapter × AdapterDecision :=
  (s.resetTransientState,
    { s.idle now true .brake reason freeze commandedSpeed with
      normalizedSteering := steering.1
      steeringSaturated := steering.2 })

/-- A cycle with a finite nonzero speed command. -/
def drive (lib : DriveLibrary) (s : DriveAdapter) (speed lateralDemand now : ℚ) :
    DriveAdapter × AdapterDecision :=
  let steering := s.steer lib speed lateralDemand
  let sign : ℚ := if 0 < speed then 1 else -1
  let effectiveSpeed :=
    sign * min s.config.maximumCommandedSpeed (max |speed| s.config.minimumMovingSpeed)
  let feedforward := s.config.feedforwardAt effectiveSpeed
  let measuredSpeed := match s.encoderEdgeRate.finite? with
    | some rate => |rate| * s.config.encoderMetresPerEdge
    | none => 0
  let speedError := |effectiveSpeed| - |measuredSpeed|
  let feedbackFresh := !s.encoderIsStale now
  let proportional := if feedbackFresh then s.config.proportionalGain * speedError else 0
  let (guarded, spinning) := s.wheelspinGuard now measuredSpeed
  let (timed, dt) := guarded.integrationDt
  let (next, freeze) := timed.integrate (feedforward + proportional) speedError dt
    (timed.freezeReason now speed spinning)
  let freeze :=
    if freeze = .none ∧ s.config.integralGain = 0 then .gainDisabled else freeze
  let rawOutput := feedforward + proportional + next.integrator
  let reason :=
    if s.config.maximumCommandedSpeed < |speed| then .maximumSpeedClamped
    else if |speed| < s.config.minimumMovingSpeed then .floorPromoted
    else if !feedbackFresh then .encoderStaleFeedforward
    else .closedLoop
  (next,
    { s.decision now true (if 0 < speed then .forward else .reverse) reason with
      commandedSpeed := .finite speed
      effectiveSpeed
      measuredSpeed
      speedError
      feedforwardThrottle := feedforward
      feedforwardFloorViolation := feedforward < minimumExpectedFeedforward
      proportionalTerm := proportional
      integratorState := next.integrator
      piTerm := proportional + next.integrator
      integratorEnabled := s.config.integralGain ≠ 0 && freeze = .none
      saturationState := s.saturation rawOutput
      wheelspinGuard := spinning
      finalThrottle := sign * max s.config.outputMin (min s.config.outputMax rawOutput)
      normalizedSteering := steering.1
      steeringSaturated := steering.2
      integralGain := s.config.integralGain
      integratorFreezeReason := freeze })

/-- Produce one timer-cycle decision. -/
def step (lib : DriveLibrary) (s : DriveAdapter) (now : ℚ) : DriveAdapter × AdapterDecision :=
  match s.command, s.commandTime with
  | some (speed, lateralDemand), some time =>
    if s.config.cmdVelNavTimeout < now - time then s.silence now .staleCommand speed
    else
      match speed.finite?, lateralDemand.finite? with
      | some finiteSpeed, some finiteDemand =>
        if finiteSpeed = 0 then
          s.brake now .explicitStop .zeroCommand speed
            (if s.commandUsesDirectSteering then (clampUnit finiteDemand, 1 < |finiteDemand|)
              else (0, false))
        else s.drive lib finiteSpeed finiteDemand now
      | _, _ => s.brake now .nonfiniteInput .invalidCommand speed (0, false)
  | _, _ => s.silence now .noCommand (.finite 0)

/-! ## What leaves the command alone -/

/-- The command and its kind are the same in both states. -/
structure SameCommand (s next : DriveAdapter) : Prop where
  command : next.command = s.command
  direct : next.commandUsesDirectSteering = s.commandUsesDirectSteering

variable {s next : DriveAdapter}

theorem SameCommand.refl (s : DriveAdapter) : SameCommand s s := ⟨rfl, rfl⟩

theorem SameCommand.trans {middle : DriveAdapter} (h : SameCommand s middle)
    (h' : SameCommand middle next) : SameCommand s next :=
  ⟨h'.command.trans h.command, h'.direct.trans h.direct⟩

theorem wheelspinGuard_sameCommand (s : DriveAdapter) (now encoderSpeed : ℚ) :
    SameCommand s (s.wheelspinGuard now encoderSpeed).1 := by
  unfold wheelspinGuard
  split
  · exact ⟨rfl, rfl⟩
  · split <;> exact ⟨rfl, rfl⟩

theorem integrate_sameCommand (s : DriveAdapter) (base speedError : ℚ) (dt : Option ℚ)
    (freeze : IntegratorFreezeReason) :
    SameCommand s (s.integrate base speedError dt freeze).1 := by
  unfold integrate
  split
  · exact .refl s
  · split
    · exact .refl s
    · dsimp only
      split <;> exact ⟨rfl, rfl⟩

theorem drive_sameCommand (lib : DriveLibrary) (s : DriveAdapter) (speed lateralDemand now : ℚ) :
    SameCommand s (s.drive lib speed lateralDemand now).1 := by
  have hTimed : ∀ guarded : DriveAdapter, SameCommand guarded guarded.integrationDt.1 :=
    fun guarded => ⟨rfl, rfl⟩
  unfold drive
  exact ((s.wheelspinGuard_sameCommand now _).trans (hTimed _)).trans
    (integrate_sameCommand _ _ _ _ _)

theorem step_sameCommand (lib : DriveLibrary) (s : DriveAdapter) (now : ℚ) :
    SameCommand s (s.step lib now).1 := by
  unfold step
  split
  · split
    · exact ⟨rfl, rfl⟩
    · split
      · split
        · exact ⟨rfl, rfl⟩
        · exact s.drive_sameCommand lib _ _ now
      · exact ⟨rfl, rfl⟩
  · exact ⟨rfl, rfl⟩

theorem setLiveParameters_sameCommand {lib : DriveLibrary} {updates : List (String × PyValue)}
    (h : s.setLiveParameters lib updates = .ok next) : SameCommand s next := by
  unfold setLiveParameters at h
  dsimp only at h
  split at h
  · cases h
  · split at h
    · cases h
    · split at h
      · cases h
      · split at h <;> cases h <;> exact ⟨rfl, rfl⟩

/-- A cycle that publishes a command converts one. -/
theorem command_of_publish {lib : DriveLibrary} {now : ℚ}
    (h : (s.step lib now).2.publishCommand = true) : ∃ command, s.command = some command := by
  unfold step at h
  split at h
  · rename_i speed lateralDemand time hCommand hTime
    exact ⟨_, hCommand⟩
  · cases h

end DriveAdapter

end PreRunner.Drive
