import PreRunner.Interfaces

/-!
# The teleop node

`runner_teleop` turns the controller and the keyboard bridge into `/cmd_vel_teleop`. The messages
only set flags; every command is published by `publish_cmd`, which first expires the inputs that
have been silent for too long. The controller comes before the keyboard.
-/

namespace PreRunner.Teleop

/-! ## Messages -/

/-- `sensor_msgs/Joy`. -/
structure Joy where
  axes : List PyFloat
  buttons : List Int
  deriving DecidableEq, Repr

/-- `KeyboardState`, as far as the node reads it. -/
structure KeyboardState where
  valid : Bool
  mode : UInt8
  throttle : PyFloat
  steering : PyFloat
  deriving DecidableEq, Repr

namespace KeyboardState

def modeDrive : UInt8 := 0
def modeBrake : UInt8 := 1
def modeSuppress : UInt8 := 2
def modeBrakeSuppress : UInt8 := 3

def inUnitRange : PyFloat → Bool
  | .finite value => -1 ≤ value && value ≤ 1
  | _ => false

/-- The mode is one of the four, and both demands are within the unit range. -/
def wellFormed (msg : KeyboardState) : Bool :=
  [modeDrive, modeBrake, modeSuppress, modeBrakeSuppress].contains msg.mode &&
    inUnitRange msg.throttle && inUnitRange msg.steering

def brake (msg : KeyboardState) : Bool := msg.mode &&& modeBrake ≠ 0

def suppress (msg : KeyboardState) : Bool := msg.mode &&& modeSuppress ≠ 0

def motion (msg : KeyboardState) : Bool := msg.throttle ≠ .finite 0 && !msg.brake

end KeyboardState

/-- The values of `/teleop/active_mode`. -/
inductive TeleopMode where
  | brake
  | manual
  | fixedThrottle
  | teleopSuppress
  | fixedThrottleInhibited
  | keyboardBrake
  | keyboardMotion
  | keyboardDisarmed
  | releaseBrake
  deriving DecidableEq, Repr

/-- `LocalControlState` without its stamp. -/
structure ControlState where
  processEpoch : String
  takeoverEpoch : Nat
  connected : Bool
  active : Bool
  neutral : Bool
  released : Bool
  sampleAgeSec : ℚ
  mode : TeleopMode
  deriving DecidableEq, Repr

/-- What the node publishes. -/
inductive TeleopOutput where
  | setpoint (value : ℚ)
  | activeMode (mode : TeleopMode)
  | controlState (state : ControlState)
  | command (twist : Twist)
  deriving DecidableEq, Repr

/-! ## Shaping the controller -/

def throttleDeadzone : ℚ := 5 / 100
def l1ButtonIndex : Int := 4
def r1ButtonIndex : Int := 5
def dpadVerticalAxisIndex : Nat := 7

/-- `_trigger`: 1 pressed, 0 released. The comparisons of `max` and `min` leave 1 for a NaN. -/
def trigger : PyFloat → ℚ
  | .finite raw => max 0 (min 1 ((1 - raw) / 2))
  | .inf false => 0
  | .inf true => 1
  | .nan => 1

/-- `_shape_manual_command`: a linear and cubic blend with the sign of the command. -/
def shapeManualCommand (command expo : ℚ) : ℚ :=
  let magnitude := max 0 (min 1 |command|)
  let shaped := (1 - expo) * magnitude + expo * magnitude ^ 3
  if magnitude ≠ 0 then (if command < 0 then -shaped else shaped) else 0

/-- `_button_held`. -/
def buttonHeld (msg : Joy) (index : Int) : Bool :=
  0 ≤ index && msg.buttons[index.toNat]? = some 1

/-- `_active_mode`. -/
def activeMode (manualHeld fixedThrottleHeld teleopSuppressHeld fixedThrottleInhibited : Bool) :
    TeleopMode :=
  if manualHeld then .manual
  else if fixedThrottleHeld then
    if fixedThrottleInhibited then .fixedThrottleInhibited else .fixedThrottle
  else if teleopSuppressHeld then .teleopSuppress
  else .brake

/-- The direction in which the D-pad is pressed. -/
def dpadDirection (msg : Joy) : Int :=
  match msg.axes[dpadVerticalAxisIndex]? with
  | some (.finite value) => if 1 / 2 < value then 1 else if value < -(1 / 2) then -1 else 0
  | some (.inf negative) => if negative then -1 else 1
  | _ => 0

/-- `_adjust_setpoint`, on the decimal values. -/
def adjustSetpoint (current step minimum maximum : ℚ) (direction : Int) : ℚ :=
  max minimum (min maximum (current + direction * step))

/-- `xs[i]` with the negative indices of Python; `none` is the `IndexError`. -/
def pyIndex? {α : Type} (xs : List α) (i : Int) : Option α :=
  if 0 ≤ i then xs[i.toNat]? else if -(xs.length : Int) ≤ i then xs[(xs.length + i).toNat]?
  else none

/-! ## The node -/

/-- The parameters as far as `__init__` has checked them. -/
structure TeleopConfig where
  axisSteer : Int
  axisReverse : Int
  axisThrottle : Int
  deadmanButton : Int
  manualTriggerExpo : ℚ
  fixedThrottleStep : ℚ
  fixedThrottleMinSetpoint : ℚ
  fixedThrottleMaxSetpoint : ℚ
  controllerTimeout : ℚ
  keyboardStateTimeout : ℚ
  releaseBrakeDuration : ℚ
  expo_mem : 0 ≤ manualTriggerExpo ∧ manualTriggerExpo ≤ 1
  step_pos : 0 < fixedThrottleStep
  setpoints : 0 ≤ fixedThrottleMinSetpoint ∧ fixedThrottleMaxSetpoint ≤ 1 ∧
    fixedThrottleMinSetpoint ≤ fixedThrottleMaxSetpoint
  controllerTimeout_pos : 0 < controllerTimeout
  keyboardStateTimeout_pos : 0 < keyboardStateTimeout
  releaseBrakeDuration_gt : 15 / 100 < releaseBrakeDuration

/-- The fields of `TeleopNode`. -/
structure TeleopNode where
  config : TeleopConfig
  processEpoch : String
  fixedThrottleSetpoint : ℚ
  steer : PyFloat := .finite 0
  manualCmd : ℚ := 0
  throttle : ℚ := 0
  reverse : ℚ := 0
  manualHeld : Bool := false
  fixedThrottleHeld : Bool := false
  teleopSuppressHeld : Bool := false
  fixedThrottleInhibited : Bool := false
  dpadPressActive : Bool := false
  lastJoyAt : Option ℚ := none
  controllerLive : Bool := false
  lastKeyboardStateAt : Option ℚ := none
  keyboardValid : Bool := false
  keyboardMode : UInt8 := KeyboardState.modeDrive
  keyboardThrottle : PyFloat := .finite 0
  keyboardSteer : PyFloat := .finite 0
  keyboardMotionRequested : Bool := false
  keyboardMotionPrevious : Bool := false
  keyboardMotionReady : Bool := false
  keyboardMotionArmed : Bool := false
  keyboardSuppressRequested : Bool := false
  keyboardSuppressArmed : Bool := false
  keyboardSuppressRearmReady : Bool := true
  takeoverEpoch : Nat := 0
  takeoverActive : Bool := false
  commandSelected : Bool := false
  releaseBrakeUntil : Option ℚ := none

namespace TeleopNode

/-! ## The controller -/

/-- `_update_dpad`: one press changes the setpoint by one step. -/
def updateDpad (node : TeleopNode) (msg : Joy) : TeleopNode :=
  let direction := dpadDirection msg
  if direction = 0 then { node with dpadPressActive := false }
  else if node.dpadPressActive then node
  else
    { node with
      dpadPressActive := true
      fixedThrottleSetpoint := adjustSetpoint node.fixedThrottleSetpoint
        node.config.fixedThrottleStep node.config.fixedThrottleMinSetpoint
        node.config.fixedThrottleMaxSetpoint direction }

/-- `_disarm_held_keyboard_motion`. -/
def disarmHeldKeyboardMotion (node : TeleopNode) : TeleopNode :=
  if node.keyboardMotionRequested then
    { node with keyboardMotionArmed := false, keyboardMotionReady := false }
  else node

/-- The buttons of `on_joy`: who takes over, and what that takes from the keyboard. -/
def joyButtons (node : TeleopNode) (msg : Joy) : TeleopNode :=
  let manualHeld := buttonHeld msg node.config.deadmanButton
  let fixedThrottleHeld := buttonHeld msg r1ButtonIndex
  let teleopSuppressHeld := buttonHeld msg l1ButtonIndex
  let takeoverActive := manualHeld || fixedThrottleHeld
  let node :=
    { node with
      fixedThrottleInhibited :=
        if !fixedThrottleHeld then false
        else if manualHeld then true else node.fixedThrottleInhibited
      manualHeld
      fixedThrottleHeld
      teleopSuppressHeld
      takeoverEpoch :=
        if takeoverActive && !node.takeoverActive then node.takeoverEpoch + 1
        else node.takeoverEpoch
      takeoverActive }
  if manualHeld || fixedThrottleHeld || teleopSuppressHeld then
    { node.disarmHeldKeyboardMotion with
      keyboardSuppressArmed := false
      keyboardSuppressRearmReady := false }
  else node

/-- The axes of `on_joy`; `none` is an `IndexError`. -/
def joyAxes (node : TeleopNode) (msg : Joy) : Option TeleopNode :=
  if (msg.axes.length : Int) ≤
      max (max node.config.axisSteer node.config.axisReverse) node.config.axisThrottle then
    some { node with manualCmd := 0, reverse := 0 }
  else do
    let reverseRaw ← pyIndex? msg.axes node.config.axisReverse
    let throttleRaw ← pyIndex? msg.axes node.config.axisThrottle
    let steer ← pyIndex? msg.axes node.config.axisSteer
    let throttle := trigger throttleRaw
    let reverse := trigger reverseRaw
    let rawManualCmd := if throttleDeadzone < reverse then -reverse else throttle
    pure
      { node with
        steer
        reverse
        throttle
        manualCmd := shapeManualCommand rawManualCmd node.config.manualTriggerExpo }

/-- `on_joy`. Nothing catches its `IndexError`, which ends the process. -/
def onJoy (node : TeleopNode) (msg : Joy) (now : ℚ) : Option TeleopNode :=
  let node := { node with lastJoyAt := some now, controllerLive := true }
  ((node.joyButtons msg).updateDpad msg).joyAxes msg

/-! ## The control tick -/

/-- `_invalidate_keyboard`. -/
def invalidateKeyboard (node : TeleopNode) : TeleopNode :=
  { node with
    keyboardValid := false
    keyboardMotionArmed := false
    keyboardMotionReady := false
    keyboardSuppressArmed := false }

/-- The controller's part of `_expire_inputs`. -/
def expireController (node : TeleopNode) (now : ℚ) : TeleopNode :=
  if node.controllerLive && node.lastJoyAt.any (node.config.controllerTimeout < now - ·) then
    { node.disarmHeldKeyboardMotion with
      controllerLive := false
      manualHeld := false
      fixedThrottleHeld := false
      teleopSuppressHeld := false
      takeoverActive := false
      fixedThrottleInhibited := false
      steer := .finite 0
      manualCmd := 0
      throttle := 0
      reverse := 0 }
  else node

/-- The keyboard's part of `_expire_inputs`. -/
def expireKeyboard (node : TeleopNode) (now : ℚ) : TeleopNode :=
  if node.keyboardValid &&
      node.lastKeyboardStateAt.any (node.config.keyboardStateTimeout < now - ·) then
    node.invalidateKeyboard
  else node

def expireInputs (node : TeleopNode) (now : ℚ) : TeleopNode :=
  (node.expireController now).expireKeyboard now

/-- `_publish_control_state`. -/
def controlState (node : TeleopNode) (now : ℚ) (mode : TeleopMode) : ControlState :=
  { processEpoch := node.processEpoch
    takeoverEpoch := node.takeoverEpoch
    connected := node.controllerLive
    active := node.takeoverActive
    neutral := !node.controllerLive || (!node.manualHeld && !node.fixedThrottleHeld &&
      node.throttle ≤ throttleDeadzone && node.reverse ≤ throttleDeadzone)
    released := !node.takeoverActive
    sampleAgeSec := node.lastJoyAt.elim (-1) fun joyAt => max 0 (now - joyAt)
    mode }

/-- What `publish_cmd` has chosen before it looks at the release brake. -/
structure Selection where
  mode : TeleopMode
  selected : Bool
  command : PyFloat
  steer : PyFloat
  deriving DecidableEq, Repr

/-- The branches of `publish_cmd`. -/
def select (node : TeleopNode) : Selection :=
  let mode := activeMode node.manualHeld node.fixedThrottleHeld node.teleopSuppressHeld
    node.fixedThrottleInhibited
  if mode = .manual then ⟨mode, true, .finite node.manualCmd, node.steer⟩
  else if mode = .fixedThrottle || mode = .fixedThrottleInhibited then
    let command :=
      if throttleDeadzone < node.reverse then -node.fixedThrottleSetpoint
      else if mode = .fixedThrottle && throttleDeadzone < node.throttle then
        node.fixedThrottleSetpoint
      else 0
    ⟨mode, true, .finite command, node.steer⟩
  else if mode = .teleopSuppress then ⟨mode, false, .finite 0, node.steer⟩
  else if node.keyboardValid && node.keyboardMode &&& KeyboardState.modeBrake ≠ 0 then
    ⟨.keyboardBrake, true, .finite 0, node.keyboardSteer⟩
  else if node.keyboardSuppressRequested && node.keyboardSuppressArmed then
    ⟨.teleopSuppress, false, .finite 0, node.steer⟩
  else if node.keyboardValid && node.keyboardMotionRequested && node.keyboardMotionArmed then
    ⟨.keyboardMotion, true, node.keyboardThrottle, node.keyboardSteer⟩
  else if node.keyboardValid then
    ⟨if node.keyboardMotionRequested || node.keyboardSuppressRequested then .keyboardDisarmed
      else .brake, false, .finite 0, node.keyboardSteer⟩
  else ⟨mode, false, .finite 0, node.steer⟩

/-- The end of a selection starts the release brake. -/
def releaseDeadline (node : TeleopNode) (now : ℚ) (selected : Bool) : Option ℚ :=
  if node.commandSelected && !selected then some (now + node.config.releaseBrakeDuration)
  else node.releaseBrakeUntil

/-- The three publications of every cycle. -/
def diagnostics (node : TeleopNode) (now : ℚ) (mode : TeleopMode) : List TeleopOutput :=
  [.setpoint node.fixedThrottleSetpoint, .activeMode mode,
    .controlState (node.controlState now mode)]

/-- `publish_cmd`. -/
def publishCmd (node : TeleopNode) (now : ℚ) : TeleopNode × List TeleopOutput :=
  let node := node.expireInputs now
  let choice := node.select
  let deadline := (node.releaseDeadline now choice.selected).filter (now < ·)
  let node := { node with steer := choice.steer, commandSelected := choice.selected }
  if choice.selected then
    ({ node with releaseBrakeUntil := none }, node.diagnostics now choice.mode ++
      [.command { linearX := choice.command, angularZ := choice.steer }])
  else if deadline.isSome then
    ({ node with releaseBrakeUntil := deadline, steer := .finite 0 },
      node.diagnostics now .releaseBrake ++ [.command {}])
  else ({ node with releaseBrakeUntil := none }, node.diagnostics now choice.mode)

/-! ## The keyboard -/

/-- The suppression latch of `on_keyboard`. -/
def latchSuppress (node : TeleopNode) (msg : KeyboardState) : TeleopNode :=
  if msg.brake then
    { node with keyboardSuppressArmed := false, keyboardSuppressRearmReady := true }
  else if !msg.suppress then { node with keyboardSuppressRearmReady := true }
  else if node.keyboardSuppressRearmReady then
    { node with keyboardSuppressArmed := true, keyboardSuppressRearmReady := false }
  else node

/-- The last part of `on_keyboard`, for a valid message. -/
def takeKeyboard (node : TeleopNode) (msg : KeyboardState) : TeleopNode :=
  let node :=
    if !msg.motion then { node with keyboardMotionReady := true, keyboardMotionArmed := false }
    else if !node.keyboardMotionPrevious && node.keyboardMotionReady then
      { node with keyboardMotionArmed := true, keyboardMotionReady := false }
    else node
  { node with
    keyboardValid := true
    keyboardMode := msg.mode
    keyboardThrottle := msg.throttle
    keyboardSteer := msg.steering
    keyboardMotionRequested := msg.motion
    keyboardMotionPrevious := msg.motion
    keyboardSuppressRequested := msg.suppress }

/-- `on_keyboard`; `publishNow` is the clock of the `publish_cmd` it may call. -/
def onKeyboard (node : TeleopNode) (msg : KeyboardState) (now publishNow : ℚ) :
    TeleopNode × List TeleopOutput :=
  let node := { node with lastKeyboardStateAt := some now }
  if !msg.wellFormed then (node.invalidateKeyboard, [])
  else
    let node := node.latchSuppress msg
    if !msg.valid && !msg.suppress then node.invalidateKeyboard.publishCmd publishNow
    else if !msg.valid then
      ({ node with keyboardValid := false, keyboardSuppressRequested := true }, [])
    else if msg.brake then (node.takeKeyboard msg).publishCmd publishNow
    else (node.takeKeyboard msg, [])

end TeleopNode

/-! ## The constructor -/

/-- The parameters that `__init__` reads. -/
structure TeleopParameters where
  axisSteer : Int := 0
  axisBrake : Int := 2
  axisThrottle : Int := 5
  deadmanButton : Int := 0
  manualTriggerExpo : PyFloat := .finite (1 / 2)
  fixedThrottleInitialSetpoint : PyFloat := .finite 0
  fixedThrottleStep : PyFloat := .finite (1 / 100)
  fixedThrottleMaxSetpoint : PyFloat := .finite (1 / 2)
  fixedThrottleMinSetpoint : PyFloat := .finite 0
  controllerTimeout : PyFloat := .finite (15 / 100)
  keyboardStateTimeout : PyFloat := .finite (15 / 100)
  releaseBrakeDuration : PyFloat := .finite (35 / 100)
  deriving DecidableEq, Repr

/-- A finite parameter above a bound, or the message of the `ValueError`. -/
def exceeding (bound : ℚ) (message : String) : PyFloat →
    Except String { value : ℚ // bound < value }
  | .finite value => if h : bound < value then .ok ⟨value, h⟩ else .error message
  | _ => .error message

/-- `_validate_manual_trigger_expo`. -/
def validateManualTriggerExpo :
    PyFloat → Except String { value : ℚ // 0 ≤ value ∧ value ≤ 1 }
  | .finite value =>
    if h : 0 ≤ value ∧ value ≤ 1 then .ok ⟨value, h⟩
    else .error "manual_trigger_expo must be between zero and one"
  | _ => .error "manual_trigger_expo must be a finite float"

/-- The fixed-throttle parameters after `_validate_fixed_throttle_config`. -/
structure FixedThrottle where
  initial : ℚ
  step : ℚ
  minimum : ℚ
  maximum : ℚ
  step_pos : 0 < step
  bounds : 0 ≤ minimum ∧ maximum ≤ 1 ∧ minimum ≤ maximum
  initial_mem : minimum ≤ initial ∧ initial ≤ maximum

/-- `_validate_fixed_throttle_config`. -/
def validateFixedThrottleConfig (initial step minimum maximum : PyFloat) :
    Except String FixedThrottle :=
  match initial, step, minimum, maximum with
  | .finite initial, .finite step, .finite minimum, .finite maximum =>
    if hStep : step ≤ 0 then .error "fixed_throttle_step must be greater than zero"
    else if hMinimum : minimum < 0 then
      .error "fixed_throttle_min_setpoint must be greater than or equal to zero"
    else if hMaximum : 1 < maximum then
      .error "fixed_throttle_max_setpoint must be less than or equal to one"
    else if hOrder : maximum < minimum then
      .error "fixed_throttle_min_setpoint must not exceed the maximum"
    else if hInitial : minimum ≤ initial ∧ initial ≤ maximum then
      .ok
        { initial
          step
          minimum
          maximum
          step_pos := not_le.mp hStep
          bounds := ⟨not_lt.mp hMinimum, not_lt.mp hMaximum, not_lt.mp hOrder⟩
          initial_mem := hInitial }
    else .error "fixed_throttle_initial_setpoint must be within configured bounds"
  | _, _, _, _ => .error "fixed-throttle parameters must all be finite"

/-- The node before its first message. -/
def TeleopConfig.node (config : TeleopConfig) (fixedThrottleSetpoint : ℚ) (processEpoch : String) :
    TeleopNode :=
  { config, fixedThrottleSetpoint, processEpoch }

/-- `__init__`; the error is the text of its `ValueError`. -/
def TeleopParameters.start (p : TeleopParameters) (processEpoch : String) :
    Except String TeleopNode := do
  let controllerTimeout ←
    exceeding 0 "controller_timeout must be a positive float" p.controllerTimeout
  let keyboardStateTimeout ←
    exceeding 0 "keyboard_state_timeout must be a positive float" p.keyboardStateTimeout
  let releaseBrakeDuration ←
    exceeding (15 / 100) "release_brake_duration must be finite and exceed mux timeout"
      p.releaseBrakeDuration
  let expo ← validateManualTriggerExpo p.manualTriggerExpo
  let fixed ←
    (validateFixedThrottleConfig p.fixedThrottleInitialSetpoint p.fixedThrottleStep
      p.fixedThrottleMinSetpoint p.fixedThrottleMaxSetpoint).mapError
        ("Invalid fixed-throttle configuration: " ++ ·)
  let config : TeleopConfig :=
    { axisSteer := p.axisSteer
      axisReverse := p.axisBrake
      axisThrottle := p.axisThrottle
      deadmanButton := p.deadmanButton
      manualTriggerExpo := expo.1
      fixedThrottleStep := fixed.step
      fixedThrottleMinSetpoint := fixed.minimum
      fixedThrottleMaxSetpoint := fixed.maximum
      controllerTimeout := controllerTimeout.1
      keyboardStateTimeout := keyboardStateTimeout.1
      releaseBrakeDuration := releaseBrakeDuration.1
      expo_mem := expo.2
      step_pos := fixed.step_pos
      setpoints := fixed.bounds
      controllerTimeout_pos := controllerTimeout.2
      keyboardStateTimeout_pos := keyboardStateTimeout.2
      releaseBrakeDuration_gt := releaseBrakeDuration.2 }
  .ok (config.node fixed.initial processEpoch)

/-! ## Runs -/

/-- What the node receives, with the readings of its clock. -/
inductive TeleopInput where
  | joy (msg : Joy) (now : ℚ)
  | keyboard (msg : KeyboardState) (now publishNow : ℚ)
  | tick (now : ℚ)

/-- The node after an input and what it publishes; `none` is a process that has ended. -/
def respond : Option TeleopNode → TeleopInput → Option TeleopNode × List TeleopOutput
  | none, _ => (none, [])
  | some node, .joy msg now => (node.onJoy msg now, [])
  | some node, .keyboard msg now publishNow =>
    ((node.onKeyboard msg now publishNow).1, (node.onKeyboard msg now publishNow).2)
  | some node, .tick now => ((node.publishCmd now).1, (node.publishCmd now).2)

end PreRunner.Teleop
