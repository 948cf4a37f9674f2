import Mathlib.Algebra.Order.Floor.Ring
import Mathlib.Data.Rat.Floor
import PreRunner.PyFloat

/-!
# The motor driver

`MotorNode` turns `/cmd_vel` into a PWM duty and a direction line, and steers a servo. The
motor's direction line must not move while the wheel turns, so a command against the present
direction only leaves a request, which a later stationary `/wheel/encoder_state` completes.
This module follows `runner_motor/motor_node.py` with the writes of each callback in order;
sysfs and GPIO accesses succeed.
-/

namespace PreRunner.Motor

def motorPeriodNs : ℤ := 50000
def servoPeriodNs : ℤ := 20000000
/-- `CMD_TIMEOUT_S`, exactly a fifth of a second; the double of the code lies about 1e-17 above
it. -/
def cmdTimeoutS : ℚ := 2 / 10
def steerCtr : ℤ := 1500
def steerUs : ℤ := 450
def steerSign : ℤ := -1

/-- The levels of the direction line, `DIR_FORWARD` and `DIR_REVERSE`. -/
inductive DirLine where
  | forward
  | reverse
  deriving DecidableEq, Repr

/-- The sign of a command in this direction, as `_direction_latch` keeps it. -/
def DirLine.latch : DirLine → ℤ
  | forward => 1
  | reverse => -1

def usToNs (us : ℤ) : ℤ := us * 1000

/-- Python `max(-1.0, min(1.0, value))`; every comparison with NaN is false. -/
def clampUnit : PyFloat → ℚ
  | .finite value => max (-1) (min 1 value)
  | .inf negative => if negative then -1 else 1
  | .nan => 1

/-- `int(value)` of a finite float. -/
def truncate (value : ℚ) : ℤ := if 0 ≤ value then ⌊value⌋ else ⌈value⌉

/-- `(command > 0.0) - (command < 0.0)`. -/
def signOf (command : ℚ) : ℤ := (if 0 < command then 1 else 0) - (if command < 0 then 1 else 0)

/-- The direction and the duty of a normalized signed command. The product is taken exactly, where
the code rounds it to a double: next to a whole number the duty may differ by a nanosecond. -/
def mapMotorCommand (linearX : PyFloat) : ℤ × ℤ :=
  let command := clampUnit (if linearX.isfinite then linearX else .finite 0)
  (signOf command, truncate (|command| * motorPeriodNs))

/-- The servo pulse of a steering command. The products are taken exactly, where the code rounds
them to doubles: next to a whole number the pulse may differ by a microsecond. -/
def steerPulseUs (angularZ : PyFloat) : ℤ :=
  truncate (steerCtr + steerSign * clampUnit angularZ * steerUs)

/-! ## PWM channels -/

/-- The `polarity` attribute of a channel. -/
inductive PwmPolarity where
  | normal
  | inversed
  deriving DecidableEq, Repr

/-- The attributes of an exported channel. -/
structure SysfsPwm where
  enabled : Bool := false
  period : ℤ := 0
  duty : ℤ := 0
  polarity : PwmPolarity := .normal
  deriving DecidableEq, Repr

/-- A write to an attribute of a channel. -/
inductive PwmWrite where
  | duty (ns : ℤ)
  | period (ns : ℤ)
  | polarity (value : PwmPolarity)
  | enable (value : Bool)
  deriving DecidableEq, Repr

/-- The effect of one write. -/
def SysfsPwm.apply (pwm : SysfsPwm) : PwmWrite → SysfsPwm
  | .duty ns => { pwm with duty := ns }
  | .period ns => { pwm with period := ns }
  | .polarity value => { pwm with polarity := value }
  | .enable value => { pwm with enabled := value }

/-- Why the constructor raises. -/
inductive InitError where
  | dutyOutsidePeriod
  | unexpectedPolarity
  | periodReadBack
  deriving DecidableEq, Repr

/-- `initialize_pwm`: the writes it makes, and whether the channel was still to be enabled. -/
def initializePwm (pwm : SysfsPwm) (targetPeriodNs targetDutyNs : ℤ) (deferEnable : Bool) :
    List PwmWrite × Except InitError Bool :=
  if ¬ (0 ≤ targetDutyNs ∧ targetDutyNs ≤ targetPeriodNs) then ([], .error .dutyOutsidePeriod)
  else if pwm.enabled then
    -- This must be the first write during hot recovery.
    if pwm.polarity ≠ .normal then ([.duty 0], .error .unexpectedPolarity)
    else ([.duty 0, .period targetPeriodNs, .duty targetDutyNs], .ok false)
  else
    let fresh := if pwm.period = 0 then [PwmWrite.period targetPeriodNs] else []
    let polarity := if pwm.polarity ≠ .normal then [PwmWrite.polarity .normal] else []
    let shrink :=
      if pwm.period ≠ 0 then
        (if targetPeriodNs < pwm.duty then [PwmWrite.duty 0] else []) ++
          [.period targetPeriodNs]
      else []
    let enable := if deferEnable then [] else [PwmWrite.enable true]
    (fresh ++ polarity ++ shrink ++ [.duty targetDutyNs] ++ enable, .ok true)

/-! ## Outputs -/

/-- What the node does to its devices, in the order in which it does it. -/
inductive MotorOutput where
  | motor (write : PwmWrite)
  | servo (write : PwmWrite)
  | dirLine (level : DirLine)
  | publishDirection (data : ℤ)
  deriving DecidableEq, Repr

/-- The devices as the outputs leave them, and what `/motor/direction` carried last. -/
structure MotorHardware where
  motor : SysfsPwm := {}
  servo : SysfsPwm := {}
  line : DirLine := .forward
  published : Option ℤ := none
  deriving DecidableEq, Repr

/-- The effect of one output. -/
def MotorHardware.apply (hardware : MotorHardware) : MotorOutput → MotorHardware
  | .motor write => { hardware with motor := hardware.motor.apply write }
  | .servo write => { hardware with servo := hardware.servo.apply write }
  | .dirLine level => { hardware with line := level }
  | .publishDirection data => { hardware with published := some data }

/-! ## The node -/

/-- The fields of the node. -/
structure MotorNode where
  hardwareDirection : DirLine := .forward
  directionLatch : ℤ := 1
  pendingReversal : Option (DirLine × ℤ) := none
  lastCmd : ℚ
  cmdTimedOut : Bool := false
  stopped : Bool := false
  deriving DecidableEq, Repr

/-- The callbacks with the messages and the clock they read. -/
inductive MotorInput where
  | cmd (linearX angularZ : PyFloat) (now : ℚ)
  | encoderState (stationary : Bool)
  | watchdog (now : ℚ)
  deriving DecidableEq, Repr

namespace MotorNode

/-- The deferred `motor.enable()`. -/
def enableWrites (motorNeedsEnable : Bool) : List MotorOutput :=
  if motorNeedsEnable then [.motor (.enable true)] else []

/-- The constructor: the motor is enabled only after its direction is defined at duty zero. -/
def init (hardware : MotorHardware) (now : ℚ) : List MotorOutput × Except InitError MotorNode :=
  let (motorWrites, motorNeedsEnable) := initializePwm hardware.motor motorPeriodNs 0 true
  match motorNeedsEnable with
  | .error error => (motorWrites.map .motor, .error error)
  | .ok motorNeedsEnable =>
    let (servoWrites, servoNeedsEnable) :=
      initializePwm hardware.servo servoPeriodNs (usToNs steerCtr) false
    match servoNeedsEnable with
    | .error error => (motorWrites.map .motor ++ servoWrites.map .servo, .error error)
    | .ok _ =>
      let writes := motorWrites.map .motor ++ servoWrites.map .servo ++ [.dirLine .forward] ++
        enableWrites motorNeedsEnable
      let readBack := writes.foldl MotorHardware.apply hardware
      if readBack.motor.period ≠ motorPeriodNs ∨ readBack.servo.period ≠ servoPeriodNs then
        (writes, .error .periodReadBack)
      else (writes ++ [.publishDirection 1], .ok { lastCmd := now })

/-- `_set_motor`. -/
def setMotor (node : MotorNode) (direction dutyNs : ℤ) : MotorNode × List MotorOutput :=
  if direction = 0 then ({ node with pendingReversal := none }, [.motor (.duty 0)])
  else
    let hardwareDirection := if 0 < direction then DirLine.forward else .reverse
    if hardwareDirection = node.hardwareDirection then
      ({ node with pendingReversal := none }, [.motor (.duty dutyNs)])
    else ({ node with pendingReversal := some (hardwareDirection, dutyNs) }, [.motor (.duty 0)])

/-- `on_cmd`. -/
def onCmd (node : MotorNode) (linearX angularZ : PyFloat) (now : ℚ) :
    MotorNode × List MotorOutput :=
  let node := { node with cmdTimedOut := false, lastCmd := now }
  let (direction, dutyNs) := mapMotorCommand linearX
  let (node, writes) := node.setMotor direction dutyNs
  (node, writes ++ [.publishDirection node.directionLatch,
    .servo (.duty (usToNs (steerPulseUs angularZ)))])

/-- `_on_encoder_state`: a stationary sample completes the pending reversal. -/
def onEncoderState (node : MotorNode) (stationary : Bool) : MotorNode × List MotorOutput :=
  match stationary, node.pendingReversal with
  | true, some (hardwareDirection, dutyNs) =>
    ({ node with
        hardwareDirection
        directionLatch := hardwareDirection.latch
        pendingReversal := none },
      [.motor (.duty 0), .dirLine hardwareDirection, .motor (.duty dutyNs),
        .publishDirection hardwareDirection.latch])
  | _, _ => (node, [])

/-- The watchdog finds the last command too old. -/
def timesOut (node : MotorNode) (now : ℚ) : Bool := cmdTimeoutS < now - node.lastCmd

/-- `_watchdog`. -/
def watchdog (node : MotorNode) (now : ℚ) : MotorNode × List MotorOutput :=
  if node.timesOut now then
    ({ node with pendingReversal := none, cmdTimedOut := true },
      .motor (.duty 0) ::
        if node.cmdTimedOut then [] else [.publishDirection node.directionLatch])
  else (node, [])

/-- `stop`, after which the executor calls no callback any more. -/
def stop (node : MotorNode) : MotorNode × List MotorOutput :=
  if node.stopped then (node, [])
  else
    ({ node with pendingReversal := none, stopped := true },
      [.motor (.duty 0), .publishDirection node.directionLatch,
        .servo (.duty (usToNs steerCtr)), .servo (.enable false)])

/-- One callback. -/
def step (node : MotorNode) : MotorInput → MotorNode × List MotorOutput
  | .cmd linearX angularZ now => node.onCmd linearX angularZ now
  | .encoderState stationary => node.onEncoderState stationary
  | .watchdog now => node.watchdog now

end MotorNode

end PreRunner.Motor
