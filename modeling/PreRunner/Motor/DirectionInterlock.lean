import PreRunner.Runs.Emission
import PreRunner.Motor.MotorNode

/-!
# The direction interlock of the motor driver

The direction line only moves at duty zero, and only when a stationary sample answers a request
that is still standing. `Coupled` ties the fields of the node to the devices and to the inputs
so far; every output of every callback is then safe for the device it meets.

Safety is stated of each single output (`SafeOutput`), for the devices as the outputs before it in
the same callback have left them. A process that ends in the middle of a callback therefore leaves
the devices as safe as one that ends between two of them.
-/

namespace PreRunner.Motor

open Runs

/-! ## The duty computation -/

theorem clampUnit_bounds (value : PyFloat) : -1 ≤ clampUnit value ∧ clampUnit value ≤ 1 := by
  cases value with
  | finite value => exact ⟨le_max_left _ _, max_le (by norm_num) (min_le_left _ _)⟩
  | inf negative => cases negative <;> exact ⟨by decide +kernel, by decide +kernel⟩
  | nan => exact ⟨by decide +kernel, by decide +kernel⟩

theorem truncate_bounds {value : ℚ} {bound : ℤ} (hLow : 0 ≤ value) (hHigh : value ≤ bound) :
    0 ≤ truncate value ∧ truncate value ≤ bound := by
  rw [truncate, if_pos hLow]
  exact ⟨Int.floor_nonneg.mpr hLow, Int.floor_le_iff.mpr (by linarith)⟩

/-- The duty of every command lies within the period. -/
theorem mapMotorCommand_duty (linearX : PyFloat) :
    0 ≤ (mapMotorCommand linearX).2 ∧ (mapMotorCommand linearX).2 ≤ motorPeriodNs := by
  have hUnit := clampUnit_bounds (if linearX.isfinite then linearX else .finite 0)
  have hPeriod : (0 : ℚ) ≤ motorPeriodNs := by decide +kernel
  refine truncate_bounds (mul_nonneg (abs_nonneg _) hPeriod) ?_
  exact mul_le_of_le_one_left hPeriod (abs_le.mpr hUnit)

theorem mapMotorCommand_direction (linearX : PyFloat) :
    (mapMotorCommand linearX).1 = 0 ∨
      ∃ line : DirLine, (mapMotorCommand linearX).1 = line.latch := by
  generalize hCommand : mapMotorCommand linearX = mapped
  obtain ⟨direction, duty⟩ := mapped
  have hSign : direction = signOf (clampUnit (if linearX.isfinite then linearX else .finite 0)) :=
    (congrArg Prod.fst hCommand).symm
  rw [hSign]
  rcases lt_trichotomy (clampUnit (if linearX.isfinite then linearX else .finite 0)) 0 with
    hNeg | hZero | hPos
  · exact Or.inr ⟨.reverse, by simp [signOf, hNeg, hNeg.not_gt, DirLine.latch]⟩
  · exact Or.inl (by simp [signOf, hZero])
  · exact Or.inr ⟨.forward, by simp [signOf, hPos, hPos.not_gt, DirLine.latch]⟩

theorem DirLine.latch_ne_zero (line : DirLine) : line.latch ≠ 0 := by
  cases line <;> decide

/-- The level that `_set_motor` asks for. -/
theorem DirLine.ofLatch (line : DirLine) :
    (if 0 < line.latch then DirLine.forward else .reverse) = line := by
  cases line <;> rfl

/-! ## Requests in the history -/

/-- The direction of the last accepted command, zero before the first one. -/
def lastDirection : List MotorInput → ℤ
  | [] => 0
  | .cmd linearX _ _ :: _ => (mapMotorCommand linearX).1
  | _ :: past => lastDirection past

/-- A command in the direction `line`. -/
def Asks (line : DirLine) (_ : List MotorInput) : MotorInput → Prop
  | .cmd linearX _ _ => (mapMotorCommand linearX).1 = line.latch
  | _ => False

/-- The input is no zero command, no command in the other direction and no watchdog timeout. -/
def Leaves (start : MotorNode) (line : DirLine) (past : List MotorInput) : MotorInput → Prop
  | .cmd linearX _ _ => (mapMotorCommand linearX).1 = line.latch
  | .encoderState _ => True
  | .watchdog now => (after (advance MotorNode.step) start past).timesOut now = false

/-- The request for `line` stands: it was made, and nothing after it withdrew it. -/
abbrev Requested (start : MotorNode) (line : DirLine) (past : List MotorInput) : Prop :=
  Since (Leaves start line) (Asks line) past

theorem Requested.lastDirection {start : MotorNode} {line : DirLine} {past : List MotorInput}
    (h : Requested start line past) : lastDirection past = line.latch := by
  induction past with
  | nil => exact absurd h since_nil
  | cons input past ih =>
    cases input with
    | cmd linearX angularZ now =>
      rcases h with h | ⟨h, -⟩
      · exact h
      · exact h
    | encoderState stationary =>
      rcases h with h | ⟨-, h⟩
      · exact h.elim
      · exact ih h
    | watchdog now =>
      rcases h with h | ⟨-, h⟩
      · exact h.elim
      · exact ih h

/-! ## The invariant -/

/-- What an output must respect, given the devices it meets, the callback it belongs to and the
inputs before that callback. -/
structure SafeOutput (start : MotorNode) (past : List MotorInput) (input : MotorInput)
    (hardware : MotorHardware) (output : MotorOutput) : Prop where
  line_change : ∀ line, output = .dirLine line →
    hardware.motor.duty = 0 ∧ hardware.line ≠ line ∧ input = .encoderState true ∧
      Requested start line past
  published : ∀ data, output = .publishDirection data → data = hardware.line.latch
  driven : (hardware.apply output).motor.duty ≠ 0 →
    (hardware.apply output).line.latch = lastDirection (input :: past)
  duty_nonneg : 0 ≤ (hardware.apply output).motor.duty
  duty_le_period : (hardware.apply output).motor.duty ≤ (hardware.apply output).motor.period

/-- The devices between two callbacks, after the inputs `past`. -/
structure SafeHardware (past : List MotorInput) (hardware : MotorHardware) : Prop where
  published : hardware.published = some hardware.line.latch
  driven : hardware.motor.duty ≠ 0 → hardware.line.latch = lastDirection past
  duty_nonneg : 0 ≤ hardware.motor.duty
  duty_le_period : hardware.motor.duty ≤ hardware.motor.period

/-- The node between two callbacks. -/
structure Coupled (start : MotorNode) (past : List MotorInput) (node : MotorNode)
    (hardware : MotorHardware) : Prop extends SafeHardware past hardware where
  line : node.hardwareDirection = hardware.line
  latch : node.directionLatch = hardware.line.latch
  period : hardware.motor.period = motorPeriodNs
  pending : ∀ line duty, node.pendingReversal = some (line, duty) →
    hardware.motor.duty = 0 ∧ hardware.line ≠ line ∧ 0 ≤ duty ∧ duty ≤ motorPeriodNs ∧
      Requested start line past

/-! ## Safe outputs -/

section

variable {start : MotorNode} {past : List MotorInput} {input : MotorInput}
  {node : MotorNode} {hardware : MotorHardware}

theorem SafeOutput.duty {ns : ℤ} (hLow : 0 ≤ ns) (hHigh : ns ≤ hardware.motor.period)
    (hDriven : ns ≠ 0 → hardware.line.latch = lastDirection (input :: past)) :
    SafeOutput start past input hardware (.motor (.duty ns)) where
  line_change _ h := by cases h
  published _ h := by cases h
  driven := hDriven
  duty_nonneg := hLow
  duty_le_period := hHigh

theorem SafeOutput.stopped (h : SafeHardware past hardware) :
    SafeOutput start past input hardware (.motor (.duty 0)) :=
  .duty le_rfl (h.duty_nonneg.trans h.duty_le_period) (fun hNe => absurd rfl hNe)

/-- The outputs that do not act on the motor. -/
theorem SafeOutput.idle {output : MotorOutput} (h : SafeHardware (input :: past) hardware)
    (hApply : (hardware.apply output).motor = hardware.motor)
    (hLine : (hardware.apply output).line = hardware.line)
    (hChange : ∀ line, output ≠ .dirLine line)
    (hPublished : ∀ data, output = .publishDirection data → data = hardware.line.latch) :
    SafeOutput start past input hardware output where
  line_change line hOut := absurd hOut (hChange line)
  published := hPublished
  driven := by rw [hApply, hLine]; exact h.driven
  duty_nonneg := by rw [hApply]; exact h.duty_nonneg
  duty_le_period := by rw [hApply]; exact h.duty_le_period

theorem SafeOutput.publish (h : SafeHardware (input :: past) hardware) :
    SafeOutput start past input hardware (.publishDirection hardware.line.latch) := by
  refine .idle h rfl rfl ?_ ?_
  · intro line hOut
    cases hOut
  · intro data hOut
    cases hOut
    rfl

theorem SafeOutput.steer (h : SafeHardware (input :: past) hardware) (write : PwmWrite) :
    SafeOutput start past input hardware (.servo write) := by
  refine .idle h rfl rfl ?_ ?_
  · intro line hOut
    cases hOut
  · intro data hOut
    cases hOut

/-- The devices after a duty was written. -/
theorem SafeHardware.duty {next : List MotorInput} (h : SafeHardware past hardware) {ns : ℤ}
    (hLow : 0 ≤ ns) (hHigh : ns ≤ hardware.motor.period)
    (hDriven : ns ≠ 0 → hardware.line.latch = lastDirection next) :
    SafeHardware next (hardware.apply (.motor (.duty ns))) where
  published := h.published
  driven := hDriven
  duty_nonneg := hLow
  duty_le_period := hHigh

theorem SafeHardware.publish (h : SafeHardware past hardware) :
    SafeHardware past (hardware.apply (.publishDirection hardware.line.latch)) :=
  { h with published := rfl }

/-! ## The callbacks -/

theorem setMotor_zero (node : MotorNode) (ns : ℤ) :
    node.setMotor 0 ns = ({ node with pendingReversal := none }, [.motor (.duty 0)]) := rfl

theorem setMotor_same {node : MotorNode} {line : DirLine} (ns : ℤ)
    (h : node.hardwareDirection = line) :
    node.setMotor line.latch ns =
      ({ node with pendingReversal := none }, [.motor (.duty ns)]) := by
  simp only [MotorNode.setMotor, line.latch_ne_zero, if_false, line.ofLatch, h, if_true]

theorem setMotor_other {node : MotorNode} {line : DirLine} (ns : ℤ)
    (h : node.hardwareDirection ≠ line) :
    node.setMotor line.latch ns =
      ({ node with pendingReversal := some (line, ns) }, [.motor (.duty 0)]) := by
  simp only [MotorNode.setMotor, line.latch_ne_zero, if_false, line.ofLatch, h.symm]

/-- A callback keeps the coupling, and each of its outputs is safe. -/
def Keeps (start : MotorNode) (past : List MotorInput) (input : MotorInput)
    (hardware : MotorHardware) (result : MotorNode × List MotorOutput) : Prop :=
  Throughout MotorHardware.apply (SafeOutput start past input) hardware result.2 ∧
    Coupled start (input :: past) result.1 (result.2.foldl MotorHardware.apply hardware)

/-- `on_cmd` once `_set_motor` is known: one duty write, then the publication and the servo. -/
theorem Coupled.keeps_cmd (h : Coupled start past node hardware) {linearX angularZ : PyFloat}
    {now : ℚ} (pendingReversal : Option (DirLine × ℤ)) (ns : ℤ)
    (hSet : MotorNode.setMotor { node with cmdTimedOut := false, lastCmd := now }
        (mapMotorCommand linearX).1 (mapMotorCommand linearX).2 =
      ({ node with cmdTimedOut := false, lastCmd := now, pendingReversal },
        [.motor (.duty ns)]))
    (hLow : 0 ≤ ns) (hHigh : ns ≤ motorPeriodNs)
    (hDriven : ns ≠ 0 → hardware.line.latch = (mapMotorCommand linearX).1)
    (hPending : ∀ line duty, pendingReversal = some (line, duty) →
      ns = 0 ∧ hardware.line ≠ line ∧ 0 ≤ duty ∧ duty ≤ motorPeriodNs ∧
        Requested start line (.cmd linearX angularZ now :: past)) :
    Keeps start past (.cmd linearX angularZ now) hardware
      (node.onCmd linearX angularZ now) := by
  have hRun : node.onCmd linearX angularZ now =
      ({ node with cmdTimedOut := false, lastCmd := now, pendingReversal },
        [.motor (.duty ns), .publishDirection node.directionLatch,
          .servo (.duty (usToNs (steerPulseUs angularZ)))]) := by
    simp only [MotorNode.onCmd, hSet, List.singleton_append]
  have hHighHw : ns ≤ hardware.motor.period := h.period ▸ hHigh
  have hSafe : SafeHardware (.cmd linearX angularZ now :: past)
      (hardware.apply (.motor (.duty ns))) := h.toSafeHardware.duty hLow hHighHw hDriven
  rw [hRun, h.latch]
  refine ⟨⟨.duty hLow hHighHw hDriven, .publish hSafe, ?_, trivial⟩, ?_⟩
  · exact .steer hSafe.publish _
  · exact { published := rfl
            driven := hDriven
            duty_nonneg := hLow
            duty_le_period := hHighHw
            line := h.line
            latch := rfl
            period := h.period
            pending := hPending }

theorem Coupled.cmd (h : Coupled start past node hardware) (linearX angularZ : PyFloat)
    (now : ℚ) : Keeps start past (.cmd linearX angularZ now) hardware
      (node.onCmd linearX angularZ now) := by
  obtain ⟨hLow, hHigh⟩ := mapMotorCommand_duty linearX
  rcases mapMotorCommand_direction linearX with hZero | ⟨line, hLine⟩
  · refine h.keeps_cmd none 0 ?_ le_rfl (by decide) (fun hNe => absurd rfl hNe) ?_
    · rw [hZero, setMotor_zero]
    · intro line duty hSome
      cases hSome
  · by_cases hCurrent : line = hardware.line
    · refine h.keeps_cmd none (mapMotorCommand linearX).2 ?_ hLow hHigh ?_ ?_
      · rw [hLine]
        exact setMotor_same _ (h.line.trans hCurrent.symm)
      · intro _
        rw [hLine, hCurrent]
      · intro line duty hSome
        cases hSome
    · refine h.keeps_cmd (some (line, (mapMotorCommand linearX).2)) 0 ?_ le_rfl (by decide)
        (fun hNe => absurd rfl hNe) ?_
      · rw [hLine]
        exact setMotor_other _ fun hEq => hCurrent (hEq.symm.trans h.line)
      · intro other duty hSome
        cases hSome
        exact ⟨rfl, fun hEq => hCurrent hEq.symm, hLow, hHigh, .start hLine⟩

theorem Coupled.encoderState (h : Coupled start past node hardware) (stationary : Bool) :
    Keeps start past (.encoderState stationary) hardware (node.onEncoderState stationary) := by
  unfold MotorNode.onEncoderState
  split
  · rename_i line duty hPending
    obtain ⟨hDuty, hLine, hLow, hHigh, hRequested⟩ := h.pending line duty hPending
    have hDirection : line.latch = lastDirection (.encoderState true :: past) :=
      hRequested.lastDirection.symm
    have hHighHw : duty ≤ hardware.motor.period := hHigh.trans_eq h.period.symm
    refine ⟨⟨.stopped h.toSafeHardware, ?_, .duty hLow hHighHw fun _ => hDirection, ?_, trivial⟩,
      ?_⟩
    · exact {
        line_change := by
          intro level hOut
          cases hOut
          exact ⟨rfl, hLine, rfl, hRequested⟩
        published := by
          intro data hOut
          cases hOut
        driven := fun hNe => absurd rfl hNe
        duty_nonneg := le_rfl
        duty_le_period := h.duty_nonneg.trans h.duty_le_period }
    · exact {
        line_change := by
          intro level hOut
          cases hOut
        published := by
          intro data hOut
          cases hOut
          rfl
        driven := fun _ => hDirection
        duty_nonneg := hLow
        duty_le_period := hHighHw }
    · exact {
        published := rfl
        driven := fun _ => hDirection
        duty_nonneg := hLow
        duty_le_period := hHighHw
        line := rfl
        latch := rfl
        period := h.period
        pending := by
          intro level ns hSome
          cases hSome }
  · refine ⟨trivial, { h with pending := ?_ }⟩
    intro line duty hSome
    obtain ⟨hDuty, hLine, hLow, hHigh, hRequested⟩ := h.pending line duty hSome
    exact ⟨hDuty, hLine, hLow, hHigh, .keep trivial hRequested⟩

/-- A watchdog tick; the request survives exactly the ticks that do not time out. -/
theorem Coupled.watchdog (h : Coupled start past node hardware)
    (hNode : after (advance MotorNode.step) start past = node) (now : ℚ) :
    Keeps start past (.watchdog now) hardware (node.watchdog now) := by
  unfold MotorNode.watchdog
  split
  · have hBrake : SafeHardware (.watchdog now :: past) (hardware.apply (.motor (.duty 0))) :=
      h.toSafeHardware.duty le_rfl (h.duty_nonneg.trans h.duty_le_period)
        (fun hNe => absurd rfl hNe)
    have hStopped : SafeOutput start past (.watchdog now) hardware (.motor (.duty 0)) :=
      .stopped h.toSafeHardware
    have hNone : ∀ line duty, (none : Option (DirLine × ℤ)) = some (line, duty) →
        (0 : ℤ) = 0 ∧ hardware.line ≠ line ∧ 0 ≤ duty ∧ duty ≤ motorPeriodNs ∧
          Requested start line (.watchdog now :: past) := by
      intro line duty hSome
      cases hSome
    split
    · exact ⟨⟨hStopped, trivial⟩,
        { hBrake with line := h.line, latch := h.latch, period := h.period, pending := hNone }⟩
    · rw [h.latch]
      exact ⟨⟨hStopped, .publish hBrake, trivial⟩,
        { hBrake.publish with
          line := h.line, latch := rfl, period := h.period, pending := hNone }⟩
  · rename_i hFresh
    refine ⟨trivial, { h with pending := ?_ }⟩
    intro line duty hSome
    obtain ⟨hDuty, hLine, hLow, hHigh, hRequested⟩ := h.pending line duty hSome
    refine ⟨hDuty, hLine, hLow, hHigh, .keep ?_ hRequested⟩
    change MotorNode.timesOut _ now = false
    rw [hNode]
    exact Bool.eq_false_iff.mpr hFresh

/-- Every callback keeps the coupling. -/
theorem Coupled.step (h : Coupled start past node hardware)
    (hNode : after (advance MotorNode.step) start past = node) (input : MotorInput) :
    Keeps start past input hardware (node.step input) := by
  cases input with
  | cmd linearX angularZ now => exact h.cmd linearX angularZ now
  | encoderState stationary => exact h.encoderState stationary
  | watchdog now => exact h.watchdog hNode now

/-- The coupling holds between any two callbacks of a run. -/
theorem coupled_after {start : MotorNode} {hardware : MotorHardware}
    (h : Coupled start [] start hardware) (past : List MotorInput) :
    Coupled start past (after (advance MotorNode.step) start past)
      (deviceAfter MotorNode.step MotorHardware.apply start hardware past) := by
  have hBoth := @device_invariant _ _ _ _ MotorNode.step MotorHardware.apply start hardware
    (fun past node hardware =>
      after (advance MotorNode.step) start past = node ∧ Coupled start past node hardware)
    ⟨rfl, h⟩
    (fun past node hardware input hPast =>
      ⟨congrArg (fun node => (MotorNode.step node input).1) hPast.1,
        (hPast.2.step hPast.1 input).2⟩)
  exact (hBoth past).2

end

/-! ## The constructor -/

/-- What `initialize_pwm` leaves behind when it returns. -/
structure Initialized (pwm : SysfsPwm) (periodNs dutyNs : ℤ) : Prop where
  period : pwm.period = periodNs
  duty : pwm.duty = dutyNs
  polarity : pwm.polarity = .normal

theorem initializePwm_ok {pwm : SysfsPwm} {periodNs dutyNs : ℤ} {deferEnable needsEnable : Bool}
    (h : (initializePwm pwm periodNs dutyNs deferEnable).2 = .ok needsEnable) :
    Initialized ((initializePwm pwm periodNs dutyNs deferEnable).1.foldl SysfsPwm.apply pwm)
      periodNs dutyNs := by
  by_cases hBounds : 0 ≤ dutyNs ∧ dutyNs ≤ periodNs
  · obtain ⟨enabled, period, duty, polarity⟩ := pwm
    cases enabled with
    | true =>
      cases polarity with
      | normal => exact ⟨by simp [initializePwm, hBounds, SysfsPwm.apply],
          by simp [initializePwm, hBounds, SysfsPwm.apply],
          by simp [initializePwm, hBounds, SysfsPwm.apply]⟩
      | inversed => simp [initializePwm, hBounds] at h
    | false =>
      by_cases hPeriod : period = 0 <;> by_cases hShrink : periodNs < duty <;>
        cases polarity <;> cases deferEnable <;>
        exact ⟨by simp [initializePwm, hBounds, hPeriod, hShrink, SysfsPwm.apply],
          by simp [initializePwm, hBounds, hPeriod, hShrink, SysfsPwm.apply],
          by simp [initializePwm, hBounds, hPeriod, hShrink, SysfsPwm.apply]⟩
  · simp [initializePwm, hBounds] at h

@[simp] theorem foldl_motor (hardware : MotorHardware) (writes : List PwmWrite) :
    (writes.map MotorOutput.motor).foldl MotorHardware.apply hardware =
      { hardware with motor := writes.foldl SysfsPwm.apply hardware.motor } := by
  induction writes generalizing hardware with
  | nil => rfl
  | cons write writes ih => exact ih (hardware.apply (.motor write))

@[simp] theorem foldl_servo (hardware : MotorHardware) (writes : List PwmWrite) :
    (writes.map MotorOutput.servo).foldl MotorHardware.apply hardware =
      { hardware with servo := writes.foldl SysfsPwm.apply hardware.servo } := by
  induction writes generalizing hardware with
  | nil => rfl
  | cons write writes ih => exact ih (hardware.apply (.servo write))

theorem foldl_enableWrites (hardware : MotorHardware) (motorNeedsEnable : Bool) :
    (MotorNode.enableWrites motorNeedsEnable).foldl MotorHardware.apply hardware =
      { hardware with
        motor.enabled := motorNeedsEnable || hardware.motor.enabled } := by
  cases motorNeedsEnable <;> rfl

/-- A constructed node stands at duty zero with its direction defined and published. -/
theorem coupled_init {hardware : MotorHardware} {now : ℚ} {node : MotorNode}
    (h : (MotorNode.init hardware now).2 = .ok node) :
    Coupled node [] node ((MotorNode.init hardware now).1.foldl MotorHardware.apply hardware) := by
  generalize hMotor : initializePwm hardware.motor motorPeriodNs 0 true = motorResult
  generalize hServo : initializePwm hardware.servo servoPeriodNs (usToNs steerCtr) false =
    servoResult
  obtain ⟨motorWrites, motorNeedsEnable⟩ := motorResult
  obtain ⟨servoWrites, servoNeedsEnable⟩ := servoResult
  cases motorNeedsEnable with
  | error error => simp [MotorNode.init, hMotor] at h
  | ok motorNeedsEnable =>
    cases servoNeedsEnable with
    | error error => simp [MotorNode.init, hMotor, hServo] at h
    | ok servoNeedsEnable =>
      obtain ⟨hPeriod, hDuty, -⟩ :=
        @initializePwm_ok hardware.motor motorPeriodNs 0 true motorNeedsEnable
          (congrArg Prod.snd hMotor)
      rw [hMotor] at hPeriod hDuty
      simp only [MotorNode.init, hMotor, hServo] at h ⊢
      split at h
      · cases h
      · rename_i hReadBack
        cases h
        rw [if_neg hReadBack]
        simp only [List.foldl_append, foldl_motor, foldl_servo, List.foldl_cons, List.foldl_nil,
          foldl_enableWrites]
        exact {
          published := rfl
          driven := fun hNe => absurd hDuty hNe
          duty_nonneg := hDuty.ge
          duty_le_period := hDuty.le.trans (hPeriod ▸ (by decide : (0 : ℤ) ≤ motorPeriodNs))
          line := rfl
          latch := rfl
          period := hPeriod
          pending := by
            intro line duty hSome
            cases hSome }

/-! ## The interlock -/

/-- The devices after the constructor and the inputs `past`. -/
def hardwareAfter (hardware : MotorHardware) (now : ℚ) (node : MotorNode)
    (past : List MotorInput) : MotorHardware :=
  deviceAfter MotorNode.step MotorHardware.apply node
    ((MotorNode.init hardware now).1.foldl MotorHardware.apply hardware) past

/-- After every interleaving of callbacks the devices are safe, and so is every output of the next
callback for the devices it meets. `Coupled` relates the node to the devices, and one callback
keeps it from output to output (`Coupled.step`), so the devices are safe in the middle of a
callback too. -/
theorem direction_interlock {hardware : MotorHardware} {now : ℚ} {node : MotorNode}
    (hInit : (MotorNode.init hardware now).2 = .ok node) (past : List MotorInput) :
    SafeHardware past (hardwareAfter hardware now node past) ∧
      ∀ input before output later,
        ((after (advance MotorNode.step) node past).step input).2 = before ++ output :: later →
        SafeOutput node past input
          (before.foldl MotorHardware.apply (hardwareAfter hardware now node past)) output := by
  have hCoupled := coupled_after (coupled_init hInit) past
  refine ⟨hCoupled.toSafeHardware, ?_⟩
  intro input before output later hOutputs
  have hSafe := (hCoupled.step rfl input).1
  rw [hOutputs] at hSafe
  exact hSafe.at

/-- A hot recovery, full speed forward, and a reversal completed by a stationary sample. -/
theorem direction_interlock_reversal :
    SafeHardware [.cmd (.finite (-1 / 2)) .nan 1, .cmd (.finite 1) (.finite 0) 0]
        (hardwareAfter { motor := { enabled := true, period := 70000, duty := 60000 } } 0
          { lastCmd := 0 } [.cmd (.finite (-1 / 2)) .nan 1, .cmd (.finite 1) (.finite 0) 0]) ∧
      ∀ input before output later,
        ((after (advance MotorNode.step) { lastCmd := 0 }
          [.cmd (.finite (-1 / 2)) .nan 1, .cmd (.finite 1) (.finite 0) 0]).step input).2 =
            before ++ output :: later →
        SafeOutput { lastCmd := 0 }
          [.cmd (.finite (-1 / 2)) .nan 1, .cmd (.finite 1) (.finite 0) 0] input
          (before.foldl MotorHardware.apply
            (hardwareAfter { motor := { enabled := true, period := 70000, duty := 60000 } } 0
              { lastCmd := 0 }
              [.cmd (.finite (-1 / 2)) .nan 1, .cmd (.finite 1) (.finite 0) 0])) output :=
  direction_interlock (by decide +kernel) _

/-- `stop` brakes: it leaves duty zero and never touches the direction line. -/
theorem stop_brakes {hardware : MotorHardware} {node : MotorNode} (h : node.stopped = false) :
    (node.stop.2.foldl MotorHardware.apply hardware).motor =
        { hardware.motor with duty := 0 } ∧
      (node.stop.2.foldl MotorHardware.apply hardware).line = hardware.line ∧
      node.stop.1.pendingReversal = none := by
  rw [MotorNode.stop, h]
  exact ⟨rfl, rfl, rfl⟩

example : ((after (advance MotorNode.step) { lastCmd := 0 }
    [.cmd (.finite (-1 / 2)) .nan 1, .cmd (.finite 1) (.finite 0) 0]).step
      (.encoderState true)).2 =
    [.motor (.duty 0), .dirLine .reverse, .motor (.duty 25000), .publishDirection (-1)] := by
  decide +kernel

end PreRunner.Motor
