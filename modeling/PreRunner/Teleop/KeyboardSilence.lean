import PreRunner.Runs.History
import PreRunner.Teleop.TeleopNode

/-!
# A silent keyboard

Once the keyboard has been silent for longer than its timeout, the node publishes nothing in its
name but the release brake. The exception is a suppression that the last keyboard message kept
although it was not valid: it lasts until a button of the controller ends it.

What the node remembers is tied to the history of its inputs by `InputsTracked` and to the end of
the last selection by `ReleaseTracked`; both are kept by every call. A publication finds the
keyboard expired or not, and these two say what it may then contain.
-/

namespace PreRunner.Teleop

open Runs

/-! ## One call -/

/-- The modes in which `publish_cmd` selects a command. -/
def TeleopMode.selects : TeleopMode → Bool
  | manual | fixedThrottle | fixedThrottleInhibited | keyboardBrake | keyboardMotion => true
  | _ => false

namespace TeleopNode

variable {node : TeleopNode} {now : ℚ}

theorem disarmHeldKeyboardMotion_eq : ∃ armed ready, node.disarmHeldKeyboardMotion =
    { node with keyboardMotionArmed := armed, keyboardMotionReady := ready } := by
  unfold disarmHeldKeyboardMotion
  split
  · exact ⟨false, false, rfl⟩
  · exact ⟨node.keyboardMotionArmed, node.keyboardMotionReady, rfl⟩

/-- The buttons set the controller's flags, and a held one ends the keyboard's suppression. -/
theorem joyButtons_eq (msg : Joy) : ∃ inhibited epoch armed ready rearm, node.joyButtons msg =
    { node with
      manualHeld := buttonHeld msg node.config.deadmanButton
      fixedThrottleHeld := buttonHeld msg r1ButtonIndex
      teleopSuppressHeld := buttonHeld msg l1ButtonIndex
      takeoverActive :=
        buttonHeld msg node.config.deadmanButton || buttonHeld msg r1ButtonIndex
      fixedThrottleInhibited := inhibited
      takeoverEpoch := epoch
      keyboardMotionArmed := armed
      keyboardMotionReady := ready
      keyboardSuppressRearmReady := rearm
      keyboardSuppressArmed :=
        if buttonHeld msg node.config.deadmanButton || buttonHeld msg r1ButtonIndex ||
          buttonHeld msg l1ButtonIndex then false else node.keyboardSuppressArmed } := by
  unfold joyButtons
  dsimp only
  split
  · obtain ⟨armed, ready, hDisarm⟩ := @disarmHeldKeyboardMotion_eq
      { node with
        fixedThrottleInhibited :=
          if !buttonHeld msg r1ButtonIndex then false
          else if buttonHeld msg node.config.deadmanButton then true
          else node.fixedThrottleInhibited
        manualHeld := buttonHeld msg node.config.deadmanButton
        fixedThrottleHeld := buttonHeld msg r1ButtonIndex
        teleopSuppressHeld := buttonHeld msg l1ButtonIndex
        takeoverEpoch :=
          if (buttonHeld msg node.config.deadmanButton || buttonHeld msg r1ButtonIndex) &&
            !node.takeoverActive then node.takeoverEpoch + 1 else node.takeoverEpoch
        takeoverActive :=
          buttonHeld msg node.config.deadmanButton || buttonHeld msg r1ButtonIndex }
    rw [hDisarm]
    exact ⟨_, _, armed, ready, false, rfl⟩
  · exact ⟨_, _, node.keyboardMotionArmed, node.keyboardMotionReady,
      node.keyboardSuppressRearmReady, rfl⟩

theorem updateDpad_eq (msg : Joy) : ∃ active setpoint, node.updateDpad msg =
    { node with dpadPressActive := active, fixedThrottleSetpoint := setpoint } := by
  unfold updateDpad
  dsimp only
  split
  · exact ⟨false, node.fixedThrottleSetpoint, rfl⟩
  · split
    · exact ⟨node.dpadPressActive, node.fixedThrottleSetpoint, rfl⟩
    · exact ⟨true, _, rfl⟩

theorem joyAxes_eq {msg : Joy} {node' : TeleopNode} (h : node.joyAxes msg = some node') :
    ∃ steer manualCmd throttle reverse,
      node' = { node with steer, manualCmd, throttle, reverse } := by
  unfold joyAxes at h
  split at h
  · cases h
    exact ⟨node.steer, 0, node.throttle, 0, rfl⟩
  · obtain ⟨reverseRaw, -, h⟩ := Option.bind_eq_some_iff.mp h
    obtain ⟨throttleRaw, -, h⟩ := Option.bind_eq_some_iff.mp h
    obtain ⟨steer, -, h⟩ := Option.bind_eq_some_iff.mp h
    cases h
    exact ⟨_, _, _, _, rfl⟩

/-- What a joy message leaves of the keyboard and of the release brake. -/
structure JoyEffect (node : TeleopNode) (msg : Joy) (now : ℚ) (node' : TeleopNode) : Prop where
  config : node'.config = node.config
  joyAt : node'.lastJoyAt = some now
  live : node'.controllerLive = true
  manualHeld : node'.manualHeld = buttonHeld msg node.config.deadmanButton
  fixedThrottleHeld : node'.fixedThrottleHeld = buttonHeld msg r1ButtonIndex
  teleopSuppressHeld : node'.teleopSuppressHeld = buttonHeld msg l1ButtonIndex
  keyboardAt : node'.lastKeyboardStateAt = node.lastKeyboardStateAt
  valid : node'.keyboardValid = node.keyboardValid
  armed : node'.keyboardSuppressArmed = if buttonHeld msg node.config.deadmanButton ||
    buttonHeld msg r1ButtonIndex || buttonHeld msg l1ButtonIndex then false
    else node.keyboardSuppressArmed
  selected : node'.commandSelected = node.commandSelected
  releasing : node'.releaseBrakeUntil = node.releaseBrakeUntil

theorem onJoy_effect {msg : Joy} {node' : TeleopNode} (h : node.onJoy msg now = some node') :
    JoyEffect node msg now node' := by
  obtain ⟨inhibited, epoch, armed, ready, rearm, hButtons⟩ :=
    @joyButtons_eq { node with lastJoyAt := some now, controllerLive := true } msg
  obtain ⟨active, setpoint, hDpad⟩ := @updateDpad_eq
    ({ node with lastJoyAt := some now, controllerLive := true }.joyButtons msg) msg
  obtain ⟨steer, manualCmd, throttle, reverse, rfl⟩ := joyAxes_eq h
  rw [hDpad, hButtons]
  exact ⟨rfl, rfl, rfl, rfl, rfl, rfl, rfl, rfl, rfl, rfl, rfl⟩

/-- The expiry of the controller releases its buttons. -/
theorem expireController_cases : (node.expireController now = node ∧
      (node.controllerLive = true → ∀ joyAt, node.lastJoyAt = some joyAt →
        now - joyAt ≤ node.config.controllerTimeout)) ∨
    ∃ armed ready, node.expireController now =
      { node with
        keyboardMotionArmed := armed
        keyboardMotionReady := ready
        controllerLive := false
        manualHeld := false
        fixedThrottleHeld := false
        teleopSuppressHeld := false
        takeoverActive := false
        fixedThrottleInhibited := false
        steer := .finite 0
        manualCmd := 0
        throttle := 0
        reverse := 0 } := by
  unfold expireController
  split
  · obtain ⟨armed, ready, hDisarm⟩ := @disarmHeldKeyboardMotion_eq node
    rw [hDisarm]
    exact Or.inr ⟨armed, ready, rfl⟩
  · rename_i hStale
    refine Or.inl ⟨rfl, fun hLive joyAt hAt => ?_⟩
    rw [hLive, hAt, Bool.true_and, Option.any_some, decide_eq_true_iff] at hStale
    exact not_lt.mp hStale

/-- The expiry of the keyboard ends everything that it has armed. -/
theorem expireKeyboard_cases : (node.expireKeyboard now = node ∧
      (node.keyboardValid = true → ∀ keyboardAt, node.lastKeyboardStateAt = some keyboardAt →
        now - keyboardAt ≤ node.config.keyboardStateTimeout)) ∨
    node.expireKeyboard now = node.invalidateKeyboard := by
  unfold expireKeyboard
  split
  · exact Or.inr rfl
  · rename_i hStale
    refine Or.inl ⟨rfl, fun hValid keyboardAt hAt => ?_⟩
    rw [hValid, hAt, Bool.true_and, Option.any_some, decide_eq_true_iff] at hStale
    exact not_lt.mp hStale

/-- The mode of the controller, with the button that holds it. -/
theorem activeMode_cases (manualHeld fixedThrottleHeld teleopSuppressHeld inhibited : Bool) :
    (activeMode manualHeld fixedThrottleHeld teleopSuppressHeld inhibited = .manual ∧
        manualHeld = true) ∨
      ((activeMode manualHeld fixedThrottleHeld teleopSuppressHeld inhibited = .fixedThrottle ∨
        activeMode manualHeld fixedThrottleHeld teleopSuppressHeld inhibited =
          .fixedThrottleInhibited) ∧ fixedThrottleHeld = true) ∨
      (activeMode manualHeld fixedThrottleHeld teleopSuppressHeld inhibited = .teleopSuppress ∧
        teleopSuppressHeld = true) ∨
      activeMode manualHeld fixedThrottleHeld teleopSuppressHeld inhibited = .brake := by
  revert manualHeld fixedThrottleHeld teleopSuppressHeld inhibited
  decide

/-- What `publish_cmd` chooses: the controller comes first. -/
theorem select_cases : (node.select.selected = true ∧
        (node.select.mode = .manual ∨ node.select.mode = .fixedThrottle ∨
          node.select.mode = .fixedThrottleInhibited) ∧
        (node.manualHeld = true ∨ node.fixedThrottleHeld = true)) ∨
      (node.select.selected = false ∧ node.select.mode = .teleopSuppress ∧
        (node.teleopSuppressHeld = true ∨ node.keyboardSuppressArmed = true)) ∨
      (node.keyboardValid = true ∧ node.select.selected = true ∧
        (node.select.mode = .keyboardBrake ∨ node.select.mode = .keyboardMotion)) ∨
      (node.keyboardValid = true ∧ node.select.selected = false ∧
        node.select.mode = .keyboardDisarmed) ∨
      (node.select.selected = false ∧ node.select.mode = .brake) := by
  unfold select
  dsimp only
  rcases activeMode_cases node.manualHeld node.fixedThrottleHeld node.teleopSuppressHeld
    node.fixedThrottleInhibited with ⟨hMode, hHeld⟩ | ⟨hMode | hMode, hHeld⟩ |
      ⟨hMode, hHeld⟩ | hMode
  · rw [hMode]
    exact Or.inl ⟨rfl, Or.inl rfl, Or.inl hHeld⟩
  · rw [hMode]
    exact Or.inl ⟨rfl, Or.inr (Or.inl rfl), Or.inr hHeld⟩
  · rw [hMode]
    exact Or.inl ⟨rfl, Or.inr (Or.inr rfl), Or.inr hHeld⟩
  · rw [hMode]
    exact Or.inr (Or.inl ⟨rfl, rfl, Or.inl hHeld⟩)
  · rw [hMode]
    refine Or.inr ?_
    rw [if_neg (by decide), if_neg (by decide), if_neg (by decide)]
    split
    · rename_i hBrake
      exact Or.inr (Or.inl ⟨(Bool.and_eq_true_iff.mp hBrake).1, rfl, Or.inl rfl⟩)
    split
    · rename_i hSuppress
      exact Or.inl ⟨rfl, rfl, Or.inr (Bool.and_eq_true_iff.mp hSuppress).2⟩
    split
    · rename_i hMotion
      exact Or.inr (Or.inl ⟨(Bool.and_eq_true_iff.mp (Bool.and_eq_true_iff.mp hMotion).1).1, rfl,
        Or.inr rfl⟩)
    split
    · rename_i hValid
      dsimp only
      split
      · exact Or.inr (Or.inr (Or.inl ⟨hValid, rfl, rfl⟩))
      · exact Or.inr (Or.inr (Or.inr ⟨rfl, rfl⟩))
    · exact Or.inr (Or.inr (Or.inr ⟨rfl, rfl⟩))

/-- A command is selected exactly in a selecting mode. -/
theorem select_selected : node.select.selected = node.select.mode.selects := by
  rcases @select_cases node with ⟨hSelected, hMode | hMode | hMode, -⟩ | ⟨hSelected, hMode, -⟩ |
    ⟨-, hSelected, hMode | hMode⟩ | ⟨-, hSelected, hMode⟩ | ⟨hSelected, hMode⟩ <;>
  · rw [hSelected, hMode]
    rfl

/-- The mode that `publish_cmd` publishes. -/
def publishedMode (node : TeleopNode) (now : ℚ) : TeleopMode :=
  let node := node.expireInputs now
  if !node.select.selected &&
      ((node.releaseDeadline now node.select.selected).filter (now < ·)).isSome then .releaseBrake
  else node.select.mode

/-- The command that `publish_cmd` publishes, if any. -/
def publishedCommand (node : TeleopNode) (now : ℚ) : Option Twist :=
  let node := node.expireInputs now
  if node.select.selected then
    some { linearX := node.select.command, angularZ := node.select.steer }
  else ((node.releaseDeadline now node.select.selected).filter (now < ·)).map fun _ => {}

/-- `publish_cmd` changes the expired node in the steering and in the release brake only. -/
theorem publishCmd_eq : ∃ steer, (node.publishCmd now).1 =
    { node.expireInputs now with
      steer
      commandSelected := (node.expireInputs now).select.selected
      releaseBrakeUntil :=
        if (node.expireInputs now).select.selected then none
        else ((node.expireInputs now).releaseDeadline now
          (node.expireInputs now).select.selected).filter (now < ·) } := by
  unfold publishCmd
  dsimp only
  split
  · exact ⟨_, rfl⟩
  · split
    · exact ⟨_, rfl⟩
    · rename_i hDeadline
      rw [Option.not_isSome_iff_eq_none] at hDeadline
      rw [hDeadline]
      exact ⟨_, rfl⟩

theorem publishCmd_outputs : ∃ setpoint state, (node.publishCmd now).2 =
    [.setpoint setpoint, .activeMode (node.publishedMode now), .controlState state] ++
      ((node.publishedCommand now).map .command).toList := by
  unfold publishCmd publishedMode publishedCommand
  dsimp only
  split
  · rename_i hSelected
    rw [hSelected]
    exact ⟨_, _, rfl⟩
  · rename_i hSelected
    rw [Bool.not_eq_true] at hSelected
    rw [hSelected]
    split
    · rename_i hDeadline
      rw [hDeadline]
      obtain ⟨deadline, hSome⟩ := Option.isSome_iff_exists.mp hDeadline
      rw [hSome]
      exact ⟨_, _, rfl⟩
    · rename_i hDeadline
      rw [Option.not_isSome_iff_eq_none] at hDeadline
      rw [hDeadline]
      exact ⟨_, _, rfl⟩

/-! ## The keyboard's message, before its `publish_cmd` -/

/-- The state that `on_keyboard` has made before it may call `publish_cmd`. -/
def receiveKeyboard (node : TeleopNode) (msg : KeyboardState) (now : ℚ) : TeleopNode :=
  let node := { node with lastKeyboardStateAt := some now }
  if !msg.wellFormed then node.invalidateKeyboard
  else if !msg.valid && !msg.suppress then (node.latchSuppress msg).invalidateKeyboard
  else if !msg.valid then
    { node.latchSuppress msg with keyboardValid := false, keyboardSuppressRequested := true }
  else (node.latchSuppress msg).takeKeyboard msg

theorem onKeyboard_eq (msg : KeyboardState) (publishNow : ℚ) :
    node.onKeyboard msg now publishNow = (node.receiveKeyboard msg now, []) ∨
      node.onKeyboard msg now publishNow =
        (node.receiveKeyboard msg now).publishCmd publishNow := by
  unfold onKeyboard receiveKeyboard
  dsimp only
  split
  · exact Or.inl rfl
  split
  · exact Or.inr rfl
  split
  · exact Or.inl rfl
  split
  · exact Or.inr rfl
  · exact Or.inl rfl

theorem latchSuppress_eq (msg : KeyboardState) : ∃ armed rearm, node.latchSuppress msg =
    { node with keyboardSuppressArmed := armed, keyboardSuppressRearmReady := rearm } := by
  unfold latchSuppress
  split
  · exact ⟨_, _, rfl⟩
  split
  · exact ⟨_, _, rfl⟩
  split
  · exact ⟨_, _, rfl⟩
  · exact ⟨_, _, rfl⟩

theorem takeKeyboard_eq (msg : KeyboardState) : ∃ armed ready, node.takeKeyboard msg =
    { node with
      keyboardMotionArmed := armed
      keyboardMotionReady := ready
      keyboardValid := true
      keyboardMode := msg.mode
      keyboardThrottle := msg.throttle
      keyboardSteer := msg.steering
      keyboardMotionRequested := msg.motion
      keyboardMotionPrevious := msg.motion
      keyboardSuppressRequested := msg.suppress } := by
  unfold takeKeyboard
  dsimp only
  split
  · exact ⟨_, _, rfl⟩
  split
  · exact ⟨_, _, rfl⟩
  · exact ⟨_, _, rfl⟩

/-- What a keyboard message leaves of the controller and of the release brake, and when a
suppression outlives its validity. -/
structure KeyboardEffect (node : TeleopNode) (msg : KeyboardState) (now : ℚ)
    (node' : TeleopNode) : Prop where
  config : node'.config = node.config
  keyboardAt : node'.lastKeyboardStateAt = some now
  joyAt : node'.lastJoyAt = node.lastJoyAt
  live : node'.controllerLive = node.controllerLive
  manualHeld : node'.manualHeld = node.manualHeld
  fixedThrottleHeld : node'.fixedThrottleHeld = node.fixedThrottleHeld
  teleopSuppressHeld : node'.teleopSuppressHeld = node.teleopSuppressHeld
  selected : node'.commandSelected = node.commandSelected
  releasing : node'.releaseBrakeUntil = node.releaseBrakeUntil
  kept : node'.keyboardValid = false → node'.keyboardSuppressArmed = true →
    msg.wellFormed = true ∧ msg.valid = false ∧ msg.suppress = true ∧
      (node.latchSuppress msg).keyboardSuppressArmed = true

theorem receiveKeyboard_effect (msg : KeyboardState) :
    KeyboardEffect node msg now (node.receiveKeyboard msg now) := by
  have hLatchArmed : ({ node with lastKeyboardStateAt := some now }.latchSuppress
      msg).keyboardSuppressArmed = (node.latchSuppress msg).keyboardSuppressArmed := by
    unfold latchSuppress
    split
    · rfl
    split
    · rfl
    dsimp only
    split <;> rfl
  obtain ⟨armed, rearm, hLatch⟩ :=
    @latchSuppress_eq { node with lastKeyboardStateAt := some now } msg
  rw [hLatch] at hLatchArmed
  unfold receiveKeyboard
  dsimp only
  rw [hLatch]
  split
  · exact ⟨rfl, rfl, rfl, rfl, rfl, rfl, rfl, rfl, rfl, nofun⟩
  rename_i hFormed
  split
  · exact ⟨rfl, rfl, rfl, rfl, rfl, rfl, rfl, rfl, rfl, nofun⟩
  rename_i hSilent
  split
  · rename_i hInvalid
    refine ⟨rfl, rfl, rfl, rfl, rfl, rfl, rfl, rfl, rfl, fun _ hArmed => ?_⟩
    simp only [Bool.not_eq_true', Bool.not_eq_false, Bool.and_eq_true, not_and]
      at hFormed hSilent hInvalid
    exact ⟨hFormed, hInvalid, hSilent hInvalid, hLatchArmed ▸ hArmed⟩
  · obtain ⟨motionArmed, ready, hTake⟩ := @takeKeyboard_eq
      { node with
        lastKeyboardStateAt := some now
        keyboardSuppressArmed := armed
        keyboardSuppressRearmReady := rearm } msg
    rw [hTake]
    exact ⟨rfl, rfl, rfl, rfl, rfl, rfl, rfl, rfl, rfl, fun h => by cases h⟩

/-! ## The expiry -/

/-- What the controller's expiry leaves of the keyboard, the clocks and the release brake. -/
structure Expired (node : TeleopNode) (now : ℚ) (node' : TeleopNode) : Prop where
  config : node'.config = node.config
  keyboardAt : node'.lastKeyboardStateAt = node.lastKeyboardStateAt
  joyAt : node'.lastJoyAt = node.lastJoyAt
  selected : node'.commandSelected = node.commandSelected
  releasing : node'.releaseBrakeUntil = node.releaseBrakeUntil
  held : (node'.manualHeld = node.manualHeld ∧ node'.fixedThrottleHeld = node.fixedThrottleHeld ∧
      node'.teleopSuppressHeld = node.teleopSuppressHeld ∧
      node'.controllerLive = node.controllerLive ∧
      (node.controllerLive = true → ∀ joyAt, node.lastJoyAt = some joyAt →
        now - joyAt ≤ node.config.controllerTimeout)) ∨
    (node'.manualHeld = false ∧ node'.fixedThrottleHeld = false ∧
      node'.teleopSuppressHeld = false ∧ node'.controllerLive = false)
  keyboard : (node'.keyboardValid = node.keyboardValid ∧
      node'.keyboardSuppressArmed = node.keyboardSuppressArmed ∧
      (node.keyboardValid = true → ∀ keyboardAt, node.lastKeyboardStateAt = some keyboardAt →
        now - keyboardAt ≤ node.config.keyboardStateTimeout)) ∨
    (node'.keyboardValid = false ∧ node'.keyboardSuppressArmed = false)

theorem expireInputs_expired : Expired node now (node.expireInputs now) := by
  unfold expireInputs
  rcases @expireController_cases node now with ⟨hNode, hFresh⟩ | ⟨armed, ready, hNode⟩
  · rw [hNode]
    rcases @expireKeyboard_cases node now with ⟨hKeyboard, hValid⟩ | hKeyboard
    · rw [hKeyboard]
      exact ⟨rfl, rfl, rfl, rfl, rfl, Or.inl ⟨rfl, rfl, rfl, rfl, hFresh⟩,
        Or.inl ⟨rfl, rfl, hValid⟩⟩
    · rw [hKeyboard]
      exact ⟨rfl, rfl, rfl, rfl, rfl, Or.inl ⟨rfl, rfl, rfl, rfl, hFresh⟩, Or.inr ⟨rfl, rfl⟩⟩
  · rw [hNode]
    rcases @expireKeyboard_cases _ now with ⟨hKeyboard, hValid⟩ | hKeyboard
    · rw [hKeyboard]
      exact ⟨rfl, rfl, rfl, rfl, rfl, Or.inr ⟨rfl, rfl, rfl, rfl⟩, Or.inl ⟨rfl, rfl, hValid⟩⟩
    · rw [hKeyboard]
      exact ⟨rfl, rfl, rfl, rfl, rfl, Or.inr ⟨rfl, rfl, rfl, rfl⟩, Or.inr ⟨rfl, rfl⟩⟩

end TeleopNode

/-! ## Histories -/

/-- The last reading of the clock while an input is handled; `publish_cmd` is called then. -/
def TeleopInput.finish : TeleopInput → ℚ
  | joy _ now => now
  | keyboard _ _ publishNow => publishNow
  | tick now => now

/-- The first reading of the clock. -/
def TeleopInput.start : TeleopInput → ℚ
  | joy _ now => now
  | keyboard _ now _ => now
  | tick now => now

/-- The last controller message with its time. -/
def lastJoy : List TeleopInput → Option (Joy × ℚ)
  | [] => none
  | .joy msg now :: _ => some (msg, now)
  | _ :: past => lastJoy past

/-- The last keyboard message with its time. -/
def lastKeyboard : List TeleopInput → Option (KeyboardState × ℚ)
  | [] => none
  | .keyboard msg now _ :: _ => some (msg, now)
  | _ :: past => lastKeyboard past

section

variable (config : TeleopConfig) (setpoint : ℚ) (epoch : String)

/-- The node after a history of inputs; `none` is a process that has ended. -/
def run : List TeleopInput → Option TeleopNode :=
  after (fun node input => (respond node input).1) (some (config.node setpoint epoch))

/-- What an input makes the node publish. -/
def published (past : List TeleopInput) (input : TeleopInput) : List TeleopOutput :=
  (respond (run config setpoint epoch past) input).2

/-- The last keyboard message is not valid but found or made the suppression armed, and no button
of the controller has been held since. -/
def KeptSuppression : List TeleopInput → Prop :=
  Since
    (fun _ input => match input with
      | .joy msg _ => buttonHeld msg config.deadmanButton = false ∧
        buttonHeld msg r1ButtonIndex = false ∧ buttonHeld msg l1ButtonIndex = false
      | .keyboard _ _ _ => False
      | .tick _ => True)
    fun past input => ∃ msg now publishNow node, input = .keyboard msg now publishNow ∧
      run config setpoint epoch past = some node ∧ msg.wellFormed = true ∧ msg.valid = false ∧
      msg.suppress = true ∧ (node.latchSuppress msg).keyboardSuppressArmed = true

/-- The input publishes a selected command. -/
def Selects (past : List TeleopInput) (input : TeleopInput) : Prop :=
  ∃ mode, .activeMode mode ∈ published config setpoint epoch past input ∧ mode.selects = true

/-- The last `publish_cmd` has selected a command. -/
def Selected : List TeleopInput → Prop :=
  Since (fun past input => published config setpoint epoch past input = [])
    (Selects config setpoint epoch)

/-- The input publishes no selected command after one that did. -/
def SelectionEnds (past : List TeleopInput) (input : TeleopInput) : Prop :=
  published config setpoint epoch past input ≠ [] ∧ ¬ Selects config setpoint epoch past input ∧
    Selected config setpoint epoch past

/-- No command is selected since a selection ended, whose release brake lasts until a time. -/
def Releasing (deadline : ℚ) : List TeleopInput → Prop :=
  Since (fun past input => ¬ Selects config setpoint epoch past input)
    fun past input => SelectionEnds config setpoint epoch past input ∧
      deadline = input.finish + config.releaseBrakeDuration

/-! ## The invariants of a run -/

/-- What the inputs have left in the node. -/
structure InputsTracked (past : List TeleopInput) (node : TeleopNode) : Prop where
  configured : node.config = config
  keyboardAt : node.lastKeyboardStateAt = (lastKeyboard past).map Prod.snd
  valid : node.keyboardValid = true → lastKeyboard past ≠ none
  live : node.controllerLive = true → ∃ msg joyAt, lastJoy past = some (msg, joyAt) ∧
    node.lastJoyAt = some joyAt ∧ node.manualHeld = buttonHeld msg config.deadmanButton ∧
    node.fixedThrottleHeld = buttonHeld msg r1ButtonIndex ∧
    node.teleopSuppressHeld = buttonHeld msg l1ButtonIndex
  idle : node.controllerLive = false → node.manualHeld = false ∧ node.fixedThrottleHeld = false ∧
    node.teleopSuppressHeld = false
  kept : node.keyboardValid = false → node.keyboardSuppressArmed = true →
    KeptSuppression config setpoint epoch past

/-- What the calls of `publish_cmd` have left in the node. -/
structure ReleaseTracked (past : List TeleopInput) (node : TeleopNode) : Prop where
  selected : node.commandSelected = true ↔ Selected config setpoint epoch past
  releasing : ∀ deadline, node.releaseBrakeUntil = some deadline →
    Releasing config setpoint epoch deadline past

variable {config setpoint epoch} {past : List TeleopInput} {node node' : TeleopNode} {now : ℚ}

/-- The expiry keeps the invariant of the inputs. -/
theorem InputsTracked.expire (h : InputsTracked config setpoint epoch past node)
    (hExpired : TeleopNode.Expired node now node') :
    InputsTracked config setpoint epoch past node' := by
  refine ⟨hExpired.config.trans h.configured, hExpired.keyboardAt.trans h.keyboardAt,
    ?_, ?_, ?_, ?_⟩
  · intro hValid
    rcases hExpired.keyboard with ⟨hSame, -, -⟩ | ⟨hInvalid, -⟩
    · exact h.valid (hSame ▸ hValid)
    · exact absurd (hInvalid.symm.trans hValid) Bool.false_ne_true
  · intro hLive
    rcases hExpired.held with ⟨hManual, hFixed, hSuppress, hSame, -⟩ | ⟨-, -, -, hDead⟩
    · obtain ⟨msg, joyAt, hJoy, hAt, hHeld⟩ := h.live (hSame ▸ hLive)
      rw [hManual, hFixed, hSuppress, hExpired.joyAt]
      exact ⟨msg, joyAt, hJoy, hAt, hHeld⟩
    · exact absurd (hDead.symm.trans hLive) Bool.false_ne_true
  · intro hDead
    rcases hExpired.held with ⟨hManual, hFixed, hSuppress, hSame, -⟩ |
      ⟨hManual, hFixed, hSuppress, -⟩
    · rw [hManual, hFixed, hSuppress]
      exact h.idle (hSame ▸ hDead)
    · exact ⟨hManual, hFixed, hSuppress⟩
  · intro hInvalid hArmed
    rcases hExpired.keyboard with ⟨hValid, hSame, -⟩ | ⟨-, hDisarmed⟩
    · exact h.kept (hValid ▸ hInvalid) (hSame ▸ hArmed)
    · exact absurd (hDisarmed.symm.trans hArmed) Bool.false_ne_true

theorem InputsTracked.tick (h : InputsTracked config setpoint epoch past node) (now : ℚ) :
    InputsTracked config setpoint epoch (.tick now :: past) node :=
  ⟨h.configured, h.keyboardAt, h.valid, h.live, h.idle,
    fun hInvalid hArmed => .keep trivial (h.kept hInvalid hArmed)⟩

theorem InputsTracked.joy (h : InputsTracked config setpoint epoch past node) {msg : Joy}
    (hEffect : TeleopNode.JoyEffect node msg now node') :
    InputsTracked config setpoint epoch (.joy msg now :: past) node' := by
  refine ⟨hEffect.config.trans h.configured, hEffect.keyboardAt.trans h.keyboardAt,
    fun hValid => h.valid (hEffect.valid ▸ hValid), fun _ => ?_,
    fun hDead => absurd (hDead.symm.trans hEffect.live) Bool.false_ne_true, ?_⟩
  · have hManual := hEffect.manualHeld
    rw [h.configured] at hManual
    exact ⟨msg, now, rfl, hEffect.joyAt, hManual, hEffect.fixedThrottleHeld,
      hEffect.teleopSuppressHeld⟩
  · intro hInvalid hArmed
    rw [hEffect.armed, h.configured] at hArmed
    split at hArmed
    · cases hArmed
    · rename_i hReleased
      rw [Bool.not_eq_true, Bool.or_eq_false_iff, Bool.or_eq_false_iff] at hReleased
      exact .keep ⟨hReleased.1.1, hReleased.1.2, hReleased.2⟩
        (h.kept (hEffect.valid ▸ hInvalid) hArmed)

theorem InputsTracked.keyboard (h : InputsTracked config setpoint epoch past node)
    (hRun : run config setpoint epoch past = some node) {msg : KeyboardState} (publishNow : ℚ)
    (hEffect : TeleopNode.KeyboardEffect node msg now node') :
    InputsTracked config setpoint epoch (.keyboard msg now publishNow :: past) node' := by
  refine ⟨hEffect.config.trans h.configured, hEffect.keyboardAt, fun _ => nofun, ?_, ?_, ?_⟩
  · intro hLive
    obtain ⟨joyMsg, joyAt, hJoy, hAt, hHeld⟩ := h.live (hEffect.live ▸ hLive)
    rw [hEffect.manualHeld, hEffect.fixedThrottleHeld, hEffect.teleopSuppressHeld, hEffect.joyAt]
    exact ⟨joyMsg, joyAt, hJoy, hAt, hHeld⟩
  · intro hDead
    rw [hEffect.manualHeld, hEffect.fixedThrottleHeld, hEffect.teleopSuppressHeld]
    exact h.idle (hEffect.live ▸ hDead)
  · intro hInvalid hArmed
    obtain ⟨hFormed, hUnvalid, hSuppress, hLatch⟩ := hEffect.kept hInvalid hArmed
    exact .start ⟨msg, now, publishNow, node, rfl, hRun, hFormed, hUnvalid, hSuppress, hLatch⟩

/-- An input ends the process, or leaves a node that may call `publish_cmd`. -/
theorem respond_cases (hInputs : InputsTracked config setpoint epoch past node)
    (hRelease : ReleaseTracked config setpoint epoch past node)
    (hRun : run config setpoint epoch past = some node) (input : TeleopInput) :
    respond (some node) input = (none, []) ∨
      ∃ ready, InputsTracked config setpoint epoch (input :: past) ready ∧
        ReleaseTracked config setpoint epoch past ready ∧
        (respond (some node) input = (some ready, []) ∨
          respond (some node) input =
            (some (ready.publishCmd input.finish).1, (ready.publishCmd input.finish).2)) := by
  cases input with
  | joy msg now =>
    cases hJoy : node.onJoy msg now with
    | none => exact Or.inl (Prod.ext hJoy rfl)
    | some ready =>
      have hEffect := TeleopNode.onJoy_effect hJoy
      exact Or.inr ⟨ready, hInputs.joy hEffect,
        ⟨hEffect.selected ▸ hRelease.selected, hEffect.releasing ▸ hRelease.releasing⟩,
        Or.inl (Prod.ext hJoy rfl)⟩
  | keyboard msg now publishNow =>
    have hEffect := @TeleopNode.receiveKeyboard_effect node now msg
    refine Or.inr ⟨_, hInputs.keyboard hRun publishNow hEffect,
      ⟨hEffect.selected ▸ hRelease.selected, hEffect.releasing ▸ hRelease.releasing⟩, ?_⟩
    unfold respond
    dsimp only
    rcases @TeleopNode.onKeyboard_eq node now msg publishNow with hKeyboard | hKeyboard
    · rw [hKeyboard]
      exact Or.inl rfl
    · rw [hKeyboard]
      exact Or.inr rfl
  | tick now => exact Or.inr ⟨node, hInputs.tick now, hRelease, Or.inr rfl⟩

theorem mem_publishCmd_activeMode {mode : TeleopMode} :
    .activeMode mode ∈ (node.publishCmd now).2 ↔ mode = node.publishedMode now := by
  obtain ⟨setpoint, state, hOutputs⟩ := @TeleopNode.publishCmd_outputs node now
  rw [hOutputs]
  cases node.publishedCommand now <;> simp

theorem mem_publishCmd_command {twist : Twist} :
    .command twist ∈ (node.publishCmd now).2 ↔ node.publishedCommand now = some twist := by
  obtain ⟨setpoint, state, hOutputs⟩ := @TeleopNode.publishCmd_outputs node now
  rw [hOutputs]
  cases node.publishedCommand now <;> simp [eq_comm]

theorem publishedMode_selects : (node.publishedMode now).selects =
    (node.expireInputs now).select.selected := by
  unfold TeleopNode.publishedMode
  dsimp only
  split
  · rename_i hRelease
    rw [Bool.and_eq_true, Bool.not_eq_true'] at hRelease
    rw [hRelease.1]
    rfl
  · exact TeleopNode.select_selected.symm

/-- The node after one `publish_cmd` that ends an input. -/
theorem publish_tracked {input : TeleopInput}
    (hInputs : InputsTracked config setpoint epoch (input :: past) node)
    (hRelease : ReleaseTracked config setpoint epoch past node)
    (hOutputs : published config setpoint epoch past input = (node.publishCmd input.finish).2) :
    InputsTracked config setpoint epoch (input :: past) (node.publishCmd input.finish).1 ∧
      ReleaseTracked config setpoint epoch (input :: past) (node.publishCmd input.finish).1 := by
  have hExpired := @TeleopNode.expireInputs_expired node input.finish
  have hInputs' := hInputs.expire hExpired
  obtain ⟨steer, hNode⟩ := @TeleopNode.publishCmd_eq node input.finish
  have hSelects : Selects config setpoint epoch past input ↔
      (node.expireInputs input.finish).select.selected = true := by
    unfold Selects
    rw [hOutputs]
    simp only [mem_publishCmd_activeMode, exists_eq_left, publishedMode_selects]
  have hPublishes : published config setpoint epoch past input ≠ [] := by
    rw [hOutputs]
    exact List.ne_nil_of_mem (mem_publishCmd_activeMode.mpr rfl)
  rw [hNode]
  refine ⟨⟨hInputs'.configured, hInputs'.keyboardAt, hInputs'.valid, hInputs'.live, hInputs'.idle,
    hInputs'.kept⟩, ?_, ?_⟩
  · dsimp only
    rw [← hSelects]
    exact ⟨.start, fun hSelected => hSelected.resolve_right fun h => hPublishes h.1⟩
  · intro deadline hDeadline
    dsimp only at hDeadline
    split at hDeadline
    · cases hDeadline
    rename_i hIdle
    obtain ⟨hSome, -⟩ := Option.filter_eq_some_iff.mp hDeadline
    have hEnds := mt hSelects.mp hIdle
    unfold TeleopNode.releaseDeadline at hSome
    split at hSome
    · rename_i hSelected
      rw [hExpired.selected, Bool.and_eq_true] at hSelected
      refine .start ⟨⟨hPublishes, hEnds, hRelease.selected.mp hSelected.1⟩, ?_⟩
      rw [hInputs'.configured] at hSome
      exact (Option.some.inj hSome).symm
    · rw [hExpired.releasing] at hSome
      exact .keep hEnds (hRelease.releasing deadline hSome)

/-- A history that ends with a silent input. -/
theorem silent_tracked {input : TeleopInput}
    (hRelease : ReleaseTracked config setpoint epoch past node)
    (hOutputs : published config setpoint epoch past input = []) :
    ReleaseTracked config setpoint epoch (input :: past) node := by
  have hSelects : ¬ Selects config setpoint epoch past input := by
    rintro ⟨mode, hMem, -⟩
    rw [hOutputs] at hMem
    exact List.not_mem_nil hMem
  refine ⟨hRelease.selected.trans ⟨.keep hOutputs, ?_⟩, fun deadline hDeadline =>
    .keep hSelects (hRelease.releasing deadline hDeadline)⟩
  rintro (hNow | hSelected)
  · exact absurd hNow hSelects
  · exact hSelected.2

/-- Both invariants hold after every history. -/
theorem tracked (past : List TeleopInput) : ∀ {node : TeleopNode},
    run config setpoint epoch past = some node →
      InputsTracked config setpoint epoch past node ∧
        ReleaseTracked config setpoint epoch past node := by
  induction past with
  | nil =>
    intro node hRun
    cases hRun
    exact ⟨⟨rfl, rfl, nofun, nofun, fun _ => ⟨rfl, rfl, rfl⟩, fun _ => nofun⟩,
      ⟨nofun, fun h => h.elim⟩, nofun⟩
  | cons input past ih =>
    intro node' hRun
    change (respond (run config setpoint epoch past) input).1 = some node' at hRun
    cases hBefore : run config setpoint epoch past with
    | none =>
      rw [hBefore] at hRun
      cases hRun
    | some node =>
      rw [hBefore] at hRun
      obtain ⟨hInputs, hRelease⟩ := ih hBefore
      have hPublished : published config setpoint epoch past input =
          (respond (some node) input).2 := by
        unfold published
        rw [hBefore]
      rcases respond_cases hInputs hRelease hBefore input with
        hEnds | ⟨ready, hReady, hReadyRelease, hSilent | hPublishes⟩
      · rw [hEnds] at hRun
        cases hRun
      · rw [hSilent] at hRun hPublished
        cases hRun
        exact ⟨hReady, silent_tracked hReadyRelease hPublished⟩
      · rw [hPublishes] at hRun hPublished
        cases hRun
        exact publish_tracked hReady hReadyRelease hPublished

/-! ## Silence -/

/-- The inputs, latest first, come at non-decreasing times. -/
def InTime (inputs : List TeleopInput) : Prop :=
  (∀ input ∈ inputs, input.start ≤ input.finish) ∧
    inputs.Pairwise fun later earlier => earlier.finish ≤ later.start

/-- A live controller holds a button. -/
def ControllerHolds (config : TeleopConfig) (index : Int) (now : ℚ) (history : List TeleopInput) :
    Prop :=
  ∃ msg joyAt, lastJoy history = some (msg, joyAt) ∧ buttonHeld msg index = true ∧
    now - joyAt ≤ config.controllerTimeout

/-- A selection ended within the release brake's duration, and none began since. -/
def ReleaseWindow (config : TeleopConfig) (setpoint : ℚ) (epoch : String) (now : ℚ) :
    List TeleopInput → Prop :=
  Since (fun past input => ¬ Selects config setpoint epoch past input)
    fun past ended => SelectionEnds config setpoint epoch past ended ∧ ended.finish ≤ now ∧
      now < ended.finish + config.releaseBrakeDuration

theorem Releasing.window {deadline : ℚ} {history : List TeleopInput}
    (h : Releasing config setpoint epoch deadline history)
    (hTimes : ∀ input ∈ history, input.finish ≤ now) (hNow : now < deadline) :
    ReleaseWindow config setpoint epoch now history := by
  induction history with
  | nil => exact h
  | cons input past ih =>
    rcases h with ⟨hEnds, rfl⟩ | ⟨hKeep, h⟩
    · exact .start ⟨hEnds, hTimes input List.mem_cons_self, hNow⟩
    · exact .keep hKeep (ih h fun input hMem => hTimes input (List.mem_cons_of_mem _ hMem))

theorem InTime.finish_le {input : TeleopInput} (h : InTime (input :: past)) :
    ∀ earlier ∈ input :: past, earlier.finish ≤ input.finish := by
  intro earlier hMem
  rcases List.mem_cons.mp hMem with rfl | hMem
  · exact le_rfl
  · exact le_trans ((List.pairwise_cons.mp h.2).1 earlier hMem) (h.1 input List.mem_cons_self)

/-- What an input publishes while the keyboard is silent. -/
structure SilentPublish (config : TeleopConfig) (setpoint : ℚ) (epoch : String)
    (past : List TeleopInput) (input : TeleopInput) : Prop where
  /-- No mode of the keyboard. -/
  modes : ∀ mode, .activeMode mode ∈ published config setpoint epoch past input →
    mode ≠ .keyboardBrake ∧ mode ≠ .keyboardMotion ∧ mode ≠ .keyboardDisarmed
  /-- A suppression is held by a live controller, or was kept by the last keyboard message. -/
  suppress : .activeMode .teleopSuppress ∈ published config setpoint epoch past input →
    ControllerHolds config l1ButtonIndex input.finish (input :: past) ∨
      KeptSuppression config setpoint epoch (input :: past)
  /-- A command is that of a live controller, or a zero of the release brake. -/
  commands : ∀ twist, .command twist ∈ published config setpoint epoch past input →
    (ControllerHolds config config.deadmanButton input.finish (input :: past) ∨
      ControllerHolds config r1ButtonIndex input.finish (input :: past)) ∨
    (twist = {} ∧ ReleaseWindow config setpoint epoch input.finish (input :: past))

/-- An expired node whose keyboard was silent. -/
theorem expired_invalid {input : TeleopInput}
    (hInputs : InputsTracked config setpoint epoch (input :: past) node)
    (hSilent : ∀ msg keyboardAt, lastKeyboard (input :: past) = some (msg, keyboardAt) →
      config.keyboardStateTimeout < input.finish - keyboardAt) :
    (node.expireInputs input.finish).keyboardValid = false := by
  rcases (@TeleopNode.expireInputs_expired node input.finish).keyboard with
    ⟨hValid, -, hFresh⟩ | ⟨hInvalid, -⟩
  · rw [hValid, ← Bool.not_eq_true]
    intro hTrue
    obtain ⟨⟨msg, keyboardAt⟩, hLast⟩ := Option.ne_none_iff_exists'.mp (hInputs.valid hTrue)
    have hAt := hInputs.keyboardAt
    rw [hLast] at hAt
    have hWithin := hFresh hTrue keyboardAt hAt
    rw [hInputs.configured] at hWithin
    exact absurd (hSilent msg keyboardAt hLast) (not_lt.mpr hWithin)
  · exact hInvalid

/-- The button flags of an expired node are those of a live controller. -/
theorem expired_holds {input : TeleopInput}
    (hInputs : InputsTracked config setpoint epoch (input :: past) node) :
    let expired := node.expireInputs input.finish
    (expired.manualHeld = true →
        ControllerHolds config config.deadmanButton input.finish (input :: past)) ∧
      (expired.fixedThrottleHeld = true →
        ControllerHolds config r1ButtonIndex input.finish (input :: past)) ∧
      (expired.teleopSuppressHeld = true →
        ControllerHolds config l1ButtonIndex input.finish (input :: past)) := by
  intro expired
  rcases (@TeleopNode.expireInputs_expired node input.finish).held with
    ⟨hManual, hFixed, hSuppress, -, hFresh⟩ | ⟨hManual, hFixed, hSuppress, -⟩
  · cases hLive : node.controllerLive with
    | false =>
      obtain ⟨hNoManual, hNoFixed, hNoSuppress⟩ := hInputs.idle hLive
      exact ⟨fun h => absurd ((hManual.trans hNoManual).symm.trans h) Bool.false_ne_true,
        fun h => absurd ((hFixed.trans hNoFixed).symm.trans h) Bool.false_ne_true,
        fun h => absurd ((hSuppress.trans hNoSuppress).symm.trans h) Bool.false_ne_true⟩
    | true =>
      obtain ⟨msg, joyAt, hJoy, hAt, hHeld⟩ := hInputs.live hLive
      have hWithin := hFresh hLive joyAt hAt
      rw [hInputs.configured] at hWithin
      exact ⟨fun h => ⟨msg, joyAt, hJoy, hHeld.1.symm.trans (hManual.symm.trans h), hWithin⟩,
        fun h => ⟨msg, joyAt, hJoy, hHeld.2.1.symm.trans (hFixed.symm.trans h), hWithin⟩,
        fun h => ⟨msg, joyAt, hJoy, hHeld.2.2.symm.trans (hSuppress.symm.trans h), hWithin⟩⟩
  · exact ⟨fun h => absurd (hManual.symm.trans h) Bool.false_ne_true,
      fun h => absurd (hFixed.symm.trans h) Bool.false_ne_true,
      fun h => absurd (hSuppress.symm.trans h) Bool.false_ne_true⟩

/-- A command that is not selected is a zero of the release brake. -/
theorem unselected_command {input : TeleopInput} {twist : Twist}
    (hInputs : InputsTracked config setpoint epoch (input :: past) node)
    (hRelease : ReleaseTracked config setpoint epoch past node)
    (hOutputs : published config setpoint epoch past input = (node.publishCmd input.finish).2)
    (hTimes : InTime (input :: past))
    (hSelected : (node.expireInputs input.finish).select.selected = false)
    (hCommand : node.publishedCommand input.finish = some twist) :
    twist = {} ∧ ReleaseWindow config setpoint epoch input.finish (input :: past) := by
  unfold TeleopNode.publishedCommand at hCommand
  dsimp only at hCommand
  rw [hSelected, if_neg Bool.false_ne_true] at hCommand
  obtain ⟨deadline, hDeadline, rfl⟩ := Option.map_eq_some_iff.mp hCommand
  have hNow := of_decide_eq_true (Option.filter_eq_some_iff.mp hDeadline).2
  have hTracked := (publish_tracked hInputs hRelease hOutputs).2
  obtain ⟨steer, hNode⟩ := @TeleopNode.publishCmd_eq node input.finish
  refine ⟨rfl, Releasing.window (hTracked.releasing deadline ?_) hTimes.finish_le hNow⟩
  rw [hNode]
  dsimp only
  rw [hSelected, if_neg Bool.false_ne_true]
  exact hDeadline

theorem publishedMode_cases : node.publishedMode now = .releaseBrake ∨
    node.publishedMode now = (node.expireInputs now).select.mode := by
  unfold TeleopNode.publishedMode
  dsimp only
  split
  · exact Or.inl rfl
  · exact Or.inr rfl

theorem silentPublish_nil {input : TeleopInput}
    (h : published config setpoint epoch past input = []) :
    SilentPublish config setpoint epoch past input := by
  have hNone : ∀ output, output ∉ published config setpoint epoch past input := by
    rw [h]
    exact fun _ => List.not_mem_nil
  exact ⟨fun _ hMem => absurd hMem (hNone _), fun hMem => absurd hMem (hNone _),
    fun _ hMem => absurd hMem (hNone _)⟩

/-- One `publish_cmd` of a silent keyboard. -/
theorem silentPublish {input : TeleopInput}
    (hInputs : InputsTracked config setpoint epoch (input :: past) node)
    (hRelease : ReleaseTracked config setpoint epoch past node)
    (hOutputs : published config setpoint epoch past input = (node.publishCmd input.finish).2)
    (hTimes : InTime (input :: past))
    (hSilent : ∀ msg keyboardAt, lastKeyboard (input :: past) = some (msg, keyboardAt) →
      config.keyboardStateTimeout < input.finish - keyboardAt) :
    SilentPublish config setpoint epoch past input := by
  have hInvalid := expired_invalid hInputs hSilent
  obtain ⟨hManual, hFixed, hSuppress⟩ := expired_holds hInputs
  have hKept := (hInputs.expire (@TeleopNode.expireInputs_expired node input.finish)).kept hInvalid
  have hModes : ∀ mode, .activeMode mode ∈ published config setpoint epoch past input →
      mode = .releaseBrake ∨ mode = (node.expireInputs input.finish).select.mode := by
    intro mode hMem
    rw [hOutputs] at hMem
    rw [mem_publishCmd_activeMode.mp hMem]
    exact publishedMode_cases
  have hCommands : ∀ twist, .command twist ∈ published config setpoint epoch past input →
      node.publishedCommand input.finish = some twist := by
    intro twist hMem
    rw [hOutputs] at hMem
    exact mem_publishCmd_command.mp hMem
  rcases @TeleopNode.select_cases (node.expireInputs input.finish) with
    ⟨hSelected, hMode, hHeld⟩ | ⟨hSelected, hMode, hHeld⟩ | ⟨hValid, -⟩ | ⟨hValid, -⟩ |
      ⟨hSelected, hMode⟩
  · refine ⟨fun mode hMem => ?_, fun hMem => ?_, fun _ _ => Or.inl (hHeld.imp hManual hFixed)⟩
    · rcases hModes mode hMem with rfl | rfl
      · exact ⟨nofun, nofun, nofun⟩
      · rcases hMode with hMode | hMode | hMode <;> rw [hMode] <;> exact ⟨nofun, nofun, nofun⟩
    · rcases hModes _ hMem with hMem | hMem
      · cases hMem
      · rw [← hMem] at hMode
        rcases hMode with hMode | hMode | hMode <;> cases hMode
  · refine ⟨fun mode hMem => ?_, fun _ => hHeld.imp hSuppress hKept, fun twist hMem =>
      Or.inr (unselected_command hInputs hRelease hOutputs hTimes hSelected (hCommands twist hMem))⟩
    rcases hModes mode hMem with rfl | rfl
    · exact ⟨nofun, nofun, nofun⟩
    · rw [hMode]
      exact ⟨nofun, nofun, nofun⟩
  · exact absurd (hInvalid.symm.trans hValid) Bool.false_ne_true
  · exact absurd (hInvalid.symm.trans hValid) Bool.false_ne_true
  · refine ⟨fun mode hMem => ?_, fun hMem => ?_, fun twist hMem =>
      Or.inr (unselected_command hInputs hRelease hOutputs hTimes hSelected (hCommands twist hMem))⟩
    · rcases hModes mode hMem with rfl | rfl
      · exact ⟨nofun, nofun, nofun⟩
      · rw [hMode]
        exact ⟨nofun, nofun, nofun⟩
    · rcases hModes _ hMem with hMem | hMem
      · cases hMem
      · rw [hMode] at hMem
        cases hMem

/-- Every sequence of inputs at non-decreasing times. `tracked` says what the node remembers of its
inputs, and `silentPublish` what it publishes from that when the keyboard has been silent for too
long. -/
theorem keyboard_silence (config : TeleopConfig) (setpoint : ℚ) (epoch : String)
    (inputs : List TeleopInput) (hTimes : InTime inputs) :
    ∀ later input past, inputs = later ++ input :: past →
      (∀ msg keyboardAt, lastKeyboard (input :: past) = some (msg, keyboardAt) →
        config.keyboardStateTimeout < input.finish - keyboardAt) →
      SilentPublish config setpoint epoch past input := by
  rintro later input past rfl hSilent
  have hTimes' : InTime (input :: past) :=
    ⟨fun earlier hMem => hTimes.1 earlier (List.mem_append_right _ hMem),
      (List.pairwise_append.mp hTimes.2).2.1⟩
  cases hBefore : run config setpoint epoch past with
  | none =>
    have hNothing : published config setpoint epoch past input = [] := by
      unfold published
      rw [hBefore]
      rfl
    exact silentPublish_nil hNothing
  | some node =>
    obtain ⟨hInputs, hRelease⟩ := tracked past hBefore
    have hPublished : published config setpoint epoch past input =
        (respond (some node) input).2 := by
      unfold published
      rw [hBefore]
    rcases respond_cases hInputs hRelease hBefore input with
      hEnds | ⟨ready, hReady, hReadyRelease, hNothing | hPublishes⟩
    · rw [hEnds] at hPublished
      exact silentPublish_nil hPublished
    · rw [hNothing] at hPublished
      exact silentPublish_nil hPublished
    · rw [hPublishes] at hPublished
      exact silentPublish hReady hReadyRelease hPublished hTimes' hSilent

end

/-- The default parameters. -/
def defaultConfig : TeleopConfig where
  axisSteer := 0
  axisReverse := 2
  axisThrottle := 5
  deadmanButton := 0
  manualTriggerExpo := 1 / 2
  fixedThrottleStep := 1 / 100
  fixedThrottleMinSetpoint := 0
  fixedThrottleMaxSetpoint := 1 / 2
  controllerTimeout := 15 / 100
  keyboardStateTimeout := 15 / 100
  releaseBrakeDuration := 35 / 100
  expo_mem := by decide +kernel
  step_pos := by decide +kernel
  setpoints := by decide +kernel
  controllerTimeout_pos := by decide +kernel
  keyboardStateTimeout_pos := by decide +kernel
  releaseBrakeDuration_gt := by decide +kernel

def keyMessage (valid : Bool) (mode : UInt8) (throttle now : ℚ) : TeleopInput :=
  .keyboard ⟨valid, mode, .finite throttle, .finite 0⟩ now now

/-- The keyboard drives and falls silent; latest input first. -/
def drivenInputs : List TeleopInput :=
  [.tick (1 / 10), keyMessage true KeyboardState.modeDrive (3 / 10) (5 / 100),
    keyMessage true KeyboardState.modeDrive 0 0]

/-- The first tick after the timeout brakes. -/
theorem keyboard_silence_driven :
    .command {} ∈ published defaultConfig 0 "e" drivenInputs (.tick (3 / 10)) ∧
      SilentPublish defaultConfig 0 "e" drivenInputs (.tick (3 / 10)) :=
  ⟨by decide +kernel, keyboard_silence defaultConfig 0 "e" (.tick (3 / 10) :: drivenInputs)
    (by unfold InTime; decide +kernel) [] _ _ rfl fun msg keyboardAt hLast => by
      cases hLast
      decide +kernel⟩

/-- The keyboard suppresses, and its sender times out; latest input first. -/
def suppressedInputs : List TeleopInput :=
  [keyMessage false KeyboardState.modeSuppress 0 (1 / 10),
    keyMessage true KeyboardState.modeSuppress 0 0]

/-- The suppression outlives the timeout without a controller. -/
theorem suppression_outlives_keyboard : InTime (.tick (3 / 10) :: suppressedInputs) ∧
    (∀ msg keyboardAt, lastKeyboard (.tick (3 / 10) :: suppressedInputs) = some (msg, keyboardAt) →
      defaultConfig.keyboardStateTimeout < (TeleopInput.tick (3 / 10)).finish - keyboardAt) ∧
    .activeMode .teleopSuppress ∈
      published defaultConfig 0 "e" suppressedInputs (.tick (3 / 10)) ∧
    ¬ ControllerHolds defaultConfig l1ButtonIndex (3 / 10)
      (.tick (3 / 10) :: suppressedInputs) := by
  refine ⟨by unfold InTime; decide +kernel, ?_, by decide +kernel, ?_⟩
  · intro msg keyboardAt hLast
    cases hLast
    decide +kernel
  · rintro ⟨msg, joyAt, hJoy, -⟩
    cases hJoy

end PreRunner.Teleop
