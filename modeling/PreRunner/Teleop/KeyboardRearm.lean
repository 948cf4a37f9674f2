import PreRunner.Teleop.KeyboardSilence
import PreRunner.Teleop.MotionLatch

/-!
# Motion keys and the controller

The node drives the latch of the keyboard's motion. Keyboard motion is selected only for a key
that was pressed freely, in every run in which the motion samples are guarded: none arms the latch
while a button is held, and none finds an armed or ready latch that a suppressed message has left.
The node's latch is the latch of its events (`run_latch`), so this is the result about the latch.
-/

namespace PreRunner.Teleop

open Runs

/-! ## The events of a run -/

/-- The event of a keyboard message. -/
def KeyboardState.event (msg : KeyboardState) : TeleopEvent :=
  if !msg.wellFormed then .invalid
  else if !msg.valid then if msg.suppress then .suppressed else .invalid
  else if msg.motion then .motion
  else .neutral

namespace TeleopNode

/-- The message holds the manual, the fixed-throttle or the suppress button. -/
def holdsButton (node : TeleopNode) (msg : Joy) : Bool :=
  buttonHeld msg node.config.deadmanButton || buttonHeld msg r1ButtonIndex ||
    buttonHeld msg l1ButtonIndex

/-- The controller is expired by a `publish_cmd` at this time. -/
def controllerStale (node : TeleopNode) (now : ℚ) : Bool :=
  node.controllerLive && node.lastJoyAt.any (node.config.controllerTimeout < now - ·)

/-- The keyboard is expired by a `publish_cmd` at this time. -/
def keyboardStale (node : TeleopNode) (now : ℚ) : Bool :=
  node.keyboardValid && node.lastKeyboardStateAt.any (node.config.keyboardStateTimeout < now - ·)

/-- What a `publish_cmd` expires, the keyboard last. -/
def expiryEvents (node : TeleopNode) (now : ℚ) : List TeleopEvent :=
  (if node.keyboardStale now then [.keyboardExpired] else []) ++
    (if node.controllerStale now then [.controllerExpired] else [])

/-- `on_keyboard` ends in a `publish_cmd`. -/
def publishesOn (msg : KeyboardState) : Bool :=
  msg.wellFormed && (if msg.valid then msg.brake else !msg.suppress)

/-- The events of one input, the latest first. -/
def eventsOf (node : TeleopNode) : TeleopInput → List TeleopEvent
  | .joy msg _ => [.joy (node.holdsButton msg)]
  | .keyboard msg now publishNow =>
    (if publishesOn msg then (node.receiveKeyboard msg now).expiryEvents publishNow else []) ++
      [msg.event]
  | .tick now => node.expiryEvents now

/-! ## The node drives the latch -/

/-- The latch of a node. -/
def motionLatch (node : TeleopNode) : MotionLatch where
  held := node.manualHeld || node.fixedThrottleHeld || node.teleopSuppressHeld
  valid := node.keyboardValid
  requested := node.keyboardMotionRequested
  previous := node.keyboardMotionPrevious
  ready := node.keyboardMotionReady
  armed := node.keyboardMotionArmed

variable {node : TeleopNode}

theorem motionLatch_disarmHeld :
    node.disarmHeldKeyboardMotion.motionLatch = node.motionLatch.disarmHeld := by
  unfold disarmHeldKeyboardMotion MotionLatch.disarmHeld
  by_cases hRequested : node.keyboardMotionRequested = true
  · rw [if_pos hRequested, if_pos (show node.motionLatch.requested = true from hRequested)]
    rfl
  · rw [if_neg hRequested, if_neg (show ¬ node.motionLatch.requested = true from hRequested)]

theorem joyButtons_latch (msg : Joy) :
    (node.joyButtons msg).motionLatch = node.motionLatch.step (.joy (node.holdsButton msg)) := by
  unfold joyButtons
  dsimp only
  cases hHeld : node.holdsButton msg with
  | false =>
    rw [if_neg (by rw [← holdsButton, hHeld]; exact Bool.false_ne_true)]
    exact congrArg (fun held => { node.motionLatch with held }) hHeld
  | true =>
    have hButtons : (buttonHeld msg node.config.deadmanButton || buttonHeld msg r1ButtonIndex ||
        buttonHeld msg l1ButtonIndex) = true := hHeld
    rw [if_pos hButtons]
    unfold disarmHeldKeyboardMotion
    by_cases hRequested : node.keyboardMotionRequested = true
    · have hDisarm : node.motionLatch.disarmHeld =
          { node.motionLatch with armed := false, ready := false } := if_pos hRequested
      rw [MotionLatch.step, if_pos rfl, hDisarm, if_pos hRequested]
      exact congrArg (fun held => { node.motionLatch with held, armed := false, ready := false })
        hHeld
    · have hDisarm : node.motionLatch.disarmHeld = node.motionLatch := if_neg hRequested
      rw [MotionLatch.step, if_pos rfl, hDisarm, if_neg hRequested]
      exact congrArg (fun held => { node.motionLatch with held }) hHeld

theorem onJoy_latch {msg : Joy} {now : ℚ} {node' : TeleopNode}
    (h : node.onJoy msg now = some node') :
    node'.motionLatch = node.motionLatch.step (.joy (node.holdsButton msg)) := by
  obtain ⟨active, setpoint, hDpad⟩ := @updateDpad_eq
    ({ node with lastJoyAt := some now, controllerLive := true }.joyButtons msg) msg
  obtain ⟨steer, manualCmd, throttle, reverse, rfl⟩ := joyAxes_eq h
  rw [hDpad]
  exact @joyButtons_latch { node with lastJoyAt := some now, controllerLive := true } msg

theorem expireController_latch (now : ℚ) :
    (node.expireController now).motionLatch = after MotionLatch.step node.motionLatch
        (if node.controllerStale now then [.controllerExpired] else []) ∧
      (node.expireController now).keyboardStale now = node.keyboardStale now := by
  unfold expireController controllerStale
  split
  · constructor
    · rw [after_cons, after_nil, MotionLatch.step, ← motionLatch_disarmHeld]
      rfl
    · obtain ⟨armed, ready, hDisarm⟩ := @disarmHeldKeyboardMotion_eq node
      rw [hDisarm]
      rfl
  · exact ⟨rfl, rfl⟩

theorem expireInputs_latch (now : ℚ) :
    (node.expireInputs now).motionLatch =
      after MotionLatch.step node.motionLatch (node.expiryEvents now) := by
  obtain ⟨hController, hStale⟩ := @expireController_latch node now
  unfold expiryEvents expireInputs
  rw [after_append, ← hController, ← hStale]
  unfold expireKeyboard keyboardStale
  split
  · rfl
  · rfl

theorem publishCmd_latch (now : ℚ) :
    (node.publishCmd now).1.motionLatch =
      after MotionLatch.step node.motionLatch (node.expiryEvents now) := by
  obtain ⟨steer, hNode⟩ := @publishCmd_eq node now
  rw [hNode]
  exact expireInputs_latch now

theorem takeKeyboard_latch (msg : KeyboardState) :
    (node.takeKeyboard msg).motionLatch =
      node.motionLatch.step (if msg.motion then .motion else .neutral) := by
  unfold takeKeyboard
  cases hMotion : msg.motion with
  | false => rfl
  | true =>
    cases hArms : !node.keyboardMotionPrevious && node.keyboardMotionReady with
    | true => simp [motionLatch, MotionLatch.step, MotionLatch.arms, hArms]
    | false => simp [motionLatch, MotionLatch.step, MotionLatch.arms, hArms]

theorem receiveKeyboard_latch (msg : KeyboardState) (now : ℚ) :
    (node.receiveKeyboard msg now).motionLatch = node.motionLatch.step msg.event := by
  obtain ⟨armed, rearm, hLatch⟩ :=
    @latchSuppress_eq { node with lastKeyboardStateAt := some now } msg
  unfold receiveKeyboard KeyboardState.event
  dsimp only
  rw [hLatch]
  cases msg.wellFormed with
  | false => rfl
  | true =>
    cases msg.valid with
    | false =>
      cases msg.suppress with
      | false => rfl
      | true => rfl
    | true => exact takeKeyboard_latch msg

theorem onKeyboard_outcome (msg : KeyboardState) (now publishNow : ℚ) :
    node.onKeyboard msg now publishNow =
      if publishesOn msg then (node.receiveKeyboard msg now).publishCmd publishNow
      else (node.receiveKeyboard msg now, []) := by
  unfold onKeyboard receiveKeyboard publishesOn
  cases msg.wellFormed with
  | false => rfl
  | true =>
    cases msg.valid with
    | false =>
      cases msg.suppress with
      | false => rfl
      | true => rfl
    | true =>
      cases msg.brake with
      | false => rfl
      | true => rfl

theorem onKeyboard_latch (msg : KeyboardState) (now publishNow : ℚ) :
    (node.onKeyboard msg now publishNow).1.motionLatch =
      after MotionLatch.step node.motionLatch (node.eventsOf (.keyboard msg now publishNow)) := by
  unfold eventsOf
  rw [onKeyboard_outcome, after_append, after_cons, after_nil, ← receiveKeyboard_latch msg now]
  split
  · exact publishCmd_latch publishNow
  · rfl

/-- One input moves the latch by its events. -/
theorem respond_latch {input : TeleopInput} {node' : TeleopNode}
    (h : (respond (some node) input).1 = some node') :
    node'.motionLatch = after MotionLatch.step node.motionLatch (node.eventsOf input) := by
  cases input with
  | joy msg now => exact onJoy_latch h
  | keyboard msg now publishNow =>
    cases h
    exact onKeyboard_latch msg now publishNow
  | tick now =>
    cases h
    exact publishCmd_latch now

end TeleopNode

section Runs

variable (config : TeleopConfig) (setpoint : ℚ) (epoch : String)

/-- The events of a run. -/
def eventsAfter : List TeleopInput → List TeleopEvent
  | [] => []
  | input :: past =>
    (run config setpoint epoch past).elim [] (fun node => node.eventsOf input) ++ eventsAfter past

/-- No motion sample arms the latch while a button is held, and none finds it armed or arms it
after a suppressed message that no neutral sample has followed. -/
def GuardedInput (past : List TeleopInput) (input : TeleopInput) : Prop :=
  ∀ node msg now publishNow, run config setpoint epoch past = some node →
    input = .keyboard msg now publishNow → msg.event = .motion →
    ¬ (node.keyboardMotionPrevious = false ∧ node.keyboardMotionReady = true ∧
      (node.manualHeld || node.fixedThrottleHeld || node.teleopSuppressHeld) = true) ∧
    (node.keyboardMotionArmed = true ∨
      (node.keyboardMotionPrevious = false ∧ node.keyboardMotionReady = true) →
      ¬ SuppressedSince (eventsAfter config setpoint epoch past))

variable {config setpoint epoch} {past : List TeleopInput} {node : TeleopNode}

theorem run_cons {input : TeleopInput} (h : run config setpoint epoch past = some node) :
    run config setpoint epoch (input :: past) = (respond (some node) input).1 := by
  unfold run at h ⊢
  rw [after_cons, h]

/-- The latch of a node is the latch after the events of its run. -/
theorem run_latch (h : run config setpoint epoch past = some node) :
    node.motionLatch = MotionLatch.following (eventsAfter config setpoint epoch past) := by
  induction past generalizing node with
  | nil =>
    cases h
    rfl
  | cons input past ih =>
    cases hBefore : run config setpoint epoch past with
    | none =>
      unfold run at h hBefore
      rw [after_cons, hBefore] at h
      cases h
    | some before =>
      rw [run_cons hBefore] at h
      rw [TeleopNode.respond_latch h, ih hBefore, eventsAfter, hBefore]
      exact (after_append _ _ _ _).symm

/-- Events that are no motion samples are guarded. -/
theorem guarded_append {later events : List TeleopEvent} (hLater : .motion ∉ later)
    (h : Always MotionLatch.Guarded events) : Always MotionLatch.Guarded (later ++ events) := by
  induction later with
  | nil => exact h
  | cons event later ih =>
    refine ⟨fun hMotion => ?_, ih fun hMem => hLater (List.mem_cons_of_mem _ hMem)⟩
    exact absurd (hMotion ▸ List.mem_cons_self ..) hLater

theorem motion_not_mem_expiryEvents (now : ℚ) : .motion ∉ node.expiryEvents now := by
  unfold TeleopNode.expiryEvents
  split <;> split <;> simp

/-- Guarded inputs make guarded events. -/
theorem guarded_events (h : Always (GuardedInput config setpoint epoch) past) :
    Always MotionLatch.Guarded (eventsAfter config setpoint epoch past) := by
  induction past with
  | nil => trivial
  | cons input past ih =>
    have hPast := ih h.2
    rw [eventsAfter]
    cases hRun : run config setpoint epoch past with
    | none => exact hPast
    | some node =>
      rw [Option.elim_some]
      cases input with
      | joy msg now => exact guarded_append (by simp [TeleopNode.eventsOf]) hPast
      | tick now => exact guarded_append (motion_not_mem_expiryEvents now) hPast
      | keyboard msg now publishNow =>
        unfold TeleopNode.eventsOf
        dsimp only
        rw [List.append_assoc]
        refine guarded_append ?_ ⟨fun hMotion => ?_, hPast⟩
        · split
          · exact motion_not_mem_expiryEvents publishNow
          · exact List.not_mem_nil
        · obtain ⟨hAlone, hUnsuppressed⟩ := h.1 node msg now publishNow hRun rfl hMotion
          change ¬ ((MotionLatch.following (eventsAfter config setpoint epoch past)).arms = true ∧
              (MotionLatch.following (eventsAfter config setpoint epoch past)).held = true) ∧
            (((MotionLatch.following (eventsAfter config setpoint epoch past)).arms ||
              (MotionLatch.following (eventsAfter config setpoint epoch past)).armed) = true →
              ¬ SuppressedSince (eventsAfter config setpoint epoch past))
          rw [← run_latch hRun]
          unfold MotionLatch.arms TeleopNode.motionLatch
          simp only [Bool.and_eq_true, Bool.or_eq_true, Bool.not_eq_true'] at hAlone ⊢
          refine ⟨fun hArms => hAlone ⟨hArms.1.1, hArms.1.2, hArms.2⟩, fun hArmed => ?_⟩
          exact hUnsuppressed hArmed.symm

/-- `publish_cmd` selects keyboard motion for an armed request only. -/
theorem select_keyboardMotion (h : node.select.mode = .keyboardMotion) :
    node.keyboardValid = true ∧ node.keyboardMotionArmed = true := by
  unfold TeleopNode.select at h
  dsimp only at h
  split at h
  · rename_i hMode
    rw [hMode] at h
    cases h
  split at h
  · rename_i hMode
    dsimp only at h
    rw [h] at hMode
    cases hMode
  split at h
  · rename_i hMode
    rw [hMode] at h
    cases h
  split at h
  · cases h
  split at h
  · cases h
  split at h
  · rename_i hMotion
    rw [Bool.and_eq_true, Bool.and_eq_true] at hMotion
    exact ⟨hMotion.1.1, hMotion.2⟩
  split at h
  · dsimp only at h
    split at h <;> cases h
  · rcases TeleopNode.activeMode_cases node.manualHeld node.fixedThrottleHeld
      node.teleopSuppressHeld node.fixedThrottleInhibited with ⟨hMode, -⟩ | ⟨hMode | hMode, -⟩ |
      ⟨hMode, -⟩ | hMode <;>
    · rw [hMode] at h
      cases h

/-- A `publish_cmd` that selects keyboard motion, after guarded events. -/
theorem pressedFreely_of_publish {events : List TeleopEvent} {now : ℚ}
    (hLatch : node.motionLatch = MotionLatch.following events)
    (hGuarded : Always MotionLatch.Guarded events)
    (hMotion : .activeMode .keyboardMotion ∈ (node.publishCmd now).2) :
    PressedFreely (node.expiryEvents now ++ events) := by
  rw [mem_publishCmd_activeMode] at hMotion
  have hSelect : (node.expireInputs now).select.mode = .keyboardMotion := by
    unfold TeleopNode.publishedMode at hMotion
    dsimp only at hMotion
    split at hMotion
    · cases hMotion
    · exact hMotion.symm
  obtain ⟨hValid, hArmed⟩ := select_keyboardMotion hSelect
  have hAfter : (node.expireInputs now).motionLatch =
      MotionLatch.following (node.expiryEvents now ++ events) := by
    rw [TeleopNode.expireInputs_latch, hLatch]
    exact (after_append _ _ _ _).symm
  refine MotionLatch.pressedFreely_of_armed
    (guarded_append (motion_not_mem_expiryEvents now) hGuarded) ?_ ?_
  · rw [← hAfter]
    exact hArmed
  · rw [← hAfter]
    exact hValid

/-- In a run of guarded inputs keyboard motion is selected only for a key that was pressed freely.
A neutral sample is all that makes the latch ready, and every invalidation but a suppressed message
disarms it (`Tied`); `pressedFreely_of_publish` finds the press of a published motion. -/
theorem keyboard_motion_pressed_freely {input : TeleopInput}
    (hGuarded : Always (GuardedInput config setpoint epoch) (input :: past))
    (hMotion : .activeMode .keyboardMotion ∈ published config setpoint epoch past input) :
    PressedFreely (eventsAfter config setpoint epoch (input :: past)) := by
  have hEvents := guarded_events hGuarded.2
  unfold published at hMotion
  rw [eventsAfter]
  cases hRun : run config setpoint epoch past with
  | none =>
    rw [hRun] at hMotion
    cases hMotion
  | some node =>
    rw [hRun] at hMotion
    rw [Option.elim_some]
    cases input with
    | joy msg now => cases hMotion
    | tick now => exact pressedFreely_of_publish (run_latch hRun) hEvents hMotion
    | keyboard msg now publishNow =>
      have hOutputs : (respond (some node) (.keyboard msg now publishNow)).2 =
          (node.onKeyboard msg now publishNow).2 := rfl
      rw [hOutputs, TeleopNode.onKeyboard_outcome] at hMotion
      unfold TeleopNode.eventsOf
      dsimp only
      split at hMotion
      · rename_i hPublishes
        rw [if_pos hPublishes, List.append_assoc]
        have hAll := guarded_events hGuarded
        rw [eventsAfter, hRun, Option.elim_some] at hAll
        unfold TeleopNode.eventsOf at hAll
        dsimp only at hAll
        rw [List.append_assoc] at hAll
        refine pressedFreely_of_publish ?_ hAll.suffix hMotion
        rw [TeleopNode.receiveKeyboard_latch, run_latch hRun]
        rfl
      · cases hMotion

end Runs

/-- A key pressed after a neutral sample; latest input first. -/
def pressedInputs : List TeleopInput :=
  [keyMessage true KeyboardState.modeDrive (3 / 10) (5 / 100),
    keyMessage true KeyboardState.modeDrive 0 0]

/-- The key drives at the next tick. -/
theorem keyboard_motion_pressed_freely_driven :
    .activeMode .keyboardMotion ∈ published defaultConfig 0 "e" pressedInputs (.tick (1 / 10)) ∧
      PressedFreely (eventsAfter defaultConfig 0 "e" (.tick (1 / 10) :: pressedInputs)) := by
  have hMotion : .activeMode .keyboardMotion ∈
      published defaultConfig 0 "e" pressedInputs (.tick (1 / 10)) := by
    decide +kernel
  refine ⟨hMotion, keyboard_motion_pressed_freely ⟨?_, ?_, ?_, trivial⟩ hMotion⟩
  · rintro _ _ _ _ - hInput
    cases hInput
  · rintro node _ _ _ hRun - -
    have hFree : node.motionLatch.held = false := by
      rw [run_latch hRun]
      decide +kernel
    refine ⟨fun hHeld => ?_, fun _ => by decide +kernel⟩
    rw [show (node.manualHeld || node.fixedThrottleHeld || node.teleopSuppressHeld) = false
      from hFree] at hHeld
    cases hHeld.2.2
  · rintro _ _ _ _ - hInput hMotion
    cases hInput
    exact absurd hMotion (by decide +kernel)

/-- The key is pressed while R1 is held, and R1 is released; latest input first. -/
def overriddenInputs : List TeleopInput :=
  [.joy ⟨[], []⟩ (3 / 100), keyMessage true KeyboardState.modeDrive (3 / 10) (2 / 100),
    .joy ⟨[], [0, 0, 0, 0, 0, 1]⟩ (1 / 100),
    keyMessage true KeyboardState.modeDrive 0 0]

/-- Releasing the controller hands the motion to the key that was pressed during the override. -/
theorem override_hands_over_motion :
    ¬ ∀ config setpoint epoch past input, InTime (input :: past) →
      .activeMode .keyboardMotion ∈ published config setpoint epoch past input →
      PressedFreely (eventsAfter config setpoint epoch (input :: past)) := fun hAll =>
  absurd (hAll defaultConfig 0 "e" overriddenInputs (.tick (5 / 100))
    (by unfold InTime; decide +kernel) (by decide +kernel)) (by decide +kernel)

/-- The sender times out while it suppresses, and the held key drives again. -/
example :
    let past : List TeleopInput :=
      [keyMessage true KeyboardState.modeDrive (3 / 10) (3 / 100),
        keyMessage false KeyboardState.modeSuppress 0 (2 / 100),
        keyMessage true KeyboardState.modeDrive (3 / 10) (1 / 100),
        keyMessage true KeyboardState.modeDrive 0 0]
    .activeMode .keyboardMotion ∈ published defaultConfig 0 "e" past (.tick (5 / 100)) ∧
      ¬ PressedFreely (eventsAfter defaultConfig 0 "e" (.tick (5 / 100) :: past)) := by
  decide +kernel

end PreRunner.Teleop
