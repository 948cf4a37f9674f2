import PreRunner.Runs.History

/-!
# The latch of the keyboard's motion

Two devices share one latch: a key moves the car only if it was pressed while the controller
demanded nothing, and after the keyboard was last neutral. This module has the latch alone, driven
by events, and says which events break that promise. An armed or ready latch has seen a neutral
sample since every invalidation that disarms; the one that does not disarm is the suppressed
message (`neutral_or_suppressed`). So a motion sample is harmless if no suppressed message came
since the latest neutral one and it does not arm the latch while a button is held
(`pressedFreely_of_armed`). Event lists have the latest event first.
-/

namespace PreRunner.Teleop

open Runs

/-! ## Events -/

/-- What the latch is told. A motion or neutral sample is valid; `suppressed` is a message that is
not valid but carries the suppression bit; `invalid` is any other message that is not valid. -/
inductive TeleopEvent where
  | joy (held : Bool)
  | controllerExpired
  | motion
  | neutral
  | invalid
  | suppressed
  | keyboardExpired
  deriving DecidableEq, Repr

namespace TeleopEvent

def isJoy : TeleopEvent → Bool
  | joy _ => true
  | _ => false

/-- A message of the keyboard. -/
def isKeyboard : TeleopEvent → Bool
  | motion | neutral | invalid | suppressed => true
  | _ => false

/-- An invalidation of the keyboard. -/
def invalidates : TeleopEvent → Bool
  | invalid | suppressed | keyboardExpired => true
  | _ => false

/-- A run of motion samples goes on, and no button is held. -/
def continues : TeleopEvent → Bool
  | motion | joy false | controllerExpired => true
  | _ => false

end TeleopEvent

open TeleopEvent

/-- The latest joy message of a live controller holds a button. -/
def HeldLive : List TeleopEvent → Prop :=
  Since (fun _ event => event.isJoy = false ∧ event ≠ controllerExpired)
    (fun _ event => event = joy true)

/-- The latest message of the keyboard is a motion sample. -/
def FollowsMotion : List TeleopEvent → Prop :=
  Since (fun _ event => event.isKeyboard = false) (fun _ event => event = motion)

/-- A neutral sample came after the latest invalidation of the keyboard. -/
def NeutralSince : List TeleopEvent → Prop :=
  Since (fun _ event => event.invalidates = false) (fun _ event => event = neutral)

/-- A suppressed message came after the latest neutral sample, or without one. -/
def SuppressedSince : List TeleopEvent → Prop :=
  Since (fun _ event => event ≠ neutral) (fun _ event => event = suppressed)

/-- A neutral sample came after the latest invalidation that disarms the latch. -/
def RearmedSince : List TeleopEvent → Prop :=
  Since (fun _ event => event ≠ invalid ∧ event ≠ keyboardExpired) (fun _ event => event = neutral)

/-- The latest run of motion samples began after a neutral sample, while no button was held, and
no button has been held since. -/
def PressedFreely : List TeleopEvent → Prop :=
  Since (fun _ event => event.continues = true)
    (fun before event => event = motion ∧ ¬ FollowsMotion before ∧ ¬ HeldLive before ∧
      NeutralSince before)

instance : DecidablePred HeldLive := fun events => Since.decidable events
instance : DecidablePred FollowsMotion := fun events => Since.decidable events
instance : DecidablePred NeutralSince := fun events => Since.decidable events
instance : DecidablePred SuppressedSince := fun events => Since.decidable events
instance : DecidablePred RearmedSince := fun events => Since.decidable events
instance : DecidablePred PressedFreely := fun events => Since.decidable events

/-- A neutral sample since every invalidation that disarms is one since every invalidation, unless
a suppressed message came in between. -/
theorem neutral_or_suppressed {events : List TeleopEvent} (h : RearmedSince events) :
    NeutralSince events ∨ SuppressedSince events := by
  induction events with
  | nil => cases h
  | cons event events ih =>
    rcases h with hNeutral | ⟨⟨hInvalid, hExpired⟩, hBefore⟩
    · exact .inl (.start hNeutral)
    · cases event with
      | invalid => exact absurd rfl hInvalid
      | keyboardExpired => exact absurd rfl hExpired
      | suppressed => exact .inr (.start rfl)
      | neutral => exact .inl (.start rfl)
      | joy | controllerExpired | motion =>
        exact (ih hBefore).imp (.keep rfl) (.keep TeleopEvent.noConfusion)

/-! ## The latch -/

/-- What the node remembers of the two devices for the keyboard's motion. -/
structure MotionLatch where
  held : Bool := false
  valid : Bool := false
  requested : Bool := false
  previous : Bool := false
  ready : Bool := false
  armed : Bool := false
  deriving DecidableEq, Repr

namespace MotionLatch

/-- A requested motion has to be released first. -/
def disarmHeld (latch : MotionLatch) : MotionLatch :=
  if latch.requested then { latch with armed := false, ready := false } else latch

/-- The next motion sample arms the latch. -/
def arms (latch : MotionLatch) : Bool := !latch.previous && latch.ready

def step (latch : MotionLatch) : TeleopEvent → MotionLatch
  | .joy held => { (if held then latch.disarmHeld else latch) with held }
  | .controllerExpired => { latch.disarmHeld with held := false }
  | .motion =>
    { latch with
      armed := latch.arms || latch.armed
      ready := !latch.arms && latch.ready
      valid := true
      requested := true
      previous := true }
  | .neutral =>
    { latch with
      armed := false, ready := true, valid := true, requested := false, previous := false }
  | .invalid | .keyboardExpired => { latch with valid := false, armed := false, ready := false }
  | .suppressed => { latch with valid := false }

/-- The latch after a list of events. -/
def following (events : List TeleopEvent) : MotionLatch := after step {} events

/-- A motion sample neither arms the latch while a button is held, nor finds or makes it armed
after a suppressed message that no neutral sample has followed. -/
def Guarded (before : List TeleopEvent) (event : TeleopEvent) : Prop :=
  event = .motion →
    ¬ ((following before).arms = true ∧ (following before).held = true) ∧
      (((following before).arms || (following before).armed) = true → ¬ SuppressedSince before)

/-! ## What the latch knows of the events -/

/-- What ties the latch to the events. -/
structure Tied (events : List TeleopEvent) (latch : MotionLatch) : Prop where
  held : HeldLive events → latch.held = true
  requested : latch.requested = latch.previous
  follows : FollowsMotion events → latch.previous = true
  rearmed : latch.armed = true ∨ latch.ready = true → RearmedSince events
  armed : latch.armed = true → latch.requested = true
  fresh : latch.armed = true → NeutralSince events → latch.valid = true
  free : latch.armed = true → latch.valid = true → PressedFreely events

variable {events : List TeleopEvent} {latch : MotionLatch}

theorem Tied.joy (h : Tied events latch) (held : Bool) :
    Tied (.joy held :: events) (latch.step (.joy held)) := by
  have hHeld : HeldLive (.joy held :: events) → (latch.step (.joy held)).held = true := by
    rintro (hNow | ⟨⟨hNot, -⟩, -⟩)
    · cases hNow
      rfl
    · cases hNot
  have hFollows : FollowsMotion (.joy held :: events) → FollowsMotion events := by
    rintro (hNow | ⟨-, hBefore⟩)
    · cases hNow
    · exact hBefore
  have hSince : NeutralSince (.joy held :: events) → NeutralSince events := by
    rintro (hNow | ⟨-, hBefore⟩)
    · cases hNow
    · exact hBefore
  have hRearmed : latch.armed = true ∨ latch.ready = true → RearmedSince (.joy held :: events) :=
    fun hLatch => .keep ⟨nofun, nofun⟩ (h.rearmed hLatch)
  cases held with
  | true =>
    by_cases hRequested : latch.requested = true
    · have hStep : latch.step (.joy true) =
          { latch with armed := false, ready := false, held := true } := by
        rw [step, if_pos rfl, disarmHeld, if_pos hRequested]
      rw [hStep] at hHeld ⊢
      exact ⟨hHeld, h.requested, fun hNow => h.follows (hFollows hNow), nofun, nofun, nofun, nofun⟩
    · have hUnarmed : latch.armed = false := by
        cases hArmed : latch.armed with
        | false => rfl
        | true => exact absurd (h.armed hArmed) hRequested
      have hStep : latch.step (.joy true) = { latch with held := true } := by
        rw [step, if_pos rfl, disarmHeld, if_neg hRequested]
      rw [hStep] at hHeld ⊢
      refine ⟨hHeld, h.requested, fun hNow => h.follows (hFollows hNow), hRearmed, ?_, ?_, ?_⟩ <;>
      · dsimp only
        rw [hUnarmed]
        nofun
  | false =>
    exact ⟨hHeld, h.requested, fun hNow => h.follows (hFollows hNow), hRearmed, h.armed,
      fun hArmed hNow => h.fresh hArmed (hSince hNow),
      fun hArmed hValid => .keep rfl (h.free hArmed hValid)⟩

theorem Tied.controllerExpired (h : Tied events latch) :
    Tied (.controllerExpired :: events) (latch.step .controllerExpired) := by
  have hHeld : ¬ HeldLive (.controllerExpired :: events) := by
    rintro (hNow | ⟨⟨-, hNot⟩, -⟩)
    · cases hNow
    · exact hNot rfl
  have hFollows : FollowsMotion (.controllerExpired :: events) → FollowsMotion events := by
    rintro (hNow | ⟨-, hBefore⟩)
    · cases hNow
    · exact hBefore
  by_cases hRequested : latch.requested = true
  · have hStep : latch.step .controllerExpired =
        { latch with armed := false, ready := false, held := false } := by
      rw [step, disarmHeld, if_pos hRequested]
    rw [hStep]
    exact ⟨fun hNow => absurd hNow hHeld, h.requested, fun hNow => h.follows (hFollows hNow), nofun,
      nofun, nofun, nofun⟩
  · have hUnarmed : latch.armed = false := by
      cases hArmed : latch.armed with
      | false => rfl
      | true => exact absurd (h.armed hArmed) hRequested
    have hStep : latch.step .controllerExpired = { latch with held := false } := by
      rw [step, disarmHeld, if_neg hRequested]
    rw [hStep]
    refine ⟨fun hNow => absurd hNow hHeld, h.requested, fun hNow => h.follows (hFollows hNow),
      fun hLatch => .keep ⟨nofun, nofun⟩ (h.rearmed hLatch), ?_, ?_, ?_⟩ <;>
    · dsimp only
      rw [hUnarmed]
      nofun

/-- An event of the keyboard is none of the controller's. -/
theorem heldLive_keyboard {event : TeleopEvent} (hJoy : event.isJoy = false)
    (h : HeldLive (event :: events)) : HeldLive events := by
  rcases h with rfl | ⟨-, hBefore⟩
  · cases hJoy
  · exact hBefore

theorem Tied.neutral (h : Tied events latch) :
    Tied (.neutral :: events) (latch.step .neutral) := by
  refine ⟨fun hNow => h.held (heldLive_keyboard rfl hNow), rfl, ?_, fun _ => .start rfl, nofun,
    nofun, nofun⟩
  rintro (hNow | ⟨hNot, -⟩)
  · cases hNow
  · cases hNot

/-- The invalidations that also disarm, so that nothing is asked of the events any more. -/
theorem Tied.invalidated (h : Tied events latch) {event : TeleopEvent}
    (hEvent : event = .invalid ∨ event = .keyboardExpired) :
    Tied (event :: events) (latch.step event) := by
  have hStep : latch.step event =
      { latch with valid := false, armed := false, ready := false } := by
    rcases hEvent with rfl | rfl <;> rfl
  have hJoy : event.isJoy = false := by
    rcases hEvent with rfl | rfl <;> rfl
  rw [hStep]
  refine ⟨fun hNow => h.held (heldLive_keyboard hJoy hNow), h.requested, ?_,
    fun hLatch => hLatch.elim nofun nofun, nofun, nofun, nofun⟩
  rintro (rfl | ⟨-, hBefore⟩)
  · rcases hEvent with hNot | hNot <;> cases hNot
  · exact h.follows hBefore

theorem Tied.suppressed (h : Tied events latch) :
    Tied (.suppressed :: events) (latch.step .suppressed) := by
  refine ⟨fun hNow => h.held (heldLive_keyboard rfl hNow), h.requested, ?_,
    fun hLatch => .keep ⟨nofun, nofun⟩ (h.rearmed hLatch), h.armed, ?_, nofun⟩
  · rintro (hNow | ⟨hNot, -⟩)
    · cases hNow
    · cases hNot
  · rintro - (hNow | ⟨hNot, -⟩)
    · cases hNow
    · cases hNot

/-- An armed or ready latch has seen a neutral sample since the latest invalidation, if no
suppressed message came since. -/
theorem Tied.neutralSince (h : Tied events latch) (hLatch : latch.armed = true ∨ latch.ready = true)
    (hSuppressed : ¬ SuppressedSince events) : NeutralSince events :=
  (neutral_or_suppressed (h.rearmed hLatch)).resolve_right hSuppressed

/-- A guarded motion sample arms the latch freely, or goes on with a run that did. -/
theorem Tied.motion (h : Tied events latch) (hLatch : latch = following events)
    (hGuarded : Guarded events .motion) : Tied (.motion :: events) (latch.step .motion) := by
  obtain ⟨hAlone, hUnsuppressed⟩ := hGuarded rfl
  rw [← hLatch] at hAlone hUnsuppressed
  have hReady : latch.arms = true → latch.ready = true := fun hArms =>
    (Bool.and_eq_true_iff.mp hArms).2
  have hBefore : latch.arms = true ∨ latch.armed = true →
      latch.armed = true ∨ latch.ready = true := fun hNow =>
    hNow.elim (fun hArms => .inr (hReady hArms)) .inl
  refine ⟨fun hNow => h.held (heldLive_keyboard rfl hNow), rfl, fun _ => rfl, fun hNow => ?_,
    fun _ => rfl, fun _ _ => rfl, fun hNow _ => ?_⟩
  · refine .keep ⟨nofun, nofun⟩ (h.rearmed ?_)
    rcases hNow with hArmed | hStill
    · exact hBefore (Bool.or_eq_true_iff.mp hArmed)
    · exact .inr (Bool.and_eq_true_iff.mp hStill).2
  · have hArmed : (latch.arms || latch.armed) = true := hNow
    have hSince := h.neutralSince (hBefore (Bool.or_eq_true_iff.mp hArmed)) (hUnsuppressed hArmed)
    cases hArms : latch.arms with
    | true =>
      -- The first sample of a run: the one before was not a motion sample.
      refine .start ⟨rfl, fun hFollows => ?_, fun hHeld => hAlone ⟨hArms, h.held hHeld⟩, hSince⟩
      rw [arms, h.follows hFollows] at hArms
      cases hArms
    | false =>
      rw [hArms, Bool.false_or] at hArmed
      exact .keep rfl (h.free hArmed (h.fresh hArmed hSince))

/-- The events of a run keep the latch tied, if the motion samples are guarded. -/
theorem tied_following (h : Always Guarded events) : Tied events (following events) := by
  induction events with
  | nil => exact ⟨nofun, rfl, nofun, fun hLatch => hLatch.elim nofun nofun, nofun, nofun, nofun⟩
  | cons event events ih =>
    have hTied := ih h.2
    cases event with
    | joy held => exact hTied.joy held
    | controllerExpired => exact hTied.controllerExpired
    | motion => exact hTied.motion rfl h.1
    | neutral => exact hTied.neutral
    | invalid => exact hTied.invalidated (Or.inl rfl)
    | suppressed => exact hTied.suppressed
    | keyboardExpired => exact hTied.invalidated (Or.inr rfl)

/-- An armed motion was pressed freely. -/
theorem pressedFreely_of_armed (h : Always Guarded events)
    (hArmed : (following events).armed = true) (hValid : (following events).valid = true) :
    PressedFreely events := (tied_following h).free hArmed hValid

end MotionLatch

end PreRunner.Teleop
