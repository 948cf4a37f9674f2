import PreRunner.Runs.Absorption
import PreRunner.Paddock.SupervisorCases

/-!
# Refused control events have no influence

A control event refused with `NON_OWNER_EVENT_REJECTED`, `STALE_EVENT_REJECTED` or
`LEASE_REJECTED` only performs the lazy lease expiry, and every later call would have performed
it itself. So the supervisor is a settling machine (`settling`), and a run shows the same
`Observation` at every other call whether or not the refused events are in it. The reason text
is not part of the observation: the call that first notices a lapsed lease reports it.
-/

namespace PreRunner.Paddock

/-- Everything a result says, except the text of its reason. -/
structure Observation where
  state : PaddockState
  brakeIntent : Bool
  leaseFresh : Bool
  leaseAgeSec : Option ℚ
  rawAutonomyFresh : Bool
  rawAutonomyAgeSec : Option ℚ
  manualInputFresh : Bool
  manualInputAgeSec : Option ℚ
  manualAppliedSpeedMps : ℚ
  manualAppliedSteering : ℚ
  lastControlSequence : Option Int
  autonomyCommand : Option VelocityCommand
  manualDemand : Option ManualDemand
  manualCommand : Option VelocityCommand
  accepted : Bool
  deriving DecidableEq, Repr

def SupervisorResult.observation (r : SupervisorResult) : Observation :=
  { state := r.snapshot.state
    brakeIntent := r.snapshot.brakeIntent
    leaseFresh := r.snapshot.leaseFresh
    leaseAgeSec := r.snapshot.leaseAgeSec
    rawAutonomyFresh := r.snapshot.rawAutonomyFresh
    rawAutonomyAgeSec := r.snapshot.rawAutonomyAgeSec
    manualInputFresh := r.snapshot.manualInputFresh
    manualInputAgeSec := r.snapshot.manualInputAgeSec
    manualAppliedSpeedMps := r.snapshot.manualAppliedSpeedMps
    manualAppliedSteering := r.snapshot.manualAppliedSteering
    lastControlSequence := r.snapshot.lastControlSequence
    autonomyCommand := r.autonomyCommand
    manualDemand := r.manualDemand
    manualCommand := r.manualCommand
    accepted := r.accepted }

namespace CommandSupervisor

/-- What a call shows, if it returns a result. -/
def observe (s : CommandSupervisor) (c : TimedCall) : Option Observation :=
  (s.result c).map SupervisorResult.observation

/-- Whether a call is a control event whose result is one of the three refusals. -/
def refused (s : CommandSupervisor) (c : TimedCall) : Bool :=
  match c.call with
  | .handleControlEvent m => isRefusal (s.handleControlEvent m c.now).2.snapshot.reason
  | _ => false

theorem refused_state {s : CommandSupervisor} {m : ControlMessage} {now : ℚ}
    (h : isRefusal (s.handleControlEvent m now).2.snapshot.reason = true) :
    (s.handleControlEvent m now).1 = s.expireLease now := by
  have hCase := handleControlEvent_case s m now
  generalize s.handleControlEvent m now = out at h hCase
  cases hCase with
  | refused => rfl
  | granted reason _ _ _ hEvent =>
    have hNot : isRefusal reason = false := by
      rcases hEvent with ⟨_, _, rfl⟩ | ⟨_, rfl⟩ <;> rfl
    change isRefusal reason = true at h
    rw [hNot] at h
    cases h
  | owned =>
    rw [isRefusal_handleOwnedEvent] at h
    cases h

/-! ## Every method absorbs an earlier expiry -/

section

variable {t now : ℚ} (h : t ≤ now) (s : CommandSupervisor)
include h

theorem handleControlEvent_expired (m : ControlMessage) :
    (s.expireLease t).handleControlEvent m now = s.handleControlEvent m now := by
  simp only [handleControlEvent, expireLease_expireLease h]

theorem setRuntimeMode_expired (mode : Mode) (map : String) (stable : Bool) :
    (s.expireLease t).setRuntimeMode mode map now stable =
      s.setRuntimeMode mode map now stable := by
  simp only [setRuntimeMode, expireLease_expireLease h]

theorem requestMode_expired (mode : Option Mode) (requestId : Int) (leaseId : String) :
    (s.expireLease t).requestMode mode requestId leaseId now =
      s.requestMode mode requestId leaseId now := by
  simp only [requestMode, expireLease_expireLease h]

theorem setDualsenseActive_expired (active : Bool) :
    (s.expireLease t).setDualsenseActive active now = s.setDualsenseActive active now := by
  simp only [setDualsenseActive, expireLease_expireLease h]

theorem receiveRawAutonomy_expired (command : VelocityCommand) :
    (s.expireLease t).receiveRawAutonomy command now = s.receiveRawAutonomy command now := by
  simp only [receiveRawAutonomy, expireLease_expireLease h]

theorem receiveRawManual_expired (command : VelocityCommand) (sequence : Int) :
    (s.expireLease t).receiveRawManual command sequence now =
      s.receiveRawManual command sequence now := by
  simp only [receiveRawManual, expireLease_expireLease h]

/-- Only the reason of a tick can tell that the lease had lapsed before. -/
theorem tick_expired :
    ((s.expireLease t).tick now).1 = (s.tick now).1 ∧
      ((s.expireLease t).tick now).2.observation = (s.tick now).2.observation := by
  simp only [tick, expireLease_expireLease h, SupervisorResult.observation, snapshot, and_self]

end

theorem restart_expired (s : CommandSupervisor) (t now : ℚ) :
    (s.expireLease t).restart now = s.restart now := by
  simp only [restart, transition, expireLease_config, expireLease_manualMaxSpeedMps,
    Option.getD_none, expireLease_activeAutonomyMap]

/-- The ceiling is the one field that a call sets without reading the lease. -/
theorem step_setManualMaxSpeedMps_expired (s : CommandSupervisor) (value : PyFloat)
    (t now : ℚ) :
    (s.expireLease t).step ⟨.setManualMaxSpeedMps value, now⟩ =
      (s.step ⟨.setManualMaxSpeedMps value, now⟩).expireLease t := by
  change (setManualMaxSpeedMps (s.expireLease t) value).getD (s.expireLease t) =
    expireLease ((setManualMaxSpeedMps s value).getD s) t
  unfold setManualMaxSpeedMps
  rw [expireLease_config]
  split
  · simp only [Option.getD_some, expireLease_eq]
    change _ = if s.leaseExpires t then _ else _
    split <;> rfl
  · rfl

theorem perform_expired (s : CommandSupervisor) (c : TimedCall) {t : ℚ} (h : t ≤ c.now) :
    (s.expireLease t).observe c = s.observe c ∧
      ((s.expireLease t).step c = s.step c ∨
        (s.expireLease t).step c = (s.step c).expireLease t) := by
  obtain ⟨call, now⟩ := c
  cases call with
  | handleControlEvent m =>
    simp only [observe, result, step, perform, handleControlEvent_expired h, true_or, and_self]
  | tick =>
    obtain ⟨hState, hObs⟩ := tick_expired h s
    exact ⟨congrArg some hObs, Or.inl hState⟩
  | setRuntimeMode mode map stable =>
    simp only [observe, result, step, perform, setRuntimeMode_expired h, true_or, and_self]
  | requestMode mode requestId leaseId =>
    simp only [observe, result, step, perform, requestMode_expired h, true_or, and_self]
  | setDualsenseActive active =>
    simp only [observe, result, step, perform, setDualsenseActive_expired h, true_or, and_self]
  | receiveRawAutonomy command =>
    simp only [observe, result, step, perform, receiveRawAutonomy_expired h, true_or, and_self]
  | receiveRawManual command sequence =>
    simp only [observe, result, step, perform, receiveRawManual_expired h, true_or, and_self]
  | restart =>
    simp only [observe, result, step, perform, restart_expired, true_or, and_self]
  | setManualMaxSpeedMps value =>
    exact ⟨rfl, Or.inr (step_setManualMaxSpeedMps_expired s value t now)⟩

/-- The supervisor is a settling machine: expiry is its settling, the refused events are the
inputs that only settle. -/
theorem settling :
    Runs.Settling step observe TimedCall.now (fun t s => s.expireLease t) refused where
  settle_settle _ _ _ h := expireLease_expireLease h
  step_dropped s c h := by
    obtain ⟨call, now⟩ := c
    cases call with
    | handleControlEvent m => exact refused_state h
    | _ => cases h
  observe_settle s c _ h := (perform_expired s c h).1
  step_settle s c _ h := (perform_expired s c h).2

/-- Deleting the refused control events of a run with non-decreasing times leaves every other call
with the same observation. `settling` says that a refused event does only what the next call would
have done first anyway, and `replay_drop` makes this a statement about whole runs. -/
theorem refused_events_unobservable (s : CommandSupervisor) {calls : List TimedCall}
    (hTimes : calls.Pairwise fun c d => c.now ≤ d.now) :
    Runs.replayKept step observe refused s calls =
      Runs.replay step observe s (Runs.keepInputs step refused s calls) :=
  settling.replay_drop s hTimes

/-- A lease, an event without it, a replayed event, and a tick after the lease has lapsed. -/
def intrudedRun : List TimedCall :=
  let sent (clientId : String) (event : ControlEvent) (sequence : Int) (now : ℚ) : TimedCall :=
    ⟨.handleControlEvent { event, clientId, leaseId := "l", sequence }, now⟩
  [sent "c" .leaseAcquired 1 0, sent "d" .stop 2 1, sent "c" .stop 1 2, sent "d" .runPressed 9 4,
    ⟨.tick, 5⟩]

theorem refused_events_unobservable_intrudedRun :
    Runs.keepInputs step refused (defaultSupervisor "m") intrudedRun =
        [intrudedRun.head (by decide), ⟨.tick, 5⟩] ∧
      Runs.replayKept step observe refused (defaultSupervisor "m") intrudedRun =
        Runs.replay step observe (defaultSupervisor "m")
          (Runs.keepInputs step refused (defaultSupervisor "m") intrudedRun) :=
  ⟨by decide +kernel, refused_events_unobservable (defaultSupervisor "m") (by decide +kernel)⟩

end CommandSupervisor

end PreRunner.Paddock
