import PreRunner.Drive.DriveSafety

/-!
# What one control step integrates

A step that drives remembers the sample time of the encoder, and it integrates from the one that was
remembered before unless something freezes the integrator. A step that brakes or is silent leaves
both the integrator and the remembered sample time alone.
-/

namespace PreRunner.Drive

namespace DriveAdapter

variable {lib : DriveLibrary} {s : DriveAdapter} {now : ℚ}

/-- A fresh, finite and nonzero speed command. -/
structure HasDrive (s : DriveAdapter) (now speed lateralDemand : ℚ) : Prop where
  command : s.command = some (.finite speed, .finite lateralDemand)
  fresh : ∃ time, s.commandTime = some time ∧ now - time ≤ s.config.cmdVelNavTimeout
  nonzero : speed ≠ 0

def Drives (s : DriveAdapter) (now : ℚ) : Prop :=
  ∃ speed lateralDemand, HasDrive s now speed lateralDemand

theorem step_eq_drive {speed lateralDemand : ℚ} (h : HasDrive s now speed lateralDemand) :
    s.step lib now = s.drive lib speed lateralDemand now := by
  obtain ⟨time, hTime, hFresh⟩ := h.fresh
  unfold step
  rw [h.command, hTime]
  dsimp only [PyFloat.finite?]
  rw [if_neg (not_lt.mpr hFresh), if_neg h.nonzero]

/-- The reasons of a step that does not drive. -/
def idleReasons : List IntegratorFreezeReason := [.noCommand, .invalidCommand, .zeroCommand]

/-- A step that does not drive forgets only since when the wheels spin. -/
theorem step_of_not_drives (h : ¬ Drives s now) :
    (s.step lib now).1 = s.resetTransientState ∧
      (s.step lib now).2.integratorFreezeReason ∈ idleReasons := by
  unfold step
  split
  · rename_i speed lateralDemand time hCommand hTime
    split
    · exact ⟨rfl, List.mem_cons_self⟩
    rename_i hFresh
    split
    · rename_i finiteSpeed finiteDemand hSpeed hDemand
      split
      · exact ⟨rfl, show IntegratorFreezeReason.zeroCommand ∈ idleReasons by decide⟩
      · rename_i hNonzero
        rw [PyFloat.finite?_eq_some] at hSpeed hDemand
        subst hSpeed hDemand
        exact absurd ⟨_, _, hCommand, ⟨_, hTime, not_lt.mp hFresh⟩, hNonzero⟩ h
    · exact ⟨rfl, show IntegratorFreezeReason.invalidCommand ∈ idleReasons by decide⟩
  · exact ⟨rfl, List.mem_cons_self⟩

/-! ## A driving step -/

theorem wheelspinGuard_eq (s : DriveAdapter) (now encoderSpeed : ℚ) :
    ∃ since, (s.wheelspinGuard now encoderSpeed).1 = { s with wheelspinSince := since } := by
  unfold wheelspinGuard
  split
  · exact ⟨none, rfl⟩
  · split
    · exact ⟨some now, rfl⟩
    · exact ⟨s.wheelspinSince, rfl⟩

/-- What lets a step integrate. -/
structure Unfrozen (s : DriveAdapter) (now speed : ℚ) (spinning : Bool) : Prop where
  feedback : s.encoderEdgeRate.isfinite = true ∧
    isOlder s.encoderTime now s.integrationTimeout = false
  wheelspin : spinning = false
  direction : s.pendingDirection = if 0 < speed then 1 else -1
  arbitration : s.arbitrationIsAvailable now = true
  selected : s.adapterOutputIsSelected = true

theorem freeze_ite {c : Prop} [Decidable c] {reason rest : IntegratorFreezeReason}
    (hReason : reason ≠ .none) (h : (if c then reason else rest) = .none) : ¬ c ∧ rest = .none := by
  by_cases hc : c
  · exact absurd ((if_pos hc).symm.trans h) hReason
  · exact ⟨hc, (if_neg hc).symm.trans h⟩

theorem unfrozen_of_freezeReason {speed : ℚ} {spinning : Bool}
    (h : s.freezeReason now speed spinning = .none) : Unfrozen s now speed spinning := by
  obtain ⟨-, h⟩ := freeze_ite (by decide) h
  obtain ⟨hFeedback, h⟩ := freeze_ite (by decide) h
  obtain ⟨hSpinning, h⟩ := freeze_ite (by decide) h
  obtain ⟨-, h⟩ := freeze_ite (by decide) h
  obtain ⟨hDirection, h⟩ := freeze_ite (by decide) h
  obtain ⟨hArbitration, h⟩ := freeze_ite (by decide) h
  obtain ⟨hSelected, -⟩ := freeze_ite (by decide) h
  rw [Bool.or_eq_true, not_or, Bool.not_eq_true, Bool.not_eq_true, Bool.not_eq_eq_eq_not,
    Bool.not_false] at hFeedback
  exact ⟨hFeedback, Bool.eq_false_iff.mpr hSpinning, not_not.mp hDirection,
    by simpa using hArbitration, by simpa using hSelected⟩

theorem integrationDt_snd {dt : ℚ} (h : s.integrationDt.2 = some dt) :
    ∃ start stop, s.previousEncoderSampleTime = some (.finite start) ∧
      s.encoderSampleTime = some (.finite stop) ∧ dt = stop - start ∧ 0 < dt ∧
      dt ≤ maxIntegrationDtSec := by
  unfold integrationDt at h
  dsimp only at h
  split at h
  · rename_i stop start hStop hStart
    split at h
    · exact nomatch h
    · rename_i hUsable
      rw [not_or, not_le, not_lt] at hUsable
      cases h
      exact ⟨start, stop, hStart, hStop, rfl, hUsable.1, hUsable.2⟩
  · exact nomatch h

theorem freeze_ite_ne {c : Prop} [Decidable c] {reason rest other : IntegratorFreezeReason}
    (hReason : reason ≠ other) (hRest : rest ≠ other) : (if c then reason else rest) ≠ other := by
  split
  · exact hReason
  · exact hRest

theorem freezeReason_ne_gainDisabled (s : DriveAdapter) (now speed : ℚ) (spinning : Bool) :
    s.freezeReason now speed spinning ≠ .gainDisabled := by
  unfold freezeReason
  iterate 7 refine freeze_ite_ne (by decide) ?_
  decide

/-- What an integration does: nothing when it is frozen, and otherwise a bounded step that does not
go farther into saturation. -/
theorem integrate_cases (s : DriveAdapter) (base speedError : ℚ) (dt : Option ℚ)
    {freeze : IntegratorFreezeReason} (hFreeze : freeze ≠ .gainDisabled) :
    ((s.integrate base speedError dt freeze).1 = s ∧
      (s.integrate base speedError dt freeze).2 ≠ .none ∧
      (s.integrate base speedError dt freeze).2 ≠ .gainDisabled) ∨
    ∃ interval candidate, freeze = .none ∧ dt = some interval ∧
      candidate = max (-s.config.integratorBound) (min s.config.integratorBound
        (s.integrator + s.config.integralGain * speedError * interval)) ∧
      s.integrate base speedError dt freeze = ({ s with integrator := candidate }, .none) ∧
      ¬ (s.saturation (base + candidate) = .upper ∧ 0 < speedError ∨
        s.saturation (base + candidate) = .lower ∧ speedError < 0) := by
  unfold integrate
  by_cases hNone : freeze = .none
  · subst hNone
    rw [if_neg (not_not.mpr rfl)]
    cases dt with
    | none => exact Or.inl ⟨rfl, nofun, nofun⟩
    | some interval =>
      dsimp only
      split
      · exact Or.inl ⟨rfl, nofun, nofun⟩
      · rename_i hUnsaturated
        exact Or.inr ⟨interval, _, rfl, rfl, rfl, rfl, hUnsaturated⟩
  · rw [if_pos hNone]
    exact Or.inl ⟨rfl, hNone, hFreeze⟩

/-- A driving step is an integration over the interval since the remembered sample. -/
theorem drive_eq (lib : DriveLibrary) (s : DriveAdapter) (speed lateralDemand now : ℚ) :
    let out := s.drive lib speed lateralDemand now
    let timed := (s.wheelspinGuard now out.2.measuredSpeed).1.integrationDt
    let base := out.2.feedforwardThrottle + out.2.proportionalTerm
    let integrated := timed.1.integrate base out.2.speedError timed.2
      (timed.1.freezeReason now speed out.2.wheelspinGuard)
    out.1 = integrated.1 ∧
      out.2.integratorFreezeReason =
        (if integrated.2 = .none ∧ s.config.integralGain = 0 then .gainDisabled
          else integrated.2) ∧
      out.2.saturationState = s.saturation (base + integrated.1.integrator) :=
  ⟨rfl, rfl, rfl⟩

/-- The step integrates over this interval of encoder sample times. -/
structure Integrates (lib : DriveLibrary) (s : DriveAdapter) (now start stop : ℚ) : Prop where
  drives : ∃ speed lateralDemand, HasDrive s now speed lateralDemand ∧
    Unfrozen s now speed (s.step lib now).2.wheelspinGuard
  previous : s.previousEncoderSampleTime = some (.finite start)
  sample : s.encoderSampleTime = some (.finite stop)
  newer : start < stop
  recent : stop - start ≤ maxIntegrationDtSec
  integrator : (s.step lib now).1.integrator =
    max (-s.config.integratorBound) (min s.config.integratorBound
      (s.integrator + s.config.integralGain * (s.step lib now).2.speedError * (stop - start)))
  unsaturated : ¬ ((s.step lib now).2.saturationState = .upper ∧ 0 < (s.step lib now).2.speedError ∨
    (s.step lib now).2.saturationState = .lower ∧ (s.step lib now).2.speedError < 0)

/-- The reasons of a step that has integrated. -/
def integratedReasons : List IntegratorFreezeReason := [.none, .gainDisabled]

theorem drive_integration {speed lateralDemand : ℚ} (h : HasDrive s now speed lateralDemand) :
    ((∃ start stop, Integrates lib s now start stop) ∧
      (s.step lib now).2.integratorFreezeReason ∈ integratedReasons) ∨
    ((s.step lib now).1.integrator = s.integrator ∧
      (s.step lib now).2.integratorFreezeReason ∉ integratedReasons) := by
  have hStep : s.step lib now = s.drive lib speed lateralDemand now := step_eq_drive h
  obtain ⟨hNext, hReason, hSaturation⟩ := drive_eq lib s speed lateralDemand now
  rw [← hStep] at hNext hReason hSaturation
  obtain ⟨since, hGuarded⟩ := s.wheelspinGuard_eq now (s.step lib now).2.measuredSpeed
  rw [hGuarded] at hNext hReason hSaturation
  set guarded : DriveAdapter := { s with wheelspinSince := since }
  have hReasons := guarded.integrationDt.1.freezeReason_ne_gainDisabled now speed
    (s.step lib now).2.wheelspinGuard
  rcases integrate_cases guarded.integrationDt.1
      ((s.step lib now).2.feedforwardThrottle + (s.step lib now).2.proportionalTerm)
      (s.step lib now).2.speedError guarded.integrationDt.2 hReasons with
    ⟨hSame, hNone, hDisabled⟩ | ⟨interval, candidate, hFreeze, hDt, hCandidate, hOut, hUnsaturated⟩
  · right
    rw [hSame] at hNext
    rw [if_neg fun hBoth => hNone hBoth.1] at hReason
    refine ⟨by rw [hNext]; rfl, fun hMem => ?_⟩
    rw [hReason] at hMem
    rcases List.mem_pair.mp hMem with hEq | hEq
    · exact hNone hEq
    · exact hDisabled hEq
  · left
    obtain ⟨start, stop, hStart, hStop, rfl, hNewer, hRecent⟩ := integrationDt_snd hDt
    rw [hOut] at hNext hReason hSaturation
    refine ⟨⟨start, stop, ⟨_, _, h, ?_⟩, hStart, hStop, sub_pos.mp hNewer, hRecent, ?_, ?_⟩, ?_⟩
    · exact unfrozen_of_freezeReason (s := s) hFreeze
    · rw [hNext]
      exact hCandidate
    · rw [hSaturation]
      exact hUnsaturated
    · rw [hReason]
      split
      · exact List.mem_cons_of_mem _ List.mem_cons_self
      · exact List.mem_cons_self

/-- A step integrates, or it leaves the integrator alone and says why. -/
theorem step_integration (lib : DriveLibrary) (s : DriveAdapter) (now : ℚ) :
    ((∃ start stop, Integrates lib s now start stop) ∧
      (s.step lib now).2.integratorFreezeReason ∈ integratedReasons) ∨
    ((s.step lib now).1.integrator = s.integrator ∧
      (s.step lib now).2.integratorFreezeReason ∉ integratedReasons) := by
  by_cases hDrives : Drives s now
  · obtain ⟨speed, lateralDemand, h⟩ := hDrives
    exact drive_integration h
  · obtain ⟨hNext, hReason⟩ := @step_of_not_drives lib s now hDrives
    have hIdle : ∀ reason ∈ idleReasons, reason ∉ integratedReasons := by decide
    exact Or.inr ⟨by rw [hNext]; rfl, hIdle _ hReason⟩

/-! ## The remembered sample -/

theorem integrate_samples (s : DriveAdapter) (base speedError : ℚ) (dt : Option ℚ)
    (freeze : IntegratorFreezeReason) :
    (s.integrate base speedError dt freeze).1.encoderSampleTime = s.encoderSampleTime ∧
      (s.integrate base speedError dt freeze).1.previousEncoderSampleTime =
        s.previousEncoderSampleTime := by
  unfold integrate
  split
  · exact ⟨rfl, rfl⟩
  · split
    · exact ⟨rfl, rfl⟩
    · dsimp only
      split <;> exact ⟨rfl, rfl⟩

/-- A driving step remembers the sample that it has seen. -/
theorem step_samples_of_drives (h : Drives s now) :
    (s.step lib now).1.encoderSampleTime = s.encoderSampleTime ∧
      (s.step lib now).1.previousEncoderSampleTime = s.encoderSampleTime := by
  obtain ⟨speed, lateralDemand, h⟩ := h
  obtain ⟨hNext, -, -⟩ := drive_eq lib s speed lateralDemand now
  obtain ⟨since, hGuarded⟩ := s.wheelspinGuard_eq now
    (s.drive lib speed lateralDemand now).2.measuredSpeed
  rw [step_eq_drive h, hNext]
  obtain ⟨hSample, hPrevious⟩ := integrate_samples
    (s.wheelspinGuard now (s.drive lib speed lateralDemand now).2.measuredSpeed).1.integrationDt.1
    ((s.drive lib speed lateralDemand now).2.feedforwardThrottle +
      (s.drive lib speed lateralDemand now).2.proportionalTerm)
    (s.drive lib speed lateralDemand now).2.speedError
    (s.wheelspinGuard now (s.drive lib speed lateralDemand now).2.measuredSpeed).1.integrationDt.2 _
  refine ⟨hSample.trans ?_, hPrevious.trans ?_⟩ <;> rw [hGuarded] <;> rfl

theorem step_samples_of_not_drives (h : ¬ Drives s now) :
    (s.step lib now).1.encoderSampleTime = s.encoderSampleTime ∧
      (s.step lib now).1.previousEncoderSampleTime = s.previousEncoderSampleTime := by
  rw [(step_of_not_drives h).1]
  exact ⟨rfl, rfl⟩

theorem setLiveParameters_samples {next : DriveAdapter} {updates : List (String × PyValue)}
    (h : s.setLiveParameters lib updates = .ok next) :
    next.encoderSampleTime = s.encoderSampleTime ∧
      (next.previousEncoderSampleTime = s.previousEncoderSampleTime ∨
        next.previousEncoderSampleTime = none) := by
  unfold setLiveParameters at h
  dsimp only at h
  split at h
  · cases h
  · split at h
    · cases h
    · split at h
      · cases h
      · split at h <;> cases h
        · exact ⟨rfl, Or.inr rfl⟩
        · exact ⟨rfl, Or.inl rfl⟩

/-- The sample time that an input reports. -/
def reportedSample (s : DriveAdapter) : AdapterInput → Option PyFloat
  | .encoder _ _ _ sampleTime => sampleTime
  | _ => s.encoderSampleTime

/-- What an input does to the remembered sample: a driving step remembers the current one, and
retuning may forget it. -/
theorem receive_samples (lib : DriveLibrary) (s : DriveAdapter) (input : AdapterInput) :
    (s.receive lib input).encoderSampleTime = s.reportedSample input ∧
      ((∃ now, input = .step now ∧ Drives s now ∧
          (s.receive lib input).previousEncoderSampleTime = s.encoderSampleTime) ∨
        (∀ now, input = .step now → ¬ Drives s now) ∧
          ((s.receive lib input).previousEncoderSampleTime = s.previousEncoderSampleTime ∨
            (s.receive lib input).previousEncoderSampleTime = none)) := by
  cases input with
  | step now =>
    by_cases h : Drives s now
    · obtain ⟨hSample, hPrevious⟩ := @step_samples_of_drives lib s now h
      exact ⟨hSample, Or.inl ⟨now, rfl, h, hPrevious⟩⟩
    · obtain ⟨hSample, hPrevious⟩ := @step_samples_of_not_drives lib s now h
      refine ⟨hSample, Or.inr ⟨fun _ hNow => ?_, Or.inl hPrevious⟩⟩
      cases hNow
      exact h
  | liveParameters updates =>
    change (applyLiveParameters lib updates s).2.encoderSampleTime = _ ∧
      ((∃ now, _ ∧ _ ∧ (applyLiveParameters lib updates s).2.previousEncoderSampleTime = _) ∨
        _ ∧ ((applyLiveParameters lib updates s).2.previousEncoderSampleTime = _ ∨
          (applyLiveParameters lib updates s).2.previousEncoderSampleTime = none))
    rw [applyLiveParameters_eq]
    cases hUpdate : s.setLiveParameters lib updates with
    | ok next =>
      obtain ⟨hSample, hPrevious⟩ := setLiveParameters_samples hUpdate
      exact ⟨hSample, Or.inr ⟨nofun, hPrevious⟩⟩
    | error error => exact ⟨rfl, Or.inr ⟨nofun, Or.inl rfl⟩⟩
  | _ => exact ⟨rfl, Or.inr ⟨nofun, Or.inl rfl⟩⟩

end DriveAdapter

end PreRunner.Drive
