import PreRunner.Drive.IntegrationHistory

/-!
# Time during which the integrator is frozen

A driving step that is frozen remembers its sample, so a later step integrates only from there on. A
step that brakes or is silent does not: if driving resumes soon enough, the time of the brake is
integrated after all.

The condition of the main result names such steps (`IdleInTime`); the brake in the last example
does not meet it. The proof uses the timeline of `IntegrationHistory`: a sample time is closed once
no later interval may begin before it (`Closed`).
-/

namespace PreRunner.Drive

open Runs

namespace DriveAdapter

variable {lib : DriveLibrary} {config : AdapterConfig}

/-- The reasons for which time is not to be integrated. -/
def frozenReasons : List IntegratorFreezeReason :=
  [.noCommand, .invalidCommand, .zeroCommand, .feedbackStale, .wheelspin, .directionUnavailable,
    .directionMismatch, .arbitrationUnavailable, .outputNotSelected, .invalidDt]

/-- A step that brakes or is silent comes with no sample after the remembered one, or with one that
is too late to be integrated. -/
def IdleInTime (s : DriveAdapter) (now : ℚ) : Prop :=
  ¬ Drives s now → ∀ current previous, s.encoderSampleTime = some (.finite current) →
    s.previousEncoderSampleTime = some (.finite previous) →
    current ≤ previous ∨ previous + maxIntegrationDtSec < current

/-- Nothing before a time can be integrated any more. -/
def Closed (s : DriveAdapter) (time : ℚ) : Prop :=
  ∀ previous, s.previousEncoderSampleTime = some (.finite previous) →
    time ≤ previous ∨ previous + maxIntegrationDtSec < time

theorem closed_step {s : DriveAdapter} {now time : ℚ} (hIdle : IdleInTime s now)
    (hTime : s.encoderSampleTime = some (.finite time)) : Closed (s.step lib now).1 time := by
  intro previous hPrevious
  by_cases hDrives : Drives s now
  · rw [(step_samples_of_drives hDrives).2, hTime] at hPrevious
    cases hPrevious
    exact Or.inl le_rfl
  · rw [(step_samples_of_not_drives hDrives).2] at hPrevious
    exact hIdle hDrives time previous hTime hPrevious

theorem closed_receive {past : List AdapterInput} {input : AdapterInput} {time : ℚ}
    (hOrder : InSampleOrder past) (hReported : time ∈ sampleTimes past)
    (h : Closed (run lib config past) time) :
    Closed ((run lib config past).receive lib input) time := by
  intro previous hPrevious
  obtain ⟨-, ⟨-, -, -, hDrive⟩ | ⟨-, hSame | hNone⟩⟩ :=
    receive_samples lib (run lib config past) input
  · rw [hDrive] at hPrevious
    exact Or.inl (((timeline hOrder).current previous hPrevious).2 time hReported)
  · exact h previous (hSame.symm.trans hPrevious)
  · exact nomatch hNone.symm.trans hPrevious

theorem InSampleOrder.of_append {later past : List AdapterInput}
    (h : InSampleOrder (later ++ past)) : InSampleOrder past := by
  induction later with
  | nil => exact h
  | cons input later ih => exact ih h.tail

theorem closed_append {later past : List AdapterInput} {time : ℚ}
    (hOrder : InSampleOrder (later ++ past)) (hReported : time ∈ sampleTimes past)
    (h : Closed (run lib config past) time) : Closed (run lib config (later ++ past)) time := by
  induction later with
  | nil => exact h
  | cons input later ih =>
    have hMem : time ∈ sampleTimes (later ++ past) := by
      unfold sampleTimes
      rw [List.filterMap_append]
      exact List.mem_append_right _ hReported
    exact closed_receive hOrder.tail hMem (ih hOrder.tail)

/-- An interval that is integrated later starts at or after the time. -/
theorem le_start_of_closed {past : List AdapterInput} {now time start stop : ℚ}
    (hOrder : InSampleOrder past) (hReported : time ∈ sampleTimes past)
    (h : Closed (run lib config past) time)
    (hIntegrates : Integrates lib (run lib config past) now start stop) : time ≤ start := by
  refine (h start hIntegrates.previous).resolve_right fun hLate => ?_
  have hStop : time ≤ stop := ((timeline hOrder).current stop hIntegrates.sample).2 time hReported
  have hRecent := hIntegrates.recent
  linarith

/-- When no step brakes or is silent with a sample that a later step could still integrate, time
during which integration was frozen is never integrated afterwards. A frozen step that remembers
its sample closes the time up to it (`closed_step`), and in order of samples no later interval
reaches back over it (`le_start_of_closed`). -/
theorem frozen_time_not_integrated (lib : DriveLibrary) (config : AdapterConfig)
    (inputs : List AdapterInput) (hOrder : InSampleOrder inputs)
    (hIdle : ∀ later now past, inputs = later ++ .step now :: past →
      IdleInTime (run lib config past) now) :
    ∀ later now past, inputs = later ++ .step now :: past →
      ((run lib config past).step lib now).2.integratorFreezeReason ∈ frozenReasons →
      ∀ time, (run lib config past).encoderSampleTime = some (.finite time) →
      ∀ recent now' older, later = recent ++ .step now' :: older →
      ∀ start stop, interval? lib (run lib config (older ++ .step now :: past)) (.step now') =
        some (start, stop) → time ≤ start := by
  rintro later now past rfl - time hTime recent now' older rfl start stop hInterval
  rw [List.append_assoc, List.cons_append] at hOrder
  have hOlder : InSampleOrder (older ++ .step now :: past) := hOrder.of_append.tail
  have hReported : time ∈ sampleTimes (.step now :: past) :=
    mem_sampleTimes_cons ((timeline hOlder.of_append.tail).current time hTime).1
  have hClosed : Closed (run lib config (older ++ .step now :: past)) time :=
    closed_append hOlder hReported (closed_step (hIdle _ now past rfl) hTime)
  obtain ⟨_, hNow, hIntegrates⟩ := interval?_eq_some hInterval
  have hMem : time ∈ sampleTimes (older ++ .step now :: past) := by
    unfold sampleTimes
    rw [List.filterMap_append]
    exact List.mem_append_right _ hReported
  exact le_start_of_closed hOlder hMem hClosed hIntegrates

/-- A step that brakes before the next sample arrives. -/
def pausing : List AdapterInput :=
  [.step (1 / 20), .manualCommand (.finite 0) (.finite 0) (1 / 20)]

theorem frozen_time_not_integrated_resumed :
    ((run directLibrary integrating (pausing.tail ++ begun)).step directLibrary
        (1 / 20)).2.integratorFreezeReason = .zeroCommand ∧
      interval? directLibrary (run directLibrary integrating (resuming ++ (pausing ++ begun)))
        (.step (1 / 10)) = some (0, 1 / 10) ∧ (0 : ℚ) ≤ 0 := by
  have hReason : ((run directLibrary integrating (pausing.tail ++ begun)).step directLibrary
      (1 / 20)).2.integratorFreezeReason = .zeroCommand := by decide +kernel
  have hInterval : interval? directLibrary
      (run directLibrary integrating (resuming ++ (pausing ++ begun))) (.step (1 / 10)) =
        some (0, 1 / 10) := by decide +kernel
  refine ⟨hReason, hInterval, frozen_time_not_integrated directLibrary integrating
    (resumed pausing) (by decide +kernel) (fun later now past hSplit => ?_)
    (.step (1 / 10) :: resuming) (1 / 20) (pausing.tail ++ begun) rfl (by rw [hReason]; decide) 0
    (by decide +kernel) [] (1 / 10) resuming rfl 0 (1 / 10) hInterval⟩
  have hAlways : Always (fun past input => ∀ now, input = .step now →
      IdleInTime (run directLibrary integrating past) now) (resumed pausing) := by
    refine ⟨?_, nofun, nofun, nofun, nofun, ?_, nofun, ?_, nofun, nofun, trivial⟩
    · rintro now ⟨⟩ hNot
      exact absurd ⟨1 / 2, 0, rfl, ⟨1 / 10, rfl, by decide +kernel⟩, by decide +kernel⟩ hNot
    · -- The brake finds the sample that the step before it has remembered.
      rintro now ⟨⟩ - current previous hCurrent hPrevious
      have hSame : (run directLibrary integrating (pausing.tail ++ begun)).encoderSampleTime =
          (run directLibrary integrating (pausing.tail ++ begun)).previousEncoderSampleTime := by
        decide +kernel
      cases hCurrent.symm.trans (hSame.trans hPrevious)
      exact .inl le_rfl
    · rintro now ⟨⟩ hNot
      exact absurd ⟨1 / 2, 0, rfl, ⟨0, rfl, by decide +kernel⟩, by decide +kernel⟩ hNot
  exact (hSplit ▸ hAlways).of_split now rfl

/-- The inputs before a brake between two driving steps. -/
def braking : List AdapterInput :=
  [.encoder (.finite 0) 1 (1 / 20) (some (.finite (1 / 20))),
    .manualCommand (.finite 0) (.finite 0) (1 / 20)]

/-- The driving step after a brake integrates over the time before it. -/
theorem brake_is_integrated :
    ¬ ∀ (lib : DriveLibrary) (config : AdapterConfig) (inputs : List AdapterInput),
      config.error? lib = none → InSampleOrder inputs →
      ∀ later now past, inputs = later ++ .step now :: past →
        ((run lib config past).step lib now).2.integratorFreezeReason ∈ frozenReasons →
        ∀ time, (run lib config past).encoderSampleTime = some (.finite time) →
        ∀ recent now' older, later = recent ++ .step now' :: older →
        ∀ start stop, interval? lib (run lib config (older ++ .step now :: past)) (.step now') =
          some (start, stop) → time ≤ start := by
  intro hAll
  have hStart : (1 / 20 : ℚ) ≤ 0 :=
    hAll directLibrary integrating (resumed (.step (1 / 20) :: braking)) (by decide +kernel)
      (by decide +kernel) (.step (1 / 10) :: resuming) (1 / 20) (braking ++ begun) rfl
      (by decide +kernel) (1 / 20) (by decide +kernel) [] (1 / 10) resuming rfl 0 (1 / 10)
      (by decide +kernel)
  exact absurd hStart (by decide +kernel)

end DriveAdapter

end PreRunner.Drive
