import Mathlib.Data.List.Pairwise
import PreRunner.Runs.Intervals
import PreRunner.Drive.Integration

/-!
# Integration over a run

The integrator changes only in a step that drives under every condition of the controller, and it
never goes farther into saturation. When the samples of the encoder come in order, the intervals
that different steps integrate over do not overlap.

`Timeline` is the invariant of a run: its intervals are in order, each lies between two sample
times that were reported, and none goes beyond the remembered one. The bound on their total length
is then that of `Runs.Intervals`. `GatedStep` lists what a single step must have found before it
moves the integrator.
-/

namespace PreRunner.Drive

open Runs

namespace DriveAdapter

variable {lib : DriveLibrary} {config : AdapterConfig}

/-! ## Sample times and intervals of a run -/

/-- The finite sample time that an encoder input carries. -/
def sampleTime? : AdapterInput → Option ℚ
  | .encoder _ _ _ (some (.finite sampleTime)) => some sampleTime
  | _ => none

/-- The sample times of a history, the latest first. -/
def sampleTimes (inputs : List AdapterInput) : List ℚ := inputs.filterMap sampleTime?

/-- The encoder reports its samples in the order of their times. -/
def InSampleOrder (inputs : List AdapterInput) : Prop :=
  (sampleTimes inputs).Pairwise fun later earlier => earlier ≤ later

instance (inputs : List AdapterInput) : Decidable (InSampleOrder inputs) :=
  inferInstanceAs (Decidable (List.Pairwise _ _))

/-- The interval that an input integrates over. -/
def interval? (lib : DriveLibrary) (s : DriveAdapter) : AdapterInput → Option (ℚ × ℚ)
  | .step now =>
    if (s.step lib now).2.integratorFreezeReason ∈ integratedReasons then
      match s.previousEncoderSampleTime, s.encoderSampleTime with
      | some (.finite start), some (.finite stop) => some (start, stop)
      | _, _ => none
    else none
  | _ => none

/-- The adapter after a history. -/
abbrev run (lib : DriveLibrary) (config : AdapterConfig) (inputs : List AdapterInput) :
    DriveAdapter := after (receive lib) { config } inputs

/-- The intervals that a history has integrated over, the latest first. -/
def intervals (lib : DriveLibrary) (config : AdapterConfig) : List AdapterInput → List (ℚ × ℚ)
  | [] => []
  | input :: past => (interval? lib (run lib config past) input).toList ++ intervals lib config past

/-- The last driving step has seen this sample. -/
def LastDrive (lib : DriveLibrary) (config : AdapterConfig) (sample : PyFloat) :
    List AdapterInput → Prop :=
  Since (fun past input => ∀ now, input = .step now → ¬ Drives (run lib config past) now)
    fun past input => ∃ now, input = .step now ∧ Drives (run lib config past) now ∧
      (run lib config past).encoderSampleTime = some sample

theorem interval?_eq_some {s : DriveAdapter} {input : AdapterInput} {start stop : ℚ}
    (h : interval? lib s input = some (start, stop)) :
    ∃ now, input = .step now ∧ Integrates lib s now start stop := by
  unfold interval? at h
  split at h
  · rename_i now
    split at h
    · rename_i hReason
      rcases step_integration lib s now with ⟨⟨start', stop', hIntegrates⟩, -⟩ | ⟨-, hNot⟩
      · rw [hIntegrates.previous, hIntegrates.sample] at h
        cases h
        exact ⟨now, rfl, hIntegrates⟩
      · exact absurd hReason hNot
    · exact nomatch h
  · exact nomatch h

theorem interval?_of_changed {s : DriveAdapter} {now : ℚ}
    (h : (s.step lib now).1.integrator ≠ s.integrator) :
    ∃ start stop, interval? lib s (.step now) = some (start, stop) ∧
      Integrates lib s now start stop := by
  rcases step_integration lib s now with ⟨⟨start, stop, hIntegrates⟩, hReason⟩ | ⟨hSame, -⟩
  · refine ⟨start, stop, ?_, hIntegrates⟩
    unfold interval?
    dsimp only
    rw [if_pos hReason, hIntegrates.previous, hIntegrates.sample]
  · exact absurd hSame h

/-! ## The remembered sample is that of the last driving step -/

theorem lastDrive_of_previous (inputs : List AdapterInput) :
    ∀ sample, (run lib config inputs).previousEncoderSampleTime = some sample →
      LastDrive lib config sample inputs := by
  induction inputs with
  | nil => exact fun _ h => nomatch h
  | cons input past ih =>
    intro sample h
    change (receive lib (run lib config past) input).previousEncoderSampleTime = _ at h
    obtain ⟨-, ⟨now, hInput, hDrives, hPrevious⟩ | ⟨hIdle, hPrevious⟩⟩ :=
      receive_samples lib (run lib config past) input
    · exact .start ⟨now, hInput, hDrives, hPrevious ▸ h⟩
    · rcases hPrevious with hSame | hNone
      · exact .keep hIdle (ih sample (hSame ▸ h))
      · rw [hNone] at h
        cases h

/-! ## Order -/

/-- How the samples of a history are ordered. -/
structure Timeline (lib : DriveLibrary) (config : AdapterConfig) (inputs : List AdapterInput) :
    Prop where
  current : ∀ time, (run lib config inputs).encoderSampleTime = some (.finite time) →
    time ∈ sampleTimes inputs ∧ ∀ other ∈ sampleTimes inputs, other ≤ time
  remembered : ∀ time, (run lib config inputs).previousEncoderSampleTime = some (.finite time) →
    time ∈ sampleTimes inputs ∧ ∀ interval ∈ intervals lib config inputs, interval.2 ≤ time
  reported : ∀ interval ∈ intervals lib config inputs,
    interval.1 ∈ sampleTimes inputs ∧ interval.2 ∈ sampleTimes inputs
  ordered : InOrder (intervals lib config inputs)

theorem sampleTimes_cons (input : AdapterInput) (past : List AdapterInput) :
    sampleTimes (input :: past) = (sampleTime? input).toList ++ sampleTimes past := by
  unfold sampleTimes
  rw [List.filterMap_cons]
  cases sampleTime? input <;> rfl

theorem mem_sampleTimes_cons {input : AdapterInput} {past : List AdapterInput} {time : ℚ}
    (h : time ∈ sampleTimes past) : time ∈ sampleTimes (input :: past) := by
  rw [sampleTimes_cons]
  exact List.mem_append_right _ h

theorem InSampleOrder.tail {input : AdapterInput} {past : List AdapterInput}
    (h : InSampleOrder (input :: past)) : InSampleOrder past := by
  unfold InSampleOrder at h
  rw [sampleTimes_cons, List.pairwise_append] at h
  exact h.2.1

/-- The current sample is the latest of those that are reported in order. -/
theorem current_cons {past : List AdapterInput} {input : AdapterInput}
    (hOrder : InSampleOrder (input :: past)) (h : Timeline lib config past) {time : ℚ}
    (hTime : (run lib config past).reportedSample input = some (.finite time)) :
    time ∈ sampleTimes (input :: past) ∧ ∀ other ∈ sampleTimes (input :: past), other ≤ time := by
  cases input with
  | encoder edgeRate pendingDirection now sampleTime =>
    change sampleTime = _ at hTime
    subst hTime
    change (time :: sampleTimes past).Pairwise _ at hOrder
    change time ∈ time :: sampleTimes past ∧ ∀ other ∈ time :: sampleTimes past, other ≤ time
    refine ⟨List.mem_cons_self, fun other hOther => ?_⟩
    rcases List.mem_cons.mp hOther with rfl | hOther
    · exact le_rfl
    · exact (List.pairwise_cons.mp hOrder).1 other hOther
  | _ => exact h.current time hTime

theorem timeline_cons {past : List AdapterInput} {input : AdapterInput}
    (hOrder : InSampleOrder (input :: past)) (h : Timeline lib config past) :
    Timeline lib config (input :: past) := by
  obtain ⟨hSample, hPrevious⟩ := receive_samples lib (run lib config past) input
  have hCurrent : ∀ time, (run lib config (input :: past)).encoderSampleTime =
      some (.finite time) → time ∈ sampleTimes (input :: past) ∧
        ∀ other ∈ sampleTimes (input :: past), other ≤ time := fun time hTime =>
    current_cons hOrder h (hSample.symm.trans hTime)
  cases hInterval : interval? lib (run lib config past) input with
  | none =>
    have hIntervals : intervals lib config (input :: past) = intervals lib config past := by
      unfold intervals
      rw [hInterval]
      cases past <;> rfl
    refine ⟨hCurrent, fun time hTime => ?_, ?_, ?_⟩
    · rw [hIntervals]
      rcases hPrevious with ⟨now, -, -, hDrive⟩ | ⟨-, hSame | hNone⟩
      · obtain ⟨hMem, hLatest⟩ := h.current time (hDrive.symm.trans hTime)
        exact ⟨mem_sampleTimes_cons hMem, fun interval hInterval =>
          hLatest _ (h.reported interval hInterval).2⟩
      · obtain ⟨hMem, hLatest⟩ := h.remembered time (hSame.symm.trans hTime)
        exact ⟨mem_sampleTimes_cons hMem, hLatest⟩
      · exact nomatch hNone.symm.trans hTime
    · rw [hIntervals]
      exact fun interval hMem => (h.reported interval hMem).imp mem_sampleTimes_cons
        mem_sampleTimes_cons
    · rw [hIntervals]
      exact h.ordered
  | some interval =>
    obtain ⟨start, stop⟩ := interval
    have hIntervals : intervals lib config (input :: past) =
        (start, stop) :: intervals lib config past := by
      change (interval? lib (run lib config past) input).toList ++ _ = _
      rw [hInterval]
      rfl
    obtain ⟨now, rfl, hIntegrates⟩ := interval?_eq_some hInterval
    obtain ⟨hStart, hBefore⟩ := h.remembered start hIntegrates.previous
    obtain ⟨hStop, hLatest⟩ := h.current stop hIntegrates.sample
    have hDrives : Drives (run lib config past) now := by
      obtain ⟨speed, lateralDemand, hDrive, -⟩ := hIntegrates.drives
      exact ⟨speed, lateralDemand, hDrive⟩
    refine ⟨hCurrent, fun time hTime => ?_, ?_, ?_⟩
    · rw [hIntervals]
      rcases hPrevious with ⟨-, -, -, hDrive⟩ | ⟨hIdle, -⟩
      · have hEq : stop = time := by
          have hBoth := hIntegrates.sample.symm.trans (hDrive.symm.trans hTime)
          exact PyFloat.finite.inj (Option.some.inj hBoth)
        subst hEq
        refine ⟨mem_sampleTimes_cons hStop, fun interval hMem => ?_⟩
        rcases List.mem_cons.mp hMem with rfl | hMem
        · exact le_rfl
        · exact hLatest _ (h.reported interval hMem).2
      · exact absurd hDrives (hIdle now rfl)
    · rw [hIntervals]
      intro interval hMem
      rcases List.mem_cons.mp hMem with rfl | hMem
      · exact ⟨mem_sampleTimes_cons hStart, mem_sampleTimes_cons hStop⟩
      · exact (h.reported interval hMem).imp mem_sampleTimes_cons mem_sampleTimes_cons
    · rw [hIntervals]
      exact List.pairwise_cons.mpr ⟨hBefore, h.ordered⟩

theorem timeline {inputs : List AdapterInput} (hOrder : InSampleOrder inputs) :
    Timeline lib config inputs := by
  induction inputs with
  | nil =>
    constructor
    · exact fun _ h => nomatch h
    · exact fun _ h => nomatch h
    · exact fun _ h => absurd h List.not_mem_nil
    · exact List.Pairwise.nil
  | cons input past ih => exact timeline_cons hOrder (ih hOrder.tail)

/-! ## Every run -/

theorem validated_integralGain (h : Validated lib config) : 0 ≤ config.integralGain := by
  unfold Validated AdapterConfig.error? at h
  cases hFound : config.positive.find? (·.2 ≤ 0) with
  | some entry =>
    rw [hFound] at h
    cases h
  | none =>
    rw [hFound] at h
    obtain ⟨-, h⟩ := of_ite_none h
    exact not_lt.mp (of_ite_none h).1

/-- An integration moves the integrator in the direction of the speed error. -/
theorem integrator_direction {s : DriveAdapter} {now start stop : ℚ} (hBounded : Bounded lib s)
    (h : Integrates lib s now start stop) :
    (s.integrator < (s.step lib now).1.integrator → 0 < (s.step lib now).2.speedError) ∧
      ((s.step lib now).1.integrator < s.integrator → (s.step lib now).2.speedError < 0) := by
  have hGain : 0 ≤ s.config.integralGain * (stop - start) :=
    mul_nonneg (validated_integralGain hBounded.validated) (sub_pos.mpr h.newer).le
  obtain ⟨hLow, hHigh⟩ := abs_le.mp hBounded.integrator
  rw [h.integrator]
  set speedError := (s.step lib now).2.speedError
  have hProduct : s.config.integralGain * speedError * (stop - start) =
      s.config.integralGain * (stop - start) * speedError := mul_right_comm _ _ _
  rw [hProduct]
  constructor
  · intro hUp
    by_contra hError
    have hNonpos := mul_nonpos_of_nonneg_of_nonpos hGain (not_lt.mp hError)
    refine absurd hUp (not_lt.mpr (max_le hLow ((min_le_right _ _).trans ?_)))
    linarith
  · intro hDown
    by_contra hError
    have hNonneg := mul_nonneg hGain (not_lt.mp hError)
    refine absurd hDown (not_lt.mpr (le_max_of_le_right (le_min hHigh ?_)))
    linarith

/-- What a step of a run does to the integrator. -/
structure GatedStep (lib : DriveLibrary) (config : AdapterConfig) (past : List AdapterInput)
    (now : ℚ) : Prop where
  changed : ((run lib config past).step lib now).1.integrator ≠ (run lib config past).integrator →
    ∃ start stop, interval? lib (run lib config past) (.step now) = some (start, stop) ∧
      Integrates lib (run lib config past) now start stop ∧
      LastDrive lib config (.finite start) past
  upper : (run lib config past).integrator < ((run lib config past).step lib now).1.integrator →
    ((run lib config past).step lib now).2.saturationState ≠ .upper
  lower : ((run lib config past).step lib now).1.integrator < (run lib config past).integrator →
    ((run lib config past).step lib now).2.saturationState ≠ .lower

theorem bounded_run (hValid : Validated lib config) (inputs : List AdapterInput) :
    Bounded lib (run lib config inputs) := by
  have hInit : Bounded lib { config } := by
    refine ⟨hValid, ?_⟩
    rw [abs_zero]
    exact (validated_bounds hValid).1.le
  exact after_invariant hInit (fun s input (h : Bounded lib s) => bounded_receive h input) inputs

theorem gatedStep (hValid : Validated lib config) (past : List AdapterInput) (now : ℚ) :
    GatedStep lib config past now := by
  have hBounded := bounded_run hValid past
  constructor
  case changed =>
    intro hChanged
    obtain ⟨start, stop, hInterval, hIntegrates⟩ := interval?_of_changed hChanged
    exact ⟨start, stop, hInterval, hIntegrates,
      lastDrive_of_previous past _ hIntegrates.previous⟩
  case upper =>
    intro hUp hUpper
    obtain ⟨start, stop, -, hIntegrates⟩ := interval?_of_changed hUp.ne'
    exact hIntegrates.unsaturated (Or.inl ⟨hUpper,
      (integrator_direction hBounded hIntegrates).1 hUp⟩)
  case lower =>
    intro hDown hLower
    obtain ⟨start, stop, -, hIntegrates⟩ := interval?_of_changed hDown.ne
    exact hIntegrates.unsaturated
      (Or.inr ⟨hLower, (integrator_direction hBounded hIntegrates).2 hDown⟩)

/-- The integrated time is no longer than the time between the first and the last sample. -/
theorem totalLength_intervals_le {inputs : List AdapterInput} (hOrder : InSampleOrder inputs)
    {first last : ℚ} (hFirst : (sampleTimes inputs).getLast? = some first)
    (hLast : (sampleTimes inputs).head? = some last) :
    totalLength (intervals lib config inputs) ≤ last - first := by
  have hTimeline : Timeline lib config inputs := timeline hOrder
  have hAfter : ∀ time ∈ sampleTimes inputs, first ≤ time := by
    obtain ⟨earlier, hSplit⟩ := List.getLast?_eq_some_iff.mp hFirst
    intro time hMem
    unfold InSampleOrder at hOrder
    rw [hSplit] at hMem hOrder
    rcases List.mem_append.mp hMem with hMem | hMem
    · exact (List.pairwise_append.mp hOrder).2.2 time hMem first List.mem_cons_self
    · exact (List.mem_singleton.mp hMem).ge
  have hBefore : ∀ time ∈ sampleTimes inputs, time ≤ last := by
    obtain ⟨later, hSplit⟩ := List.head?_eq_some_iff.mp hLast
    intro time hMem
    unfold InSampleOrder at hOrder
    rw [hSplit] at hMem hOrder
    rcases List.mem_cons.mp hMem with rfl | hMem
    · exact le_rfl
    · exact (List.pairwise_cons.mp hOrder).1 time hMem
  exact totalLength_le hTimeline.ordered (hBefore first (List.mem_of_getLast? hFirst))
    (fun interval hMem => hAfter _ (hTimeline.reported interval hMem).1)
    fun interval hMem => hBefore _ (hTimeline.reported interval hMem).2

/-- Every step of every run changes the integrator only as the controller allows, and over the run
the integrated intervals do not overlap and are together no longer than the samples. `gatedStep`
treats one step. The rest is read off the timeline of the run, in which every interval lies between
two samples and after the intervals before it. -/
theorem integration_gated (lib : DriveLibrary) (config : AdapterConfig)
    (hValid : config.error? lib = none) (inputs : List AdapterInput)
    (hOrder : InSampleOrder inputs) :
    (∀ later now past, inputs = later ++ .step now :: past → GatedStep lib config past now) ∧
      InOrder (intervals lib config inputs) ∧
      (sampleTimes inputs = [] → intervals lib config inputs = []) ∧
      ∀ first last, (sampleTimes inputs).getLast? = some first →
        (sampleTimes inputs).head? = some last →
        totalLength (intervals lib config inputs) ≤ last - first := by
  refine ⟨fun _ now past _ => gatedStep hValid past now, (timeline hOrder).ordered,
    fun hNone => List.eq_nil_iff_forall_not_mem.mpr fun interval hMem => ?_,
    fun first last hFirst hLast => totalLength_intervals_le hOrder hFirst hLast⟩
  have hReported := ((timeline hOrder).reported interval hMem).1
  rw [hNone] at hReported
  exact absurd hReported List.not_mem_nil

/-- A configuration with an integral gain. -/
def integrating : AdapterConfig := { AdapterConfig.default with integralGain := 1 / 100 }

/-- A driving step. -/
def begun : List AdapterInput :=
  [.step 0, .encoder (.finite 0) 1 0 (some (.finite 0)),
    .manualCommand (.finite (1 / 2)) (.finite 0) 0]

/-- The inputs before a driving step a tenth of a second later. -/
def resuming : List AdapterInput :=
  [.muxOutput (.finite 0) (.finite 0) (1 / 10), .adapterOutput (.finite 0) (.finite 0) (1 / 10),
    .encoder (.finite 0) 1 (1 / 10) (some (.finite (1 / 10))),
    .manualCommand (.finite (1 / 2)) (.finite 0) (1 / 10)]

/-- Two driving steps with other inputs in between. -/
def resumed (between : List AdapterInput) : List AdapterInput :=
  .step (1 / 10) :: resuming ++ (between ++ begun)

theorem integration_gated_resumed :
    (∀ later now past, resumed [] = later ++ .step now :: past →
      GatedStep directLibrary integrating past now) ∧
      InOrder (intervals directLibrary integrating (resumed [])) ∧
      (sampleTimes (resumed []) = [] → intervals directLibrary integrating (resumed []) = []) ∧
      ∀ first last, (sampleTimes (resumed [])).getLast? = some first →
        (sampleTimes (resumed [])).head? = some last →
        totalLength (intervals directLibrary integrating (resumed [])) ≤ last - first :=
  integration_gated directLibrary integrating (by decide +kernel) (resumed []) (by decide +kernel)

end DriveAdapter

end PreRunner.Drive
