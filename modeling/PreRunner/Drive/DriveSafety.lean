import Mathlib.Data.Sign.Defs
import Mathlib.Tactic.Linarith
import PreRunner.Runs.History
import PreRunner.Drive.DriveAdapter

/-!
# Bounded control

Whatever the adapter is told, its configuration stays a validated one, its integrator stays
within the bound, and each control step puts out a throttle within the authority in force and in
the commanded direction, with a normalized steering. The configuration and the bound are carried
through live retuning, which either replaces a validated configuration by another or raises and
changes nothing.
-/

namespace PreRunner.Drive

open Runs

/-- The calls on a `DriveAdapter`. -/
inductive AdapterInput where
  | command (linearSpeed yawRate : PyFloat) (now : ℚ)
  | manualCommand (signedSpeedMps steeringNormalized : PyFloat) (now : ℚ)
  | invalidateCommand
  | motion (forwardSpeed : PyFloat) (now : ℚ)
  | activeMode (mode : String) (now : ℚ)
  | encoder (edgeRate : PyFloat) (pendingDirection : Int) (now : ℚ) (sampleTime : Option PyFloat)
  | adapterOutput (linear angular : PyFloat) (now : ℚ)
  | muxOutput (linear angular : PyFloat) (now : ℚ)
  | liveParameters (updates : List (String × PyValue))
  | step (now : ℚ)
  | shutdown

namespace DriveAdapter

/-- The adapter after one call, whether it returns or raises. -/
def receive (lib : DriveLibrary) (s : DriveAdapter) : AdapterInput → DriveAdapter
  | .command linearSpeed yawRate now => s.updateCommand linearSpeed yawRate now
  | .manualCommand speed steering now => s.updateManualCommand speed steering now
  | .invalidateCommand => s.invalidateCommand
  | .motion forwardSpeed now => s.updateMotion forwardSpeed now
  | .activeMode mode now => s.updateActiveMode mode now
  | .encoder edgeRate pendingDirection now sampleTime =>
    s.updateEncoder edgeRate pendingDirection now sampleTime
  | .adapterOutput linear angular now => s.updateAdapterOutput linear angular now
  | .muxOutput linear angular now => s.updateMuxOutput linear angular now
  | .liveParameters updates => (applyLiveParameters lib updates s).2
  | .step now => (s.step lib now).1
  | .shutdown => s.shutdown

/-! ## Live retuning -/

/-- The statements of `set_live_parameters` are one atomic update: they raise before the first
assignment, or not at all. -/
theorem applyLiveParameters_eq (lib : DriveLibrary) (s : DriveAdapter)
    (updates : List (String × PyValue)) :
    applyLiveParameters lib updates s = match s.setLiveParameters lib updates with
      | .ok next => (.ok (), next)
      | .error error => (.error error, s) := by
  have hGet : ∀ f : DriveAdapter → Program DriveAdapter AdapterError Unit,
      (Program.get >>= f) s = f s s := fun _ => rfl
  unfold applyLiveParameters setLiveParameters
  rw [hGet]
  dsimp only
  split
  · rfl
  · cases hFind : updates.find? fun update => (double? update.2).isNone with
    | some update => rfl
    | none =>
      dsimp only
      generalize AdapterConfig.validate lib _ = validated
      cases validated with
      | error text => rfl
      | ok config =>
        dsimp only [assignConfig]
        split <;> rfl

/-! ## The invariant -/

/-- The configuration passes the checks of `__post_init__`. -/
def Validated (lib : DriveLibrary) (config : AdapterConfig) : Prop := config.error? lib = none

/-- The invariant of every run. -/
structure Bounded (lib : DriveLibrary) (s : DriveAdapter) : Prop where
  validated : Validated lib s.config
  integrator : |s.integrator| ≤ s.config.integratorBound

/-- A check that is passed, and the checks after it. -/
theorem of_ite_none {α : Type} {p : Prop} [Decidable p] {text : α} {rest : Option α}
    (h : (if p then some text else rest) = none) : ¬ p ∧ rest = none := by
  by_cases hCheck : p
  · rw [if_pos hCheck] at h
    cases h
  · exact ⟨hCheck, (if_neg hCheck).symm.trans h⟩

/-- The facts of a validated configuration that the bounds rest on. -/
theorem validated_bounds {lib : DriveLibrary} {config : AdapterConfig}
    (h : Validated lib config) :
    0 < config.integratorBound ∧ config.outputMin = 0 ∧ 0 < config.outputMax := by
  unfold Validated AdapterConfig.error? at h
  cases hFound : config.positive.find? (·.2 ≤ 0) with
  | some entry =>
    rw [hFound] at h
    cases h
  | none =>
    rw [hFound] at h
    have hBound := List.find?_eq_none.mp hFound ("integrator_bound", config.integratorBound)
      (by simp [AdapterConfig.positive])
    rw [decide_eq_true_eq, not_le] at hBound
    obtain ⟨-, h⟩ := of_ite_none h
    obtain ⟨-, h⟩ := of_ite_none h
    obtain ⟨-, h⟩ := of_ite_none h
    obtain ⟨-, h⟩ := of_ite_none h
    obtain ⟨hMin, h⟩ := of_ite_none h
    obtain ⟨hMax, -⟩ := of_ite_none h
    rw [not_or, not_le] at hMax
    exact ⟨hBound, not_not.mp hMin, hMax.2⟩

/-- A successful constructor returns a validated configuration. -/
theorem validate_ok {lib : DriveLibrary} {fields : AdapterFields PyFloat} {config : AdapterConfig}
    (h : AdapterConfig.validate lib fields = .ok config) :
    Validated lib config ∧ config = fields.map fun value => value.finite?.getD 0 := by
  unfold AdapterConfig.validate at h
  split at h
  · dsimp only at h
    split at h
    · cases h
    · rename_i hValid
      cases h
      exact ⟨hValid, rfl⟩
  · cases h

/-- The bound of the integrator is not live-tunable. -/
theorem assign_integratorBound {α : Type} (fields : AdapterFields α) (name : String) (value : α) :
    (fields.assign name value).integratorBound = fields.integratorBound := by
  unfold AdapterFields.assign
  split <;> rfl

theorem foldl_assign_integratorBound {α β : Type} (name : β → String) (value : β → α)
    (updates : List β) (fields : AdapterFields α) :
    (updates.foldl (fun fields update => fields.assign (name update) (value update))
      fields).integratorBound = fields.integratorBound := by
  induction updates generalizing fields with
  | nil => rfl
  | cons update updates ih => rw [List.foldl_cons, ih, assign_integratorBound]

theorem bounded_setLiveParameters {lib : DriveLibrary} {s next : DriveAdapter}
    {updates : List (String × PyValue)} (hBounded : Bounded lib s)
    (h : s.setLiveParameters lib updates = .ok next) : Bounded lib next := by
  unfold setLiveParameters at h
  dsimp only at h
  split at h
  · cases h
  · split at h
    · cases h
    · split at h
      · cases h
      · rename_i config hConfig
        obtain ⟨hValid, hEq⟩ := validate_ok hConfig
        have hBound : config.integratorBound = s.config.integratorBound := by
          rw [hEq]
          unfold AdapterFields.map
          dsimp only
          rw [foldl_assign_integratorBound]
          rfl
        split at h
        · cases h
          refine ⟨hValid, ?_⟩
          rw [abs_zero]
          exact (validated_bounds hValid).1.le
        · cases h
          exact ⟨hValid, hBounded.integrator.trans_eq hBound.symm⟩

/-! ## The control step -/

theorem abs_clamp_le {bound : ℚ} (hBound : 0 ≤ bound) (value : ℚ) :
    |max (-bound) (min bound value)| ≤ bound :=
  abs_le.mpr ⟨le_max_left _ _, max_le (by linarith) (min_le_left _ _)⟩

theorem abs_clampUnit_le (value : ℚ) : |clampUnit value| ≤ 1 := abs_clamp_le zero_le_one value

/-- Freezing or not, an integration keeps the integrator within its bound. -/
theorem bounded_integrate {lib : DriveLibrary} {s : DriveAdapter} (h : Bounded lib s)
    (base speedError : ℚ) (dt : Option ℚ) (freeze : IntegratorFreezeReason) :
    Bounded lib (s.integrate base speedError dt freeze).1 := by
  unfold integrate
  split
  · exact h
  · split
    · exact h
    · dsimp only
      split
      · exact h
      · exact ⟨h.validated, abs_clamp_le (validated_bounds h.validated).1.le _⟩

theorem bounded_wheelspinGuard {lib : DriveLibrary} {s : DriveAdapter} (h : Bounded lib s)
    (now encoderSpeed : ℚ) : Bounded lib (s.wheelspinGuard now encoderSpeed).1 := by
  unfold wheelspinGuard
  split
  · exact ⟨h.validated, h.integrator⟩
  · split <;> exact ⟨h.validated, h.integrator⟩

theorem bounded_drive {lib : DriveLibrary} {s : DriveAdapter} (h : Bounded lib s)
    (speed lateralDemand now : ℚ) : Bounded lib (s.drive lib speed lateralDemand now).1 := by
  have hTimed : ∀ {guarded : DriveAdapter}, Bounded lib guarded →
      Bounded lib guarded.integrationDt.1 := fun hGuarded =>
    ⟨hGuarded.validated, hGuarded.integrator⟩
  unfold drive
  exact bounded_integrate (hTimed (bounded_wheelspinGuard h now _)) _ _ _ _

theorem bounded_step {lib : DriveLibrary} {s : DriveAdapter} (h : Bounded lib s) (now : ℚ) :
    Bounded lib (s.step lib now).1 := by
  have hReset : Bounded lib s.resetTransientState := ⟨h.validated, h.integrator⟩
  unfold step
  split
  · split
    · exact hReset
    · split
      · split
        · exact hReset
        · exact bounded_drive h _ _ now
      · exact hReset
  · exact hReset

theorem bounded_receive {lib : DriveLibrary} {s : DriveAdapter} (h : Bounded lib s)
    (input : AdapterInput) : Bounded lib (s.receive lib input) := by
  cases input with
  | step now => exact bounded_step h now
  | liveParameters updates =>
    show Bounded lib (applyLiveParameters lib updates s).2
    rw [applyLiveParameters_eq]
    cases hUpdate : s.setLiveParameters lib updates with
    | ok next => exact bounded_setLiveParameters h hUpdate
    | error error => exact h
  | _ => exact ⟨h.validated, h.integrator⟩

/-! ## What is put out -/

/-- What the control step of an adapter may put out. -/
structure SafeOutput (s : DriveAdapter) (decision : AdapterDecision) : Prop where
  throttle : |decision.finalThrottle| ≤ s.config.outputMax
  direction : decision.finalThrottle = 0 ∨ ∃ speed, decision.commandedSpeed = .finite speed ∧
    SignType.sign decision.finalThrottle = SignType.sign speed
  steering : |decision.normalizedSteering| ≤ 1

/-- The command at the given time is absent, over age, not finite, or zero. -/
def NotDriving (s : DriveAdapter) (now : ℚ) : Prop :=
  s.command = none ∨ isOlder s.commandTime now s.config.cmdVelNavTimeout = true ∨
    ∃ speed lateralDemand, s.command = some (speed, lateralDemand) ∧
      (speed.isfinite = false ∨ lateralDemand.isfinite = false ∨ speed = .finite 0)

/-- A control step is silent, brakes, or drives a finite nonzero speed that is neither over age
nor invalidated. -/
theorem step_cases (lib : DriveLibrary) (s : DriveAdapter) (now : ℚ) :
    (∃ reason speed, s.step lib now = s.silence now reason speed) ∨
    (∃ reason freeze speed steering, |(steering : ℚ × Bool).1| ≤ 1 ∧
      s.step lib now = s.brake now reason freeze speed steering) ∨
    ∃ speed lateralDemand, speed ≠ 0 ∧ ¬ NotDriving s now ∧
      s.step lib now = s.drive lib speed lateralDemand now := by
  have hCentred : |((0, false) : ℚ × Bool).1| ≤ 1 := by rw [abs_zero]; exact zero_le_one
  unfold step
  cases hCommand : s.command with
  | none => exact Or.inl ⟨_, _, rfl⟩
  | some command =>
    obtain ⟨speed, lateralDemand⟩ := command
    cases hTime : s.commandTime with
    | none => exact Or.inl ⟨_, _, rfl⟩
    | some time =>
      dsimp only
      by_cases hStale : s.config.cmdVelNavTimeout < now - time
      · rw [if_pos hStale]
        exact Or.inl ⟨_, _, rfl⟩
      rw [if_neg hStale]
      right
      cases hSpeed : speed.finite? with
      | none => exact Or.inl ⟨_, _, _, _, hCentred, rfl⟩
      | some finiteSpeed =>
        cases hDemand : lateralDemand.finite? with
        | none => exact Or.inl ⟨_, _, _, _, hCentred, rfl⟩
        | some finiteDemand =>
          dsimp only
          by_cases hZero : finiteSpeed = 0
          · rw [if_pos hZero]
            refine Or.inl ⟨_, _, _, _, ?_, rfl⟩
            split
            · exact abs_clampUnit_le _
            · exact hCentred
          · rw [if_neg hZero]
            refine Or.inr ⟨finiteSpeed, finiteDemand, hZero, ?_, rfl⟩
            rw [PyFloat.finite?_eq_some] at hSpeed hDemand
            subst hSpeed hDemand
            rintro (hNone | hOlder | ⟨speed', demand', hSome, hBad⟩)
            · rw [hCommand] at hNone
              cases hNone
            · rw [hTime] at hOlder
              exact hStale (of_decide_eq_true hOlder)
            · rw [hCommand] at hSome
              cases hSome
              rcases hBad with hBad | hBad | hBad
              · cases hBad
              · cases hBad
              · exact hZero (PyFloat.finite.inj hBad)

/-- A library whose functions a direct-steering run never calls. -/
def directLibrary : DriveLibrary where
  atan value := value
  tan value := value
  pi := 3141592653589793 / 1000000000000000

end DriveAdapter

end PreRunner.Drive
