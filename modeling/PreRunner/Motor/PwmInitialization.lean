import Mathlib.Tactic.Linarith
import PreRunner.Motor.MotorNode

/-!
# Bringing a PWM channel up

A channel may be left in any state that the kernel can hold, by a crash or by another program.
The kernel rejects a write that would leave an invalid state. `initialize_pwm` makes no such
write, and the channel never runs with a pulse that was not asked for.

`Accepts` lists the rules of the kernel for one write: afterwards the period is not zero and the
duty lies within it, and while the channel is enabled its polarity does not change. A channel that
runs is recovered hot and one that is off is started cold; an inverted channel that runs is
silenced and refused.
-/

namespace PreRunner.Motor

/-! ## The rules of the kernel -/

/-- The states that a channel can be in. -/
structure SysfsPwm.Valid (pwm : SysfsPwm) : Prop where
  duty_nonneg : 0 ≤ pwm.duty
  duty_le : pwm.duty ≤ pwm.period
  period_of_enabled : pwm.enabled = true → pwm.period ≠ 0

/-- A write changes the polarity of the channel. -/
def SysfsPwm.flips (pwm : SysfsPwm) : PwmWrite → Bool
  | .polarity value => decide (value ≠ pwm.polarity)
  | _ => false

/-- The kernel carries a write out. -/
def SysfsPwm.Accepts (pwm : SysfsPwm) (write : PwmWrite) : Prop :=
  (pwm.apply write).period ≠ 0 ∧ (pwm.apply write).duty ≤ (pwm.apply write).period ∧
    (pwm.enabled = true → pwm.flips write = false)

/-- The kernel carries all writes out. -/
def SysfsPwm.AcceptsAll (pwm : SysfsPwm) : List PwmWrite → Prop
  | [] => True
  | write :: writes => pwm.Accepts write ∧ (pwm.apply write).AcceptsAll writes

/-- The states of the channel after each write. -/
def SysfsPwm.moments (pwm : SysfsPwm) : List PwmWrite → List SysfsPwm
  | [] => []
  | write :: writes => pwm.apply write :: (pwm.apply write).moments writes

instance (pwm : SysfsPwm) (write : PwmWrite) : Decidable (pwm.Accepts write) := by
  unfold SysfsPwm.Accepts
  infer_instance

variable {pwm : SysfsPwm} {write : PwmWrite} {writes : List PwmWrite}

theorem acceptsAll_append {later : List PwmWrite} :
    pwm.AcceptsAll (writes ++ later) ↔
      pwm.AcceptsAll writes ∧ (writes.foldl SysfsPwm.apply pwm).AcceptsAll later := by
  induction writes generalizing pwm with
  | nil => exact ⟨fun h => ⟨trivial, h⟩, fun h => h.2⟩
  | cons write writes ih => rw [List.cons_append, SysfsPwm.AcceptsAll, ih, ← and_assoc]; rfl

theorem moments_append {later : List PwmWrite} :
    pwm.moments (writes ++ later) =
      pwm.moments writes ++ (writes.foldl SysfsPwm.apply pwm).moments later := by
  induction writes generalizing pwm with
  | nil => rfl
  | cons write writes ih => exact congrArg _ ih

/-! ## Hot recovery -/

/-- The channel was left enabled. -/
theorem recovers {periodNs dutyNs : ℤ} (hValid : pwm.Valid) (hEnabled : pwm.enabled = true)
    (hPeriod : 0 < periodNs) (hDuty : dutyNs ≤ periodNs) :
    pwm.AcceptsAll [.duty 0, .period periodNs, .duty dutyNs] ∧
      ∀ moment ∈ pwm.moments [.duty 0, .period periodNs, .duty dutyNs],
        moment.enabled = true ∧
          (moment.duty ≠ 0 → moment.duty = dutyNs ∧ moment.period = periodNs) := by
  constructor
  · exact ⟨⟨hValid.period_of_enabled hEnabled, hValid.duty_nonneg.trans hValid.duty_le, fun _ =>
      rfl⟩,
      ⟨hPeriod.ne', hPeriod.le, fun _ => rfl⟩, ⟨hPeriod.ne', hDuty, fun _ => rfl⟩, trivial⟩
  · intro moment hMoment
    rcases List.mem_cons.mp hMoment with rfl | hMoment
    · exact ⟨hEnabled, fun hPulse => absurd rfl hPulse⟩
    rcases List.mem_cons.mp hMoment with rfl | hMoment
    · exact ⟨hEnabled, fun hPulse => absurd rfl hPulse⟩
    obtain rfl := List.mem_singleton.mp hMoment
    exact ⟨hEnabled, fun _ => ⟨rfl, rfl⟩⟩

/-! ## Cold start -/

/-- The writes to a disabled channel that give it the target period. -/
def periodWrites (pwm : SysfsPwm) (periodNs : ℤ) : List PwmWrite :=
  (if pwm.period = 0 then [PwmWrite.period periodNs] else []) ++
    (if pwm.polarity ≠ .normal then [PwmWrite.polarity .normal] else []) ++
    (if pwm.period ≠ 0 then
      (if periodNs < pwm.duty then [PwmWrite.duty 0] else []) ++ [.period periodNs]
    else [])

theorem initializePwm_disabled {periodNs dutyNs : ℤ} (hDisabled : pwm.enabled = false)
    (hDuty : 0 ≤ dutyNs) (hLe : dutyNs ≤ periodNs) (deferEnable : Bool) :
    initializePwm pwm periodNs dutyNs deferEnable =
      (periodWrites pwm periodNs ++ [.duty dutyNs] ++
        (if deferEnable then [] else [.enable true]), .ok true) := by
  unfold initializePwm
  rw [if_neg (not_not.mpr ⟨hDuty, hLe⟩), hDisabled]
  rfl

theorem disabled_of_writes (hDisabled : pwm.enabled = false)
    (hWrites : ∀ value, PwmWrite.enable value ∉ writes) :
    (writes.foldl SysfsPwm.apply pwm).enabled = false ∧
      ∀ moment ∈ pwm.moments writes, moment.enabled = false := by
  induction writes generalizing pwm with
  | nil => exact ⟨hDisabled, nofun⟩
  | cons write writes ih =>
    have hNext : (pwm.apply write).enabled = false := by
      cases write with
      | duty ns => exact hDisabled
      | period ns => exact hDisabled
      | polarity value => exact hDisabled
      | enable value => exact absurd (List.mem_cons_self ..) (hWrites value)
    obtain ⟨hLast, hRest⟩ := ih hNext fun value hMem =>
      hWrites value (List.mem_cons_of_mem _ hMem)
    refine ⟨hLast, fun moment hMoment => ?_⟩
    rcases List.mem_cons.mp hMoment with rfl | hMoment
    · exact hNext
    · exact hRest moment hMoment

/-- Whatever a disabled channel was left with, it is given the period and the polarity. -/
theorem periodWrites_spec {periodNs : ℤ} (hValid : pwm.Valid) (hDisabled : pwm.enabled = false)
    (hPeriod : 0 < periodNs) :
    pwm.AcceptsAll (periodWrites pwm periodNs) ∧
      ((periodWrites pwm periodNs).foldl SysfsPwm.apply pwm).period = periodNs ∧
      ((periodWrites pwm periodNs).foldl SysfsPwm.apply pwm).polarity = .normal ∧
      ∀ value, PwmWrite.enable value ∉ periodWrites pwm periodNs := by
  obtain ⟨hNonneg, hLe, -⟩ := hValid
  obtain ⟨enabled, period, duty, polarity⟩ := pwm
  obtain rfl : enabled = false := hDisabled
  by_cases hFresh : period = 0
  · have hZero : duty = 0 := le_antisymm (hFresh ▸ hLe) hNonneg
    subst hFresh hZero
    have hWrites : periodWrites ⟨false, 0, 0, polarity⟩ periodNs =
        [.period periodNs] ++ (if polarity ≠ .normal then [PwmWrite.polarity .normal] else []) := by
      unfold periodWrites
      rw [if_pos rfl, if_neg (not_not.mpr rfl), List.append_nil]
    rw [hWrites]
    cases polarity with
    | normal => exact ⟨⟨⟨hPeriod.ne', hPeriod.le, nofun⟩, trivial⟩, rfl, rfl, by simp⟩
    | inversed =>
      exact ⟨⟨⟨hPeriod.ne', hPeriod.le, nofun⟩, ⟨hPeriod.ne', hPeriod.le, nofun⟩, trivial⟩, rfl,
        rfl, by simp⟩
  · have hWrites : periodWrites ⟨false, period, duty, polarity⟩ periodNs =
        (if polarity ≠ .normal then [PwmWrite.polarity .normal] else []) ++
          ((if periodNs < duty then [PwmWrite.duty 0] else []) ++ [.period periodNs]) := by
      unfold periodWrites
      rw [if_neg hFresh, if_pos hFresh]
      rfl
    have hShrink : ∀ polarity,
        (SysfsPwm.mk false period duty polarity).AcceptsAll
          ((if periodNs < duty then [PwmWrite.duty 0] else []) ++ [.period periodNs]) ∧
        (((if periodNs < duty then [PwmWrite.duty 0] else []) ++ [PwmWrite.period periodNs]).foldl
          SysfsPwm.apply ⟨false, period, duty, polarity⟩).period = periodNs ∧
        (((if periodNs < duty then [PwmWrite.duty 0] else []) ++ [PwmWrite.period periodNs]).foldl
          SysfsPwm.apply ⟨false, period, duty, polarity⟩).polarity = polarity := by
      intro polarity
      by_cases hLong : periodNs < duty
      · rw [if_pos hLong]
        exact ⟨⟨⟨hFresh, hNonneg.trans hLe, nofun⟩, ⟨hPeriod.ne', hPeriod.le, nofun⟩, trivial⟩,
          rfl, rfl⟩
      · rw [if_neg hLong]
        exact ⟨⟨⟨hPeriod.ne', not_lt.mp hLong, nofun⟩, trivial⟩, rfl, rfl⟩
    have hNoEnable : ∀ value, PwmWrite.enable value ∉
        (if periodNs < duty then [PwmWrite.duty 0] else []) ++ [PwmWrite.period periodNs] := by
      intro value
      split <;> simp
    rw [hWrites]
    cases polarity with
    | normal =>
      obtain ⟨hAccepts, hFinal, hPolarity⟩ := hShrink .normal
      exact ⟨hAccepts, hFinal, hPolarity, hNoEnable⟩
    | inversed =>
      obtain ⟨hAccepts, hFinal, hPolarity⟩ := hShrink .normal
      exact ⟨⟨⟨hFresh, hLe, nofun⟩, hAccepts⟩, hFinal, hPolarity, fun value hMem =>
        (List.mem_cons.mp hMem).elim nofun (hNoEnable value)⟩

/-- The channel was left disabled. -/
theorem starts {periodNs dutyNs : ℤ} (hValid : pwm.Valid) (hDisabled : pwm.enabled = false)
    (hPeriod : 0 < periodNs) (hDuty : dutyNs ≤ periodNs) (deferEnable : Bool) :
    let writes := periodWrites pwm periodNs ++ [.duty dutyNs] ++
      (if deferEnable then [] else [.enable true])
    pwm.AcceptsAll writes ∧
      (∀ moment ∈ pwm.moments writes, moment.enabled = true →
        moment = { enabled := true, period := periodNs, duty := dutyNs, polarity := .normal }) ∧
      writes.foldl SysfsPwm.apply pwm =
        { enabled := !deferEnable, period := periodNs, duty := dutyNs, polarity := .normal } := by
  intro writes
  obtain ⟨hAccepts, hFinal, hPolarity, hWrites⟩ := periodWrites_spec hValid hDisabled hPeriod
  obtain ⟨hLast, hMoments⟩ := disabled_of_writes hDisabled hWrites
  have hSplit : writes = periodWrites pwm periodNs ++
      ([.duty dutyNs] ++ (if deferEnable then [] else [.enable true])) :=
    List.append_assoc _ _ _
  rw [hSplit, acceptsAll_append, moments_append, List.foldl_append]
  generalize (periodWrites pwm periodNs).foldl SysfsPwm.apply pwm = ready at *
  obtain ⟨enabled, period, duty, polarity⟩ := ready
  obtain rfl : enabled = false := hLast
  obtain rfl : period = periodNs := hFinal
  obtain rfl : polarity = .normal := hPolarity
  refine ⟨⟨hAccepts, ?_⟩, ?_, ?_⟩
  · cases deferEnable with
    | true => exact ⟨⟨hPeriod.ne', hDuty, nofun⟩, trivial⟩
    | false => exact ⟨⟨hPeriod.ne', hDuty, nofun⟩, ⟨hPeriod.ne', hDuty, nofun⟩, trivial⟩
  · intro moment hMoment hEnabled
    rcases List.mem_append.mp hMoment with hBefore | hAfter
    · rw [hMoments moment hBefore] at hEnabled
      cases hEnabled
    rcases List.mem_cons.mp hAfter with rfl | hAfter
    · cases hEnabled
    cases deferEnable with
    | true => cases hAfter
    | false =>
      obtain rfl := List.mem_singleton.mp hAfter
      rfl
  · cases deferEnable <;> rfl

/-! ## Every channel -/

/-- Every state that the kernel can hold and every target with a period. There are two cases: a
channel that is off is programmed before it is enabled (`starts`), and one that is on has its duty
set to zero before anything else changes (`recovers`). -/
theorem initialize_pwm_accepted (hValid : pwm.Valid) {periodNs dutyNs : ℤ} (hPeriod : 0 < periodNs)
    (hNonneg : 0 ≤ dutyNs) (hDuty : dutyNs ≤ periodNs) (deferEnable : Bool) :
    let (writes, result) := initializePwm pwm periodNs dutyNs deferEnable
    pwm.AcceptsAll writes ∧
    (pwm.enabled = true → pwm.polarity ≠ .normal →
      result = .error .unexpectedPolarity ∧
        writes.foldl SysfsPwm.apply pwm = { pwm with duty := 0 }) ∧
    (pwm.enabled = true → pwm.polarity = .normal →
      writes.head? = some (.duty 0) ∧
        ∀ moment ∈ pwm.moments writes, moment.enabled = true ∧
          (moment.duty ≠ 0 → moment.duty = dutyNs ∧ moment.period = periodNs)) ∧
    (pwm.enabled = false → ∀ moment ∈ pwm.moments writes, moment.enabled = true →
      moment = { enabled := true, period := periodNs, duty := dutyNs, polarity := .normal }) ∧
    (pwm.enabled = false ∨ pwm.polarity = .normal →
      result = .ok (!pwm.enabled) ∧
        writes.foldl SysfsPwm.apply pwm =
          { enabled := pwm.enabled || !deferEnable, period := periodNs, duty := dutyNs,
            polarity := .normal }) := by
  cases hEnabled : pwm.enabled with
  | false =>
    rw [initializePwm_disabled hEnabled hNonneg hDuty]
    obtain ⟨hAccepts, hMoments, hFinal⟩ := starts hValid hEnabled hPeriod hDuty deferEnable
    exact ⟨hAccepts, nofun, nofun, fun _ => hMoments, fun _ => ⟨rfl, hFinal⟩⟩
  | true =>
    have hRun : initializePwm pwm periodNs dutyNs deferEnable =
        if pwm.polarity ≠ .normal then ([.duty 0], .error .unexpectedPolarity)
        else ([.duty 0, .period periodNs, .duty dutyNs], .ok false) := by
      unfold initializePwm
      rw [if_neg (not_not.mpr ⟨hNonneg, hDuty⟩), hEnabled]
      rfl
    rw [hRun]
    by_cases hPolarity : pwm.polarity = .normal
    · rw [if_neg (not_not.mpr hPolarity)]
      obtain ⟨hAccepts, hMoments⟩ := recovers hValid hEnabled hPeriod hDuty
      refine ⟨hAccepts, fun _ hInversed => absurd hPolarity hInversed, fun _ _ => ⟨rfl, hMoments⟩,
        nofun, fun _ => ⟨rfl, ?_⟩⟩
      obtain ⟨enabled, period, duty, polarity⟩ := pwm
      obtain rfl : enabled = true := hEnabled
      obtain rfl : polarity = .normal := hPolarity
      rfl
    · rw [if_pos hPolarity]
      exact ⟨⟨⟨hValid.period_of_enabled hEnabled, hValid.duty_nonneg.trans hValid.duty_le,
        fun _ => rfl⟩, trivial⟩, fun _ _ => ⟨rfl, by rw [← hEnabled]; rfl⟩, fun _ hNormal =>
          absurd hNormal hPolarity,
        nofun, fun h => h.elim nofun fun hNormal => absurd hNormal hPolarity⟩

/-- A program left the servo channel disabled with a long inverted pulse. -/
theorem initialize_pwm_accepted_servo :
    let pwm : SysfsPwm := { period := 50000000, duty := 40000000, polarity := .inversed }
    pwm.AcceptsAll (initializePwm pwm 20000000 1500000 false).1 := by
  intro pwm
  exact (@initialize_pwm_accepted pwm ⟨by decide, by decide, nofun⟩ 20000000 1500000 (by decide)
    (by decide) (by decide) false).1

/-- A target period of zero is written and rejected, and so is the first write to a channel that
is enabled without a period. -/
theorem initialize_pwm_without_period :
    (¬ ∀ (pwm : SysfsPwm), pwm.Valid → ∀ periodNs dutyNs, 0 ≤ dutyNs → dutyNs ≤ periodNs →
      ∀ deferEnable, pwm.AcceptsAll (initializePwm pwm periodNs dutyNs deferEnable).1) ∧
    ¬ ∀ (pwm : SysfsPwm), 0 ≤ pwm.duty → pwm.duty ≤ pwm.period →
      ∀ periodNs dutyNs, 0 < periodNs → 0 ≤ dutyNs → dutyNs ≤ periodNs →
      ∀ deferEnable, pwm.AcceptsAll (initializePwm pwm periodNs dutyNs deferEnable).1 := by
  constructor
  · intro hAll
    have hFresh := hAll {} ⟨le_rfl, le_rfl, nofun⟩ 0 0 le_rfl le_rfl false
    exact absurd hFresh.1 (by decide)
  · intro hAll
    have hEnabled := hAll { enabled := true } le_rfl le_rfl 20000000 1500000 (by decide) (by decide)
      (by decide) false
    exact absurd hEnabled.1 (by decide)

end PreRunner.Motor
