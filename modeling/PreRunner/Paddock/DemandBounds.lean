import PreRunner.Paddock.ManualSession

/-!
# The bounds of a retained manual demand

A manual demand is bounded by the ceiling when it is taken. It stays in force as long as nothing
ends its session behind the back of the common clean-up and nothing lowers the ceiling below it.
`Outlives` lists the calls that do, and the main result says that these are the only ones after
which a demand outside its session or its bounds is retained or forwarded.
-/

namespace PreRunner.Paddock

open PaddockState Runs

namespace CommandSupervisor

/-! ## The bounded speed -/

/-- The speed of a demand is zero, or lies between the moving floor and the ceiling. -/
def Bounded (s : CommandSupervisor) (demand : ManualDemand) : Prop :=
  demand.signedSpeedMps = 0 ∨ (s.config.minimumMovingSpeedMps ≤ |demand.signedSpeedMps| ∧
    |demand.signedSpeedMps| ≤ s.manualMaxSpeedMps)

/-- The ceiling passed its own check. -/
def CeilingValid (s : CommandSupervisor) : Prop :=
  manualSpeedCeilingValid (.finite s.manualMaxSpeedMps) s.config.minimumMovingSpeedMps = true

theorem abs_clamp_le {bound requested : ℚ} (h : 0 ≤ bound) :
    |max (-bound) (min bound requested)| ≤ bound :=
  abs_le.mpr ⟨le_max_left _ _, max_le (neg_le_self h) (min_le_left _ _)⟩

/-- The clamped request of a manual speed. -/
def clampedSpeed (s : CommandSupervisor) (requested : ℚ) : ℚ :=
  max (-s.manualMaxSpeedMps) (min s.manualMaxSpeedMps requested)

theorem boundManualSpeed_eq (s : CommandSupervisor) (requested : ℚ) :
    s.boundManualSpeed requested =
      if 0 < |s.clampedSpeed requested| ∧
          |s.clampedSpeed requested| < s.config.minimumMovingSpeedMps then
        if s.clampedSpeed requested < 0 then -|s.config.minimumMovingSpeedMps|
        else |s.config.minimumMovingSpeedMps|
      else s.clampedSpeed requested := rfl

theorem boundManualSpeed_of_zero {s : CommandSupervisor} {requested : ℚ}
    (h : s.clampedSpeed requested = 0) : s.boundManualSpeed requested = 0 := by
  rw [boundManualSpeed_eq, if_neg (by rw [h]; simp)]
  exact h

/-- A moving request is promoted to the moving floor. -/
theorem abs_boundManualSpeed {s : CommandSupervisor} {requested : ℚ}
    (h : s.clampedSpeed requested ≠ 0) : |s.boundManualSpeed requested| =
      max |s.clampedSpeed requested| s.config.minimumMovingSpeedMps := by
  rw [boundManualSpeed_eq]
  have hMoving : 0 < |s.clampedSpeed requested| := abs_pos.mpr h
  split
  · rename_i hBelow
    have hFloor : |s.config.minimumMovingSpeedMps| = s.config.minimumMovingSpeedMps :=
      abs_of_pos (hMoving.trans hBelow.2)
    rw [max_eq_right hBelow.2.le]
    split
    · rw [abs_neg, abs_abs, hFloor]
    · rw [abs_abs, hFloor]
  · rename_i hBelow
    exact (max_eq_left (not_lt.mp fun hLt => hBelow ⟨hMoving, hLt⟩)).symm

/-- A new demand is bounded exactly if the ceiling is not negative. -/
theorem bounded_demandOf_iff {s : CommandSupervisor} (hValid : s.CeilingValid)
    (m : ControlMessage) (speed steering : ℚ) :
    s.Bounded (s.demandOf m speed steering) ↔ 0 ≤ s.manualMaxSpeedMps := by
  have hCeiling : s.manualMaxSpeedMps = 0 ∨
      s.config.minimumMovingSpeedMps ≤ s.manualMaxSpeedMps := by
    simp only [CeilingValid, manualSpeedCeilingValid, Bool.or_eq_true, Bool.and_eq_true,
      decide_eq_true_eq] at hValid
    exact hValid.imp_right And.left
  change (s.boundManualSpeed speed = 0 ∨ (s.config.minimumMovingSpeedMps ≤
    |s.boundManualSpeed speed| ∧ |s.boundManualSpeed speed| ≤ s.manualMaxSpeedMps)) ↔ _
  constructor
  · intro h
    by_contra hNegative
    rw [not_le] at hNegative
    have hClamped : s.clampedSpeed speed = -s.manualMaxSpeedMps :=
      max_eq_left ((min_le_left _ _).trans (by linarith))
    have hMoves : s.clampedSpeed speed ≠ 0 := by
      rw [hClamped]
      exact neg_ne_zero.mpr hNegative.ne
    have hAbs := abs_boundManualSpeed hMoves
    have hPos : 0 < |s.boundManualSpeed speed| := by
      rw [hAbs]
      exact lt_max_of_lt_left (abs_pos.mpr hMoves)
    rcases h with hZero | ⟨-, hLe⟩
    · rw [hZero, abs_zero] at hPos
      exact lt_irrefl _ hPos
    · exact absurd (hPos.trans_le hLe) (not_lt.mpr hNegative.le)
  · intro hNonneg
    by_cases hClamped : s.clampedSpeed speed = 0
    · exact Or.inl (boundManualSpeed_of_zero hClamped)
    · have hLe : |s.clampedSpeed speed| ≤ s.manualMaxSpeedMps := abs_clamp_le hNonneg
      have hFloor : s.config.minimumMovingSpeedMps ≤ s.manualMaxSpeedMps := by
        refine hCeiling.resolve_left fun hZero => ?_
        rw [hZero] at hLe
        exact hClamped (abs_nonpos_iff.mp hLe)
      rw [abs_boundManualSpeed hClamped]
      exact Or.inr ⟨le_max_right _ _, max_le hLe hFloor⟩

theorem CeilingValid.step {s : CommandSupervisor} (h : s.CeilingValid) (c : TimedCall) :
    (s.step c).CeilingValid := by
  have hKept : (s.step c).manualMaxSpeedMps = s.manualMaxSpeedMps → (s.step c).CeilingValid := by
    intro hSame
    unfold CeilingValid
    rw [hSame, step_config]
    exact h
  cases s.sample_case c with
  | kept hSame => exact hKept hSame.ceiling
  | autonomy command hCall hAutonomy hManual hCeiling => exact hKept hCeiling
  | manual command demand hCall hAccepted hDemand hAutonomy hManual hCeiling => exact hKept hCeiling
  | ceiling value hCall hValid hNext =>
    rw [hNext]
    exact hValid
  | restarted hCall hAutonomy hManual hCeiling => exact hKept hCeiling

/-! ## Demands in force -/

/-- A retained demand is one of an active manual session, and it is bounded. -/
def InForce (s : CommandSupervisor) : Prop :=
  ∀ demand, s.manualDemand = some demand → s.state.manualActive = true ∧ s.Bounded demand

/-- The calls that leave a demand behind: its session is abandoned, the ceiling falls below its
speed, or the demand is taken under a negative ceiling. -/
inductive Outlives (s : CommandSupervisor) (c : TimedCall) : Prop
  | abandoned (h : s.Abandons c) (hDemand : (s.found c).manualDemand ≠ none)
  | lowered (value : ℚ) (demand : ManualDemand)
      (hCall : c.call = .setManualMaxSpeedMps (.finite value))
      (hValid : manualSpeedCeilingValid (.finite value) s.config.minimumMovingSpeedMps = true)
      (hDemand : s.manualDemand = some demand) (hMoving : demand.signedSpeedMps ≠ 0)
      (hBelow : value < |demand.signedSpeedMps|)
  | negative (m : ControlMessage) (speed steering : ℚ) (h : s.Activates c m speed steering)
      (hNegative : s.manualMaxSpeedMps < 0)

variable {s : CommandSupervisor} {c : TimedCall}

theorem Bounded.of_same {next : CommandSupervisor} {demand : ManualDemand}
    (h : s.Bounded demand) (hConfig : next.config = s.config)
    (hCeiling : next.manualMaxSpeedMps = s.manualMaxSpeedMps) : next.Bounded demand := by
  unfold Bounded
  rw [hConfig, hCeiling]
  exact h

/-- The ceiling is the same unless a call sets it. -/
theorem step_ceiling (hCall : ∀ value, c.call ≠ .setManualMaxSpeedMps value) :
    (s.step c).manualMaxSpeedMps = s.manualMaxSpeedMps := by
  cases s.sample_case c with
  | kept hSame => exact hSame.ceiling
  | autonomy command _ hAutonomy hManual hCeiling => exact hCeiling
  | manual command demand _ hAccepted hDemand hAutonomy hManual hCeiling => exact hCeiling
  | ceiling value hSets => exact absurd hSets (hCall _)
  | restarted _ hAutonomy hManual hCeiling => exact hCeiling

theorem Activates.keeps_ceiling {m : ControlMessage} {speed steering : ℚ}
    (h : s.Activates c m speed steering) :
    (s.step c).manualMaxSpeedMps = s.manualMaxSpeedMps :=
  step_ceiling fun value hSets => by
    rw [h.call] at hSets
    cases hSets

theorem InForce.step (h : s.InForce) (hCoherent : Coherent s.state) (hValid : s.CeilingValid)
    (hKept : ¬ s.Outlives c) : (s.step c).InForce := by
  intro demand hDemand
  cases session_case hCoherent c with
  | closed hClosed =>
    rw [hClosed.demand] at hDemand
    cases hDemand
  | kept hSame =>
    rw [hSame.demand] at hDemand
    have hFound : s.found c = s := by
      rcases s.found_cases c with hIs | ⟨-, hDropped⟩
      · exact hIs
      · rw [hDropped] at hDemand
        cases hDemand
    rw [hFound] at hDemand hSame
    obtain ⟨hActive, hBounded⟩ := h demand hDemand
    refine ⟨hSame.active.trans hActive, ?_⟩
    cases s.sample_case c with
    | ceiling value hCall hValue hNext =>
      rw [hNext]
      rcases hBounded with hZero | ⟨hFloor, -⟩
      · exact Or.inl hZero
      · by_cases hMoving : demand.signedSpeedMps = 0
        · exact Or.inl hMoving
        · refine Or.inr ⟨hFloor, not_lt.mp fun hBelow => ?_⟩
          exact hKept (.lowered value demand hCall hValue hDemand hMoving hBelow)
    | kept hSamples => exact hBounded.of_same (s.step_config c) hSamples.ceiling
    | autonomy command hCall hAutonomy hManual hCeiling =>
      exact hBounded.of_same (s.step_config c) hCeiling
    | manual command demand' hCall hAccepted hHeld hAutonomy hManual hCeiling =>
      exact hBounded.of_same (s.step_config c) hCeiling
    | restarted hCall hAutonomy hManual hCeiling =>
      exact hBounded.of_same (s.step_config c) hCeiling
  | abandoned hAbandons hActive hHeld =>
    refine absurd (Outlives.abandoned hAbandons ?_) hKept
    rw [← hHeld, hDemand]
    nofun
  | taken m speed steering hTakes hActive hTaken hInput =>
    cases hTaken.symm.trans hDemand
    refine ⟨hActive, Bounded.of_same ?_ (s.step_config c) hTakes.keeps_ceiling⟩
    rw [bounded_demandOf_iff hValid]
    exact not_lt.mp fun hNegative => hKept (.negative m speed steering hTakes hNegative)

theorem step_setManualMaxSpeedMps {value : ℚ}
    (hCall : c.call = .setManualMaxSpeedMps (.finite value))
    (hValid : manualSpeedCeilingValid (.finite value) s.config.minimumMovingSpeedMps = true) :
    s.step c = { s with manualMaxSpeedMps := value } := by
  obtain ⟨call, now⟩ := c
  dsimp only at hCall
  subst hCall
  change (s.setManualMaxSpeedMps (.finite value)).getD s = _
  unfold setManualMaxSpeedMps
  rw [if_pos hValid]
  rfl

/-- A call that leaves a demand behind leaves one that is not in force. -/
theorem Outlives.not_inForce (h : s.Outlives c) (hValid : s.CeilingValid) :
    ¬ (s.step c).InForce := by
  intro hForce
  cases h with
  | abandoned hAbandons hHeld =>
    obtain ⟨hActive, hDemand⟩ := hAbandons.next
    obtain ⟨demand, hSome⟩ := Option.ne_none_iff_exists'.mp hHeld
    have hOn := (hForce demand (hDemand.trans hSome)).1
    rw [hActive] at hOn
    cases hOn
  | lowered value demand hCall hValue hDemand hMoving hBelow =>
    rw [step_setManualMaxSpeedMps hCall hValue] at hForce
    rcases (hForce demand hDemand).2 with hZero | ⟨-, hLe⟩
    · exact hMoving hZero
    · exact absurd hBelow (not_lt.mpr hLe)
  | negative m speed steering hTakes hNegative =>
    obtain ⟨hDemand, -⟩ := hTakes.next
    have hBounded := (hForce _ hDemand).2.of_same (s.step_config c).symm hTakes.keeps_ceiling.symm
    exact absurd ((bounded_demandOf_iff hValid m speed steering).mp hBounded)
      (not_le.mpr hNegative)

/-! ## Runs -/

/-- After a call the retained demand is in force, and a forwarded manual command was converted
from a demand of the manual session that still lasts, within the bounds of now. -/
structure DemandKept (init : CommandSupervisor) (past : List TimedCall) (c : TimedCall) : Prop where
  inForce : (after CommandSupervisor.step init (c :: past)).InForce
  forwards : ∀ r command, (after CommandSupervisor.step init past).result c = some r →
    r.manualCommand = some command → ∃ demand,
      c.call = .receiveRawManual command demand.sequence ∧
      DemandOfSession init demand (c :: past) ∧
      (after CommandSupervisor.step init (c :: past)).Bounded demand

theorem demandKept_of_inForce {init : CommandSupervisor} {past : List TimedCall}
    (hDriven : Driven init (c :: past) (after CommandSupervisor.step init (c :: past)))
    (h : (after CommandSupervisor.step init (c :: past)).InForce) : DemandKept init past c := by
  refine ⟨h, fun r command hResult hCommand => ?_⟩
  obtain ⟨sequence, demand, hCall, hDemand, rfl, -⟩ := manualCommand_case c hResult hCommand
  obtain ⟨hActive, hBounded⟩ := h demand hDemand
  exact ⟨demand, hCall, demandOfSession hDriven hActive hDemand, hBounded⟩

/-- Through a run every retained demand is in force and only demands in force are forwarded,
exactly if no call of the run leaves a demand behind. `InForce` is the invariant: a call keeps it
unless the demand outlives it (`InForce.step`), and then the retained demand is in force no more
(`Outlives.not_inForce`). -/
theorem demand_kept_iff {lease raw : PyFloat} {liveness : Option PyFloat}
    {manual speed : PyFloat} {floor : ℚ} {map : String} {init : CommandSupervisor}
    (hInit : CommandSupervisor.init lease raw liveness manual speed floor map = .ok init)
    (run : List TimedCall) :
    Always (DemandKept init) run ↔
      Always (along CommandSupervisor.step init fun s c => ¬ s.Outlives c) run := by
  obtain ⟨config, ceiling, rfl, hCeiling⟩ := init_eq hInit
  generalize hStart : ({
    config, manualMaxSpeedMps := ceiling, state := { activeAutonomyMap := map } } :
      CommandSupervisor) = start
  have hValid : ∀ past, (after CommandSupervisor.step start past).CeilingValid :=
    after_invariant (hStart ▸ hCeiling) fun _ c h => h.step c
  have hDriven := @driven_after start (hStart ▸ Coherent.of_disarmed rfl rfl rfl rfl rfl)
    (hStart ▸ rfl)
  have hBoth : (Always (DemandKept start) run ↔
      Always (along CommandSupervisor.step start fun s c => ¬ s.Outlives c) run) ∧
        (Always (DemandKept start) run → (after CommandSupervisor.step start run).InForce) := by
    induction run with
    | nil =>
      refine ⟨Iff.rfl, fun _ demand hDemand => ?_⟩
      rw [after_nil, ← hStart] at hDemand
      cases hDemand
    | cons c past ih =>
      obtain ⟨ihIff, ihForce⟩ := ih
      refine ⟨⟨fun h => ?_, fun h => ?_⟩, fun h => h.1.inForce⟩
      · exact ⟨fun hOutlives => hOutlives.not_inForce (hValid past) h.1.inForce, ihIff.mp h.2⟩
      · have hForce := (ihForce (ihIff.mpr h.2)).step (hDriven past).1 (hValid past) h.1
        exact ⟨demandKept_of_inForce (hDriven (c :: past)).2 hForce, ihIff.mpr h.2⟩
  exact hBoth.1

/-- In MAPPING a manual demand of `0.4` is taken, the ceiling falls to `0.3`, and the converted
command of the demand arrives; latest call first. -/
def loweredRun : List TimedCall :=
  let sent (event : ControlEvent) (sequence : Int) (speed : PyFloat) (now : ℚ) : TimedCall :=
    ⟨.handleControlEvent
      { event, clientId := "c", leaseId := "l", sequence, manualSpeedMps := speed }, now⟩
  [⟨.receiveRawManual { linearX := .finite (8 / 100) } 2, 4 / 100⟩,
    ⟨.setManualMaxSpeedMps (.finite (3 / 10)), 3 / 100⟩,
    sent .manualActive 2 (.finite (4 / 10)) (2 / 100),
    ⟨.setRuntimeMode .mapping "m" true, 1 / 100⟩, sent .leaseAcquired 1 (.finite 0) 0]

theorem demand_kept_iff_loweredRun :
    Always (DemandKept (defaultSupervisor "m")) loweredRun ↔
      Always (along CommandSupervisor.step (defaultSupervisor "m") fun s c => ¬ s.Outlives c)
        loweredRun :=
  demand_kept_iff (init_default "m") loweredRun

/-- The command of the demand above the ceiling is forwarded. -/
theorem lowered_demand_forwarded :
    ((after CommandSupervisor.step (defaultSupervisor "m") loweredRun.tail).result
        (loweredRun.headD ⟨.tick, 0⟩)).any (fun r => r.manualCommand.isSome) = true ∧
      ¬ Always (DemandKept (defaultSupervisor "m")) loweredRun := by
  refine ⟨by decide +kernel, fun h => ?_⟩
  have hBounded := (h.1.inForce ⟨2, 4 / 10, 0⟩ (by decide +kernel)).2
  exact absurd hBounded (by unfold Bounded; decide +kernel)

end CommandSupervisor

end PreRunner.Paddock
