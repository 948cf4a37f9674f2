import PreRunner.Paddock.ManualSession
import PreRunner.Paddock.NavigationFlag

/-!
# What lifts the brake

The brake is lifted for an autonomy permission with a fresh sample, or for a fresh manual input
with a fresh converted sample. The manual sample is only a time, which nothing resets between two
sessions, and the autonomy permission does not look at manual driving. The main result says that,
in runs in which RUN and a goal do not come together under manual driving, every lifted brake
rests on the selected source exactly if no manual session begins while a sample is still fresh.
-/

namespace PreRunner.Paddock

open PaddockState Runs

/-! ## The two permissions -/

/-- An event of the owner that completes the autonomy permission under manual driving: RUN with a
goal, or a goal with RUN. -/
def ArmsOver (state : PaddockState) (m : ControlMessage) : Prop :=
  state.manualActive = true ∧ state.mode = .autonomy ∧
    ((m.event = .runPressed ∧ state.runHeld = false ∧ state.goal.isSome = true) ∨
      (m.event = .goalSelected ∧ state.runHeld = true ∧ state.runBlockedUntilRelease = false ∧
        [m.goalX, m.goalY, m.goalYaw].all PyFloat.isfinite = true ∧ state.activeAutonomyMap ≠ ""))

namespace Separate

variable {state : PaddockState}

theorem ownerTransition (h : Separate state) (hLease : state.leaseId ≠ "") (event : Event)
    (args : TransitionArgs)
    (hArms : ¬ ArmsWhileManual state (event, { args with leaseId := state.leaseId })) :
    Separate (ownerTransition state event args).state := by
  have hOwns : ownsLease state state.leaseId = true := by
    rw [ownsLease, leaseActive_iff.mpr hLease]
    simp
  have hSame : Paddock.ownerTransition state event args =
      Paddock.ownerTransition state event { args with leaseId := state.leaseId } := by
    cases event <;> rfl
  rw [hSame]
  exact (ownerTransition_case hOwns).separate h hArms

theorem manualEnded (h : Separate state) : Separate { state with manualActive := false } :=
  ⟨h.1.manualEnded, fun _ => rfl⟩

theorem withoutLease (state : PaddockState) : Separate state.withoutLease :=
  ⟨.withoutLease state, fun _ => rfl⟩

theorem ownedState (h : Separate state) (hLease : state.leaseId ≠ "") {m : ControlMessage}
    (hArms : ¬ ArmsOver state m) : Separate (ownedState state m) := by
  have hOther : ∀ event args, event ≠ .runPress → event ≠ .selectGoal →
      Separate (Paddock.ownerTransition state event args).state := by
    rintro event args hPress hSelect
    refine h.ownerTransition hLease event args ?_
    rintro ⟨-, -, -, ⟨hEvent, -⟩ | ⟨hEvent, -⟩⟩
    · exact hPress hEvent
    · exact hSelect hEvent
  unfold Paddock.ownedState
  cases hEvent : m.event with
  | heartbeat | leaseAcquired => exact h
  | leaseReleased | leaseLost => exact withoutLease state
  | goalSelected =>
    dsimp only
    split
    · rename_i hFinite
      refine h.ownerTransition hLease _ _ ?_
      rintro ⟨hManual, -, hMode, ⟨hOff, -⟩ | ⟨-, hHeld, hFree, goal, hGoal, hMap, hName⟩⟩
      · cases hOff
      · exact hArms ⟨hManual, hMode, Or.inr ⟨hEvent, hHeld, hFree, hFinite, hMap ▸ hName⟩⟩
    · exact h
  | manualActive =>
    dsimp only
    split
    · exact hOther _ _ nofun nofun
    · exact (hOther .manualActive {} nofun nofun).manualEnded
  | runPressed =>
    refine h.ownerTransition hLease _ _ ?_
    rintro ⟨hManual, -, hMode, ⟨-, hHeld, hGoal⟩ | ⟨hOff, -⟩⟩
    · exact hArms ⟨hManual, hMode, Or.inl ⟨hEvent, hHeld, hGoal⟩⟩
    · cases hOff
  | clearStop | stop | runReleased | manualInactive => exact hOther _ _ nofun nofun

theorem transition (h : Separate state) {event : Event} {args : TransitionArgs}
    (hPress : event ≠ .runPress) (hSelect : event ≠ .selectGoal) :
    Separate (transition state event args).state := by
  refine (transition_case state event args).separate h ?_
  rintro ⟨-, -, -, ⟨hEvent, -⟩ | ⟨hEvent, -⟩⟩
  · exact hPress hEvent
  · exact hSelect hEvent

end Separate

namespace CommandSupervisor

/-- A call delivers an arming event of the owner. -/
def ArmsManual (s : CommandSupervisor) (c : TimedCall) : Prop :=
  ∃ m, c.call = .handleControlEvent m ∧ (s.found c).Owns m ∧ ArmsOver (s.found c).state m

theorem separate_step {s : CommandSupervisor} {c : TimedCall} (h : Separate s.state)
    (hArms : ¬ s.ArmsManual c) : Separate (s.step c).state := by
  obtain ⟨base, hBase, hMove⟩ := s.step_move c
  have hSeparate : Separate base := by
    rcases hBase with rfl | ⟨-, rfl⟩
    · exact h
    · exact .withoutLease _
  generalize (s.step c).state = next at hMove
  cases hMove with
  | stays => exact hSeparate
  | manualEnds => exact hSeparate.manualEnded
  | granted m hCall hFree hClient hLease =>
    refine ⟨hSeparate.1.granted hFree hLease, fun hNav => ?_⟩
    exact hSeparate.2 hNav
  | owned m hCall hActive hEvent hClient hLease hNewer hOut =>
    have hSame : base = s.state := by
      rcases hBase with rfl | ⟨-, rfl⟩
      · rfl
      · exact absurd rfl hActive
    subst hSame
    refine hSeparate.ownedState hActive fun hOver => hArms ?_
    have hNot : m.event ≠ .heartbeat ∧ m.event ≠ .leaseAcquired := by
      rcases hOver.2.2 with ⟨hKind, -⟩ | ⟨hKind, -⟩ <;> rw [hKind] <;> decide
    have hOwns : (s.found c).Owns m := by
      obtain ⟨call, now⟩ := c
      dsimp only at hCall
      subst hCall
      refine owns_of_not_refused hNot ?_
      rw [hOut]
      exact isRefusal_handleOwnedEvent _ m now
    rw [← found_of_active hOwns.active] at hOver
    exact ⟨m, hCall, hOwns, hOver⟩
  | runtime mode map stable =>
    unfold runtimeState
    exact iteInduction (fun _ => ⟨.of_disarmed rfl rfl rfl rfl rfl, fun _ => rfl⟩) fun _ =>
      hSeparate
  | requestMode mode requestId leaseId => exact hSeparate.transition nofun nofun
  | dualsense active =>
    cases active with
    | true => exact hSeparate.transition nofun nofun
    | false => exact hSeparate.transition nofun nofun
  | restart => exact ⟨.of_disarmed rfl rfl rfl rfl rfl, fun _ => rfl⟩

/-! ## Evidence -/

section

variable (init : CommandSupervisor)

/-- A converted manual sample is accepted for a demand of the manual session of that moment. -/
def AcceptsSample (past : List TimedCall) (c : TimedCall) : Prop :=
  ∃ command demand, c.call = .receiveRawManual command demand.sequence ∧
    (after step init past).accepted c = true ∧ DemandOfSession init demand (c :: past)

/-- A valid raw autonomy sample arrived at most `bound` before `now`. -/
def AutonomySample (bound now : ℚ) (history : List TimedCall) : Prop :=
  Once (fun _ c => (∃ command, c.call = .receiveRawAutonomy command ∧ command.valid = true) ∧
    now - c.now ≤ bound) history

/-- A manual input of the session that still lasts came at most `bound` before `now`. -/
def ManualInput (bound now : ℚ) (history : List TimedCall) : Prop :=
  Since (along step init Drives)
    (along step init fun s c => (∃ demand, TakesDemand demand s c) ∧ now - c.now ≤ bound) history

/-- A converted manual sample for a demand of the session that still lasts was accepted at most
`bound` before `now`. -/
def ManualSample (bound now : ℚ) (history : List TimedCall) : Prop :=
  Since (along step init Drives)
    (fun past c => AcceptsSample init past c ∧ now - c.now ≤ bound) history

/-- The evidence for a lifted brake: the selected source and its fresh samples. -/
inductive Lifted (past : List TimedCall) (c : TimedCall) (authority : Authority) : Prop
  | autonomy (hAuthority : authority = .paddockAutonomy)
      (hLease : (after step init (c :: past)).leaseIsFresh c.now = true)
      (hSample : AutonomySample init.config.rawAutonomyTimeoutSec c.now (c :: past))
  | manual (hAuthority : authority = .paddockManual)
      (hInput : ManualInput init init.config.manualTimeoutSec c.now (c :: past))
      (hSample : ManualSample init init.config.rawAutonomyTimeoutSec c.now (c :: past))

/-- A snapshot that lifts the brake has the evidence for it. -/
def BrakeJustified (past : List TimedCall) (c : TimedCall) : Prop :=
  ∀ r, (after step init past).result c = some r → r.snapshot.brakeIntent = false →
    Lifted init past c r.snapshot.state.authority

end

/-- A call begins a manual session while the last manual sample is still fresh. -/
def InheritsSample (s : CommandSupervisor) (c : TimedCall) : Prop :=
  ∃ m speed steering, s.Activates c m speed steering ∧ s.state.manualActive = false ∧
    s.rawManualIsFresh c.now = true

/-! ## The history behind the samples -/

variable {init : CommandSupervisor} {past : List TimedCall} {c : TimedCall}

/-- The last autonomy sample has a valid one behind it. -/
theorem autonomySample_after (hInit : init.lastRawAutonomyAt = none) {t : ℚ}
    (h : (after step init past).lastRawAutonomyAt = some t) :
    Once (fun _ c => (∃ command, c.call = .receiveRawAutonomy command ∧ command.valid = true) ∧
      c.now = t) past := by
  induction past with
  | nil =>
    rw [after_nil, hInit] at h
    cases h
  | cons c past ih =>
    rw [after_cons] at h
    cases (after step init past).sample_case c with
    | kept hSame => exact (ih (hSame.autonomy.symm.trans h)).cons
    | autonomy command hCall hAutonomy =>
      rcases hAutonomy with hNone | ⟨hValid, hSome⟩
      · rw [hNone] at h
        cases h
      · cases hSome.symm.trans h
        exact .start ⟨⟨command, hCall, hValid⟩, rfl⟩
    | manual command demand hCall hAccepted hDemand hAutonomy =>
      exact (ih (hAutonomy.symm.trans h)).cons
    | ceiling value hCall hValid hNext =>
      rw [hNext] at h
      exact (ih h).cons
    | restarted hCall hAutonomy =>
      rw [hAutonomy] at h
      cases h

/-- While manual driving is active, the last manual sample is one of the session, or too old for
every later call. -/
def OwnSample (init : CommandSupervisor) (past : List TimedCall) : Prop :=
  (after step init past).state.manualActive = true →
    ∀ t, (after step init past).lastRawManualAt = some t →
      Since (along step init Drives) (fun past c => AcceptsSample init past c ∧ c.now = t) past ∨
        ∀ now, (∀ c ∈ past, c.now ≤ now) → init.config.rawAutonomyTimeoutSec < now - t

theorem rawManualIsFresh_iff {s : CommandSupervisor} {now : ℚ} :
    s.rawManualIsFresh now = true ↔
      ∃ t, s.lastRawManualAt = some t ∧ now - t ≤ s.config.rawAutonomyTimeoutSec := by
  unfold rawManualIsFresh
  cases s.lastRawManualAt with
  | none => simp [withinAge]
  | some t => simp [withinAge]

theorem OwnSample.step (h : OwnSample init past)
    (hDriven : ∀ past, Coherent (after CommandSupervisor.step init past).state ∧
      Driven init past (after CommandSupervisor.step init past))
    (hInherits : ¬ (after CommandSupervisor.step init past).InheritsSample c) :
    OwnSample init (c :: past) := by
  intro hActive t hSample
  rw [after_cons] at hActive hSample
  have hKept : (after CommandSupervisor.step init past).state.manualActive = true →
      (after CommandSupervisor.step init past).lastRawManualAt = some t →
      Since (along CommandSupervisor.step init Drives)
          (fun past c => AcceptsSample init past c ∧ c.now = t) (c :: past) ∨
        ∀ now, (∀ d ∈ c :: past, d.now ≤ now) → init.config.rawAutonomyTimeoutSec < now - t := by
    intro hWas hSame
    rcases h hWas t hSame with hOwn | hOld
    · exact Or.inl (hOwn.keep hActive)
    · exact Or.inr fun now hLater => hOld now fun d hMem => hLater d (List.mem_cons_of_mem c hMem)
  cases session_case (hDriven past).1 c with
  | closed hClosed =>
    rw [hClosed.inactive] at hActive
    cases hActive
  | abandoned hAbandons hOff =>
    rw [hOff] at hActive
    cases hActive
  | kept hSession =>
    have hFound := found_of_manualActive (hSession.active.symm.trans hActive)
    rw [hFound] at hSession
    have hWas := hSession.active.symm.trans hActive
    cases (after CommandSupervisor.step init past).sample_case c with
    | kept hSame => exact hKept hWas (hSame.manual.symm.trans hSample)
    | autonomy command hCall hAutonomy hManual => exact hKept hWas (hManual.symm.trans hSample)
    | manual command demand hCall hAccepted hDemand hAutonomy hManual =>
      cases hManual.symm.trans hSample
      have hSession := demandOfSession (hDriven (c :: past)).2 hActive hDemand
      exact Or.inl (.start ⟨⟨command, demand, hCall, hAccepted, hSession⟩, rfl⟩)
    | ceiling value hCall hValid hNext =>
      rw [hNext] at hSample
      exact hKept hWas hSample
    | restarted hCall hAutonomy hManual =>
      rw [hManual] at hSample
      cases hSample
  | taken m speed steering hTakes =>
    have hSame : (after CommandSupervisor.step init past).lastRawManualAt = some t := by
      cases (after CommandSupervisor.step init past).sample_case c with
      | kept hSame => exact hSame.manual.symm.trans hSample
      | autonomy _ hCall | manual _ _ hCall | ceiling _ hCall | restarted hCall =>
        rw [hTakes.call] at hCall
        cases hCall
    by_cases hWas : (after CommandSupervisor.step init past).state.manualActive = true
    · exact hKept hWas hSame
    · refine Or.inr fun now hLater => ?_
      have hStale : ¬ (after CommandSupervisor.step init past).rawManualIsFresh c.now = true :=
        fun hFresh => hInherits ⟨m, speed, steering, hTakes, Bool.eq_false_iff.mpr hWas, hFresh⟩
      rw [rawManualIsFresh_iff] at hStale
      have hConfig := after_config init past
      have hOld : init.config.rawAutonomyTimeoutSec < c.now - t := by
        rw [← hConfig]
        exact not_le.mp fun hLe => hStale ⟨t, hSame, hLe⟩
      exact hOld.trans_le (sub_le_sub_right (hLater c List.mem_cons_self) t)

/-! ## The brake over a run -/

theorem withinAge_age_iff {bound now : ℚ} (hBound : 0 < bound) {received : Option ℚ} :
    withinAge bound (age now received) = true ↔ ∃ t, received = some t ∧ now - t ≤ bound := by
  cases received with
  | none => simp [age, withinAge]
  | some t => simp [age, withinAge, hBound.le]

/-- A lifted brake opens one of the two gates. -/
theorem brake_lifted_iff {s : CommandSupervisor} {now : ℚ} {reason : Reason} :
    (s.snapshot now reason).brakeIntent = false ↔
      (s.state.autonomyPermitted = true ∧ s.leaseIsFresh now = true ∧ s.rawIsFresh now = true) ∨
      (s.state.authority = .paddockManual ∧ s.manualIsFresh now = true ∧
        s.rawManualIsFresh now = true) := by
  simp only [snapshot, Bool.not_eq_false', Bool.or_eq_true, Bool.and_eq_true, decide_eq_true_eq,
    and_assoc]

theorem authority_of_permitted {state : PaddockState} (h : Separate state)
    (hPermitted : state.autonomyPermitted = true) : state.authority = .paddockAutonomy := by
  have hManual := h.2 (h.1.navigation.trans hPermitted)
  obtain ⟨hMode, -, -, -, hDual, -⟩ := autonomyPermitted_iff.mp hPermitted
  unfold authority
  rw [if_neg (by rw [hMode]; decide), if_neg (by rw [hDual]; decide), hManual, Bool.and_false,
    if_neg (by decide), if_pos hPermitted]

/-- A session that still lasts is an active one. -/
theorem manualActive_of_since {start : List TimedCall → TimedCall → Prop}
    (hStart : ∀ past c, start past c →
      (after CommandSupervisor.step init (c :: past)).state.manualActive = true)
    (h : Since (along CommandSupervisor.step init Drives) start past) :
    (after CommandSupervisor.step init past).state.manualActive = true := by
  cases past with
  | nil => exact h.elim
  | cons c past =>
    rcases h with h | ⟨hKeep, -⟩
    · exact hStart past c h
    · exact hKeep

theorem manualActive_of_demand {demand : ManualDemand} (h : DemandOfSession init demand past) :
    (after CommandSupervisor.step init past).state.manualActive = true :=
  manualActive_of_since (fun _ _ ⟨_, _, _, hTakes, _⟩ => hTakes.next.2.1) h

/-- The session and the samples behind a state, and no navigation under manual driving. -/
structure Evidence (init : CommandSupervisor) (past : List TimedCall) : Prop where
  separate : Separate (after CommandSupervisor.step init past).state
  driven : Driven init past (after CommandSupervisor.step init past)
  own : OwnSample init past

/-- With the evidence for its state behind it, a snapshot lifts the brake with evidence only. -/
theorem Evidence.justified (h : Evidence init (c :: past)) (hInit : init.lastRawAutonomyAt = none)
    (hTimes : ∀ d ∈ past, d.now ≤ c.now) : BrakeJustified init past c := by
  intro r hResult hBrake
  obtain ⟨reason, hShows⟩ := result_shows hResult
  rw [← after_cons CommandSupervisor.step] at hShows
  rw [hShows] at hBrake ⊢
  have hConfig := after_config init (c :: past)
  generalize hNext : after CommandSupervisor.step init (c :: past) = next at hBrake hConfig
  change Lifted init past c next.state.authority
  rcases brake_lifted_iff.mp hBrake with ⟨hPermitted, hLease, hRaw⟩ | ⟨hAuthority, hInput, hRaw⟩
  · refine .autonomy (authority_of_permitted (hNext ▸ h.separate) hPermitted) (hNext ▸ hLease) ?_
    obtain ⟨t, hSome, hAge⟩ := (withinAge_age_iff next.config.raw_pos).mp hRaw
    rw [hConfig] at hAge
    refine (autonomySample_after hInit (hNext ▸ hSome)).mono (fun _ _ h => h) ?_
    rintro _ d ⟨hValid, rfl⟩
    exact ⟨hValid, hAge⟩
  · have hActive := (authority_eq_paddockManual_iff.mp hAuthority).2.2.2
    obtain ⟨demand, t, -, hSome, hSince⟩ := h.driven (hNext ▸ hActive)
    obtain ⟨t', hSome', hAge⟩ := (withinAge_age_iff next.config.manual_pos).mp hInput
    obtain ⟨u, hSample, hFresh⟩ := rawManualIsFresh_iff.mp hRaw
    rw [hConfig] at hAge hFresh
    rw [hNext] at hSome
    cases hSome.symm.trans hSome'
    refine .manual hAuthority ?_ ?_
    · refine hSince.mono (fun _ _ h => h) ?_
      rintro _ d ⟨hTakes, rfl⟩
      exact ⟨⟨demand, hTakes⟩, hAge⟩
    · rcases h.own (hNext ▸ hActive) u (hNext ▸ hSample) with hOwn | hOld
      · refine hOwn.mono (fun _ _ h => h) ?_
        rintro _ d ⟨hAccepts, rfl⟩
        exact ⟨hAccepts, hFresh⟩
      · refine absurd (hOld c.now fun d hMem => ?_) (not_lt.mpr hFresh)
        rcases List.mem_cons.mp hMem with rfl | hMem
        · exact le_rfl
        · exact hTimes d hMem

theorem authority_of_manualActive {state : PaddockState} (h : Coherent state)
    (hActive : state.manualActive = true) : state.authority = .paddockManual := by
  obtain ⟨hDual, hMode⟩ := h.manual hActive
  refine authority_eq_paddockManual_iff.mpr ⟨hMode, hDual, fun hFree => ?_, hActive⟩
  rw [(h.unleased hFree).2.1] at hActive
  cases hActive

/-- A session that begins while the last sample is still fresh lifts the brake at once. -/
theorem InheritsSample.not_justified
    (h : (after CommandSupervisor.step init past).InheritsSample c)
    (hCoherent : Coherent (after CommandSupervisor.step init (c :: past)).state) :
    ¬ BrakeJustified init past c := by
  intro hJustified
  obtain ⟨m, speed, steering, hTakes, hOff, hFresh⟩ := h
  obtain ⟨-, hActive, hInput⟩ := hTakes.next
  have hAuthority := authority_of_manualActive hCoherent hActive
  have hSame : ((after CommandSupervisor.step init past).step c).lastRawManualAt =
      (after CommandSupervisor.step init past).lastRawManualAt := by
    cases (after CommandSupervisor.step init past).sample_case c with
    | kept hSame => exact hSame.manual
    | autonomy _ hCall | manual _ _ hCall | ceiling _ hCall | restarted hCall =>
      rw [hTakes.call] at hCall
      cases hCall
  have hRaw : ((after CommandSupervisor.step init past).step c).rawManualIsFresh c.now = true := by
    rw [rawManualIsFresh_iff, hSame, step_config]
    exact rawManualIsFresh_iff.mp hFresh
  have hNow : ((after CommandSupervisor.step init past).step c).manualIsFresh c.now = true := by
    refine (withinAge_age_iff (CommandSupervisor.config _).manual_pos).mpr ⟨c.now, hInput, ?_⟩
    rw [sub_self]
    exact (CommandSupervisor.config _).manual_pos.le
  obtain ⟨r, hResult⟩ : ∃ r, (after CommandSupervisor.step init past).result c = some r := by
    obtain ⟨call, now⟩ := c
    cases hTakes.call
    exact ⟨_, rfl⟩
  obtain ⟨reason, hShows⟩ := result_shows hResult
  have hLifted := hJustified r hResult
    (by rw [hShows]; exact brake_lifted_iff.mpr (Or.inr ⟨hAuthority, hNow, hRaw⟩))
  rw [hShows] at hLifted
  cases hLifted with
  | autonomy hOther => exact absurd (hOther.symm.trans hAuthority) (by decide)
  | manual _ _ hSample =>
    rcases hSample with ⟨⟨command, demand, hCall, -⟩, -⟩ | ⟨-, hSince⟩
    · rw [hTakes.call] at hCall
      cases hCall
    · have hWas := manualActive_of_since (fun past d ⟨⟨_, demand, _, _, hDemand⟩, _⟩ =>
        manualActive_of_demand hDemand) hSince
      rw [hOff] at hWas
      cases hWas

/-- A run whose calls come in the order of their times, the latest first. -/
def InTime (run : List TimedCall) : Prop :=
  run.Pairwise fun later earlier => earlier.now ≤ later.now

/-- Where no event arms autonomy under manual driving, every lifted brake of a run rests on the
selected source and its own samples exactly if no manual session of the run begins while the last
manual sample is still fresh. The invariant is `Evidence`: a fresh sample belongs to the session
that uses it, and that is kept by every call but the start of a session that inherits one. -/
theorem brake_justified_iff {lease raw : PyFloat} {liveness : Option PyFloat}
    {manual speed : PyFloat} {floor : ℚ} {map : String} {init : CommandSupervisor}
    (hInit : CommandSupervisor.init lease raw liveness manual speed floor map = .ok init)
    {run : List TimedCall} (hTimes : InTime run)
    (hApart : Always (along CommandSupervisor.step init fun s c => ¬ s.ArmsManual c) run) :
    Always (BrakeJustified init) run ↔
      Always (along CommandSupervisor.step init fun s c => ¬ s.InheritsSample c) run := by
  obtain ⟨config, ceiling, rfl, -⟩ := init_eq hInit
  generalize hStart : ({ config, manualMaxSpeedMps := ceiling
                         state := { activeAutonomyMap := map } } : CommandSupervisor) = start
    at hApart ⊢
  have hIdle : Coherent start.state := hStart ▸ Coherent.of_disarmed rfl rfl rfl rfl rfl
  have hDriven := driven_after hIdle (hStart ▸ rfl)
  -- The left side gives the condition at every call; the condition keeps the evidence.
  have hBoth : (Always (BrakeJustified start) run ↔
      Always (along CommandSupervisor.step start fun s c => ¬ s.InheritsSample c) run) ∧
        (Always (BrakeJustified start) run → Evidence start run) := by
    induction run with
    | nil =>
      refine ⟨Iff.rfl, fun _ => ⟨⟨hIdle, fun _ => hStart ▸ rfl⟩, (hDriven []).2, ?_⟩⟩
      intro _ t hSample
      rw [after_nil, ← hStart] at hSample
      cases hSample
    | cons c past ih =>
      obtain ⟨ihIff, ihEvidence⟩ := ih hTimes.of_cons hApart.2
      have hStep : Always (BrakeJustified start) past →
          ¬ (after CommandSupervisor.step start past).InheritsSample c →
          Evidence start (c :: past) := by
        intro hPast hInherits
        have hEvidence := ihEvidence hPast
        exact ⟨separate_step hEvidence.separate hApart.1, (hDriven (c :: past)).2,
          hEvidence.own.step hDriven hInherits⟩
      have hNot : BrakeJustified start past c →
          ¬ (after CommandSupervisor.step start past).InheritsSample c :=
        fun hJustified hInherits => hInherits.not_justified (hDriven (c :: past)).1 hJustified
      refine ⟨⟨fun h => ⟨hNot h.1, ihIff.mp h.2⟩, fun h => ?_⟩, fun h => hStep h.2 (hNot h.1)⟩
      have hPast := ihIff.mpr h.2
      refine ⟨(hStep hPast h.1).justified (hStart ▸ rfl) ?_, hPast⟩
      exact (List.pairwise_cons.mp hTimes).1
  exact hBoth.1

/-- In MAPPING a manual demand is converted, manual driving ends, and begins again within the age
bound of the converted sample; latest call first. -/
def restartedRun : List TimedCall :=
  let sent (event : ControlEvent) (sequence : Int) (now : ℚ) : TimedCall :=
    ⟨.handleControlEvent
      { event, clientId := "c", leaseId := "l", sequence, manualSpeedMps := .finite (3 / 10) }, now⟩
  [sent .manualActive 4 (6 / 100), sent .manualInactive 3 (5 / 100),
    ⟨.receiveRawManual { linearX := .finite (8 / 100) } 2, 4 / 100⟩,
    sent .manualActive 2 (2 / 100), ⟨.setRuntimeMode .mapping "m" true, 1 / 100⟩,
    sent .leaseAcquired 1 0]

theorem inTime_restartedRun : InTime restartedRun := by
  unfold InTime
  decide +kernel

theorem apart_restartedRun : Always (along CommandSupervisor.step (defaultSupervisor "m")
    fun s c => ¬ s.ArmsManual c) restartedRun := by
  have hMapping : Always (along CommandSupervisor.step (defaultSupervisor "m")
      fun s c => (s.found c).state.mode ≠ .autonomy) restartedRun := by decide +kernel
  exact Always.mono (fun _ _ hMode ⟨_, _, _, _, hAutonomy, _⟩ => hMode hAutonomy) hMapping

theorem brake_justified_iff_restartedRun :
    Always (BrakeJustified (defaultSupervisor "m")) restartedRun ↔
      Always (along CommandSupervisor.step (defaultSupervisor "m")
        fun s c => ¬ s.InheritsSample c) restartedRun :=
  brake_justified_iff (init_default "m") inTime_restartedRun apart_restartedRun

/-- The second session lifts the brake without a sample of its own. -/
theorem left_over_sample_lifts :
    ((after CommandSupervisor.step (defaultSupervisor "m") restartedRun.tail).result
        (restartedRun.headD ⟨.tick, 0⟩)).any (fun r => !r.snapshot.brakeIntent) = true ∧
      ¬ Always (BrakeJustified (defaultSupervisor "m")) restartedRun := by
  refine ⟨by decide +kernel, fun h => ?_⟩
  have hLast : (after CommandSupervisor.step (defaultSupervisor "m")
      restartedRun.tail).lastControlSequence = some 3 := by decide +kernel
  have hTakes : Activates (after CommandSupervisor.step (defaultSupervisor "m") restartedRun.tail)
      (restartedRun.headD ⟨.tick, 0⟩)
      ⟨.manualActive, "c", "l", 4, .finite 0, .finite 0, .finite 0, .finite (3 / 10), .finite 0⟩
      (3 / 10) 0 := by
    refine ⟨rfl, ⟨by decide +kernel, by decide +kernel, by decide +kernel, ?_⟩,
      found_of_active (by decide +kernel), rfl, rfl, rfl, by decide +kernel, by decide +kernel⟩
    intro last hSome
    cases hLast.symm.trans hSome
    decide
  have hIdle : Coherent (defaultSupervisor "m").state := .of_disarmed rfl rfl rfl rfl rfl
  exact InheritsSample.not_justified
    ⟨_, _, _, hTakes, by decide +kernel, by decide +kernel⟩ (driven_after hIdle rfl _).1 h.1

end CommandSupervisor

end PreRunner.Paddock
