import PreRunner.Paddock.SupervisorCases

/-!
# What a call does to the interlock

Every call first drops a lapsed lease, or does not look at the lease at all, and then moves the
`PaddockState` in one of the ways of `Move`. The invariants of the interlock (`Interlocked`)
follow from the moves alone: while the DualSense is active a held RUN is blocked, and a selected
goal is one of the active map.
-/

namespace PreRunner.Paddock

open PaddockState

/-- The state after an ordered event of the lease owner. -/
def ownedState (state : PaddockState) (m : ControlMessage) : PaddockState :=
  match m.event with
  | .heartbeat | .leaseAcquired => state
  | .clearStop | .stop => (ownerTransition state .stop {}).state
  | .goalSelected =>
    if [m.goalX, m.goalY, m.goalYaw].all PyFloat.isfinite then
      (ownerTransition state .selectGoal
        { goal := some ⟨state.activeAutonomyMap, m.goalX, m.goalY, m.goalYaw⟩ }).state
    else state
  | .runPressed => (ownerTransition state .runPress {}).state
  | .runReleased => (ownerTransition state .runRelease {}).state
  | .manualActive =>
    if m.manualSpeedMps.isfinite && m.manualSteering.isfinite then
      (ownerTransition state .manualActive {}).state
    else { (ownerTransition state .manualActive {}).state with manualActive := false }
  | .manualInactive => (ownerTransition state .manualInactive {}).state
  | .leaseReleased | .leaseLost => state.withoutLease

theorem ownerTransition_manualInactive (state : PaddockState) (args : TransitionArgs) :
    (ownerTransition state .manualInactive args).state =
      { state with manualActive := false } := by
  obtain ⟨mode, request, map, client, lease, gen, dual, run, blocked, manual, goal, nav⟩ := state
  cases manual <;> rfl

/-- A manual event keeps the lease, so its owner still owns it. -/
theorem ownerTransition_manualActive_lease (state : PaddockState) :
    (ownerTransition state .manualActive {}).state.leaseId = state.leaseId ∧
      (ownerTransition state .manualActive {}).state.leaseClientId = state.leaseClientId ∧
      (ownerTransition state .manualActive {}).state.leaseGeneration = state.leaseGeneration ∧
      (ownerTransition state .manualActive {}).state.mode = state.mode ∧
      (ownerTransition state .manualActive {}).state.activeAutonomyMap = state.activeAutonomyMap ∧
      (ownerTransition state .manualActive {}).state.dualsenseActive = state.dualsenseActive ∧
      (ownerTransition state .manualActive {}).state.goal = state.goal := by
  unfold ownerTransition
  dsimp only
  split <;> exact ⟨rfl, rfl, rfl, rfl, rfl, rfl, rfl⟩

namespace CommandSupervisor

@[simp] theorem clearManualIfInactive_state (s : CommandSupervisor) :
    s.clearManualIfInactive.state = s.state := by
  unfold clearManualIfInactive
  split <;> rfl

@[simp] theorem finishEvent_state (s : CommandSupervisor) (now : ℚ) :
    (s.finishEvent now).1.state = s.state := clearManualIfInactive_state s

/-- A method that changes at most the state, the manual demand and its time. -/
def MovesTo (s next : CommandSupervisor) (state : PaddockState) : Prop :=
  ∃ demand input, next = { s with state, manualDemand := demand, lastManualInputAt := input }

theorem movesTo_clearManualIfInactive (s : CommandSupervisor) :
    MovesTo s s.clearManualIfInactive s.state := by
  unfold clearManualIfInactive
  split
  · exact ⟨s.manualDemand, s.lastManualInputAt, rfl⟩
  · exact ⟨none, none, rfl⟩

theorem movesTo_finishEvent (s : CommandSupervisor) (now : ℚ) :
    MovesTo s (s.finishEvent now).1 s.state := movesTo_clearManualIfInactive s

theorem movesTo_acceptManual (s : CommandSupervisor) (m : ControlMessage) (now : ℚ)
    (hLease : s.state.leaseActive = true) (hId : m.leaseId = s.state.leaseId) :
    MovesTo s (s.acceptManual m now).1
      (if m.manualSpeedMps.isfinite && m.manualSteering.isfinite then s.state
        else { s.state with manualActive := false }) := by
  have hOff : (transition s.state .manualInactive { leaseId := m.leaseId }).state =
      { s.state with manualActive := false } := by
    rw [transition_owned hLease hId (by simp)]
    exact ownerTransition_manualInactive s.state _
  unfold acceptManual
  cases hSpeed : m.manualSpeedMps <;> cases hSteer : m.manualSteering <;>
    simp only [PyFloat.finite?, PyFloat.isfinite, Bool.and_false, Bool.false_and, Bool.and_self,
      Bool.false_eq_true, if_false, if_true]
  case finite.finite =>
    split
    · exact ⟨s.manualDemand, s.lastManualInputAt, rfl⟩
    · exact ⟨_, _, rfl⟩
  all_goals exact ⟨s.manualDemand, s.lastManualInputAt, by rw [hOff]; rfl⟩

/-- An ordered event of the owner moves the state as `ownedState` says. Only `LEASE_RELEASED`
also forgets when the lease was refreshed. -/
theorem handleOwnedEvent_movesTo (s : CommandSupervisor) (m : ControlMessage) (now : ℚ)
    (hLease : s.state.leaseActive = true) (hId : m.leaseId = s.state.leaseId) :
    MovesTo
      (if m.event = .leaseReleased then
        { s with lastLeaseReceiveAt := none, lastControlSequence := none } else s)
      (s.handleOwnedEvent m now).1 (ownedState s.state m) := by
  have hOwned : ∀ event, event = .requestMode ∨ event = .selectGoal ∨ event = .runPress ∨
      event = .runRelease ∨ event = .stop ∨ event = .manualActive ∨ event = .manualInactive →
      transition s.state event { leaseId := m.leaseId } =
        ownerTransition s.state event { leaseId := m.leaseId } :=
    fun _ hEvent => transition_owned hLease hId hEvent
  have hFinish : ∀ event, (event = .requestMode ∨ event = .selectGoal ∨ event = .runPress ∨
      event = .runRelease ∨ event = .stop ∨ event = .manualActive ∨ event = .manualInactive) →
      MovesTo s (finishEvent
        { s with state := (transition s.state event { leaseId := m.leaseId }).state } now).1
        (ownerTransition s.state event { leaseId := m.leaseId }).state := by
    intro event hEvent
    rw [hOwned event hEvent]
    exact movesTo_finishEvent _ now
  unfold handleOwnedEvent ownedState
  cases hEvent : m.event with
  | heartbeat | leaseAcquired => exact ⟨s.manualDemand, s.lastManualInputAt, rfl⟩
  | clearStop =>
    dsimp only
    rw [if_neg (by decide), hOwned .stop (by simp)]
    exact ⟨s.manualDemand, s.lastManualInputAt, rfl⟩
  | stop => exact hFinish .stop (by simp)
  | runPressed => exact hFinish .runPress (by simp)
  | runReleased => exact hFinish .runRelease (by simp)
  | goalSelected =>
    dsimp only
    rw [if_neg (by decide)]
    split
    · rw [transition_owned hLease hId (by simp)]
      exact movesTo_finishEvent _ now
    · exact ⟨s.manualDemand, s.lastManualInputAt, rfl⟩
  | manualInactive =>
    dsimp only
    rw [if_neg (by decide), hOwned .manualInactive (by simp)]
    exact movesTo_finishEvent _ now
  | leaseReleased =>
    dsimp only
    rw [if_pos rfl, hId, transition_releaseLease hLease]
    exact movesTo_finishEvent _ now
  | leaseLost =>
    dsimp only
    rw [if_neg (by decide), hId, transition_loseLease hLease]
    exact movesTo_finishEvent _ now
  | manualActive =>
    have hActive := congrArg Transition.state (hOwned .manualActive (by simp))
    obtain ⟨hKeep, -⟩ := ownerTransition_manualActive_lease s.state
    dsimp only
    rw [if_neg (by decide)]
    have hMoves := movesTo_acceptManual
      { s with state := (ownerTransition s.state .manualActive {}).state } m now
      (by rw [leaseActive_iff]; exact hKeep ▸ leaseActive_iff.mp hLease) (hId.trans hKeep.symm)
    rw [hActive]
    exact hMoves

/-! ## The moves of a call -/

/-- The state after a runtime report. -/
def runtimeState (state : PaddockState) (mode : Mode) (map : String) (stable : Bool) :
    PaddockState :=
  let effectiveMode := if stable then mode else .idle
  if effectiveMode ≠ state.mode ∨ map ≠ state.activeAutonomyMap ∨ stable = false then
    { state with
      mode := effectiveMode
      activeAutonomyMap := map
      runHeld := false
      runBlockedUntilRelease := false
      manualActive := false
      goal := none
      navigationActive := false }
  else state

theorem setRuntimeMode_next (s : CommandSupervisor) (mode : Mode) (map : String) (now : ℚ)
    (stable : Bool) :
    (s.setRuntimeMode mode map now stable).1 = clearManualIfInactive
      { s.expireLease now with
        state := runtimeState (s.expireLease now).state mode map stable } := by
  unfold setRuntimeMode runtimeState
  generalize s.expireLease now = dropped
  dsimp only
  by_cases hChanged : (if stable then mode else .idle) ≠ dropped.state.mode ∨
      map ≠ dropped.state.activeAutonomyMap ∨ stable = false
  · simp only [if_pos hChanged]
  · simp only [if_neg hChanged]
    simp only [not_or, not_not] at hChanged
    rw [hChanged.1, hChanged.2.1]

theorem setRuntimeMode_movesTo (s : CommandSupervisor) (mode : Mode) (map : String) (now : ℚ)
    (stable : Bool) :
    MovesTo (s.expireLease now) (s.setRuntimeMode mode map now stable).1
      (runtimeState (s.expireLease now).state mode map stable) := by
  rw [setRuntimeMode_next]
  exact movesTo_clearManualIfInactive _

/-- How a call can move the state once a lapsed lease was dropped. -/
inductive Move (s : CommandSupervisor) (c : TimedCall) : PaddockState → PaddockState → Prop
  | stays (state) : Move s c state state
  | manualEnds (state) : Move s c state { state with manualActive := false }
  | granted (state) (m) (hCall : c.call = .handleControlEvent m) (hFree : state.leaseId = "")
      (hClient : m.clientId ≠ "") (hLease : m.leaseId ≠ "")
      (hReason : (s.handleControlEvent m c.now).2.snapshot.reason = .leaseAcquired ∨
        (s.handleControlEvent m c.now).2.snapshot.reason = .leaseReinstated) :
      Move s c state (state.withLease m.clientId m.leaseId)
  | owned (state) (m) (hCall : c.call = .handleControlEvent m) (hActive : state.leaseId ≠ "")
      (hEvent : m.event ≠ .leaseAcquired) (hClient : m.clientId = state.leaseClientId)
      (hLease : m.leaseId = state.leaseId)
      (hNewer : ∀ last, s.lastControlSequence = some last →
        isNewerSequence m.sequence last = true)
      (hOut : s.handleControlEvent m c.now = handleOwnedEvent (s.refreshed m c.now) m c.now) :
      Move s c state (ownedState state m)
  | runtime (state) (mode map stable) (hCall : c.call = .setRuntimeMode mode map stable) :
      Move s c state (runtimeState state mode map stable)
  | requestMode (state) (mode requestId leaseId)
      (hCall : c.call = .requestMode mode requestId leaseId) :
      Move s c state (transition state .requestMode { leaseId, mode, requestId }).state
  | dualsense (state) (active) (hCall : c.call = .setDualsenseActive active) :
      Move s c state
        (transition state (if active then .dualsenseActive else .dualsenseInactive)).state
  | restart (state) (hCall : c.call = .restart) :
      Move s c state { activeAutonomyMap := s.state.activeAutonomyMap }

/-- The state after the lazy expiry at `now`. -/
def Dropped (s : CommandSupervisor) (now : ℚ) (state : PaddockState) : Prop :=
  state = s.state ∨ (s.leaseExpires now = true ∧ state = s.state.withoutLease)

theorem dropped_expireLease (s : CommandSupervisor) (now : ℚ) :
    s.Dropped now (s.expireLease now).state := by
  rw [expireLease_eq]
  split
  · rename_i h
    exact Or.inr ⟨h, rfl⟩
  · exact Or.inl rfl

theorem expireManual_move (s : CommandSupervisor) (c : TimedCall) (now : ℚ)
    (d : CommandSupervisor) : Move s c d.state (d.expireManual now).state := by
  unfold expireManual
  split
  · change Move s c d.state (transition d.state .manualInactive
      { leaseId := d.state.leaseId }).state
    by_cases hOwns : ownsLease d.state d.state.leaseId = true
    · have hLease : d.state.leaseActive = true := by
        simp only [ownsLease, Bool.and_eq_true] at hOwns
        exact hOwns.1
      rw [transition_owned hLease rfl (by simp), ownerTransition_manualInactive]
      exact .manualEnds _
    · have hStay : transition d.state .manualInactive { leaseId := d.state.leaseId } =
          { state := d.state } := if_pos (by simpa using hOwns)
      rw [hStay]
      exact .stays _
  · exact .stays _

theorem handleControlEvent_move (s : CommandSupervisor) (m : ControlMessage) (now : ℚ) :
    Move s ⟨.handleControlEvent m, now⟩ (s.expireLease now).state
      (s.handleControlEvent m now).1.state := by
  have hCase := handleControlEvent_case s m now
  generalize hOut : s.handleControlEvent m now = out at hCase
  cases hCase with
  | refused => exact .stays _
  | granted reason hFree hClient hLease hEvent =>
    refine .granted _ m rfl hFree hClient hLease ?_
    rw [hOut]
    rcases hEvent with ⟨_, _, rfl⟩ | ⟨_, rfl⟩
    · exact Or.inr rfl
    · exact Or.inl rfl
  | owned hEvent hActive hClient hLease hNewer =>
    obtain ⟨demand, input, hNext⟩ := handleOwnedEvent_movesTo
      ((s.expireLease now).refreshed m now) m now (leaseActive_iff.mpr hActive) hLease
    have hLive := expireLease_active (leaseActive_iff.mpr hActive)
    rw [hNext]
    rw [hLive] at hActive hClient hLease hNewer hOut ⊢
    exact .owned _ m rfl hActive hEvent hClient hLease hNewer hOut

/-- Every call drops a lapsed lease or does not look at it, and then moves the state. -/
theorem step_move (s : CommandSupervisor) (c : TimedCall) :
    ∃ base, s.Dropped c.now base ∧ Move s c base (s.step c).state := by
  have hDrop := s.dropped_expireLease c.now
  obtain ⟨call, now⟩ := c
  cases call with
  | handleControlEvent m => exact ⟨_, hDrop, handleControlEvent_move s m now⟩
  | tick => exact ⟨_, hDrop, expireManual_move s _ now _⟩
  | setRuntimeMode mode map stable =>
    refine ⟨_, hDrop, ?_⟩
    obtain ⟨demand, input, hNext⟩ := setRuntimeMode_movesTo s mode map now stable
    change Move s _ _ (s.setRuntimeMode mode map now stable).1.state
    rw [hNext]
    exact .runtime _ mode map stable rfl
  | requestMode mode requestId leaseId =>
    exact ⟨_, hDrop, .requestMode _ mode requestId leaseId rfl⟩
  | setDualsenseActive active =>
    refine ⟨_, hDrop, ?_⟩
    obtain ⟨demand, input, hNext⟩ := movesTo_finishEvent
      { s.expireLease now with
        state := (transition (s.expireLease now).state
          (if active then .dualsenseActive else .dualsenseInactive)).state } now
    change Move s _ _ (s.setDualsenseActive active now).1.state
    unfold setDualsenseActive
    rw [hNext]
    exact .dualsense _ active rfl
  | receiveRawAutonomy command =>
    refine ⟨_, hDrop, ?_⟩
    change Move s _ _ (s.receiveRawAutonomy command now).1.state
    unfold receiveRawAutonomy
    dsimp only
    split
    · exact .stays _
    · split <;> exact .stays _
  | receiveRawManual command sequence =>
    refine ⟨_, hDrop, ?_⟩
    have hManual := expireManual_move s ⟨.receiveRawManual command sequence, now⟩ now
      (s.expireLease now)
    change Move s _ _ (s.receiveRawManual command sequence now).1.state
    unfold receiveRawManual
    dsimp only
    split
    · exact hManual
    · split <;> exact hManual
  | restart => exact ⟨_, Or.inl rfl, .restart _ rfl⟩
  | setManualMaxSpeedMps value =>
    refine ⟨_, Or.inl rfl, ?_⟩
    change Move s _ _ ((s.setManualMaxSpeedMps value).getD s).state
    unfold setManualMaxSpeedMps
    split <;> exact .stays _

theorem MovesTo.config {s next : CommandSupervisor} {state : PaddockState}
    (h : MovesTo s next state) : next.config = s.config := by
  obtain ⟨_, _, rfl⟩ := h
  rfl

/-- No call changes the timeouts. -/
theorem step_config (s : CommandSupervisor) (c : TimedCall) : (s.step c).config = s.config := by
  obtain ⟨call, now⟩ := c
  have hExpire := s.expireLease_config now
  have hManual : ((s.expireLease now).expireManual now).config = s.config := by
    unfold expireManual
    split <;> exact hExpire
  cases call with
  | handleControlEvent m =>
    have hCase := handleControlEvent_case s m now
    change (s.handleControlEvent m now).1.config = _
    generalize s.handleControlEvent m now = out at hCase
    cases hCase with
    | refused | granted => exact hExpire
    | owned _ hActive _ hLease =>
      refine ((handleOwnedEvent_movesTo ((s.expireLease now).refreshed m now) m now
        (leaseActive_iff.mpr hActive) hLease).config).trans (Eq.trans ?_ hExpire)
      split <;> rfl
  | tick => exact hManual
  | setRuntimeMode mode map stable =>
    exact (setRuntimeMode_movesTo s mode map now stable).config.trans hExpire
  | requestMode => exact hExpire
  | setDualsenseActive active => exact (movesTo_finishEvent _ now).config.trans hExpire
  | receiveRawAutonomy command =>
    refine Eq.trans ?_ hExpire
    change (s.receiveRawAutonomy command now).1.config = _
    unfold receiveRawAutonomy
    dsimp only
    split
    · rfl
    · split <;> rfl
  | receiveRawManual command sequence =>
    refine Eq.trans ?_ hManual
    change (s.receiveRawManual command sequence now).1.config = _
    unfold receiveRawManual
    dsimp only
    split
    · rfl
    · split <;> rfl
  | restart => rfl
  | setManualMaxSpeedMps value =>
    change ((s.setManualMaxSpeedMps value).getD s).config = _
    unfold setManualMaxSpeedMps
    split <;> rfl

theorem after_config (init : CommandSupervisor) (past : List TimedCall) :
    (Runs.after step init past).config = init.config := by
  induction past with
  | nil => rfl
  | cons c past ih => exact (step_config _ c).trans ih

end CommandSupervisor

/-! ## The invariant -/

/-- The invariants of the interlock. -/
structure Interlocked (state : PaddockState) : Prop where
  leased : state.leaseId = "" → state.runHeld = false ∧ state.manualActive = false
  blocked : state.dualsenseActive = true → state.runHeld = true →
    state.runBlockedUntilRelease = true
  goal : ∀ g, state.goal = some g → g.mapName = state.activeAutonomyMap ∧ g.mapName ≠ ""

namespace Interlocked

/-- Without RUN, manual input and a goal there is nothing to interlock. -/
theorem of_disarmed {state : PaddockState} (hRun : state.runHeld = false)
    (hManual : state.manualActive = false) (hGoal : state.goal = none) : Interlocked state where
  leased _ := ⟨hRun, hManual⟩
  blocked _ h := by rw [hRun] at h; cases h
  goal _ h := by rw [hGoal] at h; cases h

/-- Releasing RUN under a lease leaves the goal as it was. -/
theorem of_released {state state' : PaddockState} (h : Interlocked state)
    (hLease : state'.leaseId ≠ "") (hRun : state'.runHeld = false)
    (hGoal : state'.goal = state.goal)
    (hMap : state'.activeAutonomyMap = state.activeAutonomyMap) : Interlocked state' where
  leased hFree := absurd hFree hLease
  blocked _ hHeld := by rw [hRun] at hHeld; cases hHeld
  goal g hg := by rw [hMap]; exact h.goal g (hGoal ▸ hg)

/-- A change of the goal, or of RUN to a blocked or DualSense-free press, under a lease. -/
theorem of_leased {state : PaddockState} (hLease : state.leaseId ≠ "")
    (hBlocked : state.dualsenseActive = true → state.runHeld = true →
      state.runBlockedUntilRelease = true)
    (hGoal : ∀ g, state.goal = some g → g.mapName = state.activeAutonomyMap ∧ g.mapName ≠ "") :
    Interlocked state where
  leased hFree := absurd hFree hLease
  blocked := hBlocked
  goal := hGoal

theorem ownerTransition {state : PaddockState} (h : Interlocked state)
    (hLease : state.leaseId ≠ "") (event : Event) (args : TransitionArgs) :
    Interlocked (ownerTransition state event args).state := by
  unfold Paddock.ownerTransition
  cases event with
  | requestMode =>
    dsimp only
    split
    · exact h
    · split
      · exact h
      · split
        · exact of_leased hLease h.blocked h.goal
        · exact of_disarmed rfl rfl rfl
  | selectGoal =>
    dsimp only
    split
    · exact h
    · split
      · exact h
      · rename_i goal _ hMap
        simp only [not_or, not_not] at hMap
        have hGoal : ∀ g, some goal = some g →
            g.mapName = state.activeAutonomyMap ∧ g.mapName ≠ "" := by
          rintro g ⟨rfl⟩
          exact ⟨hMap.2.2, hMap.2.2 ▸ hMap.2.1⟩
        split <;> exact of_leased hLease h.blocked hGoal
  | runPress =>
    dsimp only
    split
    · exact h
    · split <;> exact of_leased hLease (fun hDual _ => hDual) h.goal
  | runRelease =>
    dsimp only
    split
    · exact h
    · exact h.of_released hLease rfl rfl rfl
  | stop => exact h.of_released hLease rfl rfl rfl
  | manualActive =>
    dsimp only
    split
    · exact h
    · exact h.of_released hLease rfl rfl rfl
  | manualInactive =>
    dsimp only
    split <;> exact of_leased hLease h.blocked h.goal
  | _ => exact h

theorem withoutLease (state : PaddockState) : Interlocked state.withoutLease :=
  of_disarmed rfl rfl rfl

theorem manualEnds {state : PaddockState} (h : Interlocked state) :
    Interlocked { state with manualActive := false } where
  leased hFree := ⟨(h.leased hFree).1, rfl⟩
  blocked := h.blocked
  goal := h.goal

theorem ownedState {state : PaddockState} (h : Interlocked state) (hLease : state.leaseId ≠ "")
    (m : ControlMessage) : Interlocked (ownedState state m) := by
  unfold Paddock.ownedState
  cases m.event with
  | heartbeat | leaseAcquired => exact h
  | leaseReleased | leaseLost => exact withoutLease state
  | goalSelected =>
    dsimp only
    split
    · exact h.ownerTransition hLease _ _
    · exact h
  | manualActive =>
    dsimp only
    split
    · exact h.ownerTransition hLease _ _
    · exact (h.ownerTransition hLease _ _).manualEnds
  | clearStop | stop | runPressed | runReleased | manualInactive =>
    exact h.ownerTransition hLease _ _

theorem runtimeState {state : PaddockState} (h : Interlocked state) (mode : Mode) (map : String)
    (stable : Bool) : Interlocked (CommandSupervisor.runtimeState state mode map stable) := by
  unfold CommandSupervisor.runtimeState
  exact iteInduction (fun _ => of_disarmed rfl rfl rfl) fun _ => h

theorem dualsense {state : PaddockState} (h : Interlocked state) (active : Bool) :
    Interlocked (transition state (if active then .dualsenseActive else .dualsenseInactive)).state
    := by
  cases active with
  | false => exact ⟨h.leased, nofun, h.goal⟩
  | true =>
    change Interlocked (transition state .dualsenseActive).state
    unfold transition
    dsimp only
    split
    · exact h
    · exact ⟨fun hFree => ⟨(h.leased hFree).1, rfl⟩, fun _ hRun => hRun, h.goal⟩

theorem requestMode {state : PaddockState} (h : Interlocked state) (args : TransitionArgs) :
    Interlocked (transition state .requestMode args).state := by
  unfold transition
  dsimp only
  split
  · exact h
  · rename_i hOwns
    simp only [ownsLease, Bool.not_eq_true', Bool.not_eq_false, Bool.and_eq_true] at hOwns
    exact h.ownerTransition (leaseActive_iff.mp hOwns.1) _ _

theorem move {s : CommandSupervisor} {c : TimedCall} {base next : PaddockState}
    (h : Interlocked base) (hMove : s.Move c base next) : Interlocked next := by
  cases hMove with
  | stays => exact h
  | manualEnds => exact h.manualEnds
  | granted => exact of_leased ‹_› h.blocked h.goal
  | owned m _ hActive => exact h.ownedState hActive m
  | runtime mode map stable => exact h.runtimeState mode map stable
  | requestMode mode requestId leaseId => exact h.requestMode _
  | dualsense active => exact h.dualsense active
  | restart => exact of_disarmed rfl rfl rfl

theorem step {s : CommandSupervisor} (h : Interlocked s.state) (c : TimedCall) :
    Interlocked (s.step c).state := by
  obtain ⟨base, hBase, hMove⟩ := s.step_move c
  refine Interlocked.move ?_ hMove
  rcases hBase with rfl | ⟨_, rfl⟩
  · exact h
  · exact withoutLease _

end Interlocked

end PreRunner.Paddock
