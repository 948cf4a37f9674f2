import PreRunner.Paddock.Interlock

/-!
# The navigation flag of the supervisor

`navigation_active` holds only with the complete interlock, and the goal it is about is finite
(`NavigationHeld`). A call under an unchanged runtime keeps this; while the flag stays up only an
accepted selection changes the goal (`goal_step`). Every result shows the state its call leaves
behind (`perform_snapshot`).
-/

namespace PreRunner.Paddock

open PaddockState

/-! ## What a supervisor call does to the navigation flag -/

/-- The navigation flag holds only with the interlock, and a goal is finite. -/
structure NavigationHeld (state : PaddockState) : Prop where
  permitted : state.navigationActive = true → state.autonomyPermitted = true
  finite : ∀ goal, state.goal = some goal →
    goal.x.isfinite = true ∧ goal.y.isfinite = true ∧ goal.yaw.isfinite = true

/-- The goal a message selects. -/
def ControlMessage.goal (m : ControlMessage) (map : String) : GoalIntent :=
  ⟨map, m.goalX, m.goalY, m.goalYaw⟩

/-- A move that keeps the map and the interlock; while the flag stays up the goal is kept, or an
accepted selection replaces it. -/
structure KeepsNavigation (m? : Option ControlMessage) (state next : PaddockState) : Prop where
  held : NavigationHeld next
  map : next.activeAutonomyMap = state.activeAutonomyMap
  goal : next.navigationActive = true → next.goal = state.goal ∨ ∃ m, m? = some m ∧
    m.event = .goalSelected ∧ [m.goalX, m.goalY, m.goalYaw].all PyFloat.isfinite = true ∧
    next.goal = some (m.goal state.activeAutonomyMap)

namespace NavigationHeld

variable {state : PaddockState} {m? : Option ControlMessage}

theorem stays (h : NavigationHeld state) : KeepsNavigation m? state state :=
  ⟨h, rfl, fun _ => Or.inl rfl⟩

/-- Lowering the flag keeps the interlock. -/
theorem lowered (h : NavigationHeld state) {next : PaddockState}
    (hNav : next.navigationActive = false) (hMap : next.activeAutonomyMap = state.activeAutonomyMap)
    (hGoal : next.goal = state.goal ∨ next.goal = none) : KeepsNavigation m? state next := by
  refine ⟨⟨fun hNext => ?_, fun goal hNext => ?_⟩, hMap, fun hNext => ?_⟩
  · rw [hNav] at hNext
    cases hNext
  · rcases hGoal with hGoal | hGoal
    · exact h.finite goal (hGoal ▸ hNext)
    · rw [hGoal] at hNext
      cases hNext
  · rw [hNav] at hNext
    cases hNext

/-- Moves of fields that neither the interlock nor the goal reads. -/
theorem unread (h : NavigationHeld state) {next : PaddockState}
    (hNav : next.navigationActive = state.navigationActive)
    (hPermitted : state.navigationActive = true → state.autonomyPermitted = true →
      next.autonomyPermitted = true)
    (hMap : next.activeAutonomyMap = state.activeAutonomyMap) (hGoal : next.goal = state.goal) :
    KeepsNavigation m? state next :=
  ⟨⟨fun hNext => hPermitted (hNav ▸ hNext) (h.permitted (hNav ▸ hNext)),
    fun goal hNext => h.finite goal (hGoal ▸ hNext)⟩, hMap, fun _ => Or.inl hGoal⟩

theorem selectGoal (h : NavigationHeld state) (m : ControlMessage)
    (hEvent : m.event = .goalSelected)
    (hFinite : [m.goalX, m.goalY, m.goalYaw].all PyFloat.isfinite = true) :
    KeepsNavigation (some m) state (ownerTransition state .selectGoal
      { goal := some (m.goal state.activeAutonomyMap) }).state := by
  have hGoal : ∀ goal, some (m.goal state.activeAutonomyMap) = some goal →
      goal.x.isfinite = true ∧ goal.y.isfinite = true ∧ goal.yaw.isfinite = true := by
    rintro goal ⟨rfl⟩
    simpa [ControlMessage.goal] using hFinite
  unfold ownerTransition
  dsimp only
  split
  · exact h.stays
  · split
    · rename_i hPermitted
      exact ⟨⟨fun _ => hPermitted, hGoal⟩, rfl, fun _ => Or.inr ⟨m, rfl, hEvent, hFinite, rfl⟩⟩
    · exact ⟨⟨nofun, hGoal⟩, rfl, nofun⟩

theorem runPress (h : NavigationHeld state) :
    KeepsNavigation m? state (ownerTransition state .runPress {}).state := by
  unfold ownerTransition
  dsimp only
  split
  · exact h.stays
  · rename_i hReleased
    split
    · rename_i hPermitted
      exact ⟨⟨fun _ => hPermitted, h.finite⟩, rfl, fun _ => Or.inl rfl⟩
    · refine h.unread rfl (fun _ hPermitted => ?_) rfl rfl
      exact absurd (autonomyPermitted_iff.mp hPermitted).2.2.1 hReleased

theorem manualEnds (h : NavigationHeld state) :
    KeepsNavigation m? state { state with manualActive := false } :=
  h.unread rfl (fun _ hPermitted => hPermitted) rfl rfl

theorem ownedState (h : NavigationHeld state) (m : ControlMessage) :
    KeepsNavigation (some m) state (ownedState state m) := by
  unfold Paddock.ownedState
  cases hEvent : m.event with
  | heartbeat | leaseAcquired => exact h.stays
  | clearStop | stop => exact h.lowered rfl rfl (Or.inl rfl)
  | leaseReleased | leaseLost => exact h.lowered rfl rfl (Or.inr rfl)
  | goalSelected =>
    dsimp only
    split
    · rename_i hFinite
      exact h.selectGoal m hEvent hFinite
    · exact h.stays
  | runPressed => exact h.runPress
  | runReleased =>
    dsimp only
    unfold ownerTransition
    dsimp only
    split
    · exact h.stays
    · exact h.lowered rfl rfl (Or.inl rfl)
  | manualActive =>
    dsimp only
    unfold ownerTransition
    dsimp only
    split
    · split
      · exact h.stays
      · exact h.lowered rfl rfl (Or.inl rfl)
    · split
      · exact h.manualEnds
      · exact h.lowered rfl rfl (Or.inl rfl)
  | manualInactive =>
    dsimp only
    rw [ownerTransition_manualInactive]
    exact h.manualEnds

theorem withoutLease (h : NavigationHeld state) : KeepsNavigation m? state state.withoutLease :=
  h.lowered rfl rfl (Or.inr rfl)

end NavigationHeld

/-- A call of the node on its supervisor under an unchanged runtime. -/
def Call.keepsRuntime : Call → Bool
  | .setRuntimeMode .. | .requestMode .. | .restart => false
  | _ => true

/-- The control event of a call. -/
def Call.message? : Call → Option ControlMessage
  | .handleControlEvent m => some m
  | _ => none

namespace CommandSupervisor

variable {s : CommandSupervisor} {c : TimedCall} {base next : PaddockState}

theorem move_keepsNavigation (hHeld : NavigationHeld base) (hMove : s.Move c base next)
    (hKeeps : c.call.keepsRuntime = true) : KeepsNavigation c.call.message? base next := by
  cases hMove with
  | stays => exact hHeld.stays
  | manualEnds => exact hHeld.manualEnds
  | granted m _ hFree =>
    refine hHeld.lowered ?_ rfl (Or.inl rfl)
    cases hNav : base.navigationActive with
    | false => exact hNav
    | true => exact absurd hFree (autonomyPermitted_iff.mp (hHeld.permitted hNav)).2.1
  | owned m hCall =>
    rw [hCall]
    exact hHeld.ownedState m
  | runtime mode map stable hCall =>
    rw [hCall] at hKeeps
    cases hKeeps
  | requestMode mode requestId leaseId hCall =>
    rw [hCall] at hKeeps
    cases hKeeps
  | dualsense active =>
    cases active with
    | false =>
      refine hHeld.unread rfl (fun _ hPermitted => ?_) rfl rfl
      rw [autonomyPermitted_iff] at hPermitted ⊢
      exact ⟨hPermitted.1, hPermitted.2.1, hPermitted.2.2.1, hPermitted.2.2.2.1, rfl,
        hPermitted.2.2.2.2.2⟩
    | true =>
      change KeepsNavigation _ base (transition base .dualsenseActive).state
      unfold transition
      dsimp only
      split
      · exact hHeld.stays
      · exact hHeld.lowered rfl rfl (Or.inl rfl)
  | restart hCall =>
    rw [hCall] at hKeeps
    cases hKeeps

/-- Without a lease the flag does not rise. -/
theorem move_lowered (hMove : s.Move c base next) (hKeeps : c.call.keepsRuntime = true)
    (hFree : base.leaseId = "") (hNav : base.navigationActive = false) :
    next.navigationActive = false := by
  cases hMove with
  | stays | manualEnds | granted => exact hNav
  | owned m _ hActive => exact absurd hFree hActive
  | runtime mode map stable hCall =>
    rw [hCall] at hKeeps
    cases hKeeps
  | requestMode mode requestId leaseId hCall =>
    rw [hCall] at hKeeps
    cases hKeeps
  | dualsense active =>
    cases active with
    | false => exact hNav
    | true =>
      change (transition base .dualsenseActive).state.navigationActive = false
      unfold transition
      dsimp only
      split
      · exact hNav
      · rfl
  | restart => rfl

theorem step_keepsNavigation (hHeld : NavigationHeld s.state)
    (hKeeps : c.call.keepsRuntime = true) :
    KeepsNavigation c.call.message? s.state (s.step c).state := by
  obtain ⟨base, hBase, hMove⟩ := s.step_move c
  rcases hBase with rfl | ⟨_, rfl⟩
  · exact move_keepsNavigation hHeld hMove hKeeps
  · have hDropped : KeepsNavigation c.call.message? s.state s.state.withoutLease :=
      hHeld.withoutLease
    have hMoved := move_keepsNavigation hDropped.held hMove hKeeps
    refine ⟨hMoved.held, hMoved.map, fun hNav => ?_⟩
    rw [move_lowered hMove hKeeps rfl rfl] at hNav
    cases hNav

/-- A selection of a finite goal is accepted, or the event is refused before it is reduced. -/
theorem accepted_goalSelected (s : CommandSupervisor) {m : ControlMessage} (now : ℚ)
    (hEvent : m.event = .goalSelected)
    (hFinite : [m.goalX, m.goalY, m.goalYaw].all PyFloat.isfinite = true) :
    (s.handleControlEvent m now).2.accepted = true ∨
      (s.handleControlEvent m now).1.state = (s.expireLease now).state := by
  have hCase := handleControlEvent_case s m now
  generalize s.handleControlEvent m now = out at hCase
  cases hCase with
  | refused => exact Or.inr rfl
  | granted _ _ _ _ hGrant =>
    rw [hEvent] at hGrant
    rcases hGrant with ⟨hGrant, _⟩ | ⟨hGrant, _⟩ <;> cases hGrant
  | owned =>
    refine Or.inl ?_
    unfold handleOwnedEvent
    rw [hEvent]
    dsimp only
    rw [if_pos hFinite]
    rfl

/-- While the flag stays up, only an accepted selection changes the goal. -/
theorem goal_step (hHeld : NavigationHeld s.state) (hKeeps : c.call.keepsRuntime = true)
    (hNav : (s.step c).state.navigationActive = true) :
    (s.step c).state.goal = s.state.goal ∨ ∃ m, c.call = .handleControlEvent m ∧
      m.event = .goalSelected ∧ (s.handleControlEvent m c.now).2.accepted = true ∧
      (s.step c).state.goal = some (m.goal s.state.activeAutonomyMap) := by
  rcases (step_keepsNavigation hHeld hKeeps).goal hNav with hSame |
    ⟨m, hMessage, hEvent, hFinite, hGoal⟩
  · exact Or.inl hSame
  obtain ⟨call, now⟩ := c
  cases call with
  | handleControlEvent message =>
    obtain rfl : message = m := Option.some.inj hMessage
    change (s.handleControlEvent message now).1.state.navigationActive = true at hNav
    rcases accepted_goalSelected s now hEvent hFinite with hAccepted | hRefused
    · exact Or.inr ⟨message, rfl, hEvent, hAccepted, hGoal⟩
    · refine Or.inl ?_
      change (s.handleControlEvent message now).1.state.goal = _
      rw [hRefused] at hNav ⊢
      rw [expireLease_eq] at hNav ⊢
      split
      · rename_i hExpires
        rw [if_pos hExpires] at hNav
        cases hNav
      · rfl
  | _ => cases hMessage

/-! ### Snapshots -/

/-- A result shows the supervisor it leaves behind. -/
def Shows (next : CommandSupervisor) (now : ℚ) (result : SupervisorResult) : Prop :=
  ∃ reason, result.snapshot = next.snapshot now reason

theorem handleOwnedEvent_shows (s : CommandSupervisor) (m : ControlMessage) (now : ℚ) :
    Shows (s.handleOwnedEvent m now).1 now (s.handleOwnedEvent m now).2 := by
  unfold handleOwnedEvent
  cases m.event with
  | goalSelected =>
    dsimp only
    split <;> exact ⟨_, rfl⟩
  | manualActive =>
    dsimp only
    unfold acceptManual
    split
    · split <;> exact ⟨_, rfl⟩
    · exact ⟨_, rfl⟩
  | _ => exact ⟨_, rfl⟩

theorem handleControlEvent_shows (s : CommandSupervisor) (m : ControlMessage) (now : ℚ) :
    Shows (s.handleControlEvent m now).1 now (s.handleControlEvent m now).2 := by
  have hCase := handleControlEvent_case s m now
  generalize s.handleControlEvent m now = out at hCase
  cases hCase with
  | refused | granted => exact ⟨_, rfl⟩
  | owned => exact handleOwnedEvent_shows _ m now

theorem result_shows {s : CommandSupervisor} {c : TimedCall} {r : SupervisorResult}
    (h : s.result c = some r) : Shows (s.step c) c.now r := by
  obtain ⟨call, now⟩ := c
  cases call with
  | handleControlEvent m =>
    cases h
    exact handleControlEvent_shows s m now
  | receiveRawAutonomy command =>
    cases h
    change Shows (s.receiveRawAutonomy command now).1 now (s.receiveRawAutonomy command now).2
    unfold receiveRawAutonomy
    dsimp only
    split
    · exact ⟨_, rfl⟩
    · split <;> exact ⟨_, rfl⟩
  | receiveRawManual command sequence =>
    cases h
    change Shows (s.receiveRawManual command sequence now).1 now
      (s.receiveRawManual command sequence now).2
    unfold receiveRawManual
    dsimp only
    split
    · exact ⟨_, rfl⟩
    · split <;> exact ⟨_, rfl⟩
  | setManualMaxSpeedMps value => cases h
  | _ =>
    cases h
    exact ⟨_, rfl⟩

theorem result_snapshot {s : CommandSupervisor} {c : TimedCall} {r : SupervisorResult}
    (h : s.result c = some r) : r.snapshot.state = (s.step c).state := by
  obtain ⟨reason, hShows⟩ := result_shows h
  rw [hShows]
  rfl

/-- A result shows the state the call leaves behind; a call without a result leaves it as it
was. -/
theorem perform_snapshot (s : CommandSupervisor) (c : TimedCall) :
    match (s.perform c).2 with
    | some result => result.snapshot.state = (s.step c).state
    | none => (s.step c).state = s.state := by
  split
  · rename_i result hResult
    exact result_snapshot hResult
  · rename_i hResult
    obtain ⟨call, now⟩ := c
    cases call with
    | setManualMaxSpeedMps value =>
      change ((s.setManualMaxSpeedMps value).getD s).state = s.state
      unfold setManualMaxSpeedMps
      split <;> rfl
    | _ => cases hResult

end CommandSupervisor

end PreRunner.Paddock
