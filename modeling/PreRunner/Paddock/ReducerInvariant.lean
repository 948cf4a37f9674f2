import PreRunner.Runs.Emission
import PreRunner.Paddock.AutonomyPermission

/-!
# The joint invariant of the reducer

`Reduction` lists what one `transition` can do, once for all fourteen events. `Coherent` is the
joint invariant: the stored navigation flag is the derived permission, and RUN, the RUN block,
manual driving, the goal and the lease agree with each other. It holds after every sequence of
reducer steps, and in every state of the supervisor, which also rewrites the state itself when
the runtime mode changes.
-/

namespace PreRunner.Paddock

open PaddockState Runs

/-! ## What one step can do -/

/-- The state after RUN, its block, manual driving and the goal were all given up. -/
def PaddockState.disarmed (state : PaddockState) : PaddockState :=
  { state with
    runHeld := false
    runBlockedUntilRelease := false
    manualActive := false
    goal := none
    navigationActive := false }

/-- The state after RUN was released or braked, with `manual` as the manual flag. -/
def PaddockState.released (state : PaddockState) (manual : Bool) : PaddockState :=
  { state with
    runHeld := false
    runBlockedUntilRelease := false
    manualActive := manual
    navigationActive := false }

/-- The state with a newly selected goal, before navigation is decided. -/
def PaddockState.withGoal (state : PaddockState) (goal : GoalIntent) : PaddockState :=
  { state with goal := some goal, navigationActive := false }

/-- The state with RUN pressed, before navigation is decided. -/
def PaddockState.withRun (state : PaddockState) : PaddockState :=
  { state with runHeld := true, runBlockedUntilRelease := state.dualsenseActive }

/-- What one reducer step can do. -/
inductive Reduction (state : PaddockState) (event : Event) (args : TransitionArgs) :
    Transition → Prop
  | ignored (requestId : Int) (effects : List Effect)
      (hEffects : effects = [] ∨ effects = [.leaseRejected]) :
      Reduction state event args
        { state := { state with acceptedModeRequestId := requestId }, effects }
  | granted (hFree : state.leaseId = "") (hLease : args.leaseId ≠ "") :
      Reduction state event args
        { state := state.withLease args.clientId args.leaseId, effects := [.leaseGranted] }
  | mode (mode : Mode) (requestId : Int) :
      Reduction state event args
        { state := { state with mode, acceptedModeRequestId := requestId }.disarmed
          effects := stopEffects state }
  | map (map : String) :
      Reduction state event args
        { state := { state with activeAutonomyMap := map }.disarmed
          effects := stopEffects state }
  | leaseEnded :
      Reduction state event args { state := state.withoutLease, effects := stopEffects state }
  | released (manual : Bool) (hManual : manual = true → state.manualActive = true)
      (hLease : state.leaseId ≠ "") :
      Reduction state event args
        { state := state.released manual, effects := stopEffects state }
  | manualTaken (hMode : state.mode ≠ .idle) (hDual : state.dualsenseActive = false)
      (hLease : state.leaseId ≠ "") :
      Reduction state event args
        { state := state.released true
          effects := if state.navigationActive then [.brake, .cancelNavigation] else [] }
  | manualEnded (hEvent : event = .manualInactive) (hManual : state.manualActive = true) :
      Reduction state event args
        { state := { state with manualActive := false }, effects := [.brake] }
  | dualsenseTaken (hDual : state.dualsenseActive = false) :
      Reduction state event args
        { state := { state with
            dualsenseActive := true
            runBlockedUntilRelease := state.runHeld
            manualActive := false
            navigationActive := false }
          effects :=
            if state.authority = .paddockManual ∨ state.authority = .paddockAutonomy then
              stopEffects state
            else [] }
  | dualsenseLeft :
      Reduction state event args { state := { state with dualsenseActive := false } }
  | goalSelected (goal : GoalIntent) (hEvent : event = .selectGoal)
      (hArgs : args.goal = some goal) (hOwns : ownsLease state args.leaseId = true)
      (hMode : state.mode = .autonomy) (hMap : goal.mapName = state.activeAutonomyMap)
      (hName : state.activeAutonomyMap ≠ "") :
      Reduction state event args
        { state := { state.withGoal goal with
            navigationActive := (state.withGoal goal).autonomyPermitted }
          effects := (if state.navigationActive then [.brake, .cancelNavigation] else []) ++
            if (state.withGoal goal).autonomyPermitted then [.dispatchGoal] else [] }
  | runPressed (hEvent : event = .runPress) (hOwns : ownsLease state args.leaseId = true)
      (hHeld : state.runHeld = false) :
      Reduction state event args
        { state := { state.withRun with
            navigationActive := state.withRun.autonomyPermitted || state.navigationActive }
          effects := if state.withRun.autonomyPermitted then [.dispatchGoal] else [] }
  | restarted (hEvent : event = .restart) (map : String) :
      Reduction state event args { state := { activeAutonomyMap := map } }

theorem Reduction.unchanged {state : PaddockState} {event : Event} {args : TransitionArgs} :
    Reduction state event args { state } :=
  .ignored state.acceptedModeRequestId [] (Or.inl rfl)

theorem ownsLease_leased {state : PaddockState} {leaseId : String}
    (h : ownsLease state leaseId = true) : state.leaseId ≠ "" := by
  rw [ownsLease, Bool.and_eq_true] at h
  exact leaseActive_iff.mp h.1

theorem ownerTransition_case {state : PaddockState} {event : Event} {args : TransitionArgs}
    (hOwns : ownsLease state args.leaseId = true) :
    Reduction state event args (ownerTransition state event args) := by
  have hLease := ownsLease_leased hOwns
  unfold ownerTransition
  cases event with
  | requestMode =>
    dsimp only
    split
    · exact .unchanged
    · split
      · exact .unchanged
      · split
        · exact .ignored args.requestId [] (Or.inl rfl)
        · exact .mode _ args.requestId
  | selectGoal =>
    dsimp only
    split
    · exact .unchanged
    · split
      · exact .unchanged
      · rename_i goal hGoal hMap
        simp only [not_or, not_not] at hMap
        have hCase : Reduction state .selectGoal args _ :=
          .goalSelected goal rfl hGoal hOwns hMap.1 hMap.2.2 hMap.2.1
        split
        · rename_i hPermitted
          have hGoal' : (state.withGoal goal).autonomyPermitted = true := hPermitted
          simp only [hGoal', if_true] at hCase
          exact hCase
        · rename_i hPermitted
          have hGoal' : (state.withGoal goal).autonomyPermitted = false :=
            Bool.eq_false_iff.mpr hPermitted
          simp only [hGoal', Bool.false_eq_true, if_false, List.append_nil] at hCase
          exact hCase
  | runPress =>
    dsimp only
    split
    · exact .unchanged
    · rename_i hHeld
      have hCase : Reduction state .runPress args _ :=
        .runPressed rfl hOwns (Bool.eq_false_iff.mpr hHeld)
      split
      · rename_i hPermitted
        have hRun : state.withRun.autonomyPermitted = true := hPermitted
        simp only [hRun, if_true, Bool.true_or] at hCase
        exact hCase
      · rename_i hPermitted
        have hRun : state.withRun.autonomyPermitted = false := Bool.eq_false_iff.mpr hPermitted
        simp only [hRun, Bool.false_eq_true, if_false, Bool.false_or] at hCase
        exact hCase
  | runRelease =>
    dsimp only
    split
    · exact .unchanged
    · exact .released state.manualActive id hLease
  | stop => exact .released false (fun h => by cases h) hLease
  | manualActive =>
    dsimp only
    split
    · exact .unchanged
    · rename_i hEligible
      simp only [Bool.or_eq_true, decide_eq_true_eq, not_or] at hEligible
      exact .manualTaken hEligible.1 (Bool.eq_false_iff.mpr hEligible.2) hLease
  | manualInactive =>
    dsimp only
    split
    · exact .unchanged
    · rename_i hManual
      exact .manualEnded rfl (by simpa using hManual)
  | _ => exact .unchanged

/-- Every step is one of the reductions. -/
theorem transition_case (state : PaddockState) (event : Event) (args : TransitionArgs) :
    Reduction state event args (transition state event args) := by
  unfold transition
  cases event with
  | restart => exact .restarted rfl _
  | setActiveMap =>
    dsimp only
    split
    · exact .unchanged
    · split
      · exact .unchanged
      · rename_i map _ _
        exact @Reduction.map state _ args map
  | acquireLease =>
    dsimp only
    split
    · exact .ignored state.acceptedModeRequestId _ (Or.inr rfl)
    · rename_i hFree
      simp only [Bool.or_eq_true, decide_eq_true_eq, not_or] at hFree
      exact .granted (leaseActive_eq_false_iff.mp (Bool.eq_false_iff.mpr hFree.1.1)) hFree.2
  | releaseLease | loseLease =>
    dsimp only
    split
    · exact .unchanged
    · exact .leaseEnded
  | dualsenseActive =>
    dsimp only
    split
    · exact .unchanged
    · rename_i hDual
      exact .dualsenseTaken (Bool.eq_false_iff.mpr hDual)
  | dualsenseInactive => exact .dualsenseLeft
  | requestMode | selectGoal | runPress | runRelease | stop | manualActive | manualInactive =>
    dsimp only
    split
    · exact .unchanged
    · rename_i hOwns
      exact ownerTransition_case (by simpa using hOwns)

/-! ## The invariant -/

/-- The joint invariant of the Paddock state. -/
structure Coherent (state : PaddockState) : Prop where
  navigation : state.navigationActive = state.autonomyPermitted
  blocked_held : state.runBlockedUntilRelease = true → state.runHeld = true
  dualsense_blocks : state.dualsenseActive = true → state.runHeld = true →
    state.runBlockedUntilRelease = true
  unleased : state.leaseId = "" → state.runHeld = false ∧ state.manualActive = false ∧
    state.goal = none ∧ state.navigationActive = false
  goal : ∀ g, state.goal = some g → state.mode = .autonomy ∧
    g.mapName = state.activeAutonomyMap ∧ g.mapName ≠ ""
  manual : state.manualActive = true → state.dualsenseActive = false ∧ state.mode ≠ .idle

theorem autonomyPermitted_of_not_held {state : PaddockState} (h : state.runHeld = false) :
    state.autonomyPermitted = false := by
  rw [← Bool.not_eq_true, autonomyPermitted_iff, h]
  exact fun hPermitted => by cases hPermitted.2.2.1

theorem autonomyPermitted_of_dualsense {state : PaddockState}
    (h : state.dualsenseActive = true) : state.autonomyPermitted = false := by
  rw [← Bool.not_eq_true, autonomyPermitted_iff, h]
  exact fun hPermitted => by cases hPermitted.2.2.2.2.1

namespace Coherent

/-- RUN released: only the goal and the manual flag are left to check. -/
theorem of_released {state : PaddockState} (hRun : state.runHeld = false)
    (hBlocked : state.runBlockedUntilRelease = false) (hNav : state.navigationActive = false)
    (hUnleased : state.leaseId = "" → state.manualActive = false ∧ state.goal = none)
    (hGoal : ∀ g, state.goal = some g → state.mode = .autonomy ∧
      g.mapName = state.activeAutonomyMap ∧ g.mapName ≠ "")
    (hManual : state.manualActive = true → state.dualsenseActive = false ∧ state.mode ≠ .idle) :
    Coherent state where
  navigation := hNav.trans (autonomyPermitted_of_not_held hRun).symm
  blocked_held h := by rw [hBlocked] at h; cases h
  dualsense_blocks _ h := by rw [hRun] at h; cases h
  unleased h := ⟨hRun, (hUnleased h).1, (hUnleased h).2, hNav⟩
  goal := hGoal
  manual := hManual

theorem of_disarmed {state : PaddockState} (hRun : state.runHeld = false)
    (hBlocked : state.runBlockedUntilRelease = false) (hManual : state.manualActive = false)
    (hGoal : state.goal = none) (hNav : state.navigationActive = false) : Coherent state :=
  of_released hRun hBlocked hNav (fun _ => ⟨hManual, hGoal⟩)
    (fun g h => by rw [hGoal] at h; cases h) (fun h => by rw [hManual] at h; cases h)

theorem disarmed (state : PaddockState) : Coherent state.disarmed :=
  of_disarmed rfl rfl rfl rfl rfl

theorem withoutLease (state : PaddockState) : Coherent state.withoutLease :=
  of_disarmed rfl rfl rfl rfl rfl

variable {state : PaddockState}

theorem released (h : Coherent state) (hLease : state.leaseId ≠ "") {manual : Bool}
    (hManual : manual = true → state.dualsenseActive = false ∧ state.mode ≠ .idle) :
    Coherent (state.released manual) :=
  of_released rfl rfl rfl (fun hFree => absurd hFree hLease) h.goal hManual

theorem manualEnded (h : Coherent state) : Coherent { state with manualActive := false } where
  navigation := h.navigation
  blocked_held := h.blocked_held
  dualsense_blocks := h.dualsense_blocks
  unleased hFree := ⟨(h.unleased hFree).1, rfl, (h.unleased hFree).2.2⟩
  goal := h.goal
  manual hFalse := by cases hFalse

/-- A new lease finds RUN released, so nothing becomes permitted. -/
theorem granted (h : Coherent state) (hFree : state.leaseId = "") {clientId leaseId : String}
    (hLease : leaseId ≠ "") : Coherent (state.withLease clientId leaseId) where
  navigation := (h.unleased hFree).2.2.2.trans
    (@autonomyPermitted_of_not_held (state.withLease clientId leaseId) (h.unleased hFree).1).symm
  blocked_held := h.blocked_held
  dualsense_blocks := h.dualsense_blocks
  unleased hEmpty := absurd hEmpty hLease
  goal := h.goal
  manual := h.manual

theorem dualsenseTaken (h : Coherent state) :
    Coherent { state with
      dualsenseActive := true
      runBlockedUntilRelease := state.runHeld
      manualActive := false
      navigationActive := false } where
  navigation := (@autonomyPermitted_of_dualsense { state with
      dualsenseActive := true
      runBlockedUntilRelease := state.runHeld
      manualActive := false
      navigationActive := false } rfl).symm
  blocked_held := id
  dualsense_blocks _ := id
  unleased hFree := ⟨(h.unleased hFree).1, rfl, (h.unleased hFree).2.2.1, rfl⟩
  goal := h.goal
  manual hFalse := by cases hFalse

/-- When the DualSense lets go, a RUN it found held stays blocked. -/
theorem dualsenseLeft (h : Coherent state) :
    Coherent { state with dualsenseActive := false } where
  navigation := by
    cases hDual : state.dualsenseActive with
    | false =>
      refine h.navigation.trans ?_
      rw [autonomyPermitted, autonomyPermitted, hDual]
      rfl
    | true =>
      have hNone : state.navigationActive = false :=
        h.navigation.trans (autonomyPermitted_of_dualsense hDual)
      refine hNone.trans (Eq.symm ?_)
      rw [← Bool.not_eq_true, autonomyPermitted_iff]
      rintro ⟨-, -, hHeld, hFree, -⟩
      rw [h.dualsense_blocks hDual hHeld] at hFree
      cases hFree
  blocked_held := h.blocked_held
  dualsense_blocks hFalse := by cases hFalse
  unleased := h.unleased
  goal := h.goal
  manual hManual := ⟨rfl, (h.manual hManual).2⟩

theorem goalSelected (h : Coherent state) (hLease : state.leaseId ≠ "")
    (hMode : state.mode = .autonomy) {goal : GoalIntent}
    (hMap : goal.mapName = state.activeAutonomyMap) (hName : state.activeAutonomyMap ≠ "") :
    Coherent { state.withGoal goal with
      navigationActive := (state.withGoal goal).autonomyPermitted } where
  navigation := rfl
  blocked_held := h.blocked_held
  dualsense_blocks := h.dualsense_blocks
  unleased hFree := absurd hFree hLease
  goal := by
    rintro g ⟨rfl⟩
    exact ⟨hMode, hMap, hMap ▸ hName⟩
  manual := h.manual

theorem runPressed (h : Coherent state) (hLease : state.leaseId ≠ "")
    (hHeld : state.runHeld = false) :
    Coherent { state.withRun with
      navigationActive := state.withRun.autonomyPermitted || state.navigationActive } where
  navigation := by
    have hNone : state.navigationActive = false :=
      h.navigation.trans (autonomyPermitted_of_not_held hHeld)
    rw [hNone, Bool.or_false]
    rfl
  blocked_held _ := rfl
  dualsense_blocks hDual _ := hDual
  unleased hFree := absurd hFree hLease
  goal := h.goal
  manual := h.manual

/-- Every reduction keeps the invariant. -/
theorem reduction (h : Coherent state) {event : Event} {args : TransitionArgs} {next : Transition}
    (hCase : Reduction state event args next) : Coherent next.state := by
  cases hCase with
  | ignored requestId effects =>
    exact ⟨h.navigation, h.blocked_held, h.dualsense_blocks, h.unleased, h.goal, h.manual⟩
  | granted hFree hLease => exact h.granted hFree hLease
  | mode mode requestId => exact disarmed _
  | map map => exact disarmed _
  | leaseEnded => exact withoutLease state
  | released manual hManual hLease => exact h.released hLease fun hTrue => h.manual (hManual hTrue)
  | manualTaken hMode hDual hLease => exact h.released hLease fun _ => ⟨hDual, hMode⟩
  | manualEnded => exact h.manualEnded
  | dualsenseTaken => exact h.dualsenseTaken
  | dualsenseLeft => exact h.dualsenseLeft
  | goalSelected goal _ _ hOwns hMode hMap hName =>
    exact h.goalSelected (ownsLease_leased hOwns) hMode hMap hName
  | runPressed _ hOwns hHeld => exact h.runPressed (ownsLease_leased hOwns) hHeld
  | restarted _ map => exact of_disarmed rfl rfl rfl rfl rfl

theorem transition (h : Coherent state) (event : Event) (args : TransitionArgs) :
    Coherent (transition state event args).state :=
  h.reduction (transition_case state event args)

/-! ## The supervisor -/

theorem ownerTransition (h : Coherent state) (hLease : state.leaseId ≠ "") (event : Event)
    (args : TransitionArgs) : Coherent (ownerTransition state event args).state := by
  have hOwns : ownsLease state state.leaseId = true := by
    rw [ownsLease, leaseActive_iff.mpr hLease]
    simp
  have hSame : Paddock.ownerTransition state event args =
      Paddock.ownerTransition state event { args with leaseId := state.leaseId } := by
    cases event <;> rfl
  rw [hSame]
  exact h.reduction (ownerTransition_case hOwns)

theorem ownedState (h : Coherent state) (hLease : state.leaseId ≠ "") (m : ControlMessage) :
    Coherent (ownedState state m) := by
  unfold Paddock.ownedState
  cases m.event with
  | heartbeat | leaseAcquired => exact h
  | leaseReleased | leaseLost => exact withoutLease state
  | goalSelected =>
    dsimp only
    split
    · exact h.ownerTransition hLease _ _
    · exact h
  | manualActive =>
    dsimp only
    split
    · exact h.ownerTransition hLease _ _
    · exact (h.ownerTransition hLease _ _).manualEnded
  | clearStop | stop | runPressed | runReleased | manualInactive =>
    exact h.ownerTransition hLease _ _

/-- `set_runtime_mode` rewrites the state outside the reducer. -/
theorem runtimeState (h : Coherent state) (mode : Mode) (map : String) (stable : Bool) :
    Coherent (CommandSupervisor.runtimeState state mode map stable) := by
  unfold CommandSupervisor.runtimeState
  exact iteInduction (fun _ => of_disarmed rfl rfl rfl rfl rfl) fun _ => h

theorem move {s : CommandSupervisor} {c : TimedCall} {base next : PaddockState}
    (h : Coherent base) (hMove : s.Move c base next) : Coherent next := by
  cases hMove with
  | stays => exact h
  | manualEnds => exact h.manualEnded
  | granted m _ hFree _ hLease => exact h.granted hFree hLease
  | owned m _ hActive => exact h.ownedState hActive m
  | runtime mode map stable => exact h.runtimeState mode map stable
  | requestMode mode requestId leaseId => exact h.transition _ _
  | dualsense active => exact h.transition _ _
  | restart => exact of_disarmed rfl rfl rfl rfl rfl

theorem step {s : CommandSupervisor} (h : Coherent s.state) (c : TimedCall) :
    Coherent (s.step c).state := by
  obtain ⟨base, hBase, hMove⟩ := s.step_move c
  refine Coherent.move ?_ hMove
  rcases hBase with rfl | ⟨_, rfl⟩
  · exact h
  · exact withoutLease _

end Coherent

/-! ## Every reachable state -/

/-- One reducer call with its keyword arguments. -/
abbrev ReducerCall := Event × TransitionArgs

/-- The reducer as a machine that emits effects. -/
def reduce (state : PaddockState) (call : ReducerCall) : PaddockState × List Effect :=
  ((transition state call.1 call.2).state, (transition state call.1 call.2).effects)

/-- The state after a sequence of reducer calls, latest call first. -/
def reduced (past : List ReducerCall) : PaddockState := after (advance reduce) {} past

theorem coherent_reduced (past : List ReducerCall) : Coherent (reduced past) :=
  after_invariant (Coherent.of_disarmed rfl rfl rfl rfl rfl)
    (fun _ call h => h.transition call.1 call.2) past

/-- The invariant holds after all sequences of reducer calls, and in every state of a supervisor.
`coherent_reduced` is the result about the reducer; a supervisor starts disarmed, and
`Coherent.step` carries the invariant through its calls. -/
theorem coherent_reachable {lease raw : PyFloat} {liveness : Option PyFloat}
    {manual speed : PyFloat} {floor : ℚ} {map : String} {init : CommandSupervisor}
    (hInit : CommandSupervisor.init lease raw liveness manual speed floor map = .ok init) :
    (∀ past, Coherent (reduced past)) ∧
      ∀ past, Coherent (after CommandSupervisor.step init past).state := by
  refine ⟨coherent_reduced, ?_⟩
  refine @after_invariant _ _ CommandSupervisor.step init (fun s => Coherent s.state) ?_ ?_
  · rw [CommandSupervisor.init_state hInit]
    exact Coherent.of_disarmed rfl rfl rfl rfl rfl
  · exact fun _ c h => h.step c

theorem coherent_reachable_default :
    (∀ past, Coherent (reduced past)) ∧
      ∀ past, Coherent (after CommandSupervisor.step
        (CommandSupervisor.defaultSupervisor "m") past).state :=
  coherent_reachable (CommandSupervisor.init_default "m")

end PreRunner.Paddock
