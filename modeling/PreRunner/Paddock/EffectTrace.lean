import PreRunner.Paddock.ReducerInvariant

/-!
# Effect traces and the exclusion of manual driving

Over a run without a restart the reducer asks for goals and cancellations in strict alternation,
brakes before every cancellation, and brakes whenever Paddock control ends or changes hands.
Manual driving excludes navigation except through two orders of events: RUN pressed with a goal
stored, or a goal selected with RUN held, while manual driving is active.
-/

namespace PreRunner.Paddock

open PaddockState Runs

/-! ## Alternation -/

/-- A dispatched goal is outstanding until navigation is cancelled. -/
def outstanding (dispatched : Bool) : Effect → Bool
  | .dispatchGoal => true
  | .cancelNavigation => false
  | _ => dispatched

/-- A goal is dispatched only when none is outstanding, and only an outstanding one is
cancelled. -/
def Alternates (dispatched : Bool) (effect : Effect) : Prop :=
  (effect = .dispatchGoal → dispatched = false) ∧
    (effect = .cancelNavigation → dispatched = true)

/-- Every cancellation comes right after a brake. -/
def BrakesFirst (effects : List Effect) : Prop :=
  ∀ before later, effects = before ++ .cancelNavigation :: later →
    ∃ earlier, before = earlier ++ [.brake]

/-- The effects of one step, for a navigation flag before and after it. -/
structure Orderly (navigation : Bool) (effects : List Effect) (next : Bool) : Prop where
  alternates : Throughout outstanding Alternates navigation effects
  outstanding : effects.foldl outstanding navigation = next
  brakesFirst : BrakesFirst effects

theorem brakesFirst_of_not_mem {effects : List Effect} (h : .cancelNavigation ∉ effects) :
    BrakesFirst effects := by
  intro before later hEffects
  exact absurd (hEffects ▸ List.mem_append_right before List.mem_cons_self) h

theorem brakesFirst_cancel : BrakesFirst [.brake, .cancelNavigation] := by
  intro before later hEffects
  match before with
  | [] => cases hEffects
  | [first] =>
    obtain ⟨rfl, -⟩ := List.cons.inj hEffects
    exact ⟨[], rfl⟩
  | first :: second :: before =>
    have hTail := (List.cons.inj (List.cons.inj hEffects).2).2
    exact absurd hTail (by simp)

theorem BrakesFirst.append {first rest : List Effect} (hFirst : BrakesFirst first)
    (hRest : BrakesFirst rest) : BrakesFirst (first ++ rest) := by
  intro before later hEffects
  rcases List.append_eq_append_iff.mp hEffects with ⟨middle, rfl, hMiddle⟩ | ⟨middle, rfl, hMiddle⟩
  · obtain ⟨earlier, rfl⟩ := hRest middle later hMiddle
    exact ⟨first ++ earlier, (List.append_assoc _ _ _).symm⟩
  · cases middle with
    | nil =>
      obtain ⟨earlier, hNil⟩ := hRest [] later hMiddle.symm
      exact absurd hNil (by simp)
    | cons effect middle =>
      obtain ⟨rfl, -⟩ := List.cons.inj hMiddle
      exact hFirst before middle rfl

theorem Orderly.append {navigation between next : Bool} {first rest : List Effect}
    (hFirst : Orderly navigation first between) (hRest : Orderly between rest next) :
    Orderly navigation (first ++ rest) next where
  alternates := throughout_append.mpr
    ⟨hFirst.alternates, hFirst.outstanding.symm ▸ hRest.alternates⟩
  outstanding := by rw [List.foldl_append, hFirst.outstanding, hRest.outstanding]
  brakesFirst := hFirst.brakesFirst.append hRest.brakesFirst

theorem orderly_quiet {navigation : Bool} {effects : List Effect}
    (h : effects = [] ∨ effects = [.leaseRejected] ∨ effects = [.leaseGranted] ∨
      effects = [.brake]) : Orderly navigation effects navigation := by
  rcases h with rfl | rfl | rfl | rfl
  · exact ⟨trivial, rfl, brakesFirst_of_not_mem (by decide)⟩
  all_goals exact ⟨⟨⟨nofun, nofun⟩, trivial⟩, rfl, brakesFirst_of_not_mem (by decide)⟩

theorem orderly_cancel (navigation : Bool) :
    Orderly navigation (if navigation then [.brake, .cancelNavigation] else []) false := by
  cases navigation with
  | false => exact orderly_quiet (Or.inl rfl)
  | true => exact ⟨⟨⟨nofun, nofun⟩, ⟨nofun, fun _ => rfl⟩, trivial⟩, rfl, brakesFirst_cancel⟩

theorem orderly_dispatch (permitted : Bool) :
    Orderly false (if permitted then [.dispatchGoal] else []) permitted := by
  cases permitted with
  | false => exact orderly_quiet (Or.inl rfl)
  | true => exact ⟨⟨⟨fun _ => rfl, nofun⟩, trivial⟩, rfl, brakesFirst_of_not_mem (by decide)⟩

theorem orderly_stopEffects (state : PaddockState) :
    Orderly state.navigationActive (stopEffects state) false := by
  unfold stopEffects
  cases state.navigationActive with
  | false => exact orderly_quiet (Or.inr (Or.inr (Or.inr rfl)))
  | true => exact orderly_cancel true

/-! ## One step -/

variable {state : PaddockState} {event : Event} {args : TransitionArgs} {next : Transition}

/-- Active navigation is under Paddock control. -/
theorem Coherent.authority_of_navigation (h : Coherent state)
    (hNav : state.navigationActive = true) :
    state.authority = .paddockManual ∨ state.authority = .paddockAutonomy := by
  have hPermitted : state.autonomyPermitted = true := h.navigation.symm.trans hNav
  obtain ⟨hMode, hLease, -, -, hDual, -⟩ := autonomyPermitted_iff.mp hPermitted
  cases hManual : state.manualActive with
  | true =>
    refine Or.inl (authority_eq_paddockManual_iff.mpr ⟨?_, hDual, hLease, hManual⟩)
    rw [hMode]
    decide
  | false => exact Or.inr (authority_eq_paddockAutonomy_iff.mpr ⟨hPermitted, hManual⟩)

/-- The effects of every step but a restart are orderly. -/
theorem Reduction.orderly (h : Coherent state) (hRestart : event ≠ .restart)
    (hCase : Reduction state event args next) :
    Orderly state.navigationActive next.effects next.state.navigationActive := by
  cases hCase with
  | ignored requestId effects hEffects =>
    rcases hEffects with rfl | rfl
    · exact orderly_quiet (Or.inl rfl)
    · exact orderly_quiet (Or.inr (Or.inl rfl))
  | granted => exact orderly_quiet (Or.inr (Or.inr (Or.inl rfl)))
  | mode | map | leaseEnded | released => exact orderly_stopEffects state
  | manualTaken => exact orderly_cancel _
  | manualEnded => exact orderly_quiet (Or.inr (Or.inr (Or.inr rfl)))
  | dualsenseTaken =>
    dsimp only
    split
    · exact orderly_stopEffects state
    · rename_i hAuthority
      have hNone : state.navigationActive = false :=
        Bool.eq_false_iff.mpr fun hNav => hAuthority (h.authority_of_navigation hNav)
      rw [hNone]
      exact orderly_quiet (Or.inl rfl)
  | dualsenseLeft => exact orderly_quiet (Or.inl rfl)
  | goalSelected => exact (orderly_cancel _).append (orderly_dispatch _)
  | runPressed _ _ hHeld =>
    have hNone : state.navigationActive = false :=
      h.navigation.trans (autonomyPermitted_of_not_held hHeld)
    rw [hNone]
    dsimp only
    rw [Bool.or_false]
    exact orderly_dispatch _
  | restarted hEvent => exact absurd hEvent hRestart

/-- Paddock control without navigation is manual control. -/
theorem Coherent.manual_of_idle_navigation (h : Coherent state)
    (hNav : state.navigationActive = false)
    (hPaddock : state.authority = .paddockManual ∨ state.authority = .paddockAutonomy) :
    state.authority = .paddockManual := by
  refine hPaddock.resolve_right fun hAutonomy => ?_
  rw [h.navigation, (authority_eq_paddockAutonomy_iff.mp hAutonomy).1] at hNav
  cases hNav

/-- Manual control depends on four fields only. -/
theorem manual_of_same {other : PaddockState} (h : state.authority = .paddockManual)
    (hMode : other.mode = state.mode) (hDual : other.dualsenseActive = state.dualsenseActive)
    (hLease : other.leaseId = state.leaseId) (hManual : other.manualActive = state.manualActive) :
    other.authority = .paddockManual := by
  rw [authority_eq_paddockManual_iff, hMode, hDual, hLease, hManual]
  exact authority_eq_paddockManual_iff.mp h

/-- A step that takes Paddock control away, or hands it over, brakes. -/
theorem Reduction.brakes (h : Coherent state) (hRestart : event ≠ .restart)
    (hCase : Reduction state event args next)
    (hPaddock : state.authority = .paddockManual ∨ state.authority = .paddockAutonomy)
    (hChange : next.state.authority ≠ state.authority) : .brake ∈ next.effects := by
  have hStop : Effect.brake ∈ stopEffects state := by
    unfold stopEffects
    split <;> exact List.mem_cons_self
  have hLeased : state.leaseId ≠ "" := by
    rcases hPaddock with hManual | hAutonomy
    · exact (authority_eq_paddockManual_iff.mp hManual).2.2.1
    · exact (autonomyPermitted_iff.mp (authority_eq_paddockAutonomy_iff.mp hAutonomy).1).2.1
  have hKeeps : state.navigationActive = false → next.state.mode = state.mode →
      next.state.dualsenseActive = state.dualsenseActive →
      next.state.leaseId = state.leaseId → next.state.manualActive = state.manualActive →
      False := by
    intro hNav hMode hDual hLease hManual
    have hNow := h.manual_of_idle_navigation hNav hPaddock
    exact hChange ((manual_of_same hNow hMode hDual hLease hManual).trans hNow.symm)
  cases hCase with
  | ignored => exact absurd rfl hChange
  | granted hFree => exact absurd hFree hLeased
  | mode | map | leaseEnded | released => exact hStop
  | manualTaken =>
    cases hNav : state.navigationActive with
    | true => exact List.mem_cons_self
    | false =>
      have hManual := authority_eq_paddockManual_iff.mp (h.manual_of_idle_navigation hNav hPaddock)
      exact (hKeeps hNav rfl rfl rfl hManual.2.2.2.symm).elim
  | manualEnded => exact List.mem_cons_self
  | dualsenseTaken =>
    dsimp only
    rw [if_pos hPaddock]
    exact hStop
  | dualsenseLeft =>
    have hDual : state.dualsenseActive = false := by
      rcases hPaddock with hManual | hAutonomy
      · exact (authority_eq_paddockManual_iff.mp hManual).2.1
      · exact (autonomyPermitted_iff.mp
          (authority_eq_paddockAutonomy_iff.mp hAutonomy).1).2.2.2.2.1
    refine absurd ?_ hChange
    rw [← hDual]
  | goalSelected =>
    cases hNav : state.navigationActive with
    | true => exact List.mem_append_left _ List.mem_cons_self
    | false => exact (hKeeps hNav rfl rfl rfl rfl).elim
  | runPressed _ _ hHeld =>
    have hNav : state.navigationActive = false :=
      h.navigation.trans (autonomyPermitted_of_not_held hHeld)
    exact (hKeeps hNav rfl rfl rfl rfl).elim
  | restarted hEvent => exact absurd hEvent hRestart

/-! ## Whole traces -/

/-- What holds of the effects of every single step of a run. -/
structure StepEffects (state : PaddockState) (call : ReducerCall) : Prop where
  brakesFirst : BrakesFirst (reduce state call).2
  brakes : state.authority = .paddockManual ∨ state.authority = .paddockAutonomy →
    (reduce state call).1.authority ≠ state.authority → .brake ∈ (reduce state call).2

/-- The effect trace of a run without a restart: dispatches and cancellations alternate, a dispatch
is outstanding exactly while navigation is active, and every step brakes when it has to.
`transition_case` names what each event does, and from a coherent state every case continues the
trace in the right order. -/
theorem effect_trace {past : List ReducerCall} (hRestart : ∀ call ∈ past, call.1 ≠ .restart) :
    Throughout outstanding Alternates false (emitted reduce {} past) ∧
      deviceAfter reduce outstanding {} false past = (reduced past).navigationActive ∧
      Always (along (advance reduce) {} StepEffects) past := by
  induction past with
  | nil => exact ⟨trivial, rfl, trivial⟩
  | cons call past ih =>
    obtain ⟨hAlternates, hDevice, hSteps⟩ :=
      ih fun earlier hMem => hRestart earlier (List.mem_cons_of_mem _ hMem)
    have hCoherent := coherent_reduced past
    have hCase := transition_case (reduced past) call.1 call.2
    have hHere := hRestart call List.mem_cons_self
    have hOrderly := hCase.orderly hCoherent hHere
    rw [← hDevice] at hOrderly
    refine ⟨?_, ?_, ⟨hOrderly.brakesFirst, hCase.brakes hCoherent hHere⟩, hSteps⟩
    · rw [emitted_cons, throughout_append]
      exact ⟨hAlternates, hOrderly.alternates⟩
    · rw [deviceAfter_cons]
      exact hOrderly.outstanding

/-- An operator with lease `l` selects a goal, runs, selects another goal and releases RUN. -/
def goalRun : List ReducerCall :=
  let goal (x : ℚ) : GoalIntent := ⟨"m", .finite x, .finite 0, .finite 0⟩
  [(.runRelease, { leaseId := "l" }), (.selectGoal, { leaseId := "l", goal := goal 2 }),
    (.runPress, { leaseId := "l" }), (.selectGoal, { leaseId := "l", goal := goal 1 }),
    (.requestMode, { leaseId := "l", mode := some .autonomy, requestId := 1 }),
    (.acquireLease, { clientId := "c", leaseId := "l" }),
    (.setActiveMap, { activeAutonomyMap := some "m" })]

theorem effect_trace_goalRun :
    Throughout outstanding Alternates false (emitted reduce {} goalRun) ∧
      deviceAfter reduce outstanding {} false goalRun = (reduced goalRun).navigationActive ∧
      Always (along (advance reduce) {} StepEffects) goalRun :=
  effect_trace (by decide)

example : emitted reduce {} goalRun =
    [.brake, .leaseGranted, .brake, .dispatchGoal, .brake, .cancelNavigation, .dispatchGoal,
      .brake, .cancelNavigation] := by decide

/-! ## Manual driving and navigation -/

/-- Navigation and manual driving exclude each other at a step: active navigation and every
dispatched goal have the autonomy authority, and manual driving never turns into autonomy. -/
structure Exclusive (state : PaddockState) (call : ReducerCall) : Prop where
  navigation : (reduce state call).1.navigationActive = true →
    (reduce state call).1.authority = .paddockAutonomy
  dispatch : .dispatchGoal ∈ (reduce state call).2 →
    (reduce state call).1.authority = .paddockAutonomy
  no_fallback : state.authority = .paddockManual →
    (reduce state call).1.authority ≠ .paddockAutonomy

/-- While manual driving is active, the lease owner presses RUN with a goal stored in autonomy
mode, or selects a goal of the active map with RUN held. -/
def ArmsWhileManual (state : PaddockState) (call : ReducerCall) : Prop :=
  state.manualActive = true ∧ ownsLease state call.2.leaseId = true ∧
    state.mode = .autonomy ∧
      ((call.1 = .runPress ∧ state.runHeld = false ∧ state.goal.isSome = true) ∨
        (call.1 = .selectGoal ∧ state.runHeld = true ∧ state.runBlockedUntilRelease = false ∧
          ∃ goal, call.2.goal = some goal ∧ goal.mapName = state.activeAutonomyMap ∧
            goal.mapName ≠ ""))

/-- A state in which navigation is not active under manual driving. -/
def Separate (state : PaddockState) : Prop :=
  Coherent state ∧ (state.navigationActive = true → state.manualActive = false)

/-- A dispatched goal leaves navigation active. -/
theorem Reduction.navigation_of_dispatch (hCase : Reduction state event args next)
    (hDispatch : .dispatchGoal ∈ next.effects) : next.state.navigationActive = true := by
  have hStop : Effect.dispatchGoal ∉ stopEffects state := by
    unfold stopEffects
    split <;> decide
  have hCancel : Effect.dispatchGoal ∉
      if state.navigationActive then [Effect.brake, .cancelNavigation] else [] := by
    split <;> decide
  have hQuiet : ∀ {effects : List Effect}, effects = [] ∨ effects = [.leaseRejected] ∨
      effects = [.leaseGranted] ∨ effects = [.brake] → Effect.dispatchGoal ∉ effects := by
    rintro effects (rfl | rfl | rfl | rfl) <;> decide
  cases hCase with
  | ignored requestId effects hEffects =>
    rcases hEffects with hNil | hRejected
    · exact absurd hDispatch (hQuiet (Or.inl hNil))
    · exact absurd hDispatch (hQuiet (Or.inr (Or.inl hRejected)))
  | granted => exact absurd hDispatch (hQuiet (Or.inr (Or.inr (Or.inl rfl))))
  | manualEnded => exact absurd hDispatch (hQuiet (Or.inr (Or.inr (Or.inr rfl))))
  | dualsenseLeft | restarted => exact absurd hDispatch (hQuiet (Or.inl rfl))
  | mode | map | leaseEnded | released => exact absurd hDispatch hStop
  | manualTaken => exact absurd hDispatch hCancel
  | dualsenseTaken =>
    dsimp only at hDispatch
    split at hDispatch
    · exact absurd hDispatch hStop
    · exact absurd hDispatch (hQuiet (Or.inl rfl))
  | goalSelected =>
    dsimp only at hDispatch ⊢
    rcases List.mem_append.mp hDispatch with hFirst | hLast
    · exact absurd hFirst hCancel
    · split at hLast
      · rename_i hPermitted
        exact hPermitted
      · exact absurd hLast (hQuiet (Or.inl rfl))
  | runPressed =>
    dsimp only at hDispatch ⊢
    split at hDispatch
    · rename_i hPermitted
      rw [hPermitted, Bool.true_or]
    · exact absurd hDispatch (hQuiet (Or.inl rfl))

/-- Manual driving only becomes autonomy when autonomy was permitted beneath it. -/
theorem Reduction.permitted_of_fallback (hCase : Reduction state event args next)
    (hManual : state.authority = .paddockManual)
    (hNext : next.state.authority = .paddockAutonomy) : state.autonomyPermitted = true := by
  obtain ⟨hPermitted, hOff⟩ := authority_eq_paddockAutonomy_iff.mp hNext
  obtain ⟨-, hDual, hLease, hOn⟩ := authority_eq_paddockManual_iff.mp hManual
  have hHeld := (autonomyPermitted_iff.mp hPermitted).2.2.1
  cases hCase with
  | ignored | granted | goalSelected | runPressed => cases hOn.symm.trans hOff
  | mode | map | leaseEnded | released | manualTaken | restarted => cases hHeld
  | manualEnded => exact hPermitted
  | dualsenseTaken => cases (autonomyPermitted_iff.mp hPermitted).2.2.2.2.1
  | dualsenseLeft => cases hOn.symm.trans hOff

/-- Unless RUN and a goal come together under manual driving, the two stay separate. -/
theorem Reduction.separate (h : Separate state)
    (hArms : ¬ ArmsWhileManual state (event, args))
    (hCase : Reduction state event args next) : Separate next.state := by
  refine ⟨h.1.reduction hCase, ?_⟩
  intro hNav
  cases hCase with
  | ignored | dualsenseLeft => exact h.2 hNav
  | granted hFree => exact (h.1.unleased hFree).2.1
  | mode | map | leaseEnded | released | manualTaken | dualsenseTaken | restarted => cases hNav
  | manualEnded => rfl
  | goalSelected goal hEvent hArgs hOwns hMode hMap hName =>
    refine Bool.eq_false_iff.mpr fun hManual => hArms ?_
    obtain ⟨-, -, hHeld, hFree, -⟩ := autonomyPermitted_iff.mp hNav
    exact ⟨hManual, hOwns, hMode,
      Or.inr ⟨hEvent, hHeld, hFree, goal, hArgs, hMap, hMap ▸ hName⟩⟩
  | runPressed hEvent hOwns hHeld =>
    refine Bool.eq_false_iff.mpr fun hManual => hArms ?_
    have hNone : state.navigationActive = false :=
      h.1.navigation.trans (autonomyPermitted_of_not_held hHeld)
    rw [hNone, Bool.or_false] at hNav
    obtain ⟨hMode, -, -, -, -, hGoal⟩ := autonomyPermitted_iff.mp hNav
    exact ⟨hManual, hOwns, hMode, Or.inl ⟨hEvent, hHeld, hGoal⟩⟩

theorem exclusive_of_separate {call : ReducerCall} (h : Separate state)
    (hArms : ¬ ArmsWhileManual state call) : Exclusive state call := by
  have hCase := transition_case state call.1 call.2
  have hNext := hCase.separate h hArms
  have hNavigation : (reduce state call).1.navigationActive = true →
      (reduce state call).1.authority = .paddockAutonomy := fun hNav =>
    authority_eq_paddockAutonomy_iff.mpr ⟨hNext.1.navigation.symm.trans hNav, hNext.2 hNav⟩
  refine ⟨hNavigation, fun hDispatch => hNavigation (hCase.navigation_of_dispatch hDispatch), ?_⟩
  intro hManual hAutonomy
  have hNav := h.1.navigation.trans (hCase.permitted_of_fallback hManual hAutonomy)
  have hOn := (authority_eq_paddockManual_iff.mp hManual).2.2.2
  rw [h.2 hNav] at hOn
  cases hOn

/-- Arming under manual driving activates navigation and leaves manual driving active. -/
theorem arms_navigation {call : ReducerCall} (h : Coherent state)
    (hArms : ArmsWhileManual state call) :
    (reduce state call).1.navigationActive = true ∧
      (reduce state call).1.manualActive = true := by
  obtain ⟨event, args⟩ := call
  obtain ⟨hManual, hOwns, hMode, hArm⟩ := hArms
  have hDual := (h.manual hManual).1
  have hLease := ownsLease_leased hOwns
  obtain ⟨hActive, hId⟩ := Bool.and_eq_true_iff.mp hOwns
  rcases hArm with ⟨hEvent, hHeld, hGoal⟩ | ⟨hEvent, hHeld, hFree, goal, hArgs, hMap, hName⟩
  · cases hEvent
    have hPermitted : ({ state with
        runHeld := true
        runBlockedUntilRelease := state.dualsenseActive } : PaddockState).autonomyPermitted =
          true := autonomyPermitted_iff.mpr ⟨hMode, hLease, rfl, hDual, hDual, hGoal⟩
    have hStep : transition state .runPress args = ownerTransition state .runPress args :=
      transition_owned hActive (of_decide_eq_true hId) (by simp)
    simp only [reduce, hStep, ownerTransition, hHeld, Bool.false_eq_true, if_false,
      hPermitted, if_true]
    exact ⟨trivial, hManual⟩
  · cases hEvent
    dsimp only at hArgs
    have hPermitted : ({ state with
        goal := some goal
        navigationActive := false } : PaddockState).autonomyPermitted = true :=
      autonomyPermitted_iff.mpr ⟨hMode, hLease, hHeld, hFree, hDual, rfl⟩
    have hValid : ¬ (state.mode ≠ .autonomy ∨ state.activeAutonomyMap = "" ∨
        goal.mapName ≠ state.activeAutonomyMap) := by
      rw [← hMap]
      simp [hMode, hName]
    have hStep : transition state .selectGoal args = ownerTransition state .selectGoal args :=
      transition_owned hActive (of_decide_eq_true hId) (by simp)
    simp only [reduce, hStep, ownerTransition, hArgs, if_neg hValid, hPermitted, if_true]
    exact ⟨trivial, hManual⟩

/-- A step from a separate state is exclusive exactly when it does not arm under manual
driving. -/
theorem exclusive_iff {call : ReducerCall} (h : Separate state) :
    Exclusive state call ↔ ¬ ArmsWhileManual state call := by
  refine ⟨fun hExclusive hArms => ?_, exclusive_of_separate h⟩
  obtain ⟨hNav, hManual⟩ := arms_navigation h.1 hArms
  have hOff := (authority_eq_paddockAutonomy_iff.mp (hExclusive.navigation hNav)).2
  rw [hManual] at hOff
  cases hOff

/-- Over a run of the reducer, navigation and manual driving exclude each other at every step
exactly when no step arms autonomy under manual driving. From a separate state one step is
exclusive just when it does not arm autonomy under manual driving (`exclusive_iff`), and then it
leads to a separate state again. -/
theorem exclusive_reduced_iff (past : List ReducerCall) :
    Always (along (advance reduce) {} Exclusive) past ↔
      Always (along (advance reduce) {} fun state call => ¬ ArmsWhileManual state call) past := by
  have hBoth : (Always (along (advance reduce) {} Exclusive) past ↔
      Always (along (advance reduce) {} fun state call => ¬ ArmsWhileManual state call) past) ∧
        (Always (along (advance reduce) {} fun state call => ¬ ArmsWhileManual state call) past →
          Separate (reduced past)) := by
    induction past with
    | nil =>
      refine ⟨Iff.rfl, fun _ => ⟨Coherent.of_disarmed rfl rfl rfl rfl rfl, fun _ => rfl⟩⟩
    | cons call past ih =>
      obtain ⟨ihIff, ihSeparate⟩ := ih
      constructor
      · rw [Always, Always, ihIff]
        exact and_congr_left fun hAlways => exclusive_iff (ihSeparate hAlways)
      · rintro ⟨hArms, hAlways⟩
        exact (transition_case (reduced past) call.1 call.2).separate (ihSeparate hAlways) hArms
  exact hBoth.1

/-- The operator drives manually with a goal stored and presses RUN, then lets the stick go. -/
def manualRun : List ReducerCall :=
  let goal : GoalIntent := ⟨"m", .finite 1, .finite 0, .finite 0⟩
  [(.manualInactive, { leaseId := "l" }), (.runPress, { leaseId := "l" }),
    (.manualActive, { leaseId := "l" }), (.selectGoal, { leaseId := "l", goal := goal }),
    (.requestMode, { leaseId := "l", mode := some .autonomy, requestId := 1 }),
    (.acquireLease, { clientId := "c", leaseId := "l" }),
    (.setActiveMap, { activeAutonomyMap := some "m" })]

/-- The RUN press dispatches a goal under manual control, and the release of the stick hands
the vehicle to that goal. -/
theorem manualRun_not_exclusive :
    (reduced manualRun.tail).authority = .paddockManual ∧
      (reduced manualRun.tail).navigationActive = true ∧
      .dispatchGoal ∈ (reduce (reduced manualRun.tail.tail) (.runPress, { leaseId := "l" })).2 ∧
      (reduced manualRun).authority = .paddockAutonomy ∧
      ¬ Always (along (advance reduce) {} Exclusive) manualRun := by
  refine ⟨by decide, by decide, by decide, by decide, ?_⟩
  rintro ⟨-, hPress, -⟩
  have hNav : (reduce (reduced manualRun.tail.tail) (.runPress, { leaseId := "l" })).1.authority =
      .paddockAutonomy := hPress.navigation (by decide)
  exact absurd hNav (by decide)

end PreRunner.Paddock
