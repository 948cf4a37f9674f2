import PreRunner.Paddock.Interlock

/-!
# When an autonomy sample is forwarded

The permission to move autonomously is spread over the fields of `PaddockState` and the time of
the last lease refresh. `Armed` is the part a held RUN contributes. A call that ends armed
either started armed, or is a `RUN_PRESSED` of the lease owner (`armed_move`), and no call that
`disarms` ends armed. The history invariant `Permission` follows call by call, and a forwarded
sample reads it off.
-/

namespace PreRunner.Paddock

open PaddockState Runs

/-- RUN is held, unblocked, and under a lease in autonomy mode. -/
structure Armed (state : PaddockState) : Prop where
  mode : state.mode = .autonomy
  lease : state.leaseId ≠ ""
  held : state.runHeld = true
  unblocked : state.runBlockedUntilRelease = false

/-- The lease is the same in both states. -/
structure SameLease (base next : PaddockState) : Prop where
  client : next.leaseClientId = base.leaseClientId
  lease : next.leaseId = base.leaseId
  generation : next.leaseGeneration = base.leaseGeneration

/-- The lease, the mode and the map are the same in both states. -/
structure SameTenure (base next : PaddockState) : Prop extends SameLease base next where
  mode : next.mode = base.mode
  map : next.activeAutonomyMap = base.activeAutonomyMap

/-- RUN was released, or is held and blocked as before. -/
inductive RunKept (base next : PaddockState) : Prop where
  | released (h : next.runHeld = false)
  | same (hHeld : next.runHeld = base.runHeld)
      (hBlocked : next.runBlockedUntilRelease = base.runBlockedUntilRelease)

theorem SameTenure.refl (state : PaddockState) : SameTenure state state :=
  ⟨⟨rfl, rfl, rfl⟩, rfl, rfl⟩

/-- A state reached armed without a new RUN came from an armed one. -/
theorem Armed.of_kept {base next : PaddockState} (hArmed : Armed next)
    (hTenure : SameTenure base next) (hRun : RunKept base next) : Armed base := by
  obtain ⟨⟨_, hLease, _⟩, hMode, _⟩ := hTenure
  rcases hRun with hReleased | ⟨hHeld, hBlocked⟩
  · rw [hArmed.held] at hReleased
    cases hReleased
  · exact ⟨hMode ▸ hArmed.mode, hLease ▸ hArmed.lease, hHeld ▸ hArmed.held,
      hBlocked ▸ hArmed.unblocked⟩

namespace CommandSupervisor

/-! ## What the calls do to a held RUN -/

theorem sameTenure_ownerTransition (state : PaddockState) (event : Event) (args : TransitionArgs)
    (hEvent : event ≠ .requestMode) :
    SameTenure state (ownerTransition state event args).state := by
  unfold ownerTransition
  cases event with
  | requestMode => exact absurd rfl hEvent
  | selectGoal =>
    dsimp only
    split
    · exact .refl _
    · split
      · exact .refl _
      · split <;> exact ⟨⟨rfl, rfl, rfl⟩, rfl, rfl⟩
  | runPress =>
    dsimp only
    split
    · exact .refl _
    · split <;> exact ⟨⟨rfl, rfl, rfl⟩, rfl, rfl⟩
  | runRelease | manualActive | manualInactive =>
    dsimp only
    split <;> exact ⟨⟨rfl, rfl, rfl⟩, rfl, rfl⟩
  | _ => exact ⟨⟨rfl, rfl, rfl⟩, rfl, rfl⟩

theorem runKept_ownerTransition (state : PaddockState) (event : Event) (args : TransitionArgs)
    (hEvent : event ≠ .runPress) : RunKept state (ownerTransition state event args).state := by
  unfold ownerTransition
  cases event with
  | runPress => exact absurd rfl hEvent
  | requestMode =>
    dsimp only
    split
    · exact .same rfl rfl
    · split
      · exact .same rfl rfl
      · split
        · exact .same rfl rfl
        · exact .released rfl
  | selectGoal =>
    dsimp only
    split
    · exact .same rfl rfl
    · split
      · exact .same rfl rfl
      · split <;> exact .same rfl rfl
  | runRelease | manualActive =>
    dsimp only
    split
    · exact .same rfl rfl
    · exact .released rfl
  | manualInactive =>
    dsimp only
    split <;> exact .same rfl rfl
  | stop => exact .released rfl
  | _ => exact .same rfl rfl

theorem sameTenure_of_not_ended {state : PaddockState} {m : ControlMessage}
    (hReleased : m.event ≠ .leaseReleased) (hLost : m.event ≠ .leaseLost) :
    SameTenure state (ownedState state m) := by
  have hOwner := sameTenure_ownerTransition state
  unfold ownedState
  cases hEvent : m.event with
  | heartbeat | leaseAcquired => exact .refl _
  | leaseReleased => exact absurd hEvent hReleased
  | leaseLost => exact absurd hEvent hLost
  | goalSelected =>
    dsimp only
    split
    · exact hOwner _ _ nofun
    · exact .refl _
  | manualActive =>
    obtain ⟨⟨hClient, hLease, hGen⟩, hMode, hMap⟩ := hOwner .manualActive {} nofun
    dsimp only
    split <;> exact ⟨⟨hClient, hLease, hGen⟩, hMode, hMap⟩
  | clearStop | stop | runPressed | runReleased | manualInactive => exact hOwner _ _ nofun

theorem sameTenure_ownedState {state : PaddockState} {m : ControlMessage}
    (h : (ownedState state m).leaseId ≠ "") : SameTenure state (ownedState state m) := by
  unfold ownedState at h
  refine sameTenure_of_not_ended (fun hEvent => ?_) fun hEvent => ?_
  all_goals
    rw [hEvent] at h
    exact h rfl

theorem runKept_ownedState {state : PaddockState} {m : ControlMessage}
    (hEvent : m.event ≠ .runPressed) : RunKept state (ownedState state m) := by
  have hOwner := runKept_ownerTransition state
  unfold ownedState
  cases hEvent' : m.event with
  | runPressed => exact absurd hEvent' hEvent
  | heartbeat | leaseAcquired => exact .same rfl rfl
  | leaseReleased | leaseLost => exact .released rfl
  | goalSelected =>
    dsimp only
    split
    · exact hOwner _ _ nofun
    · exact .same rfl rfl
  | manualActive =>
    dsimp only
    split
    · exact hOwner _ _ nofun
    · rcases hOwner .manualActive {} nofun with h | ⟨hHeld, hBlocked⟩
      · exact .released h
      · exact .same hHeld hBlocked
  | clearStop | stop | runReleased | manualInactive => exact hOwner _ _ nofun

theorem sameLease_requestMode (state : PaddockState) (args : TransitionArgs) :
    SameLease state (transition state .requestMode args).state := by
  unfold transition ownerTransition
  dsimp only
  split
  · exact ⟨rfl, rfl, rfl⟩
  · split
    · exact ⟨rfl, rfl, rfl⟩
    · split
      · exact ⟨rfl, rfl, rfl⟩
      · split <;> exact ⟨rfl, rfl, rfl⟩

theorem requestMode_held {state : PaddockState} {args : TransitionArgs}
    (h : (transition state .requestMode args).state.runHeld = true) :
    SameTenure state (transition state .requestMode args).state ∧
      RunKept state (transition state .requestMode args).state := by
  unfold transition at h ⊢
  dsimp only at h ⊢
  split at h
  · rename_i hOwns
    rw [if_pos hOwns]
    exact ⟨.refl _, .same rfl rfl⟩
  · rename_i hOwns
    rw [if_neg hOwns]
    refine ⟨?_, runKept_ownerTransition _ _ _ nofun⟩
    unfold ownerTransition at h ⊢
    dsimp only at h ⊢
    cases hMode : args.mode with
    | none => exact .refl _
    | some mode =>
      rw [hMode] at h
      dsimp only at h ⊢
      split
      · exact .refl _
      · rename_i hNew
        rw [if_neg hNew] at h
        split
        · exact ⟨⟨rfl, rfl, rfl⟩, rfl, rfl⟩
        · rename_i hChange
          rw [if_neg hChange] at h
          cases h

theorem not_armed_dualsenseActive {state : PaddockState} (hI : Interlocked state) :
    ¬ Armed (transition state .dualsenseActive).state := by
  intro hArmed
  unfold transition at hArmed
  dsimp only at hArmed
  split at hArmed
  · rename_i hDual
    have := hI.blocked hDual hArmed.held
    rw [hArmed.unblocked] at this
    cases this
  · have hHeld := hArmed.held
    have hFree := hArmed.unblocked
    dsimp only at hHeld hFree
    rw [hHeld] at hFree
    cases hFree

/-- An ordered `RUN_PRESSED` of the owner of the lease. -/
def Presses (s : CommandSupervisor) (c : TimedCall) (state : PaddockState) : Prop :=
  ∃ m, c.call = .handleControlEvent m ∧ m.event = .runPressed ∧
    m.clientId = state.leaseClientId ∧ m.leaseId = state.leaseId ∧
    s.handleControlEvent m c.now = handleOwnedEvent (s.refreshed m c.now) m c.now

/-- A call that ends armed keeps the tenure, and started armed or is a `RUN_PRESSED`. -/
theorem armed_move {s : CommandSupervisor} {c : TimedCall} {base next : PaddockState}
    (hI : Interlocked base) (hMove : s.Move c base next) (hArmed : Armed next) :
    SameTenure base next ∧ (Armed base ∨ s.Presses c base) := by
  have hKept : SameTenure base next → RunKept base next → Armed base := hArmed.of_kept
  cases hMove with
  | stays => exact ⟨.refl _, Or.inl hArmed⟩
  | manualEnds =>
    have hTenure : SameTenure base { base with manualActive := false } :=
      ⟨⟨rfl, rfl, rfl⟩, rfl, rfl⟩
    exact ⟨hTenure, Or.inl (hKept hTenure (.same rfl rfl))⟩
  | granted m _ hFree =>
    have hHeld : base.runHeld = true := hArmed.held
    rw [(hI.leased hFree).1] at hHeld
    cases hHeld
  | owned m hCall hActive hEvent hClient hLease hNewer hOut =>
    have hTenure := sameTenure_ownedState hArmed.lease
    refine ⟨hTenure, ?_⟩
    by_cases hPress : m.event = .runPressed
    · exact Or.inr ⟨m, hCall, hPress, hClient, hLease, hOut⟩
    · exact Or.inl (hKept hTenure (runKept_ownedState hPress))
  | runtime mode map stable =>
    unfold runtimeState at hArmed ⊢
    extract_lets effectiveMode at hArmed ⊢
    by_cases hChanged : effectiveMode ≠ base.mode ∨ map ≠ base.activeAutonomyMap ∨ stable = false
    · rw [if_pos hChanged] at hArmed
      exact absurd hArmed.held Bool.false_ne_true
    · rw [if_neg hChanged] at hArmed ⊢
      exact ⟨.refl _, Or.inl hArmed⟩
  | requestMode mode requestId leaseId =>
    obtain ⟨hTenure, hRun⟩ := requestMode_held hArmed.held
    exact ⟨hTenure, Or.inl (hKept hTenure hRun)⟩
  | dualsense active =>
    cases active with
    | true => exact absurd hArmed (not_armed_dualsenseActive hI)
    | false => exact ⟨⟨⟨rfl, rfl, rfl⟩, rfl, rfl⟩, Or.inl ⟨hArmed.1, hArmed.2, hArmed.3, hArmed.4⟩⟩
  | restart => exact absurd hArmed.held Bool.false_ne_true

/-- A call that ends armed did not drop the lease. -/
theorem armed_step {s : CommandSupervisor} {c : TimedCall} (hI : Interlocked s.state)
    (hArmed : Armed (s.step c).state) :
    SameTenure s.state (s.step c).state ∧ (Armed s.state ∨ s.Presses c s.state) := by
  obtain ⟨base, hBase, hMove⟩ := s.step_move c
  rcases hBase with rfl | ⟨_, rfl⟩
  · exact armed_move hI hMove hArmed
  · obtain ⟨hTenure, _⟩ := armed_move (.withoutLease _) hMove hArmed
    exact absurd hTenure.lease hArmed.lease

/-! ## The calls that disarm -/

/-- Whether the result of a call says that it was accepted. -/
def accepted (s : CommandSupervisor) (c : TimedCall) : Bool :=
  (s.result c).any SupervisorResult.accepted

/-- Whether the result of a call gives this reason. -/
def reports (s : CommandSupervisor) (c : TimedCall) (reason : Reason) : Bool :=
  (s.result c).any fun r => r.snapshot.reason = reason

/-- Whether the lease held before a call is lost by it. Every loss and every grant is a new
lease generation. -/
def tenureEnds (s : CommandSupervisor) (c : TimedCall) : Bool :=
  s.state.leaseActive && (!(s.step c).state.leaseActive ||
    (s.step c).state.leaseGeneration ≠ s.state.leaseGeneration)

/-- Whether a `MANUAL_ACTIVE` event of the owner arrives where manual control is possible. -/
def manualEligible (s : CommandSupervisor) (c : TimedCall) : Bool :=
  (s.result c).any (fun r => !isRefusal r.snapshot.reason) && s.state.mode ≠ .idle &&
    !s.state.dualsenseActive

/-- Whether a call ends the permission a held RUN gives. -/
def disarms (s : CommandSupervisor) (c : TimedCall) : Bool :=
  s.tenureEnds c || (s.step c).state.mode ≠ s.state.mode ||
    (s.step c).state.activeAutonomyMap ≠ s.state.activeAutonomyMap ||
    match c.call with
    | .handleControlEvent m =>
      match m.event with
      | .runReleased | .stop | .clearStop => s.accepted c
      | .manualActive => s.manualEligible c
      | _ => false
    | .setRuntimeMode _ _ stable => !stable
    | .setDualsenseActive active => active
    | _ => false

/-- An event that is neither refused nor a grant is an ordered event of the owner. -/
theorem owned_of_not_refused {s : CommandSupervisor} {m : ControlMessage} {now : ℚ}
    (hEvent : m.event ≠ .heartbeat ∧ m.event ≠ .leaseAcquired)
    (h : (s.handleControlEvent m now).2.accepted = true ∨
      isRefusal (s.handleControlEvent m now).2.snapshot.reason = false) :
    (s.handleControlEvent m now).1.state = ownedState s.state m := by
  have hCase := handleControlEvent_case s m now
  generalize s.handleControlEvent m now = out at hCase h
  cases hCase with
  | refused reason hRefusal =>
    rcases h with h | h
    · cases h
    · exact absurd (hRefusal.symm.trans h) (by decide)
  | granted _ _ _ _ hGrant =>
    rcases hGrant with ⟨h, _⟩ | ⟨h, _⟩
    · exact absurd h hEvent.1
    · exact absurd h hEvent.2
  | owned _ hActive _ hLease =>
    have hActive' := leaseActive_iff.mpr hActive
    obtain ⟨demand, input, hNext⟩ := handleOwnedEvent_movesTo
      ((s.expireLease now).refreshed m now) m now hActive' hLease
    rw [hNext]
    change ownedState (s.expireLease now).state m = _
    rw [expireLease_active hActive']

theorem released_ownedState {state : PaddockState} {m : ControlMessage}
    (h : m.event = .runReleased ∨ m.event = .stop ∨ m.event = .clearStop ∨
      (m.event = .manualActive ∧ state.mode ≠ .idle ∧ state.dualsenseActive = false)) :
    (ownedState state m).runHeld = false := by
  unfold ownedState
  rcases h with h | h | h | ⟨h, hMode, hDual⟩
  · rw [h]
    dsimp only [ownerTransition]
    split
    · rename_i hOff
      simp only [Bool.and_eq_true, Bool.not_eq_true'] at hOff
      exact hOff.1
    · rfl
  · rw [h]; rfl
  · rw [h]; rfl
  · rw [h]
    have hEligible : (decide (state.mode = .idle) || state.dualsenseActive) ≠ true := by
      simp [hMode, hDual]
    dsimp only [ownerTransition]
    rw [if_neg hEligible]
    split <;> rfl

/-- No call that disarms ends armed. -/
theorem not_disarms_of_armed {s : CommandSupervisor} {c : TimedCall} (hI : Interlocked s.state)
    (hArmed : Armed (s.step c).state) : s.disarms c = false := by
  obtain ⟨⟨⟨_, hLease, hGen⟩, hMode, hMap⟩, _⟩ := armed_step hI hArmed
  have hTenure : s.tenureEnds c = false := by
    simp [tenureEnds, leaseActive, hLease, hGen, hLease ▸ hArmed.lease]
  simp only [disarms, hTenure, hMode, hMap, ne_eq, not_true_eq_false, decide_false,
    Bool.false_or]
  obtain ⟨call, now⟩ := c
  cases call with
  | handleControlEvent m =>
    have hReleased : ∀ h : m.event = .runReleased ∨ m.event = .stop ∨ m.event = .clearStop ∨
        (m.event = .manualActive ∧ s.state.mode ≠ .idle ∧ s.state.dualsenseActive = false),
        ¬ ((s.handleControlEvent m now).2.accepted = true ∨
          isRefusal (s.handleControlEvent m now).2.snapshot.reason = false) := by
      intro h hSeen
      have hState := owned_of_not_refused (by rcases h with h | h | h | h <;> simp [h]) hSeen
      have hHeld := hArmed.held
      change (s.handleControlEvent m now).1.state.runHeld = true at hHeld
      rw [hState, released_ownedState h] at hHeld
      cases hHeld
    dsimp only
    split
    iterate 3
      rename_i hEvent
      exact Bool.eq_false_iff.mpr fun h => hReleased (by simp [hEvent]) (Or.inl h)
    · rename_i hEvent
      refine Bool.eq_false_iff.mpr fun h => ?_
      simp only [manualEligible, result, perform, Prod.map, Option.any_some, Bool.and_eq_true,
        Bool.not_eq_true', decide_eq_true_eq] at h
      exact hReleased (Or.inr (Or.inr (Or.inr ⟨hEvent, h.1.2, h.2⟩))) (Or.inr h.1.1)
    · rfl
  | setRuntimeMode mode map stable =>
    cases stable with
    | true => rfl
    | false =>
      obtain ⟨demand, input, hNext⟩ := setRuntimeMode_movesTo s mode map now false
      have hHeld := hArmed.held
      change (s.setRuntimeMode mode map now false).1.state.runHeld = true at hHeld
      rw [hNext] at hHeld
      simp [runtimeState] at hHeld
  | setDualsenseActive active =>
    cases active with
    | false => rfl
    | true =>
      exfalso
      have hState : (s.step ⟨.setDualsenseActive true, now⟩).state =
          (transition (s.expireLease now).state .dualsenseActive).state :=
        finishEvent_state _ now
      rw [hState] at hArmed
      refine not_armed_dualsenseActive ?_ hArmed
      rw [expireLease_eq]
      split
      · exact .withoutLease _
      · exact hI
  | _ => rfl

/-! ## The history behind a permission -/

section

variable (client lease : String)

/-- A call that granted or reinstated the lease with these ids. -/
def grants (s : CommandSupervisor) (c : TimedCall) : Bool :=
  match c.call with
  | .handleControlEvent m => m.clientId = client && m.leaseId = lease &&
      (s.reports c .leaseAcquired || s.reports c .leaseReinstated)
  | _ => false

/-- An accepted `RUN_PRESSED` with these ids. -/
def pressesRun (s : CommandSupervisor) (c : TimedCall) : Bool :=
  match c.call with
  | .handleControlEvent m =>
    m.clientId = client && m.leaseId = lease && m.event = .runPressed && s.accepted c
  | _ => false

/-- An event with these ids that was accepted, or that passed the ownership and order checks
and was refused for its goal pose only. -/
def refreshes (s : CommandSupervisor) (c : TimedCall) : Bool :=
  match c.call with
  | .handleControlEvent m => m.clientId = client && m.leaseId = lease &&
      (s.accepted c || s.reports c .goalPoseNotFinite)
  | _ => false

end

/-- The lease with these ids was granted or reinstated, and not lost since. -/
def Tenure (init : CommandSupervisor) (client lease : String) (past : List TimedCall) : Prop :=
  Since (along step init fun s c => s.tenureEnds c = false)
    (along step init fun s c => s.grants client lease c = true) past

/-- Within that tenure RUN was pressed, and no call has disarmed since. -/
def Pressed (init : CommandSupervisor) (client lease : String) (past : List TimedCall) : Prop :=
  Since (along step init fun s c => s.disarms c = false)
    (fun past c => (after step init past).pressesRun client lease c = true ∧
      Tenure init client lease past) past

/-- The last refresh of the lease at time `t` was an event with these ids. -/
def RefreshedAt (init : CommandSupervisor) (client lease : String) (t : ℚ)
    (past : List TimedCall) : Prop :=
  Once (along step init fun s c => s.refreshes client lease c = true ∧ c.now = t) past

/-- What the history of a supervisor says about its lease and its held RUN. -/
structure Permission (init : CommandSupervisor) (past : List TimedCall)
    (s : CommandSupervisor) : Prop where
  interlocked : Interlocked s.state
  tenure : s.state.leaseId ≠ "" → Tenure init s.state.leaseClientId s.state.leaseId past
  pressed : Armed s.state → Pressed init s.state.leaseClientId s.state.leaseId past
  refreshed : Armed s.state → ∃ t, s.lastLeaseReceiveAt = some t ∧
    RefreshedAt init s.state.leaseClientId s.state.leaseId t past

/-- Every call keeps the lease ids, drops the lease, or grants a new one. -/
theorem tenure_step {s : CommandSupervisor} {c : TimedCall}
    (h : (s.step c).state.leaseId ≠ "") :
    (s.state.leaseId ≠ "" ∧ s.tenureEnds c = false ∧
        (s.step c).state.leaseClientId = s.state.leaseClientId ∧
        (s.step c).state.leaseId = s.state.leaseId) ∨
      s.grants (s.step c).state.leaseClientId (s.step c).state.leaseId c = true := by
  obtain ⟨base, hBase, hMove⟩ := s.step_move c
  have hKept : SameLease base (s.step c).state → s.state.leaseId ≠ "" ∧ s.tenureEnds c = false ∧
      (s.step c).state.leaseClientId = s.state.leaseClientId ∧
      (s.step c).state.leaseId = s.state.leaseId := by
    rintro ⟨hClient, hLease, hGen⟩
    rcases hBase with rfl | ⟨_, rfl⟩
    · exact ⟨hLease ▸ h, by simp [tenureEnds, leaseActive, hLease, hGen, hLease ▸ h], hClient,
        hLease⟩
    · exact absurd hLease h
  generalize hNext : (s.step c).state = next at hMove h hKept ⊢
  cases hMove with
  | stays | manualEnds => exact Or.inl (hKept ⟨rfl, rfl, rfl⟩)
  | granted m hCall _ _ _ hReason =>
    refine Or.inr ?_
    obtain ⟨call, now⟩ := c
    cases hCall
    rcases hReason with hReason | hReason <;>
      simp [grants, reports, result, perform, Prod.map, withLease, hReason]
  | owned m => exact Or.inl (hKept (sameTenure_ownedState h).toSameLease)
  | runtime mode map stable =>
    refine Or.inl (hKept ?_)
    unfold runtimeState
    exact iteInduction (fun _ => ⟨rfl, rfl, rfl⟩) fun _ => ⟨rfl, rfl, rfl⟩
  | requestMode mode requestId leaseId => exact Or.inl (hKept (sameLease_requestMode _ _))
  | dualsense active =>
    refine Or.inl (hKept ?_)
    cases active with
    | false => exact ⟨rfl, rfl, rfl⟩
    | true =>
      change SameLease base (transition base .dualsenseActive).state
      unfold transition
      dsimp only
      split <;> exact ⟨rfl, rfl, rfl⟩
  | restart => exact absurd rfl h

/-- Among the owner's events only a goal pose that is not finite, and a manual event, can be
refused after they refreshed the lease. -/
theorem accepted_handleOwnedEvent (s : CommandSupervisor) (m : ControlMessage) (now : ℚ)
    (hManual : m.event ≠ .manualActive) (hEvent : m.event ≠ .leaseAcquired) :
    (s.handleOwnedEvent m now).2.accepted = true ∨
      (s.handleOwnedEvent m now).2.snapshot.reason = .goalPoseNotFinite := by
  unfold handleOwnedEvent
  cases hCase : m.event with
  | manualActive => exact absurd hCase hManual
  | leaseAcquired => exact absurd hCase hEvent
  | goalSelected =>
    dsimp only
    split
    · exact Or.inl rfl
    · exact Or.inr rfl
  | _ => exact Or.inl rfl

theorem expireLease_lastLeaseReceiveAt (s : CommandSupervisor) (now : ℚ) :
    (s.expireLease now).lastLeaseReceiveAt = s.lastLeaseReceiveAt := by
  rw [expireLease_eq]
  split <;> rfl

theorem expireManual_lastLeaseReceiveAt (s : CommandSupervisor) (now : ℚ) :
    (s.expireManual now).lastLeaseReceiveAt = s.lastLeaseReceiveAt := by
  unfold expireManual
  split <;> rfl

theorem MovesTo.lastLeaseReceiveAt {s next : CommandSupervisor} {state : PaddockState}
    (h : MovesTo s next state) : next.lastLeaseReceiveAt = s.lastLeaseReceiveAt := by
  obtain ⟨_, _, rfl⟩ := h
  rfl

/-- A manual event leaves nothing armed: it releases RUN, or finds it blocked. -/
theorem not_manualActive_of_armed {state : PaddockState} {m : ControlMessage}
    (hI : Interlocked state) (hArmed : Armed (ownedState state m)) : m.event ≠ .manualActive := by
  intro hEvent
  have hMode : state.mode = .autonomy :=
    (sameTenure_ownedState hArmed.lease).mode.symm.trans hArmed.mode
  cases hDual : state.dualsenseActive with
  | false =>
    have hReleased : (ownedState state m).runHeld = false :=
      released_ownedState (by simp [hEvent, hMode, hDual])
    rw [hArmed.held] at hReleased
    cases hReleased
  | true =>
    have hKept : RunKept state (ownedState state m) := runKept_ownedState (by simp [hEvent])
    rcases hKept with hReleased | ⟨hHeld, hBlocked⟩
    · rw [hArmed.held] at hReleased
      cases hReleased
    · have := hI.blocked hDual (hHeld ▸ hArmed.held)
      rw [← hBlocked, hArmed.unblocked] at this
      cases this

/-- Only control events of the owner refresh the lease; a call that ends armed refreshed it with
one that was accepted or refused for its goal pose, or left it as it was. -/
theorem refresh_step {s : CommandSupervisor} {c : TimedCall} (hI : Interlocked s.state)
    (hArmed : Armed (s.step c).state) :
    (s.step c).lastLeaseReceiveAt = s.lastLeaseReceiveAt ∨
      ((s.step c).lastLeaseReceiveAt = some c.now ∧
        s.refreshes s.state.leaseClientId s.state.leaseId c = true) := by
  have hExpire := s.expireLease_lastLeaseReceiveAt c.now
  obtain ⟨call, now⟩ := c
  cases call with
  | tick => exact Or.inl ((expireManual_lastLeaseReceiveAt _ _).trans hExpire)
  | setRuntimeMode mode map stable =>
    exact Or.inl ((setRuntimeMode_movesTo s mode map now stable).lastLeaseReceiveAt.trans hExpire)
  | requestMode => exact Or.inl hExpire
  | setDualsenseActive active =>
    exact Or.inl ((movesTo_finishEvent _ now).lastLeaseReceiveAt.trans hExpire)
  | receiveRawAutonomy command =>
    refine Or.inl (Eq.trans ?_ hExpire)
    change (s.receiveRawAutonomy command now).1.lastLeaseReceiveAt = _
    unfold receiveRawAutonomy
    dsimp only
    split
    · rfl
    · split <;> rfl
  | receiveRawManual command sequence =>
    refine Or.inl (Eq.trans ?_ ((expireManual_lastLeaseReceiveAt _ now).trans hExpire))
    change (s.receiveRawManual command sequence now).1.lastLeaseReceiveAt = _
    unfold receiveRawManual
    dsimp only
    split
    · rfl
    · split <;> rfl
  | restart => exact absurd hArmed.held Bool.false_ne_true
  | setManualMaxSpeedMps value =>
    refine Or.inl ?_
    change ((s.setManualMaxSpeedMps value).getD s).lastLeaseReceiveAt = _
    unfold setManualMaxSpeedMps
    split <;> rfl
  | handleControlEvent m =>
    have hCase := handleControlEvent_case s m now
    have hNext : (s.step ⟨.handleControlEvent m, now⟩) = (s.handleControlEvent m now).1 := rfl
    generalize hOut : s.handleControlEvent m now = out at hCase hNext
    rw [hNext] at hArmed ⊢
    cases hCase with
    | refused => exact Or.inl hExpire
    | granted reason hFree =>
      exfalso
      have hIE : Interlocked (s.expireLease now).state := by
        rcases s.dropped_expireLease now with h | ⟨_, h⟩
        · exact h ▸ hI
        · exact h ▸ .withoutLease _
      have hHeld : (s.expireLease now).state.runHeld = true := hArmed.held
      rw [(hIE.leased hFree).1] at hHeld
      cases hHeld
    | owned hEvent hActive hClient hLease hNewer =>
      have hActive' := leaseActive_iff.mpr hActive
      have hMoves := handleOwnedEvent_movesTo
        ((s.expireLease now).refreshed m now) m now hActive' hLease
      rw [expireLease_active hActive'] at hOut hMoves hClient hLease hArmed ⊢
      have hOwned : Armed (ownedState s.state m) := by
        obtain ⟨_, _, hState⟩ := hMoves
        rw [hState] at hArmed
        exact hArmed
      have hReleased : m.event ≠ .leaseReleased := by
        intro hRel
        have hLost := hOwned.lease
        simp [ownedState, hRel, withoutLease] at hLost
      have hRefused := accepted_handleOwnedEvent (s.refreshed m now) m now
        (not_manualActive_of_armed hI hOwned) hEvent
      rw [if_neg hReleased] at hMoves
      refine Or.inr ⟨hMoves.lastLeaseReceiveAt, ?_⟩
      rw [← hOut] at hRefused
      simp only [refreshes, accepted, reports, result, perform, Prod.map, Option.any_some,
        hClient, hLease, decide_true, Bool.true_and, Bool.or_eq_true, decide_eq_true_eq]
      exact hRefused

theorem pressesRun_of_presses {s : CommandSupervisor} {c : TimedCall}
    (h : s.Presses c s.state) :
    s.pressesRun s.state.leaseClientId s.state.leaseId c = true := by
  obtain ⟨m, hCall, hEvent, hClient, hLease, hOut⟩ := h
  obtain ⟨call, now⟩ := c
  cases hCall
  have hAccepted : (s.handleControlEvent m now).2.accepted = true := by
    rw [hOut]
    simp only [handleOwnedEvent, hEvent]
    rfl
  simp only [pressesRun, accepted, result, perform, Prod.map, Option.any_some, hAccepted, hClient,
    hLease, hEvent, decide_true, Bool.and_self]

theorem refresh_of_presses {s : CommandSupervisor} {c : TimedCall}
    (hLease : s.state.leaseId ≠ "") (h : s.Presses c s.state) :
    (s.step c).lastLeaseReceiveAt = some c.now ∧
      s.refreshes s.state.leaseClientId s.state.leaseId c = true := by
  have hPress := pressesRun_of_presses h
  obtain ⟨m, hCall, hEvent, hClient, hId, hOut⟩ := h
  obtain ⟨call, now⟩ := c
  cases hCall
  refine ⟨?_, ?_⟩
  · change (s.handleControlEvent m now).1.lastLeaseReceiveAt = _
    have hMoves := handleOwnedEvent_movesTo (s.refreshed m now) m now
      (leaseActive_iff.mpr hLease) hId
    rw [if_neg (by simp [hEvent])] at hMoves
    rw [hOut]
    exact hMoves.lastLeaseReceiveAt
  · simp only [pressesRun, refreshes, Bool.and_eq_true, Bool.or_eq_true] at hPress ⊢
    exact ⟨hPress.1.1, Or.inl hPress.2⟩

theorem Permission.step {init : CommandSupervisor} {past : List TimedCall} {c : TimedCall}
    (h : Permission init past (after step init past)) :
    Permission init (c :: past) (after step init (c :: past)) := by
  rw [after_cons]
  generalize hS : after CommandSupervisor.step init past = s at h
  have hTenure : ∀ {client lease}, Tenure init client lease past →
      s.tenureEnds c = false → Tenure init client lease (c :: past) :=
    fun h hEnds => Since.keep (by rw [along, hS]; exact hEnds) h
  refine ⟨h.interlocked.step c, fun hLease => ?_, fun hArmed => ?_, fun hArmed => ?_⟩
  · rcases tenure_step hLease with ⟨hOld, hEnds, hClient, hId⟩ | hGrant
    · rw [hClient, hId]
      exact hTenure (h.tenure hOld) hEnds
    · exact Since.start (by rw [along, hS]; exact hGrant)
  · obtain ⟨⟨⟨hClient, hLease, _⟩, _⟩, hWas⟩ := armed_step h.interlocked hArmed
    rw [hClient, hLease]
    rcases hWas with hWas | hPress
    · refine Since.keep ?_ (h.pressed hWas)
      rw [along, hS]
      exact not_disarms_of_armed h.interlocked hArmed
    · refine Since.start ⟨?_, h.tenure (hLease ▸ hArmed.lease)⟩
      rw [hS]
      exact pressesRun_of_presses hPress
  · obtain ⟨⟨⟨hClient, hLease, _⟩, _⟩, hWas⟩ := armed_step h.interlocked hArmed
    rw [hClient, hLease]
    have hStart : s.refreshes s.state.leaseClientId s.state.leaseId c = true →
        RefreshedAt init s.state.leaseClientId s.state.leaseId c.now (c :: past) := by
      intro hRefresh
      refine Or.inl ?_
      rw [along, hS]
      exact ⟨hRefresh, rfl⟩
    rcases hWas with hWas | hPress
    · obtain ⟨t, hAt, hRefreshed⟩ := h.refreshed hWas
      rcases refresh_step h.interlocked hArmed with hSame | ⟨hNow, hRefresh⟩
      · exact ⟨t, hSame.trans hAt, hRefreshed.cons⟩
      · exact ⟨c.now, hNow, hStart hRefresh⟩
    · obtain ⟨hNow, hRefresh⟩ := refresh_of_presses (hLease ▸ hArmed.lease) hPress
      exact ⟨c.now, hNow, hStart hRefresh⟩

/-- A new supervisor holds no lease and no RUN. -/
theorem init_state {lease raw : PyFloat} {liveness : Option PyFloat} {manual speed : PyFloat}
    {floor : ℚ} {map : String} {s : CommandSupervisor}
    (h : init lease raw liveness manual speed floor map = .ok s) :
    s.state = { activeAutonomyMap := map } := by
  unfold init at h
  repeat' split at h
  all_goals cases h
  rfl

theorem init_default (map : String) :
    init (.finite defaultLeaseTimeoutSec) (.finite defaultRawAutonomyTimeoutSec)
      (some (.finite defaultControlLivenessSec)) (.finite defaultManualTimeoutSec)
      (.finite defaultManualMaxSpeedMps) defaultMinimumMovingSpeedMps map =
        .ok (defaultSupervisor map) := by
  have hLease : 0 < defaultLeaseTimeoutSec := (defaultSupervisor map).config.lease_pos
  have hRaw : 0 < defaultRawAutonomyTimeoutSec := (defaultSupervisor map).config.raw_pos
  have hLive : defaultLeaseTimeoutSec ≤ defaultControlLivenessSec :=
    (defaultSupervisor map).config.liveness_ge
  have hManual : 0 < defaultManualTimeoutSec := (defaultSupervisor map).config.manual_pos
  have hSpeed : manualSpeedCeilingValid (.finite defaultManualMaxSpeedMps)
      defaultMinimumMovingSpeedMps = true := by decide +kernel
  unfold init
  simp only [PyFloat.finite?_finite, Option.getD_some]
  rw [dif_pos hLease, dif_pos hRaw, dif_pos hLive, dif_pos hManual, if_pos hSpeed]
  rfl

theorem permission_init {s : CommandSupervisor} {map : String}
    (h : s.state = { activeAutonomyMap := map }) : Permission s [] s := by
  refine ⟨?_, fun hLease => ?_, fun hArmed => ?_, fun hArmed => ?_⟩
  · rw [h]; exact .of_disarmed rfl rfl rfl
  · rw [h] at hLease; exact absurd rfl hLease
  all_goals
    have hHeld := hArmed.held
    rw [h] at hHeld
    cases hHeld

theorem permission_after {init : CommandSupervisor} {map : String}
    (h : init.state = { activeAutonomyMap := map }) (past : List TimedCall) :
    Permission init past (after step init past) := by
  induction past with
  | nil => exact permission_init h
  | cons c past ih => exact ih.step

/-! ## Forwarded samples -/

/-- What stands behind an autonomy command returned at time `now` with this state. -/
structure Permitted (init : CommandSupervisor) (past : List TimedCall) (now : ℚ)
    (state : PaddockState) : Prop where
  /-- An event of the current lease arrived in time. -/
  refreshed : Once (along step init fun s c =>
    s.refreshes state.leaseClientId state.leaseId c = true ∧
      now - c.now ≤ init.config.leaseTimeoutSec) past
  /-- RUN was pressed in the current tenure, and nothing has disarmed it. -/
  pressed : Pressed init state.leaseClientId state.leaseId past
  dualsense : state.dualsenseActive = false
  mode : state.mode = .autonomy
  goal : ∃ g, state.goal = some g ∧ g.mapName = state.activeAutonomyMap ∧ g.mapName ≠ ""

theorem receiveRawAutonomy_forwards {s : CommandSupervisor} {command : VelocityCommand} {now : ℚ}
    (h : (s.receiveRawAutonomy command now).2.autonomyCommand ≠ none) :
    (s.receiveRawAutonomy command now).2.snapshot.state = s.state ∧
      s.state.autonomyPermitted = true ∧
      withinAge s.config.leaseTimeoutSec (s.leaseAge now) = true := by
  unfold receiveRawAutonomy at h ⊢
  extract_lets at h ⊢
  by_cases hValid : command.valid = false
  · rw [if_pos hValid] at h
    exact absurd rfl h
  · rw [if_neg hValid] at h ⊢
    split at h
    · rename_i hOpen
      rw [if_pos hOpen]
      obtain ⟨hAuthority, hFresh, -⟩ := hOpen
      have hPermitted := (authority_eq_paddockAutonomy_iff.mp hAuthority).1
      have hLive : s.expireLease now = s :=
        expireLease_active (leaseActive_iff.mpr (autonomyPermitted_iff.mp hPermitted).2.1)
      change (s.expireLease now).state.autonomyPermitted = true at hPermitted
      change leaseIsFresh (s.expireLease now) now = true at hFresh
      change (s.expireLease now).state = s.state ∧ _
      rw [hLive] at hPermitted hFresh ⊢
      refine ⟨rfl, hPermitted, ?_⟩
      simp only [leaseIsFresh, Bool.and_eq_true] at hFresh
      exact hFresh.2
    · exact absurd rfl h

/-- A forwarded autonomy sample has a timely event of its lease behind it, and a RUN pressed in its
tenure that nothing has disarmed. `permission_after` keeps for every armed state the refresh of the
lease and the press; `receiveRawAutonomy_forwards` says which gates a forwarded sample has passed.
-/
theorem autonomyCommand_permitted {lease raw : PyFloat} {liveness : Option PyFloat}
    {manual speed : PyFloat} {floor : ℚ} {map : String} {init : CommandSupervisor}
    (hInit : CommandSupervisor.init lease raw liveness manual speed floor map = .ok init)
    (past : List TimedCall) (command : VelocityCommand) (now : ℚ) {result : SupervisorResult}
    (hResult : (after step init past).result ⟨.receiveRawAutonomy command, now⟩ = some result)
    (hForward : result.autonomyCommand ≠ none) :
    Permitted init past now result.snapshot.state := by
  have hHistory := permission_after (init_state hInit) past
  generalize hS : after step init past = s at hHistory hResult
  cases hResult
  obtain ⟨hState, hPermitted, hFresh⟩ := receiveRawAutonomy_forwards hForward
  obtain ⟨hMode, hLease, hHeld, hUnblocked, hDual, hGoal⟩ := autonomyPermitted_iff.mp hPermitted
  have hArmed : Armed s.state := ⟨hMode, hLease, hHeld, hUnblocked⟩
  obtain ⟨t, hAt, hRefreshed⟩ := hHistory.refreshed hArmed
  change Permitted init past now (s.receiveRawAutonomy command now).2.snapshot.state
  rw [hState]
  refine ⟨?_, hHistory.pressed hArmed, hDual, hMode, ?_⟩
  · have hConfig : s.config = init.config := hS ▸ after_config init past
    rw [leaseAge, hAt, hConfig] at hFresh
    simp only [age, Option.map_some, withinAge, decide_eq_true_eq, max_le_iff] at hFresh
    refine hRefreshed.mono (fun _ _ _ => trivial) ?_
    rintro _ c ⟨hRefresh, rfl⟩
    exact ⟨hRefresh, hFresh.2⟩
  · obtain ⟨g, hg⟩ := Option.isSome_iff_exists.mp hGoal
    exact ⟨g, hg, hHistory.interlocked.goal g hg⟩

/-- A run of the client `c` whose last event before a sample at time `2 / 10` is a goal that is
not finite; latest call first. -/
def lateGoalRun : List TimedCall :=
  let sent (event : ControlEvent) (sequence : Int) (goalX : PyFloat) (now : ℚ) : TimedCall :=
    ⟨.handleControlEvent { event, clientId := "c", leaseId := "l", sequence, goalX }, now⟩
  [sent .goalSelected 4 .nan (14 / 100), sent .runPressed 3 (.finite 0) (3 / 100),
    sent .goalSelected 2 (.finite 0) (2 / 100), ⟨.setRuntimeMode .autonomy "m" true, 1 / 100⟩,
    sent .leaseAcquired 1 (.finite 0) 0]

theorem autonomyCommand_permitted_lateGoalRun :
    Permitted (defaultSupervisor "m") lateGoalRun (2 / 10)
      ((after step (defaultSupervisor "m") lateGoalRun).receiveRawAutonomy {}
        (2 / 10)).2.snapshot.state :=
  autonomyCommand_permitted (init_default "m") lateGoalRun {} (2 / 10) rfl (by decide +kernel)

/-- The timely event need not have been accepted: the goal of `lateGoalRun` was refused, and
every accepted event of the lease is older than the timeout. -/
theorem forwarded_without_accepted_event :
    (lateGoalRun.reverse.Pairwise fun c d => c.now ≤ d.now) ∧
      ((after step (defaultSupervisor "m") lateGoalRun).result
        ⟨.receiveRawAutonomy {}, 2 / 10⟩).any (fun r => r.autonomyCommand.isSome &&
          r.snapshot.state.leaseClientId = "c" && r.snapshot.state.leaseId = "l") = true ∧
      ¬ Once (along step (defaultSupervisor "m") fun s c =>
        s.refreshes "c" "l" c = true ∧ s.accepted c = true ∧
          2 / 10 - c.now ≤ (defaultSupervisor "m").config.leaseTimeoutSec) lateGoalRun := by
  decide +kernel

end CommandSupervisor

end PreRunner.Paddock
