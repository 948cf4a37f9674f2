import PreRunner.Paddock.AutonomyPermission

/-!
# The manual demand the supervisor holds

A manual demand is held only under a lease (`Leased`). A call takes a new demand and returns it, or
it drops the held demand, or it keeps it under the same lease (`demand_case`). A manual command is
forwarded only by `receive_raw_manual`, for the sequence number of the demand held then
(`manualCommand_case`). The numbers of the accepted events only rise within a lease generation
(`number_case`), and a demand has the number of its event (`taken_number`).
-/

namespace PreRunner.Paddock

open PaddockState

/-- The sequence number lies in the lower half of its 64-bit range. -/
def InLowerHalf (sequence : Int) : Prop := 0 ≤ sequence ∧ sequence < 2 ^ 63

instance (sequence : Int) : Decidable (InLowerHalf sequence) :=
  inferInstanceAs (Decidable (_ ∧ _))

theorem lt_of_isNewerSequence {candidate previous : Int} (hCandidate : InLowerHalf candidate)
    (hPrevious : InLowerHalf previous) (h : isNewerSequence candidate previous = true) :
    previous < candidate := by
  obtain ⟨hLow, hHigh⟩ := hCandidate
  obtain ⟨hLow', hHigh'⟩ := hPrevious
  simp only [isNewerSequence, Bool.and_eq_true, decide_eq_true_eq] at h
  omega

theorem SameLease.refl (state : PaddockState) : SameLease state state := ⟨rfl, rfl, rfl⟩

theorem SameLease.trans {first second third : PaddockState} (h : SameLease first second)
    (h' : SameLease second third) : SameLease first third :=
  ⟨h'.client.trans h.client, h'.lease.trans h.lease, h'.generation.trans h.generation⟩

namespace CommandSupervisor

/-- The held demand is dropped, or kept under the same lease. -/
inductive KeepsDemand (s next : CommandSupervisor) : Prop
  | dropped (h : next.manualDemand = none)
  | kept (h : next.manualDemand = s.manualDemand) (hLease : SameLease s.state next.state)

/-- A demand is held only under a lease. -/
def Leased (s : CommandSupervisor) : Prop := s.manualDemand ≠ none → s.state.leaseId ≠ ""

variable {s next : CommandSupervisor}

theorem KeepsDemand.refl (s : CommandSupervisor) : KeepsDemand s s := .kept rfl (.refl _)

theorem KeepsDemand.trans {middle : CommandSupervisor} (h : KeepsDemand s middle)
    (h' : KeepsDemand middle next) : KeepsDemand s next := by
  cases h' with
  | dropped hNone => exact .dropped hNone
  | kept hSame hLease =>
    cases h with
    | dropped hNone => exact .dropped (hSame.trans hNone)
    | kept hSame' hLease' => exact .kept (hSame.trans hSame') (hLease'.trans hLease)

theorem KeepsDemand.leased (h : KeepsDemand s next) (hLeased : s.Leased) : next.Leased := by
  intro hHeld
  cases h with
  | dropped hNone => exact absurd hNone hHeld
  | kept hSame hLease =>
    rw [hLease.lease]
    exact hLeased (hSame ▸ hHeld)

/-! ## The parts of a call -/

theorem keepsDemand_expireLease (s : CommandSupervisor) (now : ℚ) :
    KeepsDemand s (s.expireLease now) := by
  rw [expireLease_eq]
  split
  · exact .dropped rfl
  · exact .refl s

theorem keepsDemand_expireManual (s : CommandSupervisor) (now : ℚ) :
    KeepsDemand s (s.expireManual now) := by
  unfold expireManual
  split
  · exact .dropped rfl
  · exact .refl s

theorem keepsDemand_clearManualIfInactive (s : CommandSupervisor) :
    KeepsDemand s s.clearManualIfInactive := by
  unfold clearManualIfInactive
  split
  · exact .refl s
  · exact .dropped rfl

/-- A move of the state under the same lease, and the common end of an event. -/
theorem keepsDemand_finishEvent {state : PaddockState} (hLease : SameLease s.state state)
    (now : ℚ) : KeepsDemand s (finishEvent { s with state } now).1 := by
  have hMove : KeepsDemand s { s with state } := .kept rfl hLease
  exact hMove.trans (keepsDemand_clearManualIfInactive _)

/-- A state without manual input drops the demand. -/
theorem finishEvent_dropped (hManual : s.state.manualActive = false) (now : ℚ) :
    (s.finishEvent now).1.manualDemand = none := by
  change s.clearManualIfInactive.manualDemand = none
  unfold clearManualIfInactive
  rw [hManual]
  rfl

theorem sameLease_transition {state : PaddockState} {event : Event} {args : TransitionArgs}
    (hLease : state.leaseActive = true) (hId : args.leaseId = state.leaseId)
    (hEvent : event = .selectGoal ∨ event = .runPress ∨ event = .runRelease ∨ event = .stop ∨
      event = .manualActive ∨ event = .manualInactive) :
    SameLease state (transition state event args).state := by
  rw [transition_owned hLease hId (Or.inr hEvent)]
  refine (sameTenure_ownerTransition state event args ?_).toSameLease
  rintro rfl
  simp at hEvent

theorem sameLease_dualsense (state : PaddockState) (active : Bool) :
    SameLease state
      (transition state (if active then .dualsenseActive else .dualsenseInactive)).state := by
  cases active with
  | false => exact ⟨rfl, rfl, rfl⟩
  | true =>
    change SameLease state (transition state .dualsenseActive).state
    unfold transition
    dsimp only
    split <;> exact ⟨rfl, rfl, rfl⟩

/-! ## What a call does to the demand -/

/-- A call takes a new demand and returns it, or keeps or drops the held one. -/
inductive DemandCase (s next : CommandSupervisor) (result : Option SupervisorResult) : Prop
  | taken (r : SupervisorResult) (demand : ManualDemand) (hResult : result = some r)
      (hDemand : r.manualDemand = some demand) (hNext : next.manualDemand = some demand)
      (hLease : next.state.leaseId ≠ "")
  | kept (hResult : ∀ r, result = some r → r.manualDemand = none) (hKeeps : KeepsDemand s next)

theorem DemandCase.leased {result : Option SupervisorResult} (h : DemandCase s next result)
    (hLeased : s.Leased) : next.Leased := by
  cases h with
  | taken r demand hResult hDemand hNext hLease => exact fun _ => hLease
  | kept hResult hKeeps => exact hKeeps.leased hLeased

theorem DemandCase.of_trans {middle : CommandSupervisor} {result : Option SupervisorResult}
    (hKeeps : KeepsDemand s middle) (h : DemandCase middle next result) :
    DemandCase s next result := by
  cases h with
  | taken r demand hResult hDemand hNext hLease =>
    exact .taken r demand hResult hDemand hNext hLease
  | kept hResult hKeeps' => exact .kept hResult (hKeeps.trans hKeeps')

theorem acceptManual_demand (s : CommandSupervisor) (m : ControlMessage) (now : ℚ)
    (hLease : s.state.leaseActive = true) (hId : m.leaseId = s.state.leaseId) :
    DemandCase s (s.acceptManual m now).1 (some (s.acceptManual m now).2) := by
  unfold acceptManual
  split
  · split
    · exact .kept (by rintro r ⟨⟩; rfl) (.refl s)
    · rename_i hAuthority
      have hManual : s.state.authority = .paddockManual := not_not.mp hAuthority
      exact .taken _ _ rfl rfl rfl (authority_eq_paddockManual_iff.mp hManual).2.2.1
  · exact .kept (by rintro r ⟨⟩; rfl) (.kept rfl (sameLease_transition hLease hId (by simp)))

theorem handleOwnedEvent_demand (s : CommandSupervisor) (m : ControlMessage) (now : ℚ)
    (hLease : s.state.leaseActive = true) (hId : m.leaseId = s.state.leaseId) :
    DemandCase s (s.handleOwnedEvent m now).1 (some (s.handleOwnedEvent m now).2) := by
  have hNone : ∀ next : CommandSupervisor × SupervisorResult, next.2.manualDemand = none →
      KeepsDemand s next.1 → DemandCase s next.1 (some next.2) := by
    intro next hDemand hKeeps
    exact .kept (by rintro r ⟨⟩; exact hDemand) hKeeps
  unfold handleOwnedEvent
  cases m.event with
  | heartbeat | leaseAcquired => exact hNone _ rfl (.refl s)
  | clearStop => exact hNone _ rfl (.kept rfl (sameLease_transition hLease hId (by simp)))
  | stop | runPressed | runReleased =>
    exact hNone _ rfl (keepsDemand_finishEvent (sameLease_transition hLease hId (by simp)) now)
  | goalSelected =>
    dsimp only
    split
    · exact hNone _ rfl (keepsDemand_finishEvent (sameLease_transition hLease hId (by simp)) now)
    · exact hNone _ rfl (.refl s)
  | manualActive =>
    have hSame := @sameLease_transition s.state .manualActive { leaseId := m.leaseId } hLease hId
      (by simp)
    have hMove : KeepsDemand s { s with
        state := (transition s.state .manualActive { leaseId := m.leaseId }).state } :=
      .kept rfl hSame
    refine DemandCase.of_trans hMove (acceptManual_demand _ m now ?_ ?_)
    · rw [leaseActive_iff] at hLease ⊢
      exact hSame.lease ▸ hLease
    · exact hId.trans hSame.lease.symm
  | manualInactive =>
    refine hNone _ rfl (.dropped ?_)
    change (clearManualIfInactive _).manualDemand = none
    unfold clearManualIfInactive
    split <;> rfl
  | leaseReleased =>
    refine hNone _ rfl (.dropped (finishEvent_dropped ?_ now))
    change (transition s.state .releaseLease { leaseId := m.leaseId }).state.manualActive = false
    rw [hId, transition_releaseLease hLease]
    rfl
  | leaseLost =>
    refine hNone _ rfl (.dropped (finishEvent_dropped ?_ now))
    change (transition s.state .loseLease { leaseId := m.leaseId }).state.manualActive = false
    rw [hId, transition_loseLease hLease]
    rfl

theorem handleControlEvent_demand (hLeased : s.Leased) (m : ControlMessage) (now : ℚ) :
    DemandCase s (s.handleControlEvent m now).1 (some (s.handleControlEvent m now).2) := by
  have hKeeps := s.keepsDemand_expireLease now
  have hDropped := hKeeps.leased hLeased
  have hCase := handleControlEvent_case s m now
  generalize s.handleControlEvent m now = out at hCase
  refine DemandCase.of_trans hKeeps ?_
  cases hCase with
  | refused => exact .kept (by rintro r ⟨⟩; rfl) (.refl _)
  | granted reason hFree hClient hLease hEvent =>
    refine .kept (by rintro r ⟨⟩; rfl) (.dropped ?_)
    by_contra hHeld
    exact hDropped hHeld hFree
  | owned hEvent hActive hClient hLease hNewer =>
    have hRefresh : KeepsDemand (s.expireLease now) ((s.expireLease now).refreshed m now) :=
      .kept rfl (.refl _)
    exact DemandCase.of_trans hRefresh
      (handleOwnedEvent_demand _ m now (leaseActive_iff.mpr hActive) hLease)

theorem receiveRawManual_keeps (s : CommandSupervisor) (command : VelocityCommand)
    (sequence : Int) (now : ℚ) : KeepsDemand s (s.receiveRawManual command sequence now).1 := by
  have hKeeps := (s.keepsDemand_expireLease now).trans (keepsDemand_expireManual _ now)
  unfold receiveRawManual
  dsimp only
  split
  · exact hKeeps
  · have hNext : KeepsDemand ((s.expireLease now).expireManual now)
        { (s.expireLease now).expireManual now with lastRawManualAt := some now } :=
      .kept rfl (.refl _)
    split <;> exact hKeeps.trans hNext

theorem setRuntimeMode_keeps (s : CommandSupervisor) (mode : Mode) (map : String) (now : ℚ)
    (stable : Bool) : KeepsDemand s (s.setRuntimeMode mode map now stable).1 := by
  refine (s.keepsDemand_expireLease now).trans ?_
  unfold setRuntimeMode
  dsimp only
  refine KeepsDemand.trans ?_ (keepsDemand_clearManualIfInactive _)
  exact .kept rfl ⟨rfl, rfl, rfl⟩

/-- Every call takes a demand it returns, or keeps or drops the held one. -/
theorem demand_case (hLeased : s.Leased) (c : TimedCall) :
    DemandCase s (s.step c) (s.result c) := by
  obtain ⟨call, now⟩ := c
  have hExpire := s.keepsDemand_expireLease now
  cases call with
  | handleControlEvent m => exact handleControlEvent_demand hLeased m now
  | tick =>
    exact .kept (by rintro r ⟨⟩; rfl) (hExpire.trans (keepsDemand_expireManual _ now))
  | setRuntimeMode mode map stable =>
    exact .kept (by rintro r ⟨⟩; rfl) (s.setRuntimeMode_keeps mode map now stable)
  | requestMode mode requestId leaseId =>
    exact .kept (by rintro r ⟨⟩; rfl)
      (hExpire.trans (.kept rfl (sameLease_requestMode (s.expireLease now).state _)))
  | setDualsenseActive active =>
    exact .kept (by rintro r ⟨⟩; rfl)
      (hExpire.trans (keepsDemand_finishEvent (sameLease_dualsense _ active) now))
  | receiveRawAutonomy command =>
    have hNone : (s.receiveRawAutonomy command now).2.manualDemand = none := by
      unfold receiveRawAutonomy
      dsimp only
      split
      · rfl
      · split <;> rfl
    refine .kept (by rintro r ⟨⟩; exact hNone) (hExpire.trans ?_)
    change KeepsDemand _ (s.receiveRawAutonomy command now).1
    unfold receiveRawAutonomy
    dsimp only
    split
    · exact .kept rfl (.refl _)
    · split <;> exact .kept rfl (.refl _)
  | receiveRawManual command sequence =>
    have hNone : (s.receiveRawManual command sequence now).2.manualDemand = none := by
      unfold receiveRawManual
      dsimp only
      split
      · rfl
      · split <;> rfl
    exact .kept (by rintro r ⟨⟩; exact hNone) (s.receiveRawManual_keeps command sequence now)
  | restart => exact .kept (by rintro r ⟨⟩; rfl) (.dropped rfl)
  | setManualMaxSpeedMps value =>
    have hKeeps : KeepsDemand s ((s.setManualMaxSpeedMps value).getD s) := by
      unfold setManualMaxSpeedMps
      split
      · exact .kept rfl (.refl _)
      · exact .refl s
    have hNone : s.result ⟨.setManualMaxSpeedMps value, now⟩ = none := rfl
    exact .kept (fun r hResult => by rw [hNone] at hResult; cases hResult) hKeeps

theorem handleOwnedEvent_manualCommand (s : CommandSupervisor) (m : ControlMessage) (now : ℚ) :
    (s.handleOwnedEvent m now).2.manualCommand = none := by
  unfold handleOwnedEvent
  cases m.event with
  | goalSelected =>
    dsimp only
    split <;> rfl
  | manualActive =>
    dsimp only
    unfold acceptManual
    split
    · split <;> rfl
    · rfl
  | _ => rfl

theorem handleControlEvent_manualCommand (s : CommandSupervisor) (m : ControlMessage) (now : ℚ) :
    (s.handleControlEvent m now).2.manualCommand = none := by
  have hCase := handleControlEvent_case s m now
  generalize s.handleControlEvent m now = out at hCase
  cases hCase with
  | refused | granted => rfl
  | owned => exact handleOwnedEvent_manualCommand _ m now

theorem receiveRawAutonomy_manualCommand (s : CommandSupervisor) (command : VelocityCommand)
    (now : ℚ) : (s.receiveRawAutonomy command now).2.manualCommand = none := by
  unfold receiveRawAutonomy
  dsimp only
  split
  · rfl
  · split <;> rfl

/-- A manual command is forwarded by `receive_raw_manual` only, for the demand held then. -/
theorem manualCommand_case (c : TimedCall) {r : SupervisorResult} {command : VelocityCommand}
    (hResult : s.result c = some r) (hCommand : r.manualCommand = some command) :
    ∃ sequence demand, c.call = .receiveRawManual command sequence ∧
      (s.step c).manualDemand = some demand ∧ demand.sequence = sequence ∧
      r.manualDemand = none := by
  obtain ⟨call, now⟩ := c
  cases call with
  | receiveRawManual raw sequence =>
    change some (s.receiveRawManual raw sequence now).2 = some r at hResult
    change ∃ sequence' demand, _ ∧ (s.receiveRawManual raw sequence now).1.manualDemand = _ ∧ _
    unfold receiveRawManual at hResult ⊢
    generalize (s.expireLease now).expireManual now = ready at hResult ⊢
    dsimp only at hResult ⊢
    split at hResult
    · cases hResult
      cases hCommand
    · rename_i hDemand
      simp only [not_or, not_not] at hDemand
      obtain ⟨demand, hHeld, hSequence⟩ := Option.map_eq_some_iff.mp hDemand.2
      rw [if_neg (by simp only [not_or, not_not]; exact hDemand)]
      split at hResult
      · rename_i hOpen
        rw [if_pos hOpen]
        cases hResult
        cases hCommand
        exact ⟨sequence, demand, rfl, hHeld, hSequence, rfl⟩
      · cases hResult
        cases hCommand
  | handleControlEvent m =>
    cases hResult
    cases (s.handleControlEvent_manualCommand m now).symm.trans hCommand
  | receiveRawAutonomy raw =>
    cases hResult
    cases (s.receiveRawAutonomy_manualCommand raw now).symm.trans hCommand
  | setManualMaxSpeedMps value => cases hResult
  | tick | setRuntimeMode mode map stable | requestMode mode requestId leaseId
    | setDualsenseActive active | restart =>
    cases hResult
    cases hCommand

/-! ## Sequence numbers -/

/-- What a call does to the last sequence number: within a lease generation only a newer number
replaces it. -/
inductive NumberCase (s next : CommandSupervisor) (call : Call) : Prop
  | kept (hGeneration : next.state.leaseGeneration = s.state.leaseGeneration)
      (hLast : next.lastControlSequence = s.lastControlSequence)
  | raised (m : ControlMessage) (hCall : call = .handleControlEvent m)
      (hGeneration : next.state.leaseGeneration = s.state.leaseGeneration)
      (hLast : next.lastControlSequence = some m.sequence)
      (hNewer : ∀ last, s.lastControlSequence = some last →
        isNewerSequence m.sequence last = true)
  | fresh (hGeneration : s.state.leaseGeneration < next.state.leaseGeneration)
      (hLast : next.lastControlSequence = none ∨
        ∃ m, call = .handleControlEvent m ∧ next.lastControlSequence = some m.sequence)

variable {call : Call}

theorem NumberCase.of_kept {middle : CommandSupervisor}
    (hGeneration : middle.state.leaseGeneration = s.state.leaseGeneration)
    (hLast : middle.lastControlSequence = s.lastControlSequence)
    (h : NumberCase middle next call) : NumberCase s next call := by
  cases h with
  | kept hGeneration' hLast' =>
    exact .kept (hGeneration'.trans hGeneration) (hLast'.trans hLast)
  | raised m hCall hGeneration' hLast' hNewer =>
    exact .raised m hCall (hGeneration'.trans hGeneration) hLast' (hLast ▸ hNewer)
  | fresh hGeneration' hLast' => exact .fresh (hGeneration ▸ hGeneration') hLast'

theorem NumberCase.of_expireLease {now : ℚ} (h : NumberCase (s.expireLease now) next call) :
    NumberCase s next call := by
  rw [expireLease_eq] at h
  split at h
  · have hDropped : s.state.leaseGeneration < s.dropLease.state.leaseGeneration :=
      Nat.lt_succ_self _
    cases h with
    | kept hGeneration hLast => exact .fresh (hGeneration ▸ hDropped) (Or.inl hLast)
    | raised m hCall hGeneration hLast hNewer =>
      exact .fresh (hGeneration ▸ hDropped) (Or.inr ⟨m, hCall, hLast⟩)
    | fresh hGeneration hLast => exact .fresh (hDropped.trans hGeneration) hLast
  · exact h

@[simp] theorem clearManualIfInactive_lastControlSequence (s : CommandSupervisor) :
    s.clearManualIfInactive.lastControlSequence = s.lastControlSequence := by
  unfold clearManualIfInactive
  split <;> rfl

/-- The common end of an event keeps the numbers. -/
theorem finishEvent_kept {state : PaddockState} (hLease : SameLease s.state state) (now : ℚ) :
    NumberCase s (finishEvent { s with state } now).1 call := by
  refine .kept ?_ (clearManualIfInactive_lastControlSequence _)
  exact (congrArg PaddockState.leaseGeneration (clearManualIfInactive_state _)).trans
    hLease.generation

theorem acceptManual_kept (m : ControlMessage) (now : ℚ)
    (hLease : s.state.leaseActive = true) (hId : m.leaseId = s.state.leaseId) :
    NumberCase s (s.acceptManual m now).1 call := by
  unfold acceptManual
  split
  · split <;> exact .kept rfl rfl
  · exact .kept (@sameLease_transition s.state .manualInactive { leaseId := m.leaseId } hLease hId
      (by simp)).generation rfl

/-- An event of the owner keeps the number it was refreshed with, or ends the lease. -/
theorem handleOwnedEvent_number (s : CommandSupervisor) (m : ControlMessage) (now : ℚ)
    (hLease : s.state.leaseActive = true) (hId : m.leaseId = s.state.leaseId)
    (hNumber : s.lastControlSequence = some m.sequence) :
    NumberCase s (s.handleOwnedEvent m now).1 (.handleControlEvent m) := by
  have hOwned := @sameLease_transition s.state
  unfold handleOwnedEvent
  cases m.event with
  | heartbeat | leaseAcquired => exact .kept rfl rfl
  | clearStop =>
    exact .kept (@hOwned .stop { leaseId := m.leaseId } hLease hId (by simp)).generation rfl
  | stop =>
    exact finishEvent_kept (@hOwned .stop { leaseId := m.leaseId } hLease hId (by simp)) now
  | runPressed =>
    exact finishEvent_kept (@hOwned .runPress { leaseId := m.leaseId } hLease hId (by simp)) now
  | runReleased =>
    exact finishEvent_kept (@hOwned .runRelease { leaseId := m.leaseId } hLease hId (by simp)) now
  | goalSelected =>
    dsimp only
    split
    · exact finishEvent_kept (@hOwned .selectGoal _ hLease hId (by simp)) now
    · exact .kept rfl rfl
  | manualActive =>
    have hSame := @hOwned .manualActive { leaseId := m.leaseId } hLease hId (by simp)
    refine @NumberCase.of_kept s _ _ { s with
      state := (transition s.state .manualActive { leaseId := m.leaseId }).state }
      hSame.generation rfl (acceptManual_kept m now ?_ ?_)
    · rw [leaseActive_iff] at hLease ⊢
      exact hSame.lease ▸ hLease
    · exact hId.trans hSame.lease.symm
  | manualInactive =>
    have hSame := @hOwned .manualInactive { leaseId := m.leaseId } hLease hId (by simp)
    refine .kept ?_ (clearManualIfInactive_lastControlSequence _)
    exact (congrArg PaddockState.leaseGeneration (clearManualIfInactive_state _)).trans
      hSame.generation
  | leaseReleased =>
    refine .fresh ?_ (Or.inl (clearManualIfInactive_lastControlSequence _))
    change s.state.leaseGeneration < (clearManualIfInactive _).state.leaseGeneration
    rw [clearManualIfInactive_state]
    change _ < (transition s.state .releaseLease { leaseId := m.leaseId }).state.leaseGeneration
    rw [hId, transition_releaseLease hLease]
    exact Nat.lt_succ_self _
  | leaseLost =>
    refine .fresh ?_ (Or.inr ⟨m, rfl, ?_⟩)
    change s.state.leaseGeneration < (clearManualIfInactive _).state.leaseGeneration
    rw [clearManualIfInactive_state]
    change _ < (transition s.state .loseLease { leaseId := m.leaseId }).state.leaseGeneration
    rw [hId, transition_loseLease hLease]
    · exact Nat.lt_succ_self _
    · exact (clearManualIfInactive_lastControlSequence _).trans hNumber

theorem handleControlEvent_number (s : CommandSupervisor) (m : ControlMessage) (now : ℚ) :
    NumberCase s (s.handleControlEvent m now).1 (.handleControlEvent m) := by
  have hCase := handleControlEvent_case s m now
  generalize s.handleControlEvent m now = out at hCase
  refine @NumberCase.of_expireLease s out.1 _ now ?_
  cases hCase with
  | refused => exact .kept rfl rfl
  | granted => exact .fresh (Nat.lt_succ_self _) (Or.inr ⟨m, rfl, rfl⟩)
  | owned hEvent hActive hClient hLease hNewer =>
    have hOwned :=
      handleOwnedEvent_number ((s.expireLease now).refreshed m now) m now
        (leaseActive_iff.mpr hActive) hLease rfl
    cases hOwned with
    | kept hGeneration hLast => exact .raised m rfl hGeneration hLast hNewer
    | raised m' hCall hGeneration hLast _ =>
      cases hCall
      exact .raised m rfl hGeneration hLast hNewer
    | fresh hGeneration hLast => exact .fresh hGeneration hLast

theorem expireManual_kept (s : CommandSupervisor) (now : ℚ) :
    (s.expireManual now).state.leaseGeneration = s.state.leaseGeneration ∧
      (s.expireManual now).lastControlSequence = s.lastControlSequence := by
  have hLease : SameLease s.state
      (transition s.state .manualInactive { leaseId := s.state.leaseId }).state := by
    unfold transition
    dsimp only
    split
    · exact .refl _
    · exact (sameTenure_ownerTransition s.state .manualInactive _ nofun).toSameLease
  unfold expireManual
  split
  · exact ⟨hLease.generation, rfl⟩
  · exact ⟨rfl, rfl⟩

/-- Every callback keeps the last number, raises it, or moves to a new lease generation. -/
theorem number_case (c : TimedCall) (hRestart : c.call ≠ .restart) :
    NumberCase s (s.step c) c.call := by
  obtain ⟨call, now⟩ := c
  have hManual := (s.expireLease now).expireManual_kept now
  cases call with
  | handleControlEvent m => exact handleControlEvent_number s m now
  | tick => exact @NumberCase.of_expireLease s _ _ now (.kept hManual.1 hManual.2)
  | setRuntimeMode mode map stable =>
    refine @NumberCase.of_expireLease s _ _ now
      (.kept ?_ (clearManualIfInactive_lastControlSequence _))
    change (clearManualIfInactive _).state.leaseGeneration = _
    rw [clearManualIfInactive_state]
  | requestMode mode requestId leaseId =>
    refine @NumberCase.of_expireLease s _ _ now (.kept ?_ rfl)
    exact (sameLease_requestMode (s.expireLease now).state _).generation
  | setDualsenseActive active =>
    exact .of_expireLease (finishEvent_kept (sameLease_dualsense _ active) now)
  | receiveRawAutonomy command =>
    refine @NumberCase.of_expireLease s _ _ now ?_
    change NumberCase _ (s.receiveRawAutonomy command now).1 _
    unfold receiveRawAutonomy
    dsimp only
    split
    · exact .kept rfl rfl
    · split <;> exact .kept rfl rfl
  | receiveRawManual command sequence =>
    refine @NumberCase.of_expireLease s _ _ now ?_
    change NumberCase _ (s.receiveRawManual command sequence now).1 _
    unfold receiveRawManual
    dsimp only
    split
    · exact .kept hManual.1 hManual.2
    · split <;> exact .kept hManual.1 hManual.2
  | restart => exact absurd rfl hRestart
  | setManualMaxSpeedMps value =>
    change NumberCase s ((s.setManualMaxSpeedMps value).getD s) _
    unfold setManualMaxSpeedMps
    split <;> exact .kept rfl rfl

/-- A taken demand has the number of its event, which is newer than every number before. -/
structure TakenNumber (s next : CommandSupervisor) (call : Call) (demand : ManualDemand) :
    Prop where
  generation : next.state.leaseGeneration = s.state.leaseGeneration
  last : next.lastControlSequence = some demand.sequence
  newer : ∀ last, s.lastControlSequence = some last → isNewerSequence demand.sequence last = true
  call : ∃ m, call = .handleControlEvent m ∧ m.sequence = demand.sequence

theorem acceptManual_taken {m : ControlMessage} {now : ℚ} {demand : ManualDemand}
    (h : (s.acceptManual m now).2.manualDemand = some demand) :
    demand.sequence = m.sequence ∧ (s.acceptManual m now).1.state = s.state ∧
      (s.acceptManual m now).1.lastControlSequence = s.lastControlSequence := by
  unfold acceptManual at h ⊢
  split at h
  · split at h
    · cases h
    · rename_i hSpeed hSteering hAuthority
      rw [if_neg hAuthority]
      cases h
      exact ⟨rfl, rfl, rfl⟩
  · cases h

theorem handleOwnedEvent_taken {m : ControlMessage} {now : ℚ} {demand : ManualDemand}
    (hLease : s.state.leaseActive = true) (hId : m.leaseId = s.state.leaseId)
    (h : (s.handleOwnedEvent m now).2.manualDemand = some demand) :
    demand.sequence = m.sequence ∧
      (s.handleOwnedEvent m now).1.state.leaseGeneration = s.state.leaseGeneration ∧
      (s.handleOwnedEvent m now).1.lastControlSequence = s.lastControlSequence := by
  unfold handleOwnedEvent at h ⊢
  cases hEvent : m.event with
  | manualActive =>
    rw [hEvent] at h
    obtain ⟨hSequence, hState, hLast⟩ := acceptManual_taken h
    refine ⟨hSequence, (congrArg PaddockState.leaseGeneration hState).trans ?_, hLast⟩
    exact (@sameLease_transition s.state .manualActive { leaseId := m.leaseId } hLease hId
      (by simp)).generation
  | goalSelected =>
    rw [hEvent] at h
    dsimp only at h
    split at h <;> cases h
  | _ =>
    rw [hEvent] at h
    cases h

/-- A demand is taken by `handle_control_event` only. -/
theorem taken_number (c : TimedCall) {r : SupervisorResult} {demand : ManualDemand}
    (hResult : s.result c = some r) (hDemand : r.manualDemand = some demand) :
    TakenNumber s (s.step c) c.call demand := by
  obtain ⟨call, now⟩ := c
  cases call with
  | handleControlEvent m =>
    cases hResult
    have hCase := handleControlEvent_case s m now
    change (s.handleControlEvent m now).2.manualDemand = some demand at hDemand
    change TakenNumber s (s.handleControlEvent m now).1 _ demand
    generalize s.handleControlEvent m now = out at hCase hDemand
    cases hCase with
    | refused | granted => cases hDemand
    | owned hEvent hActive hClient hLease hNewer =>
      have hKept : s.expireLease now = s := expireLease_active (leaseActive_iff.mpr hActive)
      rw [hKept] at hActive hLease hNewer hDemand ⊢
      obtain ⟨hSequence, hGeneration, hLast⟩ :=
        @handleOwnedEvent_taken (s.refreshed m now) m now demand (leaseActive_iff.mpr hActive)
          hLease hDemand
      exact ⟨hGeneration, hLast.trans (congrArg some hSequence.symm), hSequence ▸ hNewer,
        m, rfl, hSequence.symm⟩
  | receiveRawAutonomy command =>
    cases hResult
    change (s.receiveRawAutonomy command now).2.manualDemand = some demand at hDemand
    unfold receiveRawAutonomy at hDemand
    dsimp only at hDemand
    split at hDemand
    · cases hDemand
    · split at hDemand <;> cases hDemand
  | receiveRawManual command sequence =>
    cases hResult
    change (s.receiveRawManual command sequence now).2.manualDemand = some demand at hDemand
    unfold receiveRawManual at hDemand
    dsimp only at hDemand
    split at hDemand
    · cases hDemand
    · split at hDemand <;> cases hDemand
  | setManualMaxSpeedMps value => cases hResult
  | tick | setRuntimeMode mode map stable | requestMode mode requestId leaseId
    | setDualsenseActive active | restart =>
    cases hResult
    cases hDemand

end CommandSupervisor

end PreRunner.Paddock
