import PreRunner.Paddock.EffectTrace
import PreRunner.Paddock.LeaseTenure

/-!
# The manual session

A manual session lasts while `manual_active` holds. `SessionCase` says what a call does to the
session it finds and to the demand that is retained for it: the session is closed together with
its demand, it is kept, an accepted `MANUAL_ACTIVE` takes a new demand into it, or it is abandoned
with the demand still retained. `SampleCase` says what a call does to the raw samples and to the
manual ceiling.
-/

namespace PreRunner.Paddock

open PaddockState Runs

namespace CommandSupervisor

/-! ## The session and its demand -/

/-- The manual session, its demand and its last input are the same in both states. -/
structure SameSession (s next : CommandSupervisor) : Prop where
  active : next.state.manualActive = s.state.manualActive
  demand : next.manualDemand = s.manualDemand
  input : next.lastManualInputAt = s.lastManualInputAt

/-- No manual session, and no demand is retained. -/
structure Closed (s : CommandSupervisor) : Prop where
  inactive : s.state.manualActive = false
  demand : s.manualDemand = none

/-- A call after which manual driving has ended without the common clean-up: a `CLEAR_STOP` or an
invalid `MANUAL_ACTIVE` of the owner, or a mode request that changes the mode. -/
def Abandons (s : CommandSupervisor) (c : TimedCall) : Prop :=
  match c.call with
  | .handleControlEvent m => (s.found c).Owns m ∧ (m.event = .clearStop ∨
      (m.event = .manualActive ∧ (m.manualSpeedMps.isfinite && m.manualSteering.isfinite) = false))
  | .requestMode mode requestId leaseId => ownsLease (s.found c).state leaseId = true ∧
      (s.found c).state.acceptedModeRequestId < requestId ∧
        ∃ next, mode = some next ∧ next ≠ (s.found c).state.mode
  | _ => False

/-- An accepted `MANUAL_ACTIVE` of the owner, with finite values where manual driving is
possible. -/
structure Activates (s : CommandSupervisor) (c : TimedCall) (m : ControlMessage)
    (speed steering : ℚ) :
    Prop where
  call : c.call = .handleControlEvent m
  owns : s.Owns m
  found : s.found c = s
  event : m.event = .manualActive
  speed : m.manualSpeedMps = .finite speed
  steering : m.manualSteering = .finite steering
  mode : s.state.mode ≠ .idle
  dualsense : s.state.dualsenseActive = false

/-- The demand that an accepted `MANUAL_ACTIVE` takes. -/
def demandOf (s : CommandSupervisor) (m : ControlMessage) (speed steering : ℚ) : ManualDemand :=
  { sequence := m.sequence
    signedSpeedMps := s.boundManualSpeed speed
    steeringNormalized := max (-1) (min 1 steering) }

/-- What a call does to the manual session it finds. -/
inductive SessionCase (s : CommandSupervisor) (c : TimedCall) : Prop
  | closed (h : (s.step c).Closed)
  | kept (h : SameSession (s.found c) (s.step c))
  | abandoned (hAbandons : s.Abandons c) (hActive : (s.step c).state.manualActive = false)
      (hDemand : (s.step c).manualDemand = (s.found c).manualDemand)
  | taken (m : ControlMessage) (speed steering : ℚ) (h : s.Activates c m speed steering)
      (hActive : (s.step c).state.manualActive = true)
      (hDemand : (s.step c).manualDemand = some (s.demandOf m speed steering))
      (hInput : (s.step c).lastManualInputAt = some c.now)

theorem SameSession.refl (s : CommandSupervisor) : SameSession s s := ⟨rfl, rfl, rfl⟩

theorem closed_or_same_clear {s next : CommandSupervisor} (h : SameSession s next) :
    next.clearManualIfInactive.Closed ∨ SameSession s next.clearManualIfInactive := by
  unfold clearManualIfInactive
  split
  · exact Or.inr h
  · rename_i hInactive
    exact Or.inl ⟨Bool.eq_false_iff.mpr hInactive, rfl⟩

theorem closed_clear {s : CommandSupervisor} (h : s.state.manualActive = false) :
    s.clearManualIfInactive.Closed := by
  unfold clearManualIfInactive
  rw [h]
  exact ⟨h, rfl⟩

theorem closed_or_same_expireManual (s : CommandSupervisor) (hLeased : s.state.leaseId = "" →
    s.state.manualActive = false) (now : ℚ) :
    (s.expireManual now).Closed ∨ SameSession s (s.expireManual now) := by
  unfold expireManual
  split
  · rename_i hExpires
    have hActive : s.state.manualActive = true := by
      rw [manualExpires, Bool.and_eq_true] at hExpires
      exact hExpires.1
    have hLease : s.state.leaseActive = true := by
      rw [leaseActive_iff]
      intro hFree
      rw [hLeased hFree] at hActive
      cases hActive
    refine Or.inl ⟨?_, rfl⟩
    change (transition s.state .manualInactive { leaseId := s.state.leaseId }).state.manualActive =
      false
    rw [transition_owned hLease rfl (by simp), ownerTransition_manualInactive]
  · exact Or.inr (.refl s)

/-! ## The events of the owner -/

/-- RUN and goal events do not touch the manual flag. -/
theorem manualActive_owner {state : PaddockState} {event : Event} {args : TransitionArgs}
    (hEvent : event = .selectGoal ∨ event = .runPress ∨ event = .runRelease) :
    (ownerTransition state event args).state.manualActive = state.manualActive := by
  unfold ownerTransition
  rcases hEvent with rfl | rfl | rfl
  · dsimp only
    split
    · rfl
    · split
      · rfl
      · split <;> rfl
  · dsimp only
    split
    · rfl
    · split <;> rfl
  · dsimp only
    split <;> rfl

theorem exists_of_isfinite {value : PyFloat} (h : value.isfinite = true) :
    ∃ v, value = .finite v := by
  cases value with
  | finite v => exact ⟨v, rfl⟩
  | _ => cases h

/-- What the end of `MANUAL_ACTIVE` does with its values. -/
inductive AcceptCase (s : CommandSupervisor) (m : ControlMessage) (now : ℚ)
    (next : CommandSupervisor) : Prop
  | taken (speed steering : ℚ) (hSpeed : m.manualSpeedMps = .finite speed)
      (hSteering : m.manualSteering = .finite steering)
      (hManual : s.state.authority = .paddockManual)
      (hNext : next = { s with
        manualDemand := some (s.demandOf m speed steering), lastManualInputAt := some now })
  | notEligible (hValues : (m.manualSpeedMps.isfinite && m.manualSteering.isfinite) = true)
      (hManual : s.state.authority ≠ .paddockManual) (hNext : next = s)
  | invalid (hValues : (m.manualSpeedMps.isfinite && m.manualSteering.isfinite) = false)
      (hNext : next = { s with state := { s.state with manualActive := false } })

theorem acceptManual_case {s : CommandSupervisor} {m : ControlMessage} {now : ℚ}
    (hLease : s.state.leaseActive = true) (hId : m.leaseId = s.state.leaseId) :
    AcceptCase s m now (s.acceptManual m now).1 := by
  have hOff : (transition s.state .manualInactive { leaseId := m.leaseId }).state =
      { s.state with manualActive := false } := by
    rw [transition_owned hLease hId (by simp)]
    exact ownerTransition_manualInactive s.state _
  unfold acceptManual
  split
  · rename_i speed steering hSpeed hSteering
    rw [PyFloat.finite?_eq_some] at hSpeed hSteering
    split
    · rename_i hManual
      exact .notEligible (by rw [hSpeed, hSteering]; rfl) hManual rfl
    · rename_i hManual
      exact .taken speed steering hSpeed hSteering (not_not.mp hManual) rfl
  · rename_i hNone
    refine .invalid ?_ ?_
    · by_contra hBoth
      rw [Bool.not_eq_false, Bool.and_eq_true] at hBoth
      obtain ⟨speed, hSpeed⟩ := exists_of_isfinite hBoth.1
      obtain ⟨steering, hSteering⟩ := exists_of_isfinite hBoth.2
      exact hNone speed steering (PyFloat.finite?_eq_some.mpr hSpeed)
        (PyFloat.finite?_eq_some.mpr hSteering)
    · rw [hOff]
      rfl

section Owned

variable {s : CommandSupervisor} {m : ControlMessage} {now : ℚ}

theorem session_kept (hFound : s.found ⟨.handleControlEvent m, now⟩ = s)
    (h : SameSession s (s.step ⟨.handleControlEvent m, now⟩)) :
    SessionCase s ⟨.handleControlEvent m, now⟩ := by
  refine .kept ?_
  rw [hFound]
  exact h

theorem session_clear (hFound : s.found ⟨.handleControlEvent m, now⟩ = s)
    {next : CommandSupervisor} (h : SameSession s next)
    (hStep : s.step ⟨.handleControlEvent m, now⟩ = next.clearManualIfInactive) :
    SessionCase s ⟨.handleControlEvent m, now⟩ := by
  rcases closed_or_same_clear h with hClosed | hSame
  · rw [← hStep] at hClosed
    exact .closed hClosed
  · rw [← hStep] at hSame
    exact session_kept hFound hSame

theorem session_abandoned (hFound : s.found ⟨.handleControlEvent m, now⟩ = s) (hOwns : s.Owns m)
    (hEvent : m.event = .clearStop ∨ (m.event = .manualActive ∧
      (m.manualSpeedMps.isfinite && m.manualSteering.isfinite) = false))
    (hActive : (s.step ⟨.handleControlEvent m, now⟩).state.manualActive = false)
    (hDemand : (s.step ⟨.handleControlEvent m, now⟩).manualDemand = s.manualDemand) :
    SessionCase s ⟨.handleControlEvent m, now⟩ := by
  refine .abandoned ?_ hActive (hDemand.trans (by rw [hFound]))
  change (s.found ⟨.handleControlEvent m, now⟩).Owns m ∧ _
  rw [hFound]
  exact ⟨hOwns, hEvent⟩

/-- `MANUAL_ACTIVE` of the owner. -/
theorem session_manualActive (hOwns : s.Owns m)
    (hFound : s.found ⟨.handleControlEvent m, now⟩ = s) (hEvent : m.event = .manualActive)
    (hStep : s.step ⟨.handleControlEvent m, now⟩ = (acceptManual { s.refreshed m now with
      state := (transition s.state .manualActive { leaseId := m.leaseId }).state } m now).1) :
    SessionCase s ⟨.handleControlEvent m, now⟩ := by
  have hActive := leaseActive_iff.mpr hOwns.active
  by_cases hEligible : (s.state.mode = .idle || s.state.dualsenseActive) = true
  · have hMoved : (transition s.state .manualActive { leaseId := m.leaseId }).state = s.state := by
      rw [transition_owned hActive hOwns.lease (by simp)]
      exact congrArg Transition.state (if_pos hEligible)
    rw [hMoved] at hStep
    have hCase := @acceptManual_case (s.refreshed m now) m now hActive hOwns.lease
    change AcceptCase _ m now (acceptManual { s.refreshed m now with state := s.state } m now).1
      at hCase
    rw [← hStep] at hCase
    cases hCase with
    | taken speed steering hSpeed hSteering hManual hNext =>
      obtain ⟨hMode, hDual, -⟩ := authority_eq_paddockManual_iff.mp hManual
      change s.state.mode ≠ .idle at hMode
      change s.state.dualsenseActive = false at hDual
      rw [hDual, Bool.or_false, decide_eq_true_eq] at hEligible
      exact absurd hEligible hMode
    | notEligible hValues hManual hNext =>
      refine session_kept hFound ?_
      rw [hNext]
      exact ⟨rfl, rfl, rfl⟩
    | invalid hValues hNext =>
      refine session_abandoned hFound hOwns (Or.inr ⟨hEvent, hValues⟩) ?_ ?_
      · rw [hNext]
      · rw [hNext]
        rfl
  · have hMoved : (transition s.state .manualActive { leaseId := m.leaseId }).state =
        s.state.released true := by
      rw [transition_owned hActive hOwns.lease (by simp)]
      exact congrArg Transition.state (if_neg hEligible)
    rw [hMoved] at hStep
    simp only [Bool.or_eq_true, decide_eq_true_eq, not_or, Bool.not_eq_true] at hEligible
    have hCase := @acceptManual_case { s.refreshed m now with state := s.state.released true } m now
      hActive hOwns.lease
    rw [← hStep] at hCase
    cases hCase with
    | taken speed steering hSpeed hSteering hManual hNext =>
      refine .taken m speed steering
        ⟨rfl, hOwns, hFound, hEvent, hSpeed, hSteering, hEligible.1, hEligible.2⟩ ?_ ?_ ?_
      · rw [hNext]
        rfl
      · rw [hNext]
        rfl
      · rw [hNext]
    | notEligible hValues hManual hNext =>
      have hIs : (s.state.released true).authority = .paddockManual :=
        authority_eq_paddockManual_iff.mpr ⟨hEligible.1, hEligible.2, hOwns.active, rfl⟩
      exact absurd hIs hManual
    | invalid hValues hNext =>
      refine session_abandoned hFound hOwns (Or.inr ⟨hEvent, hValues⟩) ?_ ?_
      · rw [hNext]
      · rw [hNext]
        rfl

/-- An event of the owner. -/
theorem session_owned (hOwns : s.Owns m)
    (hFound : s.found ⟨.handleControlEvent m, now⟩ = s)
    (hStep : s.step ⟨.handleControlEvent m, now⟩ =
      (handleOwnedEvent (s.refreshed m now) m now).1) :
    SessionCase s ⟨.handleControlEvent m, now⟩ := by
  have hActive := leaseActive_iff.mpr hOwns.active
  have hOwner : ∀ event, (event = .selectGoal ∨ event = .runPress ∨ event = .runRelease) →
      ∀ args : TransitionArgs, args.leaseId = m.leaseId →
      SameSession s { s.refreshed m now with state := (transition s.state event args).state } := by
    intro event hKind args hArgs
    refine ⟨?_, rfl, rfl⟩
    change (transition s.state event args).state.manualActive = s.state.manualActive
    rw [transition_owned hActive (hArgs.trans hOwns.lease)
      (by rcases hKind with rfl | rfl | rfl <;> simp)]
    exact manualActive_owner hKind
  have hOff : ∀ event, (event = .stop ∨ event = .manualInactive ∨ event = .releaseLease ∨
      event = .loseLease) →
      (transition s.state event { leaseId := m.leaseId }).state.manualActive = false := by
    rintro event (rfl | rfl | rfl | rfl)
    · rw [transition_owned hActive hOwns.lease (by simp)]
      rfl
    · rw [transition_owned hActive hOwns.lease (by simp), ownerTransition_manualInactive]
    · rw [hOwns.lease, transition_releaseLease hActive]
      rfl
    · rw [hOwns.lease, transition_loseLease hActive]
      rfl
  unfold handleOwnedEvent at hStep
  cases hEvent : m.event with
  | heartbeat | leaseAcquired =>
    rw [hEvent] at hStep
    exact session_kept hFound (hStep ▸ ⟨rfl, rfl, rfl⟩)
  | clearStop =>
    rw [hEvent] at hStep
    refine session_abandoned hFound hOwns (Or.inl hEvent) ?_ ?_
    · rw [hStep]
      exact hOff .stop (by simp)
    · rw [hStep]
      rfl
  | goalSelected =>
    rw [hEvent] at hStep
    dsimp only at hStep
    split at hStep
    · exact session_clear hFound (hOwner .selectGoal (by simp) _ rfl) hStep
    · exact session_kept hFound (hStep ▸ ⟨rfl, rfl, rfl⟩)
  | runPressed =>
    rw [hEvent] at hStep
    exact session_clear hFound (hOwner .runPress (by simp) _ rfl) hStep
  | runReleased =>
    rw [hEvent] at hStep
    exact session_clear hFound (hOwner .runRelease (by simp) _ rfl) hStep
  | stop =>
    rw [hEvent] at hStep
    exact .closed (hStep ▸ closed_clear (hOff .stop (by simp)))
  | manualInactive =>
    rw [hEvent] at hStep
    exact .closed (hStep ▸ closed_clear (hOff .manualInactive (by simp)))
  | leaseReleased =>
    rw [hEvent] at hStep
    exact .closed (hStep ▸ closed_clear (hOff .releaseLease (by simp)))
  | leaseLost =>
    rw [hEvent] at hStep
    exact .closed (hStep ▸ closed_clear (hOff .loseLease (by simp)))
  | manualActive =>
    rw [hEvent] at hStep
    exact session_manualActive hOwns hFound hEvent hStep

end Owned

/-! ## All calls -/

theorem coherent_found {s : CommandSupervisor} (h : Coherent s.state) (c : TimedCall) :
    Coherent (s.found c).state := by
  rcases s.found_cases c with hSame | ⟨-, hDropped⟩
  · rwa [hSame]
  · rw [hDropped]
    exact .withoutLease _

/-- A control event that keeps the record it finds, or a grant, keeps the session. -/
theorem handleControlEvent_session (s : CommandSupervisor) (m : ControlMessage) (now : ℚ) :
    SessionCase s ⟨.handleControlEvent m, now⟩ := by
  have hCase := handleControlEvent_case s m now
  generalize hOut : s.handleControlEvent m now = out at hCase
  have hStep : s.step ⟨.handleControlEvent m, now⟩ = out.1 := congrArg Prod.fst hOut
  cases hCase with
  | refused => exact .kept (hStep ▸ .refl _)
  | granted => exact .kept (hStep ▸ ⟨rfl, rfl, rfl⟩)
  | owned hEvent hActive hClient hLease hNewer =>
    have hLive : s.expireLease now = s := expireLease_active (leaseActive_iff.mpr hActive)
    rw [hLive] at hActive hClient hLease hNewer hStep
    exact session_owned ⟨hActive, hClient, hLease, hNewer⟩ hLive hStep

/-- A mode request keeps the manual flag, or it is one of the owner that changes the mode. -/
theorem requestMode_manualActive (state : PaddockState) (mode : Option Mode) (requestId : Int)
    (leaseId : String) :
    (transition state .requestMode { leaseId, mode, requestId }).state.manualActive =
        state.manualActive ∨
      ((ownsLease state leaseId = true ∧ state.acceptedModeRequestId < requestId ∧
        ∃ next, mode = some next ∧ next ≠ state.mode) ∧
      (transition state .requestMode { leaseId, mode, requestId }).state.manualActive = false) := by
  unfold transition ownerTransition
  dsimp only
  split
  · exact Or.inl rfl
  · rename_i hOwns
    rw [Bool.not_eq_true, Bool.not_eq_false'] at hOwns
    split
    · exact Or.inl rfl
    · rename_i next
      split
      · exact Or.inl rfl
      · rename_i hNew
        split
        · exact Or.inl rfl
        · rename_i hChange
          exact Or.inr ⟨⟨hOwns, not_le.mp hNew, next, rfl, hChange⟩, rfl⟩

theorem requestMode_session (s : CommandSupervisor) (mode : Option Mode) (requestId : Int)
    (leaseId : String) (now : ℚ) : SessionCase s ⟨.requestMode mode requestId leaseId, now⟩ := by
  rcases requestMode_manualActive (s.expireLease now).state mode requestId leaseId with
    hSame | ⟨hChanges, hOff⟩
  · exact .kept ⟨hSame, rfl, rfl⟩
  · exact .abandoned hChanges hOff rfl

theorem setDualsenseActive_session (s : CommandSupervisor) (active : Bool) (now : ℚ) :
    SessionCase s ⟨.setDualsenseActive active, now⟩ := by
  have hStep : s.step ⟨.setDualsenseActive active, now⟩ = clearManualIfInactive
      { s.expireLease now with
        state := (transition (s.expireLease now).state
          (if active then .dualsenseActive else .dualsenseInactive)).state } := rfl
  have hState : (transition (s.expireLease now).state
      (if active then .dualsenseActive else .dualsenseInactive)).state.manualActive =
        (s.expireLease now).state.manualActive ∨
      (transition (s.expireLease now).state
        (if active then .dualsenseActive else .dualsenseInactive)).state.manualActive = false := by
    cases active with
    | false => exact Or.inl rfl
    | true =>
      change (transition (s.expireLease now).state .dualsenseActive).state.manualActive = _ ∨
        (transition (s.expireLease now).state .dualsenseActive).state.manualActive = false
      unfold transition
      dsimp only
      split
      · exact Or.inl rfl
      · exact Or.inr rfl
  rcases hState with hSame | hOff
  · have hSession : SameSession (s.expireLease now) { s.expireLease now with
        state := (transition (s.expireLease now).state
          (if active then .dualsenseActive else .dualsenseInactive)).state } := ⟨hSame, rfl, rfl⟩
    rcases closed_or_same_clear hSession with hClosed | hKept
    · exact .closed (hStep ▸ hClosed)
    · exact .kept (hStep ▸ hKept)
  · exact .closed (hStep ▸ closed_clear hOff)

/-- What a call can do to the manual session. -/
theorem session_case {s : CommandSupervisor} (hCoherent : Coherent s.state) (c : TimedCall) :
    SessionCase s c := by
  obtain ⟨call, now⟩ := c
  have hManual : ((s.expireLease now).expireManual now).Closed ∨
      SameSession (s.expireLease now) ((s.expireLease now).expireManual now) :=
    closed_or_same_expireManual _
      (fun hFree => ((coherent_found hCoherent ⟨.tick, now⟩).unleased hFree).2.1) now
  cases call with
  | handleControlEvent m => exact s.handleControlEvent_session m now
  | tick => exact hManual.elim (.closed ·) (.kept ·)
  | setRuntimeMode mode map stable =>
    have hNext := s.setRuntimeMode_next mode map now stable
    have hStep : s.step ⟨.setRuntimeMode mode map stable, now⟩ = _ := hNext
    have hState : runtimeState (s.expireLease now).state mode map stable =
      (s.expireLease now).state ∨
        (runtimeState (s.expireLease now).state mode map stable).manualActive = false := by
      unfold runtimeState
      exact iteInduction (motive := fun state => state = (s.expireLease now).state ∨
        state.manualActive = false) (fun _ => Or.inr rfl) fun _ => Or.inl rfl
    rcases hState with hSame | hOff
    · have hSession : SameSession (s.expireLease now) { s.expireLease now with
          state := runtimeState (s.expireLease now).state mode map stable } :=
        ⟨congrArg PaddockState.manualActive hSame, rfl, rfl⟩
      rcases closed_or_same_clear hSession with hClosed | hKept
      · exact .closed (hStep ▸ hClosed)
      · exact .kept (hStep ▸ hKept)
    · exact .closed (hStep ▸ closed_clear hOff)
  | requestMode mode requestId leaseId => exact requestMode_session s mode requestId leaseId now
  | setDualsenseActive active => exact setDualsenseActive_session s active now
  | receiveRawAutonomy command =>
    refine .kept ?_
    change SameSession (s.expireLease now) (s.receiveRawAutonomy command now).1
    unfold receiveRawAutonomy
    dsimp only
    split
    · exact ⟨rfl, rfl, rfl⟩
    · split <;> exact ⟨rfl, rfl, rfl⟩
  | receiveRawManual command sequence =>
    have hNext : SameSession ((s.expireLease now).expireManual now)
        (s.receiveRawManual command sequence now).1 := by
      unfold receiveRawManual
      dsimp only
      split
      · exact .refl _
      · split <;> exact ⟨rfl, rfl, rfl⟩
    rcases hManual with hClosed | hSame
    · exact .closed ⟨hNext.active.trans hClosed.inactive, hNext.demand.trans hClosed.demand⟩
    · exact .kept ⟨hNext.active.trans hSame.active, hNext.demand.trans hSame.demand,
        hNext.input.trans hSame.input⟩
  | restart => exact .closed ⟨rfl, rfl⟩
  | setManualMaxSpeedMps value =>
    refine .kept ?_
    change SameSession s ((s.setManualMaxSpeedMps value).getD s)
    unfold setManualMaxSpeedMps
    split <;> exact ⟨rfl, rfl, rfl⟩

/-- An event of the owner is reduced. -/
theorem step_owns {s : CommandSupervisor} {c : TimedCall} {m : ControlMessage}
    (hCall : c.call = .handleControlEvent m) (hOwns : (s.found c).Owns m)
    (hEvent : m.event ≠ .leaseAcquired) :
    s.found c = s ∧ s.step c = (handleOwnedEvent (s.refreshed m c.now) m c.now).1 := by
  obtain ⟨call, now⟩ := c
  dsimp only at hCall
  subst hCall
  have hFound := found_of_active hOwns.active
  have hOut := congrArg Prod.fst (handleControlEvent_owns hOwns hEvent)
  refine ⟨hFound, hOut.trans ?_⟩
  have hLive : s.expireLease now = s := hFound
  rw [hLive]

/-- A `MANUAL_ACTIVE` with finite values, where manual driving is possible, takes its demand. -/
theorem Activates.next {s : CommandSupervisor} {c : TimedCall} {m : ControlMessage}
    {speed steering : ℚ} (h : s.Activates c m speed steering) :
    (s.step c).manualDemand = some (s.demandOf m speed steering) ∧
      (s.step c).state.manualActive = true ∧ (s.step c).lastManualInputAt = some c.now := by
  have hActive := leaseActive_iff.mpr h.owns.active
  have hMoved : (transition s.state .manualActive { leaseId := m.leaseId }).state =
      s.state.released true := by
    rw [transition_owned hActive h.owns.lease (by simp)]
    refine congrArg Transition.state (if_neg ?_)
    rw [h.dualsense, Bool.or_false, decide_eq_true_eq]
    exact h.mode
  have hOut : handleOwnedEvent (s.refreshed m c.now) m c.now =
      acceptManual { s.refreshed m c.now with
        state := (transition s.state .manualActive { leaseId := m.leaseId }).state } m c.now := by
    unfold handleOwnedEvent
    rw [h.event]
    rfl
  have hNot : m.event ≠ .leaseAcquired := by
    rw [h.event]
    decide
  have hStep := (step_owns h.call (h.found.symm ▸ h.owns) hNot).2
  rw [hOut, hMoved] at hStep
  have hCase := @acceptManual_case { s.refreshed m c.now with state := s.state.released true } m
    c.now hActive h.owns.lease
  rw [← hStep] at hCase
  cases hCase with
  | taken speed' steering' hSpeed hSteering hManual hNext =>
    cases h.speed.symm.trans hSpeed
    cases h.steering.symm.trans hSteering
    rw [hNext]
    exact ⟨rfl, rfl, rfl⟩
  | notEligible hValues hManual hNext =>
    have hIs : (s.state.released true).authority = .paddockManual :=
      authority_eq_paddockManual_iff.mpr ⟨h.mode, h.dualsense, h.owns.active, rfl⟩
    exact absurd hIs hManual
  | invalid hValues hNext =>
    rw [h.speed, h.steering] at hValues
    cases hValues

/-- An abandoned session is over, and its demand is still there. -/
theorem Abandons.next {s : CommandSupervisor} {c : TimedCall} (h : s.Abandons c) :
    (s.step c).state.manualActive = false ∧
      (s.step c).manualDemand = (s.found c).manualDemand := by
  unfold Abandons at h
  split at h
  · rename_i m hCall
    obtain ⟨hOwns, hEvent⟩ := h
    have hNot : m.event ≠ .leaseAcquired := by
      rcases hEvent with hEvent | ⟨hEvent, -⟩ <;> rw [hEvent] <;> decide
    obtain ⟨hFound, hStep⟩ := step_owns hCall hOwns hNot
    rw [hFound] at hOwns ⊢
    have hActive := leaseActive_iff.mpr hOwns.active
    unfold handleOwnedEvent at hStep
    rcases hEvent with hEvent | ⟨hEvent, hValues⟩
    · rw [hEvent] at hStep
      rw [hStep]
      refine ⟨?_, rfl⟩
      change (transition s.state .stop { leaseId := m.leaseId }).state.manualActive = false
      rw [transition_owned hActive hOwns.lease (by simp)]
      rfl
    · rw [hEvent] at hStep
      change s.step c = (acceptManual { s.refreshed m c.now with
        state := (transition s.state .manualActive { leaseId := m.leaseId }).state } m c.now).1
          at hStep
      have hSame := @sameLease_transition s.state .manualActive { leaseId := m.leaseId } hActive
        hOwns.lease (by simp)
      have hCase := @acceptManual_case { s.refreshed m c.now with
        state := (transition s.state .manualActive { leaseId := m.leaseId }).state } m c.now
        (leaseActive_iff.mpr (hSame.lease ▸ hOwns.active)) (hOwns.lease.trans hSame.lease.symm)
      rw [← hStep] at hCase
      cases hCase with
      | taken speed steering hSpeed hSteering =>
        rw [hSpeed, hSteering] at hValues
        cases hValues
      | notEligible hFinite =>
        rw [hValues] at hFinite
        cases hFinite
      | invalid _ hNext =>
        rw [hNext]
        exact ⟨rfl, rfl⟩
  · rename_i mode requestId leaseId hCall
    obtain ⟨hOwns, hNew, next, rfl, hChange⟩ := h
    obtain ⟨call, now⟩ := c
    dsimp only at hCall
    subst hCall
    refine ⟨?_, rfl⟩
    change (transition (s.expireLease now).state .requestMode
      { leaseId, mode := some next, requestId }).state.manualActive = false
    change ownsLease (s.expireLease now).state leaseId = true at hOwns
    change (s.expireLease now).state.acceptedModeRequestId < requestId at hNew
    change next ≠ (s.expireLease now).state.mode at hChange
    unfold transition ownerTransition
    dsimp only
    rw [if_neg (by rw [hOwns]; decide), if_neg (not_le.mpr hNew), if_neg hChange]
  · exact absurd h id

/-! ## Samples and the ceiling -/

/-- The times of the raw samples and the manual ceiling are the same in both states. -/
structure SameSamples (s next : CommandSupervisor) : Prop where
  autonomy : next.lastRawAutonomyAt = s.lastRawAutonomyAt
  manual : next.lastRawManualAt = s.lastRawManualAt
  ceiling : next.manualMaxSpeedMps = s.manualMaxSpeedMps

/-- What a call does to the raw samples and to the manual ceiling. -/
inductive SampleCase (s : CommandSupervisor) (c : TimedCall) : Prop
  | kept (h : SameSamples s (s.step c))
  | autonomy (command : VelocityCommand) (hCall : c.call = .receiveRawAutonomy command)
      (hAutonomy : (s.step c).lastRawAutonomyAt = none ∨
        (command.valid = true ∧ (s.step c).lastRawAutonomyAt = some c.now))
      (hManual : (s.step c).lastRawManualAt = s.lastRawManualAt)
      (hCeiling : (s.step c).manualMaxSpeedMps = s.manualMaxSpeedMps)
  | manual (command : VelocityCommand) (demand : ManualDemand)
      (hCall : c.call = .receiveRawManual command demand.sequence) (hAccepted : s.accepted c = true)
      (hDemand : (s.step c).manualDemand = some demand)
      (hAutonomy : (s.step c).lastRawAutonomyAt = s.lastRawAutonomyAt)
      (hManual : (s.step c).lastRawManualAt = some c.now)
      (hCeiling : (s.step c).manualMaxSpeedMps = s.manualMaxSpeedMps)
  | ceiling (value : ℚ) (hCall : c.call = .setManualMaxSpeedMps (.finite value))
      (hValid : manualSpeedCeilingValid (.finite value) s.config.minimumMovingSpeedMps = true)
      (hNext : s.step c = { s with manualMaxSpeedMps := value })
  | restarted (hCall : c.call = .restart) (hAutonomy : (s.step c).lastRawAutonomyAt = none)
      (hManual : (s.step c).lastRawManualAt = none)
      (hCeiling : (s.step c).manualMaxSpeedMps = s.manualMaxSpeedMps)

theorem SameSamples.trans {s middle next : CommandSupervisor} (h : SameSamples s middle)
    (h' : SameSamples middle next) : SameSamples s next :=
  ⟨h'.autonomy.trans h.autonomy, h'.manual.trans h.manual, h'.ceiling.trans h.ceiling⟩

theorem sameSamples_expireLease (s : CommandSupervisor) (now : ℚ) :
    SameSamples s (s.expireLease now) := by
  rw [expireLease_eq]
  split <;> exact ⟨rfl, rfl, rfl⟩

theorem sameSamples_expireManual (s : CommandSupervisor) (now : ℚ) :
    SameSamples s (s.expireManual now) := by
  unfold expireManual
  split <;> exact ⟨rfl, rfl, rfl⟩

theorem MovesTo.sameSamples {s next : CommandSupervisor} {state : PaddockState}
    (h : MovesTo s next state) : SameSamples s next := by
  obtain ⟨demand, input, rfl⟩ := h
  exact ⟨rfl, rfl, rfl⟩

theorem handleControlEvent_samples (s : CommandSupervisor) (m : ControlMessage) (now : ℚ) :
    SameSamples s (s.handleControlEvent m now).1 := by
  have hExpire := s.sameSamples_expireLease now
  have hCase := handleControlEvent_case s m now
  generalize s.handleControlEvent m now = out at hCase
  cases hCase with
  | refused => exact hExpire
  | granted => exact ⟨hExpire.autonomy, hExpire.manual, hExpire.ceiling⟩
  | owned hEvent hActive hClient hLease hNewer =>
    have hMoves := handleOwnedEvent_movesTo ((s.expireLease now).refreshed m now) m now
      (leaseActive_iff.mpr hActive) hLease
    refine SameSamples.trans ?_ hMoves.sameSamples
    split <;> exact ⟨hExpire.autonomy, hExpire.manual, hExpire.ceiling⟩

theorem receiveRawManual_samples (s : CommandSupervisor) (command : VelocityCommand)
    (sequence : Int) (now : ℚ) : SampleCase s ⟨.receiveRawManual command sequence, now⟩ := by
  have hReady := (s.sameSamples_expireLease now).trans (sameSamples_expireManual _ now)
  by_cases hRefused : command.valid = false ∨
    ((s.expireLease now).expireManual now).manualDemand.map
      ManualDemand.sequence ≠ some sequence
  · have hOut : s.receiveRawManual command sequence now =
        ((s.expireLease now).expireManual now).reject now .invalidRawManual := if_pos hRefused
    have hStep : s.step ⟨.receiveRawManual command sequence, now⟩ =
        (s.expireLease now).expireManual now := congrArg Prod.fst hOut
    exact .kept (hStep ▸ hReady)
  · have hOut : ∃ result : SupervisorResult, s.receiveRawManual command sequence now =
        ({ (s.expireLease now).expireManual now with lastRawManualAt := some now }, result) ∧
          result.accepted = true := by
      unfold receiveRawManual
      dsimp only
      rw [if_neg hRefused]
      split <;> exact ⟨_, rfl, rfl⟩
    obtain ⟨result, hOut, hAccepted⟩ := hOut
    have hStep : s.step ⟨.receiveRawManual command sequence, now⟩ =
        { (s.expireLease now).expireManual now with lastRawManualAt := some now } :=
      congrArg Prod.fst hOut
    rw [not_or, not_not] at hRefused
    obtain ⟨demand, hDemand, rfl⟩ := Option.map_eq_some_iff.mp hRefused.2
    refine .manual command demand rfl ?_ ?_ ?_ ?_ ?_
    · change (Option.some (s.receiveRawManual command demand.sequence now).2).any
        SupervisorResult.accepted = true
      rw [hOut]
      exact hAccepted
    · rw [hStep]
      exact hDemand
    · rw [hStep]
      exact hReady.autonomy
    · rw [hStep]
    · rw [hStep]
      exact hReady.ceiling

/-- What a call can do to the raw samples and to the manual ceiling. -/
theorem sample_case (s : CommandSupervisor) (c : TimedCall) : SampleCase s c := by
  obtain ⟨call, now⟩ := c
  have hExpire := s.sameSamples_expireLease now
  cases call with
  | handleControlEvent m => exact .kept (s.handleControlEvent_samples m now)
  | tick => exact .kept (hExpire.trans (sameSamples_expireManual _ now))
  | setRuntimeMode mode map stable =>
    exact .kept (hExpire.trans (setRuntimeMode_movesTo s mode map now stable).sameSamples)
  | requestMode mode requestId leaseId =>
    exact .kept ⟨hExpire.autonomy, hExpire.manual, hExpire.ceiling⟩
  | setDualsenseActive active =>
    have hMoved : SameSamples s { s.expireLease now with
        state := (transition (s.expireLease now).state
          (if active then .dualsenseActive else .dualsenseInactive)).state } :=
      ⟨hExpire.autonomy, hExpire.manual, hExpire.ceiling⟩
    exact .kept (hMoved.trans (movesTo_finishEvent _ now).sameSamples)
  | receiveRawAutonomy command =>
    have hStep : s.step ⟨.receiveRawAutonomy command, now⟩ =
        { s.expireLease now with
          lastRawAutonomyAt := if command.valid = false then none else some now } := by
      change (s.receiveRawAutonomy command now).1 = _
      unfold receiveRawAutonomy
      dsimp only
      split
      · rfl
      · split <;> rfl
    refine .autonomy command rfl ?_ (hStep ▸ hExpire.manual) (hStep ▸ hExpire.ceiling)
    rw [hStep]
    dsimp only
    split
    · exact Or.inl rfl
    · rename_i hValid
      rw [Bool.not_eq_false] at hValid
      exact Or.inr ⟨hValid, rfl⟩
  | receiveRawManual command sequence => exact s.receiveRawManual_samples command sequence now
  | restart => exact .restarted rfl rfl rfl rfl
  | setManualMaxSpeedMps value =>
    by_cases hValid : manualSpeedCeilingValid value s.config.minimumMovingSpeedMps = true
    · have hStep : s.step ⟨.setManualMaxSpeedMps value, now⟩ =
          { s with manualMaxSpeedMps := value.finite?.getD 0 } := by
        change (s.setManualMaxSpeedMps value).getD s = _
        unfold setManualMaxSpeedMps
        rw [if_pos hValid]
        rfl
      cases value with
      | finite v => exact .ceiling v rfl hValid hStep
      | _ => cases hValid
    · have hStep : s.step ⟨.setManualMaxSpeedMps value, now⟩ = s := by
        change (s.setManualMaxSpeedMps value).getD s = s
        unfold setManualMaxSpeedMps
        rw [if_neg hValid]
        rfl
      exact .kept (by rw [hStep]; exact ⟨rfl, rfl, rfl⟩)

/-! ## The history of a session -/

/-- The manual session lasts through a call. -/
def Drives (s : CommandSupervisor) (c : TimedCall) : Prop :=
  (s.step c).state.manualActive = true

/-- A call is an accepted `MANUAL_ACTIVE` that takes this demand. -/
def TakesDemand (demand : ManualDemand) (s : CommandSupervisor) (c : TimedCall) : Prop :=
  ∃ m speed steering, s.Activates c m speed steering ∧ s.demandOf m speed steering = demand

/-- The demand was taken in the manual session that still lasts. -/
def DemandOfSession (init : CommandSupervisor) (demand : ManualDemand) : List TimedCall → Prop :=
  Since (along step init Drives) (along step init (TakesDemand demand))

/-- While manual driving is active, a demand of its session is retained, and the last manual
input is the one that took it. -/
def Driven (init : CommandSupervisor) (past : List TimedCall) (s : CommandSupervisor) : Prop :=
  s.state.manualActive = true → ∃ demand t, s.manualDemand = some demand ∧
    s.lastManualInputAt = some t ∧ Since (along step init Drives)
      (along step init fun s c => TakesDemand demand s c ∧ c.now = t) past

theorem found_of_manualActive {s : CommandSupervisor} {c : TimedCall}
    (h : (s.found c).state.manualActive = true) : s.found c = s := by
  rcases s.found_cases c with hSame | ⟨-, hDropped⟩
  · exact hSame
  · rw [hDropped] at h
    cases h

theorem driven_after {init : CommandSupervisor} (hCoherent : Coherent init.state)
    (hInit : init.state.manualActive = false) (past : List TimedCall) :
    Coherent (after step init past).state ∧ Driven init past (after step init past) := by
  induction past with
  | nil =>
    refine ⟨hCoherent, fun hActive => ?_⟩
    rw [after_nil, hInit] at hActive
    cases hActive
  | cons c past ih =>
    obtain ⟨ihCoherent, ihDriven⟩ := ih
    refine ⟨ihCoherent.step c, fun hActive => ?_⟩
    rw [after_cons] at hActive ⊢
    cases session_case ihCoherent c with
    | closed h =>
      rw [h.inactive] at hActive
      cases hActive
    | kept h =>
      have hFound := found_of_manualActive (h.active.symm.trans hActive)
      rw [hFound] at h
      obtain ⟨demand, t, hDemand, hInput, hSince⟩ := ihDriven (h.active.symm.trans hActive)
      exact ⟨demand, t, h.demand.trans hDemand, h.input.trans hInput, hSince.keep hActive⟩
    | abandoned hAbandons hOff =>
      rw [hOff] at hActive
      cases hActive
    | taken m speed steering h hOn hDemand hInput =>
      exact ⟨_, c.now, hDemand, hInput, .start ⟨⟨m, speed, steering, h, rfl⟩, rfl⟩⟩

/-- The demand retained while manual driving is active is one of the session. -/
theorem demandOfSession {init : CommandSupervisor} {past : List TimedCall}
    (h : Driven init past (after step init past))
    (hActive : (after step init past).state.manualActive = true) {demand : ManualDemand}
    (hDemand : (after step init past).manualDemand = some demand) :
    DemandOfSession init demand past := by
  obtain ⟨demand', t, hDemand', -, hSince⟩ := h hActive
  cases hDemand.symm.trans hDemand'
  exact hSince.mono (fun _ _ h => h) fun _ _ h => h.1

end CommandSupervisor

end PreRunner.Paddock
