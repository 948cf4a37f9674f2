import PreRunner.Paddock.HeldDemand

/-!
# What a call does to the lease record

The lease record is the pair of ids of the active lease, the last sequence number taken under it,
and the pair of a lapsed lease that a heartbeat may reinstate. A call first finds the record,
after it has dropped a lapsed lease (`found`), and then keeps it, grants a lease, takes the number
of an owner's event, ends the lease, or restarts (`lease_case`).
-/

namespace PreRunner.Paddock

open PaddockState Runs

namespace CommandSupervisor

/-- The constructor starts without a lease and without any sample. -/
theorem init_eq {lease raw : PyFloat} {liveness : Option PyFloat} {manual speed : PyFloat}
    {floor : ℚ} {map : String} {s : CommandSupervisor}
    (h : init lease raw liveness manual speed floor map = .ok s) :
    ∃ config ceiling,
      s = { config, manualMaxSpeedMps := ceiling, state := { activeAutonomyMap := map } } ∧
      manualSpeedCeilingValid (.finite ceiling) config.minimumMovingSpeedMps = true := by
  unfold init at h
  repeat' split at h
  all_goals cases h
  rename_i hSpeed
  refine ⟨_, _, rfl, ?_⟩
  cases speed with
  | finite value => exact hSpeed
  | _ => cases hSpeed

/-- The state in which a call finds the lease: a call that reads it first drops a lapsed one. -/
def found (s : CommandSupervisor) (c : TimedCall) : CommandSupervisor :=
  match c.call with
  | .setManualMaxSpeedMps _ | .restart => s
  | _ => s.expireLease c.now

theorem found_cases (s : CommandSupervisor) (c : TimedCall) :
    s.found c = s ∨ (s.state.leaseId ≠ "" ∧ s.found c = s.dropLease) := by
  have hExpire : s.expireLease c.now = s ∨
      (s.state.leaseId ≠ "" ∧ s.expireLease c.now = s.dropLease) := by
    rw [expireLease_eq]
    split
    · rename_i h
      rw [leaseExpires, Bool.and_eq_true] at h
      exact Or.inr ⟨leaseActive_iff.mp h.1, rfl⟩
    · exact Or.inl rfl
  unfold found
  split
  · exact Or.inl rfl
  · exact Or.inl rfl
  · exact hExpire

/-- A lease that a call finds was not dropped by it. -/
theorem found_of_active {s : CommandSupervisor} {c : TimedCall}
    (h : (s.found c).state.leaseId ≠ "") : s.found c = s := by
  rcases s.found_cases c with hSame | ⟨-, hDropped⟩
  · exact hSame
  · rw [hDropped] at h
    exact absurd rfl h

/-- An ordered event of the owner of the lease. -/
structure Owns (s : CommandSupervisor) (m : ControlMessage) : Prop where
  active : s.state.leaseId ≠ ""
  client : m.clientId = s.state.leaseClientId
  lease : m.leaseId = s.state.leaseId
  newer : ∀ last, s.lastControlSequence = some last → isNewerSequence m.sequence last = true

/-- An event that takes a free lease: an acquisition, or a heartbeat of the lapsed lease. -/
structure TakesLease (s : CommandSupervisor) (m : ControlMessage) : Prop where
  free : s.state.leaseId = ""
  client : m.clientId ≠ ""
  lease : m.leaseId ≠ ""
  event : (m.event = .heartbeat ∧ s.lapsedLease = some (m.clientId, m.leaseId)) ∨
    m.event = .leaseAcquired

/-- Whether an event ends the lease of its owner. -/
def endsLease (event : ControlEvent) : Bool :=
  event = .leaseReleased || event = .leaseLost

/-- The lease record is the same in both states. -/
structure SameRecord (s next : CommandSupervisor) : Prop where
  client : next.state.leaseClientId = s.state.leaseClientId
  lease : next.state.leaseId = s.state.leaseId
  last : next.lastControlSequence = s.lastControlSequence
  lapsed : next.lapsedLease = s.lapsedLease

theorem SameRecord.refl (s : CommandSupervisor) : SameRecord s s := ⟨rfl, rfl, rfl, rfl⟩

theorem SameRecord.trans {s middle next : CommandSupervisor} (h : SameRecord s middle)
    (h' : SameRecord middle next) : SameRecord s next :=
  ⟨h'.client.trans h.client, h'.lease.trans h.lease, h'.last.trans h.last,
    h'.lapsed.trans h.lapsed⟩

theorem MovesTo.sameRecord {s next : CommandSupervisor} {state : PaddockState}
    (h : MovesTo s next state) (hLease : SameLease s.state state) : SameRecord s next := by
  obtain ⟨demand, input, rfl⟩ := h
  exact ⟨hLease.client, hLease.lease, rfl, rfl⟩

theorem sameRecord_expireManual (s : CommandSupervisor) (now : ℚ) :
    SameRecord s (s.expireManual now) := by
  unfold expireManual
  split
  · by_cases hLease : s.state.leaseActive = true
    · have hSame := @sameLease_transition s.state .manualInactive { leaseId := s.state.leaseId }
        hLease rfl (by simp)
      exact ⟨hSame.client, hSame.lease, rfl, rfl⟩
    · have hStay : transition s.state .manualInactive { leaseId := s.state.leaseId } =
          { state := s.state } := if_pos (by simp [ownsLease, hLease])
      rw [hStay]
      exact ⟨rfl, rfl, rfl, rfl⟩
  · exact .refl s

/-- What a call does to the lease record it finds. -/
inductive LeaseCase (s : CommandSupervisor) (c : TimedCall) : Prop
  | kept (hSame : SameRecord (s.found c) (s.step c))
      (hRefused : ∀ m, c.call = .handleControlEvent m → s.accepted c = false ∧
        (m.event ≠ .leaseAcquired → ¬ (s.found c).Owns m))
  | granted (m : ControlMessage) (hCall : c.call = .handleControlEvent m)
      (hTakes : (s.found c).TakesLease m) (hAccepted : s.accepted c = true)
      (hNext : s.step c = (s.found c).leased m c.now)
  | taken (m : ControlMessage) (hCall : c.call = .handleControlEvent m) (hOwns : s.Owns m)
      (hFound : s.found c = s) (hEvent : endsLease m.event = false)
      (hClient : (s.step c).state.leaseClientId = s.state.leaseClientId)
      (hLease : (s.step c).state.leaseId = s.state.leaseId)
      (hLast : (s.step c).lastControlSequence = some m.sequence)
      (hLapsed : (s.step c).lapsedLease = s.lapsedLease)
  | ended (m : ControlMessage) (hCall : c.call = .handleControlEvent m) (hOwns : s.Owns m)
      (hFound : s.found c = s) (hEvent : endsLease m.event = true)
      (hLease : (s.step c).state.leaseId = "") (hLapsed : (s.step c).lapsedLease = s.lapsedLease)
  | restarted (hCall : c.call = .restart) (hLease : (s.step c).state.leaseId = "")
      (hLapsed : (s.step c).lapsedLease = none)

/-- A call that is no control event keeps the record it finds, or restarts. -/
theorem LeaseCase.of_same {s : CommandSupervisor} {c : TimedCall}
    (hCall : ∀ m, c.call ≠ .handleControlEvent m) (h : SameRecord (s.found c) (s.step c)) :
    LeaseCase s c :=
  .kept h fun m hControl => absurd hControl (hCall m)

theorem handleOwnedEvent_record {s : CommandSupervisor} {m : ControlMessage} {now : ℚ}
    (hLease : s.state.leaseActive = true) (hId : m.leaseId = s.state.leaseId) :
    (endsLease m.event = false ∧ SameRecord s (s.handleOwnedEvent m now).1) ∨
      (endsLease m.event = true ∧ (s.handleOwnedEvent m now).1.state.leaseId = "" ∧
        (s.handleOwnedEvent m now).1.lapsedLease = s.lapsedLease) := by
  have hMoves := handleOwnedEvent_movesTo s m now hLease hId
  by_cases hEnds : endsLease m.event = true
  · obtain ⟨demand, input, hNext⟩ := hMoves
    have hState : ownedState s.state m = s.state.withoutLease := by
      unfold ownedState
      cases hEvent : m.event with
      | leaseReleased | leaseLost => rfl
      | _ =>
        rw [hEvent] at hEnds
        cases hEnds
    refine Or.inr ⟨hEnds, ?_, ?_⟩
    · rw [hNext, hState]
      rfl
    · rw [hNext]
      dsimp only
      split <;> rfl
  · rw [Bool.not_eq_true] at hEnds
    have hNot : m.event ≠ .leaseReleased := by
      intro hEvent
      rw [hEvent] at hEnds
      cases hEnds
    have hLost : m.event ≠ .leaseLost := by
      intro hEvent
      rw [hEvent] at hEnds
      cases hEnds
    rw [if_neg hNot] at hMoves
    exact Or.inl ⟨hEnds, hMoves.sameRecord (sameTenure_of_not_ended hNot hLost).toSameLease⟩

theorem accepted_reject {s next : CommandSupervisor} {m : ControlMessage} {now : ℚ}
    {reason : Reason} (h : s.handleControlEvent m now = next.reject now reason) :
    s.accepted ⟨.handleControlEvent m, now⟩ = false := by
  change (Option.some (s.handleControlEvent m now).2).any SupervisorResult.accepted = false
  rw [h]
  rfl

/-- An ordered event of the owner is not refused. -/
theorem handleControlEvent_owns {s : CommandSupervisor} {m : ControlMessage} {now : ℚ}
    (hOwns : (s.expireLease now).Owns m) (hEvent : m.event ≠ .leaseAcquired) :
    s.handleControlEvent m now =
      handleOwnedEvent ((s.expireLease now).refreshed m now) m now := by
  have hCase := handleControlEvent_case s m now
  generalize s.handleControlEvent m now = out at hCase
  cases hCase with
  | refused reason h hStale hLease hOther hOwner =>
    cases reason with
    | leaseRejected => exact absurd (hLease rfl).1 hEvent
    | nonOwnerEventRejected =>
      rcases hOwner rfl with hFree | hClient | hId
      · exact absurd hFree hOwns.active
      · exact absurd hOwns.client hClient
      · exact absurd hOwns.lease hId
    | staleEventRejected =>
      obtain ⟨-, last, hLast, hOld⟩ := hStale rfl
      rw [hOwns.newer last hLast] at hOld
      cases hOld
    | _ => cases h
  | granted reason hFree => exact absurd hFree hOwns.active
  | owned => rfl

/-- An event that takes no lease and is not refused is one of the owner. -/
theorem owns_of_not_refused {s : CommandSupervisor} {m : ControlMessage} {now : ℚ}
    (hEvent : m.event ≠ .heartbeat ∧ m.event ≠ .leaseAcquired)
    (h : isRefusal (s.handleControlEvent m now).2.snapshot.reason = false) :
    (s.expireLease now).Owns m := by
  have hCase := handleControlEvent_case s m now
  generalize s.handleControlEvent m now = out at h hCase
  cases hCase with
  | refused reason hRefusal => exact absurd (hRefusal.symm.trans h) (by decide)
  | granted reason hFree hClient hLease hGrant =>
    rcases hGrant with ⟨hBeat, -⟩ | ⟨hAcquired, -⟩
    · exact absurd hBeat hEvent.1
    · exact absurd hAcquired hEvent.2
  | owned _ hActive hClient hLease hNewer => exact ⟨hActive, hClient, hLease, hNewer⟩

theorem handleControlEvent_record (s : CommandSupervisor) (m : ControlMessage) (now : ℚ) :
    LeaseCase s ⟨.handleControlEvent m, now⟩ := by
  have hCase := handleControlEvent_case s m now
  generalize hOut : s.handleControlEvent m now = out at hCase
  have hStep : s.step ⟨.handleControlEvent m, now⟩ = out.1 := congrArg Prod.fst hOut
  have hFound : s.found ⟨.handleControlEvent m, now⟩ = s.expireLease now := rfl
  cases hCase with
  | refused reason h =>
    refine .kept (hStep ▸ .refl _) ?_
    rintro m' ⟨⟩
    refine ⟨accepted_reject hOut, fun hEvent hOwns => ?_⟩
    have hOwned := handleControlEvent_owns hOwns hEvent
    rw [hOut] at hOwned
    have hReason : reason = (handleOwnedEvent ((s.expireLease now).refreshed m now) m
        now).2.snapshot.reason := congrArg (fun out => out.2.snapshot.reason) hOwned
    rw [hReason, isRefusal_handleOwnedEvent] at h
    cases h
  | granted reason hFree hClient hLease hEvent =>
    refine .granted m rfl ⟨hFree, hClient, hLease, ?_⟩ ?_ hStep
    · rcases hEvent with ⟨hBeat, hLapsed, -⟩ | ⟨hAcquired, -⟩
      · exact Or.inl ⟨hBeat, hLapsed⟩
      · exact Or.inr hAcquired
    · change (Option.some (s.handleControlEvent m now).2).any SupervisorResult.accepted = true
      rw [hOut]
      rfl
  | owned hEvent hActive hClient hLease hNewer =>
    have hLive : s.expireLease now = s := expireLease_active (leaseActive_iff.mpr hActive)
    rw [hLive] at hActive hClient hLease hNewer hStep
    have hOwns : s.Owns m := ⟨hActive, hClient, hLease, hNewer⟩
    rcases @handleOwnedEvent_record (s.refreshed m now) m now (leaseActive_iff.mpr hActive) hLease
      with ⟨hEnds, hSame⟩ | ⟨hEnds, hFree, hLapsed⟩
    · refine .taken m rfl hOwns (hFound.trans hLive) hEnds ?_ ?_ ?_ ?_
      · rw [hStep]
        exact hSame.client
      · rw [hStep]
        exact hSame.lease
      · rw [hStep]
        exact hSame.last
      · rw [hStep]
        exact hSame.lapsed
    · refine .ended m rfl hOwns (hFound.trans hLive) hEnds ?_ ?_
      · rw [hStep]
        exact hFree
      · rw [hStep]
        exact hLapsed

/-- What a call can do to the lease record. -/
theorem lease_case (s : CommandSupervisor) (c : TimedCall) : LeaseCase s c := by
  obtain ⟨call, now⟩ := c
  cases call with
  | handleControlEvent m => exact handleControlEvent_record s m now
  | tick =>
    refine .of_same (fun m h => by cases h) ?_
    change SameRecord (s.expireLease now) ((s.expireLease now).expireManual now)
    exact sameRecord_expireManual (s.expireLease now) now
  | setRuntimeMode mode map stable =>
    refine .of_same (fun m h => by cases h) ?_
    change SameRecord (s.expireLease now) (s.setRuntimeMode mode map now stable).1
    refine (setRuntimeMode_movesTo s mode map now stable).sameRecord ?_
    unfold runtimeState
    exact iteInduction (fun _ => ⟨rfl, rfl, rfl⟩) fun _ => ⟨rfl, rfl, rfl⟩
  | requestMode mode requestId leaseId =>
    have hSame := sameLease_requestMode (s.expireLease now).state { leaseId, mode, requestId }
    exact .of_same (fun m h => by cases h) ⟨hSame.client, hSame.lease, rfl, rfl⟩
  | setDualsenseActive active =>
    have hSame := sameLease_dualsense (s.expireLease now).state active
    have hMoved : SameRecord (s.expireLease now) { s.expireLease now with
        state := (transition (s.expireLease now).state
          (if active then .dualsenseActive else .dualsenseInactive)).state } :=
      ⟨hSame.client, hSame.lease, rfl, rfl⟩
    exact .of_same (fun m h => by cases h) (hMoved.trans
      ((movesTo_finishEvent _ now).sameRecord (.refl _)))
  | receiveRawAutonomy command =>
    refine .of_same (fun m h => by cases h) ?_
    change SameRecord (s.expireLease now) (s.receiveRawAutonomy command now).1
    unfold receiveRawAutonomy
    dsimp only
    split
    · exact ⟨rfl, rfl, rfl, rfl⟩
    · split <;> exact ⟨rfl, rfl, rfl, rfl⟩
  | receiveRawManual command sequence =>
    refine .of_same (fun m h => by cases h) ?_
    have hManual := sameRecord_expireManual (s.expireLease now) now
    change SameRecord (s.expireLease now) (s.receiveRawManual command sequence now).1
    unfold receiveRawManual
    dsimp only
    split
    · exact hManual
    · split <;> exact ⟨hManual.client, hManual.lease, hManual.last, hManual.lapsed⟩
  | restart => exact .restarted rfl rfl rfl
  | setManualMaxSpeedMps value =>
    refine .of_same (fun m h => by cases h) ?_
    change SameRecord s ((s.setManualMaxSpeedMps value).getD s)
    unfold setManualMaxSpeedMps
    split <;> exact ⟨rfl, rfl, rfl, rfl⟩

/-- An event that takes a free lease is granted. -/
theorem step_takesLease {s : CommandSupervisor} {c : TimedCall} {m : ControlMessage}
    (hCall : c.call = .handleControlEvent m) (h : (s.found c).TakesLease m) :
    s.step c = (s.found c).leased m c.now ∧ s.accepted c = true := by
  obtain ⟨call, now⟩ := c
  dsimp only at hCall
  subst hCall
  change (s.expireLease now).TakesLease m at h
  have hAcquired : (transition (s.expireLease now).state .acquireLease
      { clientId := m.clientId, leaseId := m.leaseId }).state =
        (s.expireLease now).state.withLease m.clientId m.leaseId := by
    rw [transition_acquireLease (leaseActive_eq_false_iff.mpr h.free)]
    exact if_neg (not_or.mpr ⟨h.client, h.lease⟩)
  have hFree := leaseActive_eq_false_iff.mpr h.free
  have hOut : ∃ reason, s.handleControlEvent m now = ((s.expireLease now).leased m now,
      { snapshot := ((s.expireLease now).leased m now).snapshot now reason }) := by
    unfold handleControlEvent
    dsimp only
    rw [hAcquired]
    rcases h.event with ⟨hBeat, hLapsed⟩ | hEvent
    · rw [if_pos ⟨hBeat, hFree, hLapsed, withLease_ne⟩]
      exact ⟨_, rfl⟩
    · have hNot : m.event ≠ .heartbeat := by
        rw [hEvent]
        decide
      rw [if_neg fun hBeat => hNot hBeat.1, if_pos hEvent, if_neg (by rw [hFree]; decide),
        if_neg withLease_ne]
      exact ⟨_, rfl⟩
  obtain ⟨reason, hOut⟩ := hOut
  refine ⟨congrArg Prod.fst hOut, ?_⟩
  change (Option.some (s.handleControlEvent m now).2).any SupervisorResult.accepted = true
  rw [hOut]
  rfl

end CommandSupervisor

end PreRunner.Paddock
