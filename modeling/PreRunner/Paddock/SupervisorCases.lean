import Mathlib.Tactic.Linarith
import PreRunner.Paddock.CommandSupervisor

/-!
# What the steps of the supervisor can do

Lease expiry is lazy: every method that reads the lease first drops one that has lapsed.
`expireLease` is a function of the state alone once the lease has lapsed (`dropLease`), and it
absorbs an earlier expiry (`expireLease_expireLease`). A control event is refused, grants a
lease, or is an event of the owner (`ControlCase`); later modules split on these three cases
and do not unfold `handleControlEvent` again.
-/

namespace PreRunner.Paddock

namespace PaddockState

theorem leaseActive_iff {state : PaddockState} :
    state.leaseActive = true ↔ state.leaseId ≠ "" := by
  simp [leaseActive]

theorem leaseActive_eq_false_iff {state : PaddockState} :
    state.leaseActive = false ↔ state.leaseId = "" := by
  simp [leaseActive]

theorem autonomyPermitted_iff {state : PaddockState} :
    state.autonomyPermitted = true ↔
      state.mode = .autonomy ∧ state.leaseId ≠ "" ∧ state.runHeld = true ∧
        state.runBlockedUntilRelease = false ∧ state.dualsenseActive = false ∧
        state.goal.isSome = true := by
  simp [autonomyPermitted, leaseActive, and_assoc]

theorem authority_eq_paddockManual_iff {state : PaddockState} :
    state.authority = .paddockManual ↔
      state.mode ≠ .idle ∧ state.dualsenseActive = false ∧ state.leaseId ≠ "" ∧
        state.manualActive = true := by
  rw [← leaseActive_iff]
  unfold authority
  split_ifs with hIdle hDual hManual hPermitted
  · simp [hIdle]
  · simp [hDual]
  · rw [Bool.and_eq_true] at hManual
    simp [hIdle, hDual, hManual.1, hManual.2]
  all_goals
    rw [Bool.and_eq_true] at hManual
    exact ⟨nofun, fun h => absurd ⟨leaseActive_iff.mpr (leaseActive_iff.mp h.2.2.1), h.2.2.2⟩
      hManual⟩

theorem authority_eq_paddockAutonomy_iff {state : PaddockState} :
    state.authority = .paddockAutonomy ↔
      state.autonomyPermitted = true ∧ state.manualActive = false := by
  unfold authority
  split_ifs with hIdle hDual hManual hPermitted
  · refine ⟨nofun, fun h => ?_⟩
    rw [(autonomyPermitted_iff.mp h.1).1] at hIdle
    cases hIdle
  · refine ⟨nofun, fun h => ?_⟩
    rw [(autonomyPermitted_iff.mp h.1).2.2.2.2.1] at hDual
    cases hDual
  · rw [Bool.and_eq_true] at hManual
    simp [hManual.2]
  · have hLease := leaseActive_iff.mpr (autonomyPermitted_iff.mp hPermitted).2.1
    rw [hLease, Bool.true_and, Bool.not_eq_true] at hManual
    simp [hPermitted, hManual]
  · simp [hPermitted]

/-- The state after a granted lease. -/
def withLease (state : PaddockState) (clientId leaseId : String) : PaddockState :=
  { state with
    leaseClientId := clientId
    leaseId := leaseId
    leaseGeneration := state.leaseGeneration + 1
    acceptedModeRequestId := 0 }

/-- The state after a lost or released lease. -/
def withoutLease (state : PaddockState) : PaddockState :=
  { state with
    leaseClientId := ""
    leaseId := ""
    leaseGeneration := state.leaseGeneration + 1
    runHeld := false
    runBlockedUntilRelease := false
    manualActive := false
    goal := none
    navigationActive := false }

end PaddockState

open PaddockState

theorem transition_acquireLease {state : PaddockState} {clientId leaseId : String}
    (h : state.leaseActive = false) :
    (transition state .acquireLease { clientId, leaseId }).state =
      if clientId = "" ∨ leaseId = "" then state else state.withLease clientId leaseId := by
  have hUnfold : transition state .acquireLease { clientId, leaseId } =
      if state.leaseActive || clientId = "" || leaseId = "" then
        { state, effects := [.leaseRejected] }
      else { state := state.withLease clientId leaseId, effects := [.leaseGranted] } := rfl
  rw [hUnfold, h, Bool.false_or]
  by_cases hIds : clientId = "" ∨ leaseId = ""
  · rw [if_pos hIds, if_pos (by simpa using hIds)]
  · rw [if_neg hIds, if_neg (by simpa using hIds)]

theorem withLease_ne {state : PaddockState} {clientId leaseId : String} :
    state.withLease clientId leaseId ≠ state := by
  intro h
  have := congrArg PaddockState.leaseGeneration h
  simp [withLease] at this

theorem transition_loseLease {state : PaddockState} (h : state.leaseActive = true) :
    (transition state .loseLease { leaseId := state.leaseId }).state = state.withoutLease := by
  have hOwns : ownsLease state state.leaseId = true := by simp [ownsLease, h]
  exact congrArg Transition.state (if_neg (by rw [hOwns]; decide))

theorem transition_releaseLease {state : PaddockState} (h : state.leaseActive = true) :
    (transition state .releaseLease { leaseId := state.leaseId }).state = state.withoutLease := by
  have hOwns : ownsLease state state.leaseId = true := by simp [ownsLease, h]
  exact congrArg Transition.state (if_neg (by rw [hOwns]; decide))

/-- With the owner's lease id, the owner's events reach `ownerTransition`. -/
theorem transition_owned {state : PaddockState} {event : Event} {args : TransitionArgs}
    (hLease : state.leaseActive = true) (hId : args.leaseId = state.leaseId)
    (hEvent : event = .requestMode ∨ event = .selectGoal ∨ event = .runPress ∨
      event = .runRelease ∨ event = .stop ∨ event = .manualActive ∨ event = .manualInactive) :
    transition state event args = ownerTransition state event args := by
  have hOwns : ownsLease state args.leaseId = true := by simp [ownsLease, hLease, hId]
  rcases hEvent with rfl | rfl | rfl | rfl | rfl | rfl | rfl <;>
    exact if_neg (by rw [hOwns]; decide)

namespace CommandSupervisor

/-! ## Lazy expiry -/

/-- The supervisor after its lease has been dropped. -/
def dropLease (s : CommandSupervisor) : CommandSupervisor :=
  { s with
    state := s.state.withoutLease
    manualDemand := none
    lastManualInputAt := none
    lastControlSequence := none
    lapsedLease := some (s.state.leaseClientId, s.state.leaseId) }

theorem expireLease_eq (s : CommandSupervisor) (now : ℚ) :
    s.expireLease now = if s.leaseExpires now then s.dropLease else s := by
  unfold expireLease
  split
  · rename_i h
    have hl : s.state.leaseActive = true := by
      simp only [leaseExpires, Bool.and_eq_true] at h
      exact h.1
    simp [transition_loseLease hl, clearManualIfInactive, withoutLease, dropLease]
  · rfl

theorem expireLease_of_inactive {s : CommandSupervisor} (h : s.state.leaseActive = false)
    (now : ℚ) : s.expireLease now = s := by
  simp [expireLease_eq, leaseExpires, h]

@[simp] theorem dropLease_leaseActive (s : CommandSupervisor) :
    s.dropLease.state.leaseActive = false := rfl

theorem withinAge_age_mono {bound t t' : ℚ} {received : Option ℚ} (h : t ≤ t')
    (hw : withinAge bound (age t' received) = true) : withinAge bound (age t received) = true := by
  cases received with
  | none => exact hw
  | some at_ =>
    simp only [age, Option.map_some, withinAge, decide_eq_true_eq, max_le_iff] at hw ⊢
    exact ⟨hw.1, by linarith [hw.2]⟩

theorem leaseExpires_mono {s : CommandSupervisor} {t t' : ℚ} (h : t ≤ t')
    (he : s.leaseExpires t = true) : s.leaseExpires t' = true := by
  simp only [leaseExpires, leaseIsLive, leaseAge, Bool.and_eq_true, Bool.not_eq_true',
    Bool.and_eq_false_iff] at he ⊢
  refine ⟨he.1, ?_⟩
  rcases he.2 with hl | hw
  · exact Or.inl hl
  · refine Or.inr ?_
    by_contra hc
    rw [Bool.not_eq_false] at hc
    rw [withinAge_age_mono h hc] at hw
    cases hw

/-- An expiry makes every earlier expiry unnecessary. -/
theorem expireLease_expireLease {s : CommandSupervisor} {t t' : ℚ} (h : t ≤ t') :
    (s.expireLease t).expireLease t' = s.expireLease t' := by
  by_cases he : s.leaseExpires t = true
  · rw [expireLease_eq s t, if_pos he, expireLease_eq s t', if_pos (leaseExpires_mono h he)]
    exact expireLease_of_inactive (dropLease_leaseActive s) _
  · rw [expireLease_eq s t, if_neg he]

theorem expireLease_active {s : CommandSupervisor} {now : ℚ}
    (h : (s.expireLease now).state.leaseActive = true) : s.expireLease now = s := by
  rw [expireLease_eq] at h ⊢
  split
  · rename_i he
    rw [if_pos he] at h
    cases h
  · rfl

@[simp] theorem expireLease_config (s : CommandSupervisor) (now : ℚ) :
    (s.expireLease now).config = s.config := by
  rw [expireLease_eq]; split <;> rfl

@[simp] theorem expireLease_manualMaxSpeedMps (s : CommandSupervisor) (now : ℚ) :
    (s.expireLease now).manualMaxSpeedMps = s.manualMaxSpeedMps := by
  rw [expireLease_eq]; split <;> rfl

@[simp] theorem expireLease_activeAutonomyMap (s : CommandSupervisor) (now : ℚ) :
    (s.expireLease now).state.activeAutonomyMap = s.state.activeAutonomyMap := by
  rw [expireLease_eq]; split <;> rfl

/-! ## The three cases of a control event -/

/-- The reasons of an event that is refused before it refreshes the lease. -/
def isRefusal : Reason → Bool
  | .leaseRejected | .nonOwnerEventRejected | .staleEventRejected => true
  | _ => false

/-- The state in which an event of the lease owner is reduced. -/
def refreshed (s : CommandSupervisor) (m : ControlMessage) (now : ℚ) : CommandSupervisor :=
  { s with lastLeaseReceiveAt := some now, lastControlSequence := some m.sequence }

/-- The state after a lease was granted to the sender of an event. -/
def leased (s : CommandSupervisor) (m : ControlMessage) (now : ℚ) : CommandSupervisor :=
  s.grant (s.state.withLease m.clientId m.leaseId) m.sequence now

/-- What `handleControlEvent` can return from a state `s` whose lapsed lease was dropped. -/
inductive ControlCase (s : CommandSupervisor) (m : ControlMessage) (now : ℚ) :
    CommandSupervisor × SupervisorResult → Prop
  | refused (reason : Reason) (h : isRefusal reason = true)
      (hStale : reason = .staleEventRejected → s.state.leaseId ≠ "" ∧
        ∃ last, s.lastControlSequence = some last ∧ isNewerSequence m.sequence last = false)
      (hLease : reason = .leaseRejected → m.event = .leaseAcquired ∧
        (s.state.leaseId ≠ "" ∨ m.clientId = "" ∨ m.leaseId = ""))
      (hOther : reason ≠ .leaseRejected → m.event ≠ .leaseAcquired)
      (hOwner : reason = .nonOwnerEventRejected → s.state.leaseId = "" ∨
        m.clientId ≠ s.state.leaseClientId ∨ m.leaseId ≠ s.state.leaseId) :
      ControlCase s m now (s.reject now reason)
  | granted (reason : Reason) (hFree : s.state.leaseId = "") (hClient : m.clientId ≠ "")
      (hLease : m.leaseId ≠ "")
      (hEvent : (m.event = .heartbeat ∧ s.lapsedLease = some (m.clientId, m.leaseId) ∧
          reason = .leaseReinstated) ∨ (m.event = .leaseAcquired ∧ reason = .leaseAcquired)) :
      ControlCase s m now
        (s.leased m now, { snapshot := (s.leased m now).snapshot now reason })
  | owned (hEvent : m.event ≠ .leaseAcquired) (hActive : s.state.leaseId ≠ "")
      (hClient : m.clientId = s.state.leaseClientId) (hLease : m.leaseId = s.state.leaseId)
      (hNewer : ∀ last, s.lastControlSequence = some last →
        isNewerSequence m.sequence last = true) :
      ControlCase s m now (handleOwnedEvent (s.refreshed m now) m now)

/-- Every control event that is not `LEASE_ACQUIRED` is supported. -/
theorem supported_of_ne {event : ControlEvent} (h : event ≠ .leaseAcquired) :
    supported event = true := by
  cases event <;> first | rfl | exact absurd rfl h

theorem handleControlEvent_case (s : CommandSupervisor) (m : ControlMessage) (now : ℚ) :
    ControlCase (s.expireLease now) m now (s.handleControlEvent m now) := by
  unfold handleControlEvent
  generalize s.expireLease now = dropped
  extract_lets s acquired next
  refine iteInduction (fun hRein => ?_) fun _ => iteInduction (fun hAcq => ?_) fun hAcq => ?_
  · obtain ⟨hEvent, hFree, hLapsed, hNe⟩ := hRein
    have hIds : ¬ (m.clientId = "" ∨ m.leaseId = "") := by
      intro hIds
      exact hNe ((transition_acquireLease hFree).trans (if_pos hIds))
    have hNext : next = s.leased m now :=
      congrArg (fun state => s.grant state m.sequence now)
        ((transition_acquireLease hFree).trans (if_neg hIds))
    rw [not_or] at hIds
    rw [hNext]
    exact .granted _ (leaseActive_eq_false_iff.mp hFree) hIds.1 hIds.2
      (Or.inl ⟨hEvent, hLapsed, rfl⟩)
  · refine iteInduction (fun hActive => ?_) fun hActive => iteInduction (fun hSame => ?_)
      fun hSame => ?_
    · exact .refused _ rfl nofun (fun _ => ⟨hAcq, Or.inl (leaseActive_iff.mp hActive)⟩)
        (fun h => absurd rfl h) nofun
    · rw [Bool.not_eq_true] at hActive
      refine .refused _ rfl nofun (fun _ => ⟨hAcq, Or.inr ?_⟩) (fun h => absurd rfl h) nofun
      by_contra hIds
      exact withLease_ne
        ((((transition_acquireLease hActive).trans (if_neg hIds)).symm).trans hSame)
    · rw [Bool.not_eq_true] at hActive
      have hIds : ¬ (m.clientId = "" ∨ m.leaseId = "") := by
        intro hIds
        exact hSame ((transition_acquireLease hActive).trans (if_pos hIds))
      have hNext : next = s.leased m now :=
        congrArg (fun state => s.grant state m.sequence now)
          ((transition_acquireLease hActive).trans (if_neg hIds))
      rw [not_or] at hIds
      rw [hNext]
      exact .granted _ (leaseActive_eq_false_iff.mp hActive) hIds.1 hIds.2 (Or.inr ⟨hAcq, rfl⟩)
  · refine iteInduction (fun hOther => ?_) fun hOwner => iteInduction (fun hStale => ?_)
      fun hStale => iteInduction (fun hSup => ?_) fun _ => ?_
    · refine .refused _ rfl nofun nofun (fun _ => hAcq) (fun _ => ?_)
      rwa [leaseActive_eq_false_iff] at hOther
    · refine .refused _ rfl (fun _ => ?_) nofun (fun _ => hAcq) nofun
      rw [not_or, Bool.not_eq_false] at hOwner
      refine ⟨leaseActive_iff.mp hOwner.1, ?_⟩
      cases hLast : s.lastControlSequence with
      | none => simp [hLast] at hStale
      | some last => exact ⟨last, rfl, by simpa [hLast] using hStale⟩
    · rw [supported_of_ne hAcq] at hSup
      cases hSup
    · rw [not_or, not_or, Bool.not_eq_false, not_not, not_not] at hOwner
      refine .owned hAcq (leaseActive_iff.mp hOwner.1) hOwner.2.1 hOwner.2.2 ?_
      intro last hLast
      have hLast' : s.lastControlSequence = some last := hLast
      simpa [hLast'] using hStale

theorem isRefusal_ite {c : Prop} [Decidable c] {a b : Reason} (ha : isRefusal a = false)
    (hb : isRefusal b = false) : isRefusal (if c then a else b) = false := by
  split
  · exact ha
  · exact hb

/-- The reason of the current authority is never a refusal. -/
theorem isRefusal_reason (s : CommandSupervisor) (now : ℚ) : isRefusal (s.reason now) = false := by
  unfold reason
  repeat' apply isRefusal_ite
  all_goals rfl

/-- An event of the owner is never reported as refused. -/
theorem isRefusal_handleOwnedEvent (s : CommandSupervisor) (m : ControlMessage) (now : ℚ) :
    isRefusal (s.handleOwnedEvent m now).2.snapshot.reason = false := by
  unfold handleOwnedEvent
  cases hEvent : m.event with
  | clearStop => rfl
  | goalSelected =>
    dsimp only
    split_ifs
    · exact isRefusal_reason _ now
    · rfl
  | manualActive =>
    dsimp only
    unfold acceptManual
    split
    · split_ifs <;> rfl
    · rfl
  | leaseAcquired => rfl
  | heartbeat | runPressed | runReleased | stop | manualInactive | leaseReleased | leaseLost =>
    exact isRefusal_reason _ now

end CommandSupervisor

end PreRunner.Paddock
