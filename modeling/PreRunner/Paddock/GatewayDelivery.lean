import PreRunner.Paddock.AutonomyPermission
import PreRunner.Paddock.GatewayIntents

/-!
# The gateway and the supervisor agree

The control events of the gateway reach the supervisor in order and with any delay. The events
in flight lead from the view the supervisor has been told of to the present view of the gateway
(`Runs.Sent`), and the supervisor `Follows` the delivered view: its lease, if it has one, is the
gateway's, and it permits no more than the gateway asked for.
-/

namespace PreRunner.Paddock

open PaddockState Runs

/-- The message the authority reads from a control event. -/
def ControlEventIntent.message (e : ControlEventIntent) : ControlMessage :=
  { event := e.event
    clientId := e.clientId
    leaseId := e.leaseId
    sequence := e.sequence
    goalX := e.goalX
    goalY := e.goalY
    goalYaw := e.goalYaw
    manualSpeedMps := e.manualSpeedMps
    manualSteering := e.manualSteering }

/-- The supervisor holds no lease, or the one of the view; its RUN and its manual input were
asked for. -/
structure Follows (v : GatewayView) (s : CommandSupervisor) : Prop where
  interlocked : Interlocked s.state
  lease : s.state.leaseId ≠ "" → v.owned = true ∧ s.state.leaseClientId = v.clientId ∧
    s.state.leaseId = v.leaseId ∧ s.lastControlSequence = some (v.sequence : Int)
  run : Armed s.state → v.runPressed = true
  manual : s.state.manualActive = true → v.manualActive = true

/-- Without a lease a supervisor follows any view. -/
theorem follows_of_free {v : GatewayView} {s : CommandSupervisor} (hI : Interlocked s.state)
    (hFree : s.state.leaseId = "") : Follows v s where
  interlocked := hI
  lease h := absurd hFree h
  run h := absurd hFree h.lease
  manual h := by rw [(hI.leased hFree).2] at h; cases h

theorem follows_expireLease {v : GatewayView} {s : CommandSupervisor} (h : Follows v s)
    (now : ℚ) : Follows v (s.expireLease now) := by
  rw [CommandSupervisor.expireLease_eq]
  split
  · exact follows_of_free (.withoutLease _) rfl
  · exact h

namespace CommandSupervisor

/-- Manual input starts with a `MANUAL_ACTIVE` event of the owner, and ends with its STOP, its
release, or the lease. -/
theorem manual_ownedState {state : PaddockState} {m : ControlMessage}
    (h : (ownedState state m).manualActive = true) :
    m.event = .manualActive ∨ (state.manualActive = true ∧ m.event ≠ .stop ∧
      m.event ≠ .manualInactive ∧ m.event ≠ .leaseReleased ∧ m.event ≠ .leaseLost) := by
  unfold ownedState at h
  cases hEvent : m.event with
  | manualActive => exact Or.inl rfl
  | heartbeat | leaseAcquired =>
    rw [hEvent] at h
    exact Or.inr ⟨h, nofun, nofun, nofun, nofun⟩
  | clearStop | stop | leaseReleased | leaseLost =>
    rw [hEvent] at h
    cases h
  | manualInactive =>
    rw [hEvent] at h
    dsimp only at h
    rw [ownerTransition_manualInactive] at h
    cases h
  | goalSelected =>
    rw [hEvent] at h
    refine Or.inr ⟨?_, nofun, nofun, nofun, nofun⟩
    dsimp only [ownerTransition] at h
    split at h
    · split at h
      · exact h
      · split at h <;> exact h
    · exact h
  | runPressed | runReleased =>
    rw [hEvent] at h
    refine Or.inr ⟨?_, nofun, nofun, nofun, nofun⟩
    dsimp only [ownerTransition] at h
    split at h
    · exact h
    · first | exact h | (split at h <;> exact h)

end CommandSupervisor

/-! ## Delivering one control event -/

namespace GatewayView

@[simp] theorem apply_sequence (v : GatewayView) (e : ControlEventIntent) :
    (v.apply e).sequence = e.sequence := by
  unfold apply
  cases e.event <;> rfl

theorem apply_lease {v : GatewayView} {e : ControlEventIntent}
    (hAcquired : e.event ≠ .leaseAcquired)
    (hReleased : e.event ≠ .leaseReleased) (hLost : e.event ≠ .leaseLost) :
    (v.apply e).owned = v.owned ∧ (v.apply e).clientId = v.clientId ∧
      (v.apply e).leaseId = v.leaseId := by
  unfold apply
  cases hEvent : e.event with
  | leaseAcquired => exact absurd hEvent hAcquired
  | leaseReleased => exact absurd hEvent hReleased
  | leaseLost => exact absurd hEvent hLost
  | _ => exact ⟨rfl, rfl, rfl⟩

end GatewayView

theorem isNewerSequence_succ (n : Nat) : isNewerSequence ((n + 1 : Nat) : Int) n = true := by
  simp [isNewerSequence]

namespace Follows

open CommandSupervisor

variable {v : GatewayView} {s : CommandSupervisor} {e : ControlEventIntent}

/-- An event that bears the ids of the view is one of the owner, if there is an owner. -/
theorem addressed (h : Follows v s) (hOk : v.Ok e) (hEvent : e.event ≠ .leaseAcquired)
    (hLease : s.state.leaseId ≠ "") :
    e.clientId = s.state.leaseClientId ∧ e.leaseId = s.state.leaseId := by
  obtain ⟨_, hClient, hId⟩ := hOk.addressed hEvent
  obtain ⟨_, hClient', hId', _⟩ := h.lease hLease
  exact ⟨hClient.trans hClient'.symm, hId.trans hId'.symm⟩

theorem granted (h : Follows v s) (hOk : v.Ok e) (hFree : s.state.leaseId = "") (now : ℚ)
    (hEvent : e.event = .heartbeat ∨ e.event = .leaseAcquired) :
    Follows (v.apply e) (s.leased e.message now) where
  interlocked := by
    obtain ⟨hRun, hManual⟩ := h.interlocked.leased hFree
    exact ⟨fun _ => ⟨hRun, hManual⟩, h.interlocked.blocked, h.interlocked.goal⟩
  lease _ := by
    refine ⟨?_, ?_, ?_, ?_⟩
    all_goals rcases hEvent with hEvent | hEvent
    · rw [(GatewayView.apply_lease (by simp [hEvent]) (by simp [hEvent]) (by simp [hEvent])).1]
      exact (hOk.addressed (by simp [hEvent])).1
    · simp [GatewayView.apply, hEvent]
    · rw [(GatewayView.apply_lease (by simp [hEvent]) (by simp [hEvent]) (by simp [hEvent])).2.1]
      exact (hOk.addressed (by simp [hEvent])).2.1
    · simp only [GatewayView.apply, hEvent]; rfl
    · rw [(GatewayView.apply_lease (by simp [hEvent]) (by simp [hEvent]) (by simp [hEvent])).2.2]
      exact (hOk.addressed (by simp [hEvent])).2.2
    · simp only [GatewayView.apply, hEvent]; rfl
    all_goals rw [GatewayView.apply_sequence]; rfl
  run hArmed := by
    have hHeld : s.state.runHeld = true := hArmed.held
    rw [(h.interlocked.leased hFree).1] at hHeld
    cases hHeld
  manual hManual := by
    have hHeld : s.state.manualActive = true := hManual
    rw [(h.interlocked.leased hFree).2] at hHeld
    cases hHeld

theorem owned (h : Follows v s) (now : ℚ) (hEvent : e.event ≠ .leaseAcquired)
    (hLease : s.state.leaseId ≠ "") (hId : e.leaseId = s.state.leaseId) :
    Follows (v.apply e) (handleOwnedEvent (s.refreshed e.message now) e.message now).1 := by
  have hMoves := handleOwnedEvent_movesTo (s.refreshed e.message now) e.message now
    (leaseActive_iff.mpr hLease) hId
  obtain ⟨demand, input, hNext⟩ := hMoves
  have hState : (handleOwnedEvent (s.refreshed e.message now) e.message now).1.state =
      ownedState s.state e.message := by rw [hNext]; rfl
  have hI := h.interlocked.ownedState hLease e.message
  have hKept : (ownedState s.state e.message).leaseId ≠ "" →
      e.event ≠ .leaseReleased ∧ e.event ≠ .leaseLost := by
    intro hOwned
    constructor <;> intro hLost <;>
      exact hOwned (by simp [ownedState, ControlEventIntent.message, hLost, withoutLease])
  refine ⟨hState ▸ hI, fun hOwned => ?_, fun hArmed => ?_, fun hManual => ?_⟩
  · rw [hState] at hOwned ⊢
    obtain ⟨hReleased, hLost⟩ := hKept hOwned
    obtain ⟨hView, hViewClient, hViewLease⟩ := GatewayView.apply_lease hEvent hReleased hLost
    obtain ⟨hIs, hClient, hLeaseId, _⟩ := h.lease hLease
    have hTenure := sameTenure_ownedState hOwned
    refine ⟨hView.trans hIs, ?_, ?_, ?_⟩
    · rw [hViewClient, hTenure.client, hClient]
    · rw [hViewLease, hTenure.lease, hLeaseId]
    · have hReleased' : e.message.event ≠ .leaseReleased := hReleased
      rw [GatewayView.apply_sequence, hNext, if_neg hReleased']
      rfl
  · rw [hState] at hArmed
    have hRun : e.event = .runPressed ∨ Armed s.state := by
      by_cases hPress : e.event = .runPressed
      · exact Or.inl hPress
      · exact Or.inr (hArmed.of_kept (sameTenure_ownedState hArmed.lease)
          (runKept_ownedState hPress))
    have hDisarms : ∀ event, e.event = event → event = .runReleased ∨ event = .stop → False := by
      intro event hEq hOr
      have := @released_ownedState s.state e.message
        (by rcases hOr with rfl | rfl <;> simp [ControlEventIntent.message, hEq])
      rw [hArmed.held] at this
      cases this
    have hManual := not_manualActive_of_armed h.interlocked hArmed
    obtain ⟨hReleased, hLost⟩ := hKept hArmed.lease
    cases hCase : e.event with
    | runPressed => simp only [GatewayView.apply, hCase]
    | leaseAcquired => exact absurd hCase hEvent
    | leaseReleased => exact absurd hCase hReleased
    | leaseLost => exact absurd hCase hLost
    | runReleased => exact (hDisarms _ hCase (Or.inl rfl)).elim
    | stop => exact (hDisarms _ hCase (Or.inr rfl)).elim
    | manualActive => exact absurd hCase hManual
    | goalSelected | heartbeat | clearStop | manualInactive =>
      simp only [GatewayView.apply, hCase]
      exact h.run (hRun.resolve_left (by simp [hCase]))
  · rw [hState] at hManual
    rcases manual_ownedState hManual with hActive | ⟨hWas, hStop, hInactive, hReleased, hLost⟩
    · have hActive' : e.event = .manualActive := hActive
      simp only [GatewayView.apply, hActive']
    · have hView := h.manual hWas
      cases hCase : e.event with
      | leaseAcquired => exact absurd hCase hEvent
      | leaseReleased => exact absurd hCase hReleased
      | leaseLost => exact absurd hCase hLost
      | stop => exact absurd hCase hStop
      | manualInactive => exact absurd hCase hInactive
      | manualActive => simp only [GatewayView.apply, hCase]
      | goalSelected | heartbeat | clearStop | runPressed | runReleased =>
        simp only [GatewayView.apply, hCase]
        exact hView

/-- A delivered event of the gateway is never refused as stale, and never refused a lease. -/
theorem deliver (h : Follows v s) (hOk : v.Ok e) (now : ℚ) :
    Follows (v.apply e) (s.handleControlEvent e.message now).1 ∧
      (s.handleControlEvent e.message now).2.snapshot.reason ≠ .staleEventRejected ∧
      (e.event = .leaseAcquired → (s.handleControlEvent e.message now).2.accepted = true) := by
  have hLive := follows_expireLease h now
  have hCase := handleControlEvent_case s e.message now
  generalize s.handleControlEvent e.message now = out at hCase ⊢
  generalize s.expireLease now = d at hLive hCase
  cases hCase with
  | refused reason hRefusal hStale hLease hOther hOwner =>
    have hNotLease : reason ≠ .leaseRejected := by
      intro hReason
      obtain ⟨hEvent, hFree⟩ := hLease hReason
      obtain ⟨hOwned, hClient, hId⟩ := hOk.acquired hEvent
      rcases hFree with hHeld | hClient' | hId'
      · rw [(hLive.lease hHeld).1] at hOwned
        cases hOwned
      · exact hClient hClient'
      · exact hId hId'
    have hEvent : e.event ≠ .leaseAcquired := hOther hNotLease
    have hNotStale : reason ≠ .staleEventRejected := by
      intro hReason
      obtain ⟨hHeld, last, hLast, hOld⟩ := hStale hReason
      rw [(hLive.lease hHeld).2.2.2, Option.some.injEq] at hLast
      have hNewer := isNewerSequence_succ v.sequence
      rw [← hOk.sequence, hLast] at hNewer
      exact absurd (hNewer.symm.trans hOld) nofun
    refine ⟨follows_of_free hLive.interlocked ?_, hNotStale, fun hAcquired =>
      absurd hAcquired hEvent⟩
    have hReason : reason = .nonOwnerEventRejected := by
      cases reason <;> first | rfl | contradiction
    by_contra hHeld
    obtain ⟨hClient, hId⟩ := hLive.addressed hOk hEvent hHeld
    rcases hOwner hReason with hFree | hClient' | hId'
    · exact hHeld hFree
    · exact hClient' hClient
    · exact hId' hId
  | granted reason hFree _ _ hEvent =>
    refine ⟨hLive.granted hOk hFree now ?_, ?_, fun _ => rfl⟩
    · rcases hEvent with ⟨hEvent, _⟩ | ⟨hEvent, _⟩
      · exact Or.inl hEvent
      · exact Or.inr hEvent
    · rcases hEvent with ⟨_, _, rfl⟩ | ⟨_, rfl⟩ <;> exact nofun
  | owned hEvent hHeld _ hId =>
    refine ⟨hLive.owned now hEvent hHeld hId, fun hReason => ?_, fun hAcquired =>
      absurd hAcquired hEvent⟩
    have hRefusal := isRefusal_handleOwnedEvent (d.refreshed e.message now) e.message now
    rw [hReason] at hRefusal
    cases hRefusal

end Follows

/-! ## The other inputs of the supervisor -/

/-- The inputs of a running supervisor that do not come from the gateway. -/
inductive Callback where
  | tick
  | runtimeMode (mode : Mode) (activeAutonomyMap : String) (runtimeStable : Bool)
  | requestMode (mode : Option Mode) (requestId : Int) (leaseId : String)
  | dualsense (active : Bool)
  | rawAutonomy (command : VelocityCommand)
  | rawManual (command : VelocityCommand) (sequence : Int)
  | manualMaxSpeed (value : PyFloat)
  deriving DecidableEq, Repr

def Callback.call : Callback → Call
  | tick => .tick
  | runtimeMode mode map stable => .setRuntimeMode mode map stable
  | requestMode mode requestId leaseId => .requestMode mode requestId leaseId
  | dualsense active => .setDualsenseActive active
  | rawAutonomy command => .receiveRawAutonomy command
  | rawManual command sequence => .receiveRawManual command sequence
  | manualMaxSpeed value => .setManualMaxSpeedMps value

namespace CommandSupervisor

/-- No callback starts manual input. -/
theorem manual_callback {s : CommandSupervisor} {callback : Callback} {now : ℚ}
    (h : (s.step ⟨callback.call, now⟩).state.manualActive = true) :
    s.state.manualActive = true := by
  obtain ⟨base, hBase, hMove⟩ := s.step_move ⟨callback.call, now⟩
  have hKept : base.manualActive = true → s.state.manualActive = true := by
    rcases hBase with rfl | ⟨_, rfl⟩
    · exact id
    · exact nofun
  refine hKept ?_
  generalize (s.step ⟨callback.call, now⟩).state = next at h hMove
  cases hMove with
  | stays => exact h
  | manualEnds => cases h
  | granted m hCall => cases callback <;> cases hCall
  | owned m hCall => cases callback <;> cases hCall
  | runtime mode map stable =>
    unfold runtimeState at h
    extract_lets effectiveMode at h
    split at h
    · cases h
    · exact h
  | requestMode mode requestId leaseId =>
    dsimp only [transition, ownerTransition] at h
    split at h
    · exact h
    · split at h
      · exact h
      · split at h
        · exact h
        · split at h
          · exact h
          · cases h
  | dualsense active =>
    cases active with
    | false => exact h
    | true =>
      change (transition base .dualsenseActive).state.manualActive = true at h
      dsimp only [transition] at h
      split at h
      · exact h
      · cases h
  | restart => cases h

theorem expireManual_lastControlSequence (s : CommandSupervisor) (now : ℚ) :
    (s.expireManual now).lastControlSequence = s.lastControlSequence := by
  unfold expireManual
  split <;> rfl

theorem MovesTo.lastControlSequence {s next : CommandSupervisor} {state : PaddockState}
    (h : MovesTo s next state) : next.lastControlSequence = s.lastControlSequence := by
  obtain ⟨_, _, rfl⟩ := h
  rfl

theorem expireManual_leaseId (s : CommandSupervisor) (now : ℚ) :
    (s.expireManual now).state.leaseId = s.state.leaseId := by
  unfold expireManual
  split
  · dsimp only [transition]
    split
    · rfl
    · rw [ownerTransition_manualInactive]
  · rfl

/-- A callback first drops a lapsed lease; it changes neither the lease nor the number of its
last event. -/
theorem callback_lease (s : CommandSupervisor) (callback : Callback) (now : ℚ) :
    ∃ d, (d = s ∨ d = s.dropLease) ∧
      (s.step ⟨callback.call, now⟩).lastControlSequence = d.lastControlSequence ∧
      (s.step ⟨callback.call, now⟩).state.leaseId = d.state.leaseId := by
  have hDrop : s.expireLease now = s ∨ s.expireLease now = s.dropLease := by
    rw [expireLease_eq]
    split
    · exact Or.inr rfl
    · exact Or.inl rfl
  cases callback with
  | tick =>
    exact ⟨_, hDrop, expireManual_lastControlSequence _ now, expireManual_leaseId _ now⟩
  | runtimeMode mode map stable =>
    have hMoves := setRuntimeMode_movesTo s mode map now stable
    refine ⟨_, hDrop, hMoves.lastControlSequence, ?_⟩
    obtain ⟨demand, input, hNext⟩ := hMoves
    change (s.setRuntimeMode mode map now stable).1.state.leaseId = _
    rw [hNext]
    change (runtimeState _ _ _ _).leaseId = _
    unfold runtimeState
    exact iteInduction (motive := fun state => PaddockState.leaseId state = _) (fun _ => rfl)
      fun _ => rfl
  | requestMode mode requestId leaseId =>
    exact ⟨_, hDrop, rfl, (sameLease_requestMode _ _).lease⟩
  | dualsense active =>
    refine ⟨_, hDrop, (movesTo_finishEvent _ now).lastControlSequence, ?_⟩
    change (s.setDualsenseActive active now).1.state.leaseId = _
    unfold setDualsenseActive
    rw [finishEvent_state]
    cases active with
    | false => rfl
    | true =>
      change (transition (s.expireLease now).state .dualsenseActive).state.leaseId = _
      dsimp only [transition]
      split <;> rfl
  | rawAutonomy command =>
    refine ⟨_, hDrop, ?_⟩
    change (s.receiveRawAutonomy command now).1.lastControlSequence = _ ∧
      (s.receiveRawAutonomy command now).1.state.leaseId = _
    unfold receiveRawAutonomy
    dsimp only
    split
    · exact ⟨rfl, rfl⟩
    · split <;> exact ⟨rfl, rfl⟩
  | rawManual command sequence =>
    refine ⟨_, hDrop, ?_⟩
    have hSequence := expireManual_lastControlSequence (s.expireLease now) now
    have hLease := expireManual_leaseId (s.expireLease now) now
    change (s.receiveRawManual command sequence now).1.lastControlSequence = _ ∧
      (s.receiveRawManual command sequence now).1.state.leaseId = _
    unfold receiveRawManual
    dsimp only
    split
    · exact ⟨hSequence, hLease⟩
    · split <;> exact ⟨hSequence, hLease⟩
  | manualMaxSpeed value =>
    refine ⟨s, Or.inl rfl, ?_⟩
    change ((s.setManualMaxSpeedMps value).getD s).lastControlSequence = _ ∧
      ((s.setManualMaxSpeedMps value).getD s).state.leaseId = _
    unfold setManualMaxSpeedMps
    split <;> exact ⟨rfl, rfl⟩

/-- No callback presses RUN or grants a lease. -/
theorem not_presses_callback {s : CommandSupervisor} {callback : Callback} {now : ℚ}
    {state : PaddockState} : ¬ s.Presses ⟨callback.call, now⟩ state := by
  rintro ⟨m, hCall, -⟩
  cases callback <;> cases hCall

theorem not_grants_callback {s : CommandSupervisor} {callback : Callback} {now : ℚ}
    {client lease : String} : s.grants client lease ⟨callback.call, now⟩ = false := by
  cases callback <;> rfl

end CommandSupervisor

open CommandSupervisor in
theorem Follows.callback {v : GatewayView} {s : CommandSupervisor} (h : Follows v s)
    (callback : Callback) (now : ℚ) : Follows v (s.step ⟨callback.call, now⟩) where
  interlocked := h.interlocked.step _
  lease hLease := by
    rcases tenure_step hLease with ⟨hHeld, _, hClient, hId⟩ | hGrant
    · obtain ⟨hOwned, hViewClient, hViewLease, hLast⟩ := h.lease hHeld
      refine ⟨hOwned, hClient.trans hViewClient, hId.trans hViewLease, ?_⟩
      obtain ⟨d, hd, hSequence, hKeep⟩ := callback_lease s callback now
      rcases hd with rfl | rfl
      · exact hSequence.trans hLast
      · exact absurd hKeep hLease
    · rw [not_grants_callback] at hGrant
      cases hGrant
  run hArmed := h.run ((armed_step h.interlocked hArmed).2.resolve_right not_presses_callback)
  manual hManual := h.manual (manual_callback hManual)

/-! ## The composition -/

/-- A gateway, a supervisor, and the control events on their way. -/
structure OperatorLink where
  gateway : OperatorGateway
  supervisor : CommandSupervisor
  inFlight : List ControlEventIntent := []

/-- One input of the composition. -/
inductive LinkInput where
  | action (conn : String) (action : PyValue)
  | disconnect (conn : String)
  | deliver (now : ℚ)
  | callback (callback : Callback) (now : ℚ)

namespace OperatorLink

/-- Send the control events of a result. -/
def send (link : OperatorLink) (out : GatewayResult × OperatorGateway) : OperatorLink :=
  { link with
    gateway := out.2
    inFlight := link.inFlight ++ OperatorGateway.controls out.1.intents }

/-- One input; an action that raises leaves everything as it was. -/
def step (t : PyText) (link : OperatorLink) : LinkInput → OperatorLink
  | .action conn action =>
    match OperatorGateway.handle t link.gateway conn action with
    | .ok out => link.send out
    | .error _ => link
  | .disconnect conn => link.send (link.gateway.onDisconnect conn)
  | .deliver now =>
    match link.inFlight with
    | [] => link
    | e :: rest =>
      { link with
        supervisor := (link.supervisor.handleControlEvent e.message now).1
        inFlight := rest }
  | .callback callback now =>
    { link with supervisor := link.supervisor.step ⟨callback.call, now⟩ }

/-- The supervisor follows the view from which the events in flight lead to the gateway. -/
def Consistent (link : OperatorLink) : Prop :=
  (∀ n, link.gateway.uuidFactory n ≠ "") ∧
    ∃ v, Sent GatewayView.Ok GatewayView.apply v link.inFlight link.gateway.view ∧
      Follows v link.supervisor

theorem consistent_send {link : OperatorLink} {out : GatewayResult × OperatorGateway}
    (h : link.Consistent) (hOut : link.gateway.Sends (.ok out)) : (link.send out).Consistent := by
  obtain ⟨hIds, v, hSent, hFollows⟩ := h
  obtain ⟨hFactory, hLater⟩ := hOut out.1 out.2 rfl
  refine ⟨fun n => ?_, v, hSent.append hLater, hFollows⟩
  change out.2.uuidFactory n ≠ ""
  rw [hFactory]
  exact hIds n

theorem consistent_step (t : PyText) {link : OperatorLink} (h : link.Consistent)
    (input : LinkInput) : (link.step t input).Consistent := by
  cases input with
  | action conn action =>
    have hSends := OperatorGateway.sends_handle t link.gateway conn action h.1
    dsimp only [step]
    split
    · rename_i out hOut
      exact consistent_send h (hOut ▸ hSends)
    · exact h
  | disconnect conn => exact consistent_send h (OperatorGateway.sends_onDisconnect _ conn)
  | deliver now =>
    obtain ⟨hIds, v, hSent, hFollows⟩ := h
    dsimp only [step]
    split
    · exact ⟨hIds, v, hSent, hFollows⟩
    · rename_i e rest hQueue
      rw [hQueue, sent_cons] at hSent
      exact ⟨hIds, v.apply e, hSent.2, (hFollows.deliver hSent.1 now).1⟩
  | callback callback now =>
    obtain ⟨hIds, v, hSent, hFollows⟩ := h
    exact ⟨hIds, v, hSent, hFollows.callback callback now⟩

/-- What the composition guarantees in a state. -/
structure Agrees (link : OperatorLink) : Prop where
  /-- The next event is never refused a lease. -/
  granted : ∀ e rest now, link.inFlight = e :: rest → e.event = .leaseAcquired →
    (link.supervisor.handleControlEvent e.message now).2.accepted = true
  /-- The next event is never stale. -/
  newer : ∀ e rest now, link.inFlight = e :: rest →
    (link.supervisor.handleControlEvent e.message now).2.snapshot.reason ≠ .staleEventRejected
  lease : link.inFlight = [] → link.supervisor.state.leaseActive = true →
    link.gateway.leaseHeld = true ∧
      link.supervisor.state.leaseClientId = link.gateway.clientId ∧
      link.supervisor.state.leaseId = link.gateway.leaseId
  run : link.inFlight = [] → link.supervisor.state.autonomyPermitted = true →
    link.gateway.runPressed = true
  manual : link.inFlight = [] → link.supervisor.state.manualActive = true →
    link.gateway.manualActive = true

theorem Consistent.agrees {link : OperatorLink} (h : link.Consistent) : link.Agrees := by
  obtain ⟨_, v, hSent, hFollows⟩ := h
  have hHead : ∀ e rest, link.inFlight = e :: rest → v.Ok e := by
    intro e rest hQueue
    rw [hQueue, sent_cons] at hSent
    exact hSent.1
  have hView : link.inFlight = [] → v = link.gateway.view := by
    intro hQueue
    rw [hQueue, sent_nil] at hSent
    exact hSent
  refine ⟨fun e rest now hQueue hEvent => ?_, fun e rest now hQueue => ?_, fun hQueue hLease => ?_,
    fun hQueue hPermitted => ?_, fun hQueue hManual => ?_⟩
  · exact (hFollows.deliver (hHead e rest hQueue) now).2.2 hEvent
  · exact (hFollows.deliver (hHead e rest hQueue) now).2.1
  · obtain ⟨hOwned, hClient, hId, _⟩ := hFollows.lease (leaseActive_iff.mp hLease)
    rw [hView hQueue] at hOwned hClient hId
    exact ⟨hOwned, hClient, hId⟩
  · obtain ⟨hMode, hLease, hHeld, hUnblocked, _⟩ := autonomyPermitted_iff.mp hPermitted
    have hRun := hFollows.run ⟨hMode, hLease, hHeld, hUnblocked⟩
    rw [hView hQueue] at hRun
    exact hRun
  · have hActive := hFollows.manual hManual
    rw [hView hQueue] at hActive
    exact hActive

/-- A fresh gateway and a fresh supervisor agree after every run, whatever the browsers, the robot
and the channel do. `Consistent` relates the events still in the channel to the views at its two
ends; `consistent_step` keeps it through every input. -/
theorem agrees_after (t : PyText) (uuidFactory : Nat → String) (hIds : ∀ n, uuidFactory n ≠ "")
    {lease raw : PyFloat} {liveness : Option PyFloat} {manual speed : PyFloat} {floor : ℚ}
    {map : String} {supervisor : CommandSupervisor}
    (hInit : CommandSupervisor.init lease raw liveness manual speed floor map = .ok supervisor)
    (past : List LinkInput) :
    (after (step t) { gateway := { uuidFactory }, supervisor } past).Agrees := by
  have hState := CommandSupervisor.init_state hInit
  have hStart : Consistent { gateway := { uuidFactory }, supervisor } := by
    refine ⟨hIds, _, Sent.refl _, follows_of_free ?_ ?_⟩
    · rw [hState]; exact .of_disarmed rfl rfl rfl
    · rw [hState]
  exact Consistent.agrees
    (@after_invariant _ _ (step t) _ Consistent hStart (fun _ input h => consistent_step t h input)
      past)

/-- Text that is never a number, with fixed spellings. -/
def plainText : PyText where
  str
    | .str text => text
    | _ => ""
  repr _ := ""
  floatOfStr _ := .error .valueError
  intOfStr _ := .error .valueError
  strip text := text
  lower text := text
  format2 _ := ""
  str_str _ := rfl
  floatOfStr_error _ _ h := (Except.error.inj h).symm
  intOfStr_error _ _ h := (Except.error.inj h).symm

/-- A browser takes the lease, selects a goal and presses RUN; latest input first. -/
def drivingRun : List LinkInput :=
  let browser (fields : PyDict) : LinkInput := .action "tab" (.dict fields)
  [.deliver (4 / 100), .deliver (3 / 100), .deliver (2 / 100),
    browser [("action", .str "run"), ("held", .bool true)],
    browser [("action", .str "select_goal"), ("x", .int 1), ("y", .float (.finite 2))],
    browser [("action", .str "acquire")],
    .callback (.runtimeMode .autonomy "m" true) (1 / 100)]

theorem agrees_after_drivingRun :
    let init : OperatorLink :=
      { gateway := { uuidFactory := fun n => "id-" ++ toString n }
        supervisor := CommandSupervisor.defaultSupervisor "m" }
    (after (step plainText) init drivingRun).supervisor.state.autonomyPermitted = true ∧
      (after (step plainText) init drivingRun).Agrees :=
  ⟨by decide +kernel, agrees_after plainText _ (fun n => by simp)
    (CommandSupervisor.init_default "m") drivingRun⟩

end OperatorLink

end PreRunner.Paddock
