import PreRunner.Paddock.AuthorityCallbacks

/-!
# The authority without a stable runtime

A runtime report that is not stable puts the supervisor into IDLE. From then on no callback but the
next runtime report leaves IDLE, and every status that is published meanwhile shows the brake and
no authority (`Callback.braked`, `onMode_braked`).
-/

namespace PreRunner.Paddock

open Bringup

namespace PaddockState

variable {state : PaddockState}

theorem authority_of_idle (h : state.mode = .idle) : state.authority = .none := if_pos h

theorem autonomyPermitted_of_idle (h : state.mode = .idle) : state.autonomyPermitted = false := by
  by_contra hPermitted
  have hMode := (autonomyPermitted_iff.mp (Bool.eq_true_of_not_eq_false hPermitted)).1
  rw [h] at hMode
  cases hMode

theorem ownerTransition_mode {event : Event} {args : TransitionArgs} (h : event ≠ .requestMode) :
    (ownerTransition state event args).state.mode = state.mode := by
  unfold ownerTransition
  cases event with
  | requestMode => exact absurd rfl h
  | selectGoal =>
    dsimp only
    split
    · rfl
    · split
      · rfl
      · split <;> rfl
  | runPress | runRelease | manualActive | manualInactive =>
    dsimp only
    repeat' split
    all_goals rfl
  | _ => rfl

theorem ownedState_mode (m : ControlMessage) : (ownedState state m).mode = state.mode := by
  unfold ownedState
  cases m.event with
  | goalSelected =>
    dsimp only
    split
    · exact ownerTransition_mode (by decide)
    · rfl
  | manualActive =>
    dsimp only
    split
    · exact ownerTransition_mode (by decide)
    · exact @ownerTransition_mode state .manualActive {} (by decide)
  | clearStop | stop | runPressed | runReleased | manualInactive =>
    exact ownerTransition_mode (by decide)
  | _ => rfl

theorem dualsense_mode (active : Bool) :
    (transition state (if active then .dualsenseActive else .dualsenseInactive)).state.mode =
      state.mode := by
  cases active with
  | false => rfl
  | true =>
    change (transition state .dualsenseActive).state.mode = _
    unfold transition
    dsimp only
    split <;> rfl

end PaddockState

namespace CommandSupervisor

variable {s : CommandSupervisor} {c : TimedCall}

/-- Only a runtime report, a mode request and a restart change the mode. -/
theorem step_mode (h : c.call.keepsRuntime = true) : (s.step c).state.mode = s.state.mode := by
  obtain ⟨base, hBase, hMove⟩ := s.step_move c
  have hMode : base.mode = s.state.mode := by
    rcases hBase with rfl | ⟨_, rfl⟩ <;> rfl
  rw [← hMode]
  generalize (s.step c).state = next at hMove
  cases hMove with
  | stays | manualEnds | granted => rfl
  | owned m => exact PaddockState.ownedState_mode m
  | dualsense active => exact PaddockState.dualsense_mode active
  | runtime mode map stable hCall | requestMode mode requestId leaseId hCall | restart hCall =>
    rw [hCall] at h
    cases h

theorem setRuntimeMode_idle (s : CommandSupervisor) (mode : Mode) (map : String) (now : ℚ) :
    (s.setRuntimeMode mode map now false).1.state.mode = .idle := by
  unfold setRuntimeMode
  dsimp only
  rw [clearManualIfInactive_state]
  rfl

theorem snapshot_brake (h : s.state.mode = .idle) (now : ℚ) (reason : Reason) :
    (s.snapshot now reason).brakeIntent = true := by
  unfold snapshot
  rw [PaddockState.authority_of_idle h, PaddockState.autonomyPermitted_of_idle h]
  rfl

theorem handleOwnedEvent_brake (s : CommandSupervisor) (m : ControlMessage) (now : ℚ)
    (h : (s.handleOwnedEvent m now).1.state.mode = .idle) :
    (s.handleOwnedEvent m now).2.snapshot.brakeIntent = true := by
  unfold handleOwnedEvent at h ⊢
  cases hEvent : m.event with
  | goalSelected =>
    rw [hEvent] at h
    dsimp only at h ⊢
    split at h
    · rename_i hFinite
      rw [if_pos hFinite]
      exact snapshot_brake h now _
    · rename_i hInfinite
      rw [if_neg hInfinite]
      exact snapshot_brake h now _
  | manualActive =>
    rw [hEvent] at h
    dsimp only at h ⊢
    unfold acceptManual at h ⊢
    split at h
    · split at h
      · rename_i hAuthority
        rw [if_pos hAuthority]
        exact snapshot_brake h now _
      · rename_i hAuthority
        rw [if_neg hAuthority]
        exact snapshot_brake h now _
    · exact snapshot_brake h now _
  | _ =>
    rw [hEvent] at h
    exact snapshot_brake h now _

theorem handleControlEvent_brake (s : CommandSupervisor) (m : ControlMessage) (now : ℚ)
    (h : (s.handleControlEvent m now).1.state.mode = .idle) :
    (s.handleControlEvent m now).2.snapshot.brakeIntent = true := by
  have hCase := handleControlEvent_case s m now
  generalize s.handleControlEvent m now = out at hCase h
  cases hCase with
  | refused | granted => exact snapshot_brake h now _
  | owned => exact handleOwnedEvent_brake _ m now h

/-- A result in IDLE shows the brake. -/
theorem result_brake {r : SupervisorResult} (hResult : s.result c = some r)
    (h : (s.step c).state.mode = .idle) : r.snapshot.brakeIntent = true := by
  obtain ⟨call, now⟩ := c
  cases call with
  | handleControlEvent m =>
    cases hResult
    exact handleControlEvent_brake s m now h
  | receiveRawAutonomy command =>
    cases hResult
    change (s.receiveRawAutonomy command now).1.state.mode = .idle at h
    change (s.receiveRawAutonomy command now).2.snapshot.brakeIntent = true
    unfold receiveRawAutonomy at h ⊢
    generalize s.expireLease now = ready at h ⊢
    dsimp only at h ⊢
    split at h
    · rename_i hInvalid
      rw [if_pos hInvalid]
      exact snapshot_brake h now _
    · rename_i hValid
      rw [if_neg hValid]
      split at h <;> split <;> exact snapshot_brake h now _
  | receiveRawManual command sequence =>
    cases hResult
    change (s.receiveRawManual command sequence now).1.state.mode = .idle at h
    change (s.receiveRawManual command sequence now).2.snapshot.brakeIntent = true
    unfold receiveRawManual at h ⊢
    generalize (s.expireLease now).expireManual now = ready at h ⊢
    dsimp only at h ⊢
    split at h
    · rename_i hInvalid
      rw [if_pos hInvalid]
      exact snapshot_brake h now _
    · rename_i hValid
      rw [if_neg hValid]
      split at h <;> split <;> exact snapshot_brake h now _
  | setManualMaxSpeedMps value => cases hResult
  | tick | setRuntimeMode mode map stable | requestMode mode requestId leaseId
    | setDualsenseActive active | restart =>
    cases hResult
    exact snapshot_brake h now _

end CommandSupervisor

namespace CommandAuthority

variable {lib : NavLibrary} {node : CommandAuthority}

/-- The statuses among what was published. -/
def sentStates (outputs : List AuthorityOutput) : List CommandAuthorityState :=
  outputs.filterMap AuthorityOutput.status?

theorem sentStates_append (first second : List AuthorityOutput) :
    sentStates (first ++ second) = sentStates first ++ sentStates second :=
  List.filterMap_append

theorem sentStates_of_none {outputs : List AuthorityOutput}
    (h : ∀ output ∈ outputs, output.status? = none) : sentStates outputs = [] :=
  List.filterMap_eq_nil_iff.mpr h

/-- No motion is granted in this state of the given runtime. -/
structure Braked (runtimeEpoch : Int) (state : CommandAuthorityState) : Prop where
  brake : state.brakeIntent = true
  authority : state.authority = .none
  epoch : state.runtimeEpoch = runtimeEpoch

/-- A node in IDLE publishes braked states only, and stays in IDLE. -/
structure StaysIdle (node : CommandAuthority) (out : CommandAuthority × List AuthorityOutput) :
    Prop where
  mode : out.1.supervisor.state.mode = .idle
  epoch : out.1.runtimeEpoch = node.runtimeEpoch
  states : ∀ state ∈ sentStates out.2, Braked node.runtimeEpoch state

theorem StaysIdle.append {first second : CommandAuthority × List AuthorityOutput}
    (hFirst : StaysIdle node first) (hSecond : StaysIdle first.1 second) :
    StaysIdle node (second.1, first.2 ++ second.2) := by
  refine ⟨hSecond.mode, hSecond.epoch.trans hFirst.epoch, fun state hMem => ?_⟩
  rw [sentStates_append] at hMem
  rcases List.mem_append.mp hMem with hMem | hMem
  · exact hFirst.states state hMem
  · exact hFirst.epoch ▸ hSecond.states state hMem

theorem Quiet.staysIdle {out : CommandAuthority × List AuthorityOutput} (h : Quiet node out)
    (hIdle : node.supervisor.state.mode = .idle) : StaysIdle node out := by
  refine ⟨h.supervisor ▸ hIdle, h.epoch, fun state hMem => ?_⟩
  rw [sentStates_of_none h.statuses] at hMem
  cases hMem

/-- The statuses of `_apply` show the snapshot. -/
theorem apply_sentStates {result : SupervisorResult} {input : ApplyInput}
    {state : CommandAuthorityState} (h : state ∈ sentStates (node.apply lib result input).2) :
    state.brakeIntent = result.snapshot.brakeIntent ∧
      state.authority = result.snapshot.state.authority ∧
      state.runtimeEpoch = node.runtimeEpoch := by
  have hOutputs : ∃ second third fourth fifth : CommandAuthority,
      fifth.runtimeEpoch = (node.applyDemand result).1.runtimeEpoch ∧
      (node.apply lib result input).2 =
        (node.applyDemand result).2 ++ (second.applyAutonomy result input.now).2 ++
          (third.applyManual result input.now).2 ++
          (fourth.applyNavigation lib result input.missionId).2 ++
          (fifth.publishState result input.stateNow).2 := by
    refine ⟨_, _, _, _, ?_, rfl⟩
    rfl
  obtain ⟨second, third, fourth, fifth, hEpoch, hOutputs⟩ := hOutputs
  rw [hOutputs, sentStates_append, sentStates_append, sentStates_append, sentStates_append] at h
  rw [sentStates_of_none (fun output hMem => ?_), sentStates_of_none (fun output hMem => ?_),
    sentStates_of_none (fun output hMem => ?_), sentStates_of_none (fun output hMem => ?_),
    List.append_nil, List.nil_append] at h
  · unfold publishState at h
    dsimp only at h
    split at h
    · cases h
    · cases List.mem_singleton.mp h
      exact ⟨rfl, rfl, hEpoch.trans (applyDemand_runtimeEpoch _ _)⟩
  · obtain ⟨m, rfl⟩ := mem_applyNavigation hMem
    rfl
  · obtain ⟨c, rfl, _⟩ := mem_applyManual hMem
    rfl
  · obtain ⟨c, rfl⟩ := mem_applyAutonomy hMem
    rfl
  · obtain ⟨m, rfl⟩ := mem_applyDemand hMem
    rfl

theorem supervise_staysIdle (lib : NavLibrary) (node : CommandAuthority) (call : Call) (now : ℚ)
    (input : ApplyInput) (hIdle : (node.supervisor.step ⟨call, now⟩).state.mode = .idle) :
    StaysIdle node (node.supervise lib call now input) := by
  refine ⟨by rw [supervise_supervisor]; exact hIdle, supervise_runtimeEpoch _ _ _ _ _,
    fun state hMem => ?_⟩
  unfold supervise at hMem
  cases hPerform : node.supervisor.perform ⟨call, now⟩ with
  | mk supervisor result =>
    rw [hPerform] at hMem
    cases result with
    | none => cases hMem
    | some result =>
      have hResult : node.supervisor.result ⟨call, now⟩ = some result :=
        congrArg Prod.snd hPerform
      obtain ⟨hBrake, hAuthority, hEpoch⟩ := apply_sentStates hMem
      refine ⟨hBrake.trans (CommandSupervisor.result_brake hResult hIdle), ?_, hEpoch⟩
      rw [hAuthority, CommandSupervisor.result_snapshot hResult]
      exact PaddockState.authority_of_idle hIdle

theorem Callback.staysIdle {out : CommandAuthority × List AuthorityOutput}
    (h : Callback lib node out) (hIdle : node.supervisor.state.mode = .idle) :
    StaysIdle node out := by
  induction h with
  | quiet hQuiet => exact hQuiet.staysIdle hIdle
  | supervise node call now input hCall =>
    exact supervise_staysIdle lib node call now input
      ((CommandSupervisor.step_mode hCall).trans hIdle)
  | append _ _ hFirst hSecond =>
    have hIdleFirst := hFirst hIdle
    exact hIdleFirst.append (hSecond hIdleFirst.mode)

/-- A runtime report that is not stable brakes at once. -/
theorem onMode_staysIdle (lib : NavLibrary) (node : CommandAuthority) {message : ModeState}
    (now : ℚ) (input : ApplyInput) {mode : Mode} (hMode : modeOf message.mode = some mode)
    (hStatus : message.status ≠ ModeState.statusStable) :
    (node.onMode lib message now input).1.supervisor.state.mode = .idle ∧
      (node.onMode lib message now input).1.runtimeEpoch = message.runtimeEpoch ∧
      ∀ state ∈ sentStates (node.onMode lib message now input).2,
        Braked message.runtimeEpoch state := by
  unfold onMode
  rw [hMode]
  dsimp only
  have hUnstable : (decide (message.status = ModeState.statusStable) && message.ready) = false := by
    rw [decide_eq_false hStatus]
    rfl
  rw [hUnstable]
  have hIdle := supervise_staysIdle lib { node with runtimeEpoch := message.runtimeEpoch }
    (.setRuntimeMode mode message.activeAutonomyMap false) now input
    (node.supervisor.setRuntimeMode_idle mode message.activeAutonomyMap now)
  exact ⟨hIdle.mode, hIdle.epoch, hIdle.states⟩

end CommandAuthority

end PreRunner.Paddock
