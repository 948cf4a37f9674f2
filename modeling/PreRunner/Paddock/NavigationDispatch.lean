import PreRunner.Paddock.NavigationSync
import PreRunner.Bringup.MissionBinding

/-!
# Dispatches asked for and dispatches sent

A RUN press or a goal selection that makes `navigation_active` true has its DISPATCH published
last, after the SELECT of its goal. As long as `navigation_active` stays true nothing is
published after it, so the DISPATCH either still is the last request on its way, or the mission
runtime has handled it (`Awaited`). The runtime sends the goal if nothing is in flight at that
moment. A goal selected while `navigation_active` stays true gets no DISPATCH, and a DISPATCH that
meets a cancellation in progress is refused and never repeated: these are the steps that
`unobstructed` leaves out.
-/

namespace PreRunner.Paddock

open Bringup Runs

/-! ## Requests -/

/-- The mission the runtime has bound once it has handled the requests. -/
def storedAfter (stored : Option Mission) : List NavigationRequest → Option Mission
  | [] => stored
  | message :: rest =>
    storedAfter (if message.operation = opSelect then some message.select.mission else stored) rest

theorem storedAfter_append (stored : Option Mission) (requests later : List NavigationRequest) :
    storedAfter stored (requests ++ later) = storedAfter (storedAfter stored requests) later := by
  induction requests generalizing stored with
  | nil => rfl
  | cons message rest ih => exact ih _

theorem opDispatch_ne_opSelect : opDispatch ≠ opSelect := by decide

theorem opCancel_ne_opSelect : opCancel ≠ opSelect := by decide

/-- What the library guarantees of `math.sin` and `math.cos`: they are the coordinates of a unit
vector, up to rounding. -/
def UnitCircle (lib : NavLibrary) : Prop :=
  ∀ angle, 1 / 2 ≤ lib.sin angle * lib.sin angle + lib.cos angle * lib.cos angle

theorem goalPose_isValid {lib : NavLibrary} (hCircle : UnitCircle lib) {goal : GoalIntent}
    (hx : goal.x.isfinite = true) (hy : goal.y.isfinite = true)
    (hYaw : goal.yaw.isfinite = true) : (goalPose lib goal).isValid = true := by
  obtain ⟨map, x, y, yaw⟩ := goal
  cases x with
  | finite x =>
    cases y with
    | finite y =>
      cases yaw with
      | finite yaw =>
        have hUnit := hCircle (yaw / 2)
        have hNorm : ¬ (0 * 0 + (0 * 0 + (lib.sin (yaw / 2) * lib.sin (yaw / 2) +
            (lib.cos (yaw / 2) * lib.cos (yaw / 2) + 0))) : ℚ) < 1 / 10 ^ 12 := by
          norm_num
          linarith
        simpa [goalPose, MissionPose.isValid, MissionPose.finiteValues, halfAngle,
          PyFloat.finite?] using hNorm
      | _ => cases hYaw
    | _ => cases hy
  | _ => cases hx

namespace NavigationSync

variable {lib : NavLibrary} {sync : NavigationSync} {runtimeEpoch : Int} {state : PaddockState}

/-- The goal part publishes nothing for the goal seen last, else the SELECT of the new goal or a
CANCEL. -/
inductive GoalCase (lib : NavLibrary) (sync : NavigationSync) (runtimeEpoch : Int)
    (state : PaddockState) (missionId : Uuid) : NavigationSync × List NavigationRequest → Prop
  | same (hGoal : state.goal = sync.navLastGoalKey) :
      GoalCase lib sync runtimeEpoch state missionId (sync, [])
  | selected (goal) (next : NavigationSync) (hGoal : state.goal = some goal)
      (hNext : next = { sync with
        missionRevision := sync.missionRevision + 1
        missionId := missionId.hex
        navLastGoalKey := some goal }) :
      GoalCase lib sync runtimeEpoch state missionId
        (next, [next.navRequest lib runtimeEpoch opSelect state (some goal)])
  | dropped (hGoal : state.goal = none) :
      GoalCase lib sync runtimeEpoch state missionId ({ sync with navLastGoalKey := none },
        [sync.navRequest lib runtimeEpoch opCancel state none])

theorem syncGoal_case (lib : NavLibrary) (sync : NavigationSync) (runtimeEpoch : Int)
    (state : PaddockState) (missionId : Uuid) :
    GoalCase lib sync runtimeEpoch state missionId
      (sync.syncGoal lib runtimeEpoch state missionId) := by
  unfold syncGoal
  split
  · rename_i hSame
    exact .same hSame
  · split
    · rename_i goal hGoal
      exact .selected goal _ hGoal rfl
    · rename_i hGoal
      exact .dropped hGoal

/-- The dispatch part publishes no SELECT, and a DISPATCH when the flag has risen. -/
theorem syncDispatch_requests (lib : NavLibrary) (sync : NavigationSync) (runtimeEpoch : Int)
    (state : PaddockState) :
    ∀ message ∈ (sync.syncDispatch lib runtimeEpoch state).2, message.operation ≠ opSelect := by
  intro message hMem
  unfold syncDispatch at hMem
  dsimp only at hMem
  split at hMem
  · obtain rfl := List.mem_singleton.mp hMem
    exact opDispatch_ne_opSelect
  · split at hMem
    · obtain rfl := List.mem_singleton.mp hMem
      exact opCancel_ne_opSelect
    · cases hMem

theorem syncDispatch_risen (hNav : state.navigationActive = true)
    (hLast : sync.navLastDispatchActive = false) :
    (sync.syncDispatch lib runtimeEpoch state).2 =
      [sync.navRequest lib runtimeEpoch opDispatch state state.goal] := by
  unfold syncDispatch
  exact if_pos ⟨hNav, hLast⟩

theorem syncDispatch_same (hNav : state.navigationActive = sync.navLastDispatchActive) :
    (sync.syncDispatch lib runtimeEpoch state).2 = [] := by
  unfold syncDispatch
  dsimp only
  rw [← hNav]
  cases state.navigationActive <;> rfl

end NavigationSync

/-! ## The composition -/

/-- Whether a call leaves the selected goal as it is. -/
def OperatorCall.keepsGoal (call : OperatorCall) (state : PaddockState) : Bool :=
  match call.timed.call with
  | .handleControlEvent m =>
    m.event ≠ .goalSelected || state.goal = some (m.goal state.activeAutonomyMap)
  | _ => true

namespace NavigationLink

/-- The steps that keep the dispatch asked for. An accepted RUN press or goal selection finds
`navigation_active` false, or keeps the goal while the DISPATCH is still on its way. The DISPATCH
that is delivered last, with `navigation_active` still true, finds no action in flight and no
failure it would repeat. -/
def unobstructed (lib : NavLibrary) (link : NavigationLink) : LinkEvent → Bool
  | .operate call missionId =>
    !(link.asks (.operate call missionId) && link.supervisor.state.navigationActive) ||
      (!link.requests.isEmpty && call.keepsGoal link.supervisor.state)
  | .deliver =>
    match link.requests with
    | [message] =>
      !(message.operation = opDispatch && link.supervisor.state.navigationActive) ||
        (!link.runtime.inflight && (link.runtime.identicalRedispatchFailure lib).isNone)
    | _ => true
  | .nav2 _ => true

/-- A SELECT on its way is one the runtime will accept. -/
structure Deliverable (link : NavigationLink) (message : NavigationRequest) : Prop where
  usable : message.select.Usable
  epoch : message.runtimeEpoch = link.runtimeEpoch
  map : message.mapId = link.supervisor.state.activeAutonomyMap
  newer : link.runtime.maxRevision < message.missionRevision
  known : message.missionRevision ≤ link.sync.missionRevision

/-- The two sides agree up to the requests on their way. -/
structure Synced (lib : NavLibrary) (link : NavigationLink) : Prop where
  held : NavigationHeld link.supervisor.state
  goalKey : link.sync.navLastGoalKey = link.supervisor.state.goal
  dispatchActive : link.sync.navLastDispatchActive = link.supervisor.state.navigationActive
  wellFormed : link.runtime.WellFormed
  autonomy : link.runtime.autonomyOk = some true
  epoch : link.runtime.runtimeEpoch = link.runtimeEpoch
  map : link.runtime.mapId = link.supervisor.state.activeAutonomyMap
  revision : link.runtime.maxRevision ≤ link.sync.missionRevision
  selects : ∀ message ∈ link.requests, message.operation = opSelect → link.Deliverable message
  ordered : link.requests.Pairwise fun earlier later => earlier.operation = opSelect →
    later.operation = opSelect → earlier.missionRevision < later.missionRevision
  current : ∀ goal, link.supervisor.state.goal = some goal →
    storedAfter link.runtime.validMission link.requests = some (link.currentMission lib goal)

variable {lib : NavLibrary} {link : NavigationLink}

theorem Deliverable.of_frame {next : NavigationLink} {message : NavigationRequest}
    (h : link.Deliverable message) (hEpoch : next.runtimeEpoch = link.runtimeEpoch)
    (hMap : next.supervisor.state.activeAutonomyMap = link.supervisor.state.activeAutonomyMap)
    (hMax : next.runtime.maxRevision = link.runtime.maxRevision)
    (hKnown : link.sync.missionRevision ≤ next.sync.missionRevision) : next.Deliverable message :=
  ⟨h.usable, h.epoch.trans hEpoch.symm, h.map.trans hMap.symm, hMax ▸ h.newer, h.known.trans hKnown⟩

theorem storedAfter_of_noSelect (stored : Option Mission) {requests : List NavigationRequest}
    (h : ∀ message ∈ requests, message.operation ≠ opSelect) :
    storedAfter stored requests = stored := by
  induction requests with
  | nil => rfl
  | cons message rest ih =>
    rw [storedAfter, if_neg (h message List.mem_cons_self)]
    exact ih fun other hOther => h other (List.mem_cons_of_mem _ hOther)

theorem storedAfter_select (stored : Option Mission) {message : NavigationRequest}
    (hOp : message.operation = opSelect) {later : List NavigationRequest}
    (hLater : ∀ other ∈ later, other.operation ≠ opSelect) :
    storedAfter stored (message :: later) = some message.select.mission := by
  rw [storedAfter, if_pos hOp, storedAfter_of_noSelect _ hLater]

namespace Synced

theorem start (lib : NavLibrary) (config : SupervisorConfig) (manualMaxSpeedMps : ℚ)
    (bootId map : String) (runtimeEpoch : Int) :
    Synced lib (start config manualMaxSpeedMps bootId map runtimeEpoch) where
  held := ⟨nofun, nofun⟩
  goalKey := rfl
  dispatchActive := rfl
  wellFormed := (MissionRuntime.WellFormed.init bootId).observeRuntime runtimeEpoch map true
  autonomy := rfl
  epoch := rfl
  map := rfl
  revision := le_refl _
  selects := nofun
  ordered := List.Pairwise.nil
  current := nofun

/-- A step of the runtime alone that keeps its binding. -/
theorem of_sameBinding (h : Synced lib link) {runtime : MissionRuntime}
    (hSame : link.runtime.SameBinding runtime) (hWell : runtime.WellFormed) :
    Synced lib { link with runtime := runtime } where
  held := h.held
  goalKey := h.goalKey
  dispatchActive := h.dispatchActive
  wellFormed := hWell
  autonomy := hSame.autonomyOk.trans h.autonomy
  epoch := hSame.runtimeEpoch.trans h.epoch
  map := hSame.mapId.trans h.map
  revision := hSame.maxRevision ▸ h.revision
  selects message hMem hOp :=
    (h.selects message hMem hOp).of_frame rfl rfl hSame.maxRevision (le_refl _)
  ordered := h.ordered
  current goal hGoal := by
    change storedAfter runtime.validMission link.requests = _
    rw [hSame.validMission]
    exact h.current goal hGoal

theorem nav2 (h : Synced lib link) (input : Nav2Input) :
    Synced lib (link.step lib (.nav2 input)) := by
  refine h.of_sameBinding ?_ (h.wellFormed.step lib input.call)
  cases input with
  | goalResponse generation accepted goalUuid =>
    exact MissionRuntime.sameBinding_onGoalResponse _ _ _ _
  | feedback generation => exact MissionRuntime.sameBinding_onFeedback _ _
  | result generation status errorCode errorMeaning =>
    exact MissionRuntime.sameBinding_onResult lib _ _ _ _ _
  | cancelResponse generation goalsCanceling =>
    exact MissionRuntime.sameBinding_onCancelResponse _ _ _
  | odometry pose => exact MissionRuntime.sameBinding_observeRobotPose _ _

/-! ### Delivery -/

/-- The runtime accepts the SELECT that arrives. -/
theorem select_receive (h : Synced lib link) {message : NavigationRequest}
    (hMem : message ∈ link.requests) (hOp : message.operation = opSelect) :
    link.runtime.receive lib (.request message) =
      (link.runtime.select message.select).1 ∧
    link.runtime.selectRejection message.select = none := by
  obtain ⟨hUsable, hEpoch, hMap, hNewer, -⟩ := h.selects message hMem hOp
  exact ⟨(link.runtime.receive_request (if_pos hOp)).1,
    MissionRuntime.selectRejection_usable hUsable h.autonomy (hEpoch.trans h.epoch.symm)
      (hMap.trans h.map.symm) hNewer⟩

theorem deliverSelect (h : Synced lib link) {message : NavigationRequest}
    {rest : List NavigationRequest} (hRequests : link.requests = message :: rest)
    (hOp : message.operation = opSelect) :
    Synced lib { link with
      requests := rest
      runtime := link.runtime.receive lib (.request message) } := by
  have hMem : message ∈ link.requests := hRequests ▸ List.mem_cons_self
  have hTail : ∀ other ∈ rest, other ∈ link.requests := fun other hOther =>
    hRequests ▸ List.mem_cons_of_mem message hOther
  obtain ⟨hReceive, hAccepted⟩ := h.select_receive hMem hOp
  have hWell := h.wellFormed.select message.select
  have hOrdered := h.ordered
  rw [hRequests, List.pairwise_cons] at hOrdered
  rw [hReceive]
  rw [MissionRuntime.select_eq hAccepted] at hWell ⊢
  refine ⟨h.held, h.goalKey, h.dispatchActive, hWell, h.autonomy, h.epoch, h.map,
    (h.selects message hMem hOp).known, fun other hOther hOtherOp => ?_, hOrdered.2,
    fun goal hGoal => ?_⟩
  · obtain ⟨hUsable, hEpoch, hMap, -, hKnown⟩ := h.selects other (hTail other hOther) hOtherOp
    exact ⟨hUsable, hEpoch, hMap, hOrdered.1 other hOther hOp hOtherOp, hKnown⟩
  · have hCurrent := h.current goal hGoal
    rw [hRequests, storedAfter, if_pos hOp] at hCurrent
    exact hCurrent

/-- The other requests keep the binding of the runtime. -/
theorem receive_sameBinding (h : Synced lib link) {message : NavigationRequest}
    (hOp : message.operation ≠ opSelect) :
    link.runtime.SameBinding (link.runtime.receive lib (.request message)) ∧
      (link.runtime.receive lib (.request message)).WellFormed := by
  by_cases hDispatch : message.operation = opDispatch
  · rw [(link.runtime.receive_request (NavigationRequest.call?_of_dispatch hDispatch)).1]
    exact ⟨MissionRuntime.sameBinding_dispatch h.wellFormed lib, h.wellFormed.step lib .dispatch⟩
  · by_cases hCancel : message.operation = opCancel
    · have hCall : message.call? = some (.cancel "authority cancel request") :=
        (if_neg hOp).trans ((if_neg hDispatch).trans (if_pos hCancel))
      rw [(link.runtime.receive_request hCall).1]
      exact ⟨MissionRuntime.sameBinding_cancel _ _, h.wellFormed.step lib (.cancel _)⟩
    · have hCall : message.call? = none :=
        (if_neg hOp).trans ((if_neg hDispatch).trans (if_neg hCancel))
      rw [link.runtime.receive_unknown hCall]
      exact ⟨.refl _, h.wellFormed⟩

theorem deliver (h : Synced lib link) : Synced lib (link.step lib .deliver) := by
  dsimp only [step]
  split
  · exact h
  rename_i message rest hRequests
  by_cases hOp : message.operation = opSelect
  · exact h.deliverSelect hRequests hOp
  · obtain ⟨hSame, hWell⟩ := h.receive_sameBinding hOp
    have hDelivered : Synced lib { link with requests := rest } := by
      refine ⟨h.held, h.goalKey, h.dispatchActive, h.wellFormed, h.autonomy, h.epoch, h.map,
        h.revision, fun other hOther hOtherOp => ?_,
        (List.pairwise_cons.mp (hRequests ▸ h.ordered)).2, fun goal hGoal => ?_⟩
      · exact (h.selects other (hRequests ▸ List.mem_cons_of_mem _ hOther) hOtherOp).of_frame
          rfl rfl
          rfl (le_refl _)
      have hCurrent := h.current goal hGoal
      rw [hRequests, storedAfter, if_neg hOp] at hCurrent
      exact hCurrent
    exact hDelivered.of_sameBinding hSame hWell

/-! ### Supervisor calls -/

/-- A call without a result changes nothing the two sides agree on. -/
theorem of_sameState (h : Synced lib link) {supervisor : CommandSupervisor}
    (hState : supervisor.state = link.supervisor.state) :
    Synced lib { link with supervisor := supervisor } where
  held := hState ▸ h.held
  goalKey := h.goalKey.trans (congrArg PaddockState.goal hState).symm
  dispatchActive := h.dispatchActive.trans (congrArg PaddockState.navigationActive hState).symm
  wellFormed := h.wellFormed
  autonomy := h.autonomy
  epoch := h.epoch
  map := h.map.trans (congrArg PaddockState.activeAutonomyMap hState).symm
  revision := h.revision
  selects message hMem hOp :=
    (h.selects message hMem hOp).of_frame rfl (congrArg PaddockState.activeAutonomyMap hState) rfl
      (le_refl _)
  ordered := h.ordered
  current goal hGoal := by
    change supervisor.state.goal = some goal at hGoal
    rw [hState] at hGoal
    refine (h.current goal hGoal).trans (congrArg some ?_)
    unfold currentMission
    rw [hState]

/-- Appending requests without a SELECT. -/
theorem ordered_append (h : Synced lib link) {later : List NavigationRequest}
    (hLater : ∀ message ∈ later, message.operation ≠ opSelect) :
    (link.requests ++ later).Pairwise fun earlier later => earlier.operation = opSelect →
      later.operation = opSelect → earlier.missionRevision < later.missionRevision := by
  refine List.pairwise_append.mpr ⟨h.ordered, ?_, fun _ _ message hMem _ hOp =>
    absurd hOp (hLater message hMem)⟩
  exact List.pairwise_of_forall_mem_list fun message hMem _ _ hOp =>
    absurd hOp (hLater message hMem)

/-- The supervisor moved and the goal is the one seen last. -/
theorem sameGoal (h : Synced lib link) {supervisor : CommandSupervisor}
    {m? : Option ControlMessage}
    (hKeeps : KeepsNavigation m? link.supervisor.state supervisor.state)
    (hGoal : supervisor.state.goal = link.supervisor.state.goal ∨ supervisor.state.goal = none)
    {later : List NavigationRequest}
    (hLater : ∀ message ∈ later, message.operation ≠ opSelect) :
    Synced lib { link with
      supervisor := supervisor
      sync := { link.sync with
        navLastGoalKey := supervisor.state.goal
        navLastDispatchActive := supervisor.state.navigationActive }
      requests := link.requests ++ later } where
  held := hKeeps.held
  goalKey := rfl
  dispatchActive := rfl
  wellFormed := h.wellFormed
  autonomy := h.autonomy
  epoch := h.epoch
  map := h.map.trans hKeeps.map.symm
  revision := h.revision
  selects message hMem hOp := by
    rcases List.mem_append.mp hMem with hMem | hMem
    · exact (h.selects message hMem hOp).of_frame rfl hKeeps.map rfl (le_refl _)
    · exact absurd hOp (hLater message hMem)
  ordered := h.ordered_append hLater
  current goal hSome := by
    change supervisor.state.goal = some goal at hSome
    rcases hGoal with hGoal | hGoal
    · change storedAfter link.runtime.validMission (link.requests ++ later) = _
      rw [storedAfter_append, storedAfter_of_noSelect _ hLater, h.current goal (hGoal ▸ hSome)]
      unfold currentMission
      rw [hKeeps.map]
    · rw [hGoal] at hSome
      cases hSome

/-- The supervisor moved and its new goal is selected. -/
theorem newGoal (hCircle : UnitCircle lib) (h : Synced lib link) {supervisor : CommandSupervisor}
    {m? : Option ControlMessage}
    (hKeeps : KeepsNavigation m? link.supervisor.state supervisor.state) (missionId : Uuid)
    {goal : GoalIntent} (hGoal : supervisor.state.goal = some goal) {sync : NavigationSync}
    (hSync : sync = { link.sync with
      missionRevision := link.sync.missionRevision + 1
      missionId := missionId.hex
      navLastGoalKey := some goal }) {later : List NavigationRequest}
    (hLater : ∀ message ∈ later, message.operation ≠ opSelect) :
    Synced lib { link with
      supervisor := supervisor
      sync := { sync with navLastDispatchActive := supervisor.state.navigationActive }
      requests := link.requests ++
        (sync.navRequest lib link.runtimeEpoch opSelect supervisor.state (some goal) ::
          later) } := by
  subst hSync
  obtain ⟨hx, hy, hYaw⟩ := hKeeps.held.finite goal hGoal
  have hGrow : link.sync.missionRevision < link.sync.missionRevision + 1 := by omega
  refine ⟨hKeeps.held, hGoal.symm, rfl, h.wellFormed, h.autonomy, h.epoch,
    h.map.trans hKeeps.map.symm, h.revision.trans hGrow.le, fun message hMem hOp => ?_, ?_,
    fun other hOther => ?_⟩
  · rcases List.mem_append.mp hMem with hMem | hMem
    · exact (h.selects message hMem hOp).of_frame rfl hKeeps.map rfl hGrow.le
    · rcases List.mem_cons.mp hMem with rfl | hMem
      · exact ⟨⟨missionId.hex_ne_empty, rfl, goalPose lib goal, rfl,
          goalPose_isValid hCircle hx hy hYaw⟩,
          rfl, rfl, h.revision.trans_lt hGrow, le_refl _⟩
      · exact absurd hOp (hLater message hMem)
  · refine List.pairwise_append.mpr ⟨h.ordered, List.pairwise_cons.mpr ⟨fun message hMem _ hOp =>
      absurd hOp (hLater message hMem), List.pairwise_of_forall_mem_list fun message hMem _ _ hOp =>
      absurd hOp (hLater message hMem)⟩, fun earlier hEarlier message hMem hEarlierOp hOp => ?_⟩
    rcases List.mem_cons.mp hMem with rfl | hMem
    · exact (h.selects earlier hEarlier hEarlierOp).known.trans_lt hGrow
    · exact absurd hOp (hLater message hMem)
  · change supervisor.state.goal = some other at hOther
    obtain rfl : goal = other := Option.some.inj (hGoal.symm.trans hOther)
    change storedAfter link.runtime.validMission (link.requests ++ (_ :: later)) = _
    rw [storedAfter_append]
    exact storedAfter_select _ rfl hLater

theorem operate (hCircle : UnitCircle lib) (h : Synced lib link) (call : OperatorCall)
    (missionId : Uuid) : Synced lib (link.operate lib call missionId) := by
  have hKeeps := CommandSupervisor.step_keepsNavigation h.held call.keeps
  have hSnapshot := link.supervisor.perform_snapshot call.timed
  unfold NavigationLink.operate
  change KeepsNavigation _ _ (link.supervisor.perform call.timed).1.state at hKeeps
  unfold CommandSupervisor.step at hSnapshot
  generalize link.supervisor.perform call.timed = out at hKeeps hSnapshot
  obtain ⟨supervisor, result⟩ := out
  cases result with
  | none => exact h.of_sameState hSnapshot
  | some result =>
    dsimp only at hKeeps hSnapshot ⊢
    rw [hSnapshot]
    unfold NavigationSync.syncNavigation
    have hCase := NavigationSync.syncGoal_case lib link.sync link.runtimeEpoch supervisor.state
      missionId
    generalize link.sync.syncGoal lib link.runtimeEpoch supervisor.state missionId = out at hCase
    cases hCase with
    | same hGoal =>
      have hSame := h.sameGoal hKeeps (Or.inl (hGoal.trans h.goalKey))
        (NavigationSync.syncDispatch_requests lib link.sync link.runtimeEpoch supervisor.state)
      rw [hGoal] at hSame
      exact hSame
    | selected goal next hGoal hNext =>
      exact h.newGoal hCircle hKeeps missionId hGoal hNext
        (NavigationSync.syncDispatch_requests lib next link.runtimeEpoch supervisor.state)
    | dropped hGoal =>
      have hLater : ∀ message ∈
          link.sync.navRequest lib link.runtimeEpoch opCancel supervisor.state none ::
            (NavigationSync.syncDispatch lib { link.sync with navLastGoalKey := none }
              link.runtimeEpoch supervisor.state).2, message.operation ≠ opSelect := by
        intro message hMem
        rcases List.mem_cons.mp hMem with rfl | hMem
        · exact opCancel_ne_opSelect
        · exact NavigationSync.syncDispatch_requests lib _ link.runtimeEpoch supervisor.state
            message hMem
      have hDropped := h.sameGoal hKeeps (Or.inr hGoal) hLater
      rw [hGoal] at hDropped
      exact hDropped

theorem step (hCircle : UnitCircle lib) (h : Synced lib link) (event : LinkEvent) :
    Synced lib (link.step lib event) := by
  cases event with
  | operate call missionId => exact h.operate hCircle call missionId
  | deliver => exact h.deliver
  | nav2 input => exact h.nav2 input

end Synced

/-! ### What a supervisor call publishes -/

theorem operate_supervisor (lib : NavLibrary) (link : NavigationLink) (call : OperatorCall)
    (missionId : Uuid) :
    (link.operate lib call missionId).supervisor = link.supervisor.step call.timed := by
  unfold operate CommandSupervisor.step
  generalize link.supervisor.perform call.timed = out
  obtain ⟨supervisor, result⟩ := out
  cases result <;> rfl

/-- When the flag rises the DISPATCH is published last. -/
theorem operate_risen (h : Synced lib link) {call : OperatorCall} (missionId : Uuid)
    (hWas : link.supervisor.state.navigationActive = false)
    (hNav : (link.supervisor.step call.timed).state.navigationActive = true) :
    ∃ earlier message, (link.operate lib call missionId).requests = earlier ++ [message] ∧
      message.operation = opDispatch := by
  have hSnapshot := link.supervisor.perform_snapshot call.timed
  have hLast := h.dispatchActive.trans hWas
  unfold operate
  unfold CommandSupervisor.step at hSnapshot hNav
  generalize link.supervisor.perform call.timed = out at hSnapshot hNav
  obtain ⟨supervisor, result⟩ := out
  cases result with
  | none =>
    rw [hSnapshot, hWas] at hNav
    cases hNav
  | some result =>
    dsimp only at hNav hSnapshot ⊢
    rw [hSnapshot]
    unfold NavigationSync.syncNavigation
    have hCase := NavigationSync.syncGoal_case lib link.sync link.runtimeEpoch supervisor.state
      missionId
    generalize link.sync.syncGoal lib link.runtimeEpoch supervisor.state missionId = out at hCase
    have hKept : out.1.navLastDispatchActive = false := by
      cases hCase with
      | same => exact hLast
      | selected goal next hGoal hNext =>
        rw [hNext]
        exact hLast
      | dropped => exact hLast
    refine ⟨link.requests ++ out.2,
      out.1.navRequest lib link.runtimeEpoch opDispatch supervisor.state supervisor.state.goal,
      ?_, rfl⟩
    dsimp only
    rw [NavigationSync.syncDispatch_risen hNav hKept, List.append_assoc]

/-- While the flag stays up and the goal is kept nothing is published. -/
theorem operate_kept (h : Synced lib link) {call : OperatorCall} (missionId : Uuid)
    (hWas : link.supervisor.state.navigationActive = true)
    (hNav : (link.supervisor.step call.timed).state.navigationActive = true)
    (hGoal : (link.supervisor.step call.timed).state.goal = link.supervisor.state.goal) :
    (link.operate lib call missionId).requests = link.requests ∧
      (link.operate lib call missionId).sync.missionId = link.sync.missionId ∧
      (link.operate lib call missionId).sync.missionRevision = link.sync.missionRevision ∧
      (link.operate lib call missionId).runtimeEpoch = link.runtimeEpoch := by
  have hSnapshot := link.supervisor.perform_snapshot call.timed
  have hLast := h.dispatchActive.trans hWas
  have hKey := hGoal.trans h.goalKey.symm
  unfold operate
  unfold CommandSupervisor.step at hSnapshot hNav hKey
  generalize link.supervisor.perform call.timed = out at hSnapshot hNav hKey
  obtain ⟨supervisor, result⟩ := out
  cases result with
  | none => exact ⟨rfl, rfl, rfl, rfl⟩
  | some result =>
    dsimp only at hNav hSnapshot hKey ⊢
    have hSync : link.sync.syncGoal lib link.runtimeEpoch supervisor.state missionId =
        (link.sync, []) := if_pos hKey
    have hQuiet : (link.sync.syncDispatch lib link.runtimeEpoch supervisor.state).2 = [] :=
      NavigationSync.syncDispatch_same (hNav.trans hLast.symm)
    rw [hSnapshot]
    unfold NavigationSync.syncNavigation
    rw [hSync]
    dsimp only
    rw [hQuiet]
    exact ⟨List.append_nil _, rfl, rfl, rfl⟩

/-! ### Runs -/

section

variable (lib : NavLibrary) (init : NavigationLink)

/-- With `navigation_active` true the DISPATCH is the last request on its way, or nothing is and
the goal was sent. -/
def Awaited (history : List LinkEvent) : Prop :=
  (after (step lib) init history).supervisor.state.navigationActive = true →
    (∃ earlier message, (after (step lib) init history).requests = earlier ++ [message] ∧
        message.operation = opDispatch) ∨
      ((after (step lib) init history).requests = [] ∧ Dispatched lib init history)

end

variable {init : NavigationLink} {history : List LinkEvent} {event : LinkEvent}

/-- An event that asks for nothing and keeps the mission keeps the dispatch. -/
theorem Dispatched.cons (h : Dispatched lib init history)
    (hAsks : (after (step lib) init history).asks event = false)
    (hGoal : (after (step lib) init (event :: history)).supervisor.state.goal =
      (after (step lib) init history).supervisor.state.goal)
    (hCurrent : ∀ goal, (after (step lib) init (event :: history)).currentMission lib goal =
      (after (step lib) init history).currentMission lib goal) :
    Dispatched lib init (event :: history) := by
  obtain ⟨goal, hSome, hSince⟩ := h
  refine ⟨goal, hGoal ▸ hSome, ?_⟩
  rw [hCurrent]
  exact .keep hAsks hSince

theorem Awaited.nav2 (h : Awaited lib init history) (input : Nav2Input) :
    Awaited lib init (.nav2 input :: history) := by
  intro hNav
  rcases h hNav with hQueued | ⟨hEmpty, hDispatched⟩
  · exact Or.inl hQueued
  · exact Or.inr ⟨hEmpty, hDispatched.cons rfl rfl fun _ => rfl⟩

/-- The DISPATCH delivered last sends the goal that is selected. -/
theorem dispatched_deliver (hSynced : Synced lib (after (step lib) init history))
    {message : NavigationRequest} (hOp : message.operation = opDispatch)
    (hRequests : (after (step lib) init history).requests = [message])
    (hNav : (after (step lib) init history).supervisor.state.navigationActive = true)
    (hFree : (after (step lib) init history).unobstructed lib .deliver = true) :
    Dispatched lib init (.deliver :: history) := by
  have hNext : after (step lib) init (.deliver :: history) =
      (after (step lib) init history).step lib .deliver := rfl
  unfold Dispatched
  rw [hNext]
  have hStart : ∀ mission, Command.sendGoal
        ((after (step lib) init history).runtime.actionGeneration + 1) mission ∈
        (after (step lib) init history).commands lib .deliver →
      Since (along (step lib) init fun link event => link.asks event = false)
        (along (step lib) init fun link event => link.sends lib mission event = true)
        (.deliver :: history) := fun mission hSent =>
    .start (List.any_eq_true.mpr ⟨_, hSent, by simp⟩)
  generalize after (step lib) init history = link at *
  have hGoal : link.supervisor.state.goal.isSome = true :=
    (PaddockState.autonomyPermitted_iff.mp (hSynced.held.permitted hNav)).2.2.2.2.2
  obtain ⟨goal, hGoal⟩ := Option.isSome_iff_exists.mp hGoal
  have hIdle : link.runtime.inflight = false ∧
      link.runtime.identicalRedispatchFailure lib = none := by
    simpa [unobstructed, hRequests, hOp, hNav] using hFree
  have hMission := hSynced.current goal hGoal
  rw [hRequests, storedAfter, if_neg (hOp ▸ opDispatch_ne_opSelect), storedAfter] at hMission
  have hSent := MissionRuntime.dispatch_sends hSynced.wellFormed hMission hIdle.1 hIdle.2
  have hCommands : link.commands lib .deliver = (link.runtime.dispatch lib).2 := by
    unfold commands
    rw [hRequests]
    exact MissionRuntime.received_dispatch hOp
  have hStep : link.step lib .deliver =
      { link with requests := [], runtime := link.runtime.receive lib (.request message) } := by
    dsimp only [step]
    rw [hRequests]
  rw [hStep]
  exact ⟨goal, hGoal, hStart _ (hCommands ▸ hSent)⟩

theorem Awaited.deliver (hSynced : Synced lib (after (step lib) init history))
    (h : Awaited lib init history)
    (hFree : (after (step lib) init history).unobstructed lib .deliver = true) :
    Awaited lib init (.deliver :: history) := by
  intro hNav
  rw [after_cons] at hNav ⊢
  cases hRequests : (after (step lib) init history).requests with
  | nil =>
    have hStep : (after (step lib) init history).step lib .deliver =
      after (step lib) init history := by
      dsimp only [step]
      rw [hRequests]
    rw [hStep] at hNav ⊢
    rcases h hNav with ⟨earlier, message, hQueued, -⟩ | ⟨hEmpty, hDispatched⟩
    · rw [hRequests] at hQueued
      simp at hQueued
    · refine Or.inr ⟨hEmpty, hDispatched.cons rfl ?_ fun goal => ?_⟩
      · rw [after_cons, hStep]
      · rw [after_cons, hStep]
  | cons message rest =>
    have hStep : (after (step lib) init history).step lib .deliver =
        { after (step lib) init history with
          requests := rest
          runtime := (after (step lib) init history).runtime.receive lib (.request message) } := by
      dsimp only [step]
      rw [hRequests]
    rw [hStep] at hNav ⊢
    rcases h hNav with ⟨earlier, last, hQueued, hOp⟩ | ⟨hEmpty, -⟩
    · rw [hRequests] at hQueued
      cases earlier with
      | nil =>
        obtain ⟨rfl, rfl⟩ := List.cons.inj hQueued
        exact Or.inr ⟨rfl, dispatched_deliver hSynced hOp hRequests hNav hFree⟩
      | cons first earlier =>
        obtain ⟨rfl, rfl⟩ := List.cons.inj hQueued
        exact Or.inl ⟨earlier, last, rfl, hOp⟩
    · rw [hRequests] at hEmpty
      cases hEmpty

/-- A step that meets the condition keeps the goal while the flag stays up. -/
theorem goal_operate (hSynced : Synced lib link) {call : OperatorCall} {missionId : Uuid}
    (hFree : link.unobstructed lib (.operate call missionId) = true)
    (hWas : link.supervisor.state.navigationActive = true)
    (hNav : (link.supervisor.step call.timed).state.navigationActive = true) :
    (link.supervisor.step call.timed).state.goal = link.supervisor.state.goal := by
  rcases CommandSupervisor.goal_step hSynced.held call.keeps hNav with
    hSame | ⟨m, hCall, hEvent, hAccepted, hGoal⟩
  · exact hSame
  · have hAsks : link.asks (.operate call missionId) = true := by
      dsimp only [asks]
      rw [hCall]
      simp [hEvent, hAccepted]
    have hKeeps : call.keepsGoal link.supervisor.state = true := by
      simp only [unobstructed, hAsks, hWas, Bool.and_self, Bool.not_true, Bool.false_or,
        Bool.and_eq_true] at hFree
      exact hFree.2
    unfold OperatorCall.keepsGoal at hKeeps
    rw [hCall] at hKeeps
    simp only [hEvent, ne_eq, not_true_eq_false, decide_false, Bool.false_or,
      decide_eq_true_eq] at hKeeps
    rw [hGoal, hKeeps]

theorem Awaited.operate (hSynced : Synced lib (after (step lib) init history))
    (h : Awaited lib init history) {call : OperatorCall} {missionId : Uuid}
    (hFree : (after (step lib) init history).unobstructed lib (.operate call missionId) = true) :
    Awaited lib init (.operate call missionId :: history) := by
  intro hNav
  have hSupervisor : (after (step lib) init (.operate call missionId :: history)).supervisor =
      (after (step lib) init history).supervisor.step call.timed := operate_supervisor _ _ _ _
  rw [hSupervisor] at hNav
  cases hWas : (after (step lib) init history).supervisor.state.navigationActive with
  | false => exact Or.inl (operate_risen hSynced missionId hWas hNav)
  | true =>
    have hGoal := goal_operate hSynced hFree hWas hNav
    obtain ⟨hRequests, hId, hRevision, hEpoch⟩ := operate_kept hSynced missionId hWas hNav hGoal
    rw [after_cons]
    change (∃ earlier message, ((after (step lib) init history).operate lib call missionId).requests
      =
      earlier ++ [message] ∧ _) ∨
      (((after (step lib) init history).operate lib call missionId).requests = [] ∧ _)
    rw [hRequests]
    rcases h hWas with hQueued | ⟨hEmpty, hDispatched⟩
    · exact Or.inl hQueued
    · refine Or.inr ⟨hEmpty, hDispatched.cons ?_ (hSupervisor ▸ hGoal) fun goal => ?_⟩
      · -- with no request on its way the condition rules out another press or selection
        by_contra hAsks
        rw [Bool.not_eq_false] at hAsks
        simp [unobstructed, hAsks, hWas, hEmpty] at hFree
      · have hMap := (CommandSupervisor.step_keepsNavigation hSynced.held call.keeps).map
        unfold currentMission
        rw [hSupervisor, hMap]
        change Mission.mk ((after (step lib) init history).operate lib call
          missionId).sync.missionId
          ((after (step lib) init history).operate lib call missionId).sync.missionRevision
          ((after (step lib) init history).operate lib call missionId).runtimeEpoch _ _ _ = _
        rw [hId, hRevision, hEpoch]

theorem synced_after (hCircle : UnitCircle lib) (hInit : Synced lib init)
    (history : List LinkEvent) : Synced lib (after (step lib) init history) :=
  after_invariant hInit (fun _ event h => h.step hCircle event) history

theorem awaited_after (hCircle : UnitCircle lib) (hInit : Synced lib init)
    (hIdle : init.supervisor.state.navigationActive = false) {history : List LinkEvent}
    (hRun : Always (along (step lib) init fun link event => link.unobstructed lib event = true)
      history) : Awaited lib init history := by
  induction history with
  | nil =>
    intro hNav
    rw [after_nil, hIdle] at hNav
    cases hNav
  | cons event history ih =>
    obtain ⟨hFree, hPast⟩ := hRun
    have hSynced := synced_after hCircle hInit history
    have hAwaited := ih hPast
    cases event with
    | operate call missionId => exact hAwaited.operate hSynced hFree
    | deliver => exact hAwaited.deliver hSynced hFree
    | nav2 input => exact hAwaited.nav2 input

/-- In a run whose steps all keep the dispatch asked for, whenever no request is on its way and
`navigation_active` is true, the goal selected now was sent since the last RUN press or goal
selection. `awaited_after` is the invariant: the dispatch is in a request that is still on its way,
or it has been carried out since. -/
theorem dispatched_after {lib : NavLibrary} (hCircle : UnitCircle lib) (config : SupervisorConfig)
    (manualMaxSpeedMps : ℚ) (bootId map : String) (runtimeEpoch : Int) (history : List LinkEvent)
    (hRun : Always (along (step lib) (start config manualMaxSpeedMps bootId map runtimeEpoch)
      fun link event => link.unobstructed lib event = true) history)
    (hQuiet : (after (step lib) (start config manualMaxSpeedMps bootId map runtimeEpoch)
      history).requests = [])
    (hNav : (after (step lib) (start config manualMaxSpeedMps bootId map runtimeEpoch)
      history).supervisor.state.navigationActive = true) :
    Dispatched lib (start config manualMaxSpeedMps bootId map runtimeEpoch) history := by
  rcases awaited_after hCircle (.start lib config manualMaxSpeedMps bootId map runtimeEpoch) rfl
    hRun hNav with ⟨earlier, message, hQueued, -⟩ | ⟨-, hDispatched⟩
  · rw [hQuiet] at hQueued
    simp at hQueued
  · exact hDispatched

/-! ### Runs of one operator -/

/-- A control event of the operator who holds the lease. -/
def operatorEvent (event : ControlEvent) (sequence : Int) (goalX : ℚ) : LinkEvent :=
  .operate ⟨⟨.handleControlEvent
    { event, clientId := "c", leaseId := "l", sequence, goalX := .finite goalX }, 0⟩, rfl⟩
    ⟨List.replicate 16 0, rfl⟩

/-- A link on which RUN is pressed for a goal and its requests are delivered; latest event
first. -/
def drivenRun : List LinkEvent :=
  [.deliver, .deliver, operatorEvent .runPressed 3 0, operatorEvent .goalSelected 2 0,
    operatorEvent .leaseAcquired 1 0]

/-- RUN is released and pressed again before the cancellation has finished. -/
def repressedRun : List LinkEvent :=
  [.nav2 (.result 1 statusCanceled 0 ""), .nav2 (.cancelResponse 1 true), .deliver,
    operatorEvent .runPressed 5 0, .deliver, operatorEvent .runReleased 4 0,
    .nav2 (.goalResponse 1 true "g")] ++ drivenRun

def plainStart : NavigationLink :=
  start (CommandSupervisor.defaultSupervisor "map").config 0 "b" "map" 1

instance (lib : NavLibrary) (init : NavigationLink) (history : List LinkEvent) :
    Decidable (Dispatched lib init history) :=
  inferInstanceAs (Decidable
    (∃ goal ∈ (after (step lib) init history).supervisor.state.goal, Since _ _ history))

theorem dispatched_after_drivenRun :
    Dispatched MissionRuntime.plainLibrary plainStart drivenRun := by
  refine dispatched_after ?_ _ 0 "b" "map" 1 drivenRun ?_ ?_ ?_
  · intro angle
    change (1 / 2 : ℚ) ≤ 0 * 0 + 1 * 1
    norm_num
  all_goals decide +kernel

/-- The second RUN press gets no goal: its DISPATCH met the cancellation, and nothing is on its
way or in flight any more. -/
theorem repress_never_dispatched :
    (after (step MissionRuntime.plainLibrary) plainStart repressedRun).requests = [] ∧
      (after (step MissionRuntime.plainLibrary) plainStart repressedRun).runtime.inflight = false ∧
      (after (step MissionRuntime.plainLibrary) plainStart
        repressedRun).supervisor.state.navigationActive = true ∧
      ¬ Dispatched MissionRuntime.plainLibrary plainStart repressedRun := by
  decide +kernel

end NavigationLink

end PreRunner.Paddock
