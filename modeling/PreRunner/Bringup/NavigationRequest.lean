import PreRunner.Bringup.MissionInvariant

/-!
# Navigation requests

`_on_request` translates one `NavigationRequest` of the command authority into a call of the
mission runtime. A SELECT carries the whole mission; a DISPATCH carries the mission's identity
too, but the runtime does not read it and sends the mission it has stored. The stored mission is
that of the latest SELECT the runtime accepted (`stored_latest`), so a DISPATCH launches the
mission it names exactly when it names that one (`named_iff`).
-/

namespace PreRunner.Bringup

open Runs

/-- One `/paddock/navigation_request` message. -/
structure NavigationRequest where
  leaseId : String
  operation : Int
  missionId : String
  missionRevision : Int
  runtimeEpoch : Int
  mapId : String
  missionType : Int
  poses : List MissionPose
  deriving DecidableEq, Repr

def opSelect : Int := 0
def opDispatch : Int := 1
def opCancel : Int := 2

/-- The arguments a SELECT message passes on. -/
def NavigationRequest.select (message : NavigationRequest) : SelectRequest :=
  { missionId := message.missionId
    missionRevision := message.missionRevision
    runtimeEpoch := message.runtimeEpoch
    mapId := message.mapId
    missionType := message.missionType
    poses := message.poses }

/-- The call `_on_request` makes; an unknown operation makes none. -/
def NavigationRequest.call? (message : NavigationRequest) : Option MissionCall :=
  if message.operation = opSelect then some (.select message.select)
  else if message.operation = opDispatch then some .dispatch
  else if message.operation = opCancel then some (.cancel "authority cancel request")
  else none

theorem NavigationRequest.call?_of_dispatch {message : NavigationRequest}
    (h : message.operation = opDispatch) : message.call? = some .dispatch := by
  unfold call?
  rw [if_neg (by rw [h]; decide), if_pos h]

theorem NavigationRequest.call?_select {message : NavigationRequest} {request : SelectRequest}
    (h : message.call? = some (.select request)) :
    message.operation = opSelect ∧ message.select = request := by
  unfold call? at h
  split at h
  · rename_i hOp
    exact ⟨hOp, MissionCall.select.inj (Option.some.inj h)⟩
  · split at h
    · cases h
    · split at h <;> cases h

/-- What reaches the mission runtime: requests, observations and Nav2 callbacks. -/
inductive NavInput where
  | request (message : NavigationRequest)
  | modeState (runtimeEpoch : Int) (mapId : String) (autonomyOk : Bool)
  | odometry (pose : MissionPose)
  | goalResponse (generation : Int) (accepted : Bool) (goalUuid : String)
  | feedback (generation : Int)
  | result (generation status errorCode : Int) (errorMeaning : String)
  | cancelResponse (generation : Int) (goalsCanceling : Bool)
  deriving DecidableEq, Repr

def NavInput.call? : NavInput → Option MissionCall
  | request message => message.call?
  | modeState runtimeEpoch mapId autonomyOk => some (.observeRuntime runtimeEpoch mapId autonomyOk)
  | odometry pose => some (.observeRobotPose pose)
  | goalResponse generation accepted goalUuid =>
    some (.onGoalResponse generation accepted goalUuid)
  | feedback generation => some (.onFeedback generation)
  | result generation status errorCode errorMeaning =>
    some (.onResult generation status errorCode errorMeaning)
  | cancelResponse generation goalsCanceling => some (.onCancelResponse generation goalsCanceling)

namespace MissionRuntime

/-- The runtime after one input. -/
def receive (lib : NavLibrary) (rt : MissionRuntime) (input : NavInput) : MissionRuntime :=
  match input.call? with
  | none => rt
  | some call => rt.step lib call

/-- The commands of one input. -/
def received (lib : NavLibrary) (rt : MissionRuntime) (input : NavInput) : List Command :=
  match input.call? with
  | none => []
  | some call => rt.commands lib call

theorem receive_request {lib : NavLibrary} (rt : MissionRuntime) {message : NavigationRequest}
    {call : MissionCall} (h : message.call? = some call) :
    rt.receive lib (.request message) = rt.step lib call ∧
      rt.received lib (.request message) = rt.commands lib call := by
  have hCall : NavInput.call? (.request message) = some call := h
  unfold receive received
  rw [hCall]
  exact ⟨rfl, rfl⟩

theorem receive_unknown {lib : NavLibrary} (rt : MissionRuntime) {message : NavigationRequest}
    (h : message.call? = none) : rt.receive lib (.request message) = rt := by
  have hCall : NavInput.call? (.request message) = none := h
  unfold receive
  rw [hCall]

/-- A call leaves the stored mission, drops it, or is an accepted SELECT and replaces it. -/
theorem mission_step (lib : NavLibrary) (rt : MissionRuntime) (call : MissionCall) :
    (∃ request, call = .select request ∧ rt.selectRejection request = none ∧
        (rt.step lib call).mission = some request.mission) ∨
      ((∀ request, call = .select request → rt.selectRejection request ≠ none) ∧
        ((rt.step lib call).mission = rt.mission ∨ (rt.step lib call).mission = none)) := by
  cases call with
  | observeRuntime runtimeEpoch mapId autonomyOk =>
    refine Or.inr ⟨nofun, ?_⟩
    change (rt.observeRuntime runtimeEpoch mapId autonomyOk).1.mission = _ ∨
      (rt.observeRuntime runtimeEpoch mapId autonomyOk).1.mission = none
    rw [observeRuntime_eq]
    split
    · rw [invalidate_eq]
      split <;> exact Or.inr rfl
    · unfold observed
      cases autonomyOk <;> exact Or.inl rfl
  | select request =>
    change (∃ request', _ ∧ _ ∧ (rt.select request).1.mission = _) ∨
      (_ ∧ ((rt.select request).1.mission = _ ∨ (rt.select request).1.mission = _))
    cases hRejection : rt.selectRejection request with
    | some reason =>
      refine Or.inr ⟨?_, Or.inl ?_⟩
      · rintro _ ⟨⟩
        rw [hRejection]
        exact nofun
      · unfold select
        rw [hRejection]
        rfl
    | none =>
      refine Or.inl ⟨request, rfl, hRejection, ?_⟩
      rw [select_eq hRejection]
  | dispatch =>
    refine Or.inr ⟨nofun, ?_⟩
    change (rt.dispatch lib).1.mission = _ ∨ (rt.dispatch lib).1.mission = none
    unfold dispatch
    split
    · exact Or.inl rfl
    · split
      · exact Or.inl rfl
      split
      · exact Or.inl rfl
      split
      · exact Or.inr rfl
      split <;> exact Or.inl rfl
  | cancel reason =>
    refine Or.inr ⟨nofun, Or.inl ?_⟩
    change (rt.cancel reason).1.mission = _
    unfold cancel
    split <;> rfl
  | onGoalResponse generation accepted goalUuid =>
    refine Or.inr ⟨nofun, Or.inl ?_⟩
    change (rt.onGoalResponse generation accepted goalUuid).1.mission = _
    unfold onGoalResponse
    split
    · rfl
    · split
      · rfl
      · dsimp only
        split <;> rfl
  | onFeedback generation =>
    obtain ⟨state, status, hNext, -⟩ := rt.onFeedback_eq generation
    refine Or.inr ⟨nofun, Or.inl ?_⟩
    change (rt.onFeedback generation).mission = _
    rw [hNext]
  | onResult generation status errorCode errorMeaning =>
    refine Or.inr ⟨nofun, Or.inl ?_⟩
    change (rt.onResult lib generation status errorCode errorMeaning).mission = _
    rcases onResult_eq lib rt generation status errorCode errorMeaning with
      ⟨_, hNext⟩ | ⟨_, state, meaning, failed, detail, _, hNext⟩ <;> rw [hNext]
  | onCancelResponse generation goalsCanceling =>
    obtain ⟨detail, hNext⟩ := rt.onCancelResponse_eq generation goalsCanceling
    refine Or.inr ⟨nofun, Or.inl ?_⟩
    change (rt.onCancelResponse generation goalsCanceling).1.mission = _
    rw [hNext]
  | observeRobotPose robotPose =>
    obtain ⟨pose, hNext⟩ := rt.observeRobotPose_eq robotPose
    refine Or.inr ⟨nofun, Or.inl ?_⟩
    change (rt.observeRobotPose robotPose).mission = _
    rw [hNext]

/-- Whether the guards of `dispatch` let the stored mission through. -/
def dispatchOpen (lib : NavLibrary) (rt : MissionRuntime) : Bool :=
  rt.missionValid && rt.mission.any (fun mission => mission.runtimeEpoch = rt.runtimeEpoch) &&
    !rt.inflight && rt.state ≠ .canceling && rt.autonomyOk = some true &&
    (rt.identicalRedispatchFailure lib).isNone

theorem stored_of_open {lib : NavLibrary} {rt : MissionRuntime}
    (hOpen : rt.dispatchOpen lib = true) : ∃ mission, rt.mission = some mission := by
  cases hStored : rt.mission with
  | some mission => exact ⟨mission, rfl⟩
  | none =>
    simp only [dispatchOpen, hStored, Option.any_none, Bool.and_false, Bool.false_and] at hOpen
    cases hOpen

/-- An open `dispatch` sends the stored mission. -/
theorem dispatch_of_open {lib : NavLibrary} {rt : MissionRuntime} {mission : Mission}
    (hOpen : rt.dispatchOpen lib = true) (hStored : rt.mission = some mission) :
    Command.sendGoal (rt.actionGeneration + 1) mission ∈ (rt.dispatch lib).2 := by
  simp only [dispatchOpen, Bool.and_eq_true, Bool.not_eq_true', decide_eq_true_eq,
    Option.isNone_iff_eq_none, hStored, Option.any_some] at hOpen
  obtain ⟨⟨⟨⟨⟨hValid, hEpoch⟩, hIdle⟩, hState⟩, hOk⟩, hFree⟩ := hOpen
  unfold dispatch
  rw [if_pos hValid, hStored]
  dsimp only
  rw [if_neg (by simp [hIdle, hState]), if_neg (not_not.mpr hOk),
    if_neg (not_not.mpr hEpoch), hFree]
  exact List.mem_append_right _ (List.mem_singleton.mpr rfl)

/-- A `dispatch` that sends a goal was open. -/
theorem open_of_dispatch {lib : NavLibrary} {rt : MissionRuntime} {generation : Int}
    {mission : Mission} (h : Command.sendGoal generation mission ∈ (rt.dispatch lib).2) :
    rt.dispatchOpen lib = true := by
  unfold dispatch at h
  split at h
  · cases h
  rename_i stored hBound
  split at hBound
  · rename_i hValid
    split at h
    · cases h
    rename_i hBusy
    split at h
    · cases h
    rename_i hOk
    split at h
    · cases h
    rename_i hEpoch
    split at h
    · cases h
    rename_i hFree
    rw [not_or, Bool.not_eq_true] at hBusy
    simp only [dispatchOpen, hValid, hBound, Option.any_some, not_not.mp hEpoch, decide_true,
      hBusy.1, hBusy.2, not_not.mp hOk, hFree, ne_eq, not_false_eq_true, Bool.not_false,
      Option.isNone_none, Bool.and_self]
  · cases hBound

section

variable (lib : NavLibrary) (init : MissionRuntime)

/-- The latest SELECT message of a run that the runtime accepted. -/
def latestSelected : List NavInput → Option NavigationRequest
  | [] => none
  | input :: past =>
    match input with
    | .request message =>
      if message.operation = opSelect ∧
          (after (receive lib) init past).selectRejection message.select = none then some message
      else latestSelected past
    | _ => latestSelected past

/-- Every DISPATCH of the run that sent a goal sent the mission it names. -/
def Named (history : List NavInput) : Prop :=
  ∀ recent message past, history = recent ++ .request message :: past →
    message.operation = opDispatch → ∀ generation mission,
      Command.sendGoal generation mission ∈
        (after (receive lib) init past).received lib (.request message) →
      mission.missionId = message.missionId

/-- Every DISPATCH of the run that found the guards open names the mission of the latest
accepted SELECT. -/
def DispatchesLatest (history : List NavInput) : Prop :=
  ∀ recent message past, history = recent ++ .request message :: past →
    message.operation = opDispatch →
    (after (receive lib) init past).dispatchOpen lib = true →
    ∀ selected, latestSelected lib init past = some selected →
      selected.missionId = message.missionId

end

/-- The stored mission is the one of the latest accepted SELECT. -/
theorem stored_latest {lib : NavLibrary} {init : MissionRuntime} (hInit : init.mission = none)
    (past : List NavInput) {mission : Mission}
    (h : (after (receive lib) init past).mission = some mission) :
    ∃ message, latestSelected lib init past = some message ∧ mission = message.select.mission := by
  induction past generalizing mission with
  | nil =>
    rw [after_nil, hInit] at h
    cases h
  | cons input past ih =>
    rw [after_cons] at h
    generalize hRt : after (receive lib) init past = rt at h ih
    unfold receive at h
    cases hCall : input.call? with
    | none =>
      rw [hCall] at h
      obtain ⟨message, hLatest, hMission⟩ := ih h
      refine ⟨message, ?_, hMission⟩
      cases input with
      | request other =>
        have hOp : other.operation ≠ opSelect := by
          intro hOp
          simp [NavInput.call?, NavigationRequest.call?, hOp] at hCall
        rw [latestSelected, if_neg (fun hSel => hOp hSel.1)]
        exact hLatest
      | _ => exact hLatest
    | some call =>
      rw [hCall] at h
      rcases mission_step lib rt call with ⟨request, rfl, hAccepted, hSet⟩ | ⟨hOther, hKept⟩
      · cases input with
        | request message =>
          obtain ⟨hOp, rfl⟩ := NavigationRequest.call?_select hCall
          refine ⟨message, ?_, ?_⟩
          · rw [latestSelected, hRt, if_pos ⟨hOp, hAccepted⟩]
          · exact Option.some.inj (h.symm.trans hSet)
        | _ => cases hCall
      · have hWas : rt.mission = some mission := by
          rcases hKept with hKept | hKept
          · exact hKept.symm.trans h
          · rw [hKept] at h
            cases h
        obtain ⟨message, hLatest, hMission⟩ := ih hWas
        refine ⟨message, ?_, hMission⟩
        cases input with
        | request other =>
          rw [latestSelected, hRt, if_neg ?_]
          · exact hLatest
          · rintro ⟨hOp, hAccepted⟩
            refine hOther other.select ?_ hAccepted
            simp only [NavInput.call?, NavigationRequest.call?, hOp, if_true] at hCall
            exact (Option.some.inj hCall).symm
        | _ => exact hLatest

theorem received_dispatch {lib : NavLibrary} {rt : MissionRuntime} {message : NavigationRequest}
    (hOp : message.operation = opDispatch) :
    rt.received lib (.request message) = (rt.dispatch lib).2 :=
  (rt.receive_request (NavigationRequest.call?_of_dispatch hOp)).2

/-- In a run of a fresh runtime every DISPATCH launches the mission it names if and only if every
DISPATCH that finds the guards open names the mission of the latest accepted SELECT. The stored
mission is the one of the latest accepted SELECT (`stored_latest`), and a DISPATCH sends the stored
one without a look at the mission it names (`dispatch_of_open`). -/
theorem named_iff (lib : NavLibrary) (bootId : String) (history : List NavInput) :
    Named lib { bootId } history ↔ DispatchesLatest lib { bootId } history := by
  constructor
  · intro hNamed recent message past hSplit hOp hOpen selected hSelected
    obtain ⟨mission, hStored⟩ := stored_of_open hOpen
    obtain ⟨message', hLatest, hMission⟩ := stored_latest rfl past hStored
    have hSent := dispatch_of_open hOpen hStored
    rw [← received_dispatch hOp] at hSent
    have hId := hNamed recent message past hSplit hOp _ _ hSent
    obtain rfl : message' = selected := Option.some.inj (hLatest.symm.trans hSelected)
    rw [hMission] at hId
    exact hId
  · intro hLatest recent message past hSplit hOp generation mission hSent
    rw [received_dispatch hOp] at hSent
    obtain ⟨-, -, hStored, -⟩ := dispatch_sendGoal hSent
    obtain ⟨selected, hSelected, hMission⟩ := stored_latest rfl past hStored
    have hId := hLatest recent message past hSplit hOp (open_of_dispatch hSent) selected hSelected
    rw [hMission]
    exact hId

/-! ## A restarted authority

The authority numbers its missions from 1, also after a restart; the runtime, which did not
restart, then rejects them as stale and keeps the mission of the former authority. -/

/-- A request of an authority for the mission `missionId` in the map frame. -/
def requestFor (operation : Int) (missionId : String) (missionRevision : Int) :
    NavigationRequest :=
  { leaseId := "lease"
    operation
    missionId
    missionRevision
    runtimeEpoch := 1
    mapId := "map"
    missionType := 0
    poses := [⟨"map", List.replicate 3 (.finite 0),
      [.finite 0, .finite 0, .finite 0, .finite 1]⟩] }

/-- A mission of revision 5 is driven and canceled, then a restarted authority selects its
first mission; latest input first. -/
def restartedRun : List NavInput :=
  [.request (requestFor opSelect "m2" 1), .result 1 statusCanceled 0 "",
    .request (requestFor opCancel "m1" 5), .goalResponse 1 true "g",
    .request (requestFor opDispatch "m1" 5), .request (requestFor opSelect "m1" 5),
    .modeState 1 "map" true]

/-- The DISPATCH that names the rejected mission launches the older one. -/
theorem dispatch_launches_older_mission :
    (after (receive plainLibrary) { bootId := "b" } restartedRun.tail).selectRejection
        (requestFor opSelect "m2" 1).select = some "select rejected: stale mission_revision" ∧
      ¬ Named plainLibrary { bootId := "b" }
          (.request (requestFor opDispatch "m2" 1) :: restartedRun) := by
  refine ⟨by decide +kernel, fun hNamed => ?_⟩
  have hSent : Command.sendGoal 2 (requestFor opSelect "m1" 5).select.mission ∈
      (after (receive plainLibrary) { bootId := "b" } restartedRun).received plainLibrary
        (.request (requestFor opDispatch "m2" 1)) := by decide +kernel
  have hId := hNamed [] _ _ rfl rfl _ _ hSent
  exact absurd hId (by decide +kernel)

end MissionRuntime

end PreRunner.Bringup
