import PreRunner.Bringup.NavigationRequest

/-!
# The bound mission

Under an unchanged runtime only an accepted SELECT changes the mission that a dispatch would send
(`validMission`). A SELECT for the current runtime with a new revision and a usable pose is
accepted; a dispatch with a bound mission and nothing in flight sends it.
-/

namespace PreRunner.Bringup

/-- A single map-frame goal that passes the checks of `select` on its own content. -/
structure SelectRequest.Usable (request : SelectRequest) : Prop where
  missionId : request.missionId ≠ ""
  missionType : request.missionType = 0
  pose : ∃ pose, request.poses = [pose] ∧ pose.isValid = true

namespace MissionRuntime

variable {lib : NavLibrary} {rt next : MissionRuntime}

/-- The mission a dispatch would send. -/
def validMission (rt : MissionRuntime) : Option Mission :=
  if rt.missionValid then rt.mission else none

/-- The binding of the runtime is the same. -/
structure SameBinding (rt next : MissionRuntime) : Prop where
  missionValid : next.missionValid = rt.missionValid
  mission : next.mission = rt.mission
  autonomyOk : next.autonomyOk = rt.autonomyOk
  runtimeEpoch : next.runtimeEpoch = rt.runtimeEpoch
  mapId : next.mapId = rt.mapId
  maxRevision : next.maxRevision = rt.maxRevision

theorem SameBinding.refl (rt : MissionRuntime) : SameBinding rt rt := ⟨rfl, rfl, rfl, rfl, rfl, rfl⟩

theorem SameBinding.validMission (h : SameBinding rt next) :
    next.validMission = rt.validMission := by
  unfold MissionRuntime.validMission
  rw [h.missionValid, h.mission]

theorem sameBinding_cancel (rt : MissionRuntime) (reason : String) :
    SameBinding rt (rt.cancel reason).1 := by
  unfold cancel
  split <;> exact ⟨rfl, rfl, rfl, rfl, rfl, rfl⟩

theorem sameBinding_onGoalResponse (rt : MissionRuntime) (generation : Int) (accepted : Bool)
    (goalUuid : String) : SameBinding rt (rt.onGoalResponse generation accepted goalUuid).1 := by
  unfold onGoalResponse
  split
  · exact .refl rt
  split
  · exact ⟨rfl, rfl, rfl, rfl, rfl, rfl⟩
  dsimp only
  split <;> exact ⟨rfl, rfl, rfl, rfl, rfl, rfl⟩

theorem sameBinding_onFeedback (rt : MissionRuntime) (generation : Int) :
    SameBinding rt (rt.onFeedback generation) := by
  obtain ⟨state, status, hNext, -⟩ := rt.onFeedback_eq generation
  rw [hNext]
  exact ⟨rfl, rfl, rfl, rfl, rfl, rfl⟩

theorem sameBinding_onResult (lib : NavLibrary) (rt : MissionRuntime)
    (generation status errorCode : Int) (errorMeaning : String) :
    SameBinding rt (rt.onResult lib generation status errorCode errorMeaning) := by
  rcases onResult_eq lib rt generation status errorCode errorMeaning with
    ⟨_, hNext⟩ | ⟨_, state, meaning, failed, detail, _, hNext⟩ <;> rw [hNext]
  · exact .refl rt
  · exact ⟨rfl, rfl, rfl, rfl, rfl, rfl⟩

theorem sameBinding_onCancelResponse (rt : MissionRuntime) (generation : Int)
    (goalsCanceling : Bool) : SameBinding rt (rt.onCancelResponse generation goalsCanceling).1 := by
  obtain ⟨detail, hNext⟩ := rt.onCancelResponse_eq generation goalsCanceling
  rw [hNext]
  exact ⟨rfl, rfl, rfl, rfl, rfl, rfl⟩

theorem sameBinding_observeRobotPose (rt : MissionRuntime) (robotPose : MissionPose) :
    SameBinding rt (rt.observeRobotPose robotPose) := by
  obtain ⟨pose, hNext⟩ := rt.observeRobotPose_eq robotPose
  rw [hNext]
  exact ⟨rfl, rfl, rfl, rfl, rfl, rfl⟩

/-- A well-formed runtime has no mission of another epoch to drop. -/
theorem sameBinding_dispatch (h : WellFormed rt) (lib : NavLibrary) :
    SameBinding rt (rt.dispatch lib).1 := by
  unfold dispatch
  split
  · exact ⟨rfl, rfl, rfl, rfl, rfl, rfl⟩
  rename_i mission hBound
  split
  · exact ⟨rfl, rfl, rfl, rfl, rfl, rfl⟩
  split
  · exact ⟨rfl, rfl, rfl, rfl, rfl, rfl⟩
  split
  · rename_i hEpoch
    split at hBound
    · rename_i hValid
      obtain ⟨bound, _, hStored, hSame, _⟩ := h.bound hValid
      obtain rfl : bound = mission := Option.some.inj (hStored.symm.trans hBound)
      exact absurd hSame hEpoch
    · cases hBound
  split <;> exact ⟨rfl, rfl, rfl, rfl, rfl, rfl⟩

/-- A usable request for the current runtime is accepted. -/
theorem selectRejection_usable {request : SelectRequest} (hUsable : request.Usable)
    (hOk : rt.autonomyOk = some true) (hEpoch : request.runtimeEpoch = rt.runtimeEpoch)
    (hMap : request.mapId = rt.mapId) (hRevision : rt.maxRevision < request.missionRevision) :
    rt.selectRejection request = none := by
  obtain ⟨hId, hType, pose, hPoses, hPose⟩ := hUsable
  unfold selectRejection
  rw [if_neg hId, if_neg (by rw [hType]; decide), if_neg (by simp [hPoses, hPose]),
    if_neg (by simp [hPoses]), if_neg (not_not.mpr hOk), if_neg (not_not.mpr hEpoch),
    if_neg (by simp [hMap]), if_neg (by omega)]

/-- With a bound mission and nothing in flight `dispatch` sends it. -/
theorem dispatch_sends (h : WellFormed rt) {mission : Mission}
    (hMission : rt.validMission = some mission) (hIdle : rt.inflight = false)
    (hFree : rt.identicalRedispatchFailure lib = none) :
    Command.sendGoal (rt.actionGeneration + 1) mission ∈ (rt.dispatch lib).2 := by
  unfold validMission at hMission
  split at hMission
  · rename_i hValid
    obtain ⟨bound, hOk, hStored, hEpoch, -⟩ := h.bound hValid
    obtain rfl : bound = mission := Option.some.inj (hStored.symm.trans hMission)
    refine dispatch_of_open ?_ hMission
    have hState : rt.state ≠ .canceling := by
      intro hState
      have hProgress := h.inflight
      rw [hIdle, hState] at hProgress
      cases hProgress
    simp [dispatchOpen, hValid, hMission, hEpoch, hIdle, hState, hOk, hFree]
  · cases hMission

end MissionRuntime

end PreRunner.Bringup
