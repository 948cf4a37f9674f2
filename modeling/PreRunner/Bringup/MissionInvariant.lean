import PreRunner.Runs.History
import PreRunner.Bringup.MissionRuntime

/-!
# The mission lifecycle

`WellFormed` is the joint invariant of the coupled fields of a mission runtime. Only `dispatch`
sends a goal, and it does so with the next generation and with nothing in flight
(`commands_sendGoal`), so the generations sent along a run strictly increase. A cancellation
asked for while a goal is in flight stays requested for as long as that goal is in flight
(`Pending`), so its acceptance is answered with a cancel.
-/

namespace PreRunner.Bringup

open Runs

/-- The generation of a sent goal. -/
def Command.sentGeneration? : Command → Option Int
  | sendGoal generation _ => some generation
  | _ => none

/-- The states of a runtime with an action in flight. -/
def MissionState.inProgress : MissionState → Bool
  | dispatching | active | canceling => true
  | _ => false

namespace MissionRuntime

theorem inProgress_settled (state : MissionState) : (settled state).inProgress = false := by
  cases state <;> rfl

/-- A mission of the current epoch and map, seen in AUTONOMY. -/
structure Bound (rt : MissionRuntime) (mission : Mission) : Prop where
  autonomy : rt.autonomyOk = some true
  stored : rt.mission = some mission
  epoch : mission.runtimeEpoch = rt.runtimeEpoch
  map : rt.mapId ≠ "" → mission.mapId = rt.mapId

/-- The joint invariant of the fields. -/
structure WellFormed (rt : MissionRuntime) : Prop where
  inflight : rt.inflight = rt.state.inProgress
  canceling : rt.inflight = true → rt.cancelRequested = true → rt.state = .canceling
  observed : rt.autonomyOk = some true → rt.autonomyKey = some (rt.runtimeEpoch, rt.mapId)
  bound : rt.missionValid = true → ∃ mission, rt.Bound mission

namespace WellFormed

variable {rt : MissionRuntime}

theorem init (bootId : String) : WellFormed { bootId } where
  inflight := rfl
  canceling := nofun
  observed := nofun
  bound := nofun

/-- Fields that no invariant reads. -/
theorem of_note (h : WellFormed rt) (detail : String) : WellFormed { rt with detail := detail } :=
  ⟨h.inflight, h.canceling, h.observed, fun hValid =>
    let ⟨mission, hA, hS, hE, hM⟩ := h.bound hValid; ⟨mission, hA, hS, hE, hM⟩⟩

theorem beginCancel (h : WellFormed rt) (hInflight : rt.inflight = true) (reason : String) :
    WellFormed (rt.beginCancel reason).1 :=
  ⟨hInflight, fun _ _ => rfl, h.observed, fun hValid =>
    let ⟨mission, hA, hS, hE, hM⟩ := h.bound hValid; ⟨mission, hA, hS, hE, hM⟩⟩

theorem of_settled (h : WellFormed rt) (hIdle : rt.inflight = false) (detail : String) :
    WellFormed { rt with state := settled rt.state, detail := detail } :=
  ⟨hIdle.trans (inProgress_settled rt.state).symm,
    fun hInflight => absurd hInflight (by rw [hIdle]; exact nofun), h.observed, fun hValid =>
    let ⟨mission, hA, hS, hE, hM⟩ := h.bound hValid; ⟨mission, hA, hS, hE, hM⟩⟩

end WellFormed

theorem invalidate_eq (rt : MissionRuntime) (reason : String) :
    rt.invalidate reason =
      if rt.inflight then
        ({ rt with
            missionValid := false
            mission := none
            failedDispatch := none
            cancelRequested := true
            state := .canceling
            detail := "mission invalidated: " ++ reason },
          if rt.goalUuid ≠ "" then [.cancelActiveGoal rt.actionGeneration] else [])
      else
        ({ rt with
            missionValid := false
            mission := none
            failedDispatch := none
            state := settled rt.state
            detail := "mission invalidated: " ++ reason }, []) := by
  unfold invalidate
  cases rt.inflight <;> rfl

theorem WellFormed.invalidate {rt : MissionRuntime} (h : WellFormed rt) (reason : String) :
    WellFormed (rt.invalidate reason).1 := by
  rw [invalidate_eq]
  split
  · rename_i hInflight
    exact ⟨hInflight, fun _ _ => rfl, h.observed, nofun⟩
  · rename_i hIdle
    rw [Bool.not_eq_true] at hIdle
    exact ⟨hIdle.trans (inProgress_settled rt.state).symm,
      fun hInflight => absurd hInflight (by rw [hIdle]; exact nofun), h.observed, nofun⟩

/-- Whether an observation invalidates the mission. -/
def invalidates (rt : MissionRuntime) (runtimeEpoch : Int) (mapId : String) (autonomyOk : Bool) :
    Bool :=
  if autonomyOk then
    rt.autonomyKey ≠ none && rt.autonomyKey ≠ some (runtimeEpoch, mapId)
  else rt.autonomyOk = some true

/-- The fields an observation writes. -/
def observed (rt : MissionRuntime) (runtimeEpoch : Int) (mapId : String) (autonomyOk : Bool) :
    MissionRuntime :=
  if autonomyOk then
    { rt with
      autonomyOk := some autonomyOk
      autonomyKey := some (runtimeEpoch, mapId)
      runtimeEpoch := runtimeEpoch
      mapId := mapId }
  else { rt with autonomyOk := some autonomyOk }

theorem observeRuntime_eq (rt : MissionRuntime) (runtimeEpoch : Int) (mapId : String)
    (autonomyOk : Bool) :
    rt.observeRuntime runtimeEpoch mapId autonomyOk =
      if rt.invalidates runtimeEpoch mapId autonomyOk then
        (rt.observed runtimeEpoch mapId autonomyOk).invalidate
          (if autonomyOk then "runtime epoch or map changed" else "runtime left AUTONOMY")
      else (rt.observed runtimeEpoch mapId autonomyOk, []) := by
  unfold observeRuntime invalidates observed
  cases autonomyOk with
  | true =>
    by_cases hKey : rt.autonomyKey ≠ none ∧ rt.autonomyKey ≠ some (runtimeEpoch, mapId)
    · simp only [if_true, invalidate_eq, hKey.1, hKey.2, ne_eq, not_false_eq_true,
        decide_true, Bool.and_self]
      cases rt.inflight <;> rfl
    · have hKey' : (decide (rt.autonomyKey ≠ none) &&
          decide (rt.autonomyKey ≠ some (runtimeEpoch, mapId))) ≠ true := by simpa using hKey
      simp only [if_true, if_neg hKey, if_neg hKey']
  | false =>
    by_cases hWas : rt.autonomyOk = some true
    · simp only [Bool.false_eq_true, if_false, decide_true, if_true, hWas]
    · simp only [Bool.false_eq_true, if_false, hWas, decide_false]

theorem wellFormed_observed {rt : MissionRuntime} (h : WellFormed rt) {runtimeEpoch : Int}
    {mapId : String} {autonomyOk : Bool}
    (hKeep : rt.invalidates runtimeEpoch mapId autonomyOk = false) :
    WellFormed (rt.observed runtimeEpoch mapId autonomyOk) := by
  unfold invalidates at hKeep
  unfold observed
  cases autonomyOk with
  | true =>
    simp only [if_true] at hKeep ⊢
    refine ⟨h.inflight, h.canceling, fun _ => rfl, fun hValid => ?_⟩
    obtain ⟨mission, hA, hS, hE, hM⟩ := h.bound hValid
    have hKey := h.observed hA
    -- the key that was seen last is the one seen now
    simp only [hKey, ne_eq, reduceCtorEq, not_false_eq_true, decide_true, Bool.true_and,
      decide_not, Bool.not_eq_false', decide_eq_true_eq, Option.some.injEq, Prod.mk.injEq] at hKeep
    exact ⟨mission, rfl, hS, hE.trans hKeep.1, fun hMap => (hM (hKeep.2 ▸ hMap)).trans hKeep.2⟩
  | false =>
    simp only [Bool.false_eq_true, if_false, decide_eq_false_iff_not] at hKeep ⊢
    refine ⟨h.inflight, h.canceling, nofun, fun hValid => ?_⟩
    obtain ⟨mission, hA, -⟩ := h.bound hValid
    exact absurd hA hKeep

/-- Invalidation makes up for an observation that changed the epoch, the map or the mode. -/
theorem wellFormed_invalidate_observed {rt : MissionRuntime} (h : WellFormed rt)
    (runtimeEpoch : Int) (mapId : String) (autonomyOk : Bool) (reason : String) :
    WellFormed ((rt.observed runtimeEpoch mapId autonomyOk).invalidate reason).1 := by
  have hObserved : WellFormed
      { rt.observed runtimeEpoch mapId autonomyOk with
        missionValid := false, mission := none } := by
    unfold observed
    cases autonomyOk with
    | true => exact ⟨h.inflight, h.canceling, fun _ => rfl, nofun⟩
    | false => exact ⟨h.inflight, h.canceling, nofun, nofun⟩
  exact hObserved.invalidate reason

theorem WellFormed.observeRuntime {rt : MissionRuntime} (h : WellFormed rt) (runtimeEpoch : Int)
    (mapId : String) (autonomyOk : Bool) :
    WellFormed (rt.observeRuntime runtimeEpoch mapId autonomyOk).1 := by
  rw [observeRuntime_eq]
  split
  · exact wellFormed_invalidate_observed h _ _ _ _
  · rename_i hKeep
    exact wellFormed_observed h (Bool.not_eq_true _ ▸ hKeep)

/-! ## Selecting and dispatching -/

theorem selectRejection_none {rt : MissionRuntime} {r : SelectRequest}
    (h : rt.selectRejection r = none) :
    rt.autonomyOk = some true ∧ r.runtimeEpoch = rt.runtimeEpoch ∧
      (rt.mapId ≠ "" → r.mapId = rt.mapId) ∧ rt.maxRevision < r.missionRevision := by
  unfold selectRejection at h
  split at h
  · cases h
  split at h
  · cases h
  split at h
  · cases h
  split at h
  · cases h
  split at h
  · cases h
  rename_i hOk
  split at h
  · cases h
  rename_i hEpoch
  split at h
  · cases h
  rename_i hMap
  split at h
  · cases h
  rename_i hRevision
  exact ⟨not_not.mp hOk, not_not.mp hEpoch, fun hNamed => not_not.mp fun hNe => hMap ⟨hNamed, hNe⟩,
    not_le.mp hRevision⟩

theorem select_eq {rt : MissionRuntime} {r : SelectRequest} (h : rt.selectRejection r = none) :
    rt.select r =
      ({ rt with
          maxRevision := r.missionRevision
          mission := some r.mission
          missionValid := true
          failedDispatch := none
          cancelRequested := rt.inflight || rt.cancelRequested
          state := if rt.inflight then .canceling else .idle
          detail := "mission selected and validated" },
        if rt.inflight ∧ rt.goalUuid ≠ "" then [.cancelActiveGoal rt.actionGeneration]
          else []) := by
  unfold select
  rw [h]
  dsimp only
  by_cases hInflight : rt.inflight = true
  · simp only [hInflight, if_true, true_and]
    rfl
  · rw [Bool.not_eq_true] at hInflight
    simp only [hInflight, Bool.false_eq_true, if_false, false_and]
    rfl

theorem WellFormed.select {rt : MissionRuntime} (h : WellFormed rt) (r : SelectRequest) :
    WellFormed (rt.select r).1 := by
  cases hRejection : rt.selectRejection r with
  | some reason =>
    unfold MissionRuntime.select
    rw [hRejection]
    exact h.of_note reason
  | none =>
    obtain ⟨hOk, hEpoch, hMap, -⟩ := selectRejection_none hRejection
    rw [select_eq hRejection]
    refine ⟨?_, fun hInflight _ => if_pos hInflight, h.observed, fun _ =>
      ⟨r.mission, hOk, rfl, hEpoch, hMap⟩⟩
    change rt.inflight = MissionState.inProgress (if rt.inflight = true then _ else _)
    cases rt.inflight <;> rfl

/-- What `dispatch` can do. -/
inductive DispatchCase (rt : MissionRuntime) : MissionRuntime × List Command → Prop
  | rejected (next) (hSame : next.inflight = rt.inflight ∧ next.state = rt.state ∧
      next.cancelRequested = rt.cancelRequested ∧ next.goalUuid = rt.goalUuid ∧
      next.actionGeneration = rt.actionGeneration ∧ next.autonomyOk = rt.autonomyOk ∧
      next.autonomyKey = rt.autonomyKey ∧ next.runtimeEpoch = rt.runtimeEpoch ∧
      next.mapId = rt.mapId ∧ next.maxRevision = rt.maxRevision)
      (hMission : next.missionValid = true → next.mission = rt.mission ∧ rt.missionValid = true) :
      DispatchCase rt (next, [])
  | sent (mission) (hIdle : rt.inflight = false) (hValid : rt.missionValid = true)
      (hOk : rt.autonomyOk = some true) (hStored : rt.mission = some mission)
      (hEpoch : mission.runtimeEpoch = rt.runtimeEpoch) :
      DispatchCase rt (rt.dispatched mission,
        (if rt.residualCleared then [] else [.cancelResidualGoals]) ++
          [.sendGoal (rt.actionGeneration + 1) mission])

theorem dispatch_case (lib : NavLibrary) (rt : MissionRuntime) :
    DispatchCase rt (rt.dispatch lib) := by
  have hKept : ∀ reason, DispatchCase rt (rt.reject reason) := fun reason =>
    .rejected _ ⟨rfl, rfl, rfl, rfl, rfl, rfl, rfl, rfl, rfl, rfl⟩ fun hValid => ⟨rfl, hValid⟩
  unfold dispatch
  cases hBound : (if rt.missionValid then rt.mission else none) with
  | none => exact hKept _
  | some mission =>
    have hStored : rt.missionValid = true ∧ rt.mission = some mission := by
      split at hBound
      · exact ⟨‹_›, hBound⟩
      · cases hBound
    refine iteInduction (fun _ => hKept _) fun hBusy => iteInduction (fun _ => hKept _) fun hOk =>
      iteInduction (fun _ => ?_) fun hEpoch => ?_
    · exact .rejected _ ⟨rfl, rfl, rfl, rfl, rfl, rfl, rfl, rfl, rfl, rfl⟩ nofun
    · rw [not_or, Bool.not_eq_true] at hBusy
      split
      · exact .rejected _ ⟨rfl, rfl, rfl, rfl, rfl, rfl, rfl, rfl, rfl, rfl⟩
          fun hValid => ⟨rfl, hValid⟩
      · exact .sent mission hBusy.1 hStored.1 (not_not.mp hOk) hStored.2 (not_not.mp hEpoch)

theorem WellFormed.dispatch {rt : MissionRuntime} (h : WellFormed rt) (lib : NavLibrary) :
    WellFormed (rt.dispatch lib).1 := by
  have hCase := dispatch_case lib rt
  generalize rt.dispatch lib = out at hCase
  cases hCase with
  | rejected next hSame hMission =>
    obtain ⟨hIn, hState, hCancel, _, _, hOk, hKey, hEpoch, hMap, _⟩ := hSame
    refine ⟨by rw [hIn, hState]; exact h.inflight, by rw [hIn, hState, hCancel]; exact h.canceling,
      by rw [hOk, hKey, hEpoch, hMap]; exact h.observed, fun hValid => ?_⟩
    obtain ⟨hStored, hWas⟩ := hMission hValid
    obtain ⟨mission, hA, hS, hE, hM⟩ := h.bound hWas
    exact ⟨mission, hOk.trans hA, hStored.trans hS, hE.trans hEpoch.symm,
      by rw [hMap]; exact hM⟩
  | sent mission _ _ hOk hStored hEpoch =>
    refine ⟨rfl, nofun, h.observed, fun hValid => ?_⟩
    obtain ⟨mission', hA, hS, hE, hM⟩ := h.bound hValid
    exact ⟨mission', hA, hS, hE, hM⟩

/-! ## The other calls -/

theorem WellFormed.cancel {rt : MissionRuntime} (h : WellFormed rt) (reason : String) :
    WellFormed (rt.cancel reason).1 := by
  unfold MissionRuntime.cancel
  split
  · rename_i hInflight
    exact h.beginCancel hInflight _
  · rename_i hIdle
    exact h.of_settled (Bool.not_eq_true _ ▸ hIdle) _

/-- A change of the action fields that keeps the mission and what was observed. -/
theorem WellFormed.of_action {rt next : MissionRuntime} (h : WellFormed rt)
    (hInflight : next.inflight = next.state.inProgress)
    (hCanceling : next.inflight = true → next.cancelRequested = true → next.state = .canceling)
    (hOk : next.autonomyOk = rt.autonomyOk) (hKey : next.autonomyKey = rt.autonomyKey)
    (hEpoch : next.runtimeEpoch = rt.runtimeEpoch) (hMap : next.mapId = rt.mapId)
    (hValid : next.missionValid = rt.missionValid) (hMission : next.mission = rt.mission) :
    WellFormed next := by
  refine ⟨hInflight, hCanceling, by rw [hOk, hKey, hEpoch, hMap]; exact h.observed, fun hv => ?_⟩
  obtain ⟨mission, hA, hS, hE, hM⟩ := h.bound (hValid ▸ hv)
  exact ⟨mission, hOk.trans hA, hMission.trans hS, hE.trans hEpoch.symm, by rw [hMap]; exact hM⟩

theorem WellFormed.onGoalResponse {rt : MissionRuntime} (h : WellFormed rt) (generation : Int)
    (accepted : Bool) (goalUuid : String) :
    WellFormed (rt.onGoalResponse generation accepted goalUuid).1 := by
  unfold MissionRuntime.onGoalResponse
  split
  · exact h
  · rename_i hCurrent
    simp only [not_or, Bool.not_eq_false] at hCurrent
    split
    · exact h.of_action rfl nofun rfl rfl rfl rfl rfl rfl
    · dsimp only
      split
      · exact h.of_action hCurrent.2 (fun _ _ => rfl) rfl rfl rfl rfl rfl rfl
      · rename_i hNot
        exact h.of_action hCurrent.2 (fun _ hCancel => absurd hCancel hNot) rfl rfl rfl rfl rfl rfl

theorem onFeedback_eq (rt : MissionRuntime) (generation : Int) :
    ∃ state status, rt.onFeedback generation = { rt with state := state, nav2Status := status } ∧
      (state = rt.state ∨ (rt.inflight = true ∧ rt.state = .dispatching ∧ state = .active)) := by
  unfold onFeedback
  split
  · exact ⟨rt.state, rt.nav2Status, rfl, Or.inl rfl⟩
  · rename_i hCurrent
    simp only [not_or, Bool.not_eq_false] at hCurrent
    dsimp only
    by_cases hState : rt.state = .dispatching
    · simp only [if_pos hState]
      exact ⟨_, _, rfl, Or.inr ⟨hCurrent.2, hState, rfl⟩⟩
    · simp only [if_neg hState]
      split
      · exact ⟨rt.state, _, rfl, Or.inl rfl⟩
      · exact ⟨rt.state, rt.nav2Status, rfl, Or.inl rfl⟩

theorem WellFormed.onFeedback {rt : MissionRuntime} (h : WellFormed rt) (generation : Int) :
    WellFormed (rt.onFeedback generation) := by
  obtain ⟨state, status, hNext, hState⟩ := rt.onFeedback_eq generation
  rw [hNext]
  rcases hState with rfl | ⟨hInflight, hWas, rfl⟩
  · exact h.of_action h.inflight h.canceling rfl rfl rfl rfl rfl rfl
  · refine h.of_action hInflight (fun _ hCancel => ?_) rfl rfl rfl rfl rfl rfl
    have := h.canceling hInflight hCancel
    rw [hWas] at this
    cases this

/-- A stale result changes nothing; the result of the live action ends it. -/
theorem onResult_eq (lib : NavLibrary) (rt : MissionRuntime) (generation status errorCode : Int)
    (errorMeaning : String) :
    (rt.isCurrent generation = false ∧
        rt.onResult lib generation status errorCode errorMeaning = rt) ∨
      (rt.isCurrent generation = true ∧ ∃ state meaning failed detail,
        state.inProgress = false ∧
        rt.onResult lib generation status errorCode errorMeaning =
          { rt with
            inflight := false
            inflightMissionId := ""
            cancelRequested := false
            goalUuid := ""
            nav2Status := status
            errorCode := errorCode
            errorMeaning := meaning
            state := state
            failedDispatch := failed
            detail := detail }) := by
  unfold onResult isCurrent
  split
  · rename_i hStale
    refine Or.inl ⟨?_, rfl⟩
    rcases hStale with h | h
    · simp [h]
    · simp [h]
  · rename_i hCurrent
    simp only [not_or, not_not, Bool.not_eq_false] at hCurrent
    refine Or.inr ⟨by simp [hCurrent], ?_⟩
    dsimp only
    split
    · exact ⟨_, _, _, _, rfl, rfl⟩
    · split
      · exact ⟨_, _, _, _, rfl, rfl⟩
      · exact ⟨_, _, _, _, rfl, rfl⟩

theorem WellFormed.onResult {rt : MissionRuntime} (h : WellFormed rt) (lib : NavLibrary)
    (generation status errorCode : Int) (errorMeaning : String) :
    WellFormed (rt.onResult lib generation status errorCode errorMeaning) := by
  rcases onResult_eq lib rt generation status errorCode errorMeaning with
    ⟨_, hNext⟩ | ⟨_, state, meaning, failed, detail, hState, hNext⟩
  · rw [hNext]
    exact h
  · rw [hNext]
    exact h.of_action hState.symm nofun rfl rfl rfl rfl rfl rfl

theorem onCancelResponse_eq (rt : MissionRuntime) (generation : Int) (goalsCanceling : Bool) :
    ∃ detail, (rt.onCancelResponse generation goalsCanceling).1 = { rt with detail := detail } := by
  unfold onCancelResponse
  split
  · exact ⟨rt.detail, rfl⟩
  · split <;> exact ⟨_, rfl⟩

theorem observeRobotPose_eq (rt : MissionRuntime) (robotPose : MissionPose) :
    ∃ pose, rt.observeRobotPose robotPose = { rt with robotPose := pose } := by
  unfold observeRobotPose
  split
  · exact ⟨_, rfl⟩
  · exact ⟨rt.robotPose, rfl⟩

/-- Every call keeps the joint invariant. -/
theorem WellFormed.step {rt : MissionRuntime} (h : WellFormed rt) (lib : NavLibrary)
    (call : MissionCall) : WellFormed (rt.step lib call) := by
  cases call with
  | observeRuntime runtimeEpoch mapId autonomyOk => exact h.observeRuntime _ _ _
  | select request => exact h.select request
  | dispatch => exact h.dispatch lib
  | cancel reason => exact h.cancel reason
  | onGoalResponse generation accepted goalUuid => exact h.onGoalResponse _ _ _
  | onFeedback generation => exact h.onFeedback generation
  | onResult generation status errorCode errorMeaning => exact h.onResult lib _ _ _ _
  | onCancelResponse generation goalsCanceling =>
    obtain ⟨detail, hNext⟩ := rt.onCancelResponse_eq generation goalsCanceling
    change WellFormed (rt.onCancelResponse generation goalsCanceling).1
    rw [hNext]
    exact h.of_note detail
  | observeRobotPose robotPose =>
    obtain ⟨pose, hNext⟩ := rt.observeRobotPose_eq robotPose
    change WellFormed (rt.observeRobotPose robotPose)
    rw [hNext]
    exact h.of_action h.inflight h.canceling rfl rfl rfl rfl rfl rfl

/-! ## Sent goals -/

theorem sendGoal_notMem_cancel {generation generation' : Int} {mission : Mission} {p : Prop}
    [Decidable p] :
    Command.sendGoal generation mission ∉
      (if p then [Command.cancelActiveGoal generation'] else []) := by
  split <;> simp

theorem sendGoal_notMem_invalidate (rt : MissionRuntime) (reason : String) (generation : Int)
    (mission : Mission) : Command.sendGoal generation mission ∉ (rt.invalidate reason).2 := by
  rw [invalidate_eq]
  split
  · exact sendGoal_notMem_cancel
  · simp

/-- Only `dispatch` sends goals. -/
theorem sendGoal_notMem_commands {lib : NavLibrary} {rt : MissionRuntime} {call : MissionCall}
    (hCall : call ≠ .dispatch) (generation : Int) (mission : Mission) :
    Command.sendGoal generation mission ∉ rt.commands lib call := by
  intro h
  cases call with
  | observeRuntime runtimeEpoch mapId autonomyOk =>
    change _ ∈ (rt.observeRuntime runtimeEpoch mapId autonomyOk).2 at h
    rw [observeRuntime_eq] at h
    split at h
    · exact sendGoal_notMem_invalidate _ _ _ _ h
    · cases h
  | select request =>
    change _ ∈ (rt.select request).2 at h
    cases hRejection : rt.selectRejection request with
    | some reason =>
      unfold select at h
      rw [hRejection] at h
      cases h
    | none =>
      rw [select_eq hRejection] at h
      exact sendGoal_notMem_cancel h
  | dispatch => exact hCall rfl
  | cancel reason =>
    change _ ∈ (rt.cancel reason).2 at h
    unfold cancel at h
    split at h
    · exact sendGoal_notMem_cancel h
    · cases h
  | onGoalResponse generation' accepted goalUuid =>
    change _ ∈ (rt.onGoalResponse generation' accepted goalUuid).2 at h
    unfold onGoalResponse at h
    split at h
    · cases h
    · split at h
      · cases h
      · dsimp only at h
        split at h <;> simp at h
  | _ => cases h

/-- A sent goal is the stored mission, under the next generation, with nothing in flight. -/
theorem dispatch_sendGoal {lib : NavLibrary} {rt : MissionRuntime} {generation : Int}
    {mission : Mission} (h : Command.sendGoal generation mission ∈ (rt.dispatch lib).2) :
    rt.inflight = false ∧ rt.missionValid = true ∧ rt.mission = some mission ∧
      generation = rt.actionGeneration + 1 ∧ (rt.dispatch lib).1 = rt.dispatched mission := by
  have hCase := dispatch_case lib rt
  generalize rt.dispatch lib = out at h hCase
  cases hCase with
  | rejected => cases h
  | sent mission' hIdle hValid hOk hStored hEpoch =>
    have hEq : generation = rt.actionGeneration + 1 ∧ mission = mission' := by
      rcases List.mem_append.mp h with h | h
      · split at h <;> simp at h
      · simpa using h
    obtain ⟨rfl, rfl⟩ := hEq
    exact ⟨hIdle, hValid, hStored, rfl, rfl⟩

theorem commands_sendGoal {lib : NavLibrary} {rt : MissionRuntime} {call : MissionCall}
    {generation : Int} {mission : Mission}
    (h : Command.sendGoal generation mission ∈ rt.commands lib call) :
    rt.inflight = false ∧ rt.missionValid = true ∧ rt.mission = some mission ∧
      generation = rt.actionGeneration + 1 ∧ rt.step lib call = rt.dispatched mission := by
  by_cases hCall : call = .dispatch
  · cases hCall
    exact dispatch_sendGoal h
  · exact absurd h (sendGoal_notMem_commands hCall _ _)

/-! ## One flight -/

/-- Whether a call asks for the cancellation of what is in flight. -/
def requestsCancel (rt : MissionRuntime) : MissionCall → Bool
  | .observeRuntime runtimeEpoch mapId autonomyOk => rt.invalidates runtimeEpoch mapId autonomyOk
  | .select request => rt.selectRejection request = none
  | .cancel _ => true
  | _ => false

/-- No new action started; an action still in flight was in flight, and a cancellation of it
stays requested. -/
structure SameFlight (rt next : MissionRuntime) : Prop where
  generation : next.actionGeneration = rt.actionGeneration
  inflight : next.inflight = true → rt.inflight = true
  requested : next.inflight = true → rt.cancelRequested = true → next.cancelRequested = true

theorem sameFlight_beginCancel (rt : MissionRuntime) (reason : String) :
    SameFlight rt (rt.beginCancel reason).1 := ⟨rfl, id, fun _ _ => rfl⟩

theorem sameFlight_invalidate (rt : MissionRuntime) (reason : String) :
    SameFlight rt (rt.invalidate reason).1 ∧
      (rt.inflight = true → (rt.invalidate reason).1.cancelRequested = true) := by
  rw [invalidate_eq]
  split
  · exact ⟨⟨rfl, id, fun _ _ => rfl⟩, fun _ => rfl⟩
  · rename_i hIdle
    exact ⟨⟨rfl, id, fun _ => id⟩, fun hInflight => absurd hInflight hIdle⟩

theorem sameFlight_observed (rt : MissionRuntime) (runtimeEpoch : Int) (mapId : String)
    (autonomyOk : Bool) :
    SameFlight rt (rt.observed runtimeEpoch mapId autonomyOk) ∧
      (rt.observed runtimeEpoch mapId autonomyOk).inflight = rt.inflight := by
  unfold observed
  cases autonomyOk <;> exact ⟨⟨rfl, id, fun _ => id⟩, rfl⟩

theorem SameFlight.trans {rt mid next : MissionRuntime} (h : SameFlight rt mid)
    (h' : SameFlight mid next) : SameFlight rt next :=
  ⟨h'.generation.trans h.generation, fun hIn => h.inflight (h'.inflight hIn),
    fun hIn hCancel => h'.requested hIn (h.requested (h'.inflight hIn) hCancel)⟩

/-- A call either starts a new action with nothing in flight, or belongs to the same flight; a
requested cancellation of an action in flight is recorded. -/
theorem flight_step (lib : NavLibrary) (rt : MissionRuntime) (call : MissionCall) :
    (SameFlight rt (rt.step lib call) ∧
        (rt.inflight = true → rt.requestsCancel call = true →
          (rt.step lib call).cancelRequested = true)) ∨
      (rt.inflight = false ∧ ∃ mission, rt.step lib call = rt.dispatched mission) := by
  cases call with
  | observeRuntime runtimeEpoch mapId autonomyOk =>
    refine Or.inl ?_
    change SameFlight rt (rt.observeRuntime runtimeEpoch mapId autonomyOk).1 ∧
      (_ → rt.invalidates runtimeEpoch mapId autonomyOk = true → _)
    obtain ⟨hObserved, hSame⟩ := rt.sameFlight_observed runtimeEpoch mapId autonomyOk
    change _ ∧ (_ → _ → (rt.observeRuntime runtimeEpoch mapId autonomyOk).1.cancelRequested = true)
    rw [observeRuntime_eq]
    split
    · obtain ⟨hFlight, hCancel⟩ := sameFlight_invalidate
        (rt.observed runtimeEpoch mapId autonomyOk)
        (if autonomyOk then "runtime epoch or map changed" else "runtime left AUTONOMY")
      exact ⟨hObserved.trans hFlight, fun hIn _ => hCancel (hSame.trans hIn)⟩
    · rename_i hKeep
      exact ⟨hObserved, fun _ h => absurd h hKeep⟩
  | select request =>
    refine Or.inl ?_
    change SameFlight rt (rt.select request).1 ∧ (_ → decide _ = true →
      (rt.select request).1.cancelRequested = true)
    cases hRejection : rt.selectRejection request with
    | some reason =>
      unfold select
      rw [hRejection]
      exact ⟨⟨rfl, id, fun _ => id⟩, fun _ h => by simp at h⟩
    | none =>
      rw [select_eq hRejection]
      refine ⟨⟨rfl, id, fun _ hCancel => ?_⟩, fun hIn _ => ?_⟩
      · exact (congrArg (rt.inflight || ·) hCancel).trans (Bool.or_true _)
      · exact (congrArg (· || rt.cancelRequested) hIn).trans (Bool.true_or _)
  | dispatch =>
    have hCase := dispatch_case lib rt
    change (SameFlight rt (rt.dispatch lib).1 ∧ (_ → false = true → _)) ∨
      (_ ∧ ∃ mission, (rt.dispatch lib).1 = _)
    generalize rt.dispatch lib = out at hCase
    cases hCase with
    | rejected next hSame =>
      obtain ⟨hIn, _, hCancel, _, hGen, _⟩ := hSame
      exact Or.inl ⟨⟨hGen, fun h => hIn ▸ h, fun _ h => hCancel.trans h⟩, fun _ => nofun⟩
    | sent mission hIdle => exact Or.inr ⟨hIdle, mission, rfl⟩
  | cancel reason =>
    refine Or.inl ?_
    change SameFlight rt (rt.cancel reason).1 ∧
      (_ → _ → (rt.cancel reason).1.cancelRequested = true)
    unfold cancel
    split
    · exact ⟨sameFlight_beginCancel _ _, fun _ _ => rfl⟩
    · rename_i hIdle
      exact ⟨⟨rfl, id, fun _ => id⟩, fun hIn => absurd hIn hIdle⟩
  | onGoalResponse generation accepted goalUuid =>
    refine Or.inl ⟨?_, fun _ => nofun⟩
    change SameFlight rt (rt.onGoalResponse generation accepted goalUuid).1
    unfold onGoalResponse
    split
    · exact ⟨rfl, id, fun _ => id⟩
    · split
      · exact ⟨rfl, nofun, nofun⟩
      · dsimp only
        split <;> exact ⟨rfl, id, fun _ => id⟩
  | onFeedback generation =>
    obtain ⟨state, status, hNext, -⟩ := rt.onFeedback_eq generation
    refine Or.inl ⟨?_, fun _ => nofun⟩
    change SameFlight rt (rt.onFeedback generation)
    rw [hNext]
    exact ⟨rfl, id, fun _ => id⟩
  | onResult generation status errorCode errorMeaning =>
    refine Or.inl ⟨?_, fun _ => nofun⟩
    change SameFlight rt (rt.onResult lib generation status errorCode errorMeaning)
    rcases onResult_eq lib rt generation status errorCode errorMeaning with
      ⟨_, hNext⟩ | ⟨_, state, meaning, failed, detail, _, hNext⟩
    · rw [hNext]
      exact ⟨rfl, id, fun _ => id⟩
    · rw [hNext]
      exact ⟨rfl, nofun, nofun⟩
  | onCancelResponse generation goalsCanceling =>
    obtain ⟨detail, hNext⟩ := rt.onCancelResponse_eq generation goalsCanceling
    refine Or.inl ⟨?_, fun _ => nofun⟩
    change SameFlight rt (rt.onCancelResponse generation goalsCanceling).1
    rw [hNext]
    exact ⟨rfl, id, fun _ => id⟩
  | observeRobotPose robotPose =>
    obtain ⟨pose, hNext⟩ := rt.observeRobotPose_eq robotPose
    refine Or.inl ⟨?_, fun _ => nofun⟩
    change SameFlight rt (rt.observeRobotPose robotPose)
    rw [hNext]
    exact ⟨rfl, id, fun _ => id⟩

/-- The generation never decreases, and grows with every new action. -/
theorem actionGeneration_step (lib : NavLibrary) (rt : MissionRuntime) (call : MissionCall) :
    rt.actionGeneration ≤ (rt.step lib call).actionGeneration := by
  rcases flight_step lib rt call with ⟨hFlight, _⟩ | ⟨_, mission, hNext⟩
  · exact hFlight.generation.ge
  · rw [hNext]
    change rt.actionGeneration ≤ rt.actionGeneration + 1
    omega

/-! ## Runs -/

section

variable (lib : NavLibrary) (init : MissionRuntime)

/-- The generations of the goals sent along a run, latest first. -/
def sentGenerations : List MissionCall → List Int
  | [] => []
  | call :: past =>
    ((after (step lib) init past).commands lib call).filterMap Command.sentGeneration? ++
      sentGenerations past

/-- At some call of the run the goal of this generation was in flight, and its cancellation was
asked for. -/
def CancelAsked (generation : Int) (past : List MissionCall) : Prop :=
  Once (along (step lib) init fun rt call =>
    rt.inflight = true ∧ rt.actionGeneration = generation ∧ rt.requestsCancel call = true) past

end

/-- A call sends no goal, or one under the next generation. -/
theorem sentGeneration_step (lib : NavLibrary) (rt : MissionRuntime) (call : MissionCall) :
    (rt.commands lib call).filterMap Command.sentGeneration? = [] ∨
      ((rt.commands lib call).filterMap Command.sentGeneration? = [rt.actionGeneration + 1] ∧
        (rt.step lib call).actionGeneration = rt.actionGeneration + 1) := by
  by_cases hCall : call = .dispatch
  · cases hCall
    have hCase := dispatch_case lib rt
    change List.filterMap _ (rt.dispatch lib).2 = [] ∨
      (List.filterMap _ (rt.dispatch lib).2 = _ ∧ (rt.dispatch lib).1.actionGeneration = _)
    generalize rt.dispatch lib = out at hCase
    cases hCase with
    | rejected => exact Or.inl rfl
    | sent =>
      refine Or.inr ⟨?_, rfl⟩
      cases rt.residualCleared <;> rfl
  · refine Or.inl (List.filterMap_eq_nil_iff.mpr fun command hMem => ?_)
    cases command with
    | sendGoal generation mission => exact absurd hMem (sendGoal_notMem_commands hCall _ _)
    | _ => rfl

/-- What the history of a runtime says about its present flight. -/
structure Flown (lib : NavLibrary) (init : MissionRuntime) (past : List MissionCall)
    (rt : MissionRuntime) : Prop where
  wellFormed : WellFormed rt
  sent_le : ∀ generation ∈ sentGenerations lib init past, generation ≤ rt.actionGeneration
  decreasing : (sentGenerations lib init past).Pairwise (· > ·)
  asked_le : ∀ generation, CancelAsked lib init generation past → generation ≤ rt.actionGeneration
  requested : CancelAsked lib init rt.actionGeneration past → rt.inflight = true →
    rt.cancelRequested = true

theorem Flown.step {lib : NavLibrary} {init : MissionRuntime} {past : List MissionCall}
    {call : MissionCall} (h : Flown lib init past (after (step lib) init past)) :
    Flown lib init (call :: past) (after (step lib) init (call :: past)) := by
  have hGrow := actionGeneration_step lib (after (MissionRuntime.step lib) init past) call
  have hSent := sentGeneration_step lib (after (MissionRuntime.step lib) init past) call
  have hFlight := flight_step lib (after (MissionRuntime.step lib) init past) call
  have hWell := h.wellFormed.step lib call
  rw [after_cons]
  refine ⟨hWell, ?_, ?_, ?_, ?_⟩
  · intro generation hMem
    rw [sentGenerations] at hMem
    rcases hSent with hSent | ⟨hSent, hNext⟩
    · rw [hSent, List.nil_append] at hMem
      exact (h.sent_le _ hMem).trans hGrow
    · rw [hSent, List.singleton_append, List.mem_cons] at hMem
      rcases hMem with rfl | hMem
      · exact hNext.ge
      · exact (h.sent_le _ hMem).trans hGrow
  · rw [sentGenerations]
    rcases hSent with hSent | ⟨hSent, _⟩
    · rw [hSent, List.nil_append]
      exact h.decreasing
    · rw [hSent, List.singleton_append, List.pairwise_cons]
      exact ⟨fun generation hMem => Int.lt_add_one_of_le (h.sent_le _ hMem), h.decreasing⟩
  · rintro generation (⟨_, hEq, _⟩ | ⟨_, hAsked⟩)
    · exact hEq ▸ hGrow
    · exact (h.asked_le _ hAsked).trans hGrow
  · intro hAsked hInflight
    rcases hFlight with ⟨hSame, hRequest⟩ | ⟨hIdle, mission, hNext⟩
    · rcases hAsked with ⟨hIn, _, hCall⟩ | ⟨_, hAsked⟩
      · exact hRequest hIn hCall
      · rw [hSame.generation] at hAsked
        exact hSame.requested hInflight (h.requested hAsked (hSame.inflight hInflight))
    · -- a new action has a generation nobody has asked to cancel yet
      exfalso
      rw [hNext] at hAsked
      rcases hAsked with ⟨hIn, _⟩ | ⟨_, hAsked⟩
      · rw [hIdle] at hIn
        cases hIn
      · have hLe := h.asked_le _ hAsked
        change (after (MissionRuntime.step lib) init past).actionGeneration + 1 ≤ _ at hLe
        omega

theorem flown_after (lib : NavLibrary) (bootId : String) (past : List MissionCall) :
    Flown lib { bootId } past (after (step lib) { bootId } past) := by
  induction past with
  | nil => exact ⟨.init bootId, nofun, List.Pairwise.nil, fun _ h => h.elim, fun h => h.elim⟩
  | cons call past ih => exact ih.step

/-- The acceptance of an action in flight whose cancellation was requested is answered with a
cancel. -/
theorem onGoalResponse_requested {rt : MissionRuntime} {generation : Int} (goalUuid : String)
    (hCurrent : rt.isCurrent generation = true) (hCancel : rt.cancelRequested = true) :
    (rt.onGoalResponse generation true goalUuid).2 = [.cancelActiveGoal generation] ∧
      (rt.onGoalResponse generation true goalUuid).1.state = .canceling := by
  simp only [isCurrent, Bool.and_eq_true, decide_eq_true_eq] at hCurrent
  unfold onGoalResponse
  rw [if_neg (by simp [hCurrent.1, hCurrent.2]), if_neg (by simp)]
  dsimp only
  rw [if_pos hCancel]
  exact ⟨rfl, rfl⟩

theorem onGoalResponse_stale {rt : MissionRuntime} {generation : Int} (accepted : Bool)
    (goalUuid : String) (hStale : rt.isCurrent generation = false) :
    rt.onGoalResponse generation accepted goalUuid = (rt, []) := by
  unfold onGoalResponse
  refine if_pos ?_
  simpa only [isCurrent, Bool.and_eq_false_iff, decide_eq_false_iff_not] using hStale

/-- The lifecycle of the missions of a runtime, after any run. -/
structure Lifecycle (lib : NavLibrary) (init : MissionRuntime) (past : List MissionCall)
    (rt : MissionRuntime) : Prop where
  inflight : rt.inflight = true ↔
    rt.state = .dispatching ∨ rt.state = .active ∨ rt.state = .canceling
  /-- Latest first, the sent generations decrease. -/
  generations : (sentGenerations lib init past).Pairwise (· > ·)
  /-- A goal is sent only with nothing in flight, in AUTONOMY, for the current epoch and map. -/
  sends : ∀ call generation mission, Command.sendGoal generation mission ∈ rt.commands lib call →
    rt.inflight = false ∧ rt.Bound mission
  valid : rt.missionValid = true → ∃ mission, rt.Bound mission
  /-- The acceptance of a goal still in flight whose cancellation was asked for cancels it. -/
  accepted : ∀ generation goalUuid, CancelAsked lib init generation past →
    rt.isCurrent generation = true →
    (rt.onGoalResponse generation true goalUuid).2 = [.cancelActiveGoal generation]
  neverActive : ∀ generation goalUuid, CancelAsked lib init generation past →
    rt.actionGeneration = generation →
    (rt.onGoalResponse generation true goalUuid).1.state ≠ .active

theorem WellFormed.inflight_iff {rt : MissionRuntime} (h : WellFormed rt) :
    rt.inflight = true ↔
      rt.state = .dispatching ∨ rt.state = .active ∨ rt.state = .canceling := by
  rw [h.inflight]
  cases rt.state <;> simp [MissionState.inProgress]

/-- Every run of a fresh runtime keeps the mission lifecycle. `Flown` is kept by every call of the
runtime (`flown_after`), and each clause is read off one of its fields. -/
theorem lifecycle_after (lib : NavLibrary) (bootId : String) (past : List MissionCall) :
    Lifecycle lib { bootId } past (after (step lib) { bootId } past) := by
  have hFlown := flown_after lib bootId past
  generalize after (step lib) { bootId } past = rt at hFlown
  refine ⟨hFlown.wellFormed.inflight_iff, hFlown.decreasing, ?_, hFlown.wellFormed.bound, ?_, ?_⟩
  · intro call generation mission hSend
    obtain ⟨hIdle, hValid, hStored, -⟩ := commands_sendGoal hSend
    obtain ⟨mission', hBound⟩ := hFlown.wellFormed.bound hValid
    obtain rfl : mission' = mission := Option.some.inj (hBound.stored.symm.trans hStored)
    exact ⟨hIdle, hBound⟩
  · intro generation goalUuid hAsked hCurrent
    have hNow : generation = rt.actionGeneration ∧ rt.inflight = true := by
      simpa only [isCurrent, Bool.and_eq_true, decide_eq_true_eq] using hCurrent
    exact (onGoalResponse_requested goalUuid hCurrent
      (hFlown.requested (hNow.1 ▸ hAsked) hNow.2)).1
  · rintro generation goalUuid hAsked rfl
    cases hInflight : rt.inflight with
    | true =>
      have hCurrent : rt.isCurrent rt.actionGeneration = true := by simp [isCurrent, hInflight]
      rw [(onGoalResponse_requested goalUuid hCurrent (hFlown.requested hAsked hInflight)).2]
      exact nofun
    | false =>
      rw [onGoalResponse_stale true goalUuid (by simp [isCurrent, hInflight])]
      intro hActive
      rw [hFlown.wellFormed.inflight, hActive] at hInflight
      cases hInflight

/-- A library whose geometry makes all postures equal. -/
def plainLibrary : NavLibrary where
  hypot _ _ := 0
  atan2 _ _ := 0
  sin _ := 0
  cos _ := 1
  radians degrees := degrees * 314159 / 18000000
  strip text := text
  nav2ErrorNames code := if code = 0 then some "NONE" else none

/-- A goal is selected, dispatched, canceled before its acceptance, and ends; latest call
first. -/
def canceledRun : List MissionCall :=
  [.onResult 1 statusCanceled 0 "", .cancel "", .dispatch,
    .select ⟨"m1", 1, 1, "map", 0, [⟨"map", List.replicate 3 (.finite 0),
      [.finite 0, .finite 0, .finite 0, .finite 1]⟩]⟩,
    .observeRuntime 1 "map" true]

/-- The acceptance that arrives after the result of its generation is dropped without a
cancel. -/
theorem acceptance_after_result_dropped :
    Once (along (step plainLibrary) { bootId := "b" } fun rt call =>
        rt.inflight = true ∧ rt.actionGeneration = 1 ∧ rt.goalUuid = "" ∧
          rt.requestsCancel call = true) canceledRun ∧
      (after (step plainLibrary) { bootId := "b" } canceledRun).actionGeneration = 1 ∧
      ((after (step plainLibrary) { bootId := "b" } canceledRun).onGoalResponse 1 true "g").2 ≠
        [.cancelActiveGoal 1] := by
  decide +kernel

end MissionRuntime

end PreRunner.Bringup
