import Mathlib.Data.List.Nodup
import PreRunner.Bringup.NavigationNode

/-!
# Goals tracked by the navigation node

`Tracked` ties the futures and the handle of a node to the callbacks it registered and to the
goals at the action servers. Every open goal is the one whose response the node awaits or whose
handle it holds, under the current generation; so there is at most one, and the mission runtime
has it in flight (`goalSafety_after`). The runtime of a node is a `MissionRuntime` run
(`runtime_step`), which carries the cancellations asked for over to the node.
-/

namespace PreRunner.Bringup

open Runs

/-! ## The action clients -/

namespace ActionClients

variable {clients : ActionClients}

/-- Futures are numbered as they are made, and goals have different futures. -/
structure Numbered (clients : ActionClients) : Prop where
  callbacks : ∀ future callback, clients.callback? future = some callback →
    future < clients.nextFuture
  goals : ∀ sent ∈ clients.goals, sent.future < clients.nextFuture
  distinct : (clients.goals.map SentGoal.future).Nodup

theorem callback?_register_self (callback : DoneCallback) :
    (clients.register callback).callback? clients.nextFuture = some callback := by
  simp [callback?, register]

theorem callback?_register {callback : DoneCallback} {future : Future}
    (h : future ≠ clients.nextFuture) :
    (clients.register callback).callback? future = clients.callback? future := by
  simp [callback?, register, h.symm]

theorem callback?_done_self (future : Future) : (clients.done future).callback? future = none := by
  simp [callback?, done]

theorem callback?_done {future other : Future} (h : other ≠ future) :
    (clients.done future).callback? other = clients.callback? other := by
  unfold callback? done
  rw [List.find?_filter]
  congr 2
  funext entry
  by_cases hOther : entry.1 = other
  · simp [hOther, h]
  · simp [hOther]

theorem goal?_eq_some {sent : SentGoal} {future : Future} (h : clients.goal? future = some sent) :
    sent ∈ clients.goals ∧ sent.future = future :=
  ⟨List.mem_of_find?_eq_some h, by simpa using List.find?_some h⟩

namespace Numbered

theorem eq_of_future (h : clients.Numbered) {sent other : SentGoal} (hSent : sent ∈ clients.goals)
    (hOther : other ∈ clients.goals) (hFuture : sent.future = other.future) : sent = other :=
  List.inj_on_of_nodup_map h.distinct hSent hOther hFuture

theorem register (h : clients.Numbered) (callback : DoneCallback) :
    (clients.register callback).Numbered := by
  refine ⟨fun future found hFound => ?_, fun sent hSent => Nat.lt_succ_of_lt (h.goals sent hSent),
    h.distinct⟩
  by_cases hSelf : future = clients.nextFuture
  · exact hSelf ▸ Nat.lt_succ_self _
  · rw [callback?_register hSelf] at hFound
    exact Nat.lt_succ_of_lt (h.callbacks future found hFound)

theorem sendGoal (h : clients.Numbered) (generation : Int) (mission : Mission) :
    (clients.sendGoal generation mission).Numbered := by
  have hRegister := h.register (.goalResponse generation)
  refine ⟨hRegister.callbacks, fun sent hSent => ?_,
    List.nodup_cons.mpr ⟨fun hMem => ?_, h.distinct⟩⟩
  · rcases List.mem_cons.mp hSent with rfl | hSent
    · exact Nat.lt_succ_self _
    · exact hRegister.goals sent hSent
  · obtain ⟨sent, hSent, hFuture⟩ := List.mem_map.mp hMem
    exact (h.goals sent hSent).ne hFuture

theorem done (h : clients.Numbered) (future : Future) : (clients.done future).Numbered := by
  refine ⟨fun other found hFound => ?_, h.goals, h.distinct⟩
  by_cases hSelf : other = future
  · rw [hSelf, callback?_done_self] at hFound
    cases hFound
  · rw [callback?_done hSelf] at hFound
    exact h.callbacks other found hFound

end Numbered

/-- The servers only move goals forward: the goals stay, and none opens again. -/
structure Forward (clients next : ActionClients) : Prop where
  nextFuture : next.nextFuture = clients.nextFuture
  callbacks : next.callbacks = clients.callbacks
  cancelCalls : next.cancelCalls = clients.cancelCalls
  goals : ∃ move : SentGoal → SentGoal, next.goals = clients.goals.map move ∧
    ∀ sent, (move sent).future = sent.future ∧ (move sent).generation = sent.generation ∧
      ((move sent).stage.isOpen = true → sent.stage.isOpen = true)

theorem forward_decide (goal : Future) (accepted : Bool) :
    Forward clients (clients.decide goal accepted) := by
  refine ⟨rfl, rfl, rfl, _, rfl, fun sent => ?_⟩
  split
  · rename_i h
    exact ⟨rfl, rfl, fun _ => by rw [h.2]; rfl⟩
  · exact ⟨rfl, rfl, id⟩

theorem forward_finish (goal : Future) : Forward clients (clients.finish goal) := by
  refine ⟨rfl, rfl, rfl, _, rfl, fun sent => ?_⟩
  split
  · rename_i h
    exact ⟨rfl, rfl, fun _ => by rw [h.2]; rfl⟩
  · exact ⟨rfl, rfl, id⟩

theorem Forward.callback? {next : ActionClients} (h : Forward clients next) (future : Future) :
    next.callback? future = clients.callback? future := by
  unfold ActionClients.callback?
  rw [h.callbacks]

theorem Forward.numbered {next : ActionClients} (h : Forward clients next)
    (hNumbered : clients.Numbered) : next.Numbered := by
  obtain ⟨move, hGoals, hMove⟩ := h.goals
  refine ⟨fun future found hFound => ?_, fun sent hSent => ?_, ?_⟩
  · rw [h.callback?] at hFound
    exact h.nextFuture ▸ hNumbered.callbacks future found hFound
  · rw [hGoals] at hSent
    obtain ⟨old, hOld, rfl⟩ := List.mem_map.mp hSent
    rw [h.nextFuture, (hMove old).1]
    exact hNumbered.goals old hOld
  · have hFutures : next.goals.map SentGoal.future = clients.goals.map SentGoal.future := by
      rw [hGoals, List.map_map]
      exact List.map_congr_left fun sent _ => (hMove sent).1
    rw [hFutures]
    exact hNumbered.distinct

/-- Later calls of the node: nothing is lost and no goal is sent. -/
structure Extends (clients next : ActionClients) : Prop where
  numbered : clients.Numbered → next.Numbered
  goals : next.goals = clients.goals
  callbacks : clients.Numbered → ∀ future callback, clients.callback? future = some callback →
    next.callback? future = some callback
  responses : ∀ future generation, next.callback? future = some (.goalResponse generation) →
    clients.callback? future = some (.goalResponse generation)
  cancelCalls : clients.cancelCalls ⊆ next.cancelCalls

theorem Extends.refl (clients : ActionClients) : Extends clients clients :=
  ⟨id, rfl, fun _ _ _ => id, fun _ _ => id, List.Subset.refl _⟩

theorem Extends.trans {mid next : ActionClients} (h : Extends clients mid)
    (h' : Extends mid next) : Extends clients next :=
  ⟨fun hNumbered => h'.numbered (h.numbered hNumbered), h'.goals.trans h.goals,
    fun hNumbered future callback hFound => h'.callbacks (h.numbered hNumbered) future callback
      (h.callbacks hNumbered future callback hFound),
    fun future generation hFound => h.responses future generation
      (h'.responses future generation hFound),
    List.Subset.trans h.cancelCalls h'.cancelCalls⟩

theorem extends_register {callback : DoneCallback}
    (hKind : ∀ generation, callback ≠ .goalResponse generation) :
    Extends clients (clients.register callback) := by
  refine ⟨fun hNumbered => hNumbered.register callback, rfl,
    fun hNumbered future found hFound => ?_,
    fun future generation hFound => ?_, List.Subset.refl _⟩
  · rw [callback?_register (hNumbered.callbacks future found hFound).ne]
    exact hFound
  · by_cases hSelf : future = clients.nextFuture
    · rw [hSelf, callback?_register_self] at hFound
      exact absurd (Option.some.inj hFound) (hKind generation)
    · rwa [callback?_register hSelf] at hFound

theorem extends_cancelCall (clients : ActionClients) (call : CancelCall) :
    Extends clients { clients with cancelCalls := call :: clients.cancelCalls } :=
  ⟨fun h => ⟨h.callbacks, h.goals, h.distinct⟩, rfl, fun _ _ _ => id, fun _ _ => id,
    List.subset_cons_self _ _⟩

theorem extends_residualCancels (names : List String) :
    Extends clients { clients with residualCancels := names } :=
  ⟨fun h => ⟨h.callbacks, h.goals, h.distinct⟩, rfl, fun _ _ _ => id, fun _ _ => id,
    List.Subset.refl _⟩

end ActionClients

/-! ## The runtime of a node -/

/-- The calls of the subscriptions that carry out commands. -/
def MissionCall.isSubscribed : MissionCall → Bool
  | .observeRuntime .. | .select _ | .dispatch | .cancel _ => true
  | _ => false

theorem NavigationRequest.isSubscribed_call? {message : NavigationRequest} {call : MissionCall}
    (h : message.call? = some call) : call.isSubscribed = true := by
  unfold call? at h
  split at h
  · cases h
    rfl
  split at h
  · cases h
    rfl
  split at h
  · cases h
    rfl
  · cases h

namespace MissionRuntime

/-- The second runtime is reached from the first by some calls. -/
def Evolves (lib : NavLibrary) (rt next : MissionRuntime) : Prop :=
  ∃ calls, next = after (step lib) rt calls

variable {lib : NavLibrary} {rt mid next : MissionRuntime}

theorem Evolves.refl (lib : NavLibrary) (rt : MissionRuntime) : Evolves lib rt rt := ⟨[], rfl⟩

theorem Evolves.step (call : MissionCall) : Evolves lib rt (rt.step lib call) := ⟨[call], rfl⟩

theorem Evolves.trans (h : Evolves lib rt mid) (h' : Evolves lib mid next) :
    Evolves lib rt next := by
  obtain ⟨calls, rfl⟩ := h
  obtain ⟨later, rfl⟩ := h'
  exact ⟨later ++ calls, (after_append _ _ _ _).symm⟩

/-- With an action in flight a subscription keeps it in flight, under its generation and with
its goal; it cancels the goal if it asks for that. -/
structure KeepsFlight (rt next : MissionRuntime) (asked : List Command) : Prop where
  inflight : next.inflight = true
  generation : next.actionGeneration = rt.actionGeneration
  goalUuid : next.goalUuid = rt.goalUuid
  commands : asked = [] ∨ asked = [.cancelActiveGoal rt.actionGeneration]
  cancel : next.cancelRequested = true → rt.cancelRequested = true ∨ rt.goalUuid = "" ∨
    asked = [.cancelActiveGoal rt.actionGeneration]

theorem KeepsFlight.same (h : rt.inflight = true) (hIn : next.inflight = rt.inflight)
    (hGen : next.actionGeneration = rt.actionGeneration) (hUuid : next.goalUuid = rt.goalUuid)
    (hCancel : next.cancelRequested = rt.cancelRequested) : KeepsFlight rt next [] :=
  ⟨hIn.trans h, hGen, hUuid, Or.inl rfl, fun hNext => Or.inl (hCancel ▸ hNext)⟩

theorem KeepsFlight.canceled (hIn : next.inflight = true)
    (hGen : next.actionGeneration = rt.actionGeneration) (hUuid : next.goalUuid = rt.goalUuid) :
    KeepsFlight rt next
      (if rt.goalUuid ≠ "" then [.cancelActiveGoal rt.actionGeneration] else []) := by
  refine ⟨hIn, hGen, hUuid, ?_, fun _ => Or.inr ?_⟩
  · split
    · exact Or.inr rfl
    · exact Or.inl rfl
  · split
    · exact Or.inr rfl
    · rename_i hEmpty
      exact Or.inl (not_not.mp hEmpty)

theorem keepsFlight_observeRuntime (h : rt.inflight = true) (runtimeEpoch : Int) (mapId : String)
    (autonomyOk : Bool) :
    KeepsFlight rt (rt.observeRuntime runtimeEpoch mapId autonomyOk).1
      (rt.observeRuntime runtimeEpoch mapId autonomyOk).2 := by
  have hObserved : (rt.observed runtimeEpoch mapId autonomyOk).inflight = true ∧
      (rt.observed runtimeEpoch mapId autonomyOk).actionGeneration = rt.actionGeneration ∧
      (rt.observed runtimeEpoch mapId autonomyOk).goalUuid = rt.goalUuid ∧
      (rt.observed runtimeEpoch mapId autonomyOk).cancelRequested = rt.cancelRequested := by
    unfold observed
    cases autonomyOk <;> exact ⟨h, rfl, rfl, rfl⟩
  rw [observeRuntime_eq]
  generalize rt.observed runtimeEpoch mapId autonomyOk = seen at hObserved
  obtain ⟨hIn, hGen, hUuid, hCancel⟩ := hObserved
  split
  · rw [invalidate_eq, if_pos hIn, hUuid, hGen]
    exact .canceled hIn rfl rfl
  · exact .same h (hIn.trans h.symm) hGen hUuid hCancel

theorem keepsFlight_select (h : rt.inflight = true) (request : SelectRequest) :
    KeepsFlight rt (rt.select request).1 (rt.select request).2 := by
  cases hRejection : rt.selectRejection request with
  | some reason =>
    unfold select
    rw [hRejection]
    exact .same h rfl rfl rfl rfl
  | none =>
    rw [select_eq hRejection]
    simp only [h, true_and]
    exact .canceled rfl rfl rfl

theorem keepsFlight_dispatch (h : rt.inflight = true) :
    KeepsFlight rt (rt.dispatch lib).1 (rt.dispatch lib).2 := by
  have hCase := dispatch_case lib rt
  generalize rt.dispatch lib = out at hCase
  cases hCase with
  | rejected next hSame =>
    obtain ⟨hIn, _, hCancel, hUuid, hGen, _⟩ := hSame
    exact .same h hIn hGen hUuid hCancel
  | sent mission hIdle =>
    rw [h] at hIdle
    cases hIdle

theorem keepsFlight_cancel (h : rt.inflight = true) (reason : String) :
    KeepsFlight rt (rt.cancel reason).1 (rt.cancel reason).2 := by
  unfold cancel
  rw [if_pos h]
  exact .canceled h rfl rfl

theorem keepsFlight_perform (lib : NavLibrary) (h : rt.inflight = true) {call : MissionCall}
    (hCall : call.isSubscribed = true) :
    KeepsFlight rt (rt.perform lib call).1 (rt.perform lib call).2 := by
  cases call with
  | observeRuntime runtimeEpoch mapId autonomyOk => exact keepsFlight_observeRuntime h _ _ _
  | select request => exact keepsFlight_select h request
  | dispatch => exact keepsFlight_dispatch h
  | cancel reason => exact keepsFlight_cancel h reason
  | _ => cases hCall

/-- The action of the runtime is the same. -/
structure SameGoal (rt next : MissionRuntime) : Prop where
  inflight : next.inflight = rt.inflight
  generation : next.actionGeneration = rt.actionGeneration
  goalUuid : next.goalUuid = rt.goalUuid

theorem SameGoal.refl (rt : MissionRuntime) : SameGoal rt rt := ⟨rfl, rfl, rfl⟩

theorem isCurrent_iff {rt : MissionRuntime} {generation : Int} :
    rt.isCurrent generation = true ↔ generation = rt.actionGeneration ∧ rt.inflight = true := by
  simp only [isCurrent, Bool.and_eq_true, decide_eq_true_eq]

/-- An acceptance of the live action names its goal and keeps it in flight. -/
theorem onGoalResponse_accepted {rt : MissionRuntime} {generation : Int}
    (hCurrent : rt.isCurrent generation = true) (goalUuid : String) :
    (rt.onGoalResponse generation true goalUuid).1.inflight = true ∧
      (rt.onGoalResponse generation true goalUuid).1.actionGeneration = rt.actionGeneration ∧
      (rt.onGoalResponse generation true goalUuid).1.goalUuid = goalUuid ∧
      (rt.onGoalResponse generation true goalUuid).1.cancelRequested = rt.cancelRequested := by
  rw [isCurrent_iff] at hCurrent
  unfold onGoalResponse
  rw [if_neg (by simp [hCurrent.1, hCurrent.2]), if_neg (by simp)]
  dsimp only
  split <;> exact ⟨hCurrent.2, rfl, rfl, rfl⟩

theorem sameGoal_onFeedback (rt : MissionRuntime) (generation : Int) :
    SameGoal rt (rt.onFeedback generation) := by
  obtain ⟨state, status, hNext, -⟩ := rt.onFeedback_eq generation
  rw [hNext]
  exact ⟨rfl, rfl, rfl⟩

theorem sameGoal_onCancelResponse (rt : MissionRuntime) (generation : Int)
    (goalsCanceling : Bool) : SameGoal rt (rt.onCancelResponse generation goalsCanceling).1 := by
  obtain ⟨detail, hNext⟩ := rt.onCancelResponse_eq generation goalsCanceling
  rw [hNext]
  exact ⟨rfl, rfl, rfl⟩

theorem sameGoal_observeRobotPose (rt : MissionRuntime) (robotPose : MissionPose) :
    SameGoal rt (rt.observeRobotPose robotPose) := by
  obtain ⟨pose, hNext⟩ := rt.observeRobotPose_eq robotPose
  rw [hNext]
  exact ⟨rfl, rfl, rfl⟩

end MissionRuntime

namespace NavigationRuntimeNode

variable {lib : NavLibrary} {env : Surroundings} {node next : NavigationRuntimeNode}

/-! ## What a node tracks -/

/-- The futures and the handle of a node are those of the live action, and every open goal is
tracked. -/
structure Tracked (node : NavigationRuntimeNode) : Prop where
  numbered : node.clients.Numbered
  response : ∀ future generation,
    node.clients.callback? future = some (.goalResponse generation) →
    node.sendFuture = some future
  send : ∀ future, node.sendFuture = some future →
    node.clients.callback? future = some (.goalResponse node.runtime.actionGeneration) ∧
      node.goalHandle = none ∧ node.runtime.inflight = true
  handle : ∀ handle, node.goalHandle = some handle →
    node.runtime.inflight = true ∧ node.runtime.goalUuid = handle.goalId.hex
  result : ∀ future, node.resultFuture = some future → ∃ handle, node.goalHandle = some handle ∧
    node.clients.callback? future = some (.result handle.goal node.runtime.actionGeneration)
  cancel : ∀ future, node.cancelFuture = some future → ∃ handle, node.goalHandle = some handle ∧
    node.clients.callback? future = some (.cancel handle.goal node.runtime.actionGeneration) ∧
    ∃ call ∈ node.clients.cancelCalls, call.goal = handle.goal
  opened : ∀ sent ∈ node.clients.goals, sent.stage.isOpen = true →
    sent.generation = node.runtime.actionGeneration ∧
      (node.sendFuture = some sent.future ∨
        ∃ handle, node.goalHandle = some handle ∧ handle.goal = sent.future)

namespace Tracked

theorem start (bootId : String) : Tracked (start bootId) where
  numbered := ⟨nofun, nofun, List.nodup_nil⟩
  response := nofun
  send := nofun
  handle := nofun
  result := nofun
  cancel := nofun
  opened := nofun

theorem idle (h : Tracked node) (hIdle : node.runtime.inflight = false) :
    node.goalHandle = none ∧ node.sendFuture = none := by
  constructor
  · cases hHandle : node.goalHandle with
    | none => rfl
    | some handle =>
      have hIn := (h.handle handle hHandle).1
      rw [hIdle] at hIn
      cases hIn
  · cases hSend : node.sendFuture with
    | none => rfl
    | some future =>
      have hIn := (h.send future hSend).2.2
      rw [hIdle] at hIn
      cases hIn

theorem resultFuture_none (h : Tracked node) (hHandle : node.goalHandle = none) :
    node.resultFuture = none := by
  cases hResult : node.resultFuture with
  | none => rfl
  | some future =>
    obtain ⟨handle, hSome, -⟩ := h.result future hResult
    rw [hHandle] at hSome
    cases hSome

theorem cancelFuture_none (h : Tracked node) (hHandle : node.goalHandle = none) :
    node.cancelFuture = none := by
  cases hCancel : node.cancelFuture with
  | none => rfl
  | some future =>
    obtain ⟨handle, hSome, -⟩ := h.cancel future hCancel
    rw [hHandle] at hSome
    cases hSome

/-- A step that sends nothing and keeps the handle: the runtime keeps its action, or nothing was
tracked; a new result or cancel future belongs to the handle. -/
theorem of_frame (h : Tracked node) (next : NavigationRuntimeNode)
    (hClients : node.clients.Extends next.clients)
    (hSend : next.sendFuture = node.sendFuture) (hHandle : next.goalHandle = node.goalHandle)
    (hRuntime : (node.goalHandle = none ∧ node.sendFuture = none) ∨
      node.runtime.SameGoal next.runtime)
    (hResult : ∀ future, next.resultFuture = some future → node.resultFuture = some future ∨
      ∃ handle, node.goalHandle = some handle ∧ next.clients.callback? future =
        some (.result handle.goal node.runtime.actionGeneration))
    (hCancel : ∀ future, next.cancelFuture = some future → node.cancelFuture = some future ∨
      ∃ handle, node.goalHandle = some handle ∧ next.clients.callback? future =
        some (.cancel handle.goal node.runtime.actionGeneration) ∧
        ∃ call ∈ next.clients.cancelCalls, call.goal = handle.goal) : Tracked next := by
  have hResponse : ∀ future generation,
      next.clients.callback? future = some (.goalResponse generation) →
      next.sendFuture = some future := fun future generation hFound =>
    hSend.trans (h.response future generation (hClients.responses future generation hFound))
  rcases hRuntime with ⟨hNone, hNoSend⟩ | hSame
  · have hNoOpen : ∀ sent ∈ next.clients.goals, sent.stage.isOpen ≠ true := by
      intro sent hSent hOpen
      rcases (h.opened sent (hClients.goals ▸ hSent) hOpen).2 with hOld | ⟨handle, hOld, -⟩
      · rw [hNoSend] at hOld
        cases hOld
      · rw [hNone] at hOld
        cases hOld
    refine ⟨hClients.numbered h.numbered, hResponse, ?_, ?_, ?_, ?_, fun sent hSent hOpen =>
      absurd hOpen (hNoOpen sent hSent)⟩
    · intro future hNew
      rw [hSend, hNoSend] at hNew
      cases hNew
    · intro handle hNew
      rw [hHandle, hNone] at hNew
      cases hNew
    · intro future hNew
      rcases hResult future hNew with hOld | ⟨handle, hOld, -⟩
      · rw [h.resultFuture_none hNone] at hOld
        cases hOld
      · rw [hNone] at hOld
        cases hOld
    · intro future hNew
      rcases hCancel future hNew with hOld | ⟨handle, hOld, -⟩
      · rw [h.cancelFuture_none hNone] at hOld
        cases hOld
      · rw [hNone] at hOld
        cases hOld
  · obtain ⟨hIn, hGen, hUuid⟩ := hSame
    refine ⟨hClients.numbered h.numbered, hResponse, ?_, ?_, ?_, ?_, ?_⟩
    · intro future hNew
      rw [hSend] at hNew
      obtain ⟨hCallback, hNone, hFlight⟩ := h.send future hNew
      rw [hGen, hHandle, hIn]
      exact ⟨hClients.callbacks h.numbered _ _ hCallback, hNone, hFlight⟩
    · intro handle hNew
      rw [hHandle] at hNew
      rw [hIn, hUuid]
      exact h.handle handle hNew
    · intro future hNew
      rw [hGen, hHandle]
      rcases hResult future hNew with hOld | hFresh
      · obtain ⟨handle, hSome, hCallback⟩ := h.result future hOld
        exact ⟨handle, hSome, hClients.callbacks h.numbered _ _ hCallback⟩
      · exact hFresh
    · intro future hNew
      rw [hGen, hHandle]
      rcases hCancel future hNew with hOld | hFresh
      · obtain ⟨handle, hSome, hCallback, call, hCall, hGoal⟩ := h.cancel future hOld
        exact ⟨handle, hSome, hClients.callbacks h.numbered _ _ hCallback, call,
          hClients.cancelCalls hCall, hGoal⟩
      · exact hFresh
    · intro sent hSent hOpen
      rw [hGen, hSend, hHandle]
      exact h.opened sent (hClients.goals ▸ hSent) hOpen

/-- Fields that no future or handle is read from. -/
theorem of_fields (h : Tracked node) (next : NavigationRuntimeNode)
    (hClients : next.clients = node.clients)
    (hSend : next.sendFuture = node.sendFuture) (hHandle : next.goalHandle = node.goalHandle)
    (hResult : next.resultFuture = node.resultFuture)
    (hCancel : next.cancelFuture = node.cancelFuture)
    (hRuntime : (node.goalHandle = none ∧ node.sendFuture = none) ∨
      node.runtime.SameGoal next.runtime) : Tracked next :=
  h.of_frame next (hClients ▸ .refl _) hSend hHandle hRuntime
    (fun _ hNew => Or.inl (hResult ▸ hNew)) (fun _ hNew => Or.inl (hCancel ▸ hNew))

theorem resolveUndeliveredCancel (h : Tracked node) (lib : NavLibrary) :
    Tracked (node.resolveUndeliveredCancel lib) := by
  unfold NavigationRuntimeNode.resolveUndeliveredCancel
  split
  · rename_i hUndelivered
    obtain ⟨_, _, _, hSend, hHandle, _⟩ := hUndelivered
    exact h.of_fields _ rfl rfl rfl rfl rfl (Or.inl ⟨hHandle, hSend⟩)
  · exact h

theorem pumpSend (h : Tracked node) (env : Surroundings) : Tracked (node.pumpSend env) := by
  unfold NavigationRuntimeNode.pumpSend
  split
  · exact h.of_fields _ rfl rfl rfl rfl rfl (Or.inr (.refl _))
  rename_i generation mission _
  split
  · exact h.of_fields _ rfl rfl rfl rfl rfl (Or.inr (.refl _))
  rename_i hCurrent
  split
  · exact h.of_fields _ rfl rfl rfl rfl rfl (Or.inr (.refl _))
  split
  · exact h
  rename_i hFree
  rw [not_or, not_not, not_not] at hFree
  split
  · exact h
  split
  · exact h.of_fields _ rfl rfl rfl rfl rfl (Or.inl hFree)
  -- the goal is sent: nothing else is open
  have hNow := MissionRuntime.isCurrent_iff.mp (Bool.not_eq_false _ ▸ hCurrent)
  refine ⟨h.numbered.sendGoal generation mission, ?_, ?_, ?_, ?_, ?_, ?_⟩
  · intro future other hFound
    by_cases hSelf : future = node.clients.nextFuture
    · rw [hSelf]
    · have hOld := h.response future other
        ((ActionClients.callback?_register hSelf).symm.trans hFound)
      rw [hFree.2] at hOld
      cases hOld
  · rintro future ⟨⟩
    exact ⟨(ActionClients.callback?_register_self _).trans (by rw [hNow.1]), hFree.1, hNow.2⟩
  · intro handle hHandle
    rw [hFree.1] at hHandle
    cases hHandle
  · intro future hResult
    rw [h.resultFuture_none hFree.1] at hResult
    cases hResult
  · intro future hCancel
    rw [h.cancelFuture_none hFree.1] at hCancel
    cases hCancel
  · intro sent hSent hOpen
    rcases List.mem_cons.mp hSent with rfl | hSent
    · exact ⟨hNow.1, Or.inl rfl⟩
    · rcases (h.opened sent hSent hOpen).2 with hOld | ⟨handle, hOld, -⟩
      · rw [hFree.2] at hOld
        cases hOld
      · rw [hFree.1] at hOld
        cases hOld

theorem pumpCancel (h : Tracked node) (env : Surroundings) : Tracked (node.pumpCancel env) := by
  unfold NavigationRuntimeNode.pumpCancel
  split
  · exact h
  rename_i handle hHandle
  split
  · exact h
  split
  · exact h
  split
  · exact h
  have hCall := ActionClients.extends_cancelCall node.clients
    ⟨handle.goal, env.cancelRaises⟩
  dsimp only
  split
  · exact h.of_frame _ hCall rfl rfl (Or.inr (.refl _)) (fun _ => Or.inl) (fun _ => Or.inl)
  · refine h.of_frame _ (hCall.trans (ActionClients.extends_register nofun)) rfl rfl
      (Or.inr (.refl _)) (fun _ => Or.inl) ?_
    rintro future ⟨⟩
    exact Or.inr ⟨handle, hHandle, ActionClients.callback?_register_self _, _,
      List.mem_cons_self, rfl⟩

theorem requestResult (h : Tracked node) (env : Surroundings) :
    Tracked (node.requestResult env node.runtime.actionGeneration) := by
  unfold NavigationRuntimeNode.requestResult
  split
  · exact h
  rename_i handle hHandle
  split
  · exact h.of_fields _ rfl rfl rfl rfl rfl (Or.inr (.refl _))
  · refine h.of_frame _ (ActionClients.extends_register nofun) rfl rfl (Or.inr (.refl _)) ?_
      (fun _ => Or.inl)
    rintro future ⟨⟩
    exact Or.inr ⟨handle, hHandle, ActionClients.callback?_register_self _⟩

theorem runCommand (h : Tracked node) (env : Surroundings) (command : Command) :
    Tracked (node.runCommand env command) := by
  cases command with
  | sendGoal generation mission =>
    exact (h.of_fields { node with pendingSend := some (generation, mission) }
      rfl rfl rfl rfl rfl (Or.inr (.refl _))).pumpSend env
  | cancelActiveGoal generation =>
    exact (h.of_fields { node with cancelAttempts := 0, nextCancelAt := 0 }
      rfl rfl rfl rfl rfl (Or.inr (.refl _))).pumpCancel env
  | cancelResidualGoals =>
    exact h.of_frame _ (ActionClients.extends_residualCancels _) rfl rfl (Or.inr (.refl _))
      (fun _ => Or.inl) (fun _ => Or.inl)

theorem runCommands (h : Tracked node) (lib : NavLibrary) (env : Surroundings)
    (commands : List Command) : Tracked (node.runCommands lib env commands) := by
  have hRun : Tracked (commands.foldl (NavigationRuntimeNode.runCommand env) node) := by
    induction commands generalizing node with
    | nil => exact h
    | cons command commands ih => exact ih (h.runCommand env command)
  unfold NavigationRuntimeNode.runCommands
  dsimp only
  split
  · exact (hRun.of_fields { commands.foldl _ node with pendingSend := none }
      rfl rfl rfl rfl rfl (Or.inr (.refl _))).resolveUndeliveredCancel lib
  · exact hRun

theorem subscribed (h : Tracked node) (lib : NavLibrary) (env : Surroundings)
    {call : MissionCall} (hCall : call.isSubscribed = true) :
    Tracked (node.handle lib env call) := by
  have hNext : Tracked { node with runtime := (node.runtime.perform lib call).1 } := by
    refine h.of_fields _ rfl rfl rfl rfl rfl ?_
    cases hFlight : node.runtime.inflight with
    | false => exact Or.inl (h.idle hFlight)
    | true =>
      have hKeeps := MissionRuntime.keepsFlight_perform lib hFlight hCall
      exact Or.inr ⟨hKeeps.inflight.trans hFlight.symm, hKeeps.generation, hKeeps.goalUuid⟩
  exact hNext.runCommands lib env _

theorem tick (h : Tracked node) (lib : NavLibrary) (env : Surroundings) :
    Tracked (node.tick lib env) := by
  unfold NavigationRuntimeNode.tick
  have hSent : Tracked (if node.pendingSend ≠ none then node.pumpSend env else node) := by
    split
    · exact h.pumpSend env
    · exact h
  generalize (if node.pendingSend ≠ none then node.pumpSend env else node) = mid at hSent
  dsimp only
  have hCanceled : Tracked (if mid.runtime.state = .canceling then
      (mid.pumpCancel env).resolveUndeliveredCancel lib else mid) := by
    split
    · exact (hSent.pumpCancel env).resolveUndeliveredCancel lib
    · exact hSent
  generalize (if mid.runtime.state = .canceling then
    (mid.pumpCancel env).resolveUndeliveredCancel lib else mid) = next at hCanceled
  split
  · exact hCanceled.requestResult env
  · exact hCanceled

/-! ### Responses -/

theorem forward (h : Tracked node) {clients : ActionClients}
    (hForward : node.clients.Forward clients) : Tracked { node with clients := clients } := by
  obtain ⟨move, hGoals, hMove⟩ := hForward.goals
  refine ⟨hForward.numbered h.numbered, ?_, ?_, h.handle, ?_, ?_, ?_⟩
  · intro future generation hFound
    rw [hForward.callback?] at hFound
    exact h.response future generation hFound
  · intro future hSend
    rw [hForward.callback?]
    exact h.send future hSend
  · intro future hResult
    rw [hForward.callback?]
    exact h.result future hResult
  · intro future hCancel
    rw [hForward.callback?, hForward.cancelCalls]
    exact h.cancel future hCancel
  · intro sent hSent hOpen
    change sent ∈ clients.goals at hSent
    rw [hGoals] at hSent
    obtain ⟨old, hOld, rfl⟩ := List.mem_map.mp hSent
    obtain ⟨hFuture, hGeneration, hWas⟩ := hMove old
    rw [hFuture, hGeneration]
    exact h.opened old hOld (hWas hOpen)

/-- A callback that is not tracked runs without effect on what is. -/
theorem done (h : Tracked node) {future : Future} (hSend : node.sendFuture ≠ some future)
    (hResult : node.resultFuture ≠ some future) (hCancel : node.cancelFuture ≠ some future) :
    Tracked { node with clients := node.clients.done future } := by
  have hKept : ∀ {other : Option Future} {found : Future}, other ≠ some future →
      other = some found →
      (node.clients.done future).callback? found = node.clients.callback? found := by
    rintro _ found hNe rfl
    exact ActionClients.callback?_done fun hEq => hNe (by rw [hEq])
  refine ⟨h.numbered.done future, ?_, ?_, h.handle, ?_, ?_, h.opened⟩
  · intro other generation hFound
    by_cases hSelf : other = future
    · rw [hSelf, ActionClients.callback?_done_self] at hFound
      cases hFound
    · rw [ActionClients.callback?_done hSelf] at hFound
      exact h.response other generation hFound
  · intro other hOther
    rw [hKept hSend hOther]
    exact h.send other hOther
  · intro other hOther
    rw [hKept hResult hOther]
    exact h.result other hOther
  · intro other hOther
    rw [hKept hCancel hOther]
    exact h.cancel other hOther

theorem sendFuture_ne (h : Tracked node) {future : Future} {callback : DoneCallback}
    (hFound : node.clients.callback? future = some callback)
    (hKind : ∀ generation, callback ≠ .goalResponse generation) :
    node.sendFuture ≠ some future := by
  intro hSend
  rw [(h.send future hSend).1] at hFound
  exact hKind _ (Option.some.inj hFound).symm

theorem resultFuture_ne (h : Tracked node) {future : Future} {callback : DoneCallback}
    (hFound : node.clients.callback? future = some callback)
    (hKind : ∀ goal generation, callback ≠ .result goal generation) :
    node.resultFuture ≠ some future := by
  intro hResult
  obtain ⟨handle, -, hCallback⟩ := h.result future hResult
  rw [hCallback] at hFound
  exact hKind _ _ (Option.some.inj hFound).symm

theorem cancelFuture_ne (h : Tracked node) {future : Future} {callback : DoneCallback}
    (hFound : node.clients.callback? future = some callback)
    (hKind : ∀ goal generation, callback ≠ .cancel goal generation) :
    node.cancelFuture ≠ some future := by
  intro hCancel
  obtain ⟨handle, -, hCallback, -⟩ := h.cancel future hCancel
  rw [hCallback] at hFound
  exact hKind _ _ (Option.some.inj hFound).symm

/-- The response that is awaited arrives: its goal is the only one that can be open. -/
theorem responded (h : Tracked node) {future : Future} (hSend : node.sendFuture = some future)
    {sent : SentGoal} (hGoal : node.clients.goal? future = some sent) {other : SentGoal}
    (hOther : other ∈ node.clients.goals) (hOpen : other.stage.isOpen = true) :
    other = sent ∧ sent.generation = node.runtime.actionGeneration := by
  obtain ⟨hGeneration, hTracked⟩ := h.opened other hOther hOpen
  obtain ⟨hMem, hFuture⟩ := ActionClients.goal?_eq_some hGoal
  rcases hTracked with hSame | ⟨handle, hHandle, -⟩
  · have hEq : other = sent := h.numbered.eq_of_future hOther hMem
      (hFuture.trans (Option.some.inj (hSend.symm.trans hSame))).symm
    exact ⟨hEq, hEq ▸ hGeneration⟩
  · rw [(h.send future hSend).2.1] at hHandle
    cases hHandle

/-- No response is left to wait for. -/
theorem no_response (h : Tracked node) {future : Future} (hSend : node.sendFuture = some future)
    (other : Future) (generation : Int) :
    (node.clients.done future).callback? other ≠ some (.goalResponse generation) := by
  intro hFound
  by_cases hSelf : other = future
  · rw [hSelf, ActionClients.callback?_done_self] at hFound
    cases hFound
  · rw [ActionClients.callback?_done hSelf] at hFound
    have hOld := h.response other generation hFound
    exact hSelf (Option.some.inj (hOld.symm.trans hSend))

/-- After a refusal nothing is tracked and nothing is open. -/
theorem refused (h : Tracked node) {future : Future} (hSend : node.sendFuture = some future)
    {sent : SentGoal} (hGoal : node.clients.goal? future = some sent)
    (hStage : sent.stage.isOpen = false) (runtime : MissionRuntime) :
    Tracked { node with
      clients := node.clients.done future
      sendFuture := none
      runtime := runtime } := by
  have hNone := (h.send future hSend).2.1
  refine ⟨h.numbered.done future, fun other generation hFound =>
    absurd hFound (h.no_response hSend other generation), nofun, ?_, ?_, ?_, ?_⟩
  · intro handle hHandle
    rw [hNone] at hHandle
    cases hHandle
  · intro other hResult
    rw [h.resultFuture_none hNone] at hResult
    cases hResult
  · intro other hCancel
    rw [h.cancelFuture_none hNone] at hCancel
    cases hCancel
  · intro other hOther hOpen
    rw [(h.responded hSend hGoal hOther hOpen).1, hStage] at hOpen
    cases hOpen

/-- After an acceptance the handle is that of the goal that was sent. -/
theorem accepted (h : Tracked node) {future : Future} (hSend : node.sendFuture = some future)
    {sent : SentGoal} (hGoal : node.clients.goal? future = some sent) (goalId : Uuid)
    {runtime : MissionRuntime} (hIn : runtime.inflight = true)
    (hGen : runtime.actionGeneration = node.runtime.actionGeneration)
    (hUuid : runtime.goalUuid = goalId.hex) :
    Tracked { node with
      clients := node.clients.done future
      sendFuture := none
      runtime := runtime
      goalHandle := some ⟨future, goalId⟩ } := by
  have hNone := (h.send future hSend).2.1
  refine ⟨h.numbered.done future, fun other generation hFound =>
    absurd hFound (h.no_response hSend other generation), nofun, ?_, ?_, ?_, ?_⟩
  · rintro handle ⟨⟩
    exact ⟨hIn, hUuid⟩
  · intro other hResult
    rw [h.resultFuture_none hNone] at hResult
    cases hResult
  · intro other hCancel
    rw [h.cancelFuture_none hNone] at hCancel
    cases hCancel
  · intro other hOther hOpen
    obtain ⟨rfl, hGeneration⟩ := h.responded hSend hGoal hOther hOpen
    exact ⟨hGeneration.trans hGen.symm,
      Or.inr ⟨_, rfl, (ActionClients.goal?_eq_some hGoal).2.symm⟩⟩

theorem askResult (h : Tracked node) (env : Surroundings) (generation : Int) :
    Tracked (if node.goalHandle ≠ none ∧ node.resultFuture = none ∧
      node.runtime.isCurrent generation = true then node.requestResult env generation
      else node) := by
  split
  · rename_i hAsk
    rw [(MissionRuntime.isCurrent_iff.mp hAsk.2.2).1]
    exact h.requestResult env
  · exact h

theorem goalResponded (h : Tracked node) (lib : NavLibrary) (env : Surroundings)
    {future : Future} {generation : Int} {sent : SentGoal} {failed : Bool} {goalId : Uuid}
    {outcome : GoalOutcome}
    (hFound : node.clients.callback? future = some (.goalResponse generation))
    (hGoal : node.clients.goal? future = some sent)
    (hOutcome : goalOutcome sent failed goalId = some outcome) :
    Tracked ({ node with clients := node.clients.done future }.goalResponseCallback lib env outcome
      generation future) := by
  have hSend := h.response future generation hFound
  obtain ⟨hCallback, -, hIn⟩ := h.send future hSend
  have hNow : generation = node.runtime.actionGeneration := by
    rw [hCallback] at hFound
    exact (DoneCallback.goalResponse.inj (Option.some.inj hFound)).symm
  unfold goalResponseCallback
  rw [if_neg (not_not.mpr hSend)]
  unfold goalOutcome at hOutcome
  split at hOutcome
  · cases hOutcome
  · rename_i hStage
    have hClosed : sent.stage.isOpen = false := by rw [hStage]; rfl
    split at hOutcome <;> cases hOutcome
    · exact h.refused hSend hGoal hClosed _
    · exact ((h.refused hSend hGoal hClosed _).runCommands lib env _).askResult env generation
  all_goals
    cases hOutcome
    have hCurrent := MissionRuntime.isCurrent_iff.mpr ⟨hNow, hIn⟩
    obtain ⟨hNextIn, hGen, hUuid, -⟩ :=
      MissionRuntime.onGoalResponse_accepted hCurrent goalId.hex
    have hStill : (node.runtime.onGoalResponse generation true goalId.hex).1.isCurrent generation =
        true := MissionRuntime.isCurrent_iff.mpr ⟨hNow.trans hGen.symm, hNextIn⟩
    have hAccepted := h.accepted hSend hGoal goalId hNextIn hGen hUuid
    dsimp only
    rw [if_pos hStill, (ActionClients.goal?_eq_some hGoal).2]
    exact (hAccepted.runCommands lib env _).askResult env generation

/-- The goal of the handle has ended and everything tracked is dropped. -/
theorem cleared (h : Tracked node) {future : Future} {handle : GoalHandle}
    (hHandle : node.goalHandle = some handle)
    (hEnded : ∀ sent ∈ node.clients.goals, sent.future = handle.goal → sent.stage.isOpen = false)
    (hClients : next.clients = node.clients.done future) : Tracked next.clearActionFutures := by
  have hNoSend : node.sendFuture = none := by
    cases hSend : node.sendFuture with
    | none => rfl
    | some other =>
      rw [(h.send other hSend).2.1] at hHandle
      cases hHandle
  refine ⟨hClients ▸ h.numbered.done future, fun other generation hOther => ?_, nofun, nofun, nofun,
    nofun, fun sent hSent hOpen => ?_⟩
  · change next.clients.callback? other = _ at hOther
    rw [hClients] at hOther
    by_cases hSelf : other = future
    · rw [hSelf, ActionClients.callback?_done_self] at hOther
      cases hOther
    · rw [ActionClients.callback?_done hSelf] at hOther
      rw [h.response other generation hOther] at hNoSend
      cases hNoSend
  · change sent ∈ next.clients.goals at hSent
    rw [hClients] at hSent
    rcases (h.opened sent hSent hOpen).2 with hSend | ⟨tracked, hTracked, hFuture⟩
    · rw [hNoSend] at hSend
      cases hSend
    · obtain rfl : handle = tracked := Option.some.inj (hHandle.symm.trans hTracked)
      rw [hEnded sent hSent hFuture.symm] at hOpen
      cases hOpen

theorem resultResponded (h : Tracked node) (lib : NavLibrary) (env : Surroundings)
    {future goal : Future} {generation : Int} {response : Option ResultResponse}
    (hFound : node.clients.callback? future = some (.result goal generation))
    (hEnded : response = none ∨
      (node.clients.goal? goal).map SentGoal.stage = some .terminal) :
    Tracked ({ node with clients := node.clients.done future }.resultCallback lib env response
      generation future) := by
  have hSend := h.sendFuture_ne hFound nofun
  have hCancel := h.cancelFuture_ne hFound nofun
  unfold resultCallback
  by_cases hResult : node.resultFuture = some future
  · rw [if_neg (not_not.mpr hResult)]
    have hCleared : Tracked { node with
        clients := node.clients.done future
        resultFuture := none } :=
      (h.of_frame { node with resultFuture := none } (.refl _) rfl rfl
        (Or.inr (.refl _)) nofun (fun _ => Or.inl)).done hSend nofun hCancel
    cases response with
    | none =>
      dsimp only
      split
      · exact hCleared.of_fields _ rfl rfl rfl rfl rfl (Or.inr (.refl _))
      · exact hCleared
    | some response =>
      obtain ⟨handle, hHandle, hCallback⟩ := h.result future hResult
      have hGoal : goal = handle.goal := by
        rw [hCallback] at hFound
        exact (DoneCallback.result.inj (Option.some.inj hFound)).1.symm
      have hStage : (node.clients.goal? goal).map SentGoal.stage = some .terminal := by
        rcases hEnded with hEnded | hEnded
        · cases hEnded
        · exact hEnded
      obtain ⟨ended, hEndedGoal, hTerminal⟩ := Option.map_eq_some_iff.mp hStage
      obtain ⟨hEndedMem, hEndedFuture⟩ := ActionClients.goal?_eq_some hEndedGoal
      refine h.cleared hHandle (fun sent hSent hFuture => ?_) (by dsimp only; split <;> rfl)
      rw [h.numbered.eq_of_future hSent hEndedMem
        (hFuture.trans (hGoal.symm.trans hEndedFuture.symm)),
        hTerminal]
      rfl
  · rw [if_pos hResult]
    exact h.done hSend hResult hCancel

theorem cancelResponded (h : Tracked node) (env : Surroundings) {future goal : Future}
    {generation : Int} (goalsCanceling : Option Bool)
    (hFound : node.clients.callback? future = some (.cancel goal generation)) :
    Tracked ({ node with clients := node.clients.done future }.cancelCallback env goalsCanceling
      generation future) := by
  have hSend := h.sendFuture_ne hFound nofun
  have hResult := h.resultFuture_ne hFound nofun
  unfold cancelCallback
  by_cases hCancel : node.cancelFuture = some future
  · rw [if_neg (not_not.mpr hCancel)]
    have hCleared : Tracked { node with
        clients := node.clients.done future
        cancelFuture := none } :=
      (h.of_frame { node with cancelFuture := none } (.refl _) rfl rfl
        (Or.inr (.refl _)) (fun _ => Or.inl) nofun).done hSend hResult nofun
    cases goalsCanceling with
    | none => exact hCleared.of_fields _ rfl rfl rfl rfl rfl (Or.inr (.refl _))
    | some goalsCanceling =>
      have hSame := node.runtime.sameGoal_onCancelResponse generation goalsCanceling
      dsimp only
      split <;> exact hCleared.of_fields _ rfl rfl rfl rfl rfl (Or.inr hSame)
  · rw [if_pos hCancel]
    exact h.done hSend hResult hCancel

/-- Every event keeps what a node tracks. -/
theorem step (h : Tracked node) (lib : NavLibrary) (input : NodeEvent × Surroundings) :
    Tracked (node.step lib input) := by
  obtain ⟨event, env⟩ := input
  cases event with
  | modeState message =>
    have hCall : (MissionCall.observeRuntime message.runtimeEpoch message.activeAutonomyMap
      (decide (message.mode = ModeState.modeAutonomy ∧
        message.status = ModeState.statusStable))).isSubscribed = true := rfl
    exact h.subscribed lib env hCall
  | request message =>
    change Tracked (node.onRequest lib env message)
    unfold onRequest
    split
    · exact h
    · rename_i call hCall
      exact h.subscribed lib env (NavigationRequest.isSubscribed_call? hCall)
  | odometry pose =>
    exact h.of_fields _ rfl rfl rfl rfl rfl (Or.inr (node.runtime.sameGoal_observeRobotPose pose))
  | tick => exact h.tick lib env
  | feedback goal =>
    dsimp only [NavigationRuntimeNode.step]
    split
    · rename_i sent _
      exact h.of_fields _ rfl rfl rfl rfl rfl
        (Or.inr (node.runtime.sameGoal_onFeedback sent.generation))
    · exact h
  | decided goal accepted => exact h.forward (ActionClients.forward_decide goal accepted)
  | finished goal => exact h.forward (ActionClients.forward_finish goal)
  | goalResponded future failed goalId =>
    dsimp only [NavigationRuntimeNode.step]
    split
    · rename_i generation sent hFound hGoal
      split
      · rename_i outcome hOutcome
        exact h.goalResponded lib env hFound hGoal hOutcome
      · exact h
    · exact h
  | resultResponded future response =>
    dsimp only [NavigationRuntimeNode.step]
    split
    · rename_i goal generation hFound
      split
      · rename_i hEnded
        exact h.resultResponded lib env hFound hEnded
      · exact h
    · exact h
  | cancelResponded future goalsCanceling =>
    dsimp only [NavigationRuntimeNode.step]
    split
    · rename_i goal generation hFound
      exact h.cancelResponded env goalsCanceling hFound
    · exact h

end Tracked

end NavigationRuntimeNode

end PreRunner.Bringup
