import PreRunner.Bringup.GoalTracking

/-!
# Safety of the navigation node

The mission runtime of a node moves only by calls of `MissionRuntime` (`runtime_step`), so what
holds of its runs holds in the node: a cancellation asked for while a goal is in flight stays
requested for as long as that goal is in flight. The node then issues it on the handle as soon as
it holds one (`CancelIssued`). Together with `Tracked` this gives `goalSafety_after`.
-/

namespace PreRunner.Bringup

open Runs

/-- The generation a done callback captured. -/
def DoneCallback.generation : DoneCallback → Int
  | goalResponse generation | result _ generation | cancel _ generation => generation

namespace NavigationRuntimeNode

open MissionRuntime

variable {lib : NavLibrary} {env : Surroundings} {node : NavigationRuntimeNode}

/-! ## The runtime moves by its calls -/

theorem pumpCancel_runtime : (node.pumpCancel env).runtime = node.runtime := by
  unfold pumpCancel
  split
  · rfl
  split
  · rfl
  split
  · rfl
  split
  · rfl
  dsimp only
  split <;> rfl

theorem requestResult_runtime (generation : Int) :
    (node.requestResult env generation).runtime = node.runtime := by
  unfold requestResult
  split
  · rfl
  split <;> rfl

theorem resolveUndeliveredCancel_evolves :
    Evolves lib node.runtime (node.resolveUndeliveredCancel lib).runtime := by
  unfold resolveUndeliveredCancel
  split
  · exact .step (.onResult _ _ _ _)
  · exact .refl lib _

theorem pumpSend_evolves : Evolves lib node.runtime (node.pumpSend env).runtime := by
  unfold pumpSend
  split
  · exact .refl lib _
  split
  · exact .refl lib _
  split
  · exact .refl lib _
  split
  · exact .refl lib _
  split
  · exact .refl lib _
  split
  · exact .step (.onGoalResponse _ _ _)
  · exact .refl lib _

theorem runCommand_evolves (command : Command) :
    Evolves lib node.runtime (node.runCommand env command).runtime := by
  cases command with
  | sendGoal generation mission => exact pumpSend_evolves
  | cancelActiveGoal generation =>
    change Evolves lib _ (pumpCancel env _).runtime
    rw [pumpCancel_runtime]
    exact .refl lib _
  | cancelResidualGoals => exact .refl lib _

theorem runCommands_evolves (commands : List Command) :
    Evolves lib node.runtime (node.runCommands lib env commands).runtime := by
  have hRun : Evolves lib node.runtime (commands.foldl (runCommand env) node).runtime := by
    induction commands generalizing node with
    | nil => exact .refl lib _
    | cons command commands ih => exact (runCommand_evolves command).trans ih
  unfold runCommands
  dsimp only
  split
  · exact hRun.trans resolveUndeliveredCancel_evolves
  · exact hRun

theorem askResult_evolves {condition : Prop} [Decidable condition] (generation : Int) :
    Evolves lib node.runtime
      (if condition then node.requestResult env generation else node).runtime := by
  split
  · rw [requestResult_runtime]
    exact .refl lib _
  · exact .refl lib _

theorem goalResponseCallback_evolves (outcome : GoalOutcome) (generation : Int)
    (expected : Future) :
    Evolves lib node.runtime
      (node.goalResponseCallback lib env outcome generation expected).runtime := by
  unfold goalResponseCallback
  split
  · exact .refl lib _
  cases outcome with
  | failed => exact .step (.onGoalResponse generation false "")
  | refused =>
    exact ((Evolves.step (.onGoalResponse generation false "")).trans
      (runCommands_evolves _)).trans (askResult_evolves generation)
  | accepted handle =>
    exact ((Evolves.step (.onGoalResponse generation true handle.goalId.hex)).trans
      (runCommands_evolves _)).trans (askResult_evolves generation)

theorem resultCallback_evolves (response : Option ResultResponse) (generation : Int)
    (expected : Future) :
    Evolves lib node.runtime
      (node.resultCallback lib env response generation expected).runtime := by
  unfold resultCallback
  split
  · exact .refl lib _
  cases response with
  | none =>
    dsimp only
    split <;> exact .refl lib _
  | some response =>
    dsimp only
    split <;> exact .step (.onResult generation _ _ _)

theorem cancelCallback_evolves (goalsCanceling : Option Bool) (generation : Int)
    (expected : Future) :
    Evolves lib node.runtime
      (node.cancelCallback env goalsCanceling generation expected).runtime := by
  unfold cancelCallback
  split
  · exact .refl lib _
  cases goalsCanceling with
  | none => exact .refl lib _
  | some goalsCanceling =>
    dsimp only
    split <;> exact .step (.onCancelResponse generation goalsCanceling)

theorem tick_evolves : Evolves lib node.runtime (node.tick lib env).runtime := by
  unfold tick
  dsimp only
  have hSent : Evolves lib node.runtime
      (if node.pendingSend ≠ none then node.pumpSend env else node).runtime := by
    split
    · exact pumpSend_evolves
    · exact .refl lib _
  generalize (if node.pendingSend ≠ none then node.pumpSend env else node) = mid at hSent
  refine hSent.trans (Evolves.trans ?_ (askResult_evolves _))
  split
  · have hPump : Evolves lib mid.runtime (mid.pumpCancel env).runtime := by
      rw [pumpCancel_runtime]
      exact .refl lib _
    exact hPump.trans resolveUndeliveredCancel_evolves
  · exact .refl lib _

/-- The call of the mission runtime that a subscription with commands makes. -/
def NodeEvent.call? : NodeEvent → Option MissionCall
  | modeState message => some (.observeRuntime message.runtimeEpoch message.activeAutonomyMap
      (decide (message.mode = ModeState.modeAutonomy ∧ message.status = ModeState.statusStable)))
  | request message => message.call?
  | _ => none

theorem NodeEvent.isSubscribed_call? {event : NodeEvent} {call : MissionCall}
    (h : event.call? = some call) : call.isSubscribed = true := by
  cases event with
  | modeState message =>
    cases h
    rfl
  | request message => exact NavigationRequest.isSubscribed_call? h
  | _ => cases h

theorem step_of_call {event : NodeEvent} {call : MissionCall} (h : event.call? = some call) :
    node.step lib (event, env) = node.handle lib env call := by
  cases event with
  | modeState message =>
    cases h
    rfl
  | request message =>
    change node.onRequest lib env message = _
    unfold onRequest
    rw [show message.call? = some call from h]
  | _ => cases h

/-- One event makes calls of the mission runtime, the first of them the call of the event. -/
theorem runtime_step (lib : NavLibrary) (node : NavigationRuntimeNode)
    (input : NodeEvent × Surroundings) :
    ∃ calls, (node.step lib input).runtime = after (MissionRuntime.step lib) node.runtime calls ∧
      ∀ call, input.1.call? = some call → ∃ later, calls = later ++ [call] := by
  obtain ⟨event, env⟩ := input
  cases hCall : event.call? with
  | some call =>
    have hRun : Evolves lib (node.runtime.step lib call) (node.handle lib env call).runtime :=
      runCommands_evolves _
    obtain ⟨later, hLater⟩ := hRun
    refine ⟨later ++ [call], ?_, ?_⟩
    · rw [step_of_call hCall, after_append]
      exact hLater
    · rintro other ⟨⟩
      exact ⟨later, rfl⟩
  | none =>
    suffices h : Evolves lib node.runtime (node.step lib (event, env)).runtime by
      obtain ⟨calls, hCalls⟩ := h
      exact ⟨calls, hCalls, nofun⟩
    cases event with
    | modeState message => cases hCall
    | request message =>
      change Evolves lib _ (node.onRequest lib env message).runtime
      unfold onRequest
      rw [show message.call? = none from hCall]
      exact .refl lib _
    | odometry pose => exact .step (.observeRobotPose pose)
    | tick => exact tick_evolves
    | feedback goal =>
      dsimp only [step]
      split
      · exact .step (.onFeedback _)
      · exact .refl lib _
    | decided goal accepted => exact .refl lib _
    | finished goal => exact .refl lib _
    | goalResponded future failed goalId =>
      dsimp only [step]
      split
      · split
        · exact goalResponseCallback_evolves _ _ _
        · exact .refl lib _
      · exact .refl lib _
    | resultResponded future response =>
      dsimp only [step]
      split
      · split
        · exact resultCallback_evolves response _ _
        · exact .refl lib _
      · exact .refl lib _
    | cancelResponded future goalsCanceling =>
      dsimp only [step]
      split
      · exact cancelCallback_evolves goalsCanceling _ _
      · exact .refl lib _

/-! ## Cancellations are issued -/

/-- The goal whose handle is held has been asked to cancel, if its cancellation is requested. -/
def CancelIssued (node : NavigationRuntimeNode) : Prop :=
  ∀ handle, node.goalHandle = some handle → node.runtime.cancelRequested = true →
    ∃ call ∈ node.clients.cancelCalls, call.goal = handle.goal

theorem CancelIssued.of_none (h : node.goalHandle = none) : CancelIssued node := by
  intro handle hHandle
  rw [h] at hHandle
  cases hHandle

theorem CancelIssued.of_same {next : NavigationRuntimeNode} (h : CancelIssued node)
    (hHandle : next.goalHandle = node.goalHandle)
    (hCancel : next.runtime.cancelRequested = true → node.runtime.cancelRequested = true)
    (hCalls : node.clients.cancelCalls ⊆ next.clients.cancelCalls) : CancelIssued next := by
  intro handle hNext hRequested
  obtain ⟨call, hCall, hGoal⟩ := h handle (hHandle ▸ hNext) (hCancel hRequested)
  exact ⟨call, hCalls hCall, hGoal⟩

theorem resolveUndeliveredCancel_eq (lib : NavLibrary) (node : NavigationRuntimeNode) :
    node.resolveUndeliveredCancel lib = node ∨
      (node.goalHandle = none ∧ ∃ runtime,
        node.resolveUndeliveredCancel lib = { node with runtime := runtime }) := by
  unfold resolveUndeliveredCancel
  split
  · rename_i h
    exact Or.inr ⟨h.2.2.2.2.1, _, rfl⟩
  · exact Or.inl rfl

theorem CancelIssued.resolveUndeliveredCancel (h : CancelIssued node) :
    CancelIssued (node.resolveUndeliveredCancel lib) := by
  rcases node.resolveUndeliveredCancel_eq lib with
    hSame | ⟨hNone, runtime, hNext⟩
  · rw [hSame]
    exact h
  · rw [hNext]
    exact .of_none hNone

theorem requestResult_eq (env : Surroundings) (node : NavigationRuntimeNode) (generation : Int) :
    (node.requestResult env generation).goalHandle = node.goalHandle ∧
      (node.requestResult env generation).clients.cancelCalls = node.clients.cancelCalls := by
  unfold requestResult
  split
  · exact ⟨rfl, rfl⟩
  split <;> exact ⟨rfl, rfl⟩

theorem CancelIssued.askResult {condition : Prop} [Decidable condition] (h : CancelIssued node)
    (generation : Int) :
    CancelIssued (if condition then node.requestResult env generation else node) := by
  split
  · obtain ⟨hHandle, hCalls⟩ := node.requestResult_eq env generation
    exact h.of_same hHandle (fun hNext => requestResult_runtime generation ▸ hNext)
      (hCalls ▸ List.Subset.refl _)
  · exact h

/-- Sending keeps the handle; the runtime changes only when there is none. -/
theorem pumpSend_eq (env : Surroundings) (node : NavigationRuntimeNode) :
    (node.pumpSend env).goalHandle = node.goalHandle ∧
      (node.pumpSend env).clients.cancelCalls = node.clients.cancelCalls ∧
      (node.goalHandle = none ∨ (node.pumpSend env).runtime = node.runtime) := by
  unfold pumpSend
  split
  · exact ⟨rfl, rfl, Or.inr rfl⟩
  split
  · exact ⟨rfl, rfl, Or.inr rfl⟩
  split
  · exact ⟨rfl, rfl, Or.inr rfl⟩
  split
  · exact ⟨rfl, rfl, Or.inr rfl⟩
  rename_i hFree
  rw [not_or, not_not] at hFree
  split
  · exact ⟨rfl, rfl, Or.inr rfl⟩
  split <;> exact ⟨rfl, rfl, Or.inl hFree.1⟩

theorem pumpCancel_eq (env : Surroundings) (node : NavigationRuntimeNode) :
    (node.pumpCancel env).goalHandle = node.goalHandle ∧
      node.clients.cancelCalls ⊆ (node.pumpCancel env).clients.cancelCalls := by
  unfold pumpCancel
  split
  · exact ⟨rfl, List.Subset.refl _⟩
  split
  · exact ⟨rfl, List.Subset.refl _⟩
  split
  · exact ⟨rfl, List.Subset.refl _⟩
  split
  · exact ⟨rfl, List.Subset.refl _⟩
  dsimp only
  split <;> exact ⟨rfl, List.subset_cons_self _ _⟩

/-- A first attempt is not put off. -/
theorem pumpCancel_calls {handle : GoalHandle} (hHandle : node.goalHandle = some handle)
    (hFuture : node.cancelFuture = none) (hAttempts : node.cancelAttempts = 0)
    (hNow : node.nextCancelAt = 0) :
    ⟨handle.goal, env.cancelRaises⟩ ∈ (node.pumpCancel env).clients.cancelCalls := by
  unfold pumpCancel
  rw [hHandle]
  dsimp only
  rw [if_neg (not_not.mpr hFuture), if_neg (by rw [hAttempts]; decide),
    if_neg (by rw [hNow]; exact not_lt_bot)]
  split <;> exact List.mem_cons_self

theorem CancelIssued.pumpSend (h : CancelIssued node) : CancelIssued (node.pumpSend env) := by
  obtain ⟨hHandle, hCalls, hRuntime⟩ := node.pumpSend_eq env
  rcases hRuntime with hNone | hRuntime
  · exact .of_none (hHandle.trans hNone)
  · exact h.of_same hHandle (fun hNext => hRuntime ▸ hNext) (hCalls ▸ List.Subset.refl _)

theorem CancelIssued.pumpCancel (h : CancelIssued node) : CancelIssued (node.pumpCancel env) := by
  obtain ⟨hHandle, hCalls⟩ := node.pumpCancel_eq env
  exact h.of_same hHandle (fun hNext => pumpCancel_runtime ▸ hNext) hCalls

theorem runCommand_goalHandle (command : Command) :
    (node.runCommand env command).goalHandle = node.goalHandle := by
  cases command with
  | sendGoal generation mission => exact (pumpSend_eq env _).1
  | cancelActiveGoal generation => exact (pumpCancel_eq env _).1
  | cancelResidualGoals => rfl

theorem runCommands_goalHandle (commands : List Command) :
    (node.runCommands lib env commands).goalHandle = node.goalHandle := by
  have hRun : (commands.foldl (runCommand env) node).goalHandle = node.goalHandle := by
    induction commands generalizing node with
    | nil => rfl
    | cons command commands ih => exact ih.trans (runCommand_goalHandle command)
  unfold runCommands
  dsimp only
  split
  · rcases resolveUndeliveredCancel_eq lib
      { commands.foldl (runCommand env) node with pendingSend := none } with
      hSame | ⟨_, runtime, hNext⟩
    · rw [hSame]
      exact hRun
    · rw [hNext]
      exact hRun
  · exact hRun

/-- Running a cancel command reaches the goal of the handle. -/
theorem cancelIssued_runCommands (h : Tracked node) (generation : Int) :
    CancelIssued (node.runCommands lib env [.cancelActiveGoal generation]) := by
  have hPump : CancelIssued (node.runCommand env (.cancelActiveGoal generation)) := by
    intro handle hHandle _
    rw [runCommand_goalHandle] at hHandle
    cases hFuture : node.cancelFuture with
    | none => exact ⟨_, pumpCancel_calls hHandle hFuture rfl rfl, rfl⟩
    | some future =>
      obtain ⟨other, hOther, -, call, hCall, hGoal⟩ := h.cancel future hFuture
      obtain rfl : other = handle := Option.some.inj (hOther.symm.trans hHandle)
      exact ⟨call, (pumpCancel_eq env _).2 hCall, hGoal⟩
  unfold runCommands
  dsimp only [List.foldl]
  split
  · refine CancelIssued.resolveUndeliveredCancel ?_
    exact hPump.of_same rfl id (List.Subset.refl _)
  · exact hPump

theorem runCommands_cancelCalls (lib : NavLibrary) (env : Surroundings) {handle : GoalHandle}
    (hHandle : node.goalHandle = some handle) (hFuture : node.cancelFuture = none)
    (generation : Int) :
    ⟨handle.goal, env.cancelRaises⟩ ∈
      (node.runCommands lib env [.cancelActiveGoal generation]).clients.cancelCalls := by
  have hPump : ⟨handle.goal, env.cancelRaises⟩ ∈
      (node.runCommand env (.cancelActiveGoal generation)).clients.cancelCalls :=
    pumpCancel_calls hHandle hFuture rfl rfl
  unfold runCommands
  dsimp only [List.foldl]
  split
  · rcases resolveUndeliveredCancel_eq lib
      { node.runCommand env (.cancelActiveGoal generation) with pendingSend := none } with
      hSame | ⟨_, runtime, hNext⟩
    · rw [hSame]
      exact hPump
    · rw [hNext]
      exact hPump
  · exact hPump

theorem CancelIssued.runNothing (h : CancelIssued node) :
    CancelIssued (node.runCommands lib env []) := by
  unfold runCommands
  dsimp only [List.foldl]
  split
  · refine CancelIssued.resolveUndeliveredCancel ?_
    exact h.of_same rfl id (List.Subset.refl _)
  · exact h

theorem CancelIssued.subscribed (h : CancelIssued node) (hTracked : Tracked node)
    {call : MissionCall} (hCall : call.isSubscribed = true) :
    CancelIssued (node.handle lib env call) := by
  change CancelIssued ({ node with runtime := (node.runtime.perform lib call).1 }.runCommands lib
    env
    (node.runtime.perform lib call).2)
  cases hFlight : node.runtime.inflight with
  | false => exact .of_none ((runCommands_goalHandle _).trans (hTracked.idle hFlight).1)
  | true =>
    have hKeeps := keepsFlight_perform lib hFlight hCall
    have hNext : Tracked { node with runtime := (node.runtime.perform lib call).1 } :=
      hTracked.of_fields _ rfl rfl rfl rfl rfl
        (Or.inr ⟨hKeeps.inflight.trans hFlight.symm, hKeeps.generation, hKeeps.goalUuid⟩)
    rcases hKeeps.commands with hNone | hCancel
    · rw [hNone]
      refine CancelIssued.runNothing fun handle hHandle hRequested => ?_
      rcases hKeeps.cancel hRequested with hWas | hEmpty | hCancel
      · exact h handle hHandle hWas
      · rw [(hTracked.handle handle hHandle).2] at hEmpty
        exact absurd hEmpty handle.goalId.hex_ne_empty
      · rw [hNone] at hCancel
        cases hCancel
    · rw [hCancel]
      exact cancelIssued_runCommands hNext _

theorem CancelIssued.tick (h : CancelIssued node) : CancelIssued (node.tick lib env) := by
  unfold NavigationRuntimeNode.tick
  dsimp only
  have hSent : CancelIssued (if node.pendingSend ≠ none then node.pumpSend env else node) := by
    split
    · exact h.pumpSend
    · exact h
  generalize (if node.pendingSend ≠ none then node.pumpSend env else node) = mid at hSent
  refine CancelIssued.askResult ?_ _
  split
  · exact hSent.pumpCancel.resolveUndeliveredCancel
  · exact hSent

/-- What `on_goal_response` asks for when it accepts. -/
theorem onGoalResponse_commands {rt : MissionRuntime} {generation : Int}
    (hCurrent : rt.isCurrent generation = true) (hFree : rt.cancelRequested = false)
    (goalUuid : String) : (rt.onGoalResponse generation true goalUuid).2 = [] := by
  rw [isCurrent_iff] at hCurrent
  unfold onGoalResponse
  rw [if_neg (by simp [hCurrent.1, hCurrent.2]), if_neg (by simp)]
  dsimp only
  rw [if_neg (by simp [hFree])]

theorem CancelIssued.goalResponded (hTracked : Tracked node) {future : Future} {generation : Int}
    {sent : SentGoal} {failed : Bool} {goalId : Uuid} {outcome : GoalOutcome}
    (hFound : node.clients.callback? future = some (.goalResponse generation))
    (hGoal : node.clients.goal? future = some sent)
    (hOutcome : goalOutcome sent failed goalId = some outcome) :
    CancelIssued ({ node with clients := node.clients.done future }.goalResponseCallback lib env
      outcome generation future) := by
  have hSend := hTracked.response future generation hFound
  obtain ⟨hCallback, hNone, hIn⟩ := hTracked.send future hSend
  have hNow : generation = node.runtime.actionGeneration := by
    rw [hCallback] at hFound
    exact (DoneCallback.goalResponse.inj (Option.some.inj hFound)).symm
  unfold goalResponseCallback
  rw [if_neg (not_not.mpr hSend)]
  cases outcome with
  | failed => exact .of_none hNone
  | refused =>
    dsimp only
    refine CancelIssued.askResult ?_ _
    exact .of_none ((runCommands_goalHandle _).trans hNone)
  | accepted handle =>
    have hCurrent := isCurrent_iff.mpr ⟨hNow, hIn⟩
    obtain ⟨hNextIn, hGen, hUuid, hCancel⟩ := onGoalResponse_accepted hCurrent handle.goalId.hex
    have hStill := isCurrent_iff.mpr ⟨hNow.trans hGen.symm, hNextIn⟩
    have hEq : handle = ⟨future, goalId⟩ := by
      unfold goalOutcome at hOutcome
      split at hOutcome
      · cases hOutcome
      · split at hOutcome <;> cases hOutcome
      all_goals
        cases hOutcome
        rw [(ActionClients.goal?_eq_some hGoal).2]
    subst hEq
    have hAccepted := hTracked.accepted hSend hGoal goalId hNextIn hGen hUuid
    dsimp only
    rw [if_pos hStill]
    refine CancelIssued.askResult ?_ _
    cases hRequested : node.runtime.cancelRequested with
    | true =>
      rw [(onGoalResponse_requested goalId.hex hCurrent hRequested).1]
      exact cancelIssued_runCommands hAccepted generation
    | false =>
      rw [onGoalResponse_commands hCurrent hRequested]
      refine CancelIssued.runNothing fun _ _ hNext => ?_
      rw [show _ = true from hNext] at hCancel
      rw [hRequested] at hCancel
      cases hCancel

theorem CancelIssued.resultCallback (h : CancelIssued node) (response : Option ResultResponse)
    (generation : Int) (expected : Future) :
    CancelIssued (node.resultCallback lib env response generation expected) := by
  unfold NavigationRuntimeNode.resultCallback
  split
  · exact h
  cases response with
  | none =>
    dsimp only
    split <;> exact h.of_same rfl id (List.Subset.refl _)
  | some response => exact .of_none rfl

theorem CancelIssued.cancelCallback (h : CancelIssued node) (goalsCanceling : Option Bool)
    (generation : Int) (expected : Future) :
    CancelIssued (node.cancelCallback env goalsCanceling generation expected) := by
  unfold NavigationRuntimeNode.cancelCallback
  split
  · exact h
  cases goalsCanceling with
  | none => exact h.of_same rfl id (List.Subset.refl _)
  | some goalsCanceling =>
    obtain ⟨detail, hNext⟩ := node.runtime.onCancelResponse_eq generation goalsCanceling
    have hCancel : (node.runtime.onCancelResponse generation goalsCanceling).1.cancelRequested =
        node.runtime.cancelRequested := by rw [hNext]
    dsimp only
    split <;> exact h.of_same rfl (fun hRequested => hCancel ▸ hRequested) (List.Subset.refl _)

theorem CancelIssued.step (h : CancelIssued node) (hTracked : Tracked node) (lib : NavLibrary)
    (input : NodeEvent × Surroundings) : CancelIssued (node.step lib input) := by
  obtain ⟨event, env⟩ := input
  cases event with
  | modeState message => exact h.subscribed hTracked rfl
  | request message =>
    change CancelIssued (node.onRequest lib env message)
    unfold onRequest
    split
    · exact h
    · rename_i call hCall
      exact h.subscribed hTracked (NavigationRequest.isSubscribed_call? hCall)
  | odometry pose =>
    obtain ⟨kept, hNext⟩ := node.runtime.observeRobotPose_eq pose
    refine h.of_same rfl (fun hRequested => ?_) (List.Subset.refl _)
    change (node.runtime.observeRobotPose pose).cancelRequested = true at hRequested
    rwa [hNext] at hRequested
  | tick => exact h.tick
  | feedback goal =>
    dsimp only [NavigationRuntimeNode.step]
    split
    · rename_i sent _
      obtain ⟨state, status, hNext, -⟩ := node.runtime.onFeedback_eq sent.generation
      refine h.of_same rfl (fun hRequested => ?_) (List.Subset.refl _)
      change (node.runtime.onFeedback sent.generation).cancelRequested = true at hRequested
      rwa [hNext] at hRequested
    · exact h
  | decided goal accepted => exact h.of_same rfl id (List.Subset.refl _)
  | finished goal => exact h.of_same rfl id (List.Subset.refl _)
  | goalResponded future failed goalId =>
    dsimp only [NavigationRuntimeNode.step]
    split
    · rename_i hFound hGoal
      split
      · rename_i hOutcome
        exact .goalResponded hTracked hFound hGoal hOutcome
      · exact h
    · exact h
  | resultResponded future response =>
    have hDone : CancelIssued { node with clients := node.clients.done future } :=
      h.of_same rfl id (List.Subset.refl _)
    dsimp only [NavigationRuntimeNode.step]
    split
    · split
      · exact hDone.resultCallback response _ _
      · exact h
    · exact h
  | cancelResponded future goalsCanceling =>
    have hDone : CancelIssued { node with clients := node.clients.done future } :=
      h.of_same rfl id (List.Subset.refl _)
    dsimp only [NavigationRuntimeNode.step]
    split
    · exact hDone.cancelCallback goalsCanceling _ _
    · exact h

/-- The acceptance of a goal whose cancellation is requested calls `cancel_goal_async` on its
handle. -/
theorem cancelCalls_goalResponded (hTracked : Tracked node) {future : Future} {generation : Int}
    {sent : SentGoal} (failed : Bool) (goalId : Uuid)
    (hFound : node.clients.callback? future = some (.goalResponse generation))
    (hGoal : node.clients.goal? future = some sent)
    (hStage : sent.stage = .executing ∨ sent.stage = .terminal)
    (hRequested : node.runtime.cancelRequested = true) :
    ⟨future, env.cancelRaises⟩ ∈
      (node.step lib (.goalResponded future failed goalId, env)).clients.cancelCalls := by
  have hSend := hTracked.response future generation hFound
  obtain ⟨hCallback, hNone, hIn⟩ := hTracked.send future hSend
  have hNow : generation = node.runtime.actionGeneration := by
    rw [hCallback] at hFound
    exact (DoneCallback.goalResponse.inj (Option.some.inj hFound)).symm
  have hCurrent := isCurrent_iff.mpr ⟨hNow, hIn⟩
  obtain ⟨hNextIn, hGen, -, -⟩ := onGoalResponse_accepted hCurrent goalId.hex
  have hStill := isCurrent_iff.mpr ⟨hNow.trans hGen.symm, hNextIn⟩
  have hOutcome : goalOutcome sent failed goalId = some (.accepted ⟨future, goalId⟩) := by
    unfold goalOutcome
    rcases hStage with hStage | hStage <;>
      rw [hStage, (ActionClients.goal?_eq_some hGoal).2]
  dsimp only [step]
  rw [hFound, hGoal]
  dsimp only
  rw [hOutcome]
  dsimp only
  unfold goalResponseCallback
  rw [if_neg (not_not.mpr hSend)]
  dsimp only
  rw [if_pos hStill, (onGoalResponse_requested goalId.hex hCurrent hRequested).1]
  have hCalls : ∀ mid : NavigationRuntimeNode, mid.goalHandle = some ⟨future, goalId⟩ →
      mid.cancelFuture = none → ⟨future, env.cancelRaises⟩ ∈
        (mid.runCommands lib env [.cancelActiveGoal generation]).clients.cancelCalls :=
    fun mid hHandle hFuture => runCommands_cancelCalls lib env hHandle hFuture generation
  split
  · rw [(requestResult_eq env _ generation).2]
    exact hCalls _ rfl (hTracked.cancelFuture_none hNone)
  · exact hCalls _ rfl (hTracked.cancelFuture_none hNone)

/-! ## Callbacks of older generations -/

/-- The generation of the callback that an event runs. -/
def callbackGeneration? (node : NavigationRuntimeNode) : NodeEvent → Option Int
  | .feedback goal => (node.clients.goal? goal).map SentGoal.generation
  | .goalResponded future _ _ | .resultResponded future _ | .cancelResponded future _ =>
    (node.clients.callback? future).map DoneCallback.generation
  | _ => none

/-- The callback of another generation leaves the node as it is. -/
theorem step_stale (hTracked : Tracked node) (lib : NavLibrary) {input : NodeEvent × Surroundings}
    {generation : Int} (hGeneration : node.callbackGeneration? input.1 = some generation)
    (hStale : generation ≠ node.runtime.actionGeneration) :
    ∃ clients, node.step lib input = { node with clients := clients } := by
  obtain ⟨event, env⟩ := input
  have hNotSend : ∀ future, node.clients.callback? future = some (.goalResponse generation) →
      False := by
    intro future hFound
    obtain ⟨hCallback, -⟩ := hTracked.send future (hTracked.response future generation hFound)
    rw [hCallback] at hFound
    exact hStale (DoneCallback.goalResponse.inj (Option.some.inj hFound)).symm
  cases event with
  | feedback goal =>
    obtain ⟨sent, hSent, hEq⟩ := Option.map_eq_some_iff.mp hGeneration
    refine ⟨node.clients, ?_⟩
    dsimp only [step]
    rw [hSent]
    dsimp only
    rw [show node.runtime.onFeedback sent.generation = node.runtime from
      if_pos (Or.inl (hEq ▸ hStale))]
  | goalResponded future failed goalId =>
    obtain ⟨callback, hFound, hEq⟩ := Option.map_eq_some_iff.mp hGeneration
    refine ⟨node.clients, ?_⟩
    dsimp only [step]
    split
    · rename_i other sent hOther _
      obtain rfl : callback = .goalResponse other := Option.some.inj (hFound.symm.trans hOther)
      cases hEq
      exact (hNotSend future hOther).elim
    · rfl
  | resultResponded future response =>
    obtain ⟨callback, hFound, hEq⟩ := Option.map_eq_some_iff.mp hGeneration
    dsimp only [step]
    split
    · rename_i goal other hOther
      obtain rfl : callback = .result goal other := Option.some.inj (hFound.symm.trans hOther)
      cases hEq
      have hResult : node.resultFuture ≠ some future := by
        intro hResult
        obtain ⟨handle, -, hCallback⟩ := hTracked.result future hResult
        rw [hCallback] at hOther
        exact hStale (DoneCallback.result.inj (Option.some.inj hOther)).2.symm
      split
      · exact ⟨node.clients.done future, if_pos hResult⟩
      · exact ⟨node.clients, rfl⟩
    · exact ⟨node.clients, rfl⟩
  | cancelResponded future goalsCanceling =>
    obtain ⟨callback, hFound, hEq⟩ := Option.map_eq_some_iff.mp hGeneration
    dsimp only [step]
    split
    · rename_i goal other hOther
      obtain rfl : callback = .cancel goal other := Option.some.inj (hFound.symm.trans hOther)
      cases hEq
      have hCancel : node.cancelFuture ≠ some future := by
        intro hCancel
        obtain ⟨handle, -, hCallback, -⟩ := hTracked.cancel future hCancel
        rw [hCallback] at hOther
        exact hStale (DoneCallback.cancel.inj (Option.some.inj hOther)).2.symm
      exact ⟨node.clients.done future, if_pos hCancel⟩
    · exact ⟨node.clients, rfl⟩
  | _ => cases hGeneration

/-! ## Runs -/

section

variable (lib : NavLibrary) (bootId : String)

/-- At some event of the run the goal of this generation was in flight, and its cancellation was
asked for: by a CANCEL, by a SELECT that supersedes it, or by an invalidation. -/
def CancelAsked (generation : Int) (history : List (NodeEvent × Surroundings)) : Prop :=
  Once (along (step lib) (start bootId) fun node input =>
    node.runtime.inflight = true ∧ node.runtime.actionGeneration = generation ∧
      ∃ call, input.1.call? = some call ∧ node.runtime.requestsCancel call = true) history

/-- Every run of a node is a run of its mission runtime, with the same cancellations. -/
theorem runtime_after (history : List (NodeEvent × Surroundings)) :
    ∃ calls, (after (step lib) (start bootId) history).runtime =
        after (MissionRuntime.step lib) { bootId } calls ∧
      ∀ generation, CancelAsked lib bootId generation history →
        MissionRuntime.CancelAsked lib { bootId } generation calls := by
  induction history with
  | nil => exact ⟨[], rfl, nofun⟩
  | cons input history ih =>
    obtain ⟨calls, hRuntime, hAsked⟩ := ih
    obtain ⟨later, hNext, hFirst⟩ :=
      runtime_step lib (after (step lib) (start bootId) history) input
    refine ⟨later ++ calls, ?_, ?_⟩
    · rw [after_cons, hNext, hRuntime, after_append]
    · rintro generation (⟨hIn, hGeneration, call, hCall, hRequests⟩ | ⟨-, hOld⟩)
      · obtain ⟨rest, rfl⟩ := hFirst call hCall
        rw [hRuntime] at hIn hGeneration hRequests
        rw [List.append_assoc]
        exact Once.append rest (.start ⟨hIn, hGeneration, hRequests⟩)
      · exact Once.append later (hAsked generation hOld)

/-- What holds of a node after any run. -/
structure GoalSafety (history : List (NodeEvent × Surroundings)) (node : NavigationRuntimeNode) :
    Prop where
  /-- At most one goal is sent and not yet terminal. -/
  sole : ∀ sent ∈ node.clients.goals, ∀ other ∈ node.clients.goals, sent.stage.isOpen = true →
    other.stage.isOpen = true → sent = other
  /-- It has the current generation, and its response is awaited or its handle held. -/
  tracked : ∀ sent ∈ node.clients.goals, sent.stage.isOpen = true →
    sent.generation = node.runtime.actionGeneration ∧
      (node.sendFuture = some sent.future ∨
        ∃ handle, node.goalHandle = some handle ∧ handle.goal = sent.future)
  /-- The runtime has it in flight. -/
  inflight : ∀ sent ∈ node.clients.goals, sent.stage.isOpen = true → node.runtime.inflight = true
  canceled : CancelIssued node
  /-- The acceptance of a goal whose cancellation was asked for issues it on its handle. -/
  accepted : ∀ future generation sent failed goalId env,
    node.clients.callback? future = some (.goalResponse generation) →
    node.clients.goal? future = some sent → sent.stage = .executing ∨ sent.stage = .terminal →
    CancelAsked lib bootId generation history →
    ⟨future, env.cancelRaises⟩ ∈
      (node.step lib (.goalResponded future failed goalId, env)).clients.cancelCalls
  /-- Callbacks of other generations change neither the runtime nor what is tracked. -/
  stale : ∀ input generation, node.callbackGeneration? input.1 = some generation →
    generation ≠ node.runtime.actionGeneration →
    ∃ clients, node.step lib input = { node with clients := clients }

/-- In every run of the navigation node there is at most one open goal, and it is tracked.
`Tracked` and `CancelIssued` are kept by every step, whatever the servers answer; that a
cancellation was asked for comes from the calls of the runtime (`runtime_after`, `flown_after`). -/
theorem goalSafety_after (history : List (NodeEvent × Surroundings)) :
    GoalSafety lib bootId history (after (step lib) (start bootId) history) := by
  have hBoth : Tracked (after (step lib) (start bootId) history) ∧
      CancelIssued (after (step lib) (start bootId) history) :=
    @after_invariant _ _ (step lib) _ (fun node => Tracked node ∧ CancelIssued node)
      ⟨.start bootId, .of_none rfl⟩
      (fun _ input h => ⟨h.1.step lib input, h.2.step h.1 lib input⟩) history
  obtain ⟨hTracked, hIssued⟩ := hBoth
  obtain ⟨calls, hRuntime, hAsked⟩ := runtime_after lib bootId history
  have hFlown := flown_after lib bootId calls
  rw [← hRuntime] at hFlown
  generalize after (step lib) (start bootId) history = node at hTracked hIssued hFlown
  refine ⟨?_, hTracked.opened, ?_, hIssued, ?_, fun input generation => step_stale hTracked lib⟩
  · intro sent hSent other hOther hOpen hOtherOpen
    refine hTracked.numbered.eq_of_future hSent hOther ?_
    rcases (hTracked.opened sent hSent hOpen).2 with hSend | ⟨handle, hHandle, hFuture⟩ <;>
      rcases (hTracked.opened other hOther hOtherOpen).2 with hSend' | ⟨handle', hHandle', hFuture'⟩
    · exact Option.some.inj (hSend.symm.trans hSend')
    · rw [(hTracked.send _ hSend).2.1] at hHandle'
      cases hHandle'
    · rw [(hTracked.send _ hSend').2.1] at hHandle
      cases hHandle
    · obtain rfl : handle = handle' := Option.some.inj (hHandle.symm.trans hHandle')
      exact hFuture.symm.trans hFuture'
  · intro sent hSent hOpen
    rcases (hTracked.opened sent hSent hOpen).2 with hSend | ⟨handle, hHandle, -⟩
    · exact (hTracked.send _ hSend).2.2
    · exact (hTracked.handle _ hHandle).1
  · intro future generation sent failed goalId env hFound hGoal hStage hCancel
    obtain ⟨hCallback, -, hIn⟩ := hTracked.send future (hTracked.response future generation hFound)
    have hNow : generation = node.runtime.actionGeneration := by
      rw [hCallback] at hFound
      exact (DoneCallback.goalResponse.inj (Option.some.inj hFound)).symm
    exact cancelCalls_goalResponded hTracked failed goalId hFound hGoal hStage
      (hFlown.requested (hNow ▸ hAsked generation hCancel) hIn)

end

end NavigationRuntimeNode

end PreRunner.Bringup
