import Mathlib.Algebra.Order.Field.Rat
import PreRunner.Interfaces
import PreRunner.Bringup.NavigationRequest

/-!
# The navigation runtime node

`NavigationRuntimeNode` carries out the commands of its `MissionRuntime` at the Nav2 action
servers. Every library call is asynchronous: it returns a future, whose done callback the node
registers together with the generation it belongs to. The calls are kept in `ActionClients`, next
to the fields of the node, so that a run interleaves the callbacks of the node with what the
servers do. Whether a server is ready, a call raises or the clock has advanced is part of the
input.
-/

namespace PreRunner.Bringup

def maxCancelAttempts : Nat := 5
def cancelRetryIntervalSec : NNRat := ⟨1 / 2, by decide +kernel⟩
def resultRetryIntervalSec : NNRat := ⟨1 / 2, by decide +kernel⟩

def navigateToPoseAction : String := "/navigate_to_pose"
def navigateThroughPosesAction : String := "/navigate_through_poses"
def missionOrderedPoses : Int := 1

/-! ## Goals, futures and callbacks -/

/-- The identity of a future. A goal is named by the future of its request. -/
abbrev Future := Nat

/-- The client's handle of an accepted goal. -/
structure GoalHandle where
  goal : Future
  goalId : Uuid
  deriving DecidableEq, Repr

/-- The life of a goal request at its action server. -/
inductive GoalStage where
  | requested
  | refused
  | executing
  | terminal
  deriving DecidableEq, Repr

/-- Sent and not yet terminal. -/
def GoalStage.isOpen : GoalStage → Bool
  | requested | executing => true
  | refused | terminal => false

/-- A goal request that `send_goal_async` sent. -/
structure SentGoal where
  future : Future
  generation : Int
  action : String
  poses : List MissionPose
  stage : GoalStage
  deriving DecidableEq, Repr

/-- The done callbacks of the node with the values their lambdas captured. -/
inductive DoneCallback where
  | goalResponse (generation : Int)
  | result (goal : Future) (generation : Int)
  | cancel (goal : Future) (generation : Int)
  deriving DecidableEq, Repr

/-- A call of `cancel_goal_async` on the handle of a goal, and whether it raised. -/
structure CancelCall where
  goal : Future
  raised : Bool
  deriving DecidableEq, Repr

/-- What the calls of the node left at the action clients and servers. -/
structure ActionClients where
  nextFuture : Future := 0
  goals : List SentGoal := []
  callbacks : List (Future × DoneCallback) := []
  cancelCalls : List CancelCall := []
  residualCancels : List String := []
  deriving DecidableEq, Repr

def clientFor (missionType : Int) : String :=
  if missionType = missionOrderedPoses then navigateThroughPosesAction else navigateToPoseAction

/-- The poses of the action goal: all of them, or the first. -/
def goalPoses (mission : Mission) : List MissionPose :=
  if mission.missionType = missionOrderedPoses then mission.poses else mission.poses.take 1

namespace ActionClients

def register (clients : ActionClients) (callback : DoneCallback) : ActionClients :=
  { clients with
    nextFuture := clients.nextFuture + 1
    callbacks := (clients.nextFuture, callback) :: clients.callbacks }

def sendGoal (clients : ActionClients) (generation : Int) (mission : Mission) : ActionClients :=
  { clients.register (.goalResponse generation) with
    goals := ⟨clients.nextFuture, generation, clientFor mission.missionType, goalPoses mission,
      .requested⟩ :: clients.goals }

def callback? (clients : ActionClients) (future : Future) : Option DoneCallback :=
  (clients.callbacks.find? (·.1 = future)).map (·.2)

def goal? (clients : ActionClients) (goal : Future) : Option SentGoal :=
  clients.goals.find? (·.future = goal)

/-- The callback of a future runs once. -/
def done (clients : ActionClients) (future : Future) : ActionClients :=
  { clients with callbacks := clients.callbacks.filter (·.1 ≠ future) }

/-- The server accepts or refuses a requested goal. -/
def decide (clients : ActionClients) (goal : Future) (accepted : Bool) : ActionClients :=
  { clients with
    goals := clients.goals.map fun sent =>
      if sent.future = goal ∧ sent.stage = .requested then
        { sent with stage := if accepted then .executing else .refused }
      else sent }

/-- An accepted goal ends at the server: it succeeds, aborts or is canceled. -/
def finish (clients : ActionClients) (goal : Future) : ActionClients :=
  { clients with
    goals := clients.goals.map fun sent =>
      if sent.future = goal ∧ sent.stage = .executing then { sent with stage := .terminal }
      else sent }

end ActionClients

/-- What the libraries answer and the clock reads while one callback of the node runs. -/
structure Surroundings where
  /-- The action servers for which `server_is_ready()` holds. -/
  readyServers : List String := [navigateToPoseAction, navigateThroughPosesAction]
  /-- The cancel services that are ready and whose `call_async` does not raise. -/
  readyServices : List String := []
  sendRaises : Bool := false
  resultRaises : Bool := false
  cancelRaises : Bool := false
  /-- `time.monotonic()` where `_pump_cancel` and `_tick` compare it. -/
  cancelNow : NNRat := 0
  resultNow : NNRat := 0
  /-- `time.monotonic()` where a failed attempt sets its retry time. -/
  cancelRetryNow : NNRat := 0
  resultRetryNow : NNRat := 0
  deriving DecidableEq

/-- The fields of `NavigationRuntimeNode`. -/
structure NavigationRuntimeNode where
  runtime : MissionRuntime
  goalHandle : Option GoalHandle := none
  sendFuture : Option Future := none
  resultFuture : Option Future := none
  cancelFuture : Option Future := none
  pendingSend : Option (Int × Mission) := none
  cancelAttempts : Nat := 0
  nextCancelAt : NNRat := 0
  nextResultAt : NNRat := 0
  clients : ActionClients := {}
  deriving DecidableEq

namespace NavigationRuntimeNode

/-! ## Pumps -/

def resolveUndeliveredCancel (lib : NavLibrary) (node : NavigationRuntimeNode) :
    NavigationRuntimeNode :=
  if node.runtime.state = .canceling ∧ node.runtime.inflight = true ∧ node.pendingSend = none ∧
      node.sendFuture = none ∧ node.goalHandle = none ∧ node.cancelFuture = none then
    { node with
      runtime := node.runtime.onResult lib node.runtime.actionGeneration statusCanceled 0
        "canceled before Nav2 received the goal" }
  else node

/-- Send the pending goal once its generation is live and nothing else is tracked. -/
def pumpSend (env : Surroundings) (node : NavigationRuntimeNode) : NavigationRuntimeNode :=
  match node.pendingSend with
  | none => { node with pendingSend := none }
  | some (generation, mission) =>
    if node.runtime.isCurrent generation = false then { node with pendingSend := none }
    else if node.runtime.state = .canceling then { node with pendingSend := none }
    else if node.goalHandle ≠ none ∨ node.sendFuture ≠ none then node
    else if clientFor mission.missionType ∉ env.readyServers then node
    else if env.sendRaises then
      { node with
        pendingSend := none
        runtime := (node.runtime.onGoalResponse generation false "").1 }
    else
      { node with
        pendingSend := none
        sendFuture := some node.clients.nextFuture
        clients := node.clients.sendGoal generation mission }

/-- Ask the server to cancel the tracked goal, at most `MAX_CANCEL_ATTEMPTS` times. -/
def pumpCancel (env : Surroundings) (node : NavigationRuntimeNode) : NavigationRuntimeNode :=
  match node.goalHandle with
  | none => node
  | some handle =>
    if node.cancelFuture ≠ none then node
    else if maxCancelAttempts ≤ node.cancelAttempts then node
    else if env.cancelNow < node.nextCancelAt then node
    else
      let node := { node with
        cancelAttempts := node.cancelAttempts + 1
        clients := { node.clients with
          cancelCalls := ⟨handle.goal, env.cancelRaises⟩ :: node.clients.cancelCalls } }
      if env.cancelRaises then
        { node with nextCancelAt := env.cancelRetryNow + cancelRetryIntervalSec }
      else
        { node with
          cancelFuture := some node.clients.nextFuture
          clients := node.clients.register
            (.cancel handle.goal node.runtime.actionGeneration) }

/-- Cancel every goal a former process may have left at the servers. -/
def cancelResidualGoals (env : Surroundings) (node : NavigationRuntimeNode) :
    NavigationRuntimeNode :=
  { node with
    clients := { node.clients with
      residualCancels := [navigateToPoseAction, navigateThroughPosesAction].filter
        (· ∈ env.readyServices) ++ node.clients.residualCancels } }

def runCommand (env : Surroundings) (node : NavigationRuntimeNode) :
    Command → NavigationRuntimeNode
  | .sendGoal generation mission =>
    { node with pendingSend := some (generation, mission) }.pumpSend env
  | .cancelActiveGoal _ => { node with cancelAttempts := 0, nextCancelAt := 0 }.pumpCancel env
  | .cancelResidualGoals => node.cancelResidualGoals env

def runCommands (lib : NavLibrary) (env : Surroundings) (node : NavigationRuntimeNode)
    (commands : List Command) : NavigationRuntimeNode :=
  let node := commands.foldl (runCommand env) node
  if node.runtime.state = .canceling then
    -- a dispatch that never reached the server is dropped here
    resolveUndeliveredCancel lib { node with pendingSend := none }
  else node

/-- Ask for the result of the tracked goal. -/
def requestResult (env : Surroundings) (node : NavigationRuntimeNode) (generation : Int) :
    NavigationRuntimeNode :=
  match node.goalHandle with
  | none => node
  | some handle =>
    if env.resultRaises then
      { node with nextResultAt := env.resultRetryNow + resultRetryIntervalSec }
    else
      { node with
        resultFuture := some node.clients.nextFuture
        clients := node.clients.register (.result handle.goal generation) }

/-! ## Done callbacks -/

/-- What `future.result()` of a goal request gives. -/
inductive GoalOutcome where
  | failed
  | refused
  | accepted (handle : GoalHandle)
  deriving DecidableEq, Repr

def goalResponseCallback (lib : NavLibrary) (env : Surroundings) (node : NavigationRuntimeNode)
    (outcome : GoalOutcome) (generation : Int) (expected : Future) : NavigationRuntimeNode :=
  if node.sendFuture ≠ some expected then node
  else
    let node := { node with sendFuture := none }
    match outcome with
    | .failed => { node with runtime := (node.runtime.onGoalResponse generation false "").1 }
    | .refused =>
      let (runtime, commands) := node.runtime.onGoalResponse generation false ""
      let node := { node with runtime := runtime }.runCommands lib env commands
      if node.goalHandle ≠ none ∧ node.resultFuture = none ∧
          node.runtime.isCurrent generation = true then
        node.requestResult env generation
      else node
    | .accepted handle =>
      let (runtime, commands) := node.runtime.onGoalResponse generation true handle.goalId.hex
      let node := { node with
        runtime := runtime
        goalHandle := if runtime.isCurrent generation then some handle else node.goalHandle }
      let node := node.runCommands lib env commands
      if node.goalHandle ≠ none ∧ node.resultFuture = none ∧
          node.runtime.isCurrent generation = true then
        node.requestResult env generation
      else node

def clearActionFutures (node : NavigationRuntimeNode) : NavigationRuntimeNode :=
  { node with
    goalHandle := none
    sendFuture := none
    resultFuture := none
    cancelFuture := none
    cancelAttempts := 0
    nextCancelAt := 0
    nextResultAt := 0 }

/-- A result response. -/
structure ResultResponse where
  status : Int
  errorCode : Int
  errorMsg : String
  deriving DecidableEq, Repr

/-- `none` stands for a result future that fails. -/
def resultCallback (lib : NavLibrary) (env : Surroundings) (node : NavigationRuntimeNode)
    (response : Option ResultResponse) (generation : Int) (expected : Future) :
    NavigationRuntimeNode :=
  if node.resultFuture ≠ some expected then node
  else
    let node := { node with resultFuture := none }
    match response with
    | none =>
      if node.runtime.isCurrent generation then
        { node with nextResultAt := env.resultRetryNow + resultRetryIntervalSec }
      else node
    | some response =>
      let node := { node with
        runtime := node.runtime.onResult lib generation response.status response.errorCode
          response.errorMsg }
      let node :=
        if node.runtime.isCurrent generation then node else { node with goalHandle := none }
      node.clearActionFutures

/-- `none` stands for a cancel future that fails, else whether goals are canceling. -/
def cancelCallback (env : Surroundings) (node : NavigationRuntimeNode)
    (goalsCanceling : Option Bool) (generation : Int) (expected : Future) :
    NavigationRuntimeNode :=
  if node.cancelFuture ≠ some expected then node
  else
    let node := { node with cancelFuture := none }
    match goalsCanceling with
    | none => { node with nextCancelAt := env.cancelRetryNow + cancelRetryIntervalSec }
    | some goalsCanceling =>
      let (runtime, retry) := node.runtime.onCancelResponse generation goalsCanceling
      let node := { node with runtime := runtime }
      if retry then { node with nextCancelAt := env.cancelRetryNow + cancelRetryIntervalSec }
        else node

/-! ## Subscriptions and the timer -/

/-- A call of the mission runtime from a subscription, with its commands carried out. -/
def handle (lib : NavLibrary) (env : Surroundings) (node : NavigationRuntimeNode)
    (call : MissionCall) : NavigationRuntimeNode :=
  let (runtime, commands) := node.runtime.perform lib call
  { node with runtime := runtime }.runCommands lib env commands

def onModeState (lib : NavLibrary) (env : Surroundings) (node : NavigationRuntimeNode)
    (message : ModeState) : NavigationRuntimeNode :=
  let autonomyOk := decide (message.mode = ModeState.modeAutonomy ∧
    message.status = ModeState.statusStable)
  node.handle lib env
    (.observeRuntime message.runtimeEpoch message.activeAutonomyMap autonomyOk)

def onRequest (lib : NavLibrary) (env : Surroundings) (node : NavigationRuntimeNode)
    (message : NavigationRequest) : NavigationRuntimeNode :=
  match message.call? with
  | none => node
  | some call => node.handle lib env call

def onOdometry (node : NavigationRuntimeNode) (pose : MissionPose) : NavigationRuntimeNode :=
  { node with runtime := node.runtime.observeRobotPose pose }

/-- The periodic pumps. -/
def tick (lib : NavLibrary) (env : Surroundings) (node : NavigationRuntimeNode) :
    NavigationRuntimeNode :=
  let node := if node.pendingSend ≠ none then node.pumpSend env else node
  let node :=
    if node.runtime.state = .canceling then (node.pumpCancel env).resolveUndeliveredCancel lib
    else node
  if node.goalHandle ≠ none ∧ node.resultFuture = none ∧ node.runtime.inflight = true ∧
      node.nextResultAt ≤ env.resultNow then
    node.requestResult env node.runtime.actionGeneration
  else node

/-! ## Runs -/

/-- One event of the node or of the action servers. -/
inductive NodeEvent where
  | modeState (message : ModeState)
  | request (message : NavigationRequest)
  | odometry (pose : MissionPose)
  | tick
  | feedback (goal : Future)
  | decided (goal : Future) (accepted : Bool)
  | finished (goal : Future)
  | goalResponded (future : Future) (failed : Bool) (goalId : Uuid)
  | resultResponded (future : Future) (response : Option ResultResponse)
  | cancelResponded (future : Future) (goalsCanceling : Option Bool)
  deriving DecidableEq, Repr

/-- The outcome of a goal future, once the server has decided: only the future of a refused goal
can fail. -/
def goalOutcome (sent : SentGoal) (failed : Bool) (goalId : Uuid) : Option GoalOutcome :=
  match sent.stage with
  | .requested => none
  | .refused => some (if failed then .failed else .refused)
  | .executing | .terminal => some (.accepted ⟨sent.future, goalId⟩)

/-- One event. A response that its server cannot have given yet does not happen: the node stays
as it is. -/
def step (lib : NavLibrary) (node : NavigationRuntimeNode) (input : NodeEvent × Surroundings) :
    NavigationRuntimeNode :=
  let env := input.2
  match input.1 with
  | .modeState message => node.onModeState lib env message
  | .request message => node.onRequest lib env message
  | .odometry pose => node.onOdometry pose
  | .tick => node.tick lib env
  | .feedback goal =>
    match node.clients.goal? goal with
    | some sent => { node with runtime := node.runtime.onFeedback sent.generation }
    | none => node
  | .decided goal accepted => { node with clients := node.clients.decide goal accepted }
  | .finished goal => { node with clients := node.clients.finish goal }
  | .goalResponded future failed goalId =>
    match node.clients.callback? future, node.clients.goal? future with
    | some (.goalResponse generation), some sent =>
      match goalOutcome sent failed goalId with
      | some outcome =>
        { node with clients := node.clients.done future }.goalResponseCallback lib env outcome
          generation future
      | none => node
    | _, _ => node
  | .resultResponded future response =>
    match node.clients.callback? future with
    | some (.result goal generation) =>
      if response = none ∨ (node.clients.goal? goal).map SentGoal.stage = some .terminal then
        { node with clients := node.clients.done future }.resultCallback lib env response
          generation future
      else node
    | _ => node
  | .cancelResponded future goalsCanceling =>
    match node.clients.callback? future with
    | some (.cancel _ generation) =>
      { node with clients := node.clients.done future }.cancelCallback env goalsCanceling
        generation future
    | _ => node

/-- A started node: a fresh runtime and nothing tracked. -/
def start (bootId : String) : NavigationRuntimeNode := { runtime := { bootId } }

end NavigationRuntimeNode

end PreRunner.Bringup
