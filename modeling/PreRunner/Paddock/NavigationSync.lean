import PreRunner.Interfaces
import PreRunner.Paddock.NavigationFlag
import PreRunner.Bringup.NavigationRequest

/-!
# Navigation requests of the command authority

`_sync_navigation` compares the snapshot of every supervisor result with the goal and the dispatch
flag it saw last, and publishes the SELECT, DISPATCH and CANCEL requests that make up the
difference. `NavigationLink` composes the supervisor, this translation, the requests on their way
in order, and the mission runtime that handles them.
-/

namespace PreRunner.Paddock

open Bringup Runs

/-- The fields of `CommandAuthorityNode` that `_sync_navigation` owns. The goal key is the goal
itself: `(map_name, x, y, yaw)`. -/
structure NavigationSync where
  missionId : String := ""
  missionRevision : Int := 0
  navLastGoalKey : Option GoalIntent := none
  navLastDispatchActive : Bool := false
  deriving DecidableEq, Repr

/-- `math.sin` of half an angle; `ValueError` and NaN do not occur for finite angles. -/
def halfAngle (f : ℚ → ℚ) (yaw : PyFloat) : PyFloat :=
  match yaw with
  | .finite value => .finite (f (value / 2))
  | _ => .nan

/-- The map-frame pose of a goal. -/
def goalPose (lib : NavLibrary) (goal : GoalIntent) : MissionPose :=
  { frameId := "map"
    position := [goal.x, goal.y, .finite 0]
    orientation := [.finite 0, .finite 0, halfAngle lib.sin goal.yaw, halfAngle lib.cos goal.yaw] }

namespace NavigationSync

/-- `_publish_nav_request`: the message for an operation. -/
def navRequest (lib : NavLibrary) (sync : NavigationSync) (runtimeEpoch operation : Int)
    (state : PaddockState) (goal : Option GoalIntent) : NavigationRequest :=
  { leaseId := state.leaseId
    operation
    missionId := sync.missionId
    missionRevision := sync.missionRevision
    runtimeEpoch
    mapId := state.activeAutonomyMap
    missionType := 0
    poses := if operation = opSelect then (goal.map (goalPose lib)).toList else [] }

/-- The goal part of `_sync_navigation`; `missionId` is the identifier `uuid4` draws. -/
def syncGoal (lib : NavLibrary) (sync : NavigationSync) (runtimeEpoch : Int) (state : PaddockState)
    (missionId : Uuid) : NavigationSync × List NavigationRequest :=
  if state.goal = sync.navLastGoalKey then (sync, [])
  else
    match state.goal with
    | some goal =>
      let next := { sync with
        missionRevision := sync.missionRevision + 1
        missionId := missionId.hex
        navLastGoalKey := some goal }
      (next, [next.navRequest lib runtimeEpoch opSelect state (some goal)])
    | none =>
      ({ sync with navLastGoalKey := none }, [sync.navRequest lib runtimeEpoch opCancel state none])

/-- The dispatch part of `_sync_navigation`. -/
def syncDispatch (lib : NavLibrary) (sync : NavigationSync) (runtimeEpoch : Int)
    (state : PaddockState) : NavigationSync × List NavigationRequest :=
  let requests :=
    if state.navigationActive ∧ sync.navLastDispatchActive = false then
      [sync.navRequest lib runtimeEpoch opDispatch state state.goal]
    else if state.navigationActive = false ∧ sync.navLastDispatchActive then
      [sync.navRequest lib runtimeEpoch opCancel state none]
    else []
  ({ sync with navLastDispatchActive := state.navigationActive }, requests)

/-- Translate accepted authority state into navigation-runtime intent. -/
def syncNavigation (lib : NavLibrary) (sync : NavigationSync) (runtimeEpoch : Int)
    (state : PaddockState) (missionId : Uuid) : NavigationSync × List NavigationRequest :=
  let (selected, goalRequests) := sync.syncGoal lib runtimeEpoch state missionId
  let (next, dispatchRequests) := selected.syncDispatch lib runtimeEpoch state
  (next, goalRequests ++ dispatchRequests)

end NavigationSync

/-! ## The composition with the mission runtime -/

/-- A supervisor call of the composition. -/
structure OperatorCall where
  timed : TimedCall
  keeps : timed.call.keepsRuntime = true
  deriving DecidableEq, Repr

/-- The Nav2 callbacks of the mission runtime and the robot pose. -/
inductive Nav2Input where
  | goalResponse (generation : Int) (accepted : Bool) (goalUuid : String)
  | feedback (generation : Int)
  | result (generation status errorCode : Int) (errorMeaning : String)
  | cancelResponse (generation : Int) (goalsCanceling : Bool)
  | odometry (pose : MissionPose)
  deriving DecidableEq, Repr

def Nav2Input.call : Nav2Input → MissionCall
  | goalResponse generation accepted goalUuid => .onGoalResponse generation accepted goalUuid
  | feedback generation => .onFeedback generation
  | result generation status errorCode errorMeaning =>
    .onResult generation status errorCode errorMeaning
  | cancelResponse generation goalsCanceling => .onCancelResponse generation goalsCanceling
  | odometry pose => .observeRobotPose pose

/-- The supervisor, what `_sync_navigation` remembers, the requests on their way (oldest first)
and the mission runtime. -/
structure NavigationLink where
  supervisor : CommandSupervisor
  sync : NavigationSync := {}
  runtimeEpoch : Int
  requests : List NavigationRequest := []
  runtime : MissionRuntime

inductive LinkEvent where
  | operate (call : OperatorCall) (missionId : Uuid)
  | deliver
  | nav2 (input : Nav2Input)
  deriving DecidableEq, Repr

namespace NavigationLink

/-- Both sides have seen the same stable AUTONOMY runtime. -/
def start (config : SupervisorConfig) (manualMaxSpeedMps : ℚ) (bootId map : String)
    (runtimeEpoch : Int) : NavigationLink where
  supervisor :=
    { config, manualMaxSpeedMps, state := { mode := .autonomy, activeAutonomyMap := map } }
  runtimeEpoch
  runtime := (MissionRuntime.observeRuntime { bootId } runtimeEpoch map true).1

/-- A supervisor call, and `_sync_navigation` on the snapshot of its result. -/
def operate (lib : NavLibrary) (link : NavigationLink) (call : OperatorCall) (missionId : Uuid) :
    NavigationLink :=
  let (supervisor, result) := link.supervisor.perform call.timed
  match result with
  | none => { link with supervisor }
  | some result =>
    let (sync, requests) :=
      link.sync.syncNavigation lib link.runtimeEpoch result.snapshot.state missionId
    { link with supervisor, sync, requests := link.requests ++ requests }

def step (lib : NavLibrary) (link : NavigationLink) : LinkEvent → NavigationLink
  | .operate call missionId => link.operate lib call missionId
  | .deliver =>
    match link.requests with
    | [] => link
    | message :: requests =>
      { link with requests, runtime := link.runtime.receive lib (.request message) }
  | .nav2 input => { link with runtime := link.runtime.step lib input.call }

/-- The commands the mission runtime returns during an event. -/
def commands (lib : NavLibrary) (link : NavigationLink) : LinkEvent → List Command
  | .operate _ _ => []
  | .deliver =>
    match link.requests with
    | [] => []
    | message :: _ => link.runtime.received lib (.request message)
  | .nav2 input => link.runtime.commands lib input.call

/-- The mission the authority selected last, for the goal it has. -/
def currentMission (lib : NavLibrary) (link : NavigationLink) (goal : GoalIntent) : Mission :=
  { missionId := link.sync.missionId
    revision := link.sync.missionRevision
    runtimeEpoch := link.runtimeEpoch
    mapId := link.supervisor.state.activeAutonomyMap
    missionType := 0
    poses := [goalPose lib goal] }

/-- Whether an event is an accepted RUN press or goal selection. -/
def asks (link : NavigationLink) : LinkEvent → Bool
  | .operate call _ =>
    match call.timed.call with
    | .handleControlEvent m =>
      (m.event = .runPressed || m.event = .goalSelected) &&
        (link.supervisor.handleControlEvent m call.timed.now).2.accepted
    | _ => false
  | _ => false

/-- Whether an event sends a goal for this mission. -/
def sends (lib : NavLibrary) (mission : Mission) (link : NavigationLink) (event : LinkEvent) :
    Bool :=
  (link.commands lib event).any fun command =>
    match command with
    | .sendGoal _ sent => sent = mission
    | _ => false

section

variable (lib : NavLibrary) (init : NavigationLink)

/-- Since the last RUN press or goal selection the runtime has sent a goal for the mission that
is selected now. -/
def Dispatched (history : List LinkEvent) : Prop :=
  ∃ goal ∈ (after (step lib) init history).supervisor.state.goal,
    Since (along (step lib) init fun link event => link.asks event = false)
      (along (step lib) init fun link event =>
        link.sends lib ((after (step lib) init history).currentMission lib goal) event = true)
      history

end

end NavigationLink

end PreRunner.Paddock
