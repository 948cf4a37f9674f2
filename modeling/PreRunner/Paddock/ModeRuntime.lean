import Mathlib.Algebra.Order.Field.Rat
import Mathlib.Data.List.Sort
import PreRunner.Runs.Program
import PreRunner.Paddock.StateMachine

/-!
# The mode runtime

`ModeRuntime` moves the vehicle between its application modes: it stops both mode units, waits
until nothing of them is left, starts the requested one and waits for evidence that it runs.
Systemd, the ROS graph, the clock and the disk are an `Environment` that may answer anything.
This module follows `runner_paddock/mode_runtime.py` method by method; every method is a
`Program` over the runtime state, the environment and the trace of what the controller did.
-/

namespace PreRunner.Paddock

open Runs

def opNewMap : ℤ := 1

/-- The fixed units `MODE_UNITS`. -/
inductive ModeUnit where
  | mapping
  | autonomy
  deriving DecidableEq, Repr

namespace ModeUnit

def name : ModeUnit → String
  | mapping => "runner-mode-mapping.service"
  | autonomy => "runner-mode-autonomy.service"

/-- `MODE_UNITS`, in order. -/
def all : List ModeUnit := [mapping, autonomy]

end ModeUnit

/-- `Mode.name`. -/
def Mode.name : Mode → String
  | idle => "IDLE"
  | mapping => "MAPPING"
  | autonomy => "AUTONOMY"

def commonNodes : List String :=
  ["/LD19", "/base_link_to_base_laser", "/base_link_to_imu_link", "/bno085", "/ekf_node",
    "/rf2o_laser_odometry", "/rf2o_scan_canonicalizer", "/scan_rebinner", "/slam_toolbox"]

def persistentLocalNodes : List String :=
  ["/drive_adapter", "/joy_node", "/runner_teleop", "/twist_mux", "/runner_stop_enforcer"]

def autonomyOnlyNodes : List String :=
  ["/map_server", "/planner_server", "/controller_server", "/bt_navigator",
    "/bt_navigator_navigate_to_pose_rclcpp_node",
    "/bt_navigator_navigate_through_poses_rclcpp_node", "/global_costmap/global_costmap",
    "/local_costmap/local_costmap", "/lifecycle_manager_navigation",
    "/runner_navigation_runtime", "/speed_envelope_observer"]

def modeNodes : List String := commonNodes ++ autonomyOnlyNodes

/-- Mode transition lifecycle. -/
inductive Lifecycle where
  | stable
  | transitioning
  | fault
  deriving DecidableEq, Repr

/-- Relevant systemd state for one mode unit. -/
structure UnitState where
  activeState : String
  subState : String := ""
  mainPid : ℤ := 0
  controlGroup : String := ""
  cgroupProcesses : List (ℤ × String) := []
  deriving DecidableEq, Repr

/-- Whether systemd considers the unit fully active. -/
def UnitState.active (state : UnitState) : Bool :=
  state.activeState = "active" && state.subState = "running"

/-- Whether the unit has no process or cgroup membership. -/
def UnitState.cleanlyInactive (state : UnitState) : Bool :=
  state.mainPid = 0 && state.controlGroup = ""

/-- One authoritative application-mode snapshot. -/
structure RuntimeState where
  mode : Mode := .idle
  lifecycle : Lifecycle := .stable
  acceptedRequestId : ℤ := 0
  activeAutonomyMap : String := ""
  detail : String := ""
  runtimeEpoch : ℕ := 0
  mappingSessionId : String := ""
  ready : Bool := false
  readinessReason : String := "IDLE"
  deriving DecidableEq, Repr

/-- The idle state after a clean stop. -/
def RuntimeState.idled (state : RuntimeState) : RuntimeState :=
  { state with
    mode := .idle
    lifecycle := .stable
    detail := ""
    mappingSessionId := ""
    ready := true
    readinessReason := "" }

/-- The state after a failed transition. -/
def RuntimeState.faulted (state : RuntimeState) (detail reason : String) : RuntimeState :=
  { state with
    mode := .idle
    lifecycle := .fault
    detail
    mappingSessionId := ""
    ready := false
    readinessReason := reason }

/-- A copy of the graph: node names with their counts. -/
abbrev NodeCounts := List (String × ℤ)

/-- `counts.get(node, 0)`. -/
def NodeCounts.count (counts : NodeCounts) (node : String) : ℤ := (counts.lookup node).getD 0

/-- What a disk access raises. -/
inductive DiskError where
  | osError (text : String)
  | valueError (text : String)
  deriving DecidableEq, Repr

/-- What escapes a method. `diverged` is no Python exception: a wait has not ended within the
iterations it was given. -/
inductive ModeError where
  | runtimeError (text : String)
  | disk (error : DiskError)
  | diverged
  deriving DecidableEq, Repr

/-- `except RuntimeError as error`: the text of the exception. -/
def ModeError.runtimeError? : ModeError → Option String
  | runtimeError text => some text
  | _ => none

/-- `except (OSError, RuntimeError, ValueError) as error`. -/
def ModeError.caught? : ModeError → Option String
  | runtimeError text => some text
  | disk (.osError text) => some text
  | disk (.valueError text) => some text
  | diverged => none

/-! ## The environment -/

/-- The calls that leave the controller, with the type of their answers. -/
inductive Query : Type → Type 1
  | state (unit : ModeUnit) (processDetails : Bool) : Query (Except String UnitState)
  | start (unit : ModeUnit) : Query (Except String Unit)
  | stop (unit : ModeUnit) : Query (Except String Unit)
  | graphNodes : Query NodeCounts
  | monotonic : Query ℚ
  | sleep (seconds : ℚ) : Query Unit
  | ownershipReady (mode : Mode) : Query Bool
  | capabilityReady (mode : Mode) : Query (Bool × String)
  | beginQuiescence : Query Unit
  | quiescenceReady : Query (Bool × String)
  | sessionId : Query String
  | validateMapBundle (mapId : String) : Query (Except DiskError Unit)
  | writeMap (basename : String) : Query (Except DiskError Unit)
  | storedMap : Query (Except DiskError String)

/-- Systemd, the graph, the clock, the disk and the callables given to the constructor, with a
state of their own. Time does not run backwards, and a sleep takes at least its duration. -/
structure Environment (W : Type) where
  answer : {α : Type} → Query α → W → α × W
  clock : W → ℚ
  clock_le : ∀ {α : Type} (query : Query α) w, clock w ≤ clock (answer query w).2
  monotonic_ge : ∀ w, clock w ≤ (answer .monotonic w).1
  monotonic_le : ∀ w, (answer .monotonic w).1 ≤ clock (answer .monotonic w).2
  sleep_ge : ∀ seconds w, clock w + seconds ≤ clock (answer (.sleep seconds) w).2

/-- The public calls of the runtime. -/
inductive RuntimeCall where
  | transition (requested : Option Mode) (requestId : ℤ) (autonomyMap : String)
      (operation : ℤ)
  | reconcile
  | refresh
  deriving DecidableEq, Repr

/-- What the trace records. -/
inductive ModeEvent where
  | called (call : RuntimeCall)
  | observed (unit : ModeUnit) (answer : Except String UnitState)
  | stopped (unit : ModeUnit) (answer : Except String Unit)
  | started (unit : ModeUnit)
  | graph (counts : NodeCounts)
  | published (state : RuntimeState)

/-- The entry of the trace for a call that leaves the controller. -/
def Query.event : {α : Type} → Query α → α → Option ModeEvent
  | _, .state unit _, answer => some (.observed unit answer)
  | _, .start unit, _ => some (.started unit)
  | _, .stop unit, answer => some (.stopped unit answer)
  | _, .graphNodes, counts => some (.graph counts)
  | _, _, _ => none

/-- The constructor's settings; `fuel` bounds the iterations of one wait. -/
structure RuntimeConfig where
  transitionTimeout : ℚ := 45
  pollPeriod : ℚ := 1 / 10
  fuel : ℕ
  deriving DecidableEq, Repr

/-- The runtime with its environment, and the trace with the latest entry first. -/
structure ModeMachine (W : Type) where
  runtime : RuntimeState := { ready := true, readinessReason := "" }
  world : W
  trace : List ModeEvent := []

/-- The methods of `ModeRuntime`. -/
abbrev ModeProgram (W α : Type) := Program (ModeMachine W) ModeError α

namespace ModeMachine

variable {W : Type}

/-- The machine after a call that leaves the controller. -/
def asked {α : Type} (env : Environment W) (query : Query α) (m : ModeMachine W) :
    ModeMachine W :=
  { m with
    world := (env.answer query m.world).2
    trace := (query.event (env.answer query m.world).1).toList ++ m.trace }

/-- The machine after a published change of the runtime state. -/
def set (m : ModeMachine W) (runtime : RuntimeState) : ModeMachine W :=
  { m with runtime, trace := .published runtime :: m.trace }

end ModeMachine

namespace ModeRuntime

open Program

variable {W : Type} (env : Environment W) (config : RuntimeConfig)

/-- A call that leaves the controller. -/
def ask {α : Type} (query : Query α) : ModeProgram W α := fun m =>
  (.ok (env.answer query m.world).1, m.asked env query)

/-- `self.state`. -/
def state : ModeProgram W RuntimeState := fun m => (.ok m.runtime, m)

/-- `_set`: change the state and publish it. -/
def set (change : RuntimeState → RuntimeState) : ModeProgram W Unit :=
  Program.modify fun m => m.set (change m.runtime)

/-- `_set` under a condition. -/
def setIf (condition : Bool) (change : RuntimeState → RuntimeState) : ModeProgram W Unit :=
  if condition then set change else pure ()

/-- An answer of systemd; its D-Bus failures are raised as `RuntimeError`. -/
def systemd {α : Type} (query : Query (Except String α)) : ModeProgram W α := do
  match ← ask env query with
  | .ok value => pure value
  | .error text => raise (.runtimeError text)

/-- An answer of the disk. -/
def disk {α : Type} (query : Query (Except DiskError α)) : ModeProgram W α := do
  match ← ask env query with
  | .ok value => pure value
  | .error error => raise (.disk error)

/-! ## Waits -/

/-- Publish a reason that differs from the last one. -/
def notice (progress : Option (String → ModeProgram W Unit)) (reason last : String) :
    ModeProgram W String :=
  match progress with
  | some publish => if reason ≠ last then do publish reason; pure reason else pure last
  | none => pure last

/-- The loop of a wait. -/
def pollLoop (check : ModeProgram W (Bool × String))
    (progress : Option (String → ModeProgram W Unit)) (describe : String → String)
    (deadline : ℚ) : ℕ → String → ModeProgram W Unit
  | 0, _ => raise .diverged
  | fuel + 1, last => do
    let now ← ask env .monotonic
    if now < deadline then do
      let (ok, reason) ← check
      if ok then pure ()
      else do
        let last ← notice progress reason last
        ask env (.sleep config.pollPeriod)
        pollLoop check progress describe deadline fuel last
    else raise (.runtimeError (describe last))

/-- A wait until `check` succeeds, or `RuntimeError` with the last reason at the deadline. -/
def poll (check : ModeProgram W (Bool × String))
    (progress : Option (String → ModeProgram W Unit)) (describe : String → String) :
    ModeProgram W Unit := do
  let now ← ask env .monotonic
  pollLoop env config check progress describe (now + config.transitionTimeout) config.fuel ""

/-- `f': {last_reason}' if last_reason else ''`. -/
def suffix (lastReason : String) : String :=
  if lastReason ≠ "" then ": " ++ lastReason else ""

/-- `_wait`. -/
def wait (predicate : ModeProgram W Bool) (description : String) : ModeProgram W Unit :=
  poll env config (do let ok ← predicate; pure (ok, "")) none
    fun _ => "timed out waiting for " ++ description

/-- The blocker that one unit reports, if it is not cleanly inactive. -/
def unitBlocker (unit : ModeUnit) : ModeProgram W (Option String) := do
  let first ← systemd env (.state unit false)
  if first.cleanlyInactive then pure none
  else do
    let second ← systemd env (.state unit true)
    if second.cleanlyInactive then pure none
    else
      let location :=
        if second.controlGroup ≠ "" then second.controlGroup else "<no cgroup reported>"
      let listed := ", ".intercalate (second.cgroupProcesses.map fun (pid, command) =>
        "PID " ++ toString pid ++ " " ++ command)
      let main :=
        if listed = "" ∧ second.mainPid ≠ 0 then "MainPID " ++ toString second.mainPid else listed
      let processes := if main = "" then "no process details available" else main
      pure (some (unit.name ++ " " ++ second.activeState ++ "/" ++ second.subState ++ ", cgroup "
        ++ location ++ ": " ++ processes))

/-- `_unit_cleanup_status`. -/
def unitCleanupStatus : ModeProgram W (Bool × String) := do
  let mapping ← unitBlocker env .mapping
  let autonomy ← unitBlocker env .autonomy
  let blockers := mapping.toList ++ autonomy.toList
  pure (blockers.isEmpty, "; ".intercalate blockers)

/-- `_wait_for_unit_cleanup`. -/
def waitForUnitCleanup (progress : Option (String → ModeProgram W Unit)) : ModeProgram W Unit :=
  poll env config (unitCleanupStatus env)
    (progress.map fun publish reason =>
      publish ("Stopping previous runtime — waiting for " ++ reason))
    fun last => "timed out waiting for empty mode cgroups" ++ suffix last

/-! ## Readiness -/

/-- No node of either mode in the graph. -/
def nodesGone (counts : NodeCounts) : Bool := modeNodes.all (counts.count · = 0)

/-- `_resources_gone`. -/
def resourcesGone : ModeProgram W Bool := do
  let counts ← ask env .graphNodes
  pure (nodesGone counts)

/-- The unit of a running mode. -/
def unitOf : Mode → ModeUnit
  | .mapping => .mapping
  | _ => .autonomy

/-- The node names that are required and absent, or forbidden and present. -/
def graphReason (mode : Mode) (counts : NodeCounts) : String :=
  let forbidden := if mode = .mapping then autonomyOnlyNodes else []
  let required := commonNodes ++ persistentLocalNodes ++
    if mode = .autonomy then autonomyOnlyNodes else []
  let missing := (required.filter (counts.count · < 1)).insertionSort (· ≤ ·)
  let presentForbidden := (forbidden.filter (counts.count · ≠ 0)).insertionSort (· ≤ ·)
  if missing ≠ [] then "missing node(s): " ++ ", ".intercalate missing
  else if presentForbidden ≠ [] then
    "unexpected node(s): " ++ ", ".intercalate presentForbidden
  else ""

/-- `_structural_reason`: empty when systemd and the graph match the mode. -/
def structuralReason (mode : Mode) : ModeProgram W String := do
  let unit ← systemd env (.state (unitOf mode) false)
  if !unit.active then pure ((unitOf mode).name ++ " is not active/running")
  else do
    let counts ← ask env .graphNodes
    if graphReason mode counts ≠ "" then pure (graphReason mode counts)
    else do
      let owned ← ask env (.ownershipReady mode)
      pure (if owned then "" else "single-writer ownership check failed")

/-- `_ready`. -/
def ready (mode : Mode) : ModeProgram W Bool := do
  let reason ← structuralReason env mode
  pure (reason = "")

/-- `_fully_ready`. -/
def fullyReady (mode : Mode) : ModeProgram W (Bool × String) := do
  let reason ← structuralReason env mode
  if reason ≠ "" then pure (false, reason)
  else do
    let (ok, capabilityReason) ← ask env (.capabilityReady mode)
    pure (ok, if ok then "" else if capabilityReason ≠ "" then capabilityReason
      else "capability not ready")

/-- `refresh`: re-evaluate readiness without changing the lifecycle. -/
def refresh : ModeProgram W RuntimeState := do
  let current ← state
  if current.lifecycle ≠ .stable then do
    setIf current.ready fun s => { s with ready := false }
    state
  else if current.mode = .idle then do
    setIf (!current.ready || current.readinessReason ≠ "") fun s =>
      { s with ready := true, readinessReason := "" }
    state
  else do
    let (ok, reason) ← fullyReady env current.mode
    setIf (ok ≠ current.ready || reason ≠ current.readinessReason) fun s =>
      { s with ready := ok, readinessReason := reason }
    state

/-! ## Transitions -/

/-- The session id of a runtime of the given epoch: fresh for MAPPING, empty otherwise. -/
def sessionOf (mode : Mode) (epoch : ℕ) : ModeProgram W String :=
  if mode = .mapping then do
    let token ← ask env .sessionId
    pure (toString epoch ++ "-" ++ token)
  else pure ""

/-- One stop order; a `RuntimeError` is collected. -/
def stopUnit (unit : ModeUnit) : ModeProgram W (List String) :=
  catching (do systemd env (.stop unit); pure []) ModeError.runtimeError? fun text => pure [text]

/-- Report a phase to a caller that wants to hear of it. -/
def report (progress : Option (String → ModeProgram W Unit)) (detail : String) :
    ModeProgram W Unit :=
  match progress with
  | some publish => publish detail
  | none => pure ()

/-- `_stop_all`. -/
def stopAll (progress : Option (String → ModeProgram W Unit)) : ModeProgram W Unit := do
  report progress "Stopping previous runtime — requesting service stop"
  let mapping ← stopUnit env .mapping
  let autonomy ← stopUnit env .autonomy
  if mapping ++ autonomy ≠ [] then
    raise (.runtimeError ("; ".intercalate (mapping ++ autonomy)))
  else do
    waitForUnitCleanup env config progress
    report progress "Stopping previous runtime — waiting for ROS graph cleanup"
    wait env config (resourcesGone env) "mode-scoped ROS resources to disappear"

/-- `_transition_progress`. -/
def transitionProgress (detail : String) : ModeProgram W Unit := do
  let current ← state
  if detail ≠ current.detail then set fun s => { s with detail, readinessReason := detail }
  else pure ()

/-- `_wait_for_readiness`. -/
def waitForReadiness (mode : Mode) : ModeProgram W Unit :=
  poll env config (fullyReady env mode)
    (some fun reason => transitionProgress ("Starting " ++ mode.name ++ " — " ++ reason))
    fun last => "timed out waiting for " ++ mode.name ++ " readiness" ++ suffix last

/-- `_wait_for_quiescence`. -/
def waitForQuiescence : ModeProgram W Unit :=
  poll env config (ask env .quiescenceReady)
    (some fun reason => transitionProgress ("Resetting MAPPING — " ++
      if reason ≠ "" then reason else "waiting for motion to become safe"))
    fun last => "timed out waiting for confirmed stationary state" ++ suffix last

/-- `_fail`. -/
def fail (detail : String) : ModeProgram W RuntimeState := do
  let cleanup ← catching (do stopAll env config none; pure "") ModeError.runtimeError?
    fun text => pure ("; cleanup failed: " ++ text)
  set fun s => s.faulted (detail ++ cleanup) detail
  state

/-- Publish the idle state. -/
def setIdle : ModeProgram W RuntimeState := do
  set RuntimeState.idled
  state

/-- The map of an adopted runtime: for AUTONOMY the stored one, which must be complete. -/
def adoptedMap (mode : Mode) (current : String) : ModeProgram W String :=
  if mode = .autonomy then do
    let stored ← disk env .storedMap
    disk env (.validateMapBundle stored)
    pure stored
  else pure current

/-- Adopt the one active unit that `reconcile` found. -/
def adopt (mode : Mode) : ModeProgram W RuntimeState := do
  let current ← state
  let selectedMap ← adoptedMap env mode current.activeAutonomyMap
  let (ok, reason) ← fullyReady env mode
  let sessionId ← sessionOf env mode (current.runtimeEpoch + 1)
  set fun s => { s with
    mode
    lifecycle := .stable
    activeAutonomyMap := selectedMap
    detail := ""
    runtimeEpoch := max s.runtimeEpoch 1
    mappingSessionId := sessionId
    ready := ok
    readinessReason := reason }
  state

/-- A freshly active unit gets a bounded grace period for its graph. -/
def adoptWhenReady (mode : Mode) : ModeProgram W RuntimeState := do
  let now ← ready env mode
  if now then adopt env mode
  else do
    let partialGraph ← catching
      (do wait env config (ready env mode) (mode.name ++ " graph discovery"); pure none)
      ModeError.runtimeError? fun _ => do
        let reason ← structuralReason env mode
        pure (some (mode.name ++ " unit is active but graph is partial: " ++ reason))
    match partialGraph with
    | some detail => fail env config detail
    | none => adopt env mode

/-- `reconcile`: derive the actual mode from systemd. -/
def reconcile : ModeProgram W RuntimeState :=
  catching
    (do
      let mapping ← systemd env (.state .mapping false)
      let autonomy ← systemd env (.state .autonomy false)
      let states := [(ModeUnit.mapping, mapping), (ModeUnit.autonomy, autonomy)]
      let active := (states.filter fun (_, s) => s.active).map (·.1)
      let ambiguous :=
        (states.filter fun (_, s) => !s.active && !s.cleanlyInactive).map (·.1)
      if ambiguous ≠ [] ∨ 1 < active.length then
        fail env config ("ambiguous systemd mode state: " ++
          ", ".intercalate ((if ambiguous ≠ [] then ambiguous else active).map ModeUnit.name))
      else
        match active with
        | [] => do
          let gone ← resourcesGone env
          if !gone then
            fail env config "mode-scoped ROS resources exist outside active mode units"
          else setIdle
        | unit :: _ =>
          adoptWhenReady env config (if unit = .mapping then .mapping else .autonomy))
    ModeError.caught? fun text => fail env config ("reconciliation failed: " ++ text)

/-- NEW MAP needs an active stable mapping session. -/
def newMapPossible (current : RuntimeState) : Bool :=
  current.lifecycle = .stable && current.mode = .mapping && current.mappingSessionId ≠ ""

/-- The refusal of NEW MAP when the vehicle does not come to rest. -/
def refuseNewMap (previous : RuntimeState) (text : String) : ModeProgram W RuntimeState := do
  let (ok, reason) ← fullyReady env .mapping
  set fun s => { s with
    mode := previous.mode
    lifecycle := .stable
    detail := "NEW MAP rejected: " ++ text
    runtimeEpoch := previous.runtimeEpoch
    mappingSessionId := previous.mappingSessionId
    ready := ok
    readinessReason := reason }
  state

/-- Prepare the unit of the requested mode. -/
def prepareUnit (requested : Mode) (autonomyMap : String) : ModeProgram W ModeUnit :=
  if requested = .autonomy then do
    transitionProgress ("Validating selected map — " ++ autonomyMap)
    disk env (.validateMapBundle autonomyMap)
    disk env (.writeMap autonomyMap)
    pure .autonomy
  else pure .mapping

/-- The part of `transition` inside its last `try`. -/
def replaceRuntime (requested : Mode) (autonomyMap : String) : ModeProgram W RuntimeState := do
  stopAll env config (some transitionProgress)
  if requested = .idle then setIdle
  else do
    let unit ← prepareUnit env requested autonomyMap
    transitionProgress ("Starting " ++ requested.name ++ " — requesting " ++ unit.name)
    systemd env (.start unit)
    transitionProgress ("Starting " ++ requested.name ++ " — waiting for runtime readiness")
    waitForReadiness env config requested
    let (ok, reason) ← fullyReady env requested
    let current ← state
    let sessionId ← sessionOf env requested (current.runtimeEpoch + 1)
    set fun s => { s with
      mode := requested
      lifecycle := .stable
      detail := ""
      runtimeEpoch := current.runtimeEpoch + 1
      mappingSessionId := sessionId
      ready := ok
      readinessReason := reason
      activeAutonomyMap := if requested = .autonomy then autonomyMap else s.activeAutonomyMap }
    state

/-- The barrier of NEW MAP: wait for the vehicle to come to rest, or refuse the request. -/
def quiesce (previous : RuntimeState) (newMap : Bool) : ModeProgram W (Option RuntimeState) :=
  if newMap then
    catching (do waitForQuiescence env config; pure none) ModeError.runtimeError? fun text => do
      let result ← refuseNewMap env previous text
      pure (some result)
  else pure none

/-- `begin_quiescence` before a NEW MAP. -/
def armQuiescence (newMap : Bool) : ModeProgram W Unit :=
  if newMap then ask env .beginQuiescence else pure ()

/-- The part of `transition` after the request is accepted for execution. -/
def execute (requested : Mode) (requestId : ℤ) (autonomyMap : String) (newMap : Bool) :
    ModeProgram W RuntimeState := do
  let detail :=
    if newMap then "starting fresh mapping session" else "transitioning to " ++ requested.name
  let previous ← state
  armQuiescence env newMap
  set fun s => { s with
    lifecycle := .transitioning
    acceptedRequestId := requestId
    detail
    ready := false
    readinessReason := detail
    mappingSessionId := "" }
  let refused ← quiesce env config previous newMap
  match refused with
  | some result => pure result
  | none =>
    catching (replaceRuntime env config requested autonomyMap) ModeError.caught? fun text =>
      fail env config (requested.name ++ " transition failed: " ++ text)

/-- `transition`; a request that is no `Mode` is `none`. -/
def transition (requested : Option Mode) (requestId : ℤ) (autonomyMap : String)
    (operation : ℤ) : ModeProgram W RuntimeState := do
  let current ← state
  if requestId ≤ current.acceptedRequestId then pure current
  else
    match requested with
    | none => pure current
    | some requested =>
      let newMap := operation = opNewMap && requested = .mapping
      let sameSelection :=
        requested ≠ .autonomy || autonomyMap = current.activeAutonomyMap
      if requested = .autonomy ∧ autonomyMap = "" then do
        set fun s => { s with
          acceptedRequestId := requestId
          detail := "AUTONOMY needs a selected map" }
        state
      else if newMap && !newMapPossible current then do
        set fun s => { s with
          acceptedRequestId := requestId
          detail := "NEW MAP rejected: requires an active stable MAPPING session" }
        state
      else if !newMap && current.lifecycle = .stable && requested = current.mode &&
          sameSelection then do
        set fun s => { s with acceptedRequestId := requestId }
        state
      else execute env config requested requestId autonomyMap newMap

/-- One public call. -/
def perform (call : RuntimeCall) : ModeProgram W RuntimeState := do
  Program.modify fun m => { m with trace := .called call :: m.trace }
  match call with
  | .transition requested requestId autonomyMap operation =>
    transition env config requested requestId autonomyMap operation
  | .reconcile => reconcile env config
  | .refresh => refresh env

/-- The machine after one public call, whether it returns or raises. -/
def step (m : ModeMachine W) (call : RuntimeCall) : ModeMachine W :=
  (perform env config call m).2

end ModeRuntime

end PreRunner.Paddock
