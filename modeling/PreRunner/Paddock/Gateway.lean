import PreRunner.PyValue
import PreRunner.Paddock.CommandSupervisor

/-!
# The operator gateway

One browser connection at a time holds the control lease. `handle` validates one browser action
and translates it into intents for the ROS layer. This module follows
`runner_paddock/gateway.py` action by action. A handler returns its result and the next gateway,
or the Python exception it raises; every exception is raised before the gateway changes.
-/

namespace PreRunner.Paddock

/-- One `/paddock/control_event` message. -/
structure ControlEventIntent where
  event : ControlEvent
  sequence : Nat
  clientId : String
  leaseId : String
  goalFrame : String := "map"
  goalX : PyFloat := .finite 0
  goalY : PyFloat := .finite 0
  goalYaw : PyFloat := .finite 0
  manualSpeedMps : PyFloat := .finite 0
  manualSteering : PyFloat := .finite 0
  deriving DecidableEq, Repr

/-- Operations of a `/paddock/mode_request`. -/
inductive ModeOperation where
  | selectRuntime
  | newMap
  deriving DecidableEq, Repr

/-- Operations of a `/paddock/map_request`. -/
inductive MapOperation where
  | newMap
  | saveMap
  | selectMap
  | deleteMap
  deriving DecidableEq, Repr

inductive RecordingOperation where
  | start
  | stop
  | delete
  deriving DecidableEq, Repr

/-- What the ROS layer is asked to do. -/
inductive Intent where
  | control (event : ControlEventIntent)
  | modeRequest (mode : Mode) (operation : ModeOperation) (leaseId : String)
      (autonomyMap : String := "")
  | mapRequest (operation : MapOperation) (leaseId : String) (name : String := "")
      (sessionId : String := "")
  | saveSemantics (name classDataBase64 : String)
  | configRequest (leaseId : String) (expectedRevision : Int) (field : String) (value : PyFloat)
  | clearCostmaps
  | obstacleProcessing (costmap : String) (enabled : Bool)
  | autonomyTuning (values : PyDict) (save : Bool := false)
  | saveSpeedProfile (name : String) (values : PyDict)
  | deleteSpeedProfile (name : String)
  | initialPose (x y yaw : PyFloat) (frame : String := "map")
  | recordingRequest (operation : RecordingOperation) (leaseId : String) (name : String := "")
      (profile : String := "")

/-- The control event of an intent, if it is one. -/
def Intent.control? : Intent → Option ControlEventIntent
  | control event => some event
  | _ => none

inductive Role where
  | observer
  | controller
  deriving DecidableEq, Repr

/-- Outcome of one browser action. -/
structure GatewayResult where
  accepted : Bool
  reason : String
  intents : List Intent := []
  role : Role := .observer

/-- The fields of `OperatorGateway`. The id factory is the sequence of ids it returns. -/
structure OperatorGateway where
  uuidFactory : Nat → String
  uuidCount : Nat := 0
  sequence : Nat := 0
  ownerConn : Option String := none
  clientId : String := ""
  leaseId : String := ""
  runPressed : Bool := false
  manualActive : Bool := false

namespace OperatorGateway

def leaseHeld (g : OperatorGateway) : Bool := g.ownerConn.isSome

def roleFor (g : OperatorGateway) (conn : String) : Role :=
  if g.ownerConn = some conn then .controller else .observer

/-! ## Helpers -/

def reject (g : OperatorGateway) (conn reason : String) : GatewayResult :=
  { accepted := false, reason, role := g.roleFor conn }

/-- Number and address the next control event. -/
def control (g : OperatorGateway) (event : ControlEvent) : ControlEventIntent × OperatorGateway :=
  let g := { g with sequence := g.sequence + 1 }
  ({ event, sequence := g.sequence, clientId := g.clientId, leaseId := g.leaseId }, g)

/-- The outcome of a handler. -/
abbrev Outcome := Except PyError (GatewayResult × OperatorGateway)

/-- A handler that answers and leaves the gateway as it is. -/
def answer (g : OperatorGateway) (result : GatewayResult) : Outcome := .ok (result, g)

/-- Accept an action of the owner. -/
def accept (g : OperatorGateway) (reason : String) (intents : List Intent) : Outcome :=
  .ok ({ accepted := true, reason, intents, role := .controller }, g)

/-- Accept an action of the owner that is one control event. -/
def acceptControl (g : OperatorGateway) (reason : String) (event : ControlEvent)
    (fields : ControlEventIntent → ControlEventIntent := id) : Outcome :=
  let (intent, g) := g.control event
  g.accept reason [.control (fields intent)]

/-- The guard `_require_owner` at the start of a handler. -/
def requireOwner (g : OperatorGateway) (conn : String) (handler : Outcome) : Outcome :=
  if g.ownerConn ≠ some conn then
    g.answer (g.reject conn "this session does not hold the lease")
  else handler

/-- The reduction of `except (KeyError, TypeError, ValueError)`: reject, but let an
`OverflowError` pass. -/
def catching {α : Type} (g : OperatorGateway) (conn reason : String) (value : Except PyError α)
    (handler : α → Outcome) : Outcome :=
  match value with
  | .ok value => handler value
  | .error .overflowError => .error .overflowError
  | .error _ => g.answer (g.reject conn reason)

/-- The guard on a stripped name that must not be empty. -/
def requireName (g : OperatorGateway) (t : PyText) (conn : String) (action : PyDict)
    (missing : String) (handler : String → Outcome) : Outcome :=
  let name := t.strip (action.text t "name" "")
  if name = "" then g.answer (g.reject conn missing) else handler name

/-- The guard on a `values` field that must be an object. -/
def requireValues (g : OperatorGateway) (conn : String) (action : PyDict) (reason : String)
    (handler : PyDict → Outcome) : Outcome :=
  match (action.get? "values").getD (.dict []) with
  | .dict values => handler values
  | _ => g.answer (g.reject conn reason)

/-! ## Lifecycle -/

/-- The gateway without an owner. -/
def disowned (g : OperatorGateway) : OperatorGateway :=
  { g with
    ownerConn := none
    clientId := ""
    leaseId := ""
    runPressed := false
    manualActive := false }

/-- The gateway with a new owner and fresh ids. -/
def owned (g : OperatorGateway) (conn : String) : OperatorGateway :=
  { g with
    ownerConn := some conn
    clientId := g.uuidFactory g.uuidCount
    leaseId := g.uuidFactory (g.uuidCount + 1)
    uuidCount := g.uuidCount + 2 }

/-- Release the lease if this connection held it. -/
def onDisconnect (g : OperatorGateway) (conn : String) : GatewayResult × OperatorGateway :=
  if g.ownerConn ≠ some conn then ({ accepted := true, reason := "observer disconnected" }, g)
  else
    let (intent, g) := g.control .leaseReleased
    ({ accepted := true, reason := "lease released on disconnect", intents := [.control intent] },
      g.disowned)

/-! ## Actions -/

section

variable (t : PyText) (g : OperatorGateway) (conn : String) (action : PyDict)

def doAcquire : Outcome :=
  if g.ownerConn = some conn then g.accept "already holding the lease" []
  else if g.ownerConn.isSome then
    g.answer { accepted := false, reason := "another session holds the control lease" }
  else
    acceptControl { g.owned conn with runPressed := false, manualActive := false }
      "control lease acquired" .leaseAcquired

/-- Revoke the current owner, then grant a fresh lease. -/
def doTakeover : Outcome :=
  if g.ownerConn = some conn then g.accept "already holding the lease" []
  else if g.ownerConn = none then g.doAcquire conn
  else
    let (lost, g) := g.control .leaseLost
    let (acquired, g) := (g.disowned.owned conn).control .leaseAcquired
    g.accept "control lease taken over" [.control lost, .control acquired]

def doRelease : Outcome :=
  if g.ownerConn ≠ some conn then g.answer (g.reject conn "not the lease owner")
  else .ok (g.onDisconnect conn)

def doHeartbeat : Outcome := g.requireOwner conn (g.acceptControl "heartbeat" .heartbeat)

def doRun : Outcome :=
  g.requireOwner conn <|
    let held := action.flag "held"
    if held && !g.runPressed then
      acceptControl { g with runPressed := true } "RUN pressed" .runPressed
    else if held && g.runPressed then g.acceptControl "RUN held" .heartbeat
    else if !held && g.runPressed then
      acceptControl { g with runPressed := false } "RUN released" .runReleased
    else g.accept "RUN idle" []

def doStop : Outcome :=
  g.requireOwner conn <|
    acceptControl { g with runPressed := false, manualActive := false } "STOP requested" .stop

def doClearStop : Outcome :=
  g.requireOwner conn (g.acceptControl "CLEAR STOP requested" .clearStop)

/-- Validate one fresh joystick sample or explicit release. -/
def doManual : Outcome :=
  g.requireOwner conn <|
    if action.flag "active" = false then
      if g.manualActive = false then g.accept "manual idle" []
      else acceptControl { g with manualActive := false } "manual released" .manualInactive
    else
      let reason := "manual needs finite speed and steering"
      g.catching conn reason
        (do return (← action.floatAt t "speed_mps", ← action.floatAt t "steering"))
        fun (speed, steering) =>
          if [speed, steering].all PyFloat.isfinite = false then g.answer (g.reject conn reason)
          else
            acceptControl { g with manualActive := true, runPressed := false } "manual demand"
              .manualActive fun intent =>
                { intent with manualSpeedMps := speed, manualSteering := steering }

def doClearObstacles : Outcome :=
  g.requireOwner conn (g.accept "Nav2 costmap clear requested" [.clearCostmaps])

/-- Validate an explicit live obstacle-layer state. -/
def doSetObstacleProcessing : Outcome :=
  g.requireOwner conn <|
    let costmap := t.lower (t.strip (action.text t "costmap" ""))
    if costmap ≠ "global" ∧ costmap ≠ "local" then
      g.answer (g.reject conn "obstacle processing costmap must be global or local")
    else
      match action.get? "enabled" with
      | some (.bool enabled) =>
        g.accept (costmap ++ " obstacle processing " ++ (if enabled then "ON" else "OFF") ++
          " requested") [.obstacleProcessing costmap enabled]
      | _ => g.answer (g.reject conn "obstacle processing enabled must be boolean")

def doSetAutonomyTuning : Outcome :=
  g.requireOwner conn <|
    g.requireValues conn action "autonomy tuning values must be an object" fun values =>
      g.accept "autonomy tuning requested" [.autonomyTuning values]

def doSaveAutonomyTuning : Outcome :=
  g.requireOwner conn <|
    g.requireValues conn action "autonomy tuning values must be an object" fun values =>
      g.accept "autonomy tuning override save requested" [.autonomyTuning values true]

def doSaveSpeedProfile : Outcome :=
  g.requireOwner conn <|
    g.requireName t conn action "save requires a profile name" fun name =>
      g.requireValues conn action "speed profile values must be an object" fun values =>
        g.accept ("SAVE SPEED PROFILE " ++ name ++ " requested") [.saveSpeedProfile name values]

def doDeleteSpeedProfile : Outcome :=
  g.requireOwner conn <|
    g.requireName t conn action "delete requires a profile name" fun name =>
      g.accept ("DELETE SPEED PROFILE " ++ name ++ " requested") [.deleteSpeedProfile name]

/-- Validate one allowlisted configuration request. -/
def doSetConfig : Outcome :=
  g.requireOwner conn <|
    let field := action.text t "field" ""
    if field ≠ "manual_max_speed_mps" then
      g.answer (g.reject conn "unsupported configuration field")
    else
      let reason := "configuration value/revision invalid"
      g.catching conn reason
        (do return (← action.floatAt t "value", ← action.intAt t "expected_revision"))
        fun (value, revision) =>
          if value.isfinite = false ∨ revision < 0 then g.answer (g.reject conn reason)
          else
            g.accept (field ++ " configuration requested")
              [.configRequest g.leaseId revision field value]

def doStartRecording : Outcome :=
  g.requireOwner conn <|
    g.accept "recording start requested"
      [.recordingRequest .start g.leaseId (t.strip (action.text t "name" ""))
        (t.strip (action.text t "profile" "runner_debug"))]

def doStopRecording : Outcome :=
  g.requireOwner conn (g.accept "recording stop requested" [.recordingRequest .stop g.leaseId])

def doDeleteRecording : Outcome :=
  g.requireOwner conn <|
    g.requireName t conn action "delete requires a recording name" fun name =>
      g.accept ("recording delete " ++ name ++ " requested")
        [.recordingRequest .delete g.leaseId name]

def doSelectMode : Outcome :=
  g.requireOwner conn <|
    let select (mode : Mode) : Outcome :=
      g.accept ("runtime " ++ t.str ((action.get? "mode").getD .none) ++ " requested")
        [.modeRequest mode .selectRuntime g.leaseId]
    match t.lower (action.text t "mode" "") with
    | "idle" => select .idle
    | "mapping" => select .mapping
    | "autonomy" => select .autonomy
    | _ => g.answer (g.reject conn "mode must be idle, mapping or autonomy")

def doNewMap : Outcome :=
  g.requireOwner conn (g.accept "NEW MAP requested" [.mapRequest .newMap g.leaseId])

/-- The three map actions that name a bundle. -/
def doNamedMap (operation : MapOperation) (verb missing : String) : Outcome :=
  g.requireOwner conn <|
    g.requireName t conn action missing fun name =>
      g.accept (verb ++ " MAP " ++ name ++ " requested") [.mapRequest operation g.leaseId name]

def doSaveMap : Outcome :=
  doNamedMap t g conn action .saveMap "SAVE" "save requires a map basename"

def doSelectMap : Outcome :=
  doNamedMap t g conn action .selectMap "SELECT" "select requires a map basename"

def doDeleteMap : Outcome :=
  doNamedMap t g conn action .deleteMap "DELETE" "delete requires a map basename"

/-- Validate one semantic-raster save. -/
def doSaveSemantics : Outcome :=
  g.requireOwner conn <|
    g.requireName t conn action "save requires a map basename" fun name =>
      let missing := g.answer (g.reject conn "save requires base64 class data")
      match action.get? "class_data" with
      | some (.str classData) =>
        if classData = "" then missing
        else
          g.accept ("SAVE SEMANTICS " ++ name ++ " requested") [.saveSemantics name classData]
      | _ => missing

/-- The pose and frame checks shared by the goal and the initial pose. -/
def requirePose (what : String) (handler : PyFloat → PyFloat → PyFloat → String → Outcome) :
    Outcome :=
  let reason := what ++ " needs finite x, y and yaw"
  g.catching conn reason
    (do return (← action.floatAt t "x", ← action.floatAt t "y", ← action.floatOr0 t "yaw"))
    fun (x, y, yaw) =>
      if [x, y, yaw].all PyFloat.isfinite = false then g.answer (g.reject conn reason)
      else
        let named := action.text t "frame" "map"
        let frame := if named = "" then "map" else named
        if frame ≠ "map" then g.answer (g.reject conn (what ++ " frame must be map"))
        else handler x y yaw frame

def doSelectGoal : Outcome :=
  g.requireOwner conn <|
    requirePose t g conn action "goal" fun x y yaw frame =>
      g.acceptControl ("goal (" ++ t.format2 x ++ ", " ++ t.format2 y ++ ", " ++ t.format2 yaw ++
        ") selected") .goalSelected fun intent =>
          { intent with goalFrame := frame, goalX := x, goalY := y, goalYaw := yaw }

/-- Validate a localization seed; accepting it stops the robot first. -/
def doSetInitialPose : Outcome :=
  g.requireOwner conn <|
    requirePose t g conn action "initial pose" fun x y yaw frame =>
      let (stop, g) := control { g with runPressed := false, manualActive := false } .stop
      g.accept ("initial pose (" ++ t.format2 x ++ ", " ++ t.format2 y ++ ", " ++ t.format2 yaw ++
        ") requested") [.control stop, .initialPose x y yaw frame]

/-- The handler `_do_<name>`, if the class has one. -/
def handler (name : String) : Option Outcome :=
  match name with
  | "acquire" => some (g.doAcquire conn)
  | "takeover" => some (g.doTakeover conn)
  | "release" => some (g.doRelease conn)
  | "heartbeat" => some (g.doHeartbeat conn)
  | "run" => some (g.doRun conn action)
  | "stop" => some (g.doStop conn)
  | "clear_stop" => some (g.doClearStop conn)
  | "manual" => some (g.doManual t conn action)
  | "clear_obstacles" => some (g.doClearObstacles conn)
  | "set_obstacle_processing" => some (g.doSetObstacleProcessing t conn action)
  | "set_autonomy_tuning" => some (g.doSetAutonomyTuning conn action)
  | "save_autonomy_tuning" => some (g.doSaveAutonomyTuning conn action)
  | "save_speed_profile" => some (g.doSaveSpeedProfile t conn action)
  | "delete_speed_profile" => some (g.doDeleteSpeedProfile t conn action)
  | "set_config" => some (g.doSetConfig t conn action)
  | "start_recording" => some (g.doStartRecording t conn action)
  | "stop_recording" => some (g.doStopRecording conn)
  | "delete_recording" => some (g.doDeleteRecording t conn action)
  | "select_mode" => some (g.doSelectMode t conn action)
  | "new_map" => some (g.doNewMap conn)
  | "save_map" => some (g.doSaveMap t conn action)
  | "select_map" => some (g.doSelectMap t conn action)
  | "delete_map" => some (g.doDeleteMap t conn action)
  | "save_semantics" => some (g.doSaveSemantics t conn action)
  | "select_goal" => some (g.doSelectGoal t conn action)
  | "set_initial_pose" => some (g.doSetInitialPose t conn action)
  | _ => none

end

/-- Validate and translate one browser action message. -/
def handle (t : PyText) (g : OperatorGateway) (conn : String) (action : PyValue) : Outcome :=
  match action with
  | .dict action =>
    let name := (PyDict.get? action "action").getD .none
    let unknown := g.answer (g.reject conn ("unknown action " ++ t.repr name))
    match name with
    | .str name => (handler t g conn action name).getD unknown
    | _ => unknown
  | _ => g.answer (g.reject conn "action must be an object")

end OperatorGateway

end PreRunner.Paddock
