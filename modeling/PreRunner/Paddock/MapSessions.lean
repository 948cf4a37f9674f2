import PreRunner.Interfaces
import PreRunner.Maps.SaveTransaction

/-!
# Map sessions and their saves

`MapSessionModel` follows the mapping sessions of the mode supervisor and records how saves end.
`MapSessionNode` runs one save at a time in a thread of its own, while its other callbacks keep
observing the runtime, so a save is a chain of steps that observations may come between. Before its
first file operation it publishes that it runs, and what it publishes holds the map catalog, which
is scanned anew when the map root has changed. This module follows `runner_paddock/map_session.py`
and the save of `runner_paddock/map_session_node.py`. The other map requests are those of
`MapExecutor`.
-/

namespace PreRunner.Paddock

open Maps

/-! ## The model -/

/-- `SessionPhase`. -/
inductive SessionPhase where
  | none
  | starting
  | ready
  | saving
  | saved
  | failed
  deriving DecidableEq, Repr

/-- The lifecycle of one mapping SLAM session. -/
structure MappingSession where
  sessionId : String := ""
  runtimeEpoch : ℤ := 0
  created : ℚ := 0
  phase : SessionPhase := .none
  unsaved : Bool := false
  savedName : String := ""
  savedRevision : String := ""
  evidenceAt : Option ℚ := none
  deriving DecidableEq

namespace MappingSession

def evidenceTimeout : ℚ := 8

def active (session : MappingSession) : Bool := session.sessionId ≠ "" && session.phase ≠ .none

/-- Current-session evidence must be recent, not merely ever-seen. -/
def ready (session : MappingSession) (now : ℚ) : Bool :=
  session.active && (session.phase = .ready || session.phase = .saved) &&
    session.evidenceAt.any fun at_ => now - at_ ≤ evidenceTimeout

end MappingSession

structure MapSessionModel where
  session : MappingSession := {}
  saveState : SaveState := .idle
  saveRequestId : ℤ := 0
  saveDetail : SaveDetail := .empty
  saveResults : ℤ → Option SaveOutcome := fun _ => none

namespace MapSessionModel

/-- Follow the mode state; a new session id discards all prior session state. -/
def observeRuntime (model : MapSessionModel) (mappingActive : Bool) (sessionId : String)
    (runtimeEpoch : ℤ) (now : ℚ) : MapSessionModel :=
  if !mappingActive || sessionId = "" then
    if model.session.active then { model with session := {} } else model
  else if sessionId ≠ model.session.sessionId then
    let model := { model with
      session := { sessionId, runtimeEpoch, created := now, phase := .starting, unsaved := true } }
    if model.saveState = .running then
      { model with saveState := .failed, saveDetail := .sessionChanged }
    else model
  else model

/-- `/map` has updated for the current session. -/
def observeMapEvidence (model : MapSessionModel) (producedAfter : Bool) (now : ℚ) :
    MapSessionModel :=
  if !model.session.active || !producedAfter then model
  else
    { model with
      session := { model.session with
        evidenceAt := some now
        phase := if model.session.phase = .starting then .ready else model.session.phase } }

/-- Recompute the derived phase. -/
def refresh (model : MapSessionModel) (now : ℚ) : MapSessionModel :=
  if model.session.active && (model.session.phase = .ready || model.session.phase = .saved) &&
      !model.session.ready now then
    { model with session := { model.session with phase := .starting } }
  else model

def cachedSave (model : MapSessionModel) (requestId : ℤ) : Option SaveOutcome :=
  model.saveResults requestId

def recordSave (model : MapSessionModel) (requestId : ℤ) (outcome : SaveOutcome) :
    MapSessionModel :=
  let model := { model with
    saveResults := Function.update model.saveResults requestId (some outcome)
    saveRequestId := requestId, saveState := outcome.state, saveDetail := outcome.detail }
  if outcome.state = .succeeded then
    { model with
      session := { model.session with
        unsaved := false, savedName := outcome.name, savedRevision := outcome.revision
        phase := .saved } }
  else if outcome.state = .failed && model.session.active && model.session.phase = .saving then
    { model with session := { model.session with phase := .ready } }
  else model

def beginSave (model : MapSessionModel) (requestId : ℤ) : MapSessionModel :=
  { model with
    saveRequestId := requestId, saveState := .running, saveDetail := .serializing
    session :=
      if model.session.active then { model.session with phase := .saving } else model.session }

end MapSessionModel

/-! ## The node -/

/-- The fields of a `ModeState` that the sessions follow. -/
structure SessionModeState where
  mode : ℤ
  status : ℤ
  ready : Bool
  mappingSessionId : String
  runtimeEpoch : ℤ

def SessionModeState.modeMapping : ℤ := 1
def SessionModeState.statusStable : ℤ := 0

/-- The fields of a `MapRequest` that a save reads. -/
structure SaveRequest where
  requestId : ℤ
  leaseId : String
  name : String
  sessionId : String
  deriving DecidableEq

/-- The fields of `/map` that a save reads. -/
structure OccupancyGrid where
  width : ℕ
  height : ℕ
  resolution : PyFloat
  positionX : PyFloat
  positionY : PyFloat
  orientationZ : PyFloat
  orientationW : PyFloat
  data : List ℤ

/-- The variables of `_run_save`. -/
structure SaveRun where
  requestId : ℤ
  txn : MapSaveTransaction

/-- Where the request thread stands: what it does next. -/
inductive SaveTask where
  /-- No request runs. -/
  | free
  /-- At the beginning of `_handle_save_map`. -/
  | received (message : SaveRequest)
  /-- At this check of the request; the session id has been read. -/
  | checking (message : SaveRequest) (sessionId : String) (check : ℕ)
  | beginning (message : SaveRequest) (sessionId : String)
  /-- Before the `_publish_state` that follows `begin_save`. -/
  | announcing (message : SaveRequest) (sessionId : String)
  | preparing (run : SaveRun)
  | waitingForService (run : SaveRun)
  | serializing (run : SaveRun)
  | checkingFiles (run : SaveRun)
  | capturing (run : SaveRun)
  | writing (run : SaveRun) (raster : OccupancyRaster)
  | validating (run : SaveRun)
  | comparing (run : SaveRun)
  | publishing (run : SaveRun)
  /-- Before `record_save`. -/
  | recording (requestId : ℤ) (outcome : SaveOutcome)
  /-- An exception has left the callback, and `spin` with it. -/
  | raised

structure MapSessionNode where
  model : MapSessionModel := {}
  leaseActive : Bool := false
  leaseId : String := ""
  modeReady : Bool := false
  lastRequestId : ℤ := 0
  /-- `_stop_state`, `locked` and `stopped`, and when it was heard. -/
  stopState : Option (Bool × Bool × ℚ) := none
  task : SaveTask := .free
  files : FileSystem

/-- One look at the last grid: when, the grid, and when it was heard. -/
structure Poll where
  now : ℚ
  last : Option (OccupancyGrid × ℚ)

/-- What a publication finds at the map root. Times and sizes of what is there are no part of the
files, so whether the key of the last scan has changed is told here. -/
structure CatalogLook where
  /-- The key of the last scan, with the selection, is still that of the map root. -/
  unchanged : Bool
  selected : String
  names : List String
  names_nodup : names.Nodup
  statFails : FilePath → Bool
  /-- The message class does not take a value, or the publisher raises. -/
  sendFails : Bool

def CatalogLook.disk (look : CatalogLook) (files : FileSystem) : Disk where
  files
  names := look.names
  names_nodup := look.names_nodup
  statFails := look.statFails

/-- What the request thread meets in one step. -/
structure Work where
  now : ℚ
  ops : FileOps
  look : CatalogLook
  /-- `wait_for_service`. -/
  serviceReady : Bool
  /-- The future has not ended in time, its result, or its exception. -/
  answer : Option (Except Unit (Option ℤ))
  polls : List Poll
  lastPoll : Poll
  created : PyValue

/-- The steps of the node. -/
inductive SaveInput where
  | lease (active : Bool) (leaseId : String)
  | stopState (locked stopped : Bool) (now : ℚ)
  | modeState (message : SessionModeState) (now : ℚ)
  | map (now : ℚ)
  | timer (now : ℚ)
  | request (message : SaveRequest)
  /-- A serialization that has not been waited for writes its files. -/
  | lateFiles (left : FileSystem)
  | work (w : Work)

namespace MapSessionNode

def stopStateTimeoutSec : ℚ := 1
def sessionEvidenceGraceSec : ℚ := 2
def saveRasterTimeoutSec : ℚ := 15

variable (lib : SaveLibrary) (mapDir : FilePath)

/-! ### Observations -/

def onModeState (node : MapSessionNode) (message : SessionModeState) (now : ℚ) : MapSessionNode :=
  let mappingActive :=
    message.mode = SessionModeState.modeMapping && message.status = SessionModeState.statusStable
  { node with
    modeReady := message.ready
    model := node.model.observeRuntime mappingActive message.mappingSessionId
      message.runtimeEpoch now }

def onMap (node : MapSessionNode) (now : ℚ) : MapSessionNode :=
  let producedAfter :=
    node.model.session.active && sessionEvidenceGraceSec ≤ now - node.model.session.created
  { node with model := node.model.observeMapEvidence producedAfter now }

def onTimer (node : MapSessionNode) (now : ℚ) : MapSessionNode :=
  { node with model := node.model.refresh now }

def stopInhibited (node : MapSessionNode) (now : ℚ) : Bool :=
  node.stopState.any fun (locked, stopped, at_) =>
    now - at_ ≤ stopStateTimeoutSec && (locked || stopped)

/-! ### Requests -/

def authorized (node : MapSessionNode) (message : SaveRequest) : Bool :=
  node.leaseActive && message.leaseId ≠ "" && message.leaseId = node.leaseId

/-- `_on_map_request` of a save, up to the handler. -/
def onMapRequest (node : MapSessionNode) (message : SaveRequest) : MapSessionNode :=
  if !node.authorized message || message.requestId ≤ node.lastRequestId then node
  else { node with lastRequestId := message.requestId, task := .received message }

/-- The checks of a request, each of which reads the node anew. -/
def checks (message : SaveRequest) (sessionId : String) (now : ℚ) :
    List (MapSessionNode → Option SaveDetail) :=
  [ fun node => if node.model.session.active then none else some .noSession,
    fun _ => if message.sessionId = sessionId then none else some .otherSession,
    fun node =>
      if node.model.session.phase = .starting ∨ node.model.session.phase = .none then
        some .sessionNotReady
      else none,
    fun node => if node.modeReady then none else some .runtimeNotReady,
    fun node => if node.stopInhibited now then none else some .notStopped,
    fun node => if node.model.saveState = .running then some .inFlight else none ]

def failure (detail : SaveDetail) : SaveOutcome := { state := .failed, detail }

/-- `_to_raster`. -/
def toRaster (grid : OccupancyGrid) : Option OccupancyRaster :=
  match grid.resolution with
  | .finite resolution =>
    if resolution ≤ 0 then none
    else some {
      width := grid.width, height := grid.height, resolution := grid.resolution
      originX := grid.positionX, originY := grid.positionY
      originYaw := lib.yaw grid.orientationZ grid.orientationW, data := grid.data }
  | _ => none

/-- The last grid, if it is fresh. -/
def freshRaster (poll : Poll) : Option OccupancyRaster :=
  match poll.last with
  | some (grid, received) =>
    if poll.now - received ≤ saveRasterTimeoutSec then toRaster lib grid else none
  | none => none

/-- `_capture_raster`: the first grid heard after the call, else the last one if it is fresh. -/
def captureRaster (start : ℚ) (lastPoll : Poll) : List Poll → Option OccupancyRaster
  | [] => freshRaster lib lastPoll
  | poll :: polls =>
    if poll.now < start + saveRasterTimeoutSec then
      match poll.last with
      | some (grid, received) =>
        if start ≤ received then toRaster lib grid else captureRaster start lastPoll polls
      | none => captureRaster start lastPoll polls
    else freshRaster lib lastPoll

/-- `catalog`: the map root is scanned if its key has changed. An `OSError` of the scan, or another
exception that it lets through, is raised. -/
def catalog (files : FileSystem) (look : CatalogLook) (ops : FileOps) : Except Unit Unit :=
  if look.unchanged then .ok ()
  else if ops.raises then .error ()
  else
    match scanCatalog lib.catalog (look.disk files) mapDir look.selected with
    | .ok _ => .ok ()
    | .error _ => .error ()

/-- `_publish_state`, as far as it may raise. -/
def publishState (files : FileSystem) (look : CatalogLook) (ops : FileOps) : Except Unit Unit :=
  match catalog lib mapDir files look ops with
  | .ok () => if look.sendFails then .error () else .ok ()
  | .error () => .error ()

/-- Where the save goes when a step has ended early. -/
def ended (requestId : ℤ) : SaveEnd → SaveTask
  | .failed detail => .recording requestId (failure detail)
  | .raised => .raised

/-- The next step of the request thread. -/
def onWork (node : MapSessionNode) (w : Work) : MapSessionNode :=
  match node.task with
  | .free | .raised => node
  | .received message =>
    match node.model.cachedSave message.requestId with
    | some outcome => { node with task := .recording message.requestId outcome }
    | none =>
      match safeBasename message.name with
      | .error error =>
        { node with task := .recording message.requestId (failure (.bundle error)) }
      | .ok _ => { node with task := .checking message node.model.session.sessionId 0 }
  | .checking message sessionId check =>
    match (checks message sessionId w.now)[check]? with
    | none => { node with task := .beginning message sessionId }
    | some test =>
      match test node with
      | some detail => { node with task := .recording message.requestId (failure detail) }
      | none => { node with task := .checking message sessionId (check + 1) }
  | .beginning message sessionId =>
    { node with
      model := node.model.beginSave message.requestId, task := .announcing message sessionId }
  | .announcing message sessionId =>
    match publishState lib mapDir node.files w.look w.ops with
    | .error () => { node with task := .raised }
    | .ok () =>
      { node with
        task := .preparing {
          requestId := message.requestId
          txn := { mapDir, name := message.name, sessionId, created := w.created } } }
  | .preparing run =>
    match run.txn.prepare node.files w.ops with
    | (files, .ok ()) => { node with files, task := .waitingForService run }
    | (files, .error ending) => { node with files, task := ended run.requestId ending }
  | .waitingForService run =>
    if w.serviceReady then { node with task := .serializing run }
    else { node with task := .recording run.requestId (failure .noService) }
  | .serializing run =>
    let node := { node with files := node.files.replaceUnder run.txn.stagingRoot w.ops.left }
    match w.answer with
    | none => { node with task := .recording run.requestId (failure .timedOut) }
    | some (.error ()) => { node with task := .raised }
    | some (.ok result) =>
      if result = some 0 then { node with task := .checkingFiles run }
      else { node with task := .recording run.requestId (failure (.serializeResult result)) }
  | .checkingFiles run =>
    match run.txn.checkSerialized node.files w.ops with
    | .ok () => { node with task := .capturing run }
    | .error ending => { node with task := ended run.requestId ending }
  | .capturing run =>
    match captureRaster lib w.now w.lastPoll w.polls with
    | some raster => { node with task := .writing run raster }
    | none => { node with task := .recording run.requestId (failure .noGrid) }
  | .writing run raster =>
    match run.txn.writeRaster lib node.files raster w.ops with
    | (files, .ok ()) => { node with files, task := .validating run }
    | (files, .error ending) => { node with files, task := ended run.requestId ending }
  | .validating run =>
    match run.txn.validate lib node.files w.ops with
    | .ok _ => { node with task := .comparing run }
    | .error ending => { node with task := ended run.requestId ending }
  | .comparing run =>
    if run.txn.sessionId ≠ node.model.session.sessionId then
      { node with task := .recording run.requestId (failure .sessionChanged) }
    else { node with task := .publishing run }
  | .publishing run =>
    match run.txn.publish lib node.files w.ops with
    | (files, .ok outcome) => { node with files, task := .recording run.requestId outcome }
    | (files, .error ending) => { node with files, task := ended run.requestId ending }
  | .recording requestId outcome =>
    { node with model := node.model.recordSave requestId outcome, task := .free }

/-- One step of the node. -/
def step (node : MapSessionNode) : SaveInput → MapSessionNode
  | .lease active leaseId =>
    { node with leaseActive := active, leaseId := if active then leaseId else "" }
  | .stopState locked stopped now => { node with stopState := some (locked, stopped, now) }
  | .modeState message now => node.onModeState message now
  | .map now => node.onMap now
  | .timer now => node.onTimer now
  | .request message =>
    match node.task with
    | .free => node.onMapRequest message
    | _ => node
  | .lateFiles left =>
    { node with files := node.files.replaceUnder (mapDir ++ [stagingDirname]) left }
  | .work w => node.onWork lib mapDir w

/-- The node after some steps. -/
def run (node : MapSessionNode) (inputs : List SaveInput) : MapSessionNode :=
  inputs.foldl (step lib mapDir) node

end MapSessionNode

end PreRunner.Paddock
