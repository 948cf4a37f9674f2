import PreRunner.Maps.BundleDeletion
import PreRunner.Paddock.ModeSupervisor

/-!
# The map executor

`MapSessionNode` handles one map request at a time, in a thread of its own, while its other
callbacks keep observing the runtime. A request is therefore several steps: it is accepted, it is
checked against what the node has heard, and its file operation ends. A NEW MAP only sends a mode
request. Whether a SAVE is allowed and succeeds is part of the input, with the files that it has
staged.
-/

namespace PreRunner.Paddock

open Maps

/-- `MapRequest`. -/
structure MapRequest where
  requestId : ℤ
  leaseId : String
  operation : ℤ
  name : String
  deriving DecidableEq, Repr

def MapRequest.opNewMap : ℤ := 0
def MapRequest.opSaveMap : ℤ := 1
def MapRequest.opSelectMap : ℤ := 2
def MapRequest.opDeleteMap : ℤ := 3

/-- `DeleteState`. -/
inductive DeleteState where
  | idle
  | succeeded
  | failed
  deriving DecidableEq, Repr

/-- Where the running request stands. -/
inductive MapTask where
  /-- No request runs. -/
  | free
  /-- At the beginning of `_handle_select_map`. -/
  | selecting (name : String)
  /-- In `_store_selection`. -/
  | storing (name : String)
  /-- At the beginning of `_handle_delete_map`. -/
  | deleting (requestId : ℤ) (name : String)
  /-- In `delete_bundle`. -/
  | removing (requestId : ℤ) (name : String)
  /-- In `_handle_save_map`. -/
  | saving (name : String)
  deriving DecidableEq, Repr

/-- The fields of `MapSessionNode` and of its model that these requests read and write. -/
structure MapExecutor where
  leaseActive : Bool := false
  leaseId : String := ""
  mode : ℤ := 0
  modeStatus : ℤ := 0
  activeAutonomyMap : String := ""
  lastRequestId : ℤ := 0
  selectedRequested : String := ""
  selectedApplied : String := ""
  selectedReason : Option MapRejection := none
  deleteState : DeleteState := .idle
  deleteRequestId : ℤ := 0
  deleteName : String := ""
  deleteDetail : Option MapRejection := none
  task : MapTask := .free

/-- The steps of the node. -/
inductive MapInput where
  | lease (active : Bool) (leaseId : String)
  | modeState (message : ModeState)
  | request (message : MapRequest)
  /-- The checks of a SELECT or a DELETE. -/
  | check
  /-- Their file operation ends. -/
  | finish (succeeds : Bool)
  /-- A SAVE ends, with the files it publishes. -/
  | saved (content : Option (FilePath → Option Bytes))

/-- The callback of the mode states. -/
def MapInput.isModeState : MapInput → Bool
  | modeState _ => true
  | _ => false

namespace MapExecutor

variable (lib : BundleLibrary) (mapDir : FilePath)

/-- `_on_mode_state`, as far as these requests read it. -/
def onModeState (node : MapExecutor) (message : ModeState) : MapExecutor :=
  { node with
    mode := message.mode
    modeStatus := message.status
    activeAutonomyMap := message.activeAutonomyMap }

def authorized (node : MapExecutor) (message : MapRequest) : Bool :=
  node.leaseActive && message.leaseId ≠ "" && message.leaseId = node.leaseId

/-- `set_selection`. -/
def setSelection (node : MapExecutor) (requested applied : String) (reason : Option MapRejection) :
    MapExecutor :=
  { node with
    selectedRequested := requested, selectedApplied := applied, selectedReason := reason }

/-- `record_delete`. -/
def recordDelete (node : MapExecutor) (requestId : ℤ) (name : String) (state : DeleteState)
    (detail : Option MapRejection) : MapExecutor :=
  { node with
    deleteState := state, deleteRequestId := requestId, deleteName := name
    deleteDetail := detail }

/-- `_record_select_rejection`. -/
def recordSelectRejection (node : MapExecutor) (message : MapRequest) (reason : MapRejection) :
    MapExecutor :=
  if message.operation = MapRequest.opSelectMap then
    node.setSelection message.name node.selectedApplied (some reason)
  else node

/-- `_on_map_request`, up to the handler. -/
def onMapRequest (node : MapExecutor) (message : MapRequest) : MapExecutor :=
  if !node.authorized message then node.recordSelectRejection message .notLeaseOwner
  else if message.requestId ≤ node.lastRequestId then
    node.recordSelectRejection message (.stale message.requestId)
  else
    let node := { node with lastRequestId := message.requestId }
    if message.operation = MapRequest.opSaveMap then { node with task := .saving message.name }
    else if message.operation = MapRequest.opSelectMap then
      { node with task := .selecting message.name }
    else if message.operation = MapRequest.opDeleteMap then
      { node with task := .deleting message.requestId message.name }
    else node

/-- The checks of `_handle_select_map`. -/
def selectCandidate (node : MapExecutor) (fs : FileSystem) (mapId : String) :
    Except MapRejection BundleInfo := do
  let _ ← (safeBasename mapId).mapError MapRejection.bundle
  if node.modeStatus ≠ Lifecycle.stable.value then throw .transition
  if node.mode = Mode.autonomy.value ∧ mapId ≠ node.selectedApplied then throw .hotSwap
  (validateBundle lib fs mapDir mapId).mapError .bundle

/-- The checks of the running request. -/
def onCheck (node : MapExecutor) (fs : FileSystem) : MapExecutor :=
  match node.task with
  | .selecting name =>
    match node.selectCandidate lib mapDir fs name with
    | .ok _ => { node with task := .storing name }
    | .error reason =>
      { node with task := .free }.setSelection name node.selectedApplied (some reason)
  | .deleting requestId name =>
    match validateDeleteCandidate lib fs mapDir name node.selectedApplied
      node.activeAutonomyMap with
    | .ok _ => { node with task := .removing requestId name }
    | .error reason => { node with task := .free }.recordDelete requestId name .failed (some reason)
  | _ => node

/-- The file operation of the running request. -/
def onFinish (node : MapExecutor) (fs : FileSystem) (succeeds : Bool) : MapExecutor × FileSystem :=
  match node.task with
  | .storing name =>
    if succeeds then ({ node with task := .free }.setSelection name name none, fs)
    else ({ node with task := .free }.setSelection name node.selectedApplied (some .osError), fs)
  | .removing requestId name =>
    match deleteBundle lib succeeds fs mapDir name with
    | (fs, .ok _) => ({ node with task := .free }.recordDelete requestId name .succeeded none, fs)
    | (fs, .error reason) =>
      ({ node with task := .free }.recordDelete requestId name .failed (some reason), fs)
  | _ => (node, fs)

def onSaved (node : MapExecutor) (fs : FileSystem) (content : Option (FilePath → Option Bytes)) :
    MapExecutor × FileSystem :=
  match node.task with
  | .saving name => ({ node with task := .free }, publishBundle fs mapDir name content)
  | _ => (node, fs)

/-- One step on the files. -/
def step (node : MapExecutor) (fs : FileSystem) : MapInput → MapExecutor × FileSystem
  | .lease active leaseId =>
    ({ node with leaseActive := active, leaseId := if active then leaseId else "" }, fs)
  | .modeState message => (node.onModeState message, fs)
  | .request message => (if node.task = .free then node.onMapRequest message else node, fs)
  | .check => (node.onCheck lib mapDir fs, fs)
  | .finish succeeds => node.onFinish lib mapDir fs succeeds
  | .saved content => node.onSaved mapDir fs content

/-- The node after its constructor, with the selection it has loaded. -/
def start (applied : String) : MapExecutor :=
  { selectedRequested := applied, selectedApplied := applied }

end MapExecutor

end PreRunner.Paddock
