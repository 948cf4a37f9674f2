import Mathlib.Data.Rat.Init
import Mathlib.Data.List.Infix
import Mathlib.Algebra.GroupWithZero.Nat
import Mathlib.Algebra.Order.Ring.Rat
import Mathlib.Logic.Function.Basic
import PreRunner.Runs.Program

/-!
# The recording executor

`RecordingExecutor` of `runner_paddock/recording.py` owns one rosbag2 recorder process. Processes
end and files change while the executor works: before each of its calls of the operating system
the environment makes any number of moves.
-/

namespace PreRunner.Recording

open Runs

/-! ## Processes and files -/

/-- A process: running, or a zombie with its exit code. -/
structure OsProcess where
  running : Bool := true
  code : ℤ := 0
  /-- The command line, its arguments separated by blanks. -/
  command : String := ""
  /-- The recording that a recorder writes, a directory below the root. -/
  output : Option String := none
  /-- The executor may signal it. -/
  permitted : Bool := true
  /-- The executor is its parent. -/
  child : Bool := false
  /-- The executor has launched or adopted this recorder. -/
  owned : Bool := false

abbrev ProcessTable := ℕ → Option OsProcess

/-- An entry of a recording. -/
inductive BagEntry where
  | file (text : String) (size : ℕ)
  | symlink
  | directory

abbrev Bag := List (String × BagEntry)

/-- An entry of the root: a directory, or another file. -/
inductive RootEntry where
  | bag (entries : Bag)
  | file

/-- `text in command`. -/
def contains (command text : String) : Bool := decide (text.toList <:+: command.toList)

/-- What the executor takes from the libraries. -/
structure RecordingLibrary where
  strip : String → String
  lower : String → String
  /-- The start and the duration that `read_recording_info` finds in a `metadata.yaml`, in
  nanoseconds; `none` where it catches an exception. -/
  metadata : String → Option (ℤ × ℤ)
  /-- `str(json.loads(text)['profile'])`; `none` where an exception is caught. -/
  profile : String → Option String
  /-- `json.dumps({'profile': profile})`. -/
  manifest : String → String

structure RecordingInfo where
  name : String
  profile : String
  startTimeNs : ℤ
  durationSec : ℚ
  sizeBytes : ℕ
  outputPath : String

namespace Bag

/-- The text of a regular file. The recorder writes `metadata.yaml` and the executor writes the
manifest as regular files, so a symbolic link of such a name counts as absent here; the deletion of
a bag follows it (`DirectoryItem.text?`). -/
def text? (bag : Bag) (name : String) : Option String :=
  match bag.lookup name with
  | some (.file text _) => some text
  | _ => none

/-- `directory_size`. -/
def size (bag : Bag) : ℕ :=
  (bag.map fun entry => match entry.2 with
    | .file _ size => size
    | _ => 0).sum

end Bag

/-- `read_recording_info`. -/
def readRecordingInfo (lib : RecordingLibrary) (rootPath name : String) :
    Option RootEntry → Option RecordingInfo
  | some (.bag bag) =>
    ((bag.text? "metadata.yaml").bind lib.metadata).map fun (started, duration) =>
      { name
        profile := ((bag.text? ".paddock-recording.json").bind lib.profile).getD ""
        startTimeNs := started
        durationSec := duration / 10 ^ 9
        sizeBytes := bag.size
        outputPath := rootPath ++ "/" ++ name }
  | _ => none

/-! ## The executor and its world -/

inductive RecorderState where
  | idle
  | starting
  | recording
  | stopping
  | failed
  deriving DecidableEq

/-- `state in (STARTING, RECORDING, STOPPING)`. -/
def RecorderState.active : RecorderState → Bool
  | .starting | .recording | .stopping => true
  | .idle | .failed => false

inductive Signal where
  | sigint
  | sigterm
  | sigkill
  deriving DecidableEq

/-- A `subprocess.Popen` object. -/
structure Popen where
  pid : ℕ
  returncode : Option ℤ := none

/-- The runtime record; the output is a directory below the root, if it is one. -/
structure RuntimeRecord where
  pid : ℕ
  name : String
  profile : String
  outputPath : Option String
  startTimeNs : ℤ

/-- What the executor does that its specification speaks about. -/
inductive RecorderEvent where
  | adopted
  | launched (name : String)
  | launchFailed
  | stopRequested
  /-- The recorder was seen to have exited. -/
  | exited (code : ℤ)
  /-- Whether there is complete metadata was looked up. -/
  | checked (complete : Bool)
  | finalized
  | faulted (code : ℤ) (complete : Bool)
  /-- A file of a recording, or its directory, was deleted. -/
  | removed (name : String)
  deriving DecidableEq

/-- The executor, the operating system and the events so far with the processes at each of them,
latest first. -/
structure Recorder where
  rootPath : String
  state : RecorderState := .idle
  acceptedRequestId : ℕ := 0
  name : String := ""
  profile : String := ""
  /-- The name of the directory below the root. -/
  outputPath : Option String := none
  startTimeNs : ℤ := 0
  startedAt : ℚ := 0
  detail : String := "idle"
  pid : ℕ := 0
  process : Option Popen := none
  stopRequestedAt : Option ℚ := none
  table : ProcessTable := fun _ => none
  root : String → Option RootEntry := fun _ => none
  runtime : Option RuntimeRecord := none
  now : ℚ := 0
  signals : List (ℕ × Signal) := []
  /-- The calls of the operating system since the executor was called. -/
  calls : ℕ := 0
  log : List (RecorderEvent × ProcessTable) := []

/-- The command line of a recorder. -/
def recorderWords : String := "ros2 bag record"

/-- A move of the environment. Only the executor starts recorders. -/
inductive Move where
  | exit (pid : ℕ) (code : ℤ)
  /-- The parent of a zombie takes its exit code. -/
  | reap (pid : ℕ)
  | spawn (pid : ℕ) (command : { command : String // contains command recorderWords = false })
    (permitted : Bool)
  | write (name : String) (entry : Option RootEntry)
  | wait (until_ : ℚ)

/-- What the environment does during one call of the executor. -/
structure Conditions where
  /-- The moves before each call of the operating system. -/
  moves : ℕ → List Move := fun _ => []
  /-- The process id that a launch gets, or the text of its error. -/
  launch : Except String ℕ := .error ""
  wallTimeNs : ℤ := 0
  /-- `instant.strftime('Runner_%Y%m%d_%H%M%S')`. -/
  timestamp : String := ""
  runtimeWritable : Bool := true
  manifestWritable : Bool := true

inductive RecorderError where
  | valueError (text : String)
  | osError

abbrev RecorderProgram (α : Type) := Program Recorder RecorderError α

namespace Recorder

def setProcess (w : Recorder) (pid : ℕ) (process : Option OsProcess) : Recorder :=
  { w with table := Function.update w.table pid process }

@[simp] theorem table_setProcess_self (w : Recorder) (pid : ℕ) (process : Option OsProcess) :
    (w.setProcess pid process).table pid = process := Function.update_self ..

theorem table_setProcess_of_ne {w : Recorder} {pid other : ℕ} (h : other ≠ pid)
    (process : Option OsProcess) : (w.setProcess pid process).table other = w.table other :=
  Function.update_of_ne h ..

def setEntry (w : Recorder) (name : String) (entry : Option RootEntry) : Recorder :=
  { w with root := Function.update w.root name entry }

def move (w : Recorder) : Move → Recorder
  | .exit pid code =>
    match w.table pid with
    | some p =>
      if p.running then
        w.setProcess pid (some { p with running := false, code, command := "" })
      else w
    | none => w
  | .reap pid =>
    match w.table pid with
    | some p => if !p.running && !p.child then w.setProcess pid none else w
    | none => w
  | .spawn pid command permitted =>
    match w.table pid with
    | some _ => w
    | none => w.setProcess pid (some { command, permitted })
  | .write name entry => w.setEntry name entry
  | .wait until_ => { w with now := max w.now until_ }

/-- What the runtime record says of the present recorder. -/
def record (w : Recorder) : RuntimeRecord :=
  { pid := w.pid
    name := w.name
    profile := w.profile
    outputPath := w.outputPath
    startTimeNs := w.startTimeNs }

/-- `/proc/{pid}`; there is no process 0. -/
def proc (w : Recorder) (pid : ℕ) : Option OsProcess := if pid = 0 then none else w.table pid

/-- The environment moves before a call of the operating system. -/
def interfere (w : Recorder) (c : Conditions) : Recorder :=
  { (c.moves w.calls).foldl move w with calls := w.calls + 1 }

end Recorder

namespace RecordingExecutor

open Program

variable (lib : RecordingLibrary) (c : Conditions)

/-- Look at the world when the operating system is called. -/
def look : RecorderProgram Recorder := fun w => (.ok (w.interfere c), w.interfere c)

def note (event : RecorderEvent) : RecorderProgram Unit :=
  modify fun w => { w with log := (event, w.table) :: w.log }

def fail {α : Type} (text : String) : RecorderProgram α := raise (.valueError text)

/-! ## Names and profiles -/

/-- `SAFE_NAME.fullmatch(value)`. -/
def isSafeName (value : String) : Bool :=
  match value.toList with
  | [] => false
  | first :: rest =>
    first.isAlphanum && rest.length ≤ 95 &&
      rest.all fun char => char.isAlphanum || char = '.' || char = '_' || char = '-'

/-- `safe_recording_name`. -/
def safeRecordingName (name : String) : RecorderProgram String :=
  if lib.strip name = "" then pure c.timestamp
  else if isSafeName (lib.strip name) then pure (lib.strip name)
  else fail ("name must start with a letter or digit and contain only " ++
    "letters, digits, dot, underscore, or dash")

def runnerDebugTopics : List String :=
  ["/cmd_vel_nav", "/cmd_vel_auto_raw", "/cmd_vel_auto", "/paddock/manual_demand",
    "/cmd_vel_paddock_manual_raw", "/cmd_vel_paddock", "/cmd_vel_teleop", "/cmd_vel",
    "/drive_adapter/state", "/drive_adapter/state_typed", "/paddock/control_event",
    "/paddock/control_lease", "/paddock/command_authority_state", "/paddock/config_request",
    "/paddock/config_state", "/paddock/navigation_request", "/paddock/navigation_state",
    "/paddock/mode_request", "/paddock/mode_state", "/paddock/stop_state", "/paddock/map_state",
    "/paddock/recording_state", "/teleop/control_state", "/teleop/active_mode",
    "/teleop/fixed_throttle_setpoint", "/wheel/encoder_state", "/wheel/odom",
    "/motor/direction", "/odom_rf2o", "/odometry/filtered", "/tf", "/tf_static", "/scan",
    "/scan_slam", "/scan_rf2o", "/map", "/slam_map", "/global_costmap/costmap",
    "/local_costmap/costmap", "/plan", "/imu/data", "/imu/read_errors", "/battery",
    "/system/telemetry", "/speed_envelope/status", "/diagnostics"]

def navigationDebugTopics : List String :=
  ["/scan", "/local_costmap/costmap", "/global_costmap/costmap", "/plan",
    "/navigation/path_commitment_state", "/navigation/path_speed_profile",
    "/behavior_tree_log", "/lookahead_collision_arc", "/odometry/filtered", "/imu/data",
    "/imu/read_errors", "/tf", "/tf_static", "/map", "/cmd_vel_nav", "/cmd_vel_auto_raw",
    "/cmd_vel_auto", "/cmd_vel", "/motor/direction", "/wheel/encoder_state",
    "/drive_adapter/state_typed", "/speed_envelope/status", "/paddock/navigation_state",
    "/paddock/navigation_request", "/paddock/command_authority_state",
    "/paddock/control_lease", "/paddock/control_event", "/paddock/stop_state",
    "/paddock/mode_state", "/paddock/map_state", "/paddock/config_state",
    "/system/telemetry", "/battery", "/diagnostics", "/rosout"]

/-- `PROFILES`: the topics of each profile, `none` for all topics. -/
def profiles : List (String × Option (List String)) :=
  [("runner_debug", some runnerDebugTopics),
    ("navigation_debug", some navigationDebugTopics), ("everything", none)]

/-- `_command`, its arguments separated by blanks. -/
def command (output : String) (topics : Option (List String)) : String :=
  " ".intercalate (["ros2", "bag", "record", "--storage", "mcap", "--output", output,
    "--disable-keyboard-controls"] ++
    match topics with
    | none => ["--all-topics"]
    | some topics => "--topics" :: topics)

/-! ## The recorder process -/

/-- `_poll_process`: the exit code of the recorder, `none` while it runs. -/
def pollProcess : RecorderProgram (Option ℤ) := do
  let w ← look c
  match w.process with
  | some child =>
    match child.returncode with
    | some code => pure (some code)
    | none =>
      match w.table child.pid with
      | none => do
        modify fun w => { w with process := some { child with returncode := some 0 } }
        pure (some 0)
      | some p =>
        if p.running then pure none
        else do
          -- The parent takes the exit code, and the zombie is gone.
          modify fun w => { w.setProcess child.pid none with
            process := some { child with returncode := some p.code } }
          pure (some p.code)
  | none =>
    if w.pid = 0 then pure (some 1)
    else if (w.table w.pid).all (!·.permitted) then pure (some 1)
    else do
      let w ← look c
      match w.table w.pid with
      | none => pure (some 1)
      | some p => pure (if p.running then none else some 0)

/-- `_signal`. -/
def signal (sig : Signal) : RecorderProgram Unit :=
  modify fun w => { w with signals := (w.pid, sig) :: w.signals }

/-- `_persist`. -/
def persist : RecorderProgram Unit := do
  let w ← look c
  if c.runtimeWritable then modify fun w' => { w' with runtime := some w.record }
  else pure ()

/-- `_clear_runtime`. -/
def clearRuntime : RecorderProgram Unit := do
  let _ ← look c
  if c.runtimeWritable then modify fun w => { w with runtime := none }
  else pure ()

/-- `_write_manifest`. -/
def writeManifest : RecorderProgram Unit := do
  let w ← look c
  match w.outputPath with
  | none => pure ()
  | some name =>
    match w.root name with
    | some (.bag bag) =>
      if c.manifestWritable then
        let entry := BagEntry.file (lib.manifest w.profile) (lib.manifest w.profile).utf8ByteSize
        modify fun w => w.setEntry name (some (.bag
          ((".paddock-recording.json", entry) ::
            bag.filter fun (item, _) => item ≠ ".paddock-recording.json")))
      else pure ()
    | _ => pure ()

/-- `poll` while the recorder runs. -/
def whileRunning : RecorderProgram Unit := do
  writeManifest lib c
  let w ← get
  if w.state = .starting then
    modify fun w => { w with state := .recording, detail := "recording" }
  else if w.state = .stopping then
    match w.stopRequestedAt with
    | none => pure ()
    | some since => do
      let w ← look c
      if w.now - since > 15 then signal .sigkill
      else if w.now - since > 10 then signal .sigterm
      else pure ()
  else pure ()

/-- `poll` after the recorder has exited. -/
def onExit (code : ℤ) : RecorderProgram Unit := do
  note (.exited code)
  let w ← look c
  let complete := w.outputPath.any fun name =>
    (readRecordingInfo lib w.rootPath name (w.root name)).isSome
  note (.checked complete)
  modify fun w => { w with pid := 0, process := none, stopRequestedAt := none }
  if w.state = .stopping && complete then do
    modify fun w => { w with state := .idle, detail := "recording finalized" }
    note .finalized
    clearRuntime c
  else do
    modify fun w => { w with
      state := .failed
      detail := "recorder exited with code " ++ toString code ++ "; metadata " ++
        (if complete then "present" else "missing") }
    note (.faulted code complete)
    persist c

/-- `poll`. -/
def poll : RecorderProgram Unit := do
  let w ← get
  if !w.state.active then pure ()
  else do
    let code ← pollProcess c
    match code with
    | none => whileRunning lib c
    | some code => onExit lib c code

/-- `process_healthy`. -/
def processHealthy : RecorderProgram Bool := do
  let w ← get
  if !w.state.active then pure false
  else do
    let code ← pollProcess c
    pure code.isNone

/-! ## Requests -/

/-- `subprocess.Popen`: the id of the new process, or the text of the error. -/
def popen (name : String) (command : String) : RecorderProgram (Except String ℕ) := do
  let w ← look c
  match c.launch with
  | .error text => pure (.error text)
  | .ok pid =>
    if pid = 0 || (w.table pid).isSome then pure (.error "Resource temporarily unavailable")
    else do
      note (.launched name)
      modify fun w => w.setProcess pid (some
        { command, output := some name, child := true, owned := true })
      pure (.ok pid)

/-- `start`. -/
def start (requestId : ℕ) (name profile : String) : RecorderProgram Unit := do
  poll lib c
  let w ← get
  if w.state.active then fail "a recording is already active"
  else
    let stripped := lib.lower (lib.strip profile)
    let profileKey := if stripped = "" then "runner_debug" else stripped
    match profiles.lookup profileKey with
    | none => fail "profile must be runner_debug, navigation_debug, or everything"
    | some topics => do
      let basename ← safeRecordingName lib c name
      let w ← look c
      if (w.root basename).isSome then
        fail "recording name already exists; overwrite refused"
      else do
        let w ← look c
        modify fun w' => { w' with
          state := .starting
          acceptedRequestId := requestId
          name := basename
          profile := profileKey
          outputPath := some basename
          startTimeNs := c.wallTimeNs
          startedAt := w.now
          detail := "starting rosbag2 MCAP recorder" }
        let process ← popen c basename (command (w.rootPath ++ "/" ++ basename) topics)
        match process with
        | .error error => do
          modify fun w => { w with
            state := .failed, detail := "failed to launch recorder: " ++ error }
          note .launchFailed
          persist c
        | .ok pid => do
          modify fun w => { w with process := some ⟨pid, none⟩, pid := pid }
          persist c

/-- `stop`. -/
def stop (requestId : ℕ) : RecorderProgram Unit := do
  poll lib c
  let w ← get
  if w.state ≠ .starting ∧ w.state ≠ .recording then fail "no recording is active"
  else do
    note .stopRequested
    let w ← look c
    modify fun w' => { w' with
      acceptedRequestId := requestId
      state := .stopping
      detail := "waiting for rosbag2 to finalize MCAP"
      stopRequestedAt := some w.now }
    signal .sigint
    persist c

/-- The loop of `delete` over the entries of a recording. -/
def unlinkAll (name : String) : List String → RecorderProgram Unit
  | [] => pure ()
  | item :: rest => do
    let w ← look c
    match w.root name with
    | some (.bag bag) =>
      match bag.lookup item with
      | some (.file ..) | some .symlink => do
        note (.removed name)
        modify fun w => w.setEntry name (some (.bag (bag.filter fun entry => entry.1 ≠ item)))
        unlinkAll name rest
      | _ => fail "recording contains an unexpected directory"
    | _ => fail "recording contains an unexpected directory"

/-- `rmdir` of an empty directory. -/
def rmdir (name : String) : RecorderProgram Unit := do
  let w ← look c
  match w.root name with
  | some (.bag []) => do
    note (.removed name)
    modify fun w => w.setEntry name none
  | _ => raise .osError

/-- `delete`. -/
def delete (requestId : ℕ) (name : String) : RecorderProgram Unit := do
  let basename ← safeRecordingName lib c name
  let w ← get
  if w.outputPath = some basename ∧ w.state.active then
    fail "cannot delete the active recording"
  else do
    let w ← look c
    if (readRecordingInfo lib w.rootPath basename (w.root basename)).isNone then
      fail "recording does not exist or is not finalized"
    else do
      let w ← look c
      match w.root basename with
      | some (.bag bag) => do
        unlinkAll c basename (bag.map (·.1))
        rmdir c basename
        modify fun w => { w with
          acceptedRequestId := requestId, detail := "deleted " ++ basename }
      | _ => raise .osError

/-! ## Runs -/

/-- `_reconcile_runtime_record`. -/
def reconcileRuntimeRecord : RecorderProgram Unit := do
  let w ← look c
  match w.runtime with
  | none => clearRuntime c
  | some record => do
    let w ← look c
    match record.outputPath, w.proc record.pid with
    | some output, some p =>
      if !contains p.command recorderWords ||
          !contains p.command (w.rootPath ++ "/" ++ output) then clearRuntime c
      else do
        let w ← look c
        match w.proc record.pid with
        | none => clearRuntime c
        | some p =>
          if !p.permitted then clearRuntime c
          else do
            note .adopted
            modify fun w => w.setProcess record.pid (some
              { p with owned := contains p.command recorderWords })
            let w ← look c
            modify fun w' => { w' with
              pid := record.pid
              name := record.name
              profile := record.profile
              outputPath := some output
              startTimeNs := record.startTimeNs
              startedAt := w.now - max 0 (((c.wallTimeNs - record.startTimeNs : ℤ) : ℚ) / 10 ^ 9)
              state := .recording
              detail := "adopted existing rosbag2 recorder" }
    | _, _ => clearRuntime c

/-- A call of the executor. -/
inductive RecorderCall where
  | start (requestId : ℕ) (name profile : String)
  | stop (requestId : ℕ)
  | delete (requestId : ℕ) (name : String)
  | poll
  | processHealthy

def perform : RecorderCall → RecorderProgram Unit
  | .start requestId name profile => start lib c requestId name profile
  | .stop requestId => stop lib c requestId
  | .delete requestId name => delete lib c requestId name
  | .poll => poll lib c
  | .processHealthy => do
    let _ ← processHealthy c
    pure ()

/-- One call; what it raises is for its caller. -/
def step (w : Recorder) (input : RecorderCall × Conditions) : Recorder :=
  (perform lib input.2 input.1 { w with calls := 0 }).2

/-- The world in which an executor is created. -/
structure World where
  rootPath : String
  table : ProcessTable
  root : String → Option RootEntry := fun _ => none
  runtime : Option RuntimeRecord := none
  now : ℚ := 0

/-- The constructor: a new executor owns no process before it adopts one. -/
def create (world : World) : Recorder :=
  (reconcileRuntimeRecord c
    { world with
      table := fun pid => (world.table pid).map fun p =>
        { p with child := false, owned := false } }).2

end RecordingExecutor

end PreRunner.Recording
