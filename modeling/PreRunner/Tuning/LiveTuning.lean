import PreRunner.Tuning.AutonomyTuning

/-!
# Live autonomy tuning

`ros_state_node.py` writes an accepted snapshot to the four owners of its parameters, each owner
atomically, and then reads every parameter back. One operation slot is shared by the writes, by the
read that verifies them and by periodic reads. Every function below is what one method does under
`_tuning_lock`; between two of them any other thread may take the lock.
-/

namespace PreRunner.Tuning

/-! ## The replies of the owners -/

/-- The keys of `_tuning_get_clients` and `_tuning_set_clients`, in order. -/
def TuningOwner.all : List TuningOwner := [.controller, .adapter, .navigator, .planner]

@[simp] theorem TuningOwner.mem_all (owner : TuningOwner) : owner ∈ TuningOwner.all := by
  cases owner <;> decide

def TuningOwner.name : TuningOwner → String
  | controller => "controller"
  | adapter => "adapter"
  | navigator => "navigator"
  | planner => "planner"

/-- A dictionary of field values. -/
abbrev FieldValues := TuningField → Option PyFloat

def FieldValues.empty : FieldValues := fun _ => none

/-- `values.update(observed)`. -/
def FieldValues.update (values observed : FieldValues) : FieldValues :=
  fun field => (observed field).or (values field)

/-- The dictionary of a snapshot. -/
def FieldValues.of (snapshot : TuningSnapshot) : FieldValues :=
  fun field => some (.finite (snapshot field))

/-- `values == requested`, for finite requested values. -/
def FieldValues.agree (values : FieldValues) (requested : TuningSnapshot) : Bool :=
  TuningField.all.all fun field => values field = some (.finite (requested field))

/-- `sorted(set(TUNING_PARAMETERS) - set(values))`. -/
def FieldValues.missing (values : FieldValues) : List String :=
  ((TuningField.all.filter fun field => (values field).isNone).map TuningField.name).mergeSort
    byName

/-- A `ParameterValue` of a reply. -/
inductive ParameterReply where
  | double (value : PyFloat)
  | other
  deriving DecidableEq

/-- The loop of `_double_parameters` over the fields of an owner. -/
def readFields : List TuningField → List ParameterReply → FieldValues × List String
  | [], [] => (.empty, [])
  | [], _ :: _ => (.empty, ["get_parameters returned unexpected extra values"])
  | field :: fields, [] =>
    let (values, errors) := readFields fields []
    (values, (field.name ++ " is missing") :: errors)
  | field :: fields, .double value :: replies =>
    let (values, errors) := readFields fields replies
    (fun other => if other = field then some value else values other, errors)
  | field :: fields, .other :: replies =>
    let (values, errors) := readFields fields replies
    (values, (field.name ++ " is missing or is not double") :: errors)

/-- `_double_parameters`. -/
def doubleParameters (replies : List ParameterReply) (owner : TuningOwner) :
    FieldValues × List String :=
  readFields (TuningField.all.filter fun field => field.parameter.owner = owner) replies

/-- How the read of one owner ends. -/
inductive ReadReply where
  | unavailable
  | notStarted (exception : String)
  | raised (exception : String)
  | values (replies : List ParameterReply)
  deriving DecidableEq

/-- The first part of `_finish_tuning_read`: the observed values and the error, if any. -/
def ReadReply.outcome (reply : ReadReply) (owner : TuningOwner) : FieldValues × Option String :=
  match reply with
  | unavailable => (.empty, some (owner.name ++ " parameter read service unavailable"))
  | notStarted exception =>
    (.empty, some (owner.name ++ " parameter read failed to start: " ++ exception))
  | raised exception => (.empty, some (owner.name ++ " parameter read failed: " ++ exception))
  | values replies =>
    let (observed, errors) := doubleParameters replies owner
    (observed, if errors = [] then none
      else some (owner.name ++ " parameter read incomplete: " ++ ", ".intercalate errors))

/-- How the write of one owner ends. -/
inductive WriteReply where
  | notStarted (exception : String)
  | raised (exception : String)
  | result (successful : Bool) (reason : String)
  deriving DecidableEq

/-- The first part of `_finish_tuning_set`: the error, if any. -/
def WriteReply.error? (reply : WriteReply) (owner : TuningOwner) : Option String :=
  match reply with
  | notStarted exception => some (owner.name ++ " atomic write failed to start: " ++ exception)
  | raised exception => some (owner.name ++ " atomic write failed: " ++ exception)
  | result successful reason =>
    if successful then none
    else some (if reason ≠ "" then reason else owner.name ++ " rejected atomic write")

/-! ## The state under the lock -/

inductive TuningStatus where
  | unavailable
  | failed
  | applying
  | applied
  | current
  deriving DecidableEq, Repr

/-- `_tuning_state`. -/
structure TuningState where
  available : Bool := false
  values : FieldValues := .empty
  status : TuningStatus := .unavailable
  detail : String := "waiting for live ROS parameter read-back"
  requestId : Nat := 0
  unavailableFields : List String := []

/-- What a read has to confirm. -/
structure Verification where
  requested : TuningSnapshot
  setErrors : List String

inductive OperationKind where
  | read (values : FieldValues) (verification : Option Verification)
  | set (requested : TuningSnapshot)

/-- `_tuning_operation`. -/
structure TuningOperation where
  requestId : Nat
  pending : List TuningOwner
  errors : List String
  deadline : ℚ
  kind : OperationKind

def OperationKind.isSet : OperationKind → Bool
  | set _ => true
  | read _ _ => false

/-- The fields that `_tuning_lock` guards. -/
structure LiveTuning where
  requestId : Nat := 0
  operation : Option TuningOperation := none
  state : TuningState := {}

def tuningRequestTimeoutSec : ℚ := 2

namespace LiveTuning

/-- The state after an operation has timed out. -/
def timedOut (state : TuningState) (kind : OperationKind) : TuningState :=
  match kind with
  | .read values _ =>
    { state with
      status := .failed
      detail := "read timed out" ++ (if values.missing = [] then ""
        else "; unavailable fields: " ++ ", ".intercalate values.missing)
      available := false
      values
      unavailableFields := values.missing }
  | .set _ =>
    { state with
      status := .failed
      detail := "set timed out"
      available := false
      values := .empty
      unavailableFields := [] }

/-- The first part of `_refresh_tuning_state`; then it calls `_start_tuning_read`. -/
def refreshTuningState (live : LiveTuning) (now : ℚ) : LiveTuning :=
  match live.operation with
  | some operation =>
    if operation.deadline ≤ now then
      { live with operation := none, state := timedOut live.state operation.kind }
    else live
  | none => live

/-- `_start_tuning_read`. -/
def startTuningRead (live : LiveTuning) (verification : Option Verification) (now : ℚ) :
    LiveTuning :=
  match live.operation with
  | some _ => live
  | none =>
    { live with
      requestId := live.requestId + 1
      operation := some
        { requestId := live.requestId + 1
          pending := TuningOwner.all
          errors := []
          deadline := now + tuningRequestTimeoutSec
          kind := .read .empty verification } }

/-- The state after the last owner has answered a read. -/
def afterRead (state : TuningState) (values : FieldValues) (errors : List String)
    (verification : Option Verification) : TuningState :=
  if errors ≠ [] then
    { state with
      available := false
      values
      unavailableFields := values.missing
      status := if verification.isSome then .failed else .unavailable
      detail := "; ".intercalate errors ++ "; unavailable fields: " ++
        ", ".intercalate values.missing }
  else
    let (status, detail) :=
      match verification with
      | none =>
        if state.status = .failed then (TuningStatus.failed, state.detail)
        else (.current, "live ROS parameter read-back")
      | some verification =>
        if verification.setErrors = [] ∧ values.agree verification.requested = true then
          (.applied, "atomic owner writes confirmed by live read-back")
        else
          (.failed, "; ".intercalate (verification.setErrors ++
            if values.agree verification.requested then []
            else ["live read-back differs from request"]))
    { state with available := true, values, unavailableFields := [], status, detail }

/-- The part of `_finish_tuning_read` under the lock. -/
def finishTuningRead (live : LiveTuning) (owner : TuningOwner) (requestId : Nat)
    (reply : ReadReply) : LiveTuning :=
  match live.operation with
  | some ⟨currentId, pending, errors, deadline, .read values verification⟩ =>
    if currentId ≠ requestId ∨ owner ∉ pending then live
    else
      let pending := pending.filter (· ≠ owner)
      let values := values.update (reply.outcome owner).1
      let errors := errors ++ (reply.outcome owner).2.toList
      if pending ≠ [] then
        { live with
          operation := some ⟨currentId, pending, errors, deadline, .read values verification⟩ }
      else
        { live with operation := none, state := afterRead live.state values errors verification }
  | _ => live

/-- `_record_tuning_preflight_failure`. -/
def recordTuningPreflightFailure (live : LiveTuning) (detail : String) : LiveTuning :=
  if live.operation.isSome then live
  else { live with state := { live.state with status := .failed, detail } }

/-- The owners whose write service is not ready. -/
def unavailable (ready : TuningOwner → Bool) : List TuningOwner :=
  TuningOwner.all.filter fun owner => !ready owner

def unavailableDetail (ready : TuningOwner → Bool) : String :=
  "atomic parameter service unavailable: " ++
    ", ".intercalate ((unavailable ready).map TuningOwner.name)

/-- How `_request_autonomy_tuning` ends. -/
inductive ApplyResult where
  | accepted
  | rejected (reason : String)
  /-- The `OverflowError` of a large integer, which nothing catches. -/
  | raised
  deriving DecidableEq

/-- `_request_autonomy_tuning` up to the sending of the writes. `describe` is `str(error)`. -/
def requestAutonomyTuning (describe : TuningError → String) (live : LiveTuning) (values : PyDict)
    (ready : TuningOwner → Bool) (now : ℚ) : LiveTuning × ApplyResult :=
  match validateValues values with
  | .error .overflow => (live, .raised)
  | .error error =>
    (live.recordTuningPreflightFailure ("tuning rejected before RPC: " ++ describe error),
      .rejected (describe error))
  | .ok requested =>
    if unavailable ready ≠ [] then
      (live.recordTuningPreflightFailure (unavailableDetail ready),
        .rejected (unavailableDetail ready))
    else if live.operation.any fun operation => operation.kind.isSet then
      (live, .rejected "autonomy tuning operation already in progress")
    else
      ({ requestId := live.requestId + 1
         operation := some
           { requestId := live.requestId + 1
             pending := TuningOwner.all
             errors := []
             deadline := now + tuningRequestTimeoutSec
             kind := .set requested }
         state :=
           { live.state with
             status := .applying
             detail := "applying tuning atomically"
             requestId := live.requestId + 1
             values := .of requested
             available := true
             unavailableFields := [] } }, .accepted)

/-- The part of `_finish_tuning_set` under the lock, and the verification that it then starts. -/
def finishTuningSet (live : LiveTuning) (owner : TuningOwner) (requestId : Nat)
    (reply : WriteReply) : LiveTuning × Option Verification :=
  match live.operation with
  | some ⟨currentId, pending, errors, deadline, .set requested⟩ =>
    if currentId ≠ requestId ∨ owner ∉ pending then (live, none)
    else
      let pending := pending.filter (· ≠ owner)
      let errors := errors ++ (reply.error? owner).toList
      if pending ≠ [] then
        ({ live with operation := some ⟨currentId, pending, errors, deadline, .set requested⟩ },
          none)
      else ({ live with operation := none }, some ⟨requested, errors⟩)
  | _ => (live, none)

end LiveTuning

/-! ## Every interleaving -/

/-- The state under the lock, and the verifications of the threads that have left
`_finish_tuning_set` and not yet begun their read, each with the request id of its writes. -/
structure TuningThreads where
  live : LiveTuning := {}
  starting : List (Nat × Verification) := []

/-- One region under the lock, of any thread, with the clock it reads and the reply it brings. -/
inductive TuningStep where
  | refresh (now : ℚ)
  | startRead (now : ℚ)
  /-- The thread at this place of `starting` begins its read. -/
  | startVerification (index : Nat) (now : ℚ)
  | finishRead (owner : TuningOwner) (requestId : Nat) (reply : ReadReply)
  | apply (values : PyDict) (ready : TuningOwner → Bool) (now : ℚ)
  | finishSet (owner : TuningOwner) (requestId : Nat) (reply : WriteReply)

namespace TuningThreads

def step (describe : TuningError → String) (threads : TuningThreads) : TuningStep → TuningThreads
  | .refresh now => { threads with live := threads.live.refreshTuningState now }
  | .startRead now => { threads with live := threads.live.startTuningRead none now }
  | .startVerification index now =>
    match threads.starting[index]? with
    | none => threads
    | some (_, verification) =>
      { live := threads.live.startTuningRead (some verification) now
        starting := threads.starting.eraseIdx index }
  | .finishRead owner requestId reply =>
    { threads with live := threads.live.finishTuningRead owner requestId reply }
  | .apply values ready now =>
    { threads with live := (threads.live.requestAutonomyTuning describe values ready now).1 }
  | .finishSet owner requestId reply =>
    let (live, verification) := threads.live.finishTuningSet owner requestId reply
    { live, starting := threads.starting ++ (verification.map (requestId, ·)).toList }

end TuningThreads

end PreRunner.Tuning
