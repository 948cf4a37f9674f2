import PreRunner.Text.JsonLibrary
import PreRunner.Tuning.OwnerAcceptance

/-!
# Named speed profiles

An operator saves, loads and deletes speed profiles by name. Each operation reads the whole store
from one file and a change writes it back, first to a temporary file that then replaces it. This
module follows `runner_paddock/speed_profiles.py` and `validate_speed_profile_snapshot`.
-/

namespace PreRunner.Tuning

/-- The exceptions of an operation. -/
inductive ProfileError where
  | fieldsMismatch (missing extra : List String)
  | tuning (error : TuningError)
  | emptyName
  | immutable
  | keyError (name : String)
  | corrupt (name : String)
  /-- The `RecursionError` of a document that is nested too deeply. -/
  | recursionError
  | osError
  deriving DecidableEq

/-- `NEUTRAL_COMPLETION_VALUES`. -/
def neutralCompletionValues : PyDict :=
  [ ("proportional_gain", .float (.finite (1 / 1000))),
    ("integral_gain", .float (.finite 0)),
    ("feedforward_effort_per_speed", .float (.finite (1 / 10 ^ 6))),
    ("feedforward_effort_intercept", .float (.finite 0)),
    ("output_max", .float (.finite absoluteOutputMax)),
    ("cost_penalty", .float (.finite 2)) ]

/-- The fields of a profile with their normalized values. -/
def profileValues (normalized : TuningSnapshot) : PyDict :=
  speedProfileFields.map fun field => (field.name, .float (.finite (normalized field)))

/-- `validate_speed_profile_snapshot`. -/
def validateSpeedProfileSnapshot (snapshot currentValues : PyDict) : Except ProfileError PyDict :=
  let names := speedProfileFields.map TuningField.name
  let keys := snapshot.map (·.1)
  if ¬ (keys ⊆ names ∧ names ⊆ keys) then
    .error (.fieldsMismatch ((names.filter (· ∉ keys)).mergeSort byName)
      ((keys.filter (· ∉ names)).mergeSort byName))
  else
    match validateValues (PyDict.updated currentValues snapshot) with
    | .error error => .error (.tuning error)
    | .ok normalized => .ok (profileValues normalized)

def baselineName : String := "Default Baseline"

/-- `BASELINE_VALUES`. -/
def baselineValues : PyDict :=
  [ ("desired_linear_vel", .float (.finite 1)),
    ("maximum_commanded_speed", .float (.finite 1)),
    ("regulated_linear_scaling_min_speed", .float (.finite (40 / 100))),
    ("regulated_linear_scaling_min_radius", .float (.finite (75 / 100))),
    ("min_lookahead_dist", .float (.finite (30 / 100))),
    ("max_lookahead_dist", .float (.finite (80 / 100))),
    ("lookahead_time", .float (.finite 1)),
    ("max_allowed_time_to_collision_up_to_carrot", .float (.finite (60 / 100))),
    ("minimum_traversal_speed", .float (.finite (25 / 100))),
    ("tight_clearance", .float (.finite (5 / 100))),
    ("open_clearance", .float (.finite (70 / 100))),
    ("clearance_curve_family", .float (.finite 2)),
    ("clearance_curve_shape", .float (.finite 1)),
    ("approach_time_s", .float (.finite 0)),
    ("curvature_window", .float (.finite (40 / 100))),
    ("max_lateral_acceleration", .float (.finite (35 / 100))),
    ("footprint_front", .float (.finite (230 / 1000))),
    ("footprint_rear", .float (.finite (60 / 1000))),
    ("footprint_half_width", .float (.finite (825 / 10000))),
    ("braking_linear", .float (.finite (16 / 10))),
    ("braking_constant", .float (.finite (27 / 100))),
    ("reaction_time_s", .float (.finite (40 / 100))),
    ("recovery_acceleration_gain", .float (.finite (16 / 10))),
    ("recovery_acceleration_floor", .float (.finite (60 / 100))) ]

/-! ## The store -/

section

variable (json : JsonLibrary) (strip : String → String)

/-- How the file system fails during an operation. -/
structure StoreFaults where
  /-- Reading the file raises an `OSError` other than `FileNotFoundError`. -/
  read : Bool := false
  /-- An `OSError` before the temporary file has replaced the store. -/
  write : Bool := false
  deriving DecidableEq

/-- The store as a file; none before the first save. -/
abbrev StoreFile := Option json.File

variable {json}

/-- `_read_store`. -/
def readStore (file : StoreFile json) (faults : StoreFaults) : Except ProfileError PyDict :=
  match file, faults.read with
  | _, true => .ok []
  | none, false => .ok []
  | some file, false =>
    match json.loads file with
    | .error .valueError => .ok []
    | .error .recursionError => .error .recursionError
    | .ok (.dict raw) =>
      match PyDict.get? raw "profiles" with
      | some (.dict profiles) => .ok profiles
      | _ => .ok []
    | .ok _ => .ok []

/-- `_write_store`: the file that holds the profiles then. -/
def writeStore (profiles : PyDict) (faults : StoreFaults) : Except ProfileError json.File :=
  match json.dumps (.dict [("profiles", .dict profiles)]) with
  | .error _ => .error .recursionError
  | .ok file => if faults.write then .error .osError else .ok file

/-- `load_profile`. -/
def loadProfile (name : String) (file : StoreFile json) (faults : StoreFaults) :
    Except ProfileError PyDict :=
  if name = baselineName then validateSpeedProfileSnapshot baselineValues neutralCompletionValues
  else do
    let store ← readStore file faults
    match PyDict.get? store name with
    | none => .error (.keyError name)
    | some (.dict raw) =>
      let names := speedProfileFields.map TuningField.name
      let keys := raw.map (·.1)
      if keys ⊆ names ∧ names ⊆ keys then validateSpeedProfileSnapshot raw neutralCompletionValues
      else .error (.corrupt name)
    | some _ => .error (.corrupt name)

/-- `save_profile`: what it returns and the file it leaves. -/
def saveProfile (name : String) (snapshot currentValues : PyDict) (file : StoreFile json)
    (faults : StoreFaults) : Except ProfileError (PyDict × json.File) := do
  let name := strip name
  if name = "" then .error .emptyName
  else if name = baselineName then .error .immutable
  else do
    let validated ← validateSpeedProfileSnapshot snapshot currentValues
    let store ← readStore file faults
    let written ← writeStore (store.assign name (.dict validated)) faults
    return (validated, written)

/-- `delete_profile`: the file it leaves. -/
def deleteProfile (name : String) (file : StoreFile json) (faults : StoreFaults) :
    Except ProfileError json.File :=
  if name = baselineName then .error .immutable
  else do
    let store ← readStore file faults
    if (PyDict.get? store name).isNone then .error (.keyError name)
    else writeStore (store.filter (·.1 ≠ name)) faults

end

/-! ## Operations in sequence -/

inductive StoreOperation where
  | save (name : String) (snapshot currentValues : PyDict)
  | load (name : String)
  | delete (name : String)

/-- An operation and what fails during it. -/
structure StoreCall where
  operation : StoreOperation
  faults : StoreFaults := {}

/-- The outcome of a call, and the file after it: a call that raises leaves the file alone. -/
def StoreCall.run {json : JsonLibrary} (strip : String → String) (call : StoreCall)
    (file : StoreFile json) : Except ProfileError PyDict × StoreFile json :=
  match call.operation with
  | .save name snapshot currentValues =>
    match saveProfile strip name snapshot currentValues file call.faults with
    | .error error => (.error error, file)
    | .ok (validated, written) => (.ok validated, some written)
  | .load name => (loadProfile name file call.faults, file)
  | .delete name =>
    match deleteProfile name file call.faults with
    | .error error => (.error error, file)
    | .ok written => (.ok [], some written)

/-- The file after a sequence of calls. -/
def runCalls {json : JsonLibrary} (strip : String → String) (calls : List StoreCall)
    (file : StoreFile json) : StoreFile json :=
  calls.foldl (fun file call => (call.run strip file).2) file

end PreRunner.Tuning
