import Mathlib.Algebra.Order.Ring.Rat
import PreRunner.PyValue
import PreRunner.Runs.SerialWorker

/-!
# The persistent STOP executor

`StopEnforcer` owns the global STOP: its lock, the drain after a CLEAR, and the record on disk
that survives a restart. Requests and callbacks run one at a time; the record is written by a
single background worker (`persist`), whose steps interleave with them. Every reading of the
clock is part of the input.
-/

namespace PreRunner.Paddock

open Runs

/-- `DRAIN_TIME`. -/
def drainTime : ℚ := 2 / 5

/-- `STATE_HEARTBEAT_PERIOD`. -/
def stateHeartbeatPeriod : ℚ := 1 / 20

/-- How old an encoder or a local control message may be. -/
def clearFreshness : ℚ := 1 / 5

/-- How old the final zero command may be. -/
def finalFreshness : ℚ := 1 / 10

/-! ## The record on disk -/

/-- What `persist` writes and `restore` reads. -/
structure StopRecord where
  generation : Nat
  stopped : Bool
  deriving DecidableEq, Repr

/-- The exceptions that reading the record can end in. -/
inductive RestoreError where
  | osError
  | valueError
  | typeError
  | attributeError
  | recursionError
  deriving DecidableEq, Repr

/-- What `json.loads(Path(path).read_text())` gives for the file as it stands. -/
abbrev StateFile := Except RestoreError PyValue

/-- `restore`. -/
def restore : StateFile → Except RestoreError StopRecord
  | .error error => .error error
  | .ok (.dict value) =>
    match PyDict.get? value "version", PyDict.get? value "stopped",
      PyDict.get? value "generation" with
    | some version, some (.bool stopped), some (.int generation) =>
      if version.equalsInt 1 ∧ 0 ≤ generation ∧ generation < 2 ^ 63 then
        .ok ⟨generation.toNat, stopped⟩
      else .error .valueError
    | _, _, _ => .error .valueError
  -- `value.get` of anything but a dict
  | .ok _ => .error .attributeError

/-- The document that `persist` writes. -/
def StopRecord.document (record : StopRecord) : PyDict :=
  [("version", .int 1), ("generation", .int record.generation), ("stopped", .bool record.stopped)]

/-- The file after `os.replace` in `persist`. -/
def persisted (record : StopRecord) : StateFile := .ok (.dict record.document)

/-- The exceptions that the constructor answers by failing closed. -/
def RestoreError.caught : RestoreError → Bool
  | osError | valueError | typeError => true
  | attributeError | recursionError => false

theorem restore_persisted (record : StopRecord) :
    restore (persisted record) =
      if record.generation < 2 ^ 63 then .ok record else .error .valueError := by
  have hChecks : (((PyValue.int 1).equalsInt 1 : Prop) ∧ (0 : Int) ≤ record.generation ∧
      (record.generation : Int) < 2 ^ 63) ↔ record.generation < 2 ^ 63 := by
    constructor
    · rintro ⟨-, -, h⟩
      omega
    · exact fun h => ⟨rfl, by omega, by omega⟩
  have hVersion : PyDict.get? record.document "version" = some (.int 1) := rfl
  have hStopped : PyDict.get? record.document "stopped" = some (.bool record.stopped) := rfl
  have hGeneration : PyDict.get? record.document "generation" =
      some (.int record.generation) := rfl
  unfold restore persisted
  dsimp only
  rw [hVersion, hStopped, hGeneration]
  dsimp only
  rw [if_congr hChecks rfl rfl, Int.toNat_natCast]

/-! ## Messages -/

/-- `StopRequest`. -/
structure StopRequest where
  requesterId : String
  requestId : Nat
  stopped : Bool
  expectedBootId : String
  expectedGeneration : Nat
  deriving DecidableEq, Repr

/-- `StopState`; the stamp is a reading of the ROS clock in nanoseconds. -/
structure StopState where
  stamp : Int
  bootId : String
  generation : Nat
  stopped : Bool
  locked : Bool
  healthy : Bool
  applied : Bool
  clearPending : Bool
  reason : String
  lastRequesterId : String
  lastRequestId : Nat
  lastRequestAccepted : Bool
  lastRequestReason : String
  deriving DecidableEq, Repr

/-- `_state_key`: everything but the stamp. -/
def stateKey (message : StopState) : StopState := { message with stamp := 0 }

inductive StopPublication where
  | lock (locked : Bool)
  | zero
  | state (message : StopState)
  deriving DecidableEq, Repr

/-! ## The node -/

/-- The fields of the node. A job of the worker is a record to persist, the store is the file, and
an error is the name of the exception that `persist` raised. `requestResults` is a dictionary with
the latest assignment first. -/
structure StopEnforcer where
  boot : String
  fault : String
  generation : Nat
  stopped : Bool
  durable : Bool
  locked : Bool := true
  clearAt : Option ℚ := none
  zeroSeen : Bool := false
  finalAt : Option ℚ := none
  encoderAt : Option ℚ := none
  stationary : Bool := false
  localAt : Option ℚ := none
  localReleased : Bool := false
  localNeutral : Bool := false
  started : ℚ
  worker : SerialWorker StopRecord StateFile String
  write : Option (Ticket StopRecord) := none
  lastRequesterId : String := ""
  lastRequestId : Nat := 0
  lastRequestAccepted : Bool := false
  lastRequestReason : String := ""
  requestResults : List (String × Nat × Bool × String) := []
  lastStatePublishAt : Option ℚ := none
  lastStateKey : Option StopState := none

namespace StopEnforcer

/-- The node that starts from a record it could restore. -/
def ofRecord (file : StateFile) (record : StopRecord) (boot : String) (started : ℚ) :
    StopEnforcer :=
  { boot, started
    fault := ""
    generation := record.generation
    stopped := record.stopped
    durable := true
    clearAt := if record.stopped then none else some (started + drainTime)
    worker := { store := file } }

/-- The node that starts without a record it can trust. -/
def ofUnknown (file : StateFile) (boot : String) (started : ℚ) : StopEnforcer :=
  { boot, started
    fault := "STOP_STATE_UNKNOWN"
    generation := 0
    stopped := true
    durable := false
    worker := { store := file } }

/-- The constructor, on the file as it stands; it raises what it does not catch. -/
def start (file : StateFile) (boot : String) (started : ℚ) :
    Except RestoreError StopEnforcer :=
  match restore file with
  | .ok record => .ok (ofRecord file record boot started)
  | .error error => if error.caught then .ok (ofUnknown file boot started) else .error error

/-- The STOP record on disk. -/
def disk (s : StopEnforcer) : StateFile := s.worker.store

def onEncoder (s : StopEnforcer) (now : ℚ) (stationary : Bool) : StopEnforcer :=
  { s with
    encoderAt := some now
    stationary := stationary }

def onLocalControl (s : StopEnforcer) (now : ℚ) (released neutral : Bool) : StopEnforcer :=
  { s with
    localAt := some now
    localReleased := released
    localNeutral := neutral }

/-- `on_final` with the linear and angular speed of the final command. -/
def onFinal (s : StopEnforcer) (now : ℚ) (linearX angularZ : PyFloat) : StopEnforcer :=
  if s.locked ∧ linearX = .finite 0 ∧ angularZ = .finite 0 then
    { s with
      zeroSeen := true
      finalAt := some now }
  else s

/-- A reading that is missing or older than a bound. -/
def isStale (at? : Option ℚ) (now bound : ℚ) : Bool :=
  match at? with
  | none => true
  | some time => bound < now - time

/-- `clear_reason`; the empty text allows the clear. -/
def clearReason (s : StopEnforcer) (now : ℚ) : String :=
  if isStale s.encoderAt now clearFreshness then "ENCODER_STALE"
  else if !s.stationary then "NOT_STATIONARY"
  else if isStale s.localAt now clearFreshness then "LOCAL_STATUS_STALE"
  else if !s.localReleased || !s.localNeutral then "LOCAL_NOT_NEUTRAL"
  else if s.fault ≠ "" then s.fault
  else if !s.durable || s.write.isSome then "PERSISTENCE_PENDING"
  else ""

/-- `_ack`. -/
def ack (s : StopEnforcer) (request : StopRequest) (accepted : Bool) (reason : String)
    (store : Bool) : StopEnforcer :=
  { s with
    requestResults :=
      if store then (request.requesterId, request.requestId, accepted, reason) :: s.requestResults
      else s.requestResults
    lastRequesterId := request.requesterId
    lastRequestId := request.requestId
    lastRequestAccepted := accepted
    lastRequestReason := reason }

/-- `self.write = self.worker.submit(persist, self.path, self.generation, stopped)`. -/
def submit (s : StopEnforcer) (stopped : Bool) : StopEnforcer :=
  { s with
    worker := s.worker.submit ⟨s.generation, stopped⟩
    write := some (s.worker.ticket ⟨s.generation, stopped⟩) }

/-- A STOP is asserted before the disk work. -/
def assertStop (s : StopEnforcer) : StopEnforcer :=
  { s with
    generation := s.generation + 1
    stopped := true
    locked := true
    clearAt := none
    zeroSeen := false
    durable := false }.submit true

/-- A CLEAR that is accepted; the lock stays until the drain ends. -/
def beginClear (s : StopEnforcer) : StopEnforcer :=
  { s with
    generation := s.generation + 1
    durable := false }.submit false

/-- The reason a request that is not a retry is refused for, if it is. -/
def refusal? (s : StopEnforcer) (request : StopRequest) (now : ℚ) : Option String :=
  if request.expectedBootId ≠ "" ∧ request.expectedBootId ≠ s.boot then
    some "STALE_EXECUTOR_BOOT"
  else if request.stopped then none
  else if request.expectedGeneration ≠ s.generation then some "STALE_STOP_GENERATION"
  else if s.clearAt.isSome then some "CLEAR_PENDING"
  else if s.clearReason now ≠ "" then some (s.clearReason now)
  else none

/-- `request` from the boot check on. -/
def requestFresh (s : StopEnforcer) (request : StopRequest) (now : ℚ) :
    StopEnforcer × List StopPublication :=
  match s.refusal? request now with
  | some reason => (s.ack request false reason true, [])
  | none =>
    if request.stopped then
      (s.assertStop.ack request true "STOP_REQUESTED" true, [.lock true, .zero])
    else (s.beginClear.ack request true "CLEAR_REQUESTED" true, [])

/-- `request`: retries are idempotent. `now` is the reading of `clear_reason`. -/
def request (s : StopEnforcer) (request : StopRequest) (now : ℚ) :
    StopEnforcer × List StopPublication :=
  match s.requestResults.lookup request.requesterId with
  | some (previousId, accepted, reason) =>
    if request.requestId = previousId then (s.ack request accepted reason true, [])
    else if request.requestId < previousId then
      (s.ack request false "STALE_REQUEST_ID" false, [])
    else s.requestFresh request now
  | none => s.requestFresh request now

/-! ## The timer -/

/-- A tick polls the write it waits for. -/
def observeWrite (s : StopEnforcer) (now : ℚ) : StopEnforcer :=
  match s.write with
  | none => s
  | some ticket =>
    match s.worker.outcome? ticket with
    | none => s
    | some none =>
      if ticket.job.generation = s.generation then
        { s with
          write := none
          durable := true
          fault := ""
          clearAt := if ticket.job.stopped then s.clearAt else some (now + drainTime) }
      else { s with write := none }
    | some (some error) =>
      { s with
        write := none
        fault := "PERSISTENCE_FAILED:" ++ error
        locked := true
        stopped := true }

/-- The drain is aborted when the operator is not neutral throughout. -/
def abortDrain (s : StopEnforcer) : StopEnforcer :=
  { s with
    generation := s.generation + 1
    stopped := true
    locked := true
    durable := false
    clearAt := none }.submit true

/-- A drain that ends releases the lock. A restored clear does not depend on the operator.
`reasonNow` is the reading of `clear_reason`. -/
def settleDrain (s : StopEnforcer) (now reasonNow : ℚ) : StopEnforcer :=
  match s.clearAt with
  | none => s
  | some clearAt =>
    if s.stopped ∧ s.clearReason reasonNow ≠ "" then s.abortDrain
    else if clearAt ≤ now then
      { s with
        stopped := false
        locked := false
        clearAt := none }
    else s

/-- What a tick publishes about the state. -/
def stateMessage (s : StopEnforcer) (now : ℚ) (stamp : Int) : StopState :=
  let applied := s.stopped && s.locked && s.durable && s.zeroSeen &&
    !isStale s.finalAt now finalFreshness
  { stamp := stamp
    bootId := s.boot
    generation := s.generation
    stopped := s.stopped
    locked := s.locked
    healthy := s.fault = ""
    applied := applied
    clearPending := s.clearAt.isSome
    reason :=
      if s.fault ≠ "" then s.fault
      else if applied then "STOP_APPLIED"
      else if !s.locked then "CLEAR"
      else "STOP_PENDING"
    lastRequesterId := s.lastRequesterId
    lastRequestId := s.lastRequestId
    lastRequestAccepted := s.lastRequestAccepted
    lastRequestReason := s.lastRequestReason }

def heartbeatDue (s : StopEnforcer) (now : ℚ) : Bool :=
  match s.lastStatePublishAt with
  | none => true
  | some time => stateHeartbeatPeriod ≤ now - time

/-- The state is published when it changed, and otherwise as a heartbeat. -/
def publishState (s : StopEnforcer) (now : ℚ) (stamp : Int) :
    StopEnforcer × List StopPublication :=
  let message := s.stateMessage now stamp
  if s.lastStateKey = some (stateKey message) ∧ !s.heartbeatDue now then (s, [])
  else
    ({ s with
        lastStateKey := some (stateKey message)
        lastStatePublishAt := some now },
      [.state message])

/-- The state of a tick when it publishes. -/
def settled (s : StopEnforcer) (now reasonNow : ℚ) : StopEnforcer :=
  (s.observeWrite now).settleDrain now reasonNow

/-- `tick`. -/
def tick (s : StopEnforcer) (now reasonNow : ℚ) (stamp : Int) :
    StopEnforcer × List StopPublication :=
  let s := s.settled now reasonNow
  let (next, published) := s.publishState now stamp
  (next, .lock s.locked ::
    (if s.locked ∧ s.clearAt = none then [.zero] else []) ++ published)

/-! ## Runs -/

/-- What can happen to the node: a callback with its readings of the clock, or a step of the
worker. -/
inductive StopEvent where
  | request (message : StopRequest) (now : ℚ)
  | encoder (now : ℚ) (stationary : Bool)
  | localControl (now : ℚ) (released neutral : Bool)
  | final (now : ℚ) (linearX angularZ : PyFloat)
  | tick (now reasonNow : ℚ) (stamp : Int)
  | replaced
  | returned
  | raised (error : String)
  deriving DecidableEq, Repr

/-- The node after one event, and what it publishes. -/
def receive (s : StopEnforcer) : StopEvent → StopEnforcer × List StopPublication
  | .request message now => s.request message now
  | .encoder now stationary => (s.onEncoder now stationary, [])
  | .localControl now released neutral => (s.onLocalControl now released neutral, [])
  | .final now linearX angularZ => (s.onFinal now linearX angularZ, [])
  | .tick now reasonNow stamp => s.tick now reasonNow stamp
  | .replaced => ({ s with worker := s.worker.storeJob persisted }, [])
  | .returned => ({ s with worker := s.worker.finish none }, [])
  | .raised error => ({ s with worker := s.worker.finish (some error) }, [])

def step (s : StopEnforcer) (event : StopEvent) : StopEnforcer := (s.receive event).1

def published (s : StopEnforcer) (event : StopEvent) : List StopPublication :=
  (s.receive event).2

/-! ## What a request and a tick can do -/

/-- The memory of the requester lets the request through: it is neither a retry nor stale. -/
def isNew (s : StopEnforcer) (message : StopRequest) : Bool :=
  match s.requestResults.lookup message.requesterId with
  | some (previousId, _) => previousId < message.requestId
  | none => true

/-- The request is applied to the STOP state. -/
def takes (s : StopEnforcer) (message : StopRequest) (now : ℚ) : Bool :=
  s.isNew message && (s.refusal? message now).isNone

/-- What a request can do. -/
inductive RequestCase (s : StopEnforcer) (message : StopRequest) (now : ℚ) :
    StopEnforcer × List StopPublication → Prop
  | answered (accepted : Bool) (reason : String) (store : Bool)
      (hTakes : s.takes message now = false) :
      RequestCase s message now (s.ack message accepted reason store, [])
  | stop (hTakes : s.takes message now = true) (hStopped : message.stopped = true) :
      RequestCase s message now
        (s.assertStop.ack message true "STOP_REQUESTED" true, [.lock true, .zero])
  | clear (hTakes : s.takes message now = true) (hStopped : message.stopped = false) :
      RequestCase s message now (s.beginClear.ack message true "CLEAR_REQUESTED" true, [])

theorem requestFresh_case (s : StopEnforcer) (message : StopRequest) (now : ℚ)
    (hNew : s.isNew message = true) : RequestCase s message now (s.requestFresh message now) := by
  unfold requestFresh
  split
  · rename_i reason hRefusal
    exact .answered false reason true (by simp [takes, hRefusal])
  · rename_i hRefusal
    have hTakes : s.takes message now = true := by simp [takes, hNew, hRefusal]
    split
    · rename_i hStopped
      exact .stop hTakes hStopped
    · rename_i hStopped
      exact .clear hTakes (Bool.eq_false_iff.mpr hStopped)

theorem request_case (s : StopEnforcer) (message : StopRequest) (now : ℚ) :
    RequestCase s message now (s.request message now) := by
  unfold request
  split
  · rename_i previousId accepted reason hLookup
    have hNew : s.isNew message = decide (previousId < message.requestId) := by
      simp [isNew, hLookup]
    split
    · rename_i hId
      exact .answered accepted reason true (by simp [takes, hNew, hId])
    · split
      · rename_i hId
        have hOlder : ¬ previousId < message.requestId := by omega
        exact .answered false "STALE_REQUEST_ID" false (by simp [takes, hNew, hOlder])
      · exact s.requestFresh_case message now (by rw [hNew, decide_eq_true_iff]; omega)
  · rename_i hLookup
    exact s.requestFresh_case message now (by simp [isNew, hLookup])

/-- An accepted CLEAR names the present generation, and nothing speaks against it. -/
theorem clear_of_takes {s : StopEnforcer} {message : StopRequest} {now : ℚ}
    (hTakes : s.takes message now = true) (hStopped : message.stopped = false) :
    message.expectedGeneration = s.generation ∧ s.clearAt = none ∧ s.clearReason now = "" := by
  have hRefusal : s.refusal? message now = none := by
    simpa using (Bool.and_eq_true_iff.mp hTakes).2
  unfold refusal? at hRefusal
  split at hRefusal
  · cases hRefusal
  · split at hRefusal
    · rename_i hStop
      rw [hStopped] at hStop
      cases hStop
    · split at hRefusal
      · cases hRefusal
      · split at hRefusal
        · cases hRefusal
        · split at hRefusal
          · cases hRefusal
          · rename_i hGeneration hClearAt hReason
            exact ⟨not_not.mp hGeneration, by simpa using hClearAt, not_not.mp hReason⟩

/-- What a tick can find about the write it waits for. -/
inductive ObserveCase (s : StopEnforcer) (now : ℚ) : StopEnforcer → Prop
  | waiting (h : ∀ ticket, s.write = some ticket → s.worker.outcome? ticket = none) :
      ObserveCase s now s
  | recorded (ticket : Ticket StopRecord) (hWrite : s.write = some ticket)
      (hReturned : s.worker.outcome? ticket = some none)
      (hGeneration : ticket.job.generation = s.generation) :
      ObserveCase s now
        { s with
          write := none
          durable := true
          fault := ""
          clearAt := if ticket.job.stopped then s.clearAt else some (now + drainTime) }
  | superseded (ticket : Ticket StopRecord) (hWrite : s.write = some ticket)
      (hGeneration : ticket.job.generation ≠ s.generation) :
      ObserveCase s now { s with write := none }
  | failed (ticket : Ticket StopRecord) (error : String) (hWrite : s.write = some ticket)
      (hRaised : s.worker.outcome? ticket = some (some error)) :
      ObserveCase s now
        { s with
          write := none
          fault := "PERSISTENCE_FAILED:" ++ error
          locked := true
          stopped := true }

theorem observeWrite_case (s : StopEnforcer) (now : ℚ) :
    ObserveCase s now (s.observeWrite now) := by
  unfold observeWrite
  split
  · rename_i hWrite
    exact .waiting (by simp [hWrite])
  · rename_i ticket hWrite
    split
    · rename_i hOutcome
      refine .waiting fun other hOther => ?_
      rw [hWrite] at hOther
      rw [← Option.some.inj hOther]
      exact hOutcome
    · rename_i hOutcome
      split
      · rename_i hGeneration
        exact .recorded ticket hWrite hOutcome hGeneration
      · rename_i hGeneration
        exact .superseded ticket hWrite hGeneration
    · rename_i error hOutcome
      exact .failed ticket error hWrite hOutcome

/-- What a tick can do with the drain. -/
inductive DrainCase (s : StopEnforcer) (now reasonNow : ℚ) : StopEnforcer → Prop
  | none (h : s.clearAt = none) : DrainCase s now reasonNow s
  | aborted (hClearAt : s.clearAt ≠ Option.none) (hStopped : s.stopped = true)
      (hReason : s.clearReason reasonNow ≠ "") : DrainCase s now reasonNow s.abortDrain
  | released (clearAt : ℚ) (hClearAt : s.clearAt = some clearAt) (hDrained : clearAt ≤ now)
      (hReason : s.stopped = true → s.clearReason reasonNow = "") :
      DrainCase s now reasonNow
        { s with
          stopped := false
          locked := false
          clearAt := Option.none }
  | draining (clearAt : ℚ) (hClearAt : s.clearAt = some clearAt) (hEarly : now < clearAt)
      (hReason : s.stopped = true → s.clearReason reasonNow = "") : DrainCase s now reasonNow s

theorem settleDrain_case (s : StopEnforcer) (now reasonNow : ℚ) :
    DrainCase s now reasonNow (s.settleDrain now reasonNow) := by
  unfold settleDrain
  split
  · rename_i hClearAt
    exact .none hClearAt
  · rename_i clearAt hClearAt
    split
    · rename_i hAbort
      exact .aborted (by simp [hClearAt]) hAbort.1 hAbort.2
    · rename_i hAbort
      have hReason : s.stopped = true → s.clearReason reasonNow = "" := fun hStopped =>
        by_contra fun hReason => hAbort ⟨hStopped, hReason⟩
      split
      · rename_i hDrained
        exact .released clearAt hClearAt hDrained hReason
      · rename_i hEarly
        exact .draining clearAt hClearAt (lt_of_not_ge hEarly) hReason

/-- A tick settles the state, and then only remembers what it published. -/
theorem tick_eq (s : StopEnforcer) (now reasonNow : ℚ) (stamp : Int) :
    ∃ key time, (s.tick now reasonNow stamp).1 =
      { s.settled now reasonNow with
        lastStateKey := key
        lastStatePublishAt := time } := by
  unfold tick publishState
  dsimp only
  split
  · exact ⟨_, _, rfl⟩
  · exact ⟨_, _, rfl⟩

end StopEnforcer

end PreRunner.Paddock
