import PreRunner.Runs.History
import PreRunner.Paddock.StopEnforcer

/-!
# The applied STOP and the record on disk

A restart trusts the record on disk, so an applied STOP should be on disk. `Recorded` ties the
flags of the executor to the record: while `durable` holds, the record on disk is that of the
present generation, and it says STOP exactly when no clear drain is running (`recordedStop`). The
drain after a CLEAR keeps `stopped`, `locked` and `durable`, so a tick publishes `applied` although
the record on disk is already the clear one.
-/

namespace PreRunner.Paddock

open Runs

/-- The record says STOP. -/
def StopOnDisk (file : StateFile) : Prop := ∃ generation, restore file = .ok ⟨generation, true⟩

/-- An executor that starts from the file is stopped and locked and restores no clear. -/
def RestartsStopped (file : StateFile) : Prop :=
  ∀ boot started, ∃ s, StopEnforcer.start file boot started = .ok s ∧
    s.stopped = true ∧ s.locked = true ∧ s.clearAt = none

theorem StopOnDisk.restartsStopped {file : StateFile} (h : StopOnDisk file) :
    RestartsStopped file := by
  obtain ⟨generation, hRestore⟩ := h
  intro boot started
  refine ⟨.ofRecord file ⟨generation, true⟩ boot started, ?_, rfl, rfl, rfl⟩
  unfold StopEnforcer.start
  rw [hRestore]

namespace StopEnforcer

/-- What the record of the present generation says once it is on disk. -/
def recordedStop (s : StopEnforcer) : Bool := s.stopped && s.clearAt.isNone

/-- The write a tick waits for is the latest submission, of the present generation. -/
structure Pending (s : StopEnforcer) (ticket : Ticket StopRecord) : Prop where
  latest : ticket.number + 1 = s.worker.next
  generation : ticket.job.generation = s.generation
  stopped : ticket.job.stopped = true → s.stopped = true
  noDrain : s.clearAt = none
  notDurable : s.durable = false

structure Recorded (s : StopEnforcer) : Prop where
  serial : s.worker.Serial persisted
  pending : ∀ ticket, s.write = some ticket → s.Pending ticket
  settled : s.durable = true → s.write = none
  idle : s.durable = true → s.worker.queue = []
  onDisk : s.durable = true →
    restore s.disk = restore (persisted ⟨s.generation, s.recordedStop⟩)

variable {s next : StopEnforcer}

/-! ## The invariant -/

theorem generation_of_restore {file : StateFile} {record : StopRecord}
    (h : restore file = .ok record) : record.generation < 2 ^ 63 := by
  unfold restore at h
  split at h
  · cases h
  · split at h
    · split at h
      · rename_i hChecks
        rw [← Except.ok.inj h]
        change Int.toNat _ < _
        omega
      · cases h
    · cases h
  · cases h

theorem Recorded.ofRecord {file : StateFile} {record : StopRecord}
    (h : restore file = .ok record) (boot : String) (started : ℚ) :
    (ofRecord file record boot started).Recorded where
  serial := .fresh file
  pending := nofun
  settled _ := rfl
  idle _ := rfl
  onDisk _ := by
    have hStop : (StopEnforcer.ofRecord file record boot started).recordedStop =
        record.stopped := by
      unfold recordedStop StopEnforcer.ofRecord
      cases record.stopped <;> rfl
    rw [hStop, restore_persisted]
    exact h.trans (if_pos (generation_of_restore h)).symm

theorem Recorded.start {file : StateFile} {boot : String} {started : ℚ}
    (h : StopEnforcer.start file boot started = .ok s) : s.Recorded := by
  unfold StopEnforcer.start at h
  split at h
  · rename_i record hRestore
    rw [← Except.ok.inj h]
    exact .ofRecord hRestore boot started
  · split at h
    · rw [← Except.ok.inj h]
      exact ⟨.fresh file, nofun, nofun, nofun, nofun⟩
    · cases h

/-- A step that leaves the STOP state and the worker alone. -/
theorem Recorded.of_frame (h : s.Recorded) (hWorker : next.worker = s.worker)
    (hWrite : next.write = s.write) (hGeneration : next.generation = s.generation)
    (hStopped : next.stopped = s.stopped) (hDurable : next.durable = s.durable)
    (hClearAt : next.clearAt = s.clearAt) : next.Recorded where
  serial := by
    rw [hWorker]
    exact h.serial
  pending := by
    intro ticket hTicket
    rw [hWrite] at hTicket
    obtain ⟨hLatest, hJob, hStop, hDrain, hNot⟩ := h.pending ticket hTicket
    exact ⟨by rw [hWorker, hLatest], by rw [hGeneration, hJob], by rw [hStopped]; exact hStop,
      by rw [hClearAt, hDrain], by rw [hDurable, hNot]⟩
  settled := by
    rw [hDurable, hWrite]
    exact h.settled
  idle := by
    rw [hDurable, hWorker]
    exact h.idle
  onDisk := by
    unfold recordedStop disk
    rw [hDurable, hWorker, hGeneration, hStopped, hClearAt]
    exact h.onDisk

theorem Recorded.ack (h : s.Recorded) (message : StopRequest) (accepted : Bool) (reason : String)
    (store : Bool) : (s.ack message accepted reason store).Recorded :=
  h.of_frame rfl rfl rfl rfl rfl rfl

/-- A submission for a new generation: the record on disk is no longer trusted. -/
theorem Recorded.submit (hSerial : s.worker.Serial persisted) (hDurable : s.durable = false)
    (hDrain : s.clearAt = none) {stopped : Bool} (hStopped : stopped = true → s.stopped = true) :
    (s.submit stopped).Recorded where
  serial := hSerial.submit _
  pending := by
    intro ticket hTicket
    rw [← Option.some.inj hTicket]
    exact ⟨rfl, rfl, hStopped, hDrain, hDurable⟩
  settled := fun h => absurd (hDurable.symm.trans h) Bool.false_ne_true
  idle := fun h => absurd (hDurable.symm.trans h) Bool.false_ne_true
  onDisk := fun h => absurd (hDurable.symm.trans h) Bool.false_ne_true

theorem Recorded.assertStop (h : s.Recorded) : s.assertStop.Recorded := by
  unfold StopEnforcer.assertStop
  refine .submit ?_ rfl rfl fun _ => rfl
  exact h.serial

theorem Recorded.beginClear (h : s.Recorded) (hDrain : s.clearAt = none) :
    s.beginClear.Recorded := by
  unfold StopEnforcer.beginClear
  refine .submit ?_ rfl ?_ nofun
  · exact h.serial
  · exact hDrain

theorem Recorded.abortDrain (h : s.Recorded) : s.abortDrain.Recorded := by
  unfold StopEnforcer.abortDrain
  refine .submit ?_ rfl rfl fun _ => rfl
  exact h.serial

theorem Recorded.request (h : s.Recorded) (message : StopRequest) (now : ℚ) :
    (s.request message now).1.Recorded := by
  have hCase := s.request_case message now
  generalize s.request message now = out at hCase
  cases hCase with
  | answered accepted reason store hTakes => exact h.ack message accepted reason store
  | stop hTakes hStopped => exact h.assertStop.ack message _ _ _
  | clear hTakes hStopped =>
    exact (h.beginClear (clear_of_takes hTakes hStopped).2.1).ack message _ _ _

/-- A step of the worker. -/
theorem Recorded.work (h : s.Recorded) {worker : SerialWorker StopRecord StateFile String}
    (hSerial : worker.Serial persisted) (hNext : worker.next = s.worker.next)
    (hIdle : s.worker.queue = [] → worker = s.worker) : { s with worker := worker }.Recorded where
  serial := hSerial
  pending := by
    intro ticket hTicket
    obtain ⟨hLatest, hJob, hStop, hDrain, hNot⟩ := h.pending ticket hTicket
    exact ⟨hLatest.trans hNext.symm, hJob, hStop, hDrain, hNot⟩
  settled := h.settled
  idle := by
    intro hDurable
    change worker.queue = []
    rw [hIdle (h.idle hDurable)]
    exact h.idle hDurable
  onDisk := by
    intro hDurable
    change restore worker.store = _
    rw [hIdle (h.idle hDurable)]
    exact h.onDisk hDurable

theorem Recorded.observeWrite (h : s.Recorded) (now : ℚ) : (s.observeWrite now).Recorded := by
  have hCase := s.observeWrite_case now
  generalize s.observeWrite now = out at hCase
  cases hCase with
  | waiting => exact h
  | recorded ticket hWrite hReturned hGeneration =>
    have hPending := h.pending ticket hWrite
    refine ⟨h.serial, nofun, fun _ => rfl,
      fun _ => h.serial.idle_of_ended hPending.latest hReturned, fun _ => ?_⟩
    have hStored : s.disk = persisted ticket.job :=
      h.serial.stored_of_returned hPending.latest hReturned
    -- the flags that the tick leaves say what the job has stored
    have hFlag : (s.stopped && (if ticket.job.stopped then s.clearAt
        else some (now + drainTime)).isNone) = ticket.job.stopped := by
      cases hJob : ticket.job.stopped with
      | false => exact Bool.and_false _
      | true =>
        rw [hPending.stopped hJob, if_pos rfl, hPending.noDrain]
        rfl
    change restore s.disk = restore (persisted ⟨s.generation, s.stopped && _⟩)
    rw [hFlag, hStored, ← hGeneration]
  | superseded ticket hWrite hGeneration =>
    exact absurd (h.pending ticket hWrite).generation hGeneration
  | failed ticket error hWrite hRaised =>
    have hNot : s.durable = false := (h.pending ticket hWrite).notDurable
    have hNever : s.durable ≠ true := by
      rw [hNot]
      exact Bool.false_ne_true
    exact ⟨h.serial, nofun, fun hDurable => absurd hDurable hNever,
      fun hDurable => absurd hDurable hNever, fun hDurable => absurd hDurable hNever⟩

theorem Recorded.settleDrain (h : s.Recorded) (now reasonNow : ℚ) :
    (s.settleDrain now reasonNow).Recorded := by
  have hCase := s.settleDrain_case now reasonNow
  generalize s.settleDrain now reasonNow = out at hCase
  cases hCase with
  | none => exact h
  | draining => exact h
  | aborted => exact h.abortDrain
  | released clearAt hClearAt hDrained hReason =>
    refine ⟨h.serial, ?_, h.settled, h.idle, ?_⟩
    · intro ticket hTicket
      have hDrain := (h.pending ticket hTicket).noDrain
      rw [hClearAt] at hDrain
      cases hDrain
    · intro hDurable
      have hOnDisk := h.onDisk hDurable
      have hFlag : s.recordedStop = false := by
        unfold recordedStop
        rw [hClearAt]
        exact Bool.and_false _
      rw [hFlag] at hOnDisk
      exact hOnDisk

theorem Recorded.atPublish (h : s.Recorded) (now reasonNow : ℚ) :
    (s.settled now reasonNow).Recorded := (h.observeWrite now).settleDrain now reasonNow

theorem Recorded.tick (h : s.Recorded) (now reasonNow : ℚ) (stamp : Int) :
    (s.tick now reasonNow stamp).1.Recorded := by
  obtain ⟨key, time, hNext⟩ := s.tick_eq now reasonNow stamp
  rw [hNext]
  exact (h.atPublish now reasonNow).of_frame rfl rfl rfl rfl rfl rfl

theorem Recorded.step (h : s.Recorded) (event : StopEvent) : (s.step event).Recorded := by
  cases event with
  | request message now => exact h.request message now
  | encoder now stationary => exact h.of_frame rfl rfl rfl rfl rfl rfl
  | localControl now released neutral => exact h.of_frame rfl rfl rfl rfl rfl rfl
  | final now linearX angularZ =>
    change (s.onFinal now linearX angularZ).Recorded
    unfold onFinal
    split
    · exact h.of_frame rfl rfl rfl rfl rfl rfl
    · exact h
  | tick now reasonNow stamp => exact h.tick now reasonNow stamp
  | replaced =>
    exact h.work h.serial.storeJob SerialWorker.storeJob_next SerialWorker.storeJob_of_idle
  | returned =>
    exact h.work (h.serial.finish none) (SerialWorker.finish_next none)
      fun hIdle => SerialWorker.finish_of_idle hIdle none
  | raised error =>
    exact h.work (h.serial.finish (some error)) (SerialWorker.finish_next (some error))
      fun hIdle => SerialWorker.finish_of_idle hIdle (some error)

/-- The flags are tied to the record on disk in every reachable state. -/
theorem recorded_after {file : StateFile} {boot : String} {started : ℚ} {init : StopEnforcer}
    (hStart : StopEnforcer.start file boot started = .ok init) (history : List StopEvent) :
    (after step init history).Recorded :=
  after_invariant (Recorded.start hStart) (fun _ event h => h.step event) history

/-! ## What an applied STOP says about the disk -/

theorem state_of_tick {now reasonNow : ℚ} {stamp : Int} {message : StopState}
    (h : .state message ∈ s.published (.tick now reasonNow stamp)) :
    message = (s.settled now reasonNow).stateMessage now stamp := by
  change _ ∈ (s.tick now reasonNow stamp).2 at h
  unfold tick publishState at h
  dsimp only at h
  rcases List.mem_cons.mp h with h | h
  · cases h
  · rcases List.mem_append.mp h with h | h
    · split at h
      · cases List.mem_singleton.mp h
      · cases h
    · split at h
      · cases h
      · exact StopPublication.state.inj (List.mem_singleton.mp h)

theorem applied_stateMessage {now : ℚ} {stamp : Int}
    (h : (s.stateMessage now stamp).applied = true) :
    s.stopped = true ∧ s.locked = true ∧ s.durable = true := by
  have h : (s.stopped && s.locked && s.durable && s.zeroSeen &&
    !isStale s.finalAt now finalFreshness) = true := h
  simp only [Bool.and_eq_true] at h
  exact ⟨h.1.1.1.1, h.1.1.1.2, h.1.1.2⟩

/-- The tick finds that the CLEAR it waits for is on disk. -/
def clearReturned (s : StopEnforcer) : Bool :=
  s.write.any fun ticket => s.worker.outcome? ticket = some none && !ticket.job.stopped

/-- No clear drain is running when the tick starts, and the tick starts none. -/
def noDrain (s : StopEnforcer) : Bool := s.clearAt.isNone && !s.clearReturned

/-- Polling the write starts a drain exactly when the CLEAR is on disk, and keeps the
generation. -/
theorem Recorded.clearAt_observeWrite (h : s.Recorded) (now : ℚ) :
    ((s.observeWrite now).clearAt = none ↔ s.noDrain = true) ∧
      (s.observeWrite now).generation = s.generation := by
  have hCase := s.observeWrite_case now
  generalize s.observeWrite now = out at hCase
  cases hCase with
  | waiting hWaiting =>
    have hNot : s.clearReturned = false := by
      unfold clearReturned
      cases hWrite : s.write with
      | none => rfl
      | some ticket => simp [hWaiting ticket hWrite]
    exact ⟨by simp [noDrain, hNot], rfl⟩
  | recorded ticket hWrite hReturned hGeneration =>
    have hDrain := (h.pending ticket hWrite).noDrain
    refine ⟨?_, rfl⟩
    cases hJob : ticket.job.stopped <;> simp [noDrain, clearReturned, hWrite,
      hReturned, hJob, hDrain]
  | superseded ticket hWrite hGeneration =>
    exact absurd (h.pending ticket hWrite).generation hGeneration
  | failed ticket error hWrite hRaised =>
    exact ⟨by simp [noDrain, clearReturned, hWrite, hRaised], rfl⟩

/-- Settling the drain leaves a state that is still stopped and durable as it was. -/
theorem settleDrain_of_applied {now reasonNow : ℚ}
    (hStopped : (s.settleDrain now reasonNow).stopped = true)
    (hDurable : (s.settleDrain now reasonNow).durable = true) :
    s.settleDrain now reasonNow = s := by
  have hCase := s.settleDrain_case now reasonNow
  generalize s.settleDrain now reasonNow = out at hCase hStopped hDurable
  cases hCase with
  | none => rfl
  | draining => rfl
  | aborted => cases hDurable
  | released => cases hStopped

/-- **The applied STOP on disk.** In every reachable state, a tick that publishes an applied STOP
has that STOP on disk, and a restart comes up stopped, exactly when no clear drain is running or
starting and the generation is one that a record can hold. `recorded_after` ties the record to the
generation, and a state that is published as applied is one whose write has returned
(`settleDrain_of_applied`). -/
theorem applied_onDisk_iff {file : StateFile} {boot : String} {started : ℚ} {init : StopEnforcer}
    (hStart : StopEnforcer.start file boot started = .ok init) (history : List StopEvent)
    {now reasonNow : ℚ} {stamp : Int} {message : StopState}
    (hPublished :
      .state message ∈ (after step init history).published (.tick now reasonNow stamp))
    (hApplied : message.applied = true) :
    StopOnDisk (after step init (.tick now reasonNow stamp :: history)).disk ∧
        RestartsStopped (after step init (.tick now reasonNow stamp :: history)).disk ↔
      (after step init history).noDrain = true ∧ (after step init history).generation < 2 ^ 63 := by
  have hRecorded := recorded_after hStart history
  generalize hState : after step init history = s at hRecorded hPublished
  rw [state_of_tick hPublished] at hApplied
  obtain ⟨hStopped, -, hDurable⟩ := applied_stateMessage hApplied
  have hSettled : s.settled now reasonNow = s.observeWrite now :=
    settleDrain_of_applied hStopped hDurable
  have hAt := hRecorded.observeWrite now
  rw [hSettled] at hStopped hDurable
  obtain ⟨hDrain, hGeneration⟩ := hRecorded.clearAt_observeWrite now
  have hDisk : (after step init (.tick now reasonNow stamp :: history)).disk =
      (s.observeWrite now).disk := by
    obtain ⟨key, time, hNext⟩ := s.tick_eq now reasonNow stamp
    rw [after_cons, hState]
    change (s.tick now reasonNow stamp).1.disk = _
    rw [hNext, ← hSettled]
    rfl
  have hOnDisk := hAt.onDisk hDurable
  have hFlag : (s.observeWrite now).recordedStop = s.noDrain := by
    unfold recordedStop
    rw [hStopped, Bool.true_and, Bool.eq_iff_iff, Option.isNone_iff_eq_none]
    exact hDrain
  rw [hGeneration, hFlag, restore_persisted] at hOnDisk
  rw [hDisk]
  constructor
  · rintro ⟨⟨generation, hRecord⟩, -⟩
    rw [hOnDisk] at hRecord
    split at hRecord
    · rename_i hBound
      exact ⟨congrArg StopRecord.stopped (Except.ok.inj hRecord), hBound⟩
    · cases hRecord
  · rintro ⟨hNone, hBound⟩
    rw [hNone, if_pos hBound] at hOnDisk
    exact ⟨⟨_, hOnDisk⟩, StopOnDisk.restartsStopped ⟨_, hOnDisk⟩⟩

/-! ## A STOP that reaches the disk, and a drain that reports one -/

/-- A first start without a state file, a STOP, and its write; the latest event first. -/
def stopRun : List StopEvent :=
  [.final (1 / 50) (.finite 0) (.finite 0), .returned, .replaced,
    .request ⟨"web", 1, true, "", 0⟩ (1 / 100)]

def firstStart : StopEnforcer := ofUnknown (.error .osError) "boot" 0

theorem applied_onDisk_iff_stopRun :
    StopOnDisk (after step firstStart (.tick (3 / 100) (3 / 100) 0 :: stopRun)).disk ∧
      RestartsStopped (after step firstStart (.tick (3 / 100) (3 / 100) 0 :: stopRun)).disk :=
  (@applied_onDisk_iff (.error .osError) "boot" 0 firstStart rfl stopRun (3 / 100) (3 / 100) 0
    (((after step firstStart stopRun).settled (3 / 100) (3 / 100)).stateMessage (3 / 100) 0)
    (by decide +kernel) (by decide +kernel)).mpr (by decide +kernel)

/-- A restart into a recorded STOP, and a CLEAR whose write returns. -/
def clearRun : List StopEvent :=
  [.returned, .replaced, .request ⟨"web", 1, false, "", 5⟩ 1,
    .final 1 (.finite 0) (.finite 0), .localControl 1 true true, .encoder 1 true]

def stoppedStart : StopEnforcer := ofRecord (persisted ⟨5, true⟩) ⟨5, true⟩ "boot" 0

/-- The drain of a CLEAR reports an applied STOP over the clear record on disk, and a restart at
that instant restores the clear. -/
theorem applied_over_clear_record :
    start (persisted ⟨5, true⟩) "boot" 0 = .ok stoppedStart ∧
      (∃ message,
        .state message ∈ (after step stoppedStart clearRun).published
          (.tick (51 / 50) (51 / 50) 0) ∧
          message.applied = true) ∧
      ¬ StopOnDisk (after step stoppedStart (.tick (51 / 50) (51 / 50) 0 :: clearRun)).disk ∧
      ¬ RestartsStopped
        (after step stoppedStart (.tick (51 / 50) (51 / 50) 0 :: clearRun)).disk := by
  have hDisk : restore (after step stoppedStart
      (.tick (51 / 50) (51 / 50) 0 :: clearRun)).disk = .ok ⟨6, false⟩ := by
    decide +kernel
  refine ⟨by rfl, ⟨((after step stoppedStart clearRun).settled (51 / 50) (51 / 50)).stateMessage
    (51 / 50) 0, by decide +kernel, by decide +kernel⟩, ?_, ?_⟩
  · rintro ⟨generation, hStop⟩
    rw [hDisk] at hStop
    cases hStop
  · intro hRestart
    obtain ⟨s, hStart, hStopped, -⟩ := hRestart "boot" 0
    unfold start at hStart
    rw [hDisk] at hStart
    cases hStart
    cases hStopped

end StopEnforcer

end PreRunner.Paddock
