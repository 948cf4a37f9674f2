import Mathlib.Tactic.Linarith
import PreRunner.Paddock.StopDurability

/-!
# The release of the STOP lock

Only a tick releases the lock, at the end of a drain. A drain has one of two origins, and
`Phased` keeps which one it is along a run: the restored clear record of a start without any STOP
since, or a CLEAR that was accepted for the generation of its moment, whose record of exactly the
next generation came back from the worker, with the operator neutral at every tick from there on
and no STOP applied and no drain aborted since the CLEAR.
-/

namespace PreRunner.Paddock

open Runs

namespace StopEnforcer

/-! ## The events a release depends on -/

/-- A STOP that is applied. -/
def AppliesStop (s : StopEnforcer) (event : StopEvent) : Prop :=
  ∃ message now, event = .request message now ∧ s.takes message now = true ∧
    message.stopped = true

/-- A tick that finds the operator not neutral in a deliberate drain. -/
def AbortsDrain (s : StopEnforcer) (event : StopEvent) : Prop :=
  ∃ now reasonNow stamp, event = .tick now reasonNow stamp ∧ (s.observeWrite now).clearAt ≠ none ∧
    (s.observeWrite now).stopped = true ∧ (s.observeWrite now).clearReason reasonNow ≠ ""

/-- No STOP is applied and no drain is aborted. -/
def Undisturbed (s : StopEnforcer) (event : StopEvent) : Prop :=
  ¬ s.AppliesStop event ∧ ¬ s.AbortsDrain event

/-- If the event is a tick, `clear_reason` is empty at it. -/
def Neutral (s : StopEnforcer) (event : StopEvent) : Prop :=
  ∀ now reasonNow stamp, event = .tick now reasonNow stamp →
    (s.observeWrite now).clearReason reasonNow = ""

/-- A CLEAR is accepted for the present generation, and begins the given one. -/
def AcceptsClear (generation : Nat) (s : StopEnforcer) (event : StopEvent) : Prop :=
  ∃ message now, event = .request message now ∧ s.takes message now = true ∧
    message.stopped = false ∧ message.expectedGeneration = s.generation ∧
    s.clearReason now = "" ∧ generation = s.generation + 1

/-- A tick observes that the clear record of the given generation was written, and starts a drain
that ends by the deadline. -/
def ObservesClear (generation : Nat) (deadline : ℚ) (s : StopEnforcer) (event : StopEvent) :
    Prop :=
  ∃ now reasonNow stamp, event = .tick now reasonNow stamp ∧ now + drainTime ≤ deadline ∧
    s.generation = generation ∧
    ∃ ticket, s.write = some ticket ∧ ticket.job = ⟨generation, false⟩ ∧
      s.worker.outcome? ticket = some none

/-- The history of a CLEAR whose record is still to be written. -/
def ClearPending (init : StopEnforcer) (generation : Nat) : List StopEvent → Prop :=
  Since (along step init Undisturbed) (along step init (AcceptsClear generation))

/-- The history of a deliberate drain that ends by the deadline. -/
def ClearDraining (init : StopEnforcer) (generation : Nat) (deadline : ℚ) :
    List StopEvent → Prop :=
  Since (along step init fun s event => s.Undisturbed event ∧ s.Neutral event)
    fun past event => along step init (ObservesClear generation deadline) past event ∧
      along step init Neutral past event ∧ ClearPending init generation past

/-- The history of a start from the clear record: no STOP since. -/
def RestoredClear (file : StateFile) (init : StopEnforcer) (history : List StopEvent) : Prop :=
  (∃ generation, restore file = .ok ⟨generation, false⟩) ∧
    ¬ Once (along step init AppliesStop) history

theorem ClearDraining.mono {init : StopEnforcer} {generation : Nat} {deadline later : ℚ}
    {history : List StopEvent} (h : ClearDraining init generation deadline history)
    (hLater : deadline ≤ later) : ClearDraining init generation later history := by
  refine Since.mono (fun _ _ hKeep => hKeep) ?_ h
  rintro past event ⟨⟨now, reasonNow, stamp, hEvent, hDeadline, hWritten⟩, hNeutral, hPending⟩
  exact ⟨⟨now, reasonNow, stamp, hEvent, hDeadline.trans hLater, hWritten⟩, hNeutral, hPending⟩

/-! ## Events that are not ticks -/

theorem undisturbed_of_not_tick {s : StopEnforcer} {event : StopEvent}
    (hTick : ∀ now reasonNow stamp, event ≠ .tick now reasonNow stamp)
    (hStop : ¬ s.AppliesStop event) : s.Undisturbed event ∧ s.Neutral event := by
  refine ⟨⟨hStop, ?_⟩, fun now reasonNow stamp hEvent => absurd hEvent (hTick now reasonNow stamp)⟩
  rintro ⟨now, reasonNow, stamp, hEvent, -⟩
  exact hTick now reasonNow stamp hEvent

/-- The fields the phases of a run depend on. -/
structure SamePhase (s next : StopEnforcer) : Prop where
  generation : next.generation = s.generation
  stopped : next.stopped = s.stopped
  locked : next.locked = s.locked
  clearAt : next.clearAt = s.clearAt
  write : next.write = s.write

/-- What an event that is not a tick can do to the phase. -/
inductive PhaseCase (s : StopEnforcer) (event : StopEvent) : StopEnforcer → Prop
  | same {next : StopEnforcer} (h : s.SamePhase next) (hStop : ¬ s.AppliesStop event) :
      PhaseCase s event next
  | stop {next : StopEnforcer} (h : s.assertStop.SamePhase next) : PhaseCase s event next
  | clear {next : StopEnforcer} (hAccepts : s.AcceptsClear (s.generation + 1) event)
      (hClearAt : s.clearAt = none) (h : s.beginClear.SamePhase next) : PhaseCase s event next

theorem phase_case (s : StopEnforcer) {event : StopEvent}
    (hTick : ∀ now reasonNow stamp, event ≠ .tick now reasonNow stamp) :
    PhaseCase s event (s.step event) := by
  cases event with
  | request message now =>
    have hCase := s.request_case message now
    change PhaseCase s _ (s.request message now).1
    generalize s.request message now = out at hCase
    cases hCase with
    | answered accepted reason store hTakes =>
      refine .same ⟨rfl, rfl, rfl, rfl, rfl⟩ ?_
      rintro ⟨message', now', hEvent, hTakes', -⟩
      cases hEvent
      exact Bool.false_ne_true (hTakes.symm.trans hTakes')
    | stop hTakes hStopped => exact .stop ⟨rfl, rfl, rfl, rfl, rfl⟩
    | clear hTakes hStopped =>
      obtain ⟨hGeneration, hClearAt, hReason⟩ := clear_of_takes hTakes hStopped
      exact .clear ⟨message, now, rfl, hTakes, hStopped, hGeneration, hReason, rfl⟩ hClearAt
        ⟨rfl, rfl, rfl, rfl, rfl⟩
  | encoder now stationary => exact .same ⟨rfl, rfl, rfl, rfl, rfl⟩ nofun
  | localControl now released neutral => exact .same ⟨rfl, rfl, rfl, rfl, rfl⟩ nofun
  | final now linearX angularZ =>
    refine .same ?_ nofun
    change s.SamePhase (s.onFinal now linearX angularZ)
    unfold onFinal
    split <;> exact ⟨rfl, rfl, rfl, rfl, rfl⟩
  | tick now reasonNow stamp => exact absurd rfl (hTick now reasonNow stamp)
  | replaced => exact .same ⟨rfl, rfl, rfl, rfl, rfl⟩ nofun
  | returned => exact .same ⟨rfl, rfl, rfl, rfl, rfl⟩ nofun
  | raised error => exact .same ⟨rfl, rfl, rfl, rfl, rfl⟩ nofun

/-! ## Ticks -/

/-- What the poll of a tick without a drain can do to the phase. -/
inductive PollCase (s : StopEnforcer) (now : ℚ) (next : StopEnforcer) : Prop
  | resting (hClearAt : next.clearAt = none) (hWrite : next.write = none ∨ next = s)
      (hLocked : s.locked = true → next.locked = true)
      (hStopped : next.stopped = false → s.stopped = false ∧ next.locked = s.locked)
  | begins (ticket : Ticket StopRecord) (hWrite : s.write = some ticket)
      (hJob : ticket.job = ⟨s.generation, false⟩)
      (hReturned : s.worker.outcome? ticket = some none)
      (hClearAt : next.clearAt = some (now + drainTime)) (hIdle : next.write = none)
      (hGeneration : next.generation = s.generation) (hStopped : next.stopped = s.stopped)
      (hLocked : next.locked = s.locked)

/-- What a tick can do to the phase. A drain that begins does not end in the same tick. -/
inductive SettleCase (s : StopEnforcer) (now reasonNow : ℚ) (next : StopEnforcer) : Prop
  | resting (hClearAt : s.clearAt = none) (hObserve : (s.observeWrite now).clearAt = none)
      (hNext : next.clearAt = none) (hWrite : next.write = none ∨ next = s)
      (hLocked : s.locked = true → next.locked = true)
      (hStopped : next.stopped = false → s.stopped = false ∧ next.locked = s.locked)
  | begins (ticket : Ticket StopRecord) (hWrite : s.write = some ticket)
      (hJob : ticket.job = ⟨s.generation, false⟩)
      (hReturned : s.worker.outcome? ticket = some none)
      (hClearAt : next.clearAt = some (now + drainTime)) (hIdle : next.write = none)
      (hGeneration : next.generation = s.generation) (hStopped : next.stopped = s.stopped)
      (hLocked : next.locked = s.locked)
      (hReason : s.stopped = true → (s.observeWrite now).clearReason reasonNow = "")
  | aborted (hNext : next = (s.observeWrite now).abortDrain)
  | draining (clearAt : ℚ) (hClearAt : s.clearAt = some clearAt) (hObserve : s.observeWrite now = s)
      (hReason : s.stopped = true → s.clearReason reasonNow = "") (hNext : next = s)
  | released (clearAt : ℚ) (hClearAt : s.clearAt = some clearAt) (hDrained : clearAt ≤ now)
      (hObserve : s.observeWrite now = s)
      (hReason : s.stopped = true → s.clearReason reasonNow = "") (hLocked : next.locked = false)
      (hNext : next.clearAt = none) (hWrite : next.write = s.write)

/-- A running drain waits for no write. -/
theorem Recorded.observeWrite_of_drain {s : StopEnforcer} (h : s.Recorded) {clearAt : ℚ}
    (hClearAt : s.clearAt = some clearAt) (now : ℚ) :
    s.write = none ∧ s.observeWrite now = s := by
  have hWrite : s.write = none := by
    cases hWrite : s.write with
    | none => rfl
    | some ticket =>
      have hDrain := (h.pending ticket hWrite).noDrain
      rw [hClearAt] at hDrain
      cases hDrain
  refine ⟨hWrite, ?_⟩
  unfold StopEnforcer.observeWrite
  rw [hWrite]

theorem Recorded.poll_case {s : StopEnforcer} (h : s.Recorded) (hClearAt : s.clearAt = none)
    (now : ℚ) : PollCase s now (s.observeWrite now) := by
  have hCase := s.observeWrite_case now
  generalize s.observeWrite now = out at hCase
  cases hCase with
  | waiting => exact .resting hClearAt (Or.inr rfl) id fun hStopped => ⟨hStopped, rfl⟩
  | superseded ticket hWrite hGeneration =>
    exact absurd (h.pending ticket hWrite).generation hGeneration
  | failed ticket error hWrite hRaised =>
    exact .resting hClearAt (Or.inl rfl) (fun _ => rfl) nofun
  | recorded ticket hWrite hReturned hGeneration =>
    cases hJob : ticket.job.stopped with
    | true =>
      refine .resting (by rwa [if_pos rfl]) (Or.inl rfl) id fun hStopped => ?_
      have hStopped : s.stopped = false := hStopped
      rw [(h.pending ticket hWrite).stopped hJob] at hStopped
      cases hStopped
    | false =>
      have hRecord : ticket.job = ⟨s.generation, false⟩ := by
        rw [← hGeneration, ← hJob]
      exact .begins ticket hWrite hRecord hReturned rfl rfl rfl rfl rfl

theorem Recorded.settle_case {s : StopEnforcer} (h : s.Recorded) (now reasonNow : ℚ) :
    SettleCase s now reasonNow (s.settled now reasonNow) := by
  have hDrain := (s.observeWrite now).settleDrain_case now reasonNow
  unfold StopEnforcer.settled
  generalize (s.observeWrite now).settleDrain now reasonNow = next at hDrain
  cases hClearAt : s.clearAt with
  | some clearAt =>
    obtain ⟨-, hObserve⟩ := h.observeWrite_of_drain hClearAt now
    cases hDrain with
    | none hNone =>
      rw [hObserve, hClearAt] at hNone
      cases hNone
    | aborted => exact .aborted rfl
    | released clearAt' hEnd hDrained hReason =>
      rw [hObserve] at hEnd hReason
      exact .released clearAt' hEnd hDrained hObserve hReason rfl rfl (by rw [hObserve])
    | draining clearAt' hEnd hEarly hReason =>
      rw [hObserve] at hEnd hReason
      exact .draining clearAt' hEnd hObserve hReason hObserve
  | none =>
    cases h.poll_case hClearAt now with
    | resting hNone hWrite hLocked hStopped =>
      cases hDrain with
      | none => exact .resting hClearAt hNone hNone hWrite hLocked hStopped
      | aborted hSome => exact absurd hNone hSome
      | released clearAt hEnd => cases hNone.symm.trans hEnd
      | draining clearAt hEnd => cases hNone.symm.trans hEnd
    | begins ticket hWrite hJob hReturned hSome hIdle hGeneration hStopped hLocked =>
      cases hDrain with
      | none hNone => cases hSome.symm.trans hNone
      | aborted => exact .aborted rfl
      | released clearAt hEnd hDrained =>
        have hEnd : now + drainTime = clearAt := Option.some.inj (hSome.symm.trans hEnd)
        have hPositive : 0 < drainTime := by decide +kernel
        linarith
      | draining clearAt hEnd hEarly hReason =>
        rw [hStopped] at hReason
        exact .begins ticket hWrite hJob hReturned hSome hIdle hGeneration hStopped hLocked hReason

/-! ## The phases of a run -/

/-- Where the phase of a state comes from: a drain that has not stopped the node is that of the
restored clear, a drain of a stopped node that of a CLEAR, and so is a clear record on its way. -/
structure Phased (file : StateFile) (init : StopEnforcer) (started : ℚ)
    (history : List StopEvent) (s : StopEnforcer) : Prop where
  restored : s.locked = true → s.stopped = false →
    RestoredClear file init history ∧ s.clearAt = some (started + drainTime)
  draining : s.stopped = true → ∀ clearAt, s.clearAt = some clearAt →
    ClearDraining init s.generation clearAt history
  pending : ∀ ticket, s.write = some ticket → ticket.job.stopped = false →
    ClearPending init s.generation history

theorem Phased.start {file : StateFile} {boot : String} {started : ℚ} {init : StopEnforcer}
    (h : StopEnforcer.start file boot started = .ok init) : Phased file init started [] init := by
  unfold StopEnforcer.start at h
  split at h
  · rename_i record hRestore
    obtain ⟨generation, stopped⟩ := record
    rw [← Except.ok.inj h]
    cases stopped with
    | true => exact ⟨nofun, nofun, nofun⟩
    | false => exact ⟨fun _ _ => ⟨⟨⟨generation, hRestore⟩, since_nil⟩, rfl⟩, nofun, nofun⟩
  · split at h
    · rw [← Except.ok.inj h]
      exact ⟨nofun, nofun, nofun⟩
    · cases h

section Run

variable {file : StateFile} {init : StopEnforcer} {started : ℚ} {history : List StopEvent}
  {event : StopEvent}

theorem RestoredClear.cons (h : RestoredClear file init history)
    (hStop : ¬ (after step init history).AppliesStop event) :
    RestoredClear file init (event :: history) := by
  refine ⟨h.1, ?_⟩
  rintro (hEvent | ⟨-, hPast⟩)
  · exact hStop hEvent
  · exact h.2 hPast

/-- A quiet event keeps every phase. -/
theorem Phased.same {next : StopEnforcer}
    (h : Phased file init started history (after step init history))
    (hQuiet : (after step init history).Undisturbed event)
    (hNeutral : (after step init history).stopped = true →
      (after step init history).Neutral event)
    (hSame : (after step init history).SamePhase next) :
    Phased file init started (event :: history) next where
  restored := by
    intro hLocked hStopped
    rw [hSame.locked] at hLocked
    rw [hSame.stopped] at hStopped
    obtain ⟨hRestored, hClearAt⟩ := h.restored hLocked hStopped
    exact ⟨hRestored.cons hQuiet.1, hSame.clearAt.trans hClearAt⟩
  draining := by
    intro hStopped clearAt hClearAt
    rw [hSame.stopped] at hStopped
    rw [hSame.clearAt] at hClearAt
    rw [hSame.generation]
    exact .keep ⟨hQuiet, hNeutral hStopped⟩ (h.draining hStopped clearAt hClearAt)
  pending := by
    intro ticket hTicket hJob
    rw [hSame.write] at hTicket
    rw [hSame.generation]
    exact .keep hQuiet (h.pending ticket hTicket hJob)

theorem Phased.request
    (h : Phased file init started history (after step init history))
    (hTick : ∀ now reasonNow stamp, event ≠ .tick now reasonNow stamp) :
    Phased file init started (event :: history) ((after step init history).step event) := by
  cases (after step init history).phase_case hTick with
  | same hSame hStop =>
    obtain ⟨hQuiet, hNeutral⟩ := undisturbed_of_not_tick hTick hStop
    exact h.same hQuiet (fun _ => hNeutral) hSame
  | stop hSame =>
    refine ⟨fun _ hStopped => ?_, fun _ clearAt hSome => ?_, fun ticket hTicket hJob => ?_⟩
    · cases hSame.stopped.symm.trans hStopped
    · cases hSame.clearAt.symm.trans hSome
    · cases hSame.write.symm.trans hTicket
      cases hJob
  | clear hAccepts hClearAt hSame =>
    have hNone : ((after step init history).step event).clearAt = none :=
      hSame.clearAt.trans hClearAt
    refine ⟨fun hLocked hStopped => ?_, fun _ clearAt hSome => ?_, fun ticket hTicket hJob => ?_⟩
    · rw [hSame.locked] at hLocked
      rw [hSame.stopped] at hStopped
      cases hClearAt.symm.trans (h.restored hLocked hStopped).2
    · cases hNone.symm.trans hSome
    · rw [hSame.generation]
      exact .start hAccepts

/-- What a tick publishes last is no part of the phase. -/
theorem samePhase_tick (s : StopEnforcer) (now reasonNow : ℚ) (stamp : Int) :
    (s.settled now reasonNow).SamePhase (s.step (.tick now reasonNow stamp)) := by
  obtain ⟨key, time, hNext⟩ := s.tick_eq now reasonNow stamp
  change (s.settled now reasonNow).SamePhase (s.tick now reasonNow stamp).1
  rw [hNext]
  exact ⟨rfl, rfl, rfl, rfl, rfl⟩

/-- The phases of a state do not depend on anything else in it. -/
theorem Phased.of_samePhase {s next : StopEnforcer} (h : Phased file init started history s)
    (hSame : s.SamePhase next) : Phased file init started history next where
  restored := by
    rw [hSame.locked, hSame.stopped, hSame.clearAt]
    exact h.restored
  draining := by
    rw [hSame.stopped, hSame.clearAt, hSame.generation]
    exact h.draining
  pending := by
    rw [hSame.write, hSame.generation]
    exact h.pending

/-- A tick at which `clear_reason` is empty aborts nothing. -/
theorem undisturbed_tick {s : StopEnforcer} {now reasonNow : ℚ} {stamp : Int}
    (h : (s.observeWrite now).clearAt = none ∨
      (s.stopped = true → (s.observeWrite now).clearReason reasonNow = "") ∧
        (s.observeWrite now).stopped = s.stopped) :
    s.Undisturbed (.tick now reasonNow stamp) := by
  refine ⟨nofun, ?_⟩
  rintro ⟨now', reasonNow', stamp', hEvent, hClearAt, hStopped, hReason⟩
  cases hEvent
  rcases h with hNone | ⟨hEmpty, hSame⟩
  · exact hClearAt hNone
  · exact hReason (hEmpty (hSame ▸ hStopped))

theorem neutral_tick {s : StopEnforcer} {now reasonNow : ℚ} {stamp : Int}
    (h : (s.observeWrite now).clearReason reasonNow = "") :
    s.Neutral (.tick now reasonNow stamp) := by
  rintro now' reasonNow' stamp' hEvent
  cases hEvent
  exact h

theorem Phased.tick (hRecorded : (after step init history).Recorded)
    (h : Phased file init started history (after step init history)) (now reasonNow : ℚ)
    (stamp : Int) :
    Phased file init started (.tick now reasonNow stamp :: history)
      ((after step init history).step (.tick now reasonNow stamp)) := by
  refine Phased.of_samePhase ?_ ((after step init history).samePhase_tick now reasonNow stamp)
  cases hRecorded.settle_case now reasonNow with
  | resting hClearAt hObserve hNext hWrite hLocked hStopped =>
    refine ⟨fun hLock hStop => ?_, fun _ clearAt hSome => ?_, fun ticket hTicket hJob => ?_⟩
    · obtain ⟨hStop, hSame⟩ := hStopped hStop
      rw [hSame] at hLock
      cases hClearAt.symm.trans (h.restored hLock hStop).2
    · cases hNext.symm.trans hSome
    · rcases hWrite with hWrite | hSame
      · cases hWrite.symm.trans hTicket
      · rw [hSame] at hTicket ⊢
        exact .keep (undisturbed_tick (Or.inl hObserve)) (h.pending ticket hTicket hJob)
  | begins ticket hWrite hJob hReturned hClearAt hIdle hGeneration hStopped hLocked hReason =>
    refine ⟨fun hLock hStop => ?_, fun hStop clearAt hSome => ?_, fun ticket' hTicket => ?_⟩
    · rw [hStopped] at hStop
      rw [hLocked] at hLock
      have hDrain := (hRecorded.pending ticket hWrite).noDrain
      cases hDrain.symm.trans (h.restored hLock hStop).2
    · rw [hGeneration]
      rw [hStopped] at hStop
      have hEnd : now + drainTime = clearAt := Option.some.inj (hClearAt.symm.trans hSome)
      exact .start ⟨⟨now, reasonNow, stamp, rfl, hEnd.le, rfl, ticket, hWrite, hJob, hReturned⟩,
        neutral_tick (hReason hStop), h.pending ticket hWrite (by rw [hJob])⟩
    · cases hIdle.symm.trans hTicket
  | aborted hNext =>
    rw [hNext]
    refine ⟨nofun, nofun, fun ticket hTicket hJob => ?_⟩
    cases hTicket
    cases hJob
  | draining clearAt hClearAt hObserve hReason hNext =>
    rw [hNext]
    refine h.same (undisturbed_tick (Or.inr ⟨?_, ?_⟩)) (fun hStop => neutral_tick ?_)
      ⟨rfl, rfl, rfl, rfl, rfl⟩
    · rw [hObserve]
      exact hReason
    · rw [hObserve]
    · rw [hObserve]
      exact hReason hStop
  | released clearAt hClearAt hDrained hObserve hReason hLocked hNext hWrite =>
    refine ⟨fun hLock => ?_, fun _ clearAt hSome => ?_, fun ticket hTicket => ?_⟩
    · cases hLocked.symm.trans hLock
    · cases hNext.symm.trans hSome
    · rw [hWrite, (hRecorded.observeWrite_of_drain hClearAt now).1] at hTicket
      cases hTicket

theorem phased_after {boot : String}
    (hStart : StopEnforcer.start file boot started = .ok init) (history : List StopEvent) :
    Phased file init started history (after step init history) := by
  induction history with
  | nil => exact Phased.start hStart
  | cons event history ih =>
    rw [after_cons]
    by_cases hTick : ∃ now reasonNow stamp, event = .tick now reasonNow stamp
    · obtain ⟨now, reasonNow, stamp, rfl⟩ := hTick
      exact ih.tick (recorded_after hStart history) now reasonNow stamp
    · exact ih.request fun now reasonNow stamp hEvent => hTick ⟨now, reasonNow, stamp, hEvent⟩

/-- **The release of the lock.** Only a tick releases it. Either the node restored a clear record,
no STOP was applied since, and the drain has passed since the start; or a CLEAR was accepted for
the generation of its moment, no STOP was applied and no drain aborted since, its record of the
next generation, still the present one, was observed on disk a drain ago, and `clear_reason` was
empty at the CLEAR and at every tick of the drain. -/
theorem released_after {boot : String}
    (hStart : StopEnforcer.start file boot started = .ok init) (history : List StopEvent)
    (event : StopEvent) (hLocked : (after step init history).locked = true)
    (hReleased : (after step init (event :: history)).locked = false) :
    ∃ now reasonNow stamp, event = .tick now reasonNow stamp ∧
      (RestoredClear file init history ∧ started + drainTime ≤ now ∨
        ClearDraining init (after step init history).generation now history ∧
          (after step init history).Neutral event) := by
  have hRecorded := recorded_after hStart history
  have hPhased := phased_after hStart history
  rw [after_cons] at hReleased
  by_cases hTick : ∃ now reasonNow stamp, event = .tick now reasonNow stamp
  · obtain ⟨now, reasonNow, stamp, rfl⟩ := hTick
    refine ⟨now, reasonNow, stamp, rfl, ?_⟩
    rw [((after step init history).samePhase_tick now reasonNow stamp).locked] at hReleased
    cases hRecorded.settle_case now reasonNow with
    | resting hClearAt hObserve hNext hWrite hLock =>
      cases (hLock hLocked).symm.trans hReleased
    | begins ticket hWrite hJob hReturned hClearAt hIdle hGeneration hStopped hLock =>
      cases (hLock.trans hLocked).symm.trans hReleased
    | aborted hNext =>
      rw [hNext] at hReleased
      cases hReleased
    | draining clearAt hClearAt hObserve hReason hNext =>
      rw [hNext, hLocked] at hReleased
      cases hReleased
    | released clearAt hClearAt hDrained hObserve hReason =>
      cases hStopped : (after step init history).stopped with
      | false =>
        obtain ⟨hRestored, hSome⟩ := hPhased.restored hLocked hStopped
        have hEnd : started + drainTime = clearAt := Option.some.inj (hSome.symm.trans hClearAt)
        exact Or.inl ⟨hRestored, hEnd.trans_le hDrained⟩
      | true =>
        refine Or.inr ⟨(hPhased.draining hStopped clearAt hClearAt).mono hDrained, ?_⟩
        refine neutral_tick ?_
        rw [hObserve]
        exact hReason hStopped
  · cases (after step init history).phase_case
      fun now reasonNow stamp hEvent => hTick ⟨now, reasonNow, stamp, hEvent⟩ with
    | same hSame => cases (hSame.locked.trans hLocked).symm.trans hReleased
    | stop hSame => cases hSame.locked.symm.trans hReleased
    | clear hAccepts hClearAt hSame => cases (hSame.locked.trans hLocked).symm.trans hReleased

end Run

/-! ## A drain with a late STOP of another boot -/

/-- The CLEAR of `clearRun` observed on disk, and the operator neutral in its drain. -/
def drainRun : List StopEvent :=
  [.localControl (7 / 5) true true, .encoder (7 / 5) true, .tick (51 / 50) (51 / 50) 0] ++ clearRun

theorem released_after_drainRun :
    ∃ now reasonNow stamp, StopEvent.tick (3 / 2) (3 / 2) 0 = .tick now reasonNow stamp ∧
      (RestoredClear (persisted ⟨5, true⟩) stoppedStart drainRun ∧ 0 + drainTime ≤ now ∨
        ClearDraining stoppedStart (after step stoppedStart drainRun).generation now drainRun ∧
          (after step stoppedStart drainRun).Neutral (.tick (3 / 2) (3 / 2) 0)) :=
  @released_after (persisted ⟨5, true⟩) stoppedStart 0 "boot" rfl drainRun
    (.tick (3 / 2) (3 / 2) 0) (by decide +kernel) (by decide +kernel)

/-- A STOP that names another boot of the executor is refused, and the tick after it releases the
lock. -/
theorem released_after_refused_stop :
    let history :=
      .request ⟨"web", 2, true, "older boot", 6⟩ (7 / 5) :: drainRun
    (after step stoppedStart history).locked = true ∧
      (after step stoppedStart (.tick (3 / 2) (3 / 2) 0 :: history)).locked = false := by
  decide +kernel

end StopEnforcer

end PreRunner.Paddock
