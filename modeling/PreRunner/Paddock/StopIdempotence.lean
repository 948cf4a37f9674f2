import PreRunner.Runs.History
import PreRunner.Paddock.StopEnforcer

/-!
# Retried STOP requests

The executor remembers the last request of every requester together with its answer. The memory
grows with the highest request id of the requester (`Remembers`), so a request that comes again,
or after a later one, is only answered, and whatever changes the STOP state begins a new
generation.

The fields that a request may change are gathered in `StopControl`. A request is repeated, stale or
fresh (`AnswerCase`); only a fresh one reaches them, and it counts the generation up. One slot is
kept for each requester, so an answer is remembered until its requester sends a later request.
-/

namespace PreRunner.Paddock

open Runs

/-- What requests and ticks decide about the STOP. -/
structure StopControl where
  generation : Nat
  stopped : Bool
  locked : Bool
  clearAt : Option ℚ
  write : Option (Ticket StopRecord)

namespace StopEnforcer

/-! ## Memory and answers -/

def control (s : StopEnforcer) : StopControl where
  generation := s.generation
  stopped := s.stopped
  locked := s.locked
  clearAt := s.clearAt
  write := s.write

/-- The published `last_request_accepted` and `last_request_reason`. -/
def answer (s : StopEnforcer) : Bool × String := (s.lastRequestAccepted, s.lastRequestReason)

/-- The last stored request of a requester: its id and its result. -/
def stored (s : StopEnforcer) (requesterId : String) : Option (Nat × Bool × String) :=
  s.requestResults.lookup requesterId

/-- How a request is answered: a retry, a stale id, or a request that is new to its requester. -/
inductive AnswerCase (s : StopEnforcer) (message : StopRequest) (now : ℚ) : Prop
  | repeated (accepted : Bool) (reason : String)
      (hStored : s.stored message.requesterId = some (message.requestId, accepted, reason))
      (hNext : s.step (.request message now) = s.ack message accepted reason true)
  | stale (previousId : Nat) (result : Bool × String)
      (hStored : s.stored message.requesterId = some (previousId, result))
      (hOlder : message.requestId < previousId)
      (hNext : s.step (.request message now) = s.ack message false "STALE_REQUEST_ID" false)
  | fresh (hNew : ∀ previousId result,
        s.stored message.requesterId = some (previousId, result) → previousId < message.requestId)
      (hNext : s.step (.request message now) = (s.requestFresh message now).1)

theorem answer_case (s : StopEnforcer) (message : StopRequest) (now : ℚ) :
    AnswerCase s message now := by
  cases hStored : s.stored message.requesterId with
  | none =>
    refine .fresh (fun previousId result hSome => ?_) ?_
    · rw [hStored] at hSome
      cases hSome
    · change (s.request message now).1 = _
      unfold request
      rw [show s.requestResults.lookup message.requesterId = none from hStored]
  | some entry =>
    obtain ⟨previousId, accepted, reason⟩ := entry
    have hRequest : s.request message now =
        if message.requestId = previousId then (s.ack message accepted reason true, [])
        else if message.requestId < previousId then
          (s.ack message false "STALE_REQUEST_ID" false, [])
        else s.requestFresh message now := by
      unfold request
      rw [show s.requestResults.lookup message.requesterId = _ from hStored]
    have hStep : s.step (.request message now) = (s.request message now).1 := rfl
    by_cases hSame : message.requestId = previousId
    · rw [hRequest, if_pos hSame] at hStep
      exact .repeated accepted reason (hSame ▸ hStored) hStep
    · rw [hRequest, if_neg hSame] at hStep
      by_cases hOlder : message.requestId < previousId
      · rw [if_pos hOlder] at hStep
        exact .stale previousId _ hStored hOlder hStep
      · rw [if_neg hOlder] at hStep
        refine .fresh (fun previousId' result hSome => ?_) hStep
        cases hStored.symm.trans hSome
        omega

/-- A request that is new to its requester is stored with its answer. -/
theorem requestFresh_stored (s : StopEnforcer) (message : StopRequest) (now : ℚ) :
    (s.requestFresh message now).1.requestResults =
      (message.requesterId, message.requestId, (s.requestFresh message now).1.answer) ::
        s.requestResults := by
  unfold requestFresh
  split
  · rfl
  · split <;> rfl

@[simp] theorem ack_control (s : StopEnforcer) (message : StopRequest) (accepted : Bool)
    (reason : String) (store : Bool) : (s.ack message accepted reason store).control = s.control :=
  rfl

/-! ## Generations -/

/-- A request that changes the STOP state begins a new generation. -/
theorem request_control (s : StopEnforcer) (message : StopRequest) (now : ℚ) :
    (s.step (.request message now)).control = s.control ∨
      s.generation < (s.step (.request message now)).generation := by
  change (s.request message now).1.control = _ ∨ _ < (s.request message now).1.generation
  have hCase := s.request_case message now
  generalize s.request message now = out at hCase
  cases hCase with
  | answered => exact Or.inl rfl
  | stop | clear => exact Or.inr (Nat.lt_succ_self _)

theorem observeWrite_generation (s : StopEnforcer) (now : ℚ) :
    (s.observeWrite now).generation = s.generation := by
  have hCase := s.observeWrite_case now
  generalize s.observeWrite now = next at hCase
  cases hCase <;> rfl

theorem settleDrain_generation (s : StopEnforcer) (now reasonNow : ℚ) :
    s.generation ≤ (s.settleDrain now reasonNow).generation := by
  have hCase := s.settleDrain_case now reasonNow
  generalize s.settleDrain now reasonNow = next at hCase
  cases hCase with
  | aborted => exact Nat.le_succ _
  | none | released | draining => exact le_rfl

theorem step_generation (s : StopEnforcer) (event : StopEvent) :
    s.generation ≤ (s.step event).generation := by
  cases event with
  | request message now =>
    rcases s.request_control message now with hSame | hNew
    · exact (congrArg StopControl.generation hSame).ge
    · exact hNew.le
  | tick now reasonNow stamp =>
    obtain ⟨key, time, hNext⟩ := s.tick_eq now reasonNow stamp
    change _ ≤ (s.tick now reasonNow stamp).1.generation
    rw [hNext]
    exact (s.observeWrite_generation now).ge.trans (settleDrain_generation _ now reasonNow)
  | final now linearX angularZ =>
    change _ ≤ (s.onFinal now linearX angularZ).generation
    unfold onFinal
    split <;> exact le_rfl
  | encoder | localControl | replaced | returned | raised => exact le_rfl

theorem generation_mono (init : StopEnforcer) (recent older : List StopEvent) :
    (after step init older).generation ≤ (after step init (recent ++ older)).generation := by
  induction recent with
  | nil => exact le_rfl
  | cons event recent ih => exact ih.trans (step_generation _ event)

/-! ## The history behind the memory -/

/-- A request of this requester with this id was delivered. -/
def Delivered (requesterId : String) (requestId : Nat) (history : List StopEvent) : Prop :=
  ∃ message now, .request message now ∈ history ∧ message.requesterId = requesterId ∧
    message.requestId = requestId

/-- The event is the first delivery of a request of this requester with this id. -/
def FirstDelivery (requesterId : String) (requestId : Nat) (past : List StopEvent)
    (event : StopEvent) : Prop :=
  ¬ Delivered requesterId requestId past ∧ ∃ message now, event = .request message now ∧
    message.requesterId = requesterId ∧ message.requestId = requestId

/-- Some first delivery of this request was answered so. -/
def FirstAnswered (init : StopEnforcer) (requesterId : String) (requestId : Nat)
    (result : Bool × String) : List StopEvent → Prop :=
  Once fun past event => FirstDelivery requesterId requestId past event ∧
    (after step init (event :: past)).answer = result

/-- The memory holds the highest request id of every requester with its first answer. -/
structure Remembers (init : StopEnforcer) (past : List StopEvent) : Prop where
  highest : ∀ requesterId requestId, Delivered requesterId requestId past →
    ∃ storedId result, (after step init past).stored requesterId = some (storedId, result) ∧
      requestId ≤ storedId
  first : ∀ requesterId storedId result,
    (after step init past).stored requesterId = some (storedId, result) →
      FirstAnswered init requesterId storedId result past

theorem stored_cons {s : StopEnforcer} {requesterId other : String} {entry : Nat × Bool × String}
    {results : List (String × Nat × Bool × String)}
    (h : s.requestResults = (requesterId, entry) :: results) :
    s.stored other = if other = requesterId then some entry else results.lookup other := by
  unfold stored
  rw [h, List.lookup_cons]
  by_cases hSame : other = requesterId
  · rw [if_pos hSame, hSame, beq_self_eq_true]
  · rw [if_neg hSame, beq_false_of_ne hSame]

/-- An event that is no request leaves the memory alone. -/
theorem step_results {s : StopEnforcer} {event : StopEvent}
    (hEvent : ∀ message now, event ≠ .request message now) :
    (s.step event).requestResults = s.requestResults := by
  cases event with
  | request message now => exact absurd rfl (hEvent message now)
  | tick now reasonNow stamp =>
    obtain ⟨key, time, hNext⟩ := s.tick_eq now reasonNow stamp
    change (s.tick now reasonNow stamp).1.requestResults = _
    rw [hNext]
    have hObserve : (s.observeWrite now).requestResults = s.requestResults := by
      have hCase := s.observeWrite_case now
      generalize s.observeWrite now = next at hCase
      cases hCase <;> rfl
    have hSettle : ((s.observeWrite now).settleDrain now reasonNow).requestResults =
        (s.observeWrite now).requestResults := by
      have hCase := (s.observeWrite now).settleDrain_case now reasonNow
      generalize (s.observeWrite now).settleDrain now reasonNow = next at hCase
      cases hCase <;> rfl
    exact hSettle.trans hObserve
  | final now linearX angularZ =>
    change (s.onFinal now linearX angularZ).requestResults = _
    unfold onFinal
    split <;> rfl
  | encoder | localControl | replaced | returned | raised => rfl

variable {init : StopEnforcer} {past : List StopEvent}

theorem Delivered.cons {requesterId : String} {requestId : Nat} (event : StopEvent)
    (h : Delivered requesterId requestId past) :
    Delivered requesterId requestId (event :: past) := by
  obtain ⟨message, now, hMem, hIs⟩ := h
  exact ⟨message, now, List.mem_cons_of_mem event hMem, hIs⟩

/-- A delivery is one of the past or the last event. -/
theorem Delivered.of_cons {requesterId : String} {requestId : Nat} {event : StopEvent}
    (h : Delivered requesterId requestId (event :: past)) :
    Delivered requesterId requestId past ∨ ∃ message now, event = .request message now ∧
      message.requesterId = requesterId ∧ message.requestId = requestId := by
  obtain ⟨message, now, hMem, hIs⟩ := h
  rcases List.mem_cons.mp hMem with rfl | hMem
  · exact Or.inr ⟨message, now, rfl, hIs⟩
  · exact Or.inl ⟨message, now, hMem, hIs⟩

/-- An event that leaves the memory alone, or a request that is at most the stored one. -/
theorem Remembers.kept (h : Remembers init past) {event : StopEvent}
    (hStored : ∀ requesterId, (after step init (event :: past)).stored requesterId =
      (after step init past).stored requesterId)
    (hKnown : ∀ message now, event = .request message now → ∃ storedId result,
      (after step init past).stored message.requesterId = some (storedId, result) ∧
        message.requestId ≤ storedId) : Remembers init (event :: past) where
  highest := by
    intro requesterId requestId hDelivered
    rw [hStored]
    rcases hDelivered.of_cons with hPast | ⟨message, now, hEvent, rfl, rfl⟩
    · exact h.highest requesterId requestId hPast
    · exact hKnown message now hEvent
  first := by
    intro requesterId storedId result hSome
    rw [hStored] at hSome
    exact (h.first requesterId storedId result hSome).cons

theorem Remembers.step (h : Remembers init past) (event : StopEvent) :
    Remembers init (event :: past) := by
  by_cases hRequest : ∃ message now, event = .request message now
  · obtain ⟨message, now, rfl⟩ := hRequest
    have hAfter := after_cons StopEnforcer.step init (.request message now) past
    cases (after StopEnforcer.step init past).answer_case message now with
    | repeated accepted reason hStored hNext =>
      refine h.kept (fun requesterId => ?_) ?_
      · rw [hAfter, hNext, stored_cons rfl]
        split
        · rename_i hSame
          rw [hSame, hStored]
        · rfl
      · rintro _ _ ⟨⟩
        exact ⟨_, _, hStored, le_rfl⟩
    | stale previousId result hStored hOlder hNext =>
      refine h.kept (fun requesterId => ?_) ?_
      · rw [hAfter, hNext]
        rfl
      · rintro _ _ ⟨⟩
        exact ⟨_, _, hStored, hOlder.le⟩
    | fresh hNew hNext =>
      have hResults := requestFresh_stored (after StopEnforcer.step init past) message now
      rw [← hNext, ← hAfter] at hResults
      have hNot : ¬ Delivered message.requesterId message.requestId past := by
        intro hDelivered
        obtain ⟨storedId, result, hStored, hLe⟩ := h.highest _ _ hDelivered
        exact absurd (hNew storedId result hStored) (not_lt.mpr hLe)
      constructor
      · intro requesterId requestId hDelivered
        rw [stored_cons hResults]
        split
        · rename_i hSame
          refine ⟨_, _, rfl, ?_⟩
          rcases hDelivered.of_cons with hPast | ⟨_, _, ⟨⟩, -, rfl⟩
          · obtain ⟨storedId, result, hStored, hLe⟩ := h.highest _ _ hPast
            rw [hSame] at hStored
            exact hLe.trans (hNew storedId result hStored).le
          · exact le_rfl
        · rename_i hOther
          rcases hDelivered.of_cons with hPast | ⟨_, _, ⟨⟩, rfl, -⟩
          · exact h.highest requesterId requestId hPast
          · exact absurd rfl hOther
      · intro requesterId storedId result hSome
        rw [stored_cons hResults] at hSome
        split at hSome
        · rename_i hSame
          cases hSome
          rw [hSame]
          exact Or.inl ⟨⟨hNot, message, now, rfl, rfl, rfl⟩, rfl⟩
        · exact (h.first requesterId storedId result hSome).cons
  · have hOther : ∀ message now, event ≠ .request message now :=
      fun message now hEvent => hRequest ⟨message, now, hEvent⟩
    refine h.kept (fun requesterId => ?_) fun message now hEvent => absurd hEvent (hOther _ _)
    unfold stored
    rw [after_cons, step_results hOther]

theorem remembers_after {file : StateFile} {boot : String} {started : ℚ}
    (hStart : start file boot started = .ok init) (past : List StopEvent) :
    Remembers init past := by
  induction past with
  | nil =>
    have hEmpty : init.requestResults = [] := by
      unfold start at hStart
      split at hStart
      · cases hStart
        rfl
      · split at hStart
        · cases hStart
          rfl
        · cases hStart
    refine ⟨fun requesterId requestId hDelivered => ?_, fun requesterId storedId result hSome => ?_⟩
    · obtain ⟨message, now, hMem, -⟩ := hDelivered
      exact absurd hMem List.not_mem_nil
    · unfold stored at hSome
      rw [after_nil, hEmpty] at hSome
      cases hSome
  | cons event past ih => exact ih.step event

/-! ## Idempotence -/

/-- What holds of a request that is delivered after a history. -/
structure Idempotent (init : StopEnforcer) (past : List StopEvent) (message : StopRequest)
    (now : ℚ) : Prop where
  /-- A pair that was delivered before changes nothing. -/
  once : Delivered message.requesterId message.requestId past →
    (after step init (.request message now :: past)).control = (after step init past).control
  /-- An id below the stored one changes nothing. -/
  older : ∀ storedId result,
    (after step init past).stored message.requesterId = some (storedId, result) →
      message.requestId < storedId →
    (after step init (.request message now :: past)).control = (after step init past).control
  /-- The stored request is answered as it was the first time. -/
  retry : ∀ result,
    (after step init past).stored message.requesterId = some (message.requestId, result) →
      FirstAnswered init message.requesterId message.requestId
        (after step init (.request message now :: past)).answer past
  /-- A request that changes anything begins a new generation. -/
  advances : (after step init (.request message now :: past)).control ≠
      (after step init past).control →
    (after step init past).generation <
      (after step init (.request message now :: past)).generation
  /-- Generations never go back. -/
  monotone : ∀ recent older, past = recent ++ older →
    (after step init older).generation ≤ (after step init past).generation
  /-- A CLEAR for an earlier generation changes nothing, and is refused unless it is a retry. -/
  behind : message.stopped = false →
    message.expectedGeneration < (after step init past).generation →
      (after step init (.request message now :: past)).control = (after step init past).control ∧
        ((after step init (.request message now :: past)).answer.1 = false ∨
          ∃ result, (after step init past).stored message.requesterId =
            some (message.requestId, result))

theorem requestFresh_behind {s : StopEnforcer} {message : StopRequest} {now : ℚ}
    (hClear : message.stopped = false) (hBehind : message.expectedGeneration ≠ s.generation) :
    (s.requestFresh message now).1.control = s.control ∧
      (s.requestFresh message now).1.answer.1 = false := by
  obtain ⟨reason, hRefusal⟩ : ∃ reason, s.refusal? message now = some reason := by
    unfold refusal?
    split
    · exact ⟨_, rfl⟩
    · rw [if_neg (by rw [hClear]; exact Bool.false_ne_true)]
      exact ⟨_, rfl⟩
  unfold requestFresh
  rw [hRefusal]
  exact ⟨rfl, rfl⟩

/-- Requests of any requesters, repeated and reordered in any way among ticks and worker steps, are
idempotent. `remembers_after` keeps the answer to the latest request of each requester, and
`answer_case` tells repeated, stale and fresh requests apart. -/
theorem requests_idempotent {file : StateFile} {boot : String} {started : ℚ}
    (hStart : start file boot started = .ok init) (past : List StopEvent) (message : StopRequest)
    (now : ℚ) : Idempotent init past message now := by
  have hMemory := remembers_after hStart past
  have hAfter := after_cons step init (.request message now) past
  have hOlder : ∀ storedId result,
      (after step init past).stored message.requesterId = some (storedId, result) →
        message.requestId ≤ storedId →
      (after step init (.request message now :: past)).control =
        (after step init past).control := by
    intro storedId result hStored hLe
    rw [hAfter]
    cases (after step init past).answer_case message now with
    | repeated accepted reason _ hNext => rw [hNext, ack_control]
    | stale previousId result' _ _ hNext => rw [hNext, ack_control]
    | fresh hNew => exact absurd (hNew storedId result hStored) (not_lt.mpr hLe)
  refine ⟨?_, fun storedId result hStored hLt => hOlder storedId result hStored hLt.le, ?_, ?_, ?_,
    ?_⟩
  · intro hDelivered
    obtain ⟨storedId, result, hStored, hLe⟩ := hMemory.highest _ _ hDelivered
    exact hOlder storedId result hStored hLe
  · intro result hStored
    have hFirst := hMemory.first _ _ _ hStored
    rw [hAfter]
    cases (after step init past).answer_case message now with
    | repeated accepted reason hSame hNext =>
      cases hSame.symm.trans hStored
      rw [hNext]
      exact hFirst
    | stale previousId result' hSame hLt =>
      cases hSame.symm.trans hStored
      exact absurd hLt (lt_irrefl _)
    | fresh hNew => exact absurd (hNew _ _ hStored) (lt_irrefl _)
  · intro hChanges
    rw [hAfter] at hChanges ⊢
    exact (request_control _ message now).resolve_left hChanges
  · rintro recent older rfl
    exact generation_mono init recent older
  · intro hClear hBehind
    rw [hAfter]
    cases (after step init past).answer_case message now with
    | repeated accepted reason hStored hNext =>
      rw [hNext]
      exact ⟨rfl, Or.inr ⟨_, hStored⟩⟩
    | stale previousId result _ _ hNext =>
      rw [hNext]
      exact ⟨rfl, Or.inl rfl⟩
    | fresh hNew hNext =>
      rw [hNext]
      exact (requestFresh_behind hClear hBehind.ne).imp_right Or.inl

/-- A STOP, its retry, and a CLEAR for the generation before it; latest event first. -/
def retriedStopRun : List StopEvent :=
  [.request ⟨"p", 7, true, "", 0⟩ 1, .tick 1 1 0, .request ⟨"p", 7, true, "", 0⟩ 0]

theorem requests_idempotent_retriedStopRun :
    StopEnforcer.start (persisted ⟨3, true⟩) "b" 0 =
        .ok (.ofRecord (persisted ⟨3, true⟩) ⟨3, true⟩ "b" 0) ∧
      Idempotent (.ofRecord (persisted ⟨3, true⟩) ⟨3, true⟩ "b" 0) retriedStopRun
        ⟨"q", 1, false, "", 3⟩ 2 := by
  have hStart : StopEnforcer.start (persisted ⟨3, true⟩) "b" 0 =
      .ok (.ofRecord (persisted ⟨3, true⟩) ⟨3, true⟩ "b" 0) := rfl
  exact ⟨hStart, requests_idempotent hStart retriedStopRun ⟨"q", 1, false, "", 3⟩ 2⟩

end StopEnforcer

end PreRunner.Paddock
