import PreRunner.Runs.History
import PreRunner.Tuning.LiveTuning

/-!
# The verdict on an Apply

Which histories of the tuning threads end with the status `applied`, which replies are stale, and
when the failure of a write stays visible until the next Apply. Two windows break the last property:
a thread that has seen the writes of an Apply end drops the lock before it begins the read that
verifies them, and a periodic read that ends with errors replaces the failure by `unavailable`,
which the next one replaces by `current`.
-/

namespace PreRunner.Tuning

open Runs

/-! ## What one step does -/

/-- The operation that waits for a reply of an owner. -/
def TuningOperation.Awaits (operation : TuningOperation) (requestId : Nat) (owner : TuningOwner) :
    Prop := operation.requestId = requestId ∧ owner ∈ operation.pending

/-- The request id and the values of the Apply that a step accepts. -/
def acceptance (describe : TuningError → String) (threads : TuningThreads) :
    TuningStep → Option (Nat × TuningSnapshot)
  | .apply values ready now =>
    if (threads.live.requestAutonomyTuning describe values ready now).2 = .accepted then
      ((validateValues values).toOption).map (threads.live.requestId + 1, ·)
    else none
  | _ => none

/-- The step is the reply to the current write of an owner. -/
def AnswersWrite (threads : TuningThreads) (step : TuningStep) (owner : TuningOwner)
    (requestId : Nat) (reply : WriteReply) : Prop :=
  step = .finishSet owner requestId reply ∧ ∃ operation, threads.live.operation = some operation ∧
    operation.kind.isSet = true ∧ operation.Awaits requestId owner

/-- The step is the reply to the current read of an owner. -/
def AnswersRead (threads : TuningThreads) (step : TuningStep) (owner : TuningOwner)
    (requestId : Nat) (reply : ReadReply) : Prop :=
  step = .finishRead owner requestId reply ∧ ∃ operation, threads.live.operation = some operation ∧
    operation.kind.isSet = false ∧ operation.Awaits requestId owner

/-- The write of an owner fails, or the writes time out. -/
def WriteFails (threads : TuningThreads) (step : TuningStep) : Prop :=
  (∃ owner requestId reply, AnswersWrite threads step owner requestId reply ∧
    reply.error? owner ≠ none) ∨
  ∃ now operation, step = .refresh now ∧ threads.live.operation = some operation ∧
    operation.kind.isSet = true ∧ operation.deadline ≤ now

/-- The cases of a step. -/
inductive Moves (describe : TuningError → String) (threads : TuningThreads) :
    TuningStep → TuningThreads → Prop
  | idle {step : TuningStep} (hAccept : acceptance describe threads step = none)
      (hWrite : ¬ WriteFails threads step) : Moves describe threads step threads
  | expires {now : ℚ} {operation : TuningOperation}
    (hOperation : threads.live.operation = some operation)
      (hDeadline : operation.deadline ≤ now) :
      Moves describe threads (.refresh now)
        { threads with live :=
          { threads.live with
            operation := none
            state := LiveTuning.timedOut threads.live.state operation.kind } }
  | reads {now : ℚ} (hFree : threads.live.operation = none) :
      Moves describe threads (.startRead now)
        { threads with live := threads.live.startTuningRead none now }
  | drops {index : Nat} {now : ℚ} {operation : TuningOperation}
      (hOperation : threads.live.operation = some operation) :
      Moves describe threads (.startVerification index now)
        { threads with starting := threads.starting.eraseIdx index }
  | verifies {index : Nat} {now : ℚ} {requestId : Nat} {verification : Verification}
      (hFree : threads.live.operation = none)
      (hEntry : threads.starting[index]? = some (requestId, verification)) :
      Moves describe threads (.startVerification index now)
        { live := threads.live.startTuningRead (some verification) now
          starting := threads.starting.eraseIdx index }
  | answers {owner : TuningOwner} {requestId : Nat} {reply : ReadReply}
      {pending : List TuningOwner} {errors : List String} {deadline : ℚ} {values : FieldValues}
      {verification : Option Verification}
      (hOperation : threads.live.operation =
        some ⟨requestId, pending, errors, deadline, .read values verification⟩)
      (hPending : owner ∈ pending) (hMore : pending.filter (· ≠ owner) ≠ []) :
      Moves describe threads (.finishRead owner requestId reply)
        { threads with live :=
          { threads.live with
            operation := some ⟨requestId, pending.filter (· ≠ owner),
              errors ++ (reply.outcome owner).2.toList, deadline,
              .read (values.update (reply.outcome owner).1) verification⟩ } }
  | completes {owner : TuningOwner} {requestId : Nat} {reply : ReadReply}
      {pending : List TuningOwner} {errors : List String} {deadline : ℚ} {values : FieldValues}
      {verification : Option Verification}
      (hOperation : threads.live.operation =
        some ⟨requestId, pending, errors, deadline, .read values verification⟩)
      (hPending : owner ∈ pending) (hLast : pending.filter (· ≠ owner) = []) :
      Moves describe threads (.finishRead owner requestId reply)
        { threads with live :=
          { threads.live with
            operation := none
            state := LiveTuning.afterRead threads.live.state
              (values.update (reply.outcome owner).1)
              (errors ++ (reply.outcome owner).2.toList) verification } }
  | refuses {values : PyDict} {ready : TuningOwner → Bool} {now : ℚ} {detail : String}
      (hAccept : acceptance describe threads (.apply values ready now) = none)
      (hFree : threads.live.operation = none) :
      Moves describe threads (.apply values ready now)
        { threads with live :=
          { threads.live with state := { threads.live.state with status := .failed, detail } } }
  | accepts {values : PyDict} {ready : TuningOwner → Bool} {now : ℚ} {requested : TuningSnapshot}
      (hAccept : acceptance describe threads (.apply values ready now) =
        some (threads.live.requestId + 1, requested))
      (hFree : ∀ operation, threads.live.operation = some operation →
        operation.kind.isSet = false) :
      Moves describe threads (.apply values ready now)
        { threads with live :=
          { requestId := threads.live.requestId + 1
            operation := some ⟨threads.live.requestId + 1, TuningOwner.all, [],
              now + tuningRequestTimeoutSec, .set requested⟩
            state :=
              { threads.live.state with
                status := .applying
                detail := "applying tuning atomically"
                requestId := threads.live.requestId + 1
                values := .of requested
                available := true
                unavailableFields := [] } } }
  | writes {owner : TuningOwner} {requestId : Nat} {reply : WriteReply}
      {pending : List TuningOwner} {errors : List String} {deadline : ℚ}
      {requested : TuningSnapshot}
      (hOperation : threads.live.operation =
        some ⟨requestId, pending, errors, deadline, .set requested⟩)
      (hPending : owner ∈ pending) (hMore : pending.filter (· ≠ owner) ≠ []) :
      Moves describe threads (.finishSet owner requestId reply)
        { threads with live :=
          { threads.live with
            operation := some ⟨requestId, pending.filter (· ≠ owner),
              errors ++ (reply.error? owner).toList, deadline, .set requested⟩ } }
  | written {owner : TuningOwner} {requestId : Nat} {reply : WriteReply}
      {pending : List TuningOwner} {errors : List String} {deadline : ℚ}
      {requested : TuningSnapshot}
      (hOperation : threads.live.operation =
        some ⟨requestId, pending, errors, deadline, .set requested⟩)
      (hPending : owner ∈ pending) (hLast : pending.filter (· ≠ owner) = []) :
      Moves describe threads (.finishSet owner requestId reply)
        { live := { threads.live with operation := none }
          starting := threads.starting ++
            [(requestId, ⟨requested, errors ++ (reply.error? owner).toList⟩)] }

variable {describe : TuningError → String} {threads : TuningThreads}

theorem moves_refresh (now : ℚ) :
    Moves describe threads (.refresh now) (threads.step describe (.refresh now)) := by
  unfold TuningThreads.step LiveTuning.refreshTuningState
  dsimp only
  split
  · rename_i operation hOperation
    split
    · rename_i hDeadline
      exact .expires hOperation hDeadline
    · rename_i hDeadline
      refine .idle rfl ?_
      rintro (⟨owner, requestId, reply, ⟨hStep, -⟩, -⟩ |
        ⟨now', operation', hStep, hOther, -, hLate⟩)
      · cases hStep
      · cases hStep
        cases hOperation.symm.trans hOther
        exact hDeadline hLate
  · rename_i hFree
    refine .idle rfl ?_
    rintro (⟨owner, requestId, reply, ⟨hStep, -⟩, -⟩ | ⟨now', operation', hStep, hOther, -, -⟩)
    · cases hStep
    · cases hFree.symm.trans hOther

theorem not_writeFails_of_ne {step : TuningStep} (hRefresh : ∀ now, step ≠ .refresh now)
    (hFinish : ∀ owner requestId reply, step ≠ .finishSet owner requestId reply) :
    ¬ WriteFails threads step := by
  rintro (⟨owner, requestId, reply, ⟨hStep, -⟩, -⟩ | ⟨now, operation, hStep, -⟩)
  · exact hFinish owner requestId reply hStep
  · exact hRefresh now hStep

theorem moves_startRead (now : ℚ) :
    Moves describe threads (.startRead now) (threads.step describe (.startRead now)) := by
  cases hOperation : threads.live.operation with
  | none => exact .reads hOperation
  | some operation =>
    have hSame : threads.step describe (.startRead now) = threads := by
      unfold TuningThreads.step LiveTuning.startTuningRead
      dsimp only
      rw [hOperation]
    rw [hSame]
    exact .idle rfl (not_writeFails_of_ne nofun nofun)

theorem moves_startVerification (index : Nat) (now : ℚ) :
    Moves describe threads (.startVerification index now)
      (threads.step describe (.startVerification index now)) := by
  unfold TuningThreads.step
  dsimp only
  split
  · exact .idle rfl (not_writeFails_of_ne nofun nofun)
  · rename_i requestId verification hEntry
    cases hOperation : threads.live.operation with
    | none => exact .verifies hOperation hEntry
    | some operation =>
      have hSame : threads.live.startTuningRead (some verification) now = threads.live := by
        unfold LiveTuning.startTuningRead
        rw [hOperation]
      rw [hSame]
      exact .drops hOperation

theorem moves_finishRead (owner : TuningOwner) (requestId : Nat) (reply : ReadReply) :
    Moves describe threads (.finishRead owner requestId reply)
      (threads.step describe (.finishRead owner requestId reply)) := by
  unfold TuningThreads.step LiveTuning.finishTuningRead
  dsimp only
  split
  · rename_i currentId pending errors deadline values verification hOperation
    split
    · exact .idle rfl (not_writeFails_of_ne nofun nofun)
    · rename_i hAwaits
      rw [not_or, not_not, not_not] at hAwaits
      obtain ⟨rfl, hPending⟩ := hAwaits
      split
      · rename_i hMore
        exact .answers hOperation hPending hMore
      · rename_i hLast
        exact .completes hOperation hPending (not_not.mp hLast)
  · exact .idle rfl (not_writeFails_of_ne nofun nofun)

theorem moves_finishSet (owner : TuningOwner) (requestId : Nat) (reply : WriteReply) :
    Moves describe threads (.finishSet owner requestId reply)
      (threads.step describe (.finishSet owner requestId reply)) := by
  have hIdle : (∀ operation, threads.live.operation = some operation →
      operation.kind.isSet = true → ¬ operation.Awaits requestId owner) →
      Moves describe threads (.finishSet owner requestId reply)
        ⟨threads.live, threads.starting ++ []⟩ := by
    intro hStale
    rw [List.append_nil]
    refine .idle rfl ?_
    rintro (⟨owner, requestId, reply, ⟨hStep, operation, hOperation, hSet, hAwaits⟩, -⟩ |
      ⟨now, operation, hStep, -⟩)
    · cases hStep
      exact hStale operation hOperation hSet hAwaits
    · cases hStep
  unfold TuningThreads.step LiveTuning.finishTuningSet
  dsimp only
  split
  · rename_i currentId pending errors deadline requested hOperation
    split
    · rename_i hStale
      refine hIdle fun operation hSome _ hAwaits => ?_
      cases hOperation.symm.trans hSome
      exact hStale.elim (fun hId => hId hAwaits.1) fun hOwner => hOwner hAwaits.2
    · rename_i hAwaits
      rw [not_or, not_not, not_not] at hAwaits
      obtain ⟨rfl, hPending⟩ := hAwaits
      split
      · rename_i hMore
        simp only [Option.map_none, Option.toList_none, List.append_nil]
        exact .writes hOperation hPending hMore
      · rename_i hLast
        exact .written hOperation hPending (not_not.mp hLast)
  · rename_i hNone
    refine hIdle fun operation hSome hSet _ => ?_
    obtain ⟨id, pending, errors, deadline, kind⟩ := operation
    cases kind with
    | read values verification => cases hSet
    | set requested => exact hNone _ _ _ _ _ hSome

theorem moves_apply (values : PyDict) (ready : TuningOwner → Bool) (now : ℚ) :
    Moves describe threads (.apply values ready now)
      (threads.step describe (.apply values ready now)) := by
  have hWrite : ¬ WriteFails threads (.apply values ready now) := not_writeFails_of_ne nofun nofun
  have hRefuse : ∀ detail reason, threads.live.requestAutonomyTuning describe values ready now =
      (threads.live.recordTuningPreflightFailure detail, .rejected reason) →
      Moves describe threads (.apply values ready now)
        (threads.step describe (.apply values ready now)) := by
    intro detail reason hRequest
    have hAccept : acceptance describe threads (.apply values ready now) = none := by
      unfold acceptance
      dsimp only
      rw [hRequest, if_neg nofun]
    unfold TuningThreads.step
    dsimp only
    rw [hRequest]
    unfold LiveTuning.recordTuningPreflightFailure
    dsimp only
    split
    · exact .idle hAccept hWrite
    · rename_i hFree
      exact .refuses hAccept (Option.not_isSome_iff_eq_none.mp hFree)
  have hKeep : ∀ result, result ≠ .accepted →
      threads.live.requestAutonomyTuning describe values ready now = (threads.live, result) →
      Moves describe threads (.apply values ready now)
        (threads.step describe (.apply values ready now)) := by
    intro result hResult hRequest
    unfold TuningThreads.step
    dsimp only
    rw [hRequest]
    refine .idle ?_ hWrite
    unfold acceptance
    dsimp only
    rw [hRequest, if_neg hResult]
  cases hValid : validateValues values with
  | error error =>
    by_cases hOverflow : error = .overflow
    · subst hOverflow
      refine hKeep .raised nofun ?_
      unfold LiveTuning.requestAutonomyTuning
      rw [hValid]
    · refine hRefuse ("tuning rejected before RPC: " ++ describe error) (describe error) ?_
      unfold LiveTuning.requestAutonomyTuning
      rw [hValid]
      cases error <;> first | rfl | exact absurd rfl hOverflow
  | ok requested =>
    by_cases hReady : LiveTuning.unavailable ready = []
    · cases hBusy : threads.live.operation.any fun operation => operation.kind.isSet with
      | true =>
        refine hKeep (.rejected "autonomy tuning operation already in progress") nofun ?_
        unfold LiveTuning.requestAutonomyTuning
        rw [hValid]
        dsimp only
        rw [if_neg (not_not.mpr hReady), if_pos hBusy]
      | false =>
        have hRequest : threads.live.requestAutonomyTuning describe values ready now =
            ({ requestId := threads.live.requestId + 1
               operation := some ⟨threads.live.requestId + 1, TuningOwner.all, [],
                 now + tuningRequestTimeoutSec, .set requested⟩
               state :=
                { threads.live.state with
                  status := .applying
                  detail := "applying tuning atomically"
                  requestId := threads.live.requestId + 1
                  values := .of requested
                  available := true
                  unavailableFields := [] } }, .accepted) := by
          unfold LiveTuning.requestAutonomyTuning
          rw [hValid]
          dsimp only
          rw [if_neg (not_not.mpr hReady), if_neg (Bool.eq_false_iff.mp hBusy)]
        have hAccept : acceptance describe threads (.apply values ready now) =
            some (threads.live.requestId + 1, requested) := by
          unfold acceptance
          dsimp only
          rw [hRequest, if_pos rfl, hValid]
          rfl
        unfold TuningThreads.step
        dsimp only
        rw [hRequest]
        refine .accepts hAccept fun operation hOperation => ?_
        rw [hOperation] at hBusy
        exact hBusy
    · refine hRefuse (LiveTuning.unavailableDetail ready) (LiveTuning.unavailableDetail ready) ?_
      unfold LiveTuning.requestAutonomyTuning
      rw [hValid]
      dsimp only
      rw [if_pos hReady]

/-- Every step is one of the cases. -/
theorem moves (step : TuningStep) :
    Moves describe threads step (threads.step describe step) := by
  cases step with
  | refresh now => exact moves_refresh now
  | startRead now => exact moves_startRead now
  | startVerification index now => exact moves_startVerification index now
  | finishRead owner requestId reply => exact moves_finishRead owner requestId reply
  | apply values ready now => exact moves_apply values ready now
  | finishSet owner requestId reply => exact moves_finishSet owner requestId reply

/-! ## Histories -/

section

variable (describe : TuningError → String)

/-- The threads after a history of steps, the latest first. -/
def tuningRun (past : List TuningStep) : TuningThreads :=
  after (TuningThreads.step describe) {} past

/-- No Apply is accepted by the step. -/
def NoAccept (past : List TuningStep) (step : TuningStep) : Prop :=
  acceptance describe (tuningRun describe past) step = none

/-- The last accepted Apply has this request id and these values. -/
def LatestApply (requestId : Nat) (requested : TuningSnapshot) : List TuningStep → Prop :=
  Since (NoAccept describe) fun past step =>
    acceptance describe (tuningRun describe past) step = some (requestId, requested)

/-- The owner has answered the write of this request with success. -/
def Succeeded (owner : TuningOwner) (requestId : Nat) : List TuningStep → Prop :=
  Once fun past step => ∃ reply, reply.error? owner = none ∧
    AnswersWrite (tuningRun describe past) step owner requestId reply

/-- Every owner's write of the last accepted Apply has succeeded. -/
def AllWritten (requestId : Nat) (requested : TuningSnapshot) (past : List TuningStep) : Prop :=
  LatestApply describe requestId requested past ∧
    ∀ owner, Succeeded describe owner requestId past

/-- The step begins the read with this request id. -/
def BeginsRead (past : List TuningStep) (step : TuningStep) (readId : Nat) : Prop :=
  (tuningRun describe past).live.operation = none ∧
    ∃ operation, (tuningRun describe (step :: past)).live.operation = some operation ∧
      operation.kind.isSet = false ∧ operation.requestId = readId

/-- The read has begun after every write of the last accepted Apply had succeeded. -/
def BegunAfterWrites (requestId : Nat) (requested : TuningSnapshot) (readId : Nat) :
    List TuningStep → Prop :=
  Since (NoAccept describe) fun past step =>
    BeginsRead describe past step readId ∧ AllWritten describe requestId requested past

/-- The owner has answered the read with this reply. -/
def ReadBack (owner : TuningOwner) (readId : Nat) (reply : ReadReply) : List TuningStep → Prop :=
  Once fun past step => AnswersRead (tuningRun describe past) step owner readId reply

/-- A read that began after all writes of the last accepted Apply had succeeded has returned, from
every owner, the values of that Apply. -/
def Confirmed (past : List TuningStep) : Prop :=
  ∃ requestId requested readId, LatestApply describe requestId requested past ∧
    BegunAfterWrites describe requestId requested readId past ∧
    ∀ owner, ∃ reply : ReadReply, ReadBack describe owner readId reply past ∧
      (reply.outcome owner).2 = none ∧ ∀ field : TuningField, field.parameter.owner = owner →
        (reply.outcome owner).1 field = some (.finite (requested field))

/-- An owner's write of the last accepted Apply has failed or timed out. -/
def ApplyFailed : List TuningStep → Prop :=
  Since (NoAccept describe) fun past step => WriteFails (tuningRun describe past) step

/-- The operation with this request id is the current one. -/
def TuningThreads.Current (threads : TuningThreads) (requestId : Nat) : Prop :=
  ∃ operation, threads.live.operation = some operation ∧ operation.requestId = requestId

/-- The operation with this request id was the current one and no longer is. -/
def Ended (requestId : Nat) : List TuningStep → Prop :=
  Once fun past step => (tuningRun describe past).Current requestId ∧
    ¬ (tuningRun describe (step :: past)).Current requestId

/-- A reply that belongs to the operation with this request id. -/
def TuningStep.Replies (step : TuningStep) (requestId : Nat) : Prop :=
  (∃ owner reply, step = .finishRead owner requestId reply) ∨
    ∃ owner reply, step = .finishSet owner requestId reply

/-- A step outside the windows in which the verdict is lost. -/
def Careful (past : List TuningStep) (step : TuningStep) : Prop :=
  let threads := tuningRun describe past
  (∀ now, step = .startRead now → threads.live.operation = none →
    ∀ verification, (threads.live.state.requestId, verification) ∈ threads.starting →
      verification.setErrors = []) ∧
  (∀ index now, step = .startVerification index now → threads.live.operation = none →
    ∀ requestId verification, threads.starting[index]? = some (requestId, verification) →
      verification.setErrors = [] → requestId = threads.live.state.requestId) ∧
  ∀ owner requestId reply, step = .finishRead owner requestId reply →
    ∀ pending errors deadline values, threads.live.operation =
        some ⟨requestId, pending, errors, deadline, .read values none⟩ →
      owner ∈ pending → pending.filter (· ≠ owner) = [] →
      errors ++ (reply.outcome owner).2.toList ≠ [] → ¬ ApplyFailed describe past

/-- What a step of a history does to the verdict. -/
structure TuningVerdict (past : List TuningStep) (step : TuningStep) : Prop where
  applied : (tuningRun describe (step :: past)).live.state.status = .applied →
    (tuningRun describe past).live.state.status ≠ .applied → Confirmed describe (step :: past)
  stale : ∀ requestId, Ended describe requestId past → step.Replies requestId →
    tuningRun describe (step :: past) = tuningRun describe past
  failed : ApplyFailed describe (step :: past) →
    (tuningRun describe (step :: past)).live.state.status ≠ .applied ∧
      (tuningRun describe (step :: past)).live.state.status ≠ .current

end

/-! ## Stale replies -/

/-- The operation after a step has the id of the one before, or a new one. -/
theorem Moves.ids {step : TuningStep} {threads' : TuningThreads}
    (h : Moves describe threads step threads') :
    threads.live.requestId ≤ threads'.live.requestId ∧
      ∀ operation', threads'.live.operation = some operation' →
        (∃ operation, threads.live.operation = some operation ∧
          operation.requestId = operation'.requestId) ∨
        (operation'.requestId = threads.live.requestId + 1 ∧
          threads'.live.requestId = threads.live.requestId + 1) := by
  cases h with
  | idle => exact ⟨le_rfl, fun operation h => Or.inl ⟨operation, h, rfl⟩⟩
  | expires => exact ⟨le_rfl, nofun⟩
  | reads hFree =>
    unfold LiveTuning.startTuningRead
    rw [hFree]
    refine ⟨Nat.le_succ _, fun operation h => Or.inr ?_⟩
    cases h
    exact ⟨rfl, rfl⟩
  | drops => exact ⟨le_rfl, fun operation h => Or.inl ⟨operation, h, rfl⟩⟩
  | verifies hFree =>
    unfold LiveTuning.startTuningRead
    rw [hFree]
    refine ⟨Nat.le_succ _, fun operation h => Or.inr ?_⟩
    cases h
    exact ⟨rfl, rfl⟩
  | answers hOperation =>
    refine ⟨le_rfl, fun operation h => Or.inl ⟨_, hOperation, ?_⟩⟩
    cases h
    rfl
  | completes => exact ⟨le_rfl, nofun⟩
  | refuses => exact ⟨le_rfl, fun operation h => Or.inl ⟨operation, h, rfl⟩⟩
  | accepts =>
    refine ⟨Nat.le_succ _, fun operation h => Or.inr ?_⟩
    cases h
    exact ⟨rfl, rfl⟩
  | writes hOperation =>
    refine ⟨le_rfl, fun operation h => Or.inl ⟨_, hOperation, ?_⟩⟩
    cases h
    rfl
  | written => exact ⟨le_rfl, nofun⟩

/-- A reply to an operation that is not current changes nothing. -/
theorem Moves.stale {step : TuningStep} {threads' : TuningThreads} {requestId : Nat}
    (h : Moves describe threads step threads') (hReply : step.Replies requestId)
    (hStale : ¬ threads.Current requestId) : threads' = threads := by
  rcases hReply with ⟨owner, reply, rfl⟩ | ⟨owner, reply, rfl⟩
  · cases h with
    | idle => rfl
    | answers hOperation => exact absurd ⟨_, hOperation, rfl⟩ hStale
    | completes hOperation => exact absurd ⟨_, hOperation, rfl⟩ hStale
  · cases h with
    | idle => rfl
    | writes hOperation => exact absurd ⟨_, hOperation, rfl⟩ hStale
    | written hOperation => exact absurd ⟨_, hOperation, rfl⟩ hStale

theorem moves_run (past : List TuningStep) (step : TuningStep) :
    Moves describe (tuningRun describe past) step (tuningRun describe (step :: past)) :=
  moves step

/-- Request ids are never used again. -/
theorem ids_run (past : List TuningStep) :
    (∀ operation, (tuningRun describe past).live.operation = some operation →
      operation.requestId ≤ (tuningRun describe past).live.requestId) ∧
    ∀ requestId, Ended describe requestId past →
      requestId ≤ (tuningRun describe past).live.requestId ∧
        ¬ (tuningRun describe past).Current requestId := by
  induction past with
  | nil => exact ⟨nofun, fun _ h => h.elim⟩
  | cons step past ih =>
    obtain ⟨hGrows, hOperation⟩ := (@moves_run describe past step).ids
    refine ⟨fun operation hSome => ?_, fun requestId hEnded => ?_⟩
    · rcases hOperation operation hSome with ⟨earlier, hEarlier, hId⟩ | ⟨hId, hNext⟩
      · exact hId ▸ le_trans (ih.1 earlier hEarlier) hGrows
      · rw [hId, hNext]
    · rcases hEnded with ⟨⟨operation, hSome, rfl⟩, hGone⟩ | ⟨-, hEarlier⟩
      · exact ⟨le_trans (ih.1 operation hSome) hGrows, hGone⟩
      · obtain ⟨hBound, hGone⟩ := ih.2 requestId hEarlier
        refine ⟨le_trans hBound hGrows, ?_⟩
        rintro ⟨operation, hSome, hId⟩
        rcases hOperation operation hSome with ⟨earlier, hEarlier, hSame⟩ | ⟨hNew, -⟩
        · exact hGone ⟨earlier, hEarlier, hSame.trans hId⟩
        · omega

theorem stale_unchanged {past : List TuningStep} {step : TuningStep} {requestId : Nat}
    (hEnded : Ended describe requestId past) (hReply : step.Replies requestId) :
    tuningRun describe (step :: past) = tuningRun describe past :=
  (moves_run past step).stale hReply ((ids_run past).2 requestId hEnded).2

end PreRunner.Tuning
