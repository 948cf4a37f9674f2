import PreRunner.Tuning.OwnerAcceptance
import PreRunner.Tuning.TuningVerdicts

/-!
# Runs keep the verdict

Outside the two windows every run of the tuning threads confirms what it calls applied, ignores
stale replies and shows the failure of a write until the next Apply is accepted.

`Tracked` says what the slot of the operation, the shown status and the open reads of all threads
have to do with the latest Apply. It is kept by every step that is careful; the runs at the end
show an Apply that is confirmed, one that times out, and one whose failure is forgotten in a
window.
-/

namespace PreRunner.Tuning

open Runs

/-! ## The values of a reply -/

theorem readFields_other {field : TuningField} : ∀ (fields : List TuningField)
    (replies : List ParameterReply), field ∉ fields → (readFields fields replies).1 field = none
  | [], [], _ => rfl
  | [], _ :: _, _ => rfl
  | _ :: fields, [], h => readFields_other fields [] fun hMem => h (List.mem_cons_of_mem _ hMem)
  | first :: fields, .double value :: replies, h => by
    unfold readFields
    dsimp only
    rw [if_neg fun hEq : field = first => h (hEq ▸ List.mem_cons_self)]
    exact readFields_other fields replies fun hMem => h (List.mem_cons_of_mem _ hMem)
  | _ :: fields, .other :: replies, h =>
    readFields_other fields replies fun hMem => h (List.mem_cons_of_mem _ hMem)

/-- The reply of an owner has values for its own fields only. -/
theorem outcome_other {reply : ReadReply} {owner : TuningOwner} {field : TuningField}
    (h : field.parameter.owner ≠ owner) : (reply.outcome owner).1 field = none := by
  cases reply with
  | unavailable => rfl
  | notStarted => rfl
  | raised => rfl
  | values replies =>
    refine readFields_other _ _ fun hMem => h ?_
    exact of_decide_eq_true (List.mem_filter.mp hMem).2

theorem agree_iff {values : FieldValues} {requested : TuningSnapshot} :
    values.agree requested = true ↔ ∀ field, values field = some (.finite (requested field)) := by
  unfold FieldValues.agree
  rw [List.all_eq_true]
  exact ⟨fun h field => of_decide_eq_true (h field (TuningField.mem_all field)),
    fun h field _ => decide_eq_true (h field)⟩

/-- A read ends with `applied` only if it verifies. -/
theorem afterRead_applied {state : TuningState} {values : FieldValues} {errors : List String}
    {verification : Option Verification}
    (h : (LiveTuning.afterRead state values errors verification).status = .applied) :
    errors = [] ∧ ∃ v, verification = some v ∧ v.setErrors = [] ∧
      ∀ field, values field = some (.finite (v.requested field)) := by
  unfold LiveTuning.afterRead at h
  split at h
  · dsimp only at h
    split at h <;> cases h
  · rename_i hErrors
    refine ⟨not_not.mp hErrors, ?_⟩
    dsimp only at h
    cases verification with
    | none =>
      dsimp only at h
      split at h <;> cases h
    | some v =>
      dsimp only at h
      split at h
      · rename_i hApplied
        exact ⟨v, rfl, hApplied.1, agree_iff.mp hApplied.2⟩
      · cases h

/-- A periodic read without errors keeps a failure. -/
theorem afterRead_periodic {state : TuningState} {values : FieldValues}
    (h : state.status = .failed) : (LiveTuning.afterRead state values [] none).status =
    .failed := by
  unfold LiveTuning.afterRead
  dsimp only
  rw [if_neg (not_not.mpr rfl), if_pos h]

/-- A read that verifies writes with errors ends with a failure. -/
theorem afterRead_failed {state : TuningState} {values : FieldValues} {errors : List String}
    {verification : Verification} (h : verification.setErrors ≠ []) :
    (LiveTuning.afterRead state values errors (some verification)).status = .failed := by
  unfold LiveTuning.afterRead
  split
  · rfl
  · dsimp only
    rw [if_neg fun hApplied => h hApplied.1]

theorem afterRead_requestId {state : TuningState} {values : FieldValues} {errors : List String}
    {verification : Option Verification} :
    (LiveTuning.afterRead state values errors verification).requestId = state.requestId := by
  unfold LiveTuning.afterRead
  split <;> rfl

theorem timedOut_status {state : TuningState} {kind : OperationKind} :
    (LiveTuning.timedOut state kind).status = .failed ∧
      (LiveTuning.timedOut state kind).requestId = state.requestId := by
  cases kind <;> exact ⟨rfl, rfl⟩

/-! ## The invariant -/

section

variable (describe : TuningError → String)

/-- What the answered owners of a read have returned. -/
structure ReadTracked (past : List TuningStep) (readId : Nat) (pending : List TuningOwner)
    (errors : List String) (values : FieldValues) : Prop where
  unread : ∀ field : TuningField, field.parameter.owner ∈ pending → values field = none
  answered : ∀ owner, owner ∉ pending →
    ∃ reply : ReadReply, ReadBack describe owner readId reply past ∧
    (errors = [] → (reply.outcome owner).2 = none) ∧
    ∀ field : TuningField, field.parameter.owner = owner →
      values field = (reply.outcome owner).1 field

/-- The operation and the status after a failed write. -/
def SlotShows (threads : TuningThreads) : Prop :=
  match threads.live.operation with
  | none => threads.live.state.status = .failed ∨ (threads.live.state.status = .applying ∧
      ∃ verification, (threads.live.state.requestId, verification) ∈ threads.starting)
  | some ⟨_, _, errors, _, .set _⟩ => errors ≠ [] ∧ threads.live.state.status = .applying
  | some ⟨_, _, _, _, .read _ none⟩ => threads.live.state.status = .failed
  | some ⟨_, _, _, _, .read _ (some verification)⟩ => verification.setErrors ≠ [] ∧
      (threads.live.state.status = .failed ∨ threads.live.state.status = .applying)

structure FailureShown (threads : TuningThreads) : Prop where
  entries : ∀ verification, (threads.live.state.requestId, verification) ∈ threads.starting →
    verification.setErrors ≠ []
  slot : SlotShows threads

/-- What the history has left in the threads. -/
structure Tracked (past : List TuningStep) (threads : TuningThreads) : Prop where
  latest : threads.live.state.requestId ≤ threads.live.requestId
  entryIds : ∀ requestId verification, (requestId, verification) ∈ threads.starting →
    requestId ≤ threads.live.requestId
  entries : ∀ requestId verification, (requestId, verification) ∈ threads.starting →
    verification.setErrors = [] → requestId = threads.live.state.requestId →
    AllWritten describe requestId verification.requested past
  writing : ∀ requestId pending errors deadline requested,
    threads.live.operation = some ⟨requestId, pending, errors, deadline, .set requested⟩ →
    requestId = threads.live.state.requestId ∧ threads.live.state.status = .applying ∧
      LatestApply describe requestId requested past ∧
      (∀ verification, (requestId, verification) ∉ threads.starting) ∧
      (errors = [] → ∀ owner, owner ∉ pending → Succeeded describe owner requestId past)
  reading : ∀ readId pending errors deadline values verification,
    threads.live.operation = some ⟨readId, pending, errors, deadline, .read values verification⟩ →
    ReadTracked describe past readId pending errors values ∧
      ∀ v, verification = some v → v.setErrors = [] → ∃ requestId,
        LatestApply describe requestId v.requested past ∧
          BegunAfterWrites describe requestId v.requested readId past
  failed : ApplyFailed describe past → FailureShown threads

variable {describe} {past : List TuningStep} {step : TuningStep} {threads : TuningThreads}

theorem AllWritten.keep {requestId : Nat} {requested : TuningSnapshot}
    (hNone : NoAccept describe past step) (h : AllWritten describe requestId requested past) :
    AllWritten describe requestId requested (step :: past) :=
  ⟨.keep hNone h.1, fun owner => (h.2 owner).cons⟩

theorem ReadTracked.keep {readId : Nat} {pending : List TuningOwner} {errors : List String}
    {values : FieldValues} (h : ReadTracked describe past readId pending errors values) :
    ReadTracked describe (step :: past) readId pending errors values :=
  ⟨h.unread, fun owner hOwner =>
    let ⟨reply, hBack, hReply⟩ := h.answered owner hOwner
    ⟨reply, hBack.cons, hReply⟩⟩

/-- An owner that has just answered. -/
theorem ReadTracked.answer {owner : TuningOwner} {readId : Nat} {reply : ReadReply}
    {pending : List TuningOwner} {errors : List String} {values : FieldValues}
    (h : ReadTracked describe past readId pending errors values) (hPending : owner ∈ pending)
    (hAnswers : AnswersRead (tuningRun describe past) step owner readId reply) :
    ReadTracked describe (step :: past) readId (pending.filter (· ≠ owner))
      (errors ++ (reply.outcome owner).2.toList) (values.update (reply.outcome owner).1) := by
  have hOther : ∀ field : TuningField, field.parameter.owner ≠ owner →
      values.update (reply.outcome owner).1 field = values field := by
    intro field hField
    unfold FieldValues.update
    rw [outcome_other hField, Option.none_or]
  refine ⟨fun field hField => ?_, fun other hOwner => ?_⟩
  · obtain ⟨hMem, hNe⟩ := List.mem_filter.mp hField
    rw [hOther field (of_decide_eq_true hNe)]
    exact h.unread field hMem
  · by_cases hSame : other = owner
    · subst hSame
      refine ⟨reply, Or.inl hAnswers, fun hErrors => ?_, fun field hField => ?_⟩
      · exact Option.toList_eq_nil_iff.mp (List.append_eq_nil_iff.mp hErrors).2
      · unfold FieldValues.update
        rw [h.unread field (hField ▸ hPending), Option.or_none]
    · have hAnswered : other ∉ pending := fun hMem =>
        hOwner (List.mem_filter.mpr ⟨hMem, decide_eq_true hSame⟩)
      obtain ⟨otherReply, hBack, hErrors, hValues⟩ := h.answered other hAnswered
      refine ⟨otherReply, hBack.cons, fun hNone => hErrors (List.append_eq_nil_iff.mp hNone).1,
        fun field hField => ?_⟩
      rw [hOther field (hField ▸ hSame)]
      exact hValues field hField

theorem SlotShows.status (h : SlotShows threads) :
    threads.live.state.status = .failed ∨ threads.live.state.status = .applying := by
  unfold SlotShows at h
  split at h
  · exact h.imp_right And.left
  · exact Or.inr h.2
  · exact Or.inl h
  · exact h.2

/-- A history whose last step is no write that fails. -/
theorem applyFailed_keep (h : ApplyFailed describe (step :: past))
    (hWrite : ¬ WriteFails (tuningRun describe past) step) : ApplyFailed describe past :=
  (h.resolve_left hWrite).2

/-! ## One step -/

/-- The entries of `starting` after a step that accepts nothing. -/
theorem Tracked.keepEntries (h : Tracked describe past threads)
    (hNone : NoAccept describe past step) :
    ∀ requestId verification, (requestId, verification) ∈ threads.starting →
      verification.setErrors = [] → requestId = threads.live.state.requestId →
      AllWritten describe requestId verification.requested (step :: past) :=
  fun requestId verification hMem hErrors hLatest =>
    (h.entries requestId verification hMem hErrors hLatest).keep hNone

theorem tracked_idle (h : Tracked describe past threads) (hNone : NoAccept describe past step)
    (hWrite : ¬ WriteFails (tuningRun describe past) step) :
    Tracked describe (step :: past) threads := by
  refine ⟨h.latest, h.entryIds, h.keepEntries hNone, ?_, ?_,
    fun hFailed => h.failed (applyFailed_keep hFailed hWrite)⟩
  · intro requestId pending errors deadline requested hOperation
    obtain ⟨hLatest, hStatus, hApply, hEntry, hAnswered⟩ :=
      h.writing requestId pending errors deadline requested hOperation
    exact ⟨hLatest, hStatus, .keep hNone hApply, hEntry,
      fun hErrors owner hOwner => (hAnswered hErrors owner hOwner).cons⟩
  · intro readId pending errors deadline values verification hOperation
    obtain ⟨hRead, hBegun⟩ := h.reading readId pending errors deadline values
      verification hOperation
    refine ⟨hRead.keep, fun v hSome hErrors => ?_⟩
    obtain ⟨requestId, hApply, hWritten⟩ := hBegun v hSome hErrors
    exact ⟨requestId, .keep hNone hApply, .keep hNone hWritten⟩

/-- Tracked threads whose operation ends with a failure on display. -/
theorem tracked_freed {state : TuningState} (h : Tracked describe past threads)
    (hNone : NoAccept describe past step) (hId : state.requestId = threads.live.state.requestId)
    (hFailed : ApplyFailed describe (step :: past) → state.status = .failed ∧
      ∀ verification, (threads.live.state.requestId, verification) ∈ threads.starting →
        verification.setErrors ≠ []) :
    Tracked describe (step :: past)
      { threads with live := { threads.live with operation := none, state } } := by
  refine ⟨hId ▸ h.latest, h.entryIds, fun requestId verification hMem hErrors hLatest =>
    h.keepEntries hNone requestId verification hMem hErrors (hLatest.trans hId), nofun, nofun,
    fun hApply => ⟨?_, Or.inl (hFailed hApply).1⟩⟩
  dsimp only
  rw [hId]
  exact (hFailed hApply).2

/-- A read with this verification ends with a failure. -/
def ReadFails (state : TuningState) : Option Verification → Prop
  | none => state.status = .failed
  | some verification => verification.setErrors ≠ []

/-- Tracked threads that begin a read. -/
theorem tracked_begun {starting : List (Nat × Verification)} {verification : Option Verification}
    {now : ℚ} (h : Tracked describe past threads) (hFree : threads.live.operation = none)
    (hNone : NoAccept describe past step) (hWrite : ¬ WriteFails (tuningRun describe past) step)
    (hStarting : ∀ entry ∈ starting, entry ∈ threads.starting)
    (hBegun : ∀ v, verification = some v → v.setErrors = [] → ∃ requestId,
      LatestApply describe requestId v.requested (step :: past) ∧
        BegunAfterWrites describe requestId v.requested (threads.live.requestId + 1) (step :: past))
    (hShown : FailureShown threads → ReadFails threads.live.state verification) :
    Tracked describe (step :: past)
      { live := threads.live.startTuningRead verification now, starting } := by
  have hLive : threads.live.startTuningRead verification now =
      { threads.live with
        requestId := threads.live.requestId + 1
        operation := some ⟨threads.live.requestId + 1, TuningOwner.all, [],
          now + tuningRequestTimeoutSec, .read .empty verification⟩ } := by
    unfold LiveTuning.startTuningRead
    rw [hFree]
  rw [hLive]
  refine ⟨le_trans h.latest (Nat.le_succ _), fun requestId v hMem =>
    le_trans (h.entryIds requestId v (hStarting _ hMem)) (Nat.le_succ _),
    fun requestId v hMem => h.keepEntries hNone requestId v (hStarting _ hMem),
    fun _ _ _ _ _ hOperation => (by cases hOperation), ?_, ?_⟩
  · intro readId pending errors deadline values v hOperation
    cases hOperation
    exact ⟨⟨fun _ _ => rfl, fun owner hOwner => absurd (TuningOwner.mem_all owner) hOwner⟩, hBegun⟩
  · intro hApply
    have hFailed := h.failed (applyFailed_keep hApply hWrite)
    refine ⟨fun v hMem => hFailed.entries v (hStarting _ hMem), ?_⟩
    cases verification with
    | none => exact hShown hFailed
    | some v => exact ⟨hShown hFailed, hFailed.slot.status⟩

/-- An Apply is accepted: its writes are all open. -/
theorem tracked_accepts {requested : TuningSnapshot} {state : TuningState} {deadline : ℚ}
    (h : Tracked describe past threads)
    (hAccept : acceptance describe (tuningRun describe past) step =
      some (threads.live.requestId + 1, requested))
    (hWrite : ¬ WriteFails (tuningRun describe past) step)
    (hState : state.requestId = threads.live.requestId + 1 ∧ state.status = .applying) :
    Tracked describe (step :: past)
      { threads with live :=
        { requestId := threads.live.requestId + 1
          operation := some ⟨threads.live.requestId + 1, TuningOwner.all, [], deadline,
            .set requested⟩
          state } } := by
  have hNew : ∀ requestId verification, (requestId, verification) ∈ threads.starting →
      requestId ≠ threads.live.requestId + 1 := fun requestId verification hMem hEq =>
    absurd (h.entryIds requestId verification hMem) (by omega)
  refine ⟨le_of_eq hState.1, fun requestId verification hMem =>
      le_trans (h.entryIds requestId verification hMem) (Nat.le_succ _),
    fun requestId verification hMem _ hLatest =>
      absurd (hLatest.trans hState.1) (hNew requestId verification hMem), ?_,
    fun _ _ _ _ _ _ hOperation => (by cases hOperation), fun hFailed => ?_⟩
  · intro requestId pending errors deadline other hOperation
    cases hOperation
    exact ⟨hState.1.symm, hState.2, .start hAccept,
      fun verification hMem => hNew _ verification hMem rfl,
      fun _ owner hOwner => absurd (TuningOwner.mem_all owner) hOwner⟩
  · rcases hFailed with hFails | ⟨hNone, -⟩
    · exact absurd hFails hWrite
    · cases hNone.symm.trans hAccept

/-- What the answer to a write adds to the errors of its operation. -/
theorem writes_answered {owner : TuningOwner} {requestId : Nat} {reply : WriteReply}
    {pending : List TuningOwner} {errors : List String} {deadline : ℚ} {requested : TuningSnapshot}
    (h : Tracked describe past threads)
    (hOperation : threads.live.operation =
      some ⟨requestId, pending, errors, deadline, .set requested⟩)
    (hAnswers : AnswersWrite (tuningRun describe past) step owner requestId reply)
    (hFails : WriteFails (tuningRun describe past) step → reply.error? owner ≠ none) :
    (errors ++ (reply.error? owner).toList = [] →
        ∀ other, other ∉ pending.filter (· ≠ owner) →
          Succeeded describe other requestId (step :: past)) ∧
      (ApplyFailed describe (step :: past) → errors ++ (reply.error? owner).toList ≠ []) := by
  obtain ⟨-, -, -, -, hAnswered⟩ := h.writing _ _ _ _ _ hOperation
  refine ⟨fun hErrors other hOwner => ?_, fun hFailed hErrors => ?_⟩
  · obtain ⟨hBefore, hReply⟩ := List.append_eq_nil_iff.mp hErrors
    by_cases hSame : other = owner
    · subst hSame
      exact Or.inl ⟨reply, Option.toList_eq_nil_iff.mp hReply, hAnswers⟩
    · exact (hAnswered hBefore other fun hMem =>
        hOwner (List.mem_filter.mpr ⟨hMem, decide_eq_true hSame⟩)).cons
  · obtain ⟨hBefore, hReply⟩ := List.append_eq_nil_iff.mp hErrors
    rcases hFailed with hNow | ⟨-, hEarlier⟩
    · exact hFails hNow (Option.toList_eq_nil_iff.mp hReply)
    · have hSlot := (h.failed hEarlier).slot
      unfold SlotShows at hSlot
      rw [hOperation] at hSlot
      exact hSlot.1 hBefore

theorem tracked_expires {now : ℚ} {operation : TuningOperation}
    (h : Tracked describe past (tuningRun describe past)) :
    Tracked describe (.refresh now :: past)
      { tuningRun describe past with live :=
        { (tuningRun describe past).live with
          operation := none
          state := LiveTuning.timedOut (tuningRun describe past).live.state operation.kind } } := by
  refine tracked_freed h rfl timedOut_status.2 fun hFailed => ⟨timedOut_status.1, ?_⟩
  intro verification hMem
  rcases hFailed with (⟨_, _, _, ⟨hStep, -⟩, -⟩ | ⟨_, other, -, hOther, hSet, -⟩) | ⟨-, hEarlier⟩
  · cases hStep
  · obtain ⟨requestId, pending, errors, deadline, kind⟩ := other
    cases kind with
    | read values verification => cases hSet
    | set requested =>
      obtain ⟨hLatest, -, -, hNoEntry, -⟩ := h.writing _ _ _ _ _ hOther
      exact absurd (hLatest ▸ hMem) (hNoEntry verification)
  · exact (h.failed hEarlier).entries verification hMem

theorem tracked_answers {owner : TuningOwner} {readId : Nat} {reply : ReadReply}
    {pending : List TuningOwner} {errors : List String} {deadline : ℚ} {values : FieldValues}
    {verification : Option Verification}
    (h : Tracked describe past (tuningRun describe past))
    (hOperation : (tuningRun describe past).live.operation =
      some ⟨readId, pending, errors, deadline, .read values verification⟩)
    (hPending : owner ∈ pending) :
    Tracked describe (.finishRead owner readId reply :: past)
      { tuningRun describe past with live :=
        { (tuningRun describe past).live with
          operation := some ⟨readId, pending.filter (· ≠ owner),
            errors ++ (reply.outcome owner).2.toList, deadline,
            .read (values.update (reply.outcome owner).1) verification⟩ } } := by
  have hNone : NoAccept describe past (.finishRead owner readId reply) := rfl
  have hWrite : ¬ WriteFails (tuningRun describe past) (.finishRead owner readId reply) :=
    not_writeFails_of_ne nofun nofun
  obtain ⟨hRead, hBegun⟩ := h.reading _ _ _ _ _ _ hOperation
  refine ⟨h.latest, h.entryIds, h.keepEntries hNone, fun _ _ _ _ _ hOther =>
    (by cases hOther), ?_, ?_⟩
  · intro id pending' errors' deadline' values' verification' hOther
    cases hOther
    refine ⟨hRead.answer hPending ⟨rfl, _, hOperation, rfl, rfl, hPending⟩,
      fun v hSome hErrors => ?_⟩
    obtain ⟨requestId, hApply, hWritten⟩ := hBegun v hSome hErrors
    exact ⟨requestId, .keep hNone hApply, .keep hNone hWritten⟩
  · intro hApply
    have hFailed := h.failed (applyFailed_keep hApply hWrite)
    refine ⟨hFailed.entries, ?_⟩
    have hSlot := hFailed.slot
    unfold SlotShows at hSlot ⊢
    rw [hOperation] at hSlot
    cases verification with
    | none => exact hSlot
    | some v => exact hSlot

theorem tracked_completes {owner : TuningOwner} {readId : Nat} {reply : ReadReply}
    {pending : List TuningOwner} {errors : List String} {deadline : ℚ} {values : FieldValues}
    {verification : Option Verification}
    (h : Tracked describe past (tuningRun describe past))
    (hCareful : Careful describe past (.finishRead owner readId reply))
    (hOperation : (tuningRun describe past).live.operation =
      some ⟨readId, pending, errors, deadline, .read values verification⟩)
    (hPending : owner ∈ pending) (hLast : pending.filter (· ≠ owner) = []) :
    Tracked describe (.finishRead owner readId reply :: past)
      { tuningRun describe past with live :=
        { (tuningRun describe past).live with
          operation := none
          state := LiveTuning.afterRead (tuningRun describe past).live.state
            (values.update (reply.outcome owner).1)
            (errors ++ (reply.outcome owner).2.toList) verification } } := by
  refine tracked_freed h rfl afterRead_requestId fun hApply => ?_
  have hEarlier := applyFailed_keep hApply (not_writeFails_of_ne nofun nofun)
  have hFailed := h.failed hEarlier
  refine ⟨?_, hFailed.entries⟩
  have hSlot := hFailed.slot
  unfold SlotShows at hSlot
  rw [hOperation] at hSlot
  cases verification with
  | none =>
    have hErrors : errors ++ (reply.outcome owner).2.toList = [] := by
      by_contra hErrors
      exact hCareful.2.2 owner readId reply rfl pending errors deadline values hOperation hPending
        hLast hErrors hEarlier
    rw [hErrors]
    exact afterRead_periodic hSlot
  | some v => exact afterRead_failed hSlot.1

/-- A thread that finds the slot taken drops its verification. -/
theorem tracked_drops {starting : List (Nat × Verification)} {operation : TuningOperation}
    (h : Tracked describe past threads) (hOperation : threads.live.operation = some operation)
    (hStarting : ∀ entry ∈ starting, entry ∈ threads.starting) :
    Tracked describe past { threads with starting } := by
  refine ⟨h.latest, fun requestId verification hMem =>
      h.entryIds requestId verification (hStarting _ hMem),
    fun requestId verification hMem => h.entries requestId verification (hStarting _ hMem), ?_,
    h.reading, fun hApply => ?_⟩
  · intro requestId pending errors deadline requested hOther
    obtain ⟨hLatest, hStatus, hSince, hEntry, hAnswered⟩ :=
      h.writing requestId pending errors deadline requested hOther
    exact ⟨hLatest, hStatus, hSince, fun verification hMem =>
      hEntry verification (hStarting _ hMem),
      hAnswered⟩
  · have hFailed := h.failed hApply
    refine ⟨fun verification hMem => hFailed.entries verification (hStarting _ hMem), ?_⟩
    have hSlot := hFailed.slot
    obtain ⟨requestId, pending, errors, deadline, kind⟩ := operation
    unfold SlotShows at hSlot ⊢
    dsimp only
    rw [hOperation] at hSlot ⊢
    cases kind with
    | set requested => exact hSlot
    | read values verification => cases verification <;> exact hSlot

theorem tracked_refuses {state : TuningState} (h : Tracked describe past (tuningRun describe past))
    (hFree : (tuningRun describe past).live.operation = none)
    (hNone : NoAccept describe past step)
    (hWrite : ¬ WriteFails (tuningRun describe past) step)
    (hState : state.requestId = (tuningRun describe past).live.state.requestId ∧
      state.status = .failed) :
    Tracked describe (step :: past)
      { tuningRun describe past with live := { (tuningRun describe past).live with state } } := by
  have hFreed := tracked_freed h hNone hState.1 fun hApply =>
    ⟨hState.2, (h.failed (applyFailed_keep hApply hWrite)).entries⟩
  have hSame : ({ (tuningRun describe past).live with state } : LiveTuning) =
      { (tuningRun describe past).live with operation := none, state } :=
    congrArg (LiveTuning.mk _ · state) hFree
  rw [hSame]
  exact hFreed

theorem writeFails_finishSet {owner : TuningOwner} {requestId : Nat} {reply : WriteReply}
    (h : WriteFails threads (.finishSet owner requestId reply)) : reply.error? owner ≠ none := by
  rcases h with ⟨_, _, _, ⟨hStep, -⟩, hError⟩ | ⟨_, _, hStep, -⟩
  · cases hStep
    exact hError
  · cases hStep

theorem tracked_writes {owner : TuningOwner} {requestId : Nat} {reply : WriteReply}
    {pending : List TuningOwner} {errors : List String} {deadline : ℚ} {requested : TuningSnapshot}
    (h : Tracked describe past (tuningRun describe past))
    (hOperation : (tuningRun describe past).live.operation =
      some ⟨requestId, pending, errors, deadline, .set requested⟩) (hPending : owner ∈ pending) :
    Tracked describe (.finishSet owner requestId reply :: past)
      { tuningRun describe past with live :=
        { (tuningRun describe past).live with
          operation := some ⟨requestId, pending.filter (· ≠ owner),
            errors ++ (reply.error? owner).toList, deadline, .set requested⟩ } } := by
  have hNone : NoAccept describe past (.finishSet owner requestId reply) := rfl
  obtain ⟨hLatest, hStatus, hApply, hEntry, -⟩ := h.writing _ _ _ _ _ hOperation
  have hAnswers : AnswersWrite (tuningRun describe past) (.finishSet owner requestId reply) owner
      requestId reply := ⟨rfl, _, hOperation, rfl, rfl, hPending⟩
  obtain ⟨hAnswered, hFailed⟩ := writes_answered h hOperation hAnswers writeFails_finishSet
  refine ⟨h.latest, h.entryIds, h.keepEntries hNone, ?_,
    fun _ _ _ _ _ _ hOther => (by cases hOther), fun hFails => ?_⟩
  · intro id pending' errors' deadline' requested' hOther
    cases hOther
    exact ⟨hLatest, hStatus, .keep hNone hApply, hEntry, hAnswered⟩
  · exact ⟨fun verification hMem => absurd (hLatest ▸ hMem) (hEntry verification),
      hFailed hFails, hStatus⟩

theorem tracked_written {owner : TuningOwner} {requestId : Nat} {reply : WriteReply}
    {pending : List TuningOwner} {errors : List String} {deadline : ℚ} {requested : TuningSnapshot}
    (h : Tracked describe past (tuningRun describe past))
    (hOperation : (tuningRun describe past).live.operation =
      some ⟨requestId, pending, errors, deadline, .set requested⟩) (hPending : owner ∈ pending)
    (hLast : pending.filter (· ≠ owner) = []) :
    Tracked describe (.finishSet owner requestId reply :: past)
      { live := { (tuningRun describe past).live with operation := none }
        starting := (tuningRun describe past).starting ++
          [(requestId, ⟨requested, errors ++ (reply.error? owner).toList⟩)] } := by
  have hNone : NoAccept describe past (.finishSet owner requestId reply) := rfl
  obtain ⟨hLatest, hStatus, hApply, hEntry, -⟩ := h.writing _ _ _ _ _ hOperation
  have hAnswers : AnswersWrite (tuningRun describe past) (.finishSet owner requestId reply) owner
      requestId reply := ⟨rfl, _, hOperation, rfl, rfl, hPending⟩
  obtain ⟨hAnswered, hFailed⟩ := writes_answered h hOperation hAnswers writeFails_finishSet
  rw [hLast] at hAnswered
  have hMem : ∀ {id : Nat} {verification : Verification},
      (id, verification) ∈ (tuningRun describe past).starting ++
        [(requestId, ⟨requested, errors ++ (reply.error? owner).toList⟩)] →
      (id, verification) ∈ (tuningRun describe past).starting ∨ (id = requestId ∧
        verification = ⟨requested, errors ++ (reply.error? owner).toList⟩) := by
    intro id verification hMem
    exact (List.mem_append.mp hMem).imp_right fun hEq => Prod.mk.inj (List.mem_singleton.mp hEq)
  refine ⟨h.latest, fun id verification hEntryMem => ?_,
    fun id verification hEntryMem hErrors hId => ?_,
    nofun, nofun, fun hFails => ⟨fun verification hEntryMem => ?_, Or.inr ⟨hStatus,
      ⟨requested, errors ++ (reply.error? owner).toList⟩, ?_⟩⟩⟩
  · rcases hMem hEntryMem with hOld | ⟨rfl, -⟩
    · exact h.entryIds id verification hOld
    · exact hLatest ▸ h.latest
  · rcases hMem hEntryMem with hOld | ⟨rfl, rfl⟩
    · exact h.keepEntries hNone id verification hOld hErrors hId
    · exact ⟨.keep hNone hApply, fun other => hAnswered hErrors other List.not_mem_nil⟩
  · rcases hMem hEntryMem with hOld | ⟨-, rfl⟩
    · exact absurd (hLatest ▸ hOld) (hEntry verification)
    · exact hFailed hFails
  · exact List.mem_append_right _ (List.mem_singleton.mpr (by rw [hLatest]))

/-- Every careful step keeps the invariant. -/
theorem tracked_step (h : Tracked describe past (tuningRun describe past))
    (hCareful : Careful describe past step) :
    Tracked describe (step :: past) (tuningRun describe (step :: past)) := by
  have hMoves := @moves_run describe past step
  generalize hNext : tuningRun describe (step :: past) = threads' at hMoves
  cases hMoves with
  | idle hAccept hWrite => exact tracked_idle h hAccept hWrite
  | expires => exact tracked_expires h
  | reads hFree =>
    refine tracked_begun h hFree rfl (not_writeFails_of_ne nofun nofun) (fun _ hMem => hMem)
      (fun _ hNone => by cases hNone) fun hFailed => ?_
    have hSlot := hFailed.slot
    unfold SlotShows at hSlot
    rw [hFree] at hSlot
    rcases hSlot with hStatus | ⟨-, verification, hMem⟩
    · exact hStatus
    · exact absurd (hCareful.1 _ rfl hFree verification hMem) (hFailed.entries verification hMem)
  | drops hOperation =>
    exact tracked_drops (tracked_idle h rfl (not_writeFails_of_ne nofun nofun)) hOperation
      fun _ hErased => List.mem_of_mem_eraseIdx hErased
  | verifies hFree hEntry =>
    have hMem := List.mem_of_getElem? hEntry
    refine tracked_begun h hFree rfl (not_writeFails_of_ne nofun nofun)
      (fun _ hErased => List.mem_of_mem_eraseIdx hErased) ?_ fun hFailed hErrors => ?_
    · intro v hSome hErrors
      cases hSome
      have hWritten := h.entries _ _ hMem hErrors
        (hCareful.2.1 _ _ rfl hFree _ _ hEntry hErrors)
      refine ⟨_, .keep rfl hWritten.1, .start ⟨⟨hFree, ?_⟩, hWritten⟩⟩
      rw [hNext]
      unfold LiveTuning.startTuningRead
      rw [hFree]
      exact ⟨_, rfl, rfl, rfl⟩
    · have hLatest := hCareful.2.1 _ _ rfl hFree _ _ hEntry hErrors
      exact hFailed.entries _ (hLatest ▸ hMem) hErrors
  | answers hOperation hPending => exact tracked_answers h hOperation hPending
  | completes hOperation hPending hLast =>
    exact tracked_completes h hCareful hOperation hPending hLast
  | refuses hAccept hFree =>
    exact tracked_refuses h hFree hAccept (not_writeFails_of_ne nofun nofun) ⟨rfl, rfl⟩
  | accepts hAccept =>
    exact tracked_accepts h hAccept (not_writeFails_of_ne nofun nofun) ⟨rfl, rfl⟩
  | writes hOperation hPending => exact tracked_writes h hOperation hPending
  | written hOperation hPending hLast => exact tracked_written h hOperation hPending hLast

/-! ## Every run -/

theorem tracked_run (hCareful : Always (Careful describe) past) :
    Tracked describe past (tuningRun describe past) := by
  induction past with
  | nil =>
    exact ⟨le_rfl, fun _ _ hMem => absurd hMem List.not_mem_nil,
      fun _ _ hMem => absurd hMem List.not_mem_nil, nofun, nofun, fun h => h.elim⟩
  | cons step past ih => exact tracked_step (ih hCareful.2) hCareful.1

/-- What has become applied is confirmed. -/
theorem applied_confirmed (h : Tracked describe past (tuningRun describe past))
    (hApplied : (tuningRun describe (step :: past)).live.state.status = .applied)
    (hBefore : (tuningRun describe past).live.state.status ≠ .applied) :
    Confirmed describe (step :: past) := by
  have hMoves := @moves_run describe past step
  generalize tuningRun describe (step :: past) = threads' at hMoves hApplied
  have hRead : ∀ verification now,
      ((tuningRun describe past).live.startTuningRead verification now).state.status ≠
        .applied := by
    intro verification now
    unfold LiveTuning.startTuningRead
    split <;> exact hBefore
  cases hMoves with
  | idle => exact absurd hApplied hBefore
  | expires =>
    cases timedOut_status.1.symm.trans hApplied
  | reads => exact absurd hApplied (hRead _ _)
  | drops => exact absurd hApplied hBefore
  | verifies => exact absurd hApplied (hRead _ _)
  | answers => exact absurd hApplied hBefore
  | @completes owner readId reply pending errors deadline values verification hOperation hPending
      hLast =>
    obtain ⟨hErrors, v, rfl, hSetErrors, hValues⟩ := afterRead_applied hApplied
    obtain ⟨hReads, hBegun⟩ := h.reading _ _ _ _ _ _ hOperation
    obtain ⟨requestId, hApply, hWritten⟩ := hBegun v rfl hSetErrors
    have hAnswers : AnswersRead (tuningRun describe past) (.finishRead owner readId reply) owner
        readId reply := ⟨rfl, _, hOperation, rfl, rfl, hPending⟩
    have hAnswered := (hReads.answer hPending hAnswers).answered
    rw [hLast] at hAnswered
    refine ⟨requestId, v.requested, _, .keep rfl hApply, .keep rfl hWritten, fun owner => ?_⟩
    obtain ⟨reply, hBack, hReply, hFields⟩ := hAnswered owner List.not_mem_nil
    exact ⟨reply, hBack, hReply hErrors, fun field hField =>
      (hFields field hField).symm.trans (hValues field)⟩
  | refuses => cases hApplied
  | accepts => cases hApplied
  | writes => exact absurd hApplied hBefore
  | written => exact absurd hApplied hBefore

end

/-- Every run whose steps are careful keeps the verdict. `tracked_run` is the invariant: it says of
every thread what it still has to do for the latest Apply. The three parts of the verdict are read
off it at the step that publishes them. -/
theorem tuning_verdicts (describe : TuningError → String) (steps : List TuningStep)
    (hCareful : Always (Careful describe) steps) :
    ∀ later step past, steps = later ++ step :: past → TuningVerdict describe past step := by
  rintro later step past rfl
  have hSuffix := hCareful.suffix
  refine ⟨applied_confirmed (tracked_run hSuffix.2), fun requestId => stale_unchanged,
    fun hFailed => ?_⟩
  have hStatus := ((tracked_run hSuffix).failed hFailed).slot.status
  constructor <;> intro hOther <;> rw [hOther] at hStatus <;> rcases hStatus with h | h <;> cases h

/-- An Apply whose owners never answer, and the refresh that gives up; latest step first. -/
def timedOutSteps : List TuningStep := [.refresh 3, .apply (valuesAt 1) (fun _ => true) 0]

theorem writeFails_timedOut :
    WriteFails (tuningRun (fun _ => "") timedOutSteps.tail) (.refresh 3) := by
  have hSlot : ((tuningRun (fun _ => "") timedOutSteps.tail).live.operation.any fun operation =>
      operation.kind.isSet && operation.deadline ≤ (3 : ℚ)) = true := by decide +kernel
  obtain ⟨operation, hOperation, hSet⟩ := (Option.any_eq_true _ _).mp hSlot
  obtain ⟨hSet, hDeadline⟩ := Bool.and_eq_true_iff.mp hSet
  exact Or.inr ⟨3, operation, rfl, hOperation, hSet, of_decide_eq_true hDeadline⟩

/-- A complete reply of an owner with the values of a snapshot. -/
def fullReply (snapshot : TuningSnapshot) (owner : TuningOwner) : ReadReply :=
  .values ((TuningField.all.filter fun field => field.parameter.owner = owner).map fun field =>
    .double (.finite (snapshot field)))

/-- All owners answer a read, the planner with this reply; latest step first. -/
def readSteps (readId : Nat) (planner : ReadReply) : List TuningStep :=
  .finishRead .planner readId planner :: ([.navigator, .adapter, .controller].map fun owner =>
    .finishRead owner readId (fullReply (normalized (valuesAt 1)) owner))

/-- An Apply that every owner takes, and the read that verifies it; latest step first. -/
def appliedSteps : List TuningStep :=
  readSteps 2 (fullReply (normalized (valuesAt 1)) .planner) ++ .startVerification 0 1 ::
    ([.planner, .navigator, .adapter, .controller].map
      fun owner => .finishSet owner 1 (.result true "")) ++
    [.apply (valuesAt 1) (fun _ => true) 0]

/-- A read that verifies nothing. -/
def OperationKind.isPeriodic : OperationKind → Bool
  | read _ none => true
  | _ => false

/-- The reply to a read that verifies an Apply. -/
theorem careful_finishRead {describe : TuningError → String} {past : List TuningStep}
    (h : ((tuningRun describe past).live.operation.any fun operation =>
      operation.kind.isPeriodic) = false) (owner : TuningOwner) (requestId : Nat)
    (reply : ReadReply) : Careful describe past (.finishRead owner requestId reply) := by
  refine ⟨nofun, nofun, fun _ _ _ _ pending errors deadline values hOperation => ?_⟩
  rw [hOperation] at h
  exact nomatch h

/-- A verification that starts while only the latest Apply waits for one. -/
theorem careful_startVerification {describe : TuningError → String} {past : List TuningStep}
    (h : (tuningRun describe past).starting.all (fun entry =>
      entry.1 = (tuningRun describe past).live.state.requestId) = true) (index : Nat) (now : ℚ) :
    Careful describe past (.startVerification index now) := by
  refine ⟨nofun, ?_, nofun⟩
  rintro place time hStep - requestId verification hEntry -
  exact of_decide_eq_true (List.all_eq_true.mp h _ (List.mem_of_getElem? hEntry))

theorem careful_applied : Always (Careful fun _ => "") appliedSteps :=
  ⟨careful_finishRead (by decide +kernel) _ _ _, careful_finishRead (by decide +kernel) _ _ _,
    careful_finishRead (by decide +kernel) _ _ _, careful_finishRead (by decide +kernel) _ _ _,
    careful_startVerification (by decide +kernel) _ _, ⟨nofun, nofun, nofun⟩,
    ⟨nofun, nofun, nofun⟩, ⟨nofun, nofun, nofun⟩, ⟨nofun, nofun, nofun⟩, ⟨nofun, nofun, nofun⟩,
    trivial⟩

/-- One Apply ends with `applied`, and another one with a failure. -/
theorem tuning_verdicts_applied :
    ((tuningRun (fun _ => "") appliedSteps).live.state.status = .applied ∧
      (tuningRun (fun _ => "") appliedSteps.tail).live.state.status ≠ .applied ∧
      TuningVerdict (fun _ => "") appliedSteps.tail
        (.finishRead .planner 2 (fullReply (normalized (valuesAt 1)) .planner))) ∧
    ApplyFailed (fun _ => "") timedOutSteps ∧
      TuningVerdict (fun _ => "") timedOutSteps.tail (.refresh 3) :=
  ⟨⟨by decide +kernel, by decide +kernel,
      tuning_verdicts (fun _ => "") appliedSteps careful_applied [] _ _ rfl⟩,
    Or.inl writeFails_timedOut,
    tuning_verdicts (fun _ => "") timedOutSteps
      ⟨⟨nofun, nofun, nofun⟩, ⟨nofun, nofun, nofun⟩, trivial⟩ [] _ _ rfl⟩

/-- After the time-out one periodic read fails and the next one succeeds; latest step first. -/
def forgetfulSteps : List TuningStep :=
  readSteps 3 (fullReply (normalized (valuesAt 1)) .planner) ++ .startRead 8 :: .refresh 8 ::
    (readSteps 2 .unavailable ++ .startRead 3 :: timedOutSteps)

def TuningStep.isApply : TuningStep → Bool
  | apply _ _ _ => true
  | _ => false

/-- A failure lasts while nothing is applied. -/
theorem applyFailed_append {describe : TuningError → String} {past : List TuningStep}
    (h : ApplyFailed describe past) (later : List TuningStep)
    (hNone : ∀ step ∈ later, step.isApply = false) : ApplyFailed describe (later ++ past) := by
  induction later with
  | nil => exact h
  | cons step later ih =>
    refine .keep ?_ (ih fun other hMem => hNone other (List.mem_cons_of_mem _ hMem))
    have hStep := hNone step List.mem_cons_self
    cases step with
    | apply values ready now => cases hStep
    | _ => rfl

/-- The failure of the writes is replaced by `current`, with one thread alone. -/
theorem failure_forgotten : ¬ ∀ (describe : TuningError → String) (steps : List TuningStep),
    ∀ later step past, steps = later ++ step :: past → TuningVerdict describe past step := by
  intro hAll
  have hTimedOut : ApplyFailed (fun _ => "") timedOutSteps := Or.inl writeFails_timedOut
  have hFailed : ApplyFailed (fun _ => "") forgetfulSteps :=
    applyFailed_append hTimedOut (forgetfulSteps.take 11) (by decide +kernel)
  exact ((hAll (fun _ => "") forgetfulSteps [] _ _ rfl).failed hFailed).2 (by decide +kernel)

end PreRunner.Tuning
