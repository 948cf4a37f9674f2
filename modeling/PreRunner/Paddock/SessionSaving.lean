import PreRunner.Paddock.SaveOutcomes

/-!
# Which save marks a session as saved

A save compares its session with the current one before it publishes the map. Its outcome is
recorded later, and `record_save` marks whichever session is current then. The session is its own
unless another one has begun in between.

`Saving` is the invariant that ties the running task to the requests so far: it was begun for the
session that its request names. The last section has the run in which another session begins while
the map of the first one is renamed into place.
-/

namespace PreRunner.Paddock

open Maps

/-- The session has become saved, or its saved map is another one. -/
def MappingSession.BecomesSaved (before after : MappingSession) : Prop :=
  after.active = true ∧
    ((after.unsaved = false ∧ (before.unsaved = true ∨ before.sessionId ≠ after.sessionId)) ∨
      (after.phase = .saved ∧ before.phase ≠ .saved) ∨
      (after.savedName ≠ "" ∧ after.savedName ≠ before.savedName) ∨
      (after.savedRevision ≠ "" ∧ after.savedRevision ≠ before.savedRevision))

theorem MappingSession.not_becomesSaved {before after : MappingSession}
    (hId : after.sessionId = before.sessionId) (hUnsaved : after.unsaved = before.unsaved)
    (hName : after.savedName = before.savedName)
    (hRevision : after.savedRevision = before.savedRevision)
    (hPhase : after.phase = .saved → before.phase = .saved) :
    ¬ MappingSession.BecomesSaved before after := by
  rintro ⟨-, hClear | hPhaseSaved | hNamed | hRevised⟩
  · rw [hUnsaved, hId] at hClear
    obtain ⟨hFalse, hTrue | hOther⟩ := hClear
    · exact nomatch hFalse.symm.trans hTrue
    · exact hOther rfl
  · exact hPhaseSaved.2 (hPhase hPhaseSaved.1)
  · exact hNamed.2 hName
  · exact hRevised.2 hRevision

namespace SaveTask

/-- The session of a save that has passed its session check and not failed since. -/
def completes : SaveTask → Option String
  | .publishing run => some run.txn.sessionId
  | .recording _ outcome => if outcome.state = .succeeded then some outcome.sessionId else none
  | _ => none

/-- What a task owes to the requests that have been received: a save runs for the session that its
request names. -/
def BegunBy (past : List SaveInput) : SaveTask → Prop
  | .free | .raised => True
  | .received message => .request message ∈ past
  | .checking message sessionId check =>
    .request message ∈ past ∧ (1 < check → message.sessionId = sessionId)
  | .beginning message sessionId | .announcing message sessionId =>
    .request message ∈ past ∧ message.sessionId = sessionId
  | .preparing run | .waitingForService run | .serializing run | .checkingFiles run
  | .capturing run | .writing run _ | .validating run | .comparing run | .publishing run =>
    ∃ message, .request message ∈ past ∧ message.requestId = run.requestId ∧
      message.sessionId = run.txn.sessionId
  | .recording requestId outcome =>
    outcome.state = .succeeded → ∃ message, .request message ∈ past ∧
      message.requestId = requestId ∧ message.sessionId = outcome.sessionId

theorem begunBy_of_run {past : List SaveInput} {task : SaveTask} {run : SaveRun}
    (h : task.run? = some run) :
    task.BegunBy past ↔ ∃ message, .request message ∈ past ∧ message.requestId = run.requestId ∧
      message.sessionId = run.txn.sessionId := by
  cases task with
  | free | raised | received | checking | beginning | announcing | recording => exact nomatch h
  | _ =>
    cases h
    exact Iff.rfl

theorem BegunBy.mono {past : List SaveInput} {task : SaveTask} (h : task.BegunBy past)
    (input : SaveInput) : task.BegunBy (past ++ [input]) := by
  have hMem : ∀ {message : SaveRequest}, .request message ∈ past →
      .request message ∈ past ++ [input] := List.mem_append_left _
  cases task with
  | free | raised => trivial
  | received message => exact hMem h
  | checking | beginning | announcing => exact ⟨hMem h.1, h.2⟩
  | recording =>
    exact fun hState => (h hState).imp fun message hMessage => ⟨hMem hMessage.1, hMessage.2⟩
  | _ => exact h.imp fun message hMessage => ⟨hMem hMessage.1, hMessage.2⟩

end SaveTask

namespace MapSessionModel

variable (model : MapSessionModel)

/-- An observation of the runtime keeps the session, ends it, or begins one with unsaved data. -/
theorem observeRuntime_cases (mappingActive : Bool) (sessionId : String) (runtimeEpoch : ℤ)
    (now : ℚ) :
    (model.observeRuntime mappingActive sessionId runtimeEpoch now).session = model.session ∨
    (model.observeRuntime mappingActive sessionId runtimeEpoch now).session = {} ∨
    (model.observeRuntime mappingActive sessionId runtimeEpoch now).session =
      { sessionId, runtimeEpoch, created := now, phase := .starting, unsaved := true } := by
  unfold observeRuntime
  split
  · split
    · exact .inr (.inl rfl)
    · exact .inl rfl
  · split
    · dsimp only
      split <;> exact .inr (.inr rfl)
    · exact .inl rfl

/-- Evidence changes nothing but the phase, which it never makes `saved`. -/
theorem observeMapEvidence_session (producedAfter : Bool) (now : ℚ) :
    ∃ phase evidenceAt, (model.observeMapEvidence producedAfter now).session =
      { model.session with phase, evidenceAt } ∧
        (phase = .saved → model.session.phase = .saved) := by
  unfold observeMapEvidence
  split
  · exact ⟨_, _, rfl, id⟩
  · refine ⟨_, _, rfl, fun hPhase => ?_⟩
    split at hPhase
    · exact nomatch hPhase
    · exact hPhase

theorem refresh_session (now : ℚ) :
    ∃ phase, (model.refresh now).session = { model.session with phase } ∧
      (phase = .saved → model.session.phase = .saved) := by
  unfold refresh
  split
  · exact ⟨_, rfl, nofun⟩
  · exact ⟨_, rfl, id⟩

theorem beginSave_session (requestId : ℤ) :
    ∃ phase, (model.beginSave requestId).session = { model.session with phase } ∧
      (phase = .saved → model.session.phase = .saved) := by
  unfold beginSave
  dsimp only
  split
  · exact ⟨_, rfl, nofun⟩
  · exact ⟨_, rfl, id⟩

theorem recordSave_failed (requestId : ℤ) {outcome : SaveOutcome}
    (hState : outcome.state ≠ .succeeded) :
    ∃ phase, (model.recordSave requestId outcome).session = { model.session with phase } ∧
      (phase = .saved → model.session.phase = .saved) := by
  unfold recordSave
  dsimp only
  rw [if_neg hState]
  split
  · exact ⟨_, rfl, nofun⟩
  · exact ⟨_, rfl, id⟩

theorem recordSave_succeeded (requestId : ℤ) {outcome : SaveOutcome}
    (hState : outcome.state = .succeeded) :
    (model.recordSave requestId outcome).session = { model.session with
      unsaved := false, savedName := outcome.name, savedRevision := outcome.revision
      phase := .saved } := by
  unfold recordSave
  dsimp only
  rw [if_pos hState]

end MapSessionModel

namespace MapSessionNode

variable {lib : SaveLibrary} {mapDir : FilePath}

/-! ## What a step makes of the session -/

/-- The session after one step. -/
inductive SessionStep (node : MapSessionNode) (input : SaveInput) : MappingSession → Prop where
  | keeps (phase : SessionPhase) (evidenceAt : Option ℚ)
      (hPhase : phase = .saved → node.model.session.phase = .saved) :
      SessionStep node input { node.model.session with phase, evidenceAt }
  | ends : SessionStep node input {}
  | begins (sessionId : String) (runtimeEpoch : ℤ) (now : ℚ) :
      SessionStep node input
        { sessionId, runtimeEpoch, created := now, phase := .starting, unsaved := true }
  | saves (requestId : ℤ) (outcome : SaveOutcome) (hInput : input.isWork = true)
      (hTask : node.task = .recording requestId outcome) (hState : outcome.state = .succeeded) :
      SessionStep node input { node.model.session with
        unsaved := false, savedName := outcome.name, savedRevision := outcome.revision
        phase := .saved }

theorem SessionStep.same (node : MapSessionNode) (input : SaveInput) :
    SessionStep node input node.model.session :=
  .keeps node.model.session.phase node.model.session.evidenceAt id

theorem SessionStep.phase {node : MapSessionNode} {input : SaveInput} {session : MappingSession}
    (h : ∃ phase, session = { node.model.session with phase } ∧
      (phase = .saved → node.model.session.phase = .saved)) : SessionStep node input session := by
  obtain ⟨phase, rfl, hPhase⟩ := h
  exact .keeps phase node.model.session.evidenceAt hPhase

theorem session_onWork (node : MapSessionNode) (hNamed : ∀ run, node.task.run? = some run →
    run.txn.Named) (w : Work) :
    SessionStep node (.work w) (node.onWork lib mapDir w).model.session := by
  cases hRun : node.task.run? with
  | some run =>
    obtain ⟨files, task, hWork, -⟩ := @onWork_run lib mapDir _ _ hRun
      (hNamed run hRun) w
    rw [hWork]
    exact .same node _
  | none =>
    unfold onWork
    cases hTask : node.task with
    | free | raised => exact .same node _
    | received message =>
      dsimp only
      split
      · exact .same node _
      · split <;> exact .same node _
    | checking message sessionId check =>
      dsimp only
      split
      · exact .same node _
      · split <;> exact .same node _
    | beginning message sessionId =>
      exact .phase (MapSessionModel.beginSave_session _ _)
    | announcing message sessionId =>
      dsimp only
      split <;> exact .same node _
    | recording requestId outcome =>
      by_cases hState : outcome.state = .succeeded
      · change SessionStep node _ (node.model.recordSave requestId outcome).session
        rw [MapSessionModel.recordSave_succeeded _ _ hState]
        exact .saves requestId outcome rfl hTask hState
      · exact .phase (MapSessionModel.recordSave_failed _ _ hState)
    | _ =>
      rw [hTask] at hRun
      exact nomatch hRun

theorem session_step (node : MapSessionNode) (hNamed : ∀ run, node.task.run? = some run →
    run.txn.Named) (input : SaveInput) :
    SessionStep node input (step lib mapDir node input).model.session := by
  cases input with
  | lease | stopState | lateFiles => exact .same node _
  | modeState message now =>
    have hCases := node.model.observeRuntime_cases
      (message.mode = SessionModeState.modeMapping &&
        message.status = SessionModeState.statusStable)
      message.mappingSessionId message.runtimeEpoch now
    unfold step onModeState
    dsimp only
    obtain hSame | hEnds | hBegins := hCases
    · rw [hSame]
      exact .same node _
    · rw [hEnds]
      exact .ends
    · rw [hBegins]
      exact .begins _ _ _
  | map now =>
    obtain ⟨phase, evidenceAt, hSession, hPhase⟩ := node.model.observeMapEvidence_session
      (node.model.session.active && sessionEvidenceGraceSec ≤ now - node.model.session.created) now
    unfold step onMap
    dsimp only
    rw [hSession]
    exact .keeps phase evidenceAt hPhase
  | timer now => exact .phase (node.model.refresh_session now)
  | request message =>
    unfold step
    cases node.task with
    | free =>
      dsimp only
      unfold onMapRequest
      split <;> exact .same node _
    | _ => exact .same node _
  | work w => exact session_onWork node hNamed w

/-- Only the recording of a successful outcome marks a session. -/
theorem SessionStep.becomesSaved {node : MapSessionNode} {input : SaveInput}
    {session : MappingSession} (h : SessionStep node input session)
    (hSaved : node.model.session.BecomesSaved session) :
    ∃ requestId outcome, input.isWork = true ∧ node.task = .recording requestId outcome ∧
      outcome.state = .succeeded ∧ session = { node.model.session with
        unsaved := false, savedName := outcome.name, savedRevision := outcome.revision
        phase := .saved } := by
  cases h with
  | keeps phase evidenceAt hPhase =>
    exact absurd hSaved (MappingSession.not_becomesSaved rfl rfl rfl rfl hPhase)
  | ends => exact nomatch hSaved.1
  | begins sessionId runtimeEpoch now =>
    obtain ⟨-, h | h | h | h⟩ := hSaved
    · exact nomatch h.1
    · exact nomatch h.1
    · exact absurd rfl h.1
    · exact absurd rfl h.1
  | saves requestId outcome hInput hTask hState =>
    exact ⟨requestId, outcome, hInput, hTask, hState, rfl⟩

/-! ## Saves run for the sessions that their requests name -/

/-- What holds of the save that runs, after these inputs. -/
structure Saving (past : List SaveInput) (node : MapSessionNode) : Prop where
  handling : Handling node
  begun : node.task.BegunBy past
  /-- A session that has replaced the one of a save that completes is unsaved. -/
  window : ∀ sessionId, node.task.completes = some sessionId → node.model.session.sessionId ≠ "" →
    node.model.session.sessionId ≠ sessionId → node.model.session.unsaved = true

theorem SaveStep.begunBy {past : List SaveInput} {run : SaveRun} {node : MapSessionNode}
    {files : FileSystem} {task : SaveTask} (h : SaveStep lib run node files task)
    (hBegun : ∃ message, .request message ∈ past ∧ message.requestId = run.requestId ∧
      message.sessionId = run.txn.sessionId) : task.BegunBy past := by
  cases h with
  | goesOn hRun => exact (SaveTask.begunBy_of_run hRun).mpr hBegun
  | fails => exact nofun
  | raises => trivial
  | publishes ops hTask hPublish =>
    intro _
    rw [(publish_ok hPublish).2.2]
    exact hBegun

theorem begunBy_onWork {past : List SaveInput} {node : MapSessionNode} (h : node.task.BegunBy past)
    (hHandling : Handling node) (w : Work) :
    (node.onWork lib mapDir w).task.BegunBy past := by
  cases hRun : node.task.run? with
  | some run =>
    obtain ⟨files, task, hWork, hStep⟩ := @onWork_run lib mapDir _ _ hRun
      (hHandling.running run hRun) w
    rw [hWork]
    exact hStep.begunBy ((SaveTask.begunBy_of_run hRun).mp h)
  | none =>
    unfold onWork
    cases hTask : node.task with
    | free | raised => rwa [hTask] at h ⊢
    | received message =>
      rw [hTask] at h
      have hPending := hHandling.pending message.requestId (by rw [hTask]; rfl)
      dsimp only
      split
      · rename_i outcome hCached
        exact nomatch hPending.2.symm.trans hCached
      · split
        · exact nofun
        · exact ⟨h, nofun⟩
    | checking message sessionId check =>
      rw [hTask] at h
      obtain ⟨hRequest, hSession⟩ := h
      dsimp only
      split
      · rename_i hChecked
        have hLast : 6 ≤ check := List.getElem?_eq_none_iff.mp hChecked
        exact ⟨hRequest, hSession (by omega)⟩
      · rename_i test hTest
        split
        · exact nofun
        · rename_i hPassed
          refine ⟨hRequest, fun hCheck => ?_⟩
          obtain rfl | hLater : check = 1 ∨ 1 < check := by omega
          · obtain rfl : _ = test := Option.some.inj hTest
            exact not_not.mp fun hOther => nomatch (if_neg hOther).symm.trans hPassed
          · exact hSession hLater
    | beginning message sessionId =>
      rw [hTask] at h
      exact h
    | announcing message sessionId =>
      rw [hTask] at h
      dsimp only
      split
      · trivial
      · exact ⟨message, h.1, rfl, h.2⟩
    | recording requestId outcome => trivial
    | _ =>
      rw [hTask] at hRun
      exact nomatch hRun

theorem begunBy_step {past : List SaveInput} {node : MapSessionNode} (h : node.task.BegunBy past)
    (hHandling : Handling node) (input : SaveInput) :
    (step lib mapDir node input).task.BegunBy (past ++ [input]) := by
  cases hInput : input.isWork with
  | true =>
    cases input with
    | work w => exact (begunBy_onWork h hHandling w).mono _
    | _ => exact nomatch hInput
  | false =>
    obtain ⟨message, rfl, -, -, hStep⟩ | hKeeps :=
      @step_cases lib mapDir node _ hInput
    · rw [hStep]
      exact List.mem_append_right _ (List.mem_singleton_self _)
    · rw [hKeeps.task]
      exact h.mono input

theorem completes_ended (requestId : ℤ) (ending : SaveEnd) :
    (ended requestId ending).completes = none := by
  cases ending <;> rfl

/-- A save that completes after a step has just compared the sessions, or completed before. -/
theorem completes_onWork {node : MapSessionNode} (hHandling : Handling node) {w : Work}
    {sessionId : String} (h : (node.onWork lib mapDir w).task.completes = some sessionId) :
    (node.onWork lib mapDir w).model = node.model ∧
      (node.model.session.sessionId = sessionId ∨ node.task.completes = some sessionId) := by
  unfold onWork at h ⊢
  cases hTask : node.task with
  | free | raised | beginning | recording =>
    rw [hTask] at h
    try rw [hTask] at h
    exact nomatch h
  | received message =>
    rw [hTask] at h
    have hPending := hHandling.pending message.requestId (by rw [hTask]; rfl)
    dsimp only at h
    split at h
    · rename_i outcome hCached
      exact nomatch hPending.2.symm.trans hCached
    · split at h <;> exact nomatch h
  | checking message sessionId check =>
    rw [hTask] at h
    dsimp only at h
    split at h
    · exact nomatch h
    · split at h <;> exact nomatch h
  | preparing | checkingFiles | writing | validating =>
    rw [hTask] at h
    dsimp only at h
    split at h
    · exact nomatch h
    · exact nomatch (completes_ended _ _).symm.trans h
  | announcing | waitingForService | capturing =>
    rw [hTask] at h
    dsimp only at h
    split at h <;> exact nomatch h
  | serializing run =>
    rw [hTask] at h
    dsimp only at h
    split at h
    · exact nomatch h
    · exact nomatch h
    · split at h <;> exact nomatch h
  | comparing run =>
    rw [hTask] at h
    dsimp only at h ⊢
    split at h
    · exact nomatch h
    · rename_i hSame
      rw [if_neg hSame]
      exact ⟨rfl, .inl ((not_ne_iff.mp hSame).symm.trans (Option.some.inj h))⟩
  | publishing run =>
    rw [hTask] at h
    dsimp only at h ⊢
    cases hPublish : run.txn.publish lib node.files w.ops with
    | mk files result =>
      rw [hPublish] at h
      cases result with
      | error ending => exact nomatch (completes_ended _ _).symm.trans h
      | ok outcome =>
        obtain ⟨hState, -, hSession⟩ := publish_ok hPublish
        have hCompletes : some outcome.sessionId = some sessionId := (if_pos hState).symm.trans h
        exact ⟨rfl, .inr (by rw [← hCompletes, hSession]; rfl)⟩

theorem SessionStep.unsaved {node : MapSessionNode} {input : SaveInput} {session : MappingSession}
    (h : SessionStep node input session) (hInput : input.isWork = false) {sessionId : String}
    (hBefore : node.model.session.sessionId ≠ "" → node.model.session.sessionId ≠ sessionId →
      node.model.session.unsaved = true)
    (hSome : session.sessionId ≠ "") (hOther : session.sessionId ≠ sessionId) :
    session.unsaved = true := by
  cases h with
  | keeps => exact hBefore hSome hOther
  | ends => exact absurd rfl hSome
  | begins => rfl
  | saves _ _ hWork => exact nomatch hInput.symm.trans hWork

theorem Saving.init (files : FileSystem) : Saving [] { files } :=
  ⟨Handling.init files, trivial, fun _ h => nomatch h⟩

theorem Saving.step {past : List SaveInput} {node : MapSessionNode} (h : Saving past node)
    (input : SaveInput) : Saving (past ++ [input]) (step lib mapDir node input) where
  handling := h.handling.step input
  begun := begunBy_step h.begun h.handling input
  window sessionId hCompletes hSome hOther := by
    cases hInput : input.isWork with
    | true =>
      cases input with
      | work w =>
        obtain ⟨hModel, hSession⟩ := completes_onWork h.handling hCompletes
        change (node.onWork lib mapDir w).model.session.sessionId ≠ "" at hSome
        change (node.onWork lib mapDir w).model.session.sessionId ≠ sessionId at hOther
        change (node.onWork lib mapDir w).model.session.unsaved = true
        rw [hModel] at hSome hOther ⊢
        exact hSession.elim (fun hSame => absurd hSame hOther) fun hBefore =>
          h.window sessionId hBefore hSome hOther
      | _ => exact nomatch hInput
    | false =>
      obtain ⟨message, -, -, -, hStep⟩ | hKeeps :=
        @step_cases lib mapDir node _ hInput
      · rw [hStep] at hCompletes
        exact nomatch hCompletes
      · rw [hKeeps.task] at hCompletes
        exact (session_step node h.handling.running input).unsaved hInput
          (h.window sessionId hCompletes) hSome hOther

theorem run_append (node : MapSessionNode) (inputs later : List SaveInput) :
    MapSessionNode.run lib mapDir node (inputs ++ later) =
      MapSessionNode.run lib mapDir (MapSessionNode.run lib mapDir node inputs) later :=
  List.foldl_append

theorem Saving.run (lib : SaveLibrary) (mapDir : FilePath) (files : FileSystem)
    (inputs : List SaveInput) : Saving inputs (run lib mapDir { files } inputs) := by
  induction inputs using List.reverseRecOn with
  | nil => exact Saving.init files
  | append_singleton inputs input ih =>
    rw [run_append]
    exact ih.step input

/-! ## When every session is saved by its own save -/

/-- The step records a successful outcome, and a request has asked for a save of the session that
it marks. -/
def OwnOutcome (past : List SaveInput) (node next : MapSessionNode) : Prop :=
  ∃ requestId outcome, node.task = .recording requestId outcome ∧ outcome.state = .succeeded ∧
    outcome.sessionId = next.model.session.sessionId ∧
    outcome.name = next.model.session.savedName ∧
    outcome.revision = next.model.session.savedRevision ∧
    ∃ message, .request message ∈ past ∧ message.requestId = requestId ∧
      message.sessionId = next.model.session.sessionId

/-- The outcome of a published map is about to be recorded while another mapping session runs. -/
def Replaced (node : MapSessionNode) : Prop :=
  ∃ requestId outcome, node.task = .recording requestId outcome ∧ outcome.state = .succeeded ∧
    node.model.session.sessionId ≠ "" ∧ node.model.session.sessionId ≠ outcome.sessionId

theorem Saving.ownOutcome {past : List SaveInput} {node next : MapSessionNode}
    {requestId : ℤ} {outcome : SaveOutcome} (h : Saving past node)
    (hTask : node.task = .recording requestId outcome) (hState : outcome.state = .succeeded)
    (hNext : next.model.session = { node.model.session with
      unsaved := false, savedName := outcome.name, savedRevision := outcome.revision
      phase := .saved })
    (hSame : node.model.session.sessionId = outcome.sessionId) : OwnOutcome past node next := by
  have hBegun := h.begun
  rw [hTask] at hBegun
  obtain ⟨message, hMessage, hId, hSession⟩ := hBegun hState
  refine ⟨requestId, outcome, hTask, hState, ?_, ?_, ?_, message, hMessage, hId, ?_⟩
  · rw [hNext]
    exact hSame.symm
  · rw [hNext]
  · rw [hNext]
  · rw [hNext]
    exact hSession.trans hSame.symm

/-- In a run every session that becomes saved does so through a successful outcome of a save that
was begun for it, exactly if no outcome of a published map is recorded while a session other than
that of its save runs. `Saving` keeps what the task knows of its session; only the step that
records an outcome marks a session as saved (`session_step`). -/
theorem saved_by_own_outcome_iff (lib : SaveLibrary) (mapDir : FilePath) (files : FileSystem)
    (inputs : List SaveInput) :
    (∀ past input, past ++ [input] <+: inputs →
      (run lib mapDir { files } past).model.session.BecomesSaved
        (run lib mapDir { files } (past ++ [input])).model.session →
      OwnOutcome past (run lib mapDir { files } past)
        (run lib mapDir { files } (past ++ [input]))) ↔
    ∀ past w, past ++ [.work w] <+: inputs → ¬ Replaced (run lib mapDir { files } past) := by
  have hStep : ∀ past input, run lib mapDir { files } (past ++ [input]) =
      step lib mapDir (run lib mapDir { files } past) input := fun past input =>
    run_append { files } past [input]
  refine ⟨fun hOwn past w hPrefix hReplaced => ?_, fun hCalm past input hPrefix hSaved => ?_⟩
  · obtain ⟨requestId, outcome, hTask, hState, hSome, hOther⟩ := hReplaced
    have hSaving := Saving.run lib mapDir files past
    have hNext : (run lib mapDir { files } (past ++ [.work w])).model.session =
        { (run lib mapDir { files } past).model.session with
          unsaved := false, savedName := outcome.name, savedRevision := outcome.revision
          phase := .saved } := by
      rw [hStep]
      unfold step onWork
      rw [hTask]
      exact MapSessionModel.recordSave_succeeded _ _ hState
    have hUnsaved := hSaving.window outcome.sessionId (by rw [hTask]; exact if_pos hState) hSome
      hOther
    have hMarks : (run lib mapDir { files } past).model.session.BecomesSaved
        (run lib mapDir { files } (past ++ [.work w])).model.session := by
      rw [hNext]
      refine ⟨?_, .inl ⟨rfl, .inl hUnsaved⟩⟩
      exact (Bool.and_eq_true _ _).mpr ⟨decide_eq_true hSome, rfl⟩
    obtain ⟨otherId, other, hOtherTask, -, hSession, -⟩ := hOwn past _ hPrefix hMarks
    obtain ⟨rfl, rfl⟩ := SaveTask.recording.inj (hTask.symm.trans hOtherTask)
    rw [hNext] at hSession
    exact hOther hSession.symm
  · have hSaving := Saving.run lib mapDir files past
    rw [hStep] at hSaved ⊢
    obtain ⟨requestId, outcome, hWork, hTask, hState, hNext⟩ :=
      (session_step _ hSaving.handling.running input).becomesSaved hSaved
    refine hSaving.ownOutcome hTask hState hNext (not_not.mp fun hOther => ?_)
    cases input with
    | work w =>
      have hActive := hSaved.1
      rw [hNext] at hActive
      have hSome := of_decide_eq_true ((Bool.and_eq_true _ _).mp hActive).1
      exact hCalm past w hPrefix ⟨requestId, outcome, hTask, hState, hSome, hOther⟩
    | _ => exact nomatch hWork

/-! ### A session that begins while the map of another one is published -/

def garageYaml : String :=
  "image: occupancy.pgm\nmode: trinary\nresolution: 0.062500\n" ++
    "origin: [0.000000, 0.000000, 0.000000]\nnegate: 0\noccupied_thresh: 0.65\nfree_thresh: 0.196\n"

def garagePgm : Bytes := [80, 53, 10, 50, 32, 50, 10, 50, 53, 53, 10, 0, 205, 254, 254]

/-- What YAML reads in `garageYaml`. -/
def garageDocument : PyDict :=
  [ ("image", .str "occupancy.pgm"), ("mode", .str "trinary"),
    ("resolution", .float (.finite (1 / 16))),
    ("origin", .list [.float (.finite 0), .float (.finite 0), .float (.finite 0)]),
    ("negate", .int 0),
    ("occupied_thresh", .float (.finite (5854679515581645 / 9007199254740992))),
    ("free_thresh", .float (.finite (3530822107858469 / 18014398509481984))) ]

/-- YAML reads the text of `garageYaml` and nothing else. -/
def garageLoad (text : List Char) : Except YamlError PyValue :=
  if text = universalNewlines garageYaml.toList then .ok (.dict garageDocument)
    else .error .yamlError

/-- The SHA-256 digests of the four files, and that of their digests. -/
def garageDigest (data : Bytes) : String :=
  if data = garageYaml.toUTF8.toList then
    "d022531a32c001c1dd50da50e8cc9cf40522e95914925062e8c16896fc260061"
  else if data = garagePgm then
    "58f150592a1905323c6bfa8e1d2859ee264a56b6a2a7e60da3ae253296e21805"
  else if data = [1] then "4bf5122f344554c53bde2ebb8cd2b7e3d1600ad631c385a5d7cce23c7785459a"
  else if data = [2] then "dbc1b4c900ffe48d575b5da5c638040125f65db0fe3e24494b76ea986457d986"
  else "6b81559af902369b6150fd08441fbcdaae1f7a6ef2d3f8a2a028bde26295a2e0"

def garageManifest : String :=
  "\x7b\n  \"artifacts\": \x7b\n" ++
    "    \"map.yaml\": \"d022531a32c001c1dd50da50e8cc9cf40522e95914925062e8c16896fc260061\",\n" ++
    "    \"occupancy.pgm\": " ++
    "\"58f150592a1905323c6bfa8e1d2859ee264a56b6a2a7e60da3ae253296e21805\",\n" ++
    "    \"posegraph.data\": " ++
    "\"dbc1b4c900ffe48d575b5da5c638040125f65db0fe3e24494b76ea986457d986\",\n" ++
    "    \"posegraph.posegraph\": " ++
    "\"4bf5122f344554c53bde2ebb8cd2b7e3d1600ad631c385a5d7cce23c7785459a\"\n  \x7d,\n" ++
    "  \"created\": 1700000000.0,\n  \"created_iso\": \"2023-11-14T22:13:20Z\",\n" ++
    "  \"name\": \"garage\",\n  \"revision\": \"6b81559af902\",\n  \"session_id\": \"first\",\n" ++
    "  \"version\": 1\n\x7d"

/-- The libraries on what the save of this map asks them. -/
def garageLibrary : SaveLibrary where
  catalog := {
    safeLoad := garageLoad
    frames := 900
    dumps _ := garageManifest.toUTF8.toList
    sha256 := garageDigest
    str _ := ""
    intOfBytes token :=
      if token = [50] then some 2 else if token = [50, 53, 53] then some 255 else none
    createdIso _ := .ok "2023-11-14T22:13:20Z" }
  format6 value := if value = .finite 0 then "0.000000" else "0.062500"
  yaw _ _ := .finite 0

theorem lawfulBEq_filePath : LawfulBEq FilePath := inferInstance

attribute [local instance] lawfulBEq_filePath

/-- What the serialization leaves in the staging area. -/
def serializedGarage : FileSystem where
  file path :=
    if path = ["maps", stagingDirname, "garage", posegraphPosegraphName] then some [1]
    else if path = ["maps", stagingDirname, "garage", posegraphDataName] then some [2]
    else none
  isDir path := path ∈ [["maps", stagingDirname], ["maps", stagingDirname, "garage"]]

/-- The grid that is saved, as it is heard. -/
def garagePoll : Poll where
  now := 10
  last := some ({
    width := 2, height := 2, resolution := .finite (1 / 16), positionX := .finite 0
    positionY := .finite 0, orientationZ := .finite 0, orientationW := .finite 1
    data := [0, 0, 100, -1] }, 10)

/-- A step in which everything goes well. -/
def garageWork : Work where
  now := 10
  ops := { raises := false, left := serializedGarage }
  look := emptyLook
  serviceReady := true
  answer := some (.ok (some 0))
  polls := [garagePoll]
  lastPoll := garagePoll
  created := .float (.finite 1700000000)

/-- The raster has been written, and the staged bundle is validated next. -/
def garageStaged : MapSessionNode :=
  run garageLibrary ["maps"] { files := emptyMaps }
    (garageInputs.take 5 ++ List.replicate 16 (.work garageWork))

def garageRun : SaveRun where
  requestId := 1
  txn := {
    mapDir := ["maps"], name := "garage", sessionId := "first"
    created := .float (.finite 1700000000) }

/-- The task validates the map of `garageRun`. -/
def validatesGarage : SaveTask → Bool
  | .validating { requestId, txn := { mapDir, name, sessionId, created := .float created } } =>
    requestId = 1 && mapDir = ["maps"] && name = "garage" && sessionId = "first" &&
      created = .finite 1700000000
  | _ => false

/-- The second session is observed after the first one has been compared. -/
def replacement : SaveInput :=
  .modeState {
    mode := 1, status := 0, ready := true, mappingSessionId := "second", runtimeEpoch := 2 } 11

theorem garageStaged_task : garageStaged.task = .validating garageRun := by
  have hTask : validatesGarage garageStaged.task = true := by decide +kernel
  unfold validatesGarage at hTask
  split at hTask
  · rename_i hValidating
    simp only [Bool.and_eq_true, decide_eq_true_eq] at hTask
    obtain ⟨⟨⟨⟨rfl, rfl⟩, rfl⟩, rfl⟩, rfl⟩ := hTask
    exact hValidating
  · exact nomatch hTask

/-- The directory that the save stages. -/
def garageStaging : FilePath := ["maps", stagingDirname] ++ ["garage"]

/-- A bundle with all core files, a raster of its own that is well formed, and no manifest. -/
theorem validateBundle_fresh {lib : BundleLibrary} {fs : FileSystem} {root base : FilePath}
    {name : String} {yaml pgm : Bytes} {resolution : PyFloat} {width height maxval : ℤ}
    (hName : mapDirectory root name = .ok base) (hDir : fs.isDir base = true)
    (hFiles : ∀ filename ∈ coreFilenames, fs.isNonempty (base ++ [filename]) = true)
    (hYaml : fs.file (base ++ [mapYamlName]) = some yaml)
    (hParsed : parseMapYaml lib yaml = .ok (occupancyName, resolution))
    (hPgm : fs.file (base ++ [occupancyName]) = some pgm)
    (hHeader : readPgmHeader lib pgm = .ok (width, height, maxval))
    (hSize : 0 < width ∧ 0 < height) (hMaxval : 0 < maxval ∧ maxval ≤ 255)
    (hNone : fs.file (base ++ [manifestName]) = none) :
    ∃ info, validateBundle lib fs root name = .ok info ∧ info.width = width ∧
      info.height = height := by
  have hManifest : readManifest lib fs base = none := by
    unfold readManifest
    rw [hNone]
    rfl
  unfold validateBundle
  rw [hName]
  simp only [bind, Except.bind]
  rw [hDir, hFiles _ (by decide), hFiles _ (by decide), hFiles _ (by decide), hYaml,
    Option.getD_some, hParsed]
  simp only [Bool.not_true, Bool.false_eq_true, if_false]
  rw [resolveImagePath_occupancyName, hFiles _ (by decide), hPgm, Option.getD_some, hHeader]
  simp only [Bool.not_true, Bool.false_eq_true, if_false]
  rw [if_neg (by omega), if_neg (not_not_intro hMaxval), hManifest]
  exact ⟨_, rfl, rfl, rfl⟩

/-- A staged bundle that is valid goes on to the comparison of the sessions. -/
theorem onWork_validating {node : MapSessionNode} {run : SaveRun} {w : Work} {info : BundleInfo}
    (hTask : node.task = .validating run)
    (hValid : run.txn.validate lib node.files w.ops = .ok info) :
    node.onWork lib mapDir w = { node with task := .comparing run } := by
  unfold onWork
  rw [hTask]
  dsimp only
  rw [hValid]

theorem garageStaged_validates :
    ∃ info, validateBundle garageLibrary.bundle garageStaged.files ["maps", stagingDirname]
      "garage" = .ok info ∧ info.width = 2 ∧ info.height = 2 := by
  have hName : mapDirectory ["maps", stagingDirname] "garage" = .ok garageStaging := by
    decide +kernel
  obtain ⟨hDir, hFiles, hYaml, hPgm, hNone⟩ :
      garageStaged.files.isDir garageStaging = true ∧
      (∀ filename ∈ coreFilenames,
        garageStaged.files.isNonempty (garageStaging ++ [filename]) = true) ∧
      garageStaged.files.file (garageStaging ++ [mapYamlName]) =
        some garageYaml.toUTF8.toList ∧
      garageStaged.files.file (garageStaging ++ [occupancyName]) = some garagePgm ∧
      garageStaged.files.file (garageStaging ++ [manifestName]) = none := by
    decide +kernel
  have hYamlText : garageLibrary.bundle.yaml garageYaml.toUTF8.toList =
      .ok (some (.dict garageDocument)) := by
    have hLoad : garageLibrary.catalog.safeLoad = garageLoad := rfl
    refine CatalogLibrary.bundle_yaml_ok ?_
    rw [CatalogLibrary.readYaml_toUTF8, hLoad, garageLoad, if_pos rfl]
  have hParsed : parseMapYaml garageLibrary.bundle garageYaml.toUTF8.toList =
      .ok (occupancyName, .finite (1 / 16)) := by
    unfold parseMapYaml
    rw [hYamlText]
    decide +kernel
  have hHeader : readPgmHeader garageLibrary.bundle garagePgm = .ok (2, 2, 255) := by
    decide +kernel
  exact validateBundle_fresh hName hDir hFiles hYaml hParsed hPgm hHeader (by decide) (by decide)
    hNone

/-- The save compares the sessions, the second session is observed, and the map is published. -/
def garagePast : List SaveInput :=
  garageInputs.take 5 ++ List.replicate 16 (.work garageWork) ++
    [.work garageWork, .work garageWork, replacement, .work garageWork]

/-- The node after these inputs, past the validation. -/
def garagePublished : MapSessionNode :=
  run garageLibrary ["maps"] { garageStaged with task := .comparing garageRun }
    [.work garageWork, replacement, .work garageWork]

theorem run_garagePast :
    run garageLibrary ["maps"] { files := emptyMaps } garagePast = garagePublished := by
  have hStaged : run garageLibrary ["maps"] { files := emptyMaps } garagePast =
      run garageLibrary ["maps"] (garageStaged.step garageLibrary ["maps"] (.work garageWork))
        [.work garageWork, replacement, .work garageWork] := run_append _ _ _
  have hValidated : garageStaged.step garageLibrary ["maps"] (.work garageWork) =
      { garageStaged with task := .comparing garageRun } := by
    obtain ⟨info, hInfo, hWidth, hHeight⟩ := garageStaged_validates
    exact onWork_validating garageStaged_task
      (MapSaveTransaction.validate_ok rfl hInfo (by omega) (by omega))
  rw [hStaged, hValidated]
  rfl

/-- The second session becomes saved with the map of the first one. -/
theorem replaced_session_saved :
    ¬ ∀ (lib : SaveLibrary) (mapDir : FilePath) (files : FileSystem) (inputs : List SaveInput)
      (past : List SaveInput) (input : SaveInput), past ++ [input] <+: inputs →
      (run lib mapDir { files } past).model.session.BecomesSaved
        (run lib mapDir { files } (past ++ [input])).model.session →
      OwnOutcome past (run lib mapDir { files } past)
        (run lib mapDir { files } (past ++ [input])) := by
  intro hAll
  have hNext : run garageLibrary ["maps"] { files := emptyMaps }
      (garagePast ++ [.work garageWork]) =
        garagePublished.step garageLibrary ["maps"] (.work garageWork) := by
    rw [← run_garagePast]
    exact run_append _ garagePast [.work garageWork]
  have hOwn := hAll garageLibrary ["maps"] emptyMaps _ garagePast (.work garageWork)
    (List.prefix_refl _)
  rw [hNext, run_garagePast] at hOwn
  obtain ⟨hBecomes, hFirst, hSecond⟩ :
      garagePublished.model.session.BecomesSaved
        (garagePublished.step garageLibrary ["maps"] (.work garageWork)).model.session ∧
      (match garagePublished.task with
      | .recording _ outcome => decide (outcome.sessionId = "first")
      | _ => false) = true ∧
      (garagePublished.step garageLibrary ["maps"]
        (.work garageWork)).model.session.sessionId = "second" := by
    unfold MappingSession.BecomesSaved
    decide +kernel
  obtain ⟨requestId, outcome, hTask, -, hSession, -⟩ := hOwn hBecomes
  rw [hTask] at hFirst
  rw [hSecond, of_decide_eq_true hFirst] at hSession
  exact absurd hSession (by decide)

end MapSessionNode

end PreRunner.Paddock
