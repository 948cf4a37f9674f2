import PreRunner.Runs.Emission
import PreRunner.Paddock.MapExecutor
import PreRunner.Paddock.TransitionSteps

/-!
# The maps in use

The map executor and the mode supervisor share the directory of maps; of the runtime the executor
knows what the mode states have told it. A DELETE is checked against the selection and the map it
has heard of, so a map can be deleted while a transition to AUTONOMY uses it. No map in use is
deleted exactly when no check of a DELETE passes for one, and none comes into use between such a
check and its rename (`maps_in_use_kept_iff`).
-/

namespace PreRunner.Paddock

open Maps Runs

/-! ## What the supervisor uses -/

namespace ModeSupervisor

/-- A running transition to AUTONOMY, or the AUTONOMY runtime, uses this map. -/
def Uses (node : ModeSupervisor) (mapId : String) : Prop :=
  (node.point.isRunning = true ∧ node.run.requested = .autonomy ∧ node.run.autonomyMap = mapId) ∨
    (node.runtime.mode = .autonomy ∧ node.runtime.activeAutonomyMap = mapId)

/-- The map has been validated, and the unit is started and may read it. -/
def Reads (node : ModeSupervisor) : Prop :=
  (node.point = .starting ∨ node.point = .waiting ∨ node.point = .confirming) ∧
    node.run.requested = .autonomy

/-- The request begins a transition to AUTONOMY. -/
def startsAutonomy (node : ModeSupervisor) (message : ModeRequest) : Bool :=
  node.point = .free && node.leaseActive && message.leaseId = node.leaseId &&
    CommandAuthority.modeOf message.requestedMode = some .autonomy &&
    message.operation ≠ opNewMap && node.runtime.acceptedRequestId < message.requestId &&
    message.autonomyMap ≠ "" &&
    !(node.runtime.lifecycle = .stable && node.runtime.mode = .autonomy &&
      message.autonomyMap = node.runtime.activeAutonomyMap)

variable {node : ModeSupervisor} {message : ModeRequest} {input : ModeInput} {mapId : String}

/-- In the barrier of a NEW MAP the state before the request has the mode of the runtime. -/
def Coherent (node : ModeSupervisor) : Prop :=
  ∀ previous, node.point = .quiescing previous → previous.mode = node.runtime.mode

theorem startsAutonomy_iff : node.startsAutonomy message = true ↔
    node.point = .free ∧ node.leaseActive = true ∧ message.leaseId = node.leaseId ∧
      CommandAuthority.modeOf message.requestedMode = some .autonomy ∧
      message.operation ≠ opNewMap ∧ node.runtime.acceptedRequestId < message.requestId ∧
      message.autonomyMap ≠ "" ∧
      ¬ (node.runtime.lifecycle = .stable ∧ node.runtime.mode = .autonomy ∧
        message.autonomyMap = node.runtime.activeAutonomyMap) := by
  simp only [startsAutonomy, Bool.and_eq_true, decide_eq_true_eq, Bool.not_eq_true',
    Bool.and_eq_false_iff, decide_eq_false_iff_not, and_assoc, not_and_or, or_assoc, ne_eq]

/-- A request for AUTONOMY that a free supervisor takes to `transition`. -/
theorem onRequest_autonomy (hLease : node.leaseActive = true)
    (hOwner : message.leaseId = node.leaseId)
    (hMode : CommandAuthority.modeOf message.requestedMode = some .autonomy)
    (hOperation : message.operation ≠ opNewMap) :
    node.onRequest message =
      node.transition .autonomy message.requestId message.autonomyMap message.operation := by
  unfold onRequest
  rw [hLease, hOwner, hMode]
  dsimp only
  rw [if_neg (by simp), if_neg fun h => hOperation h.1]

theorem step_startsAutonomy (h : node.startsAutonomy message = true) :
    (node.step (.request message)).1.Uses message.autonomyMap := by
  obtain ⟨hFree, hLease, hOwner, hMode, hOperation, hId, hMap, hNew⟩ := startsAutonomy_iff.mp h
  change (if node.point = .free then node.onRequest message else (node, [])).1.Uses _
  rw [if_pos hFree, onRequest_autonomy hLease hOwner hMode hOperation]
  unfold transition
  simp only [hOperation, decide_false, Bool.false_and, Bool.not_false, Bool.true_and]
  rw [if_neg (not_le.mpr hId), if_neg fun hEmpty => hMap hEmpty.2, if_neg Bool.false_ne_true]
  rw [if_neg fun hSame => ?_]
  · exact .inl ⟨rfl, rfl, rfl⟩
  · simp only [Bool.and_eq_true, Bool.or_eq_true, decide_eq_true_eq, ne_eq, not_true_eq_false,
      false_or] at hSame
    exact hNew ⟨hSame.1.1, hSame.1.2.symm, hSame.2⟩

theorem startsAutonomy_of_begins (hFree : node.point = .free)
    (hMode : CommandAuthority.modeOf message.requestedMode = some .autonomy)
    (hRunning : (node.onRequest message).1.point.isRunning = true) :
    node.startsAutonomy message = true := by
  have hIdle : node.point.isRunning ≠ true := by
    rw [hFree]
    exact Bool.false_ne_true
  unfold onRequest at hRunning
  split at hRunning
  · exact absurd hRunning hIdle
  · rename_i hLease
    rw [hMode] at hRunning
    dsimp only at hRunning
    split at hRunning
    · exact absurd hRunning hIdle
    · rename_i hOperation
      unfold transition at hRunning
      dsimp only at hRunning
      split at hRunning
      · exact absurd hRunning hIdle
      · rename_i hId
        split at hRunning
        · exact absurd hRunning hIdle
        · rename_i hMap
          split at hRunning
          · exact absurd hRunning hIdle
          · split at hRunning
            · exact absurd hRunning hIdle
            · rename_i hNew
              have hOther : message.operation ≠ opNewMap := fun h => hOperation ⟨h, nofun⟩
              simp only [not_or, Bool.not_eq_true', Bool.not_eq_false, not_not] at hLease
              refine startsAutonomy_iff.mpr ⟨hFree, hLease.1, hLease.2, hMode, hOther,
                not_le.mp hId, fun hEmpty => hMap ⟨rfl, hEmpty⟩, fun ⟨hStable, hIs, hSame⟩ => ?_⟩
              simp [hOther, hStable, hIs, hSame] at hNew

theorem Coherent.step (h : node.Coherent) (input : ModeInput) : (node.step input).1.Coherent := by
  intro previous hPoint
  cases node.moves input with
  | stays hSamePoint hRun hSame =>
    exact (h previous (hSamePoint.symm.trans hPoint)).trans hSame.mode.symm
  | begins message hInput hFree hBegins hRequested hTarget hSame =>
    rcases hBegins with hBegins | ⟨hBegins, -⟩
    · cases hPoint.symm.trans hBegins
    · cases hPoint.symm.trans hBegins
      exact hSame.mode.symm
  | goes hLeads =>
    rw [hPoint] at hLeads
    cases hLeads
  | publishes answers token hInput hConfirming hNext => cases hPoint.symm.trans hNext
  | ends hEnds => rcases hEnds with hEnds | hEnds <;> cases hPoint.symm.trans hEnds

theorem Leads.isRunning {next : Point} (h : Leads node input next) :
    node.point.isRunning = true := by
  cases h with
  | failed detail hPoint => exact hPoint
  | quiesced answers hPoint | toPreparing hPoint | toStarting hPoint | prepared hPoint
  | started hPoint | ready hPoint => rw [hPoint]; rfl

/-- The runtime uses the same map as before. -/
theorem SameMode.uses {next : ModeSupervisor} (h : SameMode node next)
    (hMode : next.runtime.mode = .autonomy) (hMap : next.runtime.activeAutonomyMap = mapId) :
    node.Uses mapId :=
  .inr ⟨h.mode.symm.trans hMode, h.activeMap.symm.trans hMap⟩

theorem uses_target (hRunning : node.point.isRunning = true) {run : TransitionRun}
    (hRun : run = node.run) (hRequested : run.requested = .autonomy)
    (hTarget : run.autonomyMap = mapId) : node.Uses mapId := by
  subst hRun
  exact .inl ⟨hRunning, hRequested, hTarget⟩

/-- A map comes into use only by a request that begins a transition to AUTONOMY. -/
theorem uses_step (hCoherent : node.Coherent) (h : (node.step input).1.Uses mapId) :
    node.Uses mapId ∨
      ∃ message, input = .request message ∧ node.startsAutonomy message = true ∧
        message.autonomyMap = mapId := by
  cases node.moves input with
  | stays hPoint hRun hSame =>
    rcases h with ⟨hRunning, hRequested, hTarget⟩ | ⟨hMode, hMap⟩
    · exact .inl (uses_target (hPoint ▸ hRunning) hRun hRequested hTarget)
    · exact .inl (hSame.uses hMode hMap)
  | begins message hInput hFree hPoint hRequested hTarget hSame =>
    rcases h with ⟨hRunning, hAutonomy, hMapId⟩ | ⟨hMode, hMap⟩
    · subst hInput
      have hStep : node.step (.request message) = node.onRequest message := if_pos hFree
      rw [hStep] at hRunning hRequested hAutonomy hTarget hMapId
      exact .inr ⟨message, rfl,
        startsAutonomy_of_begins hFree (hRequested.trans (congrArg some hAutonomy)) hRunning,
        hTarget.symm.trans hMapId⟩
    · exact .inl (hSame.uses hMode hMap)
  | goes hLeads hRun hSame =>
    rcases h with ⟨hRunning, hRequested, hTarget⟩ | ⟨hMode, hMap⟩
    · exact .inl (uses_target hLeads.isRunning hRun hRequested hTarget)
    · exact .inl (hSame.uses hMode hMap)
  | publishes answers token hInput hPoint hNext hPublished hActive =>
    rcases h with ⟨hRunning, -⟩ | ⟨hMode, hMap⟩
    · rw [hNext] at hRunning
      cases hRunning
    · have hRequested := hPublished.symm.trans hMode
      rw [if_pos hRequested] at hActive
      exact .inl (uses_target (by rw [hPoint]; rfl) rfl hRequested (hActive.symm.trans hMap))
  | ends hPoint hEnds hActive =>
    rcases h with ⟨hRunning, -⟩ | ⟨hMode, hMap⟩
    · rcases hPoint with hPoint | hPoint <;> rw [hPoint] at hRunning <;> cases hRunning
    · rcases hEnds with hSame | hIdle | ⟨previous, hQuiescing, hSame⟩
      · exact .inl (SameMode.uses ⟨hSame, hActive⟩ hMode hMap)
      · cases hIdle.symm.trans hMode
      · exact .inl (SameMode.uses ⟨hSame.trans (hCoherent previous hQuiescing), hActive⟩ hMode hMap)

/-- The unit is started after a validation, and reads the map of this transition. -/
theorem reads_step (h : (node.step input).1.Reads) :
    (node.step input).1.run = node.run ∧
      (node.Reads ∨ node.point = .preparing ∧ input = .done (.ok ())) := by
  obtain ⟨hPoint, hRequested⟩ := h
  cases node.moves input with
  | stays hSamePoint hRun =>
    rw [hSamePoint] at hPoint
    rw [hRun] at hRequested
    exact ⟨hRun, .inl ⟨hPoint, hRequested⟩⟩
  | begins message hInput hFree hBegins =>
    rcases hBegins with hBegins | ⟨hBegins, -⟩ <;> rw [hBegins] at hPoint <;>
      rcases hPoint with hPoint | hPoint | hPoint <;> cases hPoint
  | goes hLeads hRun =>
    rw [hRun] at hRequested
    refine ⟨hRun, ?_⟩
    generalize (node.step input).1.point = next at hPoint hLeads
    cases hLeads with
    | quiesced | toPreparing | failed =>
      rcases hPoint with hPoint | hPoint | hPoint <;> cases hPoint
    | toStarting hStopping hMapping => cases hMapping.symm.trans hRequested
    | prepared hPreparing => exact .inr ⟨hPreparing, rfl⟩
    | started hStarting => exact .inl ⟨.inl hStarting, hRequested⟩
    | ready hWaiting => exact .inl ⟨.inr (.inl hWaiting), hRequested⟩
  | publishes answers token hInput hConfirming hNext =>
    rw [hNext] at hPoint
    rcases hPoint with hPoint | hPoint | hPoint <;> cases hPoint
  | ends hEnds =>
    rcases hEnds with hEnds | hEnds <;> rw [hEnds] at hPoint <;>
      rcases hPoint with hPoint | hPoint | hPoint <;> cases hPoint

theorem Reads.uses (h : node.Reads) : node.Uses node.run.autonomyMap := by
  refine .inl ⟨?_, h.2, rfl⟩
  rcases h.1 with hPoint | hPoint | hPoint <;> rw [hPoint] <;> rfl

end ModeSupervisor

/-! ## The composition -/

/-- Both nodes, the files, and the mode states on their way to the executor, oldest first. -/
structure MapLink where
  supervisor : ModeSupervisor
  executor : MapExecutor
  fs : FileSystem
  modeStates : List RuntimeState

/-- The steps of the composition. -/
inductive MapLinkInput where
  | supervisor (input : ModeInput)
  | executor (input : MapInput) (own : input.isModeState = false)
  /-- The oldest mode state arrives. -/
  | modeArrives
  /-- A mode state gives way to a later one. -/
  | modeDropped (index : ℕ)

namespace MapLink

variable (lib : BundleLibrary) (text : MapError → String) (mapDir : FilePath)

/-- The preparation of the autonomy unit ends well only if the map validates. -/
def validated (link : MapLink) : ModeInput → ModeInput
  | .done (.ok ()) =>
    if link.supervisor.point = .preparing then
      match validateBundle lib link.fs mapDir link.supervisor.run.autonomyMap with
      | .ok _ => .done (.ok ())
      | .error error => .done (.error (text error))
    else .done (.ok ())
  | input => input

/-- One step. -/
def step (link : MapLink) : MapLinkInput → MapLink
  | .supervisor input =>
    let (supervisor, published) := link.supervisor.step (link.validated lib text mapDir input)
    { link with supervisor, modeStates := link.modeStates ++ published }
  | .executor input _ =>
    let (executor, fs) := link.executor.step lib mapDir link.fs input
    { link with executor, fs }
  | .modeArrives =>
    match link.modeStates with
    | [] => link
    | state :: modeStates =>
      { link with executor := link.executor.onModeState state.message, modeStates }
  | .modeDropped index => { link with modeStates := link.modeStates.eraseIdx index }

/-- The nodes after their constructors. -/
def start (runtime : RuntimeState) (now : ℚ) (applied : String) (fs : FileSystem)
    (modeStates : List RuntimeState) : MapLink :=
  { supervisor := .start runtime now, executor := .start applied, fs, modeStates }

/-! ## The property and the condition -/

/-- Whatever happens next, no directory of a map in use goes away. -/
def Keeps (link : MapLink) : Prop :=
  ∀ input mapId, link.fs.isDir (mapDir ++ [mapId]) = true →
    (link.step lib text mapDir input).fs.isDir (mapDir ++ [mapId]) = false →
    ¬ link.supervisor.Uses mapId

/-- The map that the started unit reads is complete, if its raster lies in its own directory. -/
def Complete (link : MapLink) : Prop :=
  link.supervisor.Reads →
    RasterInside lib link.fs (mapDir ++ [link.supervisor.run.autonomyMap]) →
    ∃ info, validateBundle lib link.fs mapDir link.supervisor.run.autonomyMap = .ok info

/-- No check of a DELETE passes for a map in use, and no transition to AUTONOMY begins with the map
of a DELETE that has passed its check. -/
def Timely (link : MapLink) : MapLinkInput → Prop
  | .supervisor (.request message) => ∀ requestId,
      link.executor.task = .removing requestId message.autonomyMap →
      link.supervisor.startsAutonomy message = false
  | .executor .check _ => ∀ requestId mapId info,
      link.executor.task = .deleting requestId mapId →
      validateDeleteCandidate lib link.fs mapDir mapId link.executor.selectedApplied
        link.executor.activeAutonomyMap = .ok info →
      ¬ link.supervisor.Uses mapId
  | _ => True

/-! ## The executor -/

/-- What a step of the executor does to the files and to its task. -/
inductive ExecutorCase (node : MapExecutor) (fs : FileSystem) (input : MapInput) :
    MapExecutor × FileSystem → Prop
  | quiet {next : MapExecutor}
      (hTask : ∀ requestId mapId, next.task = .removing requestId mapId →
        node.task = .removing requestId mapId) :
      ExecutorCase node fs input (next, fs)
  | passes {next : MapExecutor} {requestId : ℤ} {mapId : String} {info : BundleInfo}
      (hInput : input = .check) (hTask : node.task = .deleting requestId mapId)
      (hPasses : validateDeleteCandidate lib fs mapDir mapId node.selectedApplied
        node.activeAutonomyMap = .ok info) (hNext : next.task = .removing requestId mapId) :
      ExecutorCase node fs input (next, fs)
  | removes {next : MapExecutor} {requestId : ℤ} {mapId : String} {info : BundleInfo}
      (hInput : input = .finish true) (hTask : node.task = .removing requestId mapId)
      (hValid : validateBundle lib fs mapDir mapId = .ok info) (hNext : next.task = .free) :
      ExecutorCase node fs input (next, fs.remove (mapDir ++ [mapId]))
  | publishes {next : MapExecutor} {mapId : String} {content : FilePath → Option Bytes}
      (hTask : node.task = .saving mapId) (hName : safeBasename mapId = .ok mapId)
      (hFree : fs.isDir (mapDir ++ [mapId]) = false) (hNext : next.task = .free) :
      ExecutorCase node fs input (next, fs.place (mapDir ++ [mapId]) content)

theorem onMapRequest_case (node : MapExecutor) (fs : FileSystem) (message : MapRequest) :
    ExecutorCase lib mapDir node fs (.request message) (node.onMapRequest message, fs) := by
  refine .quiet fun requestId mapId h => ?_
  have hReject (reason : MapRejection) :
      (node.recordSelectRejection message reason).task = node.task := by
    unfold MapExecutor.recordSelectRejection
    split <;> rfl
  unfold MapExecutor.onMapRequest at h
  split at h
  · exact (hReject _).symm.trans h
  · split at h
    · exact (hReject _).symm.trans h
    · dsimp only at h
      split at h
      · cases h
      · split at h
        · cases h
        · split at h
          · cases h
          · exact h

theorem onCheck_case (node : MapExecutor) (fs : FileSystem) :
    ExecutorCase lib mapDir node fs .check (node.onCheck lib mapDir fs, fs) := by
  unfold MapExecutor.onCheck
  split
  · split
    · exact .quiet fun requestId mapId h => (by cases h)
    · exact .quiet fun requestId mapId h => (by cases h)
  · rename_i requestId name hTask
    split
    · rename_i info hPasses
      exact .passes rfl hTask hPasses rfl
    · exact .quiet fun requestId mapId h => (by cases h)
  · exact .quiet fun requestId mapId h => h

theorem onFinish_case (node : MapExecutor) (fs : FileSystem) (succeeds : Bool) :
    ExecutorCase lib mapDir node fs (.finish succeeds) (node.onFinish lib mapDir fs succeeds) := by
  unfold MapExecutor.onFinish
  split
  · split
    · exact .quiet fun requestId mapId h => (by cases h)
    · exact .quiet fun requestId mapId h => (by cases h)
  · rename_i requestId name hTask
    unfold deleteBundle
    cases hValid : validateBundle lib fs mapDir name with
    | error error => exact .quiet fun requestId mapId h => (by cases h)
    | ok info =>
      cases succeeds with
      | true => exact .removes rfl hTask hValid rfl
      | false => exact .quiet fun requestId mapId h => (by cases h)
  · exact .quiet fun requestId mapId h => h

theorem onSaved_case (node : MapExecutor) (fs : FileSystem)
    (content : Option (FilePath → Option Bytes)) :
    ExecutorCase lib mapDir node fs (.saved content) (node.onSaved mapDir fs content) := by
  unfold MapExecutor.onSaved
  split
  · rename_i name hTask
    unfold publishBundle
    split
    · rename_i mapId content hName
      cases safeBasename_eq hName
      dsimp only
      split
      · exact .quiet fun requestId mapId h => (by cases h)
      · rename_i hTaken
        refine .publishes hTask hName ?_ rfl
        exact (Bool.or_eq_false_iff.mp (Bool.eq_false_iff.mpr hTaken)).1
    · exact .quiet fun requestId mapId h => (by cases h)
  · exact .quiet fun requestId mapId h => h

theorem executor_case (node : MapExecutor) (fs : FileSystem) (input : MapInput) :
    ExecutorCase lib mapDir node fs input (node.step lib mapDir fs input) := by
  cases input with
  | lease | modeState => exact .quiet fun requestId mapId h => h
  | request message =>
    change ExecutorCase lib mapDir node fs _
      (if node.task = .free then node.onMapRequest message else node, fs)
    split
    · exact onMapRequest_case lib mapDir node fs message
    · exact .quiet fun requestId mapId h => h
  | check => exact onCheck_case lib mapDir node fs
  | finish succeeds => exact onFinish_case lib mapDir node fs succeeds
  | saved content => exact onSaved_case lib mapDir node fs content

variable {lib text mapDir} {link : MapLink} {input : MapLinkInput}

/-- A mode state only tells the executor something. -/
theorem step_modeArrives (link : MapLink) : ∃ executor modeStates,
    link.step lib text mapDir .modeArrives = { link with executor, modeStates } ∧
      executor.task = link.executor.task := by
  unfold step
  dsimp only
  cases hStates : link.modeStates with
  | nil => exact ⟨link.executor, link.modeStates, rfl, rfl⟩
  | cons state modeStates => exact ⟨link.executor.onModeState state.message, modeStates, rfl, rfl⟩

/-! ## Maps in use -/

/-- A DELETE that has passed its check is for a valid map. -/
def Valid (lib : BundleLibrary) (mapDir : FilePath) (link : MapLink) : Prop :=
  ∀ requestId mapId, link.executor.task = .removing requestId mapId →
    ∃ info, validateBundle lib link.fs mapDir mapId = .ok info

/-- A DELETE that has passed its check is for a map that is not in use. -/
def Guarded (link : MapLink) : Prop :=
  ∀ requestId mapId, link.executor.task = .removing requestId mapId →
    ¬ link.supervisor.Uses mapId

theorem onFinish_removes {requestId : ℤ} {mapId : String} {info : BundleInfo}
    (hTask : link.executor.task = .removing requestId mapId)
    (hValid : validateBundle lib link.fs mapDir mapId = .ok info) :
    (link.executor.onFinish lib mapDir link.fs true).2 = link.fs.remove (mapDir ++ [mapId]) := by
  unfold MapExecutor.onFinish
  rw [hTask]
  dsimp only
  unfold deleteBundle
  rw [hValid]
  rfl

theorem keeps_iff (hValid : link.Valid lib mapDir) :
    link.Keeps lib text mapDir ↔ link.Guarded := by
  constructor
  · intro h requestId mapId hTask
    obtain ⟨info, hInfo⟩ := hValid requestId mapId hTask
    refine h (.executor (.finish true) rfl) mapId (validateBundle_ok hInfo).2 ?_
    change (link.executor.onFinish lib mapDir link.fs true).2.isDir _ = false
    rw [onFinish_removes hTask hInfo]
    change (!isUnder _ _ && _) = false
    rw [isUnder_self]
    rfl
  · intro h input mapId hBefore hAfter
    cases input with
    | supervisor | modeDropped => cases hBefore.symm.trans hAfter
    | modeArrives =>
      obtain ⟨executor, modeStates, hStep, -⟩ := @step_modeArrives lib text mapDir link
      rw [hStep] at hAfter
      cases hBefore.symm.trans hAfter
    | executor input own =>
      change (link.executor.step lib mapDir link.fs input).2.isDir _ = false at hAfter
      have hCase := executor_case lib mapDir link.executor link.fs input
      generalize link.executor.step lib mapDir link.fs input = out at hAfter hCase
      cases hCase with
      | quiet | passes => cases hBefore.symm.trans hAfter
      | removes hInput hTask hInfo =>
        change (!isUnder _ _ && link.fs.isDir _) = false at hAfter
        rw [hBefore, Bool.and_true, Bool.not_eq_false'] at hAfter
        have hName := safeBasename_ne_dotdot (validateBundle_ok hInfo).1
        cases eq_of_isUnder_sibling hName hAfter
        exact h _ _ hTask
      | publishes hTask hName hFree =>
        change (if isUnder _ _ then _ else link.fs.isDir _) = false at hAfter
        split at hAfter
        · rename_i hUnder
          cases eq_of_isUnder_sibling (safeBasename_ne_dotdot hName) hUnder
          cases hFree.symm.trans hBefore
        · cases hBefore.symm.trans hAfter

/-! ## Every step -/

theorem Valid.step (h : link.Valid lib mapDir) (input : MapLinkInput) :
    (link.step lib text mapDir input).Valid lib mapDir := by
  cases input with
  | supervisor | modeDropped => exact h
  | modeArrives =>
    obtain ⟨executor, modeStates, hStep, hSame⟩ := @step_modeArrives lib text mapDir link
    rw [hStep]
    exact fun requestId mapId hTask => h requestId mapId (hSame.symm.trans hTask)
  | executor input own =>
    intro requestId mapId hTask
    change (link.executor.step lib mapDir link.fs input).1.task = _ at hTask
    change ∃ info, validateBundle lib (link.executor.step lib mapDir link.fs input).2 mapDir mapId =
      .ok info
    have hCase := executor_case lib mapDir link.executor link.fs input
    generalize link.executor.step lib mapDir link.fs input = out at hTask hCase
    cases hCase with
    | quiet hQuiet => exact h _ _ (hQuiet _ _ hTask)
    | passes hInput hBefore hPasses hNext =>
      cases hNext.symm.trans hTask
      exact ⟨_, validateDeleteCandidate_ok hPasses⟩
    | removes hInput hBefore hValid hNext => cases hNext.symm.trans hTask
    | publishes hBefore hName hFree hNext => cases hNext.symm.trans hTask

theorem timely_supervisor_iff {input : ModeInput} :
    link.Timely lib mapDir (.supervisor input) ↔ ∀ message, input = .request message →
      ∀ requestId, link.executor.task = .removing requestId message.autonomyMap →
        link.supervisor.startsAutonomy message = false := by
  cases input with
  | request message =>
    exact ⟨fun h _ hInput => by cases hInput; exact h, fun h => h message rfl⟩
  | _ => exact iff_of_true trivial nofun

theorem validated_request {input : ModeInput} {message : ModeRequest}
    (h : link.validated lib text mapDir input = .request message) : input = .request message := by
  unfold validated at h
  split at h
  · split at h
    · split at h <;> cases h
    · cases h
  · exact h

theorem guarded_supervisor_iff (hCoherent : link.supervisor.Coherent) (h : link.Guarded)
    (input : ModeInput) :
    (link.step lib text mapDir (.supervisor input)).Guarded ↔
      link.Timely lib mapDir (.supervisor input) := by
  rw [timely_supervisor_iff]
  constructor
  · rintro hNext message rfl requestId hTask
    by_contra hStarts
    exact hNext requestId message.autonomyMap hTask
      (ModeSupervisor.step_startsAutonomy (Bool.eq_true_of_not_eq_false hStarts))
  · intro hTimely requestId mapId hTask hUses
    rcases ModeSupervisor.uses_step hCoherent hUses with hUses | ⟨message, hInput, hStarts, rfl⟩
    · exact h requestId mapId hTask hUses
    · have hIdle := hTimely message (validated_request hInput) requestId hTask
      exact Bool.false_ne_true (hIdle.symm.trans hStarts)

theorem timely_executor_iff {input : MapInput} {own : input.isModeState = false} :
    link.Timely lib mapDir (.executor input own) ↔ input = .check →
      ∀ requestId mapId info, link.executor.task = .deleting requestId mapId →
        validateDeleteCandidate lib link.fs mapDir mapId link.executor.selectedApplied
          link.executor.activeAutonomyMap = .ok info →
        ¬ link.supervisor.Uses mapId := by
  cases input with
  | check => exact ⟨fun h _ => h, fun h => h rfl⟩
  | _ => exact iff_of_true trivial nofun

theorem onCheck_passes {requestId : ℤ} {mapId : String} {info : BundleInfo}
    (hTask : link.executor.task = .deleting requestId mapId)
    (hPasses : validateDeleteCandidate lib link.fs mapDir mapId link.executor.selectedApplied
      link.executor.activeAutonomyMap = .ok info) :
    (link.executor.onCheck lib mapDir link.fs).task = .removing requestId mapId := by
  unfold MapExecutor.onCheck
  rw [hTask]
  dsimp only
  rw [hPasses]

theorem guarded_executor_iff (h : link.Guarded) (input : MapInput)
    (own : input.isModeState = false) :
    (link.step lib text mapDir (.executor input own)).Guarded ↔
      link.Timely lib mapDir (.executor input own) := by
  rw [timely_executor_iff]
  constructor
  · rintro hNext rfl requestId mapId info hTask hPasses
    exact hNext requestId mapId (onCheck_passes hTask hPasses)
  · intro hTimely requestId mapId hTask
    change (link.executor.step lib mapDir link.fs input).1.task = _ at hTask
    have hCase := executor_case lib mapDir link.executor link.fs input
    generalize link.executor.step lib mapDir link.fs input = out at hTask hCase
    cases hCase with
    | quiet hQuiet => exact h _ _ (hQuiet _ _ hTask)
    | passes hInput hBefore hPasses hNext =>
      cases hNext.symm.trans hTask
      exact hTimely hInput _ _ _ hBefore hPasses
    | removes hInput hBefore hValid hNext => cases hNext.symm.trans hTask
    | publishes hBefore hName hFree hNext => cases hNext.symm.trans hTask

/-- A step keeps the running DELETE away from the maps in use exactly when it is timely. -/
theorem guarded_step_iff (hCoherent : link.supervisor.Coherent) (h : link.Guarded)
    (input : MapLinkInput) :
    (link.step lib text mapDir input).Guarded ↔ link.Timely lib mapDir input := by
  cases input with
  | supervisor input => exact guarded_supervisor_iff hCoherent h input
  | executor input own => exact guarded_executor_iff h input own
  | modeArrives =>
    obtain ⟨executor, modeStates, hStep, hSame⟩ := @step_modeArrives lib text mapDir link
    rw [hStep]
    exact iff_of_true (fun requestId mapId hTask => h requestId mapId (hSame.symm.trans hTask))
      trivial
  | modeDropped index => exact iff_of_true h trivial

/-! ## The map that a started unit reads -/

/-- While a unit may read its map, the directory is there and the map is complete. -/
structure Readable (lib : BundleLibrary) (mapDir : FilePath) (link : MapLink) : Prop where
  name : link.supervisor.Reads →
    safeBasename link.supervisor.run.autonomyMap = .ok link.supervisor.run.autonomyMap
  dir : link.supervisor.Reads →
    link.fs.isDir (mapDir ++ [link.supervisor.run.autonomyMap]) = true
  complete : link.Complete lib mapDir

theorem validated_done {input : ModeInput} (hPoint : link.supervisor.point = .preparing)
    (h : link.validated lib text mapDir input = .done (.ok ())) :
    ∃ info, validateBundle lib link.fs mapDir link.supervisor.run.autonomyMap = .ok info := by
  unfold validated at h
  split at h
  · rw [if_pos hPoint] at h
    split at h
    · rename_i info hInfo
      exact ⟨info, hInfo⟩
    · cases h
  · rename_i hOther
    exact absurd h hOther

theorem Readable.supervisor (h : link.Readable lib mapDir) (input : ModeInput) :
    (link.step lib text mapDir (.supervisor input)).Readable lib mapDir := by
  refine ⟨fun hReads => ?_, fun hReads => ?_, fun hReads hInside => ?_⟩
  · obtain ⟨hRun, hCase⟩ := ModeSupervisor.reads_step hReads
    change safeBasename (link.supervisor.step _).1.run.autonomyMap =
      .ok (link.supervisor.step _).1.run.autonomyMap
    rw [hRun]
    rcases hCase with hBefore | ⟨hPoint, hInput⟩
    · exact h.name hBefore
    · obtain ⟨info, hInfo⟩ := validated_done hPoint hInput
      exact (validateBundle_ok hInfo).1
  · obtain ⟨hRun, hCase⟩ := ModeSupervisor.reads_step hReads
    change link.fs.isDir (mapDir ++ [(link.supervisor.step _).1.run.autonomyMap]) = true
    rw [hRun]
    rcases hCase with hBefore | ⟨hPoint, hInput⟩
    · exact h.dir hBefore
    · obtain ⟨info, hInfo⟩ := validated_done hPoint hInput
      exact (validateBundle_ok hInfo).2
  · obtain ⟨hRun, hCase⟩ := ModeSupervisor.reads_step hReads
    change RasterInside lib link.fs
      (mapDir ++ [(link.supervisor.step _).1.run.autonomyMap]) at hInside
    change ∃ info, validateBundle lib link.fs mapDir
      (link.supervisor.step _).1.run.autonomyMap = .ok info
    rw [hRun] at hInside ⊢
    rcases hCase with hBefore | ⟨hPoint, hInput⟩
    · exact h.complete hBefore hInside
    · exact validated_done hPoint hInput

/-- The files have changed in the directory of another map only. -/
theorem Readable.outside (h : link.Readable lib mapDir) {executor : MapExecutor}
    {fs : FileSystem} {other : String} (hOutside : SameOutside link.fs fs (mapDir ++ [other]))
    (hOther : other ≠ "..")
    (hNe : link.supervisor.Reads → other ≠ link.supervisor.run.autonomyMap) :
    Readable lib mapDir { link with executor, fs } := by
  refine ⟨h.name, fun hReads => ?_, fun hReads hInside => ?_⟩
  · exact (hOutside.dir_of_ne hOther (hNe hReads)).trans (h.dir hReads)
  · have hName := safeBasename_ne_dotdot (h.name hReads)
    obtain ⟨hBefore, hEq⟩ := hOutside.validateBundle_eq hOther (hNe hReads) hName hInside
    change ∃ info, validateBundle lib fs mapDir link.supervisor.run.autonomyMap = .ok info
    rw [hEq]
    exact h.complete hReads hBefore

theorem Readable.step (hGuarded : link.Guarded) (h : link.Readable lib mapDir)
    (input : MapLinkInput) : (link.step lib text mapDir input).Readable lib mapDir := by
  cases input with
  | supervisor input => exact h.supervisor input
  | modeArrives =>
    obtain ⟨executor, modeStates, hStep, -⟩ := @step_modeArrives lib text mapDir link
    rw [hStep]
    exact ⟨h.name, h.dir, h.complete⟩
  | modeDropped index => exact ⟨h.name, h.dir, h.complete⟩
  | executor input own =>
    change Readable lib mapDir { link with
      executor := (link.executor.step lib mapDir link.fs input).1
      fs := (link.executor.step lib mapDir link.fs input).2 }
    have hCase := executor_case lib mapDir link.executor link.fs input
    generalize link.executor.step lib mapDir link.fs input = out at hCase
    cases hCase with
    | quiet | passes => exact ⟨h.name, h.dir, h.complete⟩
    | removes hInput hTask hValid =>
      refine h.outside (sameOutside_remove _ _)
        (safeBasename_ne_dotdot (validateBundle_ok hValid).1) fun hReads hEq => ?_
      exact hGuarded _ _ hTask (hEq ▸ hReads.uses)
    | publishes hTask hName hFree =>
      refine h.outside (sameOutside_place _ _ _) (safeBasename_ne_dotdot hName) fun hReads hEq => ?_
      rw [hEq] at hFree
      cases hFree.symm.trans (h.dir hReads)

/-! ## Every run -/

theorem coherent_step (h : link.supervisor.Coherent) (input : MapLinkInput) :
    (link.step lib text mapDir input).supervisor.Coherent := by
  cases input with
  | supervisor input => exact h.step _
  | executor | modeDropped => exact h
  | modeArrives =>
    obtain ⟨executor, modeStates, hStep, -⟩ := @step_modeArrives lib text mapDir link
    rw [hStep]
    exact h

theorem coherent_start (runtime : RuntimeState) (now : ℚ) (applied : String) (fs : FileSystem)
    (modeStates : List RuntimeState) :
    (start runtime now applied fs modeStates).supervisor.Coherent :=
  fun previous hPoint => by cases hPoint

theorem valid_start (runtime : RuntimeState) (now : ℚ) (applied : String) (fs : FileSystem)
    (modeStates : List RuntimeState) :
    (start runtime now applied fs modeStates).Valid lib mapDir :=
  fun requestId mapId hTask => by cases hTask

theorem guarded_start (runtime : RuntimeState) (now : ℚ) (applied : String) (fs : FileSystem)
    (modeStates : List RuntimeState) : (start runtime now applied fs modeStates).Guarded :=
  fun requestId mapId hTask => by cases hTask

theorem readable_start (runtime : RuntimeState) (now : ℚ) (applied : String) (fs : FileSystem)
    (modeStates : List RuntimeState) :
    (start runtime now applied fs modeStates).Readable lib mapDir := by
  have hNot : ¬ (start runtime now applied fs modeStates).supervisor.Reads := by
    rintro ⟨hPoint | hPoint | hPoint, -⟩ <;> cases hPoint
  exact ⟨fun h => absurd h hNot, fun h => absurd h hNot, fun h => absurd h hNot⟩

/-- In every run of both nodes, no directory of a map in use is deleted, now or by whatever happens
next, exactly when every step is timely; and then the map that a started unit reads is complete.
`guarded_step_iff` is the equivalence for one step, and `Readable.step` keeps complete what a
started unit reads. -/
theorem maps_in_use_kept_iff (lib : BundleLibrary) (text : MapError → String) (mapDir : FilePath)
    (runtime : RuntimeState) (now : ℚ) (applied : String) (fs : FileSystem)
    (modeStates : List RuntimeState) (past : List MapLinkInput) :
    let init := start runtime now applied fs modeStates
    (Always (fun past input =>
        (after (step lib text mapDir) init (input :: past)).Keeps lib text mapDir) past ↔
      Always (along (step lib text mapDir) init (Timely lib mapDir)) past) ∧
    (Always (along (step lib text mapDir) init (Timely lib mapDir)) past →
      (after (step lib text mapDir) init past).Complete lib mapDir) := by
  intro init
  have hCoherent : ∀ past, (after (step lib text mapDir) init past).supervisor.Coherent :=
    @after_invariant _ _ _ init (fun link => link.supervisor.Coherent)
      (coherent_start runtime now applied fs modeStates) fun link input h => coherent_step h input
  have hValid := after_invariant (valid_start runtime now applied fs modeStates)
    fun link input h => @Valid.step lib text mapDir link h input
  have hKeepsIff past := @keeps_iff lib text mapDir _ (hValid past)
  constructor
  · have hGuarded {past} (h : Always (fun past input =>
        (after (step lib text mapDir) init (input :: past)).Keeps lib text mapDir) past) :
        (after (step lib text mapDir) init past).Guarded := by
      cases past with
      | nil => exact guarded_start runtime now applied fs modeStates
      | cons input past => exact (hKeepsIff (input :: past)).mp h.1
    induction past with
    | nil => exact Iff.rfl
    | cons input past ih =>
      constructor
      · rintro ⟨hKeeps, hPast⟩
        exact ⟨(guarded_step_iff (hCoherent past) (hGuarded hPast) input).mp
          ((hKeepsIff (input :: past)).mp hKeeps), ih.mp hPast⟩
      · rintro ⟨hTimely, hPast⟩
        exact ⟨(hKeepsIff (input :: past)).mpr ((guarded_step_iff (hCoherent past)
          (hGuarded (ih.mpr hPast)) input).mpr hTimely), ih.mpr hPast⟩
  · suffices hBoth : Always (along (step lib text mapDir) init (Timely lib mapDir)) past →
        (after (step lib text mapDir) init past).Guarded ∧
          (after (step lib text mapDir) init past).Readable lib mapDir from
      fun hTimely => (hBoth hTimely).2.complete
    induction past with
    | nil =>
      exact fun _ => ⟨guarded_start runtime now applied fs modeStates,
        readable_start runtime now applied fs modeStates⟩
    | cons input past ih =>
      rintro ⟨hTimely, hPast⟩
      obtain ⟨hGuarded, hReadable⟩ := ih hPast
      exact ⟨(guarded_step_iff (hCoherent past) hGuarded input).mpr hTimely,
        hReadable.step hGuarded input⟩

/-! ## A map deleted while its transition runs -/

def plainLibrary : BundleLibrary where
  yaml _ := .ok (some (.dict [("image", .str "occupancy.pgm"),
    ("resolution", .float (.finite (1 / 20))), ("origin", .list [.int 0, .int 0, .int 0])]))
  json _ := none
  dumps _ := []
  sha256 _ := ""
  str _ := ""
  intOfBytes bytes := some bytes.length
  createdIso _ := .ok ""

/-- Two complete maps whose files have all the same bytes. -/
def plainFiles : FileSystem where
  file path :=
    if path.take 2 = ["maps", "a"] ∨ path.take 2 = ["maps", "b"] then
      some [0x50, 0x35, 10, 49, 32, 49, 32, 49, 10]
    else none
  isDir path := path = ["maps", "a"] ∨ path = ["maps", "b"]

/-- AUTONOMY is requested with the selected map `b`, and its preparation ends; the executor has not
yet heard of the transition, selects `a` and checks the DELETE of `b`. Latest input first. -/
def deletedRun : List MapLinkInput :=
  [.executor .check rfl,
    .executor (.request ⟨3, "l", MapRequest.opDeleteMap, "b"⟩) rfl,
    .executor (.finish true) rfl,
    .executor .check rfl,
    .executor (.request ⟨2, "l", MapRequest.opSelectMap, "a"⟩) rfl,
    .supervisor (.done (.ok ())),
    .supervisor (.done (.ok ())),
    .supervisor (.request ⟨1, "l", 2, "b", 0⟩),
    .executor (.lease true "l") rfl,
    .supervisor (.lease true "l")]

def deletedLink : MapLink :=
  after (step plainLibrary (fun _ => "") ["maps"])
    (start { runtimeEpoch := 1, ready := true, readinessReason := "" } 0 "b" plainFiles [])
    deletedRun

/-- The next step deletes the map that the transition has validated and is about to start. -/
theorem deletes_map_of_transition :
    deletedLink.supervisor.Reads ∧ deletedLink.supervisor.Uses "b" ∧
      ¬ deletedLink.Keeps plainLibrary (fun _ => "") ["maps"] ∧
      (validateBundle plainLibrary (deletedLink.step plainLibrary (fun _ => "") ["maps"]
        (.executor (.finish true) rfl)).fs ["maps"] "b").toOption.isSome = false := by
  have hUses : deletedLink.supervisor.Uses "b" :=
    .inl ⟨by decide +kernel, by decide +kernel, by decide +kernel⟩
  refine ⟨⟨.inl (by decide +kernel), by decide +kernel⟩, hUses, fun h => ?_, by decide +kernel⟩
  exact h (.executor (.finish true) rfl) "b" (by decide +kernel) (by decide +kernel) hUses

end MapLink

end PreRunner.Paddock
