import PreRunner.Maps.CatalogScan
import PreRunner.Paddock.MapSessions

/-!
# How a map save ends

A save that has been accepted either records its outcome or dies with an exception that neither
`_handle_save_map` nor `_run_save` catches. The steps that may raise one are listed in `Calm`: the
publication after `begin_save`, whose catalog scan reads every other bundle, and the file operations
and answers of the save itself. `onWork_raised` shows that the list is complete, and `rank_onWork`
that the thread cannot stay with the request, so `save_answered_iff` follows by induction over the
steps. Until the outcome is recorded no other request is handled, and what the save does to the
files stays in the staging area until the directory is renamed into place (`Underway`).
-/

namespace PreRunner.Paddock

open Maps

namespace SaveTask

/-- The request that the thread handles. -/
def requestId? : SaveTask → Option ℤ
  | .free | .raised => none
  | .received message | .checking message _ _ | .beginning message _ | .announcing message _ =>
    some message.requestId
  | .preparing run | .waitingForService run | .serializing run | .checkingFiles run
  | .capturing run | .writing run _ | .validating run | .comparing run | .publishing run =>
    some run.requestId
  | .recording requestId _ => some requestId

/-- The request, once its name has passed `safe_basename`. -/
def message? : SaveTask → Option SaveRequest
  | .checking message _ _ | .beginning message _ | .announcing message _ => some message
  | _ => none

/-- The variables of the save that runs. -/
def run? : SaveTask → Option SaveRun
  | .preparing run | .waitingForService run | .serializing run | .checkingFiles run
  | .capturing run | .writing run _ | .validating run | .comparing run | .publishing run =>
    some run
  | _ => none

/-- The staging directory has been made. -/
def prepared : SaveTask → Bool
  | .waitingForService _ | .serializing _ | .checkingFiles _ | .capturing _ | .writing _ _
  | .validating _ | .comparing _ | .publishing _ => true
  | _ => false

/-- The request has passed all checks and its save begins. -/
def accepted : SaveTask → Option SaveRequest
  | .beginning message _ => some message
  | _ => none

/-- The thread has left the request. -/
def isOver : SaveTask → Bool
  | .free | .raised => true
  | _ => false

/-- How many steps of the thread may be left of a save. -/
def rank : SaveTask → ℕ
  | .free | .raised => 0
  | .recording _ _ => 1
  | .publishing _ => 2
  | .comparing _ => 3
  | .validating _ => 4
  | .writing _ _ => 5
  | .capturing _ => 6
  | .checkingFiles _ => 7
  | .serializing _ => 8
  | .waitingForService _ => 9
  | .preparing _ => 10
  | .announcing _ _ => 11
  | .beginning _ _ => 12
  | .checking _ _ check => 13 + (6 - check)
  | .received _ => 20

theorem requestId_of_run {task : SaveTask} {run : SaveRun} (h : task.run? = some run) :
    task.requestId? = some run.requestId := by
  cases task with
  | free | raised | received | checking | beginning | announcing | recording => exact nomatch h
  | _ => exact congrArg (Option.map SaveRun.requestId) h

theorem message_of_run {task : SaveTask} {run : SaveRun} (h : task.run? = some run) :
    task.message? = none := by
  cases task with
  | free | raised | received | checking | beginning | announcing | recording => exact nomatch h
  | _ => rfl

end SaveTask

/-- The request thread takes a step. -/
def SaveInput.isWork : SaveInput → Bool
  | .work _ => true
  | _ => false

/-! ## The model keeps its outcomes -/

namespace MapSessionModel

variable (model : MapSessionModel)

@[simp] theorem saveResults_observeRuntime (mappingActive : Bool) (sessionId : String)
    (runtimeEpoch : ℤ) (now : ℚ) :
    (model.observeRuntime mappingActive sessionId runtimeEpoch now).saveResults =
      model.saveResults := by
  unfold observeRuntime
  dsimp only
  repeat' split
  all_goals rfl

@[simp] theorem saveResults_observeMapEvidence (producedAfter : Bool) (now : ℚ) :
    (model.observeMapEvidence producedAfter now).saveResults = model.saveResults := by
  unfold observeMapEvidence
  split <;> rfl

@[simp] theorem saveResults_refresh (now : ℚ) :
    (model.refresh now).saveResults = model.saveResults := by
  unfold refresh
  split <;> rfl

@[simp] theorem saveResults_beginSave (requestId : ℤ) :
    (model.beginSave requestId).saveResults = model.saveResults := rfl

@[simp] theorem saveResults_recordSave (requestId : ℤ) (outcome : SaveOutcome) :
    (model.recordSave requestId outcome).saveResults =
      Function.update model.saveResults requestId (some outcome) := by
  unfold recordSave
  dsimp only
  repeat' split
  all_goals rfl

@[simp] theorem saveState_recordSave (requestId : ℤ) (outcome : SaveOutcome) :
    (model.recordSave requestId outcome).saveState = outcome.state := by
  unfold recordSave
  dsimp only
  repeat' split
  all_goals rfl

end MapSessionModel

namespace MapSessionNode

variable {lib : SaveLibrary} {mapDir : FilePath}

/-! ## What a step of the thread does -/

/-- One step of a save that runs. -/
inductive SaveStep (lib : SaveLibrary) (run : SaveRun) (node : MapSessionNode) :
    FileSystem → SaveTask → Prop where
  | goesOn {next : FileSystem} {task : SaveTask} (hRun : task.run? = some run)
      (hPrepared : task.prepared = true)
      (hFree : node.task.prepared = true ∨ run.txn.Free node.files)
      (hFiles : SameOutside node.files next run.txn.stagingRoot) : SaveStep lib run node next task
  | fails {next : FileSystem} (detail : SaveDetail)
      (hFiles : SameOutside node.files next run.txn.stagingRoot) :
      SaveStep lib run node next (.recording run.requestId (failure detail))
  | raises {next : FileSystem} (hFiles : SameOutside node.files next run.txn.stagingRoot) :
      SaveStep lib run node next .raised
  | publishes {next : FileSystem} {outcome : SaveOutcome} (ops : FileOps)
      (hTask : node.task = .publishing run)
      (hPublish : run.txn.publish lib node.files ops = (next, .ok outcome)) :
      SaveStep lib run node next (.recording run.requestId outcome)

theorem SaveStep.ended {run : SaveRun} {node : MapSessionNode} {next : FileSystem}
    (hFiles : SameOutside node.files next run.txn.stagingRoot) (ending : SaveEnd) :
    SaveStep lib run node next (MapSessionNode.ended run.requestId ending) := by
  cases ending with
  | failed detail => exact .fails detail hFiles
  | raised => exact .raises hFiles

/-- A step of a save that runs changes the files and the task, and nothing else of the node. -/
theorem onWork_run {node : MapSessionNode} {run : SaveRun} (hRun : node.task.run? = some run)
    (hNamed : run.txn.Named) (w : Work) :
    ∃ files task, node.onWork lib mapDir w = { node with files, task } ∧
      SaveStep lib run node files task := by
  unfold onWork
  cases hTask : node.task with
  | free | raised | received | checking | beginning | announcing | recording =>
    rw [hTask] at hRun
    exact nomatch hRun
  | preparing run' =>
    rw [hTask] at hRun
    obtain rfl : run' = run := Option.some.inj hRun
    have hFiles := MapSaveTransaction.sameOutside_prepare hNamed node.files w.ops
    dsimp only
    split
    · rename_i files hPrepare
      rw [hPrepare] at hFiles
      exact ⟨_, _, rfl, .goesOn rfl rfl (.inr (MapSaveTransaction.free_of_prepare hPrepare)) hFiles⟩
    · rename_i files ending hPrepare
      rw [hPrepare] at hFiles
      exact ⟨_, _, rfl, .ended hFiles ending⟩
  | waitingForService run' =>
    rw [hTask] at hRun
    obtain rfl : run' = run := Option.some.inj hRun
    dsimp only
    split
    · exact ⟨_, _, rfl, .goesOn rfl rfl (.inl (by rw [hTask]; rfl)) (SameOutside.refl _ _)⟩
    · exact ⟨_, _, rfl, .fails _ (SameOutside.refl _ _)⟩
  | serializing run' =>
    rw [hTask] at hRun
    obtain rfl : run' = run := Option.some.inj hRun
    have hFiles := sameOutside_replaceUnder node.files run'.txn.stagingRoot w.ops.left
    dsimp only
    split
    · exact ⟨_, _, rfl, .fails _ hFiles⟩
    · exact ⟨_, _, rfl, .raises hFiles⟩
    · split
      · exact ⟨_, _, rfl, .goesOn rfl rfl (.inl (by rw [hTask]; rfl)) hFiles⟩
      · exact ⟨_, _, rfl, .fails _ hFiles⟩
  | checkingFiles run' =>
    rw [hTask] at hRun
    obtain rfl : run' = run := Option.some.inj hRun
    dsimp only
    split
    · exact ⟨_, _, rfl, .goesOn rfl rfl (.inl (by rw [hTask]; rfl)) (SameOutside.refl _ _)⟩
    · exact ⟨_, _, rfl, .ended (SameOutside.refl _ _) _⟩
  | capturing run' =>
    rw [hTask] at hRun
    obtain rfl : run' = run := Option.some.inj hRun
    dsimp only
    split
    · exact ⟨_, _, rfl, .goesOn rfl rfl (.inl (by rw [hTask]; rfl)) (SameOutside.refl _ _)⟩
    · exact ⟨_, _, rfl, .fails _ (SameOutside.refl _ _)⟩
  | writing run' raster =>
    rw [hTask] at hRun
    obtain rfl : run' = run := Option.some.inj hRun
    have hFiles := @MapSaveTransaction.sameOutside_writeRaster lib _ hNamed node.files raster
      w.ops
    dsimp only
    split
    · rename_i files hWrite
      rw [hWrite] at hFiles
      exact ⟨_, _, rfl, .goesOn rfl rfl (.inl (by rw [hTask]; rfl)) hFiles⟩
    · rename_i files ending hWrite
      rw [hWrite] at hFiles
      exact ⟨_, _, rfl, .ended hFiles ending⟩
  | validating run' =>
    rw [hTask] at hRun
    obtain rfl : run' = run := Option.some.inj hRun
    dsimp only
    split
    · exact ⟨_, _, rfl, .goesOn rfl rfl (.inl (by rw [hTask]; rfl)) (SameOutside.refl _ _)⟩
    · exact ⟨_, _, rfl, .ended (SameOutside.refl _ _) _⟩
  | comparing run' =>
    rw [hTask] at hRun
    obtain rfl : run' = run := Option.some.inj hRun
    dsimp only
    split
    · exact ⟨_, _, rfl, .fails _ (SameOutside.refl _ _)⟩
    · exact ⟨_, _, rfl, .goesOn rfl rfl (.inl (by rw [hTask]; rfl)) (SameOutside.refl _ _)⟩
  | publishing run' =>
    rw [hTask] at hRun
    obtain rfl : run' = run := Option.some.inj hRun
    dsimp only
    split
    · rename_i files outcome hPublish
      exact ⟨_, _, rfl, .publishes w.ops hTask hPublish⟩
    · rename_i files ending hPublish
      have hFiles := @MapSaveTransaction.sameOutside_publish lib _ node.files _ hNamed
        w.ops (by rw [hPublish])
      rw [hPublish] at hFiles
      exact ⟨_, _, rfl, .ended hFiles ending⟩

/-! ## What the other callbacks leave alone -/

/-- The request, its outcomes and the files outside the staging area. -/
structure Keeps (mapDir : FilePath) (node next : MapSessionNode) : Prop where
  task : next.task = node.task
  results : next.model.saveResults = node.model.saveResults
  last : next.lastRequestId = node.lastRequestId
  files : SameOutside node.files next.files (mapDir ++ [stagingDirname])

/-- What a step other than one of the thread does: a request is taken, or all of this stays. -/
theorem step_cases (node : MapSessionNode) {input : SaveInput} (hInput : input.isWork = false) :
    (∃ message, input = .request message ∧ node.task = .free ∧
      node.lastRequestId < message.requestId ∧
      step lib mapDir node input =
        { node with lastRequestId := message.requestId, task := .received message }) ∨
    Keeps mapDir node (step lib mapDir node input) := by
  cases input with
  | lease active leaseId => exact .inr ⟨rfl, rfl, rfl, SameOutside.refl _ _⟩
  | stopState locked stopped now => exact .inr ⟨rfl, rfl, rfl, SameOutside.refl _ _⟩
  | modeState message now =>
    exact .inr ⟨rfl, MapSessionModel.saveResults_observeRuntime .., rfl, SameOutside.refl _ _⟩
  | map now =>
    exact .inr ⟨rfl, MapSessionModel.saveResults_observeMapEvidence .., rfl, SameOutside.refl _ _⟩
  | timer now =>
    exact .inr ⟨rfl, MapSessionModel.saveResults_refresh .., rfl, SameOutside.refl _ _⟩
  | lateFiles left => exact .inr ⟨rfl, rfl, rfl, sameOutside_replaceUnder _ _ _⟩
  | work w => exact nomatch hInput
  | request message =>
    cases hTask : node.task with
    | free =>
      have hStep : step lib mapDir node (.request message) = node.onMapRequest message := by
        unfold step
        rw [hTask]
      rw [hStep]
      unfold onMapRequest
      split
      · exact .inr ⟨rfl, rfl, rfl, SameOutside.refl _ _⟩
      · rename_i hTaken
        rw [Bool.or_eq_true, not_or, decide_eq_true_eq, not_le] at hTaken
        exact .inl ⟨message, rfl, rfl, hTaken.2, rfl⟩
    | _ =>
      have hStep : step lib mapDir node (.request message) = node := by
        unfold step
        rw [hTask]
      rw [hStep]
      exact .inr ⟨rfl, rfl, rfl, SameOutside.refl _ _⟩

/-! ## Requests are handled one after another -/

/-- The request that is handled is the last one and has no outcome yet. -/
structure Handling (node : MapSessionNode) : Prop where
  recorded : ∀ requestId outcome, node.model.saveResults requestId = some outcome →
    requestId ≤ node.lastRequestId
  pending : ∀ requestId, node.task.requestId? = some requestId →
    requestId = node.lastRequestId ∧ node.model.saveResults requestId = none
  named : ∀ message, node.task.message? = some message →
    safeBasename message.name = .ok message.name
  running : ∀ run, node.task.run? = some run → run.txn.Named

theorem Handling.init (files : FileSystem) : Handling { files } :=
  ⟨(fun _ _ h => nomatch h), (fun _ h => nomatch h), (fun _ h => nomatch h),
    (fun _ h => nomatch h)⟩

/-- The thread goes on with the same request, or leaves it without an outcome. -/
theorem Handling.of_task {node next : MapSessionNode} (h : Handling node)
    (hResults : next.model.saveResults = node.model.saveResults)
    (hLast : next.lastRequestId = node.lastRequestId)
    (hTask : ∀ requestId, next.task.requestId? = some requestId →
      node.task.requestId? = some requestId)
    (hNamed : ∀ message, next.task.message? = some message →
      safeBasename message.name = .ok message.name)
    (hRunning : ∀ run, next.task.run? = some run → run.txn.Named) : Handling next where
  recorded requestId outcome hOutcome := by
    rw [hResults] at hOutcome
    rw [hLast]
    exact h.recorded requestId outcome hOutcome
  pending requestId hId := by
    rw [hResults, hLast]
    exact h.pending requestId (hTask requestId hId)
  named := hNamed
  running := hRunning

/-- A step of the save leaves the request, or goes on with it. -/
theorem SaveStep.task_cases {run : SaveRun} {node : MapSessionNode} {files : FileSystem}
    {task : SaveTask} (h : SaveStep lib run node files task) :
    task.run? = some run ∨ task = .raised ∨
      ∃ outcome, task = .recording run.requestId outcome := by
  cases h with
  | goesOn hRun => exact .inl hRun
  | raises => exact .inr (.inl rfl)
  | fails | publishes => exact .inr (.inr ⟨_, rfl⟩)

theorem Handling.work {node : MapSessionNode} (h : Handling node) (w : Work) :
    Handling (node.onWork lib mapDir w) := by
  cases hRun : node.task.run? with
  | some run =>
    obtain ⟨files, task, hWork, hStep⟩ := @onWork_run lib mapDir _ _ hRun
      (h.running run hRun) w
    rw [hWork]
    have hId := SaveTask.requestId_of_run hRun
    obtain hNext | rfl | ⟨outcome, rfl⟩ := hStep.task_cases
    · have hNextId := SaveTask.requestId_of_run hNext
      refine h.of_task rfl rfl (fun requestId hNow => hId.trans (hNextId.symm.trans hNow))
        (fun message hMessage => ?_) (fun other hOther => ?_)
      · exact nomatch (SaveTask.message_of_run hNext).symm.trans hMessage
      · obtain rfl : run = other := Option.some.inj (hNext.symm.trans hOther)
        exact h.running run hRun
    · exact h.of_task rfl rfl (fun _ h => nomatch h) (fun _ h => nomatch h) (fun _ h => nomatch h)
    · exact h.of_task rfl rfl (fun requestId hNow => hId.trans hNow) (fun _ h => nomatch h)
        (fun _ h => nomatch h)
  | none =>
    unfold onWork
    cases hTask : node.task with
    | free | raised => exact h
    | received message =>
      have hPending := h.pending message.requestId (by rw [hTask]; rfl)
      dsimp only
      split
      · rename_i outcome hCached
        exact nomatch hPending.2.symm.trans hCached
      · split
        · exact h.of_task rfl rfl (fun requestId hNow => by rw [hTask]; exact hNow)
            (fun _ h => nomatch h) (fun _ h => nomatch h)
        · rename_i name hName
          refine h.of_task rfl rfl (fun requestId hNow => by rw [hTask]; exact hNow)
            (fun other hOther => ?_) (fun _ h => nomatch h)
          obtain rfl : message = other := Option.some.inj hOther
          exact safeBasename_eq hName ▸ hName
    | checking message sessionId check =>
      have hName := h.named message (by rw [hTask]; rfl)
      have hNext : ∀ task : SaveTask, task.requestId? = some message.requestId →
          (∀ other, task.message? = some other → other = message) → task.run? = none →
          Handling { node with task } := fun task hId hMessage hRunning =>
        h.of_task rfl rfl (fun requestId hNow => by rw [hTask]; exact hId.symm.trans hNow)
          (fun other hOther => hMessage other hOther ▸ hName)
          (fun run hNow => nomatch hRunning.symm.trans hNow)
      dsimp only
      split
      · exact hNext _ rfl (fun other hOther => (Option.some.inj hOther).symm) rfl
      · split
        · exact hNext _ rfl (fun _ h => nomatch h) rfl
        · exact hNext _ rfl (fun other hOther => (Option.some.inj hOther).symm) rfl
    | beginning message sessionId =>
      have hName := h.named message (by rw [hTask]; rfl)
      refine h.of_task rfl rfl (fun requestId hNow => by rw [hTask]; exact hNow)
        (fun other hOther => ?_) (fun _ h => nomatch h)
      obtain rfl : message = other := Option.some.inj hOther
      exact hName
    | announcing message sessionId =>
      have hName := h.named message (by rw [hTask]; rfl)
      dsimp only
      split
      · exact h.of_task rfl rfl (fun _ h => nomatch h) (fun _ h => nomatch h) (fun _ h => nomatch h)
      · refine h.of_task rfl rfl (fun requestId hNow => by rw [hTask]; exact hNow)
          (fun _ h => nomatch h) (fun run hNow => ?_)
        obtain rfl := Option.some.inj hNow
        exact hName
    | recording requestId outcome =>
      have hPending := h.pending requestId (by rw [hTask]; rfl)
      refine ⟨fun other result hResult => ?_, (fun _ h => nomatch h),
        (fun _ h => nomatch h), (fun _ h => nomatch h)⟩
      rw [MapSessionModel.saveResults_recordSave] at hResult
      by_cases hOther : other = requestId
      · exact (hOther.trans hPending.1).le
      · rw [Function.update_of_ne hOther] at hResult
        exact h.recorded other result hResult
    | _ =>
      rw [hTask] at hRun
      exact nomatch hRun

theorem Handling.step {node : MapSessionNode} (h : Handling node) (input : SaveInput) :
    Handling (step lib mapDir node input) := by
  cases hInput : input.isWork with
  | true =>
    cases input with
    | work w => exact h.work w
    | _ => exact nomatch hInput
  | false =>
    obtain ⟨message, rfl, hTask, hLater, hStep⟩ | hKeeps :=
      @step_cases lib mapDir node _ hInput
    · rw [hStep]
      refine ⟨fun requestId outcome hOutcome => ?_, fun requestId hId => ?_,
        (fun _ h => nomatch h), (fun _ h => nomatch h)⟩
      · exact (h.recorded requestId outcome hOutcome).trans hLater.le
      · obtain rfl : message.requestId = requestId := Option.some.inj hId
        refine ⟨rfl, ?_⟩
        cases hOutcome : node.model.saveResults message.requestId with
        | none => rfl
        | some outcome => exact absurd (h.recorded _ _ hOutcome) hLater.not_ge
    · exact h.of_task hKeeps.results hKeeps.last (fun requestId hId => hKeeps.task ▸ hId)
        (fun message hMessage => h.named message (hKeeps.task ▸ hMessage))
        (fun run hRun => h.running run (hKeeps.task ▸ hRun))

theorem Handling.run {node : MapSessionNode} (h : Handling node) (inputs : List SaveInput) :
    Handling (run lib mapDir node inputs) := by
  induction inputs generalizing node with
  | nil => exact h
  | cons input inputs ih => exact ih (h.step input)

/-! ## The exceptions that a save lets through -/

/-- The publication raises nothing: either the catalog need not be scanned, or no file operation of
the scan raises and it meets no bundle that `validate_bundle` cannot read. -/
def Announces (lib : SaveLibrary) (mapDir : FilePath) (files : FileSystem) (look : CatalogLook)
    (ops : FileOps) : Prop :=
  look.sendFails = false ∧
    (look.unchanged = true ∨
      (ops.raises = false ∧ ∀ name ∈ look.names, isMapDirectory (look.disk files) mapDir name →
        Opened (look.disk files) mapDir name →
        Maps.Readable lib.catalog (look.disk files) (mapDir ++ [name])))

/-- The step of the thread meets no exception other than a `MapError`. -/
def Calm (lib : SaveLibrary) (mapDir : FilePath) (node : MapSessionNode) (w : Work) : Prop :=
  match node.task with
  | .announcing _ _ => Announces lib mapDir node.files w.look w.ops
  | .preparing run => ¬ (run.txn.Free node.files ∧ w.ops.raises = true)
  | .serializing _ => w.answer ≠ some (.error ())
  | .checkingFiles _ => w.ops.raises = false
  | .writing _ raster =>
    ¬ ((raster.width ≠ 0 ∧ raster.height ≠ 0 ∧
      raster.data.length = raster.width * raster.height) ∧ w.ops.raises = true)
  | .validating run =>
    w.ops.raises = false ∧
      ∀ error, validateBundle lib.bundle node.files run.txn.stagingRoot run.txn.name =
        .error error → (Raised.map error).isMapError = true
  | .publishing run =>
    w.ops.raises = false ∧
      ∃ manifest, buildManifest lib.bundle node.files run.txn.sessionId run.txn.name
        run.txn.staging run.txn.created = .ok manifest
  | _ => True

theorem ended_raised {α : Type} {requestId : ℤ} {ending : SaveEnd} :
    ended requestId ending = .raised ↔
      (Except.error ending : Except SaveEnd α) = .error .raised := by
  cases ending with
  | failed detail => exact iff_of_false nofun nofun
  | raised => exact iff_of_true rfl rfl

theorem catalog_error {files : FileSystem} {look : CatalogLook} {ops : FileOps} :
    catalog lib mapDir files look ops = .error () ↔
      ¬ (look.unchanged = true ∨
        (ops.raises = false ∧ ∀ name ∈ look.names, isMapDirectory (look.disk files) mapDir name →
          Opened (look.disk files) mapDir name →
          Maps.Readable lib.catalog (look.disk files) (mapDir ++ [name]))) := by
  have hScan := scanCatalog_ok_iff lib.catalog (look.disk files) mapDir look.selected
  change _ ↔ ∀ name ∈ look.names, _ at hScan
  rw [← hScan]
  unfold catalog
  cases look.unchanged with
  | true => exact iff_of_false nofun (not_not_intro (.inl rfl))
  | false =>
    cases ops.raises with
    | true => exact iff_of_true rfl fun h => h.elim nofun fun h => nomatch h.1
    | false =>
      rw [if_neg Bool.false_ne_true, if_neg Bool.false_ne_true]
      cases scanCatalog lib.catalog (look.disk files) mapDir look.selected with
      | ok rows => exact iff_of_false nofun (not_not_intro (.inr ⟨rfl, rows, rfl⟩))
      | error error => exact iff_of_true rfl fun h => h.elim nofun fun h => nomatch h.2.choose_spec

theorem publishState_error {files : FileSystem} {look : CatalogLook} {ops : FileOps} :
    publishState lib mapDir files look ops = .error () ↔ ¬ Announces lib mapDir files look ops := by
  unfold publishState Announces
  rw [not_and_or, ← catalog_error]
  cases catalog lib mapDir files look ops with
  | error => exact iff_of_true rfl (.inr rfl)
  | ok =>
    dsimp only
    cases look.sendFails with
    | true => exact iff_of_true rfl (.inl nofun)
    | false => exact iff_of_false nofun fun h => h.elim (fun h => h rfl) nofun

/-- The thread dies in a step exactly if the step is not calm. -/
theorem onWork_raised {node : MapSessionNode} (hTask : node.task ≠ .raised)
    (hFree : ∀ run, node.task = .publishing run → run.txn.Free node.files ∧ run.txn.Named)
    (w : Work) : (node.onWork lib mapDir w).task = .raised ↔ ¬ Calm lib mapDir node w := by
  unfold onWork Calm
  cases hNow : node.task with
  | raised => exact absurd hNow hTask
  | free => exact iff_of_false (fun h => nomatch hNow.symm.trans h) (not_not_intro trivial)
  | received message =>
    refine iff_of_false (fun h => ?_) (not_not_intro trivial)
    dsimp only at h
    repeat' split at h
    all_goals exact nomatch h
  | checking message sessionId check =>
    refine iff_of_false (fun h => ?_) (not_not_intro trivial)
    dsimp only at h
    repeat' split at h
    all_goals exact nomatch h
  | beginning | recording => exact iff_of_false nofun (not_not_intro trivial)
  | announcing message sessionId =>
    dsimp only
    rw [← publishState_error]
    rcases publishState lib mapDir node.files w.look w.ops with _ | _
    · exact iff_of_true rfl rfl
    · exact iff_of_false nofun nofun
  | waitingForService | capturing | comparing =>
    refine iff_of_false (fun h => ?_) (not_not_intro trivial)
    dsimp only at h
    split at h <;> exact nomatch h
  | preparing run =>
    dsimp only
    rw [not_not, ← MapSaveTransaction.prepare_raised]
    rcases run.txn.prepare node.files w.ops with ⟨files, error | _⟩
    · exact ended_raised
    · exact iff_of_false nofun nofun
  | serializing run =>
    dsimp only
    rcases w.answer with _ | ⟨⟨⟩⟩ | ⟨result⟩
    · exact iff_of_false nofun (not_not_intro nofun)
    · exact iff_of_true rfl (not_not_intro rfl)
    · refine iff_of_false (fun h => ?_) (not_not_intro nofun)
      dsimp only at h
      split at h <;> exact nomatch h
  | checkingFiles run =>
    dsimp only
    rw [Bool.not_eq_false, ← @MapSaveTransaction.checkSerialized_raised run.txn
      node.files]
    rcases run.txn.checkSerialized node.files w.ops with error | _
    · exact ended_raised
    · exact iff_of_false nofun nofun
  | writing run raster =>
    dsimp only
    rw [not_not, ← @MapSaveTransaction.writeRaster_raised lib run.txn
      node.files]
    rcases run.txn.writeRaster lib node.files raster w.ops with ⟨files, error | _⟩
    · exact ended_raised
    · exact iff_of_false nofun nofun
  | validating run =>
    have hCalm : ¬ (w.ops.raises = false ∧ ∀ error, validateBundle lib.bundle node.files
        run.txn.stagingRoot run.txn.name = .error error → (Raised.map error).isMapError = true) ↔
        run.txn.validate lib node.files w.ops = .error .raised := by
      rw [MapSaveTransaction.validate_raised]
      push Not
      simp only [Bool.not_eq_true, ne_eq, or_iff_not_imp_left]
    dsimp only
    rw [hCalm]
    rcases run.txn.validate lib node.files w.ops with error | _
    · exact ended_raised
    · exact iff_of_false nofun nofun
  | publishing run =>
    obtain ⟨hTarget, hNamed⟩ := hFree run hNow
    have hCalm : ¬ (w.ops.raises = false ∧ ∃ manifest, buildManifest lib.bundle node.files
        run.txn.sessionId run.txn.name run.txn.staging run.txn.created = .ok manifest) ↔
        (run.txn.publish lib node.files w.ops).2 = .error .raised := by
      rw [MapSaveTransaction.publish_raised hTarget hNamed]
      cases w.ops.raises <;>
      rcases buildManifest lib.bundle node.files run.txn.sessionId run.txn.name run.txn.staging
        run.txn.created with error | manifest <;> simp
    dsimp only
    rw [hCalm]
    rcases run.txn.publish lib node.files w.ops with ⟨files, error | outcome⟩
    · exact ended_raised
    · exact iff_of_false nofun nofun

/-! ## The thread advances -/

theorem rank_ended (requestId : ℤ) (ending : SaveEnd) : (ended requestId ending).rank ≤ 1 := by
  cases ending with
  | failed detail => exact le_rfl
  | raised => exact Nat.zero_le 1

/-- Every step of the thread brings the request nearer to its end. -/
theorem rank_onWork {node : MapSessionNode} (h : node.task.isOver = false) (w : Work) :
    (node.onWork lib mapDir w).task.rank < node.task.rank := by
  unfold onWork
  cases hTask : node.task with
  | free | raised =>
    rw [hTask] at h
    exact nomatch h
  | beginning | recording => exact Nat.lt_add_one _
  | received message =>
    dsimp only
    split
    · exact Nat.lt_of_sub_eq_succ rfl
    · split <;> exact Nat.lt_of_sub_eq_succ rfl
  | checking message sessionId check =>
    dsimp only
    split
    · change 12 < 13 + (6 - check)
      omega
    · rename_i test hTest
      have hCheck : check < 6 := (List.getElem?_eq_some_iff.mp hTest).1
      split
      · change 1 < 13 + (6 - check)
        omega
      · change 13 + (6 - (check + 1)) < 13 + (6 - check)
        omega
  | preparing | checkingFiles | writing | validating | publishing =>
    dsimp only
    split
    · exact Nat.lt_of_sub_eq_succ rfl
    · exact (rank_ended _ _).trans_lt (Nat.lt_of_sub_eq_succ rfl)
  | announcing | waitingForService | capturing | comparing =>
    dsimp only
    split <;> exact Nat.lt_of_sub_eq_succ rfl
  | serializing run =>
    dsimp only
    split
    · exact Nat.lt_of_sub_eq_succ rfl
    · exact Nat.lt_of_sub_eq_succ rfl
    · split <;> exact Nat.lt_of_sub_eq_succ rfl

/-! ## One save -/

/-- The node after some steps, up to the one with which the thread leaves the request. -/
def handle (lib : SaveLibrary) (mapDir : FilePath) (node : MapSessionNode) :
    List SaveInput → MapSessionNode
  | [] => node
  | input :: inputs =>
    if node.task.isOver then node else handle lib mapDir (node.step lib mapDir input) inputs

/-- No step of the thread meets an exception that the save does not catch. -/
def CalmRun (lib : SaveLibrary) (mapDir : FilePath) (node : MapSessionNode) :
    List SaveInput → Prop
  | [] => True
  | input :: inputs =>
    node.task.isOver = true ∨
      ((∀ w, input = .work w → Calm lib mapDir node w) ∧
        CalmRun lib mapDir (node.step lib mapDir input) inputs)

/-- An outcome is recorded for the request, and no save counts as running. -/
def Answered (message : SaveRequest) (node : MapSessionNode) : Prop :=
  (∃ outcome, node.model.saveResults message.requestId = some outcome) ∧
    node.model.saveState ≠ .running

/-- The publication of the requested map has completed. -/
def Published (message : SaveRequest) (node : MapSessionNode) : Prop :=
  ∃ outcome, (outcome.state = .succeeded ∧ outcome.name = message.name) ∧
    (node.task = .recording message.requestId outcome ∨
      node.model.saveResults message.requestId = some outcome)

/-- How far the save of a request is. -/
inductive Underway (mapDir : FilePath) (start : MapSessionNode) (message : SaveRequest)
    (node : MapSessionNode) : Prop where
  | beginning {sessionId : String}
      (hTask : node.task = .beginning message sessionId ∨
        node.task = .announcing message sessionId)
      (hFiles : SameOutside start.files node.files (mapDir ++ [stagingDirname]))
  | running {run : SaveRun} (hRun : node.task.run? = some run)
      (hId : run.requestId = message.requestId)
      (hPlace : run.txn.mapDir = mapDir ∧ run.txn.name = message.name)
      (hFree : node.task.prepared = true → run.txn.Free node.files)
      (hFiles : SameOutside start.files node.files (mapDir ++ [stagingDirname]))
  | recording {outcome : SaveOutcome} (hTask : node.task = .recording message.requestId outcome)
      (hState : outcome.state ≠ .running)
      (hFiles : (outcome.state = .succeeded ∧ outcome.name = message.name) ∨
        SameOutside start.files node.files (mapDir ++ [stagingDirname]))
  | recorded {outcome : SaveOutcome} (hTask : node.task = .free)
      (hResult : node.model.saveResults message.requestId = some outcome)
      (hState : node.model.saveState ≠ .running)
      (hFiles : (outcome.state = .succeeded ∧ outcome.name = message.name) ∨
        SameOutside start.files node.files (mapDir ++ [stagingDirname]))
  | raised (hTask : node.task = .raised)
      (hResult : node.model.saveResults message.requestId = none)
      (hFiles : SameOutside start.files node.files (mapDir ++ [stagingDirname]))

theorem publish_ok {txn : MapSaveTransaction} {fs next : FileSystem} {ops : FileOps}
    {outcome : SaveOutcome} (h : txn.publish lib fs ops = (next, .ok outcome)) :
    outcome.state = .succeeded ∧ outcome.name = txn.name ∧ outcome.sessionId = txn.sessionId := by
  unfold MapSaveTransaction.publish at h
  split at h
  · exact nomatch h
  · split at h
    · exact nomatch h
    · dsimp only at h
      split at h
      · exact nomatch h
      · cases h
        exact ⟨rfl, rfl, rfl⟩

section Underway

variable {start node next : MapSessionNode} {message : SaveRequest}

theorem Underway.keeps (h : Underway mapDir start message node) (hOver : node.task.isOver = false)
    (hKeeps : Keeps mapDir node next) (hNamed : ∀ run, node.task.run? = some run → run.txn.Named) :
    Underway mapDir start message next := by
  cases h with
  | beginning hTask hFiles =>
    exact .beginning (hTask.imp hKeeps.task.trans hKeeps.task.trans) (hFiles.trans hKeeps.files)
  | running hRun hId hPlace hFree hFiles =>
    refine .running (by rw [hKeeps.task]; exact hRun) hId hPlace (fun hPrepared => ?_)
      (hFiles.trans hKeeps.files)
    rw [hKeeps.task] at hPrepared
    refine (hFree hPrepared).of_sameOutside (hNamed _ hRun) ?_
    unfold MapSaveTransaction.stagingRoot
    rw [hPlace.1]
    exact hKeeps.files
  | recording hTask hState hFiles =>
    exact .recording (hKeeps.task.trans hTask) hState
      (hFiles.imp_right fun hFiles => hFiles.trans hKeeps.files)
  | recorded hTask | raised hTask =>
    rw [hTask] at hOver
    exact nomatch hOver

theorem Underway.work (h : Underway mapDir start message node) (hHandling : Handling node)
    (hOver : node.task.isOver = false) (w : Work) :
    Underway mapDir start message (node.onWork lib mapDir w) := by
  cases h with
  | @beginning sessionId hTask hFiles =>
    obtain hTask | hTask := hTask
    · have hWork : node.onWork lib mapDir w = { node with
          model := node.model.beginSave message.requestId
          task := .announcing message sessionId } := by
        unfold onWork
        rw [hTask]
      rw [hWork]
      exact .beginning (.inr rfl) hFiles
    · have hPending := hHandling.pending message.requestId (by rw [hTask]; rfl)
      unfold onWork
      rw [hTask]
      dsimp only
      split
      · exact .raised rfl hPending.2 hFiles
      · exact .running rfl rfl ⟨rfl, rfl⟩ (fun h => nomatch h) hFiles
  | @running run hRun hId hPlace hFree hFiles =>
    have hNamed := hHandling.running run hRun
    have hRoot : run.txn.stagingRoot = mapDir ++ [stagingDirname] := by
      rw [MapSaveTransaction.stagingRoot, hPlace.1]
    obtain ⟨files, task, hWork, hStep⟩ :=
      @onWork_run lib mapDir _ _ hRun hNamed w
    rw [hWork]
    cases hStep with
    | goesOn hNext hPrepared hStepFree hStepFiles =>
      have hNextFree : run.txn.Free node.files := hStepFree.elim hFree id
      exact .running hNext hId hPlace (fun _ => hNextFree.of_sameOutside hNamed hStepFiles)
        (hFiles.trans (hRoot ▸ hStepFiles))
    | fails detail hStepFiles =>
      exact .recording (congrArg (SaveTask.recording · _) hId) nofun
        (.inr (hFiles.trans (hRoot ▸ hStepFiles)))
    | raises hStepFiles =>
      have hPending := hHandling.pending _ (SaveTask.requestId_of_run hRun)
      exact .raised rfl (hId ▸ hPending.2) (hFiles.trans (hRoot ▸ hStepFiles))
    | publishes ops hTask hPublish =>
      obtain ⟨hState, hName, -⟩ := publish_ok hPublish
      exact .recording (congrArg (SaveTask.recording · _) hId) (by rw [hState]; exact nofun)
        (.inl ⟨hState, hName.trans hPlace.2⟩)
  | @recording outcome hTask hState hFiles =>
    have hWork : node.onWork lib mapDir w = { node with
        model := node.model.recordSave message.requestId outcome, task := .free } := by
      unfold onWork
      rw [hTask]
    rw [hWork]
    refine .recorded rfl ?_ ?_ hFiles
    · exact (congrFun (MapSessionModel.saveResults_recordSave ..) _).trans
        (Function.update_self ..)
    · rw [MapSessionModel.saveState_recordSave]
      exact hState
  | recorded hTask | raised hTask =>
    rw [hTask] at hOver
    exact nomatch hOver

theorem Underway.step (h : Underway mapDir start message node) (hHandling : Handling node)
    (hOver : node.task.isOver = false) (input : SaveInput) :
    Underway mapDir start message (step lib mapDir node input) := by
  cases hInput : input.isWork with
  | true =>
    cases input with
    | work w => exact h.work hHandling hOver w
    | _ => exact nomatch hInput
  | false =>
    obtain ⟨other, -, hTask, -⟩ | hKeeps := @step_cases lib mapDir node _ hInput
    · rw [hTask] at hOver
      exact nomatch hOver
    · exact h.keeps hOver hKeeps hHandling.running

theorem Underway.handle (h : Underway mapDir start message node) (hHandling : Handling node)
    (inputs : List SaveInput) : Underway mapDir start message (handle lib mapDir node inputs) := by
  induction inputs generalizing node with
  | nil => exact h
  | cons input inputs ih =>
    unfold MapSessionNode.handle
    cases hOver : node.task.isOver with
    | true => exact h
    | false => exact ih (h.step hHandling hOver input) (hHandling.step input)

/-- The files of a save that has not published are those of its beginning, but for the staging
area. -/
theorem Underway.files (h : Underway mapDir start message node) :
    Published message node ∨ SameOutside start.files node.files (mapDir ++ [stagingDirname]) := by
  cases h with
  | beginning _ hFiles | running _ _ _ _ hFiles | raised _ _ hFiles => exact .inr hFiles
  | recording hTask _ hFiles => exact hFiles.imp_left fun hState => ⟨_, hState, .inl hTask⟩
  | recorded _ hResult _ hFiles => exact hFiles.imp_left fun hState => ⟨_, hState, .inr hResult⟩

/-- Of a request that the thread has left, the outcome is recorded unless the thread has died. -/
theorem Underway.answered_iff (h : Underway mapDir start message node)
    (hOver : node.task.isOver = true) : Answered message node ↔ node.task ≠ .raised := by
  cases h with
  | beginning hTask =>
    obtain hTask | hTask := hTask
    all_goals
      rw [hTask] at hOver
      exact nomatch hOver
  | recording hTask =>
    rw [hTask] at hOver
    exact nomatch hOver
  | running hRun =>
    cases hTask : node.task with
    | free | raised =>
      rw [hTask] at hRun
      exact nomatch hRun
    | _ =>
      rw [hTask] at hOver
      exact nomatch hOver
  | recorded hTask hResult hState =>
    exact iff_of_true ⟨⟨_, hResult⟩, hState⟩ (by rw [hTask]; exact nofun)
  | raised hTask hResult =>
    refine iff_of_false (fun hAnswered => ?_) (not_not_intro hTask)
    obtain ⟨⟨outcome, hOutcome⟩, -⟩ := hAnswered
    exact nomatch hResult.symm.trans hOutcome

/-- The thread dies in the step exactly if the step is not calm. -/
theorem Underway.raised_iff (h : Underway mapDir start message node) (hHandling : Handling node)
    (hOver : node.task.isOver = false) (w : Work) :
    (node.onWork lib mapDir w).task = .raised ↔ ¬ Calm lib mapDir node w := by
  refine onWork_raised (fun hTask => ?_) (fun run hTask => ?_) w
  · rw [hTask] at hOver
    exact nomatch hOver
  · have hRun : node.task.run? = some run := by rw [hTask]; rfl
    refine ⟨?_, hHandling.running run hRun⟩
    cases h with
    | running hOther _ _ hFree =>
      obtain rfl := Option.some.inj (hRun.symm.trans hOther)
      exact hFree (by rw [hTask]; rfl)
    | beginning hOther =>
      exact hOther.elim (fun hOther => nomatch hTask.symm.trans hOther)
        fun hOther => nomatch hTask.symm.trans hOther
    | recording hOther | recorded hOther | raised hOther =>
      exact nomatch hTask.symm.trans hOther

theorem raised_handle {inputs : List SaveInput} (h : node.task = .raised) :
    handle lib mapDir node inputs = node := by
  cases inputs with
  | nil => rfl
  | cons input inputs =>
    unfold MapSessionNode.handle
    rw [h]
    rfl

/-- The thread lives to the end of the save exactly if every step is calm. -/
theorem Underway.calmRun_iff (h : Underway mapDir start message node) (hHandling : Handling node)
    (hTask : node.task ≠ .raised) (inputs : List SaveInput) :
    (MapSessionNode.handle lib mapDir node inputs).task ≠ .raised ↔
      CalmRun lib mapDir node inputs := by
  induction inputs generalizing node with
  | nil => exact iff_of_true hTask trivial
  | cons input inputs ih =>
    unfold MapSessionNode.handle CalmRun
    cases hOver : node.task.isOver with
    | true => exact iff_of_true hTask (.inl rfl)
    | false =>
      rw [if_neg Bool.false_ne_true]
      have hNext := @Underway.step lib _ _ _ _ h hHandling hOver input
      have hCalm : (node.step lib mapDir input).task ≠ .raised ↔
          ∀ w, input = .work w → Calm lib mapDir node w := by
        cases hInput : input.isWork with
        | true =>
          cases input with
          | work w =>
            rw [← not_iff_not, not_ne_iff]
            refine (h.raised_iff hHandling hOver w).trans (not_congr ?_)
            exact ⟨fun hCalm other hOther => by cases hOther; exact hCalm, fun hCalm => hCalm w rfl⟩
          | _ => exact nomatch hInput
        | false =>
          refine iff_of_true ?_ fun w hWork => ?_
          · obtain ⟨other, -, -, -, hStep⟩ | hKeeps :=
              @step_cases lib mapDir node _ hInput
            · rw [hStep]
              exact nofun
            · rw [hKeeps.task]
              exact hTask
          · rw [hWork] at hInput
            exact nomatch hInput
      rw [← hCalm]
      by_cases hRaised : (node.step lib mapDir input).task = .raised
      · rw [raised_handle hRaised]
        exact iff_of_false (not_not_intro hRaised)
          (fun hOther => hOther.elim nofun fun hOther => hOther.1 hRaised)
      · refine (ih hNext (hHandling.step input) hRaised).trans ?_
        exact ⟨fun hRest => .inr ⟨hRaised, hRest⟩, fun hRest => hRest.elim nofun And.right⟩

theorem rank_step {input : SaveInput} (hOver : node.task.isOver = false) :
    (node.step lib mapDir input).task.rank + (if input.isWork then 1 else 0) ≤ node.task.rank := by
  cases hInput : input.isWork with
  | true =>
    cases input with
    | work w => exact rank_onWork hOver w
    | _ => exact nomatch hInput
  | false =>
    obtain ⟨other, -, hTask, -⟩ | hKeeps := @step_cases lib mapDir node _ hInput
    · rw [hTask] at hOver
      exact nomatch hOver
    · rw [hKeeps.task]
      exact le_rfl

/-- After enough steps the thread has left the request. -/
theorem over_handle {inputs : List SaveInput}
    (h : node.task.rank ≤ inputs.countP SaveInput.isWork) :
    (handle lib mapDir node inputs).task.isOver = true := by
  induction inputs generalizing node with
  | nil =>
    rw [List.countP_nil, Nat.le_zero] at h
    unfold handle
    cases hTask : node.task with
    | free | raised => rfl
    | checking message sessionId check =>
      rw [hTask] at h
      change 13 + (6 - check) = 0 at h
      omega
    | _ =>
      rw [hTask] at h
      exact nomatch h
  | cons input inputs ih =>
    unfold handle
    cases hOver : node.task.isOver with
    | true => exact hOver
    | false =>
      have hRank := @rank_step lib mapDir _ input hOver
      rw [List.countP_cons] at h
      exact ih (by omega)

end Underway

/-! ## How an accepted save ends -/

/-- From the moment a save is accepted, twelve steps of the thread are enough to end it, whatever
happens in between. Its outcome is then recorded, with no save counted as running, exactly if no
step has met an exception that the save does not catch. Unless the publication has completed, the
catalog has the same complete maps as before, apart from those whose raster lies in the staging
area. `Underway` has one case for each step of the thread and says what is on disk at it. -/
theorem save_answered_iff (lib : SaveLibrary) (mapDir : FilePath) (files : FileSystem)
    (before after : List SaveInput) (message : SaveRequest)
    (hAccepted : (run lib mapDir { files } before).task.accepted = some message) :
    let start := run lib mapDir { files } before
    let node := handle lib mapDir start after
    (12 ≤ after.countP SaveInput.isWork → node.task.isOver = true) ∧
      (node.task.isOver = true → (Answered message node ↔ CalmRun lib mapDir start after)) ∧
      (Published message node ∨
        ∀ name, ¬ StagedRaster lib.bundle start.files mapDir name →
          (Complete lib.bundle node.files mapDir name ↔
            Complete lib.bundle start.files mapDir name)) := by
  intro start node
  have hHandling : Handling start := (Handling.init files).run before
  obtain ⟨sessionId, hTask⟩ : ∃ sessionId, start.task = .beginning message sessionId := by
    change start.task.accepted = some message at hAccepted
    cases hTask : start.task with
    | beginning other sessionId =>
      rw [hTask] at hAccepted
      cases hAccepted
      exact ⟨sessionId, rfl⟩
    | _ =>
      rw [hTask] at hAccepted
      exact nomatch hAccepted
  have hStart : Underway mapDir start message start :=
    .beginning (.inl hTask) (SameOutside.refl _ _)
  have hNode : Underway mapDir start message node := hStart.handle hHandling after
  refine ⟨fun hWork => over_handle (by rw [hTask]; exact hWork), fun hOver => ?_, ?_⟩
  · exact (hNode.answered_iff hOver).trans
      (hStart.calmRun_iff hHandling (by rw [hTask]; exact nofun) after)
  · exact hNode.files.imp_right fun hFiles name hRaster => hFiles.complete_iff hRaster

/-! ### A save whose staging directory cannot be made -/

/-- A library for which no file parses. -/
def unreadLibrary : SaveLibrary where
  catalog := strictLibrary
  format6 _ := ""
  yaw _ _ := .finite 0

/-- The map root holds nothing. -/
def emptyMaps : FileSystem where
  file _ := none
  isDir path := path = ["maps"]

/-- The map root has changed since the last scan and holds no map. -/
def emptyLook : CatalogLook where
  unchanged := false
  selected := ""
  names := []
  names_nodup := .nil
  statFails _ := false
  sendFails := false

/-- A step at this time in which nothing is answered. -/
def workAt (now : ℚ) (raises : Bool) : SaveInput :=
  .work {
    now, ops := { raises, left := emptyMaps }, look := emptyLook, serviceReady := true
    answer := none, polls := [], lastPoll := { now, last := none }, created := .int 0 }

def garageRequest : SaveRequest :=
  { requestId := 1, leaseId := "lease", name := "garage", sessionId := "first" }

/-- A mapping session gets ready, STOP is asserted, and a save passes its checks. -/
def garageInputs : List SaveInput :=
  [ .modeState { mode := 1, status := 0, ready := true, mappingSessionId := "first"
                 runtimeEpoch := 1 } 0,
    .map 10, .lease true "lease", .stopState true true 10, .request garageRequest ] ++
  List.replicate 8 (workAt 10 false)

theorem garage_accepted :
    (run unreadLibrary ["maps"] { files := emptyMaps } garageInputs).task.accepted =
      some garageRequest := by
  decide +kernel

/-- The serialization times out, which is recorded. -/
theorem save_answered_iff_garage :
    let start := run unreadLibrary ["maps"] { files := emptyMaps } garageInputs
    let after := List.replicate 12 (workAt 10 false)
    Answered garageRequest (handle unreadLibrary ["maps"] start after) ∧
      CalmRun unreadLibrary ["maps"] start after := by
  intro start after
  obtain ⟨hOver, hAnswered, -⟩ := save_answered_iff unreadLibrary ["maps"] emptyMaps garageInputs
    after garageRequest garage_accepted
  have hTimedOut : Answered garageRequest (handle unreadLibrary ["maps"] start after) :=
    ⟨⟨failure .timedOut, by decide +kernel⟩, by decide +kernel⟩
  exact ⟨hTimedOut, (hAnswered (hOver (by decide))).mp hTimedOut⟩

/-- The staging directory cannot be made: the thread dies, and the save counts as running. -/
theorem mkdir_error_loses_save :
    ¬ ∀ (lib : SaveLibrary) (mapDir : FilePath) (files : FileSystem)
      (before after : List SaveInput) (message : SaveRequest),
      (run lib mapDir { files } before).task.accepted = some message →
      (handle lib mapDir (run lib mapDir { files } before) after).task.isOver = true →
      Answered message (handle lib mapDir (run lib mapDir { files } before) after) := by
  intro hAll
  have hAnswered := hAll unreadLibrary ["maps"] emptyMaps garageInputs
    [workAt 10 false, workAt 10 false, workAt 10 true] garageRequest garage_accepted
      (by decide +kernel)
  exact absurd hAnswered.2 (by decide +kernel)

/-- So it goes as well if the scan of the publication before it meets an error. -/
example :
    let start := run unreadLibrary ["maps"] { files := emptyMaps } garageInputs
    let node := handle unreadLibrary ["maps"] start [workAt 10 false, workAt 10 true]
    node.task.isOver = true ∧ node.model.saveState = .running := by
  decide +kernel

end MapSessionNode

end PreRunner.Paddock
