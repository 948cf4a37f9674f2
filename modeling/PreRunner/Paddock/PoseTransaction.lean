import PreRunner.Runs.History
import PreRunner.Paddock.InitialPose

/-!
# The safety of the initial-pose transaction

A seed is published at most once for each accepted transaction, and only after a snapshot under
which the robot had stopped where the transaction began; what is reported as applied was confirmed
and cleared; the callbacks of an earlier transaction leave a later one alone; and no CLEAR_STOP
leaves the node while a transaction is pending. Each of these holds in every interleaving.
-/

namespace PreRunner.Paddock

open Runs

/-! ## Safe snapshots -/

/-- The conditions of a transaction: stable AUTONOMY with the epoch and map of its acceptance, a
healthy applied and locked STOP, and a stationary robot, all fresh. -/
structure PoseSafe (status : PoseStatus) (s : PoseSnapshot) : Prop where
  modeFresh : s.modeFresh = true
  mode : ∃ mode, s.mode = some mode ∧ mode.mode = modeAutonomy ∧ mode.status = statusStable ∧
    mode.ready = true ∧ mode.runtimeEpoch = status.runtimeEpoch ∧
    mode.activeAutonomyMap = status.map
  mapFresh : s.mapFresh = true
  selected : s.selectedMap = status.map
  stopFresh : s.stopFresh = true
  stop : ∃ stop, s.stopState = some stop ∧ stop.stopped = true ∧ stop.locked = true ∧
    stop.healthy = true ∧ stop.applied = true
  encoderFresh : s.encoderFresh = true
  stationary : s.stationary = some true

section

variable {s : PoseSnapshot} {record : PoseRecord}

theorem initialPoseRejection_none (h : s.initialPoseRejection = none) :
    s.modeFresh = true ∧ (∃ mode, s.mode = some mode ∧ mode.mode = modeAutonomy ∧
      mode.status = statusStable ∧ mode.ready = true) ∧ s.mapFresh = true := by
  unfold PoseSnapshot.initialPoseRejection at h
  by_cases hFresh : s.modeFresh = false
  · rw [if_pos hFresh] at h
    cases h
  by_cases hMode : s.mode.map (·.mode) ≠ some modeAutonomy ∨
      s.mode.map (·.status) ≠ some statusStable
  · rw [if_neg hFresh, if_pos hMode] at h
    cases h
  by_cases hReady : s.mode.map (·.ready) ≠ some true
  · rw [if_neg hFresh, if_neg hMode, if_pos hReady] at h
    cases h
  by_cases hMap : s.mapFresh = false ∨ s.selectedMap = "" ∨ s.selectionComplete = false
  · rw [if_neg hFresh, if_neg hMode, if_neg hReady, if_pos hMap] at h
    cases h
  obtain ⟨mode, hSome, hValue⟩ := Option.map_eq_some_iff.mp (not_not.mp (not_or.mp hMode).1)
  have hStatus : s.mode.map (·.status) = some statusStable := not_not.mp (not_or.mp hMode).2
  rw [hSome] at hStatus hReady
  refine ⟨Bool.eq_true_of_not_eq_false hFresh, ⟨mode, hSome, hValue, Option.some.inj hStatus,
    Option.some.inj (not_not.mp hReady)⟩, Bool.eq_true_of_not_eq_false (not_or.mp hMap).1⟩

theorem safetyRejection_none (h : s.initialPoseSafetyRejection = none) : s.stopFresh = true ∧
    (∃ stop, s.stopState = some stop ∧ stop.stopped = true ∧ stop.locked = true ∧
      stop.healthy = true ∧ stop.applied = true) ∧
    s.encoderFresh = true ∧ s.stationary = some true := by
  unfold PoseSnapshot.initialPoseSafetyRejection at h
  by_cases hStop : s.stopFresh = false
  · rw [if_pos hStop] at h
    cases h
  by_cases hState : (s.stopState.any fun stop =>
      stop.stopped && stop.locked && stop.healthy && stop.applied) = false
  · rw [if_neg hStop, if_pos hState] at h
    cases h
  by_cases hEncoder : s.encoderFresh = false
  · rw [if_neg hStop, if_neg hState, if_pos hEncoder] at h
    cases h
  by_cases hStationary : s.stationary ≠ some true
  · rw [if_neg hStop, if_neg hState, if_neg hEncoder, if_pos hStationary] at h
    cases h
  obtain ⟨stop, hSome, hAll⟩ := (Option.any_eq_true _ _).mp (Bool.eq_true_of_not_eq_false hState)
  simp only [Bool.and_eq_true] at hAll
  exact ⟨Bool.eq_true_of_not_eq_false hStop, ⟨stop, hSome, hAll.1.1.1, hAll.1.1.2, hAll.1.2,
    hAll.2⟩, Bool.eq_true_of_not_eq_false hEncoder, not_not.mp hStationary⟩

theorem contextChanged_none (h : record.contextChanged s = none) :
    s.initialPoseRejection = none ∧ s.runtimeEpoch = record.status.runtimeEpoch ∧
      s.selectedMap = record.status.map ∧ s.activeMap = record.status.map := by
  unfold PoseRecord.contextChanged at h
  split at h
  · cases h
  · rename_i hRejection
    by_cases hSame : s.runtimeEpoch ≠ record.status.runtimeEpoch ∨
        s.selectedMap ≠ record.status.map ∨ s.activeMap ≠ record.status.map
    · rw [if_pos hSame] at h
      cases h
    · simpa [hRejection, not_or] using hSame

/-- A snapshot that passes both checks is safe. -/
theorem poseSafe_of_none (hContext : record.contextChanged s = none)
    (hSafety : s.initialPoseSafetyRejection = none) : PoseSafe record.status s := by
  obtain ⟨hRejection, hEpoch, hSelected, hActive⟩ := contextChanged_none hContext
  obtain ⟨hFresh, ⟨mode, hSome, hMode, hStatus, hReady⟩, hMap⟩ :=
    initialPoseRejection_none hRejection
  obtain ⟨hStopFresh, hStop, hEncoder, hStationary⟩ := safetyRejection_none hSafety
  rw [PoseSnapshot.runtimeEpoch, hSome] at hEpoch
  rw [PoseSnapshot.activeMap, hSome] at hActive
  exact ⟨hFresh, ⟨mode, hSome, hMode, hStatus, hReady, hEpoch, hActive⟩, hMap, hSelected,
    hStopFresh, hStop, hEncoder, hStationary⟩

theorem poseSafe_of_obstacle (h : record.obstacle s = none) : PoseSafe record.status s := by
  unfold PoseRecord.obstacle at h
  split at h
  · cases h
  · rename_i hContext
    exact poseSafe_of_none hContext h

end

/-! ## What is known of a node -/

/-- The publication of the seed of one transaction. -/
def PoseEffect.isPosed (id : ℕ) : PoseEffect → Bool
  | posed other _ => other = id
  | _ => false

namespace PoseNode

/-- How often the seed of a transaction was published. -/
def posed (node : PoseNode) (id : ℕ) : ℕ := node.trace.countP (PoseEffect.isPosed id)

/-- The transaction was accepted. -/
def Known (node : PoseNode) (id : ℕ) : Prop := ∃ record, .accepted id record ∈ node.history

/-- The map pose of the robot agreed with the request. -/
def Confirmed (node : PoseNode) (id : ℕ) : Prop :=
  ∃ pose snapshot, .agreed id pose snapshot ∈ node.trace

/-- The pose agreed, and both costmaps were cleared. -/
def Supported (node : PoseNode) (id : ℕ) : Prop :=
  node.Confirmed id ∧ ∀ costmap, .cleared id costmap ∈ node.trace

/-- The invariant of the node. -/
structure Sound (normalizedYaw : ℚ → ℚ) (node : PoseNode) : Prop where
  pending : ∀ id, node.pending = some id → node.Known id
  accepted : ∀ id record, .accepted id record ∈ node.history → id ≤ node.requestId ∧
    (node.records id).status = record.status ∧ (node.records id).intent = record.intent
  unposed : ∀ id, (node.records id).phase = .waitingStop ∨ node.requestId < id →
    node.posed id = 0
  once : ∀ id, node.posed id ≤ 1
  safe : ∀ id s, .posed id s ∈ node.trace → node.Known id ∧ PoseSafe (node.records id).status s
  agreed : ∀ id pose s, .agreed id pose s ∈ node.trace → node.Known id ∧
    (node.records id).agrees normalizedYaw pose = true ∧ PoseSafe (node.records id).status s
  clearing : ∀ id, (node.records id).phase = .clearing → node.Confirmed id ∧
    ∀ costmap, costmap ∈ (node.records id).clearPending ∨ .cleared id costmap ∈ node.trace ∨
      (node.records id).clearErrors ≠ []
  applied : ∀ id outcome, .ended id outcome ∈ node.history → outcome.state = .applied →
    node.Supported id ∧ outcome.status = (node.records id).status
  inFlight : ∀ id costmap, (id, costmap) ∈ node.inFlight →
    .clearRequested id costmap ∈ node.trace
  cleared : ∀ id costmap, .cleared id costmap ∈ node.trace →
    .clearRequested id costmap ∈ node.trace
  shown : ∀ r, node.initialPose = some r → r.shown.state = .applied →
    ∃ id, .ended id r.shown ∈ node.history

/-- What a later state keeps. -/
structure Extends (node next : PoseNode) : Prop where
  trace : ∀ effect ∈ node.trace, effect ∈ next.trace
  history : ∀ change ∈ node.history, change ∈ next.history
  records : ∀ id, node.Known id → (next.records id).status = (node.records id).status ∧
    (next.records id).intent = (node.records id).intent

end PoseNode

/-- What an operation that waits has established. -/
def PoseOp.Ok (normalizedYaw : ℚ → ℚ) (node : PoseNode) : PoseOp → Prop
  | expire | advance | lookup | confirm _ => True
  | expired id | fail id _ _ | inspect id _ | check id _ | call id _ => node.Known id
  | publish id s => node.Known id ∧ PoseSafe (node.records id).status s
  | observe id pose => node.Known id ∧ (node.records id).agrees normalizedYaw pose = true
  | startClear id _ => node.Known id ∧ node.Confirmed id
  | finish id costmap error => error = none → .cleared id costmap ∈ node.trace
  | verify id _ | complete id _ => node.Supported id
  | report r => r.shown.state = .applied → ∃ id, .ended id r.shown ∈ node.history

namespace PoseNode

theorem Extends.refl (node : PoseNode) : node.Extends node :=
  ⟨fun _ h => h, fun _ h => h, fun _ _ => ⟨rfl, rfl⟩⟩

section

variable {normalizedYaw : ℚ → ℚ} {node next : PoseNode}

theorem Extends.known (h : node.Extends next) {id : ℕ} (hKnown : node.Known id) :
    next.Known id := hKnown.imp fun _ hMem => h.history _ hMem

theorem Extends.confirmed (h : node.Extends next) {id : ℕ} (hConfirmed : node.Confirmed id) :
    next.Confirmed id :=
  hConfirmed.imp fun _ hPose => hPose.imp fun _ hMem => h.trace _ hMem

theorem Extends.supported (h : node.Extends next) {id : ℕ} (hSupported : node.Supported id) :
    next.Supported id :=
  ⟨h.confirmed hSupported.1, fun costmap => h.trace _ (hSupported.2 costmap)⟩

theorem agrees_congr {record other : PoseRecord} (h : other.intent = record.intent)
    (pose : TfPose) : other.agrees normalizedYaw pose = record.agrees normalizedYaw pose := by
  unfold PoseRecord.agrees
  rw [h]

/-- What an operation has established survives all steps. -/
theorem Extends.ok (h : node.Extends next) {op : PoseOp} (hOp : op.Ok normalizedYaw node) :
    op.Ok normalizedYaw next := by
  cases op with
  | expire | advance | lookup | confirm _ => trivial
  | expired id | fail id _ _ | inspect id _ | check id _ | call id _ => exact h.known hOp
  | publish id s =>
    refine ⟨h.known hOp.1, ?_⟩
    rw [(h.records id hOp.1).1]
    exact hOp.2
  | observe id pose =>
    refine ⟨h.known hOp.1, ?_⟩
    rw [agrees_congr (h.records id hOp.1).2]
    exact hOp.2
  | startClear id _ => exact ⟨h.known hOp.1, h.confirmed hOp.2⟩
  | finish id costmap error => exact fun hError => h.trace _ (hOp hError)
  | verify id _ | complete id _ => exact h.supported hOp
  | report r => exact fun hApplied => (hOp hApplied).imp fun _ hMem => h.history _ hMem

end

/-! ## Changes of the node -/

section

variable {normalizedYaw : ℚ → ℚ} {node : PoseNode} {id : ℕ}

theorem extends_setRecord {record : PoseRecord} (hStatus : record.status = (node.records id).status)
    (hIntent : record.intent = (node.records id).intent) :
    node.Extends (node.setRecord id record) := by
  refine ⟨fun _ h => h, fun _ h => h, fun other _ => ?_⟩
  by_cases hSame : other = id
  · subst hSame
    exact ⟨by simp [setRecord, hStatus], by simp [setRecord, hIntent]⟩
  · exact ⟨by simp [setRecord, hSame], by simp [setRecord, hSame]⟩

theorem extends_log (node : PoseNode) (effect : PoseEffect) : node.Extends (node.log effect) :=
  ⟨fun _ h => List.mem_cons_of_mem _ h, fun _ h => h, fun _ _ => ⟨rfl, rfl⟩⟩

/-- A transaction's dictionary changes. -/
theorem Sound.setRecord (h : Sound normalizedYaw node) {record : PoseRecord}
    (hStatus : record.status = (node.records id).status)
    (hIntent : record.intent = (node.records id).intent)
    (hPhase : record.phase = .waitingStop → node.posed id = 0)
    (hClearing : record.phase = .clearing → node.Confirmed id ∧
      ∀ costmap, costmap ∈ record.clearPending ∨ .cleared id costmap ∈ node.trace ∨
        record.clearErrors ≠ []) :
    Sound normalizedYaw (node.setRecord id record) := by
  have hExtends : node.Extends (node.setRecord id record) := extends_setRecord hStatus hIntent
  have hAt : (node.setRecord id record).records id = record := Function.update_self ..
  have hOther : ∀ other, other ≠ id → (node.setRecord id record).records other =
      node.records other := fun other hNe => Function.update_of_ne hNe ..
  have hRecords : ∀ other, ((node.setRecord id record).records other).status =
      (node.records other).status ∧ ((node.setRecord id record).records other).intent =
      (node.records other).intent := by
    intro other
    by_cases hSame : other = id
    · subst hSame
      rw [hAt]
      exact ⟨hStatus, hIntent⟩
    · rw [hOther other hSame]
      exact ⟨rfl, rfl⟩
  refine ⟨h.pending, ?_, ?_, h.once, ?_, ?_, ?_, ?_, h.inFlight, h.cleared, h.shown⟩
  · intro other first hMem
    rw [(hRecords other).1, (hRecords other).2]
    exact h.accepted other first hMem
  · intro other hUnposed
    by_cases hSame : other = id
    · subst hSame
      rw [hAt] at hUnposed
      rcases hUnposed with hWaiting | hLate
      · exact hPhase hWaiting
      · exact h.unposed other (Or.inr hLate)
    · rw [hOther other hSame] at hUnposed
      exact h.unposed other hUnposed
  · intro other s hMem
    rw [(hRecords other).1]
    exact h.safe other s hMem
  · intro other pose s hMem
    rw [agrees_congr (hRecords other).2, (hRecords other).1]
    exact h.agreed other pose s hMem
  · intro other hPhaseOther
    by_cases hSame : other = id
    · subst hSame
      rw [hAt] at hPhaseOther ⊢
      exact hClearing hPhaseOther
    · rw [hOther other hSame] at hPhaseOther ⊢
      exact h.clearing other hPhaseOther
  · intro other outcome hMem hState
    rw [(hRecords other).1]
    exact h.applied other outcome hMem hState

/-- Something that is not a publication is logged. -/
theorem Sound.log (h : Sound normalizedYaw node) {effect : PoseEffect}
    (hPosed : ∀ id, effect.isPosed id = false)
    (hAgreed : ∀ id pose s, effect = .agreed id pose s → node.Known id ∧
      (node.records id).agrees normalizedYaw pose = true ∧ PoseSafe (node.records id).status s)
    (hCleared : ∀ id costmap, effect = .cleared id costmap →
      .clearRequested id costmap ∈ node.trace) :
    Sound normalizedYaw (node.log effect) := by
  have hExtends : node.Extends (node.log effect) := extends_log node effect
  have hCount : ∀ id, (node.log effect).posed id = node.posed id := fun id =>
    List.countP_cons_of_neg (by rw [hPosed id]; nofun)
  refine ⟨h.pending, h.accepted, ?_, ?_, ?_, ?_, ?_, ?_, ?_, ?_, h.shown⟩
  · intro id hUnposed
    rw [hCount]
    exact h.unposed id hUnposed
  · intro id
    rw [hCount]
    exact h.once id
  · intro id s hMem
    rcases List.mem_cons.mp hMem with rfl | hOld
    · have hSelf := hPosed id
      simp [PoseEffect.isPosed] at hSelf
    · exact h.safe id s hOld
  · intro id pose s hMem
    rcases List.mem_cons.mp hMem with hNew | hOld
    · exact hAgreed id pose s hNew.symm
    · exact h.agreed id pose s hOld
  · intro id hPhase
    obtain ⟨hConfirmed, hAll⟩ := h.clearing id hPhase
    refine ⟨hExtends.confirmed hConfirmed, fun costmap => ?_⟩
    exact (hAll costmap).imp_right (Or.imp_left (hExtends.trace _))
  · exact fun id outcome hMem hApplied =>
      (h.applied id outcome hMem hApplied).imp_left hExtends.supported
  · exact fun id costmap hMem => hExtends.trace _ (h.inFlight id costmap hMem)
  · intro id costmap hMem
    rcases List.mem_cons.mp hMem with hNew | hOld
    · exact List.mem_cons_of_mem _ (hCleared id costmap hNew.symm)
    · exact hExtends.trace _ (h.cleared id costmap hOld)

/-- The seed of a transaction is published. -/
theorem Sound.logPosed (h : Sound normalizedYaw node) {s : PoseSnapshot}
    (hPhase : (node.records id).phase ≠ .waitingStop) (hKnown : node.Known id)
    (hNone : node.posed id = 0) (hSafe : PoseSafe (node.records id).status s) :
    Sound normalizedYaw (node.log (.posed id s)) := by
  have hExtends : node.Extends (node.log (.posed id s)) := extends_log node _
  have hSelf : (node.log (.posed id s)).posed id = 1 := by
    rw [PoseNode.posed, PoseNode.log, List.countP_cons_of_pos (by simp [PoseEffect.isPosed])]
    exact congrArg (· + 1) hNone
  have hOther : ∀ other, other ≠ id → (node.log (.posed id s)).posed other = node.posed other :=
    fun other hNe => List.countP_cons_of_neg (by simp [PoseEffect.isPosed, hNe.symm])
  refine ⟨h.pending, h.accepted, ?_, ?_, ?_, ?_, ?_, ?_, ?_, ?_, h.shown⟩
  · intro other hUnposed
    have hNe : other ≠ id := by
      rintro rfl
      rcases hUnposed with hWaiting | hLate
      · exact hPhase hWaiting
      · obtain ⟨record, hMem⟩ := hKnown
        exact absurd (h.accepted _ record hMem).1 (Nat.not_le_of_lt hLate)
    rw [hOther other hNe]
    exact h.unposed other hUnposed
  · intro other
    by_cases hSame : other = id
    · rw [hSame, hSelf]
    · rw [hOther other hSame]
      exact h.once other
  · intro other snapshot hMem
    rcases List.mem_cons.mp hMem with hNew | hOld
    · cases hNew
      exact ⟨hKnown, hSafe⟩
    · exact h.safe other snapshot hOld
  · intro other pose snapshot hMem
    rcases List.mem_cons.mp hMem with hNew | hOld
    · cases hNew
    · exact h.agreed other pose snapshot hOld
  · intro other hClearing
    obtain ⟨hConfirmed, hAll⟩ := h.clearing other hClearing
    refine ⟨hExtends.confirmed hConfirmed, fun costmap => ?_⟩
    exact (hAll costmap).imp_right (Or.imp_left (hExtends.trace _))
  · exact fun other outcome hMem hApplied =>
      (h.applied other outcome hMem hApplied).imp_left hExtends.supported
  · exact fun other costmap hMem => hExtends.trace _ (h.inFlight other costmap hMem)
  · intro other costmap hMem
    rcases List.mem_cons.mp hMem with hNew | hOld
    · cases hNew
    · exact hExtends.trace _ (h.cleared other costmap hOld)

end

/-! ## The operations of the executor -/

/-- An operation keeps the invariant, and what it leaves to be run is established. -/
structure Good (normalizedYaw : ℚ → ℚ) (node : PoseNode) (result : PoseNode × List PoseOp) :
    Prop where
  keeps : node.Extends result.1
  sound : Sound normalizedYaw result.1
  ops : ∀ op ∈ result.2, op.Ok normalizedYaw result.1

section

variable {normalizedYaw : ℚ → ℚ} {node : PoseNode}

theorem good_nil (h : Sound normalizedYaw node) : Good normalizedYaw node (node, []) :=
  ⟨.refl node, h, fun _ hMem => (List.not_mem_nil hMem).elim⟩

theorem good_next (h : Sound normalizedYaw node) {op : PoseOp} (hOp : op.Ok normalizedYaw node) :
    Good normalizedYaw node (node, [op]) := by
  refine ⟨.refl node, h, fun other hMem => ?_⟩
  rw [List.mem_singleton.mp hMem]
  exact hOp

/-- No transaction is pending any more. -/
theorem sound_change (h : Sound normalizedYaw node) {change : PoseChange}
    (hNew : ∀ id record, change ≠ .accepted id record)
    (hApplied : ∀ id outcome, change = .ended id outcome → outcome.state = .applied →
      node.Supported id ∧ outcome.status = (node.records id).status) :
    Sound normalizedYaw { node with pending := none, history := change :: node.history } := by
  have hKnown : ∀ id, node.Known id → ∃ record : PoseRecord,
      PoseChange.accepted id record ∈ change :: node.history :=
    fun id hOld => hOld.imp fun _ hMem => List.mem_cons_of_mem _ hMem
  refine ⟨nofun, ?_, h.unposed, h.once, ?_, ?_, h.clearing, ?_, h.inFlight, h.cleared, ?_⟩
  · intro id record hMem
    rcases List.mem_cons.mp hMem with hLast | hOld
    · exact absurd hLast.symm (hNew id record)
    · exact h.accepted id record hOld
  · exact fun id s hMem => ⟨hKnown id (h.safe id s hMem).1, (h.safe id s hMem).2⟩
  · exact fun id pose s hMem =>
      ⟨hKnown id (h.agreed id pose s hMem).1, (h.agreed id pose s hMem).2⟩
  · intro id outcome hMem hState
    rcases List.mem_cons.mp hMem with hLast | hOld
    · exact hApplied id outcome hLast.symm hState
    · exact h.applied id outcome hOld hState
  · exact fun r hShown hState =>
      (h.shown r hShown hState).imp fun _ hMem => List.mem_cons_of_mem _ hMem

/-- A transaction ends. -/
theorem good_close (h : Sound normalizedYaw node) (id : ℕ) (state : PoseState) (detail : String)
    (observed : Option TfPose) (hApplied : state = .applied → node.Supported id) :
    Good normalizedYaw node (node.close id state detail observed) := by
  unfold close
  refine iteInduction (fun _ => good_nil h) fun _ => ?_
  dsimp only
  refine ⟨⟨fun _ hMem => hMem, fun _ hMem => List.mem_cons_of_mem _ hMem, fun _ _ => ⟨rfl, rfl⟩⟩,
    ?_, ?_⟩
  · refine sound_change h (fun _ _ hSame => by cases hSame) ?_
    rintro _ _ ⟨⟩ hState
    exact ⟨hApplied hState, rfl⟩
  · intro op hMem
    rw [List.mem_singleton.mp hMem]
    exact fun _ => ⟨id, List.mem_cons_self ..⟩

/-- The section is updated. -/
theorem sound_report (h : Sound normalizedYaw node) {r : PoseReport}
    (hReport : r.shown.state = .applied → ∃ id, .ended id r.shown ∈ node.history) :
    Sound normalizedYaw { node with initialPose := some r } := by
  refine ⟨h.pending, h.accepted, h.unposed, h.once, h.safe, h.agreed, h.clearing, h.applied,
    h.inFlight, h.cleared, ?_⟩
  rintro _ ⟨⟩
  exact hReport

theorem good_check (h : Sound normalizedYaw node) (env : PoseEnv) {id : ℕ} (change : ℕ)
    (hKnown : node.Known id) :
    Good normalizedYaw node (node.exec normalizedYaw env (.check id change)) := by
  dsimp only [exec]
  split
  · exact good_next h hKnown
  · rename_i hContext
    split
    · exact good_next h nofun
    · rename_i hSafety
      exact iteInduction (fun _ => good_next h hKnown) fun _ =>
        good_next h ⟨hKnown, poseSafe_of_none hContext hSafety⟩

theorem good_publish (h : Sound normalizedYaw node) (env : PoseEnv) {id : ℕ} {s : PoseSnapshot}
    (hKnown : node.Known id) (hSafe : PoseSafe (node.records id).status s) :
    Good normalizedYaw node (node.exec normalizedYaw env (.publish id s)) := by
  dsimp only [exec]
  refine iteInduction (fun _ => good_nil h) fun hGuard => ?_
  have hPhase : (node.records id).phase = .waitingStop := not_not.mp (not_or.mp hGuard).2
  have hNone : node.posed id = 0 := h.unposed id (Or.inl hPhase)
  set record : PoseRecord :=
    { node.records id with
      phase := .awaitingPose
      deadline := env.now + initialPoseConfirmTimeoutSec } with hRecord
  have hAt : (node.setRecord id record).records id = record := Function.update_self ..
  have hMoved : Sound normalizedYaw (node.setRecord id record) := h.setRecord rfl rfl nofun nofun
  have hLogged : Sound normalizedYaw ((node.setRecord id record).log (.posed id s)) := by
    refine hMoved.logPosed ?_ hKnown hNone ?_
    · rw [hAt]
      nofun
    · rw [hAt]
      exact hSafe
  have hFirst : node.Extends (node.setRecord id record) := extends_setRecord rfl rfl
  refine ⟨⟨fun _ hMem => List.mem_cons_of_mem _ hMem, fun _ hMem => hMem, hFirst.records⟩, ?_,
    fun _ hMem => (List.not_mem_nil hMem).elim⟩
  exact sound_report hLogged nofun

theorem good_observe (h : Sound normalizedYaw node) (env : PoseEnv) {id : ℕ} {pose : TfPose}
    (hKnown : node.Known id) (hAgrees : (node.records id).agrees normalizedYaw pose = true) :
    Good normalizedYaw node (node.exec normalizedYaw env (.observe id pose)) := by
  dsimp only [exec]
  split
  · exact good_next h hKnown
  · rename_i hClear
    refine ⟨extends_log node _, h.log (fun _ => rfl) ?_ nofun, fun op hMem => ?_⟩
    · rintro _ _ _ ⟨⟩
      exact ⟨hKnown, hAgrees, poseSafe_of_obstacle hClear⟩
    · rw [List.mem_singleton.mp hMem]
      exact ⟨hKnown, pose, env.snapshot, List.mem_cons_self ..⟩

theorem good_startClear (h : Sound normalizedYaw node) (env : PoseEnv) {id : ℕ} {pose : TfPose}
    (hKnown : node.Known id) (hConfirmed : node.Confirmed id) :
    Good normalizedYaw node (node.exec normalizedYaw env (.startClear id pose)) := by
  dsimp only [exec]
  refine iteInduction (fun _ => good_next h hKnown) fun _ =>
    iteInduction (fun _ => good_nil h) fun hGuard => ?_
  have hPosed : ∀ phase, phase = PosePhase.clearing → phase = .waitingStop → node.posed id = 0 := by
    rintro _ rfl ⟨⟩
  refine ⟨extends_setRecord rfl rfl, h.setRecord rfl rfl (hPosed _ rfl) fun _ => ?_,
    fun op hMem => ?_⟩
  · refine ⟨hConfirmed, fun costmap => Or.inl ?_⟩
    cases costmap
    · exact List.mem_cons_self ..
    · exact List.mem_cons_of_mem _ (List.mem_cons_self ..)
  · rcases List.mem_cons.mp hMem with rfl | hCall
    · exact nofun
    · rcases List.mem_pair.mp hCall with rfl | rfl
      · exact hKnown
      · exact hKnown

theorem good_call (h : Sound normalizedYaw node) (env : PoseEnv) {id : ℕ}
    (costmap : DynamicCostmap) :
    Good normalizedYaw node (node.exec normalizedYaw env (.call id costmap)) := by
  dsimp only [exec]
  split
  · exact good_next h nofun
  · have hLogged : Sound normalizedYaw (node.log (.clearRequested id costmap)) :=
      h.log (fun _ => rfl) (fun _ _ _ hSame => by cases hSame) fun _ _ hSame => by cases hSame
    have hExtends : node.Extends (node.log (.clearRequested id costmap)) := extends_log node _
    refine ⟨⟨hExtends.trace, hExtends.history, hExtends.records⟩, ?_,
      fun _ hMem => (List.not_mem_nil hMem).elim⟩
    refine ⟨hLogged.pending, hLogged.accepted, hLogged.unposed, hLogged.once, hLogged.safe,
      hLogged.agreed, hLogged.clearing, hLogged.applied, ?_, hLogged.cleared, hLogged.shown⟩
    intro other requested hMem
    rcases List.mem_append.mp hMem with hOld | hNew
    · exact hLogged.inFlight other requested hOld
    · cases List.mem_singleton.mp hNew
      exact List.mem_cons_self ..

theorem good_finish (h : Sound normalizedYaw node) (env : PoseEnv) {id : ℕ}
    {costmap : DynamicCostmap} {error : Option String}
    (hCleared : error = none → .cleared id costmap ∈ node.trace) :
    Good normalizedYaw node (node.exec normalizedYaw env (.finish id costmap error)) := by
  dsimp only [exec]
  refine iteInduction (fun _ => good_nil h) fun hGuard => ?_
  have hPending : node.pending = some id := not_not.mp (not_or.mp hGuard).1
  have hPhase : (node.records id).phase = .clearing :=
    not_not.mp (not_or.mp (not_or.mp hGuard).2).1
  obtain ⟨hConfirmed, hAll⟩ := h.clearing id hPhase
  set record : PoseRecord :=
    { node.records id with
      clearPending := (node.records id).clearPending.filter (· ≠ costmap)
      clearErrors := (node.records id).clearErrors ++ error.toList } with hRecord
  -- A costmap that is answered without an error has been cleared.
  have hNext : ∀ other, other ∈ record.clearPending ∨ .cleared id other ∈ node.trace ∨
      record.clearErrors ≠ [] := by
    intro other
    rcases hAll other with hWaits | hDone | hErrors
    · by_cases hSame : other = costmap
      · cases error with
        | none => exact Or.inr (Or.inl (hSame ▸ hCleared rfl))
        | some error => exact Or.inr (Or.inr (by simp [hRecord]))
      · exact Or.inl (List.mem_filter.mpr ⟨hWaits, by simpa using hSame⟩)
    · exact Or.inr (Or.inl hDone)
    · exact Or.inr (Or.inr fun hEmpty => hErrors (List.append_eq_nil_iff.mp hEmpty).1)
  have hExtends : node.Extends (node.setRecord id record) := extends_setRecord rfl rfl
  have hWaiting : record.phase ≠ .waitingStop := by
    rw [hRecord]
    dsimp only
    rw [hPhase]
    nofun
  refine ⟨hExtends, h.setRecord rfl rfl (fun hNo => absurd hNo hWaiting)
    fun _ => ⟨hConfirmed, hNext⟩, ?_⟩
  intro op hMem
  dsimp only at hMem
  split at hMem
  · exact (List.not_mem_nil hMem).elim
  rename_i hDone
  split at hMem
  · rw [List.mem_singleton.mp hMem]
    exact hExtends.known (h.pending id hPending)
  · rename_i hErrors
    rw [List.mem_singleton.mp hMem]
    refine hExtends.supported ⟨hConfirmed, fun other => ?_⟩
    rcases hNext other with hWaits | hDone' | hErrors'
    · have hEmpty : record.clearPending = [] := not_not.mp hDone
      rw [hEmpty] at hWaits
      exact (List.not_mem_nil hWaits).elim
    · exact hDone'
    · exact absurd hErrors' hErrors

/-- Every operation keeps the invariant. -/
theorem good_exec (h : Sound normalizedYaw node) (env : PoseEnv) {op : PoseOp}
    (hOp : op.Ok normalizedYaw node) :
    Good normalizedYaw node (node.exec normalizedYaw env op) := by
  cases op with
  | expire =>
    dsimp only [exec]
    split
    · exact good_nil h
    · rename_i id hPending
      exact iteInduction (fun _ => good_nil h) fun _ => good_next h (h.pending id hPending)
  | expired id => exact good_next h hOp
  | fail id detail observed => exact good_close h id _ _ _ nofun
  | advance =>
    dsimp only [exec]
    split
    · exact good_nil h
    · rename_i id hPending
      exact good_next h (h.pending id hPending)
  | inspect id change =>
    dsimp only [exec]
    exact iteInduction (fun _ => good_nil h) fun _ => good_next h hOp
  | check id change => exact good_check h env change hOp
  | publish id s => exact good_publish h env hOp.1 hOp.2
  | lookup =>
    dsimp only [exec]
    split
    · exact good_nil h
    · exact good_next h trivial
  | confirm pose =>
    dsimp only [exec]
    split
    · exact good_nil h
    · rename_i id hPending
      refine iteInduction (fun _ => good_nil h) fun hGuard => ?_
      exact good_next h ⟨h.pending id hPending,
        Bool.eq_true_of_not_eq_false (not_or.mp hGuard).2⟩
  | observe id pose => exact good_observe h env hOp.1 hOp.2
  | startClear id pose => exact good_startClear h env hOp.1 hOp.2
  | call id costmap => exact good_call h env costmap
  | finish id costmap error => exact good_finish h env hOp
  | verify id observed =>
    dsimp only [exec]
    split
    · obtain ⟨pose, s, hMem⟩ := hOp.1
      exact good_next h (h.agreed id pose s hMem).1
    · exact good_next h hOp
  | complete id observed => exact good_close h id _ _ _ fun _ => hOp
  | report r =>
    exact ⟨⟨fun _ hMem => hMem, fun _ hMem => hMem, fun _ _ => ⟨rfl, rfl⟩⟩, sound_report h hOp,
      fun _ hMem => (List.not_mem_nil hMem).elim⟩

end

end PoseNode

end PreRunner.Paddock
