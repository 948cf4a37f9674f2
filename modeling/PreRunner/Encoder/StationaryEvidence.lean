import PreRunner.Runs.Emission
import PreRunner.Encoder.EncoderNode

/-!
# What a stationary measurement proves

`Justified` says of a published measurement that its stationary flag is backed by a pulse-free
interval before the measurement's own timestamp. The executor reads the clock before it waits
for the lock; if an edge with a later timestamp is recorded in between, the measurement takes
the branch for clocks that disagree and reports rest while the wheel turns. The main result says
that this is the only way to lose the evidence.
-/

namespace PreRunner.Encoder

open Runs

/-- The latest accepted edge, forgotten when a measurement confirms a stop after it. -/
def evidence (timeoutNs : ℤ) (latest : Option ℤ) : EncoderOutput → Option ℤ
  | .accepted edgeNs => some edgeNs
  | .measured timestampNs measurement _ =>
    if measurement.stationary && latest.all (timeoutNs ≤ timestampNs - ·) then none else latest

/-- A measurement reports rest only when the stationary timeout separates the latest accepted
edge from its timestamp, or no edge was accepted since a stop was confirmed. -/
def Justified (timeoutNs : ℤ) (latest : Option ℤ) : EncoderOutput → Prop
  | .accepted _ => True
  | .measured timestampNs measurement _ =>
    measurement.stationary = true → ∀ edgeNs, latest = some edgeNs →
      timeoutNs ≤ timestampNs - edgeNs

/-- If the step takes a measurement, the executor's clock reading is not before the timestamp
of the last recorded edge. -/
def Ordered (node : EncoderNode) (action : EncoderAction) : Prop :=
  action = .takeMeasurement → ∀ monotonicNs, node.reading = some monotonicNs →
    node.state.InOrder monotonicNs

/-- What ties the node to the latest accepted edge while every measurement was in order. -/
structure Tracks (timeoutNs : ℤ) (node : EncoderNode) (latest : Option ℤ) : Prop where
  timeout : node.state.stationaryTimeoutNs = timeoutNs
  timeout_pos : 0 < timeoutNs
  reading_le : ∀ monotonicNs, node.reading = some monotonicNs → monotonicNs ≤ node.clock
  recorded : ∀ edgeNs, latest = some edgeNs → node.state.lastEdgeNs = some edgeNs
  confirmed : latest = none → ∀ edgeNs, node.state.lastEdgeNs = some edgeNs →
    edgeNs + timeoutNs ≤ node.clock ∧
      ∀ monotonicNs, node.reading = some monotonicNs → edgeNs + timeoutNs ≤ monotonicNs

variable {timeoutNs : ℤ} {node : EncoderNode} {latest : Option ℤ}

/-- The actions of the worker, the world and the other callbacks. -/
theorem Tracks.quiet (h : Tracks timeoutNs node latest) {next : EncoderNode}
    (hTimeout : next.state.stationaryTimeoutNs = node.state.stationaryTimeoutNs)
    (hEdge : next.state.lastEdgeNs = node.state.lastEdgeNs)
    (hClock : node.clock ≤ next.clock)
    (hReading : ∀ monotonicNs, next.reading = some monotonicNs →
      node.reading = some monotonicNs ∨ monotonicNs = next.clock) :
    Tracks timeoutNs next latest where
  timeout := hTimeout.trans h.timeout
  timeout_pos := h.timeout_pos
  reading_le := by
    intro monotonicNs hNext
    rcases hReading monotonicNs hNext with hOld | rfl
    · exact (h.reading_le monotonicNs hOld).trans hClock
    · exact le_rfl
  recorded := by
    intro edgeNs hLatest
    rw [hEdge]
    exact h.recorded edgeNs hLatest
  confirmed := by
    intro hLatest edgeNs hLast
    rw [hEdge] at hLast
    obtain ⟨hPast, hPending⟩ := h.confirmed hLatest edgeNs hLast
    refine ⟨hPast.trans hClock, ?_⟩
    intro monotonicNs hNext
    rcases hReading monotonicNs hNext with hOld | rfl
    · exact hPending monotonicNs hOld
    · exact hPast.trans hClock

theorem Tracks.accepted (h : Tracks timeoutNs node latest) {timestampNs : ℤ}
    (hAccepted : node.state.rejectsEdge timestampNs = false) (reader : GpioEventReader) :
    Tracks timeoutNs { node with state := node.state.recordEdge timestampNs, reader }
      (some timestampNs) where
  timeout := (EncoderState.recordEdge_timeout).trans h.timeout
  timeout_pos := h.timeout_pos
  reading_le := h.reading_le
  recorded := by
    intro edgeNs hLatest
    cases hLatest
    exact EncoderState.recordEdge_lastEdge hAccepted
  confirmed := by
    intro hLatest
    cases hLatest

/-- In order, a stationary measurement comes after a pulse-free interval. -/
theorem Tracks.interval (h : Tracks timeoutNs node latest) {monotonicNs : ℤ}
    (hOrder : node.state.InOrder monotonicNs)
    (hStationary : (node.state.takeMeasurement monotonicNs).2.stationary = true) {edgeNs : ℤ}
    (hEdge : node.state.lastEdgeNs = some edgeNs) : timeoutNs ≤ monotonicNs - edgeNs := by
  rw [EncoderState.takeMeasurement_stationary hOrder, EncoderState.pulseGap_eq_true,
    h.timeout] at hStationary
  exact hStationary edgeNs hEdge

theorem Tracks.justified (h : Tracks timeoutNs node latest) {monotonicNs : ℤ}
    (hOrder : node.state.InOrder monotonicNs) (signedSpeed : ℚ) :
    Justified timeoutNs latest
      (.measured monotonicNs (node.state.takeMeasurement monotonicNs).2 signedSpeed) :=
  fun hStationary edgeNs hLatest => h.interval hOrder hStationary (h.recorded edgeNs hLatest)

theorem Tracks.measured (h : Tracks timeoutNs node latest) {monotonicNs : ℤ}
    (hReading : node.reading = some monotonicNs) (hOrder : node.state.InOrder monotonicNs)
    (signedSpeed : ℚ) :
    Tracks timeoutNs
      { node with state := (node.state.takeMeasurement monotonicNs).1, reading := none }
      (evidence timeoutNs latest
        (.measured monotonicNs (node.state.takeMeasurement monotonicNs).2 signedSpeed)) where
  timeout := (EncoderState.takeMeasurement_timeout).trans h.timeout
  timeout_pos := h.timeout_pos
  reading_le := by
    intro reading hNone
    cases hNone
  recorded := by
    intro edgeNs hEvidence
    rw [EncoderState.takeMeasurement_lastEdge hOrder]
    unfold evidence at hEvidence
    dsimp only at hEvidence
    split at hEvidence
    · cases hEvidence
    · exact h.recorded edgeNs hEvidence
  confirmed := by
    intro hEvidence edgeNs hEdge
    rw [EncoderState.takeMeasurement_lastEdge hOrder] at hEdge
    refine ⟨?_, fun reading hNone => by cases hNone⟩
    unfold evidence at hEvidence
    dsimp only at hEvidence
    split at hEvidence
    · rename_i hConfirms
      have hInterval := h.interval hOrder (Bool.and_eq_true_iff.mp hConfirms).1 hEdge
      have hClock := h.reading_le monotonicNs hReading
      change edgeNs + timeoutNs ≤ node.clock
      omega
    · exact (h.confirmed hEvidence edgeNs hEdge).1

/-- Out of order, the measurement reports rest right after an edge. -/
theorem Tracks.not_justified (h : Tracks timeoutNs node latest) {monotonicNs : ℤ}
    (hReading : node.reading = some monotonicNs) (hOrder : ¬ node.state.InOrder monotonicNs)
    (signedSpeed : ℚ) :
    ¬ Justified timeoutNs latest
      (.measured monotonicNs (node.state.takeMeasurement monotonicNs).2 signedSpeed) := by
  intro hJustified
  simp only [EncoderState.InOrder, not_forall, not_le, exists_prop] at hOrder
  obtain ⟨edgeNs, hEdge, hBefore⟩ := hOrder
  have hPos := h.timeout_pos
  cases latest with
  | none =>
    have hConfirmed := (h.confirmed rfl edgeNs hEdge).2 monotonicNs hReading
    omega
  | some latestNs =>
    have hSame : latestNs = edgeNs :=
      Option.some.inj ((h.recorded latestNs rfl).symm.trans hEdge)
    have hInterval := hJustified (EncoderState.takeMeasurement_before hEdge hBefore).2 latestNs rfl
    omega

/-! ## Steps -/

theorem ordered_of_ne {action : EncoderAction} (h : action ≠ .takeMeasurement) :
    Ordered node action := fun hTake => absurd hTake h

/-- A step is justified exactly when it is in order. -/
theorem Tracks.step_justified (h : Tracks timeoutNs node latest) (action : EncoderAction) :
    Throughout (evidence timeoutNs) (Justified timeoutNs) latest (node.step action).2 ↔
      Ordered node action := by
  cases action with
  | elapse ns => exact iff_of_true trivial (ordered_of_ne nofun)
  | edge => exact iff_of_true trivial (ordered_of_ne nofun)
  | readEvent =>
    refine iff_of_true ?_ (ordered_of_ne nofun)
    unfold EncoderNode.step
    dsimp only
    split <;> trivial
  | recordEdge =>
    refine iff_of_true ?_ (ordered_of_ne nofun)
    unfold EncoderNode.step
    dsimp only
    split
    · split
      · trivial
      · exact ⟨trivial, trivial⟩
    · trivial
  | onDirection data =>
    refine iff_of_true ?_ (ordered_of_ne nofun)
    unfold EncoderNode.step
    dsimp only
    split <;> trivial
  | readClock =>
    refine iff_of_true ?_ (ordered_of_ne nofun)
    unfold EncoderNode.step
    dsimp only
    split <;> trivial
  | takeMeasurement =>
    cases hReading : node.reading with
    | none =>
      refine iff_of_true ?_ ?_
      · simp only [EncoderNode.step, hReading, throughout_nil]
      · intro _ monotonicNs hSome
        rw [hReading] at hSome
        cases hSome
    | some monotonicNs =>
      simp only [EncoderNode.step, hReading, throughout_cons, throughout_nil, and_true]
      constructor
      · intro hJustified _ reading hSome
        cases hReading.symm.trans hSome
        by_contra hOrder
        exact h.not_justified hReading hOrder _ hJustified
      · intro hOrdered
        exact h.justified (hOrdered rfl monotonicNs hReading) _

theorem Tracks.step (h : Tracks timeoutNs node latest) {action : EncoderAction}
    (hOrdered : Ordered node action) :
    Tracks timeoutNs (node.step action).1
      ((node.step action).2.foldl (evidence timeoutNs) latest) := by
  cases action with
  | elapse ns =>
    exact h.quiet rfl rfl (Int.le_add_of_nonneg_right ns.cast_nonneg) fun _ hSame => .inl hSame
  | edge => exact h.quiet rfl rfl le_rfl fun _ hSame => .inl hSame
  | readEvent =>
    unfold EncoderNode.step
    dsimp only
    split
    · exact h.quiet rfl rfl le_rfl fun _ hSame => .inl hSame
    · exact h
  | recordEdge =>
    unfold EncoderNode.step
    dsimp only
    split
    · rename_i timestampNs hEvent
      cases hRejects : node.state.rejectsEdge timestampNs with
      | true =>
        refine h.quiet ?_ ?_ le_rfl fun _ hSame => .inl hSame
        · exact EncoderState.recordEdge_timeout
        · rw [EncoderState.recordEdge_rejected hRejects]
      | false => exact h.accepted hRejects _
    · exact h
  | onDirection data =>
    unfold EncoderNode.step
    dsimp only
    split
    · exact h.quiet (EncoderState.updateDirection_timeout data)
        (EncoderState.updateDirection_lastEdge data) le_rfl fun _ hSame => .inl hSame
    · exact h
  | readClock =>
    unfold EncoderNode.step
    dsimp only
    split
    · exact h.quiet rfl rfl le_rfl fun monotonicNs hNow => .inr (Option.some.inj hNow).symm
    · exact h
  | takeMeasurement =>
    cases hReading : node.reading with
    | none =>
      simp only [EncoderNode.step, hReading]
      exact h
    | some monotonicNs =>
      simp only [EncoderNode.step, hReading]
      exact h.measured hReading (hOrdered rfl monotonicNs hReading)
        (EncoderNode.signedSpeed (node.state.takeMeasurement monotonicNs).2 node.metresPerEdge)

/-! ## Runs -/

theorem tracks_init {timeoutSec : PyFloat} {depth : PyValue} {state : EncoderState}
    (hInit : EncoderState.init timeoutSec depth = .ok state) (metresPerEdge : ℚ) (clock : ℤ) :
    Tracks state.stationaryTimeoutNs { state, metresPerEdge, clock } none where
  timeout := rfl
  timeout_pos := EncoderState.init_timeout_pos hInit
  reading_le := by
    intro monotonicNs hNone
    cases hNone
  recorded := by
    intro edgeNs hNone
    cases hNone
  confirmed := by
    intro _ edgeNs hEdge
    cases (EncoderState.init_lastEdge hInit).symm.trans hEdge

/-- Over every interleaving of the two threads, all measurements are justified exactly when no
measurement is taken with a timestamp before the last recorded edge. `throughout_emitted_iff`
reduces this to one action, and `Tracks.step_justified` says that a measurement is justified just
when it is ordered; then the node stays in step with the evidence. -/
theorem stationary_justified_iff {timeoutSec : PyFloat} {depth : PyValue} {state : EncoderState}
    (hInit : EncoderState.init timeoutSec depth = .ok state) (metresPerEdge : ℚ) (clock : ℤ)
    (past : List EncoderAction) :
    Throughout (evidence state.stationaryTimeoutNs) (Justified state.stationaryTimeoutNs) none
        (emitted EncoderNode.step { state, metresPerEdge, clock } past) ↔
      Always (along (advance EncoderNode.step) { state, metresPerEdge, clock } Ordered) past :=
  throughout_emitted_iff (tracks_init hInit metresPerEdge clock)
    (fun _ _ action hTracks => hTracks.step_justified action)
    (fun _ _ _ hTracks hOrdered => hTracks.step hOrdered) past

/-- The wheel turns at one edge every 10 ms; the third edge is recorded while the executor
waits for the lock. -/
def lateEdge : List EncoderAction :=
  [.takeMeasurement, .recordEdge, .readEvent, .edge, .elapse 5000000, .readClock,
    .elapse 5000000, .recordEdge, .readEvent, .edge, .elapse 10000000, .recordEdge, .readEvent,
    .edge]

theorem emitted_lateEdge :
    emitted EncoderNode.step
        { state := { stationaryTimeoutNs := 200000000, maxlen := 5 },
          metresPerEdge := 10282 / 1000000, clock := 1000000000 } lateEdge =
      [.accepted 1000000000, .accepted 1010000000, .accepted 1020000000,
        .measured 1015000000
          { edgeRate := 0, stationary := true, activeDirection := 0, pendingDirection := 0 }
            0] := by
  decide +kernel

/-- The turning wheel is reported stationary. -/
theorem stationary_between_edges :
    ∃ state, EncoderState.init (.finite (2 / 10)) (.int 4) = .ok state ∧
      ¬ Throughout (evidence state.stationaryTimeoutNs) (Justified state.stationaryTimeoutNs) none
        (emitted EncoderNode.step
          { state, metresPerEdge := 10282 / 1000000, clock := 1000000000 } lateEdge) := by
  refine ⟨{ stationaryTimeoutNs := 200000000, maxlen := 5 }, by decide +kernel, ?_⟩
  rw [emitted_lateEdge]
  rintro ⟨-, -, -, hMeasured, -⟩
  exact absurd (hMeasured rfl 1020000000 rfl) (by decide)

/-- Measurements in order: the wheel stops, and only then it is reported stationary. -/
theorem stationary_justified_coast :
    Throughout (evidence 200000000) (Justified 200000000) none
        (emitted EncoderNode.step
          { state := { stationaryTimeoutNs := 200000000, maxlen := 5 },
            metresPerEdge := 10282 / 1000000, clock := 1000000000 }
          [.takeMeasurement, .readClock, .elapse 200000000, .takeMeasurement, .recordEdge,
            .readClock, .readEvent, .edge]) ↔
      Always (along (advance EncoderNode.step)
          { state := { stationaryTimeoutNs := 200000000, maxlen := 5 },
            metresPerEdge := 10282 / 1000000, clock := 1000000000 } Ordered)
        [.takeMeasurement, .readClock, .elapse 200000000, .takeMeasurement, .recordEdge,
          .readClock, .readEvent, .edge] :=
  @stationary_justified_iff (.finite (2 / 10)) (.int 4)
    { stationaryTimeoutNs := 200000000, maxlen := 5 } (by decide +kernel) _ _ _

end PreRunner.Encoder
