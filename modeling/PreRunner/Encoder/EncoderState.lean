import Mathlib.Algebra.Order.Floor.Ring
import Mathlib.Data.Rat.Floor
import PreRunner.PyValue

/-!
# The wheel encoder

`EncoderState` is the state that the GPIO worker and the executor share under one lock. The
worker records wheel edges with their kernel timestamps; the executor measures the edge rate and
decides whether the wheel is stationary. A direction is latched only when pulses resume after a
confirmed stop. This module follows `runner_encoder/encoder_state.py` method by method.
-/

namespace PreRunner.Encoder

def maxLookbackNs : ℤ := 500000000
def minEdgeIntervalNs : ℤ := 100000

/-- `sys.maxsize`. -/
def maxsize : ℤ := 2 ^ 63 - 1

/-- Return a history depth that can safely size the timestamp deque. -/
def validateHistoryDepth : PyValue → Except String ℤ
  | .int historyDepth =>
    if historyDepth < 1 then .error "history_depth must be at least 1"
    else if maxsize ≤ historyDepth then
      .error "history_depth must be no greater than 9223372036854775806"
    else .ok historyDepth
  | _ => .error "history_depth must be an integer"

/-- One coherent encoder publication-cycle snapshot. -/
structure EncoderMeasurement where
  edgeRate : ℚ
  stationary : Bool
  activeDirection : ℤ
  pendingDirection : ℤ
  deriving DecidableEq, Repr

/-- The fields the lock protects, and the two configured bounds. -/
structure EncoderState where
  stationaryTimeoutNs : ℤ
  maxlen : ℕ
  edgeTimestampsNs : List ℤ := []
  lastEdgeNs : Option ℤ := none
  stationary : Bool := true
  activeDirection : ℤ := 0
  latestNonzeroDirection : ℤ := 0
  deriving DecidableEq, Repr

namespace EncoderState

/-- The constructor. The product with 10^9 is taken exactly, where the code rounds it to a double:
next to a whole number the timeout may differ by a nanosecond. -/
def init (stationaryTimeoutSec : PyFloat) (historyDepth : PyValue) : Except String EncoderState :=
  match stationaryTimeoutSec with
  | .finite timeout =>
    if timeout ≤ 0 then
      .error "stationary_timeout_sec must be finite and greater than zero"
    else if ⌊timeout * 10 ^ 9⌋ ≤ 0 then
      .error "stationary_timeout_sec must be at least one nanosecond"
    else
      (validateHistoryDepth historyDepth).map fun depth =>
        { stationaryTimeoutNs := ⌊timeout * 10 ^ 9⌋, maxlen := (depth + 1).toNat }
  | _ => .error "stationary_timeout_sec must be finite and greater than zero"

/-- `update_direction`: zero is no evidence, and only ±1 is remembered. -/
def updateDirection (state : EncoderState) (direction : ℤ) : EncoderState × Bool :=
  if ¬ (direction = -1 ∨ direction = 0 ∨ direction = 1) then (state, false)
  else if direction = 0 then (state, true)
  else ({ state with latestNonzeroDirection := direction }, true)

/-- `append` on a deque of bounded length drops the oldest entry of a full one. -/
def append (maxlen : ℕ) (timestamps : List ℤ) (timestamp : ℤ) : List ℤ :=
  (timestamps ++ [timestamp]).drop (timestamps.length + 1 - maxlen)

/-- `_prune_history`: the newest timestamp always stays. -/
def pruneHistory (referenceNs : ℤ) : List ℤ → List ℤ
  | first :: second :: rest =>
    if first < referenceNs - maxLookbackNs then pruneHistory referenceNs (second :: rest)
    else first :: second :: rest
  | timestamps => timestamps

/-- `_estimate_edge_rate`: unsigned rate over the retained intervals, with stop decay. -/
def estimateEdgeRate (timestamps : List ℤ) (monotonicNs : ℤ) : ℚ :=
  match timestamps, timestamps.reverse with
  | firstEdgeNs :: _ :: _, lastEdgeNs :: previousEdgeNs :: _ =>
    let spanNs := lastEdgeNs - firstEdgeNs
    let mostRecentIntervalNs := lastEdgeNs - previousEdgeNs
    if spanNs ≤ 0 ∨ mostRecentIntervalNs ≤ 0 then 0
    else
      let edgeRate : ℚ := (timestamps.length - 1) * 10 ^ 9 / spanNs
      let dtSinceLastNs := monotonicNs - lastEdgeNs
      if mostRecentIntervalNs < dtSinceLastNs then min edgeRate (10 ^ 9 / dtSinceLastNs)
      else edgeRate
  | _, _ => 0

/-- The edge comes too soon after the last one, or before it. -/
def rejectsEdge (state : EncoderState) (monotonicNs : ℤ) : Bool :=
  state.lastEdgeNs.any fun lastEdgeNs => monotonicNs - lastEdgeNs < minEdgeIntervalNs

/-- No edge within the stationary timeout before this time. -/
def pulseGap (state : EncoderState) (monotonicNs : ℤ) : Bool :=
  state.lastEdgeNs.all fun lastEdgeNs => state.stationaryTimeoutNs ≤ monotonicNs - lastEdgeNs

/-- `record_edge`: an edge after pulse-confirmed rest begins a new epoch. -/
def recordEdge (state : EncoderState) (monotonicNs : ℤ) : EncoderState :=
  if state.rejectsEdge monotonicNs then state
  else
    let fresh := state.stationary || state.pulseGap monotonicNs
    { state with
      activeDirection := if fresh then state.latestNonzeroDirection else state.activeDirection
      stationary := false
      lastEdgeNs := some monotonicNs
      edgeTimestampsNs := pruneHistory monotonicNs
        (append state.maxlen (if fresh then [] else state.edgeTimestampsNs) monotonicNs) }

/-- The branch for clocks that disagree: the old epoch is discarded. -/
def discardLaterEpoch (state : EncoderState) (monotonicNs : ℤ) : EncoderState :=
  if state.lastEdgeNs.any (monotonicNs < ·) then
    { state with lastEdgeNs := none, edgeTimestampsNs := [], stationary := true }
  else state

/-- `take_measurement`. -/
def takeMeasurement (state : EncoderState) (monotonicNs : ℤ) :
    EncoderState × EncoderMeasurement :=
  let state := state.discardLaterEpoch monotonicNs
  let stationary := state.pulseGap monotonicNs
  let timestamps := if stationary then [] else pruneHistory monotonicNs state.edgeTimestampsNs
  ({ state with stationary, edgeTimestampsNs := timestamps },
    { edgeRate := if stationary then 0 else estimateEdgeRate timestamps monotonicNs
      stationary
      activeDirection := state.activeDirection
      pendingDirection := state.latestNonzeroDirection })

/-! ## What the operations keep -/

variable {state : EncoderState} {monotonicNs : ℤ}

theorem init_timeout_pos {timeout : PyFloat} {depth : PyValue}
    (h : init timeout depth = .ok state) : 0 < state.stationaryTimeoutNs := by
  unfold init at h
  split at h
  · split at h
    · cases h
    · split at h
      · cases h
      · rename_i hNs
        cases hDepth : validateHistoryDepth depth with
        | error text =>
          rw [hDepth] at h
          cases h
        | ok value =>
          rw [hDepth] at h
          cases h
          exact not_le.mp hNs
  · cases h

theorem init_lastEdge {timeout : PyFloat} {depth : PyValue}
    (h : init timeout depth = .ok state) : state.lastEdgeNs = none := by
  unfold init at h
  split at h
  · split at h
    · cases h
    · split at h
      · cases h
      · cases hDepth : validateHistoryDepth depth with
        | error text =>
          rw [hDepth] at h
          cases h
        | ok value =>
          rw [hDepth] at h
          cases h
          rfl
  · cases h

@[simp] theorem updateDirection_lastEdge (direction : ℤ) :
    (state.updateDirection direction).1.lastEdgeNs = state.lastEdgeNs := by
  unfold updateDirection
  split
  · rfl
  · split <;> rfl

@[simp] theorem updateDirection_timeout (direction : ℤ) :
    (state.updateDirection direction).1.stationaryTimeoutNs = state.stationaryTimeoutNs := by
  unfold updateDirection
  split
  · rfl
  · split <;> rfl

theorem recordEdge_rejected (h : state.rejectsEdge monotonicNs = true) :
    state.recordEdge monotonicNs = state := if_pos h

theorem recordEdge_lastEdge (h : state.rejectsEdge monotonicNs = false) :
    (state.recordEdge monotonicNs).lastEdgeNs = some monotonicNs := by
  rw [recordEdge, h]
  rfl

@[simp] theorem recordEdge_timeout :
    (state.recordEdge monotonicNs).stationaryTimeoutNs = state.stationaryTimeoutNs := by
  unfold recordEdge
  split <;> rfl

@[simp] theorem takeMeasurement_timeout :
    (state.takeMeasurement monotonicNs).1.stationaryTimeoutNs = state.stationaryTimeoutNs := by
  unfold takeMeasurement discardLaterEpoch
  dsimp only
  split <;> rfl

/-- The measurement is taken at or after the last recorded edge. -/
def InOrder (state : EncoderState) (monotonicNs : ℤ) : Prop :=
  ∀ edgeNs, state.lastEdgeNs = some edgeNs → edgeNs ≤ monotonicNs

theorem pulseGap_eq_true : state.pulseGap monotonicNs = true ↔
    ∀ edgeNs, state.lastEdgeNs = some edgeNs →
      state.stationaryTimeoutNs ≤ monotonicNs - edgeNs := by
  unfold pulseGap
  cases state.lastEdgeNs with
  | none => exact iff_of_true rfl (fun edgeNs hEdge => by cases hEdge)
  | some edgeNs => simp

theorem any_later_eq_false (h : state.InOrder monotonicNs) :
    state.lastEdgeNs.any (monotonicNs < ·) = false := by
  cases hEdge : state.lastEdgeNs with
  | none => rfl
  | some edgeNs => exact decide_eq_false (not_lt.mpr (h edgeNs hEdge))

theorem takeMeasurement_lastEdge (h : state.InOrder monotonicNs) :
    (state.takeMeasurement monotonicNs).1.lastEdgeNs = state.lastEdgeNs := by
  simp only [takeMeasurement, discardLaterEpoch, any_later_eq_false h, Bool.false_eq_true,
    if_false]

theorem takeMeasurement_stationary (h : state.InOrder monotonicNs) :
    (state.takeMeasurement monotonicNs).2.stationary = state.pulseGap monotonicNs := by
  simp only [takeMeasurement, discardLaterEpoch, any_later_eq_false h, Bool.false_eq_true,
    if_false]

/-- A measurement that precedes the last recorded edge forgets it and reports rest. -/
theorem takeMeasurement_before {edgeNs : ℤ} (hEdge : state.lastEdgeNs = some edgeNs)
    (hBefore : monotonicNs < edgeNs) :
    (state.takeMeasurement monotonicNs).1.lastEdgeNs = none ∧
      (state.takeMeasurement monotonicNs).2.stationary = true := by
  have hLater : state.lastEdgeNs.any (monotonicNs < ·) = true := by
    rw [hEdge]
    exact decide_eq_true hBefore
  constructor
  · simp only [takeMeasurement, discardLaterEpoch, hLater, if_true]
  · simp only [takeMeasurement, discardLaterEpoch, hLater, if_true]
    rfl

/-! ## The retained history -/

theorem pruneHistory_length_le (referenceNs : ℤ) (timestamps : List ℤ) :
    (pruneHistory referenceNs timestamps).length ≤ timestamps.length := by
  induction timestamps with
  | nil => exact le_rfl
  | cons first rest ih =>
    cases rest with
    | nil => exact le_rfl
    | cons second rest =>
      unfold pruneHistory
      split
      · exact ih.trans (Nat.le_succ _)
      · exact le_rfl

theorem append_length_le (maxlen : ℕ) (timestamps : List ℤ) (timestamp : ℤ) :
    (append maxlen timestamps timestamp).length ≤ maxlen := by
  rw [append, List.length_drop, List.length_append, List.length_singleton]
  omega

/-- The deque never outgrows its bound. -/
theorem recordEdge_length (h : state.edgeTimestampsNs.length ≤ state.maxlen) :
    (state.recordEdge monotonicNs).edgeTimestampsNs.length ≤
      (state.recordEdge monotonicNs).maxlen := by
  unfold recordEdge
  split
  · exact h
  · exact (pruneHistory_length_le _ _).trans (append_length_le _ _ _)

theorem takeMeasurement_length (h : state.edgeTimestampsNs.length ≤ state.maxlen) :
    (state.takeMeasurement monotonicNs).1.edgeTimestampsNs.length ≤
      (state.takeMeasurement monotonicNs).1.maxlen := by
  have hDiscard : (state.discardLaterEpoch monotonicNs).edgeTimestampsNs.length ≤
      (state.discardLaterEpoch monotonicNs).maxlen := by
    unfold discardLaterEpoch
    split
    · exact Nat.zero_le _
    · exact h
  unfold takeMeasurement
  dsimp only
  split
  · exact Nat.zero_le _
  · exact (pruneHistory_length_le _ _).trans hDiscard

end EncoderState

end PreRunner.Encoder
