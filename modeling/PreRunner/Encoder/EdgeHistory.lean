import PreRunner.Runs.History
import PreRunner.Encoder.EncoderState

/-!
# The edge history of the encoder

Edges may come with any timestamps, and measurements may be taken at any times. The history that is
kept stays spaced and bounded, so the rates are bounded too, and the direction is latched only by an
edge that follows a confirmed stop.

There are two invariants. `Kept` is about the list of edges: neighbouring ones are no closer than
the bounce interval and there are no more than the depth allows. `Latched` ties the remaining
fields to the calls so far, and says since when the direction has been what it is.
-/

namespace PreRunner.Encoder

open Runs

namespace EncoderState

/-- The edges are at least the shortest accepted interval apart, in order. -/
def Spaced (timestamps : List ℤ) : Prop := timestamps.Pairwise (· + minEdgeIntervalNs ≤ ·)

/-! ## Lists of edges -/

theorem pruneHistory_suffix (referenceNs : ℤ) (timestamps : List ℤ) :
    pruneHistory referenceNs timestamps <:+ timestamps := by
  induction timestamps with
  | nil => exact List.suffix_refl _
  | cons first rest ih =>
    cases rest with
    | nil => exact List.suffix_refl _
    | cons second rest =>
      unfold pruneHistory
      split
      · exact ih.trans (List.suffix_cons _ _)
      · exact List.suffix_refl _

theorem pruneHistory_getLast? (referenceNs : ℤ) (timestamps : List ℤ) :
    (pruneHistory referenceNs timestamps).getLast? = timestamps.getLast? := by
  induction timestamps with
  | nil => rfl
  | cons first rest ih =>
    cases rest with
    | nil => rfl
    | cons second rest =>
      unfold pruneHistory
      split
      · exact ih.trans List.getLast?_cons_cons.symm
      · rfl

theorem append_suffix (maxlen : ℕ) (timestamps : List ℤ) (timestamp : ℤ) :
    append maxlen timestamps timestamp <:+ timestamps ++ [timestamp] := List.drop_suffix _ _

theorem append_getLast? {maxlen : ℕ} {timestamps : List ℤ} {timestamp : ℤ}
    (h : append maxlen timestamps timestamp ≠ []) :
    (append maxlen timestamps timestamp).getLast? = some timestamp := by
  have hShort : ¬ (timestamps ++ [timestamp]).length ≤ timestamps.length + 1 - maxlen :=
    fun hLong => h (List.drop_eq_nil_of_le hLong)
  rw [append, List.getLast?_drop, if_neg hShort, List.getLast?_concat]

/-- Pruning keeps the last interval, or only the newest edge. -/
theorem pruneHistory_append (referenceNs : ℤ) (front : List ℤ) (previous last : ℤ) :
    (∃ kept, kept <:+ front ∧
      pruneHistory referenceNs (front ++ [previous, last]) = kept ++ [previous, last]) ∨
    pruneHistory referenceNs (front ++ [previous, last]) = [last] := by
  induction front with
  | nil =>
    rw [List.nil_append, pruneHistory]
    split
    · exact Or.inr rfl
    · exact Or.inl ⟨[], List.suffix_refl _, rfl⟩
  | cons first front ih =>
    obtain ⟨second, rest, hSecond⟩ : ∃ second rest, front ++ [previous, last] = second :: rest := by
      cases front <;> simp
    rw [List.cons_append, hSecond, pruneHistory, ← hSecond]
    split
    · exact ih.imp_left fun ⟨kept, hSuffix, hKept⟩ =>
        ⟨kept, hSuffix.trans (List.suffix_cons _ _), hKept⟩
    · exact Or.inl ⟨first :: front, List.suffix_refl _, rfl⟩

/-- A list of two or more edges ends with the most recent interval. -/
theorem exists_last_interval {timestamps : List ℤ} (h : 2 ≤ timestamps.length) :
    ∃ front previous last, timestamps = front ++ [previous, last] := by
  obtain rfl | ⟨front, last, rfl⟩ := timestamps.eq_nil_or_concat'
  · simp at h
  obtain rfl | ⟨front, previous, rfl⟩ := front.eq_nil_or_concat'
  · simp at h
  exact ⟨front, previous, last, by simp⟩

/-- `n` edges that are spaced take at least `n - 1` shortest intervals. -/
theorem spaced_span {front : List ℤ} {previous last : ℤ}
    (h : Spaced (front ++ [previous, last])) :
    (front.length + 1) * minEdgeIntervalNs ≤ last - front.headD previous := by
  induction front with
  | nil =>
    have hLast : previous + minEdgeIntervalNs ≤ last := List.rel_of_pairwise_cons h (by simp)
    rw [List.headD_nil, List.length_nil]
    push_cast
    linarith
  | cons first front ih =>
    have hNext : first + minEdgeIntervalNs ≤ front.headD previous := by
      refine List.rel_of_pairwise_cons h ?_
      cases front with
      | nil => simp
      | cons second front => simp
    have hRest := ih (List.Pairwise.of_cons h)
    rw [List.headD_cons, List.length_cons]
    push_cast
    linarith

theorem spaced_interval {front : List ℤ} {previous last : ℤ}
    (h : Spaced (front ++ [previous, last])) : minEdgeIntervalNs ≤ last - previous := by
  have hLast : Spaced [previous, last] := List.Pairwise.sublist (List.sublist_append_right _ _) h
  have hPair : previous + minEdgeIntervalNs ≤ last := List.rel_of_pairwise_cons hLast (by simp)
  linarith

theorem spaced_concat {timestamps : List ℤ} {timestamp : ℤ} (h : Spaced timestamps)
    (hLast : ∀ last, timestamps.getLast? = some last → last + minEdgeIntervalNs ≤ timestamp) :
    Spaced (timestamps ++ [timestamp]) := by
  refine List.pairwise_append.mpr ⟨h, List.pairwise_singleton _ _, ?_⟩
  intro edge hEdge later hLater
  obtain rfl := List.mem_singleton.mp hLater
  obtain rfl | ⟨front, last, rfl⟩ := timestamps.eq_nil_or_concat'
  · cases hEdge
  have hEnd := hLast last List.getLast?_concat
  rcases List.mem_append.mp hEdge with hFront | hOne
  · have hBefore := (List.pairwise_append.mp h).2.2 edge hFront last (List.mem_singleton_self _)
    have hPos : 0 < minEdgeIntervalNs := by decide
    linarith
  · obtain rfl := List.mem_singleton.mp hOne
    exact hEnd

/-! ## The rate of a history -/

/-- Edges per second over the retained intervals. -/
def meanRate (front : List ℤ) (previous last : ℤ) : ℚ :=
  (front.length + 1) * 10 ^ 9 / (last - front.headD previous : ℤ)

theorem estimateEdgeRate_short {timestamps : List ℤ} (h : timestamps.length < 2)
    (monotonicNs : ℤ) : estimateEdgeRate timestamps monotonicNs = 0 := by
  match timestamps, h with
  | [], _ => rfl
  | [_], _ => rfl

theorem estimateEdgeRate_spaced {front : List ℤ} {previous last : ℤ}
    (h : Spaced (front ++ [previous, last])) (monotonicNs : ℤ) :
    estimateEdgeRate (front ++ [previous, last]) monotonicNs =
      if last - previous < monotonicNs - last then
        min (meanRate front previous last) (10 ^ 9 / (monotonicNs - last : ℤ))
      else meanRate front previous last := by
  have hPos : 0 < minEdgeIntervalNs := by decide
  have hInterval := spaced_interval h
  have hSpan := spaced_span h
  have hGuard : ¬ (last - front.headD previous ≤ 0 ∨ last - previous ≤ 0) := by
    rintro (hLe | hLe)
    · nlinarith
    · linarith
  cases front with
  | nil =>
    simp only [List.headD_nil] at hGuard
    simp only [estimateEdgeRate, List.nil_append, List.reverse_cons, List.reverse_nil,
      List.cons_append, if_neg hGuard, meanRate, List.headD_nil, List.length_cons,
      List.length_nil]
    norm_num
  | cons first front =>
    obtain ⟨second, rest, hSecond⟩ : ∃ second rest, front ++ [previous, last] = second :: rest := by
      cases front <;> simp
    have hReverse : (first :: second :: rest).reverse =
        last :: previous :: (first :: front).reverse := by
      rw [← hSecond]
      simp
    have hLength : ((first :: second :: rest).length : ℚ) - 1 = (first :: front).length + 1 := by
      rw [← hSecond]
      simp
      ring
    simp only [List.headD_cons] at hGuard
    simp only [List.cons_append, hSecond, estimateEdgeRate, hReverse, hLength, if_neg hGuard,
      meanRate, List.headD_cons]

theorem meanRate_bounds {front : List ℤ} {previous last : ℤ}
    (h : Spaced (front ++ [previous, last])) :
    0 ≤ meanRate front previous last ∧
      meanRate front previous last ≤ 10 ^ 9 / minEdgeIntervalNs := by
  have hSpan : ((front.length + 1 : ℤ) * minEdgeIntervalNs : ℤ) ≤ last - front.headD previous :=
    spaced_span h
  have hSpanRat : ((front.length : ℚ) + 1) * minEdgeIntervalNs ≤
      (last - front.headD previous : ℤ) := by exact_mod_cast hSpan
  have hMin : (0 : ℚ) < minEdgeIntervalNs := by norm_num [minEdgeIntervalNs]
  have hFront : (0 : ℚ) ≤ front.length := Nat.cast_nonneg _
  have hPos : (0 : ℚ) < (last - front.headD previous : ℤ) :=
    lt_of_lt_of_le (by positivity) hSpanRat
  unfold meanRate
  refine ⟨by positivity, ?_⟩
  rw [div_le_div_iff₀ hPos hMin]
  calc ((front.length : ℚ) + 1) * 10 ^ 9 * (minEdgeIntervalNs : ℚ)
      = 10 ^ 9 * (((front.length : ℚ) + 1) * (minEdgeIntervalNs : ℚ)) := by ring
    _ ≤ 10 ^ 9 * ((last - front.headD previous : ℤ) : ℚ) := by gcongr

theorem estimateEdgeRate_bounds {timestamps : List ℤ} (h : Spaced timestamps) (monotonicNs : ℤ) :
    0 ≤ estimateEdgeRate timestamps monotonicNs ∧
      estimateEdgeRate timestamps monotonicNs ≤ 10 ^ 9 / minEdgeIntervalNs := by
  by_cases hTwo : 2 ≤ timestamps.length
  · obtain ⟨front, previous, last, rfl⟩ := exists_last_interval hTwo
    obtain ⟨hLow, hHigh⟩ := meanRate_bounds h
    rw [estimateEdgeRate_spaced h]
    split
    · rename_i hDecay
      have hSince : (0 : ℚ) < (monotonicNs - last : ℤ) := by
        have hInterval := spaced_interval h
        have hMin : 0 < minEdgeIntervalNs := by decide
        exact_mod_cast hMin.trans_le (hInterval.trans hDecay.le)
      exact ⟨le_min hLow (by positivity), (min_le_left _ _).trans hHigh⟩
    · exact ⟨hLow, hHigh⟩
  · rw [estimateEdgeRate_short (not_le.mp hTwo)]
    exact ⟨le_rfl, by norm_num [minEdgeIntervalNs]⟩

/-! ## The retained history -/

/-- What every operation keeps of the history. -/
structure Kept (state : EncoderState) : Prop where
  spaced : Spaced state.edgeTimestampsNs
  bounded : state.edgeTimestampsNs.length ≤ state.maxlen
  last : ∀ edgeNs, state.edgeTimestampsNs.getLast? = some edgeNs → state.lastEdgeNs = some edgeNs

variable {state : EncoderState}

theorem Kept.prune (h : Kept state) (monotonicNs : ℤ) :
    Spaced (pruneHistory monotonicNs state.edgeTimestampsNs) :=
  List.Pairwise.sublist (pruneHistory_suffix _ _).sublist h.spaced

theorem Kept.accept (h : Kept state) {monotonicNs : ℤ}
    (hAccepted : state.rejectsEdge monotonicNs = false) (fresh : Bool) :
    Spaced ((if fresh then [] else state.edgeTimestampsNs) ++ [monotonicNs]) := by
  cases fresh with
  | true => exact List.pairwise_singleton _ _
  | false =>
    refine spaced_concat h.spaced fun last hLast => ?_
    rw [rejectsEdge, h.last last hLast] at hAccepted
    have hGap := of_decide_eq_false hAccepted
    linarith

theorem Kept.recordEdge (h : Kept state) (monotonicNs : ℤ) :
    Kept (state.recordEdge monotonicNs) := by
  cases hRejects : state.rejectsEdge monotonicNs with
  | true => rwa [recordEdge_rejected hRejects]
  | false =>
    refine ⟨?_, recordEdge_length h.bounded, ?_⟩
    · rw [EncoderState.recordEdge, hRejects]
      exact List.Pairwise.sublist
        ((pruneHistory_suffix _ _).trans (append_suffix _ _ _)).sublist (h.accept hRejects _)
    · intro edgeNs hEdge
      rw [recordEdge_lastEdge hRejects]
      rw [EncoderState.recordEdge, hRejects] at hEdge
      simp only [Bool.false_eq_true, if_false, pruneHistory_getLast?] at hEdge
      have hNonempty := List.ne_nil_of_mem (List.mem_of_getLast? hEdge)
      rw [append_getLast? hNonempty] at hEdge
      exact hEdge

theorem Kept.discard (h : Kept state) (monotonicNs : ℤ) :
    Kept (state.discardLaterEpoch monotonicNs) := by
  unfold discardLaterEpoch
  split
  · exact ⟨List.Pairwise.nil, Nat.zero_le _, nofun⟩
  · exact h

theorem Kept.takeMeasurement (h : Kept state) (monotonicNs : ℤ) :
    Kept (state.takeMeasurement monotonicNs).1 := by
  have hDiscard := h.discard monotonicNs
  refine ⟨?_, takeMeasurement_length h.bounded, ?_⟩
  · unfold EncoderState.takeMeasurement
    dsimp only
    split
    · exact List.Pairwise.nil
    · exact hDiscard.prune monotonicNs
  · unfold EncoderState.takeMeasurement
    dsimp only
    split
    · nofun
    · rw [pruneHistory_getLast?]
      exact hDiscard.last

theorem Kept.updateDirection (h : Kept state) (direction : ℤ) :
    Kept (state.updateDirection direction).1 := by
  unfold EncoderState.updateDirection
  split
  · exact h
  · split
    · exact h
    · exact ⟨h.spaced, h.bounded, h.last⟩

/-- The rate of a measurement is the estimate over a spaced history, or zero at rest. -/
theorem Kept.edgeRate_bounds (h : Kept state) (monotonicNs : ℤ) :
    0 ≤ (state.takeMeasurement monotonicNs).2.edgeRate ∧
      (state.takeMeasurement monotonicNs).2.edgeRate ≤ 10 ^ 9 / minEdgeIntervalNs := by
  unfold EncoderState.takeMeasurement
  dsimp only
  split
  · exact ⟨le_rfl, by norm_num [minEdgeIntervalNs]⟩
  · exact estimateEdgeRate_bounds ((h.discard monotonicNs).prune monotonicNs) monotonicNs

theorem discardLaterEpoch_of_inOrder {monotonicNs : ℤ} (h : state.InOrder monotonicNs) :
    state.discardLaterEpoch monotonicNs = state := by
  rw [discardLaterEpoch, any_later_eq_false h]
  rfl

theorem takeMeasurement_edgeRate {monotonicNs : ℤ} (h : state.InOrder monotonicNs) :
    (state.takeMeasurement monotonicNs).2.edgeRate =
      if state.pulseGap monotonicNs then 0
      else estimateEdgeRate (pruneHistory monotonicNs state.edgeTimestampsNs) monotonicNs := by
  unfold EncoderState.takeMeasurement
  dsimp only
  rw [discardLaterEpoch_of_inOrder h]
  split <;> rfl

theorem Kept.inOrder (h : Kept state) {front : List ℤ} {previous last monotonicNs : ℤ}
    (hEdges : state.edgeTimestampsNs = front ++ [previous, last]) (hLast : last ≤ monotonicNs) :
    state.InOrder monotonicNs := by
  intro edgeNs hEdge
  have hEnd : state.lastEdgeNs = some last := h.last last (by rw [hEdges]; simp)
  rw [hEnd] at hEdge
  exact Option.some.inj hEdge ▸ hLast

/-- Past the last interval, the rate decays with the time since the last edge. -/
theorem Kept.edgeRate_decay (h : Kept state) {front : List ℤ} {previous last monotonicNs : ℤ}
    (hEdges : state.edgeTimestampsNs = front ++ [previous, last])
    (hDecay : last - previous < monotonicNs - last) :
    (state.takeMeasurement monotonicNs).2.edgeRate ≤ 10 ^ 9 / (monotonicNs - last : ℤ) := by
  have hSpaced : Spaced (front ++ [previous, last]) := hEdges ▸ h.spaced
  have hInterval := spaced_interval hSpaced
  have hMin : 0 < minEdgeIntervalNs := by decide
  have hSince : 0 < monotonicNs - last := by linarith
  have hCap : (0 : ℚ) ≤ 10 ^ 9 / (monotonicNs - last : ℤ) :=
    div_nonneg (by norm_num) (by exact_mod_cast hSince.le)
  rw [takeMeasurement_edgeRate (h.inOrder hEdges (by linarith))]
  split
  · exact hCap
  have hPruned := hEdges ▸ h.prune monotonicNs
  rw [hEdges]
  rcases pruneHistory_append monotonicNs front previous last with ⟨kept, -, hKept⟩ | hOne
  · rw [hKept] at hPruned ⊢
    rw [estimateEdgeRate_spaced hPruned, if_pos hDecay]
    exact min_le_right _ _
  · rw [hOne]
    exact hCap

end EncoderState

/-! ## Runs of the encoder -/

/-- A call of one of the methods, by whichever thread holds the lock. -/
inductive EncoderCall where
  | updateDirection (direction : ℤ)
  | recordEdge (monotonicNs : ℤ)
  | takeMeasurement (monotonicNs : ℤ)
  deriving DecidableEq, Repr

namespace EncoderState

/-- The state that a call leaves. -/
def call (state : EncoderState) : EncoderCall → EncoderState
  | .updateDirection direction => (state.updateDirection direction).1
  | .recordEdge monotonicNs => state.recordEdge monotonicNs
  | .takeMeasurement monotonicNs => (state.takeMeasurement monotonicNs).1

/-- The timestamp of the edge that a call accepts. -/
def accepted (state : EncoderState) : EncoderCall → Option ℤ
  | .recordEdge monotonicNs => if state.rejectsEdge monotonicNs then none else some monotonicNs
  | _ => none

/-- What a call reports, if it is a measurement. -/
def reported (state : EncoderState) : EncoderCall → Option EncoderMeasurement
  | .takeMeasurement monotonicNs => some (state.takeMeasurement monotonicNs).2
  | _ => none

/-- The timestamp of the last edge accepted in a run, whatever has been forgotten since. -/
def lastAccepted (start : EncoderState) : List EncoderCall → Option ℤ
  | [] => none
  | input :: past => ((after call start past).accepted input).or (lastAccepted start past)

/-- The last call that accepted an edge or measured was a measurement that reported rest. -/
def FollowsStationary (start : EncoderState) (past : List EncoderCall) : Prop :=
  Since
    (along call start fun state input => state.accepted input = none ∧
      ∀ measurement, state.reported input = some measurement → measurement.stationary = true)
    (along call start fun state input => ∃ measurement, state.reported input = some measurement ∧
      measurement.stationary = true)
    past

theorem Kept.call {state : EncoderState} (h : Kept state) (input : EncoderCall) :
    Kept (state.call input) := by
  cases input with
  | updateDirection direction => exact h.updateDirection direction
  | recordEdge monotonicNs => exact h.recordEdge monotonicNs
  | takeMeasurement monotonicNs => exact h.takeMeasurement monotonicNs

/-- What ties the state to the run that led to it. -/
structure Latched (start : EncoderState) (past : List EncoderCall) (state : EncoderState) :
    Prop where
  timeout : state.stationaryTimeoutNs = start.stationaryTimeoutNs
  maxlen : state.maxlen = start.maxlen
  resting : state.stationary = true → FollowsStationary start past ∨ lastAccepted start past = none
  forgotten : state.lastEdgeNs = none → state.stationary = true
  last : ∀ edgeNs, state.lastEdgeNs = some edgeNs → lastAccepted start past = some edgeNs

variable {start : EncoderState} {past : List EncoderCall}

/-- A call that accepts no edge and does not measure keeps what the run has established. -/
theorem Latched.quiet (h : Latched start past (after call start past)) {input : EncoderCall}
    (hAccepted : (after call start past).accepted input = none)
    (hReported : (after call start past).reported input = none) {next : EncoderState}
    (hTimeout : next.stationaryTimeoutNs = (after call start past).stationaryTimeoutNs)
    (hMaxlen : next.maxlen = (after call start past).maxlen)
    (hStationary : next.stationary = (after call start past).stationary)
    (hLast : next.lastEdgeNs = (after call start past).lastEdgeNs) :
    Latched start (input :: past) next := by
  have hSame : lastAccepted start (input :: past) = lastAccepted start past := by
    rw [lastAccepted, hAccepted, Option.none_or]
  refine ⟨hTimeout.trans h.timeout, hMaxlen.trans h.maxlen, ?_, ?_, ?_⟩
  · intro hRest
    rw [hSame]
    refine (h.resting (hStationary ▸ hRest)).imp_left (Since.keep ⟨hAccepted, ?_⟩)
    intro measurement hMeasurement
    rw [hReported] at hMeasurement
    cases hMeasurement
  · intro hNone
    rw [hStationary]
    exact h.forgotten (hLast ▸ hNone)
  · intro edgeNs hEdge
    rw [hSame]
    exact h.last edgeNs (hLast ▸ hEdge)

theorem updateDirection_eq (state : EncoderState) (direction : ℤ) :
    ∃ latest, (state.updateDirection direction).1 =
      { state with latestNonzeroDirection := latest } := by
  unfold updateDirection
  split
  · exact ⟨_, rfl⟩
  · split
    · exact ⟨_, rfl⟩
    · exact ⟨_, rfl⟩

theorem recordEdge_accepted {state : EncoderState} {monotonicNs : ℤ}
    (h : state.rejectsEdge monotonicNs = false) :
    (state.recordEdge monotonicNs).maxlen = state.maxlen ∧
      (state.recordEdge monotonicNs).stationary = false ∧
      (state.recordEdge monotonicNs).activeDirection =
        if state.stationary || state.pulseGap monotonicNs then state.latestNonzeroDirection
        else state.activeDirection := by
  rw [EncoderState.recordEdge, h]
  exact ⟨rfl, rfl, rfl⟩

theorem takeMeasurement_maxlen (state : EncoderState) (monotonicNs : ℤ) :
    (state.takeMeasurement monotonicNs).1.maxlen = state.maxlen := by
  unfold EncoderState.takeMeasurement discardLaterEpoch
  dsimp only
  split <;> rfl

theorem takeMeasurement_activeDirection (state : EncoderState) (monotonicNs : ℤ) :
    (state.takeMeasurement monotonicNs).1.activeDirection = state.activeDirection := by
  unfold EncoderState.takeMeasurement discardLaterEpoch
  dsimp only
  split <;> rfl

/-- A measurement keeps the last edge or forgets it. -/
theorem takeMeasurement_keeps (state : EncoderState) (monotonicNs : ℤ) :
    (state.takeMeasurement monotonicNs).1.lastEdgeNs = none ∨
      (state.takeMeasurement monotonicNs).1.lastEdgeNs = state.lastEdgeNs := by
  unfold EncoderState.takeMeasurement discardLaterEpoch
  dsimp only
  split
  · exact Or.inl rfl
  · exact Or.inr rfl

theorem pulseGap_none {state : EncoderState} (h : state.lastEdgeNs = none) (monotonicNs : ℤ) :
    state.pulseGap monotonicNs = true := by
  rw [pulseGap, h]
  rfl

theorem Latched.recordEdge (h : Latched start past (after call start past)) (monotonicNs : ℤ) :
    Latched start (.recordEdge monotonicNs :: past)
      ((after call start past).recordEdge monotonicNs) := by
  cases hRejects : (after call start past).rejectsEdge monotonicNs with
  | true =>
    have hAccepted : (after call start past).accepted (.recordEdge monotonicNs) = none :=
      if_pos hRejects
    rw [recordEdge_rejected hRejects]
    exact h.quiet hAccepted rfl rfl rfl rfl rfl
  | false =>
    have hAccepted : (after call start past).accepted (.recordEdge monotonicNs) =
        some monotonicNs := by
      rw [accepted, hRejects]
      rfl
    have hLast : lastAccepted start (.recordEdge monotonicNs :: past) = some monotonicNs := by
      rw [lastAccepted, hAccepted, Option.some_or]
    obtain ⟨hMaxlen, hMoving, -⟩ := recordEdge_accepted hRejects
    refine ⟨recordEdge_timeout.trans h.timeout, hMaxlen.trans h.maxlen, ?_, ?_, ?_⟩
    · rw [hMoving]
      nofun
    · rw [recordEdge_lastEdge hRejects]
      nofun
    · intro edgeNs hEdge
      rw [recordEdge_lastEdge hRejects] at hEdge
      rw [hLast, hEdge]

theorem Latched.takeMeasurement (h : Latched start past (after call start past))
    (monotonicNs : ℤ) :
    Latched start (.takeMeasurement monotonicNs :: past)
      ((after call start past).takeMeasurement monotonicNs).1 := by
  have hSame : lastAccepted start (.takeMeasurement monotonicNs :: past) =
      lastAccepted start past := Option.none_or
  refine ⟨takeMeasurement_timeout.trans h.timeout,
    (takeMeasurement_maxlen _ _).trans h.maxlen, ?_, ?_, ?_⟩
  · intro hRest
    exact Or.inl (Since.start ⟨_, rfl, hRest⟩)
  · exact fun hNone => pulseGap_none hNone _
  · intro edgeNs hEdge
    rw [hSame]
    rcases takeMeasurement_keeps (after call start past) monotonicNs with hNone | hKeep
    · rw [hNone] at hEdge
      cases hEdge
    · exact h.last edgeNs (hKeep ▸ hEdge)

theorem latched_run (hRest : start.stationary = true) (hFirst : start.lastEdgeNs = none)
    (past : List EncoderCall) : Latched start past (after call start past) := by
  induction past with
  | nil =>
    refine ⟨rfl, rfl, fun _ => Or.inr rfl, fun _ => hRest, fun edgeNs hEdge => ?_⟩
    rw [after_nil, hFirst] at hEdge
    cases hEdge
  | cons input past ih =>
    cases input with
    | updateDirection direction =>
      obtain ⟨latest, hLatest⟩ := updateDirection_eq (after call start past) direction
      rw [after_cons, call, hLatest]
      exact ih.quiet rfl rfl rfl rfl rfl rfl
    | recordEdge monotonicNs => exact ih.recordEdge monotonicNs
    | takeMeasurement monotonicNs => exact ih.takeMeasurement monotonicNs

/-- Only an accepted edge that begins an epoch changes the direction. -/
theorem direction_latched {state : EncoderState} {input : EncoderCall}
    (h : (state.call input).activeDirection ≠ state.activeDirection) :
    ∃ monotonicNs, input = .recordEdge monotonicNs ∧
      (state.stationary = true ∨ state.pulseGap monotonicNs = true) := by
  cases input with
  | updateDirection direction =>
    obtain ⟨latest, hLatest⟩ := updateDirection_eq state direction
    rw [call, hLatest] at h
    exact absurd rfl h
  | takeMeasurement monotonicNs =>
    exact absurd (takeMeasurement_activeDirection state monotonicNs) h
  | recordEdge monotonicNs =>
    refine ⟨monotonicNs, rfl, ?_⟩
    cases hRejects : state.rejectsEdge monotonicNs with
    | true =>
      rw [call, recordEdge_rejected hRejects] at h
      exact absurd rfl h
    | false =>
      obtain ⟨-, -, hDirection⟩ := recordEdge_accepted hRejects
      rw [call, hDirection] at h
      by_contra hOld
      rw [not_or, Bool.not_eq_true, Bool.not_eq_true] at hOld
      rw [hOld.1, hOld.2] at h
      exact h rfl

theorem init_ok {timeout : PyFloat} {depth : PyValue} (h : init timeout depth = .ok start) :
    start.edgeTimestampsNs = [] ∧ start.stationary = true ∧ start.lastEdgeNs = none ∧
      ∃ historyDepth, depth = .int historyDepth ∧ (start.maxlen : ℤ) = historyDepth + 1 := by
  unfold init at h
  split at h
  · split at h
    · cases h
    split at h
    · cases h
    cases hDepth : validateHistoryDepth depth with
    | error text =>
      rw [hDepth] at h
      cases h
    | ok value =>
      rw [hDepth] at h
      cases h
      unfold validateHistoryDepth at hDepth
      split at hDepth
      · rename_i historyDepth
        split at hDepth
        · cases hDepth
        split at hDepth
        · cases hDepth
        cases hDepth
        exact ⟨rfl, rfl, rfl, value, rfl, Int.toNat_of_nonneg (by omega)⟩
      · cases hDepth
  · cases h

theorem kept_run {timeout : PyFloat} {depth : PyValue} (h : init timeout depth = .ok start)
    (past : List EncoderCall) : Kept (after call start past) := by
  obtain ⟨hEmpty, -, -, -⟩ := init_ok h
  refine after_invariant ⟨?_, ?_, ?_⟩ (fun state input hKept => hKept.call input) past
  · rw [hEmpty]
    exact List.Pairwise.nil
  · rw [hEmpty]
    exact Nat.zero_le _
  · rw [hEmpty]
    nofun

/-- The history stays spaced and bounded, every rate is bounded, and the direction changes only
with an edge that follows a confirmed stop. The bounds come from `kept_run` and the direction from
`latched_run`, the invariants that every call keeps whatever its timestamp. -/
theorem edge_history {timeout : PyFloat} {depth : PyValue} {start : EncoderState}
    (h : init timeout depth = .ok start) (past : List EncoderCall) :
    (Spaced (after call start past).edgeTimestampsNs ∧
      ∃ historyDepth, depth = .int historyDepth ∧
        ((after call start past).edgeTimestampsNs.length : ℤ) ≤ historyDepth + 1) ∧
    (∀ monotonicNs,
      0 ≤ ((after call start past).takeMeasurement monotonicNs).2.edgeRate ∧
      ((after call start past).takeMeasurement monotonicNs).2.edgeRate ≤
        10 ^ 9 / minEdgeIntervalNs ∧
      ∀ front previous last,
        (after call start past).edgeTimestampsNs = front ++ [previous, last] →
        last - previous < monotonicNs - last →
        ((after call start past).takeMeasurement monotonicNs).2.edgeRate ≤
          10 ^ 9 / (monotonicNs - last : ℤ)) ∧
    (∀ input, ((after call start past).call input).activeDirection ≠
        (after call start past).activeDirection →
      ∃ monotonicNs, input = .recordEdge monotonicNs ∧
        (FollowsStationary start past ∨ lastAccepted start past = none ∨
          ∃ edgeNs, lastAccepted start past = some edgeNs ∧
            start.stationaryTimeoutNs ≤ monotonicNs - edgeNs)) := by
  obtain ⟨-, hRest, hFirst, historyDepth, hDepth, hMaxlen⟩ := init_ok h
  have hKept := kept_run h past
  have hLatched := latched_run hRest hFirst past
  refine ⟨⟨hKept.spaced, historyDepth, hDepth, ?_⟩, ?_, ?_⟩
  · rw [← hMaxlen, ← hLatched.maxlen]
    exact_mod_cast hKept.bounded
  · intro monotonicNs
    obtain ⟨hLow, hHigh⟩ := hKept.edgeRate_bounds monotonicNs
    exact ⟨hLow, hHigh, fun front previous last hEdges hDecay => hKept.edgeRate_decay hEdges hDecay⟩
  · intro input hChanged
    obtain ⟨monotonicNs, rfl, hFresh⟩ := direction_latched hChanged
    refine ⟨monotonicNs, rfl, ?_⟩
    rcases hFresh with hStationary | hGap
    · exact (hLatched.resting hStationary).imp_right Or.inl
    · cases hEdge : (after call start past).lastEdgeNs with
      | none => exact (hLatched.resting (hLatched.forgotten hEdge)).imp_right Or.inl
      | some edgeNs =>
        refine Or.inr (Or.inr ⟨edgeNs, hLatched.last edgeNs hEdge, ?_⟩)
        rw [← hLatched.timeout]
        exact pulseGap_eq_true.mp hGap edgeNs hEdge

/-- A glitch, an edge from the past and a jump backwards between the measurements. -/
def disorder : List EncoderCall :=
  [.recordEdge 900000000, .takeMeasurement 5, .recordEdge 40000000, .recordEdge 50000000,
    .updateDirection 1, .recordEdge 50050000, .recordEdge 10000000]

theorem edge_history_disorder :
    let start : EncoderState := { stationaryTimeoutNs := 200000000, maxlen := 5 }
    Spaced (after call start disorder).edgeTimestampsNs ∧
      (FollowsStationary start disorder.tail ∨ lastAccepted start disorder.tail = none ∨
        ∃ edgeNs, lastAccepted start disorder.tail = some edgeNs ∧
          200000000 ≤ 900000000 - edgeNs) := by
  intro start
  have hInit : init (.finite (2 / 10)) (.int 4) = .ok start := by decide +kernel
  obtain ⟨monotonicNs, hEdge, hStop⟩ :=
    (@edge_history (.finite (2 / 10)) (.int 4) start hInit disorder.tail).2.2
      (.recordEdge 900000000) (by decide +kernel)
  cases hEdge
  exact ⟨(@edge_history (.finite (2 / 10)) (.int 4) start hInit disorder).1.1, hStop⟩

end EncoderState

end PreRunner.Encoder
