import PreRunner.Encoder.EdgeHistory

/-!
# The rate between two edges

While no edge is recorded, a measurement can only forget edges. The rate decays, except that the
edges left in the lookback window may be closer together than all of them were. This module says
when the reported rate rises.

The mean rate of a window is the number of its gaps over its length, and never more than the age of
the last edge allows. Both measurements look at the same edges, the later one through a window that
starts later; `Tightens` says that what it has lost were the wider gaps.
-/

namespace PreRunner.Encoder

open Runs

namespace EncoderState

/-- A cap that falls hides a rise of the mean unless it is still above the earlier mean. -/
theorem decayed_lt_iff {mean mean' : ℚ} {interval dt dt' : ℤ} (hInterval : 0 < interval)
    (hLater : dt ≤ dt') :
    (if interval < dt then min mean (10 ^ 9 / dt) else mean) <
        (if interval < dt' then min mean' (10 ^ 9 / dt') else mean') ↔
      mean < mean' ∧ (interval < dt' → mean < 10 ^ 9 / dt') := by
  by_cases hFirst : interval < dt
  · have hSecond : interval < dt' := hFirst.trans_le hLater
    have hPos : (0 : ℚ) < dt := by exact_mod_cast hInterval.trans hFirst
    have hCap : (10 ^ 9 / dt' : ℚ) ≤ 10 ^ 9 / dt :=
      div_le_div_of_nonneg_left (by norm_num) hPos (by exact_mod_cast hLater)
    rw [if_pos hFirst, if_pos hSecond, lt_min_iff]
    constructor
    · rintro ⟨hMean, hBelow⟩
      have hDecayed : mean < 10 ^ 9 / dt' :=
        (min_lt_iff.mp hBelow).resolve_right (not_lt.mpr hCap)
      rw [min_eq_left (hDecayed.le.trans hCap)] at hMean
      exact ⟨hMean, fun _ => hDecayed⟩
    · rintro ⟨hMean, hBelow⟩
      exact ⟨(min_le_left _ _).trans_lt hMean, (min_le_left _ _).trans_lt (hBelow hSecond)⟩
  · rw [if_neg hFirst]
    by_cases hSecond : interval < dt'
    · rw [if_pos hSecond, lt_min_iff]
      exact ⟨fun h => ⟨h.1, fun _ => h.2⟩, fun h => ⟨h.1, h.2 hSecond⟩⟩
    · rw [if_neg hSecond]
      exact ⟨fun h => ⟨h, fun hLt => absurd hLt hSecond⟩, fun h => h.1⟩

/-- The edges that remain are closer together than those before, and the time since the last one
does not hide it. -/
def Tightens (before later : List ℤ) (monotonicNs : ℤ) : Prop :=
  ∃ front kept previous last,
    before = front ++ [previous, last] ∧ later = kept ++ [previous, last] ∧
      meanRate front previous last < meanRate kept previous last ∧
      (last - previous < monotonicNs - last →
        meanRate front previous last < 10 ^ 9 / (monotonicNs - last : ℤ))

theorem not_tightens_of_short {before later : List ℤ} (h : later.length < 2) (monotonicNs : ℤ) :
    ¬ Tightens before later monotonicNs := by
  rintro ⟨front, kept, previous, last, -, rfl, -⟩
  rw [List.length_append] at h
  exact absurd h (by simp)

theorem tightens_iff {front kept : List ℤ} {previous last : ℤ} (monotonicNs : ℤ) :
    Tightens (front ++ [previous, last]) (kept ++ [previous, last]) monotonicNs ↔
      meanRate front previous last < meanRate kept previous last ∧
        (last - previous < monotonicNs - last →
          meanRate front previous last < 10 ^ 9 / (monotonicNs - last : ℤ)) := by
  constructor
  · rintro ⟨front', kept', previous', last', hBefore, hLater, hRises⟩
    obtain ⟨rfl, hPair⟩ := List.append_inj' hBefore rfl
    obtain ⟨rfl, -⟩ := List.append_inj' hLater rfl
    cases hPair
    exact hRises
  · exact fun hRises => ⟨front, kept, previous, last, rfl, rfl, hRises⟩

/-- Two estimates over one history, the later one over what pruning leaves of it. -/
theorem estimate_lt_iff {timestamps : List ℤ} (h : Spaced timestamps) {firstNs secondNs : ℤ}
    (hLater : firstNs ≤ secondNs) :
    estimateEdgeRate timestamps firstNs <
        estimateEdgeRate (pruneHistory secondNs timestamps) secondNs ↔
      Tightens timestamps (pruneHistory secondNs timestamps) secondNs := by
  have hSpaced : Spaced (pruneHistory secondNs timestamps) :=
    List.Pairwise.sublist (pruneHistory_suffix _ _).sublist h
  have hShort : (pruneHistory secondNs timestamps).length < 2 →
      (estimateEdgeRate timestamps firstNs <
        estimateEdgeRate (pruneHistory secondNs timestamps) secondNs ↔
      Tightens timestamps (pruneHistory secondNs timestamps) secondNs) := by
    intro hOne
    rw [estimateEdgeRate_short hOne]
    exact iff_of_false (not_lt.mpr (estimateEdgeRate_bounds h firstNs).1)
      (not_tightens_of_short hOne secondNs)
  by_cases hTwo : 2 ≤ timestamps.length
  · obtain ⟨front, previous, last, rfl⟩ := exists_last_interval hTwo
    rcases pruneHistory_append secondNs front previous last with ⟨kept, -, hKept⟩ | hOne
    · rw [hKept] at hSpaced ⊢
      have hInterval : 0 < last - previous :=
        (by decide : 0 < minEdgeIntervalNs).trans_le (spaced_interval h)
      rw [estimateEdgeRate_spaced h, estimateEdgeRate_spaced hSpaced, tightens_iff]
      exact decayed_lt_iff hInterval (by linarith)
    · exact hShort (by rw [hOne]; simp)
  · exact hShort ((pruneHistory_length_le _ _).trans_lt (not_le.mp hTwo))

/-! ## Two measurements -/

variable {state next : EncoderState} {firstNs secondNs : ℤ}

theorem takeMeasurement_timestamps (h : state.InOrder firstNs) :
    (state.takeMeasurement firstNs).1.edgeTimestampsNs =
      if state.pulseGap firstNs then [] else pruneHistory firstNs state.edgeTimestampsNs := by
  unfold EncoderState.takeMeasurement
  dsimp only
  rw [discardLaterEpoch_of_inOrder h]

/-- A wheel that was found at rest is at rest until the next edge. -/
theorem rest_remains (hLater : firstNs ≤ secondNs)
    (hRest : (state.takeMeasurement firstNs).2.stationary = true)
    (hTimeout : next.stationaryTimeoutNs = state.stationaryTimeoutNs)
    (hLast : next.lastEdgeNs = (state.takeMeasurement firstNs).1.lastEdgeNs) :
    next.InOrder secondNs ∧ next.pulseGap secondNs = true := by
  by_cases hOrder : state.InOrder firstNs
  · rw [takeMeasurement_lastEdge hOrder] at hLast
    rw [takeMeasurement_stationary hOrder, pulseGap_eq_true] at hRest
    constructor
    · intro edgeNs hEdge
      exact (hOrder edgeNs (hLast ▸ hEdge)).trans hLater
    · rw [pulseGap_eq_true, hTimeout]
      intro edgeNs hEdge
      have hGap := hRest edgeNs (hLast ▸ hEdge)
      linarith
  · obtain ⟨edgeNs, hOrder⟩ := not_forall.mp hOrder
    obtain ⟨hEdge, hBefore⟩ := Classical.not_imp.mp hOrder
    rw [(takeMeasurement_before hEdge (not_le.mp hBefore)).1] at hLast
    constructor
    · intro edgeNs hEdge
      rw [hLast] at hEdge
      cases hEdge
    · exact pulseGap_none hLast secondNs

theorem takeMeasurement_at_rest (hRest : (state.takeMeasurement firstNs).2.stationary = true) :
    (state.takeMeasurement firstNs).2.edgeRate = 0 := if_pos hRest

theorem timestamps_at_rest (hRest : (state.takeMeasurement firstNs).2.stationary = true) :
    (state.takeMeasurement firstNs).1.edgeTimestampsNs = [] := if_pos hRest

/-- The later of two measurements with no edge between them. -/
theorem edgeRate_lt_iff (hKept : Kept state) (hLater : firstNs ≤ secondNs)
    (hTimeout : next.stationaryTimeoutNs = state.stationaryTimeoutNs)
    (hLast : next.lastEdgeNs = (state.takeMeasurement firstNs).1.lastEdgeNs)
    (hEdges : next.edgeTimestampsNs = (state.takeMeasurement firstNs).1.edgeTimestampsNs) :
    (state.takeMeasurement firstNs).2.edgeRate < (next.takeMeasurement secondNs).2.edgeRate ↔
      Tightens (state.takeMeasurement firstNs).1.edgeTimestampsNs
        (next.takeMeasurement secondNs).1.edgeTimestampsNs secondNs := by
  have hAtRest : (next.takeMeasurement secondNs).2.stationary = true →
      ((state.takeMeasurement firstNs).2.edgeRate < (next.takeMeasurement secondNs).2.edgeRate ↔
      Tightens (state.takeMeasurement firstNs).1.edgeTimestampsNs
        (next.takeMeasurement secondNs).1.edgeTimestampsNs secondNs) := by
    intro hRest
    rw [takeMeasurement_at_rest hRest, timestamps_at_rest hRest]
    exact iff_of_false (not_lt.mpr (hKept.edgeRate_bounds firstNs).1)
      (not_tightens_of_short (by simp) secondNs)
  cases hFirst : (state.takeMeasurement firstNs).2.stationary with
  | true =>
    obtain ⟨hOrder, hGap⟩ := rest_remains hLater hFirst hTimeout hLast
    exact hAtRest ((takeMeasurement_stationary hOrder).trans hGap)
  | false =>
    have hOrder : state.InOrder firstNs := by
      intro edgeNs hEdge
      by_contra hBefore
      rw [(takeMeasurement_before hEdge (not_le.mp hBefore)).2] at hFirst
      cases hFirst
    have hNext : next.InOrder secondNs := by
      intro edgeNs hEdge
      rw [hLast, takeMeasurement_lastEdge hOrder] at hEdge
      exact (hOrder edgeNs hEdge).trans hLater
    cases hSecond : (next.takeMeasurement secondNs).2.stationary with
    | true => exact hAtRest hSecond
    | false =>
      rw [takeMeasurement_stationary hOrder] at hFirst
      rw [takeMeasurement_stationary hNext] at hSecond
      have hSpaced := hKept.prune firstNs
      rw [takeMeasurement_edgeRate hOrder, takeMeasurement_edgeRate hNext,
        takeMeasurement_timestamps hNext, hEdges, takeMeasurement_timestamps hOrder, hFirst,
        hSecond]
      exact estimate_lt_iff hSpaced hLater

/-! ## Runs without an edge -/

/-- Directions leave the edges as they are. -/
theorem after_directions {later : List EncoderCall}
    (h : ∀ input ∈ later, ∃ direction, input = .updateDirection direction)
    (state : EncoderState) :
    ∃ latest, after call state later = { state with latestNonzeroDirection := latest } := by
  induction later with
  | nil => exact ⟨_, rfl⟩
  | cons input later ih =>
    obtain ⟨latest, hLatest⟩ := ih fun input hMem => h input (List.mem_cons_of_mem _ hMem)
    obtain ⟨direction, rfl⟩ := h input (List.mem_cons_self ..)
    rw [after_cons, hLatest, call]
    obtain ⟨newest, hNewest⟩ :=
      updateDirection_eq { state with latestNonzeroDirection := latest } direction
    exact ⟨newest, hNewest⟩

/-- Two successive measurements with no edge between them: the rate rises exactly when the edges
that remain in the lookback window are closer together, and it is zero from the stop on. Updates of
the direction leave the edges alone (`after_directions`), so both measurements look at one history,
and `edgeRate_lt_iff` compares what is left of it in the two windows. -/
theorem rate_rises_iff {timeout : PyFloat} {depth : PyValue} {start : EncoderState}
    (hStart : init timeout depth = .ok start) (past between : List EncoderCall)
    (hBetween : ∀ input ∈ between, ∃ direction, input = .updateDirection direction)
    {firstNs secondNs : ℤ} (hLater : firstNs ≤ secondNs) :
    let state := after call start past
    let next := after call (state.takeMeasurement firstNs).1 between
    ((state.takeMeasurement firstNs).2.edgeRate < (next.takeMeasurement secondNs).2.edgeRate ↔
      Tightens (state.takeMeasurement firstNs).1.edgeTimestampsNs
        (next.takeMeasurement secondNs).1.edgeTimestampsNs secondNs) ∧
    ((state.takeMeasurement firstNs).2.stationary = true →
      (next.takeMeasurement secondNs).2.stationary = true) ∧
    ((next.takeMeasurement secondNs).2.stationary = true →
      (next.takeMeasurement secondNs).2.edgeRate = 0) := by
  intro state next
  obtain ⟨latest, hNext⟩ := after_directions hBetween (state.takeMeasurement firstNs).1
  have hTimeout : next.stationaryTimeoutNs = state.stationaryTimeoutNs := by
    rw [show next = _ from hNext]
    exact takeMeasurement_timeout
  have hLast : next.lastEdgeNs = (state.takeMeasurement firstNs).1.lastEdgeNs := by
    rw [show next = _ from hNext]
  have hEdges : next.edgeTimestampsNs =
      (state.takeMeasurement firstNs).1.edgeTimestampsNs := by
    rw [show next = _ from hNext]
  refine ⟨edgeRate_lt_iff (kept_run hStart past) hLater hTimeout hLast hEdges, ?_,
    takeMeasurement_at_rest⟩
  intro hRest
  obtain ⟨hOrder, hGap⟩ := rest_remains hLater hRest hTimeout hLast
  exact (takeMeasurement_stationary hOrder).trans hGap

/-- Three slow intervals, then a short one. -/
def lastGasp : List EncoderCall :=
  [.recordEdge 479000000, .recordEdge 470000000, .recordEdge 380000000, .recordEdge 190000000,
    .recordEdge 0]

/-- The first edge leaves the lookback window, and the rate rises. -/
theorem rate_rises_lastGasp :
    ¬ ∀ (timeout : PyFloat) (depth : PyValue) (start : EncoderState),
      init timeout depth = .ok start →
      ∀ (past : List EncoderCall) (firstNs secondNs : ℤ), firstNs ≤ secondNs →
        (((after call start past).takeMeasurement firstNs).1.takeMeasurement secondNs).2.edgeRate ≤
          ((after call start past).takeMeasurement firstNs).2.edgeRate := by
  intro hAll
  have hFalls := hAll (.finite (2 / 10)) (.int 4)
    { stationaryTimeoutNs := 200000000, maxlen := 5 } (by decide +kernel) lastGasp 490000000
    501000000 (by decide)
  exact absurd hFalls (by decide +kernel)

theorem rate_rises_iff_lastGasp :
    let start : EncoderState := { stationaryTimeoutNs := 200000000, maxlen := 5 }
    let state := after call start lastGasp
    Tightens (state.takeMeasurement 490000000).1.edgeTimestampsNs
      ((state.takeMeasurement 490000000).1.takeMeasurement 501000000).1.edgeTimestampsNs
      501000000 := by
  intro start state
  exact (@rate_rises_iff (.finite (2 / 10)) (.int 4) start (by decide +kernel) lastGasp [] nofun
    490000000 501000000 (by decide)).1.mp (by decide +kernel)

end EncoderState

end PreRunner.Encoder
