import Mathlib.Data.List.GetD
import PreRunner.Profile.CuspExecution

/-!
# Passing a cusp

Progress stays at a cusp until the segment is advanced there, on a standstill reported after the
cusp was reached, unless a profile is matched when progress has already passed one of its stops:
its segments begin at the first one all the same.

`Released` is a statement about the history: at some time progress stood at the stop, a standstill
was reported after that, and the same profile has been matched since. `Executing` is the invariant,
and a late match is the only input that breaks its clause about progress (`withinSegment_step`).
-/

namespace PreRunner.Profile

open Runs

/-! ## The terminals -/

section Terminals

variable {K : Type} {points : List (ProfilePoint K)}

theorem lt_of_mem_cuspStops {i : ℕ} (h : i ∈ cuspStops points) : i < points.length :=
  List.mem_range.mp (List.mem_filter.mp h).1

theorem segmentTerminals_eq (hPoints : points ≠ []) :
    segmentTerminals points = cuspStops points ++ [points.length - 1] := by
  unfold segmentTerminals
  rw [if_neg (by rwa [List.isEmpty_iff])]

theorem segmentTerminals_ne_nil (hPoints : points ≠ []) : segmentTerminals points ≠ [] := by
  rw [segmentTerminals_eq hPoints]
  exact List.append_ne_nil_of_right_ne_nil _ (List.cons_ne_nil _ _)

theorem lt_of_mem_segmentTerminals {i : ℕ} (h : i ∈ segmentTerminals points) :
    i < points.length := by
  by_cases hPoints : points = []
  · subst hPoints
    cases h
  · rw [segmentTerminals_eq hPoints, List.mem_append, List.mem_singleton] at h
    rcases h with h | rfl
    · exact lt_of_mem_cuspStops h
    · exact Nat.sub_lt (List.length_pos_of_ne_nil hPoints) Nat.one_pos

/-- The terminals go up. -/
theorem sorted_segmentTerminals : (segmentTerminals points).Pairwise (· ≤ ·) := by
  by_cases hPoints : points = []
  · subst hPoints
    exact List.Pairwise.nil
  · rw [segmentTerminals_eq hPoints, List.pairwise_append]
    refine ⟨?_, List.pairwise_singleton _ _, ?_⟩
    · exact (List.pairwise_lt_range.sublist List.filter_sublist).imp fun h => h.le
    · intro i hi j hj
      rw [List.mem_singleton] at hj
      have hLt := lt_of_mem_cuspStops hi
      omega

theorem getD_le_getD {terminals : List ℕ} (h : terminals.Pairwise (· ≤ ·)) {i j : ℕ}
    (hLt : i < j) (hj : j < terminals.length) : terminals.getD i 0 ≤ terminals.getD j 0 := by
  rw [List.getD_eq_getElem _ _ (hLt.trans hj), List.getD_eq_getElem _ _ hj]
  exact List.pairwise_iff_getElem.mp h i j (hLt.trans hj) hj hLt

/-- A stop is a terminal before the last one. -/
theorem exists_terminal_of_mem_cuspStops {i : ℕ} (h : i ∈ cuspStops points) :
    ∃ j, j + 1 < (segmentTerminals points).length ∧ (segmentTerminals points).getD j 0 = i := by
  have hPoints : points ≠ [] := by
    rintro rfl
    exact absurd (lt_of_mem_cuspStops h) (Nat.not_lt_zero i)
  obtain ⟨j, hj, rfl⟩ := List.mem_iff_getElem.mp h
  rw [segmentTerminals_eq hPoints]
  refine ⟨j, ?_, ?_⟩
  · rw [List.length_append, List.length_singleton]
    exact Nat.succ_lt_succ hj
  · rw [List.getD_append _ _ _ _ hj, List.getD_eq_getElem _ _ hj]

end Terminals

variable {K : Type} [Field K] [LinearOrder K] {lib : MathLibrary K} {utils : GeometryUtils K}

/-! ## The matched profile -/

/-- A valid profile has one point for every pose. -/
theorem points_of_validateProfile {profile : PathSpeedProfile K} {path : Path K}
    (h : (validateProfile lib profile path).1 = true) :
    profile.points.length = profile.poseCount.toNat ∧ profile.points ≠ [] := by
  unfold validateProfile at h
  split at h
  · cases h
  · rename_i hCount
    rw [not_or, not_not, not_not] at hCount
    refine ⟨hCount.2.trans hCount.1.symm, ?_⟩
    rintro hEmpty
    rw [hEmpty] at h
    split at h
    · cases h
    · split at h
      · cases h
      · split at h
        · rw [if_pos (Or.inl nofun)] at h
          cases h
        · cases h

namespace CuspController

variable {c : CuspController K}

/-- The matched profile is valid for the plan, and the segments are those of it. -/
structure Matched (lib : MathLibrary K) (c : CuspController K) : Prop where
  valid : c.pathSpeedProfileMatched = true →
    (validateProfile lib c.activePathSpeedProfile.toPathSpeedProfile c.currentProfilePath).1 = true
  terminals : c.pathHandler.segmentTerminalIndices =
    if c.pathSpeedProfileMatched then segmentTerminals c.activePathSpeedProfile.points else []
  segment : c.pathSpeedProfileMatched = true →
    c.pathHandler.currentSegment < c.pathHandler.segmentTerminalIndices.length

theorem matched_unmatch (c : CuspController K) : Matched lib c.unmatch :=
  ⟨nofun, rfl, nofun⟩

theorem valid_of_candidate {path : Path K} {cache : List (ProfileMessage K)}
    {profile : ProfileMessage K} (h : candidate lib path cache = some profile) :
    (validateProfile lib profile.toPathSpeedProfile path).1 = true := by
  unfold candidate at h
  exact (Option.filter_eq_some_iff.mp h).2

theorem matched_matchCached (c : CuspController K) :
    Matched lib (c.matchCachedPathSpeedProfileLocked lib) := by
  unfold matchCachedPathSpeedProfileLocked
  split
  · exact matched_unmatch c
  · rename_i profile hCandidate
    have hValid := valid_of_candidate hCandidate
    refine ⟨fun _ => hValid, rfl, fun _ => ?_⟩
    exact List.length_pos_of_ne_nil
      (segmentTerminals_ne_nil (points_of_validateProfile hValid).2)

/-- What a delivery does besides filling the cache. -/
theorem receivePathSpeedProfile_cases (c : CuspController K) (profile : ProfileMessage K) :
    c.receivePathSpeedProfile lib profile = c.cacheProfile profile ∨
    (c.pathSpeedProfileMatched = true ∧
      c.receivePathSpeedProfile lib profile = (c.cacheProfile profile).unmatch) ∨
    (c.currentProfilePath.poses ≠ [] ∧ c.pathSpeedProfileMatched = false ∧
      c.receivePathSpeedProfile lib profile =
        (c.cacheProfile profile).matchCachedPathSpeedProfileLocked lib) := by
  unfold receivePathSpeedProfile
  dsimp only
  split
  · exact Or.inl rfl
  · rename_i hPath
    split
    · rename_i hMatched
      split
      · exact Or.inl rfl
      · split
        · exact Or.inl rfl
        · exact Or.inr (Or.inl ⟨hMatched, rfl⟩)
    · rename_i hUnmatched
      refine Or.inr (Or.inr ⟨?_, Bool.eq_false_iff.mpr hUnmatched, rfl⟩)
      rwa [List.isEmpty_iff] at hPath

theorem matched_receive (h : Matched lib c) (profile : ProfileMessage K) :
    Matched lib (c.receivePathSpeedProfile lib profile) := by
  rcases c.receivePathSpeedProfile_cases profile with hSame | ⟨-, hSame⟩ | ⟨-, -, hSame⟩
  · rw [hSame]
    exact ⟨h.valid, h.terminals, h.segment⟩
  · rw [hSame]
    exact matched_unmatch _
  · rw [hSame]
    exact matched_matchCached _

/-- A transformation keeps the segments. -/
theorem segments_transform (utils : GeometryUtils K) (h : PathHandler K) (call : TransformCall K) :
    (h.transformGlobalPlan utils call).2.segmentTerminalIndices = h.segmentTerminalIndices ∧
      (h.transformGlobalPlan utils call).2.currentSegment = h.currentSegment ∧
      h.globalPathIndex ≤ (h.transformGlobalPlan utils call).2.globalPathIndex := by
  rcases h.transformGlobalPlan_cases utils call with hSame | ⟨robot, first, -, hPrune⟩
  · rw [hSame]
    exact ⟨rfl, rfl, le_rfl⟩
  · rw [hPrune]
    exact ⟨rfl, rfl, Nat.le_add_right _ _⟩

omit [Field K] [LinearOrder K] in
/-- What `updateCuspExecution` does. -/
theorem updateCuspExecution_cases (utils : GeometryUtils K) (c : CuspController K) (now : ℤ) :
    ((c.updateCuspExecution utils now).1 = false ∧
      ((c.updateCuspExecution utils now).2 = c ∨
      (c.updateCuspExecution utils now).2 = { c with waitingForCuspStationary := false } ∨
      (c.pathSpeedProfileMatched = true ∧ c.pathHandler.atSegmentTerminal = true ∧
        c.pathHandler.hasActiveCusp = true ∧
        (c.updateCuspExecution utils now).2 = { c with
          waitingForCuspStationary := true
          cuspWaitStartSequence := c.encoderSampleSequence }))) ∨
    ((c.updateCuspExecution utils now).1 = true ∧ c.pathSpeedProfileMatched = true ∧
      c.pathHandler.atSegmentTerminal = true ∧ c.pathHandler.hasActiveCusp = true ∧
      c.waitingForCuspStationary = true ∧
      c.cuspWaitStartSequence < c.encoderSampleSequence ∧ c.encoderStationary = true ∧
      (c.updateCuspExecution utils now).2 = { c with
        pathHandler := { c.pathHandler with
          pathOffset := utils.nextUp c.pathHandler.pathOffset
          currentSegment := c.pathHandler.currentSegment + 1 }
        waitingForCuspStationary := false }) := by
  unfold updateCuspExecution
  split
  · exact Or.inl ⟨rfl, Or.inr (Or.inl rfl)⟩
  · rename_i hAt
    rw [Bool.not_eq_true, Bool.or_eq_false_iff, Bool.not_eq_false', Bool.not_eq_false'] at hAt
    split
    · exact Or.inl ⟨rfl, Or.inl rfl⟩
    · rename_i hActive
      rw [Bool.not_eq_true, Bool.not_eq_false'] at hActive
      split
      · exact Or.inl ⟨rfl, Or.inr (Or.inr ⟨hAt.1, hAt.2, hActive, rfl⟩)⟩
      · rename_i hWaiting
        rw [Bool.not_eq_true, Bool.not_eq_false'] at hWaiting
        have hAdvance : c.pathHandler.advanceSegment utils = (true, { c.pathHandler with
            pathOffset := utils.nextUp c.pathHandler.pathOffset
            currentSegment := c.pathHandler.currentSegment + 1 }) := by
          unfold PathHandler.advanceSegment
          rw [hAt.2, hActive]
          rfl
        rw [hAdvance]
        dsimp only
        split
        · rename_i hFresh
          rw [Bool.and_eq_true, Bool.and_eq_true, Bool.and_eq_true, decide_eq_true_eq] at hFresh
          exact Or.inr ⟨rfl, hAt.1, hAt.2, hActive, hWaiting, hFresh.1.1.1, hFresh.1.2, rfl⟩
        · exact Or.inl ⟨rfl, Or.inl rfl⟩

theorem matched_step (h : Matched lib c) (input : CuspInput K) :
    Matched lib (c.step lib utils input) := by
  cases input with
  | setPlan path => exact matched_matchCached _
  | profile message => exact matched_receive h message
  | transform call =>
    obtain ⟨hTerminals, hSegment, -⟩ := segments_transform utils c.pathHandler call
    refine ⟨h.valid, hTerminals.trans h.terminals, fun hMatched => ?_⟩
    show (c.pathHandler.transformGlobalPlan utils call).2.currentSegment <
      (c.pathHandler.transformGlobalPlan utils call).2.segmentTerminalIndices.length
    rw [hSegment, hTerminals]
    exact h.segment hMatched
  | updateCusp now =>
    show Matched lib (c.updateCuspExecution utils now).2
    rcases c.updateCuspExecution_cases utils now with ⟨-, hSame | hSame | ⟨-, -, -, hSame⟩⟩ |
      ⟨-, -, -, hActive, -, -, -, hSame⟩
    · rwa [hSame]
    · rw [hSame]
      exact ⟨h.valid, h.terminals, h.segment⟩
    · rw [hSame]
      exact ⟨h.valid, h.terminals, h.segment⟩
    · rw [hSame]
      exact ⟨h.valid, h.terminals, fun _ => of_decide_eq_true hActive⟩
  | encoder stationary now => exact ⟨h.valid, h.terminals, h.segment⟩

theorem matched_initial : Matched lib (initial : CuspController K) := ⟨nofun, rfl, nofun⟩

/-- The terminals stay below the number of points, which is a 32-bit number. -/
theorem Matched.terminal_lt (h : Matched lib c) (hActive : c.pathHandler.hasActiveCusp = true) :
    c.pathHandler.terminal < sizeModulus := by
  have hSegment : c.pathHandler.currentSegment < c.pathHandler.segmentTerminalIndices.length :=
    Nat.lt_of_succ_lt (of_decide_eq_true hActive)
  have hMem := List.getElem_mem hSegment
  unfold PathHandler.terminal
  rw [List.getD_eq_getElem _ _ hSegment]
  generalize c.pathHandler.segmentTerminalIndices[c.pathHandler.currentSegment] = terminal at hMem
  rw [h.terminals] at hMem
  split at hMem
  · rename_i hMatched
    have hLt := lt_of_mem_segmentTerminals hMem
    rw [(points_of_validateProfile (h.valid hMatched)).1] at hLt
    have hCount := c.activePathSpeedProfile.poseCount.toNat_lt
    unfold sizeModulus
    omega
  · cases hMem

/-! ## Progress and the current terminal -/

/-- While a cusp is active, progress has not passed the terminal of the segment. -/
def WithinSegment (c : CuspController K) : Prop :=
  c.pathHandler.hasActiveCusp = true → c.pathHandler.globalPathIndex ≤ c.pathHandler.terminal

/-- A delivery matches a profile that has a stop which progress has already passed. -/
def LateMatch (lib : MathLibrary K) (c : CuspController K) : CuspInput K → Prop
  | .profile message =>
    c.currentProfilePath.poses ≠ [] ∧ c.pathSpeedProfileMatched = false ∧
      ∃ profile, candidate lib c.currentProfilePath
          (c.cacheProfile message).pathSpeedProfileCache = some profile ∧
        ∃ i ∈ cuspStops profile.points, i < c.pathHandler.globalPathIndex
  | _ => False

omit [Field K] [LinearOrder K] in
theorem withinSegment_of_unmatched (h : c.pathHandler.segmentTerminalIndices = []) :
    c.WithinSegment := by
  intro hActive
  unfold PathHandler.hasActiveCusp at hActive
  rw [h] at hActive
  cases hActive

/-- After a match, progress is within the first segment if it has passed no stop. -/
theorem withinSegment_matchCached :
    (c.matchCachedPathSpeedProfileLocked lib).WithinSegment ↔
      ¬ ∃ profile, candidate lib c.currentProfilePath c.pathSpeedProfileCache = some profile ∧
        ∃ i ∈ cuspStops profile.points, i < c.pathHandler.globalPathIndex := by
  unfold matchCachedPathSpeedProfileLocked
  split
  · rename_i hNone
    refine iff_of_true (withinSegment_of_unmatched rfl) ?_
    rintro ⟨profile, hSome, -⟩
    rw [hNone] at hSome
    cases hSome
  · rename_i profile hCandidate
    have hPoints := (points_of_validateProfile (valid_of_candidate hCandidate)).2
    have hFirst : ∀ i ∈ cuspStops profile.points, 1 < (segmentTerminals profile.points).length ∧
        (segmentTerminals profile.points).getD 0 0 ≤ i := by
      intro i hi
      obtain ⟨j, hj, rfl⟩ := exists_terminal_of_mem_cuspStops hi
      refine ⟨by omega, ?_⟩
      rcases Nat.eq_zero_or_pos j with rfl | hPos
      · exact le_rfl
      · exact getD_le_getD sorted_segmentTerminals hPos (Nat.lt_of_succ_lt hj)
    constructor
    · rintro hWithin ⟨other, hOther, i, hi, hPassed⟩
      cases hCandidate.symm.trans hOther
      have hLe := hWithin (decide_eq_true (hFirst i hi).1)
      exact absurd ((hPassed.trans_le hLe).trans_le (hFirst i hi).2) (lt_irrefl i)
    · intro hLate hActive
      have hLength : 0 + 1 < (segmentTerminals profile.points).length := of_decide_eq_true hActive
      by_contra hPassed
      refine hLate ⟨profile, hCandidate, (segmentTerminals profile.points).getD 0 0, ?_,
        not_le.mp hPassed⟩
      rw [segmentTerminals_eq hPoints] at hLength ⊢
      rw [List.length_append, List.length_singleton] at hLength
      have hStops : 0 < (cuspStops profile.points).length := by omega
      rw [List.getD_append _ _ _ _ hStops, List.getD_eq_getElem _ _ hStops]
      exact List.getElem_mem hStops

theorem withinSegment_transform (h : Matched lib c) (hWithin : c.WithinSegment)
    (call : TransformCall K) : (c.step lib utils (.transform call)).WithinSegment := by
  intro hActive
  obtain ⟨hTerminals, hSegment, -⟩ := segments_transform utils c.pathHandler call
  have hWas : c.pathHandler.hasActiveCusp = true := by
    rw [← hActive]
    show PathHandler.hasActiveCusp _ =
      PathHandler.hasActiveCusp (c.pathHandler.transformGlobalPlan utils call).2
    unfold PathHandler.hasActiveCusp
    rw [hTerminals, hSegment]
  show (c.pathHandler.transformGlobalPlan utils call).2.globalPathIndex ≤
    PathHandler.terminal (c.pathHandler.transformGlobalPlan utils call).2
  rcases c.pathHandler.transformGlobalPlan_cases utils call with hSame |
    ⟨robot, first, hFirst, hPrune⟩
  · rw [hSame]
    exact hWithin hWas
  · rw [hPrune]
    exact PathHandler.globalPathIndex_prune_le utils hWas (hWithin hWas) (h.terminal_lt hWas) hFirst

theorem withinSegment_updateCusp (h : Matched lib c) (hWithin : c.WithinSegment) (now : ℤ) :
    (c.step lib utils (.updateCusp now)).WithinSegment := by
  show (c.updateCuspExecution utils now).2.WithinSegment
  rcases c.updateCuspExecution_cases utils now with
    ⟨-, hSame | hSame | ⟨-, -, -, hSame⟩⟩ | ⟨-, -, -, hActive, -, -, -, hSame⟩
  · rwa [hSame]
  · rw [hSame]
    exact hWithin
  · rw [hSame]
    exact hWithin
  · rw [hSame]
    intro hNext
    refine (hWithin hActive).trans ?_
    have hSorted : c.pathHandler.segmentTerminalIndices.Pairwise (· ≤ ·) := by
      rw [h.terminals]
      split
      · exact sorted_segmentTerminals
      · exact List.Pairwise.nil
    exact getD_le_getD hSorted (Nat.lt_succ_self _) (Nat.lt_of_succ_lt (of_decide_eq_true hNext))

/-- A step keeps progress within the segment, unless it is a late match. -/
theorem withinSegment_step (h : Matched lib c) (hWithin : c.WithinSegment) (input : CuspInput K) :
    (c.step lib utils input).WithinSegment ↔ ¬ LateMatch lib c input := by
  cases input with
  | setPlan path =>
    refine iff_of_true (withinSegment_matchCached.mpr ?_) id
    rintro ⟨profile, -, i, -, hPassed⟩
    exact absurd hPassed (Nat.not_lt_zero i)
  | profile message =>
    show (c.receivePathSpeedProfile lib message).WithinSegment ↔ _
    have hCache : (c.cacheProfile message).WithinSegment := hWithin
    unfold receivePathSpeedProfile LateMatch
    dsimp only
    split
    · rename_i hEmpty
      exact iff_of_true hCache fun hLate => hLate.1 (List.isEmpty_iff.mp hEmpty)
    · rename_i hPath
      rw [List.isEmpty_iff] at hPath
      split
      · rename_i hMatched
        have hLate : ¬ (c.currentProfilePath.poses ≠ [] ∧ c.pathSpeedProfileMatched = false ∧
            ∃ profile, candidate lib c.currentProfilePath
                (c.cacheProfile message).pathSpeedProfileCache = some profile ∧
              ∃ i ∈ cuspStops profile.points, i < c.pathHandler.globalPathIndex) := by
          rintro ⟨-, hUnmatched, -⟩
          exact Bool.false_ne_true (hUnmatched.symm.trans hMatched)
        split
        · exact iff_of_true hCache hLate
        · split
          · exact iff_of_true hCache hLate
          · exact iff_of_true (withinSegment_of_unmatched rfl) hLate
      · rename_i hUnmatched
        rw [withinSegment_matchCached]
        refine not_congr ⟨fun hLate => ?_, fun hLate => hLate.2.2⟩
        exact ⟨hPath, Bool.eq_false_iff.mpr hUnmatched, hLate⟩
  | transform call => exact iff_of_true (withinSegment_transform h hWithin call) id
  | updateCusp now => exact iff_of_true (withinSegment_updateCusp h hWithin now) id
  | encoder stationary now => exact iff_of_true hWithin id

/-! ## Histories -/

section History

variable (lib : MathLibrary K) (utils : GeometryUtils K)

/-- The controller after a history, latest input first. -/
abbrev reached (past : List (CuspInput K)) : CuspController K :=
  after (step lib utils) initial past

/-- The latest encoder sample said this, and was received when progress on the present plan had
reached the pose. -/
def SampledAt (i : ℕ) (stationary : Bool) (past : List (CuspInput K)) : Prop :=
  Since (fun _ input => (∀ path, input ≠ .setPlan path) ∧ ∀ other now, input ≠ .encoder other now)
    (fun older input => (∃ now, input = .encoder stationary now) ∧
      i ≤ (reached lib utils older).pathHandler.globalPathIndex) past

/-- The segment was advanced at this pose, on a standstill sampled after progress had reached it,
and the same profile is matched since. -/
def Released (i : ℕ) (past : List (CuspInput K)) : Prop :=
  Since (fun older input => (∀ path, input ≠ .setPlan path) ∧
      (reached lib utils (input :: older)).pathSpeedProfileMatched = true)
    (fun older input => (∃ now, input = .updateCusp now ∧
        ((reached lib utils older).updateCuspExecution utils now).1 = true) ∧
      (reached lib utils older).pathHandler.terminal = i ∧
      (reached lib utils older).pathHandler.globalPathIndex = i ∧
      SampledAt lib utils i true older) past

/-- After a history a matched profile is valid for the path and cuts it at its stops, no active
segment is passed, and the robot has stood at every stop that lies behind. -/
structure CuspSafe (past : List (CuspInput K)) : Prop where
  valid : (reached lib utils past).pathSpeedProfileMatched = true →
    (validateProfile lib (reached lib utils past).activePathSpeedProfile.toPathSpeedProfile
      (reached lib utils past).currentProfilePath).1 = true
  terminals : (reached lib utils past).pathSpeedProfileMatched = true →
    (reached lib utils past).pathHandler.segmentTerminalIndices =
      cuspStops (reached lib utils past).activePathSpeedProfile.points ++
        [(reached lib utils past).activePathSpeedProfile.points.length - 1]
  within : (reached lib utils past).pathHandler.hasActiveCusp = true →
    (reached lib utils past).pathHandler.globalPathIndex ≤
      (reached lib utils past).pathHandler.terminal
  released : (reached lib utils past).pathSpeedProfileMatched = true →
    ∀ i ∈ cuspStops (reached lib utils past).activePathSpeedProfile.points,
      i < (reached lib utils past).pathHandler.globalPathIndex → Released lib utils i past

/-- The invariant: the terminals before the current one are released, and a wait is for the
current one. -/
structure Executing (past : List (CuspInput K)) (c : CuspController K) : Prop where
  matched : Matched lib c
  within : c.WithinSegment
  released : c.pathSpeedProfileMatched = true → ∀ j < c.pathHandler.currentSegment,
    Released lib utils (c.pathHandler.segmentTerminalIndices.getD j 0) past
  waiting : c.waitingForCuspStationary = true → c.pathSpeedProfileMatched = true ∧
    c.pathHandler.atSegmentTerminal = true ∧
    c.cuspWaitStartSequence ≤ c.encoderSampleSequence ∧
    (c.cuspWaitStartSequence < c.encoderSampleSequence →
      SampledAt lib utils c.pathHandler.terminal c.encoderStationary past)

variable {lib utils} {past : List (CuspInput K)}

theorem Released.keep {i : ℕ} {input : CuspInput K} (hPlan : ∀ path, input ≠ .setPlan path)
    (hMatched : (reached lib utils (input :: past)).pathSpeedProfileMatched = true)
    (h : Released lib utils i past) : Released lib utils i (input :: past) :=
  Since.keep ⟨hPlan, hMatched⟩ h

theorem SampledAt.keep {i : ℕ} {stationary : Bool} {input : CuspInput K}
    (hPlan : ∀ path, input ≠ .setPlan path) (hEncoder : ∀ other now, input ≠ .encoder other now)
    (h : SampledAt lib utils i stationary past) :
    SampledAt lib utils i stationary (input :: past) :=
  Since.keep ⟨hPlan, hEncoder⟩ h

/-- Whatever the past, nothing is released or waited for just after a match. -/
theorem executing_matchCached
    (hWithin : (c.matchCachedPathSpeedProfileLocked lib).WithinSegment)
    (past : List (CuspInput K)) :
    Executing lib utils past (c.matchCachedPathSpeedProfileLocked lib) := by
  have hFresh : (c.matchCachedPathSpeedProfileLocked lib).pathHandler.currentSegment = 0 ∧
      (c.matchCachedPathSpeedProfileLocked lib).waitingForCuspStationary = false := by
    unfold matchCachedPathSpeedProfileLocked
    split
    · exact ⟨rfl, rfl⟩
    · exact ⟨rfl, rfl⟩
  refine ⟨matched_matchCached c, hWithin, fun _ j hj => ?_, fun hWaiting => ?_⟩
  · rw [hFresh.1] at hj
    exact absurd hj (Nat.not_lt_zero j)
  · rw [hFresh.2] at hWaiting
    cases hWaiting

/-- A step that leaves the segments and the encoder alone, and where progress only grows. -/
theorem Executing.keep {c' : CuspController K} {input : CuspInput K}
    (h : Executing lib utils past c) (hReached : reached lib utils (input :: past) = c')
    (hPlan : ∀ path, input ≠ .setPlan path) (hEncoder : ∀ other now, input ≠ .encoder other now)
    (hMatched' : Matched lib c') (hWithin : c'.WithinSegment)
    (hSame : c'.pathSpeedProfileMatched = c.pathSpeedProfileMatched ∧
      c'.pathHandler.segmentTerminalIndices = c.pathHandler.segmentTerminalIndices ∧
      c'.pathHandler.currentSegment = c.pathHandler.currentSegment ∧
      c'.cuspWaitStartSequence = c.cuspWaitStartSequence ∧
      c'.encoderSampleSequence = c.encoderSampleSequence ∧
      c'.encoderStationary = c.encoderStationary)
    (hWaiting : c'.waitingForCuspStationary = true → c.waitingForCuspStationary = true)
    (hIndex : c.pathHandler.globalPathIndex ≤ c'.pathHandler.globalPathIndex) :
    Executing lib utils (input :: past) c' := by
  obtain ⟨hMatched, hTerminals, hSegment, hStart, hSequence, hStationary⟩ := hSame
  have hTerminal : c'.pathHandler.terminal = c.pathHandler.terminal := by
    unfold PathHandler.terminal
    rw [hTerminals, hSegment]
  refine ⟨hMatched', hWithin, fun hIs j hj => ?_, fun hWaits => ?_⟩
  · rw [hTerminals]
    rw [hSegment] at hj
    refine Released.keep hPlan ?_ (h.released (hMatched ▸ hIs) j hj)
    rwa [hReached]
  · obtain ⟨hIs, hAt, hLe, hSampled⟩ := h.waiting (hWaiting hWaits)
    refine ⟨hMatched.trans hIs, ?_, ?_, fun hLt => ?_⟩
    · unfold PathHandler.atSegmentTerminal at hAt ⊢
      rw [Bool.and_eq_true, decide_eq_true_eq, decide_eq_true_eq] at hAt ⊢
      rw [hTerminals, hSegment, hTerminal]
      exact ⟨hAt.1, hAt.2.trans hIndex⟩
    · rwa [hStart, hSequence]
    · rw [hStart, hSequence] at hLt
      rw [hTerminal, hStationary]
      exact (hSampled hLt).keep hPlan hEncoder

theorem executing_updateCusp (h : Executing lib utils past (reached lib utils past)) (now : ℤ) :
    Executing lib utils (.updateCusp now :: past)
      (reached lib utils (.updateCusp now :: past)) := by
  have hMatched : Matched lib ((reached lib utils past).updateCuspExecution utils now).2 :=
    matched_step h.matched (.updateCusp now)
  have hWithin : ((reached lib utils past).updateCuspExecution utils now).2.WithinSegment :=
    withinSegment_updateCusp h.matched h.within now
  have hReached : reached lib utils (.updateCusp now :: past) =
      ((reached lib utils past).updateCuspExecution utils now).2 := rfl
  rw [hReached]
  rcases (reached lib utils past).updateCuspExecution_cases utils now with
    ⟨-, hSame | hSame | ⟨hIs, hAt, -, hSame⟩⟩ |
    ⟨hAdvanced, hIs, hAt, hActive, hWaiting, hLt, hStationary, hSame⟩
  · rw [hSame] at hReached hMatched hWithin ⊢
    exact h.keep hReached nofun nofun hMatched hWithin ⟨rfl, rfl, rfl, rfl, rfl, rfl⟩ id le_rfl
  · rw [hSame] at hReached hMatched hWithin ⊢
    exact h.keep hReached nofun nofun hMatched hWithin ⟨rfl, rfl, rfl, rfl, rfl, rfl⟩ nofun le_rfl
  · rw [hSame] at hReached hMatched hWithin ⊢
    refine ⟨hMatched, hWithin, fun _ j hj => ?_, fun _ => ⟨hIs, hAt, le_rfl, fun hLt => ?_⟩⟩
    · refine (h.released hIs j hj).keep nofun ?_
      rw [hReached]
      exact hIs
    · exact absurd hLt (lt_irrefl _)
  · have hTerminal : (reached lib utils past).pathHandler.globalPathIndex =
        (reached lib utils past).pathHandler.terminal := by
      refine le_antisymm (h.within hActive) ?_
      unfold PathHandler.atSegmentTerminal at hAt
      rw [Bool.and_eq_true, decide_eq_true_eq, decide_eq_true_eq] at hAt
      exact hAt.2
    have hSampled := (h.waiting hWaiting).2.2.2 hLt
    rw [hStationary] at hSampled
    rw [hSame] at hReached hMatched hWithin ⊢
    refine ⟨hMatched, hWithin, fun _ j hj => ?_, nofun⟩
    rcases Nat.lt_succ_iff_lt_or_eq.mp hj with hOld | rfl
    · refine (h.released hIs j hOld).keep nofun ?_
      rw [hReached]
      exact hIs
    · exact Since.start ⟨⟨now, rfl, hAdvanced⟩, rfl, hTerminal, hSampled⟩

/-- A step keeps the invariant, unless it is a late match. -/
theorem executing_step (h : Executing lib utils past (reached lib utils past))
    (input : CuspInput K) (hLate : ¬ LateMatch lib (reached lib utils past) input) :
    Executing lib utils (input :: past) (reached lib utils (input :: past)) := by
  have hMatched : Matched lib ((reached lib utils past).step lib utils input) :=
    matched_step h.matched input
  have hWithin : ((reached lib utils past).step lib utils input).WithinSegment :=
    (withinSegment_step h.matched h.within input).mpr hLate
  cases input with
  | setPlan path => exact executing_matchCached hWithin _
  | profile message =>
    have hReached : reached lib utils (.profile message :: past) =
      (reached lib utils past).receivePathSpeedProfile lib message := rfl
    change Matched lib ((reached lib utils past).receivePathSpeedProfile lib message) at hMatched
    change ((reached lib utils past).receivePathSpeedProfile lib message).WithinSegment at hWithin
    rw [hReached]
    rcases (reached lib utils past).receivePathSpeedProfile_cases message with
      hSame | ⟨-, hSame⟩ | ⟨-, -, hSame⟩
    · rw [hSame] at hReached hMatched hWithin ⊢
      exact h.keep hReached nofun nofun hMatched hWithin ⟨rfl, rfl, rfl, rfl, rfl, rfl⟩ id le_rfl
    · rw [hSame] at hMatched hWithin ⊢
      exact ⟨hMatched, hWithin, nofun, nofun⟩
    · rw [hSame] at hWithin ⊢
      exact executing_matchCached hWithin _
  | transform call =>
    obtain ⟨hTerminals, hSegment, hIndex⟩ :=
      segments_transform utils (reached lib utils past).pathHandler call
    exact h.keep rfl nofun nofun hMatched hWithin ⟨rfl, hTerminals, hSegment, rfl, rfl, rfl⟩ id
      hIndex
  | updateCusp now => exact executing_updateCusp h now
  | encoder stationary now =>
    refine ⟨hMatched, hWithin, fun hIs j hj => ?_, fun hWaiting => ?_⟩
    · exact (h.released hIs j hj).keep nofun hIs
    · obtain ⟨hIs, hAt, hLe, -⟩ := h.waiting hWaiting
      refine ⟨hIs, hAt, hLe.trans (Nat.le_succ _), fun _ => Since.start ⟨⟨now, rfl⟩, ?_⟩⟩
      unfold PathHandler.atSegmentTerminal at hAt
      rw [Bool.and_eq_true, decide_eq_true_eq, decide_eq_true_eq] at hAt
      exact hAt.2

theorem executing_initial : Executing lib utils [] (reached lib utils []) :=
  ⟨matched_initial, withinSegment_of_unmatched rfl, nofun, nofun⟩

/-- In a state that keeps the invariant the execution is safe. -/
theorem cuspSafe_of_executing (h : Executing lib utils past (reached lib utils past)) :
    CuspSafe lib utils past := by
  have hTerminals : (reached lib utils past).pathSpeedProfileMatched = true →
      (reached lib utils past).pathHandler.segmentTerminalIndices =
        segmentTerminals (reached lib utils past).activePathSpeedProfile.points := by
    intro hIs
    rw [h.matched.terminals, if_pos hIs]
  refine ⟨h.matched.valid, fun hIs => ?_, h.within, fun hIs i hi hPassed => ?_⟩
  · rw [hTerminals hIs]
    exact segmentTerminals_eq (points_of_validateProfile (h.matched.valid hIs)).2
  · obtain ⟨j, hj, rfl⟩ := exists_terminal_of_mem_cuspStops hi
    rw [← hTerminals hIs] at hj hPassed ⊢
    refine h.released hIs j ?_
    by_contra hLe
    -- Progress is within the current segment, which is then before this stop or ends there.
    have hActive : (reached lib utils past).pathHandler.hasActiveCusp = true :=
      decide_eq_true (by omega)
    have hWithin := h.within hActive
    unfold PathHandler.terminal at hWithin
    rcases (not_lt.mp hLe).lt_or_eq with hLt | hEq
    · have hSorted : (reached lib utils past).pathHandler.segmentTerminalIndices.Pairwise
          (· ≤ ·) := by
        rw [hTerminals hIs]
        exact sorted_segmentTerminals
      have hMono := getD_le_getD hSorted hLt (Nat.lt_of_succ_lt hj)
      omega
    · rw [hEq] at hWithin
      omega

/-- In every run all states are safe just when no delivery matches a profile with a stop that
progress has already passed. `executing_step` keeps the invariant unless the match is late, and
`withinSegment_step` shows that a late match leaves progress beyond its segment at once. -/
theorem cuspSafe_iff (past : List (CuspInput K)) :
    Always (fun past input => CuspSafe lib utils (input :: past)) past ↔
      Always (along (step lib utils) initial fun c input => ¬ LateMatch lib c input) past := by
  have hSafe : ∀ past : List (CuspInput K),
      Always (along (step lib utils) initial fun c input => ¬ LateMatch lib c input) past →
        Executing lib utils past (reached lib utils past) := by
    intro past
    induction past with
    | nil => exact fun _ => executing_initial
    | cons input past ih => exact fun h => executing_step (ih h.2) input h.1
  induction past with
  | nil => exact Iff.rfl
  | cons input past ih =>
    constructor
    · intro h
      have hPast := ih.mp h.2
      have hExecuting := hSafe past hPast
      exact ⟨(withinSegment_step hExecuting.matched hExecuting.within input).mp h.1.within, hPast⟩
    · intro h
      exact ⟨cuspSafe_of_executing (hSafe (input :: past) h), ih.mpr h.2⟩

end History

/-! ## A late profile -/

/-- Rational numbers with a taxicab distance. -/
def taxicab : MathLibrary ℚ where
  sqrt x := x
  hypot x y := |x| + |y|
  atan2 _ _ := 0
  sin _ := 0
  cos _ := 1
  log x := x
  pow x _ := x
  bits _ := 0
  hypot_nonneg x y := add_nonneg (abs_nonneg x) (abs_nonneg y)
  pow_zero _ := rfl

/-- The search takes the pose at which the robot is, if it is at one. -/
def taxicabUtils : GeometryUtils ℚ where
  euclideanDistance a b :=
    match a.position.x, a.position.y, b.position.x, b.position.y with
    | .finite x, .finite y, .finite x', .finite y' => .finite (|x - x'| + |y - y'|)
    | _, _, _, _ => .nan
  firstAfterIntegratedDistance poses _ := poses.length
  minBy poses value := min (poses.findIdx fun pose => value pose = .finite 0) (poses.length - 1)
  nextUp value := value
  firstAfter_le _ _ := le_rfl
  minBy_le _ _ := min_le_right _ _

def poseAt (x : ℚ) : Pose ℚ := ⟨⟨x, 0, 0⟩, ⟨0, 0, 0, 1⟩⟩

/-- Forward one metre and back again. -/
def backPath : Path ℚ := ⟨"", ⟨0, 0⟩, [poseAt 0, poseAt 1, poseAt (1 / 2), poseAt 0]⟩

/-- A profile of it that stops at the far end. -/
def backProfile : ProfileMessage ℚ where
  frameId := ""
  committedPathStamp := ⟨0, 0⟩
  pathHash := pathIdentity taxicab backPath
  poseCount := 4
  goalArclength := .finite 2
  presetCeiling := .finite 1
  creepSpeed := .finite (1 / 4)
  points := [⟨.finite 0, .finite 1, cuspNone⟩, ⟨.finite 1, .finite 0, cuspStop⟩,
    ⟨.finite (3 / 2), .finite 1, cuspDeparture⟩, ⟨.finite 2, .finite 0, cuspNone⟩]
  stamp := ⟨0, 0⟩

/-- The robot is on the way back when the profile arrives; latest input first. -/
def lateProfile : List (CuspInput ℚ) :=
  [.profile backProfile,
    .transform
      { robotPose := some (poseAt (1 / 2)).toDouble
        maxRobotPoseSearchDist := .finite 10
        rejectUnitPath := false
        maxCostmapExtent := .finite 10
        toLocal := fun pose => some pose.toDouble },
    .setPlan backPath]

theorem late_profile_passes_cusp :
    ((reached taxicab taxicabUtils lateProfile).pathHandler.hasActiveCusp = true ∧
      (reached taxicab taxicabUtils lateProfile).pathHandler.terminal = 1 ∧
      (reached taxicab taxicabUtils lateProfile).pathHandler.globalPathIndex = 2 ∧
      (reached taxicab taxicabUtils lateProfile).pathHandler.segmentBound = 0) ∧
      ¬ CuspSafe taxicab taxicabUtils lateProfile := by
  have hRun : (reached taxicab taxicabUtils lateProfile).pathHandler.hasActiveCusp = true ∧
      (reached taxicab taxicabUtils lateProfile).pathHandler.terminal = 1 ∧
      (reached taxicab taxicabUtils lateProfile).pathHandler.globalPathIndex = 2 ∧
      (reached taxicab taxicabUtils lateProfile).pathHandler.segmentBound = 0 := by
    decide +kernel
  refine ⟨hRun, fun hSafe => ?_⟩
  have hWithin := hSafe.within hRun.1
  rw [hRun.2.1, hRun.2.2.1] at hWithin
  omega

end CuspController

end PreRunner.Profile
