import PreRunner.Commitment.PersistentPathValid
import PreRunner.Profile.CuspSafety
import PreRunner.Runs.History

/-!
# Blockages over a run

An episode lasts from a change of the committed path, or from a valid answer, to the next one.
The answers of an episode are counted over the run; the condition fails, and requests one new
plan, exactly when that count reaches the required one, unless the counter of the condition wraps
around. The corridor that is asked about is the shortest one that goes far enough.
-/

namespace PreRunner.Commitment

open Profile Runs
open Profile.CuspController (taxicab)

variable {K : Type} [Field K] [LinearOrder K]

/-! ## The corridor ahead -/

section Corridor

variable (lib : MathLibrary K)

/-- The length of a list of poses. -/
def arcLength : List (PoseStamped K) → K
  | first :: second :: rest => distance lib first second + arcLength (second :: rest)
  | _ => 0

/-- The first poses of these cover the length or reach the goal. -/
def GoesFarEnough (corridorLength : K) (ahead : List (PoseStamped K)) (count : ℕ) : Prop :=
  count = ahead.length ∨ corridorLength ≤ arcLength lib (ahead.take count)

/-- The corridor is the shortest nonempty slice from the executed index that goes far enough. -/
def ForwardCorridor (input : CommitmentTick K) (corridor : PathMessage K) : Prop :=
  ∃ execution, input.execution = some execution ∧
    ∃ count, 1 ≤ count ∧
      execution.globalPathIndex.toNat + count ≤ input.path.poses.length ∧
      corridor = { input.path with
        poses := (input.path.poses.drop execution.globalPathIndex.toNat).take count } ∧
      GoesFarEnough lib input.corridorLength
        (input.path.poses.drop execution.globalPathIndex.toNat) count ∧
      ∀ shorter, 1 ≤ shorter → shorter < count → ¬ GoesFarEnough lib input.corridorLength
        (input.path.poses.drop execution.globalPathIndex.toNat) shorter

variable {lib}

theorem corridorPoses_spec (corridorLength : K) (first : PoseStamped K)
    (rest : List (PoseStamped K)) (covered : K) :
    let count := 1 + corridorPoses lib corridorLength covered (first :: rest)
    count ≤ (first :: rest).length ∧
      (count = (first :: rest).length ∨
        corridorLength ≤ covered + arcLength lib ((first :: rest).take count)) ∧
      ∀ shorter, 1 ≤ shorter → shorter < count →
        covered + arcLength lib ((first :: rest).take shorter) < corridorLength := by
  induction rest generalizing first covered with
  | nil =>
    refine ⟨le_rfl, Or.inl rfl, fun shorter hOne hShort => ?_⟩
    exact absurd hShort (not_lt.mpr hOne)
  | cons second rest ih =>
    rw [corridorPoses]
    by_cases hCovered : covered < corridorLength
    · rw [if_pos hCovered]
      obtain ⟨hLength, hFar, hShortest⟩ := ih second (covered + distance lib first second)
      rw [Nat.add_comm 1 (_ + 1), Nat.add_comm 1] at *
      generalize corridorPoses lib corridorLength (covered + distance lib first second)
        (second :: rest) = added at *
      refine ⟨Nat.succ_le_succ hLength, hFar.imp (congrArg (· + 1)) fun hLe => ?_, ?_⟩
      · rwa [List.take_succ_cons, List.take_succ_cons, arcLength, ← add_assoc,
          ← List.take_succ_cons]
      · intro shorter hOne hShort
        obtain ⟨fewer, rfl⟩ := Nat.exists_eq_add_of_le' hOne
        rcases Nat.eq_zero_or_pos fewer with rfl | hFewer
        · simpa [arcLength] using hCovered
        · have hBefore := hShortest fewer hFewer (Nat.lt_of_succ_lt_succ hShort)
          obtain ⟨least, rfl⟩ := Nat.exists_eq_add_of_le' hFewer
          rw [List.take_succ_cons] at hBefore
          rwa [List.take_succ_cons, List.take_succ_cons, arcLength, ← add_assoc]
    · rw [if_neg hCovered]
      refine ⟨by simp, Or.inr ?_, fun shorter hOne hShort => ?_⟩
      · simpa [arcLength] using not_lt.mp hCovered
      · exact absurd hShort (not_lt.mpr hOne)

theorem makeForwardCorridor_spec {input : CommitmentTick K} {corridor : PathMessage K}
    (h : makeForwardCorridor lib input.execution input.path input.corridorLength = some corridor) :
    ForwardCorridor lib input corridor := by
  unfold makeForwardCorridor at h
  split at h
  · cases h
  · rename_i execution hExecution
    split at h
    · cases h
    · rename_i hMatches
      have hIndex : execution.globalPathIndex.toNat < input.path.poses.length := by
        by_contra hBeyond
        refine hMatches ?_
        unfold PathExecutionState.mismatches
        rw [decide_eq_true (not_lt.mp hBeyond), Bool.or_true]
      cases h
      have hAhead := List.length_drop (i := execution.globalPathIndex.toNat) (l := input.path.poses)
      cases hDrop : input.path.poses.drop execution.globalPathIndex.toNat with
      | nil =>
        rw [hDrop, List.length_nil] at hAhead
        omega
      | cons first rest =>
        obtain ⟨hLength, hFar, hShortest⟩ :=
          @corridorPoses_spec _ _ _ lib input.corridorLength first rest 0
        rw [hDrop] at hAhead
        refine ⟨execution, hExecution, 1 + corridorPoses lib input.corridorLength 0 (first :: rest),
          Nat.le_add_right 1 _, by omega, ?_, ?_, ?_⟩
        · rw [hDrop]
        · rw [hDrop]
          exact hFar.imp_right fun hLe => by rwa [zero_add] at hLe
        · intro shorter hOne hShort
          rw [hDrop]
          rintro (hAll | hCovered)
          · omega
          · have hBelow := hShortest shorter hOne hShort
            rw [zero_add] at hBelow
            exact absurd hCovered (not_le.mpr hBelow)

end Corridor

/-! ## Episodes -/

section Episodes

variable (lib : MathLibrary K) (requiredObservations : UInt32)

/-- The answer that a tick obtains about the corridor. -/
def CommitmentTick.obtained (input : CommitmentTick K) : Option Bool :=
  if input.path.poses.isEmpty then none
  else (makeForwardCorridor lib input.execution input.path input.corridorLength).bind
    fun _ => input.answer

/-- The path of the tick before, empty before the first one. -/
def previousPath : List (CommitmentTick K) → PathMessage K
  | [] => {}
  | input :: _ => input.path

/-- The invalid answers since the last valid one and since the last change of the path. -/
def invalidSince : List (CommitmentTick K) → ℕ
  | [] => 0
  | input :: past =>
    let before := if input.path = previousPath past then invalidSince past else 0
    match input.obtained lib with
    | none => before
    | some true => 0
    | some false => before + 1

/-- The condition after a run. -/
def conditionAfter (past : List (CommitmentTick K)) : PersistentPathValid K :=
  after (fun node input => (node.tick lib requiredObservations input).1) {} past

/-- What a tick does after a run. -/
def resultOf (past : List (CommitmentTick K)) (input : CommitmentTick K) : TickResult K :=
  ((conditionAfter lib requiredObservations past).tick lib requiredObservations input).2

/-- The new plans requested since the last valid answer and since the last change of the path. -/
def requestsSince : List (CommitmentTick K) → ℕ
  | [] => 0
  | input :: past =>
    let before := if input.path = previousPath past then requestsSince past else 0
    match input.obtained lib with
    | some true => 0
    | _ => before + (resultOf lib requiredObservations past input).published.count replanRequested

/-- A tick on a path fails exactly when it obtains the required invalid answer, one new plan is
requested in an episode that reaches it, and the corridor is the shortest one. -/
structure TickRight (past : List (CommitmentTick K)) (input : CommitmentTick K) : Prop where
  status : input.path.poses ≠ [] →
    ((resultOf lib requiredObservations past input).status = .failure ↔
      input.obtained lib = some false ∧
        requiredBlocked requiredObservations ≤ invalidSince lib (input :: past))
  requests : requestsSince lib requiredObservations (input :: past) =
    if requiredBlocked requiredObservations ≤ invalidSince lib (input :: past) then 1 else 0
  corridor : ∀ corridor, (resultOf lib requiredObservations past input).request = some corridor →
    ForwardCorridor lib input corridor

/-- The counter does not wrap around at this tick. -/
def NoWrap (past : List (CommitmentTick K)) (input : CommitmentTick K) : Prop :=
  input.obtained lib = some false → requiredBlocked requiredObservations < 2 ^ 32 - 1 ∨
    invalidSince lib (input :: past) < 2 ^ 32

variable {lib requiredObservations} {node : PersistentPathValid K} {input : CommitmentTick K}
  {past : List (CommitmentTick K)}

/-! ## One tick -/

omit [Field K] in
theorem commit_committedPath (node : PersistentPathValid K) (path : PathMessage K) :
    (node.commit path).committedPath = path := by
  unfold PersistentPathValid.commit
  split
  · rfl
  · rename_i hSame
    exact (not_not.mp hSame).symm

omit [Field K] in
theorem commit_persistence (node : PersistentPathValid K) (path : PathMessage K) :
    (node.commit path).persistence =
      if path = node.committedPath then node.persistence else {} := by
  unfold PersistentPathValid.commit
  by_cases hSame : path = node.committedPath
  · rw [if_neg (not_not.mpr hSame), if_pos hSame]
  · rw [if_pos hSame, if_neg hSame]

theorem count_retained (reason : String) :
    [("committed_path_retained", reason)].count replanRequested = 0 := by
  simp [replanRequested]

/-- A tick on an empty path. -/
theorem tick_empty (h : input.path.poses = []) :
    input.obtained lib = none ∧
      (node.tick lib requiredObservations input).1.committedPath = input.path ∧
      (node.tick lib requiredObservations input).1.persistence = {} ∧
      (node.tick lib requiredObservations input).2.published = [] ∧
      (node.tick lib requiredObservations input).2.request = none := by
  unfold CommitmentTick.obtained PersistentPathValid.tick
  rw [h]
  exact ⟨rfl, rfl, rfl, rfl, rfl⟩

/-- A tick that obtains no answer keeps the count. -/
theorem tick_unobtained (h : input.path.poses ≠ []) (hObtained : input.obtained lib = none) :
    (node.tick lib requiredObservations input).1.committedPath = input.path ∧
      (node.tick lib requiredObservations input).1.persistence =
        (node.commit input.path).persistence ∧
      (node.tick lib requiredObservations input).2.status = .success ∧
      (node.tick lib requiredObservations input).2.published.count replanRequested = 0 := by
  have hPoses : input.path.poses.isEmpty = false := List.isEmpty_eq_false_iff.mpr h
  have hSilent : ∀ (node : PersistentPathValid K) (request : Option (PathMessage K)) reason,
      (node.unavailable request reason).2.published.count replanRequested = 0 := by
    intro node request reason
    unfold PersistentPathValid.unavailable
    dsimp only
    split
    · rfl
    · exact count_retained reason
  unfold CommitmentTick.obtained at hObtained
  rw [hPoses] at hObtained
  unfold PersistentPathValid.tick
  rw [hPoses]
  dsimp only at hObtained ⊢
  cases hCorridor : makeForwardCorridor lib input.execution input.path input.corridorLength with
  | none => exact ⟨commit_committedPath _ _, rfl, rfl, hSilent _ _ _⟩
  | some corridor =>
    rw [hCorridor] at hObtained
    have hAnswer : input.answer = none := hObtained
    rw [hAnswer]
    exact ⟨commit_committedPath _ _, rfl, rfl, hSilent _ _ _⟩

/-- A tick that obtains an answer observes it. -/
theorem tick_obtained {isValid : Bool} (hObtained : input.obtained lib = some isValid) :
    input.path.poses ≠ [] ∧ ∃ corridor,
      makeForwardCorridor lib input.execution input.path input.corridorLength = some corridor ∧
      node.tick lib requiredObservations input =
        (node.commit input.path).answered requiredObservations corridor isValid := by
  unfold CommitmentTick.obtained at hObtained
  cases hPoses : input.path.poses.isEmpty with
  | true =>
    rw [hPoses] at hObtained
    cases hObtained
  | false =>
    rw [hPoses] at hObtained
    refine ⟨List.isEmpty_eq_false_iff.mp hPoses, ?_⟩
    unfold PersistentPathValid.tick
    rw [hPoses]
    cases hCorridor : makeForwardCorridor lib input.execution input.path input.corridorLength with
    | none =>
      rw [hCorridor] at hObtained
      cases hObtained
    | some corridor =>
      rw [hCorridor] at hObtained
      have hAnswer : input.answer = some isValid := hObtained
      rw [hAnswer]
      exact ⟨corridor, rfl, rfl⟩

omit [Field K] [LinearOrder K] in
theorem answered_valid (corridor : PathMessage K) :
    (node.answered requiredObservations corridor true).1.persistence = {} ∧
      (node.answered requiredObservations corridor true).2.status = .success := ⟨rfl, rfl⟩

omit [Field K] [LinearOrder K] in
/-- An invalid answer: the status follows the counter, and so does the request. -/
theorem answered_invalid (corridor : PathMessage K) :
    let limit := requiredBlocked requiredObservations
    let blocked := min ((node.persistence.blockedObservations + 1) % 2 ^ 32) limit
    (node.answered requiredObservations corridor false).1.persistence = ⟨blocked⟩ ∧
      ((node.answered requiredObservations corridor false).2.status = .failure ↔ limit ≤ blocked) ∧
      (node.answered requiredObservations corridor false).2.published.count replanRequested =
        if limit ≤ blocked ∧ node.persistence.blockedObservations < limit then 1 else 0 := by
  intro limit blocked
  by_cases hPersistent : limit ≤ blocked
  · have hObserve : node.persistence.observe false requiredObservations = (⟨blocked⟩, true) := by
      rw [BlockagePersistence.observe]
      exact Prod.ext rfl (decide_eq_true hPersistent)
    unfold PersistentPathValid.answered
    rw [hObserve]
    refine ⟨rfl, iff_of_true rfl hPersistent, ?_⟩
    by_cases hFirst : node.persistence.blockedObservations < limit
    · rw [if_pos ⟨hPersistent, hFirst⟩]
      simp only [Bool.false_eq_true, not_true_eq_false, if_false]
      rw [if_pos hFirst]
      rfl
    · rw [if_neg fun h => hFirst h.2]
      simp only [Bool.false_eq_true, not_true_eq_false, if_false]
      rw [if_neg hFirst]
      rfl
  · have hObserve : node.persistence.observe false requiredObservations = (⟨blocked⟩, false) := by
      rw [BlockagePersistence.observe]
      exact Prod.ext rfl (decide_eq_false hPersistent)
    unfold PersistentPathValid.answered
    rw [hObserve, if_neg fun h => hPersistent h.1]
    exact ⟨rfl, iff_of_false nofun hPersistent, count_retained _⟩

omit [Field K] [LinearOrder K] in
theorem answered_request (corridor : PathMessage K) (isValid : Bool) :
    (node.answered requiredObservations corridor isValid).2.request = some corridor := by
  unfold PersistentPathValid.answered
  dsimp only
  split
  · rfl
  · split <;> rfl

omit [Field K] [LinearOrder K] in
theorem answered_committedPath (corridor : PathMessage K) (isValid : Bool) :
    (node.answered requiredObservations corridor isValid).1.committedPath =
      node.committedPath := by
  unfold PersistentPathValid.answered
  dsimp only
  split
  · rfl
  · split <;> rfl

/-- What is sent is the corridor ahead. -/
theorem tick_request {corridor : PathMessage K}
    (h : (node.tick lib requiredObservations input).2.request = some corridor) :
    ForwardCorridor lib input corridor := by
  by_cases hPoses : input.path.poses = []
  · rw [(tick_empty hPoses).2.2.2.2] at h
    cases h
  · have hNonempty : input.path.poses.isEmpty = false := List.isEmpty_eq_false_iff.mpr hPoses
    unfold PersistentPathValid.tick at h
    rw [hNonempty] at h
    dsimp only at h
    cases hCorridor : makeForwardCorridor lib input.execution input.path input.corridorLength with
    | none =>
      rw [hCorridor] at h
      cases h
    | some sent =>
      rw [hCorridor] at h
      have hSent : some sent = some corridor := by
        rw [← h]
        cases input.answer with
        | none => rfl
        | some isValid => exact (answered_request sent isValid).symm
      cases hSent
      exact makeForwardCorridor_spec hCorridor

/-! ## Runs without a wrap -/

variable (lib requiredObservations) in
/-- What ties the condition to the run that led to it. -/
structure Counted (past : List (CommitmentTick K)) : Prop where
  path : (conditionAfter lib requiredObservations past).committedPath = previousPath past
  count : (conditionAfter lib requiredObservations past).persistence.blockedObservations =
    min (invalidSince lib past) (requiredBlocked requiredObservations)
  empty : (previousPath past).poses = [] → invalidSince lib past = 0
  requests : requestsSince lib requiredObservations past =
    if requiredBlocked requiredObservations ≤ invalidSince lib past then 1 else 0

theorem requiredBlocked_pos : 0 < requiredBlocked requiredObservations :=
  lt_of_lt_of_le Nat.one_pos (le_max_left _ _)

/-- The counts that a tick starts from. -/
theorem Counted.start (h : Counted lib requiredObservations past) (input : CommitmentTick K) :
    ((conditionAfter lib requiredObservations past).commit
        input.path).persistence.blockedObservations =
      min (if input.path = previousPath past then invalidSince lib past else 0)
        (requiredBlocked requiredObservations) ∧
    (if input.path = previousPath past then requestsSince lib requiredObservations past else 0) =
      if requiredBlocked requiredObservations ≤
          (if input.path = previousPath past then invalidSince lib past else 0) then 1 else 0 := by
  rw [commit_persistence, h.path]
  by_cases hSame : input.path = previousPath past
  · simp only [if_pos hSame]
    exact ⟨h.count, h.requests⟩
  · simp only [if_neg hSame]
    rw [if_neg (not_le.mpr requiredBlocked_pos)]
    exact ⟨(Nat.zero_min _).symm, rfl⟩

theorem conditionAfter_cons (past : List (CommitmentTick K)) (input : CommitmentTick K) :
    conditionAfter lib requiredObservations (input :: past) =
      ((conditionAfter lib requiredObservations past).tick lib requiredObservations input).1 := rfl

/-- An invalid answer where the counter does not wrap around. -/
theorem counter_step {before limit : ℕ} (h : limit < 2 ^ 32 - 1 ∨ before + 1 < 2 ^ 32) :
    min ((min before limit + 1) % 2 ^ 32) limit = min (before + 1) limit := by
  have hSmall : min before limit + 1 < 2 ^ 32 := by omega
  rw [Nat.mod_eq_of_lt hSmall]
  omega

/-- What is left to show of a tick once the counts of the episode are known. -/
theorem Counted.next
    (hPath : (conditionAfter lib requiredObservations (input :: past)).committedPath = input.path)
    (hCount : (conditionAfter lib requiredObservations
      (input :: past)).persistence.blockedObservations =
        min (invalidSince lib (input :: past)) (requiredBlocked requiredObservations))
    (hEmpty : input.path.poses = [] → invalidSince lib (input :: past) = 0)
    (hRequests : requestsSince lib requiredObservations (input :: past) =
      if requiredBlocked requiredObservations ≤ invalidSince lib (input :: past) then 1 else 0)
    (hStatus : input.path.poses ≠ [] →
      ((resultOf lib requiredObservations past input).status = .failure ↔
        input.obtained lib = some false ∧
          requiredBlocked requiredObservations ≤ invalidSince lib (input :: past))) :
    Counted lib requiredObservations (input :: past) ∧
      TickRight lib requiredObservations past input :=
  ⟨⟨hPath, hCount, hEmpty, hRequests⟩, ⟨hStatus, hRequests, fun _ hRequest =>
    tick_request hRequest⟩⟩

theorem Counted.step_empty (h : Counted lib requiredObservations past)
    (hPoses : input.path.poses = []) :
    Counted lib requiredObservations (input :: past) ∧
      TickRight lib requiredObservations past input := by
  obtain ⟨-, hRequests⟩ := h.start input
  obtain ⟨hObtained, hPath, hPersistence, hPublished, -⟩ :=
    @tick_empty _ _ _ lib requiredObservations
      (conditionAfter lib requiredObservations past) _ hPoses
  have hZero : (if input.path = previousPath past then invalidSince lib past else 0) = 0 := by
    split
    · rename_i hSame
      exact h.empty (hSame ▸ hPoses)
    · rfl
  have hCount : invalidSince lib (input :: past) = 0 := by
    rw [invalidSince, hObtained]
    exact hZero
  refine Counted.next hPath ?_ (fun _ => hCount) ?_ fun hNonempty => absurd hPoses hNonempty
  · rw [conditionAfter_cons, hPersistence, hCount, Nat.zero_min]
  · rw [hZero] at hRequests
    rw [requestsSince, hObtained, hCount]
    dsimp only
    rw [resultOf, hPublished, List.count_nil, Nat.add_zero, hRequests]

theorem Counted.step_unobtained (h : Counted lib requiredObservations past)
    (hPoses : input.path.poses ≠ []) (hObtained : input.obtained lib = none) :
    Counted lib requiredObservations (input :: past) ∧
      TickRight lib requiredObservations past input := by
  obtain ⟨hStart, hRequests⟩ := h.start input
  obtain ⟨hPath, hPersistence, hStatus, hPublished⟩ :=
    @tick_unobtained _ _ _ lib requiredObservations
      (conditionAfter lib requiredObservations past) _ hPoses hObtained
  have hCount : invalidSince lib (input :: past) =
      if input.path = previousPath past then invalidSince lib past else 0 := by
    rw [invalidSince, hObtained]
  refine Counted.next hPath ?_ (fun hEmpty => absurd hEmpty hPoses) ?_ fun _ => ?_
  · rw [conditionAfter_cons, hPersistence, hCount, hStart]
  · rw [requestsSince, hObtained, hCount, ← hRequests]
    dsimp only
    rw [resultOf, hPublished, Nat.add_zero]
  · rw [resultOf, hStatus, hObtained]
    exact iff_of_false nofun fun hFalse => nomatch hFalse.1

theorem Counted.step_valid (hObtained : input.obtained lib = some true) :
    Counted lib requiredObservations (input :: past) ∧
      TickRight lib requiredObservations past input := by
  obtain ⟨hPoses, corridor, -, hTick⟩ :=
    @tick_obtained _ _ _ lib requiredObservations
      (conditionAfter lib requiredObservations past) _ _ hObtained
  have hCount : invalidSince lib (input :: past) = 0 := by rw [invalidSince, hObtained]
  refine Counted.next ?_ ?_ (fun _ => hCount) ?_ fun _ => ?_
  · rw [conditionAfter_cons, hTick, answered_committedPath, commit_committedPath]
  · rw [conditionAfter_cons, hTick, (answered_valid corridor).1, hCount, Nat.zero_min]
  · rw [requestsSince, hObtained, hCount, if_neg (not_le.mpr requiredBlocked_pos)]
  · rw [resultOf, hTick, (answered_valid corridor).2, hObtained]
    exact iff_of_false nofun fun hFalse => nomatch hFalse.1

theorem Counted.step_invalid (h : Counted lib requiredObservations past)
    (hObtained : input.obtained lib = some false)
    (hWithin : requiredBlocked requiredObservations < 2 ^ 32 - 1 ∨
      invalidSince lib (input :: past) < 2 ^ 32) :
    Counted lib requiredObservations (input :: past) ∧
      TickRight lib requiredObservations past input := by
  obtain ⟨hStart, hRequests⟩ := h.start input
  obtain ⟨hPoses, corridor, -, hTick⟩ :=
    @tick_obtained _ _ _ lib requiredObservations
      (conditionAfter lib requiredObservations past) _ _ hObtained
  obtain ⟨hPersistence, hStatus, hPublished⟩ :=
    @answered_invalid _ requiredObservations
      ((conditionAfter lib requiredObservations past).commit input.path) corridor
  have hCount : invalidSince lib (input :: past) =
      (if input.path = previousPath past then invalidSince lib past else 0) + 1 := by
    rw [invalidSince, hObtained]
  rw [hCount] at hWithin
  rw [hStart, counter_step hWithin, ← hCount] at hPersistence hStatus hPublished
  refine Counted.next ?_ ?_ (fun hEmpty => absurd hEmpty hPoses) ?_ fun _ => ?_
  · rw [conditionAfter_cons, hTick, answered_committedPath, commit_committedPath]
  · rw [conditionAfter_cons, hTick, hPersistence]
  · rw [requestsSince, hObtained]
    dsimp only
    rw [resultOf, hTick, hPublished, hRequests, hCount]
    split_ifs <;> omega
  · rw [resultOf, hTick, hStatus]
    exact ⟨fun hLe => ⟨hObtained, hLe.trans (min_le_left _ _)⟩,
      fun hFalse => le_min hFalse.2 le_rfl⟩

/-- A tick without a wrap keeps the counts, and is right. -/
theorem Counted.step (h : Counted lib requiredObservations past)
    (hNoWrap : NoWrap lib requiredObservations past input) :
    Counted lib requiredObservations (input :: past) ∧
      TickRight lib requiredObservations past input := by
  by_cases hPoses : input.path.poses = []
  · exact h.step_empty hPoses
  cases hObtained : input.obtained lib with
  | none => exact h.step_unobtained hPoses hObtained
  | some isValid =>
    cases isValid with
    | true => exact Counted.step_valid hObtained
    | false => exact h.step_invalid hObtained (hNoWrap hObtained)

/-- At a wrap the tick succeeds. -/
theorem Counted.wrong (h : Counted lib requiredObservations past)
    (hWrap : ¬ NoWrap lib requiredObservations past input) :
    ¬ TickRight lib requiredObservations past input := by
  obtain ⟨hObtained, hBeyond⟩ := Classical.not_imp.mp hWrap
  obtain ⟨hFew, hMany⟩ := not_or.mp hBeyond
  obtain ⟨hStart, -⟩ := h.start input
  obtain ⟨hPoses, corridor, -, hTick⟩ :=
    @tick_obtained _ _ _ lib requiredObservations
      (conditionAfter lib requiredObservations past) _ _ hObtained
  obtain ⟨-, hStatus, -⟩ :=
    @answered_invalid _ requiredObservations
      ((conditionAfter lib requiredObservations past).commit input.path) corridor
  have hCount : invalidSince lib (input :: past) =
      (if input.path = previousPath past then invalidSince lib past else 0) + 1 := by
    rw [invalidSince, hObtained]
  have hWord : requiredObservations.toNat < 2 ^ 32 := requiredObservations.toNat_lt
  have hLimit : requiredBlocked requiredObservations = 2 ^ 32 - 1 := by
    unfold requiredBlocked at hFew ⊢
    omega
  rw [hCount] at hMany
  rw [hStart, hLimit] at hStatus
  intro hRight
  have hFails := (hRight.status hPoses).mpr ⟨hObtained, by
    rw [hCount, hLimit]
    omega⟩
  rw [resultOf, hTick] at hFails
  have hLe := hStatus.mp hFails
  have hFull : min (if input.path = previousPath past then invalidSince lib past else 0)
      (2 ^ 32 - 1) = 2 ^ 32 - 1 := by omega
  rw [hFull] at hLe
  norm_num at hLe

theorem counted_run (past : List (CommitmentTick K))
    (h : Always (NoWrap lib requiredObservations) past) :
    Counted lib requiredObservations past := by
  induction past with
  | nil => exact ⟨rfl, (Nat.zero_min _).symm, fun _ => rfl,
      (if_neg (not_le.mpr requiredBlocked_pos)).symm⟩
  | cons input past ih => exact ((ih h.2).step h.1).1

variable (lib requiredObservations) in
/-- Every tick of a run is right if and only if the counter never wraps around: the required
number of observations is less than `2 ^ 32 - 1`, or no episode obtains `2 ^ 32` invalid
answers. Without a wrap the counts of `Counted` are kept, and the first wrap starts an episode
anew that is not over. -/
theorem ticks_right_iff (past : List (CommitmentTick K)) :
    Always (TickRight lib requiredObservations) past ↔
      Always (NoWrap lib requiredObservations) past := by
  induction past with
  | nil => exact Iff.rfl
  | cons input past ih =>
    constructor
    · -- the first wrap would be a wrong tick
      rintro ⟨hRight, hPast⟩
      have hNoWraps := ih.mp hPast
      refine ⟨?_, hNoWraps⟩
      by_contra hWrap
      exact (counted_run past hNoWraps).wrong hWrap hRight
    · rintro ⟨hNoWrap, hPast⟩
      exact ⟨((counted_run past hPast).step hNoWrap).2, ih.mpr hPast⟩

end Episodes

/-! ## The last observation of a counter -/

/-- A path of one pose. -/
def onePosePath : PathMessage ℚ where
  poses := [⟨⟨0, 0⟩, "", ⟨⟨0, 0, 0⟩, ⟨0, 0, 0, 1⟩⟩⟩]

/-- The robot is at that pose, and the corridor is blocked. -/
def blockedTick : CommitmentTick ℚ where
  path := onePosePath
  corridorLength := 5 / 4
  execution := some {
    committedPathStamp := ⟨0, 0⟩
    pathHash := pathIdentity taxicab onePosePath.toPath
    poseCount := 1
    globalPathIndex := 0 }
  answer := some false

theorem obtained_blockedTick : blockedTick.obtained taxicab = some false := by
  have hMatches : PathExecutionState.mismatches taxicab {
      committedPathStamp := ⟨0, 0⟩
      pathHash := pathIdentity taxicab onePosePath.toPath
      poseCount := 1
      globalPathIndex := 0 } onePosePath = false := by
    unfold PathExecutionState.mismatches
    simp [onePosePath]
  unfold CommitmentTick.obtained blockedTick makeForwardCorridor
  dsimp only
  rw [hMatches]
  rfl

/-- One blocked observation after another. -/
def blockedRun (count : ℕ) : List (CommitmentTick ℚ) := List.replicate count blockedTick

theorem blockedRun_succ (count : ℕ) :
    blockedRun (count + 1) = blockedTick :: blockedRun count := rfl

theorem invalidSince_blocked (count : ℕ) : invalidSince taxicab (blockedRun count) = count := by
  have hPath : ∀ count, previousPath (blockedRun (count + 1)) = blockedTick.path := fun _ => rfl
  induction count with
  | zero => rfl
  | succ count ih =>
    rw [blockedRun_succ, invalidSince, obtained_blockedTick]
    dsimp only
    cases count with
    | zero => split <;> rfl
    | succ count => rw [hPath, if_pos rfl, ih]

theorem noWrap_blockedRun {count : ℕ} (hCount : count < 2 ^ 32) :
    Always (NoWrap taxicab 4294967295) (blockedRun count) := by
  induction count with
  | zero => trivial
  | succ count ih =>
    refine ⟨fun _ => Or.inr ?_, ih (by omega)⟩
    exact (invalidSince_blocked (count + 1)).trans_lt hCount

/-- After `2 ^ 32` blocked observations the condition retains the path. -/
theorem counter_wraps : ¬ Always (TickRight taxicab 4294967295) (blockedRun (4294967295 + 1)) := by
  intro hRight
  rw [blockedRun_succ] at hRight
  refine (counted_run _ (noWrap_blockedRun (by decide))).wrong (fun hNoWrap => ?_) hRight.1
  have hFew := hNoWrap obtained_blockedTick
  rw [← blockedRun_succ, invalidSince_blocked] at hFew
  revert hFew
  decide

end PreRunner.Commitment
