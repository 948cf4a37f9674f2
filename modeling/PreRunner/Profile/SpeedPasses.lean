import Mathlib.Tactic.Linarith
import PreRunner.Profile.PathSpeedProfile

/-!
# What the passes do to the ceilings

Every pass replaces single ceilings by the minimum with a nonnegative speed. So no pass raises a
ceiling or makes it negative, and a stop stays a stop. The marks are placed by one loop in which a
stop overwrites the departure of the stop before it and is never overwritten.
-/

namespace PreRunner.Profile

open Runs

variable {K : Type} [Field K] [LinearOrder K] [IsStrictOrderedRing K]

/-! ## Arclengths -/

theorem arclengths_le_succ (lib : MathLibrary K) (path : Path K) (i : ℕ) :
    arclengths lib path i ≤ arclengths lib path (i + 1) :=
  le_add_of_nonneg_right (lib.hypot_nonneg _ _)

theorem arclengths_nonneg (lib : MathLibrary K) (path : Path K) (i : ℕ) :
    0 ≤ arclengths lib path i := by
  induction i with
  | zero => exact le_rfl
  | succ i ih => exact ih.trans (arclengths_le_succ lib path i)

/-! ## The curvature window -/

/-- The window of a pose contains it and stays inside the path. -/
def WindowAround (count i : ℕ) (window : ℕ × ℕ) : Prop :=
  window.1 ≤ i ∧ i ≤ window.2 ∧ window.2 < count

omit [IsStrictOrderedRing K] in
/-- A narrow window grows by one pose on a side where there is one. -/
theorem widen_cases {config : ProfileConfig K} {s : ℕ → K} {count first last : ℕ} (i : ℕ)
    (hNarrow : narrow config s count (first, last) = true) :
    (0 < first ∧ widen s count i (first, last) = (first - 1, last)) ∨
      (last + 1 < count ∧ widen s count i (first, last) = (first, last + 1)) := by
  unfold narrow at hNarrow
  have hRoom := (Bool.and_eq_true _ _ ▸ hNarrow).2
  rw [Bool.or_eq_true, decide_eq_true_eq, decide_eq_true_eq] at hRoom
  unfold widen
  dsimp only
  by_cases hLeft : 0 < first
  · by_cases hRight : last + 1 < count
    · rw [if_pos hLeft, if_pos hRight]
      exact (ite_eq_or_eq _ _ _).imp (fun h => ⟨hLeft, h⟩) fun h => ⟨hRight, h⟩
    · rw [if_neg hRight, if_pos le_top]
      exact Or.inl ⟨hLeft, rfl⟩
  · have hRight : last + 1 < count := hRoom.resolve_left hLeft
    rw [if_neg hLeft, if_pos hRight, if_neg (not_le.mpr (WithTop.coe_lt_top _))]
    exact Or.inr ⟨hRight, rfl⟩

omit [IsStrictOrderedRing K] in
theorem widen_around {config : ProfileConfig K} {s : ℕ → K} {count i : ℕ} {window : ℕ × ℕ}
    (hNarrow : narrow config s count window = true) (h : WindowAround count i window) :
    WindowAround count i (widen s count i window) ∧
      (widen s count i window).1 + count - (widen s count i window).2 <
        window.1 + count - window.2 := by
  obtain ⟨first, last⟩ := window
  unfold WindowAround at h ⊢
  rcases widen_cases i hNarrow with ⟨hRoom, hWiden⟩ | ⟨hRoom, hWiden⟩
  · rw [hWiden]
    dsimp only at h ⊢
    omega
  · rw [hWiden]
    dsimp only at h ⊢
    omega

omit [IsStrictOrderedRing K] in
/-- The loop of the code has ended after the rounds that the model allows, within bounds. -/
theorem curvatureWindow_spec (config : ProfileConfig K) (s : ℕ → K) {count i : ℕ} (hi : i < count) :
    WindowAround count i (curvatureWindow config s count i) ∧
      narrow config s count (curvatureWindow config s count i) = false := by
  have hStart : WindowAround count i (i, i) := ⟨le_rfl, le_rfl, hi⟩
  have hStep : ∀ window, narrow config s count window = true → WindowAround count i window →
      WindowAround count i (widen s count i window) :=
    fun window hNarrow h => (widen_around hNarrow h).1
  refine ⟨repeatWhile_preserves hStep count hStart, ?_⟩
  refine @repeatWhile_done _ (WindowAround count i) (fun window => window.1 + count - window.2)
    _ _ hStep (fun window hNarrow h => (widen_around hNarrow h).2) count _ hStart ?_
  dsimp only
  omega

/-! ## Reachable speeds -/

theorem bisect_mem {low high : K} (h : low ≤ high) (fits : K → Bool) :
    low ≤ bisect fits low high ∧ bisect fits low high ≤ high := by
  have hLoop := @ascending_preserves (K × K)
    (fun bounds => low ≤ bounds.1 ∧ bounds.1 ≤ bounds.2 ∧ bounds.2 ≤ high) 0 48
    (fun _ bounds =>
      let middle := 1 / 2 * (bounds.1 + bounds.2)
      if fits middle then (middle, bounds.2) else (bounds.1, middle)) (low, high)
    ⟨le_rfl, h, le_rfl⟩ ?_
  · exact ⟨hLoop.1, hLoop.2.1.trans hLoop.2.2⟩
  · rintro - ⟨lower, upper⟩ - - ⟨hLow, hLe, hHigh⟩
    dsimp only at hLow hLe hHigh ⊢
    have hAbove : lower ≤ 1 / 2 * (lower + upper) := by linarith
    have hBelow : 1 / 2 * (lower + upper) ≤ upper := by linarith
    split
    · exact ⟨hLow.trans hAbove, hBelow, hHigh⟩
    · exact ⟨hLow, hAbove, hBelow.trans hHigh⟩

theorem reachableSpeed_nonneg (lib : MathLibrary K) (config : ProfileConfig K)
    (fromSpeed distance : K) {ceiling : K} (h : 0 ≤ ceiling) :
    0 ≤ reachableSpeed lib config fromSpeed distance ceiling := by
  unfold reachableSpeed
  dsimp only
  split
  · exact h
  · exact (bisect_mem h _).1

theorem reachableSpeedByAcceleration_nonneg (lib : MathLibrary K) (config : ProfileConfig K)
    {fromSpeed : K} (distance : K) {ceiling : K} (hFrom : 0 ≤ fromSpeed) (h : 0 ≤ ceiling) :
    0 ≤ reachableSpeedByAcceleration lib config fromSpeed distance ceiling := by
  unfold reachableSpeedByAcceleration
  split
  · exact le_min hFrom h
  · split
    · exact h
    · rename_i hNot
      have hLe : fromSpeed ≤ ceiling := (not_le.mp fun hGe => hNot (Or.inl hGe)).le
      exact hFrom.trans (bisect_mem hLe _).1

/-! ## Lowering -/

omit [IsStrictOrderedRing K]

/-- No ceiling was raised, and none is negative. -/
def Lowered (before after : ℕ → K) : Prop :=
  ∀ i, 0 ≤ after i ∧ after i ≤ before i

theorem Lowered.refl {ceiling : ℕ → K} (h : ∀ i, 0 ≤ ceiling i) : Lowered ceiling ceiling :=
  fun i => ⟨h i, le_rfl⟩

theorem Lowered.trans {first second third : ℕ → K} (h : Lowered first second)
    (h' : Lowered second third) : Lowered first third :=
  fun i => ⟨(h' i).1, (h' i).2.trans (h i).2⟩

/-- A stop stays a stop. -/
theorem Lowered.eq_zero {before after : ℕ → K} (h : Lowered before after) {i : ℕ}
    (hZero : before i = 0) : after i = 0 :=
  le_antisymm (hZero ▸ (h i).2) (h i).1

theorem Lowered.update {before after : ℕ → K} (h : Lowered before after) (i : ℕ) {speed : K}
    (hSpeed : 0 ≤ speed) : Lowered before (Function.update after i (min (after i) speed)) := by
  intro k
  by_cases hk : k = i
  · subst hk
    rw [Function.update_self]
    exact ⟨le_min (h k).1 hSpeed, (min_le_left _ _).trans (h k).2⟩
  · rw [Function.update_of_ne hk]
    exact h k

/-! ## The passes -/

section Passes

variable {ceiling : ℕ → K} (s : ℕ → K) (count : ℕ)

theorem anticipate_lowered (approachTime preset : K) (i : ℕ) {a : Anticipation K}
    (h : Lowered ceiling a.ceiling) :
    Lowered ceiling (anticipate s approachTime preset i a).ceiling := by
  unfold anticipate
  set aimed : Anticipation K := if a.ceiling i < a.target then
      { a with target := a.ceiling i, remaining := max a.remaining (a.ceiling i * approachTime) }
    else a with hAimed
  have hCeiling : aimed.ceiling = a.ceiling := by
    rw [hAimed]
    split <;> rfl
  have hLowered : Lowered ceiling aimed.ceiling := by rwa [hCeiling]
  dsimp only
  by_cases hActive : 0 < aimed.remaining ∧ 0 < aimed.target
  · rw [if_pos hActive]
    split
    · exact hLowered.update _ hActive.2.le
    · exact hLowered.update _ hActive.2.le
  · rw [if_neg hActive]
    split
    · exact hLowered
    · exact hLowered

theorem anticipationPass_lowered (approachTime preset : K) (h : ∀ i, 0 ≤ ceiling i) :
    Lowered ceiling (anticipationPass s count approachTime preset ceiling) := by
  unfold anticipationPass
  split
  · exact @descending_preserves (Anticipation K) (fun a => Lowered ceiling a.ceiling) _ _ _ _
      (Lowered.refl h) fun i a _ _ hLowered => anticipate_lowered s approachTime preset i hLowered
  · exact Lowered.refl h

variable {reachable : K → K → K}

theorem forwardPass_lowered (h : ∀ i, 0 ≤ ceiling i)
    (hReachable : ∀ fromSpeed distance, 0 ≤ fromSpeed → 0 ≤ reachable fromSpeed distance) :
    Lowered ceiling (forwardPass s count reachable ceiling) := by
  refine ascending_preserves (Lowered.refl h) fun i after _ _ hLowered => ?_
  exact hLowered.update i (hReachable _ _ (hLowered (i - 1)).1)

theorem backwardPass_lowered (h : ∀ i, 0 ≤ ceiling i)
    (hReachable : ∀ fromSpeed distance, 0 ≤ fromSpeed → 0 ≤ reachable fromSpeed distance) :
    Lowered ceiling (backwardPass s count reachable ceiling) := by
  refine descending_preserves (Lowered.refl h) fun i after _ _ hLowered => ?_
  exact hLowered.update (i - 1) (hReachable _ _ (hLowered i).1)

end Passes

/-! ## Marks -/

/-- Direction changes between the segments before and after a pose. -/
def Turns (direction : ℕ → ℤ) (i : ℕ) : Prop :=
  0 < i ∧ direction (i - 1) ≠ 0 ∧ direction i ≠ 0 ∧ direction (i - 1) ≠ direction i

/-- The marks when the loop has come to an index. -/
structure Marked (direction : ℕ → ℤ) (ceiling : ℕ → K) (next : ℕ) (marks : Marks K) : Prop where
  stop : ∀ k, marks.state k = cuspStop ↔ k < next ∧ Turns direction k
  zero : ∀ k, k < next → Turns direction k → marks.ceiling k = 0
  other : ∀ k, ¬ (k < next ∧ Turns direction k) → marks.ceiling k = ceiling k
  known : ∀ k, marks.state k ≤ cuspDeparture

theorem update_known {state : ℕ → UInt8} (h : ∀ k, state k ≤ cuspDeparture) (i : ℕ) {mark : UInt8}
    (hMark : mark ≤ cuspDeparture) (k : ℕ) : Function.update state i mark k ≤ cuspDeparture := by
  by_cases hk : k = i
  · rwa [hk, Function.update_self]
  · rw [Function.update_of_ne hk]
    exact h k

/-- Marking an approach, where there is no mark yet, neither makes nor removes a stop. -/
theorem approach_stop (state : ℕ → UInt8) (i k : ℕ) :
    (if 0 < i ∧ state (i - 1) = cuspNone then Function.update state (i - 1) cuspApproach
      else state) k = cuspStop ↔ state k = cuspStop := by
  split
  · rename_i hNone
    by_cases hk : k = i - 1
    · rw [hk, Function.update_self, hNone.2]
      decide
    · rw [Function.update_of_ne hk]
  · exact Iff.rfl

omit [LinearOrder K] in
theorem markCusp_known (count i : ℕ) {marks : Marks K} (h : ∀ k, marks.state k ≤ cuspDeparture)
    (k : ℕ) : (markCusp count i marks).state k ≤ cuspDeparture := by
  have hStop : ∀ k, Function.update marks.state i cuspStop k ≤ cuspDeparture :=
    update_known h i (by decide)
  unfold markCusp
  dsimp only
  have hApproach : ∀ k, (if 0 < i ∧ Function.update marks.state i cuspStop (i - 1) = cuspNone then
      Function.update (Function.update marks.state i cuspStop) (i - 1) cuspApproach
      else Function.update marks.state i cuspStop) k ≤ cuspDeparture := by
    intro k
    split
    · exact update_known hStop _ (by decide) k
    · exact hStop k
  split
  · exact update_known hApproach _ (by decide) k
  · exact hApproach k

omit [LinearOrder K] in
/-- The stop is placed; only the pose after it can lose one. -/
theorem markCusp_stop (count i : ℕ) (marks : Marks K) {k : ℕ} (hk : k ≠ i + 1) :
    (markCusp count i marks).state k = cuspStop ↔ k = i ∨ marks.state k = cuspStop := by
  have hDeparture : (markCusp count i marks).state k =
      (if 0 < i ∧ Function.update marks.state i cuspStop (i - 1) = cuspNone then
        Function.update (Function.update marks.state i cuspStop) (i - 1) cuspApproach
      else Function.update marks.state i cuspStop) k := by
    unfold markCusp
    dsimp only
    split
    · exact Function.update_of_ne hk _ _
    · rfl
  rw [hDeparture, approach_stop]
  by_cases hi : k = i
  · rw [hi, Function.update_self]
    exact ⟨fun _ => Or.inl rfl, fun _ => rfl⟩
  · rw [Function.update_of_ne hi]
    exact ⟨Or.inr, fun h => h.resolve_left hi⟩

omit [LinearOrder K] in
theorem markCusp_next {count i : ℕ} (hi : i + 1 < count) (marks : Marks K) :
    (markCusp count i marks).state (i + 1) ≠ cuspStop := by
  unfold markCusp
  dsimp only
  rw [if_pos hi, Function.update_self]
  decide

omit [LinearOrder K] in
/-- Marking a direction change takes the loop to the next index. -/
theorem Marked.markCusp {direction : ℕ → ℤ} {ceiling : ℕ → K} {count i : ℕ} {marks : Marks K}
    (h : Marked direction ceiling i marks) (hi : i + 1 < count) (hTurns : Turns direction i) :
    Marked direction ceiling (i + 1) (markCusp count i marks) where
  stop k := by
    by_cases hk : k = i + 1
    · rw [hk]
      exact ⟨fun hStop => absurd hStop (markCusp_next hi marks),
        fun hLess => absurd hLess.1 (lt_irrefl _)⟩
    · rw [markCusp_stop count i marks hk, h.stop k]
      constructor
      · rintro (rfl | ⟨hLess, hTurn⟩)
        · exact ⟨Nat.lt_succ_self k, hTurns⟩
        · exact ⟨by omega, hTurn⟩
      · rintro ⟨hLess, hTurn⟩
        by_cases hi : k = i
        · exact Or.inl hi
        · exact Or.inr ⟨by omega, hTurn⟩
  zero k hk hTurn := by
    show Function.update marks.ceiling i 0 k = 0
    by_cases hi : k = i
    · rw [hi, Function.update_self]
    · rw [Function.update_of_ne hi]
      exact h.zero k (by omega) hTurn
  other k hOther := by
    have hi : k ≠ i := by
      rintro rfl
      exact hOther ⟨Nat.lt_succ_self k, hTurns⟩
    show Function.update marks.ceiling i 0 k = ceiling k
    rw [Function.update_of_ne hi]
    exact h.other k fun hMarked => hOther ⟨by omega, hMarked.2⟩
  known := markCusp_known count i h.known

omit [LinearOrder K] in
/-- An index without a direction change is passed over. -/
theorem Marked.pass {direction : ℕ → ℤ} {ceiling : ℕ → K} {i : ℕ} {marks : Marks K}
    (h : Marked direction ceiling i marks) (hTurns : ¬ Turns direction i) :
    Marked direction ceiling (i + 1) marks := by
  have hSame : ∀ k, (k < i + 1 ∧ Turns direction k) ↔ (k < i ∧ Turns direction k) := by
    intro k
    constructor
    · rintro ⟨hLess, hTurn⟩
      have hk : k ≠ i := by
        rintro rfl
        exact hTurns hTurn
      exact ⟨by omega, hTurn⟩
    · rintro ⟨hLess, hTurn⟩
      exact ⟨by omega, hTurn⟩
  exact
    { stop := fun k => (h.stop k).trans (hSame k).symm
      zero := fun k hk hTurn => h.zero k ((hSame k).mp ⟨hk, hTurn⟩).1 hTurn
      other := fun k hOther => h.other k fun hMarked => hOther ((hSame k).mpr hMarked)
      known := h.known }

omit [LinearOrder K] in
theorem markCusps_marked {direction : ℕ → ℤ} {ceiling : ℕ → K} {count : ℕ} (hCount : 1 < count) :
    Marked direction ceiling (count - 1)
      (markCusps count direction { ceiling, state := fun _ => cuspNone }) := by
  have hStart : Marked direction ceiling 1 { ceiling, state := fun _ => cuspNone } := by
    have hNoTurn : ∀ k, ¬ (k < 1 ∧ Turns direction k) := by
      rintro k ⟨hk, hTurn⟩
      have hPositive := hTurn.1
      omega
    refine ⟨fun k => ⟨fun hStop => ?_, fun hTurn => absurd hTurn (hNoTurn k)⟩,
      fun k hk hTurn => absurd ⟨hk, hTurn⟩ (hNoTurn k), fun k _ => rfl, fun k => ?_⟩
    · exact absurd hStop (show cuspNone ≠ cuspStop by decide)
    · exact show cuspNone ≤ cuspDeparture by decide
  refine @ascending_invariant (Marks K) (Marked direction ceiling) 1 (count - 1) _ _ (by omega)
    hStart ?_
  intro i marks hFirst hLast h
  by_cases hTurns : direction (i - 1) ≠ 0 ∧ direction i ≠ 0 ∧ direction (i - 1) ≠ direction i
  · rw [if_pos hTurns]
    exact h.markCusp (by omega) ⟨by omega, hTurns⟩
  · rw [if_neg hTurns]
    exact h.pass fun hTurn => hTurns hTurn.2

end PreRunner.Profile
