import Mathlib.Data.Finset.Lattice.Fold
import Mathlib.Tactic.Linarith
import PreRunner.Profile.SpeedPasses

/-!
# The plateaus of the anticipation pass

Before a slower pose the ceiling is to be lowered for the distance that is covered in the approach
time at the slower speed. The pass reads the array that it lowers: a pose that was lowered starts a
lead of its own when no other one runs, so the slowest ceiling of a stretch without a stop holds
back to its beginning; and a stop that is met while a lead runs ends the pass for every pose
before it. `Arrived` is the invariant of the scan, and the main result says for which ceilings
this gives the plateaus.
-/

namespace PreRunner.Profile

open Runs

variable {K : Type} [Field K] [LinearOrder K]

/-! ## Plateaus -/

section Plateaus

variable (s : ℕ → K) (count : ℕ) (approachTime : K) (c : ℕ → K)

/-- A pose lies inside the plateau before a later pose: some lead is left when the scan from the
later pose comes to lower it. -/
def InPlateau (i j : ℕ) : Prop :=
  i < j ∧ j < count ∧ 0 < c j ∧ 0 < c j * approachTime - (s j - s (i + 1))

instance (i j : ℕ) : Decidable (InPlateau s count approachTime c i j) :=
  inferInstanceAs (Decidable (_ ∧ _ ∧ _ ∧ _))

/-- The least ceiling of a pose and those of the later poses whose plateaus it lies in. -/
def anticipated (i : ℕ) : K :=
  (insert i ((Finset.range count).filter (InPlateau s count approachTime c i))).inf'
    (Finset.insert_nonempty _ _) c

theorem anticipated_le_iff (i : ℕ) (v : K) :
    anticipated s count approachTime c i ≤ v ↔
      c i ≤ v ∨ ∃ k, InPlateau s count approachTime c i k ∧ c k ≤ v := by
  unfold anticipated
  rw [Finset.inf'_le_iff, Finset.exists_mem_insert]
  refine or_congr_right (exists_congr fun k => and_congr_left fun _ => ?_)
  rw [Finset.mem_filter, Finset.mem_range]
  exact ⟨fun h => h.2, fun h => ⟨h.2.1, h⟩⟩

/-- A later pose that no stop separates, and that is none itself. -/
def InStretch (i j : ℕ) : Prop := i < j ∧ j < count ∧ ∀ l ≤ j, i < l → 0 < c l

instance (i j : ℕ) : Decidable (InStretch count c i j) :=
  inferInstanceAs (Decidable (_ ∧ _ ∧ _))

/-- The least ceiling of the stretch from a pose on. -/
def slowest (i : ℕ) : K :=
  (insert i ((Finset.range count).filter (InStretch count c i))).inf'
    (Finset.insert_nonempty _ _) c

/-- What is left, at an earlier pose, of the lead that starts at a pose. -/
def leadLeft (k i : ℕ) : K := slowest count c k * approachTime - (s k - s i)

variable (preset : K)

/-- A lead starts at a pose that is slower than what follows in its stretch, and at one that a
plateau has lowered when no other lead runs there. -/
def LeadStarts (j : ℕ) : Prop :=
  0 < c j ∧ slowest count c j < preset ∧
    ((∀ k, InStretch count c j k → c j < c k) ∨
      ∀ k, (_ : InStretch count c j k) → LeadStarts k → leadLeft s count approachTime c k j ≤ 0)
termination_by count - j
decreasing_by
  rename_i h
  have := h.1
  have := h.2.1
  omega

/-- A lead that has started in the stretch after a pose. -/
def Leads (i k : ℕ) : Prop := InStretch count c i k ∧ LeadStarts s count approachTime c preset k

/-- A later stop is met while a lead runs. -/
def CutOff (i : ℕ) : Prop :=
  ∃ z, i < z ∧ z < count ∧ c z = 0 ∧
    ∃ k, Leads s count approachTime c preset z k ∧ 0 < leadLeft s count approachTime c k z

end Plateaus

/-! ## Stretches -/

section Stretches

variable {count : ℕ} {c : ℕ → K} {i : ℕ}

theorem inStretch_succ_iff {k : ℕ} :
    InStretch count c i k ↔
      i + 1 < count ∧ 0 < c (i + 1) ∧ (k = i + 1 ∨ InStretch count c (i + 1) k) := by
  constructor
  · rintro ⟨hLater, hCount, hPos⟩
    refine ⟨by omega, hPos (i + 1) (by omega) (by omega), ?_⟩
    rcases Nat.eq_or_lt_of_le (show i + 1 ≤ k from hLater) with hEq | hLess
    · exact Or.inl hEq.symm
    · exact Or.inr ⟨hLess, hCount, fun l hl hil => hPos l hl (by omega)⟩
  · rintro ⟨hCount, hPos, rfl | ⟨hLater, hBound, hRest⟩⟩
    · refine ⟨Nat.lt_succ_self i, hCount, fun l hl hil => ?_⟩
      rwa [show l = i + 1 by omega]
    · refine ⟨by omega, hBound, fun l hl hil => ?_⟩
      rcases Nat.eq_or_lt_of_le (show i + 1 ≤ l from hil) with hEq | hLess
      · rwa [← hEq]
      · exact hRest l hl hLess

/-- Behind a stop no later pose is in the stretch. -/
theorem not_inStretch (h : c (i + 1) ≤ 0) (k : ℕ) : ¬ InStretch count c i k :=
  fun hStretch => absurd (inStretch_succ_iff.mp hStretch).2.1 (not_lt.mpr h)

theorem lt_slowest_iff {v : K} :
    v < slowest count c i ↔ v < c i ∧ ∀ k, InStretch count c i k → v < c k := by
  unfold slowest
  rw [Finset.lt_inf'_iff, Finset.forall_mem_insert]
  refine and_congr_right fun _ => forall_congr' fun k => ?_
  rw [Finset.mem_filter, Finset.mem_range]
  exact ⟨fun h hStretch => h ⟨hStretch.2.1, hStretch⟩, fun h hMem => h hMem.2⟩

theorem le_slowest_iff {v : K} :
    v ≤ slowest count c i ↔ v ≤ c i ∧ ∀ k, InStretch count c i k → v ≤ c k := by
  unfold slowest
  rw [Finset.le_inf'_iff, Finset.forall_mem_insert]
  refine and_congr_right fun _ => forall_congr' fun k => ?_
  rw [Finset.mem_filter, Finset.mem_range]
  exact ⟨fun h hStretch => h ⟨hStretch.2.1, hStretch⟩, fun h hMem => h hMem.2⟩

theorem slowest_le_iff {v : K} :
    slowest count c i ≤ v ↔ c i ≤ v ∨ ∃ k, InStretch count c i k ∧ c k ≤ v := by
  rw [← not_lt, lt_slowest_iff, not_and_or, not_lt, not_forall]
  refine or_congr_right (exists_congr fun k => ?_)
  rw [Classical.not_imp, not_lt]

theorem slowest_le : slowest count c i ≤ c i := slowest_le_iff.mpr (Or.inl le_rfl)

/-- The slowest ceiling of a stretch is found pose by pose. -/
theorem slowest_succ (hCount : i + 1 < count) (hPos : 0 < c (i + 1)) :
    slowest count c i = min (c i) (slowest count c (i + 1)) := by
  refine eq_of_forall_le_iff fun v => ?_
  rw [le_min_iff, le_slowest_iff, le_slowest_iff]
  refine and_congr_right fun _ => ?_
  constructor
  · intro h
    refine ⟨h _ (inStretch_succ_iff.mpr ⟨hCount, hPos, Or.inl rfl⟩), fun k hk => ?_⟩
    exact h k (inStretch_succ_iff.mpr ⟨hCount, hPos, Or.inr hk⟩)
  · rintro ⟨hNext, hLater⟩ k hk
    rcases (inStretch_succ_iff.mp hk).2.2 with rfl | hk
    · exact hNext
    · exact hLater k hk

theorem slowest_alone (h : ∀ k, ¬ InStretch count c i k) : slowest count c i = c i := by
  refine eq_of_forall_le_iff fun v => ?_
  rw [le_slowest_iff]
  exact and_iff_left fun k hk => absurd hk (h k)

theorem slowest_pos (h : 0 < c i) : 0 < slowest count c i :=
  lt_slowest_iff.mpr ⟨h, fun k hk => hk.2.2 k le_rfl hk.1⟩

end Stretches

/-! ## One step -/

section Step

variable {s : ℕ → K} {approachTime preset : K} {i : ℕ} {a : Anticipation K}

/-- What a step aims at and the lead for it. -/
def aimed (approachTime : K) (i : ℕ) (a : Anticipation K) : K × K :=
  if a.ceiling i < a.target then (a.ceiling i, max a.remaining (a.ceiling i * approachTime))
  else (a.target, a.remaining)

theorem anticipate_eq (s : ℕ → K) (approachTime preset : K) (i : ℕ) (a : Anticipation K) :
    anticipate s approachTime preset i a =
      if 0 < (aimed approachTime i a).2 ∧ 0 < (aimed approachTime i a).1 then
        { ceiling := Function.update a.ceiling (i - 1)
            (min (a.ceiling (i - 1)) (aimed approachTime i a).1)
          target := if (aimed approachTime i a).2 - (s i - s (i - 1)) ≤ 0 then preset
            else (aimed approachTime i a).1
          remaining := (aimed approachTime i a).2 - (s i - s (i - 1)) }
      else
        { ceiling := a.ceiling
          target := if (aimed approachTime i a).2 ≤ 0 then preset else (aimed approachTime i a).1
          remaining := (aimed approachTime i a).2 } := by
  unfold anticipate aimed
  by_cases hSlower : a.ceiling i < a.target
  · rw [if_pos hSlower, if_pos hSlower]
    dsimp only
    split
    · split <;> rfl
    · split <;> rfl
  · rw [if_neg hSlower, if_neg hSlower]
    dsimp only
    split
    · split <;> rfl
    · split <;> rfl

/-- A step that has no target or no lead changes no ceiling. -/
theorem anticipate_idle {target lead : K} (hAim : aimed approachTime i a = (target, lead))
    (hIdle : ¬ (0 < lead ∧ 0 < target)) :
    anticipate s approachTime preset i a =
      { ceiling := a.ceiling
        target := if lead ≤ 0 then preset else target
        remaining := lead } := by
  rw [anticipate_eq, hAim]
  exact if_neg hIdle

/-- A step with a target and some lead lowers the pose before. -/
theorem anticipate_active {target lead : K} (hAim : aimed approachTime i a = (target, lead))
    (hTarget : 0 < target) (hLead : 0 < lead) :
    anticipate s approachTime preset i a =
      { ceiling := Function.update a.ceiling (i - 1) (min (a.ceiling (i - 1)) target)
        target := if lead - (s i - s (i - 1)) ≤ 0 then preset else target
        remaining := lead - (s i - s (i - 1)) } := by
  rw [anticipate_eq, hAim]
  exact if_pos ⟨hLead, hTarget⟩

/-- A target that lowers a ceiling is positive, so the pass makes no ceiling zero. -/
theorem anticipate_pos {c : ℕ → K} (h : ∀ k, 0 < c k → 0 < a.ceiling k) (k : ℕ) (hk : 0 < c k) :
    0 < (anticipate s approachTime preset i a).ceiling k := by
  rw [anticipate_eq]
  split
  · rename_i hActive
    dsimp only
    by_cases hLowered : k = i - 1
    · rw [hLowered, Function.update_self]
      exact lt_min (h _ (hLowered ▸ hk)) hActive.2
    · rw [Function.update_of_ne hLowered]
      exact h k hk
  · exact h k hk

theorem anticipationPass_pos {c : ℕ → K} (count : ℕ) (k : ℕ) (hk : 0 < c k) :
    0 < anticipationPass s count approachTime preset c k := by
  unfold anticipationPass
  split
  · exact @descending_preserves (Anticipation K) (fun a => ∀ k, 0 < c k → 0 < a.ceiling k) _ _ _ _
      (fun _ h => h) (fun _ _ _ _ h => anticipate_pos h) k hk
  · exact hk

end Step

/-! ## The scan -/

section Scan

variable (s : ℕ → K) (count : ℕ) (approachTime : K) (c : ℕ → K) (preset : K)

/-- The scan when it comes to a pose. -/
def scanAt (i : ℕ) : Anticipation K :=
  descending (i + 1) count (anticipate s approachTime preset)
    { ceiling := c, target := preset, remaining := 0 }

/-- What the scan carries when it comes to a pose with no stop behind it that cut it off: either
all leads have run out, or it carries the longest one and the slowest ceiling of the stretch. -/
inductive Phase (i : ℕ) (a : Anticipation K) : Prop
  | fresh (hRemaining : a.remaining ≤ 0) (hTarget : a.target = preset)
      (hLeads : ∀ k, Leads s count approachTime c preset i k →
        leadLeft s count approachTime c k i ≤ 0)
  | active (hRemaining : 0 < a.remaining) (hNext : i + 1 < count ∧ 0 < c (i + 1))
      (hTarget : a.target = slowest count c (i + 1))
      (hLeads : ∀ k, Leads s count approachTime c preset i k →
        leadLeft s count approachTime c k i ≤ a.remaining)
      (hRuns : ∃ k, Leads s count approachTime c preset i k ∧
        leadLeft s count approachTime c k i = a.remaining)

/-- The ceiling that the pass gives a pose: the slowest of the stretch, or its own behind a stop
that cut the scan off. -/
def IsResult (i : ℕ) (v : K) : Prop :=
  (CutOff s count approachTime c preset i → v = c i) ∧
    (¬ CutOff s count approachTime c preset i → v = slowest count c i)

/-- The invariant of the scan. -/
structure Arrived (i : ℕ) (a : Anticipation K) : Prop where
  ahead : ∀ k, k < i → a.ceiling k = c k
  done : ∀ k, i ≤ k → k < count → IsResult s count approachTime c preset k (a.ceiling k)
  cut : CutOff s count approachTime c preset i → 0 < a.remaining ∧ a.target = 0
  uncut : ¬ CutOff s count approachTime c preset i → Phase s count approachTime c preset i a

variable {s count approachTime c preset} {i : ℕ} {a : Anticipation K}

theorem CutOff.mono (h : CutOff s count approachTime c preset (i + 1)) :
    CutOff s count approachTime c preset i := by
  obtain ⟨z, hLater, hRest⟩ := h
  exact ⟨z, by omega, hRest⟩

theorem cutOff_succ_iff :
    CutOff s count approachTime c preset i ↔
      CutOff s count approachTime c preset (i + 1) ∨ (i + 1 < count ∧ c (i + 1) = 0 ∧
        ∃ k, Leads s count approachTime c preset (i + 1) k ∧
          0 < leadLeft s count approachTime c k (i + 1)) := by
  constructor
  · rintro ⟨z, hLater, hRest⟩
    rcases Nat.eq_or_lt_of_le (show i + 1 ≤ z from hLater) with hEq | hLess
    · subst hEq
      exact Or.inr hRest
    · exact Or.inl ⟨z, hLess, hRest⟩
  · rintro (h | h)
    · exact h.mono
    · exact ⟨i + 1, Nat.lt_succ_self i, h⟩

theorem leads_succ (hCount : i + 1 < count) (hPos : 0 < c (i + 1)) {k : ℕ} :
    Leads s count approachTime c preset i k ↔
      (k = i + 1 ∧ LeadStarts s count approachTime c preset (i + 1)) ∨
        Leads s count approachTime c preset (i + 1) k := by
  unfold Leads
  rw [inStretch_succ_iff]
  constructor
  · rintro ⟨⟨-, -, rfl | hLater⟩, hStarts⟩
    · exact Or.inl ⟨rfl, hStarts⟩
    · exact Or.inr ⟨hLater, hStarts⟩
  · rintro (⟨rfl, hStarts⟩ | ⟨hLater, hStarts⟩)
    · exact ⟨⟨hCount, hPos, Or.inl rfl⟩, hStarts⟩
    · exact ⟨⟨hCount, hPos, Or.inr hLater⟩, hStarts⟩

/-- A lead that runs at a pose is shorter by the distance when the scan comes to the one before. -/
theorem leadLeft_pred (k : ℕ) :
    leadLeft s count approachTime c k i =
      leadLeft s count approachTime c k (i + 1) - (s (i + 1) - s i) := by
  unfold leadLeft
  ring

/-- The scan takes up a target where a lead starts. -/
theorem Phase.leadStarts_iff (h : Phase s count approachTime c preset i a) (hPos : 0 < c i)
    (hLe : ∀ j, j < count → c j ≤ preset) :
    LeadStarts s count approachTime c preset i ↔ slowest count c i < a.target := by
  rw [LeadStarts]
  cases h with
  | fresh _ hTarget hLeads =>
    rw [hTarget]
    constructor
    · exact fun h => h.2.1
    · exact fun h => ⟨hPos, h, Or.inr fun k hk hStarts => hLeads k ⟨hk, hStarts⟩⟩
  | active hRemaining hNext hTarget _ hRuns =>
    rw [hTarget, slowest_succ hNext.1 hNext.2]
    have hSlower : (∀ k, InStretch count c i k → c i < c k) ↔
        c i < slowest count c (i + 1) := by
      rw [lt_slowest_iff]
      constructor
      · intro h
        refine ⟨h _ (inStretch_succ_iff.mpr ⟨hNext.1, hNext.2, Or.inl rfl⟩), fun k hk => ?_⟩
        exact h k (inStretch_succ_iff.mpr ⟨hNext.1, hNext.2, Or.inr hk⟩)
      · rintro ⟨hFirst, hLater⟩ k hk
        rcases (inStretch_succ_iff.mp hk).2.2 with rfl | hk
        · exact hFirst
        · exact hLater k hk
    obtain ⟨k, ⟨hk, hStarts⟩, hLeft⟩ := hRuns
    constructor
    · rintro ⟨-, -, hFirst | hOut⟩
      · exact min_lt_iff.mpr (Or.inl (hSlower.mp hFirst))
      · exact absurd (hOut k hk hStarts) (not_le.mpr (hLeft ▸ hRemaining))
    · intro hLess
      have hBelow : c i < slowest count c (i + 1) :=
        (min_lt_iff.mp hLess).resolve_right (lt_irrefl _)
      refine ⟨hPos, ?_, Or.inl (hSlower.mpr hBelow)⟩
      exact (min_le_left _ _).trans_lt (hBelow.trans_le (slowest_le.trans (hLe _ hNext.1)))

variable [IsStrictOrderedRing K]

/-- Where the scan carries a lead or one starts, it aims at the slowest ceiling of the stretch with
the longest lead. -/
theorem Phase.aimed (h : Phase s count approachTime c preset i a) (hPos : 0 < c i)
    (hTime : 0 < approachTime) (hLe : ∀ j, j < count → c j ≤ preset)
    (hCeiling : a.ceiling i = slowest count c i)
    (hBusy : 0 < a.remaining ∨ LeadStarts s count approachTime c preset i) :
    ∃ lead, aimed approachTime i a = (slowest count c i, lead) ∧ 0 < lead ∧
      (∀ k, Leads s count approachTime c preset i k →
        leadLeft s count approachTime c k i ≤ lead) ∧
      (LeadStarts s count approachTime c preset i →
        leadLeft s count approachTime c i i ≤ lead) ∧
      ((LeadStarts s count approachTime c preset i ∧
          leadLeft s count approachTime c i i = lead) ∨
        ∃ k, Leads s count approachTime c preset i k ∧
          leadLeft s count approachTime c k i = lead) := by
  have hOwn : leadLeft s count approachTime c i i = slowest count c i * approachTime := by
    unfold leadLeft
    ring
  have hOwnPos : 0 < slowest count c i * approachTime := mul_pos (slowest_pos hPos) hTime
  have hIff := h.leadStarts_iff hPos hLe
  unfold Profile.aimed
  rw [hCeiling, hOwn]
  by_cases hStarts : LeadStarts s count approachTime c preset i
  · rw [if_pos (hIff.mp hStarts)]
    refine ⟨_, rfl, lt_max_of_lt_right hOwnPos, ?_, fun _ => le_max_right _ _, ?_⟩
    · intro k hk
      cases h with
      | fresh _ _ hLeads => exact (hLeads k hk).trans (le_max_of_le_right hOwnPos.le)
      | active _ _ _ hLeads _ => exact (hLeads k hk).trans (le_max_left _ _)
    · rcases max_choice a.remaining (slowest count c i * approachTime) with hMax | hMax
      · cases h with
        | fresh hRemaining _ _ =>
          exact absurd (max_eq_left_iff.mp hMax) (not_le.mpr (hRemaining.trans_lt hOwnPos))
        | active _ _ _ _ hRuns =>
          obtain ⟨k, hk, hLeft⟩ := hRuns
          exact Or.inr ⟨k, hk, hLeft.trans hMax.symm⟩
      · exact Or.inl ⟨hStarts, hMax.symm⟩
  · have hRemaining : 0 < a.remaining := hBusy.resolve_right hStarts
    cases h with
    | fresh hOut _ _ => exact absurd hRemaining (not_lt.mpr hOut)
    | active _ hNext hTarget hLeads hRuns =>
      have hSame : a.target = slowest count c i := by
        refine le_antisymm (not_lt.mp fun hLess => hStarts (hIff.mpr hLess)) ?_
        rw [hTarget, slowest_succ hNext.1 hNext.2]
        exact min_le_right _ _
      rw [if_neg (hSame ▸ lt_irrefl _), hSame]
      exact ⟨_, rfl, hRemaining, hLeads, fun h => absurd h hStarts, Or.inr hRuns⟩

end Scan

/-! ## The invariant -/

section Invariant

variable [IsStrictOrderedRing K]
variable {s : ℕ → K} {count : ℕ} {approachTime : K} {c : ℕ → K} {preset : K}
variable {i : ℕ} {a b : Anticipation K}

omit [IsStrictOrderedRing K] in
/-- A step that keeps the ceilings keeps the invariant when the pose is the slowest of its
stretch. -/
theorem Arrived.keep (h : Arrived s count approachTime c preset (i + 1) a)
    (hKeep : b.ceiling = a.ceiling)
    (hSlowest : ¬ CutOff s count approachTime c preset i → c i = slowest count c i)
    (hCut : CutOff s count approachTime c preset i → 0 < b.remaining ∧ b.target = 0)
    (hUncut : ¬ CutOff s count approachTime c preset i →
      Phase s count approachTime c preset i b) :
    Arrived s count approachTime c preset i b where
  ahead := fun k hk => by rw [hKeep]; exact h.ahead k (by omega)
  done := by
    intro k hk hCount
    rw [hKeep]
    rcases Nat.eq_or_lt_of_le hk with rfl | hLater
    · rw [h.ahead i (Nat.lt_succ_self i)]
      exact ⟨fun _ => rfl, hSlowest⟩
    · exact h.done k hLater hCount
  cut := hCut
  uncut := hUncut

omit [IsStrictOrderedRing K] in
/-- Behind a stop that cut it off the scan changes nothing. -/
theorem Arrived.step_cut (h : Arrived s count approachTime c preset (i + 1) a)
    (hNonneg : ∀ j, j < count → 0 ≤ c j) (hCount : i + 1 < count)
    (hCut : CutOff s count approachTime c preset (i + 1)) :
    Arrived s count approachTime c preset i (anticipate s approachTime preset (i + 1) a) := by
  obtain ⟨hRemaining, hTarget⟩ := h.cut hCut
  have hCeiling : a.ceiling (i + 1) = c (i + 1) := (h.done (i + 1) le_rfl hCount).1 hCut
  have hAim : aimed approachTime (i + 1) a = (0, a.remaining) := by
    unfold aimed
    rw [hTarget, hCeiling, if_neg (not_lt.mpr (hNonneg _ hCount))]
  rw [anticipate_idle hAim fun hIdle => lt_irrefl _ hIdle.2]
  refine h.keep rfl (fun hUncut => absurd hCut.mono hUncut) (fun _ => ?_)
    fun hUncut => absurd hCut.mono hUncut
  exact ⟨hRemaining, if_neg (not_le.mpr hRemaining)⟩

omit [IsStrictOrderedRing K] in
/-- A stop ends the leads of its stretch, and cuts the scan off if one of them runs. -/
theorem Arrived.step_stop (h : Arrived s count approachTime c preset (i + 1) a)
    (hNonneg : ∀ j, j < count → 0 ≤ c j) (hCount : i + 1 < count)
    (hUncut : ¬ CutOff s count approachTime c preset (i + 1)) (hStop : c (i + 1) = 0) :
    Arrived s count approachTime c preset i (anticipate s approachTime preset (i + 1) a) := by
  have hAlone : ∀ k, ¬ InStretch count c i k := not_inStretch hStop.le
  have hCeiling : a.ceiling (i + 1) = 0 := by
    rw [(h.done (i + 1) le_rfl hCount).2 hUncut]
    refine le_antisymm (hStop ▸ slowest_le) (le_slowest_iff.mpr ⟨hNonneg _ hCount, ?_⟩)
    exact fun k hk => hNonneg k hk.2.1
  have hFresh : ∀ k, Leads s count approachTime c preset i k →
      leadLeft s count approachTime c k i ≤ 0 := fun k hk => absurd hk.1 (hAlone k)
  cases h.uncut hUncut with
  | fresh hRemaining hTarget hLeads =>
    have hOpen : ¬ CutOff s count approachTime c preset i := by
      intro hCut
      rcases cutOff_succ_iff.mp hCut with hCut | ⟨-, -, k, hk, hLeft⟩
      · exact hUncut hCut
      · exact absurd hLeft (not_lt.mpr (hLeads k hk))
    obtain ⟨target, lead, hAim, hOut⟩ : ∃ target lead,
        aimed approachTime (i + 1) a = (target, lead) ∧ lead ≤ 0 := by
      unfold aimed
      rw [hCeiling, zero_mul]
      split
      · exact ⟨_, _, rfl, max_le hRemaining le_rfl⟩
      · exact ⟨_, _, rfl, hRemaining⟩
    rw [anticipate_idle hAim fun hBusy => absurd hBusy.1 (not_lt.mpr hOut)]
    refine h.keep rfl (fun _ => (slowest_alone hAlone).symm) (fun hCut => absurd hCut hOpen)
      fun _ => Phase.fresh hOut (if_pos hOut) hFresh
  | active hRemaining hNext hTarget hLeads hRuns =>
    have hCut : CutOff s count approachTime c preset i := by
      obtain ⟨k, hk, hLeft⟩ := hRuns
      exact cutOff_succ_iff.mpr (Or.inr ⟨hCount, hStop, k, hk, hLeft ▸ hRemaining⟩)
    have hAim : aimed approachTime (i + 1) a = (0, a.remaining) := by
      unfold aimed
      rw [hCeiling, hTarget, if_pos (slowest_pos hNext.2), zero_mul, max_eq_left hRemaining.le]
    rw [anticipate_idle hAim fun hIdle => lt_irrefl _ hIdle.2]
    refine h.keep rfl (fun hOpen => absurd hCut hOpen) (fun _ => ?_) fun hOpen => absurd hCut hOpen
    exact ⟨hRemaining, if_neg (not_le.mpr hRemaining)⟩

/-- Where no lead runs and none starts, the ceilings are those of the open corridor. -/
theorem Arrived.step_idle (h : Arrived s count approachTime c preset (i + 1) a)
    (hMono : s i ≤ s (i + 1)) (hLe : ∀ j, j < count → c j ≤ preset) (hCount : i + 1 < count)
    (hUncut : ¬ CutOff s count approachTime c preset (i + 1)) (hPos : 0 < c (i + 1))
    (hOut : a.remaining ≤ 0)
    (hStarts : ¬ LeadStarts s count approachTime c preset (i + 1)) :
    Arrived s count approachTime c preset i (anticipate s approachTime preset (i + 1) a) := by
  have hPhase := h.uncut hUncut
  have hIff := hPhase.leadStarts_iff hPos hLe
  have hCeiling : a.ceiling (i + 1) = slowest count c (i + 1) :=
    (h.done (i + 1) le_rfl hCount).2 hUncut
  have hOpen : ¬ CutOff s count approachTime c preset i := by
    intro hCut
    rcases cutOff_succ_iff.mp hCut with hCut | ⟨-, hZero, -⟩
    · exact hUncut hCut
    · exact absurd hPos (hZero ▸ lt_irrefl _)
  cases hPhase with
  | active hRemaining _ _ _ _ => exact absurd hRemaining (not_lt.mpr hOut)
  | fresh _ hTarget hLeads =>
    have hPreset : preset ≤ slowest count c (i + 1) := by
      rw [← hTarget]
      exact not_lt.mp fun hLess => hStarts (hIff.mpr hLess)
    have hAim : aimed approachTime (i + 1) a = (preset, a.remaining) := by
      unfold aimed
      rw [hCeiling, hTarget, if_neg (not_lt.mpr hPreset)]
    rw [anticipate_idle hAim fun hBusy => absurd hBusy.1 (not_lt.mpr hOut)]
    refine h.keep rfl (fun _ => ?_) (fun hCut => absurd hCut hOpen)
      fun _ => Phase.fresh hOut (if_pos hOut) fun k hk => ?_
    · rw [slowest_succ hCount hPos]
      exact (min_eq_left ((hLe i (by omega)).trans hPreset)).symm
    · rcases (leads_succ hCount hPos).mp hk with ⟨-, h⟩ | hk
      · exact absurd h hStarts
      · rw [leadLeft_pred]
        have := hLeads k hk
        linarith

/-- Where a lead runs or starts, the pose before is lowered to the slowest of the stretch. -/
theorem Arrived.step_busy (h : Arrived s count approachTime c preset (i + 1) a)
    (hTime : 0 < approachTime) (hLe : ∀ j, j < count → c j ≤ preset)
    (hCount : i + 1 < count) (hUncut : ¬ CutOff s count approachTime c preset (i + 1))
    (hPos : 0 < c (i + 1))
    (hBusy : 0 < a.remaining ∨ LeadStarts s count approachTime c preset (i + 1)) :
    Arrived s count approachTime c preset i (anticipate s approachTime preset (i + 1) a) := by
  have hCeiling : a.ceiling (i + 1) = slowest count c (i + 1) :=
    (h.done (i + 1) le_rfl hCount).2 hUncut
  have hOpen : ¬ CutOff s count approachTime c preset i := by
    intro hCut
    rcases cutOff_succ_iff.mp hCut with hCut | ⟨-, hZero, -⟩
    · exact hUncut hCut
    · exact absurd hPos (hZero ▸ lt_irrefl _)
  obtain ⟨lead, hAim, hLead, hLeads, hOwn, hRuns⟩ :=
    (h.uncut hUncut).aimed hPos hTime hLe hCeiling hBusy
  rw [anticipate_active hAim (slowest_pos hPos) hLead, Nat.add_sub_cancel]
  have hLonger : ∀ k, Leads s count approachTime c preset i k →
      leadLeft s count approachTime c k i ≤ lead - (s (i + 1) - s i) := by
    intro k hk
    rw [leadLeft_pred]
    rcases (leads_succ hCount hPos).mp hk with ⟨rfl, hStarts⟩ | hk
    · exact sub_le_sub_right (hOwn hStarts) _
    · exact sub_le_sub_right (hLeads k hk) _
  have hLongest : ∃ k, Leads s count approachTime c preset i k ∧
      leadLeft s count approachTime c k i = lead - (s (i + 1) - s i) := by
    rcases hRuns with ⟨hStarts, hLeft⟩ | ⟨k, hk, hLeft⟩
    · refine ⟨i + 1, (leads_succ hCount hPos).mpr (Or.inl ⟨rfl, hStarts⟩), ?_⟩
      rw [leadLeft_pred, hLeft]
    · refine ⟨k, (leads_succ hCount hPos).mpr (Or.inr hk), ?_⟩
      rw [leadLeft_pred, hLeft]
  refine ⟨fun k hk => ?_, fun k hk hBound => ?_, fun hCut => absurd hCut hOpen, fun _ => ?_⟩
  · dsimp only
    rw [Function.update_of_ne (by omega)]
    exact h.ahead k (by omega)
  · dsimp only
    rcases Nat.eq_or_lt_of_le hk with rfl | hLater
    · rw [Function.update_self, h.ahead i (Nat.lt_succ_self i)]
      exact ⟨fun hCut => absurd hCut hOpen, fun _ => (slowest_succ hCount hPos).symm⟩
    · rw [Function.update_of_ne (by omega)]
      exact h.done k hLater hBound
  · by_cases hOut : lead - (s (i + 1) - s i) ≤ 0
    · exact Phase.fresh hOut (if_pos hOut) fun k hk => (hLonger k hk).trans hOut
    · exact Phase.active (not_le.mp hOut) ⟨hCount, hPos⟩ (if_neg hOut) hLonger hLongest

/-- One step of the scan keeps the invariant. -/
theorem Arrived.step (h : Arrived s count approachTime c preset (i + 1) a)
    (hMono : s i ≤ s (i + 1)) (hTime : 0 < approachTime)
    (hNonneg : ∀ j, j < count → 0 ≤ c j) (hLe : ∀ j, j < count → c j ≤ preset)
    (hCount : i + 1 < count) :
    Arrived s count approachTime c preset i (anticipate s approachTime preset (i + 1) a) := by
  by_cases hCut : CutOff s count approachTime c preset (i + 1)
  · exact h.step_cut hNonneg hCount hCut
  · rcases (hNonneg (i + 1) hCount).eq_or_lt with hStop | hPos
    · exact h.step_stop hNonneg hCount hCut hStop.symm
    · by_cases hBusy : 0 < a.remaining ∨ LeadStarts s count approachTime c preset (i + 1)
      · exact h.step_busy hTime hLe hCount hCut hPos hBusy
      · rw [not_or, not_lt] at hBusy
        exact h.step_idle hMono hLe hCount hCut hPos hBusy.1 hBusy.2

omit [IsStrictOrderedRing K] in
/-- Before its first step the scan is at the last pose. -/
theorem arrived_start (hCount : i + 1 = count) :
    Arrived s count approachTime c preset i { ceiling := c, target := preset, remaining := 0 } := by
  have hAlone : ∀ k, ¬ InStretch count c i k := fun k hk => by
    have := hk.1
    have := hk.2.1
    omega
  have hOpen : ¬ CutOff s count approachTime c preset i := by
    rintro ⟨z, hLater, hBound, -⟩
    omega
  refine ⟨fun _ _ => rfl, fun k hk hBound => ?_, fun hCut => absurd hCut hOpen, fun _ => ?_⟩
  · obtain rfl : k = i := by omega
    exact ⟨fun _ => rfl, fun _ => (slowest_alone hAlone).symm⟩
  · exact Phase.fresh le_rfl rfl fun k hk => absurd hk.1 (hAlone k)

/-- The scan comes to every pose with the invariant. -/
theorem scanAt_arrived (hMono : ∀ j, j + 1 < count → s j ≤ s (j + 1)) (hTime : 0 < approachTime)
    (hNonneg : ∀ j, j < count → 0 ≤ c j) (hLe : ∀ j, j < count → c j ≤ preset) (hi : i < count) :
    Arrived s count approachTime c preset i (scanAt s count approachTime c preset i) := by
  obtain ⟨last, rfl⟩ : ∃ last, count = last + 1 := ⟨count - 1, by omega⟩
  replace hi : i ≤ last := Nat.le_of_lt_succ hi
  induction hi using Nat.decreasingInduction with
  | self =>
    unfold scanAt
    rw [descending_of_le le_rfl]
    exact arrived_start rfl
  | of_succ i hLess ih =>
    unfold scanAt
    rw [descending_first (by omega)]
    exact ih.step (hMono i (by omega)) hTime hNonneg hLe (by omega)

/-- What the pass gives a pose. -/
theorem anticipationPass_isResult (hMono : ∀ j, j + 1 < count → s j ≤ s (j + 1))
    (hTime : 0 < approachTime) (hNonneg : ∀ j, j < count → 0 ≤ c j)
    (hLe : ∀ j, j < count → c j ≤ preset) (hi : i < count) :
    IsResult s count approachTime c preset i
      (anticipationPass s count approachTime preset c i) := by
  unfold anticipationPass
  rw [if_pos hTime]
  exact (scanAt_arrived hMono hTime hNonneg hLe (by omega)).done i (Nat.zero_le i) hi

end Invariant

/-! ## When the pass gives the plateaus -/

section Plateaus

variable (s : ℕ → K) (count : ℕ) (approachTime : K) (c : ℕ → K) (preset : K)

/-- The plateaus that a pose lies in fit its stretch: every slower pose of the stretch has one at
least as slow whose plateau comes that far, and no plateau from behind a stop is slower. Before a
stop that cuts the scan off, the pose lies in no plateau of a slower one. -/
def PlateausFit (i : ℕ) : Prop :=
  (CutOff s count approachTime c preset i →
      ∀ k, InPlateau s count approachTime c i k → c i ≤ c k) ∧
    (¬ CutOff s count approachTime c preset i →
      (∀ j, InStretch count c i j → c j < c i →
        ∃ k, InPlateau s count approachTime c i k ∧ c k ≤ c j) ∧
      ∀ k, InPlateau s count approachTime c i k → c k < c i →
        ∃ j, InStretch count c i j ∧ c j ≤ c k)

variable {s count approachTime c} {i : ℕ}

theorem anticipated_eq_self_iff :
    c i = anticipated s count approachTime c i ↔
      ∀ k, InPlateau s count approachTime c i k → c i ≤ c k := by
  have hLe : anticipated s count approachTime c i ≤ c i :=
    (anticipated_le_iff s count approachTime c i _).mpr (Or.inl le_rfl)
  constructor
  · intro h k hk
    exact h.le.trans ((anticipated_le_iff s count approachTime c i _).mpr (Or.inr ⟨k, hk, le_rfl⟩))
  · intro h
    refine le_antisymm ?_ hLe
    rcases (anticipated_le_iff s count approachTime c i _).mp le_rfl with hOwn | ⟨k, hk, hLess⟩
    · exact hOwn
    · exact (h k hk).trans hLess

theorem slowest_eq_anticipated_iff :
    slowest count c i = anticipated s count approachTime c i ↔
      (∀ j, InStretch count c i j → c j < c i →
        ∃ k, InPlateau s count approachTime c i k ∧ c k ≤ c j) ∧
      ∀ k, InPlateau s count approachTime c i k → c k < c i →
        ∃ j, InStretch count c i j ∧ c j ≤ c k := by
  have hIff : slowest count c i = anticipated s count approachTime c i ↔
      ∀ v, slowest count c i ≤ v ↔ anticipated s count approachTime c i ≤ v :=
    ⟨fun h v => by rw [h], fun h => eq_of_forall_ge_iff h⟩
  rw [hIff]
  simp only [slowest_le_iff, anticipated_le_iff]
  constructor
  · intro h
    constructor
    · intro j hj hLess
      exact ((h (c j)).mp (Or.inr ⟨j, hj, le_rfl⟩)).resolve_left (not_le.mpr hLess)
    · intro k hk hLess
      exact ((h (c k)).mpr (Or.inr ⟨k, hk, le_rfl⟩)).resolve_left (not_le.mpr hLess)
  · rintro ⟨hCovered, hShielded⟩ v
    constructor
    · rintro (hOwn | ⟨j, hj, hv⟩)
      · exact Or.inl hOwn
      · rcases le_or_gt (c i) (c j) with hFaster | hSlower
        · exact Or.inl (hFaster.trans hv)
        · obtain ⟨k, hk, hLess⟩ := hCovered j hj hSlower
          exact Or.inr ⟨k, hk, hLess.trans hv⟩
    · rintro (hOwn | ⟨k, hk, hv⟩)
      · exact Or.inl hOwn
      · rcases le_or_gt (c i) (c k) with hFaster | hSlower
        · exact Or.inl (hFaster.trans hv)
        · obtain ⟨j, hj, hLess⟩ := hShielded k hk hSlower
          exact Or.inr ⟨j, hj, hLess.trans hv⟩

/-- The pass gives a pose the least of the ceilings whose plateaus it lies in exactly when these
plateaus fit its stretch. Without an approach time it changes nothing. `anticipationPass_isResult`
says what the scan leaves at a pose: its own ceiling where its stretch is cut off, and else the
slowest one of the stretch. Either is compared with the least ceiling of the plateaus. -/
theorem anticipationPass_eq_anticipated_iff [IsStrictOrderedRing K]
    (hMono : ∀ j, j + 1 < count → s j ≤ s (j + 1))
    (hNonneg : ∀ j, j < count → 0 ≤ c j) (hLe : ∀ j, j < count → c j ≤ preset) :
    (approachTime = 0 → anticipationPass s count approachTime preset c = c) ∧
      (0 < approachTime → ∀ i, i < count →
        (anticipationPass s count approachTime preset c i = anticipated s count approachTime c i ↔
          PlateausFit s count approachTime c preset i)) := by
  constructor
  · rintro rfl
    exact if_neg (lt_irrefl _)
  · intro hTime i hi
    have hResult := anticipationPass_isResult hMono hTime hNonneg hLe hi
    by_cases hCut : CutOff s count approachTime c preset i
    · rw [hResult.1 hCut, anticipated_eq_self_iff]
      exact ⟨fun h => ⟨fun _ => h, fun hOpen => absurd hCut hOpen⟩, fun h => h.1 hCut⟩
    · rw [hResult.2 hCut, slowest_eq_anticipated_iff]
      exact ⟨fun h => ⟨fun h => absurd h hCut, fun _ => h⟩, fun h => h.2 hCut⟩

end Plateaus

/-! ## A slow pose before the goal, and a cusp between two slow poses -/

/-- One slow pose before the goal. -/
def slowPose (i : ℕ) : ℚ := [1, 1, 1 / 2, 0].getD i 0

/-- Slow poses before and after a cusp, and the goal. -/
def slowCusp (i : ℕ) : ℚ := [1, 1 / 2, 0, 1 / 2, 0].getD i 0

theorem anticipationPass_eq_anticipated_iff_slowPose :
    anticipationPass (fun i => (i : ℚ)) 4 1 1 slowPose 0 =
        anticipated (fun i => (i : ℚ)) 4 1 slowPose 0 ↔
      PlateausFit (fun i => (i : ℚ)) 4 1 slowPose 1 0 :=
  (anticipationPass_eq_anticipated_iff (s := fun i => (i : ℚ)) (c := slowPose) 1
    (fun j _ => Nat.cast_le.mpr (Nat.le_succ j)) (by decide +kernel) (by decide +kernel)).2
    one_pos 0 (by decide)

/-- A slow pose holds back to poses that its lead does not reach, and before a cusp that is met
while a lead runs the plateaus are lost. -/
theorem anticipationPass_not_anticipated :
    (anticipationPass (fun i => (i : ℚ)) 4 1 1 slowPose 0 = 1 / 2 ∧
      anticipated (fun i => (i : ℚ)) 4 1 slowPose 0 = 1) ∧
    (anticipationPass (fun i => (i : ℚ) / 4) 5 1 1 slowCusp 0 = 1 ∧
      anticipated (fun i => (i : ℚ) / 4) 5 1 slowCusp 0 = 1 / 2) := by
  decide +kernel

end PreRunner.Profile
