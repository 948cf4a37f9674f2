import Mathlib.Order.Bounds.Basic
import Mathlib.Order.WithBot

/-!
# Lower envelopes

A family of costs over an ordered line in which each later cost is dearer than an earlier one up
to a crossing and cheaper from there on. Its lower envelope is kept as a stack of sites with the
boundaries between them. A new cost drops the sites that it beats from their first boundary on and
starts at its crossing with the site that is left on top.
-/

namespace PreRunner.Runs

/-- A boundary on a line with both ends. -/
abbrev Extended (X : Type*) := WithBot (WithTop X)

/-- A boundary inside the line. -/
def Extended.inside {X : Type*} (x : X) : Extended X := ((x : WithTop X) : WithBot (WithTop X))

open Extended

variable {X V : Type*} [LinearOrder X] [Preorder V]

theorem inside_le {x y : X} : inside x ≤ inside y ↔ x ≤ y :=
  WithBot.coe_le_coe.trans WithTop.coe_le_coe

/-- Two costs cross once, the later one from above. -/
structure Crossing (cost : ℕ → X → V) (cross : ℕ → ℕ → X) : Prop where
  before : ∀ p r x, p < r → x ≤ cross p r → cost p x ≤ cost r x
  after : ∀ p r x, p < r → cross p r ≤ x → cost r x ≤ cost p x

/-- The sites up to an index are the cheapest of a number of costs between their boundaries. -/
structure Envelope (cost : ℕ → X → V) (count last : ℕ) (sites : ℕ → ℕ)
    (boundaries : ℕ → Extended X) : Prop where
  bottom : boundaries 0 = ⊥
  top : boundaries (last + 1) = ⊤
  mono : ∀ i j, i ≤ j → j ≤ last + 1 → boundaries i ≤ boundaries j
  mem : ∀ i, i ≤ last → sites i < count
  below : last < count
  cheapest : ∀ i, i ≤ last → ∀ x : X, boundaries i ≤ inside x →
    inside x ≤ boundaries (i + 1) → ∀ p, p < count → cost (sites i) x ≤ cost p x

/-- A new cost is the cheapest from the boundary after a site on. -/
def Beats (cost : ℕ → X → V) (count : ℕ) (boundaries : ℕ → Extended X) (i : ℕ) : Prop :=
  ∀ x : X, boundaries (i + 1) ≤ inside x → ∀ p, p < count →
    cost count x ≤ cost p x

variable {cost : ℕ → X → V} {cross : ℕ → ℕ → X} {count last i : ℕ} {sites : ℕ → ℕ}
  {boundaries : ℕ → Extended X}

theorem not_top_le (x : X) : ¬ (⊤ : Extended X) ≤ inside x := by
  intro h
  exact absurd (WithBot.coe_le_coe.mp h) (not_le.mpr (WithTop.coe_lt_top x))

/-- One cost is the cheapest everywhere. -/
theorem envelope_single (hSite : sites 0 = 0) (hBottom : boundaries 0 = ⊥)
    (hTop : boundaries 1 = ⊤) : Envelope cost 1 0 sites boundaries where
  bottom := hBottom
  top := hTop
  mono := by
    intro i j hij hj
    rcases Nat.eq_zero_or_pos i with rfl | hi
    · rw [hBottom]
      exact bot_le
    · obtain rfl : i = j := by omega
      exact le_rfl
  mem := fun i hi => by
    obtain rfl : i = 0 := by omega
    rw [hSite]
    exact Nat.one_pos
  below := Nat.one_pos
  cheapest := by
    intro i hi x _ _ p hp
    obtain rfl : i = 0 := by omega
    obtain rfl : p = 0 := by omega
    rw [hSite]

theorem Envelope.beats_last (h : Envelope cost count last sites boundaries) :
    Beats cost count boundaries last := by
  intro x hx
  rw [h.top] at hx
  exact absurd hx (not_top_le x)

/-- A site that the new cost beats from its first boundary on is dropped. -/
theorem Envelope.beats_drop (h : Envelope cost count last sites boundaries)
    (hCross : Crossing cost cross) (hi : i + 1 ≤ last)
    (hBeats : Beats cost count boundaries (i + 1))
    (hDrop : inside (cross (sites (i + 1)) count) ≤ boundaries (i + 1)) :
    Beats cost count boundaries i := by
  intro x hx p hp
  rcases le_total (inside x) (boundaries (i + 2)) with hInside | hBeyond
  · have hAfter : cross (sites (i + 1)) count ≤ x :=
      inside_le.mp (hDrop.trans hx)
    exact (hCross.after _ _ x (h.mem (i + 1) hi) hAfter).trans
      (h.cheapest (i + 1) hi x hx hInside p hp)
  · exact hBeats x hBeyond p hp

/-- The new cost takes its place above the site that is left on top. -/
theorem Envelope.push (h : Envelope cost count last sites boundaries) (hCross : Crossing cost cross)
    (hi : i ≤ last) (hBeats : Beats cost count boundaries i)
    (hKeep : boundaries i ≤ inside (cross (sites i) count)) :
    Envelope cost (count + 1) (i + 1) (Function.update sites (i + 1) count)
      (Function.update (Function.update boundaries (i + 1) (inside (cross (sites i) count)))
        (i + 2) ⊤) := by
  have hOld : ∀ j, j ≤ i → Function.update (Function.update boundaries (i + 1)
      (inside (cross (sites i) count))) (i + 2) ⊤ j = boundaries j := fun j hj => by
    rw [Function.update_of_ne (by omega), Function.update_of_ne (by omega)]
  have hNew : Function.update (Function.update boundaries (i + 1)
      (inside (cross (sites i) count))) (i + 2) ⊤ (i + 1) = inside (cross (sites i) count) := by
    rw [Function.update_of_ne (by omega), Function.update_self]
  have hTop : Function.update (Function.update boundaries (i + 1)
      (inside (cross (sites i) count))) (i + 2) ⊤ (i + 2) = ⊤ := Function.update_self ..
  refine ⟨?_, hTop, fun j k hjk hk => ?_, fun j hj => ?_, ?_, fun j hj x hFrom hTo p hp => ?_⟩
  · rw [hOld 0 (Nat.zero_le i)]
    exact h.bottom
  · -- the boundaries up to the site, the crossing, and the top
    rcases Nat.lt_or_ge i k with hAbove | hBelow
    · rcases Nat.eq_or_lt_of_le (show i + 1 ≤ k from hAbove) with rfl | hLast
      · rw [hNew]
        rcases Nat.eq_or_lt_of_le hjk with rfl | hLess
        · rw [hNew]
        · rw [hOld j (by omega)]
          exact (h.mono j i (by omega) (by omega)).trans hKeep
      · obtain rfl : k = i + 2 := by omega
        rw [hTop]
        exact le_top
    · rw [hOld j (by omega), hOld k hBelow]
      exact h.mono j k hjk (by omega)
  · rcases Nat.eq_or_lt_of_le hj with rfl | hLess
    · rw [Function.update_self]
      exact Nat.lt_succ_self count
    · rw [Function.update_of_ne (by omega)]
      exact (h.mem j (by omega)).trans (Nat.lt_succ_self count)
  · have := h.below
    omega
  · rcases Nat.eq_or_lt_of_le hj with rfl | hLess
    · -- from the crossing on the new cost is the cheapest
      rw [Function.update_self]
      rw [hNew] at hFrom
      rcases Nat.eq_or_lt_of_le (show p ≤ count by omega) with rfl | hOlder
      · exact le_rfl
      · rcases le_total (inside x) (boundaries (i + 1)) with hInside | hBeyond
        · have hStart : boundaries i ≤ inside x := hKeep.trans hFrom
          exact (hCross.after _ _ x (h.mem i hi) (inside_le.mp hFrom)).trans
            (h.cheapest i hi x hStart hInside p hOlder)
        · exact hBeats x hBeyond p hOlder
    · rw [Function.update_of_ne (by omega)]
      rw [hOld j (by omega)] at hFrom
      have hBefore : x ≤ cross (sites i) count → cost (sites i) x ≤ cost count x :=
        hCross.before _ _ x (h.mem i hi)
      rcases Nat.eq_or_lt_of_le (show j ≤ i by omega) with rfl | hLower
      · rw [hNew] at hTo
        rcases Nat.eq_or_lt_of_le (show p ≤ count by omega) with rfl | hOlder
        · exact hBefore (inside_le.mp hTo)
        · rcases le_total (inside x) (boundaries (j + 1)) with hInside | hBeyond
          · exact h.cheapest j hi x hFrom hInside p hOlder
          · exact (hBefore (inside_le.mp hTo)).trans (hBeats x hBeyond p hOlder)
      · rw [hOld (j + 1) hLower] at hTo
        have hCheapest := h.cheapest j (by omega) x hFrom hTo
        rcases Nat.eq_or_lt_of_le (show p ≤ count by omega) with rfl | hOlder
        · have hUnder : inside x ≤ inside (cross (sites i) p) :=
            hTo.trans ((h.mono (j + 1) i hLower (by omega)).trans hKeep)
          exact (hCheapest _ (h.mem i hi)).trans (hBefore (inside_le.mp hUnder))
        · exact hCheapest p hOlder

end PreRunner.Runs
