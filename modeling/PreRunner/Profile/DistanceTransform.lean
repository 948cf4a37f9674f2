import Mathlib.Algebra.Order.Field.Basic
import Mathlib.Data.Nat.Cast.Order.Field
import Mathlib.Tactic.Linarith
import Mathlib.Tactic.Ring
import PreRunner.Runs.Envelope
import PreRunner.Runs.Vectors

/-!
# The distance transform in one dimension

`distanceTransform1D` keeps the lower envelope of the parabolas `(x - p)² + input[p]` as a stack
of sites with the boundaries between them, and reads it off at every index. All accesses are
checked here: the result says that none of them is out of bounds and that both loops end.
-/

namespace PreRunner.Profile

open Runs Runs.Extended

variable {K : Type} [Field K] [LinearOrder K]

theorem two_atLeastTwo : Nat.AtLeastTwo 2 := inferInstance

-- the numeral 2 is then the same term in every module
attribute [local instance] two_atLeastTwo

/-! ## The transform -/

/-- The stack of sites and the boundaries between them. -/
structure Parabolas (K : Type) where
  sites : Vec ℕ
  boundaries : Vec (Extended K)
  k : ℕ

/-- Where the parabola of `q` meets that of the site on top. -/
def boundaryOf (input : Vec K) (sites : Vec ℕ) (q k : ℕ) : Option K := do
  let p ← sites.read k
  let inputQ ← input.read q
  let inputP ← input.read p
  return ((inputQ + q * q) - (inputP + p * p)) / (2 * (q - p))

/-- Drop sites until the boundary lies above the one of the site on top, or one site is left. -/
def findBoundary (input : Vec K) (sites : Vec ℕ) (boundaries : Vec (Extended K)) (q : ℕ) :
    ℕ → Option (ℕ × K)
  | 0 => do
    let boundary ← boundaryOf input sites q 0
    let _ ← boundaries.read 0
    return (0, boundary)
  | k + 1 => do
    let boundary ← boundaryOf input sites q (k + 1)
    let lower ← boundaries.read (k + 1)
    if lower < inside boundary then return (k + 1, boundary)
    else findBoundary input sites boundaries q k

def addSite (input : Vec K) (q : ℕ) (e : Parabolas K) : Option (Parabolas K) := do
  let (k, boundary) ← findBoundary input e.sites e.boundaries q e.k
  let sites ← e.sites.write (k + 1) q
  let boundaries ← e.boundaries.write (k + 1) (inside boundary)
  let boundaries ← boundaries.write (k + 2) ⊤
  return { sites, boundaries, k := k + 1 }

/-- `while (boundaries[k + 1] < q) ++k`, for at most the given number of rounds. -/
def advance (boundaries : Vec (Extended K)) (q : ℕ) : ℕ → ℕ → Option ℕ
  | 0, _ => none
  | rounds + 1, k => do
    let upper ← boundaries.read (k + 1)
    if upper < inside (q : K) then advance boundaries q rounds (k + 1) else return k

def readOff (input : Vec K) (e : Parabolas K) (q : ℕ) (state : ℕ × Vec K) :
    Option (ℕ × Vec K) := do
  let k ← advance e.boundaries q e.boundaries.size state.1
  let site ← e.sites.read k
  let delta : K := q - site
  let value ← input.read site
  let output ← state.2.write q (delta * delta + value)
  return (k, output)

def distanceTransform1D (input output : Vec K) : Option (Vec K) := do
  let n := input.size
  let sites ← (Vec.filled n 0).write 0 0
  let boundaries ← (Vec.filled (n + 1) (inside (0 : K))).write 0 ⊥
  let boundaries ← boundaries.write 1 ⊤
  let e ← ascendingM 1 n (addSite input) { sites, boundaries, k := 0 }
  let (_, output) ← ascendingM 0 n (readOff input e) (0, output)
  return output

/-! ## Parabolas -/

section Parabola

/-- The parabola of an index. -/
def parabola (values : ℕ → K) (p : ℕ) (x : K) : K := (x - p) * (x - p) + values p

/-- Where the parabola of a later index meets that of an earlier one. -/
def crossing (values : ℕ → K) (p q : ℕ) : K :=
  ((values q + q * q) - (values p + p * p)) / (2 * (q - p))

variable [IsStrictOrderedRing K]

theorem parabola_crossing (values : ℕ → K) : Crossing (parabola values) (crossing values) := by
  have hWidth : ∀ p r : ℕ, p < r → (0 : K) < 2 * (r - p) := fun p r h =>
    mul_pos two_pos (sub_pos.mpr (Nat.cast_lt.mpr h))
  refine ⟨fun p r x hLess hx => ?_, fun p r x hLess hx => ?_⟩
  · have hScaled := (le_div_iff₀ (hWidth p r hLess)).mp hx
    unfold parabola
    linarith
  · have hScaled := (div_le_iff₀ (hWidth p r hLess)).mp hx
    unfold parabola
    linarith

end Parabola

/-! ## The stack is the lower envelope -/

section Build

variable {input : Vec K} {e : Parabolas K} {count i : ℕ}

/-- The stack is the lower envelope of the first parabolas. -/
structure Drawn (input : Vec K) (count : ℕ) (e : Parabolas K) : Prop where
  sites : e.sites.size = input.size
  boundaries : e.boundaries.size = input.size + 1
  envelope : Envelope (parabola input.entry) count e.k e.sites.entry e.boundaries.entry

theorem boundaryOf_eq (h : Drawn input count e) (hi : i ≤ e.k) (hCount : count < input.size) :
    boundaryOf input e.sites count i =
      some (crossing input.entry (e.sites.entry i) count) := by
  have hBelow := h.envelope.below
  have hSite := h.envelope.mem i hi
  unfold boundaryOf
  rw [Vec.read_of_lt (by rw [h.sites]; omega)]
  change (input.read count >>= _) = _
  rw [Vec.read_of_lt hCount]
  change (input.read (e.sites.entry i) >>= _) = _
  rw [Vec.read_of_lt (hSite.trans hCount)]
  rfl

variable [IsStrictOrderedRing K]

/-- Sites are dropped as long as the new parabola beats them from their boundary on. -/
theorem findBoundary_spec (h : Drawn input count e) (hCount : count < input.size)
    (hi : i ≤ e.k) (hBeats : Beats (parabola input.entry) count e.boundaries.entry i) :
    ∃ k, findBoundary input e.sites e.boundaries count i =
        some (k, crossing input.entry (e.sites.entry k) count) ∧ k ≤ i ∧
      Beats (parabola input.entry) count e.boundaries.entry k ∧
      e.boundaries.entry k ≤ inside (crossing input.entry (e.sites.entry k) count) := by
  have hBelow := h.envelope.below
  induction i with
  | zero =>
    refine ⟨0, ?_, le_rfl, hBeats, ?_⟩
    · unfold findBoundary
      rw [boundaryOf_eq h hi hCount]
      change (e.boundaries.read 0 >>= _) = _
      rw [Vec.read_of_lt (by rw [h.boundaries]; omega)]
      rfl
    · rw [h.envelope.bottom]
      exact bot_le
  | succ i ih =>
    have hStep : findBoundary input e.sites e.boundaries count (i + 1) =
        if e.boundaries.entry (i + 1) <
            inside (crossing input.entry (e.sites.entry (i + 1)) count) then
          some (i + 1, crossing input.entry (e.sites.entry (i + 1)) count)
        else findBoundary input e.sites e.boundaries count i := by
      rw [findBoundary, boundaryOf_eq h hi hCount]
      change (e.boundaries.read (i + 1) >>= _) = _
      rw [Vec.read_of_lt (by rw [h.boundaries]; omega)]
      rfl
    rw [hStep]
    split
    · rename_i hKeep
      exact ⟨i + 1, rfl, le_rfl, hBeats, hKeep.le⟩
    · rename_i hDrop
      have hBeatsMore := h.envelope.beats_drop (parabola_crossing input.entry) hi hBeats
        (not_lt.mp hDrop)
      obtain ⟨k, hRun, hk, hRest⟩ := ih (by omega) hBeatsMore
      exact ⟨k, hRun, by omega, hRest⟩

/-- One more parabola. -/
theorem addSite_drawn (h : Drawn input count e) (hCount : count < input.size) :
    ∃ e', addSite input count e = some e' ∧ Drawn input (count + 1) e' := by
  obtain ⟨k, hRun, hk, hBeats, hKeep⟩ :=
    findBoundary_spec h hCount le_rfl h.envelope.beats_last
  have hBelow := h.envelope.below
  have hSites : k + 1 < e.sites.size := by
    rw [h.sites]
    omega
  have hBoundaries : k + 2 < e.boundaries.size := by
    rw [h.boundaries]
    omega
  refine ⟨⟨⟨e.sites.size, Function.update e.sites.entry (k + 1) count⟩,
    ⟨e.boundaries.size, Function.update (Function.update e.boundaries.entry (k + 1)
      (inside (crossing input.entry (e.sites.entry k) count))) (k + 2) ⊤⟩, k + 1⟩, ?_, ?_⟩
  · unfold addSite
    rw [hRun]
    change (e.sites.write (k + 1) count >>= _) = _
    rw [Vec.write_of_lt hSites]
    change (e.boundaries.write (k + 1) _ >>= _) = _
    rw [Vec.write_of_lt (Nat.lt_of_succ_lt hBoundaries)]
    change (Vec.write _ (k + 2) _ >>= _) = _
    rw [Vec.write_mk hBoundaries]
    rfl
  · exact ⟨h.sites, h.boundaries, h.envelope.push (parabola_crossing input.entry) hk hBeats hKeep⟩

end Build

/-! ## Reading it off -/

section Read

variable {input : Vec K} {e : Parabolas K} [IsStrictOrderedRing K]

omit [IsStrictOrderedRing K] in
/-- The scan of the boundaries ends at the site whose interval contains the index. -/
theorem advance_spec (h : Drawn input input.size e) (q : ℕ) (rounds : ℕ) {k : ℕ} (hk : k ≤ e.k)
    (hFrom : e.boundaries.entry k ≤ inside (q : K)) (hRounds : e.k < k + rounds) :
    ∃ k', advance e.boundaries q rounds k = some k' ∧ k' ≤ e.k ∧
      e.boundaries.entry k' ≤ inside (q : K) ∧ inside (q : K) ≤ e.boundaries.entry (k' + 1) := by
  have hBelow := h.envelope.below
  induction rounds generalizing k with
  | zero => exact absurd hRounds (by omega)
  | succ rounds ih =>
    have hStep : advance e.boundaries q (rounds + 1) k =
        if e.boundaries.entry (k + 1) < inside (q : K) then advance e.boundaries q rounds (k + 1)
        else some k := by
      rw [advance, Vec.read_of_lt (by rw [h.boundaries]; omega)]
      rfl
    rw [hStep]
    split
    · rename_i hPast
      rcases Nat.eq_or_lt_of_le hk with rfl | hLess
      · rw [h.envelope.top] at hPast
        exact absurd hPast not_top_lt
      · exact ih hLess hPast.le (by omega)
    · rename_i hReached
      exact ⟨k, rfl, hk, hFrom, not_lt.mp hReached⟩

/-- The indices that are done hold the least value of all parabolas. -/
structure Transformed (input output : Vec K) (e : Parabolas K) (q : ℕ) (state : ℕ × Vec K) :
    Prop where
  site : state.1 ≤ e.k
  boundary : e.boundaries.entry state.1 ≤ inside (q : K)
  size : state.2.size = output.size
  least : ∀ x, x < q → IsLeast {v | ∃ p, p < input.size ∧ v = parabola input.entry p x}
    (state.2.entry x)
  rest : ∀ x, q ≤ x → state.2.entry x = output.entry x

theorem readOff_transformed (h : Drawn input input.size e) {output : Vec K}
    (hOutput : input.size ≤ output.size) {q : ℕ} (hq : q < input.size) {state : ℕ × Vec K}
    (hState : Transformed input output e q state) :
    ∃ state', readOff input e q state = some state' ∧
      Transformed input output e (q + 1) state' := by
  have hBelow := h.envelope.below
  obtain ⟨k, hRun, hk, hFrom, hTo⟩ := advance_spec h q e.boundaries.size hState.site
    hState.boundary (by rw [h.boundaries]; omega)
  have hSite := h.envelope.mem k hk
  refine ⟨(k, ⟨state.2.size, Function.update state.2.entry q
    (parabola input.entry (e.sites.entry k) q)⟩), ?_, hk, ?_, hState.size, fun x hx => ?_,
    fun x hx => ?_⟩
  · unfold readOff
    rw [hRun]
    change (e.sites.read k >>= _) = _
    rw [Vec.read_of_lt (by rw [h.sites]; omega)]
    change (input.read (e.sites.entry k) >>= _) = _
    rw [Vec.read_of_lt hSite]
    change (state.2.write q _ >>= _) = _
    rw [Vec.write_of_lt (by rw [hState.size]; omega)]
    rfl
  · exact hFrom.trans (inside_le.mpr (Nat.cast_le.mpr (Nat.le_succ q)))
  · dsimp only
    rcases Nat.eq_or_lt_of_le (Nat.le_of_lt_succ hx) with rfl | hLess
    · rw [Function.update_self]
      refine ⟨⟨e.sites.entry k, hSite, rfl⟩, ?_⟩
      rintro v ⟨p, hp, rfl⟩
      exact h.envelope.cheapest k hk _ hFrom hTo p hp
    · rw [Function.update_of_ne (by omega)]
      exact hState.least x hLess
  · dsimp only
    rw [Function.update_of_ne (by omega)]
    exact hState.rest x (by omega)

/-- The transform ends without an access out of bounds and gives, at every index of the input, the
least value of all parabolas. -/
theorem distanceTransform1D_spec (input : Vec K) {output : Vec K} (hInput : 0 < input.size)
    (hOutput : input.size ≤ output.size) :
    ∃ transformed, distanceTransform1D input output = some transformed ∧
      transformed.size = output.size ∧
      (∀ q, q < input.size →
        IsLeast {v | ∃ p, p < input.size ∧ v = ((q : K) - p) * (q - p) + input.entry p}
          (transformed.entry q)) ∧
      ∀ q, input.size ≤ q → transformed.entry q = output.entry q := by
  have hStart : Drawn input 1
      ⟨⟨input.size, Function.update (fun _ => 0) 0 0⟩,
        ⟨input.size + 1, Function.update (Function.update (fun _ => inside (0 : K)) 0 ⊥) 1 ⊤⟩,
          0⟩ := by
    refine ⟨rfl, rfl, envelope_single ?_ ?_ ?_⟩
    · dsimp only
      rw [Function.update_self]
    · dsimp only
      rw [Function.update_of_ne Nat.zero_ne_one, Function.update_self]
    · dsimp only
      rw [Function.update_self]
  obtain ⟨e, hBuilt, hDrawn⟩ := ascendingM_invariant (P := fun count e => Drawn input count e)
    hInput hStart fun q e _ hq hDrawn => addSite_drawn hDrawn hq
  have hRead : Transformed input output e 0 (0, output) := by
    refine ⟨Nat.zero_le _, ?_, rfl, fun x hx => absurd hx (Nat.not_lt_zero x), fun _ _ => rfl⟩
    rw [hDrawn.envelope.bottom]
    exact bot_le
  obtain ⟨state, hRun, hState⟩ := ascendingM_invariant
    (P := fun q state => Transformed input output e q state) (Nat.zero_le input.size) hRead
    fun q state _ hq hState => readOff_transformed hDrawn hOutput hq hState
  refine ⟨state.2, ?_, hState.size, fun q hq => hState.least q hq, hState.rest⟩
  unfold distanceTransform1D Vec.filled
  dsimp only
  rw [Vec.write_mk hInput, Option.bind_eq_bind, Option.bind_some, Vec.write_mk (Nat.succ_pos _),
    Option.bind_eq_bind, Option.bind_some, Vec.write_mk (Nat.succ_lt_succ hInput),
    Option.bind_eq_bind, Option.bind_some, hBuilt, Option.bind_eq_bind, Option.bind_some, hRun]
  rfl

end Read

end PreRunner.Profile
