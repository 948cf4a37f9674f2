import Mathlib.Analysis.CStarAlgebra.Classes
import Mathlib.Analysis.Complex.Norm
import Mathlib.Tactic.Linarith
import Mathlib.Tactic.NormNum

/-!
# Square cells of the plane

A grid covers the plane with square cells. Every point of a cell is within half a diagonal of its
centre, so half a diagonal is lost at most on the way from a centre to a point of its cell, and
once more on the way to a point of the other cell.
-/

namespace PreRunner.Runs

/-! ## The plane -/

/-- The Euclidean distance of two points. -/
noncomputable def planeDistance (a b : ℝ × ℝ) : ℝ :=
  Real.sqrt ((a.1 - b.1) ^ 2 + (a.2 - b.2) ^ 2)

theorem planeDistance_eq_dist (a b : ℝ × ℝ) :
    planeDistance a b = dist (⟨a.1, a.2⟩ : ℂ) ⟨b.1, b.2⟩ := by
  rw [Complex.dist_eq_re_im]
  rfl

theorem planeDistance_nonneg (a b : ℝ × ℝ) : 0 ≤ planeDistance a b := Real.sqrt_nonneg _

theorem planeDistance_comm (a b : ℝ × ℝ) : planeDistance a b = planeDistance b a := by
  rw [planeDistance_eq_dist, planeDistance_eq_dist, dist_comm]

theorem planeDistance_triangle (a b c : ℝ × ℝ) :
    planeDistance a c ≤ planeDistance a b + planeDistance b c := by
  rw [planeDistance_eq_dist, planeDistance_eq_dist, planeDistance_eq_dist]
  exact dist_triangle _ _ _

/-! ## Cells -/

theorem atLeastTwo_two : Nat.AtLeastTwo 2 := inferInstance

-- the numeral 2 is then the same term in every module
attribute [local instance] atLeastTwo_two

/-- Where the cells lie and how large they are. -/
structure CellGrid where
  originX : ℝ
  originY : ℝ
  side : ℝ
  side_pos : 0 < side

namespace CellGrid

variable (grid : CellGrid) (x y : ℕ)

/-- A point lies in a cell; of the edges, those at the lower end belong to it. -/
structure Holds (p : ℝ × ℝ) : Prop where
  left : grid.originX + x * grid.side ≤ p.1
  right : p.1 < grid.originX + (x + 1) * grid.side
  bottom : grid.originY + y * grid.side ≤ p.2
  top : p.2 < grid.originY + (y + 1) * grid.side

/-- The square of a cell with all its edges. -/
structure Covers (p : ℝ × ℝ) : Prop where
  left : grid.originX + x * grid.side ≤ p.1
  right : p.1 ≤ grid.originX + (x + 1) * grid.side
  bottom : grid.originY + y * grid.side ≤ p.2
  top : p.2 ≤ grid.originY + (y + 1) * grid.side

noncomputable def centre : ℝ × ℝ :=
  (grid.originX + (x + 1 / 2) * grid.side, grid.originY + (y + 1 / 2) * grid.side)

/-- Half a diagonal of a cell. -/
noncomputable def radius : ℝ := grid.side * Real.sqrt (1 / 2)

variable {grid x y} {p q : ℝ × ℝ}

theorem Holds.covers (h : grid.Holds x y p) : grid.Covers x y p :=
  ⟨h.left, h.right.le, h.bottom, h.top.le⟩

theorem radius_nonneg (grid : CellGrid) : 0 ≤ grid.radius :=
  mul_nonneg grid.side_pos.le (Real.sqrt_nonneg _)

/-- Every point of a cell is within half a diagonal of its centre. -/
theorem Covers.distance_centre_le (h : grid.Covers x y p) :
    planeDistance p (grid.centre x y) ≤ grid.radius := by
  have hSide : ∀ u v : ℝ, |u| ≤ grid.side / 2 → |v| ≤ grid.side / 2 →
      u ^ 2 + v ^ 2 ≤ grid.side ^ 2 * (1 / 2) := by
    intro u v hu hv
    have hSquare : (grid.side / 2) ^ 2 + (grid.side / 2) ^ 2 = grid.side ^ 2 * (1 / 2) := by ring
    exact (add_le_add (sq_le_sq' (abs_le.mp hu).1 (abs_le.mp hu).2)
      (sq_le_sq' (abs_le.mp hv).1 (abs_le.mp hv).2)).trans_eq hSquare
  have hRadius : grid.radius = Real.sqrt (grid.side ^ 2 * (1 / 2)) := by
    rw [Real.sqrt_mul (sq_nonneg _), Real.sqrt_sq grid.side_pos.le]
    rfl
  rw [hRadius]
  obtain ⟨hLeft, hRight, hBottom, hTop⟩ := h
  refine Real.sqrt_le_sqrt (hSide _ _ (abs_le.mpr ?_) (abs_le.mpr ?_))
  · unfold centre
    dsimp only
    constructor <;> linarith
  · unfold centre
    dsimp only
    constructor <;> linarith

/-- The distance of two centres, from the distance of their indices. -/
theorem distance_centres (grid : CellGrid) (x y x' y' : ℕ) :
    planeDistance (grid.centre x y) (grid.centre x' y') =
      Real.sqrt (((x : ℝ) - x') * (x - x') + ((y : ℝ) - y') * (y - y')) * grid.side := by
  have hSquares : ((grid.centre x y).1 - (grid.centre x' y').1) ^ 2 +
      ((grid.centre x y).2 - (grid.centre x' y').2) ^ 2 =
        (((x : ℝ) - x') * (x - x') + ((y : ℝ) - y') * (y - y')) * grid.side ^ 2 := by
    unfold centre
    ring
  unfold planeDistance
  rw [hSquares, Real.sqrt_mul (add_nonneg (mul_self_nonneg _) (mul_self_nonneg _)),
    Real.sqrt_sq grid.side_pos.le]

variable {x' y' : ℕ}

/-- A point is at most half a diagonal nearer to a centre than the centre of its own cell is. -/
theorem Covers.centres_le (h : grid.Covers x y p) :
    planeDistance (grid.centre x y) (grid.centre x' y') ≤
      planeDistance p (grid.centre x' y') + grid.radius := by
  have hOwn := h.distance_centre_le
  have hTriangle := planeDistance_triangle (grid.centre x y) p (grid.centre x' y')
  rw [planeDistance_comm] at hOwn
  linarith

/-- A point is at most half a diagonal nearer to a cell than to its centre. -/
theorem Covers.centre_le (h : grid.Covers x y q) :
    planeDistance p (grid.centre x y) ≤ planeDistance p q + grid.radius := by
  have hOther := h.distance_centre_le
  have hTriangle := planeDistance_triangle p q (grid.centre x y)
  linarith

end CellGrid

end PreRunner.Runs
