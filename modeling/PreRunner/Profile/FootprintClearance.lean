import PreRunner.Profile.ObstacleDistance
import PreRunner.Profile.SampledProfile
import PreRunner.Runs.SquareCells

/-!
# The clearance of a footprint

`costmapClearance` samples eight points of the footprint boundary at every pose, takes the least
distance from the centre of a sample's cell to the centre of a blocked one and subtracts half a
cell diagonal. This makes up for the way from the sample to the centre of its own cell, so the
clearance is within the distance to every blocked centre. The blocked cell has an extent of its
own, and towards its nearest point the clearance can be too large by another half diagonal.
-/

namespace PreRunner.Profile

open Runs

attribute [local instance] atLeastTwo_two

/-! ## The clearance of a path -/

section Clearance

variable {K : Type} [Field K] [LinearOrder K]

/-- A costmap in the world. -/
structure WorldCostmap (K : Type) extends Costmap2D where
  resolution : K
  worldToMap : K → K → Option (ℕ × ℕ)

/-- The sampled points of the footprint, in the frame of the vehicle. -/
def boundary (front rear halfWidth : K) : List (K × K) :=
  [(front, halfWidth), (front, 0), (front, -halfWidth), (1 / 2 * (front - rear), -halfWidth),
    (-rear, -halfWidth), (-rear, 0), (-rear, halfWidth), (1 / 2 * (front - rear), halfWidth)]

variable (lib : MathLibrary K)

/-- A point of the vehicle in the world. -/
def worldPoint (pose : Pose K) (sample : K × K) : K × K :=
  let heading := yaw lib pose.orientation
  (pose.position.x + lib.cos heading * sample.1 - lib.sin heading * sample.2,
    pose.position.y + lib.sin heading * sample.1 + lib.cos heading * sample.2)

/-- The margin of the points that are left; a point off the map ends the loop. -/
def marginOver (costmap : WorldCostmap K) (grid : Vec K) :
    List (K × K) → Double K → Option (Double K)
  | [], margin => some margin
  | (wx, wy) :: rest, margin =>
    match costmap.worldToMap wx wy with
    | none => some (.finite 0)
    | some (mx, my) => do
      let value ← grid.read (my * costmap.sizeInCellsX + mx)
      marginOver costmap grid rest (margin.min (.finite (lib.sqrt value * costmap.resolution)))

def poseClearance (costmap : WorldCostmap K) (grid : Vec K) (samples : List (K × K))
    (pose : Pose K) : Option (Double K) := do
  let cellRadius := costmap.resolution * lib.sqrt (1 / 2)
  let margin ← marginOver lib costmap grid (samples.map (worldPoint lib pose)) (.inf false)
  return (Double.finite 0).max (margin.sub (.finite cellRadius))

/-- The clearance at each pose; there is none without cells or with a footprint that is not
finite. -/
def costmapClearance (path : Path K) (costmap : WorldCostmap K)
    (footprintFront footprintRear footprintHalfWidth : Double K) : Option (List (Double K)) :=
  if costmap.sizeInCellsX = 0 ∨ costmap.sizeInCellsY = 0 then some []
  else
    match footprintFront.finite?, footprintRear.finite?, footprintHalfWidth.finite? with
    | some front, some rear, some halfWidth => do
      let grid ← clearanceGrid costmap.toCostmap2D
      path.poses.mapM (poseClearance lib costmap grid (boundary front rear halfWidth))
    | _, _, _ => some []

end Clearance

/-! ## Margins -/

section Margins

/-- `worldToMap` finds the cell of the map that holds a point. -/
structure WorldCostmap.Located (costmap : WorldCostmap ℝ) (cells : CellGrid) : Prop where
  side : cells.side = costmap.resolution
  worldToMap : ∀ wx wy mx my, costmap.worldToMap wx wy = some (mx, my) ↔
    mx < costmap.sizeInCellsX ∧ my < costmap.sizeInCellsY ∧ cells.Holds mx my (wx, wy)

/-- A blocked cell of the map. -/
def WorldCostmap.BlockedInside (costmap : WorldCostmap ℝ) (x y : ℕ) : Prop :=
  x < costmap.sizeInCellsX ∧ y < costmap.sizeInCellsY ∧ costmap.Blocked x y

/-- A clearance at a point of the footprint is within the distance to every blocked centre, so
beyond the distance to a blocked cell by at most half a diagonal, and there is none off the map or
in a blocked cell. -/
structure ClearOf (costmap : WorldCostmap ℝ) (cells : CellGrid) (clearance : ℝ) (p : ℝ × ℝ) :
    Prop where
  nonneg : 0 ≤ clearance
  centre : ∀ x y, costmap.BlockedInside x y → clearance ≤ planeDistance p (cells.centre x y)
  near : ∀ x y q, costmap.BlockedInside x y → cells.Covers x y q →
    clearance ≤ planeDistance p q + cells.radius
  outside : (∀ x y, x < costmap.sizeInCellsX → y < costmap.sizeInCellsY → ¬ cells.Holds x y p) →
    clearance = 0
  inside : ∀ x y, costmap.BlockedInside x y → cells.Holds x y p → clearance = 0

variable (bits : ℝ → UInt64) {costmap : WorldCostmap ℝ} {cells : CellGrid} {grid : Vec ℝ}

/-- No cell value is above the squared distance to a blocked cell. -/
structure NearestBlocked (costmap : WorldCostmap ℝ) (grid : Vec ℝ) : Prop where
  read : ∀ x y, x < costmap.sizeInCellsX → y < costmap.sizeInCellsY →
    grid.read (y * costmap.sizeInCellsX + x) =
      some (grid.entry (y * costmap.sizeInCellsX + x))
  le : ∀ x y x' y', x < costmap.sizeInCellsX → y < costmap.sizeInCellsY →
    costmap.BlockedInside x' y' →
      grid.entry (y * costmap.sizeInCellsX + x) ≤ squaredDistance x y x' y'

/-- What the loop makes of the margin. -/
structure MarginOf (costmap : WorldCostmap ℝ) (cells : CellGrid) (points : List (ℝ × ℝ))
    (margin : ℝ) : Prop where
  nonneg : 0 ≤ margin
  le : ∀ p ∈ points, ∀ x y x' y', x < costmap.sizeInCellsX → y < costmap.sizeInCellsY →
    cells.Holds x y p → costmap.BlockedInside x' y' →
      margin ≤ planeDistance (cells.centre x y) (cells.centre x' y')
  outside : ∀ p ∈ points, costmap.worldToMap p.1 p.2 = none → margin = 0

theorem WorldCostmap.Located.cell (hLocated : costmap.Located cells) {p : ℝ × ℝ} {mx my x y : ℕ}
    (hCell : costmap.worldToMap p.1 p.2 = some (mx, my)) (hx : x < costmap.sizeInCellsX)
    (hy : y < costmap.sizeInCellsY) (hHolds : cells.Holds x y p) : x = mx ∧ y = my := by
  have hOwn := (hLocated.worldToMap p.1 p.2 x y).mpr ⟨hx, hy, hHolds⟩
  exact Prod.ext_iff.mp (Option.some.inj (hOwn.symm.trans hCell))

/-- The value of a cell is within the distance of its centre to every blocked one. -/
theorem NearestBlocked.distance_le (hGrid : NearestBlocked costmap grid)
    (hLocated : costmap.Located cells) {x y x' y' : ℕ}
    (hx : x < costmap.sizeInCellsX) (hy : y < costmap.sizeInCellsY)
    (hBlocked : costmap.BlockedInside x' y') :
    Real.sqrt (grid.entry (y * costmap.sizeInCellsX + x)) * costmap.resolution ≤
      planeDistance (cells.centre x y) (cells.centre x' y') := by
  rw [CellGrid.distance_centres, ← hLocated.side]
  exact mul_le_mul_of_nonneg_right (Real.sqrt_le_sqrt (hGrid.le x y x' y' hx hy hBlocked))
    cells.side_pos.le

/-- The loop ends with a margin, from the infinite one or from one that is finite. -/
theorem marginOver_spec (hLocated : costmap.Located cells) (hGrid : NearestBlocked costmap grid)
    (points : List (ℝ × ℝ)) (start : Double ℝ)
    (hStart : (start = .inf false ∧ points ≠ []) ∨ ∃ s, 0 ≤ s ∧ start = .finite s) :
    ∃ margin, marginOver (.real bits) costmap grid points start = some (.finite margin) ∧
      (∀ s, start = .finite s → margin ≤ s) ∧ MarginOf costmap cells points margin := by
  induction points generalizing start with
  | nil =>
    obtain ⟨s, hs, rfl⟩ := hStart.resolve_left fun h => h.2 rfl
    refine ⟨s, rfl, fun s' hs' => ?_, hs, fun p hp => ?_, fun p hp => ?_⟩
    · cases hs'
      exact le_rfl
    · exact absurd hp List.not_mem_nil
    · exact absurd hp List.not_mem_nil
  | cons p rest ih =>
    cases hCell : costmap.worldToMap p.1 p.2 with
    | none =>
      refine ⟨0, ?_, fun s hs => ?_, le_rfl, fun _ _ _ _ _ _ _ _ _ _ => planeDistance_nonneg _ _,
        fun _ _ _ => rfl⟩
      · unfold marginOver
        rw [hCell]
      · rcases hStart with ⟨rfl, -⟩ | ⟨s', hs', rfl⟩
        · exact nomatch hs
        · cases hs
          exact hs'
    | some cell =>
      obtain ⟨mx, my⟩ := cell
      obtain ⟨hx, hy, hHolds⟩ := (hLocated.worldToMap p.1 p.2 mx my).mp hCell
      have hValue : 0 ≤ Real.sqrt (grid.entry (my * costmap.sizeInCellsX + mx)) *
          costmap.resolution := mul_nonneg (Real.sqrt_nonneg _) (hLocated.side ▸ cells.side_pos.le)
      have hMin : ∃ s, 0 ≤ s ∧
          start.min (.finite (Real.sqrt (grid.entry (my * costmap.sizeInCellsX + mx)) *
            costmap.resolution)) = .finite s ∧
          s ≤ Real.sqrt (grid.entry (my * costmap.sizeInCellsX + mx)) * costmap.resolution ∧
          ∀ s', start = .finite s' → s ≤ s' := by
        rcases hStart with ⟨rfl, -⟩ | ⟨s', hs', rfl⟩
        · exact ⟨_, hValue, Double.min_inf, le_rfl, fun s' hs' => nomatch hs'⟩
        · refine ⟨_, le_min hs' hValue, Double.min_finite, min_le_right _ _, fun s'' hs'' => ?_⟩
          cases hs''
          exact min_le_left _ _
      obtain ⟨s, hs, hNext, hLeValue, hLeStart⟩ := hMin
      obtain ⟨margin, hRun, hLe, hRest⟩ := ih (.finite s) (Or.inr ⟨s, hs, rfl⟩)
      have hMargin : margin ≤ s := hLe s rfl
      refine ⟨margin, ?_, fun s' hs' => hMargin.trans (hLeStart s' hs'), hRest.nonneg,
        fun q hq x y x' y' hx' hy' hCovers hBlocked => ?_, fun q hq hOff => ?_⟩
      · unfold marginOver
        rw [hCell]
        dsimp only
        rw [hGrid.read mx my hx hy, Option.bind_eq_bind, Option.bind_some]
        exact (congrArg _ hNext).trans hRun
      · rcases List.mem_cons.mp hq with rfl | hq
        · obtain ⟨rfl, rfl⟩ := hLocated.cell hCell hx' hy' hCovers
          exact (hMargin.trans hLeValue).trans
            (hGrid.distance_le hLocated hx' hy' hBlocked)
        · exact hRest.le q hq x y x' y' hx' hy' hCovers hBlocked
      · rcases List.mem_cons.mp hq with rfl | hq
        · exact absurd (hOff.symm.trans hCell) (by simp)
        · exact hRest.outside q hq hOff

/-- The grid of a map has the distances to its blocked cells. -/
theorem clearanceGrid_nearest (costmap : WorldCostmap ℝ) :
    ∃ grid, clearanceGrid costmap.toCostmap2D = some grid ∧ NearestBlocked costmap grid := by
  obtain ⟨grid, hRun, hSize, hLeast⟩ := clearanceGrid_isLeast (K := ℝ) costmap.toCostmap2D
  refine ⟨grid, hRun, fun x y hx hy => Vec.read_of_lt (hSize ▸ cell_lt hx hy),
    fun x y x' y' hx hy hBlocked => (isLeast_blocked hx hy (hLeast x y hx hy) ⟨x', y', hBlocked⟩).2
      ⟨x', y', hBlocked.1, hBlocked.2.1, hBlocked.2.2, rfl⟩⟩

/-! ## Clearances -/

/-- Half a diagonal less than the margin is clear of every blocked centre. -/
theorem MarginOf.clearOf (hLocated : costmap.Located cells) {points : List (ℝ × ℝ)} {margin : ℝ}
    (h : MarginOf costmap cells points margin) {p : ℝ × ℝ} (hp : p ∈ points) :
    ClearOf costmap cells (max 0 (margin - cells.radius)) p := by
  have hRadius := cells.radius_nonneg
  have hNone : costmap.worldToMap p.1 p.2 = none →
      max 0 (margin - cells.radius) = 0 := fun hOff => by
    rw [h.outside p hp hOff, zero_sub]
    exact max_eq_left (neg_nonpos.mpr hRadius)
  have hCentre : ∀ x y, costmap.BlockedInside x y →
      max 0 (margin - cells.radius) ≤ planeDistance p (cells.centre x y) := by
    intro x y hBlocked
    cases hCell : costmap.worldToMap p.1 p.2 with
    | none => exact (hNone hCell).trans_le (planeDistance_nonneg _ _)
    | some cell =>
      obtain ⟨hx, hy, hHolds⟩ := (hLocated.worldToMap p.1 p.2 cell.1 cell.2).mp hCell
      have hMargin := h.le p hp cell.1 cell.2 x y hx hy hHolds hBlocked
      have hWay : planeDistance (cells.centre cell.1 cell.2) (cells.centre x y) ≤
          planeDistance p (cells.centre x y) + cells.radius := hHolds.covers.centres_le
      exact max_le (planeDistance_nonneg _ _) (by linarith)
  refine ⟨le_max_left _ _, hCentre, fun x y q hBlocked hCovers => ?_, fun hOutside => ?_,
    fun x y hBlocked hHolds => ?_⟩
  · exact (hCentre x y hBlocked).trans hCovers.centre_le
  · cases hCell : costmap.worldToMap p.1 p.2 with
    | none => exact hNone hCell
    | some cell =>
      obtain ⟨hx, hy, hHolds⟩ := (hLocated.worldToMap p.1 p.2 cell.1 cell.2).mp hCell
      exact absurd hHolds (hOutside cell.1 cell.2 hx hy)
  · have hMargin := h.le p hp x y x y hBlocked.1 hBlocked.2.1 hHolds hBlocked
    rw [CellGrid.distance_centres, sub_self, sub_self, mul_zero, add_zero, Real.sqrt_zero,
      zero_mul] at hMargin
    exact max_eq_left (by linarith)

theorem poseClearance_eq (hLocated : costmap.Located cells) {samples : List (ℝ × ℝ)} {pose : Pose ℝ}
    {margin : ℝ} (hRun : marginOver (.real bits) costmap grid
      (samples.map (worldPoint (.real bits) pose)) (.inf false) = some (.finite margin)) :
    poseClearance (.real bits) costmap grid samples pose =
      some (.finite (max 0 (margin - cells.radius))) := by
  unfold poseClearance
  dsimp only
  rw [hRun, Option.bind_eq_bind, Option.bind_some, CellGrid.radius, hLocated.side]
  exact congrArg some Double.max_finite

/-- The clearance of a pose is clear of all blocked cells, as far as half a diagonal. -/
theorem poseClearance_spec (hLocated : costmap.Located cells) (hGrid : NearestBlocked costmap grid)
    {samples : List (ℝ × ℝ)} (hSamples : samples ≠ []) (pose : Pose ℝ) :
    ∃ value, poseClearance (.real bits) costmap grid samples pose = some value ∧
      ∃ exact : ℝ, value = .finite exact ∧
        ∀ sample ∈ samples, ClearOf costmap cells exact (worldPoint (.real bits) pose sample) := by
  obtain ⟨margin, hRun, -, hMargin⟩ := marginOver_spec bits hLocated hGrid
    (samples.map (worldPoint (.real bits) pose)) (.inf false)
    (Or.inl ⟨rfl, fun h => hSamples (List.map_eq_nil_iff.mp h)⟩)
  exact ⟨_, poseClearance_eq bits hLocated hRun, _, rfl, fun sample hSample =>
    hMargin.clearOf hLocated (List.mem_map_of_mem hSample)⟩

/-- Every clearance of a path is clear of all blocked cells as far as half a diagonal, at each of
the eight sampled points of its pose. `poseClearance_spec` treats one pose: the margin is measured
from the cell of each point to the nearest blocked cell, and either centre is off by half a
diagonal at most. -/
theorem costmapClearance_clear (hLocated : costmap.Located cells) (path : Path ℝ)
    (footprintFront footprintRear footprintHalfWidth : Double ℝ) :
    ∃ clearance, costmapClearance (.real bits) path costmap footprintFront footprintRear
        footprintHalfWidth = some clearance ∧
      (0 < costmap.sizeInCellsX → 0 < costmap.sizeInCellsY → footprintFront.isFinite →
        footprintRear.isFinite → footprintHalfWidth.isFinite →
        clearance.length = path.poses.length) ∧
      ∀ (i : ℕ) pose value, path.poses[i]? = some pose → clearance[i]? = some value →
        ∃ front rear halfWidth exact : ℝ, footprintFront = .finite front ∧
          footprintRear = .finite rear ∧ footprintHalfWidth = .finite halfWidth ∧
          value = .finite exact ∧
          ∀ sample ∈ boundary front rear halfWidth,
            ClearOf costmap cells exact (worldPoint (.real bits) pose sample) := by
  unfold costmapClearance
  split
  · rename_i hEmpty
    exact ⟨[], rfl, fun hx hy => absurd hEmpty (by omega), fun i pose value _ h => nomatch h⟩
  · split
    · rename_i front rear halfWidth hFront hRear hHalfWidth
      obtain ⟨grid, hRun, hGrid⟩ := clearanceGrid_nearest costmap
      obtain ⟨clearance, hClearance, hRelated⟩ := mapM_related
        (poseClearance_spec bits hLocated hGrid
          (show boundary front rear halfWidth ≠ [] from List.cons_ne_nil _ _)) path.poses
      rw [hRun, Option.bind_eq_bind, Option.bind_some]
      refine ⟨clearance, hClearance, fun _ _ _ _ _ => hRelated.length_eq.symm,
        fun i pose value hPose hValue => ?_⟩
      obtain ⟨hi, rfl⟩ := List.getElem?_eq_some_iff.mp hPose
      obtain ⟨hi', rfl⟩ := List.getElem?_eq_some_iff.mp hValue
      obtain ⟨exact, hExact, hClear⟩ := hRelated.get hi hi'
      exact ⟨front, rear, halfWidth, exact, Double.eq_of_finite? hFront, Double.eq_of_finite? hRear,
        Double.eq_of_finite? hHalfWidth, hExact, hClear⟩
    · rename_i hNone
      refine ⟨[], rfl, fun _ _ hFront hRear hHalfWidth => ?_, fun i pose value _ h => nomatch h⟩
      obtain ⟨front, hFront⟩ := Double.finite?_of_isFinite hFront
      obtain ⟨rear, hRear⟩ := Double.finite?_of_isFinite hRear
      obtain ⟨halfWidth, hHalfWidth⟩ := Double.finite?_of_isFinite hHalfWidth
      exact absurd hHalfWidth (hNone front rear halfWidth hFront hRear)

/-! ## A footprint beside a corner -/

/-- The cell of a point on a map, by rounding down. -/
noncomputable def locate (cells : CellGrid) (width height : ℕ) (wx wy : ℝ) : Option (ℕ × ℕ) :=
  if wx < cells.originX ∨ wy < cells.originY then none
  else
    let mx := ⌊(wx - cells.originX) / cells.side⌋₊
    let my := ⌊(wy - cells.originY) / cells.side⌋₊
    if mx < width ∧ my < height then some (mx, my) else none

theorem floor_eq_iff_between (cells : CellGrid) {origin w : ℝ} (h : origin ≤ w) (m : ℕ) :
    ⌊(w - origin) / cells.side⌋₊ = m ↔
      origin + m * cells.side ≤ w ∧ w < origin + (m + 1) * cells.side := by
  rw [Nat.floor_eq_iff (div_nonneg (sub_nonneg.mpr h) cells.side_pos.le),
    le_div_iff₀ cells.side_pos, div_lt_iff₀ cells.side_pos, le_sub_iff_add_le', sub_lt_iff_lt_add']

theorem locate_eq_some_iff (cells : CellGrid) (width height : ℕ) (wx wy : ℝ) (mx my : ℕ) :
    locate cells width height wx wy = some (mx, my) ↔
      mx < width ∧ my < height ∧ cells.Holds mx my (wx, wy) := by
  unfold locate
  by_cases hBefore : wx < cells.originX ∨ wy < cells.originY
  · rw [if_pos hBefore]
    refine ⟨nofun, fun ⟨_, _, hHolds⟩ => ?_⟩
    have hLeft := hHolds.left
    have hBottom := hHolds.bottom
    have hX := mul_nonneg (Nat.cast_nonneg mx) cells.side_pos.le
    have hY := mul_nonneg (Nat.cast_nonneg my) cells.side_pos.le
    rcases hBefore with hBefore | hBefore
    · exact absurd hBefore (not_lt.mpr (by linarith))
    · exact absurd hBefore (not_lt.mpr (by linarith))
  · rw [if_neg hBefore]
    rw [not_or, not_lt, not_lt] at hBefore
    dsimp only
    have hX := floor_eq_iff_between cells hBefore.1 mx
    have hY := floor_eq_iff_between cells hBefore.2 my
    constructor
    · intro h
      split at h
      · rename_i hInside
        obtain ⟨hEqX, hEqY⟩ := Prod.ext_iff.mp (Option.some.inj h)
        obtain ⟨hLeft, hRight⟩ := hX.mp hEqX
        obtain ⟨hBottom, hTop⟩ := hY.mp hEqY
        dsimp only at hEqX hEqY
        rw [hEqX, hEqY] at hInside
        exact ⟨hInside.1, hInside.2, hLeft, hRight, hBottom, hTop⟩
      · exact nomatch h
    · rintro ⟨hWidth, hHeight, hHolds⟩
      rw [hX.mpr ⟨hHolds.left, hHolds.right⟩, hY.mpr ⟨hHolds.bottom, hHolds.top⟩,
        if_pos ⟨hWidth, hHeight⟩]

def unitCells : CellGrid := ⟨0, 0, 1, zero_lt_one⟩

/-- A map of square metres with a lethal one in its corner. -/
noncomputable def cornerMap : WorldCostmap ℝ where
  sizeInCellsX := 5
  sizeInCellsY := 4
  getCost x y := if x = 0 ∧ y = 0 then lethalObstacle else 0
  resolution := 1
  worldToMap := locate unitCells 5 4

/-- A pose whose footprint touches the lethal square. -/
def cornerPath : Path ℝ where
  frameId := "map"
  stamp := ⟨12, 0⟩
  poses := [⟨⟨2, 2, 0⟩, ⟨0, 0, 0, 1⟩⟩]

theorem cornerMap_located : cornerMap.Located unitCells :=
  ⟨rfl, locate_eq_some_iff unitCells 5 4⟩

/-- The pose beside the lethal square gets a clearance that the eight points of its footprint
keep. -/
theorem costmapClearance_clear_cornerMap :
    ∃ exact : ℝ, costmapClearance (.real fun _ => 0) cornerPath cornerMap (.finite 2) (.finite 1)
        (.finite 1) = some [.finite exact] ∧
      ∀ sample ∈ boundary (2 : ℝ) 1 1, ClearOf cornerMap unitCells exact
        (worldPoint (.real fun _ => 0) ⟨⟨2, 2, 0⟩, ⟨0, 0, 0, 1⟩⟩ sample) := by
  obtain ⟨clearance, hRun, hLength, hClear⟩ := costmapClearance_clear (fun _ => 0) cornerMap_located
    cornerPath (.finite 2) (.finite 1) (.finite 1)
  obtain ⟨value, rfl⟩ := List.length_eq_one_iff.mp (hLength (by decide) (by decide) rfl rfl rfl)
  obtain ⟨front, rear, halfWidth, exact, hFront, hRear, hHalfWidth, rfl, hSamples⟩ :=
    hClear 0 _ value rfl rfl
  cases hFront
  cases hRear
  cases hHalfWidth
  exact ⟨exact, hRun, hSamples⟩

theorem cornerMap_blocked {x y : ℕ} (h : cornerMap.Blocked x y) : x = 0 ∧ y = 0 := by
  by_contra hOther
  have hFree : cornerMap.getCost x y = 0 := if_neg hOther
  rcases h with h | h
  · exact absurd (hFree.symm.trans h) (by decide)
  · exact absurd (hFree.symm.trans h) (by decide)

/-- Away from the corner every cell is at least a metre from it. -/
theorem cornerMap_far {grid : Vec ℝ} (hRun : clearanceGrid cornerMap.toCostmap2D = some grid)
    {p : ℝ × ℝ} (hLeft : 1 ≤ p.1) (hRight : p.1 < 5) (hBottom : 1 ≤ p.2) (hTop : p.2 < 4) :
    ∃ mx my, cornerMap.worldToMap p.1 p.2 = some (mx, my) ∧
      1 ≤ Real.sqrt (grid.entry (my * cornerMap.sizeInCellsX + mx)) * cornerMap.resolution := by
  obtain ⟨grid', hRun', -, hLeast⟩ := clearanceGrid_isLeast (K := ℝ) cornerMap.toCostmap2D
  cases hRun.symm.trans hRun'
  have hCell : ∀ w : ℝ, 1 ≤ w → 1 ≤ ⌊w⌋₊ ∧ (⌊w⌋₊ : ℝ) ≤ w ∧ w < ⌊w⌋₊ + 1 := fun w hw =>
    ⟨Nat.le_floor (by rwa [Nat.cast_one]), Nat.floor_le (by linarith), Nat.lt_floor_add_one w⟩
  obtain ⟨hOneX, hLowX, hHighX⟩ := hCell p.1 hLeft
  obtain ⟨hOneY, hLowY, hHighY⟩ := hCell p.2 hBottom
  have hX : ⌊p.1⌋₊ < cornerMap.sizeInCellsX := by
    rw [Nat.floor_lt (by linarith)]
    exact hRight
  have hY : ⌊p.2⌋₊ < cornerMap.sizeInCellsY := by
    rw [Nat.floor_lt (by linarith)]
    exact hTop
  refine ⟨⌊p.1⌋₊, ⌊p.2⌋₊, (cornerMap_located.worldToMap _ _ _ _).mpr ⟨hX, hY, ?_⟩, ?_⟩
  · constructor <;>
      simp only [unitCells, mul_one, zero_add] <;> assumption
  · have hBlocked : ∃ x' y', x' < cornerMap.sizeInCellsX ∧ y' < cornerMap.sizeInCellsY ∧
        cornerMap.Blocked x' y' := ⟨0, 0, by decide, by decide, Or.inl rfl⟩
    obtain ⟨x', y', hx', hy', hCorner, hValue⟩ :=
      (isLeast_blocked hX hY (hLeast _ _ hX hY) hBlocked).1
    obtain ⟨rfl, rfl⟩ := cornerMap_blocked hCorner
    have hSquare : (1 : ℝ) * 1 ≤ ⌊p.1⌋₊ * ⌊p.1⌋₊ := by
      have hCast : (1 : ℝ) ≤ ⌊p.1⌋₊ := Nat.one_le_cast.mpr hOneX
      exact mul_self_le_mul_self zero_le_one hCast
    have hEntry : 1 ≤ grid.entry (⌊p.2⌋₊ * cornerMap.sizeInCellsX + ⌊p.1⌋₊) := by
      rw [hValue]
      unfold squaredDistance
      have hOther := mul_self_nonneg ((⌊p.2⌋₊ : ℝ) - (0 : ℕ))
      rw [Nat.cast_zero, sub_zero, sub_zero] at *
      linarith
    show 1 ≤ _ * (1 : ℝ)
    rw [mul_one]
    exact Real.one_le_sqrt.mpr hEntry

/-- Where all points are far from the blocked cells the margin is. -/
theorem le_marginOver {bound : ℝ} (hGrid : NearestBlocked costmap grid)
    (hLocated : costmap.Located cells) {points : List (ℝ × ℝ)}
    (hFar : ∀ p ∈ points, ∃ mx my, costmap.worldToMap p.1 p.2 = some (mx, my) ∧
      bound ≤ Real.sqrt (grid.entry (my * costmap.sizeInCellsX + mx)) * costmap.resolution)
    {start : Double ℝ} (hStart : start = .inf false ∨ ∃ s, bound ≤ s ∧ start = .finite s)
    {margin : ℝ}
    (hRun : marginOver (.real bits) costmap grid points start = some (.finite margin)) :
    bound ≤ margin := by
  induction points generalizing start with
  | nil =>
    rcases hStart with rfl | ⟨s, hs, rfl⟩
    · exact nomatch hRun
    · cases hRun
      exact hs
  | cons p rest ih =>
    obtain ⟨mx, my, hCell, hBound⟩ := hFar p List.mem_cons_self
    obtain ⟨hx, hy, -⟩ := (hLocated.worldToMap p.1 p.2 mx my).mp hCell
    unfold marginOver at hRun
    rw [hCell] at hRun
    dsimp only at hRun
    rw [hGrid.read mx my hx hy, Option.bind_eq_bind, Option.bind_some] at hRun
    refine ih (fun q hq => hFar q (List.mem_cons_of_mem p hq)) (Or.inr ?_) hRun
    rcases hStart with rfl | ⟨s, hs, rfl⟩
    · exact ⟨_, hBound, Double.min_inf⟩
    · exact ⟨_, le_min hs hBound, Double.min_finite⟩

theorem cornerPath_world (sample : ℝ × ℝ) :
    worldPoint (.real bits) (cornerPath.pose 0) sample = (2 + sample.1, 2 + sample.2) := by
  have hHeading : yaw (.real bits) (cornerPath.pose 0).orientation = 0 := yaw_identity bits
  have hCos : (MathLibrary.real bits).cos 0 = 1 := Real.cos_zero
  have hSin : (MathLibrary.real bits).sin 0 = 0 := Real.sin_zero
  unfold worldPoint
  rw [hHeading]
  dsimp only
  rw [hCos, hSin, one_mul, one_mul, zero_mul, zero_mul, sub_zero, add_zero]
  rfl

/-- The sampled points of the pose beside the lethal square. -/
theorem cornerPath_points {p : ℝ × ℝ}
    (h : p ∈ (boundary (2 : ℝ) 1 1).map (worldPoint (.real bits) (cornerPath.pose 0))) :
    1 ≤ p.1 ∧ p.1 < 5 ∧ 1 ≤ p.2 ∧ p.2 < 4 := by
  obtain ⟨sample, hSample, rfl⟩ := List.mem_map.mp h
  rw [cornerPath_world]
  simp only [boundary, List.mem_cons, List.not_mem_nil, or_false] at hSample
  rcases hSample with rfl | rfl | rfl | rfl | rfl | rfl | rfl | rfl <;> norm_num

/-- Beside a lethal square that the footprint touches the clearance is positive. -/
theorem costmapClearance_exceeds_cornerMap :
    ∃ clearance : ℝ, costmapClearance (.real fun _ => 0) cornerPath cornerMap
      (.finite 2) (.finite 1)
        (.finite 1) = some [.finite clearance] ∧
      cornerMap.BlockedInside 0 0 ∧
      ∃ sample ∈ boundary (2 : ℝ) 1 1, ∃ q, unitCells.Covers 0 0 q ∧
        planeDistance (worldPoint (.real fun _ => 0) (cornerPath.pose 0) sample) q < clearance := by
  obtain ⟨grid, hRun, hGrid⟩ := clearanceGrid_nearest cornerMap
  obtain ⟨margin, hMargin, -⟩ := marginOver_spec (fun _ => 0) cornerMap_located hGrid
    ((boundary (2 : ℝ) 1 1).map (worldPoint (.real fun _ => 0) (cornerPath.pose 0))) (.inf false)
    (Or.inl ⟨rfl, List.cons_ne_nil _ _⟩)
  have hFar : 1 ≤ margin := by
    refine le_marginOver (fun _ => 0) hGrid cornerMap_located (fun p hp => ?_) (Or.inl rfl) hMargin
    obtain ⟨hLeft, hRight, hBottom, hTop⟩ := cornerPath_points _ hp
    exact cornerMap_far hRun hLeft hRight hBottom hTop
  have hRadius : unitCells.radius < 1 := by
    show (1 : ℝ) * Real.sqrt (1 / 2) < 1
    rw [one_mul, Real.sqrt_lt' one_pos]
    norm_num
  have hPositive : 0 < max 0 (margin - unitCells.radius) :=
    lt_max_of_lt_right (by linarith)
  refine ⟨_, ?_, ⟨by decide, by decide, Or.inl rfl⟩, (-1, -1), by simp [boundary], (1, 1), ?_,
    lt_of_eq_of_lt ?_ hPositive⟩
  · unfold costmapClearance
    rw [if_neg (by decide)]
    dsimp only [Double.finite?]
    rw [hRun, Option.bind_eq_bind, Option.bind_some]
    show [cornerPath.pose 0].mapM _ = _
    rw [List.mapM_cons, List.mapM_nil, poseClearance_eq (fun _ => 0) cornerMap_located hMargin]
    rfl
  · constructor <;> norm_num [unitCells]
  · rw [cornerPath_world]
    unfold planeDistance
    norm_num

end Margins

end PreRunner.Profile
