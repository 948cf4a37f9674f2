import Mathlib.Tactic.GCongr
import Mathlib.Tactic.Positivity
import PreRunner.Profile.DistanceTransform

/-!
# The distance to the nearest obstacle

`costmapClearance` first turns the costmap into a grid of squared distances: free cells start with
a value that no distance inside the map reaches, and the one-dimensional transform runs over every
row and then over every column. The minimum over a row of minima over the columns is the minimum
over the map, so every cell gets its exact distance.
-/

namespace PreRunner.Profile

open Runs

variable {K : Type} [Field K] [LinearOrder K]

/-! ## The grid -/

def lethalObstacle : UInt8 := 254
def noInformation : UInt8 := 255

/-- The cells of a `nav2_costmap_2d::Costmap2D`. -/
structure Costmap2D where
  sizeInCellsX : ℕ
  sizeInCellsY : ℕ
  getCost : ℕ → ℕ → UInt8

namespace Costmap2D

/-- A lethal or unknown cell. -/
def Blocked (costmap : Costmap2D) (x y : ℕ) : Prop :=
  costmap.getCost x y = lethalObstacle ∨ costmap.getCost x y = noInformation

instance (costmap : Costmap2D) (x y : ℕ) : Decidable (costmap.Blocked x y) :=
  inferInstanceAs (Decidable (_ ∨ _))

end Costmap2D

/-- The grid and the two lines that the passes use. -/
structure GridLines (K : Type) where
  grid : Vec K
  input : Vec K
  output : Vec K

/-- Transform one line of the grid, given by its cells. -/
def transformLine (length : ℕ) (cell : ℕ → ℕ) (g : GridLines K) : Option (GridLines K) := do
  let input ← g.grid.copy length cell id g.input
  let line ← input.take length
  let output ← distanceTransform1D line g.output
  let grid ← output.copy length id cell g.grid
  return { grid, input, output }

/-- Transform all lines of the grid. -/
def transformLines (lines length : ℕ) (cell : ℕ → ℕ → ℕ) (g : GridLines K) :
    Option (GridLines K) :=
  ascendingM 0 lines (fun line => transformLine length (cell line)) g

/-- Zero for the blocked cells. -/
def markObstacles (costmap : Costmap2D) (grid : Vec K) : Option (Vec K) :=
  ascendingM 0 costmap.sizeInCellsY (fun y =>
    ascendingM 0 costmap.sizeInCellsX fun x grid =>
      if costmap.Blocked x y then grid.write (y * costmap.sizeInCellsX + x) 0 else some grid) grid

/-- `far`: the value that free cells start with. -/
def farValue (width height : ℕ) : K := ((width + height : ℕ) : K) * ((width + height : ℕ) : K)

/-- The grid of `costmapClearance` after its two passes; an empty map gives none. -/
def clearanceGrid (costmap : Costmap2D) : Option (Vec K) :=
  let width := costmap.sizeInCellsX
  let height := costmap.sizeInCellsY
  if width = 0 ∨ height = 0 then some (.filled 0 0)
  else do
    let grid ← markObstacles costmap (.filled (width * height) (farValue width height))
    let g : GridLines K :=
      { grid, input := .filled (max width height) 0, output := .filled (max width height) 0 }
    let g ← transformLines height width (fun y x => y * width + x) g
    let g ← transformLines width height (fun x y => y * width + x) g
    return g.grid

/-! ## Cells -/

theorem cell_lt {width height x y : ℕ} (hx : x < width) (hy : y < height) :
    y * width + x < width * height :=
  calc y * width + x < y * width + width := Nat.add_lt_add_left hx _
    _ = (y + 1) * width := (Nat.succ_mul y width).symm
    _ ≤ height * width := Nat.mul_le_mul_right width hy
    _ = width * height := Nat.mul_comm ..

theorem cell_inj {width x y x' y' : ℕ} (hx : x < width) (hx' : x' < width)
    (h : y * width + x = y' * width + x') : x = x' ∧ y = y' := by
  have hPos : 0 < width := by omega
  have hRow : (y * width + x) / width = (y' * width + x') / width := by rw [h]
  rw [Nat.mul_comm y, Nat.mul_comm y', Nat.mul_add_div hPos, Nat.mul_add_div hPos,
    Nat.div_eq_of_lt hx, Nat.div_eq_of_lt hx', Nat.add_zero, Nat.add_zero] at hRow
  subst hRow
  exact ⟨Nat.add_left_cancel h, rfl⟩

/-! ## One line -/

section Line

variable {length : ℕ} {g : GridLines K}

/-- The sizes of the vectors fit the lines. -/
structure Fits (length size : ℕ) (g : GridLines K) : Prop where
  grid : g.grid.size = size
  input : length ≤ g.input.size
  output : length ≤ g.output.size

/-- The least value of a line of parabolas. -/
def IsLowest (length : ℕ) (value : ℕ → K) (i : ℕ) (lowest : K) : Prop :=
  IsLeast {v | ∃ p, p < length ∧ v = ((i : K) - p) * (i - p) + value p} lowest

theorem IsLowest.congr {value value' : ℕ → K} {i : ℕ} {lowest : K}
    (h : IsLowest length value i lowest) (hEq : ∀ p, p < length → value p = value' p) :
    IsLowest length value' i lowest := by
  obtain ⟨⟨p, hp, hValue⟩, hLeast⟩ := h
  refine ⟨⟨p, hp, hEq p hp ▸ hValue⟩, ?_⟩
  rintro v ⟨p, hp, rfl⟩
  exact hLeast ⟨p, hp, by rw [hEq p hp]⟩

variable [IsStrictOrderedRing K] {size : ℕ}

/-- A line of the grid is transformed, and all other cells are kept. -/
theorem transformLine_spec (cell : ℕ → ℕ) (hLength : 0 < length) (hFits : Fits length size g)
    (hCell : ∀ i, i < length → cell i < size)
    (hInj : ∀ i j, i < length → j < length → cell i = cell j → i = j) :
    ∃ g', transformLine length cell g = some g' ∧ g'.grid.size = size ∧
      g'.input.size = g.input.size ∧ g'.output.size = g.output.size ∧
      (∀ i, i < length → IsLowest length (fun p => g.grid.entry (cell p)) i
        (g'.grid.entry (cell i))) ∧
      ∀ c, (∀ i, i < length → cell i ≠ c) → g'.grid.entry c = g.grid.entry c := by
  obtain ⟨input, hLoad, hInputSize, hInput, -⟩ := Vec.copy_spec g.grid cell id g.input
    (fun i hi => hFits.grid ▸ hCell i hi) (fun i hi => hi.trans_le hFits.input)
    fun i j _ _ h => h
  have hTake : input.take length = some ⟨length, input.entry⟩ :=
    Vec.take_of_le (hInputSize ▸ hFits.input)
  obtain ⟨output, hTransform, hOutputSize, hLeast, -⟩ :=
    distanceTransform1D_spec ⟨length, input.entry⟩ hLength hFits.output
  obtain ⟨grid, hStore, hGridSize, hGrid, hKept⟩ := Vec.copy_spec output id cell g.grid
    (fun i hi => hi.trans_le (hOutputSize ▸ hFits.output))
    (fun i hi => hFits.grid ▸ hCell i hi) hInj
  refine ⟨⟨grid, input, output⟩, ?_, hGridSize.trans hFits.grid, hInputSize, hOutputSize,
    fun i hi => ?_, hKept⟩
  · unfold transformLine
    simp only [Option.bind_eq_bind]
    rw [hLoad, Option.bind_some, hTake, Option.bind_some, hTransform, Option.bind_some, hStore]
    rfl
  · rw [show grid.entry (cell i) = output.entry i from hGrid i hi]
    have hLowest : IsLowest length input.entry i (output.entry i) := hLeast i hi
    exact hLowest.congr hInput

/-- Every line of the grid is transformed on its own. -/
theorem transformLines_spec {lines : ℕ} (cell : ℕ → ℕ → ℕ) (hLength : 0 < length)
    (hFits : Fits length size g) (hCell : ∀ l i, l < lines → i < length → cell l i < size)
    (hInj : ∀ l m i j, l < lines → m < lines → i < length → j < length → cell l i = cell m j →
      l = m ∧ i = j) :
    ∃ g', transformLines lines length cell g = some g' ∧ g'.grid.size = size ∧
      g'.input.size = g.input.size ∧ g'.output.size = g.output.size ∧
      ∀ l i, l < lines → i < length →
        IsLowest length (fun p => g.grid.entry (cell l p)) i (g'.grid.entry (cell l i)) := by
  have hLoop := @ascendingM_invariant (GridLines K) (fun next g' => g'.grid.size = size ∧
    g'.input.size = g.input.size ∧
      g'.output.size = g.output.size ∧
      (∀ l i, l < next → i < length →
        IsLowest length (fun p => g.grid.entry (cell l p)) i (g'.grid.entry (cell l i))) ∧
      ∀ l i, next ≤ l → l < lines → i < length → g'.grid.entry (cell l i) = g.grid.entry (cell l i))
    0 lines (fun line => transformLine length (cell line)) g (Nat.zero_le lines)
    ⟨hFits.grid, rfl, rfl, fun l _ hl => absurd hl (Nat.not_lt_zero l), fun _ _ _ _ _ => rfl⟩ ?_
  · obtain ⟨g', hRun, hGrid, hInput, hOutput, hDone, -⟩ := hLoop
    exact ⟨g', hRun, hGrid, hInput, hOutput, hDone⟩
  · rintro next g' - hNext ⟨hGrid, hInput, hOutput, hDone, hKept⟩
    obtain ⟨after, hRun, hGrid', hInput', hOutput', hLowest, hOther⟩ :=
      transformLine_spec (cell next) hLength
        ⟨hGrid, hInput.symm ▸ hFits.input, hOutput.symm ▸ hFits.output⟩
        (fun i hi => hCell next i hNext hi)
        fun i j hi hj h => (hInj next next i j hNext hNext hi hj h).2
    -- the cells of another line are not among those of this one
    have hLine : ∀ l i, l < lines → l ≠ next → i < length →
        after.grid.entry (cell l i) = g'.grid.entry (cell l i) := fun l i hl hNe hi =>
      hOther _ fun j hj h => hNe (hInj next l j i hNext hl hj hi h).1.symm
    refine ⟨after, hRun, hGrid', hInput'.trans hInput, hOutput'.trans hOutput,
      fun l i hl hi => ?_, fun l i hl hLines hi => ?_⟩
    · rcases Nat.eq_or_lt_of_le (Nat.le_of_lt_succ hl) with rfl | hLess
      · exact (hLowest i hi).congr fun p hp => hKept l p le_rfl hNext hp
      · rw [hLine l i (by omega) (by omega) hi]
        exact hDone l i hLess hi
    · rw [hLine l i hLines (by omega) hi]
      exact hKept l i (by omega) hLines hi

end Line

/-! ## The whole map -/

section Map

variable (costmap : Costmap2D)

/-- The squared distance between two cells. -/
def squaredDistance (x y x' y' : ℕ) : K :=
  ((x : K) - x') * (x - x') + ((y : K) - y') * (y - y')

/-- The cells before a cell are marked, and the others are far. -/
structure MarkedUpTo (far : K) (row column : ℕ) (grid : Vec K) : Prop where
  size : grid.size = costmap.sizeInCellsX * costmap.sizeInCellsY
  entry : ∀ x y, x < costmap.sizeInCellsX → y < costmap.sizeInCellsY →
    grid.entry (y * costmap.sizeInCellsX + x) =
      if (y < row ∨ y = row ∧ x < column) ∧ costmap.Blocked x y then 0 else far

variable {costmap}

omit [LinearOrder K] in
theorem MarkedUpTo.cell {far : K} {row column : ℕ} {grid : Vec K}
    (h : MarkedUpTo costmap far row column grid) (hRow : row < costmap.sizeInCellsY)
    (hColumn : column < costmap.sizeInCellsX) :
    ∃ grid', (if costmap.Blocked column row then
        grid.write (row * costmap.sizeInCellsX + column) 0 else some grid) = some grid' ∧
      MarkedUpTo costmap far row (column + 1) grid' := by
  split
  · rename_i hBlocked
    refine ⟨_, Vec.write_of_lt (h.size ▸ cell_lt hColumn hRow) 0, h.size, fun x y hx hy => ?_⟩
    dsimp only
    by_cases hSame : y * costmap.sizeInCellsX + x = row * costmap.sizeInCellsX + column
    · obtain ⟨rfl, rfl⟩ := cell_inj hx hColumn hSame
      rw [Function.update_self, if_pos ⟨Or.inr ⟨rfl, Nat.lt_succ_self x⟩, hBlocked⟩]
    · rw [Function.update_of_ne hSame, h.entry x y hx hy]
      refine if_congr (and_congr_left fun _ => ?_) rfl rfl
      have hOther : ¬ (y = row ∧ x = column) := by
        rintro ⟨rfl, rfl⟩
        exact hSame rfl
      omega
  · rename_i hFree
    refine ⟨grid, rfl, h.size, fun x y hx hy => ?_⟩
    rw [h.entry x y hx hy]
    refine if_congr (and_congr_left fun hBlocked => ?_) rfl rfl
    have hOther : ¬ (y = row ∧ x = column) := by
      rintro ⟨rfl, rfl⟩
      exact hFree hBlocked
    omega

omit [LinearOrder K] in
theorem MarkedUpTo.row {far : K} {row : ℕ} {grid : Vec K} (h : MarkedUpTo costmap far row 0 grid)
    (hRow : row < costmap.sizeInCellsY) :
    ∃ grid', ascendingM 0 costmap.sizeInCellsX (fun x grid =>
        if costmap.Blocked x row then grid.write (row * costmap.sizeInCellsX + x) 0
        else some grid) grid = some grid' ∧ MarkedUpTo costmap far (row + 1) 0 grid' := by
  obtain ⟨grid', hRun, hDone⟩ := ascendingM_invariant (P := MarkedUpTo costmap far row)
    (Nat.zero_le _) h fun column grid _ hColumn h => h.cell hRow hColumn
  refine ⟨grid', hRun, hDone.size, fun x y hx hy => (hDone.entry x y hx hy).trans ?_⟩
  refine if_congr (and_congr_left fun _ => ?_) rfl rfl
  omega

variable (costmap)

omit [LinearOrder K] in
/-- Blocked cells start with zero and free ones with the far value. -/
theorem markObstacles_spec (far : K) :
    ∃ grid, markObstacles costmap
        (.filled (costmap.sizeInCellsX * costmap.sizeInCellsY) far) = some grid ∧
      grid.size = costmap.sizeInCellsX * costmap.sizeInCellsY ∧
      ∀ x y, x < costmap.sizeInCellsX → y < costmap.sizeInCellsY →
        grid.entry (y * costmap.sizeInCellsX + x) = if costmap.Blocked x y then 0 else far := by
  have hStart : MarkedUpTo costmap far 0 0
      (.filled (costmap.sizeInCellsX * costmap.sizeInCellsY) far) :=
    ⟨rfl, fun x y _ _ => (if_neg fun h => absurd h.1 (by omega)).symm⟩
  obtain ⟨grid, hRun, hDone⟩ := ascendingM_invariant
    (P := fun row => MarkedUpTo costmap far row 0) (Nat.zero_le _) hStart
    fun row grid _ hRow h => h.row hRow
  refine ⟨grid, hRun, hDone.size, fun x y hx hy => (hDone.entry x y hx hy).trans ?_⟩
  exact if_congr (and_iff_right (Or.inl hy)) rfl rfl

variable [IsStrictOrderedRing K]

/-- No distance inside the map reaches the far value. -/
theorem squaredDistance_lt {width height x y x' y' : ℕ} (hx : x < width) (hy : y < height)
    (hx' : x' < width) (hy' : y' < height) :
    squaredDistance x y x' y' < (farValue width height : K) := by
  have hSide : ∀ {side a b : ℕ}, a < side → b < side →
      ((a : K) - b) * (a - b) < (side : K) * side := by
    intro side a b ha hb
    have hUp : (a : K) - b < side :=
      (sub_le_self _ (Nat.cast_nonneg b)).trans_lt (Nat.cast_lt.mpr ha)
    have hDown : (b : K) - a < side :=
      (sub_le_self _ (Nat.cast_nonneg a)).trans_lt (Nat.cast_lt.mpr hb)
    have hAbs : |(a : K) - b| < side := abs_lt.mpr ⟨by linarith, hUp⟩
    calc ((a : K) - b) * (a - b) = |(a : K) - b| * |(a : K) - b| := (abs_mul_abs_self _).symm
      _ < (side : K) * side := mul_self_lt_mul_self (abs_nonneg _) hAbs
  have hCross : (0 : K) ≤ width * height := by positivity
  unfold squaredDistance farValue
  calc ((x : K) - x') * (x - x') + ((y : K) - y') * (y - y')
      < (width : K) * width + height * height := add_lt_add (hSide hx hx') (hSide hy hy')
    _ ≤ ((width + height : ℕ) : K) * ((width + height : ℕ) : K) := by
        push_cast
        linarith

/-- Minima over the columns of minima over the rows are minima over the map. -/
theorem isLeast_map {width height : ℕ} (start rows : ℕ → ℕ → K) {x y : ℕ} {value : K}
    (hRows : ∀ y', y' < height → IsLowest width (fun x' => start x' y') x (rows x y'))
    (hValue : IsLowest height (fun y' => rows x y') y value) :
    IsLeast {v | ∃ x' y', x' < width ∧ y' < height ∧
      v = squaredDistance x y x' y' + start x' y'} value := by
  constructor
  · obtain ⟨y', hy', hEq⟩ := hValue.1
    obtain ⟨x', hx', hRow⟩ := (hRows y' hy').1
    refine ⟨x', y', hx', hy', ?_⟩
    dsimp only at hEq hRow
    rw [hEq, hRow]
    unfold squaredDistance
    ring
  · rintro v ⟨x', y', hx', hy', rfl⟩
    have hRow : rows x y' ≤ ((x : K) - x') * (x - x') + start x' y' :=
      (hRows y' hy').2 ⟨x', hx', rfl⟩
    have hColumn : value ≤ ((y : K) - y') * (y - y') + rows x y' := hValue.2 ⟨y', hy', rfl⟩
    unfold squaredDistance
    linarith

/-- The passes give every cell the least sum of a distance and the value of the cell there. -/
theorem clearanceGrid_isLeast :
    ∃ grid, clearanceGrid costmap = some grid ∧
      grid.size = costmap.sizeInCellsX * costmap.sizeInCellsY ∧
      ∀ x y, x < costmap.sizeInCellsX → y < costmap.sizeInCellsY →
        IsLeast {v : K | ∃ x' y', x' < costmap.sizeInCellsX ∧ y' < costmap.sizeInCellsY ∧
            v = squaredDistance x y x' y' + if costmap.Blocked x' y' then 0
              else farValue costmap.sizeInCellsX costmap.sizeInCellsY}
          (grid.entry (y * costmap.sizeInCellsX + x)) := by
  unfold clearanceGrid
  dsimp only
  by_cases hEmpty : costmap.sizeInCellsX = 0 ∨ costmap.sizeInCellsY = 0
  · rw [if_pos hEmpty]
    refine ⟨_, rfl, ?_, fun x y hx hy => absurd hEmpty (by omega)⟩
    exact (Nat.mul_eq_zero.mpr hEmpty).symm
  · have hWidth : 0 < costmap.sizeInCellsX := by omega
    have hHeight : 0 < costmap.sizeInCellsY := by omega
    obtain ⟨start, hMarks, hStartSize, hStart⟩ := markObstacles_spec costmap
      (farValue costmap.sizeInCellsX costmap.sizeInCellsY : K)
    let g : GridLines K :=
      { grid := start
        input := .filled (max costmap.sizeInCellsX costmap.sizeInCellsY) 0
        output := .filled (max costmap.sizeInCellsX costmap.sizeInCellsY) 0 }
    obtain ⟨g₁, hRows, hSize₁, hInput₁, hOutput₁, hLowest₁⟩ := transformLines_spec (g := g)
      (fun y x => y * costmap.sizeInCellsX + x) hWidth
      ⟨hStartSize, le_max_left _ _, le_max_left _ _⟩ (fun y x hy hx => cell_lt hx hy)
      fun y y' x x' _ _ hx hx' h => (cell_inj hx hx' h).symm
    obtain ⟨g₂, hColumns, hSize₂, -, -, hLowest₂⟩ := transformLines_spec (g := g₁)
      (fun x y => y * costmap.sizeInCellsX + x) hHeight
      ⟨hSize₁, hInput₁ ▸ le_max_right _ _, hOutput₁ ▸ le_max_right _ _⟩
      (fun x y hx hy => cell_lt hx hy) fun x x' y y' hx hx' _ _ h => cell_inj hx hx' h
    refine ⟨g₂.grid, ?_, hSize₂, fun x y hx hy => ?_⟩
    · rw [if_neg hEmpty]
      simp only [Option.bind_eq_bind]
      rw [hMarks, Option.bind_some]
      change (transformLines _ _ _ g).bind _ = _
      rw [hRows, Option.bind_some, hColumns]
      rfl
    · refine isLeast_map (fun x' y' => if costmap.Blocked x' y' then 0
          else farValue costmap.sizeInCellsX costmap.sizeInCellsY)
        (fun x y => g₁.grid.entry (y * costmap.sizeInCellsX + x)) (fun y' hy' => ?_)
        (hLowest₂ x y hx hy)
      exact (hLowest₁ y' x hy' hx).congr fun x' hx' => hStart x' y' hx' hy'

variable {costmap}

/-- Where a cell is blocked, free cells do not count. -/
theorem isLeast_blocked {x y : ℕ} {value : K} (hx : x < costmap.sizeInCellsX)
    (hy : y < costmap.sizeInCellsY)
    (h : IsLeast {v : K | ∃ x' y', x' < costmap.sizeInCellsX ∧ y' < costmap.sizeInCellsY ∧
      v = squaredDistance x y x' y' + if costmap.Blocked x' y' then 0
        else farValue costmap.sizeInCellsX costmap.sizeInCellsY} value)
    (hBlocked : ∃ x' y', x' < costmap.sizeInCellsX ∧ y' < costmap.sizeInCellsY ∧
      costmap.Blocked x' y') :
    IsLeast {v : K | ∃ x' y', x' < costmap.sizeInCellsX ∧ y' < costmap.sizeInCellsY ∧
      costmap.Blocked x' y' ∧ v = squaredDistance x y x' y'} value := by
  have hBound : ∀ x' y', x' < costmap.sizeInCellsX → y' < costmap.sizeInCellsY →
      costmap.Blocked x' y' → value ≤ squaredDistance x y x' y' := by
    intro x' y' hx' hy' hCell
    refine h.2 ⟨x', y', hx', hy', ?_⟩
    rw [if_pos hCell, add_zero]
  constructor
  · obtain ⟨x', y', hx', hy', hValue⟩ := h.1
    by_cases hCell : costmap.Blocked x' y'
    · rw [if_pos hCell, add_zero] at hValue
      exact ⟨x', y', hx', hy', hCell, hValue⟩
    · obtain ⟨bx, by', hbx, hby, hOther⟩ := hBlocked
      rw [if_neg hCell] at hValue
      have hNear := (hBound bx by' hbx hby hOther).trans_lt (squaredDistance_lt hx hy hbx hby)
      have hNonneg : (0 : K) ≤ squaredDistance x y x' y' :=
        add_nonneg (mul_self_nonneg _) (mul_self_nonneg _)
      exact absurd hNear (not_lt.mpr (hValue ▸ le_add_of_nonneg_left hNonneg))
  · rintro v ⟨x', y', hx', hy', hCell, rfl⟩
    exact hBound x' y' hx' hy' hCell

variable (costmap)

/-- The passes give every cell the exact squared distance to the nearest blocked cell, or at least
the far value on a map without one. -/
theorem clearanceGrid_spec :
    ∃ grid, clearanceGrid costmap = some grid ∧
      ∀ x y, x < costmap.sizeInCellsX → y < costmap.sizeInCellsY →
        ((∃ x' y', x' < costmap.sizeInCellsX ∧ y' < costmap.sizeInCellsY ∧
            costmap.Blocked x' y') →
          IsLeast {v : K | ∃ x' y', x' < costmap.sizeInCellsX ∧ y' < costmap.sizeInCellsY ∧
              costmap.Blocked x' y' ∧ v = squaredDistance x y x' y'}
            (grid.entry (y * costmap.sizeInCellsX + x))) ∧
        ((∀ x' y', x' < costmap.sizeInCellsX → y' < costmap.sizeInCellsY →
            ¬ costmap.Blocked x' y') →
          farValue costmap.sizeInCellsX costmap.sizeInCellsY ≤
            grid.entry (y * costmap.sizeInCellsX + x)) := by
  obtain ⟨grid, hRun, -, hLeast⟩ := clearanceGrid_isLeast (K := K) costmap
  refine ⟨grid, hRun, fun x y hx hy => ⟨isLeast_blocked hx hy (hLeast x y hx hy), ?_⟩⟩
  intro hFree
  obtain ⟨x', y', hx', hy', hValue⟩ := (hLeast x y hx hy).1
  rw [hValue, if_neg (hFree x' y' hx' hy')]
  exact le_add_of_nonneg_left (add_nonneg (mul_self_nonneg _) (mul_self_nonneg _))

end Map

/-! ## Both transforms -/

/-- The one-dimensional transform ends within bounds with the least values of the parabolas, and
the passes over a map give every cell its distance to the nearest obstacle. The first part is the
lower envelope of the parabolas (`distanceTransform1D_spec`); the second composes two such
transforms, over the rows and then over the columns (`clearanceGrid_spec`). -/
theorem distanceTransform_exact [IsStrictOrderedRing K] :
    (∀ input output : Vec K, 0 < input.size → input.size ≤ output.size →
      ∃ transformed, distanceTransform1D input output = some transformed ∧
        ∀ q, q < input.size →
          IsLeast {v | ∃ p, p < input.size ∧ v = ((q : K) - p) * (q - p) + input.entry p}
            (transformed.entry q)) ∧
    ∀ costmap : Costmap2D, ∃ grid : Vec K, clearanceGrid costmap = some grid ∧
      ∀ x y, x < costmap.sizeInCellsX → y < costmap.sizeInCellsY →
        ((∃ x' y', x' < costmap.sizeInCellsX ∧ y' < costmap.sizeInCellsY ∧
            costmap.Blocked x' y') →
          IsLeast {v : K | ∃ x' y', x' < costmap.sizeInCellsX ∧ y' < costmap.sizeInCellsY ∧
              costmap.Blocked x' y' ∧ v = squaredDistance x y x' y'}
            (grid.entry (y * costmap.sizeInCellsX + x))) ∧
        ((∀ x' y', x' < costmap.sizeInCellsX → y' < costmap.sizeInCellsY →
            ¬ costmap.Blocked x' y') →
          farValue costmap.sizeInCellsX costmap.sizeInCellsY ≤
            grid.entry (y * costmap.sizeInCellsX + x)) := by
  refine ⟨fun input output hInput hOutput => ?_, fun costmap => clearanceGrid_spec costmap⟩
  obtain ⟨transformed, hRun, -, hLeast, -⟩ := distanceTransform1D_spec input hInput hOutput
  exact ⟨transformed, hRun, hLeast⟩

/-- A lethal cell with a free one beside it. -/
def pairMap : Costmap2D := ⟨2, 1, fun x _ => if x = 0 then lethalObstacle else 0⟩

theorem distanceTransform_exact_pairMap :
    (∃ transformed,
      distanceTransform1D ⟨3, fun i => [4, 0, (9 : ℚ)].getD i 0⟩ (.filled 3 0) = some transformed ∧
        ∀ q : ℕ, q < 3 → IsLeast {v | ∃ p : ℕ, p < 3 ∧
          v = ((q : ℚ) - p) * (q - p) + [4, 0, (9 : ℚ)].getD p 0} (transformed.entry q)) ∧
    ∃ grid : Vec ℚ, clearanceGrid pairMap = some grid ∧
      IsLeast {v : ℚ | ∃ x' y', x' < 2 ∧ y' < 1 ∧ pairMap.Blocked x' y' ∧
        v = squaredDistance 1 0 x' y'} (grid.entry 1) := by
  constructor
  · exact (distanceTransform_exact (K := ℚ)).1 ⟨3, fun i => [4, 0, (9 : ℚ)].getD i 0⟩
      (.filled 3 0) (by decide) le_rfl
  · obtain ⟨grid, hRun, hNearest⟩ := (distanceTransform_exact (K := ℚ)).2 pairMap
    exact ⟨grid, hRun, (hNearest 1 0 (by decide) (by decide)).1
      ⟨0, 0, by decide, by decide, by decide⟩⟩

end PreRunner.Profile
