import Mathlib.Tactic.Positivity
import PreRunner.PyFloat
import PreRunner.Runs.Resampling

/-!
# Scans of a fixed cardinality

`rebin_scan` resamples a laser scan to a fixed number of bins for the map builder, following
`runner_bringup/scan_rebinner.py`. A ray that is dropped is an obstacle that is not seen, so the
result says which ray every bin holds.

The places come from `Runs.Resampling`, as does the invariant of the loop: a bin holds a ray that
comes to it, and none that comes to it is nearer by more than the tolerance of a tie. The angles
are exact here, so nothing is said about rays whose distances differ only by the rounding of a
double.
-/

namespace PreRunner.Bringup

open Runs

/-! ## The model -/

/-- `sensor_msgs/LaserScan`, with finite angles. -/
structure LaserScan where
  stampSec : ℤ := 0
  stampNanosec : ℕ := 0
  frameId : String := ""
  angleMin : ℚ := 0
  angleMax : ℚ := 0
  angleIncrement : ℚ := 0
  timeIncrement : PyFloat := .finite 0
  scanTime : PyFloat := .finite 0
  rangeMin : PyFloat := .finite 0
  rangeMax : PyFloat := .finite 0
  ranges : List PyFloat := []
  intensities : List PyFloat := []
  deriving DecidableEq, Repr

/-- `FULL_CIRCLE`, twice the double that is nearest to `π`. -/
def fullCircle : ℚ := 884279719003555 / 140737488355328

/-- `_nearest_integer`: halves upward. -/
def nearestInteger (value : ℚ) : ℤ := ⌊value + 1 / 2⌋

/-- `value / divisor`, for a positive divisor. -/
def dividedBy (value : PyFloat) (divisor : ℕ) : PyFloat :=
  match value with
  | .finite value => .finite (value / divisor)
  | value => value

/-- `selected_indices` and `selected_distances`; `none` is also the infinite distance. -/
structure BinSelection where
  indices : List (Option ℕ)
  distances : List (Option ℚ)

/-- The angle between two bins. -/
def binIncrement (bins : ℕ) : ℚ := fullCircle / (bins - 1 : ℕ)

/-- `target_index` of a ray. -/
def targetIndex (sourceCount bins sourceIndex : ℕ) : ℤ :=
  nearestInteger (sourceIndex * (bins - 1 : ℕ) / (sourceCount - 1 : ℕ))

/-- `distance` of a ray, from the angle of its bin. -/
def rayDistance (scan : LaserScan) (bins sourceIndex : ℕ) : ℚ :=
  |scan.angleMin + sourceIndex * scan.angleIncrement -
    targetIndex scan.ranges.length bins sourceIndex * binIncrement bins|

/-- `rel_tol` and `abs_tol`. -/
def tieTolerance : ℚ := 1 / 10 ^ 12

/-- The distance is less than the selected one and not tied with it. -/
def isNearer (distance : ℚ) : Option ℚ → Bool
  | none => true
  | some selected => distance < selected && !isclose tieTolerance tieTolerance distance selected

/-- The body of the loop over the rays. -/
def BinSelection.offer (scan : LaserScan) (bins : ℕ) (selection : BinSelection)
    (sourceIndex : ℕ) : BinSelection :=
  let target := (targetIndex scan.ranges.length bins sourceIndex).toNat
  let distance := rayDistance scan bins sourceIndex
  if isNearer distance (selection.distances.getD target none) then
    { indices := selection.indices.set target (some sourceIndex)
      distances := selection.distances.set target (some distance) }
  else selection

/-- The loop over the first rays. -/
def selectRays (scan : LaserScan) (bins count : ℕ) : BinSelection :=
  (List.range count).foldl (BinSelection.offer scan bins)
    { indices := List.replicate bins none, distances := List.replicate bins none }

/-- The ray that each bin holds. -/
def selectedIndices (scan : LaserScan) (bins : ℕ) : List (Option ℕ) :=
  (selectRays scan bins scan.ranges.length).indices

/-- The range of a bin. -/
def selectedRange (scan : LaserScan) : Option ℕ → PyFloat
  | none => .inf false
  | some sourceIndex => scan.ranges.getD sourceIndex (.inf false)

/-- The intensity of a bin. -/
def selectedIntensity (scan : LaserScan) : Option ℕ → PyFloat
  | none => .finite 0
  | some sourceIndex => scan.intensities.getD sourceIndex (.finite 0)

/-- `rebin_scan`. -/
def rebinScan (scan : LaserScan) (bins : ℕ) : Except String (Option LaserScan) :=
  if bins < 2 then .error "bins must be at least 2"
  else if scan.ranges.length < 2 then .ok none
  else
    let output : LaserScan :=
      { stampSec := scan.stampSec
        stampNanosec := scan.stampNanosec
        frameId := scan.frameId
        angleMin := 0
        angleMax := fullCircle
        angleIncrement := binIncrement bins
        scanTime := scan.scanTime
        timeIncrement := dividedBy scan.scanTime (bins - 1)
        rangeMin := scan.rangeMin
        rangeMax := scan.rangeMax }
    if scan.ranges.length = bins then
      .ok (some { output with
        ranges := scan.ranges
        intensities := (List.range bins).map fun index => scan.intensities.getD index (.finite 0) })
    else
      .ok (some { output with
        ranges := (selectedIndices scan bins).map (selectedRange scan)
        intensities := (selectedIndices scan bins).map (selectedIntensity scan) })

/-! ## The bins of the rays -/

variable {scan : LaserScan} {bins sourceIndex : ℕ}

theorem targetIndex_eq (sourceCount bins sourceIndex : ℕ) :
    targetIndex sourceCount bins sourceIndex =
      nearestPlace (bins - 1) (sourceCount - 1) sourceIndex := rfl

theorem targetIndex_le (hRanges : 2 ≤ scan.ranges.length)
    (hSource : sourceIndex < scan.ranges.length) :
    targetIndex scan.ranges.length bins sourceIndex ≤ (bins - 1 : ℕ) :=
  nearestPlace_le (by omega) (by omega)

theorem targetIndex_toNat (sourceCount bins sourceIndex : ℕ) :
    ((targetIndex sourceCount bins sourceIndex).toNat : ℤ) =
      targetIndex sourceCount bins sourceIndex := Int.toNat_of_nonneg nearestPlace_nonneg

/-! ## The loop over the rays -/

/-- What a bin holds after the first rays. -/
def heldBy (scan : LaserScan) (bins bin count : ℕ) : Option ℕ :=
  keptPoint tieTolerance tieTolerance
    (fun sourceIndex => (targetIndex scan.ranges.length bins sourceIndex).toNat)
    (rayDistance scan bins) bin count

theorem selectRays_succ (count : ℕ) :
    selectRays scan bins (count + 1) = (selectRays scan bins count).offer scan bins count := by
  unfold selectRays
  rw [List.range_succ, List.foldl_append]
  rfl

/-- The two lists of the loop, bin by bin. -/
theorem selectRays_bin {bin : ℕ} (hBin : bin < bins) (count : ℕ) :
    (selectRays scan bins count).indices[bin]? = some (heldBy scan bins bin count) ∧
      (selectRays scan bins count).distances[bin]? =
        some ((heldBy scan bins bin count).map (rayDistance scan bins)) := by
  induction count with
  | zero =>
    have hReplicate : ∀ {α : Type} (value : α), (List.replicate bins value)[bin]? = some value :=
      fun value => by rw [List.getElem?_replicate, if_pos hBin]
    exact ⟨hReplicate none, hReplicate none⟩
  | succ count ih =>
    obtain ⟨hIndices, hDistances⟩ := ih
    have hIndicesLt : bin < (selectRays scan bins count).indices.length :=
      (List.getElem?_eq_some_iff.mp hIndices).1
    have hDistancesLt : bin < (selectRays scan bins count).distances.length :=
      (List.getElem?_eq_some_iff.mp hDistances).1
    rw [selectRays_succ]
    unfold BinSelection.offer heldBy
    dsimp only
    rw [keptPoint]
    by_cases hHere : (targetIndex scan.ranges.length bins count).toNat = bin
    · rw [if_pos hHere, hHere, List.getD_eq_getElem?_getD, hDistances, Option.getD_some]
      unfold heldBy at hIndices hDistances ⊢
      generalize keptPoint _ _ _ _ bin count = held at hIndices hDistances ⊢
      cases held with
      | none =>
        rw [Option.map_none, isNearer, if_pos rfl]
        exact ⟨List.getElem?_set_self hIndicesLt, List.getElem?_set_self hDistancesLt⟩
      | some point =>
        rw [Option.map_some, isNearer]
        dsimp only
        split
        · exact ⟨List.getElem?_set_self hIndicesLt, List.getElem?_set_self hDistancesLt⟩
        · exact ⟨hIndices, hDistances⟩
    · rw [if_neg hHere]
      split
      · exact ⟨(List.getElem?_set_ne hHere).trans hIndices,
          (List.getElem?_set_ne hHere).trans hDistances⟩
      · exact ⟨hIndices, hDistances⟩

theorem length_selectedIndices : (selectedIndices scan bins).length = bins := by
  unfold selectedIndices
  generalize scan.ranges.length = count
  induction count with
  | zero => exact List.length_replicate
  | succ count ih =>
    rw [selectRays_succ]
    unfold BinSelection.offer
    dsimp only
    split
    · rw [List.length_set]
      exact ih
    · exact ih

/-! ## What the bins hold -/

theorem selectedIndices_bin {bin : ℕ} (hBin : bin < bins) :
    (selectedIndices scan bins)[bin]? = some (heldBy scan bins bin scan.ranges.length) :=
  (selectRays_bin hBin _).1

theorem bin_lt_of_selected {bin : ℕ} {held : Option ℕ}
    (h : (selectedIndices scan bins)[bin]? = some held) : bin < bins := by
  have hLt := (List.getElem?_eq_some_iff.mp h).1
  rwa [length_selectedIndices] at hLt

/-- A bin holds the nearest of the rays that come to it, up to a tie. -/
theorem selected_spec {bin : ℕ}
    (h : (selectedIndices scan bins)[bin]? = some (some sourceIndex)) :
    sourceIndex < scan.ranges.length ∧
      targetIndex scan.ranges.length bins sourceIndex = bin ∧
      ∀ other < scan.ranges.length, targetIndex scan.ranges.length bins other = bin →
        rayDistance scan bins sourceIndex ≤ rayDistance scan bins other +
          closeness tieTolerance tieTolerance (rayDistance scan bins sourceIndex)
            (rayDistance scan bins other) := by
  rw [selectedIndices_bin (bin_lt_of_selected h)] at h
  have hTolerance : 0 ≤ tieTolerance := by norm_num [tieTolerance]
  obtain ⟨hLt, hTarget, hBest⟩ :=
    keptPoint_spec hTolerance (fun other => abs_nonneg _) (Option.some.inj h)
  refine ⟨hLt, ?_, fun other hOther hSame => hBest other hOther ?_⟩
  · rw [← targetIndex_toNat]
    exact congrArg _ hTarget
  · rw [hSame]
    rfl

/-- A bin that a ray comes to is filled. -/
theorem filled_of_target {bin : ℕ} (hBin : bin < bins) (hSource : sourceIndex < scan.ranges.length)
    (hTarget : targetIndex scan.ranges.length bins sourceIndex = bin) :
    ∃ held, (selectedIndices scan bins)[bin]? = some (some held) := by
  have hPlace : (targetIndex scan.ranges.length bins sourceIndex).toNat = bin := by
    rw [hTarget]
    rfl
  obtain ⟨held, hHeld⟩ : ∃ held, heldBy scan bins bin scan.ranges.length = some held :=
    keptPoint_isSome hSource hPlace
  exact ⟨held, (selectedIndices_bin hBin).trans (congrArg some hHeld)⟩

theorem targetIndex_strictMono {other : ℕ} (hRanges : 2 ≤ scan.ranges.length)
    (hFew : scan.ranges.length ≤ bins) (h : sourceIndex < other) :
    targetIndex scan.ranges.length bins sourceIndex < targetIndex scan.ranges.length bins other :=
  nearestPlace_strictMono (by omega) (by omega) h

/-- The rays of the bins are in order. -/
theorem selected_lt {bin later held next : ℕ}
    (hBin : (selectedIndices scan bins)[bin]? = some (some held))
    (hLater : (selectedIndices scan bins)[later]? = some (some next)) (h : bin < later) :
    held < next := by
  by_contra hNot
  have hMono : targetIndex scan.ranges.length bins next ≤
    targetIndex scan.ranges.length bins held :=
    nearestPlace_mono (not_lt.mp hNot)
  rw [(selected_spec hBin).2.1, (selected_spec hLater).2.1] at hMono
  omega

/-- With no more rays than bins, every ray has a bin of its own. -/
theorem existsUnique_bin (hRanges : 2 ≤ scan.ranges.length) (hFew : scan.ranges.length ≤ bins)
    (hSource : sourceIndex < scan.ranges.length) :
    ∃! bin : ℕ, (selectedIndices scan bins)[bin]? = some (some sourceIndex) := by
  have hTarget := targetIndex_toNat scan.ranges.length bins sourceIndex
  have hLe := @targetIndex_le scan bins sourceIndex hRanges hSource
  have hBin : (targetIndex scan.ranges.length bins sourceIndex).toNat < bins := by omega
  refine ⟨(targetIndex scan.ranges.length bins sourceIndex).toNat, ?_, fun bin hHeld => ?_⟩
  · obtain ⟨held, hHeld⟩ := filled_of_target hBin hSource hTarget.symm
    have hSame : targetIndex scan.ranges.length bins held =
        targetIndex scan.ranges.length bins sourceIndex :=
      (selected_spec hHeld).2.1.trans hTarget
    rcases lt_trichotomy held sourceIndex with hLt | rfl | hGt
    · exact absurd hSame (targetIndex_strictMono hRanges hFew hLt).ne
    · exact hHeld
    · exact absurd hSame (targetIndex_strictMono hRanges hFew hGt).ne'
  · have hAt := (selected_spec hHeld).2.1
    omega

/-- With no fewer rays than bins, every bin is filled. -/
theorem filled_of_many (hBins : 2 ≤ bins) (hMany : bins ≤ scan.ranges.length) {bin : ℕ}
    (hBin : bin < bins) : ∃ held, (selectedIndices scan bins)[bin]? = some (some held) := by
  obtain ⟨source, hSource, hTarget⟩ :=
    @exists_nearestPlace_eq (bins - 1) (scan.ranges.length - 1) (by omega) (by omega) bin
      (by omega)
  have hLt : source < scan.ranges.length := by omega
  exact filled_of_target hBin hLt hTarget

/-- With as many rays as bins, every bin holds its own ray. -/
theorem selectedIndices_eq_range (hBins : 2 ≤ bins) (hSame : scan.ranges.length = bins) :
    selectedIndices scan bins = (List.range bins).map some := by
  refine List.ext_getElem? fun bin => ?_
  by_cases hBin : bin < bins
  · obtain ⟨held, hHeld⟩ := filled_of_many hBins hSame.ge hBin
    have hTarget := (selected_spec hHeld).2.1
    rw [targetIndex_eq, hSame, nearestPlace_self (by omega)] at hTarget
    obtain rfl : held = bin := by exact_mod_cast hTarget
    rw [hHeld, List.getElem?_map, List.getElem?_range hBin]
    rfl
  · rw [List.getElem?_eq_none (by rw [length_selectedIndices]; omega),
      List.getElem?_eq_none (by rw [List.length_map, List.length_range]; omega)]

theorem map_selectedRange_range (scan : LaserScan) :
    ((List.range scan.ranges.length).map some).map (selectedRange scan) = scan.ranges := by
  refine List.ext_getElem (by simp) fun index hIndex hRange => ?_
  simp [selectedRange, hRange]

/-! ## The rebinned scan -/

/-- In every case the output is what the selection says. -/
theorem rebinScan_output (hBins : 2 ≤ bins) (hRanges : 2 ≤ scan.ranges.length) :
    ∃ output, rebinScan scan bins = .ok (some output) ∧
      output.ranges = (selectedIndices scan bins).map (selectedRange scan) ∧
      output.intensities = (selectedIndices scan bins).map (selectedIntensity scan) := by
  unfold rebinScan
  rw [if_neg (not_lt.mpr hBins), if_neg (not_lt.mpr hRanges)]
  dsimp only
  by_cases hSame : scan.ranges.length = bins
  · rw [if_pos hSame, selectedIndices_eq_range hBins hSame]
    refine ⟨_, rfl, ?_, ?_⟩
    · rw [← hSame, map_selectedRange_range]
    · rw [List.map_map]
      rfl
  · rw [if_neg hSame]
    exact ⟨_, rfl, rfl, rfl⟩

/-- Every ray comes to a bin, the rays of the bins are in order, no ray is lost when there are bins
enough, no bin is empty when there are rays enough, and every bin holds the nearest ray that comes
to it. The place of a ray is monotone in its index, which gives the order and the two counts;
`selected_spec` is the invariant of the loop that keeps the nearest ray. -/
theorem rebin_scan (scan : LaserScan) {bins : ℕ} (hBins : 2 ≤ bins)
    (hRanges : 2 ≤ scan.ranges.length) :
    (∀ sourceIndex < scan.ranges.length,
      0 ≤ targetIndex scan.ranges.length bins sourceIndex ∧
        targetIndex scan.ranges.length bins sourceIndex ≤ (bins - 1 : ℕ)) ∧
    (selectedIndices scan bins).length = bins ∧
    (∀ bin later held next : ℕ, bin < later →
      (selectedIndices scan bins)[bin]? = some (some held) →
      (selectedIndices scan bins)[later]? = some (some next) → held < next) ∧
    (scan.ranges.length ≤ bins → ∀ sourceIndex < scan.ranges.length,
      ∃! bin : ℕ, (selectedIndices scan bins)[bin]? = some (some sourceIndex)) ∧
    (bins ≤ scan.ranges.length → ∀ bin < bins,
      ∃ held, (selectedIndices scan bins)[bin]? = some (some held)) ∧
    (∀ bin sourceIndex : ℕ, (selectedIndices scan bins)[bin]? = some (some sourceIndex) →
      sourceIndex < scan.ranges.length ∧
        targetIndex scan.ranges.length bins sourceIndex = bin ∧
        ∀ other < scan.ranges.length, targetIndex scan.ranges.length bins other = bin →
          rayDistance scan bins sourceIndex ≤ rayDistance scan bins other +
            closeness tieTolerance tieTolerance (rayDistance scan bins sourceIndex)
              (rayDistance scan bins other)) ∧
    ∃ output, rebinScan scan bins = .ok (some output) ∧
      output.ranges = (selectedIndices scan bins).map (selectedRange scan) ∧
      output.intensities = (selectedIndices scan bins).map (selectedIntensity scan) ∧
      (scan.ranges.length = bins → output.ranges = scan.ranges) := by
  obtain ⟨output, hOutput, hOutputRanges, hIntensities⟩ := rebinScan_output hBins hRanges
  refine ⟨fun sourceIndex hSource => ⟨nearestPlace_nonneg, targetIndex_le hRanges hSource⟩,
    length_selectedIndices, fun bin later held next h hBin hLater => selected_lt hBin hLater h,
    fun hFew sourceIndex hSource => existsUnique_bin hRanges hFew hSource,
    fun hMany bin hBin => filled_of_many hBins hMany hBin,
    fun bin sourceIndex hHeld => selected_spec hHeld, output, hOutput, hOutputRanges, hIntensities,
    fun hSame => ?_⟩
  rw [hOutputRanges, selectedIndices_eq_range hBins hSame, ← hSame, map_selectedRange_range]

/-- Four rays, of which the middle two are equally far from the middle one of three bins. -/
def tiedScan : LaserScan where
  angleIncrement := fullCircle / 3
  ranges := [.finite 4, .finite 3, .finite 2, .finite 1]

theorem tiedScan_targets :
    targetIndex 4 3 0 = 0 ∧ targetIndex 4 3 1 = 1 ∧ targetIndex 4 3 2 = 1 ∧
      targetIndex 4 3 3 = 2 := by
  refine ⟨?_, ?_, ?_, ?_⟩ <;>
    exact Int.floor_eq_iff.mpr ⟨by norm_num, by norm_num⟩

/-- Only the middle bin is shared. -/
theorem tiedScan_rays {bin sourceIndex : ℕ}
    (h : sourceIndex < 4 ∧ targetIndex 4 3 sourceIndex = bin) :
    (bin = 0 → sourceIndex = 0) ∧ (bin = 1 → sourceIndex = 1 ∨ sourceIndex = 2) ∧
      (bin = 2 → sourceIndex = 3) := by
  obtain ⟨hSource, hTarget⟩ := h
  obtain ⟨hZero, hOne, hTwo, hThree⟩ := tiedScan_targets
  rcases (by omega : sourceIndex = 0 ∨ sourceIndex = 1 ∨ sourceIndex = 2 ∨ sourceIndex = 3) with
    rfl | rfl | rfl | rfl <;> omega

theorem tiedScan_tie : rayDistance tiedScan 3 1 = rayDistance tiedScan 3 2 := by
  have hLength : tiedScan.ranges.length = 4 := rfl
  have hIncrement : tiedScan.angleIncrement = fullCircle / 3 := rfl
  have hMin : tiedScan.angleMin = 0 := rfl
  unfold rayDistance
  rw [hLength, tiedScan_targets.2.1, tiedScan_targets.2.2.1, hIncrement, hMin, binIncrement,
    ← abs_neg]
  congr 1
  push_cast
  ring

/-- Every bin of the scan is filled, the outer rays keep theirs, and the middle bin holds one of the
two rays that tie. -/
theorem rebin_scan_tied :
    ∃ held, selectedIndices tiedScan 3 = [some 0, some held, some 3] ∧ (held = 1 ∨ held = 2) ∧
      rayDistance tiedScan 3 1 = rayDistance tiedScan 3 2 ∧
      ∃ output, rebinScan tiedScan 3 = .ok (some output) ∧
        output.ranges = [.finite 4, tiedScan.ranges.getD held (.inf false), .finite 1] := by
  obtain ⟨-, hLength, -, -, hFilled, hHolds, output, hOutput, hRanges, -⟩ :=
    @rebin_scan tiedScan 3 (by decide) (by decide)
  obtain ⟨first, middle, last, hSelected⟩ := List.length_eq_three.mp hLength
  rw [hSelected] at hFilled hHolds
  obtain ⟨ray, hRay⟩ := hFilled (by decide) 0 (by decide)
  obtain ⟨held, hHeld⟩ := hFilled (by decide) 1 (by decide)
  obtain ⟨opposite, hOpposite⟩ := hFilled (by decide) 2 (by decide)
  have hPlace : ∀ bin sourceIndex : ℕ, [first, middle, last][bin]? = some (some sourceIndex) →
      sourceIndex < 4 ∧ targetIndex 4 3 sourceIndex = bin :=
    fun bin sourceIndex h => ⟨(hHolds bin sourceIndex h).1, (hHolds bin sourceIndex h).2.1⟩
  have hFirst : ray = 0 := (tiedScan_rays (hPlace 0 ray hRay)).1 rfl
  have hMiddle : held = 1 ∨ held = 2 := (tiedScan_rays (hPlace 1 held hHeld)).2.1 rfl
  have hLast : opposite = 3 := (tiedScan_rays (hPlace 2 opposite hOpposite)).2.2 rfl
  have hAll : selectedIndices tiedScan 3 = [some 0, some held, some 3] := by
    rw [hSelected, ← hFirst, ← hLast, Option.some.inj hRay, Option.some.inj hHeld,
      Option.some.inj hOpposite]
  refine ⟨held, hAll, hMiddle, tiedScan_tie, output, hOutput, ?_⟩
  rw [hRanges, hAll]
  rfl

end PreRunner.Bringup
