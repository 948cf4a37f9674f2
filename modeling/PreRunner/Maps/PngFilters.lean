import Mathlib.Data.List.MinMax
import PreRunner.Maps.PngRoundTrip
import PreRunner.Runs.Program

/-!
# The PNG filters

A PNG encoder may filter every row in one of five ways: it subtracts from each byte a prediction
that is made of the bytes to the left, above and above left. The decoder inverts any choice of
filters, rejects every other filter byte, and loses nothing: what it accepts is the filtered form
of what it returns.
-/

namespace PreRunner.Maps

open Runs

/-! ## The forward filters -/

/-- The filter types of the PNG specification. -/
inductive FilterType where
  | none
  | sub
  | up
  | average
  | paeth
  deriving DecidableEq, Repr

namespace FilterType

/-- The byte that a row starts with. -/
def byte : FilterType → UInt8
  | none => 0
  | sub => 1
  | up => 2
  | average => 3
  | paeth => 4

/-- Of the bytes to the left, above and above left, the first that is nearest to `a + b - c`. -/
def paethPredictor (a b c : UInt8) : UInt8 :=
  (([a, b, c].argmin fun v : UInt8 =>
    ((a.toNat : ℤ) + b.toNat - c.toNat - v.toNat).natAbs).getD 0)

def prediction (a b c : UInt8) : FilterType → UInt8
  | none => 0
  | sub => a
  | up => b
  | average => UInt8.ofNat ((a.toNat + b.toNat) / 2)
  | paeth => paethPredictor a b c

end FilterType

/-- A filtered row; before its first byte and above the first row there are zeros. -/
def filterLine (filter : FilterType) (above line : Bytes) : Bytes :=
  (List.range line.length).map fun i =>
    line.getD i 0 -
      filter.prediction ((0 :: line).getD i 0) (above.getD i 0) ((0 :: above).getD i 0)

/-- The rows that are left, each after its filter byte. -/
def filterRows : List FilterType → List Bytes → Bytes → Bytes
  | filter :: filters, line :: lines, above =>
    filter.byte :: filterLine filter above line ++ filterRows filters lines line
  | _, _, _ => []

/-- An image, filtered with one choice for every row. -/
def filterImage (filters : List FilterType) (width : ℕ) (pixels : Bytes) : Bytes :=
  filterRows filters (rows width filters.length pixels) (List.replicate width 0)

/-- The filter byte of a row. -/
def filterByte (raw : Bytes) (width row : ℕ) : UInt8 := raw.getD (row * (1 + width)) 0

/-! ## Predictions -/

/-- The comparisons of `_paeth` choose the first of the nearest bytes. -/
theorem paeth_eq (a b c : UInt8) :
    UInt8.ofNat (paeth a.toNat b.toNat c.toNat).toNat = FilterType.paethPredictor a b c := by
  have hByte : ∀ v : UInt8, UInt8.ofNat ((v.toNat : ℤ)).toNat = v := fun v => by
    rw [Int.toNat_natCast, UInt8.ofNat_toNat]
  unfold paeth FilterType.paethPredictor
  dsimp only
  simp only [List.argmin, List.foldl, List.argAux]
  by_cases hUp : ((a.toNat : ℤ) + b.toNat - c.toNat - b.toNat).natAbs <
      ((a.toNat : ℤ) + b.toNat - c.toNat - a.toNat).natAbs
  · rw [if_pos hUp, if_neg (by omega)]
    by_cases hCorner : ((a.toNat : ℤ) + b.toNat - c.toNat - c.toNat).natAbs <
        ((a.toNat : ℤ) + b.toNat - c.toNat - b.toNat).natAbs
    · rw [if_neg (by omega), hByte]
      dsimp only
      rw [if_pos hCorner]
      rfl
    · rw [if_pos (by omega), hByte]
      dsimp only
      rw [if_neg hCorner]
      rfl
  · rw [if_neg hUp]
    by_cases hCorner : ((a.toNat : ℤ) + b.toNat - c.toNat - c.toNat).natAbs <
        ((a.toNat : ℤ) + b.toNat - c.toNat - a.toNat).natAbs
    · rw [if_neg (by omega), if_neg (by omega), hByte]
      dsimp only
      rw [if_pos hCorner]
      rfl
    · rw [if_pos (by omega), hByte]
      dsimp only
      rw [if_neg hCorner]
      rfl

theorem predictor_byte (filter : FilterType) (a b c : UInt8) :
    predictor filter.byte a b c = filter.prediction a b c := by
  cases filter with
  | none => rfl
  | sub => rfl
  | up => rfl
  | average => rfl
  | paeth => exact paeth_eq a b c

theorem exists_byte {b : UInt8} (h : b ≤ 4) : ∃ filter : FilterType, filter.byte = b := by
  have hCases : b = 0 ∨ b = 1 ∨ b = 2 ∨ b = 3 ∨ b = 4 := by
    have hNat : b.toNat ≤ 4 := h
    simp only [← UInt8.toNat_inj]
    change b.toNat = 0 ∨ b.toNat = 1 ∨ b.toNat = 2 ∨ b.toNat = 3 ∨ b.toNat = 4
    omega
  rcases hCases with rfl | rfl | rfl | rfl | rfl
  · exact ⟨.none, rfl⟩
  · exact ⟨.sub, rfl⟩
  · exact ⟨.up, rfl⟩
  · exact ⟨.average, rfl⟩
  · exact ⟨.paeth, rfl⟩

theorem byte_le (filter : FilterType) : filter.byte ≤ 4 := by
  cases filter <;> decide

/-! ## One row -/

/-- The filter of a row, from the bytes before it. -/
def filterFrom (filter : FilterType) (a c : UInt8) : Bytes → Bytes → Bytes
  | [], _ => []
  | y :: line, above =>
    let b := above.headD 0
    (y - filter.prediction a b c) :: filterFrom filter y b line above.tail

theorem getD_headD_tail (above : Bytes) (i : ℕ) :
    (above.headD 0 :: above.tail).getD i 0 = above.getD i 0 := by
  cases above with
  | nil =>
    cases i with
    | zero => rfl
    | succ i => rfl
  | cons b above => rfl

theorem filterFrom_eq (filter : FilterType) (a c : UInt8) (line above : Bytes) :
    filterFrom filter a c line above = (List.range line.length).map fun i =>
      line.getD i 0 -
        filter.prediction ((a :: line).getD i 0) (above.getD i 0) ((c :: above).getD i 0) := by
  induction line generalizing a c above with
  | nil => rfl
  | cons y line ih =>
    unfold filterFrom
    dsimp only
    rw [ih, List.length_cons, List.range_succ_eq_map, List.map_cons, List.map_map]
    refine congrArg₂ List.cons ?_ (List.map_congr_left fun i _ => ?_)
    · cases above <;> rfl
    · have hAbove : above.tail.getD i 0 = above.getD (i + 1) 0 := by
        cases above <;> rfl
      rw [getD_headD_tail, hAbove]
      rfl

theorem filterLine_eq (filter : FilterType) (above line : Bytes) :
    filterLine filter above line = filterFrom filter 0 0 line above :=
  (filterFrom_eq filter 0 0 line above).symm

/-- The decoder adds what the filter has subtracted. -/
theorem unfilterLine_filterFrom (filter : FilterType) (a c : UInt8) (line above : Bytes) :
    unfilterLine filter.byte a c (filterFrom filter a c line above) above = line := by
  induction line generalizing a c above with
  | nil => rfl
  | cons y line ih =>
    unfold filterFrom unfilterLine
    dsimp only
    rw [predictor_byte, UInt8.sub_add_cancel, ih]

theorem filterFrom_unfilterLine (filter : FilterType) (a c : UInt8) (line above : Bytes) :
    filterFrom filter a c (unfilterLine filter.byte a c line above) above = line := by
  induction line generalizing a c above with
  | nil => rfl
  | cons x line ih =>
    unfold unfilterLine filterFrom
    dsimp only
    rw [predictor_byte, UInt8.add_sub_cancel, ih]

theorem length_filterLine (filter : FilterType) (above line : Bytes) :
    (filterLine filter above line).length = line.length := by
  unfold filterLine
  rw [List.length_map, List.length_range]

/-! ## All rows -/

/-- The decoder takes a filter byte and a row. -/
theorem unfilterRows_succ {width : ℕ} {line : Bytes} (hLine : line.length = width) (height : ℕ)
    (above : Bytes) (b : UInt8) (rest : Bytes) :
    unfilterRows width (height + 1) above (b :: (line ++ rest)) =
      if 4 < b then .error (.filter b)
      else do
        return unfilterLine b 0 0 line above ++
          (← unfilterRows width height (unfilterLine b 0 0 line above) rest) := by
  have hDrop : (b :: (line ++ rest)).drop (1 + width) = rest := by
    rw [Nat.add_comm, List.drop_succ_cons, List.drop_left' hLine]
  have hTake : ((b :: (line ++ rest)).drop 1).take width = line := List.take_left' hLine
  conv_lhs => unfold unfilterRows
  dsimp only
  rw [hDrop, hTake]
  rfl

/-- Bytes for one row more begin with a filter byte and that row. -/
theorem exists_row {width height : ℕ} {raw : Bytes}
    (hRaw : raw.length = (height + 1) * (1 + width)) :
    ∃ b line rest, raw = b :: (line ++ rest) ∧ line.length = width ∧
      rest.length = height * (1 + width) := by
  rw [Nat.succ_mul] at hRaw
  obtain ⟨b, raw, rfl⟩ := List.exists_cons_of_length_pos (show 0 < raw.length by omega)
  rw [List.length_cons] at hRaw
  refine ⟨b, raw.take width, raw.drop width, by rw [List.take_append_drop], ?_, ?_⟩
  · rw [List.length_take]
    omega
  · rw [List.length_drop]
    omega

theorem filterByte_zero (width : ℕ) (b : UInt8) (rest : Bytes) :
    filterByte (b :: rest) width 0 = b := by
  unfold filterByte
  rw [Nat.zero_mul]
  rfl

theorem filterByte_succ {width : ℕ} {line : Bytes} (hLine : line.length = width) (b : UInt8)
    (rest : Bytes) (row : ℕ) :
    filterByte (b :: (line ++ rest)) width (row + 1) = filterByte rest width row := by
  have hIndex : (row + 1) * (1 + width) = line.length + row * (1 + width) + 1 := by
    rw [hLine, Nat.succ_mul]
    omega
  unfold filterByte
  rw [hIndex, List.getD_cons_succ, List.getD_eq_getElem?_getD, List.getD_eq_getElem?_getD,
    List.getElem?_append_right (Nat.le_add_right _ _), Nat.add_sub_cancel_left]

/-- The decoder inverts any choice of filters. -/
theorem unfilterRows_filterRows {width : ℕ} {filters : List FilterType} {lines : List Bytes}
    (hLength : filters.length = lines.length) (hWidth : ∀ line ∈ lines, line.length = width)
    (above : Bytes) :
    unfilterRows width lines.length above (filterRows filters lines above) = .ok lines.flatten := by
  induction lines generalizing filters above with
  | nil => rfl
  | cons line lines ih =>
    obtain ⟨filter, filters, rfl⟩ := List.exists_cons_of_length_eq_add_one hLength
    have hIh := ih (Nat.succ.inj hLength)
      (fun other hOther => hWidth other (List.mem_cons_of_mem _ hOther)) line
    have hFiltered : (filterLine filter above line).length = width :=
      (length_filterLine filter above line).trans (hWidth line List.mem_cons_self)
    unfold filterRows
    rw [List.cons_append, List.length_cons, unfilterRows_succ hFiltered,
      if_neg (UInt8.not_lt.mpr (byte_le filter)), filterLine_eq, unfilterLine_filterFrom, hIh]
    rfl

/-- What the decoder accepts is the filtered form of what it returns. -/
theorem filterRows_unfilterRows {width height : ℕ} {above raw pixels : Bytes}
    (hRaw : raw.length = height * (1 + width))
    (h : unfilterRows width height above raw = .ok pixels) :
    ∃ filters : List FilterType, filters.length = height ∧
      (∀ row, row < height → (filters.map FilterType.byte).getD row 0 = filterByte raw width row) ∧
      filterRows filters (rows width height pixels) above = raw := by
  induction height generalizing above raw pixels with
  | zero =>
    rw [Nat.zero_mul] at hRaw
    refine ⟨[], rfl, fun row hRow => absurd hRow (Nat.not_lt_zero row), ?_⟩
    rw [List.eq_nil_of_length_eq_zero hRaw]
    rfl
  | succ height ih =>
    obtain ⟨b, line, rest, rfl, hLine, hRest⟩ := exists_row hRaw
    rw [unfilterRows_succ hLine] at h
    by_cases hBad : 4 < b
    · rw [if_pos hBad] at h
      exact nomatch h
    · rw [if_neg hBad] at h
      obtain ⟨filter, rfl⟩ := exists_byte (UInt8.not_lt.mp hBad)
      obtain ⟨others, hOthers, h⟩ := ok_of_bind h
      cases h
      obtain ⟨filters, hFilters, hBytes, hSame⟩ := ih hRest hOthers
      have hRestored : (unfilterLine filter.byte 0 0 line above).length = width :=
        (length_unfilterLine _ _ _ _ _).trans hLine
      refine ⟨filter :: filters, congrArg Nat.succ hFilters, fun row hRow => ?_, ?_⟩
      · cases row with
        | zero => exact (filterByte_zero width _ _).symm
        | succ row =>
          rw [filterByte_succ hLine]
          exact hBytes row (Nat.lt_of_succ_lt_succ hRow)
      · unfold rows filterRows
        rw [List.take_left' hRestored, List.drop_left' hRestored, hSame, filterLine_eq,
          filterFrom_unfilterLine]
        rfl

/-- Another filter byte in some row is an error. -/
theorem unfilterRows_bad {width height : ℕ} {raw : Bytes} (hRaw : raw.length = height * (1 + width))
    {row : ℕ} (hRow : row < height) (hBad : 4 < filterByte raw width row) (above : Bytes) :
    ∃ b, unfilterRows width height above raw = .error (.filter b) := by
  induction height generalizing above raw row with
  | zero => exact absurd hRow (Nat.not_lt_zero row)
  | succ height ih =>
    obtain ⟨b, line, rest, rfl, hLine, hRest⟩ := exists_row hRaw
    rw [unfilterRows_succ hLine]
    by_cases hFirst : 4 < b
    · exact ⟨b, if_pos hFirst⟩
    · rw [if_neg hFirst]
      cases row with
      | zero =>
        rw [filterByte_zero] at hBad
        exact absurd hBad hFirst
      | succ row =>
        rw [filterByte_succ hLine] at hBad
        obtain ⟨b', hError⟩ := ih hRest (Nat.lt_of_succ_lt_succ hRow) hBad
          (unfilterLine b 0 0 line above)
        exact ⟨b', by rw [hError]; rfl⟩

/-! ## Images -/

/-- The decoder inverts every choice of filters, rejects every other filter byte, and what it
accepts is the filtered form of its output alone. Each row is undone with the help of the row above
it, which is undone already (`unfilterRows_filterRows`); filtering the output once more gives back
the input (`filterRows_unfilterRows`). -/
theorem unfilter_filters (width height : ℕ) :
    (∀ filters pixels, filters.length = height → pixels.length = width * height →
      unfilter (filterImage filters width pixels) width height = .ok pixels) ∧
    (∀ raw, raw.length = height * (width + 1) →
      (∃ row, row < height ∧ 4 < filterByte raw width row) →
        ∃ b, unfilter raw width height = .error (.filter b)) ∧
    (∀ raw pixels, raw.length = height * (width + 1) → unfilter raw width height = .ok pixels →
      ∃ filters : List FilterType, filters.length = height ∧
        (∀ row, row < height →
          (filters.map FilterType.byte).getD row 0 = filterByte raw width row) ∧
        filterImage filters width pixels = raw) ∧
    ∀ filters filters' pixels pixels', filters.length = height → filters'.length = height →
      pixels.length = width * height → pixels'.length = width * height →
      filterImage filters width pixels = filterImage filters' width pixels' → pixels = pixels' := by
  have hInverse : ∀ filters pixels, filters.length = height → pixels.length = width * height →
      unfilter (filterImage filters width pixels) width height = .ok pixels := by
    intro filters pixels hFilters hPixels
    have hLength : filters.length = (rows width height pixels).length :=
      hFilters.trans (length_rows ..).symm
    have hRows := unfilterRows_filterRows hLength (fun _ => length_of_mem_rows hPixels)
      (List.replicate width 0)
    rw [length_rows, flatten_rows hPixels] at hRows
    unfold filterImage unfilter
    rw [hFilters]
    exact hRows
  refine ⟨hInverse, fun raw hRaw ⟨row, hRow, hBad⟩ => ?_, fun raw pixels hRaw h => ?_,
    fun filters filters' pixels pixels' hFilters hFilters' hPixels hPixels' hSame => ?_⟩
  · rw [Nat.add_comm] at hRaw
    exact unfilterRows_bad hRaw hRow hBad _
  · rw [Nat.add_comm] at hRaw
    obtain ⟨filters, hFilters, hBytes, hFiltered⟩ := filterRows_unfilterRows hRaw h
    refine ⟨filters, hFilters, hBytes, ?_⟩
    unfold filterImage
    rw [hFilters]
    exact hFiltered
  · have hDecoded := hInverse filters pixels hFilters hPixels
    rw [hSame, hInverse filters' pixels' hFilters' hPixels'] at hDecoded
    exact (Except.ok.inj hDecoded).symm

/-- Two rows, each with its own filter. -/
theorem unfilter_filters_twoRows :
    unfilter (filterImage [.sub, .paeth] 3 [7, 200, 3, 250, 9, 64]) 3 2 =
      .ok [7, 200, 3, 250, 9, 64] :=
  (unfilter_filters 3 2).1 [.sub, .paeth] [7, 200, 3, 250, 9, 64] rfl rfl

end PreRunner.Maps
