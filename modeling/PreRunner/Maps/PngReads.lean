import Mathlib.Data.List.GetD
import PreRunner.Maps.PngFilters

/-!
# The reads of the PNG decoder

The decoder of `runner_paddock/png_codec.py` with its positions and buffers, where a read outside
a buffer, a field of the wrong length and arithmetic on a missing dimension are exceptions of
their own. None of them occurs: this decoder agrees with the one that walks over lists.
-/

namespace PreRunner.Maps.Checked

open Runs

/-- What the interpreter can raise. -/
inductive Raised where
  | png (error : PngError)
  | structError
  | indexError
  | typeError
  deriving DecidableEq, Repr

abbrev Reads (α : Type) := Except Raised α

/-! ## Buffers -/

/-- `data[start:stop]`. -/
def slice (data : Bytes) (start stop : ℕ) : Bytes := (data.drop start).take (stop - start)

/-- `data[start:stop] = line`. -/
def setSlice (data : Bytes) (start stop : ℕ) (line : Bytes) : Bytes :=
  data.take start ++ line ++ data.drop stop

/-- `data[i]`. -/
def item (data : Bytes) (i : ℕ) : Reads UInt8 :=
  if h : i < data.length then .ok data[i] else .error .indexError

/-- `data[i] = value`. -/
def setItem (data : Bytes) (i : ℕ) (value : UInt8) : Reads Bytes :=
  if i < data.length then .ok (data.set i value) else .error .indexError

/-- `struct.unpack('>I', bytes)[0]`. -/
def structUnpack (bytes : Bytes) : Reads ℕ :=
  if bytes.length = 4 then .ok (unpackWord bytes) else .error .structError

/-! ## Filters -/

/-- The byte to the left of a place. -/
def left (line : Bytes) (i : ℕ) : Reads UInt8 := if 1 ≤ i then item line (i - 1) else .ok 0

/-- One pass through the loop of a filter, with the bytes that this filter reads. -/
def unfilterByte (filterType : UInt8) (previousRow line : Bytes) (i : ℕ) : Reads Bytes :=
  if filterType = 1 then do
    let a ← left line i
    setItem line i ((← item line i) + a)
  else if filterType = 2 then do
    setItem line i ((← item line i) + (← item previousRow i))
  else if filterType = 3 then do
    let a ← left line i
    let b ← item previousRow i
    setItem line i ((← item line i) + UInt8.ofNat ((a.toNat + b.toNat) / 2))
  else do
    let a ← left line i
    let b ← item previousRow i
    let c ← left previousRow i
    setItem line i ((← item line i) + UInt8.ofNat (paeth a.toNat b.toNat c.toNat).toNat)

/-- One row of the raw data, from its filter byte on. -/
def unfilterRow (raw : Bytes) (width pos : ℕ) (previousRow : Bytes) : Reads Bytes := do
  let filterType ← item raw pos
  let line := slice raw (pos + 1) (pos + 1 + width)
  if filterType = 0 then return line
  else if filterType ≤ 4 then
    (List.range' 0 width).foldlM (unfilterByte filterType previousRow) line
  else throw (.png (.filter filterType))

structure Rows where
  pos : ℕ
  previousRow : Bytes
  out : Bytes

def Rows.next (raw : Bytes) (width : ℕ) (s : Rows) (row : ℕ) : Reads Rows := do
  let line ← unfilterRow raw width s.pos s.previousRow
  return {
    pos := s.pos + 1 + width
    previousRow := line
    out := setSlice s.out (row * width) ((row + 1) * width) line }

/-- `_unfilter`. -/
def unfilter (raw : Bytes) (width height : ℕ) : Reads Bytes := do
  let s ← (List.range' 0 height).foldlM (Rows.next raw width) {
    pos := 0
    previousRow := List.replicate width 0
    out := List.replicate (width * height) 0 }
  return s.out

/-! ## Chunks -/

/-- The fields of `struct.unpack('>IIBBBBB', chunk_data)`. -/
structure Header where
  width : ℕ
  height : ℕ
  bitDepth : UInt8
  colorType : UInt8
  compression : UInt8
  filterMethod : UInt8
  interlace : UInt8

def unpackHeader (bytes : Bytes) : Reads Header :=
  if bytes.length = 13 then
    .ok {
      width := unpackWord (bytes.take 4)
      height := unpackWord ((bytes.drop 4).take 4)
      bitDepth := bytes.getD 8 0
      colorType := bytes.getD 9 0
      compression := bytes.getD 10 0
      filterMethod := bytes.getD 11 0
      interlace := bytes.getD 12 0 }
  else .error .structError

/-- The variables of the loop over the chunks; the dimensions start as `None`. -/
structure Reader where
  pos : ℕ
  size : Option (ℕ × ℕ) := none
  idat : Bytes := []
  seenIhdr : Bool := false
  seenIend : Bool := false

/-- The branches on the type of a chunk. -/
def Reader.handle (s : Reader) (chunkType chunkData : Bytes) : Reads Reader := do
  if chunkType = ihdrType then
    if chunkData.length ≠ 13 then throw (.png .malformedHeader)
    let header ← unpackHeader chunkData
    if header.bitDepth ≠ bitDepth ∨ header.colorType ≠ grayscaleColorType then
      throw (.png (.format header.bitDepth header.colorType))
    if header.compression ≠ 0 ∨ header.filterMethod ≠ 0 then throw (.png .method)
    if header.interlace ≠ 0 then throw (.png .interlaced)
    return { s with size := some (header.width, header.height), seenIhdr := true }
  else if chunkType = idatType then
    if !s.seenIhdr then throw (.png .dataBeforeHeader)
    return { s with idat := s.idat ++ chunkData }
  else if chunkType = iendType then return { s with seenIend := true }
  else return s

variable (zlib : Zlib)

/-- The body of the loop over the chunks. -/
def Reader.next (data : Bytes) (s : Reader) : Reads Reader := do
  if data.length < s.pos + 8 then throw (.png .truncatedHeader)
  let length ← structUnpack (slice data s.pos (s.pos + 4))
  let chunkType := slice data (s.pos + 4) (s.pos + 8)
  let chunkStart := s.pos + 8
  let chunkEnd := chunkStart + length
  if data.length < chunkEnd + 4 then throw (.png (.truncatedChunk chunkType))
  let chunkData := slice data chunkStart chunkEnd
  let crcExpected ← structUnpack (slice data chunkEnd (chunkEnd + 4))
  if (zlib.crc32 (chunkType ++ chunkData)).toNat ≠ crcExpected then
    throw (.png (.crc chunkType))
  let s ← s.handle chunkType chunkData
  return { s with pos := chunkEnd + 4 }

theorem item_of_lt {data : Bytes} {i : ℕ} (h : i < data.length) :
    item data i = .ok (data.getD i 0) := by
  unfold item
  rw [dif_pos h, List.getD_eq_getElem data 0 h]

theorem left_of_le {line : Bytes} {i : ℕ} (h : i ≤ line.length) :
    left line i = .ok ((0 :: line).getD i 0) := by
  unfold left
  cases i with
  | zero => rfl
  | succ i => rw [if_pos (Nat.le_add_left 1 i), Nat.add_sub_cancel, item_of_lt h,
      List.getD_cons_succ]

theorem setItem_of_lt {line : Bytes} {i : ℕ} (h : i < line.length) (value : UInt8) :
    setItem line i value = .ok (line.set i value) := if_pos h

theorem structUnpack_of_length {bytes : Bytes} (h : bytes.length = 4) :
    structUnpack bytes = .ok (unpackWord bytes) := if_pos h

/-! ## Rows -/

/-- A filter reads inside the line and the line above, and adds its prediction. -/
theorem unfilterByte_eq {filterType : UInt8} (hType : filterType ≠ 0) {previousRow line : Bytes}
    {i : ℕ} (hLine : i < line.length) (hPrevious : i < previousRow.length) :
    unfilterByte filterType previousRow line i =
      .ok (line.set i (line.getD i 0 + predictor filterType ((0 :: line).getD i 0)
        (previousRow.getD i 0) ((0 :: previousRow).getD i 0))) := by
  unfold unfilterByte predictor
  rw [left_of_le hLine.le, left_of_le hPrevious.le, item_of_lt hLine, item_of_lt hPrevious,
    if_neg hType]
  by_cases hSub : filterType = 1
  · rw [if_pos hSub, if_pos hSub]
    exact setItem_of_lt hLine _
  · rw [if_neg hSub, if_neg hSub]
    by_cases hUp : filterType = 2
    · rw [if_pos hUp, if_pos hUp]
      exact setItem_of_lt hLine _
    · rw [if_neg hUp, if_neg hUp]
      by_cases hAverage : filterType = 3
      · rw [if_pos hAverage, if_pos hAverage]
        exact setItem_of_lt hLine _
      · rw [if_neg hAverage, if_neg hAverage]
        exact setItem_of_lt hLine _

/-- The loop over a line, once the bytes of `done` are restored. -/
theorem unfilterByte_loop {filterType : UInt8} (hType : filterType ≠ 0) (previousRow : Bytes)
    (done line : Bytes) (hLength : done.length + line.length = previousRow.length) :
    (List.range' done.length line.length).foldlM (unfilterByte filterType previousRow)
        (done ++ line) =
      .ok (done ++ unfilterLine filterType ((0 :: done).getD done.length 0)
        ((0 :: previousRow).getD done.length 0) line (previousRow.drop done.length)) := by
  induction line generalizing done with
  | nil => rfl
  | cons x line ih =>
    have hPlace : done.length < previousRow.length := by
      rw [List.length_cons] at hLength
      omega
    have hByte : (done ++ x :: line).getD done.length 0 = x := by
      rw [List.getD_append_right _ _ _ _ le_rfl, Nat.sub_self, List.getD_cons_zero]
    have hLeft : (0 :: (done ++ x :: line)).getD done.length 0 =
        (0 :: done).getD done.length 0 := by
      rw [← List.cons_append]
      exact List.getD_append _ _ _ _ (Nat.lt_succ_self _)
    have hAbove : (previousRow.drop done.length).headD 0 = previousRow.getD done.length 0 := by
      rw [List.drop_eq_getElem_cons hPlace, List.headD_cons, List.getD_eq_getElem _ _ hPlace]
    have hInside : done.length < (done ++ x :: line).length := by
      rw [List.length_append, List.length_cons]
      omega
    have hStep := unfilterByte_eq hType hInside hPlace
    rw [hByte, hLeft] at hStep
    set y := x + predictor filterType ((0 :: done).getD done.length 0)
      (previousRow.getD done.length 0) ((0 :: previousRow).getD done.length 0) with hy
    have hSet : (done ++ x :: line).set done.length y = (done ++ [y]) ++ line := by
      rw [List.set_append_right _ _ le_rfl, Nat.sub_self, List.set_cons_zero, List.append_assoc]
      rfl
    have hDone : (done ++ [y]).length = done.length + 1 := List.length_append
    have hIh := ih (done ++ [y]) (by
      rw [List.length_cons] at hLength
      omega)
    have hLast : (0 :: (done ++ [y])).getD (done.length + 1) 0 = y := by
      rw [List.getD_cons_succ, List.getD_append_right _ _ _ _ le_rfl, Nat.sub_self]
      rfl
    rw [hDone, hLast, List.getD_cons_succ] at hIh
    rw [List.length_cons, List.range'_succ, List.foldlM_cons, hStep, hSet]
    change (List.range' (done.length + 1) line.length).foldlM _ _ = _
    rw [hIh]
    conv_rhs => unfold unfilterLine
    dsimp only
    rw [hAbove, ← hy, List.tail_drop, List.append_assoc]
    rfl

theorem slice_middle (first middle last : Bytes) :
    slice (first ++ (middle ++ last)) first.length (first.length + middle.length) = middle := by
  unfold slice
  rw [List.drop_left, Nat.add_sub_cancel_left, List.take_left]

/-- A row that lies inside the raw data. -/
theorem unfilterRow_eq {raw first line rest previousRow : Bytes} {b : UInt8} {width pos : ℕ}
    (hRaw : raw = first ++ b :: (line ++ rest)) (hPos : first.length = pos)
    (hLine : line.length = width) (hPrevious : previousRow.length = width) :
    unfilterRow raw width pos previousRow =
      if 4 < b then .error (.png (.filter b)) else .ok (unfilterLine b 0 0 line previousRow) := by
  subst hRaw
  have hItem : item (first ++ b :: (line ++ rest)) pos = .ok b := by
    rw [item_of_lt (by rw [List.length_append, List.length_cons]; omega), ← hPos,
      List.getD_append_right _ _ _ _ le_rfl, Nat.sub_self, List.getD_cons_zero]
  have hSlice : slice (first ++ b :: (line ++ rest)) (pos + 1) (pos + 1 + width) = line := by
    have hMiddle := slice_middle (first ++ [b]) line rest
    rwa [List.append_assoc, List.length_append, List.length_singleton, hPos, hLine] at hMiddle
  unfold unfilterRow
  rw [hItem]
  change (if b = 0 then _ else _ : Reads Bytes) = _
  rw [hSlice]
  by_cases hNone : b = 0
  · rw [if_pos hNone, if_neg (by rw [hNone]; decide), hNone, unfilterLine_none]
    rfl
  · rw [if_neg hNone]
    by_cases hBad : 4 < b
    · rw [if_pos hBad, if_neg (UInt8.not_le.mpr hBad)]
      rfl
    · have hLoop := unfilterByte_loop hNone previousRow [] line
        ((Nat.zero_add _).trans (hLine.trans hPrevious.symm))
      rw [if_neg hBad, if_pos (UInt8.not_lt.mp hBad), ← hLine]
      exact hLoop

/-- An outcome of the decoder over lists, as one of this decoder. -/
def raising {α : Type} (outcome : Except PngError α) : Reads α := outcome.mapError .png

/-- The loop over the rows, once those of `done` are restored. -/
theorem rows_loop {raw : Bytes} {width : ℕ} (count : ℕ) {row : ℕ} {first rest : Bytes}
    (hRaw : raw = first ++ rest) (hFirst : first.length = row * (1 + width))
    (hRest : rest.length = count * (1 + width)) {previousRow done : Bytes}
    (hPrevious : previousRow.length = width) (hDone : done.length = row * width) :
    (List.range' row count).foldlM (Rows.next raw width)
        { pos := row * (1 + width), previousRow := previousRow
          out := done ++ List.replicate (width * count) 0 } >>= (fun s => .ok s.out) =
      raising ((unfilterRows width count previousRow rest).map (done ++ ·)) := by
  induction count generalizing row first rest previousRow done with
  | zero => rfl
  | succ count ih =>
    obtain ⟨b, line, rest, rfl, hLine, hRest⟩ := exists_row hRest
    have hRow := unfilterRow_eq hRaw hFirst hLine hPrevious
    rw [unfilterRows_succ hLine, List.range'_succ, List.foldlM_cons]
    unfold Rows.next
    dsimp only
    rw [hRow]
    by_cases hBad : 4 < b
    · rw [if_pos hBad, if_pos hBad]
      rfl
    · rw [if_neg hBad, if_neg hBad]
      set restored := unfilterLine b 0 0 line previousRow with hRestored
      have hLength : restored.length = width := (length_unfilterLine ..).trans hLine
      have hOut : setSlice (done ++ List.replicate (width * (count + 1)) 0) (row * width)
          ((row + 1) * width) restored =
          (done ++ restored) ++ List.replicate (width * count) 0 := by
        have hStop : (row + 1) * width = done.length + width := by
          rw [hDone, Nat.succ_mul]
        have hZeros : width * (count + 1) - width = width * count := by
          rw [Nat.mul_succ, Nat.add_sub_cancel]
        unfold setSlice
        rw [← hDone, List.take_left, hStop, List.drop_append, Nat.add_sub_cancel_left,
          List.drop_eq_nil_of_le (Nat.le_add_right _ _), List.nil_append, List.drop_replicate,
          hZeros]
      have hPos : row * (1 + width) + 1 + width = (row + 1) * (1 + width) := by
        rw [Nat.succ_mul, Nat.add_assoc]
      have hBefore : raw = (first ++ b :: line) ++ rest := by
        rw [hRaw, List.append_assoc, List.cons_append]
      have hBeforeLength : (first ++ b :: line).length = (row + 1) * (1 + width) := by
        rw [List.length_append, List.length_cons, hFirst, hLine, Nat.succ_mul, Nat.add_comm 1]
      have hDoneLength : (done ++ restored).length = (row + 1) * width := by
        rw [List.length_append, hDone, hLength, Nat.succ_mul]
      have hIh := ih hBefore hBeforeLength hRest hLength hDoneLength
      change (List.range' (row + 1) count).foldlM (Rows.next raw width)
          { pos := row * (1 + width) + 1 + width, previousRow := restored
            out := setSlice (done ++ List.replicate (width * (count + 1)) 0) (row * width)
              ((row + 1) * width) restored } >>= (fun s => .ok s.out) = _
      rw [hOut, hPos, hIh]
      cases unfilterRows width count restored rest with
      | error e => rfl
      | ok pixels =>
        change Except.ok ((done ++ restored) ++ pixels) = Except.ok (done ++ (restored ++ pixels))
        rw [List.append_assoc]

/-- On raw data of the right length the two decoders restore the same pixels. -/
theorem unfilter_eq {raw : Bytes} {width height : ℕ} (hRaw : raw.length = height * (1 + width)) :
    unfilter raw width height = raising (Maps.unfilter raw width height) := by
  have hFirst : ([] : Bytes).length = 0 * (1 + width) := (Nat.zero_mul _).symm
  have hDone : ([] : Bytes).length = 0 * width := (Nat.zero_mul _).symm
  have hRows := rows_loop height (List.nil_append raw).symm hFirst hRaw
    (List.length_replicate (a := (0 : UInt8))) hDone
  rw [Nat.zero_mul] at hRows
  refine hRows.trans ?_
  unfold Maps.unfilter
  cases unfilterRows width height (List.replicate width 0) raw with
  | error e => rfl
  | ok pixels => rfl

/-! ## The loop over the chunks -/

/-- What the loop knows, as the decoder over lists keeps it. -/
def Reader.known (s : Reader) : PngState :=
  { size := s.size, idat := s.idat, seenIend := s.seenIend }

theorem unpackHeader_of_length {bytes : Bytes} (h : bytes.length = 13) :
    unpackHeader bytes = .ok {
      width := unpackWord (bytes.take 4)
      height := unpackWord ((bytes.drop 4).take 4)
      bitDepth := bytes.getD 8 0
      colorType := bytes.getD 9 0
      compression := bytes.getD 10 0
      filterMethod := bytes.getD 11 0
      interlace := bytes.getD 12 0 } := if_pos h

/-- A chunk has the same effect in both decoders, and a header is seen when there is a size. -/
theorem Reader.handle_eq {s : Reader} (hSeen : s.seenIhdr = s.size.isSome)
    (chunkType chunkData : Bytes) :
    s.handle chunkType chunkData = raising ((s.known.handle chunkType chunkData).map fun next =>
      { s with
        size := next.size, idat := next.idat, seenIhdr := next.size.isSome
        seenIend := next.seenIend }) := by
  unfold Reader.handle PngState.handle
  by_cases hHeader : chunkType = ihdrType
  · rw [if_pos hHeader, if_pos hHeader]
    unfold readHeader
    by_cases hLength : chunkData.length = 13
    · rw [unpackHeader_of_length hLength, if_neg (not_not.mpr hLength),
        if_neg (not_not.mpr hLength)]
      dsimp only [bind, Except.bind]
      by_cases hFormat : chunkData.getD 8 0 ≠ bitDepth ∨ chunkData.getD 9 0 ≠ grayscaleColorType
      · rw [if_pos hFormat, if_pos hFormat]
        rfl
      · rw [if_neg hFormat, if_neg hFormat]
        dsimp only [bind, Except.bind, pure, Except.pure]
        by_cases hMethod : chunkData.getD 10 0 ≠ 0 ∨ chunkData.getD 11 0 ≠ 0
        · rw [if_pos hMethod, if_pos hMethod]
          rfl
        · rw [if_neg hMethod, if_neg hMethod]
          by_cases hInterlace : chunkData.getD 12 0 ≠ 0
          · rw [if_pos hInterlace, if_pos hInterlace]
            rfl
          · rw [if_neg hInterlace, if_neg hInterlace]
            rfl
    · rw [if_pos hLength, if_pos hLength]
      rfl
  · rw [if_neg hHeader, if_neg hHeader]
    by_cases hData : chunkType = idatType
    · rw [if_pos hData, if_pos hData, hSeen]
      change _ = raising ((if s.size.isNone then _ else _ : Except PngError PngState).map _)
      cases hSize : s.size with
      | none => rfl
      | some size =>
        cases s
        cases hSize
        cases hSeen
        rfl
    · rw [if_neg hData, if_neg hData]
      obtain ⟨pos, size, idat, seen, ended⟩ := s
      change seen = size.isSome at hSeen
      subst hSeen
      by_cases hEnd : chunkType = iendType
      · rw [if_pos hEnd, if_pos hEnd]
        rfl
      · rw [if_neg hEnd, if_neg hEnd]
        rfl

section Loop

variable {zlib}

theorem length_slice (data : Bytes) (start count : ℕ) (h : start + count ≤ data.length) :
    (slice data start (start + count)).length = count := by
  unfold slice
  rw [List.length_take, List.length_drop]
  omega

theorem slice_drop (data : Bytes) (start skipped count : ℕ) :
    slice data (start + skipped) (start + skipped + count) =
      ((data.drop start).drop skipped).take count := by
  unfold slice
  rw [Nat.add_sub_cancel_left, List.drop_drop]

/-- The body of the loop reads the chunk at the position and moves behind it. -/
theorem Reader.next_eq {data : Bytes} {s : Reader} (hSeen : s.seenIhdr = s.size.isSome)
    (hPos : s.pos ≤ data.length) :
    s.next zlib data = raising (do
      let (chunkType, chunkData, rest) ← readChunk zlib (data.drop s.pos)
      let next ← s.known.handle chunkType chunkData
      return {
        pos := data.length - rest.length
        size := next.size, idat := next.idat, seenIhdr := next.size.isSome
        seenIend := next.seenIend }) := by
  have hLeft : (data.drop s.pos).length = data.length - s.pos := List.length_drop
  unfold Reader.next readChunk
  by_cases hHeader : data.length < s.pos + 8
  · rw [if_pos hHeader, if_pos (by omega)]
    rfl
  · have hLength := structUnpack_of_length (length_slice data s.pos 4 (by omega))
    have hWord : slice data s.pos (s.pos + 4) = (data.drop s.pos).take 4 :=
      slice_drop data s.pos 0 4
    have hType : slice data (s.pos + 4) (s.pos + 8) = ((data.drop s.pos).drop 4).take 4 :=
      slice_drop data s.pos 4 4
    rw [if_neg hHeader, if_neg (by omega), hLength, hWord, hType]
    set chunkLength := unpackWord ((data.drop s.pos).take 4) with hChunkLength
    set chunkType := ((data.drop s.pos).drop 4).take 4
    dsimp only [bind, Except.bind]
    by_cases hChunk : data.length < s.pos + 8 + chunkLength + 4
    · rw [if_pos hChunk, if_pos (by omega)]
      rfl
    · have hCrc := structUnpack_of_length
        (length_slice data (s.pos + 8 + chunkLength) 4 (by omega))
      have hCrcWord : slice data (s.pos + 8 + chunkLength) (s.pos + 8 + chunkLength + 4) =
          ((data.drop s.pos).drop (8 + chunkLength)).take 4 := by
        rw [Nat.add_assoc s.pos]
        exact slice_drop data s.pos (8 + chunkLength) 4
      have hData : slice data (s.pos + 8) (s.pos + 8 + chunkLength) =
          ((data.drop s.pos).drop 8).take chunkLength := slice_drop data s.pos 8 chunkLength
      rw [if_neg hChunk, if_neg (by omega), hCrc, hCrcWord, hData]
      set chunkData := ((data.drop s.pos).drop 8).take chunkLength
      dsimp only
      by_cases hSum : (zlib.crc32 (chunkType ++ chunkData)).toNat =
          unpackWord (((data.drop s.pos).drop (8 + chunkLength)).take 4)
      · rw [if_neg (not_not.mpr hSum), if_neg (not_not.mpr hSum), Reader.handle_eq hSeen]
        have hEnd : data.length - ((data.drop s.pos).drop (8 + chunkLength + 4)).length =
            s.pos + 8 + chunkLength + 4 := by
          rw [List.length_drop, hLeft]
          omega
        dsimp only
        rw [hEnd]
        cases s.known.handle chunkType chunkData with
        | error e => rfl
        | ok next => rfl
      · rw [if_pos hSum, if_pos hSum]
        rfl

/-- The loop moves on. -/
theorem Reader.pos_next {data : Bytes} {s next : Reader} (h : s.next zlib data = .ok next) :
    s.pos < next.pos := by
  unfold Reader.next at h
  split at h
  · exact nomatch h
  · obtain ⟨length, hLength, h⟩ := ok_of_bind h
    dsimp only at h
    split at h
    · exact nomatch h
    · obtain ⟨crc, hCrc, h⟩ := ok_of_bind h
      split at h
      · exact nomatch h
      · obtain ⟨handled, hHandled, h⟩ := ok_of_bind h
        cases h
        dsimp only
        omega

end Loop

/-- The loop over the chunks. -/
def readChunks (data : Bytes) (s : Reader) : Reads Reader :=
  if s.pos < data.length ∧ s.seenIend = false then
    match _hNext : s.next zlib data with
    | .error error => .error error
    | .ok next => readChunks data next
  else .ok s
termination_by data.length - s.pos
decreasing_by
  have hMoved := Reader.pos_next _hNext
  omega

section Loop

variable {zlib}

theorem readChunks_next {data : Bytes} {s : Reader} (hPos : s.pos < data.length)
    (hOpen : s.seenIend = false) :
    readChunks zlib data s = s.next zlib data >>= readChunks zlib data := by
  conv_lhs => unfold readChunks
  rw [if_pos ⟨hPos, hOpen⟩]
  split
  · rename_i hNext
    rw [hNext]
    rfl
  · rename_i hNext
    rw [hNext]
    rfl

theorem readChunks_chunk {data : Bytes} {s : PngState} (hData : data ≠ [])
    (hOpen : s.seenIend = false) :
    Maps.readChunks zlib s data = (do
      let (chunkType, chunkData, rest) ← readChunk zlib data
      let next ← s.handle chunkType chunkData
      Maps.readChunks zlib next rest) := by
  have hGo : ¬ (data.isEmpty = true ∨ s.seenIend = true) := by
    rw [List.isEmpty_iff, hOpen]
    exact fun h => h.elim hData nofun
  conv_lhs => unfold Maps.readChunks
  rw [if_neg hGo]
  split
  · rename_i hRead
    rw [hRead]
    rfl
  · rename_i hRead
    rw [hRead]
    dsimp only [bind, Except.bind]
    split
    · rename_i hHandle
      rw [hHandle]
    · rename_i hHandle
      rw [hHandle]

theorem suffix_readChunk {data chunkType chunkData rest : Bytes}
    (h : readChunk zlib data = .ok (chunkType, chunkData, rest)) : rest <:+ data := by
  unfold readChunk at h
  dsimp only at h
  split at h
  · exact nomatch h
  · split at h
    · exact nomatch h
    · split at h
      · exact nomatch h
      · cases h
        exact List.drop_suffix _ _

/-- The two loops read the same chunks. -/
theorem readChunks_eq (zlib : Zlib) (data : Bytes) (s : Reader)
    (hSeen : s.seenIhdr = s.size.isSome)
    (hPos : s.pos ≤ data.length) :
    (∃ e, readChunks zlib data s = .error (.png e) ∧
      Maps.readChunks zlib s.known (data.drop s.pos) = .error e) ∨
    ∃ final, readChunks zlib data s = .ok final ∧ final.seenIhdr = final.size.isSome ∧
      Maps.readChunks zlib s.known (data.drop s.pos) = .ok final.known := by
  generalize hLeft : data.length - s.pos = left
  induction left using Nat.strongRecOn generalizing s with
  | ind left ih =>
    by_cases hGo : s.pos < data.length ∧ s.seenIend = false
    · have hData : data.drop s.pos ≠ [] := fun hNil => by
        rw [List.drop_eq_nil_iff] at hNil
        omega
      have hNext : s.next zlib data = _ := Reader.next_eq hSeen hPos
      rw [readChunks_next hGo.1 hGo.2, readChunks_chunk hData hGo.2, hNext]
      cases hRead : readChunk zlib (data.drop s.pos) with
      | error e => exact Or.inl ⟨e, rfl, rfl⟩
      | ok chunk =>
        obtain ⟨chunkType, chunkData, rest⟩ := chunk
        have hRest := length_readChunk zlib hRead
        rw [hRead] at hNext
        dsimp only [bind, Except.bind] at hNext ⊢
        cases hHandle : s.known.handle chunkType chunkData with
        | error e => exact Or.inl ⟨e, rfl, rfl⟩
        | ok known =>
          have hRestDrop := List.suffix_iff_eq_drop.mp
            ((suffix_readChunk hRead).trans (List.drop_suffix s.pos data))
          rw [List.length_drop] at hRest
          have hIh := ih (data.length - (data.length - rest.length)) (by omega)
            {
              pos := data.length - rest.length
              size := known.size, idat := known.idat, seenIhdr := known.size.isSome
              seenIend := known.seenIend } rfl (Nat.sub_le _ _) rfl
          dsimp only [Reader.known] at hIh
          rw [← hRestDrop] at hIh
          exact hIh
    · unfold readChunks
      rw [if_neg hGo]
      refine Or.inr ⟨s, rfl, hSeen, ?_⟩
      unfold Maps.readChunks
      refine if_pos ?_
      rw [List.isEmpty_iff, List.drop_eq_nil_iff]
      by_cases hEnd : data.length ≤ s.pos
      · exact Or.inl hEnd
      · exact Or.inr (Bool.not_eq_false _ ▸ fun hOpen => hGo ⟨not_le.mp hEnd, hOpen⟩)

end Loop

/-- Decode PNG bytes to the width, the height and the pixels. -/
def decodeGrayscalePng (data : Bytes) : Reads (ℕ × ℕ × Bytes) := do
  if !pngSignature.isPrefixOf data then throw (.png .signature)
  let s ← readChunks zlib data { pos := pngSignature.length }
  if !s.seenIhdr then throw (.png .noHeader)
  if !s.seenIend then throw (.png .noEnd)
  if s.idat.isEmpty then throw (.png .noData)
  match zlib.decompress s.idat with
  | none => throw (.png .inflate)
  | some raw =>
    match s.size with
    | none => throw .typeError
    | some (width, height) =>
      if raw.length ≠ height * (1 + width) then throw (.png .dataLength)
      return (width, height, ← unfilter raw width height)

/-- The decoder raises nothing but its own errors, and those of the decoder over lists. -/
theorem decodeGrayscalePng_eq (data : Bytes) :
    decodeGrayscalePng zlib data = raising (Maps.decodeGrayscalePng zlib data) := by
  unfold decodeGrayscalePng Maps.decodeGrayscalePng
  by_cases hSignature : pngSignature.isPrefixOf data = true
  · rw [hSignature]
    have hPos : pngSignature.length ≤ data.length := by
      obtain ⟨rest, rfl⟩ := List.isPrefixOf_iff_prefix.mp hSignature
      rw [List.length_append]
      exact Nat.le_add_right _ _
    obtain ⟨e, hError, hSame⟩ | ⟨final, hFinal, hSeen, hSame⟩ :=
      readChunks_eq zlib data { pos := pngSignature.length } rfl hPos
    · change Maps.readChunks zlib {} (data.drop pngSignature.length) = _ at hSame
      dsimp only [bind, Except.bind]
      rw [hError, hSame]
      rfl
    · change Maps.readChunks zlib {} (data.drop pngSignature.length) = _ at hSame
      dsimp only [bind, Except.bind]
      rw [hFinal, hSame]
      dsimp only [Reader.known]
      rw [hSeen]
      cases hSize : final.size with
      | none => rfl
      | some size =>
        obtain ⟨width, height⟩ := size
        cases final.seenIend with
        | false => rfl
        | true =>
          cases final.idat.isEmpty with
          | true => rfl
          | false =>
            cases zlib.decompress final.idat with
            | none => rfl
            | some raw =>
              change (if raw.length ≠ height * (1 + width) then .error (.png .dataLength)
                else do
                  return (width, height, ← unfilter raw width height) : Reads (ℕ × ℕ × Bytes)) =
                raising (if raw.length ≠ height * (1 + width) then .error .dataLength else do
                  return (width, height, ← Maps.unfilter raw width height))
              by_cases hLength : raw.length = height * (1 + width)
              · rw [if_neg (not_not.mpr hLength), if_neg (not_not.mpr hLength),
                  unfilter_eq hLength]
                cases Maps.unfilter raw width height with
                | error e => rfl
                | ok pixels => rfl
              · rw [if_pos hLength, if_pos hLength]
                rfl
  · rw [Bool.not_eq_true] at hSignature
    rw [hSignature]
    rfl

end PreRunner.Maps.Checked
