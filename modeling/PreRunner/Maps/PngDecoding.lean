import PreRunner.Maps.PngReads

/-!
# What the PNG decoder accepts

A file that the decoder accepts is a signature and a list of chunks with an IEND chunk at its end;
the headers among them are supported, one stands before the first data chunk, and the data chunks
together inflate to the filtered rows of an image of the last header's size. On everything else
the decoder raises one of its own errors.
-/

namespace PreRunner.Maps

open Runs

/-! ## Chunks -/

/-- A chunk whose type and length fit their fields. -/
structure Chunk where
  chunkType : Bytes
  data : Bytes
  length_chunkType : chunkType.length = 4
  length_data : data.length < 2 ^ 32

def Chunk.bytes (zlib : Zlib) (c : Chunk) : Bytes := chunkBytes zlib c.chunkType c.data

theorem unpackWord_lt {bytes : Bytes} (h : bytes.length = 4) : unpackWord bytes < 2 ^ 32 := by
  match bytes, h with
  | [a, b, c, d], _ =>
    have hA := a.toNat_lt
    have hB := b.toNat_lt
    have hC := c.toNat_lt
    have hD := d.toNat_lt
    simp only [unpackWord, List.foldl_cons, List.foldl_nil]
    omega

theorem packWord_unpackWord {bytes : Bytes} (h : bytes.length = 4) :
    packWord (unpackWord bytes) = bytes := by
  match bytes, h with
  | [a, b, c, d], _ =>
    have hA := a.toNat_lt
    have hB := b.toNat_lt
    have hC := c.toNat_lt
    have hD := d.toNat_lt
    simp only [unpackWord, packWord, List.foldl_cons, List.foldl_nil, List.cons.injEq,
      ← UInt8.toNat_inj, UInt8.toNat_ofNat']
    refine ⟨?_, ?_, ?_, ?_, trivial⟩ <;> omega

section Chunks

variable {zlib : Zlib}

/-- The decoder reads exactly the chunks that lie inside the data with their checksum. -/
theorem readChunk_ok {data chunkType chunkData rest : Bytes}
    (h : readChunk zlib data = .ok (chunkType, chunkData, rest)) :
    ∃ c : Chunk, c.chunkType = chunkType ∧ c.data = chunkData ∧ data = c.bytes zlib ++ rest := by
  unfold readChunk at h
  dsimp only at h
  split at h
  · exact nomatch h
  rename_i hHeader
  split at h
  · exact nomatch h
  rename_i hLength
  split at h
  · exact nomatch h
  rename_i hCrc
  have hWord : (data.take 4).length = 4 := by
    rw [List.length_take]
    omega
  have hCrcWord : ((data.drop (8 + unpackWord (data.take 4))).take 4).length = 4 := by
    rw [List.length_take, List.length_drop]
    omega
  have hData : ((data.drop 8).take (unpackWord (data.take 4))).length =
      unpackWord (data.take 4) := by
    rw [List.length_take, List.length_drop]
    omega
  cases h
  refine ⟨⟨_, _, ?_, hData.trans_lt (unpackWord_lt hWord)⟩, rfl, rfl, ?_⟩
  · rw [List.length_take, List.length_drop]
    omega
  · unfold Chunk.bytes chunkBytes
    dsimp only
    rw [hData, packWord_unpackWord hWord, not_not.mp hCrc, packWord_unpackWord hCrcWord]
    have hTail : data.drop (8 + unpackWord (data.take 4)) =
        (data.drop (8 + unpackWord (data.take 4))).take 4 ++
          data.drop (8 + unpackWord (data.take 4) + 4) := by
      conv_lhs => rw [← List.take_append_drop 4 (data.drop (8 + unpackWord (data.take 4)))]
      rw [List.drop_drop]
    have hBody : data.drop 8 = (data.drop 8).take (unpackWord (data.take 4)) ++
        data.drop (8 + unpackWord (data.take 4)) := by
      conv_lhs => rw [← List.take_append_drop (unpackWord (data.take 4)) (data.drop 8)]
      rw [List.drop_drop]
    have hType : data.drop 4 = (data.drop 4).take 4 ++ data.drop 8 := by
      conv_lhs => rw [← List.take_append_drop 4 (data.drop 4)]
      rw [List.drop_drop]
    simp only [List.append_assoc]
    rw [← hTail, ← hBody, ← hType, List.take_append_drop]

/-- The effect of chunks, one after another. -/
def handleAll (s : PngState) (chunks : List Chunk) : Except PngError PngState :=
  chunks.foldlM (fun s c => s.handle c.chunkType c.data) s

/-- Only an IEND chunk ends the file. -/
theorem seenIend_handle {s next : PngState} {chunkType chunkData : Bytes}
    (h : s.handle chunkType chunkData = .ok next) (hOpen : s.seenIend = false) :
    next.seenIend = true ↔ chunkType = iendType := by
  unfold PngState.handle at h
  split at h
  · rename_i hHeader
    obtain ⟨size, hSize, h⟩ := ok_of_bind h
    cases h
    rw [hHeader]
    exact iff_of_false (by rw [hOpen]; decide) (by decide)
  · split at h
    · rename_i hData
      split at h
      · exact nomatch h
      · cases h
        rw [hData]
        exact iff_of_false (by rw [hOpen]; decide) (by decide)
    · split at h
      · rename_i hEnd
        cases h
        exact iff_of_true rfl hEnd
      · rename_i hEnd
        cases h
        exact iff_of_false (by rw [hOpen]; decide) hEnd

/-- The loop over the chunks reads up to the first IEND chunk. -/
theorem readChunks_ok {s final : PngState} {data : Bytes} (hOpen : s.seenIend = false)
    (h : readChunks zlib s data = .ok final) (hEnd : final.seenIend = true) :
    ∃ (before : List Chunk) (iend : Chunk) (trailing : Bytes),
      data = before.flatMap (Chunk.bytes zlib) ++ (iend.bytes zlib ++ trailing) ∧
      iend.chunkType = iendType ∧ (∀ c ∈ before, c.chunkType ≠ iendType) ∧
      (handleAll s before).map (fun s => { s with seenIend := true }) = .ok final := by
  generalize hLeft : data.length = left
  induction left using Nat.strongRecOn generalizing s data with
  | ind left ih =>
    by_cases hData : data = []
    · subst hData
      unfold readChunks at h
      rw [if_pos (Or.inl (List.isEmpty_nil))] at h
      cases h
      exact absurd hEnd (by rw [hOpen]; decide)
    · rw [Checked.readChunks_chunk hData hOpen] at h
      obtain ⟨⟨chunkType, chunkData, rest⟩, hRead, hChunk⟩ := ok_of_bind h
      obtain ⟨next, hHandle, hRest⟩ := ok_of_bind hChunk
      have hShorter := length_readChunk zlib hRead
      obtain ⟨c, rfl, rfl, rfl⟩ := readChunk_ok hRead
      have hNextEnd := seenIend_handle hHandle hOpen
      by_cases hIend : c.chunkType = iendType
      · have hStop : readChunks zlib next rest = .ok next := by
          unfold readChunks
          exact if_pos (Or.inr (hNextEnd.mpr hIend))
        have hFinal : s.handle c.chunkType c.data = .ok final :=
          hHandle.trans (hStop.symm.trans hRest)
        rw [hIend] at hFinal
        exact ⟨[], c, rest, rfl, hIend, nofun, hFinal⟩
      · obtain ⟨before, iend, trailing, hSame, hType, hBefore, hAll⟩ := ih rest.length
          (hLeft ▸ hShorter) (Bool.eq_false_iff.mpr fun hNext => hIend (hNextEnd.mp hNext))
            hRest rfl
        refine ⟨c :: before, iend, trailing, ?_, hType, ?_, ?_⟩
        · rw [hSame, List.flatMap_cons, List.append_assoc]
        · exact List.forall_mem_cons.mpr ⟨hIend, hBefore⟩
        · unfold handleAll
          rw [List.foldlM_cons, hHandle]
          exact hAll

/-- The loop reads any such chunks. -/
theorem readChunks_chunks {s next : PngState} {before : List Chunk} {iend : Chunk}
    (trailing : Bytes) (hOpen : s.seenIend = false) (hType : iend.chunkType = iendType)
    (hBefore : ∀ c ∈ before, c.chunkType ≠ iendType) (hAll : handleAll s before = .ok next) :
    readChunks zlib s (before.flatMap (Chunk.bytes zlib) ++ (iend.bytes zlib ++ trailing)) =
      .ok { next with seenIend := true } := by
  induction before generalizing s with
  | nil =>
    obtain rfl : s = next := Except.ok.inj hAll
    have hHandle : s.handle iend.chunkType iend.data = .ok { s with seenIend := true } := by
      rw [hType]
      rfl
    rw [List.flatMap_nil, List.nil_append]
    unfold Chunk.bytes
    rw [readChunks_chunkBytes iend.length_chunkType iend.length_data hOpen hHandle]
    unfold readChunks
    exact if_pos (Or.inr rfl)
  | cons c before ih =>
    obtain ⟨hFirst, hBefore⟩ := List.forall_mem_cons.mp hBefore
    unfold handleAll at hAll
    rw [List.foldlM_cons] at hAll
    obtain ⟨middle, hHandle, hAll⟩ := ok_of_bind hAll
    have hMiddle : middle.seenIend = false := Bool.eq_false_iff.mpr fun hEnd =>
      hFirst ((seenIend_handle hHandle hOpen).mp hEnd)
    rw [List.flatMap_cons, List.append_assoc]
    conv_lhs => rw [Chunk.bytes]
    rw [readChunks_chunkBytes c.length_chunkType c.length_data hOpen hHandle]
    exact ih hMiddle hBefore hAll

/-- A refused chunk is refused by the loop. -/
theorem readChunks_refused {s : PngState} {c : Chunk} {e : PngError} (rest : Bytes)
    (hOpen : s.seenIend = false) (h : s.handle c.chunkType c.data = .error e) :
    readChunks zlib s (c.bytes zlib ++ rest) = .error e := by
  have hSome : c.bytes zlib ++ rest ≠ [] := List.cons_ne_nil _ _
  rw [Checked.readChunks_chunk hSome hOpen]
  unfold Chunk.bytes
  rw [readChunk_chunkBytes c.length_chunkType c.length_data]
  change s.handle c.chunkType c.data >>= _ = _
  rw [h]
  rfl

/-! ## Headers and image data -/

/-- A header of an image with eight bits of gray for each pixel, not interlaced. -/
def DescribesGrayscale (header : Bytes) : Prop :=
  header.length = 13 ∧ header.getD 8 0 = bitDepth ∧ header.getD 9 0 = grayscaleColorType ∧
    header.getD 12 0 = 0

/-- A header that also names the only methods there are. -/
def SupportedHeader (header : Bytes) : Prop :=
  DescribesGrayscale header ∧ header.getD 10 0 = 0 ∧ header.getD 11 0 = 0

/-- The width and the height of a header. -/
def headerSize (header : Bytes) : ℕ × ℕ :=
  (unpackWord (header.take 4), unpackWord ((header.drop 4).take 4))

theorem readHeader_ok {header : Bytes} {size : ℕ × ℕ} :
    readHeader header = .ok size ↔ SupportedHeader header ∧ size = headerSize header := by
  unfold readHeader SupportedHeader DescribesGrayscale
  dsimp only
  constructor
  · intro h
    split at h
    · exact nomatch h
    · rename_i hLength
      split at h
      · exact nomatch h
      · rename_i hFormat
        split at h
        · exact nomatch h
        · rename_i hMethod
          split at h
          · exact nomatch h
          · rename_i hInterlace
            obtain ⟨hDepth, hColor⟩ := not_or.mp hFormat
            obtain ⟨hCompression, hFilter⟩ := not_or.mp hMethod
            exact ⟨⟨⟨not_not.mp hLength, not_not.mp hDepth, not_not.mp hColor,
              not_not.mp hInterlace⟩, not_not.mp hCompression, not_not.mp hFilter⟩,
              (Except.ok.inj h).symm⟩
  · rintro ⟨⟨⟨hLength, hDepth, hColor, hInterlace⟩, hCompression, hFilter⟩, rfl⟩
    rw [if_neg (not_not.mpr hLength), if_neg (not_or.mpr ⟨not_not.mpr hDepth, not_not.mpr hColor⟩),
      if_neg (not_or.mpr ⟨not_not.mpr hCompression, not_not.mpr hFilter⟩),
      if_neg (not_not.mpr hInterlace)]
    rfl

/-- The last IHDR chunk. -/
def lastHeader (chunks : List Chunk) : Option Bytes :=
  ((chunks.filter (·.chunkType = ihdrType)).getLast?).map Chunk.data

/-- The data of the IDAT chunks, joined. -/
def imageData (chunks : List Chunk) : Bytes :=
  (chunks.filter (·.chunkType = idatType)).flatMap Chunk.data

/-- Before every IDAT chunk, and so before the first, there is an IHDR chunk. -/
def HeaderFirst (chunks : List Chunk) : Prop :=
  ∀ earlier c, earlier ++ [c] <+: chunks → c.chunkType = idatType →
    ∃ header ∈ earlier, header.chunkType = ihdrType

theorem lastHeader_concat (chunks : List Chunk) (c : Chunk) :
    lastHeader (chunks ++ [c]) =
      if c.chunkType = ihdrType then some c.data else lastHeader chunks := by
  unfold lastHeader
  rw [List.filter_append, List.filter_singleton]
  by_cases hHeader : c.chunkType = ihdrType
  · rw [decide_eq_true hHeader, if_pos hHeader]
    change ((_ ++ [c]).getLast?).map Chunk.data = _
    rw [List.getLast?_concat]
    rfl
  · rw [decide_eq_false hHeader, if_neg hHeader]
    change ((_ ++ []).getLast?).map Chunk.data = _
    rw [List.append_nil]

theorem imageData_concat (chunks : List Chunk) (c : Chunk) :
    imageData (chunks ++ [c]) =
      if c.chunkType = idatType then imageData chunks ++ c.data else imageData chunks := by
  unfold imageData
  rw [List.filter_append, List.filter_singleton, List.flatMap_append]
  by_cases hData : c.chunkType = idatType
  · rw [decide_eq_true hData, if_pos hData]
    change _ ++ (c.data ++ []) = _
    rw [List.append_nil]
  · rw [decide_eq_false hData, if_neg hData]
    exact List.append_nil _

theorem headerFirst_nil : HeaderFirst [] := fun _ _ hPrefix =>
  absurd (List.prefix_nil.mp hPrefix) (List.concat_ne_nil _ _)

theorem headerFirst_concat {chunks : List Chunk} {c : Chunk} :
    HeaderFirst (chunks ++ [c]) ↔ HeaderFirst chunks ∧
      (c.chunkType = idatType → ∃ header ∈ chunks, header.chunkType = ihdrType) := by
  refine ⟨fun h => ⟨fun earlier d hPrefix => h earlier d (hPrefix.trans (List.prefix_append _ _)),
    h chunks c (List.prefix_rfl)⟩, fun ⟨hFirst, hLast⟩ earlier d hPrefix hData => ?_⟩
  rcases List.prefix_concat_iff.mp hPrefix with hSame | hPrefix
  · obtain ⟨rfl, hSingle⟩ := List.append_inj' hSame rfl
    cases hSingle
    exact hLast hData
  · exact hFirst earlier d hPrefix hData

theorem isSome_lastHeader {chunks : List Chunk} :
    (lastHeader chunks).isSome ↔ ∃ header ∈ chunks, header.chunkType = ihdrType := by
  unfold lastHeader
  rw [Option.isSome_map, List.getLast?_isSome, ← List.length_pos_iff_ne_nil,
    List.length_filter_pos_iff]
  exact exists_congr fun header => and_congr_right' decide_eq_true_iff

/-- The effect of one chunk that does not end the file. -/
theorem handle_ok {s next : PngState} {c : Chunk} (hOpen : c.chunkType ≠ iendType) :
    s.handle c.chunkType c.data = .ok next ↔
      (c.chunkType = ihdrType → SupportedHeader c.data) ∧
      (c.chunkType = idatType → s.size.isSome) ∧
      next = { s with
        size := if c.chunkType = ihdrType then some (headerSize c.data) else s.size
        idat := if c.chunkType = idatType then s.idat ++ c.data else s.idat } := by
  unfold PngState.handle
  by_cases hHeader : c.chunkType = ihdrType
  · have hData : c.chunkType ≠ idatType := by
      rw [hHeader]
      decide
    rw [if_pos hHeader, if_pos hHeader, if_neg hData]
    constructor
    · intro h
      obtain ⟨size, hSize, h⟩ := ok_of_bind h
      obtain ⟨hSupported, rfl⟩ := readHeader_ok.mp hSize
      exact ⟨fun _ => hSupported, fun h => absurd h hData, (Except.ok.inj h).symm⟩
    · rintro ⟨hSupported, -, rfl⟩
      rw [readHeader_ok.mpr ⟨hSupported hHeader, rfl⟩]
      rfl
  · rw [if_neg hHeader, if_neg hHeader]
    by_cases hData : c.chunkType = idatType
    · rw [if_pos hData, if_pos hData]
      cases hSize : s.size with
      | none =>
        refine iff_of_false nofun fun h => ?_
        exact absurd (h.2.1 hData) (by decide)
      | some size =>
        exact ⟨fun h => ⟨fun h => absurd h hHeader, fun _ => rfl, (Except.ok.inj h).symm⟩,
          fun h => congrArg Except.ok h.2.2.symm⟩
    · rw [if_neg hData, if_neg hData, if_neg hOpen]
      exact ⟨fun h => ⟨fun h => absurd h hHeader, fun h => absurd h hData,
        (Except.ok.inj h).symm⟩, fun h => by rw [h.2.2]⟩

theorem handleAll_concat (s : PngState) (chunks : List Chunk) (c : Chunk) :
    handleAll s (chunks ++ [c]) =
      handleAll s chunks >>= fun next => next.handle c.chunkType c.data := by
  unfold handleAll
  rw [List.foldlM_append]
  refine congrArg _ (funext fun next => ?_)
  rw [List.foldlM_cons]
  exact bind_pure _

/-- What the chunks say, unless one of them is refused. -/
theorem handleAll_ok {chunks : List Chunk} {s : PngState}
    (hOpen : ∀ c ∈ chunks, c.chunkType ≠ iendType) :
    handleAll {} chunks = .ok s ↔
      (∀ c ∈ chunks, c.chunkType = ihdrType → SupportedHeader c.data) ∧ HeaderFirst chunks ∧
        s = { size := (lastHeader chunks).map headerSize, idat := imageData chunks } := by
  induction chunks using List.reverseRecOn generalizing s with
  | nil =>
    refine ⟨fun h => ⟨nofun, headerFirst_nil, (Except.ok.inj h).symm⟩, fun h => ?_⟩
    rw [h.2.2]
    rfl
  | append_singleton chunks c ih =>
    have hChunks : ∀ d ∈ chunks, d.chunkType ≠ iendType := fun d hMem =>
      hOpen d (List.mem_append_left _ hMem)
    have hLast : c.chunkType ≠ iendType :=
      hOpen c (List.mem_append_right _ List.mem_cons_self)
    rw [handleAll_concat, headerFirst_concat, lastHeader_concat, imageData_concat,
      List.forall_mem_append, List.forall_mem_singleton]
    constructor
    · intro h
      obtain ⟨middle, hMiddle, h⟩ := ok_of_bind h
      obtain ⟨hHeaders, hFirst, rfl⟩ := (ih hChunks).mp hMiddle
      obtain ⟨hHeader, hData, rfl⟩ := (handle_ok hLast).mp h
      refine ⟨⟨hHeaders, hHeader⟩, ⟨hFirst, fun hType => ?_⟩, ?_⟩
      · rw [← isSome_lastHeader, ← Option.isSome_map (f := headerSize)]
        exact hData hType
      · by_cases hType : c.chunkType = ihdrType
        · rw [if_pos hType, if_pos hType]
          rfl
        · rw [if_neg hType, if_neg hType]
    · rintro ⟨⟨hHeaders, hHeader⟩, ⟨hFirst, hData⟩, rfl⟩
      rw [(ih hChunks).mpr ⟨hHeaders, hFirst, rfl⟩]
      refine (handle_ok hLast).mpr ⟨hHeader, fun hType => ?_, ?_⟩
      · rw [Option.isSome_map, isSome_lastHeader]
        exact hData hType
      · by_cases hType : c.chunkType = ihdrType
        · rw [if_pos hType, if_pos hType]
          rfl
        · rw [if_neg hType, if_neg hType]

end Chunks

/-! ## Rows -/

/-- An error of the rows is that of a filter byte. -/
theorem unfilterRows_error {width height : ℕ} {raw above : Bytes} {e : PngError}
    (hRaw : raw.length = height * (1 + width))
    (h : unfilterRows width height above raw = .error e) :
    ∃ row, row < height ∧ 4 < filterByte raw width row ∧
      e = .filter (filterByte raw width row) := by
  induction height generalizing above raw e with
  | zero => exact nomatch h
  | succ height ih =>
    obtain ⟨b, line, rest, rfl, hLine, hRest⟩ := exists_row hRaw
    rw [unfilterRows_succ hLine] at h
    by_cases hBad : 4 < b
    · rw [if_pos hBad] at h
      refine ⟨0, Nat.succ_pos height, ?_⟩
      rw [filterByte_zero]
      exact ⟨hBad, (Except.error.inj h).symm⟩
    · rw [if_neg hBad] at h
      obtain hOthers | ⟨others, -, h⟩ := error_of_bind h
      · obtain ⟨row, hRow, hByte⟩ := ih hRest hOthers
        refine ⟨row + 1, Nat.succ_lt_succ hRow, ?_⟩
        rwa [filterByte_succ hLine]
      · exact nomatch h

/-- The rows are restored when every filter byte is one of the standard ones. -/
theorem unfilter_ok_iff {width height : ℕ} {raw : Bytes}
    (hRaw : raw.length = height * (width + 1)) :
    (∃ pixels, unfilter raw width height = .ok pixels) ↔
      ∀ row, row < height → filterByte raw width row ≤ 4 := by
  constructor
  · rintro ⟨pixels, h⟩ row hRow
    by_contra hBad
    obtain ⟨b, hError⟩ :=
      unfilterRows_bad ((Nat.add_comm width 1) ▸ hRaw) hRow (UInt8.not_le.mp hBad)
        (List.replicate width 0)
    exact nomatch hError.symm.trans h
  · intro hGood
    cases h : unfilter raw width height with
    | error e =>
      rw [Nat.add_comm] at hRaw
      obtain ⟨row, hRow, hBad, -⟩ := unfilterRows_error hRaw h
      exact absurd (hGood row hRow) (UInt8.not_le.mpr hBad)
    | ok pixels => exact ⟨pixels, rfl⟩

/-! ## Files -/

/-- A file of chunks whose headers satisfy a condition, with an image inside. -/
structure PngFile (zlib : Zlib) (supported : Bytes → Prop) where
  before : List Chunk
  iend : Chunk
  trailing : Bytes
  header : Bytes
  scanlines : Bytes
  before_open : ∀ c ∈ before, c.chunkType ≠ iendType
  iend_type : iend.chunkType = iendType
  headers_supported : ∀ c ∈ before, c.chunkType = ihdrType → supported c.data
  header_first : HeaderFirst before
  header_last : lastHeader before = some header
  imageData_nonempty : imageData before ≠ []
  inflates : zlib.decompress (imageData before) = some scanlines
  length_scanlines : scanlines.length = (headerSize header).2 * ((headerSize header).1 + 1)
  filters : ∀ row, row < (headerSize header).2 →
    filterByte scanlines (headerSize header).1 row ≤ 4

def PngFile.bytes {zlib : Zlib} {supported : Bytes → Prop} (file : PngFile zlib supported) :
    Bytes :=
  pngSignature ++
    (file.before.flatMap (Chunk.bytes zlib) ++ (file.iend.bytes zlib ++ file.trailing))

section Files

variable {zlib : Zlib}

/-- The checks of the decoder that a result has passed. -/
theorem decodeGrayscalePng_ok {data pixels : Bytes} {width height : ℕ} :
    decodeGrayscalePng zlib data = .ok (width, height, pixels) ↔
      ∃ rest s raw, data = pngSignature ++ rest ∧ readChunks zlib {} rest = .ok s ∧
        s.size = some (width, height) ∧ s.seenIend = true ∧ s.idat ≠ [] ∧
        zlib.decompress s.idat = some raw ∧ raw.length = height * (1 + width) ∧
        unfilter raw width height = .ok pixels := by
  unfold decodeGrayscalePng
  constructor
  · intro h
    split at h
    · exact nomatch h
    rename_i hSignature
    rw [Bool.not_eq_true', Bool.not_eq_false] at hSignature
    obtain ⟨rest, rfl⟩ := List.isPrefixOf_iff_prefix.mp hSignature
    rw [List.drop_left] at h
    obtain ⟨s, hChunks, h⟩ := ok_of_bind h
    cases hSize : s.size with
    | none =>
      rw [hSize] at h
      exact nomatch h
    | some size =>
      rw [hSize] at h
      dsimp only at h
      split at h
      · exact nomatch h
      rename_i hEnd
      split at h
      · exact nomatch h
      rename_i hData
      split at h
      · exact nomatch h
      rename_i raw hInflate
      split at h
      · exact nomatch h
      rename_i hLength
      obtain ⟨restored, hPixels, h⟩ := ok_of_bind h
      cases h
      rw [Bool.not_eq_true', Bool.not_eq_false] at hEnd
      rw [List.isEmpty_iff] at hData
      exact ⟨rest, s, raw, rfl, hChunks, hSize, hEnd, hData, hInflate, not_not.mp hLength, hPixels⟩
  · rintro ⟨rest, s, raw, rfl, hChunks, hSize, hEnd, hData, hInflate, hLength, hPixels⟩
    have hSignature : pngSignature.isPrefixOf (pngSignature ++ rest) = true :=
      List.isPrefixOf_iff_prefix.mpr (List.prefix_append _ _)
    have hSome : s.idat.isEmpty = false := List.isEmpty_eq_false_iff.mpr hData
    rw [hSignature, List.drop_left]
    simp only [bind, Except.bind, pure, Except.pure, Bool.not_true, Bool.false_eq_true, if_false]
    rw [hChunks]
    dsimp only
    rw [hSize, hEnd, hSome]
    simp only [Bool.not_true, Bool.false_eq_true, if_false]
    rw [hInflate]
    dsimp only
    rw [if_neg (not_not.mpr hLength), hPixels]

/-- The decoder returns a result exactly for the files with supported headers, and then with the
size of the last one. -/
theorem decodeGrayscalePng_file {data : Bytes} {width height : ℕ} :
    (∃ pixels, decodeGrayscalePng zlib data = .ok (width, height, pixels)) ↔
      ∃ file : PngFile zlib SupportedHeader,
        file.bytes = data ∧ headerSize file.header = (width, height) := by
  constructor
  · rintro ⟨pixels, h⟩
    obtain ⟨rest, s, raw, rfl, hChunks, hSize, hEnd, hData, hInflate, hLength, hPixels⟩ :=
      decodeGrayscalePng_ok.mp h
    obtain ⟨before, iend, trailing, rfl, hType, hBefore, hAll⟩ := readChunks_ok rfl hChunks hEnd
    cases hHandled : handleAll {} before with
    | error e =>
      rw [hHandled] at hAll
      exact nomatch hAll
    | ok known =>
      rw [hHandled] at hAll
      cases hAll
      obtain ⟨hHeaders, hFirst, rfl⟩ := (handleAll_ok hBefore).mp hHandled
      obtain ⟨header, hLast, hHeader⟩ := Option.map_eq_some_iff.mp hSize
      have hGood := (unfilter_ok_iff (Nat.add_comm 1 width ▸ hLength)).mp ⟨pixels, hPixels⟩
      refine ⟨{
        before := before, iend := iend, trailing := trailing, header := header, scanlines := raw
        before_open := hBefore, iend_type := hType, headers_supported := hHeaders
        header_first := hFirst, header_last := hLast, imageData_nonempty := hData
        inflates := hInflate
        length_scanlines := ?_
        filters := ?_ }, rfl, hHeader⟩
      · rw [hHeader, Nat.add_comm]
        exact hLength
      · rw [hHeader]
        exact hGood
  · rintro ⟨file, rfl, hHeader⟩
    have hLength := file.length_scanlines
    have hFilters := file.filters
    rw [hHeader] at hLength hFilters
    obtain ⟨pixels, hPixels⟩ := (unfilter_ok_iff hLength).mpr hFilters
    refine ⟨pixels, decodeGrayscalePng_ok.mpr ⟨_, _, file.scanlines, rfl,
      readChunks_chunks file.trailing rfl file.iend_type file.before_open
        ((handleAll_ok file.before_open).mpr
          ⟨file.headers_supported, file.header_first, rfl⟩), ?_, rfl,
      file.imageData_nonempty, file.inflates, Nat.add_comm 1 width ▸ hLength, hPixels⟩⟩
    dsimp only
    rw [file.header_last]
    exact congrArg some hHeader

/-! ## Errors -/

theorem handle_error {s : PngState} {chunkType chunkData : Bytes} {e : PngError}
    (h : s.handle chunkType chunkData = .error e) : e ≠ .structError := by
  unfold PngState.handle at h
  split at h
  · obtain hHeader | ⟨size, -, h⟩ := error_of_bind h
    · unfold readHeader at hHeader
      dsimp only at hHeader
      split at hHeader
      · cases hHeader
        nofun
      · split at hHeader
        · cases hHeader
          nofun
        · split at hHeader
          · cases hHeader
            nofun
          · split at hHeader
            · cases hHeader
              nofun
            · exact nomatch hHeader
    · exact nomatch h
  · split at h
    · split at h
      · cases h
        nofun
      · exact nomatch h
    · split at h <;> exact nomatch h

theorem readChunk_error {data : Bytes} {e : PngError} (h : readChunk zlib data = .error e) :
    e ≠ .structError := by
  unfold readChunk at h
  dsimp only at h
  split at h
  · cases h
    nofun
  · split at h
    · cases h
      nofun
    · split at h
      · cases h
        nofun
      · exact nomatch h

theorem readChunks_error {s : PngState} {data : Bytes} {e : PngError}
    (h : readChunks zlib s data = .error e) : e ≠ .structError := by
  generalize hLeft : data.length = left
  induction left using Nat.strongRecOn generalizing s data with
  | ind left ih =>
    by_cases hStop : data.isEmpty = true ∨ s.seenIend = true
    · unfold readChunks at h
      rw [if_pos hStop] at h
      exact nomatch h
    · obtain ⟨hData, hOpen⟩ := not_or.mp hStop
      rw [List.isEmpty_iff] at hData
      rw [Bool.not_eq_true] at hOpen
      rw [Checked.readChunks_chunk hData hOpen] at h
      obtain hRead | ⟨⟨chunkType, chunkData, rest⟩, hRead, h⟩ := error_of_bind h
      · exact readChunk_error hRead
      · obtain hHandle | ⟨next, -, h⟩ := error_of_bind h
        · exact handle_error hHandle
        · exact ih rest.length (hLeft ▸ length_readChunk zlib hRead) h rfl

theorem decodeGrayscalePng_error {data : Bytes} {e : PngError}
    (h : decodeGrayscalePng zlib data = .error e) : e ≠ .structError := by
  unfold decodeGrayscalePng at h
  split at h
  · cases h
    nofun
  obtain hChunks | ⟨s, -, h⟩ := error_of_bind h
  · exact readChunks_error hChunks
  cases hSize : s.size with
  | none =>
    rw [hSize] at h
    cases h
    nofun
  | some size =>
    rw [hSize] at h
    dsimp only at h
    split at h
    · cases h
      nofun
    split at h
    · cases h
      nofun
    split at h
    · cases h
      nofun
    split at h
    · cases h
      nofun
    rename_i hLength
    obtain hRows | ⟨pixels, -, h⟩ := error_of_bind h
    · obtain ⟨row, -, -, rfl⟩ := unfilterRows_error (not_not.mp hLength) hRows
      nofun
    · exact nomatch h

end Files

/-- On every byte string the decoder returns an image with the pixels that it should have or raises
one of its own errors, and it returns the images of the files with supported headers. The reads of
the code never leave its buffers (`Checked.decodeGrayscalePng_eq`), so both parts are about the
decoder over lists, whose images are those of the files (`decodeGrayscalePng_file`). -/
theorem decodeGrayscalePng_outcome (zlib : Zlib) (data : Bytes) :
    ((∃ width height pixels,
        Checked.decodeGrayscalePng zlib data = .ok (width, height, pixels) ∧
          pixels.length = width * height) ∨
      ∃ e, e ≠ .structError ∧ Checked.decodeGrayscalePng zlib data = .error (.png e)) ∧
    ∀ width height,
      (∃ pixels, Checked.decodeGrayscalePng zlib data = .ok (width, height, pixels)) ↔
        ∃ file : PngFile zlib SupportedHeader,
          file.bytes = data ∧ headerSize file.header = (width, height) := by
  have hSame := Checked.decodeGrayscalePng_eq zlib data
  cases hDecoded : decodeGrayscalePng zlib data with
  | error e =>
    rw [hDecoded] at hSame
    refine ⟨Or.inr ⟨e, decodeGrayscalePng_error hDecoded, hSame⟩, fun width height => ?_⟩
    rw [← decodeGrayscalePng_file, hSame, hDecoded]
    exact iff_of_false nofun nofun
  | ok image =>
    obtain ⟨width, height, pixels⟩ := image
    rw [hDecoded] at hSame
    refine ⟨Or.inl ⟨width, height, pixels, hSame, length_of_decodeGrayscalePng hDecoded⟩,
      fun width' height' => ?_⟩
    rw [← decodeGrayscalePng_file, hSame, hDecoded]
    exact exists_congr fun other =>
      ⟨fun h => congrArg _ (Except.ok.inj h), fun h => congrArg _ (Except.ok.inj h)⟩

/-! ## A header with another compression method -/

def crcBit (crc : UInt32) : UInt32 :=
  if crc &&& 1 = 1 then (crc >>> 1) ^^^ 0xEDB88320 else crc >>> 1

/-- The checksum of `zlib`, bit by bit. -/
def crc32 (data : Bytes) : UInt32 :=
  data.foldl (fun crc byte => crcBit^[8] (crc ^^^ byte.toUInt32)) 0xFFFFFFFF ^^^ 0xFFFFFFFF

/-- The scanline of one pixel, and what `zlib` makes of it. -/
def grayScanline : Bytes := [0, 7]
def grayStream : Bytes := [120, 218, 99, 96, 7, 0, 0, 9, 0, 8]

/-- `zlib` on that scanline; other data is stored behind a byte that no stream begins with. -/
def grayZlib : Zlib where
  compress data := if data = grayScanline then grayStream else 0 :: data
  decompress stream :=
    if stream = grayStream then some grayScanline
    else match stream with
      | 0 :: data => some data
      | _ => none
  crc32 := crc32
  decompress_compress data := by
    by_cases h : data = grayScanline
    · rw [if_pos h, if_pos rfl, h]
    · have hStored : (0 :: data : Bytes) ≠ grayStream := by
        intro hEq
        exact absurd (List.cons.inj hEq).1 (by decide)
      rw [if_neg h, if_neg hStored]
      rfl
  decompress_nil := rfl

/-- A header of one gray pixel whose compression method is 1. -/
def methodHeader : Chunk where
  chunkType := ihdrType
  data := packWord 1 ++ packWord 1 ++ [bitDepth, grayscaleColorType, 1, 0, 0]
  length_chunkType := rfl
  length_data := by decide

def grayData : Chunk where
  chunkType := idatType
  data := grayStream
  length_chunkType := rfl
  length_data := by decide

def endChunk : Chunk where
  chunkType := iendType
  data := []
  length_chunkType := rfl
  length_data := by decide

/-- A file with that header. -/
def methodFile : PngFile grayZlib DescribesGrayscale where
  before := [methodHeader, grayData]
  iend := endChunk
  trailing := []
  header := methodHeader.data
  scanlines := grayScanline
  before_open := by decide
  iend_type := rfl
  headers_supported := by
    refine List.forall_mem_cons.mpr ⟨fun _ => ⟨rfl, rfl, rfl, rfl⟩, ?_⟩
    exact List.forall_mem_singleton.mpr fun h => absurd h (by decide)
  header_first := by
    change HeaderFirst (([] ++ [methodHeader]) ++ [grayData])
    rw [headerFirst_concat, headerFirst_concat]
    exact ⟨⟨headerFirst_nil, fun h => absurd h (by decide)⟩,
      fun _ => ⟨methodHeader, List.mem_singleton_self _, rfl⟩⟩
  header_last := rfl
  imageData_nonempty := by decide
  inflates := by decide
  length_scanlines := by decide
  filters := by decide

/-- The decoder refuses another compression method. -/
theorem decodeGrayscalePng_method :
    ¬ ((∃ image, Checked.decodeGrayscalePng grayZlib methodFile.bytes = .ok image) ↔
      ∃ file : PngFile grayZlib DescribesGrayscale, file.bytes = methodFile.bytes) := by
  have hBody : methodFile.bytes.drop pngSignature.length =
      methodHeader.bytes grayZlib ++ (grayData.bytes grayZlib ++ endChunk.bytes grayZlib) := by
    change (pngSignature ++ ([methodHeader, grayData].flatMap (Chunk.bytes grayZlib) ++
      (endChunk.bytes grayZlib ++ []))).drop pngSignature.length = _
    rw [List.drop_left, List.flatMap_cons, List.flatMap_cons, List.flatMap_nil, List.append_nil,
      List.append_nil, List.append_assoc]
  have hHandle : PngState.handle {} methodHeader.chunkType methodHeader.data = .error .method := rfl
  have hDecoded : decodeGrayscalePng grayZlib methodFile.bytes = .error .method := by
    have hSignature : pngSignature.isPrefixOf methodFile.bytes = true :=
      List.isPrefixOf_iff_prefix.mpr (List.prefix_append _ _)
    unfold decodeGrayscalePng
    rw [hSignature, hBody, readChunks_refused _ rfl hHandle]
    rfl
  rw [Checked.decodeGrayscalePng_eq, hDecoded]
  exact fun h => nomatch h.mpr ⟨methodFile, rfl⟩

end PreRunner.Maps
