import PreRunner.Maps.PngCodec

/-!
# The PNG round trip

The decoder returns what the encoder was given, whatever the shape of the image, and every image
that it returns has as many pixels as it says.

The chunks are read back one after the other, each with its checksum, and the scanlines carry
filter type 0. `zlib` enters with the one law that inflating undoes deflating.
-/

namespace PreRunner.Maps

open Runs

variable {zlib : Zlib}

/-! ## Chunks -/

theorem structPack_ok {value : ℕ} (h : value < 2 ^ 32) : structPack value = .ok (packWord value) :=
  if_pos h

theorem structPack_error {value : ℕ} (h : 2 ^ 32 ≤ value) :
    structPack value = .error .structError :=
  if_neg (not_lt.mpr h)

/-- The bytes of a chunk that fits. -/
def chunkBytes (zlib : Zlib) (chunkType data : Bytes) : Bytes :=
  packWord data.length ++ chunkType ++ data ++ packWord (zlib.crc32 (chunkType ++ data)).toNat

theorem pngChunk_ok {chunkType data : Bytes} (h : data.length < 2 ^ 32) :
    pngChunk zlib chunkType data = .ok (chunkBytes zlib chunkType data) := by
  unfold pngChunk
  rw [structPack_ok h, structPack_ok (UInt32.toNat_lt _)]
  rfl

theorem readChunk_chunkBytes {chunkType data : Bytes} (hType : chunkType.length = 4)
    (h : data.length < 2 ^ 32) (rest : Bytes) :
    readChunk zlib (chunkBytes zlib chunkType data ++ rest) = .ok (chunkType, data, rest) := by
  set crc := packWord (zlib.crc32 (chunkType ++ data)).toNat with hCrc
  have hCrcLength : crc.length = 4 := length_packWord _
  have hSplit : chunkBytes zlib chunkType data ++ rest =
      packWord data.length ++ (chunkType ++ (data ++ (crc ++ rest))) := by
    unfold chunkBytes
    rw [← hCrc]
    simp only [List.append_assoc]
  have hTail : (packWord data.length ++ (chunkType ++ (data ++ (crc ++ rest)))).drop 8 =
      data ++ (crc ++ rest) := by
    rw [← List.append_assoc]
    exact List.drop_left' (by rw [List.length_append, length_packWord, hType])
  have hLength : unpackWord ((packWord data.length ++
    (chunkType ++ (data ++ (crc ++ rest)))).take 4)
      = data.length := by
    rw [List.take_left' (length_packWord _), unpackWord_packWord h]
  have hTypeRead : ((packWord data.length ++ (chunkType ++ (data ++ (crc ++ rest)))).drop 4).take 4
      = chunkType := by
    rw [List.drop_left' (length_packWord _), List.take_left' hType]
  have hCrcRead : unpackWord (((packWord data.length ++ (chunkType ++ (data ++ (crc ++ rest)))).drop
      (8 + data.length)).take 4) = (zlib.crc32 (chunkType ++ data)).toNat := by
    rw [← List.drop_drop, hTail, List.drop_left' rfl, List.take_left' hCrcLength, hCrc,
      unpackWord_packWord (UInt32.toNat_lt _)]
  have hRest : (packWord data.length ++ (chunkType ++ (data ++ (crc ++ rest)))).drop
      (8 + data.length + 4) = rest := by
    rw [← List.drop_drop, ← List.drop_drop, hTail, List.drop_left' rfl, List.drop_left' hCrcLength]
  have hSize : (packWord data.length ++ (chunkType ++ (data ++ (crc ++ rest)))).length =
      12 + data.length + rest.length := by
    simp only [List.length_append, length_packWord, hType, hCrcLength]
    omega
  rw [hSplit]
  unfold readChunk
  dsimp only
  rw [if_neg (by rw [hSize]; omega), hLength, hTypeRead, if_neg (by rw [hSize]; omega), hTail,
    List.take_left' rfl, hCrcRead, hRest, if_neg (not_not.mpr rfl)]

/-! ## Scanlines -/

theorem unfilterLine_none (a c : UInt8) (line above : Bytes) :
    unfilterLine 0 a c line above = line := by
  induction line generalizing a c above with
  | nil => rfl
  | cons x line ih =>
    unfold unfilterLine
    dsimp only
    rw [ih, show predictor 0 a (above.headD 0) c = 0 from rfl, UInt8.add_zero]

theorem unfilterRows_none {width : ℕ} {lines : List Bytes}
    (h : ∀ line ∈ lines, line.length = width) (above : Bytes) :
    unfilterRows width lines.length above (lines.flatMap fun line => 0 :: line) =
      .ok lines.flatten := by
  induction lines generalizing above with
  | nil => rfl
  | cons line lines ih =>
    have hLine := h line List.mem_cons_self
    have hIh := ih (fun other hOther => h other (List.mem_cons_of_mem _ hOther)) line
    have hTake : ((0 :: line ++ lines.flatMap fun line => 0 :: line).drop 1).take width = line :=
      List.take_left' hLine
    have hDrop : (0 :: line ++ lines.flatMap fun line => 0 :: line).drop (1 + width) =
        lines.flatMap fun line => 0 :: line :=
      List.drop_left' (by rw [List.length_cons, hLine, Nat.add_comm])
    rw [List.length_cons, List.flatMap_cons, List.flatten_cons]
    unfold unfilterRows
    dsimp only
    rw [hTake, hDrop, List.cons_append, List.headD_cons, if_neg (by decide), unfilterLine_none, hIh]
    rfl

theorem unfilter_scanlines {width height : ℕ} {pixels : Bytes}
    (h : pixels.length = width * height) :
    unfilter (scanlines width height pixels) width height = .ok pixels := by
  have hRows := unfilterRows_none (fun _ hRow => length_of_mem_rows h hRow)
    (List.replicate width 0)
  rw [length_rows, flatten_rows h] at hRows
  exact hRows

theorem length_scanlines {width height : ℕ} {pixels : Bytes}
    (h : pixels.length = width * height) :
    (scanlines width height pixels).length = height * (1 + width) := by
  have hLines : ∀ line ∈ (rows width height pixels).map fun row => (0 :: row : Bytes),
      line.length = 1 + width := by
    intro line hLine
    obtain ⟨row, hRow, rfl⟩ := List.mem_map.mp hLine
    rw [List.length_cons, length_of_mem_rows h hRow, Nat.add_comm]
  show ((rows width height pixels).map fun row => (0 :: row : Bytes)).flatten.length = _
  rw [length_flatten_rows hLines, List.length_map, length_rows, Nat.mul_comm]

/-- The scanlines determine the pixels. -/
theorem scanlines_injective {width height : ℕ} {first second : Bytes}
    (hFirst : first.length = width * height) (hSecond : second.length = width * height)
    (h : scanlines width height first = scanlines width height second) : first = second := by
  have hDecoded := unfilter_scanlines hFirst
  rw [h, unfilter_scanlines hSecond] at hDecoded
  exact (Except.ok.inj hDecoded).symm

/-! ## Encoding, then decoding -/

/-- The header that the encoder writes. -/
def headerBytes (width height : ℕ) : Bytes :=
  packWord width ++ packWord height ++ [bitDepth, grayscaleColorType, 0, 0, 0]

theorem readHeader_headerBytes {width height : ℕ} (hWidth : width < 2 ^ 32)
    (hHeight : height < 2 ^ 32) : readHeader (headerBytes width height) = .ok (width, height) := by
  have hFirst : unpackWord ((headerBytes width height).take 4) = width :=
    unpackWord_packWord hWidth
  have hSecond : unpackWord (((headerBytes width height).drop 4).take 4) = height :=
    unpackWord_packWord hHeight
  unfold readHeader
  dsimp only
  rw [if_neg (show ¬ (headerBytes width height).length ≠ 13 from not_not.mpr rfl), hFirst, hSecond]
  rfl

/-- The image that the encoder writes when the compressed scanlines fit into one chunk. -/
def pngBytes (zlib : Zlib) (width height : ℕ) (pixels : Bytes) : Bytes :=
  pngSignature ++ chunkBytes zlib ihdrType (headerBytes width height) ++
    chunkBytes zlib idatType (zlib.compress (scanlines width height pixels)) ++
    chunkBytes zlib iendType []

/-- The encoder has no answer for dimensions that a header cannot hold. -/
theorem encodeGrayscalePng_ok {width height : ℤ} {pixels png : Bytes}
    (h : encodeGrayscalePng zlib width height pixels = .ok png) :
    0 < width ∧ 0 < height ∧ width.toNat < 2 ^ 32 ∧ height.toNat < 2 ^ 32 := by
  unfold encodeGrayscalePng at h
  simp only [bind, Except.bind, pure, Except.pure, throw, throwThe, MonadExceptOf.throw] at h
  split at h
  · cases h
  rename_i hPositive
  split at h
  · cases h
  by_cases hWidth : width.toNat < 2 ^ 32
  · by_cases hHeight : height.toNat < 2 ^ 32
    · exact ⟨by omega, by omega, hWidth, hHeight⟩
    · rw [structPack_ok hWidth, structPack_error (not_lt.mp hHeight)] at h
      cases h
  · rw [structPack_error (not_lt.mp hWidth)] at h
    cases h

/-- The encoder's outcome on an image of the right size. -/
theorem encodeGrayscalePng_cases {width height : ℕ} {pixels : Bytes} (hWidth : 0 < width)
    (hHeight : 0 < height) (hPixels : pixels.length = width * height) (hW : width < 2 ^ 32)
    (hH : height < 2 ^ 32) :
    encodeGrayscalePng zlib width height pixels =
      if (zlib.compress (scanlines width height pixels)).length < 2 ^ 32 then
        .ok (pngBytes zlib width height pixels)
      else .error .structError := by
  have hPositive : ¬ ((width : ℤ) ≤ 0 ∨ (height : ℤ) ≤ 0) := by omega
  have hLength : ¬ (pixels.length : ℤ) ≠ width * height := by
    rw [hPixels]
    push_cast
    exact not_not.mpr rfl
  have hHeader : (packWord width ++ packWord height ++
      [bitDepth, grayscaleColorType, 0, 0, 0]).length < 2 ^ 32 := by
    show 13 < 2 ^ 32
    decide
  have hEmpty : ([] : Bytes).length < 2 ^ 32 := by decide
  unfold encodeGrayscalePng
  rw [if_neg hPositive, if_neg hLength, Int.toNat_natCast, Int.toNat_natCast, structPack_ok hW,
    structPack_ok hH]
  by_cases hFits : (zlib.compress (scanlines width height pixels)).length < 2 ^ 32
  · rw [if_pos hFits]
    simp only [bind, Except.bind, pure, Except.pure]
    rw [pngChunk_ok hHeader, pngChunk_ok hFits, pngChunk_ok hEmpty]
    rfl
  · rw [if_neg hFits]
    have hIdat : pngChunk zlib idatType (zlib.compress (scanlines width height pixels)) =
        .error .structError := by
      unfold pngChunk
      rw [structPack_error (not_lt.mp hFits)]
      rfl
    simp only [bind, Except.bind, pure, Except.pure]
    rw [pngChunk_ok hHeader, hIdat]

theorem readChunks_chunkBytes {s next : PngState} {chunkType data rest : Bytes}
    (hType : chunkType.length = 4) (h : data.length < 2 ^ 32) (hOpen : s.seenIend = false)
    (hHandle : s.handle chunkType data = .ok next) :
    readChunks zlib s (chunkBytes zlib chunkType data ++ rest) = readChunks zlib next rest := by
  have hSome : (chunkBytes zlib chunkType data ++ rest).isEmpty = false := rfl
  conv_lhs => unfold readChunks
  rw [hSome, hOpen, if_neg (by decide)]
  split
  · rename_i hRead
    rw [readChunk_chunkBytes hType h] at hRead
    cases hRead
  · rename_i hRead
    rw [readChunk_chunkBytes hType h] at hRead
    cases hRead
    rw [hHandle]

/-- The decoder returns the image. -/
theorem decodeGrayscalePng_pngBytes {width height : ℕ} {pixels : Bytes} (hW : width < 2 ^ 32)
    (hH : height < 2 ^ 32) (hPixels : pixels.length = width * height)
    (hFits : (zlib.compress (scanlines width height pixels)).length < 2 ^ 32) :
    decodeGrayscalePng zlib (pngBytes zlib width height pixels) = .ok (width, height, pixels) := by
  set idat := zlib.compress (scanlines width height pixels) with hIdat
  have hHeader : (headerBytes width height).length < 2 ^ 32 := by
    show 13 < 2 ^ 32
    decide
  have hSignature : pngSignature.isPrefixOf (pngBytes zlib width height pixels) = true := rfl
  have hBody : (pngBytes zlib width height pixels).drop pngSignature.length =
      chunkBytes zlib ihdrType (headerBytes width height) ++
        (chunkBytes zlib idatType idat ++ (chunkBytes zlib iendType [] ++ [])) := by
    unfold pngBytes
    rw [List.append_assoc, List.append_assoc, List.drop_left' rfl, List.append_nil]
  have hFirst : PngState.handle {} ihdrType (headerBytes width height) =
      .ok { size := some (width, height) } := by
    unfold PngState.handle
    rw [if_pos rfl, readHeader_headerBytes hW hH]
    rfl
  have hSecond : PngState.handle { size := some (width, height) } idatType idat =
      .ok { size := some (width, height), idat := idat } := rfl
  have hThird : PngState.handle { size := some (width, height), idat := idat } iendType [] =
      .ok { size := some (width, height), idat := idat, seenIend := true } := rfl
  have hChunks : readChunks zlib {} ((pngBytes zlib width height pixels).drop pngSignature.length) =
      .ok { size := some (width, height), idat := idat, seenIend := true } := by
    rw [hBody, readChunks_chunkBytes rfl hHeader rfl hFirst,
      readChunks_chunkBytes rfl hFits rfl hSecond,
      readChunks_chunkBytes rfl (by decide) rfl hThird]
    unfold readChunks
    exact if_pos (Or.inl rfl)
  have hNotEmpty : idat.isEmpty = false := by
    rw [List.isEmpty_eq_false_iff]
    exact zlib.compress_ne_nil _
  unfold decodeGrayscalePng
  rw [hSignature]
  simp only [bind, Except.bind, pure, Except.pure, Bool.not_true, Bool.false_eq_true, if_false]
  rw [hChunks]
  dsimp only
  rw [hNotEmpty]
  simp only [Bool.not_true, Bool.false_eq_true, if_false]
  rw [hIdat, zlib.decompress_compress]
  dsimp only
  rw [if_neg (not_not.mpr (length_scanlines hPixels)), unfilter_scanlines hPixels]

/-! ## What the decoder returns -/

theorem length_unfilterLine (filterType a c : UInt8) (line above : Bytes) :
    (unfilterLine filterType a c line above).length = line.length := by
  induction line generalizing a c above with
  | nil => rfl
  | cons x line ih => exact congrArg (· + 1) (ih ..)

theorem length_unfilterRows {width height : ℕ} {above raw pixels : Bytes}
    (hRaw : raw.length = height * (1 + width))
    (h : unfilterRows width height above raw = .ok pixels) : pixels.length = width * height := by
  induction height generalizing above raw pixels with
  | zero =>
    cases h
    rfl
  | succ height ih =>
    rw [Nat.succ_mul] at hRaw
    unfold unfilterRows at h
    dsimp only at h
    split at h
    · cases h
    · simp only [bind, Except.bind, pure, Except.pure] at h
      split at h
      · cases h
      · rename_i rest hRest
        cases h
        have hLength := ih (by rw [List.length_drop]; omega) hRest
        rw [List.length_append, length_unfilterLine, hLength, List.length_take, List.length_drop,
          Nat.mul_succ]
        omega

/-- A decoded image has the number of pixels that its header says. -/
theorem length_of_decodeGrayscalePng {data pixels : Bytes} {width height : ℕ}
    (h : decodeGrayscalePng zlib data = .ok (width, height, pixels)) :
    pixels.length = width * height := by
  unfold decodeGrayscalePng at h
  simp only [bind, Except.bind, pure, Except.pure, throw, throwThe, MonadExceptOf.throw] at h
  split at h
  · cases h
  split at h
  · cases h
  split at h
  · cases h
  split at h
  · cases h
  split at h
  · cases h
  split at h
  · cases h
  split at h
  · cases h
  rename_i hLength
  split at h
  · cases h
  rename_i hUnfilter
  cases h
  exact length_unfilterRows (not_not.mp hLength) hUnfilter

end PreRunner.Maps
