import Mathlib.Algebra.Order.Ring.Nat
import PreRunner.Maps.MapBundle
import PreRunner.Maps.PngRoundTrip

/-!
# The semantic raster

A semantic raster has a class for every cell of a map's occupancy raster and is stored as a
grayscale PNG in the bundle. This module follows `runner_paddock/semantics.py` and shows that what
is written is read back, that only class values pass in either direction, and when the encoder
has no answer: a PNG chunk holds less than `2 ^ 32` bytes, and no compression brings every large
raster below that.
-/

namespace PreRunner.Maps

open Runs

def classUnclassified : UInt8 := 0
def classCaution : UInt8 := 1
def classLethal : UInt8 := 2

def validClassValues : List UInt8 := [classUnclassified, classCaution, classLethal]

/-- `_reject_unsupported_values`. -/
def rejectUnsupportedValues (data : Bytes) : Except MapError Unit :=
  let invalid := data.filter (· ∉ validClassValues)
  if invalid.isEmpty then .ok () else .error (.semanticValues (invalid.dedup.mergeSort (· ≤ ·)))

section Codec

variable (zlib : Zlib)

/-- Encode a grid-row-major class buffer to PNG bytes. -/
def encodeSemanticsPng (width height : ℤ) (gridData : Bytes) : Except MapError Bytes := do
  if width ≤ 0 ∨ height ≤ 0 then throw .semanticDimensions
  if (gridData.length : ℤ) ≠ width * height then
    throw (.semanticLength (width * height) gridData.length)
  rejectUnsupportedValues gridData
  (encodeGrayscalePng zlib width height (flip width.toNat height.toNat gridData)).mapError .png

/-- Decode PNG bytes to a grid-row-major class buffer. -/
def decodeSemanticsPng (data : Bytes) (expectedWidth expectedHeight : ℤ) :
    Except MapError Bytes := do
  let (width, height, imageOrder) ← (decodeGrayscalePng zlib data).mapError .decode
  if ((width : ℤ), (height : ℤ)) ≠ (expectedWidth, expectedHeight) then
    throw (.semanticSize (width, height) (expectedWidth, expectedHeight))
  let gridData := flip width height imageOrder
  rejectUnsupportedValues gridData
  return gridData

end Codec

section Bundle

variable (zlib : Zlib) (lib : BundleLibrary)

/-- The class buffer of a bundle, or `none` when the file is absent. -/
def readSemantics (fs : FileSystem) (mapDir : FilePath) (mapId : String)
    (expectedWidth expectedHeight : ℤ) : Except MapError (Option Bytes) := do
  let base ← mapDirectory mapDir mapId
  match fs.file (base ++ [semanticsName]) with
  | none => return none
  | some data =>
    if data.isEmpty then throw .semanticEmpty
    return some (← decodeSemanticsPng zlib data expectedWidth expectedHeight)

/-- `isinstance(created, (int, float))`, else the present time. -/
def createdOr (now : PyFloat) : Option PyValue → PyValue
  | some (.bool value) => .bool value
  | some (.int value) => .int value
  | some (.float value) => .float value
  | _ => .float now

/-- Which of the two atomic writes of `write_semantics` the operating system carries out. -/
structure WriteOutcome where
  semantics : Bool
  manifest : Bool

/-- Validate and persist one semantic raster, and then the manifest. -/
def writeSemantics (outcome : WriteOutcome) (now : PyFloat) (fs : FileSystem) (mapDir : FilePath)
    (mapId : String) (gridData : Bytes) : FileSystem × Except MapError Unit :=
  let blob : Except MapError (FilePath × Bytes) := do
    let info ← validateBundle lib fs mapDir mapId
    let blob ← encodeSemanticsPng zlib info.width info.height gridData
    return (← mapDirectory mapDir mapId, blob)
  match blob with
  | .error error => (fs, .error error)
  | .ok (base, blob) =>
    if !outcome.semantics then (fs, .error .osError)
    else
      let fs := fs.write (base ++ [semanticsName]) blob
      let previous := (readManifest lib fs base).getD []
      let sessionId := manifestText lib previous "session_id"
      let created := createdOr now (PyDict.get? previous "created")
      match buildManifest lib fs sessionId mapId base created with
      | .error error => (fs, .error (.python error))
      | .ok manifest =>
        if !outcome.manifest then (fs, .error .osError)
        else (fs.write (base ++ [manifestName]) (lib.dumps manifest), .ok ())

end Bundle

/-! ## Class values -/

/-- Every byte is a class value. -/
def Classes (data : Bytes) : Prop := ∀ value ∈ data, value ∈ validClassValues

theorem rejectUnsupportedValues_cases (data : Bytes) :
    (Classes data ∧ rejectUnsupportedValues data = .ok ()) ∨
      (¬ Classes data ∧ ∃ error, rejectUnsupportedValues data = .error error) := by
  unfold rejectUnsupportedValues Classes
  dsimp only
  by_cases h : (data.filter (· ∉ validClassValues)).isEmpty = true
  · refine Or.inl ⟨?_, if_pos h⟩
    rw [List.isEmpty_iff, List.filter_eq_nil_iff] at h
    intro value hValue
    simpa using h value hValue
  · refine Or.inr ⟨fun hClasses => h ?_, _, if_neg h⟩
    rw [List.isEmpty_iff, List.filter_eq_nil_iff]
    intro value hValue
    simpa using hClasses value hValue

section Codec

variable (zlib : Zlib)

/-- The encoder accepts only class buffers of the right length. -/
theorem encodeSemanticsPng_ok {width height : ℤ} {gridData png : Bytes}
    (h : encodeSemanticsPng zlib width height gridData = .ok png) :
    (gridData.length : ℤ) = width * height ∧ Classes gridData := by
  unfold encodeSemanticsPng at h
  simp only [bind, Except.bind, throw, throwThe, MonadExceptOf.throw] at h
  split at h
  · cases h
  split at h
  · cases h
  rename_i hLength
  rcases rejectUnsupportedValues_cases gridData with ⟨hClasses, -⟩ | ⟨-, error, hError⟩
  · exact ⟨not_not.mp hLength, hClasses⟩
  · rw [hError] at h
    cases h

/-- The decoder returns only class buffers of the expected size. -/
theorem decodeSemanticsPng_ok {data gridData : Bytes} {expectedWidth expectedHeight : ℤ}
    (h : decodeSemanticsPng zlib data expectedWidth expectedHeight = .ok gridData) :
    (gridData.length : ℤ) = expectedWidth * expectedHeight ∧ Classes gridData := by
  unfold decodeSemanticsPng at h
  cases hDecode : decodeGrayscalePng zlib data with
  | error error =>
    rw [hDecode] at h
    cases h
  | ok image =>
    obtain ⟨width, height, imageOrder⟩ := image
    have hLength := length_of_decodeGrayscalePng hDecode
    rw [hDecode] at h
    simp only [Except.mapError, bind, Except.bind, pure, Except.pure, throw, throwThe,
      MonadExceptOf.throw] at h
    split at h
    · cases h
    rename_i hSize
    obtain ⟨rfl, rfl⟩ := Prod.mk.inj (not_not.mp hSize)
    rcases rejectUnsupportedValues_cases (flip width height imageOrder) with
      ⟨hClasses, hOk⟩ | ⟨-, error, hError⟩
    · rw [hOk] at h
      cases h
      refine ⟨?_, hClasses⟩
      rw [length_flip hLength]
      push_cast
      rfl
    · rw [hError] at h
      cases h

/-- The encoder's outcome on a class buffer: an image, unless the compressed scanlines do not fit
into a chunk. -/
theorem encodeSemanticsPng_cases {width height : ℕ} {gridData : Bytes} (hWidth : 0 < width)
    (hHeight : 0 < height) (hW : width < 2 ^ 32) (hH : height < 2 ^ 32)
    (hLength : gridData.length = width * height) (hClasses : Classes gridData) :
    encodeSemanticsPng zlib width height gridData =
      if (zlib.compress (scanlines width height (flip width height gridData))).length < 2 ^ 32 then
        .ok (pngBytes zlib width height (flip width height gridData))
      else .error (.png .structError) := by
  have hPositive : ¬ ((width : ℤ) ≤ 0 ∨ (height : ℤ) ≤ 0) := by omega
  have hSize : ¬ (gridData.length : ℤ) ≠ width * height := by
    rw [hLength]
    push_cast
    exact not_not.mpr rfl
  have hOk : rejectUnsupportedValues gridData = .ok () := by
    rcases rejectUnsupportedValues_cases gridData with ⟨-, hOk⟩ | ⟨hNot, -⟩
    · exact hOk
    · exact absurd hClasses hNot
  unfold encodeSemanticsPng
  rw [if_neg hPositive, if_neg hSize, hOk, Int.toNat_natCast, Int.toNat_natCast,
    encodeGrayscalePng_cases hWidth hHeight (length_flip hLength) hW hH]
  simp only [bind, Except.bind]
  split
  · rfl
  · rfl

/-- What is encoded is decoded again. -/
theorem decodeSemanticsPng_pngBytes {width height : ℕ} {gridData : Bytes} (hW : width < 2 ^ 32)
    (hH : height < 2 ^ 32) (hLength : gridData.length = width * height)
    (hClasses : Classes gridData)
    (hFits : (zlib.compress (scanlines width height (flip width height gridData))).length <
      2 ^ 32) :
    decodeSemanticsPng zlib (pngBytes zlib width height (flip width height gridData)) width height =
      .ok gridData := by
  have hOk : rejectUnsupportedValues gridData = .ok () := by
    rcases rejectUnsupportedValues_cases gridData with ⟨-, hOk⟩ | ⟨hNot, -⟩
    · exact hOk
    · exact absurd hClasses hNot
  unfold decodeSemanticsPng
  rw [decodeGrayscalePng_pngBytes hW hH (length_flip hLength) hFits]
  simp only [Except.mapError, bind, Except.bind, pure, Except.pure, throw, throwThe,
    MonadExceptOf.throw]
  rw [if_neg (not_not.mpr rfl), flip_flip hLength, hOk]

/-- The decoder inverts the encoder. -/
theorem decodeSemanticsPng_encodeSemanticsPng {width height : ℤ} {gridData png : Bytes}
    (h : encodeSemanticsPng zlib width height gridData = .ok png) :
    decodeSemanticsPng zlib png width height = .ok gridData := by
  obtain ⟨hLength, hClasses⟩ := encodeSemanticsPng_ok zlib h
  have hEncoded : ∃ image, encodeGrayscalePng zlib width height
      (flip width.toNat height.toNat gridData) = .ok image := by
    unfold encodeSemanticsPng at h
    simp only [bind, Except.bind, throw, throwThe, MonadExceptOf.throw] at h
    split at h
    · cases h
    split at h
    · cases h
    split at h
    · cases h
    cases hImage : encodeGrayscalePng zlib width height
        (flip width.toNat height.toNat gridData) with
    | error error =>
      rw [hImage] at h
      cases h
    | ok image => exact ⟨image, rfl⟩
  obtain ⟨image, hImage⟩ := hEncoded
  obtain ⟨hWidth, hHeight, hW, hH⟩ := encodeGrayscalePng_ok hImage
  obtain ⟨columns, rfl⟩ := Int.eq_ofNat_of_zero_le hWidth.le
  obtain ⟨lines, rfl⟩ := Int.eq_ofNat_of_zero_le hHeight.le
  have hSize : gridData.length = columns * lines := by exact_mod_cast hLength
  rw [Int.toNat_natCast] at hW hH
  rw [encodeSemanticsPng_cases zlib (by omega) (by omega) hW hH hSize hClasses] at h
  split at h
  · rename_i hFits
    cases h
    exact decodeSemanticsPng_pngBytes zlib hW hH hSize hClasses hFits
  · cases h

/-- A raster that the encoder has an answer for is not empty. -/
theorem encodeSemanticsPng_ne_nil {width height : ℤ} {gridData : Bytes} :
    encodeSemanticsPng zlib width height gridData ≠ .ok [] := by
  intro h
  have hDecoded := decodeSemanticsPng_encodeSemanticsPng zlib h
  cases hDecoded

end Codec

/-! ## Writing, then reading -/

theorem readSemantics_writeSemantics (zlib : Zlib) (lib : BundleLibrary) {outcome : WriteOutcome}
    {now : PyFloat} {fs next : FileSystem} {mapDir : FilePath} {mapId : String} {gridData : Bytes}
    (h : writeSemantics zlib lib outcome now fs mapDir mapId gridData = (next, .ok ())) :
    ∃ info, validateBundle lib fs mapDir mapId = .ok info ∧
      readSemantics zlib next mapDir mapId info.width info.height = .ok (some gridData) := by
  unfold writeSemantics at h
  cases hInfo : validateBundle lib fs mapDir mapId with
  | error error =>
    rw [hInfo] at h
    cases h
  | ok info =>
    cases hBlob : encodeSemanticsPng zlib info.width info.height gridData with
    | error error =>
      simp only [hInfo, hBlob, bind, Except.bind] at h
      cases h
    | ok blob =>
      cases hBase : mapDirectory mapDir mapId with
      | error error =>
        simp only [hInfo, hBlob, hBase, bind, Except.bind] at h
        cases h
      | ok base =>
        simp only [hInfo, hBlob, hBase, bind, Except.bind, pure, Except.pure] at h
        split at h
        · cases h
        split at h
        · cases h
        split at h
        · cases h
        cases h
        refine ⟨info, rfl, ?_⟩
        have hOther : base ++ [semanticsName] ≠ base ++ [manifestName] := by
          intro hEq
          exact absurd (List.append_cancel_left hEq) (by decide)
        have hNotEmpty : blob.isEmpty = false := by
          rw [List.isEmpty_eq_false_iff]
          rintro rfl
          exact encodeSemanticsPng_ne_nil zlib hBlob
        unfold readSemantics
        rw [hBase]
        simp only [bind, Except.bind, pure, Except.pure, throw, throwThe, MonadExceptOf.throw]
        rw [FileSystem.file_write_of_ne _ hOther, FileSystem.file_write_self]
        dsimp only
        rw [hNotEmpty, decodeSemanticsPng_encodeSemanticsPng zlib hBlob]
        rfl

/-! ## Rasters that do not fit into one chunk -/

/-- The class buffer that a word over three letters spells. -/
def spelled {count : ℕ} (word : Fin count → Fin 3) : Bytes :=
  List.ofFn fun i => UInt8.ofNat (word i).val

theorem spelled_injective {count : ℕ} :
    Function.Injective (spelled : (Fin count → Fin 3) → Bytes) := by
  have hLetter : ∀ first second : Fin 3,
      UInt8.ofNat first.val = UInt8.ofNat second.val → first = second := by decide
  intro first second hEq
  have hFn := List.ofFn_injective hEq
  exact funext fun i => hLetter _ _ (congrFun hFn i)

theorem classes_spelled {count : ℕ} (word : Fin count → Fin 3) : Classes (spelled word) := by
  have hLetter : ∀ letter : Fin 3, UInt8.ofNat letter.val ∈ validClassValues := by decide
  intro value hValue
  obtain ⟨i, rfl⟩ := (List.mem_ofFn' _ _).mp hValue
  exact hLetter _

/-- Whatever the compression, some raster is not compressed below a bound that is small enough. -/
theorem exists_long_raster (zlib : Zlib) {width height bound : ℕ}
    (hMany : 257 ^ bound < 3 ^ (width * height)) :
    ∃ gridData, gridData.length = width * height ∧ Classes gridData ∧
      bound ≤ (zlib.compress (scanlines width height (flip width height gridData))).length := by
  have hLength : ∀ word : Fin (width * height) → Fin 3,
      (spelled word).length = width * height := fun word => List.length_ofFn
  have hInjective : Function.Injective fun word : Fin (width * height) → Fin 3 =>
      zlib.compress (scanlines width height (flip width height (spelled word))) := by
    intro first second hEq
    have hFlipped := scanlines_injective (length_flip (hLength first))
      (length_flip (hLength second)) (zlib.compress_injective hEq)
    have hSpelled := congrArg (flip width height) hFlipped
    rw [flip_flip (hLength first), flip_flip (hLength second)] at hSpelled
    exact spelled_injective hSpelled
  obtain ⟨word, hWord⟩ := exists_long_code hInjective
    (by rwa [Fintype.card_fun, Fintype.card_fin, Fintype.card_fin])
  exact ⟨spelled word, hLength word, classes_spelled word, hWord⟩

/-! ## The round trip -/

/-- What is encoded or written comes back, flipping twice changes nothing, and neither direction
lets anything but class buffers of the right length pass. The codec part is
`decodeSemanticsPng_encodeSemanticsPng` and the part about files `readSemantics_writeSemantics`;
the bound on the compressed scanlines is the one that the length of a chunk has. -/
theorem semantics_round_trip (zlib : Zlib) (lib : BundleLibrary) :
    (∀ (width height : ℕ) (gridData : Bytes), 0 < width → 0 < height → width < 2 ^ 32 →
      height < 2 ^ 32 → gridData.length = width * height → Classes gridData →
      (zlib.compress (scanlines width height (flip width height gridData))).length < 2 ^ 32 →
      ∃ png, encodeSemanticsPng zlib width height gridData = .ok png ∧
        decodeSemanticsPng zlib png width height = .ok gridData) ∧
    (∀ outcome now fs mapDir mapId gridData next,
      writeSemantics zlib lib outcome now fs mapDir mapId gridData = (next, .ok ()) →
      ∃ info, validateBundle lib fs mapDir mapId = .ok info ∧
        readSemantics zlib next mapDir mapId info.width info.height = .ok (some gridData)) ∧
    (∀ (width height : ℕ) (data : Bytes), data.length = width * height →
      flip width height (flip width height data) = data) ∧
    (∀ width height gridData png, encodeSemanticsPng zlib width height gridData = .ok png →
      (gridData.length : ℤ) = width * height ∧ Classes gridData) ∧
    (∀ data width height gridData, decodeSemanticsPng zlib data width height = .ok gridData →
      (gridData.length : ℤ) = width * height ∧ Classes gridData) := by
  refine ⟨fun width height gridData hWidth hHeight hW hH hLength hClasses hFits => ?_,
    fun outcome now fs mapDir mapId gridData next h => readSemantics_writeSemantics zlib lib h,
    fun width height data h => flip_flip h,
    fun width height gridData png h => encodeSemanticsPng_ok zlib h,
    fun data width height gridData h => decodeSemanticsPng_ok zlib h⟩
  have hEncoded := encodeSemanticsPng_cases zlib hWidth hHeight hW hH hLength hClasses
  rw [if_pos hFits] at hEncoded
  exact ⟨_, hEncoded, decodeSemanticsPng_encodeSemanticsPng zlib hEncoded⟩

/-- `zlib` as far as one input needs it: this data makes this stream, and other data is stored
behind a byte that the stream does not begin with. -/
def storedZlib (raw stream : Bytes) (checksums : List (Bytes × UInt32))
    (h : stream.head? = some 120) :
    Zlib where
  compress data := if data = raw then stream else 0 :: data
  decompress compressed :=
    if compressed = stream then some raw
    else match compressed with
      | 0 :: data => some data
      | _ => none
  crc32 data := (checksums.lookup data).getD 0
  decompress_compress data := by
    by_cases hRaw : data = raw
    · rw [if_pos hRaw, if_pos rfl, hRaw]
    · have hStored : (0 :: data : Bytes) ≠ stream := by
        rintro rfl
        exact absurd (Option.some.inj h) (by decide)
      rw [if_neg hRaw, if_neg hStored]
      rfl
  decompress_nil := by
    rw [if_neg]
    rintro rfl
    exact nomatch h

/-- The scanline of a raster with one lethal cell, and what `zlib` makes of it. -/
def lethalScanline : Bytes := [0, 2]
def lethalStream : Bytes := [120, 218, 99, 96, 2, 0, 0, 4, 0, 3]

/-- `zlib` on that scanline. -/
def lethalZlib : Zlib :=
  storedZlib lethalScanline lethalStream
    [(ihdrType ++ headerBytes 1 1, 981375829), (idatType ++ lethalStream, 1114399337),
      (iendType, 2923585666)] rfl

/-- A raster of three rows, its scanlines from the top row on, and what `zlib` makes of them. -/
def rowsGrid : Bytes := [classUnclassified, classCaution, classLethal, classUnclassified,
  classCaution, classLethal]
def rowsScanlines : Bytes := [0, 1, 2, 0, 2, 0, 0, 0, 1]
def rowsStream : Bytes := [120, 218, 99, 96, 100, 98, 96, 98, 96, 96, 96, 4, 0, 0, 42, 0, 7]

/-- `zlib` on these scanlines. -/
def rowsZlib : Zlib :=
  storedZlib rowsScanlines rowsStream
    [(ihdrType ++ headerBytes 2 3, 2625732957), (idatType ++ rowsStream, 4100790626),
      (iendType, 2923585666)] rfl

/-- A library for which no file parses. -/
def unparsedLibrary : BundleLibrary where
  yaml _ := .ok none
  json _ := none
  dumps _ := []
  sha256 _ := ""
  str _ := ""
  intOfBytes _ := none
  createdIso _ := .error .valueError

theorem classes_lethal : Classes [classLethal] := by
  intro value hValue
  rw [List.mem_singleton.mp hValue]
  decide

theorem classes_rows : Classes rowsGrid := by
  intro value hValue
  simp only [rowsGrid, List.mem_cons, List.not_mem_nil, or_false] at hValue
  rcases hValue with rfl | rfl | rfl | rfl | rfl | rfl <;> decide

/-- The rows are flipped on the way into the codec and back again. -/
theorem semantics_round_trip_rows :
    scanlines 2 3 (flip 2 3 rowsGrid) = rowsScanlines ∧
      ∃ png, encodeSemanticsPng rowsZlib (2 : ℕ) (3 : ℕ) rowsGrid = .ok png ∧
        decodeSemanticsPng rowsZlib png (2 : ℕ) (3 : ℕ) = .ok rowsGrid :=
  ⟨by decide, (semantics_round_trip rowsZlib unparsedLibrary).1 2 3 rowsGrid (by decide) (by decide)
    (by decide) (by decide) rfl classes_rows (by decide)⟩

/-- No compression brings every raster of at most `2 ^ 18` by `2 ^ 18` cells into one chunk. -/
theorem no_zlib_encodes_every_raster :
    ¬ ∃ zlib : Zlib, ∀ (width height : ℕ) (gridData : Bytes), 0 < width → 0 < height →
      width < 2 ^ 32 → height < 2 ^ 32 → gridData.length = width * height → Classes gridData →
      ∃ png, encodeSemanticsPng zlib width height gridData = .ok png ∧
        decodeSemanticsPng zlib png width height = .ok gridData := by
  rintro ⟨zlib, hAll⟩
  have hMany : ∀ bound, 0 < bound → 257 ^ bound < 3 ^ (16 * bound) := by
    intro bound hBound
    rw [pow_mul]
    exact Nat.pow_lt_pow_left (by decide) hBound.ne'
  have hSide : 2 ^ 18 * 2 ^ 18 = 16 * 2 ^ 32 := by decide
  obtain ⟨gridData, hLength, hClasses, hLong⟩ :=
    @exists_long_raster zlib (2 ^ 18) (2 ^ 18) (2 ^ 32) (hSide ▸ hMany (2 ^ 32) (by decide))
  obtain ⟨png, hEncoded, -⟩ := hAll (2 ^ 18) (2 ^ 18) gridData (by decide) (by decide) (by decide)
    (by decide) hLength hClasses
  rw [encodeSemanticsPng_cases zlib (by decide) (by decide) (by decide) (by decide) hLength
    hClasses, if_neg (not_lt.mpr hLong)] at hEncoded
  cases hEncoded

end PreRunner.Maps
