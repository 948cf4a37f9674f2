import PreRunner.Runs.Framing

/-!
# The grayscale PNG codec

The encoder writes one IHDR, one IDAT and one IEND chunk with filter type 0; the decoder reads any
sequence of chunks and every standard filter. This module follows `runner_paddock/png_codec.py`.
Compression and the checksum are those of `zlib`.
-/

namespace PreRunner.Maps

open Runs

abbrev Bytes := List UInt8

/-- What the codec takes from `zlib`. An empty stream does not inflate. -/
structure Zlib where
  compress : Bytes → Bytes
  decompress : Bytes → Option Bytes
  crc32 : Bytes → UInt32
  decompress_compress : ∀ data, decompress (compress data) = some data
  decompress_nil : decompress [] = none

theorem Zlib.compress_injective (zlib : Zlib) : Function.Injective zlib.compress := by
  intro first second hEq
  have hFirst := zlib.decompress_compress first
  rw [hEq, zlib.decompress_compress] at hFirst
  exact (Option.some.inj hFirst).symm

theorem Zlib.compress_ne_nil (zlib : Zlib) (data : Bytes) : zlib.compress data ≠ [] := by
  intro hNil
  have hData := zlib.decompress_compress data
  rw [hNil, zlib.decompress_nil] at hData
  cases hData

/-- The errors of the codec; `structError` is raised by `struct.pack`. -/
inductive PngError where
  | dimensions
  | pixelLength
  | structError
  | signature
  | truncatedHeader
  | truncatedChunk (chunkType : Bytes)
  | crc (chunkType : Bytes)
  | malformedHeader
  | format (bitDepth colorType : UInt8)
  | method
  | interlaced
  | dataBeforeHeader
  | noHeader
  | noEnd
  | noData
  | inflate
  | dataLength
  | filter (filterType : UInt8)
  deriving DecidableEq, Repr

def pngSignature : Bytes := [0x89, 0x50, 0x4E, 0x47, 0x0D, 0x0A, 0x1A, 0x0A]
def ihdrType : Bytes := [0x49, 0x48, 0x44, 0x52]
def idatType : Bytes := [0x49, 0x44, 0x41, 0x54]
def iendType : Bytes := [0x49, 0x45, 0x4E, 0x44]

def bitDepth : UInt8 := 8
def grayscaleColorType : UInt8 := 0

/-! ## Encoding -/

/-- `struct.pack('>I', value)`. -/
def structPack (value : ℕ) : Except PngError Bytes :=
  if value < 2 ^ 32 then .ok (packWord value) else .error .structError

variable (zlib : Zlib)

/-- `_chunk`. -/
def pngChunk (chunkType data : Bytes) : Except PngError Bytes := do
  let length ← structPack data.length
  let crc ← structPack (zlib.crc32 (chunkType ++ data)).toNat
  return length ++ chunkType ++ data ++ crc

/-- The scanlines, each after its filter type. -/
def scanlines (width height : ℕ) (pixels : Bytes) : Bytes :=
  (rows width height pixels).flatMap fun row => 0 :: row

/-- Encode raw pixel bytes, top row first. -/
def encodeGrayscalePng (width height : ℤ) (pixels : Bytes) : Except PngError Bytes := do
  if width ≤ 0 ∨ height ≤ 0 then throw .dimensions
  if (pixels.length : ℤ) ≠ width * height then throw .pixelLength
  let packedWidth ← structPack width.toNat
  let packedHeight ← structPack height.toNat
  let ihdr := packedWidth ++ packedHeight ++ [bitDepth, grayscaleColorType, 0, 0, 0]
  let idat := zlib.compress (scanlines width.toNat height.toNat pixels)
  let ihdrChunk ← pngChunk zlib ihdrType ihdr
  let idatChunk ← pngChunk zlib idatType idat
  let iendChunk ← pngChunk zlib iendType []
  return pngSignature ++ ihdrChunk ++ idatChunk ++ iendChunk

/-! ## Filters -/

/-- `_paeth`. -/
def paeth (a b c : ℤ) : ℤ :=
  let p := a + b - c
  let pa := (p - a).natAbs
  let pb := (p - b).natAbs
  let pc := (p - c).natAbs
  if pa ≤ pb ∧ pa ≤ pc then a else if pb ≤ pc then b else c

/-- What a filter, at most 4, adds to a byte, from the bytes to the left, above and above left. -/
def predictor (filterType a b c : UInt8) : UInt8 :=
  if filterType = 0 then 0
  else if filterType = 1 then a
  else if filterType = 2 then b
  else if filterType = 3 then UInt8.ofNat ((a.toNat + b.toNat) / 2)
  else UInt8.ofNat (paeth a.toNat b.toNat c.toNat).toNat

/-- Invert the filter of one line, given the line above. -/
def unfilterLine (filterType a c : UInt8) : Bytes → Bytes → Bytes
  | [], _ => []
  | x :: line, above =>
    let b := above.headD 0
    let y := x + predictor filterType a b c
    y :: unfilterLine filterType y b line above.tail

/-- Invert the filters of the lines that are left. -/
def unfilterRows (width : ℕ) : ℕ → Bytes → Bytes → Except PngError Bytes
  | 0, _, _ => .ok []
  | height + 1, above, raw =>
    let filterType := raw.headD 0
    if 4 < filterType then .error (.filter filterType)
    else do
      let line := unfilterLine filterType 0 0 ((raw.drop 1).take width) above
      return line ++ (← unfilterRows width height line (raw.drop (1 + width)))

/-- `_unfilter`. -/
def unfilter (raw : Bytes) (width height : ℕ) : Except PngError Bytes :=
  unfilterRows width height (List.replicate width 0) raw

/-! ## Decoding -/

/-- The chunk at the start of what is left: its type, its data and what follows it. -/
def readChunk (data : Bytes) : Except PngError (Bytes × Bytes × Bytes) :=
  if data.length < 8 then .error .truncatedHeader
  else
    let length := unpackWord (data.take 4)
    let chunkType := (data.drop 4).take 4
    if data.length < 8 + length + 4 then .error (.truncatedChunk chunkType)
    else
      let chunkData := (data.drop 8).take length
      let crcExpected := unpackWord ((data.drop (8 + length)).take 4)
      if (zlib.crc32 (chunkType ++ chunkData)).toNat ≠ crcExpected then .error (.crc chunkType)
      else .ok (chunkType, chunkData, data.drop (8 + length + 4))

/-- What the chunks so far have said; the dimensions are those of the last header. -/
structure PngState where
  size : Option (ℕ × ℕ) := none
  idat : Bytes := []
  seenIend : Bool := false

/-- The fields of an IHDR chunk. -/
def readHeader (data : Bytes) : Except PngError (ℕ × ℕ) :=
  if data.length ≠ 13 then .error .malformedHeader
  else
    let width := unpackWord (data.take 4)
    let height := unpackWord ((data.drop 4).take 4)
    let depth := data.getD 8 0
    let colorType := data.getD 9 0
    let compression := data.getD 10 0
    let filterMethod := data.getD 11 0
    let interlace := data.getD 12 0
    if depth ≠ bitDepth ∨ colorType ≠ grayscaleColorType then .error (.format depth colorType)
    else if compression ≠ 0 ∨ filterMethod ≠ 0 then .error .method
    else if interlace ≠ 0 then .error .interlaced
    else .ok (width, height)

/-- The effect of one chunk; unrecognized chunks are ignored. -/
def PngState.handle (s : PngState) (chunkType chunkData : Bytes) : Except PngError PngState :=
  if chunkType = ihdrType then do
    return { s with size := some (← readHeader chunkData) }
  else if chunkType = idatType then
    if s.size.isNone then .error .dataBeforeHeader
    else .ok { s with idat := s.idat ++ chunkData }
  else if chunkType = iendType then .ok { s with seenIend := true }
  else .ok s

theorem length_readChunk {data chunkType chunkData rest : Bytes}
    (h : readChunk zlib data = .ok (chunkType, chunkData, rest)) : rest.length < data.length := by
  unfold readChunk at h
  dsimp only at h
  split at h
  · cases h
  · rename_i hHeader
    split at h
    · cases h
    · split at h
      · cases h
      · cases h
        rw [List.length_drop]
        omega

/-- The chunks up to the IEND chunk. -/
def readChunks (s : PngState) (data : Bytes) : Except PngError PngState :=
  if data.isEmpty ∨ s.seenIend then .ok s
  else
    match _hChunk : readChunk zlib data with
    | .error error => .error error
    | .ok (chunkType, chunkData, rest) =>
      match s.handle chunkType chunkData with
      | .error error => .error error
      | .ok s => readChunks s rest
termination_by data.length
decreasing_by exact length_readChunk zlib _hChunk

/-- Decode PNG bytes to the width, the height and the pixels. -/
def decodeGrayscalePng (data : Bytes) : Except PngError (ℕ × ℕ × Bytes) := do
  if !pngSignature.isPrefixOf data then throw .signature
  let s ← readChunks zlib {} (data.drop pngSignature.length)
  match s.size with
  | none => throw .noHeader
  | some (width, height) =>
    if !s.seenIend then throw .noEnd
    if s.idat.isEmpty then throw .noData
    match zlib.decompress s.idat with
    | none => throw .inflate
    | some raw =>
      if raw.length ≠ height * (1 + width) then throw .dataLength
      return (width, height, ← unfilter raw width height)

end PreRunner.Maps
