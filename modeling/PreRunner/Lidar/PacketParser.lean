import Mathlib.Data.Fintype.BigOperators
import Mathlib.Data.List.OfFn
import Mathlib.Tactic.FinCases
import PreRunner.Runs.TableCheck

/-!
# The packets of the LiDAR

The LiDAR sends packets of 47 bytes: a header, the length, twelve points and a CRC. `AnalysisOne`
looks for them byte by byte. This module follows `ldlidar_driver/src/dataprocess/lipkg.cpp`; the
packed structure is read as on a little-endian host.

The search is a state machine over bytes, so a stream may be read in any pieces
(`analyseReads_eq`). Between two packets it is at its start, where it skips every byte that is no
header. The check is that of `Runs.TableCheck`, which notices a disturbance within eight
neighbouring bits; such a packet is dropped when its check fails, and the search starts again
behind it.
-/

namespace PreRunner.Lidar

open Runs

def pkgHeader : UInt8 := 0x54
def pkgVerLen : UInt8 := 0x2C

/-- `sizeof(LiDARFrameTypeDef)`. -/
def pkgCount : ℕ := 47

/-! ## The CRC -/

def crcTable : List UInt8 := [
  0x00, 0x4d, 0x9a, 0xd7, 0x79, 0x34, 0xe3, 0xae, 0xf2, 0xbf, 0x68, 0x25,
  0x8b, 0xc6, 0x11, 0x5c, 0xa9, 0xe4, 0x33, 0x7e, 0xd0, 0x9d, 0x4a, 0x07,
  0x5b, 0x16, 0xc1, 0x8c, 0x22, 0x6f, 0xb8, 0xf5, 0x1f, 0x52, 0x85, 0xc8,
  0x66, 0x2b, 0xfc, 0xb1, 0xed, 0xa0, 0x77, 0x3a, 0x94, 0xd9, 0x0e, 0x43,
  0xb6, 0xfb, 0x2c, 0x61, 0xcf, 0x82, 0x55, 0x18, 0x44, 0x09, 0xde, 0x93,
  0x3d, 0x70, 0xa7, 0xea, 0x3e, 0x73, 0xa4, 0xe9, 0x47, 0x0a, 0xdd, 0x90,
  0xcc, 0x81, 0x56, 0x1b, 0xb5, 0xf8, 0x2f, 0x62, 0x97, 0xda, 0x0d, 0x40,
  0xee, 0xa3, 0x74, 0x39, 0x65, 0x28, 0xff, 0xb2, 0x1c, 0x51, 0x86, 0xcb,
  0x21, 0x6c, 0xbb, 0xf6, 0x58, 0x15, 0xc2, 0x8f, 0xd3, 0x9e, 0x49, 0x04,
  0xaa, 0xe7, 0x30, 0x7d, 0x88, 0xc5, 0x12, 0x5f, 0xf1, 0xbc, 0x6b, 0x26,
  0x7a, 0x37, 0xe0, 0xad, 0x03, 0x4e, 0x99, 0xd4, 0x7c, 0x31, 0xe6, 0xab,
  0x05, 0x48, 0x9f, 0xd2, 0x8e, 0xc3, 0x14, 0x59, 0xf7, 0xba, 0x6d, 0x20,
  0xd5, 0x98, 0x4f, 0x02, 0xac, 0xe1, 0x36, 0x7b, 0x27, 0x6a, 0xbd, 0xf0,
  0x5e, 0x13, 0xc4, 0x89, 0x63, 0x2e, 0xf9, 0xb4, 0x1a, 0x57, 0x80, 0xcd,
  0x91, 0xdc, 0x0b, 0x46, 0xe8, 0xa5, 0x72, 0x3f, 0xca, 0x87, 0x50, 0x1d,
  0xb3, 0xfe, 0x29, 0x64, 0x38, 0x75, 0xa2, 0xef, 0x41, 0x0c, 0xdb, 0x96,
  0x42, 0x0f, 0xd8, 0x95, 0x3b, 0x76, 0xa1, 0xec, 0xb0, 0xfd, 0x2a, 0x67,
  0xc9, 0x84, 0x53, 0x1e, 0xeb, 0xa6, 0x71, 0x3c, 0x92, 0xdf, 0x08, 0x45,
  0x19, 0x54, 0x83, 0xce, 0x60, 0x2d, 0xfa, 0xb7, 0x5d, 0x10, 0xc7, 0x8a,
  0x24, 0x69, 0xbe, 0xf3, 0xaf, 0xe2, 0x35, 0x78, 0xd6, 0x9b, 0x4c, 0x01,
  0xf4, 0xb9, 0x6e, 0x23, 0x8d, 0xc0, 0x17, 0x5a, 0x06, 0x4b, 0x9c, 0xd1,
  0x7f, 0x32, 0xe5, 0xa8]

/-- `CrcTable[index & 0xff]`. -/
def crcEntry (index : UInt8) : UInt8 := crcTable.getD index.toNat 0

/-- `CalCRC8`. -/
def calCRC8 (data : List UInt8) : UInt8 := checkFrom crcEntry 0 data

set_option maxRecDepth 8000 in
/-- The table is spanned by the entries of the powers of two. -/
theorem crcEntry_linear : LinearTable crcEntry :=
  linearTable_of_spanned [0x4d, 0x9a, 0x79, 0xf2, 0xa9, 0x1f, 0x3e, 0x7c] (by decide) (by decide)

set_option maxRecDepth 8000 in
theorem length_crcTable : crcTable.length = 256 := by decide

set_option maxRecDepth 8000 in
theorem gcd_crcTable_le :
    ∀ item ∈ crcTable.zipIdx, item.2 ≠ 0 → item.1.toNat.gcd 256 ≤ item.2 := by
  decide

/-- A power of two above an index divides its entry for the index zero alone. -/
theorem crcEntry_not_dvd {index : UInt8} (hIndex : index ≠ 0) {k : ℕ} (hk : k ≤ 8)
    (hLess : index.toNat < 2 ^ k) : ¬ 2 ^ k ∣ (crcEntry index).toNat := by
  intro hDvd
  have hBound : index.toNat < crcTable.length := length_crcTable ▸ index.toNat_lt
  have hMem : (crcEntry index, index.toNat) ∈ crcTable.zipIdx := by
    rw [List.mk_mem_zipIdx_iff_getElem?, List.getElem?_eq_getElem hBound]
    unfold crcEntry
    rw [List.getD_eq_getElem?_getD, List.getElem?_eq_getElem hBound]
    rfl
  have hGcd := gcd_crcTable_le _ hMem fun hZero => hIndex (UInt8.toNat_inj.mp hZero)
  have hPower : 2 ^ k ∣ (crcEntry index).toNat.gcd 256 :=
    Nat.dvd_gcd hDvd (Nat.pow_dvd_pow 2 hk)
  have hLe := Nat.le_of_dvd (Nat.gcd_pos_of_pos_right _ (by decide)) hPower
  dsimp only at hGcd
  omega

/-! ## The layout of a packet -/

/-- `LidarPointStructDef`. -/
structure LidarPoint where
  distance : UInt16
  intensity : UInt8
  deriving DecidableEq

/-- `LiDARFrameTypeDef`. -/
structure LiDARFrame where
  header : UInt8
  verLen : UInt8
  speed : UInt16
  startAngle : UInt16
  point : Fin 12 → LidarPoint
  endAngle : UInt16
  timestamp : UInt16
  crc8 : UInt8

/-- A 16-bit word, the low byte first. -/
def wordBytes (word : UInt16) : List UInt8 :=
  [UInt8.ofNat word.toNat, UInt8.ofNat (word.toNat / 256)]

/-- The bytes of a packet without its CRC. -/
def LiDARFrame.body (frame : LiDARFrame) : List UInt8 :=
  frame.header :: frame.verLen :: (wordBytes frame.speed ++ (wordBytes frame.startAngle ++
    ((List.ofFn frame.point).flatMap (fun p => wordBytes p.distance ++ [p.intensity]) ++
      (wordBytes frame.endAngle ++ wordBytes frame.timestamp))))

def LiDARFrame.toBytes (frame : LiDARFrame) : List UInt8 := frame.body ++ [frame.crc8]

/-- The word at an offset. -/
def wordAt (bytes : List UInt8) (offset : ℕ) : UInt16 :=
  UInt16.ofNat ((bytes.getD offset 0).toNat + 256 * (bytes.getD (offset + 1) 0).toNat)

/-- `memcpy` into the packed structure. -/
def LiDARFrame.ofBytes (bytes : List UInt8) : LiDARFrame where
  header := bytes.getD 0 0
  verLen := bytes.getD 1 0
  speed := wordAt bytes 2
  startAngle := wordAt bytes 4
  point i := ⟨wordAt bytes (6 + 3 * i), bytes.getD (8 + 3 * i) 0⟩
  endAngle := wordAt bytes 42
  timestamp := wordAt bytes 44
  crc8 := bytes.getD 46 0

/-- A packet as the LiDAR sends it. -/
structure LiDARFrame.Sent (frame : LiDARFrame) : Prop where
  header : frame.header = pkgHeader
  verLen : frame.verLen = pkgVerLen
  crc : frame.crc8 = calCRC8 frame.body

theorem word_round_trip (word : UInt16) :
    UInt16.ofNat ((UInt8.ofNat word.toNat).toNat + 256 * (UInt8.ofNat (word.toNat / 256)).toNat) =
      word := by
  have hWord : word.toNat < 65536 := word.toNat_lt
  refine UInt16.toNat_inj.mp ?_
  rw [UInt16.toNat_ofNat', UInt8.toNat_ofNat', UInt8.toNat_ofNat']
  omega

@[simp] theorem length_body (frame : LiDARFrame) : frame.body.length = 46 := rfl

@[simp] theorem length_toBytes (frame : LiDARFrame) : frame.toBytes.length = pkgCount := rfl

/-- What is written can be read. -/
theorem ofBytes_toBytes (frame : LiDARFrame) : LiDARFrame.ofBytes frame.toBytes = frame := by
  have hPoint : (LiDARFrame.ofBytes frame.toBytes).point = frame.point := by
    funext i
    have hDistance : ∀ i : Fin 12, wordAt frame.toBytes (6 + 3 * i) = (frame.point i).distance := by
      intro i
      fin_cases i
      all_goals exact word_round_trip _
    have hIntensity : ∀ i : Fin 12,
        frame.toBytes.getD (8 + 3 * i) 0 = (frame.point i).intensity := by
      intro i
      fin_cases i
      all_goals rfl
    change LidarPoint.mk (wordAt frame.toBytes (6 + 3 * i)) (frame.toBytes.getD (8 + 3 * i) 0) = _
    rw [hDistance, hIntensity]
  have hSpeed : wordAt frame.toBytes 2 = frame.speed := word_round_trip _
  have hStart : wordAt frame.toBytes 4 = frame.startAngle := word_round_trip _
  have hEnd : wordAt frame.toBytes 42 = frame.endAngle := word_round_trip _
  have hTime : wordAt frame.toBytes 44 = frame.timestamp := word_round_trip _
  have hEta : LiDARFrame.ofBytes frame.toBytes = {
      header := frame.header, verLen := frame.verLen, speed := wordAt frame.toBytes 2
      startAngle := wordAt frame.toBytes 4, point := (LiDARFrame.ofBytes frame.toBytes).point
      endAngle := wordAt frame.toBytes 42, timestamp := wordAt frame.toBytes 44
      crc8 := frame.crc8 } := rfl
  rw [hEta, hPoint, hSpeed, hStart, hEnd, hTime]

/-! ## The search for packets -/

/-- The states of `AnalysisOne`. -/
inductive AnalysisState where
  | header
  | verLen
  | data
  deriving DecidableEq, Repr

/-- Its static variables: the state and the first `count` bytes of `tmp`. -/
structure Analysis where
  state : AnalysisState := .header
  tmp : List UInt8 := []
  deriving DecidableEq

/-- `AnalysisOne`: a packet is returned when its CRC is right. -/
def analysisOne (a : Analysis) (byte : UInt8) : Analysis × Option (List UInt8) :=
  match a.state with
  | .header =>
    if byte = pkgHeader then (⟨.verLen, a.tmp ++ [byte]⟩, none) else (a, none)
  | .verLen =>
    if byte = pkgVerLen then (⟨.data, a.tmp ++ [byte]⟩, none) else (⟨.header, []⟩, none)
  | .data =>
    let tmp := a.tmp ++ [byte]
    if pkgCount ≤ tmp.length then
      (⟨.header, []⟩, if calCRC8 (tmp.take (pkgCount - 1)) = tmp.getD (pkgCount - 1) 0 then
        some (tmp.take pkgCount) else none)
    else (⟨.data, tmp⟩, none)

/-- The packets found in some bytes. -/
def analyse (a : Analysis) : List UInt8 → Analysis × List (List UInt8)
  | [] => (a, [])
  | byte :: bytes =>
    let one := analysisOne a byte
    let rest := analyse one.1 bytes
    (rest.1, one.2.toList ++ rest.2)

/-- The packets found in what the serial port delivers, read by read. -/
def analyseReads (a : Analysis) : List (List UInt8) → Analysis × List (List UInt8)
  | [] => (a, [])
  | read :: reads =>
    let one := analyse a read
    let rest := analyseReads one.1 reads
    (rest.1, one.2 ++ rest.2)

theorem analyse_cons (a : Analysis) (byte : UInt8) (bytes : List UInt8) :
    analyse a (byte :: bytes) = ((analyse (analysisOne a byte).1 bytes).1,
      (analysisOne a byte).2.toList ++ (analyse (analysisOne a byte).1 bytes).2) := rfl

theorem analyse_append (a : Analysis) (bytes more : List UInt8) :
    analyse a (bytes ++ more) =
      ((analyse (analyse a bytes).1 more).1,
        (analyse a bytes).2 ++ (analyse (analyse a bytes).1 more).2) := by
  induction bytes generalizing a with
  | nil => rfl
  | cons byte bytes ih =>
    rw [List.cons_append, analyse_cons, analyse_cons, ih, List.append_assoc]

/-- How the bytes are split into reads does not matter. -/
theorem analyseReads_eq (a : Analysis) (reads : List (List UInt8)) :
    analyseReads a reads = analyse a reads.flatten := by
  induction reads generalizing a with
  | nil => rfl
  | cons read reads ih =>
    rw [List.flatten_cons, analyse_append]
    unfold analyseReads
    dsimp only
    rw [ih]

/-! ## The packets of a stream -/

/-- A packet that is accepted. -/
structure IsPacket (packet : List UInt8) : Prop where
  length : packet.length = pkgCount
  header : packet.take 2 = [pkgHeader, pkgVerLen]
  crc : calCRC8 packet = 0

theorem calCRC8_packet {packet : List UInt8} (h : packet.length = pkgCount) :
    calCRC8 packet = 0 ↔ calCRC8 (packet.take (pkgCount - 1)) = packet.getD (pkgCount - 1) 0 := by
  have hLast : packet = packet.take (pkgCount - 1) ++ [packet.getD (pkgCount - 1) 0] := by
    have hIndex : pkgCount - 1 < packet.length := by rw [h]; decide
    have hAll : packet.take (pkgCount - 1 + 1) = packet := List.take_of_length_le h.le
    rw [List.getD_eq_getElem?_getD, List.getElem?_eq_getElem hIndex, Option.getD_some,
      ← List.take_succ_eq_append_getElem hIndex, hAll]
  conv_lhs => rw [hLast]
  unfold calCRC8
  rw [crcEntry_linear.checkFrom_concat, eq_comm]

theorem analysisOne_data (tmp : List UInt8) (byte : UInt8) :
    analysisOne ⟨.data, tmp⟩ byte =
      if pkgCount ≤ (tmp ++ [byte]).length then
        ({}, if calCRC8 ((tmp ++ [byte]).take (pkgCount - 1)) =
            (tmp ++ [byte]).getD (pkgCount - 1) 0 then
          some ((tmp ++ [byte]).take pkgCount) else none)
      else (⟨.data, tmp ++ [byte]⟩, none) := rfl

/-- The data of a packet are collected until it is complete. -/
theorem analyse_data {tmp : List UInt8} (hTmp : tmp.length < pkgCount) (bytes : List UInt8) :
    analyse ⟨.data, tmp⟩ bytes =
      if (tmp ++ bytes).length < pkgCount then (⟨.data, tmp ++ bytes⟩, [])
      else
        ((analyse {} ((tmp ++ bytes).drop pkgCount)).1,
          (if calCRC8 ((tmp ++ bytes).take pkgCount) = 0 then [(tmp ++ bytes).take pkgCount]
            else []) ++ (analyse {} ((tmp ++ bytes).drop pkgCount)).2) := by
  induction bytes generalizing tmp with
  | nil =>
    rw [List.append_nil, if_pos hTmp]
    rfl
  | cons byte bytes ih =>
    have hAppend : tmp ++ byte :: bytes = (tmp ++ [byte]) ++ bytes := by simp
    rw [analyse_cons, analysisOne_data, hAppend]
    by_cases hFull : pkgCount ≤ (tmp ++ [byte]).length
    · have hLength : (tmp ++ [byte]).length = pkgCount := by
        rw [List.length_append, List.length_singleton] at hFull ⊢
        omega
      have hWhole : ¬ ((tmp ++ [byte]) ++ bytes).length < pkgCount := by
        rw [List.length_append]
        omega
      rw [if_pos hFull, if_neg hWhole, List.take_left' hLength, List.drop_left' hLength,
        List.take_of_length_le hLength.le]
      by_cases hCrc : calCRC8 (tmp ++ [byte]) = 0
      · rw [if_pos hCrc, if_pos ((calCRC8_packet hLength).mp hCrc)]
        rfl
      · rw [if_neg hCrc, if_neg fun h => hCrc ((calCRC8_packet hLength).mpr h)]
        rfl
    · have hShort : (tmp ++ [byte]).length < pkgCount := not_le.mp hFull
      rw [if_neg hFull, ih hShort]
      rfl

theorem analyse_header_ne {byte : UInt8} (h : byte ≠ pkgHeader) (bytes : List UInt8) :
    analyse {} (byte :: bytes) = analyse {} bytes := by
  have hOne : analysisOne {} byte = ({}, none) := if_neg h
  rw [analyse_cons, hOne]
  rfl

/-- Bytes among which there is no header byte are skipped. -/
theorem analyse_gap {gap : List UInt8} (h : pkgHeader ∉ gap) (bytes : List UInt8) :
    analyse {} (gap ++ bytes) = analyse {} bytes := by
  induction gap with
  | nil => rfl
  | cons byte gap ih =>
    rw [List.mem_cons, not_or] at h
    rw [List.cons_append, analyse_header_ne (fun hEq => h.1 hEq.symm), ih h.2]

theorem analyse_start (bytes : List UInt8) :
    analyse {} (pkgHeader :: pkgVerLen :: bytes) = analyse ⟨.data, [pkgHeader, pkgVerLen]⟩ bytes :=
  rfl

/-- Forty-seven bytes with the header are a packet or nothing; the search goes on after them. -/
theorem analyse_packet {packet : List UInt8} (hLength : packet.length = pkgCount)
    (hHeader : packet.take 2 = [pkgHeader, pkgVerLen]) (bytes : List UInt8) :
    analyse {} (packet ++ bytes) =
      ((analyse {} bytes).1,
        (if calCRC8 packet = 0 then [packet] else []) ++ (analyse {} bytes).2) := by
  have hSplit : packet = pkgHeader :: pkgVerLen :: packet.drop 2 := by
    conv_lhs => rw [← List.take_append_drop 2 packet, hHeader]
    rfl
  have hWhole : [pkgHeader, pkgVerLen] ++ (packet.drop 2 ++ bytes) = packet ++ bytes := by
    conv_rhs => rw [hSplit]
    rfl
  conv_lhs => rw [hSplit]
  rw [List.cons_append, List.cons_append, analyse_start, analyse_data (by decide), hWhole,
    if_neg (by rw [List.length_append, hLength]; omega), List.take_left' hLength,
    List.drop_left' hLength]

/-! ## Transmission errors -/

/-- An error within eight neighbouring bits behind the header, the highest bit of a byte first. -/
structure Burst where
  index : ℕ
  first : UInt8
  second : UInt8
  width : ℕ
  behind : 2 ≤ index
  inside : index + 1 < pkgCount
  width_le : width ≤ 8
  low : first.toNat < 2 ^ width
  high : 2 ^ width ∣ second.toNat
  nonzero : first ≠ 0 ∨ second ≠ 0

namespace Burst

variable (burst : Burst)

/-- The bits that arrive wrong. -/
def error : List UInt8 :=
  List.replicate burst.index 0 ++
    burst.first :: burst.second :: List.replicate (pkgCount - 2 - burst.index) 0

theorem length_error : burst.error.length = pkgCount := by
  have hInside := burst.inside
  unfold error
  simp only [List.length_append, List.length_replicate, List.length_cons]
  omega

/-- The table does not relate the two bytes. -/
theorem crcEntry_first_ne : crcEntry burst.first ≠ burst.second := by
  intro hEq
  by_cases hFirst : burst.first = 0
  · rw [hFirst, crcEntry_linear.zero] at hEq
    rcases burst.nonzero with hNonzero | hNonzero
    · exact hNonzero hFirst
    · exact hNonzero hEq.symm
  · exact crcEntry_not_dvd hFirst burst.width_le burst.low (hEq ▸ burst.high)

theorem calCRC8_error_ne_zero : calCRC8 burst.error ≠ 0 :=
  crcEntry_linear.checkFrom_pair_ne_zero burst.crcEntry_first_ne _ _

theorem take_error : burst.error.take 2 = [0, 0] := by
  have hBehind := burst.behind
  unfold error
  rw [List.take_append_of_le_length (by rw [List.length_replicate]; exact hBehind),
    List.take_replicate, min_eq_left hBehind]
  rfl

end Burst

theorem isPacket_of_sent {frame : LiDARFrame} (h : frame.Sent) : IsPacket frame.toBytes where
  length := rfl
  header := by
    change [frame.header, frame.verLen] = _
    rw [h.header, h.verLen]
  crc := crcEntry_linear.checkFrom_concat.mpr h.crc

/-- A packet with such an error keeps its header and has a wrong CRC. -/
theorem burst_detected {packet : List UInt8} (h : IsPacket packet) (burst : Burst) :
    (xorBytes packet burst.error).length = pkgCount ∧
      (xorBytes packet burst.error).take 2 = [pkgHeader, pkgVerLen] ∧
      calCRC8 (xorBytes packet burst.error) ≠ 0 := by
  have hLengths : packet.length = burst.error.length := h.length.trans burst.length_error.symm
  refine ⟨?_, ?_, ?_⟩
  · unfold xorBytes
    rw [List.length_zipWith, ← hLengths, min_self, h.length]
  · unfold xorBytes
    rw [List.take_zipWith, h.header, burst.take_error]
    decide
  · have hXor := crcEntry_linear.checkFrom_xorBytes hLengths 0 0
    have hPacket : checkFrom crcEntry 0 packet = 0 := h.crc
    rw [UInt8.xor_self, hPacket, UInt8.zero_xor] at hXor
    unfold calCRC8
    rw [hXor]
    exact burst.calCRC8_error_ne_zero

/-- A packet on its way, behind some bytes that are none of a header. -/
structure Transmission where
  gap : List UInt8
  gap_clean : pkgHeader ∉ gap
  frame : LiDARFrame
  sent : frame.Sent
  burst : Option Burst

/-- What arrives. -/
def Transmission.wire (item : Transmission) : List UInt8 :=
  item.gap ++ match item.burst with
    | none => item.frame.toBytes
    | some burst => xorBytes item.frame.toBytes burst.error

theorem analyse_wire (item : Transmission) (bytes : List UInt8) :
    analyse {} (item.wire ++ bytes) =
      ((analyse {} bytes).1,
        (if item.burst.isNone then [item.frame.toBytes] else []) ++ (analyse {} bytes).2) := by
  have hPacket := isPacket_of_sent item.sent
  unfold Transmission.wire
  rw [List.append_assoc, analyse_gap item.gap_clean]
  cases item.burst with
  | none =>
    dsimp only
    rw [analyse_packet hPacket.length hPacket.header, if_pos hPacket.crc]
    rfl
  | some burst =>
    obtain ⟨hLength, hHeader, hCrc⟩ := burst_detected hPacket burst
    dsimp only
    rw [analyse_packet hLength hHeader, if_neg hCrc]
    rfl

theorem analyse_wires (items : List Transmission) :
    analyse {} (items.flatMap Transmission.wire) =
      ({}, (items.filter fun item => item.burst.isNone).map fun item => item.frame.toBytes) := by
  induction items with
  | nil => rfl
  | cons item items ih =>
    rw [List.flatMap_cons, analyse_wire, ih]
    cases hBurst : item.burst with
    | none =>
      rw [List.filter_cons_of_pos (by rw [hBurst]; rfl)]
      rfl
    | some burst =>
      rw [List.filter_cons_of_neg (by rw [hBurst]; exact Bool.false_ne_true)]
      rfl

/-- However the bytes are read, every packet that arrives intact is decoded to what was sent, the
others are dropped without a trace, and the parser is ready for the next packet. Between two
packets the parser is back at its start (`analyse_wires`), so the reads may be joined; the check
notices every burst within eight neighbouring bits. -/
theorem packets_decoded (items : List Transmission) (reads : List (List UInt8))
    (hReads : reads.flatten = items.flatMap Transmission.wire) :
    (analyseReads {} reads).2.map LiDARFrame.ofBytes =
        (items.filter fun item => item.burst.isNone).map (·.frame) ∧
      (analyseReads {} reads).1 = {} := by
  rw [analyseReads_eq, hReads, analyse_wires]
  refine ⟨?_, rfl⟩
  rw [List.map_map]
  exact List.map_congr_left fun item _ => ofBytes_toBytes item.frame

/-- A packet of an empty scan. -/
def stillFrame : LiDARFrame where
  header := pkgHeader
  verLen := pkgVerLen
  speed := 3600
  startAngle := 100
  point _ := ⟨1000, 200⟩
  endAngle := 980
  timestamp := 7
  crc8 := 0x5b

set_option maxRecDepth 8000 in
theorem sent_stillFrame : stillFrame.Sent where
  header := rfl
  verLen := rfl
  crc := by decide

/-- The packet behind two bytes of a gap. -/
def stillTransmission : Transmission where
  gap := [0x2c, 0xff]
  gap_clean := by decide
  frame := stillFrame
  sent := sent_stillFrame
  burst := none

/-- The same packet with one bit of its speed turned. -/
def disturbedTransmission : Transmission where
  gap := []
  gap_clean := by decide
  frame := stillFrame
  sent := sent_stillFrame
  burst := some ⟨2, 1, 0, 8, by decide, by decide, by decide, by decide,
    by decide, .inl (by decide)⟩

/-- Two packets, the first of them disturbed, in two reads that part the second. -/
theorem packets_decoded_still :
    (analyseReads {} [disturbedTransmission.wire ++ [0x2c], 0xff :: stillFrame.toBytes]).2.map
          LiDARFrame.ofBytes =
        [stillFrame] ∧
      (analyseReads {} [disturbedTransmission.wire ++ [0x2c], 0xff :: stillFrame.toBytes]).1 = {} :=
  packets_decoded [disturbedTransmission, stillTransmission]
    [disturbedTransmission.wire ++ [0x2c], 0xff :: stillFrame.toBytes] rfl

end PreRunner.Lidar
