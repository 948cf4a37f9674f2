import PreRunner.Paddock.StopEnforcer
import PreRunner.Text.Json

/-!
# The STOP record as bytes

`persist` writes the STOP record as JSON beside its file and renames it over the file, and
`restore` reads whatever bytes the file has. The constructor answers an unreadable file, bytes that
are no UTF-8 and text that is no JSON by failing closed, but not a JSON value that has no `get`,
nor one that nests too deep. The main result says for which files and names the record is safe.
-/

namespace PreRunner.Paddock

open Text Text.Json Text.Scanner

/-! ## Reading the file -/

/-- The newline translation of a file that is read as text. -/
def universalNewlines : List Char → List Char
  | '\r' :: '\n' :: rest => '\n' :: universalNewlines rest
  | '\r' :: rest => '\n' :: universalNewlines rest
  | c :: rest => c :: universalNewlines rest
  | [] => []

/-- `Path(path).read_text()`: no content stands for a file that is missing or unreadable. -/
def readText : Option ByteArray → Except RestoreError (List Char)
  | none => .error .osError
  | some content =>
    match content.utf8Decode? with
    -- a `UnicodeDecodeError` is a `ValueError`
    | none => .error .valueError
    | some text => .ok (universalNewlines text.toList)

/-- `toList` of the bytes walks them by index. -/
theorem toList_loop (bytes : ByteArray) (index : ℕ) (read : List UInt8) :
    ByteArray.toList.loop bytes index read = read.reverse ++ bytes.data.toList.drop index := by
  induction h : bytes.size - index generalizing index read with
  | zero =>
    have hEnd : bytes.data.toList.length ≤ index := by
      rw [Array.length_toList]
      change bytes.size ≤ index
      omega
    rw [ByteArray.toList.loop, if_neg (by omega), List.drop_eq_nil_of_le hEnd, List.append_nil]
  | succ left ih =>
    have hIndex : index < bytes.data.toList.length := by
      rw [Array.length_toList]
      change index < bytes.size
      omega
    have hGet : bytes.get! index = bytes.data.toList[index] := by
      rw [Array.getElem_toList]
      exact getElem!_pos bytes.data index (by simpa using hIndex)
    rw [ByteArray.toList.loop, if_pos (by omega), ih _ _ (by omega), hGet, List.reverse_cons,
      List.append_assoc, List.singleton_append, List.getElem_cons_drop]

theorem toList_toArray (bytes : ByteArray) : (⟨bytes.toList.toArray⟩ : ByteArray) = bytes := by
  rw [ByteArray.toList, toList_loop]
  rfl

/-- A text that has been written as UTF-8 is read back, but for its newlines. -/
theorem readText_toUTF8 (text : String) :
    readText (some ⟨text.toUTF8.toList.toArray⟩) = .ok (universalNewlines text.toList) := by
  have hDecode : text.toUTF8.utf8Decode? = some text.toList.toArray := by
    rw [String.toUTF8, ← String.utf8Encode_toList, List.utf8Decode?_utf8Encode]
  rw [toList_toArray]
  unfold readText
  dsimp only
  rw [hDecode]

/-- `json.loads(Path(path).read_text())` with this many frames left. -/
def stateFile (frames : Nat) (content : Option ByteArray) : StateFile :=
  match readText content with
  | .error error => .error error
  | .ok text =>
    match loads frames text with
    | .error .valueError => .error .valueError
    | .error .recursionError => .error .recursionError
    | .ok value => .ok value

/-! ## Writing the record -/

/-- What `json.dump` writes for a record. -/
def StopRecord.text (record : StopRecord) : List Char :=
  '\x7b' :: (memberText "version" (Nat.toDigits 10 1) [',', ' '] ++
    (memberText "generation" (Nat.toDigits 10 record.generation) [',', ' '] ++
      memberText "stopped" (if record.stopped then "true" else "false").toList ['\x7d']))

example : StopRecord.text ⟨7, true⟩ =
    "\x7b\"version\": 1, \"generation\": 7, \"stopped\": true\x7d".toList := by decide

def StopRecord.bytes (record : StopRecord) : ByteArray := (String.ofList record.text).toByteArray

/-- `PurePath.suffix` of a final path component. -/
def suffix (name : List Char) : List Char :=
  let reversed := name.reverse.takeWhile fun c => c ≠ '.'
  -- the last dot stands inside the name, neither first nor last
  if reversed ≠ [] ∧ reversed.length + 1 < name.length then '.' :: reversed.reverse else []

/-- `path.with_suffix('.pending')`. -/
def pendingName (name : List Char) : List Char :=
  name.take (name.length - (suffix name).length) ++ ".pending".toList

/-- The directory of the file: the content of every name in it. -/
abbrev Directory := List Char → Option ByteArray

def Directory.set (directory : Directory) (name : List Char) (content : Option ByteArray) :
    Directory := fun other => if other = name then content else directory other

/-- The steps of `persist` on the disk. -/
inductive DiskStep where
  | openPending
  | write (piece : ByteArray)
  | replace

def DiskStep.run (name : List Char) (directory : Directory) : DiskStep → Directory
  | .openPending => directory.set (pendingName name) (some .empty)
  | .write piece =>
    directory.set (pendingName name) ((directory (pendingName name)).map (· ++ piece))
  | .replace =>
    if pendingName name = name then directory
    else (directory.set name (directory (pendingName name))).set (pendingName name) none

def runSteps (name : List Char) (directory : Directory) (steps : List DiskStep) : Directory :=
  steps.foldl (DiskStep.run name) directory

/-- The pieces in which a record reaches the disk. -/
structure Writing (record : StopRecord) where
  pieces : List ByteArray
  whole : pieces.foldl (· ++ ·) .empty = record.bytes

/-- The steps of `persist` before its rename. -/
def Writing.steps {record : StopRecord} (writing : Writing record) : List DiskStep :=
  .openPending :: writing.pieces.map .write

/-! ## The names -/

/-- A name ends in its suffix. -/
theorem exists_stem (name : List Char) : ∃ stem, name = stem ++ suffix name := by
  unfold suffix
  dsimp only
  split
  · rename_i h
    have hSplit := List.takeWhile_append_dropWhile (p := fun c => decide (c ≠ '.'))
      (l := name.reverse)
    cases hDrop : name.reverse.dropWhile fun c => decide (c ≠ '.') with
    | nil =>
      have hLength := congrArg List.length hSplit
      rw [hDrop, List.append_nil, List.length_reverse] at hLength
      omega
    | cons d stem =>
      have hDot : d = '.' := by
        have hHead := List.head?_dropWhile_not (fun c => decide (c ≠ '.')) name.reverse
        rw [hDrop] at hHead
        simpa using hHead
      rw [hDrop, hDot] at hSplit
      have hName := congrArg List.reverse hSplit
      rw [List.reverse_append, List.reverse_cons, List.append_assoc, List.reverse_reverse] at hName
      exact ⟨stem.reverse, hName.symm⟩
  · exact ⟨name, (List.append_nil name).symm⟩

theorem pendingName_eq_iff {name : List Char} :
    pendingName name = name ↔ suffix name = ".pending".toList := by
  obtain ⟨stem, hStem⟩ := exists_stem name
  have hTake : name.take (name.length - (suffix name).length) = stem := by
    generalize suffix name = ending at hStem
    rw [hStem, List.length_append, Nat.add_sub_cancel, List.take_left]
  unfold pendingName
  rw [hTake]
  constructor
  · intro h
    exact (List.append_cancel_left (h.trans hStem)).symm
  · intro h
    rw [← h]
    exact hStem.symm

/-! ## The round trip -/

theorem universalNewlines_of_not_mem {text : List Char} (h : '\r' ∉ text) :
    universalNewlines text = text := by
  induction text with
  | nil => rfl
  | cons c rest ih =>
    obtain ⟨hHead, hRest⟩ := not_or.mp (mt List.mem_cons.mpr h)
    rw [universalNewlines, ih hRest]
    · rintro _ rfl
      exact absurd rfl hHead
    · rintro rfl
      exact absurd rfl hHead

theorem endsInteger_of_head {c : Char} (h : c.isDigit = false ∧ c ≠ '.' ∧ c ≠ 'e' ∧ c ≠ 'E')
    (rest : List Char) : EndsInteger (c :: rest) := by
  intro d hIs
  cases hIs
  exact h

/-- A member that another one follows. -/
theorem reads_member_comma {frames : Nat} {key : String} {text rest : List Char} {item : PyValue}
    (members : PyDict) (hKey : ∀ c ∈ key.toList, Plain c) (hText : ReadsValue text item)
    (hRest : rest.head? = some '\"') :
    Reads (memberStep (scanOnce frames) members) (memberText key text [',', ' '])
      (.inl (members.assign key item)) rest := by
  refine reads_memberStep hKey hText ⟨',', [' '], rfl, rfl, endsInteger_of_head (by decide) _⟩
    (reads_delimiter_comma (by decide) fun c hIs => ?_)
  cases hIs.symm.trans hRest
  rfl

theorem loads_text (frames : Nat) {record : StopRecord} (h : record.generation < 2 ^ 63) :
    loads (frames + 1) record.text = .ok (.dict record.document) := by
  have hDigits : (Nat.toDigits 10 record.generation).length ≤ maxStrDigits := by
    have hShort : (Nat.toDigits 10 record.generation).length ≤ 19 :=
      (Nat.length_toDigits_le_iff (by decide) (by decide)).mpr (h.trans (by norm_num))
    exact hShort.trans (by norm_num [maxStrDigits])
  have hVersion : (Nat.toDigits 10 1).length ≤ maxStrDigits :=
    (by decide : (Nat.toDigits 10 1).length ≤ 1).trans (by norm_num [maxStrDigits])
  have hVersionKey := plain_of_all (by decide : "version".toList.all (Plain ·) = true)
  have hGenerationKey := plain_of_all (by decide : "generation".toList.all (Plain ·) = true)
  have hStoppedKey := plain_of_all (by decide : "stopped".toList.all (Plain ·) = true)
  refine loads_of_reads (by decide) (by decide) (reads_object rfl ?_)
  refine .loop_next (reads_member_comma [] hVersionKey (readsValue_int hVersion) rfl) ?_
  refine .loop_next (reads_member_comma _ hGenerationKey (readsValue_int hDigits) rfl) ?_
  refine .loop_done ?_
  exact reads_memberStep hStoppedKey (readsValue_bool record.stopped)
    ⟨'\x7d', [], rfl, rfl, endsInteger_of_head (by decide) _⟩ (reads_delimiter_close _ _)

theorem not_mem_memberText {key : String} {text after : List Char} (hKey : '\r' ∉ key.toList)
    (hText : '\r' ∉ text) (hAfter : '\r' ∉ after) : '\r' ∉ memberText key text after := by
  simp [memberText, hKey, hText, hAfter]

theorem not_mem_toDigits (n : Nat) : '\r' ∉ Nat.toDigits 10 n := fun hMem => by
  have hDigit := Nat.isDigit_of_mem_toDigits (by decide) (by decide) hMem
  cases hDigit

theorem not_mem_text (record : StopRecord) : '\r' ∉ record.text := by
  have hFlag : '\r' ∉ (if record.stopped then "true" else "false").toList := by
    cases record.stopped <;> decide
  refine fun hMem => ?_
  rcases List.mem_cons.mp hMem with hHead | hMem
  · exact absurd hHead (by decide)
  rcases List.mem_append.mp hMem with hFirst | hMem
  · exact not_mem_memberText (by decide) (not_mem_toDigits 1) (by decide) hFirst
  rcases List.mem_append.mp hMem with hSecond | hThird
  · exact not_mem_memberText (by decide) (not_mem_toDigits _) (by decide) hSecond
  · exact not_mem_memberText (by decide) hFlag (by decide) hThird

/-- What the executor reads back from the bytes of a record is the record. -/
theorem stateFile_bytes {frames : Nat} (hFrames : 0 < frames) {record : StopRecord}
    (h : record.generation < 2 ^ 63) : stateFile frames (some record.bytes) = persisted record := by
  obtain ⟨frames, rfl⟩ := Nat.exists_eq_succ_of_ne_zero hFrames.ne'
  have hDecode : record.bytes.utf8Decode? = some record.text.toArray := by
    unfold StopRecord.bytes
    rw [String.toByteArray_ofList, List.utf8Decode?_utf8Encode]
  have hRead : readText (some record.bytes) = .ok record.text := by
    unfold readText
    dsimp only
    rw [hDecode]
    dsimp only
    rw [universalNewlines_of_not_mem (not_mem_text record)]
  unfold stateFile
  rw [hRead]
  dsimp only
  rw [loads_text frames h]
  rfl

/-! ## The start of the executor -/

/-- The bytes are those of a valid record: an object with version 1, a boolean `stopped`, and an
integer generation in range. -/
def IsRecord (frames : Nat) (content : Option ByteArray) (record : StopRecord) : Prop :=
  ∃ members version, stateFile frames content = .ok (.dict members) ∧
    PyDict.get? members "version" = some version ∧ version.equalsInt 1 = true ∧
    PyDict.get? members "stopped" = some (.bool record.stopped) ∧
    PyDict.get? members "generation" = some (.int record.generation) ∧
    record.generation < 2 ^ 63

theorem restore_eq_ok_iff {frames : Nat} {content : Option ByteArray} {record : StopRecord} :
    restore (stateFile frames content) = .ok record ↔ IsRecord frames content record := by
  unfold IsRecord
  generalize stateFile frames content = file
  constructor
  · intro h
    unfold restore at h
    split at h
    · cases h
    · rename_i members
      split at h
      · rename_i version stopped generation hVersion hStopped hGeneration
        split at h
        · rename_i hChecks
          cases h
          obtain ⟨hOne, hLow, hHigh⟩ := hChecks
          refine ⟨members, version, rfl, hVersion, hOne, hStopped, ?_, ?_⟩
          · rw [Int.toNat_of_nonneg hLow]
            exact hGeneration
          · change generation.toNat < 2 ^ 63
            omega
        · cases h
      · cases h
    · cases h
  · rintro ⟨members, version, rfl, hVersion, hOne, hStopped, hGeneration, hRange⟩
    unfold restore
    dsimp only
    rw [hVersion, hStopped, hGeneration]
    dsimp only
    rw [if_pos ⟨hOne, by omega, by omega⟩, Int.toNat_natCast]

/-- Reading the file ends in one of three exceptions, if in any. -/
theorem stateFile_error {frames : Nat} {content : Option ByteArray} {error : RestoreError}
    (h : stateFile frames content = .error error) :
    error = .osError ∨ error = .valueError ∨ error = .recursionError := by
  have hRead : ∀ error, readText content = .error error →
      error = .osError ∨ error = .valueError := by
    intro error hText
    unfold readText at hText
    split at hText
    · cases hText
      exact Or.inl rfl
    · split at hText
      · cases hText
        exact Or.inr rfl
      · cases hText
  unfold stateFile at h
  split at h
  · rename_i hText
    cases h
    exact (hRead _ hText).imp_right Or.inl
  · split at h
    · cases h
      exact Or.inr (Or.inl rfl)
    · cases h
      exact Or.inr (Or.inr rfl)
    · cases h

/-- The executor comes up locked, with the record of the file if it is a valid one, and stopped
with a fault if it is not. -/
def StartsSafely (frames : Nat) (content : Option ByteArray) : Prop :=
  ∀ boot started, ∃ s, StopEnforcer.start (stateFile frames content) boot started = .ok s ∧
    s.locked = true ∧
    ((∃ record, IsRecord frames content record ∧ s.generation = record.generation ∧
        s.stopped = record.stopped) ∨
      ((∀ record, ¬ IsRecord frames content record) ∧ s.generation = 0 ∧ s.stopped = true ∧
        s.fault ≠ ""))

/-- The text of the file is no JSON value other than an object, and it does not nest too deep. -/
def Readable (frames : Nat) (content : Option ByteArray) : Prop :=
  stateFile frames content ≠ .error .recursionError ∧
    ∀ value, stateFile frames content = .ok value → ∃ members, value = .dict members

theorem startsSafely_iff (frames : Nat) (content : Option ByteArray) :
    StartsSafely frames content ↔ Readable frames content := by
  constructor
  · intro h
    obtain ⟨s, hStart, -⟩ := h "" 0
    refine ⟨fun hDeep => ?_, fun value hValue => ?_⟩
    · rw [hDeep] at hStart
      cases hStart
    · rw [hValue] at hStart
      cases value with
      | dict members => exact ⟨members, rfl⟩
      | none | bool | int | float | str | list => cases hStart
  · rintro ⟨hShallow, hObject⟩ boot started
    unfold StopEnforcer.start
    cases hRestore : restore (stateFile frames content) with
    | ok record =>
      exact ⟨_, rfl, rfl, Or.inl ⟨record, restore_eq_ok_iff.mp hRestore, rfl, rfl⟩⟩
    | error error =>
      have hInvalid : ∀ record, ¬ IsRecord frames content record := by
        intro record hRecord
        cases hRestore.symm.trans (restore_eq_ok_iff.mpr hRecord)
      have hCaught : error.caught = true := by
        cases hFile : stateFile frames content with
        | error cause =>
          rw [hFile] at hRestore
          cases hRestore
          rcases stateFile_error hFile with rfl | rfl | rfl
          · rfl
          · rfl
          · exact absurd hFile hShallow
        | ok value =>
          obtain ⟨members, rfl⟩ := hObject value hFile
          rw [hFile] at hRestore
          unfold restore at hRestore
          dsimp only at hRestore
          split at hRestore
          · split at hRestore <;> cases hRestore
            rfl
          · cases hRestore
            rfl
      dsimp only
      rw [if_pos hCaught]
      exact ⟨_, rfl, rfl, Or.inr ⟨hInvalid, rfl, rfl, (by decide : "STOP_STATE_UNKNOWN" ≠ "")⟩⟩

/-! ## Replacing the record -/

/-- A directory that `persist` leaves when it is interrupted before its rename. -/
def Interrupted (name : List Char) (directory : Directory) (record : StopRecord)
    (left : Directory) : Prop :=
  ∃ (writing : Writing record) (done : List DiskStep), done <+: writing.steps ∧
    left = runSteps name directory done

/-- The directory that `persist` leaves when it returns. -/
def Persisted (name : List Char) (directory : Directory) (record : StopRecord)
    (left : Directory) : Prop :=
  ∃ writing : Writing record, left = runSteps name directory (writing.steps ++ [.replace])

theorem Directory.set_same (directory : Directory) (name : List Char)
    (content : Option ByteArray) : directory.set name content name = content := if_pos rfl

theorem Directory.set_other (directory : Directory) {name other : List Char}
    (content : Option ByteArray) (h : other ≠ name) :
    directory.set name content other = directory other := if_neg h

/-- The pieces that were written make up the pending file. -/
theorem runSteps_writes (name : List Char) (directory : Directory) (bytes : ByteArray)
    (pieces : List ByteArray) (hOpen : directory (pendingName name) = some bytes) :
    runSteps name directory (pieces.map .write) (pendingName name) =
      some (pieces.foldl (· ++ ·) bytes) := by
  induction pieces generalizing directory bytes with
  | nil => exact hOpen
  | cons piece pieces ih =>
    refine ih _ (bytes ++ piece) ?_
    change directory.set _ _ _ = _
    rw [Directory.set_same, hOpen]
    rfl

/-- A step before the rename touches the pending file only. -/
theorem run_same {name other : List Char} (hOther : other ≠ pendingName name)
    (directory : Directory) {step : DiskStep} (hStep : step ≠ .replace) :
    step.run name directory other = directory other := by
  cases step with
  | openPending => exact directory.set_other _ hOther
  | write piece => exact directory.set_other _ hOther
  | replace => exact absurd rfl hStep

theorem runSteps_same {name other : List Char} (hOther : other ≠ pendingName name)
    (directory : Directory) {steps : List DiskStep} (hSteps : .replace ∉ steps) :
    runSteps name directory steps other = directory other := by
  induction steps generalizing directory with
  | nil => rfl
  | cons step steps ih =>
    obtain ⟨hStep, hRest⟩ := not_or.mp (mt List.mem_cons.mpr hSteps)
    exact (ih _ hRest).trans (run_same hOther directory (Ne.symm hStep))

theorem Writing.replace_not_mem {record : StopRecord} (writing : Writing record) :
    .replace ∉ writing.steps := by
  simp [Writing.steps]

theorem interrupted_same {name other : List Char} (hOther : other ≠ pendingName name)
    {directory left : Directory} {record : StopRecord}
    (h : Interrupted name directory record left) : left other = directory other := by
  obtain ⟨writing, done, hDone, rfl⟩ := h
  exact runSteps_same hOther directory fun hMem => writing.replace_not_mem (hDone.subset hMem)

/-- After `persist` the file holds the record. -/
theorem persisted_content {name : List Char} {directory left : Directory} {record : StopRecord}
    (h : Persisted name directory record left) : left name = some record.bytes := by
  obtain ⟨writing, rfl⟩ := h
  have hWritten : runSteps name directory writing.steps (pendingName name) =
      some record.bytes := by
    rw [← writing.whole]
    exact runSteps_writes name _ .empty writing.pieces (Directory.set_same _ _ _)
  unfold runSteps at hWritten ⊢
  rw [List.foldl_append]
  generalize writing.steps.foldl (DiskStep.run name) directory = pending at hWritten ⊢
  change (if pendingName name = name then pending else _) name = _
  split
  · rename_i hSame
    rw [hSame] at hWritten
    exact hWritten
  · rename_i hOther
    rw [Directory.set_other _ _ (Ne.symm hOther), Directory.set_same]
    exact hWritten

/-- A record that is written in one piece. -/
def Writing.single (record : StopRecord) : Writing record :=
  ⟨[record.bytes], ByteArray.empty_append⟩

theorem stateFile_empty (frames : Nat) : stateFile frames (some .empty) = .error .valueError := by
  have hLoads : loads frames [] = .error .valueError := by
    cases frames with
    | zero => rfl
    | succ frames => rfl
  have hRead : readText (some .empty) = .ok [] := by
    unfold readText
    dsimp only
    rw [ByteArray.utf8Decode?_empty]
    rfl
  unfold stateFile
  rw [hRead]
  dsimp only
  rw [hLoads]

/-! ## The main result -/

/-- What the state file promises: a safe start from any content, the round trip of every record,
and the previous record while a new one is written. -/
structure RecordSafe (frames : Nat) (name : List Char) (content : Option ByteArray) : Prop where
  startUp : StartsSafely frames content
  roundTrip : ∀ record : StopRecord, record.generation < 2 ^ 63 →
    ∀ directory left, Persisted name directory record left →
      restore (stateFile frames (left name)) = .ok record
  interrupted : ∀ (directory : Directory) (previous record : StopRecord) (left : Directory),
    restore (stateFile frames (directory name)) = .ok previous →
      Interrupted name directory record left →
        restore (stateFile frames (left name)) = .ok previous

/-- The STOP record is safe exactly if the file is not the text of a JSON value other than an
object, does not nest too deep, and has a name other than that of its pending file.
`startsSafely_iff` decides the start. An interrupted write leaves the old record
(`interrupted_same`), unless the pending file is the record itself, which is emptied first. -/
theorem recordSafe_iff {frames : Nat} (hFrames : 0 < frames) (name : List Char)
    (content : Option ByteArray) :
    RecordSafe frames name content ↔
      Readable frames content ∧ suffix name ≠ ".pending".toList := by
  have hRestore : ∀ record : StopRecord, record.generation < 2 ^ 63 →
      restore (stateFile frames (some record.bytes)) = .ok record := by
    intro record hRange
    rw [stateFile_bytes hFrames hRange, restore_persisted, if_pos hRange]
  constructor
  · intro h
    refine ⟨(startsSafely_iff frames content).mp h.startUp, fun hSuffix => ?_⟩
    have hName := pendingName_eq_iff.mpr hSuffix
    -- the pending file is the record itself, and it is emptied first
    let record : StopRecord := ⟨0, true⟩
    have hKept := h.interrupted (fun _ => some record.bytes) record record
      (runSteps name _ [.openPending]) (hRestore record (by decide))
      ⟨.single record, [.openPending], List.prefix_append _ _, rfl⟩
    have hEmptied : runSteps name (fun _ => some record.bytes) [.openPending] name =
        some .empty := by
      simp only [runSteps, List.foldl_cons, List.foldl_nil, DiskStep.run, hName,
        Directory.set_same]
    rw [hEmptied, stateFile_empty] at hKept
    cases hKept
  · rintro ⟨hReadable, hSuffix⟩
    have hName : name ≠ pendingName name := fun hSame =>
      hSuffix (pendingName_eq_iff.mp hSame.symm)
    refine ⟨(startsSafely_iff frames content).mpr hReadable, ?_, ?_⟩
    · intro record hRange directory left hLeft
      rw [persisted_content hLeft]
      exact hRestore record hRange
    · intro directory previous record left hPrevious hLeft
      rw [interrupted_same hName hLeft]
      exact hPrevious

/-- A state file that holds an empty JSON list. -/
def listFile : ByteArray := (String.ofList ['[', ']']).toByteArray

theorem stateFile_listFile : stateFile 1000 (some listFile) = .ok (.list []) := by
  have hLoads : loads 1000 ['[', ']'] = .ok (.list []) := rfl
  have hRead : readText (some listFile) = .ok ['[', ']'] := by
    unfold readText listFile
    dsimp only
    rw [String.toByteArray_ofList, List.utf8Decode?_utf8Encode]
    rfl
  unfold stateFile
  rw [hRead]
  dsimp only
  rw [hLoads]

theorem recordSafe_iff_listFile :
    0 < 1000 ∧ (RecordSafe 1000 "stop.json".toList (some listFile) ↔
      Readable 1000 (some listFile) ∧ suffix "stop.json".toList ≠ ".pending".toList) :=
  ⟨by decide, recordSafe_iff (by decide) _ _⟩

/-- The executor does not start from an empty JSON list. -/
theorem list_file_raises :
    StopEnforcer.start (stateFile 1000 (some listFile)) "b" 0 = .error .attributeError ∧
      ¬ RecordSafe 1000 "stop.json".toList (some listFile) := by
  have hStart : StopEnforcer.start (stateFile 1000 (some listFile)) "b" 0 =
      .error .attributeError := by
    rw [stateFile_listFile]
    rfl
  refine ⟨hStart, fun h => ?_⟩
  obtain ⟨s, hOk, -⟩ := h.startUp "b" 0
  rw [hStart] at hOk
  cases hOk

end PreRunner.Paddock
