import PreRunner.Maps.SemanticsWrite

/-!
# What an interrupted write leaves

A write of a semantic raster may be interrupted anywhere. This module says how far it gets, and
what the validation of the bundle and the reader of the raster make of the files it leaves.
-/

namespace PreRunner.Maps

open Runs Interruptible

variable {zlib : Zlib} {lib : BundleLibrary} {fs next : FileSystem} {mapDir base : FilePath}
  {mapId : String}

/-! ## The validation in two parts -/

/-- The checks of `validate_bundle` before the manifest: the resolution and the dimensions. -/
def validateFiles (lib : BundleLibrary) (fs : FileSystem) (mapDir : FilePath) (mapId : String) :
    Except MapError (PyFloat × ℤ × ℤ) := do
  let base ← mapDirectory mapDir mapId
  if !fs.isDir base then throw .noDirectory
  if !fs.isNonempty (base ++ [posegraphPosegraphName]) then throw (.missing posegraphPosegraphName)
  if !fs.isNonempty (base ++ [posegraphDataName]) then throw (.missing posegraphDataName)
  if !fs.isNonempty (base ++ [mapYamlName]) then throw (.missing mapYamlName)
  let (image, resolution) ← parseMapYaml lib ((fs.file (base ++ [mapYamlName])).getD [])
  let imagePath := resolveImagePath base image
  if !fs.isNonempty imagePath then throw (.missingRaster image)
  let (width, height, maxval) ← readPgmHeader lib ((fs.file imagePath).getD [])
  if width ≤ 0 ∨ height ≤ 0 then throw .rasterDimensions
  if ¬ (0 < maxval ∧ maxval ≤ 255) then throw (.rasterMaxval maxval)
  return (resolution, width, height)

/-- The checks of the manifest, and what it says. -/
def validateManifest (lib : BundleLibrary) (fs : FileSystem) (base : FilePath) (mapId : String)
    (files : PyFloat × ℤ × ℤ) : Except MapError BundleInfo :=
  let (resolution, width, height) := files
  match readManifest lib fs base with
  | none => .ok { name := mapId, revision := "", sessionId := "", resolution, width, height }
  | some manifest => do
    match PyDict.get? manifest "artifacts" with
    | some (.dict recorded) => recorded.forM (checkArtifact lib fs base)
    | _ => pure ()
    return {
      name := mapId
      revision := manifestText lib manifest "revision"
      sessionId := manifestText lib manifest "session_id"
      resolution, width, height }

theorem validateBundle_eq (lib : BundleLibrary) (fs : FileSystem) (mapDir : FilePath)
    (mapId : String) :
    validateBundle lib fs mapDir mapId =
      validateFiles lib fs mapDir mapId >>=
        validateManifest lib fs (mapDir ++ [mapId]) mapId := by
  unfold validateBundle validateFiles mapDirectory
  cases hName : safeBasename mapId with
  | error error => rfl
  | ok name =>
    cases safeBasename_eq hName
    simp only [Except.map, bind, Except.bind, throw, throwThe, MonadExceptOf.throw, pure,
      Except.pure]
    cases fs.isDir (mapDir ++ [mapId]) with
    | false => rfl
    | true =>
    cases fs.isNonempty (mapDir ++ [mapId] ++ [posegraphPosegraphName]) with
    | false => rfl
    | true =>
    cases fs.isNonempty (mapDir ++ [mapId] ++ [posegraphDataName]) with
    | false => rfl
    | true =>
    cases fs.isNonempty (mapDir ++ [mapId] ++ [mapYamlName]) with
    | false => rfl
    | true =>
    cases parseMapYaml lib ((fs.file (mapDir ++ [mapId] ++ [mapYamlName])).getD []) with
    | error error => rfl
    | ok parsed =>
    simp only [Bool.not_true, Bool.false_eq_true, if_false]
    cases fs.isNonempty (resolveImagePath (mapDir ++ [mapId]) parsed.1) with
    | false => rfl
    | true =>
    cases readPgmHeader lib ((fs.file (resolveImagePath (mapDir ++ [mapId]) parsed.1)).getD []) with
    | error error => rfl
    | ok header =>
    obtain ⟨width, height, maxval⟩ := header
    simp only [Bool.not_true, Bool.false_eq_true, if_false]
    by_cases hSize : width ≤ 0 ∨ height ≤ 0
    · simp only [if_pos hSize]
    · by_cases hMaxval : 0 < maxval ∧ maxval ≤ 255
      · simp only [if_neg hSize, if_neg (not_not.mpr hMaxval)]
        rfl
      · simp only [if_neg hSize, if_pos hMaxval]

/-- What the validation reads before the manifest is the same. -/
structure SameFiles (lib : BundleLibrary) (fs next : FileSystem) (base : FilePath) : Prop where
  dir : next.isDir = fs.isDir
  core : ∀ name ∈ coreFilenames, next.file (base ++ [name]) = fs.file (base ++ [name])
  raster : ∀ path, rasterPath lib fs base = some path → next.file path = fs.file path

theorem validateFiles_congr (h : SameFiles lib fs next (mapDir ++ [mapId])) :
    validateFiles lib next mapDir mapId = validateFiles lib fs mapDir mapId := by
  unfold validateFiles mapDirectory
  cases hName : safeBasename mapId with
  | error error => rfl
  | ok name =>
    cases safeBasename_eq hName
    have hNonempty : ∀ name ∈ coreFilenames, next.isNonempty (mapDir ++ [mapId] ++ [name]) =
        fs.isNonempty (mapDir ++ [mapId] ++ [name]) := fun name hMem => by
      unfold FileSystem.isNonempty
      rw [h.core name hMem]
    simp only [Except.map, bind, Except.bind]
    rw [h.dir, hNonempty _ (by decide), hNonempty _ (by decide),
      hNonempty _ (by decide), h.core _ (by decide)]
    have hRaster := h.raster
    unfold rasterPath at hRaster
    cases hParsed : parseMapYaml lib ((fs.file (mapDir ++ [mapId] ++ [mapYamlName])).getD []) with
    | error error => rfl
    | ok parsed =>
      rw [hParsed] at hRaster
      have hImage := hRaster _ rfl
      dsimp only
      unfold FileSystem.isNonempty
      rw [hImage]

theorem checkArtifact_congr (h : SameFiles lib fs next base) :
    checkArtifact lib next base = checkArtifact lib fs base := by
  funext artifact
  obtain ⟨filename, digest⟩ := artifact
  unfold checkArtifact
  dsimp only
  by_cases hCore : filename ∈ coreFilenames
  · rw [h.core filename hCore]
  · simp only [hCore, not_false_eq_true, if_true]

theorem readManifest_congr
    (h : next.file (base ++ [manifestName]) = fs.file (base ++ [manifestName])) :
    readManifest lib next base = readManifest lib fs base := by
  unfold readManifest
  rw [h]

/-- With the same manifest as well the bundle validates as before. -/
theorem validateBundle_same (h : SameFiles lib fs next (mapDir ++ [mapId]))
    (hManifest : next.file (mapDir ++ [mapId] ++ [manifestName]) =
      fs.file (mapDir ++ [mapId] ++ [manifestName])) :
    validateBundle lib next mapDir mapId = validateBundle lib fs mapDir mapId := by
  rw [validateBundle_eq, validateBundle_eq, validateFiles_congr h]
  congr 1
  funext files
  unfold validateManifest
  rw [readManifest_congr hManifest, checkArtifact_congr h]

/-! ## The new manifest -/

/-- The hashes of the canonical files that exist. -/
def recordedHashes (lib : BundleLibrary) (fs : FileSystem) (base : FilePath) :
    List (String × String) :=
  canonicalFilenames.filterMap fun filename =>
    (fs.file (base ++ [filename])).map fun data => (filename, lib.sha256 data)

theorem mem_recordedHashes {name digest : String} :
    (name, digest) ∈ recordedHashes lib fs base ↔
      name ∈ canonicalFilenames ∧ ∃ data, fs.file (base ++ [name]) = some data ∧
        lib.sha256 data = digest := by
  unfold recordedHashes
  rw [List.mem_filterMap]
  constructor
  · rintro ⟨filename, hMem, hSome⟩
    obtain ⟨data, hData, hPair⟩ := Option.map_eq_some_iff.mp hSome
    cases hPair
    exact ⟨hMem, data, hData, rfl⟩
  · rintro ⟨hMem, data, hData, rfl⟩
    exact ⟨name, hMem, by rw [hData]; rfl⟩

theorem buildManifest_ok {sessionId : String} {created manifest : PyValue}
    (h : buildManifest lib fs sessionId mapId base created = .ok manifest) :
    ∃ members : PyDict, manifest = .dict members ∧ (members.map (·.1)).Nodup ∧
      members.lookup "session_id" = some (.str sessionId) ∧
      members.lookup "artifacts" = some (.dict ((recordedHashes lib fs base).map
        fun hash => (hash.1, .str hash.2))) := by
  unfold buildManifest at h
  obtain ⟨iso, hIso, h⟩ := ok_of_bind h
  cases h
  have hNodup : ["version", "name", "session_id", "created", "created_iso", "revision",
      "artifacts"].Nodup := by
    decide
  exact ⟨_, rfl, hNodup, rfl, rfl⟩

/-- What `json.loads` makes of the new manifest. -/
structure Republished (lib : BundleLibrary) (fs : FileSystem) (base : FilePath)
    (sessionId : String) (manifest : PyDict) : Prop where
  session : PyDict.get? manifest "session_id" = some (.str sessionId)
  artifacts : ∃ recorded : PyDict, PyDict.get? manifest "artifacts" = some (.dict recorded) ∧
    ∀ artifact, artifact ∈ recorded ↔
      ∃ data, artifact.1 ∈ canonicalFilenames ∧ fs.file (base ++ [artifact.1]) = some data ∧
        artifact.2 = .str (lib.sha256 data)

theorem republished {sessionId : String} {created manifest : PyValue}
    (h : buildManifest lib fs sessionId mapId base created = .ok manifest) :
    ∃ document, manifest.sorted = .dict document ∧
      Republished lib fs base sessionId document := by
  obtain ⟨members, rfl, hNodup, hSession, hArtifacts⟩ := buildManifest_ok h
  refine ⟨members.sorted, rfl, ?_, PyDict.sorted ((recordedHashes lib fs base).map
    fun hash => (hash.1, .str hash.2)), ?_, fun artifact => ?_⟩
  · unfold PyDict.get?
    rw [PyDict.lookup_sorted hNodup, hSession]
    rfl
  · unfold PyDict.get?
    rw [PyDict.lookup_sorted hNodup, hArtifacts]
    rfl
  · rw [(PyDict.perm_sorted _).mem_iff, List.map_map, List.mem_map]
    constructor
    · rintro ⟨⟨name, digest⟩, hMem, rfl⟩
      obtain ⟨hName, data, hData, rfl⟩ := mem_recordedHashes.mp hMem
      exact ⟨data, hName, hData, rfl⟩
    · rintro ⟨data, hName, hData, hDigest⟩
      refine ⟨(artifact.1, lib.sha256 data), mem_recordedHashes.mpr ⟨hName, data, hData, rfl⟩, ?_⟩
      exact Prod.ext rfl hDigest.symm

/-- The hashes of the new manifest are those of the core files. -/
theorem validateManifest_republished {manifest : PyDict} {sessionId : String} (mapId : String)
    (files : PyFloat × ℤ × ℤ) (hManifest : readManifest lib next base = some manifest)
    (h : Republished lib fs base sessionId manifest) (hFiles : SameFiles lib fs next base) :
    ∃ info, validateManifest lib next base mapId files = .ok info ∧
      info.sessionId = manifestText lib manifest "session_id" ∧
      (info.width, info.height) = files.2 := by
  obtain ⟨recorded, hRecorded, hMem⟩ := h.artifacts
  have hArtifacts : recorded.forM (checkArtifact lib next base) = .ok () := by
    have hNone : ¬ Fails (fun _ => True) (recorded.forM (checkArtifact lib next base)) := by
      refine not_fails_forM fun artifact hArtifact => ?_
      obtain ⟨data, hName, hData, hDigest⟩ := (hMem artifact).mp hArtifact
      have hPlain : ∀ name ∈ canonicalFilenames, ¬ ('/' ∈ name.toList ∨ '\\' ∈ name.toList ∨
          hasDotDot name.toList = true ∨ name = ".") := by
        decide
      unfold checkArtifact
      dsimp only
      rw [if_neg (hPlain _ hName)]
      by_cases hCore : artifact.1 ∈ coreFilenames
      · rw [if_neg (not_not.mpr hCore), hFiles.core _ hCore, hData, hDigest]
        dsimp only
        rw [if_pos rfl]
        exact not_fails_ok ()
      · rw [if_pos hCore]
        exact not_fails_ok ()
    cases hRun : recorded.forM (checkArtifact lib next base) with
    | ok _ => rfl
    | error error => exact absurd ⟨error, hRun, trivial⟩ hNone
  unfold validateManifest
  rw [hManifest]
  dsimp only
  rw [hRecorded]
  dsimp only
  rw [hArtifacts]
  exact ⟨_, rfl, rfl, rfl⟩

/-! ## The raster of the map -/

/-- What a bundle with valid files has. -/
theorem validateFiles_ok {files : PyFloat × ℤ × ℤ}
    (h : validateFiles lib fs mapDir mapId = .ok files) :
    safeBasename mapId = .ok mapId ∧ 0 < files.2.1 ∧ 0 < files.2.2 ∧
      ∃ path, rasterPath lib fs (mapDir ++ [mapId]) = some path ∧ fs.isNonempty path = true ∧
        ∃ header, readPgmHeader lib ((fs.file path).getD []) = .ok header := by
  unfold validateFiles mapDirectory at h
  cases hName : safeBasename mapId with
  | error error =>
    rw [hName] at h
    cases h
  | ok name =>
    cases safeBasename_eq hName
    rw [hName] at h
    simp only [Except.map, bind, Except.bind, throw, throwThe, MonadExceptOf.throw, pure,
      Except.pure] at h
    unfold rasterPath
    split at h
    · cases h
    split at h
    · cases h
    split at h
    · cases h
    split at h
    · cases h
    split at h
    · cases h
    rename_i parsed hParsed
    rw [hParsed]
    split at h
    · cases h
    rename_i hImage
    split at h
    · cases h
    rename_i header hHeader
    split at h
    · cases h
    rename_i hSize
    split at h
    · cases h
    cases h
    rw [not_or, not_le, not_le] at hSize
    rw [Bool.not_eq_true', Bool.not_eq_false] at hImage
    exact ⟨rfl, hSize.1, hSize.2, _, rfl, hImage, header, hHeader⟩

theorem head?_of_readPgmHeader {data : Bytes} {header : ℤ × ℤ × ℤ}
    (h : readPgmHeader lib data = .ok header) : data.head? = some 0x50 := by
  unfold readPgmHeader at h
  dsimp only at h
  split at h
  · cases h
  · rename_i hMagic
    cases data with
    | nil => exact absurd rfl hMagic
    | cons byte data =>
      rw [List.take_succ_cons, List.isPrefixOf_cons_cons, Bool.not_eq_true', Bool.not_eq_false,
        Bool.and_eq_true, beq_iff_eq] at hMagic
      rw [List.head?_cons, ← hMagic.1]

theorem rasterPath_congr (lib : BundleLibrary)
    (h : next.file (base ++ [mapYamlName]) = fs.file (base ++ [mapYamlName])) :
    rasterPath lib next base = rasterPath lib fs base := by
  unfold rasterPath
  rw [h]

theorem SameFiles.trans {last : FileSystem} (h : SameFiles lib fs next base)
    (hNext : SameFiles lib next last base) : SameFiles lib fs last base where
  dir := hNext.dir.trans h.dir
  core name hMem := (hNext.core name hMem).trans (h.core name hMem)
  raster path hPath := by
    have hYaml := rasterPath_congr lib (h.core mapYamlName (by decide))
    exact (hNext.raster path (hYaml.trans hPath)).trans (h.raster path hPath)

/-- A temporary file has a name of its own. -/
theorem ne_temporary {faults : AtomicFaults} {name other : String}
    (h : name.toList.head? ≠ some '.') : base ++ [name] ≠ faults.temporary base other := by
  intro hEq
  have hName : name = "." ++ other ++ "." ++ faults.random :=
    List.singleton_inj.mp (List.append_cancel_left hEq)
  refine h ?_
  rw [hName]
  simp [String.toList_append]

theorem Around.sameFiles {faults : AtomicFaults} {name : String}
    (h : Around fs (faults.temporary base name) next)
    (hRaster : ∀ path, rasterPath lib fs base = some path → fs.isNonempty path = true) :
    SameFiles lib fs next base where
  dir := h.isDir
  core other hMem := by
    have hHeads : ∀ name ∈ coreFilenames, name.toList.head? ≠ some '.' := by decide
    exact h.file (ne_temporary (hHeads other hMem))
  raster path hPath := by
    have hThere := hRaster path hPath
    rcases h with rfl | ⟨hFree, data, rfl⟩
    · rfl
    · refine FileSystem.file_write_of_ne _ (fun hEq => ?_) _
      unfold FileSystem.isNonempty at hThere
      rw [hEq, file_eq_none_of_isFree hFree] at hThere
      cases hThere

/-- The files that the validation reads first, when another one is written. -/
theorem sameFiles_write {name : String} (hName : name ∉ coreFilenames) (data : Bytes)
    (hRaster : rasterPath lib fs base ≠ some (base ++ [name])) :
    SameFiles lib fs (fs.write (base ++ [name]) data) base where
  dir := rfl
  core other hMem := by
    refine FileSystem.file_write_of_ne _ (fun hEq => hName ?_) _
    exact List.singleton_inj.mp (List.append_cancel_left hEq) ▸ hMem
  raster path hPath := FileSystem.file_write_of_ne _
    (fun hEq => hRaster (hPath.trans (congrArg some hEq))) _

/-! ## The semantic raster -/

/-- The buffer has a class for every cell. -/
def Accepted (info : BundleInfo) (gridData : Bytes) : Prop :=
  (gridData.length : ℤ) = info.width * info.height ∧ Classes gridData

/-- The dimensions and the compressed scanlines fit into the words of a PNG. -/
def Fits (zlib : Zlib) (info : BundleInfo) (gridData : Bytes) : Prop :=
  info.width < 2 ^ 32 ∧ info.height < 2 ^ 32 ∧
    (zlib.compress (scanlines info.width.toNat info.height.toNat
      (flip info.width.toNat info.height.toNat gridData))).length < 2 ^ 32

/-- A rejection that the caller of `write_semantics` reports. -/
def MapError.isReported : MapError → Bool
  | .python _ | .png .structError => false
  | _ => true

section Encoding

variable {info : BundleInfo} {gridData blob : Bytes}

theorem encode_refused (zlib : Zlib) (hSize : 0 < info.width ∧ 0 < info.height)
    (h : ¬ Accepted info gridData) :
    ∃ error, encodeSemanticsPng zlib info.width info.height gridData = .error error ∧
      error.isReported = true := by
  unfold encodeSemanticsPng
  simp only [bind, Except.bind, throw, throwThe, MonadExceptOf.throw]
  rw [if_neg (by omega)]
  by_cases hLength : (gridData.length : ℤ) = info.width * info.height
  · rw [if_neg (not_not.mpr hLength)]
    unfold rejectUnsupportedValues
    dsimp only
    rcases rejectUnsupportedValues_cases gridData with ⟨hClasses, -⟩ | ⟨-, error, hError⟩
    · exact absurd ⟨hLength, hClasses⟩ h
    · unfold rejectUnsupportedValues at hError
      dsimp only at hError
      split at hError
      · cases hError
      · rename_i hInvalid
        rw [if_neg hInvalid]
        exact ⟨_, rfl, rfl⟩
  · rw [if_pos hLength]
    exact ⟨_, rfl, rfl⟩

theorem encode_fits (hSize : 0 < info.width ∧ 0 < info.height) (h : Accepted info gridData)
    (hFits : Fits zlib info gridData) :
    ∃ blob, encodeSemanticsPng zlib info.width info.height gridData = .ok blob ∧
      blob.head? = some 0x89 := by
  obtain ⟨columns, hColumns⟩ := Int.eq_ofNat_of_zero_le hSize.1.le
  obtain ⟨lines, hLines⟩ := Int.eq_ofNat_of_zero_le hSize.2.le
  obtain ⟨hLength, hClasses⟩ := h
  obtain ⟨hWidth, hHeight, hScanlines⟩ := hFits
  simp only [hColumns, hLines, Int.toNat_natCast] at hSize hLength hWidth hHeight hScanlines ⊢
  have hCells : gridData.length = columns * lines := by exact_mod_cast hLength
  rw [encodeSemanticsPng_cases zlib (by omega) (by omega) (by omega) (by omega) hCells hClasses,
    if_pos hScanlines]
  exact ⟨_, rfl, rfl⟩

/-- A header cannot hold these dimensions. -/
theorem encode_large {columns lines : ℕ} (hSize : 0 < columns ∧ 0 < lines)
    (hLength : gridData.length = columns * lines) (hClasses : Classes gridData)
    (hLarge : ¬ (columns < 2 ^ 32 ∧ lines < 2 ^ 32)) :
    encodeSemanticsPng zlib columns lines gridData = .error (.png .structError) := by
  have hPositive : ¬ ((columns : ℤ) ≤ 0 ∨ (lines : ℤ) ≤ 0) := by omega
  have hCells : ∀ data : Bytes, data.length = columns * lines →
      ¬ (data.length : ℤ) ≠ columns * lines := fun data hData => by
    rw [hData]
    push_cast
    exact not_not.mpr rfl
  have hOk : rejectUnsupportedValues gridData = .ok () := by
    rcases rejectUnsupportedValues_cases gridData with ⟨-, hOk⟩ | ⟨hNot, -⟩
    · exact hOk
    · exact absurd hClasses hNot
  unfold encodeSemanticsPng encodeGrayscalePng
  rw [if_neg hPositive, if_neg (hCells _ hLength), hOk, if_neg hPositive, Int.toNat_natCast,
    Int.toNat_natCast, if_neg (hCells _ (length_flip hLength))]
  by_cases hWidth : columns < 2 ^ 32
  · rw [structPack_ok hWidth, structPack_error (not_lt.mp fun hHeight => hLarge ⟨hWidth, hHeight⟩)]
    rfl
  · rw [structPack_error (not_lt.mp hWidth)]
    rfl

theorem encode_unfit (zlib : Zlib) (hSize : 0 < info.width ∧ 0 < info.height)
    (h : Accepted info gridData)
    (hFits : ¬ Fits zlib info gridData) :
    encodeSemanticsPng zlib info.width info.height gridData = .error (.png .structError) := by
  obtain ⟨columns, hColumns⟩ := Int.eq_ofNat_of_zero_le hSize.1.le
  obtain ⟨lines, hLines⟩ := Int.eq_ofNat_of_zero_le hSize.2.le
  obtain ⟨hLength, hClasses⟩ := h
  unfold Fits at hFits
  simp only [hColumns, hLines, Int.toNat_natCast] at hSize hLength hFits ⊢
  have hCells : gridData.length = columns * lines := by exact_mod_cast hLength
  by_cases hSmall : columns < 2 ^ 32 ∧ lines < 2 ^ 32
  · rw [encodeSemanticsPng_cases zlib (by omega) (by omega) hSmall.1 hSmall.2 hCells hClasses,
      if_neg (fun hScanlines => hFits ⟨by omega, by omega, hScanlines⟩)]
  · exact encode_large (by omega) hCells hClasses hSmall

end Encoding

/-- A reader finds the class buffer that has been encoded. -/
theorem readSemantics_blob {info : BundleInfo} {gridData blob : Bytes}
    (hName : safeBasename mapId = .ok mapId)
    (h : encodeSemanticsPng zlib info.width info.height gridData = .ok blob)
    (hFile : next.file (mapDir ++ [mapId] ++ [semanticsName]) = some blob) :
    readSemantics zlib next mapDir mapId info.width info.height = .ok (some gridData) := by
  have hNotEmpty : blob.isEmpty = false := by
    rw [List.isEmpty_eq_false_iff]
    rintro rfl
    exact encodeSemanticsPng_ne_nil zlib h
  unfold readSemantics mapDirectory
  rw [hName]
  simp only [Except.map, bind, Except.bind, pure, Except.pure, throw, throwThe,
    MonadExceptOf.throw]
  rw [hFile]
  dsimp only
  rw [hNotEmpty, decodeSemanticsPng_encodeSemanticsPng zlib h]
  rfl

theorem readSemantics_congr (zlib : Zlib) (width height : ℤ)
    (h : next.file (mapDir ++ [mapId] ++ [semanticsName]) =
      fs.file (mapDir ++ [mapId] ++ [semanticsName])) :
    readSemantics zlib next mapDir mapId width height =
      readSemantics zlib fs mapDir mapId width height := by
  unfold readSemantics mapDirectory
  cases hName : safeBasename mapId with
  | error error => rfl
  | ok name =>
    cases safeBasename_eq hName
    simp only [Except.map, bind, Except.bind]
    rw [h]

/-! ## How far a write gets -/

namespace WriteFaults

/-- The bundle is validated. -/
structure Validates (faults : WriteFaults) : Prop where
  validate : faults.validate = .fine
  manifest : faults.validateManifest ≠ .crashes

/-- The raster is replaced, if there is one. -/
structure Replaces (faults : WriteFaults) (fs : FileSystem) (base : FilePath) : Prop where
  validates : faults.Validates
  semantics : faults.semantics.Completes base semanticsName fs

/-- The operations before the new manifest is made. -/
structure Gathers (faults : WriteFaults) : Prop where
  stat : faults.statManifest = .fine
  read : faults.readManifest ≠ .crashes
  build : faults.build = .fine

end WriteFaults

section Outcomes

variable {faults : WriteFaults} {now : PyFloat} {info : BundleInfo} {gridData : Bytes}

theorem caught_cases (fault : Fault) (s : Recorded FileSystem) :
    (fault ≠ .crashes ∧ operation MapError.osError (caught fault) s = (.ok (), s)) ∨
      (fault = .crashes ∧
        operation MapError.osError (caught fault) s = (.error .crashed, s)) := by
  cases fault with
  | fine => exact .inl ⟨nofun, rfl⟩
  | fails => exact .inl ⟨nofun, rfl⟩
  | crashes => exact .inr ⟨rfl, rfl⟩

theorem validateManifest_size {files : PyFloat × ℤ × ℤ}
    (h : validateManifest lib fs base mapId files = .ok info) :
    info.width = files.2.1 ∧ info.height = files.2.2 := by
  unfold validateManifest at h
  dsimp only at h
  split at h
  · cases h
    exact ⟨rfl, rfl⟩
  · split at h
    · obtain ⟨_, -, h⟩ := ok_of_bind h
      cases h
      exact ⟨rfl, rfl⟩
    · cases h
      exact ⟨rfl, rfl⟩

theorem readManifest_unread (lib : BundleLibrary) (fs : FileSystem) (base : FilePath) :
    readManifest { lib with json := fun _ => none } fs base = none := by
  unfold readManifest
  cases fs.file (base ++ [manifestName]) with
  | none => rfl
  | some data => rfl

/-- The dimensions do not depend on the manifest. -/
theorem validateBundle_reading (fault : Fault)
    (hInfo : validateBundle lib fs mapDir mapId = .ok info) :
    ∃ read, validateBundle (lib.reading fault) fs mapDir mapId = .ok read ∧
      read.width = info.width ∧ read.height = info.height := by
  unfold BundleLibrary.reading
  split
  · rw [validateBundle_eq] at hInfo ⊢
    obtain ⟨files, hFiles, hManifest⟩ := ok_of_bind hInfo
    have hSame : validateFiles { lib with json := fun _ => none } fs mapDir mapId = .ok files :=
      hFiles
    have hSize := validateManifest_size hManifest
    refine ⟨⟨mapId, "", "", files.1, files.2.1, files.2.2⟩, ?_, hSize.1.symm, hSize.2.symm⟩
    rw [hSame]
    change validateManifest _ fs (mapDir ++ [mapId]) mapId files = _
    unfold validateManifest
    rw [readManifest_unread]
  · exact ⟨info, hInfo, rfl, rfl⟩

theorem encodeRaster_cases (zlib : Zlib) (faults : WriteFaults) (gridData : Bytes)
    (hInfo : validateBundle lib fs mapDir mapId = .ok info) {s : Recorded FileSystem}
    (hNow : s.now = fs) :
    (¬ faults.Validates ∧ ∃ ending,
      encodeRaster zlib lib faults mapDir mapId gridData s = (.error ending, s) ∧
        Interrupt.Stops .osError ending) ∨
    (faults.Validates ∧ encodeRaster zlib lib faults mapDir mapId gridData s =
      lift (encodeSemanticsPng zlib info.width info.height gridData) s) := by
  unfold encodeRaster
  rcases operation_cases MapError.osError faults.validate s with
    ⟨hValidate, hRun⟩ | ⟨hValidate, ending, hRun, hStops⟩
  · rw [Program.bind_ok hRun]
    rcases caught_cases faults.validateManifest s with ⟨hRead, hRun⟩ | ⟨hRead, hRun⟩
    · obtain ⟨read, hValid, hWidth, hHeight⟩ := validateBundle_reading faults.validateManifest hInfo
      refine .inr ⟨⟨hValidate, hRead⟩, ?_⟩
      rw [Program.bind_ok hRun, Program.bind_ok (show Program.get s = (.ok s, s) from rfl), hNow,
        hValid, Program.bind_ok (show lift (.ok read) s = (.ok read, s) from rfl), hWidth, hHeight]
    · exact .inl ⟨fun h => h.manifest hRead, .crashed, Program.bind_error hRun, .inr rfl⟩
  · exact .inl ⟨fun h => hValidate h.validate, ending, Program.bind_error hRun, hStops⟩

theorem republishManifest_cases (lib : BundleLibrary) (faults : WriteFaults) (now : PyFloat)
    (base : FilePath) (mapId : String) (s : Recorded FileSystem) :
    (¬ faults.Gathers ∧ ∃ ending,
      republishManifest lib faults now base mapId s = (.error ending, s) ∧
        Interrupt.Stops .osError ending) ∨
    (faults.Gathers ∧
      ((∃ error, rewrittenManifest lib now s.now base mapId
          ((readManifest (lib.reading faults.readManifest) s.now base).getD []) = .error error ∧
        republishManifest lib faults now base mapId s = (.error (.raised (.python error)), s)) ∨
      ∃ manifest, rewrittenManifest lib now s.now base mapId
          ((readManifest (lib.reading faults.readManifest) s.now base).getD []) = .ok manifest ∧
        republishManifest lib faults now base mapId s =
          atomicWrite faults.manifest base manifestName (lib.dumps manifest) s)) := by
  unfold republishManifest
  rcases operation_cases MapError.osError faults.statManifest s with
    ⟨hStat, hRun⟩ | ⟨hStat, ending, hRun, hStops⟩
  · rw [Program.bind_ok hRun]
    rcases caught_cases faults.readManifest s with ⟨hRead, hRun⟩ | ⟨hRead, hRun⟩
    · rw [Program.bind_ok hRun, Program.bind_ok (show Program.get s = (.ok s, s) from rfl)]
      rcases operation_cases MapError.osError faults.build s with
        ⟨hBuild, hRun⟩ | ⟨hBuild, ending, hRun, hStops⟩
      · rw [Program.bind_ok hRun]
        refine .inr ⟨⟨hStat, hRead, hBuild⟩, ?_⟩
        cases rewrittenManifest lib now s.now base mapId
            ((readManifest (lib.reading faults.readManifest) s.now base).getD []) with
        | error error => exact .inl ⟨error, rfl, rfl⟩
        | ok manifest => exact .inr ⟨manifest, rfl, rfl⟩
      · exact .inl ⟨fun h => hBuild h.build, ending, Program.bind_error hRun, hStops⟩
    · exact .inl ⟨fun h => h.read hRead, .crashed, Program.bind_error hRun, .inr rfl⟩
  · exact .inl ⟨fun h => hStat h.stat, ending, Program.bind_error hRun, hStops⟩

/-- A write stops before the raster is replaced, or goes on to the manifest. -/
theorem interruptedWrite_cases (hInfo : validateBundle lib fs mapDir mapId = .ok info) :
    (∃ ending t,
      interruptedWrite zlib lib faults now mapDir mapId gridData ⟨fs, []⟩ = (.error ending, t) ∧
        Adds (Around fs (faults.semantics.temporary (mapDir ++ [mapId]) semanticsName))
          ⟨fs, []⟩ t ∧
        (¬ faults.Replaces fs (mapDir ++ [mapId]) ∧ Interrupt.Stops .osError ending ∧
            (faults.Validates →
              ∃ blob, encodeSemanticsPng zlib info.width info.height gridData = .ok blob) ∨
          faults.Validates ∧ ∃ error, ending = .raised error ∧
            encodeSemanticsPng zlib info.width info.height gridData = .error error)) ∨
    (faults.Replaces fs (mapDir ++ [mapId]) ∧ ∃ (blob : Bytes) (t : Recorded FileSystem),
      encodeSemanticsPng zlib info.width info.height gridData = .ok blob ∧
        Adds (Around fs (faults.semantics.temporary (mapDir ++ [mapId]) semanticsName))
          ⟨fs, []⟩ t ∧
        interruptedWrite zlib lib faults now mapDir mapId gridData ⟨fs, []⟩ =
          republishManifest lib faults now (mapDir ++ [mapId]) mapId
            ⟨fs.write (mapDir ++ [mapId] ++ [semanticsName]) blob, t.seen⟩) := by
  have hBase : mapDirectory mapDir mapId = .ok (mapDir ++ [mapId]) := by
    unfold mapDirectory
    rw [(validateBundle_ok hInfo).1]
    rfl
  unfold interruptedWrite
  rcases encodeRaster_cases zlib faults gridData hInfo (s := ⟨fs, []⟩) rfl with
    ⟨hNot, ending, hRun, hStops⟩ | ⟨hValidates, hRun⟩
  · exact .inl ⟨ending, _, Program.bind_error hRun, adds_refl _ _,
      .inl ⟨fun h => hNot h.validates, hStops, fun h => absurd h hNot⟩⟩
  · cases hBlob : encodeSemanticsPng zlib info.width info.height gridData with
    | error error =>
      rw [hBlob] at hRun
      exact .inl ⟨.raised error, _, Program.bind_error hRun, adds_refl _ _,
        .inr ⟨hValidates, error, rfl, rfl⟩⟩
    | ok blob =>
      rw [hBlob] at hRun
      rw [Program.bind_ok (show encodeRaster zlib lib faults mapDir mapId gridData ⟨fs, []⟩ =
          (.ok blob, ⟨fs, []⟩) from hRun), hBase,
        Program.bind_ok (show lift (.ok (mapDir ++ [mapId])) ⟨fs, []⟩ =
          (.ok (mapDir ++ [mapId]), ⟨fs, []⟩) from rfl)]
      rcases atomicWrite_cases faults.semantics (mapDir ++ [mapId]) semanticsName blob ⟨fs, []⟩
          (ne_temporary (by decide)) with
        ⟨hNot, ending, t, hRun, hStops, hAdds⟩ | ⟨hDone, t, hRun, hAdds⟩
      · exact .inl ⟨ending, t, Program.bind_error hRun, hAdds,
          .inl ⟨fun h => hNot h.semantics, hStops, fun _ => ⟨blob, rfl⟩⟩⟩
      · exact .inr ⟨⟨hValidates, hDone⟩, blob, t, rfl, hAdds, Program.bind_ok hRun⟩

end Outcomes

end PreRunner.Maps
