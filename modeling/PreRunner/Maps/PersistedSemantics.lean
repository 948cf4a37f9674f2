import PreRunner.Maps.SemanticsFaults

/-!
# When a semantic raster is persisted

Whatever interrupts a write of a semantic raster, the bundle should stay valid, its readers should
find the old raster or the new one, and a new manifest only together with the new raster. The main
result is an equivalence: it names the manifests, the rasters and the one failing operation for
which this is not so.

The promise is a property of every state that the run passes through (`Persisted`), not of its end
alone. Each field of the condition is necessary: the section before the last one reads it off a run
that keeps the promise. The last section has a map of one cell, whose manifest carries an infinite
time of creation.
-/

namespace PreRunner.Maps

open Runs Interruptible

variable {zlib : Zlib} {lib : BundleLibrary} {fs next : FileSystem} {mapDir : FilePath}
  {mapId : String} {faults : WriteFaults} {now : PyFloat} {info : BundleInfo} {gridData : Bytes}

/-! ## What is promised -/

/-- The reader of the raster finds the new class buffer. -/
def ReadsNew (zlib : Zlib) (mapDir : FilePath) (mapId : String) (info : BundleInfo)
    (gridData : Bytes) (next : FileSystem) : Prop :=
  readSemantics zlib next mapDir mapId info.width info.height = .ok (some gridData)

/-- What holds of the files at any time: the bundle is valid with the same core files, and the
reader of the raster finds what it found before, or the new class buffer. -/
structure Usable (zlib : Zlib) (lib : BundleLibrary) (fs : FileSystem) (mapDir : FilePath)
    (mapId : String) (info : BundleInfo) (gridData : Bytes) (next : FileSystem) : Prop where
  valid : ∃ info, validateBundle lib next mapDir mapId = .ok info
  core : ∀ name ∈ coreFilenames,
    next.file (mapDir ++ [mapId] ++ [name]) = fs.file (mapDir ++ [mapId] ++ [name])
  reads : readSemantics zlib next mapDir mapId info.width info.height =
      readSemantics zlib fs mapDir mapId info.width info.height ∨
    ReadsNew zlib mapDir mapId info gridData next

/-- The manifest is another one than before. -/
def NewManifest (fs : FileSystem) (mapDir : FilePath) (mapId : String) (next : FileSystem) : Prop :=
  next.file (mapDir ++ [mapId] ++ [manifestName]) ≠ fs.file (mapDir ++ [mapId] ++ [manifestName])

/-- Who sees a new manifest sees the new raster from then on; latest files first. -/
def RasterFirst (zlib : Zlib) (fs : FileSystem) (mapDir : FilePath) (mapId : String)
    (info : BundleInfo) (gridData : Bytes) (seen : List FileSystem) : Prop :=
  ∀ newer older files, seen = newer ++ files :: older → NewManifest fs mapDir mapId files →
    ∀ later ∈ files :: newer, ReadsNew zlib mapDir mapId info gridData later

/-- The manifest records the hashes of the files and the session of the map. -/
structure Records (lib : BundleLibrary) (mapDir : FilePath) (mapId sessionId : String)
    (next : FileSystem) (manifest : PyDict) : Prop where
  reads : readManifest lib next (mapDir ++ [mapId]) = some manifest
  session : manifestText lib manifest "session_id" = sessionId
  artifacts : ∃ recorded : PyDict, PyDict.get? manifest "artifacts" = some (.dict recorded) ∧
    ∀ artifact ∈ recorded, ∃ data,
      next.file (mapDir ++ [mapId] ++ [artifact.1]) = some data ∧
        artifact.2 = .str (lib.sha256 data)

/-- The promise for one run of `write_semantics`. -/
structure Persisted (zlib : Zlib) (lib : BundleLibrary) (fs : FileSystem) (mapDir : FilePath)
    (mapId : String) (info : BundleInfo) (gridData : Bytes)
    (run : Except (Interrupt MapError) Unit × Recorded FileSystem) : Prop where
  reported : ∀ error, run.1 = .error (.raised error) → error.isReported = true
  usable : ∀ next ∈ run.2.seen, Usable zlib lib fs mapDir mapId info gridData next
  rasterFirst : RasterFirst zlib fs mapDir mapId info gridData run.2.seen
  records : run.1 = .ok () →
    ∃ manifest, Records lib mapDir mapId info.sessionId run.2.now manifest

/-! ## When it is kept -/

/-- What `write_semantics` takes from the previous manifest. -/
def previousManifest (lib : BundleLibrary) (faults : WriteFaults) (fs : FileSystem)
    (base : FilePath) : PyDict :=
  (readManifest (lib.reading faults.readManifest) fs base).getD []

/-- JSON keeps the manifests that this write can make, and spells each with a brace first. -/
structure KeepsManifest (lib : BundleLibrary) (now : PyFloat) (fs : FileSystem) (base : FilePath)
    (mapId : String) (previous : PyDict) : Prop where
  json : ∀ manifest, rewrittenManifest lib now fs base mapId previous = .ok manifest →
    lib.json (lib.dumps manifest) = some manifest.sorted
  brace : ∀ manifest, rewrittenManifest lib now fs base mapId previous = .ok manifest →
    (lib.dumps manifest).head? = some 0x7b

/-- What the libraries do in this write. -/
structure WriteLaws (zlib : Zlib) (lib : BundleLibrary) (faults : WriteFaults) (now : PyFloat)
    (fs : FileSystem) (mapDir : FilePath) (mapId : String) (info : BundleInfo)
    (gridData : Bytes) : Prop where
  str : ∀ text, lib.str (.str text) = text
  manifest : ∀ blob, encodeSemanticsPng zlib info.width info.height gridData = .ok blob →
    KeepsManifest lib now (fs.write (mapDir ++ [mapId] ++ [semanticsName]) blob)
      (mapDir ++ [mapId]) mapId (previousManifest lib faults fs (mapDir ++ [mapId]))

/-- The new raster takes its place. -/
structure Rewrites (zlib : Zlib) (faults : WriteFaults) (fs : FileSystem) (base : FilePath)
    (info : BundleInfo) (gridData : Bytes) : Prop where
  replaces : faults.Replaces fs base
  accepted : Accepted info gridData
  fits : Fits zlib info gridData

/-- The bundles and interruptions for which the promise is kept. -/
structure WriteCondition (zlib : Zlib) (lib : BundleLibrary) (faults : WriteFaults) (now : PyFloat)
    (fs : FileSystem) (base : FilePath) (info : BundleInfo) (gridData : Bytes) : Prop where
  /-- A class buffer of the right length fits into a PNG. -/
  fits : faults.Validates → Accepted info gridData → Fits zlib info gridData
  /-- The raster of the map is another file than the semantic raster. -/
  raster : Rewrites zlib faults fs base info gridData →
    rasterPath lib fs base ≠ some (base ++ [semanticsName])
  /-- The recorded time of creation is one that `gmtime` converts. -/
  created : Rewrites zlib faults fs base info gridData → faults.Gathers →
    ∃ iso, lib.createdIso
      (createdOr now (PyDict.get? (previousManifest lib faults fs base) "created")) = .ok iso
  /-- The manifest is read a second time, unless it records no session. -/
  session : Rewrites zlib faults fs base info gridData → faults.Gathers →
    faults.manifest.Completes base manifestName fs → faults.readManifest = .fails →
    info.sessionId = ""
  /-- The raster of the map is another file than the manifest. -/
  manifest : Rewrites zlib faults fs base info gridData → faults.Gathers →
    faults.manifest.Completes base manifestName fs →
    rasterPath lib fs base ≠ some (base ++ [manifestName])

/-! ## The files on the way -/

/-- The raster of a valid bundle is there. -/
theorem raster_nonempty (hInfo : validateBundle lib fs mapDir mapId = .ok info) {path : FilePath}
    (hPath : rasterPath lib fs (mapDir ++ [mapId]) = some path) : fs.isNonempty path = true := by
  rw [validateBundle_eq] at hInfo
  obtain ⟨files, hFiles, -⟩ := ok_of_bind hInfo
  obtain ⟨-, -, -, raster, hRaster, hThere, -⟩ := validateFiles_ok hFiles
  rw [hRaster] at hPath
  cases hPath
  exact hThere

/-- It begins with the magic of a PGM. -/
theorem raster_head (hInfo : validateBundle lib fs mapDir mapId = .ok info) {path : FilePath}
    (hPath : rasterPath lib fs (mapDir ++ [mapId]) = some path) :
    ((fs.file path).getD []).head? = some 0x50 := by
  rw [validateBundle_eq] at hInfo
  obtain ⟨files, hFiles, -⟩ := ok_of_bind hInfo
  obtain ⟨-, -, -, raster, hRaster, -, header, hHeader⟩ := validateFiles_ok hFiles
  rw [hRaster] at hPath
  cases hPath
  exact head?_of_readPgmHeader hHeader

theorem info_size (hInfo : validateBundle lib fs mapDir mapId = .ok info) :
    0 < info.width ∧ 0 < info.height := by
  rw [validateBundle_eq] at hInfo
  obtain ⟨files, hFiles, hManifest⟩ := ok_of_bind hInfo
  obtain ⟨-, hWidth, hHeight, -⟩ := validateFiles_ok hFiles
  obtain ⟨hW, hH⟩ := validateManifest_size hManifest
  exact ⟨hW ▸ hWidth, hH ▸ hHeight⟩

/-- The session of a bundle is that of its manifest. -/
theorem info_session (hStr : ∀ text, lib.str (.str text) = text)
    (hInfo : validateBundle lib fs mapDir mapId = .ok info) :
    manifestText lib ((readManifest lib fs (mapDir ++ [mapId])).getD []) "session_id" =
      info.sessionId := by
  rw [validateBundle_eq] at hInfo
  obtain ⟨files, -, hManifest⟩ := ok_of_bind hInfo
  unfold validateManifest at hManifest
  dsimp only at hManifest
  split at hManifest
  · rename_i hNone
    cases hManifest
    rw [hNone]
    exact hStr ""
  · rename_i manifest hSome
    rw [hSome]
    split at hManifest
    · obtain ⟨_, -, hManifest⟩ := ok_of_bind hManifest
      cases hManifest
      rfl
    · cases hManifest
      rfl

theorem usable_of_same (hInfo : validateBundle lib fs mapDir mapId = .ok info)
    (h : SameFiles lib fs next (mapDir ++ [mapId]))
    (hManifest : ¬ NewManifest fs mapDir mapId next)
    (hReads : readSemantics zlib next mapDir mapId info.width info.height =
        readSemantics zlib fs mapDir mapId info.width info.height ∨
      ReadsNew zlib mapDir mapId info gridData next) :
    Usable zlib lib fs mapDir mapId info gridData next :=
  ⟨⟨info, (validateBundle_same h (not_not.mp hManifest)).trans hInfo⟩, h.core, hReads⟩

/-- Before the raster is replaced. -/
theorem usable_before {random : AtomicFaults}
    (hInfo : validateBundle lib fs mapDir mapId = .ok info)
    (h : Around fs (random.temporary (mapDir ++ [mapId]) semanticsName) next) :
    Usable zlib lib fs mapDir mapId info gridData next ∧ ¬ NewManifest fs mapDir mapId next := by
  have hManifest : ¬ NewManifest fs mapDir mapId next :=
    not_not.mpr (h.file (ne_temporary (by decide)))
  have hReads := readSemantics_congr zlib info.width info.height
    (h.file (@ne_temporary (mapDir ++ [mapId]) random semanticsName _ (by decide)))
  exact ⟨usable_of_same hInfo (h.sameFiles fun _ => raster_nonempty hInfo) hManifest (.inl hReads),
    hManifest⟩

theorem sameFiles_semantics (data : Bytes)
    (hRaster : rasterPath lib fs (mapDir ++ [mapId]) ≠
      some (mapDir ++ [mapId] ++ [semanticsName])) :
    SameFiles lib fs (fs.write (mapDir ++ [mapId] ++ [semanticsName]) data) (mapDir ++ [mapId]) :=
  sameFiles_write (by decide) data hRaster

theorem semantics_ne_manifest (base : FilePath) :
    base ++ [semanticsName] ≠ base ++ [manifestName] := fun hEq =>
  absurd (List.append_cancel_left hEq) (by decide)

/-- Between the two replacements. -/
theorem usable_between {random : AtomicFaults} {blob : Bytes}
    (hInfo : validateBundle lib fs mapDir mapId = .ok info)
    (hBlob : encodeSemanticsPng zlib info.width info.height gridData = .ok blob)
    (hRaster : rasterPath lib fs (mapDir ++ [mapId]) ≠
      some (mapDir ++ [mapId] ++ [semanticsName]))
    (h : Around (fs.write (mapDir ++ [mapId] ++ [semanticsName]) blob)
      (random.temporary (mapDir ++ [mapId]) manifestName) next) :
    Usable zlib lib fs mapDir mapId info gridData next ∧ ¬ NewManifest fs mapDir mapId next ∧
      ReadsNew zlib mapDir mapId info gridData next := by
  have hWritten := @sameFiles_semantics lib fs mapDir mapId blob hRaster
  have hThere : ∀ path,
      rasterPath lib (fs.write (mapDir ++ [mapId] ++ [semanticsName]) blob) (mapDir ++ [mapId]) =
        some path →
      (fs.write (mapDir ++ [mapId] ++ [semanticsName]) blob).isNonempty path = true := by
    intro path hPath
    rw [rasterPath_congr lib (hWritten.core mapYamlName (by decide))] at hPath
    unfold FileSystem.isNonempty
    rw [hWritten.raster path hPath]
    exact raster_nonempty hInfo hPath
  have hManifest : ¬ NewManifest fs mapDir mapId next :=
    not_not.mpr ((h.file (ne_temporary (by decide))).trans
      (FileSystem.file_write_of_ne _ (semantics_ne_manifest _).symm _))
  have hFile : next.file (mapDir ++ [mapId] ++ [semanticsName]) = some blob :=
    (h.file (ne_temporary (by decide))).trans (FileSystem.file_write_self ..)
  have hReads : ReadsNew zlib mapDir mapId info gridData next :=
    readSemantics_blob (validateBundle_ok hInfo).1 hBlob hFile
  exact ⟨usable_of_same hInfo (hWritten.trans (h.sameFiles hThere)) hManifest (.inr hReads),
    hManifest, hReads⟩

theorem previousManifest_write (data : Bytes) (base : FilePath) :
    (readManifest (lib.reading faults.readManifest) (fs.write (base ++ [semanticsName]) data)
      base).getD [] = previousManifest lib faults fs base :=
  congrArg (Option.getD · []) (readManifest_congr
    (FileSystem.file_write_of_ne _ (semantics_ne_manifest _).symm _))

/-- After both replacements. -/
theorem usable_after {blob : Bytes} {manifest : PyValue}
    (hInfo : validateBundle lib fs mapDir mapId = .ok info)
    (hLaws : WriteLaws zlib lib faults now fs mapDir mapId info gridData)
    (hBlob : encodeSemanticsPng zlib info.width info.height gridData = .ok blob)
    (hBuilt : rewrittenManifest lib now (fs.write (mapDir ++ [mapId] ++ [semanticsName]) blob)
      (mapDir ++ [mapId]) mapId (previousManifest lib faults fs (mapDir ++ [mapId])) = .ok manifest)
    (hRaster : rasterPath lib fs (mapDir ++ [mapId]) ≠
      some (mapDir ++ [mapId] ++ [semanticsName]))
    (hOther : rasterPath lib fs (mapDir ++ [mapId]) ≠
      some (mapDir ++ [mapId] ++ [manifestName]))
    (hNext : next = (fs.write (mapDir ++ [mapId] ++ [semanticsName]) blob).write
      (mapDir ++ [mapId] ++ [manifestName]) (lib.dumps manifest)) :
    Usable zlib lib fs mapDir mapId info gridData next ∧
      ReadsNew zlib mapDir mapId info gridData next ∧
      ∃ document, Records lib mapDir mapId (manifestText lib
        (previousManifest lib faults fs (mapDir ++ [mapId])) "session_id") next document := by
  subst hNext
  obtain ⟨document, hSorted, hRepublished⟩ := republished hBuilt
  have hRead : readManifest lib ((fs.write (mapDir ++ [mapId] ++ [semanticsName]) blob).write
      (mapDir ++ [mapId] ++ [manifestName]) (lib.dumps manifest)) (mapDir ++ [mapId]) =
        some document := by
    unfold readManifest
    rw [FileSystem.file_write_self, Option.bind_some, (hLaws.manifest blob hBlob).json _ hBuilt,
      hSorted]
  have hFirst := @sameFiles_semantics lib fs mapDir mapId blob hRaster
  have hSecond : SameFiles lib (fs.write (mapDir ++ [mapId] ++ [semanticsName]) blob)
      ((fs.write (mapDir ++ [mapId] ++ [semanticsName]) blob).write
        (mapDir ++ [mapId] ++ [manifestName]) (lib.dumps manifest)) (mapDir ++ [mapId]) :=
    sameFiles_write (by decide) _
      (rasterPath_congr lib (hFirst.core mapYamlName (by decide)) ▸ hOther)
  have hReads : ReadsNew zlib mapDir mapId info gridData
      ((fs.write (mapDir ++ [mapId] ++ [semanticsName]) blob).write
        (mapDir ++ [mapId] ++ [manifestName]) (lib.dumps manifest)) :=
    readSemantics_blob (validateBundle_ok hInfo).1 hBlob
      ((FileSystem.file_write_of_ne _ (semantics_ne_manifest _) _).trans
        (FileSystem.file_write_self ..))
  have hSame := hFirst.trans hSecond
  have hValid := hInfo
  rw [validateBundle_eq] at hValid
  obtain ⟨files, hFiles, -⟩ := ok_of_bind hValid
  obtain ⟨valid, hManifest, -⟩ :=
    validateManifest_republished mapId files hRead hRepublished hSecond
  refine ⟨⟨⟨valid, ?_⟩, hSame.core, .inr hReads⟩, hReads, document, hRead, ?_, ?_⟩
  · rw [validateBundle_eq, validateFiles_congr hSame, hFiles]
    exact hManifest
  · have hSession : manifestText lib document "session_id" = lib.str (.str (manifestText lib
        (previousManifest lib faults fs (mapDir ++ [mapId])) "session_id")) := by
      conv_lhs => unfold manifestText
      rw [hRepublished.session]
      rfl
    rw [hSession, hLaws.str]
  · obtain ⟨recorded, hRecorded, hMem⟩ := hRepublished.artifacts
    refine ⟨recorded, hRecorded, fun artifact hArtifact => ?_⟩
    obtain ⟨data, hName, hData, hDigest⟩ := (hMem artifact).mp hArtifact
    have hNames : manifestName ∉ canonicalFilenames := by decide
    refine ⟨data, (FileSystem.file_write_of_ne _ (fun hEq => hNames ?_) _).trans hData, hDigest⟩
    exact List.singleton_inj.mp (List.append_cancel_left hEq) ▸ hName

/-! ## The runs -/

theorem rewrittenManifest_ok_iff {previous : PyDict} {base : FilePath} :
    (∃ manifest, rewrittenManifest lib now fs base mapId previous = .ok manifest) ↔
      ∃ iso, lib.createdIso (createdOr now (PyDict.get? previous "created")) = .ok iso := by
  unfold rewrittenManifest buildManifest
  constructor
  · rintro ⟨manifest, h⟩
    obtain ⟨iso, hIso, -⟩ := ok_of_bind h
    exact ⟨iso, hIso⟩
  · rintro ⟨iso, hIso⟩
    rw [hIso]
    exact ⟨_, rfl⟩

theorem completes_write (random : AtomicFaults) (base : FilePath) (data : Bytes) :
    random.Completes base manifestName (fs.write (base ++ [semanticsName]) data) ↔
      random.Completes base manifestName fs := by
  have hFree : (fs.write (base ++ [semanticsName]) data).isFree
      (random.temporary base manifestName) = fs.isFree (random.temporary base manifestName) := by
    unfold FileSystem.isFree FileSystem.isFile
    rw [FileSystem.file_write_of_ne _ (ne_temporary (by decide)).symm]
    rfl
  constructor
  · rintro ⟨⟨hCreate, hTemporary, hWrite⟩, hReplace, hTarget⟩
    exact ⟨⟨hCreate, hFree ▸ hTemporary, hWrite⟩, hReplace, hTarget⟩
  · rintro ⟨⟨hCreate, hTemporary, hWrite⟩, hReplace, hTarget⟩
    exact ⟨⟨hCreate, hFree ▸ hTemporary, hWrite⟩, hReplace, hTarget⟩

theorem reported_of_stops {ending : Interrupt MapError} (h : Interrupt.Stops .osError ending) :
    ∀ error, ending = .raised error → error.isReported = true := by
  rintro error rfl
  rcases h with h | h
  · cases h
    rfl
  · cases h

/-- A run that ends before the manifest is replaced. -/
theorem persisted_early {ending : Interrupt MapError} {t : Recorded FileSystem}
    (hReported : ∀ error, ending = .raised error → error.isReported = true)
    (hSeen : ∀ next ∈ t.seen, Usable zlib lib fs mapDir mapId info gridData next ∧
      ¬ NewManifest fs mapDir mapId next) :
    Persisted zlib lib fs mapDir mapId info gridData (.error ending, t) where
  reported error hError := hReported error (Except.error.inj hError)
  usable next hMem := (hSeen next hMem).1
  rasterFirst newer older files hList hNew := by
    have hMem : files ∈ t.seen := by
      rw [hList]
      exact List.mem_append_right _ (List.mem_cons_self ..)
    exact absurd hNew (hSeen files hMem).2
  records hOk := nomatch hOk

/-- A run that replaces both files. -/
theorem persisted_late {last : FileSystem} {past : List FileSystem} {manifest : PyDict}
    (hSeen : ∀ next ∈ past, Usable zlib lib fs mapDir mapId info gridData next ∧
      ¬ NewManifest fs mapDir mapId next)
    (hLast : Usable zlib lib fs mapDir mapId info gridData last)
    (hReads : ReadsNew zlib mapDir mapId info gridData last)
    (hRecords : Records lib mapDir mapId info.sessionId last manifest) :
    Persisted zlib lib fs mapDir mapId info gridData (.ok (), ⟨last, past⟩) where
  reported _ hError := nomatch hError
  usable next hMem := by
    rcases List.mem_cons.mp hMem with rfl | hPast
    · exact hLast
    · exact (hSeen next hPast).1
  rasterFirst newer older files hList hNew := by
    cases newer with
    | nil =>
      cases hList
      intro later hLater
      rw [List.mem_singleton.mp hLater]
      exact hReads
    | cons _ newer =>
      obtain ⟨-, rfl⟩ := List.cons.inj hList
      exact absurd hNew
        (hSeen files (List.mem_append_right _ (List.mem_cons_self ..))).2
  records _ := ⟨manifest, hRecords⟩

theorem seen_before (hInfo : validateBundle lib fs mapDir mapId = .ok info)
    {t : Recorded FileSystem}
    (hAdds : Adds (Around fs (faults.semantics.temporary (mapDir ++ [mapId]) semanticsName))
      ⟨fs, []⟩ t) :
    ∀ next ∈ t.seen, Usable zlib lib fs mapDir mapId info gridData next ∧
      ¬ NewManifest fs mapDir mapId next := by
  intro next hMem
  refine usable_before hInfo (hAdds.all (fun first hFirst => ?_) next hMem)
  rw [List.mem_singleton.mp hFirst]
  exact .inl rfl

theorem seen_between {blob : Bytes} (hInfo : validateBundle lib fs mapDir mapId = .ok info)
    (hBlob : encodeSemanticsPng zlib info.width info.height gridData = .ok blob)
    (hRaster : rasterPath lib fs (mapDir ++ [mapId]) ≠
      some (mapDir ++ [mapId] ++ [semanticsName]))
    {t u : Recorded FileSystem}
    (hAdds : Adds (Around fs (faults.semantics.temporary (mapDir ++ [mapId]) semanticsName))
      ⟨fs, []⟩ t)
    (hMore : Adds (Around (fs.write (mapDir ++ [mapId] ++ [semanticsName]) blob)
        (faults.manifest.temporary (mapDir ++ [mapId]) manifestName))
      ⟨fs.write (mapDir ++ [mapId] ++ [semanticsName]) blob, t.seen⟩ u) :
    ∀ next ∈ u.seen, Usable zlib lib fs mapDir mapId info gridData next ∧
      ¬ NewManifest fs mapDir mapId next := by
  have hFrom : ∀ next, Around (fs.write (mapDir ++ [mapId] ++ [semanticsName]) blob)
      (faults.manifest.temporary (mapDir ++ [mapId]) manifestName) next →
      Usable zlib lib fs mapDir mapId info gridData next ∧ ¬ NewManifest fs mapDir mapId next := by
    intro next hAround
    obtain ⟨hUsable, hManifest, -⟩ := usable_between hInfo hBlob hRaster hAround
    exact ⟨hUsable, hManifest⟩
  obtain ⟨newer, hSeen, hNewer⟩ := hMore
  intro next hMem
  rw [hSeen] at hMem
  rcases List.mem_append.mp hMem with hNew | hOld
  · exact hFrom next (hNewer next hNew)
  · rcases List.mem_cons.mp hOld with rfl | hPast
    · exact hFrom _ (.inl rfl)
    · exact seen_before hInfo hAdds next hPast

theorem manifestText_nil (hStr : ∀ text, lib.str (.str text) = text) (key : String) :
    manifestText lib [] key = "" := hStr ""

/-- The session that the new manifest records. -/
theorem previous_session (hStr : ∀ text, lib.str (.str text) = text)
    (hInfo : validateBundle lib fs mapDir mapId = .ok info) :
    manifestText lib (previousManifest lib faults fs (mapDir ++ [mapId])) "session_id" =
      if faults.readManifest = .fails then "" else info.sessionId := by
  unfold previousManifest BundleLibrary.reading
  split
  · rw [readManifest_unread]
    exact manifestText_nil hStr _
  · exact info_session hStr hInfo

/-- A write that fails in the encoder reports what it should. -/
theorem reported_of_encode (hSize : 0 < info.width ∧ 0 < info.height)
    (hFits : Accepted info gridData → Fits zlib info gridData) {error : MapError}
    (h : encodeSemanticsPng zlib info.width info.height gridData = .error error) :
    error.isReported = true := by
  by_cases hAccepted : Accepted info gridData
  · obtain ⟨blob, hBlob, -⟩ := encode_fits hSize hAccepted (hFits hAccepted)
    exact nomatch h.symm.trans hBlob
  · obtain ⟨refusal, hRefusal, hReported⟩ := encode_refused zlib hSize hAccepted
    cases h.symm.trans hRefusal
    exact hReported

/-- The promise is kept under the condition. -/
theorem persisted_of_condition (hInfo : validateBundle lib fs mapDir mapId = .ok info)
    (hLaws : WriteLaws zlib lib faults now fs mapDir mapId info gridData)
    (h : WriteCondition zlib lib faults now fs (mapDir ++ [mapId]) info gridData) :
    Persisted zlib lib fs mapDir mapId info gridData
      (interruptedWrite zlib lib faults now mapDir mapId gridData ⟨fs, []⟩) := by
  rcases @interruptedWrite_cases zlib lib fs mapDir mapId faults now info gridData hInfo with
    ⟨ending, t, hRun, hAdds, hWhy⟩ | ⟨hReplaces, blob, t, hBlob, hAdds, hRun⟩
  · rw [hRun]
    refine persisted_early ?_ (seen_before hInfo hAdds)
    rcases hWhy with ⟨-, hStops, -⟩ | ⟨hValidates, error, rfl, hError⟩
    · exact reported_of_stops hStops
    · rintro other hOther
      cases hOther
      exact reported_of_encode (info_size hInfo) (h.fits hValidates) hError
  have hAccepted : Accepted info gridData := encodeSemanticsPng_ok zlib hBlob
  have hRewrites : Rewrites zlib faults fs (mapDir ++ [mapId]) info gridData :=
    ⟨hReplaces, hAccepted, h.fits hReplaces.validates hAccepted⟩
  have hRaster := h.raster hRewrites
  rw [hRun]
  rcases republishManifest_cases lib faults now (mapDir ++ [mapId]) mapId
      ⟨fs.write (mapDir ++ [mapId] ++ [semanticsName]) blob, t.seen⟩ with
    ⟨-, ending, hRun, hStops⟩ | ⟨hGathers, ⟨error, hError, -⟩ | ⟨manifest, hBuilt, hRun⟩⟩
  · rw [hRun]
    exact persisted_early (reported_of_stops hStops)
      (seen_between hInfo hBlob hRaster hAdds (adds_refl _ _))
  · rw [previousManifest_write] at hError
    obtain ⟨manifest, hOk⟩ := rewrittenManifest_ok_iff.mpr (h.created hRewrites hGathers)
    exact nomatch hError.symm.trans hOk
  · rw [hRun]
    rw [previousManifest_write] at hBuilt
    rcases atomicWrite_cases faults.manifest (mapDir ++ [mapId]) manifestName
        (lib.dumps manifest) ⟨fs.write (mapDir ++ [mapId] ++ [semanticsName]) blob, t.seen⟩
        (ne_temporary (by decide)) with
      ⟨-, ending, u, hRun, hStops, hMore⟩ | ⟨hDone, u, hRun, hMore⟩
    · rw [hRun]
      exact persisted_early (reported_of_stops hStops)
        (seen_between hInfo hBlob hRaster hAdds hMore)
    · rw [hRun]
      have hCompletes := (completes_write _ _ blob).mp hDone
      obtain ⟨hUsable, hReads, document, hRecords⟩ := usable_after hInfo hLaws hBlob hBuilt
        hRaster (h.manifest hRewrites hGathers hCompletes) rfl
      have hSession : (if faults.readManifest = .fails then "" else info.sessionId) =
          info.sessionId := by
        split
        · rename_i hFails
          exact (h.session hRewrites hGathers hCompletes hFails).symm
        · rfl
      rw [previous_session hLaws.str hInfo, hSession] at hRecords
      exact persisted_late (seen_between hInfo hBlob hRaster hAdds hMore) hUsable hReads hRecords

/-! ## The condition is needed -/

theorem run_rewrites (now : PyFloat) (hInfo : validateBundle lib fs mapDir mapId = .ok info)
    (h : Rewrites zlib faults fs (mapDir ++ [mapId]) info gridData) :
    ∃ (blob : Bytes) (t : Recorded FileSystem),
      encodeSemanticsPng zlib info.width info.height gridData = .ok blob ∧
        blob.head? = some 0x89 ∧
        interruptedWrite zlib lib faults now mapDir mapId gridData ⟨fs, []⟩ =
          republishManifest lib faults now (mapDir ++ [mapId]) mapId
            ⟨fs.write (mapDir ++ [mapId] ++ [semanticsName]) blob, t.seen⟩ := by
  obtain ⟨image, hImage, hHead⟩ := encode_fits (info_size hInfo) h.accepted h.fits
  rcases @interruptedWrite_cases zlib lib fs mapDir mapId faults now info gridData hInfo with
    ⟨ending, t, hRun, hAdds, ⟨hNot, -⟩ | ⟨-, error, -, hError⟩⟩ | ⟨-, blob, t, hBlob, -, hRun⟩
  · exact absurd h.replaces hNot
  · exact nomatch hError.symm.trans hImage
  · cases hBlob.symm.trans hImage
    exact ⟨image, t, hImage, hHead, hRun⟩

/-- The files with the new raster are seen. -/
theorem republish_seen (lib : BundleLibrary) (faults : WriteFaults) (now : PyFloat)
    (base : FilePath) (mapId : String) (s : Recorded FileSystem) :
    s.now ∈ (republishManifest lib faults now base mapId s).2.seen := by
  rcases republishManifest_cases lib faults now base mapId s with
    ⟨-, ending, hRun, -⟩ | ⟨-, ⟨error, -, hRun⟩ | ⟨manifest, -, hRun⟩⟩
  · rw [hRun]
    exact List.mem_cons_self ..
  · rw [hRun]
    exact List.mem_cons_self ..
  · rw [hRun]
    rcases atomicWrite_cases faults.manifest base manifestName (lib.dumps manifest) s
        (ne_temporary (by decide)) with
      ⟨-, ending, t, hRun, -, newer, hSeen, -⟩ | ⟨-, t, hRun, newer, hSeen, -⟩
    · rw [hRun, hSeen]
      exact List.mem_append_right _ (List.mem_cons_self ..)
    · rw [hRun]
      refine List.mem_cons_of_mem _ ?_
      rw [hSeen]
      exact List.mem_append_right _ (List.mem_cons_self ..)

/-- A run that makes the new manifest and replaces the old one. -/
theorem run_returns (blob : Bytes) (past : List FileSystem) (h : faults.Gathers)
    (hDone : faults.manifest.Completes (mapDir ++ [mapId]) manifestName fs) {iso : String}
    (hIso : lib.createdIso (createdOr now (PyDict.get?
      (previousManifest lib faults fs (mapDir ++ [mapId])) "created")) = .ok iso) :
    ∃ (manifest : PyValue) (u : Recorded FileSystem),
      rewrittenManifest lib now (fs.write (mapDir ++ [mapId] ++ [semanticsName]) blob)
        (mapDir ++ [mapId]) mapId (previousManifest lib faults fs (mapDir ++ [mapId])) =
          .ok manifest ∧
      republishManifest lib faults now (mapDir ++ [mapId]) mapId
          ⟨fs.write (mapDir ++ [mapId] ++ [semanticsName]) blob, past⟩ =
        (.ok (), ⟨(fs.write (mapDir ++ [mapId] ++ [semanticsName]) blob).write
          (mapDir ++ [mapId] ++ [manifestName]) (lib.dumps manifest), u.seen⟩) := by
  rcases republishManifest_cases lib faults now (mapDir ++ [mapId]) mapId
      ⟨fs.write (mapDir ++ [mapId] ++ [semanticsName]) blob, past⟩ with
    ⟨hNot, -⟩ | ⟨-, ⟨error, hError, -⟩ | ⟨manifest, hBuilt, hRun⟩⟩
  · exact absurd h hNot
  · rw [previousManifest_write] at hError
    obtain ⟨manifest, hOk⟩ := rewrittenManifest_ok_iff.mpr ⟨iso, hIso⟩
    exact nomatch hError.symm.trans hOk
  · rw [previousManifest_write] at hBuilt
    rcases atomicWrite_cases faults.manifest (mapDir ++ [mapId]) manifestName
        (lib.dumps manifest) ⟨fs.write (mapDir ++ [mapId] ++ [semanticsName]) blob, past⟩
        (ne_temporary (by decide)) with ⟨hNot, -⟩ | ⟨-, u, hReplaced, -⟩
    · exact absurd ((completes_write _ _ blob).mpr hDone) hNot
    · exact ⟨manifest, u, hBuilt, hRun.trans hReplaced⟩

/-- An undisturbed run leaves what `writeSemantics` does. -/
theorem undisturbed (hInfo : validateBundle lib fs mapDir mapId = .ok info)
    (h : Rewrites zlib faults fs (mapDir ++ [mapId]) info gridData) (hGathers : faults.Gathers)
    (hRead : faults.readManifest = .fine)
    (hDone : faults.manifest.Completes (mapDir ++ [mapId]) manifestName fs) {iso : String}
    (hIso : lib.createdIso (createdOr now (PyDict.get?
      (previousManifest lib faults fs (mapDir ++ [mapId])) "created")) = .ok iso) :
    ∃ past, interruptedWrite zlib lib faults now mapDir mapId gridData ⟨fs, []⟩ =
      (.ok (),
        ⟨(writeSemantics zlib lib ⟨true, true⟩ now fs mapDir mapId gridData).1, past⟩) := by
  obtain ⟨blob, t, hBlob, -, hRun⟩ := run_rewrites now hInfo h
  obtain ⟨manifest, u, hBuilt, hReturned⟩ := run_returns blob t.seen hGathers hDone hIso
  have hBase : mapDirectory mapDir mapId = .ok (mapDir ++ [mapId]) := by
    unfold mapDirectory
    rw [(validateBundle_ok hInfo).1]
    rfl
  refine ⟨u.seen, hRun.trans (hReturned.trans ?_)⟩
  rw [← previousManifest_write blob] at hBuilt
  unfold BundleLibrary.reading rewrittenManifest at hBuilt
  rw [hRead, if_neg (by decide)] at hBuilt
  unfold writeSemantics
  simp only [hInfo, hBlob, hBase, bind, Except.bind, pure, Except.pure, Bool.not_true,
    Bool.false_eq_true, if_false]
  rw [hBuilt]

section Needed

variable (hInfo : validateBundle lib fs mapDir mapId = .ok info)
  (hPersisted : Persisted zlib lib fs mapDir mapId info gridData
    (interruptedWrite zlib lib faults now mapDir mapId gridData ⟨fs, []⟩))
include hInfo hPersisted

theorem fits_of_persisted (hValidates : faults.Validates) (hAccepted : Accepted info gridData) :
    Fits zlib info gridData := by
  by_contra hFits
  have hError := encode_unfit zlib (info_size hInfo) hAccepted hFits
  rcases @interruptedWrite_cases zlib lib fs mapDir mapId faults now info gridData hInfo with
    ⟨ending, t, hRun, -, ⟨-, -, hBlob⟩ | ⟨-, error, rfl, hRaised⟩⟩ | ⟨-, blob, t, hBlob, -, -⟩
  · obtain ⟨blob, hBlob⟩ := hBlob hValidates
    exact nomatch hError.symm.trans hBlob
  · cases hError.symm.trans hRaised
    exact nomatch hPersisted.reported _ (congrArg Prod.fst hRun)
  · exact nomatch hError.symm.trans hBlob

/-- A raster of the map that is replaced is no PGM any more. -/
theorem raster_of_persisted (h : Rewrites zlib faults fs (mapDir ++ [mapId]) info gridData) :
    rasterPath lib fs (mapDir ++ [mapId]) ≠ some (mapDir ++ [mapId] ++ [semanticsName]) := by
  intro hRaster
  obtain ⟨blob, t, -, hHead, hRun⟩ := run_rewrites now hInfo h
  have hSeen := republish_seen lib faults now (mapDir ++ [mapId]) mapId
    ⟨fs.write (mapDir ++ [mapId] ++ [semanticsName]) blob, t.seen⟩
  rw [← hRun] at hSeen
  obtain ⟨valid, hValid⟩ := (hPersisted.usable _ hSeen).valid
  have hYaml : rasterPath lib (fs.write (mapDir ++ [mapId] ++ [semanticsName]) blob)
      (mapDir ++ [mapId]) = some (mapDir ++ [mapId] ++ [semanticsName]) :=
    (rasterPath_congr lib (FileSystem.file_write_of_ne _
      (fun hEq => absurd (List.append_cancel_left hEq) (by decide)) _)).trans hRaster
  have hMagic := raster_head hValid hYaml
  rw [FileSystem.file_write_self, Option.getD_some, hHead] at hMagic
  exact absurd hMagic (by decide)

theorem created_of_persisted (h : Rewrites zlib faults fs (mapDir ++ [mapId]) info gridData)
    (hGathers : faults.Gathers) :
    ∃ iso, lib.createdIso (createdOr now (PyDict.get?
      (previousManifest lib faults fs (mapDir ++ [mapId])) "created")) = .ok iso := by
  obtain ⟨blob, t, -, -, hRun⟩ := run_rewrites now hInfo h
  rcases republishManifest_cases lib faults now (mapDir ++ [mapId]) mapId
      ⟨fs.write (mapDir ++ [mapId] ++ [semanticsName]) blob, t.seen⟩ with
    ⟨hNot, -⟩ | ⟨-, ⟨error, -, hRaised⟩ | ⟨manifest, hBuilt, -⟩⟩
  · exact absurd hGathers hNot
  · exact nomatch hPersisted.reported _ (congrArg Prod.fst (hRun.trans hRaised))
  · rw [previousManifest_write] at hBuilt
    exact rewrittenManifest_ok_iff.mp ⟨manifest, hBuilt⟩

variable (hLaws : WriteLaws zlib lib faults now fs mapDir mapId info gridData)
include hLaws

/-- A raster of the map that the manifest replaces is no PGM any more. -/
theorem manifest_of_persisted (h : Rewrites zlib faults fs (mapDir ++ [mapId]) info gridData)
    (hGathers : faults.Gathers)
    (hDone : faults.manifest.Completes (mapDir ++ [mapId]) manifestName fs) :
    rasterPath lib fs (mapDir ++ [mapId]) ≠ some (mapDir ++ [mapId] ++ [manifestName]) := by
  intro hRaster
  obtain ⟨iso, hIso⟩ := created_of_persisted hInfo hPersisted h hGathers
  obtain ⟨blob, t, hBlob, -, hRun⟩ := run_rewrites now hInfo h
  obtain ⟨manifest, u, hBuilt, hReturned⟩ :=
    run_returns blob t.seen hGathers hDone hIso
  have hSeen : (fs.write (mapDir ++ [mapId] ++ [semanticsName]) blob).write
      (mapDir ++ [mapId] ++ [manifestName]) (lib.dumps manifest) ∈
        (interruptedWrite zlib lib faults now mapDir mapId gridData ⟨fs, []⟩).2.seen := by
    rw [hRun, hReturned]
    exact List.mem_cons_self ..
  obtain ⟨valid, hValid⟩ := (hPersisted.usable _ hSeen).valid
  have hYaml : rasterPath lib ((fs.write (mapDir ++ [mapId] ++ [semanticsName]) blob).write
      (mapDir ++ [mapId] ++ [manifestName]) (lib.dumps manifest)) (mapDir ++ [mapId]) =
        some (mapDir ++ [mapId] ++ [manifestName]) := by
    rw [← hRaster]
    refine rasterPath_congr lib ((FileSystem.file_write_of_ne _ (fun hEq => ?_) _).trans
      (FileSystem.file_write_of_ne _ (fun hEq => ?_) _))
    · exact absurd (List.append_cancel_left hEq) (by decide)
    · exact absurd (List.append_cancel_left hEq) (by decide)
  have hMagic := raster_head hValid hYaml
  rw [FileSystem.file_write_self, Option.getD_some, (hLaws.manifest blob hBlob).brace _ hBuilt]
    at hMagic
  exact absurd hMagic (by decide)

/-- A manifest that cannot be read loses its session. -/
theorem session_of_persisted (h : Rewrites zlib faults fs (mapDir ++ [mapId]) info gridData)
    (hGathers : faults.Gathers)
    (hDone : faults.manifest.Completes (mapDir ++ [mapId]) manifestName fs)
    (hFails : faults.readManifest = .fails) : info.sessionId = "" := by
  obtain ⟨iso, hIso⟩ := created_of_persisted hInfo hPersisted h hGathers
  obtain ⟨blob, t, hBlob, -, hRun⟩ := run_rewrites now hInfo h
  obtain ⟨manifest, u, hBuilt, hReturned⟩ :=
    run_returns blob t.seen hGathers hDone hIso
  obtain ⟨-, -, document, hRecords⟩ := usable_after hInfo hLaws hBlob hBuilt
    (raster_of_persisted hInfo hPersisted h)
    (manifest_of_persisted hInfo hPersisted hLaws h hGathers hDone) rfl
  obtain ⟨promised, hPromised⟩ := hPersisted.records (congrArg Prod.fst (hRun.trans hReturned))
  have hRead := hPromised.reads
  rw [hRun, hReturned] at hRead
  cases hRecords.reads.symm.trans hRead
  rw [← hPromised.session, hRecords.session, previous_session hLaws.str hInfo, if_pos hFails]

end Needed

/-- The promise is kept exactly under the condition. One lemma for each field of the condition
reads it off a run that keeps the promise; conversely `persisted_of_condition` follows the write
operation by operation. -/
theorem persisted_iff (hInfo : validateBundle lib fs mapDir mapId = .ok info)
    (hLaws : WriteLaws zlib lib faults now fs mapDir mapId info gridData) :
    Persisted zlib lib fs mapDir mapId info gridData
        (interruptedWrite zlib lib faults now mapDir mapId gridData ⟨fs, []⟩) ↔
      WriteCondition zlib lib faults now fs (mapDir ++ [mapId]) info gridData :=
  ⟨fun h => {
    fits := fits_of_persisted hInfo h
    raster := raster_of_persisted hInfo h
    created := created_of_persisted hInfo h
    session := session_of_persisted hInfo h hLaws
    manifest := manifest_of_persisted hInfo h hLaws },
  persisted_of_condition hInfo hLaws⟩

/-! ## A map with one cell -/

def studioYaml : Bytes :=
  "image: occupancy.pgm\nresolution: 0.0625\norigin: [0, 0, 0]\n".toUTF8.toList

def studioPgm : Bytes := "P5\n1 1\n255\n".toUTF8.toList ++ [0]

/-- The raster with one lethal cell. -/
def studioBlob : Bytes := pngBytes lethalZlib 1 1 [classLethal]

/-- A manifest with a session and a time of creation. -/
def studioManifest (created : String) : Bytes :=
  ("\x7b\"created\": " ++ created ++ ", \"session_id\": \"first\"\x7d").toUTF8.toList

def studioBase : FilePath := ["maps"] ++ ["studio"]

def studioFiles (created : String) : FileSystem where
  file path :=
    if path = studioBase ++ [mapYamlName] then some studioYaml
    else if path = studioBase ++ [occupancyName] then some studioPgm
    else if path = studioBase ++ [posegraphPosegraphName] then some [1]
    else if path = studioBase ++ [posegraphDataName] then some [2]
    else if path = studioBase ++ [manifestName] then some (studioManifest created)
    else none
  isDir path := path = ["maps"] ∨ path = studioBase

/-- The SHA-256 digests of the files, and that of their digests. -/
def studioDigest (data : Bytes) : String :=
  if data = studioYaml then "049e3ceba12e2694bfc06af39aae55288c29671e358338a819a912384d460a15"
  else if data = studioPgm then "c562b0556e17c4350801ae74c04e04e921db5117692e0a6f5d42fb9798b5edcd"
  else if data = [1] then "4bf5122f344554c53bde2ebb8cd2b7e3d1600ad631c385a5d7cce23c7785459a"
  else if data = [2] then "dbc1b4c900ffe48d575b5da5c638040125f65db0fe3e24494b76ea986457d986"
  else if data = studioBlob then
    "3beeb52c4834df41755443e8cdce4f112661db09be1075e25ef01c84ea6610cf"
  else "6777318f4f73ef60d7795f30216b10b49a0bf3ebf7eb55fb8f16b3a8e733e82e"

def studioHashes : List (String × String) :=
  [ ("map.yaml", "049e3ceba12e2694bfc06af39aae55288c29671e358338a819a912384d460a15"),
    ("occupancy.pgm", "c562b0556e17c4350801ae74c04e04e921db5117692e0a6f5d42fb9798b5edcd"),
    ("posegraph.posegraph", "4bf5122f344554c53bde2ebb8cd2b7e3d1600ad631c385a5d7cce23c7785459a"),
    ("posegraph.data", "dbc1b4c900ffe48d575b5da5c638040125f65db0fe3e24494b76ea986457d986"),
    ("semantics.png", "3beeb52c4834df41755443e8cdce4f112661db09be1075e25ef01c84ea6610cf") ]

/-- The manifest after the raster has been written, and its text. -/
def studioRewritten : PyValue :=
  .dict [
    ("version", .int 1), ("name", .str "studio"), ("session_id", .str "first"),
    ("created", .int 0), ("created_iso", .str "1970-01-01T00:00:00Z"),
    ("revision", .str "6777318f4f73"),
    ("artifacts", .dict (studioHashes.map fun hash => (hash.1, .str hash.2)))]

def studioText : Bytes :=
  ("\x7b\n  \"artifacts\": \x7b\n" ++
    "    \"map.yaml\": \"049e3ceba12e2694bfc06af39aae55288c29671e358338a819a912384d460a15\",\n" ++
    "    \"occupancy.pgm\": " ++
    "\"c562b0556e17c4350801ae74c04e04e921db5117692e0a6f5d42fb9798b5edcd\",\n" ++
    "    \"posegraph.data\": " ++
    "\"dbc1b4c900ffe48d575b5da5c638040125f65db0fe3e24494b76ea986457d986\",\n" ++
    "    \"posegraph.posegraph\": " ++
    "\"4bf5122f344554c53bde2ebb8cd2b7e3d1600ad631c385a5d7cce23c7785459a\",\n" ++
    "    \"semantics.png\": " ++
    "\"3beeb52c4834df41755443e8cdce4f112661db09be1075e25ef01c84ea6610cf\"\n" ++
    "  \x7d,\n  \"created\": 0,\n  \"created_iso\": \"1970-01-01T00:00:00Z\",\n" ++
    "  \"name\": \"studio\",\n  \"revision\": \"6777318f4f73\",\n" ++
    "  \"session_id\": \"first\",\n  \"version\": 1\n\x7d").toUTF8.toList

/-- The libraries on what a write of this raster asks them. -/
def studioLibrary : BundleLibrary where
  yaml data :=
    .ok (if data = studioYaml then some (.dict [("image", .str "occupancy.pgm"),
      ("resolution", .float (.finite (1 / 16))), ("origin", .list [.int 0, .int 0, .int 0])])
    else none)
  json data :=
    if data = studioManifest "0" then
      some (.dict [("created", .int 0), ("session_id", .str "first")])
    else if data = studioManifest "Infinity" then
      some (.dict [("created", .float (.inf false)), ("session_id", .str "first")])
    else if data = studioText then some studioRewritten.sorted
    else none
  dumps _ := studioText
  sha256 := studioDigest
  str
    | .str text => text
    | _ => ""
  intOfBytes token :=
    if token = [49] then some 1 else if token = [50, 53, 53] then some 255 else none
  createdIso
    | .int 0 => .ok "1970-01-01T00:00:00Z"
    | _ => .error .overflowError

def studioInfo : BundleInfo where
  name := "studio"
  revision := ""
  sessionId := "first"
  resolution := .finite (1 / 16)
  width := 1
  height := 1

theorem studioLibrary_json :
    studioLibrary.json (studioManifest "0") =
        some (.dict [("created", .int 0), ("session_id", .str "first")]) ∧
      studioLibrary.json (studioManifest "Infinity") =
        some (.dict [("created", .float (.inf false)), ("session_id", .str "first")]) ∧
      studioLibrary.json studioText = some studioRewritten.sorted := by
  obtain ⟨hOther, hText, hLast⟩ : studioManifest "Infinity" ≠ studioManifest "0" ∧
      studioText ≠ studioManifest "0" ∧ studioText ≠ studioManifest "Infinity" := by
    decide +kernel
  exact ⟨if_pos rfl, (if_neg hOther).trans (if_pos rfl),
    (if_neg hText).trans ((if_neg hLast).trans (if_pos rfl))⟩

/-- The files of the map, for both times of creation. -/
theorem studio_files : ∀ created ∈ ["0", "Infinity"],
    (studioFiles created).isDir studioBase = true ∧
      (∀ name ∈ coreFilenames, (studioFiles created).isNonempty (studioBase ++ [name]) = true) ∧
      (studioFiles created).file (studioBase ++ [mapYamlName]) = some studioYaml ∧
      (studioFiles created).file (studioBase ++ [occupancyName]) = some studioPgm ∧
      (studioFiles created).file (studioBase ++ [manifestName]) =
        some (studioManifest created) := by
  decide +kernel

theorem studio_parsed : parseMapYaml studioLibrary studioYaml =
    .ok (occupancyName, .finite (1 / 16)) := by
  decide +kernel

theorem studio_valid (created : String) {document : PyDict} (hMem : created ∈ ["0", "Infinity"])
    (hJson : studioLibrary.json (studioManifest created) = some (.dict document))
    (hArtifacts : PyDict.get? document "artifacts" = none)
    (hRevision : manifestText studioLibrary document "revision" = "")
    (hSession : manifestText studioLibrary document "session_id" = "first") :
    validateBundle studioLibrary (studioFiles created) ["maps"] "studio" = .ok studioInfo ∧
      rasterPath studioLibrary (studioFiles created) studioBase =
        some (studioBase ++ [occupancyName]) := by
  obtain ⟨hDir, hFiles, hYaml, hPgm, hManifest⟩ := studio_files created hMem
  have hName : mapDirectory ["maps"] "studio" = .ok studioBase := by decide
  have hHeader : readPgmHeader studioLibrary studioPgm = .ok (1, 1, 255) := by decide +kernel
  have hRead : readManifest studioLibrary (studioFiles created) studioBase = some document := by
    unfold readManifest
    rw [hManifest, Option.bind_some, hJson]
  constructor
  · unfold validateBundle
    rw [hName]
    simp only [bind, Except.bind]
    rw [hDir, hFiles _ (by decide), hFiles _ (by decide), hFiles _ (by decide), hYaml,
      Option.getD_some, studio_parsed]
    simp only [Bool.not_true, Bool.false_eq_true, if_false]
    rw [resolveImagePath_occupancyName, hFiles _ (by decide), hPgm, Option.getD_some, hHeader]
    simp only [Bool.not_true, Bool.false_eq_true, if_false]
    rw [hRead]
    dsimp only
    rw [hArtifacts, hRevision, hSession]
    rfl
  · unfold rasterPath
    rw [hYaml, Option.getD_some, studio_parsed]
    exact congrArg some (resolveImagePath_occupancyName studioBase)

theorem studio_encoded :
    encodeSemanticsPng lethalZlib studioInfo.width studioInfo.height [classLethal] =
      .ok studioBlob := by
  decide

theorem studio_fits :
    Accepted studioInfo [classLethal] ∧ Fits lethalZlib studioInfo [classLethal] := by
  refine ⟨⟨rfl, classes_lethal⟩, ?_⟩
  unfold Fits
  decide

/-- What the previous manifest says. -/
def studioPrevious : PyDict := [("created", .int 0), ("session_id", .str "first")]

theorem studio_rewritten (now : PyFloat) :
    rewrittenManifest studioLibrary now ((studioFiles "0").write (studioBase ++ [semanticsName])
      studioBlob) studioBase "studio" studioPrevious = .ok studioRewritten := by
  obtain ⟨hHashes, hRevision⟩ : recordedHashes studioLibrary
      ((studioFiles "0").write (studioBase ++ [semanticsName]) studioBlob) studioBase =
        studioHashes ∧
      ((studioLibrary.sha256 (String.join (studioHashes.map (·.2))).toUTF8.toList).take
        12).toString = "6777318f4f73" := by
    decide +kernel
  unfold recordedHashes at hHashes
  unfold rewrittenManifest buildManifest
  dsimp only
  rw [hHashes, hRevision]
  rfl

/-- The process ends before the manifest is replaced. -/
def crashBeforeManifest : WriteFaults where
  semantics := { random := "b3_9fa0c" }
  manifest := { random := "x7k2m1qa", replace := .crashes }

theorem studio_previous :
    previousManifest studioLibrary crashBeforeManifest (studioFiles "0") studioBase =
      studioPrevious := by
  obtain ⟨-, -, -, -, hManifest⟩ := studio_files "0" (by decide)
  unfold previousManifest BundleLibrary.reading readManifest
  rw [if_neg (by decide), hManifest, Option.bind_some, studioLibrary_json.1]
  rfl

theorem studio_laws : WriteLaws lethalZlib studioLibrary crashBeforeManifest (.finite 0)
    (studioFiles "0") ["maps"] "studio" studioInfo [classLethal] where
  str _ := rfl
  manifest blob hBlob := by
    cases hBlob.symm.trans studio_encoded
    have hRewritten : ∀ manifest, rewrittenManifest studioLibrary (.finite 0)
        ((studioFiles "0").write (studioBase ++ [semanticsName]) studioBlob) studioBase "studio"
        (previousManifest studioLibrary crashBeforeManifest (studioFiles "0") studioBase) =
          .ok manifest → manifest = studioRewritten := by
      intro manifest hManifest
      rw [studio_previous, studio_rewritten] at hManifest
      exact (Except.ok.inj hManifest).symm
    refine ⟨fun manifest hManifest => ?_, fun manifest hManifest => ?_⟩
    · rw [hRewritten manifest hManifest]
      exact studioLibrary_json.2.2
    · show studioText.head? = some 0x7b
      decide +kernel

/-- The raster is there and the manifest is the old one. -/
theorem persisted_iff_crash :
    Persisted lethalZlib studioLibrary (studioFiles "0") ["maps"] "studio" studioInfo [classLethal]
      (interruptedWrite lethalZlib studioLibrary crashBeforeManifest (.finite 0) ["maps"] "studio"
        [classLethal] ⟨studioFiles "0", []⟩) := by
  obtain ⟨hValid, hRaster⟩ :=
    studio_valid "0" (by decide) studioLibrary_json.1 rfl rfl rfl
  refine (persisted_iff hValid studio_laws).mpr {
    fits := fun _ _ => studio_fits.2
    raster := fun _ => ?_
    created := fun _ _ => ?_
    session := fun _ _ _ hFails => nomatch hFails
    manifest := fun _ _ _ => ?_ }
  · rw [show ["maps"] ++ ["studio"] = studioBase from rfl, hRaster]
    decide
  · rw [show ["maps"] ++ ["studio"] = studioBase from rfl, studio_previous]
    exact ⟨_, rfl⟩
  · rw [show ["maps"] ++ ["studio"] = studioBase from rfl, hRaster]
    decide

/-- A manifest with an infinite time of creation passes the validation, and then `gmtime` raises
an `OverflowError` that nobody catches. -/
theorem infinite_creation_raises :
    ¬ ∀ (zlib : Zlib) (lib : BundleLibrary) (fs : FileSystem) (mapDir : FilePath) (mapId : String)
      (info : BundleInfo) (gridData : Bytes) (faults : WriteFaults) (now : PyFloat),
      validateBundle lib fs mapDir mapId = .ok info →
      WriteLaws zlib lib faults now fs mapDir mapId info gridData →
      Persisted zlib lib fs mapDir mapId info gridData
        (interruptedWrite zlib lib faults now mapDir mapId gridData ⟨fs, []⟩) := by
  intro hAll
  obtain ⟨hValid, -⟩ :=
    studio_valid "Infinity" (by decide) studioLibrary_json.2.1 rfl rfl rfl
  have hPrevious : previousManifest studioLibrary {} (studioFiles "Infinity") studioBase =
      [("created", .float (.inf false)), ("session_id", .str "first")] := by
    obtain ⟨-, -, -, -, hManifest⟩ := studio_files "Infinity" (by decide)
    unfold previousManifest BundleLibrary.reading readManifest
    rw [if_neg (by decide), hManifest, Option.bind_some, studioLibrary_json.2.1]
    rfl
  have hCreated : ¬ ∃ iso, studioLibrary.createdIso (createdOr (.finite 0) (PyDict.get?
      (previousManifest studioLibrary {} (studioFiles "Infinity") studioBase) "created")) =
        .ok iso := by
    rw [hPrevious]
    exact fun ⟨iso, h⟩ => nomatch h
  have hLaws : WriteLaws lethalZlib studioLibrary {} (.finite 0) (studioFiles "Infinity") ["maps"]
      "studio" studioInfo [classLethal] :=
    ⟨fun _ => rfl, fun blob _ => ⟨fun manifest h => absurd ⟨manifest, h⟩
        (mt rewrittenManifest_ok_iff.mp hCreated),
      fun manifest h => absurd ⟨manifest, h⟩ (mt rewrittenManifest_ok_iff.mp hCreated)⟩⟩
  have hReplaces : WriteFaults.Replaces {} (studioFiles "Infinity") studioBase :=
    ⟨⟨rfl, by decide⟩, ⟨⟨rfl, by decide, rfl⟩, rfl, by decide⟩⟩
  have hPersisted := hAll lethalZlib studioLibrary (studioFiles "Infinity") ["maps"] "studio"
    studioInfo [classLethal] {} (.finite 0) hValid hLaws
  exact hCreated (created_of_persisted hValid hPersisted
    ⟨hReplaces, studio_fits.1, studio_fits.2⟩ ⟨rfl, by decide, rfl⟩)

end PreRunner.Maps
