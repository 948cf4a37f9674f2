import PreRunner.Maps.BundleDeletion
import PreRunner.Maps.MapCatalog

/-!
# Saving a map

A save stages a directory, writes an occupancy raster beside the pose graph, validates the result
and renames it into place. This module follows `OccupancyRaster` and `MapSaveTransaction` of
`runner_paddock/map_session.py`. A file operation may raise an `OSError` and then leaves anything in
the staging area. Until the rename nothing outside that area changes.
-/

namespace PreRunner.Maps

def stagingDirname := ".staging"

/-- What a save takes from the libraries. -/
structure SaveLibrary where
  catalog : CatalogLibrary
  /-- `f'{value:.6f}'`. -/
  format6 : PyFloat → String
  /-- `2.0 * math.atan2(z, w)`. -/
  yaw : PyFloat → PyFloat → PyFloat

/-- What the functions of one bundle take from them. -/
def SaveLibrary.bundle (lib : SaveLibrary) : BundleLibrary := lib.catalog.bundle

/-! ## The raster -/

/-- A consistent `/map` snapshot captured for a save. -/
structure OccupancyRaster where
  width : ℕ
  height : ℕ
  resolution : PyFloat
  originX : PyFloat
  originY : PyFloat
  originYaw : PyFloat
  data : List ℤ

namespace OccupancyRaster

/-- `int(occupied_thresh * 100)` and `int(free_thresh * 100)`. -/
def occ : ℤ := 65
def free : ℤ := 19

def pgmCell (value : ℤ) : UInt8 :=
  if value < 0 then 205
  else if occ ≤ value then 0
  else if 0 ≤ value ∧ value ≤ free then 254
  else 205

/-- Trinary PGM bytes, top row first. -/
def toPgmBytes (raster : OccupancyRaster) : Bytes :=
  s!"P5\n{raster.width} {raster.height}\n255\n".toUTF8.toList ++
    (Runs.flip raster.width raster.height raster.data).map pgmCell

/-- A YAML for this raster. -/
def toYamlText (lib : SaveLibrary) (raster : OccupancyRaster) (imageName : String) : String :=
  s!"image: {imageName}\nmode: trinary\nresolution: {lib.format6 raster.resolution}\n" ++
    s!"origin: [{lib.format6 raster.originX}, {lib.format6 raster.originY}, " ++
    s!"{lib.format6 raster.originYaw}]\nnegate: 0\noccupied_thresh: 0.65\nfree_thresh: 0.196\n"

end OccupancyRaster

/-! ## Outcomes -/

/-- `SaveState`. -/
inductive SaveState where
  | idle
  | running
  | succeeded
  | failed
  deriving DecidableEq, Repr

/-- The texts of a save state. -/
inductive SaveDetail where
  | empty
  | serializing
  | published
  | sessionChanged
  | bundle (error : MapError)
  | noSession
  | otherSession
  | sessionNotReady
  | runtimeNotReady
  | notStopped
  | inFlight
  | nameTaken
  | noService
  | timedOut
  | serializeResult (result : Option ℤ)
  | notSerialized (filename : String)
  | noGrid
  | emptyGrid
  | inconsistentGrid
  | degenerate
  deriving DecidableEq

/-- Result of one save attempt. -/
structure SaveOutcome where
  state : SaveState
  detail : SaveDetail
  name : String := ""
  revision : String := ""
  sessionId : String := ""
  deriving DecidableEq

/-- How a step of a save ends early: with a `MapError` or a failed answer, or with an exception that
the save does not catch. -/
inductive SaveEnd where
  | failed (detail : SaveDetail)
  | raised
  deriving DecidableEq

/-- What becomes of the exception of a bundle. -/
def SaveEnd.ofError (error : MapError) : SaveEnd :=
  if (Raised.map error).isMapError then .failed (.bundle error) else .raised

/-! ## The transaction -/

structure MapSaveTransaction where
  mapDir : FilePath
  name : String
  sessionId : String
  created : PyValue

/-- How the file operations of a step go: whether one raises, and what it has left behind then. -/
structure FileOps where
  raises : Bool
  left : FileSystem

namespace FileSystem

/-- The files below a directory are replaced. -/
def replaceUnder (fs : FileSystem) (base : FilePath) (other : FileSystem) : FileSystem where
  file path := if isUnder base path then other.file path else fs.file path
  isDir path := if isUnder base path then other.isDir path else fs.isDir path

/-- `os.replace` of a directory to a free place. -/
def rename (fs : FileSystem) (source target : FilePath) : FileSystem :=
  (fs.remove source).place target fun path => fs.file (source ++ path)

end FileSystem

namespace MapSaveTransaction

variable (lib : SaveLibrary) (txn : MapSaveTransaction)

def stagingRoot : FilePath := txn.mapDir ++ [stagingDirname]
def staging : FilePath := txn.stagingRoot ++ [txn.name]
def stagedPath (filename : String) : FilePath := txn.staging ++ [filename]
def finalDir : FilePath := txn.mapDir ++ [txn.name]

/-- Create a clean staging directory, refusing to clobber a live bundle. -/
def prepare (fs : FileSystem) (ops : FileOps) : FileSystem × Except SaveEnd Unit :=
  if fs.isDir txn.finalDir || fs.isFile txn.finalDir then (fs, .error (.failed .nameTaken))
  else if ops.raises then (fs.replaceUnder txn.stagingRoot ops.left, .error .raised)
  else (fs.place txn.staging fun _ => none, .ok ())

/-- Verify that the SLAM step produced non-empty files. -/
def checkSerialized (fs : FileSystem) (ops : FileOps) : Except SaveEnd Unit :=
  if ops.raises then .error .raised
  else if !fs.isNonempty (txn.stagedPath posegraphPosegraphName) then
    .error (.failed (.notSerialized posegraphPosegraphName))
  else if !fs.isNonempty (txn.stagedPath posegraphDataName) then
    .error (.failed (.notSerialized posegraphDataName))
  else .ok ()

/-- Write the occupancy PGM and its YAML from the captured grid. -/
def writeRaster (fs : FileSystem) (raster : OccupancyRaster) (ops : FileOps) :
    FileSystem × Except SaveEnd Unit :=
  if raster.width = 0 ∨ raster.height = 0 then (fs, .error (.failed .emptyGrid))
  else if raster.data.length ≠ raster.width * raster.height then
    (fs, .error (.failed .inconsistentGrid))
  else if ops.raises then (fs.replaceUnder txn.stagingRoot ops.left, .error .raised)
  else
    ((fs.write (txn.stagedPath occupancyName) raster.toPgmBytes).write
      (txn.stagedPath mapYamlName) (raster.toYamlText lib occupancyName).toUTF8.toList, .ok ())

/-- Full complete-bundle validation against the staged directory. -/
def validate (fs : FileSystem) (ops : FileOps) : Except SaveEnd BundleInfo :=
  if ops.raises then .error .raised
  else
    match validateBundle lib.bundle fs txn.stagingRoot txn.name with
    | .error error => .error (.ofError error)
    | .ok info =>
      if info.width ≤ 1 ∨ info.height ≤ 1 then .error (.failed .degenerate) else .ok info

/-- `manifest['revision']`. -/
def manifestRevision : PyValue → String
  | .dict manifest =>
    match PyDict.get? manifest "revision" with
    | some (.str revision) => revision
    | _ => ""
  | _ => ""

/-- Write the manifest, then rename the directory into place. -/
def publish (fs : FileSystem) (ops : FileOps) : FileSystem × Except SaveEnd SaveOutcome :=
  match buildManifest lib.bundle fs txn.sessionId txn.name txn.staging txn.created with
  | .error _ => (fs, .error .raised)
  | .ok manifest =>
    if ops.raises then (fs.replaceUnder txn.stagingRoot ops.left, .error .raised)
    else
      let fs := fs.write (txn.stagedPath manifestName) (lib.bundle.dumps manifest)
      -- a directory is not moved onto another one that holds files, nor onto a file
      if fs.isDir txn.finalDir || fs.isFile txn.finalDir then (fs, .error .raised)
      else
        (fs.rename txn.staging txn.finalDir, .ok {
          state := .succeeded, detail := .published, name := txn.name
          revision := manifestRevision manifest, sessionId := txn.sessionId })

end MapSaveTransaction

/-! ## What a save leaves alone -/

section Staging

variable {fs next other : FileSystem} {base : FilePath} {name : String}

theorem SameOutside.refl (fs : FileSystem) (base : FilePath) : SameOutside fs fs base :=
  ⟨fun _ _ => rfl, fun _ _ => rfl⟩

theorem SameOutside.trans (h : SameOutside fs next base) (hOther : SameOutside next other base) :
    SameOutside fs other base :=
  ⟨fun path hPath => (hOther.dir path hPath).trans (h.dir path hPath),
    fun path hPath => (hOther.file path hPath).trans (h.file path hPath)⟩

theorem isUnder_of_append {path : FilePath} (hName : name ≠ "..")
    (h : isUnder (base ++ [name]) path = true) : isUnder base path = true := by
  rw [isUnder, List.isPrefixOf_iff_prefix] at h ⊢
  rw [normalize_append_singleton base hName] at h
  exact (List.prefix_append _ _).trans h

theorem SameOutside.of_append (hName : name ≠ "..") (h : SameOutside fs next (base ++ [name])) :
    SameOutside fs next base := by
  have hPath : ∀ path, isUnder base path = false → isUnder (base ++ [name]) path = false :=
    fun path hPath => Bool.eq_false_iff.mpr fun hUnder =>
      Bool.eq_false_iff.mp hPath (isUnder_of_append hName hUnder)
  exact ⟨fun path h' => h.dir path (hPath path h'), fun path h' => h.file path (hPath path h')⟩

theorem sameOutside_replaceUnder (fs : FileSystem) (base : FilePath) (other : FileSystem) :
    SameOutside fs (fs.replaceUnder base other) base where
  dir _ h := if_neg (Bool.eq_false_iff.mp h)
  file _ h := if_neg (Bool.eq_false_iff.mp h)

theorem sameOutside_write (fs : FileSystem) {base path : FilePath} (h : isUnder base path = true)
    (data : Bytes) : SameOutside fs (fs.write path data) base where
  dir _ _ := rfl
  file _ hOther := FileSystem.file_write_of_ne fs
    (fun hSame => Bool.eq_false_iff.mp hOther (by rw [hSame]; exact h)) data

end Staging

namespace MapSaveTransaction

variable {lib : SaveLibrary} {txn : MapSaveTransaction} {fs : FileSystem}

/-- The name of a transaction passes `safe_basename`. -/
def Named (txn : MapSaveTransaction) : Prop := safeBasename txn.name = .ok txn.name

theorem Named.ne_dotdot (h : txn.Named) : txn.name ≠ ".." := safeBasename_ne_dotdot h

theorem Named.ne_staging (h : txn.Named) : txn.name ≠ stagingDirname := by
  intro hName
  have hError : safeBasename stagingDirname = .error .idPattern := by decide
  unfold Named at h
  rw [hName, hError] at h
  exact nomatch h

/-- The place of the bundle lies outside the staging area. -/
theorem Named.finalDir_outside (h : txn.Named) : isUnder txn.stagingRoot txn.finalDir = false :=
  Bool.eq_false_iff.mpr fun hUnder =>
    h.ne_staging (eq_of_isUnder_sibling (by decide) hUnder).symm

theorem Named.stagedPath_inside (h : txn.Named) {filename : String} (hFile : filename ≠ "..") :
    isUnder txn.stagingRoot (txn.stagedPath filename) = true :=
  isUnder_of_append h.ne_dotdot (isUnder_append txn.staging hFile)

/-- Nothing is at the place of the bundle. -/
def Free (txn : MapSaveTransaction) (fs : FileSystem) : Prop :=
  fs.isDir txn.finalDir = false ∧ fs.isFile txn.finalDir = false

theorem Free.of_sameOutside {next : FileSystem} (h : txn.Free fs) (hNamed : txn.Named)
    (hFiles : SameOutside fs next txn.stagingRoot) : txn.Free next := by
  have hOutside := hNamed.finalDir_outside
  refine ⟨(hFiles.dir _ hOutside).trans h.1, ?_⟩
  have hFile : next.file txn.finalDir = fs.file txn.finalDir := hFiles.file _ hOutside
  unfold FileSystem.isFile
  rw [hFile]
  exact h.2

theorem free_of_prepare {next : FileSystem} {ops : FileOps}
    (h : txn.prepare fs ops = (next, .ok ())) : txn.Free fs := by
  unfold prepare at h
  split at h
  · exact nomatch h
  · rename_i hFree
    rw [Bool.or_eq_true, not_or, Bool.not_eq_true, Bool.not_eq_true] at hFree
    exact hFree

theorem sameOutside_prepare (h : txn.Named) (fs : FileSystem) (ops : FileOps) :
    SameOutside fs (txn.prepare fs ops).1 txn.stagingRoot := by
  unfold prepare
  split
  · exact SameOutside.refl _ _
  · split
    · exact sameOutside_replaceUnder _ _ _
    · have hPlace : SameOutside fs (fs.place txn.staging fun _ => none)
          (txn.stagingRoot ++ [txn.name]) := sameOutside_place fs txn.staging _
      exact hPlace.of_append h.ne_dotdot

theorem sameOutside_writeRaster (h : txn.Named) (fs : FileSystem) (raster : OccupancyRaster)
    (ops : FileOps) : SameOutside fs (txn.writeRaster lib fs raster ops).1 txn.stagingRoot := by
  unfold writeRaster
  split
  · exact SameOutside.refl _ _
  · split
    · exact SameOutside.refl _ _
    · split
      · exact sameOutside_replaceUnder _ _ _
      · exact (sameOutside_write fs (h.stagedPath_inside (by decide)) _).trans
          (sameOutside_write _ (h.stagedPath_inside (by decide)) _)

/-- A publication that does not complete changes the staging area alone. -/
theorem sameOutside_publish {ending : SaveEnd} (h : txn.Named) (ops : FileOps)
    (hEnd : (txn.publish lib fs ops).2 = .error ending) :
    SameOutside fs (txn.publish lib fs ops).1 txn.stagingRoot := by
  unfold publish at hEnd ⊢
  cases hManifest : buildManifest lib.bundle fs txn.sessionId txn.name txn.staging txn.created with
  | error error => exact SameOutside.refl _ _
  | ok manifest =>
    rw [hManifest] at hEnd
    dsimp only at hEnd ⊢
    split
    · exact sameOutside_replaceUnder _ _ _
    · split at hEnd
      · contradiction
      · split
        · exact sameOutside_write fs (h.stagedPath_inside (by decide)) _
        · rename_i hFree
          rw [if_neg hFree] at hEnd
          exact nomatch hEnd

/-! ### When a step raises -/

theorem prepare_raised {ops : FileOps} :
    (txn.prepare fs ops).2 = .error .raised ↔ txn.Free fs ∧ ops.raises = true := by
  unfold prepare Free
  cases fs.isDir txn.finalDir <;> cases fs.isFile txn.finalDir <;> cases ops.raises <;> simp

theorem checkSerialized_raised {ops : FileOps} :
    txn.checkSerialized fs ops = .error .raised ↔ ops.raises = true := by
  unfold checkSerialized
  cases hRaises : ops.raises with
  | true => simp
  | false =>
    refine iff_of_false (fun h => ?_) Bool.false_ne_true
    rw [if_neg Bool.false_ne_true] at h
    split at h
    · exact nomatch h
    · split at h <;> exact nomatch h

theorem writeRaster_raised {raster : OccupancyRaster} {ops : FileOps} :
    (txn.writeRaster lib fs raster ops).2 = .error .raised ↔
      (raster.width ≠ 0 ∧ raster.height ≠ 0 ∧
        raster.data.length = raster.width * raster.height) ∧ ops.raises = true := by
  unfold writeRaster
  split
  · rename_i hEmpty
    refine iff_of_false nofun fun h => ?_
    exact hEmpty.elim h.1.1 h.1.2.1
  · rename_i hEmpty
    rw [not_or] at hEmpty
    split
    · rename_i hLength
      exact iff_of_false nofun fun h => hLength h.1.2.2
    · rename_i hLength
      rw [not_ne_iff] at hLength
      cases hRaises : ops.raises with
      | true => exact iff_of_true rfl ⟨⟨hEmpty.1, hEmpty.2, hLength⟩, rfl⟩
      | false => exact iff_of_false nofun fun h => nomatch h.2

theorem validate_ok {ops : FileOps} {info : BundleInfo} (hRaises : ops.raises = false)
    (hBundle : validateBundle lib.bundle fs txn.stagingRoot txn.name = .ok info)
    (hWidth : 1 < info.width) (hHeight : 1 < info.height) : txn.validate lib fs ops = .ok info := by
  unfold validate
  rw [hRaises, if_neg Bool.false_ne_true, hBundle]
  exact if_neg (not_or.mpr ⟨hWidth.not_ge, hHeight.not_ge⟩)

theorem validate_raised {ops : FileOps} :
    txn.validate lib fs ops = .error .raised ↔
      ops.raises = true ∨ ∃ error, validateBundle lib.bundle fs txn.stagingRoot txn.name =
        .error error ∧ (Raised.map error).isMapError = false := by
  unfold validate
  cases hRaises : ops.raises with
  | true => exact iff_of_true rfl (.inl rfl)
  | false =>
    rw [if_neg Bool.false_ne_true]
    cases hBundle : validateBundle lib.bundle fs txn.stagingRoot txn.name with
    | error error =>
      dsimp only
      unfold SaveEnd.ofError
      cases hError : (Raised.map error).isMapError with
      | true =>
        rw [if_pos rfl]
        refine iff_of_false nofun fun h => ?_
        obtain h | ⟨other, hOther, hRaised⟩ := h
        · exact nomatch h
        · cases hOther
          exact nomatch hError.symm.trans hRaised
      | false =>
        rw [if_neg Bool.false_ne_true]
        exact iff_of_true rfl (.inr ⟨error, rfl, hError⟩)
    | ok info =>
      refine iff_of_false (fun h => ?_) fun h => ?_
      · dsimp only at h
        split at h <;> exact nomatch h
      · obtain h | ⟨other, hOther, -⟩ := h
        · exact nomatch h
        · exact nomatch hOther

theorem publish_raised {ops : FileOps} (hFree : txn.Free fs) (hNamed : txn.Named) :
    (txn.publish lib fs ops).2 = .error .raised ↔
      ops.raises = true ∨ ∃ error, buildManifest lib.bundle fs txn.sessionId txn.name txn.staging
        txn.created = .error error := by
  unfold publish
  cases hManifest : buildManifest lib.bundle fs txn.sessionId txn.name txn.staging txn.created with
  | error error => exact iff_of_true rfl (.inr ⟨error, rfl⟩)
  | ok manifest =>
    dsimp only
    cases hRaises : ops.raises with
    | true => exact iff_of_true rfl (.inl rfl)
    | false =>
      have hWritten := hFree.of_sameOutside hNamed (sameOutside_write fs
        (hNamed.stagedPath_inside (show manifestName ≠ ".." by decide))
        (lib.bundle.dumps manifest))
      rw [if_neg Bool.false_ne_true, hWritten.1, hWritten.2]
      refine iff_of_false nofun fun h => ?_
      obtain h | ⟨error, hError⟩ := h
      · exact nomatch h
      · exact nomatch hError

end MapSaveTransaction

/-! ## The catalog during a save -/

/-- A bundle that the catalog marks as complete. -/
def Complete (lib : BundleLibrary) (fs : FileSystem) (mapDir : FilePath) (name : String) : Prop :=
  ∃ info, validateBundle lib fs mapDir name = .ok info

/-- The `map.yaml` of a bundle names a raster inside the staging area. -/
def StagedRaster (lib : BundleLibrary) (fs : FileSystem) (mapDir : FilePath) (name : String) :
    Prop :=
  ∃ path, rasterPath lib fs (mapDir ++ [name]) = some path ∧
    isUnder (mapDir ++ [stagingDirname]) path = true

/-- What happens in the staging area leaves the other bundles as they were. -/
theorem SameOutside.complete_iff {lib : BundleLibrary} {fs next : FileSystem} {mapDir : FilePath}
    {name : String} (h : SameOutside fs next (mapDir ++ [stagingDirname]))
    (hRaster : ¬ StagedRaster lib fs mapDir name) :
    Complete lib next mapDir name ↔ Complete lib fs mapDir name := by
  unfold Complete
  cases hName : safeBasename name with
  | error error =>
    have hUnsafe : ∀ fs, ¬ ∃ info, validateBundle lib fs mapDir name = .ok info :=
      fun fs ⟨info, hInfo⟩ => nomatch hName.symm.trans (validateBundle_ok hInfo).1
    exact iff_of_false (hUnsafe next) (hUnsafe fs)
  | ok safe =>
    cases safeBasename_eq hName
    have hStaging : stagingDirname ≠ name := by
      rintro rfl
      have hError : safeBasename stagingDirname = .error .idPattern := by decide
      exact nomatch hName.symm.trans hError
    have hFile : ∀ filename, filename ≠ ".." →
        next.file (mapDir ++ [name] ++ [filename]) = fs.file (mapDir ++ [name] ++ [filename]) :=
      fun filename hFile => h.file _ (Bool.eq_false_iff.mpr fun hUnder =>
        hStaging (eq_of_isUnder (by decide) (safeBasename_ne_dotdot hName) hUnder
          (isUnder_append _ hFile)))
    have hImage : ∀ path, rasterPath lib fs (mapDir ++ [name]) = some path →
        next.file path = fs.file path := fun path hPath =>
      h.file path (Bool.eq_false_iff.mpr fun hUnder => hRaster ⟨path, hPath, hUnder⟩)
    rw [validateBundle_congr ⟨h.dir_of_ne (by decide) hStaging, hFile, hImage⟩]

end PreRunner.Maps
