import PreRunner.Maps.Migration
import PreRunner.Maps.SemanticsWrite

/-!
# A migration loses no map

However its operations go and wherever it is cut short, a migration leaves every legacy file in the
map root or in the backup directory, leaves the directories of the maps alone, and publishes a
directory with one rename when it is validated. The same holds of any number of runs.

`Migrates` says what may become of the files, field by field, and it composes. `Stages`, `Ready`
and `Staged` describe the staging directory before the rename, where anything may be left behind. A
file that has been moved into the backup directory belongs to a map with a directory of its own,
and that directory was validated before the rename.
-/

namespace PreRunner.Maps

open Runs Interruptible

variable {lib : BundleLibrary} {root path : FilePath} {mapId name other : String}
  {fs mid next : FileSystem}

/-! ## Paths in the map root -/

theorem not_isUnder_of_length_lt {base : FilePath}
    (h : (normalize path).length < (normalize base).length) : isUnder base path = false := by
  refine Bool.eq_false_iff.mpr fun hUnder => ?_
  rw [isUnder, List.isPrefixOf_iff_prefix] at hUnder
  have hLength := hUnder.length_le
  omega

theorem normalize_dotdot (path : FilePath) : normalize (path ++ [".."]) =
    (normalize path).dropLast := by
  rw [normalize, List.foldl_append]
  rfl

theorem length_normalize_append_le (path : FilePath) (name : String) :
    (normalize (path ++ [name])).length ≤ (normalize path).length + 1 := by
  by_cases hName : name = ".."
  · subst hName
    rw [normalize_dotdot, List.length_dropLast]
    omega
  · rw [normalize_append_singleton path hName, List.length_append]
    exact le_refl _

theorem length_normalize_stagingDir (hName : mapId ≠ "..") :
    (normalize (stagingDir root mapId)).length = (normalize root).length + 2 := by
  unfold stagingDir
  rw [normalize_append_singleton _ hName, normalize_append_singleton _ (by decide)]
  simp

/-- No entry of the map root lies in the staging directory of a map. -/
theorem not_isUnder_staging_root (hName : mapId ≠ "..") :
    isUnder (stagingDir root mapId) (root ++ [name]) = false := by
  apply not_isUnder_of_length_lt
  have hLength := length_normalize_append_le root name
  rw [length_normalize_stagingDir hName]
  omega

/-- A file of the backup directory lies in no other entry of the root. -/
theorem eq_of_isUnder_backup (hOther : other ≠ "..")
    (h : isUnder (root ++ [other]) (root ++ [legacyBackupDirname] ++ [name]) = true) :
    other = legacyBackupDirname := by
  by_cases hName : name = ".."
  · subst hName
    rw [isUnder, List.isPrefixOf_iff_prefix, normalize_append_singleton _ hOther, normalize_dotdot,
      normalize_append_singleton _ (by decide), List.dropLast_concat] at h
    have hLength := h.length_le
    simp at hLength
  · exact eq_of_isUnder hOther (by decide) h (isUnder_append _ hName)

theorem not_isUnder_staging_backup (hName : mapId ≠ "..") :
    isUnder (stagingDir root mapId) (root ++ [legacyBackupDirname] ++ [name]) = false := by
  refine Bool.eq_false_iff.mpr fun hUnder => ?_
  have hBackup := eq_of_isUnder_backup (by decide) (isUnder_of_append hName hUnder)
  exact absurd hBackup (by decide)

theorem isUnder_root_backup : isUnder root (root ++ [legacyBackupDirname] ++ [name]) = true := by
  by_cases hName : name = ".."
  · subst hName
    rw [isUnder, List.isPrefixOf_iff_prefix, normalize_dotdot,
      normalize_append_singleton _ (by decide), List.dropLast_concat]
  · exact isUnder_of_append (by decide) (isUnder_append _ hName)

/-- The names that the migration keeps for maps. -/
structure IsMapName (name : String) : Prop where
  dotdot : name ≠ ".."
  staging : name ≠ stagingDirname
  backup : name ≠ legacyBackupDirname

theorem isMapName_of_safe (h : safeBasename mapId = .ok mapId) : IsMapName mapId where
  dotdot := safeBasename_ne_dotdot h
  staging := by
    rintro rfl
    have hError : safeBasename stagingDirname = .error .idPattern := by decide
    exact nomatch h.symm.trans hError
  backup := by
    rintro rfl
    have hError : safeBasename legacyBackupDirname = .error .idPattern := by decide
    exact nomatch h.symm.trans hError

theorem IsMapName.not_isUnder_staging (h : IsMapName other) (hName : mapId ≠ "..")
    (hUnder : isUnder (root ++ [other]) path = true) :
    isUnder (stagingDir root mapId) path = false :=
  Bool.eq_false_iff.mpr fun hStaging =>
    h.staging (eq_of_isUnder h.dotdot (by decide) hUnder (isUnder_of_append hName hStaging))

/-! ## What a migration guarantees -/

/-- An entry of the map root is not both a file and a directory. -/
structure RootTidy (root : FilePath) (fs : FileSystem) : Prop where
  sorted : ∀ name, fs.isDir (root ++ [name]) = true → fs.file (root ++ [name]) = none
  parent : fs.file (root ++ [".."]) = none

/-- The `map.yaml` of a directory names the raster beside it. -/
def NamesOccupancy (lib : BundleLibrary) (fs : FileSystem) (base : FilePath) : Prop :=
  ∃ resolution, parseMapYaml lib ((fs.file (base ++ [mapYamlName])).getD []) =
    .ok (occupancyName, resolution)

/-- A map has a directory, and a complete one if its `map.yaml` names its own raster. -/
structure Bundled (lib : BundleLibrary) (root : FilePath) (fs : FileSystem) (mapId : String) :
    Prop where
  safe : safeBasename mapId = .ok mapId
  dir : fs.isDir (root ++ [mapId]) = true
  complete : NamesOccupancy lib fs (root ++ [mapId]) → Complete lib fs root mapId

/-- A legacy file of a map, by its name or as the raster that its legacy YAML declares. -/
def LegacyFile (lib : BundleLibrary) (root : FilePath) (fs : FileSystem) (mapId name : String) :
    Prop :=
  (∃ extension ∈ "manifest.json" :: "pgm" :: legacyCoreExtensions,
      name = mapId ++ "." ++ extension) ∨
    legacyImagePath lib fs root mapId = .ok (some (root ++ [name]))

/-- A directory that was built from the legacy files of `fs`. -/
structure PublishedFrom (lib : BundleLibrary) (root : FilePath) (fs next : FileSystem)
    (mapId : String) : Prop where
  bundled : Bundled lib root next mapId
  posegraph : ∃ data, data ≠ [] ∧ fs.file (legacyPath root mapId "posegraph") = some data ∧
    next.file (root ++ [mapId] ++ [posegraphPosegraphName]) = some data
  data : ∃ data, data ≠ [] ∧ fs.file (legacyPath root mapId "data") = some data ∧
    next.file (root ++ [mapId] ++ [posegraphDataName]) = some data
  occupancy : ∀ name, legacyImagePath lib fs root mapId = .ok (some (root ++ [name])) →
    ∃ data, fs.file (root ++ [name]) = some data ∧
      next.file (root ++ [mapId] ++ [occupancyName]) = some data
  yaml : ∃ data rewritten, fs.file (legacyPath root mapId "yaml") = some data ∧
    rewrittenYaml data = .ok rewritten ∧
    next.file (root ++ [mapId] ++ [mapYamlName]) = some rewritten

/-- What may become of the files `fs` in the course of migrations. -/
structure Migrates (lib : BundleLibrary) (root : FilePath) (fs next : FileSystem) : Prop where
  tidy : RootTidy root next
  /-- A file of the root stays, or it is in the backup directory and its map has a bundle. -/
  kept : ∀ name data, fs.file (root ++ [name]) = some data →
    next.file (root ++ [name]) = some data ∨
      (next.file (root ++ [legacyBackupDirname] ++ [name]) = some data ∧
        ∃ mapId, Bundled lib root next mapId ∧ LegacyFile lib root fs mapId name)
  fresh : ∀ name data, next.file (root ++ [name]) = some data → fs.file (root ++ [name]) = some data
  backup : ∀ name data, fs.file (root ++ [legacyBackupDirname] ++ [name]) = some data →
    next.file (root ++ [legacyBackupDirname] ++ [name]) = some data
  dirs : ∀ name, IsMapName name → fs.isDir (root ++ [name]) = true →
    next.isDir (root ++ [name]) = true
  maps : ∀ name, IsMapName name → fs.isDir (root ++ [name]) = true →
    ∀ path, isUnder (root ++ [name]) path = true → next.file path = fs.file path
  published : ∀ name, IsMapName name → fs.isDir (root ++ [name]) = false →
    next.isDir (root ++ [name]) = true → PublishedFrom lib root fs next name
  outside : ∀ path, isUnder root path = false → next.file path = fs.file path

/-! ## It composes -/

theorem rasterPath_of_namesOccupancy {base : FilePath} (h : NamesOccupancy lib fs base) :
    rasterPath lib fs base = some (base ++ [occupancyName]) := by
  obtain ⟨resolution, hParsed⟩ := h
  unfold rasterPath
  rw [hParsed]
  exact congrArg some (resolveImagePath_occupancyName base)

theorem NamesOccupancy.congr {base target : FilePath} (h : NamesOccupancy lib next target)
    (hFile : next.file (target ++ [mapYamlName]) = fs.file (base ++ [mapYamlName])) :
    NamesOccupancy lib fs base := by
  obtain ⟨resolution, hParsed⟩ := h
  rw [hFile] at hParsed
  exact ⟨resolution, hParsed⟩

theorem Bundled.congr (h : Bundled lib root fs mapId)
    (hDir : next.isDir (root ++ [mapId]) = true)
    (hFile : ∀ path, isUnder (root ++ [mapId]) path = true → next.file path = fs.file path) :
    Bundled lib root next mapId where
  safe := h.safe
  dir := hDir
  complete hNames := by
    have hNamesBefore : NamesOccupancy lib fs (root ++ [mapId]) :=
      hNames.congr (hFile _ (isUnder_append _ (by decide)))
    obtain ⟨info, hInfo⟩ := h.complete hNamesBefore
    refine ⟨info, (validateBundle_congr ⟨hDir.trans h.dir.symm, ?_, ?_⟩).trans hInfo⟩
    · intro filename hFilename
      exact hFile _ (isUnder_append _ hFilename)
    · intro path hPath
      rw [rasterPath_of_namesOccupancy hNamesBefore] at hPath
      cases hPath
      exact hFile _ (isUnder_append _ (by decide))

theorem PublishedFrom.congr (h : PublishedFrom lib root fs mid mapId)
    (hDir : next.isDir (root ++ [mapId]) = true)
    (hFile : ∀ path, isUnder (root ++ [mapId]) path = true → next.file path = mid.file path) :
    PublishedFrom lib root fs next mapId where
  bundled := h.bundled.congr hDir hFile
  posegraph := by
    rw [hFile _ (isUnder_append _ (by decide))]
    exact h.posegraph
  data := by
    rw [hFile _ (isUnder_append _ (by decide))]
    exact h.data
  occupancy := by
    rw [hFile _ (isUnder_append _ (by decide))]
    exact h.occupancy
  yaml := by
    rw [hFile _ (isUnder_append _ (by decide))]
    exact h.yaml

/-- The declared raster depends on the legacy YAML alone. -/
theorem legacyImagePath_congr
    (h : next.file (legacyPath root mapId "yaml") = fs.file (legacyPath root mapId "yaml")) :
    legacyImagePath lib next root mapId = legacyImagePath lib fs root mapId := by
  unfold legacyImagePath
  rw [h]

theorem Migrates.refl (h : RootTidy root fs) : Migrates lib root fs fs where
  tidy := h
  kept _ _ hFile := .inl hFile
  fresh _ _ hFile := hFile
  backup _ _ hFile := hFile
  dirs _ _ hDir := hDir
  maps _ _ _ _ _ := rfl
  published _ _ hNone hDir := absurd (hNone.symm.trans hDir) Bool.false_ne_true
  outside _ _ := rfl

/-- A legacy file of a later moment was one before. -/
theorem Migrates.legacyFile (h : Migrates lib root fs mid)
    (hFile : LegacyFile lib root mid mapId name) : LegacyFile lib root fs mapId name := by
  rcases hFile with hName | hImage
  · exact .inl hName
  · refine .inr ?_
    cases hYaml : mid.file (legacyPath root mapId "yaml") with
    | none =>
      unfold legacyImagePath at hImage
      rw [hYaml] at hImage
      cases hImage
    | some data =>
      have hSame : mid.file (legacyPath root mapId "yaml") =
          fs.file (legacyPath root mapId "yaml") := hYaml.trans (h.fresh _ _ hYaml).symm
      rw [← legacyImagePath_congr hSame]
      exact hImage

/-- What was published from a later moment's files was published from those before. -/
theorem Migrates.publishedFrom (h : Migrates lib root fs mid)
    (hPublished : PublishedFrom lib root mid next mapId) :
    PublishedFrom lib root fs next mapId := by
  obtain ⟨bundled, ⟨posegraph, hPosegraph, hLegacy, hNew⟩, ⟨data, hData, hLegacyData, hNewData⟩,
    hOccupancy, ⟨yaml, rewritten, hYaml, hRewritten, hNewYaml⟩⟩ := hPublished
  refine ⟨bundled, ⟨posegraph, hPosegraph, h.fresh _ _ hLegacy, hNew⟩,
    ⟨data, hData, h.fresh _ _ hLegacyData, hNewData⟩, ?_,
    ⟨yaml, rewritten, h.fresh _ _ hYaml, hRewritten, hNewYaml⟩⟩
  intro name hImage
  have hSame : mid.file (legacyPath root mapId "yaml") = fs.file (legacyPath root mapId "yaml") :=
    hYaml.trans (h.fresh _ _ hYaml).symm
  rw [← legacyImagePath_congr hSame] at hImage
  obtain ⟨raster, hRaster, hNewRaster⟩ := hOccupancy name hImage
  exact ⟨raster, h.fresh _ _ hRaster, hNewRaster⟩

theorem Migrates.trans (h : Migrates lib root fs mid) (hNext : Migrates lib root mid next) :
    Migrates lib root fs next where
  tidy := hNext.tidy
  kept name data hFile := by
    rcases h.kept name data hFile with hKept | ⟨hBackup, mapId, hBundled, hLegacy⟩
    · rcases hNext.kept name data hKept with hKept | ⟨hBackup, mapId, hBundled, hLegacy⟩
      · exact .inl hKept
      · exact .inr ⟨hBackup, mapId, hBundled, h.legacyFile hLegacy⟩
    · have hName := isMapName_of_safe hBundled.safe
      exact .inr ⟨hNext.backup _ _ hBackup, mapId,
        hBundled.congr (hNext.dirs _ hName hBundled.dir) (hNext.maps _ hName hBundled.dir), hLegacy⟩
  fresh name data hFile := h.fresh _ _ (hNext.fresh _ _ hFile)
  backup name data hFile := hNext.backup _ _ (h.backup _ _ hFile)
  dirs name hName hDir := hNext.dirs _ hName (h.dirs _ hName hDir)
  maps name hName hDir path hUnder :=
    (hNext.maps _ hName (h.dirs _ hName hDir) path hUnder).trans (h.maps _ hName hDir path hUnder)
  published name hName hNone hDir := by
    cases hMid : mid.isDir (root ++ [name]) with
    | true => exact (h.published _ hName hNone hMid).congr hDir (hNext.maps _ hName hMid)
    | false => exact h.publishedFrom (hNext.published _ hName hMid hDir)
  outside path hPath := (hNext.outside path hPath).trans (h.outside path hPath)

/-! ## Staging -/

/-- What a build may do before it publishes: change the staging directory of its map. -/
structure Stages (root : FilePath) (mapId : String) (fs next : FileSystem) : Prop where
  file : ∀ path, isUnder (stagingDir root mapId) path = false → next.file path = fs.file path
  dir : ∀ path, isUnder (stagingDir root mapId) path = false →
    next.isDir path = fs.isDir path ∨
      (path = root ++ [stagingDirname] ∧ fs.file path = none)

theorem Stages.refl (root : FilePath) (mapId : String) (fs : FileSystem) :
    Stages root mapId fs fs := ⟨fun _ _ => rfl, fun _ _ => .inl rfl⟩

theorem Stages.trans (h : Stages root mapId fs mid) (hNext : Stages root mapId mid next) :
    Stages root mapId fs next where
  file path hPath := (hNext.file path hPath).trans (h.file path hPath)
  dir path hPath := by
    rcases hNext.dir path hPath with hSame | ⟨hStaging, hNone⟩
    · rw [hSame]
      exact h.dir path hPath
    · exact .inr ⟨hStaging, (h.file path hPath).symm.trans hNone⟩

theorem Stages.of_sameOutside (h : SameOutside fs next (stagingDir root mapId)) :
    Stages root mapId fs next :=
  ⟨h.file, fun path hPath => .inl (h.dir path hPath)⟩

theorem Stages.write (h : Stages root mapId fs mid)
    (hPath : isUnder (stagingDir root mapId) path = true) (data : Bytes) :
    Stages root mapId fs (mid.write path data) :=
  h.trans (.of_sameOutside (sameOutside_write mid hPath data))

/-- Staging is no more than a migration may do. -/
theorem Stages.migrates (h : Stages root mapId fs next) (hName : mapId ≠ "..")
    (hTidy : RootTidy root fs) : Migrates lib root fs next := by
  have hRoot : ∀ name, next.file (root ++ [name]) = fs.file (root ++ [name]) := fun name =>
    h.file _ (not_isUnder_staging_root hName)
  have hDir : ∀ name, IsMapName name → next.isDir (root ++ [name]) = fs.isDir (root ++ [name]) := by
    intro name hMap
    rcases h.dir _ (not_isUnder_staging_root hName) with hSame | ⟨hStaging, -⟩
    · exact hSame
    · exact absurd (List.singleton_injective (List.append_cancel_left hStaging)) hMap.staging
  constructor
  case tidy =>
    refine ⟨fun name hIsDir => ?_, (hRoot _).trans hTidy.parent⟩
    rw [hRoot]
    rcases h.dir _ (not_isUnder_staging_root hName) with hSame | ⟨-, hNone⟩
    · exact hTidy.sorted name (hSame ▸ hIsDir)
    · exact hNone
  case kept =>
    intro name data hFile
    exact .inl ((hRoot name).trans hFile)
  case fresh =>
    intro name data hFile
    exact (hRoot name).symm.trans hFile
  case backup =>
    intro name data hFile
    exact (h.file _ (not_isUnder_staging_backup hName)).trans hFile
  case dirs =>
    intro name hMap hIsDir
    exact (hDir name hMap).trans hIsDir
  case maps =>
    intro name hMap _ path hUnder
    exact h.file path (hMap.not_isUnder_staging hName hUnder)
  case published =>
    intro name hMap hNone hIsDir
    rw [hDir name hMap, hNone] at hIsDir
    cases hIsDir
  case outside =>
    intro path hPath
    refine h.file path (Bool.eq_false_iff.mpr fun hUnder => ?_)
    have hInRoot := isUnder_of_append (by decide) (isUnder_of_append hName hUnder)
    exact Bool.false_ne_true (hPath.symm.trans hInRoot)

/-! ## Publishing -/

/-- A staged directory that may be published. -/
structure Ready (lib : BundleLibrary) (root : FilePath) (mapId : String) (fs : FileSystem) :
    Prop where
  safe : safeBasename mapId = .ok mapId
  noDir : fs.isDir (root ++ [mapId]) = false
  noFile : fs.file (root ++ [mapId]) = none
  staged : fs.file (stagingDir root mapId) = none
  complete : Complete lib fs (root ++ [stagingDirname]) mapId
  posegraph : ∃ data, data ≠ [] ∧ fs.file (legacyPath root mapId "posegraph") = some data ∧
    fs.file (stagingDir root mapId ++ [posegraphPosegraphName]) = some data
  data : ∃ data, data ≠ [] ∧ fs.file (legacyPath root mapId "data") = some data ∧
    fs.file (stagingDir root mapId ++ [posegraphDataName]) = some data
  occupancy : ∀ name, legacyImagePath lib fs root mapId = .ok (some (root ++ [name])) →
    ∃ data, fs.file (root ++ [name]) = some data ∧
      fs.file (stagingDir root mapId ++ [occupancyName]) = some data
  yaml : ∃ data rewritten, fs.file (legacyPath root mapId "yaml") = some data ∧
    rewrittenYaml data = .ok rewritten ∧
    fs.file (stagingDir root mapId ++ [mapYamlName]) = some rewritten

/-- A bundle that names its own raster validates in another directory as well. -/
theorem validateBundle_moved {mapDir : FilePath} {info : BundleInfo}
    (h : validateBundle lib fs mapDir mapId = .ok info)
    (hDir : next.isDir (root ++ [mapId]) = true)
    (hFile : ∀ name, name ≠ ".." →
      next.file (root ++ [mapId] ++ [name]) = fs.file (mapDir ++ [mapId] ++ [name]))
    (hNames : NamesOccupancy lib next (root ++ [mapId])) :
    validateBundle lib next root mapId = .ok info := by
  obtain ⟨hSafe, hDirBefore⟩ := validateBundle_ok h
  obtain ⟨resolution, hParsed⟩ := hNames
  have hNonempty : ∀ name, name ≠ ".." →
      next.isNonempty (root ++ [mapId] ++ [name]) =
        fs.isNonempty (mapDir ++ [mapId] ++ [name]) := by
    intro name hName
    unfold FileSystem.isNonempty
    rw [hFile name hName]
  have hArtifact : checkArtifact lib next (root ++ [mapId]) =
      checkArtifact lib fs (mapDir ++ [mapId]) := by
    funext artifact
    obtain ⟨filename, digest⟩ := artifact
    unfold checkArtifact
    dsimp only
    by_cases hCore : filename ∈ coreFilenames
    · have hName : filename ≠ ".." := by
        rintro rfl
        exact absurd hCore (by decide)
      rw [hFile filename hName]
    · simp only [hCore, not_false_eq_true, if_true]
  have hManifest : readManifest lib next (root ++ [mapId]) =
      readManifest lib fs (mapDir ++ [mapId]) := by
    unfold readManifest
    rw [hFile manifestName (by decide)]
  have hParsedBefore := hParsed
  rw [hFile _ (by decide)] at hParsedBefore
  rw [← h]
  unfold validateBundle mapDirectory
  rw [hSafe]
  simp only [Except.map, bind, Except.bind]
  rw [hDir, hDirBefore, hNonempty _ (by decide), hNonempty _ (by decide), hNonempty _ (by decide),
    hManifest, hArtifact, hParsed, hParsedBefore]
  dsimp only
  rw [resolveImagePath_occupancyName, resolveImagePath_occupancyName, hNonempty _ (by decide),
    hFile _ (by decide)]

section Publish

theorem rename_file_inside (source target : FilePath) (hName : name ≠ "..") :
    (fs.rename source target).file (target ++ [name]) = fs.file (source ++ [name]) := by
  unfold FileSystem.rename FileSystem.place
  dsimp only
  rw [if_pos (isUnder_append target hName), normalize_append_singleton target hName,
    List.drop_left]

theorem rename_file_self (source target : FilePath) :
    (fs.rename source target).file target = fs.file source := by
  unfold FileSystem.rename FileSystem.place
  dsimp only
  rw [if_pos (isUnder_self target), List.drop_length, List.append_nil]

theorem rename_dir_self (source target : FilePath) :
    (fs.rename source target).isDir target = true := by
  unfold FileSystem.rename FileSystem.place
  dsimp only
  rw [if_pos (isUnder_self target)]
  exact decide_eq_true rfl

theorem rename_outside {source target : FilePath} (hSource : isUnder source path = false)
    (hTarget : isUnder target path = false) :
    (fs.rename source target).file path = fs.file path ∧
      (fs.rename source target).isDir path = fs.isDir path :=
  ⟨((sameOutside_place _ target _).file path hTarget).trans
      ((sameOutside_remove fs source).file path hSource),
    ((sameOutside_place _ target _).dir path hTarget).trans
      ((sameOutside_remove fs source).dir path hSource)⟩

theorem Ready.publishedFrom (h : Ready lib root mapId fs) :
    PublishedFrom lib root fs (fs.rename (stagingDir root mapId) (root ++ [mapId])) mapId := by
  have hFile : ∀ name, name ≠ ".." →
      (fs.rename (stagingDir root mapId) (root ++ [mapId])).file (root ++ [mapId] ++ [name]) =
        fs.file (root ++ [stagingDirname] ++ [mapId] ++ [name]) := fun name hName =>
    rename_file_inside _ _ hName
  constructor
  case bundled =>
    refine ⟨h.safe, rename_dir_self _ _, fun hNames => ?_⟩
    obtain ⟨info, hInfo⟩ := h.complete
    exact ⟨info, validateBundle_moved hInfo (rename_dir_self _ _) hFile hNames⟩
  case posegraph =>
    rw [hFile _ (by decide)]
    exact h.posegraph
  case data =>
    rw [hFile _ (by decide)]
    exact h.data
  case occupancy =>
    rw [hFile _ (by decide)]
    exact h.occupancy
  case yaml =>
    rw [hFile _ (by decide)]
    exact h.yaml

/-- Publishing a staged directory is no more than a migration may do. -/
theorem Ready.migrates (h : Ready lib root mapId fs) (hTidy : RootTidy root fs) :
    Migrates lib root fs (fs.rename (stagingDir root mapId) (root ++ [mapId])) := by
  have hMapId := isMapName_of_safe h.safe
  have hOther : ∀ name, name ≠ mapId →
      (fs.rename (stagingDir root mapId) (root ++ [mapId])).file (root ++ [name]) =
          fs.file (root ++ [name]) ∧
        (fs.rename (stagingDir root mapId) (root ++ [mapId])).isDir (root ++ [name]) =
          fs.isDir (root ++ [name]) := fun name hNe =>
    rename_outside (not_isUnder_staging_root hMapId.dotdot) (Bool.eq_false_iff.mpr fun hUnder =>
      hNe (eq_of_isUnder_sibling hMapId.dotdot hUnder).symm)
  constructor
  case tidy =>
    refine ⟨fun name hIsDir => ?_, ((hOther _ hMapId.dotdot.symm).1).trans hTidy.parent⟩
    by_cases hName : name = mapId
    · subst hName
      exact (rename_file_self _ _).trans h.staged
    · rw [(hOther name hName).2] at hIsDir
      exact ((hOther name hName).1).trans (hTidy.sorted name hIsDir)
  case kept =>
    intro name data hFile
    have hName : name ≠ mapId := by
      rintro rfl
      exact nomatch h.noFile.symm.trans hFile
    exact .inl (((hOther name hName).1).trans hFile)
  case fresh =>
    intro name data hFile
    by_cases hName : name = mapId
    · subst hName
      exact nomatch ((rename_file_self _ _).trans h.staged).symm.trans hFile
    · exact ((hOther name hName).1).symm.trans hFile
  case backup =>
    intro name data hFile
    refine (rename_outside (not_isUnder_staging_backup hMapId.dotdot) ?_).1.trans hFile
    exact Bool.eq_false_iff.mpr fun hUnder =>
      hMapId.backup (eq_of_isUnder_backup hMapId.dotdot hUnder)
  case dirs =>
    intro name _ hIsDir
    have hName : name ≠ mapId := by
      rintro rfl
      exact nomatch h.noDir.symm.trans hIsDir
    exact ((hOther name hName).2).trans hIsDir
  case maps =>
    intro name hMap hIsDir path hUnder
    have hName : name ≠ mapId := by
      rintro rfl
      exact nomatch h.noDir.symm.trans hIsDir
    refine (rename_outside (hMap.not_isUnder_staging hMapId.dotdot hUnder) ?_).1
    exact Bool.eq_false_iff.mpr fun hOwn => hName
      (eq_of_isUnder hMap.dotdot hMapId.dotdot hUnder hOwn)
  case published =>
    intro name _ hNone hIsDir
    by_cases hName : name = mapId
    · subst hName
      exact h.publishedFrom
    · rw [(hOther name hName).2, hNone] at hIsDir
      cases hIsDir
  case outside =>
    intro path hPath
    have hNot : ∀ part, part ≠ ".." → isUnder (root ++ [part]) path = false := fun part hPart =>
      Bool.eq_false_iff.mpr fun hUnder =>
        Bool.false_ne_true (hPath.symm.trans (isUnder_of_append hPart hUnder))
    refine (rename_outside (Bool.eq_false_iff.mpr fun hUnder => ?_) (hNot _ hMapId.dotdot)).1
    exact Bool.false_ne_true ((hNot stagingDirname (by decide)).symm.trans
      (isUnder_of_append hMapId.dotdot hUnder))

end Publish

/-! ## The build -/

section Build

variable {A : FileSystem → Prop} {faults : MigrationFaults} {fill : FillFaults} {data : Bytes}
  {held : List (String × Bytes)} {X : FileSystem → Prop}

/-- The staging directory of a build holds these files. -/
structure Staged (root : FilePath) (mapId : String) (fs : FileSystem)
    (held : List (String × Bytes)) (next : FileSystem) : Prop where
  stages : Stages root mapId fs next
  self : next.file (stagingDir root mapId) = none
  held : ∀ entry ∈ held, next.file (stagingDir root mapId ++ [entry.1]) = some entry.2

theorem Staged.write (h : Staged root mapId fs held next) (hName : name ≠ "..")
    (hNew : name ∉ held.map (·.1)) (data : Bytes) :
    Staged root mapId fs ((name, data) :: held)
      (next.write (stagingDir root mapId ++ [name]) data) where
  stages := h.stages.write (isUnder_append _ hName) data
  self := by
    rw [FileSystem.file_write_of_ne _ (by simp)]
    exact h.self
  held entry hMem := by
    rcases List.mem_cons.mp hMem with rfl | hOld
    · exact FileSystem.file_write_self _ _ _
    · have hNe : entry.1 ≠ name := by
        rintro rfl
        exact hNew (List.mem_map_of_mem hOld)
      rw [FileSystem.file_write_of_ne _ (by simpa using hNe)]
      exact h.held entry hOld

theorem fillFile_guarantees (hX : ∀ fs data, A fs → X (fs.write path data)) :
    Guarantees A (fillFile fill path data) X fun _ next =>
      ∃ fs, A fs ∧ next = fs.write path data := by
  unfold fillFile
  refine Guarantees.bind Guarantees.operation fun _ => ?_
  refine Guarantees.bind (Guarantees.change (B := fun _ next => ∃ fs, A fs ∧
    next = fs.write path []) fun fs hState => ⟨hX fs [] hState, fs, hState, rfl⟩) fun _ => ?_
  refine Guarantees.bind (Guarantees.change (B := fun _ next => ∃ fs, A fs ∧ next = fs.write path
    (if fill.write = .fine then data else data.take fill.written)) ?_) fun _ => ?_
  · rintro _ ⟨fs, hState, rfl⟩
    rw [fs.write_write]
    exact ⟨hX fs _ hState, fs, hState, rfl⟩
  · cases hWrite : fill.write with
    | fine => exact Guarantees.pure fun next hState => hState
    | fails => exact Guarantees.raise
    | crashes => exact Guarantees.raise

/-- A file in the staging directory is filled. -/
theorem fillFile_staged (hName : name ≠ "..") (hNew : name ∉ held.map (·.1)) :
    Guarantees (Staged root mapId fs held) (fillFile fill (stagingDir root mapId ++ [name]) data)
      (Stages root mapId fs) fun _ => Staged root mapId fs ((name, data) :: held) := by
  refine (fillFile_guarantees fun next data hState =>
    hState.stages.write (isUnder_append _ hName) data).post ?_
  rintro _ _ ⟨next, hState, rfl⟩
  exact hState.write hName hNew data

/-- A file is copied into the staging directory. -/
theorem copyFile_staged {source : FilePath} (hName : name ≠ "..") (hNew : name ∉ held.map (·.1)) :
    Guarantees (Staged root mapId fs held)
      (copyFile fill source (stagingDir root mapId ++ [name])) (Stages root mapId fs)
      fun _ next => ∃ data, (isUnder (stagingDir root mapId) source = false →
        fs.file source = some data) ∧ Staged root mapId fs ((name, data) :: held) next := by
  unfold copyFile
  refine Guarantees.get fun s hState => ?_
  cases hSource : s.now.file source with
  | none => exact Guarantees.raise
  | some data =>
    refine ((fillFile_staged hName hNew).pre fun _ hNow => ?_).post fun _ next hNext =>
      ⟨data, fun hOutside => ?_, hNext⟩
    · rw [hNow]
      exact hState
    · rw [← hState.stages.file source hOutside]
      exact hSource

theorem file_eq_none_of_isFile (h : fs.isFile path = false) : fs.file path = none := by
  unfold FileSystem.isFile at h
  simpa using h

/-- An earlier staging directory is removed from the staging area alone. -/
theorem clearStaging_guarantees :
    Guarantees (fun next => next = fs) (clearStaging root mapId faults) (Stages root mapId fs)
      fun _ => Staged root mapId fs [] := by
  unfold clearStaging
  refine Guarantees.get fun s hNow => ?_
  rw [hNow]
  split
  · exact Guarantees.raise
  · rename_i hFile
    split
    · unfold removeTree
      refine Guarantees.bind (Guarantees.change (B := fun _ => Stages root mapId fs) ?_) fun _ => ?_
      · rintro next rfl
        have hLeft := Stages.of_sameOutside
          (sameOutside_replaceUnder next (stagingDir root mapId) faults.left)
        exact ⟨hLeft, hLeft⟩
      · refine Guarantees.bind Guarantees.operation fun _ => ?_
        refine Guarantees.change fun next hState => ?_
        have hGone := hState.trans (Stages.of_sameOutside
          (sameOutside_remove next (stagingDir root mapId)))
        exact ⟨hGone, hGone, if_pos (isUnder_self _), nofun⟩
    · refine Guarantees.pure ?_
      rintro _ rfl
      exact ⟨Stages.refl _ _ _, file_eq_none_of_isFile (Bool.eq_false_iff.mpr hFile), nofun⟩

/-- Making the staging directory or its parent. -/
theorem Staged.mkdir (h : Staged root mapId fs [] next)
    (hPath : isUnder (stagingDir root mapId) path = true ∨
      (path = root ++ [stagingDirname] ∧ fs.file path = none)) :
    Staged root mapId fs [] (next.mkdir path) where
  stages := by
    refine ⟨h.stages.file, fun other hOther => ?_⟩
    by_cases hSame : other = path
    · subst hSame
      rcases hPath with hUnder | hArea
      · exact absurd (hOther.symm.trans hUnder) Bool.false_ne_true
      · exact .inr hArea
    · have hKept : (next.mkdir path).isDir other = next.isDir other :=
        Function.update_of_ne hSame ..
      rw [hKept]
      exact h.stages.dir other hOther
  self := h.self
  held := nofun

/-- A clean staging directory is made in the staging area alone. -/
theorem makeStaging_guarantees (hName : mapId ≠ "..") :
    Guarantees (fun next => next = fs) (makeStaging root mapId faults) (Stages root mapId fs)
      fun _ => Staged root mapId fs [] := by
  unfold makeStaging
  refine Guarantees.bind clearStaging_guarantees fun _ => ?_
  refine Guarantees.bind Guarantees.operation fun _ => ?_
  refine Guarantees.get fun s hState => ?_
  split
  · exact Guarantees.raise
  · rename_i hArea
    have hNone : fs.file (root ++ [stagingDirname]) = none := by
      rw [← hState.stages.file _ (not_isUnder_staging_root hName)]
      exact file_eq_none_of_isFile (Bool.eq_false_iff.mpr hArea)
    refine Guarantees.bind (Guarantees.change (B := fun _ => Staged root mapId fs []) ?_)
      fun _ => Guarantees.change fun next hNext => ?_
    · rintro _ rfl
      have hMade := hState.mkdir (.inr ⟨rfl, hNone⟩)
      exact ⟨hMade.stages, hMade⟩
    · have hMade := hNext.mkdir (.inl (isUnder_self _))
      exact ⟨hMade.stages, hMade⟩

/-- What the staging directory holds before its manifest. -/
structure Artifacts (root : FilePath) (mapId : String) (fs : FileSystem) (image : FilePath)
    (next : FileSystem) : Prop where
  staged : Staged root mapId fs [] next
  posegraph : ∃ data, fs.file (legacyPath root mapId "posegraph") = some data ∧
    next.file (stagingDir root mapId ++ [posegraphPosegraphName]) = some data
  data : ∃ data, fs.file (legacyPath root mapId "data") = some data ∧
    next.file (stagingDir root mapId ++ [posegraphDataName]) = some data
  occupancy : isUnder (stagingDir root mapId) image = false → ∃ data, fs.file image = some data ∧
    next.file (stagingDir root mapId ++ [occupancyName]) = some data
  yaml : ∃ rewritten, rewrittenYaml ((fs.file (legacyPath root mapId "yaml")).getD []) =
    .ok rewritten ∧ next.file (stagingDir root mapId ++ [mapYamlName]) = some rewritten

theorem Artifacts.write {image : FilePath} (h : Artifacts root mapId fs image next)
    (data : Bytes) :
    Artifacts root mapId fs image (next.write (stagingDir root mapId ++ [manifestName]) data) := by
  have hOther : ∀ name, name ≠ manifestName →
      (next.write (stagingDir root mapId ++ [manifestName]) data).file
        (stagingDir root mapId ++ [name]) = next.file (stagingDir root mapId ++ [name]) :=
    fun name hName => FileSystem.file_write_of_ne _ (by simpa using hName) _
  obtain ⟨hStaged, hPosegraph, hData, hOccupancy, hYaml⟩ := h
  refine ⟨⟨hStaged.stages.write (isUnder_append _ (by decide)) data, ?_, nofun⟩, ?_, ?_, ?_, ?_⟩
  · rw [FileSystem.file_write_of_ne _ (by simp)]
    exact hStaged.self
  · rw [hOther _ (by decide)]
    exact hPosegraph
  · rw [hOther _ (by decide)]
    exact hData
  · rw [hOther _ (by decide)]
    exact hOccupancy
  · rw [hOther _ (by decide)]
    exact hYaml

theorem stageArtifacts_guarantees {image : FilePath} (hName : mapId ≠ "..") :
    Guarantees (Staged root mapId fs []) (stageArtifacts root mapId faults image)
      (Stages root mapId fs) fun _ => Artifacts root mapId fs image := by
  unfold stageArtifacts
  refine Guarantees.bind (copyFile_staged (by decide) (by decide)) fun _ => ?_
  refine Guarantees.of_exists fun posegraph => Guarantees.assume fun hPosegraph => ?_
  refine Guarantees.bind (copyFile_staged (by decide)
    (by simp only [List.map_cons, List.map_nil]; decide)) fun _ => ?_
  refine Guarantees.of_exists fun data => Guarantees.assume fun hData => ?_
  refine Guarantees.bind (copyFile_staged (by decide)
    (by simp only [List.map_cons, List.map_nil]; decide)) fun _ => ?_
  refine Guarantees.of_exists fun occupancy => Guarantees.assume fun hOccupancy => ?_
  refine Guarantees.bind Guarantees.operation fun _ => ?_
  refine Guarantees.get fun s hState => ?_
  have hLegacy : ∀ extension, isUnder (stagingDir root mapId) (legacyPath root mapId extension) =
      false := fun extension => not_isUnder_staging_root hName
  rw [hState.stages.file _ (hLegacy "yaml")]
  refine Guarantees.bind (Guarantees.lift (B := fun yaml next => rewrittenYaml
    ((fs.file (legacyPath root mapId "yaml")).getD []) = .ok yaml ∧ Staged root mapId fs
      [(occupancyName, occupancy), (posegraphDataName, data), (posegraphPosegraphName, posegraph)]
      next) ?_) fun yaml => Guarantees.assume fun hYaml => ?_
  · rintro yaml hYaml _ rfl
    exact ⟨hYaml, hState⟩
  refine (fillFile_staged (by decide) (by simp only [List.map_cons, List.map_nil]; decide)).post ?_
  rintro _ next hNext
  exact ⟨⟨hNext.stages, hNext.self, nofun⟩,
    ⟨posegraph, hPosegraph (hLegacy _), hNext.held (posegraphPosegraphName, posegraph) (by simp)⟩,
    ⟨data, hData (hLegacy _), hNext.held (posegraphDataName, data) (by simp)⟩,
    fun hOutside => ⟨occupancy, hOccupancy hOutside,
      hNext.held (occupancyName, occupancy) (by simp)⟩,
    ⟨yaml, hYaml, hNext.held (mapYamlName, yaml) (by simp)⟩⟩

theorem stageManifest_guarantees {image : FilePath} {mtime : PyFloat} :
    Guarantees (Artifacts root mapId fs image) (stageManifest lib root mapId faults mtime)
      (Stages root mapId fs)
      fun _ next => Artifacts root mapId fs image next ∧
        Complete lib next (root ++ [stagingDirname]) mapId := by
  unfold stageManifest
  refine Guarantees.bind Guarantees.operation fun _ => ?_
  refine Guarantees.get fun s hState => ?_
  refine Guarantees.bind (Guarantees.lift (B := fun _ => Artifacts root mapId fs image) ?_)
    fun origin => ?_
  · rintro _ _ _ rfl
    exact hState
  refine Guarantees.bind (Guarantees.lift (B := fun _ => Artifacts root mapId fs image)
    fun _ _ _ hNow => hNow) fun manifest => ?_
  refine Guarantees.bind (B := fun _ => Artifacts root mapId fs image)
    ((fillFile_guarantees fun next data hNow => (hNow.write data).staged.stages).post ?_)
    fun _ => ?_
  · rintro _ _ ⟨next, hNow, rfl⟩
    exact hNow.write _
  refine Guarantees.bind Guarantees.operation fun _ => ?_
  refine Guarantees.get fun t hNow => ?_
  refine Guarantees.bind (Guarantees.lift (B := fun _ next => Artifacts root mapId fs image next ∧
    Complete lib next (root ++ [stagingDirname]) mapId) ?_) fun _ => Guarantees.pure fun _ h => h
  rintro info hInfo _ rfl
  cases hValid : validateBundle lib t.now (root ++ [stagingDirname]) mapId with
  | error error =>
    rw [hValid] at hInfo
    cases hInfo
  | ok info => exact ⟨hNow, info, hValid⟩

theorem cleanUp_guarantees :
    Guarantees (Stages root mapId fs) (cleanUp root mapId faults) (Stages root mapId fs)
      fun _ _ => True := by
  have hLeft : ∀ next, Stages root mapId fs next →
      Stages root mapId fs (next.replaceUnder (stagingDir root mapId) faults.cleanupLeft) ∧ True :=
    fun next hState => ⟨hState.trans (.of_sameOutside (sameOutside_replaceUnder next _ _)), trivial⟩
  unfold cleanUp
  cases faults.cleanup with
  | fine =>
    exact Guarantees.change fun next hState =>
      ⟨hState.trans (.of_sameOutside (sameOutside_remove next _)), trivial⟩
  | fails => exact Guarantees.change hLeft
  | crashes =>
    exact Guarantees.bind (B := fun _ _ => True) (Guarantees.change hLeft) fun _ => Guarantees.raise

/-- Whatever fails, only the staging area changes; without an exception the result is complete. -/
theorem stageBundle_guarantees {image : FilePath} {mtime : PyFloat} (hName : mapId ≠ "..") :
    Guarantees (fun next => next = fs) (stageBundle lib root mapId faults mtime image)
      (Stages root mapId fs) fun error next => error = none → Artifacts root mapId fs image next ∧
        Complete lib next (root ++ [stagingDirname]) mapId := by
  unfold stageBundle
  refine Guarantees.bind (makeStaging_guarantees hName) fun _ => ?_
  refine Guarantees.catching ?_ (fun _ hState => hState.stages) fun error => ?_
  · refine Guarantees.bind (stageArtifacts_guarantees hName) fun _ => ?_
    refine Guarantees.bind stageManifest_guarantees fun _ => ?_
    exact Guarantees.pure fun _ hDone _ => hDone
  · refine Guarantees.bind cleanUp_guarantees fun _ => ?_
    exact Guarantees.pure fun _ _ hNone => nomatch hNone

/-- A staged directory is ready when its legacy files were complete and its place is free. -/
theorem Artifacts.ready {image : FilePath} (h : Artifacts root mapId fs image next)
    (hSafe : safeBasename mapId = .ok mapId) (hNoDir : fs.isDir (root ++ [mapId]) = false)
    (hNoFile : fs.file (root ++ [mapId]) = none)
    (hCore : ∀ extension ∈ legacyCoreExtensions, ∃ data, data ≠ [] ∧
      fs.file (legacyPath root mapId extension) = some data)
    (hImage : legacyImagePath lib fs root mapId = .ok (some image))
    (hComplete : Complete lib next (root ++ [stagingDirname]) mapId) :
    Ready lib root mapId next := by
  have hMap := isMapName_of_safe hSafe
  have hRoot : ∀ name, next.file (root ++ [name]) = fs.file (root ++ [name]) := fun name =>
    h.staged.stages.file _ (not_isUnder_staging_root hMap.dotdot)
  have hLegacy : ∀ extension, next.file (legacyPath root mapId extension) =
      fs.file (legacyPath root mapId extension) := fun extension => hRoot _
  constructor
  case safe => exact hSafe
  case noDir =>
    rcases h.staged.stages.dir _ (not_isUnder_staging_root hMap.dotdot) with hSame | ⟨hArea, -⟩
    · exact hSame.trans hNoDir
    · exact absurd (List.singleton_injective (List.append_cancel_left hArea)) hMap.staging
  case noFile => exact (hRoot _).trans hNoFile
  case staged => exact h.staged.self
  case complete => exact hComplete
  case posegraph =>
    obtain ⟨data, hData, hStaged⟩ := h.posegraph
    obtain ⟨legacy, hNonempty, hFile⟩ := hCore "posegraph" (by decide)
    cases hFile.symm.trans hData
    exact ⟨data, hNonempty, (hLegacy _).trans hData, hStaged⟩
  case data =>
    obtain ⟨data, hData, hStaged⟩ := h.data
    obtain ⟨legacy, hNonempty, hFile⟩ := hCore "data" (by decide)
    cases hFile.symm.trans hData
    exact ⟨data, hNonempty, (hLegacy _).trans hData, hStaged⟩
  case occupancy =>
    intro name hDeclared
    rw [legacyImagePath_congr (hLegacy "yaml"), hImage] at hDeclared
    cases hDeclared
    obtain ⟨data, hData, hStaged⟩ := h.occupancy (not_isUnder_staging_root hMap.dotdot)
    exact ⟨data, (hRoot _).trans hData, hStaged⟩
  case yaml =>
    obtain ⟨rewritten, hRewritten, hStaged⟩ := h.yaml
    obtain ⟨legacy, -, hFile⟩ := hCore "yaml" (by decide)
    rw [hFile] at hRewritten
    exact ⟨legacy, rewritten, (hLegacy _).trans hFile, hRewritten, hStaged⟩

theorem nonempty_of_missing {image : Option FilePath} (h : missingLegacy root mapId fs image = []) :
    (∀ extension ∈ legacyCoreExtensions, ∃ data, data ≠ [] ∧
      fs.file (legacyPath root mapId extension) = some data) ∧ ∃ path, image = some path := by
  obtain ⟨hCore, hImage⟩ := List.append_eq_nil_iff.mp h
  constructor
  · intro extension hMem
    have hFilter := List.filter_eq_nil_iff.mp (List.map_eq_nil_iff.mp hCore)
      (legacyPath root mapId extension) (List.mem_map_of_mem hMem)
    unfold FileSystem.isNonempty at hFilter
    cases hFile : fs.file (legacyPath root mapId extension) with
    | none => simp [hFile] at hFilter
    | some data =>
      refine ⟨data, ?_, rfl⟩
      rintro rfl
      simp [hFile] at hFilter
  · cases image with
    | none => simp at hImage
    | some path => exact ⟨path, rfl⟩

/-- A map is built, or only the staging area has changed. -/
theorem buildNewBundle_guarantees {mtime : PyFloat} {dryRun : Bool} (hTidy : RootTidy root fs)
    (hSafe : safeBasename mapId = .ok mapId) :
    Guarantees (fun next => next = fs) (buildNewBundle lib root mapId mtime dryRun faults)
      (Migrates lib root fs) fun outcome next => Migrates lib root fs next ∧
        (outcome.isSafe = true → Bundled lib root next mapId) := by
  have hName := safeBasename_ne_dotdot hSafe
  unfold buildNewBundle
  refine Guarantees.bind Guarantees.operation fun _ => ?_
  refine Guarantees.get fun s hNow => ?_
  rw [hNow]
  split
  · cases hValid : validateBundle lib fs root mapId with
    | ok info =>
      refine Guarantees.pure ?_
      rintro _ rfl
      exact ⟨.refl hTidy, fun _ => ⟨hSafe, (validateBundle_ok hValid).2, fun _ => ⟨info, hValid⟩⟩⟩
    | error error =>
      dsimp only
      split
      · refine Guarantees.pure ?_
        rintro _ rfl
        exact ⟨.refl hTidy, nofun⟩
      · exact Guarantees.raise
  · rename_i hFree
    unfold FileSystem.exists? at hFree
    rw [Bool.or_eq_true, not_or, Bool.not_eq_true, Bool.not_eq_true] at hFree
    have hNoFile := file_eq_none_of_isFile hFree.2
    refine Guarantees.bind (Guarantees.lift (B := fun image next =>
      legacyImagePath lib fs root mapId = .ok image ∧ next = fs) fun image hImage _ hState =>
        ⟨hImage, hState⟩) fun image => ?_
    refine Guarantees.of_each fun _ ⟨hImage, hState⟩ => ?_
    subst hState
    split
    · refine Guarantees.pure ?_
      rintro _ rfl
      exact ⟨.refl hTidy, nofun⟩
    · rename_i hMissing
      obtain ⟨hCore, path, rfl⟩ := nonempty_of_missing (not_not.mp hMissing)
      split
      · refine Guarantees.pure ?_
        rintro _ rfl
        exact ⟨.refl hTidy, nofun⟩
      · refine Guarantees.bind (((stageBundle_guarantees hName).conseq (fun _ hState => hState)
          (fun next hStages => hStages.migrates hName hTidy) fun _ _ hDone => hDone).and_state ?_)
          fun error => ?_
        · rintro _ rfl
          exact .refl hTidy
        · cases error with
          | some error =>
            exact Guarantees.pure fun next hDone => ⟨hDone.2, nofun⟩
          | none =>
            refine Guarantees.bind Guarantees.operation fun _ => ?_
            refine Guarantees.bind (Guarantees.change (B := fun _ next => Migrates lib root _ next ∧
              Bundled lib root next mapId) ?_) fun _ => Guarantees.pure fun _ hDone =>
                ⟨hDone.1, fun _ => hDone.2⟩
            rintro next ⟨hDone, hMigrates⟩
            obtain ⟨hArtifacts, hComplete⟩ := hDone rfl
            have hReady : Ready lib root mapId next :=
              hArtifacts.ready hSafe hFree.1 hNoFile hCore hImage hComplete
            exact ⟨hMigrates.trans (hReady.migrates hMigrates.tidy),
              hMigrates.trans (hReady.migrates hMigrates.tidy), hReady.publishedFrom.bundled⟩

end Build

/-! ## Archiving -/

section Archive

variable {faults : MigrationFaults} {paths : List FilePath}

/-- The backup directory is made. -/
theorem migrates_mkdir_backup (hTidy : RootTidy root fs)
    (hNone : fs.file (root ++ [legacyBackupDirname]) = none) :
    Migrates lib root fs (fs.mkdir (root ++ [legacyBackupDirname])) := by
  have hDir : ∀ name, name ≠ legacyBackupDirname →
      (fs.mkdir (root ++ [legacyBackupDirname])).isDir (root ++ [name]) =
        fs.isDir (root ++ [name]) := by
    intro name hName
    exact Function.update_of_ne (by simpa using hName) ..
  constructor
  case tidy =>
    refine ⟨fun name hIsDir => ?_, hTidy.parent⟩
    by_cases hName : name = legacyBackupDirname
    · subst hName
      exact hNone
    · rw [hDir name hName] at hIsDir
      exact hTidy.sorted name hIsDir
  case kept => exact fun _ _ hFile => .inl hFile
  case fresh => exact fun _ _ hFile => hFile
  case backup => exact fun _ _ hFile => hFile
  case dirs => exact fun name hName hIsDir => (hDir name hName.backup).trans hIsDir
  case maps => exact fun _ _ _ _ _ => rfl
  case published =>
    intro name hName hNone hIsDir
    rw [hDir name hName.backup, hNone] at hIsDir
    cases hIsDir
  case outside => exact fun _ _ => rfl

/-- A file leaves its place for another one. -/
theorem moveFile_file {source target : FilePath} (hNe : target ≠ source) :
    (fs.moveFile source target).file source = none ∧
      (fs.moveFile source target).file target = fs.file source ∧
      ∀ path, path ≠ source → path ≠ target →
        (fs.moveFile source target).file path = fs.file path := by
  refine ⟨Function.update_self .., ?_, fun path hSource hTarget => ?_⟩
  · exact (Function.update_of_ne hNe ..).trans (Function.update_self ..)
  · exact (Function.update_of_ne hSource ..).trans (Function.update_of_ne hTarget ..)

/-- A legacy file of a map that has a bundle is moved to a free place in the backup directory. -/
theorem Migrates.move (h : Migrates lib root fs mid) (hBundled : Bundled lib root mid mapId)
    (hLegacy : LegacyFile lib root fs mapId name)
    (hFree : mid.file (root ++ [legacyBackupDirname] ++ [name]) = none) :
    Migrates lib root fs
        (mid.moveFile (root ++ [name]) (root ++ [legacyBackupDirname] ++ [name])) ∧
      Bundled lib root (mid.moveFile (root ++ [name]) (root ++ [legacyBackupDirname] ++ [name]))
        mapId := by
  have hNe : root ++ [legacyBackupDirname] ++ [name] ≠ root ++ [name] := by simp
  obtain ⟨hSource, hTarget, hElse⟩ := @moveFile_file mid _ _ hNe
  generalize hNext : mid.moveFile (root ++ [name]) (root ++ [legacyBackupDirname] ++ [name]) = next
    at hSource hTarget hElse
  have hDir : next.isDir = mid.isDir := by rw [← hNext]; rfl
  have hRoot : ∀ other, other ≠ name → next.file (root ++ [other]) = mid.file (root ++ [other]) :=
    fun other hOther => hElse _ (by simpa using hOther) (by simp)
  have hBackup : ∀ other, other ≠ name → next.file (root ++ [legacyBackupDirname] ++ [other]) =
      mid.file (root ++ [legacyBackupDirname] ++ [other]) :=
    fun other hOther => hElse _ (by simp) (by simpa using hOther)
  have hMaps : ∀ other, IsMapName other → mid.isDir (root ++ [other]) = true →
      ∀ path, isUnder (root ++ [other]) path = true → next.file path = mid.file path := by
    intro other hOther hIsDir path hUnder
    by_cases hPath : path = root ++ [name]
    · subst hPath
      have hSame := eq_of_isUnder_sibling hOther.dotdot hUnder
      subst hSame
      rw [hSource, h.tidy.sorted other hIsDir]
    · refine hElse path hPath ?_
      rintro rfl
      exact hOther.backup (eq_of_isUnder_backup hOther.dotdot hUnder)
  have hStill : ∀ id, Bundled lib root mid id → Bundled lib root next id := fun id hId =>
    hId.congr ((congrFun hDir _).trans hId.dir) (hMaps id (isMapName_of_safe hId.safe) hId.dir)
  refine ⟨?_, hStill _ hBundled⟩
  have hRootFile : ∀ other data, next.file (root ++ [other]) = some data →
      mid.file (root ++ [other]) = some data := by
    intro other data hFile
    by_cases hOther : other = name
    · subst hOther
      exact nomatch hSource.symm.trans hFile
    · exact (hRoot other hOther).symm.trans hFile
  constructor
  case tidy =>
    constructor
    · intro other hIsDir
      rw [hDir] at hIsDir
      have hNone := h.tidy.sorted other hIsDir
      cases hFile : next.file (root ++ [other]) with
      | none => rfl
      | some data => exact nomatch hNone.symm.trans (hRootFile other data hFile)
    · cases hFile : next.file (root ++ [".."]) with
      | none => rfl
      | some data => exact nomatch h.tidy.parent.symm.trans (hRootFile _ data hFile)
  case kept =>
    intro other data hFile
    rcases h.kept other data hFile with hKept | ⟨hMoved, id, hId, hLegacyId⟩
    · by_cases hOther : other = name
      · subst hOther
        exact .inr ⟨hTarget.trans hKept, mapId, hStill _ hBundled, hLegacy⟩
      · exact .inl ((hRoot other hOther).trans hKept)
    · by_cases hOther : other = name
      · subst hOther
        exact nomatch hFree.symm.trans hMoved
      · exact .inr ⟨(hBackup other hOther).trans hMoved, id, hStill id hId, hLegacyId⟩
  case fresh => exact fun other data hFile => h.fresh other data (hRootFile other data hFile)
  case backup =>
    intro other data hFile
    have hMoved := h.backup other data hFile
    by_cases hOther : other = name
    · subst hOther
      exact nomatch hFree.symm.trans hMoved
    · exact (hBackup other hOther).trans hMoved
  case dirs => exact fun other hOther hIsDir => (congrFun hDir _).trans (h.dirs other hOther hIsDir)
  case maps =>
    intro other hOther hIsDir path hUnder
    exact (hMaps other hOther (h.dirs other hOther hIsDir) path hUnder).trans
      (h.maps other hOther hIsDir path hUnder)
  case published =>
    intro other hOther hNone hIsDir
    rw [hDir] at hIsDir
    exact (h.published other hOther hNone hIsDir).congr ((congrFun hDir _).trans hIsDir)
      (hMaps other hOther hIsDir)
  case outside =>
    intro path hPath
    rw [← h.outside path hPath]
    by_cases hSame : path = root ++ [name]
    · subst hSame
      have hDotdot : name = ".." := by
        by_contra hName
        exact Bool.false_ne_true (hPath.symm.trans (isUnder_append root hName))
      subst hDotdot
      rw [hSource, h.tidy.parent]
    · refine hElse path hSame ?_
      rintro rfl
      exact Bool.false_ne_true (hPath.symm.trans isUnder_root_backup)

/-- Some of the legacy files of a map with a bundle are moved. -/
theorem moveAll_guarantees {moved : ℕ}
    (hPaths : ∀ path ∈ paths, ∃ name, path = root ++ [name] ∧ LegacyFile lib root fs mapId name) :
    Guarantees (fun next => Migrates lib root fs next ∧ Bundled lib root next mapId)
      (moveAll root faults paths moved) (Migrates lib root fs) fun _ => Migrates lib root fs := by
  induction paths generalizing moved with
  | nil => exact Guarantees.pure fun _ hState => hState.1
  | cons path paths ih =>
    obtain ⟨⟨name, rfl, hLegacy⟩, hRest⟩ := List.forall_mem_cons.mp hPaths
    unfold moveAll
    dsimp only
    rw [List.getLast?_concat, Option.getD_some]
    refine Guarantees.get fun s hState => ?_
    split
    · refine (ih hRest).pre ?_
      rintro _ rfl
      exact hState
    · rename_i hFree
      unfold FileSystem.exists? at hFree
      rw [Bool.or_eq_true, not_or, Bool.not_eq_true, Bool.not_eq_true] at hFree
      refine Guarantees.bind Guarantees.operation fun _ => ?_
      refine Guarantees.bind (Guarantees.change ?_) fun _ => ih hRest
      rintro _ rfl
      have hMoved := hState.1.move hState.2 hLegacy (file_eq_none_of_isFile hFree.2)
      exact ⟨hMoved.1, hMoved⟩

theorem mem_setPath {key : String} {entries : List (String × FilePath)} {entry : String × FilePath}
    (h : entry ∈ setPath key path entries) : entry.2 = path ∨ entry ∈ entries := by
  induction entries with
  | nil =>
    rw [setPath, List.mem_singleton] at h
    exact .inl (congrArg (·.2) h)
  | cons first entries ih =>
    unfold setPath at h
    split at h
    · rcases List.mem_cons.mp h with rfl | hMem
      · exact .inl rfl
      · exact .inr (List.mem_cons_of_mem _ hMem)
    · rcases List.mem_cons.mp h with rfl | hMem
      · exact .inr List.mem_cons_self
      · exact (ih hMem).imp_right (List.mem_cons_of_mem _)

/-- The files that are archived are legacy files of the map in its root. -/
theorem presentLegacy_legacyFile {present : List FilePath}
    (h : presentLegacy lib fs root mapId = .ok present) :
    ∀ path ∈ present, ∃ name, path = root ++ [name] ∧ LegacyFile lib root fs mapId name := by
  unfold presentLegacy at h
  obtain ⟨image, hImage, h⟩ := ok_of_bind h
  cases h
  intro path hMem
  obtain ⟨entry, hEntry, rfl⟩ := List.mem_map.mp (List.mem_of_mem_filter hMem)
  have hNamed : ∀ extension ∈ "manifest.json" :: "pgm" :: legacyCoreExtensions,
      ∃ name, legacyPath root mapId extension = root ++ [name] ∧
        LegacyFile lib root fs mapId name := fun extension hExtension =>
    ⟨_, rfl, .inl ⟨extension, hExtension, rfl⟩⟩
  have hCore : ∀ entry ∈ (if fs.isFile (legacyPath root mapId "manifest.json") then
      (legacyCoreExtensions.map fun extension => (extension, legacyPath root mapId extension)) ++
        [("manifest.json", legacyPath root mapId "manifest.json")]
      else legacyCoreExtensions.map fun extension => (extension, legacyPath root mapId extension)),
      ∃ name, entry.2 = root ++ [name] ∧ LegacyFile lib root fs mapId name := by
    have hExtensions : ∀ entry ∈ legacyCoreExtensions.map fun extension =>
        (extension, legacyPath root mapId extension),
        ∃ name, entry.2 = root ++ [name] ∧ LegacyFile lib root fs mapId name := by
      intro entry hEntry
      obtain ⟨extension, hExtension, rfl⟩ := List.mem_map.mp hEntry
      exact hNamed extension (List.mem_cons_of_mem _ (List.mem_cons_of_mem _ hExtension))
    intro entry hEntry
    split at hEntry
    · rcases List.mem_append.mp hEntry with hMem | hMem
      · exact hExtensions entry hMem
      · rw [List.mem_singleton.mp hMem]
        exact hNamed "manifest.json" (by simp)
    · exact hExtensions entry hEntry
  split at hEntry
  · rename_i hInRoot
    rcases mem_setPath hEntry with hPath | hMem
    · rw [hPath]
      cases image with
      | none => exact hNamed "pgm" (by simp)
      | some image =>
        rw [Option.getD_some] at hInRoot ⊢
        obtain ⟨hNe, hParent, -⟩ := hInRoot
        have hForm := List.dropLast_append_getLast hNe
        rw [hParent] at hForm
        exact ⟨_, hForm.symm, .inr (by rw [hForm, hImage])⟩
    · exact hCore entry hMem
  · exact hCore entry hEntry

theorem archiveLegacyFiles_guarantees {dryRun : Bool} (hTidy : RootTidy root fs)
    (hBundled : dryRun = false → Bundled lib root fs mapId) :
    Guarantees (fun next => next = fs) (archiveLegacyFiles lib root mapId dryRun faults)
      (Migrates lib root fs) fun _ => Migrates lib root fs := by
  have hSame : ∀ next, next = fs → Migrates lib root fs next := by
    rintro _ rfl
    exact .refl hTidy
  unfold archiveLegacyFiles
  refine Guarantees.bind Guarantees.operation fun _ => ?_
  refine Guarantees.get fun s hNow => ?_
  rw [hNow]
  refine Guarantees.bind (Guarantees.lift (B := fun present next =>
    presentLegacy lib fs root mapId = .ok present ∧ next = fs) fun present hPresent _ hState =>
      ⟨hPresent, hState⟩) fun present => Guarantees.assume fun hPresent => ?_
  split
  · exact Guarantees.pure hSame
  · split
    · exact Guarantees.pure hSame
    · rename_i hDry
      have hId := hBundled (Bool.eq_false_iff.mpr hDry)
      refine Guarantees.bind Guarantees.operation fun _ => ?_
      split
      · exact Guarantees.raise
      · rename_i hFile
        refine Guarantees.bind (Guarantees.change (B := fun _ next => Migrates lib root fs next ∧
          Bundled lib root next mapId) ?_) fun _ => ?_
        · rintro next rfl
          have hMade : Migrates lib root next (next.mkdir (root ++ [legacyBackupDirname])) :=
            migrates_mkdir_backup hTidy (file_eq_none_of_isFile (Bool.eq_false_iff.mpr hFile))
          have hMap := isMapName_of_safe hId.safe
          exact ⟨hMade, hMade, hId.congr (hMade.dirs _ hMap hId.dir) fun _ _ => rfl⟩
        · refine Guarantees.bind (moveAll_guarantees (presentLegacy_legacyFile hPresent))
            fun _ => ?_
          exact Guarantees.pure fun _ hState => hState

end Archive

/-! ## Runs -/

section Runs

variable {run : MigrationRun}

namespace MigrationRun

theorem migrateMap_guarantees (hTidy : RootTidy root fs) (hSafe : safeBasename mapId = .ok mapId) :
    Guarantees (fun next => next = fs) (run.migrateMap lib root mapId) (Migrates lib root fs)
      fun _ => Migrates lib root fs := by
  unfold migrateMap
  refine Guarantees.bind (buildNewBundle_guarantees hTidy hSafe) fun outcome => ?_
  refine Guarantees.of_each fun next ⟨hMigrates, hBundled⟩ => ?_
  dsimp only
  split
  · refine Guarantees.pure ?_
    rintro _ rfl
    exact hMigrates
  · rename_i hGoes
    refine Guarantees.bind (B := fun _ => Migrates lib root fs) ?_
      fun _ => Guarantees.pure fun _ hState => hState
    refine (archiveLegacyFiles_guarantees hMigrates.tidy fun hDry => hBundled ?_).conseq
      (fun _ hState => hState) (fun _ hNext => hMigrates.trans hNext)
      fun _ _ hNext => hMigrates.trans hNext
    cases hOutcome : outcome.isSafe with
    | true => rfl
    | false =>
      rw [hOutcome, hDry] at hGoes
      exact absurd rfl hGoes

theorem migrateMaps_guarantees {mapIds : List String} {changed : ℕ}
    (hSafe : ∀ mapId ∈ mapIds, safeBasename mapId = .ok mapId) :
    Guarantees (Migrates lib root fs) (run.migrateMaps lib root mapIds changed)
      (Migrates lib root fs) fun _ => Migrates lib root fs := by
  induction mapIds generalizing changed with
  | nil => exact Guarantees.pure fun _ hState => hState
  | cons mapId mapIds ih =>
    obtain ⟨hFirst, hRest⟩ := List.forall_mem_cons.mp hSafe
    unfold migrateMaps
    refine Guarantees.bind (B := fun _ => Migrates lib root fs) ?_ fun _ => ih hRest
    refine Guarantees.of_each fun next hNext => ?_
    exact (migrateMap_guarantees hNext.tidy hFirst).conseq (fun _ hState => hState)
      (fun _ hMore => hNext.trans hMore) fun _ _ hMore => hNext.trans hMore

theorem discoverLegacyIds_safe {entries : List String} :
    ∀ mapId ∈ discoverLegacyIds fs root entries, safeBasename mapId = .ok mapId := by
  intro mapId hMem
  unfold discoverLegacyIds at hMem
  rw [List.mem_mergeSort, List.mem_dedup] at hMem
  obtain ⟨name, -, hName⟩ := List.mem_filterMap.mp hMem
  obtain ⟨suffix, -, hId⟩ := Option.bind_eq_some_iff.mp hName
  cases hSafe : safeBasename (name.dropEnd suffix.length).toString with
  | error error =>
    rw [hSafe] at hId
    cases hId
  | ok safe =>
    rw [hSafe] at hId
    cases hId
    have hSame := safeBasename_eq hSafe
    rw [← hSame] at hSafe
    exact hSafe

theorem migrate_guarantees :
    Guarantees (Migrates lib root fs) (run.migrate lib root) (Migrates lib root fs)
      fun _ => Migrates lib root fs := by
  unfold migrate
  refine Guarantees.get fun s hState => ?_
  split
  · refine (migrateMaps_guarantees discoverLegacyIds_safe).pre ?_
    rintro _ rfl
    exact hState
  · refine Guarantees.pure ?_
    rintro _ rfl
    exact hState

end MigrationRun

/-- A preview passes through no other state. -/
theorem MigrationRun.migrate_dryRun (hDry : run.dryRun = true) :
    Guarantees (fun _ => True) (run.migrate lib root) (fun _ => False) fun _ _ => True := by
  have hBuild : ∀ mapId, Guarantees (fun _ => True)
      (buildNewBundle lib root mapId (run.mtime mapId) true (run.faults mapId)) (fun _ => False)
      fun _ _ => True := by
    intro mapId
    unfold buildNewBundle
    refine Guarantees.bind Guarantees.operation fun _ => ?_
    refine Guarantees.get fun s _ => ?_
    split
    · split
      · exact Guarantees.pure fun _ _ => trivial
      · split
        · exact Guarantees.pure fun _ _ => trivial
        · exact Guarantees.raise
    · refine Guarantees.bind (Guarantees.lift (B := fun _ _ => True) fun _ _ _ _ => trivial)
        fun image => ?_
      split
      · exact Guarantees.pure fun _ _ => trivial
      · exact Guarantees.pure fun _ _ => trivial
  have hArchive : ∀ mapId, Guarantees (fun _ => True)
      (archiveLegacyFiles lib root mapId true (run.faults mapId)) (fun _ => False)
      fun _ _ => True := by
    intro mapId
    unfold archiveLegacyFiles
    refine Guarantees.bind Guarantees.operation fun _ => ?_
    refine Guarantees.get fun s _ => ?_
    refine Guarantees.bind (Guarantees.lift (B := fun _ _ => True) fun _ _ _ _ => trivial)
      fun present => ?_
    split
    · exact Guarantees.pure fun _ _ => trivial
    · exact Guarantees.pure fun _ _ => trivial
  have hMaps : ∀ (mapIds : List String) (changed : ℕ), Guarantees (fun _ => True)
      (run.migrateMaps lib root mapIds changed) (fun _ => False) fun _ _ => True := by
    intro mapIds
    induction mapIds with
    | nil => exact fun changed => Guarantees.pure fun _ _ => trivial
    | cons mapId mapIds ih =>
      intro changed
      unfold migrateMaps
      refine Guarantees.bind (B := fun _ _ => True) ?_ fun more => ih _
      unfold migrateMap
      rw [hDry]
      refine Guarantees.bind (hBuild mapId) fun outcome => ?_
      dsimp only
      split
      · exact Guarantees.pure fun _ _ => trivial
      · exact Guarantees.bind (hArchive mapId) fun _ => Guarantees.pure fun _ _ => trivial
  unfold migrate
  refine Guarantees.get fun s _ => ?_
  split
  · exact (hMaps _ _).pre fun _ _ => trivial
  · exact Guarantees.pure fun _ _ => trivial

theorem migrateRuns_adds (runs : List MigrationRun) {s : Recorded FileSystem}
    (h : Migrates lib root fs s.now) :
    Adds (Migrates lib root fs) s (migrateRuns lib root runs s) := by
  induction runs generalizing s with
  | nil => exact adds_refl _ _
  | cons run runs ih =>
    have hRun := (run.migrate_guarantees s h).1
    exact hRun.trans (ih (Guarantees.now_of_adds hRun h))

theorem migrateRuns_dryRun {runs : List MigrationRun} (h : ∀ run ∈ runs, run.dryRun = true)
    (s : Recorded FileSystem) :
    Adds (fun _ => False) s (migrateRuns lib root runs s) := by
  induction runs generalizing s with
  | nil => exact adds_refl _ _
  | cons run runs ih =>
    obtain ⟨hFirst, hRest⟩ := List.forall_mem_cons.mp h
    exact ((run.migrate_dryRun hFirst) s trivial).1.trans (ih hRest _)

/-- In any series of migrations, however they fail or end, every state keeps what the maps are made
of; and previews pass through no other state. `Migrates` relates the first state to each one that a
single operation adds, and it composes, so any number of runs keeps it (`migrateRuns_adds`); a dry
run adds no state (`migrateRuns_dryRun`). -/
theorem migrations_keep_maps (lib : BundleLibrary) (root : FilePath) (fs : FileSystem)
    (hTidy : RootTidy root fs) (runs : List MigrationRun) :
    (∀ next ∈ (migrateRuns lib root runs ⟨fs, []⟩).seen, Migrates lib root fs next) ∧
      ((∀ run ∈ runs, run.dryRun = true) →
        (migrateRuns lib root runs ⟨fs, []⟩).seen = [fs]) := by
  constructor
  · refine (migrateRuns_adds runs (Migrates.refl hTidy)).all fun state hMem => ?_
    rw [List.mem_singleton.mp hMem]
    exact .refl hTidy
  · intro hDry
    obtain ⟨newer, hSeen, hNone⟩ := @migrateRuns_dryRun lib root runs hDry ⟨fs, []⟩
    have hNewer : newer = [] := List.eq_nil_iff_forall_not_mem.mpr hNone
    rw [hSeen, hNewer]
    rfl

def garageText (image : String) : Bytes :=
  "image: ".toUTF8.toList ++ image.toUTF8.toList ++ "\nresolution: 0.05\n".toUTF8.toList

/-- A library on the two YAML files of one map. -/
def flatLibrary : BundleLibrary where
  yaml data := .ok (some (.dict [
    ("image", .str (if data = garageText "garage.pgm" then "garage.pgm" else occupancyName)),
    ("resolution", .float (.finite (1 / 20))), ("origin", .list [.int 0, .int 0, .int 0])]))
  json _ := none
  dumps _ := [123, 125]
  sha256 _ := ""
  str _ := ""
  intOfBytes token := if token = [50] then some 2 else some 255
  createdIso _ := .ok "2026-01-01T00:00:00Z"

/-- A map root with one legacy map. -/
def flatGarage : FileSystem where
  file path :=
    if path = ["maps", "garage.posegraph"] then some [1]
    else if path = ["maps", "garage.data"] then some [2]
    else if path = ["maps", "garage.yaml"] then some (garageText "garage.pgm")
    else if path = ["maps", "garage.pgm"] then some "P5\n2 2\n255\n".toUTF8.toList
    else none
  isDir path := path = ["maps"]

/-- A run in which everything goes well. -/
def garageRun (dryRun : Bool) : MigrationRun where
  dryRun := dryRun
  entries := ["garage.posegraph", "garage.data", "garage.yaml", "garage.pgm"]
  mtime _ := .finite 1700000000
  faults _ := {}

theorem flatGarage_tidy : RootTidy ["maps"] flatGarage where
  sorted name hIsDir := by
    have hRoot : ["maps"] ++ [name] = ["maps"] := of_decide_eq_true hIsDir
    simp at hRoot
  parent := rfl

/-- A run that only looks, one that publishes the map and moves its legacy files into the backup
directory, and one that finds nothing left to do. -/
def garageRuns : List MigrationRun := [garageRun true, garageRun false, garageRun false]

theorem migrations_keep_garage :
    (∀ next ∈ (migrateRuns flatLibrary ["maps"] garageRuns ⟨flatGarage, []⟩).seen,
      Migrates flatLibrary ["maps"] flatGarage next) ∧
    (migrateRuns flatLibrary ["maps"] [garageRun true] ⟨flatGarage, []⟩).seen = [flatGarage] ∧
    (migrateRuns flatLibrary ["maps"] garageRuns ⟨flatGarage, []⟩).now.isDir ["maps", "garage"] =
      true ∧
    ∀ name ∈ ["garage.posegraph", "garage.data", "garage.yaml", "garage.pgm"],
      (migrateRuns flatLibrary ["maps"] garageRuns ⟨flatGarage, []⟩).now.file
          ["maps", legacyBackupDirname, name] = flatGarage.file ["maps", name] ∧
        (migrateRuns flatLibrary ["maps"] garageRuns ⟨flatGarage, []⟩).now.file ["maps", name] =
          none :=
  ⟨(migrations_keep_maps flatLibrary ["maps"] flatGarage flatGarage_tidy garageRuns).1,
    (migrations_keep_maps flatLibrary ["maps"] flatGarage flatGarage_tidy
      [garageRun true]).2 (by simp [garageRun]),
    by decide +kernel, by decide +kernel⟩

end Runs

end PreRunner.Maps
