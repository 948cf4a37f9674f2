import PreRunner.Maps.MapBundle

/-!
# Deleting and publishing map bundles

A bundle is deleted by renaming its directory away, and published by renaming a staged directory
into place. Either touches only what lies in that directory, so the validation of another bundle
whose raster lies in its own directory is unchanged (`validateBundle_congr`). Symbolic links are
left out.
-/

namespace PreRunner.Maps

/-- The path without `..` components. -/
def normalize (path : FilePath) : FilePath :=
  path.foldl (fun parts part => if part = ".." then parts.dropLast else parts ++ [part]) []

/-- The path lies in the directory, or is it. -/
def isUnder (base path : FilePath) : Bool := (normalize base).isPrefixOf (normalize path)

namespace FileSystem

/-- A directory is renamed away. -/
def remove (fs : FileSystem) (base : FilePath) : FileSystem where
  file path := if isUnder base path then none else fs.file path
  isDir path := !isUnder base path && fs.isDir path

/-- A directory with these files is renamed into place. -/
def place (fs : FileSystem) (base : FilePath) (content : FilePath → Option Bytes) :
    FileSystem where
  file path :=
    if isUnder base path then content ((normalize path).drop (normalize base).length)
    else fs.file path
  isDir path := if isUnder base path then normalize path = normalize base else fs.isDir path

end FileSystem

/-- Why a map request is rejected. -/
inductive MapRejection where
  | notLeaseOwner
  | stale (requestId : ℤ)
  | transition
  | hotSwap
  | selected
  | usedByAutonomy
  | bundle (error : MapError)
  | osError
  deriving DecidableEq

variable (lib : BundleLibrary)

/-- Reject a bundle that selection or the live runtime still references. -/
def validateDeleteCandidate (fs : FileSystem) (mapDir : FilePath)
    (mapId selected activeAutonomyMap : String) : Except MapRejection BundleInfo := do
  let _ ← (safeBasename mapId).mapError .bundle
  if mapId = selected then throw .selected
  if mapId = activeAutonomyMap then throw .usedByAutonomy
  (validateBundle lib fs mapDir mapId).mapError .bundle

/-- Remove one validated map directory by a rename, which may fail. -/
def deleteBundle (renamed : Bool) (fs : FileSystem) (mapDir : FilePath) (mapId : String) :
    FileSystem × Except MapRejection BundleInfo :=
  match validateBundle lib fs mapDir mapId with
  | .error error => (fs, .error (.bundle error))
  | .ok info =>
    if renamed then (fs.remove (mapDir ++ [mapId]), .ok info) else (fs, .error .osError)

/-- What a save leaves behind: nothing, or a directory in a place that was free. -/
def publishBundle (fs : FileSystem) (mapDir : FilePath) (mapId : String)
    (content : Option (FilePath → Option Bytes)) : FileSystem :=
  match safeBasename mapId, content with
  | .ok name, some content =>
    let base := mapDir ++ [name]
    if fs.isDir base || fs.isFile base then fs else fs.place base content
  | _, _ => fs

/-! ## Directories of different maps -/

variable {lib} {fs next : FileSystem} {mapDir : FilePath} {mapId other : String}

@[simp] theorem normalize_append_singleton (path : FilePath) (hName : mapId ≠ "..") :
    normalize (path ++ [mapId]) = normalize path ++ [mapId] := by
  rw [normalize, List.foldl_append]
  exact if_neg hName

theorem isUnder_self (path : FilePath) : isUnder path path = true := by
  rw [isUnder, List.isPrefixOf_iff_prefix]

theorem isUnder_append (base : FilePath) (hName : mapId ≠ "..") :
    isUnder base (base ++ [mapId]) = true := by
  rw [isUnder, List.isPrefixOf_iff_prefix, normalize_append_singleton base hName]
  exact List.prefix_append _ _

theorem eq_of_isUnder {path : FilePath} (hOther : other ≠ "..") (hName : mapId ≠ "..")
    (hUnder : isUnder (mapDir ++ [other]) path = true)
    (hPath : isUnder (mapDir ++ [mapId]) path = true) : other = mapId := by
  rw [isUnder, List.isPrefixOf_iff_prefix, normalize_append_singleton _ hOther] at hUnder
  rw [isUnder, List.isPrefixOf_iff_prefix, normalize_append_singleton _ hName] at hPath
  have hPrefix := List.prefix_of_prefix_length_le hUnder hPath (by simp)
  have hEq := hPrefix.eq_of_length (by simp)
  simpa using hEq

/-- A directory of maps holds no other one. -/
theorem eq_of_isUnder_sibling (hOther : other ≠ "..")
    (h : isUnder (mapDir ++ [other]) (mapDir ++ [mapId]) = true) : other = mapId := by
  by_cases hName : mapId = ".."
  · subst hName
    rw [isUnder, List.isPrefixOf_iff_prefix, normalize_append_singleton _ hOther, normalize,
      normalize, List.foldl_append] at h
    have hLength := h.length_le
    simp at hLength
    omega
  · exact eq_of_isUnder hOther hName h (isUnder_self _)

theorem safeBasename_eq {name : String} (h : safeBasename mapId = .ok name) : name = mapId := by
  unfold safeBasename at h
  dsimp only at h
  repeat' split at h
  all_goals cases h
  rfl

theorem safeBasename_ne_dotdot {name : String} (h : safeBasename mapId = .ok name) :
    mapId ≠ ".." := by
  rintro rfl
  have hError : safeBasename ".." = .error .idSeparators := by decide
  cases hError.symm.trans h

/-! ## What the validation of a bundle reads -/

/-- The raster that `map.yaml` names. -/
def rasterPath (lib : BundleLibrary) (fs : FileSystem) (base : FilePath) : Option FilePath :=
  match parseMapYaml lib ((fs.file (base ++ [mapYamlName])).getD []) with
  | .ok (image, _) => some (resolveImagePath base image)
  | .error _ => none

/-- The raster lies in the directory of its map. -/
def RasterInside (lib : BundleLibrary) (fs : FileSystem) (base : FilePath) : Prop :=
  ∀ path, rasterPath lib fs base = some path → isUnder base path = true

/-- The same directory and files, as far as the validation reads them. -/
structure SameBundle (lib : BundleLibrary) (fs next : FileSystem) (base : FilePath) : Prop where
  dir : next.isDir base = fs.isDir base
  file : ∀ name, name ≠ ".." → next.file (base ++ [name]) = fs.file (base ++ [name])
  raster : ∀ path, rasterPath lib fs base = some path → next.file path = fs.file path

theorem validateBundle_ok {info : BundleInfo} (h : validateBundle lib fs mapDir mapId = .ok info) :
    safeBasename mapId = .ok mapId ∧ fs.isDir (mapDir ++ [mapId]) = true := by
  unfold validateBundle mapDirectory at h
  cases hName : safeBasename mapId with
  | error error =>
    rw [hName] at h
    cases h
  | ok name =>
    cases safeBasename_eq hName
    refine ⟨rfl, ?_⟩
    rw [hName] at h
    cases hDir : fs.isDir (mapDir ++ [mapId]) with
    | true => rfl
    | false =>
      simp only [Except.map, bind, Except.bind] at h
      rw [hDir] at h
      cases h

theorem validateBundle_congr (h : SameBundle lib fs next (mapDir ++ [mapId])) :
    validateBundle lib next mapDir mapId = validateBundle lib fs mapDir mapId := by
  unfold validateBundle mapDirectory
  cases hName : safeBasename mapId with
  | error error => rfl
  | ok name =>
    cases safeBasename_eq hName
    have hNonempty : ∀ filename, filename ≠ ".." →
        next.isNonempty (mapDir ++ [mapId] ++ [filename]) =
          fs.isNonempty (mapDir ++ [mapId] ++ [filename]) := fun filename hNe => by
      unfold FileSystem.isNonempty
      rw [h.file filename hNe]
    have hArtifact : checkArtifact lib next (mapDir ++ [mapId]) =
        checkArtifact lib fs (mapDir ++ [mapId]) := by
      funext artifact
      obtain ⟨filename, digest⟩ := artifact
      unfold checkArtifact
      dsimp only
      by_cases hCore : filename ∈ coreFilenames
      · have hNe : filename ≠ ".." := by
          rintro rfl
          exact absurd hCore (by decide)
        rw [h.file filename hNe]
      · simp only [hCore, not_false_eq_true, if_true]
    have hManifest : readManifest lib next (mapDir ++ [mapId]) =
        readManifest lib fs (mapDir ++ [mapId]) := by
      unfold readManifest
      rw [h.file manifestName (by decide)]
    simp only [Except.map, bind, Except.bind]
    rw [h.dir, hNonempty _ (by decide), hNonempty _ (by decide),
      hNonempty _ (by decide), hManifest, hArtifact, h.file mapYamlName (by decide)]
    have hRaster := h.raster
    unfold rasterPath at hRaster
    cases hParsed : parseMapYaml lib ((fs.file (mapDir ++ [mapId] ++ [mapYamlName])).getD []) with
    | error error => rfl
    | ok parsed =>
      rw [hParsed] at hRaster
      have hImage := hRaster _ rfl
      dsimp only
      unfold FileSystem.isNonempty
      rw [hImage]

/-! ## What a removal or a publication leaves alone -/

/-- Nothing has changed outside this directory. -/
structure SameOutside (fs next : FileSystem) (base : FilePath) : Prop where
  dir : ∀ path, isUnder base path = false → next.isDir path = fs.isDir path
  file : ∀ path, isUnder base path = false → next.file path = fs.file path

theorem sameOutside_remove (fs : FileSystem) (base : FilePath) :
    SameOutside fs (fs.remove base) base where
  dir path h := by
    change (!isUnder base path && fs.isDir path) = fs.isDir path
    rw [h]
    rfl
  file _ h := if_neg (Bool.eq_false_iff.mp h)

theorem sameOutside_place (fs : FileSystem) (base : FilePath)
    (content : FilePath → Option Bytes) : SameOutside fs (fs.place base content) base where
  dir _ h := if_neg (Bool.eq_false_iff.mp h)
  file _ h := if_neg (Bool.eq_false_iff.mp h)

theorem SameOutside.dir_of_ne (h : SameOutside fs next (mapDir ++ [other])) (hOther : other ≠ "..")
    (hNe : other ≠ mapId) : next.isDir (mapDir ++ [mapId]) = fs.isDir (mapDir ++ [mapId]) :=
  h.dir _ (Bool.eq_false_iff.mpr fun hUnder => hNe (eq_of_isUnder_sibling hOther hUnder))

/-- Another bundle with its raster in its own directory validates as before. -/
theorem SameOutside.validateBundle_eq (h : SameOutside fs next (mapDir ++ [other]))
    (hOther : other ≠ "..") (hNe : other ≠ mapId) (hName : mapId ≠ "..")
    (hInside : RasterInside lib next (mapDir ++ [mapId])) :
    RasterInside lib fs (mapDir ++ [mapId]) ∧
      validateBundle lib next mapDir mapId = validateBundle lib fs mapDir mapId := by
  have hFile : ∀ path, isUnder (mapDir ++ [mapId]) path = true →
      next.file path = fs.file path := fun path hPath =>
    h.file path (Bool.eq_false_iff.mpr fun hUnder => hNe (eq_of_isUnder hOther hName hUnder hPath))
  have hBefore : RasterInside lib fs (mapDir ++ [mapId]) := by
    unfold RasterInside rasterPath at hInside ⊢
    rw [hFile _ (isUnder_append _ (by decide))] at hInside
    exact hInside
  exact ⟨hBefore, validateBundle_congr ⟨h.dir_of_ne hOther hNe,
    fun name hNe => hFile _ (isUnder_append _ hNe), fun path hPath => hFile _ (hBefore path hPath)⟩⟩

theorem validateDeleteCandidate_ok {selected activeAutonomyMap : String} {info : BundleInfo}
    (h : validateDeleteCandidate lib fs mapDir mapId selected activeAutonomyMap = .ok info) :
    validateBundle lib fs mapDir mapId = .ok info := by
  unfold validateDeleteCandidate at h
  cases hName : safeBasename mapId with
  | error error =>
    rw [hName] at h
    cases h
  | ok name =>
    rw [hName] at h
    simp only [Except.mapError, bind, Except.bind] at h
    split at h
    · cases h
    · split at h
      · cases h
      · cases hInfo : validateBundle lib fs mapDir mapId with
        | error error =>
          rw [hInfo] at h
          cases h
        | ok info =>
          rw [hInfo] at h
          cases h
          rfl

end PreRunner.Maps
