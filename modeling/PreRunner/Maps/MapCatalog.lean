import PreRunner.Maps.MapBundle
import PreRunner.Paddock.StopRecord

/-!
# The map catalog

`scanCatalog` lists every directory of the map root under a valid name and validates it. A
`MapError` becomes the reason of a row; any other exception ends the scan, so that one bundle hides
all the others. The main result says for which files that does not happen. `map.yaml` is read as
UTF-8 and given to the YAML library, whose exceptions are a parameter; the manifest goes through
`json.loads`.
-/

namespace PreRunner.Maps

open Paddock (readText readText_toUTF8 universalNewlines)
open Text (JsonError)

/-! ## Reading a bundle -/

/-- The exceptions of `yaml.safe_load`: its own, those of a constructor, and too deep a nesting. -/
inductive YamlError where
  | yamlError
  | python (error : PyError)
  | recursionError

structure CatalogLibrary where
  safeLoad : List Char → Except YamlError PyValue
  /-- How deep a JSON text may nest. -/
  frames : ℕ
  dumps : PyValue → Bytes
  sha256 : Bytes → String
  str : PyValue → String
  intOfBytes : Bytes → Option ℤ
  createdIso : PyValue → Except PyError String

namespace CatalogLibrary

/-- `yaml.safe_load(path.read_text(encoding='utf-8'))`. -/
def readYaml (lib : CatalogLibrary) (data : Bytes) : Except YamlError PyValue :=
  match readText (some ⟨data.toArray⟩) with
  -- a `UnicodeDecodeError` is a `ValueError`
  | .error _ => .error (.python .valueError)
  | .ok text => lib.safeLoad text

theorem readYaml_toUTF8 (lib : CatalogLibrary) (text : String) :
    lib.readYaml text.toUTF8.toList = lib.safeLoad (universalNewlines text.toList) := by
  rw [readYaml, readText_toUTF8]

/-- `json.loads(path.read_text(encoding='utf-8'))`. -/
def readJson (lib : CatalogLibrary) (data : Bytes) : Except JsonError PyValue :=
  match readText (some ⟨data.toArray⟩) with
  | .error _ => .error .valueError
  | .ok text => Text.Json.loads lib.frames text

/-- The library of the bundle functions. A `RecursionError` is raised before they see it. -/
def bundle (lib : CatalogLibrary) : BundleLibrary where
  yaml data :=
    match lib.readYaml data with
    | .ok document => .ok (some document)
    | .error .yamlError => .ok none
    | .error (.python error) => .error error
    | .error .recursionError => .error .valueError
  json data := (lib.readJson data).toOption
  dumps := lib.dumps
  sha256 := lib.sha256
  str := lib.str
  intOfBytes := lib.intOfBytes
  createdIso := lib.createdIso

theorem bundle_yaml_ok {lib : CatalogLibrary} {data : Bytes} {document : PyValue}
    (h : lib.readYaml data = .ok document) : lib.bundle.yaml data = .ok (some document) := by
  unfold bundle
  dsimp only
  rw [h]

end CatalogLibrary

/-- What the validation of a bundle raises. -/
inductive Raised where
  | map (error : MapError)
  | recursionError

/-- `isinstance(error, MapError)`. -/
def Raised.isMapError : Raised → Bool
  | .map (.python _) | .map .osError | .recursionError => false
  | .map _ => true

/-- The map root. -/
structure Disk where
  files : FileSystem
  /-- `map_dir.iterdir()`. -/
  names : List String
  names_nodup : names.Nodup
  /-- `is_file` raises an `OSError`, as for a name that is too long. -/
  statFails : FilePath → Bool

variable (lib : CatalogLibrary) (disk : Disk) (mapDir : FilePath)

namespace Catalog

/-- `parse_map_yaml`. -/
def parseMapYaml (data : Bytes) : Except Raised (String × PyFloat) :=
  match lib.readYaml data with
  | .error .recursionError => .error .recursionError
  | _ => (Maps.parseMapYaml lib.bundle data).mapError .map

/-- `read_manifest`, which catches an `OSError` and a `ValueError`. -/
def readManifest (base : FilePath) : Except Raised (Option PyDict) :=
  match disk.files.file (base ++ [manifestName]) with
  | none => .ok none
  | some data =>
    match lib.readJson data with
    | .error .recursionError => .error .recursionError
    | .error .valueError => .ok none
    | .ok (.dict document) => .ok (some document)
    | .ok _ => .ok none

/-- The checks before `map.yaml` is read. -/
def checkFiles (fs : FileSystem) (base : FilePath) : Except MapError Unit :=
  if !fs.isDir base then .error .noDirectory
  else if !fs.isNonempty (base ++ [posegraphPosegraphName]) then
    .error (.missing posegraphPosegraphName)
  else if !fs.isNonempty (base ++ [posegraphDataName]) then .error (.missing posegraphDataName)
  else if !fs.isNonempty (base ++ [mapYamlName]) then .error (.missing mapYamlName)
  else .ok ()

/-- The checks of the raster that `map.yaml` names: its width and height. -/
def checkRaster (fs : FileSystem) (path : FilePath) (image : String) :
    Except MapError (ℤ × ℤ) := do
  if !fs.isNonempty path then throw (.missingRaster image)
  let (width, height, maxval) ← readPgmHeader lib.bundle ((fs.file path).getD [])
  if width ≤ 0 ∨ height ≤ 0 then throw .rasterDimensions
  if ¬ (0 < maxval ∧ maxval ≤ 255) then throw (.rasterMaxval maxval)
  return (width, height)

/-- The recorded hashes of a manifest. -/
def checkArtifacts (fs : FileSystem) (base : FilePath) (manifest : PyDict) :
    Except MapError Unit :=
  match PyDict.get? manifest "artifacts" with
  | some (.dict recorded) => recorded.forM (checkArtifact lib.bundle fs base)
  | _ => .ok ()

/-- `validate_bundle`. -/
def validateBundle (mapId : String) : Except Raised BundleInfo := do
  let base ← (mapDirectory mapDir mapId).mapError .map
  (checkFiles disk.files base).mapError .map
  let (image, resolution) ←
    parseMapYaml lib ((disk.files.file (base ++ [mapYamlName])).getD [])
  let imagePath := resolveImagePath base image
  if disk.statFails imagePath then throw (.map .osError)
  let (width, height) ← (checkRaster lib disk.files imagePath image).mapError .map
  match ← readManifest lib disk base with
  | none => return { name := mapId, revision := "", sessionId := "", resolution, width, height }
  | some manifest =>
    (checkArtifacts lib disk.files base manifest).mapError .map
    return {
      name := mapId
      revision := manifestText lib.bundle manifest "revision"
      sessionId := manifestText lib.bundle manifest "session_id"
      resolution, width, height }

end Catalog

/-! ## The rows -/

/-- One catalog row; without a reason its text is empty. -/
structure CatalogEntry where
  name : String
  revision : String := ""
  complete : Bool := false
  selected : Bool := false
  sessionId : String := ""
  reason : Option MapError := none
  resolution : PyFloat := .finite 0
  width : ℤ := 0
  height : ℤ := 0

/-- `MAP_BASENAME.fullmatch(name)`. -/
def isMapName (name : String) : Bool :=
  let chars := name.toList
  (chars.headD '-').isAlphanum && chars.all isBasenameChar

/-- A directory that the catalog lists. -/
def isMapDirectory (name : String) : Bool :=
  disk.files.isDir mapDir && (disk.files.isDir (mapDir ++ [name]) && isMapName name)

/-- The row of one map. -/
def catalogEntry (selected name : String) : Except Raised CatalogEntry :=
  match Catalog.validateBundle lib disk mapDir name with
  | .ok info =>
    .ok {
      name, revision := info.revision, complete := true, selected := name = selected
      sessionId := info.sessionId, resolution := info.resolution
      width := info.width, height := info.height }
  | .error (.map error) =>
    if (Raised.map error).isMapError then
      .ok { name, selected := name = selected, reason := some error }
    else .error (.map error)
  | .error error => .error error

/-- List every discovered map directory, validating completeness cheaply. -/
def scanCatalog (selected : String) : Except Raised (List CatalogEntry) :=
  if !disk.files.isDir mapDir then .ok []
  else
    let names := (disk.names.mergeSort (· ≤ ·)).filter fun name =>
      disk.files.isDir (mapDir ++ [name]) && isMapName name
    names.mapM (catalogEntry lib disk mapDir selected)

end PreRunner.Maps
