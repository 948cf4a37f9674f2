import PreRunner.PyValue
import PreRunner.Maps.PngCodec

/-!
# Map bundles

One directory per map holds a fixed set of files and a manifest with their hashes.
`validateBundle` accepts a complete bundle and reports the dimensions of its raster. This module
follows the bundle functions of `runner_paddock/map_session.py`. YAML, JSON and hashes are
parameters; a path is the list of its components.
-/

namespace PreRunner.Maps

def mapYamlName := "map.yaml"
def occupancyName := "occupancy.pgm"
def posegraphPosegraphName := "posegraph.posegraph"
def posegraphDataName := "posegraph.data"
def semanticsName := "semantics.png"
def manifestName := "manifest.json"

def coreFilenames : List String :=
  [mapYamlName, occupancyName, posegraphPosegraphName, posegraphDataName]

def canonicalFilenames : List String := coreFilenames ++ [semanticsName]

def maxBasenameLen : ℕ := 64

abbrev FilePath := List String

/-- The regular files and the directories. -/
structure FileSystem where
  file : FilePath → Option Bytes
  isDir : FilePath → Bool

namespace FileSystem

/-- `path.is_file()`. -/
def isFile (fs : FileSystem) (path : FilePath) : Bool := (fs.file path).isSome

/-- `path.is_file() and path.stat().st_size != 0`. -/
def isNonempty (fs : FileSystem) (path : FilePath) : Bool := (fs.file path).any (!·.isEmpty)

/-- Replace the contents of one file. -/
def write (fs : FileSystem) (path : FilePath) (data : Bytes) : FileSystem :=
  { fs with file := Function.update fs.file path (some data) }

@[simp] theorem file_write_self (fs : FileSystem) (path : FilePath) (data : Bytes) :
    (fs.write path data).file path = some data := Function.update_self ..

theorem file_write_of_ne (fs : FileSystem) {path other : FilePath} (h : other ≠ path)
    (data : Bytes) : (fs.write path data).file other = fs.file other :=
  Function.update_of_ne h ..

end FileSystem

/-- What the bundle functions take from the libraries. YAML objects of other types than those of
JSON read as `None`. -/
structure BundleLibrary where
  /-- `yaml.safe_load(path.read_text())`, where `none` stands for a `YAMLError`. -/
  yaml : Bytes → Except PyError (Option PyValue)
  /-- `json.loads(path.read_text())`, where `none` stands for a `ValueError`. -/
  json : Bytes → Option PyValue
  dumps : PyValue → Bytes
  sha256 : Bytes → String
  str : PyValue → String
  intOfBytes : Bytes → Option ℤ
  /-- `time.strftime('%Y-%m-%dT%H:%M:%SZ', time.gmtime(created))`. -/
  createdIso : PyValue → Except PyError String

/-- The rejections of a bundle or of a semantic raster, and what else is raised. -/
inductive MapError where
  | idLength
  | idSeparators
  | idComponent
  | idPattern
  | noDirectory
  | missing (filename : String)
  | yamlSyntax
  | yamlNotMapping
  | yamlImage
  | yamlResolution
  | yamlOrigin
  | missingRaster (image : String)
  | pgmMagic
  | pgmTruncated
  | pgmNotNumeric
  | rasterDimensions
  | rasterMaxval (maxval : ℤ)
  | manifestFilename
  | manifestHash (filename : String)
  | semanticDimensions
  | semanticLength (expected actual : ℤ)
  | semanticValues (invalid : List UInt8)
  | png (error : PngError)
  | decode (error : PngError)
  | semanticSize (actual expected : ℤ × ℤ)
  | semanticEmpty
  | python (error : PyError)
  | osError
  deriving DecidableEq

/-! ## Names -/

/-- `'..' in map_id`. -/
def hasDotDot : List Char → Bool
  | '.' :: '.' :: _ => true
  | _ :: rest => hasDotDot rest
  | [] => false

def isBasenameChar (c : Char) : Bool :=
  c.isAlphanum || c = '.' || c = '_' || c = '-'

/-- Return the id when it is a bounded, single-component directory name. -/
def safeBasename (mapId : String) : Except MapError String :=
  let chars := mapId.toList
  if chars.isEmpty ∨ maxBasenameLen < chars.length then .error .idLength
  else if hasDotDot chars ∨ '/' ∈ chars ∨ '\\' ∈ chars then .error .idSeparators
  else if mapId = "." then .error .idComponent
  else if !((chars.headD '-').isAlphanum && chars.all isBasenameChar) then .error .idPattern
  else .ok mapId

/-- `map_directory`. -/
def mapDirectory (mapDir : FilePath) (mapId : String) : Except MapError FilePath :=
  (safeBasename mapId).map fun name => mapDir ++ [name]

/-! ## The raster -/

/-- `bytes.isspace` of one byte. -/
def isSpaceByte (byte : UInt8) : Bool := byte = 32 || (9 ≤ byte && byte ≤ 13)

/-- The whitespace-separated tokens of a PGM header, without its comments, until there are three.
Each round takes at least one byte of what is left. -/
def pgmTokens : ℕ → List Bytes → Bytes → List Bytes
  | 0, tokens, _ => tokens
  | rounds + 1, tokens, head =>
    if 3 ≤ tokens.length ∨ head.isEmpty then tokens
    else
      let head := head.dropWhile isSpaceByte
      if head.head? = some 35 then pgmTokens rounds tokens (head.dropWhile (· ≠ 10))
      else
        let token := head.takeWhile (!isSpaceByte ·)
        let tokens := if token.isEmpty then tokens else tokens ++ [token]
        pgmTokens rounds tokens (head.dropWhile (!isSpaceByte ·))

variable (lib : BundleLibrary)

/-- `_read_pgm_header`: width, height and maxval. -/
def readPgmHeader (data : Bytes) : Except MapError (ℤ × ℤ × ℤ) :=
  let head := data.take 64
  if !([0x50, 0x35] : Bytes).isPrefixOf head then .error .pgmMagic
  else
    match pgmTokens head.length [] (head.drop 2) with
    | width :: height :: maxval :: _ =>
      match lib.intOfBytes width, lib.intOfBytes height, lib.intOfBytes maxval with
      | some width, some height, some maxval => .ok (width, height, maxval)
      | _, _, _ => .error .pgmNotNumeric
    | _ => .error .pgmTruncated

/-- `float(value)` where `isinstance(value, (int, float))`. -/
def number? : PyValue → Option (Except PyError PyFloat)
  | .bool value => some (.ok (.finite (if value then 1 else 0)))
  | .int value => some (PyValue.floatOfInt value)
  | .float value => some (.ok value)
  | _ => none

/-- `value > 0.0` of a number. -/
def isPositive : PyValue → Bool
  | .bool value => value
  | .int value => 0 < value
  | .float (.finite value) => 0 < value
  | .float (.inf negative) => !negative
  | _ => false

/-- `parse_map_yaml`: the image and the resolution; the origin is only checked. -/
def parseMapYaml (data : Bytes) : Except MapError (String × PyFloat) := do
  match ← (lib.yaml data).mapError .python with
  | none => throw .yamlSyntax
  | some (.dict document) =>
    let image ← match PyDict.get? document "image" with
      | some (.str image) => if image = "" then throw .yamlImage else pure image
      | _ => throw .yamlImage
    let resolution ← match PyDict.get? document "resolution" with
      | some value =>
        match number? value with
        | some resolution => if isPositive value then pure resolution else throw .yamlResolution
        | none => throw .yamlResolution
      | none => throw .yamlResolution
    let origin ← match PyDict.get? document "origin" with
      | some (.list values) =>
        if values.length = 3 then
          match values.mapM number? with
          | some origin => pure origin
          | none => throw .yamlOrigin
        else throw .yamlOrigin
      | _ => throw .yamlOrigin
    let resolution ← resolution.mapError .python
    let _ ← (origin.mapM id).mapError MapError.python
    return (image, resolution)
  | some _ => throw .yamlNotMapping

/-- `resolve_image_path`, relative to the directory of the YAML. -/
def resolveImagePath (base : FilePath) (image : String) : FilePath :=
  let parts := ((image.toList.splitOn '/').map String.ofList).filter fun part =>
    part ≠ "" ∧ part ≠ "."
  if image.startsWith "/" then parts else base ++ parts

/-- The canonical raster lies beside the YAML. -/
theorem resolveImagePath_occupancyName (base : FilePath) :
    resolveImagePath base occupancyName = base ++ [occupancyName] := by
  have hParts : ((occupancyName.toList.splitOn '/').map String.ofList).filter
      (fun part => part ≠ "" ∧ part ≠ ".") = [occupancyName] := by decide
  have hRelative : occupancyName.startsWith "/" = false := by decide +kernel
  unfold resolveImagePath
  rw [hParts, hRelative]
  rfl

/-! ## The bundle -/

/-- Validated metadata for one complete map bundle. -/
structure BundleInfo where
  name : String
  revision : String
  sessionId : String
  resolution : PyFloat
  width : ℤ
  height : ℤ

/-- A parsed manifest, or `none` when it is absent or bad. -/
def readManifest (fs : FileSystem) (base : FilePath) : Option PyDict :=
  match (fs.file (base ++ [manifestName])).bind lib.json with
  | some (.dict document) => some document
  | _ => none

/-- `manifest.get(key, '')` as text. -/
def manifestText (manifest : PyDict) (key : String) : String :=
  lib.str ((PyDict.get? manifest key).getD (.str ""))

/-- Check one recorded hash; optional artifacts never gate the core bundle. -/
def checkArtifact (fs : FileSystem) (base : FilePath) (artifact : String × PyValue) :
    Except MapError Unit :=
  let (filename, digest) := artifact
  let chars := filename.toList
  if '/' ∈ chars ∨ '\\' ∈ chars ∨ hasDotDot chars ∨ filename = "." then .error .manifestFilename
  else if filename ∉ coreFilenames then .ok ()
  else
    match fs.file (base ++ [filename]), digest with
    | some data, .str digest =>
      if lib.sha256 data = digest then .ok () else .error (.manifestHash filename)
    | _, _ => .error (.manifestHash filename)

/-- Raise unless the map is a complete, usable bundle. -/
def validateBundle (fs : FileSystem) (mapDir : FilePath) (mapId : String) :
    Except MapError BundleInfo := do
  let base ← mapDirectory mapDir mapId
  if !fs.isDir base then throw .noDirectory
  if !fs.isNonempty (base ++ [posegraphPosegraphName]) then throw (.missing posegraphPosegraphName)
  if !fs.isNonempty (base ++ [posegraphDataName]) then throw (.missing posegraphDataName)
  if !fs.isNonempty (base ++ [mapYamlName]) then throw (.missing mapYamlName)
  let (image, resolution) ← parseMapYaml lib ((fs.file (base ++ [mapYamlName])).getD [])
  let imagePath := resolveImagePath base image
  if !fs.isNonempty imagePath then throw (.missingRaster image)
  let (width, height, maxval) ← readPgmHeader lib ((fs.file imagePath).getD [])
  if width ≤ 0 ∨ height ≤ 0 then throw .rasterDimensions
  if ¬ (0 < maxval ∧ maxval ≤ 255) then throw (.rasterMaxval maxval)
  match readManifest lib fs base with
  | none => return { name := mapId, revision := "", sessionId := "", resolution, width, height }
  | some manifest =>
    match PyDict.get? manifest "artifacts" with
    | some (.dict recorded) => recorded.forM (checkArtifact lib fs base)
    | _ => pure ()
    return {
      name := mapId
      revision := manifestText lib manifest "revision"
      sessionId := manifestText lib manifest "session_id"
      resolution, width, height }

/-- Build the manifest, hashing whichever canonical files are present. -/
def buildManifest (fs : FileSystem) (sessionId mapId : String) (base : FilePath)
    (created : PyValue) : Except PyError PyValue := do
  let artifacts := canonicalFilenames.filterMap fun filename =>
    (fs.file (base ++ [filename])).map fun data => (filename, lib.sha256 data)
  let joined := String.join (artifacts.map (·.2))
  let revision := (lib.sha256 joined.toUTF8.toList).take 12
  let createdIso ← lib.createdIso created
  return .dict [
    ("version", .int 1),
    ("name", .str mapId),
    ("session_id", .str sessionId),
    ("created", created),
    ("created_iso", .str createdIso),
    ("revision", .str revision.toString),
    ("artifacts", .dict (artifacts.map fun (filename, digest) => (filename, .str digest)))]

end PreRunner.Maps
