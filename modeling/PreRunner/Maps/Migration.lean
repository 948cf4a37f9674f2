import Mathlib.Data.List.DropRight
import PreRunner.Maps.SaveTransaction
import PreRunner.Runs.Guarantee

/-!
# Migrating legacy maps

A legacy map is a set of files in the map root that share a stem. The migration stages a directory
from copies of them, validates it, renames it into place, and only then moves the legacy files into
a backup directory. This module follows `scripts/migrate_maps.py` operation by operation; each of
its file operations may raise an `OSError`, and the process may end before any of them.
-/

namespace PreRunner.Maps

open Runs Interruptible

def legacyBackupDirname := ".legacy-migrated"

/-- The extensions of the files every legacy map has. -/
def legacyCoreExtensions : List String := ["posegraph", "data", "yaml"]

/-- Recognized suffixes, longest first. -/
def legacySuffixes : List String := [".manifest.json", ".posegraph", ".data", ".yaml", ".pgm"]

/-- What a migration raises. -/
inductive MigrationError where
  | bundle (error : MapError)
  | noImageLine
  | unicodeDecodeError
  deriving DecidableEq

/-- `isinstance(error, (MapError, OSError))`. -/
def MigrationError.isHandled : MigrationError → Bool
  | .bundle .osError => true
  | .bundle error => (Raised.map error).isMapError
  | .noImageLine => true
  | .unicodeDecodeError => false

/-! ## The legacy files -/

/-- The id of a legacy file: the first suffix that fits decides. -/
def legacyId? (name : String) : Option String :=
  (legacySuffixes.find? fun suffix =>
    name.endsWith suffix ∧ suffix.length < name.length).bind fun suffix =>
      (safeBasename (name.dropEnd suffix.length).toString).toOption

/-- `_discover_legacy_ids`, from the entries of the map root. -/
def discoverLegacyIds (fs : FileSystem) (root : FilePath) (entries : List String) : List String :=
  (((entries.filter fun name => fs.isFile (root ++ [name])).filterMap legacyId?).dedup).mergeSort
    (· ≤ ·)

def legacyPath (root : FilePath) (mapId extension : String) : FilePath :=
  root ++ [mapId ++ "." ++ extension]

variable (lib : BundleLibrary)

/-- `_legacy_image_path`. -/
def legacyImagePath (fs : FileSystem) (root : FilePath) (mapId : String) :
    Except MigrationError (Option FilePath) :=
  match fs.file (legacyPath root mapId "yaml") with
  | none => .ok none
  | some data =>
    match parseMapYaml lib data with
    | .ok (image, _) => .ok (some (resolveImagePath root image))
    | .error error =>
      if (Raised.map error).isMapError then .ok none else .error (.bundle error)

/-- `_legacy_manifest`. -/
def legacyManifest (fs : FileSystem) (root : FilePath) (mapId : String) : Option PyDict :=
  match (fs.file (legacyPath root mapId "manifest.json")).bind lib.json with
  | some (.dict document) => some document
  | _ => none

/-! ## The `image:` line -/

/-- The characters that `str.strip` removes. -/
def isSpaceChar (c : Char) : Bool :=
  let n := c.toNat
  (9 ≤ n && n ≤ 13) || (28 ≤ n && n ≤ 32) || n = 0x85 || n = 0xA0 || n = 0x1680 ||
    (0x2000 ≤ n && n ≤ 0x200A) || n = 0x2028 || n = 0x2029 || n = 0x202F || n = 0x205F || n = 0x3000

/-- The characters at which `str.splitlines` ends a line. -/
def isLineBreak (c : Char) : Bool :=
  let n := c.toNat
  (10 ≤ n && n ≤ 13) || (28 ≤ n && n ≤ 30) || n = 0x85 || n = 0x2028 || n = 0x2029

/-- `text.splitlines(keepends=True)`. -/
def splitLines : List Char → List (List Char)
  | [] => []
  | '\r' :: '\n' :: rest => ['\r', '\n'] :: splitLines rest
  | c :: rest =>
    if isLineBreak c then [c] :: splitLines rest
    else
      match splitLines rest with
      | [] => [[c]]
      | line :: lines => (c :: line) :: lines

/-- `line.strip().startswith('image:')`. -/
def isImageLine (line : List Char) : Bool :=
  "image:".toList.isPrefixOf ((line.dropWhile isSpaceChar).rdropWhile isSpaceChar)

/-- The line that takes the place of an `image:` line. -/
def imageLine (newImageName : String) (line : List Char) : List Char :=
  "image: ".toList ++ newImageName.toList ++ if line.getLast? = some '\n' then ['\n'] else []

/-- Replace the first `image:` line of some lines. -/
def rewriteLines (newImageName : String) : List (List Char) → Option (List (List Char))
  | [] => none
  | line :: lines =>
    if isImageLine line then some (imageLine newImageName line :: lines)
    else (rewriteLines newImageName lines).map (line :: ·)

/-- `_rewrite_image_line`. -/
def rewriteImageLine (text : List Char) (newImageName : String) :
    Except MigrationError (List Char) :=
  match rewriteLines newImageName (splitLines text) with
  | none => .error .noImageLine
  | some lines => .ok lines.flatten

/-- What `map.yaml` becomes: the legacy text with its `image:` line rewritten. -/
def rewrittenYaml (data : Bytes) : Except MigrationError Bytes :=
  match Paddock.readText (some ⟨data.toArray⟩) with
  | .error _ => .error .unicodeDecodeError
  | .ok text =>
    (rewriteImageLine text occupancyName).map fun text => (String.ofList text).toUTF8.toList

/-! ## Operations on files -/

namespace FileSystem

/-- `path.exists()`. -/
def exists? (fs : FileSystem) (path : FilePath) : Bool := fs.isDir path || fs.isFile path

/-- `path.mkdir()`. -/
def mkdir (fs : FileSystem) (path : FilePath) : FileSystem :=
  { fs with isDir := Function.update fs.isDir path true }

/-- `source.replace(target)` of a file. -/
def moveFile (fs : FileSystem) (source target : FilePath) : FileSystem :=
  { fs with file := Function.update (Function.update fs.file target (fs.file source)) source none }

end FileSystem

/-- How writing one file goes. -/
structure FillFaults where
  create : Fault := .fine
  write : Fault := .fine
  /-- How much of the data is there if that ends early. -/
  written : ℕ := 0

abbrev Migrating (α : Type) : Type := Interruptible FileSystem MigrationError α

def osError : MigrationError := .bundle .osError

/-- Create or truncate a file and write it. -/
def fillFile (faults : FillFaults) (path : FilePath) (data : Bytes) : Migrating Unit := do
  operation osError faults.create
  change (·.write path [])
  change (·.write path (if faults.write = .fine then data else data.take faults.written))
  operation osError faults.write

/-- `shutil.copy2`. -/
def copyFile (faults : FillFaults) (source target : FilePath) : Migrating Unit := do
  let s ← Program.get
  match s.now.file source with
  | none => Program.raise (.raised osError)
  | some data => fillFile faults target data

/-- How the operations on one map go. -/
structure MigrationFaults where
  /-- Looking at the files before the build. -/
  look : Fault := .fine
  rmtree : Fault := .fine
  /-- What an interrupted removal has left behind. -/
  left : FileSystem := ⟨fun _ => none, fun _ => false⟩
  mkdir : Fault := .fine
  posegraph : FillFaults := {}
  data : FillFaults := {}
  occupancy : FillFaults := {}
  readYaml : Fault := .fine
  yaml : FillFaults := {}
  /-- Reading the times and hashing the staged files. -/
  hash : Fault := .fine
  manifest : FillFaults := {}
  validate : Fault := .fine
  /-- The removal after a failure, whose exceptions are ignored. -/
  cleanup : Fault := .fine
  cleanupLeft : FileSystem := ⟨fun _ => none, fun _ => false⟩
  publish : Fault := .fine
  /-- Looking at the files that remain. -/
  lookAgain : Fault := .fine
  mkdirBackup : Fault := .fine
  /-- Moving the legacy file of this name. -/
  move : String → Fault := fun _ => .fine

/-! ## Building a bundle -/

section Build

variable (root : FilePath) (mapId : String)

def stagingDir : FilePath := root ++ [stagingDirname] ++ [mapId]

/-- `shutil.rmtree`, which goes file by file. -/
def removeTree (fault : Fault) (left : FileSystem) (path : FilePath) : Migrating Unit := do
  change (·.replaceUnder path left)
  operation osError fault
  change (·.remove path)

/-- Remove an earlier staging directory. A file cannot be removed in this way. -/
def clearStaging (faults : MigrationFaults) : Migrating Unit := do
  let s ← Program.get
  if s.now.isFile (stagingDir root mapId) then Program.raise (.raised osError)
  else if s.now.isDir (stagingDir root mapId) then
    removeTree faults.rmtree faults.left (stagingDir root mapId)
  else return ()

/-- A clean staging directory and its parent. -/
def makeStaging (faults : MigrationFaults) : Migrating Unit := do
  clearStaging root mapId faults
  operation osError faults.mkdir
  let s ← Program.get
  if s.now.isFile (root ++ [stagingDirname]) then Program.raise (.raised osError)
  else
    change (·.mkdir (root ++ [stagingDirname]))
    change (·.mkdir (stagingDir root mapId))

/-- The files of the new bundle that are not derived from the others. -/
def stageArtifacts (faults : MigrationFaults) (image : FilePath) : Migrating Unit := do
  copyFile faults.posegraph (legacyPath root mapId "posegraph")
    (stagingDir root mapId ++ [posegraphPosegraphName])
  copyFile faults.data (legacyPath root mapId "data")
    (stagingDir root mapId ++ [posegraphDataName])
  copyFile faults.occupancy image (stagingDir root mapId ++ [occupancyName])
  operation osError faults.readYaml
  let s ← Program.get
  let yaml ← lift (rewrittenYaml ((s.now.file (legacyPath root mapId "yaml")).getD []))
  fillFile faults.yaml (stagingDir root mapId ++ [mapYamlName]) yaml

/-- The session and the time of creation of the legacy manifest, if they can be read. -/
def legacyOrigin (fs : FileSystem) (mtime : PyFloat) : Except PyError (String × PyValue) :=
  match legacyManifest lib fs root mapId with
  | none => .ok ("", .float mtime)
  | some manifest => do
    -- an empty manifest counts as none
    if manifest.isEmpty then return ("", .float mtime)
    let created ← ((PyDict.get? manifest "created").bind number?).getD (.ok mtime)
    return (manifestText lib manifest "session_id", .float created)

/-- The manifest of the staged files, and the validation of the whole. -/
def stageManifest (faults : MigrationFaults) (mtime : PyFloat) : Migrating Unit := do
  operation osError faults.hash
  let s ← Program.get
  let (sessionId, created) ← lift
    ((legacyOrigin lib root mapId s.now mtime).mapError fun error => .bundle (.python error))
  let manifest ← lift ((buildManifest lib s.now sessionId mapId
    (stagingDir root mapId) created).mapError
    fun error => .bundle (.python error))
  fillFile faults.manifest (stagingDir root mapId ++ [manifestName]) (lib.dumps manifest)
  operation osError faults.validate
  let s ← Program.get
  let _ ← lift ((validateBundle lib s.now (root ++ [stagingDirname]) mapId).mapError .bundle)

/-- The exceptions after which the staging directory is removed. -/
def caughtByBuild : Interrupt MigrationError → Option MigrationError
  | .raised error => if error.isHandled then some error else none
  | .crashed => none

/-- `shutil.rmtree(staging_dir, ignore_errors=True)`. -/
def cleanUp (faults : MigrationFaults) : Migrating Unit :=
  match faults.cleanup with
  | .fine => change (·.remove (stagingDir root mapId))
  | .fails => change (·.replaceUnder (stagingDir root mapId) faults.cleanupLeft)
  | .crashes => do
    change (·.replaceUnder (stagingDir root mapId) faults.cleanupLeft)
    Program.raise .crashed

/-- Stage and validate a bundle; an exception that is caught is returned. -/
def stageBundle (faults : MigrationFaults) (mtime : PyFloat) (image : FilePath) :
    Migrating (Option MigrationError) := do
  makeStaging root mapId faults
  Program.catching
    (do
      stageArtifacts root mapId faults image
      stageManifest lib root mapId faults mtime
      return none)
    caughtByBuild
    fun error => do
      cleanUp root mapId faults
      return some error

/-- What `_build_new_bundle` answers. -/
inductive BuildOutcome where
  | invalidDirectory (error : MapError)
  | alreadyPublished
  /-- `none` stands for an image that cannot be resolved. -/
  | incomplete (missing : List (Option FilePath))
  | wouldBuild
  | failed (error : MigrationError)
  | published
  deriving DecidableEq

/-- `built_changed`. -/
def BuildOutcome.changed : BuildOutcome → Bool
  | .wouldBuild | .published => true
  | _ => false

/-- `safe_to_archive_legacy`. -/
def BuildOutcome.isSafe : BuildOutcome → Bool
  | .alreadyPublished | .published => true
  | _ => false

/-- The legacy files that are missing or empty. -/
def missingLegacy (fs : FileSystem) (image : Option FilePath) : List (Option FilePath) :=
  ((legacyCoreExtensions.map (legacyPath root mapId)).filter fun path =>
    !fs.isNonempty path).map some ++
    if image.any fs.isNonempty then [] else [image]

/-- `_build_new_bundle`. -/
def buildNewBundle (mtime : PyFloat) (dryRun : Bool) (faults : MigrationFaults) :
    Migrating BuildOutcome := do
  operation osError faults.look
  let s ← Program.get
  if s.now.exists? (root ++ [mapId]) then
    match validateBundle lib s.now root mapId with
    | .ok _ => return .alreadyPublished
    | .error error =>
      if (Raised.map error).isMapError then return .invalidDirectory error
      else Program.raise (.raised (.bundle error))
  else
    let image ← lift (legacyImagePath lib s.now root mapId)
    if missingLegacy root mapId s.now image ≠ [] then
      return .incomplete (missingLegacy root mapId s.now image)
    else if dryRun then return .wouldBuild
    else
      match ← stageBundle lib root mapId faults mtime (image.getD []) with
      | some error => return .failed error
      | none =>
        operation osError faults.publish
        change (·.rename (stagingDir root mapId) (root ++ [mapId]))
        return .published

end Build

/-! ## Archiving -/

/-- A dictionary of paths, set at one key. -/
def setPath (key : String) (path : FilePath) : List (String × FilePath) → List (String × FilePath)
  | [] => [(key, path)]
  | entry :: entries =>
    if entry.1 = key then (key, path) :: entries else entry :: setPath key path entries

/-- `image_path.suffix.lstrip('.') or 'image'`. -/
def imageKey (path : FilePath) : String :=
  let extension := (Paddock.suffix ((path.getLast?.getD "").toList)).dropWhile (· = '.')
  if extension.isEmpty then "image" else String.ofList extension

/-- The legacy files of a map that are still in the root. -/
def presentLegacy (fs : FileSystem) (root : FilePath) (mapId : String) :
    Except MigrationError (List FilePath) := do
  let legacy := legacyCoreExtensions.map fun extension =>
    (extension, legacyPath root mapId extension)
  let manifest := legacyPath root mapId "manifest.json"
  let legacy := if fs.isFile manifest then legacy ++ [("manifest.json", manifest)] else legacy
  let image := (← legacyImagePath lib fs root mapId).getD (legacyPath root mapId "pgm")
  let legacy := if image ≠ [] ∧ image.dropLast = root ∧ fs.isFile image then
    setPath (imageKey image) image legacy else legacy
  return (legacy.map (·.2)).filter fs.isFile

/-- Move files into the backup directory, unless there is one of that name. -/
def moveAll (root : FilePath) (faults : MigrationFaults) : List FilePath → ℕ → Migrating ℕ
  | [], moved => return moved
  | path :: paths, moved => do
    let name := path.getLast?.getD ""
    let s ← Program.get
    if s.now.exists? (root ++ [legacyBackupDirname] ++ [name]) then
      moveAll root faults paths moved
    else
      operation osError (faults.move name)
      change (·.moveFile path (root ++ [legacyBackupDirname] ++ [name]))
      moveAll root faults paths (moved + 1)

/-- `_archive_legacy_files`. -/
def archiveLegacyFiles (root : FilePath) (mapId : String) (dryRun : Bool)
    (faults : MigrationFaults) : Migrating Bool := do
  operation osError faults.lookAgain
  let s ← Program.get
  let present ← lift (presentLegacy lib s.now root mapId)
  if present.isEmpty then return false
  else if dryRun then return true
  else
    operation osError faults.mkdirBackup
    if s.now.isFile (root ++ [legacyBackupDirname]) then Program.raise (.raised osError)
    else
      change (·.mkdir (root ++ [legacyBackupDirname]))
      let moved ← moveAll root faults present 0
      return 0 < moved

/-! ## A run -/

/-- One invocation of the script, with what it meets. -/
structure MigrationRun where
  dryRun : Bool
  /-- The names that `map_root.iterdir()` yields. -/
  entries : List String
  /-- The modification time of a map's legacy pose graph. -/
  mtime : String → PyFloat
  faults : String → MigrationFaults

namespace MigrationRun

variable (root : FilePath) (run : MigrationRun)

/-- Migrate one map; return how much changed. -/
def migrateMap (mapId : String) : Migrating ℕ := do
  let outcome ← buildNewBundle lib root mapId (run.mtime mapId) run.dryRun (run.faults mapId)
  let built := if outcome.changed then 1 else 0
  if !outcome.isSafe && !(run.dryRun && outcome.changed) then return built
  else
    let archived ← archiveLegacyFiles lib root mapId run.dryRun (run.faults mapId)
    return built + if archived then 1 else 0

def migrateMaps : List String → ℕ → Migrating ℕ
  | [], changed => return changed
  | mapId :: mapIds, changed => do
    let more ← run.migrateMap lib root mapId
    migrateMaps mapIds (changed + more)

/-- `migrate`: the number of changes. -/
def migrate : Migrating ℕ := do
  let s ← Program.get
  if s.now.isDir root then
    run.migrateMaps lib root (discoverLegacyIds s.now root run.entries) 0
  else return 0

end MigrationRun

/-- Invocations one after the other, each from the files the last one left. -/
def migrateRuns (root : FilePath) (runs : List MigrationRun) (s : Recorded FileSystem) :
    Recorded FileSystem :=
  runs.foldl (fun s run => (run.migrate lib root s).2) s

end PreRunner.Maps
