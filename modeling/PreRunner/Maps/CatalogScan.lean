import PreRunner.Maps.BundleDeletion
import PreRunner.Maps.MapCatalog
import PreRunner.Runs.Program

/-!
# When the catalog is listed

A scan ends with a row for every map exactly when no bundle makes it raise something other than a
`MapError`: its `map.yaml` is UTF-8 and makes the YAML library raise nothing but its own error,
the numbers in it fit into doubles, the name of its raster can be looked up, and its manifest
nests no deeper than the interpreter can follow.

An exception of a step is caught or escapes (`Escapes`), and `Readable` lists the ways in which
none does. Only bundles that get as far as their `map.yaml` matter (`Opened`): a missing or empty
file ends the validation with a `MapError` before.
-/

namespace PreRunner.Maps

open Runs Text

/-! ## The fields of `map.yaml` -/

/-- The image of a document. -/
def yamlImage (document : PyDict) : Except MapError String :=
  match PyDict.get? document "image" with
  | some (.str image) => if image = "" then .error .yamlImage else .ok image
  | _ => .error .yamlImage

/-- The resolution of a document, before its conversion. -/
def yamlResolution (document : PyDict) : Except MapError (Except PyError PyFloat) :=
  match PyDict.get? document "resolution" with
  | some value =>
    match number? value with
    | some resolution => if isPositive value then .ok resolution else .error .yamlResolution
    | none => .error .yamlResolution
  | none => .error .yamlResolution

/-- The origin of a document, before the conversions. -/
def yamlOrigin (document : PyDict) : Except MapError (List (Except PyError PyFloat)) :=
  match PyDict.get? document "origin" with
  | some (.list values) =>
    if values.length = 3 then
      match values.mapM number? with
      | some origin => .ok origin
      | none => .error .yamlOrigin
    else .error .yamlOrigin
  | _ => .error .yamlOrigin

theorem yamlImage_bind {α : Type} (document : PyDict) (next : String → Except MapError α) :
    (match PyDict.get? document "image" with
      | some (.str image) =>
        if image = "" then throw .yamlImage >>= next else pure image >>= next
      | _ => throw .yamlImage >>= next) = yamlImage document >>= next := by
  unfold yamlImage
  cases PyDict.get? document "image" with
  | none => rfl
  | some value =>
    cases value with
    | str image =>
      dsimp only
      by_cases hEmpty : image = ""
      · rw [if_pos hEmpty, if_pos hEmpty]
        rfl
      · rw [if_neg hEmpty, if_neg hEmpty]
        rfl
    | _ => rfl

theorem yamlResolution_bind {α : Type} (document : PyDict)
    (next : Except PyError PyFloat → Except MapError α) :
    (match PyDict.get? document "resolution" with
      | some value =>
        match number? value with
        | some resolution =>
          if isPositive value then pure resolution >>= next else throw .yamlResolution >>= next
        | none => throw .yamlResolution >>= next
      | none => throw .yamlResolution >>= next) = yamlResolution document >>= next := by
  unfold yamlResolution
  cases PyDict.get? document "resolution" with
  | none => rfl
  | some value =>
    dsimp only
    cases number? value with
    | none => rfl
    | some resolution =>
      dsimp only
      cases isPositive value <;> rfl

theorem yamlOrigin_bind {α : Type} (document : PyDict)
    (next : List (Except PyError PyFloat) → Except MapError α) :
    (match PyDict.get? document "origin" with
      | some (.list values) =>
        if values.length = 3 then
          match values.mapM number? with
          | some origin => pure origin >>= next
          | none => throw .yamlOrigin >>= next
        else throw .yamlOrigin >>= next
      | _ => throw .yamlOrigin >>= next) = yamlOrigin document >>= next := by
  unfold yamlOrigin
  cases PyDict.get? document "origin" with
  | none => rfl
  | some value =>
    cases value with
    | list values =>
      dsimp only
      by_cases hLength : values.length = 3
      · rw [if_pos hLength, if_pos hLength]
        cases values.mapM number? <;> rfl
      · rw [if_neg hLength, if_neg hLength]
        rfl
    | _ => rfl

/-- The checks of a document, one after another. -/
theorem parseMapYaml_dict {data : Bytes} {document : PyDict}
    (hYaml : lib.yaml data = .ok (some (.dict document))) :
    parseMapYaml lib data = do
      let image ← yamlImage document
      let resolution ← yamlResolution document
      let origin ← yamlOrigin document
      let resolution ← resolution.mapError .python
      let _ ← (origin.mapM id).mapError MapError.python
      return (image, resolution) := by
  unfold parseMapYaml
  rw [hYaml]
  exact (yamlImage_bind document _).trans (bind_congr fun image =>
    (yamlResolution_bind document _).trans (bind_congr fun resolution =>
      yamlOrigin_bind document _))

theorem parseMapYaml_unreadable {data : Bytes} (hYaml : lib.yaml data = .ok none) :
    parseMapYaml lib data = .error .yamlSyntax := by
  unfold parseMapYaml
  rw [hYaml]
  rfl

theorem parseMapYaml_python {data : Bytes} {e : PyError} (hYaml : lib.yaml data = .error e) :
    parseMapYaml lib data = .error (.python e) := by
  unfold parseMapYaml
  rw [hYaml]
  rfl

theorem parseMapYaml_other {data : Bytes} {value : PyValue}
    (hYaml : lib.yaml data = .ok (some value)) (hOther : ∀ document, value ≠ .dict document) :
    parseMapYaml lib data = .error .yamlNotMapping := by
  unfold parseMapYaml
  rw [hYaml]
  cases value with
  | dict document => exact absurd rfl (hOther document)
  | _ => rfl

/-- The exceptions that a scan does not catch. -/
def Uncaught (e : MapError) : Prop := (Raised.map e).isMapError = false

theorem not_fails_yamlImage (document : PyDict) : ¬ Fails Uncaught (yamlImage document) := by
  unfold yamlImage
  split
  · split
    · exact fun h => nomatch fails_error.mp h
    · exact not_fails_ok _
  · exact fun h => nomatch fails_error.mp h

theorem not_fails_yamlResolution (document : PyDict) :
    ¬ Fails Uncaught (yamlResolution document) := by
  unfold yamlResolution
  split
  · split
    · split
      · exact not_fails_ok _
      · exact fun h => nomatch fails_error.mp h
    · exact fun h => nomatch fails_error.mp h
  · exact fun h => nomatch fails_error.mp h

theorem not_fails_yamlOrigin (document : PyDict) : ¬ Fails Uncaught (yamlOrigin document) := by
  unfold yamlOrigin
  split
  · split
    · split
      · exact not_fails_ok _
      · exact fun h => nomatch fails_error.mp h
    · exact fun h => nomatch fails_error.mp h
  · exact fun h => nomatch fails_error.mp h

/-- The fields of a document pass their checks, and one of its numbers fits into no double. -/
def Overflows (document : PyDict) : Prop :=
  ∃ image resolution origin, yamlImage document = .ok image ∧
    yamlResolution document = .ok resolution ∧ yamlOrigin document = .ok origin ∧
    ∃ value ∈ resolution :: origin, ∃ e, value = .error e

theorem fails_python {α : Type} {x : Except PyError α} :
    Fails (fun e => Uncaught (.python e)) x ↔ ∃ e, x = .error e :=
  exists_congr fun _ => and_iff_left rfl

theorem fails_parseMapYaml_dict {data : Bytes} {document : PyDict}
    (hYaml : lib.yaml data = .ok (some (.dict document))) :
    Fails Uncaught (parseMapYaml lib data) ↔ Overflows document := by
  rw [parseMapYaml_dict hYaml]
  simp only [fails_bind, fails_mapError, not_fails_yamlImage, not_fails_yamlResolution,
    not_fails_yamlOrigin, false_or, fails_python, mapM_error_iff, id_eq]
  constructor
  · rintro ⟨image, hImage, resolution, hResolution, origin, hOrigin, h⟩
    refine ⟨image, resolution, origin, hImage, hResolution, hOrigin, ?_⟩
    rcases h with hError | ⟨converted, -, ⟨value, hValue, hError⟩ | ⟨values, -, h⟩⟩
    · exact ⟨resolution, List.mem_cons_self, hError⟩
    · exact ⟨value, List.mem_cons_of_mem _ hValue, hError⟩
    · exact absurd h (not_fails_ok _)
  · rintro ⟨image, resolution, origin, hImage, hResolution, hOrigin, value, hValue, hError⟩
    refine ⟨image, hImage, resolution, hResolution, origin, hOrigin, ?_⟩
    cases resolution with
    | error e => exact Or.inl ⟨e, rfl⟩
    | ok converted =>
      refine Or.inr ⟨converted, rfl, Or.inl ⟨value, ?_, hError⟩⟩
      rcases List.mem_cons.mp hValue with rfl | hOrigin
      · exact nomatch hError
      · exact hOrigin

/-! ## Steps that raise nothing else -/

theorem not_fails_safeBasename (mapId : String) : ¬ Fails Uncaught (safeBasename mapId) := by
  unfold safeBasename
  dsimp only
  repeat' split
  all_goals first
    | exact not_fails_ok _
    | exact fun h => nomatch fails_error.mp h

theorem not_fails_checkFiles (fs : FileSystem) (base : FilePath) :
    ¬ Fails Uncaught (Catalog.checkFiles fs base) := by
  unfold Catalog.checkFiles
  repeat' split
  all_goals first
    | exact not_fails_ok _
    | exact fun h => nomatch fails_error.mp h

theorem not_fails_readPgmHeader (data : Bytes) :
    ¬ Fails Uncaught (readPgmHeader lib data) := by
  unfold readPgmHeader
  dsimp only
  repeat' split
  all_goals first
    | exact not_fails_ok _
    | exact fun h => nomatch fails_error.mp h

theorem not_fails_checkArtifact (fs : FileSystem) (base : FilePath)
    (artifact : String × PyValue) : ¬ Fails Uncaught (checkArtifact lib fs base artifact) := by
  unfold checkArtifact
  dsimp only
  repeat' split
  all_goals first
    | exact not_fails_ok _
    | exact fun h => nomatch fails_error.mp h

section Bundles

variable {lib : CatalogLibrary} {disk : Disk} {mapDir : FilePath}

theorem not_fails_checkRaster (fs : FileSystem) (path : FilePath) (image : String) :
    ¬ Fails Uncaught (Catalog.checkRaster lib fs path image) := by
  unfold Catalog.checkRaster
  split
  · exact fun h => nomatch fails_error.mp h
  · rw [fails_bind, not_or]
    refine ⟨not_fails_readPgmHeader _, fun ⟨⟨width, height, maxval⟩, _, h⟩ => ?_⟩
    dsimp only at h
    split at h
    · exact nomatch fails_error.mp h
    · split at h
      · exact nomatch fails_error.mp h
      · exact not_fails_ok _ h

theorem not_fails_checkArtifacts (fs : FileSystem) (base : FilePath) (manifest : PyDict) :
    ¬ Fails Uncaught (Catalog.checkArtifacts lib fs base manifest) := by
  unfold Catalog.checkArtifacts
  split
  · exact not_fails_forM fun artifact _ => not_fails_checkArtifact fs base artifact
  · exact not_fails_ok _

/-! ## Bundles that hide the others -/

/-- `map.yaml` is text, the YAML library raises nothing but its own error on it, and its numbers
fit into doubles. -/
structure YamlReads (lib : CatalogLibrary) (data : Bytes) : Prop where
  text : ∃ text, Paddock.readText (some ⟨data.toArray⟩) = .ok text ∧
    ∀ e, lib.safeLoad text = .error e → e = .yamlError
  numbers : ∀ document, lib.readYaml data = .ok (.dict document) → ¬ Overflows document

/-- The exceptions that a scan does not catch. -/
def Escapes (e : Raised) : Prop := e.isMapError = false

theorem fails_parseMapYaml {data : Bytes} :
    Fails Escapes (Catalog.parseMapYaml lib data) ↔ ¬ YamlReads lib data := by
  have hText : (¬ ∃ text, Paddock.readText (some ⟨data.toArray⟩) = .ok text ∧
      ∀ e, lib.safeLoad text = .error e → e = .yamlError) ↔
      ∃ e, lib.readYaml data = .error e ∧ e ≠ .yamlError := by
    unfold CatalogLibrary.readYaml
    cases Paddock.readText (some ⟨data.toArray⟩) with
    | error e => exact iff_of_true (fun ⟨_, h, _⟩ => nomatch h) ⟨_, rfl, nofun⟩
    | ok text =>
      constructor
      · intro h
        by_contra hNone
        exact h ⟨text, rfl, fun e hError => by_contra fun hOther => hNone ⟨e, hError, hOther⟩⟩
      · rintro ⟨e, hError, hOther⟩ ⟨text', hSame, hQuiet⟩
        cases hSame
        exact hOther (hQuiet e hError)
  have hReads : YamlReads lib data ↔ (∃ text, Paddock.readText (some ⟨data.toArray⟩) = .ok text ∧
      ∀ e, lib.safeLoad text = .error e → e = .yamlError) ∧
      ∀ document, lib.readYaml data = .ok (.dict document) → ¬ Overflows document :=
    ⟨fun h => ⟨h.text, h.numbers⟩, fun h => ⟨h.1, h.2⟩⟩
  rw [hReads, not_and_or, hText]
  unfold Catalog.parseMapYaml
  cases hYaml : lib.readYaml data with
  | error e =>
    cases e with
    | recursionError => exact iff_of_true (fails_error.mpr rfl) (Or.inl ⟨_, rfl, nofun⟩)
    | yamlError =>
      have hBundle : lib.bundle.yaml data = .ok none := by
        unfold CatalogLibrary.bundle
        dsimp only
        rw [hYaml]
      dsimp only
      rw [parseMapYaml_unreadable hBundle]
      refine iff_of_false (fun h => nomatch fails_error.mp h) ?_
      rintro (⟨e, hSame, hOther⟩ | h)
      · cases hSame
        exact hOther rfl
      · exact h nofun
    | python e =>
      have hBundle : lib.bundle.yaml data = .error e := by
        unfold CatalogLibrary.bundle
        dsimp only
        rw [hYaml]
      dsimp only
      rw [parseMapYaml_python hBundle]
      exact iff_of_true (fails_error.mpr rfl) (Or.inl ⟨_, rfl, nofun⟩)
  | ok value =>
    have hBundle := CatalogLibrary.bundle_yaml_ok hYaml
    have hQuiet : ¬ ∃ e, (.ok value : Except YamlError PyValue) = .error e ∧ e ≠ .yamlError :=
      fun ⟨_, h, _⟩ => nomatch h
    dsimp only
    rw [or_iff_right hQuiet, fails_mapError]
    by_cases hDict : ∃ document, value = .dict document
    · obtain ⟨document, rfl⟩ := hDict
      have hUncaught : (fun e => Escapes (.map e)) = Uncaught := rfl
      rw [hUncaught, fails_parseMapYaml_dict hBundle]
      refine ⟨fun h hNone => hNone document rfl h, fun h => ?_⟩
      by_contra hFits
      refine h fun other hSame => ?_
      cases hSame
      exact hFits
    · rw [parseMapYaml_other hBundle fun document hSame => hDict ⟨document, hSame⟩]
      refine iff_of_false (fun h => nomatch fails_error.mp h) fun h => h fun document hSame => ?_
      exact absurd ⟨document, Except.ok.inj hSame⟩ hDict

/-- The files of a bundle that its validation reads, as far as it gets, raise only what a scan
catches. -/
structure Readable (lib : CatalogLibrary) (disk : Disk) (base : FilePath) : Prop where
  yaml : YamlReads lib ((disk.files.file (base ++ [mapYamlName])).getD [])
  raster : ∀ image resolution, Catalog.parseMapYaml lib
      ((disk.files.file (base ++ [mapYamlName])).getD []) = .ok (image, resolution) →
    disk.statFails (resolveImagePath base image) = false
  manifest : ∀ image resolution size, Catalog.parseMapYaml lib
      ((disk.files.file (base ++ [mapYamlName])).getD []) = .ok (image, resolution) →
    Catalog.checkRaster lib disk.files (resolveImagePath base image) image = .ok size →
    ∀ content, disk.files.file (base ++ [manifestName]) = some content →
      lib.readJson content ≠ .error .recursionError

/-- The checks before `map.yaml` is read. -/
def Opened (disk : Disk) (mapDir : FilePath) (name : String) : Prop :=
  safeBasename name = .ok name ∧ Catalog.checkFiles disk.files (mapDir ++ [name]) = .ok ()

theorem fails_readManifest {base : FilePath} :
    Fails Escapes (Catalog.readManifest lib disk base) ↔
      ∃ content, disk.files.file (base ++ [manifestName]) = some content ∧
        lib.readJson content = .error .recursionError := by
  unfold Catalog.readManifest
  cases disk.files.file (base ++ [manifestName]) with
  | none => exact iff_of_false (not_fails_ok _) (fun ⟨_, h, _⟩ => nomatch h)
  | some content =>
    dsimp only
    cases hJson : lib.readJson content with
    | error e =>
      cases e with
      | recursionError => exact iff_of_true (fails_error.mpr rfl) ⟨content, rfl, hJson⟩
      | valueError =>
        refine iff_of_false (not_fails_ok _) ?_
        rintro ⟨_, hSame, h⟩
        cases hSame
        exact nomatch hJson.symm.trans h
    | ok value =>
      refine iff_of_false ?_ ?_
      · cases value <;> exact not_fails_ok _
      · rintro ⟨_, hSame, h⟩
        cases hSame
        exact nomatch hJson.symm.trans h

/-- What reading `map.yaml` raises is raised. -/
theorem validateBundle_error {name : String} {e : Raised} (hOpened : Opened disk mapDir name)
    (hParse : Catalog.parseMapYaml lib
      ((disk.files.file ((mapDir ++ [name]) ++ [mapYamlName])).getD []) = .error e) :
    Catalog.validateBundle lib disk mapDir name = .error e := by
  unfold Catalog.validateBundle mapDirectory
  rw [hOpened.1]
  change ((Catalog.checkFiles disk.files (mapDir ++ [name])).mapError Raised.map >>=
    fun _ => _) = _
  rw [hOpened.2]
  change (Catalog.parseMapYaml lib _ >>= fun _ => _) = _
  rw [hParse]
  rfl

theorem fails_validateBundle {name : String} :
    Fails Escapes (Catalog.validateBundle lib disk mapDir name) ↔
      Opened disk mapDir name ∧ ¬ Readable lib disk (mapDir ++ [name]) := by
  unfold Catalog.validateBundle mapDirectory Opened
  cases hSafe : safeBasename name with
  | error e =>
    have hUncaught : ¬ Uncaught e := fun h =>
      not_fails_safeBasename name (hSafe ▸ fails_error.mpr h)
    change Fails Escapes (.error (.map e)) ↔ _
    exact iff_of_false (fun h => hUncaught ((fails_error (P := Escapes)).mp h))
      (fun h => nomatch h.1.1)
  | ok name' =>
    obtain rfl := safeBasename_eq hSafe
    change Fails Escapes ((Catalog.checkFiles disk.files (mapDir ++ [name'])).mapError .map >>=
      fun _ => _) ↔ _
    cases hFiles : Catalog.checkFiles disk.files (mapDir ++ [name']) with
    | error e =>
      have hUncaught : ¬ Uncaught e := fun h =>
        not_fails_checkFiles disk.files (mapDir ++ [name']) (hFiles ▸ fails_error.mpr h)
      change Fails Escapes (.error (.map e)) ↔ _
      exact iff_of_false (fun h => hUncaught ((fails_error (P := Escapes)).mp h))
        (fun h => nomatch h.1.2)
    | ok _ =>
      rw [and_iff_right ⟨rfl, rfl⟩]
      change Fails Escapes (Catalog.parseMapYaml lib _ >>= fun _ => _) ↔ _
      rw [fails_bind, fails_parseMapYaml]
      constructor
      · rintro (hYaml | ⟨⟨image, resolution⟩, hParse, h⟩) hReadable
        · exact hYaml hReadable.yaml
        · have hStat := hReadable.raster image resolution hParse
          dsimp only at h
          rw [hStat, if_neg Bool.false_ne_true, fails_bind, fails_mapError] at h
          rcases h with h | ⟨size, hSize, h⟩
          · exact not_fails_checkRaster _ _ _ h
          · rw [fails_bind, fails_readManifest] at h
            rcases h with ⟨content, hContent, hDeep⟩ | ⟨manifest, -, h⟩
            · cases hRaster : Catalog.checkRaster lib disk.files
                  (resolveImagePath (mapDir ++ [name']) image) image with
              | error e =>
                rw [hRaster] at hSize
                exact nomatch hSize
              | ok size =>
                exact hReadable.manifest image resolution size hParse hRaster content hContent hDeep
            · cases manifest with
              | none => exact not_fails_ok _ h
              | some manifest =>
                dsimp only at h
                rw [fails_bind, fails_mapError] at h
                rcases h with h | ⟨_, -, h⟩
                · exact not_fails_checkArtifacts _ _ _ h
                · exact not_fails_ok _ h
      · intro hReadable
        by_contra hNone
        rw [not_or, not_not] at hNone
        obtain ⟨hYaml, hRest⟩ := hNone
        have hStat : ∀ image resolution, Catalog.parseMapYaml lib
            ((disk.files.file ((mapDir ++ [name']) ++ [mapYamlName])).getD []) =
              .ok (image, resolution) →
            disk.statFails (resolveImagePath (mapDir ++ [name']) image) = false := by
          intro image resolution hParse
          by_contra hFails
          rw [Bool.not_eq_false] at hFails
          refine hRest ⟨(image, resolution), hParse, ?_⟩
          dsimp only
          rw [hFails, if_pos rfl]
          exact fails_error.mpr rfl
        refine hReadable ⟨hYaml, hStat, ?_⟩
        intro image resolution size hParse hRaster content hContent hDeep
        refine hRest ⟨(image, resolution), hParse, ?_⟩
        dsimp only
        rw [hStat image resolution hParse, if_neg Bool.false_ne_true, hRaster]
        change Fails Escapes (Catalog.readManifest lib disk _ >>= fun _ => _)
        rw [fails_bind]
        exact Or.inl (fails_readManifest.mpr ⟨content, hContent, hDeep⟩)

/-! ## The rows -/

/-- A row of a map. -/
structure CatalogRow (lib : CatalogLibrary) (disk : Disk) (mapDir : FilePath)
    (row : CatalogEntry) : Prop where
  complete : row.complete = true ↔
    ∃ info, Catalog.validateBundle lib disk mapDir row.name = .ok info
  reason : row.complete = false → row.reason.isSome

theorem catalogEntry_ok {selected name : String} {row : CatalogEntry}
    (h : catalogEntry lib disk mapDir selected name = .ok row) :
    row.name = name ∧ CatalogRow lib disk mapDir row := by
  unfold catalogEntry at h
  cases hBundle : Catalog.validateBundle lib disk mapDir name with
  | ok info =>
    rw [hBundle] at h
    cases h
    exact ⟨rfl, iff_of_true rfl ⟨info, hBundle⟩, nofun⟩
  | error e =>
    have hNone : ¬ ∃ info, Catalog.validateBundle lib disk mapDir name = .ok info :=
      fun ⟨_, hInfo⟩ => nomatch hBundle.symm.trans hInfo
    rw [hBundle] at h
    cases e with
    | recursionError => exact nomatch h
    | map e =>
      dsimp only at h
      split at h
      · cases h
        exact ⟨rfl, iff_of_false Bool.false_ne_true hNone, fun _ => rfl⟩
      · exact nomatch h

theorem catalogEntry_ok_iff {selected name : String} :
    (∃ row, catalogEntry lib disk mapDir selected name = .ok row) ↔
      ¬ Fails Escapes (Catalog.validateBundle lib disk mapDir name) := by
  unfold catalogEntry
  cases Catalog.validateBundle lib disk mapDir name with
  | ok info => exact iff_of_true ⟨_, rfl⟩ (not_fails_ok _)
  | error e =>
    rw [fails_error]
    cases e with
    | recursionError => exact iff_of_false (fun ⟨_, h⟩ => nomatch h) (fun h => h rfl)
    | map e =>
      dsimp only [Escapes]
      cases hCaught : (Raised.map e).isMapError with
      | true => exact iff_of_true ⟨_, rfl⟩ Bool.false_ne_true.symm
      | false => exact iff_of_false (fun ⟨_, h⟩ => nomatch h) (fun h => h rfl)

/-- The scan has ended with one row for every map directory and no other one. -/
structure CatalogListed (lib : CatalogLibrary) (disk : Disk) (mapDir : FilePath)
    (rows : List CatalogEntry) : Prop where
  count : ∀ name, (rows.map CatalogEntry.name).count name =
    if name ∈ disk.names ∧ isMapDirectory disk mapDir name then 1 else 0
  row : ∀ row ∈ rows, CatalogRow lib disk mapDir row

theorem mem_mapNames {name : String} (hRoot : disk.files.isDir mapDir = true) :
    name ∈ ((disk.names.mergeSort (· ≤ ·)).filter fun name =>
        disk.files.isDir (mapDir ++ [name]) && isMapName name) ↔
      name ∈ disk.names ∧ isMapDirectory disk mapDir name = true := by
  unfold isMapDirectory
  rw [List.mem_filter, List.mem_mergeSort, hRoot, Bool.true_and]

/-- A scan ends with its rows exactly when every bundle whose `map.yaml` it opens is readable: the
row of a map is made unless its validation raises something other than a `MapError`
(`fails_validateBundle`). -/
theorem scanCatalog_ok_iff (lib : CatalogLibrary) (disk : Disk) (mapDir : FilePath)
    (selected : String) :
    (∃ rows, scanCatalog lib disk mapDir selected = .ok rows) ↔
    ∀ name ∈ disk.names, isMapDirectory disk mapDir name → Opened disk mapDir name →
      Readable lib disk (mapDir ++ [name]) := by
  have hEntry : ∀ name, (∃ row, catalogEntry lib disk mapDir selected name = .ok row) ↔
      (Opened disk mapDir name → Readable lib disk (mapDir ++ [name])) := fun name => by
    rw [catalogEntry_ok_iff, fails_validateBundle, not_and, not_not]
  unfold scanCatalog
  by_cases hRoot : disk.files.isDir mapDir = true
  · rw [hRoot, if_neg (by decide)]
    dsimp only
    rw [mapM_ok_iff]
    refine forall_congr' fun name => ?_
    rw [mem_mapNames hRoot, and_imp, hEntry]
  · rw [Bool.not_eq_true] at hRoot
    rw [hRoot, if_pos (by decide)]
    refine iff_of_true ⟨[], rfl⟩ fun name _ hDir => ?_
    unfold isMapDirectory at hDir
    rw [hRoot, Bool.false_and] at hDir
    exact nomatch hDir

/-- What a scan lists are the map directories, each once. -/
theorem scanCatalog_listed {selected : String} {rows : List CatalogEntry}
    (h : scanCatalog lib disk mapDir selected = .ok rows) :
    CatalogListed lib disk mapDir rows := by
  unfold scanCatalog at h
  by_cases hRoot : disk.files.isDir mapDir = true
  · rw [hRoot, if_neg (by decide)] at h
    obtain ⟨hKeys, hAll⟩ := mapM_keys (fun _ _ => catalogEntry_ok) h
    refine ⟨fun name => ?_, hAll⟩
    have hNodup := ((List.mergeSort_perm disk.names (· ≤ ·)).nodup_iff.mpr
      disk.names_nodup).filter fun name =>
        disk.files.isDir (mapDir ++ [name]) && isMapName name
    rw [hKeys, hNodup.count]
    exact if_congr (mem_mapNames hRoot) rfl rfl
  · rw [Bool.not_eq_true] at hRoot
    rw [hRoot, if_pos (by decide)] at h
    obtain rfl : [] = rows := Except.ok.inj h
    refine ⟨fun name => ?_, List.forall_mem_nil _⟩
    have hNone : isMapDirectory disk mapDir name = false := by
      unfold isMapDirectory
      rw [hRoot, Bool.false_and]
    rw [if_neg fun h => by rw [hNone] at h; exact nomatch h.2]
    rfl

/-- A scan lists the maps exactly when every bundle whose `map.yaml` it opens is readable.
`scanCatalog_ok_iff` says when the scan raises nothing, and `scanCatalog_listed` that a scan which
returns lists every map as it should; so an exception is the one way to fail. -/
theorem scanCatalog_listed_iff (lib : CatalogLibrary) (disk : Disk) (mapDir : FilePath)
    (selected : String) :
    (∃ rows, scanCatalog lib disk mapDir selected = .ok rows ∧
      CatalogListed lib disk mapDir rows) ↔
    ∀ name ∈ disk.names, isMapDirectory disk mapDir name → Opened disk mapDir name →
      Readable lib disk (mapDir ++ [name]) := by
  rw [← scanCatalog_ok_iff lib disk mapDir selected]
  exact exists_congr fun rows => and_iff_left_of_imp scanCatalog_listed

end Bundles

/-! ## A corrupt `map.yaml` -/

/-- Libraries for which no text parses. -/
def strictLibrary : CatalogLibrary where
  safeLoad _ := .error .yamlError
  frames := 900
  dumps _ := []
  sha256 _ := ""
  str _ := ""
  intOfBytes _ := none
  createdIso _ := .error .valueError

/-- Two maps, the first with a `map.yaml` that is no UTF-8. -/
def corruptDisk : Disk where
  files := {
    file path :=
      if path = ["maps", "corrupt", mapYamlName] then some [0xFF]
      else if path ∈ [["maps", "corrupt", posegraphPosegraphName],
          ["maps", "corrupt", posegraphDataName]] then some [1]
      else none
    isDir path := path ∈ [["maps"], ["maps", "corrupt"], ["maps", "good"]] }
  names := ["corrupt", "good"]
  names_nodup := by decide
  statFails _ := false

/-- A scan that meets a `map.yaml` of other bytes ends in a `UnicodeDecodeError`. -/
theorem corrupt_map_hides_catalog :
    ¬ ∃ rows, scanCatalog strictLibrary corruptDisk ["maps"] "" = .ok rows ∧
      CatalogListed strictLibrary corruptDisk ["maps"] rows := by
  have hSorted : corruptDisk.names.mergeSort (· ≤ ·) = ["corrupt", "good"] :=
    List.mergeSort_of_pairwise (by decide)
  have hEntry : catalogEntry strictLibrary corruptDisk ["maps"] "" "corrupt" =
      .error (.map (.python .valueError)) := by
    have hBundle : Catalog.validateBundle strictLibrary corruptDisk ["maps"] "corrupt" =
        .error (.map (.python .valueError)) := by
      have hName : safeBasename "corrupt" = .ok "corrupt" := by decide
      have hFiles : Catalog.checkFiles corruptDisk.files ["maps", "corrupt"] = .ok () := by
        decide
      have hText : Paddock.readText (some ⟨[0xFF].toArray⟩) = .error .valueError := by
        decide
      have hYaml : strictLibrary.readYaml [0xFF] = .error (.python .valueError) := by
        unfold CatalogLibrary.readYaml
        rw [hText]
      have hParse : Catalog.parseMapYaml strictLibrary [0xFF] =
          .error (.map (.python .valueError)) := by
        have hLibrary : strictLibrary.bundle.yaml [0xFF] = .error .valueError := by
          unfold CatalogLibrary.bundle
          dsimp only
          rw [hYaml]
        unfold Catalog.parseMapYaml
        rw [hYaml, parseMapYaml_python hLibrary]
        rfl
      exact validateBundle_error ⟨hName, hFiles⟩ hParse
    unfold catalogEntry
    rw [hBundle]
    rfl
  rintro ⟨rows, hRows, -⟩
  unfold scanCatalog at hRows
  rw [hSorted] at hRows
  change ["corrupt", "good"].mapM _ = _ at hRows
  rw [List.mapM_cons, hEntry] at hRows
  exact nomatch hRows

end PreRunner.Maps
