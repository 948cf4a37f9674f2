import PreRunner.Tuning.SpeedProfiles

/-!
# The store of speed profiles over a run

A profile that is saved is loaded again, whatever else is saved or deleted, and a call that raises
leaves the store alone. One failure is mistaken for an empty store: a save that cannot read the file
replaces it by a store that holds nothing else.

A store is a dictionary by name here, and `afterCall` says what a call should make of it. A profile
is completed when it is saved and when it is loaded, and the second completion changes nothing, so
what was written is read back (`profileOf`).
-/

namespace PreRunner.Tuning

open Runs

/-! ## What the schema accepts -/

theorem exists_field_of_mem_names {name : String}
    (h : name ∈ TuningField.all.map TuningField.name) :
    ∃ field : TuningField, field.name = name := by
  obtain ⟨field, -, hName⟩ := List.mem_map.mp h
  exact ⟨field, hName⟩

theorem firstError?_eq_none_iff {values : PyDict} :
    firstError? values = none ↔ ∀ item ∈ values, ∃ value, number item.1 item.2 = .ok value := by
  unfold firstError?
  rw [List.findSome?_eq_none_iff]
  refine forall₂_congr fun item _ => ?_
  obtain ⟨name, value⟩ := item
  dsimp only
  cases number name value with
  | error error => exact iff_of_false nofun fun ⟨_, h⟩ => nomatch h
  | ok value => exact iff_of_true rfl ⟨value, rfl⟩

theorem normalized_eq {values : PyDict} {field : TuningField} {value : PyValue} {number' : ℚ}
    (hLookup : values.lookup field.name = some value)
    (hNumber : number field.name value = .ok number') : normalized values field = number' := by
  unfold normalized PyDict.get?
  rw [hLookup, Option.map_some, hNumber]
  rfl

/-- The keys of a dictionary are these. -/
def KeysAre (values : PyDict) (fields : List TuningField) : Prop :=
  values.map (·.1) ⊆ fields.map TuningField.name ∧ fields.map TuningField.name ⊆ values.map (·.1)

/-- The fields of a dictionary are these numbers. -/
def Numbers (values : PyDict) (fields : List TuningField) (snapshot : TuningSnapshot) : Prop :=
  ∀ field ∈ fields, ∃ value, values.lookup field.name = some value ∧
    number field.name value = .ok (snapshot field)

/-- A dictionary is accepted as a snapshot exactly if it consists of acceptable numbers. -/
theorem validateValues_ok_iff {values : PyDict} (hNodup : (values.map (·.1)).Nodup)
    {snapshot : TuningSnapshot} :
    validateValues values = .ok snapshot ↔ KeysAre values TuningField.all ∧
      Numbers values TuningField.all snapshot ∧ Acceptable snapshot := by
  constructor
  · intro h
    obtain ⟨rfl, hAccepted⟩ := validateValues_ok h
    unfold validateValues at h
    dsimp only at h
    split at h
    · exact nomatch h
    rename_i hKeys
    split at h
    · exact nomatch h
    rename_i hNumbers
    refine ⟨not_not.mp hKeys, fun field hField => ?_, hAccepted⟩
    obtain ⟨item, hMem, hName⟩ := List.mem_map.mp
      ((not_not.mp hKeys).2 (List.mem_map_of_mem hField))
    obtain ⟨value, hValue⟩ := firstError?_eq_none_iff.mp hNumbers item hMem
    rw [hName] at hValue
    have hLookup : values.lookup field.name = some item.2 :=
      (lookup_eq_some_iff_mem hNodup).mpr (hName ▸ hMem)
    exact ⟨item.2, hLookup, by rw [normalized_eq hLookup hValue]; exact hValue⟩
  · rintro ⟨hKeys, hNumbers, hAccepted⟩
    have hSnapshot : normalized values = snapshot := by
      funext field
      obtain ⟨value, hLookup, hValue⟩ := hNumbers field (TuningField.mem_all field)
      exact normalized_eq hLookup hValue
    have hFirst : firstError? values = none := by
      refine firstError?_eq_none_iff.mpr fun item hMem => ?_
      obtain ⟨field, hName⟩ := exists_field_of_mem_names (hKeys.1 (List.mem_map_of_mem hMem))
      obtain ⟨value, hLookup, hValue⟩ := hNumbers field (TuningField.mem_all field)
      have hItem := (lookup_eq_some_iff_mem hNodup).mpr hMem
      rw [← hName, hLookup] at hItem
      rw [← hName, ← Option.some.inj hItem]
      exact ⟨_, hValue⟩
    obtain ⟨hSub, hSup⟩ := hKeys
    unfold validateValues
    dsimp only
    rw [if_neg (not_not.mpr ⟨hSub, hSup⟩), hFirst, hSnapshot]
    dsimp only
    rw [error?_eq_none_iff.mpr hAccepted]

/-! ## What a profile is loaded as -/

/-- The values that complete a profile. -/
def neutralSnapshot : TuningSnapshot := normalized neutralCompletionValues

/-- A snapshot with the neutral values outside a profile. -/
def NeutralOutside (snapshot : TuningSnapshot) : Prop :=
  ∀ field, field ∉ speedProfileFields → snapshot field = neutralSnapshot field

theorem nodup_names : (TuningField.all.map TuningField.name).Nodup := by decide +kernel

theorem neutral_keys :
    (neutralCompletionValues.map (·.1)).Nodup ∧
    neutralCompletionValues.map (·.1) ⊆ TuningField.all.map TuningField.name ∧
    ∀ field ∈ TuningField.all, field ∉ speedProfileFields →
      (neutralCompletionValues.lookup field.name).isSome = true := by
  decide +kernel

theorem neutral_values :
    (∀ field ∈ TuningField.all, field ∉ speedProfileFields → field ∉ notPositiveFields →
      0 < neutralSnapshot field) ∧
    neutralSnapshot .feedforwardEffortPerSpeed = 1 / 10 ^ 6 ∧
    neutralSnapshot .feedforwardEffortIntercept = 0 ∧
    neutralSnapshot .integralGain = 0 ∧
    neutralSnapshot .outputMax = absoluteOutputMax ∧
    2 / 10 ^ 6 ≤ absoluteOutputMax := by
  decide +kernel

theorem numbers_neutral {field : TuningField} (h : field ∉ speedProfileFields) :
    ∃ value, neutralCompletionValues.lookup field.name = some value ∧
      number field.name value = .ok (neutralSnapshot field) := by
  obtain ⟨hNodup, -, hKeys⟩ := neutral_keys
  have hFinite : ∀ item ∈ neutralCompletionValues, ∃ value, item.2 = .float (.finite value) := by
    simp [neutralCompletionValues]
  obtain ⟨value, hLookup⟩ :=
    Option.isSome_iff_exists.mp (hKeys field (TuningField.mem_all field) h)
  obtain ⟨number', rfl⟩ := hFinite _ ((lookup_eq_some_iff_mem hNodup).mp hLookup)
  exact ⟨_, hLookup, congrArg Except.ok (normalized_eq hLookup rfl).symm⟩

theorem name_injective {a b : TuningField} (h : a.name = b.name) : a = b :=
  List.inj_on_of_nodup_map nodup_names (TuningField.mem_all a) (TuningField.mem_all b) h

theorem mem_names_iff {field : TuningField} {fields : List TuningField} :
    field.name ∈ fields.map TuningField.name ↔ field ∈ fields := by
  refine ⟨fun h => ?_, List.mem_map_of_mem⟩
  obtain ⟨other, hMem, hName⟩ := List.mem_map.mp h
  exact name_injective hName ▸ hMem

theorem nodup_neutral (raw : PyDict) :
    ((PyDict.updated neutralCompletionValues raw).map (·.1)).Nodup :=
  PyDict.nodup_updated neutral_keys.1

section Completed

variable {raw : PyDict} {field : TuningField}

theorem lookup_completed_of_mem (hNodup : (raw.map (·.1)).Nodup)
    (hKeys : KeysAre raw speedProfileFields)
    (h : field ∈ speedProfileFields) :
    (PyDict.updated neutralCompletionValues raw).lookup field.name = raw.lookup field.name := by
  have hSome : raw.lookup field.name ≠ none := fun hNone =>
    lookup_eq_none_iff_not_mem.mp hNone (hKeys.2 (mem_names_iff.mpr h))
  obtain ⟨value, hValue⟩ := Option.ne_none_iff_exists'.mp hSome
  rw [PyDict.lookup_updated hNodup, hValue, Option.some_or]

theorem lookup_completed_of_not_mem (hNodup : (raw.map (·.1)).Nodup)
    (hKeys : KeysAre raw speedProfileFields) (h : field ∉ speedProfileFields) :
    (PyDict.updated neutralCompletionValues raw).lookup field.name =
      neutralCompletionValues.lookup field.name := by
  have hNone : raw.lookup field.name = none := lookup_eq_none_iff_not_mem.mpr fun hMem =>
    h (mem_names_iff.mp (hKeys.1 hMem))
  rw [PyDict.lookup_updated hNodup, hNone, Option.none_or]

theorem keysAre_completed (hKeys : KeysAre raw speedProfileFields) :
    KeysAre (PyDict.updated neutralCompletionValues raw) TuningField.all := by
  constructor
  · intro key hKey
    rcases PyDict.mem_keys_updated.mp hKey with hNeutral | hRaw
    · exact neutral_keys.2.1 hNeutral
    · obtain ⟨field, -, rfl⟩ := List.mem_map.mp (hKeys.1 hRaw)
      exact List.mem_map_of_mem (TuningField.mem_all field)
  · intro name hName
    obtain ⟨field, rfl⟩ := exists_field_of_mem_names hName
    refine PyDict.mem_keys_updated.mpr ?_
    by_cases h : field ∈ speedProfileFields
    · exact Or.inr (hKeys.2 (mem_names_iff.mpr h))
    · obtain ⟨value, hValue, -⟩ := numbers_neutral h
      refine Or.inl (Classical.not_not.mp fun hNot => ?_)
      rw [lookup_eq_none_iff_not_mem.mpr hNot] at hValue
      cases hValue

end Completed

/-- A stored profile is loaded exactly if its fields are numbers that are acceptable together. -/
theorem validate_neutral_ok_iff {raw : PyDict} (hNodup : (raw.map (·.1)).Nodup) {values : PyDict} :
    validateSpeedProfileSnapshot raw neutralCompletionValues = .ok values ↔
      KeysAre raw speedProfileFields ∧ ∃ snapshot, Numbers raw speedProfileFields snapshot ∧
        NeutralOutside snapshot ∧ Acceptable snapshot ∧ values = profileValues snapshot := by
  constructor
  · intro h
    unfold validateSpeedProfileSnapshot at h
    dsimp only at h
    split at h
    · exact nomatch h
    rename_i hNot
    have hKeys : KeysAre raw speedProfileFields := not_not.mp hNot
    split at h
    · exact nomatch h
    rename_i snapshot hValid
    cases h
    obtain ⟨-, hNumbers, hAccepted⟩ := (validateValues_ok_iff (nodup_neutral raw)).mp hValid
    refine ⟨hKeys, snapshot, fun field hField => ?_, fun field hField => ?_, hAccepted, rfl⟩
    · obtain ⟨value, hLookup, hValue⟩ := hNumbers field (TuningField.mem_all field)
      rw [lookup_completed_of_mem hNodup hKeys hField] at hLookup
      exact ⟨value, hLookup, hValue⟩
    · obtain ⟨value, hLookup, hValue⟩ := hNumbers field (TuningField.mem_all field)
      obtain ⟨neutral, hNeutral, hNumber⟩ := numbers_neutral hField
      rw [lookup_completed_of_not_mem hNodup hKeys hField, hNeutral] at hLookup
      rw [← Option.some.inj hLookup, hNumber] at hValue
      exact (Except.ok.inj hValue).symm
  · rintro ⟨hKeys, snapshot, hNumbers, hNeutral, hAccepted, rfl⟩
    have hValid : validateValues (PyDict.updated neutralCompletionValues raw) = .ok snapshot := by
      refine (validateValues_ok_iff (nodup_neutral raw)).mpr
        ⟨keysAre_completed hKeys, fun field _ => ?_, hAccepted⟩
      by_cases hField : field ∈ speedProfileFields
      · rw [lookup_completed_of_mem hNodup hKeys hField]
        exact hNumbers field hField
      · rw [lookup_completed_of_not_mem hNodup hKeys hField, hNeutral field hField]
        exact numbers_neutral hField
    obtain ⟨hSub, hSup⟩ := hKeys
    unfold validateSpeedProfileSnapshot
    dsimp only
    rw [if_neg (not_not.mpr ⟨hSub, hSup⟩), hValid]

/-! ## The completion is neutral -/

theorem neutral_positive (field : TuningField) (hField : field ∉ speedProfileFields)
    (h : field ∉ notPositiveFields) : 0 < neutralSnapshot field :=
  neutral_values.1 field (TuningField.mem_all field) hField h

theorem neutral_feedforward {completed : TuningSnapshot}
    (h : NeutralOutside completed) (speed : ℚ) :
    feedforwardAt completed speed = speed / 10 ^ 6 := by
  obtain ⟨-, hSlope, hIntercept, -⟩ := neutral_values
  unfold feedforwardAt
  rw [h .feedforwardEffortPerSpeed (by decide), h .feedforwardEffortIntercept (by decide), hSlope,
    hIntercept, add_zero, one_div_mul_eq_div]

/-- The values that complete a profile never lead to a rejection. -/
theorem acceptable_neutral {snapshot completed : TuningSnapshot} (h : Acceptable snapshot)
    (hSame : ∀ field ∈ speedProfileFields, completed field = snapshot field)
    (hNeutral : NeutralOutside completed) : Acceptable completed := by
  obtain ⟨-, -, -, hNoIntegral, hWhole, hSlow⟩ := neutral_values
  have hOutput : completed .outputMax = absoluteOutputMax :=
    (hNeutral .outputMax (by decide)).trans hWhole
  have hIntegral : completed .integralGain = 0 :=
    (hNeutral .integralGain (by decide)).trans hNoIntegral
  have hCeiling : completed .maximumCommandedSpeed = snapshot .maximumCommandedSpeed :=
    hSame _ (by decide)
  have hMin : 0 < snapshot .maximumCommandedSpeed := h.positive _ (by decide)
  have hMax : snapshot .maximumCommandedSpeed ≤ 2 := h.ceiling
  constructor
  case positive =>
    intro field hField
    by_cases hMem : field ∈ speedProfileFields
    · exact hSame field hMem ▸ h.positive field hField
    · exact hNeutral field hMem ▸ neutral_positive field hMem hField
  case integralGain => exact hIntegral.ge
  case nonnegative =>
    intro field hField
    have hMem : ∀ field ∈ nonnegative, field ∈ speedProfileFields := by decide
    exact hSame field (hMem field hField) ▸ h.nonnegative field hField
  case curveFamily => exact hSame .clearanceCurveFamily (by decide) ▸ h.curveFamily
  case clearance =>
    rw [hSame .tightClearance (by decide), hSame .openClearance (by decide)]
    exact h.clearance
  case regulated =>
    rw [hSame .regulatedLinearScalingMinSpeed (by decide), hSame .desiredLinearVel (by decide)]
    exact h.regulated
  case nominal =>
    rw [hCeiling, hSame .desiredLinearVel (by decide)]
    exact h.nominal
  case ceiling => exact hCeiling ▸ h.ceiling
  case lookahead =>
    rw [hSame .minLookaheadDist (by decide), hSame .maxLookaheadDist (by decide)]
    exact h.lookahead
  case feedforwardMaximum =>
    rw [neutral_feedforward hNeutral, hCeiling]
    positivity
  case feedforwardMinimum =>
    rw [neutral_feedforward hNeutral]
    norm_num
  case output => exact hOutput.le
  case reach =>
    rw [neutral_feedforward hNeutral, hCeiling, hOutput]
    calc snapshot .maximumCommandedSpeed / 10 ^ 6 ≤ 2 / 10 ^ 6 := by gcongr
      _ ≤ absoluteOutputMax := hSlow

/-! ## Reading what was written -/

theorem number_sorted (name : String) (value : PyValue) :
    number name value.sorted = number name value := by
  cases value <;> rfl

theorem keysAre_sorted {raw : PyDict} {fields : List TuningField} :
    KeysAre raw.sorted fields ↔ KeysAre raw fields := by
  unfold KeysAre
  rw [(PyDict.keys_sorted raw).subset_congr_left, (PyDict.keys_sorted raw).subset_congr_right]

theorem numbers_sorted {raw : PyDict} (hNodup : (raw.map (·.1)).Nodup) {fields : List TuningField}
    {snapshot : TuningSnapshot} : Numbers raw.sorted fields snapshot ↔
    Numbers raw fields snapshot := by
  refine forall₂_congr fun field _ => ?_
  rw [PyDict.lookup_sorted hNodup]
  constructor
  · rintro ⟨value, hLookup, hNumber⟩
    obtain ⟨value', hLookup', rfl⟩ := Option.map_eq_some_iff.mp hLookup
    exact ⟨value', hLookup', (number_sorted _ _).symm.trans hNumber⟩
  · rintro ⟨value, hLookup, hNumber⟩
    exact ⟨value.sorted, by rw [hLookup]; rfl, (number_sorted _ _).trans hNumber⟩

/-- A profile whose keys have been put in order is loaded as before. -/
theorem validate_sorted_ok_iff {raw : PyDict} (hNodup : (raw.map (·.1)).Nodup) {values : PyDict} :
    validateSpeedProfileSnapshot raw.sorted neutralCompletionValues = .ok values ↔
      validateSpeedProfileSnapshot raw neutralCompletionValues = .ok values := by
  have hSorted := (PyDict.keys_sorted raw).symm.nodup hNodup
  rw [validate_neutral_ok_iff hSorted, validate_neutral_ok_iff hNodup, keysAre_sorted]
  simp only [numbers_sorted hNodup]

theorem keys_profileValues (snapshot : TuningSnapshot) :
    (profileValues snapshot).map (·.1) = speedProfileFields.map TuningField.name := by
  unfold profileValues
  rw [List.map_map]
  rfl

theorem nodup_profileValues (snapshot : TuningSnapshot) :
    ((profileValues snapshot).map (·.1)).Nodup := by
  rw [keys_profileValues]
  exact (by decide : speedProfileFields.Nodup).map fun _ _ => name_injective

/-- What `save_profile` stores is loaded as what it returned. -/
theorem validate_profileValues {snapshot : TuningSnapshot} (h : Acceptable snapshot) :
    validateSpeedProfileSnapshot (profileValues snapshot) neutralCompletionValues =
      .ok (profileValues snapshot) := by
  let completed : TuningSnapshot := fun field =>
    if field ∈ speedProfileFields then snapshot field else neutralSnapshot field
  have hSame : ∀ field ∈ speedProfileFields, completed field = snapshot field := fun field hField =>
    if_pos hField
  have hNeutral : NeutralOutside completed := fun field hField => if_neg hField
  refine (validate_neutral_ok_iff (nodup_profileValues snapshot)).mpr
    ⟨?_, completed, fun field hField => ?_, hNeutral, acceptable_neutral h hSame hNeutral, ?_⟩
  · unfold KeysAre
    rw [keys_profileValues]
    exact ⟨List.Subset.refl _, List.Subset.refl _⟩
  · refine ⟨_, lookup_map_key _ (fun _ _ _ _ hName => name_injective hName) hField, ?_⟩
    rw [hSame field hField]
    rfl
  · refine List.map_congr_left fun field hField => ?_
    rw [hSame field hField]

/-! ## The store as a map -/

section

variable {json : JsonLibrary} {strip : String → String}

/-- What is loaded of a store under a name. -/
def profileOf (store : PyDict) (name : String) : Except ProfileError PyDict :=
  match PyDict.get? store name with
  | none => .error (.keyError name)
  | some (.dict raw) =>
    let names := speedProfileFields.map TuningField.name
    let keys := raw.map (·.1)
    if keys ⊆ names ∧ names ⊆ keys then validateSpeedProfileSnapshot raw neutralCompletionValues
    else .error (.corrupt name)
  | some _ => .error (.corrupt name)

theorem profileOf_ok_iff {store : PyDict} {name : String} {values : PyDict} :
    profileOf store name = .ok values ↔ ∃ raw, store.lookup name = some (.dict raw) ∧
      validateSpeedProfileSnapshot raw neutralCompletionValues = .ok values := by
  unfold profileOf PyDict.get?
  constructor
  · intro h
    split at h
    · exact nomatch h
    · rename_i raw hRaw
      dsimp only at h
      split at h
      · exact ⟨raw, hRaw, h⟩
      · exact nomatch h
    · exact nomatch h
  · rintro ⟨raw, hRaw, hValid⟩
    rw [hRaw]
    dsimp only
    rw [hValid]
    refine ite_eq_left_iff.mpr fun hNot => ?_
    unfold validateSpeedProfileSnapshot at hValid
    dsimp only at hValid
    rw [if_pos hNot] at hValid
    exact nomatch hValid

/-- The profiles that can be loaded. -/
def stored (file : StoreFile json) (name : String) : Option PyDict :=
  (loadProfile name file {}).toOption

/-- The profiles of a store that has been read. -/
def profiles (store : PyDict) (name : String) : Option PyDict := (profileOf store name).toOption

theorem profiles_eq_some_iff {store : PyDict} {name : String} {values : PyDict} :
    profiles store name = some values ↔ ∃ raw, store.lookup name = some (.dict raw) ∧
      validateSpeedProfileSnapshot raw neutralCompletionValues = .ok values := by
  rw [← profileOf_ok_iff]
  unfold profiles
  cases profileOf store name with
  | error error => exact iff_of_false nofun nofun
  | ok values' =>
    exact ⟨fun h => congrArg _ (Option.some.inj h), fun h => congrArg _ (Except.ok.inj h)⟩

theorem stored_of_read {file : StoreFile json} {store : PyDict} (h : readStore file {} = .ok store)
    {name : String} (hName : name ≠ baselineName) : stored file name = profiles store name := by
  have hLoad : loadProfile name file {} = readStore file {} >>= fun store => profileOf store name :=
    if_neg hName
  unfold stored profiles
  rw [hLoad, h]
  rfl

/-- A store that has been written and read again has the same profiles. -/
theorem profiles_sorted {store : PyDict}
    (h : (PyValue.dict store).distinct = true) (name : String) :
    profiles store.sorted name = profiles store name := by
  have hNodup := PyValue.nodup_of_distinct h
  refine Option.ext fun values => ?_
  rw [profiles_eq_some_iff, profiles_eq_some_iff]
  constructor
  · rintro ⟨raw, hRaw, hValid⟩
    rw [PyDict.lookup_sorted hNodup] at hRaw
    obtain ⟨value, hValue, hEq⟩ := Option.map_eq_some_iff.mp hRaw
    cases value with
    | dict raw' =>
      cases hEq
      have hDistinct := PyValue.nodup_of_distinct (PyValue.distinct_of_lookup h hValue)
      exact ⟨raw', hValue, (validate_sorted_ok_iff hDistinct).mp hValid⟩
    | none | bool _ | int _ | float _ | str _ | list _ => exact nomatch hEq
  · rintro ⟨raw, hRaw, hValid⟩
    have hDistinct := PyValue.nodup_of_distinct (PyValue.distinct_of_lookup h hRaw)
    refine ⟨PyDict.sorted raw, ?_, (validate_sorted_ok_iff hDistinct).mpr hValid⟩
    rw [PyDict.lookup_sorted hNodup, hRaw]
    rfl

theorem readStore_read {file : StoreFile json} {faults : StoreFaults} (h : faults.read = false) :
    readStore file faults = readStore file {} := by
  unfold readStore
  rw [h]

/-- A file that cannot be read is taken for an empty store. -/
theorem readStore_fault {file : StoreFile json} {faults : StoreFaults} (h : faults.read = true) :
    readStore file faults = .ok [] := by
  unfold readStore
  rw [h]

theorem distinct_nil : (PyValue.dict []).distinct = true := rfl

theorem distinct_readStore {file : StoreFile json} {faults : StoreFaults} {store : PyDict}
    (h : readStore file faults = .ok store) : (PyValue.dict store).distinct = true := by
  cases hRead : faults.read with
  | true =>
    rw [readStore_fault hRead] at h
    exact Except.ok.inj h ▸ distinct_nil
  | false =>
    rw [readStore_read hRead] at h
    cases file with
    | none => exact Except.ok.inj h ▸ distinct_nil
    | some file =>
      unfold readStore at h
      dsimp only at h
      split at h
      · exact Except.ok.inj h ▸ distinct_nil
      · exact nomatch h
      · rename_i raw hLoads
        split at h
        · rename_i profiles hProfiles
          cases h
          exact PyValue.distinct_of_lookup (json.distinct_loads _ _ hLoads) hProfiles
        · exact Except.ok.inj h ▸ distinct_nil
      · exact Except.ok.inj h ▸ distinct_nil

theorem write_of_writeStore {store : PyDict} {faults : StoreFaults} {written : json.File}
    (h : writeStore store faults = .ok written) : faults.write = false := by
  unfold writeStore at h
  split at h
  · exact nomatch h
  · split at h
    · exact nomatch h
    · rename_i hWrite
      exact Bool.eq_false_iff.mpr hWrite

theorem readStore_writeStore {store : PyDict} {faults : StoreFaults} {written : json.File}
    (hDistinct : (PyValue.dict store).distinct = true)
    (h : writeStore store faults = .ok written) :
    readStore (some written) {} = .ok (PyDict.sorted store) := by
  have hDocument : (PyValue.dict [("profiles", .dict store)]).distinct = true := by
    refine PyValue.distinct_dict_iff.mpr ⟨List.nodup_singleton _, fun member hMem => ?_⟩
    rw [List.mem_singleton.mp hMem]
    exact hDistinct
  have hLoads : json.loads written = .ok (.dict [("profiles", .dict (PyDict.sorted store))]) := by
    unfold writeStore at h
    split at h
    · exact nomatch h
    · rename_i file hDumps
      split at h
      · exact nomatch h
      · cases h
        exact json.loads_dumps _ _ hDocument hDumps
  unfold readStore
  dsimp only
  rw [hLoads]
  rfl

/-- What is loaded after a store has been written. -/
theorem stored_written {store : PyDict} {faults : StoreFaults} {written : json.File}
    (hDistinct : (PyValue.dict store).distinct = true)
    (h : writeStore store faults = .ok written) {name : String} (hName : name ≠ baselineName) :
    stored (some written) name = profiles store name := by
  rw [stored_of_read (readStore_writeStore hDistinct h) hName, profiles_sorted hDistinct]

/-- `load_profile(BASELINE_NAME)`. -/
def baselineProfile : PyDict :=
  profileValues (normalized (PyDict.updated neutralCompletionValues baselineValues))

/-- The baseline does not depend on the file. -/
theorem stored_baseline (file : StoreFile json) :
    stored file baselineName = some baselineProfile := by
  have hKeys : baselineValues.map (·.1) ⊆ speedProfileFields.map TuningField.name ∧
      speedProfileFields.map TuningField.name ⊆ baselineValues.map (·.1) := by
    decide +kernel
  have hSome : (validateValues
      (PyDict.updated neutralCompletionValues baselineValues)).toOption.isSome = true := by
    decide +kernel
  have hLoad : loadProfile baselineName file {} = .ok baselineProfile := by
    unfold loadProfile validateSpeedProfileSnapshot
    rw [if_pos rfl]
    dsimp only
    rw [if_neg (not_not.mpr hKeys)]
    cases hValues : validateValues (PyDict.updated neutralCompletionValues baselineValues) with
    | error error =>
      rw [hValues] at hSome
      exact nomatch hSome
    | ok normalized => rw [(validateValues_ok hValues).1]; rfl
  unfold stored
  rw [hLoad]
  rfl

/-! ## One call -/

/-- The profiles after a call, given its outcome: a profile is saved under the stripped name or
deleted, and nothing else changes. -/
def afterCall (strip : String → String) (call : StoreCall) (outcome : Except ProfileError PyDict)
    (profiles : String → Option PyDict) : String → Option PyDict :=
  match call.operation, outcome with
  | .save name _ _, .ok validated => Function.update profiles (strip name) (some validated)
  | .delete name, .ok _ => Function.update profiles name none
  | _, _ => profiles

/-- A save that writes has read the store, or there is no other profile in it. -/
def ReadsStore (strip : String → String) (call : StoreCall) (file : StoreFile json) : Prop :=
  ∀ name snapshot currentValues values, call.operation = .save name snapshot currentValues →
    strip name ≠ "" → strip name ≠ baselineName →
    validateSpeedProfileSnapshot snapshot currentValues = .ok values →
    call.faults.read = true → call.faults.write = false →
    ∀ other, other ≠ strip name → other ≠ baselineName → stored file other = none

/-- What a call does to the profiles that can be loaded. -/
structure KeepsProfiles (strip : String → String) (call : StoreCall) (file : StoreFile json) :
    Prop where
  after : stored (call.run strip file).2 =
    afterCall strip call (call.run strip file).1 (stored file)
  validated : ∀ name snapshot currentValues values,
    call.operation = .save name snapshot currentValues → (call.run strip file).1 = .ok values →
      validateSpeedProfileSnapshot snapshot currentValues = .ok values
  immutable : ∀ name snapshot currentValues,
    (call.operation = .save name snapshot currentValues ∧ strip name = baselineName) ∨
      call.operation = .delete baselineName → (call.run strip file).1 = .error .immutable

theorem saveProfile_ok {name : String} {snapshot currentValues validated : PyDict}
    {file : StoreFile json} {faults : StoreFaults} {written : json.File}
    (h : saveProfile strip name snapshot currentValues file faults = .ok (validated, written)) :
    strip name ≠ "" ∧ strip name ≠ baselineName ∧
      validateSpeedProfileSnapshot snapshot currentValues = .ok validated ∧
      ∃ store, readStore file faults = .ok store ∧
        writeStore (PyDict.assign store (strip name) (.dict validated)) faults = .ok written := by
  unfold saveProfile at h
  dsimp only at h
  split at h
  · exact nomatch h
  rename_i hEmpty
  split at h
  · exact nomatch h
  rename_i hBaseline
  obtain ⟨values, hValid, h⟩ := ok_of_bind h
  obtain ⟨store, hRead, h⟩ := ok_of_bind h
  obtain ⟨file', hWrite, h⟩ := ok_of_bind h
  cases h
  exact ⟨hEmpty, hBaseline, hValid, store, hRead, hWrite⟩

theorem deleteProfile_ok {name : String} {file : StoreFile json} {faults : StoreFaults}
    {written : json.File} (h : deleteProfile name file faults = .ok written) :
    name ≠ baselineName ∧ ∃ store, readStore file faults = .ok store ∧ store.lookup name ≠ none ∧
      writeStore (store.filter (·.1 ≠ name)) faults = .ok written := by
  unfold deleteProfile at h
  split at h
  · exact nomatch h
  rename_i hBaseline
  obtain ⟨store, hRead, h⟩ := ok_of_bind h
  split at h
  · exact nomatch h
  rename_i hSome
  exact ⟨hBaseline, store, hRead, fun hNone => hSome (Option.isNone_iff_eq_none.mpr hNone), h⟩

/-- What `validate_speed_profile_snapshot` returns is loaded as it is. -/
theorem profile_of_validated {snapshot currentValues validated : PyDict}
    (h : validateSpeedProfileSnapshot snapshot currentValues = .ok validated) :
    (PyValue.dict validated).distinct = true ∧
      validateSpeedProfileSnapshot validated neutralCompletionValues = .ok validated := by
  unfold validateSpeedProfileSnapshot at h
  dsimp only at h
  split at h
  · exact nomatch h
  split at h
  · exact nomatch h
  rename_i normalized hValid
  cases h
  refine ⟨PyValue.distinct_dict_iff.mpr ⟨nodup_profileValues normalized, fun member hMem => ?_⟩,
    validate_profileValues (validateValues_ok hValid).2⟩
  obtain ⟨field, -, rfl⟩ := List.mem_map.mp hMem
  rfl

/-- A save that succeeds adds its profile to those of the store that it has read. -/
theorem stored_save {name : String} {snapshot currentValues validated : PyDict}
    {file : StoreFile json} {faults : StoreFaults} {written : json.File}
    (h : saveProfile strip name snapshot currentValues file faults = .ok (validated, written)) :
    ∃ store, readStore file faults = .ok store ∧ ∀ other, other ≠ baselineName →
      stored (some written) other =
        Function.update (profiles store) (strip name) (some validated) other := by
  obtain ⟨-, -, hValid, store, hRead, hWrite⟩ := saveProfile_ok h
  obtain ⟨hDistinct, hLoaded⟩ := profile_of_validated hValid
  have hStore : (PyValue.dict (PyDict.assign store (strip name) (.dict validated))).distinct =
    true :=
    PyValue.distinct_assign (distinct_readStore hRead) hDistinct
  refine ⟨store, hRead, fun other hOther => ?_⟩
  rw [stored_written hStore hWrite hOther]
  by_cases hName : other = strip name
  · subst hName
    rw [Function.update_self]
    exact profiles_eq_some_iff.mpr ⟨validated, PyDict.lookup_assign_self _ _ _, hLoaded⟩
  · rw [Function.update_of_ne hName]
    refine Option.ext fun values => ?_
    rw [profiles_eq_some_iff, profiles_eq_some_iff, PyDict.lookup_assign_of_ne hName]

theorem stored_eq_profiles {file : StoreFile json} {faults : StoreFaults} {store : PyDict}
    (hRead : readStore file faults = .ok store) (hFault : faults.read = false) {name : String}
    (hName : name ≠ baselineName) : stored file name = profiles store name :=
  stored_of_read (readStore_read hFault ▸ hRead) hName

theorem StoreCall.run_save {call : StoreCall} {file : StoreFile json} {name : String}
    {snapshot currentValues : PyDict} (hCall : call.operation = .save name snapshot currentValues) :
    call.run strip file =
      match saveProfile strip name snapshot currentValues file call.faults with
      | .error error => (.error error, file)
      | .ok (validated, written) => (.ok validated, some written) := by
  obtain ⟨operation, faults⟩ := call
  cases hCall
  rfl

theorem keepsProfiles_save {call : StoreCall} {file : StoreFile json} {name : String}
    {snapshot currentValues : PyDict} (hCall : call.operation = .save name snapshot currentValues)
    (h : ReadsStore strip call file) : KeepsProfiles strip call file := by
  have hRun := @StoreCall.run_save _ strip _ file _ _ _ hCall
  cases hSave : saveProfile strip name snapshot currentValues file call.faults with
  | error error =>
    rw [hSave] at hRun
    constructor
    case after =>
      rw [hRun]
      unfold afterCall
      rw [hCall]
    case validated =>
      intro _ _ _ values _ hOk
      rw [hRun] at hOk
      cases hOk
    case immutable =>
      rintro name' snapshot' currentValues' (⟨hSame, hName⟩ | hDelete)
      · rw [hCall] at hSame
        cases hSame
        rw [hRun]
        unfold saveProfile at hSave
        dsimp only at hSave
        rw [hName, if_neg (by decide), if_pos rfl] at hSave
        exact hSave ▸ rfl
      · exact nomatch hCall.symm.trans hDelete
  | ok outcome =>
    obtain ⟨validated, written⟩ := outcome
    rw [hSave] at hRun
    obtain ⟨hEmpty, hBaseline, hValid, _, _, hWrite⟩ := saveProfile_ok hSave
    constructor
    case after =>
      rw [hRun]
      unfold afterCall
      rw [hCall]
      dsimp only
      funext other
      obtain ⟨store, hRead, hStored⟩ := stored_save hSave
      by_cases hOther : other = baselineName
      · subst hOther
        rw [Function.update_of_ne hBaseline.symm, stored_baseline, stored_baseline]
      rw [hStored other hOther]
      by_cases hName : other = strip name
      · subst hName
        rw [Function.update_self, Function.update_self]
      rw [Function.update_of_ne hName, Function.update_of_ne hName]
      cases hFault : call.faults.read with
      | false => exact (stored_eq_profiles hRead hFault hOther).symm
      | true =>
        rw [readStore_fault hFault] at hRead
        cases hRead
        exact (h _ _ _ _ hCall hEmpty hBaseline hValid hFault (write_of_writeStore hWrite) other
          hName hOther).symm
    case validated =>
      intro name' snapshot' currentValues' values hSame hOk
      rw [hCall] at hSame
      cases hSame
      rw [hRun] at hOk
      cases hOk
      exact hValid
    case immutable =>
      rintro name' snapshot' currentValues' (⟨hSame, hName⟩ | hDelete)
      · rw [hCall] at hSame
        cases hSame
        exact absurd hName hBaseline
      · exact nomatch hCall.symm.trans hDelete

theorem StoreCall.run_delete {call : StoreCall} {file : StoreFile json} {name : String}
    (hCall : call.operation = .delete name) :
    call.run strip file =
      match deleteProfile name file call.faults with
      | .error error => (.error error, file)
      | .ok written => (.ok [], some written) := by
  obtain ⟨operation, faults⟩ := call
  cases hCall
  rfl

theorem keepsProfiles_delete {call : StoreCall} {file : StoreFile json} {name : String}
    (hCall : call.operation = .delete name) : KeepsProfiles strip call file := by
  have hRun := @StoreCall.run_delete _ strip _ file _ hCall
  have hNoSave : ∀ name snapshot currentValues,
      call.operation ≠ .save name snapshot currentValues := by
    rw [hCall]
    exact fun _ _ _ => StoreOperation.noConfusion
  cases hDelete : deleteProfile name file call.faults with
  | error error =>
    rw [hDelete] at hRun
    constructor
    case after =>
      rw [hRun]
      unfold afterCall
      rw [hCall]
    case validated => exact fun _ _ _ _ hSave => absurd hSave (hNoSave _ _ _)
    case immutable =>
      rintro _ _ _ (⟨hSave, -⟩ | hSame)
      · exact absurd hSave (hNoSave _ _ _)
      · rw [hCall] at hSame
        cases hSame
        rw [hRun]
        exact hDelete ▸ rfl
  | ok written =>
    rw [hDelete] at hRun
    obtain ⟨hBaseline, store, hRead, hSome, hWrite⟩ := deleteProfile_ok hDelete
    constructor
    case after =>
      rw [hRun]
      unfold afterCall
      rw [hCall]
      dsimp only
      funext other
      have hFault : call.faults.read = false := by
        refine Bool.eq_false_iff.mpr fun hFault => hSome ?_
        rw [readStore_fault hFault] at hRead
        cases hRead
        rfl
      by_cases hOther : other = baselineName
      · subst hOther
        rw [Function.update_of_ne hBaseline.symm, stored_baseline, stored_baseline]
      rw [stored_written (PyValue.distinct_filter _ (distinct_readStore hRead)) hWrite hOther]
      refine Option.ext fun values => ?_
      rw [profiles_eq_some_iff, lookup_filter_ne]
      by_cases hName : other = name
      · subst hName
        rw [if_pos rfl, Function.update_self]
        exact iff_of_false (fun ⟨_, hRaw, _⟩ => nomatch hRaw) nofun
      · rw [if_neg hName, Function.update_of_ne hName, stored_eq_profiles hRead hFault hOther,
          profiles_eq_some_iff]
    case validated => exact fun _ _ _ _ hSave => absurd hSave (hNoSave _ _ _)
    case immutable =>
      rintro _ _ _ (⟨hSave, -⟩ | hSame)
      · exact absurd hSave (hNoSave _ _ _)
      · rw [hCall] at hSame
        cases hSame
        exact absurd rfl hBaseline

/-- A call that reads the store keeps the profiles. -/
theorem keepsProfiles (call : StoreCall) (file : StoreFile json) (h : ReadsStore strip call file) :
    KeepsProfiles strip call file := by
  cases hCall : call.operation with
  | save name snapshot currentValues => exact keepsProfiles_save hCall h
  | delete name => exact keepsProfiles_delete hCall
  | load name =>
    have hRun : call.run strip file = (loadProfile name file call.faults, file) := by
      unfold StoreCall.run
      rw [hCall]
    constructor
    case after =>
      rw [hRun]
      unfold afterCall
      rw [hCall]
    case validated => exact fun _ _ _ _ hSave => nomatch hCall.symm.trans hSave
    case immutable =>
      rintro _ _ _ (⟨hSave, -⟩ | hDelete)
      · exact nomatch hCall.symm.trans hSave
      · exact nomatch hCall.symm.trans hDelete

/-! ## Runs -/

/-- In a run whose saves all read the store, or find no other profile in it, every call does to the
profiles what it should: a save that succeeds adds its profile, a deletion removes one, nothing
else changes, and the baseline stays. `keepsProfiles` treats one call on any file; the baseline is
answered without a look at the file (`stored_baseline`). -/
theorem runs_keep_profiles (json : JsonLibrary) (strip : String → String) (calls : List StoreCall)
    (file : StoreFile json)
    (hReads : ∀ before call after, calls = before ++ call :: after →
      ReadsStore strip call (runCalls strip before file)) :
    ∀ before call after, calls = before ++ call :: after →
      KeepsProfiles strip call (runCalls strip before file) ∧
        stored (runCalls strip (before ++ [call]) file) baselineName = some baselineProfile :=
  fun before call after hCalls =>
    ⟨keepsProfiles call _ (hReads before call after hCalls), stored_baseline _⟩

/-! ## A save that cannot read the store -/

/-- Files that hold their values as they are. -/
def valueFiles : JsonLibrary where
  File := PyValue
  loads value := if value.distinct then .ok value else .error .valueError
  dumps value := if value.sorted.distinct then .ok value.sorted else .error .recursionError
  distinct_loads file value h := by
    split at h
    · cases h
      assumption
    · exact nomatch h
  loads_dumps value file _ h := by
    split at h
    · rename_i hDistinct
      cases h
      exact if_pos hDistinct
    · exact nomatch h

/-- The baseline values saved under another name. -/
def saveBaseline (name : String) (faults : StoreFaults) : StoreCall where
  operation := .save name baselineValues neutralCompletionValues
  faults := faults

end

theorem runs_keep_profiles_two :
    KeepsProfiles id (saveBaseline "sun" { write := true })
        (runCalls id [saveBaseline "rain" {}] (none : StoreFile valueFiles)) ∧
      stored (runCalls id [saveBaseline "rain" {}, saveBaseline "sun" { write := true }]
        (none : StoreFile valueFiles)) baselineName = some baselineProfile := by
  refine runs_keep_profiles valueFiles id [saveBaseline "rain" {},
    saveBaseline "sun" { write := true }]
    none (fun before call after hCalls _ _ _ _ _ _ _ _ hFault => ?_) [saveBaseline "rain" {}]
    (saveBaseline "sun" { write := true }) [] rfl
  have hMem : call ∈ [saveBaseline "rain" {}, saveBaseline "sun" { write := true }] :=
    hCalls ▸ List.mem_append_right before List.mem_cons_self
  rcases List.mem_pair.mp hMem with rfl | rfl <;> exact nomatch hFault

/-- A save that cannot read the store deletes the profile that was saved before. -/
theorem unread_save_loses_profile :
    ¬ ∀ (json : JsonLibrary) (strip : String → String) (calls : List StoreCall)
      (file : StoreFile json) (before : List StoreCall) (call : StoreCall) (after : List StoreCall),
      calls = before ++ call :: after → KeepsProfiles strip call (runCalls strip before file) := by
  intro hAll
  have hKeeps := (hAll valueFiles id [saveBaseline "rain" {}, saveBaseline "sun" { read := true }]
    none
    [saveBaseline "rain" {}] (saveBaseline "sun" { read := true }) [] rfl).after
  have hRain := congrFun hKeeps "rain"
  obtain ⟨hBefore, hAfter⟩ :
      (stored (runCalls id [saveBaseline "rain" {}] (none : StoreFile valueFiles))
        "rain").isSome = true ∧
      (stored ((saveBaseline "sun" { read := true }).run id
        (runCalls id [saveBaseline "rain" {}] (none : StoreFile valueFiles))).2 "rain").isSome =
          false := by
    decide +kernel
  have hSame : ∀ outcome profiles,
      afterCall id (saveBaseline "sun" { read := true }) outcome profiles "rain" =
        profiles "rain" := by
    intro outcome profiles
    cases outcome with
    | error error => rfl
    | ok validated => exact Function.update_of_ne (show "rain" ≠ id "sun" by decide) _ _
  rw [hSame] at hRain
  rw [hRain, hBefore] at hAfter
  cases hAfter

end PreRunner.Tuning
