import PreRunner.Runs.Associations
import PreRunner.Text.Json

/-!
# Documents that are written and read

A file holds what `json.dumps(value, indent=2, sort_keys=True)` makes of a value, and `json.loads`
reads it back: the same value, with the keys of each dictionary in order. How it is spelled is a
parameter (`JsonLibrary`).
-/

namespace PreRunner

open Runs

/-! ## Dictionaries -/

namespace PyDict

variable {members : PyDict} {key : String} {value : PyValue}

theorem any_eq_true_iff :
    (members.any fun member => member.1 = key) = true ↔ key ∈ members.map (·.1) := by
  simp

theorem keys_assign_of_mem (h : key ∈ members.map (·.1)) :
    (members.assign key value).map (·.1) = members.map (·.1) := by
  unfold assign
  rw [if_pos (any_eq_true_iff.mpr h), List.map_map]
  refine List.map_congr_left fun member _ => ?_
  by_cases hKey : member.1 = key
  · exact (congrArg Prod.fst (if_pos hKey)).trans hKey.symm
  · exact congrArg Prod.fst (if_neg hKey)

theorem keys_assign_of_not_mem (h : key ∉ members.map (·.1)) :
    (members.assign key value).map (·.1) = members.map (·.1) ++ [key] := by
  unfold assign
  rw [if_neg (fun hAny => h (any_eq_true_iff.mp hAny)), List.map_append]
  rfl

theorem mem_keys_assign {other : String} :
    other ∈ (members.assign key value).map (·.1) ↔ other = key ∨ other ∈ members.map (·.1) := by
  by_cases h : key ∈ members.map (·.1)
  · rw [keys_assign_of_mem h, or_iff_right_of_imp fun hEq => hEq ▸ h]
  · rw [keys_assign_of_not_mem h, List.mem_append, List.mem_singleton, or_comm]

theorem nodup_assign (h : (members.map (·.1)).Nodup) :
    ((members.assign key value).map (·.1)).Nodup := by
  by_cases hMem : key ∈ members.map (·.1)
  · rw [keys_assign_of_mem hMem]
    exact h
  · rw [keys_assign_of_not_mem hMem]
    exact List.nodup_append_comm.mp (List.nodup_cons.mpr ⟨hMem, h⟩)

theorem mem_assign {member : String × PyValue} (h : member ∈ members.assign key value) :
    member = (key, value) ∨ member ∈ members := by
  unfold assign at h
  split at h
  · obtain ⟨old, hOld, rfl⟩ := List.mem_map.mp h
    by_cases hKey : old.1 = key
    · exact Or.inl (if_pos hKey)
    · rw [if_neg hKey]
      exact Or.inr hOld
  · exact (List.mem_append.mp h).symm.imp_left List.mem_singleton.mp

theorem lookup_replace (members : PyDict) {key other : String} (value : PyValue)
    (hOther : other ≠ key) :
    (members.map fun member => if member.1 = key then (key, value) else member).lookup other =
      members.lookup other := by
  induction members with
  | nil => rfl
  | cons member members ih =>
    rw [List.map_cons, List.lookup_cons, List.lookup_cons]
    by_cases hKey : member.1 = key
    · rw [if_pos hKey, beq_eq_false_iff_ne.mpr hOther,
        beq_eq_false_iff_ne.mpr fun h => hOther (h.trans hKey)]
      exact ih
    · rw [if_neg hKey]
      cases other == member.1 with
      | false => exact ih
      | true => rfl

theorem lookup_assign_self (members : PyDict) (key : String) (value : PyValue) :
    (members.assign key value).lookup key = some value := by
  unfold assign
  split
  · rename_i hAny
    induction members with
    | nil => exact nomatch hAny
    | cons member members ih =>
      rw [List.map_cons, List.lookup_cons]
      by_cases hKey : member.1 = key
      · rw [if_pos hKey, beq_self_eq_true]
      · rw [if_neg hKey, beq_eq_false_iff_ne.mpr (Ne.symm hKey)]
        rw [List.any_cons, decide_eq_false hKey, Bool.false_or] at hAny
        exact ih hAny
  · rename_i hAny
    have hNone : members.lookup key = none :=
      lookup_eq_none_iff_not_mem.mpr fun h => hAny (any_eq_true_iff.mpr h)
    rw [List.lookup_append, hNone]
    exact List.lookup_cons_self

theorem lookup_assign_of_ne {other : String} (hOther : other ≠ key) :
    (members.assign key value).lookup other = members.lookup other := by
  unfold assign
  split
  · exact lookup_replace members value hOther
  · rw [List.lookup_append, List.lookup_cons, beq_eq_false_iff_ne.mpr hOther]
    exact Option.or_none

/-- `\x7b**members, **updates\x7d`. -/
def updated (members updates : PyDict) : PyDict :=
  updates.foldl (fun members item => members.assign item.1 item.2) members

theorem nodup_updated {updates : PyDict} (h : (members.map (·.1)).Nodup) :
    ((members.updated updates).map (·.1)).Nodup := by
  unfold updated
  induction updates generalizing members with
  | nil => exact h
  | cons item updates ih => exact ih (nodup_assign h)

theorem mem_keys_updated {updates : PyDict} :
    key ∈ (members.updated updates).map (·.1) ↔
      key ∈ members.map (·.1) ∨ key ∈ updates.map (·.1) := by
  unfold updated
  induction updates generalizing members with
  | nil => exact (or_iff_left List.not_mem_nil).symm
  | cons item updates ih =>
    rw [List.foldl_cons, ih, mem_keys_assign, List.map_cons, List.mem_cons, or_assoc, or_left_comm]

/-- An update takes precedence. -/
theorem lookup_updated {updates : PyDict} (h : (updates.map (·.1)).Nodup) :
    (members.updated updates).lookup key = (updates.lookup key).or (members.lookup key) := by
  unfold updated
  induction updates generalizing members with
  | nil => rfl
  | cons item updates ih =>
    obtain ⟨hFirst, hRest⟩ := List.nodup_cons.mp h
    rw [List.foldl_cons, ih hRest, List.lookup_cons]
    by_cases hKey : key = item.1
    · subst hKey
      rw [beq_self_eq_true, lookup_eq_none_iff_not_mem.mpr hFirst, lookup_assign_self]
      rfl
    · rw [beq_eq_false_iff_ne.mpr hKey, lookup_assign_of_ne hKey]

end PyDict

/-! ## Sorted documents -/

namespace PyValue

def keyOrder (a b : String × PyValue) : Prop := a.1 ≤ b.1

instance : DecidableRel keyOrder := fun a b => inferInstanceAs (Decidable (a.1 ≤ b.1))

mutual

/-- The value with the keys of each of its dictionaries in order. -/
def sorted : PyValue → PyValue
  | .list items => .list (sortedItems items)
  | .dict members => .dict ((sortedMembers members).insertionSort keyOrder)
  | value => value

def sortedItems : List PyValue → List PyValue
  | [] => []
  | item :: items => sorted item :: sortedItems items

def sortedMembers : PyDict → PyDict
  | [] => []
  | (key, value) :: members => (key, sorted value) :: sortedMembers members

end

mutual

/-- The keys of each dictionary are distinct. -/
def distinct : PyValue → Bool
  | .list items => distinctItems items
  | .dict members => decide (members.map (·.1)).Nodup && distinctMembers members
  | _ => true

def distinctItems : List PyValue → Bool
  | [] => true
  | item :: items => distinct item && distinctItems items

def distinctMembers : PyDict → Bool
  | [] => true
  | (_, value) :: members => distinct value && distinctMembers members

end

theorem sortedMembers_eq_map (members : PyDict) :
    sortedMembers members = members.map fun member => (member.1, member.2.sorted) := by
  induction members with
  | nil => rfl
  | cons member members ih => exact congrArg ((member.1, member.2.sorted) :: ·) ih

end PyValue

namespace PyDict

def sorted (members : PyDict) : PyDict :=
  (PyValue.sortedMembers members).insertionSort PyValue.keyOrder

theorem perm_sorted (members : PyDict) :
    members.sorted.Perm (members.map fun member => (member.1, member.2.sorted)) :=
  PyValue.sortedMembers_eq_map members ▸ List.perm_insertionSort PyValue.keyOrder _

theorem keys_sorted (members : PyDict) : (members.sorted.map (·.1)).Perm (members.map (·.1)) := by
  have hKeys := (perm_sorted members).map (·.1)
  rw [List.map_map] at hKeys
  exact hKeys

theorem lookup_sorted {members : PyDict} (h : (members.map (·.1)).Nodup) (key : String) :
    members.sorted.lookup key = (members.lookup key).map PyValue.sorted := by
  have hNodup := (keys_sorted members).symm.nodup h
  rw [lookup_perm (perm_sorted members) hNodup, lookup_map_snd]

end PyDict

namespace PyValue

theorem nodup_of_distinct {members : PyDict} (h : (PyValue.dict members).distinct = true) :
    (members.map (·.1)).Nodup :=
  of_decide_eq_true (Bool.and_eq_true_iff.mp h).1

theorem distinctMembers_iff {members : PyDict} :
    distinctMembers members = true ↔ ∀ member ∈ members, member.2.distinct = true := by
  induction members with
  | nil => exact iff_of_true rfl fun _ h => absurd h List.not_mem_nil
  | cons member members ih =>
    refine Bool.and_eq_true_iff.trans ?_
    rw [ih, List.forall_mem_cons]

theorem distinct_dict_iff {members : PyDict} :
    (PyValue.dict members).distinct = true ↔
      (members.map (·.1)).Nodup ∧ ∀ member ∈ members, member.2.distinct = true := by
  rw [← distinctMembers_iff]
  exact Bool.and_eq_true_iff.trans (and_congr_left fun _ => decide_eq_true_iff)

theorem distinct_of_lookup {members : PyDict} {key : String} {value : PyValue}
    (h : (PyValue.dict members).distinct = true) (hLookup : members.lookup key = some value) :
    value.distinct = true := by
  obtain ⟨hNodup, hAll⟩ := distinct_dict_iff.mp h
  exact hAll _ ((lookup_eq_some_iff_mem hNodup).mp hLookup)

theorem distinct_assign {members : PyDict} {key : String} {value : PyValue}
    (h : (PyValue.dict members).distinct = true) (hValue : value.distinct = true) :
    (PyValue.dict (members.assign key value)).distinct = true := by
  obtain ⟨hNodup, hAll⟩ := distinct_dict_iff.mp h
  refine distinct_dict_iff.mpr ⟨PyDict.nodup_assign hNodup, fun member hMem => ?_⟩
  rcases PyDict.mem_assign hMem with rfl | hOld
  · exact hValue
  · exact hAll member hOld

theorem distinct_filter {members : PyDict} (kept : String × PyValue → Bool)
    (h : (PyValue.dict members).distinct = true) :
    (PyValue.dict (members.filter kept)).distinct = true := by
  obtain ⟨hNodup, hAll⟩ := distinct_dict_iff.mp h
  have hSublist := (List.filter_sublist (p := kept) (l := members)).map Prod.fst
  exact distinct_dict_iff.mpr
    ⟨hNodup.sublist hSublist, fun member hMem => hAll member (List.mem_of_mem_filter hMem)⟩

end PyValue

/-- `json.loads` of a file and `json.dumps(value, indent=2, sort_keys=True)` for one. -/
structure JsonLibrary where
  /-- The bytes of a file. -/
  File : Type
  loads : File → Except Text.JsonError PyValue
  dumps : PyValue → Except Text.JsonError File
  distinct_loads : ∀ file value, loads file = .ok value → value.distinct = true
  loads_dumps : ∀ value file, value.distinct = true → dumps value = .ok file →
    loads file = .ok value.sorted

end PreRunner
