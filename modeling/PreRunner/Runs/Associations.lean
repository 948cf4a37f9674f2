import Mathlib.Data.List.Nodup
import Mathlib.Data.List.Sort

/-!
# Association lists

A dictionary as the list of its entries. With distinct keys a lookup does not depend on the order of
the entries.
-/

namespace PreRunner.Runs

variable {κ α β : Type} [BEq κ] [LawfulBEq κ]

theorem lookup_eq_some_iff_mem {entries : List (κ × α)} (h : (entries.map (·.1)).Nodup) {key : κ}
    {a : α} : entries.lookup key = some a ↔ (key, a) ∈ entries := by
  induction entries with
  | nil => exact iff_of_false nofun List.not_mem_nil
  | cons entry entries ih =>
    obtain ⟨hFirst, hRest⟩ := List.nodup_cons.mp h
    rw [List.lookup_cons, List.mem_cons]
    by_cases hKey : key = entry.1
    · subst hKey
      have hNot : (entry.1, a) ∉ entries := fun hMem => hFirst (List.mem_map.mpr ⟨_, hMem, rfl⟩)
      rw [beq_self_eq_true, or_iff_left hNot]
      constructor
      · intro hEq
        rw [← Option.some.inj hEq]
      · rintro hEq
        rw [← hEq]
    · have hNe : (key, a) ≠ entry := fun hEq => hKey (congrArg Prod.fst hEq)
      rw [beq_eq_false_iff_ne.mpr hKey, or_iff_right hNe]
      exact ih hRest

theorem lookup_eq_none_iff_not_mem {entries : List (κ × α)} {key : κ} :
    entries.lookup key = none ↔ key ∉ entries.map (·.1) := by
  induction entries with
  | nil => exact iff_of_true rfl List.not_mem_nil
  | cons entry entries ih =>
    rw [List.lookup_cons, List.map_cons, List.mem_cons, not_or]
    by_cases hKey : key = entry.1
    · rw [beq_iff_eq.mpr hKey]
      exact iff_of_false nofun fun h => h.1 hKey
    · rw [beq_eq_false_iff_ne.mpr hKey, and_iff_right hKey]
      exact ih

/-- Entries in another order are the same dictionary. -/
theorem lookup_perm {entries entries' : List (κ × α)} (hPerm : entries.Perm entries')
    (hNodup : (entries.map (·.1)).Nodup) (key : κ) : entries.lookup key = entries'.lookup key := by
  have hNodup' := (hPerm.map (·.1)).nodup hNodup
  refine Option.ext fun a => ?_
  rw [lookup_eq_some_iff_mem hNodup, lookup_eq_some_iff_mem hNodup', hPerm.mem_iff]

omit [LawfulBEq κ] in
theorem lookup_map_snd (f : α → β) (entries : List (κ × α)) (key : κ) :
    (entries.map fun entry => (entry.1, f entry.2)).lookup key = (entries.lookup key).map f := by
  induction entries with
  | nil => rfl
  | cons entry entries ih =>
    rw [List.map_cons, List.lookup_cons, List.lookup_cons]
    cases key == entry.1 with
    | false => exact ih
    | true => rfl

/-- The value of each item under its key. -/
theorem lookup_map_key {ι : Type} {items : List ι} {key : ι → κ} (value : ι → α)
    (hKey : ∀ a ∈ items, ∀ b ∈ items, key a = key b → a = b) {a : ι} (hMem : a ∈ items) :
    (items.map fun item => (key item, value item)).lookup (key a) = some (value a) := by
  induction items with
  | nil => exact absurd hMem List.not_mem_nil
  | cons item items ih =>
    rw [List.map_cons, List.lookup_cons]
    by_cases hEq : key a = key item
    · rw [beq_iff_eq.mpr hEq, hKey a hMem item List.mem_cons_self hEq]
    · rw [beq_eq_false_iff_ne.mpr hEq]
      refine ih (fun b hB c hC => hKey b (List.mem_cons_of_mem _ hB) c (List.mem_cons_of_mem _ hC))
        ?_
      exact (List.mem_cons.mp hMem).resolve_left fun h => hEq (congrArg key h)

/-- A deleted entry is gone, and every other one is as before. -/
theorem lookup_filter_ne [DecidableEq κ] (entries : List (κ × α)) (key other : κ) :
    (entries.filter (·.1 ≠ key)).lookup other =
      if other = key then none else entries.lookup other := by
  induction entries with
  | nil => exact (ite_self none).symm
  | cons entry entries ih =>
    rw [List.filter_cons, List.lookup_cons]
    by_cases hKey : entry.1 = key
    · rw [if_neg (by simpa using hKey), ih]
      by_cases hOther : other = key
      · rw [if_pos hOther, if_pos hOther]
      · rw [if_neg hOther, if_neg hOther,
          beq_eq_false_iff_ne.mpr fun h => hOther (h.trans hKey)]
    · rw [if_pos (by simpa using hKey), List.lookup_cons]
      by_cases hOther : other = entry.1
      · rw [beq_iff_eq.mpr hOther, if_neg fun h => hKey (hOther ▸ h)]
      · rw [beq_eq_false_iff_ne.mpr hOther]
        exact ih

end PreRunner.Runs
