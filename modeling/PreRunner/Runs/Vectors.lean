import Mathlib.Data.List.Forall2
import Mathlib.Logic.Function.Basic
import PreRunner.Runs.Loops

/-!
# Vectors with checked bounds

A vector has a size and entries. A read or a write outside it fails, and so does the loop that
makes it; a loop whose body succeeds from every state that its invariant allows succeeds.
-/

namespace PreRunner.Runs

/-! ## Vectors -/

/-- `std::vector`. -/
structure Vec (α : Type*) where
  size : ℕ
  entry : ℕ → α

namespace Vec

variable {α : Type*}

/-- `std::vector(size, value)`. -/
def filled (size : ℕ) (value : α) : Vec α := ⟨size, fun _ => value⟩

def read (v : Vec α) (i : ℕ) : Option α := if i < v.size then some (v.entry i) else none

def write (v : Vec α) (i : ℕ) (value : α) : Option (Vec α) :=
  if i < v.size then some { v with entry := Function.update v.entry i value } else none

/-- `std::vector(v.begin(), v.begin() + size)`. -/
def take (v : Vec α) (size : ℕ) : Option (Vec α) :=
  if size ≤ v.size then some { v with size } else none

variable {v : Vec α} {i : ℕ}

theorem read_of_lt (h : i < v.size) : v.read i = some (v.entry i) := if_pos h

theorem write_of_lt (h : i < v.size) (value : α) :
    v.write i value = some { v with entry := Function.update v.entry i value } := if_pos h

theorem write_mk {size : ℕ} {entry : ℕ → α} (h : i < size) (value : α) :
    (Vec.mk size entry).write i value = some ⟨size, Function.update entry i value⟩ := if_pos h

theorem take_of_le {size : ℕ} (h : size ≤ v.size) : v.take size = some { v with size } := if_pos h

end Vec

/-! ## Loops that may fail -/

section Loops

variable {S : Type*}

/-- `for (i = first; i < last; ++i)` with a body that may fail. -/
def ascendingM (first last : ℕ) (body : ℕ → S → Option S) (s : S) : Option S :=
  (List.range' first (last - first)).foldlM (fun s i => body i s) s

/-- What holds at the first index and passes from each index to the next, with a body that
succeeds, holds at the end of a loop that succeeds. -/
theorem ascendingM_invariant {P : ℕ → S → Prop} {first last : ℕ} {body : ℕ → S → Option S} {s : S}
    (hLe : first ≤ last) (hStart : P first s)
    (hStep : ∀ i s, first ≤ i → i < last → P i s → ∃ s', body i s = some s' ∧ P (i + 1) s') :
    ∃ s', ascendingM first last body s = some s' ∧ P last s' := by
  induction last, hLe using Nat.le_induction with
  | base =>
    refine ⟨s, ?_, hStart⟩
    unfold ascendingM
    rw [Nat.sub_self]
    rfl
  | succ last hLe ih =>
    obtain ⟨middle, hRun, hMiddle⟩ := ih fun i s hFirst hLast =>
      hStep i s hFirst (hLast.trans (Nat.lt_succ_self last))
    obtain ⟨after, hBody, hAfter⟩ := hStep last middle hLe (Nat.lt_succ_self last) hMiddle
    refine ⟨after, ?_, hAfter⟩
    unfold ascendingM at hRun ⊢
    rw [Nat.succ_sub hLe, List.range'_concat, List.foldlM_append, Nat.one_mul,
      Nat.add_sub_cancel' hLe, hRun]
    change (body last middle >>= pure) = some after
    rw [hBody]
    rfl

/-- A map whose function gives a related result on every entry gives related lists. -/
theorem mapM_related {α β : Type*} {R : α → β → Prop} {f : α → Option β}
    (h : ∀ a, ∃ b, f a = some b ∧ R a b) (entries : List α) :
    ∃ results, entries.mapM f = some results ∧ List.Forall₂ R entries results := by
  induction entries with
  | nil => exact ⟨[], List.mapM_nil, .nil⟩
  | cons entry rest ih =>
    obtain ⟨result, hEntry, hResult⟩ := h entry
    obtain ⟨results, hRest, hResults⟩ := ih
    refine ⟨result :: results, ?_, .cons hResult hResults⟩
    rw [List.mapM_cons, hEntry, hRest]
    rfl

/-- A map whose function fails on one entry fails. -/
theorem mapM_eq_none {α β : Type*} {f : α → Option β} {entries : List α} {a : α}
    (hMem : a ∈ entries) (hNone : f a = none) : entries.mapM f = none := by
  induction entries with
  | nil => exact absurd hMem List.not_mem_nil
  | cons entry entries ih =>
    rw [List.mapM_cons]
    rcases List.mem_cons.mp hMem with rfl | hMem
    · rw [hNone]
      rfl
    · rw [ih hMem]
      cases f entry <;> rfl

end Loops

/-! ## Copying -/

section Copy

variable {α : Type*}

/-- `for (i = 0; i < length; ++i) after[target(i)] = v[source(i)]`. -/
def Vec.copy (v : Vec α) (length : ℕ) (source target : ℕ → ℕ) (after : Vec α) : Option (Vec α) :=
  ascendingM 0 length (fun i after => do
    let value ← v.read (source i)
    after.write (target i) value) after

/-- A copy to different entries fills these and keeps all others. -/
theorem Vec.copy_spec (v : Vec α) {length : ℕ} (source target : ℕ → ℕ) (after : Vec α)
    (hSource : ∀ i, i < length → source i < v.size)
    (hTarget : ∀ i, i < length → target i < after.size)
    (hInj : ∀ i j, i < length → j < length → target i = target j → i = j) :
    ∃ copied, v.copy length source target after = some copied ∧ copied.size = after.size ∧
      (∀ i, i < length → copied.entry (target i) = v.entry (source i)) ∧
      ∀ c, (∀ i, i < length → target i ≠ c) → copied.entry c = after.entry c := by
  refine ascendingM_invariant (P := fun next (copied : Vec α) =>
    copied.size = after.size ∧
      (∀ i, i < next → copied.entry (target i) = v.entry (source i)) ∧
      ∀ c, (∀ i, i < length → target i ≠ c) → copied.entry c = after.entry c)
    (Nat.zero_le length) ⟨rfl, fun i hi => absurd hi (Nat.not_lt_zero i), fun _ _ => rfl⟩ ?_
  rintro next copied - hNext ⟨hSize, hDone, hKept⟩
  refine ⟨⟨copied.size, Function.update copied.entry (target next) (v.entry (source next))⟩, ?_,
    hSize, fun i hi => ?_, fun c hc => ?_⟩
  · rw [Vec.read_of_lt (hSource next hNext), Option.bind_eq_bind, Option.bind_some,
      Vec.write_of_lt (hSize ▸ hTarget next hNext)]
  · change Function.update copied.entry (target next) _ (target i) = _
    rcases Nat.eq_or_lt_of_le (Nat.le_of_lt_succ hi) with rfl | hLess
    · rw [Function.update_self]
    · have hOther : target i ≠ target next := fun h =>
        absurd (hInj i next (by omega) hNext h) (by omega)
      rw [Function.update_of_ne hOther]
      exact hDone i hLess
  · change Function.update copied.entry (target next) _ c = _
    rw [Function.update_of_ne (hc next hNext).symm]
    exact hKept c hc

end Copy

end PreRunner.Runs
