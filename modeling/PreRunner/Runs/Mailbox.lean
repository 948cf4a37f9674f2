import Mathlib.Data.List.Basic

/-!
# Latest-wins mailboxes

A mailbox holds at most one pending item for each slot, in the order in which the slots were
filled. Offering an item replaces the pending one of its slot. What is dropped this way is
covered: an item of the same slot that is not older is pending or was delivered.
-/

namespace PreRunner.Runs

/-- A mailbox with its logs, latest entry first. -/
structure Mailbox (σ α : Type) where
  pending : List (σ × α) := []
  offered : List (σ × α) := []
  delivered : List (σ × α) := []

namespace Mailbox

variable {σ α : Type} [DecidableEq σ]

/-- Assign a key of an insertion-ordered dictionary. -/
def assign (slot : σ) (item : α) : List (σ × α) → List (σ × α)
  | [] => [(slot, item)]
  | (other, old) :: rest =>
    if other = slot then (slot, item) :: rest else (other, old) :: assign slot item rest

/-- Replace the pending item of one slot. -/
def offer (box : Mailbox σ α) (slot : σ) (item : α) : Mailbox σ α :=
  { box with
    pending := assign slot item box.pending
    offered := (slot, item) :: box.offered }

/-- Remove the oldest pending slot. -/
def take (box : Mailbox σ α) : Option ((σ × α) × Mailbox σ α) :=
  match box.pending with
  | [] => none
  | entry :: rest =>
    some (entry, { box with pending := rest, delivered := entry :: box.delivered })

theorem mem_assign_self (slot : σ) (item : α) (entries : List (σ × α)) :
    (slot, item) ∈ assign slot item entries := by
  induction entries with
  | nil => exact List.mem_singleton_self _
  | cons entry rest ih =>
    unfold assign
    split
    · exact List.mem_cons_self
    · exact List.mem_cons_of_mem _ ih

/-- The other slots keep their items. -/
theorem mem_assign_of_ne {slot other : σ} {item old : α} {entries : List (σ × α)}
    (h : (other, old) ∈ entries) (hNe : other ≠ slot) : (other, old) ∈
    assign slot item entries := by
  induction entries with
  | nil => cases h
  | cons entry rest ih =>
    unfold assign
    rcases List.mem_cons.mp h with rfl | hRest
    · dsimp only
      rw [if_neg hNe]
      exact List.mem_cons_self
    · split
      · exact List.mem_cons_of_mem _ hRest
      · exact List.mem_cons_of_mem _ (ih hRest)

theorem eq_or_mem_of_mem_assign {slot : σ} {item : α} {entry : σ × α} {entries : List (σ × α)}
    (h : entry ∈ assign slot item entries) : entry = (slot, item) ∨ entry ∈ entries := by
  induction entries with
  | nil => exact Or.inl (List.mem_singleton.mp h)
  | cons first rest ih =>
    unfold assign at h
    split at h
    · exact (List.mem_cons.mp h).imp_right (List.mem_cons_of_mem _)
    · rcases List.mem_cons.mp h with rfl | hRest
      · exact Or.inr List.mem_cons_self
      · exact (ih hRest).imp_right (List.mem_cons_of_mem _)

theorem lookup_assign_self (slot : σ) (item : α) (entries : List (σ × α)) :
    (assign slot item entries).lookup slot = some item := by
  induction entries with
  | nil => exact List.lookup_cons_self
  | cons entry rest ih =>
    unfold assign
    split
    · exact List.lookup_cons_self
    · rename_i hOther
      rw [List.lookup_cons, beq_eq_false_iff_ne.mpr (Ne.symm hOther)]
      exact ih

/-- A new slot comes last, and an old one is replaced in its place. -/
theorem assign_cases (slot : σ) (item : α) (entries : List (σ × α)) :
    ((∀ entry ∈ entries, entry.1 ≠ slot) ∧ assign slot item entries = entries ++ [(slot, item)]) ∨
      (assign slot item entries).length = entries.length := by
  induction entries with
  | nil => exact Or.inl ⟨fun entry h => absurd h List.not_mem_nil, rfl⟩
  | cons first rest ih =>
    unfold assign
    split
    · exact Or.inr rfl
    · rename_i hOther
      rcases ih with ⟨hRest, hAppend⟩ | hLength
      · refine Or.inl ⟨fun entry hEntry => ?_, by rw [hAppend]; rfl⟩
        rcases List.mem_cons.mp hEntry with rfl | hEntry
        · exact hOther
        · exact hRest entry hEntry
      · exact Or.inr (congrArg Nat.succ hLength)

/-- The item is still to be delivered, or was. -/
def Kept (box : Mailbox σ α) (slot : σ) (item : α) : Prop :=
  (slot, item) ∈ box.pending ∨ (slot, item) ∈ box.delivered

/-- Every offered item has one of its slot that is kept and not older. -/
def Covered (notNewer : α → α → Prop) (box : Mailbox σ α) : Prop :=
  ∀ slot item, (slot, item) ∈ box.offered → ∃ kept, box.Kept slot kept ∧ notNewer item kept

variable {notNewer : α → α → Prop} {box : Mailbox σ α}

theorem covered_offer (h : Covered notNewer box) {slot : σ} {item : α}
    (hSelf : notNewer item item)
    (hOlder : ∀ old, (slot, old) ∈ box.offered → notNewer old item) :
    Covered notNewer (box.offer slot item) := by
  have hNew : (box.offer slot item).Kept slot item := Or.inl (mem_assign_self slot item _)
  intro other old hItem
  rcases List.mem_cons.mp hItem with hEq | hOld
  · cases hEq
    exact ⟨item, hNew, hSelf⟩
  · by_cases hSlot : other = slot
    · subst hSlot
      exact ⟨item, hNew, hOlder old hOld⟩
    · obtain ⟨kept, hKept, hLe⟩ := h other old hOld
      refine ⟨kept, hKept.imp (fun hPending => ?_) id, hLe⟩
      exact mem_assign_of_ne hPending hSlot

omit [DecidableEq σ] in
theorem covered_take (h : Covered notNewer box) {entry : σ × α} {next : Mailbox σ α}
    (hTake : box.take = some (entry, next)) : Covered notNewer next := by
  unfold take at hTake
  split at hTake
  · cases hTake
  · rename_i first rest hPending
    cases hTake
    intro slot item hItem
    obtain ⟨kept, hKept, hLe⟩ := h slot item hItem
    refine ⟨kept, ?_, hLe⟩
    rcases hKept with hKept | hKept
    · rw [hPending] at hKept
      rcases List.mem_cons.mp hKept with rfl | hRest
      · exact Or.inr List.mem_cons_self
      · exact Or.inl hRest
    · exact Or.inr (List.mem_cons_of_mem _ hKept)

omit [DecidableEq σ] in
theorem take_offered {entry : σ × α} {next : Mailbox σ α} (hTake : box.take = some (entry, next)) :
    next.offered = box.offered := by
  unfold take at hTake
  split at hTake
  · cases hTake
  · cases hTake
    rfl

end Mailbox

end PreRunner.Runs
