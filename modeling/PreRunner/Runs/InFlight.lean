import Mathlib.Data.List.Basic

/-!
# Messages in flight on a first-in first-out channel

A sender numbers its messages by a view of its own state: sending `m` from the view `v` is
allowed when `Ok v m`, and leaves the view `apply v m`. `Sent v queue v'` says that `queue` was
sent in this way between the views `v` and `v'`. With `v'` the present view of the sender, `v` is
the view it had when it sent the message the receiver handled last, so a relation between the
delivered view and the receiver is an invariant of the whole channel.
-/

namespace PreRunner.Runs

variable {V M : Type*}

/-- The messages of the queue were sent in order between two views of the sender. -/
def Sent (Ok : V → M → Prop) (apply : V → M → V) : V → List M → V → Prop
  | v, [], v' => v = v'
  | v, m :: queue, v' => Ok v m ∧ Sent Ok apply (apply v m) queue v'

variable {Ok : V → M → Prop} {apply : V → M → V} {v v' v'' : V}

@[simp] theorem sent_nil : Sent Ok apply v [] v' ↔ v = v' := Iff.rfl

@[simp] theorem sent_cons {m : M} {queue : List M} :
    Sent Ok apply v (m :: queue) v' ↔ Ok v m ∧ Sent Ok apply (apply v m) queue v' := Iff.rfl

theorem Sent.refl (v : V) : Sent Ok apply v [] v := rfl

theorem Sent.single {m : M} (h : Ok v m) : Sent Ok apply v [m] (apply v m) := ⟨h, rfl⟩

/-- What is sent later goes behind what is still in flight. -/
theorem Sent.append {queue later : List M} (h : Sent Ok apply v queue v')
    (hLater : Sent Ok apply v' later v'') : Sent Ok apply v (queue ++ later) v'' := by
  induction queue generalizing v with
  | nil =>
    rw [sent_nil] at h
    exact h ▸ hLater
  | cons m queue ih => exact ⟨h.1, ih h.2⟩

/-- The view of the sender is the delivered view, updated by everything in flight. -/
theorem Sent.foldl {queue : List M} (h : Sent Ok apply v queue v') :
    v' = queue.foldl apply v := by
  induction queue generalizing v with
  | nil => exact (sent_nil.mp h).symm
  | cons m queue ih => exact ih h.2

end PreRunner.Runs
