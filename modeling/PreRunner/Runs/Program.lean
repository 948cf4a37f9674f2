import Mathlib.Data.List.Basic

/-!
# Programs that may raise

A program reads and writes a state and returns a value or raises an exception. `Triple` is the
usual judgment on it: from a state with the precondition, a value is returned in a state with
the postcondition, or an exception is raised in a state with the exceptional one. The rules
follow the constructs of `Program`.
-/

namespace PreRunner.Runs

/-- A sequence that succeeds succeeds in both its parts. -/
theorem ok_of_bind {ε α β : Type} {x : Except ε α} {f : α → Except ε β} {b : β}
    (h : (x >>= f) = .ok b) : ∃ a, x = .ok a ∧ f a = .ok b := by
  cases x with
  | error e => exact nomatch h
  | ok a => exact ⟨a, rfl, h⟩

/-- A sequence that fails does so in its first part or, after it, in the second. -/
theorem error_of_bind {ε α β : Type} {x : Except ε α} {f : α → Except ε β} {e : ε}
    (h : (x >>= f) = .error e) : x = .error e ∨ ∃ a, x = .ok a ∧ f a = .error e := by
  cases x with
  | error e' =>
    cases h
    exact Or.inl rfl
  | ok a => exact Or.inr ⟨a, rfl, h⟩

/-- An outcome is an error with a property. -/
def Fails {ε α : Type} (P : ε → Prop) (x : Except ε α) : Prop := ∃ e, x = .error e ∧ P e

section Fails

variable {ε δ α β : Type} {P : ε → Prop}

theorem not_fails_ok (a : α) : ¬ Fails P (.ok a : Except ε α) := fun ⟨_, h, _⟩ => nomatch h

theorem fails_error {e : ε} : Fails P (.error e : Except ε α) ↔ P e :=
  ⟨fun ⟨_, h, hP⟩ => Except.error.inj h ▸ hP, fun hP => ⟨e, rfl, hP⟩⟩

/-- A sequence fails in its first part or, after it, in the second. -/
theorem fails_bind {x : Except ε α} {f : α → Except ε β} :
    Fails P (x >>= f) ↔ Fails P x ∨ ∃ a, x = .ok a ∧ Fails P (f a) := by
  cases x with
  | error e =>
    refine ⟨fun h => Or.inl (fails_error.mpr (fails_error.mp h)), ?_⟩
    rintro (h | ⟨a, h, -⟩)
    · exact fails_error.mpr (fails_error.mp h)
    · exact nomatch h
  | ok a =>
    refine ⟨fun h => Or.inr ⟨a, rfl, h⟩, ?_⟩
    rintro (h | ⟨b, h, hFails⟩)
    · exact absurd h (not_fails_ok a)
    · cases h
      exact hFails

theorem fails_mapError {Q : δ → Prop} {f : ε → δ} {x : Except ε α} :
    Fails Q (x.mapError f) ↔ Fails (fun e => Q (f e)) x := by
  cases x with
  | error e =>
    change Fails Q (.error (f e)) ↔ _
    rw [fails_error, fails_error]
  | ok a => exact iff_of_false (not_fails_ok a) (not_fails_ok a)

theorem not_fails_forM {f : α → Except ε Unit} {items : List α}
    (h : ∀ item ∈ items, ¬ Fails P (f item)) : ¬ Fails P (items.forM f) := by
  induction items with
  | nil => exact not_fails_ok ()
  | cons item items ih =>
    obtain ⟨hItem, hItems⟩ := List.forall_mem_cons.mp h
    change ¬ Fails P (f item >>= fun _ => items.forM f)
    rw [fails_bind, not_or]
    exact ⟨hItem, fun ⟨_, _, hFails⟩ => ih hItems hFails⟩

/-- A list of outcomes has a value when all of them have one. -/
theorem mapM_ok_iff {f : α → Except ε β} {items : List α} :
    (∃ values, items.mapM f = .ok values) ↔ ∀ item ∈ items, ∃ value, f item = .ok value := by
  induction items with
  | nil => exact ⟨fun _ => nofun, fun _ => ⟨[], rfl⟩⟩
  | cons item items ih =>
    rw [List.forall_mem_cons, ← ih, List.mapM_cons]
    constructor
    · rintro ⟨values, h⟩
      obtain ⟨value, hValue, h⟩ := ok_of_bind h
      obtain ⟨rest, hRest, -⟩ := ok_of_bind h
      exact ⟨⟨value, hValue⟩, rest, hRest⟩
    · rintro ⟨⟨value, hValue⟩, rest, hRest⟩
      rw [hValue, hRest]
      exact ⟨value :: rest, rfl⟩

theorem not_ok_iff {x : Except ε α} : (¬ ∃ a, x = .ok a) ↔ ∃ e, x = .error e := by
  cases x with
  | error e => exact iff_of_true (fun ⟨_, h⟩ => nomatch h) ⟨e, rfl⟩
  | ok a => exact iff_of_false (fun h => h ⟨a, rfl⟩) (fun ⟨_, h⟩ => nomatch h)

/-- It has none when one of them is an error. -/
theorem mapM_error_iff {f : α → Except ε β} {items : List α} :
    (∃ e, items.mapM f = .error e) ↔ ∃ item ∈ items, ∃ e, f item = .error e := by
  simp only [← not_ok_iff, mapM_ok_iff, not_forall, exists_prop]

/-- Values that name their item are those of the items in order. -/
theorem mapM_keys {f : α → Except ε β} {key : β → α} {Q : β → Prop} {items : List α}
    {values : List β} (hValue : ∀ item value, f item = .ok value → key value = item ∧ Q value)
    (h : items.mapM f = .ok values) : values.map key = items ∧ ∀ value ∈ values, Q value := by
  induction items generalizing values with
  | nil =>
    cases h
    exact ⟨rfl, nofun⟩
  | cons item items ih =>
    rw [List.mapM_cons] at h
    obtain ⟨value, hItem, h⟩ := ok_of_bind h
    obtain ⟨rest, hRest, h⟩ := ok_of_bind h
    cases h
    obtain ⟨hKeys, hAll⟩ := ih hRest
    obtain ⟨hKey, hQ⟩ := hValue item value hItem
    exact ⟨List.cons_eq_cons.mpr ⟨hKey, hKeys⟩, List.forall_mem_cons.mpr ⟨hQ, hAll⟩⟩

end Fails

/-- A program over the state `σ` with exceptions `ε`. -/
def Program (σ ε α : Type) : Type := σ → Except ε α × σ

namespace Program

variable {σ ε α β : Type}

/-- Sequencing stops at the first exception. -/
def andThen (x : Program σ ε α) (f : α → Program σ ε β) : Program σ ε β := fun s =>
  match x s with
  | (.ok a, s') => f a s'
  | (.error e, s') => (.error e, s')

instance : Monad (Program σ ε) where
  pure a := fun s => (.ok a, s)
  bind := andThen

/-- Raise an exception. -/
def raise (e : ε) : Program σ ε α := fun s => (.error e, s)

/-- The current state. -/
def get : Program σ ε σ := fun s => (.ok s, s)

/-- Change the state. -/
def modify (f : σ → σ) : Program σ ε Unit := fun s => (.ok (), f s)

/-- Run a handler on the exceptions it recognizes; the others pass. -/
def catching (x : Program σ ε α) (handles : ε → Option β) (handler : β → Program σ ε α) :
    Program σ ε α := fun s =>
  match x s with
  | (.ok a, s') => (.ok a, s')
  | (.error e, s') =>
    match handles e with
    | some b => handler b s'
    | none => (.error e, s')

end Program

open Program

variable {σ ε α β : Type}

/-- The judgment on a program. -/
def Triple (P : σ → Prop) (x : Program σ ε α) (Q : α → σ → Prop) (E : ε → σ → Prop) : Prop :=
  ∀ s, P s → (∀ a s', x s = (.ok a, s') → Q a s') ∧ (∀ e s', x s = (.error e, s') → E e s')

variable {P P' : σ → Prop} {x : Program σ ε α} {f : α → Program σ ε β} {Q Q' : α → σ → Prop}
  {R : β → σ → Prop} {E E' : ε → σ → Prop}

theorem triple_pure {a : α} (h : ∀ s, P s → Q a s) : Triple P (pure a : Program σ ε α) Q E := by
  intro s hP
  refine ⟨?_, ?_⟩
  · rintro b s' hRun
    cases hRun
    exact h s hP
  · rintro e s' hRun
    cases hRun

theorem triple_raise {e : ε} (h : ∀ s, P s → E e s) :
    Triple P (raise e : Program σ ε α) Q E := by
  intro s hP
  refine ⟨?_, ?_⟩
  · rintro b s' hRun
    cases hRun
  · rintro e s' hRun
    cases hRun
    exact h s hP

theorem triple_modify {change : σ → σ} {Q : Unit → σ → Prop} (h : ∀ s, P s → Q () (change s)) :
    Triple P (modify change : Program σ ε Unit) Q E := by
  intro s hP
  refine ⟨?_, ?_⟩
  · rintro b s' hRun
    cases hRun
    exact h s hP
  · rintro e s' hRun
    cases hRun

theorem triple_bind (hx : Triple P x Q E) (hf : ∀ a, Triple (Q a) (f a) R E) :
    Triple P (x >>= f) R E := by
  intro s hP
  obtain ⟨hOk, hError⟩ := hx s hP
  have hBind : (x >>= f) s = match x s with
      | (.ok a, s') => f a s'
      | (.error e, s') => (.error e, s') := rfl
  rw [hBind]
  generalize x s = out at hOk hError
  obtain ⟨result, s'⟩ := out
  cases result with
  | ok a => exact hf a s' (hOk a s' rfl)
  | error e =>
    refine ⟨?_, ?_⟩
    · rintro b t hRun
      cases hRun
    · rintro e' t hRun
      cases hRun
      exact hError e s' rfl

theorem triple_conseq (hx : Triple P x Q E) (hP : ∀ s, P' s → P s)
    (hQ : ∀ a s, Q a s → Q' a s) (hE : ∀ e s, E e s → E' e s) : Triple P' x Q' E' := by
  intro s hPre
  obtain ⟨hOk, hError⟩ := hx s (hP s hPre)
  exact ⟨fun a s' hRun => hQ a s' (hOk a s' hRun), fun e s' hRun => hE e s' (hError e s' hRun)⟩

theorem triple_pre (hx : Triple P x Q E) (hP : ∀ s, P' s → P s) : Triple P' x Q E :=
  triple_conseq hx hP (fun _ _ h => h) fun _ _ h => h

theorem triple_post (hx : Triple P x Q E) (hQ : ∀ a s, Q a s → Q' a s) : Triple P x Q' E :=
  triple_conseq hx (fun _ h => h) hQ fun _ _ h => h

/-- A fact that does not depend on the state is available to the whole proof. -/
theorem triple_assume {p : Prop} (h : p → Triple P x Q E) : Triple (fun s => P s ∧ p) x Q E :=
  fun s hPre => h hPre.2 s hPre.1

/-- A handler is judged at the exceptions it recognizes. -/
theorem triple_catching {γ : Type} {handles : ε → Option γ} {handler : γ → Program σ ε α}
    {X : ε → σ → Prop} (hx : Triple P x Q X)
    (hCaught : ∀ e b, handles e = some b → Triple (X e) (handler b) Q E)
    (hPass : ∀ e s, handles e = none → X e s → E e s) :
    Triple P (x.catching handles handler) Q E := by
  intro s hP
  obtain ⟨hOk, hError⟩ := hx s hP
  unfold catching
  generalize x s = out at hOk hError
  obtain ⟨result, s'⟩ := out
  cases result with
  | ok a =>
    refine ⟨?_, ?_⟩
    · rintro b t hRun
      cases hRun
      exact hOk a s' rfl
    · rintro e t hRun
      cases hRun
  | error e =>
    have hX := hError e s' rfl
    dsimp only
    split
    · rename_i b hHandles
      exact hCaught e b hHandles s' hX
    · rename_i hHandles
      refine ⟨?_, ?_⟩
      · rintro b t hRun
        cases hRun
      · rintro e' t hRun
        cases hRun
        exact hPass e s' hHandles hX

/-- What holds of both outcomes holds of the state the program leaves. -/
theorem Triple.state {I : σ → Prop} (h : Triple P x (fun _ => I) fun _ => I) {s : σ}
    (hP : P s) : I (x s).2 := by
  obtain ⟨hOk, hError⟩ := h s hP
  cases hRun : x s with
  | mk result s' =>
    cases result with
    | ok a => exact hOk a s' hRun
    | error e => exact hError e s' hRun

end PreRunner.Runs
