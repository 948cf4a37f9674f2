import PreRunner.Runs.Interruption

/-!
# What a program guarantees while it runs

An interruptible program that starts in a state with `A` passes through states with `X` alone, and
when it returns a value it has established `B`. The rules follow the constructs of a program; none
of them asks how an operation goes.
-/

namespace PreRunner.Runs

open Interruptible Program

variable {σ ε α β : Type}

/-- From `A`, all later states have `X`, and a value is returned with `B`. -/
def Guarantees (A : σ → Prop) (x : Interruptible σ ε α) (X : σ → Prop) (B : α → σ → Prop) :
    Prop :=
  ∀ s, A s.now → Adds X s (x s).2 ∧ ∀ a, (x s).1 = .ok a → B a (x s).2.now

namespace Guarantees

variable {A A' X X' : σ → Prop} {B B' : α → σ → Prop} {C : β → σ → Prop}
  {x : Interruptible σ ε α} {f : α → Interruptible σ ε β}

/-- The last state of a part of a program is one of those it passes through. -/
theorem now_of_adds {s t : Recorded σ} (h : Adds X s t) (hBefore : X s.now) : X t.now := by
  obtain ⟨newer, hSeen, hAll⟩ := h
  cases newer with
  | nil =>
    have hNow : t.now = s.now := (List.cons_eq_cons.mp hSeen).1
    rw [hNow]
    exact hBefore
  | cons state newer =>
    have hNow : t.now = state := (List.cons_eq_cons.mp hSeen).1
    rw [hNow]
    exact hAll state (List.mem_cons_self ..)

theorem conseq (h : Guarantees A x X B) (hA : ∀ s, A' s → A s) (hX : ∀ s, X s → X' s)
    (hB : ∀ a s, B a s → B' a s) : Guarantees A' x X' B' := by
  intro s hBefore
  obtain ⟨hAdds, hValue⟩ := h s (hA _ hBefore)
  exact ⟨hAdds.mono hX, fun a hRun => hB a _ (hValue a hRun)⟩

theorem pre (h : Guarantees A x X B) (hA : ∀ s, A' s → A s) : Guarantees A' x X B :=
  h.conseq hA (fun _ hState => hState) fun _ _ hPost => hPost

theorem post (h : Guarantees A x X B) (hB : ∀ a s, B a s → B' a s) : Guarantees A x X B' :=
  h.conseq (fun _ hPre => hPre) (fun _ hState => hState) hB

/-- The judgment at each starting state. -/
theorem of_each (h : ∀ s₀, A s₀ → Guarantees (fun s => s = s₀) x X B) : Guarantees A x X B :=
  fun s hBefore => h s.now hBefore s rfl

theorem of_exists {ι : Type} {A : ι → σ → Prop} (h : ∀ i, Guarantees (A i) x X B) :
    Guarantees (fun s => ∃ i, A i s) x X B := by
  rintro s ⟨i, hBefore⟩
  exact h i s hBefore

/-- A fact that does not depend on the state is available to the whole proof. -/
theorem assume {p : Prop} (h : p → Guarantees A x X B) : Guarantees (fun s => p ∧ A s) x X B :=
  fun s hBefore => h hBefore.1 s hBefore.2

/-- What a program passes through is also what it ends in. -/
theorem and_state (h : Guarantees A x X B) (hX : ∀ s, A s → X s) :
    Guarantees A x X fun a s => B a s ∧ X s := by
  intro s hBefore
  obtain ⟨hAdds, hValue⟩ := h s hBefore
  exact ⟨hAdds, fun a hRun => ⟨hValue a hRun, now_of_adds hAdds (hX _ hBefore)⟩⟩

protected theorem pure {a : α} (h : ∀ s, A s → B a s) :
    Guarantees A (pure a : Interruptible σ ε α) X B := by
  intro s hBefore
  refine ⟨adds_refl X s, fun b hRun => ?_⟩
  cases hRun
  exact h s.now hBefore

protected theorem raise {e : Interrupt ε} :
    Guarantees A (raise e : Interruptible σ ε α) X B := by
  intro s _
  refine ⟨adds_refl X s, fun b hRun => ?_⟩
  cases hRun

protected theorem lift {outcome : Except ε α} (h : ∀ a, outcome = .ok a → ∀ s, A s → B a s) :
    Guarantees A (lift outcome) X B := by
  cases outcome with
  | error e => exact Guarantees.raise
  | ok a => exact Guarantees.pure (h a rfl)

protected theorem operation {error : ε} {fault : Fault} :
    Guarantees A (operation error fault) X fun _ => A := by
  cases fault with
  | fine => exact Guarantees.pure fun _ hState => hState
  | fails => exact Guarantees.raise
  | crashes => exact Guarantees.raise

protected theorem change {f : σ → σ} {B : Unit → σ → Prop}
    (h : ∀ s, A s → X (f s) ∧ B () (f s)) :
    Guarantees A (change f : Interruptible σ ε Unit) X B := by
  intro s hBefore
  obtain ⟨hNext, hAfter⟩ := h s.now hBefore
  refine ⟨adds_change hNext, fun b _ => ?_⟩
  cases b
  exact hAfter

protected theorem bind (hx : Guarantees A x X B) (hf : ∀ a, Guarantees (B a) (f a) X C) :
    Guarantees A (x >>= f) X C := by
  intro s hBefore
  obtain ⟨hAdds, hValue⟩ := hx s hBefore
  cases hRun : x s with
  | mk outcome t =>
    rw [hRun] at hAdds hValue
    cases outcome with
    | error e =>
      rw [bind_error hRun]
      refine ⟨hAdds, fun b hResult => ?_⟩
      cases hResult
    | ok a =>
      rw [bind_ok hRun]
      obtain ⟨hMore, hAfter⟩ := hf a t (hValue a rfl)
      exact ⟨hAdds.trans hMore, hAfter⟩

/-- Reading the state: the rest of the program is judged at the state it was given. -/
protected theorem get {f : Recorded σ → Interruptible σ ε β}
    (h : ∀ r : Recorded σ, A r.now → Guarantees (fun s => s = r.now) (f r) X C) :
    Guarantees A (Program.get >>= f) X C :=
  fun s hBefore => h s hBefore s rfl

/-- A handler starts from any of the states the program passes through. -/
protected theorem catching {γ : Type} {handles : Interrupt ε → Option γ}
    {handler : γ → Interruptible σ ε α} (hx : Guarantees A x X B) (hX : ∀ s, A s → X s)
    (hCaught : ∀ e, Guarantees X (handler e) X B) :
    Guarantees A (x.catching handles handler) X B := by
  intro s hBefore
  obtain ⟨hAdds, hValue⟩ := hx s hBefore
  unfold Program.catching
  cases hRun : x s with
  | mk outcome t =>
    rw [hRun] at hAdds hValue
    cases outcome with
    | ok a => exact ⟨hAdds, hValue⟩
    | error e =>
      dsimp only
      cases hHandles : handles e with
      | none =>
        refine ⟨hAdds, fun b hResult => ?_⟩
        cases hResult
      | some b =>
        obtain ⟨hMore, hAfter⟩ := hCaught b t (now_of_adds hAdds (hX _ hBefore))
        exact ⟨hAdds.trans hMore, hAfter⟩

end Guarantees

end PreRunner.Runs
