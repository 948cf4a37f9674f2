import Mathlib.Order.Basic
import PreRunner.Runs.History

/-!
# Deleting inputs whose only effect is settled again

Some machines do part of their bookkeeping lazily: every input first brings the state up to
date (`settle`) and then acts. An input that is refused after this has no other effect, and
the next input would have settled the state itself. `replay_drop` turns this into a statement
about two runs: the run with the refused inputs and the run without them show the same
observations at every input they share.
-/

namespace PreRunner.Runs

variable {S I B T : Type*} [Preorder T]

section

variable (step : S → I → S) (observe : S → I → B)

/-- The observations of a run, first input first. -/
def replay : S → List I → List B
  | _, [] => []
  | s, input :: rest => observe s input :: replay (step s input) rest

/-- The observations of a run at the inputs that are not dropped. -/
def replayKept (dropped : S → I → Bool) : S → List I → List B
  | _, [] => []
  | s, input :: rest =>
    if dropped s input then replayKept dropped (step s input) rest
    else observe s input :: replayKept dropped (step s input) rest

/-- The inputs of a run that are not dropped, decided along the run itself. -/
def keepInputs (dropped : S → I → Bool) : S → List I → List I
  | _, [] => []
  | s, input :: rest =>
    if dropped s input then keepInputs dropped (step s input) rest
    else input :: keepInputs dropped (step s input) rest

end

/-- What lazy settling asks of a machine: settling twice is settling at the later time, a
dropped input only settles, and every other input shows the same whether or not the state was
settled before it, and leaves the difference of at most that settling. -/
structure Settling (step : S → I → S) (observe : S → I → B) (time : I → T)
    (settle : T → S → S) (dropped : S → I → Bool) : Prop where
  settle_settle : ∀ s t t', t ≤ t' → settle t' (settle t s) = settle t' s
  step_dropped : ∀ s input, dropped s input = true → step s input = settle (time input) s
  observe_settle : ∀ s input t, t ≤ time input → observe (settle t s) input = observe s input
  step_settle : ∀ s input t, t ≤ time input →
    step (settle t s) input = step s input ∨ step (settle t s) input = settle t (step s input)

/-- One state is the other, possibly settled at some time up to `now`. -/
def Lags (settle : T → S → S) (now : T) (ahead behind : S) : Prop :=
  ahead = behind ∨ ∃ t ≤ now, ahead = settle t behind

theorem Lags.mono {settle : T → S → S} {now now' : T} {ahead behind : S} (hle : now ≤ now')
    (h : Lags settle now ahead behind) : Lags settle now' ahead behind := by
  rcases h with h | ⟨t, ht, h⟩
  · exact Or.inl h
  · exact Or.inr ⟨t, ht.trans hle, h⟩

variable {step : S → I → S} {observe : S → I → B} {time : I → T} {settle : T → S → S}
  {dropped : S → I → Bool}

theorem Settling.lags_dropped (hS : Settling step observe time settle dropped) {input : I}
    {ahead behind : S} (hd : dropped ahead input = true)
    (h : Lags settle (time input) ahead behind) :
    Lags settle (time input) (step ahead input) behind := by
  rw [hS.step_dropped _ _ hd]
  rcases h with rfl | ⟨t, ht, rfl⟩
  · exact Or.inr ⟨_, le_rfl, rfl⟩
  · exact Or.inr ⟨_, le_rfl, hS.settle_settle _ _ _ ht⟩

theorem Settling.lags_kept (hS : Settling step observe time settle dropped) {input : I}
    {ahead behind : S} (h : Lags settle (time input) ahead behind) :
    observe ahead input = observe behind input ∧
      Lags settle (time input) (step ahead input) (step behind input) := by
  rcases h with rfl | ⟨t, ht, rfl⟩
  · exact ⟨rfl, Or.inl rfl⟩
  · refine ⟨hS.observe_settle _ _ _ ht, ?_⟩
    rcases hS.step_settle behind input t ht with he | he
    · exact Or.inl he
    · exact Or.inr ⟨t, ht, he⟩

theorem Settling.replay_drop_of_lags (hS : Settling step observe time settle dropped)
    (inputs : List I) : ∀ (now : T) (ahead behind : S),
      (∀ input ∈ inputs, now ≤ time input) →
      inputs.Pairwise (fun i j => time i ≤ time j) → Lags settle now ahead behind →
      replayKept step observe dropped ahead inputs =
        replay step observe behind (keepInputs step dropped ahead inputs) := by
  induction inputs with
  | nil => intros; rfl
  | cons input rest ih =>
    intro now ahead behind hNow hTimes hLags
    have hAt := hLags.mono (hNow input (List.mem_cons_self))
    obtain ⟨hHead, hRest⟩ := List.pairwise_cons.mp hTimes
    cases hd : dropped ahead input with
    | true =>
      simp only [replayKept, keepInputs, hd, if_true]
      exact ih _ _ _ hHead hRest (hS.lags_dropped hd hAt)
    | false =>
      obtain ⟨hObs, hStep⟩ := hS.lags_kept hAt
      simp only [replayKept, keepInputs, hd, Bool.false_eq_true, if_false, replay, hObs]
      exact congrArg _ (ih _ _ _ hHead hRest hStep)

/-- Deleting the dropped inputs of a run with non-decreasing times changes no observation at
the inputs that stay. -/
theorem Settling.replay_drop (hS : Settling step observe time settle dropped) (s : S)
    {inputs : List I} (hTimes : inputs.Pairwise (fun i j => time i ≤ time j)) :
    replayKept step observe dropped s inputs =
      replay step observe s (keepInputs step dropped s inputs) := by
  cases inputs with
  | nil => rfl
  | cons input rest =>
    refine hS.replay_drop_of_lags _ (time input) s s ?_ hTimes (Or.inl rfl)
    intro other hMem
    rcases List.mem_cons.mp hMem with rfl | hMem
    · exact le_rfl
    · exact (List.pairwise_cons.mp hTimes).1 other hMem

end PreRunner.Runs
