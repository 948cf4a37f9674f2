import PreRunner.Runs.Program

/-!
# Programs that may be interrupted

An operation of such a program may fail, and the program may stop before any of them. The states
it has been in are kept, so that what another party sees at any time can be stated. `Adds` says
what the states of one part of the program have in common.
-/

namespace PreRunner.Runs

/-- How one operation goes. -/
inductive Fault where
  | fine
  | fails
  | crashes
  deriving DecidableEq, Repr

/-- How an interrupted program ends: with an exception, or without a trace. -/
inductive Interrupt (ε : Type) where
  | raised (error : ε)
  | crashed
  deriving DecidableEq, Repr

/-- The present state and the earlier ones, latest first. -/
structure Recorded (σ : Type) where
  now : σ
  past : List σ := []

namespace Recorded

variable {σ : Type}

/-- The states so far, latest first. -/
def seen (s : Recorded σ) : List σ := s.now :: s.past

end Recorded

/-- A program with states `σ` and exceptions `ε` that may be interrupted. -/
abbrev Interruptible (σ ε α : Type) : Type := Program (Recorded σ) (Interrupt ε) α

namespace Interruptible

variable {σ ε α : Type}

/-- One operation of the program; `error` is raised when it fails. -/
def operation (error : ε) (fault : Fault) : Interruptible σ ε Unit :=
  match fault with
  | .fine => pure ()
  | .fails => Program.raise (.raised error)
  | .crashes => Program.raise .crashed

/-- Change the present state. -/
def change (f : σ → σ) : Interruptible σ ε Unit :=
  Program.modify fun s => { now := f s.now, past := s.seen }

/-- An outcome that does not depend on the state. -/
def lift : Except ε α → Interruptible σ ε α
  | .ok a => pure a
  | .error e => Program.raise (.raised e)

end Interruptible

open Interruptible

variable {σ ε α : Type}

/-- An exception for a failed operation, or none at all. -/
def Interrupt.Stops (error : ε) (ending : Interrupt ε) : Prop :=
  ending = .raised error ∨ ending = .crashed

/-- On the way from one record to another all states have the property. -/
def Adds (X : σ → Prop) (s t : Recorded σ) : Prop :=
  ∃ newer, t.seen = newer ++ s.seen ∧ ∀ state ∈ newer, X state

variable {X Y : σ → Prop} {s t u : Recorded σ}

theorem adds_refl (X : σ → Prop) (s : Recorded σ) : Adds X s s :=
  ⟨[], rfl, fun _ hMem => absurd hMem List.not_mem_nil⟩

theorem Adds.trans (h : Adds X s t) (hNext : Adds X t u) : Adds X s u := by
  obtain ⟨newer, hSeen, hAll⟩ := h
  obtain ⟨latest, hLatest, hAllLatest⟩ := hNext
  refine ⟨latest ++ newer, by rw [hLatest, hSeen, List.append_assoc], fun state hMem => ?_⟩
  rcases List.mem_append.mp hMem with hNew | hOld
  · exact hAllLatest state hNew
  · exact hAll state hOld

theorem adds_change {next : σ} (h : X next) : Adds X s ⟨next, s.seen⟩ :=
  ⟨[next], rfl, fun _ hMem => List.mem_singleton.mp hMem ▸ h⟩

theorem Adds.mono (h : Adds X s t) (hImp : ∀ state, X state → Y state) : Adds Y s t := by
  obtain ⟨newer, hSeen, hAll⟩ := h
  exact ⟨newer, hSeen, fun state hMem => hImp state (hAll state hMem)⟩

/-- What every state of a run has. -/
theorem Adds.all (h : Adds X s t) (hBefore : ∀ state ∈ s.seen, X state) :
    ∀ state ∈ t.seen, X state := by
  obtain ⟨newer, hSeen, hAll⟩ := h
  intro state hMem
  rw [hSeen] at hMem
  rcases List.mem_append.mp hMem with hNew | hOld
  · exact hAll state hNew
  · exact hBefore state hOld

/-- An operation is carried out, or the program stops. -/
theorem operation_cases (error : ε) (fault : Fault) (s : Recorded σ) :
    (fault = .fine ∧ operation error fault s = (.ok (), s)) ∨
      (fault ≠ .fine ∧ ∃ ending, operation error fault s = (.error ending, s) ∧
        Interrupt.Stops error ending) := by
  cases fault with
  | fine => exact .inl ⟨rfl, rfl⟩
  | fails => exact .inr ⟨nofun, _, rfl, .inl rfl⟩
  | crashes => exact .inr ⟨nofun, _, rfl, .inr rfl⟩

namespace Program

variable {τ β : Type}

theorem bind_ok {x : Program τ ε α} {f : α → Program τ ε β} {s s' : τ} {a : α}
    (h : x s = (.ok a, s')) : (x >>= f) s = f a s' := by
  change andThen x f s = f a s'
  unfold andThen
  rw [h]

theorem bind_error {x : Program τ ε α} {f : α → Program τ ε β} {s s' : τ} {e : ε}
    (h : x s = (.error e, s')) : (x >>= f) s = (.error e, s') := by
  change andThen x f s = _
  unfold andThen
  rw [h]

end Program

end PreRunner.Runs
