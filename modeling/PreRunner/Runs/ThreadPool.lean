import Mathlib.Data.List.Basic

/-!
# Threads that interleave

A thread is the list of the atomic operations it has still to run. Running the first one changes the
shared state and may put further operations in its place, as a function body does for its call. What
is true of every operation that waits in a pool is an invariant if each operation makes it true of
those it leaves, and does not make it false of the others.
-/

namespace PreRunner.Runs

variable {S Op E : Type*}

/-- Run the first operation of one thread; a thread that has ended, or does not exist, does
nothing. -/
def runThread (exec : S → E → Op → S × List Op) (s : S) (threads : List (List Op)) (index : ℕ)
    (env : E) : S × List (List Op) :=
  match threads[index]? with
  | some (op :: rest) => ((exec s env op).1, threads.set index ((exec s env op).2 ++ rest))
  | _ => (s, threads)

/-- Every operation that waits in a pool. -/
def AllOps (P : Op → Prop) (threads : List (List Op)) : Prop := ∀ ops ∈ threads, ∀ op ∈ ops, P op

section

variable {P Q : Op → Prop} {threads : List (List Op)}

theorem allOps_nil : AllOps P [] := nofun

theorem AllOps.mono (h : AllOps P threads) (hImp : ∀ op, P op → Q op) : AllOps Q threads :=
  fun ops hOps op hOp => hImp op (h ops hOps op hOp)

/-- A thread begins. -/
theorem AllOps.spawn (h : AllOps P threads) {ops : List Op} (hNew : ∀ op ∈ ops, P op) :
    AllOps P (threads ++ [ops]) := by
  intro other hOther
  rcases List.mem_append.mp hOther with hOld | hOps
  · exact h other hOld
  · rw [List.mem_singleton.mp hOps]
    exact hNew

theorem AllOps.head (h : AllOps P threads) {index : ℕ} {op : Op} {rest : List Op}
    (hThread : threads[index]? = some (op :: rest)) : P op :=
  h _ (List.mem_of_getElem? hThread) op (List.mem_cons_self ..)

/-- An operation runs. -/
theorem AllOps.set (h : AllOps P threads) {index : ℕ} {op : Op} {rest next : List Op}
    (hThread : threads[index]? = some (op :: rest)) (hNext : ∀ op ∈ next, P op) :
    AllOps P (threads.set index (next ++ rest)) := by
  intro ops hOps
  rcases List.mem_or_eq_of_mem_set hOps with hOld | rfl
  · exact h ops hOld
  · intro other hOther
    rcases List.mem_append.mp hOther with hNew | hRest
    · exact hNext other hNew
    · exact h _ (List.mem_of_getElem? hThread) other (List.mem_cons_of_mem op hRest)

end

/-- A step of a thread keeps what its operation keeps. -/
theorem runThread_cases (exec : S → E → Op → S × List Op) (s : S) (threads : List (List Op))
    (index : ℕ) (env : E) :
    runThread exec s threads index env = (s, threads) ∨
      ∃ op rest, threads[index]? = some (op :: rest) ∧ runThread exec s threads index env =
        ((exec s env op).1, threads.set index ((exec s env op).2 ++ rest)) := by
  unfold runThread
  split
  · rename_i op rest hThread
    exact Or.inr ⟨op, rest, hThread, rfl⟩
  · exact Or.inl rfl

end PreRunner.Runs
