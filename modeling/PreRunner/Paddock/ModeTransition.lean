import Mathlib.Algebra.Order.Archimedean.Basic
import PreRunner.Paddock.ModeMethods

/-!
# How a transition ends

Whatever systemd, the graph and the clock answer, a transition ends: stable, or in a fault that
`_fail` published. The one exception is the refusal of NEW MAP: its handler asks systemd again,
outside every `try`, and an answer that raises there leaves the runtime transitioning.

A transition is one program, and `Concludes` speaks of the states that it publishes and of how it
ends. `PastBarrier` separates the part before the barrier of NEW MAP, where a refusal leaves the
running mode alone, from the part after it, where everything that raises ends in a fault. Loops
have a bound that covers the timeout.
-/

namespace PreRunner.Paddock

open Runs

variable {W : Type}

/-! ## The barrier of NEW MAP -/

/-- Quiescence is not confirmed before the deadline: the world before the first reading of the
clock in the loop, and the world after the last. -/
inductive RunsOut (env : Environment W) (config : RuntimeConfig) (deadline : ℚ) : W → W → Prop
  | late (w : W) (hLate : deadline ≤ (env.answer .monotonic w).1) :
      RunsOut env config deadline w (env.answer .monotonic w).2
  | again (w w' : W) (hBefore : (env.answer .monotonic w).1 < deadline)
      (hMoving : (env.answer .quiescenceReady (env.answer .monotonic w).2).1.1 = false)
      (hRest : RunsOut env config deadline
        (env.answer (.sleep config.pollPeriod)
          (env.answer .quiescenceReady (env.answer .monotonic w).2).2).2 w') :
      RunsOut env config deadline w w'

/-- The vehicle does not come to rest within the timeout, from the world in which the barrier
was armed. -/
def NotQuiescent (env : Environment W) (config : RuntimeConfig) (w w' : W) : Prop :=
  RunsOut env config ((env.answer .monotonic w).1 + config.transitionTimeout)
    (env.answer .monotonic w).2 w'

/-- The call is a NEW MAP request that is accepted for execution. -/
def AcceptsNewMap (m : ModeMachine W) (call : RuntimeCall) : Prop :=
  ∃ requestId autonomyMap,
    call = .transition (some .mapping) requestId autonomyMap opNewMap ∧
      m.runtime.acceptedRequestId < requestId ∧ ModeRuntime.newMapPossible m.runtime = true

/-- The world in which an accepted NEW MAP waits. -/
def armedWorld (env : Environment W) (m : ModeMachine W) : W :=
  (env.answer .beginQuiescence m.world).2

/-- An accepted NEW MAP runs into its timeout, and the query of the mapping unit right after it
raises. -/
def QueryFailsAfterTimeout (env : Environment W) (config : RuntimeConfig) (m : ModeMachine W)
    (call : RuntimeCall) : Prop :=
  AcceptsNewMap m call ∧ ∃ w, NotQuiescent env config (armedWorld env m) w ∧
    ∃ text, (env.answer (.state .mapping false) w).1 = .error text

variable {env : Environment W} {config : RuntimeConfig}

namespace ModeRuntime

variable {I : ModeMachine W → Prop} {w : W}

/-- The latest published state is the current one. -/
def Published (m : ModeMachine W) : Prop := m.observer.state = m.runtime

/-- What a transition leaves, when it was called on the machine `m₀`. -/
structure Ended (env : Environment W) (config : RuntimeConfig) (m₀ : ModeMachine W)
    (call : RuntimeCall) (m : ModeMachine W) : Prop where
  published : Published m
  settled : m.runtime.lifecycle ≠ .transitioning
  refused : AcceptsNewMap m₀ call → (∃ w, NotQuiescent env config (armedWorld env m₀) w) →
    m.runtime.mode = m₀.runtime.mode ∧ m.runtime.runtimeEpoch = m₀.runtime.runtimeEpoch ∧
      m.runtime.mappingSessionId = m₀.runtime.mappingSessionId
  answered : ¬ QueryFailsAfterTimeout env config m₀ call

end ModeRuntime

/-- Every positive poll period is covered by enough iterations. -/
theorem exists_enough {timeout period : ℚ} (hPeriod : 0 < period) :
    ∃ fuel, RuntimeConfig.Enough
      { transitionTimeout := timeout, pollPeriod := period, fuel } := by
  obtain ⟨n, hn⟩ := exists_nat_gt (timeout / period)
  refine ⟨n + 1, hPeriod, Nat.succ_pos n, ?_⟩
  rw [Nat.add_sub_cancel]
  exact ((div_lt_iff₀ hPeriod).mp hn).le

/-! ## The failing query -/

end PreRunner.Paddock
