import PreRunner.Runs.History

/-!
# Machines that emit

A step of the machine may also act on a device: it returns its outputs in the order in which it
makes them. `emitted` is the trace of a run, and folding the trace over the device gives the
device at any instant, between two outputs of one step as well. `Throughout` says of a trace
that every output was right for the device it met.
-/

namespace PreRunner.Runs

variable {S I O Q : Type*}

/-- The state part of a step with outputs. -/
def advance (step : S → I → S × List O) (s : S) (input : I) : S := (step s input).1

/-- The trace of a run, first output first. -/
def emitted (step : S → I → S × List O) (init : S) : List I → List O
  | [] => []
  | input :: past => emitted step init past ++ (step (after (advance step) init past) input).2

@[simp] theorem emitted_nil (step : S → I → S × List O) (init : S) :
    emitted step init [] = [] := rfl

@[simp] theorem emitted_cons (step : S → I → S × List O) (init : S) (input : I) (past : List I) :
    emitted step init (input :: past) =
      emitted step init past ++ (step (after (advance step) init past) input).2 := rfl

/-- The device a run leaves behind. -/
def deviceAfter (step : S → I → S × List O) (apply : Q → O → Q) (init : S) (device : Q)
    (past : List I) : Q := (emitted step init past).foldl apply device

theorem deviceAfter_cons (step : S → I → S × List O) (apply : Q → O → Q) (init : S) (device : Q)
    (input : I) (past : List I) :
    deviceAfter step apply init device (input :: past) =
      (step (after (advance step) init past) input).2.foldl apply
        (deviceAfter step apply init device past) := by
  rw [deviceAfter, emitted_cons, List.foldl_append]
  rfl

/-- The induction over a run for a property of the history, the state and the device. -/
theorem device_invariant {step : S → I → S × List O} {apply : Q → O → Q} {init : S} {device : Q}
    {P : List I → S → Q → Prop} (hInit : P [] init device)
    (hStep : ∀ past s q input, P past s q →
      P (input :: past) (step s input).1 ((step s input).2.foldl apply q)) (past : List I) :
    P past (after (advance step) init past) (deviceAfter step apply init device past) := by
  induction past with
  | nil => exact hInit
  | cons input past ih =>
    rw [deviceAfter_cons]
    exact hStep past _ _ input ih

/-! ## Every output of a trace -/

/-- Every output of the trace satisfies `R` with the device it meets. -/
def Throughout (apply : Q → O → Q) (R : Q → O → Prop) : Q → List O → Prop
  | _, [] => True
  | device, output :: rest => R device output ∧ Throughout apply R (apply device output) rest

variable {apply : Q → O → Q} {R R' : Q → O → Prop}

@[simp] theorem throughout_nil (device : Q) : Throughout apply R device [] := trivial

@[simp] theorem throughout_cons {device : Q} {output : O} {rest : List O} :
    Throughout apply R device (output :: rest) ↔
      R device output ∧ Throughout apply R (apply device output) rest := Iff.rfl

theorem throughout_append {device : Q} {first rest : List O} :
    Throughout apply R device (first ++ rest) ↔
      Throughout apply R device first ∧ Throughout apply R (first.foldl apply device) rest := by
  induction first generalizing device with
  | nil => simp
  | cons output first ih => simp [ih, and_assoc]

/-- `Throughout` read at one instant of the trace. -/
theorem Throughout.at {device : Q} {before later : List O} {output : O}
    (h : Throughout apply R device (before ++ output :: later)) :
    R (before.foldl apply device) output :=
  (throughout_append.mp h).2.1

/-- If, as long as `C` held at every step, an invariant `P` makes the outputs of the next step
right exactly when `C` holds there, then a whole trace is right exactly when `C` always held. -/
theorem throughout_emitted_iff {step : S → I → S × List O} {init : S} {device : Q}
    {P : S → Q → Prop} {C : S → I → Prop} (hInit : P init device)
    (hRight : ∀ s q input, P s q → (Throughout apply R q (step s input).2 ↔ C s input))
    (hStep : ∀ s q input, P s q → C s input →
      P (step s input).1 ((step s input).2.foldl apply q)) (past : List I) :
    Throughout apply R device (emitted step init past) ↔
      Always (along (advance step) init C) past := by
  have hBoth : (Throughout apply R device (emitted step init past) ↔
      Always (along (advance step) init C) past) ∧
        (Always (along (advance step) init C) past →
          P (after (advance step) init past) (deviceAfter step apply init device past)) := by
    induction past with
    | nil => exact ⟨Iff.rfl, fun _ => hInit⟩
    | cons input past ih =>
      obtain ⟨ihRight, ihP⟩ := ih
      constructor
      · rw [emitted_cons, throughout_append, ihRight, Always, and_comm]
        exact and_congr_left fun hAlways => hRight _ _ input (ihP hAlways)
      · rintro ⟨hC, hAlways⟩
        rw [deviceAfter_cons]
        exact hStep _ _ input (ihP hAlways) hC
  exact hBoth.1

end PreRunner.Runs
