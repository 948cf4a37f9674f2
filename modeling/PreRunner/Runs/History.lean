import Mathlib.Data.List.Basic

/-!
# Histories of a deterministic machine

A machine is an initial state and a step function. Whatever its environment decides (clock
readings, answers, failures) is part of the input, so one list of inputs is one interleaving.
A history lists the inputs of a run with the latest first: `after` runs it, and `Since` is the
past-time operator "some input started it, and every input after that one kept it".
-/

namespace PreRunner.Runs

variable {S I : Type*}

/-- The state a machine reaches through a history, latest input first. -/
def after (step : S → I → S) (init : S) : List I → S
  | [] => init
  | input :: past => step (after step init past) input

@[simp] theorem after_nil (step : S → I → S) (init : S) : after step init [] = init := rfl

@[simp] theorem after_cons (step : S → I → S) (init : S) (input : I) (past : List I) :
    after step init (input :: past) = step (after step init past) input := rfl

theorem after_append (step : S → I → S) (init : S) (later past : List I) :
    after step init (later ++ past) = after step (after step init past) later := by
  induction later with
  | nil => rfl
  | cons input later ih => rw [List.cons_append, after_cons, after_cons, ih]

/-- The induction over a run: what holds initially and survives every step holds after every
history. -/
theorem after_invariant {step : S → I → S} {init : S} {P : S → Prop} (hInit : P init)
    (hStep : ∀ s input, P s → P (step s input)) (past : List I) : P (after step init past) := by
  induction past with
  | nil => exact hInit
  | cons input past ih => exact hStep _ input ih

/-- The same induction for a property that also reads the history. -/
theorem after_history_invariant {step : S → I → S} {init : S} {P : List I → S → Prop}
    (hInit : P [] init)
    (hStep : ∀ past s input, P past s → P (input :: past) (step s input)) (past : List I) :
    P past (after step init past) := by
  induction past with
  | nil => exact hInit
  | cons input past ih => exact hStep past _ input ih

/-! ## The past-time operator -/

/-- Some input of the history satisfies `start` over its own past, and every later input
satisfies `keep` over its own past. -/
def Since (keep start : List I → I → Prop) : List I → Prop
  | [] => False
  | input :: past => start past input ∨ (keep past input ∧ Since keep start past)

@[simp] theorem since_nil {keep start : List I → I → Prop} : ¬ Since keep start [] := id

theorem since_cons {keep start : List I → I → Prop} {input : I} {past : List I} :
    Since keep start (input :: past) ↔
      start past input ∨ (keep past input ∧ Since keep start past) := Iff.rfl

theorem Since.start {keep start : List I → I → Prop} {input : I} {past : List I}
    (h : start past input) : Since keep start (input :: past) := Or.inl h

theorem Since.keep {keep start : List I → I → Prop} {input : I} {past : List I}
    (hKeep : keep past input) (h : Since keep start past) : Since keep start (input :: past) :=
  Or.inr ⟨hKeep, h⟩

theorem Since.mono {keep keep' start start' : List I → I → Prop}
    (hKeep : ∀ past input, keep past input → keep' past input)
    (hStart : ∀ past input, start past input → start' past input) {past : List I}
    (h : Since keep start past) : Since keep' start' past := by
  induction past with
  | nil => exact h
  | cons input past ih =>
    rcases h with h | ⟨hk, h⟩
    · exact .start (hStart _ _ h)
    · exact .keep (hKeep _ _ hk) (ih h)

instance Since.decidable {keep start : List I → I → Prop}
    [∀ past input, Decidable (keep past input)] [∀ past input, Decidable (start past input)] :
    ∀ past, Decidable (Since keep start past)
  | [] => isFalse id
  | input :: past =>
    have := @Since.decidable keep start _ _ past
    inferInstanceAs (Decidable (start past input ∨ (keep past input ∧ Since keep start past)))

/-- Some input of the history satisfies `start` over its own past. -/
abbrev Once (start : List I → I → Prop) : List I → Prop := Since (fun _ _ => True) start

theorem Once.cons {start : List I → I → Prop} {input : I} {past : List I}
    (h : Once start past) : Once start (input :: past) := .keep trivial h

theorem Once.append {start : List I → I → Prop} (later : List I) {past : List I}
    (h : Once start past) : Once start (later ++ past) := by
  induction later with
  | nil => exact h
  | cons input later ih => exact ih.cons

/-- A property of a step, read as a property of an input and its past. -/
def along (step : S → I → S) (init : S) (p : S → I → Prop) (past : List I) (input : I) : Prop :=
  p (after step init past) input

instance along.decidable (step : S → I → S) (init : S) (p : S → I → Prop)
    [∀ s input, Decidable (p s input)] (past : List I) (input : I) :
    Decidable (along step init p past input) :=
  inferInstanceAs (Decidable (p (after step init past) input))

/-- Every input of the history satisfies `p` over its own past. -/
def Always (p : List I → I → Prop) : List I → Prop
  | [] => True
  | input :: past => p past input ∧ Always p past

instance Always.decidable {p : List I → I → Prop} [∀ past input, Decidable (p past input)] :
    ∀ past, Decidable (Always p past)
  | [] => isTrue trivial
  | input :: past =>
    have := @Always.decidable p _ past
    inferInstanceAs (Decidable (p past input ∧ Always p past))

theorem Always.mono {p q : List I → I → Prop} (h : ∀ past input, p past input → q past input)
    {history : List I} (hAlways : Always p history) : Always q history := by
  induction history with
  | nil => trivial
  | cons input past ih => exact ⟨h past input hAlways.1, ih hAlways.2⟩

theorem Always.suffix {p : List I → I → Prop} {later past : List I}
    (h : Always p (later ++ past)) : Always p past := by
  induction later with
  | nil => exact h
  | cons first later ih => exact ih h.2

theorem Always.of_split {p : List I → I → Prop} {later past : List I} {input : I}
    (h : Always p (later ++ input :: past)) : p past input := h.suffix.1

end PreRunner.Runs
