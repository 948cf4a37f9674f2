import Mathlib.Algebra.Order.Ring.Rat

/-!
# Python floats

The nodes exchange IEEE doubles. A finite double is a rational number, and the model computes
with finite values exactly; what the code tests for is whether a value is finite at all.
-/

namespace PreRunner

/-- A Python `float`: a finite value, one of the two infinities, or NaN. -/
inductive PyFloat where
  | finite (value : ℚ)
  | inf (negative : Bool)
  | nan
  deriving DecidableEq, Repr

namespace PyFloat

/-- `math.isfinite`. -/
def isfinite : PyFloat → Bool
  | finite _ => true
  | _ => false

/-- The exact value of a finite float. -/
def finite? : PyFloat → Option ℚ
  | finite value => some value
  | _ => none

@[simp] theorem isfinite_finite (value : ℚ) : (finite value).isfinite = true := rfl

@[simp] theorem finite?_finite (value : ℚ) : (finite value).finite? = some value := rfl

theorem finite?_eq_some {x : PyFloat} {value : ℚ} :
    x.finite? = some value ↔ x = finite value := by
  cases x <;> simp [finite?]

end PyFloat

end PreRunner
