import Mathlib.Analysis.SpecialFunctions.Complex.Arg
import Mathlib.Analysis.SpecialFunctions.Pow.Real

/-!
# Doubles and the mathematical library

The path speed profile is computed on C++ doubles. Its arithmetic is exact here: a finite double
is an element of an ordered field, and what `<cmath>` provides is a parameter with the few laws
that the results need. The real functions are one such library.
-/

namespace PreRunner.Profile

/-- A C++ `double`: a finite value, one of the two infinities, or NaN. -/
inductive Double (K : Type) where
  | finite (value : K)
  | inf (negative : Bool)
  | nan
  deriving DecidableEq, Repr

namespace Double

variable {K : Type}

/-- `std::isfinite`. -/
def isFinite : Double K → Bool
  | finite _ => true
  | _ => false

/-- The exact value of a finite double. -/
def finite? : Double K → Option K
  | finite value => some value
  | _ => none

/-- `std::isfinite(x) ? x : fallback`. -/
def finiteOr (fallback : K) (x : Double K) : K :=
  x.finite?.getD fallback

@[simp] theorem finite?_finite (value : K) : (finite value).finite? = some value := rfl

theorem eq_of_finite? {x : Double K} {value : K} (h : x.finite? = some value) :
    x = finite value := by
  cases x with
  | finite v => exact congrArg finite (Option.some.inj h)
  | inf negative => exact nomatch h
  | nan => exact nomatch h

theorem finite?_of_isFinite {x : Double K} (h : x.isFinite = true) :
    ∃ value, x.finite? = some value := by
  cases x with
  | finite v => exact ⟨v, rfl⟩
  | inf negative => exact nomatch h
  | nan => exact nomatch h

end Double

/-- What the profile takes from `<cmath>`, and the 64 bits of a double. -/
structure MathLibrary (K : Type) [Field K] [LinearOrder K] where
  sqrt : K → K
  hypot : K → K → K
  atan2 : K → K → K
  sin : K → K
  cos : K → K
  log : K → K
  pow : K → K → K
  bits : K → UInt64
  hypot_nonneg (x y : K) : 0 ≤ hypot x y
  pow_zero {y : K} (h : 0 < y) : pow 0 y = 0

/-- The real functions, with any bit patterns. -/
noncomputable def MathLibrary.real (bits : ℝ → UInt64) : MathLibrary ℝ where
  sqrt := Real.sqrt
  hypot x y := Real.sqrt (x ^ 2 + y ^ 2)
  atan2 y x := Complex.arg ⟨x, y⟩
  sin := Real.sin
  cos := Real.cos
  log := Real.log
  pow x y := x ^ y
  bits := bits
  hypot_nonneg _ _ := Real.sqrt_nonneg _
  pow_zero h := Real.zero_rpow h.ne'

section Clamp

variable {K : Type} [LinearOrder K]

/-- `std::clamp`. -/
def clamp (value low high : K) : K :=
  if value < low then low else if high < value then high else value

theorem clamp_mem {low high : K} (h : low ≤ high) (value : K) :
    low ≤ clamp value low high ∧ clamp value low high ≤ high := by
  unfold clamp
  split
  · exact ⟨le_rfl, h⟩
  · rename_i hLow
    split
    · exact ⟨h, le_rfl⟩
    · rename_i hHigh
      exact ⟨not_lt.mp hLow, not_lt.mp hHigh⟩

theorem clamp_of_le {value low high : K} (h : value ≤ low) (hLe : low ≤ high) :
    clamp value low high = low := by
  unfold clamp
  rcases h.lt_or_eq with hLess | rfl
  · rw [if_pos hLess]
  · rw [if_neg (lt_irrefl _), if_neg (not_lt.mpr hLe)]

theorem clamp_of_mem {value low high : K} (hLow : low ≤ value) (hHigh : value ≤ high) :
    clamp value low high = value := by
  unfold clamp
  rw [if_neg (not_lt.mpr hLow), if_neg (not_lt.mpr hHigh)]

end Clamp

/-! ## Arithmetic -/

namespace Double

section Operations

variable {K : Type}

def add [Add K] : Double K → Double K → Double K
  | finite a, finite b => finite (a + b)
  | inf a, inf b => if a = b then inf a else nan
  | inf a, finite _ | finite _, inf a => inf a
  | nan, _ | _, nan => nan

def sub [Sub K] : Double K → Double K → Double K
  | finite a, finite b => finite (a - b)
  | inf a, inf b => if a = b then nan else inf a
  | inf a, finite _ => inf a
  | finite _, inf b => inf !b
  | nan, _ | _, nan => nan

/-- `a < b`, false of NaN. -/
def lt [LT K] [DecidableLT K] : Double K → Double K → Bool
  | finite a, finite b => decide (a < b)
  | inf a, inf b => a && !b
  | inf a, finite _ => a
  | finite _, inf b => !b
  | nan, _ | _, nan => false

/-- `a == b`, false of NaN. -/
def eq [DecidableEq K] : Double K → Double K → Bool
  | finite a, finite b => decide (a = b)
  | inf a, inf b => a == b
  | inf _, finite _ | finite _, inf _ => false
  | nan, _ | _, nan => false

end Operations

section Arithmetic

variable {K : Type} [Field K] [LinearOrder K]

/-- `a <= b`. -/
def le (a b : Double K) : Bool := a.lt b || a.eq b

def mul : Double K → Double K → Double K
  | finite a, finite b => finite (a * b)
  | inf a, inf b => inf (a ^^ b)
  | inf a, finite b | finite b, inf a => if b = 0 then nan else inf (a ^^ decide (b < 0))
  | nan, _ | _, nan => nan

/-- Both zeros are one value here, so a quotient by zero has the sign of the dividend. -/
def div : Double K → Double K → Double K
  | finite a, finite b =>
    if b ≠ 0 then finite (a / b) else if a = 0 then nan else inf (decide (a < 0))
  | inf _, inf _ => nan
  | inf a, finite b => inf (a ^^ decide (b < 0))
  | finite _, inf _ => finite 0
  | nan, _ | _, nan => nan

/-- `std::min`. -/
def min (a b : Double K) : Double K := if b.lt a then b else a

/-- `std::max`. -/
def max (a b : Double K) : Double K := if a.lt b then b else a

/-- `std::clamp`. -/
def clamp (value low high : Double K) : Double K :=
  if value.lt low then low else if high.lt value then high else value

theorem div_finite {a b : K} (h : b ≠ 0) : (finite a).div (finite b) = finite (a / b) := if_pos h

end Arithmetic

section Comparison

variable {K : Type} [LinearOrder K] {a b low high : K}

theorem lt_finite : (finite a).lt (finite b) = true ↔ a < b := decide_eq_true_iff

theorem eq_finite : (finite a).eq (finite b) = true ↔ a = b := decide_eq_true_iff

theorem le_finite : (finite a).le (finite b) = true ↔ a ≤ b := by
  unfold le
  rw [Bool.or_eq_true, lt_finite, eq_finite]
  exact le_iff_lt_or_eq.symm

theorem min_finite : (finite a).min (finite b) = finite (Min.min a b) := by
  unfold min
  simp only [lt_finite]
  split
  · rename_i h
    rw [min_eq_right h.le]
  · rename_i h
    rw [min_eq_left (not_lt.mp h)]

theorem min_inf : (inf false : Double K).min (finite a) = finite a := rfl

theorem max_finite : (finite a).max (finite b) = finite (Max.max a b) := by
  unfold max
  simp only [lt_finite]
  split
  · rename_i h
    rw [max_eq_right h.le]
  · rename_i h
    rw [max_eq_left (not_lt.mp h)]

theorem clamp_finite :
    (finite a).clamp (finite low) (finite high) = finite (Profile.clamp a low high) := by
  unfold clamp Profile.clamp
  simp only [lt_finite]
  split
  · rfl
  · split <;> rfl

end Comparison

end Double

end PreRunner.Profile
