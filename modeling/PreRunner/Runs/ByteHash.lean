import Mathlib.Data.List.Basic
import Mathlib.Data.Nat.Bitwise

/-!
# Hashing bytes

FNV-1a folds bytes into a word of some width: each is combined by exclusive or, and the word is
multiplied by a prime. A number is hashed as its bytes, the lowest first.
-/

namespace PreRunner.Runs

/-- The lowest bytes of a number, the least significant one first. -/
def littleEndianBytes : ℕ → ℕ → List UInt8
  | 0, _ => []
  | count + 1, n => UInt8.ofNat n :: littleEndianBytes count (n / 256)

/-- FNV-1a on words of `width` bits. -/
def fnv1a (width prime : ℕ) (hash : ℕ) (data : List UInt8) : ℕ :=
  data.foldl (fun hash byte => (hash ^^^ byte.toNat) * prime % 2 ^ width) hash

theorem fnv1a_append (width prime hash : ℕ) (data rest : List UInt8) :
    fnv1a width prime hash (data ++ rest) = fnv1a width prime (fnv1a width prime hash data) rest :=
  List.foldl_append

/-- Whatever carries the word, hashing entries one after the other is hashing their bytes at
once. -/
theorem foldl_eq_fnv1a {α S : Type*} {width prime : ℕ} (word : S → ℕ) {step : S → α → S}
    {bytes : α → List UInt8}
    (hStep : ∀ s entry, word (step s entry) = fnv1a width prime (word s) (bytes entry))
    (entries : List α) (s : S) :
    word (entries.foldl step s) = fnv1a width prime (word s) (entries.flatMap bytes) := by
  induction entries generalizing s with
  | nil => rfl
  | cons entry rest ih => rw [List.foldl_cons, ih, hStep, List.flatMap_cons, fnv1a_append]

/-- The bytes by shifting. -/
theorem littleEndianBytes_eq_map (count n : ℕ) :
    littleEndianBytes count n = (List.range count).map fun i => UInt8.ofNat (n >>> (8 * i)) := by
  induction count generalizing n with
  | zero => rfl
  | succ count ih =>
    rw [littleEndianBytes, ih, List.range_succ_eq_map, List.map_cons, List.map_map]
    refine congrArg₂ List.cons rfl (List.map_congr_left fun i _ => ?_)
    have hShift : (n / 256) >>> (8 * i) = n >>> (8 * (i + 1)) := by
      rw [show 8 * (i + 1) = 8 + 8 * i by omega, Nat.shiftRight_add, Nat.shiftRight_eq_div_pow n 8]
    exact congrArg UInt8.ofNat hShift

end PreRunner.Runs
