import Mathlib.Data.List.Basic

/-!
# Table-driven checks of byte strings

A check is updated byte by byte from a table of 256 bytes. When the table is linear in exclusive or
and has the kernel `{0}`, the check of a string and its own check is zero, and no error confined to
one byte goes undetected; nor does one of two neighbouring bytes that the table does not relate.
-/

namespace PreRunner.Runs

/-- The check after some bytes. -/
def checkFrom (table : UInt8 → UInt8) (check : UInt8) (bytes : List UInt8) : UInt8 :=
  bytes.foldl (fun check byte => table (check ^^^ byte)) check

/-- The bytes of two strings, combined. -/
def xorBytes (a b : List UInt8) : List UInt8 := List.zipWith (· ^^^ ·) a b

@[simp] theorem checkFrom_nil (table : UInt8 → UInt8) (check : UInt8) :
    checkFrom table check [] = check := rfl

@[simp] theorem checkFrom_cons (table : UInt8 → UInt8) (check byte : UInt8) (bytes : List UInt8) :
    checkFrom table check (byte :: bytes) = checkFrom table (table (check ^^^ byte)) bytes := rfl

theorem checkFrom_append (table : UInt8 → UInt8) (check : UInt8) (a b : List UInt8) :
    checkFrom table check (a ++ b) = checkFrom table (checkFrom table check a) b :=
  List.foldl_append ..

/-- What a check relies on. -/
structure LinearTable (table : UInt8 → UInt8) : Prop where
  xor : ∀ a b, table (a ^^^ b) = table a ^^^ table b
  kernel : ∀ a, table a = 0 → a = 0

theorem xor_xor_xor_comm (a b c d : UInt8) : (a ^^^ b) ^^^ (c ^^^ d) = (a ^^^ c) ^^^ (b ^^^ d) := by
  rw [UInt8.xor_assoc, ← UInt8.xor_assoc b c d, UInt8.xor_comm b c, UInt8.xor_assoc c b d,
    ← UInt8.xor_assoc]

section Linear

variable {table : UInt8 → UInt8} {check byte : UInt8} {bytes : List UInt8}

theorem LinearTable.zero (h : LinearTable table) : table 0 = 0 := by
  have hXor := h.xor 0 0
  rw [UInt8.xor_self] at hXor
  rw [hXor, UInt8.xor_self]

theorem LinearTable.ne_zero (h : LinearTable table) {a : UInt8} (ha : a ≠ 0) : table a ≠ 0 :=
  fun hZero => ha (h.kernel a hZero)

/-- The check of a sum is the sum of the checks. -/
theorem LinearTable.checkFrom_xorBytes (h : LinearTable table) {a b : List UInt8}
    (hLength : a.length = b.length) (x y : UInt8) :
    checkFrom table (x ^^^ y) (xorBytes a b) = checkFrom table x a ^^^ checkFrom table y b := by
  induction a generalizing b x y with
  | nil =>
    rw [List.length_nil, eq_comm, List.length_eq_zero_iff] at hLength
    subst hLength
    rfl
  | cons first a ih =>
    cases b with
    | nil => exact absurd hLength (by simp)
    | cons second b =>
      have hRest : a.length = b.length := by simpa using hLength
      change checkFrom table (table ((x ^^^ y) ^^^ (first ^^^ second))) (xorBytes a b) = _
      rw [xor_xor_xor_comm, h.xor, ih hRest]
      rfl

/-- A string followed by its check has the check zero. -/
theorem LinearTable.checkFrom_concat (h : LinearTable table) :
    checkFrom table check (bytes ++ [byte]) = 0 ↔ byte = checkFrom table check bytes := by
  rw [checkFrom_append, checkFrom_cons, checkFrom_nil]
  constructor
  · intro hZero
    exact (UInt8.xor_eq_zero_iff.mp (h.kernel _ hZero)).symm
  · rintro rfl
    rw [UInt8.xor_self, h.zero]

theorem LinearTable.checkFrom_zeros (h : LinearTable table) (count : ℕ) :
    checkFrom table 0 (List.replicate count 0) = 0 := by
  induction count with
  | zero => rfl
  | succ count ih =>
    rw [List.replicate_succ, checkFrom_cons, UInt8.xor_self, h.zero]
    exact ih

/-- Zeros never bring a check back to zero. -/
theorem LinearTable.checkFrom_zeros_ne_zero (h : LinearTable table) (hCheck : check ≠ 0)
    (count : ℕ) : checkFrom table check (List.replicate count 0) ≠ 0 := by
  induction count generalizing check with
  | zero => exact hCheck
  | succ count ih =>
    rw [List.replicate_succ, checkFrom_cons, UInt8.xor_zero]
    exact ih (h.ne_zero hCheck)

/-- An error of two neighbouring bytes is detected unless the table relates them. -/
theorem LinearTable.checkFrom_pair_ne_zero (h : LinearTable table) {x y : UInt8}
    (hPair : table x ≠ y) (before after : ℕ) :
    checkFrom table 0 (List.replicate before 0 ++ x :: y :: List.replicate after 0) ≠ 0 := by
  rw [checkFrom_append, h.checkFrom_zeros, checkFrom_cons, checkFrom_cons, UInt8.zero_xor]
  refine h.checkFrom_zeros_ne_zero (h.ne_zero fun hZero => hPair ?_) after
  exact UInt8.xor_eq_zero_iff.mp hZero

end Linear

/-! ## Tables that eight bytes span -/

/-- The sum of the bytes whose bits are set. -/
def spanned : List UInt8 → ℕ → ℕ → UInt8
  | [], _, _ => 0
  | byte :: basis, bit, n => (if n.testBit bit then byte else 0) ^^^ spanned basis (bit + 1) n

theorem spanned_xor (basis : List UInt8) (bit m n : ℕ) :
    spanned basis bit (m ^^^ n) = spanned basis bit m ^^^ spanned basis bit n := by
  induction basis generalizing bit with
  | nil => exact UInt8.xor_self.symm
  | cons byte basis ih =>
    have hBit : (if (m ^^^ n).testBit bit then byte else 0) =
        (if m.testBit bit then byte else 0) ^^^ (if n.testBit bit then byte else 0) := by
      rw [Nat.testBit_xor]
      cases m.testBit bit with
      | false => cases n.testBit bit <;> simp
      | true => cases n.testBit bit <;> simp
    unfold spanned
    rw [ih, hBit, xor_xor_xor_comm]

/-- A table of sums of eight bytes, none of them zero but the first. -/
theorem linearTable_of_spanned {entries : List UInt8} (basis : List UInt8)
    (hSpan : entries = (List.range 256).map (spanned basis 0))
    (hKernel : ∀ entry ∈ entries.tail, entry ≠ 0) :
    LinearTable fun index => entries.getD index.toNat 0 := by
  have hEntry : ∀ index : UInt8, entries.getD index.toNat 0 = spanned basis 0 index.toNat := by
    intro index
    have hIndex : index.toNat < 256 := index.toNat_lt
    rw [hSpan, List.getD_eq_getElem?_getD, List.getElem?_map, List.getElem?_range hIndex]
    rfl
  constructor
  case xor =>
    intro a b
    rw [hEntry, hEntry, hEntry, UInt8.toNat_xor, spanned_xor]
  case kernel =>
    intro a ha
    refine UInt8.toNat_inj.mp ?_
    cases hIndex : a.toNat with
    | zero => rfl
    | succ n =>
      have hLength : n < entries.tail.length := by
        have hBound : a.toNat < 256 := a.toNat_lt
        rw [hSpan, List.length_tail, List.length_map, List.length_range]
        omega
      refine absurd ?_ (hKernel _ (List.getElem_mem hLength))
      rw [← ha, hIndex, List.getElem_tail, List.getD_eq_getElem?_getD,
        List.getElem?_eq_getElem (by rw [List.length_tail] at hLength; omega)]
      rfl

end PreRunner.Runs
