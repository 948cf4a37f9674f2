import Mathlib.Data.Fintype.BigOperators
import Mathlib.Data.Fintype.Option

/-!
# Framing of byte strings

Big-endian words, rows of a fixed width, and how many words a code must lengthen. These are the
parts of a binary format that do not depend on what it carries.
-/

namespace PreRunner.Runs

/-! ## Big-endian words -/

/-- The four bytes of a word, the highest first. -/
def packWord (value : ℕ) : List UInt8 :=
  [UInt8.ofNat (value / 2 ^ 24), UInt8.ofNat (value / 2 ^ 16), UInt8.ofNat (value / 2 ^ 8),
    UInt8.ofNat value]

/-- The number that bytes spell, the highest first. -/
def unpackWord (bytes : List UInt8) : ℕ :=
  bytes.foldl (fun value byte => value * 2 ^ 8 + byte.toNat) 0

@[simp] theorem length_packWord (value : ℕ) : (packWord value).length = 4 := rfl

@[simp] theorem unpackWord_packWord {value : ℕ} (h : value < 2 ^ 32) :
    unpackWord (packWord value) = value := by
  unfold unpackWord packWord
  simp only [List.foldl_cons, List.foldl_nil, UInt8.toNat_ofNat']
  omega

/-! ## Rows -/

section Rows

variable {α : Type*}

/-- The first rows of a buffer. -/
def rows (width : ℕ) : ℕ → List α → List (List α)
  | 0, _ => []
  | height + 1, buffer => buffer.take width :: rows width height (buffer.drop width)

@[simp] theorem length_rows (width height : ℕ) (buffer : List α) :
    (rows width height buffer).length = height := by
  induction height generalizing buffer with
  | zero => rfl
  | succ height ih => exact congrArg (· + 1) (ih _)

theorem length_of_mem_rows {width height : ℕ} {buffer : List α}
    (h : buffer.length = width * height) {row : List α} (hRow : row ∈ rows width height buffer) :
    row.length = width := by
  induction height generalizing buffer with
  | zero => cases hRow
  | succ height ih =>
    rw [Nat.mul_succ] at h
    rcases List.mem_cons.mp hRow with rfl | hRest
    · rw [List.length_take]
      omega
    · refine ih ?_ hRest
      rw [List.length_drop]
      omega

/-- The rows make up a buffer of the right length. -/
theorem flatten_rows {width height : ℕ} {buffer : List α} (h : buffer.length = width * height) :
    (rows width height buffer).flatten = buffer := by
  induction height generalizing buffer with
  | zero =>
    rw [Nat.mul_zero, List.length_eq_zero_iff] at h
    rw [h]
    rfl
  | succ height ih =>
    rw [Nat.mul_succ] at h
    unfold rows
    rw [List.flatten_cons, ih (by rw [List.length_drop]; omega), List.take_append_drop]

theorem rows_flatten {width : ℕ} {lines : List (List α)}
    (h : ∀ line ∈ lines, line.length = width) :
    rows width lines.length lines.flatten = lines := by
  induction lines with
  | nil => rfl
  | cons line lines ih =>
    have hLine := h line List.mem_cons_self
    rw [List.length_cons, List.flatten_cons]
    unfold rows
    rw [List.take_left' hLine, List.drop_left' hLine,
      ih fun other hOther => h other (List.mem_cons_of_mem _ hOther)]

theorem length_flatten_rows {width : ℕ} {lines : List (List α)}
    (h : ∀ line ∈ lines, line.length = width) :
    lines.flatten.length = width * lines.length := by
  induction lines with
  | nil => rfl
  | cons line lines ih =>
    rw [List.flatten_cons, List.length_append, h line List.mem_cons_self,
      ih fun other hOther => h other (List.mem_cons_of_mem _ hOther), List.length_cons,
      Nat.mul_succ, Nat.add_comm]

/-- The rows of a buffer in the opposite order. -/
def flip (width height : ℕ) (buffer : List α) : List α :=
  (rows width height buffer).reverse.flatten

theorem length_of_mem_reverse_rows {width height : ℕ} {buffer : List α}
    (h : buffer.length = width * height) :
    ∀ row ∈ (rows width height buffer).reverse, row.length = width :=
  fun _ hRow => length_of_mem_rows h (List.mem_reverse.mp hRow)

theorem length_flip {width height : ℕ} {buffer : List α} (h : buffer.length = width * height) :
    (flip width height buffer).length = width * height := by
  unfold flip
  rw [length_flatten_rows (length_of_mem_reverse_rows h), List.length_reverse, length_rows]

/-- Flipping twice changes nothing. -/
theorem flip_flip {width height : ℕ} {buffer : List α} (h : buffer.length = width * height) :
    flip width height (flip width height buffer) = buffer := by
  have hRows : rows width height (flip width height buffer) =
      (rows width height buffer).reverse := by
    have hReverse := rows_flatten (length_of_mem_reverse_rows h)
    rwa [List.length_reverse, length_rows] at hReverse
  show (rows width height (flip width height buffer)).reverse.flatten = buffer
  rw [hRows, List.reverse_reverse, flatten_rows h]

end Rows

/-! ## Codes -/

/-- A code that distinguishes more words than there are short byte strings makes a long one. -/
theorem exists_long_code {Word : Type} [Fintype Word] {code : Word → List UInt8}
    (hCode : Function.Injective code) {bound : ℕ}
    (hMany : 257 ^ bound < Fintype.card Word) : ∃ word, bound ≤ (code word).length := by
  by_contra hShort
  simp only [not_exists, not_le] at hShort
  -- A short string is determined by what it has at each place below the bound.
  have hInjective : Function.Injective fun word (i : Fin bound) =>
      ((code word)[i.val]?).map UInt8.toFin := by
    intro first second hEq
    refine hCode (List.ext_getElem? fun i => ?_)
    by_cases hi : i < bound
    · have hAt := congrFun hEq ⟨i, hi⟩
      refine Option.map_injective ?_ hAt
      intro a b hab
      exact UInt8.toFin_inj.mp hab
    · rw [List.getElem?_eq_none (by have := hShort first; omega),
        List.getElem?_eq_none (by have := hShort second; omega)]
  have hCard := Fintype.card_le_of_injective _ hInjective
  rw [Fintype.card_fun, Fintype.card_option, Fintype.card_fin, Fintype.card_fin] at hCard
  exact absurd hCard (not_le.mpr hMany)

end PreRunner.Runs
