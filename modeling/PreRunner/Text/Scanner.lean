import Mathlib.Data.List.Basic
import Mathlib.Data.List.TakeWhile
import Mathlib.Order.Basic

/-!
# Scanners

A scanner reads something off the front of a text or fails. What it leaves carries the proof that
it is no longer than the text, so a scanner that makes progress can be repeated (`loop`) without
a bound of its own. `Reads` says what a scanner does on a text that is known.
-/

namespace PreRunner.Text

/-- What is left of a text. -/
abbrev Rest (text : List Char) := { rest : List Char // rest.length ≤ text.length }

def Scanner (ε α : Type) := (text : List Char) → Except ε (α × Rest text)

namespace Scanner

variable {ε α β σ : Type}

/-! ## Sequencing -/

instance : Monad (Scanner ε) where
  pure a := fun text => .ok (a, ⟨text, le_rfl⟩)
  bind p f := fun text =>
    match p text with
    | .error e => .error e
    | .ok (a, rest) =>
      match f a rest.1 with
      | .error e => .error e
      | .ok (b, left) => .ok (b, ⟨left.1, left.2.trans rest.2⟩)

def fail (e : ε) : Scanner ε α := fun _ => .error e

/-- The whole text that is left; nothing is read. -/
def ahead : Scanner ε (List Char) := fun text => .ok (text, ⟨text, le_rfl⟩)

/-- Reads `count` characters, or as many as there are. -/
def skip (count : Nat) : Scanner ε Unit := fun text =>
  .ok ((), ⟨text.drop count, by rw [List.length_drop]; exact Nat.sub_le _ _⟩)

/-- Reads one character. -/
def char (onEnd : ε) : Scanner ε Char
  | [] => .error onEnd
  | c :: rest => .ok (c, ⟨rest, Nat.le_succ _⟩)

/-- Reads the longest front of characters of one kind. -/
def span (kind : Char → Bool) : Scanner ε (List Char) := fun text =>
  .ok (text.takeWhile kind, ⟨text.dropWhile kind, (List.dropWhile_suffix kind).length_le⟩)

/-! ## Repetition -/

/-- A scanner that reads at least one character whenever it succeeds. -/
def Progress (p : Scanner ε α) : Prop :=
  ∀ text a rest, p text = .ok (a, rest) → rest.1.length < text.length

theorem Progress.char {onEnd : ε} : Progress (char onEnd) := by
  rintro (_ | ⟨c, text⟩) a rest h
  · cases h
  · cases h
    exact Nat.lt_succ_self _

theorem Progress.fail {e : ε} : Progress (fail e : Scanner ε α) := fun _ _ _ h => by cases h

theorem bind_ok {p : Scanner ε α} {f : α → Scanner ε β} {text : List Char} {a : α}
    {rest : Rest text} {b : β} {left : Rest rest.1} (hFirst : p text = .ok (a, rest))
    (hSecond : f a rest.1 = .ok (b, left)) :
    (p >>= f) text = .ok (b, ⟨left.1, left.2.trans rest.2⟩) := by
  change (match p text with | .error e => _ | .ok (a, rest) => _) = _
  rw [hFirst]
  dsimp only
  rw [hSecond]

/-- What a sequence that succeeds has done. -/
theorem bind_eq_ok {p : Scanner ε α} {f : α → Scanner ε β} {text : List Char} {b : β}
    {left : Rest text} (h : (p >>= f) text = .ok (b, left)) :
    ∃ a rest left', p text = .ok (a, rest) ∧ f a rest.1 = .ok (b, left') ∧ left'.1 = left.1 := by
  cases hFirst : p text with
  | error e =>
    have hOut : (p >>= f) text = .error e := by
      change (match p text with | .error e => _ | .ok (a, rest) => _) = _
      rw [hFirst]
    rw [hOut] at h
    cases h
  | ok out =>
    obtain ⟨a, rest⟩ := out
    have hOut : (p >>= f) text = match f a rest.1 with
        | .error e => .error e
        | .ok (b, left) => .ok (b, ⟨left.1, left.2.trans rest.2⟩) := by
      change (match p text with | .error e => _ | .ok (a, rest) => _) = _
      rw [hFirst]
    rw [hOut] at h
    cases hSecond : f a rest.1 with
    | error e =>
      rw [hSecond] at h
      cases h
    | ok out' =>
      rw [hSecond] at h
      cases h
      exact ⟨a, rest, out'.2, rfl, hSecond, rfl⟩

theorem Progress.bind_left {p : Scanner ε α} (hp : Progress p) (f : α → Scanner ε β) :
    Progress (p >>= f) := by
  intro text b left h
  obtain ⟨a, rest, left', hFirst, -, hLeft⟩ := bind_eq_ok h
  rw [← hLeft]
  exact left'.2.trans_lt (hp text a rest hFirst)

theorem Progress.bind_right (p : Scanner ε α) {f : α → Scanner ε β} (hf : ∀ a, Progress (f a)) :
    Progress (p >>= f) := by
  intro text b left h
  obtain ⟨a, rest, left', -, hSecond, hLeft⟩ := bind_eq_ok h
  rw [← hLeft]
  exact (hf a rest.1 b left' hSecond).trans_le rest.2

/-- Repeats the body until it gives a result. -/
def loop (body : σ → Scanner ε (σ ⊕ β)) (hBody : ∀ s, Progress (body s)) (s : σ) :
    Scanner ε β := fun text =>
  match _ : body s text with
  | .error e => .error e
  | .ok (.inr b, rest) => .ok (b, rest)
  | .ok (.inl next, rest) =>
    match loop body hBody next rest.1 with
    | .error e => .error e
    | .ok (b, left) => .ok (b, ⟨left.1, left.2.trans rest.2⟩)
termination_by text => text.length
decreasing_by exact hBody s text _ _ ‹_›

/-! ## Known texts -/

/-- In front of `rest` the scanner reads `read` as `a`. -/
def Reads (p : Scanner ε α) (read : List Char) (a : α) (rest : List Char) : Prop :=
  ∀ text, text = read ++ rest → ∃ left : Rest text, p text = .ok (a, left) ∧ left.1 = rest

theorem Reads.pure (a : α) (rest : List Char) : Reads (pure a : Scanner ε α) [] a rest := by
  rintro _ rfl
  exact ⟨_, rfl, rfl⟩

theorem Reads.bind {p : Scanner ε α} {f : α → Scanner ε β} {first second rest : List Char} {a : α}
    {b : β} (hp : Reads p first a (second ++ rest)) (hf : Reads (f a) second b rest) :
    Reads (p >>= f) (first ++ second) b rest := by
  intro text hText
  obtain ⟨left, hFirst, hLeft⟩ := hp text (hText.trans (List.append_assoc _ _ _))
  obtain ⟨left', hSecond, hLeft'⟩ := hf left.1 hLeft
  exact ⟨_, bind_ok hFirst hSecond, hLeft'⟩

/-- The first part reads nothing. -/
theorem Reads.bind_nil_left {p : Scanner ε α} {f : α → Scanner ε β} {read rest : List Char} {a : α}
    {b : β} (hp : Reads p [] a (read ++ rest)) (hf : Reads (f a) read b rest) :
    Reads (p >>= f) read b rest := hp.bind hf

/-- The second part reads nothing. -/
theorem Reads.bind_nil_right {p : Scanner ε α} {f : α → Scanner ε β} {read rest : List Char} {a : α}
    {b : β} (hp : Reads p read a rest) (hf : Reads (f a) [] b rest) :
    Reads (p >>= f) read b rest := by
  rw [← List.append_nil read]
  exact Reads.bind hp hf

theorem Reads.char (onEnd : ε) (c : Char) (rest : List Char) :
    Reads (Scanner.char onEnd) [c] c rest := by
  rintro _ rfl
  exact ⟨_, rfl, rfl⟩

theorem Reads.ahead_bind {f : List Char → Scanner ε β} {read rest : List Char} {b : β}
    (h : Reads (f (read ++ rest)) read b rest) : Reads (ahead >>= f) read b rest := by
  rintro _ rfl
  obtain ⟨left, hOut, hLeft⟩ := h _ rfl
  have hAhead : (ahead : Scanner ε _) (read ++ rest) = .ok (read ++ rest, ⟨_, le_rfl⟩) := rfl
  exact ⟨_, bind_ok hAhead hOut, hLeft⟩

theorem Reads.span {kind : Char → Bool} {read rest : List Char} (hRead : ∀ c ∈ read, kind c = true)
    (hRest : ∀ c, rest.head? = some c → kind c = false) :
    Reads (Scanner.span kind : Scanner ε _) read read rest := by
  rintro _ rfl
  have hStop : rest.takeWhile kind = [] ∧ rest.dropWhile kind = rest := by
    cases rest with
    | nil => exact ⟨rfl, rfl⟩
    | cons c rest =>
      have hNot : ¬ kind c = true := Bool.eq_false_iff.mp (hRest c rfl)
      exact ⟨List.takeWhile_cons_of_neg hNot, List.dropWhile_cons_of_neg hNot⟩
  have hTake : (read ++ rest).takeWhile kind = read := by
    rw [List.takeWhile_append_of_pos hRead, hStop.1, List.append_nil]
  have hDrop : (read ++ rest).dropWhile kind = rest := by
    rw [List.dropWhile_append_of_pos hRead, hStop.2]
  refine ⟨⟨_, (List.dropWhile_suffix kind).length_le⟩, ?_, hDrop⟩
  unfold Scanner.span
  rw [hTake]

theorem Reads.loop_done {body : σ → Scanner ε (σ ⊕ β)} {hBody : ∀ s, Progress (body s)} {s : σ}
    {read rest : List Char} {b : β} (h : Reads (body s) read (.inr b) rest) :
    Reads (loop body hBody s) read b rest := by
  intro text hText
  obtain ⟨left, hOut, hLeft⟩ := h text hText
  refine ⟨left, ?_, hLeft⟩
  rw [loop]
  split
  · rename_i hOther
    cases hOther.symm.trans hOut
  · rename_i hOther
    cases hOther.symm.trans hOut
    rfl
  · rename_i hOther
    cases hOther.symm.trans hOut

theorem Reads.loop_next {body : σ → Scanner ε (σ ⊕ β)} {hBody : ∀ s, Progress (body s)}
    {s next : σ} {first second rest : List Char} {b : β}
    (h : Reads (body s) first (.inl next) (second ++ rest))
    (hLoop : Reads (loop body hBody next) second b rest) :
    Reads (loop body hBody s) (first ++ second) b rest := by
  intro text hText
  obtain ⟨left, hOut, hLeft⟩ := h text (hText.trans (List.append_assoc _ _ _))
  obtain ⟨left', hNext, hLeft'⟩ := hLoop left.1 hLeft
  refine ⟨⟨left'.1, left'.2.trans left.2⟩, ?_, hLeft'⟩
  rw [loop]
  split
  · rename_i hOther
    cases hOther.symm.trans hOut
  · rename_i hOther
    cases hOther.symm.trans hOut
  · rename_i hOther
    cases hOther.symm.trans hOut
    rw [hNext]

end Scanner

end PreRunner.Text
