import Mathlib.Data.Int.Log
import PreRunner.PyValue
import PreRunner.Text.Scanner

/-!
# `json.loads`

The decoder of the standard library, on the characters of a text. A text that is no JSON ends in a
`ValueError`, and so does an integer with too many digits. Objects and arrays nest as deep as the
interpreter has frames left; a text that opens one more ends in a `RecursionError`, before the rest
of it is read. A lone surrogate of an escape is read as the replacement character.
-/

namespace PreRunner

/-- The double nearest to a rational number, ties to even. -/
def PyFloat.nearest (value : ℚ) : PyFloat :=
  if value = 0 then .finite 0
  else
    let exponent : ℤ := max (Int.log 2 |value| - 52) (-1074)
    let scaled := |value| / 2 ^ exponent
    let below := ⌊scaled⌋
    let up := 1 / 2 < scaled - below ∨ (scaled - below = 1 / 2 ∧ below % 2 = 1)
    let size : ℚ := (if up then below + 1 else below) * 2 ^ exponent
    if 2 ^ 1024 ≤ size then .inf (value < 0) else .finite (if value < 0 then -size else size)

namespace Text

/-- The exceptions of `json.loads`. -/
inductive JsonError where
  | valueError
  | recursionError
  deriving DecidableEq, Repr

namespace Json

abbrev JsonScanner (α : Type) := Scanner JsonError α

def next : JsonScanner Char := Scanner.char .valueError

def isBlank (c : Char) : Bool := c = ' ' || c = '\t' || c = '\n' || c = '\r'

def blank : JsonScanner Unit := do
  let _ ← Scanner.span isBlank

def expect (c : Char) : JsonScanner Unit := do
  if (← next) ≠ c then Scanner.fail .valueError

/-! ## Strings -/

def hexDigit? (c : Char) : Option Nat :=
  if '0' ≤ c ∧ c ≤ '9' then some (c.toNat - '0'.toNat)
  else if 'a' ≤ c ∧ c ≤ 'f' then some (c.toNat - 'a'.toNat + 10)
  else if 'A' ≤ c ∧ c ≤ 'F' then some (c.toNat - 'A'.toNat + 10)
  else none

/-- The four hexadecimal digits at the front of a text. -/
def codeUnit? (text : List Char) : Option Nat :=
  match text with
  | a :: b :: c :: d :: _ => do
    return (((← hexDigit? a) * 16 + (← hexDigit? b)) * 16 + (← hexDigit? c)) * 16 + (← hexDigit? d)
  | _ => none

def codePoint (code : Nat) : Char := if code.isValidChar then Char.ofNat code else '\uFFFD'

def isHighSurrogate (unit : Nat) : Bool := 0xD800 ≤ unit && unit ≤ 0xDBFF

def isLowSurrogate (unit : Nat) : Bool := 0xDC00 ≤ unit && unit ≤ 0xDFFF

/-- The rest of an escape after `\u`. A high surrogate takes the escape of a low one with it. -/
def unicodeEscape : JsonScanner Char := do
  match codeUnit? (← Scanner.ahead) with
  | none => Scanner.fail .valueError
  | some unit =>
    Scanner.skip 4
    let text ← Scanner.ahead
    if isHighSurrogate unit ∧ text.take 2 = ['\\', 'u'] then
      match codeUnit? (text.drop 2) with
      | none => Scanner.fail .valueError
      | some second =>
        if isLowSurrogate second then
          Scanner.skip 6
          return codePoint (0x10000 + (unit - 0xD800) * 0x400 + (second - 0xDC00))
        else return codePoint unit
    else return codePoint unit

/-- The rest of an escape after the backslash. -/
def escape : JsonScanner Char := do
  let c ← next
  if c = '\"' ∨ c = '\\' ∨ c = '/' then return c
  else if c = 'b' then return '\x08'
  else if c = 'f' then return '\x0c'
  else if c = 'n' then return '\n'
  else if c = 'r' then return '\r'
  else if c = 't' then return '\t'
  else if c = 'u' then unicodeEscape
  else Scanner.fail .valueError

/-- One step of a string: its end, or one more character of it. -/
def stringStep (read : List Char) : JsonScanner (List Char ⊕ String) := do
  let c ← next
  if c = '\"' then return .inr (String.ofList read)
  else if c = '\\' then return .inl (read ++ [← escape])
  else if c.toNat < 0x20 then Scanner.fail .valueError
  else return .inl (read ++ [c])

theorem progress_stringStep (read : List Char) : (stringStep read).Progress :=
  Scanner.Progress.char.bind_left _

/-- The rest of a string after its opening quote. -/
def scanString : JsonScanner String := Scanner.loop stringStep progress_stringStep []

/-! ## Numbers -/

/-- The exponent at the front of a text and the number of its characters. -/
def exponent? : List Char → Option (Int × Nat)
  | [] => none
  | c :: rest =>
    let signed : Nat := if rest.head? = some '-' ∨ rest.head? = some '+' then 1 else 0
    let digits := (rest.drop signed).takeWhile Char.isDigit
    if (c = 'e' ∨ c = 'E') ∧ digits ≠ [] then
      let size : Int := Nat.ofDigitChars 10 digits 0
      some (if rest.head? = some '-' then -size else size, 1 + signed + digits.length)
    else none

def scanFraction : JsonScanner (Option (List Char)) := do
  let text ← Scanner.ahead
  if text.head? = some '.' ∧ (text.tail.head?.any Char.isDigit) = true then
    Scanner.skip 1
    return some (← Scanner.span Char.isDigit)
  else return none

def scanExponent : JsonScanner (Option Int) := do
  match exponent? (← Scanner.ahead) with
  | some (exponent, count) =>
    Scanner.skip count
    return some exponent
  | none => return none

/-- `sys.get_int_max_str_digits()`. -/
def maxStrDigits : Nat := 4300

/-- `int(text)` or `float(text)` of a scanned number. -/
def numberValue (negative : Bool) (digits : List Char) (fraction : Option (List Char))
    (exponent : Option Int) : Except JsonError PyValue :=
  let sign : Int := if negative then -1 else 1
  if fraction.isNone ∧ exponent.isNone then
    if maxStrDigits < digits.length then .error .valueError
    else .ok (.int (sign * Nat.ofDigitChars 10 digits 0))
  else
    let decimals := fraction.getD []
    let size : ℚ := (Nat.ofDigitChars 10 (digits ++ decimals) 0 : Nat)
    .ok (.float (PyFloat.nearest (sign * size * 10 ^ (exponent.getD 0 - decimals.length))))

/-- The first digit of a number, after its sign. -/
def firstDigit (first : Char) : JsonScanner Char := if first = '-' then next else pure first

/-- The other digits of the integer part: none after a zero. -/
def moreDigits (digit : Char) : JsonScanner (List Char) :=
  if '1' ≤ digit ∧ digit ≤ '9' then Scanner.span Char.isDigit
  else if digit = '0' then pure []
  else Scanner.fail .valueError

/-- A number from its first character. -/
def scanNumber (first : Char) : JsonScanner PyValue := do
  let digit ← firstDigit first
  let more ← moreDigits digit
  let fraction ← scanFraction
  let exponent ← scanExponent
  match numberValue (first = '-') (digit :: more) fraction exponent with
  | .error e => Scanner.fail e
  | .ok value => return value

/-! ## Values -/

/-- The rest of a constant after its first character. -/
def literal (rest : String) (value : PyValue) : JsonScanner PyValue := do
  if (← Scanner.ahead).take rest.length = rest.toList then
    Scanner.skip rest.length
    return value
  else Scanner.fail .valueError

/-- The delimiter after a part of a container: whether it closes the container. -/
def delimiter (closing : Char) : JsonScanner Bool := do
  let c ← next
  if c = closing then return true
  else if c = ',' then
    blank
    return false
  else Scanner.fail .valueError

/-- One member of an object with the delimiter after it. -/
def memberStep (value : JsonScanner PyValue) (members : PyDict) :
    JsonScanner (PyDict ⊕ PyDict) := do
  expect '\"'
  let key ← scanString
  blank
  expect ':'
  blank
  let item ← value
  blank
  let closes ← delimiter '\x7d'
  return if closes then .inr (members.assign key item) else .inl (members.assign key item)

/-- One item of an array with the delimiter after it. -/
def itemStep (value : JsonScanner PyValue) (items : List PyValue) :
    JsonScanner (List PyValue ⊕ List PyValue) := do
  let item ← value
  blank
  let closes ← delimiter ']'
  return if closes then .inr (items ++ [item]) else .inl (items ++ [item])

theorem progress_delimiter (closing : Char) : (delimiter closing).Progress :=
  Scanner.Progress.char.bind_left _

theorem progress_memberStep (value : JsonScanner PyValue) (members : PyDict) :
    (memberStep value members).Progress :=
  (Scanner.Progress.char.bind_left _).bind_left _

theorem progress_itemStep (value : JsonScanner PyValue) (items : List PyValue) :
    (itemStep value items).Progress :=
  .bind_right _ fun _ => .bind_right _ fun _ => (progress_delimiter ']').bind_left _

/-- An object or an array after its opening bracket. -/
def scanContainer (value : JsonScanner PyValue) (opening : Char) : JsonScanner PyValue := do
  blank
  let text ← Scanner.ahead
  if opening = '\x7b' then
    if text.head? = some '\x7d' then
      Scanner.skip 1
      return .dict []
    else return .dict (← Scanner.loop (memberStep value) (progress_memberStep value) [])
  else if text.head? = some ']' then
    Scanner.skip 1
    return .list []
  else return .list (← Scanner.loop (itemStep value) (progress_itemStep value) [])

/-- One value, given what to do after an opening bracket. -/
def scanValue (container : Char → JsonScanner PyValue) : JsonScanner PyValue := do
  let c ← next
  if c = '\"' then return .str (← scanString)
  else if c = '\x7b' ∨ c = '[' then container c
  else if c = 'n' then literal "ull" .none
  else if c = 't' then literal "rue" (.bool true)
  else if c = 'f' then literal "alse" (.bool false)
  else if c = 'N' then literal "aN" (.float .nan)
  else if c = 'I' then literal "nfinity" (.float (.inf false))
  else if c = '-' ∧ (← Scanner.ahead).head? = some 'I' then literal "Infinity" (.float (.inf true))
  else scanNumber c

/-- `scan_once` with this many frames left. -/
def scanOnce : Nat → JsonScanner PyValue
  | 0 => scanValue fun _ => Scanner.fail .recursionError
  | frames + 1 => scanValue (scanContainer (scanOnce frames))

def scanDocument (frames : Nat) : JsonScanner PyValue := do
  blank
  let value ← scanOnce frames
  blank
  return value

/-- `json.loads(text)`. -/
def loads (frames : Nat) (text : List Char) : Except JsonError PyValue :=
  -- a byte order mark is refused
  if text.head? = some '\uFEFF' then .error .valueError
  else
    match scanDocument frames text with
    | .error e => .error e
    | .ok (value, rest) => if rest.1 = [] then .ok value else .error .valueError

/-! ## Known texts -/

open Scanner

theorem reads_next (c : Char) (rest : List Char) : Reads next [c] c rest := .char _ c rest

theorem reads_expect (c : Char) (rest : List Char) : Reads (expect c) [c] () rest := by
  have hPure : Reads (if c ≠ c then Scanner.fail .valueError else pure () : JsonScanner Unit) [] ()
      rest := by
    rw [if_neg (not_not.mpr rfl)]
    exact .pure () rest
  exact .bind_nil_right (reads_next c rest) hPure

theorem reads_blank {read rest : List Char} (hRead : ∀ c ∈ read, isBlank c = true)
    (hRest : ∀ c, rest.head? = some c → isBlank c = false) : Reads blank read () rest :=
  .bind_nil_right (.span hRead hRest) (.pure () rest)

/-- A character that stands for itself in a string. -/
def Plain (c : Char) : Prop := c ≠ '\"' ∧ c ≠ '\\' ∧ 0x20 ≤ c.toNat

instance (c : Char) : Decidable (Plain c) := inferInstanceAs (Decidable (_ ∧ _ ∧ _))

theorem plain_of_all {text : List Char} (h : text.all (Plain ·) = true) : ∀ c ∈ text, Plain c :=
  fun c hMem => of_decide_eq_true (List.all_eq_true.mp h c hMem)

theorem reads_stringStep_plain {c : Char} (hPlain : Plain c) (read rest : List Char) :
    Reads (stringStep read) [c] (.inl (read ++ [c])) rest := by
  obtain ⟨hQuote, hEscape, hControl⟩ := hPlain
  refine .bind_nil_right (reads_next c rest) ?_
  rw [if_neg hQuote, if_neg hEscape, if_neg (not_lt.mpr hControl)]
  exact .pure _ rest

theorem reads_stringStep_end (read rest : List Char) :
    Reads (stringStep read) ['\"'] (.inr (String.ofList read)) rest := by
  refine .bind_nil_right (reads_next '\"' rest) ?_
  rw [if_pos rfl]
  exact .pure _ rest

theorem reads_scanString {text : List Char} (hPlain : ∀ c ∈ text, Plain c) (rest : List Char) :
    Reads scanString (text ++ ['\"']) (String.ofList text) rest := by
  have hLoop : ∀ read, Reads (Scanner.loop stringStep progress_stringStep read) (text ++ ['\"'])
      (String.ofList (read ++ text)) rest := by
    induction text with
    | nil =>
      intro read
      rw [List.append_nil]
      exact .loop_done (reads_stringStep_end read rest)
    | cons c text ih =>
      intro read
      have hTail := ih (fun d hMem => hPlain d (List.mem_cons_of_mem c hMem)) (read ++ [c])
      rw [List.append_assoc, List.singleton_append] at hTail
      change Reads _ ([c] ++ (text ++ ['\"'])) _ rest
      exact .loop_next (reads_stringStep_plain (hPlain c List.mem_cons_self) read _) hTail
  exact hLoop []

/-! ### Integers -/

/-- What may follow a number that is written as an integer. -/
def EndsInteger (rest : List Char) : Prop :=
  ∀ c, rest.head? = some c → c.isDigit = false ∧ c ≠ '.' ∧ c ≠ 'e' ∧ c ≠ 'E'

theorem EndsInteger.fraction {rest : List Char} (h : EndsInteger rest) :
    Reads scanFraction [] none rest := by
  refine .ahead_bind ?_
  rw [if_neg fun hPoint => (h '.' hPoint.1).2.1 rfl]
  exact .pure _ rest

theorem EndsInteger.exponent {rest : List Char} (h : EndsInteger rest) :
    Reads scanExponent [] none rest := by
  have hNone : exponent? rest = none := by
    cases rest with
    | nil => rfl
    | cons c rest =>
      obtain ⟨-, -, hLower, hUpper⟩ := h c rfl
      exact if_neg fun hBoth => hBoth.1.elim hLower hUpper
  refine .ahead_bind ?_
  rw [List.nil_append, hNone]
  exact .pure _ rest

/-- The decimal digits of a number: a zero, or a first digit that is none. -/
theorem toDigits_case (n : Nat) :
    (n = 0 ∧ Nat.toDigits 10 n = ['0']) ∨
      ∃ first more, Nat.toDigits 10 n = first :: more ∧ '1' ≤ first ∧ first ≤ '9' ∧
        ∀ c ∈ more, c.isDigit = true := by
  induction n using Nat.strong_induction_on with
  | _ n ih =>
    by_cases hSmall : n < 10
    · rw [Nat.toDigits_of_lt_base hSmall]
      have hFirst : ∀ m, m < 10 → (m = 0 ∧ [m.digitChar] = ['0']) ∨
          '1' ≤ m.digitChar ∧ m.digitChar ≤ '9' := by decide
      refine (hFirst n hSmall).imp_right fun h => ⟨n.digitChar, [], rfl, h.1, h.2, ?_⟩
      exact fun c hMem => absurd hMem List.not_mem_nil
    · rw [Nat.toDigits_of_base_le (by decide) (not_lt.mp hSmall)]
      have hLess : n / 10 < n := Nat.div_lt_self (by omega) (by decide)
      rcases ih (n / 10) hLess with ⟨hZero, -⟩ | ⟨first, more, hDigits, hLow, hHigh, hMore⟩
      · omega
      · refine Or.inr ⟨first, _, by rw [hDigits]; rfl, hLow, hHigh, fun c hMem => ?_⟩
        rcases List.mem_append.mp hMem with hMem | hMem
        · exact hMore c hMem
        · rw [List.mem_singleton.mp hMem]
          exact (by decide : ∀ m, m < 10 → m.digitChar.isDigit = true) _ (Nat.mod_lt _ (by decide))

/-- The digits of a number are read as the number. -/
theorem reads_digits {n : Nat} (hSize : (Nat.toDigits 10 n).length ≤ maxStrDigits)
    {rest : List Char} (hRest : EndsInteger rest) {first : Char} {more : List Char}
    (hDigits : Nat.toDigits 10 n = first :: more) :
    Reads (scanNumber first) more (.int n) rest := by
  have hMore : Reads (moreDigits first) more more rest := by
    unfold moreDigits
    rcases toDigits_case n with ⟨-, hZero⟩ | ⟨first', more', hFirst, hLow, hHigh, hAll⟩
    · cases hDigits.symm.trans hZero
      rw [if_neg (by decide), if_pos rfl]
      exact .pure [] rest
    · cases hDigits.symm.trans hFirst
      rw [if_pos ⟨hLow, hHigh⟩]
      exact .span hAll fun c hHead => (hRest c hHead).1
  have hNot : first ≠ '-' := by
    rintro rfl
    have hDigit := @Nat.isDigit_of_mem_toDigits 10 n '-' (by decide) (by decide)
      (hDigits ▸ List.mem_cons_self)
    cases hDigit
  have hValue : numberValue (first = '-') (first :: more) none none = .ok (.int n) := by
    unfold numberValue
    rw [← hDigits, Nat.ofDigitChars_ten_toDigits, decide_eq_false hNot]
    dsimp only
    rw [if_pos ⟨rfl, rfl⟩, if_neg (not_lt.mpr hSize)]
    simp
  have hFirst : Reads (firstDigit first) [] first (more ++ rest) := by
    unfold firstDigit
    rw [if_neg hNot]
    exact .pure first _
  have hEnd : Reads (match numberValue (first = '-') (first :: more) none none with
      | .error e => Scanner.fail e
      | .ok value => pure value : JsonScanner PyValue) [] (.int n) rest := by
    rw [hValue]
    exact .pure _ rest
  unfold scanNumber
  refine .bind_nil_left hFirst ?_
  refine .bind_nil_right hMore ?_
  refine .bind_nil_left hRest.fraction ?_
  exact .bind_nil_left hRest.exponent hEnd

/-! ### Values -/

/-- A text that is read as a value wherever a number may end after it. -/
structure ReadsValue (text : List Char) (value : PyValue) : Prop where
  starts : ∃ c more, text = c :: more ∧ isBlank c = false
  reads : ∀ frames rest, EndsInteger rest → Reads (scanOnce frames) text value rest

/-- Which scanner takes over after the first character does not depend on the frames left. -/
theorem reads_scanOnce {c : Char} {more rest : List Char} {value : PyValue}
    (h : ∀ container, Reads (scanValue container) (c :: more) value rest) (frames : Nat) :
    Reads (scanOnce frames) (c :: more) value rest := by
  cases frames with
  | zero => exact h _
  | succ frames => exact h _

/-- A digit starts a number and nothing else. -/
theorem reads_number {c : Char} (hDigit : c.isDigit = true) {more rest : List Char}
    {value : PyValue} (h : Reads (scanNumber c) more value rest)
    (container : Char → JsonScanner PyValue) :
    Reads (scanValue container) (c :: more) value rest := by
  have hNot : ∀ d, d.isDigit = false → c ≠ d := by
    rintro d hNo rfl
    rw [hDigit] at hNo
    cases hNo
  refine @Reads.bind _ _ _ next _ [c] more rest c value (reads_next c _) ?_
  rw [if_neg (hNot '\"' rfl), if_neg (not_or.mpr ⟨hNot '\x7b' rfl, hNot '[' rfl⟩),
    if_neg (hNot 'n' rfl), if_neg (hNot 't' rfl), if_neg (hNot 'f' rfl), if_neg (hNot 'N' rfl),
    if_neg (hNot 'I' rfl)]
  refine .ahead_bind ?_
  rw [if_neg fun hBoth => hNot '-' rfl hBoth.1]
  exact h

theorem readsValue_int {n : Nat} (hSize : (Nat.toDigits 10 n).length ≤ maxStrDigits) :
    ReadsValue (Nat.toDigits 10 n) (.int n) := by
  obtain ⟨first, more, hDigits⟩ := List.exists_cons_of_ne_nil (@Nat.toDigits_ne_nil n 10)
  have hDigit : first.isDigit = true :=
    Nat.isDigit_of_mem_toDigits (by decide) (by decide) (hDigits ▸ List.mem_cons_self)
  constructor
  · refine ⟨first, more, hDigits, Bool.eq_false_iff.mpr fun hBlank => ?_⟩
    simp only [isBlank, Bool.or_eq_true, decide_eq_true_eq] at hBlank
    rcases hBlank with ((rfl | rfl) | rfl) | rfl <;> cases hDigit
  · intro frames rest hRest
    rw [hDigits]
    exact reads_scanOnce (reads_number hDigit (reads_digits hSize hRest hDigits)) frames

theorem reads_literal (text : String) (value : PyValue) (rest : List Char) :
    Reads (literal text value) text.toList value rest := by
  have hLength : text.toList.length = text.length := String.length_toList
  have hSkip : Reads (Scanner.skip text.length : JsonScanner Unit) text.toList () rest := by
    rintro _ rfl
    exact ⟨_, rfl, List.drop_left' hLength⟩
  refine .ahead_bind ?_
  rw [if_pos (List.take_left' hLength)]
  exact .bind_nil_right hSkip (.pure value rest)

theorem readsValue_bool (flag : Bool) :
    ReadsValue (if flag then "true" else "false").toList (.bool flag) := by
  cases flag with
  | true =>
    refine ⟨⟨'t', _, rfl, rfl⟩, fun frames rest _ => reads_scanOnce (fun container => ?_) frames⟩
    exact @Reads.bind _ _ _ next _ ['t'] "rue".toList rest 't' _ (reads_next _ _)
      (reads_literal "rue" _ rest)
  | false =>
    refine ⟨⟨'f', _, rfl, rfl⟩, fun frames rest _ => reads_scanOnce (fun container => ?_) frames⟩
    exact @Reads.bind _ _ _ next _ ['f'] "alse".toList rest 'f' _ (reads_next _ _)
      (reads_literal "alse" _ rest)

/-! ### Objects -/

theorem reads_delimiter_close (closing : Char) (rest : List Char) :
    Reads (delimiter closing) [closing] true rest := by
  refine .bind_nil_right (reads_next closing rest) ?_
  rw [if_pos rfl]
  exact .pure true rest

theorem reads_delimiter_comma {closing : Char} (hClosing : closing ≠ ',') {rest : List Char}
    (hRest : ∀ c, rest.head? = some c → isBlank c = false) :
    Reads (delimiter closing) [',', ' '] false rest := by
  have hBlank : Reads blank [' '] () rest := by
    refine reads_blank (fun c hMem => ?_) hRest
    rw [List.mem_singleton.mp hMem]
    rfl
  refine @Reads.bind _ _ _ next _ [','] [' '] rest ',' false (reads_next _ _) ?_
  rw [if_neg hClosing.symm, if_pos rfl]
  exact .bind_nil_right hBlank (.pure false rest)

/-- A member with the delimiter after it, as `json.dump` writes it. -/
def memberText (key : String) (text after : List Char) : List Char :=
  ['\"'] ++ ((key.toList ++ ['\"']) ++ ([':'] ++ ([' '] ++ (text ++ after))))

theorem reads_memberStep {frames : Nat} {key : String} {text : List Char} {item : PyValue}
    {members : PyDict} {after rest : List Char} {closes : Bool}
    (hKey : ∀ c ∈ key.toList, Plain c) (hText : ReadsValue text item)
    (hAfter : ∃ c more, after = c :: more ∧ isBlank c = false ∧ EndsInteger (after ++ rest))
    (hEnd : Reads (delimiter '\x7d') after closes rest) :
    Reads (memberStep (scanOnce frames) members) (memberText key text after)
      (if closes then .inr (members.assign key item) else .inl (members.assign key item)) rest := by
  obtain ⟨first, more, hFirst, hSolid⟩ := hText.starts
  obtain ⟨c, left, hHead, hDelimiter, hStops⟩ := hAfter
  have hString := reads_scanString hKey ([':'] ++ ([' '] ++ (text ++ after)) ++ rest)
  rw [String.ofList_toList] at hString
  have hColon : Reads blank [] () ([':'] ++ ([' '] ++ (text ++ after)) ++ rest) :=
    reads_blank (fun c hMem => absurd hMem List.not_mem_nil) fun c hIs => by
      cases hIs
      rfl
  have hSpace : Reads blank [' '] () (text ++ after ++ rest) := by
    refine reads_blank (fun c hMem => ?_) fun c hIs => ?_
    · rw [List.mem_singleton.mp hMem]
      rfl
    · rw [hFirst] at hIs
      cases hIs
      exact hSolid
  have hClose : Reads blank [] () (after ++ rest) :=
    reads_blank (fun c hMem => absurd hMem List.not_mem_nil) fun c hIs => by
      rw [hHead] at hIs
      cases hIs
      exact hDelimiter
  refine .bind (reads_expect '\"' _) (.bind hString (.bind_nil_left hColon ?_))
  refine .bind (reads_expect ':' _) (.bind hSpace ?_)
  refine .bind (hText.reads frames _ hStops) (.bind_nil_left hClose ?_)
  exact .bind_nil_right hEnd (.pure _ rest)

theorem reads_object {frames : Nat} {text rest : List Char} {members : PyDict}
    (hStart : text.head? = some '\"')
    (h : Reads (Scanner.loop (memberStep (scanOnce frames))
      (progress_memberStep (scanOnce frames)) []) text members rest) :
    Reads (scanOnce (frames + 1)) ('\x7b' :: text) (.dict members) rest := by
  obtain ⟨more, rfl⟩ := List.head?_eq_some_iff.mp hStart
  have hBlank : Reads blank [] () ('\"' :: more ++ rest) :=
    reads_blank (fun c hMem => absurd hMem List.not_mem_nil) fun c hIs => by
      cases hIs
      rfl
  refine @Reads.bind _ _ _ next _ ['\x7b'] ('\"' :: more) rest '\x7b' _ (reads_next _ _) ?_
  refine .bind_nil_left hBlank (.ahead_bind ?_)
  rw [if_pos rfl, if_neg (by simp)]
  exact .bind_nil_right h (.pure _ rest)

theorem loads_of_reads {frames : Nat} {c : Char} {more : List Char} {value : PyValue}
    (hSolid : isBlank c = false) (hMark : c ≠ '\uFEFF')
    (h : Reads (scanOnce frames) (c :: more) value []) :
    loads frames (c :: more) = .ok value := by
  have hFront : Reads blank [] () (c :: more ++ []) :=
    reads_blank (fun d hMem => absurd hMem List.not_mem_nil) fun d hIs => by
      cases hIs
      exact hSolid
  have hBack : Reads blank [] () [] :=
    reads_blank (fun d hMem => absurd hMem List.not_mem_nil) fun d hIs => by cases hIs
  have hAll : Reads (scanDocument frames) (c :: more) value [] :=
    .bind_nil_left hFront (.bind_nil_right h (.bind_nil_left hBack (.pure value [])))
  obtain ⟨left, hOut, hLeft⟩ := hAll (c :: more) (List.append_nil _).symm
  unfold loads
  rw [List.head?_cons, if_neg fun hIs => hMark (Option.some.inj hIs), hOut]
  exact if_pos hLeft

end Json

end Text

end PreRunner
