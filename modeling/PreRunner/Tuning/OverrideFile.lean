import Mathlib.Data.List.DropRight
import PreRunner.Runs.Associations
import PreRunner.Runs.Vectors
import PreRunner.Tuning.OwnerAcceptance

/-!
# The override file

`persist_override` writes the parameters of the planner and of the navigator to a YAML file, which
is loaded at the next start of their nodes. A number that is written without a point and without an
exponent is loaded as an integer. This module follows `runner_paddock/autonomy_tuning.py`.

The first half is about `format(value, '.12g')`: which characters it writes, and that a whole
number is written as one. The second half is about the reader, which goes through the file line by
line. No accepted snapshot survives the way there and back, since the family of the clearance curve
is a whole number.
-/

namespace PreRunner

namespace Text

/-! ## `format(value, '.12g')` -/

/-- Rounds to the nearest integer, ties to even. -/
def roundHalfEven (value : ℚ) : ℤ :=
  let below := ⌊value⌋
  if 1 / 2 < value - below ∨ (value - below = 1 / 2 ∧ below % 2 = 1) then below + 1 else below

/-- The twelve significant digits of a positive number and the exponent of the first of them. -/
def significand (value : ℚ) : ℕ × ℤ :=
  let exponent := Int.log 10 value
  let digits := (roundHalfEven (value * 10 ^ (11 - exponent))).toNat
  if digits = 10 ^ 12 then (10 ^ 11, exponent + 1) else (digits, exponent)

/-- The digits of a number, filled up with zeros. -/
def padded (count n : ℕ) : List Char :=
  List.replicate (count - (Nat.toDigits 10 n).length) '0' ++ Nat.toDigits 10 n

/-- `digits` with a point before the last `places` of them and without the zeros at the end. -/
def pointed (digits places : ℕ) : List Char :=
  let fraction := (padded places (digits % 10 ^ places)).rdropWhile (· = '0')
  Nat.toDigits 10 (digits / 10 ^ places) ++ if fraction = [] then [] else '.' :: fraction

def exponentText (exponent : ℤ) : List Char :=
  'e' :: (if exponent < 0 then '-' else '+') :: padded 2 exponent.natAbs

/-- `f'\x7bvalue:.12g\x7d'` of a positive number. -/
def formatPositive (value : ℚ) : List Char :=
  let (digits, exponent) := significand value
  if -4 ≤ exponent ∧ exponent < 12 then pointed digits (11 - exponent).toNat
  else pointed digits 11 ++ exponentText exponent

/-- `f'\x7bvalue:.12g\x7d'`. -/
def format12g (value : ℚ) : List Char :=
  if value = 0 then ['0']
  else if value < 0 then '-' :: formatPositive (-value)
  else formatPositive value

example : format12g (1 / 8) = "0.125".toList := by decide +kernel
example : format12g (10 ^ 15 / 3) = "3.33333333333e+14".toList := by decide +kernel
example : format12g (-1 / 64000) = "-1.5625e-05".toList := by decide +kernel

/-! ### Its characters -/

/-- A character that a formatted number may have. -/
def Numeric (c : Char) : Prop := c.isDigit = true ∨ c ∈ ['.', 'e', '+', '-']

instance (c : Char) : Decidable (Numeric c) := inferInstanceAs (Decidable (_ ∨ _))

theorem numeric_toDigits {n : ℕ} {c : Char} (h : c ∈ Nat.toDigits 10 n) : Numeric c :=
  .inl (Nat.isDigit_of_mem_toDigits (by decide) (by decide) h)

theorem numeric_padded {count n : ℕ} {c : Char} (h : c ∈ padded count n) : Numeric c := by
  rcases List.mem_append.mp h with hZero | hDigit
  · rw [List.eq_of_mem_replicate hZero]
    exact .inl rfl
  · exact numeric_toDigits hDigit

theorem numeric_pointed {digits places : ℕ} {c : Char} (h : c ∈ pointed digits places) :
    Numeric c := by
  unfold pointed at h
  rcases List.mem_append.mp h with hWhole | hFraction
  · exact numeric_toDigits hWhole
  · split at hFraction
    · exact absurd hFraction List.not_mem_nil
    · rcases List.mem_cons.mp hFraction with rfl | hDigit
      · exact .inr (by decide)
      · exact numeric_padded ((List.rdropWhile_prefix _ _).subset hDigit)

theorem numeric_exponentText {exponent : ℤ} {c : Char} (h : c ∈ exponentText exponent) :
    Numeric c := by
  rcases List.mem_cons.mp h with rfl | h
  · exact .inr (by decide)
  · rcases List.mem_cons.mp h with rfl | h
    · split <;> exact .inr (by decide)
    · exact numeric_padded h

theorem numeric_formatPositive {value : ℚ} {c : Char} (h : c ∈ formatPositive value) :
    Numeric c := by
  unfold formatPositive at h
  dsimp only at h
  split at h
  · exact numeric_pointed h
  · exact (List.mem_append.mp h).elim numeric_pointed numeric_exponentText

theorem numeric_format12g {value : ℚ} {c : Char} (h : c ∈ format12g value) : Numeric c := by
  unfold format12g at h
  split at h
  · rw [List.mem_singleton.mp h]
    exact .inl rfl
  · split at h
    · rcases List.mem_cons.mp h with rfl | h
      · exact .inr (by decide)
      · exact numeric_formatPositive h
    · exact numeric_formatPositive h

theorem format12g_ne_nil (value : ℚ) : format12g value ≠ [] := by
  have hPointed : ∀ digits places, pointed digits places ≠ [] := fun digits places =>
    List.append_ne_nil_of_left_ne_nil Nat.toDigits_ne_nil _
  unfold format12g formatPositive
  dsimp only
  split
  · exact List.cons_ne_nil _ _
  · split
    · exact List.cons_ne_nil _ _
    · split
      · exact hPointed _ _
      · exact List.append_ne_nil_of_left_ne_nil (hPointed _ _) _

/-! ### Integral values -/

theorem roundHalfEven_natCast (n : ℕ) : roundHalfEven n = n := by
  unfold roundHalfEven
  dsimp only
  rw [Int.floor_natCast, Int.cast_natCast, sub_self, if_neg]
  norm_num

/-- A whole number that has at most twelve digits is its own significand, filled up with zeros. -/
theorem significand_natCast {n : ℕ} (hPos : 0 < n) (hSize : n < 10 ^ 12) :
    significand n = (n * 10 ^ (11 - Nat.log 10 n), (Nat.log 10 n : ℤ)) := by
  have hLog : Nat.log 10 n ≤ 11 := Nat.lt_succ_iff.mp (Nat.log_lt_of_lt_pow hPos.ne' hSize)
  have hScaled : (n : ℚ) * 10 ^ (11 - (Nat.log 10 n : ℤ)) =
      ((n * 10 ^ (11 - Nat.log 10 n) : ℕ) : ℚ) := by
    rw [show (11 : ℤ) - Nat.log 10 n = ((11 - Nat.log 10 n : ℕ) : ℤ) by omega, zpow_natCast]
    push_cast
    rfl
  have hBelow : n * 10 ^ (11 - Nat.log 10 n) < 10 ^ 12 := by
    calc n * 10 ^ (11 - Nat.log 10 n)
        < 10 ^ (Nat.log 10 n + 1) * 10 ^ (11 - Nat.log 10 n) :=
          Nat.mul_lt_mul_of_pos_right (Nat.lt_pow_succ_log_self (by decide) n) (by positivity)
      _ = 10 ^ 12 := by
          rw [← pow_add]
          congr 1
          omega
  unfold significand
  dsimp only
  rw [Int.log_natCast, hScaled, roundHalfEven_natCast, Int.toNat_natCast, if_neg hBelow.ne]

/-- A whole number below 10^12 is written as it is: without a point and without an exponent. -/
theorem format12g_natCast {n : ℕ} (hSize : n < 10 ^ 12) :
    format12g n = Nat.toDigits 10 n := by
  rcases Nat.eq_zero_or_pos n with rfl | hPos
  · decide +kernel
  have hLog : Nat.log 10 n ≤ 11 := Nat.lt_succ_iff.mp (Nat.log_lt_of_lt_pow hPos.ne' hSize)
  have hPlaces : (11 - (Nat.log 10 n : ℤ)).toNat = 11 - Nat.log 10 n := by omega
  have hZeros : (padded (11 - Nat.log 10 n) 0).rdropWhile (· = '0') = [] := by
    refine List.rdropWhile_eq_nil_iff.mpr fun c hMem => ?_
    rcases List.mem_append.mp hMem with hMem | hMem
    · rw [List.eq_of_mem_replicate hMem]
      rfl
    · rw [Nat.toDigits_zero, List.mem_singleton] at hMem
      rw [hMem]
      rfl
  unfold format12g formatPositive
  rw [if_neg (by exact_mod_cast hPos.ne'), if_neg (by exact_mod_cast Nat.not_lt_zero n),
    significand_natCast hPos hSize]
  dsimp only
  rw [if_pos (by omega), hPlaces]
  unfold pointed
  dsimp only
  rw [Nat.mul_mod_left, hZeros, if_pos rfl, List.append_nil,
    Nat.mul_div_cancel n (by positivity)]

end Text

namespace Tuning

open Text

/-! ## Writing -/

/-- The parameters of one node as the file holds them. -/
def sectionLines (node : String) (parameters : List (String × ℚ)) : List (List Char) :=
  (node ++ ":").toList :: "  ros__parameters:".toList ::
    parameters.map fun item => ("    " ++ item.1 ++ ": ").toList ++ format12g item.2

def overrideLines (values : TuningSnapshot) : List (List Char) :=
  sectionLines "planner_server" (valuesForOwner values .planner) ++
    sectionLines "bt_navigator" (valuesForOwner values .navigator)

/-- `persist_override`, up to the text of the file. -/
def persistOverride (values : PyDict) : Except TuningError (List Char) := do
  let normalized ← validateValues values
  return (overrideLines normalized).flatMap (· ++ ['\n'])

/-! ## Loading -/

/-- A scalar of the file: an integer unless it has a point or an exponent. -/
def readScalar : List Char → ParameterValue
  | [] => .other
  | first :: more =>
    match Json.scanNumber first more with
    | .ok (.int value, ⟨[], _⟩) => .integer value
    | .ok (.float value, ⟨[], _⟩) => .double value
    | _ => .other

/-- The node whose section is read, and the parameters so far. -/
structure LoadState where
  node : List Char := []
  loaded : List ((List Char × List Char) × ParameterValue) := []

/-- One line: the header of a node, that of its parameters, or a parameter. -/
def LoadState.readLine (state : LoadState) (line : List Char) : LoadState :=
  let indented := line.takeWhile (· = ' ')
  let entry := line.dropWhile (· = ' ')
  let key := entry.takeWhile (· ≠ ':')
  let scalar := (entry.dropWhile (· ≠ ':')).drop 2
  if indented = [] then { state with node := '/' :: key }
  else if scalar = [] then state
  else { state with loaded := state.loaded ++ [((state.node, key), readScalar scalar)] }

def loadOverride (text : List Char) : List ((List Char × List Char) × ParameterValue) :=
  ((text.splitOn '\n').foldl LoadState.readLine {}).loaded

/-- The parameter of a node after the file has been loaded. -/
def loadedParameter (text : List Char) (node name : String) : Option ParameterValue :=
  (loadOverride text).lookup (node.toList, name.toList)

/-! ### What is loaded -/

/-- The fields that the file holds, in its order. -/
def overrideFields : List TuningField :=
  (TuningField.all.filter fun field => field.parameter.owner = .planner) ++
    TuningField.all.filter fun field => field.parameter.owner = .navigator

theorem mem_overrideFields {field : TuningField} :
    field ∈ overrideFields ↔
      field.parameter.owner = .planner ∨ field.parameter.owner = .navigator := by
  simp [overrideFields]

/-- The node and the name under which a field is loaded. -/
def overrideKey (field : TuningField) : List Char × List Char :=
  (field.parameter.nodeName.toList, field.parameter.parameterName.toList)

theorem splitOn_lines {lines : List (List Char)} (h : ∀ line ∈ lines, '\n' ∉ line) :
    (lines.flatMap (· ++ ['\n'])).splitOn '\n' = lines ++ [[]] := by
  induction lines with
  | nil => rfl
  | cons line lines ih =>
    rw [List.flatMap_cons, List.append_assoc, List.singleton_append,
      List.splitOn_append_cons_self_of_not_mem (h line List.mem_cons_self),
      ih fun other hMem => h other (List.mem_cons_of_mem line hMem), List.cons_append]

/-- A key that stands as it is before a colon. -/
def PlainKey (key : List Char) : Prop := key ≠ [] ∧ ' ' ∉ key ∧ ':' ∉ key ∧ '\n' ∉ key

instance (key : List Char) : Decidable (PlainKey key) :=
  inferInstanceAs (Decidable (_ ∧ _ ∧ _ ∧ _))

theorem plainKey_parameterName (field : TuningField) :
    PlainKey field.parameter.parameterName.toList := by
  cases field <;> decide +kernel

/-- The line of a parameter is read as its name and its scalar. -/
theorem readLine_parameter {name scalar : List Char} (hName : PlainKey name)
    (hScalar : scalar ≠ []) (state : LoadState) :
    state.readLine ("    ".toList ++ (name ++ (": ".toList ++ scalar))) =
      { state with loaded := state.loaded ++ [((state.node, name), readScalar scalar)] } := by
  obtain ⟨hNil, hBlank, hColon, -⟩ := hName
  have hIndent : ∀ c ∈ "    ".toList, decide (c = ' ') = true :=
    List.all_eq_true.mp (by decide)
  have hKey : ∀ c ∈ name, decide (c ≠ ':') = true := fun c hMem =>
    decide_eq_true fun hEq => hColon (hEq ▸ hMem)
  obtain ⟨c, rest, rfl⟩ := List.exists_cons_of_ne_nil hNil
  have hFirst : decide (c = ' ') = false := decide_eq_false fun hEq =>
    hBlank (hEq ▸ List.mem_cons_self)
  have hEntry : ("    ".toList ++ (c :: rest ++ (": ".toList ++ scalar))).dropWhile (· = ' ') =
      c :: rest ++ (": ".toList ++ scalar) := by
    rw [List.dropWhile_append_of_pos hIndent, List.cons_append, List.dropWhile_cons, hFirst]
    rfl
  have hIndented : ("    ".toList ++ (c :: rest ++ (": ".toList ++ scalar))).takeWhile (· = ' ') ≠
      [] := by
    rw [List.takeWhile_append_of_pos hIndent]
    exact List.append_ne_nil_of_left_ne_nil (by decide) _
  have hAfter : (c :: rest ++ (": ".toList ++ scalar)).dropWhile (· ≠ ':') =
    ": ".toList ++ scalar := by
    rw [List.dropWhile_append_of_pos hKey]
    rfl
  have hBefore : (c :: rest ++ (": ".toList ++ scalar)).takeWhile (· ≠ ':') = c :: rest := by
    rw [List.takeWhile_append_of_pos hKey]
    exact List.append_nil _
  unfold LoadState.readLine
  dsimp only
  rw [if_neg hIndented, hEntry, hAfter, hBefore]
  exact if_neg hScalar

/-- The line of a node opens its section. -/
theorem readLine_node {node : List Char} (hNode : PlainKey node) (state : LoadState) :
    state.readLine (node ++ [':']) = { state with node := '/' :: node } := by
  obtain ⟨hNil, hBlank, hColon, -⟩ := hNode
  have hKey : ∀ c ∈ node, decide (c ≠ ':') = true := fun c hMem =>
    decide_eq_true fun hEq => hColon (hEq ▸ hMem)
  have hBefore : (node ++ [':']).takeWhile (· ≠ ':') = node := by
    rw [List.takeWhile_append_of_pos hKey]
    exact List.append_nil _
  obtain ⟨c, rest, rfl⟩ := List.exists_cons_of_ne_nil hNil
  have hFirst : decide (c = ' ') = false := decide_eq_false fun hEq =>
    hBlank (hEq ▸ List.mem_cons_self)
  have hEntry : (c :: rest ++ [':']).dropWhile (· = ' ') = c :: rest ++ [':'] := by
    rw [List.cons_append, List.dropWhile_cons, hFirst]
    rfl
  have hIndented : (c :: rest ++ [':']).takeWhile (· = ' ') = [] := by
    rw [List.cons_append, List.takeWhile_cons, hFirst]
    rfl
  unfold LoadState.readLine
  dsimp only
  rw [if_pos hIndented, hEntry, hBefore]

/-- A section is read as the parameters of its node. -/
theorem foldl_sectionLines {node : String} (hNode : PlainKey node.toList)
    {parameters : List (String × ℚ)} (hNames : ∀ item ∈ parameters, PlainKey item.1.toList)
    (state : LoadState) :
    (sectionLines node parameters).foldl LoadState.readLine state =
      { node := '/' :: node.toList
        loaded := state.loaded ++ parameters.map fun item =>
          (('/' :: node.toList, item.1.toList), readScalar (format12g item.2)) } := by
  have hMap : ∀ state : LoadState, state.readLine "  ros__parameters:".toList = state :=
    fun _ => rfl
  unfold sectionLines
  rw [List.foldl_cons, List.foldl_cons, String.toList_append,
    show ":".toList = [':'] from rfl, readLine_node hNode, hMap]
  generalize state.loaded = loaded
  induction parameters generalizing loaded with
  | nil => rw [List.map_nil, List.map_nil, List.append_nil]; rfl
  | cons item parameters ih =>
    have hLine : ("    " ++ item.1 ++ ": ").toList ++ format12g item.2 =
        "    ".toList ++ (item.1.toList ++ (": ".toList ++ format12g item.2)) := by
      rw [String.toList_append, String.toList_append, List.append_assoc, List.append_assoc]
    rw [List.map_cons, List.foldl_cons, hLine,
      readLine_parameter (hNames item List.mem_cons_self) (format12g_ne_nil item.2),
      ih (fun other hMem => hNames other (List.mem_cons_of_mem item hMem)), List.append_assoc]
    rfl

theorem plainKey_of_mem_valuesForOwner {values : TuningSnapshot} {owner : TuningOwner}
    {item : String × ℚ} (h : item ∈ valuesForOwner values owner) : PlainKey item.1.toList := by
  obtain ⟨field, -, rfl⟩ := List.mem_map.mp h
  exact plainKey_parameterName field

theorem newline_not_mem_sectionLines {node : String} (hNode : PlainKey node.toList)
    {parameters : List (String × ℚ)} (hNames : ∀ item ∈ parameters, PlainKey item.1.toList) :
    ∀ line ∈ sectionLines node parameters, '\n' ∉ line := by
  intro line hLine hMem
  rcases List.mem_cons.mp hLine with rfl | hLine
  · rw [String.toList_append] at hMem
    exact (List.mem_append.mp hMem).elim hNode.2.2.2 (by decide)
  rcases List.mem_cons.mp hLine with rfl | hLine
  · exact absurd hMem (by decide)
  obtain ⟨item, hItem, rfl⟩ := List.mem_map.mp hLine
  rw [String.toList_append, String.toList_append] at hMem
  rcases List.mem_append.mp hMem with hMem | hMem
  · rcases List.mem_append.mp hMem with hMem | hMem
    · exact (List.mem_append.mp hMem).elim (by decide) (hNames item hItem).2.2.2
    · exact absurd hMem (by decide)
  · exact absurd (numeric_format12g hMem) (by decide)

/-- The file of a snapshot is loaded as the typed scalar of each of its fields. -/
theorem loadOverride_overrideLines (values : TuningSnapshot) :
    loadOverride ((overrideLines values).flatMap (· ++ ['\n'])) =
      overrideFields.map fun field => (overrideKey field,
        readScalar (format12g (values field))) := by
  have hPlanner : PlainKey "planner_server".toList := by decide
  have hNavigator : PlainKey "bt_navigator".toList := by decide
  have hLines : ∀ line ∈ overrideLines values, '\n' ∉ line := by
    intro line hMem
    rcases List.mem_append.mp hMem with hMem | hMem
    · exact newline_not_mem_sectionLines hPlanner (fun _ => plainKey_of_mem_valuesForOwner) line
        hMem
    · exact newline_not_mem_sectionLines hNavigator (fun _ => plainKey_of_mem_valuesForOwner) line
        hMem
  unfold loadOverride
  rw [splitOn_lines hLines, List.foldl_append]
  unfold overrideLines
  rw [List.foldl_append, foldl_sectionLines hPlanner fun _ => plainKey_of_mem_valuesForOwner,
    foldl_sectionLines hNavigator fun _ => plainKey_of_mem_valuesForOwner]
  rfl

/-! ## The parameters of an accepted snapshot -/

theorem nodup_parameterNames :
    (TuningField.all.map fun field => field.parameter.parameterName).Nodup := by
  decide +kernel

theorem overrideKey_injective {a b : TuningField} (h : overrideKey a = overrideKey b) : a = b := by
  have hName : a.parameter.parameterName = b.parameter.parameterName :=
    String.toList_injective (Prod.ext_iff.mp h).2
  exact List.inj_on_of_nodup_map nodup_parameterNames (TuningField.mem_all a)
    (TuningField.mem_all b) hName

theorem loadedParameter_eq {values : TuningSnapshot} {field : TuningField}
    (h : field ∈ overrideFields) :
    loadedParameter ((overrideLines values).flatMap (· ++ ['\n'])) field.parameter.nodeName
      field.parameter.parameterName = some (readScalar (format12g (values field))) := by
  unfold loadedParameter
  rw [loadOverride_overrideLines]
  exact Runs.lookup_map_key _ (fun _ _ _ _ hKey => overrideKey_injective hKey) h

/-- A whole number below 10^12 is loaded as an integer. -/
theorem readScalar_natCast {n : ℕ} (hSize : n < 10 ^ 12) :
    readScalar (format12g n) = .integer n := by
  obtain ⟨first, more, hDigits⟩ := List.exists_cons_of_ne_nil (@Nat.toDigits_ne_nil n 10)
  have hLength : (Nat.toDigits 10 n).length ≤ Json.maxStrDigits :=
    ((Nat.length_toDigits_le_iff (by decide) (by decide)).mpr hSize).trans (by decide)
  have hEnd : Json.EndsInteger [] := fun _ h => nomatch h
  have hReads := Json.reads_digits hLength hEnd hDigits
  rw [format12g_natCast hSize, hDigits]
  obtain ⟨⟨left, hLeft⟩, hScan, rfl⟩ := hReads more (List.append_nil more).symm
  unfold readScalar
  dsimp only
  rw [hScan]

/-- What the navigator returns of the file for `policy_request`. -/
def loadedPolicy (text : List Char) : List ParameterValue :=
  speedPolicyNames.map fun name => (loadedParameter text "/bt_navigator" name).getD .other

/-- The family of the clearance curve is one of three whole numbers. -/
theorem curveFamily_natCast {snapshot : TuningSnapshot} (h : Acceptable snapshot) :
    ∃ n : ℕ, n < 10 ^ 12 ∧ snapshot .clearanceCurveFamily = n := by
  have hFamily := h.curveFamily
  simp only [List.mem_cons, List.not_mem_nil, or_false] at hFamily
  rcases hFamily with hFamily | hFamily | hFamily
  · exact ⟨0, by decide, hFamily⟩
  · exact ⟨1, by decide, by rw [hFamily]; rfl⟩
  · exact ⟨2, by decide, hFamily⟩

/-- No accepted snapshot is loaded from its override file as the doubles that it consists of: the
family of the clearance curve comes back as an integer, and so none of the speed policy is used.
The writer prints a whole number without a point, so the reader takes it for an integer
(`readScalar_natCast`), and one parameter of another type makes the node refuse all of them. -/
theorem override_loses_doubles {values : PyDict} {snapshot : TuningSnapshot}
    (h : validateValues values = .ok snapshot) :
    ∃ text, persistOverride values = .ok text ∧
      (¬ ∀ field : TuningField,
        field.parameter.owner = .planner ∨ field.parameter.owner = .navigator →
        loadedParameter text field.parameter.nodeName field.parameter.parameterName =
          some (.double (.finite (snapshot field)))) ∧
      readSpeedPolicyParameters (loadedPolicy text) = defaultProfile := by
  refine ⟨(overrideLines snapshot).flatMap (· ++ ['\n']),
    by unfold persistOverride; rw [h]; rfl, ?_⟩
  obtain ⟨n, hSize, hFamily⟩ := curveFamily_natCast (validateValues_ok h).2
  have hLoaded := @loadedParameter_eq snapshot .clearanceCurveFamily
    (mem_overrideFields.mpr (.inr rfl))
  rw [hFamily, readScalar_natCast hSize] at hLoaded
  constructor
  · intro hAll
    have hDouble := hAll .clearanceCurveFamily (.inr rfl)
    rw [hLoaded] at hDouble
    cases hDouble
  · have hMem : ParameterValue.integer n ∈ loadedPolicy
        ((overrideLines snapshot).flatMap (· ++ ['\n'])) := by
      refine List.mem_map.mpr ⟨"speed_policy.clearance_curve_family", by decide +kernel, ?_⟩
      exact congrArg (Option.getD · ParameterValue.other) hLoaded
    unfold readSpeedPolicyParameters
    rw [Runs.mapM_eq_none hMem rfl]
    rfl

/-- The snapshot with a ceiling of 1 m/s. -/
theorem override_loses_doubles_one :
    ∃ text, persistOverride (valuesAt 1) = .ok text ∧
      (¬ ∀ field : TuningField,
        field.parameter.owner = .planner ∨ field.parameter.owner = .navigator →
        loadedParameter text field.parameter.nodeName field.parameter.parameterName =
          some (.double (.finite (normalized (valuesAt 1) field)))) ∧
      readSpeedPolicyParameters (loadedPolicy text) = defaultProfile :=
  override_loses_doubles (validateValues_valuesAt (by decide +kernel))

/-- The cost penalty 2.0 is written as `2` and loaded as an integer. -/
theorem cost_penalty_loaded_as_integer :
    ¬ ∀ (values : PyDict) (snapshot : TuningSnapshot), validateValues values = .ok snapshot →
      ∃ text, persistOverride values = .ok text ∧ ∀ field : TuningField,
        field.parameter.owner = .planner ∨ field.parameter.owner = .navigator →
        loadedParameter text field.parameter.nodeName field.parameter.parameterName =
          some (.double (.finite (snapshot field))) := by
  intro hAll
  have hValid : validateValues (valuesAt 1) = .ok (normalized (valuesAt 1)) :=
    validateValues_valuesAt (by decide +kernel)
  obtain ⟨text, hText, hDoubles⟩ := hAll (valuesAt 1) _ hValid
  unfold persistOverride at hText
  rw [hValid] at hText
  cases hText
  have hDouble := hDoubles .costPenalty (.inl rfl)
  have hTwo : normalized (valuesAt 1) .costPenalty = (2 : ℕ) := by decide +kernel
  rw [loadedParameter_eq (mem_overrideFields.mpr (.inl rfl)), hTwo, readScalar_natCast (by decide)]
    at hDouble
  cases hDouble

end Tuning

end PreRunner
