import Mathlib.Algebra.Order.Floor.Ring
import Mathlib.Data.Rat.Floor
import PreRunner.PyFloat

/-!
# Values of a parsed browser message

`json.loads` builds Python objects from a browser message. `PyValue` is such an object, and the
conversions `bool`, `float` and `int` on it raise what Python raises. Conversions of text are
parameters (`PyText`): nothing in the handlers depends on how a number is spelled.
-/

namespace PreRunner

/-- The exceptions the conversions raise. -/
inductive PyError where
  | keyError
  | typeError
  | valueError
  | overflowError
  deriving DecidableEq, Repr

/-- An object `json.loads` can build. -/
inductive PyValue where
  | none
  | bool (value : Bool)
  | int (value : Int)
  | float (value : PyFloat)
  | str (value : String)
  | list (items : List PyValue)
  | dict (items : List (String × PyValue))

/-- What the standard library does with text. -/
structure PyText where
  /-- `str(value)`. -/
  str : PyValue → String
  /-- `repr(value)`. -/
  repr : PyValue → String
  /-- `float(text)`. -/
  floatOfStr : String → Except PyError PyFloat
  /-- `int(text)`. -/
  intOfStr : String → Except PyError Int
  /-- `text.strip()`. -/
  strip : String → String
  /-- `text.lower()`. -/
  lower : String → String
  /-- `format(value, '.2f')`. -/
  format2 : PyFloat → String
  str_str : ∀ text, str (.str text) = text
  floatOfStr_error : ∀ text error, floatOfStr text = .error error → error = .valueError
  intOfStr_error : ∀ text error, intOfStr text = .error error → error = .valueError

namespace PyValue

/-- `bool(value)`. -/
def truthy : PyValue → Bool
  | none => false
  | bool value => value
  | int value => value ≠ 0
  | float value => value ≠ .finite 0
  | str value => value ≠ ""
  | list items => !items.isEmpty
  | dict items => !items.isEmpty

/-- `float(value)` of an integer, which overflows when the nearest double would lie beyond the
largest one. The integer is kept as it is, where the code goes on with the double nearest to it;
below 2^53 both are the same. -/
def floatOfInt (value : Int) : Except PyError PyFloat :=
  if |value| < 2 ^ 1024 - 2 ^ 970 then .ok (.finite value) else .error .overflowError

/-- `float(value)`. -/
def toFloat (text : PyText) : PyValue → Except PyError PyFloat
  | bool value => .ok (.finite (if value then 1 else 0))
  | int value => floatOfInt value
  | float value => .ok value
  | str value => text.floatOfStr value
  | none | list _ | dict _ => .error .typeError

/-- `int(value)`. -/
def toInt (text : PyText) : PyValue → Except PyError Int
  | bool value => .ok (if value then 1 else 0)
  | int value => .ok value
  | float (.finite value) => .ok (if 0 ≤ value then ⌊value⌋ else ⌈value⌉)
  | float (.inf _) => .error .overflowError
  | float .nan => .error .valueError
  | str value => text.intOfStr value
  | none | list _ | dict _ => .error .typeError

/-- `value == number`. -/
def equalsInt : PyValue → Int → Bool
  | bool value, number => (if value then 1 else 0) = number
  | int value, number => value = number
  | float (.finite value), number => value = number
  | _, _ => false

end PyValue

/-- A parsed JSON object: the keys in order of first appearance. -/
abbrev PyDict := List (String × PyValue)

namespace PyDict

/-- `action.get(key)`. -/
def get? (action : PyDict) (key : String) : Option PyValue := action.lookup key

/-- `members[key] = value`: a key that is there keeps its place. -/
def assign (members : PyDict) (key : String) (value : PyValue) : PyDict :=
  if members.any fun member => member.1 = key then
    members.map fun member => if member.1 = key then (key, value) else member
  else members ++ [(key, value)]

/-- `action[key]`. -/
def item (action : PyDict) (key : String) : Except PyError PyValue :=
  match action.get? key with
  | none => .error .keyError
  | some value => .ok value

/-- `bool(action.get(key))`. -/
def flag (action : PyDict) (key : String) : Bool := (action.get? key).any PyValue.truthy

/-- `str(action.get(key, default))`. -/
def text (t : PyText) (action : PyDict) (key default : String) : String :=
  t.str ((action.get? key).getD (.str default))

/-- `float(action[key])`. -/
def floatAt (t : PyText) (action : PyDict) (key : String) : Except PyError PyFloat :=
  (action.item key).bind (PyValue.toFloat t)

/-- `float(action.get(key, 0.0))`. -/
def floatOr0 (t : PyText) (action : PyDict) (key : String) : Except PyError PyFloat :=
  ((action.get? key).getD (.float (.finite 0))).toFloat t

/-- `int(action[key])`. -/
def intAt (t : PyText) (action : PyDict) (key : String) : Except PyError Int :=
  (action.item key).bind (PyValue.toInt t)

end PyDict

end PreRunner
