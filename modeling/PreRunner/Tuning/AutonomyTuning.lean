import Mathlib.Data.Fintype.Defs
import PreRunner.PyValue
import PreRunner.Text.Json

/-!
# The schema of autonomy tuning

A browser sends one number for each tuning field. `validate_values` accepts a complete snapshot,
whose fields are then written to the ROS nodes that own them. This module follows
`runner_paddock/autonomy_tuning.py`. A `float` is a double; the products and sums of the feedforward
bounds are exact.
-/

namespace PreRunner.Tuning

/-- The keys of `PARAMETERS`, in order. -/
inductive TuningField where
  | desiredLinearVel
  | regulatedLinearScalingMinSpeed
  | regulatedLinearScalingMinRadius
  | minLookaheadDist
  | maxLookaheadDist
  | lookaheadTime
  | maxAllowedTimeToCollisionUpToCarrot
  | maximumCommandedSpeed
  | proportionalGain
  | integralGain
  | feedforwardEffortPerSpeed
  | feedforwardEffortIntercept
  | outputMax
  | minimumTraversalSpeed
  | tightClearance
  | openClearance
  | clearanceCurveFamily
  | clearanceCurveShape
  | approachTimeS
  | curvatureWindow
  | maxLateralAcceleration
  | footprintFront
  | footprintRear
  | footprintHalfWidth
  | brakingLinear
  | brakingConstant
  | reactionTimeS
  | recoveryAccelerationGain
  | recoveryAccelerationFloor
  | costPenalty
  deriving DecidableEq, Repr

/-- The ROS node that a field is written to. -/
inductive TuningOwner where
  | controller
  | adapter
  | navigator
  | planner
  deriving DecidableEq, Repr

/-- `TuningParameter`. -/
structure TuningParameter where
  owner : TuningOwner
  nodeName : String
  parameterName : String

namespace TuningField

/-- The keys of `PARAMETERS`, in order. -/
def all : List TuningField :=
  [desiredLinearVel, regulatedLinearScalingMinSpeed, regulatedLinearScalingMinRadius,
    minLookaheadDist, maxLookaheadDist, lookaheadTime, maxAllowedTimeToCollisionUpToCarrot,
    maximumCommandedSpeed, proportionalGain, integralGain, feedforwardEffortPerSpeed,
    feedforwardEffortIntercept, outputMax, minimumTraversalSpeed, tightClearance, openClearance,
    clearanceCurveFamily, clearanceCurveShape, approachTimeS, curvatureWindow,
    maxLateralAcceleration, footprintFront, footprintRear, footprintHalfWidth, brakingLinear,
    brakingConstant, reactionTimeS, recoveryAccelerationGain, recoveryAccelerationFloor,
    costPenalty]

def name : TuningField → String
  | desiredLinearVel => "desired_linear_vel"
  | regulatedLinearScalingMinSpeed => "regulated_linear_scaling_min_speed"
  | regulatedLinearScalingMinRadius => "regulated_linear_scaling_min_radius"
  | minLookaheadDist => "min_lookahead_dist"
  | maxLookaheadDist => "max_lookahead_dist"
  | lookaheadTime => "lookahead_time"
  | maxAllowedTimeToCollisionUpToCarrot => "max_allowed_time_to_collision_up_to_carrot"
  | maximumCommandedSpeed => "maximum_commanded_speed"
  | proportionalGain => "proportional_gain"
  | integralGain => "integral_gain"
  | feedforwardEffortPerSpeed => "feedforward_effort_per_speed"
  | feedforwardEffortIntercept => "feedforward_effort_intercept"
  | outputMax => "output_max"
  | minimumTraversalSpeed => "minimum_traversal_speed"
  | tightClearance => "tight_clearance"
  | openClearance => "open_clearance"
  | clearanceCurveFamily => "clearance_curve_family"
  | clearanceCurveShape => "clearance_curve_shape"
  | approachTimeS => "approach_time_s"
  | curvatureWindow => "curvature_window"
  | maxLateralAcceleration => "max_lateral_acceleration"
  | footprintFront => "footprint_front"
  | footprintRear => "footprint_rear"
  | footprintHalfWidth => "footprint_half_width"
  | brakingLinear => "braking_linear"
  | brakingConstant => "braking_constant"
  | reactionTimeS => "reaction_time_s"
  | recoveryAccelerationGain => "recovery_acceleration_gain"
  | recoveryAccelerationFloor => "recovery_acceleration_floor"
  | costPenalty => "cost_penalty"

/-- `PARAMETERS[field]`. -/
def parameter (field : TuningField) : TuningParameter :=
  match field with
  | desiredLinearVel | regulatedLinearScalingMinSpeed | regulatedLinearScalingMinRadius
  | minLookaheadDist | maxLookaheadDist | lookaheadTime | maxAllowedTimeToCollisionUpToCarrot =>
    { owner := .controller, nodeName := "/controller_server"
      parameterName := "FollowPath." ++ field.name }
  | maximumCommandedSpeed | proportionalGain | integralGain | feedforwardEffortPerSpeed
  | feedforwardEffortIntercept | outputMax =>
    { owner := .adapter, nodeName := "/drive_adapter", parameterName := field.name }
  | costPenalty =>
    { owner := .planner, nodeName := "/planner_server"
      parameterName := "GridBased." ++ field.name }
  | _ =>
    { owner := .navigator, nodeName := "/bt_navigator"
      parameterName := "speed_policy." ++ field.name }

@[simp] theorem mem_all (field : TuningField) : field ∈ all := by
  cases field <;> decide

end TuningField

/-- `ENGINEERING_FIELDS`. -/
def engineeringFields : List TuningField :=
  [.proportionalGain, .integralGain, .feedforwardEffortPerSpeed, .feedforwardEffortIntercept,
    .outputMax]

/-- `SPEED_PROFILE_FIELDS`. -/
def speedProfileFields : List TuningField :=
  TuningField.all.filter fun field => field ∉ engineeringFields ∧ field ≠ .costPenalty

/-- `ABSOLUTE_BOUNDS`. -/
def absoluteMaximumCommandedSpeed : ℚ := 2
def absoluteOutputMax : ℚ := 3 / 10

/-- A number for each field. -/
abbrev TuningSnapshot := TuningField → ℚ

/-- `values_for_owner`: the parameters of one owner, in order. -/
def valuesForOwner {α : Type} (values : TuningField → α) (owner : TuningOwner) :
    List (String × α) :=
  (TuningField.all.filter fun field => field.parameter.owner = owner).map fun field =>
    (field.parameter.parameterName, values field)

/-! ## Validation -/

/-- The rejections of a snapshot: a `ValueError` each, apart from `overflow`. -/
inductive TuningError where
  | fieldsMismatch (missing extra : List String)
  | notFinite (name : String)
  /-- The `OverflowError` of `float(value)`. -/
  | overflow
  | notPositive (name : String)
  | negative (name : String)
  | curveFamily
  | openClearance
  | regulatedMinimum
  | nominalSpeed
  | commandedSpeed
  | lookahead
  | feedforward
  | outputMax
  | outputReach
  deriving DecidableEq

/-- `float(value)` of a number that is no `bool`, if it is finite. -/
def number (name : String) : PyValue → Except TuningError ℚ
  | .int value =>
    if |value| < 2 ^ 1024 - 2 ^ 970 then
      match PyFloat.nearest value with
      | .finite value => .ok value
      | _ => .error .overflow
    else .error .overflow
  | .float (.finite value) => .ok value
  | _ => .error (.notFinite name)

/-- The fields that may be zero or less. -/
def notPositiveFields : List TuningField :=
  [.integralGain, .feedforwardEffortIntercept, .reactionTimeS, .approachTimeS,
    .clearanceCurveFamily, .tightClearance, .footprintRear]

def positive : List TuningField :=
  TuningField.all.filter (· ∉ notPositiveFields)

def nonnegative : List TuningField :=
  [.reactionTimeS, .approachTimeS, .tightClearance, .footprintRear]

/-- The normalized feedforward at a speed. -/
def feedforwardAt (values : TuningSnapshot) (speed : ℚ) : ℚ :=
  values .feedforwardEffortPerSpeed * speed + values .feedforwardEffortIntercept

/-- `if condition: raise error`. -/
def raiseIf (condition : Prop) [Decidable condition] (error : TuningError) : Option TuningError :=
  if condition then some error else none

/-- The checks on the normalized values, in their order; the set of positive fields is looked
through in that of `PARAMETERS`. -/
def error? (values : TuningSnapshot) : Option TuningError :=
  ((positive.find? (values · ≤ 0)).map fun field => .notPositive field.name).or <|
  (raiseIf (values .integralGain < 0) (.negative "integral_gain")).or <|
  ((nonnegative.find? (values · < 0)).map fun field => .negative field.name).or <|
  (raiseIf (values .clearanceCurveFamily ∉ [0, 1, 2]) .curveFamily).or <|
  (raiseIf (values .openClearance ≤ values .tightClearance) .openClearance).or <|
  (raiseIf (values .desiredLinearVel < values .regulatedLinearScalingMinSpeed)
    .regulatedMinimum).or <|
  (raiseIf (values .maximumCommandedSpeed < values .desiredLinearVel) .nominalSpeed).or <|
  (raiseIf (absoluteMaximumCommandedSpeed < values .maximumCommandedSpeed) .commandedSpeed).or <|
  (raiseIf (values .maxLookaheadDist < values .minLookaheadDist) .lookahead).or <|
  (raiseIf (min (feedforwardAt values (values .maximumCommandedSpeed))
    (feedforwardAt values (25 / 100)) < 0) .feedforward).or <|
  (raiseIf (absoluteOutputMax < values .outputMax) .outputMax).or <|
  raiseIf (values .outputMax < feedforwardAt values (values .maximumCommandedSpeed)) .outputReach

def byName (a b : String) : Bool := a ≤ b

/-- The first item, in the order of the dictionary, that is no finite number. -/
def firstError? (values : PyDict) : Option TuningError :=
  values.findSome? fun (name, value) =>
    match number name value with
    | .error error => some error
    | .ok _ => none

/-- The normalized value of a field. -/
def normalized (values : PyDict) (field : TuningField) : ℚ :=
  (((PyDict.get? values field.name).map (number field.name)).bind Except.toOption).getD 0

/-- `validate_values`. -/
def validateValues (values : PyDict) : Except TuningError TuningSnapshot :=
  let names := TuningField.all.map TuningField.name
  let keys := values.map (·.1)
  if ¬ (keys ⊆ names ∧ names ⊆ keys) then
    .error (.fieldsMismatch ((names.filter (· ∉ keys)).mergeSort byName)
      ((keys.filter (· ∉ names)).mergeSort byName))
  else
    match firstError? values with
    | some error => .error error
    | none =>
      match error? (normalized values) with
      | some error => .error error
      | none => .ok (normalized values)

end PreRunner.Tuning
