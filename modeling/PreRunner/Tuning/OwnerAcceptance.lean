import Mathlib.Tactic.Linarith
import PreRunner.Drive.DriveAdapter
import PreRunner.Profile.PathSpeedProfile
import PreRunner.Tuning.AutonomyTuning

/-!
# What the owners accept

An accepted snapshot is written to its owners, and the drive adapter and the path speed profile
check their parts again. The schema checks all that they check, but for one bound: it lets the speed
ceiling fall below the minimum moving speed of the adapter.

Both owners are modelled by their own checks, not by those of the schema: `error?` of the adapter's
configuration and `validConfig` of the path speed profile. The adapter is the running one, so its
configuration is valid before and the parameters that tuning does not touch have their defaults
(`HasDefaultStatic`).
-/

namespace PreRunner.Tuning

open Drive Profile

/-! ## Accepted snapshots -/

/-- What `validate_values` has checked of a snapshot. -/
structure Acceptable (values : TuningSnapshot) : Prop where
  positive : ∀ field, field ∉ notPositiveFields → 0 < values field
  integralGain : 0 ≤ values .integralGain
  nonnegative : ∀ field ∈ nonnegative, 0 ≤ values field
  curveFamily : values .clearanceCurveFamily ∈ ([0, 1, 2] : List ℚ)
  clearance : values .tightClearance < values .openClearance
  regulated : values .regulatedLinearScalingMinSpeed ≤ values .desiredLinearVel
  nominal : values .desiredLinearVel ≤ values .maximumCommandedSpeed
  ceiling : values .maximumCommandedSpeed ≤ absoluteMaximumCommandedSpeed
  lookahead : values .minLookaheadDist ≤ values .maxLookaheadDist
  feedforwardMaximum : 0 ≤ feedforwardAt values (values .maximumCommandedSpeed)
  feedforwardMinimum : 0 ≤ feedforwardAt values (25 / 100)
  output : values .outputMax ≤ absoluteOutputMax
  reach : feedforwardAt values (values .maximumCommandedSpeed) ≤ values .outputMax

theorem raiseIf_eq_none {condition : Prop} [Decidable condition] {error : TuningError} :
    raiseIf condition error = none ↔ ¬ condition := by
  unfold raiseIf
  by_cases h : condition <;> simp [h]

/-- A snapshot passes the checks exactly if it is acceptable. -/
theorem error?_eq_none_iff {values : TuningSnapshot} :
    error? values = none ↔ Acceptable values := by
  have hPositive : (∀ field ∈ positive, ¬ decide (values field ≤ 0) = true) ↔
      ∀ field, field ∉ notPositiveFields → 0 < values field := by
    simp [positive]
  have hNonnegative : (∀ field ∈ nonnegative, ¬ decide (values field < 0) = true) ↔
      ∀ field ∈ nonnegative, 0 ≤ values field := by
    simp
  unfold error?
  simp only [Option.or_eq_none_iff, Option.map_eq_none_iff, List.find?_eq_none, hPositive,
    hNonnegative, raiseIf_eq_none, not_lt, not_le, not_not, le_min_iff]
  constructor
  · rintro ⟨h1, h2, h3, h4, h5, h6, h7, h8, h9, ⟨h10, h11⟩, h12, h13⟩
    exact ⟨h1, h2, h3, h4, h5, h6, h7, h8, h9, h10, h11, h12, h13⟩
  · rintro ⟨h1, h2, h3, h4, h5, h6, h7, h8, h9, h10, h11, h12, h13⟩
    exact ⟨h1, h2, h3, h4, h5, h6, h7, h8, h9, ⟨h10, h11⟩, h12, h13⟩

theorem validateValues_ok {values : PyDict} {snapshot : TuningSnapshot}
    (h : validateValues values = .ok snapshot) :
    snapshot = normalized values ∧ Acceptable snapshot := by
  unfold validateValues at h
  dsimp only at h
  split at h
  · exact nomatch h
  · split at h
    · exact nomatch h
    · split at h
      · exact nomatch h
      · rename_i hError
        cases h
        exact ⟨rfl, error?_eq_none_iff.mp hError⟩

/-! ## The adapter -/

/-- The parameters that are written to the adapter. -/
def adapterUpdates (snapshot : TuningSnapshot) : List (String × PyValue) :=
  valuesForOwner (fun field => .float (.finite (snapshot field))) .adapter

/-- The configuration of the adapter after the write. -/
def withSnapshot (config : AdapterConfig) (snapshot : TuningSnapshot) : AdapterConfig :=
  { config with
    maximumCommandedSpeed := snapshot .maximumCommandedSpeed
    proportionalGain := snapshot .proportionalGain
    integralGain := snapshot .integralGain
    feedforwardEffortPerSpeed := snapshot .feedforwardEffortPerSpeed
    feedforwardEffortIntercept := snapshot .feedforwardEffortIntercept
    outputMax := snapshot .outputMax }

/-- The parameters that cannot be tuned live have the values of the repository. -/
def HasDefaultStatic (config : AdapterConfig) : Prop :=
  ∀ snapshot, withSnapshot config snapshot = withSnapshot .default snapshot

theorem validate_finite {lib : DriveLibrary} (config : AdapterConfig) :
    AdapterConfig.validate lib (config.map PyFloat.finite) =
      match config.error? lib with
      | some text => .error text
      | none => .ok config := by
  rfl

/-- A whole snapshot replaces the configuration it validates. -/
theorem setLiveParameters_eq (lib : DriveLibrary) (adapter : DriveAdapter)
    (snapshot : TuningSnapshot) : adapter.setLiveParameters lib (adapterUpdates snapshot) =
      match AdapterConfig.validate lib ((withSnapshot adapter.config snapshot).map
        PyFloat.finite) with
      | .error text => .error (.valueError text)
      | .ok config => .ok { adapter with
          config, integrator := 0, previousEncoderSampleTime := none } := rfl

theorem setLiveParameters_adapterUpdates (lib : DriveLibrary) (adapter : DriveAdapter)
    (snapshot : TuningSnapshot) :
    (∃ next, adapter.setLiveParameters lib (adapterUpdates snapshot) = .ok next) ↔
      (withSnapshot adapter.config snapshot).error? lib = none := by
  rw [setLiveParameters_eq, validate_finite]
  cases (withSnapshot adapter.config snapshot).error? lib with
  | none => exact iff_of_true ⟨_, rfl⟩ rfl
  | some text => exact iff_of_false (fun ⟨_, h⟩ => nomatch h) nofun

theorem ite_some_eq_none {α : Type} {c : Prop} [Decidable c] {a : α} {x : Option α} :
    (if c then some a else x) = none ↔ ¬ c ∧ x = none := by
  by_cases h : c
  · rw [if_pos h]
    exact iff_of_false nofun fun h' => h'.1 h
  · rw [if_neg h]
    exact (and_iff_right h).symm

/-- What `__post_init__` checks. -/
theorem config_error?_eq_none_iff {lib : DriveLibrary} {config : AdapterConfig} :
    config.error? lib = none ↔ (∀ item ∈ config.positive, 0 < item.2) ∧
      (0 < config.maxSteeringAngle ∧ config.maxSteeringAngle < lib.pi / 2) ∧
      0 ≤ config.integralGain ∧ config.minimumMovingSpeed ≤ config.maximumCommandedSpeed ∧
      config.maximumCommandedSpeed ≤ maximumCommandedSpeedPolicy ∧ config.outputMin = 0 ∧
      (config.outputMax ≤ maximumOutputAuthorityPolicy ∧ 0 < config.outputMax) ∧
      0 ≤ config.feedforwardAt config.maximumCommandedSpeed ∧
      config.feedforwardAt config.maximumCommandedSpeed ≤ config.outputMax ∧
      1 < config.wheelspinSpeedRatio ∧ 0 ≤ config.wheelspinMinSpeedExcess ∧
      0 ≤ config.feedforwardAt config.minimumMovingSpeed := by
  unfold AdapterConfig.error?
  cases hPositive : config.positive.find? (·.2 ≤ 0) with
  | some item =>
    refine iff_of_false nofun fun h => ?_
    have hItem := h.1 item (List.mem_of_find?_eq_some hPositive)
    have hNot := List.find?_some hPositive
    rw [decide_eq_true_eq] at hNot
    exact hItem.not_ge hNot
  | none =>
    have hAll : ∀ item ∈ config.positive, 0 < item.2 := fun item hItem => by
      have h := List.find?_eq_none.mp hPositive item hItem
      rwa [decide_eq_true_eq, not_le] at h
    simp only [ite_some_eq_none, not_lt, not_le, not_not, not_or, and_true]
    exact (and_iff_right hAll).symm

/-- Of an acceptable snapshot the adapter rejects nothing but a ceiling below its minimum moving
speed. -/
theorem withSnapshot_error?_iff {lib : DriveLibrary} {config : AdapterConfig}
    {snapshot : TuningSnapshot} (hConfig : config.error? lib = none)
    (hStatic : HasDefaultStatic config) (hValid : Acceptable snapshot) :
    (withSnapshot config snapshot).error? lib = none ↔
      1 / 4 ≤ snapshot .maximumCommandedSpeed := by
  have hPi := (config_error?_eq_none_iff.mp hConfig).2.1
  have hAngle : (withSnapshot config snapshot).maxSteeringAngle =
      (withSnapshot .default snapshot).maxSteeringAngle :=
    congrArg AdapterFields.maxSteeringAngle (hStatic snapshot)
  change config.maxSteeringAngle = AdapterConfig.default.maxSteeringAngle at hAngle
  rw [hAngle] at hPi
  rw [hStatic]
  have hSpeed := hValid.positive .maximumCommandedSpeed (by decide)
  have hGain := hValid.positive .proportionalGain (by decide)
  have hPerSpeed := hValid.positive .feedforwardEffortPerSpeed (by decide)
  have hOutput := hValid.positive .outputMax (by decide)
  have hFeedforward : ∀ speed : ℚ, 0 ≤ speed →
      (withSnapshot .default snapshot).feedforwardAt speed = feedforwardAt snapshot speed :=
    fun speed hNonneg => by
      change snapshot .feedforwardEffortPerSpeed * |speed| +
        snapshot .feedforwardEffortIntercept = _
      rw [abs_of_nonneg hNonneg]
      rfl
  have hMaximum := hFeedforward (withSnapshot .default snapshot).maximumCommandedSpeed hSpeed.le
  have hMinimum := hFeedforward (withSnapshot .default snapshot).minimumMovingSpeed
    (by decide +kernel : (0 : ℚ) ≤ AdapterConfig.default.minimumMovingSpeed)
  rw [config_error?_eq_none_iff, hMaximum, hMinimum]
  constructor
  · rintro ⟨-, -, -, hMinimum, -⟩
    exact (by decide +kernel : (1 : ℚ) / 4 ≤ AdapterConfig.default.minimumMovingSpeed).trans
      hMinimum
  · intro hMinimum
    refine ⟨?_, hPi, hValid.integralGain, ?_, hValid.ceiling, rfl, ⟨hValid.output, hOutput⟩,
      hValid.feedforwardMaximum, hValid.reach,
      (by decide +kernel : 1 < AdapterConfig.default.wheelspinSpeedRatio),
      (by decide +kernel : 0 ≤ AdapterConfig.default.wheelspinMinSpeedExcess),
      hValid.feedforwardMinimum⟩
    · unfold AdapterConfig.positive withSnapshot
      simp only [List.forall_mem_cons]
      exact ⟨by decide +kernel, by decide +kernel, hPerSpeed, by decide +kernel, hSpeed, hGain,
        by decide +kernel, by decide +kernel, by decide +kernel, by decide +kernel,
        by decide +kernel, by decide +kernel, by decide +kernel, by decide +kernel,
        by decide +kernel, List.forall_mem_nil _⟩
    · exact (by decide +kernel : AdapterConfig.default.minimumMovingSpeed ≤ (1 : ℚ) / 4).trans
        hMinimum

/-! ## The path speed profile -/

/-- A parameter as a service returns it. -/
inductive ParameterValue where
  | integer (value : ℤ)
  | double (value : PyFloat)
  /-- Of another type, or not set. -/
  | other
  deriving DecidableEq

def ParameterValue.double? : ParameterValue → Option PyFloat
  | double value => some value
  | _ => none

/-- A Python float as the C++ double that it is. -/
def toDouble : PyFloat → Double ℚ
  | .finite value => .finite value
  | .inf negative => .inf negative
  | .nan => .nan

/-- `policy_request->names`. -/
def speedPolicyNames : List String :=
  ["speed_policy.minimum_traversal_speed", "speed_policy.tight_clearance",
    "speed_policy.open_clearance", "speed_policy.clearance_curve_family",
    "speed_policy.clearance_curve_shape", "speed_policy.approach_time_s",
    "speed_policy.curvature_window", "speed_policy.max_lateral_acceleration",
    "speed_policy.footprint_front", "speed_policy.footprint_rear",
    "speed_policy.footprint_half_width", "speed_policy.braking_linear",
    "speed_policy.braking_constant", "speed_policy.reaction_time_s",
    "speed_policy.recovery_acceleration_gain", "speed_policy.recovery_acceleration_floor"]

/-- `ProfileConfig{}`. -/
def defaultProfile : ProfileConfig (Double ℚ) where
  minimumTraversalSpeed := .finite ProfileConfig.default.minimumTraversalSpeed
  tightClearance := .finite ProfileConfig.default.tightClearance
  openClearance := .finite ProfileConfig.default.openClearance
  clearanceCurveFamily := .finite ProfileConfig.default.clearanceCurveFamily
  clearanceCurveShape := .finite ProfileConfig.default.clearanceCurveShape
  approachTime := .finite ProfileConfig.default.approachTime
  curvatureWindow := .finite ProfileConfig.default.curvatureWindow
  maxLateralAcceleration := .finite ProfileConfig.default.maxLateralAcceleration
  footprintFront := .finite ProfileConfig.default.footprintFront
  footprintRear := .finite ProfileConfig.default.footprintRear
  footprintHalfWidth := .finite ProfileConfig.default.footprintHalfWidth
  brakingLinear := .finite ProfileConfig.default.brakingLinear
  brakingConstant := .finite ProfileConfig.default.brakingConstant
  reactionTime := .finite ProfileConfig.default.reactionTime
  recoveryAccelerationGain := .finite ProfileConfig.default.recoveryAccelerationGain
  recoveryAccelerationFloor := .finite ProfileConfig.default.recoveryAccelerationFloor
  minimumPoseStep := .finite ProfileConfig.default.minimumPoseStep
  directionProjectionThreshold := .finite ProfileConfig.default.directionProjectionThreshold

/-- `readSpeedPolicyParameters`: all values, or the defaults unless there are sixteen doubles. -/
def readSpeedPolicyParameters (response : List ParameterValue) : ProfileConfig (Double ℚ) :=
  match (response.mapM ParameterValue.double?).map fun values => values.map toDouble with
  | some [minimumTraversalSpeed, tightClearance, openClearance, clearanceCurveFamily,
      clearanceCurveShape, approachTime, curvatureWindow, maxLateralAcceleration, footprintFront,
      footprintRear, footprintHalfWidth, brakingLinear, brakingConstant, reactionTime,
      recoveryAccelerationGain, recoveryAccelerationFloor] =>
    { defaultProfile with
      minimumTraversalSpeed, tightClearance, openClearance, clearanceCurveFamily
      clearanceCurveShape, approachTime, curvatureWindow, maxLateralAcceleration, footprintFront
      footprintRear, footprintHalfWidth, brakingLinear, brakingConstant, reactionTime
      recoveryAccelerationGain, recoveryAccelerationFloor }
  | _ => defaultProfile

/-- The parameters that are written to the navigator, as it returns them. -/
def navigatorParameters (snapshot : TuningSnapshot) : List (String × ParameterValue) :=
  valuesForOwner (fun field => .double (.finite (snapshot field))) .navigator

/-- The configuration of the path speed profile after the write. -/
def speedPolicy (snapshot : TuningSnapshot) : ProfileConfig (Double ℚ) :=
  readSpeedPolicyParameters ((navigatorParameters snapshot).map (·.2))

theorem curveFamily_bounds {family : ℚ} (h : family ∈ ([0, 1, 2] : List ℚ)) :
    0 ≤ family ∧ family ≤ 2 ∧ (⌊family⌋ : ℚ) = family := by
  simp only [List.mem_cons, List.not_mem_nil, or_false] at h
  obtain rfl | rfl | rfl := h
  all_goals decide +kernel

/-- The configuration of every acceptable snapshot is valid. -/
theorem validConfig_speedPolicy {snapshot : TuningSnapshot} (h : Acceptable snapshot) :
    validConfig (speedPolicy snapshot) = true := by
  obtain ⟨hFamilyMin, hFamilyMax, hFamily⟩ := curveFamily_bounds h.curveFamily
  have hPositive : ∀ field, field ∉ notPositiveFields → 0 < snapshot field := h.positive
  have hValid : ({
      minimumTraversalSpeed := snapshot .minimumTraversalSpeed
      tightClearance := snapshot .tightClearance
      openClearance := snapshot .openClearance
      clearanceCurveFamily := snapshot .clearanceCurveFamily
      clearanceCurveShape := snapshot .clearanceCurveShape
      approachTime := snapshot .approachTimeS
      curvatureWindow := snapshot .curvatureWindow
      maxLateralAcceleration := snapshot .maxLateralAcceleration
      footprintFront := snapshot .footprintFront
      footprintRear := snapshot .footprintRear
      footprintHalfWidth := snapshot .footprintHalfWidth
      brakingLinear := snapshot .brakingLinear
      brakingConstant := snapshot .brakingConstant
      reactionTime := snapshot .reactionTimeS
      recoveryAccelerationGain := snapshot .recoveryAccelerationGain
      recoveryAccelerationFloor := snapshot .recoveryAccelerationFloor
      minimumPoseStep := ProfileConfig.default.minimumPoseStep
      directionProjectionThreshold :=
        ProfileConfig.default.directionProjectionThreshold } : ProfileConfig ℚ).Valid :=
    ⟨hPositive _ (by decide), h.nonnegative _ (by decide), h.clearance, hFamilyMin, hFamilyMax,
      hFamily, hPositive _ (by decide), h.nonnegative _ (by decide), hPositive _ (by decide),
      hPositive _ (by decide), hPositive _ (by decide), h.nonnegative _ (by decide),
      hPositive _ (by decide), hPositive _ (by decide), hPositive _ (by decide),
      h.nonnegative _ (by decide), hPositive _ (by decide), hPositive _ (by decide),
      (by decide +kernel : (0 : ℚ) < ProfileConfig.default.minimumPoseStep),
      (by decide +kernel : (0 : ℚ) < ProfileConfig.default.directionProjectionThreshold),
      (by decide +kernel : ProfileConfig.default.directionProjectionThreshold < (1 : ℚ))⟩
  unfold validConfig validConfigImpl
  change (dite _ _ _ : Option _).isSome = true
  rw [dif_pos hValid]
  rfl

/-! ## Both owners -/

/-- Every accepted snapshot makes a valid configuration of the path speed profile, and the adapter
accepts its part of it exactly if the speed ceiling reaches the minimum moving speed. The bounds of
the schema imply those of the profile (`validConfig_speedPolicy`) and all of the adapter's but the
one on the ceiling (`withSnapshot_error?_iff`). -/
theorem owners_accept_iff (lib : DriveLibrary) (adapter : DriveAdapter) (values : PyDict)
    (snapshot : TuningSnapshot) (hAdapter : adapter.config.error? lib = none)
    (hStatic : HasDefaultStatic adapter.config) (hValid : validateValues values = .ok snapshot) :
    ((∃ next, adapter.setLiveParameters lib (adapterUpdates snapshot) = .ok next) ∧
      validConfig (speedPolicy snapshot) = true) ↔
        1 / 4 ≤ snapshot .maximumCommandedSpeed := by
  have hAccepted := (validateValues_ok hValid).2
  rw [setLiveParameters_adapterUpdates, withSnapshot_error?_iff hAdapter hStatic hAccepted]
  exact and_iff_left (validConfig_speedPolicy hAccepted)

/-- A complete snapshot with this speed as its ceiling. -/
def valuesAt (speed : ℚ) : PyDict :=
  [ ("desired_linear_vel", .float (.finite speed)),
    ("regulated_linear_scaling_min_speed", .float (.finite speed)),
    ("regulated_linear_scaling_min_radius", .float (.finite (3 / 4))),
    ("min_lookahead_dist", .float (.finite (1 / 4))),
    ("max_lookahead_dist", .float (.finite (3 / 4))),
    ("lookahead_time", .int 1),
    ("max_allowed_time_to_collision_up_to_carrot", .float (.finite (1 / 2))),
    ("maximum_commanded_speed", .float (.finite speed)),
    ("proportional_gain", .float (.finite (1 / 16))),
    ("integral_gain", .float (.finite 0)),
    ("feedforward_effort_per_speed", .float (.finite (1 / 8))),
    ("feedforward_effort_intercept", .float (.finite (1 / 64))),
    ("output_max", .float (.finite (1 / 4))),
    ("minimum_traversal_speed", .float (.finite (1 / 8))),
    ("tight_clearance", .float (.finite (1 / 16))),
    ("open_clearance", .float (.finite (3 / 4))),
    ("clearance_curve_family", .float (.finite 2)),
    ("clearance_curve_shape", .float (.finite 1)),
    ("approach_time_s", .float (.finite 0)),
    ("curvature_window", .float (.finite (1 / 2))),
    ("max_lateral_acceleration", .float (.finite (3 / 8))),
    ("footprint_front", .float (.finite (1 / 4))),
    ("footprint_rear", .float (.finite (1 / 16))),
    ("footprint_half_width", .float (.finite (1 / 8))),
    ("braking_linear", .float (.finite (3 / 2))),
    ("braking_constant", .float (.finite (1 / 4))),
    ("reaction_time_s", .float (.finite (1 / 2))),
    ("recovery_acceleration_gain", .float (.finite (3 / 2))),
    ("recovery_acceleration_floor", .float (.finite (1 / 2))),
    ("cost_penalty", .float (.finite 2)) ]

/-- The double nearest to π; its tangents are not asked for here. -/
def piLibrary : DriveLibrary where
  atan _ := 0
  tan _ := 0
  pi := 884279719003555 / 281474976710656

theorem default_config_valid : AdapterConfig.default.error? piLibrary = none := by
  decide +kernel

theorem validateValues_valuesAt {speed : ℚ}
    (h : (validateValues (valuesAt speed)).toOption.isSome = true) :
    validateValues (valuesAt speed) = .ok (normalized (valuesAt speed)) := by
  cases hValues : validateValues (valuesAt speed) with
  | error error =>
    rw [hValues] at h
    exact nomatch h
  | ok snapshot => rw [(validateValues_ok hValues).1]

/-- A snapshot with a ceiling of 1 m/s is accepted by both owners. -/
theorem owners_accept_iff_one :
    (∃ next, DriveAdapter.setLiveParameters piLibrary { config := .default }
      (adapterUpdates (normalized (valuesAt 1))) = .ok next) ∧
      validConfig (speedPolicy (normalized (valuesAt 1))) = true :=
  (owners_accept_iff piLibrary { config := .default } (valuesAt 1) _ default_config_valid
    (fun _ => rfl) (validateValues_valuesAt (by decide +kernel))).mpr (by decide +kernel)

/-- The adapter rejects a snapshot with a ceiling of 3/16 m/s. -/
theorem slow_ceiling_rejected :
    ¬ ∀ (lib : DriveLibrary) (adapter : DriveAdapter) (values : PyDict) (snapshot : TuningSnapshot),
      adapter.config.error? lib = none → HasDefaultStatic adapter.config →
      validateValues values = .ok snapshot →
      (∃ next, adapter.setLiveParameters lib (adapterUpdates snapshot) = .ok next) ∧
        validConfig (speedPolicy snapshot) = true := by
  intro hAll
  obtain ⟨hAdapter, -⟩ := hAll piLibrary { config := .default } (valuesAt (3 / 16)) _
    default_config_valid (fun _ => rfl) (validateValues_valuesAt (by decide +kernel))
  rw [setLiveParameters_adapterUpdates] at hAdapter
  exact absurd hAdapter (by decide +kernel)

end PreRunner.Tuning
