import PreRunner.Profile.PathBits
import PreRunner.PyValue

/-!
# The identity of a path, in Python

The state node recomputes the identity that the controller gives to a path, to match profiles with
plans. It works on Python's unbounded integers and masks after every byte. On paths of finite
components both identities are FNV-1a over the same bytes. This module follows `_path_identity` of
`runner_paddock/ros_state_node.py`.
-/

namespace PreRunner.Paddock

open Profile Runs

/-- `_finite`. -/
def finite (values : List Binary64) : Except PyError Unit :=
  if values.all Binary64.isFinite then .ok () else .error .valueError

/-- `add_bytes`, on the integer that it changes. -/
def addBytes (value : ℕ) (data : List UInt8) : ℕ :=
  data.foldl (fun value byte =>
    ((value ^^^ byte.toNat) * 1099511628211) &&& 0xffffffffffffffff) value

/-- `n.to_bytes(length, byteorder='little')`. -/
def toBytes (n length : ℕ) : Except PyError (List UInt8) :=
  if n < 256 ^ length then .ok (littleEndianBytes length n) else .error .overflowError

/-- `struct.pack('<d', number)`. -/
def pack (number : Binary64) : List UInt8 := littleEndianBytes 8 number.bits.toNat

/-- `_path_identity`. -/
def pathIdentity (message : BinaryPath) : Except PyError ℕ := do
  let value := addBytes 14695981039346656037 message.frameId.toUTF8.toList
  let value := addBytes value (← toBytes message.poses.length 8)
  message.poses.foldlM (fun value pose => do
    finite pose.components
    return pose.components.foldl (fun value number =>
      addBytes value (pack (if number.isZero then Binary64.zero else number))) value) value

/-! ## The same bytes -/

/-- A mask of 64 bits is a remainder. -/
theorem addBytes_eq (value : ℕ) (data : List UInt8) :
    addBytes value data = fnv1a 64 1099511628211 value data := by
  unfold addBytes fnv1a
  refine List.foldl_ext _ _ _ fun value byte _ => ?_
  exact Nat.and_two_pow_sub_one_eq_mod _ 64

theorem toBytes_of_size (message : BinaryPath) :
    toBytes message.poses.length 8 = .ok (littleEndianBytes 8 message.poses.length) :=
  if_pos message.size_lt

/-- The components of a pose, one after the other. -/
theorem addBytes_components (value : ℕ) (pose : Pose Binary64) :
    pose.components.foldl (fun value number =>
      addBytes value (pack (if number.isZero then Binary64.zero else number))) value =
        fnv1a 64 1099511628211 value (pose.components.flatMap fun number =>
          littleEndianBytes 8 number.normalized.bits.toNat) := by
  have hStep : ∀ (value : ℕ) (number : Binary64),
      addBytes value (pack (if number.isZero then Binary64.zero else number)) =
        fnv1a 64 1099511628211 value (littleEndianBytes 8 number.normalized.bits.toNat) :=
    fun value number => addBytes_eq value _
  exact foldl_eq_fnv1a (fun value => value) hStep pose.components value

/-- Where all components are finite the loop over the poses raises nothing. -/
theorem foldlM_finite {poses : List (Pose Binary64)}
    (hFinite : ∀ pose ∈ poses, ∀ value ∈ pose.components, value.isFinite = true)
    (step : ℕ → Pose Binary64 → ℕ) (value : ℕ) :
    poses.foldlM (m := Except PyError) (fun value pose => do
      finite pose.components
      return step value pose) value = .ok (poses.foldl step value) := by
  induction poses generalizing value with
  | nil => rfl
  | cons pose rest ih =>
    have hPose : finite pose.components = .ok () :=
      if_pos (List.all_eq_true.mpr (hFinite pose List.mem_cons_self))
    rw [List.foldlM_cons, hPose]
    exact ih (fun other hOther => hFinite other (List.mem_cons_of_mem pose hOther)) _

theorem pathIdentity_eq (message : BinaryPath) (hFinite : message.Finite) :
    pathIdentity message = .ok message.fnvIdentity := by
  have hPoses := foldlM_finite hFinite fun value pose => pose.components.foldl (fun value number =>
    addBytes value (pack (if number.isZero then Binary64.zero else number))) value
  have hBytes := foldl_eq_fnv1a (fun value => value) addBytes_components message.poses
  unfold pathIdentity
  dsimp only
  rw [toBytes_of_size]
  refine (hPoses _).trans (congrArg Except.ok ((hBytes _).trans ?_))
  rw [addBytes_eq, addBytes_eq]
  unfold BinaryPath.fnvIdentity BinaryPath.identityBytes
  rw [fnv1a_append, fnv1a_append]

/-- The two identities of a path of finite components are one number, FNV-1a over one sequence of
bytes. Both hash the bytes of the same 64-bit patterns, lowest first (`pathIdentity_eq`). -/
theorem pathIdentity_agrees (message : BinaryPath) (hFinite : message.Finite) :
    pathIdentity message = .ok message.pathIdentity.toNat ∧
      message.pathIdentity.toNat =
        fnv1a 64 1099511628211 14695981039346656037 message.identityBytes := by
  have hWord := message.pathIdentity_toNat
  exact ⟨by rw [hWord, pathIdentity_eq message hFinite], hWord⟩

/-- Drive ahead by a metre. -/
def straightPath : BinaryPath where
  frameId := "map"
  stamp := ⟨1, 0⟩
  poses :=
    let one : Binary64 := ⟨0x3ff0000000000000⟩
    [⟨⟨.zero, .zero, .zero⟩, ⟨.zero, .zero, .zero, one⟩⟩,
      ⟨⟨one, .zero, .zero⟩, ⟨.zero, .zero, .zero, one⟩⟩]
  size_lt := by decide

theorem pathIdentity_agrees_straightPath :
    pathIdentity straightPath = .ok straightPath.pathIdentity.toNat ∧
      straightPath.pathIdentity.toNat =
        fnv1a 64 1099511628211 14695981039346656037 straightPath.identityBytes :=
  pathIdentity_agrees straightPath (by unfold BinaryPath.Finite; decide)

example : (pathIdentity straightPath).toOption = some 11122328123272432682 := by decide +kernel

end PreRunner.Paddock
