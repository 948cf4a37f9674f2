import PreRunner.Profile.PathSpeedProfile
import PreRunner.Runs.ByteHash

/-!
# The identity of a path, on bit patterns

`pathIdentity` hashes the bits of the pose components. A path message carries doubles as 64-bit
patterns here. The identity over exact values agrees with it whenever the bits of a value are
those of its double, with one pattern for both zeros.
-/

namespace PreRunner.Profile

open Runs

/-! ## Doubles as patterns -/

/-- The 64 bits of an IEEE double: a sign, eleven exponent bits and 52 fraction bits. -/
structure Binary64 where
  bits : UInt64
  deriving DecidableEq, Repr

namespace Binary64

/-- `0.0`. -/
def zero : Binary64 := ⟨0⟩

/-- `std::isfinite`, `math.isfinite`: the exponent bits are not all set. -/
def isFinite (x : Binary64) : Bool := (x.bits >>> 52) &&& 0x7ff != 0x7ff

/-- `x == 0.0`, true of both zeros. -/
def isZero (x : Binary64) : Bool := x.bits &&& 0x7fffffffffffffff == 0

/-- One pattern for both zeros. -/
def normalized (x : Binary64) : Binary64 := if x.isZero then zero else x

/-- `hashDouble`. -/
def hashDouble (hash : UInt64) (value : Binary64) : UInt64 :=
  hashBytes hash (littleEndian value.normalized.bits)

end Binary64

/-- The components of a pose, in the order in which they are hashed. -/
def Pose.components {α : Type} (pose : Pose α) : List α :=
  let p := pose.position
  let q := pose.orientation
  [p.x, p.y, p.z, q.x, q.y, q.z, q.w]

/-- A path message. The size of a vector is a `size_t`. -/
structure BinaryPath extends Path Binary64 where
  size_lt : poses.length < 2 ^ 64

/-- All pose components are finite. -/
def BinaryPath.Finite (path : BinaryPath) : Prop :=
  ∀ pose ∈ path.poses, ∀ value ∈ pose.components, value.isFinite = true

/-- `pathIdentity`. -/
def BinaryPath.pathIdentity (path : BinaryPath) : UInt64 :=
  let hash := hashBytes kFnvOffset path.frameId.toUTF8.toList
  let hash := hashBytes hash (littleEndian (UInt64.ofNat path.poses.length))
  path.poses.foldl (fun hash pose => pose.components.foldl Binary64.hashDouble hash) hash

/-! ## The bytes that are hashed -/

/-- The frame, the number of poses and the components of each pose. -/
def BinaryPath.identityBytes (path : BinaryPath) : List UInt8 :=
  path.frameId.toUTF8.toList ++ (littleEndianBytes 8 path.poses.length ++
    path.poses.flatMap fun pose => pose.components.flatMap fun value =>
      littleEndianBytes 8 value.normalized.bits.toNat)

/-- The identity is FNV-1a on 64 bits over these bytes. -/
def BinaryPath.fnvIdentity (path : BinaryPath) : ℕ :=
  fnv1a 64 1099511628211 14695981039346656037 path.identityBytes

/-- A word wraps around where the fold takes the remainder. -/
theorem hashBytes_toNat (hash : UInt64) (data : List UInt8) :
    (hashBytes hash data).toNat = fnv1a 64 1099511628211 hash.toNat data := by
  induction data generalizing hash with
  | nil => rfl
  | cons byte rest ih =>
    refine (ih _).trans (congrArg (fun word => fnv1a 64 _ word rest) ?_)
    rw [UInt64.toNat_mul, UInt64.toNat_xor, UInt8.toNat_toUInt64]
    rfl

theorem littleEndian_eq (bits : UInt64) : littleEndian bits = littleEndianBytes 8 bits.toNat := by
  rw [littleEndianBytes_eq_map]
  refine List.map_congr_left fun i hi => ?_
  have hRange := List.mem_range.mp hi
  have hShift : (UInt64.ofNat (8 * i)).toNat % 64 = 8 * i := by
    rw [UInt64.toNat_ofNat', Nat.mod_eq_of_lt (by omega), Nat.mod_eq_of_lt (by omega)]
  apply UInt8.toNat_inj.mp
  rw [UInt64.toNat_toUInt8, UInt64.toNat_shiftRight, hShift, UInt8.toNat_ofNat']

theorem Binary64.hashDouble_toNat (hash : UInt64) (value : Binary64) :
    (value.hashDouble hash).toNat =
      fnv1a 64 1099511628211 hash.toNat (littleEndianBytes 8 value.normalized.bits.toNat) := by
  unfold hashDouble
  rw [hashBytes_toNat, littleEndian_eq]

theorem BinaryPath.pathIdentity_toNat (path : BinaryPath) :
    path.pathIdentity.toNat = path.fnvIdentity := by
  have hPose : ∀ (hash : UInt64) (pose : Pose Binary64),
      (pose.components.foldl Binary64.hashDouble hash).toNat =
        fnv1a 64 1099511628211 hash.toNat (pose.components.flatMap fun value =>
          littleEndianBytes 8 value.normalized.bits.toNat) := fun hash pose =>
    foldl_eq_fnv1a UInt64.toNat Binary64.hashDouble_toNat pose.components hash
  unfold BinaryPath.pathIdentity BinaryPath.fnvIdentity BinaryPath.identityBytes
  dsimp only
  rw [foldl_eq_fnv1a UInt64.toNat hPose, hashBytes_toNat, hashBytes_toNat, littleEndian_eq,
    UInt64.toNat_ofNat_of_lt' path.size_lt, fnv1a_append, fnv1a_append]
  rfl

/-! ## Exact values -/

section Values

variable {K : Type} [Field K] [LinearOrder K]

def Pose.map {α β : Type} (f : α → β) (pose : Pose α) : Pose β :=
  let p := pose.position
  let q := pose.orientation
  ⟨⟨f p.x, f p.y, f p.z⟩, ⟨f q.x, f q.y, f q.z, f q.w⟩⟩

def Path.map {α β : Type} (f : α → β) (path : Path α) : Path β :=
  { frameId := path.frameId, stamp := path.stamp, poses := path.poses.map (Pose.map f) }

/-- The identity over exact values is that of the patterns. -/
theorem pathIdentity_values (lib : MathLibrary K) (value : Binary64 → K)
    (hBits : ∀ x : Binary64, x.isFinite = true → lib.bits (value x) = x.normalized.bits)
    {path : BinaryPath} (hFinite : path.Finite) :
    pathIdentity lib (path.toPath.map value) = path.pathIdentity := by
  have hPoses : ∀ hash, (path.poses.map (Pose.map value)).foldl (fun hash pose =>
      pose.components.foldl (hashDouble lib) hash) hash =
        path.poses.foldl (fun hash pose => pose.components.foldl Binary64.hashDouble hash)
          hash := by
    intro hash
    rw [List.foldl_map]
    refine List.foldl_ext _ _ _ fun hash pose hPose => ?_
    have hComponents : (pose.map value).components = pose.components.map value := rfl
    rw [hComponents, List.foldl_map]
    refine List.foldl_ext _ _ _ fun hash x hx => ?_
    unfold hashDouble Binary64.hashDouble
    rw [hBits x (hFinite pose hPose x hx)]
  unfold pathIdentity BinaryPath.pathIdentity Path.map
  dsimp only
  rw [List.length_map]
  exact hPoses _

end Values

end PreRunner.Profile
