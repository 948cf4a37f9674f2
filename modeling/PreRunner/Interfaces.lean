import PreRunner.PyFloat

/-!
# Values shared by several nodes

The fields of `runner_interfaces` messages that the modelled callbacks read, and identifiers.
-/

namespace PreRunner

/-- `ModeState`: the snapshot of the mode supervisor. -/
structure ModeState where
  mode : Int
  status : Int
  activeAutonomyMap : String
  runtimeEpoch : Int
  ready : Bool
  deriving DecidableEq, Repr

namespace ModeState

def modeAutonomy : Int := 2
def statusStable : Int := 0

end ModeState

/-- `geometry_msgs/Twist`. -/
structure Twist where
  linearX : PyFloat := .finite 0
  linearY : PyFloat := .finite 0
  linearZ : PyFloat := .finite 0
  angularX : PyFloat := .finite 0
  angularY : PyFloat := .finite 0
  angularZ : PyFloat := .finite 0
  deriving DecidableEq, Repr

/-- What identifies a manual demand across the nodes. -/
structure Provenance where
  sequence : Int
  leaseGeneration : Int
  runtimeEpoch : Int
  deriving DecidableEq, Repr

/-- The message `ManualDemand`. -/
structure ManualDemandMessage where
  active : Bool
  provenance : Provenance
  signedSpeedMps : PyFloat
  steeringNormalized : PyFloat
  deriving DecidableEq, Repr

/-- `ConvertedCommand`: the output of the drive adapter for one source. -/
structure ConvertedCommand where
  source : Int
  provenance : Provenance
  command : Twist
  deriving DecidableEq, Repr

namespace ConvertedCommand

def sourceAutonomy : Int := 0
def sourcePaddockManual : Int := 1

end ConvertedCommand

/-- The sixteen bytes of an identifier. -/
structure Uuid where
  bytes : List UInt8
  size : bytes.length = 16
  deriving DecidableEq, Repr

/-- `bytes(uuid).hex()`. -/
def Uuid.hex (uuid : Uuid) : String :=
  String.ofList (uuid.bytes.flatMap fun byte =>
    [Nat.digitChar (byte.toNat / 16), Nat.digitChar (byte.toNat % 16)])

theorem Uuid.hex_ne_empty (uuid : Uuid) : uuid.hex ≠ "" := by
  obtain ⟨bytes, hSize⟩ := uuid
  cases bytes with
  | nil => cases hSize
  | cons byte bytes =>
    intro hEmpty
    have hChars := congrArg String.toList hEmpty
    rw [Uuid.hex, String.toList_ofList] at hChars
    cases hChars

end PreRunner
