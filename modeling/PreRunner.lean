import PreRunner.Runs.Absorption
import PreRunner.Maps.Semantics
import PreRunner.Profile.ProfileValidity
import PreRunner.Runs.Emission
import PreRunner.Runs.Program
import PreRunner.Motor.ReversalLink
import PreRunner.Encoder.StationaryEvidence
import PreRunner.Paddock.EffectTrace
import PreRunner.Paddock.ModeTransition
import PreRunner.Paddock.ModeSafety
import PreRunner.Paddock.RefusedEvents
import PreRunner.Paddock.AutonomyPermission
import PreRunner.Paddock.GatewayDelivery
import PreRunner.Paddock.GatewaySessions
import PreRunner.Bringup.MissionInvariant
import PreRunner.Bringup.GoalSafety
import PreRunner.Paddock.NavigationDispatch
import PreRunner.Paddock.StopRelease
import PreRunner.Paddock.ManualProvenance
import PreRunner.Paddock.QuiescenceBarrier
import PreRunner.Paddock.MappingEvidence
import PreRunner.Paddock.MapDeletion
import PreRunner.Paddock.SequenceOrder
import PreRunner.Paddock.LeaseEnd
import PreRunner.Paddock.DemandBounds
import PreRunner.Paddock.BrakeEvidence
import PreRunner.Paddock.StopIdempotence
import PreRunner.Paddock.StopRecord
import PreRunner.Drive.DriveSafety
import PreRunner.Paddock.StreamFidelity
import PreRunner.Recording.BagDeletion
import PreRunner.Recording.RecorderOwnership
import PreRunner.Profile.Anticipation
import PreRunner.Profile.SampledProfile
import PreRunner.Profile.FootprintClearance
import PreRunner.Profile.ObstacleDistance
import PreRunner.Paddock.RouteCommitment
import PreRunner.Profile.CuspSafety
import PreRunner.Maps.PngDecoding
import PreRunner.Maps.CatalogScan
import PreRunner.Paddock.SessionSaving
import PreRunner.Tuning.OwnerAcceptance
import PreRunner.Tuning.OverrideFile
import PreRunner.Tuning.ProfileStore
import PreRunner.Drive.FrozenTime
import PreRunner.Paddock.OutputGates
import PreRunner.Teleop.KeyboardRearm
import PreRunner.Tuning.TuningVerdicts
import PreRunner.Tuning.TuningSafety
import PreRunner.Paddock.GatewayOutcomes
import PreRunner.Paddock.PoseRuns
import PreRunner.Encoder.RateDecay
import PreRunner.Motor.PwmInitialization
import PreRunner.Bringup.ScanRebinner
import PreRunner.Bringup.EnvelopeTurns
import PreRunner.Commitment.BlockageEpisodes
import PreRunner.Maps.PersistedSemantics
import PreRunner.Lidar.PacketParser
import PreRunner.Maps.Migration
import PreRunner.Maps.MigrationSafety
