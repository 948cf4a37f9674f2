import PreRunner.Interfaces
import PreRunner.Drive.DriveAdapter

/-!
# The drive adapter node

`DriveAdapterNode` feeds the adapter from its subscriptions and publishes each conversion on the
topic of the source that was selected when the command came in. While a manual demand is selected
Nav2 commands are dropped; revoking it discards the command.
-/

namespace PreRunner.Drive

/-- The fields of the node. -/
structure DriveAdapterNode where
  adapter : DriveAdapter
  manualActive : Bool := false
  manualProvenance : Option Provenance := none
  deriving DecidableEq, Repr

/-- What the node publishes as commands. -/
inductive AdapterOutput where
  | autonomy (command : Twist)
  | manual (command : ConvertedCommand)
  deriving DecidableEq, Repr

/-- The converted manual demand among the outputs. -/
def AdapterOutput.conversion? : AdapterOutput → Option ConvertedCommand
  | .manual command => some command
  | .autonomy _ => none

/-- The callbacks of the node with the clock they read. -/
inductive AdapterEvent where
  | command (message : Twist) (now : ℚ)
  | manualDemand (message : ManualDemandMessage) (now : ℚ)
  | motion (linearX : PyFloat) (now : ℚ)
  | encoder (edgeRate : PyFloat) (pendingDirection : Int) (sampleTime now : ℚ)
  | activeMode (data : String) (now : ℚ)
  | muxOutput (linearX angularZ : PyFloat) (now : ℚ)
  | parameters (values : List (String × PyValue))
  | publish (now : ℚ)
  | shutdown

/-- The callback of the manual demands. -/
def AdapterEvent.isManualDemand : AdapterEvent → Bool
  | .manualDemand .. => true
  | _ => false

namespace DriveAdapterNode

/-- The parameters the constructor declares. -/
def configParameterNames : List String :=
  ["wheelbase", "max_steering_angle", "feedforward_effort_per_speed",
    "feedforward_effort_intercept", "minimum_moving_speed", "maximum_commanded_speed",
    "proportional_gain", "integral_gain", "integrator_bound", "output_min", "output_max",
    "encoder_metres_per_edge", "wheelspin_speed_ratio", "wheelspin_min_speed_excess",
    "wheelspin_qualification_sec", "motion_signal_timeout_sec", "encoder_state_timeout_sec",
    "cmd_vel_nav_timeout", "active_mode_timeout_sec", "publication_rate"]

/-- The node with validated parameters. -/
def start (config : AdapterConfig) : DriveAdapterNode := { adapter := { config } }

/-- `_on_command`. -/
def onCommand (node : DriveAdapterNode) (message : Twist) (now : ℚ) : DriveAdapterNode :=
  if node.manualActive then node
  else { node with adapter := node.adapter.updateCommand message.linearX message.angularZ now }

/-- Select or explicitly revoke the manual source. -/
def onManualDemand (node : DriveAdapterNode) (message : ManualDemandMessage) (now : ℚ) :
    DriveAdapterNode :=
  if message.active then
    { manualActive := true
      manualProvenance := some message.provenance
      adapter := node.adapter.updateManualCommand message.signedSpeedMps
        message.steeringNormalized now }
  else
    { manualActive := false
      manualProvenance := none
      adapter := node.adapter.invalidateCommand }

/-- `_on_parameters`: the node, and the result with the reason of a refusal. Of a name that comes
more than once the last value counts. -/
def onParameters (lib : DriveLibrary) (node : DriveAdapterNode)
    (parameters : List (String × PyValue)) : DriveAdapterNode × Except String Unit :=
  let static := (parameters.map (·.1)).filter fun name =>
    name ∈ configParameterNames ∧ name ∉ liveTunableParameters
  if static ≠ [] then
    (node, .error ("parameters are not live-tunable: " ++
      ", ".intercalate (static.dedup.mergeSort fun a b => a ≤ b)))
  else
    let changes : PyDict := (parameters.filter (·.1 ∈ liveTunableParameters)).foldl
      (fun changes parameter => changes.assign parameter.1 parameter.2) []
    if changes = [] then (node, .ok ())
    else
      match node.adapter.setLiveParameters lib changes with
      | .error error => (node, .error error.text)
      | .ok adapter => ({ node with adapter }, .ok ())

/-- The command of a decision. -/
def output (decision : AdapterDecision) : Twist :=
  { linearX := .finite decision.finalThrottle, angularZ := .finite decision.normalizedSteering }

/-- `_publish`: one control step, and its command on the topic of the selected source. -/
def publish (lib : DriveLibrary) (node : DriveAdapterNode) (now : ℚ) :
    DriveAdapterNode × List AdapterOutput :=
  let (adapter, decision) := node.adapter.step lib now
  if !decision.publishCommand then ({ node with adapter }, [])
  else
    let published := match node.manualActive, node.manualProvenance with
      | true, some provenance =>
        AdapterOutput.manual
          { source := ConvertedCommand.sourcePaddockManual
            provenance
            command := output decision }
      | _, _ => AdapterOutput.autonomy (output decision)
    ({ node with
        adapter := adapter.updateAdapterOutput (.finite decision.finalThrottle)
          (.finite decision.normalizedSteering) now },
      [published])

/-- The node after one callback, and the commands it publishes. -/
def receive (lib : DriveLibrary) (node : DriveAdapterNode) :
    AdapterEvent → DriveAdapterNode × List AdapterOutput
  | .command message now => (node.onCommand message now, [])
  | .manualDemand message now => (node.onManualDemand message now, [])
  | .motion linearX now => ({ node with adapter := node.adapter.updateMotion linearX now }, [])
  | .encoder edgeRate pendingDirection sampleTime now =>
    ({ node with
        adapter := node.adapter.updateEncoder edgeRate pendingDirection now
          (some (.finite sampleTime)) }, [])
  | .activeMode data now => ({ node with adapter := node.adapter.updateActiveMode data now }, [])
  | .muxOutput linearX angularZ now =>
    ({ node with adapter := node.adapter.updateMuxOutput linearX angularZ now }, [])
  | .parameters values => ((node.onParameters lib values).1, [])
  | .publish now => node.publish lib now
  | .shutdown => ({ node with adapter := node.adapter.shutdown }, [])

/-! ## What leaves the selection alone -/

/-- The selected source is the same, and its command is the same or gone. -/
structure SameSelection (node next : DriveAdapterNode) : Prop where
  active : next.manualActive = node.manualActive
  provenance : next.manualProvenance = node.manualProvenance
  direct : next.adapter.commandUsesDirectSteering = node.adapter.commandUsesDirectSteering
  command : ∀ command, next.adapter.command = some command → node.adapter.command = some command

theorem SameSelection.of_sameCommand {node : DriveAdapterNode} {adapter : DriveAdapter}
    (h : DriveAdapter.SameCommand node.adapter adapter) :
    SameSelection node { node with adapter } :=
  ⟨rfl, rfl, h.direct, fun _ hCommand => h.command.symm.trans hCommand⟩

theorem onParameters_sameSelection (lib : DriveLibrary) (node : DriveAdapterNode)
    (parameters : List (String × PyValue)) :
    SameSelection node (node.onParameters lib parameters).1 := by
  have hSame : SameSelection node node := .of_sameCommand (.refl node.adapter)
  unfold onParameters
  dsimp only
  split
  · exact hSame
  · split
    · exact hSame
    · split
      · exact hSame
      · rename_i adapter hAdapter
        exact .of_sameCommand (DriveAdapter.setLiveParameters_sameCommand hAdapter)

theorem publish_sameSelection (lib : DriveLibrary) (node : DriveAdapterNode) (now : ℚ) :
    SameSelection node (node.publish lib now).1 := by
  have hStep := DriveAdapter.step_sameCommand lib node.adapter now
  unfold publish
  dsimp only
  split
  · exact .of_sameCommand hStep
  · exact .of_sameCommand (hStep.trans ⟨rfl, rfl⟩)

/-- Only a command and a manual demand change the selection. -/
theorem receive_sameSelection (lib : DriveLibrary) (node : DriveAdapterNode) (event : AdapterEvent)
    (hCommand : ∀ message now, event ≠ .command message now)
    (hDemand : ∀ message now, event ≠ .manualDemand message now) :
    SameSelection node (node.receive lib event).1 := by
  cases event with
  | command message now => exact absurd rfl (hCommand message now)
  | manualDemand message now => exact absurd rfl (hDemand message now)
  | motion linearX now => exact .of_sameCommand ⟨rfl, rfl⟩
  | encoder edgeRate pendingDirection sampleTime now => exact .of_sameCommand ⟨rfl, rfl⟩
  | activeMode data now => exact .of_sameCommand ⟨rfl, rfl⟩
  | muxOutput linearX angularZ now => exact .of_sameCommand ⟨rfl, rfl⟩
  | parameters values => exact onParameters_sameSelection lib node values
  | publish now => exact publish_sameSelection lib node now
  | shutdown => exact ⟨rfl, rfl, rfl, nofun⟩

/-- A published command is the output of the control step of the same cycle. -/
theorem mem_publish {lib : DriveLibrary} {node : DriveAdapterNode} {now : ℚ}
    {output : AdapterOutput} (h : output ∈ (node.publish lib now).2) :
    (node.adapter.step lib now).2.publishCommand = true ∧
      ((∃ provenance, node.manualActive = true ∧ node.manualProvenance = some provenance ∧
          output = .manual ⟨ConvertedCommand.sourcePaddockManual, provenance,
            DriveAdapterNode.output (node.adapter.step lib now).2⟩) ∨
        ((node.manualActive = false ∨ node.manualProvenance = none) ∧
          output = .autonomy (DriveAdapterNode.output (node.adapter.step lib now).2))) := by
  unfold publish at h
  dsimp only at h
  split at h
  · cases h
  · rename_i hPublish
    rw [Bool.not_eq_true, Bool.not_eq_false'] at hPublish
    refine ⟨hPublish, ?_⟩
    have hOutput := List.mem_singleton.mp h
    cases hActive : node.manualActive with
    | false =>
      rw [hActive] at hOutput
      exact Or.inr ⟨Or.inl rfl, hOutput⟩
    | true =>
      rw [hActive] at hOutput
      cases hProvenance : node.manualProvenance with
      | none =>
        rw [hProvenance] at hOutput
        exact Or.inr ⟨Or.inr rfl, hOutput⟩
      | some provenance =>
        rw [hProvenance] at hOutput
        exact Or.inl ⟨provenance, rfl, rfl, hOutput⟩

/-- Only the control cycle publishes commands. -/
theorem mem_receive {lib : DriveLibrary} {node : DriveAdapterNode} {event : AdapterEvent}
    {output : AdapterOutput} (h : output ∈ (node.receive lib event).2) :
    ∃ now, event = .publish now ∧ output ∈ (node.publish lib now).2 := by
  cases event with
  | publish now => exact ⟨now, rfl, h⟩
  | _ => cases h

end DriveAdapterNode

end PreRunner.Drive
