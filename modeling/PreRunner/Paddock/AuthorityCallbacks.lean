import PreRunner.Paddock.AuthorityOutputs

/-!
# The callbacks of the command authority as supervisor calls

Every callback of the authority is a sequence of supervisor calls, with changes in between that
publish neither a manual demand nor a status (`Callback`, `receive_callback`). What relates a node
to its published demands or statuses is proved for one call and one such change.
-/

namespace PreRunner.Paddock

open Bringup

def AuthorityOutput.status? : AuthorityOutput → Option CommandAuthorityState
  | .status authority _ => some authority
  | _ => none

/-- The callback of the mode states. -/
def AuthorityEvent.isMode : AuthorityEvent → Bool
  | .mode .. => true
  | _ => false

namespace CommandAuthority

/-- The supervisor, the runtime epoch and the asserted demand are the same, and neither a demand
nor a status is published. -/
structure Quiet (node : CommandAuthority) (out : CommandAuthority × List AuthorityOutput) :
    Prop where
  supervisor : out.1.supervisor = node.supervisor
  epoch : out.1.runtimeEpoch = node.runtimeEpoch
  asserted : out.1.manualDemandAsserted = node.manualDemandAsserted
  demands : ∀ output ∈ out.2, output.demand? = none
  statuses : ∀ output ∈ out.2, output.status? = none

/-- What a callback is composed of. -/
inductive Callback (lib : NavLibrary) :
    CommandAuthority → CommandAuthority × List AuthorityOutput → Prop
  | quiet {node : CommandAuthority} {out : CommandAuthority × List AuthorityOutput}
      (hQuiet : Quiet node out) : Callback lib node out
  | supervise (node : CommandAuthority) (call : Call) (now : ℚ) (input : ApplyInput)
      (hCall : call.keepsRuntime = true) : Callback lib node (node.supervise lib call now input)
  | append {node : CommandAuthority} {first second : CommandAuthority × List AuthorityOutput}
      (hFirst : Callback lib node first) (hSecond : Callback lib first.1 second) :
      Callback lib node (second.1, first.2 ++ second.2)

variable {lib : NavLibrary} {node : CommandAuthority}

theorem Quiet.of_silent {next : CommandAuthority} (hSupervisor : next.supervisor = node.supervisor)
    (hEpoch : next.runtimeEpoch = node.runtimeEpoch)
    (hAsserted : next.manualDemandAsserted = node.manualDemandAsserted) :
    Quiet node (next, []) :=
  ⟨hSupervisor, hEpoch, hAsserted, fun _ h => absurd h List.not_mem_nil,
    fun _ h => absurd h List.not_mem_nil⟩

theorem Quiet.of_single {next : CommandAuthority} {output : AuthorityOutput}
    (hSupervisor : next.supervisor = node.supervisor)
    (hEpoch : next.runtimeEpoch = node.runtimeEpoch)
    (hAsserted : next.manualDemandAsserted = node.manualDemandAsserted)
    (hDemand : output.demand? = none) (hStatus : output.status? = none) :
    Quiet node (next, [output]) :=
  ⟨hSupervisor, hEpoch, hAsserted, fun _ h => List.mem_singleton.mp h ▸ hDemand,
    fun _ h => List.mem_singleton.mp h ▸ hStatus⟩

/-- A supervisor call on the node after a silent change. -/
theorem Callback.supervise_after (node next : CommandAuthority) (call : Call) (now : ℚ)
    (input : ApplyInput) (hQuiet : Quiet node (next, [])) (hCall : call.keepsRuntime = true) :
    Callback lib node (next.supervise lib call now input) :=
  .append (.quiet hQuiet) (.supervise next call now input hCall)

theorem onConfigRequest_callback (node : CommandAuthority) (message : ConfigRequest) :
    Callback lib node (node.onConfigRequest message) := by
  have hOut : ∀ before next : CommandAuthority, next.supervisor = before.supervisor →
      next.runtimeEpoch = before.runtimeEpoch →
      next.manualDemandAsserted = before.manualDemandAsserted →
      Callback lib before (next, [.config next.configState]) :=
    fun before next hSupervisor hEpoch hAsserted =>
      .quiet (.of_single hSupervisor hEpoch hAsserted rfl rfl)
  unfold onConfigRequest
  dsimp only
  split
  · exact hOut node _ rfl rfl rfl
  · split
    · exact hOut node _ rfl rfl rfl
    · split
      · exact hOut node _ rfl rfl rfl
      · cases hSet : node.supervisor.setManualMaxSpeedMps message.value with
        | none => exact hOut node _ rfl rfl rfl
        | some supervisor =>
          dsimp only
          have hCall : (node.supervise lib (.setManualMaxSpeedMps message.value) 0
              ⟨0, 0, ⟨List.replicate 16 0, rfl⟩⟩) = ({ node with supervisor }, []) := by
            unfold supervise CommandSupervisor.perform
            dsimp only
            rw [hSet]
            rfl
          have hFirst := @Callback.supervise lib node
            (.setManualMaxSpeedMps message.value) 0 ⟨0, 0, ⟨List.replicate 16 0, rfl⟩⟩ rfl
          rw [hCall] at hFirst
          have hAnswer : ∀ next : CommandAuthority,
              Callback lib { node with supervisor } (next, [.config next.configState]) →
              Callback lib node (next, [.config next.configState]) :=
            fun next hNext => hFirst.append hNext
          exact hAnswer _ (hOut _ _ rfl rfl rfl)

theorem onControlEvent_callback (node : CommandAuthority) (message : ControlMessage)
    (now freshNow requestNow : ℚ) (input : ApplyInput) :
    Callback lib node (node.onControlEvent lib message now freshNow requestNow input) := by
  have hCall : ∀ next : CommandAuthority, next.supervisor = node.supervisor →
      next.runtimeEpoch = node.runtimeEpoch →
      next.manualDemandAsserted = node.manualDemandAsserted →
      Callback lib node (CommandAuthority.apply lib
        { next with supervisor := (node.supervisor.handleControlEvent message now).1 }
        (node.supervisor.handleControlEvent message now).2 input) := by
    intro next hSupervisor hEpoch hAsserted
    rw [← hSupervisor]
    exact .supervise_after node next (.handleControlEvent message) now input
      (.of_silent hSupervisor hEpoch hAsserted) rfl
  unfold onControlEvent
  generalize hOut : node.supervisor.handleControlEvent message now = out at hCall
  dsimp only
  split
  · rename_i stopped hIntent
    have hRequest : Callback lib node (node.requestStop stopped requestNow) := by
      unfold requestStop
      exact .quiet (.of_single rfl rfl rfl rfl rfl)
    refine hRequest.append ?_
    have hSecond := @Callback.supervise lib (node.requestStop stopped requestNow).1
      (.handleControlEvent message) now input rfl
    unfold supervise at hSecond
    change Callback lib _ (CommandAuthority.apply lib { (node.requestStop stopped requestNow).1 with
      supervisor := (node.supervisor.handleControlEvent message now).1 }
      (node.supervisor.handleControlEvent message now).2 input) at hSecond
    rw [hOut] at hSecond
    exact hSecond
  · exact hCall node rfl rfl rfl

theorem onRawManual_callback (node : CommandAuthority) (message : ConvertedCommand) (now : ℚ)
    (input : ApplyInput) : Callback lib node (node.onRawManual lib message now input) := by
  unfold onRawManual
  split
  · exact .quiet (.of_silent rfl rfl rfl)
  · exact .supervise node _ now input rfl

theorem onStopState_callback (node : CommandAuthority) (message : StopState) (now : ℚ) :
    Callback lib node (node.onStopState message now, []) := by
  refine .quiet ?_
  unfold onStopState
  dsimp only
  split
  · exact .of_silent rfl rfl rfl
  · repeat' split
    all_goals exact .of_silent rfl rfl rfl

theorem onLocalControl_callback (node : CommandAuthority) (message : LocalControlState) (now : ℚ)
    (edgeInput input : ApplyInput) :
    Callback lib node (node.onLocalControl lib message now edgeInput input) := by
  unfold onLocalControl
  extract_lets identity started
  have hEdge : Callback lib node
      (if started.localControlIdentity = some identity then (started, [])
      else
        let next := { started with localControlIdentity := some identity }
        if next.dualsenseActive then (next, [])
        else
          { next with dualsenseActive := true }.supervise lib (.setDualsenseActive true) now
            edgeInput) := by
    split
    · exact .quiet (.of_silent rfl rfl rfl)
    · dsimp only
      split
      · exact .quiet (.of_silent rfl rfl rfl)
      · exact .supervise_after node
          { started with localControlIdentity := some identity, dualsenseActive := true }
          (.setDualsenseActive true) now edgeInput (.of_silent rfl rfl rfl) rfl
  generalize hFirst : ite (started.localControlIdentity = some identity) _ _ = first at hEdge ⊢
  dsimp only
  split
  · exact hEdge
  · exact hEdge.append (.supervise_after first.1 { first.1 with dualsenseActive := message.active }
      (.setDualsenseActive message.active) now input (.of_silent rfl rfl rfl) rfl)

theorem onSupervisionTimer_callback (node : CommandAuthority) (now : ℚ)
    (watchInput input : ApplyInput) :
    Callback lib node (node.onSupervisionTimer lib now watchInput input) := by
  have hRepeat : Callback lib node (node.repeatStopRequest now) := by
    unfold repeatStopRequest
    split
    · exact .quiet (.of_silent rfl rfl rfl)
    · split
      · exact .quiet (.of_single rfl rfl rfl rfl rfl)
      · exact .quiet (.of_silent rfl rfl rfl)
  have hWatch : ∀ next : CommandAuthority,
      Callback lib next (next.watchLocalControl lib now watchInput) := by
    intro next
    unfold watchLocalControl
    split
    · exact .supervise_after next { next with dualsenseActive := true }
        (.setDualsenseActive true) now watchInput (.of_silent rfl rfl rfl) rfl
    · exact .quiet (.of_silent rfl rfl rfl)
  have hWatched := hRepeat.append (hWatch (node.repeatStopRequest now).1)
  have hTick := @Callback.supervise lib
    ((node.repeatStopRequest now).1.watchLocalControl lib now watchInput).1 .tick now input rfl
  exact hWatched.append hTick

/-- Every callback but `_on_mode`. -/
theorem receive_callback (lib : NavLibrary) (node : CommandAuthority) (event : AuthorityEvent)
    (hMode : event.isMode = false) : Callback lib node (node.receive lib event) := by
  cases event with
  | rawAutonomy message now input =>
    exact .supervise node (.receiveRawAutonomy (fromTwist message)) now input rfl
  | configRequest message => exact onConfigRequest_callback node message
  | controlEvent message now freshNow requestNow input =>
    exact onControlEvent_callback node message now freshNow requestNow input
  | rawManual message now input => exact onRawManual_callback node message now input
  | stopState message now => exact onStopState_callback node message now
  | mode message now input => cases hMode
  | localControl message now edgeInput input =>
    exact onLocalControl_callback node message now edgeInput input
  | supervisionTimer now watchInput input =>
    exact onSupervisionTimer_callback node now watchInput input
  | navigationState state now => exact .quiet (.of_silent rfl rfl rfl)

end CommandAuthority

end PreRunner.Paddock
