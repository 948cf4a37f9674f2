import PreRunner.Paddock.CommandAuthority
import PreRunner.Paddock.HeldDemand

/-!
# What the command authority publishes

`_apply` publishes the demand a call has taken, and forwards a manual command only when the call
returned one (`apply_demands`, `apply_manual`). Every callback is a sequence of supervisor calls,
so what holds between the supervisor and the published demands and survives each call survives
each callback (`receive_preserves`).
-/

namespace PreRunner.Paddock

open Bringup

def AuthorityOutput.demand? : AuthorityOutput → Option ManualDemandMessage
  | .manualDemand message => some message
  | _ => none

/-- The callback of the converted manual samples. -/
def AuthorityEvent.isRawManual : AuthorityEvent → Bool
  | .rawManual .. => true
  | _ => false

/-- The active demands among what was published, latest first. -/
def activeDemands (outputs : List AuthorityOutput) : List ManualDemandMessage :=
  ((outputs.filterMap AuthorityOutput.demand?).reverse).filter ManualDemandMessage.active

theorem activeDemands_append (outputs later : List AuthorityOutput) :
    activeDemands (outputs ++ later) = activeDemands later ++ activeDemands outputs := by
  simp [activeDemands]

theorem activeDemands_of_none {outputs : List AuthorityOutput}
    (h : ∀ output ∈ outputs, output.demand? = none) : activeDemands outputs = [] := by
  rw [activeDemands, List.filterMap_eq_nil_iff.mpr h]
  rfl

theorem AutonomyOutputGate.update_output {gate : AutonomyOutputGate} {now : ℚ} {permitted : Bool}
    {command : Option VelocityCommand} {output : VelocityCommand}
    (h : (gate.update now permitted command).2 = some output) :
    output = {} ∨ command = some output := by
  cases permitted with
  | true =>
    cases command with
    | none => cases h
    | some sample => exact Or.inr h
  | false =>
    refine Or.inl ?_
    unfold update at h
    dsimp only at h
    split at h
    · cases h
    · split at h <;> cases h
      rfl

namespace CommandAuthority

variable {lib : NavLibrary} {node : CommandAuthority} {result : SupervisorResult}
  {input : ApplyInput}

/-! ## Applying a result -/

@[simp] theorem applyDemand_supervisor (node : CommandAuthority) (result : SupervisorResult) :
    (node.applyDemand result).1.supervisor = node.supervisor := by
  unfold applyDemand
  split
  · rfl
  · split <;> rfl

@[simp] theorem applyDemand_runtimeEpoch (node : CommandAuthority) (result : SupervisorResult) :
    (node.applyDemand result).1.runtimeEpoch = node.runtimeEpoch := by
  unfold applyDemand
  split
  · rfl
  · split <;> rfl

@[simp] theorem publishState_supervisor (node : CommandAuthority) (result : SupervisorResult)
    (now : ℚ) : (node.publishState result now).1.supervisor = node.supervisor := by
  unfold publishState
  dsimp only
  split <;> rfl

@[simp] theorem publishState_runtimeEpoch (node : CommandAuthority) (result : SupervisorResult)
    (now : ℚ) : (node.publishState result now).1.runtimeEpoch = node.runtimeEpoch := by
  unfold publishState
  dsimp only
  split <;> rfl

theorem publishState_status {output : AuthorityOutput} {now : ℚ}
    (h : output ∈ (node.publishState result now).2) :
    ∃ authority lease, output = .status authority lease := by
  unfold publishState at h
  dsimp only at h
  split at h
  · cases h
  · exact ⟨_, _, List.mem_singleton.mp h⟩

/-- The node after `_apply` is that after the publication of the state. -/
theorem apply_node (lib : NavLibrary) (node : CommandAuthority) (result : SupervisorResult)
    (input : ApplyInput) :
    ∃ fifth : CommandAuthority, fifth.supervisor = (node.applyDemand result).1.supervisor ∧
      fifth.runtimeEpoch = (node.applyDemand result).1.runtimeEpoch ∧
      fifth.manualDemandAsserted = (node.applyDemand result).1.manualDemandAsserted ∧
      (node.apply lib result input).1 = (fifth.publishState result input.stateNow).1 := by
  refine ⟨_, ?_, ?_, ?_, rfl⟩
  · rfl
  · rfl
  · rfl

@[simp] theorem apply_supervisor (lib : NavLibrary) (node : CommandAuthority)
    (result : SupervisorResult) (input : ApplyInput) :
    (node.apply lib result input).1.supervisor = node.supervisor := by
  obtain ⟨fifth, hSupervisor, -, -, hApply⟩ := apply_node lib node result input
  rw [hApply, publishState_supervisor, hSupervisor, applyDemand_supervisor]

@[simp] theorem apply_runtimeEpoch (lib : NavLibrary) (node : CommandAuthority)
    (result : SupervisorResult) (input : ApplyInput) :
    (node.apply lib result input).1.runtimeEpoch = node.runtimeEpoch := by
  obtain ⟨fifth, -, hEpoch, -, hApply⟩ := apply_node lib node result input
  rw [hApply, publishState_runtimeEpoch, hEpoch, applyDemand_runtimeEpoch]

theorem mem_applyAutonomy {output : AuthorityOutput} {now : ℚ}
    (h : output ∈ (node.applyAutonomy result now).2) : ∃ c, output = .autonomy c := by
  obtain ⟨c, _, rfl⟩ := Option.map_eq_some_iff.mp (Option.mem_toList.mp h)
  exact ⟨_, rfl⟩

theorem mem_applyManual {output : AuthorityOutput} {now : ℚ}
    (h : output ∈ (node.applyManual result now).2) :
    ∃ c, output = .manual (toTwist c) ∧ (c = {} ∨ result.manualCommand = some c) := by
  obtain ⟨c, hGate, rfl⟩ := Option.map_eq_some_iff.mp (Option.mem_toList.mp h)
  exact ⟨c, rfl, AutonomyOutputGate.update_output hGate⟩

theorem mem_applyNavigation {output : AuthorityOutput} {missionId : Uuid}
    (h : output ∈ (node.applyNavigation lib result missionId).2) :
    ∃ m, output = .navigation m := by
  obtain ⟨m, _, rfl⟩ := List.mem_map.mp h
  exact ⟨m, rfl⟩

theorem mem_applyDemand {output : AuthorityOutput} (h : output ∈ (node.applyDemand result).2) :
    ∃ m, output = .manualDemand m := by
  unfold applyDemand at h
  split at h
  · exact ⟨_, List.mem_singleton.mp h⟩
  · split at h
    · exact ⟨_, List.mem_singleton.mp h⟩
    · cases h

/-- The outputs of `_apply`, part by part. -/
theorem apply_outputs (lib : NavLibrary) (node : CommandAuthority) (result : SupervisorResult)
    (input : ApplyInput) :
    ∃ second third fourth fifth : CommandAuthority,
      (node.apply lib result input).2 =
        (node.applyDemand result).2 ++ (second.applyAutonomy result input.now).2 ++
          (third.applyManual result input.now).2 ++
          (fourth.applyNavigation lib result input.missionId).2 ++
          (fifth.publishState result input.stateNow).2 :=
  ⟨_, _, _, _, rfl⟩

/-- The message of a demand that a result has taken. -/
def takenMessages (node : CommandAuthority) (result : Option SupervisorResult) :
    List ManualDemandMessage :=
  (result.bind fun r => r.manualDemand.map (node.demandMessage r.snapshot)).toList

/-- `_apply` publishes the demand the call has taken, and no other active one. -/
theorem apply_demands (lib : NavLibrary) (node : CommandAuthority) (result : SupervisorResult)
    (input : ApplyInput) :
    activeDemands (node.apply lib result input).2 = node.takenMessages (some result) := by
  obtain ⟨second, third, fourth, fifth, hOutputs⟩ := node.apply_outputs lib result input
  have hAutonomy : activeDemands (second.applyAutonomy result input.now).2 = [] := by
    refine activeDemands_of_none fun output h => ?_
    obtain ⟨c, rfl⟩ := mem_applyAutonomy h
    rfl
  have hManual : activeDemands (third.applyManual result input.now).2 = [] := by
    refine activeDemands_of_none fun output h => ?_
    obtain ⟨c, rfl, _⟩ := mem_applyManual h
    rfl
  have hNavigation : activeDemands (fourth.applyNavigation lib result input.missionId).2 = [] := by
    refine activeDemands_of_none fun output h => ?_
    obtain ⟨m, rfl⟩ := mem_applyNavigation h
    rfl
  have hStatus : activeDemands (fifth.publishState result input.stateNow).2 = [] := by
    refine activeDemands_of_none fun output h => ?_
    obtain ⟨authority, lease, rfl⟩ := publishState_status h
    rfl
  have hDemand : activeDemands (node.applyDemand result).2 = node.takenMessages (some result) := by
    unfold applyDemand takenMessages
    rw [Option.bind_some]
    cases result.manualDemand with
    | some demand => rfl
    | none =>
      dsimp only
      split <;> rfl
  rw [hOutputs]
  simp only [activeDemands_append, hAutonomy, hManual, hNavigation, hStatus, hDemand,
    List.nil_append]

/-- A manual output of `_apply` is the brake or the command the call has returned. -/
theorem apply_manual {command : Twist}
    (h : .manual command ∈ (node.apply lib result input).2) :
    command = {} ∨ ∃ c, result.manualCommand = some c ∧ command = toTwist c := by
  obtain ⟨second, third, fourth, fifth, hOutputs⟩ := node.apply_outputs lib result input
  simp only [hOutputs, List.mem_append] at h
  rcases h with (((h | h) | h) | h) | h
  · obtain ⟨m, hOutput⟩ := mem_applyDemand h
    cases hOutput
  · obtain ⟨c, hOutput⟩ := mem_applyAutonomy h
    cases hOutput
  · obtain ⟨c, hOutput, rfl | hCommand⟩ := mem_applyManual h
    · exact Or.inl (AuthorityOutput.manual.inj hOutput)
    · exact Or.inr ⟨c, hCommand, AuthorityOutput.manual.inj hOutput⟩
  · obtain ⟨m, hOutput⟩ := mem_applyNavigation h
    cases hOutput
  · obtain ⟨authority, lease, hOutput⟩ := publishState_status h
    cases hOutput

/-! ## One supervisor call -/

theorem supervise_supervisor (lib : NavLibrary) (node : CommandAuthority) (call : Call) (now : ℚ)
    (input : ApplyInput) :
    (node.supervise lib call now input).1.supervisor = node.supervisor.step ⟨call, now⟩ := by
  unfold supervise CommandSupervisor.step
  generalize node.supervisor.perform ⟨call, now⟩ = out
  obtain ⟨supervisor, result⟩ := out
  cases result with
  | none => rfl
  | some result => exact apply_supervisor _ _ _ _

@[simp] theorem supervise_runtimeEpoch (lib : NavLibrary) (node : CommandAuthority) (call : Call)
    (now : ℚ) (input : ApplyInput) :
    (node.supervise lib call now input).1.runtimeEpoch = node.runtimeEpoch := by
  unfold supervise
  generalize node.supervisor.perform ⟨call, now⟩ = out
  obtain ⟨supervisor, result⟩ := out
  cases result with
  | none => rfl
  | some result => exact apply_runtimeEpoch _ _ _ _

theorem supervise_demands (lib : NavLibrary) (node : CommandAuthority) (call : Call) (now : ℚ)
    (input : ApplyInput) :
    activeDemands (node.supervise lib call now input).2 =
      node.takenMessages (node.supervisor.result ⟨call, now⟩) := by
  unfold supervise CommandSupervisor.result
  generalize node.supervisor.perform ⟨call, now⟩ = out
  obtain ⟨supervisor, result⟩ := out
  cases result with
  | none => rfl
  | some result => exact apply_demands _ _ _ _

/-- A manual output of a call is the brake, or its command is the raw sample of the held
demand. -/
theorem supervise_manual {call : Call} {now : ℚ} {command : Twist}
    (h : .manual command ∈ (node.supervise lib call now input).2) :
    command = {} ∨ ∃ raw sequence demand, call = .receiveRawManual raw sequence ∧
      command = toTwist raw ∧
      (node.supervisor.step ⟨call, now⟩).manualDemand = some demand ∧
      demand.sequence = sequence ∧
      ∀ r, node.supervisor.result ⟨call, now⟩ = some r → r.manualDemand = none := by
  unfold supervise at h
  cases hPerform : node.supervisor.perform ⟨call, now⟩ with
  | mk supervisor result =>
    rw [hPerform] at h
    cases result with
    | none => cases h
    | some result =>
      have hResult : node.supervisor.result ⟨call, now⟩ = some result :=
        congrArg Prod.snd hPerform
      rcases apply_manual h with hBrake | ⟨c, hCommand, rfl⟩
      · exact Or.inl hBrake
      · obtain ⟨sequence, demand, hCall, hHeld, hSequence, hNone⟩ :=
          CommandSupervisor.manualCommand_case _ hResult hCommand
        refine Or.inr ⟨c, sequence, demand, hCall, rfl, hHeld, hSequence, ?_⟩
        rintro r hr
        cases hResult.symm.trans hr
        exact hNone

/-! ## Callbacks -/

/-- The supervisor calls that callbacks make, with control events that satisfy `allowed`. -/
def CallbackCall (allowed : ControlMessage → Prop) : Call → Prop
  | .restart => False
  | .handleControlEvent m => allowed m
  | _ => True

/-- The calls of every callback but `_on_raw_manual`. -/
def QuietCall (allowed : ControlMessage → Prop) : Call → Prop
  | .receiveRawManual .. => False
  | call => CallbackCall allowed call

/-- `P` relates the supervisor to the active demands published so far, and every supervisor call
of a callback keeps it. -/
def Closed (allowed : ControlMessage → Prop)
    (P : CommandSupervisor → List ManualDemandMessage → Prop) : Prop :=
  ∀ (node : CommandAuthority) (demands : List ManualDemandMessage) (c : TimedCall),
    CallbackCall allowed c.call → P node.supervisor demands →
      P (node.supervisor.step c) (node.takenMessages (node.supervisor.result c) ++ demands)

variable {allowed : ControlMessage → Prop}
  {P : CommandSupervisor → List ManualDemandMessage → Prop}

/-- A callback keeps `P` and publishes no manual command but the brake. -/
structure Keeps (P : CommandSupervisor → List ManualDemandMessage → Prop)
    (demands : List ManualDemandMessage) (out : CommandAuthority × List AuthorityOutput) :
    Prop where
  state : P out.1.supervisor (activeDemands out.2 ++ demands)
  brakes : ∀ command, .manual command ∈ out.2 → command = {}

theorem Keeps.of_silent {demands : List ManualDemandMessage} (h : P node.supervisor demands) :
    Keeps P demands (node, []) :=
  ⟨h, fun _ hMem => absurd hMem List.not_mem_nil⟩

/-- Two parts of a callback, one after the other. -/
theorem Keeps.append {demands : List ManualDemandMessage}
    {first second : CommandAuthority × List AuthorityOutput} (hFirst : Keeps P demands first)
    (h : Keeps P (activeDemands first.2 ++ demands) second) :
    Keeps P demands (second.1, first.2 ++ second.2) := by
  refine ⟨?_, fun command hMem => ?_⟩
  · rw [activeDemands_append, List.append_assoc]
    exact h.state
  · rcases List.mem_append.mp hMem with hMem | hMem
    · exact hFirst.brakes command hMem
    · exact h.brakes command hMem

theorem supervise_state (hClosed : Closed allowed P) (node : CommandAuthority) (call : Call)
    (hCall : CallbackCall allowed call) (now : ℚ) (input : ApplyInput)
    {demands : List ManualDemandMessage} (h : P node.supervisor demands) :
    P (node.supervise lib call now input).1.supervisor
      (activeDemands (node.supervise lib call now input).2 ++ demands) := by
  rw [supervise_supervisor, supervise_demands]
  exact hClosed node demands ⟨call, now⟩ hCall h

/-- A supervisor call other than `receive_raw_manual` forwards no manual sample. -/
theorem supervise_keeps (hClosed : Closed allowed P) (node : CommandAuthority) (call : Call)
    (hCall : QuietCall allowed call) (now : ℚ) (input : ApplyInput)
    {demands : List ManualDemandMessage} (h : P node.supervisor demands) :
    Keeps P demands (node.supervise lib call now input) := by
  have hCallback : CallbackCall allowed call := by
    cases call with
    | receiveRawManual raw sequence => exact trivial
    | _ => exact hCall
  refine ⟨supervise_state hClosed node call hCallback now input h, fun command hMem => ?_⟩
  rcases supervise_manual hMem with hBrake | ⟨raw, sequence, demand, rfl, _⟩
  · exact hBrake
  · exact absurd hCall id

theorem onControlEvent_keeps (hClosed : Closed allowed P) (m : ControlMessage)
    (now freshNow requestNow : ℚ) (hAllowed : allowed m) {demands : List ManualDemandMessage}
    (h : P node.supervisor demands) :
    Keeps P demands (node.onControlEvent lib m now freshNow requestNow input) := by
  have hCall := hClosed node demands ⟨.handleControlEvent m, now⟩ hAllowed h
  change P (node.supervisor.handleControlEvent m now).1
    (node.takenMessages (some (node.supervisor.handleControlEvent m now).2) ++ demands) at hCall
  have hApply : ∀ next : CommandAuthority, next.supervisor = (node.supervisor.handleControlEvent m
      now).1 → next.runtimeEpoch = node.runtimeEpoch →
      Keeps P demands (next.apply lib (node.supervisor.handleControlEvent m now).2 input) := by
    intro next hNext hEpoch
    refine ⟨?_, fun command hMem => ?_⟩
    · rw [apply_supervisor, apply_demands, hNext]
      unfold takenMessages demandMessage at hCall ⊢
      rw [hEpoch]
      exact hCall
    · rcases apply_manual hMem with hBrake | ⟨c, hCommand, _⟩
      · exact hBrake
      · rw [CommandSupervisor.handleControlEvent_manualCommand] at hCommand
        cases hCommand
  have hStop : ∀ (stopped : Bool) (next : CommandAuthority × List AuthorityOutput),
      Keeps P demands next → Keeps P demands
        (next.1, (requestStop node stopped requestNow).2 ++ next.2) := by
    intro stopped next hNext
    refine ⟨?_, fun command hMem => ?_⟩
    · rw [activeDemands_append]
      exact (List.append_nil (activeDemands next.2)).symm ▸ hNext.state
    · rcases List.mem_append.mp hMem with hMem | hMem
      · exact AuthorityOutput.noConfusion (List.mem_singleton.mp hMem)
      · exact hNext.brakes command hMem
  unfold onControlEvent
  generalize node.supervisor.handleControlEvent m now = out at hApply
  dsimp only
  split
  · rename_i stopped hIntent
    exact hStop stopped _ (hApply (requestStop { node with supervisor := out.1 } stopped
      requestNow).1 rfl rfl)
  · exact hApply { node with supervisor := out.1 } rfl rfl

theorem onMode_keeps (hClosed : Closed allowed P) (message : ModeState) (now : ℚ)
    {demands : List ManualDemandMessage} (h : P node.supervisor demands) :
    Keeps P demands (node.onMode lib message now input) := by
  unfold onMode
  split
  · exact .of_silent h
  · rename_i mode hMode
    exact supervise_keeps hClosed { node with runtimeEpoch := message.runtimeEpoch }
      (.setRuntimeMode mode message.activeAutonomyMap
        (message.status = ModeState.statusStable && message.ready)) trivial now input h

theorem onConfigRequest_keeps (hClosed : Closed allowed P) (message : ConfigRequest)
    {demands : List ManualDemandMessage} (h : P node.supervisor demands) :
    Keeps P demands (node.onConfigRequest message) := by
  have hCall := hClosed node demands ⟨.setManualMaxSpeedMps message.value, 0⟩ trivial h
  change P ((node.supervisor.setManualMaxSpeedMps message.value).getD node.supervisor) demands
    at hCall
  have hOut : ∀ next : CommandAuthority, P next.supervisor demands →
      Keeps P demands (next, [.config next.configState]) :=
    fun _ hNext => ⟨hNext, fun _ hMem => AuthorityOutput.noConfusion (List.mem_singleton.mp hMem)⟩
  unfold onConfigRequest
  refine hOut _ ?_
  dsimp only
  split
  · exact h
  · split
    · exact h
    · split
      · exact h
      · generalize node.supervisor.setManualMaxSpeedMps message.value = changed at hCall
        cases changed with
        | none => exact h
        | some supervisor => exact hCall

theorem onLocalControl_keeps (hClosed : Closed allowed P) (message : LocalControlState) (now : ℚ)
    (edgeInput : ApplyInput) {demands : List ManualDemandMessage}
    (h : P node.supervisor demands) :
    Keeps P demands (node.onLocalControl lib message now edgeInput input) := by
  have hPresence : ∀ (next : CommandAuthority) (active : Bool) (read : ApplyInput)
      (sent : List ManualDemandMessage), P next.supervisor sent →
      Keeps P sent (next.supervise lib (.setDualsenseActive active) now read) :=
    fun next active read sent hNext =>
      supervise_keeps hClosed next (.setDualsenseActive active) trivial now read hNext
  unfold onLocalControl
  extract_lets identity started
  have hEdge : Keeps P demands
      (if started.localControlIdentity = some identity then (started, [])
      else
        let next := { started with localControlIdentity := some identity }
        if next.dualsenseActive then (next, [])
        else
          { next with dualsenseActive := true }.supervise lib (.setDualsenseActive true) now
            edgeInput) := by
    split
    · exact .of_silent h
    · dsimp only
      split
      · exact .of_silent h
      · exact hPresence { started with
          localControlIdentity := some identity, dualsenseActive := true } true edgeInput demands h
  generalize hFirst : ite (started.localControlIdentity = some identity) _ _ = first at hEdge ⊢
  dsimp only
  split
  · exact hEdge
  · exact hEdge.append (hPresence { first.1 with dualsenseActive := message.active }
      message.active input _ hEdge.state)

theorem onSupervisionTimer_keeps (hClosed : Closed allowed P) (now : ℚ) (watchInput : ApplyInput)
    {demands : List ManualDemandMessage} (h : P node.supervisor demands) :
    Keeps P demands (node.onSupervisionTimer lib now watchInput input) := by
  have hRepeat : Keeps P demands (node.repeatStopRequest now) := by
    unfold repeatStopRequest
    split
    · exact .of_silent h
    · split
      · exact ⟨h, fun _ hMem => AuthorityOutput.noConfusion (List.mem_singleton.mp hMem)⟩
      · exact .of_silent h
  have hWatch : ∀ (next : CommandAuthority) (sent : List ManualDemandMessage),
      P next.supervisor sent → Keeps P sent (next.watchLocalControl lib now watchInput) := by
    intro next sent hNext
    unfold watchLocalControl
    split
    · exact supervise_keeps hClosed { next with dualsenseActive := true }
        (.setDualsenseActive true) trivial now watchInput hNext
    · exact .of_silent hNext
  unfold onSupervisionTimer
  generalize node.repeatStopRequest now = repeated at hRepeat
  have hWatched := hRepeat.append (hWatch repeated.1 _ hRepeat.state)
  dsimp only
  generalize repeated.1.watchLocalControl lib now watchInput = watched at hWatched
  exact hWatched.append
    (supervise_keeps hClosed watched.1 .tick trivial now input hWatched.state)

theorem onStopState_supervisor (message : StopState) (now : ℚ) :
    (node.onStopState message now).supervisor = node.supervisor := by
  unfold onStopState
  dsimp only
  split
  · rfl
  · repeat' split
    all_goals rfl

/-- What survives every supervisor call survives every callback, and a callback other than
`_on_raw_manual` forwards no manual sample. -/
theorem receive_keeps (hClosed : Closed allowed P) (event : AuthorityEvent)
    (hRaw : event.isRawManual = false)
    (hAllowed : ∀ m now freshNow requestNow read,
      event = .controlEvent m now freshNow requestNow read → allowed m)
    {demands : List ManualDemandMessage} (h : P node.supervisor demands) :
    Keeps P demands (node.receive lib event) := by
  cases event with
  | rawAutonomy message now read =>
    exact supervise_keeps hClosed node (.receiveRawAutonomy (fromTwist message)) trivial now read h
  | configRequest message => exact onConfigRequest_keeps hClosed message h
  | controlEvent message now freshNow requestNow read =>
    exact onControlEvent_keeps hClosed message now freshNow requestNow
      (hAllowed _ _ _ _ _ rfl) h
  | rawManual message now read => cases hRaw
  | stopState message now =>
    exact @Keeps.of_silent (node.onStopState message now) P demands
      ((onStopState_supervisor message now).symm ▸ h)
  | mode message now read => exact onMode_keeps hClosed message now h
  | localControl message now edgeInput read =>
    exact onLocalControl_keeps hClosed message now edgeInput h
  | supervisionTimer now watchInput read =>
    exact onSupervisionTimer_keeps hClosed now watchInput h
  | navigationState state now => exact .of_silent h

/-! ## The converted manual samples -/

theorem onRawManual_state (hClosed : Closed allowed P) (node : CommandAuthority)
    (message : ConvertedCommand) (now : ℚ) (input : ApplyInput)
    {demands : List ManualDemandMessage} (h : P node.supervisor demands) :
    P (node.onRawManual lib message now input).1.supervisor
      (activeDemands (node.onRawManual lib message now input).2 ++ demands) := by
  unfold onRawManual
  split
  · exact h
  · exact supervise_state hClosed node
      (.receiveRawManual (fromTwist message.command) message.provenance.sequence) trivial now
      input h

theorem onRawManual_runtimeEpoch (lib : NavLibrary) (node : CommandAuthority)
    (message : ConvertedCommand) (now : ℚ) (input : ApplyInput) :
    (node.onRawManual lib message now input).1.runtimeEpoch = node.runtimeEpoch := by
  unfold onRawManual
  split
  · rfl
  · exact supervise_runtimeEpoch _ _ _ _ _

/-- A forwarded sample has the provenance of the demand that is held after the callback. -/
structure Forwarded (node next : CommandAuthority) (message : ConvertedCommand)
    (command : Twist) : Prop where
  source : message.source = ConvertedCommand.sourcePaddockManual
  epoch : message.provenance.runtimeEpoch = node.runtimeEpoch
  generation : message.provenance.leaseGeneration = next.supervisor.state.leaseGeneration
  command : command = message.command
  held : ∃ demand, next.supervisor.manualDemand = some demand ∧
    demand.sequence = message.provenance.sequence

theorem onRawManual_forwards {message : ConvertedCommand} {now : ℚ} {command : Twist}
    (hLeased : node.supervisor.Leased)
    (h : .manual command ∈ (node.onRawManual lib message now input).2) :
    command = {} ∨ Forwarded node (node.onRawManual lib message now input).1 message command := by
  unfold onRawManual at h ⊢
  split at h
  · cases h
  · rename_i hProvenance
    rw [if_neg hProvenance]
    simp only [not_or, not_not] at hProvenance
    obtain ⟨hSource, hEpoch, hGeneration⟩ := hProvenance
    rcases supervise_manual h with hBrake | ⟨raw, sequence, demand, hCall, hCommand, hHeld,
      hSequence, hNone⟩
    · exact Or.inl hBrake
    · obtain ⟨rfl, rfl⟩ := Call.receiveRawManual.inj hCall
      refine Or.inr ⟨hSource, hEpoch, ?_, hCommand, demand, ?_, hSequence⟩
      · rw [supervise_supervisor]
        cases CommandSupervisor.demand_case hLeased ⟨_, now⟩ with
        | taken r taken hResult hTaken _ _ =>
          rw [hNone r hResult] at hTaken
          cases hTaken
        | kept _ hKeeps =>
          cases hKeeps with
          | dropped hDropped =>
            rw [hDropped] at hHeld
            cases hHeld
          | kept _ hLease => rw [hLease.generation, hGeneration]
      · rw [supervise_supervisor]
        exact hHeld

end CommandAuthority

end PreRunner.Paddock
