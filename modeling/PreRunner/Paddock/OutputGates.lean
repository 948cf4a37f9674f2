import PreRunner.Runs.History
import PreRunner.Bringup.MissionInvariant
import PreRunner.Paddock.AuthorityOutputs
import PreRunner.Paddock.DemandLink

/-!
# The output gates over a run

`_apply` passes each result through two gates, one for autonomy and one for manual commands. A gate
forwards a permitted sample in the call that carries it. When permission is revoked after a
forwarded sample it brakes for a window, and otherwise it is silent.

A gate is a machine of its own, run on one update for each call. `GateInvariant` says which of the
updates so far it is forwarding from or braking after; the trace of the node is then that of two
gates, since neither reads what the other remembers.
-/

namespace PreRunner.Paddock

open Runs Bringup

/-! ## One gate -/

/-- The arguments of `_AutonomyOutputGate.update`. -/
structure GateUpdate where
  now : ℚ
  permitted : Bool
  command : Option VelocityCommand
  deriving DecidableEq

/-- A permitted sample. -/
def GateUpdate.Forwards (update : GateUpdate) : Prop :=
  update.permitted = true ∧ update.command ≠ none

namespace AutonomyOutputGate

def receive (gate : AutonomyOutputGate) (update : GateUpdate) : AutonomyOutputGate :=
  (gate.update update.now update.permitted update.command).1

def output (gate : AutonomyOutputGate) (update : GateUpdate) : Option VelocityCommand :=
  (gate.update update.now update.permitted update.command).2

variable {gate : AutonomyOutputGate} {update : GateUpdate}

/-- A permitted update lets its sample through and ends a brake. -/
theorem update_permitted (h : update.permitted = true) :
    gate.receive update = { gate with
        wasForwarding := gate.wasForwarding || update.command.isSome, brakeDeadline := none } ∧
      gate.output update = update.command := by
  unfold receive output AutonomyOutputGate.update
  rw [h]
  cases update.command with
  | none => exact ⟨by rw [Option.isSome_none, Bool.or_false], rfl⟩
  | some command => exact ⟨by rw [Option.isSome_some, Bool.or_true], rfl⟩

/-- The deadline of the brake at an update that is not permitted. -/
def deadline (gate : AutonomyOutputGate) (update : GateUpdate) : Option ℚ :=
  if gate.wasForwarding then some (update.now + gate.brakeWindowSec) else gate.brakeDeadline

/-- An update that is not permitted brakes up to the deadline. -/
theorem update_refused (h : update.permitted = false) :
    gate.receive update = { gate with
        wasForwarding := false
        brakeDeadline := (gate.deadline update).filter (update.now ≤ ·) } ∧
      gate.output update = ((gate.deadline update).filter (update.now ≤ ·)).map fun _ => {} := by
  have hFilter : ∀ deadline : ℚ, (some deadline).filter (update.now ≤ ·) =
      if update.now ≤ deadline then some deadline else none := fun deadline => by
    rw [Option.filter_some]
    exact if_congr decide_eq_true_iff rfl rfl
  obtain ⟨window, wasForwarding, brakeDeadline⟩ := gate
  unfold receive output AutonomyOutputGate.update deadline
  rw [h]
  cases wasForwarding with
  | true =>
    simp only [if_true, hFilter]
    split <;> exact ⟨rfl, rfl⟩
  | false =>
    cases brakeDeadline with
    | none => exact ⟨rfl, rfl⟩
    | some deadline =>
      simp only [Bool.false_eq_true, if_false, hFilter]
      split <;> exact ⟨rfl, rfl⟩

end AutonomyOutputGate

/-! ## The history of a gate -/

section

variable {window : ℚ}

/-- The gate after a history of updates. -/
def gateAfter (window : ℚ) (past : List GateUpdate) : AutonomyOutputGate :=
  after AutonomyOutputGate.receive { brakeWindowSec := window } past

/-- What an update publishes after a history. -/
def gateOutput (window : ℚ) (past : List GateUpdate) (update : GateUpdate) :
    Option VelocityCommand := (gateAfter window past).output update

/-- A sample was forwarded, and permission has lasted since. -/
def Forwarding : List GateUpdate → Prop :=
  Since (fun _ update => update.permitted = true) fun _ update => update.Forwards

/-- The update revokes the permission under which a sample was forwarded. -/
def Revokes (past : List GateUpdate) (update : GateUpdate) : Prop :=
  update.permitted = false ∧ Forwarding past

/-- The update is not permitted since a revoke, and within the window that started there. -/
def Braking (window : ℚ) (past : List GateUpdate) (update : GateUpdate) : Prop :=
  ∃ later revoke earlier, update :: past = later ++ revoke :: earlier ∧ Revokes earlier revoke ∧
    (∀ u ∈ later, u.permitted = false) ∧ update.now ≤ revoke.now + window

/-- What the fields of a gate say about its history. -/
structure GateInvariant (window : ℚ) (past : List GateUpdate) (gate : AutonomyOutputGate) :
    Prop where
  brakeWindow : gate.brakeWindowSec = window
  forwarding : gate.wasForwarding = true ↔ Forwarding past
  braking : ∀ deadline, gate.brakeDeadline = some deadline →
    ∃ later revoke earlier, past = later ++ revoke :: earlier ∧ Revokes earlier revoke ∧
      (∀ u ∈ later, u.permitted = false) ∧ deadline = revoke.now + window

/-- The deadline at a refused update is that of the last revoke, which may be this one. -/
theorem deadline_eq_some {past : List GateUpdate} {gate : AutonomyOutputGate}
    {update : GateUpdate} (h : GateInvariant window past gate) (hRefused : update.permitted = false)
    {deadline : ℚ} (hDeadline : gate.deadline update = some deadline) :
    ∃ later revoke earlier, update :: past = later ++ revoke :: earlier ∧
      Revokes earlier revoke ∧ (∀ u ∈ later, u.permitted = false) ∧
      deadline = revoke.now + window := by
  unfold AutonomyOutputGate.deadline at hDeadline
  split at hDeadline
  · rename_i hForwarding
    rw [h.brakeWindow] at hDeadline
    exact ⟨[], update, past, rfl, ⟨hRefused, h.forwarding.mp hForwarding⟩,
      fun u hMem => absurd hMem List.not_mem_nil, (Option.some.inj hDeadline).symm⟩
  · obtain ⟨later, revoke, earlier, rfl, hRevokes, hLater, hEq⟩ := h.braking deadline hDeadline
    refine ⟨update :: later, revoke, earlier, rfl, hRevokes, fun u hMem => ?_, hEq⟩
    rcases List.mem_cons.mp hMem with rfl | hMem
    · exact hRefused
    · exact hLater u hMem

theorem gateInvariant_receive {past : List GateUpdate} {gate : AutonomyOutputGate}
    (h : GateInvariant window past gate) (update : GateUpdate) :
    GateInvariant window (update :: past) (gate.receive update) := by
  cases hPermitted : update.permitted with
  | true =>
    rw [(AutonomyOutputGate.update_permitted hPermitted).1]
    refine ⟨h.brakeWindow, ?_, nofun⟩
    change (gate.wasForwarding || update.command.isSome) = true ↔
      update.Forwards ∨ (update.permitted = true ∧ Forwarding past)
    rw [Bool.or_eq_true_iff, h.forwarding, Option.isSome_iff_ne_none, or_comm]
    exact or_congr (and_iff_right hPermitted).symm (and_iff_right hPermitted).symm
  | false =>
    rw [(AutonomyOutputGate.update_refused hPermitted).1]
    have hNot : ¬ Forwarding (update :: past) := by
      rintro (hForwards | ⟨hKeep, -⟩)
      · exact Bool.false_ne_true (hPermitted.symm.trans hForwards.1)
      · exact Bool.false_ne_true (hPermitted.symm.trans hKeep)
    refine ⟨h.brakeWindow, iff_of_false Bool.false_ne_true hNot, fun deadline hDeadline => ?_⟩
    exact deadline_eq_some h hPermitted (Option.filter_eq_some_iff.mp hDeadline).1

theorem gateInvariant (window : ℚ) (past : List GateUpdate) :
    GateInvariant window past (gateAfter window past) := by
  unfold gateAfter
  exact after_history_invariant (P := GateInvariant window)
    ⟨rfl, iff_of_false Bool.false_ne_true since_nil, fun _ h => by cases h⟩
    (fun past gate update h => gateInvariant_receive h update) past

/-! ## After a revoke -/

/-- Nothing is left but the brake of a revoke. -/
structure Revoked (window start : ℚ) (gate : AutonomyOutputGate) : Prop where
  forwarding : gate.wasForwarding = false
  brakeWindow : gate.brakeWindowSec = window
  deadline : ∀ deadline, gate.brakeDeadline = some deadline → deadline = start + window

theorem revoked_receive {start : ℚ} {gate : AutonomyOutputGate} (h : Revoked window start gate)
    {update : GateUpdate} (hNone : ¬ update.Forwards) :
    Revoked window start (gate.receive update) := by
  cases hPermitted : update.permitted with
  | true =>
    have hCommand : update.command = none :=
      not_not.mp fun hSome => hNone ⟨hPermitted, hSome⟩
    rw [(AutonomyOutputGate.update_permitted hPermitted).1, hCommand, h.forwarding]
    exact ⟨rfl, h.brakeWindow, nofun⟩
  | false =>
    rw [(AutonomyOutputGate.update_refused hPermitted).1]
    refine ⟨rfl, h.brakeWindow, fun deadline hDeadline => h.deadline deadline ?_⟩
    have hSome := (Option.filter_eq_some_iff.mp hDeadline).1
    unfold AutonomyOutputGate.deadline at hSome
    rw [h.forwarding] at hSome
    exact hSome

/-- Until a new sample is permitted, a gate puts out zeros up to the end of the window. -/
theorem revoked_output {start : ℚ} {gate : AutonomyOutputGate} (h : Revoked window start gate)
    {update : GateUpdate} (hNone : ¬ update.Forwards) {command : VelocityCommand}
    (hOutput : gate.output update = some command) : command = {} ∧ update.now ≤ start + window := by
  cases hPermitted : update.permitted with
  | true =>
    rw [(AutonomyOutputGate.update_permitted hPermitted).2] at hOutput
    exact absurd ⟨hPermitted, by rw [hOutput]; nofun⟩ hNone
  | false =>
    rw [(AutonomyOutputGate.update_refused hPermitted).2] at hOutput
    obtain ⟨deadline, hDeadline, rfl⟩ := Option.map_eq_some_iff.mp hOutput
    obtain ⟨hSome, hNow⟩ := Option.filter_eq_some_iff.mp hDeadline
    unfold AutonomyOutputGate.deadline at hSome
    rw [h.forwarding] at hSome
    rw [← h.deadline deadline hSome]
    exact ⟨rfl, of_decide_eq_true hNow⟩

theorem revoked_of_revokes {past : List GateUpdate} {update : GateUpdate}
    (h : Revokes past update) : Revoked window update.now (gateAfter window (update :: past)) := by
  have hPast := gateInvariant window past
  have hGate : gateAfter window (update :: past) = (gateAfter window past).receive update := rfl
  rw [hGate, (AutonomyOutputGate.update_refused h.1).1]
  refine ⟨rfl, hPast.brakeWindow, fun deadline hDeadline => ?_⟩
  have hSome := (Option.filter_eq_some_iff.mp hDeadline).1
  unfold AutonomyOutputGate.deadline at hSome
  rw [if_pos (hPast.forwarding.mpr h.2), hPast.brakeWindow] at hSome
  exact (Option.some.inj hSome).symm

theorem revoked_append {later earlier : List GateUpdate} {revoke : GateUpdate}
    (h : Revokes earlier revoke) (hLater : ∀ u ∈ later, ¬ u.Forwards) :
    Revoked window revoke.now (gateAfter window (later ++ revoke :: earlier)) := by
  induction later with
  | nil => exact revoked_of_revokes h
  | cons update later ih =>
    exact revoked_receive (ih fun u hMem => hLater u (List.mem_cons_of_mem update hMem))
      (hLater update List.mem_cons_self)

/-! ## The trace of a gate -/

/-- The updates come at non-decreasing times. -/
def InTimeOrder (updates : List GateUpdate) : Prop :=
  updates.Pairwise fun later earlier => earlier.now ≤ later.now

/-- What a gate publishes at an update of its history. -/
structure GateTrace (window : ℚ) (past : List GateUpdate) (update : GateUpdate) : Prop where
  /-- The sample of this very update while it is permitted, or a zero of a brake. -/
  output : ∀ command, gateOutput window past update = some command →
    (update.permitted = true ∧ update.command = some command) ∨
      (command = {} ∧ Braking window past update)
  /-- After a revoke, zeros within the window, and nothing else until a new permitted sample. -/
  revoked : ∀ later revoke earlier, update :: past = later ++ revoke :: earlier →
    Revokes earlier revoke → (∀ u ∈ later, ¬ u.Forwards) →
    ∀ command, gateOutput window past update = some command →
      command = {} ∧ revoke.now ≤ update.now ∧ update.now ≤ revoke.now + window

theorem gateTrace_output {past : List GateUpdate} {update : GateUpdate}
    {command : VelocityCommand} (h : gateOutput window past update = some command) :
    (update.permitted = true ∧ update.command = some command) ∨
      (command = {} ∧ Braking window past update) := by
  have hPast := gateInvariant window past
  unfold gateOutput at h
  cases hPermitted : update.permitted with
  | true =>
    rw [(AutonomyOutputGate.update_permitted hPermitted).2] at h
    exact Or.inl ⟨rfl, h⟩
  | false =>
    rw [(AutonomyOutputGate.update_refused hPermitted).2] at h
    obtain ⟨deadline, hDeadline, rfl⟩ := Option.map_eq_some_iff.mp h
    obtain ⟨hSome, hNow⟩ := Option.filter_eq_some_iff.mp hDeadline
    obtain ⟨later, revoke, earlier, hSplit, hRevokes, hLater, rfl⟩ :=
      deadline_eq_some hPast hPermitted hSome
    exact Or.inr ⟨rfl, later, revoke, earlier, hSplit, hRevokes, hLater, of_decide_eq_true hNow⟩

/-- The revoke itself already brakes. -/
theorem revoke_output {past : List GateUpdate} {update : GateUpdate} (h : Revokes past update)
    {command : VelocityCommand} (hOutput : gateOutput window past update = some command) :
    command = {} ∧ update.now ≤ update.now + window := by
  have hPast := gateInvariant window past
  unfold gateOutput at hOutput
  rw [(AutonomyOutputGate.update_refused h.1).2] at hOutput
  obtain ⟨deadline, hDeadline, rfl⟩ := Option.map_eq_some_iff.mp hOutput
  obtain ⟨hSome, hNow⟩ := Option.filter_eq_some_iff.mp hDeadline
  unfold AutonomyOutputGate.deadline at hSome
  rw [if_pos (hPast.forwarding.mpr h.2), hPast.brakeWindow] at hSome
  cases hSome
  exact ⟨rfl, of_decide_eq_true hNow⟩

theorem now_le_of_split {past later earlier : List GateUpdate} {update revoke : GateUpdate}
    (hTimes : InTimeOrder (update :: past)) (hSplit : update :: past = later ++ revoke :: earlier) :
    revoke.now ≤ update.now := by
  cases later with
  | nil =>
    cases hSplit
    exact le_rfl
  | cons first later =>
    cases hSplit
    exact (List.pairwise_cons.mp hTimes).1 revoke (List.mem_append_right _ List.mem_cons_self)

/-- The trace of every history at non-decreasing times. -/
theorem gateTrace {past : List GateUpdate} {update : GateUpdate}
    (hTimes : InTimeOrder (update :: past)) : GateTrace window past update := by
  refine ⟨fun command h => gateTrace_output h, ?_⟩
  intro later revoke earlier hSplit hRevokes hLater command hOutput
  have hAfter := now_le_of_split hTimes hSplit
  cases later with
  | nil =>
    cases hSplit
    obtain ⟨hZero, hNow⟩ := revoke_output hRevokes hOutput
    exact ⟨hZero, hAfter, hNow⟩
  | cons first later =>
    cases hSplit
    have hRevoked := @revoked_append window later earlier revoke hRevokes
      fun u hMem => hLater u (List.mem_cons_of_mem _ hMem)
    obtain ⟨hZero, hNow⟩ := revoked_output hRevoked (hLater _ List.mem_cons_self) hOutput
    exact ⟨hZero, hAfter, hNow⟩

end

/-! ## Both gates of the node -/

/-- A call of `_apply`: the node at that moment, up to its gates, and the arguments. -/
structure ApplyCall where
  node : CommandAuthority
  result : SupervisorResult
  input : ApplyInput

structure OutputGates where
  auto : AutonomyOutputGate
  manual : AutonomyOutputGate

namespace ApplyCall

/-- The call on the node with these gates. -/
def run (lib : NavLibrary) (gates : OutputGates) (call : ApplyCall) :
    CommandAuthority × List AuthorityOutput :=
  { call.node with autoOutputGate := gates.auto, manualOutputGate := gates.manual }.apply lib
    call.result call.input

/-- The gates after the call. -/
def gatesAfter (lib : NavLibrary) (gates : OutputGates) (call : ApplyCall) : OutputGates :=
  ⟨(call.run lib gates).1.autoOutputGate, (call.run lib gates).1.manualOutputGate⟩

/-- The update of the autonomy gate. -/
def autoUpdate (call : ApplyCall) : GateUpdate :=
  ⟨call.input.now, call.node.autonomyPermitted call.result call.input.now,
    call.result.autonomyCommand⟩

/-- The update of the manual gate. -/
def manualUpdate (call : ApplyCall) : GateUpdate :=
  ⟨call.input.now, call.node.manualPermitted call.result call.input.now,
    call.result.manualCommand⟩

end ApplyCall

def AuthorityOutput.autonomy? : AuthorityOutput → Option Twist
  | autonomy command => some command
  | _ => none

def AuthorityOutput.manual? : AuthorityOutput → Option Twist
  | manual command => some command
  | _ => none

section

variable (lib : NavLibrary) (gates : OutputGates) (call : ApplyCall)

/-- The node with its gates, as it comes out of the first part of `_apply`. -/
theorem applyDemand_node (node : CommandAuthority) (result : SupervisorResult) :
    ∃ asserted, (node.applyDemand result).1 = { node with manualDemandAsserted := asserted } := by
  unfold CommandAuthority.applyDemand
  split
  · exact ⟨true, rfl⟩
  · split
    · exact ⟨false, rfl⟩
    · exact ⟨node.manualDemandAsserted, rfl⟩

theorem publishState_gates (node : CommandAuthority) (result : SupervisorResult) (now : ℚ) :
    (node.publishState result now).1.autoOutputGate = node.autoOutputGate ∧
      (node.publishState result now).1.manualOutputGate = node.manualOutputGate := by
  unfold CommandAuthority.publishState
  dsimp only
  split <;> exact ⟨rfl, rfl⟩

/-- One call updates each gate once. -/
theorem gatesAfter_eq : call.gatesAfter lib gates =
    ⟨gates.auto.receive call.autoUpdate, gates.manual.receive call.manualUpdate⟩ := by
  obtain ⟨asserted, hDemand⟩ := applyDemand_node
    { call.node with autoOutputGate := gates.auto, manualOutputGate := gates.manual } call.result
  unfold ApplyCall.gatesAfter ApplyCall.run CommandAuthority.apply
  dsimp only
  rw [(publishState_gates _ _ _).1, (publishState_gates _ _ _).2, hDemand]
  rfl

/-- What a call publishes through its gates; the rest are demands, missions and states. -/
theorem filterMap_run {f : AuthorityOutput → Option Twist}
    (hDemand : ∀ message, f (.manualDemand message) = none)
    (hNavigation : ∀ message, f (.navigation message) = none)
    (hStatus : ∀ authority lease, f (.status authority lease) = none) :
    (call.run lib gates).2.filterMap f =
      ((gates.auto.output call.autoUpdate).map fun c => .autonomy (toTwist c)).toList.filterMap f ++
      ((gates.manual.output call.manualUpdate).map
        fun c => .manual (toTwist c)).toList.filterMap f := by
  obtain ⟨asserted, hNode⟩ := applyDemand_node
    { call.node with autoOutputGate := gates.auto, manualOutputGate := gates.manual } call.result
  have hOutputs : ∃ third fourth : CommandAuthority, (call.run lib gates).2 =
      ({ call.node with
        autoOutputGate := gates.auto
        manualOutputGate := gates.manual }.applyDemand call.result).2 ++
      ((gates.auto.output call.autoUpdate).map fun c => .autonomy (toTwist c)).toList ++
      ((gates.manual.output call.manualUpdate).map fun c => .manual (toTwist c)).toList ++
      (third.applyNavigation lib call.result call.input.missionId).2 ++
      (fourth.publishState call.result call.input.stateNow).2 := by
    unfold ApplyCall.run CommandAuthority.apply
    dsimp only
    rw [hNode]
    exact ⟨_, _, rfl⟩
  obtain ⟨third, fourth, hOutputs⟩ := hOutputs
  have hFirst : ({ call.node with
      autoOutputGate := gates.auto, manualOutputGate := gates.manual }.applyDemand
        call.result).2.filterMap f = [] := by
    refine List.filterMap_eq_nil_iff.mpr fun output h => ?_
    obtain ⟨message, rfl⟩ := CommandAuthority.mem_applyDemand h
    exact hDemand message
  have hFourth : (third.applyNavigation lib call.result call.input.missionId).2.filterMap f =
    [] := by
    refine List.filterMap_eq_nil_iff.mpr fun output h => ?_
    obtain ⟨message, rfl⟩ := CommandAuthority.mem_applyNavigation h
    exact hNavigation message
  have hFifth : (fourth.publishState call.result call.input.stateNow).2.filterMap f = [] := by
    refine List.filterMap_eq_nil_iff.mpr fun output h => ?_
    obtain ⟨authority, lease, rfl⟩ := CommandAuthority.publishState_status h
    exact hStatus authority lease
  rw [hOutputs]
  simp only [List.filterMap_append, hFirst, hFourth, hFifth, List.nil_append, List.append_nil]

/-- One call publishes what the autonomy gate lets out, and nothing else for autonomy. -/
theorem autonomy_outputs : (call.run lib gates).2.filterMap AuthorityOutput.autonomy? =
    ((gates.auto.output call.autoUpdate).map toTwist).toList := by
  rw [filterMap_run lib gates call (fun _ => rfl) (fun _ => rfl) fun _ _ => rfl]
  cases gates.auto.output call.autoUpdate <;> cases gates.manual.output call.manualUpdate <;> rfl

theorem manual_outputs : (call.run lib gates).2.filterMap AuthorityOutput.manual? =
    ((gates.manual.output call.manualUpdate).map toTwist).toList := by
  rw [filterMap_run lib gates call (fun _ => rfl) (fun _ => rfl) fun _ _ => rfl]
  cases gates.auto.output call.autoUpdate <;> cases gates.manual.output call.manualUpdate <;> rfl

end

/-! ## Every sequence of calls -/

/-- The gates after a history of calls, the latest first. -/
def gatesRun (lib : NavLibrary) (window : ℚ) (past : List ApplyCall) : OutputGates :=
  after (fun gates call => call.gatesAfter lib gates)
    ⟨{ brakeWindowSec := window }, { brakeWindowSec := window }⟩ past

theorem gatesRun_eq (lib : NavLibrary) (window : ℚ) (past : List ApplyCall) :
    gatesRun lib window past = ⟨gateAfter window (past.map ApplyCall.autoUpdate),
      gateAfter window (past.map ApplyCall.manualUpdate)⟩ := by
  induction past with
  | nil => rfl
  | cons call past ih =>
    change call.gatesAfter lib (gatesRun lib window past) = _
    rw [ih, gatesAfter_eq]
    rfl

/-- The STOP state is fresh, healthy and clear, and the Nav2 action executes. -/
structure MotionAllowed (node : CommandAuthority) (now : ℚ) : Prop where
  fresh : node.stopIsFresh now = true
  clear : ∃ stop, node.stopState = some stop ∧ stop.healthy = true ∧ stop.stopped = false ∧
    stop.locked = false
  active : node.navActionActive = true
  navigation : node.navigationStateFresh now = true

theorem motionAllowed_of_permitted {node : CommandAuthority} {result : SupervisorResult} {now : ℚ}
    (h : node.autonomyPermitted result now = true) : MotionAllowed node now := by
  unfold CommandAuthority.autonomyPermitted at h
  simp only [Bool.and_eq_true] at h
  obtain ⟨⟨-, hClear⟩, hActive, hNavigation⟩ := h
  obtain ⟨hFresh, hStop⟩ := Bool.and_eq_true_iff.mp hClear
  obtain ⟨stop, hStop, hState⟩ := (Option.any_eq_true _ _).mp hStop
  simp only [Bool.and_eq_true, Bool.not_eq_true'] at hState
  exact ⟨hFresh, ⟨stop, hStop, hState.1.1, hState.1.2, hState.2⟩, hActive, hNavigation⟩

/-- What a call publishes through the gates. -/
structure CallTrace (lib : NavLibrary) (window : ℚ) (past : List ApplyCall) (call : ApplyCall) :
    Prop where
  /-- At most one autonomy output, that of the gate. -/
  autonomy : (call.run lib (gatesRun lib window past)).2.filterMap AuthorityOutput.autonomy? =
    ((gateOutput window (past.map ApplyCall.autoUpdate) call.autoUpdate).map toTwist).toList
  /-- At most one manual output, that of the gate. -/
  manual : (call.run lib (gatesRun lib window past)).2.filterMap AuthorityOutput.manual? =
    ((gateOutput window (past.map ApplyCall.manualUpdate) call.manualUpdate).map toTwist).toList
  autoTrace : GateTrace window (past.map ApplyCall.autoUpdate) call.autoUpdate
  manualTrace : GateTrace window (past.map ApplyCall.manualUpdate) call.manualUpdate
  /-- Autonomy moves only on a sample of the supervisor while motion is allowed. -/
  moving : ∀ command, .autonomy command ∈ (call.run lib (gatesRun lib window past)).2 →
    command ≠ toTwist {} → MotionAllowed call.node call.input.now ∧
      ∃ sample, call.result.autonomyCommand = some sample ∧ command = toTwist sample

/-- Every sequence of calls at non-decreasing times has this trace at each of its calls. Either
gate sees the calls as updates of its own (`gatesRun_eq`), and `gateTrace` describes one gate over
any updates in order of time. -/
theorem output_gates_trace (lib : NavLibrary) (window : ℚ) (calls : List ApplyCall)
    (hTimes : calls.Pairwise fun later earlier => earlier.input.now ≤ later.input.now) :
    ∀ later call past, calls = later ++ call :: past → CallTrace lib window past call := by
  rintro later call past rfl
  have hOrder := (List.pairwise_append.mp hTimes).2.1
  have hAuto : InTimeOrder ((call :: past).map ApplyCall.autoUpdate) := List.pairwise_map.mpr hOrder
  have hManual : InTimeOrder ((call :: past).map ApplyCall.manualUpdate) :=
    List.pairwise_map.mpr hOrder
  have hAutonomy := autonomy_outputs lib (gatesRun lib window past) call
  have hOutputs := manual_outputs lib (gatesRun lib window past) call
  rw [gatesRun_eq] at hAutonomy hOutputs
  refine ⟨by rw [gatesRun_eq]; exact hAutonomy, by rw [gatesRun_eq]; exact hOutputs,
    gateTrace hAuto, gateTrace hManual, fun command hMem hMoving => ?_⟩
  have hGate : command ∈ ((gateOutput window (past.map ApplyCall.autoUpdate) call.autoUpdate).map
      toTwist).toList := by
    rw [gatesRun_eq] at hMem
    exact hAutonomy ▸ List.mem_filterMap.mpr ⟨_, hMem, rfl⟩
  obtain ⟨sample, hSample, rfl⟩ := Option.map_eq_some_iff.mp (Option.mem_toList.mp hGate)
  rcases gateTrace_output hSample with ⟨hPermitted, hCommand⟩ | ⟨rfl, -⟩
  · exact ⟨motionAllowed_of_permitted hPermitted, sample, hCommand, rfl⟩
  · exact absurd rfl hMoving

/-- A node that may move: the STOP state is clear and the Nav2 action executes. -/
def movingNode : CommandAuthority :=
  { (DemandLink.plainStart.node MissionRuntime.plainLibrary).1 with
    stopState := some ⟨0, "b", 1, false, false, true, false, false, "", "", 0, true, ""⟩
    stopStateAt := some 1
    navActionActive := true
    navStateAt := some 1 }

/-- A call with a sample, while the supervisor asks for a brake or not. -/
def sampleCall (brakeIntent : Bool) (now : ℚ) : ApplyCall :=
  { node := movingNode
    result :=
      { snapshot := { movingNode.supervisor.snapshot now .runtimeMode with brakeIntent }
        autonomyCommand := some { linearX := .finite (3 / 10) } }
    input := ⟨now, now, ⟨List.replicate 16 0, by decide⟩⟩ }

/-- A sample is forwarded and the permission is revoked: the revoke is a zero of the gate. -/
theorem output_gates_trace_revoked :
    gateOutput (3 / 10) [(sampleCall false 1).autoUpdate] (sampleCall true (11 / 10)).autoUpdate =
        some {} ∧
      CallTrace MissionRuntime.plainLibrary (3 / 10) [sampleCall false 1]
        (sampleCall true (11 / 10)) :=
  ⟨by decide +kernel,
    output_gates_trace MissionRuntime.plainLibrary (3 / 10)
      [sampleCall true (11 / 10), sampleCall false 1]
      (List.pairwise_pair.mpr (by decide +kernel)) [] _ _ rfl⟩

end PreRunner.Paddock
