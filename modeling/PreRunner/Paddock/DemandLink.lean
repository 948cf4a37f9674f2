import PreRunner.Paddock.AuthorityCallbacks
import PreRunner.Paddock.ManualProvenance

/-!
# The manual selection of the drive adapter

The authority and the drive adapter, joined by the manual-demand topic: messages arrive in order
and none is lost while both run. A restart of the authority begins with a fresh supervisor; of the
messages that were in flight then, the first few still arrive.

The authority remembers that it has asserted a demand, and while it does the supervisor is manual
(`Asserts`); the adapter, once everything in flight has arrived, is manual exactly when a demand is
asserted. Only a restart can break this: the fresh node forgets the asserted demand.
-/

namespace PreRunner.Paddock

open Bringup Drive Runs

/-- Whether a manual demand is selected once the messages have arrived. -/
def selectedAfter (selected : Bool) (demands : List ManualDemandMessage) : Bool :=
  demands.foldl (fun _ message => message.active) selected

theorem selectedAfter_append (selected : Bool) (first second : List ManualDemandMessage) :
    selectedAfter selected (first ++ second) =
      selectedAfter (selectedAfter selected first) second :=
  List.foldl_append

/-- The manual demands among what was published, in order. -/
def sentDemands (outputs : List AuthorityOutput) : List ManualDemandMessage :=
  outputs.filterMap AuthorityOutput.demand?

theorem sentDemands_append (first second : List AuthorityOutput) :
    sentDemands (first ++ second) = sentDemands first ++ sentDemands second :=
  List.filterMap_append

theorem sentDemands_of_none {outputs : List AuthorityOutput}
    (h : ∀ output ∈ outputs, output.demand? = none) : sentDemands outputs = [] :=
  List.filterMap_eq_nil_iff.mpr h

/-! ## The asserted demand -/

namespace CommandSupervisor

variable {s : CommandSupervisor}

theorem acceptManual_manualActive {m : ControlMessage} {now : ℚ} {demand : ManualDemand}
    (h : (s.acceptManual m now).2.manualDemand = some demand) :
    (s.acceptManual m now).1.state.manualActive = true := by
  unfold acceptManual at h ⊢
  split at h
  · split at h
    · cases h
    · rename_i hAuthority
      rw [if_neg hAuthority]
      exact (PaddockState.authority_eq_paddockManual_iff.mp (not_not.mp hAuthority)).2.2.2
  · cases h

theorem handleOwnedEvent_manualActive {m : ControlMessage} {now : ℚ} {demand : ManualDemand}
    (h : (s.handleOwnedEvent m now).2.manualDemand = some demand) :
    (s.handleOwnedEvent m now).1.state.manualActive = true := by
  unfold handleOwnedEvent at h ⊢
  cases hEvent : m.event with
  | manualActive =>
    rw [hEvent] at h
    exact acceptManual_manualActive h
  | goalSelected =>
    rw [hEvent] at h
    dsimp only at h
    split at h <;> cases h
  | _ =>
    rw [hEvent] at h
    cases h

/-- A call that takes a demand leaves the supervisor manual. -/
theorem taken_manualActive (c : TimedCall) {r : SupervisorResult} {demand : ManualDemand}
    (hResult : s.result c = some r) (hDemand : r.manualDemand = some demand) :
    (s.step c).state.manualActive = true := by
  obtain ⟨m, hCall, _⟩ := (taken_number c hResult hDemand).call
  obtain ⟨call, now⟩ := c
  cases hCall
  cases hResult
  change (s.handleControlEvent m now).2.manualDemand = some demand at hDemand
  change (s.handleControlEvent m now).1.state.manualActive = true
  have hCase := handleControlEvent_case s m now
  generalize s.handleControlEvent m now = out at hCase hDemand
  cases hCase with
  | refused | granted => cases hDemand
  | owned => exact handleOwnedEvent_manualActive hDemand

end CommandSupervisor

namespace CommandAuthority

variable {lib : NavLibrary} {node : CommandAuthority}

/-- While a demand is asserted the supervisor is manual. -/
def Asserts (node : CommandAuthority) : Prop :=
  node.manualDemandAsserted = true → node.supervisor.state.manualActive = true

/-- The published demands tell what is asserted, and an asserted demand keeps the supervisor
manual. -/
structure Tracks (node : CommandAuthority) (out : CommandAuthority × List AuthorityOutput) :
    Prop where
  selected : out.1.manualDemandAsserted =
    selectedAfter node.manualDemandAsserted (sentDemands out.2)
  asserts : node.Asserts → out.1.Asserts

theorem Tracks.append {first second : CommandAuthority × List AuthorityOutput}
    (hFirst : Tracks node first) (hSecond : Tracks first.1 second) :
    Tracks node (second.1, first.2 ++ second.2) := by
  refine ⟨?_, fun h => hSecond.asserts (hFirst.asserts h)⟩
  rw [sentDemands_append, selectedAfter_append, ← hFirst.selected]
  exact hSecond.selected

theorem Quiet.tracks {out : CommandAuthority × List AuthorityOutput} (h : Quiet node out) :
    Tracks node out := by
  refine ⟨?_, fun hAsserts => ?_⟩
  · rw [sentDemands_of_none h.demands]
    exact h.asserted
  · unfold Asserts at hAsserts ⊢
    rw [h.asserted, h.supervisor]
    exact hAsserts

theorem apply_asserted (lib : NavLibrary) (node : CommandAuthority) (result : SupervisorResult)
    (input : ApplyInput) :
    (node.apply lib result input).1.manualDemandAsserted =
      (node.applyDemand result).1.manualDemandAsserted := by
  obtain ⟨fifth, -, -, hAsserted, hApply⟩ := apply_node lib node result input
  rw [hApply, ← hAsserted]
  unfold publishState
  dsimp only
  split <;> rfl

theorem apply_sentDemands (lib : NavLibrary) (node : CommandAuthority) (result : SupervisorResult)
    (input : ApplyInput) :
    sentDemands (node.apply lib result input).2 = sentDemands (node.applyDemand result).2 := by
  obtain ⟨second, third, fourth, fifth, hOutputs⟩ := node.apply_outputs lib result input
  have hAutonomy : sentDemands (second.applyAutonomy result input.now).2 = [] := by
    refine sentDemands_of_none fun output h => ?_
    obtain ⟨c, rfl⟩ := mem_applyAutonomy h
    rfl
  have hManual : sentDemands (third.applyManual result input.now).2 = [] := by
    refine sentDemands_of_none fun output h => ?_
    obtain ⟨c, rfl, _⟩ := mem_applyManual h
    rfl
  have hNavigation : sentDemands (fourth.applyNavigation lib result input.missionId).2 = [] := by
    refine sentDemands_of_none fun output h => ?_
    obtain ⟨m, rfl⟩ := mem_applyNavigation h
    rfl
  have hStatus : sentDemands (fifth.publishState result input.stateNow).2 = [] := by
    refine sentDemands_of_none fun output h => ?_
    obtain ⟨authority, lease, rfl⟩ := publishState_status h
    rfl
  rw [hOutputs]
  simp only [sentDemands_append, hAutonomy, hManual, hNavigation, hStatus, List.append_nil]

/-- A taken demand is asserted, and an asserted demand is revoked as soon as the supervisor is not
manual. -/
theorem apply_tracks (lib : NavLibrary) (node : CommandAuthority) (result : SupervisorResult)
    (input : ApplyInput) (hState : result.snapshot.state = node.supervisor.state)
    (hTaken : ∀ demand, result.manualDemand = some demand →
      node.supervisor.state.manualActive = true) :
    (node.apply lib result input).1.manualDemandAsserted =
        selectedAfter node.manualDemandAsserted (sentDemands (node.apply lib result input).2) ∧
      (node.apply lib result input).1.Asserts := by
  unfold Asserts
  rw [apply_asserted, apply_sentDemands, apply_supervisor]
  unfold applyDemand
  rw [hState]
  cases hDemand : result.manualDemand with
  | some demand => exact ⟨rfl, fun _ => hTaken demand hDemand⟩
  | none =>
    dsimp only
    split
    · exact ⟨rfl, fun h => absurd h Bool.false_ne_true⟩
    · rename_i hKept
      refine ⟨rfl, fun hAsserted => ?_⟩
      by_contra hInactive
      exact hKept ⟨hAsserted, Bool.eq_false_of_not_eq_true hInactive⟩

theorem supervise_tracks (lib : NavLibrary) (node : CommandAuthority) (call : Call) (now : ℚ)
    (input : ApplyInput) : Tracks node (node.supervise lib call now input) := by
  have hSnapshot := node.supervisor.perform_snapshot ⟨call, now⟩
  have hTaken := @CommandSupervisor.taken_manualActive node.supervisor ⟨call, now⟩
  unfold CommandSupervisor.result at hTaken
  unfold CommandSupervisor.step at hSnapshot hTaken
  unfold supervise
  generalize node.supervisor.perform ⟨call, now⟩ = out at hSnapshot hTaken
  obtain ⟨supervisor, result⟩ := out
  cases result with
  | none =>
    refine ⟨rfl, fun hAsserts => ?_⟩
    change node.manualDemandAsserted = true → supervisor.state.manualActive = true
    exact (congrArg PaddockState.manualActive hSnapshot).symm ▸ hAsserts
  | some result =>
    have hApply := apply_tracks lib { node with supervisor } result input hSnapshot
      (fun demand hDemand => hTaken rfl hDemand)
    exact ⟨hApply.1, fun _ => hApply.2⟩

theorem Callback.tracks {out : CommandAuthority × List AuthorityOutput}
    (h : Callback lib node out) : Tracks node out := by
  induction h with
  | quiet hQuiet => exact hQuiet.tracks
  | supervise node call now input hCall => exact supervise_tracks lib node call now input
  | append _ _ hFirst hSecond => exact hFirst.append hSecond

theorem onMode_tracks (lib : NavLibrary) (node : CommandAuthority) (message : ModeState) (now : ℚ)
    (input : ApplyInput) : Tracks node (node.onMode lib message now input) := by
  unfold onMode
  split
  · exact ⟨rfl, id⟩
  · rename_i mode hMode
    have hCall := supervise_tracks lib { node with runtimeEpoch := message.runtimeEpoch }
      (.setRuntimeMode mode message.activeAutonomyMap
        (message.status = ModeState.statusStable && message.ready)) now input
    exact ⟨hCall.selected, hCall.asserts⟩

theorem receive_tracks (lib : NavLibrary) (node : CommandAuthority) (event : AuthorityEvent) :
    Tracks node (node.receive lib event) := by
  cases hMode : event.isMode with
  | false => exact (receive_callback lib node event hMode).tracks
  | true =>
    cases event with
    | mode message now input => exact onMode_tracks lib node message now input
    | _ => cases hMode

/-- A fresh node publishes no demand and asserts none. -/
theorem start_silent (lib : NavLibrary) (supervisor : CommandSupervisor)
    (localControlTimeout autoBrakeWindow : ℚ) (requesterId : String) (now : ℚ)
    (input : ApplyInput) :
    let out := start lib supervisor localControlTimeout autoBrakeWindow requesterId now input
    sentDemands out.2 = [] ∧ out.1.manualDemandAsserted = false ∧
      out.1.supervisor.state.manualActive = false := by
  intro out
  refine ⟨apply_sentDemands _ _ _ _, apply_asserted _ _ _ _, ?_⟩
  have hSupervisor : out.1.supervisor = supervisor.step ⟨.restart, now⟩ :=
    supervise_supervisor _ _ _ _ _
  rw [hSupervisor]
  rfl

end CommandAuthority

/-! ## The composition -/

/-- Both nodes, and the manual demands in flight between them, oldest first. -/
structure DemandLink where
  authority : CommandAuthority
  adapter : DriveAdapterNode
  inFlight : List ManualDemandMessage := []

/-- What the constructor of the authority reads. -/
structure AuthorityStart where
  supervisor : CommandSupervisor
  localControlTimeout : ℚ
  autoBrakeWindow : ℚ
  requesterId : String
  now : ℚ
  input : ApplyInput

/-- The authority after its constructor. -/
def AuthorityStart.node (start : AuthorityStart) (lib : NavLibrary) :
    CommandAuthority × List AuthorityOutput :=
  CommandAuthority.start lib start.supervisor start.localControlTimeout start.autoBrakeWindow
    start.requesterId start.now start.input

/-- One callback of either node, the arrival of the oldest demand, or a restart of the authority
process: of the messages in flight then, the first `kept` ones still arrive. -/
inductive DemandEvent where
  | authority (event : AuthorityEvent)
  | restart (kept : Nat) (start : AuthorityStart)
  | adapter (event : AdapterEvent) (own : event.isManualDemand = false)
  | demandArrives (now : ℚ)

namespace DemandLink

def step (lib : NavLibrary) (drive : DriveLibrary) (link : DemandLink) : DemandEvent → DemandLink
  | .authority event =>
    let out := link.authority.receive lib event
    { link with authority := out.1, inFlight := link.inFlight ++ sentDemands out.2 }
  | .restart kept start =>
    let out := start.node lib
    { link with authority := out.1, inFlight := link.inFlight.take kept ++ sentDemands out.2 }
  | .adapter event _ => { link with adapter := (link.adapter.receive drive event).1 }
  | .demandArrives now =>
    match link.inFlight with
    | [] => link
    | message :: rest =>
      { link with adapter := link.adapter.onManualDemand message now, inFlight := rest }

/-- Both nodes after their constructors. -/
def init (lib : NavLibrary) (start : AuthorityStart) (config : AdapterConfig) : DemandLink :=
  { authority := (start.node lib).1
    adapter := DriveAdapterNode.start config
    inFlight := sentDemands (start.node lib).2 }

/-- With no demand in flight and a supervisor that is not manual, the adapter is not in manual mode
and takes the next Nav2 command. -/
def Released (link : DemandLink) : Prop :=
  link.inFlight = [] → link.authority.supervisor.state.manualActive = false →
    link.adapter.manualActive = false ∧ ∀ message now,
      (link.adapter.onCommand message now).adapter.command =
          some (message.linearX, message.angularZ) ∧
        (link.adapter.onCommand message now).adapter.commandUsesDirectSteering = false

/-- The same at every later moment at which only messages in flight have arrived. -/
def ReleasedOnArrival (lib : NavLibrary) (drive : DriveLibrary) (link : DemandLink) : Prop :=
  ∀ times : List ℚ, Released (after (step lib drive) link (times.map .demandArrives))

/-- The authority restarts after a manual demand whose revocation does not reach the adapter. -/
def forgetsDemand (link : DemandLink) : DemandEvent → Prop
  | .restart kept _ => selectedAfter link.adapter.manualActive (link.inFlight.take kept) = true
  | _ => False

/-- The oldest demand in flight reaches the adapter. -/
def demandReaches (message : ManualDemandMessage) (link : DemandLink) : DemandEvent → Prop
  | .demandArrives _ => link.inFlight.head? = some message
  | _ => False

def noDemandReaches (link : DemandLink) : DemandEvent → Prop
  | .demandArrives _ => link.inFlight = []
  | _ => True

variable (lib : NavLibrary) (drive : DriveLibrary) (start : DemandLink)

/-- In manual mode the stored command and the provenance are those of the demand that has arrived
last, and it is an active one. -/
def SelectsLatest (past : List DemandEvent) (link : DemandLink) : Prop :=
  link.adapter.manualActive = true → ∃ message : ManualDemandMessage, message.active = true ∧
    Since (along (step lib drive) start noDemandReaches)
      (along (step lib drive) start (demandReaches message)) past ∧
    link.adapter.manualProvenance = some message.provenance ∧
    ∀ command, link.adapter.adapter.command = some command →
      command = (message.signedSpeedMps, message.steeringNormalized) ∧
        link.adapter.adapter.commandUsesDirectSteering = true

variable {lib drive start} {link : DemandLink}

theorem step_arrives_of_nil (h : link.inFlight = []) (now : ℚ) :
    link.step lib drive (.demandArrives now) = link := by
  unfold step
  dsimp only
  rw [h]

theorem step_arrives_of_cons {message : ManualDemandMessage} {rest : List ManualDemandMessage}
    (h : link.inFlight = message :: rest) (now : ℚ) :
    link.step lib drive (.demandArrives now) =
      { link with adapter := link.adapter.onManualDemand message now, inFlight := rest } := by
  unfold step
  dsimp only
  rw [h]

/-! ## What is asserted and what is selected -/

/-- Once everything in flight has arrived, the adapter is manual exactly when the authority asserts
a demand. -/
structure Joined (link : DemandLink) : Prop where
  selected : selectedAfter link.adapter.manualActive link.inFlight =
    link.authority.manualDemandAsserted
  asserts : link.authority.Asserts

theorem onManualDemand_manualActive (node : DriveAdapterNode) (message : ManualDemandMessage)
    (now : ℚ) : (node.onManualDemand message now).manualActive = message.active := by
  unfold DriveAdapterNode.onManualDemand
  split
  · rename_i hActive
    exact hActive.symm
  · rename_i hInactive
    exact (Bool.eq_false_of_not_eq_true hInactive).symm

/-- Only a manual demand changes whether the adapter is in manual mode. -/
theorem receive_manualActive (drive : DriveLibrary) (node : DriveAdapterNode) (event : AdapterEvent)
    (hOwn : event.isManualDemand = false) :
    (node.receive drive event).1.manualActive = node.manualActive := by
  have hSame := DriveAdapterNode.receive_sameSelection drive node event
  cases event with
  | command message now =>
    change (node.onCommand message now).manualActive = node.manualActive
    unfold DriveAdapterNode.onCommand
    split <;> rfl
  | manualDemand message now => cases hOwn
  | motion | encoder | activeMode | muxOutput | parameters | publish | shutdown =>
    exact (hSame (by intro message now hEvent; cases hEvent)
      (by intro message now hEvent; cases hEvent)).active

theorem Joined.released (h : Joined link) : Released link := by
  intro hArrived hInactive
  have hSelected := h.selected
  rw [hArrived] at hSelected
  have hManual : link.adapter.manualActive = false := by
    by_contra hActive
    have hAsserted := hSelected.symm.trans (Bool.eq_true_of_not_eq_false hActive)
    rw [h.asserts hAsserted] at hInactive
    cases hInactive
  refine ⟨hManual, fun message now => ?_⟩
  unfold DriveAdapterNode.onCommand
  rw [hManual]
  exact ⟨rfl, rfl⟩

theorem Joined.arrives (h : Joined link) (now : ℚ) :
    Joined (link.step lib drive (.demandArrives now)) := by
  cases hFlight : link.inFlight with
  | nil =>
    rw [step_arrives_of_nil hFlight]
    exact h
  | cons message rest =>
    rw [step_arrives_of_cons hFlight]
    have hSelected := h.selected
    rw [hFlight] at hSelected
    refine ⟨?_, h.asserts⟩
    dsimp only
    rw [onManualDemand_manualActive]
    exact hSelected

/-- A fresh authority and an adapter that is not in manual mode once what is kept has arrived. -/
theorem start_joined (lib : NavLibrary) (start : AuthorityStart) (adapter : DriveAdapterNode)
    (kept : List ManualDemandMessage)
    (hRevoked : selectedAfter adapter.manualActive kept = false) :
    Joined
      { authority := (start.node lib).1, adapter
        inFlight := kept ++ sentDemands (start.node lib).2 } := by
  obtain ⟨hSilent, hForgotten, _⟩ := CommandAuthority.start_silent lib start.supervisor
    start.localControlTimeout start.autoBrakeWindow start.requesterId start.now start.input
  refine ⟨?_, fun hAsserted => ?_⟩
  · change selectedAfter adapter.manualActive (kept ++ sentDemands (start.node lib).2) =
      (start.node lib).1.manualDemandAsserted
    rw [AuthorityStart.node, hSilent, hForgotten, List.append_nil]
    exact hRevoked
  · cases hForgotten.symm.trans hAsserted

/-- Every event keeps the two nodes together, except a restart that forgets a demand. -/
theorem Joined.step (h : Joined link) (event : DemandEvent) (hKept : ¬ link.forgetsDemand event) :
    Joined (link.step lib drive event) := by
  cases event with
  | authority event =>
    have hTracks := CommandAuthority.receive_tracks lib link.authority event
    refine ⟨?_, hTracks.asserts h.asserts⟩
    change selectedAfter link.adapter.manualActive (link.inFlight ++ _) = _
    rw [selectedAfter_append, h.selected]
    exact hTracks.selected.symm
  | restart kept config =>
    exact start_joined lib config link.adapter (link.inFlight.take kept)
      (Bool.eq_false_of_not_eq_true hKept)
  | adapter event own =>
    refine ⟨?_, h.asserts⟩
    change selectedAfter (link.adapter.receive drive event).1.manualActive _ = _
    rw [receive_manualActive drive link.adapter event own]
    exact h.selected
  | demandArrives now => exact h.arrives now

theorem joined_init (lib : NavLibrary) (config : AuthorityStart) (adapter : AdapterConfig) :
    Joined (init lib config adapter) :=
  start_joined lib config (DriveAdapterNode.start adapter) [] rfl

theorem Joined.releasedOnArrival (h : Joined link) : ReleasedOnArrival lib drive link := by
  intro times
  have hArrived : Joined (after (DemandLink.step lib drive) link (times.map .demandArrives)) := by
    induction times with
    | nil => exact h
    | cons now times ih => exact ih.arrives now
  exact hArrived.released

/-! ## A forgotten demand -/

/-- What the adapter selects once everything in flight has arrived. -/
theorem after_arrivals (lib : NavLibrary) (drive : DriveLibrary) (link : DemandLink) :
    ∃ times : List ℚ,
      (after (step lib drive) link (times.map .demandArrives)).inFlight = [] ∧
        (after (step lib drive) link (times.map .demandArrives)).authority = link.authority ∧
        (after (step lib drive) link (times.map .demandArrives)).adapter.manualActive =
          selectedAfter link.adapter.manualActive link.inFlight := by
  obtain ⟨authority, adapter, inFlight⟩ := link
  induction inFlight generalizing adapter with
  | nil => exact ⟨[], rfl, rfl, rfl⟩
  | cons message rest ih =>
    obtain ⟨times, hFlight, hAuthority, hManual⟩ := ih (adapter.onManualDemand message 0)
    -- the earliest arrival stands last in the history
    refine ⟨times ++ [0], ?_⟩
    rw [List.map_append, after_append]
    refine ⟨hFlight, hAuthority, hManual.trans ?_⟩
    dsimp only
    rw [onManualDemand_manualActive]
    rfl

/-- After a restart that forgets a demand the adapter stays in manual mode. -/
theorem not_released_of_forgets {event : DemandEvent} (h : link.forgetsDemand event) :
    ¬ ReleasedOnArrival lib drive (link.step lib drive event) := by
  cases event with
  | authority event => exact absurd h id
  | adapter event own => exact absurd h id
  | demandArrives now => exact absurd h id
  | restart kept start =>
    intro hReleased
    obtain ⟨times, hFlight, hAuthority, hManual⟩ :=
      after_arrivals lib drive (link.step lib drive (.restart kept start))
    obtain ⟨hSilent, _, hInactive⟩ := CommandAuthority.start_silent lib start.supervisor
      start.localControlTimeout start.autoBrakeWindow start.requesterId start.now start.input
    have hNone := (hReleased times hFlight (hAuthority ▸ hInactive)).1
    rw [hManual] at hNone
    change selectedAfter link.adapter.manualActive
      (link.inFlight.take kept ++ sentDemands (start.node lib).2) = false at hNone
    rw [AuthorityStart.node, hSilent, List.append_nil] at hNone
    cases hNone.symm.trans h

/-! ## Runs -/

theorem releasedOnArrival_step (h : Joined link) (event : DemandEvent) :
    ReleasedOnArrival lib drive (link.step lib drive event) ↔ ¬ link.forgetsDemand event :=
  ⟨fun hReleased hForgets => not_released_of_forgets hForgets hReleased,
    fun hKept => (h.step event hKept).releasedOnArrival⟩

theorem selectsLatest_step {past : List DemandEvent}
    (h : SelectsLatest lib drive start past (after (step lib drive) start past))
    (event : DemandEvent) :
    SelectsLatest lib drive start (event :: past)
      (after (step lib drive) start (event :: past)) := by
  rw [after_cons]
  intro hActive
  have hSame : ∀ next : DemandLink,
      DriveAdapterNode.SameSelection (after (step lib drive) start past).adapter next.adapter →
      noDemandReaches (after (step lib drive) start past) event →
      next.adapter.manualActive = true → ∃ message : ManualDemandMessage, message.active = true ∧
        Since (along (step lib drive) start noDemandReaches)
          (along (step lib drive) start (demandReaches message)) (event :: past) ∧
        next.adapter.manualProvenance = some message.provenance ∧
        ∀ command, next.adapter.adapter.command = some command →
          command = (message.signedSpeedMps, message.steeringNormalized) ∧
            next.adapter.adapter.commandUsesDirectSteering = true := by
    intro next hSelection hNone hManual
    obtain ⟨message, hMessage, hSince, hProvenance, hCommand⟩ :=
      h (hSelection.active.symm.trans hManual)
    refine ⟨message, hMessage, hSince.keep hNone, hSelection.provenance.trans hProvenance,
      fun command hHeld => ?_⟩
    obtain ⟨hEq, hDirect⟩ := hCommand command (hSelection.command command hHeld)
    exact ⟨hEq, hSelection.direct.trans hDirect⟩
  have hRefl : DriveAdapterNode.SameSelection (after (step lib drive) start past).adapter
      (after (step lib drive) start past).adapter := .of_sameCommand (.refl _)
  cases event with
  | authority event => exact hSame _ hRefl trivial hActive
  | restart kept config => exact hSame _ hRefl trivial hActive
  | adapter event own =>
    refine hSame _ ?_ trivial hActive
    have hReceive := DriveAdapterNode.receive_sameSelection drive
      (after (step lib drive) start past).adapter event
    cases event with
    | command message now =>
      have hManual := (receive_manualActive drive (after (step lib drive) start past).adapter
        (.command message now) rfl).symm.trans hActive
      change DriveAdapterNode.SameSelection _ (DriveAdapterNode.onCommand _ message now)
      unfold DriveAdapterNode.onCommand
      rw [if_pos hManual]
      exact hRefl
    | manualDemand message now => cases own
    | motion | encoder | activeMode | muxOutput | parameters | publish | shutdown =>
      exact hReceive (by intro message now hEvent; cases hEvent)
        (by intro message now hEvent; cases hEvent)
  | demandArrives now =>
    cases hFlight : (after (step lib drive) start past).inFlight with
    | nil =>
      rw [step_arrives_of_nil hFlight] at hActive ⊢
      exact hSame _ hRefl hFlight hActive
    | cons message rest =>
      rw [step_arrives_of_cons hFlight] at hActive ⊢
      dsimp only at hActive ⊢
      rw [onManualDemand_manualActive] at hActive
      have hReaches : demandReaches message (after (step lib drive) start past)
          (.demandArrives now) := congrArg List.head? hFlight
      refine ⟨message, hActive, .start hReaches, ?_⟩
      unfold DriveAdapterNode.onManualDemand
      rw [if_pos hActive]
      exact ⟨rfl, fun command hHeld => ⟨(Option.some.inj hHeld).symm, rfl⟩⟩

/-- In every run of both nodes: manual mode of the adapter ends with the manual supervisor, however
the demands in flight arrive, just when no restart of the authority forgets a demand; and in manual
mode the command and the provenance are always those of the demand that has arrived last. `Joined`
relates both nodes and the demands in flight, and only a restart that forgets a demand breaks it.
-/
theorem manual_mode_released_iff (lib : NavLibrary) (drive : DriveLibrary) (start : AuthorityStart)
    (config : AdapterConfig) (past : List DemandEvent) :
    let begun := init lib start config
    (Always (along (step lib drive) begun fun link event =>
        ReleasedOnArrival lib drive (link.step lib drive event)) past ↔
      Always (along (step lib drive) begun fun link event => ¬ link.forgetsDemand event) past) ∧
    SelectsLatest lib drive begun past (after (step lib drive) begun past) := by
  intro begun
  have hJoined : ∀ past, Always (along (step lib drive) begun fun link event =>
      ¬ link.forgetsDemand event) past → Joined (after (step lib drive) begun past) := by
    intro past
    induction past with
    | nil => exact fun _ => joined_init lib start config
    | cons event past ih => exact fun h => (ih h.2).step event h.1
  refine ⟨?_, ?_⟩
  · induction past with
    | nil => exact Iff.rfl
    | cons event past ih =>
      constructor
      · intro h
        have hPast := ih.mp h.2
        exact ⟨(releasedOnArrival_step (hJoined past hPast) event).mp h.1, hPast⟩
      · intro h
        exact ⟨(releasedOnArrival_step (hJoined past h.2) event).mpr h.1, ih.mpr h.2⟩
  · induction past with
    | nil => exact fun hActive => absurd hActive Bool.false_ne_true
    | cons event past ih => exact selectsLatest_step ih event

/-! ## A restart with an asserted demand -/

def plainStart : AuthorityStart :=
  { supervisor := CommandSupervisor.defaultSupervisor "m"
    localControlTimeout := 1 / 10
    autoBrakeWindow := 3 / 10
    requesterId := "paddock"
    now := 0
    input := ManualLink.readAt 0 }

/-- The browser drives manually and its demand has arrived; latest event first. -/
def drivenRun : List DemandEvent :=
  [.demandArrives (1 / 100),
    .authority (.controlEvent
      { event := .manualActive, clientId := "c", leaseId := "l", sequence := 1
        manualSpeedMps := .finite (3 / 10) } (1 / 100) (1 / 100) (1 / 100)
      (ManualLink.readAt (1 / 100))),
    .authority (.controlEvent
      { event := .leaseAcquired, clientId := "c", leaseId := "l", sequence := 0 } 0 0 0
      (ManualLink.readAt 0)),
    .authority (.mode
      { mode := 2, status := 0, activeAutonomyMap := "m", runtimeEpoch := 5, ready := true } 0
      (ManualLink.readAt 0))]

/-- After the restart the adapter is left in manual mode and drops Nav2 commands. -/
theorem restart_leaves_manual_mode :
    let link := after (step MissionRuntime.plainLibrary ManualLink.linearDrive)
      (init MissionRuntime.plainLibrary plainStart AdapterConfig.default)
      (.restart 0 { plainStart with now := 2 / 100, input := ManualLink.readAt (2 / 100) } ::
        drivenRun)
    link.inFlight = [] ∧ link.authority.supervisor.state.manualActive = false ∧
      link.adapter.manualActive = true ∧
      (link.adapter.onCommand { linearX := .finite (1 / 2) } (3 / 100)) = link.adapter ∧
      ¬ Released link := by
  have hManual : (after (step MissionRuntime.plainLibrary ManualLink.linearDrive)
      (init MissionRuntime.plainLibrary plainStart AdapterConfig.default)
      (.restart 0 { plainStart with now := 2 / 100, input := ManualLink.readAt (2 / 100) } ::
        drivenRun)).adapter.manualActive = true := by decide +kernel
  refine ⟨rfl, rfl, hManual, if_pos hManual, fun h => ?_⟩
  exact Bool.false_ne_true ((h rfl rfl).1.symm.trans hManual)

end DemandLink

end PreRunner.Paddock
