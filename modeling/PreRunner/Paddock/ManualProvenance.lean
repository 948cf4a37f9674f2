import PreRunner.Bringup.MissionInvariant
import PreRunner.Drive.DriveAdapterNode
import PreRunner.Paddock.AuthorityOutputs

/-!
# Provenance of converted manual demands

The authority publishes the demand it holds, the drive adapter converts it, and the conversion
comes back with the provenance of its demand. Messages on both topics may be delayed, lost,
reordered or repeated: any message that was ever published can arrive at any time.

The demand the supervisor holds is the latest active one of the log (`Logged`), and as long as the
sequence numbers stay in one half of their range they rise within a lease generation (`Numbered`).
-/

namespace PreRunner.Paddock

open Bringup Drive Runs

/-- The message carries a demand under a lease generation. -/
structure Carries (message : ManualDemandMessage) (demand : ManualDemand) (generation : Nat) :
    Prop where
  sequence : message.provenance.sequence = demand.sequence
  generation : message.provenance.leaseGeneration = generation
  speed : message.signedSpeedMps = .finite demand.signedSpeedMps
  steering : message.steeringNormalized = .finite demand.steeringNormalized

/-- The held demand is the latest of the active demands published so far. -/
structure Logged (s : CommandSupervisor) (demands : List ManualDemandMessage) : Prop where
  leased : s.Leased
  latest : ∀ held, s.manualDemand = some held →
    ∃ message earlier, demands = message :: earlier ∧
      Carries message held s.state.leaseGeneration

/-- The numbers of the active demands rise within each lease generation. -/
structure Numbered (s : CommandSupervisor) (demands : List ManualDemandMessage) : Prop where
  bound : ∀ message ∈ demands,
    message.provenance.leaseGeneration ≤ s.state.leaseGeneration ∧
      (message.provenance.leaseGeneration = s.state.leaseGeneration →
        ∃ last, s.lastControlSequence = some last ∧ message.provenance.sequence ≤ last)
  range : ∀ last, s.lastControlSequence = some last → InLowerHalf last
  rising : demands.Pairwise fun later earlier =>
    later.provenance.leaseGeneration = earlier.provenance.leaseGeneration →
      earlier.provenance.sequence < later.provenance.sequence

section

open CommandAuthority

theorem closed_logged : Closed (fun _ => True) Logged := by
  intro node demands c hCall h
  have hCase := CommandSupervisor.demand_case h.leased c
  refine ⟨hCase.leased h.leased, fun held hHeld => ?_⟩
  cases hCase with
  | taken r demand hResult hDemand hNext hLease =>
    cases hNext.symm.trans hHeld
    refine ⟨node.demandMessage r.snapshot held, demands, ?_, rfl, ?_, rfl, rfl⟩
    · unfold takenMessages
      rw [hResult, Option.bind_some, hDemand]
      rfl
    · exact congrArg (fun state => (PaddockState.leaseGeneration state : Int))
          (CommandSupervisor.result_snapshot hResult)
  | kept hResult hKeeps =>
    have hTaken : node.takenMessages (node.supervisor.result c) = [] := by
      unfold takenMessages
      cases hCall : node.supervisor.result c with
      | none => rfl
      | some r => rw [Option.bind_some, hResult r hCall]; rfl
    rw [hTaken]
    cases hKeeps with
    | dropped hDropped =>
      rw [hDropped] at hHeld
      cases hHeld
    | kept hSame hLease =>
      rw [hLease.generation]
      exact h.latest held (hSame ▸ hHeld)

/-- The bound after a call that publishes no demand. -/
theorem Numbered.of_number {s next : CommandSupervisor} {call : Call}
    {demands : List ManualDemandMessage} (h : Numbered s demands)
    (hAllowed : CallbackCall (fun m => InLowerHalf m.sequence) call)
    (hCase : CommandSupervisor.NumberCase s next call) : Numbered next demands := by
  cases hCase with
  | kept hGeneration hLast =>
    exact ⟨by rw [hGeneration, hLast]; exact h.bound, hLast ▸ h.range, h.rising⟩
  | raised m hCall hGeneration hLast hNewer =>
    subst hCall
    refine ⟨fun message hMem => ?_, fun last hSome => ?_, h.rising⟩
    · rw [hGeneration]
      obtain ⟨hLe, hBound⟩ := h.bound message hMem
      refine ⟨hLe, fun hEq => ⟨m.sequence, hLast, ?_⟩⟩
      obtain ⟨last, hSome, hLe'⟩ := hBound hEq
      exact hLe'.trans (lt_of_isNewerSequence hAllowed (h.range last hSome)
        (hNewer last hSome)).le
    · cases hLast.symm.trans hSome
      exact hAllowed
  | fresh hGeneration hLast =>
    refine ⟨fun message hMem => ?_, fun last hSome => ?_, h.rising⟩
    · have hLe := (h.bound message hMem).1
      exact ⟨by omega, fun hEq => by omega⟩
    · rcases hLast with hNone | ⟨m, rfl, hNumber⟩
      · rw [hNone] at hSome
        cases hSome
      · cases hNumber.symm.trans hSome
        exact hAllowed

/-- A demand with a number above every earlier one of its generation goes on top. -/
theorem Numbered.cons {s : CommandSupervisor} {demands : List ManualDemandMessage}
    {message : ManualDemandMessage} (h : Numbered s demands)
    (hGeneration : message.provenance.leaseGeneration = s.state.leaseGeneration)
    (hLast : s.lastControlSequence = some message.provenance.sequence)
    (hAbove : ∀ earlier ∈ demands, earlier.provenance.leaseGeneration = s.state.leaseGeneration →
      earlier.provenance.sequence < message.provenance.sequence) :
    Numbered s (message :: demands) := by
  refine ⟨fun other hMem => ?_, h.range, List.pairwise_cons.mpr ⟨fun earlier hMem hSame => ?_,
    h.rising⟩⟩
  · rcases List.mem_cons.mp hMem with rfl | hMem
    · exact ⟨hGeneration.le, fun _ => ⟨_, hLast, le_rfl⟩⟩
    · exact h.bound other hMem
  · exact hAbove earlier hMem (hSame.symm.trans hGeneration)

theorem closed_numbered : Closed (fun m => InLowerHalf m.sequence) Numbered := by
  intro node demands c hCall h
  have hRestart : c.call ≠ .restart := by
    intro hRestart
    rw [hRestart] at hCall
    exact hCall
  have hNext := h.of_number hCall (CommandSupervisor.number_case c hRestart)
  unfold takenMessages
  cases hResult : node.supervisor.result c with
  | none => exact hNext
  | some r =>
    rw [Option.bind_some]
    cases hDemand : r.manualDemand with
    | none => exact hNext
    | some demand =>
      have hTaken := CommandSupervisor.taken_number c hResult hDemand
      obtain ⟨m, hEvent, hSequence⟩ := hTaken.call
      have hNumber : InLowerHalf demand.sequence := by
        rw [hEvent] at hCall
        exact hSequence ▸ hCall
      refine hNext.cons ?_ hTaken.last fun earlier hMem hSame => ?_
      · exact congrArg (fun state => (PaddockState.leaseGeneration state : Int))
          (CommandSupervisor.result_snapshot hResult)
      · rw [hTaken.generation] at hSame
        obtain ⟨last, hLast, hLe⟩ := (h.bound earlier hMem).2 hSame
        exact hLe.trans_lt (lt_of_isNewerSequence hNumber (h.range last hLast)
          (hTaken.newer last hLast))

end

/-! ## The composition -/

/-- The two nodes, and every message published between them, latest first. -/
structure ManualLink where
  authority : CommandAuthority
  adapter : DriveAdapterNode
  demands : List ManualDemandMessage := []
  conversions : List ConvertedCommand := []

/-- One callback of either node. A demand or a conversion that arrives is any of those published so
far. -/
inductive ManualEvent where
  | authority (event : AuthorityEvent) (own : event.isRawManual = false)
  | adapter (event : AdapterEvent) (own : event.isManualDemand = false)
  | demandArrives (index : Nat) (now : ℚ)
  | conversionArrives (index : Nat) (now : ℚ) (input : ApplyInput)

namespace ManualLink

def authorityEvent? (link : ManualLink) : ManualEvent → Option AuthorityEvent
  | .authority event _ => some event
  | .conversionArrives index now input =>
    link.conversions[index]?.map fun message => .rawManual message now input
  | _ => none

def adapterEvent? (link : ManualLink) : ManualEvent → Option AdapterEvent
  | .adapter event _ => some event
  | .demandArrives index now => link.demands[index]?.map fun message => .manualDemand message now
  | _ => none

/-- The authority after an event, and what it publishes. -/
def authorityStep (lib : NavLibrary) (link : ManualLink) (event : ManualEvent) :
    CommandAuthority × List AuthorityOutput :=
  match link.authorityEvent? event with
  | some received => link.authority.receive lib received
  | none => (link.authority, [])

/-- The adapter after an event, and what it publishes. -/
def adapterStep (drive : DriveLibrary) (link : ManualLink) (event : ManualEvent) :
    DriveAdapterNode × List AdapterOutput :=
  match link.adapterEvent? event with
  | some received => link.adapter.receive drive received
  | none => (link.adapter, [])

def step (lib : NavLibrary) (drive : DriveLibrary) (link : ManualLink) (event : ManualEvent) :
    ManualLink :=
  { authority := (link.authorityStep lib event).1
    adapter := (link.adapterStep drive event).1
    demands :=
      ((link.authorityStep lib event).2.filterMap AuthorityOutput.demand?).reverse ++ link.demands
    conversions :=
      ((link.adapterStep drive event).2.filterMap AdapterOutput.conversion?).reverse ++
        link.conversions }

/-- Both nodes after their constructors. -/
def init (authority : CommandAuthority × List AuthorityOutput) (config : AdapterConfig) :
    ManualLink :=
  { authority := authority.1
    adapter := DriveAdapterNode.start config
    demands := (authority.2.filterMap AuthorityOutput.demand?).reverse }

/-- The active demands published so far, latest first. -/
def active (link : ManualLink) : List ManualDemandMessage :=
  link.demands.filter ManualDemandMessage.active

/-- The adapter publishes a command that it computes from this manual demand. -/
def converts (drive : DriveLibrary) (message : ManualDemandMessage) (command : Twist)
    (link : ManualLink) : ManualEvent → Prop
  | .adapter (.publish now) _ =>
    link.adapter.manualProvenance = some message.provenance ∧
      link.adapter.adapter.command = some (message.signedSpeedMps, message.steeringNormalized) ∧
      link.adapter.adapter.commandUsesDirectSteering = true ∧
      (link.adapter.adapter.step drive now).2.publishCommand = true ∧
      DriveAdapterNode.output (link.adapter.adapter.step drive now).2 = command
  | _ => False

instance (drive : DriveLibrary) (message : ManualDemandMessage) (command : Twist)
    (link : ManualLink) : (event : ManualEvent) →
    Decidable (link.converts drive message command event)
  | .adapter (.publish _) _ => inferInstanceAs (Decidable (_ ∧ _ ∧ _ ∧ _ ∧ _))
  | .adapter (.command ..) _ | .adapter (.manualDemand ..) _ | .adapter (.motion ..) _
  | .adapter (.encoder ..) _ | .adapter (.activeMode ..) _ | .adapter (.muxOutput ..) _
  | .adapter (.parameters ..) _ | .adapter .shutdown _ | .authority .. | .demandArrives ..
  | .conversionArrives .. => isFalse id

/-- A command arrives on `/cmd_vel_nav` while no manual demand is selected. -/
def takesNavCommand (command : PyFloat × PyFloat) (link : ManualLink) : ManualEvent → Prop
  | .adapter (.command message _) _ =>
    link.adapter.manualActive = false ∧ command = (message.linearX, message.angularZ)
  | _ => False

/-- No manual demand, and no other command, reaches the adapter. -/
def keepsNavCommand (link : ManualLink) : ManualEvent → Prop
  | .demandArrives index _ => link.demands[index]? = none
  | .adapter (.command ..) _ => link.adapter.manualActive = true
  | _ => True

/-- A control event with a number in the upper half of the range. -/
def leavesLowerHalf : ManualEvent → Prop
  | .authority (.controlEvent message ..) _ => ¬ InLowerHalf message.sequence
  | _ => False

variable (lib : NavLibrary) (drive : DriveLibrary) (start : ManualLink)

/-- What holds between the nodes and their messages after a history. -/
structure Consistent (past : List ManualEvent) (link : ManualLink) : Prop where
  logged : Logged link.authority.supervisor link.active
  numbered : ¬ Once (fun _ => leavesLowerHalf) past → Numbered link.authority.supervisor link.active
  manual : link.adapter.manualActive = true →
    ∃ message ∈ link.active, link.adapter.manualProvenance = some message.provenance ∧
      link.adapter.adapter.commandUsesDirectSteering = true ∧
      ∀ command, link.adapter.adapter.command = some command →
        command = (message.signedSpeedMps, message.steeringNormalized)
  nav : link.adapter.manualActive = false → ∀ command, link.adapter.adapter.command = some command →
    link.adapter.adapter.commandUsesDirectSteering = false ∧
      Since (along (step lib drive) start keepsNavCommand)
        (along (step lib drive) start (takesNavCommand command)) past
  conversions : ∀ conversion ∈ link.conversions, ∃ message ∈ link.active,
    conversion.provenance = message.provenance ∧
      Once (along (step lib drive) start (converts drive message conversion.command)) past

variable {lib drive start} {past : List ManualEvent} {link : ManualLink}

theorem active_step (event : ManualEvent) :
    (link.step lib drive event).active =
      activeDemands (link.authorityStep lib event).2 ++ link.active := List.filter_append _ _

theorem mem_active_step {message : ManualDemandMessage} (h : message ∈ link.active)
    (event : ManualEvent) : message ∈ (link.step lib drive event).active := by
  rw [active_step]
  exact List.mem_append_right _ h

theorem authorityStep_of_none {index : Nat} (h : link.conversions[index]? = none) (now : ℚ)
    (input : ApplyInput) :
    link.authorityStep lib (.conversionArrives index now input) = (link.authority, []) := by
  unfold authorityStep authorityEvent?
  dsimp only
  rw [h]
  rfl

theorem authorityStep_of_some {index : Nat} {message : ConvertedCommand}
    (h : link.conversions[index]? = some message) (now : ℚ) (input : ApplyInput) :
    link.authorityStep lib (.conversionArrives index now input) =
      link.authority.onRawManual lib message now input := by
  unfold authorityStep authorityEvent?
  dsimp only
  rw [h]
  rfl

theorem adapterStep_of_none {index : Nat} (h : link.demands[index]? = none) (now : ℚ) :
    link.adapterStep drive (.demandArrives index now) = (link.adapter, []) := by
  unfold adapterStep adapterEvent?
  dsimp only
  rw [h]
  rfl

theorem adapterStep_of_some {index : Nat} {message : ManualDemandMessage}
    (h : link.demands[index]? = some message) (now : ℚ) :
    link.adapterStep drive (.demandArrives index now) =
      (link.adapter.onManualDemand message now, []) := by
  unfold adapterStep adapterEvent?
  dsimp only
  rw [h]
  rfl

/-- What survives every supervisor call survives every event of the composition. -/
theorem authorityStep_state {allowed : ControlMessage → Prop}
    {P : CommandSupervisor → List ManualDemandMessage → Prop}
    (hClosed : CommandAuthority.Closed allowed P) (event : ManualEvent)
    (hAllowed : ∀ m now freshNow requestNow read own,
      event = .authority (.controlEvent m now freshNow requestNow read) own → allowed m)
    (h : P link.authority.supervisor link.active) :
    P (link.step lib drive event).authority.supervisor (link.step lib drive event).active := by
  rw [active_step]
  change P (link.authorityStep lib event).1.supervisor _
  cases event with
  | authority received own =>
    exact (CommandAuthority.receive_keeps hClosed received own
      (fun m now freshNow requestNow read hEvent =>
        hAllowed m now freshNow requestNow read (hEvent ▸ own) (by subst hEvent; rfl)) h).state
  | adapter received own => exact h
  | demandArrives index now => exact h
  | conversionArrives index now input =>
    cases hConversion : link.conversions[index]? with
    | none =>
      rw [authorityStep_of_none hConversion]
      exact h
    | some message =>
      rw [authorityStep_of_some hConversion]
      exact CommandAuthority.onRawManual_state hClosed link.authority message now input h

/-- What an event does to the selection of the adapter. -/
inductive SelectionCase (link : ManualLink) (next : DriveAdapterNode) (event : ManualEvent) : Prop
  | same (hSame : DriveAdapterNode.SameSelection link.adapter next)
      (hKeeps : link.keepsNavCommand event)
  | nav (command : PyFloat × PyFloat) (hTakes : link.takesNavCommand command event)
      (hActive : next.manualActive = false) (hCommand : next.adapter.command = some command)
      (hDirect : next.adapter.commandUsesDirectSteering = false)
  | selected (message : ManualDemandMessage) (hMem : message ∈ link.active)
      (hActive : next.manualActive = true)
      (hProvenance : next.manualProvenance = some message.provenance)
      (hCommand : next.adapter.command =
        some (message.signedSpeedMps, message.steeringNormalized))
      (hDirect : next.adapter.commandUsesDirectSteering = true)
  | revoked (hActive : next.manualActive = false) (hCommand : next.adapter.command = none)

theorem selection_case (drive : DriveLibrary) (link : ManualLink) (event : ManualEvent) :
    SelectionCase link (link.adapterStep drive event).1 event := by
  have hSame : DriveAdapterNode.SameSelection link.adapter link.adapter :=
    .of_sameCommand (.refl link.adapter.adapter)
  cases event with
  | authority received own => exact .same hSame trivial
  | conversionArrives index now input => exact .same hSame trivial
  | demandArrives index now =>
    cases hDemand : link.demands[index]? with
    | none =>
      rw [adapterStep_of_none hDemand]
      exact .same hSame hDemand
    | some message =>
      rw [adapterStep_of_some hDemand]
      unfold DriveAdapterNode.onManualDemand
      split
      · rename_i hActive
        exact .selected message (List.mem_filter.mpr ⟨List.mem_of_getElem? hDemand, hActive⟩)
          rfl rfl rfl rfl
      · exact .revoked rfl rfl
  | adapter received own =>
    change SelectionCase link (link.adapter.receive drive received).1 _
    have hReceive := DriveAdapterNode.receive_sameSelection drive link.adapter received
    cases received with
    | command message now =>
      change SelectionCase link (link.adapter.onCommand message now) _
      unfold DriveAdapterNode.onCommand
      split
      · rename_i hActive
        exact .same hSame hActive
      · rename_i hActive
        rw [Bool.not_eq_true] at hActive
        exact .nav (message.linearX, message.angularZ) ⟨hActive, rfl⟩ hActive rfl rfl
    | manualDemand message now => cases own
    | motion | encoder | activeMode | muxOutput | parameters | publish | shutdown =>
      refine .same (hReceive ?_ ?_) trivial
      · intro message now hEvent
        cases hEvent
      · intro message now hEvent
        cases hEvent

/-- The selected manual demand after an event. -/
theorem Consistent.manual_step (h : Consistent lib drive start past link) (event : ManualEvent)
    (hActive : (link.step lib drive event).adapter.manualActive = true) :
    ∃ message ∈ (link.step lib drive event).active,
      (link.step lib drive event).adapter.manualProvenance = some message.provenance ∧
      (link.step lib drive event).adapter.adapter.commandUsesDirectSteering = true ∧
      ∀ command, (link.step lib drive event).adapter.adapter.command = some command →
        command = (message.signedSpeedMps, message.steeringNormalized) := by
  have hCase := link.selection_case drive event
  change (link.adapterStep drive event).1.manualActive = true at hActive
  change ∃ message ∈ _, (link.adapterStep drive event).1.manualProvenance = _ ∧
    (link.adapterStep drive event).1.adapter.commandUsesDirectSteering = _ ∧
    ∀ command, (link.adapterStep drive event).1.adapter.command = _ → _
  generalize (link.adapterStep drive event).1 = next at hCase hActive
  cases hCase with
  | same hSame _ =>
    obtain ⟨message, hMem, hProvenance, hDirect, hCommand⟩ :=
      h.manual (hSame.active.symm.trans hActive)
    exact ⟨message, mem_active_step hMem event, hSame.provenance.trans hProvenance,
      hSame.direct.trans hDirect, fun command hNext =>
        hCommand command (hSame.command command hNext)⟩
  | selected message hMem _ hProvenance hCommand hDirect =>
    refine ⟨message, mem_active_step hMem event, hProvenance, hDirect, fun command hNext => ?_⟩
    exact Option.some.inj (hNext.symm.trans hCommand)
  | nav _ _ hNone _ _ =>
    rw [hNone] at hActive
    cases hActive
  | revoked hNone _ =>
    rw [hNone] at hActive
    cases hActive

/-- The stored Nav2 command after an event. -/
theorem Consistent.nav_step (h : Consistent lib drive start past
    (after (step lib drive) start past))
    (event : ManualEvent) {link : ManualLink} (hLink : link = after (step lib drive) start past)
    (hActive : (link.step lib drive event).adapter.manualActive = false)
    {command : PyFloat × PyFloat}
    (hCommand : (link.step lib drive event).adapter.adapter.command = some command) :
    (link.step lib drive event).adapter.adapter.commandUsesDirectSteering = false ∧
      Since (along (step lib drive) start keepsNavCommand)
        (along (step lib drive) start (takesNavCommand command)) (event :: past) := by
  subst hLink
  have hCase := (after (step lib drive) start past).selection_case drive event
  change ((after (step lib drive) start past).adapterStep drive event).1.manualActive = _ at hActive
  change ((after (step lib drive) start past).adapterStep drive event).1.adapter.command = _
    at hCommand
  change ((after (step lib drive) start past).adapterStep drive
    event).1.adapter.commandUsesDirectSteering = _ ∧ _
  generalize ((after (step lib drive) start past).adapterStep drive event).1 = next
    at hCase hActive hCommand
  cases hCase with
  | same hSame hKeeps =>
    obtain ⟨hDirect, hSince⟩ :=
      h.nav (hSame.active.symm.trans hActive) command (hSame.command command hCommand)
    exact ⟨hSame.direct.trans hDirect, hSince.keep hKeeps⟩
  | nav taken hTakes _ hTaken hDirect =>
    cases hTaken.symm.trans hCommand
    exact ⟨hDirect, .start hTakes⟩
  | selected _ _ hSelected _ _ _ =>
    rw [hSelected] at hActive
    cases hActive
  | revoked _ hNone =>
    rw [hNone] at hCommand
    cases hCommand

/-- A conversion is published by a cycle that converts a manual demand. -/
theorem Consistent.converts_of_publish (h : Consistent lib drive start past link)
    {event : ManualEvent} {conversion : ConvertedCommand}
    (hOutput : .manual conversion ∈ (link.adapterStep drive event).2) :
    ∃ message ∈ link.active, conversion.provenance = message.provenance ∧
      link.converts drive message conversion.command event := by
  cases event with
  | adapter received own =>
    obtain ⟨now, rfl, hPublished⟩ := DriveAdapterNode.mem_receive hOutput
    obtain ⟨hPublish, hKind⟩ := DriveAdapterNode.mem_publish hPublished
    rcases hKind with ⟨provenance, hActive, hProvenance, hEq⟩ | ⟨_, hEq⟩
    · cases hEq
      obtain ⟨message, hMem, hSelected, hDirect, hCommand⟩ := h.manual hActive
      obtain ⟨command, hHeld⟩ := DriveAdapter.command_of_publish hPublish
      cases hProvenance.symm.trans hSelected
      exact ⟨message, hMem, rfl, hProvenance, hCommand command hHeld ▸ hHeld,
        hDirect, hPublish, rfl⟩
    · cases hEq
  | authority received own => cases hOutput
  | conversionArrives index now input => cases hOutput
  | demandArrives index now =>
    cases hDemand : link.demands[index]? with
    | none =>
      rw [adapterStep_of_none hDemand] at hOutput
      cases hOutput
    | some message =>
      rw [adapterStep_of_some hDemand] at hOutput
      cases hOutput

theorem consistent_step (h : Consistent lib drive start past (after (step lib drive) start past))
    (event : ManualEvent) :
    Consistent lib drive start (event :: past) (after (step lib drive) start (event :: past)) := by
  refine ⟨?_, fun hLower => ?_, h.manual_step event, fun hActive command hCommand => ?_,
    fun conversion hMem => ?_⟩
  · exact authorityStep_state closed_logged event (fun _ _ _ _ _ _ _ => trivial) h.logged
  · refine authorityStep_state closed_numbered event ?_ (h.numbered fun hPast => hLower hPast.cons)
    intro m now freshNow requestNow read own hEvent
    by_contra hUpper
    exact hLower (.start (hEvent ▸ hUpper))
  · exact h.nav_step event rfl hActive hCommand
  · rcases List.mem_append.mp hMem with hNew | hOld
    · obtain ⟨output, hOutput, hConversion⟩ := List.mem_filterMap.mp (List.mem_reverse.mp hNew)
      cases output with
      | autonomy command => cases hConversion
      | manual converted =>
        cases hConversion
        obtain ⟨message, hMessage, hProvenance, hConverts⟩ := h.converts_of_publish hOutput
        exact ⟨message, mem_active_step hMessage event, hProvenance, .start hConverts⟩
    · obtain ⟨message, hMessage, hProvenance, hOnce⟩ := h.conversions conversion hOld
      exact ⟨message, mem_active_step hMessage event, hProvenance, hOnce.cons⟩

theorem consistent_after (hLogged : Logged start.authority.supervisor start.active)
    (hNumbered : Numbered start.authority.supervisor start.active)
    (hActive : start.adapter.manualActive = false)
    (hCommand : start.adapter.adapter.command = none) (hConversions : start.conversions = [])
    (past : List ManualEvent) :
    Consistent lib drive start past (after (step lib drive) start past) := by
  induction past with
  | nil =>
    refine ⟨hLogged, fun _ => hNumbered, fun hManual => ?_, fun _ command hHeld => ?_,
      fun conversion hMem => ?_⟩
    · rw [after_nil, hActive] at hManual
      cases hManual
    · rw [after_nil, hCommand] at hHeld
      cases hHeld
    · rw [after_nil, hConversions] at hMem
      cases hMem
  | cons event past ih => exact consistent_step ih event

/-- The composition right after both nodes have started. -/
def started (lib : NavLibrary) (supervisor : CommandSupervisor)
    (localControlTimeout autoBrakeWindow : ℚ) (requesterId : String) (now : ℚ)
    (input : ApplyInput) (config : AdapterConfig) : ManualLink :=
  init (CommandAuthority.start lib supervisor localControlTimeout autoBrakeWindow requesterId now
    input) config

theorem consistent_started (lib : NavLibrary) (drive : DriveLibrary)
    (supervisor : CommandSupervisor) (localControlTimeout autoBrakeWindow : ℚ)
    (requesterId : String) (now : ℚ) (input : ApplyInput) (config : AdapterConfig)
    (past : List ManualEvent) :
    let start := started lib supervisor localControlTimeout autoBrakeWindow requesterId now input
      config
    Consistent lib drive start past (after (step lib drive) start past) := by
  intro start
  have hSupervisor : start.authority.supervisor = supervisor.step ⟨.restart, now⟩ :=
    CommandAuthority.supervise_supervisor _ _ _ _ _
  have hActive : start.active = [] := CommandAuthority.supervise_demands _ _ _ _ _
  refine consistent_after ?_ ?_ rfl rfl rfl past
  · rw [hSupervisor, hActive]
    exact ⟨fun hHeld => absurd rfl hHeld, fun held hHeld => by cases hHeld⟩
  · rw [hSupervisor, hActive]
    exact ⟨fun message hMem => absurd hMem List.not_mem_nil, fun last hLast => (by cases hLast),
      List.Pairwise.nil⟩

/-! ## The provenance of the outputs -/

/-- The command is the adapter's conversion of the manual demand that the supervisor holds: a
demand with the same number, lease generation and runtime epoch. It is another demand than the held
one only if the held one reuses its number after the numbers left the lower half of the range. -/
def ConvertsHeld (lib : NavLibrary) (drive : DriveLibrary) (start : ManualLink)
    (past : List ManualEvent) (link : ManualLink) (command : Twist) : Prop :=
  ∃ held message, link.authority.supervisor.manualDemand = some held ∧
    message ∈ link.active ∧
    message.provenance = ⟨held.sequence, link.authority.supervisor.state.leaseGeneration,
      link.authority.runtimeEpoch⟩ ∧
    Once (along (step lib drive) start (converts drive message command)) past ∧
    (Carries message held link.authority.supervisor.state.leaseGeneration ∨
      Once (fun _ => leavesLowerHalf) past ∧
        ∃ latest earlier, link.active = latest :: earlier ∧ message ∈ earlier ∧
          Carries latest held link.authority.supervisor.state.leaseGeneration)

/-- The command is the adapter's conversion of a Nav2 command that arrived while no manual demand
was selected, and no manual demand has reached the adapter since. -/
def ConvertsNav (lib : NavLibrary) (drive : DriveLibrary) (start : ManualLink)
    (past : List ManualEvent) (link : ManualLink) (event : ManualEvent) (command : Twist) : Prop :=
  ∃ now own nav, event = .adapter (.publish now) own ∧
    link.adapter.adapter.command = some nav ∧
    link.adapter.adapter.commandUsesDirectSteering = false ∧
    command = DriveAdapterNode.output (link.adapter.adapter.step drive now).2 ∧
    Since (along (step lib drive) start keepsNavCommand)
      (along (step lib drive) start (takesNavCommand nav)) past

theorem Consistent.convertsNav (h : Consistent lib drive start past link) {event : ManualEvent}
    {command : Twist} (hOutput : .autonomy command ∈ (link.adapterStep drive event).2) :
    ConvertsNav lib drive start past link event command := by
  cases event with
  | adapter received own =>
    obtain ⟨now, rfl, hPublished⟩ := DriveAdapterNode.mem_receive hOutput
    obtain ⟨hPublish, hKind⟩ := DriveAdapterNode.mem_publish hPublished
    rcases hKind with ⟨_, _, _, hEq⟩ | ⟨hSource, hEq⟩
    · cases hEq
    · obtain ⟨nav, hHeld⟩ := DriveAdapter.command_of_publish hPublish
      have hInactive : link.adapter.manualActive = false := by
        rcases hSource with hInactive | hNone
        · exact hInactive
        · by_contra hActive
          rw [Bool.not_eq_false] at hActive
          obtain ⟨message, _, hProvenance, _⟩ := h.manual hActive
          rw [hNone] at hProvenance
          cases hProvenance
      obtain ⟨hDirect, hSince⟩ := h.nav hInactive nav hHeld
      exact ⟨now, own, nav, rfl, hHeld, hDirect, AdapterOutput.autonomy.inj hEq, hSince⟩
  | authority received own => cases hOutput
  | conversionArrives index now input => cases hOutput
  | demandArrives index now =>
    cases hDemand : link.demands[index]? with
    | none =>
      rw [adapterStep_of_none hDemand] at hOutput
      cases hOutput
    | some message =>
      rw [adapterStep_of_some hDemand] at hOutput
      cases hOutput

/-- A non-brake manual output forwards a conversion with the provenance of the held demand. -/
theorem forwarded_of_mem (hLeased : link.authority.supervisor.Leased) {event : ManualEvent}
    {command : Twist} (hOutput : .manual command ∈ (link.authorityStep lib event).2)
    (hBrake : command ≠ {}) :
    ∃ conversion ∈ link.conversions,
      CommandAuthority.Forwarded link.authority (link.authorityStep lib event).1 conversion
        command ∧
      (link.authorityStep lib event).1.runtimeEpoch = link.authority.runtimeEpoch ∧
      ¬ leavesLowerHalf event := by
  have hClosed : CommandAuthority.Closed (fun _ => True) fun _ _ => True :=
    fun _ _ _ _ _ => trivial
  cases event with
  | authority received own =>
    have hKeeps := @CommandAuthority.receive_keeps lib link.authority (fun _ => True)
      (fun _ _ => True) hClosed received own (fun _ _ _ _ _ _ => trivial) [] trivial
    exact absurd (hKeeps.brakes command hOutput) hBrake
  | adapter received own => cases hOutput
  | demandArrives index now => cases hOutput
  | conversionArrives index now input =>
    cases hConversion : link.conversions[index]? with
    | none =>
      rw [authorityStep_of_none hConversion] at hOutput
      cases hOutput
    | some conversion =>
      rw [authorityStep_of_some hConversion] at hOutput ⊢
      rcases CommandAuthority.onRawManual_forwards hLeased hOutput with rfl | hForwarded
      · exact absurd rfl hBrake
      · exact ⟨conversion, List.mem_of_getElem? hConversion, hForwarded,
          CommandAuthority.onRawManual_runtimeEpoch _ _ _ _ _, id⟩

theorem Consistent.convertsHeld (h : Consistent lib drive start past link) {event : ManualEvent}
    (hNext : Consistent lib drive start (event :: past) (link.step lib drive event))
    {command : Twist} (hOutput : .manual command ∈ (link.authorityStep lib event).2)
    (hBrake : command ≠ {}) :
    ConvertsHeld lib drive start past (link.step lib drive event) command := by
  obtain ⟨conversion, hMem, hForwarded, hEpoch, hEvent⟩ :=
    forwarded_of_mem h.logged.leased hOutput hBrake
  obtain ⟨message, hMessage, hProvenance, hConverts⟩ := h.conversions conversion hMem
  obtain ⟨held, hHeld, hSequence⟩ := hForwarded.held
  have hIdentity : message.provenance = ⟨held.sequence,
      (link.step lib drive event).authority.supervisor.state.leaseGeneration,
      (link.step lib drive event).authority.runtimeEpoch⟩ := by
    rw [← hProvenance]
    change _ = Provenance.mk held.sequence
      (link.authorityStep lib event).1.supervisor.state.leaseGeneration
      (link.authorityStep lib event).1.runtimeEpoch
    rw [hSequence, ← hForwarded.generation, hEpoch, ← hForwarded.epoch]
  obtain ⟨latest, earlier, hActive, hCarries⟩ := hNext.logged.latest held hHeld
  have hLogged : message ∈ (link.step lib drive event).active := mem_active_step hMessage event
  refine ⟨held, message, hHeld, hLogged, hIdentity, hForwarded.command ▸ hConverts, ?_⟩
  rw [hActive] at hLogged
  rcases List.mem_cons.mp hLogged with rfl | hEarlier
  · exact Or.inl hCarries
  · refine Or.inr ⟨?_, latest, earlier, hActive, hEarlier, hCarries⟩
    -- within the lower half the later demand would have the larger number
    by_contra hLower
    have hNumbered := hNext.numbered fun hOnce => hOnce.elim hEvent fun hPast => hLower hPast.2
    rw [hActive] at hNumbered
    have hRising := List.rel_of_pairwise_cons hNumbered.rising hEarlier
    rw [hCarries.generation, hCarries.sequence, hIdentity] at hRising
    exact absurd (hRising rfl) (lt_irrefl _)

/-- After every history, whatever arrives late, twice or never: a manual command that the authority
forwards is the conversion of the demand the supervisor holds, and an autonomy command of the
adapter is the conversion of a Nav2 command. `Consistent` follows every command through both nodes
and the channels between them, and it holds after every history. -/
theorem outputs_of_own_source (lib : NavLibrary) (drive : DriveLibrary)
    (supervisor : CommandSupervisor) (localControlTimeout autoBrakeWindow : ℚ)
    (requesterId : String) (now : ℚ) (input : ApplyInput) (config : AdapterConfig)
    (past : List ManualEvent) (event : ManualEvent) :
    let start := started lib supervisor localControlTimeout autoBrakeWindow requesterId now input
      config
    let link := after (step lib drive) start past
    (∀ command, .manual command ∈ (link.authorityStep lib event).2 → command ≠ {} →
      ConvertsHeld lib drive start past (link.step lib drive event) command) ∧
      ∀ command, .autonomy command ∈ (link.adapterStep drive event).2 →
        ConvertsNav lib drive start past link event command := by
  intro start link
  have hConsistent : ∀ history, Consistent lib drive start history
      (after (step lib drive) start history) :=
    consistent_started lib drive supervisor localControlTimeout autoBrakeWindow requesterId now
      input config
  refine ⟨fun command hOutput hBrake => ?_, fun command hOutput => ?_⟩
  · exact (hConsistent past).convertsHeld (hConsistent (event :: past)) hOutput hBrake
  · exact (hConsistent past).convertsNav hOutput

/-! ## Runs -/

/-- A library whose functions agree with the real ones at zero. -/
def linearDrive : DriveLibrary := { atan := id, tan := id, pi := 355 / 113 }

def readAt (now : ℚ) : ApplyInput :=
  { now, stateNow := now, missionId := ⟨List.replicate 16 1, rfl⟩ }

def plainStarted (config : AdapterConfig) : ManualLink :=
  started MissionRuntime.plainLibrary (CommandSupervisor.defaultSupervisor "m") (1 / 10) (3 / 10)
    "paddock" 0 (readAt 0) config

def plainStep : ManualLink → ManualEvent → ManualLink :=
  step MissionRuntime.plainLibrary linearDrive

/-- A control event of the browser that owns the lease. -/
def operatorEvent (event : ControlEvent) (sequence : Int) (now speed : ℚ) : ManualEvent :=
  .authority
    (.controlEvent
      { event, clientId := "c", leaseId := "l", sequence, manualSpeedMps := .finite speed }
      now now now (readAt now)) rfl

/-- Autonomy mode is ready, STOP is clear and the browser holds the lease; latest event first. -/
def readyRun : List ManualEvent :=
  [operatorEvent .leaseAcquired 0 0 0,
    .authority
      (.stopState
        { stamp := 0, bootId := "b", generation := 1, stopped := false, locked := false
          healthy := true, applied := false, clearPending := false, reason := ""
          lastRequesterId := "", lastRequestId := 0, lastRequestAccepted := true
          lastRequestReason := "" } 0) rfl,
    .authority
      (.mode
        { mode := 2, status := 0, activeAutonomyMap := "m", runtimeEpoch := 5, ready := true }
        0 (readAt 0)) rfl]

/-- A forward demand has been converted. -/
def forwardRun : List ManualEvent :=
  [.adapter (.publish (2 / 100)) rfl, .demandArrives 0 (1 / 100),
    operatorEvent .manualActive 1 (1 / 100) (3 / 10)] ++ readyRun

/-- Two leaps of the number later a reverse demand reuses it. -/
def reusedRun : List ManualEvent :=
  [operatorEvent .manualActive 1 (6 / 100) (-3 / 10),
    operatorEvent .heartbeat (2 ^ 64 - 1) (5 / 100) 0,
    operatorEvent .heartbeat (2 ^ 63) (4 / 100) 0] ++ forwardRun

/-- The conversion of the forward demand arrives. -/
def lateConversion (now : ℚ) : ManualEvent := .conversionArrives 0 now (readAt now)

/-- The conversion of the forward demand. -/
def forwardCommand : Twist := { linearX := .finite (663 / 12500) }

/-- Manual driving integrates, then a Nav2 command takes over. `echo` is the output that the
multiplexer reports back. -/
def handoverRun (speed echo : ℚ) : List ManualEvent :=
  [.adapter (.command { linearX := .finite (3 / 10) } (30 / 100)) rfl,
    .demandArrives 0 (25 / 100),
    operatorEvent .manualInactive 2 (24 / 100) 0,
    .adapter (.publish (20 / 100)) rfl,
    .adapter (.encoder (.finite 0) 1 (19 / 100) (19 / 100)) rfl,
    .adapter (.publish (12 / 100)) rfl,
    .adapter (.muxOutput (.finite echo) (.finite 0) (11 / 100)) rfl,
    .adapter (.publish (10 / 100)) rfl,
    .adapter (.encoder (.finite 0) 1 (9 / 100) (9 / 100)) rfl,
    .demandArrives 0 (1 / 100), operatorEvent .manualActive 1 (1 / 100) speed] ++ readyRun

def tunedConfig : AdapterConfig := { AdapterConfig.default with integralGain := 1 / 10 }

theorem outputs_of_own_source_runs :
    ConvertsHeld MissionRuntime.plainLibrary linearDrive (plainStarted AdapterConfig.default)
        forwardRun
        (after plainStep (plainStarted AdapterConfig.default)
          (lateConversion (3 / 100) :: forwardRun)) forwardCommand ∧
      ConvertsNav MissionRuntime.plainLibrary linearDrive (plainStarted tunedConfig)
        (handoverRun (3 / 10) (1701 / 25000))
        (after plainStep (plainStarted tunedConfig) (handoverRun (3 / 10) (1701 / 25000)))
        (.adapter (.publish (31 / 100)) rfl) { linearX := .finite (222 / 3125) } :=
  ⟨(outputs_of_own_source MissionRuntime.plainLibrary linearDrive
      (CommandSupervisor.defaultSupervisor "m") (1 / 10) (3 / 10) "paddock" 0 (readAt 0)
      AdapterConfig.default forwardRun (lateConversion (3 / 100))).1 forwardCommand
      (by decide +kernel) (by decide +kernel),
    (outputs_of_own_source MissionRuntime.plainLibrary linearDrive
      (CommandSupervisor.defaultSupervisor "m") (1 / 10) (3 / 10) "paddock" 0 (readAt 0)
      tunedConfig (handoverRun (3 / 10) (1701 / 25000)) (.adapter (.publish (31 / 100)) rfl)).2 _
      (by decide +kernel)⟩

/-- The forward conversion is forwarded while the supervisor holds the reverse demand that reuses
its number, which nothing has converted. And the integrator is kept when the source changes: after
manual driving at another speed the same Nav2 command gives another output. -/
theorem reused_number_and_kept_integrator :
    (∃ latest,
      .manual forwardCommand ∈ ((after plainStep (plainStarted AdapterConfig.default)
        reusedRun).authorityStep MissionRuntime.plainLibrary (lateConversion (7 / 100))).2 ∧
      forwardCommand ≠ {} ∧
      (after plainStep (plainStarted AdapterConfig.default)
        (lateConversion (7 / 100) :: reusedRun)).authority.supervisor.manualDemand =
          some ⟨1, -3 / 10, 0⟩ ∧
      (after plainStep (plainStarted AdapterConfig.default)
        (lateConversion (7 / 100) :: reusedRun)).active.head? = some latest ∧
      latest.signedSpeedMps = .finite (-3 / 10) ∧
      ¬ Once (along plainStep (plainStarted AdapterConfig.default)
        (converts linearDrive latest forwardCommand)) reusedRun) ∧
    ∃ command other, command ≠ other ∧
      .autonomy command ∈ ((after plainStep (plainStarted tunedConfig)
        (handoverRun (3 / 10) (1701 / 25000))).adapterStep linearDrive
          (.adapter (.publish (31 / 100)) rfl)).2 ∧
      .autonomy other ∈ ((after plainStep (plainStarted tunedConfig)
        (handoverRun (4 / 10) (2123 / 25000))).adapterStep linearDrive
          (.adapter (.publish (31 / 100)) rfl)).2 :=
  ⟨⟨⟨true, ⟨1, 1, 5⟩, .finite (-3 / 10), .finite 0⟩, by decide +kernel⟩,
    { linearX := .finite (222 / 3125) }, { linearX := .finite (1801 / 25000) }, by decide +kernel⟩

end ManualLink

end PreRunner.Paddock
