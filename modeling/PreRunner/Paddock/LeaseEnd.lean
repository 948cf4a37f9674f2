import PreRunner.Paddock.LeaseTenure

/-!
# Ending a lease

`LEASE_RELEASED` and `LEASE_LOST` end a lease for good when they reach it while it holds. A lease
that has lapsed no longer has an owner: the event that should end it is refused, and the record
that a heartbeat may reinstate stays. The main result says that ended leases stay ended, whatever
heartbeat comes next, exactly if every ending event arrives before its lease has lapsed.
-/

namespace PreRunner.Paddock

open PaddockState Runs

namespace CommandSupervisor

/-- The active lease is the one with these ids. -/
def Holds (s : CommandSupervisor) (client lease : String) : Prop :=
  s.state.leaseId ≠ "" ∧ s.state.leaseClientId = client ∧ s.state.leaseId = lease

instance (s : CommandSupervisor) (client lease : String) : Decidable (s.Holds client lease) :=
  inferInstanceAs (Decidable (_ ∧ _))

/-- A call delivers a `LEASE_ACQUIRED` with these ids. -/
def Reacquires (client lease : String) (c : TimedCall) : Prop :=
  ∃ m, c.call = .handleControlEvent m ∧ m.event = .leaseAcquired ∧ m.clientId = client ∧
    m.leaseId = lease

/-- A call delivers a heartbeat. -/
def Beats (c : TimedCall) : Prop :=
  ∃ m, c.call = .handleControlEvent m ∧ m.event = .heartbeat

section

variable (init : CommandSupervisor)

/-- The last sequence number that the supervisor took; a lapse does not forget it here. -/
def lastNumber : List TimedCall → Option Int
  | [] => none
  | c :: past =>
    match (after step init (c :: past)).lastControlSequence with
    | some last => some last
    | none => lastNumber past

/-- A call delivers an ending event of the active or of the lapsed lease with these ids, with a
number newer than the last one taken under it. -/
def Ends (client lease : String) (past : List TimedCall) (c : TimedCall) : Prop :=
  ∃ m last, c.call = .handleControlEvent m ∧ endsLease m.event = true ∧ m.clientId = client ∧
    m.leaseId = lease ∧ ((after step init past).Holds client lease ∨
      (after step init past).lapsedLease = some (client, lease)) ∧
    lastNumber init past = some last ∧ isNewerSequence m.sequence last = true

/-- The lease with these ids was ended, and no later `LEASE_ACQUIRED` bears them. -/
def Ended (client lease : String) (past : List TimedCall) : Prop :=
  Since (fun _ c => ¬ Reacquires client lease c) (Ends init client lease) past

/-- No lease that was ended is active. -/
def StaysEnded (past : List TimedCall) : Prop :=
  ∀ client lease, Ended init client lease past → ¬ (after step init past).Holds client lease

/-- An ending event is delivered when its lease has lapsed. -/
def EndsLapsed (past : List TimedCall) (c : TimedCall) : Prop :=
  ∃ client lease, Ends init client lease past c ∧
    ((after step init past).found c).state.leaseId = ""

end

variable {init : CommandSupervisor} {past : List TimedCall} {c : TimedCall}

/-! ## The lease record -/

/-- A lapsed lease is recorded only while no lease is active, and it has both ids; an active
lease has a client and a last number. -/
structure Recorded (s : CommandSupervisor) : Prop where
  client : s.state.leaseId ≠ "" → s.state.leaseClientId ≠ ""
  last : s.state.leaseId ≠ "" → s.lastControlSequence ≠ none
  lapsed : ∀ client lease, s.lapsedLease = some (client, lease) →
    s.state.leaseId = "" ∧ client ≠ "" ∧ lease ≠ ""

theorem Recorded.dropLease {s : CommandSupervisor} (h : s.Recorded)
    (hActive : s.state.leaseId ≠ "") : s.dropLease.Recorded where
  client := fun hLease => absurd rfl hLease
  last := fun hLease => absurd rfl hLease
  lapsed := by
    rintro client lease ⟨⟩
    exact ⟨rfl, h.client hActive, hActive⟩

theorem Recorded.found {s : CommandSupervisor} (h : s.Recorded) (c : TimedCall) :
    (s.found c).Recorded := by
  rcases s.found_cases c with hSame | ⟨hActive, hDropped⟩
  · rwa [hSame]
  · rw [hDropped]
    exact h.dropLease hActive

theorem Recorded.of_same {s next : CommandSupervisor} (h : s.Recorded) (hSame : SameRecord s next) :
    next.Recorded where
  client := by
    rw [hSame.lease, hSame.client]
    exact h.client
  last := by
    rw [hSame.lease, hSame.last]
    exact h.last
  lapsed := by
    rw [hSame.lapsed, hSame.lease]
    exact h.lapsed

theorem Recorded.step {s : CommandSupervisor} (h : s.Recorded) (c : TimedCall) :
    (s.step c).Recorded := by
  cases s.lease_case c with
  | kept hSame => exact (h.found c).of_same hSame
  | granted m hCall hTakes hAccepted hNext =>
    rw [hNext]
    exact ⟨fun _ => hTakes.client, fun _ => nofun, nofun⟩
  | taken m hCall hOwns hFound hEvent hClient hLease hLast hLapsed =>
    refine ⟨?_, fun _ => by rw [hLast]; nofun, ?_⟩
    · rw [hLease, hClient]
      exact h.client
    · rw [hLapsed, hLease]
      exact h.lapsed
  | ended m hCall hOwns hFound hEvent hLease hLapsed =>
    refine ⟨fun hActive => absurd hLease hActive, fun hActive => absurd hLease hActive,
      fun client lease hSome => ?_⟩
    rw [hLapsed] at hSome
    exact ⟨hLease, (h.lapsed client lease hSome).2⟩
  | restarted hCall hLease hLapsed =>
    refine ⟨fun hActive => absurd hLease hActive, fun hActive => absurd hLease hActive,
      fun client lease hSome => ?_⟩
    rw [hLapsed] at hSome
    cases hSome

theorem recorded_after (hFresh : init.Recorded) (past : List TimedCall) :
    (after step init past).Recorded :=
  after_invariant hFresh (fun _ c h => h.step c) past

/-- Under an active lease the last number taken is the recorded one. -/
theorem lastNumber_of_active (hFresh : init.Recorded) (hNone : init.state.leaseId = "")
    (hActive : (after step init past).state.leaseId ≠ "") :
    lastNumber init past = (after step init past).lastControlSequence := by
  cases past with
  | nil => exact absurd hNone hActive
  | cons c past =>
    rw [lastNumber]
    split
    · rename_i last hLast
      exact hLast.symm
    · rename_i hLast
      exact absurd hLast ((recorded_after hFresh (c :: past)).last hActive)

/-! ## Ended leases -/

/-- A lease that was ended is neither active nor reinstatable. -/
def Gone (s : CommandSupervisor) (client lease : String) : Prop :=
  ¬ s.Holds client lease ∧ s.lapsedLease ≠ some (client, lease)

theorem Gone.found {s : CommandSupervisor} {client lease : String} (h : s.Gone client lease)
    (c : TimedCall) : (s.found c).Gone client lease := by
  rcases s.found_cases c with hSame | ⟨hActive, hDropped⟩
  · rwa [hSame]
  · rw [hDropped]
    refine ⟨fun hHolds => hHolds.1 rfl, fun hLapsed => ?_⟩
    have hIds := Prod.mk.inj (Option.some.inj hLapsed)
    exact h.1 ⟨hActive, hIds.1, hIds.2⟩

theorem Gone.of_same {s next : CommandSupervisor} {client lease : String} (h : s.Gone client lease)
    (hClient : next.state.leaseClientId = s.state.leaseClientId)
    (hLease : next.state.leaseId = s.state.leaseId) (hLapsed : next.lapsedLease = s.lapsedLease) :
    next.Gone client lease := by
  unfold Gone Holds
  rw [hClient, hLease, hLapsed]
  exact h

/-- Without a `LEASE_ACQUIRED` a lease that is gone does not come back. -/
theorem Gone.step {s : CommandSupervisor} {client lease : String} (h : s.Gone client lease)
    (hKept : ¬ Reacquires client lease c) : (s.step c).Gone client lease := by
  cases s.lease_case c with
  | kept hSame => exact (h.found c).of_same hSame.client hSame.lease hSame.lapsed
  | granted m hCall hTakes hAccepted hNext =>
    rw [hNext]
    refine ⟨?_, nofun⟩
    rintro ⟨-, hClient, hLease⟩
    change m.clientId = client at hClient
    change m.leaseId = lease at hLease
    rcases hTakes.event with ⟨-, hLapsed⟩ | hAcquired
    · rw [hClient, hLease] at hLapsed
      exact (h.found c).2 hLapsed
    · exact hKept ⟨m, hCall, hAcquired, hClient, hLease⟩
  | taken m hCall hOwns hFound hEvent hClient hLease hLast hLapsed =>
    exact h.of_same hClient hLease hLapsed
  | ended m hCall hOwns hFound hEvent hLease hLapsed =>
    exact ⟨fun hHolds => hHolds.1 hLease, hLapsed ▸ h.2⟩
  | restarted hCall hLease hLapsed =>
    refine ⟨fun hHolds => hHolds.1 hLease, ?_⟩
    rw [hLapsed]
    nofun

/-- An ending event that finds its lease ends it. -/
theorem gone_of_ends (hFresh : init.Recorded) (hNone : init.state.leaseId = "")
    {client lease : String} (h : Ends init client lease past c)
    (hFound : ((after step init past).found c).state.leaseId ≠ "") :
    (after step init (c :: past)).Gone client lease := by
  obtain ⟨m, last, hCall, hEnds, hClient, hLease, hBears, hLast, hNewer⟩ := h
  have hRecorded := recorded_after hFresh past
  have hLive := found_of_active hFound
  have hActive := hLive ▸ hFound
  have hHolds : (after step init past).Holds client lease := by
    refine hBears.resolve_right fun hLapsed => ?_
    exact hActive (hRecorded.lapsed client lease hLapsed).1
  have hOwns : (after step init past).Owns m := by
    refine ⟨hActive, hClient.trans hHolds.2.1.symm, hLease.trans hHolds.2.2.symm, fun n hn => ?_⟩
    rw [lastNumber_of_active hFresh hNone hActive, hn] at hLast
    cases hLast
    exact hNewer
  have hNot : m.event ≠ .leaseAcquired := by
    intro hEvent
    rw [hEvent] at hEnds
    cases hEnds
  rw [after_cons]
  cases (after step init past).lease_case c with
  | kept hSame hRefused =>
    refine absurd ?_ ((hRefused m hCall).2 hNot)
    rw [hLive]
    exact hOwns
  | granted m' hCall' hTakes => exact absurd hTakes.free hFound
  | taken m' hCall' _ _ hEvent =>
    cases Call.handleControlEvent.inj (hCall.symm.trans hCall')
    rw [hEnds] at hEvent
    cases hEvent
  | ended m' hCall' _ _ _ hFree hLapsed =>
    refine ⟨fun hHolds' => hHolds'.1 hFree, fun hSome => ?_⟩
    rw [hLapsed] at hSome
    exact hActive (hRecorded.lapsed client lease hSome).1
  | restarted hCall' =>
    rw [hCall] at hCall'
    cases hCall'

/-- While every ending event arrives in time, ended leases are gone. -/
theorem gone_of_ended (hFresh : init.Recorded) (hNone : init.state.leaseId = "")
    (hTimely : Always (fun past c => ¬ EndsLapsed init past c) past) {client lease : String}
    (h : Ended init client lease past) : (after step init past).Gone client lease := by
  induction past with
  | nil => exact absurd h since_nil
  | cons c past ih =>
    rcases since_cons.mp h with hEnds | ⟨hKept, hBefore⟩
    · refine gone_of_ends hFresh hNone hEnds fun hFree => ?_
      exact hTimely.1 ⟨client, lease, hEnds, hFree⟩
    · exact (ih hTimely.2 hBefore).step hKept

/-- An ending event that comes too late leaves its lease reinstatable. -/
theorem lapsed_of_endsLapsed (hFresh : init.Recorded) {client lease : String}
    (h : Ends init client lease past c)
    (hFree : ((after step init past).found c).state.leaseId = "") :
    (after step init (c :: past)).state.leaseId = "" ∧
      (after step init (c :: past)).lapsedLease = some (client, lease) := by
  obtain ⟨m, last, hCall, hEnds, hClient, hLease, hBears, -⟩ := h
  have hRecorded := recorded_after hFresh past
  have hLapsed : ((after step init past).found c).lapsedLease = some (client, lease) := by
    rcases (after step init past).found_cases c with hSame | ⟨hActive, hDropped⟩
    · rw [hSame] at hFree ⊢
      exact hBears.resolve_left fun hHolds => hHolds.1 hFree
    · have hHolds : (after step init past).Holds client lease := by
        refine hBears.resolve_right fun hLapsed => ?_
        exact hActive (hRecorded.lapsed client lease hLapsed).1
      rw [hDropped, ← hHolds.2.1, ← hHolds.2.2]
      rfl
  rw [after_cons]
  cases (after step init past).lease_case c with
  | kept hSame => exact ⟨hSame.lease.trans hFree, hSame.lapsed.trans hLapsed⟩
  | granted m' hCall' hTakes =>
    cases Call.handleControlEvent.inj (hCall.symm.trans hCall')
    rcases hTakes.event with ⟨hBeat, -⟩ | hAcquired
    · rw [hBeat] at hEnds
      cases hEnds
    · rw [hAcquired] at hEnds
      cases hEnds
  | taken m' hCall' hOwns hFound => exact absurd (hFound ▸ hFree) hOwns.active
  | ended m' hCall' hOwns hFound => exact absurd (hFound ▸ hFree) hOwns.active
  | restarted hCall' =>
    rw [hCall] at hCall'
    cases hCall'

/-- The heartbeat that reinstates a lapsed lease. -/
def reviving (client lease : String) (now : ℚ) : TimedCall :=
  ⟨.handleControlEvent { event := .heartbeat, clientId := client, leaseId := lease, sequence := 0 },
    now⟩

theorem holds_of_reviving (hFresh : init.Recorded) {client lease : String}
    (hFree : (after step init past).state.leaseId = "")
    (hLapsed : (after step init past).lapsedLease = some (client, lease)) (now : ℚ) :
    (after step init (reviving client lease now :: past)).Holds client lease := by
  obtain ⟨-, hClient, hLease⟩ := (recorded_after hFresh past).lapsed client lease hLapsed
  have hFound : (after step init past).found (reviving client lease now) =
      after step init past := by
    rcases (after step init past).found_cases (reviving client lease now) with hSame | ⟨hActive, -⟩
    · exact hSame
    · exact absurd hFree hActive
  have hTakes : ((after step init past).found (reviving client lease now)).TakesLease
      { event := .heartbeat, clientId := client, leaseId := lease, sequence := 0 } := by
    rw [hFound]
    exact ⟨hFree, hClient, hLease, Or.inl ⟨rfl, hLapsed⟩⟩
  rw [after_cons, (step_takesLease rfl hTakes).1]
  exact ⟨hLease, rfl, rfl⟩

theorem init_recorded {lease raw : PyFloat} {liveness : Option PyFloat} {manual speed : PyFloat}
    {floor : ℚ} {map : String} {s : CommandSupervisor}
    (h : CommandSupervisor.init lease raw liveness manual speed floor map = .ok s) :
    s.Recorded ∧ s.state.leaseId = "" := by
  obtain ⟨config, ceiling, rfl, -⟩ := init_eq h
  exact ⟨⟨fun hActive => absurd rfl hActive, fun hActive => absurd rfl hActive, nofun⟩, rfl⟩

/-- Ended leases stay ended through a run, also if a heartbeat comes next at any point of it,
exactly if every ending event of the run arrives before its lease has lapsed. A lease that was
ended in time is gone and no heartbeat finds it (`gone_of_ended`); the end of a lapsed one leaves
no mark, so one more event takes it again (`holds_of_reviving`). -/
theorem ended_stays_ended_iff {lease raw : PyFloat} {liveness : Option PyFloat}
    {manual speed : PyFloat} {floor : ℚ} {map : String} {init : CommandSupervisor}
    (hInit : CommandSupervisor.init lease raw liveness manual speed floor map = .ok init)
    (run : List TimedCall) :
    (∀ older, older <:+ run → StaysEnded init older ∧
      ∀ beat, Beats beat → StaysEnded init (beat :: older)) ↔
      Always (fun past c => ¬ EndsLapsed init past c) run := by
  obtain ⟨hFresh, hNone⟩ := init_recorded hInit
  constructor
  · intro h
    induction run with
    | nil => trivial
    | cons c past ih =>
      refine ⟨?_, ih fun older hOlder => h older (hOlder.trans (List.suffix_cons c past))⟩
      rintro ⟨client, lease, hEnds, hFree⟩
      obtain ⟨hFree', hLapsed⟩ := lapsed_of_endsLapsed hFresh hEnds hFree
      have hBeat : Beats (reviving client lease 0) := ⟨_, rfl, rfl⟩
      have hKept : ¬ Reacquires client lease (reviving client lease 0) := by
        rintro ⟨m, hCall, hEvent, -⟩
        cases Call.handleControlEvent.inj hCall
        cases hEvent
      exact (h (c :: past) (List.suffix_refl _)).2 _ hBeat client lease
        (.keep hKept (.start hEnds)) (holds_of_reviving hFresh hFree' hLapsed 0)
  · rintro hTimely older ⟨later, rfl⟩
    have hOlder : Always (fun past c => ¬ EndsLapsed init past c) older := by
      induction later with
      | nil => exact hTimely
      | cons c later ih => exact ih hTimely.2
    refine ⟨fun client lease hEnded => (gone_of_ended hFresh hNone hOlder hEnded).1, ?_⟩
    rintro beat ⟨m, hCall, hBeat⟩ client lease hEnded
    have hNot : ¬ EndsLapsed init older beat := by
      rintro ⟨client', lease', ⟨m', last, hCall', hEnds, -⟩, -⟩
      cases Call.handleControlEvent.inj (hCall.symm.trans hCall')
      rw [hBeat] at hEnds
      cases hEnds
    have hBoth : Always (fun past c => ¬ EndsLapsed init past c) (beat :: older) := ⟨hNot, hOlder⟩
    exact (gone_of_ended hFresh hNone hBoth hEnded).1

/-- The default supervisor loses the lease of a silent client, refuses its `LEASE_RELEASED`, and
then receives a heartbeat that was sent before; latest call first. -/
def lateBeatRun : List TimedCall :=
  let sent (event : ControlEvent) (sequence : Int) (now : ℚ) : TimedCall :=
    ⟨.handleControlEvent { event, clientId := "c", leaseId := "l", sequence }, now⟩
  [sent .heartbeat 2 5, sent .leaseReleased 3 (41 / 10), ⟨.tick, 4⟩, sent .leaseAcquired 1 0]

theorem ended_stays_ended_iff_lateBeatRun :
    (∀ older, older <:+ lateBeatRun → StaysEnded (defaultSupervisor "m") older ∧
      ∀ beat, Beats beat → StaysEnded (defaultSupervisor "m") (beat :: older)) ↔
      Always (fun past c => ¬ EndsLapsed (defaultSupervisor "m") past c) lateBeatRun :=
  ended_stays_ended_iff (init_default "m") lateBeatRun

/-- The heartbeat of `lateBeatRun` revives the lease that its owner released. -/
theorem late_beat_revives : ¬ StaysEnded (defaultSupervisor "m") lateBeatRun := by
  intro h
  refine h "c" "l" (.keep ?_ (.start ⟨_, 1, rfl, rfl, rfl, rfl, Or.inr ?_, ?_, ?_⟩)) ?_
  · rintro ⟨m, hCall, hEvent, -⟩
    cases Call.handleControlEvent.inj hCall
    cases hEvent
  · decide +kernel
  · decide +kernel
  · decide
  · decide +kernel

end CommandSupervisor

end PreRunner.Paddock
