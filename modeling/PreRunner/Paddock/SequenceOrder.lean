import PreRunner.Paddock.LeaseTenure

/-!
# The order of the accepted events

The supervisor compares the number of an owner's event with the last one it took, so the numbers
accepted under a lease rise while it holds. The record of the last number ends with the lease:
an event that takes a free lease is accepted with any number. `TakesOld` is the step at which a
lease id that was never given up comes back with a number that is not above the last one accepted
under it, and these steps are the only way for an accepted event to be accepted again.
-/

namespace PreRunner.Paddock

open PaddockState Runs

namespace CommandSupervisor

/-- The control event that a call delivers and the supervisor accepts. -/
def acceptedEvent (s : CommandSupervisor) (c : TimedCall) : Option ControlMessage :=
  match c.call with
  | .handleControlEvent m => if s.accepted c then some m else none
  | _ => none

theorem acceptedEvent_some {s : CommandSupervisor} {c : TimedCall} {m : ControlMessage} :
    s.acceptedEvent c = some m ↔ c.call = .handleControlEvent m ∧ s.accepted c = true := by
  unfold acceptedEvent
  constructor
  · intro h
    split at h
    · rename_i hCall
      split at h
      · rename_i hAccepted
        cases h
        exact ⟨hCall, hAccepted⟩
      · cases h
    · cases h
  · rintro ⟨hCall, hAccepted⟩
    rw [hCall]
    exact if_pos hAccepted

/-- The sequence numbers rise strictly; the latest event comes first. -/
def Rising (messages : List ControlMessage) : Prop :=
  messages.Pairwise fun later earlier => earlier.sequence < later.sequence

section

variable (init : CommandSupervisor)

/-- The accepted events that carry a lease id, since its last explicit end, latest first. -/
def tenure (lease : String) : List TimedCall → List ControlMessage
  | [] => []
  | c :: past =>
    match (after step init past).acceptedEvent c with
    | none => tenure lease past
    | some m =>
      if m.leaseId = lease then
        if endsLease m.event then [] else m :: tenure lease past
      else tenure lease past

/-- An event accepted by a call continues the rising numbers of its lease id, and was not accepted
before. -/
def InOrder (past : List TimedCall) (c : TimedCall) : Prop :=
  ∀ m, (after step init past).acceptedEvent c = some m →
    Rising (m :: tenure init m.leaseId past) ∧ m ∉ tenure init m.leaseId past

/-- A call takes the free lease for an id that was not given up, with a number that is not above
the last one accepted under it. -/
def TakesOld (past : List TimedCall) (c : TimedCall) : Prop :=
  ∃ m last, c.call = .handleControlEvent m ∧ ((after step init past).found c).TakesLease m ∧
    (tenure init m.leaseId past).head? = some last ∧ m.sequence ≤ last.sequence

end

variable {init : CommandSupervisor} {past : List TimedCall} {c : TimedCall}

theorem tenure_of_none (h : (after step init past).acceptedEvent c = none) (lease : String) :
    tenure init lease (c :: past) = tenure init lease past := by
  rw [tenure, h]

/-- An accepted event is the latest of its own lease id, or ends it. -/
theorem mem_tenure_cons {m : ControlMessage}
    (h : ∀ m', (after step init past).acceptedEvent c = some m' → m' = m) {lease : String}
    {e : ControlMessage} (hMem : e ∈ tenure init lease (c :: past)) :
    e ∈ tenure init lease past ∨ e = m := by
  rw [tenure] at hMem
  split at hMem
  · exact Or.inl hMem
  · rename_i m' hAccepted
    split at hMem
    · split at hMem
      · cases hMem
      · rcases List.mem_cons.mp hMem with rfl | hOld
        · exact Or.inr (h e hAccepted)
        · exact Or.inl hOld
    · exact Or.inl hMem

theorem Rising.below {first : ControlMessage} {messages : List ControlMessage}
    (h : Rising messages) (hFirst : ∀ last, messages.head? = some last →
      last.sequence < first.sequence) : ∀ e ∈ messages, e.sequence < first.sequence := by
  cases messages with
  | nil => exact fun _ hMem => absurd hMem List.not_mem_nil
  | cons last rest =>
    intro e hMem
    have hLast := hFirst last rfl
    rcases List.mem_cons.mp hMem with rfl | hRest
    · exact hLast
    · exact ((List.pairwise_cons.mp h).1 e hRest).trans hLast

/-- The numbers have risen, and the number of the active lease is above all of them. -/
structure Counted (init : CommandSupervisor) (past : List TimedCall) : Prop where
  rising : ∀ lease, Rising (tenure init lease past)
  last : (after step init past).state.leaseId ≠ "" →
    ∃ last, (after step init past).lastControlSequence = some last ∧ InLowerHalf last ∧
      ∀ e ∈ tenure init (after step init past).state.leaseId past, e.sequence ≤ last

theorem Counted.above (h : Counted init past) (hOld : ¬ TakesOld init past c)
    {m : ControlMessage} (hCall : c.call = .handleControlEvent m) (hNumber : InLowerHalf m.sequence)
    (hAccepted : (after step init past).accepted c = true) :
    ∀ e ∈ tenure init m.leaseId past, e.sequence < m.sequence := by
  have hOwner : (after step init past).Owns m →
      ∀ e ∈ tenure init m.leaseId past, e.sequence < m.sequence := by
    intro hOwns e hMem
    obtain ⟨last, hLast, hRange, hBound⟩ := h.last hOwns.active
    have hNewer := lt_of_isNewerSequence hNumber hRange (hOwns.newer last hLast)
    rw [hOwns.lease] at hMem
    exact (hBound e hMem).trans_lt hNewer
  cases (after step init past).lease_case c with
  | kept hSame hRefused =>
    rw [(hRefused m hCall).1] at hAccepted
    cases hAccepted
  | granted m' hCall' hTakes =>
    cases Call.handleControlEvent.inj (hCall.symm.trans hCall')
    refine (h.rising m.leaseId).below fun last hHead => ?_
    by_contra hNot
    exact hOld ⟨m, last, hCall, hTakes, hHead, not_lt.mp hNot⟩
  | taken m' hCall' hOwns =>
    cases Call.handleControlEvent.inj (hCall.symm.trans hCall')
    exact hOwner hOwns
  | ended m' hCall' hOwns =>
    cases Call.handleControlEvent.inj (hCall.symm.trans hCall')
    exact hOwner hOwns
  | restarted hCall' =>
    rw [hCall] at hCall'
    cases hCall'

theorem Counted.inOrder (h : Counted init past) (hOld : ¬ TakesOld init past c)
    (hNumber : ∀ m, c.call = .handleControlEvent m → InLowerHalf m.sequence) :
    InOrder init past c := by
  intro m hEvent
  obtain ⟨hCall, hAccepted⟩ := acceptedEvent_some.mp hEvent
  have hAbove := h.above hOld hCall (hNumber m hCall) hAccepted
  exact ⟨List.pairwise_cons.mpr ⟨hAbove, h.rising m.leaseId⟩,
    fun hMem => lt_irrefl _ (hAbove m hMem)⟩

theorem Counted.step (h : Counted init past) (hOld : ¬ TakesOld init past c)
    (hNumber : ∀ m, c.call = .handleControlEvent m → InLowerHalf m.sequence) :
    Counted init (c :: past) := by
  constructor
  · intro lease
    rw [tenure]
    split
    · exact h.rising lease
    · rename_i m hEvent
      obtain ⟨hCall, hAccepted⟩ := acceptedEvent_some.mp hEvent
      split
      · rename_i hId
        split
        · exact List.Pairwise.nil
        · subst hId
          exact (h.inOrder hOld hNumber m hEvent).1
      · exact h.rising lease
  · have hMine : ∀ m, c.call = .handleControlEvent m → ∀ m',
        (after CommandSupervisor.step init past).acceptedEvent c = some m' → m' = m := by
      intro m hCall m' hEvent
      cases Call.handleControlEvent.inj (hCall.symm.trans (acceptedEvent_some.mp hEvent).1)
      rfl
    rw [after_cons]
    intro hActive
    cases (after CommandSupervisor.step init past).lease_case c with
    | kept hSame hRefused =>
      have hNone : (after CommandSupervisor.step init past).acceptedEvent c = none := by
        cases hEvent : (after CommandSupervisor.step init past).acceptedEvent c with
        | none => rfl
        | some m =>
          obtain ⟨hCall, hAccepted⟩ := acceptedEvent_some.mp hEvent
          rw [(hRefused m hCall).1] at hAccepted
          cases hAccepted
      have hFound : (after CommandSupervisor.step init past).found c =
          after CommandSupervisor.step init past := found_of_active (hSame.lease ▸ hActive)
      rw [hFound] at hSame
      obtain ⟨last, hLast, hRange, hBound⟩ := h.last (hSame.lease ▸ hActive)
      rw [hSame.lease, tenure_of_none hNone]
      exact ⟨last, hSame.last.trans hLast, hRange, hBound⟩
    | granted m hCall hTakes hAccepted hNext =>
      rw [hNext]
      refine ⟨m.sequence, rfl, hNumber m hCall, fun e hMem => ?_⟩
      rcases mem_tenure_cons (hMine m hCall) hMem with hPast | rfl
      · exact (h.above hOld hCall (hNumber m hCall) hAccepted e hPast).le
      · exact le_rfl
    | taken m hCall hOwns hFound hEvent hClient hLease hLast hLapsed =>
      obtain ⟨last, hLast', hRange, hBound⟩ := h.last hOwns.active
      refine ⟨m.sequence, hLast, hNumber m hCall, fun e hMem => ?_⟩
      rw [hLease] at hMem
      rcases mem_tenure_cons (hMine m hCall) hMem with hPast | rfl
      · exact (hBound e hPast).trans
          (lt_of_isNewerSequence (hNumber m hCall) hRange (hOwns.newer last hLast')).le
      · exact le_rfl
    | ended m hCall hOwns hFound hEvent hLease => exact absurd hLease hActive
    | restarted hCall hLease => exact absurd hLease hActive

/-- A lease that comes back with an old number is accepted out of order. -/
theorem not_inOrder_of_takesOld (h : TakesOld init past c) : ¬ InOrder init past c := by
  obtain ⟨m, last, hCall, hTakes, hHead, hLe⟩ := h
  intro hOrder
  have hEvent := acceptedEvent_some.mpr ⟨hCall, (step_takesLease hCall hTakes).2⟩
  obtain ⟨hRising, -⟩ := hOrder m hEvent
  have hLt := (List.pairwise_cons.mp hRising).1 last (List.mem_of_head? hHead)
  exact absurd hLe (not_le.mpr hLt)

/-- In a run of events with numbers below `2 ^ 63`, the accepted numbers of every lease id rise
until its explicit end exactly if no lease id that was not given up takes the free lease again with
an old number. `Counted` keeps the highest number that each lease id has used; taking an old one
breaks the order (`not_inOrder_of_takesOld`), and everything else keeps it. -/
theorem accepted_in_order_iff {lease raw : PyFloat} {liveness : Option PyFloat}
    {manual speed : PyFloat} {floor : ℚ} {map : String} {init : CommandSupervisor}
    (hInit : CommandSupervisor.init lease raw liveness manual speed floor map = .ok init)
    {run : List TimedCall}
    (hNumber : ∀ c ∈ run, ∀ m, c.call = .handleControlEvent m → InLowerHalf m.sequence) :
    Always (InOrder init) run ↔ Always (fun past c => ¬ TakesOld init past c) run := by
  have hBoth : (Always (InOrder init) run ↔
      Always (fun past c => ¬ TakesOld init past c) run) ∧
        (Always (fun past c => ¬ TakesOld init past c) run → Counted init run) := by
    induction run with
    | nil =>
      refine ⟨Iff.rfl, fun _ => ⟨fun _ => List.Pairwise.nil, fun hActive => ?_⟩⟩
      rw [after_nil, init_state hInit] at hActive
      exact absurd rfl hActive
    | cons c past ih =>
      obtain ⟨ihIff, ihCounted⟩ := ih fun d hMem => hNumber d (List.mem_cons_of_mem c hMem)
      have hHere := hNumber c List.mem_cons_self
      refine ⟨⟨fun h => ?_, fun h => ?_⟩, fun h => ?_⟩
      · exact ⟨fun hOld => not_inOrder_of_takesOld hOld h.1, ihIff.mp h.2⟩
      · exact ⟨(ihCounted h.2).inOrder h.1 hHere, ihIff.mpr h.2⟩
      · exact (ihCounted h.2).step h.1 hHere
  exact hBoth.1

/-- The default supervisor loses the lease of a silent client, and a late copy of its first
heartbeat brings the lease back, so that a copy of its `RUN_PRESSED` is next; latest call
first. -/
def replayRun : List TimedCall :=
  let sent (event : ControlEvent) (sequence : Int) (now : ℚ) : TimedCall :=
    ⟨.handleControlEvent { event, clientId := "c", leaseId := "l", sequence }, now⟩
  [sent .runPressed 3 (51 / 10), sent .heartbeat 2 5, ⟨.tick, 4⟩, sent .runPressed 3 (2 / 10),
    sent .heartbeat 2 (1 / 10), sent .leaseAcquired 1 0]

theorem replayRun_numbers : ∀ c ∈ replayRun, ∀ m, c.call = .handleControlEvent m →
    InLowerHalf m.sequence := by
  have hAll : replayRun.all (fun c => match c.call with
      | .handleControlEvent m => InLowerHalf m.sequence
      | _ => true) = true := by
    decide +kernel
  intro c hMem m hCall
  have hNumber := List.all_eq_true.mp hAll c hMem
  rw [hCall] at hNumber
  exact of_decide_eq_true hNumber

theorem accepted_in_order_iff_replayRun :
    Always (InOrder (defaultSupervisor "m")) replayRun ↔
      Always (fun past c => ¬ TakesOld (defaultSupervisor "m") past c) replayRun :=
  accepted_in_order_iff (init_default "m") replayRun_numbers

/-- The `RUN_PRESSED` of `replayRun` is accepted twice. -/
theorem replayed_run_accepted :
    (∀ c ∈ replayRun, ∀ m, c.call = .handleControlEvent m → InLowerHalf m.sequence) ∧
      ¬ Always (InOrder (defaultSupervisor "m")) replayRun := by
  refine ⟨replayRun_numbers, fun h => ?_⟩
  have hMem : (⟨.runPressed, "c", "l", 3, .finite 0, .finite 0, .finite 0, .finite 0,
      .finite 0⟩ : ControlMessage) ∈ tenure (defaultSupervisor "m") "l" replayRun.tail := by
    decide +kernel
  exact (h.1 _ (by decide +kernel)).2 hMem

end CommandSupervisor

end PreRunner.Paddock
