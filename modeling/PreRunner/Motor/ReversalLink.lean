import PreRunner.Encoder.EncoderNode
import PreRunner.Motor.DirectionInterlock

/-!
# The encoder and the motor driver at a reversal

The encoder node sends its samples to the motor driver over a channel, in order and with any delay.
The motor driver reverses on the first stationary sample that arrives while a request stands,
whenever that sample was measured, and a measurement sees only the last edge that the encoder state
remembers. What the wheel did is therefore kept beside both nodes: every edge of the line, accepted
by `record_edge`, rejected by it or still on its way there, and the time of the standing request.
The direction line is switched on evidence from after the request exactly when no request meets a
stationary sample in flight and no measurement misses an edge that is younger than the timeout
(`reversals_evident_iff`). The invariant is that every stationary sample in flight is such evidence
while a request stands (`guarded_step_iff`). A missed edge has not been recorded yet, has been
forgotten, or was rejected as a bounce (`missed_cause`).
-/

namespace PreRunner.Motor

open Runs Encoder

/-! ## The composition -/

/-- A sample in flight. For the specification it carries the number of reversal requests before its
measurement, and whether the wheel had no edge for the stationary timeout at the moment it speaks
of. -/
structure Sample where
  stationary : Bool
  request : ℕ
  still : Bool
  deriving DecidableEq, Repr

/-- Both nodes and the samples in flight, oldest first. For the specification also every edge of the
wheel, those of them that the encoder state has accepted, the number of reversal requests so far,
and the time of the latest one. -/
structure ReversalLink where
  encoder : EncoderNode
  motor : MotorNode
  requestedAt : ℤ
  samples : List Sample := []
  wheel : List ℤ := []
  accepted : List ℤ := []
  request : ℕ := 0
  deriving DecidableEq, Repr

/-- The callback of the encoder samples. -/
def MotorInput.isEncoderState : MotorInput → Bool
  | encoderState _ => true
  | _ => false

/-- The steps of the composition. -/
inductive ReversalInput where
  | encoder (action : EncoderAction)
  | motor (input : MotorInput) (own : input.isEncoderState = false)
  /-- The oldest sample in flight arrives. -/
  | arrives
  /-- A full queue drops a sample. -/
  | drops (index : ℕ)

/-- A step of the channel. -/
def ReversalInput.isChannel : ReversalInput → Bool
  | arrives | drops _ => true
  | _ => false

/-- The command asks for the other direction. -/
def MotorNode.reverses (node : MotorNode) (linearX : PyFloat) : Bool :=
  let direction := (mapMotorCommand linearX).1
  direction ≠ 0 && (if 0 < direction then DirLine.forward else .reverse) ≠ node.hardwareDirection

namespace ReversalLink

/-- A reversal request is received while none stands. -/
def requests (link : ReversalLink) : MotorInput → Bool
  | .cmd linearX _ _ => link.motor.pendingReversal.isNone && link.motor.reverses linearX
  | _ => false

/-- An edge of this time lies within the stationary timeout before the moment. -/
def young (link : ReversalLink) (momentNs edgeNs : ℤ) : Bool :=
  edgeNs ≤ momentNs ∧ momentNs < edgeNs + link.encoder.state.stationaryTimeoutNs

/-- The wheel had no edge for the stationary timeout before this moment. -/
def still (link : ReversalLink) (momentNs : ℤ) : Bool :=
  !link.wheel.any (link.young momentNs)

/-- The moment that a measurement speaks of: its clock reading, or the latest request if that came
after the reading. -/
def moment (link : ReversalLink) (monotonicNs : ℤ) : ℤ := max monotonicNs link.requestedAt

/-- The edges of the wheel after an action of the encoder node and its world. -/
def turn (link : ReversalLink) : EncoderAction → List ℤ
  | .edge => link.wheel ++ [link.encoder.clock]
  | _ => link.wheel

/-- What an output of the encoder node adds. -/
def observe (link : ReversalLink) (next : ReversalLink) : EncoderOutput → ReversalLink
  | .accepted edgeNs => { next with accepted := next.accepted ++ [edgeNs] }
  | .measured timestampNs measurement _ =>
    { next with samples := next.samples ++
        [{ stationary := measurement.stationary
           request := link.request
           still := link.still (link.moment timestampNs) }] }

def encoderStep (link : ReversalLink) (action : EncoderAction) : ReversalLink :=
  let (encoder, outputs) := link.encoder.step action
  outputs.foldl link.observe { link with encoder, wheel := link.turn action }

/-- The motor driver handles an input of its own; a new request is counted and its time noted. -/
def motorStep (link : ReversalLink) (input : MotorInput) : ReversalLink :=
  let motor := (link.motor.step input).1
  if link.requests input then
    { link with motor, request := link.request + 1, requestedAt := link.encoder.clock }
  else { link with motor }

/-- One step, and what the motor driver does in it. -/
def step (link : ReversalLink) : ReversalInput → ReversalLink × List MotorOutput
  | .encoder action => (link.encoderStep action, [])
  | .motor input _ => (link.motorStep input, (link.motor.step input).2)
  | .arrives =>
    match link.samples with
    | [] => (link, [])
    | sample :: samples =>
      let (motor, outputs) := link.motor.onEncoderState sample.stationary
      ({ link with motor, samples }, outputs)
  | .drops index => ({ link with samples := link.samples.eraseIdx index }, [])

/-- The nodes after their constructors. -/
def start (state : EncoderState) (metresPerEdge : ℚ) (clock : ℤ) (motor : MotorNode) :
    ReversalLink :=
  { encoder := { state, metresPerEdge, clock }, motor, requestedAt := clock }

/-! ## The property and the condition -/

/-- The sample was measured after the standing request, and the wheel was still. -/
def Evident (link : ReversalLink) (sample : Sample) : Prop :=
  sample.request = link.request ∧ sample.still = true

/-- Whatever switches the direction line next is the arrival of such a sample. -/
def SwitchesOnEvidence (link : ReversalLink) : Prop :=
  ∀ input line, MotorOutput.dirLine line ∈ (link.step input).2 →
    ∃ sample rest, input = .arrives ∧ link.samples = sample :: rest ∧ link.Evident sample

/-- So it is now, and whatever arrives or is lost of what is in flight. -/
def Sound (link : ReversalLink) : Prop :=
  ∀ later : List ReversalInput, (∀ input ∈ later, input.isChannel = true) →
    (after (advance step) link later).SwitchesOnEvidence

/-- The encoder state remembers no edge from within the stationary timeout before this reading. -/
def Unaware (link : ReversalLink) (monotonicNs : ℤ) : Prop :=
  ∀ edgeNs, link.encoder.state.lastEdgeNs = some edgeNs → link.young monotonicNs edgeNs = false

/-- A measurement with this reading misses an edge of the wheel: the encoder state remembers none
that is young, and the wheel has had one. -/
def Missed (link : ReversalLink) (monotonicNs : ℤ) : Prop :=
  link.Unaware monotonicNs ∧
    ∃ edgeNs ∈ link.wheel, link.young (link.moment monotonicNs) edgeNs = true

/-- No request meets a stationary sample in flight, and no measurement during a request misses an
edge. -/
def Timely (link : ReversalLink) : ReversalInput → Prop
  | .motor input _ => link.requests input = true →
      ∀ sample ∈ link.samples, sample.stationary = false
  | .encoder .takeMeasurement => ∀ monotonicNs, link.encoder.reading = some monotonicNs →
      link.motor.pendingReversal.isSome = true → ¬ link.Missed monotonicNs
  | _ => True

variable {link : ReversalLink} {state : EncoderState} {timeoutSec : PyFloat} {depth : PyValue}

/-! ## The motor driver -/

theorem onCmd_pending (node : MotorNode) (linearX angularZ : PyFloat) (now : ℚ) :
    (node.onCmd linearX angularZ now).1.pendingReversal.isSome = node.reverses linearX := by
  unfold MotorNode.onCmd MotorNode.setMotor MotorNode.reverses
  generalize mapMotorCommand linearX = mapped
  obtain ⟨direction, dutyNs⟩ := mapped
  dsimp only
  by_cases hZero : direction = 0
  · rw [if_pos hZero, decide_eq_false (not_not.mpr hZero)]
    rfl
  · rw [if_neg hZero, decide_eq_true hZero, Bool.true_and]
    generalize (if 0 < direction then DirLine.forward else .reverse) = line
    by_cases hSame : line = node.hardwareDirection
    · rw [if_pos hSame, decide_eq_false (not_not.mpr hSame)]
      rfl
    · rw [if_neg hSame, decide_eq_true hSame]
      rfl

theorem onEncoderState_pending {node : MotorNode} {stationary : Bool}
    (h : (node.onEncoderState stationary).1.pendingReversal.isSome = true) :
    node.pendingReversal.isSome = true := by
  unfold MotorNode.onEncoderState at h
  split at h
  · cases h
  · exact h

theorem watchdog_pending {node : MotorNode} {now : ℚ}
    (h : (node.watchdog now).1.pendingReversal.isSome = true) :
    node.pendingReversal.isSome = true := by
  unfold MotorNode.watchdog at h
  split at h
  · cases h
  · exact h

theorem dirLine_not_mem_setMotor (node : MotorNode) (direction ns : ℤ) (line : DirLine) :
    MotorOutput.dirLine line ∉ (node.setMotor direction ns).2 := by
  unfold MotorNode.setMotor
  dsimp only
  generalize (if 0 < direction then DirLine.forward else .reverse) = wanted
  split
  · exact fun h => by cases List.mem_singleton.mp h
  · split <;> exact fun h => by cases List.mem_singleton.mp h

/-- Only a stationary sample that meets a request moves the direction line. -/
theorem dirLine_mem_iff {node : MotorNode} {input : MotorInput} :
    (∃ line, MotorOutput.dirLine line ∈ (node.step input).2) ↔
      input = .encoderState true ∧ node.pendingReversal.isSome = true := by
  cases input with
  | cmd linearX angularZ now =>
    refine ⟨fun ⟨line, h⟩ => ?_, fun h => (by cases h.1)⟩
    rcases List.mem_append.mp h with h | h
    · exact absurd h (dirLine_not_mem_setMotor _ _ _ _)
    · simp at h
  | watchdog now =>
    refine ⟨fun ⟨line, h⟩ => ?_, fun h => (by cases h.1)⟩
    change MotorOutput.dirLine line ∈ (node.watchdog now).2 at h
    unfold MotorNode.watchdog at h
    split at h
    · rcases List.mem_cons.mp h with h | h
      · cases h
      · split at h
        · cases h
        · cases List.mem_singleton.mp h
    · cases h
  | encoderState stationary =>
    change (∃ line, MotorOutput.dirLine line ∈ (node.onEncoderState stationary).2) ↔ _
    unfold MotorNode.onEncoderState
    split
    · rename_i line dutyNs hPending
      exact iff_of_true ⟨line, by simp⟩ ⟨rfl, by rw [hPending]; rfl⟩
    · rename_i hNone
      refine ⟨fun ⟨line, h⟩ => (by cases h), fun ⟨hInput, hPending⟩ => ?_⟩
      cases hInput
      obtain ⟨⟨line, ns⟩, hSome⟩ := Option.isSome_iff_exists.mp hPending
      exact absurd hSome (hNone line ns rfl)

/-! ## What is in flight -/

theorem step_arrives_nil (h : link.samples = []) : link.step .arrives = (link, []) := by
  unfold step
  dsimp only
  rw [h]

theorem step_arrives_cons {sample : Sample} {rest : List Sample}
    (h : link.samples = sample :: rest) :
    link.step .arrives =
      ({ link with
          motor := (link.motor.step (.encoderState sample.stationary)).1, samples := rest },
        (link.motor.step (.encoderState sample.stationary)).2) := by
  unfold step
  dsimp only
  rw [h]
  rfl

/-- While a request stands, every stationary sample in flight is evident. -/
def Guarded (link : ReversalLink) : Prop :=
  link.motor.pendingReversal.isSome = true →
    ∀ sample ∈ link.samples, sample.stationary = true → link.Evident sample

theorem Guarded.switches (h : link.Guarded) : link.SwitchesOnEvidence := by
  intro input line hMem
  cases input with
  | encoder action => cases hMem
  | motor input own =>
    obtain ⟨rfl, -⟩ := dirLine_mem_iff.mp ⟨line, hMem⟩
    cases own
  | drops index => cases hMem
  | arrives =>
    cases hSamples : link.samples with
    | nil =>
      rw [step_arrives_nil hSamples] at hMem
      cases hMem
    | cons sample rest =>
      rw [step_arrives_cons hSamples] at hMem
      obtain ⟨hStationary, hPending⟩ := dirLine_mem_iff.mp ⟨line, hMem⟩
      exact ⟨sample, rest, rfl, rfl, h hPending sample (hSamples ▸ List.mem_cons_self)
        (MotorInput.encoderState.inj hStationary)⟩

/-- Part of what is in flight, with the request still standing. -/
theorem Guarded.sublist (h : link.Guarded) {motor : MotorNode} {samples : List Sample}
    (hMotor : motor.pendingReversal.isSome = true → link.motor.pendingReversal.isSome = true)
    (hSamples : samples ⊆ link.samples) : Guarded { link with motor, samples } :=
  fun hPending sample hMem => h (hMotor hPending) sample (hSamples hMem)

theorem Guarded.channel (h : link.Guarded) {input : ReversalInput}
    (hChannel : input.isChannel = true) : (link.step input).1.Guarded := by
  cases input with
  | encoder | motor => cases hChannel
  | arrives =>
    cases hSamples : link.samples with
    | nil =>
      rw [step_arrives_nil hSamples]
      exact h
    | cons sample rest =>
      rw [step_arrives_cons hSamples]
      exact h.sublist onEncoderState_pending (hSamples ▸ List.subset_cons_self sample rest)
  | drops index => exact h.sublist id List.eraseIdx_subset

theorem after_drops (link : ReversalLink) (count : ℕ) :
    after (advance step) link (List.replicate count (.drops 0)) =
      { link with samples := link.samples.drop count } := by
  induction count with
  | zero => rfl
  | succ count ih =>
    rw [List.replicate_succ, after_cons, ih]
    change ReversalLink.mk _ _ _ ((link.samples.drop count).eraseIdx 0) _ _ _ = _
    rw [List.eraseIdx_zero, List.tail_drop]

theorem sound_iff : link.Sound ↔ link.Guarded := by
  constructor
  · rintro h hPending sample hMem hStationary
    obtain ⟨before, rest, hSplit⟩ := List.append_of_mem hMem
    have hNext := h (List.replicate before.length (.drops 0)) fun input hInput => by
      rw [List.eq_of_mem_replicate hInput]
      rfl
    rw [after_drops, hSplit, List.drop_left] at hNext
    obtain ⟨line, hLine⟩ := dirLine_mem_iff.mpr ⟨congrArg _ hStationary, hPending⟩
    obtain ⟨_, _, -, hSamples, hEvident⟩ := hNext .arrives line hLine
    cases hSamples
    exact hEvident
  · intro h later hChannel
    have hLater : (after (advance step) link later).Guarded := by
      induction later with
      | nil => exact h
      | cons input later ih =>
        exact (ih fun input hMem => hChannel input (List.mem_cons_of_mem _ hMem)).channel
          (hChannel input List.mem_cons_self)
    exact hLater.switches

/-! ## What the encoder knows -/

/-- An edge that a measurement remembers was remembered before. -/
theorem takeMeasurement_lastEdge_some {monotonicNs edgeNs : ℤ}
    (h : (state.takeMeasurement monotonicNs).1.lastEdgeNs = some edgeNs) :
    state.lastEdgeNs = some edgeNs := by
  by_cases hOrder : state.InOrder monotonicNs
  · rw [EncoderState.takeMeasurement_lastEdge hOrder] at h
    exact h
  · simp only [EncoderState.InOrder, not_forall, not_le, exists_prop] at hOrder
    obtain ⟨later, hLater, hBefore⟩ := hOrder
    cases (EncoderState.takeMeasurement_before hLater hBefore).1.symm.trans h

/-- The sample of a measurement. -/
def sampleAt (link : ReversalLink) (monotonicNs : ℤ) : Sample where
  stationary := (link.encoder.state.takeMeasurement monotonicNs).2.stationary
  request := link.request
  still := link.still (link.moment monotonicNs)

theorem encoderStep_measure {monotonicNs : ℤ} (h : link.encoder.reading = some monotonicNs) :
    link.encoderStep .takeMeasurement =
      { link with
        encoder := { link.encoder with
          state := (link.encoder.state.takeMeasurement monotonicNs).1, reading := none }
        samples := link.samples ++ [link.sampleAt monotonicNs] } := by
  unfold encoderStep EncoderNode.step
  dsimp only
  rw [h]
  rfl

/-- A measurement reports rest exactly when the encoder state remembers no young edge. -/
theorem stationary_iff (link : ReversalLink) (monotonicNs : ℤ) :
    (link.sampleAt monotonicNs).stationary = true ↔ link.Unaware monotonicNs := by
  change (link.encoder.state.takeMeasurement monotonicNs).2.stationary = true ↔ _
  by_cases hOrder : link.encoder.state.InOrder monotonicNs
  · rw [EncoderState.takeMeasurement_stationary hOrder, EncoderState.pulseGap_eq_true]
    refine forall_congr' fun edgeNs => forall_congr' fun hEdge => ?_
    have hBefore := hOrder edgeNs hEdge
    rw [young, decide_eq_false_iff_not]
    omega
  · simp only [EncoderState.InOrder, not_forall, not_le, exists_prop] at hOrder
    obtain ⟨later, hLater, hBefore⟩ := hOrder
    refine iff_of_true (EncoderState.takeMeasurement_before hLater hBefore).2 fun edgeNs hEdge => ?_
    cases hLater.symm.trans hEdge
    exact decide_eq_false fun hYoung => absurd hBefore (not_lt.mpr hYoung.1)

theorem still_eq_true {momentNs : ℤ} :
    link.still momentNs = true ↔ ∀ edgeNs ∈ link.wheel, link.young momentNs edgeNs = false := by
  simp [still]

/-- A measurement that reports rest was made of a still wheel exactly when it misses no edge. -/
theorem still_of_stationary_iff (link : ReversalLink) (monotonicNs : ℤ) :
    ((link.sampleAt monotonicNs).stationary = true → (link.sampleAt monotonicNs).still = true) ↔
      ¬ link.Missed monotonicNs := by
  change (_ → link.still (link.moment monotonicNs) = true) ↔ _
  rw [stationary_iff, still_eq_true, Missed, not_and]
  refine forall_congr' fun _ => ?_
  simp only [not_exists, not_and, Bool.not_eq_true]

/-! ## The edges on their way -/

/-- The times of the edges that the encoder state has accepted, that its reader thread holds and
that the line has queued. -/
def times (link : ReversalLink) : List ℤ :=
  link.accepted ++ (link.encoder.reader.event.toList ++ link.encoder.queue)

/-- An edge that `record_edge` rejects: it came right after an accepted one. -/
def Bounced (link : ReversalLink) (edgeNs : ℤ) : Prop :=
  ∃ acceptedNs ∈ link.accepted, acceptedNs ≤ edgeNs ∧ edgeNs < acceptedNs + minEdgeIntervalNs

/-- Edges come in order and none is lost but a bounce; the encoder remembers the last accepted one
or none, and no sample in flight comes from a later request. -/
structure EdgesInOrder (link : ReversalLink) : Prop where
  sorted : link.times.Pairwise (· ≤ ·)
  past : ∀ time ∈ link.times, time ≤ link.encoder.clock
  heard : ∀ edgeNs ∈ link.wheel, edgeNs ∈ link.times ∨ link.Bounced edgeNs
  known : ∀ edgeNs, link.encoder.state.lastEdgeNs = some edgeNs → edgeNs ∈ link.accepted
  latest : ∀ edgeNs, link.encoder.state.lastEdgeNs = some edgeNs →
    ∀ earlier ∈ link.accepted, earlier ≤ edgeNs
  numbers : ∀ sample ∈ link.samples, sample.request ≤ link.request

/-- Steps that leave the edges and the channel alone. -/
theorem EdgesInOrder.quiet (h : link.EdgesInOrder) {encoder : EncoderNode}
    (hTimes : encoder.reader.event.toList ++ encoder.queue =
      link.encoder.reader.event.toList ++ link.encoder.queue)
    (hClock : link.encoder.clock ≤ encoder.clock)
    (hEdge : encoder.state.lastEdgeNs = link.encoder.state.lastEdgeNs) :
    EdgesInOrder { link with encoder } := by
  have hSame : times { link with encoder } = link.times := congrArg (link.accepted ++ ·) hTimes
  refine ⟨?_, ?_, ?_, ?_, ?_, h.numbers⟩
  · exact hSame ▸ h.sorted
  · rw [hSame]
    exact fun time hMem => (h.past time hMem).trans hClock
  · rw [hSame]
    exact h.heard
  · exact fun edgeNs hLast => h.known edgeNs (hEdge.symm.trans hLast)
  · exact fun edgeNs hLast => h.latest edgeNs (hEdge.symm.trans hLast)

theorem EdgesInOrder.edge (h : link.EdgesInOrder) : (link.encoderStep .edge).EdgesInOrder := by
  have hTimes : (link.encoderStep .edge).times = link.times ++ [link.encoder.clock] := by
    change link.accepted ++ (link.encoder.reader.event.toList ++
      (link.encoder.queue ++ [link.encoder.clock])) = _
    rw [times, List.append_assoc, List.append_assoc]
  refine ⟨?_, ?_, ?_, h.known, h.latest, h.numbers⟩
  · rw [hTimes, List.pairwise_append]
    refine ⟨h.sorted, List.pairwise_singleton _ _, fun time hMem last hLast => ?_⟩
    cases List.mem_singleton.mp hLast
    exact h.past time hMem
  · rw [hTimes]
    intro time hMem
    rcases List.mem_append.mp hMem with hMem | hMem
    · exact h.past time hMem
    · exact (List.mem_singleton.mp hMem).le
  · rw [hTimes]
    intro edgeNs hMem
    rcases List.mem_append.mp hMem with hMem | hMem
    · exact (h.heard edgeNs hMem).imp_left (List.mem_append_left _)
    · exact .inl (List.mem_append_right _ hMem)

/-- The edge that the reader thread holds comes after every accepted one. -/
theorem EdgesInOrder.accepted_le (h : link.EdgesInOrder) {timestampNs : ℤ}
    (hEvent : link.encoder.reader.event = some timestampNs) :
    ∀ acceptedNs ∈ link.accepted, acceptedNs ≤ timestampNs := by
  intro acceptedNs hMem
  have hSorted := h.sorted
  rw [times, hEvent] at hSorted
  exact (List.pairwise_append.mp hSorted).2.2 acceptedNs hMem _ List.mem_cons_self

theorem EdgesInOrder.reject (h : link.EdgesInOrder) {timestampNs : ℤ}
    (hEvent : link.encoder.reader.event = some timestampNs)
    (hRejects : link.encoder.state.rejectsEdge timestampNs = true) {encoder : EncoderNode}
    (hReader : encoder.reader.event = none) (hQueue : encoder.queue = link.encoder.queue)
    (hClock : encoder.clock = link.encoder.clock) (hState : encoder.state = link.encoder.state) :
    EdgesInOrder { link with encoder } := by
  have hTimes : link.times = link.accepted ++ timestampNs :: link.encoder.queue := by
    rw [times, hEvent]
    rfl
  have hNext : times { link with encoder } = link.accepted ++ link.encoder.queue := by
    rw [times, hReader, hQueue]
    rfl
  have hSub : (times { link with encoder }).Sublist link.times := by
    rw [hTimes, hNext]
    exact (List.sublist_cons_self _ _).append_left _
  have hBounced : link.Bounced timestampNs := by
    obtain ⟨last, hLast, hSoon⟩ := (Option.any_eq_true _ _).mp hRejects
    have hMem := h.known last hLast
    have hGap := of_decide_eq_true hSoon
    exact ⟨last, hMem, h.accepted_le hEvent last hMem, by omega⟩
  refine ⟨h.sorted.sublist hSub, fun time hMem => ?_, fun edgeNs hMem => ?_, ?_, ?_, h.numbers⟩
  · exact (h.past time (hSub.mem hMem)).trans_eq hClock.symm
  · rcases h.heard edgeNs hMem with hIn | hIn
    · rw [hTimes] at hIn
      rw [hNext]
      rcases List.mem_append.mp hIn with hIn | hIn
      · exact .inl (List.mem_append_left _ hIn)
      · rcases List.mem_cons.mp hIn with rfl | hIn
        · exact .inr hBounced
        · exact .inl (List.mem_append_right _ hIn)
    · exact .inr hIn
  · exact fun edgeNs hLast => h.known edgeNs (hState ▸ hLast)
  · exact fun edgeNs hLast => h.latest edgeNs (hState ▸ hLast)

theorem EdgesInOrder.accept (h : link.EdgesInOrder) {timestampNs : ℤ}
    (hEvent : link.encoder.reader.event = some timestampNs) {encoder : EncoderNode}
    (hReader : encoder.reader.event = none) (hQueue : encoder.queue = link.encoder.queue)
    (hClock : encoder.clock = link.encoder.clock)
    (hLast : encoder.state.lastEdgeNs = some timestampNs) :
    EdgesInOrder { link with encoder, accepted := link.accepted ++ [timestampNs] } := by
  have hTimes : times { link with encoder, accepted := link.accepted ++ [timestampNs] } =
      link.times := by
    rw [times, times, hReader, hQueue, hEvent]
    exact (List.append_cons ..).symm
  refine ⟨?_, ?_, ?_, ?_, ?_, h.numbers⟩
  · exact hTimes ▸ h.sorted
  · rw [hTimes]
    exact fun time hMem => (h.past time hMem).trans_eq hClock.symm
  · rw [hTimes]
    intro edgeNs hMem
    refine (h.heard edgeNs hMem).imp_right ?_
    rintro ⟨acceptedNs, hAccepted, hSoon⟩
    exact ⟨acceptedNs, List.mem_append_left _ hAccepted, hSoon⟩
  · intro edgeNs hEdge
    cases hLast.symm.trans hEdge
    exact List.mem_append_right _ (List.mem_singleton_self _)
  · intro edgeNs hEdge earlier hMem
    cases hLast.symm.trans hEdge
    rcases List.mem_append.mp hMem with hMem | hMem
    · exact h.accepted_le hEvent earlier hMem
    · exact (List.mem_singleton.mp hMem).le

theorem EdgesInOrder.encoderStep (h : link.EdgesInOrder) (action : EncoderAction) :
    (link.encoderStep action).EdgesInOrder := by
  cases action with
  | elapse ns => exact h.quiet rfl (Int.le_add_of_nonneg_right ns.cast_nonneg) rfl
  | edge => exact h.edge
  | readEvent =>
    unfold ReversalLink.encoderStep EncoderNode.step
    dsimp only
    split
    · rename_i timestampNs queue hQueue hEvent
      exact h.quiet (by rw [hQueue, hEvent]; rfl) le_rfl rfl
    · exact h
  | recordEdge =>
    cases hEvent : link.encoder.reader.event with
    | some timestampNs =>
      unfold ReversalLink.encoderStep EncoderNode.step
      dsimp only
      rw [hEvent]
      dsimp only
      cases hRejects : link.encoder.state.rejectsEdge timestampNs with
      | true =>
        exact h.reject hEvent hRejects rfl rfl rfl (EncoderState.recordEdge_rejected hRejects)
      | false => exact h.accept hEvent rfl rfl rfl (EncoderState.recordEdge_lastEdge hRejects)
    | none =>
      unfold ReversalLink.encoderStep EncoderNode.step
      dsimp only
      rw [hEvent]
      exact h
  | onDirection data =>
    unfold ReversalLink.encoderStep EncoderNode.step
    dsimp only
    split
    · exact h.quiet rfl le_rfl (EncoderState.updateDirection_lastEdge data)
    · exact h
  | readClock =>
    unfold ReversalLink.encoderStep EncoderNode.step
    dsimp only
    split
    · exact h.quiet rfl le_rfl rfl
    · exact h
  | takeMeasurement =>
    cases hReading : link.encoder.reading with
    | none =>
      unfold ReversalLink.encoderStep EncoderNode.step
      dsimp only
      rw [hReading]
      exact h
    | some monotonicNs =>
      rw [encoderStep_measure hReading]
      refine ⟨h.sorted, h.past, h.heard, fun edgeNs hEdge => ?_, fun edgeNs hEdge => ?_,
        fun sample hMem => ?_⟩
      · exact h.known edgeNs (takeMeasurement_lastEdge_some hEdge)
      · exact h.latest edgeNs (takeMeasurement_lastEdge_some hEdge)
      · rcases List.mem_append.mp hMem with hMem | hMem
        · exact h.numbers sample hMem
        · cases List.mem_singleton.mp hMem
          exact le_rfl

theorem EdgesInOrder.step (h : link.EdgesInOrder) (input : ReversalInput) :
    (link.step input).1.EdgesInOrder := by
  cases input with
  | encoder action => exact h.encoderStep action
  | motor input own =>
    change (link.motorStep input).EdgesInOrder
    unfold motorStep
    split
    · exact ⟨h.sorted, h.past, h.heard, h.known, h.latest,
        fun sample hMem => (h.numbers sample hMem).trans (Nat.le_succ _)⟩
    · exact ⟨h.sorted, h.past, h.heard, h.known, h.latest, h.numbers⟩
  | arrives =>
    cases hSamples : link.samples with
    | nil =>
      rw [step_arrives_nil hSamples]
      exact h
    | cons sample rest =>
      rw [step_arrives_cons hSamples]
      exact ⟨h.sorted, h.past, h.heard, h.known, h.latest,
        fun other hMem => h.numbers other (hSamples ▸ List.mem_cons_of_mem _ hMem)⟩
  | drops index =>
    exact ⟨h.sorted, h.past, h.heard, h.known, h.latest,
      fun sample hMem => h.numbers sample (List.eraseIdx_subset hMem)⟩

theorem edgesInOrder_after (hInit : EncoderState.init timeoutSec depth = .ok state)
    (metresPerEdge : ℚ) (clock : ℤ) (motor : MotorNode) (past : List ReversalInput) :
    (after (advance step) (start state metresPerEdge clock motor) past).EdgesInOrder := by
  have hNone := EncoderState.init_lastEdge hInit
  refine after_invariant ⟨.nil, nofun, nofun, fun edgeNs hEdge => ?_, fun edgeNs hEdge => ?_, nofun⟩
    (fun link input h => h.step input) past
  · cases hNone.symm.trans hEdge
  · cases hNone.symm.trans hEdge

/-- An edge that the line has queued or that the reader thread holds. -/
def Unrecorded (link : ReversalLink) (edgeNs : ℤ) : Prop :=
  edgeNs ∈ link.encoder.reader.event.toList ++ link.encoder.queue

/-- An accepted edge that the encoder state no longer knows, or is about to discard because the
clock reading is older than the last edge. -/
def Forgotten (link : ReversalLink) (monotonicNs edgeNs : ℤ) : Prop :=
  edgeNs ∈ link.accepted ∧
    ∀ last, link.encoder.state.lastEdgeNs = some last → monotonicNs < last

/-- In every run, a missed edge has not been recorded, was forgotten, or was taken for a bounce: an
accepted edge that is remembered is at least as young as the last one. -/
theorem missed_cause (hInit : EncoderState.init timeoutSec depth = .ok state)
    (metresPerEdge : ℚ) (clock : ℤ) (motor : MotorNode) (past : List ReversalInput)
    (monotonicNs : ℤ) :
    let link := after (advance step) (start state metresPerEdge clock motor) past
    link.Missed monotonicNs → ∃ edgeNs ∈ link.wheel,
      link.young (link.moment monotonicNs) edgeNs = true ∧
        (link.Unrecorded edgeNs ∨ link.Forgotten monotonicNs edgeNs ∨ link.Bounced edgeNs) := by
  intro link
  rintro ⟨hUnaware, edgeNs, hWheel, hYoung⟩
  have hOrder : link.EdgesInOrder := edgesInOrder_after hInit metresPerEdge clock motor past
  refine ⟨edgeNs, hWheel, hYoung, ?_⟩
  rcases hOrder.heard edgeNs hWheel with hTimes | hBounced
  · rcases List.mem_append.mp hTimes with hAccepted | hUnrecorded
    · refine .inr (.inl ⟨hAccepted, fun last hLast => ?_⟩)
      by_contra hBefore
      have hOld := of_decide_eq_false (hUnaware last hLast)
      have hLater := hOrder.latest last hLast edgeNs hAccepted
      have hNear := (of_decide_eq_true hYoung).2
      have hMoment : monotonicNs ≤ link.moment monotonicNs := le_max_left _ _
      omega
    · exact .inl hUnrecorded
  · exact .inr (.inr hBounced)

/-! ## Every run -/

theorem guarded_encoder_iff (h : link.Guarded) (action : EncoderAction) :
    (link.encoderStep action).Guarded ↔ link.Timely (.encoder action) := by
  cases action with
  | elapse | edge => exact iff_of_true h trivial
  | readEvent | onDirection | readClock =>
    refine iff_of_true ?_ trivial
    unfold encoderStep EncoderNode.step
    dsimp only
    split <;> exact h
  | recordEdge =>
    refine iff_of_true ?_ trivial
    unfold encoderStep EncoderNode.step
    dsimp only
    split
    · dsimp only
      split <;> exact h
    · exact h
  | takeMeasurement =>
    cases hReading : link.encoder.reading with
    | none =>
      refine iff_of_true ?_ fun monotonicNs hSome => (by cases hReading.symm.trans hSome)
      unfold encoderStep EncoderNode.step
      dsimp only
      rw [hReading]
      exact h
    | some monotonicNs =>
      rw [encoderStep_measure hReading]
      constructor
      · intro hNext reading hSome hPending
        cases hReading.symm.trans hSome
        rw [← still_of_stationary_iff]
        intro hStationary
        exact (hNext hPending (link.sampleAt monotonicNs)
          (List.mem_append_right _ (List.mem_singleton_self _)) hStationary).2
      · intro hTimely hPending sample hMem hStationary
        rcases List.mem_append.mp hMem with hMem | hMem
        · exact h hPending sample hMem hStationary
        · cases List.mem_singleton.mp hMem
          exact ⟨rfl, (still_of_stationary_iff link monotonicNs).mpr
            (hTimely monotonicNs hReading hPending) hStationary⟩

theorem guarded_cmd_iff (hOrder : link.EdgesInOrder) (h : link.Guarded) (linearX angularZ : PyFloat)
    (now : ℚ) :
    (link.step (.motor (.cmd linearX angularZ now) rfl)).1.Guarded ↔
      link.Timely (.motor (.cmd linearX angularZ now) rfl) := by
  have hPending := onCmd_pending link.motor linearX angularZ now
  change (link.motorStep (.cmd linearX angularZ now)).Guarded ↔ _
  cases hNew : link.requests (.cmd linearX angularZ now) with
  | true =>
    obtain ⟨hNone, hReverses⟩ := Bool.and_eq_true_iff.mp hNew
    rw [motorStep, if_pos hNew]
    constructor
    · intro hNext _ sample hMem
      by_contra hStationary
      have hEvident : sample.request = link.request + 1 :=
        (hNext (hPending.trans hReverses) sample hMem
          (Bool.eq_true_of_not_eq_false hStationary)).1
      have hNumber := hOrder.numbers sample hMem
      omega
    · intro hTimely _ sample hMem hStationary
      cases (hTimely hNew sample hMem).symm.trans hStationary
  | false =>
    have hSame := Bool.eq_false_iff.mp hNew
    rw [motorStep, if_neg hSame]
    refine iff_of_true (fun hStands sample hMem hStationary => ?_) fun hNew' => absurd hNew' hSame
    have hReverses : link.motor.reverses linearX = true := hPending.symm.trans hStands
    have hSome : link.motor.pendingReversal.isSome = true := by
      cases hBefore : link.motor.pendingReversal with
      | some request => rfl
      | none => exact absurd (Bool.and_eq_true_iff.mpr ⟨by rw [hBefore]; rfl, hReverses⟩) hSame
    exact h hSome sample hMem hStationary

theorem guarded_motor_iff (hOrder : link.EdgesInOrder) (h : link.Guarded) {input : MotorInput}
    (own : input.isEncoderState = false) :
    (link.step (.motor input own)).1.Guarded ↔ link.Timely (.motor input own) := by
  cases input with
  | cmd linearX angularZ now => exact guarded_cmd_iff hOrder h linearX angularZ now
  | watchdog now =>
    exact iff_of_true (h.sublist watchdog_pending (List.Subset.refl _)) fun hNew => (by cases hNew)
  | encoderState => cases own

/-- A step keeps the samples in flight evident exactly when it is timely. -/
theorem guarded_step_iff (hOrder : link.EdgesInOrder) (h : link.Guarded) (input : ReversalInput) :
    (link.step input).1.Guarded ↔ link.Timely input := by
  cases input with
  | encoder action => exact guarded_encoder_iff h action
  | motor input own => exact guarded_motor_iff hOrder h own
  | arrives => exact iff_of_true (h.channel rfl) trivial
  | drops index => exact iff_of_true (h.channel rfl) trivial

/-- In every run of both nodes, whatever switches the direction line next, now or once more of what
is in flight has arrived or is lost, is a sample of a still wheel measured during the request,
exactly when every step is timely. `guarded_step_iff` treats one step: that only still samples are
in flight stays so just when the step is timely. `EdgesInOrder` ties what the encoder knows of the
edges to the wheel. -/
theorem reversals_evident_iff (hInit : EncoderState.init timeoutSec depth = .ok state)
    (metresPerEdge : ℚ) (clock : ℤ) (motor : MotorNode) (past : List ReversalInput) :
    let init := start state metresPerEdge clock motor
    Always (fun past input => (after (advance step) init (input :: past)).Sound) past ↔
      Always (along (advance step) init Timely) past := by
  intro init
  have hGuarded {past} (h : Always (fun past input =>
      (after (advance step) init (input :: past)).Sound) past) :
      (after (advance step) init past).Guarded := by
    cases past with
    | nil => exact fun _ _ hMem => absurd hMem List.not_mem_nil
    | cons input past => exact sound_iff.mp h.1
  induction past with
  | nil => exact Iff.rfl
  | cons input past ih =>
    have hOrder := edgesInOrder_after hInit metresPerEdge clock motor past
    constructor
    · rintro ⟨hSound, hPast⟩
      exact ⟨(guarded_step_iff hOrder (hGuarded hPast) input).mp (sound_iff.mp hSound),
        ih.mp hPast⟩
    · rintro ⟨hTimely, hPast⟩
      have hSound := ih.mpr hPast
      exact ⟨sound_iff.mpr ((guarded_step_iff hOrder (hGuarded hSound) input).mpr hTimely),
        hSound⟩

/-- The encoder after its constructor with a timeout of 0.2 s. -/
def plainEncoder : EncoderState := { stationaryTimeoutNs := 200000000, maxlen := 5 }

/-- An edge is recorded while the car stands; a reversal is requested a second later, and the first
measurement after it switches the line. Latest input first. -/
def freshSample : List ReversalInput :=
  [.arrives,
    .encoder .takeMeasurement,
    .encoder .readClock,
    .motor (.cmd (.finite (-1)) (.finite 0) 1) rfl,
    .encoder (.elapse 1000000000),
    .encoder .recordEdge,
    .encoder .readEvent,
    .encoder .edge]

theorem reversals_evident_still :
    let init := start plainEncoder 1 0 { lastCmd := 0 }
    .dirLine .reverse ∈ ((after (advance step) init freshSample.tail).step .arrives).2 ∧
      (Always (fun past input => (after (advance step) init (input :: past)).Sound) freshSample ↔
        Always (along (advance step) init Timely) freshSample) :=
  ⟨by decide +kernel,
    @reversals_evident_iff plainEncoder (.finite (2 / 10)) (.int 4) (by decide +kernel) _ _ _ _⟩

/-- An edge that still waits in the queue of the line is missed, and the sample is no evidence. -/
example :
    (after (advance step) (start plainEncoder 1 0 { lastCmd := 0 })
      [.encoder .takeMeasurement, .encoder .readClock,
        .motor (.cmd (.finite (-1)) (.finite 0) 1) rfl, .encoder .edge,
        .encoder (.elapse 100000000), .motor (.cmd (.finite 1) (.finite 0) 0) rfl]).samples =
      [{ stationary := true, request := 1, still := false }] := by decide +kernel

/-! ## A late sample -/

/-- The wheel stands when it is measured; then the motor drives forward and the wheel turns; then
the reversal is requested, and the sample arrives. Latest input first. -/
def lateSample : List ReversalInput :=
  [.motor (.cmd (.finite (-1)) (.finite 0) (2 / 10)) rfl,
    .encoder .recordEdge,
    .encoder .readEvent,
    .encoder .edge,
    .encoder (.elapse 100000000),
    .motor (.cmd (.finite 1) (.finite 0) (1 / 10)) rfl,
    .encoder .takeMeasurement,
    .encoder .readClock]

def lateLink : ReversalLink :=
  after (advance step) (start plainEncoder 1 0 { lastCmd := 0 }) lateSample

/-- The direction line is switched while the wheel turns, on the sample from before the request. -/
theorem late_sample_reverses :
    EncoderState.init (.finite (2 / 10)) (.int 4) = .ok plainEncoder ∧
      .dirLine .reverse ∈ (lateLink.step .arrives).2 ∧
      lateLink.still lateLink.encoder.clock = false ∧ ¬ lateLink.SwitchesOnEvidence := by
  refine ⟨by decide +kernel, by decide +kernel, by decide +kernel, fun h => ?_⟩
  have hFlight : lateLink.samples = [{ stationary := true, request := 0, still := true }] := by
    decide +kernel
  have hNumber : lateLink.request = 1 := by decide +kernel
  obtain ⟨sample, rest, -, hSamples, hRequest, -⟩ := h .arrives .reverse (by decide +kernel)
  cases hFlight.symm.trans hSamples
  cases hRequest.trans hNumber

end ReversalLink

end PreRunner.Motor
