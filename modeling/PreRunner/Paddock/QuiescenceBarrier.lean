import PreRunner.Paddock.DemandLink
import PreRunner.Paddock.QuiescenceLink

/-!
# The quiescence barrier of NEW MAP

The barrier latches the receive time of every matching heartbeat, also of one that the authority
produced before it knew of the transition. While a barrier waits, what is in flight behind a message
of its number has its number too (`InRound`), so a passing check is justified exactly when the latch
holds the time of a revocation of its own transition (`barrier_iff`).
-/

namespace PreRunner.Paddock

open Bringup Runs

namespace QuiescenceLink

open CommandAuthority (sentStates Braked)

variable (lib : NavLibrary) (init : QuiescenceLink)

/-! ## Numbers -/

/-- No number is ahead of the current barrier. -/
structure Bounded (link : QuiescenceLink) : Prop where
  processed : link.processed ≤ link.round
  modes : ∀ entry ∈ link.modeStates, entry.1 ≤ link.round
  states : ∀ entry ∈ link.authorityStates, entry.1 ≤ link.round

/-- While a barrier waits, every message behind one of its number has its number too, its mode
states are unstable, and its authority states are braked. -/
structure InRound (link : QuiescenceLink) : Prop where
  started : ∃ time, link.supervisor.quiescenceStartedAt = some time ∧ time ≤ link.supervisor.now
  lifecycle : link.supervisor.runtime.lifecycle = .transitioning
  epoch : link.supervisor.runtime.runtimeEpoch = link.supervisor.quiescenceRuntimeEpoch
  afterMode : link.processed = link.round → ∀ entry ∈ link.modeStates, entry.1 = link.round
  orderedModes : link.modeStates.Pairwise fun earlier later =>
    earlier.1 = link.round → later.1 = link.round
  modes : ∀ entry ∈ link.modeStates, entry.1 = link.round →
    entry.2.lifecycle = .transitioning ∧
      entry.2.runtimeEpoch = link.supervisor.quiescenceRuntimeEpoch
  idle : link.processed = link.round → link.authority.supervisor.state.mode = .idle ∧
    link.authority.runtimeEpoch = link.supervisor.quiescenceRuntimeEpoch
  orderedStates : link.authorityStates.Pairwise fun earlier later =>
    earlier.1 = link.round → later.1 = link.round
  states : ∀ entry ∈ link.authorityStates, entry.1 = link.round →
    link.processed = link.round ∧ Braked link.supervisor.quiescenceRuntimeEpoch entry.2

/-- The latched times, and what has arrived in this transition. -/
structure Evidence (past : List QuiescenceInput) (link : QuiescenceLink) : Prop where
  revokedAt : ∀ time, link.supervisor.authorityRevokedAt = some time → time ≤ link.supervisor.now
  encoderAt : ∀ time, link.supervisor.encoderAt = some time → time ≤ link.supervisor.now
  revoked : link.revokedBy = link.round → link.supervisor.authorityRevokedAt ≠ none →
    Revoked lib init past
  stationary : link.revokedBy = link.round → ∀ revokedAt encoderAt,
    link.supervisor.authorityRevokedAt = some revokedAt →
    link.supervisor.encoderAt = some encoderAt → revokedAt < encoderAt →
    link.supervisor.encoderStationary = true → StationaryAfter lib init past
  received : link.supervisor.point.isQuiescing = true → Revoked lib init past →
    link.revokedBy = link.round ∧ link.processed = link.round ∧
      ∀ entry ∈ link.authorityStates, entry.1 = link.round

variable {lib init} {link : QuiescenceLink} {past : List QuiescenceInput}

/-! ### Numbers stay bounded -/

theorem Bounded.append_modes (h : Bounded link) {number : ℕ} (hNumber : number ≤ link.round)
    (supervisor : ModeSupervisor) (published : List RuntimeState) :
    Bounded { link with
      supervisor
      modeStates := link.modeStates ++ published.map fun state => (number, state) } := by
  refine ⟨h.processed, fun entry hMem => ?_, h.states⟩
  rcases List.mem_append.mp hMem with hMem | hMem
  · exact h.modes entry hMem
  · obtain ⟨state, _, rfl⟩ := List.mem_map.mp hMem
    exact hNumber

theorem Bounded.step (h : Bounded link) (input : QuiescenceInput) :
    Bounded (link.step lib input) := by
  cases input with
  | supervisor input own =>
    change Bounded (link.supervisorStep input)
    cases hPlain : input.isPlain with
    | true =>
      cases link.supervisor.barrier_case input hPlain with
      | begun hBegun =>
        rw [supervisorStep_begun hBegun]
        refine ⟨h.processed.trans (Nat.le_succ _), fun entry hMem => ?_,
          fun entry hMem => (h.states entry hMem).trans (Nat.le_succ _)⟩
        rcases List.mem_append.mp hMem with hMem | hMem
        · exact (h.modes entry hMem).trans (Nat.le_succ _)
        · cases List.mem_singleton.mp hMem
          exact le_rfl
      | quiesces hQuiescing hQuiesces =>
        rw [supervisorStep_quiesces hQuiescing hQuiesces]
        exact h.append_modes le_rfl _ _
      | away hAway =>
        rw [supervisorStep_away hAway]
        exact h.append_modes (Nat.zero_le _) _ _
    | false =>
      cases input with
      | clock | encoder =>
        rw [supervisorStep_silent rfl rfl]
        exact ⟨h.processed, h.modes, h.states⟩
      | authorityState => cases own
      | _ => cases hPlain
  | authority event own =>
    refine ⟨h.processed, h.modes, fun entry hMem => ?_⟩
    rcases List.mem_append.mp hMem with hMem | hMem
    · exact h.states entry hMem
    · obtain ⟨state, _, rfl⟩ := List.mem_map.mp hMem
      exact h.processed
  | modeArrives now read =>
    cases hModes : link.modeStates with
    | nil =>
      rw [step_modeArrives_nil hModes]
      exact h
    | cons head rest =>
      obtain ⟨number, state⟩ := head
      rw [step_modeArrives_cons hModes]
      have hHead := h.modes (number, state) (hModes ▸ List.mem_cons_self)
      refine ⟨hHead, fun entry hMem => h.modes entry (hModes ▸ List.mem_cons_of_mem _ hMem),
        fun entry hMem => ?_⟩
      rcases List.mem_append.mp hMem with hMem | hMem
      · exact h.states entry hMem
      · obtain ⟨state, _, rfl⟩ := List.mem_map.mp hMem
        exact hHead
  | authorityArrives =>
    cases hStates : link.authorityStates with
    | nil =>
      rw [step_authorityArrives_nil hStates]
      exact h
    | cons head rest =>
      obtain ⟨number, state⟩ := head
      rw [step_authorityArrives_cons hStates]
      exact ⟨h.processed, h.modes,
        fun entry hMem => h.states entry (hStates ▸ List.mem_cons_of_mem _ hMem)⟩

/-! ### While a barrier waits -/

/-- The invariant reads no more of the supervisor than this. -/
theorem InRound.of_supervisor (h : InRound link) {next : ModeSupervisor}
    (hStarted : next.quiescenceStartedAt = link.supervisor.quiescenceStartedAt)
    (hEpoch : next.quiescenceRuntimeEpoch = link.supervisor.quiescenceRuntimeEpoch)
    (hNow : link.supervisor.now ≤ next.now)
    (hLifecycle : next.runtime.lifecycle = link.supervisor.runtime.lifecycle)
    (hRuntime : next.runtime.runtimeEpoch = link.supervisor.runtime.runtimeEpoch) :
    InRound { link with supervisor := next } := by
  obtain ⟨time, hTime, hLe⟩ := h.started
  refine ⟨⟨time, hStarted.trans hTime, hLe.trans hNow⟩, hLifecycle.trans h.lifecycle,
    hRuntime.trans (h.epoch.trans hEpoch.symm), h.afterMode, h.orderedModes,
      fun entry hMem hNumber => ?_,
    fun hProcessed => ?_, h.orderedStates, fun entry hMem hNumber => ?_⟩
  · exact ⟨(h.modes entry hMem hNumber).1, (h.modes entry hMem hNumber).2.trans hEpoch.symm⟩
  · refine ⟨(h.idle hProcessed).1, (h.idle hProcessed).2.trans ?_⟩
    exact congrArg Nat.cast hEpoch.symm
  · obtain ⟨hProcessed, hBraked⟩ := h.states entry hMem hNumber
    exact ⟨hProcessed, hEpoch ▸ hBraked⟩

/-- Unstable states of this runtime are published at the barrier. -/
theorem InRound.publish (h : InRound link) (published : List RuntimeState)
    (hPublished : ∀ state ∈ published, state.lifecycle = .transitioning ∧
      state.runtimeEpoch = link.supervisor.quiescenceRuntimeEpoch) :
    InRound { link with
      modeStates := link.modeStates ++ published.map fun state => (link.round, state) } := by
  refine ⟨h.started, h.lifecycle, h.epoch, fun hProcessed entry hMem => ?_, ?_,
    fun entry hMem hNumber => ?_, h.idle, h.orderedStates, h.states⟩
  · rcases List.mem_append.mp hMem with hMem | hMem
    · exact h.afterMode hProcessed entry hMem
    · obtain ⟨state, _, rfl⟩ := List.mem_map.mp hMem
      rfl
  · refine List.pairwise_append.mpr ⟨h.orderedModes, ?_, fun earlier _ later hMem _ => ?_⟩
    · exact List.pairwise_map.mpr (List.pairwise_of_forall fun _ _ _ => rfl)
    · obtain ⟨state, _, rfl⟩ := List.mem_map.mp hMem
      rfl
  · rcases List.mem_append.mp hMem with hMem | hMem
    · exact h.modes entry hMem hNumber
    · obtain ⟨state, hState, rfl⟩ := List.mem_map.mp hMem
      exact hPublished state hState

/-- The authority publishes while the last mode state it has processed has the given number. -/
theorem InRound.answer (h : InRound link) {node : CommandAuthority} {number : ℕ}
    {states : List CommandAuthorityState} {rest : List (ℕ × RuntimeState)}
    (hRest : ∀ entry ∈ rest, entry ∈ link.modeStates)
    (hOrdered : rest.Pairwise fun earlier later =>
      earlier.1 = link.round → later.1 = link.round)
    (hAfter : number = link.round → ∀ entry ∈ rest, entry.1 = link.round)
    (hNumber : link.processed = link.round → number = link.round)
    (hIdle : number = link.round → node.supervisor.state.mode = .idle ∧
      node.runtimeEpoch = link.supervisor.quiescenceRuntimeEpoch)
    (hBraked : number = link.round → ∀ state ∈ states,
      Braked link.supervisor.quiescenceRuntimeEpoch state) :
    InRound { link with
      authority := node
      modeStates := rest
      processed := number
      authorityStates := link.authorityStates ++ states.map fun state => (number, state) } := by
  refine ⟨h.started, h.lifecycle, h.epoch, hAfter, hOrdered,
    fun entry hMem => h.modes entry (hRest entry hMem), hIdle, ?_, fun entry hMem hEntry => ?_⟩
  · refine List.pairwise_append.mpr ⟨h.orderedStates, ?_, fun earlier hEarlier later hMem hEq => ?_⟩
    · exact List.pairwise_map.mpr (List.pairwise_of_forall fun _ _ hEq => hEq)
    · obtain ⟨state, _, rfl⟩ := List.mem_map.mp hMem
      exact hNumber (h.states earlier hEarlier hEq).1
  · rcases List.mem_append.mp hMem with hMem | hMem
    · obtain ⟨hProcessed, hState⟩ := h.states entry hMem hEntry
      exact ⟨hNumber hProcessed, hState⟩
    · obtain ⟨state, hState, rfl⟩ := List.mem_map.mp hMem
      exact ⟨hEntry, hBraked hEntry state hState⟩

/-- A new barrier: nothing in flight has its number yet. -/
theorem inRound_begun (h : Bounded link) {input : ModeInput}
    (hBegun : ModeSupervisor.Begun link.supervisor (link.supervisor.step input)) :
    InRound (link.supervisorStep input) := by
  rw [supervisorStep_begun hBegun]
  have hNew : ∀ number, number ≤ link.round → number ≠ link.round + 1 :=
    fun number hLe hEq => absurd hLe (by omega)
  refine ⟨⟨_, hBegun.started, hBegun.now.ge⟩, hBegun.lifecycle, hBegun.epoch.symm,
    fun hEq => absurd hEq (hNew _ h.processed), ?_, fun entry hMem hNumber => ?_,
    fun hEq => absurd hEq (hNew _ h.processed), ?_,
    fun entry hMem hNumber => absurd hNumber (hNew _ (h.states entry hMem))⟩
  · refine List.pairwise_append.mpr ⟨?_, List.pairwise_singleton _ _, ?_⟩
    · exact List.Pairwise.imp_of_mem (fun hMem _ _ hEq => absurd hEq (hNew _ (h.modes _ hMem)))
        (List.pairwise_of_forall fun _ _ => trivial)
    · intro earlier hMem later _ hEq
      exact absurd hEq (hNew _ (h.modes _ hMem))
  · rcases List.mem_append.mp hMem with hMem | hMem
    · exact absurd hNumber (hNew _ (h.modes _ hMem))
    · cases List.mem_singleton.mp hMem
      exact ⟨hBegun.lifecycle, hBegun.epoch.symm⟩
  · exact List.Pairwise.imp_of_mem (fun hMem _ _ hEq => absurd hEq (hNew _ (h.states _ hMem)))
      (List.pairwise_of_forall fun _ _ => trivial)

theorem InRound.authority (h : InRound link) (event : AuthorityEvent)
    (own : event.isMode = false) : InRound (link.step lib (.authority event own)) := by
  have hCallback := CommandAuthority.receive_callback lib link.authority event own
  refine h.answer (fun _ hMem => hMem) h.orderedModes h.afterMode id (fun hProcessed => ?_)
    fun hProcessed state hMem => ?_
  · obtain ⟨hIdle, hEpoch⟩ := h.idle hProcessed
    have hStays := hCallback.staysIdle hIdle
    exact ⟨hStays.mode, hStays.epoch.trans hEpoch⟩
  · obtain ⟨hIdle, hEpoch⟩ := h.idle hProcessed
    exact hEpoch ▸ (hCallback.staysIdle hIdle).states state hMem

theorem InRound.modeArrives (h : InRound link) (now : ℚ) (read : ApplyInput) :
    InRound (link.step lib (.modeArrives now read)) := by
  cases hModes : link.modeStates with
  | nil =>
    rw [step_modeArrives_nil hModes]
    exact h
  | cons head rest =>
    obtain ⟨number, state⟩ := head
    rw [step_modeArrives_cons hModes]
    have hOrdered := h.orderedModes
    rw [hModes] at hOrdered
    have hHead := List.pairwise_cons.mp hOrdered
    have hState := h.modes (number, state) (hModes ▸ List.mem_cons_self)
    have hIdle : number = link.round →
        (link.authority.onMode lib state.message now read).1.supervisor.state.mode = .idle ∧
          (link.authority.onMode lib state.message now read).1.runtimeEpoch =
            state.message.runtimeEpoch ∧
          ∀ sent ∈ sentStates (link.authority.onMode lib state.message now read).2,
            Braked state.message.runtimeEpoch sent := by
      intro hNumber
      refine CommandAuthority.onMode_staysIdle lib link.authority now read (modeOf_value _) ?_
      change state.lifecycle.value ≠ _
      rw [(hState hNumber).1]
      decide
    have hEpoch : number = link.round →
        state.message.runtimeEpoch = (link.supervisor.quiescenceRuntimeEpoch : Int) :=
      fun hNumber => congrArg Nat.cast (hState hNumber).2
    refine h.answer (fun entry hMem => hModes ▸ List.mem_cons_of_mem _ hMem) hHead.2
      (fun hNumber entry hMem => hHead.1 entry hMem hNumber) (fun hProcessed => ?_)
      (fun hNumber => ?_) fun hNumber sent hMem => ?_
    · exact h.afterMode hProcessed (number, state) (hModes ▸ List.mem_cons_self)
    · exact ⟨(hIdle hNumber).1, (hIdle hNumber).2.1.trans (hEpoch hNumber)⟩
    · exact hEpoch hNumber ▸ (hIdle hNumber).2.2 sent hMem

theorem onAuthorityState_frame (node : ModeSupervisor) (state : CommandAuthorityState) :
    (node.onAuthorityState state).quiescenceStartedAt = node.quiescenceStartedAt ∧
      (node.onAuthorityState state).quiescenceRuntimeEpoch = node.quiescenceRuntimeEpoch ∧
      (node.onAuthorityState state).now = node.now ∧
      (node.onAuthorityState state).runtime = node.runtime ∧
      (node.onAuthorityState state).point = node.point ∧
      (node.onAuthorityState state).encoderAt = node.encoderAt ∧
      (node.onAuthorityState state).encoderStationary = node.encoderStationary := by
  unfold ModeSupervisor.onAuthorityState
  split <;> exact ⟨rfl, rfl, rfl, rfl, rfl, rfl, rfl⟩

theorem InRound.authorityArrives (h : InRound link) :
    InRound (link.step lib .authorityArrives) := by
  cases hStates : link.authorityStates with
  | nil =>
    rw [step_authorityArrives_nil hStates]
    exact h
  | cons head rest =>
    obtain ⟨number, state⟩ := head
    rw [step_authorityArrives_cons hStates]
    obtain ⟨hStarted, hEpoch, hNow, hRuntime, _⟩ := onAuthorityState_frame link.supervisor state
    have hFrame := h.of_supervisor hStarted hEpoch hNow.ge (by rw [hRuntime]) (by rw [hRuntime])
    have hOrdered := hFrame.orderedStates
    have hAll := hFrame.states
    dsimp only at hOrdered hAll
    rw [hStates] at hOrdered hAll
    exact ⟨hFrame.started, hFrame.lifecycle, hFrame.epoch, hFrame.afterMode, hFrame.orderedModes,
      hFrame.modes, hFrame.idle, (List.pairwise_cons.mp hOrdered).2,
      fun entry hMem => hAll entry (List.mem_cons_of_mem _ hMem)⟩

/-- While a barrier waits, before and after the step, every step keeps the invariant; a new barrier
establishes it. -/
theorem inRound_step (hBounded : Bounded link)
    (h : link.supervisor.point.isQuiescing = true → InRound link) (input : QuiescenceInput)
    (hQuiescing : (link.step lib input).supervisor.point.isQuiescing = true) :
    InRound (link.step lib input) := by
  cases input with
  | supervisor input own =>
    change (link.supervisorStep input).supervisor.point.isQuiescing = true at hQuiescing
    change InRound (link.supervisorStep input)
    change (link.supervisor.step input).1.point.isQuiescing = true at hQuiescing
    cases hPlain : input.isPlain with
    | true =>
      cases link.supervisor.barrier_case input hPlain with
      | begun hBegun => exact inRound_begun hBounded hBegun
      | quiesces hWaits hQuiesces =>
        rw [supervisorStep_quiesces hWaits hQuiesces]
        have hRound := h hWaits
        have hNext := hRound.of_supervisor hQuiesces.same.started hQuiesces.same.epoch
          hQuiesces.same.now.ge hQuiesces.lifecycle hQuiesces.epoch
        refine hNext.publish _ fun state hMem => ?_
        rw [hQuiesces.published state hMem]
        exact ⟨hNext.lifecycle, hNext.epoch⟩
      | away hAway =>
        rw [hAway] at hQuiescing
        cases hQuiescing
    | false =>
      cases input with
      | clock time =>
        rw [supervisorStep_silent rfl rfl]
        exact (h hQuiescing).of_supervisor rfl rfl (le_max_left _ _) rfl rfl
      | encoder stationary =>
        rw [supervisorStep_silent rfl rfl]
        exact (h hQuiescing).of_supervisor rfl rfl le_rfl rfl rfl
      | authorityState => cases own
      | _ => cases hPlain
  | authority event own => exact (h hQuiescing).authority event own
  | modeArrives now read =>
    refine InRound.modeArrives (h ?_) now read
    cases hModes : link.modeStates with
    | nil =>
      rw [step_modeArrives_nil hModes] at hQuiescing
      exact hQuiescing
    | cons head rest =>
      rw [step_modeArrives_cons hModes] at hQuiescing
      exact hQuiescing
  | authorityArrives =>
    refine InRound.authorityArrives (h ?_)
    cases hStates : link.authorityStates with
    | nil =>
      rw [step_authorityArrives_nil hStates] at hQuiescing
      exact hQuiescing
    | cons head rest =>
      rw [step_authorityArrives_cons hStates] at hQuiescing
      dsimp only at hQuiescing
      rw [(onAuthorityState_frame _ _).2.2.2.2.1] at hQuiescing
      exact hQuiescing

/-! ### What has arrived -/

/-- A step in the same round with the same latched times. -/
theorem Evidence.keep (h : Evidence lib init past link) {next : QuiescenceLink}
    {input : QuiescenceInput}
    (hRound : along (step lib) init (sameRound lib) past input)
    (hNumbers : next.round = link.round ∧ next.revokedBy = link.revokedBy)
    (hRevoked : next.supervisor.authorityRevokedAt = link.supervisor.authorityRevokedAt)
    (hEncoder : next.supervisor.encoderAt = link.supervisor.encoderAt)
    (hStationary : next.supervisor.encoderStationary = link.supervisor.encoderStationary)
    (hNow : link.supervisor.now ≤ next.supervisor.now)
    (hReceived : next.supervisor.point.isQuiescing = true → Revoked lib init (input :: past) →
      next.revokedBy = next.round ∧ next.processed = next.round ∧
        ∀ entry ∈ next.authorityStates, entry.1 = next.round) :
    Evidence lib init (input :: past) next := by
  obtain ⟨hNumber, hBy⟩ := hNumbers
  refine ⟨fun time hTime => ?_, fun time hTime => ?_, fun hFresh hSome => ?_,
    fun hFresh revokedAt encoderAt hAt hEncoderAt hLt hStill => ?_, hReceived⟩
  · exact (h.revokedAt time (hRevoked ▸ hTime)).trans hNow
  · exact (h.encoderAt time (hEncoder ▸ hTime)).trans hNow
  · rw [hBy, hNumber] at hFresh
    exact (h.revoked hFresh (hRevoked ▸ hSome)).keep hRound
  · rw [hBy, hNumber] at hFresh
    exact (h.stationary hFresh revokedAt encoderAt (hRevoked ▸ hAt) (hEncoder ▸ hEncoderAt) hLt
      (hStationary ▸ hStill)).keep hRound

/-- Without a new revocation, what has arrived in the round had arrived before. -/
theorem revoked_of_cons {input : QuiescenceInput} (h : Revoked lib init (input :: past))
    (hNone : ¬ revocationArrives (after (step lib) init past) input) :
    sameRound lib (after (step lib) init past) input ∧ Revoked lib init past :=
  h.elim (fun hArrives => absurd hArrives hNone) id

theorem evidence_supervisor (input : ModeInput) (own : input.isAuthorityState = false)
    (hLink : after (step lib) init past = link) (h : Evidence lib init past link) :
    Evidence lib init (.supervisor input own :: past) (link.supervisorStep input) := by
  have hBack : Revoked lib init (.supervisor input own :: past) →
      sameRound lib link (.supervisor input own) ∧ Revoked lib init past :=
    fun hRevoked => hLink ▸ revoked_of_cons hRevoked id
  have hRound : (link.supervisorStep input).round = link.round →
      along (step lib) init (sameRound lib) past (.supervisor input own) := by
    intro hSame
    change sameRound lib (after (step lib) init past) _
    rw [hLink]
    exact hSame
  cases hPlain : input.isPlain with
  | true =>
    cases link.supervisor.barrier_case input hPlain with
    | begun hBegun =>
      have hStep := supervisorStep_begun hBegun
      have hNotSame : ¬ sameRound lib link (.supervisor input own) := by
        intro hSame
        change (link.supervisorStep input).round = link.round at hSame
        rw [hStep] at hSame
        exact absurd hSame (Nat.succ_ne_self _)
      rw [hStep]
      refine ⟨fun time hTime => ?_, fun time hTime => ?_, fun _ hSome => ?_,
        fun _ revokedAt _ hAt => ?_, fun _ hRevoked => absurd (hBack hRevoked).1 hNotSame⟩
      · rw [hBegun.revoked] at hTime
        cases hTime
      · exact (h.encoderAt time (hBegun.encoder ▸ hTime)).trans hBegun.now.ge
      · exact absurd hBegun.revoked hSome
      · rw [hBegun.revoked] at hAt
        cases hAt
    | quiesces hQuiescing hQuiesces =>
      have hStep := supervisorStep_quiesces hQuiescing hQuiesces
      rw [hStep] at hRound ⊢
      exact h.keep (hRound rfl) ⟨rfl, rfl⟩ hQuiesces.same.revoked hQuiesces.same.encoder
        hQuiesces.same.stationary hQuiesces.same.now.ge
        fun _ hRevoked => h.received hQuiescing (hBack hRevoked).2
    | away hAway hSame =>
      have hStep := supervisorStep_away hAway
      rw [hStep] at hRound ⊢
      refine h.keep (hRound rfl) ⟨rfl, rfl⟩ hSame.revoked hSame.encoder hSame.stationary
        hSame.now.ge fun hQuiescing => ?_
      rw [hAway] at hQuiescing
      cases hQuiescing
  | false =>
    cases input with
    | clock time =>
      rw [supervisorStep_silent rfl rfl] at hRound ⊢
      exact h.keep (hRound rfl) ⟨rfl, rfl⟩ rfl rfl rfl (le_max_left _ _)
        fun hQuiescing hRevoked => h.received hQuiescing (hBack hRevoked).2
    | encoder still =>
      rw [supervisorStep_silent rfl rfl] at hRound ⊢
      refine ⟨h.revokedAt, fun time hTime => ?_, fun hFresh hSome => ?_,
        fun hFresh revokedAt encoderAt hAt _ _ hStill => ?_,
        fun hQuiescing hRevoked => h.received hQuiescing (hBack hRevoked).2⟩
      · cases hTime
        exact le_rfl
      · exact (h.revoked hFresh hSome).keep (hRound rfl)
      · refine .start ⟨hStill, h.revoked hFresh fun hNone => ?_⟩
        change link.supervisor.authorityRevokedAt = some revokedAt at hAt
        rw [hNone] at hAt
        cases hAt
    | authorityState => cases own
    | _ => cases hPlain

theorem evidence_modeArrives (now : ℚ) (read : ApplyInput)
    (hLink : after (step lib) init past = link) (h : Evidence lib init past link)
    (hInRound : link.supervisor.point.isQuiescing = true → InRound link) :
    Evidence lib init (.modeArrives now read :: past) (link.step lib (.modeArrives now read)) := by
  have hBack : Revoked lib init (.modeArrives now read :: past) → Revoked lib init past :=
    fun hRevoked => (revoked_of_cons hRevoked id).2
  have hRound : (link.step lib (.modeArrives now read)).round = link.round →
      along (step lib) init (sameRound lib) past (.modeArrives now read) := by
    intro hSame
    change sameRound lib (after (step lib) init past) _
    rw [hLink]
    exact hSame
  cases hModes : link.modeStates with
  | nil =>
    rw [step_modeArrives_nil hModes] at hRound ⊢
    exact h.keep (hRound rfl) ⟨rfl, rfl⟩ rfl rfl rfl le_rfl
      fun hQuiescing hRevoked => h.received hQuiescing (hBack hRevoked)
  | cons head rest =>
    obtain ⟨number, state⟩ := head
    rw [step_modeArrives_cons hModes] at hRound ⊢
    refine h.keep (hRound rfl) ⟨rfl, rfl⟩ rfl rfl rfl le_rfl fun hQuiescing hRevoked => ?_
    obtain ⟨hBy, hProcessed, hStates⟩ := h.received hQuiescing (hBack hRevoked)
    have hNumber : number = link.round :=
      (hInRound hQuiescing).afterMode hProcessed (number, state) (hModes ▸ List.mem_cons_self)
    refine ⟨hBy, hNumber, fun entry hMem => ?_⟩
    rcases List.mem_append.mp hMem with hMem | hMem
    · exact hStates entry hMem
    · obtain ⟨sent, _, rfl⟩ := List.mem_map.mp hMem
      exact hNumber

/-- A braked state of this runtime is latched. -/
theorem InRound.revokes (h : InRound link) {state : CommandAuthorityState}
    (hBraked : Braked link.supervisor.quiescenceRuntimeEpoch state) :
    link.supervisor.revokes state = true := by
  obtain ⟨time, hTime, hLe⟩ := h.started
  unfold ModeSupervisor.revokes
  rw [hTime, hBraked.brake, hBraked.authority, hBraked.epoch]
  simp [hLe]

theorem evidence_authorityArrives (hLink : after (step lib) init past = link)
    (h : Evidence lib init past link)
    (hInRound : link.supervisor.point.isQuiescing = true → InRound link) :
    Evidence lib init (.authorityArrives :: past) (link.step lib .authorityArrives) := by
  have hRound : (link.step lib .authorityArrives).round = link.round →
      along (step lib) init (sameRound lib) past .authorityArrives := by
    intro hSame
    change sameRound lib (after (step lib) init past) _
    rw [hLink]
    exact hSame
  cases hStates : link.authorityStates with
  | nil =>
    have hNone : ¬ revocationArrives (after (step lib) init past) .authorityArrives := by
      intro hArrives
      rw [hLink] at hArrives
      change link.authorityStates.head?.map Prod.fst = _ at hArrives
      rw [hStates] at hArrives
      cases hArrives
    rw [step_authorityArrives_nil hStates] at hRound ⊢
    exact h.keep (hRound rfl) ⟨rfl, rfl⟩ rfl rfl rfl le_rfl
      fun hQuiescing hRevoked => h.received hQuiescing (revoked_of_cons hRevoked hNone).2
  | cons head rest =>
    obtain ⟨number, state⟩ := head
    have hArrives : revocationArrives (after (step lib) init past) .authorityArrives ↔
        number = link.round := by
      rw [hLink]
      change link.authorityStates.head?.map Prod.fst = _ ↔ _
      rw [hStates]
      exact Option.some_inj
    obtain ⟨_, _, hNow, _, hPoint, hEncoder, hStill⟩ :=
      onAuthorityState_frame link.supervisor state
    rw [step_authorityArrives_cons hStates] at hRound ⊢
    have hSame := hRound rfl
    -- every message behind one of this round is of this round
    have hReceived : link.supervisor.point.isQuiescing = true →
        Revoked lib init (.authorityArrives :: past) →
        (if link.supervisor.revokes state then number else link.revokedBy) = link.round ∧
          link.processed = link.round ∧ ∀ entry ∈ rest, entry.1 = link.round := by
      intro hQuiescing hRevoked
      have hIn := hInRound hQuiescing
      have hOrdered := hIn.orderedStates
      rw [hStates] at hOrdered
      by_cases hNumber : number = link.round
      · obtain ⟨hProcessed, hBraked⟩ :=
          hIn.states (number, state) (hStates ▸ List.mem_cons_self) hNumber
        rw [hIn.revokes hBraked]
        exact ⟨hNumber, hProcessed,
          fun entry hMem => (List.pairwise_cons.mp hOrdered).1 entry hMem hNumber⟩
      · have hBefore := (revoked_of_cons hRevoked (hArrives.not.mpr hNumber)).2
        have hHead := (h.received hQuiescing hBefore).2.2 (number, state)
          (hStates ▸ List.mem_cons_self)
        exact absurd hHead hNumber
    unfold ModeSupervisor.onAuthorityState at hPoint hEncoder hStill hNow ⊢
    by_cases hRevokes : link.supervisor.revokes state = true
    · rw [if_pos hRevokes] at hPoint hEncoder hStill hNow ⊢
      refine ⟨fun time hTime => ?_, h.encoderAt, fun hFresh _ => ?_,
        fun hFresh revokedAt encoderAt hAt hEncoderAt hLt => ?_, hReceived⟩
      · cases hTime
        exact le_rfl
      · dsimp only at hFresh
        rw [if_pos hRevokes] at hFresh
        exact .start (hArrives.mpr hFresh)
      · cases hAt
        exact absurd (h.encoderAt encoderAt hEncoderAt) (not_le.mpr hLt)
    · have hKept : (if link.supervisor.revokes state = true then number else link.revokedBy) =
          link.revokedBy := if_neg hRevokes
      rw [if_neg hRevokes] at hPoint hEncoder hStill hNow ⊢
      exact h.keep hSame ⟨rfl, hKept⟩ rfl rfl rfl le_rfl hReceived

theorem evidence_step (hLink : after (step lib) init past = link)
    (h : Evidence lib init past link)
    (hInRound : link.supervisor.point.isQuiescing = true → InRound link)
    (input : QuiescenceInput) :
    Evidence lib init (input :: past) (link.step lib input) := by
  cases input with
  | supervisor input own => exact evidence_supervisor input own hLink h
  | authority event own =>
    have hRound : along (step lib) init (sameRound lib) past (.authority event own) := by
      change sameRound lib (after (step lib) init past) _
      rw [hLink]
      rfl
    refine h.keep hRound ⟨rfl, rfl⟩ rfl rfl rfl le_rfl fun hQuiescing hRevoked => ?_
    obtain ⟨hBy, hProcessed, hStates⟩ := h.received hQuiescing (revoked_of_cons hRevoked id).2
    refine ⟨hBy, hProcessed, fun entry hMem => ?_⟩
    rcases List.mem_append.mp hMem with hMem | hMem
    · exact hStates entry hMem
    · obtain ⟨sent, _, rfl⟩ := List.mem_map.mp hMem
      exact hProcessed
  | modeArrives now read => exact evidence_modeArrives now read hLink h hInRound
  | authorityArrives => exact evidence_authorityArrives hLink h hInRound

/-! ## Every run -/

/-- What holds after every history. -/
structure Sound (lib : NavLibrary) (init : QuiescenceLink) (past : List QuiescenceInput)
    (link : QuiescenceLink) : Prop where
  bounded : Bounded link
  inRound : link.supervisor.point.isQuiescing = true → InRound link
  evidence : Evidence lib init past link

theorem sound_start (lib : NavLibrary) (runtime : RuntimeState) (now : ℚ)
    (authority : CommandAuthority) (modeStates : List RuntimeState)
    (authorityStates : List CommandAuthorityState) :
    let init := start runtime now authority modeStates authorityStates
    Sound lib init [] init := by
  intro init
  refine ⟨⟨le_rfl, fun entry hMem => ?_, fun entry hMem => ?_⟩,
    fun hQuiescing => (by cases hQuiescing),
    ⟨fun _ h => (by cases h), fun _ h => (by cases h), fun _ h => absurd rfl h,
      fun _ _ _ h => (by cases h), fun h => (by cases h)⟩⟩
  · obtain ⟨state, _, rfl⟩ := List.mem_map.mp hMem
    exact le_rfl
  · obtain ⟨state, _, rfl⟩ := List.mem_map.mp hMem
    exact le_rfl

theorem sound_after (hInit : Sound lib init [] init) (past : List QuiescenceInput) :
    Sound lib init past (after (step lib) init past) := by
  induction past with
  | nil => exact hInit
  | cons input past ih =>
    exact ⟨ih.bounded.step input, inRound_step ih.bounded ih.inRound input,
      evidence_step rfl ih.evidence ih.inRound input⟩

theorem quiescenceReady_iff {node : ModeSupervisor} :
    node.quiescenceReady.1 = true ↔ ∃ revokedAt encoderAt,
      node.authorityRevokedAt = some revokedAt ∧ node.encoderAt = some encoderAt ∧
        revokedAt < encoderAt ∧ node.encoderStationary = true := by
  unfold ModeSupervisor.quiescenceReady
  cases node.authorityRevokedAt with
  | none => simp
  | some revokedAt =>
    cases node.encoderAt with
    | none => simp
    | some encoderAt =>
      cases node.encoderStationary with
      | false =>
        dsimp only
        split <;> simp
      | true =>
        by_cases hLe : encoderAt ≤ revokedAt
        · simp [hLe]
        · simp [hLe, lt_of_not_ge hLe]

theorem revoked_of_stationary (h : StationaryAfter lib init past) : Revoked lib init past := by
  induction past with
  | nil => exact h
  | cons input past ih =>
    rcases h with ⟨hArrives, hRevoked⟩ | ⟨hSame, hBefore⟩
    · refine .keep ?_ hRevoked
      cases input with
      | supervisor input own =>
        cases input with
        | encoder still =>
          change (supervisorStep _ (.encoder still)).round = _
          rw [supervisorStep_silent rfl rfl]
        | _ => exact absurd hArrives id
      | _ => exact absurd hArrives id
    · exact .keep hSame (ih hBefore)

/-- A passing check is justified exactly when the barrier was not misled. -/
theorem Sound.justified_iff (h : Sound lib init past (after (step lib) init past))
    {input : QuiescenceInput} :
    (passes (after (step lib) init past) input → Justified lib init past) ↔
      (checks (after (step lib) init past) input → ¬ Misled (after (step lib) init past)) := by
  cases input with
  | supervisor input own =>
    cases input with
    | check answers =>
      constructor
      · rintro hJustified hWaits ⟨hNumber, hTimes⟩
        obtain ⟨hStationary, -⟩ := hJustified ⟨hWaits, quiescenceReady_iff.mpr hTimes⟩
        exact hNumber (h.evidence.received hWaits (revoked_of_stationary hStationary)).1
      · rintro hTrusted ⟨hWaits, hReady⟩
        obtain ⟨revokedAt, encoderAt, hRevokedAt, hEncoderAt, hLt, hStill⟩ :=
          quiescenceReady_iff.mp hReady
        have hNumber : (after (step lib) init past).revokedBy =
            (after (step lib) init past).round := by
          by_contra hStale
          exact hTrusted hWaits ⟨hStale, revokedAt, encoderAt, hRevokedAt, hEncoderAt, hLt, hStill⟩
        have hRevoked := h.evidence.revoked hNumber (by rw [hRevokedAt]; exact nofun)
        obtain ⟨_, hProcessed, _⟩ := h.evidence.received hWaits hRevoked
        have hIdle := ((h.inRound hWaits).idle hProcessed).1
        exact ⟨h.evidence.stationary hNumber _ _ hRevokedAt hEncoderAt hLt hStill,
          PaddockState.authority_of_idle hIdle, PaddockState.autonomyPermitted_of_idle hIdle⟩
    | _ => exact ⟨fun _ h => absurd h id, fun _ h => absurd h id⟩
  | authority event own => exact ⟨fun _ h => absurd h id, fun _ h => absurd h id⟩
  | modeArrives now read => exact ⟨fun _ h => absurd h id, fun _ h => absurd h id⟩
  | authorityArrives => exact ⟨fun _ h => absurd h id, fun _ h => absurd h id⟩

/-- In every run, whatever is in flight at its start: every passing check of the barrier rests on a
revocation of its own transition and a later stationary sample, with the authority granting no
motion, exactly when no check is made while the barrier is misled by an older heartbeat. From a
sound state a passing check is justified just when it is not misled (`justified_iff`), and every
state of a run is sound (`sound_after`). -/
theorem barrier_iff (lib : NavLibrary) (runtime : RuntimeState) (now : ℚ)
    (authority : CommandAuthority) (modeStates : List RuntimeState)
    (authorityStates : List CommandAuthorityState) (past : List QuiescenceInput) :
    let init := start runtime now authority modeStates authorityStates
    Always (fun past input => passes (after (step lib) init past) input →
        Justified lib init past) past ↔
      Always (along (step lib) init fun link input => checks link input → ¬ Misled link) past := by
  intro init
  have hSound := sound_after (sound_start lib runtime now authority modeStates authorityStates)
  induction past with
  | nil => exact Iff.rfl
  | cons input past ih => exact and_congr (hSound past).justified_iff ih

/-! ## A heartbeat from before the transition -/

/-- A stable mapping session. -/
def mappingState : RuntimeState :=
  { mode := .mapping, acceptedRequestId := 1, runtimeEpoch := 1, mappingSessionId := "1-a"
    ready := true, readinessReason := "" }

/-- An authority that runs under the mapping session. -/
def mappingAuthority : CommandAuthority :=
  ((DemandLink.plainStart.node MissionRuntime.plainLibrary).1.onMode MissionRuntime.plainLibrary
    mappingState.message 0 (ManualLink.readAt 0)).1

def operatorEvent (event : ControlEvent) (sequence : Int) (now speed : ℚ) : QuiescenceInput :=
  .authority (.controlEvent
    { event, clientId := "c", leaseId := "l", sequence, manualSpeedMps := .finite speed }
    now now now (ManualLink.readAt now)) rfl

def noAnswers : ReadinessAnswers := { structural := .ok "", odomToBase := true, mapToOdom := true }

/-- The lease is taken, which publishes a braked authority state; NEW MAP is accepted while it is in
flight; it arrives; the browser drives manually; the encoder still reports standstill. Latest
input first. -/
def misledRun : List QuiescenceInput :=
  [.supervisor (.encoder true) rfl,
    .supervisor (.clock 2) rfl,
    operatorEvent .manualActive 1 2 (3 / 10),
    .authorityArrives,
    .supervisor (.request ⟨2, "l", 1, "", 1⟩) rfl,
    .supervisor (.clock 1) rfl,
    .supervisor (.lease true "l") rfl,
    operatorEvent .leaseAcquired 0 1 0]

/-- The barrier passes although the authority has not processed the transition and has granted
manual motion. -/
theorem heartbeat_misleads_barrier :
    let init := start mappingState 0 mappingAuthority [mappingState] []
    let link := after (step MissionRuntime.plainLibrary) init misledRun
    passes link (.supervisor (.check noAnswers) rfl) ∧
      link.authority.supervisor.state.authority = .paddockManual ∧
      ¬ Justified MissionRuntime.plainLibrary init misledRun := by
  have hManual : (after (step MissionRuntime.plainLibrary)
      (start mappingState 0 mappingAuthority [mappingState] [])
      misledRun).authority.supervisor.state.authority = .paddockManual := by decide +kernel
  refine ⟨⟨by decide +kernel, by decide +kernel⟩, hManual, fun h => ?_⟩
  cases hManual.symm.trans h.2.1

end QuiescenceLink

end PreRunner.Paddock
