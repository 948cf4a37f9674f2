import PreRunner.Paddock.ModeMethods

/-!
# What the runtime may publish and start

`Permitted` judges one event of the trace against what the events before it say: a published
state is well formed and follows from the one before, and a unit is started only after a complete
teardown in the same call. Every event of every run is permitted, whatever the environment
answers, so the two stacks are never both launched by the controller.
-/

namespace PreRunner.Paddock

open Runs

/-! ## The rule -/

/-- A mapping session belongs to a stable MAPPING, and only a stable state is ready. -/
structure RuntimeState.WellFormed (state : RuntimeState) : Prop where
  session : state.mappingSessionId ≠ "" ↔ state.mode = .mapping ∧ state.lifecycle = .stable
  ready : state.ready = true → state.lifecycle = .stable

/-- The epoch advances with a successful transition into MAPPING or AUTONOMY, or from 0 when
`reconcile` adopts a unit that runs. -/
def Advances (o : Observer) (next : RuntimeState) : Prop :=
  next.runtimeEpoch = o.state.runtimeEpoch + 1 ∧ next.lifecycle = .stable ∧ next.mode ≠ .idle ∧
    ModeRuntime.unitOf next.mode ∈ o.running ∧
    ((∃ requestId autonomyMap operation,
        o.call = some (.transition (some next.mode) requestId autonomyMap operation)) ∨
      (o.call = some .reconcile ∧ o.state.runtimeEpoch = 0))

/-- A published state follows from the one before it. -/
structure Publishable (o : Observer) (next : RuntimeState) : Prop where
  wellFormed : next.WellFormed
  request : o.state.acceptedRequestId ≤ next.acceptedRequestId
  epoch : next.runtimeEpoch = o.state.runtimeEpoch ∨ Advances o next

/-- The rule for one event. -/
def Permitted (o : Observer) : ModeEvent → Prop
  | .published next => Publishable o next
  | .started _ => o.cleared = true ∧ o.launched = []
  | _ => True

/-- Every event of the trace is permitted. -/
def Lawful (trace : List ModeEvent) : Prop := Always (along Observer.read {} Permitted) trace

/-! ## What the observer remembers -/

/-- A unit that was seen clean is not launched. -/
def CleanNotLaunched (o : Observer) : Prop := ∀ unit ∈ o.clean, unit ∉ o.launched

theorem cleanNotLaunched_read {o : Observer} (event : ModeEvent) (ih : CleanNotLaunched o) :
    CleanNotLaunched (o.read event) := by
  cases event with
  | observed other answer =>
    cases answer with
    | error text => exact ih
    | ok unitState =>
      intro unit hUnit
      unfold Observer.read at hUnit ⊢
      dsimp only at hUnit ⊢
      cases hClean : unitState.cleanlyInactive with
      | true =>
        rw [hClean] at hUnit
        rw [if_pos rfl, List.mem_filter, not_and]
        intro hLaunched
        simp only [Bool.not_true, Bool.false_eq_true, if_false] at hUnit
        split at hUnit
        · rcases List.mem_cons.mp hUnit with rfl | hOld
          · simp
          · exact absurd hLaunched (ih unit hOld)
        · exact absurd hLaunched (ih unit hUnit)
      | false =>
        rw [hClean] at hUnit
        exact ih unit (List.mem_of_mem_filter hUnit)
  | stopped other answer =>
    cases answer with
    | error text => exact ih
    | ok _ => exact fun unit hUnit => by cases hUnit
  | called call => exact fun unit hUnit => by cases hUnit
  | started other => exact fun unit hUnit => by cases hUnit
  | graph counts => exact ih
  | published next => exact ih

theorem cleanNotLaunched_after (trace : List ModeEvent) :
    CleanNotLaunched (Observer.after trace) :=
  after_invariant (fun unit hUnit => by cases hUnit) (fun _ event => cleanNotLaunched_read event)
    trace

/-- After a complete teardown nothing is launched. -/
theorem launched_of_cleared {trace : List ModeEvent}
    (h : (Observer.after trace).cleared = true) : (Observer.after trace).launched = [] := by
  simp only [Observer.cleared, Bool.and_eq_true, Observer.both, ModeUnit.all, List.all_cons,
    List.all_nil, Bool.and_true, decide_eq_true_eq] at h
  obtain ⟨⟨-, hMapping, hAutonomy⟩, -⟩ := h
  refine List.eq_nil_iff_forall_not_mem.mpr fun unit => ?_
  cases unit with
  | mapping => exact cleanNotLaunched_after trace _ hMapping
  | autonomy => exact cleanNotLaunched_after trace _ hAutonomy

/-- In a lawful trace at most one unit is launched. -/
theorem launched_le_one {trace : List ModeEvent} (h : Lawful trace) :
    (Observer.after trace).launched.length ≤ 1 := by
  induction trace with
  | nil => exact Nat.zero_le 1
  | cons event trace ih =>
    have hOld := ih h.2
    rw [Observer.after_cons]
    cases event with
    | started unit =>
      have hNone : (Observer.after trace).launched = [] := h.1.2
      show (unit :: (Observer.after trace).launched).length ≤ 1
      rw [hNone]
      exact le_refl 1
    | observed unit answer =>
      cases answer with
      | error text => exact hOld
      | ok unitState =>
        unfold Observer.read
        dsimp only
        split
        · exact (List.length_filter_le _ _).trans hOld
        · exact hOld
    | stopped unit answer => cases answer <;> exact hOld
    | _ => exact hOld

/-! ## Every method obeys -/

variable {W : Type} {env : Environment W} {config : RuntimeConfig}

/-- A machine whose trace is lawful and ends in its well-formed state. -/
structure Regular (m : ModeMachine W) : Prop where
  lawful : Lawful m.trace
  published : m.observer.state = m.runtime
  wellFormed : m.runtime.WellFormed

/-- A regular machine in the middle of a call, which has not moved the epoch. -/
structure Obeys (call : RuntimeCall) (epoch : ℕ) (m : ModeMachine W) : Prop
    extends Regular m where
  calling : m.observer.call = some call
  epoch : m.runtime.runtimeEpoch = epoch

namespace ModeRuntime

variable {call : RuntimeCall} {epoch : ℕ}

theorem regular_set {m : ModeMachine W} {next : RuntimeState} (h : Regular m)
    (hNext : Publishable m.observer next) : Regular (m.set next) :=
  ⟨⟨hNext, h.lawful⟩, rfl, hNext.wellFormed⟩

theorem obeys_set {m : ModeMachine W} {next : RuntimeState} (h : Obeys call epoch m)
    (hNext : Publishable m.observer next) (hEpoch : next.runtimeEpoch = epoch) :
    Obeys call epoch (m.set next) :=
  ⟨regular_set h.toRegular hNext, h.calling, hEpoch⟩

/-- A change within the epoch. -/
theorem publishable_within {m : ModeMachine W} {next : RuntimeState} (h : Regular m)
    (hWellFormed : next.WellFormed)
    (hRequest : m.runtime.acceptedRequestId ≤ next.acceptedRequestId)
    (hEpoch : next.runtimeEpoch = m.runtime.runtimeEpoch) : Publishable m.observer next := by
  refine ⟨hWellFormed, ?_, Or.inl ?_⟩
  · rw [h.published]
    exact hRequest
  · rw [h.published]
    exact hEpoch

/-- The answers of the environment break no rule. -/
theorem regular_asked {α : Type} {query : Query α} {m : ModeMachine W} (h : Regular m)
    (hStart : query.harmless = true ∨ Cleared m) : Regular (m.asked env query) := by
  refine ⟨?_, (asked_observer_frame query m).1.trans h.published, h.wellFormed⟩
  cases query with
  | start unit =>
    rcases hStart with hHarmless | hCleared
    · cases hHarmless
    · exact ⟨⟨hCleared, launched_of_cleared hCleared⟩, h.lawful⟩
  | state unit details => exact ⟨trivial, h.lawful⟩
  | stop unit => exact ⟨trivial, h.lawful⟩
  | graphNodes => exact ⟨trivial, h.lawful⟩
  | _ => exact h.lawful

theorem obeys_asked {α : Type} {query : Query α} {m : ModeMachine W} (h : Obeys call epoch m)
    (hStart : query.harmless = true ∨ Cleared m) : Obeys call epoch (m.asked env query) :=
  ⟨regular_asked h.toRegular hStart, (asked_observer_frame query m).2.trans h.calling, h.epoch⟩

theorem stable_obeys : Stable env (@Obeys W call epoch) where
  ask _ _ _ hHarmless h := obeys_asked h (Or.inl hHarmless)
  progress _ _ h := obeys_set h
    (publishable_within h.toRegular ⟨h.wellFormed.session, h.wellFormed.ready⟩ le_rfl rfl) h.epoch

theorem survivesStart_obeys : SurvivesStart env (@Obeys W call epoch) :=
  fun _ _ h hCleared => obeys_asked h (Or.inr hCleared)

theorem regular_idled {m : ModeMachine W} (h : Regular m) : Regular (m.set m.runtime.idled) :=
  regular_set h (publishable_within h
    ⟨⟨fun hNe => absurd rfl hNe, fun hMapping => Mode.noConfusion hMapping.1⟩, fun _ => rfl⟩
    le_rfl rfl)

theorem regular_faulted {m : ModeMachine W} (h : Regular m) (detail reason : String) :
    Regular (m.set (m.runtime.faulted detail reason)) :=
  regular_set h (publishable_within h
    ⟨⟨fun hNe => absurd rfl hNe, fun hMapping => Mode.noConfusion hMapping.1⟩,
      fun hReady => Bool.noConfusion hReady⟩ le_rfl rfl)

/-- The start of a call. -/
theorem obeys_called {m : ModeMachine W} (h : Regular m) (call : RuntimeCall) :
    Obeys call m.runtime.runtimeEpoch { m with trace := .called call :: m.trace } :=
  ⟨⟨⟨trivial, h.lawful⟩, h.published, h.wellFormed⟩, rfl, rfl⟩

/-- A stable state of a running mode is well formed with a session for MAPPING alone. -/
theorem wellFormed_running {next : RuntimeState} (hStable : next.lifecycle = .stable)
    (hSession : next.mappingSessionId ≠ "" ↔ next.mode = .mapping) : next.WellFormed :=
  ⟨hSession.trans ⟨fun h => ⟨h, hStable⟩, fun h => h.1⟩, fun _ => hStable⟩

theorem reconcile_regular {m : ModeMachine W} (h : Regular m) :
    Regular (step env config m .reconcile) := by
  have hAdopt : ∀ mode, mode ≠ .idle →
      AdoptsInto (Obeys .reconcile m.runtime.runtimeEpoch) (@Regular W) mode := by
    intro mode hMode m' selectedMap sessionId ok reason hm hActive hSession
    refine regular_set hm.toRegular ⟨wellFormed_running rfl hSession, ?_, ?_⟩
    · rw [hm.published]
    · rw [hm.published]
      by_cases hZero : m'.runtime.runtimeEpoch = 0
      · refine Or.inr ⟨?_, rfl, hMode, hActive, Or.inr ⟨hm.calling, ?_⟩⟩
        · rw [hm.published]
          show max m'.runtime.runtimeEpoch 1 = m'.runtime.runtimeEpoch + 1
          omega
        · rw [hm.published]
          exact hZero
      · left
        show max m'.runtime.runtimeEpoch 1 = m'.runtime.runtimeEpoch
        omega
  have hSpec : Triple (Obeys .reconcile m.runtime.runtimeEpoch) (reconcile env config)
      (fun _ => Regular) (fun _ => Regular) :=
    triple_conseq (reconcile_spec stable_obeys (fun _ hm => regular_idled hm.toRegular) hAdopt
      fun _ detail reason hm => regular_faulted hm.toRegular detail reason)
      (fun _ hm => hm) (fun _ _ hm => hm.1) fun _ _ hm => hm.1.toRegular
  exact hSpec.state (obeys_called h .reconcile)

theorem refresh_regular {m : ModeMachine W} (h : Regular m) :
    Regular (step env config m .refresh) := by
  have hSpec : Triple (Obeys .refresh m.runtime.runtimeEpoch) (refresh env)
      (fun _ => Regular) (fun _ => Regular) := by
    refine triple_conseq (@refresh_spec W env config _ stable_obeys (fun m' hm => ?_)
      fun m' ok reason hm hStable => ?_) (fun _ hm => hm) (fun _ _ hm => hm.1.toRegular)
      fun _ _ hm => hm.1.toRegular
    · exact obeys_set hm (publishable_within hm.toRegular
        ⟨hm.wellFormed.session, fun hReady => Bool.noConfusion hReady⟩ le_rfl rfl) hm.epoch
    · exact obeys_set hm (publishable_within hm.toRegular
        ⟨hm.wellFormed.session, fun _ => hStable⟩ le_rfl rfl) hm.epoch
  exact hSpec.state (obeys_called h .refresh)

/-- The barrier of NEW MAP leaves the epoch alone, also where it refuses the request. -/
theorem quiesce_regular {previous : RuntimeState} {newMap : Bool}
    (hPossible : newMap = true → newMapPossible previous = true) :
    Triple (fun m => Obeys call epoch m ∧ m.runtime.runtimeEpoch = previous.runtimeEpoch)
      (quiesce env config previous newMap)
      (fun refused m => match refused with
        | some result => Returns Regular result m
        | none => Obeys call epoch m) (fun _ => @Regular W) := by
  have hStable : Stable env fun m : ModeMachine W =>
      Obeys call epoch m ∧ m.runtime.runtimeEpoch = previous.runtimeEpoch :=
    ⟨fun _ query m hHarmless hm => ⟨stable_obeys.ask _ query m hHarmless hm.1, hm.2⟩,
      fun m detail hm => ⟨(@stable_obeys W env call epoch).progress m detail hm.1, hm.2⟩⟩
  cases newMap with
  | false => exact triple_pure fun m hm => hm.1
  | true =>
    have hPrevious := hPossible rfl
    simp only [newMapPossible, Bool.and_eq_true, decide_eq_true_eq] at hPrevious
    obtain ⟨⟨-, hMapping⟩, hSession⟩ := hPrevious
    have hRefuse : ∀ text, Triple
        (fun m : ModeMachine W => Obeys call epoch m ∧
          m.runtime.runtimeEpoch = previous.runtimeEpoch)
        (refuseNewMap env previous text) (Returns Regular)
        (fun e m => (Obeys call epoch m ∧ m.runtime.runtimeEpoch = previous.runtimeEpoch) ∧
          Raises config e) := fun text =>
      refuseNewMap_spec hStable fun m ok reason hm => regular_set hm.1.toRegular
        (publishable_within hm.1.toRegular
          (wellFormed_running rfl ⟨fun _ => hMapping, fun _ => hSession⟩) le_rfl hm.2.symm)
    refine triple_catching (triple_bind (waitForQuiescence_spec hStable) fun _ =>
      triple_pure fun m hm => hm.1) (fun e text _ => ?_) fun e m _ hm => hm.1.1.toRegular
    have hSome : ∀ result : RuntimeState, Triple (@Returns W Regular result)
        (pure (some result) : ModeProgram W (Option RuntimeState))
        (fun refused m => match refused with
          | some result => Returns Regular result m
          | none => Obeys call epoch m) (fun _ => Regular) :=
      fun result => triple_pure fun m hm => hm
    exact triple_bind (triple_conseq (hRefuse text) (fun _ hm => hm.1) (fun _ _ hm => hm)
      fun _ _ hm => hm.1.1.toRegular) hSome

theorem transition_regular {m : ModeMachine W} (h : Regular m) {requested : Option Mode}
    {requestId operation : ℤ} {autonomyMap : String} :
    Regular (step env config m (.transition requested requestId autonomyMap operation)) := by
  set call : RuntimeCall := .transition requested requestId autonomyMap operation with hCall
  have hSpec : Triple (Obeys call m.runtime.runtimeEpoch)
      (transition env config requested requestId autonomyMap operation)
      (fun _ => Regular) (fun _ => Regular) := by
    refine transition_cases (fun current _ => triple_pure fun m hm => hm.1.toRegular)
      (fun current mode change _ hFresh _ hChange => ?_)
      fun current mode newMap hMode hFresh hNewMap => ?_
    · refine set_state_spec fun m' ⟨hm, hCurrent⟩ => regular_set hm.toRegular ?_
      obtain ⟨detail, hDetail⟩ := hChange m'.runtime
      rw [hDetail]
      refine publishable_within hm.toRegular ⟨hm.wellFormed.session, hm.wellFormed.ready⟩ ?_ rfl
      rw [hCurrent]
      exact hFresh.le
    · have hEnter : EntersInto (Obeys call m.runtime.runtimeEpoch) (@Regular W) mode
          autonomyMap := by
        intro hRunning m' sessionId ok reason hm hActive hSession
        refine regular_set hm.toRegular ⟨wellFormed_running rfl hSession, ?_, Or.inr ?_⟩
        · rw [hm.published]
        · refine ⟨?_, rfl, hRunning, hActive, Or.inl ⟨requestId, autonomyMap, operation, ?_⟩⟩
          · rw [hm.published]
          · rw [hm.calling, hCall, hMode]
      have hArm : Triple
          (fun m' => Obeys call m.runtime.runtimeEpoch m' ∧ m'.runtime = current)
          (armQuiescence env newMap)
          (fun _ m' => Obeys call m.runtime.runtimeEpoch m' ∧ m'.runtime = current)
          (fun _ => Regular) := by
        cases newMap with
        | true => exact ask_keeps fun m' hm => ⟨obeys_asked hm.1 (Or.inl rfl), hm.2⟩
        | false => exact triple_pure fun m' hm => hm
      refine triple_post (execute_spec stable_obeys survivesStart_obeys
        (fun _ hm => regular_idled hm.toRegular) hEnter
        (fun _ detail reason hm => regular_faulted hm.toRegular detail reason) hArm ?_
        (quiesce_regular fun h => (hNewMap.mp h).2.2) fun _ _ hm => hm.1.toRegular)
        fun _ _ hm => hm.1
      rintro m' detail ⟨hm, rfl⟩
      refine ⟨obeys_set hm (publishable_within hm.toRegular ⟨?_, ?_⟩ hFresh.le rfl) hm.epoch, rfl⟩
      · exact ⟨fun hNe => absurd rfl hNe, fun hStable => Lifecycle.noConfusion hStable.2⟩
      · exact fun hReady => Bool.noConfusion hReady
  exact hSpec.state (obeys_called h call)

theorem step_regular {m : ModeMachine W} (h : Regular m) (call : RuntimeCall) :
    Regular (step env config m call) := by
  cases call with
  | transition requested requestId autonomyMap operation => exact transition_regular h
  | reconcile => exact reconcile_regular h
  | refresh => exact refresh_regular h

/-- A request that is not newer than the accepted one asks nothing and changes nothing. -/
theorem transition_stale {m : ModeMachine W} {requested : Option Mode} {requestId operation : ℤ}
    {autonomyMap : String} (h : requestId ≤ m.runtime.acceptedRequestId) :
    perform env config (.transition requested requestId autonomyMap operation) m =
      (.ok m.runtime, { m with
        trace := .called (.transition requested requestId autonomyMap operation) :: m.trace }) := by
  show (if requestId ≤ m.runtime.acceptedRequestId then pure m.runtime else _ :
    ModeProgram W RuntimeState) { m with
      trace := .called (.transition requested requestId autonomyMap operation) :: m.trace } = _
  rw [if_pos h]
  rfl

end ModeRuntime

/-- What holds of the machine after every run. -/
structure ModeSafe (env : Environment W) (config : RuntimeConfig) (m : ModeMachine W) : Prop where
  /-- Each published state follows from the one before, each start from a teardown. -/
  lawful : Lawful m.trace
  published : m.observer.state = m.runtime
  /-- At no time are both units launched by the controller. -/
  exclusive : ∀ later past, m.trace = later ++ past → (Observer.after past).launched.length ≤ 1
  /-- A request that is not newer than the accepted one asks nothing and changes nothing. -/
  stale : ∀ requested requestId autonomyMap operation, requestId ≤ m.runtime.acceptedRequestId →
    ModeRuntime.perform env config (.transition requested requestId autonomyMap operation) m =
      (.ok m.runtime, { m with
        trace := .called (.transition requested requestId autonomyMap operation) :: m.trace })

theorem lawful_suffix {later past : List ModeEvent} (h : Lawful (later ++ past)) : Lawful past := by
  induction later with
  | nil => exact h
  | cons event later ih => exact ih h.2

/-- Whatever the environment answers, every run is safe. `Regular` is the invariant between two
calls (`step_regular`). It holds the order of stop, check and start as a property of the trace, so
that every suffix of it is lawful too. -/
theorem mode_safety (env : Environment W) (config : RuntimeConfig) (w : W)
    (calls : List RuntimeCall) :
    ModeSafe env config (after (ModeRuntime.step env config) { world := w } calls) := by
  have hInit : Regular ({ world := w } : ModeMachine W) :=
    ⟨trivial, rfl, ⟨fun hNe => absurd rfl hNe, fun h => Mode.noConfusion h.1⟩, fun _ => rfl⟩
  have hRegular : Regular (after (ModeRuntime.step env config) { world := w } calls) :=
    after_invariant hInit
      (fun m call (h : Regular m) => (ModeRuntime.step_regular h call :
        Regular (ModeRuntime.step env config m call))) calls
  refine ⟨hRegular.lawful, hRegular.published, fun later past hTrace => ?_,
    fun _ _ _ _ hStale => ModeRuntime.transition_stale hStale⟩
  have hLawful := hRegular.lawful
  rw [hTrace] at hLawful
  exact launched_le_one (lawful_suffix hLawful)

end PreRunner.Paddock
