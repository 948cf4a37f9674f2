import PreRunner.Paddock.ModeEvidence

/-!
# What the methods of the runtime publish

One specification for each public method, for every predicate that survives its calls. A start
is granted only to a predicate that survives it after a complete teardown, and each published
state is described to the predicate that must hold of it. The properties of transitions and of
published states instantiate these.
-/

namespace PreRunner.Paddock

open Runs

variable {W : Type} {env : Environment W} {config : RuntimeConfig}

namespace ModeRuntime

/-- A unit is started only after the teardown, and the predicate survives that. -/
def SurvivesStart (env : Environment W) (I : ModeMachine W → Prop) : Prop :=
  ∀ unit m, I m → Cleared m → I (m.asked env (.start unit))

variable {I Q : ModeMachine W → Prop}

/-- The exceptions of a disk access. -/
theorem disk_keeps {α : Type} {query : Query (Except DiskError α)}
    (h : ∀ m, I m → I (m.asked env query)) :
    Triple I (disk env query) (fun _ => I) (fun e m => I m ∧ ∃ error, e = .disk error) := by
  refine triple_bind (ask_keeps h) fun answer => ?_
  cases answer with
  | ok value => exact triple_pure fun _ hI => hI
  | error error => exact triple_raise fun m hI => ⟨hI, error, rfl⟩

/-- A session id is issued to MAPPING, and is never empty. -/
theorem sessionOf_spec (h : ∀ m, I m → I (m.asked env .sessionId)) (mode : Mode) (epoch : ℕ)
    {E : ModeError → ModeMachine W → Prop} :
    Triple I (sessionOf env mode epoch) (fun id m => I m ∧ (id ≠ "" ↔ mode = .mapping)) E := by
  unfold sessionOf
  split
  · rename_i hMapping
    refine triple_bind (ask_keeps h) fun token => triple_pure fun m hI =>
      ⟨hI, fun _ => hMapping, fun _ hEmpty => ?_⟩
    have hLength := congrArg String.length hEmpty
    simp only [String.length_append] at hLength
    have hDash : ("-" : String).length = 1 := rfl
    have hNone : ("" : String).length = 0 := rfl
    omega
  · rename_i hOther
    exact triple_pure fun m hI => ⟨hI, fun hNe => absurd rfl hNe, fun hMode => absurd hMode hOther⟩

/-- A call without an entry in the trace starts nothing. -/
theorem harmless_of_quiet {α : Type} {query : Query α}
    (hQuiet : ∀ answer, query.event answer = none) : query.harmless = true := by
  cases query with
  | start unit => cases hQuiet (.ok ())
  | _ => rfl

theorem cleared_quiet {α : Type} {query : Query α} (h : Stable env I)
    (hQuiet : ∀ answer, query.event answer = none) (m : ModeMachine W)
    (hm : I m ∧ Cleared m) : I (m.asked env query) ∧ Cleared (m.asked env query) := by
  refine ⟨h.ask _ query m (harmless_of_quiet hQuiet) hm.1, ?_⟩
  unfold Cleared
  rw [asked_observer hQuiet]
  exact hm.2

theorem prepareUnit_spec (h : Stable env I) (requested : Mode) (autonomyMap : String) :
    Triple (fun m => I m ∧ Cleared m) (prepareUnit env requested autonomyMap)
      (fun _ m => I m ∧ Cleared m) (fun e m => I m ∧ ∃ error, e = .disk error) := by
  have hProgress : ∀ m detail, I m ∧ Cleared m →
      I (m.set { m.runtime with detail, readinessReason := detail }) ∧
        Cleared (m.set { m.runtime with detail, readinessReason := detail }) :=
    fun m detail hm => ⟨h.progress m detail hm.1, hm.2⟩
  have hDisk : ∀ {query : Query (Except DiskError Unit)},
      (∀ answer, query.event answer = none) →
      Triple (fun m => I m ∧ Cleared m) (disk env query) (fun _ m => I m ∧ Cleared m)
        (fun e m => I m ∧ ∃ error, e = .disk error) := fun hQuiet =>
    triple_conseq (disk_keeps (cleared_quiet h hQuiet)) (fun _ hm => hm) (fun _ _ hm => hm)
      fun e m hm => ⟨hm.1.1, hm.2⟩
  unfold prepareUnit
  split
  · exact triple_bind (transitionProgress_keeps hProgress _) fun _ =>
      triple_bind (hDisk fun _ => rfl) fun _ => triple_bind (hDisk fun _ => rfl) fun _ =>
        triple_pure fun _ hm => hm
  · exact triple_pure fun _ hm => hm

/-- A method returns the state it leaves. -/
def Returns (Q : ModeMachine W → Prop) (result : RuntimeState) (m : ModeMachine W) : Prop :=
  Q m ∧ result = m.runtime

/-- Only a wait that outlasts its iterations escapes. -/
def Escapes (config : RuntimeConfig) (I : ModeMachine W → Prop) (error : ModeError)
    (m : ModeMachine W) : Prop := I m ∧ error = .diverged ∧ ¬ config.Enough

/-- What the handler of `transition` and `reconcile` sees. -/
def Caught (config : RuntimeConfig) (I : ModeMachine W → Prop) (error : ModeError)
    (m : ModeMachine W) : Prop :=
  I m ∧ (Raises config error ∨ ∃ cause, error = .disk cause)

theorem Caught.raised {error : ModeError} {m : ModeMachine W}
    (h : I m ∧ Raises config error) : Caught config I error m := ⟨h.1, Or.inl h.2⟩

/-- `except (OSError, RuntimeError, ValueError)` around a method leaves nothing to escape. -/
theorem escapes_of_caught {error : ModeError} {m : ModeMachine W} (h : Caught config I error m)
    (hNone : error.caught? = none) : Escapes config I error m := by
  obtain ⟨hI, (⟨text, rfl⟩ | ⟨rfl, hShort⟩) | ⟨cause, rfl⟩⟩ := h
  · cases hNone
  · exact ⟨hI, rfl, hShort⟩
  · cases cause <;> cases hNone

/-- The handler: the runtime is torn down and left in a fault. -/
theorem orFail_spec (h : Stable env I) {body : ModeProgram W RuntimeState}
    {describe : String → String} (hBody : Triple I body (Returns Q) (Caught config I))
    (hFault : ∀ m detail reason, I m → Q (m.set (m.runtime.faulted detail reason))) :
    Triple I (body.catching ModeError.caught? fun text => fail env config (describe text))
      (Returns Q) (Escapes config I) := by
  refine triple_catching hBody (fun e text _ => ?_) fun e m hNone hm => escapes_of_caught hm hNone
  exact triple_pre (fail_spec h _ (fun m detail hI => ⟨hFault m _ _ hI, rfl⟩)
    fun m hI hShort => ⟨hI, rfl, hShort⟩) fun m hm => hm.1

/-! ## transition -/

/-- The state in which a transition into the mode ends satisfies `Q`. -/
def EntersInto (I Q : ModeMachine W → Prop) (mode : Mode) (autonomyMap : String) : Prop :=
  mode ≠ .idle → ∀ m sessionId ok reason, I m →
    SeenActive (unitOf mode) m → (sessionId ≠ "" ↔ mode = .mapping) →
    Q (m.set { m.runtime with
      mode
      lifecycle := .stable
      detail := ""
      runtimeEpoch := m.runtime.runtimeEpoch + 1
      mappingSessionId := sessionId
      ready := ok
      readinessReason := reason
      activeAutonomyMap := if mode = .autonomy then autonomyMap else m.runtime.activeAutonomyMap })

/-- The new runtime after a start, as `transition` publishes it. -/
theorem replaceRuntime_spec (h : Stable env I) (hStart : SurvivesStart env I) {requested : Mode}
    {autonomyMap : String} (hIdle : ∀ m, I m → Q (m.set m.runtime.idled))
    (hEnter : EntersInto I Q requested autonomyMap) :
    Triple I (replaceRuntime env config requested autonomyMap)
      (Returns Q) (Caught config I) := by
  have hRaised : ∀ e m, I m ∧ Raises config e → Caught config I e m := fun e m => Caught.raised
  refine triple_bind (triple_conseq (stopAll_spec h (Or.inr rfl)) (fun _ hm => hm)
    (fun _ _ hm => hm) hRaised) fun _ => ?_
  split
  · exact set_state_spec fun m hm => ⟨hIdle m hm.1, rfl⟩
  · rename_i hRequested
    refine triple_bind (triple_conseq (prepareUnit_spec h requested autonomyMap) (fun _ hm => hm)
      (fun _ _ hm => hm) fun e m hm => ⟨hm.1, Or.inr hm.2⟩) fun unit => ?_
    refine triple_bind (transitionProgress_keeps
      (fun m detail hm => ⟨h.progress m detail hm.1, hm.2⟩) _) fun _ => ?_
    have hStarted : Triple (fun m => I m ∧ Cleared m) (systemd env (.start unit))
        (fun _ m => I m) (fun e m => I m ∧ Raises config e) := by
      have hAsk : Triple (fun m => I m ∧ Cleared m) (ask env (.start unit)) (fun _ => I)
          (fun e m => I m ∧ Raises config e) := by
        refine fun m hm => ⟨fun a m' hRun => ?_, fun e m' hRun => ?_⟩
        · cases hRun
          exact hStart unit m hm.1 hm.2
        · cases hRun
      refine triple_bind hAsk fun answer => ?_
      cases answer with
      | ok _ => exact triple_pure fun _ hI => hI
      | error text => exact triple_raise fun m hI => ⟨hI, Or.inl ⟨text, rfl⟩⟩
    refine triple_bind (triple_conseq hStarted (fun _ hm => hm) (fun _ _ hm => hm) hRaised)
      fun _ => ?_
    refine triple_bind (transitionProgress_spec h _) fun _ => ?_
    refine triple_bind (triple_conseq (waitForReadiness_spec h requested) (fun _ hm => hm)
      (fun _ _ hm => hm) hRaised) fun _ => ?_
    have hSeen := stable_seenActive h (unitOf requested)
    refine triple_bind (triple_conseq (fullyReady_spec hSeen.ask requested) (fun _ hm => hm)
      (fun _ _ hm => hm.1) fun e m hm => hRaised e m ⟨hm.1.1, hm.2⟩) fun answer => ?_
    obtain ⟨ok, reason⟩ := answer
    refine triple_state fun current => ?_
    refine triple_bind (sessionOf_spec (fun m hm => ⟨hSeen.ask _ .sessionId m rfl hm.1, hm.2⟩)
      requested _) fun sessionId => set_state_spec ?_
    rintro m ⟨⟨⟨hI, hActive⟩, rfl⟩, hSession⟩
    exact ⟨hEnter hRequested m sessionId ok reason hI hActive hSession, rfl⟩

theorem waitForQuiescence_spec (h : Stable env I) :
    Triple I (waitForQuiescence env config) (fun _ => I) (fun e m => I m ∧ Raises config e) := by
  refine triple_post (@poll_spec W env config _ _ _ _ (fun _ => True)
    (fun m => h.ask _ _ m rfl) (fun m => h.ask _ _ m rfl) (fun time => ?_)
    fun publish hSome time reason => ?_) fun _ m hm => hm.1
  · exact triple_post (ask_keeps fun m => (stable_notBefore h time).ask _ _ m rfl)
      fun _ m hm => ⟨hm, fun _ => trivial⟩
  · cases hSome
    exact transitionProgress_spec (stable_notBefore h time) _

/-- The refusal of NEW MAP fails only where systemd does. -/
theorem refuseNewMap_spec (h : Stable env I) {previous : RuntimeState} {text : String}
    (hRestore : ∀ m ok reason, I m → Q (m.set { m.runtime with
      mode := previous.mode
      lifecycle := .stable
      detail := "NEW MAP rejected: " ++ text
      runtimeEpoch := previous.runtimeEpoch
      mappingSessionId := previous.mappingSessionId
      ready := ok
      readinessReason := reason })) :
    Triple I (refuseNewMap env previous text) (Returns Q)
      (fun e m => I m ∧ Raises config e) := by
  refine triple_bind (fullyReady_spec h.ask .mapping) fun answer => ?_
  obtain ⟨ok, reason⟩ := answer
  exact set_state_spec fun m hm => ⟨hRestore m ok reason hm.1, rfl⟩

/-- The state of an accepted request. -/
def acceptedState (previous : RuntimeState) (requestId : ℤ) (detail : String) : RuntimeState :=
  { previous with
    lifecycle := .transitioning
    acceptedRequestId := requestId
    detail
    ready := false
    readinessReason := detail
    mappingSessionId := "" }

/-- An accepted request ends in what its barrier, its transition or its failure publishes. -/
theorem execute_spec (h : Stable env I) (hStart : SurvivesStart env I)
    {I₀ I₁ I₂ : ModeMachine W → Prop}
    {requested : Mode} {requestId : ℤ} {autonomyMap : String} {newMap : Bool}
    {previous : RuntimeState} {E : ModeError → ModeMachine W → Prop}
    (hIdle : ∀ m, I m → Q (m.set m.runtime.idled))
    (hEnter : EntersInto I Q requested autonomyMap)
    (hFault : ∀ m detail reason, I m → Q (m.set (m.runtime.faulted detail reason)))
    (hArm : Triple (fun m => I₀ m ∧ m.runtime = previous) (armQuiescence env newMap)
      (fun _ => I₁) E)
    (hAccept : ∀ m detail, I₁ m → I₂ (m.set (acceptedState m.runtime requestId detail)))
    (hQuiesce : Triple I₂ (quiesce env config previous newMap)
      (fun refused m => match refused with
        | some result => Returns Q result m
        | none => I m) E)
    (hEscapes : ∀ e m, Escapes config I e m → E e m) :
    Triple (fun m => I₀ m ∧ m.runtime = previous)
      (execute env config requested requestId autonomyMap newMap) (Returns Q) E := by
  refine triple_state fun current m ⟨⟨hI, hPrevious⟩, hCurrent⟩ => ?_
  obtain rfl : current = previous := hCurrent.symm.trans hPrevious
  refine (triple_bind hArm fun _ => triple_bind (set_spec fun m hm => hAccept m _ hm) fun _ =>
    triple_bind hQuiesce fun refused => ?_) m ⟨hI, hPrevious⟩
  cases refused with
  | some result => exact triple_pure fun _ hm => hm
  | none =>
    exact triple_conseq (orFail_spec h (replaceRuntime_spec h hStart hIdle hEnter) hFault)
      (fun _ hm => hm) (fun _ _ hm => hm) hEscapes

/-- The request is a NEW MAP that `transition` executes. -/
def StartsNewMap (current : RuntimeState) (requested : Mode) (operation : ℤ) : Prop :=
  requested = .mapping ∧ operation = opNewMap ∧ newMapPossible current = true

/-- The branches of `transition`: the request is ignored, acknowledged in place, or executed. -/
theorem transition_cases {P : ModeMachine W → Prop} {requested : Option Mode}
    {requestId operation : ℤ} {autonomyMap : String} {R : RuntimeState → ModeMachine W → Prop}
    {E : ModeError → ModeMachine W → Prop}
    (hIgnored : ∀ current, requestId ≤ current.acceptedRequestId ∨ requested = none →
      Triple (fun m => P m ∧ m.runtime = current) (pure current) R E)
    (hAcknowledged : ∀ current mode change, requested = some mode →
      current.acceptedRequestId < requestId → ¬ StartsNewMap current mode operation →
      (∀ s : RuntimeState, ∃ detail, change s = { s with acceptedRequestId := requestId, detail }) →
      Triple (fun m => P m ∧ m.runtime = current) (do set change; state) R E)
    (hExecuted : ∀ current mode newMap, requested = some mode →
      current.acceptedRequestId < requestId →
      (newMap = true ↔ StartsNewMap current mode operation) →
      Triple (fun m => P m ∧ m.runtime = current)
        (execute env config mode requestId autonomyMap newMap) R E) :
    Triple P (transition env config requested requestId autonomyMap operation) R E := by
  refine triple_state fun current => ?_
  split
  · rename_i hStale
    exact hIgnored current (Or.inl hStale)
  · rename_i hFresh
    rw [not_le] at hFresh
    cases requested with
    | none => exact hIgnored current (Or.inr rfl)
    | some mode =>
      dsimp only
      split
      · rename_i hUnselected
        exact hAcknowledged current mode _ rfl hFresh
          (fun hStarts => Mode.noConfusion (hStarts.1.symm.trans hUnselected.1))
          fun s => ⟨_, rfl⟩
      · split
        · rename_i hImpossible
          simp only [Bool.and_eq_true, Bool.not_eq_true'] at hImpossible
          exact hAcknowledged current mode _ rfl hFresh
            (fun hStarts => Bool.false_ne_true (hImpossible.2.symm.trans hStarts.2.2))
            fun s => ⟨_, rfl⟩
        · rename_i hPossible
          have hNewMap : (decide (operation = opNewMap) && decide (mode = .mapping)) = true ↔
              StartsNewMap current mode operation := by
            simp only [Bool.and_eq_true, Bool.not_eq_true', Bool.not_eq_false, not_and,
              decide_eq_true_eq] at hPossible ⊢
            exact ⟨fun h => ⟨h.2, h.1, hPossible h⟩, fun h => ⟨h.2.1, h.1⟩⟩
          split
          · rename_i hSame
            simp only [Bool.and_eq_true, Bool.not_eq_true'] at hSame
            exact hAcknowledged current mode _ rfl hFresh
              (fun hStarts => Bool.false_ne_true (hSame.1.1.1.symm.trans (hNewMap.mpr hStarts)))
              fun s => ⟨s.detail, rfl⟩
          · exact hExecuted current mode _ rfl hFresh hNewMap

/-- What a call outside the controller leaves of the state and the call that it reads. -/
theorem asked_observer_frame {α : Type} (query : Query α) (m : ModeMachine W) :
    (m.asked env query).observer.state = m.observer.state ∧
      (m.asked env query).observer.call = m.observer.call := by
  cases query with
  | state unit details =>
    rw [asked_state_observer]
    cases (env.answer (.state unit details) m.world).1 <;> exact ⟨rfl, rfl⟩
  | stop unit =>
    have hRead : (m.asked env (.stop unit)).observer =
        m.observer.read (.stopped unit (env.answer (.stop unit) m.world).1) := rfl
    rw [hRead]
    cases (env.answer (.stop unit) m.world).1 <;> exact ⟨rfl, rfl⟩
  | _ => exact ⟨rfl, rfl⟩

/-! ## reconcile -/

/-- The state in which a running unit of the mode is adopted satisfies `Q`. -/
def AdoptsInto (I Q : ModeMachine W → Prop) (mode : Mode) : Prop :=
  ∀ m selectedMap sessionId ok reason, I m → SeenActive (unitOf mode) m →
    (sessionId ≠ "" ↔ mode = .mapping) → Q (m.set { m.runtime with
      mode
      lifecycle := .stable
      activeAutonomyMap := selectedMap
      detail := ""
      runtimeEpoch := max m.runtime.runtimeEpoch 1
      mappingSessionId := sessionId
      ready := ok
      readinessReason := reason })

theorem adopt_spec (h : Stable env I) {mode : Mode}
    (hAdopt : AdoptsInto I Q mode) :
    Triple (fun m => I m ∧ SeenActive (unitOf mode) m) (adopt env mode) (Returns Q)
      (Caught config I) := by
  have hSeen := stable_seenActive h (unitOf mode)
  refine triple_state fun current => ?_
  have hMap : Triple (fun m => I m ∧ SeenActive (unitOf mode) m)
      (adoptedMap env mode current.activeAutonomyMap)
      (fun _ m => I m ∧ SeenActive (unitOf mode) m) (Caught config I) := by
    have hDisk : ∀ {α : Type} {query : Query (Except DiskError α)}, query.harmless = true →
        Triple (fun m => I m ∧ SeenActive (unitOf mode) m) (disk env query)
          (fun _ m => I m ∧ SeenActive (unitOf mode) m) (Caught config I) := fun hHarmless =>
      triple_conseq (disk_keeps fun m => hSeen.ask _ _ m hHarmless) (fun _ hm => hm)
        (fun _ _ hm => hm) fun e m hm => ⟨hm.1.1, Or.inr hm.2⟩
    unfold adoptedMap
    split
    · exact triple_bind (hDisk rfl) fun stored => triple_bind (hDisk rfl) fun _ =>
        triple_pure fun _ hm => hm
    · exact triple_pure fun _ hm => hm
  refine triple_bind (triple_pre hMap fun m hm => hm.1) fun selectedMap => ?_
  refine triple_bind (triple_conseq (fullyReady_spec hSeen.ask mode) (fun _ hm => hm)
    (fun _ _ hm => hm.1) fun e m hm => Caught.raised ⟨hm.1.1, hm.2⟩) fun answer => ?_
  obtain ⟨ok, reason⟩ := answer
  refine triple_bind (sessionOf_spec (fun m => hSeen.ask _ .sessionId m rfl) mode _)
    fun sessionId => set_state_spec fun m hm => ?_
  exact ⟨hAdopt m selectedMap sessionId ok reason hm.1.1 hm.1.2 hm.2, rfl⟩

theorem wait_spec (h : Stable env I) {predicate : ModeProgram W Bool} {description : String}
    (hPredicate : ∀ time, Triple (NotBefore env I time) predicate
      (fun _ => NotBefore env I time) (fun e m => I m ∧ Raises config e)) :
    Triple I (wait env config predicate description) (fun _ => I)
      (fun e m => I m ∧ Raises config e) := by
  refine triple_post (@poll_spec W env config I _ _ _ (fun _ => True)
    (fun m => h.ask _ _ m rfl) (fun m => h.ask _ _ m rfl) (fun time => ?_)
    fun publish hSome => by cases hSome) fun _ m hm => hm.1
  exact triple_bind (hPredicate time) fun ok => triple_pure fun m hm => ⟨hm, fun _ => trivial⟩

theorem adoptWhenReady_spec (h : Stable env I) {mode : Mode}
    (hAdopt : AdoptsInto I Q mode)
    (hFault : ∀ m detail reason, I m → Q (m.set (m.runtime.faulted detail reason))) :
    Triple (fun m => I m ∧ SeenActive (unitOf mode) m) (adoptWhenReady env config mode)
      (Returns Q) (Caught config I) := by
  have hSeen := stable_seenActive h (unitOf mode)
  have hRaised : ∀ e m, (I m ∧ SeenActive (unitOf mode) m) ∧ Raises config e →
      Caught config I e m := fun e m hm => Caught.raised ⟨hm.1.1, hm.2⟩
  have hReady : ∀ {J : ModeMachine W → Prop}, Stable env J →
      Triple J (ready env mode) (fun _ => J) (fun e m => J m ∧ Raises config e) := fun hJ =>
    triple_post (ready_spec hJ.ask mode) fun _ _ hm => hm.1
  have hAdopted := @adopt_spec W env config I Q h mode hAdopt
  refine triple_bind (triple_conseq (hReady hSeen) (fun _ hm => hm) (fun _ _ hm => hm) hRaised)
    fun now => ?_
  cases now with
  | true => exact hAdopted
  | false =>
    have hPartial : Triple (fun m => I m ∧ SeenActive (unitOf mode) m)
        (Program.catching
          (do wait env config (ready env mode) (mode.name ++ " graph discovery"); pure none)
          ModeError.runtimeError? fun _ => do
            let reason ← structuralReason env mode
            pure (some (mode.name ++ " unit is active but graph is partial: " ++ reason)))
        (fun _ m => I m ∧ SeenActive (unitOf mode) m) (Caught config I) := by
      have hGrace : Triple (fun m => I m ∧ SeenActive (unitOf mode) m)
          (wait env config (ready env mode) (mode.name ++ " graph discovery"))
          (fun _ m => I m ∧ SeenActive (unitOf mode) m)
          (fun e m => (I m ∧ SeenActive (unitOf mode) m) ∧ Raises config e) :=
        wait_spec hSeen fun time => triple_conseq (hReady (stable_notBefore hSeen time))
          (fun _ hm => hm) (fun _ _ hm => hm) fun e m hm => ⟨hm.1.1, hm.2⟩
      refine triple_catching (triple_bind hGrace fun _ => triple_pure fun _ hm => hm)
        (fun e text _ => ?_) fun e m _ hm => hRaised e m hm
      exact triple_bind (triple_conseq (structuralReason_spec hSeen.ask mode) (fun _ hm => hm.1)
        (fun _ _ hm => hm.1) hRaised) fun reason => triple_pure fun _ hm => hm
    refine triple_bind hPartial fun outcome => ?_
    cases outcome with
    | none => exact hAdopted
    | some detail =>
      exact triple_pre (fail_spec h detail (fun m text hI => ⟨hFault m text detail hI, rfl⟩)
        fun m hI hShort => ⟨hI, Or.inl (Or.inr ⟨rfl, hShort⟩)⟩) fun m hm => hm.1

/-- What `reconcile` publishes: the idle state, an adopted unit, or a fault. -/
theorem reconcile_spec (h : Stable env I) (hIdle : ∀ m, I m → Q (m.set m.runtime.idled))
    (hAdopt : ∀ mode, mode ≠ .idle → AdoptsInto I Q mode)
    (hFault : ∀ m detail reason, I m → Q (m.set (m.runtime.faulted detail reason))) :
    Triple I (reconcile env config) (Returns Q) (Escapes config I) := by
  have hFail : ∀ detail, Triple I (fail env config detail) (Returns Q) (Caught config I) :=
    fun detail => fail_spec h detail (fun m text hI => ⟨hFault m text detail hI, rfl⟩)
      fun m hI hShort => ⟨hI, Or.inl (Or.inr ⟨rfl, hShort⟩)⟩
  have hState : ∀ {J : ModeMachine W → Prop} unit, Stable env J → (∀ m, J m → I m) →
      Triple J (systemd env (.state unit false))
        (fun unitState m => J m ∧ (unitState.active = true → SeenActive unit m))
        (Caught config I) := by
    intro J unit hJ hWeak
    refine triple_conseq (systemd_spec fun m => hJ.ask _ _ m rfl) (fun _ hm => hm) ?_
      fun e m hm => Caught.raised ⟨hWeak m hm.1, hm.2⟩
    rintro unitState m ⟨hm, m₀, -, hAnswer, rfl⟩
    exact ⟨hm, seenActive_of_active hAnswer⟩
  refine orFail_spec h ?_ hFault
  refine triple_bind (hState .mapping h fun _ hm => hm) fun mapping => ?_
  have hMapping : Stable env fun m => I m ∧ (mapping.active = true → SeenActive .mapping m) :=
    ⟨fun α query m hHarmless hm =>
      ⟨h.ask _ query m hHarmless hm.1, fun hActive => seenActive_asked query (hm.2 hActive)⟩,
      fun m detail hm => ⟨h.progress m detail hm.1, hm.2⟩⟩
  refine triple_bind (hState .autonomy hMapping fun _ hm => hm.1) fun autonomy => ?_
  dsimp only
  split
  · exact triple_pre (hFail _) fun m hm => hm.1.1
  · split
    · have hGone : Triple I (resourcesGone env) (fun _ => I) (Caught config I) :=
        triple_bind (ask_keeps fun m => h.ask _ _ m rfl) fun counts => triple_pure fun _ hI => hI
      refine triple_bind (triple_pre hGone fun m hm => hm.1.1) fun gone => ?_
      split
      · exact hFail _
      · exact set_state_spec fun m hI => ⟨hIdle m hI, rfl⟩
    · rename_i unit rest hActive
      have hMem : unit ∈ unit :: rest := List.mem_cons_self
      rw [← hActive] at hMem
      simp only [List.mem_map, List.mem_filter, List.mem_cons, List.not_mem_nil, or_false] at hMem
      obtain ⟨⟨other, unitState⟩, ⟨hEq, hSeen⟩, rfl⟩ := hMem
      have hMode : unitOf (if other = ModeUnit.mapping then Mode.mapping else .autonomy) =
        other := by
        cases other <;> rfl
      refine triple_pre (adoptWhenReady_spec h (hAdopt _ ?_) hFault) fun m hm => ⟨hm.1.1, ?_⟩
      · split <;> exact fun hNe => by cases hNe
      · rw [hMode]
        rcases hEq with hEq | hEq <;> cases hEq
        · exact hm.1.2 hSeen
        · exact hm.2 hSeen

/-! ## refresh -/

/-- Readiness is published as such in a stable state only. -/
theorem refresh_spec (h : Stable env I)
    (hUnready : ∀ m, I m → I (m.set { m.runtime with ready := false }))
    (hReady : ∀ m ok reason, I m → m.runtime.lifecycle = .stable →
      I (m.set { m.runtime with ready := ok, readinessReason := reason })) :
    Triple I (refresh env) (Returns I) (fun e m => I m ∧ Raises config e) := by
  have hSetIf : ∀ {J : ModeMachine W → Prop} {condition : Bool}
      {change : RuntimeState → RuntimeState},
      (∀ m, J m → I m) → (∀ m, J m → I (m.set (change m.runtime))) →
      Triple J (do setIf condition change; state : ModeProgram W RuntimeState) (Returns I)
        (fun e m => I m ∧ Raises config e) := by
    intro J condition change hWeak hChange
    have hSet : Triple J (setIf condition change) (fun _ => I)
        (fun e m => I m ∧ Raises config e) := by
      unfold setIf
      split
      · exact set_spec hChange
      · exact triple_pure hWeak
    exact triple_bind hSet fun _ => state_spec
  refine triple_state fun current => ?_
  split
  · exact hSetIf (fun m hm => hm.1) fun m hm => hUnready m hm.1
  · rename_i hStable
    simp only [ne_eq, not_not] at hStable
    split
    · exact hSetIf (fun m hm => hm.1) fun m hm => hReady m true "" hm.1 (by rw [hm.2, hStable])
    · have hKeeps : Survives env fun m => I m ∧ m.runtime = current :=
        fun _ query m hHarmless hm => ⟨h.ask _ query m hHarmless hm.1, hm.2⟩
      refine triple_bind (triple_conseq (fullyReady_spec hKeeps current.mode) (fun _ hm => hm)
        (fun _ _ hm => hm.1) fun e m hm => ⟨hm.1.1, hm.2⟩) fun answer => ?_
      obtain ⟨ok, reason⟩ := answer
      exact hSetIf (fun m hm => hm.1) fun m hm => hReady m ok reason hm.1 (by rw [hm.2, hStable])

end ModeRuntime

end PreRunner.Paddock
