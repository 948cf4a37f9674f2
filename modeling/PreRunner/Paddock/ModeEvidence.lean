import Mathlib.Tactic.Linarith
import Mathlib.Tactic.Ring
import PreRunner.Runs.History
import PreRunner.Paddock.ModeRuntime

/-!
# What a teardown has shown

An `Observer` reads the trace of the controller: the call in progress, the latest published
state, and the evidence collected since both units were told to stop. The specifications of the
waits and of `_stop_all` are proved once, for every predicate on the machine that survives the
calls they make (`Stable`); their exceptions are `RuntimeError`s, and a wait ends within its
iterations because every one of them takes at least a poll period.
-/

namespace PreRunner.Paddock

open Runs

/-! ## The observer -/

/-- What the trace says. -/
structure Observer where
  call : Option RuntimeCall := none
  state : RuntimeState := { ready := true, readinessReason := "" }
  /-- Units told to stop in this call, and observed cleanly inactive after both were. -/
  stopped : List ModeUnit := []
  clean : List ModeUnit := []
  /-- The graph was observed empty of mode nodes after both units were clean. -/
  graphClear : Bool := false
  /-- Units observed active in this call. -/
  running : List ModeUnit := []
  /-- Units started by the controller and not observed cleanly inactive since. -/
  launched : List ModeUnit := []
  deriving DecidableEq

namespace Observer

/-- Both units are in the list. -/
def both (units : List ModeUnit) : Bool := ModeUnit.all.all (· ∈ units)

/-- A teardown is complete. -/
def cleared (o : Observer) : Bool := both o.stopped && both o.clean && o.graphClear

/-- Read one event. -/
def read (o : Observer) : ModeEvent → Observer
  | .called call =>
    { o with call := some call, stopped := [], clean := [], graphClear := false, running := [] }
  | .stopped unit (.ok _) =>
    { o with stopped := unit :: o.stopped, clean := [], graphClear := false }
  | .stopped _ (.error _) => o
  | .observed unit (.ok unitState) =>
    { o with
      clean := if !unitState.cleanlyInactive then o.clean.filter (· ≠ unit)
        else if both o.stopped then unit :: o.clean else o.clean
      graphClear := unitState.cleanlyInactive && o.graphClear
      running := if unitState.active then unit :: o.running else o.running
      launched := if unitState.cleanlyInactive then o.launched.filter (· ≠ unit)
        else o.launched }
  | .observed _ (.error _) => o
  | .graph counts =>
    { o with graphClear := both o.clean && ModeRuntime.nodesGone counts }
  | .started unit =>
    { o with stopped := [], clean := [], graphClear := false, launched := unit :: o.launched }
  | .published state => { o with state }

/-- The observer after a trace. -/
def after (trace : List ModeEvent) : Observer := Runs.after read {} trace

@[simp] theorem after_cons (event : ModeEvent) (trace : List ModeEvent) :
    after (event :: trace) = (after trace).read event := rfl

end Observer

/-- The observer of a machine. -/
def ModeMachine.observer {W : Type} (m : ModeMachine W) : Observer := Observer.after m.trace

/-! ## Predicates that survive calls -/

/-- The configured fuel covers a whole wait. -/
def RuntimeConfig.Enough (config : RuntimeConfig) : Prop :=
  0 < config.pollPeriod ∧ 0 < config.fuel ∧
    config.transitionTimeout ≤ (config.fuel - 1 : ℕ) * config.pollPeriod

/-- The exceptions of the internal methods. -/
def Raises (config : RuntimeConfig) (error : ModeError) : Prop :=
  (∃ text, error = .runtimeError text) ∨ (error = .diverged ∧ ¬ config.Enough)

/-- The calls that do not start a unit. -/
def Query.harmless : {α : Type} → Query α → Bool
  | _, .start _ => false
  | _, _ => true

variable {W : Type} {env : Environment W} {config : RuntimeConfig}

/-- A predicate that survives every call but a start. -/
def Survives (env : Environment W) (I : ModeMachine W → Prop) : Prop :=
  ∀ (α : Type) (query : Query α) m, query.harmless = true → I m → I (m.asked env query)

/-- A predicate that survives every call but a start, and every publication of progress. -/
structure Stable (env : Environment W) (I : ModeMachine W → Prop) : Prop where
  ask : Survives env I
  progress : ∀ m detail, I m → I (m.set { m.runtime with detail, readinessReason := detail })

namespace ModeRuntime

variable {I : ModeMachine W → Prop}

theorem ask_spec {α : Type} {query : Query α} {E : ModeError → ModeMachine W → Prop}
    (h : ∀ m, I m → I (m.asked env query)) :
    Triple I (ask env query) (fun a m => I m ∧ ∃ m₀ : ModeMachine W, I m₀ ∧
      a = (env.answer query m₀.world).1 ∧ m = m₀.asked env query) E := by
  intro m hI
  refine ⟨?_, ?_⟩
  · rintro a m' hRun
    cases hRun
    exact ⟨h m hI, m, hI, rfl, rfl⟩
  · rintro e m' hRun
    cases hRun

theorem ask_keeps {α : Type} {query : Query α} {E : ModeError → ModeMachine W → Prop}
    (h : ∀ m, I m → I (m.asked env query)) : Triple I (ask env query) (fun _ => I) E :=
  triple_post (ask_spec h) fun _ _ hPost => hPost.1

theorem systemd_spec {α : Type} {query : Query (Except String α)}
    (h : ∀ m, I m → I (m.asked env query)) :
    Triple I (systemd env query) (fun a m => I m ∧ ∃ m₀ : ModeMachine W, I m₀ ∧
      (env.answer query m₀.world).1 = .ok a ∧ m = m₀.asked env query)
      (fun e m => I m ∧ Raises config e) := by
  refine triple_bind (ask_spec h) fun answer => ?_
  cases answer with
  | ok value =>
    exact triple_pure fun m ⟨hI, m₀, h₀, hAnswer, hNext⟩ => ⟨hI, m₀, h₀, hAnswer.symm, hNext⟩
  | error text => exact triple_raise fun m ⟨hI, _⟩ => ⟨hI, Or.inl ⟨text, rfl⟩⟩

/-! ## Waits -/

/-- The invariant with a lower bound on the clock. -/
def NotBefore (env : Environment W) (I : ModeMachine W → Prop) (time : ℚ) (m : ModeMachine W) :
    Prop := I m ∧ time ≤ env.clock m.world

theorem notBefore_asked {α : Type} {query : Query α} {time : ℚ}
    (h : ∀ m, I m → I (m.asked env query)) {m : ModeMachine W} (hI : NotBefore env I time m) :
    NotBefore env I time (m.asked env query) :=
  ⟨h m hI.1, hI.2.trans (env.clock_le query m.world)⟩

theorem notice_spec {progress : Option (String → ModeProgram W Unit)} {reason last : String}
    {time : ℚ}
    (hProgress : ∀ publish, progress = some publish → ∀ reason,
      Triple (NotBefore env I time) (publish reason) (fun _ => NotBefore env I time)
        (fun e m => I m ∧ Raises config e)) :
    Triple (NotBefore env I time) (notice progress reason last) (fun _ => NotBefore env I time)
      (fun e m => I m ∧ Raises config e) := by
  unfold notice
  split
  · rename_i publish
    split
    · exact triple_bind (hProgress publish rfl reason) fun _ => triple_pure fun _ h => h
    · exact triple_pure fun _ h => h
  · exact triple_pure fun _ h => h

variable {check : ModeProgram W (Bool × String)}
  {progress : Option (String → ModeProgram W Unit)} {describe : String → String}
  {Q : ModeMachine W → Prop}

/-- The loop ends: while iterations are left, so is a poll period for each before the
deadline. -/
theorem pollLoop_spec
    (hTime : ∀ m, I m → I (m.asked env .monotonic))
    (hSleep : ∀ m, I m → I (m.asked env (.sleep config.pollPeriod)))
    (hCheck : ∀ time, Triple (NotBefore env I time) check
      (fun a m => NotBefore env I time m ∧ (a.1 = true → Q m)) (fun e m => I m ∧ Raises config e))
    (hProgress : ∀ publish, progress = some publish → ∀ time reason,
      Triple (NotBefore env I time) (publish reason) (fun _ => NotBefore env I time)
        (fun e m => I m ∧ Raises config e)) (deadline : ℚ) (fuel : ℕ) :
    ∀ (time : ℚ) (last : String),
      (config.Enough → 0 < fuel ∧ deadline ≤ time + (fuel - 1 : ℕ) * config.pollPeriod) →
      Triple (NotBefore env I time) (pollLoop env config check progress describe deadline fuel last)
        (fun _ m => I m ∧ Q m) (fun e m => I m ∧ Raises config e) := by
  induction fuel with
  | zero =>
    intro time last hFuel
    exact triple_raise fun m h => ⟨h.1, Or.inr ⟨rfl, fun hEnough => absurd (hFuel hEnough).1
      (Nat.lt_irrefl 0)⟩⟩
  | succ fuel ih =>
    intro time last hFuel
    unfold pollLoop
    have hNow : Triple (NotBefore env I time) (ask env .monotonic)
        (fun now m => NotBefore env I time m ∧ time ≤ now)
        (fun e m => I m ∧ Raises config e) := by
      refine triple_post (ask_spec fun _ => notBefore_asked hTime) ?_
      rintro now m ⟨hI, m₀, h₀, rfl, -⟩
      exact ⟨hI, h₀.2.trans (env.monotonic_ge m₀.world)⟩
    refine triple_bind hNow fun now => triple_assume fun hLe => ?_
    split
    · rename_i hBefore
      refine triple_bind (hCheck time) fun answer => ?_
      obtain ⟨ok, reason⟩ := answer
      cases ok with
      | true => exact triple_pure fun m h => ⟨h.1.1, h.2 rfl⟩
      | false =>
        refine triple_bind (triple_pre (notice_spec fun publish h => hProgress publish h time)
          fun m h => h.1) fun last => ?_
        have hSlept : Triple (NotBefore env I time) (ask env (.sleep config.pollPeriod))
            (fun _ => NotBefore env I (time + config.pollPeriod))
            (fun e m => I m ∧ Raises config e) := by
          refine triple_post (ask_spec fun m => notBefore_asked hSleep) ?_
          rintro _ m ⟨hI, m₀, h₀, -, rfl⟩
          exact ⟨hI.1, (add_le_add_left h₀.2 _).trans (env.sleep_ge _ _)⟩
        refine triple_bind hSlept fun _ => ih _ last fun hEnough => ?_
        -- The deadline is still ahead of the clock, so an iteration must be left.
        obtain ⟨-, hDeadline⟩ := hFuel hEnough
        cases fuel with
        | zero =>
          simp only [Nat.add_sub_cancel, Nat.cast_zero, zero_mul, add_zero] at hDeadline
          exact absurd hDeadline (not_le.mpr (hLe.trans_lt hBefore))
        | succ fuel =>
          refine ⟨fuel.succ_pos, hDeadline.trans_eq ?_⟩
          simp only [Nat.add_sub_cancel, Nat.cast_add, Nat.cast_one]
          ring
    · exact triple_raise fun m h => ⟨h.1, Or.inl ⟨_, rfl⟩⟩

/-- A wait keeps the invariant and ends with its check fulfilled or with a `RuntimeError`. -/
theorem poll_spec
    (hTime : ∀ m, I m → I (m.asked env .monotonic))
    (hSleep : ∀ m, I m → I (m.asked env (.sleep config.pollPeriod)))
    (hCheck : ∀ time, Triple (NotBefore env I time) check
      (fun a m => NotBefore env I time m ∧ (a.1 = true → Q m))
      (fun e m => I m ∧ Raises config e))
    (hProgress : ∀ publish, progress = some publish → ∀ time reason,
      Triple (NotBefore env I time) (publish reason) (fun _ => NotBefore env I time)
        (fun e m => I m ∧ Raises config e)) :
    Triple I (poll env config check progress describe) (fun _ m => I m ∧ Q m)
      (fun e m => I m ∧ Raises config e) := by
  have hStart : Triple I (ask env .monotonic) (fun now => NotBefore env I now)
      (fun e m => I m ∧ Raises config e) := by
    refine triple_post (ask_spec hTime) ?_
    rintro now m ⟨hI, m₀, -, rfl, rfl⟩
    exact ⟨hI, env.monotonic_le m₀.world⟩
  refine triple_bind hStart fun now => ?_
  refine pollLoop_spec hTime hSleep hCheck hProgress _ config.fuel now "" fun hEnough => ?_
  obtain ⟨-, hFuel, hTimeout⟩ := hEnough
  exact ⟨hFuel, add_le_add_right hTimeout now⟩

/-! ## Methods without side effects on the units -/

theorem stable_notBefore (h : Stable env I) (time : ℚ) : Stable env (NotBefore env I time) where
  ask _ query _ hHarmless hI := notBefore_asked (fun m => h.ask _ query m hHarmless) hI
  progress m detail hI := ⟨h.progress m detail hI.1, hI.2⟩

/-- The unit was observed active in this call. -/
def SeenActive (unit : ModeUnit) (m : ModeMachine W) : Prop := unit ∈ m.observer.running

/-- Only the next call forgets what was observed active. -/
theorem seenActive_read {unit : ModeUnit} {o : Observer} {event : ModeEvent}
    (h : unit ∈ o.running) (hEvent : ∀ call, event ≠ .called call) :
    unit ∈ (o.read event).running := by
  cases event with
  | called call => exact absurd rfl (hEvent call)
  | observed other answer =>
    cases answer with
    | error text => exact h
    | ok unitState =>
      unfold Observer.read
      dsimp only
      split
      · exact List.mem_cons_of_mem _ h
      · exact h
  | stopped other answer =>
    cases answer with
    | ok _ => exact h
    | error text => exact h
  | started other => exact h
  | graph counts => exact h
  | published next => exact h

theorem seenActive_asked {α : Type} {unit : ModeUnit} (query : Query α) {m : ModeMachine W}
    (h : SeenActive unit m) : SeenActive unit (m.asked env query) := by
  cases query with
  | state other details =>
    exact @seenActive_read unit m.observer (.observed other _) h fun _ => ModeEvent.noConfusion
  | stop other =>
    exact @seenActive_read unit m.observer (.stopped other _) h fun _ => ModeEvent.noConfusion
  | _ => exact h

theorem seenActive_of_active {unit : ModeUnit} {details : Bool} {m : ModeMachine W}
    {unitState : UnitState} (hAnswer : (env.answer (.state unit details) m.world).1 = .ok unitState)
    (hActive : unitState.active = true) :
    SeenActive unit (m.asked env (.state unit details)) := by
  have hRead : (m.asked env (.state unit details)).observer =
      m.observer.read (.observed unit (env.answer (.state unit details) m.world).1) := rfl
  unfold SeenActive
  rw [hRead, hAnswer]
  unfold Observer.read
  dsimp only
  rw [if_pos hActive]
  exact List.mem_cons_self

/-- What was observed active stays so for the rest of the call. -/
theorem survives_seenActive (h : Survives env I) (unit : ModeUnit) :
    Survives env (fun m => I m ∧ SeenActive unit m) :=
  fun α query m hHarmless hI => ⟨h α query m hHarmless hI.1, seenActive_asked query hI.2⟩

theorem stable_seenActive (h : Stable env I) (unit : ModeUnit) :
    Stable env (fun m => I m ∧ SeenActive unit m) where
  ask := survives_seenActive h.ask unit
  progress m detail hI := ⟨h.progress m detail hI.1, hI.2⟩

theorem structuralReason_spec (h : Survives env I) (mode : Mode) :
    Triple I (structuralReason env mode)
      (fun reason m => I m ∧ (reason = "" → SeenActive (unitOf mode) m))
      (fun e m => I m ∧ Raises config e) := by
  refine triple_bind (systemd_spec fun m => h _ _ m rfl) fun unitState => ?_
  split
  · refine triple_pure fun m hm => ⟨hm.1, fun hEmpty => ?_⟩
    cases mode <;> exact absurd hEmpty (by decide)
  · rename_i hActive
    simp only [Bool.not_eq_true', Bool.not_eq_false] at hActive
    have hSeen := survives_seenActive h (unitOf mode)
    have hGraph : Triple (fun m => I m ∧ SeenActive (unitOf mode) m) (ask env .graphNodes)
        (fun _ m => I m ∧ SeenActive (unitOf mode) m) (fun e m => I m ∧ Raises config e) :=
      ask_keeps fun m => hSeen _ _ m rfl
    refine triple_bind (triple_pre hGraph ?_) fun counts => ?_
    · rintro m ⟨hI, m₀, -, hAnswer, rfl⟩
      exact ⟨hI, seenActive_of_active hAnswer hActive⟩
    · split
      · exact triple_pure fun _ hm => ⟨hm.1, fun _ => hm.2⟩
      · exact triple_bind (ask_keeps fun m => hSeen _ _ m rfl) fun owned =>
          triple_pure fun _ hm => ⟨hm.1, fun _ => hm.2⟩

theorem ready_spec (h : Survives env I) (mode : Mode) :
    Triple I (ready env mode) (fun ok m => I m ∧ (ok = true → SeenActive (unitOf mode) m))
      (fun e m => I m ∧ Raises config e) :=
  triple_bind (structuralReason_spec h mode) fun _ => triple_pure fun _ hm =>
    ⟨hm.1, fun hOk => hm.2 (of_decide_eq_true hOk)⟩

theorem fullyReady_spec (h : Survives env I) (mode : Mode) :
    Triple I (fullyReady env mode)
      (fun answer m => I m ∧ (answer.1 = true → SeenActive (unitOf mode) m))
      (fun e m => I m ∧ Raises config e) := by
  refine triple_bind (structuralReason_spec h mode) fun reason => ?_
  split
  · exact triple_pure fun _ hm => ⟨hm.1, fun hOk => by cases hOk⟩
  · rename_i hEmpty
    simp only [ne_eq, not_not] at hEmpty
    have hSeen := survives_seenActive h (unitOf mode)
    have hCapability : Triple (fun m => I m ∧ SeenActive (unitOf mode) m)
        (ask env (.capabilityReady mode)) (fun _ m => I m ∧ SeenActive (unitOf mode) m)
        (fun e m => I m ∧ Raises config e) := ask_keeps fun m => hSeen _ _ m rfl
    exact triple_bind (triple_pre hCapability fun m hm => ⟨hm.1, hm.2 hEmpty⟩) fun answer =>
      triple_pure fun _ hm => ⟨hm.1, fun _ => hm.2⟩

/-- Reading the runtime state. -/
theorem triple_state {β : Type} {f : RuntimeState → ModeProgram W β}
    {R : β → ModeMachine W → Prop} {E : ModeError → ModeMachine W → Prop}
    (h : ∀ current, Triple (fun m => I m ∧ m.runtime = current) (f current) R E) :
    Triple I (state >>= f) R E := fun m hI => h m.runtime m ⟨hI, rfl⟩

theorem state_spec {E : ModeError → ModeMachine W → Prop} :
    Triple I (state : ModeProgram W RuntimeState) (fun result m => I m ∧ result = m.runtime) E := by
  intro m hI
  refine ⟨?_, ?_⟩
  · rintro result m' hRun
    cases hRun
    exact ⟨hI, rfl⟩
  · rintro e m' hRun
    cases hRun

theorem set_spec {change : RuntimeState → RuntimeState} {E : ModeError → ModeMachine W → Prop}
    {J : ModeMachine W → Prop} (h : ∀ m, I m → J (m.set (change m.runtime))) :
    Triple I (set change : ModeProgram W Unit) (fun _ => J) E :=
  triple_modify h

/-- Publish a change and return the new state. -/
theorem set_state_spec {change : RuntimeState → RuntimeState}
    {Q : RuntimeState → ModeMachine W → Prop} {E : ModeError → ModeMachine W → Prop}
    (h : ∀ m, I m → Q (change m.runtime) (m.set (change m.runtime))) :
    Triple I (do set change; state : ModeProgram W RuntimeState) Q E := by
  refine triple_bind (@set_spec W I change E (fun m => Q m.runtime m) h) fun _ =>
    triple_post state_spec ?_
  rintro result m ⟨hQ, rfl⟩
  exact hQ

theorem transitionProgress_keeps
    (h : ∀ m detail, I m → I (m.set { m.runtime with detail, readinessReason := detail }))
    (detail : String) {E : ModeError → ModeMachine W → Prop} :
    Triple I (transitionProgress detail : ModeProgram W Unit) (fun _ => I) E := by
  refine triple_state fun current => ?_
  split
  · exact set_spec fun m hI => h m detail hI.1
  · exact triple_pure fun m hI => hI.1

theorem transitionProgress_spec (h : Stable env I) (detail : String)
    {E : ModeError → ModeMachine W → Prop} :
    Triple I (transitionProgress detail : ModeProgram W Unit) (fun _ => I) E :=
  transitionProgress_keeps h.progress detail

/-! ## The teardown -/

/-- Both units were told to stop. -/
def ToldToStop (m : ModeMachine W) : Prop := Observer.both m.observer.stopped = true

/-- The unit was observed cleanly inactive, if both were told to stop. -/
def SeenClean (unit : ModeUnit) (m : ModeMachine W) : Prop :=
  ToldToStop m → unit ∈ m.observer.clean

/-- The teardown is complete. -/
def Cleared (m : ModeMachine W) : Prop := m.observer.cleared = true

@[simp] theorem asked_runtime {α : Type} (query : Query α) (m : ModeMachine W) :
    (m.asked env query).runtime = m.runtime := rfl

/-- Calls without an entry in the trace show nothing. -/
theorem asked_observer {α : Type} {query : Query α} {m : ModeMachine W}
    (h : ∀ answer, query.event answer = none) : (m.asked env query).observer = m.observer := by
  unfold ModeMachine.observer ModeMachine.asked
  rw [h]
  rfl

theorem asked_state_observer (unit : ModeUnit) (details : Bool) (m : ModeMachine W) :
    (m.asked env (.state unit details)).observer =
      m.observer.read (.observed unit (env.answer (.state unit details) m.world).1) := rfl

theorem toldToStop_observed {unit : ModeUnit} {answer : Except String UnitState} {o : Observer} :
    (o.read (.observed unit answer)).stopped = o.stopped := by
  cases answer with
  | ok unitState => rfl
  | error text => rfl

/-- An observation of one unit keeps what was seen of the other. -/
theorem seenClean_other {unit other : ModeUnit} (hNe : unit ≠ other) (details : Bool)
    (m : ModeMachine W) (h : SeenClean other m) :
    SeenClean other (m.asked env (.state unit details)) := by
  intro hStop
  rw [asked_state_observer]
  have hOld := h (by
    unfold ToldToStop at hStop ⊢
    rw [asked_state_observer, toldToStop_observed] at hStop
    exact hStop)
  generalize (env.answer (.state unit details) m.world).1 = answer
  cases answer with
  | error text => exact hOld
  | ok unitState =>
    unfold Observer.read
    dsimp only
    split
    · exact List.mem_filter.mpr ⟨hOld, by simpa using hNe.symm⟩
    · split
      · exact List.mem_cons_of_mem _ hOld
      · exact hOld

theorem seenClean_of_clean {unit : ModeUnit} {details : Bool} {m : ModeMachine W}
    {unitState : UnitState} (hAnswer : (env.answer (.state unit details) m.world).1 = .ok unitState)
    (hClean : unitState.cleanlyInactive = true) :
    SeenClean unit (m.asked env (.state unit details)) := by
  intro hStop
  unfold ToldToStop at hStop
  rw [asked_state_observer, toldToStop_observed] at hStop
  rw [asked_state_observer, hAnswer]
  unfold Observer.read
  dsimp only
  rw [hClean, if_pos hStop]
  exact List.mem_cons_self

theorem unitBlocker_spec {unit : ModeUnit}
    (hAsk : ∀ details m, I m → I (m.asked env (.state unit details))) :
    Triple I (unitBlocker env unit)
      (fun blocker m => I m ∧ (blocker = none → SeenClean unit m))
      (fun e m => I m ∧ Raises config e) := by
  refine triple_bind (systemd_spec (hAsk false)) fun first => ?_
  split
  · rename_i hClean
    refine triple_pure fun m ⟨hI, m₀, _, hAnswer, hNext⟩ => ⟨hI, fun _ => ?_⟩
    rw [hNext]
    exact seenClean_of_clean hAnswer hClean
  · refine triple_bind (triple_pre (systemd_spec (hAsk true)) fun m h => h.1) fun second => ?_
    split
    · rename_i hClean
      refine triple_pure fun m ⟨hI, m₀, _, hAnswer, hNext⟩ => ⟨hI, fun _ => ?_⟩
      rw [hNext]
      exact seenClean_of_clean hAnswer hClean
    · exact triple_pure fun m h => ⟨h.1, fun hNone => by cases hNone⟩

/-- When the status names no blocker, both units were seen clean. -/
theorem unitCleanupStatus_spec
    (hAsk : ∀ unit details m, I m → I (m.asked env (.state unit details))) :
    Triple I (unitCleanupStatus env)
      (fun answer m => I m ∧ (answer.1 = true →
        SeenClean .mapping m ∧ SeenClean .autonomy m))
      (fun e m => I m ∧ Raises config e) := by
  refine triple_bind (unitBlocker_spec (hAsk .mapping)) fun mapping => ?_
  have hSecond := @unitBlocker_spec W env config
    (fun m => I m ∧ (mapping = none → SeenClean .mapping m)) .autonomy
    (fun details m h => ⟨hAsk .autonomy details m h.1,
      fun hNone => seenClean_other (by decide) details m (h.2 hNone)⟩)
  refine triple_bind (triple_conseq hSecond (fun _ h => h) (fun _ _ h => h)
    fun e m h => ⟨h.1.1, h.2⟩) fun autonomy => ?_
  refine triple_pure fun m h => ⟨h.1.1, fun hEmpty => ?_⟩
  simp only [List.isEmpty_iff, List.append_eq_nil_iff, Option.toList_eq_nil_iff] at hEmpty
  exact ⟨h.1.2 hEmpty.1, h.2 hEmpty.2⟩

@[simp] theorem set_observer (m : ModeMachine W) (runtime : RuntimeState) :
    (m.set runtime).observer = { m.observer with state := runtime } := rfl

/-- The two ways in which the callers of `_stop_all` want to hear of its progress. -/
def Reports (progress : Option (String → ModeProgram W Unit)) : Prop :=
  progress = none ∨ progress = some transitionProgress

theorem waitForUnitCleanup_spec (h : Stable env I)
    {progress : Option (String → ModeProgram W Unit)} (hReports : Reports progress) :
    Triple (fun m => I m ∧ ToldToStop m) (waitForUnitCleanup env config progress)
      (fun _ m => (I m ∧ ToldToStop m) ∧ SeenClean .mapping m ∧ SeenClean .autonomy m)
      (fun e m => (I m ∧ ToldToStop m) ∧ Raises config e) := by
  have hQuiet : ∀ {α : Type} (query : Query α), query.harmless = true →
      (∀ answer, query.event answer = none) → ∀ m, (I m ∧ ToldToStop m) →
        (I (m.asked env query) ∧ ToldToStop (m.asked env query)) := by
    intro α query hHarmless hNone m hm
    refine ⟨h.ask _ query m hHarmless hm.1, ?_⟩
    unfold ToldToStop
    rw [asked_observer hNone]
    exact hm.2
  have hState : ∀ unit details m, (I m ∧ ToldToStop m) →
      (I (m.asked env (.state unit details)) ∧ ToldToStop (m.asked env (.state unit details))) := by
    intro unit details m hm
    refine ⟨h.ask _ _ m rfl hm.1, ?_⟩
    unfold ToldToStop
    rw [asked_state_observer, toldToStop_observed]
    exact hm.2
  refine poll_spec (hQuiet .monotonic rfl fun _ => rfl) (hQuiet (.sleep _) rfl fun _ => rfl)
    (fun time => ?_) (fun publish hSome time reason => ?_)
  · exact triple_conseq
      (unitCleanupStatus_spec fun unit details _ => notBefore_asked (hState unit details))
      (fun _ hm => hm) (fun _ _ hm => hm) fun _ _ hm => ⟨hm.1.1, hm.2⟩
  · rcases hReports with rfl | rfl
    · cases hSome
    · cases hSome
      exact transitionProgress_keeps (fun m detail hm =>
        ⟨⟨h.progress m detail hm.1.1, hm.1.2⟩, hm.2⟩) _

/-- Both units were told to stop and then seen cleanly inactive. -/
def UnitsClean (m : ModeMachine W) : Prop :=
  ToldToStop m ∧ Observer.both m.observer.clean = true

theorem unitsClean_of_seen {m : ModeMachine W} (hStop : ToldToStop m)
    (hMapping : SeenClean .mapping m) (hAutonomy : SeenClean .autonomy m) : UnitsClean m := by
  refine ⟨hStop, ?_⟩
  simp only [Observer.both, ModeUnit.all, List.all_cons, List.all_nil, Bool.and_true,
    Bool.and_eq_true, decide_eq_true_eq]
  exact ⟨hMapping hStop, hAutonomy hStop⟩

/-- An empty graph completes the teardown of clean units. -/
theorem waitForResources_spec (h : Stable env I) (description : String) :
    Triple (fun m => I m ∧ UnitsClean m) (wait env config (resourcesGone env) description)
      (fun _ m => (I m ∧ UnitsClean m) ∧ Cleared m)
      (fun e m => (I m ∧ UnitsClean m) ∧ Raises config e) := by
  have hQuiet : ∀ {α : Type} (query : Query α), query.harmless = true →
      (∀ answer, query.event answer = none) → ∀ m, (I m ∧ UnitsClean m) →
        (I (m.asked env query) ∧ UnitsClean (m.asked env query)) := by
    intro α query hHarmless hNone m hm
    refine ⟨h.ask _ query m hHarmless hm.1, ?_⟩
    unfold UnitsClean ToldToStop
    rw [asked_observer hNone]
    exact hm.2
  refine poll_spec (hQuiet .monotonic rfl fun _ => rfl) (hQuiet (.sleep _) rfl fun _ => rfl)
    (fun time => ?_) (fun publish hSome => by cases hSome)
  have hGraph : Triple (NotBefore env (fun m => I m ∧ UnitsClean m) time) (resourcesGone env)
      (fun ok m => NotBefore env (fun m => I m ∧ UnitsClean m) time m ∧ (ok = true → Cleared m))
      (fun e m => (I m ∧ UnitsClean m) ∧ Raises config e) := by
    refine triple_bind (ask_spec fun _ => notBefore_asked fun m hm =>
      ⟨h.ask _ .graphNodes m rfl hm.1, hm.2⟩) fun counts => triple_pure ?_
    rintro m ⟨hm, m₀, h₀, rfl, rfl⟩
    refine ⟨hm, fun hGone => ?_⟩
    obtain ⟨hStop, hClean⟩ := h₀.1.2
    change (Observer.both m₀.observer.stopped && Observer.both m₀.observer.clean &&
      (Observer.both m₀.observer.clean && nodesGone _)) = true
    rw [hStop, hClean, hGone]
    rfl
  exact triple_bind hGraph fun ok => triple_pure fun m hm => hm

theorem stopUnit_spec {unit : ModeUnit} (hAsk : ∀ m, I m → I (m.asked env (.stop unit))) :
    Triple I (stopUnit env unit)
      (fun errors m => I m ∧ (errors = [] → ∃ m₀ : ModeMachine W, I m₀ ∧
        (env.answer (.stop unit) m₀.world).1 = .ok () ∧ m = m₀.asked env (.stop unit)))
      (fun e m => I m ∧ Raises config e) := by
  refine triple_catching (triple_bind (systemd_spec hAsk) fun _ => triple_pure
    fun m hm => ⟨hm.1, fun _ => hm.2⟩) (fun e text hHandles => ?_) fun e m _ hm => hm
  exact triple_pure fun m hm => ⟨hm.1, fun hNil => by cases hNil⟩

theorem asked_stop_observer {unit : ModeUnit} {m : ModeMachine W}
    (hAnswer : (env.answer (.stop unit) m.world).1 = .ok ()) :
    (m.asked env (.stop unit)).observer.stopped = unit :: m.observer.stopped := by
  have hRead : (m.asked env (.stop unit)).observer =
      m.observer.read (.stopped unit (env.answer (.stop unit) m.world).1) := rfl
  rw [hRead, hAnswer]
  rfl

theorem report_keeps {progress : Option (String → ModeProgram W Unit)}
    (hReports : Reports progress)
    (h : ∀ m detail, I m → I (m.set { m.runtime with detail, readinessReason := detail }))
    (detail : String) {E : ModeError → ModeMachine W → Prop} :
    Triple I (report progress detail) (fun _ => I) E := by
  rcases hReports with rfl | rfl
  · exact triple_pure fun _ hI => hI
  · exact transitionProgress_keeps h detail

/-- `_stop_all` ends with the teardown complete, or with a `RuntimeError`. -/
theorem stopAll_spec (h : Stable env I) {progress : Option (String → ModeProgram W Unit)}
    (hReports : Reports progress) :
    Triple I (stopAll env config progress) (fun _ m => I m ∧ Cleared m)
      (fun e m => I m ∧ Raises config e) := by
  have hStop : ∀ unit m, I m → I (m.asked env (.stop unit)) := fun unit m => h.ask _ _ m rfl
  refine triple_bind (report_keeps hReports h.progress _) fun _ => ?_
  refine triple_bind (stopUnit_spec (hStop .mapping)) fun mapping => ?_
  have hSecond := @stopUnit_spec W env config
    (fun m => I m ∧ (mapping = [] → .mapping ∈ m.observer.stopped)) .autonomy ?_
  · refine triple_bind (triple_conseq hSecond ?_ (fun _ _ hm => hm)
      fun e m hm => ⟨hm.1.1, hm.2⟩) fun autonomy => ?_
    · rintro m ⟨hI, hNil⟩
      refine ⟨hI, fun hMapping => ?_⟩
      obtain ⟨m₀, -, hAnswer, rfl⟩ := hNil hMapping
      rw [asked_stop_observer hAnswer]
      exact List.mem_cons_self
    · split
      · exact triple_raise fun m hm => ⟨hm.1.1, Or.inl ⟨_, rfl⟩⟩
      · rename_i hNone
        simp only [ne_eq, not_not, List.append_eq_nil_iff] at hNone
        have hTold : ∀ m, ((I m ∧ (mapping = [] → .mapping ∈ m.observer.stopped)) ∧
            (autonomy = [] → ∃ m₀ : ModeMachine W,
              (I m₀ ∧ (mapping = [] → .mapping ∈ m₀.observer.stopped)) ∧
                (env.answer (.stop .autonomy) m₀.world).1 = .ok () ∧
                  m = m₀.asked env (.stop .autonomy))) → I m ∧ ToldToStop m := by
          rintro m ⟨⟨hI, hMapping⟩, hAutonomy⟩
          obtain ⟨m₀, -, hAnswer, rfl⟩ := hAutonomy hNone.2
          refine ⟨hI, ?_⟩
          have hBoth : ModeUnit.autonomy ∈ (m₀.asked env (.stop .autonomy)).observer.stopped := by
            rw [asked_stop_observer hAnswer]
            exact List.mem_cons_self
          simp only [ToldToStop, Observer.both, ModeUnit.all, List.all_cons, List.all_nil,
            Bool.and_true, Bool.and_eq_true, decide_eq_true_eq]
          exact ⟨hMapping hNone.1, hBoth⟩
        refine triple_bind (triple_conseq (waitForUnitCleanup_spec h hReports) hTold
          (fun _ m hm => (⟨hm.1.1, unitsClean_of_seen hm.1.2 hm.2.1 hm.2.2⟩ :
            I m ∧ UnitsClean m)) fun e m hm => ⟨hm.1.1, hm.2⟩) fun _ => ?_
        refine triple_bind (report_keeps hReports
          (fun m detail hm => ⟨h.progress m detail hm.1, hm.2⟩) _) fun _ => ?_
        exact triple_conseq (waitForResources_spec h _) (fun _ hm => hm)
          (fun _ m hm => ⟨hm.1.1, hm.2⟩) fun e m hm => ⟨hm.1.1, hm.2⟩
  · rintro m ⟨hI, hMapping⟩
    refine ⟨hStop .autonomy m hI, fun hNil => ?_⟩
    have hRead : (m.asked env (.stop .autonomy)).observer =
        m.observer.read (.stopped .autonomy (env.answer (.stop .autonomy) m.world).1) := rfl
    rw [hRead]
    cases (env.answer (.stop .autonomy) m.world).1 with
    | ok _ => exact List.mem_cons_of_mem _ (hMapping hNil)
    | error text => exact hMapping hNil

theorem waitForReadiness_spec (h : Stable env I) (mode : Mode) :
    Triple I (waitForReadiness env config mode)
      (fun _ m => I m ∧ SeenActive (unitOf mode) m)
      (fun e m => I m ∧ Raises config e) := by
  refine poll_spec (fun m => h.ask _ _ m rfl) (fun m => h.ask _ _ m rfl) (fun time => ?_)
    fun publish hSome time reason => ?_
  · exact triple_conseq (fullyReady_spec (stable_notBefore h time).ask mode) (fun _ hm => hm)
      (fun _ m hm => hm) fun e m hm => ⟨hm.1.1, hm.2⟩
  · cases hSome
    exact transitionProgress_spec (stable_notBefore h time) _

/-- `_fail` returns a fault state. -/
theorem fail_spec (h : Stable env I) (detail : String) {Q : RuntimeState → ModeMachine W → Prop}
    {E : ModeError → ModeMachine W → Prop}
    (hSet : ∀ m text, I m → Q (m.runtime.faulted text detail)
      (m.set (m.runtime.faulted text detail)))
    (hDiverged : ∀ m, I m → ¬ config.Enough → E .diverged m) :
    Triple I (fail env config detail) Q E := by
  have hCleanup : Triple I
      (Program.catching (do stopAll env config none; pure "") ModeError.runtimeError?
        fun text => pure ("; cleanup failed: " ++ text)) (fun _ => I) E := by
    refine triple_catching (triple_bind (stopAll_spec h (Or.inl rfl)) fun _ =>
      triple_pure fun m hm => hm.1) (fun e text _ => triple_pure fun m hm => hm.1) ?_
    rintro e m hNone ⟨hI, ⟨text, rfl⟩ | ⟨rfl, hShort⟩⟩
    · cases hNone
    · exact hDiverged m hI hShort
  exact triple_bind hCleanup fun cleanup => set_state_spec fun m hI => hSet m _ hI

end ModeRuntime

end PreRunner.Paddock
