import PreRunner.Runs.History
import PreRunner.Paddock.GatewayDelivery

/-!
# Browser sessions and the control lease

The web application runs every browser action on a worker thread of its own, which waits for the
gateway lock. When a websocket ends, the task that awaits the worker is cancelled; a worker that
has started is not, and the disconnect that is submitted after it may get the lock first. This
module follows `websocket_state` of `runner_paddock/web_app.py` with `submit` and `disconnect` of
`RosStateNode`, and says exactly when a dead connection is left with the lease.
-/

namespace PreRunner.Paddock

open Runs

/-- A worker thread that waits for the gateway lock. -/
inductive GatewayJob where
  | submit (conn : String) (action : PyValue)
  | disconnect (conn : String)

namespace GatewayJob

/-- Whether this is an action of a connection. -/
def isSubmitOf (conn : String) : GatewayJob → Bool
  | submit other _ => other = conn
  | disconnect _ => false

end GatewayJob

/-- The gateway and the browser connections, each known by a fresh id. -/
structure WebSessions where
  gateway : OperatorGateway
  known : List String := []
  /-- The connections whose websocket has ended. -/
  closed : List String := []
  /-- The connections that await the answer to an action. -/
  awaiting : List String := []
  waiting : List GatewayJob := []
  /-- The connections whose disconnect has been processed. -/
  disconnected : List String := []

/-- What happens next. -/
inductive SessionInput where
  | connect (conn : String)
  | receive (conn : String) (action : PyValue)
  /-- The websocket ends; a worker that has not started is cancelled. -/
  | close (conn : String) (started : Bool)
  /-- A waiting worker gets the gateway lock. -/
  | work (worker : ℕ)

namespace WebSessions

variable (t : PyText)

def isOpen (s : WebSessions) (conn : String) : Bool := conn ∈ s.known && conn ∉ s.closed

/-- What a worker does under the gateway lock; an action that raises changes nothing. -/
def run (s : WebSessions) : GatewayJob → WebSessions
  | .submit conn action =>
    let s := { s with awaiting := s.awaiting.filter (· ≠ conn) }
    match OperatorGateway.handle t s.gateway conn action with
    | .ok (_, gateway) => { s with gateway }
    | .error _ => s
  | .disconnect conn =>
    { s with
      gateway := (s.gateway.onDisconnect conn).2
      disconnected := conn :: s.disconnected }

def step (s : WebSessions) : SessionInput → WebSessions
  | .connect conn => if conn ∈ s.known then s else { s with known := conn :: s.known }
  | .receive conn action =>
    -- `pump_actions` reads the next action when the last one was answered.
    if s.isOpen conn && conn ∉ s.awaiting then
      { s with
        awaiting := conn :: s.awaiting
        waiting := s.waiting ++ [.submit conn action] }
    else s
  | .close conn started =>
    if s.isOpen conn then
      { s with
        closed := conn :: s.closed
        waiting := (if started then s.waiting
          else s.waiting.filter fun job => !job.isSubmitOf conn) ++ [.disconnect conn] }
    else s
  | .work worker =>
    match s.waiting[worker]? with
    | none => s
    | some job => { s with waiting := s.waiting.eraseIdx worker }.run t job

end WebSessions

/-! ## The owner -/

namespace OperatorGateway

/-- Whether an action makes its connection the owner: `acquire` of a free lease, or `takeover`. -/
def takesLease (g : OperatorGateway) : PyValue → Bool
  | .dict action =>
    match PyDict.get? action "action" with
    | some (.str name) => (name = "acquire" && !g.leaseHeld) || name = "takeover"
    | _ => false
  | _ => false

/-- The outcome leaves the owner, or the lease is free after it. -/
def KeepsOwner (g : OperatorGateway) (outcome : Outcome) : Prop :=
  ∀ result next, outcome = .ok (result, next) →
    next.ownerConn = g.ownerConn ∨ next.ownerConn = none

section

variable {g : OperatorGateway} {conn : String}

theorem keepsOwner_answer (result : GatewayResult) : g.KeepsOwner (g.answer result) := by
  rintro _ _ ⟨⟩
  exact Or.inl rfl

theorem keepsOwner_accept {reason : String} {intents : List Intent} :
    g.KeepsOwner (g.accept reason intents) := by
  rintro _ _ ⟨⟩
  exact Or.inl rfl

theorem keepsOwner_acceptControl {g' : OperatorGateway} (hSame : g'.ownerConn = g.ownerConn)
    {reason : String} {event : ControlEvent}
    {fields : ControlEventIntent → ControlEventIntent} :
    g.KeepsOwner (g'.acceptControl reason event fields) := by
  rintro _ _ ⟨⟩
  exact Or.inl hSame

theorem keepsOwner_error (error : PyError) : g.KeepsOwner (.error error) := by
  rintro _ _ ⟨⟩

theorem keepsOwner_requireOwner {handler : Outcome} (h : g.KeepsOwner handler) :
    g.KeepsOwner (g.requireOwner conn handler) := by
  unfold requireOwner
  split
  · exact keepsOwner_answer _
  · exact h

theorem keepsOwner_catching {α : Type} {reason : String} {value : Except PyError α}
    {handler : α → Outcome} (h : ∀ value, g.KeepsOwner (handler value)) :
    g.KeepsOwner (g.catching conn reason value handler) := by
  unfold catching
  split
  · exact h _
  · exact keepsOwner_error _
  · exact keepsOwner_answer _

theorem keepsOwner_requireName {t : PyText} {action : PyDict} {missing : String}
    {handler : String → Outcome} (h : ∀ name, g.KeepsOwner (handler name)) :
    g.KeepsOwner (g.requireName t conn action missing handler) := by
  unfold requireName
  exact iteInduction (fun _ => keepsOwner_answer _) fun _ => h _

theorem keepsOwner_requireValues {action : PyDict} {reason : String}
    {handler : PyDict → Outcome} (h : ∀ values, g.KeepsOwner (handler values)) :
    g.KeepsOwner (g.requireValues conn action reason handler) := by
  unfold requireValues
  split
  · exact h _
  · exact keepsOwner_answer _

theorem keepsOwner_requirePose {t : PyText} {action : PyDict} {what : String}
    {handler : PyFloat → PyFloat → PyFloat → String → Outcome}
    (h : ∀ x y yaw frame, g.KeepsOwner (handler x y yaw frame)) :
    g.KeepsOwner (requirePose t g conn action what handler) := by
  unfold requirePose
  refine keepsOwner_catching fun ⟨x, y, yaw⟩ => ?_
  exact iteInduction (fun _ => keepsOwner_answer _) fun _ =>
    iteInduction (fun _ => keepsOwner_answer _) fun _ => h _ _ _ _

theorem onDisconnect_owner (g : OperatorGateway) (conn : String) :
    (g.onDisconnect conn).2.ownerConn ≠ some conn ∧
      ((g.onDisconnect conn).2.ownerConn = g.ownerConn ∨
        (g.onDisconnect conn).2.ownerConn = none) := by
  unfold onDisconnect
  split
  · rename_i hOwner
    exact ⟨hOwner, Or.inl rfl⟩
  · exact ⟨nofun, Or.inr rfl⟩

/-- Every handler but `acquire` and `takeover` leaves the owner or frees the lease. -/
theorem keepsOwner_handler (t : PyText) (action : PyDict) {name : String} {outcome : Outcome}
    (hAcquire : name ≠ "acquire") (hTakeover : name ≠ "takeover")
    (h : handler t g conn action name = some outcome) : g.KeepsOwner outcome := by
  unfold handler at h
  split at h <;> cases h
  · exact absurd rfl hAcquire
  · exact absurd rfl hTakeover
  · unfold doRelease
    refine iteInduction (fun _ => keepsOwner_answer _) fun _ => ?_
    rintro _ _ hOut
    have hNext := (onDisconnect_owner g conn).2
    rwa [Except.ok.inj hOut] at hNext
  · exact keepsOwner_requireOwner (keepsOwner_acceptControl rfl)
  · refine keepsOwner_requireOwner (iteInduction (fun _ => ?_) fun _ =>
      iteInduction (fun _ => keepsOwner_acceptControl rfl) fun _ =>
      iteInduction (fun _ => ?_) fun _ => keepsOwner_accept)
    · exact keepsOwner_acceptControl rfl
    · exact keepsOwner_acceptControl rfl
  · exact keepsOwner_requireOwner (keepsOwner_acceptControl rfl)
  · exact keepsOwner_requireOwner (keepsOwner_acceptControl rfl)
  · refine keepsOwner_requireOwner (iteInduction (fun _ =>
      iteInduction (fun _ => keepsOwner_accept) fun _ => keepsOwner_acceptControl rfl)
      fun _ => keepsOwner_catching fun ⟨speed, steering⟩ =>
        iteInduction (fun _ => keepsOwner_answer _) fun _ => keepsOwner_acceptControl rfl)
  · exact keepsOwner_requireOwner (keepsOwner_accept)
  · refine keepsOwner_requireOwner (iteInduction (fun _ => keepsOwner_answer _) fun _ => ?_)
    split
    · exact keepsOwner_accept
    · exact keepsOwner_answer _
  · exact keepsOwner_requireOwner (keepsOwner_requireValues fun _ => keepsOwner_accept)
  · exact keepsOwner_requireOwner (keepsOwner_requireValues fun _ => keepsOwner_accept)
  · exact keepsOwner_requireOwner (keepsOwner_requireName fun _ =>
      keepsOwner_requireValues fun _ => keepsOwner_accept)
  · exact keepsOwner_requireOwner (keepsOwner_requireName fun _ => keepsOwner_accept)
  · refine keepsOwner_requireOwner (iteInduction (fun _ => keepsOwner_answer _) fun _ =>
      keepsOwner_catching fun ⟨value, revision⟩ =>
        iteInduction (fun _ => keepsOwner_answer _) fun _ => keepsOwner_accept)
  · exact keepsOwner_requireOwner (keepsOwner_accept)
  · exact keepsOwner_requireOwner (keepsOwner_accept)
  · exact keepsOwner_requireOwner (keepsOwner_requireName fun _ => keepsOwner_accept)
  · refine keepsOwner_requireOwner ?_
    dsimp only
    split <;> first | exact keepsOwner_accept | exact keepsOwner_answer _
  · exact keepsOwner_requireOwner (keepsOwner_accept)
  · exact keepsOwner_requireOwner (keepsOwner_requireName fun _ => keepsOwner_accept)
  · exact keepsOwner_requireOwner (keepsOwner_requireName fun _ => keepsOwner_accept)
  · exact keepsOwner_requireOwner (keepsOwner_requireName fun _ => keepsOwner_accept)
  · refine keepsOwner_requireOwner (keepsOwner_requireName fun name => ?_)
    dsimp only
    split
    · exact iteInduction (fun _ => keepsOwner_answer _) fun _ => keepsOwner_accept
    · exact keepsOwner_answer _
  · exact keepsOwner_requireOwner (keepsOwner_requirePose fun _ _ _ _ =>
      keepsOwner_acceptControl rfl)
  · refine keepsOwner_requireOwner (keepsOwner_requirePose fun _ _ _ _ => ?_)
    rintro _ _ ⟨⟩
    exact Or.inl rfl

/-- The outcome answers, and the connection is the owner. -/
def GivesOwner (conn : String) (outcome : Outcome) : Prop :=
  ∃ result next, outcome = .ok (result, next) ∧ next.ownerConn = some conn

theorem givesOwner_doAcquire (hFree : g.ownerConn = none) :
    GivesOwner conn (g.doAcquire conn) := by
  unfold doAcquire
  rw [hFree, if_neg nofun, if_neg (by decide)]
  exact ⟨_, _, rfl, rfl⟩

theorem givesOwner_doTakeover : GivesOwner conn (g.doTakeover conn) := by
  unfold doTakeover
  split
  · rename_i hOwner
    exact ⟨_, _, rfl, hOwner⟩
  · split
    · rename_i hFree
      exact givesOwner_doAcquire hFree
    · exact ⟨_, _, rfl, rfl⟩

/-- After an action that takes the lease, its connection is the owner. -/
theorem givesOwner_of_takesLease (t : PyText) {action : PyValue}
    (hTakes : g.takesLease action = true) : GivesOwner conn (handle t g conn action) := by
  unfold takesLease at hTakes
  unfold handle
  split at hTakes
  · rename_i action
    dsimp only
    split at hTakes
    · rename_i name hName
      rw [hName]
      dsimp only [Option.getD_some]
      rw [Bool.or_eq_true, Bool.and_eq_true, decide_eq_true_eq, decide_eq_true_eq] at hTakes
      rcases hTakes with ⟨rfl, hFree⟩ | rfl
      · unfold leaseHeld at hFree
        rw [Bool.not_eq_true', Option.isSome_eq_false_iff, Option.isNone_iff_eq_none] at hFree
        exact givesOwner_doAcquire hFree
      · exact givesOwner_doTakeover
    · cases hTakes
  · cases hTakes

/-- Any other action leaves the owner or frees the lease. -/
theorem keepsOwner_of_not_takesLease (t : PyText) {action : PyValue}
    (hTakes : g.takesLease action = false) : g.KeepsOwner (handle t g conn action) := by
  unfold takesLease at hTakes
  unfold handle
  split
  · rename_i action
    dsimp only at hTakes ⊢
    split
    · rename_i name hName
      cases hGet : PyDict.get? action "action" with
      | none =>
        rw [hGet] at hName
        cases hName
      | some value =>
        rw [hGet, Option.getD_some] at hName
        subst hName
        rw [hGet] at hTakes
        dsimp only at hTakes
        rw [Bool.or_eq_false_iff, Bool.and_eq_false_iff, decide_eq_false_iff_not,
          decide_eq_false_iff_not] at hTakes
        cases hHandler : handler t g conn action name with
        | none => exact keepsOwner_answer _
        | some outcome =>
          by_cases hAcquire : name = "acquire"
          · subst hAcquire
            have hHeld : g.leaseHeld = true := by
              rw [← Bool.not_eq_false']
              exact (hTakes.1.resolve_left (not_not.mpr rfl))
            obtain rfl : g.doAcquire conn = outcome := Option.some.inj hHandler
            rw [Option.getD_some]
            unfold doAcquire
            refine iteInduction (fun _ => keepsOwner_accept) fun _ => ?_
            exact iteInduction (fun _ => keepsOwner_answer _) fun hFree => absurd hHeld hFree
          · exact keepsOwner_handler t action hAcquire hTakes.2 hHandler
    · exact keepsOwner_answer _
  · exact keepsOwner_answer _

end

end OperatorGateway

/-! ## Dead connections -/

namespace WebSessions

variable (t : PyText)

/-- No connection whose disconnect was processed owns the lease. -/
def NoDeadOwner (s : WebSessions) : Prop :=
  ∀ conn ∈ s.disconnected, s.gateway.ownerConn ≠ some conn

/-- A worker of a connection whose disconnect was processed gets the lock, with an action that
takes the lease. -/
def LateClaim (s : WebSessions) (input : SessionInput) : Prop :=
  ∃ worker conn action, input = .work worker ∧ s.waiting[worker]? = some (.submit conn action) ∧
    conn ∈ s.disconnected ∧ s.gateway.takesLease action = true

theorem not_lateClaim {s : WebSessions} {input : SessionInput}
    (h : ∀ worker conn action, input = .work worker →
      s.waiting[worker]? ≠ some (.submit conn action)) : ¬ s.LateClaim input := by
  rintro ⟨worker, conn, action, hInput, hJob, -⟩
  exact h worker conn action hInput hJob

theorem lateClaim_work {s : WebSessions} {worker : ℕ} {conn : String} {action : PyValue}
    (hJob : s.waiting[worker]? = some (.submit conn action)) :
    s.LateClaim (.work worker) ↔
      conn ∈ s.disconnected ∧ s.gateway.takesLease action = true := by
  constructor
  · rintro ⟨other, conn', action', hInput, hWaiting, hClaim⟩
    cases hInput
    cases hJob.symm.trans hWaiting
    exact hClaim
  · exact fun hClaim => ⟨worker, conn, action, rfl, hJob, hClaim⟩

/-- A worker that disconnects leaves no dead owner. -/
theorem noDeadOwner_run_disconnect {s : WebSessions} (h : s.NoDeadOwner) (conn : String) :
    (s.run t (.disconnect conn)).NoDeadOwner := by
  obtain ⟨hSelf, hNext⟩ := OperatorGateway.onDisconnect_owner s.gateway conn
  intro other hDead
  show (s.gateway.onDisconnect conn).2.ownerConn ≠ some other
  rcases List.mem_cons.mp hDead with rfl | hOld
  · exact hSelf
  · rcases hNext with hSame | hFree
    · rw [hSame]
      exact h other hOld
    · rw [hFree]
      exact nofun

/-- An action leaves a dead owner when its connection is dead and it takes the lease. -/
theorem noDeadOwner_run_submit {s : WebSessions} (h : s.NoDeadOwner) (conn : String)
    (action : PyValue) :
    (s.run t (.submit conn action)).NoDeadOwner ↔
      ¬ (conn ∈ s.disconnected ∧ s.gateway.takesLease action = true) := by
  unfold run
  dsimp only
  cases hTakes : s.gateway.takesLease action with
  | false =>
    refine ⟨fun _ => fun ⟨_, hOther⟩ => Bool.false_ne_true hOther, fun _ => ?_⟩
    cases hOut : OperatorGateway.handle t s.gateway conn action with
    | error error => exact h
    | ok out =>
      obtain ⟨result, gateway⟩ := out
      intro other hDead
      show gateway.ownerConn ≠ some other
      rcases OperatorGateway.keepsOwner_of_not_takesLease t hTakes result gateway hOut with
        hSame | hFree
      · rw [hSame]
        exact h other hDead
      · rw [hFree]
        exact nofun
  | true =>
    obtain ⟨result, gateway, hOut, hOwner⟩ :=
      @OperatorGateway.givesOwner_of_takesLease s.gateway conn t _ hTakes
    rw [hOut]
    dsimp only
    constructor
    · rintro hSafe ⟨hDead, -⟩
      exact hSafe conn hDead hOwner
    · intro hClaim other hDead hOther
      obtain rfl : conn = other := Option.some.inj (hOwner.symm.trans hOther)
      exact hClaim ⟨hDead, rfl⟩

/-- One step leaves no dead owner, unless it is a late claim. -/
theorem noDeadOwner_step {s : WebSessions} (h : s.NoDeadOwner) (input : SessionInput) :
    (s.step t input).NoDeadOwner ↔ ¬ s.LateClaim input := by
  have hStays : (s.step t input).NoDeadOwner → ¬ s.LateClaim input →
      ((s.step t input).NoDeadOwner ↔ ¬ s.LateClaim input) := fun hSafe hClaim =>
    ⟨fun _ => hClaim, fun _ => hSafe⟩
  cases input with
  | connect conn =>
    refine hStays ?_ (not_lateClaim nofun)
    exact iteInduction (fun _ => h) fun _ => h
  | receive conn action =>
    refine hStays ?_ (not_lateClaim nofun)
    exact iteInduction (fun _ => h) fun _ => h
  | close conn started =>
    refine hStays ?_ (not_lateClaim nofun)
    exact iteInduction (fun _ => h) fun _ => h
  | work worker =>
    dsimp only [step]
    cases hJob : s.waiting[worker]? with
    | none =>
      refine ⟨fun _ => not_lateClaim ?_, fun _ => h⟩
      rintro _ conn action ⟨⟩
      rw [hJob]
      exact nofun
    | some job =>
      have hSame : NoDeadOwner { s with waiting := s.waiting.eraseIdx worker } := h
      cases job with
      | disconnect conn =>
        refine ⟨fun _ => not_lateClaim ?_, fun _ => noDeadOwner_run_disconnect t hSame conn⟩
        rintro _ other action ⟨⟩
        rw [hJob]
        exact nofun
      | submit conn action =>
        rw [lateClaim_work hJob]
        exact noDeadOwner_run_submit t hSame conn action

/-- In every run, the lease is never left with a dead connection just when no worker of a dead
connection gets the lock with an action that takes the lease. `noDeadOwner_step` is the equivalence
for one step from a state without a dead owner. -/
theorem lease_released_iff (uuidFactory : ℕ → String) (past : List SessionInput) :
    let init : WebSessions := { gateway := { uuidFactory } }
    Always (along (step t) init fun s input => (s.step t input).NoDeadOwner) past ↔
      Always (along (step t) init fun s input => ¬ s.LateClaim input) past := by
  intro init
  have hSafe : ∀ past, Always (along (step t) init fun s input => ¬ s.LateClaim input) past →
      (after (step t) init past).NoDeadOwner := by
    intro past
    induction past with
    | nil => exact fun _ _ hDead => absurd hDead List.not_mem_nil
    | cons input past ih => exact fun h => (noDeadOwner_step t (ih h.2) input).mpr h.1
  induction past with
  | nil => exact Iff.rfl
  | cons input past ih =>
    constructor
    · intro h
      have hPast := ih.mp h.2
      exact ⟨(noDeadOwner_step t (hSafe past hPast) input).mp h.1, hPast⟩
    · intro h
      exact ⟨(noDeadOwner_step t (hSafe past h.2) input).mpr h.1, ih.mpr h.2⟩

/-- A browser sends an action and goes away; the worker of its disconnect gets the lock before
the worker of the action. Latest input first. -/
def goneBeforeAction (action : String) : List SessionInput :=
  [.work 0, .work 1, .close "a" true,
    .receive "a" (.dict [("action", .str action)]), .connect "a"]

theorem dead_connection_owns_lease :
    let init : WebSessions := { gateway := { uuidFactory := fun n => "id-" ++ toString n } }
    let s := after (step OperatorLink.plainText) init (goneBeforeAction "acquire")
    "a" ∈ s.disconnected ∧ s.gateway.ownerConn = some "a" ∧ s.waiting.length = 0 := by
  decide +kernel

end WebSessions

end PreRunner.Paddock
