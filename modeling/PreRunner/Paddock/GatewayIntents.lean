import PreRunner.Runs.InFlight
import PreRunner.Paddock.Gateway

/-!
# What the gateway sends

The lease, the RUN flag and the manual flag of the gateway are a function of the control events
it has sent (`GatewayView.apply`). Every browser action, accepted or not, sends events that
carry the next numbers and the ids of the lease (`GatewayView.Ok`) and that lead to the view of
the next gateway (`sends_handle`).
-/

namespace PreRunner.Paddock

open Runs

/-- What the control events of a gateway tell about it. -/
structure GatewayView where
  owned : Bool
  clientId : String
  leaseId : String
  sequence : Nat
  runPressed : Bool
  manualActive : Bool
  deriving DecidableEq, Repr

namespace GatewayView

/-- The view after one more event was sent. -/
def apply (v : GatewayView) (e : ControlEventIntent) : GatewayView :=
  let v := { v with sequence := e.sequence }
  match e.event with
  | .leaseAcquired =>
    { v with
      owned := true
      clientId := e.clientId
      leaseId := e.leaseId
      runPressed := false
      manualActive := false }
  | .leaseReleased | .leaseLost =>
    { v with
      owned := false, clientId := "", leaseId := "", runPressed := false, manualActive := false }
  | .runPressed => { v with runPressed := true }
  | .runReleased => { v with runPressed := false }
  | .stop => { v with runPressed := false, manualActive := false }
  | .manualActive => { v with runPressed := false, manualActive := true }
  | .manualInactive => { v with manualActive := false }
  | .goalSelected | .heartbeat | .clearStop => v

/-- The next event of a gateway: it has the next number, and either asks for a lease that is
free or bears the ids of the lease that is held. -/
structure Ok (v : GatewayView) (e : ControlEventIntent) : Prop where
  sequence : e.sequence = v.sequence + 1
  acquired : e.event = .leaseAcquired → v.owned = false ∧ e.clientId ≠ "" ∧ e.leaseId ≠ ""
  addressed : e.event ≠ .leaseAcquired →
    v.owned = true ∧ e.clientId = v.clientId ∧ e.leaseId = v.leaseId

end GatewayView

namespace OperatorGateway

def view (g : OperatorGateway) : GatewayView :=
  { owned := g.ownerConn.isSome
    clientId := g.clientId
    leaseId := g.leaseId
    sequence := g.sequence
    runPressed := g.runPressed
    manualActive := g.manualActive }

/-! ## What a browser action sends -/

/-- The control events among the intents of a result. -/
def controls (intents : List Intent) : List ControlEventIntent := intents.filterMap Intent.control?

/-- The control events of an outcome lead to the view of the next gateway. -/
def Sends (g : OperatorGateway) (outcome : Outcome) : Prop :=
  ∀ result next, outcome = .ok (result, next) → next.uuidFactory = g.uuidFactory ∧
    Sent GatewayView.Ok GatewayView.apply g.view (controls result.intents) next.view

section

variable {g : OperatorGateway} {conn : String}

theorem sends_silent {result : GatewayResult} (h : controls result.intents = []) :
    g.Sends (g.answer result) := by
  rintro _ _ ⟨⟩
  exact ⟨rfl, h ▸ Sent.refl _⟩

theorem sends_reject (reason : String) : g.Sends (g.answer (g.reject conn reason)) :=
  sends_silent rfl

theorem sends_accept {reason : String} {intents : List Intent} (h : controls intents = []) :
    g.Sends (g.accept reason intents) := sends_silent h

theorem sends_error (error : PyError) : g.Sends (.error error) := by
  rintro _ _ ⟨⟩

/-- One control event that fits the change of the flags. -/
theorem sends_one {g' : OperatorGateway} {e : ControlEventIntent} {result : GatewayResult}
    (hControls : controls result.intents = [e]) (hFactory : g'.uuidFactory = g.uuidFactory)
    (hOk : g.view.Ok e) (hView : g.view.apply e = g'.view) :
    g.Sends (.ok (result, g')) := by
  rintro _ _ ⟨⟩
  refine ⟨hFactory, ?_⟩
  rw [hControls, ← hView]
  exact Sent.single hOk

/-- The event of the owner, sent after its flags were set. -/
theorem sends_acceptControl {reason : String} {event : ControlEvent}
    {fields : ControlEventIntent → ControlEventIntent} (run manual : Bool)
    (hOwner : g.ownerConn = some conn) (hEvent : event ≠ .leaseAcquired)
    (hFields : ∀ e, (fields e).event = e.event ∧ (fields e).sequence = e.sequence ∧
      (fields e).clientId = e.clientId ∧ (fields e).leaseId = e.leaseId)
    (hView : ∀ e : ControlEventIntent, e.event = event → g.view.apply e =
      { g.view with sequence := e.sequence, runPressed := run, manualActive := manual }) :
    g.Sends (acceptControl { g with runPressed := run, manualActive := manual } reason event
      fields) := by
  have hControl := hFields (control { g with runPressed := run, manualActive := manual } event).1
  refine sends_one rfl rfl ⟨hControl.2.1, fun h => absurd (hControl.1.symm.trans h) hEvent,
    fun _ => ⟨?_, hControl.2.2⟩⟩ ?_
  · simp [view, hOwner]
  · refine (hView _ hControl.1).trans ?_
    rw [hControl.2.1]
    rfl

theorem sends_requireOwner {handler : Outcome}
    (h : g.ownerConn = some conn → g.Sends handler) : g.Sends (g.requireOwner conn handler) := by
  unfold requireOwner
  split
  · exact sends_reject _
  · rename_i hOwner
    exact h (not_not.mp hOwner)

theorem sends_catching {α : Type} {reason : String} {value : Except PyError α}
    {handler : α → Outcome} (h : ∀ value, g.Sends (handler value)) :
    g.Sends (g.catching conn reason value handler) := by
  unfold catching
  split
  · exact h _
  · exact sends_error _
  · exact sends_reject _

theorem sends_requireName {t : PyText} {action : PyDict} {missing : String}
    {handler : String → Outcome} (h : ∀ name, g.Sends (handler name)) :
    g.Sends (g.requireName t conn action missing handler) := by
  unfold requireName
  exact iteInduction (fun _ => sends_reject _) fun _ => h _

theorem sends_requireValues {action : PyDict} {reason : String} {handler : PyDict → Outcome}
    (h : ∀ values, g.Sends (handler values)) :
    g.Sends (g.requireValues conn action reason handler) := by
  unfold requireValues
  split
  · exact h _
  · exact sends_reject _

theorem sends_requirePose {t : PyText} {action : PyDict} {what : String}
    {handler : PyFloat → PyFloat → PyFloat → String → Outcome}
    (h : ∀ x y yaw frame, g.Sends (handler x y yaw frame)) :
    g.Sends (requirePose t g conn action what handler) := by
  unfold requirePose
  refine sends_catching fun ⟨x, y, yaw⟩ => ?_
  exact iteInduction (fun _ => sends_reject _) fun _ =>
    iteInduction (fun _ => sends_reject _) fun _ => h _ _ _ _

/-- `LEASE_RELEASED` or `LEASE_LOST` of the owner, and the gateway without an owner after it. -/
theorem sent_disowned {event : ControlEvent} (hOwner : g.ownerConn = some conn)
    (hEvent : event = .leaseReleased ∨ event = .leaseLost) :
    Sent GatewayView.Ok GatewayView.apply g.view [(g.control event).1]
      (g.control event).2.disowned.view := by
  refine ⟨⟨rfl, ?_, fun _ => ⟨by simp [view, hOwner], rfl, rfl⟩⟩, ?_⟩
  · rintro rfl
    rcases hEvent with h | h <;> cases h
  · rcases hEvent with rfl | rfl <;> rfl

/-- `LEASE_ACQUIRED` of a gateway that had no owner, with the ids of the factory. -/
theorem sent_owned (hFree : g.ownerConn = none) (hIds : ∀ n, g.uuidFactory n ≠ "") :
    Sent GatewayView.Ok GatewayView.apply g.view
      [(control { g.owned conn with runPressed := false, manualActive := false }
        .leaseAcquired).1]
      (control { g.owned conn with runPressed := false, manualActive := false }
        .leaseAcquired).2.view :=
  ⟨⟨rfl, fun _ => ⟨by simp [view, hFree], hIds _, hIds _⟩, fun h => absurd rfl h⟩, rfl⟩

theorem sends_onDisconnect (g : OperatorGateway) (conn : String) :
    g.Sends (.ok (g.onDisconnect conn)) := by
  intro result next h
  have hOut := Except.ok.inj h
  unfold onDisconnect at hOut
  split at hOut
  · cases hOut
    exact ⟨rfl, Sent.refl _⟩
  · rename_i hOwner
    cases hOut
    exact ⟨rfl, sent_disowned (not_not.mp hOwner) (Or.inl rfl)⟩

theorem sends_doAcquire (hIds : ∀ n, g.uuidFactory n ≠ "") : g.Sends (g.doAcquire conn) := by
  unfold doAcquire
  refine iteInduction (fun _ => sends_accept rfl) fun _ =>
    iteInduction (fun _ => sends_silent rfl) fun hFree => ?_
  rintro _ _ ⟨⟩
  exact ⟨rfl, sent_owned (by simpa using hFree) hIds⟩

theorem sends_doTakeover (hIds : ∀ n, g.uuidFactory n ≠ "") : g.Sends (g.doTakeover conn) := by
  unfold doTakeover
  refine iteInduction (fun _ => sends_accept rfl) fun _ =>
    iteInduction (fun _ => sends_doAcquire hIds) fun hOwner => ?_
  obtain ⟨owner, hOwner⟩ := Option.ne_none_iff_exists'.mp hOwner
  rintro _ _ ⟨⟩
  refine ⟨rfl, (sent_disowned hOwner (Or.inr rfl)).append ?_⟩
  exact @sent_owned (g.control .leaseLost).2.disowned conn rfl hIds

theorem sends_doRelease : g.Sends (g.doRelease conn) := by
  unfold doRelease
  exact iteInduction (fun _ => sends_reject _) fun _ => sends_onDisconnect g conn

theorem sends_doRun (action : PyDict) : g.Sends (g.doRun conn action) := by
  refine sends_requireOwner fun hOwner => ?_
  refine iteInduction (fun _ => ?_) fun _ => iteInduction (fun _ => ?_) fun _ =>
    iteInduction (fun _ => ?_) fun _ => sends_accept rfl
  · exact sends_acceptControl true g.manualActive hOwner nofun (fun _ => ⟨rfl, rfl, rfl, rfl⟩)
      fun e he => by rw [GatewayView.apply, he]; rfl
  · exact sends_acceptControl g.runPressed g.manualActive hOwner nofun
      (fun _ => ⟨rfl, rfl, rfl, rfl⟩) fun e he => by rw [GatewayView.apply, he]; rfl
  · exact sends_acceptControl false g.manualActive hOwner nofun (fun _ => ⟨rfl, rfl, rfl, rfl⟩)
      fun e he => by rw [GatewayView.apply, he]; rfl

theorem sends_doManual (t : PyText) (action : PyDict) : g.Sends (g.doManual t conn action) := by
  refine sends_requireOwner fun hOwner => ?_
  refine iteInduction (fun _ => iteInduction (fun _ => sends_accept rfl) fun _ => ?_) fun _ => ?_
  · exact sends_acceptControl g.runPressed false hOwner nofun (fun _ => ⟨rfl, rfl, rfl, rfl⟩)
      fun e he => by rw [GatewayView.apply, he]; rfl
  · refine sends_catching fun ⟨speed, steering⟩ => iteInduction (fun _ => sends_reject _) fun _ =>
      ?_
    exact sends_acceptControl false true hOwner nofun (fun _ => ⟨rfl, rfl, rfl, rfl⟩)
      fun e he => by rw [GatewayView.apply, he]

theorem sends_doSetInitialPose (t : PyText) (action : PyDict) :
    g.Sends (g.doSetInitialPose t conn action) := by
  refine sends_requireOwner fun hOwner => sends_requirePose fun x y yaw frame => ?_
  refine sends_one rfl rfl ⟨rfl, nofun, fun _ => ⟨by simp [view, hOwner], rfl, rfl⟩⟩ rfl

theorem sends_doSelectMode (t : PyText) (action : PyDict) :
    g.Sends (g.doSelectMode t conn action) := by
  refine sends_requireOwner fun _ => ?_
  dsimp only
  split <;> first | exact sends_accept rfl | exact sends_reject _

theorem sends_doSetObstacleProcessing (t : PyText) (action : PyDict) :
    g.Sends (g.doSetObstacleProcessing t conn action) := by
  refine sends_requireOwner fun _ => iteInduction (fun _ => sends_reject _) fun _ => ?_
  split
  · exact sends_accept rfl
  · exact sends_reject _

theorem sends_doSetConfig (t : PyText) (action : PyDict) :
    g.Sends (g.doSetConfig t conn action) := by
  refine sends_requireOwner fun _ => iteInduction (fun _ => sends_reject _) fun _ => ?_
  refine sends_catching fun ⟨value, revision⟩ => ?_
  exact iteInduction (fun _ => sends_reject _) fun _ => sends_accept rfl

theorem sends_doSaveSemantics (t : PyText) (action : PyDict) :
    g.Sends (g.doSaveSemantics t conn action) := by
  refine sends_requireOwner fun _ => sends_requireName fun name => ?_
  dsimp only
  split
  · exact iteInduction (fun _ => sends_reject _) fun _ => sends_accept rfl
  · exact sends_reject _

/-- Every handler sends control events that lead to its own next view. -/
theorem sends_handler (t : PyText) (g : OperatorGateway) (conn : String) (action : PyDict)
    (hIds : ∀ n, g.uuidFactory n ≠ "") {name : String} {outcome : Outcome}
    (h : handler t g conn action name = some outcome) : g.Sends outcome := by
  have hSame : ∀ e : ControlEventIntent,
      e.event = .heartbeat ∨ e.event = .clearStop ∨ e.event = .goalSelected → g.view.apply e =
        { g.view with sequence := e.sequence, runPressed := g.runPressed,
                      manualActive := g.manualActive } := by
    intro e he
    rw [GatewayView.apply]
    rcases he with he | he | he <;> rw [he] <;> rfl
  have hOwned : ∀ {reason event} {fields : ControlEventIntent → ControlEventIntent},
      event = .heartbeat ∨ event = .clearStop ∨ event = .goalSelected →
      (∀ e, (fields e).event = e.event ∧ (fields e).sequence = e.sequence ∧
        (fields e).clientId = e.clientId ∧ (fields e).leaseId = e.leaseId) →
      g.ownerConn = some conn → g.Sends (g.acceptControl reason event fields) := by
    intro reason event fields hEvent hFields hOwner
    exact sends_acceptControl g.runPressed g.manualActive hOwner
      (by rcases hEvent with rfl | rfl | rfl <;> exact nofun) hFields
      fun e he => hSame e (by rwa [he])
  unfold handler at h
  split at h <;> cases h
  · exact sends_doAcquire hIds
  · exact sends_doTakeover hIds
  · exact sends_doRelease
  · exact sends_requireOwner (hOwned (by simp) fun _ => ⟨rfl, rfl, rfl, rfl⟩)
  · exact sends_doRun action
  · refine sends_requireOwner fun hOwner => ?_
    exact sends_acceptControl false false hOwner nofun (fun _ => ⟨rfl, rfl, rfl, rfl⟩)
      fun e he => by rw [GatewayView.apply, he]
  · exact sends_requireOwner (hOwned (by simp) fun _ => ⟨rfl, rfl, rfl, rfl⟩)
  · exact sends_doManual t action
  · exact sends_requireOwner fun _ => sends_accept rfl
  · exact sends_doSetObstacleProcessing t action
  · exact sends_requireOwner fun _ => sends_requireValues fun _ => sends_accept rfl
  · exact sends_requireOwner fun _ => sends_requireValues fun _ => sends_accept rfl
  · exact sends_requireOwner fun _ => sends_requireName fun _ => sends_requireValues fun _ =>
      sends_accept rfl
  · exact sends_requireOwner fun _ => sends_requireName fun _ => sends_accept rfl
  · exact sends_doSetConfig t action
  · exact sends_requireOwner fun _ => sends_accept rfl
  · exact sends_requireOwner fun _ => sends_accept rfl
  · exact sends_requireOwner fun _ => sends_requireName fun _ => sends_accept rfl
  · exact sends_doSelectMode t action
  · exact sends_requireOwner fun _ => sends_accept rfl
  · exact sends_requireOwner fun _ => sends_requireName fun _ => sends_accept rfl
  · exact sends_requireOwner fun _ => sends_requireName fun _ => sends_accept rfl
  · exact sends_requireOwner fun _ => sends_requireName fun _ => sends_accept rfl
  · exact sends_doSaveSemantics t action
  · refine sends_requireOwner fun hOwner => sends_requirePose fun x y yaw frame => ?_
    exact hOwned (by simp) (fun _ => ⟨rfl, rfl, rfl, rfl⟩) hOwner
  · exact sends_doSetInitialPose t action

theorem sends_handle (t : PyText) (g : OperatorGateway) (conn : String) (action : PyValue)
    (hIds : ∀ n, g.uuidFactory n ≠ "") : g.Sends (handle t g conn action) := by
  unfold handle
  split
  · rename_i action
    dsimp only
    split
    · rename_i name _
      cases hHandler : handler t g conn action name with
      | none => exact sends_reject _
      | some outcome => exact sends_handler t g conn action hIds hHandler
    · exact sends_reject _
  · exact sends_reject _

end

end OperatorGateway

end PreRunner.Paddock
