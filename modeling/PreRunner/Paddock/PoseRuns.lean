import PreRunner.Paddock.PoseTransaction

/-!
# Runs of the initial-pose transaction

The web thread joins the threads of the executor. A CLEAR_STOP comes from the action of that name
alone, and the thread that holds the gateway lock is the only one that begins a transaction; so none
begins between its look at the pending transaction and the publication.

`Sound` joins what is known of the node, of the operations that wait in its threads and of the
requests in flight. The rule is that of `Runs.ThreadPool`: an operation has to keep the invariant,
make it true of the operations it leaves, and not make it false of the others.
-/

namespace PreRunner.Paddock

open Runs

/-! ## CLEAR_STOP -/

/-- A CLEAR_STOP for the command supervisor. -/
def Intent.clears : Intent → Bool
  | control e => e.event = .clearStop
  | _ => false

namespace OperatorGateway

/-- No CLEAR_STOP comes with the answer. -/
def Silent (outcome : Outcome) : Prop :=
  ∀ result gateway, outcome = .ok (result, gateway) → ∀ i ∈ result.intents, i.clears = false

variable {g : OperatorGateway} {conn : String}

theorem silent_ok {result : GatewayResult} {gateway : OperatorGateway}
    (h : ∀ i ∈ result.intents, i.clears = false) : Silent (.ok (result, gateway)) := by
  rintro _ _ ⟨⟩
  exact h

theorem silent_reject (reason : String) : Silent (g.answer (g.reject conn reason)) :=
  silent_ok fun _ hMem => (List.not_mem_nil hMem).elim

theorem silent_accept {reason : String} {intents : List Intent}
    (h : intents.all (fun i => !i.clears) = true) : Silent (g.accept reason intents) :=
  silent_ok fun i hMem => (Bool.not_eq_true' _).mp (List.all_eq_true.mp h i hMem)

theorem silent_requireOwner {handler : Outcome} (h : Silent handler) :
    Silent (g.requireOwner conn handler) := iteInduction (fun _ => silent_reject _) fun _ => h

theorem silent_requireName {t : PyText} {action : PyDict} {missing : String}
    {handler : String → Outcome} (h : ∀ name, Silent (handler name)) :
    Silent (g.requireName t conn action missing handler) :=
  iteInduction (fun _ => silent_reject _) fun _ => h _

theorem silent_requireValues {action : PyDict} {reason : String} {handler : PyDict → Outcome}
    (h : ∀ values, Silent (handler values)) :
    Silent (g.requireValues conn action reason handler) := by
  unfold requireValues
  split
  · exact h _
  · exact silent_reject _

theorem silent_catching {α : Type} {reason : String} {value : Except PyError α}
    {handler : α → Outcome} (h : ∀ value, Silent (handler value)) :
    Silent (g.catching conn reason value handler) := by
  unfold catching
  split
  · exact h _
  · exact nofun
  · exact silent_reject _

theorem silent_requirePose {t : PyText} {action : PyDict} {what : String}
    {handler : PyFloat → PyFloat → PyFloat → String → Outcome}
    (h : ∀ x y yaw frame, Silent (handler x y yaw frame)) :
    Silent (requirePose t g conn action what handler) := by
  refine silent_catching fun ⟨x, y, yaw⟩ => ?_
  exact iteInduction (fun _ => silent_reject _) fun _ =>
    iteInduction (fun _ => silent_reject _) fun _ => h x y yaw _

/-- The event is the one that the handler names. -/
theorem silent_acceptControl {reason : String} {event : ControlEvent}
    {fields : ControlEventIntent → ControlEventIntent}
    (hFields : ∀ e, (fields e).event = e.event) (hEvent : event ≠ .clearStop) :
    Silent (g.acceptControl reason event fields) := by
  refine silent_ok fun i hMem => ?_
  rw [List.mem_singleton.mp hMem]
  exact decide_eq_false fun hClear => hEvent ((hFields _).symm.trans hClear)

theorem silent_doAcquire : Silent (g.doAcquire conn) :=
  iteInduction (fun _ => silent_accept rfl) fun _ =>
    iteInduction (fun _ => silent_ok fun _ hMem => (List.not_mem_nil hMem).elim) fun _ =>
      silent_acceptControl (fun _ => rfl) nofun

theorem silent_onDisconnect : Silent (.ok (g.onDisconnect conn)) := by
  by_cases hOwner : g.ownerConn ≠ some conn
  · rw [show g.onDisconnect conn = _ from if_pos hOwner]
    exact silent_ok fun _ hMem => (List.not_mem_nil hMem).elim
  · rw [show g.onDisconnect conn = _ from if_neg hOwner]
    refine silent_ok fun i hMem => ?_
    rw [List.mem_singleton.mp hMem]
    rfl

theorem silent_doRun (action : PyDict) : Silent (g.doRun conn action) :=
  silent_requireOwner <|
    iteInduction (fun _ => silent_acceptControl (fun _ => rfl) nofun) fun _ =>
      iteInduction (fun _ => silent_acceptControl (fun _ => rfl) nofun) fun _ =>
        iteInduction (fun _ => silent_acceptControl (fun _ => rfl) nofun) fun _ =>
          silent_accept rfl

theorem silent_doManual (t : PyText) (action : PyDict) : Silent (g.doManual t conn action) := by
  refine silent_requireOwner (iteInduction (fun _ => ?_) fun _ => ?_)
  · exact iteInduction (fun _ => silent_accept rfl) fun _ =>
      silent_acceptControl (fun _ => rfl) nofun
  · exact silent_catching fun ⟨speed, steering⟩ => iteInduction (fun _ => silent_reject _) fun _ =>
      silent_acceptControl (fun _ => rfl) nofun

theorem silent_doSetObstacleProcessing (t : PyText) (action : PyDict) :
    Silent (g.doSetObstacleProcessing t conn action) := by
  refine silent_requireOwner (iteInduction (fun _ => silent_reject _) fun _ => ?_)
  split
  · exact silent_accept rfl
  · exact silent_reject _

theorem silent_doSetConfig (t : PyText) (action : PyDict) :
    Silent (g.doSetConfig t conn action) :=
  silent_requireOwner <| iteInduction (fun _ => silent_reject _) fun _ =>
    silent_catching fun ⟨_, _⟩ => iteInduction (fun _ => silent_reject _) fun _ =>
      silent_accept rfl

theorem silent_doSelectMode (t : PyText) (action : PyDict) :
    Silent (g.doSelectMode t conn action) := by
  refine silent_requireOwner ?_
  dsimp only
  split
  · exact silent_accept rfl
  · exact silent_accept rfl
  · exact silent_accept rfl
  · exact silent_reject _

theorem silent_doNamedMap (t : PyText) (action : PyDict) (operation : MapOperation)
    (verb missing : String) : Silent (doNamedMap t g conn action operation verb missing) :=
  silent_requireOwner (silent_requireName fun _ => silent_accept rfl)

theorem silent_doSaveSemantics (t : PyText) (action : PyDict) :
    Silent (g.doSaveSemantics t conn action) := by
  refine silent_requireOwner (silent_requireName fun name => ?_)
  dsimp only
  split
  · exact iteInduction (fun _ => silent_reject _) fun _ => silent_accept rfl
  · exact silent_reject _

/-- Every other handler answers without a CLEAR_STOP. -/
theorem silent_handler {t : PyText} {action : PyDict} {name : String} {outcome : Outcome}
    (h : handler t g conn action name = some outcome) (hName : name ≠ "clear_stop") :
    Silent outcome := by
  unfold handler at h
  split at h <;> cases h
  · exact silent_doAcquire
  · refine iteInduction (fun _ => silent_accept rfl) fun _ =>
      iteInduction (fun _ => silent_doAcquire) fun _ => silent_accept rfl
  · exact iteInduction (fun _ => silent_reject _) fun _ => silent_onDisconnect
  · exact silent_requireOwner (silent_acceptControl (fun _ => rfl) nofun)
  · exact silent_doRun action
  · exact silent_requireOwner (silent_acceptControl (fun _ => rfl) nofun)
  · exact absurd rfl hName
  · exact silent_doManual t action
  · exact silent_requireOwner (silent_accept rfl)
  · exact silent_doSetObstacleProcessing t action
  · exact silent_requireOwner (silent_requireValues fun _ => silent_accept rfl)
  · exact silent_requireOwner (silent_requireValues fun _ => silent_accept rfl)
  · exact silent_requireOwner (silent_requireName fun _ => silent_requireValues fun _ =>
      silent_accept rfl)
  · exact silent_requireOwner (silent_requireName fun _ => silent_accept rfl)
  · exact silent_doSetConfig t action
  · exact silent_requireOwner (silent_accept rfl)
  · exact silent_requireOwner (silent_accept rfl)
  · exact silent_requireOwner (silent_requireName fun _ => silent_accept rfl)
  · exact silent_doSelectMode t action
  · exact silent_requireOwner (silent_accept rfl)
  · exact silent_doNamedMap t action _ _ _
  · exact silent_doNamedMap t action _ _ _
  · exact silent_doNamedMap t action _ _ _
  · exact silent_doSaveSemantics t action
  · exact silent_requireOwner (silent_requirePose fun _ _ _ _ =>
      silent_acceptControl (fun _ => rfl) nofun)
  · exact silent_requireOwner (silent_requirePose fun _ _ _ _ => silent_accept rfl)

/-- An answer with a CLEAR_STOP is that to its own action, and holds nothing else. -/
theorem handle_clears {t : PyText} {action : PyValue} {result : GatewayResult}
    {gateway : OperatorGateway} (h : handle t g conn action = .ok (result, gateway))
    (hClears : ∃ i ∈ result.intents, i.clears = true) :
    actionIs "clear_stop" action = true ∧ result.accepted = true ∧
      ∃ e, result.intents = [.control e] := by
  obtain ⟨i, hMem, hClear⟩ := hClears
  unfold handle at h
  split at h
  · rename_i action
    dsimp only at h
    split at h
    · rename_i name hName
      cases hHandler : handler t g conn action name with
      | none =>
        rw [hHandler] at h
        cases h
        exact (List.not_mem_nil hMem).elim
      | some outcome =>
        rw [hHandler, Option.getD_some] at h
        by_cases hSame : name = "clear_stop"
        · subst hSame
          have hAction : PyDict.get? action "action" = some (.str "clear_stop") := by
            cases hGet : PyDict.get? action "action" with
            | none => rw [hGet] at hName; cases hName
            | some value => rw [hGet] at hName; exact congrArg some hName
          cases hHandler
          refine ⟨?_, ?_⟩
          · dsimp only [actionIs]
            rw [hAction]
            rfl
          · unfold doClearStop requireOwner at h
            split at h
            · cases h
              exact (List.not_mem_nil hMem).elim
            · cases h
              exact ⟨rfl, _, rfl⟩
        · have hSilent := silent_handler hHandler hSame result gateway h i hMem
          exact absurd hClear (by rw [hSilent]; nofun)
    · cases h
      exact (List.not_mem_nil hMem).elim
  · cases h
    exact (List.not_mem_nil hMem).elim

end OperatorGateway

/-! ## What an operation of the executor does -/

/-- The operation belongs to one transaction, or shows what was decided earlier. -/
def PoseOp.Of (id : ℕ) : PoseOp → Prop
  | expire | advance | lookup | confirm _ => False
  | expired other | fail other _ _ | inspect other _ | check other _ | publish other _
  | observe other _ | startClear other _ | call other _ | finish other _ _ | verify other _
  | complete other _ => other = id
  | report _ => True

namespace PoseNode

/-- The other transactions are as they were, and so is everything if this one is not pending. -/
structure LeavesOthers (id : ℕ) (node next : PoseNode) : Prop where
  others : ∀ other, other ≠ id → next.records other = node.records other
  stale : node.pending ≠ some id →
    next.pending = node.pending ∧ next.history = node.history ∧ next.records = node.records

/-- What an operation does to the fields that the other threads read. -/
structure Moves (node : PoseNode) (op : PoseOp) (result : PoseNode × List PoseOp) : Prop where
  pending : result.1.pending = node.pending ∨ result.1.pending = none
  trace : ∃ added, result.1.trace = added ++ node.trace ∧ ∀ e, .sent e ∉ added
  own : ∀ id, op.Of id → node.LeavesOthers id result.1 ∧ ∀ next ∈ result.2, next.Of id

section

variable {node : PoseNode} {op : PoseOp}

theorem leavesOthers_refl (id : ℕ) (node : PoseNode) : node.LeavesOthers id node :=
  ⟨fun _ _ => rfl, fun _ => ⟨rfl, rfl, rfl⟩⟩

/-- The record of the pending transaction changes. -/
theorem leavesOthers_setRecord {id : ℕ} (hPending : node.pending = some id)
    (record : PoseRecord) : node.LeavesOthers id (node.setRecord id record) :=
  ⟨fun _ hNe => Function.update_of_ne hNe .., fun hStale => absurd hPending hStale⟩

theorem moves_stay {ops : List PoseOp} (h : ∀ id, op.Of id → ∀ next ∈ ops, next.Of id) :
    Moves node op (node, ops) :=
  ⟨.inl rfl, ⟨[], rfl, fun _ => List.not_mem_nil⟩, fun id hOp =>
    ⟨leavesOthers_refl id node, h id hOp⟩⟩

theorem moves_nil : Moves node op (node, []) :=
  moves_stay fun _ _ _ hMem => (List.not_mem_nil hMem).elim

theorem moves_next {next : PoseOp} (h : ∀ id, op.Of id → next.Of id) :
    Moves node op (node, [next]) := by
  refine moves_stay fun id hOp other hMem => ?_
  rw [List.mem_singleton.mp hMem]
  exact h id hOp

theorem moves_close {id : ℕ} (hOp : ∀ other, op.Of other → id = other) (state : PoseState)
    (detail : String) (observed : Option TfPose) :
    Moves node op (node.close id state detail observed) := by
  unfold close
  refine iteInduction (fun _ => moves_nil) fun hGuard => ?_
  refine ⟨.inr rfl, ⟨[], rfl, fun _ => List.not_mem_nil⟩, fun other hOther => ⟨⟨fun _ _ => rfl, ?_⟩,
    fun next hMem => ?_⟩⟩
  · intro hStale
    rw [← hOp other hOther] at hStale
    exact absurd (not_not.mp hGuard) hStale
  · rw [List.mem_singleton.mp hMem]
    trivial

theorem moves_publish (normalizedYaw : ℚ → ℚ) (env : PoseEnv) (id : ℕ) (s : PoseSnapshot) :
    Moves node (.publish id s) (node.exec normalizedYaw env (.publish id s)) := by
  dsimp only [exec]
  refine iteInduction (fun _ => moves_nil) fun hGuard => ?_
  have hPending : node.pending = some id := not_not.mp (not_or.mp hGuard).1
  refine ⟨.inl rfl, ⟨[.posed id s], rfl, fun e hMem => ?_⟩, ?_⟩
  · cases List.mem_singleton.mp hMem
  · rintro _ rfl
    have hLeaves := leavesOthers_setRecord hPending
      { node.records id with
        phase := .awaitingPose
        deadline := env.now + initialPoseConfirmTimeoutSec }
    exact ⟨⟨hLeaves.others, hLeaves.stale⟩, fun _ hMem => (List.not_mem_nil hMem).elim⟩

theorem moves_startClear (normalizedYaw : ℚ → ℚ) (env : PoseEnv) (id : ℕ) (pose : TfPose) :
    Moves node (.startClear id pose) (node.exec normalizedYaw env (.startClear id pose)) := by
  dsimp only [exec]
  refine iteInduction (fun _ => moves_next fun _ h => h) fun _ =>
    iteInduction (fun _ => moves_nil) fun hGuard => ?_
  have hPending : node.pending = some id := not_not.mp (not_or.mp hGuard).1
  refine ⟨.inl rfl, ⟨[], rfl, fun _ => List.not_mem_nil⟩, ?_⟩
  rintro _ rfl
  refine ⟨leavesOthers_setRecord hPending _, fun next hMem => ?_⟩
  rcases List.mem_cons.mp hMem with rfl | hCall
  · trivial
  · rcases List.mem_pair.mp hCall with rfl | rfl
    · rfl
    · rfl

theorem moves_finish (normalizedYaw : ℚ → ℚ) (env : PoseEnv) (id : ℕ) (costmap : DynamicCostmap)
    (error : Option String) :
    Moves node (.finish id costmap error)
      (node.exec normalizedYaw env (.finish id costmap error)) := by
  dsimp only [exec]
  refine iteInduction (fun _ => moves_nil) fun hGuard => ?_
  have hPending : node.pending = some id := not_not.mp (not_or.mp hGuard).1
  refine ⟨.inl rfl, ⟨[], rfl, fun _ => List.not_mem_nil⟩, ?_⟩
  rintro _ rfl
  refine ⟨leavesOthers_setRecord hPending _, fun next hMem => ?_⟩
  dsimp only at hMem
  split at hMem
  · exact (List.not_mem_nil hMem).elim
  split at hMem
  · rw [List.mem_singleton.mp hMem]
    rfl
  · rw [List.mem_singleton.mp hMem]
    rfl

theorem moves_exec (normalizedYaw : ℚ → ℚ) (node : PoseNode) (env : PoseEnv) (op : PoseOp) :
    Moves node op (node.exec normalizedYaw env op) := by
  cases op with
  | expire =>
    dsimp only [exec]
    split
    · exact moves_nil
    · exact iteInduction (fun _ => moves_nil) fun _ => moves_next fun _ => False.elim
  | expired id => exact moves_next fun _ h => h
  | fail id detail observed =>
    have hOwn : ∀ other, (PoseOp.fail id detail observed).Of other → id = other := fun _ h => h
    exact moves_close hOwn _ _ _
  | advance =>
    dsimp only [exec]
    split
    · exact moves_nil
    · exact moves_next fun _ => False.elim
  | inspect id change =>
    dsimp only [exec]
    exact iteInduction (fun _ => moves_nil) fun _ => moves_next fun _ h => h
  | check id change =>
    dsimp only [exec]
    split
    · exact moves_next fun _ h => h
    · split
      · exact moves_next fun _ _ => trivial
      · exact iteInduction (fun _ => moves_next fun _ h => h) fun _ => moves_next fun _ h => h
  | publish id s => exact moves_publish normalizedYaw env id s
  | lookup =>
    dsimp only [exec]
    split
    · exact moves_nil
    · exact moves_next fun _ => False.elim
  | confirm pose =>
    dsimp only [exec]
    split
    · exact moves_nil
    · exact iteInduction (fun _ => moves_nil) fun _ => moves_next fun _ => False.elim
  | observe id pose =>
    dsimp only [exec]
    split
    · exact moves_next fun _ h => h
    · refine ⟨.inl rfl, ⟨[.agreed id pose env.snapshot], rfl, fun e hMem => ?_⟩, fun other hOp =>
        ⟨⟨fun _ _ => rfl, fun _ => ⟨rfl, rfl, rfl⟩⟩, fun next hMem => ?_⟩⟩
      · cases List.mem_singleton.mp hMem
      · rw [List.mem_singleton.mp hMem]
        exact hOp
  | startClear id pose => exact moves_startClear normalizedYaw env id pose
  | call id costmap =>
    dsimp only [exec]
    split
    · exact moves_next fun _ h => h
    · refine ⟨.inl rfl, ⟨[.clearRequested id costmap], rfl, fun e hMem => ?_⟩, fun other _ =>
        ⟨⟨fun _ _ => rfl, fun _ => ⟨rfl, rfl, rfl⟩⟩, fun _ hMem => (List.not_mem_nil hMem).elim⟩⟩
      cases List.mem_singleton.mp hMem
  | finish id costmap error => exact moves_finish normalizedYaw env id costmap error
  | verify id observed =>
    dsimp only [exec]
    split
    · exact moves_next fun _ h => h
    · exact moves_next fun _ h => h
  | complete id observed =>
    have hOwn : ∀ other, (PoseOp.complete id observed).Of other → id = other := fun _ h => h
    exact moves_close hOwn _ _ _
  | report r =>
    exact ⟨.inl rfl, ⟨[], rfl, fun _ => List.not_mem_nil⟩, fun _ _ =>
      ⟨⟨fun _ _ => rfl, fun _ => ⟨rfl, rfl, rfl⟩⟩, fun _ hMem => (List.not_mem_nil hMem).elim⟩⟩

end

end PoseNode

/-! ## The web thread -/

/-- The intents hold a CLEAR_STOP. -/
def Clears (intents : List Intent) : Prop := ∃ i ∈ intents, i.clears = true

/-- What the web thread has established: a CLEAR_STOP that it carries is alone, and no transaction
was pending when it was let through. -/
def WebOp.Ok (node : PoseNode) : WebOp → Prop
  | guardStop action result => Clears result.intents →
    actionIs "clear_stop" action = true ∧ result.accepted = true ∧
      ∃ e, result.intents = [.control e]
  | guardMap _ result => Clears result.intents →
    node.pending = none ∧ ∃ e, result.intents = [.control e]
  | publish intents _ => Clears intents → node.pending = none ∧ ∃ e, intents = [.control e]
  | report r _ => r.shown.state ≠ .applied
  | request .. | decide .. | finish _ => True

theorem clears_nil : ¬ Clears [] := fun ⟨_, hMem, _⟩ => List.not_mem_nil hMem

/-- The operations of the executor begin no transaction. -/
theorem WebOp.Ok.mono {node next : PoseNode} {op : WebOp} (h : op.Ok node)
    (hPending : next.pending = node.pending ∨ next.pending = none) : op.Ok next := by
  have hNone : node.pending = none → next.pending = none := by
    intro hNode
    rcases hPending with hSame | hEnded
    · rw [hSame, hNode]
    · exact hEnded
  cases op with
  | guardStop action result => exact h
  | guardMap action result => exact fun hClears => (h hClears).imp_left hNone
  | publish intents result => exact fun hClears => (h hClears).imp_left hNone
  | report r result => exact h
  | request | decide | finish _ => trivial

namespace PoseNode

/-- An operation of the web thread keeps the invariant, leaves an operation that is established, and
sends a CLEAR_STOP only while no transaction is pending. -/
structure WebGood (normalizedYaw : ℚ → ℚ) (node : PoseNode) (result : PoseNode × Option WebOp) :
    Prop where
  keeps : node.Extends result.1
  sound : Sound normalizedYaw result.1
  next : ∀ op, result.2 = some op → op.Ok result.1
  sent : ∃ added, result.1.trace = added ++ node.trace ∧
    ∀ e, .sent e ∈ added → e.event = .clearStop → node.pending = none

section

variable {normalizedYaw : ℚ → ℚ} {node : PoseNode}

theorem webGood_stay (h : Sound normalizedYaw node) {next : Option WebOp}
    (hNext : ∀ op, next = some op → op.Ok node) : WebGood normalizedYaw node (node, next) :=
  ⟨.refl node, h, hNext, [], rfl, fun _ hMem => (List.not_mem_nil hMem).elim⟩

theorem webGood_next (h : Sound normalizedYaw node) {op : WebOp} (hOp : op.Ok node) :
    WebGood normalizedYaw node (node, some op) :=
  webGood_stay h fun _ hSome => Option.some.inj hSome ▸ hOp

/-- A transaction begins. -/
theorem sound_accept (h : Sound normalizedYaw node) (record : PoseRecord)
    (hPhase : record.phase = .waitingStop) :
    node.Extends { node.setRecord (node.requestId + 1) record with
        requestId := node.requestId + 1
        pending := some (node.requestId + 1)
        history := .accepted (node.requestId + 1) record :: node.history } ∧
      Sound normalizedYaw { node.setRecord (node.requestId + 1) record with
        requestId := node.requestId + 1
        pending := some (node.requestId + 1)
        history := .accepted (node.requestId + 1) record :: node.history } := by
  have hOld : ∀ id, node.Known id → id ≤ node.requestId :=
    fun id ⟨first, hMem⟩ => (h.accepted id first hMem).1
  have hOther : ∀ id, node.Known id →
      (node.setRecord (node.requestId + 1) record).records id = node.records id :=
    fun id hKnown => Function.update_of_ne (Nat.ne_of_lt (Nat.lt_succ_of_le (hOld id hKnown))) ..
  have hAt : (node.setRecord (node.requestId + 1) record).records (node.requestId + 1) = record :=
    Function.update_self ..
  have hKnown : ∀ id, node.Known id → ∃ first : PoseRecord, PoseChange.accepted id first ∈
      PoseChange.accepted (node.requestId + 1) record :: node.history :=
    fun id hBefore => hBefore.imp fun _ hMem => List.mem_cons_of_mem _ hMem
  refine ⟨⟨fun _ hMem => hMem, fun _ hMem => List.mem_cons_of_mem _ hMem, fun id hBefore => ?_⟩,
    ?_, ?_, ?_, h.once, ?_, ?_, ?_, ?_, h.inFlight, h.cleared, ?_⟩
  · dsimp only
    rw [hOther id hBefore]
    exact ⟨rfl, rfl⟩
  · rintro _ ⟨⟩
    exact ⟨record, List.mem_cons_self ..⟩
  · intro id first hMem
    rcases List.mem_cons.mp hMem with hNew | hBefore
    · cases hNew
      dsimp only
      rw [hAt]
      exact ⟨Nat.le_refl _, rfl, rfl⟩
    · dsimp only
      rw [hOther id ⟨first, hBefore⟩]
      obtain ⟨hLe, hFields⟩ := h.accepted id first hBefore
      exact ⟨Nat.le_succ_of_le hLe, hFields⟩
  · intro id hUnposed
    dsimp only at hUnposed
    by_cases hSame : id = node.requestId + 1
    · exact h.unposed id (Or.inr (by omega))
    · rw [show (node.setRecord (node.requestId + 1) record).records id = node.records id from
        Function.update_of_ne hSame ..] at hUnposed
      exact h.unposed id (hUnposed.imp_right fun hLate => by omega)
  · intro id s hMem
    obtain ⟨hBefore, hSafe⟩ := h.safe id s hMem
    dsimp only
    rw [hOther id hBefore]
    exact ⟨hKnown id hBefore, hSafe⟩
  · intro id pose s hMem
    obtain ⟨hBefore, hAgreed⟩ := h.agreed id pose s hMem
    dsimp only
    rw [hOther id hBefore]
    exact ⟨hKnown id hBefore, hAgreed⟩
  · intro id hClearing
    dsimp only at hClearing ⊢
    by_cases hSame : id = node.requestId + 1
    · subst hSame
      rw [hAt, hPhase] at hClearing
      cases hClearing
    · rw [show (node.setRecord (node.requestId + 1) record).records id = node.records id from
        Function.update_of_ne hSame ..] at hClearing ⊢
      exact h.clearing id hClearing
  · intro id outcome hMem hState
    rcases List.mem_cons.mp hMem with hNew | hBefore
    · cases hNew
    · obtain ⟨hSupported, hStatus⟩ := h.applied id outcome hBefore hState
      obtain ⟨pose, s, hAgreed⟩ := hSupported.1
      dsimp only
      rw [hOther id (h.agreed id pose s hAgreed).1]
      exact ⟨hSupported, hStatus⟩
  · exact fun r hShown hState =>
      (h.shown r hShown hState).imp fun _ hMem => List.mem_cons_of_mem _ hMem

theorem webGood_publish (h : Sound normalizedYaw node) (t : PyText) (env : PoseEnv)
    {intents : List Intent} {result : GatewayResult}
    (hOp : (WebOp.publish intents result).Ok node) :
    WebGood normalizedYaw node (node.webExec t env (.publish intents result)) := by
  cases intents with
  | nil => exact webGood_next h trivial
  | cons intent rest =>
    have hRest : (WebOp.publish rest result).Ok node := by
      rintro ⟨i, hMem, hClears⟩
      obtain ⟨hPending, e, hSame⟩ := hOp ⟨i, List.mem_cons_of_mem _ hMem, hClears⟩
      rw [(List.cons.inj hSame).2] at hMem
      exact (List.not_mem_nil hMem).elim
    cases intent with
    | control event =>
      have hLogged : Sound normalizedYaw (node.log (.sent event)) :=
        h.log (fun _ => rfl) (fun _ _ _ hSame => by cases hSame) fun _ _ hSame => by cases hSame
      refine ⟨extends_log node _, hLogged, ?_, [.sent event], rfl, ?_⟩
      · rintro _ ⟨⟩
        exact hRest
      · intro e hMem hClears
        cases List.mem_singleton.mp hMem
        exact (hOp ⟨_, List.mem_cons_self .., decide_eq_true hClears⟩).1
    | initialPose x y yaw frame => exact webGood_next h trivial
    | modeRequest | mapRequest | configRequest | recordingRequest => exact webGood_next h hRest
    | clearCostmaps | obstacleProcessing | autonomyTuning | saveSpeedProfile
    | deleteSpeedProfile | saveSemantics => exact webGood_next h trivial

theorem webGood_decide (h : Sound normalizedYaw node) (t : PyText) (env : PoseEnv)
    (intent : PoseIntent) (role : Role) (status : PoseStatus) (reason : Option String) :
    WebGood normalizedYaw node (node.webExec t env (.decide intent role status reason)) := by
  cases reason with
  | some reason =>
    refine ⟨⟨fun _ hMem => hMem, fun _ hMem => List.mem_cons_of_mem _ hMem, fun _ _ =>
      ⟨rfl, rfl⟩⟩, sound_change h (fun _ _ hSame => by cases hSame)
      (fun _ _ hSame => by cases hSame), ?_, [], rfl, fun _ hMem => (List.not_mem_nil hMem).elim⟩
    rintro _ ⟨⟩
    exact nofun
  | none =>
    dsimp only [webExec]
    refine iteInduction (fun _ => webGood_next h trivial) fun _ => ?_
    obtain ⟨hExtends, hSound⟩ := sound_accept h
      { deadline := env.now + initialPoseStopTimeoutSec, status, intent } rfl
    refine ⟨hExtends, hSound, ?_, [], rfl, fun _ hMem => (List.not_mem_nil hMem).elim⟩
    rintro _ ⟨⟩
    exact nofun

/-- Every operation of the web thread keeps the invariant. -/
theorem webGood_exec (h : Sound normalizedYaw node) (t : PyText) (env : PoseEnv) {op : WebOp}
    (hOp : op.Ok node) : WebGood normalizedYaw node (node.webExec t env op) := by
  cases op with
  | guardStop action result =>
    refine webGood_next h ?_
    intro hClears
    split at hClears
    · exact absurd hClears clears_nil
    · rename_i hGuard
      rw [if_neg hGuard]
      obtain ⟨hAction, hAccepted, hAlone⟩ := hOp hClears
      rw [hAction, hAccepted] at hGuard
      refine ⟨?_, hAlone⟩
      cases hPending : node.pending with
      | none => rfl
      | some id => rw [hPending] at hGuard; exact absurd rfl hGuard
  | guardMap action result =>
    dsimp only [webExec]
    split
    · exact webGood_next h fun hClears => absurd hClears clears_nil
    · exact webGood_next h hOp
  | publish intents result => exact webGood_publish h t env hOp
  | request intent role => exact webGood_next h trivial
  | decide intent role status reason => exact webGood_decide h t env intent role status reason
  | report r result =>
    refine ⟨⟨fun _ hMem => hMem, fun _ hMem => hMem, fun _ _ => ⟨rfl, rfl⟩⟩,
      sound_report h fun hApplied => absurd hApplied hOp, ?_, [], rfl,
      fun _ hMem => (List.not_mem_nil hMem).elim⟩
    rintro _ ⟨⟩
    trivial
  | finish result => exact webGood_stay h fun _ hSome => by cases hSome

end

end PoseNode

/-! ## Runs -/

namespace PoseSystem

open PoseNode

/-- The invariant of the node and of everything that its threads have still to do. -/
structure Sound (normalizedYaw : ℚ → ℚ) (s : PoseSystem) : Prop where
  node : s.node.Sound normalizedYaw
  threads : AllOps (PoseOp.Ok normalizedYaw s.node) s.threads
  web : ∀ op, s.web = some op → op.Ok s.node

/-- What a step adds to the trace; a CLEAR_STOP leaves the node only while nothing is pending. -/
def Sends (s next : PoseSystem) : Prop :=
  ∃ added, next.node.trace = added ++ s.node.trace ∧
    ∀ e, .sent e ∈ added → e.event = .clearStop → s.node.pending = none

section

variable {t : PyText} {normalizedYaw : ℚ → ℚ} {s : PoseSystem}

theorem sound_start (uuidFactory : ℕ → String) :
    (start uuidFactory).Sound normalizedYaw := by
  have hNone : ∀ {α : Type} {a : α}, a ∉ ([] : List α) := List.not_mem_nil
  have hNode : PoseNode.Sound normalizedYaw {} := by
    refine ⟨fun _ hSome => ?_, fun _ _ hMem => absurd hMem hNone, fun _ _ => rfl,
      fun _ => Nat.zero_le _, fun _ _ hMem => absurd hMem hNone,
      fun _ _ _ hMem => absurd hMem hNone, fun _ hClearing => ?_,
      fun _ _ hMem => absurd hMem hNone, fun _ _ hMem => absurd hMem hNone,
      fun _ _ hMem => absurd hMem hNone, fun _ hSome => ?_⟩
    · cases hSome
    · cases hClearing
    · cases hSome
  exact ⟨hNode, allOps_nil, fun _ hSome => by cases hSome⟩

theorem sends_refl {next : PoseSystem} (h : next.node.trace = s.node.trace) : Sends s next :=
  ⟨[], h, fun _ hMem => (List.not_mem_nil hMem).elim⟩

/-- The gateway is called. -/
theorem sound_enter (h : s.Sound normalizedYaw) (call : GatewayCall) :
    (s.enter t call).Sound normalizedYaw ∧ (s.enter t call).node = s.node := by
  unfold enter
  cases hOutcome : call.outcome t s.gateway with
  | error e => exact ⟨h, rfl⟩
  | ok answer =>
    obtain ⟨result, gateway⟩ := answer
    cases call with
    | handle conn action =>
      refine ⟨⟨h.node, h.threads, ?_⟩, rfl⟩
      rintro _ ⟨⟩
      exact OperatorGateway.handle_clears hOutcome
    | onDisconnect conn =>
      refine ⟨⟨h.node, h.threads, ?_⟩, rfl⟩
      rintro _ ⟨⟩
      rintro ⟨i, hMem, hClears⟩
      have hSilent := OperatorGateway.silent_onDisconnect result gateway hOutcome i hMem
      rw [hSilent] at hClears
      cases hClears

/-- A costmap clear is answered. -/
theorem sound_answered (h : s.Sound normalizedYaw) {request id : ℕ} {costmap : DynamicCostmap}
    (hRequest : s.node.inFlight[request]? = some (id, costmap)) (error : Option String) :
    (s.answered id costmap error (s.node.inFlight.eraseIdx request)).Sound normalizedYaw := by
  have hErased : { s.node with inFlight := s.node.inFlight.eraseIdx request }.Sound
      normalizedYaw := by
    obtain ⟨hPending, hAccepted, hUnposed, hOnce, hSafe, hAgreed, hClearing, hApplied, hInFlight,
      hCleared, hShown⟩ := h.node
    exact ⟨hPending, hAccepted, hUnposed, hOnce, hSafe, hAgreed, hClearing, hApplied,
      fun other requested hMem => hInFlight other requested (List.mem_of_mem_eraseIdx hMem),
      hCleared, hShown⟩
  have hRequested : .clearRequested id costmap ∈ s.node.trace :=
    h.node.inFlight id costmap (List.mem_of_getElem? hRequest)
  cases error with
  | none =>
    have hExtends : s.node.Extends ({ s.node with
        inFlight := s.node.inFlight.eraseIdx request }.log (.cleared id costmap)) :=
      ⟨fun _ hMem => List.mem_cons_of_mem _ hMem, fun _ hMem => hMem, fun _ _ => ⟨rfl, rfl⟩⟩
    refine ⟨hErased.log (fun _ => rfl) (fun _ _ _ hSame => by cases hSame) ?_, ?_, ?_⟩
    · rintro _ _ ⟨⟩
      exact hRequested
    · refine (h.threads.mono fun _ hOp => hExtends.ok hOp).spawn fun op hMem => ?_
      rw [List.mem_singleton.mp hMem]
      exact fun _ => List.mem_cons_self ..
    · exact fun op hWeb => (h.web op hWeb).mono (.inl rfl)
  | some error =>
    have hExtends : s.node.Extends { s.node with
        inFlight := s.node.inFlight.eraseIdx request } :=
      ⟨fun _ hMem => hMem, fun _ hMem => hMem, fun _ _ => ⟨rfl, rfl⟩⟩
    refine ⟨hErased, ?_, fun op hWeb => (h.web op hWeb).mono (.inl rfl)⟩
    refine (h.threads.mono fun _ hOp => hExtends.ok hOp).spawn fun op hMem => ?_
    rw [List.mem_singleton.mp hMem]
    exact nofun

/-- One step keeps the invariant. -/
theorem sound_step (h : s.Sound normalizedYaw) (input : PoseInput) :
    (s.step t normalizedYaw input).Sound normalizedYaw ∧
      Sends s (s.step t normalizedYaw input) := by
  cases input with
  | call call =>
    dsimp only [step]
    split
    · exact ⟨h, sends_refl rfl⟩
    · obtain ⟨hSound, hNode⟩ := sound_enter (t := t) h call
      exact ⟨hSound, sends_refl (by rw [hNode])⟩
  | web env =>
    dsimp only [step]
    split
    · exact ⟨h, sends_refl rfl⟩
    · rename_i op hWeb
      obtain ⟨hKeeps, hSound, hNext, hSent⟩ := webGood_exec h.node t env (h.web op hWeb)
      exact ⟨⟨hSound, h.threads.mono fun _ hOp => hKeeps.ok hOp, hNext⟩, hSent⟩
  | tick =>
    refine ⟨⟨h.node, h.threads.spawn fun op hMem => ?_, h.web⟩, sends_refl rfl⟩
    rcases List.mem_cons.mp hMem with rfl | hRest
    · trivial
    · rcases List.mem_pair.mp hRest with rfl | rfl
      · trivial
      · trivial
  | answer request error =>
    dsimp only [step]
    split
    · exact ⟨h, sends_refl rfl⟩
    · rename_i id costmap hRequest
      refine ⟨sound_answered h hRequest error, ?_⟩
      cases error with
      | none =>
        refine ⟨[.cleared id costmap], rfl, fun e hMem => ?_⟩
        cases List.mem_singleton.mp hMem
      | some error => exact sends_refl rfl
  | run thread env =>
    dsimp only [step]
    rcases runThread_cases (PoseNode.exec normalizedYaw) s.node s.threads thread env with
      hIdle | ⟨op, rest, hThread, hRun⟩
    · rw [hIdle]
      exact ⟨h, sends_refl rfl⟩
    · rw [hRun]
      obtain ⟨hKeeps, hSound, hOps⟩ := good_exec h.node env (h.threads.head hThread)
      obtain ⟨hPending, ⟨added, hTrace, hNone⟩, -⟩ := moves_exec normalizedYaw s.node env op
      refine ⟨⟨hSound, ?_, fun op hWeb => (h.web op hWeb).mono hPending⟩, added, hTrace,
        fun e hMem => absurd hMem (hNone e)⟩
      exact (h.threads.mono fun _ hOp => hKeeps.ok hOp).set hThread hOps

theorem sound_after (uuidFactory : ℕ → String) (past : List PoseInput) :
    (after (step t normalizedYaw) (start uuidFactory) past).Sound normalizedYaw :=
  after_invariant (sound_start uuidFactory) (fun _ input h => (sound_step h input).1) past

/-! ### Late callbacks -/

/-- What this thread has still to do belongs to one transaction. -/
def ThreadOf (id thread : ℕ) (s : PoseSystem) : Prop :=
  ∃ ops, s.threads[thread]? = some ops ∧ ∀ op ∈ ops, op.Of id

theorem threadOf_spawn {thread : ℕ} {threads : List (List PoseOp)} {ops : List PoseOp}
    (hThread : threads[thread]? = some ops) (new : List PoseOp) :
    (threads ++ [new])[thread]? = some ops := by
  rw [List.getElem?_append_left (List.getElem?_eq_some_iff.mp hThread).1]
  exact hThread

/-- It stays so, whatever happens. -/
theorem threadOf_step {id thread : ℕ} (h : ThreadOf id thread s) (input : PoseInput) :
    ThreadOf id thread (s.step t normalizedYaw input) := by
  obtain ⟨ops, hOps, hOf⟩ := h
  cases input with
  | call call =>
    dsimp only [step]
    refine iteInduction (fun _ => ⟨ops, hOps, hOf⟩) fun _ => ?_
    unfold enter
    split
    · exact ⟨ops, hOps, hOf⟩
    · split
      · exact ⟨ops, hOps, hOf⟩
      · exact ⟨ops, hOps, hOf⟩
  | web env =>
    dsimp only [step]
    split
    · exact ⟨ops, hOps, hOf⟩
    · exact ⟨ops, hOps, hOf⟩
  | tick => exact ⟨ops, threadOf_spawn hOps _, hOf⟩
  | answer request error =>
    dsimp only [step]
    split
    · exact ⟨ops, hOps, hOf⟩
    · cases error with
      | none => exact ⟨ops, threadOf_spawn hOps _, hOf⟩
      | some error => exact ⟨ops, threadOf_spawn hOps _, hOf⟩
  | run other env =>
    dsimp only [step]
    rcases runThread_cases (PoseNode.exec normalizedYaw) s.node s.threads other env with
      hIdle | ⟨op, rest, hThread, hRun⟩
    · rw [hIdle]
      exact ⟨ops, hOps, hOf⟩
    · rw [hRun]
      by_cases hSame : other = thread
      · subst hSame
        rw [hOps] at hThread
        cases hThread
        have hLength : other < s.threads.length := (List.getElem?_eq_some_iff.mp hOps).1
        refine ⟨_, List.getElem?_set_self hLength, fun next hMem => ?_⟩
        rcases List.mem_append.mp hMem with hNew | hRest
        · exact ((moves_exec normalizedYaw s.node env op).own id
            (hOf op (List.mem_cons_self ..))).2 next hNew
        · exact hOf next (List.mem_cons_of_mem _ hRest)
      · exact ⟨ops, by rw [← hOps]; exact List.getElem?_set_ne hSame, hOf⟩

/-- The callback of a costmap clear belongs to the transaction that requested it. -/
theorem threadOf_answer {id request : ℕ} {costmap : DynamicCostmap} {error : Option String}
    (hRequest : s.node.inFlight[request]? = some (id, costmap)) :
    ThreadOf id s.threads.length (s.step t normalizedYaw (.answer request error)) := by
  dsimp only [step]
  rw [hRequest]
  cases error with
  | none =>
    refine ⟨_, List.getElem?_concat_length, fun op hMem => ?_⟩
    rw [List.mem_singleton.mp hMem]
    rfl
  | some error =>
    refine ⟨_, List.getElem?_concat_length, fun op hMem => ?_⟩
    rw [List.mem_singleton.mp hMem]
    rfl

/-- A thread that belongs to one transaction leaves the others alone. -/
theorem leavesOthers_run {id thread : ℕ} (h : ThreadOf id thread s) (env : PoseEnv) :
    s.node.LeavesOthers id (s.step t normalizedYaw (.run thread env)).node := by
  obtain ⟨ops, hOps, hOf⟩ := h
  dsimp only [step]
  rcases runThread_cases (PoseNode.exec normalizedYaw) s.node s.threads thread env with
    hIdle | ⟨op, rest, hThread, hRun⟩
  · rw [hIdle]
    exact leavesOthers_refl id s.node
  · rw [hRun]
    rw [hOps] at hThread
    cases hThread
    exact ((moves_exec normalizedYaw s.node env op).own id (hOf op (List.mem_cons_self ..))).1

end

/-! ### The transaction -/

/-- The transaction with this status was accepted, its pose was confirmed while the robot was safe,
and both costmaps were cleared at its request. -/
def Applied (normalizedYaw : ℚ → ℚ) (s : PoseSystem) (status : PoseStatus) : Prop :=
  ∃ id record, .accepted id record ∈ s.node.history ∧ record.status = status ∧
    (∃ pose snapshot, .agreed id pose snapshot ∈ s.node.trace ∧
      record.agrees normalizedYaw pose = true ∧ PoseSafe status snapshot) ∧
    ∀ costmap, .clearRequested id costmap ∈ s.node.trace ∧ .cleared id costmap ∈ s.node.trace

theorem applied_of_ended {normalizedYaw : ℚ → ℚ} {s : PoseSystem} (h : s.Sound normalizedYaw)
    {id : ℕ} {outcome : PoseSection} (hEnded : .ended id outcome ∈ s.node.history)
    (hState : outcome.state = .applied) : s.Applied normalizedYaw outcome.status := by
  obtain ⟨⟨⟨pose, snapshot, hAgreed⟩, hCleared⟩, hStatus⟩ := h.node.applied id outcome hEnded hState
  obtain ⟨⟨record, hAccepted⟩, hAgrees, hSafe⟩ := h.node.agreed id pose snapshot hAgreed
  obtain ⟨-, hSameStatus, hIntent⟩ := h.node.accepted id record hAccepted
  refine ⟨id, record, hAccepted, by rw [hStatus, hSameStatus], ⟨pose, snapshot, hAgreed, ?_, ?_⟩,
    fun costmap => ⟨h.node.cleared id costmap (hCleared costmap), hCleared costmap⟩⟩
  · rw [← hAgrees]
    exact agrees_congr hIntent.symm pose
  · rw [hStatus]
    exact hSafe

/-- In every interleaving: the seed of an accepted transaction is published at most once, under a
snapshot that is safe for it; what is reported as applied was confirmed and cleared; the callbacks
of a transaction leave the others alone, and everything once it has ended; and a CLEAR_STOP leaves
the node only while no transaction is pending. `sound_after` is the invariant of the node, its
threads and the services; the clauses about one transaction hold because a thread carries the
number of its own. -/
theorem initial_pose_transaction (t : PyText) (normalizedYaw : ℚ → ℚ) (uuidFactory : ℕ → String)
    (past : List PoseInput) :
    let s := after (step t normalizedYaw) (start uuidFactory) past
    (∀ id, s.node.posed id ≤ 1) ∧
    (∀ id snapshot, .posed id snapshot ∈ s.node.trace →
      ∃ record, .accepted id record ∈ s.node.history ∧ PoseSafe record.status snapshot) ∧
    (∀ r, s.node.initialPose = some r → r.shown.state = .applied →
      s.Applied normalizedYaw r.shown.status) ∧
    (∀ request id costmap error, s.node.inFlight[request]? = some (id, costmap) →
      ∀ later env,
        let called := after (step t normalizedYaw)
          (s.step t normalizedYaw (.answer request error)) later
        called.node.LeavesOthers id
          (called.step t normalizedYaw (.run s.threads.length env)).node) ∧
    ∀ input, Sends s (s.step t normalizedYaw input) := by
  have hSound : (after (step t normalizedYaw) (start uuidFactory) past).Sound normalizedYaw :=
    sound_after uuidFactory past
  refine ⟨hSound.node.once, fun id snapshot hPosed => ?_, fun r hShown hState => ?_,
    fun request id costmap error hRequest later env => ?_, fun input => (sound_step hSound input).2⟩
  · obtain ⟨⟨record, hAccepted⟩, hSafe⟩ := hSound.node.safe id snapshot hPosed
    refine ⟨record, hAccepted, ?_⟩
    rw [← (hSound.node.accepted id record hAccepted).2.1]
    exact hSafe
  · obtain ⟨id, hEnded⟩ := hSound.node.shown r hShown hState
    exact applied_of_ended hSound hEnded hState
  · exact leavesOthers_run
      (after_invariant (threadOf_answer hRequest) (fun _ _ h => threadOf_step h _) later) env

end PoseSystem

end PreRunner.Paddock
