import PreRunner.Runs.History
import PreRunner.Paddock.GatewayDelivery

/-!
# The outcomes of a browser action

`handle` answers an action of any shape in one of seven ways, or raises the `OverflowError` of a
number that `float` or `int` cannot convert. All other properties of the gateway follow from these
cases: what a rejection leaves alone, who may cause intents, and which numbers are emitted.
-/

namespace PreRunner.Paddock

open Runs

/-! ## Conversions that overflow -/

/-- `float(action[key])` overflows: the value is an integer beyond the largest double. -/
def FloatOverflows (action : PyDict) (key : String) : Prop :=
  ∃ value : Int, action.get? key = some (.int value) ∧ 2 ^ 1024 - 2 ^ 970 ≤ |value|

/-- `int(action[key])` overflows: the value is an infinity. -/
def IntOverflows (action : PyDict) (key : String) : Prop :=
  ∃ negative, action.get? key = some (.float (.inf negative))

def Converts {α : Type} (value : Except PyError α) : Prop := ∃ result, value = .ok result

section

variable {t : PyText} {action : PyDict} {key : String}

theorem floatOfInt_overflow {n : Int} :
    PyValue.floatOfInt n = .error .overflowError ↔ 2 ^ 1024 - 2 ^ 970 ≤ |n| := by
  unfold PyValue.floatOfInt
  rw [← not_lt]
  split
  · rename_i hSmall
    exact ⟨nofun, fun hLarge => absurd hSmall hLarge⟩
  · rename_i hLarge
    exact ⟨fun _ => hLarge, fun _ => rfl⟩

theorem toFloat_overflow {value : PyValue} : value.toFloat t = .error .overflowError ↔
    ∃ n : Int, value = .int n ∧ 2 ^ 1024 - 2 ^ 970 ≤ |n| := by
  cases value with
  | int n =>
    refine floatOfInt_overflow.trans ⟨fun hLarge => ⟨n, rfl, hLarge⟩, ?_⟩
    rintro ⟨_, ⟨⟩, hLarge⟩
    exact hLarge
  | str text =>
    refine ⟨fun h => ?_, fun ⟨_, h, _⟩ => by cases h⟩
    cases t.floatOfStr_error text _ h
  | none => exact ⟨nofun, fun ⟨_, h, _⟩ => by cases h⟩
  | bool value => exact ⟨nofun, fun ⟨_, h, _⟩ => by cases h⟩
  | float value => exact ⟨nofun, fun ⟨_, h, _⟩ => by cases h⟩
  | list items => exact ⟨nofun, fun ⟨_, h, _⟩ => by cases h⟩
  | dict items => exact ⟨nofun, fun ⟨_, h, _⟩ => by cases h⟩

theorem toInt_overflow {value : PyValue} : value.toInt t = .error .overflowError ↔
    ∃ negative, value = .float (.inf negative) := by
  cases value with
  | float value =>
    cases value with
    | finite q => exact ⟨nofun, fun ⟨_, h⟩ => by cases h⟩
    | inf negative => exact ⟨fun _ => ⟨negative, rfl⟩, fun _ => rfl⟩
    | nan => exact ⟨nofun, fun ⟨_, h⟩ => by cases h⟩
  | str text =>
    refine ⟨fun h => ?_, fun ⟨_, h⟩ => by cases h⟩
    cases t.intOfStr_error text _ h
  | none => exact ⟨nofun, fun ⟨_, h⟩ => by cases h⟩
  | bool value => exact ⟨nofun, fun ⟨_, h⟩ => by cases h⟩
  | int value => exact ⟨nofun, fun ⟨_, h⟩ => by cases h⟩
  | list items => exact ⟨nofun, fun ⟨_, h⟩ => by cases h⟩
  | dict items => exact ⟨nofun, fun ⟨_, h⟩ => by cases h⟩

theorem floatAt_overflow :
    action.floatAt t key = .error .overflowError ↔ FloatOverflows action key := by
  unfold PyDict.floatAt PyDict.item FloatOverflows
  cases action.get? key with
  | none => exact ⟨nofun, fun ⟨_, h, _⟩ => by cases h⟩
  | some value =>
    exact toFloat_overflow.trans (exists_congr fun n => and_congr_left' Option.some_inj.symm)

theorem floatOr0_overflow :
    action.floatOr0 t key = .error .overflowError ↔ FloatOverflows action key := by
  unfold PyDict.floatOr0 FloatOverflows
  cases action.get? key with
  | none => exact ⟨nofun, fun ⟨_, h, _⟩ => by cases h⟩
  | some value =>
    exact toFloat_overflow.trans (exists_congr fun n => and_congr_left' Option.some_inj.symm)

theorem intAt_overflow :
    action.intAt t key = .error .overflowError ↔ IntOverflows action key := by
  unfold PyDict.intAt PyDict.item IntOverflows
  cases action.get? key with
  | none => exact ⟨nofun, fun ⟨_, h⟩ => by cases h⟩
  | some value => exact toInt_overflow.trans (exists_congr fun _ => Option.some_inj.symm)

/-- Conversions in a row overflow at the first one that fails. -/
theorem bind_overflow {α β : Type} {first : Except PyError α} {next : α → Except PyError β} :
    first >>= next = .error .overflowError ↔ first = .error .overflowError ∨
      ∃ a, first = .ok a ∧ next a = .error .overflowError := by
  cases first with
  | error error =>
    refine ⟨fun h => Or.inl (congrArg Except.error (Except.error.inj h)), ?_⟩
    rintro (h | ⟨_, h, _⟩)
    · exact congrArg Except.error (Except.error.inj h)
    · cases h
  | ok a =>
    refine ⟨fun h => Or.inr ⟨a, rfl, h⟩, ?_⟩
    rintro (h | ⟨_, ⟨⟩, h⟩)
    · cases h
    · exact h

theorem pair_overflow {α β : Type} {first : Except PyError α} {second : Except PyError β} :
    (do return (← first, ← second)) = (.error .overflowError : Except PyError (α × β)) ↔
      first = .error .overflowError ∨ (Converts first ∧ second = .error .overflowError) := by
  rw [bind_overflow]
  refine or_congr_right ⟨?_, ?_⟩
  · rintro ⟨a, hFirst, hSecond⟩
    rcases bind_overflow.mp hSecond with h | ⟨b, -, h⟩
    · exact ⟨⟨a, hFirst⟩, h⟩
    · cases h
  · rintro ⟨⟨a, hFirst⟩, hSecond⟩
    exact ⟨a, hFirst, bind_overflow.mpr (Or.inl hSecond)⟩

theorem triple_overflow {α β γ : Type} {first : Except PyError α} {second : Except PyError β}
    {third : Except PyError γ} :
    (do return (← first, ← second, ← third)) =
        (.error .overflowError : Except PyError (α × β × γ)) ↔
      first = .error .overflowError ∨ (Converts first ∧ (second = .error .overflowError ∨
        (Converts second ∧ third = .error .overflowError))) := by
  rw [bind_overflow]
  refine or_congr_right ⟨?_, ?_⟩
  · rintro ⟨a, hFirst, hRest⟩
    rcases bind_overflow.mp hRest with h | ⟨b, hSecond, hThird⟩
    · exact ⟨⟨a, hFirst⟩, Or.inl h⟩
    · rcases bind_overflow.mp hThird with h | ⟨c, -, h⟩
      · exact ⟨⟨a, hFirst⟩, Or.inr ⟨⟨b, hSecond⟩, h⟩⟩
      · cases h
  · rintro ⟨⟨a, hFirst⟩, h | ⟨⟨b, hSecond⟩, h⟩⟩
    · exact ⟨a, hFirst, bind_overflow.mpr (Or.inl h)⟩
    · exact ⟨a, hFirst, bind_overflow.mpr (Or.inr ⟨b, hSecond, bind_overflow.mpr (Or.inl h)⟩)⟩

end

/-! ## When an action raises -/

/-- The numbers of a goal or an initial pose overflow. -/
def PoseOverflows (t : PyText) (action : PyDict) : Prop :=
  FloatOverflows action "x" ∨
    (Converts (action.floatAt t "x") ∧ (FloatOverflows action "y" ∨
      (Converts (action.floatAt t "y") ∧ FloatOverflows action "yaw")))

/-- The numbers of a manual sample overflow. -/
def ManualOverflows (t : PyText) (action : PyDict) : Prop :=
  FloatOverflows action "speed_mps" ∨
    (Converts (action.floatAt t "speed_mps") ∧ FloatOverflows action "steering")

/-- The numbers of a configuration request overflow. -/
def ConfigOverflows (t : PyText) (action : PyDict) : Prop :=
  FloatOverflows action "value" ∨
    (Converts (action.floatAt t "value") ∧ IntOverflows action "expected_revision")

section

variable {t : PyText} {action : PyDict}

theorem pose_overflow :
    (do return (← action.floatAt t "x", ← action.floatAt t "y", ← action.floatOr0 t "yaw")) =
      (.error .overflowError : Except PyError (PyFloat × PyFloat × PyFloat)) ↔
    PoseOverflows t action := by
  rw [triple_overflow, floatAt_overflow, floatAt_overflow, floatOr0_overflow]
  rfl

theorem manual_overflow :
    (do return (← action.floatAt t "speed_mps", ← action.floatAt t "steering")) =
      (.error .overflowError : Except PyError (PyFloat × PyFloat)) ↔ ManualOverflows t action := by
  rw [pair_overflow, floatAt_overflow, floatAt_overflow]
  rfl

theorem config_overflow :
    (do return (← action.floatAt t "value", ← action.intAt t "expected_revision")) =
      (.error .overflowError : Except PyError (PyFloat × Int)) ↔ ConfigOverflows t action := by
  rw [pair_overflow, floatAt_overflow, intAt_overflow]
  rfl

end

/-- The handler of this name meets a number too large to convert. -/
def HandlerOverflows (t : PyText) (action : PyDict) (name : String) : Prop :=
  (name = "manual" ∧ action.flag "active" = true ∧ ManualOverflows t action) ∨
  (name = "set_config" ∧ action.text t "field" "" = "manual_max_speed_mps" ∧
    ConfigOverflows t action) ∨
  ((name = "select_goal" ∨ name = "set_initial_pose") ∧ PoseOverflows t action)

/-- An action of the owner whose handler meets such a number. -/
def Overflows (t : PyText) (g : OperatorGateway) (conn : String) (value : PyValue) : Prop :=
  ∃ action name, value = .dict action ∧ PyDict.get? action "action" = some (.str name) ∧
    g.ownerConn = some conn ∧ HandlerOverflows t action name

/-! ## The cases of an outcome -/

/-- Every number of an intent is finite. -/
def Intent.Finite : Intent → Prop
  | control e => e.goalX.isfinite = true ∧ e.goalY.isfinite = true ∧ e.goalYaw.isfinite = true ∧
    e.manualSpeedMps.isfinite = true ∧ e.manualSteering.isfinite = true
  | configRequest _ _ _ value => value.isfinite = true
  | initialPose x y yaw _ => x.isfinite = true ∧ y.isfinite = true ∧ yaw.isfinite = true
  | _ => True

/-- The changes of an event that keep its address and make its numbers finite. -/
structure Fits (fields : ControlEventIntent → ControlEventIntent) : Prop where
  sequence : ∀ e, (fields e).sequence = e.sequence
  finite : ∀ e, (Intent.control e).Finite → (Intent.control (fields e)).Finite

theorem fits_id : Fits id := ⟨fun _ => rfl, fun _ h => h⟩

namespace OperatorGateway

/-- The ways in which `handle` ends; `Raises` is the condition for the exception, and `Clears` for
a CLEAR_STOP. -/
inductive HandleCase (g : OperatorGateway) (conn : String) (Raises Clears : Prop) :
    Outcome → Prop
  | rejects {result : GatewayResult} (hRejected : result.accepted = false)
      (hSilent : result.intents = []) : HandleCase g conn Raises Clears (.ok (result, g))
  | asks {reason : String} {intents : List Intent} (hOwner : g.ownerConn = some conn)
      (hControl : intents.filterMap Intent.control? = []) (hFinite : ∀ i ∈ intents, i.Finite) :
      HandleCase g conn Raises Clears (g.accept reason intents)
  | sends {reason : String} {event : ControlEvent}
      {fields : ControlEventIntent → ControlEventIntent} (runPressed manualActive : Bool)
      (hOwner : g.ownerConn = some conn) (hFits : Fits fields)
      (hClear : event = .clearStop → Clears) :
      HandleCase g conn Raises Clears
        (acceptControl { g with runPressed, manualActive } reason event fields)
  | poses {reason frame : String} {x y yaw : PyFloat} (hOwner : g.ownerConn = some conn)
      (hFinite : x.isfinite = true ∧ y.isfinite = true ∧ yaw.isfinite = true) :
      HandleCase g conn Raises Clears
        ((control { g with runPressed := false, manualActive := false } .stop).2.accept reason
          [.control (control { g with runPressed := false, manualActive := false } .stop).1,
            .initialPose x y yaw frame])
  | acquires (hFree : g.ownerConn = none) : HandleCase g conn Raises Clears (g.doAcquire conn)
  | takesOver {owner : String} (hOwner : g.ownerConn = some owner) (hOther : owner ≠ conn) :
      HandleCase g conn Raises Clears (g.doTakeover conn)
  | releases (hOwner : g.ownerConn = some conn) :
      HandleCase g conn Raises Clears (.ok (g.onDisconnect conn))
  | raises (hRaises : Raises) : HandleCase g conn Raises Clears (.error .overflowError)

theorem HandleCase.imp {g : OperatorGateway} {conn : String} {Raises Raises' Clears Clears' : Prop}
    {outcome : Outcome} (hRaise : Raises → Raises') (hClear : Clears → Clears')
    (hCase : HandleCase g conn Raises Clears outcome) :
    HandleCase g conn Raises' Clears' outcome := by
  cases hCase with
  | rejects hRejected hSilent => exact .rejects hRejected hSilent
  | asks hOwner hControl hFinite => exact .asks hOwner hControl hFinite
  | sends runPressed manualActive hOwner hFits hEvent =>
    exact .sends runPressed manualActive hOwner hFits fun h => hClear (hEvent h)
  | poses hOwner hFinite => exact .poses hOwner hFinite
  | acquires hFree => exact .acquires hFree
  | takesOver hOwner hOther => exact .takesOver hOwner hOther
  | releases hOwner => exact .releases hOwner
  | raises hRaises => exact .raises (hRaise hRaises)

section

variable {g : OperatorGateway} {conn : String} {Raises Clears : Prop}

theorem case_reject (reason : String) :
    HandleCase g conn Raises Clears (g.answer (g.reject conn reason)) := .rejects rfl rfl

theorem case_requireOwner {handler : Outcome}
    (h : g.ownerConn = some conn → HandleCase g conn Raises Clears handler) :
    HandleCase g conn Raises Clears (g.requireOwner conn handler) := by
  unfold requireOwner
  split
  · exact case_reject _
  · rename_i hOwner
    exact h (not_not.mp hOwner)

theorem case_requireName {t : PyText} {action : PyDict} {missing : String}
    {handler : String → Outcome} (h : ∀ name, HandleCase g conn Raises Clears (handler name)) :
    HandleCase g conn Raises Clears (g.requireName t conn action missing handler) := by
  unfold requireName
  exact iteInduction (fun _ => case_reject _) fun _ => h _

theorem case_requireValues {action : PyDict} {reason : String} {handler : PyDict → Outcome}
    (h : ∀ values, HandleCase g conn Raises Clears (handler values)) :
    HandleCase g conn Raises Clears (g.requireValues conn action reason handler) := by
  unfold requireValues
  split
  · exact h _
  · exact case_reject _

theorem case_catching {α : Type} {reason : String} {value : Except PyError α}
    {handler : α → Outcome} (hRaises : value = .error .overflowError → Raises)
    (h : ∀ value, HandleCase g conn Raises Clears (handler value)) :
    HandleCase g conn Raises Clears (g.catching conn reason value handler) := by
  unfold catching
  split
  · exact h _
  · exact .raises (hRaises rfl)
  · exact case_reject _

/-- The owner's action that asks for nothing. -/
theorem case_idle {reason : String} (hOwner : g.ownerConn = some conn) :
    HandleCase g conn Raises Clears (g.accept reason []) :=
  .asks hOwner rfl fun _ hMem => (List.not_mem_nil hMem).elim

/-- The owner's action that asks for one thing other than a control event. -/
theorem case_ask {reason : String} {intent : Intent} (hOwner : g.ownerConn = some conn)
    (hControl : intent.control? = none) (hFinite : intent.Finite) :
    HandleCase g conn Raises Clears (g.accept reason [intent]) := by
  refine .asks hOwner (by rw [List.filterMap_cons_none hControl]; rfl) fun i hMem => ?_
  rwa [List.mem_singleton.mp hMem]

/-- The event of the owner that leaves its flags as they are. -/
theorem case_control {reason : String} {event : ControlEvent}
    {fields : ControlEventIntent → ControlEventIntent} (hOwner : g.ownerConn = some conn)
    (hFits : Fits fields) (hClear : event = .clearStop → Clears) :
    HandleCase g conn Raises Clears (g.acceptControl reason event fields) :=
  .sends g.runPressed g.manualActive hOwner hFits hClear

/-- A pose with finite numbers, or what `requirePose` answers instead. -/
theorem case_requirePose {t : PyText} {action : PyDict} {what : String}
    {handler : PyFloat → PyFloat → PyFloat → String → Outcome}
    (hRaises : PoseOverflows t action → Raises)
    (h : ∀ x y yaw frame, x.isfinite = true ∧ y.isfinite = true ∧ yaw.isfinite = true →
      HandleCase g conn Raises Clears (handler x y yaw frame)) :
    HandleCase g conn Raises Clears (requirePose t g conn action what handler) := by
  unfold requirePose
  refine case_catching (fun hError => hRaises (pose_overflow.mp hError)) fun ⟨x, y, yaw⟩ => ?_
  refine iteInduction (fun _ => case_reject _) fun hFinite =>
    iteInduction (fun _ => case_reject _) fun _ => h _ _ _ _ ?_
  simpa using hFinite

theorem case_doManual {t : PyText} {action : PyDict}
    (hRaises : g.ownerConn = some conn → action.flag "active" = true → ManualOverflows t action →
      Raises) : HandleCase g conn Raises Clears (g.doManual t conn action) := by
  refine case_requireOwner fun hOwner => iteInduction (fun _ => iteInduction (fun _ => ?_)
    fun _ => ?_) fun hActive => ?_
  · exact case_idle hOwner
  · exact .sends g.runPressed false hOwner fits_id nofun
  · refine case_catching (fun hError => hRaises hOwner (by simpa using hActive)
      (manual_overflow.mp hError)) fun ⟨speed, steering⟩ =>
      iteInduction (fun _ => case_reject _) fun hFinite => ?_
    refine .sends false true hOwner ⟨fun _ => rfl, fun e he => ?_⟩ nofun
    simp only [List.all_cons, List.all_nil, Bool.and_true, Bool.not_eq_false,
      Bool.and_eq_true] at hFinite
    exact ⟨he.1, he.2.1, he.2.2.1, hFinite⟩

theorem case_doSetConfig {t : PyText} {action : PyDict}
    (hRaises : g.ownerConn = some conn → action.text t "field" "" = "manual_max_speed_mps" →
      ConfigOverflows t action → Raises) :
    HandleCase g conn Raises Clears (g.doSetConfig t conn action) := by
  refine case_requireOwner fun hOwner => iteInduction (fun _ => case_reject _) fun hField => ?_
  refine case_catching (fun hError => hRaises hOwner (not_not.mp hField)
    (config_overflow.mp hError)) fun ⟨value, revision⟩ => ?_
  exact iteInduction (fun _ => case_reject _) fun hValid =>
    case_ask hOwner rfl (Bool.eq_true_of_not_eq_false (not_or.mp hValid).1)

theorem case_doRun (action : PyDict) : HandleCase g conn Raises Clears (g.doRun conn action) := by
  refine case_requireOwner fun hOwner => iteInduction (fun _ => ?_) fun _ =>
    iteInduction (fun _ => ?_) fun _ => iteInduction (fun _ => ?_) fun _ => ?_
  · exact .sends true g.manualActive hOwner fits_id nofun
  · exact case_control hOwner fits_id nofun
  · exact .sends false g.manualActive hOwner fits_id nofun
  · exact case_idle hOwner

theorem case_doAcquire : HandleCase g conn Raises Clears (g.doAcquire conn) := by
  by_cases hOwner : g.ownerConn = some conn
  · rw [doAcquire, if_pos hOwner]
    exact case_idle hOwner
  · cases hHolder : g.ownerConn with
    | none => exact .acquires hHolder
    | some owner =>
      rw [doAcquire, if_neg hOwner, if_pos (by rw [hHolder]; rfl)]
      exact .rejects rfl rfl

theorem case_doTakeover : HandleCase g conn Raises Clears (g.doTakeover conn) := by
  cases hHolder : g.ownerConn with
  | none =>
    have hOwner : g.ownerConn ≠ some conn := by rw [hHolder]; nofun
    rw [doTakeover, if_neg hOwner, if_pos hHolder]
    exact .acquires hHolder
  | some owner =>
    by_cases hOther : owner = conn
    · have hOwner : g.ownerConn = some conn := by rw [hHolder, hOther]
      rw [doTakeover, if_pos hOwner]
      exact case_idle hOwner
    · exact .takesOver hHolder hOther

theorem case_doRelease : HandleCase g conn Raises Clears (g.doRelease conn) := by
  unfold doRelease
  exact iteInduction (fun _ => case_reject _) fun hOwner => .releases (not_not.mp hOwner)

theorem case_doSelectMode (t : PyText) (action : PyDict) :
    HandleCase g conn Raises Clears (g.doSelectMode t conn action) := by
  refine case_requireOwner fun hOwner => ?_
  dsimp only
  split
  case h_4 => exact case_reject _
  all_goals exact case_ask hOwner rfl trivial

theorem case_doSetObstacleProcessing (t : PyText) (action : PyDict) :
    HandleCase g conn Raises Clears (g.doSetObstacleProcessing t conn action) := by
  refine case_requireOwner fun hOwner => iteInduction (fun _ => case_reject _) fun _ => ?_
  split
  · exact case_ask hOwner rfl trivial
  · exact case_reject _

theorem case_doSaveSemantics (t : PyText) (action : PyDict) :
    HandleCase g conn Raises Clears (g.doSaveSemantics t conn action) := by
  refine case_requireOwner fun hOwner => case_requireName fun name => ?_
  dsimp only
  split
  · refine iteInduction (fun _ => case_reject _) fun _ => ?_
    exact case_ask hOwner rfl trivial
  · exact case_reject _

theorem case_doSelectGoal {t : PyText} {action : PyDict}
    (hRaises : g.ownerConn = some conn → PoseOverflows t action → Raises) :
    HandleCase g conn Raises Clears (g.doSelectGoal t conn action) := by
  refine case_requireOwner fun hOwner => case_requirePose (hRaises hOwner)
    fun x y yaw frame hFinite => case_control hOwner ⟨fun _ => rfl, fun e he => ?_⟩ nofun
  exact ⟨hFinite.1, hFinite.2.1, hFinite.2.2, he.2.2.2⟩

theorem case_doSetInitialPose {t : PyText} {action : PyDict}
    (hRaises : g.ownerConn = some conn → PoseOverflows t action → Raises) :
    HandleCase g conn Raises Clears (g.doSetInitialPose t conn action) :=
  case_requireOwner fun hOwner => case_requirePose (hRaises hOwner)
    fun _ _ _ _ hFinite => .poses hOwner hFinite

theorem case_handler (t : PyText) (action : PyDict) {name : String} {outcome : Outcome}
    (h : handler t g conn action name = some outcome) :
    HandleCase g conn (g.ownerConn = some conn ∧ HandlerOverflows t action name)
      (name = "clear_stop") outcome := by
  unfold handler at h
  split at h <;> cases h
  · exact case_doAcquire
  · exact case_doTakeover
  · exact case_doRelease
  · exact case_requireOwner fun hOwner => case_control hOwner fits_id nofun
  · exact case_doRun action
  · exact case_requireOwner fun hOwner => .sends false false hOwner fits_id nofun
  · exact case_requireOwner fun hOwner => case_control hOwner fits_id fun _ => rfl
  · exact case_doManual fun hOwner hActive h => ⟨hOwner, Or.inl ⟨rfl, hActive, h⟩⟩
  · exact case_requireOwner fun hOwner => case_ask hOwner rfl trivial
  · exact case_doSetObstacleProcessing t action
  · exact case_requireOwner fun hOwner => case_requireValues fun _ => case_ask hOwner rfl trivial
  · exact case_requireOwner fun hOwner => case_requireValues fun _ => case_ask hOwner rfl trivial
  · exact case_requireOwner fun hOwner => case_requireName fun _ => case_requireValues fun _ =>
      case_ask hOwner rfl trivial
  · exact case_requireOwner fun hOwner => case_requireName fun _ => case_ask hOwner rfl trivial
  · exact case_doSetConfig fun hOwner hField h => ⟨hOwner, Or.inr (Or.inl ⟨rfl, hField, h⟩)⟩
  · exact case_requireOwner fun hOwner => case_ask hOwner rfl trivial
  · exact case_requireOwner fun hOwner => case_ask hOwner rfl trivial
  · exact case_requireOwner fun hOwner => case_requireName fun _ => case_ask hOwner rfl trivial
  · exact case_doSelectMode t action
  · exact case_requireOwner fun hOwner => case_ask hOwner rfl trivial
  · exact case_requireOwner fun hOwner => case_requireName fun _ => case_ask hOwner rfl trivial
  · exact case_requireOwner fun hOwner => case_requireName fun _ => case_ask hOwner rfl trivial
  · exact case_requireOwner fun hOwner => case_requireName fun _ => case_ask hOwner rfl trivial
  · exact case_doSaveSemantics t action
  · exact case_doSelectGoal fun hOwner h => ⟨hOwner, Or.inr (Or.inr ⟨Or.inl rfl, h⟩)⟩
  · exact case_doSetInitialPose fun hOwner h => ⟨hOwner, Or.inr (Or.inr ⟨Or.inr rfl, h⟩)⟩

/-- An action of any shape ends in one of the cases. -/
theorem handle_cases (t : PyText) (g : OperatorGateway) (conn : String) (value : PyValue) :
    HandleCase g conn (Overflows t g conn value)
      (∃ action, value = .dict action ∧ PyDict.get? action "action" = some (.str "clear_stop"))
      (handle t g conn value) := by
  unfold handle
  split
  · rename_i action
    dsimp only
    split
    · rename_i name hName
      cases hHandler : handler t g conn action name with
      | none => exact case_reject _
      | some outcome =>
        have hAction : PyDict.get? action "action" = some (.str name) := by
          cases hGet : PyDict.get? action "action" with
          | none => rw [hGet] at hName; cases hName
          | some value => rw [hGet] at hName; exact congrArg some hName
        exact (case_handler t action hHandler).imp
          (fun h => ⟨action, name, rfl, hAction, h.1, h.2⟩) fun hClear : name = "clear_stop" =>
            ⟨action, rfl, hClear ▸ hAction⟩
    · exact case_reject _
  · exact case_reject _

/-! ## The exception -/

theorem requireOwner_owner {handler : Outcome} (hOwner : g.ownerConn = some conn) :
    g.requireOwner conn handler = handler := if_neg (not_not.mpr hOwner)

theorem catching_overflow {α : Type} {reason : String} {value : Except PyError α}
    {handler : α → Outcome} (h : value = .error .overflowError) :
    g.catching conn reason value handler = .error .overflowError := by
  rw [h]
  rfl

theorem doManual_raises {t : PyText} {action : PyDict} (hOwner : g.ownerConn = some conn)
    (hActive : action.flag "active" = true) (h : ManualOverflows t action) :
    g.doManual t conn action = .error .overflowError := by
  rw [doManual, requireOwner_owner hOwner, if_neg (by rw [hActive]; nofun)]
  exact catching_overflow (manual_overflow.mpr h)

theorem doSetConfig_raises {t : PyText} {action : PyDict} (hOwner : g.ownerConn = some conn)
    (hField : action.text t "field" "" = "manual_max_speed_mps") (h : ConfigOverflows t action) :
    g.doSetConfig t conn action = .error .overflowError := by
  rw [doSetConfig, requireOwner_owner hOwner]
  dsimp only
  rw [if_neg (not_not.mpr hField)]
  exact catching_overflow (config_overflow.mpr h)

theorem requirePose_raises {t : PyText} {action : PyDict} {what : String}
    {handler : PyFloat → PyFloat → PyFloat → String → Outcome} (h : PoseOverflows t action) :
    requirePose t g conn action what handler = .error .overflowError :=
  catching_overflow (pose_overflow.mpr h)

theorem handler_raises {t : PyText} {action : PyDict} {name : String}
    (hOwner : g.ownerConn = some conn) (h : HandlerOverflows t action name) :
    handler t g conn action name = some (.error .overflowError) := by
  rcases h with ⟨rfl, hActive, h⟩ | ⟨rfl, hField, h⟩ | ⟨rfl | rfl, h⟩
  · exact congrArg some (doManual_raises hOwner hActive h)
  · exact congrArg some (doSetConfig_raises hOwner hField h)
  · exact congrArg some ((requireOwner_owner hOwner).trans (requirePose_raises h))
  · exact congrArg some ((requireOwner_owner hOwner).trans (requirePose_raises h))

theorem handle_raises {t : PyText} {value : PyValue} (h : Overflows t g conn value) :
    handle t g conn value = .error .overflowError := by
  obtain ⟨action, name, rfl, hName, hOwner, hOverflow⟩ := h
  rw [handle, hName]
  exact congrArg (Option.getD · _) (handler_raises hOwner hOverflow)

end

end OperatorGateway

/-! ## What the cases share -/

namespace OperatorGateway

/-- The control events of an outcome continue the numbers of the gateway. -/
def Numbers (g : OperatorGateway) (outcome : Outcome) : Prop :=
  ∀ result next, outcome = .ok (result, next) → ∃ count,
    (result.intents.filterMap Intent.control?).map (·.sequence) =
      List.range' (g.sequence + 1) count ∧ next.sequence = g.sequence + count

section

variable {g : OperatorGateway} {conn : String} {Raises Clears : Prop}

theorem numbers_none {result : GatewayResult}
    (h : result.intents.filterMap Intent.control? = []) : g.Numbers (.ok (result, g)) := by
  rintro _ _ ⟨⟩
  exact ⟨0, by rw [h]; rfl, rfl⟩

theorem numbers_acceptControl {g' : OperatorGateway} {reason : String} {event : ControlEvent}
    {fields : ControlEventIntent → ControlEventIntent} (hSame : g'.sequence = g.sequence)
    (hFields : ∀ e, (fields e).sequence = e.sequence) :
    g.Numbers (g'.acceptControl reason event fields) := by
  rintro _ _ ⟨⟩
  refine ⟨1, ?_, congrArg (· + 1) hSame⟩
  exact congrArg (fun n => [n]) ((hFields _).trans (congrArg (· + 1) hSame))

theorem numbers_onDisconnect (g : OperatorGateway) (conn : String) :
    g.Numbers (.ok (g.onDisconnect conn)) := by
  unfold onDisconnect
  split
  · exact numbers_none rfl
  · rintro _ _ ⟨⟩
    exact ⟨1, rfl, rfl⟩

theorem numbers_doTakeover {owner : String} (hOwner : g.ownerConn = some owner)
    (hOther : owner ≠ conn) : g.Numbers (g.doTakeover conn) := by
  have hSelf : g.ownerConn ≠ some conn := by
    rw [hOwner]
    exact fun h => hOther (Option.some.inj h)
  have hHeld : g.ownerConn ≠ none := by
    rw [hOwner]
    nofun
  rw [doTakeover, if_neg hSelf, if_neg hHeld]
  rintro _ _ ⟨⟩
  exact ⟨2, rfl, rfl⟩

theorem doAcquire_free (hFree : g.ownerConn = none) : g.doAcquire conn =
    acceptControl { g.owned conn with runPressed := false, manualActive := false }
      "control lease acquired" .leaseAcquired := by
  rw [doAcquire, if_neg (by rw [hFree]; nofun), if_neg (by rw [hFree]; nofun)]

theorem HandleCase.numbers {outcome : Outcome} (h : HandleCase g conn Raises Clears outcome) :
    g.Numbers outcome := by
  cases h with
  | rejects hRejected hSilent => exact numbers_none (by rw [hSilent]; rfl)
  | asks hOwner hControl hFinite => exact numbers_none hControl
  | sends runPressed manualActive hOwner hFits hClear =>
    exact numbers_acceptControl rfl hFits.sequence
  | poses hOwner hFinite =>
    rintro _ _ ⟨⟩
    exact ⟨1, rfl, rfl⟩
  | acquires hFree =>
    rw [doAcquire_free hFree]
    exact numbers_acceptControl rfl fun _ => rfl
  | takesOver hOwner hOther => exact numbers_doTakeover hOwner hOther
  | releases hOwner => exact numbers_onDisconnect g conn
  | raises hRaises => exact fun _ _ h => by cases h

end

end OperatorGateway

/-! ## Runs of the gateway -/

/-- A call of the gateway by the node. -/
inductive GatewayCall where
  | handle (conn : String) (action : PyValue)
  | onDisconnect (conn : String)

/-- The gateway and the control events it has emitted, oldest first. -/
structure GatewayRun where
  gateway : OperatorGateway
  emitted : List ControlEventIntent := []

namespace GatewayCall

/-- The connection that a call is for. -/
def conn : GatewayCall → String
  | handle conn _ => conn
  | onDisconnect conn => conn

def outcome (t : PyText) (g : OperatorGateway) : GatewayCall → OperatorGateway.Outcome
  | handle conn action => g.handle t conn action
  | onDisconnect conn => .ok (g.onDisconnect conn)

/-- The call is an action that raises. -/
def Overflows (t : PyText) (g : OperatorGateway) : GatewayCall → Prop
  | handle conn action => Paddock.Overflows t g conn action
  | onDisconnect _ => False

/-- The call returns a result; a rejection asks for nothing and leaves the gateway alone, what is
asked for is the owner's, and its numbers are finite. -/
def HandledWell (t : PyText) (g : OperatorGateway) (call : GatewayCall) : Prop :=
  ∃ result next, call.outcome t g = .ok (result, next) ∧
    (result.accepted = false → result.intents = [] ∧ next = g) ∧
    (result.intents ≠ [] → g.ownerConn = some call.conn ∨ next.ownerConn = some call.conn) ∧
    ∀ i ∈ result.intents, i.Finite

end GatewayCall

namespace GatewayRun

def start (uuidFactory : ℕ → String) : GatewayRun := { gateway := { uuidFactory } }

/-- One call; an action that raises changes nothing. -/
def step (t : PyText) (r : GatewayRun) (call : GatewayCall) : GatewayRun :=
  match call.outcome t r.gateway with
  | .ok (result, gateway) =>
    { gateway, emitted := r.emitted ++ result.intents.filterMap Intent.control? }
  | .error _ => r

end GatewayRun

/-! ## Calls that are handled well -/

/-- A fresh control event carries no number yet. -/
theorem finite_control (g : OperatorGateway) (event : ControlEvent) :
    (Intent.control (g.control event).1).Finite := ⟨rfl, rfl, rfl, rfl, rfl⟩

section

variable {t : PyText} {g : OperatorGateway} {call : GatewayCall}

/-- What is accepted for the owner is handled well when its numbers are finite. -/
theorem handledWell_accept {reason : String} {intents : List Intent} {next : OperatorGateway}
    (hOutcome : call.outcome t g = next.accept reason intents)
    (hOwner : g.ownerConn = some call.conn ∨ next.ownerConn = some call.conn)
    (hFinite : ∀ i ∈ intents, i.Finite) : call.HandledWell t g :=
  ⟨_, _, hOutcome, nofun, fun _ => hOwner, hFinite⟩

theorem handledWell_acceptControl {reason : String} {event : ControlEvent}
    {g' : OperatorGateway} {fields : ControlEventIntent → ControlEventIntent}
    (hOutcome : call.outcome t g = g'.acceptControl reason event fields)
    (hOwner : g'.ownerConn = some call.conn) (hFits : Fits fields) : call.HandledWell t g := by
  refine handledWell_accept hOutcome (Or.inr hOwner) fun i hMem => ?_
  rw [List.mem_singleton.mp hMem]
  exact hFits.finite _ (finite_control g' event)

theorem handledWell_onDisconnect (hOutcome : call.outcome t g = .ok (g.onDisconnect call.conn)) :
    call.HandledWell t g := by
  unfold OperatorGateway.onDisconnect at hOutcome
  split at hOutcome
  · exact ⟨_, _, hOutcome, nofun, fun h => absurd rfl h, fun _ hMem => (List.not_mem_nil hMem).elim⟩
  · rename_i hOwner
    refine ⟨_, _, hOutcome, nofun, fun _ => Or.inl (not_not.mp hOwner), fun i hMem => ?_⟩
    rw [List.mem_singleton.mp hMem]
    exact finite_control g _

theorem handledWell_doTakeover {owner : String} (hHolder : g.ownerConn = some owner)
    (hOther : owner ≠ call.conn) (hOutcome : call.outcome t g = g.doTakeover call.conn) :
    call.HandledWell t g := by
  have hSelf : g.ownerConn ≠ some call.conn := by
    rw [hHolder]
    exact fun h => hOther (Option.some.inj h)
  have hHeld : g.ownerConn ≠ none := by
    rw [hHolder]
    nofun
  rw [OperatorGateway.doTakeover, if_neg hSelf, if_neg hHeld] at hOutcome
  refine handledWell_accept hOutcome (Or.inr rfl) fun i hMem => ?_
  rcases List.mem_pair.mp hMem with rfl | rfl
  · exact finite_control _ _
  · exact finite_control _ _

/-- Every case but the exception is handled well. -/
theorem handledWell_of_case {Raises Clears : Prop}
    (h : OperatorGateway.HandleCase g call.conn Raises Clears (call.outcome t g))
    (hCalm : ¬ Raises) :
    call.HandledWell t g := by
  generalize hOutcome : call.outcome t g = outcome at h
  cases h with
  | rejects hRejected hSilent =>
    refine ⟨_, _, hOutcome, fun _ => ⟨hSilent, rfl⟩, fun h => absurd hSilent h, ?_⟩
    rw [hSilent]
    exact fun _ hMem => (List.not_mem_nil hMem).elim
  | asks hOwner hControl hFinite => exact handledWell_accept hOutcome (Or.inl hOwner) hFinite
  | sends runPressed manualActive hOwner hFits hClear =>
    exact handledWell_acceptControl hOutcome hOwner hFits
  | poses hOwner hFinite =>
    refine handledWell_accept hOutcome (Or.inl hOwner) fun i hMem => ?_
    rcases List.mem_pair.mp hMem with rfl | rfl
    · exact finite_control _ _
    · exact hFinite
  | acquires hFree =>
    rw [OperatorGateway.doAcquire_free hFree] at hOutcome
    exact handledWell_acceptControl hOutcome rfl fits_id
  | takesOver hOwner hOther => exact handledWell_doTakeover hOwner hOther hOutcome
  | releases hOwner => exact handledWell_onDisconnect hOutcome
  | raises hRaises => exact absurd hRaises hCalm

/-- A call is handled well exactly when it meets no number too large to convert. -/
theorem handledWell_iff : call.HandledWell t g ↔ ¬ call.Overflows t g := by
  cases call with
  | onDisconnect conn => exact iff_of_true (handledWell_onDisconnect rfl) id
  | handle conn action =>
    constructor
    · rintro ⟨result, next, hOutcome, -⟩ hOverflow
      have hRaise : g.handle t conn action = .error .overflowError :=
        OperatorGateway.handle_raises hOverflow
      cases hRaise.symm.trans hOutcome
    · exact handledWell_of_case (OperatorGateway.handle_cases t g conn action)

end

/-! ## Numbering -/

theorem numbers_outcome (t : PyText) (g : OperatorGateway) (call : GatewayCall) :
    g.Numbers (call.outcome t g) := by
  cases call with
  | handle conn action => exact (OperatorGateway.handle_cases t g conn action).numbers
  | onDisconnect conn => exact OperatorGateway.numbers_onDisconnect g conn

namespace GatewayRun

/-- The emitted events are numbered from one, up to the number of the gateway. -/
def Numbered (r : GatewayRun) : Prop :=
  r.emitted.map (·.sequence) = List.range' 1 r.gateway.sequence

theorem numbered_step (t : PyText) (r : GatewayRun) (call : GatewayCall) (h : r.Numbered) :
    (r.step t call).Numbered := by
  unfold step
  split
  · rename_i result gateway hOutcome
    obtain ⟨count, hNumbers, hNext⟩ := numbers_outcome t r.gateway call result gateway hOutcome
    unfold Numbered at h ⊢
    dsimp only
    rw [List.map_append, h, hNumbers, hNext, Nat.add_comm r.gateway.sequence 1,
      List.range'_append_1]
  · exact h

theorem numbered_after (t : PyText) (uuidFactory : ℕ → String) (past : List GatewayCall) :
    (after (step t) (start uuidFactory) past).Numbered := by
  refine after_invariant (P := Numbered) ?_ (fun r call h => numbered_step t r call h) past
  exact (rfl : List.map _ [] = List.range' 1 0)

/-- The emitted events are numbered consecutively, from one. -/
theorem numbered_length {r : GatewayRun} (h : r.Numbered) :
    r.emitted.map (·.sequence) = List.range' 1 r.emitted.length := by
  have hLength : r.emitted.length = r.gateway.sequence := by
    rw [← List.length_map (·.sequence), h, List.length_range']
  rw [hLength]
  exact h

end GatewayRun

/-- In a run of the gateway all calls are handled well, and the control events are numbered
consecutively, exactly when no action of the owner holds a number too large to convert.
`handledWell_iff` decides the matter for one call, and `numbered_after` is the invariant of the
counter. -/
theorem gateway_outcomes (t : PyText) (uuidFactory : ℕ → String) (past : List GatewayCall) :
    (Always (along (GatewayRun.step t) (.start uuidFactory)
        fun r call => call.HandledWell t r.gateway) past ∧
      (after (GatewayRun.step t) (.start uuidFactory) past).emitted.map (·.sequence) =
        List.range' 1 (after (GatewayRun.step t) (.start uuidFactory) past).emitted.length) ↔
    Always (along (GatewayRun.step t) (.start uuidFactory)
      fun r call => ¬ call.Overflows t r.gateway) past := by
  constructor
  · exact fun h => h.1.mono fun _ _ hWell => handledWell_iff.mp hWell
  · intro h
    refine ⟨h.mono fun _ _ hCalm => handledWell_iff.mpr hCalm, ?_⟩
    exact GatewayRun.numbered_length (GatewayRun.numbered_after t uuidFactory past)

/-- The owner selects a goal at a coordinate of four hundred digits; latest call first. -/
def distantGoal : List GatewayCall :=
  [.handle "tab" (.dict [("action", .str "select_goal"), ("x", .int (10 ^ 400)), ("y", .int 0)]),
    .handle "tab" (.dict [("action", .str "acquire")])]

/-- The handler raises, so the browser gets no answer. -/
theorem distantGoal_raises : ¬ Always (along (GatewayRun.step OperatorLink.plainText)
    (.start fun n => n.repr) fun r call => call.HandledWell OperatorLink.plainText r.gateway)
    distantGoal := by
  refine fun h => handledWell_iff.mp h.1 ⟨_, "select_goal", rfl, rfl, rfl, Or.inr (Or.inr ?_)⟩
  exact ⟨Or.inl rfl, Or.inl ⟨10 ^ 400, rfl, by decide +kernel⟩⟩

end PreRunner.Paddock
