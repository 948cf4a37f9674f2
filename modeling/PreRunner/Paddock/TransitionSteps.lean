import PreRunner.Paddock.QuiescenceLink

/-!
# What a step does to the running transition

Every step of the mode supervisor leaves the transition where it is, begins one, takes it one point
further, publishes the new runtime, or ends it without one (`moves`).
-/

namespace PreRunner.Paddock

/-- A transition runs, up to its last change of the runtime. -/
def Point.isRunning : Point → Bool
  | free | returning => false
  | _ => true

namespace ModeSupervisor

/-- The mode and the map of the runtime stay. -/
structure SameMode (node next : ModeSupervisor) : Prop where
  mode : next.runtime.mode = node.runtime.mode
  activeMap : next.runtime.activeAutonomyMap = node.runtime.activeAutonomyMap

/-- The transition takes one step further. -/
inductive Leads (node : ModeSupervisor) : ModeInput → Point → Prop
  | quiesced {previous : RuntimeState} (answers : ReadinessAnswers)
      (hPoint : node.point = .quiescing previous) : Leads node (.check answers) .stopping
  | toPreparing (hPoint : node.point = .stopping) (hRequested : node.run.requested = .autonomy) :
      Leads node (.done (.ok ())) .preparing
  | toStarting (hPoint : node.point = .stopping) (hRequested : node.run.requested = .mapping) :
      Leads node (.done (.ok ())) .starting
  | prepared (hPoint : node.point = .preparing) : Leads node (.done (.ok ())) .starting
  | started (hPoint : node.point = .starting) : Leads node (.done (.ok ())) .waiting
  | ready {answers : ReadinessAnswers} {reason : String} (hPoint : node.point = .waiting)
      (hReady : node.fullyReady node.run.requested answers = .ok (true, reason)) :
      Leads node (.check answers) .confirming
  | failed {input : ModeInput} (detail : String) (hPoint : node.point.isRunning = true) :
      Leads node input (.failing detail)

/-- What a step does to the running transition. -/
inductive Move (node : ModeSupervisor) (input : ModeInput) (next : ModeSupervisor) : Prop
  | stays (hPoint : next.point = node.point) (hRun : next.run = node.run)
      (hSame : SameMode node next)
  | begins (message : ModeRequest) (hInput : input = .request message)
      (hFree : node.point = .free)
      (hPoint : next.point = .stopping ∨
        next.point = .quiescing node.runtime ∧ next.run.requested = .mapping)
      (hRequested : CommandAuthority.modeOf message.requestedMode = some next.run.requested)
      (hTarget : next.run.autonomyMap = message.autonomyMap) (hSame : SameMode node next)
  | goes (hLeads : Leads node input next.point) (hRun : next.run = node.run)
      (hSame : SameMode node next)
  | publishes (answers : ReadinessAnswers) (token : String)
    (hInput : input = .confirm answers token)
      (hPoint : node.point = .confirming) (hNext : next.point = .returning)
      (hMode : next.runtime.mode = node.run.requested)
      (hMap : next.runtime.activeAutonomyMap =
        if node.run.requested = Mode.autonomy then node.run.autonomyMap
        else node.runtime.activeAutonomyMap)
  | ends (hPoint : next.point = .returning ∨ next.point = .free)
      (hMode : next.runtime.mode = node.runtime.mode ∨ next.runtime.mode = .idle ∨
        ∃ previous, node.point = .quiescing previous ∧ next.runtime.mode = previous.mode)
      (hMap : next.runtime.activeAutonomyMap = node.runtime.activeAutonomyMap)

variable {node : ModeSupervisor} {input : ModeInput}

theorem SameMode.refl (node : ModeSupervisor) : SameMode node node := ⟨rfl, rfl⟩

theorem Move.of_same (node : ModeSupervisor) (input : ModeInput) : Move node input node :=
  .stays rfl rfl (.refl node)

theorem Move.of_fail (hPoint : node.point.isRunning = true) (error : String) :
    Move node input (node.fail error).1 :=
  .goes (.failed _ hPoint) rfl ⟨rfl, rfl⟩

theorem execute_move (hFree : node.point = .free) (message : ModeRequest) {requested : Mode}
    (hRequested : CommandAuthority.modeOf message.requestedMode = some requested) (newMap : Bool)
    (hNewMap : newMap = true → requested = .mapping) :
    Move node (.request message)
      (node.execute requested message.requestId message.autonomyMap newMap).1 := by
  unfold execute
  cases newMap with
  | true => exact .begins message rfl hFree (.inr ⟨rfl, hNewMap rfl⟩) hRequested rfl ⟨rfl, rfl⟩
  | false => exact .begins message rfl hFree (.inl rfl) hRequested rfl ⟨rfl, rfl⟩

theorem onRequest_move (hFree : node.point = .free) (message : ModeRequest) :
    Move node (.request message) (node.onRequest message).1 := by
  unfold onRequest
  split
  · exact .of_same node _
  · split
    · exact .of_same node _
    · rename_i requested hRequested
      split
      · exact .of_same node _
      · unfold transition
        dsimp only
        split
        · exact .of_same node _
        · split
          · exact .stays rfl rfl ⟨rfl, rfl⟩
          · split
            · exact .stays rfl rfl ⟨rfl, rfl⟩
            · split
              · exact .stays rfl rfl ⟨rfl, rfl⟩
              · exact execute_move hFree message hRequested _ fun hNewMap =>
                  of_decide_eq_true (Bool.and_eq_true_iff.mp hNewMap).2

theorem onProgress_move (node : ModeSupervisor) (detail : String) :
    Move node (.progress detail) (node.onProgress detail).1 := by
  unfold onProgress
  repeat' split
  all_goals first
    | exact .of_same node _
    | exact .stays rfl rfl ⟨rfl, rfl⟩

theorem onCheck_move (node : ModeSupervisor) (answers : ReadinessAnswers) :
    Move node (.check answers) (node.onCheck answers).1 := by
  unfold onCheck
  split
  · rename_i previous hPoint
    split
    · exact .goes (.quiesced answers hPoint) rfl ⟨rfl, rfl⟩
    · exact .of_same node _
  · rename_i hPoint
    split
    · exact .of_fail (by rw [hPoint]; rfl) _
    · rename_i ok reason hReady
      cases ok with
      | true => exact .goes (.ready hPoint hReady) rfl ⟨rfl, rfl⟩
      | false => exact .of_same node _
  · exact .of_same node _

theorem onExpire_move (node : ModeSupervisor) (text : String) (answers : ReadinessAnswers) :
    Move node (.expire text answers) (node.onExpire text answers).1 := by
  unfold onExpire
  split
  · rename_i previous hPoint
    unfold refuse
    split
    · exact .ends (.inr rfl) (.inl rfl) rfl
    · exact .ends (.inl rfl) (.inr (.inr ⟨previous, hPoint, rfl⟩)) rfl
  · rename_i hPoint
    exact .of_fail (by rw [hPoint]; rfl) _
  · exact .of_same node _

theorem onDone_move (node : ModeSupervisor) (result : Except String Unit) :
    Move node (.done result) (node.onDone result).1 := by
  unfold onDone
  split
  · rename_i hPoint
    unfold stopped
    split
    · exact .ends (.inl rfl) (.inr (.inl rfl)) rfl
    · rename_i hRequested
      exact .goes (.toPreparing hPoint hRequested) rfl ⟨rfl, rfl⟩
    · rename_i hRequested
      exact .goes (.toStarting hPoint hRequested) rfl ⟨rfl, rfl⟩
  · rename_i hPoint
    exact .goes (.prepared hPoint) rfl ⟨rfl, rfl⟩
  · rename_i hPoint
    exact .goes (.started hPoint) rfl ⟨rfl, rfl⟩
  · rename_i hPoint
    exact .of_fail (by rw [hPoint]; rfl) _
  · rename_i hPoint
    exact .of_fail (by rw [hPoint]; rfl) _
  · rename_i hPoint
    exact .of_fail (by rw [hPoint]; rfl) _
  · exact .of_same node _

theorem onConfirm_move (node : ModeSupervisor) (answers : ReadinessAnswers) (token : String) :
    Move node (.confirm answers token) (node.onConfirm answers token).1 := by
  unfold onConfirm
  split
  · rename_i hPoint
    split
    · exact .of_fail (by rw [hPoint]; rfl) _
    · exact .publishes answers token rfl hPoint rfl rfl rfl
  · exact .of_same node _

theorem onCleaned_move (node : ModeSupervisor) (suffix : String) :
    Move node (.cleaned suffix) (node.onCleaned suffix).1 := by
  unfold onCleaned
  split
  · exact .ends (.inl rfl) (.inr (.inl rfl)) rfl
  · exact .of_same node _

theorem onFinish_move (node : ModeSupervisor) : Move node .finish node.onFinish := by
  unfold onFinish
  split
  · exact .ends (.inr rfl) (.inl rfl) rfl
  · exact .of_same node _

theorem onRefresh_move (node : ModeSupervisor) (answers : ReadinessAnswers) :
    Move node (.refresh answers) (node.onRefresh answers).1 := by
  unfold onRefresh
  split
  · split
    · exact .of_same node _
    · rename_i next published hRefreshed
      obtain ⟨runtime, hNext, hMode, hMap⟩ := refreshed_runtime hRefreshed
      dsimp only at hNext
      subst hNext
      exact .stays rfl rfl ⟨hMode, hMap⟩
  · exact .of_same node _

theorem moves (node : ModeSupervisor) (input : ModeInput) :
    Move node input (node.step input).1 := by
  cases input with
  | clock | lease | scanSlam | scan | map | encoder => exact .stays rfl rfl ⟨rfl, rfl⟩
  | authorityState message =>
    change Move node _ (if node.revokes message then _ else _)
    split
    · exact .stays rfl rfl ⟨rfl, rfl⟩
    · exact .of_same node _
  | refresh answers => exact onRefresh_move node answers
  | request message =>
    change Move node _ (if node.point = .free then node.onRequest message else (node, [])).1
    split
    · rename_i hFree
      exact onRequest_move hFree message
    · exact .of_same node _
  | progress detail => exact onProgress_move node detail
  | check answers => exact onCheck_move node answers
  | expire text answers => exact onExpire_move node text answers
  | done result => exact onDone_move node result
  | confirm answers token => exact onConfirm_move node answers token
  | cleaned suffix => exact onCleaned_move node suffix
  | finish => exact onFinish_move node

end ModeSupervisor

end PreRunner.Paddock
