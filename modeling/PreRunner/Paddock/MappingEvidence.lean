import PreRunner.Runs.Emission
import PreRunner.Paddock.QuiescenceBarrier
import PreRunner.Paddock.TransitionSteps

/-!
# The evidence of a new mapping session

A transition into MAPPING starts the mapping unit and waits for `/map` and `/scan_slam`. The receive
times of both live on in the node: NEW MAP resets them before its barrier, when the old session
still publishes, and selecting MAPPING does not reset them at all. A check of the wait is right
exactly when it does not count a message from before the start (`mapping_evidence_iff`).
-/

namespace PreRunner.Paddock

open Runs

namespace ModeSupervisor

open QuiescenceLink (mappingState noAnswers)

/-- The mapping unit is started by systemd. -/
def startsMapping (node : ModeSupervisor) (input : ModeInput) : Prop :=
  node.point = .starting ∧ node.run.requested = .mapping ∧ input = .done (.ok ())

/-- A transition into MAPPING publishes STABLE. -/
def entersMapping (node : ModeSupervisor) (input : ModeInput) : Prop :=
  node.point = .confirming ∧ node.run.requested = .mapping ∧
    ∃ state ∈ (node.step input).2, state.mode = .mapping ∧ state.lifecycle = .stable

variable (init : ModeSupervisor)

/-- The message has been received, and the mapping unit was not started since. -/
abbrev ReceivedSince (message : ModeInput) : List ModeInput → Prop :=
  Since (along (advance step) init fun node input => ¬ node.startsMapping input)
    fun _ input => input = message

/-- Both messages of a mapping session have been received since the mapping unit was started. -/
def HasEvidence (past : List ModeInput) : Prop :=
  ReceivedSince init .map past ∧ ReceivedSince init .scanSlam past

/-- The times of `/scan_slam` and `/map` satisfy `_capability_ready`. -/
def evidenceCounts (node : ModeSupervisor) : Bool :=
  fresh node.now node.scanSlamAt scanSlamMaxAgeSec && fresh node.now node.mapAt mapMaxAgeSec &&
    !(node.sessionStartedAt.any fun started => node.mapAt.all (· < started))

/-- The wait for a mapping session is checked with the unit, the graph and the transforms in order,
and the evidence counts. -/
def endsWait (node : ModeSupervisor) (input : ModeInput) : Prop :=
  node.point = .waiting ∧ node.run.requested = .mapping ∧ node.evidenceCounts = true ∧
    ∃ answers, input = .check answers ∧ answers.structural = .ok "" ∧
      answers.odomToBase = true ∧ answers.mapToOdom = true

/-- Such a check counts a message from before the start of the unit. -/
def CountsLeftover (past : List ModeInput) (input : ModeInput) : Prop :=
  (after (advance step) init past).endsWait input ∧ ¬ HasEvidence init past

variable {init} {node : ModeSupervisor} {past : List ModeInput} {input : ModeInput}

/-! ## The check -/

theorem capabilityReady_mapping (node : ModeSupervisor) (answers : ReadinessAnswers) :
    (node.capabilityReady .mapping answers).1 =
      (answers.odomToBase && answers.mapToOdom && node.evidenceCounts) := by
  unfold capabilityReady evidenceCounts
  rw [if_pos rfl]
  cases answers.odomToBase with
  | false => rfl
  | true =>
    cases answers.mapToOdom with
    | false => rfl
    | true =>
      cases fresh node.now node.scanSlamAt scanSlamMaxAgeSec with
      | false => rfl
      | true =>
        cases fresh node.now node.mapAt mapMaxAgeSec with
        | false => rfl
        | true =>
          cases node.sessionStartedAt.any fun started => node.mapAt.all (· < started) with
          | false => rfl
          | true => rfl

theorem fullyReady_mapping {answers : ReadinessAnswers} :
    (∃ reason, node.fullyReady .mapping answers = .ok (true, reason)) ↔
      node.evidenceCounts = true ∧ answers.structural = .ok "" ∧
        answers.odomToBase = true ∧ answers.mapToOdom = true := by
  have hCapability := node.capabilityReady_mapping answers
  unfold fullyReady
  generalize node.capabilityReady .mapping answers = capability at hCapability
  cases hStructural : answers.structural with
  | error text => exact ⟨fun ⟨_, h⟩ => (by cases h), fun h => (by cases h.2.1)⟩
  | ok structural =>
    by_cases hEmpty : structural = ""
    · subst hEmpty
      constructor
      · rintro ⟨reason, h⟩
        have hTrue : capability.1 = true := congrArg Prod.fst (Except.ok.inj h)
        rw [hCapability, Bool.and_eq_true, Bool.and_eq_true] at hTrue
        exact ⟨hTrue.2, rfl, hTrue.1⟩
      · rintro ⟨hCounts, -, hOdom, hMap⟩
        rw [hOdom, hMap, hCounts] at hCapability
        obtain ⟨ok, reason⟩ := capability
        cases hCapability
        exact ⟨"", rfl⟩
    · refine ⟨fun ⟨_, h⟩ => ?_, fun h => absurd (Except.ok.inj h.2.1) hEmpty⟩
      change Except.ok (if structural ≠ "" then _ else _) = _ at h
      rw [if_pos hEmpty] at h
      cases h

/-! ## Every run -/

/-- Whatever publishes STABLE next has its evidence. -/
def Earned (init : ModeSupervisor) (past : List ModeInput) : Prop :=
  ∀ input, (after (advance step) init past).entersMapping input → HasEvidence init past

theorem entersMapping_of_point (hPoint : node.point = .confirming)
    (hRequested : node.run.requested = .mapping) (token : String) :
    node.entersMapping (.confirm noAnswers token) := by
  refine ⟨hPoint, hRequested, ?_⟩
  change ∃ state ∈ (node.onConfirm _ token).2, _
  unfold onConfirm
  rw [if_pos hPoint]
  exact ⟨_, List.mem_singleton_self _, hRequested, rfl⟩

theorem HasEvidence.cons (h : HasEvidence init past)
    (hStart : ¬ (after (advance step) init past).startsMapping input) :
    HasEvidence init (input :: past) := ⟨.keep hStart h.1, .keep hStart h.2⟩

theorem HasEvidence.of_check {answers : ReadinessAnswers}
    (h : HasEvidence init (.check answers :: past)) : HasEvidence init past := by
  obtain ⟨hMap, hScan⟩ := h
  rcases hMap with hMap | ⟨-, hMap⟩
  · cases hMap
  · rcases hScan with hScan | ⟨-, hScan⟩
    · cases hScan
    · exact ⟨hMap, hScan⟩

theorem step_check_ready {answers : ReadinessAnswers} {reason : String}
    (hPoint : node.point = .waiting)
    (hReady : node.fullyReady node.run.requested answers = .ok (true, reason)) :
    (node.step (.check answers)).1 = { node with point := .confirming } := by
  change (node.onCheck answers).1 = _
  unfold onCheck
  rw [hPoint]
  dsimp only
  rw [hReady]
  rfl

/-- A transition comes to its publication by a passing check, or was there already. -/
theorem confirming_case (hPoint : (node.step input).1.point = .confirming) :
    (node.step input).1.run = node.run ∧
      (node.point = .confirming ∨ node.point = .waiting ∧ ∃ answers, input = .check answers ∧
        ∃ reason, node.fullyReady node.run.requested answers = .ok (true, reason)) := by
  cases node.moves input with
  | stays hSamePoint hRun => exact ⟨hRun, .inl (hSamePoint.symm.trans hPoint)⟩
  | begins message hInput hFree hBegins =>
    rcases hBegins with hBegins | ⟨hBegins, -⟩ <;> cases hPoint.symm.trans hBegins
  | goes hLeads hRun =>
    rw [hPoint] at hLeads
    cases hLeads with
    | ready hWaiting hReady => exact ⟨hRun, .inr ⟨hWaiting, _, rfl, _, hReady⟩⟩
  | publishes answers token hInput hConfirming hNext => cases hPoint.symm.trans hNext
  | ends hEnds => rcases hEnds with hEnds | hEnds <;> cases hPoint.symm.trans hEnds

/-- A step keeps what is earned exactly when it does not end the wait by a leftover. -/
theorem earned_cons (hEarned : Earned init past) :
    Earned init (input :: past) ↔ ¬ CountsLeftover init past input := by
  constructor
  · rintro h ⟨⟨hPoint, hRequested, hCounts, answers, rfl, hAnswers⟩, hLeftover⟩
    obtain ⟨reason, hReady⟩ := fullyReady_mapping.mpr ⟨hCounts, hAnswers⟩
    refine hLeftover (h (.confirm noAnswers "") ?_).of_check
    rw [after_cons, advance, step_check_ready hPoint (hRequested ▸ hReady)]
    apply entersMapping_of_point
    · rfl
    · exact hRequested
  · rintro h next ⟨hPoint, hRequested, -⟩
    obtain ⟨hRun, hConfirming | ⟨hWaiting, answers, rfl, reason, hReady⟩⟩ := confirming_case hPoint
    · have hBefore := entersMapping_of_point hConfirming
        ((congrArg TransitionRun.requested hRun).symm.trans hRequested) ""
      refine (hEarned _ hBefore).cons fun hStarts => ?_
      cases hStarts.1.symm.trans hConfirming
    · by_contra hMissing
      have hMapping := (congrArg TransitionRun.requested hRun).symm.trans hRequested
      obtain ⟨hCounts, hAnswers⟩ := fullyReady_mapping.mp ⟨reason, hMapping ▸ hReady⟩
      refine h ⟨⟨hWaiting, hMapping, hCounts, answers, rfl, hAnswers⟩, fun hEvidence => ?_⟩
      refine hMissing (hEvidence.cons fun hStarts => ?_)
      cases hStarts.1.symm.trans hWaiting

theorem earned_of_always (runtime : RuntimeState) (now : ℚ)
    (h : Always (fun past input => Earned (start runtime now) (input :: past)) past) :
    Earned (start runtime now) past := by
  cases past with
  | nil => exact fun input hEnters => (by cases hEnters.1)
  | cons input past => exact h.1

/-- Every transition into MAPPING that publishes STABLE has received `/map` and `/scan_slam` since
the start of its unit, exactly when no check of a wait counts a message from before it.
`earned_cons` treats one input, given that all transitions before it have earned what they
published. -/
theorem mapping_evidence_iff (runtime : RuntimeState) (now : ℚ) (past : List ModeInput) :
    let init := start runtime now
    Always (fun past input => Earned init (input :: past)) past ↔
      Always (fun past input => ¬ CountsLeftover init past input) past := by
  intro init
  induction past with
  | nil => exact Iff.rfl
  | cons input past ih =>
    constructor
    · rintro ⟨hEarned, hPast⟩
      exact ⟨(earned_cons (earned_of_always runtime now hPast)).mp hEarned, ih.mp hPast⟩
    · rintro ⟨hCounts, hPast⟩
      exact ⟨(earned_cons (earned_of_always runtime now (ih.mpr hPast))).mpr hCounts, ih.mpr hPast⟩

/-! ## A leftover of the last session -/

/-- A stable mapping session stops with its last `/map` just received. MAPPING is selected again; at
the first check the new unit has sent a scan and no map. Latest input first. -/
def leftoverRun : List ModeInput :=
  [.check noAnswers,
    .scanSlam,
    .clock 3,
    .done (.ok ()),
    .done (.ok ()),
    .request ⟨3, "l", 1, "", 0⟩,
    .clock 2,
    .finish,
    .done (.ok ()),
    .request ⟨2, "l", 0, "", 0⟩,
    .map,
    .lease true "l",
    .clock 1]

/-- The transition publishes STABLE without a `/map` since its start. -/
theorem old_map_enters_mapping :
    let init := start mappingState 0
    (after (advance step) init leftoverRun).entersMapping (.confirm noAnswers "") ∧
      ¬ HasEvidence init leftoverRun := by
  intro init
  refine ⟨entersMapping_of_point (by decide +kernel) (by decide +kernel) "", fun h => ?_⟩
  rcases h.1 with h | ⟨-, h | ⟨-, h | ⟨-, h | ⟨hNot, -⟩⟩⟩⟩
  · cases h
  · cases h
  · cases h
  · cases h
  · exact hNot ⟨by decide +kernel, by decide +kernel, rfl⟩

end ModeSupervisor

end PreRunner.Paddock
