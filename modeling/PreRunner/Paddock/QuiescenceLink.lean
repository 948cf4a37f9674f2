import PreRunner.Runs.History
import PreRunner.Paddock.ModeSupervisor
import PreRunner.Paddock.RevokedAuthority

/-!
# The mode supervisor and the authority at the barrier of NEW MAP

A NEW MAP may tear down the mapping runtime only when the command authority has revoked motion and
the encoder has reported standstill afterwards. The mode supervisor and the authority are joined by
two channels, mode states one way and authority states the other, each in order and with any delay.
A step of the supervisor begins a barrier, lets it wait on, or leaves it (`barrier_case`).
-/

namespace PreRunner.Paddock

open Bringup Runs

/-! ## What a step of the supervisor does to its barrier -/

/-- The inputs that are no evidence for the barrier. -/
def ModeInput.isPlain : ModeInput → Bool
  | .clock _ | .authorityState _ | .encoder _ => false
  | _ => true

namespace ModeSupervisor

variable {node : ModeSupervisor}

/-- The same evidence for the barrier. -/
structure SameBarrier (node next : ModeSupervisor) : Prop where
  started : next.quiescenceStartedAt = node.quiescenceStartedAt
  epoch : next.quiescenceRuntimeEpoch = node.quiescenceRuntimeEpoch
  revoked : next.authorityRevokedAt = node.authorityRevokedAt
  encoder : next.encoderAt = node.encoderAt
  stationary : next.encoderStationary = node.encoderStationary
  now : next.now = node.now

theorem SameBarrier.refl (node : ModeSupervisor) : SameBarrier node node :=
  ⟨rfl, rfl, rfl, rfl, rfl, rfl⟩

/-- A NEW MAP has just been accepted. -/
structure Begun (node : ModeSupervisor) (out : ModeSupervisor × List RuntimeState) : Prop where
  point : node.point = .free
  quiescing : out.1.point.isQuiescing = true
  started : out.1.quiescenceStartedAt = some node.now
  epoch : out.1.quiescenceRuntimeEpoch = out.1.runtime.runtimeEpoch
  revoked : out.1.authorityRevokedAt = none
  encoder : out.1.encoderAt = node.encoderAt
  stationary : out.1.encoderStationary = node.encoderStationary
  now : out.1.now = node.now
  lifecycle : out.1.runtime.lifecycle = .transitioning
  published : out.2 = [out.1.runtime]

/-- The barrier waits on. -/
structure Quiesces (node : ModeSupervisor) (out : ModeSupervisor × List RuntimeState) : Prop where
  point : out.1.point = node.point
  lifecycle : out.1.runtime.lifecycle = node.runtime.lifecycle
  epoch : out.1.runtime.runtimeEpoch = node.runtime.runtimeEpoch
  published : ∀ state ∈ out.2, state = out.1.runtime
  same : SameBarrier node out.1

/-- What a step does to the barrier. -/
inductive BarrierCase (node : ModeSupervisor) (out : ModeSupervisor × List RuntimeState) : Prop
  | begun (h : Begun node out)
  | quiesces (hQuiescing : node.point.isQuiescing = true) (h : Quiesces node out)
  | away (hPoint : out.1.point.isQuiescing = false) (hSame : SameBarrier node out.1)

theorem BarrierCase.of_silent {next : ModeSupervisor} (hPoint : next.point = node.point)
    (hRuntime : next.runtime = node.runtime) (hSame : SameBarrier node next) :
    BarrierCase node (next, []) := by
  cases hQuiescing : node.point.isQuiescing with
  | true =>
    exact .quiesces hQuiescing ⟨hPoint, by rw [hRuntime], by rw [hRuntime],
      fun _ h => absurd h List.not_mem_nil, hSame⟩
  | false => exact .away ((congrArg Point.isQuiescing hPoint).trans hQuiescing) hSame

theorem BarrierCase.of_same (node : ModeSupervisor) : BarrierCase node (node, []) :=
  .of_silent rfl rfl (.refl node)

/-- A change of the runtime away from the barrier. -/
theorem BarrierCase.of_set {next : ModeSupervisor} (runtime : RuntimeState)
    (hPoint : next.point.isQuiescing = false) (hSame : SameBarrier node next) :
    BarrierCase node (next.set runtime) :=
  .away hPoint ⟨hSame.started, hSame.epoch, hSame.revoked, hSame.encoder, hSame.stationary,
    hSame.now⟩

theorem fail_case (node : ModeSupervisor) (error : String) : BarrierCase node (node.fail error) :=
  .away rfl ⟨rfl, rfl, rfl, rfl, rfl, rfl⟩

theorem execute_case (hFree : node.point = .free) (requested : Mode) (requestId : ℤ)
    (autonomyMap : String) (newMap : Bool) :
    BarrierCase node (node.execute requested requestId autonomyMap newMap) := by
  unfold execute
  cases newMap with
  | true => exact .begun ⟨hFree, rfl, rfl, rfl, rfl, rfl, rfl, rfl, rfl, rfl⟩
  | false => exact .of_set _ rfl ⟨rfl, rfl, rfl, rfl, rfl, rfl⟩

theorem onRequest_case (hFree : node.point = .free) (message : ModeRequest) :
    BarrierCase node (node.onRequest message) := by
  have hPoint : node.point.isQuiescing = false := by rw [hFree]; rfl
  unfold onRequest
  split
  · exact .of_same node
  · split
    · exact .of_same node
    · split
      · exact .of_same node
      · unfold transition
        dsimp only
        split
        · exact .of_same node
        · split
          · exact .of_set _ hPoint (.refl node)
          · split
            · exact .of_set _ hPoint (.refl node)
            · split
              · exact .of_set _ hPoint (.refl node)
              · exact execute_case hFree _ _ _ _

theorem onProgress_case (node : ModeSupervisor) (detail : String) :
    BarrierCase node (node.onProgress detail) := by
  unfold onProgress
  split
  · rename_i previous hPoint
    split
    · refine .quiesces (by rw [hPoint]; rfl)
        ⟨rfl, rfl, rfl, fun state h => ?_, ⟨rfl, rfl, rfl, rfl, rfl, rfl⟩⟩
      exact List.mem_singleton.mp h
    · exact .of_same node
  all_goals try (rename_i hPoint; split)
  all_goals first
    | exact .of_same node
    | exact .of_set _ (by rw [hPoint]; rfl) (.refl node)

theorem onCheck_case (node : ModeSupervisor) (answers : ReadinessAnswers) :
    BarrierCase node (node.onCheck answers) := by
  unfold onCheck
  split
  · split
    · exact .away rfl ⟨rfl, rfl, rfl, rfl, rfl, rfl⟩
    · exact .of_same node
  · split
    · exact fail_case node _
    · split
      · exact .away rfl ⟨rfl, rfl, rfl, rfl, rfl, rfl⟩
      · exact .of_same node
  · exact .of_same node

theorem onExpire_case (node : ModeSupervisor) (text : String) (answers : ReadinessAnswers) :
    BarrierCase node (node.onExpire text answers) := by
  unfold onExpire
  split
  · unfold refuse
    split
    · exact .away rfl ⟨rfl, rfl, rfl, rfl, rfl, rfl⟩
    · exact .of_set _ rfl ⟨rfl, rfl, rfl, rfl, rfl, rfl⟩
  · exact fail_case node _
  · exact .of_same node

theorem onDone_case (node : ModeSupervisor) (result : Except String Unit) :
    BarrierCase node (node.onDone result) := by
  unfold onDone
  split
  · unfold stopped
    split
    · exact .of_set _ rfl ⟨rfl, rfl, rfl, rfl, rfl, rfl⟩
    · exact .away rfl ⟨rfl, rfl, rfl, rfl, rfl, rfl⟩
    · exact .away rfl ⟨rfl, rfl, rfl, rfl, rfl, rfl⟩
  · exact .away rfl ⟨rfl, rfl, rfl, rfl, rfl, rfl⟩
  · exact .away rfl ⟨rfl, rfl, rfl, rfl, rfl, rfl⟩
  · exact fail_case node _
  · exact fail_case node _
  · exact fail_case node _
  · exact .of_same node

theorem onConfirm_case (node : ModeSupervisor) (answers : ReadinessAnswers) (token : String) :
    BarrierCase node (node.onConfirm answers token) := by
  unfold onConfirm
  split
  · split
    · exact fail_case node _
    · exact .of_set _ rfl ⟨rfl, rfl, rfl, rfl, rfl, rfl⟩
  · exact .of_same node

theorem onCleaned_case (node : ModeSupervisor) (suffix : String) :
    BarrierCase node (node.onCleaned suffix) := by
  unfold onCleaned
  split
  · exact .of_set _ rfl ⟨rfl, rfl, rfl, rfl, rfl, rfl⟩
  · exact .of_same node

theorem onFinish_case (node : ModeSupervisor) : BarrierCase node (node.onFinish, []) := by
  unfold onFinish
  split
  · exact .away rfl ⟨rfl, rfl, rfl, rfl, rfl, rfl⟩
  · exact .of_same node

theorem refreshed_runtime {answers : ReadinessAnswers} {out : ModeSupervisor × List RuntimeState}
    (h : node.refreshed answers = .ok out) : ∃ runtime, out.1 = { node with runtime } ∧
      runtime.mode = node.runtime.mode ∧
      runtime.activeAutonomyMap = node.runtime.activeAutonomyMap := by
  unfold refreshed at h
  dsimp only at h
  split at h
  · obtain rfl := Except.ok.inj h
    split <;> exact ⟨_, rfl, rfl, rfl⟩
  · split at h
    · obtain rfl := Except.ok.inj h
      split <;> exact ⟨_, rfl, rfl, rfl⟩
    · cases hReady : node.fullyReady node.runtime.mode answers with
      | error text =>
        rw [hReady] at h
        cases h
      | ok ready =>
        rw [hReady] at h
        obtain rfl := Except.ok.inj h
        dsimp only
        split <;> exact ⟨_, rfl, rfl, rfl⟩

theorem onRefresh_case (node : ModeSupervisor) (answers : ReadinessAnswers) :
    BarrierCase node (node.onRefresh answers) := by
  unfold onRefresh
  split
  · rename_i hFree
    split
    · exact .of_same node
    · rename_i next published hRefreshed
      obtain ⟨runtime, hNext, -⟩ := refreshed_runtime hRefreshed
      dsimp only at hNext
      subst hNext
      refine .away ?_ ⟨rfl, rfl, rfl, rfl, rfl, rfl⟩
      change node.point.isQuiescing = false
      rw [hFree]
      rfl
  · exact .of_same node

/-- Every step that is no evidence begins a barrier, lets it wait on, or leaves it. -/
theorem barrier_case (node : ModeSupervisor) (input : ModeInput) (hPlain : input.isPlain = true) :
    BarrierCase node (node.step input) := by
  cases input with
  | clock | authorityState | encoder => cases hPlain
  | lease | scanSlam | scan | map => exact .of_silent rfl rfl ⟨rfl, rfl, rfl, rfl, rfl, rfl⟩
  | refresh answers => exact onRefresh_case node answers
  | request message =>
    change BarrierCase node (if node.point = .free then _ else _)
    split
    · rename_i hFree
      exact onRequest_case hFree message
    · exact .of_same node
  | progress detail => exact onProgress_case node detail
  | check answers => exact onCheck_case node answers
  | expire text answers => exact onExpire_case node text answers
  | done result => exact onDone_case node result
  | confirm answers token => exact onConfirm_case node answers token
  | cleaned suffix => exact onCleaned_case node suffix
  | finish => exact onFinish_case node

end ModeSupervisor

/-! ## The composition -/

/-- Both nodes and the channels between them, oldest message first. For the specification a mode
state carries the number of the NEW MAP at whose barrier it was published, or zero; an authority
state carries the number of the mode state that the authority had processed last, and `revokedBy`
is the number of the authority state that was latched last. -/
structure QuiescenceLink where
  supervisor : ModeSupervisor
  authority : CommandAuthority
  modeStates : List (ℕ × RuntimeState) := []
  authorityStates : List (ℕ × CommandAuthorityState) := []
  round : ℕ := 0
  processed : ℕ := 0
  revokedBy : ℕ := 0

/-- One step of either node, or the arrival of the oldest message of a channel. -/
inductive QuiescenceInput where
  | supervisor (input : ModeInput) (own : input.isAuthorityState = false)
  | authority (event : AuthorityEvent) (own : event.isMode = false)
  | modeArrives (now : ℚ) (read : ApplyInput)
  | authorityArrives

namespace QuiescenceLink

open CommandAuthority (sentStates Braked)

/-- A step of the supervisor; the states published while its barrier waits get its number. -/
def supervisorStep (link : QuiescenceLink) (input : ModeInput) : QuiescenceLink :=
  let out := link.supervisor.step input
  let begins := out.1.point.isQuiescing && !link.supervisor.point.isQuiescing
  let round := if begins then link.round + 1 else link.round
  { link with
    supervisor := out.1
    round
    revokedBy := if begins then 0 else link.revokedBy
    modeStates := link.modeStates ++
      out.2.map fun state => (if out.1.point.isQuiescing then round else 0, state) }

def step (lib : NavLibrary) (link : QuiescenceLink) : QuiescenceInput → QuiescenceLink
  | .supervisor input _ => link.supervisorStep input
  | .authority event _ =>
    let out := link.authority.receive lib event
    { link with
      authority := out.1
      authorityStates := link.authorityStates ++
        (sentStates out.2).map fun state => (link.processed, state) }
  | .modeArrives now read =>
    match link.modeStates with
    | [] => link
    | (number, state) :: rest =>
      let out := link.authority.onMode lib state.message now read
      { link with
        authority := out.1
        modeStates := rest
        processed := number
        authorityStates := link.authorityStates ++
          (sentStates out.2).map fun state => (number, state) }
  | .authorityArrives =>
    match link.authorityStates with
    | [] => link
    | (number, state) :: rest =>
      { link with
        supervisor := link.supervisor.onAuthorityState state
        authorityStates := rest
        revokedBy := if link.supervisor.revokes state then number else link.revokedBy }

/-- The supervisor after its constructor, with any authority and anything in flight. -/
def start (runtime : RuntimeState) (now : ℚ) (authority : CommandAuthority)
    (modeStates : List RuntimeState) (authorityStates : List CommandAuthorityState) :
    QuiescenceLink :=
  { supervisor := ModeSupervisor.start runtime now
    authority
    modeStates := modeStates.map fun state => (0, state)
    authorityStates := authorityStates.map fun state => (0, state) }

/-! ## The specification -/

/-- A readiness check of the barrier succeeds. -/
def passes (link : QuiescenceLink) : QuiescenceInput → Prop
  | .supervisor (.check _) _ =>
    link.supervisor.point.isQuiescing = true ∧ link.supervisor.quiescenceReady.1 = true
  | _ => False

/-- No NEW MAP is accepted. -/
def sameRound (lib : NavLibrary) (link : QuiescenceLink) (input : QuiescenceInput) : Prop :=
  (link.step lib input).round = link.round

/-- An authority state arrives that was produced after the authority had processed a mode state of
the current barrier. -/
def revocationArrives (link : QuiescenceLink) : QuiescenceInput → Prop
  | .authorityArrives => link.authorityStates.head?.map Prod.fst = some link.round
  | _ => False

def stationaryArrives : QuiescenceInput → Prop
  | .supervisor (.encoder stationary) _ => stationary = true
  | _ => False

variable (lib : NavLibrary) (init : QuiescenceLink)

/-- In this transition a revocation has arrived. -/
abbrev Revoked : List QuiescenceInput → Prop :=
  Since (along (step lib) init (sameRound lib)) (along (step lib) init revocationArrives)

/-- In this transition a stationary encoder sample has arrived after a revocation. -/
abbrev StationaryAfter : List QuiescenceInput → Prop :=
  Since (along (step lib) init (sameRound lib))
    fun past input => stationaryArrives input ∧ Revoked lib init past

/-- What a passing check has to rest on; meanwhile the authority grants no motion. -/
def Justified (past : List QuiescenceInput) : Prop :=
  StationaryAfter lib init past ∧
    (after (step lib) init past).authority.supervisor.state.authority = .none ∧
    (after (step lib) init past).authority.supervisor.state.autonomyPermitted = false

/-- The barrier is checked. -/
def checks (link : QuiescenceLink) : QuiescenceInput → Prop
  | .supervisor (.check _) _ => link.supervisor.point.isQuiescing = true
  | _ => False

/-- The latch holds the time of a state that the authority produced before it had processed a mode
state of the current barrier, and the last encoder sample is a later stationary one. -/
def Misled (link : QuiescenceLink) : Prop :=
  link.revokedBy ≠ link.round ∧ ∃ revokedAt encoderAt,
    link.supervisor.authorityRevokedAt = some revokedAt ∧
      link.supervisor.encoderAt = some encoderAt ∧ revokedAt < encoderAt ∧
      link.supervisor.encoderStationary = true

variable {lib} {link : QuiescenceLink}

/-! ### The steps, case by case -/

theorem supervisorStep_begun {input : ModeInput}
    (h : ModeSupervisor.Begun link.supervisor (link.supervisor.step input)) :
    link.supervisorStep input =
      { link with
        supervisor := (link.supervisor.step input).1
        round := link.round + 1
        revokedBy := 0
        modeStates := link.modeStates ++
          [(link.round + 1, (link.supervisor.step input).1.runtime)] } := by
  unfold supervisorStep
  dsimp only
  rw [h.published, h.quiescing, h.point]
  rfl

theorem supervisorStep_quiesces {input : ModeInput}
    (hQuiescing : link.supervisor.point.isQuiescing = true)
    (h : ModeSupervisor.Quiesces link.supervisor (link.supervisor.step input)) :
    link.supervisorStep input =
      { link with
        supervisor := (link.supervisor.step input).1
        modeStates := link.modeStates ++
          (link.supervisor.step input).2.map fun state => (link.round, state) } := by
  unfold supervisorStep
  dsimp only
  rw [h.point, hQuiescing]
  rfl

theorem supervisorStep_away {input : ModeInput}
    (h : (link.supervisor.step input).1.point.isQuiescing = false) :
    link.supervisorStep input =
      { link with
        supervisor := (link.supervisor.step input).1
        modeStates := link.modeStates ++
          (link.supervisor.step input).2.map fun state => (0, state) } := by
  unfold supervisorStep
  dsimp only
  rw [h]
  rfl

theorem supervisorStep_silent {input : ModeInput}
    (hPoint : (link.supervisor.step input).1.point = link.supervisor.point)
    (hSilent : (link.supervisor.step input).2 = []) :
    link.supervisorStep input = { link with supervisor := (link.supervisor.step input).1 } := by
  unfold supervisorStep
  dsimp only
  rw [hPoint, hSilent, Bool.and_not_self]
  simp

theorem step_modeArrives_nil (h : link.modeStates = []) (now : ℚ) (read : ApplyInput) :
    link.step lib (.modeArrives now read) = link := by
  unfold step
  dsimp only
  rw [h]

theorem step_modeArrives_cons {number : ℕ} {state : RuntimeState}
    {rest : List (ℕ × RuntimeState)} (h : link.modeStates = (number, state) :: rest) (now : ℚ)
    (read : ApplyInput) :
    link.step lib (.modeArrives now read) =
      { link with
        authority := (link.authority.onMode lib state.message now read).1
        modeStates := rest
        processed := number
        authorityStates := link.authorityStates ++
          (sentStates (link.authority.onMode lib state.message now read).2).map
            fun state => (number, state) } := by
  unfold step
  dsimp only
  rw [h]

theorem step_authorityArrives_nil (h : link.authorityStates = []) :
    link.step lib .authorityArrives = link := by
  unfold step
  dsimp only
  rw [h]

theorem step_authorityArrives_cons {number : ℕ} {state : CommandAuthorityState}
    {rest : List (ℕ × CommandAuthorityState)} (h : link.authorityStates = (number, state) :: rest) :
    link.step lib .authorityArrives =
      { link with
        supervisor := link.supervisor.onAuthorityState state
        authorityStates := rest
        revokedBy := if link.supervisor.revokes state then number else link.revokedBy } := by
  unfold step
  dsimp only
  rw [h]

end QuiescenceLink

end PreRunner.Paddock
