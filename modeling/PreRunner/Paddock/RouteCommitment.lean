import PreRunner.Paddock.PathIdentity
import PreRunner.Paddock.StateCache
import PreRunner.PyFloat
import PreRunner.Runs.History
import PreRunner.Runs.Mailbox
import PreRunner.Runs.Program

/-!
# The committed route

The state node shows a plan only together with the profile that the controller has committed to.
Plans and profiles arrive on their own topics and wait for each other under a key of stamp,
identity, length and frame. A profile that is superseded while its plan is missing keeps waiting;
when the plan arrives after all, an old route is shown. This module follows the callbacks
`_on_plan`, `_on_path_speed_profile` and `_on_navigation_state` of
`runner_paddock/ros_state_node.py`, which one executor thread runs one at a time.
-/

namespace PreRunner.Paddock

open Profile Runs

/-! ## Messages -/

structure PoseStamped where
  stamp : Time
  frameId : String
  pose : Pose Binary64

/-- `nav_msgs/Path` as the plan callback reads it. -/
structure PlanMessage where
  stamp : Time
  frameId : String
  poses : List PoseStamped
  size_lt : poses.length < 2 ^ 64

/-- The path that is identified. -/
def PlanMessage.path (message : PlanMessage) : BinaryPath where
  frameId := message.frameId
  stamp := message.stamp
  poses := message.poses.map (·.pose)
  size_lt := by rw [List.length_map]; exact message.size_lt

structure ProfilePointMessage where
  arclengthM : PyFloat
  speedCeilingMps : PyFloat
  cuspState : UInt8

/-- `runner_interfaces/PathSpeedProfile`. -/
structure ProfileMessage where
  frameId : String
  committedPathStamp : Time
  pathHash : UInt64
  poseCount : UInt32
  goalArclengthM : PyFloat
  presetCeilingMps : PyFloat
  creepSpeedMps : PyFloat
  points : List ProfilePointMessage

/-- `runner_interfaces/NavigationState`. -/
structure NavigationMessage where
  stamp : Time
  bootId : String
  state : UInt8
  missionId : String
  missionRevision : UInt64
  runtimeEpoch : UInt64
  mapId : String
  missionType : UInt8
  missionValid : Bool
  actionGeneration : UInt64
  goalUuid : String
  nav2Status : Int8
  errorCode : UInt16
  errorMeaning : String
  detail : String

/-! ## What is made of them -/

/-- The key under which a plan and its profile are joined. -/
structure RouteKey where
  sec : ℤ
  nanosec : ℕ
  pathHash : ℕ
  poseCount : ℕ
  frameId : String
  deriving DecidableEq

/-- `_stamp`. -/
def stampOf (stamp : Time) : Except PyError Time :=
  if 1000000000 ≤ stamp.nanosec then .error .valueError else .ok stamp

/-- `_path_key`. -/
def pathKey (message : PlanMessage) : Except PyError RouteKey := do
  let stamp ← stampOf message.stamp
  return {
    sec := stamp.sec
    nanosec := stamp.nanosec
    pathHash := ← pathIdentity message.path
    poseCount := message.poses.length
    frameId := message.frameId }

/-- `_profile_key`. -/
def profileKey (message : ProfileMessage) : Except PyError RouteKey := do
  let stamp ← stampOf message.committedPathStamp
  return {
    sec := stamp.sec
    nanosec := stamp.nanosec
    pathHash := message.pathHash.toNat
    poseCount := message.poseCount.toNat
    frameId := message.frameId }

/-- The geometry that waits for its profile. -/
structure PlanCandidate where
  stamp : Time
  frameId : String
  poses : List PoseStamped

def candidatePose (stamped : PoseStamped) : Except PyError PoseStamped := do
  let stamp ← stampOf stamped.stamp
  finite stamped.pose.components
  return { stamp, frameId := stamped.frameId, pose := stamped.pose }

def planCandidate (message : PlanMessage) : Except PyError PlanCandidate := do
  let poses ← message.poses.mapM candidatePose
  return { stamp := ← stampOf message.stamp, frameId := message.frameId, poses }

structure RoutePoint where
  arclengthM : ℚ
  speedCeilingMps : ℚ
  cuspState : ℕ

/-- The profile that waits for its geometry. -/
structure RouteProfile where
  committedPathStamp : Time
  pathHash : String
  poseCount : ℕ
  goalArclengthM : ℚ
  presetCeilingMps : ℚ
  creepSpeedMps : ℚ
  points : List RoutePoint

/-- A float that has passed `_finite`. -/
def finiteFloat (value : PyFloat) : Except PyError ℚ :=
  match value.finite? with
  | some value => .ok value
  | none => .error .valueError

/-- The points of a profile after an arclength; before the first there is none. -/
def routePoints : Option ℚ → List ProfilePointMessage → Except PyError (List RoutePoint)
  | _, [] => .ok []
  | previous, point :: rest => do
    let arclength ← finiteFloat point.arclengthM
    let ceiling ← finiteFloat point.speedCeilingMps
    if previous.any (arclength < ·) then .error .valueError
    else if ceiling < 0 then .error .valueError
    else
      let points ← routePoints (some arclength) rest
      return ⟨arclength, ceiling, point.cuspState.toNat⟩ :: points

def routeProfile (message : ProfileMessage) : Except PyError RouteProfile := do
  if message.points.length ≠ message.poseCount.toNat then .error .valueError
  else
    let goalArclengthM ← finiteFloat message.goalArclengthM
    let presetCeilingMps ← finiteFloat message.presetCeilingMps
    let creepSpeedMps ← finiteFloat message.creepSpeedMps
    if presetCeilingMps ≤ 0 then .error .valueError
    else
      let points ← routePoints none message.points
      return {
        committedPathStamp := ← stampOf message.committedPathStamp
        pathHash := toString message.pathHash.toNat
        poseCount := message.poseCount.toNat
        goalArclengthM, presetCeilingMps, creepSpeedMps, points }

/-- What identifies a route of the navigation runtime. -/
structure RouteIdentity where
  bootId : String
  missionId : String
  missionRevision : ℕ
  actionGeneration : ℕ
  missionValid : Bool
  deriving DecidableEq

def NavigationMessage.routeIdentity (message : NavigationMessage) : RouteIdentity where
  bootId := message.bootId
  missionId := message.missionId
  missionRevision := message.missionRevision.toNat
  actionGeneration := message.actionGeneration.toNat
  missionValid := message.missionValid

/-- The payloads that the callbacks cache. -/
inductive RoutePayload where
  | route (candidate : PlanCandidate) (profile : RouteProfile)
  | navigation (message : NavigationMessage)

/-! ## The callbacks -/

/-- The fields of `RosStateNode` that join plans and profiles, and its cache. -/
structure RouteNode where
  pendingPlanCandidates : List (RouteKey × PlanCandidate) := []
  pendingPathProfiles : List (RouteKey × RouteProfile) := []
  committedProfileIdentity : Option RouteKey := none
  navigationRouteIdentity : Option RouteIdentity := none
  cache : StateCache RoutePayload := {}

/-- A message and the time at which its callback runs. -/
inductive RouteInput where
  | plan (message : PlanMessage) (now : ℚ)
  | profile (message : ProfileMessage) (now : ℚ)
  | navigation (message : NavigationMessage) (now : ℚ)

/-- Drop the oldest candidates down to sixteen. -/
def keepLatest (candidates : List (RouteKey × PlanCandidate)) : List (RouteKey × PlanCandidate) :=
  candidates.drop (candidates.length - 16)

/-- What `_on_plan` makes of a message before it changes anything. -/
def acceptPlan (message : PlanMessage) : Except PyError (RouteKey × PlanCandidate) := do
  let candidate ← planCandidate message
  return (← pathKey message, candidate)

/-- What `_on_path_speed_profile` makes of a message before it changes anything. -/
def acceptProfile (message : ProfileMessage) : Except PyError (RouteKey × RouteProfile) := do
  let key ← profileKey message
  return (key, ← routeProfile message)

namespace RouteNode

variable (same : RoutePayload → RoutePayload → Bool)

/-- `_commit_profiled_route`. -/
def commitProfiledRoute (node : RouteNode) (key : RouteKey) (now : ℚ) : RouteNode :=
  match node.pendingPlanCandidates.lookup key, node.pendingPathProfiles.lookup key with
  | some candidate, some profile =>
    { node with
      cache := node.cache.update same .plan (.route candidate profile) now
      pendingPlanCandidates := []
      pendingPathProfiles := [] }
  | _, _ => node

/-- `_on_plan`. -/
def onPlan (node : RouteNode) (message : PlanMessage) (now : ℚ) : RouteNode :=
  match acceptPlan message with
  | .error _ => node
  | .ok (key, candidate) =>
    commitProfiledRoute same
      { node with
        pendingPlanCandidates :=
          keepLatest (Mailbox.assign key candidate node.pendingPlanCandidates) } key now

/-- `_on_path_speed_profile`. -/
def onPathSpeedProfile (node : RouteNode) (message : ProfileMessage) (now : ℚ) : RouteNode :=
  match acceptProfile message with
  | .error _ => node
  | .ok (key, profile) =>
    let node :=
      if some key ≠ node.committedProfileIdentity then
        { node with
          cache := if (node.pendingPlanCandidates.lookup key).isNone then
            node.cache.invalidate .plan else node.cache
          committedProfileIdentity := some key }
      else node
    commitProfiledRoute same
      { node with
        pendingPathProfiles := Mailbox.assign key profile node.pendingPathProfiles } key now

/-- `_on_navigation_state`; a bad stamp is found after the route has been dropped. -/
def onNavigationState (node : RouteNode) (message : NavigationMessage) (now : ℚ) : RouteNode :=
  let identity := message.routeIdentity
  let node :=
    if node.navigationRouteIdentity.isSome ∧ some identity ≠ node.navigationRouteIdentity then
      { node with
        cache := node.cache.invalidate .plan
        pendingPlanCandidates := []
        pendingPathProfiles := []
        committedProfileIdentity := none }
    else node
  let node := { node with navigationRouteIdentity := some identity }
  match stampOf message.stamp with
  | .error _ => node
  | .ok _ =>
    { node with cache := node.cache.update same .navigationState (.navigation message) now }

def step (node : RouteNode) : RouteInput → RouteNode
  | .plan message now => node.onPlan same message now
  | .profile message now => node.onPathSpeedProfile same message now
  | .navigation message now => node.onNavigationState same message now

end RouteNode

/-! ## Candidates -/

theorem stampOf_eq {stamp stamp' : Time} (h : stampOf stamp = .ok stamp') : stamp' = stamp := by
  unfold stampOf at h
  split at h
  · exact nomatch h
  · exact (Except.ok.inj h).symm

theorem candidatePose_eq {stamped kept : PoseStamped} (h : candidatePose stamped = .ok kept) :
    kept = stamped := by
  obtain ⟨stamp, hStamp, h⟩ := ok_of_bind h
  obtain ⟨-, -, h⟩ := ok_of_bind h
  cases h
  rw [stampOf_eq hStamp]

theorem mapM_candidatePose_eq {poses kept : List PoseStamped}
    (h : poses.mapM candidatePose = .ok kept) : kept = poses := by
  induction poses generalizing kept with
  | nil =>
    rw [List.mapM_nil] at h
    exact (Except.ok.inj h).symm
  | cons stamped rest ih =>
    rw [List.mapM_cons] at h
    obtain ⟨first, hFirst, h⟩ := ok_of_bind h
    obtain ⟨others, hOthers, h⟩ := ok_of_bind h
    cases h
    rw [candidatePose_eq hFirst, ih hOthers]

/-- A candidate shows the message it was built from. -/
theorem planCandidate_eq {message : PlanMessage} {candidate : PlanCandidate}
    (h : planCandidate message = .ok candidate) :
    candidate = ⟨message.stamp, message.frameId, message.poses⟩ := by
  obtain ⟨poses, hPoses, h⟩ := ok_of_bind h
  obtain ⟨stamp, hStamp, h⟩ := ok_of_bind h
  cases h
  rw [mapM_candidatePose_eq hPoses, stampOf_eq hStamp]

/-- The key of a message is determined by its candidate. -/
theorem pathKey_of_candidate {message other : PlanMessage} {candidate : PlanCandidate}
    (h : planCandidate message = .ok candidate) (h' : planCandidate other = .ok candidate) :
    pathKey message = pathKey other := by
  obtain ⟨stamp, frameId, poses, hSize⟩ := message
  obtain ⟨stamp', frameId', poses', hSize'⟩ := other
  cases (planCandidate_eq h).symm.trans (planCandidate_eq h')
  rfl

theorem acceptPlan_eq {message : PlanMessage} {key : RouteKey} {candidate : PlanCandidate}
    (h : acceptPlan message = .ok (key, candidate)) :
    planCandidate message = .ok candidate ∧ pathKey message = .ok key := by
  obtain ⟨built, hCandidate, h⟩ := ok_of_bind h
  obtain ⟨identified, hKey, h⟩ := ok_of_bind h
  cases h
  exact ⟨hCandidate, hKey⟩

theorem length_keepLatest (candidates : List (RouteKey × PlanCandidate)) :
    (keepLatest candidates).length ≤ 16 := by
  unfold keepLatest
  rw [List.length_drop]
  omega

/-- A candidate that was just assigned is kept among sixteen. -/
theorem lookup_keepLatest {candidates : List (RouteKey × PlanCandidate)}
    (hLength : candidates.length ≤ 16) (key : RouteKey) (candidate : PlanCandidate) :
    (keepLatest (Mailbox.assign key candidate candidates)).lookup key = some candidate := by
  have hSelf := Mailbox.lookup_assign_self key candidate candidates
  unfold keepLatest
  rcases Mailbox.assign_cases key candidate candidates with ⟨hNew, hAppend⟩ | hSame
  · have hOthers : (candidates.drop (candidates.length + 1 - 16)).lookup key = none :=
      List.lookup_eq_none_iff.mpr fun entry hEntry =>
        bne_iff_ne.mpr (hNew entry (List.mem_of_mem_drop hEntry)).symm
    rw [hAppend, List.length_append, List.length_singleton,
      List.drop_append_of_le_length (by omega), List.lookup_append, hOthers]
    exact List.lookup_cons_self
  · rw [hSame, Nat.sub_eq_zero_of_le hLength]
    exact hSelf

/-! ## What is shown -/

/-- The cached plan, if any, was built from a received plan whose key is the committed one. -/
def ShowsCommitted (past : List RouteInput) (node : RouteNode) : Prop :=
  ∀ payload, (node.cache.entries .plan).value = some payload →
    ∃ message now candidate profile key, RouteInput.plan message now ∈ past ∧
      planCandidate message = .ok candidate ∧ payload = .route candidate profile ∧
      pathKey message = .ok key ∧ node.committedProfileIdentity = some key

/-- A plan that is accepted while a profile waits under its key comes while that key is the
committed one. -/
def InTime (node : RouteNode) : RouteInput → Prop
  | .plan message _ => ∀ key candidate, acceptPlan message = .ok (key, candidate) →
      (node.pendingPathProfiles.lookup key).isSome → node.committedProfileIdentity = some key
  | _ => True

/-- The candidates are at most sixteen, each from a received plan with its key. -/
structure Waiting (past : List RouteInput) (node : RouteNode) : Prop where
  length : node.pendingPlanCandidates.length ≤ 16
  received : ∀ key candidate, (key, candidate) ∈ node.pendingPlanCandidates →
    ∃ message now, RouteInput.plan message now ∈ past ∧
      planCandidate message = .ok candidate ∧ pathKey message = .ok key

namespace RouteNode

variable {same : RoutePayload → RoutePayload → Bool} {node : RouteNode} {past : List RouteInput}

/-- A commitment shows the candidate of the key, and there is none without both parts. -/
theorem commitProfiledRoute_cases (key : RouteKey) (now : ℚ) :
    (∃ candidate profile, node.pendingPlanCandidates.lookup key = some candidate ∧
        node.pendingPathProfiles.lookup key = some profile ∧
        (node.commitProfiledRoute same key now).pendingPlanCandidates = [] ∧
        (node.commitProfiledRoute same key now).committedProfileIdentity =
          node.committedProfileIdentity ∧
        ((node.commitProfiledRoute same key now).cache.entries .plan).value =
          some (.route candidate profile)) ∨
      ((node.pendingPlanCandidates.lookup key = none ∨ node.pendingPathProfiles.lookup key = none) ∧
        node.commitProfiledRoute same key now = node) := by
  unfold commitProfiledRoute
  split
  · rename_i candidate profile hCandidate hProfile
    refine Or.inl ⟨candidate, profile, hCandidate, hProfile, rfl, rfl, ?_⟩
    dsimp only [StateCache.update]
    rw [StateCache.replace_entries_self]
  · rename_i hNone
    refine Or.inr ⟨?_, rfl⟩
    cases hCandidate : node.pendingPlanCandidates.lookup key with
    | none => exact Or.inl rfl
    | some candidate =>
      cases hProfile : node.pendingPathProfiles.lookup key with
      | none => exact Or.inr rfl
      | some profile => exact absurd hProfile (hNone candidate profile hCandidate)

theorem invalidate_value (cache : StateCache RoutePayload) (source : Source) :
    ((cache.invalidate source).entries source).value = none := by
  unfold StateCache.invalidate
  dsimp only
  split
  · assumption
  · rw [StateCache.replace_entries_self]

/-- What a plan does: it is rejected, it waits, or it is shown with the profile that waited. -/
theorem onPlan_cases (hLength : node.pendingPlanCandidates.length ≤ 16) (message : PlanMessage)
    (now : ℚ) :
    ((∀ accepted, acceptPlan message ≠ .ok accepted) ∧ node.onPlan same message now = node) ∨
      ∃ key candidate, acceptPlan message = .ok (key, candidate) ∧
        (node.onPlan same message now).committedProfileIdentity = node.committedProfileIdentity ∧
        ((node.pendingPathProfiles.lookup key = none ∧
            (node.onPlan same message now).pendingPlanCandidates =
              keepLatest (Mailbox.assign key candidate node.pendingPlanCandidates) ∧
            (node.onPlan same message now).cache = node.cache) ∨
          ∃ profile, node.pendingPathProfiles.lookup key = some profile ∧
            (node.onPlan same message now).pendingPlanCandidates = [] ∧
            ((node.onPlan same message now).cache.entries .plan).value =
              some (.route candidate profile)) := by
  unfold onPlan
  cases hAccept : acceptPlan message with
  | error error => exact Or.inl ⟨nofun, rfl⟩
  | ok accepted =>
    obtain ⟨key, candidate⟩ := accepted
    refine Or.inr ⟨key, candidate, rfl, ?_⟩
    dsimp only
    have hKept := lookup_keepLatest hLength key candidate
    rcases @commitProfiledRoute_cases same { node with
        pendingPlanCandidates :=
          keepLatest (Mailbox.assign key candidate node.pendingPlanCandidates) } key now with
      ⟨kept, profile, hCandidate, hProfile, hNone, hCommitted, hShown⟩ | ⟨hMissing, hSame⟩
    · cases hKept.symm.trans hCandidate
      exact ⟨hCommitted, Or.inr ⟨profile, hProfile, hNone, hShown⟩⟩
    · rw [hSame]
      refine ⟨rfl, Or.inl ⟨hMissing.resolve_left fun hGone => ?_, rfl, rfl⟩⟩
      exact nomatch hKept.symm.trans hGone

/-- What a profile does: it is rejected, or it is committed. Then its candidate is shown, or
nothing is shown unless it was committed already. -/
theorem onPathSpeedProfile_cases (message : ProfileMessage) (now : ℚ) :
    node.onPathSpeedProfile same message now = node ∨
      ∃ key, (node.onPathSpeedProfile same message now).committedProfileIdentity = some key ∧
        ((∃ candidate profile, node.pendingPlanCandidates.lookup key = some candidate ∧
            (node.onPathSpeedProfile same message now).pendingPlanCandidates = [] ∧
            ((node.onPathSpeedProfile same message now).cache.entries .plan).value =
              some (.route candidate profile)) ∨
          (node.onPathSpeedProfile same message now).pendingPlanCandidates =
              node.pendingPlanCandidates ∧
            (((node.onPathSpeedProfile same message now).cache.entries .plan).value = none ∨
              node.committedProfileIdentity = some key ∧
                (node.onPathSpeedProfile same message now).cache = node.cache)) := by
  unfold onPathSpeedProfile
  cases acceptProfile message with
  | error error => exact Or.inl rfl
  | ok accepted =>
    obtain ⟨key, profile⟩ := accepted
    refine Or.inr ⟨key, ?_⟩
    dsimp only
    by_cases hNew : some key ≠ node.committedProfileIdentity
    · rw [if_pos hNew]
      rcases @commitProfiledRoute_cases same { node with
          cache := if (node.pendingPlanCandidates.lookup key).isNone then
            node.cache.invalidate .plan else node.cache
          committedProfileIdentity := some key
          pendingPathProfiles := Mailbox.assign key profile node.pendingPathProfiles } key now with
        ⟨candidate, profile, hCandidate, -, hNone, hCommitted, hShown⟩ | ⟨hMissing, hSame⟩
      · exact ⟨hCommitted, Or.inl ⟨candidate, profile, hCandidate, hNone, hShown⟩⟩
      · rw [hSame]
        have hGone : node.pendingPlanCandidates.lookup key = none :=
          hMissing.resolve_right fun hNone => nomatch
            (Mailbox.lookup_assign_self key profile node.pendingPathProfiles).symm.trans hNone
        refine ⟨rfl, Or.inr ⟨rfl, Or.inl ?_⟩⟩
        dsimp only
        rw [hGone]
        exact invalidate_value node.cache .plan
    · rw [if_neg hNew]
      have hCommitted := (not_not.mp hNew).symm
      rcases @commitProfiledRoute_cases same { node with
          pendingPathProfiles := Mailbox.assign key profile node.pendingPathProfiles } key now with
        ⟨candidate, profile, hCandidate, -, hNone, hKept, hShown⟩ | ⟨-, hSame⟩
      · exact ⟨hKept.trans hCommitted, Or.inl ⟨candidate, profile, hCandidate, hNone, hShown⟩⟩
      · rw [hSame]
        exact ⟨hCommitted, Or.inr ⟨rfl, Or.inr ⟨hCommitted, rfl⟩⟩⟩

/-- What a navigation state does: it drops the route, or it keeps all of it. -/
theorem onNavigationState_cases (message : NavigationMessage) (now : ℚ) :
    ((node.onNavigationState same message now).pendingPlanCandidates = [] ∧
        ((node.onNavigationState same message now).cache.entries .plan).value = none) ∨
      ((node.onNavigationState same message now).pendingPlanCandidates =
          node.pendingPlanCandidates ∧
        (node.onNavigationState same message now).committedProfileIdentity =
          node.committedProfileIdentity ∧
        (node.onNavigationState same message now).cache.entries .plan =
          node.cache.entries .plan) := by
  have hOther : ∀ cache : StateCache RoutePayload,
      (cache.update same .navigationState (.navigation message) now).entries .plan =
        cache.entries .plan := fun cache => StateCache.replace_entries_of_ne _ (by decide)
  unfold onNavigationState
  dsimp only
  by_cases hChanged : node.navigationRouteIdentity.isSome ∧
      some message.routeIdentity ≠ node.navigationRouteIdentity
  · rw [if_pos hChanged]
    refine Or.inl ?_
    split
    · exact ⟨rfl, invalidate_value node.cache .plan⟩
    · refine ⟨rfl, ?_⟩
      dsimp only
      rw [hOther]
      exact invalidate_value node.cache .plan
  · rw [if_neg hChanged]
    refine Or.inr ?_
    split
    · exact ⟨rfl, rfl, rfl⟩
    · exact ⟨rfl, rfl, hOther node.cache⟩

end RouteNode

/-! ## Every run -/

section Runs

variable {same : RoutePayload → RoutePayload → Bool} {node node' : RouteNode}
  {past : List RouteInput} {input : RouteInput}

theorem Waiting.kept (h : Waiting past node)
    (hSame : node'.pendingPlanCandidates = node.pendingPlanCandidates) :
    Waiting (input :: past) node' := by
  refine ⟨hSame ▸ h.length, fun key candidate hWaits => ?_⟩
  obtain ⟨message, now, hReceived, hMade⟩ := h.received key candidate (hSame ▸ hWaits)
  exact ⟨message, now, List.mem_cons_of_mem _ hReceived, hMade⟩

theorem Waiting.cleared (hNone : node'.pendingPlanCandidates = []) : Waiting past node' := by
  refine ⟨hNone ▸ Nat.zero_le _, fun key candidate hWaits => ?_⟩
  rw [hNone] at hWaits
  exact absurd hWaits List.not_mem_nil

theorem waiting_step (h : Waiting past node) (input : RouteInput) :
    Waiting (input :: past) (node.step same input) := by
  cases input with
  | plan message now =>
    rcases @RouteNode.onPlan_cases same node h.length message now with
      ⟨-, hSame⟩ | ⟨key, candidate, hAccept, -, ⟨-, hWaits, -⟩ | ⟨profile, -, hNone, -⟩⟩
    · exact h.kept (congrArg RouteNode.pendingPlanCandidates hSame)
    · obtain ⟨hCandidate, hKey⟩ := acceptPlan_eq hAccept
      refine ⟨?_, fun key' candidate' hIn => ?_⟩
      · exact hWaits ▸ length_keepLatest _
      · have hAssigned := List.mem_of_mem_drop (hWaits ▸ hIn)
        rcases Mailbox.eq_or_mem_of_mem_assign hAssigned with hNew | hOld
        · cases hNew
          exact ⟨message, now, List.mem_cons_self, hCandidate, hKey⟩
        · obtain ⟨message', now', hReceived, hMade⟩ := h.received key' candidate' hOld
          exact ⟨message', now', List.mem_cons_of_mem _ hReceived, hMade⟩
    · exact .cleared hNone
  | profile message now =>
    rcases @RouteNode.onPathSpeedProfile_cases same node message now with
      hSame | ⟨key, -, ⟨candidate, profile, -, hNone, -⟩ | ⟨hSame, -⟩⟩
    · exact h.kept (congrArg RouteNode.pendingPlanCandidates hSame)
    · exact .cleared hNone
    · exact h.kept hSame
  | navigation message now =>
    rcases @RouteNode.onNavigationState_cases same node message now with
      ⟨hNone, -⟩ | ⟨hSame, -⟩
    · exact .cleared hNone
    · exact h.kept hSame

theorem ShowsCommitted.kept (h : ShowsCommitted past node)
    (hPlan : (node'.cache.entries .plan).value = (node.cache.entries .plan).value)
    (hCommitted : node'.committedProfileIdentity = node.committedProfileIdentity) :
    ShowsCommitted (input :: past) node' := by
  intro payload hPayload
  obtain ⟨message, now, candidate, profile, key, hReceived, hMade, hEq, hKey, hSame⟩ :=
    h payload (hPlan ▸ hPayload)
  exact ⟨message, now, candidate, profile, key, List.mem_cons_of_mem _ hReceived, hMade, hEq, hKey,
    hCommitted.trans hSame⟩

/-- Nothing is shown. -/
theorem ShowsCommitted.nothing (hNone : (node'.cache.entries .plan).value = none) :
    ShowsCommitted past node' := fun _ hPayload => nomatch hNone.symm.trans hPayload

/-- A profile and a navigation state keep what is shown committed, and a plan does if it comes in
time. -/
theorem showsCommitted_step_iff (hWaiting : Waiting past node) (h : ShowsCommitted past node)
    (input : RouteInput) :
    ShowsCommitted (input :: past) (node.step same input) ↔ InTime node input := by
  cases input with
  | plan message now =>
    rcases @RouteNode.onPlan_cases same node hWaiting.length message now with
      ⟨hReject, hSame⟩ | ⟨key, candidate, hAccept, hCommitted, hCases⟩
    · refine iff_of_true ?_ fun key candidate hAccept => absurd hAccept (hReject _)
      exact h.kept (congrArg (fun n : RouteNode => (n.cache.entries .plan).value) hSame)
        (congrArg RouteNode.committedProfileIdentity hSame)
    · obtain ⟨hCandidate, hKey⟩ := acceptPlan_eq hAccept
      rcases hCases with ⟨hNoProfile, -, hCache⟩ | ⟨profile, hProfile, -, hShown⟩
      · refine iff_of_true ?_ fun key' candidate' hAccept' hSome => ?_
        · exact h.kept (congrArg (fun c : StateCache RoutePayload => (c.entries .plan).value)
            hCache)
            hCommitted
        · cases hAccept.symm.trans hAccept'
          rw [hNoProfile] at hSome
          exact nomatch hSome
      · constructor
        · intro hShows key' candidate' hAccept' _
          cases hAccept.symm.trans hAccept'
          obtain ⟨other, now', candidate'', profile', key'', -, hMade, hEq, hKey', hSame⟩ :=
            hShows _ hShown
          cases hEq
          rw [pathKey_of_candidate hMade hCandidate] at hKey'
          cases hKey.symm.trans hKey'
          exact hCommitted.symm.trans hSame
        · intro hInTime payload hPayload
          have hSame := hInTime key candidate hAccept (by rw [hProfile]; rfl)
          cases hShown.symm.trans hPayload
          exact ⟨message, now, candidate, profile, key, List.mem_cons_self, hCandidate, rfl, hKey,
            hCommitted.trans hSame⟩
  | profile message now =>
    refine iff_of_true ?_ trivial
    rcases @RouteNode.onPathSpeedProfile_cases same node message now with
      hSame | ⟨key, hCommitted, ⟨candidate, profile, hWaits, -, hShown⟩ |
        ⟨-, hNone | ⟨hOld, hCache⟩⟩⟩
    · exact h.kept (congrArg (fun n : RouteNode => (n.cache.entries .plan).value) hSame)
        (congrArg RouteNode.committedProfileIdentity hSame)
    · intro payload hPayload
      obtain ⟨before, rest, hSplit, -⟩ := List.lookup_eq_some_iff.mp hWaits
      obtain ⟨plan, now', hReceived, hMade, hKey⟩ := hWaiting.received key candidate
        (hSplit ▸ List.mem_append_right before List.mem_cons_self)
      cases hShown.symm.trans hPayload
      exact ⟨plan, now', candidate, profile, key, List.mem_cons_of_mem _ hReceived, hMade, rfl,
        hKey,
        hCommitted⟩
    · exact .nothing hNone
    · exact h.kept (congrArg (fun c : StateCache RoutePayload => (c.entries .plan).value) hCache)
        (hCommitted.trans hOld.symm)
  | navigation message now =>
    refine iff_of_true ?_ trivial
    rcases @RouteNode.onNavigationState_cases same node message now with
      ⟨-, hNone⟩ | ⟨-, hCommitted, hPlan⟩
    · exact .nothing hNone
    · exact h.kept (congrArg Entry.value hPlan) hCommitted

variable (same)

theorem waiting_after (past : List RouteInput) :
    Waiting past (after (RouteNode.step same) {} past) :=
  after_history_invariant (P := Waiting) (.cleared rfl) (fun _ _ input h => waiting_step h input)
    past

/-- In every state of a run the route that is shown is the committed one, exactly when every plan
with a waiting profile comes while its key is the committed one. `showsCommitted_step_iff` is the
equivalence for one step, given what waits for its other half (`waiting_after`). -/
theorem shown_route_iff (past : List RouteInput) :
    Always (fun past input => ShowsCommitted (input :: past)
        (after (RouteNode.step same) {} (input :: past))) past ↔
      Always (along (RouteNode.step same) {} InTime) past := by
  have hStart : ShowsCommitted [] ({} : RouteNode) := .nothing rfl
  have hLatest : ∀ {past}, Always (fun past input => ShowsCommitted (input :: past)
      (after (RouteNode.step same) {} (input :: past))) past →
        ShowsCommitted past (after (RouteNode.step same) {} past) := by
    intro past h
    cases past with
    | nil => exact hStart
    | cons input past => exact h.1
  induction past with
  | nil => exact Iff.rfl
  | cons input past ih =>
    have hWaiting := waiting_after same past
    constructor
    · rintro ⟨hShows, hPast⟩
      exact ⟨(showsCommitted_step_iff hWaiting (hLatest hPast) input).mp hShows, ih.mp hPast⟩
    · rintro ⟨hInTime, hPast⟩
      exact ⟨(showsCommitted_step_iff hWaiting (hLatest (ih.mpr hPast)) input).mpr hInTime,
        ih.mpr hPast⟩

end Runs

/-! ## A plan that is late -/

/-- A plan of one pose. -/
def standingPlan (sec : ℤ) : PlanMessage where
  stamp := ⟨sec, 0⟩
  frameId := "map"
  poses := [⟨⟨sec, 0⟩, "map",
    ⟨⟨.zero, .zero, .zero⟩, ⟨.zero, .zero, .zero, ⟨0x3ff0000000000000⟩⟩⟩⟩]
  size_lt := by rw [List.length_singleton]; decide

/-- The profile that commits to it. -/
def standingProfile (sec : ℤ) : ProfileMessage where
  frameId := "map"
  committedPathStamp := ⟨sec, 0⟩
  pathHash := (standingPlan sec).path.pathIdentity
  poseCount := 1
  goalArclengthM := .finite 0
  presetCeilingMps := .finite 1
  creepSpeedMps := .finite (1 / 4)
  points := [⟨.finite 0, .finite 0, 0⟩]

/-- Two profiles come before their plans. Latest input first. -/
def twoProfiles : List RouteInput :=
  [.profile (standingProfile 2) 2, .profile (standingProfile 1) 1]

/-- The plan of the first is late. -/
def supersededRun : List RouteInput := .plan (standingPlan 1) 3 :: twoProfiles

/-- The superseded route is shown. -/
theorem superseded_route_shown :
    ¬ ShowsCommitted supersededRun
      (after (RouteNode.step fun _ _ => false) {} supersededRun) := by
  intro hShows
  unfold supersededRun at hShows
  rw [after_cons] at hShows
  have hWaiting := waiting_after (fun _ _ => false) twoProfiles
  have hNothing : ((after (RouteNode.step fun _ _ => false) {} twoProfiles).cache.entries
      .plan).value.isNone = true := by decide +kernel
  have hLate : (match acceptPlan (standingPlan 1) with
      | .error _ => false
      | .ok (key, _) =>
        ((after (RouteNode.step fun _ _ => false) {} twoProfiles).pendingPathProfiles.lookup
            key).isSome &&
          (after (RouteNode.step fun _ _ => false) {} twoProfiles).committedProfileIdentity !=
            some key) = true := by decide +kernel
  have hInTime := (showsCommitted_step_iff hWaiting
    (.nothing (Option.isNone_iff_eq_none.mp hNothing)) _).mp hShows
  cases hAccept : acceptPlan (standingPlan 1) with
  | error error =>
    rw [hAccept] at hLate
    exact nomatch hLate
  | ok accepted =>
    rw [hAccept] at hLate
    obtain ⟨hWaits, hOther⟩ := (Bool.and_eq_true _ _).mp hLate
    exact bne_iff_ne.mp hOther (hInTime accepted.1 accepted.2 hAccept hWaits)

end PreRunner.Paddock
