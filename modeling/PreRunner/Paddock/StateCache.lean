import Mathlib.Algebra.Order.Field.Rat
import Mathlib.Logic.Function.Basic
import Mathlib.Logic.Relation

/-!
# The state cache

`StateCache` holds the latest value of every source with its reception time and a revision, which
changes when the transmitted value does. This module follows `runner_paddock/state_cache.py`;
payloads are of any type, compared by Python's `==`. The log of the entries a cache has held is
kept for the specification only.
-/

namespace PreRunner.Paddock

/-- The sources, in the order of `_entries`. -/
inductive Source where
  | pose | mode | commandAuthority | controlLease | stopState | localControl | adapterState
  | encoderState | initialPose | gateway | config | mapState | navigationState | recordingState
  | systemTelemetry | battery | obstacleProcessing | autonomyTuning
  | map | plan | globalCostmap | localCostmap
  deriving DecidableEq, Repr

namespace Source

def all : List Source :=
  [pose, mode, commandAuthority, controlLease, stopState, localControl, adapterState,
    encoderState, initialPose, gateway, config, mapState, navigationState, recordingState,
    systemTelemetry, battery, obstacleProcessing, autonomyTuning,
    map, plan, globalCostmap, localCostmap]

theorem mem_all (source : Source) : source ∈ all := by
  cases source <;> decide

/-- `_LARGE_SOURCES`; the others are `_SMALL_SOURCES`. -/
def large : Source → Bool
  | map | plan | globalCostmap | localCostmap => true
  | _ => false

/-- `_EXPIRY_SEC.get(name)`. -/
def expirySec : Source → Option ℚ
  | pose | mode | commandAuthority | controlLease | localControl | adapterState => some (1 / 2)
  | stopState => some 1
  | encoderState => some (1 / 5)
  | mapState => some 3
  | navigationState => some 2
  | globalCostmap => some 2
  | localCostmap => some 1
  | recordingState | systemTelemetry | battery => some (5 / 2)
  | _ => none

end Source

/-- One latest-wins source value and its local reception time. -/
structure Entry (V : Type) where
  value : Option V := none
  receivedAt : Option ℚ := none
  revision : ℕ := 0
  deriving DecidableEq

/-- The key of a section: payload revision and freshness. -/
structure SectionKey where
  revision : ℕ
  fresh : Bool
  deriving DecidableEq, Repr

/-- What is reported about one source. -/
structure SourceHealth where
  available : Bool
  fresh : Bool
  ageSec : Option ℚ
  revision : ℕ
  deriving DecidableEq, Repr

inductive HealthStatus where
  | starting
  | ok
  | degraded
  deriving DecidableEq, Repr

/-- One section of the state: the value of a small source, and the health of any. -/
structure SectionView (V : Type) where
  value : Option (Option V)
  health : SourceHealth
  deriving DecidableEq

namespace Entry

variable {V : Type}

/-- `_source_is_fresh`. -/
def isFresh (name : Source) (entry : Entry V) (now : ℚ) : Bool :=
  match entry.value, entry.receivedAt with
  | some _, some receivedAt =>
    match name.expirySec with
    | none => true
    | some expiry => now - receivedAt ≤ expiry
  | _, _ => false

/-- `_source_health`. -/
def health (name : Source) (entry : Entry V) (now : ℚ) : SourceHealth where
  available := entry.value.isSome && entry.receivedAt.isSome
  fresh := entry.isFresh name now
  ageSec := entry.receivedAt.map fun receivedAt => max 0 (now - receivedAt)
  revision := entry.revision

def key (name : Source) (entry : Entry V) (now : ℚ) : SectionKey where
  revision := entry.revision
  fresh := entry.isFresh name now

/-- The section of a source in a frame. -/
def view (name : Source) (entry : Entry V) (now : ℚ) : SectionView V where
  value := if name.large then none else some entry.value
  health := entry.health name now

end Entry

/-- The entries, and every entry that each source has held, latest first. -/
structure StateCache (V : Type) where
  entries : Source → Entry V := fun _ => {}
  log : Source → List (Entry V) := fun _ => [{}]

/-- The writes to the cache. -/
inductive CacheCall (V : Type) where
  | update (source : Source) (value : V) (now : ℚ)
  | invalidate (source : Source)

namespace StateCache

variable {V : Type}

def replace (cache : StateCache V) (source : Source) (entry : Entry V) : StateCache V where
  entries := Function.update cache.entries source entry
  log := Function.update cache.log source (entry :: cache.log source)

/-- Whether a value differs from the cached one; `same` is the `==` of the payloads. -/
def changed (same : V → V → Bool) (entry : Entry V) (value : V) : Bool :=
  match entry.value with
  | none => true
  | some old => !same old value

/-- Replace a source; the revision counts the changes of the transmitted value. -/
def update (same : V → V → Bool) (cache : StateCache V) (source : Source) (value : V) (now : ℚ) :
    StateCache V :=
  let entry := cache.entries source
  cache.replace source
    { value := some value
      receivedAt := some now
      revision := if changed same entry value then entry.revision + 1 else entry.revision }

/-- Discard one cached source and revision its transmitted tombstone. -/
def invalidate (cache : StateCache V) (source : Source) : StateCache V :=
  let entry := cache.entries source
  match entry.value with
  | none => cache
  | some _ =>
    cache.replace source { value := none, receivedAt := none, revision := entry.revision + 1 }

def write (same : V → V → Bool) (cache : StateCache V) : CacheCall V → StateCache V
  | .update source value now => cache.update same source value now
  | .invalidate source => cache.invalidate source

/-- The `status` of the two required sources. -/
def healthStatus (cache : StateCache V) (now : ℚ) : HealthStatus :=
  let pose := (cache.entries .pose).health .pose now
  let map := (cache.entries .map).health .map now
  if !pose.available && !map.available then .starting
  else if pose.fresh && map.fresh then .ok
  else .degraded

/-- Cheap payload and freshness keys for every section. -/
def stateSectionKeys (cache : StateCache V) (now : ℚ) (name : Source) : SectionKey :=
  (cache.entries name).key name now

/-- A complete state, and its atomic section keys. -/
def stateSnapshotWithKeys (cache : StateCache V) (now : ℚ) :
    ((Source → SectionView V) × HealthStatus) × (Source → SectionKey) :=
  ((fun name => (cache.entries name).view name now, cache.healthStatus now),
    cache.stateSectionKeys now)

/-- One section, with its key. -/
def stateSectionSnapshot (cache : StateCache V) (source : Source) (now : ℚ) :
    SectionKey × SectionView V × HealthStatus :=
  ((cache.entries source).key source now, (cache.entries source).view source now,
    cache.healthStatus now)

/-- The value of a large source and its revision. -/
def largeSnapshot (cache : StateCache V) (source : Source) : ℕ × Option V :=
  ((cache.entries source).revision, (cache.entries source).value)

/-! ## What the cache has held -/

/-- Values that Python's `==` does not tell apart, up to a chain of updates. -/
def SameValue (same : V → V → Bool) : Option V → Option V → Prop :=
  Relation.EqvGen fun a b => ∃ x y, a = some x ∧ b = some y ∧ same x y = true

/-- The log ends in the current entry, revisions only grow, and a revision stands for one
value. -/
structure Kept (same : V → V → Bool) (cache : StateCache V) : Prop where
  current : ∀ source, cache.entries source ∈ cache.log source
  revision : ∀ source, ∀ entry ∈ cache.log source,
    entry.revision ≤ (cache.entries source).revision
  value : ∀ source, ∀ entry ∈ cache.log source, ∀ other ∈ cache.log source,
    entry.revision = other.revision → SameValue same entry.value other.value

/-- A later state of a cache. -/
structure Later (cache next : StateCache V) : Prop where
  log : ∀ source, ∀ entry ∈ cache.log source, entry ∈ next.log source
  revision : ∀ source, (cache.entries source).revision ≤ (next.entries source).revision

theorem Later.refl (cache : StateCache V) : Later cache cache :=
  ⟨fun _ _ h => h, fun _ => le_rfl⟩

theorem Later.trans {cache middle next : StateCache V} (h : Later cache middle)
    (h' : Later middle next) : Later cache next :=
  ⟨fun source entry hEntry => h'.log source entry (h.log source entry hEntry),
    fun source => (h.revision source).trans (h'.revision source)⟩

variable {same : V → V → Bool} {cache : StateCache V}

@[simp] theorem replace_entries_self (source : Source) (entry : Entry V) :
    (cache.replace source entry).entries source = entry := Function.update_self ..

@[simp] theorem replace_log_self (source : Source) (entry : Entry V) :
    (cache.replace source entry).log source = entry :: cache.log source := Function.update_self ..

theorem replace_entries_of_ne {source other : Source} (entry : Entry V) (h : other ≠ source) :
    (cache.replace source entry).entries other = cache.entries other := Function.update_of_ne h ..

theorem replace_log_of_ne {source other : Source} (entry : Entry V) (h : other ≠ source) :
    (cache.replace source entry).log other = cache.log other := Function.update_of_ne h ..

theorem later_replace {source : Source} {entry : Entry V}
    (hRevision : (cache.entries source).revision ≤ entry.revision) :
    Later cache (cache.replace source entry) := by
  refine ⟨fun other old hOld => ?_, fun other => ?_⟩
  · by_cases hSource : other = source
    · subst hSource
      rw [replace_log_self]
      exact List.mem_cons_of_mem _ hOld
    · rwa [replace_log_of_ne entry hSource]
  · by_cases hSource : other = source
    · subst hSource
      rwa [replace_entries_self]
    · rw [replace_entries_of_ne entry hSource]

/-- A new entry has a new revision, or the value that its revision stands for. -/
theorem kept_replace (h : Kept same cache) {source : Source} {entry : Entry V}
    (hEntry : (cache.entries source).revision < entry.revision ∨
      (cache.entries source).revision = entry.revision ∧
        SameValue same (cache.entries source).value entry.value) :
    Kept same (cache.replace source entry) := by
  have hLe : (cache.entries source).revision ≤ entry.revision := by
    rcases hEntry with hLt | hEq
    · exact hLt.le
    · exact hEq.1.le
  -- What was held under the revision of the new entry has its value.
  have hNew : ∀ old ∈ cache.log source, old.revision = entry.revision →
      SameValue same old.value entry.value := by
    intro old hOld hRevision
    have hBound := h.revision source old hOld
    rcases hEntry with hLt | ⟨hEq, hSame⟩
    · omega
    · exact .trans _ _ _ (h.value source old hOld _ (h.current source) (by omega)) hSame
  refine ⟨fun other => ?_, fun other => ?_, fun other => ?_⟩
  · by_cases hSource : other = source
    · subst hSource
      rw [replace_entries_self, replace_log_self]
      exact List.mem_cons_self
    · rw [replace_entries_of_ne entry hSource, replace_log_of_ne entry hSource]
      exact h.current other
  · by_cases hSource : other = source
    · subst hSource
      rw [replace_entries_self, replace_log_self]
      intro old hOld
      rcases List.mem_cons.mp hOld with rfl | hOld
      · exact le_rfl
      · exact (h.revision other old hOld).trans hLe
    · rw [replace_entries_of_ne entry hSource, replace_log_of_ne entry hSource]
      exact h.revision other
  · by_cases hSource : other = source
    · subst hSource
      rw [replace_log_self]
      intro first hFirst second hSecond hEq
      rcases List.mem_cons.mp hFirst with rfl | hOld
      · rcases List.mem_cons.mp hSecond with rfl | hOld'
        · exact .refl _
        · exact .symm _ _ (hNew second hOld' hEq.symm)
      · rcases List.mem_cons.mp hSecond with rfl | hOld'
        · exact hNew first hOld hEq
        · exact h.value other first hOld second hOld' hEq
    · rw [replace_log_of_ne entry hSource]
      exact h.value other

/-- Every write keeps the log, and moves forward. -/
theorem kept_write (h : Kept same cache) (call : CacheCall V) :
    Kept same (cache.write same call) ∧ Later cache (cache.write same call) := by
  cases call with
  | update source value now =>
    have hRevision : (cache.entries source).revision <
          (if changed same (cache.entries source) value then (cache.entries source).revision + 1
            else (cache.entries source).revision) ∨
        (cache.entries source).revision =
          (if changed same (cache.entries source) value then (cache.entries source).revision + 1
            else (cache.entries source).revision) ∧
        SameValue same (cache.entries source).value (some value) := by
      cases hChanged : changed same (cache.entries source) value with
      | true => exact Or.inl (Nat.lt_succ_self _)
      | false =>
        refine Or.inr ⟨rfl, ?_⟩
        unfold changed at hChanged
        split at hChanged
        · cases hChanged
        · rename_i old hOld
          rw [Bool.not_eq_false'] at hChanged
          exact .rel _ _ ⟨old, value, hOld, rfl, hChanged⟩
    refine ⟨kept_replace h hRevision, later_replace ?_⟩
    rcases hRevision with hLt | hEq
    · exact hLt.le
    · exact hEq.1.le
  | invalidate source =>
    unfold write invalidate
    dsimp only
    split
    · exact ⟨h, .refl cache⟩
    · exact ⟨kept_replace h (Or.inl (Nat.lt_succ_self _)), later_replace (Nat.le_succ _)⟩

theorem kept_writes (calls : List (CacheCall V)) : ∀ cache : StateCache V, Kept same cache →
    Kept same (calls.foldl (write same) cache) ∧ Later cache (calls.foldl (write same) cache) := by
  induction calls with
  | nil => exact fun cache h => ⟨h, .refl cache⟩
  | cons call calls ih =>
    intro cache h
    obtain ⟨hKept, hLater⟩ := kept_write h call
    obtain ⟨hKept', hLater'⟩ := ih _ hKept
    exact ⟨hKept', hLater.trans hLater'⟩

theorem kept_init : Kept same ({} : StateCache V) := by
  refine ⟨fun _ => List.mem_singleton_self _, fun _ entry hEntry => ?_,
    fun _ entry hEntry other hOther _ => ?_⟩
  · obtain rfl := List.mem_singleton.mp hEntry
    exact le_rfl
  · obtain rfl := List.mem_singleton.mp hEntry
    obtain rfl := List.mem_singleton.mp hOther
    exact .refl _

end StateCache

end PreRunner.Paddock
