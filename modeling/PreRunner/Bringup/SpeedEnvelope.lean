import Mathlib.Algebra.Order.Field.Rat
import Mathlib.Data.List.Forall2
import PreRunner.PyFloat
import PreRunner.Runs.History

/-!
# The speed-envelope observer

The observer reads the parameters of the running nodes, a few at a tick, and reports how they
compare with the committed origin. Answers come late, in any order or never. This module follows
`runner_bringup/speed_envelope_observer.py`; the result says what the reports are about.

The trace lists what has happened to the requests, and `outcome` reads off it how the latest
request of a value has ended. `Sound` says that the store agrees with the trace for every origin;
it is kept by every event, so a report is as right as the trace (`reports_latest_requests`).
-/

namespace PreRunner.Bringup

open Runs

def maxRequestsPerNodePerTick : ℕ := 8

/-- The value of a parameter. -/
inductive Scalar where
  | bool (value : Bool)
  | int (value : ℤ)
  | double (value : PyFloat)
  deriving DecidableEq

/-- `math.isclose` with both tolerances at `1e-12`. -/
def isClose : PyFloat → PyFloat → Bool
  | .finite value, .finite other =>
    let tolerance : ℚ := 1 / 1000000000000
    |value - other| ≤ tolerance * |other| || |value - other| ≤ tolerance * |value| ||
      |value - other| ≤ tolerance
  | .inf negative, .inf otherNegative => negative = otherNegative
  | _, _ => false

/-- `values_equal`. -/
def valuesEqual : Scalar → Scalar → Bool
  | .bool origin, .bool observed => origin = observed
  | .int origin, .int observed => origin = observed
  | .double origin, .double observed => isClose origin observed
  | _, _ => false

structure OriginValue where
  key : String
  nodeName : String
  parameterName : String
  value : Scalar

/-! ## The store -/

structure Observation where
  token : ℕ := 0
  deadline : ℚ := 0
  inFlight : Bool := false
  available : Bool := false
  value : Option Scalar := none
  detail : String := "not_requested"

namespace Observation

/-- `ReconciliationStore.begin`. -/
def begin (o : Observation) (now timeout : ℚ) : Observation where
  token := o.token + 1
  deadline := now + timeout
  inFlight := true
  available := false
  value := none
  detail := "pending"

/-- `ReconciliationStore.resolve`. -/
def resolve (o : Observation) (token : ℕ) (value : Option Scalar) (detail : String) :
    Observation :=
  if token ≠ o.token ∨ o.inFlight = false then o
  else { o with
    inFlight := false
    available := detail = "available"
    value := if detail = "available" then value else none
    detail := detail }

/-- `ReconciliationStore.expire`. -/
def expire (o : Observation) (now : ℚ) : Observation :=
  if o.inFlight = true ∧ o.deadline ≤ now then
    { o with inFlight := false, available := false, value := none, detail := "timeout" }
  else o

/-- The value that is shown. -/
def shown (o : Observation) : Option Scalar := if o.available then o.value else none

/-- What the request ended with, if it has ended. -/
def outcome (o : Observation) : Option (Option Scalar) :=
  if o.inFlight then none else some o.shown

end Observation

/-! ## The reports -/

/-- `SpeedEnvelopeEntry.DIVERGENCE_*`. -/
inductive Divergence where
  | unknown
  | same
  | different
  deriving DecidableEq

structure SpeedEnvelopeEntry where
  key : String
  nodeName : String
  parameterName : String
  origin : Scalar
  available : Bool
  detail : String
  observed : Option Scalar
  divergence : Divergence

def buildEntry (origin : OriginValue) (o : Observation) : SpeedEnvelopeEntry where
  key := origin.key
  nodeName := origin.nodeName
  parameterName := origin.parameterName
  origin := origin.value
  available := o.available
  detail := o.detail
  observed := o.shown
  divergence :=
    if o.available then
      if o.value.any (valuesEqual origin.value) then .same else .different
    else .unknown

structure SpeedEnvelopeStatus where
  entries : List SpeedEnvelopeEntry
  allAvailable : Bool
  anyDivergence : Bool

/-! ## The node -/

/-- A value as the parameter service sends it. -/
inductive ParameterMessage where
  | scalar (value : Scalar)
  | unsupported (type : ℕ)

/-- The values of an answer, or the type of the error. -/
abbrev Reply := Except String (List ParameterMessage)

/-- `parameter_value` of the only value. -/
def replyValue : Reply → Except String Scalar
  | .ok [.scalar value] => .ok value
  | .ok _ => .error "ValueError"
  | .error error => .error error

/-- What happens to the requests. -/
inductive ReadEvent where
  | asked (key : String) (token : ℕ) (deadline : ℚ)
  | answered (key : String) (token : ℕ) (value : Scalar)
  | failed (key : String) (token : ℕ)
  | expired (now : ℚ)

/-- A future: the value it reads and its token. -/
structure ReadRequest where
  key : String
  token : ℕ

/-- The node, with its nodes in the order of the dictionary and the events it has seen. -/
structure SpeedEnvelopeObserver where
  origins : List OriginValue
  nodes : List String
  timeout : ℚ
  observations : String → Observation := fun _ => {}
  requestOffsets : String → ℕ := fun _ => 0
  requests : List ReadRequest := []
  trace : List ReadEvent := []

/-- `ready` says of which values the service is ready when they are asked for. -/
inductive ObserverInput where
  | tick (now : ℚ) (ready : OriginValue → Bool)
  | complete (index : ℕ) (reply : Reply)

namespace SpeedEnvelopeObserver

/-- A change of one observation, with what is seen of it. -/
def note (s : SpeedEnvelopeObserver) (key : String) (o : Observation) (event : ReadEvent) :
    SpeedEnvelopeObserver :=
  { s with observations := Function.update s.observations key o, trace := event :: s.trace }

def expire (s : SpeedEnvelopeObserver) (now : ℚ) : SpeedEnvelopeObserver :=
  { s with
    observations := fun key => (s.observations key).expire now
    trace := .expired now :: s.trace }

/-- `_publish`. -/
def publish (s : SpeedEnvelopeObserver) : SpeedEnvelopeStatus :=
  let entries := s.origins.map fun origin => buildEntry origin (s.observations origin.key)
  { entries := entries
    allAvailable := entries.all (·.available)
    anyDivergence := entries.any (·.divergence = .different) }

def originsByNode (s : SpeedEnvelopeObserver) (node : String) : List OriginValue :=
  s.origins.filter (·.nodeName = node)

/-- The values of a node that are asked for at a tick. -/
def selected (s : SpeedEnvelopeObserver) (node : String) : List OriginValue :=
  let origins := s.originsByNode node
  let offset := s.requestOffsets node
  let rotated := origins.drop offset ++ origins.take offset
  (rotated.filter fun origin => !(s.observations origin.key).inFlight).take
    maxRequestsPerNodePerTick

def ask (now : ℚ) (ready : OriginValue → Bool) (s : SpeedEnvelopeObserver) (origin : OriginValue) :
    SpeedEnvelopeObserver :=
  let o := (s.observations origin.key).begin now s.timeout
  let asked := s.note origin.key o (.asked origin.key o.token o.deadline)
  if ready origin then { asked with requests := s.requests ++ [⟨origin.key, o.token⟩] }
  else
    asked.note origin.key
      ((asked.observations origin.key).resolve o.token none "service_unavailable")
      (.failed origin.key o.token)

def askNode (now : ℚ) (ready : OriginValue → Bool) (s : SpeedEnvelopeObserver) (node : String) :
    SpeedEnvelopeObserver :=
  let selected := s.selected node
  let offset := (s.requestOffsets node + selected.length) % (s.originsByNode node).length
  selected.foldl (ask now ready)
    { s with requestOffsets := Function.update s.requestOffsets node offset }

/-- `_tick`, after the report. -/
def tick (s : SpeedEnvelopeObserver) (now : ℚ) (ready : OriginValue → Bool) :
    SpeedEnvelopeObserver :=
  s.nodes.foldl (askNode now ready) (s.expire now)

/-- `_complete`. -/
def complete (s : SpeedEnvelopeObserver) (request : ReadRequest) (reply : Reply) :
    SpeedEnvelopeObserver :=
  let o := s.observations request.key
  match replyValue reply with
  | .ok value =>
    s.note request.key (o.resolve request.token (some value) "available")
      (.answered request.key request.token value)
  | .error error =>
    s.note request.key (o.resolve request.token none ("error:" ++ error))
      (.failed request.key request.token)

def step (s : SpeedEnvelopeObserver) : ObserverInput → SpeedEnvelopeObserver
  | .tick now ready => s.tick now ready
  | .complete index reply =>
    match s.requests[index]? with
    | some request => s.complete request reply
    | none => s

/-- `__init__`: the nodes are those of the origins, in any order. -/
def start (origins : List OriginValue) (nodes : List String) (timeout : ℚ) :
    SpeedEnvelopeObserver where
  origins := origins
  nodes := nodes
  timeout := timeout

end SpeedEnvelopeObserver

/-! ## What becomes of a request -/

/-- How an event ends a request. -/
def ReadEvent.outcome? (key : String) (token : ℕ) (deadline : ℚ) :
    ReadEvent → Option (Option Scalar)
  | .asked _ _ _ => none
  | .answered otherKey otherToken value =>
    if otherKey = key ∧ otherToken = token then some (some value) else none
  | .failed otherKey otherToken =>
    if otherKey = key ∧ otherToken = token then some none else none
  | .expired now => if deadline ≤ now then some none else none

/-- How a request ended, by what was seen since, the newest first: its first outcome counts. -/
def outcomeOf (key : String) (token : ℕ) (deadline : ℚ) : List ReadEvent → Option (Option Scalar)
  | [] => none
  | event :: since => (outcomeOf key token deadline since).or (event.outcome? key token deadline)

/-- No request for a key. -/
def Unasked (key : String) (events : List ReadEvent) : Prop :=
  ∀ token deadline, .asked key token deadline ∉ events

/-- The latest request for a key, with what was seen since. -/
structure LatestRequest (trace : List ReadEvent) (key : String) (token : ℕ) (deadline : ℚ)
    (since : List ReadEvent) : Prop where
  asked : ∃ past, trace = since ++ .asked key token deadline :: past ∧
    ∀ older oldDeadline, .asked key older oldDeadline ∈ past → older < token
  unasked : Unasked key since

/-- What an observed value says of the origin. -/
def judged (origin : Scalar) : Option Scalar → Divergence
  | none => .unknown
  | some value => if valuesEqual origin value then .same else .different

/-- An entry shows the outcome of the latest request, a value only when the request ended with
it. -/
structure Reported (trace : List ReadEvent) (origin : OriginValue) (entry : SpeedEnvelopeEntry) :
    Prop where
  key : entry.key = origin.key
  ofOrigin : entry.origin = origin.value
  observed : (Unasked origin.key trace ∧ entry.observed = none) ∨
    ∃ token deadline since, LatestRequest trace origin.key token deadline since ∧
      entry.observed = (outcomeOf origin.key token deadline since).join
  available : entry.available = entry.observed.isSome
  divergence : entry.divergence = judged origin.value entry.observed

/-! ## The store follows the events -/

/-- A value is shown only when no request is in flight. -/
def Observation.Proper (o : Observation) : Prop :=
  o.available = true → o.inFlight = false ∧ o.value.isSome = true

/-- What the events of a run say of an observation. -/
inductive Explained (trace : List ReadEvent) (key : String) (o : Observation) : Prop where
  | initial (unasked : Unasked key trace) (unused : o = {})
  | requested (since : List ReadEvent) (latest : LatestRequest trace key o.token o.deadline since)
      (outcome : o.outcome = outcomeOf key o.token o.deadline since) (proper : o.Proper)

/-- An event that asks for nothing takes an observation on. -/
structure Observation.Follows (key : String) (event : ReadEvent) (o next : Observation) : Prop where
  token : next.token = o.token
  deadline : next.deadline = o.deadline
  outcome : next.outcome = o.outcome.or (event.outcome? key o.token o.deadline)
  proper : o.Proper → next.Proper
  unused : o = {} → next = {}
  unasked : Unasked key [event]

theorem Unasked.cons {key : String} {event : ReadEvent} {events : List ReadEvent}
    (hEvent : Unasked key [event]) (h : Unasked key events) : Unasked key (event :: events) := by
  intro token deadline hMem
  rcases List.mem_cons.mp hMem with hHead | hTail
  · exact hEvent token deadline (List.mem_singleton.mpr hHead)
  · exact h token deadline hTail

theorem LatestRequest.cons {trace since : List ReadEvent} {key : String} {token : ℕ} {deadline : ℚ}
    {event : ReadEvent} (h : LatestRequest trace key token deadline since)
    (hEvent : Unasked key [event]) :
    LatestRequest (event :: trace) key token deadline (event :: since) := by
  obtain ⟨past, hTrace, hOlder⟩ := h.asked
  exact ⟨⟨past, congrArg (event :: ·) hTrace, hOlder⟩, hEvent.cons h.unasked⟩

theorem LatestRequest.le {trace since : List ReadEvent} {key : String} {token : ℕ} {deadline : ℚ}
    (h : LatestRequest trace key token deadline since) {other : ℕ} {otherDeadline : ℚ}
    (hMem : .asked key other otherDeadline ∈ trace) : other ≤ token := by
  obtain ⟨past, hTrace, hOlder⟩ := h.asked
  rw [hTrace, List.mem_append, List.mem_cons] at hMem
  rcases hMem with hSince | hSame | hPast
  · exact absurd hSince (h.unasked other otherDeadline)
  · injection hSame with _ hToken
    exact hToken.le
  · exact (hOlder other otherDeadline hPast).le

namespace Explained

variable {trace : List ReadEvent} {key : String} {o next : Observation} {event : ReadEvent}

theorem le (h : Explained trace key o) {token : ℕ} {deadline : ℚ}
    (hMem : .asked key token deadline ∈ trace) : token ≤ o.token := by
  cases h with
  | initial unasked _ => exact absurd hMem (unasked token deadline)
  | requested since latest _ _ => exact latest.le hMem

theorem proper (h : Explained trace key o) : o.Proper := by
  cases h with
  | initial _ unused =>
    rw [unused]
    exact fun hAvailable => absurd hAvailable Bool.false_ne_true
  | requested _ _ _ proper => exact proper

theorem follows (h : Explained trace key o) (hFollows : o.Follows key event next) :
    Explained (event :: trace) key next := by
  cases h with
  | initial unasked unused =>
    exact .initial (hFollows.unasked.cons unasked) (hFollows.unused unused)
  | requested since latest outcome proper =>
    refine .requested (event :: since) ?_ ?_ (hFollows.proper proper)
    · rw [hFollows.token, hFollows.deadline]
      exact latest.cons hFollows.unasked
    · rw [hFollows.token, hFollows.deadline, hFollows.outcome, outcome]
      rfl

/-- A new request is the latest. -/
theorem begin (h : Explained trace key o) (now timeout : ℚ) :
    Explained (.asked key (o.token + 1) (now + timeout) :: trace) key (o.begin now timeout) := by
  refine .requested [] ⟨⟨trace, rfl, fun older oldDeadline hMem => ?_⟩, fun _ _ => List.not_mem_nil⟩
    rfl fun hAvailable => absurd hAvailable Bool.false_ne_true
  exact Nat.lt_succ_of_le (h.le hMem)

end Explained

namespace Observation

variable {key : String} {event : ReadEvent}

/-- An event about something else leaves an observation alone. -/
theorem Follows.other (o : Observation)
    (hOutcome : event.outcome? key o.token o.deadline = none) (hUnasked : Unasked key [event]) :
    o.Follows key event o where
  token := rfl
  deadline := rfl
  outcome := by rw [hOutcome, Option.or_none]
  proper := id
  unused := id
  unasked := hUnasked

theorem outcome_of_settled {o : Observation} (h : o.inFlight = false) :
    o.outcome = some o.shown := by
  unfold outcome
  rw [h]
  rfl

/-- Only the request in flight is resolved. -/
theorem Follows.resolve (o : Observation) {token : ℕ} {value : Option Scalar} {detail : String}
    (hEvent : ∀ other deadline,
      event.outcome? key other deadline = if token = other then some value else none)
    (hUnasked : Unasked key [event]) (hDetail : value.isSome = decide (detail = "available")) :
    o.Follows key event (o.resolve token value detail) := by
  by_cases hRefused : token ≠ o.token ∨ o.inFlight = false
  · have hSame : o.resolve token value detail = o := if_pos hRefused
    rw [hSame]
    refine ⟨rfl, rfl, ?_, id, id, hUnasked⟩
    rw [hEvent]
    rcases hRefused with hToken | hSettled
    · rw [if_neg hToken, Option.or_none]
    · rw [outcome_of_settled hSettled]
      rfl
  · rw [not_or, not_not, Bool.not_eq_false] at hRefused
    obtain ⟨hToken, hFlight⟩ := hRefused
    have hNext : o.resolve token value detail = { o with
        inFlight := false
        available := detail = "available"
        value := if detail = "available" then value else none
        detail := detail } :=
      if_neg fun h => h.elim (fun hOther => hOther hToken)
        fun hSettled => Bool.false_ne_true (hSettled.symm.trans hFlight)
    have hPending : o.outcome = none := if_pos hFlight
    rw [hNext]
    refine ⟨rfl, rfl, ?_, fun _ hAvailable => ⟨rfl, ?_⟩, fun hUnused => ?_, hUnasked⟩
    · rw [hPending, hEvent, if_pos hToken, outcome_of_settled rfl]
      unfold shown
      by_cases hGiven : detail = "available"
      · rw [if_pos (decide_eq_true hGiven), if_pos hGiven]
        rfl
      · rw [if_neg (by rw [decide_eq_true_iff]; exact hGiven)]
        rw [decide_eq_false hGiven, Option.isSome_eq_false_iff, Option.isNone_iff_eq_none]
          at hDetail
        rw [hDetail]
        rfl
    · have hGiven : detail = "available" := of_decide_eq_true hAvailable
      rw [if_pos hGiven, hDetail]
      exact hAvailable
    · rw [hUnused] at hFlight
      exact absurd hFlight Bool.false_ne_true

/-- A tick at the deadline ends the request in flight. -/
theorem Follows.expire (o : Observation) (key : String) (now : ℚ) :
    o.Follows key (.expired now) (o.expire now) := by
  have hUnasked : Unasked key [ReadEvent.expired now] := fun token deadline hMem =>
    ReadEvent.noConfusion (List.mem_singleton.mp hMem)
  by_cases hLate : o.inFlight = true ∧ o.deadline ≤ now
  · have hNext : o.expire now =
        { o with inFlight := false, available := false, value := none, detail := "timeout" } :=
      if_pos hLate
    have hPending : o.outcome = none := if_pos hLate.1
    have hEnds : (ReadEvent.expired now).outcome? key o.token o.deadline = some none :=
      if_pos hLate.2
    rw [hNext]
    refine ⟨rfl, rfl, ?_, fun _ hAvailable => absurd hAvailable Bool.false_ne_true,
      fun hUnused => ?_, hUnasked⟩
    · rw [hPending, hEnds]
      rfl
    · rw [hUnused] at hLate
      exact absurd hLate.1 Bool.false_ne_true
  · have hSame : o.expire now = o := if_neg hLate
    rw [hSame]
    refine ⟨rfl, rfl, ?_, id, id, hUnasked⟩
    cases hFlight : o.inFlight with
    | false =>
      rw [outcome_of_settled hFlight]
      rfl
    | true =>
      have hKeeps : (ReadEvent.expired now).outcome? key o.token o.deadline = none :=
        if_neg fun hLe => hLate ⟨hFlight, hLe⟩
      rw [hKeeps, Option.or_none]

theorem Proper.available_eq {o : Observation} (h : o.Proper) : o.available = o.shown.isSome := by
  unfold shown
  cases hAvailable : o.available with
  | false => rfl
  | true => exact (h hAvailable).2.symm

end Observation

theorem Explained.reported {trace : List ReadEvent} {origin : OriginValue} {o : Observation}
    (h : Explained trace origin.key o) : Reported trace origin (buildEntry origin o) where
  key := rfl
  ofOrigin := rfl
  observed := by
    cases h with
    | initial unasked unused =>
      refine .inl ⟨unasked, ?_⟩
      rw [unused]
      rfl
    | requested since latest outcome proper =>
      refine .inr ⟨o.token, o.deadline, since, latest, ?_⟩
      rw [← outcome]
      cases hFlight : o.inFlight with
      | false =>
        rw [Observation.outcome_of_settled hFlight]
        rfl
      | true =>
        have hPending : o.outcome = none := if_pos hFlight
        have hHidden : o.shown = none := if_neg fun hAvailable =>
          Bool.false_ne_true ((proper hAvailable).1.symm.trans hFlight)
        rw [hPending]
        exact hHidden
  available := h.proper.available_eq
  divergence := by
    unfold buildEntry Observation.shown
    dsimp only
    cases hAvailable : o.available with
    | false => rfl
    | true =>
      obtain ⟨value, hValue⟩ := Option.isSome_iff_exists.mp (h.proper hAvailable).2
      rw [hValue]
      rfl

theorem Reported.different_iff {trace : List ReadEvent} {origin : OriginValue}
    {entry : SpeedEnvelopeEntry} (h : Reported trace origin entry) :
    entry.divergence = .different ↔
      ∃ value, entry.observed = some value ∧ valuesEqual entry.origin value = false := by
  rw [h.divergence, h.ofOrigin]
  cases entry.observed with
  | none => simp [judged]
  | some value => cases hEqual : valuesEqual origin.value value <;> simp [judged, hEqual]

/-! ## Every run -/

namespace SpeedEnvelopeObserver

variable {s : SpeedEnvelopeObserver} {origins : List OriginValue}

theorem observations_note_self (s : SpeedEnvelopeObserver) (key : String) (o : Observation)
    (event : ReadEvent) : (s.note key o event).observations key = o :=
  Function.update_self (β := fun _ => Observation) key o s.observations

theorem observations_note_of_ne (s : SpeedEnvelopeObserver) {key other : String} (h : other ≠ key)
    (o : Observation) (event : ReadEvent) :
    (s.note key o event).observations other = s.observations other :=
  Function.update_of_ne (β := fun _ => Observation) h o s.observations

/-- The events of a run explain what the store holds. -/
structure Sound (origins : List OriginValue) (s : SpeedEnvelopeObserver) : Prop where
  origins : s.origins = origins
  explained : ∀ key, Explained s.trace key (s.observations key)

theorem Sound.note (h : s.Sound origins) {key : String} {o : Observation} {event : ReadEvent}
    (hKey : Explained (event :: s.trace) key o)
    (hOthers : ∀ other, other ≠ key →
      (∀ token deadline, event.outcome? other token deadline = none) ∧ Unasked other [event]) :
    (s.note key o event).Sound origins where
  origins := h.origins
  explained other := by
    by_cases hOther : other = key
    · rw [hOther, observations_note_self]
      exact hKey
    · rw [observations_note_of_ne s hOther]
      exact (h.explained other).follows
        (.other _ ((hOthers other hOther).1 _ _) (hOthers other hOther).2)

/-- Whatever ends a request is seen as its outcome. -/
theorem Sound.resolve (h : s.Sound origins) {key detail : String} {token : ℕ}
    {value : Option Scalar} {event : ReadEvent}
    (hEvent : ∀ other otherToken deadline, event.outcome? other otherToken deadline =
      if key = other ∧ token = otherToken then some value else none)
    (hUnasked : ∀ other, Unasked other [event])
    (hDetail : value.isSome = decide (detail = "available")) :
    (s.note key ((s.observations key).resolve token value detail) event).Sound origins := by
  refine h.note ((h.explained key).follows
    (.resolve _ (fun other deadline => ?_) (hUnasked key) hDetail))
    fun other hOther => ⟨fun otherToken deadline => ?_, hUnasked other⟩
  · rw [hEvent]
    exact if_congr (and_iff_right rfl) rfl rfl
  · rw [hEvent, if_neg fun hBoth => hOther hBoth.1.symm]

theorem Sound.failed (h : s.Sound origins) {key detail : String} {token : ℕ}
    (hDetail : detail ≠ "available") :
    (s.note key ((s.observations key).resolve token none detail) (.failed key token)).Sound
      origins :=
  h.resolve (fun _ _ _ => rfl)
    (fun _ _ _ hMem => ReadEvent.noConfusion (List.mem_singleton.mp hMem))
    (decide_eq_false hDetail).symm

theorem Sound.ask (h : s.Sound origins) (now : ℚ) (ready : OriginValue → Bool)
    (origin : OriginValue) : (s.ask now ready origin).Sound origins := by
  have hAsked := h.note ((h.explained origin.key).begin now s.timeout)
    fun other hOther => ⟨fun _ _ => rfl, fun token deadline hMem => by
      injection List.mem_singleton.mp hMem with hKey
      exact hOther hKey⟩
  unfold SpeedEnvelopeObserver.ask
  dsimp only
  split
  · exact ⟨hAsked.origins, hAsked.explained⟩
  · exact hAsked.failed (by decide)

theorem Sound.askNode (h : s.Sound origins) (now : ℚ) (ready : OriginValue → Bool)
    (node : String) : (s.askNode now ready node).Sound origins :=
  List.foldlRecOn _ _ ⟨h.origins, h.explained⟩ fun _ hNext origin _ => hNext.ask now ready origin

theorem Sound.expire (h : s.Sound origins) (now : ℚ) : (s.expire now).Sound origins where
  origins := h.origins
  explained key := (h.explained key).follows (.expire _ key now)

theorem Sound.tick (h : s.Sound origins) (now : ℚ) (ready : OriginValue → Bool) :
    (s.tick now ready).Sound origins :=
  List.foldlRecOn _ _ (h.expire now) fun _ hNext node _ => hNext.askNode now ready node

theorem error_ne_available (error : String) : "error:" ++ error ≠ "available" := by
  intro h
  have hHead := congrArg (fun text : String => text.toList.head?) h
  simp [String.toList_append] at hHead

theorem Sound.complete (h : s.Sound origins) (request : ReadRequest) (reply : Reply) :
    (s.complete request reply).Sound origins := by
  unfold SpeedEnvelopeObserver.complete
  dsimp only
  split
  · exact h.resolve (fun _ _ _ => rfl)
      (fun _ _ _ hMem => ReadEvent.noConfusion (List.mem_singleton.mp hMem)) rfl
  · exact h.failed (error_ne_available _)

theorem Sound.step (h : s.Sound origins) (input : ObserverInput) :
    (s.step input).Sound origins := by
  cases input with
  | tick now ready => exact h.tick now ready
  | complete index reply =>
    unfold SpeedEnvelopeObserver.step
    dsimp only
    split
    · exact h.complete _ reply
    · exact h

theorem sound_start (origins : List OriginValue) (nodes : List String) (timeout : ℚ) :
    (start origins nodes timeout).Sound origins where
  origins := rfl
  explained _ := .initial (fun _ _ => List.not_mem_nil) rfl

theorem sound_after (origins : List OriginValue) (nodes : List String) (timeout : ℚ)
    (past : List ObserverInput) :
    (after step (start origins nodes timeout) past).Sound origins :=
  after_invariant (sound_start origins nodes timeout) (fun _ input h => h.step input) past

theorem Sound.reported (h : s.Sound origins) :
    List.Forall₂ (Reported s.trace) origins s.publish.entries := by
  rw [← h.origins]
  exact List.forall₂_map_right_iff.mpr
    (List.forall₂_same.mpr fun origin _ => (h.explained origin.key).reported)

theorem Sound.reported_mem (h : s.Sound origins) {entry : SpeedEnvelopeEntry}
    (hMem : entry ∈ s.publish.entries) : ∃ origin, Reported s.trace origin entry := by
  obtain ⟨origin, -, hEntry⟩ := List.mem_map.mp hMem
  exact ⟨origin, hEntry ▸ (h.explained origin.key).reported⟩

theorem Sound.allAvailable_iff (h : s.Sound origins) :
    s.publish.allAvailable = true ↔
      ∀ entry ∈ s.publish.entries, entry.observed.isSome = true := by
  refine List.all_eq_true.trans (forall₂_congr fun entry hMem => ?_)
  obtain ⟨origin, hReported⟩ := h.reported_mem hMem
  rw [hReported.available]

theorem Sound.anyDivergence_iff (h : s.Sound origins) :
    s.publish.anyDivergence = true ↔
      ∃ entry ∈ s.publish.entries, ∃ value, entry.observed = some value ∧
        valuesEqual entry.origin value = false := by
  refine List.any_eq_true.trans (exists_congr fun entry => and_congr_right fun hMem => ?_)
  obtain ⟨origin, hReported⟩ := h.reported_mem hMem
  exact decide_eq_true_iff.trans hReported.different_iff

/-- In every run, with answers in any order, late or never, every report shows of each origin, in
the order of the file, how its latest request ended, and compares with this value alone.
`sound_after` keeps the store in step with what the trace says of each latest request, and a report
is read off the store. -/
theorem reports_latest_requests (origins : List OriginValue) (nodes : List String) (timeout : ℚ)
    (past : List ObserverInput) (now : ℚ) :
    let s := (after step (start origins nodes timeout) past).expire now
    List.Forall₂ (Reported s.trace) origins s.publish.entries ∧
      (s.publish.allAvailable = true ↔
        ∀ entry ∈ s.publish.entries, entry.observed.isSome = true) ∧
      (s.publish.anyDivergence = true ↔
        ∃ entry ∈ s.publish.entries, ∃ value, entry.observed = some value ∧
          valuesEqual entry.origin value = false) :=
  have hSound := (sound_after origins nodes timeout past).expire now
  ⟨hSound.reported, hSound.allAvailable_iff, hSound.anyDivergence_iff⟩

end SpeedEnvelopeObserver

end PreRunner.Bringup
