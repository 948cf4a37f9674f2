import PreRunner.Bringup.SpeedEnvelope
import PreRunner.Runs.RoundRobin

/-!
# Every value is read in its turn

A tick asks each node for eight values at most. With ticks that are at least the timeout apart no
request is in flight when the next ones are chosen, so the values of a node take their turns.

The turns themselves are those of `Runs.RoundRobin`. This module shows that every tick moves the
offset of each node by one batch (`Ahead`), that the requests of different nodes do not interfere
(`Separate`), and that with spaced ticks no deadline is still to come when the next batch is chosen
(`DueBy`). What a service answers, and whether it does, changes none of this.
-/

namespace PreRunner.Bringup

open Runs

namespace SpeedEnvelopeObserver

variable {s next : SpeedEnvelopeObserver} {now : ℚ} {ready : OriginValue → Bool} {node : String}

/-- What no input changes, and a trace that grows. -/
structure Extends (newer : List ReadEvent) (s next : SpeedEnvelopeObserver) : Prop where
  origins : next.origins = s.origins
  nodes : next.nodes = s.nodes
  timeout : next.timeout = s.timeout
  trace : next.trace = newer ++ s.trace

theorem Extends.refl (s : SpeedEnvelopeObserver) : Extends [] s s := ⟨rfl, rfl, rfl, rfl⟩

theorem Extends.trans {newer later : List ReadEvent} {last : SpeedEnvelopeObserver}
    (h : Extends newer s next) (hLater : Extends later next last) :
    Extends (later ++ newer) s last where
  origins := hLater.origins.trans h.origins
  nodes := hLater.nodes.trans h.nodes
  timeout := hLater.timeout.trans h.timeout
  trace := by rw [hLater.trace, h.trace, List.append_assoc]

/-- A request for a key is among the events. -/
def Asked (key : String) (events : List ReadEvent) : Prop :=
  ∃ token deadline, .asked key token deadline ∈ events

theorem Asked.append_left {key : String} {events : List ReadEvent} (h : Asked key events)
    (older : List ReadEvent) : Asked key (events ++ older) := by
  obtain ⟨token, deadline, hMem⟩ := h
  exact ⟨token, deadline, List.mem_append_left older hMem⟩

theorem Asked.append_right {key : String} {events : List ReadEvent} (h : Asked key events)
    (newer : List ReadEvent) : Asked key (newer ++ events) := by
  obtain ⟨token, deadline, hMem⟩ := h
  exact ⟨token, deadline, List.mem_append_right newer hMem⟩

/-! ## One tick -/

/-- What asking for some values changes. -/
structure AsksOnly (items : List OriginValue) (s next : SpeedEnvelopeObserver) : Prop where
  extended : ∃ newer, Extends newer s next ∧ ∀ item ∈ items, Asked item.key newer
  offsets : next.requestOffsets = s.requestOffsets
  others : ∀ key, (∀ item ∈ items, item.key ≠ key) → next.observations key = s.observations key

theorem asksOnly_ask (s : SpeedEnvelopeObserver) (now : ℚ) (ready : OriginValue → Bool)
    (item : OriginValue) : AsksOnly [item] s (s.ask now ready item) := by
  have hOthers : ∀ key, (∀ other ∈ [item], other.key ≠ key) → key ≠ item.key := fun key hKey =>
    (hKey item (List.mem_singleton_self item)).symm
  unfold ask
  dsimp only
  split
  · refine ⟨⟨[_], ⟨rfl, rfl, rfl, rfl⟩, fun other hOther => ?_⟩, rfl, fun key hKey =>
      Function.update_of_ne (hOthers key hKey) _ _⟩
    rw [List.mem_singleton.mp hOther]
    exact ⟨_, _, List.mem_singleton_self _⟩
  · refine ⟨⟨[_, _], ⟨rfl, rfl, rfl, rfl⟩, fun other hOther => ?_⟩, rfl, fun key hKey =>
      (Function.update_of_ne (hOthers key hKey) _ _).trans
        (Function.update_of_ne (hOthers key hKey) _ _)⟩
    rw [List.mem_singleton.mp hOther]
    exact ⟨_, _, List.mem_cons_of_mem _ (List.mem_singleton_self _)⟩

theorem asksOnly_foldl (items : List OriginValue) (s : SpeedEnvelopeObserver) (now : ℚ)
    (ready : OriginValue → Bool) : AsksOnly items s (items.foldl (ask now ready) s) := by
  induction items generalizing s with
  | nil => exact ⟨⟨[], .refl s, fun _ hMem => absurd hMem List.not_mem_nil⟩, rfl, fun _ _ => rfl⟩
  | cons item items ih =>
    have hOne := asksOnly_ask s now ready item
    have hRest := ih (s.ask now ready item)
    obtain ⟨first, hFirst, hAsked⟩ := hOne.extended
    obtain ⟨rest, hLater, hAll⟩ := hRest.extended
    refine ⟨⟨rest ++ first, hFirst.trans hLater, fun other hOther => ?_⟩,
      hRest.offsets.trans hOne.offsets, fun key hKey => ?_⟩
    · rcases List.mem_cons.mp hOther with hSame | hMem
      · rw [hSame]
        exact (hAsked item (List.mem_singleton_self item)).append_right rest
      · exact (hAll other hMem).append_left first
    · have hHere := hOne.others key fun other hOther =>
        hKey other (List.mem_cons.mpr (.inl (List.mem_singleton.mp hOther)))
      exact (hRest.others key fun other hOther =>
        hKey other (List.mem_cons_of_mem item hOther)).trans
        hHere

/-- Values of one key belong to one node. -/
def Separate (origins : List OriginValue) : Prop :=
  ∀ origin ∈ origins, ∀ other ∈ origins, origin.key = other.key → origin.nodeName = other.nodeName

/-- Where a node is in its turns: what its values hold and from where it goes on. -/
structure SameNode (node : String) (s next : SpeedEnvelopeObserver) : Prop where
  extended : ∃ newer, Extends newer s next
  offset : next.requestOffsets node = s.requestOffsets node
  values : ∀ origin ∈ s.originsByNode node,
    next.observations origin.key = s.observations origin.key

theorem SameNode.refl (node : String) (s : SpeedEnvelopeObserver) : SameNode node s s :=
  ⟨⟨[], .refl s⟩, rfl, fun _ _ => rfl⟩

theorem Extends.originsByNode {newer : List ReadEvent} (h : Extends newer s next)
    (node : String) : next.originsByNode node = s.originsByNode node := by
  unfold SpeedEnvelopeObserver.originsByNode
  rw [h.origins]

theorem SameNode.trans {last : SpeedEnvelopeObserver} (h : SameNode node s next)
    (hLater : SameNode node next last) : SameNode node s last := by
  obtain ⟨newer, hNewer⟩ := h.extended
  obtain ⟨later, hLatest⟩ := hLater.extended
  refine ⟨⟨later ++ newer, hNewer.trans hLatest⟩, hLater.offset.trans h.offset,
    fun origin hMem => ?_⟩
  have hStill := hMem
  rw [← hNewer.originsByNode node] at hStill
  exact (hLater.values origin hStill).trans (h.values origin hMem)

theorem mem_of_mem_rotated {origins : List OriginValue} {offset : ℕ} {origin : OriginValue}
    (h : origin ∈ origins.drop offset ++ origins.take offset) : origin ∈ origins := by
  rcases List.mem_append.mp h with hDrop | hTake
  · exact List.mem_of_mem_drop hDrop
  · exact List.mem_of_mem_take hTake

theorem mem_selected {origin : OriginValue} (h : origin ∈ s.selected node) :
    origin ∈ s.originsByNode node :=
  mem_of_mem_rotated (List.mem_filter.mp (List.mem_of_mem_take h)).1

theorem sameNode_askNode (hSeparate : Separate s.origins) {other : String} (hOther : node ≠ other)
    (now : ℚ) (ready : OriginValue → Bool) : SameNode node s (s.askNode now ready other) := by
  have hAsks : AsksOnly (s.selected other) _ (s.askNode now ready other) :=
    asksOnly_foldl _ _ now ready
  obtain ⟨newer, hNewer, -⟩ := hAsks.extended
  refine ⟨⟨newer, hNewer.origins, hNewer.nodes, hNewer.timeout, hNewer.trace⟩, ?_,
    fun origin hMem => hAsks.others origin.key fun item hItem hKey => ?_⟩
  · exact (congrFun hAsks.offsets node).trans (Function.update_of_ne hOther _ _)
  · obtain ⟨hOrigin, hHere⟩ := List.mem_filter.mp hMem
    obtain ⟨hAll, hThere⟩ := List.mem_filter.mp (mem_selected hItem)
    have hNode := hSeparate item hAll origin hOrigin hKey
    rw [of_decide_eq_true hHere, of_decide_eq_true hThere] at hNode
    exact hOther hNode.symm

theorem sameNode_foldl (hSeparate : Separate s.origins) {nodes : List String} (h : node ∉ nodes)
    (now : ℚ) (ready : OriginValue → Bool) :
    SameNode node s (nodes.foldl (askNode now ready) s) := by
  induction nodes generalizing s with
  | nil => exact .refl node s
  | cons other nodes ih =>
    rw [List.mem_cons, not_or] at h
    have hOne := sameNode_askNode hSeparate h.1 now ready
    obtain ⟨newer, hNewer⟩ := hOne.extended
    exact hOne.trans (ih (by rw [hNewer.origins]; exact hSeparate) h.2)

/-- With no request in flight a node's values take their turn. -/
theorem selected_eq_turn (h : ∀ origin ∈ s.originsByNode node,
    (s.observations origin.key).inFlight = false) :
    s.selected node = turn (s.originsByNode node) maxRequestsPerNodePerTick
      (s.requestOffsets node) := by
  unfold selected turn
  dsimp only
  rw [List.filter_eq_self.mpr]
  intro origin hMem
  rw [h origin (mem_of_mem_rotated hMem)]
  rfl

/-- A tick with no request in flight asks for the values of a node's turn. -/
theorem tick_turn (hSeparate : Separate s.origins) (hNodup : s.nodes.Nodup) (hNode : node ∈ s.nodes)
    (ready : OriginValue → Bool)
    (hIdle : ∀ key, ((s.expire now).observations key).inFlight = false) :
    ∃ newer, Extends newer s (s.tick now ready) ∧
      (∀ item ∈ turn (s.originsByNode node) maxRequestsPerNodePerTick (s.requestOffsets node),
        Asked item.key newer) ∧
      (s.tick now ready).requestOffsets node =
        nextTurn (s.originsByNode node) maxRequestsPerNodePerTick (s.requestOffsets node) := by
  obtain ⟨before, later, hNodes⟩ := List.append_of_mem hNode
  rw [hNodes, List.nodup_middle, List.nodup_cons, List.mem_append, not_or] at hNodup
  have hExpired : Extends [.expired now] s (s.expire now) := ⟨rfl, rfl, rfl, rfl⟩
  have hBefore := sameNode_foldl (s := s.expire now) hSeparate hNodup.1.1 now ready
  have hTick : s.tick now ready = later.foldl (askNode now ready)
      ((before.foldl (askNode now ready) (s.expire now)).askNode now ready node) := by
    unfold tick
    rw [hNodes, List.foldl_append, List.foldl_cons]
  rw [hTick]
  obtain ⟨first, hFirst⟩ := hBefore.extended
  have hOwn := hFirst.originsByNode node
  have hOffset := hBefore.offset
  have hValues := hBefore.values
  generalize before.foldl (askNode now ready) (s.expire now) = middle at hFirst hOwn hOffset hValues
  have hSelected : middle.selected node =
      turn (s.originsByNode node) maxRequestsPerNodePerTick (s.requestOffsets node) := by
    rw [selected_eq_turn, hOwn, hOffset]
    · rfl
    · intro origin hMem
      rw [hOwn] at hMem
      rw [hValues origin hMem]
      exact hIdle origin.key
  have hAsks : AsksOnly (middle.selected node) _ (middle.askNode now ready node) :=
    asksOnly_foldl _ _ now ready
  obtain ⟨asked, hAsked, hAll⟩ := hAsks.extended
  have hMiddle : Extends asked middle (middle.askNode now ready node) :=
    ⟨hAsked.origins, hAsked.nodes, hAsked.timeout, hAsked.trace⟩
  have hStill : Separate (middle.askNode now ready node).origins := by
    rw [hMiddle.origins, hFirst.origins]
    exact hSeparate
  have hLater := sameNode_foldl hStill hNodup.1.2 now ready
  obtain ⟨last, hLast⟩ := hLater.extended
  refine ⟨_, ((hExpired.trans hFirst).trans hMiddle).trans hLast, fun item hItem => ?_, ?_⟩
  · rw [← hSelected] at hItem
    exact ((hAll item hItem).append_left _).append_right last
  · rw [hLater.offset]
    refine (congrFun hAsks.offsets node).trans ((Function.update_self _ _ _).trans ?_)
    unfold nextTurn
    rw [hSelected, hOwn, hOffset]
    rfl

/-! ## Deadlines -/

/-- No request is in flight past a time. -/
def DueBy (limit : ℚ) (s : SpeedEnvelopeObserver) : Prop :=
  ∀ key, (s.observations key).inFlight = true → (s.observations key).deadline ≤ limit

theorem DueBy.mono {limit later : ℚ} (h : DueBy limit s) (hLe : limit ≤ later) : DueBy later s :=
  fun key hFlight => (h key hFlight).trans hLe

theorem DueBy.expired {limit : ℚ} (h : DueBy limit s) (hLe : limit ≤ now) (key : String) :
    ((s.expire now).observations key).inFlight = false := by
  change ((s.observations key).expire now).inFlight = false
  unfold Observation.expire
  split
  · rfl
  · rename_i hOpen
    rw [← Bool.not_eq_true]
    exact fun hFlight => hOpen ⟨hFlight, (h key hFlight).trans hLe⟩

theorem DueBy.note {limit : ℚ} (h : DueBy limit s) {key : String} {o : Observation}
    (hKey : o.inFlight = true → o.deadline ≤ limit) (event : ReadEvent) :
    DueBy limit (s.note key o event) := by
  intro other
  by_cases hOther : other = key
  · rw [hOther, observations_note_self]
    exact hKey
  · rw [observations_note_of_ne s hOther]
    exact h other

theorem DueBy.resolve {limit : ℚ} (h : DueBy limit s) (key : String) (token : ℕ)
    (value : Option Scalar) (detail : String) (event : ReadEvent) :
    DueBy limit (s.note key ((s.observations key).resolve token value detail) event) := by
  refine h.note ?_ event
  unfold Observation.resolve
  split
  · exact h key
  · exact fun hFlight => absurd hFlight Bool.false_ne_true

theorem DueBy.ask {limit : ℚ} (h : DueBy limit s) (hLimit : now + s.timeout ≤ limit)
    (ready : OriginValue → Bool) (item : OriginValue) : DueBy limit (s.ask now ready item) := by
  have hAsked (event : ReadEvent) :
      DueBy limit (s.note item.key ((s.observations item.key).begin now s.timeout) event) :=
    h.note (fun _ => hLimit) event
  unfold SpeedEnvelopeObserver.ask
  dsimp only
  split
  · exact fun key => hAsked (.expired now) key
  · exact (hAsked _).resolve _ _ _ _ _

theorem DueBy.complete {limit : ℚ} (h : DueBy limit s) (request : ReadRequest) (reply : Reply) :
    DueBy limit (s.complete request reply) := by
  unfold SpeedEnvelopeObserver.complete
  dsimp only
  split
  · exact h.resolve _ _ _ _ _
  · exact h.resolve _ _ _ _ _

theorem DueBy.tick {limit : ℚ} (h : DueBy limit s) (hLe : limit ≤ now)
    (ready : OriginValue → Bool) : DueBy (now + s.timeout) (s.tick now ready) := by
  have hExpired : DueBy (now + s.timeout) (s.expire now) := fun key hFlight =>
    absurd ((h.expired hLe key).symm.trans hFlight) Bool.false_ne_true
  have hNode : ∀ next : SpeedEnvelopeObserver, next.timeout = s.timeout →
      DueBy (now + s.timeout) next → ∀ node, (next.askNode now ready node).timeout = s.timeout ∧
        DueBy (now + s.timeout) (next.askNode now ready node) := by
    intro next hTimeout hNext node
    refine List.foldlRecOn (motive := fun last : SpeedEnvelopeObserver =>
      last.timeout = s.timeout ∧ DueBy (now + s.timeout) last) _ _ ⟨hTimeout, hNext⟩ ?_
    rintro last ⟨hSame, hLast⟩ item -
    obtain ⟨newer, hNewer, -⟩ := (asksOnly_ask last now ready item).extended
    exact ⟨hNewer.timeout.trans hSame, hLast.ask (by rw [hSame]) ready item⟩
  have hAll := List.foldlRecOn (motive := fun last : SpeedEnvelopeObserver =>
    last.timeout = s.timeout ∧ DueBy (now + s.timeout) last) s.nodes (askNode now ready)
      (b := s.expire now) ⟨rfl, hExpired⟩ fun last hLast node _ => hNode last hLast.1 hLast.2 node
  exact hAll.2

/-! ## Turn after turn -/

/-- The times of the ticks. -/
def tickTimes (inputs : List ObserverInput) : List ℚ :=
  inputs.filterMap fun
    | .tick now _ => some now
    | .complete _ _ => none

/-- Ticks at least a time-out apart. -/
def Spaced (timeout : ℚ) (inputs : List ObserverInput) : Prop :=
  (tickTimes inputs).Pairwise fun later earlier => earlier + timeout ≤ later

section Run

variable {origins : List OriginValue} {nodes : List String} {timeout : ℚ}

theorem Spaced.tail {input : ObserverInput} {inputs : List ObserverInput}
    (h : Spaced timeout (input :: inputs)) : Spaced timeout inputs := by
  cases input with
  | tick now ready => exact (List.pairwise_cons.mp h).2
  | complete index reply => exact h

theorem Spaced.earlier {now : ℚ} {ready : OriginValue → Bool} {inputs : List ObserverInput}
    (h : Spaced timeout (.tick now ready :: inputs)) :
    ∀ earlier ∈ tickTimes inputs, earlier + timeout ≤ now :=
  (List.pairwise_cons.mp h).1

theorem extends_foldl {α : Type*} {f : SpeedEnvelopeObserver → α → SpeedEnvelopeObserver}
    (hf : ∀ s item, ∃ newer, Extends newer s (f s item)) (items : List α)
    (s : SpeedEnvelopeObserver) : ∃ newer, Extends newer s (items.foldl f s) := by
  induction items generalizing s with
  | nil => exact ⟨[], .refl s⟩
  | cons item items ih =>
    obtain ⟨first, hFirst⟩ := hf s item
    obtain ⟨rest, hRest⟩ := ih (f s item)
    exact ⟨rest ++ first, hFirst.trans hRest⟩

theorem extends_askNode (s : SpeedEnvelopeObserver) (now : ℚ) (ready : OriginValue → Bool)
    (node : String) : ∃ newer, Extends newer s (s.askNode now ready node) := by
  have hAsks : AsksOnly (s.selected node) _ (s.askNode now ready node) :=
    asksOnly_foldl _ _ now ready
  obtain ⟨newer, hNewer, -⟩ := hAsks.extended
  exact ⟨newer, hNewer.origins, hNewer.nodes, hNewer.timeout, hNewer.trace⟩

theorem extends_step (s : SpeedEnvelopeObserver) (input : ObserverInput) :
    ∃ newer, Extends newer s (s.step input) := by
  cases input with
  | tick now ready =>
    obtain ⟨newer, hNewer⟩ := extends_foldl (fun s node => extends_askNode s now ready node) s.nodes
      (s.expire now)
    have hExpired : Extends [.expired now] s (s.expire now) := ⟨rfl, rfl, rfl, rfl⟩
    exact ⟨_, hExpired.trans hNewer⟩
  | complete index reply =>
    unfold step
    dsimp only
    split
    · unfold complete
      dsimp only
      split
      · exact ⟨[_], rfl, rfl, rfl, rfl⟩
      · exact ⟨[_], rfl, rfl, rfl, rfl⟩
    · exact ⟨[], .refl s⟩

theorem extends_after (later : List ObserverInput) (s : SpeedEnvelopeObserver) :
    ∃ newer, Extends newer s (after step s later) := by
  induction later with
  | nil => exact ⟨[], .refl s⟩
  | cons input later ih =>
    obtain ⟨newer, hNewer⟩ := ih
    obtain ⟨more, hMore⟩ := extends_step (after step s later) input
    exact ⟨more ++ newer, hNewer.trans hMore⟩

theorem timeout_after (past : List ObserverInput) :
    (after step (start origins nodes timeout) past).timeout = timeout := by
  obtain ⟨newer, hNewer⟩ := extends_after past (start origins nodes timeout)
  exact hNewer.timeout

theorem dueBy_after {past : List ObserverInput} (hSpaced : Spaced timeout past) {limit : ℚ}
    (hLimit : ∀ earlier ∈ tickTimes past, earlier + timeout ≤ limit) :
    DueBy limit (after step (start origins nodes timeout) past) := by
  induction past generalizing limit with
  | nil => exact fun _ hFlight => absurd hFlight Bool.false_ne_true
  | cons input past ih =>
    cases input with
    | tick now ready =>
      have hTick := (ih hSpaced.tail hSpaced.earlier).tick le_rfl ready
      rw [timeout_after] at hTick
      exact hTick.mono (hLimit now List.mem_cons_self)
    | complete index reply =>
      have hPast := ih hSpaced.tail hLimit
      rw [after_cons]
      unfold step
      dsimp only
      split
      · exact hPast.complete _ reply
      · exact hPast

/-- The offset of a node is within its values. -/
def InTurn (s : SpeedEnvelopeObserver) : Prop :=
  ∀ node, s.originsByNode node ≠ [] → s.requestOffsets node < (s.originsByNode node).length

theorem InTurn.askNode {s : SpeedEnvelopeObserver} (h : s.InTurn) (now : ℚ)
    (ready : OriginValue → Bool) (other : String) : (s.askNode now ready other).InTurn := by
  have hAsks : AsksOnly (s.selected other) _ (s.askNode now ready other) :=
    asksOnly_foldl _ _ now ready
  obtain ⟨newer, hNewer⟩ := extends_askNode s now ready other
  intro node hOwn
  rw [hNewer.originsByNode] at hOwn ⊢
  rw [hAsks.offsets]
  by_cases hNode : node = other
  · rw [hNode] at hOwn ⊢
    dsimp only
    rw [Function.update_self]
    exact Nat.mod_lt _ (List.length_pos_of_ne_nil hOwn)
  · dsimp only
    rw [Function.update_of_ne hNode]
    exact h node hOwn

theorem InTurn.step {s : SpeedEnvelopeObserver} (h : s.InTurn) (input : ObserverInput) :
    (s.step input).InTurn := by
  cases input with
  | tick now ready =>
    exact List.foldlRecOn (motive := InTurn) s.nodes (SpeedEnvelopeObserver.askNode now ready)
      (b := s.expire now) h fun _ hNext node _ => hNext.askNode now ready node
  | complete index reply =>
    unfold SpeedEnvelopeObserver.step
    dsimp only
    split
    · unfold SpeedEnvelopeObserver.complete
      dsimp only
      split
      · exact h
      · exact h
    · exact h

theorem inTurn_after (past : List ObserverInput) :
    (after step (start origins nodes timeout) past).InTurn :=
  after_invariant (fun _ hOwn => List.length_pos_of_ne_nil hOwn)
    (fun _ input h => h.step input) past

/-- A value that waits for its turn is asked for, or eight places nearer with every tick. -/
theorem asked_or_nearer (hSeparate : Separate origins) (hNodup : nodes.Nodup) {node : String}
    (hNode : node ∈ nodes) {past later : List ObserverInput}
    (hSpaced : Spaced timeout (later ++ past)) {item : OriginValue} {steps : ℕ}
    (hAhead : Ahead (origins.filter (·.nodeName = node))
      ((after step (start origins nodes timeout) past).requestOffsets node) steps item) :
    ∃ newer, Extends newer (after step (start origins nodes timeout) past)
        (after step (start origins nodes timeout) (later ++ past)) ∧
      (Asked item.key newer ∨ ∃ left, Ahead (origins.filter (·.nodeName = node))
          ((after step (start origins nodes timeout) (later ++ past)).requestOffsets node) left
            item ∧
        left + maxRequestsPerNodePerTick * (tickTimes later).length ≤ steps) := by
  induction later with
  | nil => exact ⟨[], .refl _, .inr ⟨steps, hAhead, le_rfl⟩⟩
  | cons input later ih =>
    have hTail : Spaced timeout (later ++ past) := hSpaced.tail
    obtain ⟨newer, hNewer, hCase⟩ := ih hTail
    rw [List.cons_append, after_cons]
    obtain ⟨all, hAll⟩ := extends_after (later ++ past) (start origins nodes timeout)
    cases input with
    | tick now ready =>
      have hDue : DueBy now (after step (start origins nodes timeout) (later ++ past)) :=
        dueBy_after hTail hSpaced.earlier
      have hIn : node ∈ (after step (start origins nodes timeout) (later ++ past)).nodes := by
        rw [hAll.nodes]
        exact hNode
      have hTurn := tick_turn (by rw [hAll.origins]; exact hSeparate)
        (by rw [hAll.nodes]; exact hNodup) hIn ready (hDue.expired le_rfl)
      rw [hAll.originsByNode] at hTurn
      obtain ⟨more, hMore, hAsked, hOffset⟩ := hTurn
      refine ⟨more ++ newer, hNewer.trans hMore, ?_⟩
      rcases hCase with hEarlier | ⟨left, hLeft, hLe⟩
      · exact .inl (hEarlier.append_right more)
      · rcases hLeft.turn maxRequestsPerNodePerTick with hServed | ⟨hFar, hNearer⟩
        · exact .inl ((hAsked item hServed).append_left newer)
        · refine .inr ⟨left - maxRequestsPerNodePerTick, ?_, ?_⟩
          · change Ahead _ ((SpeedEnvelopeObserver.tick _ now ready).requestOffsets node) _ item
            rw [hOffset]
            exact hNearer
          · change left - maxRequestsPerNodePerTick +
              maxRequestsPerNodePerTick * ((tickTimes later).length + 1) ≤ steps
            rw [Nat.mul_add_one]
            omega
    | complete index reply =>
      obtain ⟨more, hMore⟩ := extends_step
        (after step (start origins nodes timeout) (later ++ past)) (.complete index reply)
      have hOffsets : ((after step (start origins nodes timeout) (later ++ past)).step
          (.complete index reply)).requestOffsets =
          (after step (start origins nodes timeout) (later ++ past)).requestOffsets := by
        unfold step complete
        dsimp only
        split
        · split <;> rfl
        · rfl
      refine ⟨more ++ newer, hNewer.trans hMore, ?_⟩
      rw [hOffsets]
      exact hCase.imp_left fun hEarlier => hEarlier.append_right more

/-- With ticks at least a time-out apart every value is asked for again within as many ticks as its
node needs turns, whatever the services answer. A value is some number of places ahead of the
offset of its node (`Ahead`), and every tick asks for it or brings it a batch nearer
(`asked_or_nearer`). -/
theorem every_value_asked (hSeparate : Separate origins) (hNodup : nodes.Nodup)
    {origin : OriginValue} (hOrigin : origin ∈ origins) (hNode : origin.nodeName ∈ nodes)
    {past later : List ObserverInput} (hSpaced : Spaced timeout (later ++ past))
    (hTicks : (origins.filter (·.nodeName = origin.nodeName)).length ≤
      maxRequestsPerNodePerTick * (tickTimes later).length) :
    ∃ newer, (after step (start origins nodes timeout) (later ++ past)).trace =
        newer ++ (after step (start origins nodes timeout) past).trace ∧
      Asked origin.key newer := by
  have hOwn : origin ∈ origins.filter (·.nodeName = origin.nodeName) :=
    List.mem_filter.mpr ⟨hOrigin, decide_eq_true rfl⟩
  have hOffset : (after step (start origins nodes timeout) past).requestOffsets origin.nodeName <
      (origins.filter (·.nodeName = origin.nodeName)).length := by
    obtain ⟨all, hAll⟩ := extends_after past (start origins nodes timeout)
    have hInTurn : (after step (start origins nodes timeout) past).InTurn := inTurn_after past
    have hLess := hInTurn origin.nodeName
    rw [hAll.originsByNode] at hLess
    exact hLess (List.ne_nil_of_mem hOwn)
  obtain ⟨steps, hAhead⟩ := Ahead.exists hOffset hOwn
  obtain ⟨newer, hNewer, hCase⟩ := asked_or_nearer hSeparate hNodup hNode hSpaced hAhead
  refine ⟨newer, hNewer.trace, ?_⟩
  rcases hCase with hAsked | ⟨left, -, hLe⟩
  · exact hAsked
  · have hSteps := hAhead.steps_lt
    omega

end Run

/-- The values of the controller, one more than a tick asks for. -/
def controllerValue (index : ℕ) : OriginValue where
  key := s!"controller_server.limit_{index}"
  nodeName := "/controller_server"
  parameterName := s!"limit_{index}"
  value := .double (.finite 2)

def plannerSpeed : OriginValue where
  key := "planner_server.max_speed"
  nodeName := "/planner_server"
  parameterName := "max_speed"
  value := .double (.finite 2)

def serverValues : List OriginValue := plannerSpeed :: (List.range 9).map controllerValue

def serverNodes : List String := ["/planner_server", "/controller_server"]

/-- The first tick asks for eight of the nine values, the second one begins with the ninth, and the
third one with the eighth. -/
theorem every_value_asked_servers :
    let init := start serverValues serverNodes (1 / 4)
    let past : List ObserverInput := [.tick 0 fun _ => true]
    let later : List ObserverInput := [.tick 1 fun _ => true, .tick (1 / 2) fun _ => true]
    ∃ newer, (after step init (later ++ past)).trace = newer ++ (after step init past).trace ∧
      Asked (controllerValue 7).key newer := by
  have hMem : controllerValue 7 ∈ serverValues :=
    List.mem_cons_of_mem _ (List.mem_map_of_mem (List.mem_range.mpr (by decide)))
  have hSeparate : Separate serverValues := by
    unfold Separate
    decide +kernel
  exact every_value_asked hSeparate (by decide) hMem (by decide) (by unfold Spaced; decide +kernel)
    (by decide +kernel)

end SpeedEnvelopeObserver

end PreRunner.Bringup
