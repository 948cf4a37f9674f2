import Mathlib.Tactic.Linarith
import PreRunner.Runs.History
import PreRunner.Paddock.ClientStream

/-!
# What a client has been sent

A client that replays the state frames it was offered shows a view of each section. The invariant
ties this view to the key that the hub has recorded for the client: the cache has held the entry
that the view was made from, under that key. It is stated for the frames that the hub keeps for
reuse and for every client, and each part of a publication is shown to keep it.
-/

namespace PreRunner.Paddock

open Runs

variable {V : Type}

/-! ## Replaying the offered frames -/

/-- The view of a section after the state frames of a log, latest first. -/
def shows : List (Slot × Frame V) → Source → Option (SectionView V)
  | [], _ => none
  | (_, .state views _) :: _, source => some (views source)
  | (_, .stateUpdate updated view _) :: past, source =>
    if updated = source then some view else shows past source
  | (_, .large _ _ _) :: past, source => shows past source

/-- The revision of the last frame of a large kind. -/
def lastRevision (kind : LargeKind) : List (Slot × Frame V) → Option ℕ
  | [] => none
  | (_, .large other revision _) :: past =>
    if other = kind then some revision else lastRevision kind past
  | (_, _) :: past => lastRevision kind past

/-- The slot in which a frame is offered. -/
def Frame.slot : Frame V → Slot
  | state _ _ => .state
  | stateUpdate source _ _ => .section source
  | large kind _ _ => .large kind

/-- The view was made from an entry that the cache has held under the key. -/
def Reported (cache : StateCache V) (source : Source) (key : SectionKey)
    (view : SectionView V) : Prop :=
  ∃ entry ∈ cache.log source, ∃ now, key = entry.key source now ∧ view = entry.view source now

theorem Reported.later {cache next : StateCache V} (h : StateCache.Later cache next)
    {source : Source} {key : SectionKey} {view : SectionView V}
    (hReported : Reported cache source key view) : Reported next source key view := by
  obtain ⟨entry, hEntry, now, hKey, hView⟩ := hReported
  exact ⟨entry, h.log source entry hEntry, now, hKey, hView⟩

/-- A view shows the key it was reported under. -/
theorem Reported.health {cache : StateCache V} {source : Source} {key : SectionKey}
    {view : SectionView V} (h : Reported cache source key view) :
    view.health.revision = key.revision ∧ view.health.fresh = key.fresh := by
  obtain ⟨entry, -, now, rfl, rfl⟩ := h
  exact ⟨rfl, rfl⟩

/-- What a read of the cache reports, a later cache has held. -/
theorem reported_read {same : V → V → Bool} {cache next : StateCache V}
    (hKept : StateCache.Kept same cache) (hLater : StateCache.Later cache next) (source : Source)
    (now : ℚ) :
    Reported next source ((cache.entries source).key source now)
      ((cache.entries source).view source now) :=
  ⟨_, hLater.log source _ (hKept.current source), now, rfl, rfl⟩

/-! ## The invariant -/

/-- The newest revision that a slot can carry. -/
def newest (cache : StateCache V) : Slot → ℕ
  | .state => 0
  | .section source => (cache.entries source).revision
  | .large kind => (cache.entries kind.source).revision

/-- Frames lie in their slots within the limits, and none is dropped for an older one. -/
structure BoxOk (limit : Slot → ℕ) (box : Mailbox Slot (Frame V)) : Prop where
  bound : ∀ slot frame, (slot, frame) ∈ box.offered →
    frame.slot = slot ∧ frame.revision ≤ limit slot
  covered : box.Covered fun old kept => old.revision ≤ kept.revision

/-- A synchronized client shows what was reported under its keys. -/
def SectionsOk (cache : StateCache V) (client : ClientConnection V) : Prop :=
  ∀ keys, client.stateSections = some keys → ∀ source,
    ∃ view, shows client.mailbox.offered source = some view ∧
      Reported cache source (keys source) view

/-- The recorded revision of a demanded kind is that of its last frame, or asks for one. -/
def LargeOk (client : ClientConnection V) : Prop :=
  ∀ kind, client.visualizationDemand kind = true → client.revisions kind = -1 ∨
    ∃ revision, lastRevision kind client.mailbox.offered = some revision ∧
      client.revisions kind = revision

structure ClientOk (cache : StateCache V) (limit : Slot → ℕ) (client : ClientConnection V) :
    Prop where
  box : BoxOk limit client.mailbox
  sections : SectionsOk cache client
  large : LargeOk client

/-- The frames kept for reuse. -/
structure FramesOk (cache : StateCache V) (hub : ClientHub V) : Prop where
  state : ∀ frame, hub.stateFrame = some frame → ∃ keys views status,
    hub.stateRevision = some keys ∧ frame = .state views status ∧
      ∀ source, Reported cache source (keys source) (views source)
  sections : ∀ source key frame, hub.sectionFrames source = some (key, frame) →
    ∃ view status, frame = .stateUpdate source view status ∧ Reported cache source key view

/-- The hub, when the cache has reached the given state. -/
structure HubOk (cache : StateCache V) (limit : Slot → ℕ) (hub : ClientHub V) : Prop where
  frames : FramesOk cache hub
  clients : ∀ client ∈ hub.clients, ClientOk cache limit client

structure SystemOk (same : V → V → Bool) (s : StreamSystem V) : Prop where
  cache : StateCache.Kept same s.cache
  hub : HubOk s.cache (newest s.cache) s.hub

/-! ## Later caches -/

theorem newest_le {cache next : StateCache V} (h : StateCache.Later cache next) (slot : Slot) :
    newest cache slot ≤ newest next slot := by
  cases slot with
  | state => exact le_rfl
  | «section» source => exact h.revision source
  | large kind => exact h.revision kind.source

theorem ClientOk.later {cache next : StateCache V} {limit limit' : Slot → ℕ}
    {client : ClientConnection V} (h : ClientOk cache limit client)
    (hLater : StateCache.Later cache next) (hLimit : ∀ slot, limit slot ≤ limit' slot) :
    ClientOk next limit' client := by
  refine ⟨⟨fun slot frame hFrame => ?_, h.box.covered⟩, fun keys hKeys source => ?_, h.large⟩
  · obtain ⟨hSlot, hLe⟩ := h.box.bound slot frame hFrame
    exact ⟨hSlot, hLe.trans (hLimit slot)⟩
  · obtain ⟨view, hShows, hReported⟩ := h.sections keys hKeys source
    exact ⟨view, hShows, hReported.later hLater⟩

theorem FramesOk.later {cache next : StateCache V} {hub : ClientHub V} (h : FramesOk cache hub)
    (hLater : StateCache.Later cache next) : FramesOk next hub := by
  refine ⟨fun frame hFrame => ?_, fun source key frame hFrame => ?_⟩
  · obtain ⟨keys, views, status, hRevision, hEq, hReported⟩ := h.state frame hFrame
    exact ⟨keys, views, status, hRevision, hEq, fun source => (hReported source).later hLater⟩
  · obtain ⟨view, status, hEq, hReported⟩ := h.sections source key frame hFrame
    exact ⟨view, status, hEq, hReported.later hLater⟩

theorem HubOk.later {cache next : StateCache V} {limit limit' : Slot → ℕ} {hub : ClientHub V}
    (h : HubOk cache limit hub) (hLater : StateCache.Later cache next)
    (hLimit : ∀ slot, limit slot ≤ limit' slot) : HubOk next limit' hub :=
  ⟨h.frames.later hLater, fun client hClient => (h.clients client hClient).later hLater hLimit⟩

/-! ## Offering a frame -/

theorem boxOk_offer {limit : Slot → ℕ} {box : Mailbox Slot (Frame V)} (h : BoxOk limit box)
    {frame : Frame V} {bound : ℕ} (hNewer : limit frame.slot ≤ frame.revision)
    (hBound : frame.revision ≤ bound) :
    BoxOk (Function.update limit frame.slot bound) (box.offer frame.slot frame) := by
  refine ⟨fun slot other hOther => ?_, Mailbox.covered_offer h.covered le_rfl fun old hOld =>
    (h.bound _ old hOld).2.trans hNewer⟩
  rcases List.mem_cons.mp hOther with hEq | hOld
  · cases hEq
    rw [Function.update_self]
    exact ⟨rfl, hBound⟩
  · obtain ⟨hSlot, hLe⟩ := h.bound slot other hOld
    refine ⟨hSlot, hLe.trans ?_⟩
    by_cases hSame : slot = frame.slot
    · subst hSame
      rw [Function.update_self]
      exact hNewer.trans hBound
    · rw [Function.update_of_ne hSame]

theorem mem_modifyWhere {hub : ClientHub V} {recipient : ClientConnection V → Bool}
    {change : ClientConnection V → ClientConnection V} {client : ClientConnection V}
    (h : client ∈ (hub.modifyWhere recipient change).clients) :
    ∃ old ∈ hub.clients, (recipient old = true ∧ client = change old) ∨
      (recipient old = false ∧ client = old) := by
  obtain ⟨old, hOld, rfl⟩ := List.mem_map.mp h
  refine ⟨old, hOld, ?_⟩
  cases hRecipient : recipient old with
  | true => exact Or.inl ⟨rfl, rfl⟩
  | false => exact Or.inr ⟨rfl, rfl⟩

/-! ## Full states -/

theorem sameKeys_iff {keys : Source → SectionKey} {revision : Option (Source → SectionKey)} :
    sameKeys keys revision = true ↔ revision = some keys := by
  cases revision with
  | none =>
    exact ⟨fun h => absurd h Bool.false_ne_true, fun h => absurd h.symm (Option.some_ne_none _)⟩
  | some other =>
    unfold sameKeys
    rw [List.all_eq_true]
    constructor
    · intro h
      congr 1
      funext source
      exact (of_decide_eq_true (h source (Source.mem_all source))).symm
    · rintro h source -
      cases h
      exact decide_eq_true rfl

/-- An unsynchronized client meets a kept full state that a failed encoding has not replaced. -/
def StaleFrame (same : V → V → Bool) (s : StreamSystem V) (publication : Publication V) : Prop :=
  s.hub.clients.any ClientHub.unsynchronized = true ∧ s.hub.stateFrame.isSome = true ∧
    sameKeys ((publication.cacheAt same s.cache .keys).stateSectionKeys (publication.now .keys))
      s.hub.stateRevision = false ∧
    publication.encodes .snapshot = false

namespace ClientHub

variable {publication : Publication V} {reads : Site → StateCache V} {same : V → V → Bool}
  {cache : StateCache V} {limit start : Slot → ℕ} {hub : ClientHub V}

theorem modifyWhere_frames {recipient : ClientConnection V → Bool}
    {change : ClientConnection V → ClientConnection V} (h : FramesOk cache hub) :
    FramesOk cache (hub.modifyWhere recipient change) := ⟨h.state, h.sections⟩

/-- A kept full state is offered under the keys that it was made with. -/
theorem offerState_ok (h : HubOk cache limit hub) (hState : limit .state = 0)
    {keys : Source → SectionKey}
    (hKeys : hub.stateFrame.isSome = true → hub.stateRevision = some keys) :
    HubOk cache limit (hub.offerState keys) := by
  unfold offerState
  split
  · exact h
  · rename_i frame hFrame
    obtain ⟨keys', views, status, hRevision, rfl, hReported⟩ := h.frames.state frame hFrame
    have hSome := hKeys (by rw [hFrame]; rfl)
    rw [hRevision] at hSome
    cases hSome
    refine ⟨modifyWhere_frames h.frames, fun client hClient => ?_⟩
    obtain ⟨old, hOld, ⟨-, rfl⟩ | ⟨-, rfl⟩⟩ := mem_modifyWhere hClient
    · have hOk := h.clients old hOld
      refine ⟨?_, fun keys hKeys source => ?_, fun kind hDemand => ?_⟩
      · have hNewer : limit (Frame.state views status).slot ≤ (Frame.state views status).revision :=
          hState.le
        have hBox : BoxOk (Function.update limit .state 0)
            (old.mailbox.offer .state (.state views status)) :=
          boxOk_offer hOk.box hNewer le_rfl
        rwa [← hState, Function.update_eq_self] at hBox
      · cases hKeys
        exact ⟨views source, rfl, hReported source⟩
      · exact hOk.large kind hDemand
    · exact h.clients client hOld

/-- The reads of a publication lie between the limits it started from and the final cache. -/
structure ReadsOk (same : V → V → Bool) (reads : Site → StateCache V) (cache : StateCache V)
    (start : Slot → ℕ) : Prop where
  kept : ∀ site, StateCache.Kept same (reads site)
  later : ∀ site, StateCache.Later (reads site) cache
  newer : ∀ site slot, start slot ≤ newest (reads site) slot

/-- Either the hub goes by the first keys, or by those of a new full state. -/
theorem synchronize_ok (h : HubOk cache limit hub) (hState : limit .state = 0)
    (hReads : ReadsOk same reads cache start)
    (hStale : ¬ (hub.clients.any unsynchronized = true ∧ hub.stateFrame.isSome = true ∧
      sameKeys ((reads .keys).stateSectionKeys (publication.now .keys)) hub.stateRevision = false ∧
      publication.encodes .snapshot = false)) :
    HubOk cache limit (hub.synchronize publication reads
      ((reads .keys).stateSectionKeys (publication.now .keys))).1 ∧
    ∃ site now, (hub.synchronize publication reads
      ((reads .keys).stateSectionKeys (publication.now .keys))).2 =
        (reads site).stateSectionKeys now := by
  set keys := (reads .keys).stateSectionKeys (publication.now .keys) with hKeys
  unfold synchronize
  cases hAny : hub.clients.any unsynchronized with
  | false => exact ⟨h, .keys, _, hKeys⟩
  | true =>
    rw [if_pos rfl]
    cases hSame : sameKeys keys hub.stateRevision with
    | true =>
      exact ⟨offerState_ok h hState fun _ => sameKeys_iff.mp hSame, .keys, _, hKeys⟩
    | false =>
      rw [if_pos (show (!false) = true from rfl)]
      unfold encodeState encodeMessage
      dsimp only
      cases hEncodes : publication.encodes .snapshot with
      | false =>
        refine ⟨offerState_ok h hState fun hSome => ?_, .keys, _, hKeys⟩
        exact absurd ⟨hAny, hSome, hSame, hEncodes⟩ hStale
      | true =>
        rw [if_pos rfl]
        dsimp only
        refine ⟨?_, .snapshot, _, rfl⟩
        set now := publication.now .snapshot
        set next : ClientHub V := { hub with
          stateRevision := some ((reads .snapshot).stateSectionKeys now)
          stateFrame := some (.state (fun name => ((reads .snapshot).entries name).view name now)
            ((reads .snapshot).healthStatus now)) }
        have hNew : HubOk cache limit next := by
          refine ⟨⟨fun frame hSome => ?_, h.frames.sections⟩, h.clients⟩
          cases hSome
          exact ⟨_, _, _, rfl, rfl, fun source =>
            reported_read (hReads.kept .snapshot) (hReads.later .snapshot) source now⟩
        exact offerState_ok hNew hState fun _ => rfl

/-! ## Sections -/

/-- A section frame shows what was reported under its key, and is newer than those before. -/
theorem sectionFrame_ok (h : FramesOk cache hub) (hReads : ReadsOk same reads cache start)
    {source : Source} {key : SectionKey}
    (hKey : start (.section source) ≤ key.revision ∧
      key.revision ≤ newest cache (.section source))
    {actualKey : SectionKey} {frame : Frame V}
    (hFrame : hub.sectionFrame publication reads source key = some (actualKey, frame)) :
    ∃ view status, frame = .stateUpdate source view status ∧
      Reported cache source actualKey view ∧ start (.section source) ≤ actualKey.revision ∧
        actualKey.revision ≤ newest cache (.section source) := by
  have hEncoded : (encodeMessage (publication.encodes (.section source))
      (Frame.stateUpdate source
        (((reads (.section source)).entries source).view source
          (publication.now (.section source)))
        ((reads (.section source)).healthStatus (publication.now (.section source))))).map
      (fun frame => (((reads (.section source)).entries source).key source
        (publication.now (.section source)), frame)) = some (actualKey, frame) →
      ∃ view status, frame = .stateUpdate source view status ∧
        Reported cache source actualKey view ∧ start (.section source) ≤ actualKey.revision ∧
          actualKey.revision ≤ newest cache (.section source) := by
    unfold encodeMessage
    cases publication.encodes (.section source) with
    | false => exact fun hNone => by cases hNone
    | true =>
      intro hSome
      cases hSome
      exact ⟨_, _, rfl, reported_read (hReads.kept _) (hReads.later _) source _,
        hReads.newer (.section source) (.section source),
        newest_le (hReads.later (.section source)) (.section source)⟩
  unfold sectionFrame at hFrame
  dsimp only [StateCache.stateSectionSnapshot] at hFrame
  split at hFrame
  · exact hEncoded hFrame
  · rename_i cachedKey cached hCached
    split at hFrame
    · rename_i hSame
      cases hFrame
      obtain ⟨view, status, hEq, hReported⟩ := h.sections source actualKey frame hCached
      subst hSame
      exact ⟨view, status, hEq, hReported, hKey⟩
    · exact hEncoded hFrame

theorem clientOk_section {client : ClientConnection V} (h : ClientOk cache limit client)
    {source : Source} {key : SectionKey} {view : SectionView V} {status : HealthStatus}
    (hReported : Reported cache source key view)
    (hNewer : limit (.section source) ≤ key.revision)
    (hBound : key.revision ≤ newest cache (.section source)) :
    ClientOk cache (Function.update limit (.section source) (newest cache (.section source)))
      { client.offer (.section source) (.stateUpdate source view status) with
        stateSections := client.stateSections.map fun sections =>
          Function.update sections source key } := by
  have hRevision := hReported.health.1
  refine ⟨?_, fun keys hKeys other => ?_, fun kind hDemand => h.large kind hDemand⟩
  · have hNewer' : limit (Frame.stateUpdate source view status).slot ≤
        (Frame.stateUpdate source view status).revision := hNewer.trans_eq hRevision.symm
    exact boxOk_offer h.box hNewer' (hRevision.trans_le hBound)
  · obtain ⟨sections, hSections, rfl⟩ := Option.map_eq_some_iff.mp hKeys
    by_cases hSource : source = other
    · subst hSource
      rw [Function.update_self]
      exact ⟨view, if_pos rfl, hReported⟩
    · rw [Function.update_of_ne (Ne.symm hSource)]
      obtain ⟨old, hShows, hOld⟩ := h.sections sections hSections other
      exact ⟨old, (if_neg hSource).trans hShows, hOld⟩

/-- The limits after some slots have been filled. -/
def raised (cache : StateCache V) (start : Slot → ℕ) (filled : List Slot) (slot : Slot) : ℕ :=
  if slot ∈ filled then newest cache slot else start slot

theorem raised_le (hStart : ∀ slot, start slot ≤ newest cache slot) (filled : List Slot)
    (slot : Slot) : raised cache start filled slot ≤ newest cache slot := by
  unfold raised
  split
  · exact le_rfl
  · exact hStart slot

theorem raised_cons (filled : List Slot) (slot other : Slot) :
    Function.update (raised cache start filled) slot (newest cache slot) other =
      raised cache start (slot :: filled) other := by
  unfold raised
  by_cases hOther : other = slot
  · subst hOther
    rw [Function.update_self, if_pos List.mem_cons_self]
  · rw [Function.update_of_ne hOther]
    by_cases hMem : other ∈ filled
    · rw [if_pos hMem, if_pos (List.mem_cons_of_mem _ hMem)]
    · rw [if_neg hMem, if_neg]
      simp only [List.mem_cons, not_or]
      exact ⟨hOther, hMem⟩

theorem publishSection_ok (hReads : ReadsOk same reads cache start)
    (hStart : ∀ slot, start slot ≤ newest cache slot) {keys : Source → SectionKey}
    (hKey : ∀ source, start (.section source) ≤ (keys source).revision ∧
      (keys source).revision ≤ newest cache (.section source)) {filled : List Slot}
    {source : Source} (hFilled : Slot.section source ∉ filled)
    (h : HubOk cache (raised cache start filled) hub) :
    HubOk cache (raised cache start (.section source :: filled))
      (hub.publishSection publication reads keys source) := by
  have hSlot : raised cache start filled (.section source) = start (.section source) :=
    if_neg hFilled
  have hLimit : ∀ slot, raised cache start filled slot ≤
      raised cache start (.section source :: filled) slot := by
    intro slot
    rw [← raised_cons]
    by_cases hSame : slot = .section source
    · subst hSame
      rw [Function.update_self]
      exact raised_le hStart filled _
    · rw [Function.update_of_ne hSame]
  unfold publishSection
  split
  · exact h.later (.refl cache) hLimit
  · cases hFrame : hub.sectionFrame publication reads source (keys source) with
    | none => exact h.later (.refl cache) hLimit
    | some encoded =>
      obtain ⟨key, frame⟩ := encoded
      obtain ⟨view, status, rfl, hReported, hNewer, hBound⟩ :=
        sectionFrame_ok h.frames hReads (hKey source) hFrame
      refine ⟨⟨h.frames.state, fun other key' frame' hCached => ?_⟩, fun client hClient => ?_⟩
      · by_cases hOther : other = source
        · subst hOther
          have hSame : some (key, Frame.stateUpdate other view status) = some (key', frame') :=
            (Function.update_self other _ hub.sectionFrames).symm.trans hCached
          cases hSame
          exact ⟨view, status, rfl, hReported⟩
        · have hOld : hub.sectionFrames other = some (key', frame') :=
            (Function.update_of_ne hOther _ hub.sectionFrames).symm.trans hCached
          exact h.frames.sections other key' frame' hOld
      · obtain ⟨old, hOld, ⟨-, rfl⟩ | ⟨-, rfl⟩⟩ := mem_modifyWhere hClient
        · exact (clientOk_section (h.clients old hOld) hReported (hSlot.trans_le hNewer)
            hBound).later (.refl cache) fun slot => (raised_cons filled _ slot).le
        · exact (h.clients client hOld).later (.refl cache) hLimit

/-! ## Large kinds -/

theorem publishLarge_ok (hReads : ReadsOk same reads cache start)
    (hStart : ∀ slot, start slot ≤ newest cache slot) {filled : List Slot} {kind : LargeKind}
    (hFilled : Slot.large kind ∉ filled) (h : HubOk cache (raised cache start filled) hub) :
    HubOk cache (raised cache start (.large kind :: filled))
      (hub.publishLarge publication reads kind) := by
  have hSlot : raised cache start filled (.large kind) = start (.large kind) := if_neg hFilled
  have hLimit : ∀ slot, raised cache start filled slot ≤
      raised cache start (.large kind :: filled) slot := by
    intro slot
    rw [← raised_cons]
    by_cases hSame : slot = .large kind
    · subst hSame
      rw [Function.update_self]
      exact raised_le hStart filled _
    · rw [Function.update_of_ne hSame]
  unfold publishLarge encodeMessage
  dsimp only [StateCache.largeSnapshot]
  split
  · exact h.later (.refl cache) hLimit
  · cases publication.encodes (.large kind) with
    | false => exact h.later (.refl cache) hLimit
    | true =>
      rw [if_pos rfl]
      refine ⟨⟨h.frames.state, h.frames.sections⟩, fun client hClient => ?_⟩
      obtain ⟨old, hOld, ⟨-, rfl⟩ | ⟨-, rfl⟩⟩ := mem_modifyWhere hClient
      · have hOk := h.clients old hOld
        have hNewer : raised cache start filled (Frame.large kind
            ((reads (.large kind)).entries kind.source).revision
            ((reads (.large kind)).entries kind.source).value).slot ≤
            ((reads (.large kind)).entries kind.source).revision :=
          hSlot.trans_le (hReads.newer (.large kind) (.large kind))
        have hBox := boxOk_offer hOk.box hNewer
          (newest_le (hReads.later (.large kind)) (.large kind))
        refine ⟨⟨fun slot frame hFrame => ?_, hBox.covered⟩, fun keys hKeys source =>
          hOk.sections keys hKeys source, fun other hDemand => ?_⟩
        · obtain ⟨hSame, hLe⟩ := hBox.bound slot frame hFrame
          exact ⟨hSame, hLe.trans_eq (raised_cons filled _ slot)⟩
        · by_cases hOther : other = kind
          · subst hOther
            refine Or.inr ⟨_, if_pos rfl, Function.update_self ..⟩
          · rcases hOk.large other hDemand with hNone | ⟨revision, hLast, hRevision⟩
            · exact Or.inl ((Function.update_of_ne hOther ..).trans hNone)
            · exact Or.inr ⟨revision, (if_neg (Ne.symm hOther)).trans hLast,
                (Function.update_of_ne hOther ..).trans hRevision⟩
      · exact (h.clients client hOld).later (.refl cache) hLimit

/-- A loop that fills each slot once. -/
theorem foldl_ok {α : Type} (slotOf : α → Slot) (visit : ClientHub V → α → ClientHub V)
    (hVisit : ∀ hub filled item, slotOf item ∉ filled →
      HubOk cache (raised cache start filled) hub →
      HubOk cache (raised cache start (slotOf item :: filled)) (visit hub item))
    (items : List α) : ∀ (hub : ClientHub V) (filled : List Slot), (items.map slotOf).Nodup →
      (∀ item ∈ items, slotOf item ∉ filled) → HubOk cache (raised cache start filled) hub →
      ∃ filled', HubOk cache (raised cache start filled') (items.foldl visit hub) ∧
        ∀ slot ∈ filled', slot ∈ filled ∨ slot ∈ items.map slotOf := by
  induction items with
  | nil => exact fun hub filled _ _ h => ⟨filled, h, fun slot hSlot => Or.inl hSlot⟩
  | cons item items ih =>
    intro hub filled hNodup hFresh h
    obtain ⟨hNot, hRest⟩ := List.nodup_cons.mp hNodup
    have hDistinct : ∀ other ∈ items, slotOf other ∉ slotOf item :: filled := by
      intro other hOther hMem
      rcases List.mem_cons.mp hMem with hEq | hMem
      · exact hNot (hEq ▸ List.mem_map_of_mem hOther)
      · exact hFresh other (List.mem_cons_of_mem _ hOther) hMem
    obtain ⟨filled', hOk, hFilled⟩ := ih (visit hub item) (slotOf item :: filled) hRest hDistinct
      (hVisit hub filled item (hFresh item List.mem_cons_self) h)
    refine ⟨filled', hOk, fun slot hSlot => ?_⟩
    rcases hFilled slot hSlot with hSlot | hSlot
    · rcases List.mem_cons.mp hSlot with rfl | hSlot
      · exact Or.inr List.mem_cons_self
      · exact Or.inl hSlot
    · exact Or.inr (List.mem_cons_of_mem _ hSlot)

/-- The state part keeps the invariant, unless it goes by a stale frame. -/
theorem publishState_ok (hStart : ∀ slot, start slot ≤ newest cache slot) (hZero : start .state = 0)
    (hReads : ReadsOk same reads cache start) (h : HubOk cache start hub)
    (hStale : ¬ (hub.clients.any unsynchronized = true ∧ hub.stateFrame.isSome = true ∧
      sameKeys ((reads .keys).stateSectionKeys (publication.now .keys)) hub.stateRevision = false ∧
      publication.encodes .snapshot = false)) :
    ∃ filled, HubOk cache (raised cache start filled) (hub.publishState publication reads) ∧
      ∀ kind, Slot.large kind ∉ filled := by
  obtain ⟨hSync, site, now, hKeys⟩ := synchronize_ok h hZero hReads hStale
  have hKey : ∀ source,
      start (.section source) ≤ ((reads site).stateSectionKeys now source).revision ∧
      ((reads site).stateSectionKeys now source).revision ≤ newest cache (.section source) :=
    fun source => ⟨hReads.newer site (.section source),
      newest_le (hReads.later site) (.section source)⟩
  have hNone : HubOk cache (raised cache start []) (hub.synchronize publication reads
      ((reads .keys).stateSectionKeys (publication.now .keys))).1 :=
    hSync.later (.refl cache) fun slot => (if_neg List.not_mem_nil).ge
  unfold publishState
  dsimp only
  rw [hKeys]
  obtain ⟨filled, hSections, hFilled⟩ := foldl_ok .section
    (publishSection publication reads ((reads site).stateSectionKeys now))
    (fun hub filled source hFresh h => publishSection_ok hReads hStart hKey hFresh h)
    Source.all _ [] (by decide) (fun _ _ => List.not_mem_nil) hNone
  refine ⟨filled, hSections, fun kind hMem => ?_⟩
  rcases hFilled _ hMem with hMem | hMem
  · cases hMem
  · obtain ⟨source, -, hEq⟩ := List.mem_map.mp hMem
    cases hEq

/-- The large kinds keep the invariant. -/
theorem publishLarges_ok (hReads : ReadsOk same reads cache start)
    (hStart : ∀ slot, start slot ≤ newest cache slot) {filled : List Slot}
    (hFilled : ∀ kind, Slot.large kind ∉ filled) (h : HubOk cache (raised cache start filled) hub) :
    HubOk cache (newest cache) (LargeKind.all.foldl (publishLarge publication reads) hub) := by
  obtain ⟨filled', hLarge, -⟩ := foldl_ok .large (publishLarge publication reads)
    (fun hub filled kind hFresh h => publishLarge_ok hReads hStart hFresh h)
    LargeKind.all hub filled (by decide) (fun kind _ => hFilled kind) h
  exact hLarge.later (.refl cache) (raised_le hStart filled')

end ClientHub

end PreRunner.Paddock
