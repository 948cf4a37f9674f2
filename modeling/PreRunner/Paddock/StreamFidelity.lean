import PreRunner.Paddock.StreamInvariant

/-!
# A client is never marked with data it was not sent

After a publication, a synchronized client that replays its state frames shows, for every
section, what the cache has held under the key recorded for it; the last frame of a demanded large
kind carries the revision that was read; and a frame is dropped only for one that is not older.
This fails in one case: a new client is given the kept full state under the present keys after the
encoding of a newer one has failed.
-/

namespace PreRunner.Paddock

open Runs

variable {V : Type} {same : V → V → Bool}

/-! ## What a publication promises -/

/-- The client shows what the cache has held under the key, and that key stands for one value. -/
def UpToDate (same : V → V → Bool) (cache : StateCache V) (client : ClientConnection V)
    (source : Source) (key : SectionKey) : Prop :=
  ∃ entry ∈ cache.log source, ∃ now, key = entry.key source now ∧
    shows client.mailbox.offered source = some (entry.view source now) ∧
    ∀ other ∈ cache.log source, other.revision = key.revision →
      StateCache.SameValue same entry.value other.value

/-- What holds after a publication. -/
structure Faithful (same : V → V → Bool) (publication : Publication V)
    (s next : StreamSystem V) : Prop where
  sections : ∀ client ∈ next.hub.clients, ∀ keys, client.stateSections = some keys →
    ∀ source, UpToDate same next.cache client source (keys source)
  large : ∀ client ∈ next.hub.clients, client.registered = true → ∀ kind,
    client.visualizationDemand kind = true → publication.encodes (.large kind) = true →
    lastRevision kind client.mailbox.offered =
      some ((publication.cacheAt same s.cache (.large kind)).entries kind.source).revision
  skipped : ∀ client ∈ next.hub.clients, ∀ slot frame, (slot, frame) ∈ client.mailbox.offered →
    ∃ kept, client.mailbox.Kept slot kept ∧ frame.revision ≤ kept.revision

/-! ## The reads of a publication -/

theorem exists_after {α : Type} [DecidableEq α] {a : α} {l : List α} (h : a ∈ l) :
    ∃ rest, l = (l.takeWhile (· ≠ a) ++ [a]) ++ rest := by
  induction l with
  | nil => cases h
  | cons head tail ih =>
    by_cases hHead : head = a
    · subst hHead
      exact ⟨tail, by simp⟩
    · obtain ⟨rest, hRest⟩ := ih ((List.mem_cons.mp h).resolve_left (Ne.symm hHead))
      refine ⟨rest, ?_⟩
      rw [List.takeWhile_cons_of_pos (by simpa using hHead), List.cons_append, List.cons_append,
        ← hRest]

theorem Site.mem_order (site : Site) : site ∈ Site.order := by
  unfold Site.order
  cases site with
  | keys => exact List.mem_append_left _ (List.mem_append_left _ List.mem_cons_self)
  | snapshot =>
    exact List.mem_append_left _ (List.mem_append_left _ (List.mem_cons_of_mem _
      List.mem_cons_self))
  | «section» source =>
    exact List.mem_append_left _ (List.mem_append_right _
      (List.mem_map_of_mem (Source.mem_all source)))
  | large kind => exact List.mem_append_right _ (List.mem_map_of_mem (LargeKind.mem_all kind))

/-- Every read lies between the caches before and after the publication. -/
theorem cacheAt_between {cache : StateCache V} (h : StateCache.Kept same cache)
    (publication : Publication V) (site : Site) :
    StateCache.Kept same (publication.cacheAt same cache site) ∧
    StateCache.Later cache (publication.cacheAt same cache site) ∧
    StateCache.Later (publication.cacheAt same cache site) (publication.cacheAfter same cache) := by
  obtain ⟨hKept, hLater⟩ := StateCache.kept_writes
    ((Site.order.takeWhile (· ≠ site) ++ [site]).flatMap publication.before) cache h
  refine ⟨hKept, hLater, ?_⟩
  obtain ⟨rest, hRest⟩ := exists_after (Site.mem_order site)
  unfold Publication.cacheAfter
  rw [hRest, List.flatMap_append, List.foldl_append]
  exact (StateCache.kept_writes _ _ hKept).2

theorem readsOk {cache : StateCache V} (h : StateCache.Kept same cache)
    (publication : Publication V) :
    ClientHub.ReadsOk same (publication.cacheAt same cache) (publication.cacheAfter same cache)
      (newest cache) where
  kept site := (cacheAt_between h publication site).1
  later site := (cacheAt_between h publication site).2.2
  newer site slot := newest_le (cacheAt_between h publication site).2.1 slot

/-! ## Large kinds -/

namespace ClientHub

variable {publication : Publication V} {reads : Site → StateCache V} {cache : StateCache V}
  {start : Slot → ℕ} {hub : ClientHub V}

/-- The registered clients that demand a kind have been sent the revision that was read. -/
def Sent (publication : Publication V) (reads : Site → StateCache V) (kind : LargeKind)
    (hub : ClientHub V) : Prop :=
  ∀ client ∈ hub.clients, client.registered = true → client.visualizationDemand kind = true →
    publication.encodes (.large kind) = true →
    lastRevision kind client.mailbox.offered =
      some ((reads (.large kind)).entries kind.source).revision

/-- A client that wants nothing has its last frame at the revision that was read. -/
theorem lastRevision_of_content {kind : LargeKind} {revision : ℕ} {client : ClientConnection V}
    (h : LargeOk client) (hRegistered : client.registered = true)
    (hDemand : client.visualizationDemand kind = true)
    (hWants : wants kind revision client = false) :
    lastRevision kind client.mailbox.offered = some revision := by
  unfold wants at hWants
  rw [hRegistered, hDemand, Bool.true_and, Bool.true_and, decide_eq_false_iff_not, not_not]
    at hWants
  rcases h kind hDemand with hNone | ⟨last, hLast, hRevision⟩
  · rw [hNone] at hWants
    omega
  · rw [hLast]
    rw [hRevision] at hWants
    exact congrArg some (Int.ofNat.inj hWants)

theorem publishLarge_sent {hub : ClientHub V} {kind : LargeKind}
    (h : ∀ client ∈ hub.clients, LargeOk client) :
    Sent publication reads kind (hub.publishLarge publication reads kind) := by
  intro client hClient hRegistered hDemand hEncodes
  unfold publishLarge encodeMessage at hClient
  dsimp only [StateCache.largeSnapshot] at hClient
  rw [hEncodes, if_pos rfl] at hClient
  split at hClient
  · rename_i hNone
    rw [Bool.not_eq_true', List.any_eq_false] at hNone
    exact lastRevision_of_content (h client hClient) hRegistered hDemand
      (Bool.eq_false_iff.mpr (hNone client hClient))
  · obtain ⟨old, hOld, ⟨-, rfl⟩ | ⟨hWants, rfl⟩⟩ := mem_modifyWhere hClient
    · exact if_pos rfl
    · exact lastRevision_of_content (h client hOld) hRegistered hDemand hWants

/-- The visit of one kind leaves the others, the sections and what they show alone. -/
theorem publishLarge_frame {hub : ClientHub V} {kind : LargeKind} {client : ClientConnection V}
    (h : client ∈ (hub.publishLarge publication reads kind).clients) :
    ∃ old ∈ hub.clients, client.registered = old.registered ∧
      client.visualizationDemand = old.visualizationDemand ∧
      ∀ other, other ≠ kind → lastRevision other client.mailbox.offered =
        lastRevision other old.mailbox.offered := by
  unfold publishLarge at h
  dsimp only [StateCache.largeSnapshot] at h
  split at h
  · exact ⟨client, h, rfl, rfl, fun _ _ => rfl⟩
  · split at h
    · exact ⟨client, h, rfl, rfl, fun _ _ => rfl⟩
    · rename_i frame hFrame
      obtain ⟨old, hOld, ⟨-, rfl⟩ | ⟨-, rfl⟩⟩ := mem_modifyWhere h
      · refine ⟨old, hOld, rfl, rfl, fun other hOther => ?_⟩
        unfold encodeMessage at hFrame
        split at hFrame
        · cases hFrame
          exact if_neg (Ne.symm hOther)
        · cases hFrame
      · exact ⟨client, hOld, rfl, rfl, fun _ _ => rfl⟩

theorem sent_publishLarge {hub : ClientHub V} {kind other : LargeKind} (hOther : other ≠ kind)
    (h : Sent publication reads other hub) :
    Sent publication reads other (hub.publishLarge publication reads kind) := by
  intro client hClient hRegistered hDemand hEncodes
  obtain ⟨old, hOld, hSame, hSameDemand, hLast⟩ := publishLarge_frame hClient
  rw [hLast other hOther]
  rw [hSame] at hRegistered
  rw [hSameDemand] at hDemand
  exact h old hOld hRegistered hDemand hEncodes

/-- Each kind is sent when it is visited, and stays so. -/
theorem sent_foldl (hReads : ReadsOk same reads cache start)
    (hStart : ∀ slot, start slot ≤ newest cache slot) (kinds : List LargeKind) :
    ∀ (hub : ClientHub V) (filled : List Slot), kinds.Nodup →
      (∀ kind ∈ kinds, Slot.large kind ∉ filled) → HubOk cache (raised cache start filled) hub →
      (∀ kind, kind ∈ kinds ∨ Sent publication reads kind hub) →
      ∀ kind, Sent publication reads kind
        (kinds.foldl (publishLarge publication reads) hub) := by
  induction kinds with
  | nil => exact fun hub filled _ _ _ h kind => (h kind).resolve_left List.not_mem_nil
  | cons head kinds ih =>
    intro hub filled hNodup hFresh hOk h
    obtain ⟨hNot, hRest⟩ := List.nodup_cons.mp hNodup
    refine ih _ (.large head :: filled) hRest (fun kind hKind hMem => ?_)
      (publishLarge_ok hReads hStart (hFresh head List.mem_cons_self) hOk) fun kind => ?_
    · rcases List.mem_cons.mp hMem with hEq | hMem
      · cases hEq
        exact hNot hKind
      · exact hFresh kind (List.mem_cons_of_mem _ hKind) hMem
    · by_cases hHead : kind = head
      · subst hHead
        exact Or.inr (publishLarge_sent fun client hClient => (hOk.clients client hClient).large)
      · rcases h kind with hKind | hSent
        · exact Or.inl ((List.mem_cons.mp hKind).resolve_left hHead)
        · exact Or.inr (sent_publishLarge hHead hSent)

/-! ## A stale frame -/

theorem mem_publishSection {keys : Source → SectionKey} {source : Source}
    {client : ClientConnection V} (h : client ∈ hub.clients)
    (hSections : client.stateSections = some keys) :
    client ∈ (hub.publishSection publication reads keys source).clients := by
  unfold publishSection
  split
  · exact h
  · split
    · exact h
    · refine List.mem_map.mpr ⟨client, h, if_neg ?_⟩
      unfold behind
      rw [hSections, Bool.and_eq_true]
      exact fun hBehind => (of_decide_eq_true hBehind.2) rfl

/-- A client that is marked with the present keys is sent no section. -/
theorem mem_publishSections {keys : Source → SectionKey} {client : ClientConnection V}
    (hSections : client.stateSections = some keys) (sources : List Source) :
    ∀ hub : ClientHub V, client ∈ hub.clients →
      client ∈ (sources.foldl (publishSection publication reads keys) hub).clients := by
  induction sources with
  | nil => exact fun hub h => h
  | cons source sources ih => exact fun hub h => ih _ (mem_publishSection h hSections)

/-- The large kinds do not change what a client shows of the state. -/
theorem exists_publishLarge {kind : LargeKind} {client : ClientConnection V}
    (h : client ∈ hub.clients) :
    ∃ next ∈ (hub.publishLarge publication reads kind).clients,
      next.stateSections = client.stateSections ∧
      ∀ source, shows next.mailbox.offered source = shows client.mailbox.offered source := by
  unfold publishLarge
  dsimp only [StateCache.largeSnapshot]
  split
  · exact ⟨client, h, rfl, fun _ => rfl⟩
  · split
    · exact ⟨client, h, rfl, fun _ => rfl⟩
    · rename_i frame hFrame
      refine ⟨_, List.mem_map_of_mem h, ?_⟩
      split
      · unfold encodeMessage at hFrame
        split at hFrame
        · cases hFrame
          exact ⟨rfl, fun _ => rfl⟩
        · cases hFrame
      · exact ⟨rfl, fun _ => rfl⟩

theorem exists_publishLarges (kinds : List LargeKind) : ∀ (hub : ClientHub V)
    (client : ClientConnection V), client ∈ hub.clients →
    ∃ next ∈ (kinds.foldl (publishLarge publication reads) hub).clients,
      next.stateSections = client.stateSections ∧
      ∀ source, shows next.mailbox.offered source = shows client.mailbox.offered source := by
  induction kinds with
  | nil => exact fun hub client h => ⟨client, h, rfl, fun _ => rfl⟩
  | cons kind kinds ih =>
    intro hub client h
    obtain ⟨middle, hMiddle, hSections, hShows⟩ := exists_publishLarge h
    obtain ⟨next, hNext, hSections', hShows'⟩ := ih _ middle hMiddle
    exact ⟨next, hNext, hSections'.trans hSections, fun source =>
      (hShows' source).trans (hShows source)⟩

end ClientHub

/-! ## One event -/

theorem faithful_of_ok {s next : StreamSystem V} {publication : Publication V}
    (h : SystemOk same next)
    (hLarge : ∀ kind, ClientHub.Sent publication (publication.cacheAt same s.cache) kind next.hub) :
    Faithful same publication s next := by
  refine ⟨fun client hClient keys hKeys source => ?_, fun client hClient hRegistered kind hDemand
    hEncodes => hLarge kind client hClient hRegistered hDemand hEncodes,
    fun client hClient slot frame hFrame => (h.hub.clients client hClient).box.covered slot frame
      hFrame⟩
  obtain ⟨view, hShows, entry, hEntry, now, hKey, rfl⟩ :=
    (h.hub.clients client hClient).sections keys hKeys source
  refine ⟨entry, hEntry, now, hKey, hShows, fun other hOther hRevision => ?_⟩
  refine h.cache.value source entry hEntry other hOther ?_
  rw [hRevision, hKey]
  rfl

theorem cacheAfter_kept {cache : StateCache V} (h : StateCache.Kept same cache)
    (publication : Publication V) :
    StateCache.Kept same (publication.cacheAfter same cache) ∧
      StateCache.Later cache (publication.cacheAfter same cache) :=
  StateCache.kept_writes _ cache h

theorem publish_systemOk {s : StreamSystem V} (h : SystemOk same s) {publication : Publication V}
    (hStale : ¬ StaleFrame same s publication) :
    SystemOk same (s.step same (.publish publication)) ∧
      Faithful same publication s (s.step same (.publish publication)) := by
  obtain ⟨hKept, hLater⟩ := cacheAfter_kept h.cache publication
  have hReads := readsOk h.cache publication
  have hHub : HubOk (publication.cacheAfter same s.cache) (newest s.cache) s.hub :=
    h.hub.later hLater fun _ => le_rfl
  suffices hBoth : HubOk (publication.cacheAfter same s.cache)
        (newest (publication.cacheAfter same s.cache))
        (s.hub.publish publication (publication.cacheAt same s.cache)) ∧
      ∀ kind, ClientHub.Sent publication (publication.cacheAt same s.cache) kind
        (s.hub.publish publication (publication.cacheAt same s.cache)) by
    have hOk : SystemOk same (s.step same (.publish publication)) := ⟨hKept, hBoth.1⟩
    exact ⟨hOk, faithful_of_ok hOk hBoth.2⟩
  unfold ClientHub.publish
  split
  · rename_i hNone
    rw [Bool.not_eq_true', List.any_eq_false] at hNone
    refine ⟨hHub.later (.refl _) (newest_le hLater), fun kind client hClient hRegistered => ?_⟩
    exact absurd hRegistered (hNone client hClient)
  · obtain ⟨filled, hState, hFilled⟩ :=
      ClientHub.publishState_ok (newest_le hLater) rfl hReads hHub hStale
    exact ⟨ClientHub.publishLarges_ok hReads (newest_le hLater) hFilled hState,
      ClientHub.sent_foldl hReads (newest_le hLater) LargeKind.all _ filled (by decide)
        (fun kind _ => hFilled kind) hState fun kind => Or.inl (LargeKind.mem_all kind)⟩

/-- A stale frame marks a client with a key that it was not sent. -/
theorem not_faithful_of_stale {s : StreamSystem V} (h : SystemOk same s)
    {publication : Publication V} (hStale : StaleFrame same s publication) :
    ¬ Faithful same publication s (s.step same (.publish publication)) := by
  intro hFaithful
  obtain ⟨hAny, hFrame, hKeys, hEncodes⟩ := hStale
  set reads := publication.cacheAt same s.cache
  set keys := (reads .keys).stateSectionKeys (publication.now .keys)
  obtain ⟨client, hClient, hUnsynchronized⟩ := List.any_eq_true.mp hAny
  obtain ⟨frame, hFrame⟩ := Option.isSome_iff_exists.mp hFrame
  obtain ⟨oldKeys, views, status, hRevision, rfl, hReported⟩ := h.hub.frames.state frame hFrame
  -- Some section of the kept state was made under another key.
  obtain ⟨source, hSource⟩ : ∃ source, keys source ≠ oldKeys source := by
    rw [hRevision] at hKeys
    obtain ⟨source, -, hNe⟩ := List.all_eq_false.mp hKeys
    exact ⟨source, fun hEq => hNe (decide_eq_true hEq)⟩
  have hRegistered : s.hub.clients.any (·.registered) = true :=
    List.any_eq_true.mpr ⟨client, hClient, (Bool.and_eq_true _ _ ▸ hUnsynchronized).1⟩
  set marked : ClientConnection V :=
    { client.offer .state (.state views status) with stateSections := some keys }
  have hSync : s.hub.synchronize publication reads keys = (s.hub.offerState keys, keys) := by
    unfold ClientHub.synchronize ClientHub.encodeState encodeMessage
    rw [hAny, hKeys, hEncodes]
    rfl
  have hMarked : marked ∈ (s.hub.publishState publication reads).clients := by
    unfold ClientHub.publishState
    rw [hSync]
    refine ClientHub.mem_publishSections rfl Source.all _ ?_
    unfold ClientHub.offerState
    rw [hFrame]
    exact List.mem_map.mpr ⟨client, hClient, if_pos hUnsynchronized⟩
  obtain ⟨next, hNext, hSections, hShows⟩ :=
    @ClientHub.exists_publishLarges V publication reads LargeKind.all _ marked hMarked
  have hNext' : next ∈ (s.step same (.publish publication)).hub.clients := by
    show next ∈ (s.hub.publish publication reads).clients
    unfold ClientHub.publish
    rwa [hRegistered]
  obtain ⟨entry, -, now, hKey, hShown, -⟩ := hFaithful.sections next hNext' keys hSections source
  have hView : views source = entry.view source now :=
    Option.some.inj ((hShows source).symm.trans hShown)
  obtain ⟨hOldRevision, hOldFresh⟩ := (hReported source).health
  refine hSource ?_
  rw [hKey]
  rw [hView] at hOldRevision hOldFresh
  cases hOld : oldKeys source with
  | mk revision fresh =>
    rw [hOld] at hOldRevision hOldFresh
    exact SectionKey.mk.injEq .. ▸ ⟨hOldRevision, hOldFresh⟩

/-! ## The other events -/

theorem clientOk_new {cache : StateCache V} {limit : Slot → ℕ} :
    ClientOk cache limit ({} : ClientConnection V) := by
  refine ⟨⟨?_, ?_⟩, ?_, ?_⟩
  · intro slot frame hFrame
    cases hFrame
  · intro slot frame hFrame
    cases hFrame
  · intro keys hKeys
    cases hKeys
  · intro kind hDemand
    cases hDemand

theorem clientOk_setVisualizationDemand {cache : StateCache V} {limit : Slot → ℕ}
    {client : ClientConnection V} (h : ClientOk cache limit client) (demand : LargeKind → Bool) :
    ClientOk cache limit (client.setVisualizationDemand demand) := by
  refine ⟨h.box, h.sections, fun kind hDemand => ?_⟩
  unfold ClientConnection.setVisualizationDemand at hDemand ⊢
  dsimp only at hDemand ⊢
  cases hOld : client.visualizationDemand kind with
  | false =>
    left
    rw [hDemand]
    rfl
  | true =>
    rw [hDemand]
    exact h.large kind hOld

theorem clientOk_nextFrame {cache : StateCache V} {limit : Slot → ℕ}
    {client : ClientConnection V} (h : ClientOk cache limit client) :
    ClientOk cache limit client.nextFrame.2 := by
  unfold ClientConnection.nextFrame
  split
  · exact h
  · split
    · exact h
    · rename_i slot frame mailbox hTake
      have hOffered := Mailbox.take_offered hTake
      refine ⟨⟨fun slot frame hFrame => ?_, Mailbox.covered_take h.box.covered hTake⟩,
        fun keys hKeys source => ?_, fun kind hDemand => ?_⟩
      · rw [hOffered] at hFrame
        exact h.box.bound slot frame hFrame
      · dsimp only
        rw [hOffered]
        exact h.sections keys hKeys source
      · dsimp only
        rw [hOffered]
        exact h.large kind hDemand

/-- A change of one client. -/
theorem modifyClient_systemOk {s : StreamSystem V} (h : SystemOk same s) (client : ℕ)
    {change : ClientConnection V → ClientConnection V}
    (hChange : ∀ c, ClientOk s.cache (newest s.cache) c →
      ClientOk s.cache (newest s.cache) (change c)) :
        SystemOk same (s.modifyClient client change) := by
  refine ⟨h.cache, ⟨h.hub.frames.state, h.hub.frames.sections⟩, fun c hc => ?_⟩
  have hModified : ∀ (clients : List (ClientConnection V)) (index : ℕ),
      c ∈ clients.modify index change → c ∈ clients ∨ ∃ old ∈ clients, c = change old := by
    intro clients
    induction clients with
    | nil => exact fun index hMem => by simp at hMem
    | cons head tail ih =>
      intro index hMem
      cases index with
      | zero =>
        rcases List.mem_cons.mp hMem with rfl | hTail
        · exact Or.inr ⟨head, List.mem_cons_self, rfl⟩
        · exact Or.inl (List.mem_cons_of_mem _ hTail)
      | succ index =>
        rcases List.mem_cons.mp hMem with rfl | hTail
        · exact Or.inl List.mem_cons_self
        · rcases ih index hTail with hOld | ⟨old, hOld, rfl⟩
          · exact Or.inl (List.mem_cons_of_mem _ hOld)
          · exact Or.inr ⟨old, List.mem_cons_of_mem _ hOld, rfl⟩
  rcases hModified s.hub.clients client hc with hOld | ⟨old, hOld, rfl⟩
  · exact h.hub.clients c hOld
  · exact hChange old (h.hub.clients old hOld)

theorem step_systemOk {s : StreamSystem V} (h : SystemOk same s) {event : StreamEvent V}
    (hPublish : ∀ publication, event = .publish publication → ¬ StaleFrame same s publication) :
    SystemOk same (s.step same event) := by
  cases event with
  | cache call =>
    obtain ⟨hKept, hLater⟩ := StateCache.kept_write h.cache call
    exact ⟨hKept, h.hub.later hLater (newest_le hLater)⟩
  | register =>
    refine ⟨h.cache, ⟨h.hub.frames.state, h.hub.frames.sections⟩, fun client hClient => ?_⟩
    rcases List.mem_append.mp hClient with hOld | hNew
    · exact h.hub.clients client hOld
    · obtain rfl := List.mem_singleton.mp hNew
      exact clientOk_new
  | unregister client =>
    exact modifyClient_systemOk h client fun c hc => ⟨hc.box, hc.sections, hc.large⟩
  | setVisualizationDemand client demand =>
    exact modifyClient_systemOk h client fun c hc => clientOk_setVisualizationDemand hc demand
  | nextFrame client => exact modifyClient_systemOk h client fun c hc => clientOk_nextFrame hc
  | close =>
    refine ⟨h.cache, ⟨h.hub.frames.state, h.hub.frames.sections⟩, fun client hClient => ?_⟩
    obtain ⟨old, hOld, ⟨-, rfl⟩ | ⟨-, rfl⟩⟩ := mem_modifyWhere hClient
    · have hOk := h.hub.clients old hOld
      exact ⟨hOk.box, hOk.sections, hOk.large⟩
    · exact h.hub.clients client hOld
  | publish publication => exact (publish_systemOk h (hPublish publication rfl)).1

/-! ## Every interleaving -/

/-- The event is a publication that is faithful to its clients. -/
def FaithfulStep (same : V → V → Bool) (s : StreamSystem V) (event : StreamEvent V) : Prop :=
  ∀ publication, event = .publish publication →
    Faithful same publication s (s.step same event)

/-- The event is not a publication that goes by a stale frame. -/
def FreshStep (same : V → V → Bool) (s : StreamSystem V) (event : StreamEvent V) : Prop :=
  ∀ publication, event = .publish publication → ¬ StaleFrame same s publication

theorem systemOk_after {events : List (StreamEvent V)}
    (h : Always (along (StreamSystem.step same) {} (FreshStep same)) events) :
    SystemOk same (after (StreamSystem.step same) {} events) := by
  induction events with
  | nil =>
    refine ⟨StateCache.kept_init, ⟨fun frame hFrame => ?_, fun source key frame hFrame => ?_⟩,
      fun client hClient => ?_⟩
    · cases hFrame
    · cases hFrame
    · cases hClient
  | cons event events ih => exact step_systemOk (ih h.2) h.1

/-- In every interleaving, the publications are faithful if and only if none of them goes by a
stale frame. `publish_systemOk` carries the invariant of the streamer through a fresh publication;
a stale one is wrong at once (`not_faithful_of_stale`). -/
theorem faithful_iff (same : V → V → Bool) (events : List (StreamEvent V)) :
    Always (along (StreamSystem.step same) {} (FaithfulStep same)) events ↔
      Always (along (StreamSystem.step same) {} (FreshStep same)) events := by
  induction events with
  | nil => exact Iff.rfl
  | cons event events ih =>
    unfold Always
    rw [ih]
    refine and_congr_left fun hFresh => ?_
    have hOk := systemOk_after hFresh
    constructor
    · rintro hFaithful publication rfl hStale
      exact not_faithful_of_stale hOk hStale (hFaithful publication rfl)
    · rintro hNotStale publication rfl
      exact (publish_systemOk hOk (hNotStale publication rfl)).2

/-- A publication at one moment, with no write in between. -/
def staleRunPublication (encodes : Site → Bool) : Publication ℕ where
  before _ := []
  now _ := 0
  encodes := encodes

/-- A client is sent the empty state; a pose arrives; for the next client the state cannot be
encoded. Latest event first. -/
def staleRun : List (StreamEvent ℕ) :=
  [.publish (staleRunPublication (· ≠ .snapshot)), .register, .cache (.update .pose 5 0),
    .publish (staleRunPublication fun _ => true), .register]

/-- The second client is marked with the key of the pose and shows the empty state. -/
theorem stale_frame_marks_client :
    ¬ Always (along (StreamSystem.step (· == ·)) {} (FaithfulStep (· == ·))) staleRun := by
  rintro ⟨hStep, -⟩
  have hFaithful := hStep _ rfl
  obtain ⟨client, hClient, hMarked⟩ := List.any_eq_true.mp
    (show (after (StreamSystem.step (· == ·)) {} staleRun).hub.clients.any (fun client =>
      (client.stateSections.map fun keys => (keys .pose).revision) = some 1 ∧
        ((shows client.mailbox.offered .pose).map fun view => view.health.revision) = some 0) =
      true by decide +kernel)
  obtain ⟨hKey, hShown⟩ := of_decide_eq_true hMarked
  obtain ⟨keys, hKeys, hRevision⟩ := Option.map_eq_some_iff.mp hKey
  obtain ⟨entry, -, now, hEntry, hShows, -⟩ := hFaithful.sections client hClient keys hKeys .pose
  rw [hShows, Option.map_some] at hShown
  have hZero : entry.revision = 0 := Option.some.inj hShown
  have hOne : entry.revision = 1 := by
    rw [hEntry] at hRevision
    exact hRevision
  omega

end PreRunner.Paddock
