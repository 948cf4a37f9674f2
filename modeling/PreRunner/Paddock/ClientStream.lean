import PreRunner.Runs.Mailbox
import PreRunner.Paddock.StateCache

/-!
# The client stream

`ClientHub` fans the cached state out to web clients: a full state to a new client, then the
sections whose key has changed, and the large values that a client asks for. This module follows
`runner_paddock/client_stream.py`. A publication reads the cache several times while the ROS
thread writes to it, and every encoding may fail; both are given with the call (`Publication`).
-/

namespace PreRunner.Paddock

open Runs

/-! ## Frames -/

/-- The kinds `map`, `global_costmap`, `local_costmap` and `plan`. -/
inductive LargeKind where
  | map
  | globalCostmap
  | localCostmap
  | plan
  deriving DecidableEq, Repr

namespace LargeKind

def all : List LargeKind := [map, globalCostmap, localCostmap, plan]

theorem mem_all (kind : LargeKind) : kind ∈ all := by
  cases kind <;> decide

def source : LargeKind → Source
  | map => .map
  | globalCostmap => .globalCostmap
  | localCostmap => .localCostmap
  | plan => .plan

end LargeKind

/-- The keys of `_pending`: `state`, `state:` with a source, and the large kinds. -/
inductive Slot where
  | state
  | section (source : Source)
  | large (kind : LargeKind)
  deriving DecidableEq, Repr

/-- An encoded message. -/
inductive Frame (V : Type) where
  | state (views : Source → SectionView V) (status : HealthStatus)
  | stateUpdate (source : Source) (view : SectionView V) (status : HealthStatus)
  | large (kind : LargeKind) (revision : ℕ) (value : Option V)

/-- The revision of what a frame carries; a full state is offered once to a client. -/
def Frame.revision {V : Type} : Frame V → ℕ
  | state _ _ => 0
  | stateUpdate _ view _ => view.health.revision
  | large _ revision _ => revision

/-- `encode_message` raises `TypeError` or `ValueError`, or returns the frame. -/
def encodeMessage {V : Type} (succeeds : Bool) (frame : Frame V) : Option (Frame V) :=
  if succeeds then some frame else none

/-! ## One client -/

/-- At most one pending frame of each kind for one client. -/
structure ClientConnection (V : Type) where
  registered : Bool := true
  mailbox : Mailbox Slot (Frame V) := {}
  available : Bool := false
  closed : Bool := false
  revisions : LargeKind → ℤ := fun _ => 0
  visualizationDemand : LargeKind → Bool := fun _ => false
  stateSections : Option (Source → SectionKey) := none

/-- What `next_frame` does at one moment. -/
inductive NextFrame (V : Type) where
  | waiting
  | closed
  | frame (frame : Frame V)

namespace ClientConnection

variable {V : Type}

def offer (client : ClientConnection V) (slot : Slot) (frame : Frame V) : ClientConnection V :=
  { client with mailbox := client.mailbox.offer slot frame, available := true }

def close (client : ClientConnection V) : ClientConnection V :=
  { client with closed := true, available := true }

/-- Remove the oldest pending frame kind. -/
def nextFrame (client : ClientConnection V) : NextFrame V × ClientConnection V :=
  if !client.available then (.waiting, client)
  else
    match client.mailbox.take with
    | none => (.closed, client)
    | some ((_, frame), mailbox) =>
      (.frame frame, { client with
        mailbox
        available := !(mailbox.pending.isEmpty && !client.closed) })

/-- Select optional large frames; an enabled kind is sent again. -/
def setVisualizationDemand (client : ClientConnection V) (demand : LargeKind → Bool) :
    ClientConnection V :=
  { client with
    visualizationDemand := demand
    revisions := fun kind =>
      if demand kind && !client.visualizationDemand kind then -1 else client.revisions kind }

end ClientConnection

/-! ## A publication -/

/-- The points of a publication at which it reads the cache and encodes. -/
inductive Site where
  | keys
  | snapshot
  | section (source : Source)
  | large (kind : LargeKind)
  deriving DecidableEq, Repr

/-- The sites in the order of the code. -/
def Site.order : List Site :=
  [.keys, .snapshot] ++ Source.all.map .section ++ LargeKind.all.map .large

/-- What happens to one publication: the writes to the cache before each read, the clock at it,
and whether the encoding of what was read succeeds. -/
structure Publication (V : Type) where
  before : Site → List (CacheCall V)
  now : Site → ℚ
  encodes : Site → Bool

namespace Publication

variable {V : Type} (same : V → V → Bool) (publication : Publication V)

/-- The cache that a site reads. -/
def cacheAt (cache : StateCache V) (site : Site) : StateCache V :=
  ((Site.order.takeWhile (· ≠ site) ++ [site]).flatMap publication.before).foldl
    (StateCache.write same) cache

/-- The cache after the publication. -/
def cacheAfter (cache : StateCache V) : StateCache V :=
  (Site.order.flatMap publication.before).foldl (StateCache.write same) cache

end Publication

/-! ## The hub -/

/-- The clients that were ever registered, and the frames kept for reuse. -/
structure ClientHub (V : Type) where
  clients : List (ClientConnection V) := []
  stateRevision : Option (Source → SectionKey) := none
  stateFrame : Option (Frame V) := none
  sectionFrames : Source → Option (SectionKey × Frame V) := fun _ => none

/-- Equality of two tuples of section keys. -/
def sameKeys (keys : Source → SectionKey) : Option (Source → SectionKey) → Bool
  | none => false
  | some other => Source.all.all fun source => keys source = other source

namespace ClientHub

variable {V : Type}

def modifyWhere (hub : ClientHub V) (recipient : ClientConnection V → Bool)
    (change : ClientConnection V → ClientConnection V) : ClientHub V :=
  { hub with clients := hub.clients.map fun client =>
      if recipient client then change client else client }

variable (publication : Publication V) (reads : Site → StateCache V)

/-- Whether a client has not been sent a full state. -/
def unsynchronized (client : ClientConnection V) : Bool :=
  client.registered && client.stateSections.isNone

/-- Encode a new full state, unless that fails. -/
def encodeState (hub : ClientHub V) (keys : Source → SectionKey) :
    ClientHub V × (Source → SectionKey) :=
  let ((views, status), snapshotKeys) :=
    (reads .snapshot).stateSnapshotWithKeys (publication.now .snapshot)
  match encodeMessage (publication.encodes .snapshot) (.state views status) with
  | none => (hub, keys)
  | some frame =>
    ({ hub with stateRevision := some snapshotKeys, stateFrame := some frame }, snapshotKeys)

/-- Offer the kept full state to the clients that have none, marked with the given keys. -/
def offerState (hub : ClientHub V) (keys : Source → SectionKey) : ClientHub V :=
  match hub.stateFrame with
  | none => hub
  | some frame => hub.modifyWhere unsynchronized fun client =>
      { client.offer .state frame with stateSections := some keys }

/-- The part of `publish` about full states; it returns the keys that the rest goes by. -/
def synchronize (hub : ClientHub V) (keys : Source → SectionKey) :
    ClientHub V × (Source → SectionKey) :=
  if hub.clients.any unsynchronized then
    let (hub, keys) := if !sameKeys keys hub.stateRevision then
        hub.encodeState publication reads keys
      else (hub, keys)
    (hub.offerState keys, keys)
  else (hub, keys)

/-- Whether a synchronized client is behind a section key. -/
def behind (source : Source) (key : SectionKey) (client : ClientConnection V) : Bool :=
  client.registered &&
    match client.stateSections with
    | none => false
    | some sections => sections source ≠ key

/-- The frame of a section: the kept one for this key, or a new one with its key. -/
def sectionFrame (hub : ClientHub V) (source : Source) (key : SectionKey) :
    Option (SectionKey × Frame V) :=
  let (actualKey, view, status) :=
    (reads (.section source)).stateSectionSnapshot source (publication.now (.section source))
  let encoded := (encodeMessage (publication.encodes (.section source))
    (.stateUpdate source view status)).map fun frame => (actualKey, frame)
  match hub.sectionFrames source with
  | none => encoded
  | some (cachedKey, frame) => if cachedKey = key then some (cachedKey, frame) else encoded

/-- The part of `publish` about one section. -/
def publishSection (keys : Source → SectionKey) (hub : ClientHub V) (source : Source) :
    ClientHub V :=
  if !hub.clients.any (behind source (keys source)) then hub
  else
    match hub.sectionFrame publication reads source (keys source) with
    | none => hub
    | some (key, frame) =>
      { hub with
        sectionFrames := Function.update hub.sectionFrames source (some (key, frame)) }.modifyWhere
        (behind source (keys source)) fun client =>
          { client.offer (.section source) frame with
            stateSections := client.stateSections.map fun sections =>
              Function.update sections source key }

/-- Whether a client is to be sent a revision of a large kind. -/
def wants (kind : LargeKind) (revision : ℕ) (client : ClientConnection V) : Bool :=
  client.registered && client.visualizationDemand kind && client.revisions kind ≠ revision

/-- The part of `publish` about one large kind. -/
def publishLarge (hub : ClientHub V) (kind : LargeKind) : ClientHub V :=
  let (revision, value) := (reads (.large kind)).largeSnapshot kind.source
  if !hub.clients.any (wants kind revision) then hub
  else
    match encodeMessage (publication.encodes (.large kind)) (.large kind revision value) with
    | none => hub
    | some frame => hub.modifyWhere (wants kind revision) fun client =>
        { client.offer (.large kind) frame with
          revisions := Function.update client.revisions kind revision }

/-- The part of `publish` about the state: full states, then the sections. -/
def publishState (hub : ClientHub V) : ClientHub V :=
  let (hub, keys) := hub.synchronize publication reads
    ((reads .keys).stateSectionKeys (publication.now .keys))
  Source.all.foldl (publishSection publication reads keys) hub

/-- Offer state plus only unseen large revisions. -/
def publish (hub : ClientHub V) : ClientHub V :=
  if !hub.clients.any (·.registered) then hub
  else LargeKind.all.foldl (publishLarge publication reads) (hub.publishState publication reads)

end ClientHub

/-! ## The system -/

/-- The cache and the hub. -/
structure StreamSystem (V : Type) where
  cache : StateCache V := {}
  hub : ClientHub V := {}

/-- The events of the two threads; a client is named by its place among the registered ones. -/
inductive StreamEvent (V : Type) where
  | cache (call : CacheCall V)
  | register
  | unregister (client : ℕ)
  | setVisualizationDemand (client : ℕ) (demand : LargeKind → Bool)
  | nextFrame (client : ℕ)
  | close
  | publish (publication : Publication V)

namespace StreamSystem

variable {V : Type} (same : V → V → Bool)

def modifyClient (s : StreamSystem V) (client : ℕ)
    (change : ClientConnection V → ClientConnection V) : StreamSystem V :=
  { s with hub := { s.hub with clients := s.hub.clients.modify client change } }

def step (s : StreamSystem V) : StreamEvent V → StreamSystem V
  | .cache call => { s with cache := s.cache.write same call }
  | .register => { s with hub := { s.hub with clients := s.hub.clients ++ [{}] } }
  | .unregister client => s.modifyClient client fun c => { c with registered := false }
  | .setVisualizationDemand client demand =>
    s.modifyClient client fun c => c.setVisualizationDemand demand
  | .nextFrame client => s.modifyClient client fun c => c.nextFrame.2
  | .close => { s with hub := s.hub.modifyWhere (·.registered) ClientConnection.close }
  | .publish publication =>
    { cache := publication.cacheAfter same s.cache
      hub := s.hub.publish publication (publication.cacheAt same s.cache) }

end StreamSystem

end PreRunner.Paddock
