import EventSourcing.Storage.Criteria
import EventSourcing.Table

/-!
# The entry store in memory

All entries stand in a log in the order of storing.  An index leads from a
history and a sequence number to a place in the log, and the identities in use
are kept at hand, so that a batch can be checked before anything is stored: it
is stored as a whole or not at all.  Snapshots are kept apart, at most one for
each sequence number of a history.
-/

namespace EventSourcing

/-- A key that is already taken. -/
inductive KeyConflict where
  | position (key : StreamKey) (sequenceNumber : Nat)
  | event (id : EventId)
  | stated (reason : String)
deriving DecidableEq

def KeyConflict.reason : KeyConflict → String
  | .position key sequenceNumber =>
    key.aggregateType ++ "/" ++ key.aggregateId.text ++
      " already has an event with sequence number " ++ toString sequenceNumber
  | .event id => "event " ++ id.text ++ " already stored"
  | .stated reason => reason

/-- A failure of the storage behind an event store. -/
inductive StorageError where
  | duplicateKey (conflict : KeyConflict)
  | backend (reason : String)
deriving DecidableEq

namespace StorageError

def message : StorageError → String
  | .duplicateKey conflict => "duplicate key: " ++ conflict.reason
  | .backend reason => "storage backend failure: " ++ reason

def isDuplicateKey : StorageError → Bool
  | .duplicateKey _ => true
  | .backend _ => false

end StorageError

/-- Entries in memory. -/
structure EntryStore where
  /-- All entries in the order of storing. -/
  log : Array Entry
  /-- Where in the log the sequence numbers of a history stand. -/
  index : Table StreamKey (OrderedMap Nat Nat)
  /-- The identities of all entries, the latest first. -/
  eventIds : List EventId
  /-- The snapshots of each history by sequence number. -/
  snapshots : Table StreamKey (OrderedMap Nat Entry)

namespace EntryStore

def empty : EntryStore := ⟨#[], .empty, [], .empty⟩

instance : Inhabited EntryStore := ⟨empty⟩

def positions (store : EntryStore) (key : StreamKey) : OrderedMap Nat Nat :=
  (store.index.get? key).getD .empty

def snapshotsOf (store : EntryStore) (key : StreamKey) : OrderedMap Nat Entry :=
  (store.snapshots.get? key).getD .empty

def eventCount (store : EntryStore) : Nat := store.log.size

def snapshotCount (store : EntryStore) (key : StreamKey) : Nat := (store.snapshotsOf key).size

/-! ## Storing events -/

/-- Adds one entry to log, index and identities. -/
def push (store : EntryStore) (entry : Entry) : EntryStore :=
  { store with
    log := store.log.push entry
    index := store.index.put entry.streamKey
      ((store.positions entry.streamKey).insert entry.sequenceNumber store.log.size)
    eventIds := entry.eventId :: store.eventIds }

/-- The first entry of a batch whose position or identity is taken, by a stored
entry or by an earlier entry of the batch, and what it conflicts with. -/
def conflict? (store : EntryStore) : List Entry → List Entry → Option KeyConflict
  | _, [] => none
  | earlier, entry :: rest =>
    if (store.positions entry.streamKey).contains entry.sequenceNumber ||
        earlier.any fun other =>
          other.streamKey == entry.streamKey && other.sequenceNumber == entry.sequenceNumber then
      some (.position entry.streamKey entry.sequenceNumber)
    else if store.eventIds.contains entry.eventId ||
        earlier.any fun other => other.eventId == entry.eventId then
      some (.event entry.eventId)
    else conflict? store (entry :: earlier) rest

/-- Stores a batch of entries as a whole, or nothing of it. -/
def persist (store : EntryStore) (batch : List Entry) : Except StorageError EntryStore :=
  match store.conflict? [] batch with
  | some conflict => .error (.duplicateKey conflict)
  | none => .ok (batch.foldl push store)

/-! ## Reading a history -/

/-- The entries of a history from a sequence number on, in ascending order. -/
def entriesFrom (store : EntryStore) (key : StreamKey) (first : Nat) : List Entry :=
  ((store.positions key).entriesFrom first).filterMap fun place =>
    store.log[place.2]?.filter fun entry => entry.sequenceNumber = place.1

/-- At most `size` entries of a history from a sequence number on. -/
def fetchBatch (store : EntryStore) (key : StreamKey) (first size : Nat) : List Entry :=
  (store.entriesFrom key first).take size

theorem mem_entriesFrom_le {store : EntryStore} {key : StreamKey} {first : Nat} {entry : Entry}
    (member : entry ∈ store.entriesFrom key first) : first ≤ entry.sequenceNumber := by
  simp only [entriesFrom, OrderedMap.entriesFrom, List.mem_filterMap, List.mem_filter] at member
  obtain ⟨place, ⟨_, atLeast⟩, found⟩ := member
  have same : entry.sequenceNumber = place.1 := by
    have := Option.mem_filter_iff.1 found
    simpa using this.2
  have := Nat.compare_ne_lt.1 (by simpa using atLeast)
  omega

/-- Reading from a later number keeps the entries from that number on. -/
theorem entriesFrom_eq_filter (store : EntryStore) (key : StreamKey) {first later : Nat}
    (le : first ≤ later) :
    store.entriesFrom key later =
      (store.entriesFrom key first).filter fun entry => later ≤ entry.sequenceNumber := by
  simp only [entriesFrom, OrderedMap.entriesFrom]
  generalize (store.positions key).toList = places
  induction places with
  | nil => rfl
  | cons place rest ih =>
    have decideLater : (compare place.1 later != .lt) = decide (later ≤ place.1) := by
      rw [Bool.eq_iff_iff]
      simp [Nat.compare_ne_lt]
    have decideFirst : (compare place.1 first != .lt) = decide (first ≤ place.1) := by
      rw [Bool.eq_iff_iff]
      simp [Nat.compare_ne_lt]
    simp only [List.filter_cons, decideLater, decideFirst]
    cases found : store.log[place.2]?.filter fun entry => entry.sequenceNumber = place.1 with
    | none => grind
    | some entry =>
      have same : entry.sequenceNumber = place.1 := by
        have := Option.mem_filter_iff.1 found
        simpa using this.2
      grind

/-- Behind an entry of a history there are fewer entries than from any number up
to it. -/
theorem length_entriesFrom_lt {store : EntryStore} {key : StreamKey} {first : Nat} {entry : Entry}
    (member : entry ∈ store.entriesFrom key first) :
    (store.entriesFrom key (entry.sequenceNumber + 1)).length <
      (store.entriesFrom key first).length := by
  have le := mem_entriesFrom_le member
  rw [entriesFrom_eq_filter store key (Nat.le_succ_of_le le)]
  refine List.length_filter_lt_length_iff_exists.2 ⟨entry, member, ?_⟩
  simp

/-! ## Snapshots -/

/-- The snapshot of a history with the greatest sequence number. -/
def lastSnapshot? (store : EntryStore) (key : StreamKey) : Option Entry :=
  (store.snapshotsOf key).last?.map Prod.snd

/-- Stores a snapshot, replacing one with the same sequence number. -/
def persistSnapshot (store : EntryStore) (entry : Entry) : EntryStore :=
  let snapshots := (store.snapshotsOf entry.streamKey).insert entry.sequenceNumber entry
  { store with snapshots := store.snapshots.put entry.streamKey snapshots }

/-- Removes the oldest snapshots of a history until at most `keep` are left, and
counts those removed. -/
def pruneSnapshots (store : EntryStore) (key : StreamKey) (keep : Nat) : Nat × EntryStore :=
  match store.snapshots.get? key with
  | none => (0, store)
  | some snapshots =>
    let surplus := snapshots.size - keep
    (surplus, { store with snapshots := store.snapshots.put key (snapshots.drop surplus) })

/-! ## Reading all entries -/

/-- Whether a position lies behind one that has been visited. -/
def isBehind (after : Option EntryPosition) (position : EntryPosition) : Bool :=
  match after with
  | some visited => visited.isBefore position
  | none => true

/-- The entries that meet criteria and lie behind a position, in the order of
storing. -/
def matching (store : EntryStore) (criteria : Criteria) (after : Option EntryPosition) :
    List Entry :=
  store.log.toList.filter fun entry => criteria.admits entry && isBehind after entry.position

def sortByPosition (entries : List Entry) : List Entry :=
  entries.mergeSort fun first second => !second.position.isBefore first.position

/-- At most `size` entries that meet criteria and lie behind a position, in the
order of time. -/
def fetchFiltered (store : EntryStore) (criteria : Criteria) (after : Option EntryPosition)
    (size : Nat) : List Entry :=
  (sortByPosition (store.matching criteria after)).take size

theorem mem_fetchFiltered {store : EntryStore} {criteria : Criteria}
    {after : Option EntryPosition} {size : Nat} {entry : Entry}
    (member : entry ∈ store.fetchFiltered criteria after size) :
    entry ∈ store.matching criteria after :=
  List.mem_mergeSort.1 (List.mem_of_mem_take member)

/-- Behind a later position lie those of the entries that lie behind it. -/
theorem matching_eq_filter (store : EntryStore) (criteria : Criteria)
    {after : Option EntryPosition} {visited : EntryPosition}
    (behind : isBehind after visited = true) :
    store.matching criteria (some visited) =
      (store.matching criteria after).filter fun entry => visited.isBefore entry.position := by
  simp only [matching, List.filter_filter]
  refine List.filter_congr fun entry _ => ?_
  change (criteria.admits entry && visited.isBefore entry.position) = _
  cases further : visited.isBefore entry.position with
  | false => simp
  | true =>
    have implied : isBehind after entry.position = true := by
      cases after with
      | none => rfl
      | some earlier => exact EntryPosition.isBefore_trans behind further
    simp [implied]

theorem isBehind_of_mem_matching {store : EntryStore} {criteria : Criteria}
    {after : Option EntryPosition} {entry : Entry}
    (member : entry ∈ store.matching criteria after) : isBehind after entry.position = true := by
  simp only [matching, List.mem_filter, Bool.and_eq_true] at member
  exact member.2.2

/-- Behind an entry that meets the criteria there are fewer such entries than
behind any position in front of it. -/
theorem length_matching_lt {store : EntryStore} {criteria : Criteria}
    {after : Option EntryPosition} {entry : Entry}
    (member : entry ∈ store.matching criteria after) :
    (store.matching criteria (some entry.position)).length <
      (store.matching criteria after).length := by
  rw [store.matching_eq_filter criteria (isBehind_of_mem_matching member)]
  refine List.length_filter_lt_length_iff_exists.2 ⟨entry, member, ?_⟩
  simp

/-- At most `limit` entries behind a token in the order of storing, each with
its own token. -/
def fetchTracked (store : EntryStore) (after : Option TrackingToken) (limit : Nat) :
    List TrackedEntry :=
  let start := match after with
    | some token => token.index
    | none => 0
  ((store.log.toList.zipIdx.drop start).take limit).map fun placed => ⟨⟨placed.2 + 1⟩, placed.1⟩

end EntryStore

end EventSourcing
