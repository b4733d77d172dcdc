import EventSourcing.EventStore.Pages

/-!
# Event stores

An event store writes events as entries of a backend and reads them back.  A
history is read from its latest snapshot on, if there is one that can be read,
and from the start otherwise; a part of a history is read without snapshots.
A history without anything to read is an error.  Snapshots beyond the number to
be kept are removed after a new one is stored; that this may fail is of no
consequence.

Every operation takes the backend and gives it back as it is afterwards.
-/

namespace EventSourcing

/-- An event with its place in the order of storing and its aggregate type. -/
structure TrackedEvent (Payload : Type) where
  token : TrackingToken
  aggregateType : String
  event : DomainEvent Payload

namespace EventStore

variable {Payload Note : Type} [DocumentFamily Payload]

/-- A store with the usual settings and without upcasters. -/
def ofSerializer (serializer : Serializer Payload) : EventStore Payload :=
  { codec := { serializer } }

/-- The store with other settings; the batch size is at least one. -/
def withConfig (store : EventStore Payload) (config : EventStoreConfig) : EventStore Payload :=
  { codec := store.codec, config := config.clamped, batchSize_pos := config.clamped_pos }

def withBatchSize (store : EventStore Payload) (batchSize : Nat) : EventStore Payload :=
  store.withConfig { store.config with batchSize }

/-- The store with another number of snapshots to keep. -/
def withMaxSnapshots (store : EventStore Payload) (maxSnapshots : Nat) : EventStore Payload :=
  store.withConfig { store.config with maxSnapshots }

def withUpcasters (store : EventStore Payload) (upcasters : UpcasterChain) :
    EventStore Payload :=
  { store with codec := { store.codec with upcasters } }

def append (store : EventStore Payload) (aggregateType : String)
    (events : List (DomainEvent Payload)) (backend : Backend) :
    Except EventStoreError Unit × Backend :=
  if events.isEmpty then (.ok (), backend)
  else
    match events.mapM (store.codec.encode aggregateType) with
    | .error error => (.error (.document error), backend)
    | .ok entries =>
      match backend.persist entries with
      | (.error error, backend) => (.error (.ofStorage error), backend)
      | (.ok (), backend) => (.ok (), backend)

/-- The event of a snapshot entry, if it reads as exactly one event whose
payload is known. -/
def snapshotEvent? (store : EventStore Payload) (entry : Entry) : Option (DomainEvent Payload) :=
  match store.codec.decode entry with
  | .ok [event] => if isUnreadable event.payload then none else some event
  | _ => none

/-- The stream of a history from a sequence number on. -/
def stream (store : EventStore Payload) (key : StreamKey) (first : Nat) (last : Option Nat)
    (backend : Backend) : EventStream (ReadMark Note) Payload :=
  .ofPulls (store.pages key first last backend)

/-- Fetches up to the first item of a stream, so that an empty stream is
noticed. -/
def openStream (stream : EventStream (ReadMark Note) Payload) (backend : Backend) :
    Option (EventStream (ReadMark Note) Payload) × Backend :=
  let (marks, item, rest) := Pull.uncons stream.pulls
  let backend := backend.settle marks
  match item with
  | some item => (some (.ofPulls (.item item :: rest)), backend)
  | none => (none, backend)

/-- Reads a history: its latest readable snapshot and the events behind it, or
all its events.  The number of a snapshot is below `2 ^ 64 - 1`, so that there is
a number behind it. -/
def read (store : EventStore Payload) (key : StreamKey) (backend : Backend) :
    Except EventStoreError (EventStream (ReadMark Note) Payload) × Backend :=
  match backend.loadLastSnapshot key with
  | (.error error, backend) => (.error (.ofStorage error), backend)
  | (.ok snapshot, backend) =>
    match snapshot.bind store.snapshotEvent? with
    | some event =>
      let behind := store.pages key (event.sequenceNumber + 1) none backend
      (.ok (.ofPulls (.item (.ok event) :: behind)), backend)
    | none =>
      match openStream (store.stream key 0 none backend) backend with
      | (some stream, backend) => (.ok stream, backend)
      | (none, backend) => (.error (.streamNotFound key), backend)

/-- Reads the part of a history between two sequence numbers. -/
def readRange (store : EventStore Payload) (key : StreamKey) (first : Nat) (last : Option Nat)
    (backend : Backend) :
    Except EventStoreError (EventStream (ReadMark Note) Payload) × Backend :=
  match openStream (store.stream key first last backend) backend with
  | (some stream, backend) => (.ok stream, backend)
  | (none, backend) =>
    match backend.fetchBatch key 0 1 with
    | (.error error, backend) => (.error (.ofStorage error), backend)
    | (.ok [], backend) => (.error (.streamNotFound key), backend)
    | (.ok _, backend) => (.ok .empty, backend)

/-- Stores a snapshot and removes those beyond the number to be kept. -/
def appendSnapshot (store : EventStore Payload) (aggregateType : String)
    (snapshot : DomainEvent Payload) (backend : Backend) :
    Except EventStoreError Unit × Backend :=
  match store.codec.encode aggregateType snapshot with
  | .error error => (.error (.document error), backend)
  | .ok entry =>
    match backend.persistSnapshot entry with
    | (.error error, backend) => (.error (.ofStorage error), backend)
    | (.ok (), backend) =>
      let key : StreamKey := ⟨aggregateType, snapshot.aggregateId⟩
      (.ok (), (backend.pruneSnapshots key store.config.maxSnapshots).2)

/-- Visits the events of all entries that meet criteria, in the order of time.
Events in front of a failure have been visited. -/
def visit (store : EventStore Payload) (criteria : Criteria) (backend : Backend) :
    List (DomainEvent Payload) × Except EventStoreError Unit × Backend :=
  store.visitPages criteria none backend

/-- The events of tracked entries, each with the token of its entry. -/
def decodeTracked (store : EventStore Payload) (tracked : List TrackedEntry) :
    Except DocumentError (List (TrackedEvent Payload)) :=
  List.flatten <$> tracked.mapM fun tracked => do
    let events ← store.codec.decode tracked.entry
    return events.map fun event => ⟨tracked.token, tracked.entry.aggregateType, event⟩

/-- Reads the events of at most `limit` entries behind a token, in the order of
storing. -/
def readTracked (store : EventStore Payload) (after : Option TrackingToken) (limit : Nat)
    (backend : Backend) : Except EventStoreError (List (TrackedEvent Payload)) × Backend :=
  match backend.fetchTracked after limit with
  | (.error error, backend) => (.error (.ofStorage error), backend)
  | (.ok tracked, backend) =>
    match store.decodeTracked tracked with
    | .ok events => (.ok events, backend)
    | .error error => (.error (.document error), backend)

def describe (store : EventStore Payload) : String :=
  Text.openRecord "SerializingEventStore"
    [("config", store.config.describe), ("upcasters", store.codec.upcasters.describe)]

end EventStore

end EventSourcing
