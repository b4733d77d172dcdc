import EventSourcing.Storage.Operation

/-!
# Backends that may fail

A backend is an entry store in memory together with the failures that are still
to come: for each operation at most one fault, which lets some calls pass and
then fails a number of calls.  A call that fails changes nothing but its fault.
The calls that read a batch of a history are counted.
-/

namespace EventSourcing

/-- The failures to come of one operation. -/
structure Fault where
  /-- The number of calls that pass before the failures. -/
  skip : Nat
  /-- The number of calls that fail. -/
  times : Nat
  error : StorageError
deriving DecidableEq

/-- An entry store, the failures to come, and the number of batches asked for. -/
structure Backend where
  entries : EntryStore
  faults : Table StorageOperation Fault := .empty
  fetches : Nat := 0

namespace Backend

def ofEntries (entries : EntryStore) : Backend := { entries }

/-- The backend without entries that never fails. -/
def empty : Backend := ofEntries .empty

/-- Plans the failures of an operation, in place of those planned before. -/
def plan (backend : Backend) (operation : StorageOperation) (fault : Fault) : Backend :=
  { backend with faults := backend.faults.put operation fault }

/-- Starts a call: tells the error if the call is to fail. -/
def attempt (operation : StorageOperation) (backend : Backend) :
    Option StorageError × Backend :=
  match backend.faults.get? operation with
  | none => (none, backend)
  | some fault =>
    if fault.skip > 0 then
      (none, backend.plan operation { fault with skip := fault.skip - 1 })
    else if fault.times > 0 then
      (some fault.error, backend.plan operation { fault with times := fault.times - 1 })
    else (none, backend)

@[simp] theorem entries_attempt (operation : StorageOperation) (backend : Backend) :
    (backend.attempt operation).2.entries = backend.entries := by
  unfold attempt plan
  split
  · rfl
  · split
    · rfl
    · split <;> rfl

/-- Counts a call that reads a batch of a history, and tells whether it fails. -/
def attemptFetch (backend : Backend) : Option StorageError × Backend :=
  { backend with fetches := backend.fetches + 1 }.attempt .fetchBatch

@[simp] theorem entries_attemptFetch (backend : Backend) :
    backend.attemptFetch.2.entries = backend.entries := by
  simp [attemptFetch]

def query {Answer : Type} (operation : StorageOperation) (answer : EntryStore → Answer)
    (backend : Backend) : Except StorageError Answer × Backend :=
  match backend.attempt operation with
  | (some error, backend) => (.error error, backend)
  | (none, backend) => (.ok (answer backend.entries), backend)

def persist (batch : List Entry) (backend : Backend) : Except StorageError Unit × Backend :=
  match backend.attempt .persistEvents with
  | (some error, backend) => (.error error, backend)
  | (none, backend) =>
    match backend.entries.persist batch with
    | .error error => (.error error, backend)
    | .ok entries => (.ok (), { backend with entries })

def fetchBatch (key : StreamKey) (first size : Nat) (backend : Backend) :
    Except StorageError (List Entry) × Backend :=
  match backend.attemptFetch with
  | (some error, backend) => (.error error, backend)
  | (none, backend) => (.ok (backend.entries.fetchBatch key first size), backend)

def loadLastSnapshot (key : StreamKey) (backend : Backend) :
    Except StorageError (Option Entry) × Backend :=
  backend.query .loadLastSnapshot fun entries => entries.lastSnapshot? key

def persistSnapshot (entry : Entry) (backend : Backend) : Except StorageError Unit × Backend :=
  match backend.attempt .persistSnapshot with
  | (some error, backend) => (.error error, backend)
  | (none, backend) => (.ok (), { backend with entries := backend.entries.persistSnapshot entry })

/-- Removes the oldest snapshots of a history and counts them. -/
def pruneSnapshots (key : StreamKey) (keep : Nat) (backend : Backend) :
    Except StorageError Nat × Backend :=
  match backend.attempt .pruneSnapshots with
  | (some error, backend) => (.error error, backend)
  | (none, backend) =>
    let (pruned, entries) := backend.entries.pruneSnapshots key keep
    (.ok pruned, { backend with entries })

/-- Reads a batch of entries in the order of time. -/
def fetchFiltered (criteria : Criteria) (after : Option EntryPosition) (size : Nat)
    (backend : Backend) : Except StorageError (List Entry) × Backend :=
  backend.query .fetchFiltered fun entries => entries.fetchFiltered criteria after size

def fetchTracked (after : Option TrackingToken) (limit : Nat) (backend : Backend) :
    Except StorageError (List TrackedEntry) × Backend :=
  backend.query .fetchTracked fun entries => entries.fetchTracked after limit

end Backend

end EventSourcing
