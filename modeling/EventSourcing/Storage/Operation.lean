import EventSourcing.Storage.EntryStore

/-!
# Operations of a storage backend

Each operation has a name, which messages show.  A relational backend whose
connection pool is closed refuses every operation, but it first checks that the
numbers of a request fit its columns of signed 64-bit integers.
-/

namespace EventSourcing

/-- What a storage backend can be asked to do. -/
inductive StorageOperation where
  | createSchema
  | beginTransaction
  | persistEvents
  | fetchBatch
  | loadLastSnapshot
  | persistSnapshot
  | pruneSnapshots
  | fetchFiltered
  | fetchTracked
deriving DecidableEq, Inhabited

def StorageOperation.name : StorageOperation → String
  | .createSchema => "create_schema"
  | .beginTransaction => "begin_transaction"
  | .persistEvents => "persist_events"
  | .fetchBatch => "fetch_stream_batch"
  | .loadLastSnapshot => "load_last_snapshot"
  | .persistSnapshot => "persist_snapshot"
  | .pruneSnapshots => "prune_snapshots"
  | .fetchFiltered => "fetch_filtered_batch"
  | .fetchTracked => "fetch_tracked"

def StorageOperation.named? (name : String) : Option StorageOperation :=
  [createSchema, beginTransaction, persistEvents, fetchBatch, loadLastSnapshot, persistSnapshot,
    pruneSnapshots, fetchFiltered, fetchTracked].find? fun operation => operation.name == name

namespace ClosedPool

/-- Refuses an operation: for the first number that does not fit, if there is
one, and for the closed pool otherwise. -/
def refuse (operation : StorageOperation) (numbers : List Nat) : StorageError :=
  match numbers.find? fun number => Nat.pow 2 63 ≤ number with
  | some number => .backend (toString number ++ " exceeds BIGINT range")
  | none => .backend ("connection pool closed in " ++ operation.name)

def createSchema : Except StorageError Unit := .error (refuse .createSchema [])

/-- Storing a batch; an empty one needs no connection. -/
def persist (batch : List Entry) : Except StorageError Unit :=
  if batch.isEmpty then .ok () else .error (refuse .beginTransaction [])

def fetchBatch (first size : Nat) : Except StorageError (List Entry) :=
  .error (refuse .fetchBatch [first, size])

def loadLastSnapshot : Except StorageError (Option Entry) := .error (refuse .loadLastSnapshot [])

def persistSnapshot (entry : Entry) : Except StorageError Unit :=
  .error (refuse .persistSnapshot [entry.sequenceNumber])

def pruneSnapshots (keep : Nat) : Except StorageError Nat := .error (refuse .pruneSnapshots [keep])

def fetchFiltered (after : Option EntryPosition) (size : Nat) :
    Except StorageError (List Entry) :=
  .error (refuse .fetchFiltered ((after.map EntryPosition.sequenceNumber).toList ++ [size]))

def fetchTracked (after : Option TrackingToken) (limit : Nat) :
    Except StorageError (List TrackedEntry) :=
  .error (refuse .fetchTracked ((after.map TrackingToken.index).toList ++ [limit]))

end ClosedPool

end EventSourcing
