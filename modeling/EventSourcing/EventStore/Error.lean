import EventSourcing.EventStream
import EventSourcing.Storage.EntryStore

/-!
# Errors of an event store

An event store fails because a position or identity is already taken, because
a history has no events, because a document cannot be written or read, because
the storage behind it fails, or because a stream fails.
-/

namespace EventSourcing

/-- A failure of an event store. -/
inductive EventStoreError where
  | concurrency (conflict : KeyConflict)
  | streamNotFound (key : StreamKey)
  | document (error : DocumentError)
  | storage (error : StorageError)
  | stream (error : StreamError)
deriving DecidableEq

namespace EventStoreError

def message : EventStoreError → String
  | .concurrency conflict => "optimistic concurrency check failed: " ++ conflict.reason
  | .streamNotFound key =>
    "no events found for aggregate " ++ key.aggregateType ++ "/" ++ key.aggregateId.text
  | .document error => error.message
  | .storage error => "storage failure: " ++ error.message
  | .stream error => error.message

/-- A key that is already taken means that someone else was faster. -/
def ofStorage : StorageError → EventStoreError
  | .duplicateKey conflict => .concurrency conflict
  | .backend reason => .storage (.backend reason)

/-- Whether a retry with fresh state may succeed. -/
def isConcurrency : EventStoreError → Bool
  | .concurrency _ => true
  | _ => false

/-- The failure of a stream whose next item could not be read. -/
def toStreamError (error : EventStoreError) : StreamError := ⟨error.message⟩

end EventStoreError

end EventSourcing
