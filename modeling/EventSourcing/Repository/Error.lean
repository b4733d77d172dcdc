import EventSourcing.DomainError
import EventSourcing.EventStore.Error
import EventSourcing.Listener.Error

/-!
# Errors of repositories and dispatchers

A repository fails because an aggregate is not there, is deleted or is at
another version than expected, because it has no identifier, or because the
store, the domain or the publication fails.  A dispatcher tells the callers of
commands less: every failure becomes one of a few kinds.
-/

namespace EventSourcing

/-- A failure to load or to save an aggregate. -/
inductive RepositoryError where
  | aggregateNotFound (id : AggregateId)
  | aggregateDeleted (id : AggregateId)
  | conflictingVersion (id : AggregateId) (expected : ExpectedVersion) (actual : Option Nat)
  | missingIdentifier
  | store (error : EventStoreError)
  | domain (error : DomainError)
  | publish (error : EventBusError)
deriving DecidableEq

def RepositoryError.message : RepositoryError → String
  | .aggregateNotFound id => "aggregate " ++ id.text ++ " not found"
  | .aggregateDeleted id => "aggregate " ++ id.text ++ " has been deleted"
  | .conflictingVersion id expected actual =>
    "aggregate " ++ id.text ++ " is at version " ++ ExpectedVersion.describeVersion actual ++
      ", expected " ++ expected.describe
  | .missingIdentifier => "cannot save aggregate without identifier"
  | .store error => error.message
  | .domain error => error.message
  | .publish error => "event publication failed: " ++ error.message

/-- A failure of a command. -/
inductive DispatchError where
  | concurrency (reason : String)
  | validation (reason : String)
  | invariantViolation (reason : String)
  | notFound
  | deleted
  | incompatible (reason : String)
  | store (error : EventStoreError)
  | publish (reason : String)
deriving DecidableEq

namespace DispatchError

def message : DispatchError → String
  | .concurrency reason => "concurrency conflict: " ++ reason
  | .validation reason => "validation failed: " ++ reason
  | .invariantViolation reason => "invariant violated: " ++ reason
  | .notFound => "aggregate not found"
  | .deleted => "aggregate has been deleted"
  | .incompatible reason => "incompatible aggregate: " ++ reason
  | .store error => error.message
  | .publish reason => "event publication failed: " ++ reason

/-- How a failure of the store shows to the caller of a command. -/
def ofStore : EventStoreError → DispatchError
  | .concurrency conflict => .concurrency conflict.reason
  | .streamNotFound _ => .notFound
  | .document error => .store (.document error)
  | .storage error => .store (.storage error)
  | .stream error => .store (.stream error)

/-- How a failure of the domain shows to the caller of a command. -/
def ofDomain : DomainError → DispatchError
  | .validation reason => .validation reason
  | .invariantViolation reason => .invariantViolation reason
  | .invalidId reason => .validation reason
  | .notFound => .notFound
  | .versionConflict expected actual =>
    .concurrency (DomainError.versionConflictReason expected actual)
  | .conflict reason => .concurrency reason
  | .incompatible cause => .incompatible cause.reason
  | .inaccessible reason => .incompatible reason
  | .stream error => .store (.stream error)

/-- How a failure of the repository shows to the caller of a command. -/
def ofRepository : RepositoryError → DispatchError
  | .aggregateNotFound _ => .notFound
  | .aggregateDeleted _ => .deleted
  | .conflictingVersion id expected actual =>
    .concurrency (RepositoryError.conflictingVersion id expected actual).message
  | .missingIdentifier => .incompatible "command produced no aggregate identifier"
  | .store error => ofStore error
  | .domain error => ofDomain error
  | .publish error => .publish error.message

end DispatchError

end EventSourcing
